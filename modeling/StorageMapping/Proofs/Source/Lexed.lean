import StorageMapping.Proofs.Source.Literals

namespace StorageMapping.Source

/-! # What the lexer reads is tidy

The tokens of a text can be printed and read again: every one of them can be read by itself, and a
joint character was read right before something that continues it. -/

open Text Lexer

namespace Lexer

variable {text : List Char} {position : Position} {done : List Token} {token : Token} {c : Char}

theorem legal_of_lifetime? {name : Identifier} {length : Nat}
    (found : lifetime? text = some (name, length)) : name.Legal := by
  rw [lifetime?.eq_def] at found
  split at found
  · contradiction
  · simp only [Option.bind_eq_bind] at found
    split at found
    · contradiction
    · obtain ⟨⟨known, _⟩, read, found⟩ := Option.bind_eq_some_iff.mp found
      have same : known = name := by
        dsimp only at found
        split at found
        · split at found
          · contradiction
          · exact congrArg Prod.fst (Option.some.inj found)
        · exact congrArg Prod.fst (Option.some.inj found)
      exact same ▸ legal_of_identifier? read

theorem mem_of_isPunctuation (marked : isPunctuation (c :: text) = true) :
    c ∈ punctuationMarks := by
  simp only [isPunctuation, Bool.and_eq_true] at marked
  simpa using marked.2

/-- Two punctuation characters in a row begin no comment. -/
theorem not_comment {d : Char} (marked : isPunctuation (c :: d :: text) = true) :
    ¬ (c = '/' ∧ (d = '/' ∨ d = '*')) := by
  rintro ⟨rfl, rfl | rfl⟩ <;> simp [isPunctuation, startsWith, List.isPrefixOf] at marked

/-- A literal in place of punctuation begins with an apostrophe. -/
theorem head?_take {length : Nat} (found : Literal.length? text = some length)
    (marked : isPunctuation text = true) : (text.take length).head? = some apostrophe := by
  cases text with
  | nil => cases found
  | cons c rest =>
      have quote : c = apostrophe := by
        by_contra other
        exact (mark_closed (mem_of_isPunctuation marked) other).1 (Literal.opens_of_length? found)
      cases length with
      | zero =>
          have empty := Literal.readable_take found [] .nil
          cases empty
      | succ length => simp [quote]

/-- A leaf that was read can be read by itself. It continues a joint character in front of it, and a
joint one stands right before a text that continues it. -/
theorem Leaf.readable {length : Nat} (leaf : Leaf text position token length) :
    token.Readable ∧
      (∀ c, isPunctuation (c :: text) = true → isPunctuation text = true → token.Continues c) ∧
      ∀ c here, token = .punctuation c true here →
        isPunctuation (c :: text.drop length) = true ∧ isPunctuation (text.drop length) = true := by
  cases leaf with
  | literal read =>
      refine ⟨.literal (Literal.readable_take read), fun c _ marked => ?_, by rintro _ _ ⟨⟩⟩
      rw [Token.Continues, String.toList_ofList]
      exact head?_take read marked
  | lifetime marked read =>
      exact ⟨.lifetime (legal_of_lifetime? read), fun _ _ _ => trivial, by rintro _ _ ⟨⟩⟩
  | punctuation held marked other =>
      subst held
      refine ⟨.punctuation (mem_of_isPunctuation marked) other, ?_, ?_⟩
      · exact fun _ joined _ => not_comment joined
      · rintro d here same
        obtain ⟨rfl, joint, _⟩ := Token.punctuation.inj same
        exact ⟨marked, joint⟩
  | word unmarked read =>
      exact ⟨.word (legal_of_identifier? read), fun _ _ marked => absurd marked unmarked,
        by rintro _ _ ⟨⟩⟩

/-- The tokens read so far in a group, the last one first: they are tidy but for the last one, and
the text goes on with it if it is joint. -/
structure Reading (done : List Token) (text : List Char) : Prop where
  readable : ∀ token ∈ done, token.Readable
  spaced : ∀ after, Token.Spaced after → (∀ last ∈ done.head?, last.Admits after.head?) →
    Token.Spaced (done.reverse ++ after)
  awaited : ∀ c here, done.head? = some (.punctuation c true here) →
    isPunctuation (c :: text) = true ∧ isPunctuation text = true

namespace Reading

theorem nil : Reading [] text where
  readable := by simp
  spaced _ after _ := after
  awaited := by simp

/-- Where no punctuation follows, nothing is awaited, and anything may follow. -/
theorem settle (reading : Reading done text) (ended : isPunctuation text = false)
    (other : List Char) : Reading done other where
  readable := reading.readable
  spaced := reading.spaced
  awaited c here held := by
    rw [(reading.awaited c here held).2] at ended
    cases ended

theorem admits (reading : Reading done []) (next : Option Token) :
    ∀ last ∈ done.head?, last.Admits next := by
  intro last member
  cases last with
  | punctuation c joint here =>
      cases joint with
      | false => trivial
      | true => cases (reading.awaited c here member).2
  | _ => trivial

theorem tidy (reading : Reading done []) : Tidy done.reverse where
  readable token member := reading.readable token (List.mem_reverse.mp member)
  spaced := by
    rw [← List.append_nil done.reverse]
    exact reading.spaced [] trivial (reading.admits _)

/-- A token that awaits nothing stands behind others that do not either. -/
theorem push (reading : Reading done []) (readable : token.Readable)
    (ended : token.isJoint = false) : Reading (token :: done) [] where
  readable := List.forall_mem_cons.mpr ⟨readable, reading.readable⟩
  spaced after spaced admits := by
    rw [List.reverse_cons, List.append_assoc]
    exact reading.spaced _ ⟨admits token rfl, spaced⟩ (reading.admits _)
  awaited c here held := by
    cases held
    cases ended

theorem document (reading : Reading done []) (comment : DocComment) (position : Position) :
    Reading ((comment.tokens position).reverse ++ done) [] := by
  have mark : ∀ c ∈ "#!=".toList, (Token.punctuation c false position).Readable := by
    intro c member
    have each : ∀ c ∈ "#!=".toList, c ∈ punctuationMarks ∧ c ≠ apostrophe :=
      List.all_iff_forall_prop.mp (by decide)
    exact .punctuation (each c member).1 (each c member).2
  have doc : (Identifier.plain "doc").Legal := ⟨by decide, nofun⟩
  have word : (Token.word (.plain "doc") position).Readable := .word doc
  have literal : (Token.literal (quoteLiteral (String.ofList comment.text)) position).Readable :=
    .literal (Literal.readable_quoteLiteral _)
  have contents := ((nil.push word rfl).push (mark '=' (by decide)) rfl).push literal rfl
  have group : (Token.group .bracket _ position position).Readable :=
    .group contents.tidy.readable contents.tidy.spaced
  have outer := reading.push (mark '#' (by decide)) rfl
  cases inner : comment.isInner with
  | false => simpa [DocComment.tokens, inner] using outer.push group rfl
  | true =>
      have marked := outer.push (mark '!' (by decide)) rfl
      simpa [DocComment.tokens, inner] using marked.push group rfl

theorem leaf {length : Nat} (reading : Reading done text)
    (found : leaf? text position = some (token, length)) :
    Reading (token :: done) (text.drop length) := by
  obtain ⟨readable, continues, awaited⟩ := (Leaf.of_leaf? found).readable
  refine ⟨List.forall_mem_cons.mpr ⟨readable, reading.readable⟩, fun after spaced admits => ?_,
    fun c here held => awaited c here (Option.some.inj held)⟩
  rw [List.reverse_cons, List.append_assoc]
  refine reading.spaced _ ⟨admits token rfl, spaced⟩ fun last member => ?_
  match last, member with
  | .punctuation c true here, member =>
      obtain ⟨joined, marked⟩ := reading.awaited c here member
      exact ⟨token, rfl, continues c joined marked⟩
  | .punctuation _ false _, _ | .word _ _, _ | .lifetime _ _, _ | .literal _ _, _
  | .group _ _ _ _, _ => trivial

end Reading

theorem starts_of_marked (marked : isPunctuation text = true) : Starts text := by
  cases text with
  | nil => cases marked
  | cons c rest =>
      have visible : ∀ mark ∈ punctuationMarks, isBlank mark = false :=
        List.all_iff_forall_prop.mp (by decide +kernel)
      exact starts_of_isPunctuation marked (visible c (mem_of_isPunctuation marked))

theorem Reading.skip (reading : Reading done text) (fuel : Nat) :
    Reading done (text.drop (blankLength fuel text)) := by
  cases marked : isPunctuation text with
  | true => rwa [(starts_of_marked marked).unblank]
  | false => exact reading.settle marked _

theorem isPunctuation_bracket (bracket : (opening? c).isSome ∨ (closing? c).isSome) :
    isPunctuation (c :: text) = false := by
  rw [← Bool.not_eq_true]
  intro marked
  have each : ∀ mark ∈ punctuationMarks, opening? mark = none ∧ closing? mark = none :=
    List.all_iff_forall_prop.mp (by decide +kernel)
  simp [each c (mem_of_isPunctuation marked)] at bracket

theorem readTokens_tidy {fuel : Nat} {frames : List Frame} {tokens : List Token}
    (read : readTokens fuel frames done position text = some tokens)
    (before : ∀ frame ∈ frames, Reading frame.before []) (here : Reading done text) :
    Tidy tokens := by
  induction fuel generalizing frames done position text with
  | zero => contradiction
  | succ fuel ih =>
      have skipped := here.skip fuel
      rw [readTokens] at read
      dsimp only at read
      generalize text.drop (blankLength fuel text) = rest at read skipped
      split at read
      · rename_i comment found
        have documented : docComment? rest = some comment := (Option.filter_eq_some_iff.mp found).1
        have unmarked : isPunctuation rest = false := by
          rw [← Bool.not_eq_true]
          intro marked
          rw [(starts_of_marked marked).undocumented] at documented
          cases documented
        exact ih read before (((skipped.settle unmarked []).document comment _).settle rfl _)
      · split at read
        · split at read
          · cases read
            exact skipped.tidy
          · contradiction
        · split at read
          · rename_i delimiter opens
            have settled := skipped.settle (isPunctuation_bracket (.inl (by rw [opens]; rfl))) []
            exact ih read (List.forall_mem_cons.mpr ⟨settled, before⟩) .nil
          · split at read
            · rename_i delimiter closes
              have settled := skipped.settle (isPunctuation_bracket (.inr (by rw [closes]; rfl))) []
              split at read
              · rename_i frame outer
                split at read
                · have waiting := before frame List.mem_cons_self
                  refine ih read (fun other member => before other ?_) ?_
                  · exact List.mem_cons_of_mem _ member
                  · exact (waiting.push (.group settled.tidy.readable settled.tidy.spaced)
                      rfl).settle rfl _
                · contradiction
              · contradiction
            · split at read
              · rename_i found
                exact ih read before (skipped.leaf found)
              · contradiction

end Lexer

/-- The tokens of a text are tidy. -/
theorem tokenize_tidy {text : List Char} {tokens : List Token}
    (read : tokenize text = some tokens) : Tidy tokens := by
  rw [tokenize.eq_def] at read
  split at read
  · split at read <;> exact readTokens_tidy read (by simp) .nil
  · cases read
    exact .nil

end StorageMapping.Source
