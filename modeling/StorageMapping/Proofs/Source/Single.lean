import StorageMapping.Proofs.Source.Tidying

namespace StorageMapping.Source

/-! # Files of a single definition

A text that is a struct, an enum or a union is also a file that holds this one item. A file may
begin with things that a definition cannot: the name of an interpreter, and attributes of the whole
file. Both are told by an exclamation mark behind the first sign. -/

open Lexer StorageMapping.Source.Parser

/-- Do the tokens begin as an attribute of what encloses them? -/
def Tokens.opensInner (tokens : Tokens) : Bool :=
  tokens.atOperator "#" && (tokens.skip 1).atOperator "!"

/-! ## The first tokens of a text -/

namespace Lexer

variable {done later : List Token} {tokens : Tokens} {frames : List Frame} {rest text : List Char}

/-- What was read outside of all groups, last token first. -/
def outermost (done : List Token) : List Frame → List Token
  | [] => done
  | frame :: outer => outermost frame.before outer

theorem prefix_of_longer (more : done <:+ later) : ∀ {frames : List Frame},
    (outermost later frames).reverse <+: tokens → (outermost done frames).reverse <+: tokens
  | [], found => (List.reverse_prefix.mpr more).trans found
  | _ :: _, found => found

/-- The tokens of a text begin with those that were read already. -/
theorem outermost_prefix {fuel : Nat} {position : Position}
    (read : readTokens fuel frames done position text = some tokens) :
    (outermost done frames).reverse <+: tokens := by
  induction fuel generalizing frames done position text with
  | zero => contradiction
  | succ fuel ih =>
      rw [readTokens] at read
      dsimp only at read
      split at read
      · exact prefix_of_longer (List.suffix_append _ _) (ih read)
      · split at read
        · split at read
          · rename_i closed
            cases read
            rw [List.isEmpty_iff.mp closed]
            exact List.prefix_refl _
          · contradiction
        · split at read
          · -- what was read so far waits in the frame of the group
            have found := ih read
            exact found
          · split at read
            · split at read
              · rename_i frame outer
                split at read
                · change (outermost frame.before outer).reverse <+: tokens
                  exact prefix_of_longer (List.suffix_cons _ _) (ih read)
                · contradiction
              · contradiction
            · split at read
              · exact prefix_of_longer (List.suffix_cons _ _) (ih read)
              · contradiction

/-- A sign and an exclamation mark are the first two tokens of a text that begins with them. -/
theorem opensInner_of_tokenize (read : tokenize ('#' :: '!' :: rest) = some tokens) :
    tokens.opensInner = true := by
  have mark : isPunctuation ('!' :: rest) = true := isPunctuation_cons (by decide) (by simp)
  have sign : isPunctuation ('#' :: '!' :: rest) = true := isPunctuation_cons (by decide) (by simp)
  have first := leaf?_punctuation (by decide) (by decide) sign .start
  have second := leaf?_punctuation (by decide) (by decide) mark (Position.start.advance ['#'])
  rw [mark] at first
  rw [tokenize, if_neg (by decide), List.length_cons,
    readTokens_leaf (starts_of_marked sign) (by decide) first] at read
  simp only [List.length_cons, List.take_succ_cons, List.take_zero, List.drop_succ_cons,
    List.drop_zero] at read
  rw [readTokens_leaf (starts_of_marked mark) (by decide) second] at read
  obtain ⟨behind, rfl⟩ := outermost_prefix read
  rfl

end Lexer

/-! ## Steps of the two parsers -/

namespace Parser

variable {α : Type} {state next : ParserState} {parser : Parser α} {value : α}

/-- An operator of one character is one token. -/
theorem operator_takes_one {operator : String} {c : Char} (single : operator.toList = [c])
    (parsed : Parser.operator operator state = .ok ((), next)) :
    next.rest = state.rest.skip 1 := by
  have found := operator_eq_ok parsed
  rw [single] at found
  obtain ⟨_, _, _, held⟩ := Token.head_of_afterOperator? found
  rw [held, Tokens.afterOperator?, if_pos rfl] at found
  rw [held, ← Option.some.inj found]
  rfl

/-- What takes everything there is comes once. -/
theorem manyWhile_once (parsed : parser state = .ok (value, next)) (filled : state.rest ≠ [])
    (ended : next.rest = []) :
    manyWhile (!·.isEmpty) parser state = .ok ([value], next) := by
  obtain ⟨head, tail, held⟩ := List.exists_cons_of_ne_nil filled
  have one : manyWhile (!·.isEmpty) parser state =
      manyWithin (do
        if !(← ahead).isEmpty then return some (← parser) else return none) (tail.length + 2)
        state := by
    change manyWithin _ (state.rest.length + 1) state = _
    rw [held, List.length_cons]
  rw [one, manyWithin]
  refine bind_eq_ok.mpr ⟨some value, next, ?_, bind_eq_ok.mpr ⟨[], next, ?_, rfl⟩⟩
  · have filled : (!state.rest.isEmpty) = true := by simp [held]
    refine bind_eq_ok.mpr ⟨_, _, ahead_eq_ok.mpr ⟨rfl, rfl⟩, ite_eq_ok.mpr (.inl ⟨filled, ?_⟩)⟩
    exact bind_eq_ok.mpr ⟨value, next, parsed, rfl⟩
  · refine bind_eq_ok.mpr ⟨none, next, bind_eq_ok.mpr ⟨_, _, ahead_eq_ok.mpr ⟨rfl, rfl⟩, ?_⟩, rfl⟩
    exact ite_eq_ok.mpr (.inr ⟨by simp [ended], rfl⟩)

end Parser

namespace Grammar

variable {g : Grammar} {state marked headed next : ParserState} {attributes : List Attribute}

/-- A definition has attributes of its own only. -/
theorem opensInner_of_outerAttributes
    (parsed : g.outerAttributes state = .ok (attributes, next)) :
    Tokens.opensInner state.rest = false := by
  rw [← Bool.not_eq_true]
  intro opens
  obtain ⟨sign, mark⟩ := Bool.and_eq_true_iff.mp opens
  replace parsed := ahead_bind_eq_ok.mp parsed
  obtain ⟨found, _, stepped, _⟩ := bind_eq_ok.mp parsed
  replace stepped := ahead_bind_eq_ok.mp stepped
  rcases ite_eq_ok.mp stepped with ⟨_, stepped⟩ | ⟨unsigned, _⟩
  · obtain ⟨_, _, attributed, _⟩ := bind_eq_ok.mp stepped
    obtain ⟨_, behind, signed, body⟩ := bind_eq_ok.mp attributed
    obtain ⟨_, _, _, _, held, _⟩ := group_eq_ok body
    have single : "#".toList = ['#'] := by decide
    rw [← operator_takes_one single signed, held] at mark
    cases mark
  · exact unsigned sign

theorem opensDefinition_of_deriveInput {input : DeriveInput}
    (parsed : g.deriveInput attributes state = .ok (input, next)) :
    opensDefinition state.rest = true := by
  obtain ⟨_, _, first, parsed⟩ := bind_eq_ok.mp parsed
  rcases ite_eq_ok.mp parsed with ⟨accepted, _⟩ | ⟨declined, parsed⟩
  · simp [opensDefinition, Tokens.atOneOf, (acceptWord_eq_ok first).1 accepted]
  rw [(acceptWord_eq_ok first).2 declined] at parsed
  obtain ⟨_, _, second, parsed⟩ := bind_eq_ok.mp parsed
  rcases ite_eq_ok.mp parsed with ⟨accepted, _⟩ | ⟨declined, parsed⟩
  · simp [opensDefinition, Tokens.atOneOf, (acceptWord_eq_ok second).1 accepted]
  rw [(acceptWord_eq_ok second).2 declined] at parsed
  obtain ⟨_, _, third, parsed⟩ := bind_eq_ok.mp parsed
  rcases ite_eq_ok.mp parsed with ⟨accepted, parsed⟩ | ⟨_, parsed⟩
  · obtain ⟨found, behind⟩ := (acceptWord_eq_ok third).1 accepted
    obtain ⟨_, _, body, parsed⟩ := bind_eq_ok.mp parsed
    obtain ⟨_, rfl⟩ := pure_eq_ok.mp body
    obtain ⟨_, _, named, _⟩ := bind_eq_ok.mp parsed
    obtain ⟨isName, _, held⟩ := name_eq_ok named
    have follows := behind.symm.trans held
    simp [opensDefinition, found, follows, Tokens.atName, isName]
  · obtain ⟨_, _, failed, _⟩ := bind_eq_ok.mp parsed
    exact absurd failed failWanting_ne_ok

/-- A definition is an item where it stands among others. -/
theorem oneItem_eq_data {isPublic : Bool} {input : DeriveInput}
    (attributed : g.outerAttributes state = .ok (attributes, marked))
    (visible : visibility marked = .ok (isPublic, headed))
    (parsed : g.deriveInput attributes headed = .ok (input, next)) :
    g.oneItem state = .ok (.data input.item, next) := by
  have opens := opensDefinition_of_deriveInput parsed
  refine bind_eq_ok.mpr ⟨attributes, marked, attributed, bind_eq_ok.mpr ⟨isPublic, headed, visible,
    bind_eq_ok.mpr ⟨headed.rest, headed, ahead_eq_ok.mpr ⟨rfl, rfl⟩, ?_⟩⟩⟩
  obtain ⟨word, listed, plain⟩ : ∃ word ∈ ["struct", "enum", "union"], ∀ other,
      Tokens.atWord other headed.rest = (word == other) := by
    rcases Bool.or_eq_true_iff.mp opens with listed | united
    · obtain ⟨word, member, found⟩ := List.any_eq_true.mp listed
      exact ⟨word, List.mem_append_left ["union"] member, fun _ => atWord_of_atWord found⟩
    · exact ⟨"union", by simp, fun _ => atWord_of_atWord (Bool.and_eq_true_iff.mp united).1⟩
  have completed : (do return .data (← g.definition attributes) : Parser Item) headed =
      .ok (.data input.item, next) :=
    bind_eq_ok.mpr ⟨input.item, next, definition_eq_ok.mpr ⟨input, rfl, parsed⟩, rfl⟩
  have other : ∀ other ∉ ["struct", "enum", "union"], Tokens.atWord other headed.rest = false := by
    intro other unlisted
    rw [plain, beq_eq_false_iff_ne]
    exact fun same => unlisted (same ▸ listed)
  have function : atFunction false headed.rest = false := by
    simp [atFunction, other]
  unfold opensDefinition at opens
  simp (disch := decide) only [function, other, opens, Bool.false_eq_true, if_false, if_true]
  exact completed

theorem innerAttributes_eq_nil (outer : Tokens.opensInner state.rest = false) :
    g.innerAttributes state = .ok ([], state) := by
  refine bind_eq_ok.mpr ⟨_, _, ahead_eq_ok.mpr ⟨rfl, rfl⟩, ?_⟩
  rw [manyWithin]
  refine bind_eq_ok.mpr ⟨none, state, bind_eq_ok.mpr ⟨_, _, ahead_eq_ok.mpr ⟨rfl, rfl⟩, ?_⟩, rfl⟩
  exact ite_eq_ok.mpr (.inr ⟨(Bool.eq_false_iff.mp outer ·), rfl⟩)

end Grammar

/-! ## Texts -/

namespace Reader

theorem dropInterpreter_eq_self {text : List Char} {tokens : Tokens}
    (read : tokenize text = some tokens) (outer : tokens.opensInner = false) :
    dropInterpreter text = text := by
  rw [dropInterpreter.eq_def]
  split
  · rw [opensInner_of_tokenize read] at outer
    cases outer
  · rfl

/-- A file with neither a byte order mark nor the name of an interpreter. -/
theorem file_eq_parseAll {text : String} (unmarked : text.toList.head? ≠ some byteOrderMark)
    (plain : dropInterpreter text.toList = text.toList) :
    file text = parseAll (fun g => do
      let _ ← g.innerAttributes
      manyWhile (!·.isEmpty) g.oneItem) text := by
  rw [file]
  cases held : text.toList with
  | nil =>
      dsimp only
      rw [← held, plain, String.ofList_toList]
  | cons c rest =>
      have other : c ≠ byteOrderMark := fun same => unmarked (by rw [held, same]; rfl)
      dsimp only
      rw [if_neg other, ← held, plain, String.ofList_toList]

/-- A definition is a file that holds just this item. A byte order mark is no part of it. -/
theorem file_of_definition {text : String} {input : DeriveInput}
    (unmarked : text.toList.head? ≠ some byteOrderMark)
    (read : Reader.definition text = .ok input) :
    Reader.file text = .ok [.data input.item] := by
  rw [definition, parseAll] at read
  split at read
  · cases read
  rename_i tokens tokenized
  obtain ⟨written, completed⟩ := runAll_eq_ok.mp read
  obtain ⟨attributes, marked, attributed, behind⟩ := bind_eq_ok.mp completed
  obtain ⟨isPublic, headed, visible, defined⟩ := bind_eq_ok.mp behind
  have outer := Grammar.opensInner_of_outerAttributes attributed
  have filled : tokens ≠ [] := by
    rintro rfl
    have suffix : headed.rest <:+ [] := (Forward.suffix visible).trans (Forward.suffix attributed)
    have opens := Grammar.opensDefinition_of_deriveInput defined
    rw [List.suffix_nil.mp suffix] at opens
    cases opens
  have one := manyWhile_once (Grammar.oneItem_eq_data attributed visible defined) filled rfl
  rw [file_eq_parseAll unmarked (dropInterpreter_eq_self tokenized outer), parseAll, tokenized]
  exact runAll_eq_ok.mpr ⟨written,
    bind_eq_ok.mpr ⟨[], _, Grammar.innerAttributes_eq_nil outer, one⟩⟩

end Reader

end StorageMapping.Source
