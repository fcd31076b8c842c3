import StorageMapping.Proofs.Source.Words

namespace StorageMapping.Source.Literal

/-! # Quoted literals and characters

The scanner of a quoted literal never looks beyond its closing quote: what it has read in front of
one text it reads in front of every other. A suffix ends where no letter follows. -/

open Text Lexer

/-- A scanner ends within a front of the text, and then it ends there whatever follows. -/
def Ends {β : Type} (scan : List Char → Option β) (text : List Char) (length : Nat)
    (result : β) : Prop :=
  ∃ front rest, text = front ++ rest ∧ front.length = length ∧
    ∀ more, scan (front ++ more) = some result

variable {family : Family} {text : List Char} {length : Nat}

theorem Ends.step {β γ : Type} {scan : List Char → Option β} {inner : List Char → Option γ}
    {front : List Char} {f : γ → β} {result : γ} (ends : Ends inner text length result)
    (advance : ∀ tail, scan (front ++ tail) = (inner tail).map f) :
    Ends scan (front ++ text) (front.length + length) (f result) := by
  obtain ⟨before, rest, rfl, rfl, ends⟩ := ends
  refine ⟨front ++ before, rest, by simp, by simp, fun more => ?_⟩
  rw [List.append_assoc, advance, ends]
  rfl

/-! ## Quoted literals -/

/-- A scanner of quoted texts that has passed some characters goes on as another one. -/
theorem Ends.quoted {inner outer : List Char → Option (Nat × List Char)}
    (front found : List Char) {result : Nat × List Char}
    (read : ((inner text).map fun (more, tail) => (front.length + more, found ++ tail)) =
      some result)
    (ih : ∀ {result}, inner text = some result → Ends inner text result.1 result)
    (advance : ∀ tail, outer (front ++ tail) =
      (inner tail).map fun (more, tail) => (front.length + more, found ++ tail)) :
    Ends outer (front ++ text) result.1 result := by
  obtain ⟨_, scanned, rfl⟩ := Option.map_eq_some_iff.mp read
  exact (ih scanned).step advance

theorem readQuoted_ends {place : Place} {result : Nat × List Char}
    (read : readQuoted family place text = some result) :
    Ends (readQuoted family place) text result.1 result := by
  fun_induction readQuoted family place text generalizing result with
  | case1 => contradiction
  | case2 code digits rest ih =>
      obtain ⟨c, known, read⟩ := Option.bind_eq_some_iff.mp read
      refine .quoted ['\x7d'] _ read ih fun tail => ?_
      rw [List.cons_append, readQuoted, if_pos rfl, known]
      rfl
  | case3 => contradiction
  | case4 code digits rest nonzero unclosed ih =>
      refine .quoted ['_'] _ read ih fun tail => ?_
      rw [List.cons_append, readQuoted, if_neg unclosed, if_pos rfl, if_neg nonzero]
      rfl
  | case5 code digits c rest unclosed visible ih =>
      obtain ⟨digit, known, read⟩ := Option.bind_eq_some_iff.mp read
      split at read
      · contradiction
      · rename_i few
        refine .quoted [c] _ read (ih digit) fun tail => ?_
        rw [List.cons_append, readQuoted, if_neg unclosed, if_neg visible, known]
        simp only [Option.bind_eq_bind, Option.bind_some, if_neg few]
        rfl
  | case6 rest ih => exact .quoted [' '] _ read ih fun tail => rfl
  | case7 rest ih => exact .quoted ['\t'] _ read ih fun tail => rfl
  | case8 rest ih => exact .quoted ['\n'] _ read ih fun tail => rfl
  | case9 rest ih => exact .quoted ['\r', '\n'] _ read ih fun tail => rfl
  | case10 place rest uncoded =>
      cases read
      refine ⟨['"'], rest, rfl, rfl, fun more => ?_⟩
      rw [List.singleton_append, readQuoted]
      exact uncoded
  | case11 place rest uncoded discontinued ih =>
      refine .quoted ['\r', '\n'] _ read ih fun tail => ?_
      simp only [List.cons_append, List.nil_append]
      rw [readQuoted]
      · rfl
      all_goals assumption
  | case12 => contradiction
  | case13 place high low rest uncoded ih =>
      obtain ⟨c, known, read⟩ := Option.bind_eq_some_iff.mp read
      refine .quoted ['\\', 'x', high, low] _ read ih fun tail => ?_
      simp only [List.cons_append, List.nil_append]
      rw [readQuoted, known]
      · rfl
      · exact uncoded
  | case14 => contradiction
  | case15 place rest uncoded other ih =>
      refine .quoted ['\\', 'u', '\x7b'] _ read ih fun tail => ?_
      simp only [List.cons_append, List.nil_append]
      rw [readQuoted, if_neg other]
      · rfl
      · exact uncoded
  | case16 place rest uncoded ih =>
      refine .quoted ['\\', '\n'] _ read ih fun tail => ?_
      simp only [List.cons_append, List.nil_append]
      rw [readQuoted]
      · rfl
      · exact uncoded
  | case17 place rest uncoded ih =>
      refine .quoted ['\\', '\r', '\n'] _ read ih fun tail => ?_
      simp only [List.cons_append, List.nil_append]
      rw [readQuoted]
      · rfl
      · exact uncoded
  | case18 place c rest uncoded _ _ _ _ ih =>
      obtain ⟨meant, known, read⟩ := Option.bind_eq_some_iff.mp read
      have other : c ≠ 'x' ∧ c ≠ 'u' ∧ c ≠ '\n' ∧ c ≠ '\r' := by
        refine ⟨?_, ?_, ?_, ?_⟩ <;> rintro rfl <;> simp [letterEscape?] at known
      refine .quoted ['\\', c] _ read ih fun tail => ?_
      simp only [List.cons_append, List.nil_append]
      rw [readQuoted, known]
      · rfl
      all_goals first | exact uncoded | simp [other]
  | case19 place c rest uncoded blank tab feed _ quote _ ending _ _ _ _ escape allowed ih =>
      have inside : c ≠ '\\' := by
        rintro rfl
        cases rest with
        | nil => cases read
        | cons d rest => exact escape d rest rfl rfl
      refine .quoted [c] _ read ih fun tail => ?_
      rw [List.singleton_append, readQuoted, if_pos allowed]
      · rfl
      all_goals simp_all
  | case20 => contradiction

theorem readRaw_length {signs : Nat} {result : Nat × List Char}
    (read : readRaw family signs text = some result) : signs < result.1 := by
  fun_induction readRaw family signs text generalizing result with
  | case1 => contradiction
  | case2 rest ih =>
      obtain ⟨inner, found, rfl⟩ := Option.map_eq_some_iff.mp read
      have bound := ih found
      dsimp only
      omega
  | case3 => contradiction
  | case4 =>
      cases read
      exact Nat.lt_succ_self _
  | case5 c rest _ _ _ _ ih =>
      obtain ⟨inner, found, rfl⟩ := Option.map_eq_some_iff.mp read
      have bound := ih found
      dsimp only
      omega
  | case6 => contradiction

theorem readRaw_ends {signs : Nat} {result : Nat × List Char}
    (read : readRaw family signs text = some result) :
    Ends (readRaw family signs) text result.1 result := by
  fun_induction readRaw family signs text generalizing result with
  | case1 => contradiction
  | case2 rest ih => exact .quoted ['\r', '\n'] _ read ih fun tail => rfl
  | case3 => contradiction
  | case4 c rest _ _ closing =>
      cases read
      obtain ⟨rfl, signed⟩ := closing
      obtain ⟨behind, rfl⟩ := List.isPrefixOf_iff_prefix.mp signed
      refine ⟨'"' :: List.replicate signs '#', behind, rfl, by simp, fun more => ?_⟩
      have again : (List.replicate signs '#').isPrefixOf (List.replicate signs '#' ++ more) :=
        List.isPrefixOf_iff_prefix.mpr (List.prefix_append _ _)
      rw [List.cons_append, readRaw, if_pos ⟨rfl, again⟩]
      all_goals simp
  | case5 c rest _ returned outside allowed ih =>
      obtain ⟨inner, found, rfl⟩ := Option.map_eq_some_iff.mp read
      have bound := readRaw_length found
      obtain ⟨front, behind, rfl, length, ends⟩ := ih found
      refine ⟨c :: front, behind, rfl, by simp [length, Nat.add_comm], fun more => ?_⟩
      -- the signs behind a quote that does not end the literal stand before its end
      have unended : ¬ (c = '"' ∧ (List.replicate signs '#').isPrefixOf (front ++ more)) := by
        rintro ⟨quote, signed⟩
        rw [List.isPrefixOf_iff_prefix] at signed
        have inside := List.prefix_of_prefix_length_le signed (List.prefix_append front more)
          (by rw [List.length_replicate]; omega)
        refine outside ⟨quote, List.isPrefixOf_iff_prefix.mpr ?_⟩
        exact inside.trans (List.prefix_append front behind)
      rw [List.cons_append, readRaw, if_neg unended, if_pos allowed, ends]
      · rfl
      all_goals simp [show c ≠ '\r' from returned]
  | case6 => contradiction

theorem readRawFrom_ends {result : Nat × List Char}
    (read : readRawFrom family text = some result) :
    Ends (readRawFrom family) text result.1 result := by
  have before : ∀ c ∈ text.takeWhile (· == '#'), (c == '#') = true := fun _ =>
    List.mem_takeWhile_imp
  have joined := List.takeWhile_append_dropWhile (p := (· == '#')) (l := text)
  rw [readRawFrom] at read
  generalize text.takeWhile (· == '#') = signs at before joined read
  generalize text.dropWhile (· == '#') = behind at joined
  subst joined
  rw [List.drop_left] at read
  split at read
  · rename_i rest
    split at read
    · contradiction
    · rename_i few
      rw [← List.singleton_append, ← List.append_assoc]
      refine .quoted (signs ++ ['"']) [] ?_ (readRaw_ends : ∀ {result},
        readRaw family signs.length rest = some result → _) fun tail => ?_
      · rw [List.length_append]
        exact read
      · have whole : (signs ++ ['"'] ++ tail).takeWhile (· == '#') = signs := by
          rw [List.append_assoc]
          exact takeWhile_append_ended before (by simp)
        have behind : (signs ++ ['"'] ++ tail).drop signs.length = '"' :: tail := by simp
        rw [readRawFrom, whole]
        simp only [behind, if_neg few, List.length_append]
        rfl
  · contradiction

/-- A quoted literal behind its opening marks. -/
theorem Ends.quotes {scan : List Char → Option (Nat × List Char)} (front : List Char)
    {result : Family × Nat × List Char}
    (read : ((scan text).map fun (more, tail) => (front.length + more, tail)).map (family, ·) =
      some result)
    (ends : ∀ {result}, scan text = some result → Ends scan text result.1 result)
    (advance : ∀ tail, read? (front ++ tail) =
      ((scan tail).map fun (more, tail) => (front.length + more, tail)).map (family, ·)) :
    Ends read? (front ++ text) result.2.1 result := by
  obtain ⟨_, stepped, rfl⟩ := Option.map_eq_some_iff.mp read
  obtain ⟨_, scanned, rfl⟩ := Option.map_eq_some_iff.mp stepped
  refine (ends scanned).step (f := fun found => (family, front.length + found.1, found.2))
    fun tail => ?_
  rw [advance, Option.map_map]
  rfl

theorem read?_ends {result : Family × Nat × List Char} (read : read? text = some result) :
    Ends read? text result.2.1 result := by
  unfold read? at read
  split at read
  · exact .quotes ['"'] read readQuoted_ends fun _ => rfl
  · exact .quotes ['r'] read readRawFrom_ends fun _ => rfl
  · exact .quotes ['b', '"'] read readQuoted_ends fun _ => rfl
  · exact .quotes ['b', 'r'] read readRawFrom_ends fun _ => rfl
  · exact .quotes ['c', '"'] read readQuoted_ends fun _ => rfl
  · exact .quotes ['c', 'r'] read readRawFrom_ends fun _ => rfl
  · contradiction

/-! ## Characters -/

/-- A scanner that only counts goes on as another one. -/
theorem Ends.counted {inner outer : List Char → Option Nat} (front : List Char)
    (read : (inner text).map (· + front.length) = some length)
    (ih : ∀ {length}, inner text = some length → Ends inner text length length)
    (advance : ∀ tail, outer (front ++ tail) = (inner tail).map (· + front.length)) :
    Ends outer (front ++ text) length length := by
  obtain ⟨counted, scanned, rfl⟩ := Option.map_eq_some_iff.mp read
  have ends := (ih scanned).step advance
  rwa [Nat.add_comm] at ends

theorem codeLength_ends {value digits : Nat}
    (read : codeLength value digits text = some length) :
    Ends (codeLength value digits) text length length := by
  fun_induction codeLength value digits text generalizing length with
  | case1 => contradiction
  | case2 value digits rest =>
      obtain ⟨c, known, rfl⟩ := Option.map_eq_some_iff.mp read
      refine ⟨['\x7d'], rest, rfl, rfl, fun more => ?_⟩
      rw [List.singleton_append, codeLength, if_pos rfl, known]
      rfl
  | case3 => contradiction
  | case4 value digits rest nonzero unclosed ih =>
      refine .counted ['_'] read ih fun tail => ?_
      rw [List.singleton_append, codeLength, if_neg unclosed, if_pos rfl, if_neg nonzero]
      rfl
  | case5 value digits c rest unclosed visible ih =>
      obtain ⟨digit, known, read⟩ := Option.bind_eq_some_iff.mp read
      split at read
      · contradiction
      · rename_i few
        refine .counted [c] read (ih digit) fun tail => ?_
        rw [List.singleton_append, codeLength, if_neg unclosed, if_neg visible, known]
        simp only [Option.bind_eq_bind, Option.bind_some, if_neg few]
        rfl

theorem unitLength_ends (read : unitLength family text = some length) :
    Ends (unitLength family) text length length := by
  unfold unitLength at read
  split at read
  · rename_i high low rest
    obtain ⟨c, known, rfl⟩ := Option.map_eq_some_iff.mp read
    refine ⟨['\\', 'x', high, low], rest, rfl, rfl, fun more => ?_⟩
    simp [unitLength, known]
  · rename_i rest
    split at read
    · contradiction
    · rename_i other
      refine .counted ['\\', 'u', '\x7b'] read codeLength_ends fun tail => ?_
      simp [unitLength, other]
  · rename_i c rest _ _
    obtain ⟨meant, known, rfl⟩ := Option.map_eq_some_iff.mp read
    have other : c ≠ 'x' ∧ c ≠ 'u' := by
      constructor <;> rintro rfl <;> simp [letterEscape?] at known
    refine ⟨['\\', c], rest, rfl, rfl, fun more => ?_⟩
    simp [unitLength, other, known]
  · contradiction
  · rename_i c rest _ _ escape lone
    split at read
    · rename_i allowed
      cases read
      have inside : c ≠ '\\' := by
        rintro rfl
        cases rest with
        | nil => exact lone rfl rfl
        | cons d rest => exact escape d rest rfl rfl
      refine ⟨[c], rest, rfl, rfl, fun more => ?_⟩
      simp [unitLength, inside, allowed]
    · contradiction
  · contradiction

theorem characterLength_ends (read : characterLength family text = some length) :
    Ends (characterLength family) text length length := by
  obtain ⟨inner, found, read⟩ := Option.bind_eq_some_iff.mp read
  obtain ⟨front, rest, rfl, rfl, ends⟩ := unitLength_ends found
  rw [List.drop_left] at read
  split at read
  · rename_i c rest _
    split at read
    · rename_i quote
      cases read
      refine ⟨front ++ [c], rest, by simp, by simp, fun more => ?_⟩
      rw [characterLength, List.append_assoc, ends]
      simp [quote]
    · contradiction
  · contradiction

theorem quotedCharacterLength_ends (read : quotedCharacterLength text = some length) :
    Ends quotedCharacterLength text length length := by
  unfold quotedCharacterLength at read
  split at read
  · rename_i c rest
    split at read
    · rename_i quote
      refine .counted ['b', c] read characterLength_ends fun tail => ?_
      rw [List.cons_append, List.singleton_append, quotedCharacterLength, if_pos quote]
      rfl
    · contradiction
  · rename_i c rest other
    split at read
    · rename_i quote
      refine .counted [c] read characterLength_ends fun tail => ?_
      have unlettered : c ≠ 'b' := by
        rintro rfl
        exact absurd quote (by decide)
      rw [List.singleton_append, quotedCharacterLength, if_pos quote]
      · rfl
      · simp [unlettered]
    · contradiction
  · contradiction

/-! ## Suffixes -/

variable {front rest more : List Char}

theorem identifierLength_ended (ended : Apart rest) :
    identifierLength (front ++ rest) = identifierLength front := by
  cases front with
  | nil =>
      cases rest with
      | nil => rfl
      | cons c rest =>
          have letter := ended c rfl
          have start : isIdentifierStart c = false := by
            rw [← Bool.not_eq_true] at letter ⊢
            exact fun start => letter (isIdentifierContinue_of_start start)
          simp [identifierLength, start]
  | cons c front =>
      rw [List.cons_append, identifierLength, identifierLength, takeWhile_ended ended]

theorem identifierLength_le (text : List Char) : identifierLength text ≤ text.length := by
  cases text with
  | nil => exact Nat.le_refl _
  | cons c rest =>
      rw [identifierLength]
      split
      · simpa using (List.takeWhile_prefix _).length_le
      · exact Nat.zero_le _

/-- A suffix that was read is read again by itself. -/
theorem identifierLength_take (ended : Apart more) :
    identifierLength (text.take (identifierLength text) ++ more) = identifierLength text := by
  rw [identifierLength_ended ended]
  cases text with
  | nil => rfl
  | cons c rest =>
      rw [identifierLength]
      split
      · rename_i start
        have prefixed := List.prefix_iff_eq_take.mp
          (List.takeWhile_prefix isIdentifierContinue (l := rest))
        rw [List.take_succ_cons, identifierLength, if_pos start, ← prefixed, List.takeWhile_idem]
      · rfl

theorem letters_of_take : ∀ c ∈ text.take (identifierLength text),
    isIdentifierContinue c = true := by
  cases text with
  | nil => simp
  | cons c rest =>
      rw [identifierLength]
      split
      · rename_i start
        have prefixed := List.prefix_iff_eq_take.mp
          (List.takeWhile_prefix isIdentifierContinue (l := rest))
        rw [List.take_succ_cons, ← prefixed]
        exact List.forall_mem_cons.mpr ⟨isIdentifierContinue_of_start start, fun _ =>
          List.mem_takeWhile_imp⟩
      · simp

/-- What ends by itself ends with its suffix, wherever nothing goes on with the suffix. -/
theorem Ends.withSuffix {β : Type} {scan : List Char → Option β} {result : β}
    (ends : Ends scan text length result) :
    ∃ front rest, text = front ++ rest ∧ front.length = withSuffix text length ∧
      ∀ more, Apart more → scan (front ++ more) = some result ∧
        Source.withSuffix (front ++ more) length = front.length := by
  obtain ⟨front, rest, rfl, rfl, ends⟩ := ends
  have bound := identifierLength_le rest
  refine ⟨front ++ rest.take (identifierLength rest), rest.drop (identifierLength rest),
    by simp, by simp [Source.withSuffix, bound], fun more ended => ⟨?_, ?_⟩⟩
  · rw [List.append_assoc, ends]
  · rw [Source.withSuffix, List.append_assoc, List.drop_left, identifierLength_take ended]
    simp [bound]

end StorageMapping.Source.Literal
