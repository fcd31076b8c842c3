import StorageMapping.Proofs.Source.Numbers
import StorageMapping.Proofs.Source.Rendering
import StorageMapping.Proofs.Text.Quoting

namespace StorageMapping.Source.Literal

/-! # Literals by themselves

A literal that was read somewhere can be read by itself, and so can the literals of generated
code. -/

open Text Lexer

variable {text rest : List Char} {length : Nat}

theorem read?_character (found : quotedCharacterLength text = some length) :
    read? text = none := by
  unfold quotedCharacterLength at found
  split at found
  · rename_i c rest
    split at found
    · rename_i quote
      have other : c ≠ '"' ∧ c ≠ 'r' := by
        constructor <;> rintro rfl <;> exact absurd quote (by decide)
      unfold read?
      split <;> simp_all
    · contradiction
  · rename_i c rest _
    split at found
    · rename_i quote
      have other : c ∉ ['"', 'r', 'b', 'c'] := by
        intro member
        have each : ∀ mark ∈ ['"', 'r', 'b', 'c'], mark.toNat ≠ 39 :=
          List.all_iff_forall_prop.mp (by decide)
        exact each c member quote
      unfold read?
      split <;> simp_all
    · contradiction
  · contradiction

theorem read?_digit {c : Char} (digit : isDigit c = true) :
    read? (c :: rest) = none ∧ quotedCharacterLength (c :: rest) = none := by
  have other : c ∉ ['"', 'r', 'b', 'c'] ∧ c.toNat ≠ 39 := by
    constructor
    · intro member
      have each : ∀ mark ∈ ['"', 'r', 'b', 'c'], isDigit mark = false :=
        List.all_iff_forall_prop.mp (by decide)
      rw [each c member] at digit
      cases digit
    · intro quote
      have same : c = apostrophe := by rw [apostrophe, ← quote, Char.ofNat_toNat]
      subst same
      exact absurd digit (by decide)
  constructor
  · unfold read?
    split <;> simp_all
  · unfold quotedCharacterLength
    split <;> simp_all

theorem digit_of_decimalLength (found : decimalLength text = some length) :
    ∃ c rest, text = c :: rest ∧ isDigit c = true := by
  cases text with
  | nil => cases found
  | cons c rest =>
      refine ⟨c, rest, rfl, ?_⟩
      by_contra letter
      rw [decimalLength_eq_none (by simpa using letter)] at found
      cases found

theorem digit_of_integerLength (found : integerLength text = some length) :
    ∃ c rest, text = c :: rest ∧ isDigit c = true := by
  cases text with
  | nil => cases found
  | cons c rest =>
      refine ⟨c, rest, rfl, ?_⟩
      by_contra letter
      rw [integerLength_eq_none (by simpa using letter)] at found
      cases found

/-- A number is read by its first way that ends as a number does. -/
theorem length?_decimal {whole : Nat} (found : decimalLength text = some length)
    (ended : endNumber text length = some whole) : length? text = some whole := by
  obtain ⟨c, rest, rfl, digit⟩ := digit_of_decimalLength found
  rw [length?, (read?_digit digit).1, (read?_digit digit).2, found]
  simp [ended]

theorem length?_integer {whole : Nat}
    (undecimal : (decimalLength text).bind (endNumber text) = none)
    (found : integerLength text = some length) (ended : endNumber text length = some whole) :
    length? text = some whole := by
  obtain ⟨c, rest, rfl, digit⟩ := digit_of_integerLength found
  rw [length?, (read?_digit digit).1, (read?_digit digit).2, undecimal, found]
  simp [ended]

/-- A literal ends within a front of the text, and then it ends there before every break. -/
def EndsAtBreaks (text : List Char) (length : Nat) : Prop :=
  ∃ front rest, text = front ++ rest ∧ front.length = length ∧
    ∀ more, Break more → length? (front ++ more) = some length

theorem endsAtBreaks_quoted {result : Family × Nat × List Char}
    (quoted : read? text = some result) : EndsAtBreaks text (withSuffix text result.2.1) := by
  obtain ⟨front, rest, same, ended, again⟩ := (read?_ends quoted).withSuffix
  refine ⟨front, rest, same, ended, fun more broken => ?_⟩
  obtain ⟨read, suffixed⟩ := again more broken.letters
  rw [length?, read]
  simp [suffixed, ended]

theorem endsAtBreaks_character (found : quotedCharacterLength text = some length) :
    EndsAtBreaks text (withSuffix text length) := by
  obtain ⟨front, rest, same, ended, again⟩ := (quotedCharacterLength_ends found).withSuffix
  refine ⟨front, rest, same, ended, fun more broken => ?_⟩
  obtain ⟨read, suffixed⟩ := again more broken.letters
  rw [length?, read?_character read, read]
  simp [suffixed, ended]

theorem endsAtBreaks_decimal {whole : Nat} (found : decimalLength text = some length)
    (ended : endNumber text length = some whole) : EndsAtBreaks text whole := by
  obtain ⟨front, rest, rfl, rfl, within, apart, _⟩ :=
    endNumber_eq_some (decimalLength_le found) ended
  refine ⟨front, rest, rfl, rfl, fun more broken => ?_⟩
  refine length?_decimal (decimalLength_break broken apart found within) ?_
  rw [endNumber_ended within broken.letters, ← endNumber_ended within apart, ended]

/-- Letters in front of a break are a decimal number only where they were one before. -/
theorem undecimal_break {front more : List Char} (broken : Break more) (apart : Apart rest)
    (letters : ∀ c ∈ front, isIdentifierContinue c = true)
    (undecimal : (decimalLength (front ++ rest)).bind (endNumber (front ++ rest)) = none) :
    (decimalLength (front ++ more)).bind (endNumber (front ++ more)) = none := by
  rw [Option.eq_none_iff_forall_ne_some]
  intro other found
  obtain ⟨count, counted, ended⟩ := Option.bind_eq_some_iff.mp found
  obtain ⟨again, inside⟩ := decimalLength_letters broken apart letters counted
  rw [endNumber_ended inside broken.letters, ← endNumber_ended inside apart] at ended
  rw [again, Option.bind_some, ended] at undecimal
  cases undecimal

theorem endsAtBreaks_integer {whole : Nat}
    (undecimal : (decimalLength text).bind (endNumber text) = none)
    (found : integerLength text = some length) (ended : endNumber text length = some whole) :
    EndsAtBreaks text whole := by
  obtain ⟨bound, digits⟩ := integerLength_letters found
  obtain ⟨front, rest, rfl, rfl, within, apart, suffix⟩ := endNumber_eq_some bound ended
  have letters : ∀ c ∈ front, isIdentifierContinue c = true := by
    intro c member
    rw [← List.take_append_drop length front, List.mem_append] at member
    rw [List.take_append_of_le_length within] at digits
    exact member.elim (digits c) (suffix c)
  have present : front ≠ [] := by
    rintro rfl
    obtain ⟨c, _, rfl, digit⟩ := digit_of_integerLength found
    have letter := isIdentifierContinue_of_digit digit
    rw [apart c rfl] at letter
    cases letter
  refine ⟨front, rest, rfl, rfl, fun more broken => ?_⟩
  have read : integerLength (front ++ more) = some length := by
    rw [integerLength_ended broken.letters present, ← integerLength_ended apart present, found]
  refine length?_integer (undecimal_break broken apart letters undecimal) read ?_
  rw [endNumber_ended within broken.letters, ← endNumber_ended within apart, ended]

theorem length?_ends (found : length? text = some length) : EndsAtBreaks text length := by
  -- One case for each way of reading, in the order in which they are tried.
  rw [length?] at found
  cases quoted : read? text with
  | some result =>
      rw [quoted] at found
      cases found
      exact endsAtBreaks_quoted quoted
  | none =>
      cases character : quotedCharacterLength text with
      | some inner =>
          rw [quoted, character] at found
          cases found
          exact endsAtBreaks_character character
      | none =>
          rw [quoted, character] at found
          cases decimal : (decimalLength text).bind (endNumber text) with
          | some whole =>
              rw [decimal] at found
              cases found
              obtain ⟨inner, read, ended⟩ := Option.bind_eq_some_iff.mp decimal
              exact endsAtBreaks_decimal read ended
          | none =>
              rw [decimal] at found
              obtain ⟨inner, read, ended⟩ := Option.bind_eq_some_iff.mp found
              exact endsAtBreaks_integer decimal read ended

theorem readable_of_length? {text : String}
    (found : length? text.toList = some text.toList.length) : Readable text := by
  obtain ⟨front, rest, split, ended, again⟩ := length?_ends found
  have whole : front = text.toList := by
    rw [split, List.length_append] at ended
    rw [split, List.length_eq_zero_iff.mp (by omega : rest.length = 0), List.append_nil]
  intro more broken
  rw [← whole, again more broken, whole]

/-- A literal that was read can be read by itself. -/
theorem readable_take (found : length? text = some length) :
    Readable (String.ofList (text.take length)) := by
  obtain ⟨front, rest, rfl, rfl, again⟩ := length?_ends found
  intro more ended
  rw [List.take_left, String.toList_ofList]
  exact again more ended

/-! ## Written literals -/

theorem readable_quoteLiteral (value : String) : Readable (quoteLiteral value) := by
  refine readable_of_length? ?_
  rw [length?, read?_quoteLiteral]
  simp [Source.withSuffix, identifierLength]

theorem digitsLength_digit {c : Char} {empty : Bool} (digit : isDigit c = true) :
    digitsLength 10 empty (c :: rest) = (digitsLength 10 false rest).map (· + 1) := by
  have underscore : c ≠ '_' := by
    rintro rfl
    exact absurd digit (by decide)
  have number : c.isDigit = true := digit
  have small : c.toNat - '0'.toNat < 10 := by
    obtain ⟨_, high⟩ : 48 ≤ c.toNat ∧ c.toNat ≤ 57 := by
      simpa [Char.isDigit, UInt32.le_iff_toNat_le] using number
    change c.toNat - 48 < 10
    omega
  simp only [digitsLength, if_neg underscore, hexValue?, number, if_true, if_pos small]

theorem digitsLength_digits {digits : List Char} (all : ∀ c ∈ digits, isDigit c = true)
    (ended : ∀ c ∈ rest.head?, hexValue? c = none ∧ c ≠ '_') :
    digitsLength 10 false (digits ++ rest) = some digits.length := by
  induction digits with
  | nil =>
      cases rest with
      | nil => rfl
      | cons c rest => simp [digitsLength, ended c rfl]
  | cons c digits ih =>
      rw [List.cons_append, digitsLength_digit (all c List.mem_cons_self),
        ih fun d member => all d (List.mem_cons_of_mem c member)]
      rfl

/-- Digits with no point and no exponent behind them are no decimal number. -/
theorem decimalLength_digits {digits : List Char} (all : ∀ c ∈ digits, isDigit c = true)
    (ended : ∀ c ∈ rest.head?, hexValue? c = none ∧ c ≠ '_' ∧ c ≠ '.')
    (unraised : exponentPart rest = none) : decimalLength (digits ++ rest) = none := by
  have counted : ∀ c ∈ digits, isDigitOrUnderscore c = true := fun c member => by
    rw [isDigitOrUnderscore, all c member]
    rfl
  have behind : ∀ c ∈ rest.head?, isDigitOrUnderscore c = false := by
    intro c member
    obtain ⟨digitless, underscore, _⟩ := ended c member
    have letter : isDigit c = false := by
      rw [← Bool.not_eq_true]
      intro digit
      have number : c.isDigit = true := digit
      simp [hexValue?, number] at digitless
    simp [isDigitOrUnderscore, letter, underscore]
  have point : decimalPart rest = none := by
    cases rest with
    | nil => rfl
    | cons c rest =>
        rw [decimalPart_cons, unraised]
        exact (ended c rfl).2.2
  rw [decimalLength_eq, dropWhile_ended behind, List.dropWhile_eq_nil_iff.mpr counted,
    List.nil_append, point]
  split <;> rfl

/-- Digits are read to their end where nothing behind them is a digit or the mark of a base. -/
theorem integerLength_digits {digits : List Char} (present : digits ≠ [])
    (all : ∀ c ∈ digits, isDigit c = true)
    (ended : ∀ c ∈ rest.head?, hexValue? c = none ∧ c ≠ '_' ∧ c ≠ 'x' ∧ c ≠ 'o') :
    integerLength (digits ++ rest) = some digits.length := by
  obtain ⟨c, digits, rfl⟩ := List.exists_cons_of_ne_nil present
  have behind : ∀ c ∈ rest.head?, hexValue? c = none ∧ c ≠ '_' := fun c member =>
    ⟨(ended c member).1, (ended c member).2.1⟩
  have read : digitsLength 10 true (c :: (digits ++ rest)) = some (digits.length + 1) := by
    rw [digitsLength_digit (all c List.mem_cons_self),
      digitsLength_digits (fun d member => all d (List.mem_cons_of_mem c member)) behind]
    rfl
  have unmarked : ∀ d ∈ (digits ++ rest).head?, d ≠ 'x' ∧ d ≠ 'o' ∧ d ≠ 'b' := by
    intro d head
    cases digits with
    | nil =>
        obtain ⟨digitless, _, hexadecimal, octal⟩ := ended d head
        refine ⟨hexadecimal, octal, ?_⟩
        rintro rfl
        exact absurd digitless (by decide)
    | cons first digits =>
        obtain rfl : first = d := Option.some.inj head
        have digit := all first (by simp)
        refine ⟨?_, ?_, ?_⟩ <;> rintro rfl <;> exact absurd digit (by decide)
  rw [List.cons_append]
  cases next : digits ++ rest with
  | nil =>
      rw [next] at read
      rw [integerLength, read]
      · rfl
      all_goals simp
  | cons d others =>
      rw [next] at read unmarked
      rwa [integerLength_decimal fun _ => unmarked d rfl]

/-- Digits with a suffix that does not go on with them are a number. -/
theorem length?_digits {digits : List Char} {whole : Nat} (present : digits ≠ [])
    (all : ∀ c ∈ digits, isDigit c = true)
    (ended : ∀ c ∈ rest.head?, hexValue? c = none ∧ c ∉ ['_', 'x', 'o', '.'])
    (unraised : exponentPart rest = none)
    (suffix : endNumber (digits ++ rest) digits.length = some whole) :
    length? (digits ++ rest) = some whole := by
  simp only [List.mem_cons, List.not_mem_nil, or_false, not_or] at ended
  have undecimal : decimalLength (digits ++ rest) = none := by
    refine decimalLength_digits all (fun c member => ?_) unraised
    obtain ⟨digitless, underscore, _, _, point⟩ := ended c member
    exact ⟨digitless, underscore, point⟩
  have integer : integerLength (digits ++ rest) = some digits.length := by
    refine integerLength_digits present all fun c member => ?_
    obtain ⟨digitless, underscore, hexadecimal, octal, _⟩ := ended c member
    exact ⟨digitless, underscore, hexadecimal, octal⟩
  exact length?_integer (by rw [undecimal]; rfl) integer suffix

theorem readable_digits {text : String} (filled : text ≠ "")
    (digits : ∀ c ∈ text.toList, isDigit c = true) : Readable text := by
  refine readable_of_length? ?_
  rw [← List.append_nil text.toList]
  refine length?_digits ?_ digits (by simp) rfl ?_
  · rwa [ne_eq, String.toList_eq_nil_iff]
  · simp [endNumber, Source.withSuffix, identifierLength]

/-- A count with its type is a literal. -/
theorem readable_counted (count : Nat) : Readable (toString count ++ "usize") := by
  have all : ∀ c ∈ Nat.toDigits 10 count, isDigit c = true := fun c member =>
    Nat.isDigit_of_mem_toDigits (by decide) (by decide) member
  have suffix : "usize".toList = ['u', 's', 'i', 'z', 'e'] := by decide
  have letters : identifierLength ['u', 's', 'i', 'z', 'e'] = 5 := by decide
  refine readable_of_length? ?_
  rw [String.toList_append, Nat.toString_eq_repr, Nat.toList_repr, suffix]
  refine length?_digits Nat.toDigits_ne_nil all ?_ (by decide) ?_
  · rintro _ ⟨⟩
    decide
  · simp [endNumber, Source.withSuffix, letters]

end StorageMapping.Source.Literal
