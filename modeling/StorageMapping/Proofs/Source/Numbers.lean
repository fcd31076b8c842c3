import StorageMapping.Proofs.Source.Quotes

namespace StorageMapping.Source.Literal

/-! # Numbers

The scanner of a number looks beyond its end, for a point, for the sign of an exponent and for
letters. So a number that was read in front of one text is read again before a break, where none of
them can follow. -/

open Text Lexer

variable {text front rest more : List Char} {length : Nat}

/-- The end of a number does not depend on what follows it. -/
theorem endNumber_ended (within : length ≤ front.length) (ended : Apart rest) :
    endNumber (front ++ rest) length = endNumber front length := by
  have bound := identifierLength_le (front.drop length)
  rw [List.length_drop] at bound
  have same : Source.withSuffix (front ++ rest) length = Source.withSuffix front length := by
    rw [Source.withSuffix, List.drop_append_of_le_length within, identifierLength_ended ended,
      Source.withSuffix]
  have behind : (front ++ rest).drop (Source.withSuffix front length) =
      front.drop (Source.withSuffix front length) ++ rest :=
    List.drop_append_of_le_length (by rw [Source.withSuffix]; omega)
  rw [endNumber, same, behind, endNumber]
  cases front.drop (Source.withSuffix front length) with
  | nil =>
      cases rest with
      | nil => rfl
      | cons c rest => simp [ended c rfl]
  | cons c front => rfl

/-- A number ends with its suffix, and nothing goes on with it. -/
theorem endNumber_eq_some {whole : Nat} (within : length ≤ text.length)
    (found : endNumber text length = some whole) :
    ∃ front rest, text = front ++ rest ∧ front.length = whole ∧ length ≤ whole ∧ Apart rest ∧
      (∀ c ∈ front.drop length, isIdentifierContinue c = true) := by
  have bound := identifierLength_le (text.drop length)
  rw [List.length_drop] at bound
  rw [endNumber] at found
  split at found
  · contradiction
  · rename_i unended
    cases found
    refine ⟨text.take (Source.withSuffix text length), text.drop (Source.withSuffix text length),
      (List.take_append_drop _ _).symm, ?_, ?_, ?_, ?_⟩
    · rw [List.length_take, Source.withSuffix]
      omega
    · rw [Source.withSuffix]
      omega
    · intro c member
      rw [member] at unended
      simpa using unended
    · rw [Source.withSuffix, List.drop_take, Nat.add_sub_cancel_left]
      exact letters_of_take

/-- One character of an exponent is passed, ends it or is wrong, whatever follows. -/
theorem exponentLength_cons (signed valued : Bool) (c : Char) :
    (∃ signed' valued', ∀ rest, exponentLength signed valued (c :: rest) =
      (exponentLength signed' valued' rest).map (· + 1)) ∨
    ∃ result, (result = none ∨ valued = true ∧ result = some 0) ∧
      ∀ rest, exponentLength signed valued (c :: rest) = result := by
  by_cases sign : c = '+' ∨ c = '-'
  · simp only [exponentLength, if_pos sign]
    cases valued with
    | true => exact .inr ⟨some 0, by simp, fun _ => rfl⟩
    | false =>
        cases signed with
        | true => exact .inr ⟨none, by simp, fun _ => rfl⟩
        | false => exact .inl ⟨true, false, fun _ => rfl⟩
  · simp only [exponentLength, if_neg sign]
    by_cases digit : isDigit c = true
    · simp only [if_pos digit]
      exact .inl ⟨signed, true, fun _ => rfl⟩
    · simp only [if_neg digit]
      by_cases underscore : c = '_'
      · simp only [if_pos underscore]
        exact .inl ⟨signed, valued, fun _ => rfl⟩
      · simp only [if_neg underscore]
        cases valued with
        | true => exact .inr ⟨some 0, by simp, fun _ => rfl⟩
        | false => exact .inr ⟨none, by simp, fun _ => rfl⟩

theorem exponentLength_le {signed valued : Bool}
    (found : exponentLength signed valued text = some length) : length ≤ text.length := by
  induction text generalizing signed valued length with
  | nil => cases valued <;> simp_all [exponentLength]
  | cons c rest ih =>
      rcases exponentLength_cons signed valued c with ⟨_, _, passed⟩ | ⟨_, ended, passed⟩
      · obtain ⟨_, counted, rfl⟩ := Option.map_eq_some_iff.mp (passed rest ▸ found)
        exact Nat.succ_le_succ (ih counted)
      · rw [passed] at found
        simp_all

theorem exponentLength_apart {signed : Bool} (apart : Apart rest) :
    exponentLength signed true rest = some 0 := by
  cases rest with
  | nil => rfl
  | cons c rest =>
      have letter := apart c rfl
      have digit : isDigit c = false := by
        rw [← Bool.not_eq_true] at letter ⊢
        exact fun digit => letter (isIdentifierContinue_of_digit digit)
      have underscore : c ≠ '_' := by
        rintro rfl
        exact absurd letter (by decide)
      simp [exponentLength, digit, underscore]

theorem exponentLength_break {signed : Bool} (ended : Break more) :
    exponentLength signed false more = none := by
  cases more with
  | nil => rfl
  | cons c more =>
      have each : ∀ mark ∈ breakMarks, ¬ (mark = '+' ∨ mark = '-') ∧ isDigit mark = false ∧
          mark ≠ '_' :=
        List.all_iff_forall_prop.mp (by decide)
      obtain ⟨sign, digit, underscore⟩ := each c (ended c rfl)
      simp [exponentLength, sign, digit, underscore]

theorem valued_of_exponentLength {signed valued : Bool}
    (found : exponentLength signed valued text = some 0) : valued = true := by
  cases text with
  | nil => cases valued <;> simp_all [exponentLength]
  | cons c rest =>
      rcases exponentLength_cons signed valued c with ⟨_, _, passed⟩ | ⟨_, ended, passed⟩
      · rw [passed] at found
        obtain ⟨_, _, absurd⟩ := Option.map_eq_some_iff.mp found
        cases absurd
      · rw [passed] at found
        simp_all

/-- An exponent inside a front is the same before a break and before anything apart. -/
theorem exponentLength_ended {signed valued : Bool} (ended : Break more) (apart : Apart rest)
    (within : length ≤ front.length) :
    exponentLength signed valued (front ++ more) = some length ↔
      exponentLength signed valued (front ++ rest) = some length := by
  induction front generalizing signed valued length with
  | nil =>
      obtain rfl : length = 0 := Nat.le_zero.mp within
      cases valued with
      | true =>
          simp only [List.nil_append, exponentLength_apart apart,
            exponentLength_apart ended.letters]
      | false =>
          have never : exponentLength signed false rest ≠ some 0 := fun found =>
            Bool.false_ne_true (valued_of_exponentLength found)
          simp [exponentLength_break ended, never]
  | cons c front ih =>
      rcases exponentLength_cons signed valued c with ⟨_, _, passed⟩ | ⟨_, _, passed⟩
      · simp only [List.cons_append, passed, Option.map_eq_some_iff]
        constructor
        · rintro ⟨counted, found, rfl⟩
          exact ⟨counted, (ih (by simpa using within)).mp found, rfl⟩
        · rintro ⟨counted, found, rfl⟩
          exact ⟨counted, (ih (by simpa using within)).mpr found, rfl⟩
      · simp only [List.cons_append, passed]

/-- Before a break an exponent ends inside the front. -/
theorem exponentLength_within {signed valued : Bool} (ended : Break more)
    (found : exponentLength signed valued (front ++ more) = some length) :
    length ≤ front.length := by
  induction front generalizing signed valued length with
  | nil =>
      cases valued with
      | true =>
          rw [List.nil_append, exponentLength_apart ended.letters] at found
          cases found
          exact Nat.le_refl _
      | false =>
          rw [List.nil_append, exponentLength_break ended] at found
          cases found
  | cons c front ih =>
      rcases exponentLength_cons signed valued c with ⟨_, _, passed⟩ | ⟨_, ended, passed⟩
      · rw [List.cons_append, passed] at found
        obtain ⟨_, counted, rfl⟩ := Option.map_eq_some_iff.mp found
        exact Nat.succ_le_succ (ih counted)
      · rw [List.cons_append, passed] at found
        simp_all

theorem drop_takeWhile (condition : Char → Bool) (text : List Char) :
    text.drop (text.takeWhile condition).length = text.dropWhile condition := by
  conv_lhs => arg 2; rw [← List.takeWhile_append_dropWhile (p := condition) (l := text)]
  exact List.drop_left

/-- The exponent with its letter. -/
def exponentPart : List Char → Option Nat
  | [] => none
  | c :: rest =>
      if c = 'e' ∨ c = 'E' then (exponentLength false false rest).map (· + 1) else none

/-- What makes digits a decimal number: a point, an exponent or both. -/
def decimalPart : List Char → Option Nat
  | '.' :: rest =>
      if rest.head?.any fun c => c == '.' || Text.isIdentifierStart c then none
      else
        some ((exponentPart (rest.dropWhile isDigitOrUnderscore)).getD 0
          + (rest.takeWhile isDigitOrUnderscore).length + 1)
  | text => exponentPart text

theorem decimalLength_eq (text : List Char) :
    decimalLength text =
      if text.head?.any isDigit then
        (decimalPart (text.dropWhile isDigitOrUnderscore)).map
          ((text.takeWhile isDigitOrUnderscore).length + ·)
      else none := by
  rw [decimalLength]
  cases text.head?.any isDigit with
  | false => rfl
  | true =>
      have behind := drop_takeWhile isDigitOrUnderscore text
      generalize text.takeWhile isDigitOrUnderscore = digits at behind ⊢
      simp only [Bool.not_true, Bool.false_eq_true, if_false, if_true, behind]
      split
      · rename_i rest held
        have fraction : ∀ count, text.drop (digits.length + 1 + count) = rest.drop count := by
          intro count
          rw [Nat.add_assoc, ← List.drop_drop, behind, held, Nat.add_comm, List.drop_succ_cons]
        simp only [fraction, drop_takeWhile, held, decimalPart]
        split
        · rfl
        · cases rest.dropWhile isDigitOrUnderscore with
          | nil => simp [exponentPart, Nat.add_comm, Nat.add_left_comm]
          | cons c behind =>
              rw [exponentPart]
              dsimp only
              split
              · cases exponentLength false false behind with
                | none => simp [Nat.add_comm, Nat.add_left_comm]
                | some length => simp [Nat.add_comm, Nat.add_left_comm]
              · simp [Nat.add_comm, Nat.add_left_comm]
      · rename_i c rest point held
        rw [held, decimalPart]
        · rw [exponentPart]
          split
          · rw [Option.map_map]
            congr 1
            funext count
            simp only [Function.comp]
            omega
          · rfl
        · simpa using point
      · rename_i held
        rw [held]
        rfl

/-- Does the whole number end inside the front? -/
theorem exponentPart_ended (front : List Char) (ended : Break more) (apart : Apart rest)
    (within : length ≤ front.length) :
    exponentPart (front ++ more) = some length ↔ exponentPart (front ++ rest) = some length := by
  cases front with
  | nil =>
      have unlettered : ∀ {text : List Char}, Apart text → exponentPart text = none := by
        intro text apart
        cases text with
        | nil => rfl
        | cons c text =>
            have other : ¬ (c = 'e' ∨ c = 'E') := by
              rintro (rfl | rfl) <;> exact absurd (apart _ rfl) (by decide)
            rw [exponentPart, if_neg other]
      simp only [List.nil_append, unlettered apart, unlettered ended.letters]
  | cons c front =>
      simp only [List.cons_append, exponentPart]
      split
      · simp only [Option.map_eq_some_iff]
        constructor
        · rintro ⟨counted, found, rfl⟩
          exact ⟨counted, (exponentLength_ended ended apart (by simpa using within)).mp found, rfl⟩
        · rintro ⟨counted, found, rfl⟩
          exact ⟨counted, (exponentLength_ended ended apart (by simpa using within)).mpr found, rfl⟩
      · rfl

theorem exponentPart_within (front : List Char) (ended : Break more)
    (found : exponentPart (front ++ more) = some length) : length ≤ front.length := by
  cases front with
  | nil =>
      cases more with
      | nil => cases found
      | cons c more =>
          have other : ¬ (c = 'e' ∨ c = 'E') := by
            rintro (rfl | rfl) <;> exact absurd (ended _ rfl) (by decide)
          rw [List.nil_append, exponentPart, if_neg other] at found
          cases found
  | cons c front =>
      rw [List.cons_append, exponentPart] at found
      split at found
      · obtain ⟨_, counted, rfl⟩ := Option.map_eq_some_iff.mp found
        exact Nat.succ_le_succ (exponentLength_within ended counted)
      · contradiction

theorem digits_apart (apart : Apart rest) : ∀ c ∈ rest.head?, isDigitOrUnderscore c = false := by
  intro c member
  have letter := apart c member
  rw [← Bool.not_eq_true] at letter ⊢
  intro digit
  rw [isDigitOrUnderscore, Bool.or_eq_true, beq_iff_eq] at digit
  rcases digit with digit | rfl
  · exact letter (isIdentifierContinue_of_digit digit)
  · exact letter (by decide)

theorem dropWhile_ended {condition : Char → Bool}
    (ended : ∀ c ∈ rest.head?, condition c = false) :
    (front ++ rest).dropWhile condition = front.dropWhile condition ++ rest := by
  rw [← drop_takeWhile, takeWhile_ended ended, ← drop_takeWhile,
    List.drop_append_of_le_length (List.takeWhile_prefix _).length_le]

theorem exponentPart_pos (found : exponentPart text = some length) : 0 < length := by
  cases text with
  | nil => cases found
  | cons c rest =>
      rw [exponentPart] at found
      split at found
      · obtain ⟨_, _, rfl⟩ := Option.map_eq_some_iff.mp found
        exact Nat.succ_pos _
      · contradiction

theorem exponentPart_le (found : exponentPart text = some length) : length ≤ text.length := by
  cases text with
  | nil => cases found
  | cons c rest =>
      rw [exponentPart] at found
      split at found
      · obtain ⟨_, counted, rfl⟩ := Option.map_eq_some_iff.mp found
        exact Nat.succ_le_succ (exponentLength_le counted)
      · contradiction

theorem length_takeWhile_add_dropWhile (condition : Char → Bool) (text : List Char) :
    (text.takeWhile condition).length + (text.dropWhile condition).length = text.length := by
  rw [← List.length_append, List.takeWhile_append_dropWhile]

theorem decimalPart_le (found : decimalPart text = some length) : length ≤ text.length := by
  unfold decimalPart at found
  split at found
  · rename_i rest
    split at found
    · contradiction
    · cases found
      have parts := length_takeWhile_add_dropWhile isDigitOrUnderscore rest
      cases behind : exponentPart (rest.dropWhile isDigitOrUnderscore) with
      | none =>
          simp only [Option.getD_none, List.length_cons]
          omega
      | some exponent =>
          have bound := exponentPart_le behind
          simp only [Option.getD_some, List.length_cons]
          omega
  · exact exponentPart_le found

theorem decimalPart_pos (found : decimalPart text = some length) : 0 < length := by
  unfold decimalPart at found
  split at found
  · split at found
    · contradiction
    · cases found
      exact Nat.succ_pos _
  · exact exponentPart_pos found

/-- The width of an exponent, of none if there is none, is the same before every break. -/
theorem exponentPart_getD (ended : Break more) (apart : Apart rest)
    (within : (exponentPart (front ++ rest)).getD 0 ≤ front.length) :
    (exponentPart (front ++ more)).getD 0 = (exponentPart (front ++ rest)).getD 0 := by
  cases behind : exponentPart (front ++ rest) with
  | some exponent =>
      rw [behind, Option.getD_some] at within
      rw [(exponentPart_ended front ended apart within).mpr behind]
  | none =>
      cases again : exponentPart (front ++ more) with
      | none => rfl
      | some exponent =>
          have inside := exponentPart_within front ended again
          rw [exponentPart_ended front ended apart inside, behind] at again
          cases again

/-- Digits can stand behind the point wherever a break follows. -/
theorem fraction_ended (ended : Break more)
    (number : ¬ (front ++ rest).head?.any (fun c => c == '.' || isIdentifierStart c)) :
    ¬ (front ++ more).head?.any (fun c => c == '.' || isIdentifierStart c) := by
  cases front with
  | nil =>
      have each : ∀ mark ∈ breakMarks, (mark == '.' || isIdentifierStart mark) = false :=
        List.all_iff_forall_prop.mp (by decide +kernel)
      cases more with
      | nil => simp
      | cons c more => simp [each c (ended c rfl)]
  | cons d front => simpa using number

/-- A point, an exponent or both inside a front are read there before every break. -/
theorem decimalPart_break (ended : Break more) (apart : Apart rest)
    (found : decimalPart (front ++ rest) = some length) (within : length ≤ front.length) :
    decimalPart (front ++ more) = some length := by
  cases front with
  | nil => exact absurd (decimalPart_pos found) (Nat.not_lt.mpr within)
  | cons c front =>
      rw [List.cons_append] at found ⊢
      by_cases point : c = '.'
      · subst point
        rw [decimalPart] at found ⊢
        split at found
        · contradiction
        · rename_i number
          rw [if_neg (fraction_ended ended number), ← found]
          simp only [dropWhile_ended (digits_apart apart), takeWhile_ended (digits_apart apart),
            dropWhile_ended (digits_apart ended.letters),
            takeWhile_ended (digits_apart ended.letters)] at found ⊢
          have parts := length_takeWhile_add_dropWhile isDigitOrUnderscore front
          have width := Option.some.inj found
          rw [List.length_cons] at within
          rw [exponentPart_getD ended apart (by omega)]
      · rw [decimalPart] at found ⊢
        · exact (exponentPart_ended (c :: front) ended apart within).mpr found
        all_goals simp [point]

theorem decimalLength_le (found : decimalLength text = some length) : length ≤ text.length := by
  rw [decimalLength_eq] at found
  split at found
  · obtain ⟨part, read, rfl⟩ := Option.map_eq_some_iff.mp found
    have bound := decimalPart_le read
    have parts := length_takeWhile_add_dropWhile isDigitOrUnderscore text
    omega
  · contradiction

theorem decimalLength_break (ended : Break more) (apart : Apart rest)
    (found : decimalLength (front ++ rest) = some length) (within : length ≤ front.length) :
    decimalLength (front ++ more) = some length := by
  rw [decimalLength_eq, dropWhile_ended (digits_apart apart), takeWhile_ended (digits_apart apart)]
    at found
  rw [decimalLength_eq, dropWhile_ended (digits_apart ended.letters),
    takeWhile_ended (digits_apart ended.letters)]
  split at found
  · rename_i digit
    obtain ⟨part, read, rfl⟩ := Option.map_eq_some_iff.mp found
    have parts := length_takeWhile_add_dropWhile isDigitOrUnderscore front
    have positive := decimalPart_pos read
    cases front with
    | nil => simp at within; omega
    | cons c front =>
        rw [if_pos (by simpa using digit), decimalPart_break ended apart read (by omega)]
        rfl
  · contradiction

theorem decimalPart_cons {c : Char} (point : c ≠ '.') :
    decimalPart (c :: rest) = exponentPart (c :: rest) := by
  rw [decimalPart]
  simp [point]

/-- Behind letters and digits alone stands no point: what is read there before a break is an
exponent, and it is read before anything apart. -/
theorem decimalPart_letters (ended : Break more) (apart : Apart rest)
    (letters : ∀ c ∈ front, isIdentifierContinue c = true)
    (found : decimalPart (front ++ more) = some length) :
    decimalPart (front ++ rest) = some length ∧ length ≤ front.length := by
  cases front with
  | nil =>
      cases more with
      | nil => cases found
      | cons c more =>
          have point : c ≠ '.' := by
            rintro rfl
            exact absurd (ended _ rfl) (by decide)
          rw [List.nil_append, decimalPart_cons point] at found
          have none := exponentPart_within [] ended found
          have positive := exponentPart_pos found
          exact absurd positive (Nat.not_lt.mpr none)
  | cons c front =>
      have point : c ≠ '.' := by
        rintro rfl
        exact absurd (letters _ List.mem_cons_self) (by decide)
      rw [List.cons_append, decimalPart_cons point] at found
      have inside := exponentPart_within (c :: front) ended found
      rw [List.cons_append, decimalPart_cons point]
      exact ⟨(exponentPart_ended (c :: front) ended apart inside).mp found, inside⟩

theorem decimalLength_letters (ended : Break more) (apart : Apart rest)
    (letters : ∀ c ∈ front, isIdentifierContinue c = true)
    (found : decimalLength (front ++ more) = some length) :
    decimalLength (front ++ rest) = some length ∧ length ≤ front.length := by
  rw [decimalLength_eq, dropWhile_ended (digits_apart ended.letters),
    takeWhile_ended (digits_apart ended.letters)] at found
  rw [decimalLength_eq, dropWhile_ended (digits_apart apart), takeWhile_ended (digits_apart apart)]
  split at found
  · rename_i digit
    obtain ⟨part, read, rfl⟩ := Option.map_eq_some_iff.mp found
    have parts := length_takeWhile_add_dropWhile isDigitOrUnderscore front
    obtain ⟨again, inside⟩ := decimalPart_letters ended apart
      (fun c member => letters c ((List.dropWhile_suffix _).subset member)) read
    cases front with
    | nil => exact absurd (decimalPart_pos read) (by simpa using inside)
    | cons c front =>
        rw [if_pos (by simpa using digit), again]
        exact ⟨rfl, by omega⟩
  · contradiction

theorem isIdentifierContinue_of_hexValue? {c : Char} {digit : Nat}
    (found : hexValue? c = some digit) : isIdentifierContinue c = true := by
  have each : ∀ code < 103, (hexValue? (Char.ofNat code)).isSome →
      isIdentifierContinue (Char.ofNat code) = true := by
    decide +kernel
  have bound : c.toNat < 103 := by
    simp only [hexValue?, Char.isDigit, Bool.and_eq_true, decide_eq_true_eq, UInt32.le_iff_toNat_le,
      Char.le_def] at found
    split at found
    · rename_i inside
      have high : c.toNat ≤ 57 := inside.2
      omega
    · split at found
      · rename_i inside
        have high : c.toNat ≤ 102 := inside.2
        omega
      · split at found
        · rename_i inside
          have high : c.toNat ≤ 70 := inside.2
          omega
        · contradiction
  have again := each c.toNat bound
  rw [Char.ofNat_toNat, found] at again
  exact again rfl

/-- One character of a number to a base is passed, where it is a digit, or ends it. -/
theorem digitsLength_cons (base : Nat) (empty : Bool) (c : Char) :
    (isIdentifierContinue c = true ∧ ∃ empty', ∀ rest, digitsLength base empty (c :: rest) =
      (digitsLength base empty' rest).map (· + 1)) ∨
    ∃ result, (result = none ∨ result = some 0) ∧
      ∀ rest, digitsLength base empty (c :: rest) = result := by
  have endings : ∀ ending, ending = (if empty then none else some 0) →
      ending = none ∨ ending = some 0 := by
    rintro _ rfl
    cases empty <;> simp
  by_cases underscore : c = '_'
  · simp only [digitsLength, if_pos underscore]
    by_cases first : empty = true ∧ base = 10
    · simp only [if_pos first]
      exact .inr ⟨none, .inl rfl, fun _ => rfl⟩
    · simp only [if_neg first]
      exact .inl ⟨underscore ▸ by decide, empty, fun _ => rfl⟩
  · simp only [digitsLength, if_neg underscore]
    cases value : hexValue? c with
    | none => exact .inr ⟨_, endings _ rfl, fun _ => rfl⟩
    | some digit =>
        by_cases small : digit < base
        · simp only [if_pos small]
          exact .inl ⟨isIdentifierContinue_of_hexValue? value, false, fun _ => rfl⟩
        · simp only [if_neg small]
          by_cases decimal : isDigit c = true
          · simp only [if_pos decimal]
            exact .inr ⟨none, .inl rfl, fun _ => rfl⟩
          · simp only [if_neg decimal]
            exact .inr ⟨_, endings _ rfl, fun _ => rfl⟩

theorem digitsLength_letters {base : Nat} {empty : Bool}
    (found : digitsLength base empty text = some length) :
    length ≤ text.length ∧ ∀ c ∈ text.take length, isIdentifierContinue c = true := by
  induction text generalizing empty length with
  | nil => cases empty <;> simp_all [digitsLength]
  | cons c rest ih =>
      rcases digitsLength_cons base empty c with ⟨letter, _, passed⟩ | ⟨_, ended, passed⟩
      · obtain ⟨_, counted, rfl⟩ := Option.map_eq_some_iff.mp (passed rest ▸ found)
        obtain ⟨bound, letters⟩ := ih counted
        exact ⟨Nat.succ_le_succ bound, List.forall_mem_cons.mpr ⟨letter, letters⟩⟩
      · rw [passed] at found
        rcases ended with rfl | rfl
        · cases found
        · cases found
          simp

theorem digitsLength_apart {base : Nat} {empty : Bool} (apart : Apart rest) :
    digitsLength base empty rest = if empty then none else some 0 := by
  cases rest with
  | nil => rfl
  | cons c rest =>
      have letter := apart c rfl
      have underscore : c ≠ '_' := by
        rintro rfl
        exact absurd letter (by decide)
      have digitless : hexValue? c = none := by
        rw [Option.eq_none_iff_forall_ne_some]
        intro digit found
        rw [isIdentifierContinue_of_hexValue? found] at letter
        cases letter
      simp [digitsLength, underscore, digitless]

/-- The digits inside a front are the same before all that is apart. -/
theorem digitsLength_ended (front : List Char) {base : Nat} {empty : Bool} (apart : Apart rest) :
    digitsLength base empty (front ++ rest) = digitsLength base empty front := by
  induction front generalizing empty with
  | nil => exact digitsLength_apart apart
  | cons c front ih =>
      rcases digitsLength_cons base empty c with ⟨_, _, passed⟩ | ⟨_, _, passed⟩
      · rw [List.cons_append, passed, passed, ih]
      · rw [List.cons_append, passed, passed]

theorem integerLength_letters (found : integerLength text = some length) :
    length ≤ text.length ∧ ∀ c ∈ text.take length, isIdentifierContinue c = true := by
  have marked : ∀ {mark rest base}, isIdentifierContinue mark = true →
      (digitsLength base true rest).map (· + 2) = some length →
        length ≤ ('0' :: mark :: rest).length ∧
          ∀ c ∈ ('0' :: mark :: rest).take length, isIdentifierContinue c = true := by
    intro mark rest base letter found
    obtain ⟨_, counted, rfl⟩ := Option.map_eq_some_iff.mp found
    obtain ⟨bound, letters⟩ := digitsLength_letters counted
    exact ⟨Nat.add_le_add_right bound 2, List.forall_mem_cons.mpr ⟨by decide,
      List.forall_mem_cons.mpr ⟨letter, letters⟩⟩⟩
  unfold integerLength at found
  split at found
  · exact marked (by decide) found
  · exact marked (by decide) found
  · exact marked (by decide) found
  · exact digitsLength_letters found

theorem integerLength_decimal {c d : Char} (unmarked : c = '0' → d ≠ 'x' ∧ d ≠ 'o' ∧ d ≠ 'b') :
    integerLength (c :: d :: rest) = digitsLength 10 true (c :: d :: rest) := by
  rw [integerLength]
  all_goals
    rintro _ same
    obtain ⟨zero, same⟩ := List.cons.inj same
    have mark := (List.cons.inj same).1
    simp [unmarked zero] at mark

theorem integerLength_ended (apart : Apart rest) (present : front ≠ []) :
    integerLength (front ++ rest) = integerLength front := by
  match front, present with
  | [c], _ =>
      cases rest with
      | nil => rfl
      | cons d rest =>
          have unmarked : d ≠ 'x' ∧ d ≠ 'o' ∧ d ≠ 'b' := by
            have letter := apart d rfl
            refine ⟨?_, ?_, ?_⟩ <;> rintro rfl <;> exact absurd letter (by decide)
          have alone : integerLength [c] = digitsLength 10 true [c] := by
            rw [integerLength]
            all_goals simp
          rw [List.singleton_append, integerLength_decimal fun _ => unmarked, alone]
          exact digitsLength_ended [c] apart
  | c :: d :: front, _ =>
      rw [List.cons_append, List.cons_append]
      by_cases marked : c = '0' ∧ (d = 'x' ∨ d = 'o' ∨ d = 'b')
      · obtain ⟨rfl, rfl | rfl | rfl⟩ := marked
        all_goals simp only [integerLength, digitsLength_ended _ apart]
      · have unmarked : c = '0' → d ≠ 'x' ∧ d ≠ 'o' ∧ d ≠ 'b' := by
          intro zero
          simpa [zero] using marked
        rw [integerLength_decimal unmarked, integerLength_decimal unmarked]
        exact digitsLength_ended (c :: d :: front) apart

end StorageMapping.Source.Literal
