import Mathlib.Algebra.Ring.Nat
import StorageMapping.Source.Literal
import StorageMapping.Text.Quoted

namespace StorageMapping

/-! # Quoted texts are read back

Every text can be quoted, and reading the literal gives the text. Escapes are read one by one, so it
is enough that each of them stands for its character, whatever follows. -/

namespace Text

/-! ## Hexadecimal digits -/

theorem hexDigit_read :
    ∀ value < 16, hexValue? (hexDigit value) = some value ∧ hexDigit value ≠ '\x7d' ∧
      hexDigit value ≠ '_' := by
  decide

theorem hexDigits_length {value : Nat} (count : Nat) (bound : value < 16 ^ (count + 1)) :
    (hexDigits value).length ≤ count + 1 := by
  induction count generalizing value with
  | zero =>
      rw [hexDigits, if_pos (by simpa using bound)]
      exact Nat.le_refl _
  | succ count ih =>
      rw [hexDigits]
      split
      · simp
      · have shorter : value / 16 < 16 ^ (count + 1) :=
          Nat.div_lt_of_lt_mul (by rwa [Nat.pow_succ, Nat.mul_comm] at bound)
        have length := ih shorter
        rw [List.length_append, List.length_singleton]
        omega

theorem charOfCode?_toNat (c : Char) : charOfCode? c.toNat = some c := by
  have valid : c.toNat.isValidChar := c.valid
  rw [charOfCode?, dif_pos valid]
  rfl

end Text

namespace Source.Literal

open Text

/-- A piece of a quoted text stands for a piece of its value, whatever follows. -/
def StandsFor (written value : List Char) : Prop :=
  ∀ rest length tail, readQuoted .text .plain rest = some (length, tail) →
    readQuoted .text .plain (written ++ rest) = some (written.length + length, value ++ tail)

theorem StandsFor.nil : StandsFor [] [] := by
  intro rest length tail read
  simpa using read

theorem StandsFor.append {written value others values : List Char}
    (front : StandsFor written value) (back : StandsFor others values) :
    StandsFor (written ++ others) (value ++ values) := by
  intro rest length tail read
  have both := front _ _ _ (back rest length tail read)
  rw [List.append_assoc, List.append_assoc, List.length_append, Nat.add_assoc]
  exact both

theorem standsFor_letter {letter c : Char} (known : letterEscape? .text letter = some c) :
    StandsFor ['\\', letter] [c] := by
  -- no other escape begins with a letter of this kind
  have other : letter ≠ 'x' ∧ letter ≠ 'u' ∧ letter ≠ '\n' ∧ letter ≠ '\r' := by
    refine ⟨?_, ?_, ?_, ?_⟩ <;> rintro rfl <;> simp [letterEscape?] at known
  intro rest length tail read
  rw [List.cons_append, List.cons_append, List.nil_append, readQuoted, known, read]
  · rfl
  all_goals simp [other]

theorem standsFor_self {c : Char} (quote : c ≠ '"') (ending : c ≠ '\r') (escape : c ≠ '\\') :
    StandsFor [c] [c] := by
  intro rest length tail read
  rw [List.cons_append, List.nil_append, readQuoted, read]
  · rfl
  all_goals simp [quote, ending, escape]

theorem readQuoted_digit {value digits digit length : Nat} {c : Char} {rest tail : List Char}
    (known : hexValue? c = some digit ∧ c ≠ '\x7d' ∧ c ≠ '_') (room : digits < 6)
    (read : readQuoted .text (.code (value * 16 + digit) (digits + 1)) rest =
      some (length, tail)) :
    readQuoted .text (.code value digits) (c :: rest) = some (1 + length, tail) := by
  obtain ⟨known, notClosing, notBlank⟩ := known
  change (if c = '\x7d' then _ else if c = '_' then _ else _) = _
  rw [if_neg notClosing, if_neg notBlank, known]
  simp only [Option.bind_eq_bind, Option.bind_some, if_neg (Nat.ne_of_lt room), read]
  rfl

/-- The digits of a code point in braces, behind those that are read already. -/
theorem readQuoted_hexDigits (value : Nat) {former digits : Nat} {rest : List Char} {length : Nat}
    {tail : List Char} (bound : digits + (hexDigits value).length ≤ 6)
    (read : readQuoted .text
        (.code (former * 16 ^ (hexDigits value).length + value)
          (digits + (hexDigits value).length)) rest = some (length, tail)) :
    readQuoted .text (.code former digits) (hexDigits value ++ rest) =
      some ((hexDigits value).length + length, tail) := by
  induction value using hexDigits.induct generalizing rest length with
  | case1 value small =>
      rw [hexDigits, if_pos small] at bound read ⊢
      rw [List.length_singleton] at bound read ⊢
      rw [Nat.pow_one] at read
      exact readQuoted_digit (hexDigit_read value small) (by omega) read
  | case2 value large ih =>
      have last : value % 16 < 16 := Nat.mod_lt _ (by decide)
      rw [hexDigits, if_neg large] at bound read ⊢
      rw [List.length_append, List.length_singleton] at bound read ⊢
      rw [List.append_assoc, Nat.add_assoc]
      -- the last digit is read where the digits before it leave off
      refine ih (by omega) (readQuoted_digit (hexDigit_read (value % 16) last) (by omega) ?_)
      have whole : (former * 16 ^ (hexDigits (value / 16)).length + value / 16) * 16 + value % 16 =
          former * 16 ^ ((hexDigits (value / 16)).length + 1) + value := by
        rw [Nat.pow_succ, Nat.add_mul, Nat.mul_assoc]
        omega
      rw [whole, Nat.add_assoc]
      exact read

theorem standsFor_code (c : Char) :
    StandsFor (['\\', 'u', '\x7b'] ++ hexDigits c.toNat ++ ['\x7d']) [c] := by
  have bound : c.toNat < 16 ^ (5 + 1) := by
    have valid : c.toNat.isValidChar := c.valid
    simp only [Nat.isValidChar] at valid
    omega
  have short := hexDigits_length 5 bound
  have present : hexDigits c.toNat ≠ [] := by
    rw [hexDigits]
    split <;> simp
  intro rest length tail read
  have closed : readQuoted .text
      (.code (0 * 16 ^ (hexDigits c.toNat).length + c.toNat) (0 + (hexDigits c.toNat).length))
      ('\x7d' :: rest) = some (1 + length, c :: tail) := by
    have code : codeEscape? .text (0 * 16 ^ (hexDigits c.toNat).length + c.toNat)
        (0 + (hexDigits c.toNat).length) = some c := by
      simp [codeEscape?, present, charOfCode?_toNat]
    change (if '\x7d' = '\x7d' then _ else _) = _
    rw [if_pos rfl, code, read]
    rfl
  have digits := readQuoted_hexDigits c.toNat (by omega) closed
  simp only [List.cons_append, List.nil_append, List.append_assoc]
  change (readQuoted .text (.code 0 0) _).map _ = _
  rw [digits]
  change some (3 + ((hexDigits c.toNat).length + (1 + length)), c :: tail) = _
  congr 2
  simp only [List.length_cons, List.length_append, List.length_nil]
  omega

theorem standsFor_escapeNull (next : Option Char) : StandsFor (escapeNull next) ['\x00'] := by
  unfold escapeNull
  split
  · intro rest length tail read
    change (readQuoted .text .plain rest).map _ = _
    rw [read]
    rfl
  · exact standsFor_letter rfl

theorem standsFor_escapeChar (c : Char) : StandsFor (escapeChar c) [c] := by
  by_cases tab : c = '\t'
  · exact tab ▸ standsFor_letter rfl
  by_cases newline : c = '\n'
  · exact newline ▸ standsFor_letter rfl
  by_cases ending : c = '\r'
  · exact ending ▸ standsFor_letter rfl
  by_cases quote : c = '"'
  · exact quote ▸ standsFor_letter rfl
  by_cases escape : c = '\\'
  · exact escape ▸ standsFor_letter rfl
  rw [escapeChar, if_neg tab, if_neg newline, if_neg ending, if_neg quote, if_neg escape]
  split
  · exact standsFor_self quote ending escape
  · exact standsFor_code c

theorem standsFor_escapeLiteral (value : List Char) : StandsFor (escapeLiteral value) value := by
  induction value with
  | nil => exact .nil
  | cons c rest ih =>
      have here : StandsFor (if c.toNat = 0 then escapeNull rest.head? else escapeChar c) [c] := by
        split
        · rename_i null
          have same : c = '\x00' := Char.toNat_inj.mp null
          exact same ▸ standsFor_escapeNull rest.head?
        · exact standsFor_escapeChar c
      exact here.append ih

theorem read?_quoteLiteral (value : String) :
    read? (quoteLiteral value).toList =
      some (.text, (quoteLiteral value).toList.length, value.toList) := by
  have closed : readQuoted .text .plain ['"'] = some (1, []) := rfl
  have read := standsFor_escapeLiteral value.toList _ _ _ closed
  rw [List.append_nil] at read
  have whole : (quoteLiteral value).toList.length =
      1 + ((escapeLiteral value.toList).length + 1) := by
    simp [quoteLiteral, Nat.add_comm]
  rw [whole]
  simp only [quoteLiteral, String.toList_ofList, read?, read]
  rfl

/-- A quoted text is a literal with that text for its value. -/
theorem stringValue?_quoteLiteral (value : String) :
    stringValue? (quoteLiteral value) = some value := by
  rw [stringValue?, read?_quoteLiteral]
  exact congrArg some String.ofList_toList

end Source.Literal

end StorageMapping
