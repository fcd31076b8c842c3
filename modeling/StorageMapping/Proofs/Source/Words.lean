import Mathlib.Data.Bool.AllAny
import Mathlib.Data.List.TakeWhile
import StorageMapping.Proofs.Source.Names

namespace StorageMapping

/-! # Words

A name that is written down is read as that name, alone or in front of whatever can follow a printed
token. -/

open Source

namespace Text

/-- The codes of blanks, direction marks and the byte order mark. -/
def blankCodes : List Nat :=
  List.range' 9 5 ++ List.range' 0x2000 11 ++
    [0x20, 0x85, 0xA0, 0x1680, 0x200E, 0x200F, 0x2028, 0x2029, 0x202F, 0x205F, 0x3000, 0xFEFF]

theorem letter_notMem_blankCodes {c : Char} (letter : isIdentifierContinue c = true) :
    c.toNat ∉ blankCodes := by
  have outside : (blankCodes.all fun code => !isIdentifierContinue (Char.ofNat code)) = true := by
    decide +kernel
  intro member
  have ended := List.all_eq_true.mp outside c.toNat member
  simp [Char.ofNat_toNat, letter] at ended

/-- Punctuation, quotes and brackets. -/
def marks : List Char := Lexer.punctuationMarks ++ "\"()[]\x7b\x7d".toList

theorem letter_notMem_marks {c : Char} (letter : isIdentifierContinue c = true) : c ∉ marks := by
  have outside : (marks.all fun mark => !isIdentifierContinue mark) = true := by decide +kernel
  intro member
  have ended := List.all_eq_true.mp outside c member
  simp [letter] at ended

theorem isIdentifierContinue_of_start {c : Char} (start : isIdentifierStart c = true) :
    isIdentifierContinue c = true := by
  rw [isIdentifierStart] at start
  rw [isIdentifierContinue]
  split
  · rename_i ascii
    rw [if_pos ascii] at start
    simp only [Bool.or_eq_true, Char.isAlphanum] at start ⊢
    exact start.imp_left .inl
  · rename_i beyond
    rw [if_neg beyond] at start
    simp [start]

theorem isIdentifierContinue_of_digit {c : Char} (digit : isDigit c = true) :
    isIdentifierContinue c = true := by
  obtain ⟨_, high⟩ : 48 ≤ c.toNat ∧ c.toNat ≤ 57 := by
    simpa [isDigit, Char.isDigit, UInt32.le_iff_toNat_le] using digit
  have number : c.isDigit = true := digit
  rw [isIdentifierContinue, if_pos (by omega)]
  simp [Char.isAlphanum, number]

theorem isDigit_eq_false {c : Char} (start : isIdentifierStart c = true) : isDigit c = false := by
  have outside : ∀ code < 58, 48 ≤ code → isIdentifierStart (Char.ofNat code) = false := by
    decide +kernel
  rw [← Bool.not_eq_true]
  intro digit
  obtain ⟨low, high⟩ : 48 ≤ c.toNat ∧ c.toNat ≤ 57 := by
    simpa [isDigit, Char.isDigit, UInt32.le_iff_toNat_le] using digit
  have ended := outside c.toNat (by omega) low
  rw [Char.ofNat_toNat, start] at ended
  contradiction

theorem isSpace_eq_false {c : Char} (inside : c.toNat ∉ blankCodes) : isSpace c = false := by
  rw [← Bool.not_eq_true]
  intro blank
  apply inside
  simp only [isSpace, Bool.or_eq_true, Bool.and_eq_true, decide_eq_true_eq, beq_iff_eq] at blank
  simp only [blankCodes, List.mem_append, List.mem_range'_1, List.mem_cons]
  omega

end Text

namespace Source

open Text

/-! ## Where a token ends -/

namespace Lexer

/-- What can stand behind a printed token: the blank before the next one, and closing brackets. -/
def breakMarks : List Char := " )]\x7d".toList

/-- A text that does not go on with the token before it. -/
def Break (text : List Char) : Prop := ∀ c ∈ text.head?, c ∈ breakMarks

/-- A text that goes on neither with a name nor with a number. -/
def Apart (text : List Char) : Prop := ∀ c ∈ text.head?, isIdentifierContinue c = false

theorem Break.nil : Break [] := by simp [Break]

theorem Break.cons {c : Char} {rest : List Char} (mark : c ∈ breakMarks) : Break (c :: rest) := by
  simpa [Break] using mark

variable {text front rest : List Char} {c : Char} {condition : Char → Bool}

theorem Break.not_of_breakMarks (ended : Break text)
    (all : (breakMarks.all fun mark => !condition mark) = true) :
    ∀ c ∈ text.head?, condition c = false := by
  intro c member
  simpa using List.all_eq_true.mp all c (ended c member)

theorem Break.letters (ended : Break text) : Apart text :=
  ended.not_of_breakMarks (by decide +kernel)

theorem Break.unquoted (ended : Break rest) (unquoted : ∀ d ∈ front, d.toNat ≠ 39) :
    ∀ d ∈ (front ++ rest).head?, d.toNat ≠ 39 := by
  cases front with
  | nil =>
      have other : ∀ mark ∈ breakMarks, mark.toNat ≠ 39 := List.all_iff_forall_prop.mp (by decide)
      exact fun d member => other d (ended d member)
  | cons d front => simpa using unquoted d List.mem_cons_self

theorem takeWhile_ended (ended : ∀ c ∈ rest.head?, condition c = false) :
    (front ++ rest).takeWhile condition = front.takeWhile condition := by
  induction front with
  | nil =>
      cases rest with
      | nil => rfl
      | cons c rest => simp [ended c rfl]
  | cons c front ih => simp [List.takeWhile_cons, ih]

theorem takeWhile_append_ended (all : ∀ c ∈ front, condition c = true)
    (ended : ∀ c ∈ rest.head?, condition c = false) :
    (front ++ rest).takeWhile condition = front := by
  rw [takeWhile_ended ended, List.takeWhile_eq_self_iff.mpr all]

/-- A front without the quote does not reach one behind a break. -/
theorem dropWhile_append_break {quote : Char} (sign : Char) (absent : quote ∉ front)
    (ended : Break rest) (quoteInside : quote ∉ breakMarks) (signInside : sign ∉ breakMarks) :
    ((front ++ rest).dropWhile (· == sign)).head? ≠ some quote := by
  induction front with
  | nil =>
      intro found
      cases rest with
      | nil => cases found
      | cons c rest =>
          have mark := ended c (by simp)
          have other : (c == sign) = false := by
            rw [beq_eq_false_iff_ne]
            exact fun same => signInside (same ▸ mark)
          simp only [List.nil_append, List.dropWhile_cons, other, Bool.false_eq_true, if_false,
            List.head?_cons, Option.some.injEq] at found
          exact quoteInside (found ▸ mark)
  | cons c front ih =>
      rw [List.cons_append, List.dropWhile_cons]
      split
      · exact ih fun member => absent (List.mem_cons_of_mem c member)
      · intro found
        exact absent (by simpa using Or.inl (Option.some.inj found).symm)

end Lexer

open Lexer

namespace Literal

variable {c : Char} {front rest : List Char}

theorem readRawFrom_eq_none {family : Family} (unquoted : '"' ∉ front) (ended : Break rest) :
    readRawFrom family (front ++ rest) = none := by
  have behind := dropWhile_append_break '#' unquoted ended (by decide) (by decide)
  rw [readRawFrom]
  split
  · rename_i tail held
    have dropped : (front ++ rest).drop ((front ++ rest).takeWhile (· == '#')).length =
        (front ++ rest).dropWhile (· == '#') := by
      conv_lhs => arg 2; rw [← List.takeWhile_append_dropWhile (p := (· == '#'))
        (l := front ++ rest)]
      exact List.drop_left
    rw [dropped] at held
    exact absurd (by rw [held]; rfl) behind
  · rfl

/-- Where a letter comes first and no quote before the end, there is no quoted literal. -/
theorem read?_eq_none (quote : c ≠ '"') (unquoted : '"' ∉ front) (ended : Break rest) :
    read? (c :: (front ++ rest)) = none := by
  have raw : ∀ family, readRawFrom family (front ++ rest) = none := fun _ =>
    readRawFrom_eq_none unquoted ended
  have later : ∀ d more family, front ++ rest = d :: more → d ≠ '"' ∧
      (d = 'r' → readRawFrom family more = none) := by
    intro d more family held
    cases front with
    | nil =>
        have mark := ended d (by rw [List.nil_append] at held; simp [held])
        constructor
        · rintro rfl
          exact absurd mark (by decide)
        · rintro rfl
          exact absurd mark (by decide)
    | cons first front =>
        obtain ⟨rfl, rfl⟩ := List.cons.inj held
        refine ⟨fun same => unquoted (by simp [same]), fun _ => ?_⟩
        exact readRawFrom_eq_none (fun member => unquoted (List.mem_cons_of_mem _ member)) ended
  unfold read?
  split
  · exact absurd (List.cons.inj ‹_›).1 quote
  · rename_i held
    obtain ⟨_, rfl⟩ := List.cons.inj held
    rw [raw]
    rfl
  · rename_i held
    exact absurd rfl (later _ _ .text (List.cons.inj held).2).1
  · rename_i held
    rw [(later _ _ _ (List.cons.inj held).2).2 rfl]
    rfl
  · rename_i held
    exact absurd rfl (later _ _ .text (List.cons.inj held).2).1
  · rename_i held
    rw [(later _ _ _ (List.cons.inj held).2).2 rfl]
    rfl
  · rfl

theorem quotedCharacterLength_eq_none (quote : c.toNat ≠ 39)
    (unquoted : ∀ d ∈ (front ++ rest).head?, d.toNat ≠ 39) :
    quotedCharacterLength (c :: (front ++ rest)) = none := by
  unfold quotedCharacterLength
  split
  · rename_i held
    rw [if_neg (unquoted _ (by rw [(List.cons.inj held).2]; rfl))]
  · rename_i held
    obtain ⟨rfl, _⟩ := List.cons.inj held
    rw [if_neg quote]
  · contradiction

theorem decimalLength_eq_none (letter : isDigit c = false) :
    decimalLength (c :: rest) = none := by
  rw [decimalLength]
  simp only [List.head?_cons, Option.any_some, letter]
  rfl

/-- A letter is no digit, though it may be one to a greater base. -/
theorem digitsLength_eq_none (letter : isDigit c = false) :
    digitsLength 10 true (c :: rest) = none := by
  have large : ∀ digit, hexValue? c = some digit → ¬ digit < 10 := by
    intro digit found
    have noDigit : c.isDigit = false := letter
    simp only [hexValue?, noDigit, Bool.false_eq_true, if_false] at found
    split at found
    · cases found
      omega
    · split at found
      · cases found
        omega
      · contradiction
  rw [digitsLength]
  by_cases underscore : c = '_'
  · rw [if_pos underscore]
    rfl
  · rw [if_neg underscore]
    cases found : hexValue? c with
    | none => rfl
    | some digit => simp [large digit found, letter]

theorem integerLength_eq_none (letter : isDigit c = false) :
    integerLength (c :: rest) = none := by
  have other : c ≠ '0' := by
    rintro rfl
    exact absurd letter (by decide)
  unfold integerLength
  split
  · exact absurd (List.cons.inj ‹_›).1 other
  · exact absurd (List.cons.inj ‹_›).1 other
  · exact absurd (List.cons.inj ‹_›).1 other
  · exact digitsLength_eq_none letter

/-- Where a letter comes first and no quote before the end, there is no literal. -/
theorem length?_eq_none (letter : isDigit c = false)
    (unquoted : ∀ d ∈ c :: front, d ≠ '"' ∧ d.toNat ≠ 39) (ended : Break rest) :
    length? (c :: (front ++ rest)) = none := by
  obtain ⟨noQuote, noApostrophe⟩ := unquoted c List.mem_cons_self
  have second : ∀ d ∈ (front ++ rest).head?, d.toNat ≠ 39 :=
    ended.unquoted fun d member => (unquoted d (List.mem_cons_of_mem c member)).2
  rw [length?, read?_eq_none noQuote (fun member => (unquoted _ (by simp [member])).1 rfl) ended,
    quotedCharacterLength_eq_none noApostrophe second,
    decimalLength_eq_none letter, integerLength_eq_none letter]
  rfl

end Literal

namespace Lexer

variable {text front rest : List Char} {c : Char}

theorem slash_ne (letter : isIdentifierContinue c = true) : c ≠ '/' := by
  rintro rfl
  exact letter_notMem_marks letter (by decide +kernel)

/-- A text that begins with a token, and not with a blank, a comment or a byte order mark. -/
structure Starts (text : List Char) : Prop where
  unblank : ∀ fuel, blankLength fuel text = 0
  undocumented : docComment? text = none
  unmarked : ∀ c ∈ text.head?, c ≠ byteOrderMark

theorem starts_of_visible (visible : c ≠ '/' ∧ isBlank c = false ∧ c ≠ byteOrderMark) :
    Starts (c :: rest) := by
  obtain ⟨slash, visible, unmarked⟩ := visible
  refine ⟨fun fuel => ?_, by simp [docComment?, startsWith, slash.symm], by simpa using unmarked⟩
  have uncommented : commentLength? (c :: rest) = none := by
    simp [commentLength?, startsWith, slash.symm]
  cases fuel with
  | zero => rfl
  | succ fuel => simp [blankLength, uncommented, visible]

/-- A first letter stands behind neither a blank nor a comment. -/
theorem starts_of_letter (letter : isIdentifierContinue c = true) : Starts (c :: rest) := by
  have inside := letter_notMem_blankCodes letter
  have unmarked : c.toNat ≠ 0x200E ∧ c.toNat ≠ 0x200F := by
    constructor <;> intro same <;> rw [same] at inside <;> exact inside (by decide)
  have visible : isBlank c = false := by
    simp [isBlank, isSpace_eq_false inside, unmarked]
  refine starts_of_visible ⟨slash_ne letter, visible, ?_⟩
  rintro rfl
  exact inside (by decide)

theorem isPunctuation_letter (letter : isIdentifierContinue c = true) :
    isPunctuation (c :: rest) = false := by
  have unmarked : c ∉ punctuationMarks := fun member =>
    letter_notMem_marks letter (List.mem_append_left _ member)
  simp [isPunctuation, unmarked]

theorem bracket_letter (letter : isIdentifierContinue c = true) :
    opening? c = none ∧ closing? c = none := by
  have outside := letter_notMem_marks letter
  constructor
  · unfold opening?
    split
    · exact absurd (by decide +kernel) outside
    · exact absurd (by decide +kernel) outside
    · exact absurd (by decide +kernel) outside
    · rfl
  · unfold closing?
    split
    · exact absurd (by decide +kernel) outside
    · exact absurd (by decide +kernel) outside
    · exact absurd (by decide +kernel) outside
    · rfl

theorem readTokens_nil {fuel : Nat} {done : List Token} {position : Position} :
    readTokens (fuel + 1) [] done position [] = some done.reverse := by
  have blank : blankLength fuel [] = 0 := by
    cases fuel <;> rfl
  simp [readTokens, blank, docComment?, startsWith]

/-- A leaf is read where it begins. -/
theorem readTokens_leaf {fuel : Nat} {frames : List Frame} {done : List Token}
    {position : Position} {token : Token} {length : Nat} (starts : Starts (c :: rest))
    (bracketless : opening? c = none ∧ closing? c = none)
    (read : leaf? (c :: rest) position = some (token, length)) :
    readTokens (fuel + 1) frames done position (c :: rest) =
      readTokens fuel frames (token :: done) (position.advance ((c :: rest).take length))
        ((c :: rest).drop length) := by
  have unmoved : position.advance [] = position := rfl
  rw [readTokens]
  simp only [starts.unblank, List.take_zero, unmoved, List.drop_zero, starts.undocumented,
    Option.filter_none, bracketless.1, bracketless.2, read]

/-- A text that is one token, with no blanks around it. -/
theorem tokenize_leaf {token : Token} (letter : isIdentifierContinue c = true)
    (read : leaf? (c :: rest) .start = some (token, (c :: rest).length)) :
    tokenize (c :: rest) = some [token] := by
  have starts : Starts (c :: rest) := starts_of_letter letter
  rw [tokenize, if_neg (starts.unmarked c rfl),
    readTokens_leaf starts (bracket_letter letter) read, List.drop_length]
  exact readTokens_nil

/-- Whatever begins a literal has a mark that is neither a letter nor a break. -/
theorem literalStarts_marked :
    (literalStarts.all fun start => start.toList.any fun mark =>
      !breakMarks.contains mark && (mark == '"' || mark == apostrophe || mark == '#')) = true ∧
    (literalStarts.all fun start => start.toList.all fun mark => !breakMarks.contains mark) =
      true := by
  decide

/-- A word begins no literal where it has none of the marks of one. -/
theorem literalStarts_eq_false (front : List Char)
    (unmarked : ∀ mark ∈ front, mark ≠ '"' ∧ mark ≠ apostrophe ∧ mark ≠ '#')
    (ended : Break rest) : literalStarts.any (startsWith (front ++ rest)) = false := by
  rw [← Bool.not_eq_true, List.any_eq_true]
  rintro ⟨start, member, begins⟩
  obtain ⟨more, held⟩ := List.isPrefixOf_iff_prefix.mp begins
  obtain ⟨mark, inStart, marked⟩ :=
    List.any_eq_true.mp (List.all_eq_true.mp literalStarts_marked.1 start member)
  have visible := List.all_eq_true.mp (List.all_eq_true.mp literalStarts_marked.2 start member)
  rcases List.append_eq_append_iff.mp held with ⟨inner, same, _⟩ | ⟨behind, same, broken⟩
  · obtain ⟨noQuote, noApostrophe, noSign⟩ := unmarked mark (same ▸ List.mem_append_left _ inStart)
    simp [noQuote, noApostrophe, noSign] at marked
  · cases behind with
    | nil =>
        have inFront : mark ∈ front := by simpa [same] using inStart
        obtain ⟨noQuote, noApostrophe, noSign⟩ := unmarked mark inFront
        simp [noQuote, noApostrophe, noSign] at marked
    | cons d behind =>
        have mark := ended d (by rw [broken]; rfl)
        have inside := visible d (by rw [same]; simp)
        simp [mark] at inside

end Lexer

/-! ## Names -/

theorem unquoted_of_letter {c : Char} (letter : isIdentifierContinue c = true) :
    c ≠ '"' ∧ c.toNat ≠ 39 ∧ c ≠ '#' := by
  have outside := letter_notMem_marks letter
  refine ⟨?_, ?_, ?_⟩
  · rintro rfl
    exact outside (by decide +kernel)
  · intro same
    have quote : c = apostrophe := by rw [apostrophe, ← same, Char.ofNat_toNat]
    exact outside (quote ▸ by decide +kernel)
  · rintro rfl
    exact outside (by decide +kernel)

/-- The letters of a word: one that may begin an identifier, and others. -/
theorem letters_of_isWord {text : String} (word : Naming.isWord text = true) :
    ∃ c front, text.toList = c :: front ∧ isIdentifierStart c = true ∧
      ∀ d ∈ c :: front, isIdentifierContinue d = true := by
  cases held : text.toList with
  | nil => simp [Naming.isWord, held] at word
  | cons c front =>
      simp only [Naming.isWord, held, Bool.and_eq_true, List.all_eq_true] at word
      refine ⟨c, front, rfl, word.1, List.forall_mem_cons.mpr ⟨?_, word.2⟩⟩
      exact isIdentifierContinue_of_start word.1

variable {text : String} {rest : List Char}

theorem letter_of_isWord {c : Char} (word : Naming.isWord text = true) (member : c ∈ text.toList) :
    isIdentifierContinue c = true := by
  obtain ⟨_, _, held, _, letters⟩ := letters_of_isWord word
  exact letters c (held ▸ member)

/-- A word has no marks, and so neither that of a raw identifier nor those of a path. -/
theorem mark_notMem_of_isWord {mark : Char} (word : Naming.isWord text = true)
    (isMark : mark ∈ marks) : mark ∉ text.toList :=
  fun member => letter_notMem_marks (letter_of_isWord word member) isMark

theorem identifierLength_append (word : Naming.isWord text = true)
    (ended : ∀ c ∈ rest.head?, isIdentifierContinue c = false) :
    identifierLength (text.toList ++ rest) = text.toList.length := by
  obtain ⟨c, front, held, start, letters⟩ := letters_of_isWord word
  rw [held, List.cons_append, identifierLength, if_pos start,
    takeWhile_append_ended (fun d member => letters d (List.mem_cons_of_mem c member)) ended]
  rfl

theorem identifier?_raw (word : Naming.isWord text = true) (allowed : text ∉ neverRaw)
    (ended : ∀ c ∈ rest.head?, isIdentifierContinue c = false) :
    identifier? ('r' :: '#' :: (text.toList ++ rest)) =
      some (⟨text, true⟩, text.toList.length + 2) := by
  have raw : startsWith ('r' :: '#' :: (text.toList ++ rest)) "r#" = true := by
    simp [startsWith]
  have length := identifierLength_append word ended
  have filled : text.toList.length ≠ 0 := by
    obtain ⟨c, front, held, _⟩ := letters_of_isWord word
    simp [held]
  simp only [identifier?, raw, if_true, List.drop_succ_cons, List.drop_zero, length,
    if_neg filled, List.take_left, String.ofList_toList]
  rw [if_neg (by simpa using allowed)]

theorem identifier?_plain (word : Naming.isWord text = true) (ended : Break rest) :
    identifier? (text.toList ++ rest) = some (⟨text, false⟩, text.toList.length) := by
  obtain ⟨c, front, held, start, letters⟩ := letters_of_isWord word
  have plain : startsWith (text.toList ++ rest) "r#" = false := by
    rw [← Bool.not_eq_true, held]
    intro begins
    obtain ⟨more, same⟩ := List.isPrefixOf_iff_prefix.mp begins
    cases front with
    | nil =>
        obtain ⟨_, broken⟩ := List.cons.inj same
        have mark := ended '#' (by rw [show rest = _ from broken.symm]; rfl)
        exact absurd mark (by decide)
    | cons d front =>
        obtain ⟨_, broken⟩ := List.cons.inj same
        obtain ⟨sign, _⟩ := List.cons.inj broken
        exact (unquoted_of_letter (letters d (by simp))).2.2 sign.symm
  have length := identifierLength_append word ended.letters
  have filled : text.toList.length ≠ 0 := by simp [held]
  simp only [identifier?, plain, Bool.false_eq_true, if_false, length, if_neg filled,
    List.take_left, String.ofList_toList]

/-- Printed names are read again, wherever they end. -/
theorem identifier?_written {name : Identifier} (legal : name.Legal) (ended : Break rest) :
    identifier? (name.written.toList ++ rest) = some (name, name.written.toList.length) := by
  obtain ⟨text, isRaw⟩ := name
  cases isRaw with
  | false =>
      rw [Identifier.written, if_neg Bool.false_ne_true]
      exact identifier?_plain legal.word ended
  | true =>
      rw [Identifier.written, if_pos rfl, String.toList_append]
      exact identifier?_raw legal.word (legal.allowed rfl) ended.letters

theorem written_letters {name : Identifier} (legal : name.Legal) :
    ∃ c front, name.written.toList = c :: front ∧ isIdentifierStart c = true ∧
      (∀ d ∈ c :: front, d ≠ '"' ∧ d.toNat ≠ 39) ∧
      ∀ rest, Break rest → literalStarts.any (startsWith (c :: (front ++ rest))) = false := by
  obtain ⟨text, isRaw⟩ := name
  obtain ⟨c, front, held, start, letters⟩ := letters_of_isWord legal.word
  have unquoted : ∀ d ∈ c :: front, d ≠ '"' ∧ d.toNat ≠ 39 ∧ d ≠ '#' := fun d member =>
    unquoted_of_letter (letters d member)
  have quoteless : ∀ d ∈ c :: front, d ≠ '"' ∧ d.toNat ≠ 39 := fun d member =>
    ⟨(unquoted d member).1, (unquoted d member).2.1⟩
  cases isRaw with
  | false =>
      rw [Identifier.written, if_neg Bool.false_ne_true]
      refine ⟨c, front, held, start, quoteless, fun rest ended => ?_⟩
      refine literalStarts_eq_false (c :: front) (fun mark member => ?_) ended
      obtain ⟨noQuote, noApostrophe, noSign⟩ := unquoted mark member
      exact ⟨noQuote, fun same => noApostrophe (by rw [same]; decide), noSign⟩
  | true =>
      rw [Identifier.written, if_pos rfl, String.toList_append, held]
      refine ⟨'r', '#' :: c :: front, rfl, by decide, ?_, fun rest ended => ?_⟩
      · refine List.forall_mem_cons.mpr ⟨by decide, List.forall_mem_cons.mpr ⟨by decide, ?_⟩⟩
        exact quoteless
      · obtain ⟨noQuote, _, noSign⟩ := unquoted c List.mem_cons_self
        simp [literalStarts, startsWith, List.isPrefixOf, Ne.symm noQuote, Ne.symm noSign]

/-- A word is no literal and begins none. -/
theorem leaf?_written {name : Identifier} (legal : name.Legal) (ended : Break rest)
    (position : Position) :
    leaf? (name.written.toList ++ rest) position =
      some (.word name position, name.written.toList.length) := by
  have read := identifier?_written legal ended
  obtain ⟨c, front, held, start, unquoted, noLiteral⟩ := written_letters legal
  rw [held, List.cons_append] at read ⊢
  rw [leaf?, Literal.length?_eq_none (isDigit_eq_false start) unquoted ended]
  simp [isPunctuation_letter (isIdentifierContinue_of_start start), noLiteral rest ended, read]

theorem tokenize_written {name : Identifier} (legal : name.Legal) :
    tokenize name.written.toList = some [.word name .start] := by
  have read := leaf?_written legal .nil .start
  obtain ⟨c, front, held, start, _⟩ := written_letters legal
  rw [List.append_nil] at read
  rw [held] at read ⊢
  exact tokenize_leaf (isIdentifierContinue_of_start start) read

theorem Reader.identifier_written {name : Identifier} (legal : name.Legal)
    (isName : name.isName = true) : Reader.identifier name.written = .ok name := by
  have read : Parser.name ⟨[.word name .start], [], none⟩ =
      .ok ((name, .start), ⟨[], [.word name .start], none⟩) := by
    change (if name.isName then _ else _ : Parser _) _ = _
    rw [if_pos isName]
    rfl
  rw [Reader.identifier, parseAll, tokenize_written legal]
  change Parser.runAll (Parser.name >>= fun found => pure found.1) [.word name .start] = _
  have completed : (Parser.name >>= fun found => pure found.1 : Parser Identifier)
      ⟨[.word name .start], [], none⟩ = .ok (name, ⟨[], [.word name .start], none⟩) :=
    Parser.bind_eq_ok.mpr ⟨_, _, read, rfl⟩
  rw [Parser.runAll, StateT.run, completed]
  rfl

/-- A word that is read as an identifier is that identifier, written plainly. -/
theorem Reader.identifier_eq_plain {text : String} {name : Identifier}
    (isWord : Naming.isWord text = true) (read : Reader.identifier text = .ok name) :
    name = .plain text := by
  obtain ⟨tokens, _, _, tokenized, named⟩ := identifier_eq_ok read
  have plain : (Identifier.plain text).Legal := ⟨isWord, nofun⟩
  obtain ⟨_, _, held⟩ := Parser.name_eq_ok named
  have single : tokenize text.toList = some [.word (.plain text) .start] := tokenize_written plain
  cases tokenized.symm.trans single
  cases held
  rfl

end Source

end StorageMapping
