import StorageMapping.Proofs.Source.Places
import StorageMapping.Proofs.Source.Words

namespace StorageMapping.Source

/-! # Printed tokens are read back

Printed tokens stand one blank apart. They are read as the same tokens where each of them can be
read by itself, and where a joint character has something behind it that continues it. -/

open Text Lexer

/-- A literal that is read as such wherever it ends. -/
def Literal.Readable (text : String) : Prop :=
  ∀ rest, Break rest → length? (text.toList ++ rest) = some text.toList.length

namespace Token

/-- May a token stand behind a joint character? The two begin no comment. -/
def Continues (c : Char) : Token → Prop
  | .punctuation d _ _ => ¬ (c = '/' ∧ (d = '/' ∨ d = '*'))
  | .lifetime _ _ => True
  | .literal text _ => text.toList.head? = some apostrophe
  | _ => False

def Admits (next : Option Token) : Token → Prop
  | .punctuation c true _ => ∃ follower ∈ next, follower.Continues c
  | _ => True

/-- Behind every joint character stands a token that continues it. -/
def Spaced : List Token → Prop
  | [] => True
  | token :: rest => token.Admits rest.head? ∧ Spaced rest

/-- A token that can be read by itself, and so can everything in it. -/
inductive Readable : Token → Prop
  | word {name position} (legal : name.Legal) : Readable (.word name position)
  | lifetime {name position} (legal : name.Legal) : Readable (.lifetime name position)
  | punctuation {char joint position} (mark : char ∈ punctuationMarks)
      (other : char ≠ apostrophe) : Readable (.punctuation char joint position)
  | literal {text position} (readable : Literal.Readable text) :
      Readable (.literal text position)
  | group {delimiter inner opening closing} (inside : ∀ token ∈ inner, Readable token)
      (spaced : Spaced inner) : Readable (.group delimiter inner opening closing)

theorem Admits.of_none {token : Token} (ended : token.Admits none) (next : Option Token) :
    token.Admits next := by
  cases token with
  | punctuation c joint position =>
      cases joint with
      | false => trivial
      | true =>
          obtain ⟨_, absent, _⟩ := ended
          cases absent
  | _ => trivial

theorem Spaced.append {front back : List Token} (first : Spaced front) (second : Spaced back) :
    Spaced (front ++ back) := by
  induction front with
  | nil => exact second
  | cons token rest ih =>
      refine ⟨?_, ih first.2⟩
      cases rest with
      | nil => exact first.1.of_none _
      | cons next rest => exact first.1

theorem Spaced.of_append {front back : List Token} (all : Spaced (front ++ back)) :
    Spaced back := by
  induction front with
  | nil => exact all
  | cons token rest ih => exact ih all.2

end Token

/-- Tokens whose text falls into the same tokens again. -/
structure Tidy (tokens : List Token) : Prop where
  readable : ∀ token ∈ tokens, token.Readable
  spaced : Token.Spaced tokens

namespace Tidy

variable {token : Token} {front back : List Token}

theorem nil : Tidy [] where
  readable := by simp
  spaced := trivial

theorem single (readable : token.Readable) (ended : token.isJoint = false) : Tidy [token] where
  readable := by simpa using readable
  spaced := by
    refine ⟨?_, trivial⟩
    cases token with
    | punctuation c joint position =>
        cases joint with
        | false => trivial
        | true => contradiction
    | _ => trivial

theorem append (first : Tidy front) (second : Tidy back) : Tidy (front ++ back) where
  readable token member := by
    rcases List.mem_append.mp member with before | behind
    · exact first.readable token before
    · exact second.readable token behind
  spaced := first.spaced.append second.spaced

theorem of_append (all : Tidy (front ++ back)) : Tidy back where
  readable token member := all.readable token (List.mem_append_right front member)
  spaced := all.spaced.of_append

theorem of_suffix (all : Tidy front) (suffix : back <:+ front) : Tidy back := by
  obtain ⟨before, rfl⟩ := suffix
  exact all.of_append

theorem tail (all : Tidy (token :: back)) : Tidy back := all.of_suffix (List.suffix_cons _ _)

theorem flatMap {α : Type} {items : List α} {f : α → List Token}
    (each : ∀ item ∈ items, Tidy (f item)) : Tidy (items.flatMap f) := by
  induction items with
  | nil => exact .nil
  | cons item rest ih =>
      rw [List.flatMap_cons]
      exact (each item List.mem_cons_self).append
        (ih fun other member => each other (List.mem_cons_of_mem item member))

theorem group {delimiter : Delimiter} {inner : List Token} {opening closing : Position}
    (inside : Tidy inner) : Tidy [.group delimiter inner opening closing] :=
  .single (.group inside.readable inside.spaced) rfl

end Tidy

/-! ## Single tokens -/

namespace Literal

variable {c : Char} {rest : List Char}

/-- The first characters of literals. -/
def Opens (c : Char) : Prop := c ∈ ['"', 'r', 'b', 'c'] ∨ c.toNat = 39 ∨ isDigit c = true

theorem opens_of_length? {length : Nat} (found : length? (c :: rest) = some length) : Opens c := by
  by_contra closed
  simp only [Opens, List.mem_cons, List.not_mem_nil, or_false, not_or, Bool.not_eq_true] at closed
  obtain ⟨⟨quote, r, b, terminated⟩, apostrophe, digit⟩ := closed
  have unquoted : read? (c :: rest) = none := by
    unfold read?
    split <;> first | rfl | (rename_i held; cases held; contradiction)
  have uncharacter : quotedCharacterLength (c :: rest) = none := by
    unfold quotedCharacterLength
    split
    · rename_i held
      exact absurd (List.cons.inj held).1 b
    · rename_i held
      obtain ⟨rfl, _⟩ := List.cons.inj held
      rw [if_neg apostrophe]
    · rfl
  rw [length?, unquoted, uncharacter, decimalLength_eq_none digit, integerLength_eq_none digit]
    at found
  cases found

theorem length?_nil : length? [] = none := rfl

theorem Opens.starts (opens : Opens c) (rest : List Char) :
    Starts (c :: rest) ∧ opening? c = none ∧ closing? c = none := by
  rcases opens with letter | quote | digit
  · simp only [List.mem_cons, List.not_mem_nil, or_false] at letter
    rcases letter with rfl | rfl | rfl | rfl
    · exact ⟨starts_of_visible (by decide), by decide⟩
    all_goals exact ⟨starts_of_letter (by decide), bracket_letter (by decide)⟩
  · have same : c = apostrophe := by rw [apostrophe, ← quote, Char.ofNat_toNat]
    subst same
    exact ⟨starts_of_visible (by decide), by decide⟩
  · have letter := isIdentifierContinue_of_digit digit
    exact ⟨starts_of_letter letter, bracket_letter letter⟩

end Literal

namespace Lexer

variable {c : Char} {rest : List Char}

theorem mark_closed (mark : c ∈ punctuationMarks) (other : c ≠ apostrophe) :
    ¬ Literal.Opens c ∧ isBlank c = false ∧ opening? c = none ∧ closing? c = none := by
  have each : ∀ mark ∈ punctuationMarks, mark ≠ apostrophe →
      (mark ∉ ['"', 'r', 'b', 'c'] ∧ mark.toNat ≠ 39 ∧ isDigit mark = false) ∧
        isBlank mark = false ∧ opening? mark = none ∧ closing? mark = none :=
    List.all_iff_forall_prop.mp (by decide +kernel)
  obtain ⟨⟨letter, quote, digit⟩, visible, bracketless⟩ := each c mark other
  refine ⟨?_, visible, bracketless⟩
  rintro (member | same | number)
  · exact letter member
  · exact quote same
  · cases digit.symm.trans number

theorem isPunctuation_cons (mark : c ∈ punctuationMarks)
    (uncommented : ∀ d ∈ rest.head?, ¬ (c = '/' ∧ (d = '/' ∨ d = '*'))) :
    isPunctuation (c :: rest) = true := by
  have line : startsWith (c :: rest) "//" = false := by
    cases rest with
    | nil => simp [startsWith, List.isPrefixOf]
    | cons d rest =>
        have apart := uncommented d (by simp)
        by_cases slash : c = '/'
        · simp [startsWith, List.isPrefixOf, Ne.symm fun same => apart ⟨slash, .inl same⟩]
        · simp [startsWith, List.isPrefixOf, Ne.symm slash]
  have block : startsWith (c :: rest) "/*" = false := by
    cases rest with
    | nil => simp [startsWith, List.isPrefixOf]
    | cons d rest =>
        have apart := uncommented d (by simp)
        by_cases slash : c = '/'
        · simp [startsWith, List.isPrefixOf, Ne.symm fun same => apart ⟨slash, .inr same⟩]
        · simp [startsWith, List.isPrefixOf, Ne.symm slash]
  simp [isPunctuation, line, block, mark]

/-- A punctuation character stands before no comment. -/
theorem starts_of_isPunctuation (found : isPunctuation (c :: rest) = true)
    (visible : isBlank c = false) : Starts (c :: rest) := by
  simp only [isPunctuation, Bool.and_eq_true, Bool.not_eq_true'] at found
  obtain ⟨⟨line, block⟩, mark⟩ := found
  -- whatever begins a comment begins with one of the two marks
  have other : ∀ {start : String} (front : String) {more : List Char},
      start.toList = front.toList ++ more → startsWith (c :: rest) front = false →
        startsWith (c :: rest) start = false := by
    intro start front more longer absent
    rw [← Bool.not_eq_true] at absent ⊢
    intro begins
    apply absent
    rw [startsWith, List.isPrefixOf_iff_prefix] at begins ⊢
    exact (longer ▸ List.prefix_append _ _ : front.toList <+: start.toList).trans begins
  have uncommented : commentLength? (c :: rest) = none := by
    rw [commentLength?, line, block, other "/*" (rfl : "/**/".toList = _) block]
    rfl
  have innerLine : startsWith (c :: rest) "//!" = false := other "//" rfl line
  have innerBlock : startsWith (c :: rest) "/*!" = false := other "/*" rfl block
  have outerLine : startsWith (c :: rest) "///" = false := other "//" rfl line
  have outerBlock : startsWith (c :: rest) "/**" = false := other "/*" rfl block
  refine ⟨fun fuel => ?_, ?_, ?_⟩
  · cases fuel with
    | zero => rfl
    | succ fuel => simp [blankLength, uncommented, visible]
  · simp [docComment?, innerLine, innerBlock, outerLine, outerBlock]
  · have marked : c ∈ punctuationMarks := by simpa using mark
    have other : ∀ mark ∈ punctuationMarks, mark ≠ byteOrderMark :=
      List.all_iff_forall_prop.mp (by decide +kernel)
    simpa using other c marked

theorem lifetime?_written {name : Identifier} (legal : name.Legal) (ended : Break rest) :
    lifetime? (apostrophe :: (name.written.toList ++ rest)) =
      some (name, name.written.toList.length + 1) := by
  have read := identifier?_written legal ended
  have notQuote : ∀ mark ∈ breakMarks, mark ≠ apostrophe ∧ mark ≠ '#' :=
    List.all_iff_forall_prop.mp (by decide)
  rw [lifetime?]
  simp only [ne_eq, not_true_eq_false, if_false, read, Option.bind_eq_bind, Option.bind_some,
    List.drop_left]
  cases rest with
  | nil => rfl
  | cons next rest =>
      obtain ⟨noQuote, noSign⟩ := notQuote next (ended next (by simp))
      simp [noQuote, noSign]

/-- A quote with the name of a lifetime behind it begins no literal. -/
theorem length?_lifetime {name : Identifier} (legal : name.Legal) (ended : Break rest) :
    Literal.length? (apostrophe :: (name.written.toList ++ rest)) = none := by
  obtain ⟨c, front, held, start, unquoted, _⟩ := written_letters legal
  have letter := isIdentifierContinue_of_start start
  have notEscape : c ≠ '\\' := by
    rintro rfl
    exact absurd letter (by decide)
  have behind : ∀ d ∈ (front ++ rest).head?, d.toNat ≠ 39 :=
    ended.unquoted fun d member => (unquoted d (List.mem_cons_of_mem c member)).2
  have unit : Literal.unitLength .text (c :: (front ++ rest)) = some 1 := by
    rw [Literal.unitLength]
    · rfl
    all_goals simp [notEscape]
  have character : Literal.characterLength .text (c :: (front ++ rest)) = none := by
    rw [Literal.characterLength, unit]
    simp only [Option.bind_eq_bind, Option.bind_some, List.drop_succ_cons, List.drop_zero]
    split
    · rename_i d more same
      rw [if_neg (behind d (by rw [same]; rfl))]
    · rfl
  have uncharacter : Literal.quotedCharacterLength (apostrophe :: c :: (front ++ rest)) =
      none := by
    change (if apostrophe.toNat = 39 then
      (Literal.characterLength .text (c :: (front ++ rest))).map (· + 1) else none) = none
    rw [if_pos (by decide), character]
    rfl
  rw [held, List.cons_append, Literal.length?, uncharacter,
    Literal.decimalLength_eq_none (by decide), Literal.integerLength_eq_none (by decide)]
  rfl

theorem leaf?_lifetime {name : Identifier} (legal : name.Legal) (ended : Break rest)
    (position : Position) :
    leaf? (apostrophe :: (name.written.toList ++ rest)) position =
      some (.lifetime name position, name.written.toList.length + 1) := by
  have mark : isPunctuation (apostrophe :: (name.written.toList ++ rest)) = true :=
    isPunctuation_cons (by decide) fun _ _ same => absurd same.1 (by decide)
  rw [leaf?, length?_lifetime legal ended]
  simp [mark, lifetime?_written legal ended]

theorem leaf?_punctuation (mark : c ∈ punctuationMarks) (other : c ≠ apostrophe)
    (apart : isPunctuation (c :: rest) = true) (position : Position) :
    leaf? (c :: rest) position = some (.punctuation c (isPunctuation rest) position, 1) := by
  have noLiteral : Literal.length? (c :: rest) = none := by
    rw [Option.eq_none_iff_forall_ne_some]
    exact fun length found => (mark_closed mark other).1 (Literal.opens_of_length? found)
  rw [leaf?, noLiteral]
  simp [apart, other]

theorem isPunctuation_break (ended : Break rest) : isPunctuation rest = false := by
  have unmarked : ∀ mark ∈ breakMarks, mark ∉ punctuationMarks :=
    List.all_iff_forall_prop.mp (by decide +kernel)
  cases rest with
  | nil => rfl
  | cons c rest => simp [isPunctuation, unmarked c (ended c (by simp))]

end Lexer

namespace Token

variable {token : Token} {after : List Char}

/-- Does a token end where this text follows? -/
def EndsAt (after : List Char) : Token → Prop
  | .punctuation c true _ => isPunctuation after = true ∧ isPunctuation (c :: after) = true
  | _ => Break after

theorem EndsAt.joint {c : Char} {joint : Bool} {position : Position} (mark : c ∈ punctuationMarks)
    (ends : EndsAt after (.punctuation c joint position)) :
    isPunctuation (c :: after) = true ∧ isPunctuation after = joint := by
  cases joint with
  | true => exact ⟨ends.2, ends.1⟩
  | false =>
      refine ⟨isPunctuation_cons mark fun d member same => ?_, isPunctuation_break ends⟩
      have other : ∀ mark ∈ breakMarks, ¬ (mark = '/' ∨ mark = '*') :=
        List.all_iff_forall_prop.mp (by decide)
      exact other d (ends d member) same.2

/-- What continues a joint character is punctuation itself, and begins no comment with it. -/
theorem Readable.isPunctuation {c : Char} (readable : token.Readable) (mark : c ∈ punctuationMarks)
    (continues : token.Continues c) (ends : token.EndsAt after) :
    Lexer.isPunctuation (token.text.toList ++ after) = true ∧
      Lexer.isPunctuation (c :: (token.text.toList ++ after)) = true := by
  have quoted : ∀ text : List Char, text.head? = some apostrophe →
      Lexer.isPunctuation text = true ∧ Lexer.isPunctuation (c :: text) = true := by
    intro text first
    cases text with
    | nil => cases first
    | cons d text =>
        cases first
        exact ⟨isPunctuation_cons (by decide) fun _ _ same => absurd same.1 (by decide),
          isPunctuation_cons mark fun d member same => by
            cases member
            exact absurd same.2 (by decide)⟩
  cases readable with
  | word => contradiction
  | lifetime => exact quoted _ (by simp [text]; rfl)
  | @punctuation d joint position marked other =>
      refine ⟨?_, isPunctuation_cons mark fun e member same => ?_⟩
      · simpa [text] using (ends.joint marked).1
      · have first : d = e := by simpa [text] using member
        exact continues (first ▸ same)
  | @literal text position literal =>
      refine quoted _ ?_
      have first : text.toList.head? = some apostrophe := continues
      simp [Token.text, first]
  | group => contradiction

/-- What follows the first one of some tokens. -/
def behind (token : Token) : List Token → String
  | [] => ""
  | rest => (if token.isJoint then "" else " ") ++ listText rest

theorem listText_cons (token : Token) (rest : List Token) :
    listText (token :: rest) = token.text ++ token.behind rest := by
  cases rest with
  | nil => rw [listText, behind, String.append_empty]
  | cons next rest => rw [listText, behind, String.append_assoc]; simp

theorem endsAt_behind {token : Token} {rest : List Token} (tidy : Tidy (token :: rest))
    (ended : Break after) : token.EndsAt ((token.behind rest).toList ++ after) := by
  induction rest generalizing token with
  | nil =>
      have admits := tidy.spaced.1
      cases token with
      | punctuation c joint position =>
          cases joint with
          | false => simpa [behind, EndsAt] using ended
          | true =>
              obtain ⟨_, absent, _⟩ := admits
              cases absent
      | _ => simpa [behind, EndsAt] using ended
  | cons next rest ih =>
      have nextEnds := ih tidy.tail
      have spaced : ∀ text : List Char, Break (' ' :: text) := fun _ => .cons (by decide)
      cases token with
      | punctuation c joint position =>
          cases joint with
          | false => simpa [behind, EndsAt, isJoint] using spaced _
          | true =>
              obtain ⟨_, same, continues⟩ := tidy.spaced.1
              cases same
              cases tidy.readable _ List.mem_cons_self with
              | punctuation mark other =>
                  have readable := tidy.readable next (by simp)
                  simpa [behind, isJoint, listText_cons, EndsAt] using
                    readable.isPunctuation mark continues nextEnds
      | _ => simpa [behind, EndsAt, isJoint] using spaced _

theorem Readable.starts (readable : token.Readable) (ends : token.EndsAt after) :
    Starts (token.text.toList ++ after) := by
  cases readable with
  | @word name position legal =>
      obtain ⟨c, front, held, start, _⟩ := written_letters legal
      rw [text, held]
      exact starts_of_letter (isIdentifierContinue_of_start start)
  | lifetime legal =>
      rw [text, String.toList_append]
      exact starts_of_visible (by decide)
  | @punctuation c joint position mark other =>
      have apart := (ends.joint mark).1
      simpa [text] using starts_of_isPunctuation apart (mark_closed mark other).2.1
  | @literal text position literal =>
      have found := literal [] .nil
      rw [Token.text]
      cases held : text.toList with
      | nil =>
          rw [held, List.append_nil, Literal.length?_nil] at found
          cases found
      | cons c rest =>
          rw [held, List.cons_append] at found
          exact ((Literal.opens_of_length? found).starts _).1
  | @group delimiter inner opening closing inside spaced =>
      rw [text]
      cases delimiter with
      | parenthesis => simpa [enclose] using starts_of_visible (by decide)
      | bracket => simpa [enclose] using starts_of_visible (by decide)
      | brace =>
          rw [enclose.eq_def]
          dsimp only
          split <;> simpa using starts_of_visible (by decide)

end Token

/-! ## Texts of tokens -/

/-- The lexer gets from one text to another and reads these tokens on its way, wherever they
stand. -/
def Lexer.Reads (text : List Char) (tokens : List Token) (after : List Char) : Prop :=
  ∀ fuel frames done position, text.length < fuel →
    ∃ fuel' position' found, unplacedTokens found = unplacedTokens tokens ∧
      after.length < fuel' ∧
      readTokens fuel frames done position text =
        readTokens fuel' frames (found.reverse ++ done) position' after

namespace Lexer.Reads

variable {text middle after : List Char} {front back : List Token} {c : Char}

theorem nil (text : List Char) : Reads text [] text :=
  fun fuel _ _ position enough => ⟨fuel, position, [], rfl, enough, rfl⟩

theorem append (first : Reads text front middle) (second : Reads middle back after) :
    Reads text (front ++ back) after := by
  intro fuel frames done position enough
  obtain ⟨_, here, before, sameBefore, left, reached⟩ := first fuel frames done position enough
  obtain ⟨_, there, behind, sameBehind, rest, ended⟩ :=
    second _ frames (before.reverse ++ done) here left
  refine ⟨_, there, before ++ behind, ?_, rest, ?_⟩
  · rw [unplacedTokens_append, unplacedTokens_append, sameBefore, sameBehind]
  · rw [reached, ended, List.reverse_append, List.append_assoc]

theorem blank (starts : Starts text) : Reads (' ' :: text) [] text := by
  intro fuel frames done position enough
  obtain ⟨fuel, rfl⟩ : ∃ less, fuel = less + 2 := ⟨fuel - 2, by simp at enough; omega⟩
  have length : blankLength (fuel + 1) (' ' :: text) = 1 := by
    have uncommented : commentLength? (' ' :: text) = none := by
      simp [commentLength?, startsWith, List.isPrefixOf]
    have visible : isBlank ' ' = true := by decide
    simp [blankLength, uncommented, visible, starts.unblank]
  refine ⟨fuel + 2, position.next ' ', [], rfl, ?_, ?_⟩
  · simp only [List.length_cons] at enough
    omega
  · rw [readTokens, readTokens]
    simp only [length, starts.unblank, List.take_succ_cons, List.take_zero, List.drop_succ_cons,
      List.drop_zero]
    rfl

/-- A leaf is read in one step. -/
theorem leaf {token : Token} (starts : Starts (c :: (text ++ after)))
    (bracketless : opening? c = none ∧ closing? c = none)
    (read : ∀ position, ∃ found, found.unplaced = token.unplaced ∧
      leaf? (c :: (text ++ after)) position = some (found, text.length + 1)) :
    Reads (c :: (text ++ after)) [token] after := by
  intro fuel frames done position enough
  obtain ⟨fuel, rfl⟩ : ∃ less, fuel = less + 1 := ⟨fuel - 1, by omega⟩
  obtain ⟨found, same, read⟩ := read position
  refine ⟨fuel, position.advance (c :: text), [found], ?_, ?_, ?_⟩
  · rw [unplacedTokens, unplacedTokens, same]
    rfl
  · simp only [List.length_append, List.length_cons] at enough
    omega
  · rw [readTokens_leaf starts bracketless read, List.take_succ_cons, List.take_left,
      List.drop_succ_cons, List.drop_left]
    rfl

/-- A group is read where its contents are, between its brackets. -/
theorem group {delimiter : Delimiter} {opening closing : Char} {inner : List Token}
    {first last : Position} (opens : opening? opening = some delimiter)
    (closes : closing? closing = some delimiter)
    (starts : Starts (opening :: text)) (ends : Starts (closing :: after))
    (inside : Reads text inner (closing :: after)) :
    Reads (opening :: text) [.group delimiter inner first last] after := by
  intro fuel frames done position enough
  obtain ⟨fuel, rfl⟩ : ∃ less, fuel = less + 1 := ⟨fuel - 1, by omega⟩
  simp only [List.length_cons] at enough
  obtain ⟨left, here, found, same, rest, reached⟩ :=
    inside fuel (⟨delimiter, position, done⟩ :: frames) [] (position.advance [opening]) (by omega)
  obtain ⟨left, rfl⟩ : ∃ less, left = less + 1 := ⟨left - 1, by omega⟩
  have unopened : opening? closing = none := by
    unfold closing? at closes
    split at closes
    all_goals first | rfl | contradiction
  refine ⟨left, here.advance [closing], [.group delimiter found position here], ?_, ?_, ?_⟩
  · simp only [unplacedTokens, Token.unplaced, same]
  · simp only [List.length_cons] at rest
    omega
  · have unmoved : ∀ position : Position, position.advance [] = position := fun _ => rfl
    rw [readTokens]
    simp only [starts.unblank, List.take_zero, unmoved, List.drop_zero, starts.undocumented,
      Option.filter_none, opens, List.take_succ_cons]
    rw [reached, readTokens]
    simp only [ends.unblank, List.take_zero, unmoved, List.drop_zero, ends.undocumented,
      Option.filter_none, unopened, closes, List.take_succ_cons, if_true, List.append_nil,
      List.reverse_reverse]
    rfl

end Lexer.Reads

open Lexer

namespace Token

variable {token : Token} {after : List Char}

theorem text_ne_empty (readable : token.Readable) : token.text ≠ "" := by
  intro empty
  cases readable with
  | @word name position legal =>
      obtain ⟨c, front, held, _⟩ := written_letters legal
      have text : name.written = "" := empty
      rw [text] at held
      cases held
  | lifetime legal => simp [text] at empty
  | punctuation mark other => simp [text] at empty
  | @literal text position literal =>
      have found := literal [] .nil
      have same : text = "" := empty
      rw [same] at found
      cases found
  | @group delimiter inner opening closing inside spaced =>
      rw [text, enclose.eq_def] at empty
      cases delimiter with
      | parenthesis => simp at empty
      | bracket => simp at empty
      | brace =>
          dsimp only at empty
          split at empty <;> simp at empty

theorem listText_isEmpty {tokens : List Token} (tidy : Tidy tokens) :
    (listText tokens).isEmpty = true ↔ tokens = [] := by
  rw [String.isEmpty_iff]
  cases tokens with
  | nil => simp [listText]
  | cons token rest =>
      have filled := text_ne_empty (tidy.readable token List.mem_cons_self)
      simp [listText_cons, filled]

theorem starts_listText {tokens : List Token} (tidy : Tidy tokens) (present : tokens ≠ [])
    (ended : Break after) : Starts ((listText tokens).toList ++ after) := by
  cases tokens with
  | nil => contradiction
  | cons token rest =>
      rw [listText_cons, String.toList_append, List.append_assoc]
      exact (tidy.readable token List.mem_cons_self).starts (endsAt_behind tidy ended)

theorem starts_closing {c : Char} {rest : List Char} (closes : (closing? c).isSome) :
    Starts (c :: rest) := by
  unfold closing? at closes
  split at closes
  · exact starts_of_visible (by decide)
  · exact starts_of_visible (by decide)
  · exact starts_of_visible (by decide)
  · contradiction

theorem reads_word {name : Identifier} {position : Position} (legal : name.Legal)
    (ends : EndsAt after (.word name position)) :
    Reads ((Token.word name position).text.toList ++ after) [.word name position] after := by
  have starts := (Readable.word legal).starts ends
  have read := leaf?_written legal ends
  obtain ⟨c, front, held, start, _⟩ := written_letters legal
  rw [text, held] at starts ⊢
  rw [held] at read
  exact .leaf starts (bracket_letter (isIdentifierContinue_of_start start)) fun here =>
    ⟨.word name here, rfl, read here⟩

theorem reads_lifetime {name : Identifier} {position : Position} (legal : name.Legal)
    (ends : EndsAt after (.lifetime name position)) :
    Reads ((Token.lifetime name position).text.toList ++ after) [.lifetime name position]
      after := by
  have starts := (Readable.lifetime legal).starts ends
  have quote : "'".toList = [apostrophe] := by decide
  rw [text, String.toList_append, quote] at starts ⊢
  exact .leaf starts (by decide) fun here =>
    ⟨.lifetime name here, rfl, leaf?_lifetime legal ends here⟩

theorem reads_punctuation {c : Char} {joint : Bool} {position : Position}
    (mark : c ∈ punctuationMarks) (other : c ≠ apostrophe)
    (ends : EndsAt after (.punctuation c joint position)) :
    Reads ((Token.punctuation c joint position).text.toList ++ after)
      [.punctuation c joint position] after := by
  have starts := (Readable.punctuation mark other).starts ends
  obtain ⟨apart, continued⟩ := ends.joint mark
  rw [text, String.toList_singleton] at starts ⊢
  refine .leaf starts (mark_closed mark other).2.2 fun here => ?_
  exact ⟨_, by rw [continued]; rfl, leaf?_punctuation mark other apart here⟩

theorem reads_literal {text : String} {position : Position} (literal : Literal.Readable text)
    (ends : EndsAt after (.literal text position)) :
    Reads ((Token.literal text position).text.toList ++ after) [.literal text position]
      after := by
  have starts := (Readable.literal literal).starts ends
  have found := literal after ends
  rw [Token.text] at starts ⊢
  cases held : text.toList with
  | nil =>
      have empty := literal [] .nil
      rw [held] at empty
      cases empty
  | cons c rest =>
      rw [held] at starts found
      have bracketless := (Literal.opens_of_length? found).starts rest
      have whole : String.ofList ((c :: (rest ++ after)).take (c :: rest).length) = text := by
        rw [← List.cons_append, List.take_left, ← held, String.ofList_toList]
      refine .leaf starts bracketless.2 fun here => ⟨.literal text here, rfl, ?_⟩
      rw [List.cons_append] at found
      rw [leaf?, found]
      simp only [whole]
      rfl

/-- A group in braces is set off from them by blanks, unless it is empty. -/
theorem reads_braces {inner : List Token} {opening closing : Position} (tidy : Tidy inner)
    (reads : ∀ after, Break after → Reads ((listText inner).toList ++ after) inner after) :
    Reads ((Token.group .brace inner opening closing).text.toList ++ after)
      [.group .brace inner opening closing] after := by
  have ending : Reads (' ' :: '\x7d' :: after) [] ('\x7d' :: after) :=
    .blank (starts_closing (by decide))
  have braces : ∀ text : List Char, Starts ('\x7b' :: text) := fun text =>
    starts_of_visible (by decide)
  rw [text, enclose.eq_def]
  dsimp only
  split
  · rename_i empty
    have none : inner = [] := (listText_isEmpty tidy).mp empty
    subst none
    exact .group rfl rfl (braces _) (starts_closing (by decide)) ending
  · rename_i filled
    have present : inner ≠ [] := fun none => filled ((listText_isEmpty tidy).mpr none)
    have starts : Starts ((listText inner).toList ++ ' ' :: '\x7d' :: after) :=
      starts_listText tidy present (.cons (by decide))
    have all := (Reads.blank starts).append ((reads _ (.cons (by decide))).append ending)
    rw [List.nil_append, List.append_nil] at all
    have grouped : ∀ first last, Reads _ [.group .brace inner first last] after :=
      fun _ _ => .group rfl rfl (braces _) (starts_closing (by decide)) all
    simpa using grouped opening closing

theorem reads_group {delimiter : Delimiter} {inner : List Token} {opening closing : Position}
    (tidy : Tidy inner)
    (reads : ∀ after, Break after → Reads ((listText inner).toList ++ after) inner after) :
    Reads ((Token.group delimiter inner opening closing).text.toList ++ after)
      [.group delimiter inner opening closing] after := by
  cases delimiter with
  | parenthesis =>
      rw [text]
      simpa [enclose] using Reads.group rfl rfl (starts_of_visible (by decide))
        (starts_closing (by decide)) (reads (')' :: after) (.cons (by decide)))
  | bracket =>
      rw [text]
      simpa [enclose] using Reads.group rfl rfl (starts_of_visible (by decide))
        (starts_closing (by decide)) (reads (']' :: after) (.cons (by decide)))
  | brace => exact reads_braces tidy reads

mutual

theorem Readable.reads : ∀ (token : Token), token.Readable → ∀ after, token.EndsAt after →
    Reads (token.text.toList ++ after) [token] after
  | .word .., .word legal, _, ends => reads_word legal ends
  | .lifetime .., .lifetime legal, _, ends => reads_lifetime legal ends
  | .punctuation .., .punctuation mark other, _, ends => reads_punctuation mark other ends
  | .literal .., .literal readable, _, ends => reads_literal readable ends
  | .group _ inner _ _, .group inside spaced, _, _ =>
      reads_group ⟨inside, spaced⟩ (Readable.listReads inner ⟨inside, spaced⟩)

theorem Readable.listReads : ∀ tokens : List Token, Tidy tokens → ∀ after, Break after →
    Reads ((listText tokens).toList ++ after) tokens after
  | [], _, after, _ => by
      rw [listText]
      exact .nil after
  | [token], tidy, after, ended => by
      have reads := Readable.reads token (tidy.readable token List.mem_cons_self) _
        (endsAt_behind tidy ended)
      rw [listText_cons, String.toList_append, List.append_assoc]
      simpa [behind] using reads
  | token :: next :: rest, tidy, after, ended => by
      have reads := Readable.reads token (tidy.readable token List.mem_cons_self) _
        (endsAt_behind tidy ended)
      have following := Readable.listReads (next :: rest) tidy.tail after ended
      rw [listText_cons, String.toList_append, List.append_assoc]
      refine (reads.append ?_ : Reads _ ([token] ++ next :: rest) after)
      rw [behind]
      · by_cases joint : token.isJoint = true
        · simpa [joint] using following
        · have starts := starts_listText tidy.tail (by simp) ended
          simpa [joint] using (Reads.blank starts).append following
      · simp

end

end Token

/-- The text of tidy tokens falls into the same tokens, each in its own place. -/
theorem tokenize_render {tokens : List Token} (tidy : Tidy tokens) :
    ∃ found, tokenize (render tokens).toList = some found ∧
      unplacedTokens found = unplacedTokens tokens := by
  cases tokens with
  | nil => exact ⟨[], by simp [render, Token.listText, tokenize], rfl⟩
  | cons token rest =>
      have reads := Token.Readable.listReads (token :: rest) tidy [] .nil
      have starts := Token.starts_listText tidy (by simp) .nil
      rw [List.append_nil] at reads starts
      rw [render]
      have filled := Token.text_ne_empty (tidy.readable token List.mem_cons_self)
      cases held : (Token.listText (token :: rest)).toList with
      | nil =>
          have empty : (Token.listText (token :: rest)).isEmpty = true := by
            rw [String.isEmpty_iff, ← String.toList_eq_nil_iff, held]
          cases (Token.listText_isEmpty tidy).mp empty
      | cons c more =>
          rw [held] at reads starts
          obtain ⟨fuel, here, found, same, left, reached⟩ :=
            reads ((c :: more).length + 1) [] [] .start (Nat.lt_succ_self _)
          obtain ⟨fuel, rfl⟩ : ∃ less, fuel = less + 1 := ⟨fuel - 1, by simp at left; omega⟩
          refine ⟨found, ?_, same⟩
          rw [tokenize, if_neg (starts.unmarked c rfl), reached, readTokens_nil,
            List.append_nil, List.reverse_reverse]

end StorageMapping.Source
