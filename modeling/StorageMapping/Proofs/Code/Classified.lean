import Mathlib.Logic.Relation
import StorageMapping.Proofs.Code.Types
import StorageMapping.Proofs.Results
import StorageMapping.Proofs.Source.Places

namespace StorageMapping

/-! # The types that are columns

A type is classified by the last segment of its path and by the only argument of that segment. What
stands around them says nothing: parentheses, invisible groups, and the segments in front. -/

open Source Code

/-- A written type has the name of a column type, or is a vector of bytes. -/
inductive ColumnType.WrittenAs (type : TypeExpr) : ColumnType → Prop
  | boolean (named : Named "bool" type) : WrittenAs type .boolean
  | int8 (named : Named "i8" type) : WrittenAs type .int8
  | int16 (named : Named "i16" type) : WrittenAs type .int16
  | int32 (named : Named "i32" type) : WrittenAs type .int32
  | int64 (named : Named "i64" type) : WrittenAs type .int64
  | float32 (named : Named "f32" type) : WrittenAs type .float32
  | float64 (named : Named "f64" type) : WrittenAs type .float64
  | string (named : Named "String" type) : WrittenAs type .string
  | byteArray {byte : TypeExpr} (vector : NamedOf "Vec" byte type) (named : Named "u8" byte) :
      WrittenAs type .byteArray

namespace Column

variable {type other inner : TypeExpr} {segment : PathSegment} {column : ColumnType} {word : String}

/-! ## Last segments -/

theorem lastSegment?_eq_some : lastSegment? type = some segment ↔ EndsWith segment type := by
  refine ⟨fun found => ?_, EndsWith.lastSegment?⟩
  rw [lastSegment?] at found
  fun_induction peel type with
  | case1 inner ih => exact .paren (ih found)
  | case2 inner ih => exact .group (ih found)
  | case3 type =>
      cases type with
      | path rooted segments => exact .path found
      | _ => contradiction

/-- The last segment is a word without arguments. -/
theorem named_iff :
    Named word type ↔ ∃ segment, lastSegment? type = some segment ∧
      segment.name.isWord word = true ∧ segment.arguments = none := by
  constructor
  · rintro ⟨position, ends⟩
    exact ⟨_, lastSegment?_eq_some.mpr ends, Identifier.isWord_iff.mpr rfl, rfl⟩
  · rintro ⟨⟨name, position, arguments⟩, last, isWord, bare⟩
    cases Identifier.isWord_iff.mp isWord
    cases bare
    exact ⟨position, lastSegment?_eq_some.mp last⟩

theorem singleArgument?_eq_some :
    singleArgument? segment = some inner ↔
      ∃ colons trailing, segment.arguments = some (.mk colons [.type inner] trailing) := by
  constructor
  · intro single
    rw [singleArgument?] at single
    split at single
    · rename_i colons type trailing arguments
      cases single
      exact ⟨colons, trailing, arguments⟩
    · contradiction
  · rintro ⟨colons, trailing, arguments⟩
    rw [singleArgument?, arguments]

/-- The last segment is a word with one type for its arguments. -/
theorem namedOf_iff :
    NamedOf word inner type ↔ ∃ segment, lastSegment? type = some segment ∧
      segment.name.isWord word = true ∧ singleArgument? segment = some inner := by
  constructor
  · rintro ⟨position, colons, trailing, ends⟩
    exact ⟨_, lastSegment?_eq_some.mpr ends, Identifier.isWord_iff.mpr rfl, rfl⟩
  · rintro ⟨⟨name, position, arguments⟩, last, isWord, single⟩
    cases Identifier.isWord_iff.mp isWord
    obtain ⟨colons, trailing, known⟩ := singleArgument?_eq_some.mp single
    cases known
    exact ⟨position, colons, trailing, lastSegment?_eq_some.mp last⟩

/-! ## Scalars and options -/

theorem isByte_iff : isByte type = true ↔ Named "u8" type := by
  rw [isByte, Option.any_eq_true, named_iff]
  simp only [Bool.and_eq_true, Option.isNone_iff_eq_none]

/-- A word of the table has its column type. -/
theorem writtenAs_of_word {entry : String × ColumnType} (member : entry ∈ scalarWords)
    (named : Named entry.1 type) : entry.2.WrittenAs type := by
  simp only [scalarWords, List.mem_cons, List.not_mem_nil, or_false] at member
  rcases member with rfl | rfl | rfl | rfl | rfl | rfl | rfl | rfl <;> constructor <;> exact named

theorem writtenAs_of_scalar? (known : scalar? type = some column) : column.WrittenAs type := by
  obtain ⟨segment, last, inside⟩ := Option.bind_eq_some_iff.mp known
  by_cases vector : segment.name.isWord "Vec" = true
  · rw [if_pos vector] at inside
    obtain ⟨byte, single, kind⟩ := Option.bind_eq_some_iff.mp inside
    split at kind
    · rename_i isByte
      cases kind
      exact .byteArray (namedOf_iff.mpr ⟨segment, last, vector, single⟩) (isByte_iff.mp isByte)
    · contradiction
  · rw [if_neg vector] at inside
    split at inside
    · contradiction
    · rename_i bare
      obtain ⟨⟨word, kind⟩, found, rfl⟩ := Option.map_eq_some_iff.mp inside
      have isWord : segment.name.isWord word = true := by simpa using List.find?_some found
      refine writtenAs_of_word (List.mem_of_find?_eq_some found) (named_iff.mpr ?_)
      exact ⟨segment, last, isWord, by simpa using bare⟩

theorem scalar?_of_writtenAs (written : column.WrittenAs type) : scalar? type = some column := by
  cases written with
  | byteArray vector named =>
      obtain ⟨segment, last, isWord, single⟩ := namedOf_iff.mp vector
      have byte : isByte _ = true := isByte_iff.mpr named
      simp [scalar?, last, isWord, single, byte]
  | _ named => exact scalar?_of_named named (by decide)

theorem optional?_eq_some : optional? type = some inner ↔ NamedOf "Option" inner type := by
  rw [namedOf_iff, optional?]
  constructor
  · intro found
    obtain ⟨segment, last, inside⟩ := Option.bind_eq_some_iff.mp found
    split at inside
    · rename_i isWord
      exact ⟨segment, last, isWord, inside⟩
    · contradiction
  · rintro ⟨segment, last, isWord, single⟩
    simp [last, isWord, single]

/-- What names a column type names no optional one. -/
theorem optional?_of_writtenAs (written : column.WrittenAs type) : optional? type = none := by
  cases written with
  | byteArray vector named =>
      obtain ⟨segment, last, isWord, _⟩ := namedOf_iff.mp vector
      have different : segment.name.isWord "Option" = false := by
        rw [Identifier.isWord_iff.mp isWord]
        rfl
      simp [optional?, last, different]
  | _ named => exact optional?_of_named named (by decide)

/-! ## Field types -/

theorem toOption_classify (type : TypeExpr) :
    (classify type).toOption =
      match optional? type with
      | some inner => (scalar? inner).map fun column => ⟨column, true⟩
      | none => (scalar? type).map fun column => ⟨column, false⟩ := by
  rw [classify]
  cases optional? type with
  | none => dsimp only; cases scalar? type <;> rfl
  | some inner => dsimp only; cases scalar? inner <;> rfl

theorem classify_required :
    classify type = .ok ⟨column, false⟩ ↔ column.WrittenAs type := by
  rw [← Results.toOption_eq_some, toOption_classify]
  constructor
  · intro found
    split at found
    · simp at found
    · obtain ⟨kind, known, same⟩ := Option.map_eq_some_iff.mp found
      cases same
      exact writtenAs_of_scalar? known
  · intro written
    simp [optional?_of_writtenAs written, scalar?_of_writtenAs written]

theorem classify_nullable :
    classify type = .ok ⟨column, true⟩ ↔
      ∃ inner, NamedOf "Option" inner type ∧ column.WrittenAs inner := by
  rw [← Results.toOption_eq_some, toOption_classify]
  constructor
  · intro found
    split at found
    · rename_i inner known
      obtain ⟨kind, scalar, same⟩ := Option.map_eq_some_iff.mp found
      cases same
      exact ⟨inner, optional?_eq_some.mp known, writtenAs_of_scalar? scalar⟩
    · simp at found
  · rintro ⟨inner, named, written⟩
    simp [optional?_eq_some.mpr named, scalar?_of_writtenAs written]

/-- A refusal gives the text of the type for its reason. -/
theorem classify_eq_error {reason : String} :
    classify type = .error reason ↔
      reason = type.text ∧ ∀ fieldType, classify type ≠ .ok fieldType := by
  constructor
  · intro refused
    refine ⟨?_, by simp [refused]⟩
    rw [classify] at refused
    split at refused
    · contradiction
    · exact (Except.error.inj refused).symm
  · rintro ⟨rfl, never⟩
    rw [classify]
    split
    · rename_i fieldType found
      exact absurd (by rw [classify, found]) (never fieldType)
    · rfl

/-- An option of an option is no column. -/
theorem classify_nested (named : NamedOf "Option" inner type)
    (nullable : classify inner = .ok ⟨column, true⟩) : classify type = .error type.text := by
  refine classify_eq_error.mpr ⟨rfl, fun ⟨kind, isNullable⟩ found => ?_⟩
  have optional : optional? type = some inner := optional?_eq_some.mpr named
  cases isNullable with
  | false => simp [optional?_of_writtenAs (classify_required.mp found)] at optional
  | true =>
      obtain ⟨innerToo, namedToo, written⟩ := classify_nullable.mp found
      have same : innerToo = inner :=
        Option.some.inj ((optional?_eq_some.mpr namedToo).symm.trans optional)
      have required := classify_required.mpr (same ▸ written)
      rw [nullable] at required
      cases required

/-! ## Ornaments -/

/-- A path with arguments at one of its segments. -/
def pathWith (rooted : Bool) (front : List PathSegment) (name : Identifier) (position : Position)
    (back : List PathSegment) (arguments : PathArguments) : TypeExpr :=
  .path rooted (front ++ .mk name position (some arguments) :: back)

/-- Adds parentheses, an invisible group or segments in front, around a type or to a part of it.
What a type keeps as mere tokens may change in any way. -/
inductive Ornamented : TypeExpr → TypeExpr → Prop
  | paren {type : TypeExpr} : Ornamented type (.paren type)
  | group {type : TypeExpr} : Ornamented type (.group type)
  | leading {rooted rootedToo : Bool} {front segments : List PathSegment}
      (present : segments ≠ []) :
      Ornamented (.path rooted segments) (.path rootedToo (front ++ segments))
  | inParen {type other : TypeExpr} (inside : Ornamented type other) :
      Ornamented (.paren type) (.paren other)
  | inGroup {type other : TypeExpr} (inside : Ornamented type other) :
      Ornamented (.group type) (.group other)
  | inArgument {rooted colons trailing : Bool} {front back : List PathSegment} {name : Identifier}
      {position : Position} {before behind : List PathArgument} {type other : TypeExpr}
      (inside : Ornamented type other) :
      Ornamented
        (pathWith rooted front name position back
          (.mk colons (before ++ .type type :: behind) trailing))
        (pathWith rooted front name position back
          (.mk colons (before ++ .type other :: behind) trailing))
  | inTokens {rooted colons trailing : Bool} {front back : List PathSegment} {name : Identifier}
      {position : Position} {before behind : List PathArgument} {tokens others : List Token} :
      Ornamented
        (pathWith rooted front name position back
          (.mk colons (before ++ .other tokens :: behind) trailing))
        (pathWith rooted front name position back
          (.mk colons (before ++ .other others :: behind) trailing))
  | inParentheses {rooted : Bool} {front back : List PathSegment} {name : Identifier}
      {position : Position} {inputs output otherInputs otherOutput : List Token} :
      Ornamented (pathWith rooted front name position back (.parenthesized inputs output))
        (pathWith rooted front name position back (.parenthesized otherInputs otherOutput))
  | qualified {head otherHead : List Token} {segments others : List PathSegment} :
      Ornamented (.qualified head segments) (.qualified otherHead others)
  | other {tokens others : List Token} : Ornamented (.other tokens) (.other others)

/-- Two types are the same to the classification, wherever they stand. -/
structure Alike (type other : TypeExpr) : Prop where
  byte : isByte other = isByte type
  scalar : scalar? other = scalar? type
  classified : (classify other).toOption = (classify type).toOption

namespace Alike

theorem of_last (same : lastSegment? other = lastSegment? type) : Alike type other where
  byte := by rw [isByte, isByte, same]
  scalar := by rw [scalar?, scalar?, same]
  classified := by
    rw [toOption_classify, toOption_classify, optional?, optional?, scalar?, scalar?, same]

theorem trans {last : TypeExpr} (first : Alike type other) (second : Alike other last) :
    Alike type last :=
  ⟨second.byte.trans first.byte, second.scalar.trans first.scalar,
    second.classified.trans first.classified⟩

/-- A change in the arguments of the last segment matters only where they are a single type. -/
theorem of_arguments {name : Identifier} {position : Position} {given taken : PathArguments}
    (last : lastSegment? type = some (.mk name position (some given)))
    (lastToo : lastSegment? other = some (.mk name position (some taken)))
    (single : Option.Rel Alike (singleArgument? (.mk name position (some given)))
      (singleArgument? (.mk name position (some taken)))) : Alike type other := by
  have byte : isByte other = isByte type := by
    rw [isByte, isByte, last, lastToo]
    rfl
  have scalar : scalar? other = scalar? type := by
    simp only [scalar?, last, lastToo, Option.bind_eq_bind, Option.bind_some, PathSegment.name,
      PathSegment.arguments, Option.isSome_some, if_true]
    generalize singleArgument? (.mk name position (some given)) = inner at single ⊢
    generalize singleArgument? (.mk name position (some taken)) = innerToo at single ⊢
    cases single with
    | none => rfl
    | some alike => simp only [Option.bind_some, alike.byte]
  have optional : optional? type = if name.isWord "Option" then
      singleArgument? (.mk name position (some given)) else none := by
    rw [optional?, last]
    rfl
  have optionalToo : optional? other = if name.isWord "Option" then
      singleArgument? (.mk name position (some taken)) else none := by
    rw [optional?, lastToo]
    rfl
  refine ⟨byte, scalar, ?_⟩
  rw [toOption_classify, toOption_classify, scalar, optional, optionalToo]
  generalize singleArgument? (.mk name position (some given)) = inner at single ⊢
  generalize singleArgument? (.mk name position (some taken)) = innerToo at single ⊢
  cases single with
  | none => rfl
  | some alike =>
      by_cases isOption : name.isWord "Option" = true
      · simp only [if_pos isOption, alike.scalar]
      · simp only [if_neg isOption]

theorem lastSegment?_pathWith (rooted : Bool) (front : List PathSegment) (name : Identifier)
    (position : Position) (back : List PathSegment) (arguments : PathArguments) :
    lastSegment? (pathWith rooted front name position back arguments) =
      some (back.getLast?.getD (.mk name position (some arguments))) := by
  change (front ++ .mk name position (some arguments) :: back).getLast? = _
  rw [List.getLast?_append, List.getLast?_cons]
  rfl

theorem of_pathWith {rooted : Bool} {front back : List PathSegment} {name : Identifier}
    {position : Position} {given taken : PathArguments}
    (single : Option.Rel Alike (singleArgument? (.mk name position (some given)))
      (singleArgument? (.mk name position (some taken)))) :
    Alike (pathWith rooted front name position back given)
      (pathWith rooted front name position back taken) := by
  cases behind : back.getLast? with
  | none =>
      refine .of_arguments ?_ ?_ single <;>
        rw [lastSegment?_pathWith, behind] <;> rfl
  | some segment =>
      refine .of_last ?_
      rw [lastSegment?_pathWith, lastSegment?_pathWith, behind]
      rfl

/-- An argument counts only where it stands alone. -/
theorem single_listed {name : Identifier} {position : Position} {colons trailing : Bool}
    {before behind : List PathArgument} {given taken : PathArgument}
    (alone : Option.Rel Alike
      (singleArgument? (.mk name position (some (.mk colons [given] trailing))))
      (singleArgument? (.mk name position (some (.mk colons [taken] trailing))))) :
    Option.Rel Alike
      (singleArgument? (.mk name position
        (some (.mk colons (before ++ given :: behind) trailing))))
      (singleArgument? (.mk name position
        (some (.mk colons (before ++ taken :: behind) trailing)))) := by
  match before, behind with
  | [], [] => exact alone
  | [], _ :: _ => cases given <;> cases taken <;> exact .none
  | [first], _ => cases first <;> exact .none
  | first :: _ :: _, _ => cases first <;> exact .none

theorem of_ornamented (ornamented : Ornamented type other) : Alike type other := by
  induction ornamented with
  | paren => exact .of_last rfl
  | group => exact .of_last rfl
  | @leading _ _ front segments present =>
      refine .of_last ?_
      change (front ++ segments).getLast? = segments.getLast?
      rw [List.getLast?_append, List.getLast?_eq_some_getLast present]
      rfl
  | @inParen type other inside alike =>
      have outside : Alike type.paren type := .of_last rfl
      exact (outside.trans alike).trans (.of_last rfl)
  | @inGroup type other inside alike =>
      have outside : Alike type.group type := .of_last rfl
      exact (outside.trans alike).trans (.of_last rfl)
  | inArgument inside alike => exact .of_pathWith (single_listed (.some alike))
  | inTokens => exact .of_pathWith (single_listed .none)
  | inParentheses => exact .of_pathWith .none
  | qualified => exact .of_last rfl
  | other => exact .of_last rfl

theorem of_reflTransGen (ornamented : Relation.ReflTransGen Ornamented type other) :
    Alike type other := by
  induction ornamented with
  | refl => exact of_last rfl
  | tail _ last alike => exact alike.trans (of_ornamented last)

end Alike

/-! ## The classification -/

/-- A type is a required column where it is written as one, and a nullable column where it is an
option of what is a required one. Any other type is refused with its text, and so is an option of an
option. Ornaments make no difference. -/
theorem classify_exact (type : TypeExpr) :
    (∀ column, classify type = .ok ⟨column, false⟩ ↔ column.WrittenAs type) ∧
      (∀ column, classify type = .ok ⟨column, true⟩ ↔
        ∃ inner, NamedOf "Option" inner type ∧ classify inner = .ok ⟨column, false⟩) ∧
      (∀ reason, classify type = .error reason ↔
        reason = type.text ∧ (∀ column : ColumnType, ¬ column.WrittenAs type) ∧
          ∀ inner, NamedOf "Option" inner type → ∀ column : ColumnType, ¬ column.WrittenAs inner) ∧
      (∀ inner column, NamedOf "Option" inner type → classify inner = .ok ⟨column, true⟩ →
        classify type = .error type.text) ∧
      ∀ other, Relation.ReflTransGen Ornamented type other →
        (classify other).toOption = (classify type).toOption := by
  refine ⟨fun column => classify_required, fun column => ?_, fun reason => ?_,
    fun inner column => classify_nested,
    fun other ornamented => (Alike.of_reflTransGen ornamented).classified⟩
  · simp only [classify_required, classify_nullable]
  · rw [classify_eq_error]
    refine and_congr_right fun _ => ⟨fun never => ⟨?_, ?_⟩, ?_⟩
    · intro column written
      exact never _ (classify_required.mpr written)
    · intro inner named column written
      exact never _ (classify_nullable.mpr ⟨inner, named, written⟩)
    · rintro ⟨unwritten, notOption⟩ ⟨column, nullable⟩ found
      cases nullable with
      | false => exact unwritten column (classify_required.mp found)
      | true =>
          obtain ⟨inner, named, written⟩ := classify_nullable.mp found
          exact notOption inner named column written

end Column

end StorageMapping
