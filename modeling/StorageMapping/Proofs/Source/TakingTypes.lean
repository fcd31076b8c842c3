import StorageMapping.Proofs.Source.Takes
import StorageMapping.Source.Reader

namespace StorageMapping.Source

/-! # Paths and types are taken

A path is taken as far as its segments go, and so is a type that is a path, provided that what
follows cannot belong to it. -/

/-- A word that can stand in a path. -/
def Identifier.IsSegment (name : Identifier) : Prop :=
  name.isName = true ∨ ∃ word ∈ Grammar.pathStarts, name = .plain word

instance : DecidablePred Identifier.IsSegment := fun name =>
  inferInstanceAs (Decidable (name.isName = true ∨ ∃ word ∈ Grammar.pathStarts, name = .plain word))

theorem Identifier.isWord_of_isName {name : Identifier} (isName : name.isName = true)
    {word : String} (reserved : reservedWords.contains word = true) : name.isWord word = false := by
  rw [Identifier.isWord]
  by_cases same : name.text = word
  · subst same
    simp_all [Identifier.isName]
  · simp [same]

theorem Identifier.IsSegment.isWord {name : Identifier} (segment : name.IsSegment) {word : String}
    (reserved : (reservedWords.contains word && !Grammar.pathStarts.contains word) = true) :
    name.isWord word = false := by
  rw [Bool.and_eq_true] at reserved
  rcases segment with isName | ⟨start, listed, rfl⟩
  · exact isWord_of_isName isName reserved.1
  · have other : start ≠ word := by
      rintro rfl
      simp_all
    simp [Identifier.isWord, Identifier.plain, other]

namespace Tokens

theorem looks_wordless {tokens : Tokens} (wordless : tokens.atAnyWord = false) :
    (∀ word, tokens.atWord word = false) ∧ (∀ words, tokens.atOneOf words = false) ∧
      tokens.atName = false := by
  match tokens with
  | .word _ _ :: _ => cases wordless
  | [] | .lifetime _ _ :: _ | .punctuation _ _ _ :: _ | .literal _ _ :: _
  | .group _ _ _ _ :: _ =>
      exact ⟨fun _ => rfl, fun _ => List.any_eq_false.mpr fun _ _ => nofun, rfl⟩

/-- None of the given characters stands in front. -/
def Clear (chars : List Char) (tokens : Tokens) : Prop :=
  ∀ c joint position more, tokens = .punctuation c joint position :: more → c ∉ chars

theorem Clear.atOperator {chars : List Char} {tokens : Tokens} (clear : Clear chars tokens)
    {operator : String} (begins : operator.toList.head?.any chars.contains = true) :
    tokens.atOperator operator = false := by
  obtain ⟨c, more, text⟩ : ∃ c more, operator.toList = c :: more := by
    cases text : operator.toList with
    | nil => simp [text] at begins
    | cons c more => exact ⟨c, more, rfl⟩
  rw [Tokens.atOperator, text]
  cases tokens with
  | nil => cases more <;> rfl
  | cons token rest =>
      cases token with
      | punctuation found joint position =>
          have absent := clear found joint position rest rfl
          have other : found ≠ c := by
            rintro rfl
            simp_all
          cases more <;> simp [afterOperator?, other]
      | word | lifetime | literal | group => cases more <;> rfl

theorem Clear.word {chars : List Char} {name : Identifier} {position : Position}
    {rest : Tokens} : Clear chars (.word name position :: rest) := nofun

theorem Clear.group {chars : List Char} {delimiter : Delimiter} {inner rest : Tokens} :
    Clear chars (Token.enclosed delimiter inner :: rest) := nofun

theorem Clear.nil {chars : List Char} : Clear chars [] := nofun

theorem Clear.mark {chars : List Char} {operator : String} {rest : Tokens}
    (other : (operator.toList.head?.any fun c => !chars.contains c) = true) :
    Clear chars (Token.ofOperator operator ++ rest) := by
  intro c joint position more held listed
  rw [Token.ofOperator] at held
  rcases text : operator.toList with _ | ⟨first, _ | ⟨second, more⟩⟩
  · simp [text] at other
  all_goals
    rw [text] at held
    cases held
    simp_all

theorem Clear.fewer {chars others : List Char} {tokens : Tokens} (clear : Clear chars tokens)
    (fewer : others.all chars.contains = true) : Clear others tokens := by
  intro c joint position more held listed
  exact clear c joint position more held (by simpa using List.all_eq_true.mp fewer c listed)

theorem Clear.alike {chars : List Char} {tokens view : Tokens} (clear : Clear chars view)
    (alike : Alike tokens view) : Clear chars tokens := by
  rintro c joint position more rfl
  obtain _ | ⟨token, others⟩ := view
  · cases alike
  · obtain ⟨same, _⟩ := List.cons.inj alike
    cases token <;> cases same
    exact clear c joint _ others rfl

end Tokens

open StorageMapping.Source.Parser

namespace Grammar

variable {g : Grammar} {name : Identifier} {rest : Tokens} {inExpression : Bool}

/-- A grammar that nests at least so deep. -/
inductive Deep : Nat → Grammar → Prop
  | any (g : Grammar) : Deep 0 g
  | deepen {depth : Nat} {g : Grammar} (deep : Deep depth g) : Deep (depth + 1) g.deepen

namespace Deep

theorem shallower {depth : Nat} (deep : Deep (depth + 1) g) : Deep depth g := by
  induction depth generalizing g with
  | zero => exact .any g
  | succ depth ih =>
      cases deep with
      | deepen deep => exact .deepen (ih deep)

theorem mono {depth other : Nat} (deep : Deep depth g) (fewer : other ≤ depth) : Deep other g := by
  induction fewer with
  | refl => exact deep
  | step _ ih => exact ih deep.shallower

/-- What holds of every grammar with one more level holds of one that nests deeper. -/
theorem lift {depth : Nat} {holds : Grammar → Prop} (deep : Deep (depth + 1) g)
    (each : ∀ {g : Grammar}, Deep depth g → holds g.deepen) : holds g := by
  cases deep with
  | deepen deep => exact each deep

theorem ofDepth : ∀ depth, Deep depth (Grammar.ofDepth depth)
  | 0 => .any _
  | depth + 1 => .deepen (ofDepth depth)

end Deep

/-- Do arguments follow a segment? -/
def opensArguments (inExpression : Bool) (tokens : Tokens) : Bool :=
  (!inExpression && tokens.atOperator "<" && !tokens.atOperator "<=")
    || (tokens.atOperator "::" && (tokens.skip 2).atOperator "<")

/-- A segment behind its word. -/
def segmentBehind (g : Grammar) (inExpression : Bool) (found : Identifier × Position) :
    Parser PathSegment := do
  if opensArguments inExpression (← ahead) then
    return .mk found.1 found.2 (some (← g.argumentsForm))
  else return .mk found.1 found.2 none

/-- The segment is taken wherever no arguments follow it. -/
def TakesSegment (g : Grammar) (inExpression : Bool) (segment : PathSegment) : Prop :=
  ∀ rest, opensArguments inExpression rest = false →
    Takes (g.segmentForm inExpression) (segment.tokens ++ rest) rest
      (·.unplaced = segment.unplaced)

theorem opensArguments_alike {found : Tokens} (alike : Tokens.Alike found rest) :
    opensArguments inExpression found = opensArguments inExpression rest := by
  simp only [opensArguments, alike.looks, (alike.skip 2).looks]

theorem takes_segmentBehind (bare : opensArguments inExpression rest = false)
    (found : Identifier × Position) :
    Takes (g.segmentBehind inExpression found) rest rest fun segment =>
      segment.unplaced = (PathSegment.mk found.1 found.2 none).unplaced := by
  refine .ahead fun ahead alike => .second ?_ (.result rfl)
  rw [opensArguments_alike alike, bare]
  exact Bool.false_ne_true

theorem takesSegment_bare {position : Position} (segment : name.IsSegment) :
    TakesSegment g inExpression (.mk name position none) := by
  intro rest bare
  have behind : ∀ found : Identifier × Position, found.1 = name →
      Takes (g.segmentBehind inExpression found) rest rest
        (·.unplaced = (PathSegment.mk name position none).unplaced) := by
    rintro found rfl
    exact takes_segmentBehind bare found
  refine .ahead fun found alike => ?_
  simp only [alike.looks, Tokens.atOneOf]
  by_cases keyword : (["super", "self", "crate", "try"].any name.isWord) = true
  · exact .first keyword (.bind .anyWord fun found same => .result (by rw [← same]; rfl))
  refine .second keyword ?_
  by_cases self : name.isWord "Self" = true
  · exact .first self (.bind .anyWord behind)
  refine .second self (.bind (.name ?_) behind)
  rcases segment with isName | ⟨word, listed, rfl⟩
  · exact isName
  · simp only [pathStarts, List.mem_cons, List.not_mem_nil, or_false] at listed
    rcases listed with rfl | rfl | rfl | rfl <;> simp_all [Identifier.isWord, Identifier.plain]

/-- The segments behind the first one, each behind its colons. -/
def furtherTokens (segments : List PathSegment) : Tokens :=
  segments.flatMap fun segment => Token.ofOperator "::" ++ segment.tokens

theorem segmentsTokens_cons (segment : PathSegment) (others : List PathSegment) :
    segmentsTokens (segment :: others) = segment.tokens ++ furtherTokens others := by
  induction others generalizing segment with
  | nil => simp [segmentsTokens, furtherTokens]
  | cons next others ih =>
      rw [segmentsTokens, ih, furtherTokens, furtherTokens, List.flatMap_cons]
      simp only [List.append_assoc]

theorem tokens_head (segment : PathSegment) : ∃ name position more,
    segment.tokens = .word name position :: more := by
  obtain ⟨name, position, _ | arguments⟩ := segment <;> exact ⟨name, position, _, rfl⟩

/-- What may follow a path. -/
structure EndsPath (inExpression : Bool) (rest : Tokens) : Prop where
  colons : rest.atOperator "::" = false
  angle : inExpression = false → rest.atOperator "<" = false

theorem EndsPath.bare (ends : EndsPath inExpression rest) :
    opensArguments inExpression rest = false := by
  rw [opensArguments, ends.colons]
  cases inExpression <;> simp [ends.angle]

theorem bare_colons (segment : PathSegment) (more : Tokens) :
    opensArguments inExpression (Token.ofOperator "::" ++ (segment.tokens ++ more)) = false := by
  obtain ⟨name, position, tail, held⟩ := tokens_head segment
  rw [held]
  cases inExpression <;> rfl

theorem bare_further (ends : EndsPath inExpression rest) (segments : List PathSegment) :
    opensArguments inExpression (furtherTokens segments ++ rest) = false := by
  cases segments with
  | nil => exact ends.bare
  | cons segment segments =>
      rw [furtherTokens, List.flatMap_cons, List.append_assoc, List.append_assoc]
      exact bare_colons segment _

theorem takes_further {segments : List PathSegment} (ends : EndsPath inExpression rest)
    (each : ∀ segment ∈ segments, g.TakesSegment inExpression segment) :
    Whiles (fun tokens => tokens.atOperator "::" && !(tokens.skip 2).atGroup .parenthesis)
      (do
        operator "::"
        g.segmentForm inExpression)
      (segments.map fun segment found => found.unplaced = segment.unplaced)
      (furtherTokens segments ++ rest) rest := by
  induction segments with
  | nil =>
      refine .stop fun found alike => ?_
      simp only [alike.looks, furtherTokens, List.flatMap_nil, List.nil_append, ends.colons,
        Bool.false_and]
  | cons segment segments ih =>
      obtain ⟨first, others⟩ := List.forall_mem_cons.mp each
      have tokens : furtherTokens (segment :: segments) ++ rest =
          Token.ofOperator "::" ++ (segment.tokens ++ (furtherTokens segments ++ rest)) := by
        simp only [furtherTokens, List.flatMap_cons, List.append_assoc]
      rw [tokens]
      refine .more (fun found alike => ?_)
        (.seq .operator fun _ => first _ (bare_further ends segments)) ?_ (ih others)
      · obtain ⟨name, position, more, held⟩ := tokens_head segment
        rw [held] at alike
        simp only [alike.looks, (alike.skip 2).looks]
        rfl
      · simp only [List.length_append]
        have colons : (Token.ofOperator "::").length = 2 := rfl
        omega

theorem forall₂_segments {segments found : List PathSegment}
    (related : List.Forall₂ (fun value claim => claim value) found
      (segments.map fun segment (found : PathSegment) => found.unplaced = segment.unplaced)) :
    unplacedSegments found = unplacedSegments segments := by
  rw [List.forall₂_map_right_iff] at related
  rw [unplacedSegments_eq_map, unplacedSegments_eq_map]
  induction related with
  | nil => rfl
  | cons here _ ih => rw [List.map_cons, List.map_cons, here, ih]

theorem takes_segmentsForm {segments : List PathSegment} (present : segments ≠ [])
    (ends : EndsPath inExpression rest)
    (each : ∀ segment ∈ segments, g.TakesSegment inExpression segment) :
    Takes (g.segmentsForm inExpression) (segmentsTokens segments ++ rest) rest
      (unplacedSegments · = unplacedSegments segments) := by
  cases segments with
  | nil => contradiction
  | cons segment more =>
      obtain ⟨first, others⟩ := List.forall_mem_cons.mp each
      rw [segmentsTokens_cons, List.append_assoc]
      refine .bind (first _ (bare_further ends more)) fun found same => ?_
      refine .bind (.manyWhile (takes_further ends others)) fun behind related => .result ?_
      rw [unplacedSegments, unplacedSegments, same, forall₂_segments related]

/-- A path is taken as it is printed. -/
theorem takes_pathForm {rooted : Bool} {segments : List PathSegment} (present : segments ≠ [])
    (ends : EndsPath inExpression rest)
    (each : ∀ segment ∈ segments, g.TakesSegment inExpression segment) :
    Takes (g.pathForm inExpression) ((TypeExpr.path rooted segments).tokens ++ rest) rest
      (·.unplaced = (TypeExpr.path rooted segments).unplaced) := by
  rw [TypeExpr.tokens]
  cases rooted with
  | true =>
      rw [if_pos rfl, List.append_assoc]
      refine .bind .acceptOperator fun accepted same => ?_
      refine .bind (takes_segmentsForm present ends each) fun found unplaced => .result ?_
      rw [same, TypeExpr.unplaced, TypeExpr.unplaced, unplaced]
  | false =>
      have unrooted : Tokens.atOperator "::" (segmentsTokens segments ++ rest) = false := by
        obtain ⟨segment, others, rfl⟩ := List.exists_cons_of_ne_nil present
        obtain ⟨name, position, more, held⟩ := tokens_head segment
        rw [segmentsTokens_cons, held]
        rfl
      refine .bind (.declineOperator unrooted) fun accepted same => ?_
      refine .bind (takes_segmentsForm present ends each) fun found unplaced => .result ?_
      rw [same, TypeExpr.unplaced, TypeExpr.unplaced, unplaced]

theorem takes_printed {form : Parser TypeExpr} {tokens : Tokens} {claim : TypeExpr → Prop}
    (taken : Takes form tokens rest claim) : Takes (printed form) tokens rest claim :=
  .bind (.quiet taken) fun _ holds => .seq .write fun _ => .result holds

/-! ## Types -/

/-- What may follow a type: nothing that could belong to it. -/
def EndsType (rest : Tokens) : Prop := Tokens.Clear [':', '<', '!', '+', '='] rest

theorem EndsType.path (ends : EndsType rest) : EndsPath false rest :=
  ⟨ends.atOperator (by decide), fun _ => ends.atOperator (by decide)⟩

/-- The grammar takes this type as it is printed, wherever a type can end. -/
def TakesType (g : Grammar) (type : TypeExpr) : Prop :=
  ∀ allowPlus rest, EndsType rest →
    Takes (g.type allowPlus) (type.tokens ++ rest) rest (·.unplaced = type.unplaced)

/-- A word that can stand nowhere in a path. -/
def isForeign (word : String) : Bool := reservedWords.contains word && !pathStarts.contains word

/-- The marks that stand in front of other things than paths. -/
def foreignMarks : List Char :=
  ['!', '#', '%', '&', '*', '+', ',', '-', '.', '/', ';', '=', '>', '?', '@', '^', '|']

/-- What stands in front where a path begins, perhaps with a self type in angle brackets. -/
structure BeginsPath (tokens : Tokens) : Prop where
  word : ∀ word, isForeign word = true → tokens.atWord word = false
  lifetime : tokens.atLifetime = false
  group : ∀ delimiter, tokens.atGroup delimiter = false
  literal : tokens.atLiteral = false
  clear : Tokens.Clear foreignMarks tokens
  start : atPathStart tokens = true

theorem BeginsPath.alike {tokens view : Tokens} (begins : BeginsPath view)
    (alike : Tokens.Alike tokens view) : BeginsPath tokens where
  word word foreign := by rw [alike.looks.1, begins.word word foreign]
  lifetime := by simp only [alike.looks, begins.lifetime]
  group delimiter := by simp only [alike.looks, begins.group]
  literal := by simp only [alike.looks, begins.literal]
  clear := begins.clear.alike alike
  start := by
    have start := begins.start
    simpa only [atPathStart, alike.looks] using start

theorem BeginsPath.operator {tokens : Tokens} (begins : BeginsPath tokens) {operator : String}
    (foreign : operator.toList.head?.any foreignMarks.contains = true) :
    tokens.atOperator operator = false :=
  begins.clear.atOperator foreign

theorem BeginsPath.oneOf {tokens : Tokens} (begins : BeginsPath tokens) (words : List String)
    (foreign : words.all isForeign = true) : tokens.atOneOf words = false := by
  rw [Tokens.atOneOf, List.any_eq_false]
  intro word member
  simp [begins.word word (List.all_eq_true.mp foreign word member)]

theorem BeginsPath.ofSegment {position : Position} (segment : name.IsSegment) (more : Tokens) :
    BeginsPath (.word name position :: more) where
  word word foreign := segment.isWord foreign
  lifetime := rfl
  group _ := rfl
  literal := by
    have affirmed : name.isWord "true" = false := segment.isWord (by decide)
    have denied : name.isWord "false" = false := segment.isWord (by decide)
    simp [Tokens.looks_word, affirmed, denied]
  clear := .word
  start := by
    rcases segment with isName | ⟨word, listed, rfl⟩
    · simp [atPathStart, Tokens.looks_word, isName]
    · have started : (Tokens.atOneOf pathStarts
          (.word (Identifier.plain word) position :: more)) = true :=
        List.any_eq_true.mpr ⟨word, listed, by
          simp [Tokens.looks_word, Identifier.isWord, Identifier.plain]⟩
      simp [atPathStart, started]

theorem BeginsPath.ofMark {mark : String} (listed : mark = "::" ∨ mark = "<") (more : Tokens) :
    BeginsPath (Token.ofOperator mark ++ more) := by
  rcases listed with rfl | rfl
  · exact ⟨fun _ _ => rfl, rfl, fun _ => rfl, rfl, .mark (by decide), rfl⟩
  · exact ⟨fun _ _ => rfl, rfl, fun _ => rfl, rfl, .mark (by decide), rfl⟩

/-- A type that is a path of segments. -/
def IsPath : TypeExpr → Prop
  | .path _ segments => segments ≠ [] ∧ ∀ segment ∈ segments, segment.name.IsSegment
  | _ => False

theorem IsPath.begins {type : TypeExpr} (isPath : IsPath type) (rest : Tokens) :
    BeginsPath (type.tokens ++ rest) := by
  cases type with
  | path rooted segments =>
      obtain ⟨present, each⟩ := isPath
      rw [TypeExpr.tokens]
      cases rooted with
      | true =>
          rw [if_pos rfl, List.append_assoc]
          exact .ofMark (.inl rfl) _
      | false =>
          obtain ⟨segment, others, rfl⟩ := List.exists_cons_of_ne_nil present
          have segmental := each segment List.mem_cons_self
          rw [segmentsTokens_cons]
          obtain ⟨name, position, _ | arguments⟩ := segment <;> exact .ofSegment segmental _
  | _ => exact isPath.elim

/-- A path whose segments have no arguments. -/
def IsPlain : TypeExpr → Prop
  | .path _ segments => segments ≠ [] ∧ ∀ segment ∈ segments, ∃ name position,
      segment = .mk name position none ∧ name.IsSegment
  | _ => False

instance (segment : PathSegment) :
    Decidable (∃ name position, segment = .mk name position none ∧ name.IsSegment) :=
  match segment with
  | .mk name position none =>
      decidable_of_iff name.IsSegment ⟨fun bare => ⟨name, position, rfl, bare⟩, by
        rintro ⟨_, _, same, bare⟩
        cases same
        exact bare⟩
  | .mk _ _ (some _) => isFalse (by rintro ⟨_, _, same, _⟩; cases same)

instance : DecidablePred IsPlain
  | .path _ segments =>
      inferInstanceAs (Decidable (segments ≠ [] ∧ ∀ segment ∈ segments, ∃ name position,
        segment = .mk name position none ∧ name.IsSegment))
  | .qualified .. | .paren .. | .group .. | .other .. => isFalse id

theorem IsPlain.isPath {type : TypeExpr} (plain : IsPlain type) : IsPath type := by
  cases type with
  | path rooted segments =>
      refine ⟨plain.1, fun segment member => ?_⟩
      obtain ⟨name, position, rfl, segmental⟩ := plain.2 segment member
      exact segmental
  | _ => exact plain.elim

theorem IsPlain.takesSegment {rooted : Bool} {segments : List PathSegment}
    (plain : IsPlain (.path rooted segments)) :
    ∀ segment ∈ segments, g.TakesSegment inExpression segment := by
  intro segment member
  obtain ⟨name, position, rfl, segmental⟩ := plain.2 segment member
  exact takesSegment_bare segmental

theorem tokens_unangled {rooted : Bool} {segments : List PathSegment} (present : segments ≠ []) :
    Tokens.atOperator "<" ((TypeExpr.path rooted segments).tokens ++ rest) = false := by
  obtain ⟨segment, others, rfl⟩ := List.exists_cons_of_ne_nil present
  obtain ⟨name, position, more, held⟩ := tokens_head segment
  rw [TypeExpr.tokens, segmentsTokens_cons, held]
  cases rooted <;> rfl

theorem takes_pathTypeForm {allowPlus rooted : Bool} {segments : List PathSegment}
    (present : segments ≠ []) (taken : ∀ segment ∈ segments, g.TakesSegment false segment)
    (ends : EndsType rest) :
    Takes (g.pathTypeForm allowPlus false) ((TypeExpr.path rooted segments).tokens ++ rest) rest
      (·.unplaced = (TypeExpr.path rooted segments).unplaced) := by
  have unmarked : Tokens.atOperator "!" rest = false := ends.atOperator (by decide)
  have single : Tokens.atOperator "+" rest = false := ends.atOperator (by decide)
  refine .bind (.ahead fun found alike => .second ?_ (takes_pathForm present ends.path taken))
    fun found same => ?_
  · simp [alike.looks, tokens_unangled present]
  · cases found with
    | path rooted segments =>
        refine .ahead fun found alike => .second ?_ (.second ?_ (.result same))
        · simp [alike.looks, unmarked]
        · simp [alike.looks, single]
    | _ => cases same

/-- The next deeper grammar takes the types that are paths of what this one takes. -/
theorem takesType_path {rooted : Bool} {segments : List PathSegment}
    (isPath : IsPath (.path rooted segments))
    (taken : ∀ segment ∈ segments, g.TakesSegment false segment) :
    g.deepen.TakesType (.path rooted segments) := by
  intro allowPlus rest ends
  have begins := isPath.begins rest
  refine takes_printed (.ahead fun found alike => ?_)
  replace begins := begins.alike alike
  refine .second ?_ (.second ?_ (.second ?_ (.first ?_ (takes_pathTypeForm isPath.1 taken ends))))
  · simp [begins.word "for" (by decide)]
  · simp [begins.group]
  · simp [begins.oneOf functionStarts (by decide)]
  · simpa [atPathStart, or_assoc, or_comm, or_left_comm] using begins.start

theorem IsPlain.takesType {type : TypeExpr} (plain : IsPlain type) : g.deepen.TakesType type := by
  cases type with
  | path rooted segments => exact takesType_path plain.isPath plain.takesSegment
  | _ => exact plain.elim

/-! ## Arguments of types -/

/-- A type that the grammar takes among arguments. -/
structure TakesArgument (g : Grammar) (type : TypeExpr) : Prop where
  isPath : IsPath type
  taken : g.TakesType type

theorem takes_argumentForm {type : TypeExpr} (argument : g.TakesArgument type)
    (ends : EndsType rest) :
    Takes g.argumentForm (type.tokens ++ rest) rest (·.unplaced = .type type.unplaced) := by
  have begins := argument.isPath.begins rest
  have unassigned : Tokens.atOperator "=" rest = false := ends.atOperator (by decide)
  have unbounded : Tokens.atOperator ":" rest = false := ends.atOperator (by decide)
  refine .ahead fun found alike => .second ?_ (.second ?_ ?_)
  · simp [alike.looks, begins.lifetime]
  · simp [alike.looks, begins.literal, begins.group]
  refine .bind (argument.taken true rest ends) fun found same => ?_
  have kept : (PathArgument.type found).unplaced = .type type.unplaced := by
    rw [PathArgument.unplaced, same]
  split
  · refine .bind (.declineOperator unassigned) fun accepted absent => .second (by simp [absent]) ?_
    refine .bind (.declineOperator unbounded) fun accepted absent => .second (by simp [absent]) ?_
    exact .result kept
  · exact .result kept

/-- Types with commas between them. -/
def listedTokens : List TypeExpr → Tokens
  | [] => []
  | [type] => type.tokens
  | type :: next :: more => type.tokens ++ Token.ofOperator "," ++ listedTokens (next :: more)

theorem tokens_arguments (types : List TypeExpr) :
    (PathArguments.mk false (types.map .type) false).tokens =
      Token.ofOperator "<" ++ (listedTokens types ++ Token.ofOperator ">") := by
  have undying : ∀ argument ∈ argumentsWritten false (types.map .type), argument.1 = false := by
    induction types with
    | nil => nofun
    | cons type types ih =>
        cases types with
        | nil => simp [argumentsWritten, PathArgument.isLifetime]
        | cons next more =>
            refine List.forall_mem_cons.mpr ⟨rfl, ih⟩
  have listed : (argumentsWritten false (types.map .type)).flatMap (fun argument =>
      argument.2.1 ++ if argument.2.2 then Token.ofOperator "," else []) = listedTokens types := by
    induction types with
    | nil => rfl
    | cons type types ih =>
        cases types with
        | nil => simp [argumentsWritten, listedTokens, PathArgument.tokens]
        | cons next more =>
            have others := ih fun argument member =>
              undying argument (List.mem_cons_of_mem _ member)
            rw [listedTokens, ← others]
            rfl
  have lifetimes : (argumentsWritten false (types.map .type)).filter (·.1) = [] :=
    List.filter_eq_nil_iff.mpr fun argument member => by simp [undying argument member]
  have others : (argumentsWritten false (types.map .type)).filter (!·.1) =
      argumentsWritten false (types.map .type) :=
    List.filter_eq_self.mpr fun argument member => by simp [undying argument member]
  simp [PathArguments.tokens, argumentTokens, lifetimes, others, listed]

theorem parts_arguments {types : List TypeExpr} (present : types ≠ [])
    (each : ∀ type ∈ types, g.TakesArgument type) :
    Parts "," (·.atOperator ">") g.argumentForm false
      (types.map fun type (found : PathArgument) => found.unplaced = .type type.unplaced)
      (listedTokens types ++ (Token.ofOperator ">" ++ rest)) (Token.ofOperator ">" ++ rest) := by
  have starts : ∀ type, g.TakesArgument type → ∀ more,
      Tells (·.atOperator ">") (type.tokens ++ more) false := by
    intro type argument more found alike
    have begins := argument.isPath.begins more
    exact (begins.alike alike).operator (by decide)
  induction types with
  | nil => contradiction
  | cons type types ih =>
      obtain ⟨first, others⟩ := List.forall_mem_cons.mp each
      cases types with
      | nil =>
          refine .last (starts type first _) (takes_argumentForm first ?_) fun found alike => ?_
          · exact .mark (by decide)
          · simp only [alike.looks]
            rfl
      | cons next more =>
          rw [listedTokens, List.append_assoc, List.append_assoc]
          refine .more (starts type first _) (takes_argumentForm first ?_)
            (fun found alike => ?_) ?_ (ih nofun others)
          · exact .mark (by decide)
          · simp only [alike.looks]
            rfl
          · have comma : (Token.ofOperator ",").length = 1 := rfl
            simp only [List.length_append, comma]
            omega

theorem unplacedArguments_eq {types : List TypeExpr} {found : List PathArgument}
    (related : List.Forall₂ (fun value claim => claim value) found
      (types.map fun type (found : PathArgument) => found.unplaced = .type type.unplaced)) :
    unplacedArguments found = unplacedArguments (types.map .type) := by
  rw [List.forall₂_map_right_iff] at related
  induction related with
  | nil => rfl
  | cons here _ ih =>
      rw [unplacedArguments, here, ih, List.map_cons, unplacedArguments, PathArgument.unplaced]

theorem takes_argumentsForm {types : List TypeExpr} (present : types ≠ [])
    (each : ∀ type ∈ types, g.TakesArgument type) :
    Takes g.argumentsForm ((PathArguments.mk false (types.map .type) false).tokens ++ rest) rest
      (·.unplaced = (PathArguments.mk false (types.map .type) false).unplaced) := by
  rw [tokens_arguments, List.append_assoc, List.append_assoc]
  refine .bind (.declineOperator rfl) fun accepted absent => .seq .operator fun _ => ?_
  refine .bind (.separated (parts_arguments present each)) fun found related => ?_
  refine .seq .operator fun _ => .result ?_
  obtain ⟨same, trailing⟩ := related
  have closed : found.2 = false := trailing.trans (by simp)
  rw [PathArguments.unplaced, PathArguments.unplaced, absent, closed, unplacedArguments_eq same]

/-- A segment with arguments, where these are types. -/
theorem takesSegment_applied {types : List TypeExpr} {position : Position}
    (isName : name.isName = true)
    (present : types ≠ []) (each : ∀ type ∈ types, g.TakesArgument type) :
    g.TakesSegment false (.mk name position (some (.mk false (types.map .type) false))) := by
  intro rest _
  have other : ∀ word, reservedWords.contains word = true → name.isWord word = false :=
    fun word => Identifier.isWord_of_isName isName
  rw [PathSegment.tokens, List.cons_append]
  refine .ahead fun found alike => .second ?_ (.second ?_ (.bind (.name isName) ?_))
  · simp [alike.looks, Tokens.atOneOf, Tokens.looks_word, other "super" (by decide),
      other "self" (by decide), other "crate" (by decide), other "try" (by decide)]
  · simp [alike.looks, Tokens.looks_word, other "Self" (by decide)]
  rintro ⟨_, place⟩ rfl
  refine .ahead fun found alike => .first ?_ ?_
  · rw [tokens_arguments, List.append_assoc, List.append_assoc] at alike
    have opens : ∀ more, Tokens.atOperator "<" (Token.ofOperator "<" ++ more) = true :=
      fun _ => rfl
    have closes : Tokens.atOperator "<=" (Token.ofOperator "<" ++
        (listedTokens types ++ (Token.ofOperator ">" ++ rest))) = false := rfl
    simp [alike.looks, opens, closes]
  · refine .bind (takes_argumentsForm present each) fun arguments same => .result ?_
    rw [PathSegment.unplaced, same, PathSegment.unplaced]

/-! ## Borrowed types and self types -/

/-- What is kept of a reference as it is written. -/
def referenceWritten (g : Grammar) : Parser Unit := do
  operator "&"
  if (← ahead).atLifetime then
    let _ ← lifetime
  let _ ← acceptWord "mut"
  let _ ← g.type false

theorem passes_referenceWritten {type : TypeExpr} (isPath : IsPath type) (taken : g.TakesType type)
    (ends : EndsType rest) :
    Passes g.referenceWritten (Token.ofOperator "&" ++ (type.tokens ++ rest)) rest := by
  have begins := isPath.begins rest
  refine .seq .operator fun _ => .ahead fun found alike => .second ?_ ?_
  · simp [alike.looks, begins.lifetime]
  refine .bind (.declineWord (begins.word "mut" (by decide))) fun _ _ => ?_
  exact .bind (taken false rest ends) fun _ _ => .result trivial

theorem passes_reference {type : TypeExpr} {allowPlus : Bool} (isPath : IsPath type)
    (taken : g.TakesType type) (ends : EndsType rest) :
    Passes (g.deepen.type allowPlus) (Token.ofOperator "&" ++ (type.tokens ++ rest)) rest := by
  refine takes_printed (.ahead fun found alike => ?_)
  simp only [alike.looks]
  exact .bind (passes_referenceWritten isPath taken ends).captured fun _ _ => .result trivial

/-- The front of a qualified path: a self type and the trait that it is taken as. -/
def qualifiedWritten (g : Grammar) : Parser Unit := do
  operator "<"
  let _ ← g.type true
  if ← acceptWord "as" then
    let _ ← g.path false
  operator ">"

theorem passes_qualifiedWritten {type : TypeExpr} {rooted : Bool} {trait : List PathSegment}
    (taken : g.TakesType type) (present : trait ≠ [])
    (each : ∀ segment ∈ trait, g.TakesSegment false segment) :
    Passes g.qualifiedWritten (Token.ofOperator "<" ++ (type.tokens ++ ([Token.ofWord "as"] ++
      ((TypeExpr.path rooted trait).tokens ++ (Token.ofOperator ">" ++ rest))))) rest := by
  refine .seq .operator fun _ => .bind (taken true _ .word) fun _ _ => ?_
  refine .bind .acceptWord fun accepted holds => .first holds ?_
  refine .bind (takes_printed (takes_pathForm present ⟨rfl, fun _ => rfl⟩ each)) fun _ _ => ?_
  exact .operator

/-- A path behind a self type that is taken as some trait. -/
theorem takes_qualified {type : TypeExpr} {rooted : Bool} {trait : List PathSegment}
    {selected : Identifier} (taken : g.TakesType type)
    (present : trait ≠ []) (each : ∀ segment ∈ trait, g.TakesSegment false segment)
    (segment : selected.IsSegment) (ends : EndsPath true rest) :
    Takes g.expressionPath (Token.ofOperator "<" ++ (type.tokens ++ ([Token.ofWord "as"] ++
      ((TypeExpr.path rooted trait).tokens ++ (Token.ofOperator ">" ++ (Token.ofOperator "::" ++
        ([Token.ofIdentifier selected] ++ rest))))))) rest
      fun found => ∃ head segments, found = .qualified head segments := by
  refine takes_printed (.ahead fun found alike => .first ?_ ?_)
  · simp only [alike.looks]
    rfl
  refine .bind (passes_qualifiedWritten taken present each).captured fun head _ => ?_
  refine .seq .operator fun _ => ?_
  refine .bind (takesSegment_bare segment rest ends.bare) fun first _ => ?_
  refine .bind (.manyWhile (.stop fun found alike => ?_)) fun more _ => .result ⟨_, _, rfl⟩
  simp only [alike.looks, ends.colons]

end Grammar

end StorageMapping.Source
