import StorageMapping.Proofs.Source.TakingTypes
import StorageMapping.Unit.Template

namespace StorageMapping

/-! # Paths in generated code

Generated code writes paths below the runtime module, paths from the root and the path of the mapped
type. Each of them is the printed form of a path. -/

open Source Source.Parser Source.Grammar

namespace Source.TypeExpr

/-- The segment of one word. -/
def bareSegment (name : String) : PathSegment := .mk (.plain name) .start none

/-- A path from the root. -/
def rooted (names : List String) : TypeExpr := .path true (names.map bareSegment)

/-- A path that goes on below another one. -/
def under : TypeExpr → List String → TypeExpr
  | .path rooted segments, names => .path rooted (segments ++ names.map bareSegment)
  | type, _ => type

/-- A name below a path, with types as its arguments. -/
def applied : TypeExpr → String → List TypeExpr → TypeExpr
  | .path rooted segments, name, types =>
      .path rooted (segments ++
        [.mk (.plain name) .start (some (.mk false (types.map .type) false))])
  | type, _, _ => type

end Source.TypeExpr

namespace Naming

/-- The type that a path of names means. -/
def pathType (names : List Identifier) : TypeExpr :=
  .path false (names.map fun name => .mk name .start none)

end Naming

variable {type : TypeExpr} {names : List String} {name : String} {types : List TypeExpr}
    {g : Grammar}

theorem furtherTokens_bare (names : List String) :
    furtherTokens (names.map TypeExpr.bareSegment) = Fragment.below names := by
  rw [furtherTokens, List.flatMap_map]
  rfl

theorem segmentsTokens_append {segments more : List PathSegment} (present : segments ≠ []) :
    segmentsTokens (segments ++ more) = segmentsTokens segments ++ furtherTokens more := by
  obtain ⟨first, others, rfl⟩ := List.exists_cons_of_ne_nil present
  rw [List.cons_append, segmentsTokens_cons, segmentsTokens_cons, furtherTokens,
    List.flatMap_append, List.append_assoc]
  rfl

theorem TypeExpr.tokens_rooted (present : names ≠ []) :
    (TypeExpr.rooted names).tokens = Fragment.below names := by
  obtain ⟨first, others, rfl⟩ := List.exists_cons_of_ne_nil present
  rw [TypeExpr.rooted, TypeExpr.tokens, List.map_cons, segmentsTokens_cons, furtherTokens_bare]
  rfl

theorem tokens_under (isPath : IsPath type) :
    (type.under names).tokens = type.tokens ++ Fragment.below names := by
  cases type with
  | path rooted segments =>
      rw [TypeExpr.under, TypeExpr.tokens, TypeExpr.tokens, segmentsTokens_append isPath.1,
        furtherTokens_bare, List.append_assoc]
  | _ => exact isPath.elim

theorem listedTokens_eq : ∀ types : List TypeExpr,
    listedTokens types = Fragment.listed (types.map TypeExpr.tokens)
  | [] => rfl
  | [_] => rfl
  | type :: next :: more => by
      rw [listedTokens, listedTokens_eq (next :: more)]
      rfl

theorem tokens_applied (isPath : IsPath type) :
    (type.applied name types).tokens = type.tokens ++ Fragment.below [name] ++
      Template.angled (Fragment.listed (types.map TypeExpr.tokens)) := by
  cases type with
  | path rooted segments =>
      rw [TypeExpr.applied, TypeExpr.tokens, TypeExpr.tokens, segmentsTokens_append isPath.1,
        ← listedTokens_eq]
      simp [furtherTokens, PathSegment.tokens, tokens_arguments, Fragment.below, Fragment.mark,
        Fragment.word, Template.angled, Token.ofWord]
  | _ => exact isPath.elim

theorem tokens_pathType (names : List Identifier) :
    (Naming.pathType names).tokens = Naming.pathTokens names := by
  have segments : ∀ names : List Identifier,
      segmentsTokens (names.map fun name => .mk name .start none) = Naming.pathTokens names := by
    intro names
    induction names with
    | nil => rfl
    | cons name more ih =>
        cases more with
        | nil => rfl
        | cons next more =>
            simp only [List.map_cons] at ih ⊢
            rw [segmentsTokens, ih]
            rfl
  exact segments names

/-! ## They can be read -/

namespace Source.Grammar

/-- A word of a path in generated code. -/
def IsPathWord (word : String) : Prop := (Identifier.plain word).isName = true

instance : DecidablePred IsPathWord := fun word =>
  inferInstanceAs (Decidable ((Identifier.plain word).isName = true))

theorem isPlain_bareSegments (named : ∀ name ∈ names, IsPathWord name) :
    ∀ segment ∈ names.map TypeExpr.bareSegment, ∃ name position,
      segment = .mk name position none ∧ name.IsSegment := by
  intro segment member
  obtain ⟨name, listed, rfl⟩ := List.mem_map.mp member
  exact ⟨_, _, rfl, .inl (named name listed)⟩

theorem isPlain_rooted (present : names ≠ []) (named : ∀ name ∈ names, IsPathWord name) :
    IsPlain (.rooted names) :=
  ⟨by simpa using present, isPlain_bareSegments named⟩

theorem IsPlain.under (plain : IsPlain type) (named : ∀ name ∈ names, IsPathWord name) :
    IsPlain (type.under names) := by
  cases type with
  | path rooted segments =>
      refine ⟨by simp [plain.1], fun segment member => ?_⟩
      rcases List.mem_append.mp member with before | after
      · exact plain.2 segment before
      · exact isPlain_bareSegments named segment after
  | _ => exact plain.elim

theorem isPlain_pathType {names : List Identifier} (present : names ≠ [])
    (segments : ∀ name ∈ names, name.IsSegment) : IsPlain (Naming.pathType names) := by
  refine ⟨by simpa using present, fun segment member => ?_⟩
  obtain ⟨name, listed, rfl⟩ := List.mem_map.mp member
  exact ⟨name, .start, rfl, segments name listed⟩

theorem IsPlain.isPath_applied (plain : IsPlain type) (named : IsPathWord name) :
    IsPath (type.applied name types) := by
  cases type with
  | path rooted segments =>
      refine ⟨by simp, fun segment member => ?_⟩
      rcases List.mem_append.mp member with before | after
      · exact plain.isPath.2 segment before
      · cases List.mem_singleton.mp after
        exact .inl named
  | _ => exact plain.elim

theorem IsPlain.takesType_applied (plain : IsPlain type) (named : IsPathWord name)
    (present : types ≠ []) (each : ∀ type ∈ types, g.TakesArgument type) :
    g.deepen.TakesType (type.applied name types) := by
  have isPath : IsPath (type.applied name types) := plain.isPath_applied named
  cases type with
  | path rooted segments =>
      refine takesType_path isPath fun segment member => ?_
      rcases List.mem_append.mp member with before | after
      · exact plain.takesSegment segment before
      · cases List.mem_singleton.mp after
        exact takesSegment_applied named present each
  | _ => exact plain.elim

end Source.Grammar

end StorageMapping
