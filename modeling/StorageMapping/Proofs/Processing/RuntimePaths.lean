import StorageMapping.Proofs.Processing.Outlined
import StorageMapping.Proofs.Source.ModulePaths

namespace StorageMapping

/-! # The path of the runtime module

Generated code names the items of the runtime below the path of its module, as types and in
expressions. Every path of a module can be configured, and so can some paths that are none. -/

open Source Source.Grammar Source.Parser Results

/-- A path with an item below it, as generated code writes it. -/
def Source.TypeExpr.itemCode (runtime : TypeExpr) (item : String) : String :=
  render (runtime.tokens ++ Fragment.below [item])

/-- An item below the path of a module can stand as a type and in an expression. -/
structure Source.TypeExpr.Offers (runtime : TypeExpr) (item : String) : Prop where
  type : ∃ type, Reader.type (runtime.itemCode item) = .ok type ∧
    type.unplaced = (runtime.under [item]).unplaced
  expression : ∃ form, Reader.parseAll (·.expression true) (runtime.itemCode item) = .ok form

theorem Source.Grammar.IsPlain.offers {runtime : TypeExpr} {item : String}
    (plain : IsPlain runtime) (tidy : Tidy runtime.tokens) (word : Naming.isWord item = true)
    (isName : IsPathWord item) : runtime.Offers item := by
  have below : IsPlain (runtime.under [item]) := plain.under (by simpa using isName)
  have tidyBelow : Tidy (runtime.tokens ++ Fragment.below [item]) :=
    tidy.append (Fragment.tidy_below (by simpa using word))
  have tokens : (runtime.under [item]).tokens ++ [] = runtime.tokens ++ Fragment.below [item] := by
    rw [List.append_nil, tokens_under plain.isPath]
  constructor
  · refine Reader.parseAll_render tidyBelow fun {g} deep => ?_
    cases deep with
    | deepen deep => exact tokens ▸ below.takesType true [] .nil
  · have operand : Operand 1 ((runtime.under [item]).tokens ++ []) := .path below .none
    have expression := operand.expression.mono (by decide : 2 ≤ 24)
    obtain ⟨form, read, _⟩ := Reader.parseAll_render tidyBelow fun {g} deep => by
      have taken := (expression.taken deep).taken [] .nil
      rw [tokens, List.append_nil] at taken
      exact taken
    exact ⟨form, read⟩

namespace Config

variable {config : Config} {fallback : String} {runtime : TypeExpr}

theorem runtimePathOr_eq_ok :
    config.runtimePathOr fallback = .ok runtime ↔
      Reader.path (config.runtimePath.getD fallback) = .ok runtime := by
  rw [runtimePathOr]
  cases Reader.path (config.runtimePath.getD fallback) with
  | error error => simp [throw, throwThe, MonadExceptOf.throw]
  | ok found => simp [pure, Except.pure]

theorem runtimePathOr_eq_error {message : String} :
    config.runtimePathOr fallback = .error message ↔
      ∃ error, Reader.path (config.runtimePath.getD fallback) = .error error ∧
        message = "Invalid runtime path '" ++ config.runtimePath.getD fallback ++ "': " ++
          error.message := by
  rw [runtimePathOr]
  cases Reader.path (config.runtimePath.getD fallback) with
  | error error => simp [throw, throwThe, MonadExceptOf.throw, eq_comm]
  | ok found => simp [pure, Except.pure]

end Config

/-- What can be configured as the path of the runtime. Every path of a module can, and its items can
stand as types and in expressions. Whatever else is accepted is a path with arguments at some
segment or with the keyword `try` among its segments, and no path of a module. What is refused is
no path of a module either, and there is no processor. -/
theorem runtimePath_accepted (config : Config) (fallback : String) :
    (IsModulePath (config.runtimePath.getD fallback) →
      ∃ runtime, config.runtimePathOr fallback = .ok runtime ∧
        ∀ item, Naming.isWord item = true → item ∉ reservedWords → runtime.Offers item) ∧
    (∀ runtime, config.runtimePathOr fallback = .ok runtime →
      ∃ rooted segments, runtime = .path rooted segments ∧ segments ≠ [] ∧
        (∀ segment ∈ segments, segment.name.IsSegment ∨ segment.name = .plain "try") ∧
        (IsModulePath (config.runtimePath.getD fallback) ↔
          ∀ segment ∈ segments, segment.arguments = none ∧ segment.name ≠ .plain "try")) ∧
    ∀ message, config.runtimePathOr fallback = .error message →
      ¬ IsModulePath (config.runtimePath.getD fallback) ∧
      (∃ error : SyntaxError, message = "Invalid runtime path '" ++
        config.runtimePath.getD fallback ++ "': " ++ error.message) ∧
      ∀ backend : Backend, backend.defaultRuntime = fallback →
        Processor.make backend config = .error (.configuration message) := by
  refine ⟨fun isModule => ?_, fun runtime accepted => ?_, fun message refused => ?_⟩
  · obtain ⟨runtime, read, plain⟩ := isModule.read
    refine ⟨runtime, Config.runtimePathOr_eq_ok.mpr read, fun item word unreserved => ?_⟩
    exact plain.offers (Reader.path_tidy read) word
      (by simpa [IsPathWord, Identifier.isName, Identifier.plain] using unreserved)
  · have read := Config.runtimePathOr_eq_ok.mp accepted
    obtain ⟨_, rooted, segments, _, rfl, present, all⟩ := Reader.path_eq_ok read
    refine ⟨rooted, segments, rfl, present, all.heads, ?_⟩
    rw [isModulePath_iff read, isPlain_path present]
    refine forall₂_congr fun segment member => and_congr_right fun _ => ?_
    have unnamed : ¬ (Identifier.plain "try").IsSegment := by decide
    exact ⟨fun isSegment same => unnamed (same ▸ isSegment),
      (all.heads segment member).resolve_right⟩
  · obtain ⟨error, unread, rfl⟩ := Config.runtimePathOr_eq_error.mp refused
    refine ⟨fun isModule => ?_, ⟨error, rfl⟩, ?_⟩
    · obtain ⟨_, read, _⟩ := isModule.read
      cases unread.symm.trans read
    · rintro backend rfl
      rw [Processor.make, Processor.ofConfig, refused]
      rfl

theorem runtimePath_accepted_default :
    ∃ runtime, IsModulePath Backend.sqlite.defaultRuntime ∧
      Config.standard.runtimePathOr Backend.sqlite.defaultRuntime = .ok runtime ∧
      runtime.Offers "PutResolver" := by
  obtain ⟨runtime, read, plain⟩ :=
    Processing.defaultRuntime_plain (List.mem_cons_self : Backend.sqlite ∈ Backend.all)
  have isModule := (isModulePath_iff read).mpr plain
  obtain ⟨offered, _, _⟩ := runtimePath_accepted .standard Backend.sqlite.defaultRuntime
  obtain ⟨runtime, accepted, offers⟩ := offered isModule
  exact ⟨runtime, isModule, accepted, offers "PutResolver" (by decide +kernel) (by decide)⟩

/-- A path with arguments is accepted, though no module has them, and an item below it cannot stand
in an expression. -/
theorem runtimePath_generic :
    ∃ runtime, Config.runtimePathOr ⟨some "storage<T>", true, "crate"⟩ "storio::sqlite" =
        .ok runtime ∧
      ¬ IsModulePath "storage<T>" ∧ ¬ runtime.Offers "PutResult" := by
  have checked : (Reader.path "storage<T>").toOption.any (fun runtime =>
      !decide (IsPlain runtime) && !(Reader.parseAll (·.expression true)
        (runtime.itemCode "PutResult")).toOption.isSome) = true := by
    decide +kernel
  obtain ⟨runtime, read, checked⟩ := exists_of_any checked
  simp only [Bool.and_eq_true, Bool.not_eq_true', decide_eq_false_iff_not] at checked
  refine ⟨runtime, Config.runtimePathOr_eq_ok.mpr read, ?_, fun offers => ?_⟩
  · rw [isModulePath_iff read]
    exact checked.1
  · obtain ⟨form, accepted⟩ := offers.expression
    rw [accepted] at checked
    cases checked.2

end StorageMapping
