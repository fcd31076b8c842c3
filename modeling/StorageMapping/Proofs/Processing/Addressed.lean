import StorageMapping.Proofs.Code.Queries
import StorageMapping.Proofs.Processing.Quoted

namespace StorageMapping

/-! # The locators of queries

A declaration is accepted for the operations that its backend checks. Code is generated for all
operations, and the query of one that is not checked may be left without a locator. -/

open Source Code Results

namespace Operation

/-- The unit that builds the query of an operation. -/
def unit : Operation → UnitKind
  | .insert => .put
  | .update => .put
  | .delete => .delete

/-- The function of that unit. -/
def function : Operation → String
  | .insert => "map_to_insert_query"
  | .update => "map_to_update_query"
  | .delete => "map_to_delete_query"

end Operation

variable {backend : Backend} {declaration : Declaration} {model : TypeModel}
  {operation : Operation} {context : GenerationContext}

theorem Code.query?_operation (operation : Operation) {code : Fragment}
    (coded : Generator.tokens ⟨backend, operation.unit⟩ context.vacant model = .ok code) :
    ∃ condition, query? operation.function code =
      some (written backend (model.locators.resolve operation) condition) := by
  cases operation with
  | insert => exact ⟨_, query?_of_body (body?_put coded).1⟩
  | update => exact ⟨_, query?_of_body (body?_put coded).2⟩
  | delete => exact ⟨_, query?_of_body (body?_delete coded)⟩

namespace Processing

/-- The locators are the common one or those of all checked operations, of which there are some. -/
theorem checkLocators_eq_ok {name : String} {locators : Locators} :
    checkLocators backend name locators = .ok () ↔
      locators.common ≠ "" ∨
        backend.operations ≠ [] ∧
          ∀ operation ∈ backend.operations, locators.own operation ≠ "" := by
  refine ⟨checkLocators_ok, ?_⟩
  rintro (common | ⟨some, present⟩)
  · have given : locators.common.isEmpty = false := by simpa using common
    rw [checkLocators, given]
    rfl
  · have missing : missingOperations backend locators = [] := by
      simpa [missingOperations] using present
    have checked : backend.operations.isEmpty = false := by simpa using some
    simp only [checkLocators, missing, checked]
    split <;> rfl

theorem buildType_eq_ok :
    buildType backend declaration = .ok model ↔
      declaration.kind = .struct ∧ model = shell declaration ∧
        checkLocators backend declaration.qualifiedName (declaration.marker.getD .empty) =
          .ok () := by
  refine ⟨buildType_ok, ?_⟩
  rintro ⟨isStruct, rfl, checked⟩
  simp only [buildType, isStruct, checked, ne_eq, not_true_eq_false, if_false]
  rfl

theorem resolve_of_accepted (accepted : buildType backend declaration = .ok model) :
    model.locators.common ≠ "" ∨
      backend.operations ≠ [] ∧
        ∀ operation ∈ backend.operations, model.locators.own operation ≠ "" := by
  obtain ⟨_, rfl, checked⟩ := buildType_ok accepted
  exact checkLocators_ok checked

/-- All operations have locators of their own but one. -/
def locatorsBut (operation : Operation) : Locators :=
  (Locators.mk "" "a" "a" "a").set (some operation) ""

/-- Every accepted declaration has a locator for every operation just where the backend checks no
operation or each of them. -/
theorem resolve_ne_empty_iff (backend : Backend) :
    (∀ declaration model, buildType backend declaration = .ok model →
        ∀ operation, model.locators.resolve operation ≠ "") ↔
      backend.operations = [] ∨ ∀ operation, operation ∈ backend.operations := by
  constructor
  · intro addressed
    by_contra partly
    obtain ⟨checksSome, operation, unchecked⟩ : backend.operations ≠ [] ∧
        ∃ operation, operation ∉ backend.operations := by
      simpa using partly
    have others : ∀ other ∈ backend.operations, (locatorsBut operation).own other ≠ "" := by
      intro other checked
      have different : other ≠ operation := fun same => unchecked (same ▸ checked)
      revert different
      cases operation <;> cases other <;> decide
    let declaration : Declaration := ⟨"T", [], .struct, some (locatorsBut operation), .detached "T"⟩
    have accepted : buildType backend declaration = .ok (shell declaration) :=
      buildType_eq_ok.mpr ⟨rfl, rfl, checkLocators_eq_ok.mpr (.inr ⟨checksSome, others⟩)⟩
    have empty : (locatorsBut operation).resolve operation = "" := by cases operation <;> rfl
    exact addressed _ _ accepted operation empty
  · intro whole declaration model accepted operation empty
    obtain ⟨common, own⟩ := resolve_eq_empty.mp empty
    rcases resolve_of_accepted accepted with given | ⟨checksSome, present⟩
    · exact given common
    · rcases whole with none | all
      · exact checksSome none
      · exact present operation (all operation) own

/-- The query that generated code builds for an operation of an accepted declaration has the locator
of that operation, or else the common one. It has none just where the declaration gives neither,
and then the operation is one that the backend does not check. A backend accepts no such
declaration just where it checks no operation at all or each of them. -/
theorem queries_addressed (backend : Backend) :
    (∀ declaration model, buildType backend declaration = .ok model →
      ∀ (columns : List Column) (context : GenerationContext) (operation : Operation)
        (code : Fragment),
        Generator.tokens ⟨backend, operation.unit⟩ context { model with columns := columns } =
            .ok code →
          ∃ template query, filled context.runtime.tokens template = code ∧
            query? operation.function template = some query ∧
            query.method = backend.locatorMethod ∧
            query.locator = model.locators.resolve operation ∧
            (query.locator = "" ↔
              model.locators.common = "" ∧ model.locators.own operation = "") ∧
            (query.locator = "" → operation ∉ backend.operations)) ∧
      ((∀ declaration model, buildType backend declaration = .ok model →
          ∀ operation, model.locators.resolve operation ≠ "") ↔
        backend.operations = [] ∨ ∀ operation, operation ∈ backend.operations) := by
  refine ⟨?_, resolve_ne_empty_iff backend⟩
  intro declaration model accepted columns context operation code coded
  obtain ⟨template, vacant, rfl⟩ := Generator.tokens_vacant coded
  obtain ⟨condition, read⟩ := query?_operation operation vacant
  refine ⟨template, _, rfl, read, rfl, rfl, resolve_eq_empty, fun empty checked => ?_⟩
  obtain ⟨common, own⟩ := resolve_eq_empty.mp empty
  rcases resolve_of_accepted accepted with given | ⟨_, present⟩
  · exact given common
  · exact present operation checked own

/-- A store that has locators of their own for inserts and for deletes only. -/
def archive : Backend where
  name := "archive"
  markers := {
    typeAttribute := "archive_type"
    columnAttribute := "archive_column"
    typeDisplay := "ArchiveType"
    columnDisplay := "ArchiveColumn"
    locatorKeys := ⟨"bucket", some "put_bucket", none, some "drop_bucket"⟩
  }
  naming := ⟨"Archive2", "archive_2", "Arch", "arch"⟩
  locatorNoun := "Bucket"
  operations := [.delete, .insert]
  locatorMethod := "bucket"
  mappingType := "ArchiveMapping"
  defaultRuntime := "::archive::v2"

theorem queries_addressed_archive :
    ∃ model code, buildType archive
        ⟨"T", ["crate"], .struct, some ⟨"", "p", "", "d"⟩, .detached "crate::T"⟩ = .ok model ∧
      Generator.tokens ⟨archive, .delete⟩ ⟨.other Template.slot, true⟩ model = .ok code ∧
      ∃ template query, filled Template.slot template = code ∧
        query? "map_to_delete_query" template = some query ∧ query.locator = "d" := by
  obtain ⟨model, accepted⟩ : ∃ model, buildType archive
      ⟨"T", ["crate"], .struct, some ⟨"", "p", "", "d"⟩, .detached "crate::T"⟩ = .ok model :=
    ⟨_, rfl⟩
  obtain ⟨code, coded⟩ : ∃ code, Generator.tokens ⟨archive, .delete⟩
      ⟨.other Template.slot, true⟩ { model with columns := [] } = .ok code := by
    cases accepted
    exact ⟨_, rfl⟩
  obtain ⟨template, query, filled, read, _, located, _⟩ :=
    (queries_addressed archive).1 _ model accepted [] _ .delete code coded
  cases accepted
  exact ⟨_, code, rfl, coded, template, query, filled, read, located⟩

/-- The text of a type that an archive accepts, with both locators that it knows. -/
def archivedText : String :=
  "#[archive_type(put_bucket=\"p\",drop_bucket=\"d\")]pub struct T\x7b" ++
    "#[archive_column(name=\"c\",key)]pub f:i64\x7d"

/-- The archive accepts the type, and generates an update query without a locator. -/
theorem archive_unaddressed :
    ∃ processor output, Processor.make archive .standard = .ok processor ∧
      processSource archive .standard none archivedText = .ok output ∧
      ∃ unit ∈ output.units, unit.kind = .put ∧
        ∃ template query, filled processor.context.runtime.tokens template = unit.tokens ∧
          query? "map_to_update_query" template = some query ∧ query.locator = "" := by
  have accepted : (processSource archive .standard none archivedText).toOption.any
      (fun output => output.types.any (·.locators == ⟨"", "p", "", "d"⟩)) = true := by
    decide +kernel
  cases completed : processSource archive .standard none archivedText with
  | error failure =>
      rw [completed] at accepted
      contradiction
  | ok output =>
      rw [completed] at accepted
      obtain ⟨model, member, located⟩ := List.any_eq_true.mp accepted
      obtain ⟨round, _, processed⟩ := bind_eq_ok.mp completed
      obtain ⟨processor, made, run⟩ := bind_eq_ok.mp processed
      obtain ⟨runtime, found, rfl⟩ := Processor.make_eq_ok.mp made
      have putting : ⟨archive, .put⟩ ∈ archive.generators := List.mem_cons_self
      obtain ⟨unit, inside, generated⟩ := unit_of_type (mapError_eq_ok.mp run) member putting
      obtain ⟨code, coded, rfl⟩ := Generator.generate_eq_ok.mp generated
      obtain ⟨template, vacant, filled⟩ := Generator.tokens_vacant coded
      obtain ⟨condition, read⟩ := query?_operation .update vacant
      refine ⟨_, output, made, rfl, _, inside, rfl, template, _, filled, read, ?_⟩
      rw [eq_of_beq located]
      rfl

end Processing

end StorageMapping
