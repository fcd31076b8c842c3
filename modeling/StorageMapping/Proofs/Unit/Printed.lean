import StorageMapping.Proofs.Source.TidyingGrammar
import StorageMapping.Proofs.Unit.HostNames
import StorageMapping.Unit.Template

namespace StorageMapping

/-! # Generated code can be printed

Generated code consists of words, operators, quoted texts and names, so it is tidy wherever the
names are legal and the path of the runtime module is tidy. -/

open Source Fragment

namespace Fragment

variable {inner : Fragment} {selected : Identifier} {called operator : String}

theorem tidy_word (isWord : Naming.isWord called = true) : Tidy (word called) :=
  .single (.word ⟨isWord, nofun⟩) rfl

theorem tidy_name (legal : selected.Legal) : Tidy (name selected) :=
  .single (.word legal) rfl

theorem tidy_mark (operates : Token.operates operator.toList = true) : Tidy (mark operator) :=
  Token.tidy_ofOperator operates

theorem tidy_text (value : String) : Tidy (text value) :=
  .single (.literal (Literal.readable_quoteLiteral value)) rfl

theorem tidy_parens (tidy : Tidy inner) : Tidy (parens inner) := .group tidy

theorem tidy_brackets (tidy : Tidy inner) : Tidy (brackets inner) := .group tidy

theorem tidy_braces (tidy : Tidy inner) : Tidy (braces inner) := .group tidy

theorem tidy_words {texts : List String} (worded : texts.all Naming.isWord = true) :
    Tidy (words texts) :=
  .flatMap fun text member => tidy_word (List.all_eq_true.mp worded text member)

theorem tidy_below {segments : List String} (worded : segments.all Naming.isWord = true) :
    Tidy (below segments) :=
  .flatMap fun text member =>
    .append (tidy_mark (by decide)) (tidy_word (List.all_eq_true.mp worded text member))

theorem tidy_listed {fragments : List Fragment} (each : ∀ fragment ∈ fragments, Tidy fragment) :
    Tidy (listed fragments) := by
  induction fragments with
  | nil => exact .nil
  | cons fragment rest ih =>
      obtain ⟨first, others⟩ := List.forall_mem_cons.mp each
      cases rest with
      | nil => exact first
      | cons next rest => exact .append (.append first (tidy_mark (by decide))) (ih others)

theorem tidy_method (isWord : Naming.isWord called = true) (tidy : Tidy inner) :
    Tidy (method called inner) :=
  .append (.append (tidy_mark (by decide)) (tidy_word isWord)) (tidy_parens tidy)

theorem tidy_field (isWord : Naming.isWord called = true) (legal : selected.Legal) :
    Tidy (field called selected) :=
  .append (.append (tidy_word isWord) (tidy_mark (by decide))) (tidy_name legal)

theorem tidy_clone (tidy : Tidy inner) : Tidy (clone inner) :=
  .append (tidy_below (by decide)) (tidy_parens tidy)

end Fragment

/-! ## Statements -/

theorem ContentPut.tidy {statement : ContentPut} (legal : statement.field.Legal) :
    Tidy statement.tokens := by
  have put : ∀ {reference : Fragment}, Tidy reference → Tidy (put statement.column reference) := by
    intro reference tidy
    refine .append (.append (tidy_word (by decide)) (tidy_method (by decide) ?_))
      (tidy_mark (by decide))
    exact .append (.append (tidy_text _) (tidy_mark (by decide))) (tidy_clone tidy)
  have source : Tidy (mark "&" ++ Fragment.field "object" statement.field) :=
    .append (tidy_mark (by decide)) (tidy_field (by decide) legal)
  rw [tokens]
  split
  · refine .append (.append (.append (.append (.append ?_ ?_) ?_) ?_) source) (tidy_braces ?_)
    · exact tidy_words (by decide)
    · exact tidy_below (by decide)
    · exact tidy_parens (tidy_word (by decide))
    · exact tidy_mark (by decide)
    · exact put (tidy_word (by decide))
  · exact put source

theorem CursorRead.tidy {statement : CursorRead} (legal : statement.field.Legal) :
    Tidy statement.tokens := by
  have one : Literal.Readable "1" := Literal.readable_digits (by decide)
    (List.all_iff_forall_prop.mp (by decide))
  have read : Tidy (value statement.type.column) := by
    refine .append (.append (.append ?_ (tidy_method ?_ ?_)) (tidy_mark (by decide))) ?_
    · exact tidy_word (by decide)
    · cases statement.type.column <;> decide
    · exact tidy_word (by decide)
    · split
      · exact .append (tidy_mark (by decide)) (.single (.literal one) rfl)
      · exact .nil
  have assigned : Tidy (if statement.type.nullable then
      words ["if", "cursor"] ++ method "is_null" (word "index")
        ++ braces (below ["core", "option", "Option", "None"]) ++ word "else"
        ++ braces (below ["core", "option", "Option", "Some"]
          ++ parens (value statement.type.column))
      else value statement.type.column) := by
    split
    · refine .append (.append (.append (.append ?_ ?_) ?_) ?_) ?_
      · exact tidy_words (by decide)
      · exact tidy_method (by decide) (tidy_word (by decide))
      · exact tidy_braces (tidy_below (by decide))
      · exact tidy_word (by decide)
      · exact tidy_braces (.append (tidy_below (by decide)) (tidy_parens read))
    · exact read
  refine tidy_braces (.append (.append (.append (.append (.append (.append (.append (.append
    (.append ?_ ?_) ?_) ?_) ?_) ?_) ?_) ?_) assigned) ?_)
  · exact tidy_words (by decide)
  · exact tidy_mark (by decide)
  · exact tidy_word (by decide)
  · exact tidy_method (by decide) (tidy_text _)
  · exact tidy_mark (by decide)
  · exact tidy_mark (by decide)
  · exact tidy_field (by decide) legal
  · exact tidy_mark (by decide)
  · exact tidy_mark (by decide)

theorem KeyCondition.tidy_arguments {runtime : Fragment} {condition : KeyCondition}
    (tidy : Tidy runtime) (legal : ∀ key ∈ condition.keys, key.2.Legal) :
    Tidy (condition.arguments runtime) := by
  refine .append (.append (tidy_below (by decide)) (tidy_mark (by decide)))
    (tidy_brackets (tidy_listed fun fragment member => ?_))
  obtain ⟨key, inside, rfl⟩ := List.mem_map.mp member
  refine .append (.append tidy (tidy_below (by decide))) (tidy_parens (tidy_clone ?_))
  exact .append (tidy_mark (by decide)) (tidy_field (by decide) (legal key inside))

theorem KeyCondition.legal_ofModel {model : TypeModel}
    (legal : ∀ column ∈ model.columns, column.field.Legal) :
    ∀ key ∈ (ofModel model).keys, key.2.Legal := by
  intro key member
  obtain ⟨column, inside, rfl⟩ := List.mem_map.mp member
  exact legal column (List.mem_filter.mp inside).1

/-! ## Paths and names of units -/

namespace Naming

theorem pathName_legal {segment : String} {name : Identifier}
    (written : pathName segment = .ok name) : name.Legal := by
  rw [pathName] at written
  split at written
  · rename_i inPaths
    cases written
    have each : ∀ segment ∈ pathWords, isWord segment = true := by decide
    exact ⟨each segment (by simpa using inPaths), fun raw => absurd raw Bool.false_ne_true⟩
  · split at written
    · rename_i read
      cases written
      exact Reader.identifier_legal read
    · split at written
      · rename_i nameable
        cases written
        have nameable := nameable_iff.mpr nameable
        exact ⟨nameable.word, fun _ => nameable.allowed⟩
      · contradiction

theorem hostNames_legal {model : TypeModel} {names : List Identifier}
    (written : hostNames model = .ok names) : ∀ name ∈ names, name.Legal := by
  intro name member
  obtain ⟨_, _, same⟩ := Results.mem_of_mapM_eq_ok written member
  exact pathName_legal same

theorem unitIdentifier_legal {naming : UnitNaming} {typeName : String} {kind : UnitKind}
    {name : Identifier} (written : naming.unitIdentifier typeName kind = .ok name) :
    name.Legal := by
  rw [UnitNaming.unitIdentifier] at written
  split at written
  · rename_i word
    cases written
    exact ⟨word, nofun⟩
  · contradiction

theorem tidy_pathTokens {names : List Identifier} (legal : ∀ name ∈ names, name.Legal) :
    Tidy (pathTokens names) := by
  have colons : Tidy (Token.ofOperator "::") := Token.tidy_ofOperator (by decide)
  induction names with
  | nil => exact .nil
  | cons name rest ih =>
      obtain ⟨first, others⟩ := List.forall_mem_cons.mp legal
      cases rest with
      | nil => exact .single (.word first) rfl
      | cons next rest =>
          exact .append (tidy_name first) (colons.append (ih others))

end Naming

/-! ## Templates -/

namespace Template

variable {context : GenerationContext} {backend : Backend} {runtime host body : Fragment}
    {model : TypeModel} {unit : Identifier} {text : String}

theorem tidy_documentation : Tidy (documentation context text) := by
  rw [documentation]
  split
  · refine .append (tidy_mark (by decide)) (tidy_brackets ?_)
    exact .append (.append (tidy_word (by decide)) (tidy_mark (by decide))) (tidy_text _)
  · exact .nil

theorem tidy_definition (legal : unit.Legal) : Tidy (definition context text unit) := by
  have derived : Tidy (listed (["Debug", "Clone", "Copy", "Default"].map word)) := by
    refine tidy_listed fun fragment member => ?_
    obtain ⟨derived, inside, rfl⟩ := List.mem_map.mp member
    have each : ∀ derived ∈ ["Debug", "Clone", "Copy", "Default"],
        Naming.isWord derived = true := by
      decide
    exact tidy_word (each derived inside)
  refine .append (.append (.append (.append (.append tidy_documentation ?_) ?_) ?_) ?_) ?_
  · exact tidy_mark (by decide)
  · exact tidy_brackets (.append (tidy_word (by decide)) (tidy_parens derived))
  · exact tidy_words (by decide)
  · exact tidy_name legal
  · exact tidy_mark (by decide)

theorem tidy_angled (tidy : Tidy body) : Tidy (angled body) :=
  .append (.append (tidy_mark (by decide)) tidy) (tidy_mark (by decide))

theorem tidy_function {arguments result : Fragment} (isWord : Naming.isWord text = true)
    (first : Tidy arguments) (second : Tidy result) (third : Tidy body) :
    Tidy (function text arguments result body) := by
  refine .append (.append (.append (.append (tidy_words ?_) (tidy_parens first)) ?_) second)
    (tidy_braces third)
  · simpa using ⟨by decide, isWord⟩
  · exact tidy_mark (by decide)

theorem tidy_implementation {trait self : Fragment} (first : Tidy trait) (second : Tidy self)
    (third : Tidy body) : Tidy (implementation trait self body) :=
  .append (.append (.append (.append (tidy_word (by decide)) first) (tidy_word (by decide))) second)
    (tidy_braces third)

theorem tidy_borrowed (isWord : Naming.isWord text = true) (tidy : Tidy host) :
    Tidy (borrowed text host) := by
  refine .append (.append (.append (.append (.append (.append ?_ ?_) ?_) ?_) ?_) ?_) tidy
  · exact tidy_mark (by decide)
  · exact tidy_word (by decide)
  · exact tidy_mark (by decide)
  · exact tidy_word isWord
  · exact tidy_mark (by decide)
  · exact tidy_mark (by decide)

theorem tidy_query {locator : String} {condition : Option KeyCondition}
    (offered : backend ∈ Backend.all) (tidy : Tidy runtime) (isWord : Naming.isWord text = true)
    (legal : ∀ found ∈ condition, ∀ key ∈ found.keys, key.2.Legal) :
    Tidy (query backend runtime text locator condition) := by
  have located : Naming.isWord backend.locatorMethod = true := by
    have each : ∀ backend ∈ Backend.all, Naming.isWord backend.locatorMethod = true := by decide
    exact each backend offered
  refine .append (.append (.append (.append (.append tidy ?_) ?_) ?_) ?_) ?_
  · exact tidy_below (by simpa using ⟨isWord, by decide⟩)
  · exact tidy_parens .nil
  · exact tidy_method located (tidy_text _)
  · cases condition with
    | none => exact .nil
    | some condition =>
        exact .append (tidy_method (by decide) (tidy_text _))
          (tidy_method (by decide) (KeyCondition.tidy_arguments tidy (legal condition rfl)))
  · exact tidy_method (by decide) .nil

theorem tidy_putBody (offered : backend ∈ Backend.all) (tidy : Tidy runtime) (named : Tidy host)
    (legal : ∀ column ∈ model.columns, column.field.Legal) :
    Tidy (putBody backend runtime host model) := by
  have values : Tidy (runtime ++ below ["ContentValues"]) := .append tidy (tidy_below (by decide))
  have keys : ∀ found ∈ some (KeyCondition.ofModel model), ∀ key ∈ found.keys, key.2.Legal := by
    rintro _ ⟨⟩
    exact KeyCondition.legal_ofModel legal
  refine .append (.append ?_ ?_) ?_
  · exact tidy_function (by decide) (tidy_borrowed (by decide) named)
      (.append tidy (tidy_below (by decide))) (tidy_query offered tidy (by decide) (by simp))
  · exact tidy_function (by decide) (tidy_borrowed (by decide) named)
      (.append tidy (tidy_below (by decide))) (tidy_query offered tidy (by decide) keys)
  · refine tidy_function (by decide) (tidy_borrowed (by decide) named) values ?_
    refine .append (.append (.append (.append (.append (.append (.append ?_ ?_) values) ?_) ?_) ?_)
      ?_) ?_
    · exact tidy_words (by decide)
    · exact tidy_mark (by decide)
    · exact tidy_below (by decide)
    · exact tidy_parens (.single (.literal (Literal.readable_counted _)) rfl)
    · exact tidy_mark (by decide)
    · refine .flatMap fun statement member => ?_
      obtain ⟨column, inside, rfl⟩ := List.mem_map.mp member
      exact ContentPut.tidy (legal column inside)
    · exact tidy_word (by decide)

theorem tidy_getBody (tidy : Tidy runtime) (named : Tidy host)
    (legal : ∀ column ∈ model.columns, column.field.Legal) :
    Tidy (getBody runtime host model) := by
  refine tidy_function (by decide) ?_ ?_ ?_
  · refine .append (.append (.append (.append (.append (.append (.append (.append
      ?_ ?_) ?_) ?_) ?_) ?_) tidy) ?_) ?_
    · exact tidy_mark (by decide)
    · exact tidy_word (by decide)
    · exact tidy_mark (by decide)
    · exact tidy_word (by decide)
    · exact tidy_mark (by decide)
    · exact tidy_mark (by decide)
    · exact tidy_below (by decide)
    · exact tidy_mark (by decide)
  · refine .append (tidy_below (by decide)) (tidy_angled ?_)
    exact .append (.append (.append named (tidy_mark (by decide))) tidy) (tidy_below (by decide))
  · refine .append (.append (.append (.append (.append (.append (.append (.append
      ?_ ?_) ?_) ?_) ?_) ?_) ?_) ?_) ?_
    · exact tidy_words (by decide)
    · exact tidy_mark (by decide)
    · exact tidy_angled (.append (.append named (tidy_word (by decide))) (tidy_below (by decide)))
    · exact tidy_below (by decide)
    · exact tidy_parens .nil
    · exact tidy_mark (by decide)
    · refine .flatMap fun statement member => ?_
      obtain ⟨column, inside, rfl⟩ := List.mem_map.mp member
      exact CursorRead.tidy (legal column inside)
    · exact tidy_below (by decide)
    · exact tidy_parens (tidy_word (by decide))

theorem tidy_deleteBody (offered : backend ∈ Backend.all) (tidy : Tidy runtime)
    (named : Tidy host) (legal : ∀ column ∈ model.columns, column.field.Legal) :
    Tidy (deleteBody backend runtime host model) := by
  refine tidy_function (by decide) (tidy_borrowed (by decide) named)
    (.append tidy (tidy_below (by decide))) (tidy_query offered tidy (by decide) ?_)
  rintro _ ⟨⟩
  exact KeyCondition.legal_ofModel legal

theorem tidy_resolverTrait (tidy : Tidy runtime) (named : Tidy host) (kind : UnitKind) :
    Tidy (resolverTrait runtime host kind) := by
  refine .append (.append tidy (tidy_below ?_)) (tidy_angled named)
  cases kind <;> decide

theorem tidy_boxed (legal : unit.Legal) : Tidy (boxed unit) :=
  .append (tidy_below (by decide)) (tidy_parens (tidy_name legal))

theorem tidy_mappingItems {mapping put get delete : Identifier} (offered : backend ∈ Backend.all)
    (tidy : Tidy runtime) (named : Tidy host) (legal : mapping.Legal) (putLegal : put.Legal)
    (getLegal : get.Legal) (deleteLegal : delete.Legal) :
    Tidy (mappingItems backend runtime host mapping put get delete) := by
  have typed : Naming.isWord backend.mappingType = true := by
    have each : ∀ backend ∈ Backend.all, Naming.isWord backend.mappingType = true := by decide
    exact each backend offered
  have mappingType : Tidy (runtime ++ below [backend.mappingType]) :=
    .append tidy (tidy_below (by simpa using typed))
  refine .append (tidy_implementation ?_ ?_ ?_) (tidy_implementation ?_ named ?_)
  · exact .append (tidy_below (by decide)) (tidy_angled (tidy_name legal))
  · exact .append mappingType (tidy_angled named)
  · refine tidy_function (by decide) ?_ (tidy_word (by decide)) ?_
    · exact .append (.append (tidy_word (by decide)) (tidy_mark (by decide))) (tidy_name legal)
    · refine .append (.append mappingType (tidy_below (by decide))) (tidy_parens ?_)
      refine .flatMap fun resolver member => .append (tidy_boxed ?_) (tidy_mark (by decide))
      simp only [List.mem_cons, List.not_mem_nil, or_false] at member
      rcases member with rfl | rfl | rfl <;> assumption
  · exact .append tidy (tidy_below (by decide))
  · refine tidy_function (by decide) .nil ?_ ?_
    · exact .append mappingType (tidy_angled (tidy_word (by decide)))
    · exact .append (tidy_below (by decide)) (tidy_parens (tidy_name legal))

end Template

namespace Generator

variable {generator : Generator} {context : GenerationContext} {model : TypeModel}

/-- The items of a unit behind its definition. -/
inductive Items (generator : Generator) (runtime host : Fragment) (model : TypeModel)
    (unit : Identifier) : Fragment → Prop
  | put (kind : generator.kind = .put) :
      Items generator runtime host model unit (tokens.resolver generator runtime host unit
        (Template.putBody generator.backend runtime host model))
  | get (kind : generator.kind = .get) :
      Items generator runtime host model unit (tokens.resolver generator runtime host unit
        (Template.getBody runtime host model))
  | delete (kind : generator.kind = .delete) :
      Items generator runtime host model unit (tokens.resolver generator runtime host unit
        (Template.deleteBody generator.backend runtime host model))
  | mapping {put get delete : Identifier} (kind : generator.kind = .mapping)
      (putNamed : generator.backend.naming.unitIdentifier model.name .put = .ok put)
      (getNamed : generator.backend.naming.unitIdentifier model.name .get = .ok get)
      (deleteNamed : generator.backend.naming.unitIdentifier model.name .delete = .ok delete) :
      Items generator runtime host model unit
        (Template.mappingItems generator.backend runtime host unit put get delete)

/-- A unit is a definition and its items. -/
theorem tokens_eq_ok {tokens : Fragment} :
    generator.tokens context model = .ok tokens ↔
      ∃ names unit items, Naming.hostNames model = .ok names ∧
        generator.backend.naming.unitIdentifier model.name generator.kind = .ok unit ∧
        Items generator context.runtime.tokens (Naming.pathTokens names) model unit items ∧
        tokens = Template.definition context (Template.sentence generator.backend generator.kind
          model.qualifiedName) unit ++ items := by
  rw [Generator.tokens, Naming.hostPath, map_eq_pure_bind]
  constructor
  · intro written
    obtain ⟨_, hosted, written⟩ := Results.bind_eq_ok.mp written
    obtain ⟨names, reached, same⟩ := Results.bind_eq_ok.mp hosted
    cases same
    obtain ⟨unit, named, written⟩ := Results.bind_eq_ok.mp written
    refine ⟨names, unit, ?_⟩
    cases kind : generator.kind with
    | put =>
        simp only [kind] at written named
        cases written
        exact ⟨_, reached, named, .put kind, rfl⟩
    | get =>
        simp only [kind] at written named
        cases written
        exact ⟨_, reached, named, .get kind, rfl⟩
    | delete =>
        simp only [kind] at written named
        cases written
        exact ⟨_, reached, named, .delete kind, rfl⟩
    | mapping =>
        simp only [kind] at written named
        obtain ⟨_, put, written⟩ := Results.bind_eq_ok.mp written
        obtain ⟨_, get, written⟩ := Results.bind_eq_ok.mp written
        obtain ⟨_, delete, written⟩ := Results.bind_eq_ok.mp written
        cases written
        exact ⟨_, reached, named, .mapping kind put get delete, rfl⟩
  · rintro ⟨names, unit, items, hosted, named, written, rfl⟩
    refine Results.bind_eq_ok.mpr ⟨_, Results.bind_eq_ok.mpr ⟨names, hosted, rfl⟩,
      Results.bind_eq_ok.mpr ⟨unit, named, ?_⟩⟩
    cases written with
    | put kind => simp only [kind]; rfl
    | get kind => simp only [kind]; rfl
    | delete kind => simp only [kind]; rfl
    | mapping kind put get delete => simp only [kind, put, get, delete]; rfl

/-- The code of every unit is tidy. -/
theorem tokens_tidy {tokens : Fragment} (offered : generator.backend ∈ Backend.all)
    (tidy : Tidy context.runtime.tokens) (legal : ∀ column ∈ model.columns, column.field.Legal)
    (written : generator.tokens context model = .ok tokens) : Tidy tokens := by
  obtain ⟨names, unit, items, hosted, named, itemized, rfl⟩ := tokens_eq_ok.mp written
  have unitLegal := Naming.unitIdentifier_legal named
  have host := Naming.tidy_pathTokens (Naming.hostNames_legal hosted)
  have resolver : ∀ {body : Fragment}, Tidy body → Tidy (tokens.resolver generator
      context.runtime.tokens (Naming.pathTokens names) unit body) := fun body =>
    Template.tidy_implementation (Template.tidy_resolverTrait tidy host _) (tidy_name unitLegal)
      body
  refine .append (Template.tidy_definition unitLegal) ?_
  cases itemized with
  | put => exact resolver (Template.tidy_putBody offered tidy host legal)
  | get => exact resolver (Template.tidy_getBody tidy host legal)
  | delete => exact resolver (Template.tidy_deleteBody offered tidy host legal)
  | mapping _ put get delete =>
      exact Template.tidy_mappingItems offered tidy host unitLegal (Naming.unitIdentifier_legal put)
        (Naming.unitIdentifier_legal get) (Naming.unitIdentifier_legal delete)

end Generator

end StorageMapping
