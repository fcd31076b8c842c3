import StorageMapping.Proofs.Code.Statements
import StorageMapping.Proofs.Unit.Slots
import StorageMapping.Proofs.Unit.UnitNames

namespace StorageMapping

open Source Fragment Naming

/-! # What the functions of a unit do

A reader for the parts of a unit that are no statements: the struct that it declares, the bodies of
its functions, the queries that these build and the values that they box. A lifetime stands for the
path of the runtime module, as in the code of a unit for any module. -/

namespace Code

/-! ## Reading -/

/-- The word behind a keyword, where both stand in front. -/
def introduced? (keyword : String) : List Token → Option Identifier
  | .word first _ :: .word name _ :: _ => if first.isWord keyword then some name else none
  | _ => none

/-- The name of the first struct. -/
def declared? : List Token → Option String
  | [] => none
  | token :: rest =>
      match introduced? "struct" (token :: rest) with
      | some name => some name.written
      | none => declared? rest

def braced? : Token → Option (List Token)
  | .group .brace inner _ _ => some inner
  | _ => none

/-- What stands in the braces behind the head of a function. -/
def bodyAmong? (name : String) : List Token → Option (List Token)
  | [] => none
  | token :: rest =>
      match introduced? "fn" (token :: rest) with
      | some found => if found.isWord name then rest.findSome? braced? else bodyAmong? name rest
      | none => bodyAmong? name rest

/-- The body of a function in one of the implementations of a unit. -/
def body? (name : String) (code : List Token) : Option (List Token) :=
  (code.filterMap braced?).findSome? (bodyAmong? name)

/-- The methods that are called one behind the other, with their arguments. -/
def calls : List Token → List (String × List Token)
  | [] => []
  | .punctuation '.' _ _ :: .word name _ :: .group .parenthesis arguments _ _ :: rest =>
      (name.written, arguments) :: calls rest
  | _ :: rest => calls rest

def readText : List Token → Option String
  | [.literal text _] => Literal.stringValue? text
  | _ => none

/-- An expression that is made a value of the runtime module. -/
def readValue : List Token → Option Expression
  | .lifetime _ _ :: made =>
      match readPath made with
      | (["Value", "from"], [.group .parenthesis inner _ _]) => readExpression inner
      | _ => none
  | _ => none

def readValues (tokens : List Token) : Option (List Expression) :=
  match readPath tokens with
  | (["std", "vec"], [.punctuation '!' _ _, .group .bracket [] _ _]) => some []
  | (["std", "vec"], [.punctuation '!' _ _, .group .bracket inner _ _]) =>
      (inner.splitOnP (isMark ',')).mapM readValue
  | _ => none

/-- The condition of a query: its text, and what is put in the places of the question marks. -/
structure Condition where
  clause : String
  arguments : List Expression

structure Query where
  /-- The method that takes the locator. -/
  method : String
  locator : String
  condition : Option Condition

def readQuery (tokens : List Token) : Option Query :=
  match calls tokens with
  | [(method, locator), ("build", [])] => do
      some ⟨method, ← readText locator, none⟩
  | [(method, locator), ("where_clause", clause), ("where_args", arguments), ("build", [])] => do
      some ⟨method, ← readText locator, some ⟨← readText clause, ← readValues arguments⟩⟩
  | _ => none

/-- The query that a function of a unit builds. -/
def query? (function : String) (code : List Token) : Option Query :=
  body? function code >>= readQuery

/-- The name of a value that is put into a box. -/
def readBox (tokens : List Token) : Option String :=
  match readPath tokens with
  | (["std", "boxed", "Box", "new"], [.group .parenthesis [.word name _] _ _]) => some name.written
  | _ => none

/-- What a new value of the runtime module is made of, where all of it is boxed. Every argument
has a comma behind it. -/
def readBoxes : List Token → Option (List String)
  | .lifetime _ _ :: made =>
      match readPath made with
      | ([_, "new"], [.group .parenthesis arguments _ _]) =>
          (arguments.splitOnP (isMark ',')).dropLast.mapM readBox
      | _ => none
  | _ => none

/-- The values that the conversion of a unit boxes. -/
def boxes? (code : List Token) : Option (List String) := body? "from" code >>= readBoxes

/-- The field of an object that is selected in front. -/
def selected? (object : String) : List Token → Option Identifier
  | .word holder _ :: .punctuation '.' _ _ :: .word name _ :: _ =>
      if holder.isWord object then some name else none
  | _ => none

mutual

/-- The fields of an object that are named anywhere in a token, in their order. -/
def namedWithin (object : String) : Token → List Identifier
  | .group _ inner _ _ => fieldsNamed object inner
  | _ => []

def fieldsNamed (object : String) : List Token → List Identifier
  | [] => []
  | token :: rest =>
      (selected? object (token :: rest)).toList ++ namedWithin object token
        ++ fieldsNamed object rest

end

/-! ## Implementations -/

/-- The tokens have no braces at their outer level. -/
def Unbraced (tokens : List Token) : Prop := tokens.filterMap braced? = []

section

variable {front back : List Token}

@[simp] theorem unbraced_append : Unbraced (front ++ back) ↔ Unbraced front ∧ Unbraced back := by
  rw [Unbraced, List.filterMap_append, List.append_eq_nil_iff]
  rfl

theorem unbraced_pathTokens (names : List Identifier) : Unbraced (pathTokens names) := by
  fun_induction pathTokens names with
  | case1 => rfl
  | case2 => rfl
  | case3 name rest _ ih => exact ih

theorem unbraced_definition (context : GenerationContext) (sentence : String) (unit : Identifier) :
    Unbraced (Template.definition context sentence unit) := by
  unfold Template.definition Template.documentation
  split <;> rfl

theorem filterMap_implementation {trait self body : Fragment} (trait_unbraced : Unbraced trait)
    (self_unbraced : Unbraced self) :
    (Template.implementation trait self body).filterMap braced? = [body] := by
  have first : (word "impl" : Fragment).filterMap braced? = [] := rfl
  have second : (word "for" : Fragment).filterMap braced? = [] := rfl
  have last : (braces body).filterMap braced? = [body] := rfl
  rw [Unbraced] at trait_unbraced self_unbraced
  simp only [Template.implementation, List.filterMap_append, first, second, last, trait_unbraced,
    self_unbraced, List.nil_append]

end

variable {backend : Backend} {context : GenerationContext} {model : TypeModel} {kind : UnitKind}
  {names : List Identifier} {unit : Identifier} {sentence name : String} {code inner : Fragment}

theorem body?_resolver {body : Fragment} (found : bodyAmong? name body = some inner) :
    body? name (Template.definition context sentence unit ++ Generator.tokens.resolver
      ⟨backend, kind⟩ Template.slot (pathTokens names) unit body) = some inner := by
  have defined := unbraced_definition context sentence unit
  have trait : Unbraced (Template.resolverTrait Template.slot (pathTokens names) kind) := by
    simp only [Template.resolverTrait, Template.angled, unbraced_append, unbraced_pathTokens,
      and_true]
    exact ⟨⟨rfl, rfl⟩, rfl, rfl⟩
  have self : Unbraced (Fragment.name unit) := rfl
  rw [body?, List.filterMap_append, defined, Generator.tokens.resolver,
    filterMap_implementation trait self, List.nil_append, List.findSome?_singleton, found]

/-! ## Queries -/

theorem readText_text (value : String) : readText (text value) = some value :=
  Literal.stringValue?_quoteLiteral value

/-- A copy of a field that is made a value. -/
def valueOf (field : Identifier) : Fragment :=
  Template.slot ++ below ["Value", "from"]
    ++ parens (clone (mark "&" ++ Fragment.field "object" field))

theorem readValue_valueOf (field : Identifier) :
    readValue (valueOf field) = some (copied (.borrowed "object" field)) := by
  have inside : readValue (valueOf field) =
      readExpression (clone (mark "&" ++ Fragment.field "object" field)) := rfl
  rw [inside, readExpression_clone fun _ => rfl]
  rfl

theorem splitOnP_listed {pieces : List Fragment} (present : pieces ≠ [])
    (whole : ∀ piece ∈ pieces, piece.all (!isMark ',' ·) = true) :
    (listed pieces).splitOnP (isMark ',') = pieces := by
  have unbroken {piece : Fragment} (whole : piece.all (!isMark ',' ·) = true) :
      ∀ token ∈ piece, isMark ',' token = false := by
    simpa using whole
  fun_induction listed pieces with
  | case1 => contradiction
  | case2 piece => exact List.splitOnP_eq_singleton (unbroken (whole piece List.mem_cons_self))
  | case3 piece rest following ih =>
      obtain ⟨here, others⟩ := List.forall_mem_cons.mp whole
      rw [List.append_assoc]
      exact (List.splitOnP_append_cons_of_forall_mem (unbroken here) _ rfl _).trans
        (congrArg _ (ih following others))

theorem all_valueOf (field : Identifier) : (valueOf field).all (!isMark ',' ·) = true := rfl

/-- The values of a condition are copies of the key fields, in the order of the clause. -/
def keyValues (condition : KeyCondition) : List Expression :=
  condition.keys.map fun key => copied (.borrowed "object" key.2)

theorem keyValues_ofModel (model : TypeModel) :
    keyValues (.ofModel model) =
      model.keyColumns.map fun column => copied (.borrowed "object" column.field) := by
  rw [keyValues, KeyCondition.ofModel, List.map_map]
  rfl

theorem readValues_arguments (condition : KeyCondition) :
    readValues (condition.arguments Template.slot) = some (keyValues condition) := by
  obtain ⟨keys⟩ := condition
  cases keys with
  | nil => rfl
  | cons key rest =>
      let values := (key :: rest).map fun key => valueOf key.2
      have pieces : readValues (KeyCondition.arguments Template.slot ⟨key :: rest⟩) =
          ((listed values).splitOnP (isMark ',')).mapM readValue := by
        cases rest <;> rfl
      have read : values.mapM readValue = some (keyValues ⟨key :: rest⟩) :=
        mapM_map_eq_some (fun key : String × Identifier => readValue_valueOf key.2) (key :: rest)
      have whole : ∀ piece ∈ values, piece.all (!isMark ',' ·) = true :=
        List.forall_mem_map.mpr fun key _ => all_valueOf key.2
      rw [pieces, splitOnP_listed (List.map_eq_nil_iff.not.mpr (List.cons_ne_nil _ _)) whole, read]

/-- The query that a template writes down. -/
def written (backend : Backend) (locator : String) (condition : Option KeyCondition) : Query :=
  ⟨backend.locatorMethod, locator,
    condition.map fun condition => ⟨condition.clause, keyValues condition⟩⟩

theorem readQuery_query (backend : Backend) (name locator : String)
    (condition : Option KeyCondition) :
    readQuery (Template.query backend Template.slot name locator condition) =
      some (written backend locator condition) := by
  cases condition with
  | none =>
      have read : readQuery (Template.query backend Template.slot name locator none) =
          (readText (text locator)).bind fun locator =>
            some ⟨backend.locatorMethod, locator, none⟩ := rfl
      rw [read, readText_text]
      rfl
  | some condition =>
      have read : readQuery (Template.query backend Template.slot name locator (some condition)) =
          (readText (text locator)).bind fun locator =>
            (readText (text condition.clause)).bind fun clause =>
              (readValues (condition.arguments Template.slot)).bind fun arguments =>
                some ⟨backend.locatorMethod, locator, some ⟨clause, arguments⟩⟩ := rfl
      rw [read, readText_text, readText_text, readValues_arguments]
      rfl

/-- The code of a put has two queries, one without a condition and one on the key. -/
theorem body?_put (coded : Generator.tokens ⟨backend, .put⟩ context.vacant model = .ok code) :
    body? "map_to_insert_query" code = some (Template.query backend Template.slot "InsertQuery"
        (model.locators.resolve .insert) none) ∧
      body? "map_to_update_query" code = some (Template.query backend Template.slot "UpdateQuery"
        (model.locators.resolve .update) (some (.ofModel model))) := by
  obtain ⟨names, unit, items, _, _, itemized, rfl⟩ := Generator.tokens_eq_ok.mp coded
  cases itemized with
  | put => exact ⟨body?_resolver rfl, body?_resolver rfl⟩
  | _ => contradiction

/-- The statement that makes the content values of a type. -/
def emptyValues (model : TypeModel) : Fragment :=
  words ["let", "mut", "content_values"] ++ mark "="
    ++ (Template.slot ++ below ["ContentValues"]) ++ below ["with_capacity"]
    ++ parens [Token.literal (toString model.columns.length ++ "usize") .start] ++ mark ";"

/-- The code of a put fills the content values by one statement for each column. -/
theorem body?_values (coded : Generator.tokens ⟨backend, .put⟩ context.vacant model = .ok code) :
    body? "map_to_content_values" code =
      some (emptyValues model ++ model.contentPuts.flatMap (·.tokens)
        ++ word "content_values") := by
  obtain ⟨names, unit, items, _, _, itemized, rfl⟩ := Generator.tokens_eq_ok.mp coded
  cases itemized with
  | put => exact body?_resolver rfl
  | _ => contradiction

/-- The code of a delete has one query, on the key. -/
theorem body?_delete
    (coded : Generator.tokens ⟨backend, .delete⟩ context.vacant model = .ok code) :
    body? "map_to_delete_query" code = some (Template.query backend Template.slot "DeleteQuery"
      (model.locators.resolve .delete) (some (.ofModel model))) := by
  obtain ⟨names, unit, items, _, _, itemized, rfl⟩ := Generator.tokens_eq_ok.mp coded
  cases itemized with
  | delete => exact body?_resolver rfl
  | _ => contradiction

theorem query?_of_body {table locator : String} {condition : Option KeyCondition}
    (found : body? name code =
      some (Template.query backend Template.slot table locator condition)) :
    query? name code = some (written backend locator condition) := by
  rw [query?, found]
  exact readQuery_query backend table locator condition

/-! ## Fields -/

/-- The tokens have no dot at their outer level. -/
def Undotted (tokens : List Token) : Prop := tokens.all (!isMark '.' ·) = true

section

variable {object : String} {front back : List Token}

@[simp] theorem undotted_append : Undotted (front ++ back) ↔ Undotted front ∧ Undotted back := by
  simp [Undotted]

theorem undotted_pathTokens (names : List Identifier) : Undotted (pathTokens names) := by
  fun_induction pathTokens names with
  | case1 => rfl
  | case2 => rfl
  | case3 name rest _ ih => exact ih

theorem selected?_of_undotted {token : Token} (undotted : Undotted back) :
    selected? object (token :: back) = none := by
  unfold selected?
  split
  · rename_i same
    cases same
    simp [Undotted, isMark] at undotted
  · rfl

/-- Where no dot stands, fields can be named inside of groups only. -/
theorem fieldsNamed_of_undotted (undotted : Undotted front) :
    fieldsNamed object front = front.flatMap (namedWithin object) := by
  induction front with
  | nil => rfl
  | cons token rest ih =>
      have others : Undotted rest := by
        rw [Undotted, List.all_cons, Bool.and_eq_true] at undotted
        exact undotted.2
      rw [fieldsNamed, selected?_of_undotted others, ih others]
      rfl

end

/-- The tokens name no field, and no dot stands between them. -/
structure Silent (object : String) (tokens : List Token) : Prop where
  undotted : Undotted tokens
  unnamed : tokens.flatMap (namedWithin object) = []

namespace Silent

variable {object : String} {front back : List Token}

theorem append (first : Silent object front) (second : Silent object back) :
    Silent object (front ++ back) :=
  ⟨undotted_append.mpr ⟨first.undotted, second.undotted⟩, by
    rw [List.flatMap_append, first.unnamed, second.unnamed, List.append_nil]⟩

theorem word (text : String) : Silent object (word text) := ⟨rfl, rfl⟩

theorem parens (inside : Silent object front) : Silent object (parens front) :=
  ⟨rfl, by
    have inner : fieldsNamed object front = [] :=
      (fieldsNamed_of_undotted inside.undotted).trans inside.unnamed
    exact (List.append_nil _).trans inner⟩

theorem pathTokens (names : List Identifier) : Silent object (Naming.pathTokens names) := by
  refine ⟨undotted_pathTokens names, ?_⟩
  fun_induction Naming.pathTokens names with
  | case1 => rfl
  | case2 => rfl
  | case3 name rest _ ih => exact ih

theorem definition (context : GenerationContext) (sentence : String) (unit : Identifier) :
    Silent object (Template.definition context sentence unit) := by
  unfold Template.definition Template.documentation
  split <;> exact ⟨rfl, rfl⟩

end Silent

/-- A unit declares the struct of its name. -/
theorem declared?_unit {generator : Generator}
    (coded : generator.tokens context model = .ok code) :
    declared? code = some (generator.backend.naming.unitName model.name generator.kind) := by
  obtain ⟨names, unit, items, _, named, _, rfl⟩ := Generator.tokens_eq_ok.mp coded
  have first : declared? (Template.definition context (Template.sentence generator.backend
      generator.kind model.qualifiedName) unit ++ items) = some unit.written := by
    unfold Template.definition Template.documentation
    split <;> rfl
  rw [first, UnitNaming.eq_plain_of_unitIdentifier named]
  rfl

theorem boxes?_mappingItems {host : Fragment} (path : Unbraced host) (put get delete : String) :
    boxes? (Template.definition context sentence unit ++ Template.mappingItems backend Template.slot
      host unit (.plain put) (.plain get) (.plain delete)) = some [put, get, delete] := by
  have trait : Unbraced (below ["core", "convert", "From"]
      ++ Template.angled (Fragment.name unit)) := rfl
  have self : Unbraced (Template.slot ++ below [backend.mappingType] ++ Template.angled host) := by
    simp only [Template.angled, unbraced_append, path, and_true]
    exact ⟨⟨rfl, rfl⟩, rfl, rfl⟩
  have mapped : Unbraced (Template.slot ++ below ["TypeMapped"]) := rfl
  rw [boxes?, body?, List.filterMap_append, unbraced_definition, Template.mappingItems,
    List.filterMap_append, filterMap_implementation trait self,
    filterMap_implementation mapped path]
  rfl

/-- The code of a mapping boxes the resolvers of its type: the one for puts, the one for gets and
the one for deletes. -/
theorem boxes?_mapping
    (coded : Generator.tokens ⟨backend, .mapping⟩ context.vacant model = .ok code) :
    boxes? code = some ([.put, .get, .delete].map (backend.naming.unitName model.name)) := by
  obtain ⟨names, unit, items, _, _, itemized, rfl⟩ := Generator.tokens_eq_ok.mp coded
  cases itemized with
  | mapping kind putNamed getNamed deleteNamed =>
      rw [UnitNaming.eq_plain_of_unitIdentifier putNamed,
        UnitNaming.eq_plain_of_unitIdentifier getNamed,
        UnitNaming.eq_plain_of_unitIdentifier deleteNamed]
      exact boxes?_mappingItems (unbraced_pathTokens names) ..
  | _ => contradiction

end Code

end StorageMapping
