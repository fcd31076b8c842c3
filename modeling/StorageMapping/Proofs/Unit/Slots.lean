import StorageMapping.Proofs.Unit.Printed

namespace StorageMapping

/-! # Code for any runtime module

The path of the runtime module is the only part of generated code that comes from outside, and it
may be any type. Code that is written for a placeholder is the code of the unit itself: for a path
it has that path in every place of the placeholder, and nothing else depends on the path. -/

open Source Fragment

namespace Source

mutual

/-- A token with a path in the place of every lifetime. -/
def Token.filled (path : List Token) : Token → List Token
  | .lifetime _ _ => path
  | .group delimiter inner opening closing =>
      [.group delimiter (filled path inner) opening closing]
  | token => [token]

def filled (path : List Token) : List Token → List Token
  | [] => []
  | token :: rest => token.filled path ++ filled path rest

end

variable (path : List Token)

@[simp] theorem filled_nil : filled path [] = [] := rfl

@[simp] theorem filled_append (front back : List Token) :
    filled path (front ++ back) = filled path front ++ filled path back := by
  induction front with
  | nil => rfl
  | cons token rest ih => rw [List.cons_append, filled, filled, ih, List.append_assoc]

theorem filled_flatMap {α : Type} {f g : α → List Token}
    (each : ∀ x, filled path (f x) = g x) (xs : List α) :
    filled path (xs.flatMap f) = xs.flatMap g := by
  induction xs with
  | nil => rfl
  | cons x rest ih => rw [List.flatMap_cons, filled_append, each, ih, List.flatMap_cons]

theorem filled_operator (position : Position) (chars : List Char) :
    filled path (Token.operator position chars) = Token.operator position chars := by
  fun_induction Token.operator position chars with
  | case1 => rfl
  | case2 => rfl
  | case3 c rest _ ih =>
      rw [filled, ih]
      rfl

end Source

/-! ## Fragments -/

namespace Fragment

variable (path : Fragment)

@[simp] theorem filled_word (text : String) : filled path (word text) = word text := rfl

@[simp] theorem filled_name (selected : Identifier) :
    filled path (name selected) = name selected := rfl

@[simp] theorem filled_mark (operator : String) : filled path (mark operator) = mark operator :=
  filled_operator path .start operator.toList

@[simp] theorem filled_text (value : String) : filled path (text value) = text value := rfl

@[simp] theorem filled_literal (text : String) (position : Position) :
    filled path [.literal text position] = [.literal text position] := rfl

@[simp] theorem filled_parens (inner : Fragment) :
    filled path (parens inner) = parens (filled path inner) := rfl

@[simp] theorem filled_brackets (inner : Fragment) :
    filled path (brackets inner) = brackets (filled path inner) := rfl

@[simp] theorem filled_braces (inner : Fragment) :
    filled path (braces inner) = braces (filled path inner) := rfl

@[simp] theorem filled_words (texts : List String) : filled path (words texts) = words texts :=
  filled_flatMap path (filled_word path) texts

@[simp] theorem filled_below (segments : List String) :
    filled path (below segments) = below segments :=
  filled_flatMap path (fun _ => by rw [filled_append, filled_mark, filled_word]) segments

@[simp] theorem filled_method (called : String) (arguments : Fragment) :
    filled path (method called arguments) = method called (filled path arguments) := by
  simp [method]

@[simp] theorem filled_field (object : String) (selected : Identifier) :
    filled path (field object selected) = field object selected := by
  simp [field]

@[simp] theorem filled_clone (reference : Fragment) :
    filled path (clone reference) = clone (filled path reference) := by
  simp [clone]

@[simp] theorem filled_listed (fragments : List Fragment) :
    filled path (listed fragments) = listed (fragments.map (filled path)) := by
  fun_induction listed fragments with
  | case1 => rfl
  | case2 => rfl
  | case3 fragment rest present ih =>
      obtain ⟨next, rest, rfl⟩ := List.exists_cons_of_ne_nil present
      rw [filled_append, filled_append, filled_mark, ih]
      rfl

end Fragment

@[simp] theorem Naming.filled_pathTokens (path : Fragment) (names : List Identifier) :
    filled path (pathTokens names) = pathTokens names := by
  fun_induction pathTokens names with
  | case1 => rfl
  | case2 => rfl
  | case3 name rest _ ih =>
      have colons : filled path (Token.ofOperator "::") = Token.ofOperator "::" := rfl
      rw [filled, filled_append, colons, ih]
      rfl

/-! ## Statements -/

@[simp] theorem ContentPut.filled_tokens (path : Fragment) (statement : ContentPut) :
    filled path statement.tokens = statement.tokens := by
  unfold tokens
  split <;> simp [put]

@[simp] theorem CursorRead.filled_tokens (path : Fragment) (statement : CursorRead) :
    filled path statement.tokens = statement.tokens := by
  have read (type : ColumnType) : filled path (value type) = value type := by
    unfold value
    split <;> simp
  unfold tokens
  split <;> simp [read]

/-! ## Templates -/

namespace Template

/-- Stands for the path of the runtime module. No other part of a template is a lifetime. -/
def slot : Fragment := [.lifetime (.plain "runtime") .start]

variable (path : Fragment)

@[simp] theorem filled_slot : filled path slot = path := List.append_nil path

@[simp] theorem filled_arguments (condition : KeyCondition) :
    filled path (condition.arguments slot) = condition.arguments path := by
  simp [KeyCondition.arguments, Function.comp_def]

@[simp] theorem filled_documentation (context : GenerationContext) (sentence : String) :
    filled path (documentation context sentence) = documentation context sentence := by
  unfold documentation
  split <;> simp

@[simp] theorem filled_definition (context : GenerationContext) (sentence : String)
    (name : Identifier) :
    filled path (definition context sentence name) = definition context sentence name := by
  simp [definition]

@[simp] theorem filled_angled (inner : Fragment) :
    filled path (angled inner) = angled (filled path inner) := by
  simp [angled]

@[simp] theorem filled_function (name : String) (arguments result body : Fragment) :
    filled path (function name arguments result body) =
      function name (filled path arguments) (filled path result) (filled path body) := by
  simp [function]

@[simp] theorem filled_implementation (trait self body : Fragment) :
    filled path (implementation trait self body) =
      implementation (filled path trait) (filled path self) (filled path body) := by
  simp [implementation]

@[simp] theorem filled_borrowed (name : String) (host : Fragment) :
    filled path (borrowed name host) = borrowed name (filled path host) := by
  simp [borrowed]

@[simp] theorem filled_query (backend : Backend) (name locator : String)
    (condition : Option KeyCondition) :
    filled path (query backend slot name locator condition) =
      query backend path name locator condition := by
  cases condition <;> simp [query]

@[simp] theorem filled_boxed (name : Identifier) : filled path (boxed name) = boxed name := by
  simp [boxed]

variable (backend : Backend) {host : Fragment} (model : TypeModel)

theorem filled_resolverTrait (known : filled path host = host) (kind : UnitKind) :
    filled path (resolverTrait slot host kind) = resolverTrait path host kind := by
  simp [resolverTrait, known]

theorem filled_putBody (known : filled path host = host) :
    filled path (putBody backend slot host model) = putBody backend path host model := by
  simp [putBody, known, filled_flatMap path (ContentPut.filled_tokens path)]

theorem filled_getBody (known : filled path host = host) :
    filled path (getBody slot host model) = getBody path host model := by
  simp [getBody, known, filled_flatMap path (CursorRead.filled_tokens path)]

theorem filled_deleteBody (known : filled path host = host) :
    filled path (deleteBody backend slot host model) = deleteBody backend path host model := by
  simp [deleteBody, known]

theorem filled_mappingItems (known : filled path host = host)
    (mapping put get delete : Identifier) :
    filled path (mappingItems backend slot host mapping put get delete) =
      mappingItems backend path host mapping put get delete := by
  simp [mappingItems, known]

end Template

/-- The same run with a placeholder for the path of the runtime module. -/
def GenerationContext.vacant (context : GenerationContext) : GenerationContext :=
  { context with runtime := .other Template.slot }

namespace Generator

variable {generator : Generator} {context : GenerationContext} {model : TypeModel}

theorem Items.vacant {path host items : Fragment} {unit : Identifier}
    (known : filled path host = host) (itemized : Items generator path host model unit items) :
    ∃ code, Items generator Template.slot host model unit code ∧ filled path code = items := by
  have resolver (body : Fragment) :
      filled path (tokens.resolver generator Template.slot host unit body) =
        tokens.resolver generator path host unit (filled path body) := by
    simp [tokens.resolver, Template.filled_resolverTrait path known]
  cases itemized with
  | put kind => exact ⟨_, .put kind, by rw [resolver, Template.filled_putBody path _ model known]⟩
  | get kind => exact ⟨_, .get kind, by rw [resolver, Template.filled_getBody path model known]⟩
  | delete kind =>
      exact ⟨_, .delete kind, by rw [resolver, Template.filled_deleteBody path _ model known]⟩
  | mapping kind putNamed getNamed deleteNamed =>
      exact ⟨_, .mapping kind putNamed getNamed deleteNamed,
        Template.filled_mappingItems path _ known ..⟩

/-- The code of a unit is its code for the placeholder, with the path of the runtime module in the
place of it. -/
theorem tokens_vacant {tokens : Fragment} (written : generator.tokens context model = .ok tokens) :
    ∃ code, generator.tokens context.vacant model = .ok code ∧
      filled context.runtime.tokens code = tokens := by
  obtain ⟨names, unit, items, hosted, named, itemized, rfl⟩ := tokens_eq_ok.mp written
  obtain ⟨code, vacant, rfl⟩ := itemized.vacant (Naming.filled_pathTokens _ names)
  refine ⟨_, tokens_eq_ok.mpr ⟨names, unit, code, hosted, named, vacant, rfl⟩, ?_⟩
  rw [filled_append, Template.filled_definition]
  rfl

end Generator

end StorageMapping
