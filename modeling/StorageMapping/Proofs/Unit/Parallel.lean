import StorageMapping.Proofs.Unit.Printed

namespace StorageMapping

/-! # Quoted texts in generated code

What the markers of a type say gets into generated code as quoted texts only. The code of two types
that differ in their markers alone has the same tokens but for the values of these texts. -/

open Source Fragment

namespace Source

/-- Tokens without their nesting: a group is its two brackets with what stands between them. -/
inductive Lexeme where
  | opening (delimiter : Delimiter)
  | closing (delimiter : Delimiter)
  | leaf (token : Token)

mutual

def Token.lexemes : Token → List Lexeme
  | .group delimiter inner _ _ =>
      .opening delimiter :: (lexemesOf inner ++ [.closing delimiter])
  | token => [.leaf token]

def lexemesOf : List Token → List Lexeme
  | [] => []
  | token :: rest => token.lexemes ++ lexemesOf rest

end

/-- The same lexeme, or two string literals whose values belong together. -/
inductive Lexeme.Agrees (paired : String → String → Prop) : Lexeme → Lexeme → Prop
  | same (lexeme : Lexeme) : Agrees paired lexeme lexeme
  | text {text other value otherValue : String} {position otherPosition : Position}
      (read : Literal.stringValue? text = some value)
      (otherRead : Literal.stringValue? other = some otherValue)
      (belong : paired value otherValue) :
      Agrees paired (.leaf (.literal text position)) (.leaf (.literal other otherPosition))

/-- Two sequences of tokens have the same length and agree at every position. -/
def Parallel (paired : String → String → Prop) (tokens others : List Token) : Prop :=
  List.Forall₂ (Lexeme.Agrees paired) (lexemesOf tokens) (lexemesOf others)

theorem lexemesOf_append (front back : List Token) :
    lexemesOf (front ++ back) = lexemesOf front ++ lexemesOf back := by
  induction front with
  | nil => rfl
  | cons token rest ih => rw [List.cons_append, lexemesOf, ih, lexemesOf, List.append_assoc]

namespace Parallel

variable {paired : String → String → Prop} {tokens others front back : List Token}

theorem refl (tokens : List Token) : Parallel paired tokens tokens :=
  List.forall₂_same.mpr fun lexeme _ => .same lexeme

theorem append (first : Parallel paired tokens others) (second : Parallel paired front back) :
    Parallel paired (tokens ++ front) (others ++ back) := by
  rw [Parallel, lexemesOf_append, lexemesOf_append]
  exact List.rel_append first second

theorem group {delimiter : Delimiter} (inner : Parallel paired tokens others) :
    Parallel paired [.enclosed delimiter tokens] [.enclosed delimiter others] := by
  rw [Parallel, lexemesOf, lexemesOf, lexemesOf, lexemesOf, List.append_nil, List.append_nil]
  exact .cons (.same _) (List.rel_append inner (.cons (.same _) .nil))

theorem text {value other : String} (belong : paired value other) :
    Parallel paired (Fragment.text value) (Fragment.text other) := by
  refine .cons (.text ?_ ?_ belong) .nil <;> exact Literal.stringValue?_quoteLiteral _

theorem flatMap {α : Type} {R : α → α → Prop} {f : α → List Token} {firsts seconds : List α}
    (related : List.Forall₂ R firsts seconds)
    (each : ∀ first second, R first second → Parallel paired (f first) (f second)) :
    Parallel paired (firsts.flatMap f) (seconds.flatMap f) := by
  induction related with
  | nil => exact .nil
  | cons here _ ih =>
      rw [List.flatMap_cons, List.flatMap_cons]
      exact (each _ _ here).append ih

end Parallel

end Source

/-! ## Types that differ in their markers -/

namespace Column

/-- Columns of one field that may be stored under different names. -/
structure SameBut (first second : Column) : Prop where
  field : first.field = second.field
  type : first.type = second.type
  isKey : first.isKey = second.isKey
  ignoresNull : first.ignoresNull = second.ignoresNull

end Column

namespace TypeModel

/-- Types of one name with columns of the same fields. Their locators and the names under which
the columns are stored may differ. -/
structure SameBut (first second : TypeModel) : Prop where
  name : first.name = second.name
  modulePath : first.modulePath = second.modulePath
  columns : List.Forall₂ Column.SameBut first.columns second.columns

/-- The values that two types have at the same places of their code: the locators of an operation,
the storage names of a column, and the conditions on the key. -/
inductive Marked (first second : TypeModel) : String → String → Prop
  | locator (operation : Operation) :
      Marked first second (first.locators.resolve operation) (second.locators.resolve operation)
  | storageName {column other : Column}
      (member : (column, other) ∈ first.columns.zip second.columns) :
      Marked first second column.storageName other.storageName
  | condition :
      Marked first second (KeyCondition.ofModel first).clause (KeyCondition.ofModel second).clause

/-- A column of the first type with the column of the second type at the same place. -/
def Beside (first second : TypeModel) (column other : Column) : Prop :=
  column.SameBut other ∧ Marked first second column.storageName other.storageName

variable {first second : TypeModel}

namespace SameBut

theorem locators (model : TypeModel) (locators : Locators) :
    model.SameBut { model with locators := locators } :=
  ⟨rfl, rfl, List.forall₂_same.mpr fun _ _ => ⟨rfl, rfl, rfl, rfl⟩⟩

theorem beside (same : first.SameBut second) :
    List.Forall₂ (Beside first second) first.columns second.columns := by
  refine List.forall₂_iff_zip.mpr ⟨same.columns.length_eq, fun {_ _} member => ?_⟩
  exact ⟨(List.forall₂_iff_zip.mp same.columns).2 member, .storageName member⟩

/-- The conditions on the key have the same fields. -/
theorem keys (same : first.SameBut second) :
    (KeyCondition.ofModel first).keys.map Prod.snd
      = (KeyCondition.ofModel second).keys.map Prod.snd := by
  have selected : ∀ {columns others : List Column}, List.Forall₂ Column.SameBut columns others →
      (columns.filter (·.isKey)).map (·.field) = (others.filter (·.isKey)).map (·.field) := by
    intro columns others related
    induction related with
    | nil => rfl
    | cons here _ ih =>
        rw [List.filter_cons, List.filter_cons, here.isKey]
        split
        · rw [List.map_cons, List.map_cons, here.field, ih]
        · exact ih
  rw [KeyCondition.ofModel, KeyCondition.ofModel, List.map_map, List.map_map]
  exact selected same.columns

end SameBut

end TypeModel

open TypeModel

/-! ## Statements -/

variable {first second : TypeModel} {column other : Column}

theorem ContentPut.parallel (beside : Beside first second column other) :
    Parallel (Marked first second) (ofColumn column).tokens (ofColumn other).tokens := by
  obtain ⟨same, marked⟩ := beside
  have arguments : ∀ reference : Fragment, Parallel (Marked first second)
      (text column.storageName ++ mark "," ++ clone reference)
      (text other.storageName ++ mark "," ++ clone reference) := fun _ =>
    .append (.append (.text marked) (.refl _)) (.refl _)
  have put : ∀ reference : Fragment, Parallel (Marked first second)
      (put column.storageName reference) (put other.storageName reference) := fun reference =>
    .append (.append (.refl _) (.append (.refl _) (.group (arguments reference)))) (.refl _)
  rw [tokens, tokens, ofColumn, ofColumn, Column.skipsAbsent, Column.skipsAbsent, same.field,
    same.type, same.ignoresNull]
  split
  · exact .append (.refl _) (.group (put _))
  · exact put _

theorem CursorRead.parallel (beside : Beside first second column other) :
    Parallel (Marked first second) (ofColumn column).tokens (ofColumn other).tokens := by
  obtain ⟨same, marked⟩ := beside
  rw [tokens, tokens, ofColumn, ofColumn, same.field, same.type]
  refine .group (.append (.append (.append (.append (.append (.append (.append (.append (.append
    (.refl _) (.refl _)) (.refl _)) ?_) (.refl _)) (.refl _)) (.refl _)) (.refl _)) (.refl _))
    (.refl _))
  exact .append (.refl _) (.group (.text marked))

theorem KeyCondition.arguments_same (same : first.SameBut second) (runtime : Fragment) :
    (ofModel first).arguments runtime = (ofModel second).arguments runtime := by
  have listed : ∀ condition : KeyCondition, condition.arguments runtime =
      below ["std", "vec"] ++ mark "!" ++ brackets (Fragment.listed
        ((condition.keys.map Prod.snd).map fun field => runtime ++ below ["Value", "from"]
          ++ parens (clone (mark "&" ++ Fragment.field "object" field)))) := by
    intro condition
    rw [List.map_map]
    rfl
  rw [listed, listed, same.keys]

/-! ## Templates -/

namespace Template

variable {backend : Backend} {runtime host : Fragment}

theorem query_parallel (same : first.SameBut second) (name : String) (operation : Operation)
    (conditional : Bool) :
    Parallel (Marked first second)
      (query backend runtime name (first.locators.resolve operation)
        (if conditional then some (.ofModel first) else none))
      (query backend runtime name (second.locators.resolve operation)
        (if conditional then some (.ofModel second) else none)) := by
  refine .append (.append (.append (.refl _) (.append (.refl _) (.group (.text ?_)))) ?_) (.refl _)
  · exact .locator operation
  · cases conditional with
    | false => exact .refl _
    | true =>
        refine .append (.append (.refl _) (.group (.text .condition))) ?_
        rw [KeyCondition.arguments_same same]
        exact .refl _

theorem function_parallel {paired : String → String → Prop} {body others : Fragment}
    (name : String) (arguments result : Fragment) (inner : Parallel paired body others) :
    Parallel paired (function name arguments result body)
      (function name arguments result others) :=
  .append (.refl _) (.group inner)

theorem putBody_parallel (same : first.SameBut second) :
    Parallel (Marked first second) (putBody backend runtime host first)
      (putBody backend runtime host second) := by
  have puts : Parallel (Marked first second) (first.contentPuts.flatMap (·.tokens))
      (second.contentPuts.flatMap (·.tokens)) := by
    rw [contentPuts, contentPuts, List.flatMap_map, List.flatMap_map]
    exact .flatMap same.beside fun _ _ => ContentPut.parallel
  refine .append (.append ?_ ?_) ?_
  · exact function_parallel _ _ _ (query_parallel same _ .insert false)
  · exact function_parallel _ _ _ (query_parallel same _ .update true)
  · rw [same.columns.length_eq]
    exact function_parallel _ _ _ (.append (.append (.refl _) puts) (.refl _))

theorem getBody_parallel (same : first.SameBut second) :
    Parallel (Marked first second) (getBody runtime host first) (getBody runtime host second) := by
  refine function_parallel _ _ _ (.append (.append (.append (.refl _) ?_) (.refl _)) (.refl _))
  rw [cursorReads, cursorReads, List.flatMap_map, List.flatMap_map]
  exact .flatMap same.beside fun _ _ => CursorRead.parallel

theorem deleteBody_parallel (same : first.SameBut second) :
    Parallel (Marked first second) (deleteBody backend runtime host first)
      (deleteBody backend runtime host second) :=
  function_parallel _ _ _ (query_parallel same _ .delete true)

end Template

namespace Generator

variable {generator : Generator} {context : GenerationContext}

/-- Types that differ in their markers have the same code but for the marked values. -/
theorem tokens_parallel {tokens : Fragment} (same : first.SameBut second)
    (written : generator.tokens context first = .ok tokens) :
    ∃ others, generator.tokens context second = .ok others ∧
      Parallel (Marked first second) tokens others := by
  obtain ⟨names, unit, items, hosted, named, itemized, rfl⟩ := tokens_eq_ok.mp written
  have hostedToo : Naming.hostNames second = .ok names := by
    rw [Naming.hostNames, ← same.name, ← same.modulePath]
    exact hosted
  rw [same.name] at named
  rw [qualifiedName, same.name, same.modulePath, ← qualifiedName]
  have finish : ∀ {others : Fragment},
      Items generator context.runtime.tokens (Naming.pathTokens names) second unit others →
      Parallel (Marked first second) items others →
      ∃ others, generator.tokens context second = .ok others ∧
        Parallel (Marked first second) (Template.definition context (Template.sentence
          generator.backend generator.kind second.qualifiedName) unit ++ items) others := by
    intro others itemizedToo parallel
    exact ⟨_, tokens_eq_ok.mpr ⟨names, unit, others, hostedToo, named, itemizedToo, rfl⟩,
      .append (.refl _) parallel⟩
  cases itemized with
  | put kind =>
      exact finish (.put kind) (.append (.refl _) (.group (Template.putBody_parallel same)))
  | get kind =>
      exact finish (.get kind) (.append (.refl _) (.group (Template.getBody_parallel same)))
  | delete kind =>
      exact finish (.delete kind) (.append (.refl _) (.group (Template.deleteBody_parallel same)))
  | mapping kind putNamed getNamed deleteNamed =>
      rw [same.name] at putNamed getNamed deleteNamed
      exact finish (.mapping kind putNamed getNamed deleteNamed) (.refl _)

end Generator

end StorageMapping
