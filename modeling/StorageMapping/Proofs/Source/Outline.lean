import StorageMapping.Proofs.Source.Single
import StorageMapping.Proofs.Source.TakingItems

namespace StorageMapping.Source

open StorageMapping.Source.Parser

/-! # Outlines of files

Of an implementation an item keeps the type alone. An outline holds the visibility of a struct and
the trait of an implementation as well. -/

/-- How an item begins. -/
inductive Headline where
  | struct (isPublic : Bool) (name : Identifier)
  | implementation (trait : Option TypeExpr) (self : TypeExpr)

namespace Headline

def unplaced : Headline → Headline
  | .struct isPublic name => .struct isPublic name
  | .implementation trait self => .implementation (trait.map TypeExpr.unplaced) self.unplaced

/-- Headlines that differ at most in the places of their words. -/
def Alike (headline other : Headline) : Prop := headline.unplaced = other.unplaced

end Headline

/-- An item with its beginning, where it begins a struct or an implementation. -/
structure Outline where
  item : Item
  headline : Option Headline

namespace Parser

variable {α β : Type}

/-- Answers with what a parser finds ahead, and takes nothing. -/
def look (parser : Parser α) : Parser (Option α) := fun state =>
  match parser state with
  | .ok (value, _) => .ok (some value, state)
  | .error _ => .ok (none, state)

theorem look_bind {parser : Parser α} {following : Parser β} :
    (do
      let _ ← look parser
      following) = following := by
  funext state
  change Except.bind (look parser state) _ = _
  rw [look]
  cases parser state <;> rfl

theorem Takes.look {parser : Parser α} {tokens rest : Tokens} {claim : α → Prop}
    (taken : Takes parser tokens rest claim) :
    Takes (Parser.look parser) tokens tokens fun found =>
      ∃ value, found = some value ∧ claim value := by
  intro state alike
  obtain ⟨value, next, parsed, _, _, holds⟩ := taken state alike
  refine ⟨some value, state, ?_, alike, rfl, value, rfl, holds⟩
  rw [Parser.look, parsed]

theorem manyWithin_map (step : Parser (Option α)) (f : α → β) : ∀ fuel,
    manyWithin (Option.map f <$> step) fuel = List.map f <$> manyWithin step fuel
  | 0 => by simp [manyWithin]
  | fuel + 1 => by
      rw [manyWithin, manyWithin, manyWithin_map step f fuel]
      simp only [map_eq_pure_bind, bind_assoc, pure_bind]
      congr 1
      funext found
      cases found <;> simp

theorem many_map (step : Parser (Option α)) (f : α → β) :
    many (Option.map f <$> step) = List.map f <$> many step := by
  rw [many, many, map_bind]
  congr 1
  funext tokens
  exact manyWithin_map step f _

theorem manyWhile_map (condition : Tokens → Bool) (parser : Parser α) (f : α → β) :
    manyWhile condition (f <$> parser) = List.map f <$> manyWhile condition parser := by
  rw [manyWhile, manyWhile, ← many_map, map_bind]
  congr 2
  funext tokens
  split <;> simp

theorem runAll_map (parser : Parser α) (f : α → β) (tokens : Tokens) :
    runAll (f <$> parser) tokens = (runAll parser tokens).map f := by
  rw [runAll, runAll, StateT.run_map]
  rcases parser.run ⟨tokens, [], none⟩ with fault | ⟨value, rest, written, remaining⟩
  · rfl
  · cases remaining with
    | some delimiter => rfl
    | none =>
        change (if rest.isEmpty then Except.ok (f value) else .error (SyntaxError.remaining none)) =
          Except.map f (if rest.isEmpty then .ok value else .error (SyntaxError.remaining none))
        split <;> rfl

end Parser

namespace Grammar

variable (g : Grammar)

/-- The beginning of a struct or an implementation. -/
def headline : Parser Headline := do
  let _ ← g.outerAttributes
  let isPublic ← visibility
  if ← acceptWord "struct" then return .struct isPublic (← name).1
  word "impl"
  if atParameters (← ahead) then
    let _ ← g.parameters
  let first ← g.type true
  if ← acceptWord "for" then return .implementation (some first) (← g.type true)
  else return .implementation none first

def outlined : Parser Outline := do
  let headline ← look g.headline
  return ⟨← g.oneItem, headline⟩

/-- A whole file. -/
def outlines : Parser (List Outline) := do
  let _ ← g.innerAttributes
  manyWhile (!·.isEmpty) g.outlined

theorem item_outlined : Outline.item <$> g.outlined = g.oneItem := by
  simp only [outlined, map_eq_pure_bind, bind_assoc, pure_bind]
  rw [look_bind]
  simp

theorem items_outlines : (do
    let _ ← g.innerAttributes
    manyWhile (!·.isEmpty) g.oneItem) = List.map Outline.item <$> g.outlines := by
  rw [← item_outlined, manyWhile_map]
  simp [outlines]

end Grammar

namespace Reader

/-- The outline of a file, from its tokens. -/
def outline (tokens : Tokens) : Except SyntaxError (List Outline) :=
  runAll (Grammar.outlines (.ofDepth (8 * Token.countList tokens + 24))) tokens

/-- The items of a file, from its tokens. -/
def items (tokens : Tokens) : Except SyntaxError (List Item) :=
  runAll (do
    let _ ← (Grammar.ofDepth (8 * Token.countList tokens + 24)).innerAttributes
    manyWhile (!·.isEmpty) (Grammar.ofDepth (8 * Token.countList tokens + 24)).oneItem) tokens

theorem items_outline (tokens : Tokens) :
    items tokens = (outline tokens).map (List.map Outline.item) := by
  rw [items, Grammar.items_outlines, runAll_map, outline]

end Reader

/-! ## Outlines are found -/

/-- The outline is that of an empty struct, or of an implementation. -/
def Headline.Heads (headline : Headline) (outline : Outline) : Prop :=
  (∃ found, outline.headline = some found ∧ found.Alike headline) ∧
    match headline with
    | .struct _ name => ∃ attributes position,
        outline.item = .data ⟨.struct, attributes, name, position, 0, []⟩
    | .implementation _ self => ∃ found members,
        outline.item = .implementation found members ∧ found.unplaced = self.unplaced

namespace Grammar

variable {g : Grammar} {rest : Tokens} {name : Identifier} {type trait : TypeExpr}

theorem takes_outlined {headline : Headline} {tokens middle : Tokens}
    (first : Takes g.headline tokens middle (·.Alike headline))
    (second : Takes g.oneItem tokens rest fun item => ∀ found, found.Alike headline →
      headline.Heads ⟨item, some found⟩) :
    Takes g.outlined tokens rest headline.Heads := by
  refine .bind (.look first) fun found some => .bind second fun item heads => .result ?_
  obtain ⟨found, rfl, alike⟩ := some
  exact heads found alike

/-- A public struct without fields. -/
theorem takes_structOutline {attributes : List Tokens} {depth : Nat} (deep : g.Deep (depth + 1))
    (each : ∀ {g : Grammar}, g.Deep depth → g.TakesAttributes attributes)
    (isName : name.isName = true) :
    Takes g.outlined (attributes.flatten ++ Token.ofWord "pub" :: Token.ofWord "struct" ::
      Token.ofIdentifier name :: (Token.ofOperator ";" ++ rest)) rest
      (Headline.struct true name).Heads := by
  have headline : Takes g.headline (attributes.flatten ++ Token.ofWord "pub" ::
      Token.ofWord "struct" :: Token.ofIdentifier name :: (Token.ofOperator ";" ++ rest))
      (Token.ofOperator ";" ++ rest) (Headline.Alike · (.struct true name)) := by
    refine .bind (passes_outerAttributes (each deep.shallower) .word) fun _ _ => ?_
    refine .bind (takes_public rfl) fun _ isPublic => .bind .acceptWord fun _ holds => ?_
    refine .first holds (.bind (.name isName) fun found same => .result ?_)
    rw [same, isPublic, Headline.Alike]
  refine takes_outlined headline ((takes_structItem (each deep.shallower) isName).imp ?_)
  rintro item ⟨attributes, position, rfl⟩ found alike
  exact ⟨⟨found, rfl, alike⟩, attributes, position, rfl⟩

/-- An implementation of a trait. -/
theorem takes_implementationOutline {members : List Tokens} {depth : Nat}
    (deep : g.Deep (depth + 1)) (isTrait : IsPath trait)
    (first : ∀ {g : Grammar}, g.Deep depth → g.TakesType trait)
    (second : ∀ {g : Grammar}, g.Deep depth → g.TakesType type)
    (each : ∀ {g : Grammar}, g.Deep depth → ∀ tokens ∈ members, g.TakesMember tokens) :
    Takes g.outlined (Token.ofWord "impl" :: (trait.tokens ++ Token.ofWord "for" ::
      (type.tokens ++ Token.enclosed .brace members.flatten :: rest))) rest
      (Headline.implementation (some trait) type).Heads := by
  have headline : Takes g.headline (Token.ofWord "impl" :: (trait.tokens ++ Token.ofWord "for" ::
      (type.tokens ++ Token.enclosed .brace members.flatten :: rest)))
      (Token.enclosed .brace members.flatten :: rest)
      (Headline.Alike · (.implementation (some trait) type)) := by
    refine .bind (.manyWhile (.stop fun _ alike => alike.looks.2.2.2.2.2.2.1 _)) fun _ _ => ?_
    refine .bind (takes_private rfl) fun _ _ => .bind (.declineWord rfl) fun _ absent => ?_
    refine .second (by simp [absent]) (.seq .word fun _ => .ahead fun found alike => .second ?_ ?_)
    · simp [atParameters, alike.looks, isTrait.unangled]
    refine .bind (first deep.shallower true _ .word) fun found same => ?_
    refine .bind .acceptWord fun _ holds => .first holds ?_
    refine .bind (second deep.shallower true _ .group) fun self unplaced => .result ?_
    rw [Headline.Alike, Headline.unplaced, Headline.unplaced, unplaced, Option.map_some, same,
      Option.map_some]
  refine takes_outlined headline ((takes_implementationItem (takes_implementation isTrait
    (first deep.shallower) (second deep.shallower) (each deep.shallower))).imp ?_)
  rintro item ⟨self, members, rfl, same⟩ found alike
  exact ⟨⟨found, rfl, alike⟩, self, members, rfl, same⟩

end Grammar

/-- The tokens of one item, which has the given headline. -/
structure Headline.Begins (headline : Headline) (tokens : Tokens) : Prop where
  present : tokens ≠ []
  outer : ∀ rest, Tells Tokens.opensInner (tokens ++ rest) false
  taken : ∀ {g : Grammar}, g.Deep 24 → ∀ rest, Takes g.outlined (tokens ++ rest) rest headline.Heads

namespace Reader

variable {headlines : List Headline} {pieces : List Tokens} {tokens : Tokens}

theorem whiles_outlined {g : Grammar} (deep : g.Deep 24)
    (each : List.Forall₂ Headline.Begins headlines pieces) :
    Whiles (!·.isEmpty) g.outlined (headlines.map Headline.Heads) pieces.flatten [] := by
  induction each with
  | nil => exact .stop fun found alike => by simp [alike.looks]
  | @cons headline piece headlines pieces first _ ih =>
      have width := List.length_pos_of_ne_nil first.present
      refine .more (fun found alike => ?_) (first.taken deep pieces.flatten) ?_ ih
      · simp [alike.looks, first.present]
      · simp only [List.flatten_cons, List.length_append]
        omega

theorem outer_flatten (each : List.Forall₂ Headline.Begins headlines pieces) :
    Tells Tokens.opensInner pieces.flatten false := by
  cases each with
  | nil => exact fun found alike => by simp [Tokens.opensInner, alike.looks, Tokens.looks_nil]
  | cons first _ => exact first.outer _

/-- The tokens of items, one behind the other, are read as a file that holds them. -/
theorem outline_eq_ok (each : List.Forall₂ Headline.Begins headlines pieces)
    (alike : Tokens.Alike tokens pieces.flatten) :
    ∃ outlines, outline tokens = .ok outlines ∧ items tokens = .ok (outlines.map (·.item)) ∧
      List.Forall₂ Headline.Heads headlines outlines := by
  have deep : (Grammar.ofDepth (8 * Token.countList tokens + 24)).Deep 24 :=
    (Grammar.Deep.ofDepth _).mono (Nat.le_add_left _ _)
  have taken : Takes (Grammar.outlines (.ofDepth (8 * Token.countList tokens + 24)))
      pieces.flatten [] fun found => List.Forall₂ (fun value claim => claim value) found
        (headlines.map Headline.Heads) :=
    .bind (.manyWhile (.stop (outer_flatten each))) fun _ _ =>
      .manyWhile (whiles_outlined deep each)
  obtain ⟨outlines, read, related⟩ := taken.runAll alike
  have outlined : outline tokens = .ok outlines := read
  refine ⟨outlines, outlined, ?_, (List.forall₂_map_right_iff.mp related).flip⟩
  rw [items_outline, outlined]
  rfl

/-- A text is read as a file that holds the items which its tokens are. -/
theorem file_eq_ok {text : String} (each : List.Forall₂ Headline.Begins headlines pieces)
    (read : tokenize text.toList = some tokens) (alike : Tokens.Alike tokens pieces.flatten)
    (unmarked : text.toList.head? ≠ some Lexer.byteOrderMark) :
    ∃ outlines, outline tokens = .ok outlines ∧ file text = .ok (outlines.map (·.item)) ∧
      List.Forall₂ Headline.Heads headlines outlines := by
  obtain ⟨outlines, outlined, itemized, heads⟩ := outline_eq_ok each alike
  have outer : tokens.opensInner = false := outer_flatten each tokens alike
  refine ⟨outlines, outlined, ?_, heads⟩
  rw [file_eq_parseAll unmarked (dropInterpreter_eq_self read outer), parseAll, read]
  exact itemized

end Reader

end StorageMapping.Source
