import StorageMapping.Proofs.Source.Names

namespace StorageMapping.Source

/-! # Names of fields

A field of a text is named by a name of the language, or by the sign that stands for none. -/

/-- What can stand in front of the colon of a field. -/
structure Identifier.InField (name : Identifier) : Prop where
  legal : name.Legal
  named : name.isName = true ∨ name = .plain "_"

def Field.Named (field : Field) : Prop := ∀ found ∈ field.name, found.1.InField

/-- An item whose fields are named as a text can name them, however deep they stand. -/
inductive Item.FieldsNamed : Item → Prop
  | module {name contents}
      (inside : ∀ items ∈ contents, ∀ item ∈ items, FieldsNamed item) :
      FieldsNamed (.module name contents)
  | data {item} (named : ∀ field ∈ item.fields, field.Named) : FieldsNamed (.data item)
  | leaf {item} (leaf : item.IsLeaf) : FieldsNamed item

open StorageMapping.Source.Parser

namespace Parser

variable {α : Type} {state next : ParserState} {parser : Parser α} {value : α}

theorem Legal.mem_separatedWithin {separator : String} {stop : Tokens → Bool} [Forward parser]
    {fuel : Nat} {found : List α} {trailing : Bool} (legal : Legal state)
    (parsed : separatedWithin separator stop parser fuel state = .ok ((found, trailing), next))
    (member : value ∈ found) : ∃ here after, Legal here ∧ parser here = .ok (value, after) := by
  induction fuel generalizing state next found trailing with
  | zero =>
      obtain ⟨same, _⟩ := pure_eq_ok.mp parsed
      cases same
      contradiction
  | succ fuel ih =>
      replace parsed := ahead_bind_eq_ok.mp parsed
      rcases ite_eq_ok.mp parsed with ⟨_, parsed⟩ | ⟨_, parsed⟩
      · obtain ⟨same, _⟩ := pure_eq_ok.mp parsed
        cases same
        contradiction
      obtain ⟨first, _, one, parsed⟩ := bind_eq_ok.mp parsed
      replace parsed := ahead_bind_eq_ok.mp parsed
      rcases ite_eq_ok.mp parsed with ⟨_, parsed⟩ | ⟨_, parsed⟩
      · obtain ⟨same, _⟩ := pure_eq_ok.mp parsed
        cases same
        rw [List.mem_singleton.mp member]
        exact ⟨_, _, legal, one⟩
      obtain ⟨_, _, divided, parsed⟩ := bind_eq_ok.mp parsed
      obtain ⟨⟨_, _⟩, _, others, parsed⟩ := bind_eq_ok.mp parsed
      obtain ⟨same, _⟩ := pure_eq_ok.mp parsed
      cases same
      rcases List.mem_cons.mp member with rfl | later
      · exact ⟨_, _, legal, one⟩
      · exact ih ((legal.forward one).forward divided) others later

/-- What stands between commas was parsed one by one. -/
theorem Legal.mem_commaSeparated [Forward parser] {found : List α} (legal : Legal state)
    (parsed : commaSeparated parser state = .ok (found, next)) (member : value ∈ found) :
    ∃ here after, Legal here ∧ parser here = .ok (value, after) := by
  obtain ⟨listed, _, divided, same⟩ := bind_eq_ok.mp parsed
  obtain ⟨rfl, _⟩ := pure_eq_ok.mp same
  replace divided := ahead_bind_eq_ok.mp divided
  obtain ⟨⟨_, _⟩, _, repeated, same⟩ := bind_eq_ok.mp divided
  obtain ⟨rfl, _⟩ := pure_eq_ok.mp same
  exact legal.mem_separatedWithin repeated member

end Parser

namespace Grammar

variable {g : Grammar} [g.GoesForward] {state next : ParserState} {item : Item}
  {fields : List Field}

omit [g.GoesForward] in
theorem namedField_named {field : Field} (legal : Legal state)
    (parsed : g.namedField state = .ok (field, next)) : field.Named := by
  obtain ⟨position, _, first, parsed⟩ := bind_eq_ok.mp parsed
  obtain ⟨attributes, _, second, parsed⟩ := bind_eq_ok.mp parsed
  obtain ⟨isPublic, _, third, parsed⟩ := bind_eq_ok.mp parsed
  replace parsed := ahead_bind_eq_ok.mp parsed
  have legal := ((legal.forward first).forward second).forward third
  have kept : ∀ {found : Identifier × Position} {type : TypeExpr}, found.1.InField →
      Field.Named ⟨attributes, isPublic, some found, type, position⟩ := by
    rintro found type inField _ ⟨⟩
    exact inField
  rcases ite_eq_ok.mp parsed with ⟨isBlank, parsed⟩ | ⟨_, parsed⟩
  all_goals obtain ⟨found, _, read, parsed⟩ := bind_eq_ok.mp parsed
  · have inField : found.1.InField := by
      have held := anyWord_eq_ok read
      refine ⟨legal.anyWord read, .inr ?_⟩
      rw [held] at isBlank
      exact Identifier.isWord_iff.mp isBlank
    refine Answers.holds (?_ : Answers Field.Named _) parsed
    exact .step fun _ => .step fun _ => .choice (.step fun _ => .result (kept inField))
      (.step fun _ => .result (kept inField))
  · have inField : found.1.InField := ⟨legal.ofName read, .inl (name_eq_ok read).1⟩
    refine Answers.holds (?_ : Answers Field.Named _) parsed
    exact .step fun _ => .step fun _ => .choice (.step fun _ => .result (kept inField))
      (.step fun _ => .result (kept inField))

omit [g.GoesForward] in
theorem unnamedField_named : Answers Field.Named g.unnamedField :=
  .step fun _ => .step fun _ => .step fun _ => .step fun _ => .result nofun

omit [g.GoesForward] in
theorem unnamedField_nameless : Answers (fun field : Field => field.name = none) g.unnamedField :=
  .step fun _ => .step fun _ => .step fun _ => .step fun _ => .result rfl

theorem namedFields_named (legal : Legal state)
    (parsed : g.namedFields state = .ok (fields, next)) : ∀ field ∈ fields, field.Named := by
  intro field member
  obtain ⟨_, _, inside, completed⟩ := legal.group parsed
  obtain ⟨_, _, here, one⟩ := inside.mem_commaSeparated completed member
  exact namedField_named here one

theorem unnamedFields_named (legal : Legal state)
    (parsed : g.unnamedFields state = .ok (fields, next)) : ∀ field ∈ fields, field.Named := by
  intro field member
  obtain ⟨_, _, inside, completed⟩ := legal.group parsed
  obtain ⟨_, _, _, one⟩ := inside.mem_commaSeparated completed member
  exact unnamedField_named.holds one

/-- What the fields of a struct are read from. -/
inductive StructFields (g : Grammar) (state : ParserState) : Fields → Prop
  | unnamed {fields : List Field} {next : ParserState}
      (read : g.unnamedFields state = .ok (fields, next)) : StructFields g state (.unnamed fields)
  | named {fields : List Field} {limited next : ParserState}
      (bounds : g.whereClause state = .ok ((), limited))
      (read : g.namedFields limited = .ok (fields, next)) : StructFields g state (.named fields)
  | unit : StructFields g state .unit

omit [g.GoesForward] in
theorem structFields_cases {fields : Fields}
    (parsed : g.structFields state = .ok (fields, next)) : StructFields g state fields := by
  replace parsed := ahead_bind_eq_ok.mp parsed
  rcases ite_eq_ok.mp parsed with ⟨_, parsed⟩ | ⟨_, parsed⟩
  · obtain ⟨_, _, read, parsed⟩ := bind_eq_ok.mp parsed
    obtain ⟨_, _, _, parsed⟩ := bind_eq_ok.mp parsed
    obtain ⟨_, _, _, parsed⟩ := bind_eq_ok.mp parsed
    obtain ⟨rfl, _⟩ := pure_eq_ok.mp parsed
    exact .unnamed read
  obtain ⟨_, _, bounds, parsed⟩ := bind_eq_ok.mp parsed
  replace parsed := ahead_bind_eq_ok.mp parsed
  rcases ite_eq_ok.mp parsed with ⟨_, parsed⟩ | ⟨_, parsed⟩
  · obtain ⟨_, _, read, parsed⟩ := bind_eq_ok.mp parsed
    obtain ⟨rfl, _⟩ := pure_eq_ok.mp parsed
    exact .named bounds read
  · obtain ⟨_, _, _, parsed⟩ := bind_eq_ok.mp parsed
    obtain ⟨rfl, _⟩ := pure_eq_ok.mp parsed
    exact .unit

theorem structFields_named {fields : Fields} (legal : Legal state)
    (parsed : g.structFields state = .ok (fields, next)) : ∀ field ∈ fields.list, field.Named := by
  cases structFields_cases parsed with
  | unnamed read => exact unnamedFields_named legal read
  | named bounds read => exact namedFields_named (legal.forward bounds) read
  | unit => nofun

/-- The fields that a struct has in parentheses have no names. -/
theorem structFields_nameless (legal : Legal state)
    (parsed : g.structFields state = .ok (.unnamed fields, next)) :
    ∀ field ∈ fields, field.name = none := by
  cases structFields_cases parsed with
  | unnamed read =>
      intro field member
      obtain ⟨_, _, inside, completed⟩ := legal.group read
      obtain ⟨_, _, _, one⟩ := inside.mem_commaSeparated completed member
      exact unnamedField_nameless.holds one

theorem bodyOf_nameless {kind : DataKind} (legal : Legal state)
    (parsed : g.bodyOf kind state = .ok (.struct (.unnamed fields), next)) :
    ∀ field ∈ fields, field.name = none := by
  cases kind with
  | struct =>
      obtain ⟨_, _, read, same⟩ := bind_eq_ok.mp parsed
      obtain ⟨same, _⟩ := pure_eq_ok.mp same
      cases same
      exact structFields_nameless legal read
  | _ =>
      obtain ⟨_, _, _, same⟩ := bind_eq_ok.mp parsed
      obtain ⟨same, _⟩ := pure_eq_ok.mp same
      cases same

/-- The fields of a variant in front of its number. -/
def numberedVariant (g : Grammar) (fields : Fields) : Parser Fields := do
  if ← acceptOperator "=" then
    let _ ← g.expression true
  return fields

omit [g.GoesForward] in
theorem numberedVariant_eq_ok {fields found : Fields}
    (parsed : g.numberedVariant fields state = .ok (found, next)) : found = fields := by
  have same : Answers (· = fields) (g.numberedVariant fields) :=
    .step fun _ => .choice (.step fun _ => .result rfl) (.result rfl)
  exact same.holds parsed

theorem variant_named {fields : Fields} (legal : Legal state)
    (parsed : g.variant state = .ok (fields, next)) : ∀ field ∈ fields.list, field.Named := by
  obtain ⟨_, _, first, parsed⟩ := bind_eq_ok.mp parsed
  obtain ⟨_, _, second, parsed⟩ := bind_eq_ok.mp parsed
  obtain ⟨_, _, third, parsed⟩ := bind_eq_ok.mp parsed
  replace parsed := ahead_bind_eq_ok.mp parsed
  have legal := ((legal.forward first).forward second).forward third
  rcases ite_eq_ok.mp parsed with ⟨_, parsed⟩ | ⟨_, parsed⟩
  · obtain ⟨_, _, read, parsed⟩ := bind_eq_ok.mp parsed
    rw [numberedVariant_eq_ok parsed]
    exact namedFields_named legal read
  rcases ite_eq_ok.mp parsed with ⟨_, parsed⟩ | ⟨_, parsed⟩
  · obtain ⟨_, _, read, parsed⟩ := bind_eq_ok.mp parsed
    rw [numberedVariant_eq_ok parsed]
    exact unnamedFields_named legal read
  · rw [numberedVariant_eq_ok parsed]
    nofun

theorem bodyOf_named {kind : DataKind} {data : Data} (legal : Legal state)
    (parsed : g.bodyOf kind state = .ok (data, next)) : ∀ field ∈ data.fields, field.Named := by
  cases kind with
  | struct =>
      obtain ⟨_, _, read, same⟩ := bind_eq_ok.mp parsed
      obtain ⟨rfl, _⟩ := pure_eq_ok.mp same
      exact structFields_named legal read
  | enum =>
      obtain ⟨_, _, read, same⟩ := bind_eq_ok.mp parsed
      obtain ⟨rfl, _⟩ := pure_eq_ok.mp same
      obtain ⟨_, _, limited, grouped⟩ := bind_eq_ok.mp read
      intro field member
      obtain ⟨variant, inList, inVariant⟩ := List.mem_flatMap.mp member
      obtain ⟨_, _, inside, completed⟩ := (legal.forward limited).group grouped
      obtain ⟨_, _, here, one⟩ := inside.mem_commaSeparated completed inList
      exact variant_named here one field inVariant
  | union =>
      obtain ⟨_, _, read, same⟩ := bind_eq_ok.mp parsed
      obtain ⟨rfl, _⟩ := pure_eq_ok.mp same
      obtain ⟨_, _, limited, read⟩ := bind_eq_ok.mp read
      exact namedFields_named (legal.forward limited) read

theorem deriveInput_fieldsNamed {attributes : List Attribute} {input : DeriveInput}
    (legal : Legal state) (parsed : g.deriveInput attributes state = .ok (input, next)) :
    ∀ field ∈ input.data.fields, field.Named := by
  obtain ⟨_, _, _, _, here, read⟩ := deriveInput_eq_ok legal parsed
  exact bodyOf_named here read

theorem definition_fieldsNamed {attributes : List Attribute} {data : DataItem} (legal : Legal state)
    (parsed : g.definition attributes state = .ok (data, next)) :
    ∀ field ∈ data.fields, field.Named := by
  obtain ⟨input, rfl, read⟩ := definition_eq_ok.mp parsed
  exact deriveInput_fieldsNamed legal read

theorem ofDepth_fieldsNamed (depth : Nat) (legal : Legal state)
    (parsed : (ofDepth depth).item state = .ok (item, next)) : item.FieldsNamed := by
  induction depth generalizing state item next with
  | zero => exact absurd parsed failWanting_ne_ok
  | succ depth ih =>
      change (ofDepth depth).oneItem state = _ at parsed
      rcases oneItem_parts legal parsed with leaf | ⟨_, legal, inner | ⟨_, data, rfl, defined⟩⟩
      · exact .leaf leaf
      · obtain ⟨_, _, rfl, _, inside⟩ := moduleItem_eq_ok legal inner
        refine .module fun items held inner member => ?_
        obtain ⟨_, _, here, one⟩ := inside items held inner member
        exact ih here one
      · exact .data (definition_fieldsNamed legal defined)

end Grammar

namespace Reader

theorem file_fieldsNamed {text : String} {items : List Item} (read : file text = .ok items) :
    ∀ item ∈ items, item.FieldsNamed := by
  intro item member
  obtain ⟨depth, _, _, legal, one⟩ := mem_file read member
  exact Grammar.ofDepth_fieldsNamed depth legal one

theorem definition_fieldsNamed {text : String} {input : DeriveInput}
    (read : definition text = .ok input) : ∀ field ∈ input.data.fields, field.Named := by
  obtain ⟨_, _, _, _, legal, parsed⟩ := definition_eq_ok read
  exact Grammar.deriveInput_fieldsNamed legal parsed

theorem definition_nameless {text : String} {input : DeriveInput} {fields : List Field}
    (read : definition text = .ok input) (unnamed : input.data = .struct (.unnamed fields)) :
    ∀ field ∈ fields, field.name = none := by
  obtain ⟨_, _, _, _, legal, parsed⟩ := definition_eq_ok read
  obtain ⟨_, _, _, _, here, body⟩ := Grammar.deriveInput_eq_ok legal parsed
  exact Grammar.bodyOf_nameless here (unnamed ▸ body)

theorem identifier_isName {text : String} {name : Identifier}
    (read : identifier text = .ok name) : name.isName = true := by
  obtain ⟨_, _, _, _, named⟩ := identifier_eq_ok read
  exact (name_eq_ok named).1

theorem identifier_inField {text : String} {name : Identifier}
    (read : identifier text = .ok name) : name.InField :=
  ⟨identifier_legal read, .inl (identifier_isName read)⟩

end Reader

end StorageMapping.Source
