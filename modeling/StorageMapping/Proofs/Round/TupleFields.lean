import StorageMapping.Proofs.Round.Nested
import StorageMapping.Proofs.Round.Records
import StorageMapping.Proofs.Source.Fields
import StorageMapping.Run

namespace StorageMapping

/-! # Markers on fields without a name

Only a field with a name can be a column. The diagnostic for any other has a number where the name
would stand. It counts the marked fields in front and not all of them, so in a tuple struct, where
the first marked field ends the scan, it is the number of the first field whichever is marked. -/

open Source Results

/-- Does a field have the column marker? -/
def MarkerSet.marksField (markers : MarkerSet) (field : Field) : Bool :=
  (Marker.find? field.attributes markers.columnAttribute).isSome

/-- Can the type marker among these attributes be read, if there is one? -/
def MarkerSet.readsType (markers : MarkerSet) (attributes : List Attribute) : Bool :=
  (Marker.find? attributes markers.typeAttribute).all fun attr =>
    (Marker.readType markers.locatorKeys attr).toOption.isSome

/-- Is a definition a struct with fields that have no names? -/
def Source.DataItem.isTuple (data : DataItem) : Bool :=
  data.kind == .struct && data.fields.all (·.name.isNone)

/-- A struct with fields in parentheses is one. -/
theorem Source.Reader.definition_isTuple {text : String} {input : DeriveInput} {fields : List Field}
    (read : definition text = .ok input) (unnamed : input.data = .struct (.unnamed fields)) :
    input.item.isTuple = true := by
  have nameless := definition_nameless read unnamed
  simpa [DataItem.isTuple, DeriveInput.item, unnamed, Data.kind, Data.fields, Fields.list]
    using nameless

namespace Discovery

variable {scope : Scope} {path : List String} {qualified : String} {data : DataItem}

/-- The diagnostic for a marked member that has a number in the place of its name. -/
def numbered (scope : Scope) (qualified : String) (number : Nat) (position : Position) :
    Diagnostic :=
  let location : Location := ⟨qualified ++ "::" ++ toString number, scope.file, position⟩
  ⟨.structural, location,
    scope.markers.columnDisplay ++ " can only be applied to named fields: " ++ location.element⟩

theorem numbered_zero {position : Position} :
    (numbered scope qualified 0 position).location = ⟨qualified ++ "::0", scope.file, position⟩ :=
  congrArg (Location.mk · scope.file position) (String.append_assoc ..)

/-- Two numbers make two names. -/
theorem numbered_element {number other : Nat} {position : Position} :
    (numbered scope qualified number position).location.element =
      qualified ++ "::" ++ toString other ↔ number = other := by
  refine ⟨fun same => ?_, fun same => same ▸ rfl⟩
  have written : number.repr = other.repr := (String.append_right_inj _).mp same
  have digits : Nat.toDigits 10 number = Nat.toDigits 10 other := by
    rw [← Nat.toList_repr, ← Nat.toList_repr, written]
  have read := congrArg (Nat.ofDigitChars 10 · 0) digits
  simpa only [Nat.ofDigitChars_toDigits (by decide : 1 < 10) (le_refl 10)] using read

theorem typeMarker_of_readsType {location : Location} {attributes : List Attribute}
    (readable : scope.markers.readsType attributes = true) :
    ∃ marker, typeMarker scope location attributes = .ok marker := by
  rw [typeMarker]
  cases found : Marker.find? attributes scope.markers.typeAttribute with
  | none => exact ⟨none, rfl⟩
  | some attr =>
      rw [MarkerSet.readsType, found] at readable
      obtain ⟨marker, read⟩ := Option.isSome_iff_exists.mp readable
      rw [toOption_eq_some] at read
      exact ⟨some marker, by simp only [read]; rfl⟩

/-! ## Numbers of members -/

theorem length_markedMembers (markers : MarkerSet) (fields : List Field) :
    (markedMembers markers (fields.map .ofField)).length = fields.countP markers.marksField := by
  rw [markedMembers, List.length_filterMap_eq_countP, List.countP_map]
  refine List.countP_congr fun field _ => ?_
  simp [MarkerSet.marksField, Member.ofField]

theorem markedMembers_parts {markers : MarkerSet} {front behind : List Field} {field : Field}
    (marked : markers.marksField field = true) :
    ∃ attr, markedMembers markers ((front ++ field :: behind).map .ofField) =
      markedMembers markers (front.map .ofField) ++
        (.ofField field, attr) :: markedMembers markers (behind.map .ofField) := by
  obtain ⟨attr, found⟩ := Option.isSome_iff_exists.mp marked
  refine ⟨attr, ?_⟩
  rw [List.map_append, List.map_cons, markedMembers, List.filterMap_append]
  refine congrArg _ (List.filterMap_cons_some ?_)
  exact congrArg (Option.map _) found

/-- The first marked member without a name is reported under its number among the marked ones. -/
theorem elements_numbered {number : Nat} {front behind : List (Member × Attribute)}
    {member : Member} {attr : Attribute} {columns : List MarkedElement}
    (read : elements scope qualified number front = .ok columns) (nameless : member.name = none) :
    elements scope qualified number (front ++ (member, attr) :: behind) =
      .error (numbered scope qualified (number + front.length) member.position) := by
  induction front generalizing number columns with
  | nil =>
      rw [List.nil_append, elements, element.eq_def, nameless]
      rfl
  | cons entry rest ih =>
      obtain ⟨first, others, here, later, _⟩ := elements_cons_eq_ok.mp read
      rw [List.cons_append, elements, here, List.length_cons, Nat.add_comm rest.length,
        ← Nat.add_assoc]
      exact bind_eq_error.mpr (.inr ⟨first, rfl, bind_eq_error.mpr (.inl (ih later))⟩)

/-- The first marked field without a name ends the scan of any definition, and is reported under the
number of marked fields in front of it. -/
theorem ofDefinition_numbered {front behind : List Field} {field : Field}
    {columns : List MarkedElement} (readable : scope.markers.readsType data.attributes = true)
    (parts : data.fields = front ++ field :: behind)
    (read : elements scope (Text.qualify path data.name.text) 0
      (markedMembers scope.markers (front.map .ofField)) = .ok columns)
    (marked : scope.markers.marksField field = true) (nameless : field.name = none) :
    ofDefinition scope path data =
      .error (numbered scope (Text.qualify path data.name.text)
        (front.countP scope.markers.marksField) field.position) := by
  obtain ⟨attr, members⟩ := @markedMembers_parts scope.markers front behind field marked
  have counted := @elements_numbered scope _ 0 _
    (markedMembers scope.markers (behind.map .ofField)) (.ofField field) attr _ read nameless
  rw [Nat.zero_add, length_markedMembers] at counted
  rw [← members, ← parts] at counted
  obtain ⟨marker, typed⟩ := @typeMarker_of_readsType scope
    ⟨Text.qualify path data.name.text, scope.file, data.position⟩ _ readable
  rw [ofDefinition, record_eq]
  exact bind_eq_error.mpr (.inr ⟨marker, typed, bind_eq_error.mpr (.inl counted)⟩)

/-! ## Tuple structs -/

theorem parts_of_findIdx? {α : Type} {test : α → Bool} {xs : List α} {index : Nat}
    (found : xs.findIdx? test = some index) :
    ∃ front x behind, xs = front ++ x :: behind ∧ front.length = index ∧ test x = true ∧
      front.countP test = 0 := by
  obtain ⟨bound, passed, failed⟩ := List.findIdx?_eq_some_iff_getElem.mp found
  refine ⟨xs.take index, xs[index], xs.drop (index + 1), ?_, ?_, passed, ?_⟩
  · rw [← List.drop_eq_getElem_cons bound, List.take_append_drop]
  · exact List.length_take_of_le bound.le
  · refine List.countP_eq_zero.mpr fun x member => ?_
    obtain ⟨place, before, rfl⟩ := List.mem_take_iff_getElem.mp member
    exact failed place (by omega)

/-- In a tuple struct no field has a name, so it is always the first number that is reported. -/
theorem ofDefinition_tuple {markers : MarkerSet} {index : Nat} (tuple : data.isTuple = true)
    (readable : markers.readsType data.attributes = true)
    (first : data.fields.findIdx? markers.marksField = some index) :
    ∃ field, data.fields[index]? = some field ∧ ∀ file path,
      ofDefinition ⟨markers, file⟩ path data =
        .error (numbered ⟨markers, file⟩ (Text.qualify path data.name.text) 0 field.position) := by
  obtain ⟨front, field, behind, parts, placed, marked, unmarked⟩ := parts_of_findIdx? first
  have here : data.fields[index]? = some field := by simp [parts, ← placed]
  refine ⟨field, here, fun file path => ?_⟩
  have nameless : field.name = none := by
    have all := List.all_eq_true.mp (Bool.and_eq_true_iff.mp tuple).2
    exact Option.isNone_iff_eq_none.mp (all field (List.mem_of_getElem? here))
  -- the fields in front are not marked, so none of them is counted
  have uncounted : markedMembers markers (front.map .ofField) = [] :=
    List.eq_nil_of_length_eq_zero ((length_markedMembers markers front).trans unmarked)
  have reported := @ofDefinition_numbered ⟨markers, file⟩ path data front behind field []
    readable parts (uncounted ▸ rfl) marked nameless
  rwa [unmarked] at reported

end Discovery

open Discovery

theorem scanSource_fault {backend : Backend} {config : Config} {file : Option String}
    {text : String} {items : List Item} {fault : Diagnostic} (parsed : Reader.file text = .ok items)
    (failed : ofItems ⟨backend.markers, file⟩ config.moduleSegments items = .error fault) :
    scanSource backend config file text = .error (.diagnostic fault) := by
  rw [scanSource, parsed]
  exact congrArg (Failure.during .diagnostic) failed

/-- A scan never accepts a tuple struct with a marked field. Where it comes by the struct, it tells a
structural fault at the place of the first marked field, under the name of the struct with a zero
behind it. That is the number of the field among all fields just where it is the first of them. -/
theorem scan_tuple (backend : Backend) :
    (∀ data index, data.isTuple = true → backend.markers.readsType data.attributes = true →
      data.fields.findIdx? backend.markers.marksField = some index →
        ∃ field, data.fields[index]? = some field ∧
          ∀ config file text items modules, Reader.file text = .ok items →
            (∀ round, (Item.data data).Lies modules items →
              scanSource backend config file text ≠ .ok round) ∧
            ((Item.data data).Reached ⟨backend.markers, file⟩ config.moduleSegments modules items →
              scanSource backend config file text =
                .error (.diagnostic (numbered ⟨backend.markers, file⟩
                  (Text.qualify (config.moduleSegments ++ modules.map (·.text)) data.name.text)
                  0 field.position)))) ∧
      (∀ text input fields index, Reader.definition text = .ok input →
        input.data = .struct (.unnamed fields) →
        backend.markers.readsType input.attributes = true →
        fields.findIdx? backend.markers.marksField = some index →
          ∃ field, fields[index]? = some field ∧
            scanDefinition backend text = .error (.diagnostic
              (numbered ⟨backend.markers, none⟩ input.name.text 0 field.position))) ∧
      ∀ scope qualified position index,
        (numbered scope qualified 0 position).kind = .structural ∧
          (numbered scope qualified 0 position).location =
            ⟨qualified ++ "::0", scope.file, position⟩ ∧
          (qualified ++ "::0" = qualified ++ "::" ++ toString index ↔ index = 0) := by
  refine ⟨fun data index tuple readable first => ?_,
    fun text input fields index read unnamed readable first => ?_,
    fun scope qualified position index => ⟨rfl, ?_, ?_⟩⟩
  · obtain ⟨field, here, reported⟩ := ofDefinition_tuple tuple readable first
    refine ⟨field, here, fun config file text items modules parsed => ⟨?_, fun reached => ?_⟩⟩
    · intro round lies scanned
      obtain ⟨read, same, scanned⟩ := bind_eq_ok.mp scanned
      cases (mapError_eq_ok.mp same).symm.trans parsed
      obtain ⟨part, found, _⟩ := ofItems_lies lies (mapError_eq_ok.mp scanned)
      rw [ofItem, reported] at found
      cases found
    · exact scanSource_fault parsed
        (ofItems_reached reached (by rw [ofItem]; exact reported file _))
  · have fields : input.item.fields = fields := congrArg Data.fields unnamed
    have tuple := Reader.definition_isTuple read unnamed
    obtain ⟨field, here, reported⟩ := ofDefinition_tuple tuple readable (fields ▸ first)
    refine ⟨field, fields ▸ here, ?_⟩
    rw [scanDefinition, read]
    exact congrArg (Failure.during .diagnostic) ((ofDerive_eq _ input).trans (reported none []))
  · exact numbered_zero
  · have element : (numbered scope qualified 0 position).location.element = qualified ++ "::0" :=
      congrArg Location.element numbered_zero
    rw [← element, numbered_element, eq_comm]

/-- A struct whose second field is marked. -/
def tupleText : String :=
  "#[storio_sqlite_type(table=\"t\")]struct T(u8,#[storio_sqlite_column(name=\"c\")]u8);"

/-- The same struct in a module. -/
def nestedTupleText : String := "mod m\x7b" ++ tupleText ++ "\x7d"

/-- Is it a tuple struct with a type marker that can be read, and with markers on fields from the
second one on? -/
def marksSecond (data : DataItem) : Bool :=
  data.isTuple && Backend.sqlite.markers.readsType data.attributes &&
    data.fields.findIdx? Backend.sqlite.markers.marksField == some 1

theorem marksSecond_iff {data : DataItem} :
    marksSecond data = true ↔ data.isTuple = true ∧
      Backend.sqlite.markers.readsType data.attributes = true ∧
      data.fields.findIdx? Backend.sqlite.markers.marksField = some 1 := by
  simp [marksSecond, and_assoc]

/-- Is it one such struct and nothing else, with this name? -/
def marksSecondOf (name : String) : List Item → Bool
  | [.data data] => marksSecond data && data.name.text == name
  | _ => false

/-- Is it one module, with one such struct and nothing else in it? -/
def marksSecondInside : List Item → Bool
  | [.module _ (some [.data data])] => marksSecond data
  | _ => false

theorem nestedTupleText_items :
    ∃ name data, Reader.file nestedTupleText = .ok [.module name (some [.data data])] ∧
      marksSecond data = true := by
  obtain ⟨items, parsed, checked⟩ := @exists_of_any _ _ (Reader.file nestedTupleText)
    marksSecondInside (by decide +kernel)
  match items, checked with
  | [.module name (some [.data data])], checked => exact ⟨name, data, parsed, checked⟩

theorem tupleText_items :
    ∃ data, Reader.file tupleText = .ok [.data data] ∧ marksSecond data = true ∧
      data.name.text = "T" := by
  obtain ⟨items, parsed, checked⟩ := @exists_of_any _ _ (Reader.file tupleText)
    (marksSecondOf "T") (by decide +kernel)
  match items, checked with
  | [.data data], checked =>
      obtain ⟨second, named⟩ := Bool.and_eq_true_iff.mp checked
      exact ⟨data, parsed, second, eq_of_beq named⟩

/-- Is it such a struct, with its fields in parentheses? -/
def marksSecondUnnamed (input : DeriveInput) : Bool :=
  match input.data with
  | .struct (.unnamed _) => marksSecond input.item
  | _ => false

theorem tupleText_definition :
    ∃ input fields, Reader.definition tupleText = .ok input ∧
      input.data = .struct (.unnamed fields) ∧ marksSecond input.item = true := by
  obtain ⟨input, parsed, checked⟩ := @exists_of_any _ _ (Reader.definition tupleText)
    marksSecondUnnamed (by decide +kernel)
  rw [marksSecondUnnamed] at checked
  split at checked
  · rename_i fields unnamed
    exact ⟨input, fields, parsed, unnamed, checked⟩
  · cases checked

theorem scan_tuple_second :
    (∃ data field modules items, Reader.file nestedTupleText = .ok items ∧
        (Item.data data).Reached ⟨Backend.sqlite.markers, none⟩ Config.standard.moduleSegments
          modules items ∧
        data.fields.findIdx? Backend.sqlite.markers.marksField = some 1 ∧
        data.fields[1]? = some field ∧
        scanSource .sqlite .standard none nestedTupleText =
          .error (.diagnostic (numbered ⟨Backend.sqlite.markers, none⟩
            (Text.qualify (Config.standard.moduleSegments ++ modules.map (·.text)) data.name.text)
            0 field.position))) ∧
      ∃ input fields field, Reader.definition tupleText = .ok input ∧
        input.data = .struct (.unnamed fields) ∧ fields[1]? = some field ∧
        scanDefinition .sqlite tupleText = .error (.diagnostic
          (numbered ⟨Backend.sqlite.markers, none⟩ input.name.text 0 field.position)) := by
  constructor
  · obtain ⟨name, data, parsed, checked⟩ := nestedTupleText_items
    obtain ⟨tuple, readable, first⟩ := marksSecond_iff.mp checked
    obtain ⟨field, here, scanned⟩ := (scan_tuple .sqlite).1 data 1 tuple readable first
    have reached : (Item.data data).Reached ⟨Backend.sqlite.markers, none⟩
        Config.standard.moduleSegments [name] [.module name (some [.data data])] :=
      @Item.Reached.inside _ _ _ _ _ _ [] [] .empty rfl (@Item.Reached.here _ _ _ [] [] .empty rfl)
    exact ⟨data, field, [name], _, parsed, reached, first, here,
      (scanned .standard none _ _ [name] parsed).2 reached⟩
  · obtain ⟨input, fields, read, unnamed, checked⟩ := tupleText_definition
    obtain ⟨_, readable, first⟩ := marksSecond_iff.mp checked
    have same : input.item.fields = fields := congrArg Data.fields unnamed
    obtain ⟨field, here, scanned⟩ := (scan_tuple .sqlite).2.1 tupleText input fields 1 read unnamed
      readable (same ▸ first)
    exact ⟨input, fields, field, read, unnamed, here, scanned⟩

/-- The second field of a struct is the first one with a marker, but the first field is reported. -/
theorem tuple_misnumbered :
    ∃ data fault, Reader.file tupleText = .ok [.data data] ∧ data.isTuple = true ∧
      Backend.sqlite.markers.readsType data.attributes = true ∧
      data.fields.findIdx? Backend.sqlite.markers.marksField = some 1 ∧
      scanSource .sqlite .standard none tupleText = .error (.diagnostic fault) ∧
      fault.location.element = "crate::T::0" ∧
      fault.location.element ≠ "crate::T" ++ "::" ++ toString 1 := by
  obtain ⟨data, parsed, checked, named⟩ := tupleText_items
  obtain ⟨tuple, readable, first⟩ := marksSecond_iff.mp checked
  obtain ⟨field, _, reported⟩ := ofDefinition_tuple tuple readable first
  have qualified : Text.qualify Config.standard.moduleSegments data.name.text = "crate::T" := by
    rw [named]
    decide
  have failed : ofItems ⟨Backend.sqlite.markers, none⟩ Config.standard.moduleSegments
      [.data data] = .error (numbered ⟨Backend.sqlite.markers, none⟩ "crate::T" 0
        field.position) := by
    rw [ofItems_singleton, ofItem, reported, qualified]
  have apart : "crate::T::0" ≠ "crate::T" ++ "::" ++ toString 1 := by decide
  refine ⟨data, _, parsed, tuple, readable, first, scanSource_fault parsed failed, ?_⟩
  rw [numbered_zero]
  exact ⟨rfl, apart⟩

end StorageMapping
