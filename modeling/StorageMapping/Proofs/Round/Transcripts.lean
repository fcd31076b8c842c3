import StorageMapping.Proofs.Round.Drafts
import StorageMapping.Proofs.Text.Segments
import StorageMapping.Round.SnapshotDocument

namespace StorageMapping

/-! # Drafts in a snapshot

A snapshot names the path of each struct by itself. Read from a snapshot, a draft has its round as
it stands, for there are no places in it. -/

open Source Results

/-- A name that stands in the path of a module. -/
structure Source.Identifier.InPath (name : Identifier) : Prop where
  legal : name.Legal
  allowed : name.isName = true ∨ (name.isRaw = false ∧ name.text ∈ Snapshot.moduleWords)

theorem Source.Identifier.Writable.inPath {name : Identifier} (writable : name.Writable) :
    name.InPath :=
  ⟨writable.legal, .inl writable.isName⟩

theorem Source.Identifier.Legal.segment {name : Identifier} (legal : name.Legal) :
    Text.Segment name.written := by
  have unbroken : ∀ c ∈ name.text.toList, c ≠ ':' ∧ Text.isSpace c = false := by
    intro c member
    refine ⟨?_, Text.isSpace_eq_false
      (Text.letter_notMem_blankCodes (letter_of_isWord legal.word member))⟩
    rintro rfl
    exact mark_notMem_of_isWord legal.word (by decide +kernel) member
  rw [Identifier.written]
  split
  · refine ⟨by simp, fun c member => ?_⟩
    rw [String.toList_append, List.mem_append] at member
    rcases member with mark | inText
    · have marks : ("r#".toList.all fun c => c != ':' && !Text.isSpace c) = true := by decide
      simpa using List.all_eq_true.mp marks c mark
    · exact unbroken c inText
  · refine ⟨?_, unbroken⟩
    intro empty
    have word := legal.word
    simp [Naming.isWord, empty] at word

def FieldDraft.member (draft : FieldDraft) : Snapshot.Member where
  name := draft.name.written
  type := some draft.typeText
  kind := .field
  modifiers := if draft.isPublic then [] else [.hidden]
  column := draft.column

/-- An entry that says what the draft says. A table has its keys in any order. -/
structure StructDraft.TranscribedAs {keys : LocatorKeys} (root : List Identifier)
    (draft : StructDraft keys) (entry : Snapshot.Entry) : Prop where
  name : entry.name = draft.name.written
  module : entry.module =
    String.intercalate "::" ((root ++ draft.modules).map (·.written))
  kind : entry.kind = .struct
  members : entry.members = draft.fields.map (·.member)
  unmarked : draft.marker = none → entry.marker = none
  marked : ∀ assignment, draft.marker = some assignment →
    ∃ entries, entry.marker = some entries ∧ entries.Perm assignment.entries

namespace Snapshot

variable {markers : MarkerSet} {root : List Identifier} {location : Location}

theorem declaredName_written {name : Identifier} (writable : name.Writable) :
    declaredName location name.written = .ok name.text := by
  rw [declaredName, Reader.identifier_written writable.legal writable.isName]
  rfl

theorem moduleSegment_written {name : Identifier} (inPath : name.InPath) :
    moduleSegment location name.written = .ok name.text := by
  rw [moduleSegment]
  split
  · rename_i word
    have member : name.written ∈ moduleWords := by simpa using word
    -- a raw name is none of the words, for none of them begins like one
    have unmarked : ∀ word ∈ moduleWords, word.toList.head? ≠ some 'r' := by decide
    rw [Identifier.written] at member ⊢
    split
    · rename_i raw
      rw [if_pos raw] at member
      exact absurd (by simp [String.toList_append]) (unmarked _ member)
    · rfl
  · rename_i noWord
    rcases inPath.allowed with isName | ⟨plain, word⟩
    · exact declaredName_written ⟨inPath.legal, isName⟩
    · rw [Identifier.written, plain] at noWord
      exact absurd (by simpa using word) noWord

theorem element_member {qualified : String} {draft : FieldDraft} {column : ColumnMarker} :
    element qualified draft.member column = .ok (draft.element qualified column) := by
  have read := Reader.identifier_written draft.writable.legal draft.writable.isName
  simp only [element, FieldDraft.member, read, parsed, draft.typed]
  cases shown : draft.isPublic <;> simp only [FieldDraft.element, shown] <;> rfl

theorem elements_members {qualified : String} (drafts : List FieldDraft) :
    ((stored (drafts.map (·.member))).mapM fun (member, column) =>
        element qualified member column) =
      .ok (drafts.filterMap (·.element? qualified)) := by
  induction drafts with
  | nil => rfl
  | cons draft rest ih =>
      cases marked : draft.column with
      | none =>
          have absent : stored ((draft :: rest).map (·.member)) = stored (rest.map (·.member)) := by
            rw [List.map_cons, stored, List.filterMap_cons_none]
            · rfl
            · rw [FieldDraft.member, marked]
              rfl
          rw [absent, ih, List.filterMap_cons_none (by rw [FieldDraft.element?, marked]; rfl)]
      | some column =>
          have present : stored ((draft :: rest).map (·.member)) =
              (draft.member, column) :: stored (rest.map (·.member)) := by
            rw [List.map_cons, stored, List.filterMap_cons_some]
            · rfl
            · rw [FieldDraft.member, marked]
              rfl
          have drafted : draft.element? qualified = some (draft.element qualified column) := by
            rw [FieldDraft.element?, marked]
            rfl
          rw [present, List.mapM_cons, ih, List.filterMap_cons_some drafted]
          simp only [element_member]
          rfl

/-- The path of a struct is the root with the modules of the draft behind it. -/
theorem modulePath_transcribed {draft : StructDraft markers.locatorKeys} {entry : Entry}
    (inPath : ∀ name ∈ root, name.InPath) (transcribed : draft.TranscribedAs root entry)
    (location : Location) :
    (Text.moduleSegments entry.module).mapM (moduleSegment location) =
      .ok (draft.path (root.map (·.text))) := by
  have names : ∀ name ∈ root ++ draft.modules, name.InPath := by
    intro name member
    rcases List.mem_append.mp member with outside | inside
    · exact inPath name outside
    · exact (draft.reachable name inside).inPath
  have segments : Text.moduleSegments entry.module = (root ++ draft.modules).map (·.written) := by
    rw [transcribed.module, Text.moduleSegments_intercalate]
    exact List.forall_mem_map.mpr fun name member => (names name member).legal.segment
  have each : ∀ name ∈ root ++ draft.modules,
      (moduleSegment location ∘ (·.written)) name = .ok name.text :=
    fun name member => moduleSegment_written (names name member)
  rw [segments, List.mapM_map, mapM_eq_map each, List.map_append]
  rfl

/-- A table with the entries of an assignment is read as the marker they make. -/
theorem readMarker_reordered {assignment : Assignment markers.locatorKeys}
    {entries : List (String × String)} (reordered : entries.Perm assignment.entries)
    (location : Location) :
    readMarker markers location (sorted entries) .empty =
      .ok (Marker.assigned markers.locatorKeys assignment.entries) := by
  have sortedEntries : (sorted entries).Perm assignment.entries :=
    (List.mergeSort_perm entries _).trans reordered
  have known : ∀ entry ∈ sorted entries, (markers.locatorKeys.slot? entry.1).isSome = true :=
    fun entry member => assignment.known entry (sortedEntries.subset member)
  rw [Marker.readMarker_eq known, Marker.assigned_perm assignment.distinct sortedEntries.symm]
  rfl

theorem entryRound_transcribed {draft : StructDraft markers.locatorKeys} {entry : Entry}
    (inPath : ∀ name ∈ root, name.InPath) (transcribed : draft.TranscribedAs root entry) :
    entryRound markers entry = .ok (draft.round (root.map (·.text))) := by
  have named : ∀ location, declaredName location entry.name = .ok draft.name.text := by
    intro location
    rw [transcribed.name]
    exact declaredName_written draft.writable
  rw [entryRound_eq]
  simp only [modulePath_transcribed inPath transcribed, named, transcribed.members,
    transcribed.kind, elements_members]
  rw [StructDraft.round, StructDraft.locators]
  cases marked : draft.marker with
  | none =>
      rw [transcribed.unmarked marked]
      rfl
  | some assignment =>
      obtain ⟨entries, found, reordered⟩ := transcribed.marked assignment marked
      simp only [found, readMarker_reordered reordered]
      rfl

theorem entriesRound_transcribed {drafts : List (StructDraft markers.locatorKeys)}
    {entries : List Entry} (inPath : ∀ name ∈ root, name.InPath)
    (transcribed : List.Forall₂ (StructDraft.TranscribedAs root) drafts entries) :
    entriesRound markers entries = .ok (StructDraft.rounds (root.map (·.text)) drafts) := by
  induction transcribed with
  | nil => rfl
  | cons here _ ih =>
      rw [entriesRound_cons, entryRound_transcribed inPath here, ih]
      rfl

end Snapshot

/-! ## Every draft can be written in a snapshot -/

section Documents

open Document

def Snapshot.columnTable (column : ColumnMarker) : Entries :=
  [("name", .text column.name), ("key", .boolean column.isKey),
    ("ignore_null", .boolean column.ignoresNull)]

def FieldDraft.table (draft : FieldDraft) : Entries :=
  [("name", .text draft.name.written), ("type", .text draft.typeText), ("kind", .text "field"),
    ("modifiers", .array (if draft.isPublic then [] else [.text "private"]))] ++
    draft.column.toList.map fun column => ("column", .table .defined (Snapshot.columnTable column))

variable {keys : LocatorKeys} (root : List Identifier)

def StructDraft.modulesText (draft : StructDraft keys) : String :=
  String.intercalate "::" ((root ++ draft.modules).map (·.written))

def StructDraft.table (draft : StructDraft keys) : Entries :=
  [("name", .text draft.name.written), ("module", .text (draft.modulesText root)),
    ("kind", .text "struct"), ("field", .tables (draft.fields.map (·.table)))] ++
    draft.marker.toList.map fun assignment =>
      ("type_marker",
        .table .defined (assignment.entries.map fun entry => (entry.1, .text entry.2)))

def StructDraft.document (drafts : List (StructDraft keys)) : Value :=
  .table .defined [("declaration", .tables (drafts.map (·.table root)))]

def StructDraft.entry (draft : StructDraft keys) : Snapshot.Entry where
  name := draft.name.written
  module := draft.modulesText root
  kind := .struct
  marker := draft.marker.map (·.entries)
  members := draft.fields.map (·.member)

theorem StructDraft.transcribedAs_entry (draft : StructDraft keys) :
    draft.TranscribedAs root (draft.entry root) where
  name := rfl
  module := rfl
  kind := rfl
  members := rfl
  unmarked := by
    intro absent
    rw [entry, absent]
    rfl
  marked := by
    intro assignment present
    exact ⟨assignment.entries, by rw [entry, present]; rfl, .refl _⟩

namespace Document.Decoder

variable {α β : Type} {fields : List (Decoder.Field α)} {entries : Entries} {record found : α}

theorem setNamed_cons {field : Decoder.Field α} {key : String} {value : Value}
    (named : fields.find? (·.name == key) = some field)
    (changed : field.set value record = .ok found) :
    setNamed fields ((key, value) :: entries) record = setNamed fields entries found := by
  rw [setNamed, named]
  simp only [changed]
  rfl

/-- A table is a record where its keys set all that the record needs. -/
theorem record_table {name : String} {kind : TableKind}
    (completed : setNamed fields entries record = .ok found)
    (filled : (fields.find? fun field =>
      field.isRequired && (entries.get? field.name).isNone) = none) :
    Decoder.record name fields record (.table kind entries) = .ok found := by
  simp only [Decoder.record, entries?, completed, filled]
  rfl

theorem list_tables {decoder : Decoder α} {table : β → Entries} {value : β → α} (sources : List β)
    (each : ∀ source, decoder (.table .defined (table source)) = .ok (value source)) :
    Decoder.list decoder (.tables (sources.map table)) = .ok (sources.map value) := by
  change (sources.map table).mapM (fun entries => decoder (.table .defined entries)) = _
  rw [List.mapM_map]
  exact mapM_eq_map fun source _ => each source

end Document.Decoder

namespace Snapshot

open Decoder

theorem member_table (draft : FieldDraft) :
    member (.table .defined draft.table) = .ok draft.member := by
  rw [FieldDraft.table, FieldDraft.member]
  cases shown : draft.isPublic <;> cases marked : draft.column <;> rfl

theorem map_texts (entries : List (String × String)) :
    Decoder.map Decoder.text
      (.table .defined (entries.map fun entry => (entry.1, .text entry.2))) = .ok entries := by
  change (entries.map fun entry => (entry.1, Value.text entry.2)).mapM _ = _
  rw [List.mapM_map]
  refine (mapM_eq_map fun _ _ => rfl).trans ?_
  exact congrArg _ (List.map_id entries)

theorem entry_table (draft : StructDraft keys) :
    entry (.table .defined (draft.table root)) = .ok (draft.entry root) := by
  have members := list_tables draft.fields member_table
  rw [StructDraft.table, StructDraft.entry]
  refine record_table ?_ rfl
  rw [List.cons_append, setNamed_cons rfl rfl, List.cons_append, setNamed_cons rfl rfl,
    List.cons_append, setNamed_cons rfl rfl, List.cons_append,
    setNamed_cons rfl (congrArg (_ <$> ·) members), List.nil_append]
  cases marked : draft.marker with
  | none => rfl
  | some assignment =>
      exact setNamed_cons rfl (congrArg (_ <$> some <$> ·) (map_texts assignment.entries))

theorem decoder_document (drafts : List (StructDraft keys)) :
    decoder (StructDraft.document root drafts) = .ok ⟨drafts.map (·.entry root)⟩ := by
  have entries := list_tables drafts (entry_table root)
  exact record_table (setNamed_cons rfl (congrArg (_ <$> ·) entries)) rfl

end Snapshot

end Documents

end StorageMapping
