import StorageMapping.Proofs.Processing.Configured
import StorageMapping.Proofs.Processing.Relabelling
import StorageMapping.Proofs.Round.Transcripts

namespace StorageMapping

/-! # Two front ends

The same structs can be written as a source text and as a snapshot. Both ways lead to one round. -/

open Source

/-- Is this a text of these structs, with anything but structs around them? -/
def SourceHolds (markers : MarkerSet) (drafts : List (StructDraft markers.locatorKeys))
    (text : String) : Prop :=
  ∃ items, Reader.file text = .ok items ∧ Written markers [] drafts items

/-- Is this a document of these structs, in modules below a root? -/
def SnapshotHolds {keys : LocatorKeys} (root : List Identifier) (drafts : List (StructDraft keys))
    (document : String) : Prop :=
  ∃ snapshot, Snapshot.ofText document = .ok snapshot ∧
    List.Forall₂ (StructDraft.TranscribedAs root) drafts snapshot.declarations

section FrontEnds

variable {backend : Backend} {config : Config} {root : List Identifier}
  {drafts : List (StructDraft backend.markers.locatorKeys)}

theorem scanSource_round {file : Option String} {text : String}
    (below : config.moduleSegments = root.map (·.text))
    (holds : SourceHolds backend.markers drafts text) :
    ∃ round, scanSource backend config file text = .ok round ∧
      round.unplaced = (StructDraft.rounds (root.map (·.text)) drafts).unplaced := by
  obtain ⟨items, read, written⟩ := holds
  obtain ⟨round, found, same⟩ :=
    @Discovery.ofItems_written ⟨backend.markers, file⟩ (root.map (·.text)) _ _ _ written
  rw [List.map_nil, List.append_nil] at found
  refine ⟨round, ?_, same⟩
  rw [scanSource, read, below]
  change Failure.during .diagnostic (Discovery.ofItems _ _ items) = _
  rw [found]
  rfl

theorem scanSnapshot_round {document : String} (inPath : ∀ name ∈ root, name.InPath)
    (holds : SnapshotHolds root drafts document) :
    scanSnapshot backend document = .ok (StructDraft.rounds (root.map (·.text)) drafts) := by
  obtain ⟨snapshot, read, transcribed⟩ := holds
  rw [scanSnapshot, read]
  change Failure.during .diagnostic
    (Snapshot.entriesRound backend.markers snapshot.declarations) = _
  rw [Snapshot.entriesRound_transcribed inPath transcribed]
  rfl

/-- A processor that takes no notice of places ends alike for rounds that differ in them only. -/
theorem process_unplaced {processor : Processor} {first second : Round}
    (blind : ∀ type : TypeExpr, processor.introspect type.unplaced = processor.introspect type)
    (same : first.unplaced = second.unplaced) :
    Relabelling.unplaced.outcome (processor.process first) =
      Relabelling.unplaced.outcome (processor.process second) := by
  have kept : Relabelling.unplaced.KeepsPaths := fun _ => rfl
  have faithful : Relabelling.unplaced.Faithful processor.introspect :=
    ⟨blind, TypeExpr.text_unplaced⟩
  rw [← Processing.process_relabelled kept faithful, ← Processing.process_relabelled kept faithful]
  exact congrArg processor.process same

/-- The front ends agree. Every list of structs can be written as items and as a document, and
wherever a text and a document hold the same structs below the same modules, both are read; places
aside, there is one round and one end of its processing. A configuration names modules without the
marks of raw names. Types may be classified in any way that takes no notice of places. -/
theorem frontEnds_agree (below : config.moduleSegments = root.map (·.text))
    (inPath : ∀ name ∈ root, name.InPath) :
    (∃ items, Written backend.markers [] drafts items) ∧
    (∃ snapshot, Snapshot.decoder (StructDraft.document root drafts) = .ok snapshot ∧
      List.Forall₂ (StructDraft.TranscribedAs root) drafts snapshot.declarations) ∧
    ∀ file text document, SourceHolds backend.markers drafts text →
      SnapshotHolds root drafts document →
      ∃ scanned transcribed, scanSource backend config file text = .ok scanned ∧
        scanSnapshot backend document = .ok transcribed ∧
        scanned.unplaced = transcribed.unplaced ∧
        ∀ processor : Processor,
          (∀ type : TypeExpr, processor.introspect type.unplaced = processor.introspect type) →
            Relabelling.unplaced.outcome (processor.process scanned) =
              Relabelling.unplaced.outcome (processor.process transcribed) := by
  refine ⟨⟨_, written_items drafts⟩, ⟨_, Snapshot.decoder_document root drafts, ?_⟩, ?_⟩
  · rw [List.forall₂_map_right_iff]
    exact List.forall₂_same.mpr fun draft _ => draft.transcribedAs_entry root
  · intro file text document inSource inSnapshot
    obtain ⟨scanned, found, same⟩ := @scanSource_round _ _ _ _ file _ below inSource
    have built := scanSnapshot_round inPath inSnapshot
    exact ⟨scanned, _, found, built, same, fun processor blind => process_unplaced blind same⟩

/-! A struct with a raw field, in a module of its own. -/

def sampleText : String :=
  "mod a\x7b#[storio_sqlite_type(table=\"t\")]struct T\x7b" ++
    "#[storio_sqlite_column(name=\"c\",key=true)]pub r#move:i64\x7d\x7d"

def sampleDocument : String :=
  "[[declaration]]\nname=\"T\"\nmodule=\"crate::a\"\n[declaration.type_marker]\ntable=\"t\"\n" ++
    "[[declaration.field]]\nname=\"r#move\"\ntype=\"i64\"\n" ++
    "[declaration.field.column]\nname=\"c\"\nkey=true\n"

def isSampleType : Except SyntaxError TypeExpr → Bool
  | .ok (.path false [.mk name position none]) => name == .plain "i64" && position == .start
  | _ => false

theorem type_sample : Reader.type "i64" = .ok (.path false [.mk (.plain "i64") .start none]) := by
  have shape : isSampleType (Reader.type "i64") = true := by decide +kernel
  unfold isSampleType at shape
  split at shape
  · rename_i name position read
    simp only [Bool.and_eq_true, beq_iff_eq] at shape
    rw [read, shape.1, shape.2]
  · contradiction

def sample : StructDraft Backend.sqlite.markers.locatorKeys where
  modules := [.plain "a"]
  name := .plain "T"
  marker := some ⟨[("table", "t")], by decide, by decide⟩
  fields := [{
    name := ⟨"move", true⟩
    typeText := "i64"
    type := .path false [.mk (.plain "i64") .start none]
    isPublic := true
    column := some ⟨"c", true, false⟩
    writable := ⟨⟨by decide +kernel, by decide⟩, by decide⟩
    typed := type_sample }]
  reachable := by
    intro name member
    rw [List.mem_singleton.mp member]
    exact ⟨⟨by decide +kernel, by decide⟩, by decide⟩
  writable := ⟨⟨by decide +kernel, by decide⟩, by decide⟩

/-- Items that are the sample, wherever their parts stand. -/
def areSample : Except SyntaxError (List Item) → Bool
  | .ok [.module outer (some [.data ⟨.struct,
      [⟨false, false, [mark], .list [.word key _, .punctuation '=' _ _, .literal value _] _⟩],
      name, _, _,
      [⟨[⟨false, false, [fieldMark], .list [.word nameKey _, .punctuation '=' _ _,
          .literal storageName _, .punctuation ',' _ _, .word flagKey _,
          .punctuation '=' _ _, .word flag _] _⟩],
        true, some (fieldName, _), .path false [.mk type _ none], _⟩]⟩])] =>
      (outer == .plain "a" && mark == .plain "storio_sqlite_type" && key == .plain "table" &&
        Literal.stringValue? value == some "t" && name == .plain "T") &&
      (fieldMark == .plain "storio_sqlite_column" && nameKey == .plain "name" &&
        Literal.stringValue? storageName == some "c" && flagKey == .plain "key" &&
        flag == .plain "true" && fieldName == ⟨"move", true⟩ && type == .plain "i64")
  | _ => false

set_option maxRecDepth 100000 in
theorem sourceHolds_sample : SourceHolds Backend.sqlite.markers [sample] sampleText := by
  have shape : areSample (Reader.file sampleText) = true := by decide +kernel
  unfold areSample at shape
  split at shape
  · rename_i read
    simp only [Bool.and_eq_true, beq_iff_eq] at shape
    obtain ⟨⟨⟨⟨⟨rfl, rfl⟩, rfl⟩, located⟩, rfl⟩,
      ⟨⟨⟨⟨⟨⟨rfl, rfl⟩, named⟩, rfl⟩, rfl⟩, rfl⟩, rfl⟩⟩ := shape
    refine ⟨_, read, @Written.module _ _ _ [sample] [] _ _ (@Written.struct _ sample _ [] _ ?_ .nil)
      .nil⟩
    refine ⟨rfl, rfl, .cons ⟨⟨_, rfl⟩, rfl, rfl, ?_, ?_⟩ .nil, ?_, ?_⟩
    · intro absent
      cases absent
    · rintro column ⟨⟩
      exact ⟨_, [.name "c", .key true], rfl,
        .list rfl (.cons (.text named) (.last .flag)), rfl⟩
    · intro absent
      cases absent
    · rintro assignment ⟨⟩
      exact ⟨_, rfl, .list rfl (.last (.text located))⟩
  · contradiction

set_option maxRecDepth 100000 in
theorem snapshotHolds_sample : SnapshotHolds [.plain "crate"] [sample] sampleDocument := by
  have read : (Snapshot.ofText sampleDocument).toOption =
      some ⟨[sample.entry [.plain "crate"]]⟩ := by
    decide +kernel
  cases decoded : Snapshot.ofText sampleDocument with
  | error failure =>
      rw [decoded] at read
      cases read
  | ok snapshot =>
      rw [decoded] at read
      cases read
      exact ⟨_, decoded, .cons (sample.transcribedAs_entry _) .nil⟩

theorem frontEnds_agree_sample :
    ∃ scanned transcribed, scanSource .sqlite .standard none sampleText = .ok scanned ∧
      scanSnapshot .sqlite sampleDocument = .ok transcribed ∧
      scanned.unplaced = transcribed.unplaced ∧
      ∀ processor, Processor.make .sqlite .standard = .ok processor →
        Relabelling.unplaced.outcome (processor.process scanned) =
          Relabelling.unplaced.outcome (processor.process transcribed) := by
  have below : Config.standard.moduleSegments = [Identifier.plain "crate"].map (·.text) := by
    decide +kernel
  have inPath : ∀ name ∈ [Identifier.plain "crate"], name.InPath := by
    intro name member
    rw [List.mem_singleton.mp member]
    exact ⟨⟨by decide +kernel, by decide⟩, .inr ⟨rfl, by decide⟩⟩
  obtain ⟨scanned, built, found, decoded, same, alike⟩ :=
    (frontEnds_agree below inPath).2.2 none _ _ sourceHolds_sample snapshotHolds_sample
  refine ⟨scanned, built, found, decoded, same, fun processor made => alike processor ?_⟩
  obtain ⟨_, _, rfl⟩ := Processor.make_eq_ok.mp made
  exact Column.classify_unplaced

end FrontEnds

end StorageMapping
