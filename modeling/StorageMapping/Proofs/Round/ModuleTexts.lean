import StorageMapping.Proofs.Processing.Configured
import StorageMapping.Proofs.Processing.SnapshotNames
import StorageMapping.Proofs.Round.Structs
import StorageMapping.Proofs.Source.Spelling
import StorageMapping.Proofs.Source.Words

namespace StorageMapping

/-! # Modules given as texts

A configuration and a snapshot name modules by the same kind of text, and both fall into the same
segments. A snapshot reads each segment as a name, while a configuration takes it as it stands. So
the two agree on segments that are words. -/

open Source Results

/-! ## Qualified names -/

theorem Text.qualify_cons (first : String) (rest : List String) (name : String) :
    qualify (first :: rest) name = first ++ "::" ++ qualify rest name := by
  rw [← List.singleton_append, qualify_append]
  simp [qualify]

/-- Where every segment of one path is a part of the segment of another, the paths are told by the
qualified names. -/
theorem Text.qualify_parts {path inner : List String} {name : String}
    (parts : List.Forall₂ (fun segment part => part.toList <:+: segment.toList) path inner) :
    (qualify inner name).length ≤ (qualify path name).length ∧
      ((qualify inner name).length = (qualify path name).length → path = inner) := by
  induction parts with
  | nil => exact ⟨Nat.le_refl _, fun _ => rfl⟩
  | @cons segment part path inner here _ ih =>
      have shorter : part.length ≤ segment.length := here.length_le
      simp only [qualify_cons, String.length_append]
      refine ⟨by omega, fun same => ?_⟩
      have whole : part = segment :=
        String.toList_injective (here.eq_of_length (by change part.length = segment.length; omega))
      rw [whole, ih.2 (by omega)]

namespace Snapshot

variable {location : Location} {written segment : String}

/-- The word that a snapshot reads for a segment of a module. -/
def ReadsAs (written segment : String) : Prop :=
  written ∈ moduleWords ∧ segment = written ∨
    ∃ name, Reader.identifier written = .ok name ∧ segment = name.text

theorem moduleSegment_readsAs (read : moduleSegment location written = .ok segment) :
    ReadsAs written segment := by
  rw [moduleSegment] at read
  split at read
  · rename_i word
    cases read
    exact .inl ⟨by simpa using word, rfl⟩
  · rw [declaredName, map_eq_pure_bind] at read
    obtain ⟨name, identified, same⟩ := bind_eq_ok.mp read
    cases same
    exact .inr ⟨name, parsed_eq_ok.mp identified, rfl⟩

theorem ReadsAs.isInfix (reads : ReadsAs written segment) :
    segment.toList <:+: written.toList := by
  rcases reads with ⟨_, rfl⟩ | ⟨name, identified, rfl⟩
  · exact List.infix_rfl
  · exact Reader.identifier_infix identified

/-- A segment is kept as it stands just where it is a word. -/
theorem ReadsAs.eq_iff (reads : ReadsAs written segment) :
    written = segment ↔ Naming.isWord written = true := by
  have words : ∀ word ∈ moduleWords, Naming.isWord word = true := by decide +kernel
  rcases reads with ⟨member, rfl⟩ | ⟨name, identified, rfl⟩
  · exact iff_of_true rfl (words _ member)
  · constructor
    · intro same
      rw [same]
      exact (Reader.identifier_nameable identified).word
    · intro word
      rw [Reader.identifier_eq_plain word identified]
      rfl

/-- The paths are the same just where all segments are words. -/
theorem readsAs_eq_iff {path inner : List String} (reads : List.Forall₂ ReadsAs path inner) :
    path = inner ↔ ∀ segment ∈ path, Naming.isWord segment = true := by
  induction reads with
  | nil => simp
  | cons here _ ih => rw [List.cons.injEq, List.forall_mem_cons, ih, here.eq_iff]

theorem qualify_eq_iff {path inner : List String} {name : String}
    (reads : List.Forall₂ ReadsAs path inner) :
    Text.qualify path name = Text.qualify inner name ↔
      ∀ segment ∈ path, Naming.isWord segment = true := by
  rw [← readsAs_eq_iff reads]
  constructor
  · intro same
    have parts := reads.imp fun _ _ here => here.isInfix
    exact (Text.qualify_parts parts).2 (congrArg String.length same).symm
  · rintro rfl
    rfl

theorem entriesRound_mem {markers : MarkerSet} {entries : List Entry} {entry : Entry}
    {round : Round} (member : entry ∈ entries) (read : entriesRound markers entries = .ok round) :
    ∃ part, entryRound markers entry = .ok part ∧ part.IsPart round := by
  obtain ⟨before, behind, rfl⟩ := List.append_of_mem member
  rw [entriesRound_append, entriesRound_cons] at read
  obtain ⟨front, _, _, behind, rfl⟩ := Round.joined_eq_ok.mp read
  obtain ⟨part, back, here, _, rfl⟩ := Round.joined_eq_ok.mp behind
  exact ⟨part, here, front, back, (Round.extend_assoc front part back).symm⟩

/-- The round of a declaration with a marker. -/
theorem entryRound_marked {markers : MarkerSet} {entry : Entry} {round : Round}
    (marked : entry.marker.isSome = true) (read : entryRound markers entry = .ok round) :
    ∃ declaration name, round.declarations = [declaration] ∧
      Reader.identifier entry.name = .ok name ∧ declaration.name = name.text ∧
      List.Forall₂ ReadsAs (Text.moduleSegments entry.module) declaration.modulePath := by
  obtain ⟨entries, held⟩ := Option.isSome_iff_exists.mp marked
  rw [entryRound_eq] at read
  obtain ⟨path, segments, read⟩ := bind_eq_ok.mp read
  obtain ⟨name, named, read⟩ := bind_eq_ok.mp read
  rw [declaredName, map_eq_pure_bind] at named
  obtain ⟨identifier, identified, same⟩ := bind_eq_ok.mp named
  cases same
  simp only [held] at read
  obtain ⟨marker, present, read⟩ := bind_eq_ok.mp read
  rw [map_eq_pure_bind] at present
  obtain ⟨locators, _, same⟩ := bind_eq_ok.mp present
  cases same
  obtain ⟨columns, _, same⟩ := bind_eq_ok.mp read
  cases same
  rw [Round.single, if_neg (by simp)]
  refine ⟨_, identifier, rfl, parsed_eq_ok.mp identified, rfl, ?_⟩
  exact (mapM_eq_ok.mp segments).imp fun _ _ => moduleSegment_readsAs

end Snapshot

/-- The round of a struct with a marker, wherever it stands. -/
theorem Discovery.ofDefinition_marked {scope : Scope} {path : List String} {round : Round}
    {data : DataItem} (marked : scope.markers.marksStruct data = true)
    (scanned : ofDefinition scope path data = .ok round) :
    ∃ declaration, round.declarations = [declaration] ∧ declaration.name = data.name.text ∧
      declaration.modulePath = path := by
  obtain ⟨marker, columns, read, _, rfl⟩ := record_eq_ok.mp scanned
  have present := typeMarker_isSome read
  rw [(Bool.and_eq_true_iff.mp marked).2] at present
  obtain ⟨locators, rfl⟩ := Option.isSome_iff_exists.mp present
  rw [Round.single, if_neg (by simp)]
  exact ⟨_, rfl, rfl, rfl⟩

/-- A declaration that a round has from one of the readings that it is made of. -/
def Declaration.StemsFrom (declaration : Declaration) (round : Round)
    (read : Except Diagnostic Round) : Prop :=
  ∃ part, read = .ok part ∧ part.declarations = [declaration] ∧ part.IsPart round

theorem Declaration.StemsFrom.mem {declaration : Declaration} {round : Round}
    {read : Except Diagnostic Round} (stems : declaration.StemsFrom round read) :
    declaration ∈ round.declarations := by
  obtain ⟨part, _, alone, isPart⟩ := stems
  exact isPart.declarations (alone ▸ List.mem_singleton_self declaration)

/-- Two ways to give a module. A struct is scanned with a module from the configuration, and read
from a snapshot that gives the same module. The scan puts the segments of the module in front of the
struct as they stand, and the snapshot the names that they are read as. So there is one module path
and one qualified name just where all segments are words: no segment is raw, and none has a comment
beside its word. -/
theorem moduleText_agree {backend : Backend} {config : Config} {file : Option String}
    {text document : String} {items : List Item} {data : DataItem} {snapshot : Snapshot}
    {entry : Snapshot.Entry} {transcribed : Round}
    (parsed : Reader.file text = .ok items) (inText : .data data ∈ items)
    (isMarked : backend.markers.marksStruct data = true)
    (scannable : ∃ round, Discovery.ofItems ⟨backend.markers, file⟩ [] items = .ok round)
    (decoded : Snapshot.ofText document = .ok snapshot) (inDocument : entry ∈ snapshot.declarations)
    (named : Reader.identifier entry.name = .ok data.name)
    (carries : entry.marker.isSome = true) (inModule : entry.module = config.modulePath)
    (accepted : scanSnapshot backend document = .ok transcribed) :
    ∃ (scanned : Round) (first second : Declaration),
      scanSource backend config file text = .ok scanned ∧
      first.StemsFrom scanned
        (Discovery.ofDefinition ⟨backend.markers, file⟩ config.moduleSegments data) ∧
      second.StemsFrom transcribed (Snapshot.entryRound backend.markers entry) ∧
      first.name = second.name ∧ first.modulePath = config.moduleSegments ∧
      List.Forall₂ Snapshot.ReadsAs first.modulePath second.modulePath ∧
      (first.modulePath = second.modulePath ↔
        ∀ segment ∈ config.moduleSegments, Naming.isWord segment = true) ∧
      (first.qualifiedName = second.qualifiedName ↔
        ∀ segment ∈ config.moduleSegments, Naming.isWord segment = true) := by
  obtain ⟨bare, found⟩ := scannable
  have placed : Discovery.ofItems ⟨backend.markers, file⟩ (config.moduleSegments ++ []) items =
      .ok ((Relabelling.below config.moduleSegments).round bare) :=
    Discovery.ofItems_below items found
  rw [List.append_nil] at placed
  obtain ⟨part, here, isPart⟩ := Discovery.ofItems_mem inText placed
  rw [Discovery.ofItem] at here
  obtain ⟨first, alone, firstName, firstPath⟩ := Discovery.ofDefinition_marked isMarked here
  have scanned : scanSource backend config file text =
      .ok ((Relabelling.below config.moduleSegments).round bare) := by
    rw [scanSource, parsed]
    change Failure.during .diagnostic (Discovery.ofItems _ _ items) = _
    rw [placed]
    rfl
  rw [scanSnapshot, decoded] at accepted
  obtain ⟨other, read, isOther⟩ :=
    Snapshot.entriesRound_mem inDocument (mapError_eq_ok.mp accepted)
  obtain ⟨second, name, only, identified, secondName, reads⟩ :=
    Snapshot.entryRound_marked carries read
  cases named.symm.trans identified
  rw [inModule] at reads
  change List.Forall₂ _ config.moduleSegments _ at reads
  refine ⟨_, first, second, scanned, ⟨part, here, alone, isPart⟩, ⟨other, read, only, isOther⟩,
    firstName.trans secondName.symm, firstPath, ?_, ?_, ?_⟩
  · exact firstPath ▸ reads
  · rw [firstPath]
    exact Snapshot.readsAs_eq_iff reads
  · rw [Declaration.qualifiedName, Declaration.qualifiedName, firstPath, firstName, secondName]
    exact Snapshot.qualify_eq_iff reads

/-! ## Two modules -/

/-- The text of a snapshot whose one struct stands in a module. -/
def placedDocument (module : String) : String :=
  "[[declaration]]\nname=\"T\"\nmodule=\"" ++ module ++
    "\"\n[declaration.type_marker]\ntable=\"t\"\n"

def placedEntry (module : String) : Snapshot.Entry :=
  ⟨"T", module, .struct, some [("table", "t")], []⟩

/-- Is this a struct with the type marker that can be scanned? -/
def isPlacedStruct : List Item → Bool
  | [.data data] => Backend.sqlite.markers.marksStruct data && data.name == .plain "T" &&
      (Discovery.ofItems ⟨Backend.sqlite.markers, none⟩ [] [.data data]).toOption.isSome
  | _ => false

theorem struct_of_isPlacedStruct {items : List Item} (checked : isPlacedStruct items = true) :
    ∃ data, items = [.data data] ∧ Backend.sqlite.markers.marksStruct data = true ∧
      data.name = .plain "T" ∧
      ∃ round, Discovery.ofItems ⟨Backend.sqlite.markers, none⟩ [] items = .ok round := by
  match items, checked with
  | [.data data], checked =>
      simp only [isPlacedStruct, Bool.and_eq_true, beq_iff_eq] at checked
      obtain ⟨round, scanned⟩ := Option.isSome_iff_exists.mp checked.2
      exact ⟨data, rfl, checked.1.1, checked.1.2, round, toOption_eq_some.mp scanned⟩

/-- Blanks around the segments and colons without a segment make no difference. -/
theorem moduleText_agree_spaced :
    ∃ scanned transcribed first second,
      scanSource .sqlite ⟨none, true, " crate::::a :: b"⟩ none Backend.sqlite.leastText =
        .ok scanned ∧
      scanSnapshot .sqlite (placedDocument " crate::::a :: b") = .ok transcribed ∧
      first ∈ scanned.declarations ∧ second ∈ transcribed.declarations ∧
      first.modulePath = ["crate", "a", "b"] ∧ second.modulePath = ["crate", "a", "b"] ∧
      first.qualifiedName = second.qualifiedName := by
  have struct : (Reader.file Backend.sqlite.leastText).toOption.any isPlacedStruct = true := by
    decide +kernel
  have decoded : (Snapshot.ofText (placedDocument " crate::::a :: b")).toOption =
      some ⟨[placedEntry " crate::::a :: b"]⟩ := by
    decide +kernel
  have accepted :
      (scanSnapshot .sqlite (placedDocument " crate::::a :: b")).toOption.isSome = true := by
    decide +kernel
  have identified : (Reader.identifier "T").toOption = some (.plain "T") := by decide +kernel
  have segments : Config.moduleSegments ⟨none, true, " crate::::a :: b"⟩ = ["crate", "a", "b"] := by
    decide +kernel
  have words : ∀ segment ∈ ["crate", "a", "b"], Naming.isWord segment = true := by decide +kernel
  obtain ⟨items, parsed, struct⟩ := exists_of_any struct
  obtain ⟨data, held, isMarked, name, scannable⟩ := struct_of_isPlacedStruct struct
  obtain ⟨transcribed, accepted⟩ := Option.isSome_iff_exists.mp accepted
  rw [toOption_eq_some] at decoded accepted identified
  have inModule : (placedEntry " crate::::a :: b").module =
      Config.modulePath ⟨none, true, " crate::::a :: b"⟩ := rfl
  have inText : .data data ∈ items := held ▸ List.mem_singleton_self _
  obtain ⟨scanned, first, second, found, stems, stemsToo, _, path, _, same, qualified⟩ :=
    moduleText_agree parsed inText isMarked scannable decoded (List.mem_singleton_self _)
      (name ▸ identified) rfl inModule accepted
  rw [segments] at path same qualified
  exact ⟨scanned, transcribed, first, second, found, accepted, stems.mem, stemsToo.mem, path,
    (same.mpr words).symm.trans path, qualified.mpr words⟩

/-- A raw segment is kept with its mark by a configuration, and without it by a snapshot. -/
theorem moduleText_raw :
    ∃ scanned transcribed first second,
      scanSource .sqlite ⟨none, true, "crate::r#type"⟩ none Backend.sqlite.leastText =
        .ok scanned ∧
      scanSnapshot .sqlite (placedDocument "crate::r#type") = .ok transcribed ∧
      scanned.declarations = [first] ∧ transcribed.declarations = [second] ∧
      first.modulePath = ["crate", "r#type"] ∧ second.modulePath = ["crate", "type"] ∧
      first.qualifiedName = "crate::r#type::T" ∧ second.qualifiedName = "crate::type::T" := by
  have paths : (scanSource .sqlite ⟨none, true, "crate::r#type"⟩ none
      Backend.sqlite.leastText).toOption.any (fun round => round.declarations.map (fun found =>
        (found.modulePath, found.qualifiedName)) ==
          [(["crate", "r#type"], "crate::r#type::T")]) = true := by
    decide +kernel
  have others : (scanSnapshot .sqlite (placedDocument "crate::r#type")).toOption.any (fun round =>
      round.declarations.map (fun found => (found.modulePath, found.qualifiedName)) ==
        [(["crate", "type"], "crate::type::T")]) = true := by
    decide +kernel
  obtain ⟨scanned, found, paths⟩ := exists_of_any paths
  obtain ⟨transcribed, read, others⟩ := exists_of_any others
  obtain ⟨first, alone, same⟩ := List.map_eq_singleton_iff.mp (eq_of_beq paths)
  obtain ⟨second, only, sameToo⟩ := List.map_eq_singleton_iff.mp (eq_of_beq others)
  obtain ⟨firstPath, firstName⟩ := Prod.mk.inj same
  obtain ⟨secondPath, secondName⟩ := Prod.mk.inj sameToo
  exact ⟨scanned, transcribed, first, second, found, read, alone, only, firstPath, secondPath,
    firstName, secondName⟩

end StorageMapping
