import StorageMapping.Proofs.Processing.Legality

namespace StorageMapping

/-! # Names in snapshots

A snapshot is checked where it is read: its names and the segments of its module paths are names of
the language. So code can be generated for whatever a snapshot maps, under every configuration. -/

open Source Naming Results

namespace Snapshot

/-- What can stand in the module path of a snapshot. -/
def IsSegment (segment : String) : Prop := segment ∈ moduleWords ∨ Nameable segment

theorem IsSegment.expressible {segment : String} (isSegment : IsSegment segment) :
    Expressible segment := by
  rcases isSegment with word | nameable
  · have wider : ∀ word ∈ moduleWords, word ∈ pathWords := by decide
    exact .inl (wider segment word)
  · exact nameable.expressible

variable {location : Location} {text found : String} {markers : MarkerSet}

theorem declaredName_nameable (read : declaredName location text = .ok found) :
    Nameable found := by
  rw [declaredName, map_eq_pure_bind] at read
  obtain ⟨name, identified, same⟩ := bind_eq_ok.mp read
  cases same
  exact Reader.identifier_nameable (parsed_eq_ok.mp identified)

theorem moduleSegment_isSegment (read : moduleSegment location text = .ok found) :
    IsSegment found := by
  rw [moduleSegment] at read
  split at read
  · rename_i word
    cases read
    exact .inl (by simpa using word)
  · exact .inr (declaredName_nameable read)

end Snapshot

/-- A declaration whose names are as a snapshot can hold them. -/
structure Declaration.InSnapshot (declaration : Declaration) : Prop where
  named : Nameable declaration.name
  below : ∀ segment ∈ declaration.modulePath, Snapshot.IsSegment segment

namespace Snapshot

variable {markers : MarkerSet} {round : Round}

theorem entryRound_inSnapshot {entry : Entry} (read : entryRound markers entry = .ok round) :
    ∀ declaration ∈ round.declarations, declaration.InSnapshot := by
  obtain ⟨_, modulePath, name, _, _, segments, named, _, rfl⟩ := entryRound_eq_ok read
  intro declaration member
  cases Round.mem_single member
  refine ⟨declaredName_nameable named, fun segment inPath => ?_⟩
  obtain ⟨_, _, checked⟩ := mem_of_mapM_eq_ok segments inPath
  exact moduleSegment_isSegment checked

theorem entriesRound_inSnapshot {entries : List Entry}
    (read : entriesRound markers entries = .ok round) :
    ∀ declaration ∈ round.declarations, declaration.InSnapshot := by
  refine entriesRound_holds (fun _ member => absurd member List.not_mem_nil) ?_
    entryRound_inSnapshot read
  intro front back first second
  exact List.forall_mem_append.mpr ⟨first, second⟩

end Snapshot

namespace Naming

theorem pathName_of_expressible {segment : String} (expressible : Expressible segment) :
    ∃ name, pathName segment = .ok name := by
  rcases pathName_cases segment with ⟨_, written⟩ | ⟨inexpressible, _⟩
  · exact written
  · exact absurd expressible inexpressible

theorem hostNames_of_expressible {model : TypeModel} (named : Nameable model.name)
    (below : ∀ segment ∈ model.modulePath, Expressible segment) :
    ∃ names, hostNames model = .ok names := by
  rcases exists_ok_or_error (hostNames model) with written | ⟨name, failed⟩
  · exact written
  · obtain ⟨member, inexpressible⟩ := illegal_of_hostNames named failed
    exact absurd (below _ member) inexpressible

end Naming

variable {backend : Backend} {config : Config}

/-- A round of names that code can contain leads to no illegal name. -/
theorem processRound_legal {round : Round} (offered : backend ∈ Backend.all)
    (named : ∀ declaration ∈ round.declarations, Nameable declaration.name ∧
      ∀ segment ∈ declaration.modulePath, Expressible segment) (name : IllegalName) :
    processRound backend config round ≠ .error (.illegalName name) := by
  intro failed
  obtain ⟨processor, made, failed⟩ := processRound_eq_illegal.mp failed
  obtain ⟨_, _, rfl⟩ := Processor.make_eq_ok.mp made
  obtain ⟨_, entry, marked, generator, generatorMember, unwritten⟩ :=
    Processor.illegal_of_process failed
  obtain ⟨kind, _, rfl⟩ := List.mem_map.mp generatorMember
  obtain ⟨nameable, below⟩ := named entry.2 (List.mem_of_getElem? (Round.mem_marked.mp marked).1)
  have unhosted := Generator.hostNames_eq_error offered nameable unwritten
  have hosted : ∃ names, hostNames
      (Processing.modelWith (Processing.carried Column.classify round.columns) entry) = .ok names :=
    hostNames_of_expressible nameable below
  obtain ⟨names, hosted⟩ := hosted
  cases unhosted.symm.trans hosted

theorem decodeDocument_ne_illegal {α : Type} {decoder : Document.Decoder α} {text : String}
    {name : IllegalName} : decodeDocument decoder text ≠ .error (.illegalName name) := by
  unfold decodeDocument
  generalize Document.read text = found
  intro failed
  cases found with
  | none => cases failed
  | some entries =>
      obtain ⟨_, _, same⟩ := mapError_eq_error.mp failed
      cases same

theorem processSnapshot_eq_illegal {text : String} {name : IllegalName}
    (failed : processSnapshot backend config text = .error (.illegalName name)) :
    ∃ (snapshot : Snapshot) (round : Round), snapshot.toRound backend.markers = .ok round ∧
      processRound backend config round = .error (.illegalName name) := by
  rw [processSnapshot] at failed
  rcases bind_eq_error.mp failed with unscanned | ⟨round, scanned, failed⟩
  · rcases bind_eq_error.mp unscanned with undecoded | ⟨snapshot, _, unread⟩
    · exact absurd undecoded decodeDocument_ne_illegal
    · obtain ⟨_, _, same⟩ := mapError_eq_error.mp unread
      cases same
  · obtain ⟨snapshot, _, read⟩ := bind_eq_ok.mp scanned
    exact ⟨snapshot, round, mapError_eq_ok.mp read, failed⟩

/-- No text of a snapshot leads to an illegal name, whatever the configuration: the names of its
round are names that can be written, raw where need be, and for such names generated code finds the
path of the type, its own identifier and those of all units. -/
theorem processSnapshot_legal (offered : backend ∈ Backend.all) (config : Config) :
    (∀ text name, processSnapshot backend config text ≠ .error (.illegalName name)) ∧
      (∀ (snapshot : Snapshot) round, snapshot.toRound backend.markers = .ok round →
        ∀ declaration ∈ round.declarations, Nameable declaration.name ∧
          ∀ segment ∈ declaration.modulePath,
            segment ∈ ["crate", "self", "super"] ∨ Nameable segment) ∧
      ∀ model : TypeModel, Nameable model.name →
        (∀ segment ∈ model.modulePath, segment ∈ ["crate", "self", "super"] ∨ Nameable segment) →
        (∃ path, hostPath model = .ok path) ∧ (∃ name, pathName model.name = .ok name) ∧
          ∀ kind, ∃ name, backend.naming.unitIdentifier model.name kind = .ok name := by
  refine ⟨fun text name failed => ?_, fun snapshot round read declaration member => ?_,
    fun model named below => ⟨?_, ?_, fun kind => ?_⟩⟩
  · obtain ⟨snapshot, round, read, failed⟩ := processSnapshot_eq_illegal failed
    have named := Snapshot.entriesRound_inSnapshot read
    refine processRound_legal offered (fun declaration member => ?_) name failed
    obtain ⟨nameable, below⟩ := named declaration member
    exact ⟨nameable, fun segment inPath => (below segment inPath).expressible⟩
  · obtain ⟨nameable, below⟩ := Snapshot.entriesRound_inSnapshot read declaration member
    exact ⟨nameable, below⟩
  · obtain ⟨names, hosted⟩ := hostNames_of_expressible named fun segment inPath =>
      (show Snapshot.IsSegment segment from below segment inPath).expressible
    exact ⟨pathTokens names, by rw [hostPath, hosted]; rfl⟩
  · exact pathName_of_expressible named.expressible
  · exact UnitNaming.unitIdentifier_ok offered named kind

theorem processSnapshot_legal_keyword :
    Backend.sqlite ∈ Backend.all ∧ Nameable "type" ∧
      (∃ path, hostPath ⟨"type", ["crate", "match"], .empty, [], .detached ""⟩ = .ok path) ∧
      ∀ text name, processSnapshot .sqlite .standard text ≠ .error (.illegalName name) := by
  have offered : Backend.sqlite ∈ Backend.all := by decide
  obtain ⟨legal, _, written⟩ := processSnapshot_legal offered .standard
  have type : Nameable "type" := ⟨by decide, by decide⟩
  have segment : Nameable "match" := ⟨by decide, by decide⟩
  have below : ∀ segment ∈ ["crate", "match"],
      segment ∈ ["crate", "self", "super"] ∨ Nameable segment := by
    intro segment member
    simp only [List.mem_cons, List.not_mem_nil, or_false] at member
    rcases member with rfl | rfl
    · exact .inl (by decide)
    · exact .inr ‹_›
  exact ⟨offered, type,
    (written ⟨"type", ["crate", "match"], .empty, [], .detached ""⟩ type below).1, legal⟩

end StorageMapping
