import StorageMapping.Proofs.Results
import StorageMapping.Run

namespace StorageMapping

/-! # Runs under a configuration

The configuration of a run is read before its round is processed: without a runtime module there is
no processor. -/

open Results

variable {backend : Backend} {config : Config} {round : Round}

/-- A backend's own processor has its strategies and classifies types by itself. -/
theorem Processor.make_eq_ok {processor : Processor} :
    Processor.make backend config = .ok processor ↔
      ∃ runtime, config.runtimePathOr backend.defaultRuntime = .ok runtime ∧
        processor =
          ⟨backend, Column.classify, backend.generators, ⟨runtime, config.documented⟩⟩ := by
  rw [make, Failure.during, mapError_eq_ok, ofConfig, bind_eq_ok]
  refine exists_congr fun runtime => and_congr_right fun _ => ?_
  exact ⟨fun made => (Except.ok.inj made).symm, fun same => congrArg Except.ok same.symm⟩

theorem processRound_eq_ok {output : Output} :
    processRound backend config round = .ok output ↔
      ∃ processor, Processor.make backend config = .ok processor ∧
        processor.process round = .ok output := by
  rw [processRound, bind_eq_ok]
  exact exists_congr fun processor => and_congr_right fun _ => mapError_eq_ok

theorem processSource_eq_ok {file : Option String} {text : String} {output : Output} :
    processSource backend config file text = .ok output ↔
      ∃ items round processor, Source.Reader.file text = .ok items ∧
        Discovery.ofItems ⟨backend.markers, file⟩ config.moduleSegments items = .ok round ∧
        Processor.make backend config = .ok processor ∧ processor.process round = .ok output := by
  rw [processSource, bind_eq_ok]
  constructor
  · rintro ⟨round, scanned, completed⟩
    obtain ⟨items, parsed, scanned⟩ := bind_eq_ok.mp scanned
    obtain ⟨processor, made, completed⟩ := processRound_eq_ok.mp completed
    exact ⟨items, round, processor, mapError_eq_ok.mp parsed, mapError_eq_ok.mp scanned, made,
      completed⟩
  · rintro ⟨items, round, processor, parsed, scanned, made, completed⟩
    have read : scanSource backend config file text = .ok round :=
      bind_eq_ok.mpr ⟨items, mapError_eq_ok.mpr parsed, mapError_eq_ok.mpr scanned⟩
    exact ⟨round, read, processRound_eq_ok.mpr ⟨processor, made, completed⟩⟩

theorem processRound_eq_illegal {name : IllegalName} :
    processRound backend config round = .error (.illegalName name) ↔
      ∃ processor, Processor.make backend config = .ok processor ∧
        processor.process round = .error (.illegalName name) := by
  rw [processRound, bind_eq_error]
  constructor
  · rintro (unmade | ⟨processor, made, failed⟩)
    · obtain ⟨_, _, same⟩ := mapError_eq_error.mp unmade
      cases same
    · obtain ⟨failure, failed, same⟩ := mapError_eq_error.mp failed
      cases failure with
      | diagnostic fault => cases same
      | illegalName illegal =>
          cases same
          exact ⟨processor, made, failed⟩
  · rintro ⟨processor, made, failed⟩
    exact .inr ⟨processor, made, mapError_eq_error.mpr ⟨_, failed, rfl⟩⟩

end StorageMapping
