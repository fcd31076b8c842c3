import StorageMapping.Proofs.Results
import StorageMapping.Proofs.Source.Words
import StorageMapping.Proofs.Unit.FileNames

namespace StorageMapping

/-! # Names in generated code

Code can be generated for a type exactly where its name and the segments of its module path can be
written. A name that stood in a text always can. -/

open Source Results

namespace Naming

/-- A text that can stand as a segment of a path: one of the words of paths, what reads as an
identifier, or a word that can be written raw. -/
def Expressible (segment : String) : Prop :=
  segment ∈ pathWords ∨ (∃ name, Reader.identifier segment = .ok name) ∨ Nameable segment

theorem Nameable.expressible {text : String} (nameable : Nameable text) : Expressible text :=
  .inr (.inr nameable)

theorem nameable_iff {text : String} :
    Nameable text ↔ (isWord text && !neverRaw.contains text) = true := by
  simp only [Bool.and_eq_true, Bool.not_eq_true', List.contains_eq_mem, decide_eq_false_iff_not]
  exact ⟨fun nameable => ⟨nameable.word, nameable.allowed⟩, fun ⟨word, allowed⟩ => ⟨word, allowed⟩⟩

theorem pathName_cases (segment : String) :
    (Expressible segment ∧ ∃ name, pathName segment = .ok name) ∨
      (¬ Expressible segment ∧ pathName segment = .error ⟨segment⟩) := by
  rw [pathName]
  by_cases inPaths : pathWords.contains segment = true
  · rw [if_pos inPaths]
    exact .inl ⟨.inl (by simpa using inPaths), _, rfl⟩
  rw [if_neg inPaths]
  cases read : Reader.identifier segment with
  | ok name => exact .inl ⟨.inr (.inl ⟨name, read⟩), name, rfl⟩
  | error fault =>
      by_cases nameable : (isWord segment && !neverRaw.contains segment) = true
      · simp only [if_pos nameable]
        exact .inl ⟨(nameable_iff.mpr nameable).expressible, _, rfl⟩
      · simp only [if_neg nameable]
        refine .inr ⟨?_, rfl⟩
        rintro (member | ⟨name, same⟩ | written)
        · exact inPaths (by simpa using member)
        · cases read.symm.trans same
        · exact nameable (nameable_iff.mp written)

theorem hostPath_of_hostNames {model : TypeModel} {names : List Identifier}
    (written : hostNames model = .ok names) : hostPath model = .ok (pathTokens names) := by
  rw [hostPath, written]
  rfl

/-- A path with a segment that cannot be written is not written. -/
theorem expressible_of_hostNames {model : TypeModel} {names : List Identifier}
    (written : hostNames model = .ok names) :
    ∀ segment ∈ model.modulePath, Expressible segment := by
  intro segment member
  obtain ⟨name, _, same⟩ := exists_of_mapM_eq_ok written (List.mem_append_left _ member)
  rcases pathName_cases segment with ⟨able, _⟩ | ⟨_, failed⟩
  · exact able
  · cases same.symm.trans failed

theorem illegal_of_hostNames {model : TypeModel} {name : IllegalName}
    (named : Nameable model.name) (failed : hostNames model = .error name) :
    name.text ∈ model.modulePath ∧ ¬ Expressible name.text := by
  obtain ⟨segment, member, failed⟩ := mem_of_mapM_eq_error failed
  rcases pathName_cases segment with ⟨_, _, written⟩ | ⟨inexpressible, same⟩
  · cases failed.symm.trans written
  · cases failed.symm.trans same
    refine ⟨?_, inexpressible⟩
    rcases List.mem_append.mp member with inPath | last
    · exact inPath
    · exact absurd named.expressible (List.mem_singleton.mp last ▸ inexpressible)

/-! ## Names of units -/

theorem isWord_append {text suffix : String} (word : isWord text = true)
    (letters : suffix.toList.all Text.isIdentifierContinue = true) :
    isWord (text ++ suffix) = true := by
  rw [isWord, String.toList_append]
  rw [isWord] at word
  cases held : text.toList with
  | nil => simp [held] at word
  | cons c rest =>
      simp only [held, Bool.and_eq_true] at word
      simp [word.1, word.2, letters]

theorem bareName_of_isWord {text : String} (word : isWord text = true) : bareName text = text := by
  have unmarked : '#' ∉ text.toList := mark_notMem_of_isWord word (by decide +kernel)
  rw [bareName]
  split
  · rename_i rest held
    exact absurd (by simp [held]) unmarked
  · rfl

end Naming

open Naming

theorem Backend.unitLetters {backend : Backend} (offered : backend ∈ Backend.all) :
    (∀ kind : UnitKind, (backend.naming.resolverPart ++ kind.text ++ "Resolver").toList.all
        Text.isIdentifierContinue = true) ∧
      (backend.naming.mappingPart ++ "TypeMapping").toList.all Text.isIdentifierContinue =
        true := by
  simp only [Backend.all, List.mem_cons, List.not_mem_nil, or_false] at offered
  rcases offered with rfl | rfl
  · exact ⟨fun kind => by cases kind <;> decide +kernel, by decide +kernel⟩
  · exact ⟨fun kind => by cases kind <;> decide +kernel, by decide +kernel⟩

theorem UnitNaming.unitIdentifier_ok {backend : Backend} (offered : backend ∈ Backend.all)
    {typeName : String} (named : Nameable typeName) (kind : UnitKind) :
    ∃ name, backend.naming.unitIdentifier typeName kind = .ok name := by
  obtain ⟨resolver, mapping⟩ := Backend.unitLetters offered
  have word : isWord (backend.naming.unitName typeName kind) = true := by
    cases kind <;>
      simp only [unitName, bareName_of_isWord named.word, String.append_assoc] at resolver ⊢
    · exact isWord_append named.word (by simpa only [String.append_assoc] using resolver .put)
    · exact isWord_append named.word (by simpa only [String.append_assoc] using resolver .get)
    · exact isWord_append named.word (by simpa only [String.append_assoc] using resolver .delete)
    · exact isWord_append named.word mapping
  exact ⟨_, if_pos word⟩

namespace Generator

variable {backend : Backend} {context : GenerationContext} {model : TypeModel}

theorem tokens_of_hostNames (offered : backend ∈ Backend.all) (named : Nameable model.name)
    {names : List Identifier} (written : hostNames model = .ok names) (kind : UnitKind) :
    ∃ found, tokens ⟨backend, kind⟩ context model = .ok found := by
  obtain ⟨put, putNamed⟩ := UnitNaming.unitIdentifier_ok offered named .put
  obtain ⟨get, getNamed⟩ := UnitNaming.unitIdentifier_ok offered named .get
  obtain ⟨delete, deleteNamed⟩ := UnitNaming.unitIdentifier_ok offered named .delete
  obtain ⟨mapping, mappingNamed⟩ := UnitNaming.unitIdentifier_ok offered named .mapping
  cases kind <;>
    simp only [tokens, hostPath, written, putNamed, getNamed, deleteNamed, mappingNamed] <;>
    exact ⟨_, rfl⟩

/-- The name of a type and those of its units are legal, so only the path of its modules can keep
generated code from being written. -/
theorem hostNames_eq_error (offered : backend ∈ Backend.all) (named : Nameable model.name)
    {kind : UnitKind} {name : IllegalName}
    (failed : tokens ⟨backend, kind⟩ context model = .error name) :
    hostNames model = .error name := by
  cases hosted : hostNames model with
  | ok names =>
      obtain ⟨found, written⟩ := tokens_of_hostNames offered named hosted kind
      cases failed.symm.trans written
  | error illegal =>
      rw [tokens, hostPath, hosted] at failed
      cases failed
      rfl

theorem hostNames_of_tokens {generator : Generator} {tokens : Fragment}
    (written : generator.tokens context model = .ok tokens) :
    ∃ names, hostNames model = .ok names := by
  obtain ⟨host, hosted, _⟩ := bind_eq_ok.mp written
  rw [hostPath] at hosted
  cases found : hostNames model with
  | ok names => exact ⟨names, rfl⟩
  | error illegal =>
      rw [found] at hosted
      contradiction

end Generator

end StorageMapping
