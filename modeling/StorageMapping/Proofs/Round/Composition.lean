import StorageMapping.Proofs.Round.Numbering
import StorageMapping.Proofs.Source.Traces
import StorageMapping.Round.Discovery
import StorageMapping.Round.Snapshot

namespace StorageMapping

/-! # Rounds of several parts

A text, a module or a snapshot is read part by part. Its round is that of its parts one behind the
other, and the first part with a fault decides. -/

open Source

namespace Round

/-- What two parts give, read one after the other. -/
def joined (front back : Except Diagnostic Round) : Except Diagnostic Round :=
  match front, back with
  | .error fault, _ => .error fault
  | .ok _, .error fault => .error fault
  | .ok front, .ok back => .ok (front.extend back)

theorem joined_eq_ok {front back : Except Diagnostic Round} {round : Round} :
    joined front back = .ok round ↔
      ∃ first second, front = .ok first ∧ back = .ok second ∧ first.extend second = round := by
  cases front with
  | error fault => simp [joined]
  | ok first =>
      cases back with
      | error fault => simp [joined]
      | ok second => simp [joined]

theorem joined_assoc (first second third : Except Diagnostic Round) :
    joined (joined first second) third = joined first (joined second third) := by
  cases first with
  | error fault => rfl
  | ok first =>
      cases second with
      | error fault => rfl
      | ok second =>
          cases third with
          | error fault => rfl
          | ok third => exact congrArg Except.ok (extend_assoc first second third)

theorem empty_joined (back : Except Diagnostic Round) : joined (.ok .empty) back = back := by
  cases back with
  | error fault => rfl
  | ok back => exact congrArg Except.ok back.empty_extend

theorem joined_empty (front : Except Diagnostic Round) : joined front (.ok .empty) = front := by
  cases front with
  | error fault => rfl
  | ok front => exact congrArg Except.ok front.extend_empty

end Round

open Round

namespace Discovery

variable {scope : Scope} {path : List String}

theorem ofItems_cons (item : Item) (rest : List Item) :
    ofItems scope path (item :: rest) =
      joined (ofItem scope path item) (ofItems scope path rest) := by
  rw [ofItems]
  cases ofItem scope path item with
  | error fault => rfl
  | ok front => cases ofItems scope path rest <;> rfl

theorem ofItems_append (front back : List Item) :
    ofItems scope path (front ++ back) =
      joined (ofItems scope path front) (ofItems scope path back) := by
  induction front with
  | nil => exact (empty_joined _).symm
  | cons item rest ih => rw [List.cons_append, ofItems_cons, ofItems_cons, ih, joined_assoc]

theorem ofItems_singleton (item : Item) : ofItems scope path [item] = ofItem scope path item := by
  rw [ofItems_cons]
  exact joined_empty _

/-- What holds of the empty round, and of two rounds together, holds of a text where it holds of
every item. -/
theorem ofItems_holds {holds : Round → Prop} (empty : holds .empty)
    (extend : ∀ {front back : Round}, holds front → holds back → holds (front.extend back))
    {items : List Item} {round : Round}
    (each : ∀ item ∈ items, ∀ {round}, ofItem scope path item = .ok round → holds round)
    (scanned : ofItems scope path items = .ok round) : holds round := by
  induction items generalizing round with
  | nil =>
      cases scanned
      exact empty
  | cons item rest ih =>
      rw [ofItems_cons] at scanned
      obtain ⟨first, others, here, later, rfl⟩ := joined_eq_ok.mp scanned
      obtain ⟨itemHolds, restHolds⟩ := List.forall_mem_cons.mp each
      exact extend (itemHolds here) (ih restHolds later)

end Discovery

namespace Snapshot

theorem entriesRound_cons (markers : MarkerSet) (entry : Entry) (rest : List Entry) :
    entriesRound markers (entry :: rest) =
      joined (entryRound markers entry) (entriesRound markers rest) := by
  rw [entriesRound]
  cases entryRound markers entry with
  | error fault => rfl
  | ok front => cases entriesRound markers rest <;> rfl

theorem entriesRound_append (markers : MarkerSet) (front back : List Entry) :
    entriesRound markers (front ++ back) =
      joined (entriesRound markers front) (entriesRound markers back) := by
  induction front with
  | nil => exact (empty_joined _).symm
  | cons entry rest ih =>
      rw [List.cons_append, entriesRound_cons, entriesRound_cons, ih, joined_assoc]

theorem entriesRound_holds {holds : Round → Prop} {markers : MarkerSet} (empty : holds .empty)
    (extend : ∀ {front back : Round}, holds front → holds back → holds (front.extend back))
    (each : ∀ {entry : Entry} {round : Round}, entryRound markers entry = .ok round → holds round)
    {entries : List Entry} {round : Round} (read : entriesRound markers entries = .ok round) :
    holds round := by
  induction entries generalizing round with
  | nil =>
      cases read
      exact empty
  | cons entry rest ih =>
      rw [entriesRound_cons] at read
      obtain ⟨first, others, here, later, rfl⟩ := joined_eq_ok.mp read
      exact extend (each here) (ih later)

end Snapshot

namespace Discovery

end Discovery

end StorageMapping
