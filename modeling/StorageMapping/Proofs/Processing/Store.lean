import StorageMapping.Processing.Shells

namespace StorageMapping.Processing.Shells

/-! # The store of types

What a store says about a number is the first type that it holds under it. Insertion changes the
answer for its own number only, and keeps the numbers in increasing order. -/

variable {shells : Shells} {id other : Nat} {model replaced : TypeModel}

def Increasing (shells : Shells) : Prop := shells.Pairwise fun left right => left.1 < right.1

@[simp] theorem get?_nil (id : Nat) : get? [] id = none := rfl

@[simp] theorem get?_cons (entry : Nat × TypeModel) (rest : Shells) (id : Nat) :
    get? (entry :: rest) id = if entry.1 = id then some entry.2 else get? rest id := by
  by_cases same : entry.1 = id <;> simp [get?, same]

theorem get?_insert (shells : Shells) (id other : Nat) (model : TypeModel) :
    (shells.insert id model).get? other =
      if id = other then some model else shells.get? other := by
  induction shells with
  | nil => simp [insert]
  | cons entry rest ih =>
      obtain ⟨head, existing⟩ := entry
      simp only [insert]
      split
      · simp only [get?_cons]
      · split
        · rename_i same
          subst head
          simp only [get?_cons]
          split <;> rfl
        · rename_i different
          simp only [get?_cons, ih]
          by_cases found : head = other
          · subst other
            simp [different]
          · simp [found]

theorem get?_eq_none : shells.get? id = none ↔ ∀ entry ∈ shells, entry.1 ≠ id := by
  induction shells with
  | nil => simp
  | cons entry rest ih =>
      simp only [get?_cons, List.mem_cons, forall_eq_or_imp, ← ih]
      split <;> simp [*]

/-- With increasing numbers, a type is found exactly under the number of its entry. -/
theorem get?_eq_some (increasing : shells.Increasing) :
    shells.get? id = some model ↔ (id, model) ∈ shells := by
  induction shells with
  | nil => simp
  | cons entry rest ih =>
      obtain ⟨later, ordered⟩ := List.pairwise_cons.mp increasing
      rw [get?_cons, List.mem_cons]
      by_cases here : entry.1 = id
      · have absent : (id, model) ∉ rest := fun member =>
          Nat.lt_irrefl id (here ▸ later (id, model) member)
        rw [if_pos here, or_iff_left absent, Option.some.injEq, ← here]
        exact ⟨fun same => same ▸ rfl, fun same => (congrArg Prod.snd same).symm⟩
      · have different : (id, model) ≠ entry := fun same => here (same ▸ rfl)
        rw [if_neg here, or_iff_right different, ih ordered]

theorem mem_of_mem_insert {entry : Nat × TypeModel} (member : entry ∈ shells.insert id model) :
    entry = (id, model) ∨ entry ∈ shells := by
  induction shells with
  | nil => exact .inl (List.mem_singleton.mp member)
  | cons head rest ih =>
      simp only [insert] at member
      split at member
      · exact List.mem_cons.mp member
      · split at member
        · exact (List.mem_cons.mp member).imp_right (List.mem_cons_of_mem head)
        · rcases List.mem_cons.mp member with rfl | later
          · exact .inr List.mem_cons_self
          · exact (ih later).imp_right (List.mem_cons_of_mem head)

theorem insert_increasing (increasing : shells.Increasing) :
    (shells.insert id model).Increasing := by
  induction shells with
  | nil => exact List.pairwise_singleton _ _
  | cons entry rest ih =>
      obtain ⟨later, ordered⟩ := List.pairwise_cons.mp increasing
      simp only [insert]
      split
      · rename_i before
        refine List.pairwise_cons.mpr ⟨fun other member => ?_, increasing⟩
        rcases List.mem_cons.mp member with rfl | behind
        · exact before
        · exact Nat.lt_trans before (later other behind)
      · rename_i notBefore
        split
        · rename_i same
          exact List.pairwise_cons.mpr ⟨fun other member => same ▸ later other member, ordered⟩
        · rename_i different
          refine List.pairwise_cons.mpr ⟨fun other member => ?_, ih ordered⟩
          rcases mem_of_mem_insert member with rfl | behind
          · change entry.1 < id
            omega
          · exact later other behind

/-- A number above all others goes to the end. -/
theorem insert_above (above : ∀ entry ∈ shells, entry.1 < id) :
    shells.insert id model = shells ++ [(id, model)] := by
  induction shells with
  | nil => rfl
  | cons entry rest ih =>
      have bound := above entry (by simp)
      have passed : ¬ id < entry.1 := by omega
      have different : id ≠ entry.1 := by omega
      simp only [insert, if_neg passed, if_neg different,
        ih (fun later member => above later (by simp [member])), List.cons_append]

/-- Under a number that is there, only the type of that number is replaced. -/
theorem insert_present (increasing : shells.Increasing)
    (found : shells.get? id = some replaced) :
    shells.insert id model =
      shells.map fun entry => if entry.1 = id then (id, model) else entry := by
  induction shells with
  | nil => simp at found
  | cons entry rest ih =>
      obtain ⟨later, ordered⟩ := List.pairwise_cons.mp increasing
      by_cases here : entry.1 = id
      · subst id
        have untouched : rest.map (fun other =>
            if other.1 = entry.1 then (entry.1, model) else other) = rest := by
          refine (List.map_congr_left fun other member => ?_).trans (List.map_id rest)
          exact if_neg (Nat.ne_of_gt (later other member))
        simp only [insert, Nat.lt_irrefl, if_false, if_true, List.map_cons, untouched]
      · have following : get? rest id = some replaced := by
          simpa only [get?_cons, if_neg here] using found
        have present : ¬ ∀ other ∈ rest, other.1 ≠ id := by
          intro absent
          rw [get?_eq_none.mpr absent] at following
          contradiction
        have passed : ¬ id < entry.1 := by
          intro before
          apply present
          intro other member
          exact Nat.ne_of_gt (Nat.lt_trans before (later other member))
        simp only [insert, if_neg passed, if_neg (Ne.symm here), List.map_cons, if_neg here,
          ih ordered following]

end StorageMapping.Processing.Shells
