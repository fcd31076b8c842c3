import Mathlib.Data.List.Forall2

namespace StorageMapping.Results

/-! # Results of several steps

A computation that may fail succeeds where all of its steps do. -/

variable {ε ε' α β : Type} {result : Except ε α} {following : α → Except ε β} {f : α → Except ε β}
  {xs : List α} {ys : List β}

theorem bind_eq_ok {y : β} :
    (result >>= following) = .ok y ↔ ∃ x, result = .ok x ∧ following x = .ok y := by
  cases result with
  | error fault => exact ⟨nofun, fun ⟨_, same, _⟩ => nomatch same⟩
  | ok x => exact ⟨fun same => ⟨x, rfl, same⟩, fun ⟨_, rfl, same⟩ => same⟩

theorem bind_eq_error {fault : ε} :
    (result >>= following) = .error fault ↔
      result = .error fault ∨ ∃ x, result = .ok x ∧ following x = .error fault := by
  cases result with
  | error fault =>
      refine ⟨fun same => .inl (congrArg Except.error (Except.error.inj same)), ?_⟩
      rintro (same | ⟨_, held, _⟩)
      · exact congrArg Except.error (Except.error.inj same)
      · cases held
  | ok x =>
      refine ⟨fun same => .inr ⟨x, rfl, same⟩, ?_⟩
      rintro (same | ⟨_, held, same⟩)
      · cases same
      · cases held
        exact same

theorem toOption_eq_some {x : α} : result.toOption = some x ↔ result = .ok x := by
  cases result with
  | error fault => simp [Except.toOption]
  | ok found => simp [Except.toOption]

/-- A result that passes a check is there. -/
theorem exists_of_any {check : α → Bool} (checked : result.toOption.any check = true) :
    ∃ x, result = .ok x ∧ check x = true := by
  cases result with
  | error fault => contradiction
  | ok x => exact ⟨x, rfl, checked⟩

theorem mapError_eq_ok {g : ε → ε'} {x : α} : result.mapError g = .ok x ↔ result = .ok x := by
  cases result with
  | error fault => simp [Except.mapError]
  | ok x => simp [Except.mapError]

theorem mapError_eq_error {g : ε → ε'} {fault : ε'} :
    result.mapError g = .error fault ↔ ∃ cause, result = .error cause ∧ g cause = fault := by
  cases result with
  | error cause => simp [Except.mapError]
  | ok x => simp [Except.mapError]

theorem exists_ok_or_error (result : Except ε α) :
    (∃ x, result = .ok x) ∨ ∃ fault, result = .error fault := by
  cases result with
  | error fault => exact .inr ⟨fault, rfl⟩
  | ok x => exact .inl ⟨x, rfl⟩

theorem mapM_eq_ok : xs.mapM f = .ok ys ↔ List.Forall₂ (fun x y => f x = .ok y) xs ys := by
  induction xs generalizing ys with
  | nil =>
      rw [List.mapM_nil, List.forall₂_nil_left_iff]
      exact ⟨fun same => (Except.ok.inj same).symm, fun same => congrArg Except.ok same.symm⟩
  | cons x xs ih =>
      rw [List.mapM_cons, bind_eq_ok, List.forall₂_cons_left_iff]
      constructor
      · rintro ⟨y, head, completed⟩
        obtain ⟨rest, tail, same⟩ := bind_eq_ok.mp completed
        exact ⟨y, rest, head, ih.mp tail, (Except.ok.inj same).symm⟩
      · rintro ⟨y, rest, head, tail, rfl⟩
        exact ⟨y, head, bind_eq_ok.mpr ⟨rest, ih.mpr tail, rfl⟩⟩

theorem exists_of_forall₂ {R : α → β → Prop} (related : List.Forall₂ R xs ys) {x : α}
    (member : x ∈ xs) : ∃ y ∈ ys, R x y := by
  induction related with
  | nil => contradiction
  | @cons head y _ _ here _ ih =>
      rcases List.mem_cons.mp member with rfl | later
      · exact ⟨y, List.mem_cons_self, here⟩
      · obtain ⟨other, otherMember, there⟩ := ih later
        exact ⟨other, List.mem_cons_of_mem y otherMember, there⟩

theorem exists_of_mapM_eq_ok (completed : xs.mapM f = .ok ys) {x : α} (member : x ∈ xs) :
    ∃ y ∈ ys, f x = .ok y :=
  exists_of_forall₂ (mapM_eq_ok.mp completed) member

theorem mem_of_mapM_eq_ok (completed : xs.mapM f = .ok ys) {y : β} (member : y ∈ ys) :
    ∃ x ∈ xs, f x = .ok y :=
  exists_of_forall₂ (mapM_eq_ok.mp completed).flip member

/-- What holds of the results for each element holds of the lists of results. -/
theorem mapM_related {g : α → Except ε β} {R : β → β → Prop}
    (each : ∀ x ∈ xs, ∀ y, f x = .ok y → ∃ z, g x = .ok z ∧ R y z)
    (completed : xs.mapM f = .ok ys) : ∃ zs, xs.mapM g = .ok zs ∧ List.Forall₂ R ys zs := by
  induction xs generalizing ys with
  | nil =>
      cases completed
      exact ⟨[], rfl, .nil⟩
  | cons x xs ih =>
      obtain ⟨here, others⟩ := List.forall_mem_cons.mp each
      cases mapM_eq_ok.mp completed with
      | @cons _ y _ _ first rest =>
          obtain ⟨z, firstToo, related⟩ := here y first
          obtain ⟨zs, restToo, allRelated⟩ := ih others (mapM_eq_ok.mpr rest)
          exact ⟨z :: zs, mapM_eq_ok.mpr (.cons firstToo (mapM_eq_ok.mp restToo)),
            .cons related allRelated⟩

theorem mapM_eq_map {g : α → β} (each : ∀ x ∈ xs, f x = .ok (g x)) :
    xs.mapM f = .ok (xs.map g) := by
  rw [mapM_eq_ok, List.forall₂_map_right_iff, List.forall₂_same]
  exact each

theorem mem_of_mapM_eq_error {fault : ε} (failed : xs.mapM f = .error fault) :
    ∃ x ∈ xs, f x = .error fault := by
  induction xs with
  | nil => contradiction
  | cons x xs ih =>
      rw [List.mapM_cons] at failed
      rcases bind_eq_error.mp failed with here | ⟨_, _, failed⟩
      · exact ⟨x, List.mem_cons_self, here⟩
      rcases bind_eq_error.mp failed with later | ⟨_, _, completed⟩
      · obtain ⟨other, member, there⟩ := ih later
        exact ⟨other, List.mem_cons_of_mem x member, there⟩
      · contradiction

end StorageMapping.Results
