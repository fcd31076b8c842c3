import StorageMapping.Round

namespace StorageMapping.Round

/-! # Numbers of declarations

A declaration is known by its place in the round, so putting one round behind another moves the
numbers of the second by the number of declarations of the first. The declarations in front keep
theirs. -/

variable {first id : Nat} {declaration : Declaration} {round : Round}

theorem mem_number {declarations : List Declaration} :
    (id, declaration) ∈ number first declarations ↔
      first ≤ id ∧ declarations[id - first]? = some declaration := by
  induction declarations generalizing first with
  | nil => simp [number]
  | cons head rest ih =>
      simp only [number, List.mem_cons, ih, Prod.mk.injEq]
      by_cases here : id = first
      · subst id
        simp only [true_and, Nat.le_refl, Nat.sub_self, List.getElem?_cons_zero, Option.some.injEq]
        constructor
        · rintro (same | ⟨later, _⟩)
          · exact same.symm
          · omega
        · exact fun same => .inl same.symm
      · simp only [here, false_and, false_or]
        constructor
        · rintro ⟨later, found⟩
          refine ⟨by omega, ?_⟩
          rwa [show id - first = id - (first + 1) + 1 by omega, List.getElem?_cons_succ]
        · rintro ⟨later, found⟩
          refine ⟨by omega, ?_⟩
          rwa [show id - first = id - (first + 1) + 1 by omega, List.getElem?_cons_succ] at found

theorem number_increasing (first : Nat) (declarations : List Declaration) :
    (number first declarations).Pairwise fun left right => left.1 < right.1 := by
  induction declarations generalizing first with
  | nil => exact .nil
  | cons declaration rest ih =>
      refine .cons ?_ (ih (first + 1))
      intro entry member
      exact (mem_number.mp member).1

theorem mem_marked :
    (id, declaration) ∈ round.marked ↔
      round.declaration? id = some declaration ∧ declaration.isMarked = true := by
  simp [marked, mem_number, declaration?]

theorem marked_unique {entry other : Nat × Declaration} (member : entry ∈ round.marked)
    (otherMember : other ∈ round.marked) (same : entry.1 = other.1) : entry = other := by
  have found := (mem_marked.mp member).1
  have otherFound := (mem_marked.mp otherMember).1
  rw [same, otherFound] at found
  exact Prod.ext same (Option.some.inj found).symm

theorem marked_increasing (round : Round) :
    round.marked.Pairwise fun left right => left.1 < right.1 :=
  (number_increasing 0 round.declarations).filter _

/-- Behind a round with all its owners, every number in front means what it meant before. -/
theorem declaration?_extend_front (front back : Round) (bound : id < front.declarations.length) :
    (front.extend back).declaration? id = front.declaration? id := by
  simp only [declaration?, extend]
  exact List.getElem?_append_left bound

theorem declaration?_extend_back (front back : Round) (id : Nat) :
    (front.extend back).declaration? (id + front.declarations.length) = back.declaration? id := by
  simp only [declaration?, extend]
  rw [List.getElem?_append_right (Nat.le_add_left _ _), Nat.add_sub_cancel]

theorem extend_assoc (first second third : Round) :
    (first.extend second).extend third = first.extend (second.extend third) := by
  simp only [extend, List.append_assoc, List.map_append, List.map_map, List.length_append,
    mk.injEq, true_and]
  congr 3
  funext element
  simp only [Function.comp, MarkedElement.mk.injEq, true_and, and_true]
  omega

theorem empty_extend (round : Round) : Round.empty.extend round = round := by
  simp [extend, empty]

theorem extend_empty (round : Round) : round.extend .empty = round := by
  simp [extend, empty]

end StorageMapping.Round
