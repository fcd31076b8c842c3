import StorageMapping.Proofs.Processing.Stages
import StorageMapping.Proofs.Results

namespace StorageMapping

/-! # Histories of the store

Types are put into the store and columns are attached to them, in any order and with any failures in
between. What the store holds then is told by the calls and their outcomes: under each number the
type that was put there last, with the columns that were accepted for it since. -/

open Results

/-- The type with more columns behind those that it has. -/
def TypeModel.gains (model : TypeModel) (more : List Column) : TypeModel :=
  { model with columns := model.columns ++ more }

@[simp] theorem TypeModel.gains_nil (model : TypeModel) : model.gains [] = model := by
  simp [gains]

namespace Processing

/-! ## Calls -/

/-- A call on the store. A type is put there without columns, in the place of what was there. -/
inductive Call where
  | put (id : Nat) (declaration : Declaration)
  | attach (column : Column)

/-- A call that was made, with its outcome. -/
structure Event where
  call : Call
  outcome : Except Problem Unit

namespace Call

/-- What a call does to a store that it changes in place: what it has changed before it fails stays
changed. -/
def perform : Call → ExceptT Problem (StateM Shells) Unit
  | .put id declaration => modify (·.insert id (shell declaration))
  | .attach column => do
      match (← get).get? column.owner with
      | none => throw .orphan
      | some model =>
          if Shells.isTaken model column then throw (.duplicate column.storageName)
          modify (·.insert column.owner (model.gains [column]))

/-- The outcome of a call on a store, and the store behind it. -/
def on (call : Call) (shells : Shells) : Except Problem Unit × Shells := call.perform.run.run shells

theorem on_put (id : Nat) (declaration : Declaration) (shells : Shells) :
    (Call.put id declaration).on shells = (.ok (), shells.insert id (shell declaration)) := rfl

/-- A column that cannot be attached leaves nothing behind. -/
theorem on_attach (shells : Shells) (column : Column) :
    (Call.attach column).on shells =
      match shells.attach column with
      | .ok next => (.ok (), next)
      | .error problem => (.error problem, shells) := by
  rw [Shells.attach]
  change ExceptT.run (match shells.get? column.owner with
    | none => throw Problem.orphan
    | some model => _ : ExceptT Problem (StateM Shells) Unit) shells = _
  cases shells.get? column.owner with
  | none => rfl
  | some model =>
      dsimp only
      cases Shells.isTaken model column with
      | true => rfl
      | false => rfl

end Call

namespace Event

/-- The declaration whose type was put under a number. -/
def put? (id : Nat) : Event → Option Declaration
  | ⟨.put other declaration, _⟩ => if other = id then some declaration else none
  | ⟨.attach _, _⟩ => none

/-- The column that was accepted for a number. -/
def accepted? (id : Nat) : Event → Option Column
  | ⟨.attach column, .ok _⟩ => if column.owner = id then some column else none
  | ⟨.attach _, .error _⟩ | ⟨.put _ _, _⟩ => none

theorem put?_eq_some {id : Nat} {declaration : Declaration} {event : Event} :
    event.put? id = some declaration ↔ event.call = .put id declaration := by
  obtain ⟨call, outcome⟩ := event
  cases call with
  | put other declared =>
      by_cases here : other = id <;> simp [put?, here]
  | attach column => simp [put?]

end Event

/-- The calls in their order with their outcomes, and the store behind the last of them. -/
def performAll : List Call → Shells → List Event × Shells
  | [], shells => ([], shells)
  | call :: rest, shells =>
      let (outcome, next) := call.on shells
      let (events, last) := performAll rest next
      (⟨call, outcome⟩ :: events, last)

theorem performAll_cons (call : Call) (rest : List Call) (shells : Shells) :
    performAll (call :: rest) shells =
      (⟨call, (call.on shells).1⟩ :: (performAll rest (call.on shells).2).1,
        (performAll rest (call.on shells).2).2) := rfl

theorem performAll_append (front back : List Call) (shells : Shells) :
    performAll (front ++ back) shells =
      ((performAll front shells).1 ++ (performAll back (performAll front shells).2).1,
        (performAll back (performAll front shells).2).2) := by
  induction front generalizing shells with
  | nil => rfl
  | cons call rest ih =>
      rw [List.cons_append, performAll_cons, performAll_cons, ih]
      rfl

theorem performAll_calls (calls : List Call) (shells : Shells) :
    (performAll calls shells).1.map (·.call) = calls := by
  induction calls generalizing shells with
  | nil => rfl
  | cons call rest ih => rw [performAll_cons, List.map_cons, ih]

/-! ## One call -/

variable {shells : Shells} {column : Column} {model : TypeModel} {id : Nat}
  {events since : List Event} {declaration : Declaration} {call : Call}

/-- The owner of a column is there, and has none of the names of the column yet. -/
def HasRoom (shells : Shells) (column : Column) : Prop :=
  ∃ model, shells.get? column.owner = some model ∧ ∀ existing ∈ model.columns,
    existing.storageName ≠ column.storageName ∧ existing.fieldName ≠ column.fieldName

theorem isTaken_eq_false :
    Shells.isTaken model column = false ↔ ∀ existing ∈ model.columns,
      existing.storageName ≠ column.storageName ∧ existing.fieldName ≠ column.fieldName := by
  simp [Shells.isTaken]

/-- All that attaching can do. -/
theorem attach_cases (shells : Shells) (column : Column) :
    (∃ model, shells.get? column.owner = some model ∧ Shells.isTaken model column = false ∧
      shells.attach column = .ok (shells.insert column.owner (model.gains [column]))) ∨
    (¬ HasRoom shells column ∧ ∃ problem, shells.attach column = .error problem) := by
  cases found : shells.get? column.owner with
  | none =>
      refine .inr ⟨?_, .orphan, by simp only [Shells.attach, found]; rfl⟩
      rintro ⟨_, there, _⟩
      cases found.symm.trans there
  | some model =>
      cases taken : Shells.isTaken model column with
      | false =>
          refine .inl ⟨model, rfl, taken, ?_⟩
          simp only [Shells.attach, found, taken]
          rfl
      | true =>
          refine .inr ⟨?_, .duplicate column.storageName, ?_⟩
          · rintro ⟨other, there, free⟩
            cases found.symm.trans there
            rw [isTaken_eq_false.mpr free] at taken
            contradiction
          · simp only [Shells.attach, found, taken]
            rfl

/-- What a call leaves under a number: the type that it puts there, or what was there before with
the column that it has accepted. -/
theorem get?_on (call : Call) (shells : Shells) (id : Nat) :
    (call.on shells).2.get? id =
      match Event.put? id ⟨call, (call.on shells).1⟩ with
      | some declaration => some (shell declaration)
      | none => (shells.get? id).map
          (·.gains (Event.accepted? id ⟨call, (call.on shells).1⟩).toList) := by
  cases call with
  | put other declaration =>
      rw [Call.on_put, Shells.get?_insert]
      by_cases here : other = id
      · simp [Event.put?, here]
      · simp [Event.put?, Event.accepted?, here]
  | attach column =>
      rcases attach_cases shells column with ⟨model, found, _, attached⟩ | ⟨_, problem, failed⟩
      · simp only [Call.on_attach, attached, Event.put?, Event.accepted?, Shells.get?_insert]
        by_cases here : column.owner = id
        · subst here
          simp [found]
        · simp [here]
      · simp [Call.on_attach, failed, Event.put?, Event.accepted?]

theorem on_increasing (increasing : shells.Increasing) : (call.on shells).2.Increasing := by
  cases call with
  | put id declaration => exact Shells.insert_increasing increasing
  | attach column =>
      rcases attach_cases shells column with ⟨model, _, _, attached⟩ | ⟨_, problem, failed⟩
      · rw [Call.on_attach, attached]
        exact Shells.insert_increasing increasing
      · rw [Call.on_attach, failed]
        exact increasing

/-- What is accepted for a number has new names. -/
theorem free_of_accepted (accepted : Event.accepted? id ⟨call, (call.on shells).1⟩ = some column)
    (found : shells.get? id = some model) : ∀ existing ∈ model.columns,
      existing.storageName ≠ column.storageName ∧ existing.fieldName ≠ column.fieldName := by
  cases call with
  | put other declaration => cases accepted
  | attach attempted =>
      rcases attach_cases shells attempted with
        ⟨owner, there, free, attached⟩ | ⟨_, problem, failed⟩
      · simp only [Call.on_attach, attached, Event.accepted?] at accepted
        split at accepted
        · rename_i here
          cases accepted
          rw [here, found] at there
          cases there
          exact isTaken_eq_false.mp free
        · cases accepted
      · simp [Call.on_attach, failed, Event.accepted?] at accepted

/-! ## All calls -/

/-- A type was put under a number, of this declaration, and no other type has been put there in the
events since. -/
def LastPut (events : List Event) (id : Nat) (declaration : Declaration) (since : List Event) :
    Prop :=
  ∃ before outcome, events = before ++ ⟨.put id declaration, outcome⟩ :: since ∧
    ∀ event ∈ since, event.put? id = none

/-- The type of a declaration with the columns accepted for its number. -/
def accrued (id : Nat) (declaration : Declaration) (since : List Event) : TypeModel :=
  (shell declaration).gains (since.filterMap (·.accepted? id))

theorem lastPut_concat {event : Event} :
    LastPut (events ++ [event]) id declaration since ↔
      (event.put? id = some declaration ∧ since = []) ∨
      (event.put? id = none ∧ ∃ earlier, since = earlier ++ [event] ∧
        LastPut events id declaration earlier) := by
  constructor
  · rintro ⟨before, outcome, split, kept⟩
    rcases List.eq_nil_or_concat since with rfl | ⟨earlier, last, rfl⟩
    · obtain ⟨-, same⟩ := List.append_inj' split rfl
      cases same
      exact .inl ⟨Event.put?_eq_some.mpr rfl, rfl⟩
    · rw [List.concat_eq_append] at split kept ⊢
      rw [← List.cons_append, ← List.append_assoc] at split
      obtain ⟨front, same⟩ := List.append_inj' split rfl
      cases same
      have keptFront := fun event member => kept event (List.mem_append_left _ member)
      exact .inr ⟨kept event (by simp), earlier, rfl, before, outcome, front, keptFront⟩
  · rintro (⟨put, rfl⟩ | ⟨other, earlier, rfl, before, outcome, rfl, kept⟩)
    · obtain ⟨call, outcome⟩ := event
      cases Event.put?_eq_some.mp put
      exact ⟨events, outcome, rfl, List.forall_mem_nil _⟩
    · refine ⟨before, outcome, by simp, fun later member => ?_⟩
      rcases List.mem_append.mp member with front | back
      · exact kept later front
      · rw [List.mem_singleton.mp back]
        exact other

theorem accrued_concat (id : Nat) (declaration : Declaration) (earlier : List Event)
    (event : Event) : accrued id declaration (earlier ++ [event]) =
      (accrued id declaration earlier).gains (event.accepted? id).toList := by
  cases accepted : event.accepted? id <;> simp [accrued, TypeModel.gains, accepted]

/-- A store tells of the events that led to it. -/
structure Recounts (events : List Event) (shells : Shells) : Prop where
  increasing : shells.Increasing
  entries : ∀ id model, shells.get? id = some model ↔
    ∃ declaration since, LastPut events id declaration since ∧ accrued id declaration since = model
  distinct : ∀ id model, shells.get? id = some model → model.columns.Pairwise fun former latter =>
    former.storageName ≠ latter.storageName ∧ former.fieldName ≠ latter.fieldName

namespace Recounts

theorem empty : Recounts [] [] where
  increasing := .nil
  entries := fun id model => by simp [LastPut]
  distinct := fun id model found => by simp at found

/-- One more call. -/
theorem step (recounts : Recounts events shells) (call : Call) :
    Recounts (events ++ [⟨call, (call.on shells).1⟩]) (call.on shells).2 where
  increasing := on_increasing recounts.increasing
  entries := by
    intro id model
    rw [get?_on]
    simp only [lastPut_concat]
    cases put : Event.put? id ⟨call, (call.on shells).1⟩ with
    | some declared =>
        constructor
        · intro same
          exact ⟨declared, [], .inl ⟨rfl, rfl⟩, Option.some.inj same⟩
        · rintro ⟨_, _, ⟨same, rfl⟩ | ⟨absent, _⟩, rfl⟩
          · cases same
            rfl
          · contradiction
    | none =>
        simp only [Option.map_eq_some_iff, recounts.entries]
        constructor
        · rintro ⟨_, ⟨declaration, earlier, last, rfl⟩, rfl⟩
          exact ⟨declaration, _, .inr ⟨trivial, earlier, rfl, last⟩, accrued_concat ..⟩
        · rintro ⟨declaration, _, ⟨present, _⟩ | ⟨_, earlier, rfl, last⟩, rfl⟩
          · contradiction
          · exact ⟨_, ⟨declaration, earlier, last, rfl⟩, (accrued_concat ..).symm⟩
  distinct := by
    intro id model found
    rw [get?_on] at found
    cases put : Event.put? id ⟨call, (call.on shells).1⟩ with
    | some declared =>
        simp only [put, Option.some.injEq] at found
        subst found
        exact .nil
    | none =>
        simp only [put] at found
        obtain ⟨before, held, rfl⟩ := Option.map_eq_some_iff.mp found
        have old := recounts.distinct id before held
        cases accepted : Event.accepted? id ⟨call, (call.on shells).1⟩ with
        | none => simpa using old
        | some column =>
            have free := free_of_accepted accepted held
            refine List.pairwise_append.mpr ⟨old, List.pairwise_singleton _ _, ?_⟩
            intro existing member other here
            cases List.mem_singleton.mp here
            exact free existing member

theorem run (recounts : Recounts events shells) (calls : List Call) :
    Recounts (events ++ (performAll calls shells).1) (performAll calls shells).2 := by
  induction calls generalizing events shells with
  | nil => simpa [performAll] using recounts
  | cons call rest ih =>
      have following := ih (recounts.step call)
      rwa [List.append_assoc] at following

end Recounts

theorem owner_of_accrued (member : column ∈ (accrued id declaration since).columns) :
    column.owner = id := by
  obtain ⟨event, _, accepted⟩ := List.mem_filterMap.mp member
  obtain ⟨call, outcome⟩ := event
  cases call with
  | put other declared => cases accepted
  | attach attached =>
      cases outcome with
      | error problem => cases accepted
      | ok =>
          simp only [Event.accepted?] at accepted
          split at accepted
          · cases accepted
            assumption
          · cases accepted

/-- An entry with one more column, where the column belongs to it. -/
def gaining (column : Column) (entry : Nat × TypeModel) : Nat × TypeModel :=
  if entry.1 = column.owner then (entry.1, entry.2.gains [column]) else entry

theorem insert_gaining (increasing : shells.Increasing)
    (found : shells.get? column.owner = some model) :
    shells.insert column.owner (model.gains [column]) = shells.map (gaining column) := by
  rw [Shells.insert_present increasing found]
  refine List.map_congr_left fun entry member => ?_
  rw [gaining]
  split
  · rename_i here
    have held : shells.get? entry.1 = some entry.2 := (Shells.get?_eq_some increasing).mpr member
    rw [here, found] at held
    rw [here, Option.some.inj held]
  · rfl

/-- After any calls on an empty store, and whatever has failed among them, each entry holds the type
that was put there last and exactly the columns that were accepted for it since, in their order.
These have the entry as their owner, and differ in both of their names. A column is then attached
just where its owner is there and has neither of its names, and only that entry changes, by this
column at its end. A column that cannot be attached leaves the whole store as it was. -/
theorem history_exact (calls : List Call) :
    ∃ events shells, performAll calls [] = (events, shells) ∧ events.map (·.call) = calls ∧
      shells.Increasing ∧
      (∀ id model, (id, model) ∈ shells ↔ ∃ declaration since,
        LastPut events id declaration since ∧ accrued id declaration since = model) ∧
      (∀ id model, (id, model) ∈ shells → (∀ column ∈ model.columns, column.owner = id) ∧
        (model.columns.map (·.storageName)).Nodup ∧ (model.columns.map (·.fieldName)).Nodup) ∧
      ∀ column,
        (HasRoom shells column ∧ shells.attach column = .ok (shells.map (gaining column)) ∧
          (Call.attach column).on shells = (.ok (), shells.map (gaining column))) ∨
        (¬ HasRoom shells column ∧ ∃ problem, shells.attach column = .error problem ∧
          (Call.attach column).on shells = (.error problem, shells)) := by
  have recounts := Recounts.empty.run calls
  rw [List.nil_append] at recounts
  have entries : ∀ id model, (id, model) ∈ (performAll calls []).2 ↔ ∃ declaration since,
      LastPut (performAll calls []).1 id declaration since ∧
        accrued id declaration since = model := fun id model =>
    (Shells.get?_eq_some recounts.increasing).symm.trans (recounts.entries id model)
  refine ⟨_, _, rfl, performAll_calls calls [], recounts.increasing, entries,
    fun id model member => ⟨fun column inside => ?_, ?_, ?_⟩, fun column => ?_⟩
  · obtain ⟨_, _, _, rfl⟩ := (entries id model).mp member
    exact owner_of_accrued inside
  · have distinct := recounts.distinct id model
      ((Shells.get?_eq_some recounts.increasing).mpr member)
    exact List.pairwise_map.mpr (distinct.imp And.left)
  · have distinct := recounts.distinct id model
      ((Shells.get?_eq_some recounts.increasing).mpr member)
    exact List.pairwise_map.mpr (distinct.imp And.right)
  · rcases attach_cases (performAll calls []).2 column with
      ⟨model, found, free, attached⟩ | ⟨full, problem, failed⟩
    · rw [insert_gaining recounts.increasing found] at attached
      refine .inl ⟨⟨model, found, isTaken_eq_false.mp free⟩, attached, ?_⟩
      rw [Call.on_attach, attached]
    · refine .inr ⟨full, problem, failed, ?_⟩
      rw [Call.on_attach, failed]

/-! ## The history of a run -/

theorem buildShells_performed {backend : Backend} {entries : List (Nat × Declaration)}
    {next : Shells} (built : buildShells backend entries shells = .ok next) :
    ∃ events, performAll (entries.map fun entry => .put entry.1 entry.2) shells = (events, next) ∧
      ∀ event ∈ events, event.outcome = .ok () := by
  induction entries generalizing shells with
  | nil =>
      cases built
      exact ⟨[], rfl, List.forall_mem_nil _⟩
  | cons entry rest ih =>
      rw [buildShells] at built
      split at built
      · contradiction
      · rename_i model accepted
        rw [(buildType_ok accepted).2.1] at built
        obtain ⟨events, performed, succeeded⟩ := ih built
        refine ⟨⟨.put entry.1 entry.2, .ok ()⟩ :: events, ?_,
          List.forall_mem_cons.mpr ⟨rfl, succeeded⟩⟩
        rw [List.map_cons, performAll_cons, Call.on_put, performed]

theorem addColumn_performed {backend : Backend} {introspect : Introspector} {round : Round}
    {elements : List MarkedElement} {next : Shells}
    (added : elements.foldlM (addColumn backend introspect round) shells = .ok next) :
    ∃ (columns : List Column) (events : List Event),
      performAll (columns.map .attach) shells = (events, next) ∧
        ∀ event ∈ events, event.outcome = .ok () := by
  induction elements generalizing shells with
  | nil =>
      cases added
      exact ⟨[], [], rfl, List.forall_mem_nil _⟩
  | cons element rest ih =>
      rw [List.foldlM_cons] at added
      obtain ⟨middle, first, added⟩ := bind_eq_ok.mp added
      obtain ⟨columns, events, performed, succeeded⟩ := ih added
      rw [addColumn] at first
      split at first
      · contradiction
      · rename_i attached
        cases first
        obtain ⟨column, _, attached⟩ := bind_eq_ok.mp attached
        refine ⟨column :: columns, ⟨.attach column, .ok ()⟩ :: events, ?_,
          List.forall_mem_cons.mpr ⟨rfl, succeeded⟩⟩
        have done : (Call.attach column).on shells = (.ok (), middle) := by
          rw [Call.on_attach, attached]
        rw [List.map_cons, performAll_cons, done, performed]

/-- The types of a run are what a history without failures leaves: first a type is put under the
number of every marked declaration, and then columns are attached. -/
theorem types_performed {backend : Backend} {introspect : Introspector} {round : Round}
    {models : List TypeModel} (mapped : types backend introspect round = .ok models) :
    ∃ (columns : List Column) (events : List Event) (shells : Shells),
      performAll (round.marked.map (fun entry => .put entry.1 entry.2) ++ columns.map .attach) [] =
          (events, shells) ∧
        (∀ event ∈ events, event.outcome = .ok ()) ∧ models = shells.map (·.2) := by
  obtain ⟨bare, built, mapped⟩ := bind_eq_ok.mp mapped
  obtain ⟨shells, added, mapped⟩ := bind_eq_ok.mp mapped
  obtain ⟨_, _, same⟩ := bind_eq_ok.mp mapped
  obtain ⟨puts, first, putSucceeded⟩ := buildShells_performed built
  obtain ⟨columns, attached, second, attachSucceeded⟩ := addColumn_performed added
  refine ⟨columns, puts ++ attached, shells, ?_, ?_, (Except.ok.inj same).symm⟩
  · rw [performAll_append, first, second]
  · exact List.forall_mem_append.mpr ⟨putSucceeded, attachSucceeded⟩

end Processing

end StorageMapping
