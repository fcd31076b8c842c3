import Mathlib.Data.List.Nodup
import Mathlib.Data.List.Perm.Basic
import StorageMapping.Marker
import StorageMapping.Proofs.Results
import StorageMapping.Round.Snapshot

namespace StorageMapping

/-! # Markers as they are written

A marker assigns values to keys. In an attribute the entries stand between commas, in a snapshot
they are the lines of a table. Read either way, they make the same marker. -/

open Source Results

namespace Marker

/-- An entry of an attribute: a text or a flag under a key. -/
inductive Entry where
  | text (key value : String)
  | flag (key : String) (value : Bool)

/-- The tokens of an entry. A flag without a value is on. -/
inductive Entry.Spelled : Entry → Tokens → Prop
  | text {key value literal : String} {first second third : Position} {joint : Bool}
      (stands : Literal.stringValue? literal = some value) :
      Spelled (.text key value)
        [.word (.plain key) first, .punctuation '=' joint second, .literal literal third]
  | bare {key : String} {place : Position} : Spelled (.flag key true) [.word (.plain key) place]
  | flag {key : String} {value : Bool} {first second third : Position} {joint : Bool} :
      Spelled (.flag key value)
        [.word (.plain key) first, .punctuation '=' joint second,
          .word (.plain (if value then "true" else "false")) third]

/-- Entries between commas, perhaps with one behind the last entry. -/
inductive Listed : List Entry → Tokens → Prop
  | nil : Listed [] []
  | last {entry : Entry} {tokens : Tokens} (spelled : entry.Spelled tokens) : Listed [entry] tokens
  | cons {entry : Entry} {entries : List Entry} {front back : Tokens} {joint : Bool}
      {place : Position} (spelled : entry.Spelled front) (listed : Listed entries back) :
      Listed (entry :: entries) (front ++ .punctuation ',' joint place :: back)

theorem Listed.cons_cases {entry : Entry} {entries : List Entry} {tokens : Tokens}
    (listed : Listed (entry :: entries) tokens) :
    (entries = [] ∧ entry.Spelled tokens) ∨
      ∃ front back joint place, entry.Spelled front ∧ Listed entries back ∧
        tokens = front ++ .punctuation ',' joint place :: back := by
  cases listed with
  | last spelled => exact .inl ⟨rfl, spelled⟩
  | cons spelled listed => exact .inr ⟨_, _, _, _, spelled, listed, rfl⟩

/-- An attribute with these entries. Without any, it needs no list. -/
inductive Bears (entries : List Entry) (attr : Attribute) : Prop
  | bare (input : attr.input = .none) (none : entries = [])
  | list {tokens : Tokens} {closing : Position} (input : attr.input = .list tokens closing)
      (listed : Listed entries tokens)

/-- What can follow an entry. -/
inductive Ends : Tokens → Prop
  | nil : Ends []
  | comma {joint : Bool} {place : Position} {rest : Tokens} :
      Ends (.punctuation ',' joint place :: rest)

def Entry.key : Entry → String
  | .text key _ => key
  | .flag key _ => key

variable {α β : Type} {closing : Position}

theorem readKey_spelled (closing : Position) {written : Entry} {tokens rest : Tokens}
    (spelled : written.Spelled tokens) (ends : Ends rest) :
    ∃ place behind, tokens = .word (.plain written.key) place :: behind ∧
      readKey closing (tokens ++ rest) =
        .ok (⟨false, [.plain written.key], place⟩, behind ++ rest) := by
  cases spelled with
  | text stands => exact ⟨_, _, rfl, rfl⟩
  | bare => cases ends <;> exact ⟨_, _, rfl, rfl⟩
  | flag => exact ⟨_, _, rfl, rfl⟩

/-- What stands behind the key of an entry changes a marker. -/
def Reads (entry : Key → α → Tokens → Except Fault (α × Tokens)) (written : Entry)
    (change : α → α) : Prop :=
  ∀ place behind rest marker, written.Spelled (.word (.plain written.key) place :: behind) →
    Ends rest →
      entry ⟨false, [.plain written.key], place⟩ marker (behind ++ rest) = .ok (change marker, rest)

theorem readEntries_cons {entry : Key → α → Tokens → Except Fault (α × Tokens)} {change : α → α}
    {written : Entry} {tokens rest : Tokens} (closing : Position) (fuel : Nat) (marker : α)
    (spelled : written.Spelled tokens) (reads : Reads entry written change) (ends : Ends rest) :
    readEntries closing entry (fuel + 1) marker (tokens ++ rest) =
      if rest.isEmpty then .ok (change marker)
      else readEntries closing entry fuel (change marker) (rest.skip 1) := by
  obtain ⟨place, behind, rfl, keyed⟩ := readKey_spelled closing spelled ends
  have read := reads place behind rest marker spelled ends
  rw [readEntries, keyed]
  · change (entry _ marker (behind ++ rest) >>= _) = _
    rw [read]
    cases ends <;> rfl
  · simp

theorem readEntries_listed {entry : Key → α → Tokens → Except Fault (α × Tokens)}
    {spelling : β → Entry} {change : α → β → α} {entries : List β} {tokens : Tokens}
    (listed : Listed (entries.map spelling) tokens)
    (reads : ∀ given ∈ entries, Reads entry (spelling given) (change · given)) {fuel : Nat}
    (enough : tokens.length < fuel) (marker : α) :
    readEntries closing entry fuel marker tokens = .ok (entries.foldl change marker) := by
  induction entries generalizing tokens fuel marker with
  | nil =>
      rw [List.map_nil] at listed
      cases listed
      cases fuel <;> rfl
  | cons given entries ih =>
      have here := reads given List.mem_cons_self
      have later : ∀ other ∈ entries, Reads entry (spelling other) (change · other) :=
        fun other member => reads other (List.mem_cons_of_mem given member)
      cases fuel with
      | zero => omega
      | succ fuel =>
          rw [List.map_cons] at listed
          rcases listed.cons_cases with
            ⟨alone, spelled⟩ | ⟨front, back, joint, place, spelled, others, rfl⟩
          · have read := readEntries_cons closing fuel marker spelled here .nil
            rw [List.append_nil] at read
            rw [read, List.map_eq_nil_iff.mp alone]
            rfl
          · rw [readEntries_cons closing fuel marker spelled here .comma]
            -- the comma alone pays for the step of fuel
            have shorter : back.length < fuel := by
              simp only [List.length_append, List.length_cons] at enough
              omega
            exact ih others later shorter (change marker given)

theorem read_bears {entry : Position → Key → α → Tokens → Except Fault (α × Tokens)}
    {spelling : β → Entry} {change : α → β → α} {entries : List β} {attr : Attribute} (empty : α)
    (bears : Bears (entries.map spelling) attr)
    (reads : ∀ given ∈ entries, ∀ closing,
      Reads (entry closing) (spelling given) (change · given)) :
    read empty entry attr = .ok (entries.foldl change empty) := by
  cases bears with
  | bare input none =>
      rw [read, input, List.map_eq_nil_iff.mp none]
      rfl
  | @list tokens closing input listed =>
      rw [read, input]
      exact readEntries_listed listed (fun given member => reads given member closing)
        (Nat.lt_succ_self _) empty

theorem readText_spelled {key value : String} {place : Position} {behind : Tokens}
    (spelled : (Entry.text key value).Spelled (.word (.plain key) place :: behind))
    (rest : Tokens) : readText closing (behind ++ rest) = .ok (value, rest) := by
  cases spelled with
  | text stands =>
      change readValue closing "string" stringValue? (.literal _ _ :: rest) = _
      simp only [readValue, stringValue?, stands]
      rfl

theorem readFlag_spelled {key : String} {value : Bool} {place : Position} {behind rest : Tokens}
    (spelled : (Entry.flag key value).Spelled (.word (.plain key) place :: behind))
    (ends : Ends rest) : readFlag closing (behind ++ rest) = .ok (value, rest) := by
  cases spelled with
  | bare => cases ends <;> rfl
  | flag => cases value <;> rfl

/-! ## Type markers -/

def put (keys : LocatorKeys) (marker : Locators) (entry : String × String) : Locators :=
  match keys.slot? entry.1 with
  | some slot => marker.set slot entry.2
  | none => marker

def assigned (keys : LocatorKeys) (entries : List (String × String)) : Locators :=
  entries.foldl (put keys) .empty

/-- An attribute assigns its entries to the locators that their keys name. -/
theorem readType_bears {keys : LocatorKeys} {entries : List (String × String)} {attr : Attribute}
    (known : ∀ entry ∈ entries, (keys.slot? entry.1).isSome = true)
    (bears : Bears (entries.map fun entry => .text entry.1 entry.2) attr) :
    readType keys attr = .ok (assigned keys entries) := by
  refine read_bears Locators.empty bears ?_
  intro entry member closing place behind rest marker spelled _
  obtain ⟨slot, found⟩ := Option.isSome_iff_exists.mp (known entry member)
  have named : (⟨false, [.plain entry.1], place⟩ : Key).word?.bind keys.slot? = some slot := found
  simp only [typeEntry, Entry.key, named, readText_spelled spelled, put, found]
  rfl

/-- A locator is named by one key only. -/
theorem slot?_injective {keys : LocatorKeys} {first second : String} {slot : Option Operation}
    (firstNamed : keys.slot? first = some slot) (secondNamed : keys.slot? second = some slot) :
    first = second := by
  have listed : ∀ {key}, keys.slot? key = some slot → (key, slot) ∈ keys.entries := by
    intro key named
    obtain ⟨entry, found, same⟩ := Option.map_eq_some_iff.mp named
    have matched := List.find?_some found
    have word : entry.1 = key := eq_of_beq matched
    rw [← word, ← same]
    exact List.mem_of_find?_eq_some found
  have firstListed := listed firstNamed
  have secondListed := listed secondNamed
  simp only [LocatorKeys.entries, List.mem_cons, List.mem_append, List.mem_map, Option.mem_toList,
    Prod.mk.injEq] at firstListed secondListed
  rcases slot with _ | _ | _ | _ <;> grind

theorem set_comm (marker : Locators) {first second : Option Operation} (apart : first ≠ second)
    (value other : String) :
    (marker.set first value).set second other = (marker.set second other).set first value := by
  rcases first with _ | _ | _ | _ <;> rcases second with _ | _ | _ | _ <;>
    first | exact absurd rfl apart | rfl

/-- The order of entries with different keys does not matter. -/
theorem assigned_perm {keys : LocatorKeys} {entries others : List (String × String)}
    (distinct : (entries.map (·.1)).Nodup) (reordered : entries.Perm others) :
    assigned keys entries = assigned keys others := by
  -- two entries that set the same locator have one key, and so are the same entry
  refine reordered.foldl_eq' ?_ Locators.empty
  intro first firstMember second secondMember marker
  by_cases same : first.1 = second.1
  · rw [List.inj_on_of_nodup_map distinct firstMember secondMember same]
  · cases firstNamed : keys.slot? first.1 with
    | none => simp only [put, firstNamed]
    | some slot =>
        cases secondNamed : keys.slot? second.1 with
        | none => simp only [put, firstNamed, secondNamed]
        | some other =>
            have apart : slot ≠ other := by
              rintro rfl
              exact same (slot?_injective firstNamed secondNamed)
            simp only [put, firstNamed, secondNamed, set_comm marker apart]

theorem readMarker_eq {markers : MarkerSet} {location : Location}
    {entries : List (String × String)} {marker : Locators}
    (known : ∀ entry ∈ entries, (markers.locatorKeys.slot? entry.1).isSome = true) :
    Snapshot.readMarker markers location entries marker =
      .ok (entries.foldl (put markers.locatorKeys) marker) := by
  induction entries generalizing marker with
  | nil => rfl
  | cons entry rest ih =>
      obtain ⟨slot, found⟩ := Option.isSome_iff_exists.mp (known entry List.mem_cons_self)
      have later : ∀ other ∈ rest, (markers.locatorKeys.slot? other.1).isSome = true :=
        fun other member => known other (List.mem_cons_of_mem entry member)
      obtain ⟨key, value⟩ := entry
      simp only [Snapshot.readMarker, found, ih later, List.foldl_cons, put]

/-! ## Column markers -/

inductive ColumnEntry where
  | name (value : String)
  | key (value : Bool)
  | ignoresNull (value : Bool)

namespace ColumnEntry

def written : ColumnEntry → Entry
  | name value => .text "name" value
  | key value => .flag "key" value
  | ignoresNull value => .flag "ignore_null" value

def put (marker : ColumnMarker) : ColumnEntry → ColumnMarker
  | name value => { marker with name := value }
  | key value => { marker with isKey := value }
  | ignoresNull value => { marker with ignoresNull := value }

end ColumnEntry

theorem readColumn_bears {entries : List ColumnEntry} {attr : Attribute}
    (bears : Bears (entries.map (·.written)) attr) :
    readColumn attr = .ok (entries.foldl ColumnEntry.put .empty) := by
  refine read_bears ColumnMarker.empty bears ?_
  intro entry _ closing place behind rest marker spelled ends
  cases entry with
  | name value =>
      change (readText closing (behind ++ rest) >>= _) = _
      rw [readText_spelled spelled]
      rfl
  | key value =>
      change (readFlag closing (behind ++ rest) >>= _) = _
      rw [readFlag_spelled spelled ends]
      rfl
  | ignoresNull value =>
      change (readFlag closing (behind ++ rest) >>= _) = _
      rw [readFlag_spelled spelled ends]
      rfl

end Marker

end StorageMapping
