import Mathlib.Data.List.Induction
import Mathlib.Data.Set.List
import StorageMapping.Proofs.Results
import StorageMapping.Proofs.Round.Drafts

namespace StorageMapping

/-! # The grammar of markers

Nothing but a list of entries is read as a marker. What is read is told by the last entry of every
key, so it does not matter how entries of different keys stand to each other. -/

open Source Results

namespace LocatorKeys

/-- The word that names a locator, if there is one. -/
def word? (keys : LocatorKeys) : Option Operation → Option String
  | none => some keys.common
  | some .insert => keys.insert
  | some .update => keys.update
  | some .delete => keys.delete

variable {keys : LocatorKeys} {word : String} {slot : Option Operation}

theorem mem_entries : (word, slot) ∈ keys.entries ↔ keys.word? slot = some word := by
  simp only [entries, List.mem_cons, List.mem_append, List.mem_map, Option.mem_toList,
    Prod.mk.injEq]
  rcases slot with _ | _ | _ | _ <;> simp [word?, eq_comm]

/-- Where no two keys are the same word, a word names the locator that it is the key of. -/
theorem slot?_eq_some (distinct : keys.words.Nodup) :
    keys.slot? word = some slot ↔ keys.word? slot = some word := by
  rw [← mem_entries, slot?]
  constructor
  · intro named
    obtain ⟨⟨key, found⟩, known, rfl⟩ := Option.map_eq_some_iff.mp named
    have same : key = word := by simpa using List.find?_some known
    exact same ▸ List.mem_of_find?_eq_some known
  · intro member
    cases found : keys.entries.find? (·.1 == word) with
    | none => simpa using List.find?_eq_none.mp found _ member
    | some entry =>
        have same : entry.1 = word := by simpa using List.find?_some found
        have equal : entry = (word, slot) :=
          List.inj_on_of_nodup_map distinct (List.mem_of_find?_eq_some found) member same
        rw [equal]
        rfl

theorem slot?_isSome : (keys.slot? word).isSome = true ↔ word ∈ keys.words := by
  simp [slot?, words]

end LocatorKeys

/-- The locator in a slot: the common one, or that of an operation. -/
def Locators.inSlot (locators : Locators) : Option Operation → String
  | none => locators.common
  | some operation => locators.own operation

theorem Locators.inSlot_set (locators : Locators) (slot other : Option Operation) (value : String) :
    (locators.set slot value).inSlot other =
      if other = slot then value else locators.inSlot other := by
  rcases slot with _ | _ | _ | _ <;> rcases other with _ | _ | _ | _ <;> rfl

theorem Locators.ext_inSlot {first second : Locators}
    (same : ∀ slot, first.inSlot slot = second.inSlot slot) : first = second := by
  obtain ⟨common, insert, update, delete⟩ := first
  have common := same none
  have insert := same (some .insert)
  have update := same (some .update)
  have delete := same (some .delete)
  simp only [Locators.inSlot, Locators.own] at common insert update delete
  subst common insert update delete
  rfl

namespace Marker

variable {α β : Type} {closing : Position} {tokens rest : Tokens} {word : String} {key : Key}

/-! ## What has been read -/

theorem afterOperator?_isSome {c : Char}
    (found : (Tokens.afterOperator? [c] tokens).isSome = true) :
    ∃ joint place rest, tokens = .punctuation c joint place :: rest := by
  match tokens with
  | .punctuation first joint place :: rest =>
      rw [Tokens.afterOperator?] at found
      split at found
      · rename_i same
        exact ⟨joint, place, rest, by rw [same]⟩
      · contradiction
  | [] | .word .. :: _ | .lifetime .. :: _ | .literal .. :: _ | .group .. :: _ => contradiction

theorem readSegments_eq_nil (read : readSegments closing tokens = .ok ([], rest)) :
    tokens = rest := by
  unfold readSegments at read
  split at read
  · obtain ⟨_, _, same⟩ := bind_eq_ok.mp read
    cases same
  · contradiction
  · cases read
    rfl

/-- A key that is a word takes up this word and no more. -/
theorem readKey_word (read : readKey closing tokens = .ok (key, rest))
    (isWord : key.word? = some word) : ∃ place, tokens = .word (.plain word) place :: rest := by
  rw [readKey] at read
  split at read
  · rename_i name position following path
    obtain ⟨⟨segments, behind⟩, further, same⟩ := bind_eq_ok.mp read
    cases same
    cases rooted : tokens.atOperator "::" with
    | true => simp [Key.word?, rooted] at isWord
    | false =>
        rw [rooted] at path isWord
        cases segments with
        | nil =>
            obtain ⟨text, isRaw⟩ := name
            cases isRaw with
            | true => contradiction
            | false =>
                cases isWord
                exact ⟨position, by rw [← readSegments_eq_nil further]; exact path⟩
        | cons segment segments => contradiction
  · contradiction
  · contradiction

theorem isWord_eq_true : key.isWord word = true ↔ key.word? = some word := by
  obtain ⟨rooted, path, position⟩ := key
  match rooted, path with
  | false, [⟨text, isRaw⟩] => cases isRaw <;> simp [Key.isWord, Key.word?, Identifier.isWord]
  | true, _ => simp [Key.isWord, Key.word?]
  | false, [] | false, _ :: _ :: _ => simp [Key.isWord, Key.word?]

theorem readValue_eq_ok {wanted : String} {value? : Token → Option α} {value : α}
    (read : readValue closing wanted value? tokens = .ok (value, rest)) :
    ∃ token, value? token = some value ∧ tokens = token :: rest := by
  match tokens with
  | [] => contradiction
  | token :: behind =>
      simp only [readValue] at read
      split at read
      · rename_i known
        cases read
        exact ⟨token, known, rfl⟩
      · contradiction

/-- A value stands right behind its sign. -/
theorem readValue_behind {wanted : String} {value? : Token → Option α} {value : α}
    (equals : tokens.atOperator "=" = true)
    (read : readValue closing wanted value? (tokens.skip 1) = .ok (value, rest)) :
    ∃ joint place token, value? token = some value ∧
      tokens = .punctuation '=' joint place :: token :: rest := by
  obtain ⟨joint, place, behind, rfl⟩ := afterOperator?_isSome (c := '=') equals
  obtain ⟨token, known, same⟩ := readValue_eq_ok read
  refine ⟨joint, place, token, known, ?_⟩
  rw [← same]
  rfl

/-- What is read as a text behind a key makes an entry with it. -/
theorem spelled_of_readText {value : String} (key : String)
    (read : readText closing tokens = .ok (value, rest)) :
    ∃ behind, tokens = behind ++ rest ∧
      ∀ place, (Entry.text key value).Spelled (.word (.plain key) place :: behind) := by
  rw [readText] at read
  split at read
  · rename_i equals
    obtain ⟨joint, place, token, known, rfl⟩ := readValue_behind equals read
    match token with
    | .literal literal position => exact ⟨[_, _], rfl, fun _ => .text known⟩
    | .word .. | .lifetime .. | .punctuation .. | .group .. => contradiction
  · contradiction

theorem truthValue?_eq_some {token : Token} {value : Bool}
    (known : truthValue? token = some value) :
    ∃ position, token = .word (.plain (if value then "true" else "false")) position := by
  match token with
  | .word name position =>
      rw [truthValue?] at known
      split at known
      · rename_i isTrue
        cases known
        exact ⟨position, by rw [Identifier.isWord_iff.mp isTrue]; rfl⟩
      · split at known
        · rename_i isFalse
          cases known
          exact ⟨position, by rw [Identifier.isWord_iff.mp isFalse]; rfl⟩
        · contradiction
  | .literal .. | .lifetime .. | .punctuation .. | .group .. => contradiction

/-- What is read as a flag behind a key makes an entry with it, even where it is nothing. -/
theorem spelled_of_readFlag {value : Bool} (key : String)
    (read : readFlag closing tokens = .ok (value, rest)) :
    ∃ behind, tokens = behind ++ rest ∧
      ∀ place, (Entry.flag key value).Spelled (.word (.plain key) place :: behind) := by
  rw [readFlag] at read
  split at read
  · rename_i equals
    obtain ⟨joint, place, token, known, rfl⟩ := readValue_behind equals read
    obtain ⟨position, rfl⟩ := truthValue?_eq_some known
    exact ⟨[_, _], rfl, fun _ => .flag⟩
  · cases read
    exact ⟨[], rfl, fun _ => .bare⟩

/-! ## Lists of entries -/

/-- What an entry reader takes is one of the entries that it is for, and changes the marker by
it. -/
def TakesEntries (entry : Key → α → Tokens → Except Fault (α × Tokens)) (spelling : β → Entry)
    (change : α → β → α) (known : β → Prop) : Prop :=
  ∀ key marker tokens result rest, entry key marker tokens = .ok (result, rest) →
    ∃ given behind, known given ∧ result = change marker given ∧
      key.word? = some (spelling given).key ∧ tokens = behind ++ rest ∧
      ∀ place, (spelling given).Spelled (.word (.plain (spelling given).key) place :: behind)

/-- Every step takes an entry with the comma behind it, so what has been read is a list. -/
theorem listed_of_readEntries {entry : Key → α → Tokens → Except Fault (α × Tokens)}
    {spelling : β → Entry} {change : α → β → α} {known : β → Prop}
    (takes : TakesEntries entry spelling change known) {fuel : Nat} {marker result : α}
    (enough : tokens.length < fuel)
    (read : readEntries closing entry fuel marker tokens = .ok result) :
    ∃ entries : List β, (∀ given ∈ entries, known given) ∧
      Listed (entries.map spelling) tokens ∧ result = entries.foldl change marker := by
  induction fuel generalizing tokens marker with
  | zero => omega
  | succ fuel ih =>
      match tokens with
      | [] =>
          cases read
          exact ⟨[], List.forall_mem_nil _, .nil, rfl⟩
      | token :: others =>
          rw [readEntries] at read
          · obtain ⟨⟨key, behind⟩, keyed, read⟩ := bind_eq_ok.mp read
            obtain ⟨⟨changed, rest⟩, taken, read⟩ := bind_eq_ok.mp read
            obtain ⟨given, value, isKnown, same, isWord, split, spelled⟩ := takes _ _ _ _ _ taken
            obtain ⟨place, front⟩ := readKey_word keyed isWord
            change behind = value ++ rest at split
            rw [split, ← List.cons_append] at front
            rw [front] at enough ⊢
            dsimp only at read
            split at read
            · rename_i ended
              cases read
              rw [List.isEmpty_iff.mp ended, List.append_nil]
              exact ⟨[given], List.forall_mem_singleton.mpr isKnown, .last (spelled place), same⟩
            · split at read
              · rename_i comma
                obtain ⟨joint, position, following, rfl⟩ := afterOperator?_isSome (c := ',') comma
                have shorter : following.length < fuel := by
                  simp only [List.length_append, List.length_cons] at enough
                  omega
                obtain ⟨entries, allKnown, listed, later⟩ := ih shorter read
                refine ⟨given :: entries, List.forall_mem_cons.mpr ⟨isKnown, allKnown⟩,
                  .cons (spelled place) listed, ?_⟩
                rw [later, same, List.foldl_cons]
              · contradiction
          · simp

/-- An attribute that is read bears the entries that made the marker. -/
theorem bears_of_read {entry : Position → Key → α → Tokens → Except Fault (α × Tokens)}
    {spelling : β → Entry} {change : α → β → α} {known : β → Prop} {empty result : α}
    {attr : Attribute} (takes : ∀ closing, TakesEntries (entry closing) spelling change known)
    (result_read : read empty entry attr = .ok result) :
    ∃ entries : List β, (∀ given ∈ entries, known given) ∧ Bears (entries.map spelling) attr ∧
      result = entries.foldl change empty := by
  rw [read] at result_read
  split at result_read
  · rename_i input
    cases result_read
    exact ⟨[], List.forall_mem_nil _, .bare input rfl, rfl⟩
  · rename_i tokens closing input
    obtain ⟨entries, allKnown, listed, same⟩ :=
      listed_of_readEntries (takes closing) (Nat.lt_succ_self _) result_read
    exact ⟨entries, allKnown, .list input listed, same⟩
  · contradiction

theorem takes_typeEntry (keys : LocatorKeys) (closing : Position) :
    TakesEntries (typeEntry keys closing) (fun entry : String × String => .text entry.1 entry.2)
      (put keys) (fun entry => (keys.slot? entry.1).isSome = true) := by
  intro key marker tokens result rest taken
  rw [typeEntry] at taken
  split at taken
  · rename_i slot named
    obtain ⟨word, isWord, found⟩ := Option.bind_eq_some_iff.mp named
    obtain ⟨⟨value, behind⟩, text, same⟩ := bind_eq_ok.mp taken
    cases same
    obtain ⟨front, split, spelled⟩ := spelled_of_readText word text
    exact ⟨(word, value), front, by simp [found], by simp [put, found], isWord, split, spelled⟩
  · contradiction

theorem takes_columnEntry (closing : Position) :
    TakesEntries (columnEntry closing) ColumnEntry.written ColumnEntry.put (fun _ => True) := by
  intro key marker tokens result rest taken
  rw [columnEntry] at taken
  split at taken
  · rename_i isName
    obtain ⟨⟨value, behind⟩, text, same⟩ := bind_eq_ok.mp taken
    cases same
    obtain ⟨front, split, spelled⟩ := spelled_of_readText "name" text
    exact ⟨.name value, front, trivial, rfl, isWord_eq_true.mp isName, split, spelled⟩
  · split at taken
    · rename_i isKey
      obtain ⟨⟨value, behind⟩, flag, same⟩ := bind_eq_ok.mp taken
      cases same
      obtain ⟨front, split, spelled⟩ := spelled_of_readFlag "key" flag
      exact ⟨.key value, front, trivial, rfl, isWord_eq_true.mp isKey, split, spelled⟩
    · split at taken
      · rename_i ignores
        obtain ⟨⟨value, behind⟩, flag, same⟩ := bind_eq_ok.mp taken
        cases same
        obtain ⟨front, split, spelled⟩ := spelled_of_readFlag "ignore_null" flag
        exact ⟨.ignoresNull value, front, trivial, rfl, isWord_eq_true.mp ignores, split, spelled⟩
      · contradiction

/-! ## The last entry of a key -/

namespace Entry

/-- The text of an entry under a key. -/
def text? (key : String) : Entry → Option String
  | .text given value => if given = key then some value else none
  | .flag .. => none

/-- The truth value of an entry under a key. -/
def flag? (key : String) : Entry → Option Bool
  | .flag given value => if given = key then some value else none
  | .text .. => none

/-- The entries of type markers: texts under the keys of the locators. -/
def OfType (keys : LocatorKeys) (entry : Entry) : Prop :=
  ∃ key value, key ∈ keys.words ∧ Entry.text key value = entry

/-- The entries of column markers: a text under one key and flags under two. -/
def OfColumn (entry : Entry) : Prop :=
  ∃ given : ColumnEntry, given.written = entry

theorem key_of_text? {entry : Entry} {key : String} (given : (entry.text? key).isSome = true) :
    entry.key = key := by
  cases entry with
  | text found value =>
      by_contra other
      simp [text?, show found ≠ key from other] at given
  | flag found value => contradiction

theorem key_of_flag? {entry : Entry} {key : String} (given : (entry.flag? key).isSome = true) :
    entry.key = key := by
  cases entry with
  | flag found value =>
      by_contra other
      simp [flag?, show found ≠ key from other] at given
  | text found value => contradiction

end Entry

/-- What the last of the entries gives that give anything. -/
def lastGiven (absent : α) (value? : Entry → Option α) (entries : List Entry) : α :=
  (entries.filterMap value?).getLast?.getD absent

theorem lastGiven_concat (absent : α) (value? : Entry → Option α) (entries : List Entry)
    (entry : Entry) :
    lastGiven absent value? (entries ++ [entry]) =
      (value? entry).getD (lastGiven absent value? entries) := by
  rw [lastGiven, List.filterMap_append, List.getLast?_append]
  cases given : value? entry <;> simp [given, lastGiven]

/-- Where all entries that give anything give the same, this is what they give. -/
theorem lastGiven_eq {absent value : α} {value? : Entry → Option α} {entries : List Entry}
    {entry : Entry} (member : entry ∈ entries) (given : value? entry = some value)
    (alike : ∀ other ∈ entries, ∀ found, value? other = some found → found = value) :
    lastGiven absent value? entries = value := by
  have among : value ∈ entries.filterMap value? := List.mem_filterMap.mpr ⟨entry, member, given⟩
  obtain ⟨last, ends⟩ := Option.isSome_iff_exists.mp
    (List.getLast?_isSome.mpr (List.ne_nil_of_mem among))
  obtain ⟨other, otherMember, found⟩ := List.mem_filterMap.mp (List.mem_of_getLast? ends)
  rw [lastGiven, ends, Option.getD_some]
  exact alike other otherMember last found

/-- Every locator is the text of the last entry that has its key. -/
def lastLocators (keys : LocatorKeys) (entries : List Entry) : Locators where
  common := lastGiven "" (Entry.text? keys.common) entries
  insert := keys.insert.elim "" fun key => lastGiven "" (Entry.text? key) entries
  update := keys.update.elim "" fun key => lastGiven "" (Entry.text? key) entries
  delete := keys.delete.elim "" fun key => lastGiven "" (Entry.text? key) entries

/-- The name and both flags are those of the last entry that has their key. -/
def lastColumn (entries : List Entry) : ColumnMarker where
  name := lastGiven "" (Entry.text? "name") entries
  isKey := lastGiven false (Entry.flag? "key") entries
  ignoresNull := lastGiven false (Entry.flag? "ignore_null") entries

theorem inSlot_lastLocators (keys : LocatorKeys) (entries : List Entry)
    (slot : Option Operation) :
    (lastLocators keys entries).inSlot slot =
      (keys.word? slot).elim "" fun key => lastGiven "" (Entry.text? key) entries := by
  rcases slot with _ | _ | _ | _ <;> rfl

/-- A put fills the slot that the key names, and no other. -/
theorem inSlot_put {keys : LocatorKeys} (distinct : keys.words.Nodup) (marker : Locators)
    (entry : String × String) (slot : Option Operation) :
    (put keys marker entry).inSlot slot =
      if keys.word? slot = some entry.1 then entry.2 else marker.inSlot slot := by
  rw [put]
  cases named : keys.slot? entry.1 with
  | none =>
      have foreign : keys.word? slot ≠ some entry.1 := by
        intro isWord
        rw [(LocatorKeys.slot?_eq_some distinct).mpr isWord] at named
        contradiction
      rw [if_neg foreign]
  | some found =>
      have same : keys.word? slot = some entry.1 ↔ slot = found := by
        rw [← LocatorKeys.slot?_eq_some distinct, named, Option.some_inj, eq_comm]
      simp only [Locators.inSlot_set, same]

theorem assigned_eq {keys : LocatorKeys} (distinct : keys.words.Nodup)
    (entries : List (String × String)) :
    assigned keys entries = lastLocators keys (entries.map fun entry => .text entry.1 entry.2) := by
  refine Locators.ext_inSlot fun slot => ?_
  rw [inSlot_lastLocators]
  induction entries using List.reverseRecOn with
  | nil => cases keys.word? slot <;> rcases slot with _ | _ | _ | _ <;> rfl
  | append_singleton entries entry ih =>
      have added : assigned keys (entries ++ [entry]) = put keys (assigned keys entries) entry := by
        rw [assigned, List.foldl_append]
        rfl
      rw [added, inSlot_put distinct, ih, List.map_append, List.map_singleton]
      cases keys.word? slot with
      | none => rfl
      | some key =>
          simp only [Option.some_inj, Option.elim, lastGiven_concat, Entry.text?]
          by_cases same : key = entry.1
          · rw [if_pos same, if_pos same.symm, Option.getD_some]
          · rw [if_neg same, if_neg (Ne.symm same), Option.getD_none]

theorem foldl_put_eq (entries : List ColumnEntry) :
    entries.foldl ColumnEntry.put .empty = lastColumn (entries.map (·.written)) := by
  induction entries using List.reverseRecOn with
  | nil => rfl
  | append_singleton entries entry ih =>
      rw [List.foldl_append, ih, List.map_append]
      cases entry <;>
        simp [ColumnEntry.put, ColumnEntry.written, lastColumn, lastGiven_concat, Entry.text?,
          Entry.flag?]

/-! ## The entries of an attribute -/

/-- Tokens begin with one entry at most. -/
theorem spelled_unique {first second : Entry} {front others back behind : Tokens}
    (one : first.Spelled front) (other : second.Spelled others) (ends : Ends back)
    (otherEnds : Ends behind) (same : front ++ back = others ++ behind) :
    first = second ∧ back = behind := by
  cases one with
  | text stands =>
      cases other with
      | text otherwise =>
          simp only [List.cons_append, List.nil_append, List.cons.injEq, Token.word.injEq,
            Identifier.plain, Identifier.mk.injEq, Token.literal.injEq] at same
          obtain ⟨⟨⟨rfl, -⟩, -⟩, -, ⟨rfl, -⟩, rfl⟩ := same
          exact ⟨by rw [Option.some_inj.mp (stands.symm.trans otherwise)], rfl⟩
      | bare => cases otherEnds <;> simp at same
      | flag => simp at same
  | bare =>
      cases other with
      | text => cases ends <;> simp at same
      | bare =>
          simp only [List.cons_append, List.nil_append, List.cons.injEq, Token.word.injEq,
            Identifier.plain, Identifier.mk.injEq] at same
          obtain ⟨⟨⟨rfl, -⟩, -⟩, rfl⟩ := same
          exact ⟨rfl, rfl⟩
      | flag => cases ends <;> simp at same
  | @flag key value =>
      cases other with
      | text => simp at same
      | bare => cases otherEnds <;> simp at same
      | @flag _ found =>
          simp only [List.cons_append, List.nil_append, List.cons.injEq, Token.word.injEq,
            Identifier.plain, Identifier.mk.injEq] at same
          obtain ⟨⟨⟨rfl, -⟩, -⟩, -, ⟨⟨truth, -⟩, -⟩, rfl⟩ := same
          have agree : value = found := by cases value <;> cases found <;> simp_all
          exact ⟨by rw [agree], rfl⟩

theorem Listed.unique {entries others : List Entry} (one : Listed entries tokens)
    (other : Listed others tokens) : entries = others := by
  induction one generalizing others with
  | nil =>
      generalize whole : [] = tokens at other
      cases other with
      | nil => rfl
      | last spelled => subst whole; cases spelled
      | cons => simp at whole
  | @last entry tokens spelled =>
      cases other with
      | nil => cases spelled
      | last otherwise =>
          obtain ⟨rfl, -⟩ := spelled_unique spelled otherwise .nil .nil rfl
          rfl
      | cons otherwise listed =>
          obtain ⟨-, same⟩ :=
            spelled_unique spelled otherwise .nil .comma (List.append_nil _)
          contradiction
  | @cons entry entries front back joint place spelled listed ih =>
      generalize whole : front ++ .punctuation ',' joint place :: back = tokens at other
      cases other with
      | nil => simp at whole
      | last otherwise =>
          obtain ⟨-, same⟩ := spelled_unique spelled otherwise .comma .nil (by simpa using whole)
          contradiction
      | cons otherwise later =>
          obtain ⟨rfl, same⟩ := spelled_unique spelled otherwise .comma .comma whole
          cases same
          rw [ih later]

/-- An attribute bears one list of entries. -/
theorem Bears.unique {entries others : List Entry} {attr : Attribute} (one : Bears entries attr)
    (other : Bears others attr) : entries = others := by
  rcases one with ⟨input, none⟩ | ⟨input, listed⟩ <;>
    rcases other with ⟨otherInput, otherwise⟩ | ⟨otherInput, later⟩ <;>
    rw [input] at otherInput <;> cases otherInput
  · rw [none, otherwise]
  · exact listed.unique later

/-- The same entries in another order, where those of one key follow each other as before. -/
def Reordered (entries others : List Entry) : Prop :=
  ∀ key, entries.filter (·.key = key) = others.filter (·.key = key)

/-- Neighbours with different keys may change places. -/
theorem Reordered.swap {first second : Entry} (apart : first.key ≠ second.key)
    (front back : List Entry) :
    Reordered (front ++ first :: second :: back) (front ++ second :: first :: back) := by
  intro key
  simp only [List.filter_append, List.filter_cons]
  by_cases isFirst : first.key = key
  · have notSecond : second.key ≠ key := fun isSecond => apart (isFirst.trans isSecond.symm)
    simp [isFirst, notSecond]
  · simp [isFirst]

theorem Reordered.mem {entries others : List Entry} {entry : Entry}
    (reordered : Reordered entries others) (member : entry ∈ others) : entry ∈ entries := by
  have kept : entry ∈ others.filter (·.key = entry.key) := by simpa using member
  rw [← reordered] at kept
  exact List.mem_of_mem_filter kept

/-- What the entries of a single key give is not changed by those of other keys. -/
theorem Reordered.lastGiven_eq {entries others : List Entry} {value? : Entry → Option α}
    {key : String} (reordered : Reordered entries others)
    (owned : ∀ entry, (value? entry).isSome = true → entry.key = key) (absent : α) :
    lastGiven absent value? entries = lastGiven absent value? others := by
  have restrict : ∀ given : List Entry,
      given.filterMap value? = (given.filter (·.key = key)).filterMap value? := by
    intro given
    rw [List.filterMap_filter]
    refine List.filterMap_congr fun entry _ => ?_
    by_cases own : entry.key = key
    · simp [own]
    · have nothing : value? entry = none :=
        Option.not_isSome_iff_eq_none.mp fun given => own (owned entry given)
      simp [nothing]
  rw [lastGiven, lastGiven, restrict entries, restrict others, reordered]

/-! ## Grammars -/

/-- A reader that accepts the lists of certain entries and nothing else, and for which the order of
entries with different keys does not matter. -/
structure Grammar (read : Attribute → Except Fault α) (IsEntry : Entry → Prop)
    (made : List Entry → α) : Prop where
  exact (attr : Attribute) (marker : α) :
    read attr = .ok marker ↔
      ∃ entries, Bears entries attr ∧ (∀ entry ∈ entries, IsEntry entry) ∧ marker = made entries
  unordered {entries others : List Entry} {attr other : Attribute} :
    Bears entries attr → Bears others other → Reordered entries others →
      (read attr).toOption = (read other).toOption

/-- A reader that is exact is blind to the order of entries if what they make is. -/
theorem Grammar.of_exact {read : Attribute → Except Fault α} {IsEntry : Entry → Prop}
    {made : List Entry → α}
    (exact : ∀ attr marker, read attr = .ok marker ↔
      ∃ entries, Bears entries attr ∧ (∀ entry ∈ entries, IsEntry entry) ∧ marker = made entries)
    (blind : ∀ entries others, Reordered entries others → made entries = made others) :
    Grammar read IsEntry made := by
  have follows : ∀ {entries others attr other marker}, Bears entries attr → Bears others other →
      Reordered entries others → read attr = .ok marker → read other = .ok marker := by
    intro entries others attr other marker bears otherBears reordered accepted
    obtain ⟨found, foundBears, known, rfl⟩ := (exact attr marker).mp accepted
    obtain rfl := bears.unique foundBears
    exact (exact other _).mpr ⟨others, otherBears,
      fun entry member => known entry (reordered.mem member), blind entries others reordered⟩
  refine ⟨exact, fun bears otherBears reordered => Option.ext fun marker => ?_⟩
  rw [toOption_eq_some, toOption_eq_some]
  exact ⟨follows bears otherBears reordered,
    follows otherBears bears fun key => (reordered key).symm⟩

theorem exists_spelling {spelling : β → Entry} {entries : List Entry}
    (known : ∀ entry ∈ entries, ∃ given, spelling given = entry) :
    ∃ given : List β, given.map spelling = entries :=
  (Set.ext_iff.mp (Set.range_list_map spelling) entries).mpr known

/-- A type marker is read from a list of texts under known keys, and from nothing else. -/
theorem readType_grammar {keys : LocatorKeys} (distinct : keys.words.Nodup) :
    Grammar (readType keys) (Entry.OfType keys) (lastLocators keys) := by
  refine .of_exact (fun attr marker => ⟨fun accepted => ?_, ?_⟩) fun entries others reordered => ?_
  · obtain ⟨entries, known, bears, same⟩ := bears_of_read (takes_typeEntry keys) accepted
    refine ⟨_, bears, List.forall_mem_map.mpr fun entry member => ?_,
      same.trans (assigned_eq distinct entries)⟩
    exact ⟨entry.1, entry.2, LocatorKeys.slot?_isSome.mp (known entry member), rfl⟩
  · rintro ⟨entries, bears, known, rfl⟩
    have spelled : ∀ entry ∈ entries, ∃ given : String × String,
        Entry.text given.1 given.2 = entry := by
      intro entry member
      obtain ⟨key, value, _, same⟩ := known entry member
      exact ⟨(key, value), same⟩
    obtain ⟨given, rfl⟩ := exists_spelling spelled
    rw [← assigned_eq distinct]
    refine readType_bears (fun entry member => LocatorKeys.slot?_isSome.mpr ?_) bears
    obtain ⟨key, value, listed, same⟩ := known _ (List.mem_map_of_mem member)
    cases same
    exact listed
  · refine Locators.ext_inSlot fun slot => ?_
    rw [inSlot_lastLocators, inSlot_lastLocators]
    cases keys.word? slot with
    | none => rfl
    | some key => exact reordered.lastGiven_eq (fun _ => Entry.key_of_text?) ""

/-- A column marker is read from a list of names and flags, and from nothing else. -/
theorem readColumn_grammar : Grammar readColumn Entry.OfColumn lastColumn := by
  refine .of_exact (fun attr marker => ⟨fun accepted => ?_, ?_⟩) fun entries others reordered => ?_
  · obtain ⟨entries, _, bears, same⟩ := bears_of_read takes_columnEntry accepted
    exact ⟨_, bears, List.forall_mem_map.mpr fun entry _ => ⟨entry, rfl⟩,
      same.trans (foldl_put_eq entries)⟩
  · rintro ⟨entries, bears, known, rfl⟩
    obtain ⟨given, rfl⟩ := exists_spelling known
    rw [← foldl_put_eq]
    exact readColumn_bears bears
  · rw [lastColumn, lastColumn, reordered.lastGiven_eq (fun _ => Entry.key_of_text?) "",
      reordered.lastGiven_eq (fun _ => Entry.key_of_flag?) false,
      reordered.lastGiven_eq (fun _ => Entry.key_of_flag?) false]

/-! ## Markers as attributes -/

/-- The locators of a marker under their keys. -/
def typeEntries (keys : LocatorKeys) (marker : Locators) : List Entry :=
  keys.entries.map fun entry => .text entry.1 (marker.inSlot entry.2)

theorem inSlot_typeEntries {keys : LocatorKeys} (distinct : keys.words.Nodup) (marker : Locators)
    (slot : Option Operation) :
    (lastLocators keys (typeEntries keys marker)).inSlot slot =
      if keys.word? slot = none then "" else marker.inSlot slot := by
  rw [inSlot_lastLocators]
  cases isWord : keys.word? slot with
  | none => rfl
  | some word =>
      rw [if_neg (Option.some_ne_none word)]
      have member : Entry.text word (marker.inSlot slot) ∈ typeEntries keys marker :=
        List.mem_map.mpr ⟨(word, slot), LocatorKeys.mem_entries.mpr isWord, rfl⟩
      refine lastGiven_eq member (by simp [Entry.text?]) fun other otherMember found given => ?_
      obtain ⟨⟨key, target⟩, listed, rfl⟩ := List.mem_map.mp otherMember
      simp only [Entry.text?, Option.ite_none_right_eq_some, Option.some_inj] at given
      obtain ⟨rfl, rfl⟩ := given
      -- a word is the key of one slot
      have target_eq : some target = some slot := by
        rw [← (LocatorKeys.slot?_eq_some distinct).mpr (LocatorKeys.mem_entries.mp listed),
          (LocatorKeys.slot?_eq_some distinct).mpr isWord]
      rw [Option.some_inj.mp target_eq]

/-- A type marker can be written down if it has locators for known keys only. -/
theorem readType_typeEntries {keys : LocatorKeys} (distinct : keys.words.Nodup) (name : String)
    (marker : Locators) :
    readType keys (bearer name (typeEntries keys marker)) = .ok marker ↔
      ∀ slot, keys.word? slot = none → marker.inSlot slot = "" := by
  have read : readType keys (bearer name (typeEntries keys marker)) =
      .ok (lastLocators keys (typeEntries keys marker)) := by
    refine ((readType_grammar distinct).exact _ _).mpr
      ⟨_, bears_bearer name _, List.forall_mem_map.mpr fun entry member => ?_, rfl⟩
    exact ⟨entry.1, marker.inSlot entry.2, List.mem_map_of_mem member, rfl⟩
  rw [read, Except.ok.injEq]
  constructor
  · intro same slot unknown
    rw [← same, inSlot_typeEntries distinct, if_pos unknown]
  · intro absent
    refine Locators.ext_inSlot fun slot => ?_
    rw [inSlot_typeEntries distinct]
    split
    · rename_i unknown
      exact (absent slot unknown).symm
    · rfl

theorem readColumn_all (name : String) (marker : ColumnMarker) :
    readColumn (bearer name ((ColumnEntry.all marker).map (·.written))) = .ok marker :=
  readColumn_bears (bears_bearer name _)

/-- Both readers of markers accept their grammar and nothing else, are blind to the order of entries
with different keys, and read back what a marker is written as. -/
theorem grammar_exact (keys : LocatorKeys) (distinct : keys.words.Nodup) :
    Grammar (readType keys) (Entry.OfType keys) (lastLocators keys) ∧
      Grammar readColumn Entry.OfColumn lastColumn ∧
      (∀ (name : String) (marker : Locators),
        readType keys (bearer name (typeEntries keys marker)) = .ok marker ↔
          ∀ slot, keys.word? slot = none → marker.inSlot slot = "") ∧
      ∀ (name : String) (marker : ColumnMarker),
        readColumn (bearer name ((ColumnEntry.all marker).map (·.written))) = .ok marker :=
  ⟨readType_grammar distinct, readColumn_grammar, readType_typeEntries distinct, readColumn_all⟩

/-- The last one of two entries for a key holds, wherever entries for other keys stand. -/
theorem grammar_exact_contentResolver :
    Backend.contentResolver.markers.locatorKeys.words.Nodup ∧
      readType Backend.contentResolver.markers.locatorKeys
          (bearer "m" [.text "uri" "a", .text "delete_uri" "d", .text "uri" "b"]) =
        .ok ⟨"b", "", "", "d"⟩ ∧
      (readType Backend.contentResolver.markers.locatorKeys
          (bearer "m" [.text "uri" "a", .text "delete_uri" "d", .text "uri" "b"])).toOption =
        (readType Backend.contentResolver.markers.locatorKeys
          (bearer "m" [.text "uri" "a", .text "uri" "b", .text "delete_uri" "d"])).toOption := by
  have distinct : Backend.contentResolver.markers.locatorKeys.words.Nodup := by decide
  have grammar := (grammar_exact _ distinct).1
  refine ⟨distinct, (grammar.exact _ _).mpr ⟨_, bears_bearer "m" _, ?_, rfl⟩, ?_⟩
  · simp only [List.forall_mem_cons]
    exact ⟨⟨"uri", "a", by decide, rfl⟩, ⟨"delete_uri", "d", by decide, rfl⟩,
      ⟨"uri", "b", by decide, rfl⟩, List.forall_mem_nil _⟩
  · have apart : (Entry.text "delete_uri" "d").key ≠ (Entry.text "uri" "b").key := by decide
    have swapped := Reordered.swap apart [.text "uri" "a"] []
    exact grammar.unordered (bears_bearer "m" _) (bears_bearer "m" _) swapped

end Marker

end StorageMapping
