import StorageMapping.Proofs.Round.FrontEnds
import StorageMapping.Proofs.Round.Seen
import StorageMapping.Proofs.Source.Kept
import StorageMapping.Proofs.Source.Names

namespace StorageMapping.Processing

/-! # Texts that a backend cannot tell apart

A backend makes the same of all texts in which its scan sees the same. Markers of another backend
are among the things that it does not see. -/

open Source Results

variable {backend : Backend} {config : Config} {text otherText : String} {items others : List Item}
  {file otherFile : Option String}

theorem exists_units_eq (parsed : Reader.file text = .ok items)
    (otherParsed : Reader.file otherText = .ok others)
    (same : Item.allSeen backend.markers items = Item.allSeen backend.markers others)
    {output : Output} (completed : processSource backend config file text = .ok output) :
    ∃ other, processSource backend config otherFile otherText = .ok other ∧
      other.units = output.units := by
  obtain ⟨_, round, processor, sameText, scanned, made, processed⟩ :=
    processSource_eq_ok.mp completed
  cases parsed.symm.trans sameText
  have scans := @Discovery.ofItems_of_allSeen _ file otherFile _ _ same config.moduleSegments
  rw [Round.unplaced?, scanned] at scans
  obtain ⟨otherRound, found, alike⟩ := Option.map_eq_some_iff.mp scans.symm
  have blind : ∀ type : TypeExpr,
      processor.introspect type.unplaced = processor.introspect type := by
    obtain ⟨_, _, rfl⟩ := Processor.make_eq_ok.mp made
    exact Column.classify_unplaced
  have ends := process_unplaced blind alike
  rw [processed] at ends
  cases otherProcessed : processor.process otherRound with
  | error failure =>
      rw [otherProcessed] at ends
      cases failure <;> cases ends
  | ok other =>
      rw [otherProcessed] at ends
      simp only [Relabelling.outcome, Except.ok.injEq, Output.mk.injEq] at ends
      exact ⟨other, processSource_eq_ok.mpr ⟨others, otherRound, processor, otherParsed,
        toOption_eq_some.mp found, made, otherProcessed⟩, ends.2⟩

/-- A backend makes the same units of texts in which its scan sees the same, or none of both. -/
theorem units_of_allSeen (parsed : Reader.file text = .ok items)
    (otherParsed : Reader.file otherText = .ok others)
    (same : Item.allSeen backend.markers items = Item.allSeen backend.markers others) :
    (processSource backend config file text).toOption.map (·.units) =
      (processSource backend config otherFile otherText).toOption.map (·.units) := by
  refine Option.ext fun units => ?_
  simp only [Option.map_eq_some_iff, toOption_eq_some]
  constructor
  · rintro ⟨output, completed, rfl⟩
    exact exists_units_eq parsed otherParsed same completed
  · rintro ⟨output, completed, rfl⟩
    exact exists_units_eq otherParsed parsed same.symm completed

/-- A scan gives the same round, places aside, for all texts in which it sees the same, and fails
for all of them or for none. So two backends do not disturb each other: the units of one are what
they would be if the markers of the other were deleted. What is seen of a method does not include
its parameters, and of its body only the attributes at its head; a constant that is seen has no
parameters at all, and of a type definition the parameters are only counted. -/
theorem processSource_undisturbed (parsed : Reader.file text = .ok items)
    (otherParsed : Reader.file otherText = .ok others) :
    (∀ markers, Item.allSeen markers items = Item.allSeen markers others →
      ∀ path file otherFile,
        Round.unplaced? (Discovery.ofItems ⟨markers, file⟩ path items) =
          Round.unplaced? (Discovery.ofItems ⟨markers, otherFile⟩ path others)) ∧
      (∀ backend rival, backend ∈ Backend.all → rival ∈ Backend.all → backend ≠ rival →
        Item.allSeen backend.markers (Item.allWithout rival.markers items) =
            Item.allSeen backend.markers others →
          ∀ config file otherFile,
            (processSource backend config file text).toOption.map (·.units) =
              (processSource backend config otherFile otherText).toOption.map (·.units)) ∧
      (∀ (g : Grammar) state member next,
        g.implementationMember state = .ok (some member, next) ∨
            g.traitMember state = .ok (some member, next) →
          g.KeptMember state member next) ∧
      ∀ (g : Grammar) attributes state input next,
        g.deriveInput attributes state = .ok (input, next) →
          ∃ kind named behind, g.parameters named = .ok (input.parameters, behind) ∧
            g.bodyOf kind behind = .ok (input.data, next) := by
  refine ⟨fun markers same path file otherFile => Discovery.ofItems_of_allSeen same path,
    fun backend rival member rivalMember different same config file otherFile => ?_,
    fun g state member next kept => ?_, fun g attributes state input next defined => ?_⟩
  · have apart := Backend.markers_apart member rivalMember different
    rw [Item.allSeen_without apart] at same
    exact units_of_allSeen parsed otherParsed same
  · exact kept.elim Grammar.implementationMember_kept Grammar.traitMember_kept
  · obtain ⟨kind, _, named, behind, _, _, parameters, body, _⟩ :=
      Grammar.deriveInput_parts defined
    exact ⟨kind, named, behind, parameters, body⟩

/-- A struct that is marked for both backends. -/
def sharedText : String :=
  "#[storio_content_resolver_type(uri=\"u\")]#[storio_sqlite_type(table=\"t\")]pub struct T<A>" ++
    "\x7b#[storio_sqlite_column(name=\"c\",key)]pub f:i64,pub g:A\x7d"

/-- The same struct with nothing but what belongs to one backend. -/
def ownText : String :=
  "#[storio_sqlite_type(table=\"t\")]struct T" ++
    "\x7b#[storio_sqlite_column(name=\"c\",key)]pub f:i64\x7d"

/-- What a scan for the one backend sees of both. -/
def seenStruct : List Item :=
  [.data ⟨.struct,
    [⟨false, false, [.plain "storio_sqlite_type"], .list
      [.word (.plain "table") .start, .punctuation '=' false .start, .literal "\"t\"" .start]
      .start⟩],
    .plain "T", .start, 0,
    [⟨[⟨false, false, [.plain "storio_sqlite_column"], .list
        [.word (.plain "name") .start, .punctuation '=' false .start, .literal "\"c\"" .start,
          .punctuation ',' false .start, .word (.plain "key") .start]
        .start⟩],
      true, some (.plain "f", .start), .path false [.mk (.plain "i64") .start none], .start⟩]⟩]

def isSeenStruct : List Item → Bool
  | [.data ⟨.struct,
      [⟨false, false, [typed], .list
        [.word table p1, .punctuation '=' false p2, .literal t p3] p4⟩],
      name, p5, 0,
      [⟨[⟨false, false, [columned], .list
          [.word key p6, .punctuation '=' false p7, .literal c p8, .punctuation ',' false p9,
            .word flag p10] p11⟩],
        true, some (field, p12), .path false [.mk type p13 none], p14⟩]⟩] =>
      [typed, table, name, columned, key, flag, field, type] ==
          ["storio_sqlite_type", "table", "T", "storio_sqlite_column", "name", "key", "f",
            "i64"].map .plain &&
        t == "\"t\"" && c == "\"c\"" &&
        [p1, p2, p3, p4, p5, p6, p7, p8, p9, p10, p11, p12, p13, p14].all (· == .start)
  | _ => false

theorem eq_seenStruct {items : List Item} (checked : isSeenStruct items = true) :
    items = seenStruct := by
  unfold isSeenStruct at checked
  split at checked
  · simp only [List.map_cons, List.map_nil, List.all_cons, List.all_nil, Bool.and_eq_true,
      beq_iff_eq, List.cons.injEq, and_true] at checked
    obtain ⟨⟨⟨⟨rfl, rfl, rfl, rfl, rfl, rfl, rfl, rfl⟩, rfl⟩, rfl⟩, rfl, rfl, rfl, rfl, rfl, rfl,
      rfl, rfl, rfl, rfl, rfl, rfl, rfl, rfl⟩ := checked
    rfl
  · contradiction

theorem items_of_isSeenStruct {text : String}
    (checked : (Reader.file text).toOption.any
      (isSeenStruct <| Item.allSeen Backend.sqlite.markers ·) = true) :
    ∃ items, Reader.file text = .ok items ∧
      Item.allSeen Backend.sqlite.markers items = seenStruct := by
  obtain ⟨items, parsed, seen⟩ := exists_of_any checked
  exact ⟨items, parsed, eq_seenStruct seen⟩

theorem processSource_undisturbed_struct :
    ∃ items others, Reader.file sharedText = .ok items ∧ Reader.file ownText = .ok others ∧
      Item.allSeen Backend.sqlite.markers
          (Item.allWithout Backend.contentResolver.markers items) =
        Item.allSeen Backend.sqlite.markers others ∧
      (processSource .sqlite .standard none sharedText).toOption.map (·.units) =
        (processSource .sqlite .standard none ownText).toOption.map (·.units) ∧
      ∃ output, processSource .sqlite .standard none sharedText = .ok output ∧
        output.isEmpty = false := by
  obtain ⟨items, parsed, seen⟩ := @items_of_isSeenStruct sharedText (by decide +kernel)
  obtain ⟨others, otherParsed, otherSeen⟩ := @items_of_isSeenStruct ownText (by decide +kernel)
  have listed : Backend.sqlite ∈ Backend.all := by decide
  have rivalListed : Backend.contentResolver ∈ Backend.all := by decide
  have different : Backend.sqlite ≠ Backend.contentResolver := by decide
  have same : Item.allSeen Backend.sqlite.markers
      (Item.allWithout Backend.contentResolver.markers items) =
        Item.allSeen Backend.sqlite.markers others := by
    rw [Item.allSeen_without (Backend.markers_apart listed rivalListed different), seen, otherSeen]
  have units := (processSource_undisturbed parsed otherParsed).2.1 .sqlite .contentResolver listed
    rivalListed different same .standard none none
  have accepted : (processSource .sqlite .standard none sharedText).toOption.any
      (!·.isEmpty) = true := by decide +kernel
  obtain ⟨output, completed, filled⟩ := exists_of_any accepted
  exact ⟨items, others, parsed, otherParsed, same, units, output, completed, by simpa using filled⟩

/-! What is in the parameters of a constant and at the head of a body is not out of sight. -/

def constantText (parameters : String) : String :=
  "impl T\x7b#[storio_sqlite_column(name=\"c\")]const X" ++ parameters ++ ":u8=1;\x7d"

def methodWith (body : String) : String := "impl T\x7bfn f()\x7b" ++ body ++ "\x7d\x7d"

/-- Both texts are scanned, and what is found in one is not what is found in the other. -/
def ScansApart (text other : String) : Prop :=
  ∃ first second, scanSource .sqlite .standard none text = .ok first ∧
    scanSource .sqlite .standard none other = .ok second ∧ first.unplaced ≠ second.unplaced

def elementCount? (text : String) : Option Nat :=
  (scanSource .sqlite .standard none text).toOption.map (·.columns.length)

theorem scansApart_of_elementCount? {text other : String} {count otherCount : Nat}
    (counted : elementCount? text = some count)
    (otherCounted : elementCount? other = some otherCount) (different : count ≠ otherCount) :
    ScansApart text other := by
  obtain ⟨first, found, rfl⟩ := Option.map_eq_some_iff.mp counted
  obtain ⟨second, otherFound, rfl⟩ := Option.map_eq_some_iff.mp otherCounted
  refine ⟨first, second, toOption_eq_some.mp found, toOption_eq_some.mp otherFound, fun same => ?_⟩
  have columns := congrArg (fun round : Round => round.columns.length) same
  simp only [Round.unplaced, Relabelling.round, List.length_map] at columns
  exact different columns

/-- A constant that has parameters is lost, and a marker at the head of a body is one of the
method. -/
theorem parameters_and_bodies_seen :
    ScansApart (constantText "") (constantText "<A>") ∧
      ScansApart (methodWith "") (methodWith "#![storio_sqlite_column(name=\"c\")]") := by
  have plain : elementCount? (constantText "") = some 1 := by decide +kernel
  have generic : elementCount? (constantText "<A>") = some 0 := by decide +kernel
  have empty : elementCount? (methodWith "") = some 0 := by decide +kernel
  have headed : elementCount? (methodWith "#![storio_sqlite_column(name=\"c\")]") = some 1 := by
    decide +kernel
  exact ⟨scansApart_of_elementCount? plain generic (by decide),
    scansApart_of_elementCount? empty headed (by decide)⟩

end StorageMapping.Processing
