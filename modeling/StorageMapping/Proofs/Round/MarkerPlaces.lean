import StorageMapping.Proofs.Round.MarkerGrammar
import StorageMapping.Proofs.Source.Takes

namespace StorageMapping

/-! # Markers in other places

What a marker tells does not depend on where its tokens stand in a text. -/

open Source Results

namespace Source

def AttributeInput.unplaced : AttributeInput → AttributeInput
  | .none => .none
  | .list tokens _ => .list (unplacedTokens tokens) .start
  | .value _ => .value .start

/-- An attribute as it would stand in no text. -/
def Attribute.unplaced (attr : Attribute) : Attribute :=
  { attr with input := attr.input.unplaced }

theorem Attribute.unplaced_unplaced (attr : Attribute) :
    attr.unplaced.unplaced = attr.unplaced := by
  obtain ⟨isInner, rooted, path, input⟩ := attr
  cases input with
  | none => rfl
  | list tokens closing =>
      simp only [unplaced, AttributeInput.unplaced, unplacedTokens_unplaced]
  | value equals => rfl

/-- An attribute has one name. -/
theorem Attribute.isNamed_unique {attr : Attribute} {name other : String}
    (named : attr.isNamed name = true) (alsoNamed : attr.isNamed other = true) : name = other := by
  rw [isNamed, Bool.and_eq_true] at named alsoNamed
  split at named
  · rename_i word single
    simp only [single, Identifier.isWord, Bool.and_eq_true, beq_iff_eq] at named alsoNamed
    rw [← named.2.2, alsoNamed.2.2]
  · exact absurd named.2 Bool.false_ne_true

end Source

namespace Marker

theorem Entry.Spelled.alike {entry : Entry} {view tokens : Tokens} (spelled : entry.Spelled view)
    (alike : Tokens.Alike tokens view) : entry.Spelled tokens := by
  cases spelled with
  | text stands =>
      obtain ⟨_, _, rfl, behind⟩ := alike.word
      obtain ⟨_, _, rfl, last⟩ := behind.punctuation
      obtain ⟨_, _, rfl, ended⟩ := last.literal
      obtain rfl := ended.nil
      exact .text stands
  | bare =>
      obtain ⟨_, _, rfl, ended⟩ := alike.word
      obtain rfl := ended.nil
      exact .bare
  | flag =>
      obtain ⟨_, _, rfl, behind⟩ := alike.word
      obtain ⟨_, _, rfl, last⟩ := behind.punctuation
      obtain ⟨_, _, rfl, ended⟩ := last.word
      obtain rfl := ended.nil
      exact .flag

theorem Listed.alike {entries : List Entry} {view tokens : Tokens} (listed : Listed entries view)
    (alike : Tokens.Alike tokens view) : Listed entries tokens := by
  induction listed generalizing tokens with
  | nil =>
      obtain rfl := alike.nil
      exact .nil
  | last spelled => exact .last (spelled.alike alike)
  | cons spelled _ ih =>
      obtain ⟨_, _, rfl, before, behind⟩ := alike.append
      obtain ⟨_, _, rfl, others⟩ := behind.punctuation
      exact .cons (spelled.alike before) (ih others)

variable {attr other : Attribute}

theorem Bears.alike {entries : List Entry} (bears : Bears entries other)
    (same : attr.unplaced = other.unplaced) : Bears entries attr := by
  have inputs : attr.input.unplaced = other.input.unplaced := congrArg Attribute.input same
  cases bears with
  | bare input none =>
      rw [input] at inputs
      cases held : attr.input with
      | none => exact .bare held none
      | _ => rw [held] at inputs; cases inputs
  | list input listed =>
      rw [input] at inputs
      cases held : attr.input with
      | list tokens closing =>
          rw [held] at inputs
          exact .list held (listed.alike (AttributeInput.list.inj inputs).1)
      | _ => rw [held] at inputs; cases inputs

theorem readType_alike {keys : LocatorKeys} (same : attr.unplaced = other.unplaced) :
    (readType keys attr).toOption = (readType keys other).toOption := by
  have forward : ∀ {one another : Attribute} {marker}, one.unplaced = another.unplaced →
      readType keys one = .ok marker → readType keys another = .ok marker := by
    intro one another marker same read
    obtain ⟨entries, known, bears, rfl⟩ := bears_of_read (takes_typeEntry keys) read
    exact readType_bears known (bears.alike same.symm)
  refine Option.ext fun marker => ?_
  rw [toOption_eq_some, toOption_eq_some]
  exact ⟨forward same, forward same.symm⟩

theorem readColumn_alike (same : attr.unplaced = other.unplaced) :
    (readColumn attr).toOption = (readColumn other).toOption := by
  have forward : ∀ {one another : Attribute} {marker}, one.unplaced = another.unplaced →
      readColumn one = .ok marker → readColumn another = .ok marker := by
    intro one another marker same read
    obtain ⟨entries, _, bears, rfl⟩ := bears_of_read takes_columnEntry read
    exact readColumn_bears (bears.alike same.symm)
  refine Option.ext fun marker => ?_
  rw [toOption_eq_some, toOption_eq_some]
  exact ⟨forward same, forward same.symm⟩

end Marker

end StorageMapping
