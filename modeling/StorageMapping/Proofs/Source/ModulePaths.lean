import StorageMapping.Proofs.Source.TidyingGrammar
import StorageMapping.Proofs.Unit.Paths

namespace StorageMapping.Source

/-! # Paths of modules

A module path is a row of words with double colons between them, and perhaps in front. The parser of
paths takes these paths, and besides them paths with arguments and paths through the word `try`. -/

open StorageMapping.Source.Parser

/-- A word that the parser takes as a segment. One of them is a keyword that is no part of paths. -/
def Identifier.Heads (name : Identifier) : Prop := name.IsSegment ∨ name = .plain "try"

/-- The path of a module with these names. -/
def TypeExpr.ofNames (rooted : Bool) (names : List Identifier) : TypeExpr :=
  .path rooted (names.map fun name => .mk name .start none)

/-- A text that is the path of a module: its tokens are words that can stand in paths, with double
colons between them and perhaps in front. -/
def IsModulePath (text : String) : Prop :=
  ∃ (tokens : List Token) (rooted : Bool) (names : List Identifier),
    tokenize text.toList = some tokens ∧ names ≠ [] ∧ (∀ name ∈ names, name.IsSegment) ∧
      Tokens.Alike tokens
        ((if rooted then Token.ofOperator "::" else []) ++ Naming.pathTokens names)

theorem TypeExpr.tokens_ofNames (rooted : Bool) (names : List Identifier) :
    (ofNames rooted names).tokens =
      (if rooted then Token.ofOperator "::" else []) ++ Naming.pathTokens names := by
  rw [← tokens_pathType names]
  rfl

/-! ## Double colons -/

namespace Tokens

theorem colons_of_afterOperator? {tokens rest : Tokens}
    (found : afterOperator? "::".toList tokens = some rest) :
    ∃ joint first second,
      tokens = .punctuation ':' true first :: .punctuation ':' joint second :: rest := by
  have colons : "::".toList = [':', ':'] := rfl
  rw [colons] at found
  obtain ⟨outer, first, behind, rfl⟩ := Token.head_of_afterOperator? found
  rw [afterOperator?] at found
  · split at found
    · rename_i joined
      obtain ⟨joint, second, last, rfl⟩ := Token.head_of_afterOperator? found
      simp_all [afterOperator?]
    · contradiction
  · simp

/-- In front of a word, the second colon is the last sign of its operator. -/
theorem alike_colons {tokens rest view : Tokens} (tidy : Tidy tokens)
    (found : afterOperator? "::".toList tokens = some rest) (word : rest.atAnyWord = true)
    (alike : Alike rest view) : Alike tokens (Token.ofOperator "::" ++ view) := by
  obtain ⟨joint, first, second, rfl⟩ := colons_of_afterOperator? found
  have last : joint = false := by
    rw [← Bool.not_eq_true]
    rintro rfl
    obtain ⟨follower, next, continues⟩ := tidy.tail.spaced.1
    match rest, word with
    | .word _ _ :: _, _ =>
        cases next
        exact continues
  subst last
  have same : unplacedTokens rest = unplacedTokens view := alike
  simp [Alike, unplacedTokens, Token.unplaced, Token.ofOperator, Token.operator, same]

theorem alike_word {name : Identifier} {position : Position} {rest view : Tokens}
    (alike : Alike rest view) :
    Alike (.word name position :: rest) ([.word name position] ++ view) := by
  have same : unplacedTokens rest = unplacedTokens view := alike
  simp [Alike, unplacedTokens, same]

end Tokens

namespace Parser

variable {state next : ParserState}

/-- What is run quietly takes the same tokens. -/
theorem quiet_eq_ok {α : Type} {parser : Parser α} {value : α}
    (parsed : quiet parser state = .ok (value, next)) :
    ∃ start left, start.rest = state.rest ∧ parser start = .ok (value, left) ∧
      left.rest = next.rest := by
  obtain ⟨_, _, captured, parsed⟩ := bind_eq_ok.mp parsed
  obtain ⟨rfl, rfl⟩ := pure_eq_ok.mp parsed
  obtain ⟨_, _, looked, captured⟩ := bind_eq_ok.mp captured
  obtain ⟨_, _, cleared, captured⟩ := bind_eq_ok.mp captured
  obtain ⟨_, left, completed, captured⟩ := bind_eq_ok.mp captured
  obtain ⟨_, _, lookedAgain, captured⟩ := bind_eq_ok.mp captured
  obtain ⟨_, _, restored, captured⟩ := bind_eq_ok.mp captured
  cases looked
  cases cleared
  cases lookedAgain
  cases restored
  cases captured
  exact ⟨{ state with written := [] }, left, rfl, completed, rfl⟩

end Parser

namespace Grammar

variable {g : Grammar} [g.GoesForward] {state next : ParserState} {inExpression : Bool}

/-! ## Segments -/

omit [g.GoesForward] in
/-- Arguments may follow any word but the keywords, and nothing else belongs to the segment. -/
theorem segmentBehind_eq_ok {segment : PathSegment} {found : Identifier × Position}
    {tokens : Tokens} (heads : found.1.Heads) (held : tokens = .word found.1 found.2 :: state.rest)
    (parsed : g.segmentBehind inExpression found state = .ok (segment, next)) :
    segment.name.Heads ∧ tokens.atAnyWord = true ∧
      (segment.arguments = none →
        tokens = .word segment.name segment.position :: next.rest) := by
  subst held
  replace parsed := ahead_bind_eq_ok.mp parsed
  rcases ite_eq_ok.mp parsed with ⟨_, parsed⟩ | ⟨_, parsed⟩
  · obtain ⟨_, _, _, parsed⟩ := bind_eq_ok.mp parsed
    obtain ⟨rfl, _⟩ := pure_eq_ok.mp parsed
    exact ⟨heads, rfl, nofun⟩
  · obtain ⟨rfl, rfl⟩ := pure_eq_ok.mp parsed
    exact ⟨heads, rfl, fun _ => rfl⟩

omit [g.GoesForward] in
/-- A segment begins with its word, which is all of it unless it has arguments. -/
theorem segmentForm_eq_ok {segment : PathSegment}
    (parsed : g.segmentForm inExpression state = .ok (segment, next)) :
    segment.name.Heads ∧ state.rest.atAnyWord = true ∧
      (segment.arguments = none →
        state.rest = .word segment.name segment.position :: next.rest) := by
  obtain ⟨_, start, here, parsed⟩ := bind_eq_ok.mp parsed
  obtain ⟨rfl, rfl⟩ := ahead_eq_ok.mp here
  rcases ite_eq_ok.mp parsed with ⟨keyword, parsed⟩ | ⟨_, parsed⟩
  · obtain ⟨found, _, read, parsed⟩ := bind_eq_ok.mp parsed
    obtain ⟨rfl, rfl⟩ := pure_eq_ok.mp parsed
    have held := anyWord_eq_ok read
    refine ⟨?_, by rw [held]; rfl, fun _ => held⟩
    rw [held] at keyword
    simp only [Tokens.atOneOf, Tokens.atWord, List.any_cons, List.any_nil, Bool.or_false,
      Bool.or_eq_true, Identifier.isWord_iff] at keyword
    rcases keyword with word | word | word | word
    · exact .inl (.inr ⟨_, by decide, word⟩)
    · exact .inl (.inr ⟨_, by decide, word⟩)
    · exact .inl (.inr ⟨_, by decide, word⟩)
    · exact .inr word
  · rcases ite_eq_ok.mp parsed with ⟨self, parsed⟩ | ⟨_, parsed⟩
    · obtain ⟨found, _, read, parsed⟩ := bind_eq_ok.mp parsed
      have held := anyWord_eq_ok read
      rw [held] at self
      have heads : found.1.Heads := .inl (.inr ⟨_, by decide, Identifier.isWord_iff.mp self⟩)
      exact segmentBehind_eq_ok heads held parsed
    · obtain ⟨found, _, read, parsed⟩ := bind_eq_ok.mp parsed
      obtain ⟨isName, read⟩ := anyWord_of_name read
      exact segmentBehind_eq_ok (.inl (.inl isName)) (anyWord_eq_ok read) parsed

omit [g.GoesForward] in
theorem tokens_bare {segment : PathSegment} (bare : segment.arguments = none) :
    segment.tokens = [.word segment.name segment.position] := by
  obtain ⟨name, position, _ | arguments⟩ := segment
  · rfl
  · cases bare

/-- Segments that were read, and where none of them has arguments, the tokens that they took. -/
structure Segments (tokens rest view : Tokens) (segments : List PathSegment) : Prop where
  heads : ∀ segment ∈ segments, segment.name.Heads
  bare : (∀ segment ∈ segments, segment.arguments = none) → Tokens.Alike tokens (view ++ rest)

/-- Do colons and another segment follow? -/
def atFurther (tokens : Tokens) : Bool :=
  tokens.atOperator "::" && !(tokens.skip 2).atGroup .parenthesis

/-- A segment behind its colons. -/
def furtherSegment (g : Grammar) (inExpression : Bool) : Parser PathSegment := do
  operator "::"
  g.segmentForm inExpression

theorem furtherSegments_eq_ok {fuel : Nat} {segments : List PathSegment} (tidy : Tidy state.rest)
    (parsed : manyWithin (do
      if atFurther (← ahead) then return some (← g.furtherSegment inExpression) else return none)
        fuel state = .ok (segments, next)) :
    Segments state.rest next.rest (furtherTokens segments) segments := by
  induction fuel generalizing state segments with
  | zero =>
      obtain ⟨rfl, rfl⟩ := pure_eq_ok.mp parsed
      exact ⟨nofun, fun _ => rfl⟩
  | succ fuel ih =>
      obtain ⟨result, middle, stepped, parsed⟩ := bind_eq_ok.mp parsed
      obtain ⟨_, start, here, stepped⟩ := bind_eq_ok.mp stepped
      obtain ⟨rfl, rfl⟩ := ahead_eq_ok.mp here
      rcases ite_eq_ok.mp stepped with ⟨_, stepped⟩ | ⟨_, stepped⟩
      · obtain ⟨segment, _, taken, stepped⟩ := bind_eq_ok.mp stepped
        obtain ⟨rfl, rfl⟩ := pure_eq_ok.mp stepped
        obtain ⟨others, _, repeated, parsed⟩ := bind_eq_ok.mp parsed
        obtain ⟨rfl, rfl⟩ := pure_eq_ok.mp parsed
        obtain ⟨_, behind, colons, taken⟩ := bind_eq_ok.mp taken
        have found := operator_eq_ok colons
        obtain ⟨heads, word, whole⟩ := segmentForm_eq_ok taken
        have left := (Forward.suffix taken).trans (Forward.suffix colons)
        have rest := ih (tidy.of_suffix left) repeated
        refine ⟨List.forall_mem_cons.mpr ⟨heads, rest.heads⟩, fun bare => ?_⟩
        obtain ⟨first, later⟩ := List.forall_mem_cons.mp bare
        rw [furtherTokens, List.flatMap_cons, List.append_assoc, List.append_assoc,
          tokens_bare first]
        refine Tokens.alike_colons tidy found word ?_
        rw [whole first]
        exact Tokens.alike_word (rest.bare later)
      · obtain ⟨rfl, rfl⟩ := pure_eq_ok.mp stepped
        obtain ⟨rfl, rfl⟩ := pure_eq_ok.mp parsed
        exact ⟨nofun, fun _ => rfl⟩

theorem segmentsForm_eq_ok {segments : List PathSegment} (tidy : Tidy state.rest)
    (parsed : g.segmentsForm inExpression state = .ok (segments, next)) :
    segments ≠ [] ∧ state.rest.atAnyWord = true ∧
      Segments state.rest next.rest (segmentsTokens segments) segments := by
  obtain ⟨first, _, taken, parsed⟩ := bind_eq_ok.mp parsed
  obtain ⟨more, _, repeated, parsed⟩ := bind_eq_ok.mp parsed
  obtain ⟨rfl, rfl⟩ := pure_eq_ok.mp parsed
  obtain ⟨_, start, here, repeated⟩ := bind_eq_ok.mp repeated
  obtain ⟨rfl, rfl⟩ := ahead_eq_ok.mp here
  obtain ⟨heads, word, whole⟩ := segmentForm_eq_ok taken
  have rest := furtherSegments_eq_ok (tidy.of_suffix (Forward.suffix taken)) repeated
  refine ⟨nofun, word, List.forall_mem_cons.mpr ⟨heads, rest.heads⟩, fun bare => ?_⟩
  obtain ⟨alone, later⟩ := List.forall_mem_cons.mp bare
  rw [segmentsTokens_cons, List.append_assoc, tokens_bare alone, whole alone]
  exact Tokens.alike_word (rest.bare later)

theorem pathForm_eq_ok {type : TypeExpr} (tidy : Tidy state.rest)
    (parsed : g.pathForm inExpression state = .ok (type, next)) :
    ∃ rooted segments, type = .path rooted segments ∧ segments ≠ [] ∧
      Segments state.rest next.rest type.tokens segments := by
  obtain ⟨rooted, _, accepted, parsed⟩ := bind_eq_ok.mp parsed
  obtain ⟨segments, _, taken, parsed⟩ := bind_eq_ok.mp parsed
  obtain ⟨rfl, rfl⟩ := pure_eq_ok.mp parsed
  have left := tidy.of_suffix (Forward.suffix accepted)
  obtain ⟨present, word, heads, bare⟩ := segmentsForm_eq_ok left taken
  refine ⟨rooted, segments, rfl, present, heads, fun each => ?_⟩
  rw [TypeExpr.tokens]
  rcases acceptOperator_eq_ok accepted with ⟨rfl, found⟩ | ⟨rfl, _, rfl⟩
  · rw [if_pos rfl, List.append_assoc]
    exact Tokens.alike_colons tidy found word (bare each)
  · exact bare each

end Grammar

/-! ## Texts -/

/-- What is read as a path has segments. Where none of them has arguments, they are the text. -/
theorem Reader.path_eq_ok {text : String} {type : TypeExpr}
    (read : Reader.path text = .ok type) :
    ∃ tokens rooted segments, tokenize text.toList = some tokens ∧
      type = .path rooted segments ∧ segments ≠ [] ∧
      Grammar.Segments tokens [] type.tokens segments := by
  rw [Reader.path, parseAll] at read
  split at read
  · contradiction
  · rename_i tokens tokenized
    obtain ⟨_, parsed⟩ := runAll_eq_ok.mp read
    obtain ⟨_, _, quietly, parsed⟩ := bind_eq_ok.mp parsed
    obtain ⟨_, _, written, parsed⟩ := bind_eq_ok.mp parsed
    obtain ⟨rfl, same⟩ := pure_eq_ok.mp parsed
    cases written
    obtain ⟨start, left, opened, taken, ended⟩ := quiet_eq_ok quietly
    obtain ⟨rooted, segments, rfl, present, all⟩ :=
      Grammar.pathForm_eq_ok (opened ▸ tokenize_tidy tokenized) taken
    have empty := congrArg ParserState.rest same
    rw [opened, ended] at all
    dsimp only at empty all
    rw [empty] at all
    exact ⟨tokens, rooted, segments, tokenized, rfl, present, all⟩

/-- What every grammar takes that nests deep enough is read from the text of its tokens. -/
theorem Reader.parseAll_render {α : Type} {parser : Grammar → Parser α} {tokens : List Token}
    {claim : α → Prop} (tidy : Tidy tokens)
    (taken : ∀ {g : Grammar}, g.Deep 24 → Takes (parser g) tokens [] claim) :
    ∃ value, parseAll parser (render tokens) = .ok value ∧ claim value := by
  obtain ⟨found, tokenized, alike⟩ := tokenize_render tidy
  have deep : (Grammar.ofDepth (8 * Token.countList found + 24)).Deep 24 :=
    (Grammar.Deep.ofDepth _).mono (Nat.le_add_left 24 _)
  obtain ⟨value, read, holds⟩ := (taken deep).runAll alike
  refine ⟨value, ?_, holds⟩
  rw [parseAll, tokenized]
  exact read

namespace Grammar

/-- A type is a plain path where it is one but for places. -/
theorem isPlain_unplaced {type : TypeExpr} : IsPlain type.unplaced ↔ IsPlain type := by
  cases type with
  | path rooted segments =>
      rw [TypeExpr.unplaced, unplacedSegments_eq_map]
      refine and_congr (by simp) (List.forall_mem_map.trans (forall₂_congr fun segment _ => ?_))
      obtain ⟨name, position, arguments⟩ := segment
      cases arguments with
      | none =>
          constructor
          all_goals
            rintro ⟨_, _, same, isSegment⟩
            cases same
            exact ⟨name, _, rfl, isSegment⟩
      | some arguments =>
          constructor
          all_goals
            rintro ⟨_, _, same, _⟩
            cases same
  | _ => rfl

theorem isPlain_ofNames {rooted : Bool} {names : List Identifier} (present : names ≠ [])
    (segments : ∀ name ∈ names, name.IsSegment) : IsPlain (.ofNames rooted names) :=
  isPlain_pathType present segments

/-- A plain path is the path of its names. -/
theorem IsPlain.names {type : TypeExpr} (plain : IsPlain type) :
    ∃ rooted names, names ≠ [] ∧ (∀ name ∈ names, name.IsSegment) ∧
      type.unplaced = .ofNames rooted names := by
  cases type with
  | path rooted segments =>
      refine ⟨rooted, segments.map (·.name), by simpa using plain.1, ?_, ?_⟩
      · intro name member
        obtain ⟨segment, inPath, rfl⟩ := List.mem_map.mp member
        obtain ⟨_, _, rfl, isSegment⟩ := plain.2 segment inPath
        exact isSegment
      · rw [TypeExpr.unplaced, TypeExpr.ofNames, unplacedSegments_eq_map, List.map_map]
        refine congrArg _ (List.map_congr_left fun segment inPath => ?_)
        obtain ⟨_, _, rfl, _⟩ := plain.2 segment inPath
        rfl
  | _ => exact plain.elim

/-- What is read as a path is plain where its segments have no arguments and avoid the keyword. -/
theorem isPlain_path {rooted : Bool} {segments : List PathSegment} (present : segments ≠ []) :
    IsPlain (.path rooted segments) ↔
      ∀ segment ∈ segments, segment.arguments = none ∧ segment.name.IsSegment := by
  refine (and_iff_right present).trans (forall₂_congr fun segment _ => ?_)
  obtain ⟨name, position, arguments⟩ := segment
  constructor
  · rintro ⟨_, _, same, isSegment⟩
    cases same
    exact ⟨rfl, isSegment⟩
  · rintro ⟨none, isSegment⟩
    exact ⟨name, position, by rw [← none]; rfl, isSegment⟩

end Grammar

open Grammar

/-- The path of a module is read, as the plain path that it is. -/
theorem IsModulePath.read {text : String} (isModule : IsModulePath text) :
    ∃ type, Reader.path text = .ok type ∧ IsPlain type := by
  obtain ⟨tokens, rooted, names, tokenized, present, segments, alike⟩ := isModule
  have plain : IsPlain (.ofNames rooted names) := isPlain_ofNames present segments
  rw [← TypeExpr.tokens_ofNames] at alike
  have taken : Takes ((Grammar.ofDepth (8 * Token.countList tokens + 24)).path false)
      ((TypeExpr.ofNames rooted names).tokens ++ []) []
      (·.unplaced = (TypeExpr.ofNames rooted names).unplaced) :=
    takes_printed (takes_pathForm plain.1 ⟨rfl, fun _ => rfl⟩ plain.takesSegment)
  rw [List.append_nil] at taken
  obtain ⟨type, read, same⟩ := taken.runAll alike
  refine ⟨type, ?_, isPlain_unplaced.mp (same ▸ isPlain_unplaced.mpr plain)⟩
  rw [Reader.path, Reader.parseAll, tokenized]
  exact read

/-- Among the texts that are read as paths, those of modules are read as plain paths. -/
theorem isModulePath_iff {text : String} {type : TypeExpr} (read : Reader.path text = .ok type) :
    IsModulePath text ↔ IsPlain type := by
  constructor
  · intro isModule
    obtain ⟨found, readToo, plain⟩ := isModule.read
    cases read.symm.trans readToo
    exact plain
  · intro plain
    obtain ⟨tokens, rooted, segments, tokenized, rfl, present, all⟩ := Reader.path_eq_ok read
    have alike := all.bare fun segment member => ((isPlain_path present).mp plain segment member).1
    obtain ⟨rooted, names, filled, isSegment, same⟩ := plain.names
    refine ⟨tokens, rooted, names, tokenized, filled, isSegment, ?_⟩
    rw [← TypeExpr.tokens_ofNames, ← same, TypeExpr.tokens_unplaced]
    rw [List.append_nil] at alike
    rw [Tokens.Alike, alike, ← unplacedTokens_eq_map, unplacedTokens_unplaced]

end StorageMapping.Source
