import StorageMapping.Proofs.Code.Language
import StorageMapping.Proofs.Text.Quoting
import StorageMapping.Unit.Statement

namespace StorageMapping

open Source Fragment

/-! # What the generated statements are

The statements of generated code, as the reader of the language finds them. Only the texts of
literals have to be looked into; all other tokens are known by their place. -/

namespace Code

variable {depth : Nat}

/-- What is read one by one is read all together. -/
theorem mapM_map_eq_some {α β γ : Type} {read : β → Option γ} {written : α → β} {meant : α → γ}
    (known : ∀ x, read (written x) = some (meant x)) (xs : List α) :
    (xs.map written).mapM read = some (xs.map meant) := by
  induction xs with
  | nil => rfl
  | cons x rest ih =>
      rw [List.map_cons, List.mapM_cons, known, ih]
      rfl

theorem length_le_countList (tokens : List Token) : tokens.length ≤ Token.countList tokens := by
  induction tokens with
  | nil => exact Nat.le_refl 0
  | cons token rest ih =>
      have counted : 1 ≤ token.count := by cases token <;> simp [Token.count]
      rw [List.length_cons, Token.countList]
      omega

/-- Reading needs some depth, and a fragment of that many tokens has it. -/
theorem readExpression_of_within {tokens : List Token} {expression : Expression} (needed : Nat)
    (long : needed ≤ tokens.length)
    (known : ∀ depth, readWithin (depth + needed) tokens = some expression) :
    readExpression tokens = some expression := by
  obtain ⟨depth, enough⟩ :=
    Nat.exists_eq_add_of_le' (Nat.le_trans long (length_le_countList tokens))
  rw [readExpression, enough, known]

theorem readWithin_text (value : String) (depth : Nat) :
    readWithin (depth + 1) (text value) = some (.text value) := by
  have known := Literal.stringValue?_quoteLiteral value
  simp only [readWithin, text, Token.ofText, readOperand, known]
  rfl

theorem readExpression_text (value : String) : readExpression (text value) = some (.text value) :=
  readExpression_of_within 1 (Nat.le_refl 1) (readWithin_text value)

/-! ## Copies -/

def copied (source : Expression) : Expression := .call ["core", "clone", "Clone", "clone"] source

theorem readWithin_clone {reference : Fragment} {source : Expression}
    (known : readWithin depth reference = some source) :
    readWithin (depth + 1) (clone reference) = some (copied source) := by
  have operand : readOperand (readWithin depth) (clone reference) =
      (readWithin depth reference).bind fun source => some (copied source, []) := rfl
  rw [readWithin, operand, known]
  rfl

theorem readExpression_clone {reference : Fragment} {source : Expression}
    (known : ∀ depth, readWithin (depth + 1) reference = some source) :
    readExpression (clone reference) = some (copied source) := by
  refine readExpression_of_within 2 (show 2 ≤ 13 by decide) fun depth => ?_
  exact readWithin_clone (known depth)

/-! ## Steps -/

theorem readSteps_nil : readSteps [] = some [] :=
  rfl

theorem readSteps_cons {tokens : Fragment} (whole : tokens.all (!isMark ';' ·) = true)
    (rest : Fragment) :
    readSteps (tokens ++ mark ";" ++ rest) =
      (readStep tokens).bind fun step => (readSteps rest).map (step :: ·) := by
  have unbroken : ∀ token ∈ tokens, isMark ';' token = false := by
    simpa using whole
  have present := List.splitOnP_ne_nil (isMark ';') rest
  obtain ⟨first, others, pieces⟩ := List.exists_cons_of_ne_nil present
  have split : (tokens ++ mark ";" ++ rest).splitOnP (isMark ';') = tokens :: first :: others := by
    rw [List.append_assoc, ← pieces]
    exact List.splitOnP_append_cons_of_forall_mem unbroken _ rfl _
  rw [readSteps, readSteps, split, pieces]
  simp only [List.getLast?_cons_cons, List.dropLast_cons_cons, List.mapM_cons]
  split
  · cases readStep tokens with
    | none => rfl
    | some step => cases (first :: others).dropLast.mapM readStep <;> rfl
  · cases readStep tokens <;> rfl

end Code

open Code

namespace ContentPut

def putStep (column : String) (source : Expression) : Step :=
  .perform "content_values" "put" [.text column, copied source]

def code (statement : ContentPut) : Statement :=
  if statement.onlyPresent then
    .ifPresent "value" (.borrowed "object" statement.field)
      [putStep statement.column (.variable "value")]
  else .single (putStep statement.column (.borrowed "object" statement.field))

theorem readStep_put (column : String) {reference : Fragment} {source : Expression}
    (known : ∀ depth, readWithin (depth + 1) reference = some source) :
    readStep (word "content_values"
      ++ method "put" (text column ++ mark "," ++ clone reference)) =
        some (putStep column source) := by
  have step : readStep (word "content_values"
      ++ method "put" (text column ++ mark "," ++ clone reference)) =
        ([text column, clone reference].mapM readExpression).bind fun arguments =>
          some (.perform "content_values" "put" arguments) := rfl
  rw [step, List.mapM_cons, List.mapM_cons, readExpression_text, readExpression_clone known]
  rfl

theorem readSteps_put (column : String) (reference : Fragment) {source : Expression}
    (known : ∀ depth, readWithin (depth + 1) reference = some source) :
    readSteps (put column reference) = some [putStep column source] := by
  have whole : (word "content_values"
      ++ method "put" (text column ++ mark "," ++ clone reference)).all (!isMark ';' ·) = true :=
    rfl
  have steps := readSteps_cons whole []
  rw [List.append_nil, readStep_put column known, readSteps_nil] at steps
  exact steps

theorem readStatement_tokens (statement : ContentPut) :
    readStatement statement.tokens = some statement.code := by
  have borrowed : ∀ depth, readWithin (depth + 1)
      (mark "&" ++ Fragment.field "object" statement.field) =
        some (.borrowed "object" statement.field) := fun _ => rfl
  unfold tokens code
  split
  · have tested : readExpression (mark "&" ++ Fragment.field "object" statement.field) =
        some (.borrowed "object" statement.field) :=
      readExpression_of_within 1 (show 1 ≤ 4 by decide) borrowed
    have steps : readSteps (put statement.column (word "value")) =
        some [putStep statement.column (.variable "value")] :=
      readSteps_put statement.column (word "value") fun _ => rfl
    -- all tokens of the condition are fixed, so the reader gets through them by computing
    have outer : readStatement (words ["if", "let"] ++ below ["core", "option", "Option", "Some"]
          ++ parens (word "value") ++ mark "="
          ++ (mark "&" ++ Fragment.field "object" statement.field)
          ++ braces (put statement.column (word "value"))) =
        (readExpression (mark "&" ++ Fragment.field "object" statement.field)).bind fun tested =>
          (readSteps (put statement.column (word "value"))).bind fun steps =>
            some (.ifPresent "value" tested steps) := rfl
    rw [outer, tested, steps]
    rfl
  · have single : readStatement (put statement.column
          (mark "&" ++ Fragment.field "object" statement.field)) =
        readSingle (put statement.column
          (mark "&" ++ Fragment.field "object" statement.field)) := rfl
    rw [single, readSingle, readSteps_put statement.column _ borrowed]

end ContentPut

namespace CursorRead

def index : Expression := .variable "index"

def located (column : String) : Expression :=
  .attempt (.method "cursor" "column_index_or_err" (.text column))

def got (type : ColumnType) : Expression :=
  let got := .attempt (.method "cursor" (getter type) index)
  if type = .boolean then .equal got (.number "1") else got

/-- The value of the field: the one that the getter gives, or an optional one. -/
def assigned (type : FieldType) : Expression :=
  if type.nullable then
    .choice (.method "cursor" "is_null" index) (.constant ["core", "option", "Option", "None"])
      (.call ["core", "option", "Option", "Some"] (got type.column))
  else got type.column

def code (statement : CursorRead) : Statement :=
  .block [
    .bind "index" (located statement.column),
    .assign "object" statement.field (assigned statement.type)]

/-- The tokens that are assigned. -/
def source (type : FieldType) : Fragment :=
  if type.nullable then
    words ["if", "cursor"] ++ method "is_null" (word "index")
      ++ braces (below ["core", "option", "Option", "None"]) ++ word "else"
      ++ braces (below ["core", "option", "Option", "Some"] ++ parens (value type.column))
  else value type.column

theorem readWithin_value (type : ColumnType) (depth : Nat) :
    readWithin (depth + 2) (value type) = some (got type) := by
  cases type <;> rfl

/-- An optional value lies two brackets deeper. -/
theorem readWithin_choice (type : ColumnType) (depth : Nat) :
    readWithin (depth + 4) (source ⟨type, true⟩) = some (assigned ⟨type, true⟩) := by
  have operand : readOperand (readWithin (depth + 3)) (source ⟨type, true⟩) =
      (readWithin (depth + 2) (value type)).bind fun got =>
        some (.choice (.method "cursor" "is_null" index)
          (.constant ["core", "option", "Option", "None"])
          (.call ["core", "option", "Option", "Some"] got), []) := by
    have called : readOperand (readWithin (depth + 2))
        (below ["core", "option", "Option", "Some"] ++ parens (value type)) =
          (readWithin (depth + 2) (value type)).bind fun got =>
            some (.call ["core", "option", "Option", "Some"] got, []) := rfl
    have branches : readOperand (readWithin (depth + 3)) (source ⟨type, true⟩) =
        (readWithin (depth + 3)
          (below ["core", "option", "Option", "Some"] ++ parens (value type))).bind fun present =>
            some (.choice (.method "cursor" "is_null" index)
              (.constant ["core", "option", "Option", "None"]) present, []) := rfl
    rw [branches, readWithin, called, readWithin_value]
    rfl
  rw [readWithin, operand, readWithin_value]
  rfl

theorem readExpression_source (type : FieldType) :
    readExpression (source type) = some (assigned type) := by
  obtain ⟨type, nullable⟩ := type
  cases nullable with
  | true => exact readExpression_of_within 4 (show 4 ≤ 8 by decide) (readWithin_choice type)
  | false =>
      have length : 2 ≤ (value type).length := by cases type <;> decide
      exact readExpression_of_within 2 length (readWithin_value type)

theorem readExpression_index (column : String) :
    readExpression (word "cursor" ++ method "column_index_or_err" (text column) ++ mark "?") =
      some (located column) := by
  refine readExpression_of_within 2 (show 2 ≤ 5 by decide) fun depth => ?_
  have operand : readOperand (readWithin (depth + 1))
      (word "cursor" ++ method "column_index_or_err" (text column) ++ mark "?") =
        (readWithin (depth + 1) (text column)).bind fun name =>
          some (.method "cursor" "column_index_or_err" name, mark "?") := rfl
  rw [readWithin, operand, readWithin_text]
  rfl

theorem readStep_index (column : String) :
    readStep (words ["let", "index"] ++ mark "=" ++ word "cursor"
      ++ method "column_index_or_err" (text column) ++ mark "?") =
        some (.bind "index" (located column)) := by
  have step : readStep (words ["let", "index"] ++ mark "=" ++ word "cursor"
      ++ method "column_index_or_err" (text column) ++ mark "?") =
        (readExpression (word "cursor" ++ method "column_index_or_err" (text column)
          ++ mark "?")).bind fun value => some (.bind "index" value) := rfl
  rw [step, readExpression_index]
  rfl

theorem readStep_field (field : Identifier) (type : FieldType) :
    readStep (Fragment.field "object" field ++ mark "=" ++ source type) =
      some (.assign "object" field (assigned type)) := by
  have step : readStep (Fragment.field "object" field ++ mark "=" ++ source type) =
      (readExpression (source type)).bind fun value => some (.assign "object" field value) := rfl
  rw [step, readExpression_source]
  rfl

theorem source_whole (type : FieldType) : (source type).all (!isMark ';' ·) = true := by
  obtain ⟨type, nullable⟩ := type
  cases nullable with
  | true => rfl
  | false => cases type <;> rfl

theorem readStatement_tokens (statement : CursorRead) :
    readStatement statement.tokens = some statement.code := by
  have parts : statement.tokens = braces (words ["let", "index"] ++ mark "=" ++ word "cursor"
      ++ method "column_index_or_err" (text statement.column) ++ mark "?" ++ mark ";"
      ++ (Fragment.field "object" statement.field ++ mark "=" ++ source statement.type
        ++ mark ";" ++ [])) := by
    simp only [tokens, source, List.append_assoc, List.append_nil]
  have whole : (Fragment.field "object" statement.field ++ mark "="
      ++ source statement.type).all (!isMark ';' ·) = true := by
    rw [List.all_append, source_whole]
    rfl
  rw [parts]
  change (readSteps _).map Statement.block = _
  rw [readSteps_cons rfl, readSteps_cons whole, readStep_index, readStep_field, readSteps_nil]
  rfl

end CursorRead

end StorageMapping
