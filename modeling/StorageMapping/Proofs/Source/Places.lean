import StorageMapping.Column

namespace StorageMapping

/-! # Types without places

The places at which the parts of a type stand are neither printed nor looked at when the type is
classified. -/

open Source

namespace Source

mutual

/-- A token as it would stand in no text. -/
def Token.unplaced : Token → Token
  | .word name _ => .word name .start
  | .lifetime name _ => .lifetime name .start
  | .punctuation char joint _ => .punctuation char joint .start
  | .literal text _ => .literal text .start
  | .group delimiter inner _ _ => .group delimiter (unplacedTokens inner) .start .start

def unplacedTokens : List Token → List Token
  | [] => []
  | token :: rest => token.unplaced :: unplacedTokens rest

end

theorem unplacedTokens_eq_map (tokens : List Token) :
    unplacedTokens tokens = tokens.map Token.unplaced := by
  induction tokens with
  | nil => rfl
  | cons token rest ih => rw [unplacedTokens, ih, List.map_cons]

theorem unplacedTokens_append (front back : List Token) :
    unplacedTokens (front ++ back) = unplacedTokens front ++ unplacedTokens back := by
  simp only [unplacedTokens_eq_map, List.map_append]

mutual

theorem Token.unplaced_unplaced : ∀ token : Token, token.unplaced.unplaced = token.unplaced
  | .word _ _ => rfl
  | .lifetime _ _ => rfl
  | .punctuation _ _ _ => rfl
  | .literal _ _ => rfl
  | .group _ inner _ _ => by
      rw [Token.unplaced, Token.unplaced, unplacedTokens_unplaced inner]

theorem unplacedTokens_unplaced : ∀ tokens : List Token,
    unplacedTokens (unplacedTokens tokens) = unplacedTokens tokens
  | [] => rfl
  | token :: rest => by
      rw [unplacedTokens, unplacedTokens, token.unplaced_unplaced, unplacedTokens_unplaced rest]

end

namespace Token

theorem isJoint_unplaced (token : Token) : token.unplaced.isJoint = token.isJoint := by
  cases token <;> rfl

mutual

theorem text_unplaced : ∀ token : Token, token.unplaced.text = token.text
  | .word _ _ => rfl
  | .lifetime _ _ => rfl
  | .punctuation _ _ _ => rfl
  | .literal _ _ => rfl
  | .group delimiter inner _ _ => by
      rw [unplaced, text, text, listText_unplaced inner]

theorem listText_unplaced : ∀ tokens : List Token, listText (unplacedTokens tokens) =
    listText tokens
  | [] => rfl
  | [token] => text_unplaced token
  | token :: next :: rest => by
      have following := listText_unplaced (next :: rest)
      rw [unplacedTokens] at following ⊢
      rw [unplacedTokens, listText, listText, text_unplaced token, isJoint_unplaced, following]

end

end Token

mutual

/-- A type as it would stand in no text. -/
def TypeExpr.unplaced : TypeExpr → TypeExpr
  | .path rooted segments => .path rooted (unplacedSegments segments)
  | .qualified head segments => .qualified (unplacedTokens head) (unplacedSegments segments)
  | .paren inner => .paren inner.unplaced
  | .group inner => .group inner.unplaced
  | .other tokens => .other (unplacedTokens tokens)

def PathSegment.unplaced : PathSegment → PathSegment
  | .mk name _ none => .mk name .start none
  | .mk name _ (some arguments) => .mk name .start (some arguments.unplaced)

def unplacedSegments : List PathSegment → List PathSegment
  | [] => []
  | segment :: rest => segment.unplaced :: unplacedSegments rest

def PathArguments.unplaced : PathArguments → PathArguments
  | .mk colons arguments trailing => .mk colons (unplacedArguments arguments) trailing
  | .parenthesized inputs output =>
      .parenthesized (unplacedTokens inputs) (unplacedTokens output)

def unplacedArguments : List PathArgument → List PathArgument
  | [] => []
  | argument :: rest => argument.unplaced :: unplacedArguments rest

def PathArgument.unplaced : PathArgument → PathArgument
  | .lifetime name => .lifetime name
  | .type type => .type type.unplaced
  | .other tokens => .other (unplacedTokens tokens)

end

mutual

theorem TypeExpr.unplaced_unplaced :
    ∀ type : TypeExpr, type.unplaced.unplaced = type.unplaced
  | .path _ segments => by
      rw [TypeExpr.unplaced, TypeExpr.unplaced, unplacedSegments_unplaced segments]
  | .qualified head segments => by
      rw [TypeExpr.unplaced, TypeExpr.unplaced, unplacedTokens_unplaced,
        unplacedSegments_unplaced segments]
  | .paren inner => by
      rw [TypeExpr.unplaced, TypeExpr.unplaced, inner.unplaced_unplaced]
  | .group inner => by
      rw [TypeExpr.unplaced, TypeExpr.unplaced, inner.unplaced_unplaced]
  | .other tokens => by
      rw [TypeExpr.unplaced, TypeExpr.unplaced, unplacedTokens_unplaced]

theorem PathSegment.unplaced_unplaced :
    ∀ segment : PathSegment, segment.unplaced.unplaced = segment.unplaced
  | .mk _ _ none => rfl
  | .mk _ _ (some arguments) => by
      rw [PathSegment.unplaced, PathSegment.unplaced, arguments.unplaced_unplaced]

theorem unplacedSegments_unplaced : ∀ segments : List PathSegment,
    unplacedSegments (unplacedSegments segments) = unplacedSegments segments
  | [] => rfl
  | segment :: rest => by
      rw [unplacedSegments, unplacedSegments, segment.unplaced_unplaced,
        unplacedSegments_unplaced rest]

theorem PathArguments.unplaced_unplaced :
    ∀ arguments : PathArguments, arguments.unplaced.unplaced = arguments.unplaced
  | .mk _ arguments _ => by
      rw [PathArguments.unplaced, PathArguments.unplaced, unplacedArguments_unplaced arguments]
  | .parenthesized inputs output => by
      rw [PathArguments.unplaced, PathArguments.unplaced, unplacedTokens_unplaced,
        unplacedTokens_unplaced]

theorem unplacedArguments_unplaced : ∀ arguments : List PathArgument,
    unplacedArguments (unplacedArguments arguments) = unplacedArguments arguments
  | [] => rfl
  | argument :: rest => by
      rw [unplacedArguments, unplacedArguments, argument.unplaced_unplaced,
        unplacedArguments_unplaced rest]

theorem PathArgument.unplaced_unplaced :
    ∀ argument : PathArgument, argument.unplaced.unplaced = argument.unplaced
  | .lifetime _ => rfl
  | .type type => by
      rw [PathArgument.unplaced, PathArgument.unplaced, type.unplaced_unplaced]
  | .other tokens => by
      rw [PathArgument.unplaced, PathArgument.unplaced, unplacedTokens_unplaced]

end

theorem unplacedSegments_eq_map (segments : List PathSegment) :
    unplacedSegments segments = segments.map PathSegment.unplaced := by
  induction segments with
  | nil => rfl
  | cons segment rest ih => rw [unplacedSegments, ih, List.map_cons]

theorem isLifetime_unplaced (argument : PathArgument) :
    argument.unplaced.isLifetime = argument.isLifetime := by
  cases argument <;> rfl

/-! ## Printing -/

theorem argumentTokens_unplaced (arguments : List (Bool × List Token × Bool)) :
    argumentTokens (arguments.map fun argument =>
        (argument.1, argument.2.1.map Token.unplaced, argument.2.2)) =
      (argumentTokens arguments).map Token.unplaced := by
  have comma : (Token.ofOperator ",").map Token.unplaced = Token.ofOperator "," := rfl
  have written : ∀ argument : Bool × List Token × Bool,
      (argument.2.1.map Token.unplaced ++ if argument.2.2 then Token.ofOperator "," else []) =
        (argument.2.1 ++ if argument.2.2 then Token.ofOperator "," else []).map Token.unplaced := by
    intro argument
    cases argument.2.2 <;> simp [comma]
  simp only [argumentTokens, List.filter_map, List.getLast?_map, Option.all_map,
    List.isEmpty_map, List.flatMap_map, List.map_append, List.map_flatMap, Function.comp_def,
    written]
  congr 2
  split <;> rfl

mutual

theorem TypeExpr.tokens_unplaced :
    ∀ type : TypeExpr, type.unplaced.tokens = type.tokens.map Token.unplaced
  | .path rooted segments => by
      rw [TypeExpr.unplaced, TypeExpr.tokens, TypeExpr.tokens, segmentsTokens_unplaced segments,
        List.map_append]
      cases rooted <;> rfl
  | .qualified head segments => by
      rw [TypeExpr.unplaced, TypeExpr.tokens, TypeExpr.tokens, segmentsTokens_unplaced segments,
        unplacedTokens_eq_map, List.map_append, List.map_append]
      rfl
  | .paren inner => by
      rw [TypeExpr.unplaced, TypeExpr.tokens, TypeExpr.tokens, TypeExpr.tokens_unplaced inner,
        ← unplacedTokens_eq_map]
      rfl
  | .group inner => TypeExpr.tokens_unplaced inner
  | .other tokens => unplacedTokens_eq_map tokens

theorem PathSegment.tokens_unplaced :
    ∀ segment : PathSegment, segment.unplaced.tokens = segment.tokens.map Token.unplaced
  | .mk name position none => rfl
  | .mk name position (some arguments) => by
      rw [PathSegment.unplaced, PathSegment.tokens, PathSegment.tokens,
        PathArguments.tokens_unplaced arguments]
      rfl

theorem segmentsTokens_unplaced : ∀ segments : List PathSegment,
    segmentsTokens (unplacedSegments segments) = (segmentsTokens segments).map Token.unplaced
  | [] => rfl
  | [segment] => PathSegment.tokens_unplaced segment
  | segment :: next :: rest => by
      have following := segmentsTokens_unplaced (next :: rest)
      rw [unplacedSegments] at following
      rw [unplacedSegments, unplacedSegments, segmentsTokens, segmentsTokens,
        PathSegment.tokens_unplaced segment, following, List.map_append, List.map_append]
      rfl

theorem PathArguments.tokens_unplaced : ∀ arguments : PathArguments,
    arguments.unplaced.tokens = arguments.tokens.map Token.unplaced
  | .mk colons arguments trailing => by
      rw [PathArguments.unplaced, PathArguments.tokens, PathArguments.tokens,
        argumentsWritten_unplaced trailing arguments, argumentTokens_unplaced]
      simp only [List.map_append]
      cases colons <;> rfl
  | .parenthesized inputs output =>
      congrArg (_ :: ·) (unplacedTokens_eq_map output)

theorem argumentsWritten_unplaced : ∀ (trailing : Bool) (arguments : List PathArgument),
    argumentsWritten trailing (unplacedArguments arguments) =
      (argumentsWritten trailing arguments).map fun argument =>
        (argument.1, argument.2.1.map Token.unplaced, argument.2.2)
  | trailing, [] => rfl
  | trailing, [argument] => by
      rw [unplacedArguments, unplacedArguments, argumentsWritten, argumentsWritten,
        PathArgument.tokens_unplaced argument, isLifetime_unplaced]
      rfl
  | trailing, argument :: next :: rest => by
      have following := argumentsWritten_unplaced trailing (next :: rest)
      rw [unplacedArguments] at following
      rw [unplacedArguments, unplacedArguments, argumentsWritten, argumentsWritten, following,
        PathArgument.tokens_unplaced argument, isLifetime_unplaced]
      rfl

theorem PathArgument.tokens_unplaced : ∀ argument : PathArgument,
    argument.unplaced.tokens = argument.tokens.map Token.unplaced
  | .lifetime _ => rfl
  | .type type => TypeExpr.tokens_unplaced type
  | .other tokens => unplacedTokens_eq_map tokens

end

theorem TypeExpr.text_unplaced (type : TypeExpr) : type.unplaced.text = type.text := by
  rw [text, text, render, render, tokens_unplaced, ← unplacedTokens_eq_map,
    Token.listText_unplaced]

end Source

/-! ## Classification -/

namespace Column

theorem name_unplaced (segment : PathSegment) : segment.unplaced.name = segment.name := by
  obtain ⟨name, position, arguments⟩ := segment
  cases arguments <;> rfl

theorem arguments_unplaced (segment : PathSegment) :
    segment.unplaced.arguments = segment.arguments.map PathArguments.unplaced := by
  obtain ⟨name, position, arguments⟩ := segment
  cases arguments <;> rfl

theorem peel_unplaced (type : TypeExpr) : peel type.unplaced = (peel type).unplaced := by
  fun_induction peel type with
  | case1 inner ih => rw [TypeExpr.unplaced, peel, ih]
  | case2 inner ih => rw [TypeExpr.unplaced, peel, ih]
  | case3 type unwrapped ungrouped =>
      cases type with
      | paren inner => exact absurd rfl (unwrapped inner)
      | group inner => exact absurd rfl (ungrouped inner)
      | path => rfl
      | qualified => rfl
      | other => rfl

theorem lastSegment?_unplaced (type : TypeExpr) :
    lastSegment? type.unplaced = (lastSegment? type).map PathSegment.unplaced := by
  rw [lastSegment?, lastSegment?, peel_unplaced]
  cases peel type with
  | path rooted segments =>
      rw [TypeExpr.unplaced, unplacedSegments_eq_map]
      exact List.getLast?_map
  | qualified => rfl
  | paren => rfl
  | group => rfl
  | other => rfl

theorem singleArgument?_unplaced (segment : PathSegment) :
    singleArgument? segment.unplaced = (singleArgument? segment).map TypeExpr.unplaced := by
  rw [singleArgument?, singleArgument?, arguments_unplaced]
  cases segment.arguments with
  | none => rfl
  | some found =>
      match found with
      | .parenthesized _ _ => rfl
      | .mk _ [] _ => rfl
      | .mk _ [.lifetime _] _ => rfl
      | .mk _ [.type _] _ => rfl
      | .mk _ [.other _] _ => rfl
      | .mk _ (first :: _ :: _) _ => cases first <;> rfl

theorem isByte_unplaced (type : TypeExpr) : isByte type.unplaced = isByte type := by
  rw [isByte, isByte, lastSegment?_unplaced, Option.any_map]
  simp only [name_unplaced, arguments_unplaced, Option.isNone_map]

theorem scalar?_unplaced (type : TypeExpr) : scalar? type.unplaced = scalar? type := by
  rw [scalar?, scalar?, lastSegment?_unplaced]
  cases lastSegment? type with
  | none => rfl
  | some segment =>
      change (if segment.unplaced.name.isWord "Vec" then _ else _) =
        if segment.name.isWord "Vec" then _ else _
      rw [name_unplaced]
      split
      · rw [singleArgument?_unplaced]
        cases singleArgument? segment with
        | none => rfl
        | some inner =>
            change (if isByte inner.unplaced then _ else _) = if isByte inner then _ else _
            rw [isByte_unplaced]
      · rw [arguments_unplaced, Option.isSome_map]

theorem optional?_unplaced (type : TypeExpr) :
    optional? type.unplaced = (optional? type).map TypeExpr.unplaced := by
  rw [optional?, optional?, lastSegment?_unplaced]
  cases lastSegment? type with
  | none => rfl
  | some segment =>
      change (if segment.unplaced.name.isWord "Option" then _ else _) =
        Option.map _ (if segment.name.isWord "Option" then _ else _)
      rw [name_unplaced]
      split
      · exact singleArgument?_unplaced segment
      · rfl

/-- The built-in classification sees a type, not its place. -/
theorem classify_unplaced (type : TypeExpr) : classify type.unplaced = classify type := by
  rw [classify, classify, optional?_unplaced, scalar?_unplaced, TypeExpr.text_unplaced]
  cases optional? type with
  | none => rfl
  | some inner => simp only [Option.map_some, scalar?_unplaced]

end Column

end StorageMapping
