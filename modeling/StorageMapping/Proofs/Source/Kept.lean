import StorageMapping.Proofs.Source.ForwardGrammar

namespace StorageMapping.Source.Grammar

/-! # What the parser keeps of a member

Parameters, bodies and values are parsed and forgotten. The attributes at the head of a body belong
to the method, and a constant that has parameters is forgotten itself. -/

open StorageMapping.Source.Parser

/-- A method or a constant that is kept, with the parts of the text that it is made of. -/
inductive KeptMember (g : Grammar) (state : ParserState) : AssociatedItem → ParserState → Prop
  | method {outer inner : List Attribute} {isPublic : Bool} {named : Identifier × Position}
      {marked headed opened signed next : ParserState}
      (attributed : g.outerAttributes state = .ok (outer, marked))
      (visible : visibility marked = .ok (isPublic, headed))
      (inside : opened.rest <:+ headed.rest)
      (signature : g.signature false opened = .ok (named, signed))
      (headOfBody : inner = [] ∨ ∃ tokens opening closing begun,
        signed.rest = .group .brace tokens opening closing :: next.rest ∧
          g.innerAttributes ⟨tokens, [], signed.remaining⟩ = .ok (inner, begun)) :
      KeptMember g state ⟨.method, outer ++ inner, isPublic, named.1, named.2, none⟩ next
  | constant {outer : List Attribute} {isPublic : Bool} {form : ConstantForm} {word : Token}
      {behind : Tokens} {marked headed opened next : ParserState}
      (attributed : g.outerAttributes state = .ok (outer, marked))
      (visible : visibility marked = .ok (isPublic, headed))
      (inside : opened.rest <:+ headed.rest)
      (formed : g.constantForm opened = .ok (form, next))
      (named : opened.rest = word :: .word form.name form.position :: behind)
      (bare : behind.atOperator "<" = false) :
      KeptMember g state
        ⟨.constant, outer, isPublic, form.name, form.position, some form.type⟩ next

variable {g : Grammar} {state next : ParserState}

theorem functionBody_eq_ok {inner : Option (List Attribute)}
    (parsed : g.functionBody state = .ok (inner, next)) :
    inner.getD [] = [] ∨ ∃ tokens opening closing begun,
      state.rest = .group .brace tokens opening closing :: next.rest ∧
        g.innerAttributes ⟨tokens, [], state.remaining⟩ = .ok (inner.getD [], begun) := by
  obtain ⟨ended, _, closed, parsed⟩ := bind_eq_ok.mp parsed
  rcases ite_eq_ok.mp parsed with ⟨_, parsed⟩ | ⟨open_, parsed⟩
  · obtain ⟨rfl, _⟩ := pure_eq_ok.mp parsed
    exact .inl rfl
  · obtain ⟨attributes, _, block, parsed⟩ := bind_eq_ok.mp parsed
    obtain ⟨rfl, rfl⟩ := pure_eq_ok.mp parsed
    rcases acceptOperator_eq_ok closed with ⟨taken, _⟩ | ⟨_, _, rfl⟩
    · exact absurd taken open_
    obtain ⟨tokens, opening, closing, left, braced, completed⟩ := group_eq_ok block
    obtain ⟨_, begun, read, completed⟩ := bind_eq_ok.mp completed
    obtain ⟨_, _, _, completed⟩ := bind_eq_ok.mp completed
    obtain ⟨rfl, _⟩ := pure_eq_ok.mp completed
    exact .inr ⟨tokens, opening, closing, begun, braced, read⟩

theorem constantForm_isPlain {form : ConstantForm}
    (parsed : g.constantForm state = .ok (form, next)) (plain : form.isPlain = true) :
    ∃ (word : Token) (behind : Tokens),
      state.rest = word :: .word form.name form.position :: behind ∧
        behind.atOperator "<" = false := by
  obtain ⟨_, opened, first, parsed⟩ := bind_eq_ok.mp parsed
  replace parsed := ahead_bind_eq_ok.mp parsed
  rcases ite_eq_ok.mp parsed with ⟨_, parsed⟩ | ⟨_, parsed⟩
  · obtain ⟨_, _, failed, _⟩ := bind_eq_ok.mp parsed
    exact absurd failed failWanting_ne_ok
  obtain ⟨_, _, read, parsed⟩ := bind_eq_ok.mp parsed
  obtain ⟨_, named, here, parsed⟩ := bind_eq_ok.mp parsed
  obtain ⟨rfl, rfl⟩ := ahead_eq_ok.mp here
  -- what stands behind the parameters has no part in the name
  iterate 7 obtain ⟨_, _, _, parsed⟩ := bind_eq_ok.mp parsed
  obtain ⟨rfl, _⟩ := pure_eq_ok.mp parsed
  obtain ⟨atConst, skipped⟩ := word_eq_ok first
  match held : state.rest, atConst with
  | .word keyword place :: tail, _ =>
      rw [held, Tokens.skip, List.drop_succ_cons, List.drop_zero] at skipped
      have bare : named.rest.atOperator "<" = false := by
        simpa using (Bool.and_eq_true_iff.mp plain).1
      refine ⟨.word keyword place, named.rest, ?_, bare⟩
      rw [← anyWord_eq_ok read, skipped]

/-! ## Members -/

section

variable {outer : List Attribute} {isPublic : Bool} {marked headed opened : ParserState}
  {member : AssociatedItem}

theorem KeptMember.ofMethod {named : Identifier × Position} {inner : Option (List Attribute)}
    {signed : ParserState} (attributed : g.outerAttributes state = .ok (outer, marked))
    (visible : visibility marked = .ok (isPublic, headed)) (inside : opened.rest <:+ headed.rest)
    (signature : g.signature false opened = .ok (named, signed))
    (body : g.functionBody signed = .ok (inner, next)) :
    g.KeptMember state ⟨.method, outer ++ inner.getD [], isPublic, named.1, named.2, none⟩ next :=
  .method attributed visible inside signature (functionBody_eq_ok body)

theorem KeptMember.ofConstant {form : ConstantForm}
    (attributed : g.outerAttributes state = .ok (outer, marked))
    (visible : visibility marked = .ok (isPublic, headed)) (inside : opened.rest <:+ headed.rest)
    (formed : g.constantForm opened = .ok (form, next)) (plain : form.isPlain = true) :
    g.KeptMember state
      ⟨.constant, outer, isPublic, form.name, form.position, some form.type⟩ next := by
  obtain ⟨_, _, named, bare⟩ := constantForm_isPlain formed plain
  exact .constant attributed visible inside formed named bare

/-- What is parsed to be dropped is not kept. -/
theorem dropped_ne_some {α : Type} {dropped : Parser α} :
    (do
      let _ ← dropped
      return none : Parser (Option AssociatedItem)) state ≠ .ok (some member, next) := by
  intro parsed
  obtain ⟨_, _, _, parsed⟩ := bind_eq_ok.mp parsed
  cases (pure_eq_ok.mp parsed).1

/-- A member of an implementation behind its attributes, its visibility and the word that marks a
default. -/
def memberBehind (g : Grammar) (outer : List Attribute) (isPublic isDefault : Bool) :
    Parser (Option AssociatedItem) := do
  let tokens ← ahead
  if atFunction false tokens then
    let named ← g.signature false
    return (← g.functionBody).map fun inner =>
      ⟨.method, outer ++ inner, isPublic, named.1, named.2, none⟩
  else if tokens.atWord "const" then
    let form ← g.constantForm
    return if form.hasValue && form.isPlain then
      some ⟨.constant, outer, isPublic, form.name, form.position, some form.type⟩ else none
  else if tokens.atWord "type" then
    g.typeAlias false true
    return none
  else if !isPublic && !isDefault && atMacroPath tokens then
    memberMacro
    return none
  else failWanting "implementation item"

theorem memberBehind_kept {isDefault : Bool}
    (attributed : g.outerAttributes state = .ok (outer, marked))
    (visible : visibility marked = .ok (isPublic, headed)) (inside : opened.rest <:+ headed.rest)
    (parsed : g.memberBehind outer isPublic isDefault opened = .ok (some member, next)) :
    g.KeptMember state member next := by
  replace parsed := ahead_bind_eq_ok.mp parsed
  rcases ite_eq_ok.mp parsed with ⟨_, parsed⟩ | ⟨_, parsed⟩
  · obtain ⟨named, _, signature, parsed⟩ := bind_eq_ok.mp parsed
    obtain ⟨inner, _, body, parsed⟩ := bind_eq_ok.mp parsed
    obtain ⟨same, rfl⟩ := pure_eq_ok.mp parsed
    obtain ⟨inner, rfl, rfl⟩ := Option.map_eq_some_iff.mp same
    exact .ofMethod attributed visible inside signature body
  rcases ite_eq_ok.mp parsed with ⟨_, parsed⟩ | ⟨_, parsed⟩
  · obtain ⟨form, _, formed, parsed⟩ := bind_eq_ok.mp parsed
    obtain ⟨same, rfl⟩ := pure_eq_ok.mp parsed
    obtain ⟨kept, same⟩ := Option.ite_none_right_eq_some.mp same
    cases same
    exact .ofConstant attributed visible inside formed (Bool.and_eq_true_iff.mp kept).2
  rcases ite_eq_ok.mp parsed with ⟨_, parsed⟩ | ⟨_, parsed⟩
  · exact absurd parsed dropped_ne_some
  rcases ite_eq_ok.mp parsed with ⟨_, parsed⟩ | ⟨_, parsed⟩
  · exact absurd parsed dropped_ne_some
  · exact absurd parsed failWanting_ne_ok

theorem implementationMember_kept
    (parsed : g.implementationMember state = .ok (some member, next)) :
    g.KeptMember state member next := by
  obtain ⟨outer, marked, attributed, parsed⟩ := bind_eq_ok.mp parsed
  obtain ⟨isPublic, _, visible, parsed⟩ := bind_eq_ok.mp parsed
  obtain ⟨_, headed, here, parsed⟩ := bind_eq_ok.mp parsed
  obtain ⟨rfl, rfl⟩ := ahead_eq_ok.mp here
  rcases ite_eq_ok.mp parsed with ⟨_, parsed⟩ | ⟨_, parsed⟩
  · obtain ⟨_, _, taken, parsed⟩ := bind_eq_ok.mp parsed
    exact memberBehind_kept attributed visible (Forward.suffix taken) parsed
  · exact memberBehind_kept attributed visible (List.suffix_refl _) parsed

theorem traitMember_kept (parsed : g.traitMember state = .ok (some member, next)) :
    g.KeptMember state member next := by
  obtain ⟨outer, marked, attributed, parsed⟩ := bind_eq_ok.mp parsed
  obtain ⟨isPublic, headed, visible, parsed⟩ := bind_eq_ok.mp parsed
  obtain ⟨isDefault, opened, taken, parsed⟩ := bind_eq_ok.mp parsed
  replace parsed := ahead_bind_eq_ok.mp parsed
  have inside := Forward.suffix taken
  rcases ite_eq_ok.mp parsed with ⟨_, parsed⟩ | ⟨_, parsed⟩
  · obtain ⟨named, _, signature, parsed⟩ := bind_eq_ok.mp parsed
    obtain ⟨inner, _, body, parsed⟩ := bind_eq_ok.mp parsed
    obtain ⟨same, rfl⟩ := pure_eq_ok.mp parsed
    obtain ⟨plain, same⟩ := Option.ite_none_right_eq_some.mp same
    cases same
    obtain rfl : isPublic = false := by simpa using (Bool.and_eq_true_iff.mp plain).1
    exact .ofMethod attributed visible inside signature body
  rcases ite_eq_ok.mp parsed with ⟨_, parsed⟩ | ⟨_, parsed⟩
  · obtain ⟨form, _, formed, parsed⟩ := bind_eq_ok.mp parsed
    obtain ⟨same, rfl⟩ := pure_eq_ok.mp parsed
    obtain ⟨kept, same⟩ := Option.ite_none_right_eq_some.mp same
    cases same
    simp only [Bool.and_eq_true, Bool.not_eq_true'] at kept
    obtain ⟨⟨rfl, _⟩, plain⟩ := kept
    exact .ofConstant attributed visible inside formed plain
  rcases ite_eq_ok.mp parsed with ⟨_, parsed⟩ | ⟨_, parsed⟩
  · exact absurd parsed dropped_ne_some
  rcases ite_eq_ok.mp parsed with ⟨_, parsed⟩ | ⟨_, parsed⟩
  · exact absurd parsed dropped_ne_some
  · exact absurd parsed failWanting_ne_ok

end

end StorageMapping.Source.Grammar
