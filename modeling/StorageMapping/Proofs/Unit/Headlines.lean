import StorageMapping.Proofs.Source.Fields
import StorageMapping.Proofs.Source.Outline
import StorageMapping.Proofs.Unit.Members
import StorageMapping.Proofs.Unit.Printed
import StorageMapping.Proofs.Unit.UnitNames

namespace StorageMapping

/-! # Items of generated units

A unit is a public struct with the implementations that stand between it and its type. Its tokens
are read as these items. -/

open Source Source.Grammar Fragment
open Source.Parser (Takes Passes)

namespace Template

variable {context : GenerationContext} {sentence : String} {name : Identifier} {body : Fragment}
    {trait self : TypeExpr}

/-- The attributes of a definition. -/
def attributes (context : GenerationContext) (sentence : String) : List Fragment :=
  (if context.documented then [documentation context sentence] else []) ++
    [mark "#" ++ brackets (word "derive" ++
      parens (listed (["Debug", "Clone", "Copy", "Default"].map word)))]

theorem definition_eq : definition context sentence name =
    (attributes context sentence).flatten ++ Token.ofWord "pub" :: Token.ofWord "struct" ::
      Token.ofIdentifier name :: Token.ofOperator ";" := by
  cases documented : context.documented <;>
    simp [definition, attributes, documentation, documented, words, word, Fragment.name, mark]

theorem takesAttributes {g : Grammar} (deep : g.Deep 2) :
    g.TakesAttributes (attributes context sentence) := by
  intro written member
  rcases List.mem_append.mp member with documented | derived
  · split at documented
    · rename_i wanted
      rw [List.mem_singleton.mp documented, documentation, if_pos wanted]
      refine ⟨_, rfl, fun rest => ?_⟩
      cases deep with
      | deepen deep => cases deep with
        | deepen => exact passes_textAttribute (by decide)
    · contradiction
  · rw [List.mem_singleton.mp derived]
    exact ⟨_, rfl, fun rest => passes_listAttribute (by decide)⟩

theorem begins_definition (isName : name.isName = true) :
    Headline.Begins (.struct true name) (definition context sentence name) where
  present := by simp [definition_eq]
  outer rest found alike := by
    have inside : Tokens.atOperator "!" (Tokens.skip 1 (definition context sentence name ++ rest)) =
        false := by
      rw [definition, documentation]
      split <;> rfl
    have behind : (found.skip 1).atOperator "!" = false :=
      ((alike.skip 1).looks.2.2.2.2.2.2.1 _).trans inside
    simp [Tokens.opensInner, behind]
  taken deep rest := by
    rw [definition_eq, List.append_assoc]
    exact takes_structOutline (deep.mono (by decide : 3 ≤ 24)) takesAttributes isName

theorem begins_implementation (first : PathType 13 trait) (second : PathType 13 self)
    (members : Members 13 body) :
    Headline.Begins (.implementation (some trait) self)
      (implementation trait.tokens self.tokens body) where
  present := nofun
  outer rest found alike := by
    have sign : found.atOperator "#" = false := alike.looks.2.2.2.2.2.2.1 _
    simp [Tokens.opensInner, sign]
  taken deep rest := by
    obtain ⟨members, rfl, each⟩ := members
    simpa [implementation, word, braces] using
      takes_implementationOutline (deep.mono (by decide : 14 ≤ 24)) first.isPath first.taken
        second.taken fun deep tokens member => (each tokens member).taken deep

/-- Every unit begins with an attribute. -/
theorem head_definition {items : Fragment} :
    (render (definition context sentence name ++ items)).toList.head? = some '#' := by
  rw [definition, documentation]
  split <;> exact congrArg List.head? (String.toList_append ..)

variable {runtime host : TypeExpr}

theorem isPathWord_resolver (kind : UnitKind) : IsPathWord (kind.text ++ "Resolver") := by
  cases kind <;> decide

theorem pathType_resolver (kind : UnitKind) (plain : IsPlain runtime) (isHost : IsPlain host) :
    PathType 13 (runtime.applied (kind.text ++ "Resolver") [host]) := by
  have path : PathType 12 host := (PathType.ofPlain isHost).mono (by decide)
  exact .applied plain (isPathWord_resolver kind) (by simp) (by simpa using path)

theorem pathType_name (isName : name.isName = true) : PathType 12 (Naming.pathType [name]) :=
  (PathType.ofPlain (isPlain_pathType (by simp) (by simpa using .inl isName))).mono (by decide)

theorem begins_resolver (kind : UnitKind) (plain : IsPlain runtime) (isHost : IsPlain host)
    (isName : name.isName = true) (members : Members 13 body) :
    Headline.Begins
      (.implementation (some (runtime.applied (kind.text ++ "Resolver") [host]))
        (Naming.pathType [name]))
      (implementation (resolverTrait runtime.tokens host.tokens kind) (Fragment.name name)
        body) := by
  have begins := begins_implementation (pathType_resolver kind plain isHost)
    ((pathType_name isName).mono (by decide)) members
  rwa [tokens_applied plain.isPath, tokens_pathType] at begins

theorem begins_from {mappingType : String} (plain : IsPlain runtime) (isHost : IsPlain host)
    (isType : IsPathWord mappingType) (isName : name.isName = true) (members : Members 13 body) :
    Headline.Begins
      (.implementation
        (some ((TypeExpr.rooted ["core", "convert"]).applied "From" [Naming.pathType [name]]))
        (runtime.applied mappingType [host]))
      (implementation (below ["core", "convert", "From"] ++ angled (Fragment.name name))
        (runtime.tokens ++ below [mappingType] ++ angled host.tokens) body) := by
  have path : PathType 12 host := (PathType.ofPlain isHost).mono (by decide)
  have convert : IsPlain (.rooted ["core", "convert"]) := isPlain_rooted (by simp) (by decide)
  have trait := PathType.applied convert (by decide : IsPathWord "From")
    (by simp : [Naming.pathType [name]] ≠ []) (by simpa using pathType_name isName)
  have mapping := PathType.applied plain isType (by simp : [host] ≠ []) (by simpa using path)
  have begins := begins_implementation trait mapping members
  simpa [tokens_applied plain.isPath, tokens_applied convert.isPath, TypeExpr.tokens_rooted,
    tokens_pathType, Naming.pathTokens, Fragment.name, listed, below] using begins

theorem begins_typeMapped (plain : IsPlain runtime) (isHost : IsPlain host)
    (members : Members 13 body) :
    Headline.Begins (.implementation (some (runtime.under ["TypeMapped"])) host)
      (implementation (runtime.tokens ++ below ["TypeMapped"]) host.tokens body) := by
  have trait : PathType 13 (runtime.under ["TypeMapped"]) :=
    (PathType.ofPlain (plain.under (by decide))).mono (by decide)
  have path : PathType 13 host := (PathType.ofPlain isHost).mono (by decide)
  have begins := begins_implementation trait path members
  rwa [tokens_under plain.isPath] at begins

end Template

/-! ## Names in units -/

namespace Naming

theorem isSegment_of_pathName {segment : String} {name : Identifier}
    (written : pathName segment = .ok name) : name.IsSegment := by
  rw [pathName] at written
  split at written
  · rename_i inPaths
    cases written
    have each : ∀ segment ∈ pathWords, segment ∈ pathStarts := by decide
    exact .inr ⟨segment, each segment (by simpa using inPaths), rfl⟩
  · split at written
    · rename_i read
      cases written
      exact .inl (Reader.identifier_isName read)
    · split at written
      · cases written
        exact .inl rfl
      · contradiction

theorem isPlain_hostNames {model : TypeModel} {names : List Identifier}
    (written : hostNames model = .ok names) : IsPlain (pathType names) := by
  refine isPlain_pathType ?_ fun name member => ?_
  · rintro rfl
    have length := (Results.mapM_eq_ok.mp written).length_eq
    simp at length
  · obtain ⟨_, _, same⟩ := Results.mem_of_mapM_eq_ok written member
    exact isSegment_of_pathName same

end Naming

/-- No word of the language ends as unit names do. -/
theorem UnitNaming.isName_of_unitIdentifier {naming : UnitNaming} {typeName : String}
    {kind : UnitKind} {name : Identifier}
    (known : naming.unitIdentifier typeName kind = .ok name) : name.isName = true := by
  have long := (ending_suffix naming typeName kind).length_le
  rw [UnitKind.length_ending] at long
  have short : ∀ word ∈ reservedWords, word.toList.length < 11 := by decide
  have free : naming.unitName typeName kind ∉ reservedWords := fun reserved =>
    absurd (short _ reserved) (Nat.not_lt.mpr long)
  rw [eq_plain_of_unitIdentifier known]
  simpa [Identifier.isName, Identifier.plain] using free

/-! ## Units -/

/-- How the implementations of a kind begin: they stand between the struct of the unit and the
mapped type. -/
def UnitKind.implementations (mappingType : String) (runtime host unit : TypeExpr) :
    UnitKind → List Headline
  | .mapping =>
      [.implementation (some ((TypeExpr.rooted ["core", "convert"]).applied "From" [unit]))
        (runtime.applied mappingType [host]),
      .implementation (some (runtime.under ["TypeMapped"])) host]
  | kind => [.implementation (some (runtime.applied (kind.text ++ "Resolver") [host])) unit]

/-- How the items of a unit begin. -/
def GeneratedUnit.headlines (unit : GeneratedUnit) (mappingType : String)
    (runtime host : TypeExpr) : List Headline :=
  .struct true (.plain unit.unitName) ::
    unit.kind.implementations mappingType runtime host (Naming.pathType [.plain unit.unitName])

namespace Generator

variable {generator : Generator} {context : GenerationContext} {model : TypeModel}
    {unit : GeneratedUnit} {names : List Identifier} {runtime host : TypeExpr} {name : Identifier}
    {items : Fragment}

theorem Items.begins (offered : generator.backend ∈ Backend.all) (plain : IsPlain runtime)
    (isHost : IsPlain host) (isName : name.isName = true)
    (named : generator.kind = .put ∨ generator.kind = .get →
      ∀ column ∈ model.columns, column.field.isName = true)
    (itemized : Items generator runtime.tokens host.tokens model name items) :
    ∃ pieces, items = pieces.flatten ∧ List.Forall₂ Headline.Begins
      (generator.kind.implementations generator.backend.mappingType runtime host
        (Naming.pathType [name])) pieces := by
  obtain ⟨backend, kind⟩ := generator
  have resolver : ∀ {kind : UnitKind} {body : Fragment}, kind ≠ .mapping → Members 13 body →
      ∃ pieces, tokens.resolver ⟨backend, kind⟩ runtime.tokens host.tokens name body =
          pieces.flatten ∧ List.Forall₂ Headline.Begins
        (kind.implementations backend.mappingType runtime host (Naming.pathType [name]))
          pieces := by
    intro kind body other members
    refine ⟨[_], List.flatten_singleton.symm, ?_⟩
    have begins := Template.begins_resolver kind plain isHost isName members
    cases kind with
    | mapping => contradiction
    | _ => exact .cons begins .nil
  cases itemized with
  | put same =>
      cases same
      exact resolver nofun (Template.members_put offered plain isHost (named (.inl rfl)))
  | get same =>
      cases same
      exact resolver nofun (Template.members_get plain isHost (named (.inr rfl)))
  | delete same =>
      cases same
      exact resolver nofun (Template.members_delete offered plain isHost)
  | @mapping put get delete same putNamed getNamed deleteNamed =>
      cases same
      have resolvers : ∀ resolver ∈ [put, get, delete], resolver.isName = true := by
        simpa using ⟨UnitNaming.isName_of_unitIdentifier putNamed,
          UnitNaming.isName_of_unitIdentifier getNamed,
          UnitNaming.isName_of_unitIdentifier deleteNamed⟩
      have first := Template.begins_from plain isHost (Template.isPathWord_mappingType offered)
        isName (Template.members_from offered plain isName resolvers)
      have second := Template.begins_typeMapped plain isHost
        (Template.members_typeMapped offered plain isName)
      exact ⟨[_, _], by simp [Template.mappingItems], .cons first (.cons second .nil)⟩

/-- The code of a unit is read as its tokens. -/
theorem read_code (offered : generator.backend ∈ Backend.all) (tidy : Tidy context.runtime.tokens)
    (legal : ∀ column ∈ model.columns, column.field.Legal)
    (generated : generator.generate context model = .ok unit) :
    ∃ tokens, tokenize unit.code.toList = some tokens ∧ Tokens.Alike tokens unit.tokens ∧
      unit.code.toList.head? ≠ some Lexer.byteOrderMark := by
  obtain ⟨tokens, written, rfl⟩ := generate_eq_ok.mp generated
  obtain ⟨found, read, alike⟩ := tokenize_render (tokens_tidy offered tidy legal written)
  refine ⟨found, read, alike, ?_⟩
  obtain ⟨_, identifier, items, _, _, _, rfl⟩ := tokens_eq_ok.mp written
  simp only [GeneratedUnit.code, Template.head_definition]
  decide

/-- The tokens of a unit are those of its items, provided that the fields that it puts or gets have
names. -/
theorem begins (offered : generator.backend ∈ Backend.all) (plain : IsPlain context.runtime)
    (hosted : Naming.hostNames model = .ok names)
    (generated : generator.generate context model = .ok unit)
    (named : unit.kind = .put ∨ unit.kind = .get →
      ∀ column ∈ model.columns, column.field.isName = true) :
    ∃ pieces, unit.tokens = pieces.flatten ∧ List.Forall₂ Headline.Begins
      (unit.headlines generator.backend.mappingType context.runtime (Naming.pathType names))
        pieces := by
  obtain ⟨tokens, written, rfl⟩ := generate_eq_ok.mp generated
  obtain ⟨_, identifier, items, reached, known, itemized, rfl⟩ := tokens_eq_ok.mp written
  cases reached.symm.trans hosted
  have isName := UnitNaming.isName_of_unitIdentifier known
  rw [← tokens_pathType names] at itemized
  obtain ⟨pieces, rfl, begins⟩ :=
    itemized.begins offered plain (Naming.isPlain_hostNames hosted) isName named
  cases UnitNaming.eq_plain_of_unitIdentifier known
  exact ⟨_ :: pieces, rfl, .cons (Template.begins_definition isName) begins⟩

end Generator

end StorageMapping
