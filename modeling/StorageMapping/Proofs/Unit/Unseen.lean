import StorageMapping.Processing

namespace StorageMapping

/-! # What generated code does not show

Generated code tells of a column what it stores and where. The number of its owner and the place
where it was found leave no trace. -/

/-- A change that keeps all that generated code tells of a column. -/
structure Column.Unseen (change : Column → Column) : Prop where
  field : ∀ column, (change column).field = column.field
  storageName : ∀ column, (change column).storageName = column.storageName
  type : ∀ column, (change column).type = column.type
  isKey : ∀ column, (change column).isKey = column.isKey
  ignoresNull : ∀ column, (change column).ignoresNull = column.ignoresNull

/-- A type whose columns have changed in no way that generated code shows. -/
structure TypeModel.Alike (other model : TypeModel) : Prop where
  name : other.name = model.name
  modulePath : other.modulePath = model.modulePath
  locators : other.locators = model.locators
  columns : ∃ change, Column.Unseen change ∧ other.columns = model.columns.map change

namespace TypeModel.Alike

variable {other model : TypeModel}

theorem contentPuts (alike : other.Alike model) : other.contentPuts = model.contentPuts := by
  obtain ⟨change, unseen, same⟩ := alike.columns
  simp only [TypeModel.contentPuts, same, List.map_map]
  refine List.map_congr_left fun column _ => ?_
  simp only [Function.comp, ContentPut.ofColumn, Column.skipsAbsent, unseen.field,
    unseen.storageName, unseen.type, unseen.ignoresNull]

theorem cursorReads (alike : other.Alike model) : other.cursorReads = model.cursorReads := by
  obtain ⟨change, unseen, same⟩ := alike.columns
  simp only [TypeModel.cursorReads, same, List.map_map]
  refine List.map_congr_left fun column _ => ?_
  simp only [Function.comp, CursorRead.ofColumn, unseen.field, unseen.storageName, unseen.type]

theorem keyCondition (alike : other.Alike model) :
    KeyCondition.ofModel other = KeyCondition.ofModel model := by
  obtain ⟨change, unseen, same⟩ := alike.columns
  simp only [KeyCondition.ofModel, TypeModel.keyColumns, same, List.filter_map, List.map_map,
    Function.comp_def, unseen.isKey, unseen.storageName, unseen.field]

theorem length (alike : other.Alike model) : other.columns.length = model.columns.length := by
  obtain ⟨change, _, same⟩ := alike.columns
  rw [same, List.length_map]

theorem generate (alike : other.Alike model) (generator : Generator) (context : GenerationContext) :
    generator.generate context other = generator.generate context model := by
  have host : Naming.hostPath other = Naming.hostPath model := by
    rw [Naming.hostPath, Naming.hostPath, Naming.hostNames, Naming.hostNames, alike.modulePath,
      alike.name]
  have qualified : other.qualifiedName = model.qualifiedName := by
    rw [qualifiedName, qualifiedName, alike.modulePath, alike.name]
  have written : generator.tokens context other = generator.tokens context model := by
    simp only [Generator.tokens, Template.putBody, Template.getBody, Template.deleteBody, host,
      qualified, alike.name, alike.locators, alike.contentPuts, alike.cursorReads,
      alike.keyCondition, alike.length]
  simp only [Generator.generate, written, qualified, alike.name]

theorem unitsOf (alike : other.Alike model) (processor : Processor) :
    processor.unitsOf other = processor.unitsOf model := by
  rw [Processor.unitsOf, Processor.unitsOf]
  exact congrArg processor.generators.mapM (funext fun generator => alike.generate generator _)

end TypeModel.Alike

theorem Processor.mapM_unitsOf_alike (processor : Processor) {change : TypeModel → TypeModel}
    (alike : ∀ model, (change model).Alike model) (models : List TypeModel) :
    (models.map change).mapM processor.unitsOf = models.mapM processor.unitsOf := by
  rw [List.mapM_map]
  exact congrArg models.mapM (funext fun model => (alike model).unitsOf processor)

end StorageMapping
