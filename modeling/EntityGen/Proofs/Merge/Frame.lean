import EntityGen.Proofs.Merge.Settled
import EntityGen.Proofs.Storing

/-!
# What a merge reaches

A merge of a class changes one namespace of a file, and in it one class declaration and the
imports (`Class.frame_merge`).  What is added at these places is known exactly, and nothing
that stands there is taken away.
-/

namespace EntityGen

/-- What a merge of a class makes of a declaration, apart from fields and methods. -/
structure ClassDeclaration.GrownBy (cls : Class) (before after : ClassDeclaration) : Prop where
  name : after.name = before.name
  comment : after.comment = before.comment.or (describingComment cls.description cls.uri)
  /-- Nothing changes while the parent is unknown. -/
  parent : after.extends? =
    match cls.parent with
    | .named name => some name
    | .absent => none
    | .unknown => before.extends?
  interfaces : after.implements =
    before.implements ++ cls.interface.toList.filter (· ∉ before.implements)
  isAbstract : after.isAbstract = cls.isAbstract
  /-- Only names from before the merge are in the way, so attributes of one new name are all
  added. -/
  attributes : after.attributes = before.attributes ++
    cls.attributes.filter fun attr => ∀ held ∈ before.attributes, held.name ≠ attr.name
  constants : after.constants = before.constants ++
    cls.constants.toList.filter fun constant =>
      ∀ held ∈ before.constants, held.name ≠ constant.name

/-- What a merge of a class makes of a namespace, apart from its class declarations. -/
structure Namespace.GrownBy (cls : Class) (before after : Namespace) : Prop where
  name : after.name = before.name
  imports : after.imports = before.imports ++ before.missingImports cls.imports.toList
  distinct : ((before.missingImports cls.imports.toList).map Import.name).Nodup
  complete : ∀ imported ∈ cls.imports.toList, after.hasImport imported.name

namespace Class

variable (cls : Class) (config : Config)

theorem filter_missing_eq {α : Type} (name : α → String) (present items : List α) :
    (items.filter fun item => !present.any (name · = name item)) =
      items.filter fun item => ∀ held ∈ present, name held ≠ name item := by
  apply List.filter_congr
  intro item _
  rw [Bool.eq_iff_iff]
  simp

theorem grownBy_mergeDeclaration (decl : ClassDeclaration) :
    decl.GrownBy cls (cls.mergeDeclaration config decl) := by
  rw [mergeDeclaration_eq]
  constructor
  case name | comment | interfaces | isAbstract => rfl
  case parent => cases cls.parent <;> rfl
  case attributes => exact congrArg (decl.attributes ++ ·) (filter_missing_eq Attribute.name _ _)
  case constants => exact congrArg (decl.constants ++ ·) (filter_missing_eq Constant.name _ _)

theorem grownBy_mergeNamespace (space : Namespace) :
    space.GrownBy cls (cls.mergeNamespace config space) where
  name := cls.name_mergeNamespace config space
  imports := Namespace.imports_foldl_addImport_eq cls.imports.nodup_toList space
  distinct := Namespace.nodup_missingImports cls.imports.nodup_toList space
  complete := by
    obtain ⟨_, settled⟩ := cls.settledIn_mergeNamespace config space
    exact settled.imported

theorem declarationIn_eq (file : SourceFile) :
    cls.declarationIn config file =
      (((file.namespace? (config.namespaceFor cls)).getD
        { name := config.namespaceFor cls }).class? cls.name).getD { name := cls.name } := by
  rw [declarationIn, SourceFile.classIn?]
  cases file.namespace? (config.namespaceFor cls) <;> rfl

/-- A merge of a class reaches the first namespace that the class lives in, or appends it, and
there the first declaration of the class, or appends it.  Every other namespace and every other
declaration is as before, at its place. -/
theorem frame_merge (file : SourceFile) :
    let merged := (cls.merge config file).value.1
    ∃ space grown decl grownDecl,
      merged.header = file.header.or config.header ∧
      ReplacesFirst (·.name = config.namespaceFor cls) { name := config.namespaceFor cls }
        space grown file.namespaces merged.namespaces ∧
      space.GrownBy cls grown ∧
      ReplacesFirst (·.name = cls.name) { name := cls.name }
        decl grownDecl space.classes grown.classes ∧
      decl.GrownBy cls grownDecl ∧
      grownDecl.attributes.length =
        decl.attributes.length + (cls.merge config file).value.2.attributesAdded := by
  intro merged
  let space := (file.namespace? (config.namespaceFor cls)).getD
    { name := config.namespaceFor cls }
  let decl := (space.class? cls.name).getD { name := cls.name }
  have classes : (cls.imports.toList.foldl Namespace.addImport space).classes = space.classes :=
    Namespace.classes_foldl_addImport cls.imports.toList space
  refine ⟨space, cls.mergeNamespace config space, decl, cls.mergeDeclaration config decl, rfl,
    replacesFirst_changeFirst _ _ (cls.mergeNamespace config) file.namespaces,
    cls.grownBy_mergeNamespace config space, ?_, cls.grownBy_mergeDeclaration config decl, ?_⟩
  · rw [mergeNamespace, Namespace.changeClass, classes]
    exact replacesFirst_changeFirst _ _ (cls.mergeDeclaration config) space.classes
  · have added : (cls.merge config file).value.2.attributesAdded =
        (cls.newAttributes decl).length := by
      rw [value_merge, declarationIn_eq, attributesAdded_mergeOutcome]
    rw [added, mergeDeclaration_eq]
    exact List.length_append

end Class

end EntityGen
