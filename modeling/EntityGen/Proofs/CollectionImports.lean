import EntityGen.Proofs.Constructor
import EntityGen.Proofs.Imports
import EntityGen.Proofs.Merge.Fields

/-!
# Imports of collections

A class that holds properties in collection objects is declared with fields of the type
`Collection` and with a constructor that creates an `ArrayCollection` for each.  A merge
writes both.  The imports of the two symbols are reported by the persistence annotator,
which need not be configured and is silent about enumerations.

So a file can use collections that it does not import.
`Workspace.importsSymbol_collection_iff` tells exactly when the imports are there.
-/

namespace EntityGen

/-! ## The imports of a file -/

theorem Import.eq_of_key_eq (first second : Import)
    (same : Keyed.key first = Keyed.key second) : first = second := by
  obtain ⟨name, knownAs⟩ := first
  obtain ⟨otherName, otherKnownAs⟩ := second
  obtain ⟨names, knownNames⟩ := List.cons.inj same
  cases knownAs <;> cases otherKnownAs <;> simp_all

theorem Class.mem_imports_attach (cls : Class) (described : Metadata) {imported : Import} :
    imported ∈ (cls.attach described).imports.toList ↔
      imported ∈ described.imports ∨ imported ∈ cls.imports.toList :=
  Table.mem_insertAll_iff Import.eq_of_key_eq cls.imports described.imports

/-- An annotator reports the symbol of a name for a class. -/
def Annotator.Reports (annotator : Annotator) (config : Config) (cls : Class) (name : String) :
    Prop :=
  ∃ imported ∈ annotator.imports config cls, imported.name = name

namespace Workspace

variable {config : Config} {workspace finished : Workspace} {summary : Summary} {cls : Class}

/-- Whether the namespace of a class, in the file of its name, imports a symbol. -/
def importsSymbol (workspace : Workspace) (config : Config) (cls : Class) (name : String) : Bool :=
  ((workspace.files.file cls.name).namespace? (config.namespaceFor cls)).any (·.hasImport name)

/-- After a generation a symbol is imported exactly when it was before, the class carries
it, or a configured annotator reports it. -/
theorem importsSymbol_finished
    (ended : (workspace.generate config).value = (finished, .ok summary))
    (member : cls ∈ (workspace.registry.adjust config).value.toList) (name : String) :
    finished.importsSymbol config cls name ↔
      workspace.importsSymbol config cls name ∨
        (∃ held ∈ cls.imports.toList, held.name = name) ∨
        ∃ annotator ∈ config.annotators, annotator.Reports config cls name := by
  obtain ⟨done, memberDone, described, ofClass, same⟩ := exists_mem_finished ended member
  have carried : (∃ held ∈ done.imports.toList, held.name = name) ↔
      (∃ held ∈ cls.imports.toList, held.name = name) ∨
        ∃ annotator ∈ config.annotators, annotator.Reports config cls name := by
    have imports : done.imports = (cls.attach described).imports := by
      rw [same]
      rfl
    simp only [imports, Class.mem_imports_attach,
      Metadata.mem_imports_iff_exists_annotator ofClass, Annotator.Reports]
    grind
  have place : config.namespaceFor done = config.namespaceFor cls ∧ done.name = cls.name := by
    rw [same]
    exact ⟨rfl, rfl⟩
  have merged := done.namespace?_mergeFile config (workspace.files.file done.name)
  rw [← file_finished ended memberDone, place.1, place.2] at merged
  rw [importsSymbol, merged, Option.any_some, Class.hasImport_mergeNamespace, Bool.or_eq_true,
    ← carried, importsSymbol]
  apply or_congr
  · cases (workspace.files.file cls.name).namespace? (config.namespaceFor cls) with
    | none => simp [Namespace.hasImport]
    | some earlier => rfl
  · simp

end Workspace

/-! ## Annotators and collections -/

namespace Constraint

/-- A property of a class is restricted to the enumeration that goes under a name. -/
def NamesEnumeration (config : Config) (cls : Class) (name : String) : Prop :=
  ∃ property ∈ cls.properties.toList, property.isEnum ∧
    ∃ target, property.rangeName? = some target ∧
      config.namespaces.enumeration ++ "\\" ++ target = name

theorem exists_enumImports_iff (config : Config) (cls : Class) (name : String) :
    (∃ imported ∈ enumImports config cls, imported.name = name) ↔
      NamesEnumeration config cls name := by
  simp only [enumImports, NamesEnumeration, List.mem_filterMap, List.mem_filter]
  constructor
  · rintro ⟨imported, ⟨property, ⟨member, isEnum⟩, reported⟩, rfl⟩
    obtain ⟨target, found, rfl⟩ := Option.map_eq_some_iff.mp reported
    exact ⟨property, member, isEnum, target, found, rfl⟩
  · rintro ⟨property, member, isEnum, target, found, rfl⟩
    refine ⟨⟨_, none⟩, ⟨property, ⟨member, isEnum⟩, ?_⟩, rfl⟩
    rw [found]
    rfl

end Constraint

namespace Annotator

variable {config : Config} {cls : Class} {imported : Import}

/-- Which annotators report the symbols of collections for a class that holds some: that of
the persistence mapping, unless the class is an enumeration, and that of constraints when it
takes a symbol for an enumeration. -/
theorem reports_collection_iff (annotator : Annotator)
    (holds : ∃ property ∈ cls.properties.toList,
      property.isCollection config.persistence.useCollection)
    (symbol : imported ∈ Persistence.collectionImports) :
    annotator.Reports config cls imported.name ↔
      cls.isEnum = false ∧
        (annotator = .persistence ∨
          annotator = .constraint ∧ Constraint.NamesEnumeration config cls imported.name) := by
  -- Apart from enumerations, whose names are configured, no other annotator has such a symbol.
  have unlike : ∀ other ∈ [Resource.resourceImport, Resource.propertyImport,
      Constraint.constraintsImport, Constraint.uniqueEntityImport],
      other.name ≠ imported.name := by
    revert imported
    decide
  cases annotator with
  | persistence =>
      have collects : cls.properties.toList.any
          (·.isCollection config.persistence.useCollection) :=
        List.any_eq_true.mpr holds
      rw [Reports, imports, Persistence.imports, if_pos collects]
      split
      next isEnum => simp [isEnum]
      next ordinary =>
        have reported : ∃ reported ∈ Persistence.mappingImport :: Persistence.collectionImports,
            reported.name = imported.name :=
          ⟨imported, List.mem_cons_of_mem _ symbol, rfl⟩
        simpa [ordinary] using reported
  | resource =>
      simp only [Reports, imports, Resource.imports]
      grind
  | constraint =>
      simp only [Reports, imports, Constraint.imports]
      split
      next isEnum => simp [isEnum]
      next ordinary =>
        rw [← Constraint.exists_enumImports_iff]
        grind
  | configuration => simp [Reports, imports]

end Annotator

/-! ## Declarations with collections -/

theorem Property.fieldType?_of_isCollection {property : Property} {config : Config}
    (held : property.isCollection config.persistence.useCollection) (className : String) :
    property.fieldType? config className = some "Collection" := by
  have parts := held
  simp only [isCollection, isRelation, Bool.and_eq_true, Bool.not_eq_true'] at parts
  simp [fieldType?, parts.2.1, parts.1.2, held]

namespace Class

variable {cls other : Class} {property : Property}

/-- A class that is the same but for what is attached and marked has the same properties, but
for their attributes. -/
theorem exists_withAttributes_mem_properties (same : other.bare = cls.bare)
    (member : property ∈ cls.properties.toList) :
    ∃ attributes, property.withAttributes attributes ∈ other.properties.toList := by
  have memberBare : property.bare ∈ other.bare.properties.toList := by
    rw [same]
    exact List.mem_map_of_mem member
  obtain ⟨held, memberHeld, bare⟩ := List.mem_map.mp memberBare
  have described : held = property.withAttributes held.attributes := by
    rw [Property.bare, Property.bare] at bare
    cases held
    cases property
    simp_all [Property.withAttributes]
  exact ⟨held.attributes, described ▸ memberHeld⟩

end Class

namespace Workspace

variable {config : Config} {workspace finished : Workspace} {summary : Summary} {cls : Class}

/-- The declaration of a class uses collections for its properties whatever annotators are
configured: in the types of the fields, and in the constructor unless one was there. -/
theorem exists_declaration_with_collections
    (ended : (workspace.generate config).value = (finished, .ok summary))
    (member : cls ∈ (workspace.registry.adjust config).value.toList) :
    ∃ decl, finished.declaration? config cls = some decl ∧
      ∀ property ∈ cls.properties.toList,
        property.isCollection config.persistence.useCollection →
        (∃ field, decl.field? property.name = some field ∧ field.typeHint = some "Collection") ∧
        ((∀ earlier, workspace.declaration? config cls = some earlier →
            earlier.constructor? = none) →
          ∃ constructor, decl.constructor? = some constructor ∧
            "$this->" ++ property.name ++ " = new ArrayCollection();" ∈ constructor.body) := by
  obtain ⟨done, declared, same, _⟩ := exists_mergeDeclaration_finished ended member
  refine ⟨_, declared, fun property memberProperty held => ⟨?_, fun missing => ?_⟩⟩
  · obtain ⟨attributes, memberDone⟩ :=
      Class.exists_withAttributes_mem_properties same memberProperty
    exact ⟨_, Class.field?_mergeDeclaration memberDone config _,
      Property.fieldType?_of_isCollection held done.name⟩
  · have absent : ((workspace.declaration? config cls).getD { name := cls.name }).constructor? =
        none := by
      cases earlier : workspace.declaration? config cls with
      | none => rfl
      | some decl => exact missing decl earlier
    have needed : cls.needsConstructor config :=
      (cls.needsConstructor_iff config).mpr ⟨property, memberProperty, held⟩
    rw [Class.constructor?_mergeDeclaration, absent, Option.none_or,
      Class.constructor?_of_bare_eq same, if_pos needed]
    refine ⟨_, rfl, List.mem_append_right _ (List.mem_map.mpr ⟨property, ?_, rfl⟩)⟩
    exact List.mem_filter.mpr ⟨memberProperty, held⟩

/-- A class that holds properties in collections is declared with them after a generation:
the fields have the type `Collection`, and the constructor creates them unless another one
was there.  A symbol of collections is imported exactly when it was imported before or is
carried by the class, when the persistence annotator is configured and the class is no
enumeration, or when the symbol is taken for an enumeration. -/
theorem importsSymbol_collection_iff
    (ended : (workspace.generate config).value = (finished, .ok summary))
    (objects : config.persistence.useCollection = true)
    (member : cls ∈ (workspace.registry.adjust config).value.toList)
    (holds : ∃ property ∈ cls.properties.toList, property.isCollection true) :
    (∃ decl, finished.declaration? config cls = some decl ∧
      ∀ property ∈ cls.properties.toList, property.isCollection true →
        (∃ field, decl.field? property.name = some field ∧ field.typeHint = some "Collection") ∧
        ((∀ earlier, workspace.declaration? config cls = some earlier →
            earlier.constructor? = none) →
          ∃ constructor, decl.constructor? = some constructor ∧
            "$this->" ++ property.name ++ " = new ArrayCollection();" ∈ constructor.body)) ∧
    ∀ imported ∈ Persistence.collectionImports,
      finished.importsSymbol config cls imported.name ↔
        workspace.importsSymbol config cls imported.name ∨
        (∃ held ∈ cls.imports.toList, held.name = imported.name) ∨
        (.persistence ∈ config.annotators ∧ cls.isEnum = false) ∨
        (.constraint ∈ config.annotators ∧ cls.isEnum = false ∧
          Constraint.NamesEnumeration config cls imported.name) := by
  have collects (property : Property) : property.isCollection true =
      property.isCollection config.persistence.useCollection := by
    rw [objects]
  simp only [collects] at holds ⊢
  refine ⟨exists_declaration_with_collections ended member, fun imported symbol => ?_⟩
  have reported : (∃ annotator ∈ config.annotators,
        annotator.Reports config cls imported.name) ↔
      (.persistence ∈ config.annotators ∧ cls.isEnum = false) ∨
        (.constraint ∈ config.annotators ∧ cls.isEnum = false ∧
          Constraint.NamesEnumeration config cls imported.name) := by
    simp only [Annotator.reports_collection_iff _ holds symbol]
    constructor
    · rintro ⟨annotator, configured, ordinary, rfl | ⟨rfl, names⟩⟩
      · exact .inl ⟨configured, ordinary⟩
      · exact .inr ⟨configured, ordinary, names⟩
    · rintro (⟨configured, ordinary⟩ | ⟨configured, ordinary, names⟩)
      · exact ⟨.persistence, configured, ordinary, .inl rfl⟩
      · exact ⟨.constraint, configured, ordinary, .inr ⟨rfl, names⟩⟩
  rw [importsSymbol_finished ended member, reported]

/-- Friends are held in a collection; the file, which has a constructor written by hand,
receives both imports. -/
theorem importsSymbol_collection_iff_person :
    let knows : Property :=
      { name := "knows"
        cardinality := .manyToMany
        isArray := true
        range := some (.ofUri "Person") }
    let person : Class := { name := "Person", properties := .ofList [knows] }
    let config : Config := { identifier := { generate := false } }
    let workspace : Workspace :=
      { registry := .ofList [person]
        files := .ofList
          [("Person",
            { namespaces :=
                [{ name := "App\\Entity"
                   classes :=
                    [{ name := "Person", methods := [{ name := constructorName }] }] }] })] }
    let finished := (workspace.generate config).value.1
    (workspace.generate config).value = (finished, .ok ⟨1, 1, 3, 3⟩) ∧
      config.persistence.useCollection = true ∧
      person ∈ (workspace.registry.adjust config).value.toList ∧
      (∃ property ∈ person.properties.toList, property.isCollection true) ∧
      finished.importsSymbol config person "Doctrine\\Common\\Collections\\ArrayCollection" ∧
      finished.importsSymbol config person "Doctrine\\Common\\Collections\\Collection" := by
  intro knows person config workspace finished
  have ended : (workspace.generate config).value = (finished, .ok ⟨1, 1, 3, 3⟩) :=
    generate_eq_ok_of_toOption (by decide +kernel)
  have member : person ∈ (workspace.registry.adjust config).value.toList := by decide +kernel
  have holds : ∃ property ∈ person.properties.toList, property.isCollection true := by
    decide +kernel
  have imports := (importsSymbol_collection_iff ended rfl member holds).2
  have reported : .persistence ∈ config.annotators ∧ person.isEnum = false := by decide +kernel
  exact ⟨ended, rfl, member, holds,
    (imports ⟨"Doctrine\\Common\\Collections\\ArrayCollection", none⟩ (by decide)).mpr
      (.inr (.inr (.inl reported))),
    (imports ⟨"Doctrine\\Common\\Collections\\Collection", none⟩ (by decide)).mpr
      (.inr (.inr (.inl reported)))⟩

/-- Friends are held in a collection that the file does not import: when the persistence
annotator is not configured, and when the class is an enumeration. -/
theorem collection_without_import :
    let knows (target : String) : Property :=
      { name := "knows"
        cardinality := .zeroToMany
        isArray := true
        range := some (.ofUri target) }
    let person : Class := { name := "Person", properties := .ofList [knows "Person"] }
    let gender : Class :=
      { name := "GenderType", isEnum := true, properties := .ofList [knows "GenderType"] }
    ∀ entry ∈ [(({ annotators := [.resource] } : Config), person), ({}, gender)],
      let finished := (Workspace.generate entry.1 { registry := .ofList [entry.2] }).value
      entry.1.persistence.useCollection = true ∧
        (∃ property ∈ entry.2.properties.toList, property.isCollection true) ∧
        finished.2.toOption.isSome ∧
        (∃ decl ∈ finished.1.declaration? entry.1 entry.2,
          ∃ constructor ∈ decl.constructor?,
            "$this->knows = new ArrayCollection();" ∈ constructor.body) ∧
        ∀ imported ∈ Persistence.collectionImports,
          finished.1.importsSymbol entry.1 entry.2 imported.name = false := by
  decide +kernel

end Workspace

end EntityGen
