import EntityGen.Proofs.Merge.Fields
import EntityGen.Proofs.Persistence.References

/-!
# The shape of a relation

How many values a relation holds is asked in several places: the mapping asks the cardinality,
while the field, the constructor and the accessors ask whether the property is an array.  Where
the one follows from the other all of them have one shape (`Persistence.toMany_iff_holdsMany`):
an association with many targets belongs to a field for many values, which has an adder and a
remover, and any other association to a field of the type of its target, which has a setter.
-/

namespace EntityGen

namespace Attribute

/-- The names of associations with many targets. -/
def toManyNames : List String := ["ORM\\OneToMany", "ORM\\ManyToMany"]

/-- The names of associations with one target. -/
def toOneNames : List String := ["ORM\\OneToOne", "ORM\\ManyToOne"]

end Attribute

/-- There is one accessor of a kind among methods, and it takes a value of a type. -/
def AccessorKind.Takes (kind : AccessorKind) (methods : List Method) (type : String) : Prop :=
  ∃ method, kind.among methods = [method] ∧ method.parameters.map Parameter.typeHint = [some type]

/-- The constructor that is generated for a class fills a field with an empty collection. -/
def Class.Initializes (cls : Class) (config : Config) (name : String) : Prop :=
  ∃ constructor, cls.constructor? config = some constructor ∧
    "$this->" ++ name ++ " = new ArrayCollection();" ∈ constructor.body

namespace Property

/-- What is generated for a property is made for many values of a class. -/
structure HoldsMany (config : Config) (cls : Class) (target : String) (property : Property)
    (field : Field) : Prop where
  typeHint : field.typeHint =
    some (if config.persistence.useCollection then "Collection" else "array")
  default : field.default = if config.persistence.useCollection then none else some (.array [])
  initialized : cls.Initializes config property.name ↔ config.persistence.useCollection
  adder : property.isWritable →
    AccessorKind.adder.Takes (property.accessors config cls.name) target
  remover : property.isWritable →
    AccessorKind.remover.Takes (property.accessors config cls.name) target
  setter : AccessorKind.setter.among (property.accessors config cls.name) = []

/-- What is generated for a property is made for one value of a class. -/
structure HoldsOne (config : Config) (cls : Class) (target : String) (property : Property)
    (field : Field) : Prop where
  typeHint : field.typeHint = some target
  getter : property.isReadable →
    ∃ method, AccessorKind.getter.among (property.accessors config cls.name) = [method] ∧
      method.returnType = some (if field.nullable then "?" ++ target else target)
  setter : property.isWritable →
    AccessorKind.setter.Takes (property.accessors config cls.name) target
  adder : AccessorKind.adder.among (property.accessors config cls.name) = []
  remover : AccessorKind.remover.among (property.accessors config cls.name) = []

end Property

/-! ## Associations -/

namespace Property

variable {property : Property} {target : String}

theorem name_manyToOne (property : Property) (target : String) :
    (property.manyToOne target).name = "ORM\\ManyToOne" := by
  rw [manyToOne, Attribute.name_withArgument?]
  rfl

theorem name_manyToMany (property : Property) (target : String) :
    (property.manyToMany target).name = "ORM\\ManyToMany" := by
  rw [manyToMany, Attribute.name_withArgument?]
  rfl

/-- The cardinality tells how many targets the association has. -/
theorem name_of_associationAttributes {association : Attribute} {joins : List Attribute}
    (split : property.associationAttributes target = association :: joins) :
    association.name ∈
      if property.cardinality.isCollection then Attribute.toManyNames
      else Attribute.toOneNames := by
  have oneToMany (required : Bool)
      (split : property.oneToMany target required = association :: joins) :
      association.name ∈ Attribute.toManyNames := by
    rw [Property.oneToMany] at split
    cases mapped : property.mappedBy with
    | some owner =>
        rw [mapped] at split
        cases split
        exact List.mem_cons_self
    | none =>
        rw [mapped] at split
        cases split
        rw [name_manyToMany]
        decide
  rw [associationAttributes] at split
  cases cardinality : property.cardinality <;> rw [cardinality] at split
  case zeroToOne | oneToOne =>
    cases split
    exact List.mem_cons_self
  case unknown | manyToZero | manyToOne =>
    cases split
    rw [name_manyToOne]
    decide
  case zeroToMany => exact oneToMany false split
  case oneToMany => exact oneToMany true split
  case manyToMany =>
    cases split
    rw [Attribute.name_withArgument?, name_manyToMany]
    decide

end Property

/-! ## Generated code -/

theorem AccessorKind.takes_accessors {kind : AccessorKind} {property : Property} {config : Config}
    {className type : String} {parameter : Parameter} (applies : kind.appliesTo property)
    (taken : (kind.method property config className).parameters = [parameter])
    (typed : parameter.typeHint = some type) :
    kind.Takes (property.accessors config className) type := by
  refine ⟨_, among_accessors_of_appliesTo applies config className, ?_⟩
  rw [taken, List.map_singleton, typed]

/-- Exactly what is held in a collection is initialized. -/
theorem Class.initializes_iff {cls : Class} {property : Property}
    (member : property ∈ cls.properties.toList) (config : Config) :
    cls.Initializes config property.name ↔
      property.isCollection config.persistence.useCollection := by
  constructor
  · rintro ⟨constructor, needed, initialized⟩
    rw [constructor?] at needed
    split at needed
    · cases needed
      obtain ⟨other, memberOther, held, named⟩ :=
        (cls.initialization_mem_constructorBody config property.name).mp initialized
      rw [cls.properties.eq_of_key_eq memberOther member named] at held
      exact held
    · cases needed
  · intro held
    have needed : cls.needsConstructor config :=
      (cls.needsConstructor_iff config).mpr ⟨property, member, held⟩
    refine ⟨_, by rw [constructor?, if_pos needed], ?_⟩
    exact (cls.initialization_mem_constructorBody config property.name).mpr
      ⟨property, member, held, rfl⟩

namespace Property.PointsTo

variable {property : Property} {registry : Registry} {target : String}

theorem itemType? (points : property.PointsTo registry target) :
    property.itemType? = some target := by
  obtain ⟨range, given, named⟩ := Option.map_eq_some_iff.mp points.range
  have unknown : range.datatype? = none := by
    simpa [datatype?, given] using points.unstored
  rw [Property.itemType?, points.notEnum, given]
  simp [unknown, named]

theorem isCollection_eq (points : property.PointsTo registry target) (useCollection : Bool) :
    property.isCollection useCollection = (useCollection && property.isArray) := by
  rw [isCollection, points.isRelation, Bool.and_true]

variable {config : Config} {cls : Class}

theorem holdsMany (points : property.PointsTo registry target)
    (member : property ∈ cls.properties.toList) (many : property.isArray = true)
    (earlier : Option Field) :
    property.HoldsMany config cls target
      ((property.field config cls.name).keepComment earlier) := by
  have held : property.isCollection config.persistence.useCollection =
      config.persistence.useCollection := by
    rw [points.isCollection_eq, many, Bool.and_true]
  have changes (writable : property.isWritable) :
      AccessorKind.adder.appliesTo property ∧ AccessorKind.remover.appliesTo property := by
    simp [AccessorKind.appliesTo, writable, many, points.notEnum]
  constructor
  case typeHint =>
    change property.fieldType? config cls.name = _
    simp [fieldType?, points.notId, many, held]
  case default =>
    change property.defaultValue? config cls.name = _
    simp [defaultValue?, many, held]
  case initialized => rw [Class.initializes_iff member, held]
  case adder =>
    intro writable
    exact AccessorKind.takes_accessors (changes writable).1 rfl points.itemType?
  case remover =>
    intro writable
    exact AccessorKind.takes_accessors (changes writable).2 rfl points.itemType?
  case setter =>
    apply AccessorKind.among_accessors_of_not_appliesTo
    simp [AccessorKind.appliesTo, many, points.notEnum]

theorem holdsOne (points : property.PointsTo registry target) (single : property.isArray = false)
    (earlier : Option Field) :
    property.HoldsOne config cls target
      ((property.field config cls.name).keepComment earlier) := by
  have type : property.fieldType? config cls.name = some target := by
    simp [fieldType?, points.notId, single, points.itemType?]
  constructor
  case typeHint => exact type
  case getter =>
    intro readable
    have applies : AccessorKind.getter.appliesTo property := readable
    refine ⟨_, AccessorKind.among_accessors_of_appliesTo applies config cls.name, ?_⟩
    rw [AccessorKind.method, getter, type]
    rfl
  case setter =>
    intro writable
    exact AccessorKind.takes_accessors (AccessorKind.appliesTo_setter writable single) rfl type
  case adder =>
    apply AccessorKind.among_accessors_of_not_appliesTo
    simp [AccessorKind.appliesTo, single]
  case remover =>
    apply AccessorKind.among_accessors_of_not_appliesTo
    simp [AccessorKind.appliesTo, single]

end Property.PointsTo

/-- A single value is neither initialized nor an empty list at first. -/
theorem Property.not_holdsMany {property : Property} {cls : Class} {config : Config}
    {target : String} (member : property ∈ cls.properties.toList)
    (single : property.isArray = false) (earlier : Option Field) :
    ¬property.HoldsMany config cls target
      ((property.field config cls.name).keepComment earlier) := by
  intro holds
  -- The target may be called like a type for many values, so the type of the field does not tell.
  cases objects : config.persistence.useCollection with
  | true =>
      have initialized := holds.initialized.mpr objects
      rw [Class.initializes_iff member] at initialized
      simp [isCollection, single] at initialized
  | false =>
      have default : property.defaultValue? config cls.name = some (.array []) := by
        have given := holds.default
        rw [objects] at given
        exact given
      cases nullable : property.isNullableField config cls.name <;>
        simp [defaultValue?, single, nullable] at default

namespace Persistence

/-- A relation to a registered class whose being an array follows from its cardinality: it has an
association with many targets exactly when what is generated for it is made for many values,
whatever file the class is merged into; otherwise the association has one target, and all is made
for one value. -/
theorem toMany_iff_holdsMany (config : Config) (registry : Registry) {cls : Class}
    {property : Property} {target : String} (member : property ∈ cls.properties.toList)
    (points : property.PointsTo registry target)
    (derived : property.isArray = (property.withCardinality property.cardinality).isArray)
    (file : SourceFile) :
    ∃ association joins merged field,
      propertyAttributes config registry cls.name property = ⟨association :: joins, []⟩ ∧
      association.Associates target ∧ (∀ attr ∈ joins, ¬attr.IsReference) ∧
      (cls.merge config file).value.1.classIn? (config.namespaceFor cls) cls.name = some merged ∧
      merged.field? property.name = some field ∧
      (config.accessorMethods → ∀ accessor ∈ property.accessors config cls.name,
        merged.hasMethod accessor.name) ∧
      (association.name ∈ Attribute.toManyNames ↔ property.HoldsMany config cls target field) ∧
      (association.name ∉ Attribute.toManyNames →
        association.name ∈ Attribute.toOneNames ∧ property.HoldsOne config cls target field) := by
  obtain ⟨association, joins, split, associates, joined⟩ := property.exists_associates target
  have named := Property.name_of_associationAttributes split
  have agree : property.cardinality.isCollection = property.isArray := derived.symm
  rw [agree] at named
  refine ⟨association, joins, _, _, ?_, associates, ?_, cls.classIn?_mergeFile config file,
    Class.field?_mergeDeclaration member config _, ?_, ?_⟩
  · rw [propertyAttributes_of_pointsTo config cls.name points, split]
  · intro attr memberJoins
    exact Attribute.not_isReference_of_mem_joinNames (joined attr memberJoins)
  · intro generated accessor ofProperty
    rw [ClassDeclaration.hasMethod, Class.methods_mergeDeclaration_of_accessors generated]
    apply Method.any_name_foldl_appendNew
    exact List.mem_flatMap.mpr ⟨property, Class.mem_declarationOrder.mpr member, ofProperty⟩
  · cases shape : property.isArray with
    | true =>
        rw [shape, if_pos rfl] at named
        exact ⟨iff_of_true named (points.holdsMany member shape _),
          fun other => absurd named other⟩
    | false =>
        rw [shape, if_neg Bool.false_ne_true] at named
        have apart : ∀ name ∈ Attribute.toOneNames, name ∉ Attribute.toManyNames := by decide
        refine ⟨iff_of_false (apart _ named) (Property.not_holdsMany member shape _), ?_⟩
        exact fun _ => ⟨named, points.holdsOne shape _⟩

/-- Children are many, and their field was there before; a spouse is one. -/
theorem toMany_iff_holdsMany_person :
    let children : Property :=
      { name := "children"
        cardinality := .oneToMany
        isArray := true
        isNullable := false
        range := some (.ofUri "https://schema.org/Person") }
    let spouse : Property :=
      { name := "spouse"
        cardinality := .zeroToOne
        range := some (.ofUri "https://schema.org/Person") }
    let person : Class := { name := "Person", properties := .ofList [children, spouse] }
    let registry : Registry := .ofList [person]
    let file : SourceFile :=
      { namespaces :=
          [{ name := "App\\Entity"
             classes := [{ name := "Person", fields := [{ name := "children" }] }] }] }
    children ∈ person.properties.toList ∧ children.PointsTo registry "Person" ∧
      children.isArray = (children.withCardinality children.cardinality).isArray ∧
      spouse ∈ person.properties.toList ∧ spouse.PointsTo registry "Person" ∧
      spouse.isArray = (spouse.withCardinality spouse.cardinality).isArray ∧
      (∃ association joins merged field,
        propertyAttributes {} registry "Person" children = ⟨association :: joins, []⟩ ∧
          (person.merge {} file).value.1.classIn? "App\\Entity" "Person" = some merged ∧
          merged.field? "children" = some field ∧ association.name = "ORM\\ManyToMany" ∧
          children.HoldsMany {} person "Person" field) ∧
      ∃ association joins merged field,
        propertyAttributes {} registry "Person" spouse = ⟨association :: joins, []⟩ ∧
          (person.merge {} file).value.1.classIn? "App\\Entity" "Person" = some merged ∧
          merged.field? "spouse" = some field ∧ association.name = "ORM\\OneToOne" ∧
          spouse.HoldsOne {} person "Person" field := by
  intro children spouse person registry file
  have memberChildren : children ∈ person.properties.toList := by decide +kernel
  have memberSpouse : spouse ∈ person.properties.toList := by decide +kernel
  have pointsChildren : children.PointsTo registry "Person" :=
    ⟨rfl, rfl, rfl, by decide +kernel, by decide +kernel, by decide +kernel⟩
  have pointsSpouse : spouse.PointsTo registry "Person" :=
    ⟨rfl, rfl, rfl, by decide +kernel, by decide +kernel, by decide +kernel⟩
  refine ⟨memberChildren, pointsChildren, rfl, memberSpouse, pointsSpouse, rfl, ?_, ?_⟩
  · obtain ⟨association, joins, merged, field, emitted, _, _, declared, found, _, shape, _⟩ :=
      toMany_iff_holdsMany {} registry memberChildren pointsChildren rfl file
    have first : (propertyAttributes {} registry "Person" children).value.head?.map
        Attribute.name = some "ORM\\ManyToMany" := by
      decide +kernel
    rw [emitted] at first
    have named : association.name = "ORM\\ManyToMany" := Option.some.inj first
    have many := shape.mp (by rw [named]; decide)
    exact ⟨association, joins, merged, field, emitted, declared, found, named, many⟩
  · obtain ⟨association, joins, merged, field, emitted, _, _, declared, found, _, _, shape⟩ :=
      toMany_iff_holdsMany {} registry memberSpouse pointsSpouse rfl file
    have first : (propertyAttributes {} registry "Person" spouse).value.head?.map
        Attribute.name = some "ORM\\OneToOne" := by
      decide +kernel
    rw [emitted] at first
    have named : association.name = "ORM\\OneToOne" := Option.some.inj first
    have one := (shape (by rw [named]; decide)).2
    exact ⟨association, joins, merged, field, emitted, declared, found, named, one⟩

end Persistence

end EntityGen
