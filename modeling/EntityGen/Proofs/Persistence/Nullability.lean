import EntityGen.Proofs.Persistence.Columns
import EntityGen.Proofs.Persistence.References

/-!
# Values that may be absent

Whether a single value may be null is told in five places: by the field and its initial value, by
the parameter of the setter, by the type of the getter, by the mapping, and by the constraints.
The mapping of a column takes it from the property, but that of a relation from the cardinality.
All of them agree where the options of the column do not interfere, and where the property of a
relation follows its cardinality (`Persistence.agreesOnNull_propertyAttributes`).
-/

namespace EntityGen

namespace Attribute

/-- A column that may be null. -/
def IsNullableColumn (attr : Attribute) : Prop :=
  attr.name = "ORM\\Column" ∧ attr.argument? "nullable" = some (.bool true)

/-- A column that joins a relation to its target and is never null. -/
def IsRequiredJoin (attr : Attribute) : Prop :=
  attr.name = "ORM\\JoinColumn" ∧ attr.argument? "nullable" = some (.bool false)

end Attribute

namespace Property

/-- The mapping of a property allows null: its column is declared so, and a relation has no column
that forbids it. -/
def AllowsNull (property : Property) (mapping : List Attribute) : Prop :=
  if property.isRelation then ∀ attr ∈ mapping, ¬attr.IsRequiredJoin
  else ∃ attr ∈ mapping, attr.IsNullableColumn

/-- What is generated for a property agrees with its field on whether the value may be null. -/
structure AgreesOnNull (config : Config) (className : String) (property : Property)
    (mapping : List Attribute) : Prop where
  default : (property.field config className).default = some .null ↔
    (property.field config className).nullable
  setter : property.isWritable → ∃ method parameter,
    AccessorKind.setter.among (property.accessors config className) = [method] ∧
      method.parameters = [parameter] ∧
      (parameter.nullable ↔ (property.field config className).nullable)
  getter : property.isReadable → ∃ method hint,
    AccessorKind.getter.among (property.accessors config className) = [method] ∧
      (property.field config className).typeHint = some hint ∧
      (method.returnType = some ("?" ++ hint) ↔ (property.field config className).nullable)
  mapping : property.AllowsNull mapping ↔ (property.field config className).nullable
  constraint : (∀ attr ∈ Constraint.propertyAttributes property, attr.name ≠ "Assert\\NotNull") ↔
    (property.field config className).nullable

end Property

/-! ## Mappings -/

namespace Property

variable {property : Property} {registry : Registry} {target : String}

theorem lookup_nullable_impliedOptions (property : Property) (type : ColumnType) :
    (property.impliedOptions type).lookup "nullable" =
      if property.isNullable then some (.bool true) else none := by
  rw [impliedOptions]
  split <;> cases property.isNullable <;> cases property.isUnique <;>
    cases isReserved property.name <;> simp [List.lookup_cons]

/-- Of the relations to one value exactly those that always have it are joined by a required
column; to many values there is none, but one of the inverse side. -/
theorem forall_not_isRequiredJoin_iff (single : property.cardinality.isCollection = false) :
    (∀ attr ∈ property.associationAttributes target, ¬attr.IsRequiredJoin) ↔
      property.cardinality.isRequired = false := by
  have notJoin {attr : Attribute} (associates : attr.Associates target) : ¬attr.IsRequiredJoin := by
    rintro ⟨joins, _⟩
    have named := associates.1
    rw [joins] at named
    exact absurd named (by decide)
  have oneToOne : ¬(association "OneToOne" target).IsRequiredJoin :=
    notJoin (associates_association (by decide) target)
  have manyToOne : ¬(property.manyToOne target).IsRequiredJoin :=
    notJoin (property.associates_manyToOne target)
  have joined : requiredJoinColumn.IsRequiredJoin := ⟨rfl, rfl⟩
  rw [associationAttributes]
  cases cardinality : property.cardinality
  case zeroToOne => simpa [Cardinality.isRequired] using oneToOne
  case oneToOne => simpa [Cardinality.isRequired] using fun _ => joined
  case unknown | manyToZero => simpa [Cardinality.isRequired] using manyToOne
  case manyToOne => simpa [Cardinality.isRequired] using fun _ => joined
  case zeroToMany | oneToMany | manyToMany =>
    rw [cardinality] at single
    cases single

theorem allowsNull_columnAttribute_iff {type : ColumnType}
    (stored : property.columnType? = some type)
    (undecided : property.columnOptions.get? "nullable" = none) :
    property.AllowsNull [Persistence.columnAttribute property type] ↔ property.isNullable := by
  have argument : (Persistence.columnAttribute property type).argument? "nullable" =
      if property.isNullable then some (.bool true) else none := by
    rw [Persistence.argument?_columnAttribute, undecided, Option.none_or,
      lookup_nullable_impliedOptions]
  have named : (Persistence.columnAttribute property type).name = "ORM\\Column" := rfl
  have unrelated : ¬property.isRelation := by simp [isRelation, stored]
  rw [AllowsNull, if_neg unrelated]
  simp [Attribute.IsNullableColumn, named, argument]

theorem PointsTo.allowsNull_associationAttributes_iff (points : property.PointsTo registry target)
    (single : property.isArray = false)
    (derived : property.withCardinality property.cardinality = property) :
    property.AllowsNull (property.associationAttributes target) ↔ property.isNullable := by
  have many : property.cardinality.isCollection = property.isArray :=
    congrArg Property.isArray derived
  have absent : (!property.cardinality.isRequired) = property.isNullable :=
    congrArg Property.isNullable derived
  rw [AllowsNull, if_pos points.isRelation, forall_not_isRequiredJoin_iff (many.trans single),
    ← absent, Bool.not_eq_true']

end Property

/-! ## Constraints -/

namespace Constraint

/-- Exactly a single value that is never absent has the constraint to be present. -/
theorem forall_ne_notNull_iff (property : Property) :
    (∀ attr ∈ propertyAttributes property, attr.name ≠ "Assert\\NotNull") ↔
      property.isId ∨ property.isArray ∨ property.isNullable := by
  have form : ∀ attr ∈ textForm property, attr.name ≠ "Assert\\NotNull" := by
    rw [textForm]
    split
    · split
      · decide
      · split <;> decide
    · decide
  have choice : ∀ attr ∈ enumChoice property, attr.name ≠ "Assert\\NotNull" := by
    rw [enumChoice]
    split
    · intro attr member
      obtain ⟨target, _, rfl⟩ := List.mem_map.mp member
      split <;> simp [assertion]
    · decide
  have present : (∀ attr ∈ presence property, attr.name ≠ "Assert\\NotNull") ↔
      property.isArray ∨ property.isNullable := by
    rw [presence]
    cases property.isArray <;> cases property.isNullable <;> simp [assertion]
  rw [propertyAttributes]
  cases property.isId with
  | true => simp
  | false =>
      rw [if_neg Bool.false_ne_true, List.forall_mem_append, List.forall_mem_append, present,
        and_iff_right ⟨form, choice⟩, or_iff_right Bool.false_ne_true]

end Constraint

/-! ## Generated code -/

namespace Property

variable {property : Property} {registry : Registry} {config : Config} {className target : String}

theorem exists_fieldType? (notId : property.isId = false) (single : property.isArray = false)
    (typed : property.isEnum ∨ property.range.isSome) (config : Config) (className : String) :
    ∃ hint, property.fieldType? config className = some hint := by
  rw [← Option.isSome_iff_exists, fieldType?, notId, single, itemType?]
  cases isEnum : property.isEnum with
  | true => rfl
  | false =>
      have given : property.range.isSome := by simpa [isEnum] using typed
      simpa using given

theorem isEnum_or_isSome_range (stored : property.columnType?.isSome) :
    property.isEnum ∨ property.range.isSome := by
  cases isEnum : property.isEnum with
  | true => exact .inl rfl
  | false =>
      right
      rw [columnType?, isEnum, if_neg Bool.false_ne_true, Option.isSome_map, datatype?] at stored
      exact Option.isSome_of_isSome_bind stored

theorem PointsTo.isSome_range (points : property.PointsTo registry target) :
    property.range.isSome := by
  obtain ⟨range, given, _⟩ := Option.map_eq_some_iff.mp points.range
  rw [given]
  rfl

theorem returnType_getter_eq_iff {hint : String}
    (type : property.fieldType? config className = some hint) :
    (property.getter config className).returnType = some ("?" ++ hint) ↔
      property.isNullableField config className := by
  rw [getter, type]
  cases property.isNullableField config className with
  | true => simp
  | false =>
      have longer : hint ≠ "?" ++ hint := by
        intro same
        have lengths := congrArg String.length same
        rw [String.length_append] at lengths
        simp at lengths
      simpa using longer

/-- Fields, setters and getters agree by themselves, and so do the constraints. -/
theorem agreesOnNull_of_allowsNull_iff (notId : property.isId = false)
    (single : property.isArray = false) (typed : property.isEnum ∨ property.range.isSome)
    {mapping : List Attribute} (allows : property.AllowsNull mapping ↔ property.isNullable) :
    property.AgreesOnNull config className mapping := by
  have nullable : (property.field config className).nullable = property.isNullable := by
    simp [field, isNullableField, notId, single]
  constructor
  case default =>
    change property.defaultValue? config className = some .null ↔
      property.isNullableField config className
    cases null : property.isNullableField config className <;>
      simp [defaultValue?, single, null]
  case setter =>
    intro writable
    have applies := AccessorKind.appliesTo_setter writable single
    exact ⟨_, _, AccessorKind.among_accessors_of_appliesTo applies config className, rfl, .rfl⟩
  case getter =>
    intro readable
    have applies : AccessorKind.getter.appliesTo property := readable
    obtain ⟨hint, type⟩ := exists_fieldType? notId single typed config className
    exact ⟨_, hint, AccessorKind.among_accessors_of_appliesTo applies config className, type,
      returnType_getter_eq_iff type⟩
  case mapping => rw [allows, nullable]
  case constraint =>
    rw [Constraint.forall_ne_notNull_iff, nullable]
    simp [notId, single]

end Property

namespace Persistence

/-- The mapping, the constraints, the field and the accessors of a property agree on whether its
value may be null.  The property holds one value and is no identifier; it is stored in a column
whose options do not speak of null, or it points to a registered class and follows its
cardinality. -/
theorem agreesOnNull_propertyAttributes (config : Config) (registry : Registry)
    (className : String) {property : Property} (notId : property.isId = false)
    (single : property.isArray = false)
    (derived : (property.columnType?.isSome ∧ property.columnOptions.get? "nullable" = none) ∨
      (∃ target, property.PointsTo registry target) ∧
        property.withCardinality property.cardinality = property) :
    ∃ mapping, propertyAttributes config registry className property = ⟨mapping, []⟩ ∧
      property.AgreesOnNull config className mapping := by
  rcases derived with ⟨stored, undecided⟩ | ⟨⟨target, points⟩, derived⟩
  · have typed := Property.isEnum_or_isSome_range stored
    obtain ⟨type, stored⟩ := Option.isSome_iff_exists.mp stored
    refine ⟨[columnAttribute property type], ?_, ?_⟩
    · rw [propertyAttributes, notId, stored]
      rfl
    · exact Property.agreesOnNull_of_allowsNull_iff notId single typed
        (Property.allowsNull_columnAttribute_iff stored undecided)
  · have typed := points.isSome_range
    refine ⟨property.associationAttributes target, ?_, ?_⟩
    · exact propertyAttributes_of_pointsTo config className points
    · exact Property.agreesOnNull_of_allowsNull_iff notId single (.inr typed)
        (points.allowsNull_associationAttributes_iff single derived)

/-- The gender is one of an enumeration and may be null; there always is an employer. -/
theorem agreesOnNull_propertyAttributes_person :
    let gender : Property :=
      { name := "gender"
        isEnum := true
        range := some (.ofUri "https://schema.org/GenderType")
        columnOptions := .ofList [("length", .number (.integer 9))] }
    let worksFor : Property :=
      { name := "worksFor"
        cardinality := .manyToOne
        isNullable := false
        range := some (.ofUri "https://schema.org/Organization") }
    let registry : Registry := .ofList [{ name := "Organization" }]
    gender.isId = false ∧ gender.isArray = false ∧ gender.columnType?.isSome ∧
      gender.columnOptions.get? "nullable" = none ∧
      worksFor.isId = false ∧ worksFor.isArray = false ∧
      worksFor.PointsTo registry "Organization" ∧
      worksFor.withCardinality worksFor.cardinality = worksFor ∧
      (∃ mapping, propertyAttributes {} registry "Person" gender = ⟨mapping, []⟩ ∧
        gender.AgreesOnNull {} "Person" mapping ∧ (gender.field {} "Person").nullable = true) ∧
      ∃ mapping, propertyAttributes {} registry "Person" worksFor = ⟨mapping, []⟩ ∧
        worksFor.AgreesOnNull {} "Person" mapping ∧
        (worksFor.field {} "Person").nullable = false := by
  intro gender worksFor registry
  have undecided : gender.columnOptions.get? "nullable" = none := by decide +kernel
  have points : worksFor.PointsTo registry "Organization" :=
    ⟨rfl, rfl, rfl, by decide +kernel, by decide +kernel, by decide +kernel⟩
  obtain ⟨column, stored, agreesColumn⟩ :=
    agreesOnNull_propertyAttributes {} registry "Person" rfl rfl (.inl ⟨rfl, undecided⟩)
  obtain ⟨relation, mapped, agreesRelation⟩ :=
    agreesOnNull_propertyAttributes {} registry "Person" rfl rfl (.inr ⟨⟨_, points⟩, rfl⟩)
  exact ⟨rfl, rfl, rfl, undecided, rfl, rfl, points, rfl, ⟨column, stored, agreesColumn, rfl⟩,
    relation, mapped, agreesRelation, rfl⟩

end Persistence

end EntityGen
