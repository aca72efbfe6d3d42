import EntityGen.Proofs.Persistence.Columns
import EntityGen.Proofs.Persistence.References

/-!
# The two sides of a relation

One side of a relation owns it, names the inverse side, and describes what joins the two; the
other side only says by which property it is mapped.  The attributes of a property keep the sides
apart, with two exceptions (`Persistence.sidesApart_iff`): a relation of many to many is given
everything that its property speaks of, and the options of a column are taken over as they are.
This is said of every property, so also of one that has its table from the settings.
-/

namespace EntityGen

namespace Attribute

/-- Where an attribute says by which property the relation is mapped, it names no inverse side,
and nothing describes what joins the sides. -/
def SidesApart (attributes : List Attribute) : Prop :=
  ∀ attr ∈ attributes, (attr.argument? "mappedBy").isSome →
    attr.argument? "inversedBy" = none ∧ ∀ other ∈ attributes, other.name ∉ joinNames

instance (attributes : List Attribute) : Decidable (SidesApart attributes) :=
  inferInstanceAs (Decidable (∀ attr ∈ attributes, _ → _))

theorem sidesApart_of_unmapped {attributes : List Attribute}
    (unmapped : ∀ attr ∈ attributes, attr.argument? "mappedBy" = none) :
    SidesApart attributes := by
  intro attr member mapped
  rw [unmapped attr member] at mapped
  cases mapped

/-- Where one attribute stands before those that describe what joins the sides, it alone decides. -/
theorem sidesApart_cons_iff {first : Attribute} {joins : List Attribute}
    (other : first.name ∉ joinNames)
    (described : ∀ attr ∈ joins, attr.name ∈ joinNames ∧ attr.argument? "mappedBy" = none) :
    SidesApart (first :: joins) ↔
      ((first.argument? "mappedBy").isSome → first.argument? "inversedBy" = none ∧ joins = []) := by
  constructor
  · intro apart mapped
    obtain ⟨inverse, undescribed⟩ := apart first List.mem_cons_self mapped
    refine ⟨inverse, List.eq_nil_iff_forall_not_mem.mpr ?_⟩
    intro attr member
    exact undescribed attr (List.mem_cons_of_mem first member) (described attr member).1
  · intro apart attr member mapped
    rcases List.mem_cons.mp member with rfl | later
    · obtain ⟨inverse, rfl⟩ := apart mapped
      exact ⟨inverse, by simpa using other⟩
    · rw [(described attr later).2] at mapped
      cases mapped

end Attribute

namespace Property

/-- A relation of many to many to a registered class that another property maps, and that still
names an inverse side or a table of its own. -/
structure MixesSides (property : Property) (registry : Registry) : Prop where
  isRelation : property.isRelation
  registered : ∃ target, property.rangeName? = some target ∧ registry.contains target
  isEmbedded : property.isEmbedded = false
  cardinality : property.cardinality = .manyToMany
  mapped : property.mappedBy.isSome
  owns : property.inversedBy.isSome ∨ property.relationTableName.isSome

/-- A column whose options speak of both sides. -/
structure MixesOptions (property : Property) : Prop where
  isId : property.isId = false
  stored : property.columnType?.isSome
  mapped : (property.columnOptions.get? "mappedBy").isSome
  owns : (property.columnOptions.get? "inversedBy").isSome

variable (property : Property) (target : String)

/-! ## Associations -/

theorem described_joinTable : ∀ attr ∈ property.joinTable,
    attr.name ∈ Attribute.joinNames ∧ attr.argument? "mappedBy" = none := by
  intro attr member
  refine ⟨?_, ?_⟩
  · rw [name_of_mem_joinTable member]
    decide
  · obtain ⟨table, _, rfl⟩ := List.mem_map.mp member
    simp

/-- Of one with many, what another property maps has nothing of the owner. -/
theorem sidesApart_oneToMany (required : Bool) :
    Attribute.SidesApart (property.oneToMany target required) := by
  rw [oneToMany]
  cases property.mappedBy with
  | some owner =>
      rw [Attribute.sidesApart_cons_iff _ (by simp)]
      · simp [association]
      · rw [Attribute.name_withArgument, name_association]
        decide
  | none =>
      apply Attribute.sidesApart_of_unmapped
      simp only [List.cons_append, List.forall_mem_cons, List.forall_mem_append]
      refine ⟨by simp [manyToMany, association], fun attr member =>
        (property.described_joinTable attr member).2, ?_⟩
      cases required <;> simp

/-- Of many with many, what another property maps may name an inverse side and a table. -/
theorem sidesApart_manyToMany_iff :
    Attribute.SidesApart
        ((property.manyToMany target).withArgument? "mappedBy" (property.mappedBy.map .string) ::
          property.joinTable) ↔
      ¬(property.mappedBy.isSome ∧
        (property.inversedBy.isSome ∨ property.relationTableName.isSome)) := by
  rw [Attribute.sidesApart_cons_iff _ property.described_joinTable]
  · simp [manyToMany, association, joinTable]
  · rw [Attribute.name_withArgument?, manyToMany, Attribute.name_withArgument?, name_association]
    decide

theorem sidesApart_associationAttributes_iff :
    Attribute.SidesApart (property.associationAttributes target) ↔
      ¬(property.cardinality = .manyToMany ∧ property.mappedBy.isSome ∧
        (property.inversedBy.isSome ∨ property.relationTableName.isSome)) := by
  have toOne : (property.manyToOne target).argument? "mappedBy" = none := by
    simp [manyToOne, association]
  have joinColumn : requiredJoinColumn.argument? "mappedBy" = none := by decide
  rw [associationAttributes]
  cases property.cardinality with
  | zeroToOne => simp [Attribute.sidesApart_of_unmapped, association]
  | oneToOne => simp [Attribute.sidesApart_of_unmapped, association, joinColumn]
  | unknown => simp [Attribute.sidesApart_of_unmapped, toOne]
  | manyToZero => simp [Attribute.sidesApart_of_unmapped, toOne]
  | manyToOne => simp [Attribute.sidesApart_of_unmapped, toOne, joinColumn]
  | zeroToMany => simp [sidesApart_oneToMany]
  | oneToMany => simp [sidesApart_oneToMany]
  | manyToMany => simp [sidesApart_manyToMany_iff]

end Property

/-! ## All properties -/

namespace Persistence

theorem sidesApart_identifierAttributes (settings : Config.Identifier) (property : Property) :
    Attribute.SidesApart (identifierAttributes settings property) := by
  apply Attribute.sidesApart_of_unmapped
  rw [identifierAttributes]
  split <;> simp

theorem sidesApart_columnAttribute_iff (property : Property) (type : ColumnType) :
    Attribute.SidesApart [columnAttribute property type] ↔
      ¬((property.columnOptions.get? "mappedBy").isSome ∧
        (property.columnOptions.get? "inversedBy").isSome) := by
  have named : "ORM\\Column" ∉ Attribute.joinNames := by decide
  rw [Attribute.sidesApart_cons_iff named (by simp),
    argument?_columnAttribute_of_notMem _ _ (by decide),
    argument?_columnAttribute_of_notMem _ _ (by decide)]
  simp

theorem sidesApart_relationAttributes_iff (property : Property) (cls : Class) :
    Attribute.SidesApart (relationAttributes property cls) ↔
      ¬(property.isEmbedded = false ∧ property.cardinality = .manyToMany ∧
        property.mappedBy.isSome ∧
        (property.inversedBy.isSome ∨ property.relationTableName.isSome)) := by
  rw [relationAttributes]
  by_cases embedded : property.isEmbedded
  · simp [embedded, Attribute.sidesApart_of_unmapped]
  · simp only [embedded, Bool.false_eq_true, if_false, true_and]
    exact property.sidesApart_associationAttributes_iff cls.name

theorem sidesApart_iff_of_isRelation (config : Config) (registry : Registry) (className : String)
    {property : Property} (isRelation : property.isRelation) :
    Attribute.SidesApart (propertyAttributes config registry className property).value ↔
      ¬property.MixesSides registry := by
  rcases isUnresolved_or_registered registry isRelation with
    unresolved | ⟨cls, range, found⟩
  · rw [propertyAttributes_of_isUnresolved config unresolved]
    have unmixed : ¬property.MixesSides registry := by
      intro mixes
      obtain ⟨target, range, registered⟩ := mixes.registered
      exact unresolved.2 target range registered
    simp [unmixed, Attribute.sidesApart_of_unmapped]
  · rw [propertyAttributes_of_registered config isRelation range found,
      sidesApart_relationAttributes_iff, not_iff_not]
    constructor
    · rintro ⟨isEmbedded, cardinality, mapped, owns⟩
      have registered := Table.contains_of_get? found
      exact ⟨isRelation, ⟨cls.name, range, registered⟩, isEmbedded, cardinality, mapped, owns⟩
    · intro mixes
      exact ⟨mixes.isEmbedded, mixes.cardinality, mixes.mapped, mixes.owns⟩

/-- The attributes of a property keep the sides of a relation apart, except in a relation of many
to many and in a column whose options say otherwise. -/
theorem sidesApart_iff (config : Config) (registry : Registry) (className : String)
    (property : Property) :
    Attribute.SidesApart (propertyAttributes config registry className property).value ↔
      ¬property.MixesSides registry ∧ ¬property.MixesOptions := by
  by_cases isRelation : property.isRelation
  · have unstored : ¬property.MixesOptions := by
      intro mixes
      have stored := mixes.stored
      rw [(Property.isRelation_iff.mp isRelation).2] at stored
      cases stored
    rw [sidesApart_iff_of_isRelation config registry className isRelation]
    simp [unstored]
  · have unmixed : ¬property.MixesSides registry := fun mixes => isRelation mixes.isRelation
    rw [propertyAttributes]
    split
    next isId =>
      have mixes : ¬property.MixesOptions := fun mixes => by simp [mixes.isId] at isId
      exact iff_of_true (sidesApart_identifierAttributes _ property) ⟨unmixed, mixes⟩
    next notId =>
      split
      next type stored =>
        have mixes : property.MixesOptions ↔ (property.columnOptions.get? "mappedBy").isSome ∧
            (property.columnOptions.get? "inversedBy").isSome := by
          constructor
          · exact fun mixes => ⟨mixes.mapped, mixes.owns⟩
          · intro both
            exact ⟨by simpa using notId, by rw [stored, Option.isSome], both.1, both.2⟩
        rw [Logged.value_pure, sidesApart_columnAttribute_iff, mixes]
        exact (and_iff_right unmixed).symm
      next unstored =>
        exact absurd (Property.isRelation_iff.mpr ⟨by simpa using notId, unstored⟩) isRelation

/-- A relation of many to many that another property maps declares a table of its own; a relation
of one to many with the same options does not. -/
theorem sides_mixed_many_to_many :
    let knows : Property :=
      { name := "knows"
        range := some (.ofUri "https://schema.org/Person")
        cardinality := .manyToMany
        isArray := true
        mappedBy := some "knownBy"
        relationTableName := some "person_knows" }
    let registry : Registry := .ofList [{ name := "Person", properties := .ofList [knows] }]
    let emitted := (propertyAttributes {} registry "Person" knows).value
    emitted.map Attribute.name = ["ORM\\ManyToMany", "ORM\\JoinTable"] ∧
      ¬Attribute.SidesApart emitted ∧
      Attribute.SidesApart
        (propertyAttributes {} registry "Person" { knows with cardinality := .oneToMany }).value := by
  decide +kernel

end Persistence

end EntityGen
