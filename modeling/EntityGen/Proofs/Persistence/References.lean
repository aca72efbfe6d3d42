import EntityGen.Proofs.Attachment
import EntityGen.Proofs.AttributeNames

/-!
# References to other classes

A property that is not stored in a column points to another class.  When that class is
registered, the first attribute of the property refers to it, and no other one refers to
anything; when it is not, the property has no attributes, and one error is reported in their
place (`Persistence.mapsRelation_propertyAttributes`).

Nothing else in an annotation reports errors, so an annotation that ends well reports one for
every unresolved relation each time it looks for the mapping of the property
(`Registry.relations_mapped_or_reported`).
-/

namespace EntityGen

namespace Attribute

/-- The names of attributes that associate a property with a class. -/
def associationNames : List String :=
  ["ORM\\OneToOne", "ORM\\ManyToOne", "ORM\\OneToMany", "ORM\\ManyToMany"]

/-- The names of attributes that describe what joins the two sides of a relation. -/
def joinNames : List String := ["ORM\\JoinTable", "ORM\\JoinColumn", "ORM\\InverseJoinColumn"]

/-- An attribute stores a class inside the owner of the property. -/
def Embeds (attr : Attribute) (target : String) : Prop :=
  attr.name = "ORM\\Embedded" ∧ attr.argument? "class" = some (.string target)

/-- An attribute associates the property with a class. -/
def Associates (attr : Attribute) (target : String) : Prop :=
  attr.name ∈ associationNames ∧ attr.argument? "targetEntity" = some (.string target)

/-- An attribute of a kind that refers to a class. -/
def IsReference (attr : Attribute) : Prop :=
  attr.name = "ORM\\Embedded" ∨ attr.name ∈ associationNames

variable {attr : Attribute}

@[simp] theorem argument?_withArgument (attr : Attribute) (key : String) (value : Json.Value)
    (k : String) :
    (attr.withArgument key value).argument? k = if k = key then some value else attr.argument? k :=
  attr.arguments.get?_insert key value k

@[simp] theorem argument?_withArgument? (attr : Attribute) (key : String)
    (value : Option Json.Value) (k : String) :
    (attr.withArgument? key value).argument? k =
      (if k = key then value else none).or (attr.argument? k) := by
  cases value with
  | none => simp [withArgument?]
  | some value =>
      rw [withArgument?, argument?_withArgument]
      split <;> rfl

theorem Associates.withArgument {target key : String} (associates : attr.Associates target)
    (other : "targetEntity" ≠ key) (value : Json.Value) :
    (attr.withArgument key value).Associates target := by
  refine ⟨associates.1, ?_⟩
  rw [argument?_withArgument, if_neg other]
  exact associates.2

theorem Associates.withArgument? {target key : String} (associates : attr.Associates target)
    (other : "targetEntity" ≠ key) (value : Option Json.Value) :
    (attr.withArgument? key value).Associates target := by
  cases value with
  | none => exact associates
  | some value => exact associates.withArgument other value

theorem not_isReference_of_mem_joinNames (joins : attr.name ∈ joinNames) : ¬attr.IsReference := by
  have apart : ∀ name ∈ joinNames, ¬(name = "ORM\\Embedded" ∨ name ∈ associationNames) := by decide
  exact apart attr.name joins

end Attribute

@[simp] theorem argument?_persistenceAttribute (name key : String) :
    (persistenceAttribute name).argument? key = none := by
  simp [Attribute.argument?, OrderedMap.get?, persistenceAttribute]

namespace Property

theorem isRelation_iff {property : Property} :
    property.isRelation ↔ property.isId = false ∧ property.columnType? = none := by
  simp [isRelation]

/-- A relation that points nowhere, or to a class that is not registered. -/
def IsUnresolved (property : Property) (registry : Registry) : Prop :=
  property.isRelation ∧ ∀ target ∈ property.rangeName?, ¬registry.contains target

instance (property : Property) (registry : Registry) : Decidable (property.IsUnresolved registry) :=
  inferInstanceAs (Decidable (_ ∧ ∀ target ∈ property.rangeName?, _))

/-- The report of an unresolved relation; the target is empty when there is none. -/
def miss (property : Property) (className : String) : Event :=
  match property.rangeName? with
  | none => .unmappedProperty (.missingRange className property.name) className property.name ""
  | some target =>
    .unmappedProperty (.unresolvedRelation className property.name target) className property.name
      target

/-- What becomes of a relation: a reference to its target, with what joins the two sides, or
else a report. -/
inductive MapsRelation (registry : Registry) (className : String) (property : Property) :
    Logged (List Attribute) → Prop
  | resolved {target : String} {reference : Attribute} {joins : List Attribute} :
      property.rangeName? = some target → registry.contains target →
      (if property.isEmbedded then reference.Embeds target else reference.Associates target) →
      (∀ attr ∈ joins, ¬attr.IsReference) →
      MapsRelation registry className property ⟨reference :: joins, []⟩
  | unresolved : property.IsUnresolved registry →
      MapsRelation registry className property ⟨[], [property.miss className]⟩

/-- A property points to a registered class, which it does not store inside its owner. -/
structure PointsTo (property : Property) (registry : Registry) (target : String) : Prop where
  notId : property.isId = false
  notEnum : property.isEnum = false
  separate : property.isEmbedded = false
  unstored : property.datatype? = none
  range : property.rangeName? = some target
  registered : registry.contains target

variable {property : Property} {registry : Registry} {className target : String}

theorem PointsTo.isRelation (points : property.PointsTo registry target) : property.isRelation := by
  simp [Property.isRelation, columnType?, points.notId, points.notEnum, points.unstored]

/-! ## Associations -/

theorem associates_association {kind : String}
    (known : "ORM\\" ++ kind ∈ Attribute.associationNames) (target : String) :
    (association kind target).Associates target :=
  ⟨known, by rw [association, Attribute.argument?_withArgument, if_pos rfl]⟩

theorem associates_manyToOne (property : Property) (target : String) :
    (property.manyToOne target).Associates target :=
  (associates_association (by decide) target).withArgument? (by decide) _

theorem associates_manyToMany (property : Property) (target : String) :
    (property.manyToMany target).Associates target :=
  (associates_association (by decide) target).withArgument? (by decide) _

/-- Whatever its cardinality, a relation begins with an association, and only what joins the two
sides follows. -/
theorem exists_associates (property : Property) (target : String) :
    ∃ first joins, property.associationAttributes target = first :: joins ∧
      first.Associates target ∧ ∀ attr ∈ joins, attr.name ∈ Attribute.joinNames := by
  have joinColumn : ∀ attr ∈ [requiredJoinColumn], attr.name ∈ Attribute.joinNames := by decide
  have joinTable : ∀ attr ∈ property.joinTable, attr.name ∈ Attribute.joinNames := by
    intro attr member
    rw [name_of_mem_joinTable member]
    decide
  have oneToMany (required : Bool) : ∃ first joins,
      property.oneToMany target required = first :: joins ∧
        first.Associates target ∧ ∀ attr ∈ joins, attr.name ∈ Attribute.joinNames := by
    rw [Property.oneToMany]
    cases property.mappedBy with
    | some owner =>
        refine ⟨_, [], rfl, ?_, by simp⟩
        exact (associates_association (by decide) target).withArgument (by decide) _
    | none =>
        refine ⟨_, property.joinTable ++ [_], rfl, property.associates_manyToMany target, ?_⟩
        rw [List.forall_mem_append, List.forall_mem_singleton]
        refine ⟨joinTable, ?_⟩
        cases required <;> decide
  rw [associationAttributes]
  cases property.cardinality with
  | zeroToOne => exact ⟨_, [], rfl, associates_association (by decide) target, by simp⟩
  | oneToOne => exact ⟨_, _, rfl, associates_association (by decide) target, joinColumn⟩
  | unknown => exact ⟨_, [], rfl, property.associates_manyToOne target, by simp⟩
  | manyToZero => exact ⟨_, [], rfl, property.associates_manyToOne target, by simp⟩
  | manyToOne => exact ⟨_, _, rfl, property.associates_manyToOne target, joinColumn⟩
  | zeroToMany => exact oneToMany false
  | oneToMany => exact oneToMany true
  | manyToMany =>
      refine ⟨_, _, rfl, ?_, joinTable⟩
      exact (property.associates_manyToMany target).withArgument? (by decide) _

end Property

/-! ## The mapping of a relation -/

namespace Persistence

variable {property : Property} {registry : Registry} {className : String}

/-- A registered target is referred to once, at first. -/
theorem exists_reference (property : Property) (target : Class) :
    ∃ reference joins, relationAttributes property target = reference :: joins ∧
      (if property.isEmbedded then reference.Embeds target.name
        else reference.Associates target.name) ∧
      ∀ attr ∈ joins, ¬attr.IsReference := by
  rw [relationAttributes]
  split
  next embedded =>
    refine ⟨_, [], rfl, ?_, by simp⟩
    constructor <;> simp [persistenceAttribute]
  next associated =>
    obtain ⟨first, joins, split, associates, named⟩ := property.exists_associates target.name
    refine ⟨first, joins, split, associates, ?_⟩
    intro attr member
    exact Attribute.not_isReference_of_mem_joinNames (named attr member)

theorem propertyAttributes_of_isRelation (config : Config) (isRelation : property.isRelation) :
    propertyAttributes config registry className property =
      match property.target? className registry with
      | .ok target => pure (relationAttributes property target)
      | .error error =>
        ⟨[], [.unmappedProperty error className property.name (property.rangeName?.getD "")]⟩ := by
  obtain ⟨notId, unstored⟩ := Property.isRelation_iff.mp isRelation
  rw [propertyAttributes, notId, unstored]
  rfl

theorem propertyAttributes_of_isUnresolved (config : Config)
    (unresolved : property.IsUnresolved registry) :
    propertyAttributes config registry className property =
      ⟨[], [property.miss className]⟩ := by
  rw [propertyAttributes_of_isRelation config unresolved.1, Property.target?, Property.miss]
  cases range : property.rangeName? with
  | none => rfl
  | some target =>
      have absent : registry.get? target = none := by
        simpa [Table.contains] using unresolved.2 target range
      simp only [absent]
      rfl

theorem propertyAttributes_of_registered (config : Config) (isRelation : property.isRelation)
    {cls : Class} (range : property.rangeName? = some cls.name)
    (registered : registry.get? cls.name = some cls) :
    propertyAttributes config registry className property =
      ⟨relationAttributes property cls, []⟩ := by
  rw [propertyAttributes_of_isRelation config isRelation, Property.target?, range]
  simp only [registered]
  rfl

theorem propertyAttributes_of_pointsTo (config : Config) (className : String) {target : String}
    (points : property.PointsTo registry target) :
    propertyAttributes config registry className property =
      ⟨property.associationAttributes target, []⟩ := by
  obtain ⟨cls, found⟩ := Option.isSome_iff_exists.mp points.registered
  have named : cls.name = target := (registry.get?_eq_some_iff.mp found).2
  subst named
  rw [propertyAttributes_of_registered config points.isRelation points.range found,
    relationAttributes, points.separate]
  rfl

theorem isUnresolved_or_registered (registry : Registry) (isRelation : property.isRelation) :
    property.IsUnresolved registry ∨
      ∃ cls, property.rangeName? = some cls.name ∧ registry.get? cls.name = some cls := by
  by_cases absent : ∀ target ∈ property.rangeName?, ¬registry.contains target
  · exact .inl ⟨isRelation, absent⟩
  · simp only [not_forall, not_not] at absent
    obtain ⟨target, range, present⟩ := absent
    obtain ⟨cls, found⟩ := Option.isSome_iff_exists.mp present
    have named : cls.name = target := (registry.get?_eq_some_iff.mp found).2
    subst named
    exact .inr ⟨cls, range, found⟩

/-- A relation refers to its target, or is reported. -/
theorem mapsRelation_propertyAttributes (config : Config) (registry : Registry)
    (className : String) {property : Property} (isRelation : property.isRelation) :
    property.MapsRelation registry className
      (propertyAttributes config registry className property) := by
  rcases isUnresolved_or_registered registry isRelation with
    unresolved | ⟨cls, range, registered⟩
  · rw [propertyAttributes_of_isUnresolved config unresolved]
    exact .unresolved unresolved
  · obtain ⟨reference, joins, split, refers, others⟩ := exists_reference property cls
    rw [propertyAttributes_of_registered config isRelation range registered, split]
    exact .resolved range (Table.contains_of_get? registered) refers others

/-- Only a relation that is unresolved is reported. -/
theorem events_propertyAttributes (config : Config) (registry : Registry) (className : String)
    (property : Property) :
    (propertyAttributes config registry className property).events =
      if property.IsUnresolved registry then [property.miss className] else [] := by
  by_cases isRelation : property.isRelation
  · rcases isUnresolved_or_registered registry isRelation with
      unresolved | ⟨cls, range, registered⟩
    · rw [propertyAttributes_of_isUnresolved config unresolved, if_pos unresolved]
    · rw [propertyAttributes_of_registered config isRelation range registered, if_neg]
      intro unresolved
      exact unresolved.2 cls.name range (Table.contains_of_get? registered)
  · rw [if_neg fun unresolved => isRelation unresolved.1, propertyAttributes]
    split
    next => rfl
    next notId =>
      split
      next => rfl
      next unstored =>
        exact absurd (Property.isRelation_iff.mpr ⟨by simpa using notId, unstored⟩) isRelation

end Persistence

/-! ## The reports of an annotation -/

namespace Class

/-- What an annotator reports of the relations of a class. -/
def misses (cls : Class) (registry : Registry) : Annotator → List Event
  | .persistence =>
    (cls.properties.toList.filter (·.IsUnresolved registry)).map (·.miss cls.name)
  | _ => []

end Class

variable {config : Config} {registry : Registry} {cls : Class}

theorem Annotator.events_ofProperty (annotator : Annotator) (config : Config) (registry : Registry)
    (className : String) (property : Property) :
    (annotator.ofProperty config registry className property).events =
      if annotator = .persistence ∧ property.IsUnresolved registry then [property.miss className]
      else [] := by
  cases annotator with
  | persistence =>
      rw [ofProperty, Fallible.events_lift, Persistence.events_propertyAttributes]
      simp
  | resource => simp [ofProperty]
  | constraint => simp [ofProperty]
  | configuration => simp [ofProperty]

theorem Class.misses_eq_flatMap (cls : Class) (config : Config) (registry : Registry)
    (annotator : Annotator) :
    cls.misses registry annotator = cls.properties.toList.flatMap fun property =>
      (annotator.ofProperty config registry cls.name property).events := by
  simp only [Annotator.events_ofProperty]
  cases annotator with
  | persistence =>
      rw [misses]
      induction cls.properties.toList with
      | nil => rfl
      | cons property rest ih =>
          by_cases unresolved : property.IsUnresolved registry
          · simp [unresolved, ih]
          · simp [unresolved, ih]
  | resource => simp [misses]
  | constraint => simp [misses]
  | configuration => simp [misses]

theorem Property.severity_miss (property : Property) (className : String) :
    (property.miss className).severity = .error := by
  rw [miss]
  cases property.rangeName? <;> rfl

theorem Class.severity_of_mem_misses {annotator : Annotator} {event : Event}
    (member : event ∈ cls.misses registry annotator) : event.severity = .error := by
  cases annotator with
  | persistence =>
      obtain ⟨property, _, rfl⟩ := List.mem_map.mp member
      exact property.severity_miss cls.name
  | resource => cases member
  | constraint => cases member
  | configuration => cases member

/-- An annotator that ends well reports that it runs, and then what it misses. -/
theorem Contribution.events_ofAnnotator {annotator : Annotator} {contribution : Contribution}
    (ended : (ofAnnotator config registry cls annotator).outcome = .ok contribution) :
    (ofAnnotator config registry cls annotator).events =
      .runningAnnotator cls.name annotator :: cls.misses registry annotator := by
  obtain ⟨started, run, reported⟩ := Fallible.outcome_bind_eq_ok.mp ended
  obtain ⟨attributes, ofClass, described⟩ := Fallible.outcome_bind_eq_ok.mp reported
  obtain ⟨properties, collected, _⟩ := Fallible.outcome_bind_eq_ok.mp described
  rw [ofAnnotator, Fallible.events_bind_of_ok run, Fallible.events_bind_of_ok ofClass,
    Fallible.events_bind_pure, Fallible.events_mapM_of_ok collected, Fallible.events_lift,
    Fallible.events_ofExcept, cls.misses_eq_flatMap config]
  simp only [Fallible.events_bind_pure]
  rfl

theorem Metadata.events_ofClass {described : Metadata}
    (ended : (ofClass config registry cls).outcome = .ok described) :
    (ofClass config registry cls).events = config.annotators.flatMap fun annotator =>
      .runningAnnotator cls.name annotator :: cls.misses registry annotator := by
  obtain ⟨contributions, collected, _⟩ := Fallible.outcome_bind_eq_ok.mp ended
  rw [ofClass, Fallible.events_bind_pure, Fallible.events_mapM_of_ok collected]
  apply List.flatMap_congr
  intro annotator member
  rw [Fallible.outcome_mapM] at collected
  obtain ⟨contribution, _, ended⟩ := exists_of_mapM collected member
  exact Contribution.events_ofAnnotator ended

namespace Registry

theorem events_annotate_eq_events_metadata (registry : Registry) (config : Config) :
    (registry.annotate config).events = (registry.metadata config).events := by
  rw [annotate, Logged.events_bind]
  cases (ExceptT.run (registry.metadata config)).value <;> exact List.append_nil _

/-- All events of an annotation that ends well, in order. -/
theorem events_annotate {declarations : Nat}
    (ended : (registry.annotate config).value.2 = .ok declarations) :
    (registry.annotate config).events = registry.toList.flatMap fun cls =>
      .annotating cls.name :: config.annotators.flatMap fun annotator =>
        .runningAnnotator cls.name annotator :: cls.misses registry annotator := by
  rw [result_annotate] at ended
  obtain ⟨metadata, found, _⟩ := map_eq_ok.mp ended
  have each : (registry.metadata config).events =
      registry.toList.flatMap fun cls => (registry.describe config cls).events :=
    Fallible.events_mapM_of_ok found
  rw [events_annotate_eq_events_metadata, each]
  apply List.flatMap_congr
  intro cls member
  obtain ⟨entry, _, result⟩ := exists_of_mapM (mapM_of_metadata found) member
  obtain ⟨described, ofClass, _⟩ := outcome_describe_eq_ok.mp result
  rw [describe, Fallible.events_bind_of_ok (Fallible.outcome_lift _), Fallible.events_bind_pure,
    Fallible.events_lift, Metadata.events_ofClass ofClass]
  rfl

theorem errors_annotate {declarations : Nat}
    (ended : (registry.annotate config).value.2 = .ok declarations) :
    (registry.annotate config).events.filter (·.severity = .error) =
      registry.toList.flatMap fun cls => config.annotators.flatMap (cls.misses registry) := by
  have kept (cls : Class) (annotator : Annotator) :
      (cls.misses registry annotator).filter (·.severity = .error) =
        cls.misses registry annotator := by
    apply List.filter_eq_self.mpr
    intro event member
    simpa using Class.severity_of_mem_misses member
  rw [events_annotate ended, List.filter_flatMap]
  apply List.flatMap_congr
  intro cls _
  rw [List.filter_cons_of_neg (by simp [Event.severity]), List.filter_flatMap]
  apply List.flatMap_congr
  intro annotator _
  rw [List.filter_cons_of_neg (by simp [Event.severity]), kept]

/-- Every relation refers to its registered target or is reported in its place, and an annotation
that ends well reports no other error: each unresolved relation once for every time that the
persistence mapping is configured, in the order of classes, annotators and properties. -/
theorem relations_mapped_or_reported (config : Config) (registry : Registry) :
    (∀ className (property : Property), property.isRelation →
      property.MapsRelation registry className
        (Persistence.propertyAttributes config registry className property)) ∧
    ∀ declarations, (registry.annotate config).value.2 = .ok declarations →
      (registry.annotate config).events.filter (·.severity = .error) =
        registry.toList.flatMap fun cls => config.annotators.flatMap (cls.misses registry) :=
  ⟨fun className _ isRelation =>
      Persistence.mapsRelation_propertyAttributes config registry className isRelation,
    fun _ ended => errors_annotate ended⟩

/-- The mapping is configured twice, so that what a book misses is reported twice; the reference
to its author is mapped. -/
theorem relations_mapped_or_reported_book :
    let config : Config := { annotators := [.persistence, .resource, .persistence] }
    let author : Property :=
      { name := "author", range := some (.ofUri "https://schema.org/Person") }
    let book : Class :=
      { name := "Book"
        properties := .ofList
          [author, { name := "sequel" },
            { name := "publisher", range := some (.ofUri "https://schema.org/Organization") }] }
    let registry : Registry := .ofList [book, { name := "Person" }]
    let missing : List Event :=
      [.unmappedProperty (.unresolvedRelation "Book" "publisher" "Organization") "Book" "publisher"
          "Organization",
        .unmappedProperty (.missingRange "Book" "sequel") "Book" "sequel" ""]
    author.isRelation ∧
      author.MapsRelation registry "Book"
        (Persistence.propertyAttributes config registry "Book" author) ∧
      ∃ declarations, (registry.annotate config).value.2 = .ok declarations ∧
        (registry.annotate config).events.filter (·.severity = .error) = missing ++ missing := by
  intro config author book registry missing
  obtain ⟨mapped, reported⟩ := relations_mapped_or_reported config registry
  let declarations := (registry.annotate config).value.2.toOption.getD 0
  have isRelation : author.isRelation := by decide +kernel
  have ended : (registry.annotate config).value.2 = .ok declarations := by
    apply eq_ok_of_toOption
    decide +kernel
  refine ⟨isRelation, mapped "Book" author isRelation, declarations, ended, ?_⟩
  rw [reported declarations ended]
  decide +kernel

end Registry

end EntityGen
