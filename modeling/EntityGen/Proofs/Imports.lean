import EntityGen.Proofs.AttributeNames
import EntityGen.Table.Lemmas

/-!
# Imports of emitted attributes

The names of some attributes refer to a symbol that their file has to import
(`Attribute.neededImport?`).  An annotator decides on attributes of a class, on those
of its properties and on imports separately, so an import can be missing: the flags of
the class decide on imports and are not seen where a property is described.

`Annotator.Omits` tells exactly where this happens.  Everywhere else the import is
reported, and the metadata of a class goes without one for no other reason
(`Metadata.mem_imports_iff_not_omits`).
-/

namespace EntityGen

namespace Attribute

/-- The import that the name of an attribute refers to. -/
def neededImport? (attr : Attribute) : Option Import :=
  if attr.name = "ApiResource" then some Resource.resourceImport
  else if attr.name = "ApiProperty" then some Resource.propertyImport
  else if attr.name = "UniqueEntity" then some Constraint.uniqueEntityImport
  else if "ORM\\".toList <+: attr.name.toList then some Persistence.mappingImport
  else if "Assert\\".toList <+: attr.name.toList then some Constraint.constraintsImport
  else none

variable {attr : Attribute}

/-- A name with a backslash refers to the persistence mapping, to the constraints, or
to no import that is known. -/
theorem neededImport?_of_hasChar (qualified : Text.hasChar '\\' attr.name) :
    attr.neededImport? =
      if "ORM\\".toList <+: attr.name.toList then some Persistence.mappingImport
      else if "Assert\\".toList <+: attr.name.toList then some Constraint.constraintsImport
      else none := by
  have different : ∀ name, Text.hasChar '\\' name = false → attr.name ≠ name := by
    intro name plain same
    rw [same, plain] at qualified
    cases qualified
  rw [neededImport?, if_neg (different "ApiResource" (by decide)),
    if_neg (different "ApiProperty" (by decide)), if_neg (different "UniqueEntity" (by decide))]

theorem prefix_of_startsWith {start : String} (begins : attr.StartsWith start) :
    start.toList <+: attr.name.toList := by
  obtain ⟨rest, named⟩ := begins
  rw [named, String.toList_append]
  exact List.prefix_append _ _

theorem neededImport?_mapping (begins : attr.StartsWith "ORM\\") :
    attr.neededImport? = some Persistence.mappingImport := by
  rw [neededImport?_of_hasChar (hasChar_of_startsWith begins (by decide)),
    if_pos (prefix_of_startsWith begins)]

theorem neededImport?_constraint (begins : attr.StartsWith "Assert\\") :
    attr.neededImport? = some Constraint.constraintsImport := by
  have unlike : ¬"ORM\\".toList <+: attr.name.toList := by
    obtain ⟨rest, named⟩ := begins
    rw [named, String.toList_append]
    simp
  rw [neededImport?_of_hasChar (hasChar_of_startsWith begins (by decide)), if_neg unlike,
    if_pos (prefix_of_startsWith begins)]

theorem neededImport?_resource (named : attr.name = "ApiResource") :
    attr.neededImport? = some Resource.resourceImport :=
  if_pos named

theorem neededImport?_property (named : attr.name = "ApiProperty") :
    attr.neededImport? = some Resource.propertyImport := by
  rw [neededImport?, named]
  decide

theorem neededImport?_uniqueEntity (named : attr.name = "UniqueEntity") :
    attr.neededImport? = some Constraint.uniqueEntityImport := by
  rw [neededImport?, named]
  decide

end Attribute

/-! ## The imports that annotators report -/

theorem any_emitting {emit : Property → List Attribute} {cls : Class} {property : Property}
    {attr : Attribute} (member : property ∈ cls.properties.toList)
    (emitted : attr ∈ emit property) :
    cls.properties.toList.any fun property => !(emit property).isEmpty := by
  rw [List.any_eq_true]
  refine ⟨property, member, ?_⟩
  simpa using List.ne_nil_of_mem emitted

namespace Resource

variable {attr : Attribute} {cls : Class}

theorem resourceImport_mem_imports : resourceImport ∈ imports cls ↔ isResource cls := by
  rw [imports]
  split
  next offered => simp [offered]
  next refused => simp [refused]

/-- The import of the attribute of properties is there when the class is offered and
one of its properties carries the attribute. -/
theorem propertyImport_mem_imports {property : Property}
    (member : property ∈ cls.properties.toList) (emitted : attr ∈ propertyAttributes property) :
    propertyImport ∈ imports cls ↔ isResource cls := by
  have described : cls.properties.toList.any fun property =>
      !(propertyAttributes property).isEmpty := any_emitting member emitted
  rw [imports]
  split
  next offered => simp [offered]
  next refused => simp [refused]

end Resource

namespace Constraint

variable {attr : Attribute} {cls : Class}

theorem uniqueEntityImport_mem_imports (config : Config) (ordinary : cls.isEnum = false)
    (unique : uniqueProperties cls ≠ []) : uniqueEntityImport ∈ imports config cls := by
  simp [imports, ordinary, unique]

theorem constraintsImport_mem_imports (config : Config) {property : Property}
    (member : property ∈ cls.properties.toList) (emitted : attr ∈ propertyAttributes property) :
    constraintsImport ∈ imports config cls ↔ cls.isEnum = false := by
  have constrained : cls.properties.toList.any fun property =>
      !(propertyAttributes property).isEmpty := any_emitting member emitted
  rw [imports]
  split
  next isEnum => simp [isEnum]
  next ordinary => simp [ordinary, constrained]

end Constraint

namespace Persistence

theorem mappingImport_mem_imports (config : Config) (cls : Class) :
    mappingImport ∈ imports config cls ↔ cls.isEnum = false := by
  rw [imports]
  split
  next isEnum => simp [isEnum]
  next ordinary => simp [ordinary]

theorem constraintsImport_not_mem_imports (config : Config) (cls : Class) :
    Constraint.constraintsImport ∉ imports config cls := by
  rw [imports]
  split
  · exact List.not_mem_nil
  · split <;> decide

end Persistence

/-! ## Emitted attributes and their imports -/

/-- Where an attribute stands. -/
inductive Place where
  | onClass
  | onProperty (name : String)

namespace Annotator

/-- An annotator emits an attribute for a class or for one of its properties. -/
def Emits (annotator : Annotator) (config : Config) (registry : Registry) (cls : Class)
    (attr : Attribute) : Place → Prop
  | .onClass => ∃ attributes, annotator.ofClass config cls = .ok attributes ∧ attr ∈ attributes
  | .onProperty name => ∃ property attributes, cls.property? name = some property ∧
      (annotator.ofProperty config registry cls.name property).outcome = .ok attributes ∧
      attr ∈ attributes

/-- Which needed imports an annotator leaves out.  On a class: that of constraints
which the configuration gives literally to the persistence mapping.  On properties:
all when the class is an enumeration, and that of the attribute of resources when it
is embeddable. -/
def Omits (annotator : Annotator) (cls : Class) (imported : Import) : Place → Prop
  | .onClass => annotator = .persistence ∧ imported = Constraint.constraintsImport
  | .onProperty _ => cls.isEnum ∨ annotator = .resource ∧ cls.isEmbeddable

variable {annotator : Annotator} {config : Config} {registry : Registry} {cls : Class}
  {attr : Attribute} {imported : Import}

theorem mem_imports_iff_onClass (derived : annotator ≠ .configuration)
    (emitted : annotator.Emits config registry cls attr .onClass)
    (needed : attr.neededImport? = some imported) :
    imported ∈ annotator.imports config cls ↔ ¬annotator.Omits cls imported .onClass := by
  obtain ⟨attributes, ended, member⟩ := emitted
  cases annotator with
  | persistence =>
      obtain ⟨ordinary, qualified⟩ := Persistence.hasChar_classAttributes ended member
      rw [Attribute.neededImport?_of_hasChar qualified] at needed
      split at needed
      · cases needed
        apply iff_of_true
        · exact (Persistence.mappingImport_mem_imports config cls).mpr ordinary
        · rintro ⟨_, same⟩
          exact absurd same (by decide)
      · split at needed
        · cases needed
          apply iff_of_false
          · exact Persistence.constraintsImport_not_mem_imports config cls
          · exact fun kept => kept ⟨rfl, rfl⟩
        · cases needed
  | resource =>
      obtain ⟨offered, named⟩ := Resource.name_classAttributes ended member
      rw [Attribute.neededImport?_resource named] at needed
      cases needed
      apply iff_of_true (Resource.resourceImport_mem_imports.mpr offered)
      rintro ⟨other, _⟩
      cases other
  | constraint =>
      cases ended
      obtain ⟨ordinary, unique, named⟩ := Constraint.name_classAttributes member
      rw [Attribute.neededImport?_uniqueEntity named] at needed
      cases needed
      apply iff_of_true (Constraint.uniqueEntityImport_mem_imports config ordinary unique)
      rintro ⟨other, _⟩
      cases other
  | configuration => exact absurd rfl derived

theorem mem_imports_iff_onProperty {name : String} (derived : annotator ≠ .configuration)
    (emitted : annotator.Emits config registry cls attr (.onProperty name))
    (needed : attr.neededImport? = some imported) :
    imported ∈ annotator.imports config cls ↔
      ¬annotator.Omits cls imported (.onProperty name) := by
  obtain ⟨property, attributes, found, ended, member⟩ := emitted
  have memberProperties := (cls.properties.get?_eq_some_iff.mp found).1
  cases annotator with
  | persistence =>
      cases ended
      have begins := Persistence.startsWith_propertyAttributes config registry cls.name property
        attr member
      rw [Attribute.neededImport?_mapping begins] at needed
      cases needed
      rw [imports, Persistence.mappingImport_mem_imports]
      simp [Omits]
  | resource =>
      cases ended
      rw [Attribute.neededImport?_property (Resource.name_propertyAttributes member)] at needed
      cases needed
      rw [imports, Resource.propertyImport_mem_imports memberProperties member]
      simp [Omits, Resource.isResource]
  | constraint =>
      cases ended
      have begins := Constraint.startsWith_propertyAttributes property attr member
      rw [Attribute.neededImport?_constraint begins] at needed
      cases needed
      rw [imports, Constraint.constraintsImport_mem_imports config memberProperties member]
      simp [Omits]
  | configuration => exact absurd rfl derived

theorem mem_imports_iff {place : Place} (derived : annotator ≠ .configuration)
    (emitted : annotator.Emits config registry cls attr place)
    (needed : attr.neededImport? = some imported) :
    imported ∈ annotator.imports config cls ↔ ¬annotator.Omits cls imported place := by
  cases place with
  | onClass => exact mem_imports_iff_onClass derived emitted needed
  | onProperty name => exact mem_imports_iff_onProperty derived emitted needed

end Annotator

/-! ## Metadata -/

namespace Contribution

variable {config : Config} {registry : Registry} {cls : Class} {annotator : Annotator}
  {contribution : Contribution} {attr : Attribute}

/-- What an annotator that ends well contributes. -/
theorem of_outcome_ofAnnotator
    (ended : (ofAnnotator config registry cls annotator).outcome = .ok contribution) :
    contribution.imports = annotator.imports config cls ∧
      (∃ attributes, annotator.ofClass config cls = .ok attributes ∧
        contribution.attributes = Attribute.distinct attributes) ∧
      ∀ entry ∈ contribution.properties, ∃ property ∈ cls.properties.toList, ∃ attributes,
        (annotator.ofProperty config registry cls.name property).outcome = .ok attributes ∧
          entry = (property.name, Attribute.distinct attributes) := by
  obtain ⟨_, _, reported⟩ := Fallible.outcome_bind_eq_ok.mp ended
  obtain ⟨attributes, ofClass, described⟩ := Fallible.outcome_bind_eq_ok.mp reported
  obtain ⟨properties, collected, complete⟩ := Fallible.outcome_bind_eq_ok.mp described
  cases complete
  refine ⟨rfl, ⟨attributes, ofClass, rfl⟩, ?_⟩
  intro entry member
  rw [Fallible.outcome_mapM] at collected
  obtain ⟨property, memberProperties, result⟩ := mem_of_mapM collected member
  obtain ⟨emitted, ofProperty, paired⟩ := Fallible.outcome_bind_eq_ok.mp result
  cases paired
  exact ⟨property, memberProperties, emitted, ofProperty, rfl⟩

theorem exists_of_mem_ofProperty {name : String} (member : attr ∈ contribution.ofProperty name) :
    ∃ attributes, (name, attributes) ∈ contribution.properties ∧ attr ∈ attributes := by
  rw [ofProperty] at member
  cases found : contribution.properties.lookup name with
  | none =>
      rw [found] at member
      cases member
  | some attributes =>
      rw [found] at member
      exact ⟨attributes, mem_of_lookup found, member⟩

theorem emits_onClass
    (ended : (ofAnnotator config registry cls annotator).outcome = .ok contribution)
    (member : attr ∈ contribution.attributes) :
    annotator.Emits config registry cls attr .onClass := by
  obtain ⟨_, ⟨attributes, ofClass, same⟩, _⟩ := of_outcome_ofAnnotator ended
  rw [same] at member
  exact ⟨attributes, ofClass, Attribute.mem_of_mem_distinct member⟩

theorem emits_onProperty {name : String}
    (ended : (ofAnnotator config registry cls annotator).outcome = .ok contribution)
    (member : attr ∈ contribution.ofProperty name) :
    annotator.Emits config registry cls attr (.onProperty name) := by
  obtain ⟨_, _, properties⟩ := of_outcome_ofAnnotator ended
  obtain ⟨emitted, memberProperties, memberEmitted⟩ := exists_of_mem_ofProperty member
  obtain ⟨property, memberClass, attributes, ofProperty, same⟩ := properties _ memberProperties
  cases same
  refine ⟨property, attributes, ?_, ofProperty, Attribute.mem_of_mem_distinct memberEmitted⟩
  exact cls.properties.get?_eq_some_iff.mpr ⟨memberClass, rfl⟩

end Contribution

namespace Metadata

/-- Metadata attaches an attribute to the class or to one of its properties. -/
def Attaches (metadata : Metadata) (attr : Attribute) : Place → Prop
  | .onClass => attr ∈ metadata.attributes
  | .onProperty name => attr ∈ metadata.ofProperty name

variable {config : Config} {registry : Registry} {cls : Class} {metadata : Metadata}
  {attr : Attribute} {imported : Import}

theorem outcome_ofClass_eq_ok :
    (ofClass config registry cls).outcome = .ok metadata ↔
      (config.annotators.mapM fun annotator =>
        (Contribution.ofAnnotator config registry cls annotator).outcome) =
          .ok metadata.contributions := by
  rw [ofClass, Fallible.outcome_bind_eq_ok, ← Fallible.outcome_mapM]
  constructor
  · rintro ⟨contributions, collected, complete⟩
    cases complete
    exact collected
  · intro collected
    exact ⟨metadata.contributions, collected, rfl⟩

/-- The contributions are those of the configured annotators, in their order. -/
theorem mapM_of_ofClass (ended : (ofClass config registry cls).outcome = .ok metadata) :
    (config.annotators.mapM fun annotator =>
      (Contribution.ofAnnotator config registry cls annotator).outcome) =
        .ok metadata.contributions :=
  outcome_ofClass_eq_ok.mp ended

/-- Whatever is attached was emitted by a configured annotator. -/
theorem Attaches.emitted {place : Place} (attached : metadata.Attaches attr place)
    (ended : (ofClass config registry cls).outcome = .ok metadata) :
    ∃ annotator ∈ config.annotators, annotator.Emits config registry cls attr place := by
  cases place with
  | onClass =>
      obtain ⟨contribution, memberContributions, member⟩ := List.mem_flatMap.mp attached
      obtain ⟨annotator, configured, result⟩ :=
        mem_of_mapM (mapM_of_ofClass ended) memberContributions
      exact ⟨annotator, configured, Contribution.emits_onClass result member⟩
  | onProperty name =>
      obtain ⟨contribution, memberContributions, member⟩ := List.mem_flatMap.mp attached
      obtain ⟨annotator, configured, result⟩ :=
        mem_of_mapM (mapM_of_ofClass ended) memberContributions
      exact ⟨annotator, configured, Contribution.emits_onProperty result member⟩

/-- The imports are those of the configured annotators. -/
theorem mem_imports_iff_exists_annotator
    (ended : (ofClass config registry cls).outcome = .ok metadata) :
    imported ∈ metadata.imports ↔
      ∃ annotator ∈ config.annotators, imported ∈ annotator.imports config cls := by
  rw [Metadata.imports, List.mem_eraseDups, List.mem_flatMap]
  constructor
  · rintro ⟨contribution, memberContributions, member⟩
    obtain ⟨annotator, configured, result⟩ :=
      mem_of_mapM (mapM_of_ofClass ended) memberContributions
    rw [(Contribution.of_outcome_ofAnnotator result).1] at member
    exact ⟨annotator, configured, member⟩
  · rintro ⟨annotator, configured, reported⟩
    obtain ⟨contribution, memberContributions, result⟩ :=
      exists_of_mapM (mapM_of_ofClass ended) configured
    refine ⟨contribution, memberContributions, ?_⟩
    rw [(Contribution.of_outcome_ofAnnotator result).1]
    exact reported

theorem mem_imports_of_annotator {annotator : Annotator}
    (ended : (ofClass config registry cls).outcome = .ok metadata)
    (configured : annotator ∈ config.annotators)
    (reported : imported ∈ annotator.imports config cls) : imported ∈ metadata.imports :=
  (mem_imports_iff_exists_annotator ended).mpr ⟨annotator, configured, reported⟩

/-- An annotator that derives attributes reports the import of an attribute that it
emits, but for those that it omits; and a class goes without an import only where a
configured annotator omits it or the configuration gives the attribute literally. -/
theorem mem_imports_iff_not_omits (config : Config) (registry : Registry) (cls : Class) :
    (∀ (annotator : Annotator) (attr : Attribute) (place : Place) (imported : Import),
      annotator ≠ .configuration → annotator.Emits config registry cls attr place →
      attr.neededImport? = some imported →
      (imported ∈ annotator.imports config cls ↔ ¬annotator.Omits cls imported place)) ∧
    ∀ (metadata : Metadata) (attr : Attribute) (place : Place) (imported : Import),
      (ofClass config registry cls).outcome = .ok metadata → metadata.Attaches attr place →
      attr.neededImport? = some imported → imported ∉ metadata.imports →
      ∃ annotator ∈ config.annotators, annotator.Emits config registry cls attr place ∧
        (annotator = .configuration ∨ annotator.Omits cls imported place) := by
  constructor
  · intro annotator attr place imported derived emitted needed
    exact Annotator.mem_imports_iff derived emitted needed
  · intro metadata attr place imported ended attached needed missing
    obtain ⟨annotator, configured, emitted⟩ := attached.emitted ended
    refine ⟨annotator, configured, emitted, ?_⟩
    by_cases literal : annotator = .configuration
    · exact .inl literal
    · right
      have unreported : imported ∉ annotator.imports config cls :=
        fun reported => missing (mem_imports_of_annotator ended configured reported)
      rw [Annotator.mem_imports_iff literal emitted needed] at unreported
      exact Classical.not_not.mp unreported

/-- On a class that is offered as a resource, the import of a property is there. -/
theorem mem_imports_iff_not_omits_person :
    let name : Property := { name := "name", uri := some "https://schema.org/name" }
    let person : Class := { name := "Person", properties := .ofList [name] }
    let attr : Attribute :=
      ⟨"ApiProperty", .ofList [("types", .array [.string "https://schema.org/name"])]⟩
    Annotator.resource ≠ .configuration ∧
      Annotator.resource.Emits {} ∅ person attr (.onProperty "name") ∧
      attr.neededImport? = some Resource.propertyImport ∧
      Resource.propertyImport ∈ Annotator.resource.imports {} person := by
  intro name person attr
  have derived : Annotator.resource ≠ .configuration := by decide
  have emitted : Annotator.resource.Emits {} ∅ person attr (.onProperty "name") :=
    ⟨name, Resource.propertyAttributes name, by decide +kernel, rfl, by decide +kernel⟩
  have needed : attr.neededImport? = some Resource.propertyImport := by decide +kernel
  have kept : ¬Annotator.resource.Omits person Resource.propertyImport (.onProperty "name") := by
    simp [Annotator.Omits, person]
  have reported := ((mem_imports_iff_not_omits {} ∅ person).1 .resource attr (.onProperty "name")
    Resource.propertyImport derived emitted needed).mpr kept
  exact ⟨derived, emitted, needed, reported⟩

/-- On an embeddable class, the import of a property is missing, and its metadata
attaches the attribute all the same. -/
theorem import_missing_on_embeddable :
    let street : Property :=
      { name := "streetAddress", uri := some "https://schema.org/streetAddress" }
    let address : Class :=
      { name := "PostalAddress", isEmbeddable := true, properties := .ofList [street] }
    let attr : Attribute :=
      ⟨"ApiProperty", .ofList [("types", .array [.string "https://schema.org/streetAddress"])]⟩
    Annotator.resource.Emits {} ∅ address attr (.onProperty "streetAddress") ∧
      attr.neededImport? = some Resource.propertyImport ∧
      Resource.propertyImport ∉ Annotator.resource.imports {} address ∧
      ∃ metadata, (ofClass {} ∅ address).outcome = .ok metadata ∧
        metadata.Attaches attr (.onProperty "streetAddress") ∧
        Resource.propertyImport ∉ metadata.imports := by
  intro street address attr
  let unspoken : List (String × List Attribute) := [("streetAddress", [])]
  let metadata : Metadata :=
    ⟨[⟨[persistenceAttribute "Embeddable"], unspoken, [Persistence.mappingImport]⟩,
      ⟨[], [("streetAddress", [attr])], []⟩, ⟨[], unspoken, []⟩, ⟨[], unspoken, []⟩]⟩
  have emitted : Annotator.resource.Emits {} ∅ address attr (.onProperty "streetAddress") :=
    ⟨street, Resource.propertyAttributes street, by decide +kernel, rfl, by decide +kernel⟩
  have ended : (ofClass {} ∅ address).outcome = .ok metadata := by
    apply eq_ok_of_toOption
    decide +kernel
  have attached : attr ∈ metadata.ofProperty "streetAddress" := by decide +kernel
  exact ⟨emitted, by decide +kernel, by decide +kernel, metadata, ended, attached,
    by decide +kernel⟩

end Metadata

end EntityGen
