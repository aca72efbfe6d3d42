import EntityGen.Metadata
import EntityGen.Proofs.Results

/-!
# Names of emitted attributes

Which names the attributes have that an annotator emits.  Those of the persistence
mapping and the constraints begin with the qualifier of their family; what the
configuration gives literally to the persistence mapping has at least a backslash in
its name.  Resources have one attribute for classes and one for properties.
-/

namespace EntityGen

namespace Attribute

variable {attr : Attribute}

/-- The name of an attribute begins with a text. -/
def StartsWith (attr : Attribute) (start : String) : Prop := ∃ rest, attr.name = start ++ rest

@[simp] theorem name_withArgument (attr : Attribute) (key : String) (value : Json.Value) :
    (attr.withArgument key value).name = attr.name := rfl

@[simp] theorem name_withArgument? (attr : Attribute) (key : String) (value : Option Json.Value) :
    (attr.withArgument? key value).name = attr.name := by
  cases value <;> rfl

@[simp] theorem startsWith_withArgument {start key : String} {value : Json.Value} :
    (attr.withArgument key value).StartsWith start ↔ attr.StartsWith start := .rfl

@[simp] theorem startsWith_withArgument? {start key : String} {value : Option Json.Value} :
    (attr.withArgument? key value).StartsWith start ↔ attr.StartsWith start := by
  rw [StartsWith, name_withArgument?]
  rfl

theorem hasChar_of_startsWith {start : String} {c : Char} (begins : attr.StartsWith start)
    (qualified : Text.hasChar c start) : Text.hasChar c attr.name := by
  obtain ⟨rest, named⟩ := begins
  rw [named]
  simp only [Text.hasChar, String.toList_append, List.contains_iff_mem] at qualified ⊢
  exact List.mem_append_left _ qualified

theorem mem_of_mem_foldl_appendNew {attributes held : List Attribute}
    (member : attr ∈ attributes.foldl appendNew held) : attr ∈ held ∨ attr ∈ attributes := by
  induction attributes generalizing held with
  | nil => exact .inl member
  | cons first others ih =>
      rcases ih member with early | late
      · rw [appendNew] at early
        split at early
        · exact .inl early
        · rcases List.mem_append.mp early with old | new
          · exact .inl old
          · exact .inr (List.mem_singleton.mp new ▸ List.mem_cons_self)
      · exact .inr (List.mem_cons_of_mem first late)

theorem mem_of_mem_distinct {attributes : List Attribute} (member : attr ∈ distinct attributes) :
    attr ∈ attributes :=
  (mem_of_mem_foldl_appendNew member).resolve_left List.not_mem_nil

end Attribute

namespace Property

@[simp] theorem name_association (kind target : String) :
    (association kind target).name = "ORM\\" ++ kind := rfl

theorem name_of_mem_joinTable {property : Property} {attr : Attribute}
    (member : attr ∈ property.joinTable) :
    attr.name = "ORM\\JoinTable" := by
  obtain ⟨table, _, rfl⟩ := List.mem_map.mp member
  rfl

end Property

namespace Persistence

variable {attr : Attribute}

@[simp] theorem startsWith_persistenceAttribute (kind : String) :
    (persistenceAttribute kind).StartsWith "ORM\\" :=
  ⟨kind, rfl⟩

@[simp] theorem startsWith_association (kind target : String) :
    (Property.association kind target).StartsWith "ORM\\" :=
  ⟨kind, rfl⟩

theorem hasChar_persistenceAttribute (kind : String) :
    Text.hasChar '\\' (persistenceAttribute kind).name :=
  Attribute.hasChar_of_startsWith (startsWith_persistenceAttribute kind) (by decide)

theorem hasChar_persistenceName (name : String) : Text.hasChar '\\' (persistenceName name) := by
  rw [persistenceName]
  split
  next qualified => exact qualified
  next => exact hasChar_persistenceAttribute name

theorem hasChar_literalAttributes {literals : Arguments} {attributes : List Attribute}
    (ended : literalAttributes persistenceName literals = .ok attributes)
    (member : attr ∈ attributes) : Text.hasChar '\\' attr.name := by
  obtain ⟨entry, _, result⟩ := mem_of_mapM ended member
  obtain ⟨arguments, _, rfl⟩ := map_eq_ok.mp result
  exact hasChar_persistenceName entry.1

theorem hasChar_overrideEntry {entry : String × Json.Value} {attributes : List Attribute}
    (ended : overrideEntry entry = .ok attributes) (member : attr ∈ attributes) :
    Text.hasChar '\\' attr.name := by
  rw [overrideEntry] at ended
  split at ended
  · obtain ⟨indexes, _, collected⟩ := bind_eq_ok.mp ended
    obtain ⟨index, _, result⟩ := mem_of_mapM collected member
    obtain ⟨arguments, _, rfl⟩ := map_eq_ok.mp result
    exact hasChar_persistenceAttribute "Index"
  · obtain ⟨literal, result, rfl⟩ := map_eq_ok.mp ended
    obtain ⟨arguments, _, rfl⟩ := map_eq_ok.mp result
    rw [List.mem_singleton.mp member]
    exact hasChar_persistenceName entry.1

theorem hasChar_baseAttributes {config : Config} {cls : Class} {attributes : List Attribute}
    (ended : baseAttributes config cls = .ok attributes) (member : attr ∈ attributes) :
    Text.hasChar '\\' attr.name := by
  rw [baseAttributes] at ended
  split at ended
  · split at ended
    · exact hasChar_literalAttributes ended member
    · cases ended
      rw [List.mem_singleton.mp member]
      decide
  · cases ended
    rw [List.mem_singleton.mp member]
    decide

/-- Whatever the configuration gives, the attributes of a class have a backslash in
their names, and the class is no enumeration. -/
theorem hasChar_classAttributes {config : Config} {cls : Class} {attributes : List Attribute}
    (ended : classAttributes config cls = .ok attributes) (member : attr ∈ attributes) :
    cls.isEnum = false ∧ Text.hasChar '\\' attr.name := by
  rw [classAttributes] at ended
  split at ended
  next =>
    cases ended
    cases member
  next ordinary =>
    refine ⟨by simpa using ordinary, ?_⟩
    split at ended
    next literals _ =>
      obtain ⟨groups, collected, rfl⟩ := map_eq_ok.mp ended
      obtain ⟨group, memberGroups, memberGroup⟩ := List.mem_flatten.mp member
      obtain ⟨entry, _, result⟩ := mem_of_mapM collected memberGroups
      exact hasChar_overrideEntry result memberGroup
    next =>
      split at ended
      · cases ended
        rw [List.mem_singleton.mp member]
        decide
      · obtain ⟨base, result, rfl⟩ := map_eq_ok.mp ended
        rcases List.mem_append.mp member with memberBase | memberTable
        · exact hasChar_baseAttributes result memberBase
        · rw [tableAttributes] at memberTable
          split at memberTable
          · rw [List.mem_singleton.mp memberTable]
            exact hasChar_persistenceAttribute "Table"
          · cases memberTable

theorem startsWith_joinTable (property : Property) :
    ∀ attr ∈ property.joinTable, attr.StartsWith "ORM\\" := by
  intro attr member
  exact ⟨"JoinTable", Property.name_of_mem_joinTable member⟩

theorem startsWith_oneToMany (property : Property) (target : String) (required : Bool) :
    ∀ attr ∈ property.oneToMany target required, attr.StartsWith "ORM\\" := by
  rw [Property.oneToMany]
  cases property.mappedBy with
  | some owner => simp
  | none =>
      have columns := startsWith_joinTable property
      cases required <;> simpa [Property.manyToMany, or_imp, forall_and] using columns

theorem startsWith_associationAttributes (property : Property) (target : String) :
    ∀ attr ∈ property.associationAttributes target, attr.StartsWith "ORM\\" := by
  rw [Property.associationAttributes]
  cases property.cardinality with
  | zeroToMany => exact startsWith_oneToMany property target false
  | oneToMany => exact startsWith_oneToMany property target true
  | manyToMany =>
      have columns := startsWith_joinTable property
      simpa [Property.manyToMany] using columns
  | _ => simp [Property.manyToOne, Property.requiredJoinColumn]

theorem startsWith_identifierAttributes (settings : Config.Identifier) (property : Property) :
    ∀ attr ∈ identifierAttributes settings property, attr.StartsWith "ORM\\" := by
  rw [identifierAttributes]
  cases settings.isGenerated property <;> simp

theorem startsWith_relationAttributes (property : Property) (target : Class) :
    ∀ attr ∈ relationAttributes property target, attr.StartsWith "ORM\\" := by
  rw [relationAttributes]
  split
  · simp
  · exact startsWith_associationAttributes property target.name

/-- Every attribute of a property is one of the persistence mapping. -/
theorem startsWith_propertyAttributes (config : Config) (registry : Registry) (className : String)
    (property : Property) :
    ∀ attr ∈ (propertyAttributes config registry className property).value,
      attr.StartsWith "ORM\\" := by
  rw [propertyAttributes]
  split
  · exact startsWith_identifierAttributes (config.identifierFor className) property
  · split
    · intro attr member
      rw [List.mem_singleton.mp member]
      exact startsWith_persistenceAttribute "Column"
    · split
      next target _ => exact startsWith_relationAttributes property target
      next => exact fun attr member => absurd member List.not_mem_nil

end Persistence

namespace Resource

variable {attr : Attribute} {cls : Class}

theorem name_withOperations {plain : Attribute} (ended : withOperations cls plain = .ok attr) :
    attr.name = plain.name := by
  rw [withOperations] at ended
  split at ended
  · cases ended
    rfl
  · obtain ⟨operations, _, rfl⟩ := map_eq_ok.mp ended
    rfl

theorem name_classAttributes {attributes : List Attribute}
    (ended : classAttributes cls = .ok attributes) (member : attr ∈ attributes) :
    isResource cls ∧ attr.name = "ApiResource" := by
  rw [classAttributes] at ended
  split at ended
  next offered =>
    obtain ⟨complete, result, rfl⟩ := map_eq_ok.mp ended
    refine ⟨offered, ?_⟩
    rw [List.mem_singleton.mp member, name_withOperations result]
    simp
  next =>
    cases ended
    cases member

theorem name_propertyAttributes {property : Property}
    (member : attr ∈ propertyAttributes property) : attr.name = "ApiProperty" := by
  simp only [propertyAttributes, List.mem_ite_nil_left, List.mem_singleton] at member
  rw [member.2]
  simp

end Resource

namespace Constraint

variable {attr : Attribute} {cls : Class}

theorem name_classAttributes (member : attr ∈ classAttributes cls) :
    cls.isEnum = false ∧ uniqueProperties cls ≠ [] ∧ attr.name = "UniqueEntity" := by
  rw [classAttributes] at member
  split at member
  next => cases member
  next ordinary =>
    obtain ⟨property, unique, rfl⟩ := List.mem_map.mp member
    exact ⟨by simpa using ordinary, List.ne_nil_of_mem unique, rfl⟩

@[simp] theorem startsWith_assertion (kind : String) :
    (assertion kind).StartsWith "Assert\\" :=
  ⟨kind, rfl⟩

theorem startsWith_textForm (property : Property) :
    ∀ attr ∈ textForm property, attr.StartsWith "Assert\\" := by
  rw [textForm]
  split
  · split
    · simp
    · split <;> simp
  · simp

theorem startsWith_enumChoice (property : Property) :
    ∀ attr ∈ enumChoice property, attr.StartsWith "Assert\\" := by
  rw [enumChoice]
  split
  · intro attr member
    obtain ⟨target, _, rfl⟩ := List.mem_map.mp member
    split <;> simp
  · simp

theorem startsWith_presence (property : Property) :
    ∀ attr ∈ presence property, attr.StartsWith "Assert\\" := by
  rw [presence]
  split <;> simp

/-- Every attribute of a property is a constraint. -/
theorem startsWith_propertyAttributes (property : Property) :
    ∀ attr ∈ propertyAttributes property, attr.StartsWith "Assert\\" := by
  rw [propertyAttributes]
  split
  · simp
  · intro attr member
    rcases List.mem_append.mp member with memberForm | memberPresence
    · rcases List.mem_append.mp memberForm with memberText | memberChoice
      · exact startsWith_textForm property attr memberText
      · exact startsWith_enumChoice property attr memberChoice
    · exact startsWith_presence property attr memberPresence

end Constraint

end EntityGen
