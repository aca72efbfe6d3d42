import EntityGen.Proofs.CollectionImports
import Mathlib.Algebra.BigOperators.Group.Multiset.Basic
import Mathlib.Algebra.GroupWithZero.Nat

/-!
# What an annotation attaches

An annotation that ends well attaches to every class, and to every property, what the
configured annotators emit for it: one output after the other, each without repetitions, and
nothing else (`Registry.annotated_of_annotate`).  It counts exactly the attributes that are
there afterwards.

What was attached before makes no difference.  A class that is stripped of its attributes
(`Class.unattributed`) is annotated like the class itself.
-/

namespace EntityGen

/-! ## Repetitions -/

namespace Attribute

/-- Of every group of attributes that are the same, the second list holds the first one. -/
inductive Firsts : List Attribute → List Attribute → Prop
  | nil : Firsts [] []
  | cons (attr : Attribute) {rest kept : List Attribute} :
      Firsts rest kept → Firsts (attr :: rest) (attr :: kept.filter fun later => ¬Same attr later)

theorem appendNew_of_exists {held : List Attribute} {attr : Attribute}
    (known : ∃ first ∈ held, Same first attr) : appendNew held attr = held := by
  rw [appendNew, if_pos]
  simpa using known

theorem appendNew_of_forall {held : List Attribute} {attr : Attribute}
    (fresh : ∀ first ∈ held, ¬Same first attr) : appendNew held attr = held ++ [attr] := by
  rw [appendNew, if_neg]
  simpa using fresh

/-- Appending to a list leaves out what is the same as one of its members. -/
theorem foldl_appendNew (attributes held : List Attribute) :
    attributes.foldl appendNew held =
      held ++ (distinct attributes).filter fun later => ∀ first ∈ held, ¬Same first later := by
  induction attributes generalizing held with
  | nil => exact (List.append_nil held).symm
  | cons attr rest ih =>
      have first : distinct (attr :: rest) =
          attr :: (distinct rest).filter fun later => ∀ first ∈ [attr], ¬Same first later :=
        ih [attr]
      rw [List.foldl_cons, ih, first]
      by_cases known : ∃ first ∈ held, Same first attr
      · obtain ⟨earlier, member, same⟩ := known
        rw [appendNew_of_exists ⟨earlier, member, same⟩, List.filter_cons_of_neg,
          List.filter_filter]
        · congr 1
          apply List.filter_congr
          intro later _
          -- An attribute that is the same as the new one is the same as the earlier one.
          have implied : (∀ first ∈ held, ¬Same first later) → ¬Same attr later :=
            fun fresh sameLater => fresh earlier member (same.trans sameLater)
          rw [← Bool.decide_and, decide_eq_decide, List.forall_mem_singleton]
          exact ⟨fun fresh => ⟨fresh, implied fresh⟩, And.left⟩
        · simpa using ⟨earlier, member, same⟩
      · have fresh : ∀ first ∈ held, ¬Same first attr := by simpa using known
        rw [appendNew_of_forall fresh, List.filter_cons_of_pos, List.filter_filter,
          List.append_assoc]
        · rw [List.singleton_append]
          congr 2
          apply List.filter_congr
          intro later _
          rw [← Bool.decide_and, decide_eq_decide, List.forall_mem_append]
        · simpa using fresh

theorem distinct_cons (attr : Attribute) (rest : List Attribute) :
    distinct (attr :: rest) = attr :: (distinct rest).filter fun later => ¬Same attr later := by
  have appended : distinct (attr :: rest) = _ := foldl_appendNew rest [attr]
  simpa using appended

theorem firsts_distinct (attributes : List Attribute) :
    Firsts attributes (distinct attributes) := by
  induction attributes with
  | nil => exact .nil
  | cons attr rest ih =>
      rw [distinct_cons]
      exact .cons attr ih

/-- Attributes are outputs one after the other, each without its repetitions. -/
def Concatenates (outputs : List (List Attribute)) (attributes : List Attribute) : Prop :=
  ∃ kept, List.Forall₂ Firsts outputs kept ∧ attributes = kept.flatten

theorem concatenates_flatMap {α : Type} {attributesOf : α → List Attribute} {elements : List α}
    {outputs : List (List Attribute)}
    (each : List.Forall₂ (fun output element => Firsts output (attributesOf element))
      outputs elements) : Concatenates outputs (elements.flatMap attributesOf) :=
  ⟨elements.map attributesOf, List.forall₂_map_right_iff.mpr each, List.flatMap_def⟩

end Attribute

/-! ## Annotated classes -/

/-- What an annotation makes of a property: it carries what the annotators emit for it. -/
def Property.Annotated (config : Config) (registry : Registry) (className : String)
    (before after : Property) : Prop :=
  ∃ outputs attributes,
    (config.annotators.mapM fun annotator =>
      (annotator.ofProperty config registry className before).outcome) = .ok outputs ∧
    Attribute.Concatenates outputs attributes ∧ after = { before with attributes := attributes }

/-- What an annotation makes of a class: the class and its properties carry what the annotators
emit, the imports that they report are added, and only the marks of constructors may differ
besides. -/
structure Class.Annotated (config : Config) (registry : Registry) (before after : Class) :
    Prop where
  attributes : ∃ outputs,
    (config.annotators.mapM fun annotator => annotator.ofClass config before) = .ok outputs ∧
      Attribute.Concatenates outputs after.attributes
  properties : List.Forall₂ (Property.Annotated config registry before.name)
    before.properties.toList after.properties.toList
  imports : ∀ imported, imported ∈ after.imports.toList ↔
    imported ∈ before.imports.toList ∨
      ∃ annotator ∈ config.annotators, imported ∈ annotator.imports config before
  others : after =
    { before with
      attributes := after.attributes
      properties := after.properties
      imports := after.imports
      hasConstructor := after.hasConstructor
      parentHasConstructor := after.parentHasConstructor }

/-- The number of attributes that a class and its properties carry. -/
def Class.attributeCount (cls : Class) : Nat :=
  cls.attributes.length + (cls.properties.toList.map fun property => property.attributes.length).sum

/-- The class without the attributes of it and of its properties. -/
def Class.unattributed (cls : Class) : Class :=
  { cls with
    attributes := []
    properties := cls.properties.map Property.bare Property.key_bare }

theorem Class.key_unattributed (cls : Class) : Keyed.key cls.unattributed = Keyed.key cls := rfl

/-- The registry of the classes without their attributes. -/
def Registry.unattributed (registry : Registry) : Registry :=
  registry.map Class.unattributed Class.key_unattributed

/-! ## Contributions -/

theorem foldl_add {α : Type} (weight : α → Nat) (elements : List α) (start : Nat) :
    elements.foldl (fun count a => count + weight a) start =
      start + (elements.map weight).sum := by
  induction elements generalizing start with
  | nil => rfl
  | cons a rest ih => rw [List.foldl_cons, ih, List.map_cons, List.sum_cons, Nat.add_assoc]

namespace Contribution

variable {config : Config} {registry : Registry} {cls : Class} {annotator : Annotator}
  {contribution : Contribution}

/-- The attributes of one property, under its name. -/
def describe (config : Config) (registry : Registry) (cls : Class) (annotator : Annotator)
    (property : Property) : Fallible (String × List Attribute) := do
  let attributes ← annotator.ofProperty config registry cls.name property
  return (property.name, Attribute.distinct attributes)

theorem fst_of_describe (property : Property) (entry : String × List Attribute)
    (ended : (describe config registry cls annotator property).outcome = .ok entry) :
    entry.1 = property.name := by
  obtain ⟨attributes, _, paired⟩ := Fallible.outcome_bind_eq_ok.mp ended
  cases paired
  rfl

theorem mapM_of_ofAnnotator
    (ended : (ofAnnotator config registry cls annotator).outcome = .ok contribution) :
    (cls.properties.toList.mapM fun property =>
      (describe config registry cls annotator property).outcome) = .ok contribution.properties := by
  obtain ⟨_, _, reported⟩ := Fallible.outcome_bind_eq_ok.mp ended
  obtain ⟨attributes, _, described⟩ := Fallible.outcome_bind_eq_ok.mp reported
  obtain ⟨properties, collected, complete⟩ := Fallible.outcome_bind_eq_ok.mp described
  cases complete
  rwa [Fallible.outcome_mapM] at collected

/-- An annotator contributes to a class what it emits for it, without repetitions. -/
theorem firsts_attributes
    (ended : (ofAnnotator config registry cls annotator).outcome = .ok contribution) :
    ∃ output, annotator.ofClass config cls = .ok output ∧
      Attribute.Firsts output contribution.attributes := by
  obtain ⟨_, ⟨output, ofClass, same⟩, _⟩ := of_outcome_ofAnnotator ended
  exact ⟨output, ofClass, same ▸ Attribute.firsts_distinct output⟩

/-- An annotator contributes to a property what it emits for it, without repetitions. -/
theorem firsts_ofProperty
    (ended : (ofAnnotator config registry cls annotator).outcome = .ok contribution)
    {property : Property} (member : property ∈ cls.properties.toList) :
    ∃ output, (annotator.ofProperty config registry cls.name property).outcome = .ok output ∧
      Attribute.Firsts output (contribution.ofProperty property.name) := by
  obtain ⟨attributes, result, lookup⟩ :=
    Table.lookup_of_mapM (mapM_of_ofAnnotator ended) fst_of_describe member
  obtain ⟨output, ofProperty, paired⟩ := Fallible.outcome_bind_eq_ok.mp result
  cases paired
  refine ⟨output, ofProperty, ?_⟩
  rw [Contribution.ofProperty, show contribution.properties.lookup property.name = _ from lookup]
  exact Attribute.firsts_distinct output

theorem size_eq (ended : (ofAnnotator config registry cls annotator).outcome = .ok contribution) :
    contribution.size = contribution.attributes.length +
      (cls.properties.toList.map fun property =>
        (contribution.ofProperty property.name).length).sum := by
  have lengths : (contribution.properties.map fun entry => entry.2.length) =
      cls.properties.toList.map fun property =>
        (contribution.ofProperty property.name).length := by
    conv_lhs =>
      rw [Table.eq_map_lookup_of_mapM (mapM_of_ofAnnotator ended) fst_of_describe [],
        List.map_map]
    rfl
  rw [size, foldl_add, lengths]

end Contribution

/-! ## Metadata -/

namespace Metadata

variable {config : Config} {registry : Registry} {cls : Class} {described : Metadata}

theorem concatenates_attributes
    (ended : (ofClass config registry cls).outcome = .ok described) :
    ∃ outputs, (config.annotators.mapM fun annotator => annotator.ofClass config cls) =
        .ok outputs ∧ Attribute.Concatenates outputs described.attributes := by
  obtain ⟨outputs, collected, related⟩ := exists_mapM_of_mapM (mapM_of_ofClass ended)
    fun _ _ result => Contribution.firsts_attributes result
  exact ⟨outputs, collected, Attribute.concatenates_flatMap related⟩

theorem concatenates_ofProperty
    (ended : (ofClass config registry cls).outcome = .ok described)
    {property : Property} (member : property ∈ cls.properties.toList) :
    ∃ outputs, (config.annotators.mapM fun annotator =>
        (annotator.ofProperty config registry cls.name property).outcome) = .ok outputs ∧
      Attribute.Concatenates outputs (described.ofProperty property.name) := by
  obtain ⟨outputs, collected, related⟩ := exists_mapM_of_mapM (mapM_of_ofClass ended)
    fun _ _ result => Contribution.firsts_ofProperty result member
  exact ⟨outputs, collected, Attribute.concatenates_flatMap related⟩

theorem size_eq (ended : (ofClass config registry cls).outcome = .ok described) :
    described.size = described.attributes.length +
      (cls.properties.toList.map fun property =>
        (described.ofProperty property.name).length).sum := by
  have each : ∀ contribution ∈ described.contributions, contribution.size =
      contribution.attributes.length + (cls.properties.toList.map fun property =>
        (contribution.ofProperty property.name).length).sum := by
    intro contribution member
    obtain ⟨annotator, _, result⟩ := mem_of_mapM (mapM_of_ofClass ended) member
    exact Contribution.size_eq result
  have exchanged := Multiset.sum_map_sum_map (described.contributions : Multiset Contribution)
    (cls.properties.toList : Multiset Property)
    (f := fun contribution property => (contribution.ofProperty property.name).length)
  simp only [Multiset.map_coe, Multiset.sum_coe] at exchanged
  rw [size, foldl_add, Nat.zero_add, List.map_congr_left each, List.sum_map_add, exchanged,
    attributes, List.length_flatMap]
  simp only [ofProperty, List.length_flatMap]

end Metadata

/-! ## Annotated registries -/

namespace Class

variable {config : Config} {registry : Registry} {cls : Class} {described : Metadata}

theorem toList_properties_annotated (cls : Class) (described : Metadata) (config : Config)
    (hierarchy : Hierarchy) :
    ((cls.attach described).markConstructors config hierarchy).properties.toList =
      cls.properties.toList.map fun property =>
        property.withAttributes (described.ofProperty property.name) := rfl

theorem annotated_attach
    (ended : (Metadata.ofClass config registry cls).outcome = .ok described)
    (hierarchy : Hierarchy) :
    Annotated config registry cls ((cls.attach described).markConstructors config hierarchy) where
  attributes := Metadata.concatenates_attributes ended
  properties := by
    rw [toList_properties_annotated, List.forall₂_map_right_iff, List.forall₂_same]
    intro property member
    obtain ⟨outputs, collected, concatenated⟩ := Metadata.concatenates_ofProperty ended member
    exact ⟨outputs, _, collected, concatenated, rfl⟩
  imports imported := by
    rw [or_comm, ← Metadata.mem_imports_iff_exists_annotator ended]
    exact mem_imports_attach cls described
  others := rfl

theorem attributeCount_attach
    (ended : (Metadata.ofClass config registry cls).outcome = .ok described)
    (hierarchy : Hierarchy) :
    ((cls.attach described).markConstructors config hierarchy).attributeCount =
      described.size := by
  rw [attributeCount, toList_properties_annotated, List.map_map, Metadata.size_eq ended]
  rfl

theorem bare_unattributed (cls : Class) : cls.unattributed.bare = cls.bare := by
  have properties : cls.unattributed.bare.properties = cls.bare.properties := by
    apply Table.ext
    rw [toList_properties_bare, toList_properties_bare, unattributed, Table.toList_map,
      List.map_map]
    rfl
  simp only [unattributed, bare] at properties ⊢
  rw [properties]

theorem attach_unattributed (cls : Class) (described : Metadata) :
    cls.unattributed.attach described = cls.attach described := by
  rw [attach_eq, attach_eq cls, bare_unattributed]
  rfl

end Class

namespace Registry

variable {config : Config} {registry : Registry} {metadata : List (String × Metadata)}

theorem toList_annotated (registry : Registry) (config : Config)
    (metadata : List (String × Metadata)) :
    (registry.annotated config metadata).toList = registry.toList.map fun cls =>
      ((metadata.lookup cls.name).elim cls cls.attach).markConstructors config
        ((registry.attach metadata).hierarchy config) := by
  rw [annotated, toList_markConstructors, toList_attach, List.map_map]
  rfl

theorem forall₂_annotated (found : (registry.metadata config).outcome = .ok metadata) :
    List.Forall₂ (Class.Annotated config registry) registry.toList
      (registry.annotated config metadata).toList := by
  rw [toList_annotated, List.forall₂_map_right_iff, List.forall₂_same]
  intro cls member
  obtain ⟨described, lookup⟩ := lookup_of_metadata found member
  rw [lookup, Option.elim_some]
  exact Class.annotated_attach (ofClass_of_lookup_metadata found member lookup) _

/-- The attributes that are counted are those that are there afterwards. -/
theorem foldl_size_eq (found : (registry.metadata config).outcome = .ok metadata) :
    metadata.foldl (fun count entry => count + entry.2.size) 0 =
      ((registry.annotated config metadata).toList.map Class.attributeCount).sum := by
  have entries := Table.eq_map_lookup_of_mapM (mapM_of_metadata found) fst_of_describe default
  have sizes : (metadata.map fun entry => entry.2.size) =
      (registry.annotated config metadata).toList.map Class.attributeCount := by
    conv_lhs => rw [entries, List.map_map]
    rw [toList_annotated, List.map_map]
    apply List.map_congr_left
    intro cls member
    obtain ⟨described, lookup⟩ := lookup_of_metadata found member
    have ofClass := ofClass_of_lookup_metadata found member lookup
    simp only [Function.comp]
    rw [show metadata.lookup (Keyed.key cls) = some described from lookup, lookup,
      Option.elim_some, Class.attributeCount_attach ofClass]
    rfl
  rw [foldl_add, Nat.zero_add, sizes]

/-- Attributes that are there already make no difference to an annotation. -/
theorem annotate_unattributed_eq_ok_iff {registry annotated : Registry} {declarations : Nat} :
    (registry.unattributed.annotate config).value = (annotated, .ok declarations) ↔
      (registry.annotate config).value = (annotated, .ok declarations) := by
  have bare : registry.unattributed.bare = registry.bare := by
    apply Table.ext
    rw [Registry.bare, Registry.bare, Table.toList_map, Table.toList_map, unattributed,
      Table.toList_map, List.map_map]
    exact List.map_congr_left fun cls _ => cls.bare_unattributed
  have attached {metadata : List (String × Metadata)}
      (found : (registry.metadata config).outcome = .ok metadata) :
      registry.unattributed.attach metadata = registry.attach metadata := by
    apply Table.ext
    rw [toList_attach, toList_attach, unattributed, Table.toList_map, List.map_map]
    apply List.map_congr_left
    intro cls member
    obtain ⟨described, lookup⟩ := lookup_of_metadata found member
    rw [Function.comp, show metadata.lookup cls.unattributed.name = some described from lookup,
      lookup]
    exact cls.attach_unattributed described
  rw [annotate_eq_ok_iff, annotate_eq_ok_iff, metadata_eq_of_bare_eq bare]
  apply exists_congr
  intro metadata
  apply and_congr_right
  intro found
  rw [Registry.annotated, Registry.annotated, attached found]

/-- An annotation that ends well attaches to the classes and their properties what the
configured annotators emit for the registry as it was, counts the attributes that are there
afterwards, and changes only imports and marks of constructors besides.  A registry with other
attributes, and no other difference, is annotated alike. -/
theorem annotated_of_annotate {annotated : Registry} {declarations : Nat}
    (ended : (registry.annotate config).value = (annotated, .ok declarations)) :
    List.Forall₂ (Class.Annotated config registry) registry.toList annotated.toList ∧
      declarations = (annotated.toList.map Class.attributeCount).sum ∧
      ∀ other : Registry, other.unattributed = registry.unattributed →
        (other.annotate config).value = (annotated, .ok declarations) := by
  have independent : ∀ other : Registry, other.unattributed = registry.unattributed →
      (other.annotate config).value = (annotated, .ok declarations) := by
    intro other same
    rw [← annotate_unattributed_eq_ok_iff, same, annotate_unattributed_eq_ok_iff, ended]
  obtain ⟨metadata, found, rfl, rfl⟩ := annotate_eq_ok_iff.mp ended
  exact ⟨forall₂_annotated found, foldl_size_eq found, independent⟩

/-- A class that was annotated before, by annotators of which one runs twice; the attributes
of the earlier annotation are gone, and are not counted. -/
theorem annotated_of_annotate_repeated :
    let config : Config := { annotators := [.constraint, .persistence, .constraint] }
    let person : Class :=
      { name := "Person"
        imports := .ofList [{ name := "App\\Legacy" }]
        attributes := [{ name := "ORM\\Entity" }, { name := "Stale" }]
        properties := .ofList
          [{ name := "email"
             range := some (.ofUri "https://schema.org/Text")
             isUnique := true
             attributes := [{ name := "Stale" }] }] }
    let registry : Registry := .ofList [person]
    ∃ annotated : Registry,
      (registry.annotate config).value = (annotated, .ok 6) ∧
        (annotated.toList.map fun cls => cls.attributes.map Attribute.name) =
          [["UniqueEntity", "ORM\\Entity", "UniqueEntity"]] ∧
        List.Forall₂ (Class.Annotated config registry) registry.toList annotated.toList ∧
        6 = (annotated.toList.map Class.attributeCount).sum ∧
        (registry.unattributed.annotate config).value = (annotated, .ok 6) := by
  intro config person registry
  let annotated := (registry.annotate config).value.1
  have counted : (registry.annotate config).value.2 = .ok 6 := by
    apply eq_ok_of_toOption
    decide +kernel
  have ended : (registry.annotate config).value = (annotated, .ok 6) := Prod.ext rfl counted
  have names : (annotated.toList.map fun cls => cls.attributes.map Attribute.name) =
      [["UniqueEntity", "ORM\\Entity", "UniqueEntity"]] := by decide +kernel
  have stripped : registry.unattributed.unattributed = registry.unattributed := by decide +kernel
  obtain ⟨each, sizes, alike⟩ := annotated_of_annotate ended
  exact ⟨annotated, ended, names, each, sizes, alike registry.unattributed stripped⟩

end Registry

end EntityGen
