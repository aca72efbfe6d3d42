import EntityGen.Proofs.Adjust
import EntityGen.Proofs.Results

/-!
# Annotating once and twice

An annotation is known by the metadata that it finds (`Registry.value_annotate`).  It attaches
all of it, each part to the class of its name, or an error leaves the registry as it was
(`Registry.annotate_eq_error_iff`).

A second generation adjusts a class that carries what the first one has attached to it
and marked on it.  What is left to see of the first generation (`Class.Carries`) makes
no difference to the second: it finds the same metadata, and attaching and marking end
in the same class (`Registry.annotate_again`).
-/

namespace EntityGen

namespace Class

/-! ## One class -/

theorem toList_properties_attach (cls : Class) (metadata : Metadata) :
    (cls.attach metadata).properties.toList =
      cls.properties.toList.map fun property =>
        property.withAttributes (metadata.ofProperty property.name) := rfl

/-- What is attached depends on the bare class; imports are added to those of the
class, and the marks of constructors stay. -/
theorem attach_eq (cls : Class) (metadata : Metadata) :
    cls.attach metadata =
      { cls.bare.attach metadata with
        imports := cls.imports.insertAll metadata.imports
        hasConstructor := cls.hasConstructor
        parentHasConstructor := cls.parentHasConstructor } := by
  have properties : (cls.attach metadata).properties = (cls.bare.attach metadata).properties := by
    apply Table.ext
    rw [toList_properties_attach, toList_properties_attach, toList_properties_bare, List.map_map]
    rfl
  simp only [attach] at properties ⊢
  rw [properties]
  rfl

theorem bare_attach (cls : Class) (metadata : Metadata) :
    (cls.attach metadata).bare = cls.bare := by
  have properties : (cls.attach metadata).bare.properties = cls.bare.properties := by
    apply Table.ext
    rw [toList_properties_bare, toList_properties_attach, List.map_map]
    rfl
  simp only [attach, bare] at properties ⊢
  rw [properties]

theorem bare_markConstructors (cls : Class) (config : Config) (hierarchy : Hierarchy) :
    (cls.markConstructors config hierarchy).bare = cls.bare := rfl

theorem declaresConstructor_eq (cls : Class) (config : Config) :
    cls.declaresConstructor config = (cls.hasConstructor || cls.bare.needsConstructor config) := by
  rw [declaresConstructor, needsConstructor_bare]

/-- A class that carries what an earlier one received in a generation; its attributes
are left open. -/
structure Carries (later earlier : Class) (config : Config) (metadata : Metadata)
    (hierarchy : Hierarchy) : Prop where
  bare : later.bare = earlier.bare
  imports : later.imports = earlier.imports.insertAll metadata.imports
  hasConstructor : later.hasConstructor = earlier.declaresConstructor config
  parentHasConstructor : later.parentHasConstructor =
    (hierarchy.inheritsConstructor earlier.name).getD earlier.parentHasConstructor

/-- Adjustments leave imports and the marks of constructors alone. -/
theorem marks_adjusted (cls : Class) (config : Config) :
    (cls.adjusted config).imports = cls.imports ∧
      (cls.adjusted config).hasConstructor = cls.hasConstructor ∧
      (cls.adjusted config).parentHasConstructor = cls.parentHasConstructor := by
  rw [adjusted_eq_of_settings]
  exact ⟨rfl, rfl, rfl⟩

variable {cls later : Class} {config : Config} {metadata : Metadata} {hierarchy : Hierarchy}

/-- A class carries what it received in a generation into the adjustments of the next
one. -/
theorem carries_adjusted (adjusted : cls.adjusted config = cls) (metadata : Metadata)
    (hierarchy : Hierarchy) :
    Carries (((cls.attach metadata).markConstructors config hierarchy).adjusted config) cls config
      metadata hierarchy where
  bare := by
    rw [bare_adjusted, bare_markConstructors, bare_attach, ← bare_adjusted, adjusted]
  imports := (marks_adjusted _ config).1
  hasConstructor := by
    rw [(marks_adjusted _ config).2.1, declaresConstructor_eq]
    rw [markConstructors, declaresConstructor_eq, bare_attach]
    rfl
  parentHasConstructor := (marks_adjusted _ config).2.2

namespace Carries

theorem name_eq (carries : Carries later cls config metadata hierarchy) :
    later.name = cls.name := by
  have named : later.bare.name = cls.bare.name := by rw [carries.bare]
  exact named

theorem declaresConstructor_attach (carries : Carries later cls config metadata hierarchy) :
    (later.attach metadata).declaresConstructor config =
      (cls.attach metadata).declaresConstructor config := by
  rw [declaresConstructor_eq, declaresConstructor_eq, bare_attach, bare_attach, carries.bare]
  have held : (later.attach metadata).hasConstructor =
      (cls.hasConstructor || cls.bare.needsConstructor config) := by
    rw [← declaresConstructor_eq]
    exact carries.hasConstructor
  have heldBefore : (cls.attach metadata).hasConstructor = cls.hasConstructor := rfl
  rw [held, heldBefore, Bool.or_assoc, Bool.or_self]

theorem lineage_attach (carries : Carries later cls config metadata hierarchy) :
    (later.attach metadata).lineage config = (cls.attach metadata).lineage config := by
  have parent : later.bare.parentName? = cls.bare.parentName? := by rw [carries.bare]
  rw [lineage, lineage, carries.declaresConstructor_attach]
  exact congrArg (Lineage.mk _) parent

/-- Attaching and marking again ends in the same class. -/
theorem markConstructors_attach (carries : Carries later cls config metadata hierarchy) :
    (later.attach metadata).markConstructors config hierarchy =
      (cls.attach metadata).markConstructors config hierarchy := by
  have inherits : (hierarchy.inheritsConstructor cls.bare.name).getD later.parentHasConstructor =
      (hierarchy.inheritsConstructor cls.bare.name).getD cls.parentHasConstructor := by
    have named : cls.bare.name = cls.name := rfl
    rw [carries.parentHasConstructor, named]
    cases hierarchy.inheritsConstructor cls.name <;> rfl
  have imports : later.imports.insertAll metadata.imports =
      cls.imports.insertAll metadata.imports := by
    rw [carries.imports, Table.insertAll_insertAll]
  rw [markConstructors, markConstructors, carries.declaresConstructor_attach, attach_eq later,
    attach_eq cls, carries.bare]
  simp only [attach, imports, inherits]

end Carries

end Class

namespace Registry

/-! ## All classes -/

variable {registry : Registry} {config : Config} {metadata : List (String × Metadata)}

/-- The metadata of one class, under its name. -/
def describe (registry : Registry) (config : Config) (cls : Class) :
    Fallible (String × Metadata) := do
  ExceptT.lift (Logged.report (.annotating cls.name))
  return (cls.name, ← Metadata.ofClass config registry cls)

theorem outcome_describe_eq_ok {cls : Class} {entry : String × Metadata} :
    (registry.describe config cls).outcome = .ok entry ↔
      ∃ described, (Metadata.ofClass config registry cls).outcome = .ok described ∧
        entry = (cls.name, described) := by
  rw [describe, Fallible.outcome_bind, Fallible.outcome_lift]
  change (Metadata.ofClass config registry cls >>= fun described =>
    pure (cls.name, described)).outcome = .ok entry ↔ _
  rw [Fallible.outcome_bind_eq_ok]
  exact exists_congr fun described => and_congr_right fun _ =>
    ⟨fun paired => (Except.ok.inj paired).symm, fun same => congrArg Except.ok same.symm⟩

theorem mapM_of_metadata (found : (registry.metadata config).outcome = .ok metadata) :
    (registry.toList.mapM fun cls => (registry.describe config cls).outcome) = .ok metadata := by
  rwa [Registry.metadata, Fallible.outcome_mapM] at found

theorem fst_of_describe (cls : Class) (entry : String × Metadata)
    (ended : (registry.describe config cls).outcome = .ok entry) : entry.1 = cls.name := by
  obtain ⟨described, _, rfl⟩ := outcome_describe_eq_ok.mp ended
  rfl

/-- The metadata of a registry, when all is found, describes each of its classes. -/
theorem lookup_of_metadata (found : (registry.metadata config).outcome = .ok metadata)
    {cls : Class} (member : cls ∈ registry.toList) :
    ∃ described, metadata.lookup cls.name = some described := by
  obtain ⟨described, _, lookup⟩ :=
    Table.lookup_of_mapM (mapM_of_metadata found) fst_of_describe member
  exact ⟨described, lookup⟩

/-- What metadata says of a class is what the annotators contribute to that class. -/
theorem ofClass_of_lookup_metadata (found : (registry.metadata config).outcome = .ok metadata)
    {cls : Class} (member : cls ∈ registry.toList) {described : Metadata}
    (lookup : metadata.lookup cls.name = some described) :
    (Metadata.ofClass config registry cls).outcome = .ok described := by
  obtain ⟨other, result, lookupOther⟩ :=
    Table.lookup_of_mapM (mapM_of_metadata found) fst_of_describe member
  have same : some described = some other := lookup.symm.trans lookupOther
  cases same
  obtain ⟨collected, ofClass, paired⟩ := outcome_describe_eq_ok.mp result
  cases paired
  exact ofClass

/-- The metadata of a registry, when all is found, describes no class twice. -/
theorem nodup_names_of_metadata (found : (registry.metadata config).outcome = .ok metadata) :
    (metadata.map Prod.fst).Nodup := by
  have entries := Table.eq_map_lookup_of_mapM (mapM_of_metadata found) fst_of_describe default
  have names : metadata.map Prod.fst = registry.keys := by
    rw [entries, List.map_map]
    rfl
  rw [names]
  exact registry.nodup_keys

/-- The registry with metadata attached to the classes that have any. -/
def attach (registry : Registry) (metadata : List (String × Metadata)) : Registry :=
  registry.map (fun cls => (metadata.lookup cls.name).elim cls cls.attach) fun cls => by
    cases metadata.lookup cls.name <;> rfl

theorem toList_attach (registry : Registry) (metadata : List (String × Metadata)) :
    (registry.attach metadata).toList =
      registry.toList.map fun cls => (metadata.lookup cls.name).elim cls cls.attach := rfl

theorem toList_markConstructors (registry : Registry) (config : Config) :
    (registry.markConstructors config).toList =
      registry.toList.map fun cls => cls.markConstructors config (registry.hierarchy config) := rfl

theorem attach_cons {name : String} {rest : List (String × Metadata)}
    (fresh : name ∉ rest.map Prod.fst) (registry : Registry) (described : Metadata) :
    registry.attach ((name, described) :: rest) =
      (registry.attachTo name described).attach rest := by
  apply Table.ext
  rw [toList_attach, toList_attach, attachTo, Table.toList_map, List.map_map]
  apply List.map_congr_left
  intro cls _
  rw [Function.comp, List.lookup_cons]
  by_cases named : cls.name = name
  · have attached : (cls.attach described).name = cls.name := rfl
    have unnamed : rest.lookup cls.name = none := by
      rw [List.lookup_eq_none_iff]
      intro entry member
      rw [bne_iff_ne, named]
      rintro rfl
      exact fresh (List.mem_map_of_mem member)
    rw [if_pos named, attached, unnamed, beq_iff_eq.mpr named]
    rfl
  · rw [if_neg named, beq_false_of_ne named]

/-- Metadata of distinct names reaches each class once, and all of it is counted. -/
theorem attachAll_eq (distinct : (metadata.map Prod.fst).Nodup) (registry : Registry) :
    registry.attachAll metadata =
      (registry.attach metadata, metadata.foldl (fun count entry => count + entry.2.size) 0) := by
  rw [attachAll]
  generalize 0 = count
  induction metadata generalizing registry count with
  | nil => exact Prod.ext (Table.ext (List.map_id _).symm) rfl
  | cons entry rest ih =>
      obtain ⟨name, described⟩ := entry
      obtain ⟨fresh, distinctRest⟩ := List.nodup_cons.mp distinct
      rw [List.foldl_cons, ih distinctRest, attach_cons fresh]
      rfl

/-- The registry with metadata attached and constructors marked. -/
def annotated (registry : Registry) (config : Config) (metadata : List (String × Metadata)) :
    Registry :=
  (registry.attach metadata).markConstructors config

/-- An annotation attaches all metadata, or leaves the registry as it is. -/
theorem value_annotate (registry : Registry) (config : Config) :
    (registry.annotate config).value =
      match (registry.metadata config).outcome with
      | .error error => (registry, .error error)
      | .ok metadata =>
          (registry.annotated config metadata,
            .ok (metadata.foldl (fun count entry => count + entry.2.size) 0)) := by
  simp only [annotate, Logged.value_bind, Fallible.outcome]
  cases found : (ExceptT.run (registry.metadata config)).value with
  | error error => rfl
  | ok metadata =>
      have attached := attachAll_eq (nodup_names_of_metadata found) registry
      simp only [attached, annotated, Logged.value_pure]

/-- What an annotation returns depends on the metadata alone. -/
theorem result_annotate (registry : Registry) (config : Config) :
    (registry.annotate config).value.2 = (registry.metadata config).outcome.map fun metadata =>
      metadata.foldl (fun count entry => count + entry.2.size) 0 := by
  rw [value_annotate]
  cases (registry.metadata config).outcome <;> rfl

theorem annotate_eq_ok_iff {result : Registry} {declarations : Nat} :
    (registry.annotate config).value = (result, .ok declarations) ↔
      ∃ metadata, (registry.metadata config).outcome = .ok metadata ∧
        result = registry.annotated config metadata ∧
        declarations = metadata.foldl (fun count entry => count + entry.2.size) 0 := by
  rw [value_annotate]
  cases (registry.metadata config).outcome with
  | error error => simp
  | ok metadata =>
      simp only [Prod.mk.injEq, Except.ok.injEq, exists_eq_left']
      exact and_congr eq_comm eq_comm

/-- An annotation that ends in an error has attached nothing. -/
theorem annotate_eq_error_iff {left : Registry} {error : GenerationError} :
    (registry.annotate config).value = (left, .error error) ↔
      left = registry ∧ (registry.annotate config).value.2 = .error error := by
  rw [value_annotate]
  cases (registry.metadata config).outcome with
  | error other => simp [eq_comm]
  | ok metadata => simp

/-- A class of a registry, annotated and then adjusted. -/
def later (registry : Registry) (config : Config) (metadata : List (String × Metadata))
    (cls : Class) : Class :=
  (((metadata.lookup cls.name).elim cls cls.attach).markConstructors config
    ((registry.attach metadata).hierarchy config)).adjusted config

theorem toList_adjust_annotated (registry : Registry) (config : Config)
    (metadata : List (String × Metadata)) :
    ((registry.annotated config metadata).adjust config).value.toList =
      registry.toList.map (registry.later config metadata) := by
  rw [toList_adjust, annotated, toList_markConstructors, toList_attach, List.map_map, List.map_map]
  rfl

section Again

variable (adjusted : ∀ cls ∈ registry.toList, cls.adjusted config = cls)
variable (described : ∀ cls ∈ registry.toList, ∃ found, metadata.lookup cls.name = some found)

include adjusted described

theorem exists_carries {cls : Class} (member : cls ∈ registry.toList) :
    ∃ found, metadata.lookup cls.name = some found ∧
      (registry.later config metadata cls).Carries cls config found
        ((registry.attach metadata).hierarchy config) := by
  obtain ⟨found, lookup⟩ := described cls member
  refine ⟨found, lookup, ?_⟩
  rw [later, lookup]
  exact Class.carries_adjusted (adjusted cls member) found _

theorem bare_adjust_annotated :
    ((registry.annotated config metadata).adjust config).value.bare = registry.bare := by
  apply Table.ext
  rw [bare, Table.toList_map, toList_adjust_annotated, List.map_map, bare, Table.toList_map]
  apply List.map_congr_left
  intro cls member
  obtain ⟨found, lookup, carries⟩ := exists_carries adjusted described member
  exact carries.bare

theorem hierarchy_attach_again :
    (((registry.annotated config metadata).adjust config).value.attach metadata).hierarchy config =
      (registry.attach metadata).hierarchy config := by
  apply Table.ext
  simp only [hierarchy, toList_attach, toList_adjust_annotated, List.map_map]
  apply List.map_congr_left
  intro cls member
  obtain ⟨found, lookup, carries⟩ := exists_carries adjusted described member
  simp only [Function.comp, carries.name_eq, lookup, Option.elim_some]
  exact Prod.ext carries.name_eq carries.lineage_attach

/-- The second annotation with the same metadata has no effect. -/
theorem annotated_again :
    ((registry.annotated config metadata).adjust config).value.annotated config metadata =
      registry.annotated config metadata := by
  apply Table.ext
  rw [annotated, toList_markConstructors, hierarchy_attach_again adjusted described, toList_attach,
    toList_adjust_annotated, annotated, toList_markConstructors, toList_attach, List.map_map,
    List.map_map, List.map_map]
  apply List.map_congr_left
  intro cls member
  obtain ⟨found, lookup, carries⟩ := exists_carries adjusted described member
  simp only [Function.comp, carries.name_eq, lookup, Option.elim_some]
  exact carries.markConstructors_attach

end Again

/-- When adjusted classes have been annotated, adjusting and annotating them again
has the same result. -/
theorem annotate_again {result : Registry} {declarations : Nat}
    (adjusted : ∀ cls ∈ registry.toList, cls.adjusted config = cls)
    (ended : (registry.annotate config).value = (result, .ok declarations)) :
    ((result.adjust config).value.annotate config).value = (result, .ok declarations) := by
  obtain ⟨metadata, found, rfl, rfl⟩ := annotate_eq_ok_iff.mp ended
  have described : ∀ cls ∈ registry.toList, ∃ found, metadata.lookup cls.name = some found :=
    fun _ member => lookup_of_metadata found member
  have sameBare := bare_adjust_annotated adjusted described
  rw [annotate_eq_ok_iff, metadata_eq_of_bare_eq sameBare]
  exact ⟨metadata, found, (annotated_again adjusted described).symm, rfl⟩

end Registry

end EntityGen
