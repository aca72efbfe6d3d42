import EntityGen.Proofs.Attachment
import EntityGen.Proofs.History
import EntityGen.Proofs.Merge.Rearranged

/-!
# The order of annotators

Annotators run in the order in which they are configured, and the attributes that they emit
are attached in that order.  Nothing else depends on it.  Each annotator contributes the same
to a class wherever it runs, imports are kept in a table, and a merge asks for attributes by
name only.  So generations whose annotators run in another order end well alike, with equal
summaries, and leave files that differ in the order of attributes alone
(`Workspace.rearranged_generate`).

The comparison goes from stage to stage: metadata whose contributions are permuted, annotated
classes that are rearranged (`Registry.forall₂_rearranged`), and files that are.
-/

namespace EntityGen

/-- Configurations that differ in the order of annotators alone. -/
structure Config.Reordered (config other : Config) : Prop where
  annotators : config.annotators.Perm other.annotators
  others : other = { config with annotators := other.annotators }

namespace Config.Reordered

variable {config other : Config}

theorem symm (reordered : config.Reordered other) : other.Reordered config where
  annotators := reordered.annotators.symm
  others := by
    rw [reordered.others]

theorem adjust_eq (reordered : config.Reordered other) (registry : Registry) :
    registry.adjust other = registry.adjust config := by
  rw [reordered.others]
  rfl

theorem ofAnnotator_eq (reordered : config.Reordered other) :
    Contribution.ofAnnotator other = Contribution.ofAnnotator config := by
  rw [reordered.others]
  rfl

theorem mergeNext_eq (reordered : config.Reordered other) :
    Workspace.mergeNext other = Workspace.mergeNext config := by
  rw [reordered.others]
  rfl

theorem markConstructors_eq (reordered : config.Reordered other) (cls : Class)
    (registry : Registry) :
    cls.markConstructors other (registry.hierarchy other) =
      cls.markConstructors config (registry.hierarchy config) := by
  rw [reordered.others]
  rfl

end Config.Reordered

/-! ## Metadata -/

namespace Metadata

variable {config other : Config} {registry : Registry} {cls : Class} {first second : Metadata}

/-- Annotators in another order contribute the same in another order. -/
theorem exists_perm_contributions (reordered : config.Reordered other)
    (ended : (ofClass config registry cls).outcome = .ok first) :
    ∃ second, (ofClass other registry cls).outcome = .ok second ∧
      first.contributions.Perm second.contributions := by
  obtain ⟨contributions, collected, permuted⟩ :=
    exists_mapM_of_perm reordered.annotators (outcome_ofClass_eq_ok.mp ended)
  refine ⟨⟨contributions⟩, outcome_ofClass_eq_ok.mpr ?_, permuted⟩
  rw [reordered.ofAnnotator_eq]
  exact collected

theorem mem_imports_iff_of_perm (permuted : first.contributions.Perm second.contributions)
    {imported : Import} : imported ∈ first.imports ↔ imported ∈ second.imports := by
  rw [imports, imports, List.mem_eraseDups, List.mem_eraseDups]
  exact (permuted.flatMap_right Contribution.imports).mem_iff

theorem perm_ofProperty (permuted : first.contributions.Perm second.contributions)
    (name : String) : (first.ofProperty name).Perm (second.ofProperty name) :=
  permuted.flatMap_right fun contribution : Contribution => contribution.ofProperty name

end Metadata

/-! ## Annotated classes -/

namespace Class

theorem rearranged_annotated {first second : Metadata}
    (permuted : first.contributions.Perm second.contributions) (cls : Class) (config : Config)
    (hierarchy : Hierarchy) :
    ((cls.attach first).markConstructors config hierarchy).Rearranged
      ((cls.attach second).markConstructors config hierarchy) where
  attributes := permuted.flatMap_right Contribution.attributes
  properties := by
    rw [toList_properties_annotated, toList_properties_annotated, List.forall₂_map_left_iff,
      List.forall₂_map_right_iff, List.forall₂_same]
    intro property _
    exact ⟨Metadata.perm_ofProperty permuted property.name, rfl⟩
  others := by
    have imports : (cls.attach first).imports = (cls.attach second).imports := by
      apply Table.eq_of_mem_iff
      intro imported
      rw [mem_imports_attach, mem_imports_attach, Metadata.mem_imports_iff_of_perm permuted]
    have declares : (cls.attach first).declaresConstructor config =
        (cls.attach second).declaresConstructor config := by
      rw [declaresConstructor_eq, declaresConstructor_eq, bare_attach, bare_attach]
      rfl
    rw [markConstructors, markConstructors, declares]
    simp only [attach] at imports ⊢
    rw [imports]

theorem Rearranged.attributeCount_eq {cls other : Class} (rearranged : cls.Rearranged other) :
    cls.attributeCount = other.attributeCount := by
  have lengths := map_eq_of_forall₂ (fun property : Property => property.attributes.length)
    (fun _ _ related => related.attributes.length_eq) rearranged.properties
  rw [attributeCount, attributeCount, rearranged.attributes.length_eq, lengths]

end Class

namespace Registry

variable {config other : Config} {registry : Registry} {metadata others : List (String × Metadata)}

/-- Annotations by annotators in another order end in rearranged classes. -/
theorem forall₂_rearranged (reordered : config.Reordered other)
    (found : (registry.metadata config).outcome = .ok metadata)
    (foundOthers : (registry.metadata other).outcome = .ok others) :
    List.Forall₂ Class.Rearranged (registry.annotated config metadata).toList
      (registry.annotated other others).toList := by
  -- The marks go by the registry before anything is attached, which both have in common.
  rw [toList_annotated, toList_annotated, hierarchy_attach, hierarchy_attach,
    List.forall₂_map_left_iff, List.forall₂_map_right_iff, List.forall₂_same]
  intro cls member
  obtain ⟨first, lookup⟩ := lookup_of_metadata found member
  obtain ⟨second, lookupOther⟩ := lookup_of_metadata foundOthers member
  obtain ⟨same, ofClass, permuted⟩ := Metadata.exists_perm_contributions reordered
    (ofClass_of_lookup_metadata found member lookup)
  rw [ofClass_of_lookup_metadata foundOthers member lookupOther] at ofClass
  cases ofClass
  rw [lookup, lookupOther, Option.elim_some, Option.elim_some, reordered.markConstructors_eq]
  exact cls.rearranged_annotated permuted config _

/-- Metadata is found whatever the order of the annotators is. -/
theorem exists_metadata_of_reordered (reordered : config.Reordered other)
    (found : (registry.metadata config).outcome = .ok metadata) :
    ∃ others, (registry.metadata other).outcome = .ok others := by
  have each : ∀ cls entry, (registry.describe config cls).outcome = .ok entry →
      ∃ following, (registry.describe other cls).outcome = .ok following ∧
        following.1 = entry.1 := by
    intro cls entry described
    obtain ⟨first, ofClass, rfl⟩ := outcome_describe_eq_ok.mp described
    obtain ⟨second, ofClassOther, _⟩ := Metadata.exists_perm_contributions reordered ofClass
    exact ⟨_, outcome_describe_eq_ok.mpr ⟨second, ofClassOther, rfl⟩, rfl⟩
  obtain ⟨others, collected, _⟩ := exists_mapM_of_mapM (mapM_of_metadata found) each
  refine ⟨others, ?_⟩
  rw [Registry.metadata, Fallible.outcome_mapM]
  exact collected

theorem propertyCount_eq_of_forall₂ {first second : Registry}
    (rearranged : List.Forall₂ Class.Rearranged first.toList second.toList) :
    Workspace.propertyCount first = Workspace.propertyCount second := by
  have sizes := map_eq_of_forall₂ (fun cls : Class => cls.properties.size)
    (fun _ _ related => related.properties.length_eq) rearranged
  rw [Workspace.propertyCount, Workspace.propertyCount, foldl_add, foldl_add, sizes]

end Registry

/-! ## Generations -/

/-- Every declaration of a file stays in its place, and the attributes that it had come before
those that it has received. -/
def SourceFile.KeepsAttributes (before after : SourceFile) : Prop :=
  InPlace (fun space later =>
      InPlace (fun decl following => decl.attributes <+: following.attributes)
        space.classes later.classes)
    before.namespaces after.namespaces

namespace Workspace

variable {config other : Config} {workspace finished otherFinished : Workspace}
  {summary otherSummary : Summary}

theorem keepsAttributes_finished
    (ended : (workspace.generate config).value = (finished, .ok summary)) (name : String) :
    (workspace.files.file name).KeepsAttributes (finished.files.file name) := by
  obtain ⟨_, _, _, files⟩ := exists_of_generate_eq_ok ended
  have survives : workspace.files.Survives (fun _ _ _ => True) finished.files := by
    rw [files]
    exact survives_foldl_mergeNext config finished.registry.toList (fun _ _ _ _ _ => trivial)
      (workspace.files, 0)
  apply (survives.files name).namespaces.mono
  intro space later kept
  exact kept.classes.mono fun _ _ keptDecl => keptDecl.attributes

/-- Generations whose annotators run in another order end well alike. -/
theorem exists_finished_of_reordered (reordered : config.Reordered other)
    (ended : (workspace.generate config).value = (finished, .ok summary)) :
    ∃ otherFinished, (workspace.generate other).value = (otherFinished, .ok summary) ∧
      finished.files.Rearranged otherFinished.files := by
  obtain ⟨metadata, found, rfl, rfl⟩ := generate_eq_ok_iff.mp ended
  obtain ⟨others, foundOthers⟩ := Registry.exists_metadata_of_reordered reordered found
  have registries := Registry.forall₂_rearranged reordered found foundOthers
  have start : ProgressesAlike (workspace.files, 0) (workspace.files, 0) := ⟨.refl _, rfl⟩
  obtain ⟨files, added⟩ := start.foldl_mergeNext config registries
  have classes : ((workspace.registry.adjust config).value.annotated config metadata).size =
      ((workspace.registry.adjust config).value.annotated other others).size :=
    registries.length_eq
  have attributes := map_eq_of_forall₂ Class.attributeCount
    (fun _ _ related => related.attributeCount_eq) registries
  refine ⟨_, generate_eq_ok_iff.mpr ⟨others, ?_, rfl, ?_⟩, ?_⟩
  · rw [reordered.adjust_eq]
    exact foundOthers
  · simp only [reordered.adjust_eq, reordered.mergeNext_eq]
    rw [Registry.foldl_size_eq found, attributes, ← Registry.foldl_size_eq foundOthers, added,
      classes, Registry.propertyCount_eq_of_forall₂ registries]
  · simp only [reordered.adjust_eq, reordered.mergeNext_eq]
    exact files

/-- Of two configurations that differ in the order of annotators alone, a generation ends well
with both or with none.  When it does, the summaries are equal, the files differ in the order
of attributes alone, and the attributes that a declaration had come first in both. -/
theorem rearranged_generate (reordered : config.Reordered other) (workspace : Workspace) :
    ((∃ finished summary, (workspace.generate config).value = (finished, .ok summary)) ↔
      ∃ finished summary, (workspace.generate other).value = (finished, .ok summary)) ∧
    ∀ finished summary otherFinished otherSummary,
      (workspace.generate config).value = (finished, .ok summary) →
      (workspace.generate other).value = (otherFinished, .ok otherSummary) →
        summary = otherSummary ∧ finished.files.Rearranged otherFinished.files ∧
          ∀ name,
            (workspace.files.file name).KeepsAttributes (finished.files.file name) ∧
              (workspace.files.file name).KeepsAttributes (otherFinished.files.file name) := by
  constructor
  · constructor
    · intro succeeds
      obtain ⟨finished, summary, ended⟩ := succeeds
      obtain ⟨otherFinished, otherEnded, _⟩ := exists_finished_of_reordered reordered ended
      exact ⟨otherFinished, summary, otherEnded⟩
    · intro succeeds
      obtain ⟨finished, summary, ended⟩ := succeeds
      obtain ⟨otherFinished, otherEnded, _⟩ := exists_finished_of_reordered reordered.symm ended
      exact ⟨otherFinished, summary, otherEnded⟩
  · intro finished summary otherFinished otherSummary ended otherEnded
    obtain ⟨_, same, rearranged⟩ := exists_finished_of_reordered reordered ended
    rw [otherEnded] at same
    cases same
    exact ⟨rfl, rearranged, fun name =>
      ⟨keepsAttributes_finished ended name, keepsAttributes_finished otherEnded name⟩⟩

/-- An annotator that runs twice comes to stand at other places; the file was written by hand
and carries an attribute that the annotators emit. -/
theorem rearranged_generate_repeated :
    let settings : Config.ClassSettings :=
      { attributes := .ofList [("Audited", .null)]
        properties := .ofList [("email", { attributes := .ofList [("Groups", .null)] })] }
    let config : Config :=
      { annotators := [.persistence, .constraint, .configuration, .constraint]
        classes := .ofList [("Person", settings)] }
    let other : Config :=
      { config with annotators := [.configuration, .constraint, .constraint, .persistence] }
    let person : Class :=
      { name := "Person"
        properties := .ofList
          [{ name := "email", range := some (.ofUri "https://schema.org/Text"), isUnique := true }]
      }
    let workspace : Workspace :=
      { registry := .ofList [person]
        files := .ofList
          [("Person",
            { namespaces :=
                [{ name := "App\\Entity"
                   classes :=
                    [{ name := "Person"
                       attributes := [{ name := "Legacy" }, { name := "UniqueEntity" }]
                       fields := [{ name := "email" }, { name := "note" }] }] }] })] }
    let finished := (workspace.generate config).value.1
    let otherFinished := (workspace.generate other).value.1
    config.Reordered other ∧
      (workspace.generate config).value = (finished, .ok ⟨1, 2, 11, 3⟩) ∧
      (workspace.generate other).value = (otherFinished, .ok ⟨1, 2, 11, 3⟩) ∧
      finished.files ≠ otherFinished.files ∧ finished.files.Rearranged otherFinished.files ∧
      ∀ name,
        (workspace.files.file name).KeepsAttributes (finished.files.file name) ∧
          (workspace.files.file name).KeepsAttributes (otherFinished.files.file name) := by
  intro settings config other person workspace finished otherFinished
  have reordered : config.Reordered other := ⟨by decide, rfl⟩
  have ended : (workspace.generate config).value = (finished, .ok ⟨1, 2, 11, 3⟩) :=
    generate_eq_ok_of_toOption (by decide +kernel)
  have otherEnded : (workspace.generate other).value = (otherFinished, .ok ⟨1, 2, 11, 3⟩) :=
    generate_eq_ok_of_toOption (by decide +kernel)
  obtain ⟨_, alike⟩ := rearranged_generate reordered workspace
  obtain ⟨_, rearranged, kept⟩ := alike _ _ _ _ ended otherEnded
  exact ⟨reordered, ended, otherEnded, by decide +kernel, rearranged, kept⟩

end Workspace

end EntityGen
