import EntityGen.Proofs.Annotation
import EntityGen.Proofs.Generation
import EntityGen.Proofs.Merge.Settled

/-!
# Generations that ended well

What a generation that ended well leaves of a class.  In the registry it is the adjusted
class with its metadata attached and its constructors marked
(`Registry.exists_of_mem_annotated`); in the file of its name it is the merge of that
class into what the file held before (`Workspace.file_finished`).
-/

namespace EntityGen

/-- What is attached makes no difference to the search for constructors. -/
theorem Class.lineage_attach (cls : Class) (described : Metadata) (config : Config) :
    (cls.attach described).lineage config = cls.lineage config := by
  have declares : (cls.attach described).declaresConstructor config =
      cls.declaresConstructor config := by
    rw [declaresConstructor_eq, declaresConstructor_eq, bare_attach]
    rfl
  rw [lineage, declares]
  rfl

namespace Registry

variable {registry : Registry} {config : Config} {metadata : List (String × Metadata)} {cls : Class}

/-- An annotated class is one of the registry, with its metadata and its marks. -/
theorem exists_of_mem_annotated (found : (registry.metadata config).outcome = .ok metadata)
    (member : cls ∈ (registry.annotated config metadata).toList) :
    ∃ before ∈ registry.toList, ∃ described,
      before.attach described ∈ (registry.attach metadata).toList ∧
      cls = (before.attach described).markConstructors config
        ((registry.attach metadata).hierarchy config) := by
  rw [annotated, toList_markConstructors] at member
  obtain ⟨attached, memberAttached, rfl⟩ := List.mem_map.mp member
  rw [toList_attach] at memberAttached
  obtain ⟨before, memberBefore, rfl⟩ := List.mem_map.mp memberAttached
  obtain ⟨described, lookup⟩ := lookup_of_metadata found memberBefore
  rw [lookup, Option.elim_some] at memberAttached ⊢
  exact ⟨before, memberBefore, described, memberAttached, rfl⟩

theorem hierarchy_attach (registry : Registry) (metadata : List (String × Metadata))
    (config : Config) :
    (registry.attach metadata).hierarchy config = registry.hierarchy config := by
  apply Table.ext
  simp only [hierarchy, toList_attach, List.map_map]
  apply List.map_congr_left
  intro cls _
  rw [Function.comp]
  cases metadata.lookup cls.name with
  | none => rfl
  | some described => exact Prod.ext rfl (cls.lineage_attach described config)

/-- Every class of a registry is annotated by its own metadata, and marked by what the
registry says of its ancestors. -/
theorem exists_mem_annotated (found : (registry.metadata config).outcome = .ok metadata)
    (member : cls ∈ registry.toList) :
    ∃ described, (Metadata.ofClass config registry cls).outcome = .ok described ∧
      (cls.attach described).markConstructors config (registry.hierarchy config) ∈
        (registry.annotated config metadata).toList := by
  obtain ⟨described, lookup⟩ := lookup_of_metadata found member
  refine ⟨described, ofClass_of_lookup_metadata found member lookup, ?_⟩
  rw [annotated, toList_markConstructors, hierarchy_attach, toList_attach, List.map_map]
  refine List.mem_map.mpr ⟨cls, member, ?_⟩
  rw [Function.comp, lookup, Option.elim_some]

end Registry

namespace Workspace

variable {config : Config} {workspace finished : Workspace} {summary : Summary} {cls : Class}

/-- Merges of other classes leave the file of a name alone. -/
theorem file_foldl_mergeNext_of_fresh {classes : List Class} {name : String}
    (fresh : name ∉ classes.map Class.name) (progress : SourceTree × Nat) :
    (classes.foldl (mergeNext config) progress).1.file name = progress.1.file name := by
  induction classes generalizing progress with
  | nil => rfl
  | cons cls rest ih =>
      simp only [List.map_cons, List.mem_cons, not_or] at fresh
      rw [List.foldl_cons, ih fresh.2, file_mergeNext_of_ne (Ne.symm fresh.1)]

/-- Of classes of distinct names each is merged into what its file held at first. -/
theorem file_foldl_mergeNext {classes : List Class} (distinct : (classes.map Class.name).Nodup)
    (member : cls ∈ classes) (progress : SourceTree × Nat) :
    (classes.foldl (mergeNext config) progress).1.file cls.name =
      cls.mergeFile config (progress.1.file cls.name) := by
  induction classes generalizing progress with
  | nil => cases member
  | cons first rest ih =>
      obtain ⟨fresh, restDistinct⟩ := List.nodup_cons.mp distinct
      rw [List.foldl_cons]
      rcases List.mem_cons.mp member with same | later
      · subst first
        rw [file_foldl_mergeNext_of_fresh fresh, file_mergeNext_self]
      · -- The first merge goes to another file, so the induction starts from the same one.
        have different : first.name ≠ cls.name := by
          intro same
          exact fresh (same ▸ List.mem_map_of_mem later)
        rw [ih restDistinct later, file_mergeNext_of_ne different]

/-- A generation ended well when its summary can be read off. -/
theorem generate_eq_ok_of_toOption
    (counted : (workspace.generate config).value.2.toOption = some summary) :
    (workspace.generate config).value = ((workspace.generate config).value.1, .ok summary) :=
  Prod.ext rfl (eq_ok_of_toOption counted)

/-- A generation ends well exactly when all metadata is found; it has then merged every
annotated class, one after the other. -/
theorem generate_eq_ok_iff :
    (workspace.generate config).value = (finished, .ok summary) ↔
      ∃ metadata,
        ((workspace.registry.adjust config).value.metadata config).outcome = .ok metadata ∧
        let registry := (workspace.registry.adjust config).value.annotated config metadata
        let merged := registry.toList.foldl (mergeNext config) (workspace.files, 0)
        finished = { registry := registry, files := merged.1 } ∧
          summary =
            { classes := registry.size
              properties := propertyCount registry
              declarations := metadata.foldl (fun count entry => count + entry.2.size) 0
              methodsAdded := merged.2 } := by
  rw [value_generate, Registry.value_annotate]
  cases ((workspace.registry.adjust config).value.metadata config).outcome with
  | error error => simp
  | ok metadata =>
      simp only [value_mergeAll, Prod.mk.injEq, Except.ok.injEq, exists_eq_left']
      exact and_congr eq_comm eq_comm

/-- A generation that ended well has found all metadata and merged every class. -/
theorem exists_of_generate_eq_ok
    (ended : (workspace.generate config).value = (finished, .ok summary)) :
    ∃ metadata, ((workspace.registry.adjust config).value.metadata config).outcome = .ok metadata ∧
      finished.registry = (workspace.registry.adjust config).value.annotated config metadata ∧
      finished.files =
        (finished.registry.toList.foldl (mergeNext config) (workspace.files, 0)).1 := by
  obtain ⟨metadata, found, rfl, _⟩ := generate_eq_ok_iff.mp ended
  exact ⟨metadata, found, rfl, rfl⟩

/-- A class after a generation is one of before: adjusted, with its metadata, and with its
constructors marked by what the attached classes say. -/
theorem exists_of_mem_finished
    (ended : (workspace.generate config).value = (finished, .ok summary))
    (member : cls ∈ finished.registry.toList) :
    ∃ before ∈ workspace.registry.toList, ∃ (attached : Registry) (described : Metadata),
      (before.adjusted config).attach described ∈ attached.toList ∧
      cls = ((before.adjusted config).attach described).markConstructors config
        (attached.hierarchy config) := by
  obtain ⟨metadata, found, registry, _⟩ := exists_of_generate_eq_ok ended
  rw [registry] at member
  obtain ⟨adjusted, memberAdjusted, described, memberAttached, same⟩ :=
    Registry.exists_of_mem_annotated found member
  rw [Registry.toList_adjust] at memberAdjusted
  obtain ⟨before, memberBefore, rfl⟩ := List.mem_map.mp memberAdjusted
  exact ⟨before, memberBefore, _, described, memberAttached, same⟩

/-- Every class whose adjustments are made is in the registry after a generation, with its
own metadata and marked by what the adjusted classes say of its ancestors. -/
theorem exists_mem_finished
    (ended : (workspace.generate config).value = (finished, .ok summary))
    (member : cls ∈ (workspace.registry.adjust config).value.toList) :
    ∃ done ∈ finished.registry.toList, ∃ described,
      (Metadata.ofClass config (workspace.registry.adjust config).value cls).outcome =
        .ok described ∧
      done = (cls.attach described).markConstructors config
        ((workspace.registry.adjust config).value.hierarchy config) := by
  obtain ⟨metadata, found, registry, _⟩ := exists_of_generate_eq_ok ended
  rw [registry]
  obtain ⟨described, ofClass, memberAnnotated⟩ := Registry.exists_mem_annotated found member
  exact ⟨_, memberAnnotated, described, ofClass, rfl⟩

/-- The file of a class after a generation is that of the class merged into what was
there. -/
theorem file_finished (ended : (workspace.generate config).value = (finished, .ok summary))
    (member : cls ∈ finished.registry.toList) :
    finished.files.file cls.name = cls.mergeFile config (workspace.files.file cls.name) := by
  obtain ⟨metadata, _, _, files⟩ := exists_of_generate_eq_ok ended
  rw [files]
  exact file_foldl_mergeNext finished.registry.nodup_keys member (workspace.files, 0)

/-- The declaration of a class in the file of its name. -/
def declaration? (workspace : Workspace) (config : Config) (cls : Class) :
    Option ClassDeclaration :=
  (workspace.files.file cls.name).classIn? (config.namespaceFor cls) cls.name

/-- Where a class is declared depends on its name, and on whether it is an enumeration. -/
theorem declaration?_congr {other : Class} (named : other.name = cls.name)
    (isEnum : other.isEnum = cls.isEnum) (workspace : Workspace) (config : Config) :
    workspace.declaration? config other = workspace.declaration? config cls := by
  rw [declaration?, declaration?, Config.namespaceFor, Config.namespaceFor, named, isEnum]

/-- The declaration of a class after a generation is that of the class merged into what
was there. -/
theorem declaration?_finished
    (ended : (workspace.generate config).value = (finished, .ok summary))
    (member : cls ∈ finished.registry.toList) :
    finished.declaration? config cls =
      some (cls.mergeDeclaration config
        ((workspace.declaration? config cls).getD { name := cls.name })) := by
  rw [declaration?, file_finished ended member]
  exact cls.classIn?_mergeFile config (workspace.files.file cls.name)

/-- The declaration of a class whose adjustments are made is that of a class which is the
same but for what a generation attaches and marks, merged into what was there. -/
theorem exists_mergeDeclaration_finished
    (ended : (workspace.generate config).value = (finished, .ok summary))
    (member : cls ∈ (workspace.registry.adjust config).value.toList) :
    ∃ done : Class,
      finished.declaration? config cls = some (done.mergeDeclaration config
        ((workspace.declaration? config cls).getD { name := cls.name })) ∧
      done.bare = cls.bare ∧
      done.parentHasConstructor =
        (((workspace.registry.adjust config).value.hierarchy config).inheritsConstructor
          cls.name).getD cls.parentHasConstructor := by
  obtain ⟨done, memberDone, described, _, same⟩ := exists_mem_finished ended member
  have named : done.name = cls.name := by
    rw [same]
    rfl
  have isEnum : done.isEnum = cls.isEnum := by
    rw [same]
    rfl
  have declared := declaration?_finished ended memberDone
  rw [declaration?_congr named isEnum, declaration?_congr named isEnum, named] at declared
  refine ⟨done, declared, ?_, ?_⟩
  · rw [same]
    exact cls.bare_attach described
  · rw [same]
    rfl

end Workspace

end EntityGen
