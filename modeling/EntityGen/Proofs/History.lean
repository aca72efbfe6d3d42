import EntityGen.Proofs.Generation
import EntityGen.Proofs.Merge.Survival

/-!
# What survives a history

A history of source files is a list of generations and of single merges.  Every step
has a configuration and a registry of its own, and each may fail.  Whatever the steps
are, what a merge keeps of one file (`SourceFile.Survives`) is kept of all files by a
whole history (`survives_foldl_run`), and a field changes only when some step merged a
class that models it into its file.
-/

namespace EntityGen

namespace SourceTree

/-- What stays of the files; `modeled` tells the names of files, of declarations in
them and of the fields that were generated anew. -/
structure Survives (modeled : String → String → String → Prop) (before after : SourceTree) :
    Prop where
  present : ∀ name, before.contains name → after.contains name
  files : ∀ name, SourceFile.Survives (modeled name) (before.file name) (after.file name)

variable {modeled allowed : String → String → String → Prop}

theorem Survives.refl (modeled : String → String → String → Prop) (tree : SourceTree) :
    tree.Survives modeled tree where
  present _ holds := holds
  files name := .refl (modeled name) (tree.file name)

theorem Survives.trans {first second third : SourceTree}
    (left : first.Survives modeled second) (right : second.Survives modeled third) :
    first.Survives modeled third where
  present name holds := right.present name (left.present name holds)
  files name := (left.files name).trans (right.files name)

theorem Survives.mono
    (weaken : ∀ file decl field, modeled file decl field → allowed file decl field)
    {before after : SourceTree} (survives : before.Survives modeled after) :
    before.Survives allowed after where
  present := survives.present
  files name := (survives.files name).mono (weaken name)

/-- Storing a file that keeps what the one of its name held takes nothing away. -/
theorem survives_insert {tree : SourceTree} {name : String} {file : SourceFile}
    (kept : SourceFile.Survives (modeled name) (tree.file name) file) :
    tree.Survives modeled (tree.insert (name, file)) where
  present := by
    intro other present
    by_cases same : name = other
    · rw [← same]
      exact contains_insert_self tree name file
    · rw [contains_insert_of_ne tree same file]
      exact present
  files := by
    intro other
    by_cases same : name = other
    · rw [← same, file_insert_self]
      exact kept
    · rw [file_insert_of_ne tree same file]
      exact .refl (modeled other) (tree.file other)

end SourceTree

namespace Workspace

theorem survives_foldl_mergeNext {modeled : String → String → String → Prop} (config : Config)
    (classes : List Class)
    (merged : ∀ cls ∈ classes, ∀ decl field, cls.Models decl field → modeled cls.name decl field)
    (progress : SourceTree × Nat) :
    progress.1.Survives modeled (classes.foldl (mergeNext config) progress).1 := by
  induction classes generalizing progress with
  | nil => exact .refl modeled progress.1
  | cons cls rest ih =>
      have head : progress.1.Survives modeled (mergeNext config progress cls).1 := by
        apply SourceTree.survives_insert
        exact (cls.survives_mergeFile config _).mono (merged cls List.mem_cons_self)
      have tail := ih (fun cls member => merged cls (List.mem_cons_of_mem _ member))
        (mergeNext config progress cls)
      exact head.trans tail

end Workspace

/-! ## Histories -/

/-- What is done to the source files at once. -/
inductive Step where
  /-- Generate from a registry. -/
  | generation (config : Config) (registry : Registry)
  /-- Merge the class of a name into the file of another name. -/
  | merge (config : Config) (registry : Registry) (className fileName : String)

namespace Step

/-- The source files after a step.  A merge that fails still opens its file. -/
def run (tree : SourceTree) : Step → SourceTree
  | .generation config registry =>
      (Workspace.generate config { registry := registry, files := tree }).value.1.files
  | .merge config registry className fileName =>
      match (registry.mergeInto config className (tree.file fileName)).outcome with
      | .ok (file, _) => tree.insert (fileName, file)
      | .error _ => tree.insert (fileName, tree.file fileName)

/-- The classes that a step merges, each with the name of the file. -/
def merged : Step → List (String × Class)
  | .generation config registry =>
      match ((registry.adjust config).value.annotate config).value with
      | (annotated, .ok _) => annotated.toList.map fun cls => (cls.name, cls)
      | (_, .error _) => []
  | .merge _ registry className fileName =>
      (registry.get? className).toList.map fun cls => (fileName, cls)

/-- The fields that a step generates anew. -/
def Models (step : Step) (file decl field : String) : Prop :=
  ∃ cls, (file, cls) ∈ step.merged ∧ cls.Models decl field

/-- A step takes nothing away, and generates anew no field but those that a class it
merges models. -/
theorem survives_run (step : Step) (tree : SourceTree) :
    tree.Survives step.Models (step.run tree) := by
  cases step with
  | generation config registry =>
      simp only [run, Workspace.value_generate]
      rcases outcome : ((registry.adjust config).value.annotate config).value with
        ⟨annotated, error | declarations⟩
      · exact .refl _ tree
      · simp only [Workspace.value_mergeAll]
        apply Workspace.survives_foldl_mergeNext config annotated.toList _ (tree, 0)
        intro cls member decl field models
        refine ⟨cls, ?_, models⟩
        simp only [merged, outcome]
        exact List.mem_map.mpr ⟨cls, member, rfl⟩
  | merge config registry className fileName =>
      cases found : registry.get? className with
      | none =>
          simp only [run, Registry.mergeInto, found, Fallible.outcome_throw]
          exact SourceTree.survives_insert (.refl _ (tree.file fileName))
      | some cls =>
          simp only [run, Registry.mergeInto, found, Fallible.outcome_lift, Class.value_merge]
          apply SourceTree.survives_insert
          apply (cls.survives_mergeFile config (tree.file fileName)).mono
          intro decl field models
          refine ⟨cls, ?_, models⟩
          simp [merged, found]

/-- A history takes nothing away, and generates anew no field but those that a class
models which some step merges into that file. -/
theorem survives_foldl_run (steps : List Step) (tree : SourceTree) :
    tree.Survives (fun file decl field => ∃ step ∈ steps, step.Models file decl field)
      (steps.foldl run tree) := by
  induction steps generalizing tree with
  | nil => exact .refl _ tree
  | cons step rest ih =>
      apply SourceTree.Survives.trans
      · apply (step.survives_run tree).mono
        intro file decl field models
        exact ⟨step, List.mem_cons_self, models⟩
      · apply (ih (step.run tree)).mono
        intro file decl field models
        obtain ⟨later, member, modelsField⟩ := models
        exact ⟨later, List.mem_cons_of_mem step member, modelsField⟩

end Step

end EntityGen
