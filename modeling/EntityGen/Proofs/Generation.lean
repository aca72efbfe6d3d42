import EntityGen.Generation
import EntityGen.Table.Lemmas

/-!
# Results of a generation

The result of a generation, free of its events: the files that a series of merges
leaves, and the workspace and summary that follow from the annotated registry
(`value_generate`).  A merge changes the file of its class and no other.
-/

namespace EntityGen

namespace SourceTree

variable {tree : SourceTree} {name other : String} {file : SourceFile}

@[simp] theorem file_insert_self (tree : SourceTree) (name : String) (file : SourceFile) :
    SourceTree.file (tree.insert (name, file)) name = file := by
  have found := tree.get?_insert_self (name, file)
  simp only [SourceTree.file]
  rw [show (tree.insert (name, file)).get? name = some (name, file) from found]
  rfl

theorem file_insert_of_ne (tree : SourceTree) (different : name ≠ other) (file : SourceFile) :
    SourceTree.file (tree.insert (name, file)) other = tree.file other := by
  simp only [SourceTree.file]
  rw [tree.get?_insert_of_ne (a := (name, file)) different]

theorem contains_insert_self (tree : SourceTree) (name : String) (file : SourceFile) :
    (tree.insert (name, file)).contains name := by
  have found := tree.get?_insert_self (name, file)
  simp only [Table.contains]
  rw [show (tree.insert (name, file)).get? name = some (name, file) from found]
  rfl

theorem contains_insert_of_ne (tree : SourceTree) (different : name ≠ other)
    (file : SourceFile) : (tree.insert (name, file)).contains other = tree.contains other := by
  simp only [Table.contains]
  rw [tree.get?_insert_of_ne (a := (name, file)) different]

theorem get?_of_contains (present : tree.contains name) :
    tree.get? name = some (name, tree.file name) := by
  obtain ⟨entry, found⟩ := Option.isSome_iff_exists.mp present
  have named : entry.1 = name := (tree.get?_eq_some_iff.mp found).2
  rw [file, found, ← named]
  rfl

@[simp] theorem value_mergeClass (tree : SourceTree) (config : Config) (cls : Class) :
    (tree.mergeClass config cls).value =
      (tree.insert (cls.name, cls.mergeFile config (tree.file cls.name)),
        cls.mergeOutcome config (cls.declarationIn config (tree.file cls.name))) := rfl

end SourceTree

namespace Workspace

/-- The result of merging one class after the files of others. -/
def mergeNext (config : Config) (progress : SourceTree × Nat) (cls : Class) : SourceTree × Nat :=
  let merged := (progress.1.mergeClass config cls).value
  (merged.1, progress.2 + merged.2.methodsAdded)

theorem file_mergeNext_self (config : Config) (progress : SourceTree × Nat) (cls : Class) :
    (mergeNext config progress cls).1.file cls.name =
      cls.mergeFile config (progress.1.file cls.name) := by
  rw [mergeNext, SourceTree.value_mergeClass, SourceTree.file_insert_self]

theorem file_mergeNext_of_ne {config : Config} {cls : Class} {name : String}
    (different : cls.name ≠ name) (progress : SourceTree × Nat) :
    (mergeNext config progress cls).1.file name = progress.1.file name := by
  rw [mergeNext, SourceTree.value_mergeClass, SourceTree.file_insert_of_ne _ different]

theorem value_mergeAll (config : Config) (classes : List Class) (tree : SourceTree) :
    (mergeAll config classes tree).value = classes.foldl (mergeNext config) (tree, 0) := by
  rw [mergeAll, Logged.value_foldlM]
  rfl

/-- A generation ends in the error of its annotation, or merges every annotated
class. -/
theorem value_generate (config : Config) (workspace : Workspace) :
    (workspace.generate config).value =
      match ((workspace.registry.adjust config).value.annotate config).value with
      | (registry, .error error) => ({ workspace with registry := registry }, .error error)
      | (registry, .ok declarations) =>
          let merged := (mergeAll config registry.toList workspace.files).value
          ({ registry := registry, files := merged.1 },
            .ok
              { classes := registry.size
                properties := propertyCount registry
                declarations := declarations
                methodsAdded := merged.2 }) := by
  simp only [generate, Logged.value_bind]
  obtain ⟨registry, result⟩ := ((workspace.registry.adjust config).value.annotate config).value
  cases result with
  | error error => rfl
  | ok declarations => rfl

end Workspace

end EntityGen
