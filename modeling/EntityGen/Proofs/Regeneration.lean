import EntityGen.Proofs.Annotation
import EntityGen.Proofs.Generation
import EntityGen.Proofs.Merge.Settled

/-!
# Generating twice

A generation that ends well can be repeated with the same configuration: it ends well
again, changes neither the classes nor the files, and adds no method
(`Workspace.generate_again`).  The classes are those of the first time because an
annotation repeated on adjusted classes has no effect, and then every class is settled
in its file.
-/

namespace EntityGen

/-! ## Merging all classes twice -/

namespace SourceTree

/-- A class is settled in its own file, which exists. -/
structure Settled (tree : SourceTree) (config : Config) (cls : Class) : Prop where
  present : tree.contains cls.name
  settled : cls.Settled config (tree.file cls.name)

variable {tree : SourceTree} {config : Config} {cls other : Class}

theorem insert_file (present : tree.contains cls.name) :
    tree.insert (cls.name, tree.file cls.name) = tree :=
  Table.insert_eq_self (get?_of_contains present)

end SourceTree

namespace Workspace

variable {tree : SourceTree} {config : Config} {cls other : Class}

theorem settled_mergeNext (config : Config) (progress : SourceTree × Nat) (cls : Class) :
    (mergeNext config progress cls).1.Settled config cls where
  present := SourceTree.contains_insert_self progress.1 cls.name _
  settled := by
    rw [file_mergeNext_self]
    exact Class.settled_mergeFile cls config (progress.1.file cls.name)

theorem settled_mergeNext_of_ne {progress : SourceTree × Nat}
    (settled : progress.1.Settled config cls) (different : other.name ≠ cls.name) :
    (mergeNext config progress other).1.Settled config cls where
  present := by
    rw [mergeNext, SourceTree.value_mergeClass, SourceTree.contains_insert_of_ne _ different]
    exact settled.present
  settled := by
    rw [file_mergeNext_of_ne different]
    exact settled.settled

/-- Merging classes of distinct names settles each of them in its file. -/
theorem settled_foldl {classes : List Class} (distinct : (classes.map Class.name).Nodup)
    (member : cls ∈ classes) (progress : SourceTree × Nat) :
    (classes.foldl (mergeNext config) progress).1.Settled config cls := by
  apply Class.stable_foldl (fun progress cls => progress.1.Settled config cls) _ _ distinct member
    progress
  · intro progress cls
    exact settled_mergeNext config progress cls
  · intro progress cls other settled different
    exact settled_mergeNext_of_ne settled different

theorem mergeNext_of_settled (settled : tree.Settled config cls) (methods : Nat) :
    mergeNext config (tree, methods) cls = (tree, methods) := by
  rw [mergeNext, SourceTree.value_mergeClass, settled.settled.mergeFile_eq,
    settled.settled.mergeOutcome_eq, SourceTree.insert_file settled.present]
  rfl

theorem foldl_of_settled {classes : List Class}
    (settled : ∀ cls ∈ classes, tree.Settled config cls) (methods : Nat) :
    classes.foldl (mergeNext config) (tree, methods) = (tree, methods) := by
  induction classes with
  | nil => rfl
  | cons cls rest ih =>
      rw [List.foldl_cons, mergeNext_of_settled (settled cls List.mem_cons_self)]
      exact ih fun later member => settled later (List.mem_cons_of_mem cls member)

/-- Merging all classes of a registry again has no effect. -/
theorem mergeAll_again (config : Config) (registry : Registry) (tree : SourceTree) :
    let merged := (mergeAll config registry.toList tree).value.1
    (mergeAll config registry.toList merged).value = (merged, 0) := by
  intro merged
  have distinct : (registry.toList.map Class.name).Nodup := registry.nodup_keys
  have settled : ∀ cls ∈ registry.toList, merged.Settled config cls := by
    intro cls member
    rw [show merged = (registry.toList.foldl (mergeNext config) (tree, 0)).1 from
      congrArg Prod.fst (value_mergeAll config registry.toList tree)]
    exact settled_foldl distinct member (tree, 0)
  rw [value_mergeAll, foldl_of_settled settled]

/-! ## The whole generation twice -/

/-- A generation that ended well can be repeated on what it left: it ends well with
the same counts, changes nothing and adds no method. -/
theorem generate_again {config : Config} {workspace finished : Workspace} {summary : Summary}
    (ended : (workspace.generate config).value = (finished, .ok summary)) :
    (finished.generate config).value = (finished, .ok { summary with methodsAdded := 0 }) := by
  have adjusted : ∀ cls ∈ (workspace.registry.adjust config).value.toList,
      cls.adjusted config = cls := by
    intro cls member
    obtain ⟨original, _, rfl⟩ := List.mem_map.mp member
    exact original.adjusted_adjusted config
  rw [value_generate] at ended
  rcases annotated : ((workspace.registry.adjust config).value.annotate config).value with
    ⟨registry, error | declarations⟩
  · rw [annotated] at ended
    cases ended
  · rw [annotated] at ended
    cases ended
    have again := Registry.annotate_again adjusted annotated
    rw [value_generate, again]
    simp only [mergeAll_again]

/-- Two classes that are each other's parent; an identifier that is received and then
configured; a getter that was written by hand. -/
theorem generate_again_cycle :
    let config : Config :=
      { classes := .ofList
          [("Person",
            { properties := .ofList
                [("id", { columnOptions := .ofList [("length", .bool true)] })] })] }
    let workspace : Workspace :=
      { registry := .ofList
          [{ name := "Agent", parent := .named "Person" },
            { name := "Person"
              parent := .named "Agent"
              properties := .ofList
                [{ name := "name", range := some (.ofUri "https://schema.org/Text") },
                  { name := "knows"
                    cardinality := .manyToMany
                    isArray := true
                    range := some (.ofUri "Person") }] }]
        files := .ofList
          [("Person",
            { namespaces :=
                [{ name := "App\\Entity"
                   classes := [{ name := "Person", methods := [{ name := "getName" }] }] }] })] }
    let finished := (workspace.generate config).value.1
    (workspace.generate config).value = (finished, .ok ⟨2, 4, 12, 7⟩) ∧ finished ≠ workspace ∧
      (finished.generate config).value = (finished, .ok ⟨2, 4, 12, 0⟩) := by
  intro config workspace finished
  have ended : (workspace.generate config).value = (finished, .ok ⟨2, 4, 12, 7⟩) := by
    have counted : (workspace.generate config).value.2 = .ok ⟨2, 4, 12, 7⟩ := by
      apply eq_ok_of_toOption
      decide +kernel
    exact Prod.ext rfl counted
  exact ⟨ended, by decide +kernel, generate_again ended⟩

end Workspace

end EntityGen
