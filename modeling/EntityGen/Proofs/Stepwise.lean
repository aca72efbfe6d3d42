import EntityGen.Proofs.Regeneration
import Mathlib.Algebra.GroupWithZero.Nat
import Mathlib.Data.List.Dedup

/-!
# A generation by single calls

The stages of a generation can be called one by one: the classes are adjusted, then
annotated, and then merged by their names, each into its own file.  In whatever order the
merges come, and however often a class is merged, the calls leave what a generation leaves
and tell the same (`Workspace.generateStepwise_eq_generate`).

The reason is that merges of different classes do not see each other
(`Workspace.mergeNext_comm`) and a repeated one has no effect
(`Workspace.mergeNext_mergeNext`).
-/

namespace EntityGen

/-! ## Steps whose order and number do not matter -/

section Steps

variable {σ α : Type} [DecidableEq α] {step : σ → α → σ} {elements others : List α}

/-- Steps that commute need not be repeated when repeating one of them has no effect. -/
theorem foldl_dedup (commutes : ∀ a ∈ elements, ∀ b ∈ elements, ∀ state,
      step (step state a) b = step (step state b) a)
    (settles : ∀ state a, step (step state a) a = step state a) (state : σ) :
    elements.dedup.foldl step state = elements.foldl step state := by
  induction elements generalizing state with
  | nil => rfl
  | cons a rest ih =>
      have commutesRest : ∀ b ∈ rest, ∀ c ∈ rest, ∀ state,
          step (step state b) c = step (step state c) b := by
        intro b memberB c memberC
        exact commutes b (List.mem_cons_of_mem a memberB) c (List.mem_cons_of_mem a memberC)
      by_cases again : a ∈ rest
      · -- The step comes again, so that it can be moved to where it is repeated at once.
        have moved : rest.Perm (a :: rest.erase a) := List.perm_cons_erase again
        have inFront (state : σ) :
            rest.foldl step state = (rest.erase a).foldl step (step state a) :=
          moved.foldl_eq' (fun b memberB c memberC state =>
            commutesRest b memberB c memberC state) state
        rw [List.dedup_cons_of_mem again, ih commutesRest, List.foldl_cons, inFront,
          inFront (step state a), settles]
      · rw [List.dedup_cons_of_notMem again, List.foldl_cons, List.foldl_cons, ih commutesRest]

/-- Of steps that commute and that have no effect when repeated, it only matters which of
them are made. -/
theorem foldl_eq_of_mem_iff (commutes : ∀ a ∈ elements, ∀ b ∈ elements, ∀ state,
      step (step state a) b = step (step state b) a)
    (settles : ∀ state a, step (step state a) a = step state a)
    (same : ∀ a, a ∈ elements ↔ a ∈ others) (state : σ) :
    elements.foldl step state = others.foldl step state := by
  have commutesOthers : ∀ a ∈ others, ∀ b ∈ others, ∀ state,
      step (step state a) b = step (step state b) a := by
    intro a memberA b memberB
    exact commutes a ((same a).mpr memberA) b ((same b).mpr memberB)
  have reordered : elements.dedup.Perm others.dedup := by
    rw [List.perm_ext_iff_of_nodup elements.nodup_dedup others.nodup_dedup]
    simpa using same
  rw [← foldl_dedup commutes settles, ← foldl_dedup commutesOthers settles]
  apply reordered.foldl_eq'
  intro a memberA b memberB
  exact commutes a (List.mem_dedup.mp memberA) b (List.mem_dedup.mp memberB)

end Steps

/-! ## Merges by name -/

namespace Registry

/-- A call that merges the class of a name into a file: the file afterwards, which is as it
was when the call fails, and what the call returns. -/
def mergeCall (registry : Registry) (config : Config) (className : String) (file : SourceFile) :
    Logged (SourceFile × Except GenerationError MergeOutcome) := do
  match ← ExceptT.run (registry.mergeInto config className file) with
  | .ok (merged, outcome) => return (merged, .ok outcome)
  | .error error => return (file, .error error)

/-- Merge classes by their names, each into the file of its name, which is opened when it is
missing; with what each call returns. -/
def mergeCalls (registry : Registry) (config : Config) :
    List String → SourceTree → Logged (SourceTree × List (Except GenerationError MergeOutcome))
  | [], tree => pure (tree, [])
  | name :: rest, tree => do
    let (file, result) ← registry.mergeCall config name (tree.file name)
    let (tree, results) ← registry.mergeCalls config rest (tree.insert (name, file))
    return (tree, result :: results)

variable {registry : Registry} {config : Config} {name : String}

theorem contains_of_annotate {annotated : Registry} {declarations : Nat}
    (ended : (registry.annotate config).value = (annotated, .ok declarations)) (name : String) :
    annotated.contains name = registry.contains name := by
  obtain ⟨metadata, _, rfl, _⟩ := annotate_eq_ok_iff.mp ended
  have attached : (registry.attach metadata).contains name = registry.contains name :=
    registry.contains_map _ _ name
  have marked : (registry.annotated config metadata).contains name =
      (registry.attach metadata).contains name :=
    (registry.attach metadata).contains_map
      (fun cls => cls.markConstructors config ((registry.attach metadata).hierarchy config))
      (fun _ => rfl) name
  exact marked.trans attached

/-- The names of all classes find all classes. -/
theorem mem_filterMap_get?_iff {names : List String}
    (named : ∀ name, name ∈ names ↔ registry.contains name) (cls : Class) :
    cls ∈ names.filterMap registry.get? ↔ cls ∈ registry.toList := by
  rw [List.mem_filterMap]
  constructor
  · intro memberNames
    obtain ⟨name, _, found⟩ := memberNames
    exact (registry.get?_eq_some_iff.mp found).1
  · intro member
    have found : registry.get? cls.name = some cls := Table.get?_key_of_mem member
    have present : registry.contains cls.name :=
      Table.contains_iff_mem_keys.mpr (List.mem_map_of_mem member)
    exact ⟨cls.name, (named cls.name).mpr present, found⟩

theorem value_mergeCall_of_unknown (unknown : registry.contains name = false) (config : Config)
    (file : SourceFile) :
    (registry.mergeCall config name file).value = (file, .error (.unknownClass name)) := by
  have missing : registry.get? name = none := by simpa [Table.contains] using unknown
  rw [mergeCall, mergeInto, missing]
  rfl

theorem value_mergeCall_of_some {cls : Class} (found : registry.get? name = some cls)
    (config : Config) (file : SourceFile) :
    (registry.mergeCall config name file).value =
      (cls.mergeFile config file,
        .ok (cls.mergeOutcome config (cls.declarationIn config file))) := by
  rw [mergeCall, mergeInto, found]
  rfl

end Registry

namespace Workspace

/-- The stages of a generation as single calls: adjust the classes, annotate them, and merge
those of the given names.  The calls end with the first stage that fails. -/
def generateStepwise (config : Config) (names : List String) (workspace : Workspace) :
    Logged (Workspace × Except GenerationError
      (Nat × List (Except GenerationError MergeOutcome))) := do
  let adjusted ← workspace.registry.adjust config
  match ← adjusted.annotate config with
  | (registry, .error error) => return ({ workspace with registry := registry }, .error error)
  | (registry, .ok declarations) =>
    let (files, results) ← registry.mergeCalls config names workspace.files
    return ({ registry := registry, files := files }, .ok (declarations, results))

variable {config : Config} {registry : Registry}

theorem mergeNext_mergeNext (config : Config) (progress : SourceTree × Nat) (cls : Class) :
    mergeNext config (mergeNext config progress cls) cls = mergeNext config progress cls :=
  mergeNext_of_settled (settled_mergeNext config progress cls) _

/-- Classes of different names can be merged in either order. -/
theorem mergeNext_comm {cls other : Class} (different : cls.name ≠ other.name) (config : Config)
    (progress : SourceTree × Nat) :
    mergeNext config (mergeNext config progress cls) other =
      mergeNext config (mergeNext config progress other) cls := by
  simp only [mergeNext, SourceTree.value_mergeClass, SourceTree.file_insert_of_ne _ different,
    SourceTree.file_insert_of_ne _ different.symm]
  refine Prod.ext (Table.insert_comm different _) ?_
  exact Nat.add_right_comm _ _ _

/-- Calls for registered classes merge these one after the other. -/
theorem exists_outcomes_mergeCalls (config : Config) {names : List String}
    (registered : ∀ name ∈ names, registry.contains name) (tree : SourceTree) (methods : Nat) :
    ∃ outcomes : List MergeOutcome,
      let merged := (names.filterMap registry.get?).foldl (mergeNext config) (tree, methods)
      (registry.mergeCalls config names tree).value = (merged.1, outcomes.map .ok) ∧
        methods + (outcomes.map MergeOutcome.methodsAdded).sum = merged.2 := by
  induction names generalizing tree methods with
  | nil => exact ⟨[], rfl, rfl⟩
  | cons name rest ih =>
      obtain ⟨cls, found⟩ := Option.isSome_iff_exists.mp (registered name List.mem_cons_self)
      have named : cls.name = name := (registry.get?_eq_some_iff.mp found).2
      subst named
      let outcome := cls.mergeOutcome config (cls.declarationIn config (tree.file cls.name))
      let next := mergeNext config (tree, methods) cls
      have nextMethods : next.2 = methods + outcome.methodsAdded := rfl
      obtain ⟨outcomes, results, added⟩ := ih
        (fun later member => registered later (List.mem_cons_of_mem cls.name member))
        next.1 next.2
      refine ⟨outcome :: outcomes, ?_, ?_⟩
      · simp only [Registry.mergeCalls, Logged.value_bind, Logged.value_pure,
          Registry.value_mergeCall_of_some found, List.filterMap_cons_some found, List.foldl_cons,
          List.map_cons]
        rw [show tree.insert (cls.name, cls.mergeFile config (tree.file cls.name)) = next.1 from
          rfl, results]
      · rw [List.filterMap_cons_some found, List.foldl_cons, List.map_cons, List.sum_cons,
          ← Nat.add_assoc, ← nextMethods]
        exact added

/-- Calls for all classes, in any order and any number, merge what a generation merges. -/
theorem exists_outcomes_of_named (config : Config) {names : List String}
    (named : ∀ name, name ∈ names ↔ registry.contains name) (tree : SourceTree) :
    ∃ outcomes : List MergeOutcome,
      (registry.mergeCalls config names tree).value =
          ((mergeAll config registry.toList tree).value.1, outcomes.map .ok) ∧
        (outcomes.map MergeOutcome.methodsAdded).sum =
          (mergeAll config registry.toList tree).value.2 := by
  obtain ⟨outcomes, results, added⟩ := exists_outcomes_mergeCalls config
    (fun name member => (named name).mp member) tree 0
  have members := Registry.mem_filterMap_get?_iff named
  have commutes : ∀ cls ∈ names.filterMap registry.get?, ∀ other ∈ names.filterMap registry.get?,
      ∀ progress, mergeNext config (mergeNext config progress cls) other =
        mergeNext config (mergeNext config progress other) cls := by
    intro cls member other memberOther progress
    by_cases same : cls.name = other.name
    · rw [registry.eq_of_key_eq ((members cls).mp member) ((members other).mp memberOther) same]
    · exact mergeNext_comm same config progress
  have merged : (names.filterMap registry.get?).foldl (mergeNext config) (tree, 0) =
      (mergeAll config registry.toList tree).value := by
    rw [value_mergeAll]
    exact foldl_eq_of_mem_iff commutes (mergeNext_mergeNext config) members (tree, 0)
  refine ⟨outcomes, ?_, ?_⟩
  · rw [results, merged]
  · rw [← merged, ← added, Nat.zero_add]

theorem value_generateStepwise (config : Config) (names : List String) (workspace : Workspace) :
    (workspace.generateStepwise config names).value =
      match ((workspace.registry.adjust config).value.annotate config).value with
      | (registry, .error error) => ({ workspace with registry := registry }, .error error)
      | (registry, .ok declarations) =>
          let merged := (registry.mergeCalls config names workspace.files).value
          ({ registry := registry, files := merged.1 }, .ok (declarations, merged.2)) := by
  simp only [generateStepwise, Logged.value_bind]
  obtain ⟨registry, result⟩ := ((workspace.registry.adjust config).value.annotate config).value
  cases result with
  | error error => rfl
  | ok declarations => rfl

/-- The stages called one by one, with merges of all classes in any order and each at least
once, leave the workspace that a generation leaves.  They fail when it fails, with the same
error; else the methods added by all merges are those that it counts.  A merge under a name
that no class has fails and leaves the file as it is. -/
theorem generateStepwise_eq_generate (config : Config) (workspace : Workspace)
    {names : List String} (named : ∀ name, name ∈ names ↔ workspace.registry.contains name) :
    (workspace.generateStepwise config names).value.1 = (workspace.generate config).value.1 ∧
      (∀ error, (workspace.generateStepwise config names).value.2 = .error error ↔
        (workspace.generate config).value.2 = .error error) ∧
      (∀ summary, (workspace.generate config).value.2 = .ok summary →
        ∃ outcomes : List MergeOutcome,
          (workspace.generateStepwise config names).value.2 =
              .ok (summary.declarations, outcomes.map .ok) ∧
            (outcomes.map MergeOutcome.methodsAdded).sum = summary.methodsAdded) ∧
      ∀ (registry : Registry) (name : String) (file : SourceFile),
        registry.contains name = false →
          (registry.mergeCall config name file).value = (file, .error (.unknownClass name)) := by
  have unknown : ∀ (registry : Registry) (name : String) (file : SourceFile),
      registry.contains name = false →
        (registry.mergeCall config name file).value = (file, .error (.unknownClass name)) := by
    intro registry name file unregistered
    exact Registry.value_mergeCall_of_unknown unregistered config file
  have stepwise := value_generateStepwise config names workspace
  have generated := value_generate config workspace
  rcases found : ((workspace.registry.adjust config).value.annotate config).value with
    ⟨annotated, error | declarations⟩
  · rw [found] at stepwise generated
    rw [stepwise, generated]
    refine ⟨rfl, ?_, ?_, unknown⟩
    · intro other
      constructor <;> intro ended <;> cases ended <;> rfl
    · intro summary ended
      cases ended
  · rw [found] at stepwise generated
    have namedAnnotated : ∀ name, name ∈ names ↔ annotated.contains name := by
      intro name
      rw [named, Registry.contains_of_annotate found, Registry.contains_adjust]
    obtain ⟨outcomes, results, added⟩ :=
      exists_outcomes_of_named config namedAnnotated workspace.files
    simp only [results] at stepwise
    rw [stepwise, generated]
    refine ⟨rfl, ?_, ?_, unknown⟩
    · intro error
      constructor <;> intro ended <;> cases ended
    · intro summary ended
      cases ended
      exact ⟨outcomes, rfl, added⟩

/-- Two classes that are each other's parent, merged out of order and one of them twice; a
getter that was written by hand; and a name that no class has. -/
theorem generateStepwise_eq_generate_repeated :
    let config : Config := {}
    let workspace : Workspace :=
      { registry := .ofList
          [{ name := "Agent", parent := .named "Person" },
            { name := "Person"
              parent := .named "Agent"
              properties := .ofList
                [{ name := "name", range := some (.ofUri "https://schema.org/Text") },
                  { name := "knows"
                    cardinality := .manyToMany
                    isArray := true
                    range := some (.ofUri "Person") }] }]
        files := .ofList
          [("Person",
            { namespaces :=
                [{ name := "App\\Entity"
                   classes := [{ name := "Person", methods := [{ name := "getName" }] }] }] })] }
    let names := ["Person", "Agent", "Person"]
    let stepwise := (workspace.generateStepwise config names).value
    (∀ name, name ∈ names ↔ workspace.registry.contains name) ∧
      stepwise.1 = (workspace.generate config).value.1 ∧
      (workspace.generate config).value.2 = .ok ⟨2, 4, 12, 7⟩ ∧
      (∃ outcomes : List MergeOutcome,
        stepwise.2 = .ok (12, outcomes.map .ok) ∧
          (outcomes.map MergeOutcome.methodsAdded).sum = 7) ∧
      workspace.registry.contains "Place" = false ∧
      (workspace.registry.mergeCall config "Place" {}).value =
        ({}, .error (.unknownClass "Place")) := by
  intro config workspace names stepwise
  have named : ∀ name, name ∈ names ↔ workspace.registry.contains name := by
    intro name
    have keys : workspace.registry.keys = ["Agent", "Person"] := by decide +kernel
    rw [Table.contains_iff_mem_keys, keys]
    simp only [names, List.mem_cons, List.not_mem_nil]
    tauto
  have counted : (workspace.generate config).value.2 = .ok ⟨2, 4, 12, 7⟩ := by
    apply eq_ok_of_toOption
    decide +kernel
  have unregistered : workspace.registry.contains "Place" = false := by decide +kernel
  obtain ⟨left, _, added, unknown⟩ := generateStepwise_eq_generate config workspace named
  exact ⟨named, left, counted, added _ counted, unregistered,
    unknown workspace.registry "Place" {} unregistered⟩

end Workspace

end EntityGen
