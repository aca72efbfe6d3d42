import EntityGen.Source.File

/-!
# Changes of source files

A change reaches the first element of a kind and nothing else
(`replacesFirst_changeFirst`): elements of other kinds are found as before
(`find?_changeFirst_of_disjoint`), and a change that has no effect on the found element
has none on the list (`changeFirst_eq_self`).  It keeps distinct names distinct
(`nodup_changeFirst`).
The imports of a namespace only grow, by those that it lacks
(`imports_foldl_addImport_eq`), and a symbol that is imported is never imported again
(`foldl_addImport_eq_self`).
-/

namespace EntityGen

section ChangeFirst

variable {α : Type} {kind other : α → Bool} {fresh : α} {change : α → α}

/-- A change among the elements of one kind is not seen by a look-up of another. -/
theorem find?_changeFirst_of_disjoint (unlike : ∀ a, kind a → other a = false)
    (keeps : ∀ a, kind a → kind (change a)) (isFresh : kind fresh) (elements : List α) :
    (changeFirst kind fresh change elements).find? other = elements.find? other := by
  have unseen : ∀ a, kind a → other (change a) = false := by
    intro a isKind
    exact unlike (change a) (keeps a isKind)
  induction elements with
  | nil => simp [changeFirst, unseen fresh isFresh]
  | cons a rest ih =>
      by_cases isKind : kind a
      · simp [changeFirst, isKind, unlike a isKind, unseen a isKind]
      · simp [changeFirst, isKind, List.find?_cons, ih]

/-- A change that leaves the found element alone leaves the list alone. -/
theorem changeFirst_eq_self (fresh : α) {found : α} {elements : List α}
    (lookup : elements.find? kind = some found) (same : change found = found) :
    changeFirst kind fresh change elements = elements := by
  induction elements with
  | nil => simp at lookup
  | cons a rest ih =>
      by_cases isKind : kind a
      · have first : a = found := by simpa [isKind] using lookup
        subst found
        simp [changeFirst, isKind, same]
      · have later : rest.find? kind = some found := by simpa [isKind] using lookup
        simp [changeFirst, isKind, ih later]

/-- Two lists are alike but for one place.  There stands the first element of a kind; where
there is none, the second list has one more at the end, in place of a fresh one. -/
inductive ReplacesFirst (kind : α → Bool) (fresh : α) : α → α → List α → List α → Prop where
  | found {a b : α} {before after : List α} :
      kind a → (∀ passed ∈ before, ¬kind passed) →
        ReplacesFirst kind fresh a b (before ++ a :: after) (before ++ b :: after)
  | missing {b : α} {elements : List α} :
      (∀ passed ∈ elements, ¬kind passed) →
        ReplacesFirst kind fresh fresh b elements (elements ++ [b])

theorem ReplacesFirst.cons {a b first : α} {elements changed : List α} (unlike : ¬kind first)
    (replaces : ReplacesFirst kind fresh a b elements changed) :
    ReplacesFirst kind fresh a b (first :: elements) (first :: changed) := by
  cases replaces with
  | found isKind passed => exact .found isKind (List.forall_mem_cons.mpr ⟨unlike, passed⟩)
  | missing passed => exact .missing (List.forall_mem_cons.mpr ⟨unlike, passed⟩)

/-- A change replaces what is found, and nothing else. -/
theorem replacesFirst_changeFirst (kind : α → Bool) (fresh : α) (change : α → α)
    (elements : List α) :
    ReplacesFirst kind fresh ((elements.find? kind).getD fresh)
      (change ((elements.find? kind).getD fresh)) elements
      (changeFirst kind fresh change elements) := by
  induction elements with
  | nil => exact .missing (by simp)
  | cons a rest ih =>
      by_cases isKind : kind a
      · rw [changeFirst, if_pos isKind, List.find?_cons_of_pos isKind, Option.getD_some]
        have nonePassed : ∀ passed ∈ ([] : List α), ¬kind passed := by simp
        exact .found isKind nonePassed
      · rw [changeFirst, if_neg isKind, List.find?_cons_of_neg isKind]
        exact ih.cons isKind

end ChangeFirst

section Names

variable {α : Type} {kind : α → Bool} {fresh : α} {change : α → α} {ν : Type} {name : α → ν}

/-- A change leaves the names as they are, but for that of a fresh element. -/
theorem map_changeFirst (keeps : ∀ a, name (change a) = name a) (elements : List α) :
    (changeFirst kind fresh change elements).map name =
      if elements.any kind then elements.map name else elements.map name ++ [name fresh] := by
  induction elements with
  | nil => simp [changeFirst, keeps]
  | cons a rest ih =>
      by_cases isKind : kind a
      · simp [changeFirst, isKind, keeps]
      · simp only [changeFirst, isKind, Bool.false_eq_true, if_false, List.map_cons, ih,
          List.any_cons, Bool.false_or]
        split <;> rfl

/-- A change at the first element of a name keeps distinct names distinct. -/
theorem nodup_changeFirst {elements : List α} (keeps : ∀ a, name (change a) = name a)
    (isKind : ∀ a, kind a ↔ name a = name fresh) (distinct : (elements.map name).Nodup) :
    ((changeFirst kind fresh change elements).map name).Nodup := by
  rw [map_changeFirst keeps]
  split
  next => exact distinct
  next absent =>
    have missing : ∀ a ∈ elements, name a ≠ name fresh := by simpa [isKind] using absent
    rw [List.nodup_append]
    refine ⟨distinct, by simp, ?_⟩
    simpa using missing

/-- What holds of every element and of a fresh one, and is kept by a change, holds after it. -/
theorem forall_mem_changeFirst {holds : α → Prop} {elements : List α}
    (kept : ∀ a, holds a → holds (change a)) (ofFresh : holds fresh)
    (each : ∀ a ∈ elements, holds a) : ∀ a ∈ changeFirst kind fresh change elements, holds a := by
  induction elements with
  | nil => simpa [changeFirst] using kept fresh ofFresh
  | cons a rest ih =>
      obtain ⟨first, later⟩ := List.forall_mem_cons.mp each
      rw [changeFirst]
      split
      · exact List.forall_mem_cons.mpr ⟨kept a first, later⟩
      · exact List.forall_mem_cons.mpr ⟨first, ih later⟩

/-- A change without effect at most adds the fresh element. -/
theorem changeFirst_id (kind : α → Bool) (fresh : α) (elements : List α) :
    changeFirst kind fresh id elements =
      if elements.any kind then elements else elements ++ [fresh] := by
  have mapped : (changeFirst kind fresh id elements).map id = _ :=
    map_changeFirst (fun _ => rfl) elements
  simpa using mapped

end Names

namespace Namespace

variable {space : Namespace} {imported : Import}

@[simp] theorem name_addImport (space : Namespace) (imported : Import) :
    (space.addImport imported).name = space.name := by
  rw [addImport]
  split <;> rfl

@[simp] theorem classes_addImport (space : Namespace) (imported : Import) :
    (space.addImport imported).classes = space.classes := by
  rw [addImport]
  split <;> rfl

theorem imports_addImport (space : Namespace) (imported : Import) :
    (space.addImport imported).imports =
      changeFirst (·.name = imported.name) imported id space.imports := by
  rw [changeFirst_id, addImport, hasImport]
  split <;> rfl

theorem imports_prefix_addImport (space : Namespace) (imported : Import) :
    space.imports <+: (space.addImport imported).imports := by
  rw [addImport]
  split
  · exact List.prefix_refl _
  · exact List.prefix_append _ _

@[simp] theorem hasImport_addImport (space : Namespace) (imported : Import) (name : String) :
    (space.addImport imported).hasImport name =
      (space.hasImport name || decide (imported.name = name)) := by
  rw [addImport]
  split
  next present =>
    by_cases same : imported.name = name
    · simp [← same, present]
    · simp [same]
  next absent => simp [hasImport]

theorem addImport_eq_self (present : space.hasImport imported.name) :
    space.addImport imported = space := by
  simp [addImport, present]

@[simp] theorem name_foldl_addImport (imports : List Import) (space : Namespace) :
    (imports.foldl addImport space).name = space.name := by
  induction imports generalizing space with
  | nil => rfl
  | cons imported rest ih => simp [ih]

@[simp] theorem classes_foldl_addImport (imports : List Import) (space : Namespace) :
    (imports.foldl addImport space).classes = space.classes := by
  induction imports generalizing space with
  | nil => rfl
  | cons imported rest ih => simp [ih]

theorem imports_prefix_foldl_addImport (imports : List Import) (space : Namespace) :
    space.imports <+: (imports.foldl addImport space).imports := by
  induction imports generalizing space with
  | nil => exact List.prefix_refl _
  | cons imported rest ih =>
      exact (imports_prefix_addImport space imported).trans (ih (space.addImport imported))

/-- After a series of imports exactly the old and the new symbols are imported. -/
theorem hasImport_foldl_addImport (imports : List Import) (space : Namespace) (name : String) :
    (imports.foldl addImport space).hasImport name =
      (space.hasImport name || imports.any (·.name = name)) := by
  induction imports generalizing space with
  | nil => simp
  | cons imported rest ih => simp [ih, Bool.or_assoc]

/-- The imports of a list that a namespace lacks: of each symbol that it does not import, the
first one. -/
def missingImports (space : Namespace) (imports : List Import) : List Import :=
  imports.filter fun imported =>
    ¬space.hasImport imported.name ∧ imports.find? (·.name = imported.name) = some imported

theorem missingImports_cons {imports : List Import} (fresh : imported ∉ imports)
    (space : Namespace) :
    space.missingImports (imported :: imports) =
      if space.hasImport imported.name then space.missingImports imports
      else imported :: (space.addImport imported).missingImports imports := by
  have later : ∀ other ∈ imports,
      (imported :: imports).find? (·.name = other.name) = some other ↔
        imported.name ≠ other.name ∧ imports.find? (·.name = other.name) = some other := by
    intro other member
    by_cases same : imported.name = other.name
    · have different : imported ≠ other := fun equal => fresh (equal ▸ member)
      simp [same, different]
    · simp [same]
  rw [missingImports]
  split
  next present =>
    rw [List.filter_cons_of_neg (by simp [present])]
    apply List.filter_congr
    intro other member
    by_cases same : imported.name = other.name
    · simp [← same, present]
    · simp [same]
  next absent =>
    rw [List.filter_cons_of_pos (by simp [absent])]
    congr 1
    apply List.filter_congr
    intro other member
    simp [later other member, and_assoc]

/-- No two of the imports that a namespace lacks are of one symbol. -/
theorem nodup_missingImports {imports : List Import} (distinct : imports.Nodup)
    (space : Namespace) : ((space.missingImports imports).map Import.name).Nodup := by
  rw [List.nodup_iff_pairwise_ne, List.pairwise_map]
  apply (distinct.filter _).imp_of_mem
  intro first second memberFirst memberSecond different same
  simp only [List.mem_filter, decide_eq_true_iff] at memberFirst memberSecond
  have found := memberFirst.2.2
  rw [same, memberSecond.2.2] at found
  exact different (Option.some.inj found).symm

/-- A series of different imports adds those that the namespace lacks. -/
theorem imports_foldl_addImport_eq {imports : List Import} (distinct : imports.Nodup)
    (space : Namespace) :
    (imports.foldl addImport space).imports = space.imports ++ space.missingImports imports := by
  induction imports generalizing space with
  | nil => simp [missingImports]
  | cons imported rest ih =>
      obtain ⟨fresh, distinctRest⟩ := List.nodup_cons.mp distinct
      rw [List.foldl_cons, ih distinctRest, missingImports_cons fresh]
      split
      next present => rw [addImport_eq_self present]
      next absent => simp [addImport, absent]

/-- Of two imports of a symbol only the first is added. -/
example :
    Namespace.missingImports { name := "App", imports := [⟨"Doctrine", some "ORM"⟩] }
        [⟨"Assert", none⟩, ⟨"Assert", some "Valid"⟩, ⟨"Doctrine", none⟩] =
      [⟨"Assert", none⟩] := by
  decide

theorem foldl_addImport_eq_self {imports : List Import}
    (present : ∀ imported ∈ imports, space.hasImport imported.name) :
    imports.foldl addImport space = space := by
  induction imports with
  | nil => rfl
  | cons imported rest ih =>
      rw [List.foldl_cons, addImport_eq_self (present imported List.mem_cons_self)]
      apply ih
      intro later member
      exact present later (List.mem_cons_of_mem imported member)

end Namespace

end EntityGen
