import EntityGen.Proofs.Merge.Loops
import EntityGen.Proofs.Source.Change

/-!
# Settled classes

A class is settled in a source file when a merge finds nothing left to do there.
A merge settles its class (`settled_mergeFile`), a settled class is merged without
effect (`Settled.mergeFile_eq`, `Settled.mergeOutcome_eq`), and merging a class of
another name, which may share the namespace and its imports, leaves it settled
(`Settled.mergeFile_of_ne`).  Hence a run of merges of distinct names settles all of
its classes (`stable_foldl`), and repeated merges into a shared file change nothing.
-/

namespace EntityGen

/-- Elements that were appended because their names were missing are not missing
any more. -/
theorem filter_missing_append {α : Type} (name : α → String) (present items : List α) :
    items.filter (fun item =>
      !(present ++ items.filter fun item => !present.any (name · = name item)).any
        (name · = name item)) = [] := by
  apply List.filter_eq_nil_iff.mpr
  intro item member missing
  simp only [List.any_append, Bool.not_or, Bool.and_eq_true, Bool.not_eq_true'] at missing
  have appended : item ∈ items.filter fun item => !present.any (name · = name item) := by
    rw [List.mem_filter]
    exact ⟨member, by simpa using missing.1⟩
  have unnamed := List.any_eq_false.mp missing.2 item appended
  simp at unnamed

namespace Field

@[simp] theorem name_keepComment (field : Field) (earlier : Option Field) :
    (field.keepComment earlier).name = field.name := rfl

theorem keepComment_keepComment (field : Field) (earlier : Option Field) :
    field.keepComment (some (field.keepComment earlier)) = field.keepComment earlier := by
  cases earlier.bind Field.comment <;> simp [keepComment, Option.or_assoc]

/-- Generated fields that were put in front are the first of their names, so
putting them there again keeps every comment and leaves the rest alone. -/
theorem mergeAll_mergeAll (fields declared : List Field) :
    mergeAll fields (mergeAll fields declared) = mergeAll fields declared := by
  induction fields generalizing declared with
  | nil => rfl
  | cons field rest ih =>
      simp only [mergeAll, List.find?_cons, List.eraseP_cons, name_keepComment, decide_true,
        cond_true]
      rw [keepComment_keepComment, ih]

end Field

namespace Method

theorem appendNew_eq_self {methods : List Method} {method : Method}
    (present : methods.any (·.name = method.name)) : appendNew methods method = methods := by
  simp [appendNew, present]

theorem sublist_foldl_appendNew (added methods : List Method) :
    methods.Sublist (added.foldl appendNew methods) := by
  induction added generalizing methods with
  | nil => exact .refl _
  | cons method rest ih =>
      exact (sublist_appendNew methods method).trans (ih (appendNew methods method))

theorem any_name_appendNew (methods : List Method) (method : Method) :
    (appendNew methods method).any (·.name = method.name) := by
  rw [appendNew]
  split
  next present => exact present
  next absent => simp

theorem any_name_foldl_appendNew {added : List Method} {method : Method} (member : method ∈ added)
    (methods : List Method) :
    (added.foldl appendNew methods).any (·.name = method.name) := by
  induction added generalizing methods with
  | nil => cases member
  | cons first rest ih =>
      rw [List.foldl_cons]
      rcases List.mem_cons.mp member with same | later
      · subst first
        have present := any_name_appendNew methods method
        have kept := sublist_foldl_appendNew rest (appendNew methods method)
        obtain ⟨held, heldMember, named⟩ := List.any_eq_true.mp present
        exact List.any_eq_true.mpr ⟨held, kept.subset heldMember, named⟩
      · exact ih later (appendNew methods first)

theorem find?_foldl_appendNew (added methods : List Method) (name : String) :
    (added.foldl appendNew methods).find? (·.name = name) =
      (methods.find? (·.name = name)).or (added.find? (·.name = name)) := by
  induction added generalizing methods with
  | nil => simp
  | cons method rest ih =>
      rw [List.foldl_cons, ih, appendNew, List.find?_cons]
      by_cases named : method.name = name
      · subst named
        split
        next present =>
          have isSome : (methods.find? (·.name = method.name)).isSome := by
            rw [List.find?_isSome]
            exact List.any_eq_true.mp present
          obtain ⟨first, found⟩ := Option.isSome_iff_exists.mp isSome
          simp [found]
        next absent => simp
      · split <;> simp [named]

/-- Methods of distinct names stay so when others are appended. -/
theorem nodup_foldl_appendNew {methods : List Method} (distinct : (methods.map Method.name).Nodup)
    (added : List Method) : ((added.foldl appendNew methods).map Method.name).Nodup := by
  induction added generalizing methods with
  | nil => exact distinct
  | cons method rest ih =>
      apply ih
      rw [appendNew]
      split
      next => exact distinct
      next absent =>
        have fresh : ∀ held ∈ methods, held.name ≠ method.name := by simpa using absent
        rw [List.map_append, List.nodup_append]
        refine ⟨distinct, by simp, ?_⟩
        simpa using fresh

/-- Methods whose names are all there are not appended again. -/
theorem foldl_appendNew_eq_self {added methods : List Method}
    (present : ∀ method ∈ added, methods.any (·.name = method.name)) :
    added.foldl appendNew methods = methods := by
  induction added with
  | nil => rfl
  | cons method rest ih =>
      rw [List.foldl_cons, appendNew_eq_self (present method List.mem_cons_self)]
      apply ih
      intro later member
      exact present later (List.mem_cons_of_mem method member)

end Method

@[simp] theorem Parent.declared_declared (parent : Parent) (extended : Option String) :
    parent.declared (parent.declared extended) = parent.declared extended := by
  cases parent <;> rfl

theorem ClassDeclaration.isSome_constructor? (decl : ClassDeclaration) :
    decl.constructor?.isSome = decl.methods.any (·.name = constructorName) := by
  rw [Bool.eq_iff_iff, constructor?, method?, List.find?_isSome, List.any_eq_true]

namespace Class

variable {cls other : Class} {config : Config}

/-! ## One declaration -/

theorem newAttributes_mergeDeclaration (cls : Class) (config : Config) (decl : ClassDeclaration) :
    cls.newAttributes (cls.mergeDeclaration config decl) = [] := by
  rw [mergeDeclaration_eq]
  exact filter_missing_append Attribute.name decl.attributes cls.attributes

theorem newConstants_mergeDeclaration (cls : Class) (config : Config) (decl : ClassDeclaration) :
    cls.newConstants (cls.mergeDeclaration config decl) = [] := by
  rw [mergeDeclaration_eq]
  exact filter_missing_append Constant.name decl.constants cls.constants.toList

theorem newInterfaces_mergeDeclaration (cls : Class) (config : Config) (decl : ClassDeclaration) :
    cls.newInterfaces (cls.mergeDeclaration config decl) = [] := by
  apply List.filter_eq_nil_iff.mpr
  intro interface member
  simp only [mergeDeclaration_eq, newInterfaces, List.mem_append, List.mem_filter]
  by_cases present : interface ∈ decl.implements <;> simp [present, member]

theorem sublist_mergedMethods (cls : Class) (config : Config) (decl : ClassDeclaration) :
    (cls.newConstructor config decl ++ decl.methods).Sublist (cls.mergedMethods config decl) := by
  rw [mergedMethods]
  split
  · exact Method.sublist_foldl_appendNew _ _
  · exact .refl _

theorem name_of_constructor? {method : Method} (needed : cls.constructor? config = some method) :
    method.name = constructorName := by
  rw [constructor?] at needed
  split at needed
  · cases needed
    rfl
  · cases needed

/-- After a merge a constructor is there whenever the class needs one. -/
theorem newConstructor_mergeDeclaration (cls : Class) (config : Config)
    (decl : ClassDeclaration) :
    cls.newConstructor config (cls.mergeDeclaration config decl) = [] := by
  rw [newConstructor]
  split
  next missing =>
    have unnamed : (cls.mergedMethods config decl).any (·.name = constructorName) = false := by
      have noConstructor := Option.isNone_iff_eq_none.mp missing
      have lookup := ClassDeclaration.isSome_constructor? (cls.mergeDeclaration config decl)
      rw [noConstructor, methods_mergeDeclaration] at lookup
      exact lookup.symm
    have before : decl.constructor?.isNone := by
      rw [← Option.isSome_eq_false_iff, ClassDeclaration.isSome_constructor?,
        List.any_eq_false]
      intro method member
      have kept := (sublist_mergedMethods cls config decl).subset
        (List.mem_append_right _ member)
      exact List.any_eq_false.mp unnamed method kept
    cases needed : cls.constructor? config with
    | none => rfl
    | some method =>
        have added : method ∈ cls.mergedMethods config decl := by
          apply (sublist_mergedMethods cls config decl).subset
          simp [newConstructor, before, needed]
        have named := name_of_constructor? needed
        have unnamedMethod := List.any_eq_false.mp unnamed method added
        simp [named] at unnamedMethod
  next => rfl

theorem mergedMethods_mergeDeclaration (cls : Class) (config : Config)
    (decl : ClassDeclaration) :
    cls.mergedMethods config (cls.mergeDeclaration config decl) =
      cls.mergedMethods config decl := by
  have nothingNew : cls.newConstructor config (cls.mergeDeclaration config decl) ++
      (cls.mergeDeclaration config decl).methods = cls.mergedMethods config decl := by
    rw [newConstructor_mergeDeclaration, methods_mergeDeclaration, List.nil_append]
  rw [mergedMethods, nothingNew]
  split
  next accessors =>
    apply Method.foldl_appendNew_eq_self
    intro method member
    simp only [mergedMethods, accessors, if_true]
    exact Method.any_name_foldl_appendNew member _
  next => rfl

/-- A merge of a class finds nothing to do in a declaration that it has made. -/
theorem mergeDeclaration_mergeDeclaration (cls : Class) (config : Config)
    (decl : ClassDeclaration) :
    cls.mergeDeclaration config (cls.mergeDeclaration config decl) =
      cls.mergeDeclaration config decl := by
  rw [mergeDeclaration_eq _ _ (cls.mergeDeclaration config decl), newInterfaces_mergeDeclaration,
    newAttributes_mergeDeclaration, newConstants_mergeDeclaration, mergedMethods_mergeDeclaration]
  simp [mergeDeclaration_eq, Field.mergeAll_mergeAll, Option.or_assoc]

theorem mergeOutcome_of_fixed {decl : ClassDeclaration}
    (fixed : cls.mergeDeclaration config decl = decl) :
    cls.mergeOutcome config decl =
      { attributesAdded := 0, propertiesMerged := cls.properties.size, methodsAdded := 0 } := by
  have attributes : cls.newAttributes decl = [] := by
    rw [← fixed]
    exact newAttributes_mergeDeclaration cls config decl
  have methods : cls.mergedMethods config decl = decl.methods := by
    rw [← methods_mergeDeclaration, fixed]
  have added := methodsAdded_mergeOutcome cls config decl
  rw [methods, Nat.add_eq_right] at added
  rw [MergeOutcome.mk.injEq, attributesAdded_mergeOutcome, attributes]
  exact ⟨rfl, propertiesMerged_mergeOutcome cls config decl, added⟩

/-! ## One namespace -/

/-- A class is settled in a namespace when its imports are there and its declaration
is as a merge would make it. -/
structure SettledIn (cls : Class) (config : Config) (space : Namespace)
    (decl : ClassDeclaration) : Prop where
  imported : ∀ imported ∈ cls.imports.toList, space.hasImport imported.name
  declared : space.class? cls.name = some decl
  merged : cls.mergeDeclaration config decl = decl

@[simp] theorem name_mergeNamespace (cls : Class) (config : Config) (space : Namespace) :
    (cls.mergeNamespace config space).name = space.name := by
  simp [mergeNamespace, Namespace.changeClass]

/-- The declaration that a merge leaves in a namespace. -/
theorem class?_mergeNamespace (cls : Class) (config : Config) (space : Namespace) :
    (cls.mergeNamespace config space).class? cls.name =
      some (cls.mergeDeclaration config ((space.class? cls.name).getD { name := cls.name })) := by
  simp only [mergeNamespace, Namespace.changeClass, Namespace.class?,
    Namespace.classes_foldl_addImport]
  apply find?_changeFirst
  · intro decl named
    rwa [name_mergeDeclaration]
  · simp

theorem class?_mergeNamespace_of_ne (different : other.name ≠ cls.name) (config : Config)
    (space : Namespace) :
    (other.mergeNamespace config space).class? cls.name = space.class? cls.name := by
  simp only [mergeNamespace, Namespace.changeClass, Namespace.class?,
    Namespace.classes_foldl_addImport]
  apply find?_changeFirst_of_disjoint
  · intro decl named
    have named : decl.name = other.name := by simpa using named
    simp [named, different]
  · intro decl named
    rwa [name_mergeDeclaration]
  · simp

theorem hasImport_mergeNamespace (cls : Class) (config : Config) (space : Namespace)
    (name : String) :
    (cls.mergeNamespace config space).hasImport name =
      (space.hasImport name || cls.imports.toList.any (·.name = name)) :=
  Namespace.hasImport_foldl_addImport cls.imports.toList space name

theorem settledIn_mergeNamespace (cls : Class) (config : Config) (space : Namespace) :
    ∃ decl, cls.SettledIn config (cls.mergeNamespace config space) decl := by
  refine ⟨_, ?_, class?_mergeNamespace cls config space, ?_⟩
  · intro imported member
    rw [hasImport_mergeNamespace, Bool.or_eq_true]
    right
    exact List.any_eq_true.mpr ⟨imported, member, by simp⟩
  · exact mergeDeclaration_mergeDeclaration cls config _

theorem SettledIn.mergeNamespace_eq {space : Namespace} {decl : ClassDeclaration}
    (settled : cls.SettledIn config space decl) : cls.mergeNamespace config space = space := by
  have imports : cls.imports.toList.foldl Namespace.addImport space = space :=
    Namespace.foldl_addImport_eq_self settled.imported
  have classes := changeFirst_eq_self { name := cls.name } settled.declared
    settled.merged
  rw [mergeNamespace, imports, Namespace.changeClass, classes]

theorem SettledIn.mergeNamespace_of_ne {space : Namespace} {decl : ClassDeclaration}
    (settled : cls.SettledIn config space decl) (different : other.name ≠ cls.name) :
    cls.SettledIn config (other.mergeNamespace config space) decl where
  imported := by
    intro imported member
    rw [hasImport_mergeNamespace, settled.imported imported member]
    rfl
  declared := by
    rw [class?_mergeNamespace_of_ne different]
    exact settled.declared
  merged := settled.merged

/-! ## One source file -/

/-- A class is settled in a source file when a merge finds the header, the namespace
and the declaration as it would make them. -/
structure Settled (cls : Class) (config : Config) (file : SourceFile) : Prop where
  header : file.header.or config.header = file.header
  declared : ∃ space decl, file.namespace? (config.namespaceFor cls) = some space ∧
    cls.SettledIn config space decl

/-- The namespace that a merge leaves in a file. -/
theorem namespace?_mergeFile (cls : Class) (config : Config) (file : SourceFile) :
    (cls.mergeFile config file).namespace? (config.namespaceFor cls) =
      some (cls.mergeNamespace config
        ((file.namespace? (config.namespaceFor cls)).getD
          { name := config.namespaceFor cls })) := by
  simp only [mergeFile, SourceFile.changeNamespace, SourceFile.namespace?]
  apply find?_changeFirst
  · intro space named
    simpa using named
  · simp

theorem namespace?_mergeFile_of_ne {name : String} (different : config.namespaceFor cls ≠ name)
    (file : SourceFile) :
    (cls.mergeFile config file).namespace? name = file.namespace? name := by
  simp only [mergeFile, SourceFile.changeNamespace, SourceFile.namespace?]
  apply find?_changeFirst_of_disjoint
  · intro space named
    have named : space.name = config.namespaceFor cls := by simpa using named
    simp [named, different]
  · intro space named
    simpa using named
  · simp

/-- The declaration that a merge leaves in a file. -/
theorem classIn?_mergeFile (cls : Class) (config : Config) (file : SourceFile) :
    (cls.mergeFile config file).classIn? (config.namespaceFor cls) cls.name =
      some (cls.mergeDeclaration config (cls.declarationIn config file)) := by
  rw [SourceFile.classIn?, namespace?_mergeFile, Option.bind_some, class?_mergeNamespace,
    declarationIn, SourceFile.classIn?]
  cases file.namespace? (config.namespaceFor cls) <;> rfl

theorem settled_mergeFile (cls : Class) (config : Config) (file : SourceFile) :
    cls.Settled config (cls.mergeFile config file) where
  header := by simp [mergeFile, SourceFile.changeNamespace, Option.or_assoc]
  declared := by
    obtain ⟨decl, settled⟩ := settledIn_mergeNamespace cls config
      ((file.namespace? (config.namespaceFor cls)).getD { name := config.namespaceFor cls })
    exact ⟨_, decl, namespace?_mergeFile cls config file, settled⟩

/-- Merging a settled class has no effect. -/
theorem Settled.mergeFile_eq {file : SourceFile} (settled : cls.Settled config file) :
    cls.mergeFile config file = file := by
  obtain ⟨space, decl, found, settledIn⟩ := settled.declared
  have namespaces := changeFirst_eq_self { name := config.namespaceFor cls } found
    settledIn.mergeNamespace_eq
  rw [mergeFile, SourceFile.changeNamespace, settled.header, namespaces]

/-- Merging a settled class adds nothing. -/
theorem Settled.mergeOutcome_eq {file : SourceFile} (settled : cls.Settled config file) :
    cls.mergeOutcome config (cls.declarationIn config file) =
      { attributesAdded := 0, propertiesMerged := cls.properties.size, methodsAdded := 0 } := by
  obtain ⟨space, decl, found, settledIn⟩ := settled.declared
  have declaration : cls.declarationIn config file = decl := by
    simp [declarationIn, SourceFile.classIn?, found, settledIn.declared]
  rw [declaration]
  exact mergeOutcome_of_fixed settledIn.merged

/-- A merge of a class of another name, be it in the same namespace, leaves a class
settled. -/
theorem Settled.mergeFile_of_ne {file : SourceFile} (settled : cls.Settled config file)
    (different : other.name ≠ cls.name) : cls.Settled config (other.mergeFile config file) where
  header := by
    simp only [mergeFile, SourceFile.changeNamespace]
    rw [Option.or_assoc, Option.or_self]
  declared := by
    obtain ⟨space, decl, found, settledIn⟩ := settled.declared
    by_cases shared : config.namespaceFor other = config.namespaceFor cls
    · have changed := namespace?_mergeFile other config file
      rw [shared, found, Option.getD_some] at changed
      exact ⟨_, decl, changed, settledIn.mergeNamespace_of_ne different⟩
    · refine ⟨space, decl, ?_, settledIn⟩
      rw [namespace?_mergeFile_of_ne shared]
      exact found

/-! ## Runs of merges -/

section Runs

variable {σ : Type} {step : σ → Class → σ} (stable : σ → Class → Prop)

theorem stable_foldl_of_fresh
    (kept : ∀ state {cls other}, stable state cls → other.name ≠ cls.name →
      stable (step state other) cls)
    {state : σ} (settled : stable state cls) {classes : List Class}
    (fresh : cls.name ∉ classes.map Class.name) : stable (classes.foldl step state) cls := by
  induction classes generalizing state with
  | nil => exact settled
  | cons other rest ih =>
      simp only [List.map_cons, List.mem_cons, not_or] at fresh
      exact ih (kept state settled (Ne.symm fresh.1)) fresh.2

/-- Steps of which each brings its own class to rest, and leaves classes of other names
there, bring all classes of distinct names to rest. -/
theorem stable_foldl (reached : ∀ state cls, stable (step state cls) cls)
    (kept : ∀ state {cls other}, stable state cls → other.name ≠ cls.name →
      stable (step state other) cls)
    {classes : List Class} (distinct : (classes.map Class.name).Nodup) (member : cls ∈ classes)
    (state : σ) : stable (classes.foldl step state) cls := by
  induction classes generalizing state with
  | nil => cases member
  | cons other rest ih =>
      obtain ⟨fresh, restDistinct⟩ := List.nodup_cons.mp distinct
      rw [List.foldl_cons]
      rcases List.mem_cons.mp member with same | later
      · subst other
        exact stable_foldl_of_fresh stable kept (reached state cls) fresh
      · exact ih restDistinct later (step state other)

end Runs

end Class

namespace SourceFile

/-- Merge classes into a file, one after the other; with what each merge has added. -/
def mergeClasses (config : Config) :
    List Class → SourceFile → Logged (SourceFile × List MergeOutcome)
  | [], file => pure (file, [])
  | cls :: rest, file => do
      let (file, outcome) ← cls.merge config file
      let (file, outcomes) ← mergeClasses config rest file
      return (file, outcome :: outcomes)

theorem file_mergeClasses (config : Config) (classes : List Class) (file : SourceFile) :
    (mergeClasses config classes file).value.1 =
      classes.foldl (fun file cls => cls.mergeFile config file) file := by
  induction classes generalizing file with
  | nil => rfl
  | cons cls rest ih => exact ih (cls.mergeFile config file)

/-- A run of merges settles each of its classes, as long as their names differ. -/
theorem settled_mergeClasses {cls : Class} {config : Config} {classes : List Class}
    (distinct : (classes.map Class.name).Nodup) (member : cls ∈ classes) (file : SourceFile) :
    cls.Settled config (mergeClasses config classes file).value.1 := by
  rw [file_mergeClasses]
  apply Class.stable_foldl (fun file cls => cls.Settled config file) _ _ distinct member file
  · intro file cls
    exact Class.settled_mergeFile cls config file
  · intro file cls other settled different
    exact settled.mergeFile_of_ne different

/-- A run of merges of settled classes has no effect. -/
theorem mergeClasses_of_settled {config : Config} {classes : List Class} {file : SourceFile}
    (settled : ∀ cls ∈ classes, cls.Settled config file) :
    (mergeClasses config classes file).value =
      (file, classes.map fun cls =>
        { attributesAdded := 0, propertiesMerged := cls.properties.size, methodsAdded := 0 }) := by
  induction classes with
  | nil => rfl
  | cons cls rest ih =>
      have first := settled cls List.mem_cons_self
      have following := ih fun later member => settled later (List.mem_cons_of_mem cls member)
      simp only [mergeClasses, Logged.value_bind, Logged.value_pure, Class.value_merge,
        first.mergeFile_eq, first.mergeOutcome_eq, following, List.map_cons]

/-- When classes of distinct names have been merged into a file, whatever was in it
before, merging them again in any order and any number of times leaves the file as
it is and adds nothing. -/
theorem mergeClasses_again (config : Config) (file : SourceFile) (classes again : List Class)
    (distinct : (classes.map Class.name).Nodup) (known : ∀ cls ∈ again, cls ∈ classes) :
    let merged := (mergeClasses config classes file).value.1
    (mergeClasses config again merged).value =
      (merged, again.map fun cls =>
        { attributesAdded := 0, propertiesMerged := cls.properties.size, methodsAdded := 0 }) := by
  intro merged
  apply mergeClasses_of_settled
  intro cls member
  exact settled_mergeClasses distinct (known cls member) file

/-- Two classes in a file with two namespaces of one name and two fields of one
name; the second class is merged twice more. -/
theorem mergeClasses_again_shared :
    let text : Range := .ofUri "https://schema.org/Text"
    let person : Class :=
      { name := "Person"
        properties := .ofList
          [{ name := "name", range := some text },
            { name := "knows", range := some (.ofUri "Person"), isArray := true }]
        imports := .ofList [⟨"Doctrine\\ORM\\Mapping", some "ORM"⟩] }
    let book : Class :=
      { name := "Book"
        properties := .ofList [{ name := "isbn", range := some text }]
        imports := .ofList [⟨"Doctrine\\ORM\\Mapping", none⟩] }
    let file : SourceFile :=
      { namespaces :=
          [{ name := "App\\Entity"
             classes :=
              [{ name := "Person"
                 fields := [{ name := "name" }, { name := "name", comment := some "By hand." }]
                 methods := [{ name := "getName" }] }] },
            { name := "App\\Entity" }] }
    let merged := (mergeClasses {} [person, book] file).value.1
    ([person, book].map Class.name).Nodup ∧
      (∀ cls ∈ [book, person, book], cls ∈ [person, book]) ∧ merged ≠ file ∧
      (mergeClasses {} [book, person, book] merged).value =
        (merged, [⟨0, 1, 0⟩, ⟨0, 2, 0⟩, ⟨0, 1, 0⟩]) := by
  intro text person book file merged
  have distinct : ([person, book].map Class.name).Nodup := by decide
  have known : ∀ cls ∈ [book, person, book], cls ∈ [person, book] := by simp
  have again := mergeClasses_again {} file [person, book] [book, person, book] distinct known
  refine ⟨distinct, known, by decide +kernel, again.trans ?_⟩
  apply congrArg (Prod.mk merged)
  decide +kernel

end SourceFile

end EntityGen
