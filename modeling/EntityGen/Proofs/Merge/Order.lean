import EntityGen.Proofs.Merge.Settled
import EntityGen.Proofs.Source.Series

/-!
# The order of merges

Classes of distinct names that are merged into one file share its namespaces and imports.
Whatever the order of the merges is, the content of the file is the same
(`SourceFile.sameContent_mergeClasses`).

Merges of a list of classes are a series of changes to the namespaces of a file, to the
declarations of a namespace and to its imports.  Each declaration is changed by the class
of its name alone.  An import is kept from the class that comes first, and so is its other
name.
-/

namespace EntityGen

/-! ## What the order leaves open -/

/-- A declaration as it was before, or with the class of its name merged into it. -/
def ClassDeclaration.MergedBy (config : Config) (classes : List Class)
    (before after : ClassDeclaration) : Prop :=
  after = before ∨
    ∃ cls ∈ classes, cls.name = before.name ∧ after = cls.mergeDeclaration config before

/-- The import by which a class brings a symbol: the first of that symbol. -/
def Class.import? (cls : Class) (symbol : String) : Option Import :=
  cls.imports.toList.find? (·.name = symbol)

/-- Two imports of one symbol are the same, or two classes import the symbol by them. -/
def Import.Alike (classes : List Class) (first second : Import) : Prop :=
  first.name = second.name ∧
    (first = second ∨ ∃ cls ∈ classes, ∃ other ∈ classes, cls ≠ other ∧
      cls.import? first.name = some first ∧ other.import? first.name = some second)

/-- Two namespaces into which the same classes were merged.  What was there before keeps its
place in both, and they differ at most in the order of what was added, and in imports that
two of the classes bring differently. -/
structure Namespace.Reordered (config : Config) (classes : List Class)
    (before first second : Namespace) : Prop where
  name : first.name = before.name ∧ second.name = before.name
  imports : Regrown (fun before first second => first = before ∧ second = before)
    (Import.Alike classes) before.imports first.imports second.imports
  classes : Regrown
    (fun before first second => first = second ∧ before.MergedBy config classes first)
    Eq before.classes first.classes second.classes

theorem Namespace.Reordered.refl (config : Config) (classes : List Class) (space : Namespace) :
    space.Reordered config classes space space where
  name := ⟨rfl, rfl⟩
  imports := .refl (fun _ => ⟨rfl, rfl⟩) space.imports
  classes := .refl (fun _ => ⟨rfl, .inl rfl⟩) space.classes

/-- Two files into which the same classes were merged. -/
structure SourceFile.SameContent (config : Config) (classes : List Class)
    (before first second : SourceFile) : Prop where
  header : first.header = second.header
  /-- The names of the namespaces are the same. -/
  names : (first.namespaces.map Namespace.name).Perm (second.namespaces.map Namespace.name)
  /-- Each namespace imports the same symbols. -/
  symbols : ∀ space symbol, (first.namespace? space).any (·.hasImport symbol) =
    (second.namespace? space).any (·.hasImport symbol)
  /-- Each class has the same declaration. -/
  declarations : ∀ cls ∈ classes, ∃ decl,
    first.classIn? (config.namespaceFor cls) cls.name = some decl ∧
      second.classIn? (config.namespaceFor cls) cls.name = some decl
  /-- Each namespace of before keeps its place, and new ones follow in some order; the
  classes of a namespace are all that they depend on. -/
  namespaces : Regrown
    (fun before => before.Reordered config
      (classes.filter fun cls => config.namespaceFor cls = before.name))
    (fun first => Namespace.Reordered config
      (classes.filter fun cls => config.namespaceFor cls = first.name) { name := first.name } first)
    before.namespaces first.namespaces second.namespaces

namespace Class

variable {config : Config} {classes others : List Class} {cls : Class}

/-! ## Merges into one namespace -/

/-- Merge classes into a namespace, one after the other. -/
def mergeNamespaces (config : Config) (classes : List Class) (space : Namespace) : Namespace :=
  classes.foldl (fun space cls => cls.mergeNamespace config space) space

theorem classes_mergeNamespaces (config : Config) (classes : List Class) (space : Namespace) :
    (mergeNamespaces config classes space).classes =
      changeSeries ClassDeclaration.name Class.name (fun cls => { name := cls.name })
        (fun cls => cls.mergeDeclaration config) classes space.classes := by
  induction classes generalizing space with
  | nil => rfl
  | cons cls rest ih =>
      rw [mergeNamespaces, List.foldl_cons, ← mergeNamespaces, ih, cons_changeSeries]
      simp only [mergeNamespace, Namespace.changeClass, Namespace.classes_foldl_addImport]

theorem imports_mergeNamespaces (config : Config) (classes : List Class) (space : Namespace) :
    (mergeNamespaces config classes space).imports =
      changeSeries Import.name Import.name id (fun _ => id)
        (classes.flatMap fun cls => cls.imports.toList) space.imports := by
  induction classes generalizing space with
  | nil => rfl
  | cons cls rest ih =>
      have imports : (cls.mergeNamespace config space).imports =
          changeSeries Import.name Import.name id (fun _ => id) cls.imports.toList space.imports :=
        Namespace.imports_foldl_addImport cls.imports.toList space
      rw [mergeNamespaces, List.foldl_cons, ← mergeNamespaces, ih, List.flatMap_cons,
        changeSeries_append, imports]

theorem name_mergeNamespaces (config : Config) (classes : List Class) (space : Namespace) :
    (mergeNamespaces config classes space).name = space.name := by
  induction classes generalizing space with
  | nil => rfl
  | cons cls rest ih => exact (ih (cls.mergeNamespace config space)).trans (name_mergeNamespace ..)

/-- Of classes of distinct names one has the name of a class. -/
theorem filter_name_eq (distinct : (classes.map Class.name).Nodup) (member : cls ∈ classes) :
    classes.filter (·.name = cls.name) = [cls] := by
  induction classes with
  | nil => cases member
  | cons first rest ih =>
      obtain ⟨fresh, distinctRest⟩ := List.nodup_cons.mp distinct
      rcases List.mem_cons.mp member with rfl | later
      · have others : rest.filter (·.name = cls.name) = [] := by
          apply List.filter_eq_nil_iff.mpr
          intro other memberRest named
          exact fresh (List.mem_map.mpr ⟨other, memberRest, of_decide_eq_true named⟩)
        simp [others]
      · have different : first.name ≠ cls.name := by
          intro same
          exact fresh (same ▸ List.mem_map_of_mem later)
        simp [different, ih distinctRest later]

theorem filter_name_congr (distinct : (classes.map Class.name).Nodup)
    (reordered : classes.Perm others) (name : String) :
    classes.filter (·.name = name) = others.filter (·.name = name) := by
  have same := reordered.filter (·.name = name)
  by_cases named : ∃ cls ∈ classes, cls.name = name
  · obtain ⟨cls, member, rfl⟩ := named
    rw [filter_name_eq distinct member] at same ⊢
    exact (List.singleton_perm.mp same)
  · have none : classes.filter (·.name = name) = [] := by
      apply List.filter_eq_nil_iff.mpr
      intro cls member nameIs
      exact named ⟨cls, member, of_decide_eq_true nameIs⟩
    rw [none] at same ⊢
    exact (List.nil_perm.mp same).symm

/-- The import that is kept of a symbol is the one that the first of the classes brings
which bring it. -/
theorem exists_import?_of_find? {imported : Import} {symbol : String}
    (found : (classes.flatMap fun cls => cls.imports.toList).find? (·.name = symbol) =
      some imported) :
    imported.name = symbol ∧ ∃ cls ∈ classes, cls.import? symbol = some imported := by
  refine ⟨by simpa using List.find?_some found, ?_⟩
  rw [List.find?_flatMap] at found
  exact List.exists_of_findSome?_eq_some found

theorem alike_find? (reordered : classes.Perm others) (symbol : String) :
    Option.Rel (Import.Alike classes)
      ((classes.flatMap fun cls => cls.imports.toList).find? (·.name = symbol))
      ((others.flatMap fun cls => cls.imports.toList).find? (·.name = symbol)) := by
  have members (imported : Import) := (reordered.flatMap_right fun cls =>
    cls.imports.toList).mem_iff (a := imported)
  cases first : (classes.flatMap fun cls => cls.imports.toList).find? (·.name = symbol) with
  | none =>
      have missing : (others.flatMap fun cls => cls.imports.toList).find? (·.name = symbol) =
          none := by
        rw [List.find?_eq_none] at first ⊢
        intro imported member
        exact first imported ((members imported).mpr member)
      rw [missing]
      exact .none
  | some imported =>
      cases second : (others.flatMap fun cls => cls.imports.toList).find? (·.name = symbol) with
      | none =>
          rw [List.find?_eq_none] at second
          have unnamed := second imported ((members imported).mp (List.mem_of_find?_eq_some first))
          exact absurd (List.find?_some first) unnamed
      | some other =>
          obtain ⟨rfl, cls, memberCls, bringsFirst⟩ := exists_import?_of_find? first
          obtain ⟨named, partner, memberPartner, bringsSecond⟩ := exists_import?_of_find? second
          refine .some ⟨named.symm, ?_⟩
          by_cases same : cls = partner
          · left
            rw [same, bringsSecond] at bringsFirst
            exact (Option.some_inj.mp bringsFirst).symm
          · right
            exact ⟨cls, memberCls, partner, reordered.mem_iff.mpr memberPartner, same, bringsFirst,
              bringsSecond⟩

/-- A declaration is changed by the class of its name alone. -/
theorem mergedBy_foldl (distinct : (classes.map Class.name).Nodup) (decl : ClassDeclaration) :
    decl.MergedBy config classes ((classes.filter (·.name = decl.name)).foldl
      (fun decl cls => cls.mergeDeclaration config decl) decl) := by
  by_cases named : ∃ cls ∈ classes, cls.name = decl.name
  · obtain ⟨cls, member, same⟩ := named
    rw [← same, filter_name_eq distinct member]
    exact .inr ⟨cls, member, same, rfl⟩
  · have none : classes.filter (·.name = decl.name) = [] := by
      apply List.filter_eq_nil_iff.mpr
      intro cls member nameIs
      exact named ⟨cls, member, of_decide_eq_true nameIs⟩
    rw [none]
    exact .inl rfl

/-- In whatever order classes of distinct names are merged into a namespace, what is left
differs in the order of additions only, and in imports that they bring differently. -/
theorem reordered_mergeNamespaces (distinct : (classes.map Class.name).Nodup)
    (reordered : classes.Perm others) (space : Namespace) :
    space.Reordered config classes (mergeNamespaces config classes space)
      (mergeNamespaces config others space) where
  name := ⟨name_mergeNamespaces config classes space, name_mergeNamespaces config others space⟩
  imports := by
    have kept (imports : List Import) (imported : Import) :
        imports.foldl (fun found _ => id found) imported = imported :=
      List.foldl_fixed imports
    have added (imports : List Import) :
        amended id (fun _ => id) imports none = imports.head? := by
      cases imports with
      | nil => rfl
      | cons imported rest =>
          exact (amended_some rest imported).trans (congrArg some (kept rest imported))
    rw [imports_mergeNamespaces, imports_mergeNamespaces]
    apply Regrown.changeSeries
    · intro _ _
      rfl
    · intro _
      rfl
    · intro first second alike
      exact alike.1
    · intro imported
      exact ⟨rfl, rfl⟩
    · intro imported
      exact ⟨kept _ _, kept _ _⟩
    · intro symbol
      rw [added, added, List.head?_filter, List.head?_filter]
      exact alike_find? reordered symbol
  classes := by
    rw [classes_mergeNamespaces, classes_mergeNamespaces]
    apply Regrown.changeSeries
    · intro _ _
      exact name_mergeDeclaration _ _ _
    · intro _
      rfl
    · rintro first _ rfl
      rfl
    · intro decl
      exact ⟨rfl, .inl rfl⟩
    · intro decl
      exact ⟨by rw [filter_name_congr distinct reordered], mergedBy_foldl distinct decl⟩
    · intro name
      rw [filter_name_congr distinct reordered]
      cases amended _ _ _ _ with
      | none => exact .none
      | some decl => exact .some rfl

/-- The symbols that a namespace imports after a merge. -/
theorem any_hasImport_mergeFile (cls : Class) (config : Config) (file : SourceFile)
    (space symbol : String) :
    ((cls.mergeFile config file).namespace? space).any (·.hasImport symbol) =
      ((file.namespace? space).any (·.hasImport symbol) ||
        (config.namespaceFor cls = space && cls.imports.toList.any (·.name = symbol))) := by
  by_cases here : config.namespaceFor cls = space
  · subst here
    rw [namespace?_mergeFile, Option.any_some, hasImport_mergeNamespace]
    cases file.namespace? (config.namespaceFor cls) with
    | none => simp [Namespace.hasImport]
    | some held => simp
  · simp [namespace?_mergeFile_of_ne here, here]

end Class

/-! ## Merges into one file -/

namespace SourceFile

variable {config : Config} {classes others : List Class} {cls : Class} {file : SourceFile}

theorem namespaces_mergeClasses (config : Config) (classes : List Class) (file : SourceFile) :
    (mergeClasses config classes file).value.1.namespaces =
      changeSeries Namespace.name config.namespaceFor
        (fun cls => { name := config.namespaceFor cls })
        (fun cls => cls.mergeNamespace config) classes file.namespaces := by
  rw [file_mergeClasses]
  induction classes generalizing file with
  | nil => rfl
  | cons cls rest ih => exact ih (cls.mergeFile config file)

theorem header_mergeClasses (config : Config) (classes : List Class) (file : SourceFile) :
    (mergeClasses config classes file).value.1.header =
      if classes = [] then file.header else file.header.or config.header := by
  rw [file_mergeClasses]
  induction classes generalizing file with
  | nil => rfl
  | cons cls rest ih =>
      rw [List.foldl_cons, ih]
      split <;> simp [Class.mergeFile, changeNamespace, Option.or_assoc]

theorem freshNamespace_eq (config : Config) (classes : List Class) (space : String) :
    ∀ cls ∈ classes.filter (config.namespaceFor · = space),
      ({ name := config.namespaceFor cls } : Namespace) = { name := space } := by
  intro cls member
  rw [of_decide_eq_true (List.mem_filter.mp member).2]

/-- The first namespace of a name is what the classes merged into it make of it. -/
theorem namespace?_mergeClasses (config : Config) (classes : List Class) (file : SourceFile)
    (space : String) :
    (mergeClasses config classes file).value.1.namespace? space =
      amended (fun cls => { name := config.namespaceFor cls })
        (fun cls => cls.mergeNamespace config)
        (classes.filter (config.namespaceFor · = space)) (file.namespace? space) := by
  rw [namespace?, namespaces_mergeClasses]
  apply find?_changeSeries
  · intro cls
    exact cls.name_mergeNamespace config
  · intro cls
    rfl

/-- A namespace imports the symbols that it did and those of the classes merged into it. -/
theorem any_hasImport_mergeClasses (config : Config) (classes : List Class) (file : SourceFile)
    (space symbol : String) :
    ((mergeClasses config classes file).value.1.namespace? space).any (·.hasImport symbol) =
      ((file.namespace? space).any (·.hasImport symbol) ||
        classes.any fun cls =>
          config.namespaceFor cls = space && cls.imports.toList.any (·.name = symbol)) := by
  rw [file_mergeClasses]
  induction classes generalizing file with
  | nil => simp
  | cons cls rest ih =>
      rw [List.foldl_cons, ih, Class.any_hasImport_mergeFile, List.any_cons, Bool.or_assoc]

/-- A class is merged into what the file declared of it at first. -/
theorem classIn?_mergeClasses (distinct : (classes.map Class.name).Nodup) (member : cls ∈ classes)
    (file : SourceFile) :
    (mergeClasses config classes file).value.1.classIn? (config.namespaceFor cls) cls.name =
      some (cls.mergeDeclaration config (cls.declarationIn config file)) := by
  let merged := classes.filter (config.namespaceFor · = config.namespaceFor cls)
  have memberMerged : cls ∈ merged := List.mem_filter.mpr ⟨member, by simp⟩
  have distinctMerged : (merged.map Class.name).Nodup :=
    (List.filter_sublist.map Class.name).nodup distinct
  rw [classIn?, namespace?_mergeClasses,
    amended_of_ne_nil _ (freshNamespace_eq config classes _) (List.ne_nil_of_mem memberMerged),
    Option.bind_some]
  have declared (space : Namespace) : (Class.mergeNamespaces config merged space).class? cls.name =
      some (cls.mergeDeclaration config ((space.class? cls.name).getD { name := cls.name })) := by
    rw [Namespace.class?, Class.classes_mergeNamespaces, find?_changeSeries,
      Class.filter_name_eq distinctMerged memberMerged]
    · rfl
    · intro _ _
      exact Class.name_mergeDeclaration _ _ _
    · intro _
      rfl
  refine (declared _).trans ?_
  rw [Class.declarationIn, classIn?]
  cases file.namespace? (config.namespaceFor cls) <;> rfl

/-- Merges in two orders keep the namespaces of before in their places, and leave each of
them with the same content. -/
theorem regrown_mergeClasses (config : Config) (file : SourceFile)
    (distinct : (classes.map Class.name).Nodup) (reordered : classes.Perm others) :
    Regrown
      (fun before => before.Reordered config
        (classes.filter fun cls => config.namespaceFor cls = before.name))
      (fun first => Namespace.Reordered config
        (classes.filter fun cls => config.namespaceFor cls = first.name) { name := first.name }
        first)
      file.namespaces (mergeClasses config classes file).value.1.namespaces
      (mergeClasses config others file).value.1.namespaces := by
  have inSpace (name : String) (start : Namespace) :
      start.Reordered config (classes.filter (config.namespaceFor · = name))
        (Class.mergeNamespaces config (classes.filter (config.namespaceFor · = name)) start)
        (Class.mergeNamespaces config (others.filter (config.namespaceFor · = name)) start) :=
    Class.reordered_mergeNamespaces ((List.filter_sublist.map Class.name).nodup distinct)
      (reordered.filter _) start
  rw [namespaces_mergeClasses, namespaces_mergeClasses]
  apply Regrown.changeSeries
  · intro cls space
    exact cls.name_mergeNamespace config space
  · intro cls
    rfl
  · intro first second alike
    exact alike.name.2.symm
  · intro space
    exact .refl config _ space
  · intro space
    exact inSpace space.name space
  · intro name
    have same := reordered.filter (config.namespaceFor · = name)
    by_cases empty : classes.filter (config.namespaceFor · = name) = []
    · rw [empty] at same ⊢
      rw [List.nil_perm.mp same]
      exact .none
    · have nonempty : others.filter (config.namespaceFor · = name) ≠ [] := by
        intro none
        rw [none] at same
        exact empty (List.perm_nil.mp same)
      rw [amended_of_ne_nil none (freshNamespace_eq config classes name) empty,
        amended_of_ne_nil none (freshNamespace_eq config others name) nonempty]
      have named := Class.name_mergeNamespaces config
        (classes.filter (config.namespaceFor · = name)) { name := name }
      rw [Class.mergeNamespaces] at named
      refine .some ?_
      simp only [Option.getD_none, named]
      exact inSpace name { name := name }

/-- Merging classes of distinct names into a file in two orders gives files of the same
content. -/
theorem sameContent_mergeClasses (config : Config) (file : SourceFile)
    (distinct : (classes.map Class.name).Nodup) (reordered : classes.Perm others) :
    SameContent config classes file (mergeClasses config classes file).value.1
      (mergeClasses config others file).value.1 := by
  have distinctOthers : (others.map Class.name).Nodup :=
    (reordered.map Class.name).nodup_iff.mp distinct
  have namespaces := regrown_mergeClasses config file distinct reordered
  constructor
  · rw [header_mergeClasses, header_mergeClasses]
    simp only [← List.length_eq_zero_iff, reordered.length_eq]
  · apply namespaces.perm_map
    · intro before first second alike
      exact alike.name.1.trans alike.name.2.symm
    · intro first second alike
      exact alike.name.2.symm
  · intro space symbol
    rw [any_hasImport_mergeClasses, any_hasImport_mergeClasses, reordered.any_eq]
  · intro cls member
    exact ⟨_, classIn?_mergeClasses distinct member file,
      classIn?_mergeClasses distinctOthers (reordered.mem_iff.mp member) file⟩
  · exact namespaces

/-- Two classes that import a symbol under different names, and an enumeration; what was
written by hand keeps its place. -/
theorem sameContent_mergeClasses_shared :
    let mapping := "Doctrine\\ORM\\Mapping"
    let person : Class := { name := "Person", imports := .ofList [⟨mapping, some "ORM"⟩] }
    let book : Class :=
      { name := "Book", parent := .named "Work", imports := .ofList [⟨mapping, none⟩] }
    let gender : Class := { name := "GenderType", isEnum := true }
    let file : SourceFile :=
      { namespaces :=
          [{ name := "App\\Entity"
             imports := [⟨"App\\Kept", none⟩]
             classes := [{ name := "Kept" }, { name := "Book", comment := some "By hand." }] }] }
    let first := (mergeClasses {} [person, book, gender] file).value.1
    let second := (mergeClasses {} [book, gender, person] file).value.1
    ([person, book, gender].map Class.name).Nodup ∧
      [person, book, gender].Perm [book, gender, person] ∧ first ≠ second ∧
      SameContent {} [person, book, gender] file first second := by
  intro mapping person book gender file first second
  have distinct : ([person, book, gender].map Class.name).Nodup := by decide
  have reordered : [person, book, gender].Perm [book, gender, person] :=
    @List.perm_append_comm Class [person] [book, gender]
  exact ⟨distinct, reordered, by decide +kernel,
    sameContent_mergeClasses {} file distinct reordered⟩

end SourceFile

end EntityGen
