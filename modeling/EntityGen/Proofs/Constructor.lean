import EntityGen.Proofs.Ancestors
import EntityGen.Proofs.Finished
import EntityGen.Proofs.Merge.Accessors

/-!
# Constructors of generated classes

A constructor calls that of the parent when the class is marked to inherit one.  A
generation marks the classes whose parent is registered, and leaves the mark of every
other class alone.  So a class that has no parent, or has lost it by the settings, keeps
the mark that it had, and its constructor makes a call that goes nowhere
(`Workspace.parentHasConstructor_of_absent`).

Where a generation begins without files and marks, all constructors fit together: a class
has one exactly when it holds a property in a collection, and it calls that of the parent
exactly when the file of an ancestor declares one (`Workspace.constructor?_finished`).
-/

namespace EntityGen

/-! ## Marks -/

/-- Nothing is said about the constructor of a parent that is not known by name. -/
theorem Hierarchy.inheritsConstructor_of_orphan {hierarchy : Hierarchy} {name : String}
    {entry : String × Lineage} (found : hierarchy.get? name = some entry)
    (orphan : entry.2.parent = none) : hierarchy.inheritsConstructor name = none := by
  simp [inheritsConstructor, found, orphan]

namespace Class

variable {cls : Class} {config : Config} {registry : Registry}

/-- A class without a parent keeps its mark. -/
theorem parentHasConstructor_markConstructors (member : cls ∈ registry.toList)
    (orphan : cls.parentName? = none) :
    (cls.markConstructors config (registry.hierarchy config)).parentHasConstructor =
      cls.parentHasConstructor := by
  have found : (registry.hierarchy config).get? cls.name =
      some (cls.name, cls.lineage config) := by
    rw [Registry.get?_hierarchy, show registry.get? cls.name = some cls from
      Table.get?_key_of_mem member]
    rfl
  rw [markConstructors, Hierarchy.inheritsConstructor_of_orphan found orphan]
  rfl

/-! ## Calls -/

theorem parentCall_ne_initialization (name : String) :
    "parent::__construct();" ≠ "$this->" ++ name ++ " = new ArrayCollection();" := by
  intro same
  have characters := congrArg String.toList same
  simp [String.toList_append] at characters

/-- Only the mark puts the call of the parent into a constructor. -/
theorem parentCall_mem_constructorBody (cls : Class) (config : Config) :
    "parent::__construct();" ∈ cls.constructorBody config ↔ cls.parentHasConstructor := by
  rw [constructorBody, List.mem_append]
  constructor
  · rintro (called | initialized)
    · split at called
      next marked => exact marked
      next => cases called
    · obtain ⟨property, _, same⟩ := List.mem_map.mp initialized
      exact absurd same.symm (parentCall_ne_initialization property.name)
  · intro marked
    rw [if_pos marked]
    exact .inl (List.mem_singleton_self _)

/-- Only a property that is held in a collection has a line of its own in a constructor. -/
theorem initialization_mem_constructorBody (cls : Class) (config : Config) (name : String) :
    "$this->" ++ name ++ " = new ArrayCollection();" ∈ cls.constructorBody config ↔
      ∃ property ∈ cls.properties.toList,
        property.isCollection config.persistence.useCollection ∧ property.name = name := by
  rw [constructorBody, collectionProperties_eq, List.mem_append, List.mem_map]
  constructor
  · rintro (called | ⟨property, member, same⟩)
    · split at called
      next => exact absurd (List.mem_singleton.mp called).symm (parentCall_ne_initialization name)
      next => cases called
    · rw [List.mem_filter] at member
      exact ⟨property, member.1, member.2, by simpa using same⟩
  · rintro ⟨property, member, held, rfl⟩
    exact .inr ⟨property, List.mem_filter.mpr ⟨member, held⟩, rfl⟩

theorem parentCall_mem_body {constructor : Method}
    (needed : cls.constructor? config = some constructor) :
    "parent::__construct();" ∈ constructor.body ↔ cls.parentHasConstructor := by
  rw [constructor?] at needed
  split at needed
  · cases needed
    exact cls.parentCall_mem_constructorBody config
  · cases needed

end Class

/-! ## Generations -/

namespace Workspace

variable {config : Config} {workspace finished : Workspace} {summary : Summary} {cls : Class}

/-- After a generation that ended well a class without a parent is marked to inherit a
constructor exactly when it was before, and the constructor that its declaration has
received calls that of a parent, which is not declared, exactly in this case. -/
theorem parentHasConstructor_of_absent
    (ended : (workspace.generate config).value = (finished, .ok summary))
    (member : cls ∈ finished.registry.toList) (absent : cls.parent = .absent) :
    ∃ before ∈ workspace.registry.toList, before.name = cls.name ∧
      cls.parentHasConstructor = before.parentHasConstructor ∧
      ∃ decl,
        (finished.files.file cls.name).classIn? (config.namespaceFor cls) cls.name = some decl ∧
        decl.extends? = none ∧
        ∀ constructor,
          (cls.declarationIn config (workspace.files.file cls.name)).constructor? = none →
          decl.constructor? = some constructor →
          ("parent::__construct();" ∈ constructor.body ↔ before.parentHasConstructor) := by
  obtain ⟨before, memberBefore, attached, described, memberAttached, same⟩ :=
    exists_of_mem_finished ended member
  have named : before.name = cls.name := by
    rw [same]
    exact (before.key_adjusted config).symm
  -- The marks are made of the parents that the adjustments have left.
  have orphan : ((before.adjusted config).attach described).parentName? = none := by
    have parent : ((before.adjusted config).attach described).parent = .absent := by
      rw [← absent, same]
      rfl
    rw [Class.parentName?, parent]
    rfl
  have kept : cls.parentHasConstructor = before.parentHasConstructor := by
    rw [same, Class.parentHasConstructor_markConstructors memberAttached orphan]
    exact (before.marks_adjusted config).2.2
  have declared := cls.classIn?_mergeFile config (workspace.files.file cls.name)
  rw [← file_finished ended member] at declared
  refine ⟨before, memberBefore, named, kept, _, declared, ?_, ?_⟩
  · simp only [Class.mergeDeclaration_eq, absent, Parent.declared]
  · intro constructor missing received
    rw [Class.constructor?_mergeDeclaration, missing, Option.none_or] at received
    rw [← kept]
    exact Class.parentCall_mem_body received

/-- The settings take the parent, which has a constructor, from a class that was not
marked: its constructor makes no call. -/
theorem parentHasConstructor_of_absent_person :
    let config : Config :=
      { annotators := [], classes := .ofList [("Person", { parent := some (.flag false) })] }
    let knows : Property :=
      { name := "knows"
        cardinality := .zeroToMany
        isArray := true
        range := some (.ofUri "Person") }
    let workspace : Workspace :=
      { registry := .ofList
          [{ name := "Person", parent := .named "Thing", properties := .ofList [knows] },
            { name := "Thing", properties := .ofList [knows] }] }
    let finished := (workspace.generate config).value.1
    (workspace.generate config).value = (finished, .ok ⟨2, 4, 0, 10⟩) ∧
      ∃ cls ∈ finished.registry.toList, cls.name = "Person" ∧ cls.parent = .absent ∧
        cls.parentHasConstructor = false ∧
        ∃ decl ∈ (finished.files.file "Person").classIn? "App\\Entity" "Person",
          decl.extends? = none ∧
            ∃ constructor ∈ decl.constructor?, "parent::__construct();" ∉ constructor.body := by
  intro config knows workspace finished
  have ended : (workspace.generate config).value = (finished, .ok ⟨2, 4, 0, 10⟩) :=
    generate_eq_ok_of_toOption (by decide +kernel)
  obtain ⟨cls, member, named, absent, place⟩ :
      ∃ cls ∈ finished.registry.toList, cls.name = "Person" ∧ cls.parent = .absent ∧
        config.namespaceFor cls = "App\\Entity" := by
    decide +kernel
  obtain ⟨before, memberBefore, _, kept, decl, declared, alone, calls⟩ :=
    parentHasConstructor_of_absent ended member absent
  have unmarked : before.parentHasConstructor = false := by
    have all : ∀ cls ∈ workspace.registry.toList, cls.parentHasConstructor = false := by
      decide +kernel
    exact all before memberBefore
  rw [named, place] at declared
  obtain ⟨same, declaredSame, needed⟩ :
      ∃ decl ∈ (finished.files.file "Person").classIn? "App\\Entity" "Person",
        decl.constructor?.isSome := by
    decide +kernel
  rw [declared, Option.mem_some_iff] at declaredSame
  subst same
  obtain ⟨constructor, received⟩ := Option.isSome_iff_exists.mp needed
  refine ⟨ended, cls, member, named, absent, kept.trans unmarked, decl, declared, alone,
    constructor, received, ?_⟩
  rw [calls constructor rfl received, unmarked]
  decide

/-- A mark of a class whose parent was never registered stays when the settings take the
parent from it: its constructor calls one that is not declared. -/
theorem parent_call_without_parent :
    let config : Config :=
      { annotators := [], classes := .ofList [("Person", { parent := some (.flag false) })] }
    let knows : Property :=
      { name := "knows"
        cardinality := .zeroToMany
        isArray := true
        range := some (.ofUri "Person") }
    let workspace : Workspace :=
      { registry := .ofList
          [{ name := "Person"
             parent := .named "Base"
             parentHasConstructor := true
             properties := .ofList [knows] }] }
    let finished := (workspace.generate config).value.1
    (workspace.generate config).value = (finished, .ok ⟨1, 2, 0, 5⟩) ∧
      ∃ cls ∈ finished.registry.toList, cls.name = "Person" ∧ cls.parent = .absent ∧
        cls.parentHasConstructor ∧
        ∃ decl ∈ (finished.files.file "Person").classIn? "App\\Entity" "Person",
          decl.extends? = none ∧
            ∃ constructor ∈ decl.constructor?, "parent::__construct();" ∈ constructor.body := by
  intro config knows workspace finished
  have ended : (workspace.generate config).value = (finished, .ok ⟨1, 2, 0, 5⟩) :=
    generate_eq_ok_of_toOption (by decide +kernel)
  exact ⟨ended, by decide +kernel⟩

end Workspace

/-! ## Constructors of all files -/

namespace Class

/-- The constructor of a class, told by a class that is the same but for what a generation
attaches and marks. -/
theorem constructor?_of_bare_eq {cls other : Class} (same : cls.bare = other.bare)
    (config : Config) :
    cls.constructor? config =
      if other.needsConstructor config then
        some
          { name := constructorName
            body := (if cls.parentHasConstructor then ["parent::__construct();"] else []) ++
              (other.properties.toList.filter
                (·.isCollection config.persistence.useCollection)).map fun property =>
                  "$this->" ++ property.name ++ " = new ArrayCollection();" }
      else none := by
  have needed : cls.needsConstructor config = other.needsConstructor config := by
    rw [← needsConstructor_bare, same, needsConstructor_bare]
  have lines (cls : Class) : (cls.collectionProperties config).map (fun property : Property =>
        "$this->" ++ property.name ++ " = new ArrayCollection();") =
      (cls.bare.collectionProperties config).map fun property =>
        "$this->" ++ property.name ++ " = new ArrayCollection();" := by
    rw [collectionProperties_bare, List.map_map]
    rfl
  rw [constructor?, constructorBody, needed, lines, same, ← lines, collectionProperties_eq]

end Class

namespace Workspace

variable {config : Config} {workspace finished : Workspace} {summary : Summary} {cls : Class}

/-- The file of a class declares a constructor for it. -/
def DeclaresConstructor (workspace : Workspace) (config : Config) (cls : Class) : Prop :=
  ∃ decl, workspace.declaration? config cls = some decl ∧ decl.constructor?.isSome

section Unmarked

variable (ended : (workspace.generate config).value = (finished, .ok summary))
variable (files : workspace.files = ∅)
variable (unmarked : ∀ cls ∈ workspace.registry.toList,
  cls.hasConstructor = false ∧ cls.parentHasConstructor = false)
variable (member : cls ∈ (workspace.registry.adjust config).value.toList)

include unmarked member in
theorem unmarked_adjust : cls.hasConstructor = false ∧ cls.parentHasConstructor = false := by
  rw [Registry.toList_adjust] at member
  obtain ⟨before, memberBefore, rfl⟩ := List.mem_map.mp member
  rw [(before.marks_adjusted config).2.1, (before.marks_adjusted config).2.2]
  exact unmarked before memberBefore

include ended files unmarked member

/-- Where there were no files, the declaration of a class has the constructor that the class
needs, marked by what the adjusted classes say of its ancestors. -/
theorem exists_declaration_finished :
    ∃ decl done, finished.declaration? config cls = some decl ∧
      decl.constructor? = Class.constructor? done config ∧ done.bare = cls.bare ∧
      done.parentHasConstructor =
        (((workspace.registry.adjust config).value.hierarchy config).inheritsConstructor
          cls.name).getD false := by
  obtain ⟨done, declared, same, marked⟩ := exists_mergeDeclaration_finished ended member
  have fresh : workspace.declaration? config cls = none := by
    rw [declaration?, files]
    rfl
  rw [fresh, Option.getD_none] at declared
  rw [(unmarked_adjust unmarked member).2] at marked
  exact ⟨_, done, declared, Class.constructor?_mergeDeclaration done config _, same, marked⟩

theorem declaresConstructor_iff :
    finished.DeclaresConstructor config cls ↔ cls.needsConstructor config := by
  obtain ⟨decl, done, declared, received, same, _⟩ :=
    exists_declaration_finished ended files unmarked member
  rw [DeclaresConstructor, declared]
  simp only [Option.some_inj, exists_eq_left', received, Class.constructor?_of_bare_eq same]
  cases cls.needsConstructor config <;> simp

end Unmarked

/-- When a generation that began without files and without marks has ended well, the
declaration of a class has a constructor exactly when the class holds a property in a
collection.  The constructor calls that of the parent exactly when the file of another
class, which is an ancestor, declares one; after that it fills the collections, in the
order of the names. -/
theorem constructor?_finished
    (ended : (workspace.generate config).value = (finished, .ok summary))
    (files : workspace.files = ∅)
    (unmarked : ∀ cls ∈ workspace.registry.toList,
      cls.hasConstructor = false ∧ cls.parentHasConstructor = false)
    (member : cls ∈ (workspace.registry.adjust config).value.toList) :
    ∃ decl, finished.declaration? config cls = some decl ∧
      (decl.constructor?.isSome ↔
        ∃ property ∈ cls.properties.toList,
          property.isCollection config.persistence.useCollection) ∧
      ∀ constructor, decl.constructor? = some constructor → ∃ calls : Bool,
        (calls ↔ ∃ other ∈ (workspace.registry.adjust config).value.toList,
          other.name ≠ cls.name ∧
          (workspace.registry.adjust config).value.IsAncestor cls.name other.name ∧
          finished.DeclaresConstructor config other) ∧
        constructor.body = (if calls then ["parent::__construct();"] else []) ++
          (cls.properties.toList.filter
            (·.isCollection config.persistence.useCollection)).map fun property =>
              "$this->" ++ property.name ++ " = new ArrayCollection();" := by
  obtain ⟨decl, done, declared, received, same, marked⟩ :=
    exists_declaration_finished ended files unmarked member
  have inherits : done.parentHasConstructor ↔
      ∃ other ∈ (workspace.registry.adjust config).value.toList, other.name ≠ cls.name ∧
        (workspace.registry.adjust config).value.IsAncestor cls.name other.name ∧
        finished.DeclaresConstructor config other := by
    rw [marked, Registry.inheritsConstructor_hierarchy_iff]
    refine exists_congr fun other => and_congr_right fun memberOther => ?_
    rw [declaresConstructor_iff ended files unmarked memberOther, Class.declaresConstructor,
      (unmarked_adjust unmarked memberOther).1, Bool.false_or]
  refine ⟨decl, declared, ?_, ?_⟩
  · rw [← Class.needsConstructor_iff, ← declaresConstructor_iff ended files unmarked member,
      DeclaresConstructor, declared]
    simp
  · intro constructor found
    refine ⟨done.parentHasConstructor, inherits, ?_⟩
    rw [received, Class.constructor?_of_bare_eq same] at found
    split at found
    · cases found
      rfl
    · cases found

/-- Three classes each of which is an ancestor of all: the constructor of one calls that of
the grandparent, past a parent that needs none. -/
theorem constructor?_finished_cycle :
    let config : Config := { annotators := [], identifier := { generate := false } }
    let people (name : String) : Property :=
      { name := name, isArray := true, range := some (.ofUri "Person") }
    let book : Class :=
      { name := "Book"
        parent := .named "Work"
        properties := .ofList [people "readers", people "authors"] }
    let thing : Class :=
      { name := "Thing", parent := .named "Book", properties := .ofList [people "owners"] }
    let work : Class := { name := "Work", parent := .named "Thing" }
    let workspace : Workspace := { registry := .ofList [book, thing, work] }
    let finished := (workspace.generate config).value.1
    (workspace.generate config).value = (finished, .ok ⟨3, 3, 0, 11⟩) ∧ workspace.files = ∅ ∧
      (∀ cls ∈ workspace.registry.toList,
        cls.hasConstructor = false ∧ cls.parentHasConstructor = false) ∧
      book ∈ (workspace.registry.adjust config).value.toList ∧
      ∃ decl ∈ finished.declaration? config book, ∃ constructor ∈ decl.constructor?,
        constructor.body =
          ["parent::__construct();", "$this->authors = new ArrayCollection();",
            "$this->readers = new ArrayCollection();"] := by
  intro config people book thing work workspace finished
  have ended : (workspace.generate config).value = (finished, .ok ⟨3, 3, 0, 11⟩) :=
    generate_eq_ok_of_toOption (by decide +kernel)
  have unmarked : ∀ cls ∈ workspace.registry.toList,
      cls.hasConstructor = false ∧ cls.parentHasConstructor = false := by
    decide +kernel
  have member : book ∈ (workspace.registry.adjust config).value.toList := by decide +kernel
  obtain ⟨decl, declared, needed, bodies⟩ := constructor?_finished ended rfl unmarked member
  have collects : ∃ property ∈ book.properties.toList,
      property.isCollection config.persistence.useCollection := by
    decide +kernel
  obtain ⟨constructor, received⟩ := Option.isSome_iff_exists.mp (needed.mpr collects)
  obtain ⟨calls, above, body⟩ := bodies constructor received
  have ancestor : (workspace.registry.adjust config).value.IsAncestor "Book" "Thing" :=
    .tail (.single (b := "Work") (by decide +kernel)) (by decide +kernel)
  have declares : ∃ decl ∈ finished.declaration? config thing, decl.constructor?.isSome := by
    decide +kernel
  have called : calls = true :=
    above.mpr ⟨thing, by decide +kernel, by decide, ancestor, declares⟩
  refine ⟨ended, rfl, unmarked, member, decl, declared, constructor, received, body.trans ?_⟩
  rw [called]
  decide +kernel

end Workspace

end EntityGen
