import EntityGen.Proofs.Merge.Accessors

/-!
# Methods after a merge

The methods of a merged declaration are known exactly: the constructor, when one is put;
the methods that were there; and the accessors whose names were not taken, by those
methods or by accessors before them (`Class.methods_merge`).

Each accessor is compared with a list that has grown by the accessors before it.  The
closed form of these comparisons (`Method.foldl_appendNew_eq`) depends on the names of that
list alone, and the constructor takes none that an accessor could have.
-/

namespace EntityGen

namespace Method

/-- The methods whose names are not taken, by the given names or by a method before. -/
def firstsBeyond (taken : List String) : List Method → List Method
  | [] => []
  | method :: rest =>
    if method.name ∈ taken then firstsBeyond taken rest
    else method :: firstsBeyond (method.name :: taken) rest

/-- Only names that a method of the list has matter. -/
theorem firstsBeyond_congr {taken others : List String} {methods : List Method}
    (agree : ∀ method ∈ methods, method.name ∈ taken ↔ method.name ∈ others) :
    firstsBeyond taken methods = firstsBeyond others methods := by
  induction methods generalizing taken others with
  | nil => rfl
  | cons method rest ih =>
      have agreeRest : ∀ later ∈ rest, later.name ∈ taken ↔ later.name ∈ others :=
        fun later member => agree later (List.mem_cons_of_mem method member)
      have agreeCons : ∀ later ∈ rest,
          later.name ∈ method.name :: taken ↔ later.name ∈ method.name :: others := by
        intro later member
        rw [List.mem_cons, List.mem_cons, agreeRest later member]
      rw [firstsBeyond, firstsBeyond, ih agreeRest, ih agreeCons]
      simp only [agree method List.mem_cons_self]

/-- Methods that are appended one after the other. -/
theorem foldl_appendNew_eq (added methods : List Method) :
    added.foldl appendNew methods =
      methods ++ firstsBeyond (methods.map Method.name) added := by
  induction added generalizing methods with
  | nil => simp [firstsBeyond]
  | cons method rest ih =>
      rw [List.foldl_cons, ih, firstsBeyond]
      by_cases present : method.name ∈ methods.map Method.name
      · have held : methods.any (·.name = method.name) := by simpa using present
        rw [appendNew_eq_self held, if_pos present]
      · have unnamed : ¬methods.any (·.name = method.name) := by simpa using present
        have names : firstsBeyond ((methods ++ [method]).map Method.name) rest =
            firstsBeyond (method.name :: methods.map Method.name) rest := by
          apply firstsBeyond_congr
          intro later _
          simp [or_comm]
        rw [appendNew, if_neg unnamed, if_neg present, names, List.append_assoc,
          List.singleton_append]

end Method

namespace Class

variable {cls : Class} {config : Config}

theorem name_ne_of_mem_accessors {accessor : Method} (member : accessor ∈ cls.accessors config) :
    accessor.name ≠ constructorName := by
  obtain ⟨property, _, ofProperty⟩ := List.mem_flatMap.mp member
  rw [AccessorKind.accessors_eq] at ofProperty
  obtain ⟨kind, _, same⟩ := List.mem_map.mp ofProperty
  rw [← same, AccessorKind.name_method]
  exact kind.verb_append_ne_constructorName _

/-- A constructor that is put in front takes no name from an accessor. -/
theorem mergedMethods_eq (cls : Class) (config : Config) (decl : ClassDeclaration) :
    cls.mergedMethods config decl =
      cls.newConstructor config decl ++ decl.methods ++
        if config.accessorMethods then
          Method.firstsBeyond (decl.methods.map Method.name) (cls.accessors config)
        else [] := by
  rw [mergedMethods]
  split
  · rw [Method.foldl_appendNew_eq]
    congr 1
    apply Method.firstsBeyond_congr
    intro accessor member
    rw [List.map_append, List.mem_append, or_iff_right]
    intro taken
    obtain ⟨constructor, put, same⟩ := List.mem_map.mp taken
    rw [name_of_mem_newConstructor put] at same
    exact name_ne_of_mem_accessors member same.symm
  · rw [List.append_nil]

theorem newConstructor_eq (cls : Class) (config : Config) (decl : ClassDeclaration) :
    cls.newConstructor config decl =
      if decl.hasMethod constructorName = false ∧
          ∃ property ∈ cls.properties.toList,
            property.isCollection config.persistence.useCollection then
        [{ name := constructorName, body := cls.constructorBody config }]
      else [] := by
  have lacks : decl.constructor?.isNone = !decl.hasMethod constructorName := by
    rw [← Option.not_isSome, ClassDeclaration.isSome_constructor?]
    rfl
  rw [newConstructor, constructor?, lacks]
  simp only [← needsConstructor_iff]
  cases decl.hasMethod constructorName <;> cases cls.needsConstructor config <;> simp

/-- The methods of a declaration after a merge into a file, whatever methods it had before:
a constructor, exactly when none was there and the class holds a property in a collection;
all methods that were there; and, when accessors are wanted, those of the identifiers and
then of the other properties whose names are not taken.  What is put in is counted. -/
theorem methods_merge (cls : Class) (config : Config) (file : SourceFile) :
    let before := cls.declarationIn config file
    let constructor : List Method :=
      if before.hasMethod constructorName = false ∧
          ∃ property ∈ cls.properties.toList,
            property.isCollection config.persistence.useCollection then
        [{ name := constructorName, body := cls.constructorBody config }]
      else []
    let properties :=
      cls.properties.toList.filter (·.isId) ++ cls.properties.toList.filter (!·.isId)
    let accessors : List Method :=
      if config.accessorMethods then
        Method.firstsBeyond (before.methods.map Method.name)
          (properties.flatMap fun property => property.accessors config cls.name)
      else []
    ∃ merged,
      (cls.merge config file).value.1.classIn? (config.namespaceFor cls) cls.name = some merged ∧
      merged.methods = constructor ++ before.methods ++ accessors ∧
      (cls.merge config file).value.2.methodsAdded = constructor.length + accessors.length ∧
      merged.methods.length =
        before.methods.length + (cls.merge config file).value.2.methodsAdded := by
  intro before constructor properties accessors
  have methods : cls.mergedMethods config before = constructor ++ before.methods ++ accessors := by
    rw [mergedMethods_eq, newConstructor_eq]
    rfl
  have added : (cls.merge config file).value.2.methodsAdded =
      constructor.length + accessors.length := by
    have counted := cls.methodsAdded_mergeOutcome config before
    rw [methods, List.length_append, List.length_append] at counted
    change (cls.mergeOutcome config before).methodsAdded = _
    omega
  refine ⟨_, cls.classIn?_mergeFile config file, ?_, added, ?_⟩
  · rw [methods_mergeDeclaration, methods]
  · rw [methods_mergeDeclaration, value_merge, ← cls.methodsAdded_mergeOutcome config before,
      Nat.add_comm]

end Class

end EntityGen
