import EntityGen.Proofs.Merge.Settled
import EntityGen.Table.Lemmas
import Mathlib.Data.List.Nodup
import Mathlib.Data.List.TakeWhile

/-!
# Accessors after a merge

An accessor is known by its kind and its property, and its name is the verb of the kind
followed by a stem that is made of the name of the property.  Properties of different
names may have one stem: `familyName` and `family_name` have the same getter, `actor`
and `actors` the same adder.

A method is appended only where none of its name is there.  In a new declaration an
accessor is therefore found, and serves the field of its property, unless a property
declared before has one of the same name (`Class.serves_of_isFirst`).
-/

namespace EntityGen

/-- The kinds of accessors. -/
inductive AccessorKind
  /-- Returns a field. -/
  | getter
  /-- Appends a value to a field that holds many. -/
  | adder
  /-- Removes a value from a field that holds many. -/
  | remover
  /-- Assigns a field. -/
  | setter
  deriving DecidableEq, Repr

namespace AccessorKind

/-- All kinds, in the order in which a property has them. -/
def all : List AccessorKind := [.getter, .adder, .remover, .setter]

/-- The word with which the names of accessors begin. -/
def verb : AccessorKind → String
  | .getter => "get"
  | .adder => "add"
  | .remover => "remove"
  | .setter => "set"

/-- Whether a property has an accessor of a kind. -/
def appliesTo (property : Property) : AccessorKind → Bool
  | .getter => property.isReadable
  | .adder | .remover => property.isWritable && (property.isArray && !property.isEnum)
  | .setter => property.isWritable && !(property.isArray && !property.isEnum)

/-- What the name of an accessor takes from its property. -/
def stem (property : Property) : AccessorKind → String
  | .getter | .setter => Text.upperCamel property.name
  | .adder | .remover => Text.upperCamel property.itemName

/-- The accessor of a property. -/
def method (property : Property) (config : Config) (className : String) : AccessorKind → Method
  | .getter => property.getter config className
  | .adder => property.adder config
  | .remover => property.remover config
  | .setter => property.setter config className

/-- The lines by which a method with the given parameters does what its kind says to a
field. -/
def forms (field : String) : AccessorKind → List Parameter → List (List String)
  | .getter, [] => [["return $this->" ++ field ++ ";"]]
  | .adder, [value] => [["$this->" ++ field ++ "[] = $" ++ value.name ++ ";"]]
  | .remover, [value] =>
    [["$this->" ++ field ++ "->removeElement($" ++ value.name ++ ");"],
      ["if (false !== $key = array_search($" ++ value.name ++ ", $this->" ++ field ++
          ", true)) \x7b",
        "    unset($this->" ++ field ++ "[$key]);",
        "\x7d"]]
  | .setter, [value] => [["$this->" ++ field ++ " = $" ++ value.name ++ ";"]]
  | _, _ => []

/-- A method does to a field what the kind says, before anything else. -/
def Serves (kind : AccessorKind) (field : String) (method : Method) : Prop :=
  ∃ lines ∈ kind.forms field method.parameters, lines <+: method.body

/-- The methods that are named like the accessors of a kind. -/
def among (kind : AccessorKind) (methods : List Method) : List Method :=
  methods.filter fun method => kind.verb.toList.isPrefixOf method.name.toList

instance (kind : AccessorKind) (field : String) (method : Method) :
    Decidable (kind.Serves field method) :=
  inferInstanceAs (Decidable (∃ lines ∈ kind.forms field method.parameters, lines <+: method.body))

/-! ## Accessors of one property -/

variable {kind other : AccessorKind} {property : Property} {config : Config} {className : String}

theorem accessors_eq (property : Property) (config : Config) (className : String) :
    property.accessors config className =
      (all.filter (·.appliesTo property)).map (·.method property config className) := by
  rw [Property.accessors, Property.mutators]
  cases readable : property.isReadable <;> cases writable : property.isWritable <;>
    cases many : property.isArray && !property.isEnum <;>
    simp [all, appliesTo, method, readable, writable, many]

theorem name_method (kind : AccessorKind) (property : Property) (config : Config)
    (className : String) :
    (kind.method property config className).name = kind.verb ++ kind.stem property := by
  cases kind <;> rfl

/-- The name of an accessor tells its kind. -/
theorem verb_append_inj {stem rest : String} :
    kind.verb ++ stem = other.verb ++ rest ↔ kind = other ∧ stem = rest := by
  constructor
  · intro same
    have characters : kind.verb.toList ++ stem.toList = other.verb.toList ++ rest.toList := by
      rw [← String.toList_append, ← String.toList_append, same]
    have sameKind : kind = other := by
      cases kind <;> cases other <;> simp [verb] at characters ⊢
    subst other
    exact ⟨rfl, (String.append_right_inj kind.verb).mp same⟩
  · rintro ⟨rfl, rfl⟩
    rfl

theorem verb_append_ne_constructorName (kind : AccessorKind) (stem : String) :
    kind.verb ++ stem ≠ constructorName := by
  intro same
  have characters : kind.verb.toList ++ stem.toList = constructorName.toList := by
    rw [← String.toList_append, same]
  cases kind <;> simp [verb, constructorName] at characters

theorem find?_accessors (kind : AccessorKind) (property : Property) (config : Config)
    (className stem : String) :
    (property.accessors config className).find? (·.name = kind.verb ++ stem) =
      if kind.appliesTo property ∧ kind.stem property = stem then
        some (kind.method property config className)
      else none := by
  simp only [accessors_eq, List.find?_map, List.find?_filter, Function.comp_def, name_method,
    verb_append_inj, decide_eq_true_eq]
  split
  next has => cases kind <;> simp [all, has]
  next hasNot =>
    rw [Option.map_eq_none_iff, List.find?_eq_none]
    rintro other _ found
    obtain ⟨applies, rfl, same⟩ := of_decide_eq_true found
    exact hasNot ⟨applies, same⟩

/-- A property has at most one accessor of a kind. -/
theorem among_accessors (kind : AccessorKind) (property : Property) (config : Config)
    (className : String) :
    kind.among (property.accessors config className) =
      if kind.appliesTo property then [kind.method property config className] else [] := by
  have begins (other : AccessorKind) (stem : String) :
      kind.verb.toList.isPrefixOf (other.verb ++ stem).toList = decide (kind = other) := by
    rw [String.toList_append]
    cases kind <;> cases other <;> simp [verb, List.isPrefixOf]
  simp only [among, accessors_eq, List.filter_map, Function.comp_def, name_method, begins,
    List.filter_filter]
  cases applies : kind.appliesTo property <;> cases kind <;> simp [all, applies]

theorem among_accessors_of_appliesTo (applies : kind.appliesTo property) (config : Config)
    (className : String) :
    kind.among (property.accessors config className) = [kind.method property config className] := by
  rw [among_accessors, if_pos applies]

theorem among_accessors_of_not_appliesTo (lacks : ¬kind.appliesTo property) (config : Config)
    (className : String) : kind.among (property.accessors config className) = [] := by
  rw [among_accessors, if_neg lacks]

theorem appliesTo_setter (writable : property.isWritable) (single : property.isArray = false) :
    AccessorKind.setter.appliesTo property := by
  simp [appliesTo, writable, single]

theorem parameters_mutator (config : Config) (name : String) (parameter : Parameter)
    (body : List String) : (mutator config name parameter body).parameters = [parameter] := rfl

theorem name_itemParameter (property : Property) :
    property.itemParameter.name = property.itemName := by
  rw [Property.itemParameter]

theorem find?_accessors_constructorName (property : Property) (config : Config)
    (className : String) :
    (property.accessors config className).find? (·.name = constructorName) = none := by
  rw [accessors_eq, List.find?_map, Option.map_eq_none_iff, List.find?_eq_none]
  intro kind _ named
  rw [Function.comp, name_method] at named
  exact kind.verb_append_ne_constructorName (kind.stem property) (of_decide_eq_true named)

theorem prefix_body_mutator (config : Config) (name : String) (parameter : Parameter)
    (body : List String) : body <+: (mutator config name parameter body).body := by
  rw [mutator]
  split
  · exact List.prefix_append _ _
  · exact List.prefix_rfl

/-- An accessor does to the field of its property what its kind says. -/
theorem serves_method (kind : AccessorKind) (property : Property) (config : Config)
    (className : String) : kind.Serves property.name (kind.method property config className) := by
  rw [Serves]
  cases kind with
  | getter =>
      rw [method, Property.getter]
      exact ⟨_, List.mem_singleton_self _, List.prefix_rfl⟩
  | adder =>
      rw [method, Property.adder, parameters_mutator, forms, name_itemParameter]
      exact ⟨_, List.mem_singleton_self _, prefix_body_mutator _ _ _ _⟩
  | remover =>
      rw [method, Property.remover, parameters_mutator, forms, name_itemParameter]
      refine ⟨property.removal config, ?_, prefix_body_mutator _ _ _ _⟩
      rw [Property.removal]
      split
      · exact List.mem_cons_self
      · exact List.mem_cons_of_mem _ (List.mem_singleton_self _)
  | setter =>
      rw [method, Property.setter, parameters_mutator, forms]
      exact ⟨_, List.mem_singleton_self _, prefix_body_mutator _ _ _ _⟩

theorem mutator_inj {name otherName : String} {parameter otherParameter : Parameter}
    {body otherBody : List String}
    (same : mutator config name parameter body =
      mutator config otherName otherParameter otherBody) :
    parameter = otherParameter ∧ body = otherBody := by
  have parameters : [parameter] = [otherParameter] := congrArg Method.parameters same
  have bodies := congrArg Method.body same
  simp only [mutator] at bodies
  refine ⟨List.singleton_inj.mp parameters, ?_⟩
  split at bodies
  · exact List.append_cancel_right bodies
  · exact bodies

theorem itemName_eq_of_itemParameter_eq {first second : Property}
    (same : first.itemParameter = second.itemParameter) : first.itemName = second.itemName := by
  rw [← name_itemParameter, same, name_itemParameter]

/-- Properties of different names have different accessors of a kind. -/
theorem name_eq_of_method_eq {first second : Property}
    (same : kind.method first config className = kind.method second config className) :
    first.name = second.name := by
  cases kind with
  | getter =>
      have bodies := congrArg Method.body same
      simpa [method, Property.getter] using bodies
  | setter =>
      obtain ⟨parameters, _⟩ := mutator_inj same
      exact congrArg Parameter.name parameters
  | adder =>
      -- The parameter is named for the item, so that the bodies differ in the field alone.
      obtain ⟨parameters, bodies⟩ := mutator_inj same
      have items := itemName_eq_of_itemParameter_eq parameters
      simpa [items] using bodies
  | remover =>
      obtain ⟨parameters, bodies⟩ := mutator_inj same
      have items := itemName_eq_of_itemParameter_eq parameters
      rw [Property.removal, Property.removal, items] at bodies
      split at bodies <;> split at bodies
      · simpa using bodies
      · simp at bodies
      · simp at bodies
      · simpa using bodies

end AccessorKind

theorem Method.find?_name_of_mem {methods : List Method}
    (distinct : (methods.map Method.name).Nodup) {method : Method} (member : method ∈ methods) :
    methods.find? (·.name = method.name) = some method := by
  cases found : methods.find? (·.name = method.name) with
  | none =>
      have unnamed := List.find?_eq_none.mp found method member
      simp at unnamed
  | some first =>
      have memberFirst := List.mem_of_find?_eq_some found
      have named : first.name = method.name := by simpa using List.find?_some found
      rw [List.inj_on_of_nodup_map distinct memberFirst member named]

theorem Property.isEnum_of_isCollection {property : Property} {useCollection : Bool}
    (held : property.isCollection useCollection) : property.isEnum = false := by
  cases isEnum : property.isEnum with
  | false => rfl
  | true => simp [isCollection, isRelation, columnType?, isEnum] at held

/-! ## Accessors of a class -/

namespace Class

/-- The properties that are declared before a property. -/
def earlier (cls : Class) (property : Property) : List Property :=
  cls.declarationOrder.takeWhile (·.name ≠ property.name)

/-- No property that is declared before has an accessor of the same name. -/
def IsFirst (cls : Class) (kind : AccessorKind) (property : Property) : Prop :=
  ∀ other ∈ cls.earlier property, kind.appliesTo other → kind.stem other ≠ kind.stem property

instance (cls : Class) (kind : AccessorKind) (property : Property) :
    Decidable (cls.IsFirst kind property) :=
  inferInstanceAs (Decidable (∀ other ∈ cls.earlier property,
    kind.appliesTo other → kind.stem other ≠ kind.stem property))

variable {cls : Class} {config : Config} {kind : AccessorKind} {property : Property}

/-- The declaration order of a class around one of its properties. -/
theorem declarationOrder_eq (member : property ∈ cls.properties.toList) :
    ∃ later, cls.declarationOrder = cls.earlier property ++ property :: later := by
  have split : cls.declarationOrder = cls.earlier property ++
      cls.declarationOrder.dropWhile (·.name ≠ property.name) :=
    List.takeWhile_append_dropWhile.symm
  cases rest : cls.declarationOrder.dropWhile (·.name ≠ property.name) with
  | nil =>
      have unnamed := List.dropWhile_eq_nil_iff.mp rest property (mem_declarationOrder.mpr member)
      simp at unnamed
  | cons first later =>
      rw [rest] at split
      have named : first.name = property.name := by
        have stopped := List.head?_dropWhile_not (·.name ≠ property.name) cls.declarationOrder
        rw [rest] at stopped
        simpa using stopped
      have memberFirst : first ∈ cls.properties.toList := by
        rw [← mem_declarationOrder, split]
        exact List.mem_append_right _ List.mem_cons_self
      rw [cls.properties.eq_of_key_eq memberFirst member named] at split
      exact ⟨later, split⟩

/-- The first accessor of a name is that of the first property which has one. -/
theorem find?_accessors_of_isFirst (member : property ∈ cls.properties.toList)
    (applies : kind.appliesTo property) (first : cls.IsFirst kind property) :
    (cls.accessors config).find? (·.name = kind.verb ++ kind.stem property) =
      some (kind.method property config cls.name) := by
  obtain ⟨later, order⟩ := declarationOrder_eq member
  have before : (cls.earlier property).findSome? (fun other =>
      (other.accessors config cls.name).find?
        (·.name = kind.verb ++ kind.stem property)) = none := by
    rw [List.findSome?_eq_none_iff]
    intro other memberEarlier
    rw [AccessorKind.find?_accessors, if_neg]
    rintro ⟨appliesOther, same⟩
    exact first other memberEarlier appliesOther same
  have here : (property.accessors config cls.name).find?
      (·.name = kind.verb ++ kind.stem property) = some (kind.method property config cls.name) := by
    rw [AccessorKind.find?_accessors, if_pos ⟨applies, rfl⟩]
  rw [accessors, List.find?_flatMap, order, List.findSome?_append, before, List.findSome?_cons,
    here]
  rfl

/-- An accessor of the same name as that of a property declared before is another one. -/
theorem find?_accessors_ne_of_not_isFirst (member : property ∈ cls.properties.toList)
    (notFirst : ¬cls.IsFirst kind property) :
    (cls.accessors config).find? (·.name = kind.verb ++ kind.stem property) ≠
      some (kind.method property config cls.name) := by
  intro found
  obtain ⟨later, order⟩ := declarationOrder_eq member
  rw [accessors, List.find?_flatMap, order, List.findSome?_append] at found
  cases before : (cls.earlier property).findSome? (fun other =>
      (other.accessors config cls.name).find? (·.name = kind.verb ++ kind.stem property)) with
  | none =>
      apply notFirst
      intro other memberEarlier applies same
      have unnamed := List.findSome?_eq_none_iff.mp before other memberEarlier
      rw [AccessorKind.find?_accessors, if_pos ⟨applies, same⟩] at unnamed
      cases unnamed
  | some method =>
      -- The method is that of an earlier property, whose name its body gives away.
      rw [before, Option.some_or, Option.some_inj] at found
      subst method
      obtain ⟨other, memberEarlier, accessor⟩ := List.exists_of_findSome?_eq_some before
      have different : other.name ≠ property.name := by
        simpa using List.mem_takeWhile_imp memberEarlier
      rw [AccessorKind.find?_accessors] at accessor
      split at accessor
      · exact different (AccessorKind.name_eq_of_method_eq (Option.some_inj.mp accessor))
      · cases accessor

/-! ## Collections -/

theorem collectionProperties_eq (cls : Class) (config : Config) :
    cls.collectionProperties config =
      cls.properties.toList.filter (·.isCollection config.persistence.useCollection) := by
  apply List.filter_congr
  intro property _
  by_cases held : property.isCollection config.persistence.useCollection
  · simp [held, Property.isEnum_of_isCollection held]
  · simp [held]

theorem needsConstructor_iff (cls : Class) (config : Config) :
    cls.needsConstructor config ↔
      ∃ property ∈ cls.properties.toList,
        property.isCollection config.persistence.useCollection := by
  simp [needsConstructor, collectionProperties_eq, List.filter_eq_nil_iff]

/-! ## Methods of a merged declaration -/

variable {decl : ClassDeclaration}

theorem methods_mergeDeclaration_of_accessors (generated : config.accessorMethods) (cls : Class)
    (decl : ClassDeclaration) :
    (cls.mergeDeclaration config decl).methods =
      (cls.accessors config).foldl Method.appendNew
        (cls.newConstructor config decl ++ decl.methods) := by
  rw [methods_mergeDeclaration, mergedMethods, if_pos generated]

theorem name_of_mem_newConstructor {method : Method}
    (member : method ∈ cls.newConstructor config decl) : method.name = constructorName := by
  rw [newConstructor] at member
  split at member
  · exact name_of_constructor? (Option.mem_toList.mp member)
  · cases member

/-- A declaration keeps the constructor that it has; else that of the class is put. -/
theorem constructor?_mergeDeclaration (cls : Class) (config : Config) (decl : ClassDeclaration) :
    (cls.mergeDeclaration config decl).constructor? =
      decl.constructor?.or (cls.constructor? config) := by
  have added : (cls.newConstructor config decl).find? (·.name = constructorName) =
      if decl.constructor?.isNone then cls.constructor? config else none := by
    rw [newConstructor]
    split
    · cases needed : cls.constructor? config with
      | none => rfl
      | some constructor => simp [name_of_constructor? needed]
    · rfl
  have noAccessor : (cls.accessors config).find? (·.name = constructorName) = none := by
    rw [accessors, List.find?_flatMap, List.findSome?_eq_none_iff]
    intro property _
    exact AccessorKind.find?_accessors_constructorName property config cls.name
  have methods : (cls.newConstructor config decl ++ decl.methods).find? (·.name = constructorName) =
      decl.constructor?.or (cls.constructor? config) := by
    have held : decl.methods.find? (·.name = constructorName) = decl.constructor? := rfl
    rw [List.find?_append, added, held]
    cases decl.constructor? <;> simp
  rw [ClassDeclaration.constructor?, ClassDeclaration.method?, methods_mergeDeclaration,
    mergedMethods]
  split
  · rw [Method.find?_foldl_appendNew, noAccessor, Option.or_none, methods]
  · exact methods

/-- The accessors that are found in a declaration which had no methods are the first of
their names. -/
theorem method?_mergeDeclaration_of_nil (generated : config.accessorMethods)
    (methods : decl.methods = []) (kind : AccessorKind) (stem : String) :
    (cls.mergeDeclaration config decl).method? (kind.verb ++ stem) =
      (cls.accessors config).find? (·.name = kind.verb ++ stem) := by
  have noAccessor : (cls.newConstructor config decl).find? (·.name = kind.verb ++ stem) = none := by
    rw [List.find?_eq_none]
    intro method member named
    rw [name_of_mem_newConstructor member] at named
    exact kind.verb_append_ne_constructorName stem (of_decide_eq_true named).symm
  rw [ClassDeclaration.method?, methods_mergeDeclaration_of_accessors generated, methods, List.append_nil,
    Method.find?_foldl_appendNew, noAccessor, Option.none_or]

theorem nodup_methods_mergeDeclaration (generated : config.accessorMethods)
    (methods : decl.methods = []) :
    ((cls.mergeDeclaration config decl).methods.map Method.name).Nodup := by
  rw [methods_mergeDeclaration_of_accessors generated, methods, List.append_nil]
  apply Method.nodup_foldl_appendNew
  rw [newConstructor]
  split
  · cases cls.constructor? config <;> simp
  · simp

/-- In a declaration that had no methods exactly the first accessors of their names
are put. -/
theorem mem_methods_iff_isFirst (generated : config.accessorMethods) (methods : decl.methods = [])
    (member : property ∈ cls.properties.toList) (applies : kind.appliesTo property) :
    kind.method property config cls.name ∈ (cls.mergeDeclaration config decl).methods ↔
      cls.IsFirst kind property := by
  have lookup := cls.method?_mergeDeclaration_of_nil generated methods kind (kind.stem property)
  constructor
  · intro present
    by_contra notFirst
    apply find?_accessors_ne_of_not_isFirst member notFirst
    rw [← lookup, ← AccessorKind.name_method kind property config cls.name]
    exact Method.find?_name_of_mem (nodup_methods_mergeDeclaration generated methods) present
  · intro first
    rw [find?_accessors_of_isFirst member applies first] at lookup
    exact List.mem_of_find?_eq_some lookup

/-- When a class is merged into a file that did not declare it, every accessor of its
properties that is the first of its name serves the field of its property, and every
other accessor is left out. -/
theorem serves_of_isFirst {file : SourceFile} (generated : config.accessorMethods)
    (missing : file.classIn? (config.namespaceFor cls) cls.name = none) :
    ∃ decl,
      (cls.merge config file).value.1.classIn? (config.namespaceFor cls) cls.name = some decl ∧
      ∀ property ∈ cls.properties.toList, ∀ kind : AccessorKind, kind.appliesTo property →
        (cls.IsFirst kind property → ∃ method ∈ decl.methods, kind.Serves property.name method) ∧
        (¬cls.IsFirst kind property → kind.method property config cls.name ∉ decl.methods) := by
  have fresh : (cls.declarationIn config file).methods = [] := by
    rw [declarationIn, missing]
    rfl
  refine ⟨_, cls.classIn?_mergeFile config file, ?_⟩
  intro property member kind applies
  have present := mem_methods_iff_isFirst generated fresh member applies
  constructor
  · intro first
    exact ⟨_, present.mpr first, kind.serves_method property config cls.name⟩
  · intro notFirst held
    exact notFirst (present.mp held)

/-- A file that declares another class; the adder of `actor` is the first of its name. -/
theorem serves_of_isFirst_film :
    let actor : Property := { name := "actor", isArray := true, range := some (.ofUri "Person") }
    let actors : Property := { actor with name := "actors" }
    let film : Class := { name := "Film", properties := .ofList [actor, actors] }
    let file : SourceFile :=
      { namespaces := [{ name := "App\\Entity", classes := [{ name := "Person" }] }] }
    ({} : Config).accessorMethods ∧ file.classIn? "App\\Entity" "Film" = none ∧
      ∃ decl, (film.merge {} file).value.1.classIn? "App\\Entity" "Film" = some decl ∧
        (∃ method ∈ decl.methods, AccessorKind.adder.Serves "actor" method) ∧
        (∃ method ∈ decl.methods, AccessorKind.getter.Serves "actors" method) ∧
        actors.adder {} ∉ decl.methods := by
  intro actor actors film file
  have missing : file.classIn? (Config.namespaceFor {} film) film.name = none := by decide
  obtain ⟨decl, declared, served⟩ := serves_of_isFirst (by rfl) missing
  have memberActor : actor ∈ film.properties.toList := by decide +kernel
  have memberActors : actors ∈ film.properties.toList := by decide +kernel
  refine ⟨rfl, missing, decl, declared, ?_, ?_, ?_⟩
  · exact (served actor memberActor .adder rfl).1 (by decide +kernel)
  · exact (served actors memberActors .getter rfl).1 (by decide +kernel)
  · exact (served actors memberActors .adder rfl).2 (by decide +kernel)

/-- The values of `actors` cannot be added or removed: the methods for that serve
`actor`. -/
theorem adder_lost :
    let actor : Property := { name := "actor", isArray := true, range := some (.ofUri "Person") }
    let actors : Property := { actor with name := "actors" }
    let film : Class := { name := "Film", properties := .ofList [actor, actors] }
    let file : SourceFile := {}
    actors ∈ film.properties.toList ∧ AccessorKind.adder.appliesTo actors ∧
      ({} : Config).accessorMethods ∧ file.classIn? "App\\Entity" "Film" = none ∧
      ∃ decl, (film.merge {} file).value.1.classIn? "App\\Entity" "Film" = some decl ∧
        ∀ method ∈ decl.methods,
          ¬AccessorKind.adder.Serves "actors" method ∧
            ¬AccessorKind.remover.Serves "actors" method := by
  intro actor actors film file
  have lost : ∀ method ∈ (film.mergeDeclaration {} { name := "Film" }).methods,
      ¬AccessorKind.adder.Serves "actors" method ∧
        ¬AccessorKind.remover.Serves "actors" method := by
    decide +kernel
  exact ⟨by decide +kernel, rfl, rfl, rfl, _, film.classIn?_mergeFile {} file, lost⟩

end Class

end EntityGen
