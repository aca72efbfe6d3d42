import EntityGen.Proofs.Persistence.References
import EntityGen.Proofs.Refusal
import EntityGen.Proofs.Storing

/-!
# Groups of operations

The operations of a class are accepted exactly when each of their groups is a known one and
gives methods; otherwise the first group for which this does not hold is named in the error
(`Operations.Resolves`).  What is accepted are the methods as they are given, and an attribute of
the resource tells both groups as soon as there is one (`Operations.resolve_exact`).
-/

namespace EntityGen

namespace Operations

/-- A group is a known one, and its value gives methods or stands for none. -/
structure WellGrouped (group : String × Json.Value) : Prop where
  known : group.1 = "item" ∨ group.1 = "collection"
  methods : group.2 = .null ∨ group.2 = .array [] ∨ ∃ members, group.2 = .object members

/-- The error that names a group. -/
def refusal (className : String) (group : String × Json.Value) : GenerationError :=
  if group.1 = "item" ∨ group.1 = "collection" then .invalidOperationGroup className group.1
  else .unknownOperationGroup className group.1

/-- Methods with their options are those that a group of a name gives, in their order; where no
group of the name gives any there are none. -/
structure Holds (groups : Arguments) (name : String) (methods : Arguments) : Prop where
  given : ∀ members : Arguments,
    groups.get? name = some (.object members.entries) → methods = members
  absent : (∀ members, groups.get? name ≠ some (.object members)) → methods = ∅

/-- What comes of groups of operations. -/
inductive Resolves (className : String) (groups : Arguments) :
    Except GenerationError Operations → Prop
  | accepted {operations : Operations}
      (wellGrouped : ∀ group ∈ groups.entries, WellGrouped group)
      (item : Holds groups "item" operations.item)
      (collection : Holds groups "collection" operations.collection) :
      Resolves className groups (.ok operations)
  | refused {before after : List (String × Json.Value)} {group : String × Json.Value}
      (split : groups.entries = before ++ group :: after)
      (earlier : ∀ other ∈ before, WellGrouped other) (wrong : ¬WellGrouped group) :
      Resolves className groups (.error (refusal className group))

/-- The groups that give operations. -/
def groups (operations : Operations) : Arguments :=
  .ofList [("item", .object operations.item.entries),
    ("collection", .object operations.collection.entries)]

end Operations

/-- An attribute offers a class as a resource, with both groups of operations when the class has
groups at all. -/
structure Resource.Offers (cls : Class) (operations : Operations) (attr : Attribute) : Prop where
  name : attr.name = "ApiResource"
  item : attr.argument? "itemOperations" =
    if cls.operations.isEmpty then none else some (.object operations.item.entries)
  collection : attr.argument? "collectionOperations" =
    if cls.operations.isEmpty then none else some (.object operations.collection.entries)

namespace Operations

/-! ## One group -/

/-- The methods that a group gives under a name. -/
def methodsUnder (name : String) (group : String × Json.Value) : List (String × Json.Value) :=
  if group.1 = name then (methods? group.2).getD [] else []

variable {className : String} {group : String × Json.Value}

theorem WellGrouped.exists_methods (wellGrouped : WellGrouped group) :
    ∃ methods, methods? group.2 = some methods := by
  rcases wellGrouped.methods with null | empty | ⟨members, mapping⟩
  · exact ⟨[], by rw [null]; rfl⟩
  · exact ⟨[], by rw [empty]; rfl⟩
  · exact ⟨members, by rw [mapping]; rfl⟩

theorem addGroup_of_wellGrouped (operations : Operations) (wellGrouped : WellGrouped group) :
    addGroup className operations group =
      .ok ⟨operations.item.insertAll (methodsUnder "item" group),
        operations.collection.insertAll (methodsUnder "collection" group)⟩ := by
  obtain ⟨methods, given⟩ := wellGrouped.exists_methods
  rw [addGroup, methodsUnder, methodsUnder, given]
  rcases wellGrouped.known with named | named
  · rw [named]
    rfl
  · rw [named]
    rfl

theorem addGroup_of_not_wellGrouped (operations : Operations) (wrong : ¬WellGrouped group) :
    addGroup className operations group = .error (refusal className group) := by
  rw [addGroup, refusal]
  by_cases known : group.1 = "item" ∨ group.1 = "collection"
  · have given : methods? group.2 = none := by
      rw [methods?_eq_none_iff]
      exact ⟨fun null => wrong ⟨known, .inl null⟩, fun empty => wrong ⟨known, .inr (.inl empty)⟩,
        fun members mapping => wrong ⟨known, .inr (.inr ⟨members, mapping⟩)⟩⟩
    rw [given, if_pos known]
    rcases known with named | named
    · rw [named]
      rfl
    · rw [named]
      rfl
  · rw [if_neg known]
    rw [not_or] at known
    rw [if_neg known.1, if_neg known.2]

/-! ## All groups -/

theorem foldlM_addGroup (operations : Operations) {entries : List (String × Json.Value)}
    (wellGrouped : ∀ group ∈ entries, WellGrouped group) :
    entries.foldlM (addGroup className) operations =
      .ok ⟨operations.item.insertAll (entries.flatMap (methodsUnder "item")),
        operations.collection.insertAll (entries.flatMap (methodsUnder "collection"))⟩ := by
  induction entries generalizing operations with
  | nil => rfl
  | cons group rest ih =>
      obtain ⟨first, later⟩ := List.forall_mem_cons.mp wellGrouped
      rw [List.foldlM_cons, addGroup_of_wellGrouped operations first]
      refine (ih _ later).trans ?_
      simp only [OrderedMap.insertAll, List.flatMap_cons, List.foldl_append]

/-- Where names do not repeat, the methods under a name are those of the one group of it. -/
theorem flatMap_methodsUnder (name : String) {entries : List (String × Json.Value)}
    (distinct : (entries.map Prod.fst).Nodup) :
    entries.flatMap (methodsUnder name) = ((entries.lookup name).bind methods?).getD [] := by
  induction entries with
  | nil => rfl
  | cons group rest ih =>
      obtain ⟨fresh, distinctRest⟩ := List.nodup_cons.mp distinct
      obtain ⟨other, value⟩ := group
      rw [List.flatMap_cons, ih distinctRest, methodsUnder]
      by_cases same : other = name
      · subst same
        rw [OrderedMap.lookup_eq_none_of_notMem_keys fresh, List.lookup_cons_self, if_pos rfl]
        exact List.append_nil _
      · rw [if_neg same, List.lookup_cons, beq_false_of_ne (Ne.symm same)]
        rfl

/-- The methods that the group of a name gives. -/
def methodsOf (groups : Arguments) (name : String) : Arguments :=
  .ofList (((groups.get? name).bind methods?).getD [])

theorem holds_methodsOf (groups : Arguments) (name : String) :
    Holds groups name (methodsOf groups name) where
  given members found := by
    rw [methodsOf, found]
    exact members.ofList_entries
  absent other := by
    have none : ((groups.get? name).bind methods?).getD [] = [] := by
      cases found : groups.get? name with
      | none => rfl
      | some value =>
          cases value with
          | object members => exact absurd found (other members)
          | array items => cases items <;> rfl
          | _ => rfl
    rw [methodsOf, none]
    rfl

theorem resolve_of_wellGrouped (className : String) {groups : Arguments}
    (wellGrouped : ∀ group ∈ groups.entries, WellGrouped group) :
    resolve className groups = .ok ⟨methodsOf groups "item", methodsOf groups "collection"⟩ := by
  rw [resolve, foldlM_addGroup {} wellGrouped, flatMap_methodsUnder "item" groups.distinct,
    flatMap_methodsUnder "collection" groups.distinct]
  rfl

/-- What follows the first wrong group is not looked at. -/
theorem resolve_of_split {groups : Arguments} {before after : List (String × Json.Value)}
    (split : groups.entries = before ++ group :: after)
    (earlier : ∀ other ∈ before, WellGrouped other) (wrong : ¬WellGrouped group) :
    resolve className groups = .error (refusal className group) := by
  rw [resolve, split, List.foldlM_append, foldlM_addGroup {} earlier]
  change (group :: after).foldlM (addGroup className) _ = _
  rw [List.foldlM_cons, addGroup_of_not_wellGrouped _ wrong]
  rfl

theorem exists_first_wrong {groups : Arguments}
    (wrong : ¬∀ group ∈ groups.entries, WellGrouped group) :
    ∃ before group after, groups.entries = before ++ group :: after ∧
      (∀ other ∈ before, WellGrouped other) ∧ ¬WellGrouped group := by
  classical
  simp only [not_forall] at wrong
  obtain ⟨group, member, flawed⟩ := wrong
  have present : (groups.entries.find? fun group => ¬WellGrouped group).isSome := by
    rw [List.find?_isSome]
    exact ⟨group, member, by simpa using flawed⟩
  obtain ⟨first, found⟩ := Option.isSome_iff_exists.mp present
  obtain ⟨isWrong, before, after, split, earlier⟩ := List.find?_eq_some_iff_append.mp found
  exact ⟨before, first, after, split, by simpa using earlier, by simpa using isWrong⟩

theorem resolves_resolve (className : String) (groups : Arguments) :
    Resolves className groups (resolve className groups) := by
  by_cases wellGrouped : ∀ group ∈ groups.entries, WellGrouped group
  · rw [resolve_of_wellGrouped className wellGrouped]
    exact .accepted wellGrouped (holds_methodsOf groups _) (holds_methodsOf groups _)
  · obtain ⟨before, group, after, split, earlier, wrong⟩ := exists_first_wrong wellGrouped
    rw [resolve_of_split split earlier wrong]
    exact .refused split earlier wrong

theorem resolve_eq_ok_iff {groups : Arguments} {operations : Operations} :
    resolve className groups = .ok operations ↔
      (∀ group ∈ groups.entries, WellGrouped group) ∧
        operations = ⟨methodsOf groups "item", methodsOf groups "collection"⟩ := by
  constructor
  · intro ended
    by_cases wellGrouped : ∀ group ∈ groups.entries, WellGrouped group
    · rw [resolve_of_wellGrouped className wellGrouped] at ended
      exact ⟨wellGrouped, (Except.ok.inj ended).symm⟩
    · obtain ⟨before, group, after, split, earlier, wrong⟩ := exists_first_wrong wellGrouped
      rw [resolve_of_split split earlier wrong] at ended
      cases ended
  · rintro ⟨wellGrouped, rfl⟩
    exact resolve_of_wellGrouped className wellGrouped

theorem resolve_of_perm {groups other : Arguments} {operations : Operations}
    (ended : resolve className groups = .ok operations)
    (reordered : other.entries.Perm groups.entries) :
    resolve className other = .ok operations := by
  obtain ⟨wellGrouped, rfl⟩ := resolve_eq_ok_iff.mp ended
  have each : ∀ group ∈ other.entries, WellGrouped group := fun group member =>
    wellGrouped group (reordered.mem_iff.mp member)
  rw [resolve_of_wellGrouped className each]
  simp only [methodsOf, OrderedMap.get?_eq_of_perm reordered]

/-- Operations come of the groups that they give. -/
theorem resolve_groups (className : String) (operations : Operations) :
    resolve className operations.groups = .ok operations := by
  have entries : operations.groups.entries =
      [("item", .object operations.item.entries),
        ("collection", .object operations.collection.entries)] := rfl
  have wellGrouped : ∀ group ∈ operations.groups.entries, WellGrouped group := by
    rw [entries, List.forall_mem_cons, List.forall_mem_singleton]
    exact ⟨⟨.inl rfl, .inr (.inr ⟨_, rfl⟩)⟩, ⟨.inr rfl, .inr (.inr ⟨_, rfl⟩)⟩⟩
  have item := (holds_methodsOf operations.groups "item").given operations.item rfl
  have collection :=
    (holds_methodsOf operations.groups "collection").given operations.collection rfl
  rw [resolve_of_wellGrouped className wellGrouped, item, collection]

end Operations

/-! ## Resources -/

namespace Resource

variable {cls : Class}

theorem exists_withOperations {operations : Operations} (plain : Attribute)
    (ended : Operations.resolve cls.name cls.operations = .ok operations)
    (name : plain.name = "ApiResource") (item : plain.argument? "itemOperations" = none)
    (collection : plain.argument? "collectionOperations" = none) :
    ∃ attr, withOperations cls plain = .ok attr ∧ Offers cls operations attr := by
  rw [withOperations]
  split
  next empty =>
    refine ⟨plain, rfl, name, ?_, ?_⟩
    · rw [item, if_pos empty]
    · rw [collection, if_pos empty]
  next given =>
    rw [ended]
    refine ⟨_, rfl, name, ?_, ?_⟩
    · simp [given]
    · simp [given]

/-- A resource is offered with the operations that its groups resolve to. -/
theorem exists_classAttributes (offered : isResource cls) {operations : Operations}
    (ended : Operations.resolve cls.name cls.operations = .ok operations) :
    ∃ attr, classAttributes cls = .ok [attr] ∧ Offers cls operations attr := by
  rw [classAttributes, if_pos offered]
  extract_lets named typed secured
  have unset {key : String} (other : key ≠ "shortName" ∧ key ≠ "types" ∧ key ≠ "security") :
      secured.argument? key = none := by
    have bare : (⟨"ApiResource", ∅⟩ : Attribute).argument? key = none := rfl
    simp [secured, typed, named, other, bare]
  obtain ⟨attr, complete, offers⟩ := exists_withOperations secured ended
    (by simp [secured, typed, named]) (unset (by decide)) (unset (by decide))
  refine ⟨attr, ?_, offers⟩
  rw [complete]
  rfl

/-- Where the groups are refused, so is the resource. -/
theorem classAttributes_of_error (offered : isResource cls) {error : GenerationError}
    (ended : Operations.resolve cls.name cls.operations = .error error) :
    classAttributes cls = .error error := by
  have given : ¬cls.operations.isEmpty := by
    intro empty
    have none : cls.operations.entries = [] := List.isEmpty_iff.mp empty
    rw [Operations.resolve, none] at ended
    cases ended
  simp only [classAttributes, offered, if_true, withOperations, given, ended]
  rfl

end Resource

namespace Operations

/-- Groups of operations resolve exactly when each is a known one and gives methods or none, and
otherwise the error names the first that is not.  The methods that come of them are those given,
in whatever order the groups stand; they are given again by the groups made of them.  A resource
carries both groups exactly when it has any groups at all. -/
theorem resolve_exact (className : String) (groups : Arguments) :
    ((∃ operations, resolve className groups = .ok operations) ↔
        ∀ group ∈ groups.entries, WellGrouped group) ∧
      Resolves className groups (resolve className groups) ∧
      (∀ operations, resolve className groups = .ok operations →
        (∀ other : Arguments, other.entries.Perm groups.entries →
          resolve className other = .ok operations) ∧
        resolve className operations.groups = .ok operations) ∧
      ∀ cls : Class, Resource.isResource cls → cls.name = className → cls.operations = groups →
        (∀ error, resolve className groups = .error error →
          Resource.classAttributes cls = .error error) ∧
        ∀ operations, resolve className groups = .ok operations →
          ∃ attr, Resource.classAttributes cls = .ok [attr] ∧
            Resource.Offers cls operations attr := by
  refine ⟨?_, resolves_resolve className groups, ?_, ?_⟩
  · simp only [resolve_eq_ok_iff, exists_and_left, exists_eq, and_true]
  · intro operations ended
    exact ⟨fun _ reordered => resolve_of_perm ended reordered,
      resolve_groups className operations⟩
  · rintro cls offered rfl rfl
    exact ⟨fun _ ended => Resource.classAttributes_of_error offered ended,
      fun _ ended => Resource.exists_classAttributes offered ended⟩

/-- Of two wrong groups the first is named. -/
example :
    resolve "Book"
        (.ofList [("item", .null), ("weird", .object []), ("collection", .string "get")]) =
      .error (.unknownOperationGroup "Book" "weird") := rfl

end Operations

end EntityGen
