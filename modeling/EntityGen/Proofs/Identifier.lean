import EntityGen.Proofs.Adjust
import Mathlib.Data.Finset.Card

/-!
# Identifiers of adjusted classes

An adjustment gives a class its identifier beside the ones that it models: only a
property of the same name gives way.  After a series of adjustments the identifiers are
those that the class modeled and those that it has received on the way
(`Class.mem_identifierNames_foldl`), so at most one is left exactly when all of them go
under one name (`Registry.length_identifierNames_le_one_iff`).

The placement of identifiers may pass over classes that have a child.  It goes by the
mark of the class, which tells of the parents from before the settings are taken over.
A class that only the settings make a parent receives an identifier all the same
(`Registry.receivedName?_eq_none_iff`).
-/

namespace EntityGen

namespace Class

/-- The names of the properties that identify the instances. -/
def identifierNames (cls : Class) : List String :=
  (cls.properties.toList.filter Property.isId).map Property.name

/-- The name of the identifier that a class receives in its adjustments. -/
def receivedName? (cls : Class) (config : Config) : Option String :=
  if (Adjustment.apply config cls .settings).receivesIdentifier (config.identifierFor cls.name) then
    some (config.identifierFor cls.name).name
  else none

/-- The names of the identifiers that a class receives in a series of adjustments. -/
def receivedNames (cls : Class) : List Config → List String
  | [] => []
  | config :: rest => (cls.receivedName? config).toList ++ (cls.adjusted config).receivedNames rest

variable {cls : Class} {config : Config} {name : String}

/-! ## The identifiers of one class -/

theorem mem_identifierNames :
    name ∈ cls.identifierNames ↔
      ∃ property ∈ cls.properties.toList, property.isId ∧ property.name = name := by
  simp only [identifierNames, List.mem_map, List.mem_filter, and_assoc]

theorem nodup_identifierNames (cls : Class) : cls.identifierNames.Nodup :=
  cls.properties.nodup_keys.sublist (List.filter_sublist.map Property.name)

theorem identifierNames_configure (cls : Class) (settings : Config.ClassSettings) :
    (cls.configure settings).identifierNames = cls.identifierNames := by
  have identifies (property : Property) :
      (property.configureFrom settings.properties).isId = property.isId := by
    rw [Property.configureFrom]
    split <;> rfl
  have named (property : Property) :
      (property.configureFrom settings.properties).name = property.name :=
    Property.key_configureFrom settings.properties property
  simp only [identifierNames, configure, Table.toList_map, List.filter_map, List.map_map,
    Function.comp_def, identifies, named]

theorem identifierNames_apply_settings (cls : Class) (config : Config) :
    (Adjustment.apply config cls .settings).identifierNames = cls.identifierNames := by
  rw [Adjustment.apply]
  cases config.class? cls.name with
  | none => rfl
  | some settings => exact cls.identifierNames_configure settings

/-- A new identifier stands beside the others, but for one of its own name. -/
theorem mem_identifierNames_addProperty (cls : Class) {property : Property}
    (identifies : property.isId) :
    name ∈ (cls.addProperty property).identifierNames ↔
      name ∈ cls.identifierNames ∨ property.name = name := by
  simp only [mem_identifierNames, addProperty, Table.mem_insert_iff]
  constructor
  · rintro ⟨held, rfl | ⟨member, _⟩, isId, named⟩
    · exact .inr named
    · exact .inl ⟨held, member, isId, named⟩
  · rintro (⟨held, member, isId, named⟩ | named)
    · by_cases same : held.name = property.name
      · exact ⟨property, .inl rfl, identifies, same.symm.trans named⟩
      · exact ⟨held, .inr ⟨member, same⟩, isId, named⟩
    · exact ⟨property, .inl rfl, identifies, named⟩

/-- The adjustments of a class add the identifier that it receives, and take none away. -/
theorem mem_identifierNames_adjusted (cls : Class) (config : Config) :
    name ∈ (cls.adjusted config).identifierNames ↔
      name ∈ cls.identifierNames ∨ cls.receivedName? config = some name := by
  rw [adjusted_eq_identify, identify, receivedName?]
  split
  next receives =>
    rw [mem_identifierNames_addProperty _ rfl, identifierNames_apply_settings, Option.some_inj]
    rfl
  next passedOver => simp [identifierNames_apply_settings]

theorem mem_identifierNames_foldl (configs : List Config) (cls : Class) :
    name ∈ (configs.foldl (fun cls config => cls.adjusted config) cls).identifierNames ↔
      name ∈ cls.identifierNames ++ cls.receivedNames configs := by
  induction configs generalizing cls with
  | nil => simp [receivedNames]
  | cons config rest ih =>
      rw [List.foldl_cons, ih, receivedNames, List.mem_append, mem_identifierNames_adjusted]
      simp only [List.mem_append, Option.mem_toList, or_assoc]

/-- At most one identifier is left exactly when all go under one name. -/
theorem length_identifierNames_le_one (cls : Class) :
    cls.identifierNames.length ≤ 1 ↔
      ∀ name ∈ cls.identifierNames, ∀ other ∈ cls.identifierNames, name = other := by
  rw [← List.toFinset_card_of_nodup cls.nodup_identifierNames, Finset.card_le_one]
  simp only [List.mem_toFinset]

end Class

namespace Registry

theorem toList_foldl_adjust (configs : List Config) (registry : Registry) :
    (configs.foldl (fun registry config => (registry.adjust config).value) registry).toList =
      registry.toList.map fun cls => configs.foldl (fun cls config => cls.adjusted config) cls := by
  induction configs generalizing registry with
  | nil => simp
  | cons config rest ih =>
      rw [List.foldl_cons, ih, toList_adjust, List.map_map]
      rfl

/-- After a series of adjustments every class has at most one identifier, exactly when
the identifiers that each class modeled and those that it has received go under one name. -/
theorem length_identifierNames_le_one_iff (configs : List Config) (registry : Registry) :
    (∀ cls ∈
        (configs.foldl (fun registry config => (registry.adjust config).value) registry).toList,
      cls.identifierNames.length ≤ 1) ↔
    ∀ cls ∈ registry.toList,
      ∀ name ∈ cls.identifierNames ++ cls.receivedNames configs,
        ∀ other ∈ cls.identifierNames ++ cls.receivedNames configs, name = other := by
  rw [toList_foldl_adjust, List.forall_mem_map]
  simp only [Class.length_identifierNames_le_one, Class.mem_identifierNames_foldl]

/-- A class that models an identifier of its own receives another one beside it. -/
theorem second_identifier_beside_modeled :
    let registry : Registry :=
      .ofList
        [{ name := "Person", properties := .ofList [{ name := "identifier", isId := true }] }]
    (∀ cls ∈ registry.toList, cls.identifierNames.length ≤ 1) ∧
      ¬∀ cls ∈ (registry.adjust {}).value.toList, cls.identifierNames.length ≤ 1 := by
  decide +kernel

end Registry

/-! ## Identifiers of parents -/

namespace Parent

theorem configure_eq_named {parent : Parent} {setting : Option Config.ParentSetting}
    {name : String} (named : parent.configure setting = .named name) :
    setting = some (.name name) ∨ parent = .named name := by
  rcases setting with _ | ⟨value⟩ | ⟨given⟩
  · exact .inr named
  · cases value with
    | false => cases named
    | true => exact .inr named
  · cases named
    exact .inl rfl

end Parent

namespace Class

variable {cls : Class} {config : Config}

theorem parent_adjusted (cls : Class) (config : Config) :
    (cls.adjusted config).parent =
      cls.parent.configure ((config.class? cls.name).bind Config.ClassSettings.parent) :=
  congrArg parent (cls.adjusted_eq_of_settings config)

/-- Where identifiers are kept from classes with a child, the mark of the class decides. -/
theorem receivedName?_of_child (placed : (config.identifierFor cls.name).placement = .child) :
    cls.receivedName? config = none ↔
      cls.isEnum ∨ cls.isEmbeddable ∨ (config.identifierFor cls.name).generate = false ∨
        cls.hasChild := by
  -- Settings change the parent, but no mark that this placement reads.
  have unchanged : (Adjustment.apply config cls .settings).receivesIdentifier
      (config.identifierFor cls.name) = cls.receivesIdentifier (config.identifierFor cls.name) := by
    rw [receivesIdentifier, receivesIdentifier, placed, Adjustment.apply]
    cases config.class? cls.name <;> rfl
  rw [receivedName?, unchanged, receivesIdentifier, placed, isPassedOver]
  cases cls.isEnum <;> cases cls.isEmbeddable <;> cases cls.hasChild <;> simp

end Class

namespace Registry

/-- Some class names another one as its parent. -/
def IsParent (registry : Registry) (name : String) : Prop :=
  ∃ child ∈ registry.toList, child.parent = .named name

instance (registry : Registry) (name : String) : Decidable (registry.IsParent name) :=
  inferInstanceAs (Decidable (∃ child ∈ registry.toList, child.parent = .named name))

/-- The classes that are marked to have a child are those that are named as a parent. -/
def ChildrenMarked (registry : Registry) : Prop :=
  ∀ cls ∈ registry.toList, cls.hasChild ↔ registry.IsParent cls.name

instance (registry : Registry) : Decidable registry.ChildrenMarked :=
  inferInstanceAs (Decidable (∀ cls ∈ registry.toList, cls.hasChild ↔ registry.IsParent cls.name))

/-- The settings give a class to others as their parent, and no class named it before. -/
def BecomesParent (registry : Registry) (config : Config) (name : String) : Prop :=
  ¬registry.IsParent name ∧ ∃ child ∈ registry.toList,
    (config.class? child.name).bind Config.ClassSettings.parent = some (.name name)

instance (registry : Registry) (config : Config) (name : String) :
    Decidable (registry.BecomesParent config name) :=
  inferInstanceAs (Decidable (¬_ ∧ ∃ child ∈ registry.toList, _ = some _))

variable {registry : Registry} {config : Config}

theorem isParent_adjust {name : String} :
    (registry.adjust config).value.IsParent name ↔
      ∃ child ∈ registry.toList, (child.adjusted config).parent = .named name := by
  simp only [IsParent, toList_adjust, List.mem_map, exists_exists_and_eq_and]

theorem isParent_of_isParent_adjust {name : String}
    (named : (registry.adjust config).value.IsParent name) :
    registry.IsParent name ∨ registry.BecomesParent config name := by
  obtain ⟨child, member, parent⟩ := isParent_adjust.mp named
  rw [Class.parent_adjusted] at parent
  rcases Parent.configure_eq_named parent with given | before
  · by_cases known : registry.IsParent name
    · exact .inl known
    · exact .inr ⟨known, child, member, given⟩
  · exact .inl ⟨child, member, before⟩

theorem BecomesParent.isParent_adjust {name : String}
    (becomes : registry.BecomesParent config name) :
    (registry.adjust config).value.IsParent name := by
  obtain ⟨_, child, member, given⟩ := becomes
  refine Registry.isParent_adjust.mpr ⟨child, member, ?_⟩
  rw [Class.parent_adjusted, given]
  rfl

/-- Where identifiers are kept from classes with a child, a class that is a parent after
the adjustments has received none, exactly when it could not receive any or was not made
a parent by the settings alone. -/
theorem receivedName?_eq_none_iff {cls : Class} (marked : registry.ChildrenMarked)
    (member : cls ∈ registry.toList)
    (placed : (config.identifierFor cls.name).placement = .child) :
    ((registry.adjust config).value.IsParent cls.name → cls.receivedName? config = none) ↔
      cls.isEnum ∨ cls.isEmbeddable ∨ (config.identifierFor cls.name).generate = false ∨
        ¬registry.BecomesParent config cls.name := by
  rw [Class.receivedName?_of_child placed, marked cls member]
  constructor
  · intro passedOver
    by_cases becomes : registry.BecomesParent config cls.name
    · have reasons := passedOver becomes.isParent_adjust
      have unnamed := becomes.1
      tauto
    · exact .inr (.inr (.inr becomes))
  · intro reasons isParent
    have origin := isParent_of_isParent_adjust isParent
    tauto

/-- A parent that the settings give another child is marked, and receives none. -/
theorem no_identifier_for_marked_parent :
    let config : Config := { classes := .ofList [("Book", { parent := some (.name "Thing") })] }
    let thing : Class := { name := "Thing", hasChild := true }
    let registry : Registry :=
      .ofList [{ name := "Book" }, { name := "Person", parent := .named "Thing" }, thing]
    registry.ChildrenMarked ∧ thing ∈ registry.toList ∧
      (config.identifierFor "Thing").placement = .child ∧
      (registry.adjust config).value.IsParent "Thing" ∧ thing.receivedName? config = none := by
  intro config thing registry
  have marked : registry.ChildrenMarked := by decide +kernel
  have member : thing ∈ registry.toList := by decide +kernel
  have placed : (config.identifierFor "Thing").placement = .child := by decide +kernel
  have isParent : (registry.adjust config).value.IsParent "Thing" := by decide +kernel
  have known : ¬registry.BecomesParent config "Thing" := by decide +kernel
  have passedOver := (receivedName?_eq_none_iff marked member placed).mpr
    (.inr (.inr (.inr known)))
  exact ⟨marked, member, placed, isParent, passedOver isParent⟩

/-- A class that the settings make a parent receives an identifier, and so does its
child. -/
theorem identifier_for_new_parent :
    let config : Config :=
      { classes := .ofList [("Book", { parent := some (.name "CreativeWork") })] }
    let work : Class := { name := "CreativeWork" }
    let registry : Registry := .ofList [{ name := "Book" }, work]
    registry.ChildrenMarked ∧ work ∈ registry.toList ∧
      (config.identifierFor "CreativeWork").placement = .child ∧
      (registry.adjust config).value.IsParent "CreativeWork" ∧
      work.receivedName? config = some "id" ∧
      ∀ cls ∈ (registry.adjust config).value.toList, cls.identifierNames = ["id"] := by
  decide +kernel

end Registry

end EntityGen
