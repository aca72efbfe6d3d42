import EntityGen.Proofs.Identifier

/-!
# What adjustments change

Adjustments are made one after the other: the settings of a class are taken over first, and
the parent that they leave decides whether the class receives an identifier.  Of a class only
its parent, security, operations and properties change, and each of them as the configuration
says (`Registry.adjustedBy_adjust`).
-/

namespace EntityGen

/-! ## Properties -/

/-- What the settings of a property make of it.  An option of the column that is there keeps
its place, and new ones follow. -/
structure Property.AdjustedBy (settings? : Option Config.PropertySettings)
    (before after : Property) : Prop where
  relationTableName : after.relationTableName =
    (settings?.bind Config.PropertySettings.relationTableName).or before.relationTableName
  columnOption : ∀ key, after.columnOptions.get? key =
    (settings?.bind (·.columnOptions.get? key)).or (before.columnOptions.get? key)
  columnOptionKeys : after.columnOptions.keys = before.columnOptions.keys ++
    (settings?.elim [] (·.columnOptions.keys)).filter (· ∉ before.columnOptions.keys)
  others : after =
    { before with
      relationTableName := after.relationTableName
      columnOptions := after.columnOptions }

namespace Property

variable (property : Property)

theorem adjustedBy_none : property.AdjustedBy none property where
  relationTableName := rfl
  columnOption _ := rfl
  columnOptionKeys := (List.append_nil _).symm
  others := rfl

theorem adjustedBy_configure (settings : Config.PropertySettings) :
    property.AdjustedBy (some settings) (property.configure settings) where
  relationTableName := rfl
  columnOption key := property.columnOptions.get?_overlay settings.columnOptions key
  columnOptionKeys := property.columnOptions.keys_overlay settings.columnOptions
  others := rfl

theorem adjustedBy_configureFrom (settings : NameMap Config.PropertySettings) :
    property.AdjustedBy ((settings.get? property.name).map Prod.snd)
      (property.configureFrom settings) := by
  rw [configureFrom]
  cases settings.get? property.name with
  | none => exact property.adjustedBy_none
  | some found => exact property.adjustedBy_configure found.2

end Property

/-! ## Classes -/

namespace Class

/-- Whether a class admits an identifier, once it has its final parent. -/
def AdmitsIdentifier (cls : Class) (settings : Config.Identifier) (parent : Parent) : Prop :=
  ¬cls.isEnum ∧ ¬cls.isEmbeddable ∧ settings.generate ∧
    match settings.placement with
    | .all => True
    | .parent => ∀ name, parent ≠ .named name
    | .child => ¬cls.hasChild

/-- What the adjustments of a configuration make of a class. -/
structure AdjustedBy (config : Config) (before after : Class) : Prop where
  parent : after.parent =
    match (config.class? before.name).bind Config.ClassSettings.parent with
    | some (.flag false) => .absent
    | some (.name name) => .named name
    | some (.flag true) | none => before.parent
  security : after.security =
    ((config.class? before.name).bind Config.ClassSettings.security).or before.security
  operations : after.operations =
    ((config.class? before.name).bind Config.ClassSettings.operations).getD before.operations
  propertyNames : ∀ name, name ∈ after.properties.keys ↔
    name ∈ before.properties.keys ∨
      before.AdmitsIdentifier (config.identifierFor before.name) after.parent ∧
        name = (config.identifierFor before.name).name
  identifier : before.AdmitsIdentifier (config.identifierFor before.name) after.parent →
    after.property? (config.identifierFor before.name).name =
      some
        { name := (config.identifierFor before.name).name
          cardinality := .oneToOne
          isId := true
          isCustom := true
          isNullable := false
          isReadable := true
          isWritable := (config.identifierFor before.name).writable }
  /-- Only a property with the name of the identifier gives way to it. -/
  property : ∀ property ∈ before.properties.toList,
    (before.AdmitsIdentifier (config.identifierFor before.name) after.parent →
      property.name ≠ (config.identifierFor before.name).name) →
    ∃ adjusted, after.property? property.name = some adjusted ∧
      property.AdjustedBy (config.property? before.name property.name) adjusted
  others : after =
    { before with
      parent := after.parent
      security := after.security
      operations := after.operations
      properties := after.properties }

variable (cls : Class) (config : Config)

theorem receivesIdentifier_iff (settings : Config.Identifier) :
    cls.receivesIdentifier settings ↔ cls.AdmitsIdentifier settings cls.parent := by
  have passedOver : cls.isPassedOver settings.placement = false ↔
      match settings.placement with
      | .all => True
      | .parent => ∀ name, cls.parent ≠ .named name
      | .child => ¬cls.hasChild := by
    cases settings.placement with
    | all => simp [isPassedOver]
    | parent =>
        rw [isPassedOver, hasParent, parentName?]
        cases cls.parent <;> simp [Parent.name?]
    | child => simp [isPassedOver]
  rw [receivesIdentifier, AdmitsIdentifier, ← passedOver]
  simp [and_assoc]

/-- Settings change no mark of a class, so that they matter for its identifier through the
parent alone. -/
theorem receivesIdentifier_apply_settings (settings : Config.Identifier) :
    (Adjustment.apply config cls .settings).receivesIdentifier settings ↔
      cls.AdmitsIdentifier settings (cls.adjusted config).parent := by
  have parent : (cls.adjusted config).parent = (Adjustment.apply config cls .settings).parent := by
    rw [parent_adjusted, Adjustment.apply]
    cases config.class? cls.name <;> rfl
  rw [receivesIdentifier_iff, parent, Adjustment.apply]
  cases config.class? cls.name <;> exact Iff.rfl

theorem keys_apply_settings :
    (Adjustment.apply config cls .settings).properties.keys = cls.properties.keys := by
  rw [Adjustment.apply]
  cases config.class? cls.name with
  | none => rfl
  | some settings =>
      exact cls.properties.keys_map _ (Property.key_configureFrom settings.properties)

theorem exists_adjustedBy {property : Property} (member : property ∈ cls.properties.toList) :
    ∃ adjusted, (Adjustment.apply config cls .settings).property? property.name = some adjusted ∧
      property.AdjustedBy (config.property? cls.name property.name) adjusted := by
  have found : cls.property? property.name = some property := Table.get?_key_of_mem member
  rw [Adjustment.apply, Config.property?]
  cases config.class? cls.name with
  | none => exact ⟨property, found, property.adjustedBy_none⟩
  | some settings =>
      have configured := cls.properties.get?_map (Property.configureFrom settings.properties)
        (Property.key_configureFrom settings.properties) property.name
      refine ⟨property.configureFrom settings.properties, ?_, ?_⟩
      · exact configured.trans (congrArg (Option.map _) found)
      · exact property.adjustedBy_configureFrom settings.properties

variable {cls config} in
theorem adjusted_of_admits
    (admits : cls.AdmitsIdentifier (config.identifierFor cls.name) (cls.adjusted config).parent) :
    cls.adjusted config =
      (Adjustment.apply config cls .settings).addProperty
        (config.identifierFor cls.name).property := by
  rw [← receivesIdentifier_apply_settings] at admits
  rw [adjusted_eq_identify, identify, if_pos admits]

variable {cls config} in
theorem adjusted_of_not_admits
    (refuses : ¬cls.AdmitsIdentifier (config.identifierFor cls.name) (cls.adjusted config).parent) :
    cls.adjusted config = Adjustment.apply config cls .settings := by
  rw [← receivesIdentifier_apply_settings] at refuses
  rw [adjusted_eq_identify, identify, if_neg refuses]

theorem adjustedBy_adjusted : cls.AdjustedBy config (cls.adjusted config) where
  parent := cls.parent_adjusted config
  security := congrArg security (cls.adjusted_eq_of_settings config)
  operations := congrArg operations (cls.adjusted_eq_of_settings config)
  propertyNames name := by
    rw [← keys_apply_settings cls config]
    by_cases admits :
        cls.AdmitsIdentifier (config.identifierFor cls.name) (cls.adjusted config).parent
    · simp only [admits, true_and]
      rw [adjusted_of_admits admits]
      exact Table.mem_keys_insert _ (config.identifierFor cls.name).property
    · simp only [admits, false_and, or_false]
      rw [adjusted_of_not_admits admits]
  identifier admits := by
    rw [adjusted_of_admits admits]
    exact Table.get?_insert_self _ _
  property property member different := by
    obtain ⟨adjusted, found, adjustedBy⟩ := cls.exists_adjustedBy config member
    refine ⟨adjusted, ?_, adjustedBy⟩
    by_cases admits :
        cls.AdmitsIdentifier (config.identifierFor cls.name) (cls.adjusted config).parent
    · rw [adjusted_of_admits admits, ← found]
      exact Table.get?_insert_of_ne _ (different admits).symm
    · rw [adjusted_of_not_admits admits, found]
  others := by
    rw [adjusted_eq_of_settings]

end Class

/-! ## Registries -/

namespace Registry

/-- Adjustments keep the classes of a registry, change each as the configuration says, and
have no effect when they are made again. -/
theorem adjustedBy_adjust (config : Config) (registry : Registry) :
    List.Forall₂ (Class.AdjustedBy config) registry.toList
        (registry.adjust config).value.toList ∧
      ((registry.adjust config).value.adjust config).value = (registry.adjust config).value := by
  constructor
  · rw [toList_adjust, List.forall₂_map_right_iff, List.forall₂_same]
    intro cls _
    exact cls.adjustedBy_adjusted config
  · apply Table.ext
    rw [toList_adjust, toList_adjust, List.map_map]
    apply List.map_congr_left
    intro cls _
    exact cls.adjusted_adjusted config

/-- A parent that the settings name keeps the identifier away. -/
example :
    let config : Config :=
      { identifier := { placement := .parent }
        classes := .ofList [("Book", { parent := some (.name "CreativeWork") })] }
    let registry : Registry := .ofList [{ name := "Book" }, { name := "Person" }]
    (registry.adjust config).value.toList.map Class.identifierNames = [[], ["id"]] := by
  decide +kernel

end Registry

end EntityGen
