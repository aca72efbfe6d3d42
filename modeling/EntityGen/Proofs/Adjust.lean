import EntityGen.Adjust
import EntityGen.Proofs.Bare

/-!
# Adjusting twice

Adjustments read and change only what is bare of a class (`bare_adjusted`), and
making them again has no effect (`adjusted_adjusted`).  The second time an identifier
is already there, and the settings of its name hold for it too; it is then replaced by
a new one.
-/

namespace EntityGen

/-! ## Adjustments of bare classes -/

theorem Property.bare_configureFrom (settings : NameMap Config.PropertySettings)
    (property : Property) :
    (property.configureFrom settings).bare = property.bare.configureFrom settings := by
  have named : property.bare.name = property.name := rfl
  rw [configureFrom, configureFrom, named]
  cases settings.get? property.name <;> rfl

namespace Class

variable (cls : Class) (config : Config)

theorem bare_configure (settings : Config.ClassSettings) :
    (cls.configure settings).bare = cls.bare.configure settings := by
  have properties : (cls.configure settings).bare.properties =
      (cls.bare.configure settings).properties := by
    apply Table.ext
    simp only [bare, configure, Table.toList_map, List.map_map]
    apply List.map_congr_left
    intro property _
    exact property.bare_configureFrom settings.properties
  simp only [bare, configure] at properties ⊢
  rw [properties]

theorem bare_addProperty (property : Property) :
    (cls.addProperty property).bare = cls.bare.addProperty property.bare := by
  have properties := cls.properties.map_insert property Property.bare Property.key_bare
  simp only [bare, addProperty, properties]

theorem bare_identify (settings : Config.Identifier) :
    (cls.identify settings).bare = cls.bare.identify settings := by
  have receives : cls.bare.receivesIdentifier settings = cls.receivesIdentifier settings := rfl
  rw [identify, identify, receives]
  split
  · exact cls.bare_addProperty settings.property
  · rfl

theorem bare_apply (adjustment : Adjustment) :
    (adjustment.apply config cls).bare = adjustment.apply config cls.bare := by
  have named : cls.bare.name = cls.name := rfl
  cases adjustment with
  | settings =>
      simp only [Adjustment.apply, named]
      cases config.class? cls.name with
      | none => rfl
      | some settings => exact cls.bare_configure settings
  | identifier =>
      simp only [Adjustment.apply, named]
      exact cls.bare_identify (config.identifierFor cls.name)

theorem adjusted_eq :
    cls.adjusted config =
      Adjustment.apply config (Adjustment.apply config cls .settings) .identifier := rfl

theorem adjusted_eq_identify :
    cls.adjusted config =
      (Adjustment.apply config cls .settings).identify (config.identifierFor cls.name) := by
  rw [← Adjustment.name_apply config cls .settings]
  exact cls.adjusted_eq config

/-- Apart from the properties, the settings say what becomes of a class. -/
theorem adjusted_eq_of_settings :
    cls.adjusted config =
      { cls with
        parent := cls.parent.configure ((config.class? cls.name).bind Config.ClassSettings.parent)
        security :=
          ((config.class? cls.name).bind Config.ClassSettings.security).or cls.security
        operations :=
          ((config.class? cls.name).bind Config.ClassSettings.operations).getD cls.operations
        properties := (cls.adjusted config).properties } := by
  have identified (configured : Class) (settings : Config.Identifier) :
      configured.identify settings =
        { configured with properties := (configured.identify settings).properties } := by
    rw [identify]
    split <;> rfl
  rw [adjusted_eq_identify, identified, Adjustment.apply]
  cases config.class? cls.name <;> rfl

/-- Adjusting makes no use of what a generation attaches, and keeps it. -/
theorem bare_adjusted : (cls.adjusted config).bare = cls.bare.adjusted config := by
  rw [adjusted_eq, bare_apply, bare_apply, adjusted_eq]

end Class

/-! ## Settings taken over twice -/

namespace Property

theorem configureFrom_configureFrom (settings : NameMap Config.PropertySettings)
    (property : Property) :
    (property.configureFrom settings).configureFrom settings =
      property.configureFrom settings := by
  have named : (property.configureFrom settings).name = property.name :=
    key_configureFrom settings property
  rw [configureFrom, named]
  cases found : settings.get? property.name with
  | none => rfl
  | some entry =>
      simp only [configureFrom, found, configure, OrderedMap.overlay_overlay]
      rw [← Option.or_assoc, Option.or_self]

end Property

theorem Parent.configure_configure (parent : Parent) (setting : Option Config.ParentSetting) :
    (parent.configure setting).configure setting = parent.configure setting := by
  rcases setting with _ | ⟨value⟩ | ⟨name⟩
  · rfl
  · cases value <;> rfl
  · rfl

namespace Class

theorem configure_configure (cls : Class) (settings : Config.ClassSettings) :
    (cls.configure settings).configure settings = cls.configure settings := by
  have properties := cls.properties.map_map_eq (Property.key_configureFrom settings.properties)
    (Property.key_configureFrom settings.properties)
    fun property _ => property.configureFrom_configureFrom settings.properties
  have security : settings.security.or (settings.security.or cls.security) =
      settings.security.or cls.security := by
    rw [← Option.or_assoc, Option.or_self]
  have operations : settings.operations.getD (settings.operations.getD cls.operations) =
      settings.operations.getD cls.operations := by
    cases settings.operations <;> rfl
  simp only [configure, properties, security, operations, Parent.configure_configure]

theorem configure_addProperty (cls : Class) (settings : Config.ClassSettings)
    (property : Property) :
    (cls.addProperty property).configure settings =
      (cls.configure settings).addProperty (property.configureFrom settings.properties) := by
  have properties := cls.properties.map_insert property
    (Property.configureFrom settings.properties) (Property.key_configureFrom settings.properties)
  simp only [configure, addProperty, properties]

/-! ## All adjustments made twice -/

variable (cls : Class) (config : Config)

theorem apply_settings_again :
    Adjustment.apply config (Adjustment.apply config cls .settings) .settings =
      Adjustment.apply config cls .settings := by
  have named := Adjustment.name_apply config cls .settings
  rw [Adjustment.apply, named]
  cases found : config.class? cls.name with
  | none => rfl
  | some settings =>
      simp only [Adjustment.apply, found, Option.elim_some]
      exact cls.configure_configure settings

theorem apply_settings_addProperty (property : Property) :
    ∃ configured : Property, configured.name = property.name ∧
      Adjustment.apply config (cls.addProperty property) .settings =
        (Adjustment.apply config cls .settings).addProperty configured := by
  have named : (cls.addProperty property).name = cls.name := rfl
  simp only [Adjustment.apply, named]
  cases config.class? cls.name with
  | none => exact ⟨property, rfl, rfl⟩
  | some settings =>
      refine ⟨property.configureFrom settings.properties, ?_, ?_⟩
      · exact Property.key_configureFrom settings.properties property
      · exact cls.configure_addProperty settings property

theorem addProperty_addProperty {first second : Property} (same : first.name = second.name) :
    (cls.addProperty first).addProperty second = cls.addProperty second := by
  have properties := Table.insert_insert same cls.properties
  simp only [addProperty, properties]

variable {cls config}

/-- A class whose settings are taken over and that has received its identifier keeps
it when all adjustments are made again. -/
theorem adjusted_identify (configured : Adjustment.apply config cls .settings = cls) :
    (cls.identify (config.identifierFor cls.name)).adjusted config =
      cls.identify (config.identifierFor cls.name) := by
  by_cases receives : cls.receivesIdentifier (config.identifierFor cls.name)
  · obtain ⟨identifier, named, again⟩ := apply_settings_addProperty cls config
      (config.identifierFor cls.name).property
    have receivesAgain : (cls.addProperty identifier).receivesIdentifier
        (config.identifierFor cls.name) := receives
    rw [identify, if_pos receives, adjusted_eq, again, configured]
    rw [Adjustment.apply]
    exact (if_pos receivesAgain).trans (cls.addProperty_addProperty named)
  · rw [identify, if_neg receives, adjusted_eq, configured]
    exact if_neg receives

/-- Adjustments made again have no effect. -/
theorem adjusted_adjusted (cls : Class) (config : Config) :
    (cls.adjusted config).adjusted config = cls.adjusted config :=
  adjusted_identify (cls.apply_settings_again config)

end Class

namespace Registry

theorem toList_adjust (registry : Registry) (config : Config) :
    (registry.adjust config).value.toList = registry.toList.map (Class.adjusted config) := rfl

theorem get?_adjust (registry : Registry) (config : Config) (name : String) :
    (registry.adjust config).value.get? name = (registry.get? name).map (Class.adjusted config) :=
  registry.get?_map (Class.adjusted config) (Class.key_adjusted config) name

theorem contains_adjust (registry : Registry) (config : Config) (name : String) :
    (registry.adjust config).value.contains name = registry.contains name :=
  registry.contains_map (Class.adjusted config) (Class.key_adjusted config) name

end Registry

end EntityGen
