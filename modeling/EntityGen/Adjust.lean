import EntityGen.Config.Settings
import EntityGen.Logged

/-!
# Adjusting the model

Before classes are annotated, two adjustments prepare each of them: the settings
of the configuration are taken over, and the class receives an identifier when it
needs one.  An adjustment never renames a class.
-/

namespace EntityGen

namespace Property

/-- The property with its settings taken over.  Configured column options are laid
over the property's own. -/
def configure (property : Property) (settings : Config.PropertySettings) : Property :=
  { property with
    relationTableName := settings.relationTableName.or property.relationTableName
    columnOptions := property.columnOptions.overlay settings.columnOptions }

/-- The property with the settings that a table holds for it. -/
def configureFrom (settings : NameMap Config.PropertySettings) (property : Property) :
    Property :=
  match settings.get? property.name with
  | some found => property.configure found.2
  | none => property

theorem key_configureFrom (settings : NameMap Config.PropertySettings) (property : Property) :
    Keyed.key (configureFrom settings property) = Keyed.key property := by
  unfold configureFrom
  split <;> rfl

end Property

namespace Parent

/-- The parent after a setting: `false` removes it, and a name replaces it. -/
def configure (parent : Parent) : Option Config.ParentSetting → Parent
  | some (.flag false) => .absent
  | some (.name name) => .named name
  | some (.flag true) | none => parent

end Parent

namespace Config.Identifier

/-- The property that identifies the instances of a class. -/
def property (settings : Config.Identifier) : Property where
  name := settings.name
  cardinality := .oneToOne
  isId := true
  isCustom := true
  isNullable := false
  isWritable := settings.writable

end Config.Identifier

namespace Class

/-- The class with settings taken over. -/
def configure (cls : Class) (settings : Config.ClassSettings) : Class :=
  { cls with
    parent := cls.parent.configure settings.parent
    security := settings.security.or cls.security
    operations := settings.operations.getD cls.operations
    properties :=
      cls.properties.map (Property.configureFrom settings.properties)
        (Property.key_configureFrom settings.properties) }

/-- The properties that settings speak of and the class lacks. -/
def unmodeled (cls : Class) (settings : Config.ClassSettings) : List String :=
  settings.properties.keys.filter fun name => !cls.properties.contains name

/-- Whether the placement of identifiers passes over a class. -/
def isPassedOver (cls : Class) : Config.IdentifierPlacement → Bool
  | .all => false
  | .parent => cls.hasParent
  | .child => cls.hasChild

/-- Whether a class receives an identifier. -/
def receivesIdentifier (cls : Class) (settings : Config.Identifier) : Bool :=
  !cls.isEnum && !cls.isEmbeddable && settings.generate && !cls.isPassedOver settings.placement

/-- The class with an identifier, when it receives one. -/
def identify (cls : Class) (settings : Config.Identifier) : Class :=
  if cls.receivesIdentifier settings then cls.addProperty settings.property else cls

end Class

namespace Adjustment

/-- The class after an adjustment. -/
def apply (config : Config) (cls : Class) : Adjustment → Class
  | .settings => (config.class? cls.name).elim cls cls.configure
  | .identifier => cls.identify (config.identifierFor cls.name)

/-- What an adjustment of a class has to report. -/
def warnings (config : Config) (cls : Class) : Adjustment → List Event
  | .settings =>
    (((config.class? cls.name).map cls.unmodeled).getD []).map fun property =>
      .unmodeledProperty cls.name property
  | .identifier => []

/-- Adjust a class. -/
def run (config : Config) (adjustment : Adjustment) (cls : Class) : Logged Class :=
  ⟨adjustment.apply config cls, adjustment.warnings config cls⟩

theorem name_apply (config : Config) (cls : Class) (adjustment : Adjustment) :
    (adjustment.apply config cls).name = cls.name := by
  cases adjustment
  · simp only [apply]
    cases config.class? cls.name <;> rfl
  · simp only [apply, Class.identify]
    split <;> rfl

end Adjustment

namespace Class

/-- Make all adjustments of a class, and report each of them first. -/
def adjust (config : Config) (cls : Class) : Logged Class :=
  Adjustment.all.foldlM (fun cls adjustment => do
    Logged.report (.adjusting cls.name adjustment)
    adjustment.run config cls) cls

/-- The class after all adjustments. -/
def adjusted (config : Config) (cls : Class) : Class := (cls.adjust config).value

theorem key_adjusted (config : Config) (cls : Class) :
    Keyed.key (cls.adjusted config) = Keyed.key cls :=
  (Adjustment.name_apply config (Adjustment.apply config cls .settings) .identifier).trans
    (Adjustment.name_apply config cls .settings)

end Class

namespace Registry

/-- Adjust every class of a registry. -/
def adjust (config : Config) (registry : Registry) : Logged Registry where
  value := registry.map (Class.adjusted config) (Class.key_adjusted config)
  events := registry.toList.flatMap fun cls => (cls.adjust config).events

end Registry

end EntityGen
