import EntityGen.Model.Class
import EntityGen.Source.Declaration
import EntityGen.Stage

/-!
# Settings of a generation

The configuration that drives a generation.  Every setting has a default, so the
empty configuration is a valid one.  The identifier settings of a class are laid
over the global ones setting by setting.
-/

namespace EntityGen

namespace Config

/-- How the values of an identifier come about. -/
inductive IdentifierStrategy
  | auto
  | uuid
  | mongoid
  /-- The program that uses the entities assigns them. -/
  | assigned
  deriving DecidableEq, Repr, Inhabited

namespace IdentifierStrategy

/-- All strategies. -/
def all : List IdentifierStrategy := [.auto, .uuid, .mongoid, .assigned]

/-- The name of a strategy. -/
def name : IdentifierStrategy → String
  | .auto => "auto"
  | .uuid => "uuid"
  | .mongoid => "mongoid"
  | .assigned => "none"

/-- The name of a strategy in capitals. -/
def capitalName : IdentifierStrategy → String
  | .auto => "AUTO"
  | .uuid => "UUID"
  | .mongoid => "MONGOID"
  | .assigned => "NONE"

end IdentifierStrategy

/-- Which classes of a hierarchy receive an identifier. -/
inductive IdentifierPlacement
  /-- Every class. -/
  | all
  /-- Classes without a parent. -/
  | parent
  /-- Classes without a child. -/
  | child
  deriving DecidableEq, Repr, Inhabited

namespace IdentifierPlacement

/-- All placements. -/
def choices : List IdentifierPlacement := [.all, .parent, .child]

/-- The name of a placement. -/
def name : IdentifierPlacement → String
  | .all => "all"
  | .parent => "parent"
  | .child => "child"

end IdentifierPlacement

/-- Settings of identifiers. -/
structure Identifier where
  generate : Bool := true
  strategy : IdentifierStrategy := .auto
  writable : Bool := false
  placement : IdentifierPlacement := .child
  name : String := "id"
  deriving DecidableEq, Repr, Inhabited

/-- Settings of identifiers for one class; what is not set is left to the global
ones. -/
structure IdentifierOverride where
  generate : Option Bool := none
  strategy : Option IdentifierStrategy := none
  writable : Option Bool := none
  placement : Option IdentifierPlacement := none
  name : Option String := none
  deriving DecidableEq, Repr, Inhabited

/-- Lay the settings of a class over the global ones. -/
def Identifier.overlay (settings : Identifier) (changes : IdentifierOverride) : Identifier where
  generate := changes.generate.getD settings.generate
  strategy := changes.strategy.getD settings.strategy
  writable := changes.writable.getD settings.writable
  placement := changes.placement.getD settings.placement
  name := changes.name.getD settings.name

/-- Whether the storage fills in the identifier when an entity is stored. -/
def Identifier.isGenerated (settings : Identifier) (property : Property) : Bool :=
  settings.strategy != .assigned && !property.isWritable

/-- Settings of the persistence mapping. -/
structure Persistence where
  /-- Whether relations to many are held in collection objects. -/
  useCollection : Bool := true
  /-- Attributes of abstract classes, in place of the usual one. -/
  inheritanceAttributes : Option Arguments := none
  deriving DecidableEq, Inhabited

/-- Where the generated classes live. -/
structure Namespaces where
  entity : String := "App\\Entity"
  enumeration : String := "App\\Enum"
  deriving DecidableEq, Repr, Inhabited

/-- The parent that the configuration gives to a class. -/
inductive ParentSetting
  /-- No parent for `false`, and nothing said for `true`. -/
  | flag (value : Bool)
  /-- The parent of this name. -/
  | name (value : String)
  deriving DecidableEq, Repr, Inhabited

/-- Settings of one property. -/
structure PropertySettings where
  relationTableName : Option String := none
  /-- Options laid over those of the property's column. -/
  columnOptions : Arguments := ∅
  /-- Attributes given literally, with their arguments. -/
  attributes : Arguments := ∅
  deriving DecidableEq, Inhabited

/-- Settings of one class. -/
structure ClassSettings where
  /-- Attributes of the persistence mapping, in place of the derived ones. -/
  persistenceAttributes : Option Arguments := none
  identifier : Option IdentifierOverride := none
  properties : NameMap PropertySettings := ∅
  operations : Option Arguments := none
  security : Option String := none
  parent : Option ParentSetting := none
  /-- Attributes given literally, with their arguments. -/
  attributes : Arguments := ∅
  deriving DecidableEq, Inhabited

end Config

/-- The configuration of a generation. -/
structure Config where
  identifier : Config.Identifier := {}
  /-- Settings of single classes, by name. -/
  classes : NameMap Config.ClassSettings := ∅
  persistence : Config.Persistence := {}
  /-- Whether getters, setters, adders and removers are generated. -/
  accessorMethods : Bool := true
  /-- Whether setters, adders and removers return their object. -/
  fluentMutators : Bool := false
  fieldVisibility : Visibility := .ownClass
  /-- The header of files that have none. -/
  header : Option String := none
  namespaces : Config.Namespaces := {}
  /-- The annotators, in the order in which they run. -/
  annotators : List Annotator := Annotator.all
  deriving DecidableEq, Inhabited

namespace Config

/-- The settings of a class. -/
def class? (config : Config) (className : String) : Option ClassSettings :=
  (config.classes.get? className).map Prod.snd

/-- The settings of a property of a class. -/
def property? (config : Config) (className property : String) : Option PropertySettings :=
  (config.class? className).bind fun settings =>
    (settings.properties.get? property).map Prod.snd

/-- The identifier settings that hold for a class. -/
def identifierFor (config : Config) (className : String) : Identifier :=
  match (config.class? className).bind ClassSettings.identifier with
  | some changes => config.identifier.overlay changes
  | none => config.identifier

/-- The namespace in which a class lives. -/
def namespaceFor (config : Config) (cls : Class) : String :=
  if cls.isEnum then config.namespaces.enumeration else config.namespaces.entity

end Config

end EntityGen
