import EntityGen.Config.Settings
import EntityGen.Error

/-!
# Literal attributes

A configuration may give attributes literally, as a mapping from their names to
their arguments.  Arguments are a mapping themselves, or `null` when there are
none.  Those of a class or a property are taken with their names as they are; those
of the persistence mapping get its name in front.
-/

namespace EntityGen

/-- The arguments that a value of the configuration gives. -/
def argumentsOf (place : Config.ArgumentsPlace) : Json.Value → Except GenerationError Arguments
  | .null => .ok ∅
  | .object members => .ok (.ofList members)
  | found => .error (.invalidConfig (.argumentsNotMapping place found))

/-- The attribute that an entry of a literal mapping gives; `qualify` completes
its name. -/
def literalAttribute (qualify : String → String) (entry : String × Json.Value) :
    Except GenerationError Attribute :=
  (argumentsOf .declaration entry.2).map fun arguments => ⟨qualify entry.1, arguments⟩

/-- The attributes that a literal mapping gives, in its order. -/
def literalAttributes (qualify : String → String) (literals : Arguments) :
    Except GenerationError (List Attribute) :=
  literals.entries.mapM (literalAttribute qualify)

/-- The name of a persistence attribute: a name without a backslash belongs to
the persistence mapping. -/
def persistenceName (name : String) : String :=
  if Text.hasChar '\\' name then name else "ORM\\" ++ name

namespace Configured

/-- The attributes of a class. -/
def classAttributes (config : Config) (cls : Class) :
    Except GenerationError (List Attribute) :=
  match config.class? cls.name with
  | some settings => literalAttributes id settings.attributes
  | none => .ok []

/-- The attributes of a property. -/
def propertyAttributes (config : Config) (className : String) (property : Property) :
    Except GenerationError (List Attribute) :=
  match config.property? className property.name with
  | some settings => literalAttributes id settings.attributes
  | none => .ok []

end Configured

end EntityGen
