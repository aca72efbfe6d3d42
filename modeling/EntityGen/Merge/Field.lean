import EntityGen.Config.Settings
import EntityGen.Persistence.Column
import EntityGen.Source.Declaration

/-!
# Fields of a class

The field that declares a property: its type, whether it may be null, its default
value and its comment.  The accessors of the property share these decisions.
-/

namespace EntityGen

/-- The comment that tells a description and where to read more; none when there is
nothing to tell. -/
def describingComment (description uri : Option String) : Option String :=
  let parts := (description.map Text.trim).toList ++ (uri.map ("@see " ++ ·)).toList
  if parts.isEmpty then none else some ("\n\n".intercalate parts)

namespace Property

/-- The type of a single value of a property. -/
def itemType? (property : Property) : Option String :=
  if property.isEnum then some "string"
  else
    property.range.map fun range =>
      match range.datatype? with
      | some datatype => datatype.typeHint
      | none => range.name

/-- The type of the field that holds a property. -/
def fieldType? (property : Property) (config : Config) (className : String) : Option String :=
  if property.isId then
    some (if (config.identifierFor className).strategy = .auto then "int" else "string")
  else if property.isArray then
    some (if property.isCollection config.persistence.useCollection then "Collection" else "array")
  else property.itemType?

/-- Whether the field that holds a property may be null.  An identifier that the
storage fills in is null until then. -/
def isNullableField (property : Property) (config : Config) (className : String) : Bool :=
  if property.isId then (config.identifierFor className).isGenerated property
  else !property.isArray && property.isNullable

/-- The value that the field of a property has at first. -/
def defaultValue? (property : Property) (config : Config) (className : String) :
    Option Json.Value :=
  if property.isArray then
    if property.isCollection config.persistence.useCollection then none else some (.array [])
  else if property.isNullableField config className then some .null
  else none

/-- The field that declares a property of a class. -/
def field (property : Property) (config : Config) (className : String) : Field where
  name := property.name
  visibility := config.fieldVisibility
  typeHint := property.fieldType? config className
  nullable := property.isNullableField config className
  default := property.defaultValue? config className
  attributes := property.attributes
  comment := describingComment property.description property.uri

end Property

end EntityGen
