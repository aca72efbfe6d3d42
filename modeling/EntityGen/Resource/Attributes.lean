import EntityGen.Model.Class
import EntityGen.Resource.Operations

/-!
# Attributes of resources

How a class is offered as a resource.  Enumerations and embeddable classes are no
resources.
-/

namespace EntityGen

namespace Resource

/-- Whether a class is offered as a resource. -/
def isResource (cls : Class) : Bool := !cls.isEnum && !cls.isEmbeddable

/-- The attribute with the operations of a class, when it has any. -/
def withOperations (cls : Class) (attr : Attribute) :
    Except GenerationError Attribute :=
  if cls.operations.isEmpty then .ok attr
  else
    (Operations.resolve cls.name cls.operations).map fun operations =>
      (attr.withArgument "itemOperations" (.object operations.item.entries)).withArgument
        "collectionOperations" (.object operations.collection.entries)

/-- The attributes of a class. -/
def classAttributes (cls : Class) : Except GenerationError (List Attribute) :=
  if isResource cls then
    let named := Attribute.withArgument ⟨"ApiResource", ∅⟩ "shortName" (.string cls.name)
    let typed := named.withArgument? "types" (cls.uri.map fun uri => .array [.string uri])
    let secured := typed.withArgument? "security" (cls.security.map .string)
    (withOperations cls secured).map ([·])
  else .ok []

/-- The type of a property, unless the property comes from the configuration. -/
def typesArgument (property : Property) : Option Json.Value :=
  if property.isCustom then none else property.uri.map fun uri => .array [.string uri]

/-- The attributes of a property: one, when there is anything to say. -/
def propertyAttributes (property : Property) : List Attribute :=
  let refused (condition : Bool) : Option Json.Value :=
    if condition then none else some (.bool false)
  let attr :=
    ((((⟨"ApiProperty", ∅⟩ : Attribute).withArgument? "readableLink"
          (refused property.isReadableLink)).withArgument? "writableLink"
        (refused property.isWritableLink)).withArgument? "security"
      (property.security.map .string)).withArgument? "types" (typesArgument property)
  if attr.arguments.isEmpty then [] else [attr]

/-- The import of the attribute of resources. -/
def resourceImport : Import := ⟨"ApiPlatform\\Metadata\\ApiResource", none⟩

/-- The import of the attribute of properties. -/
def propertyImport : Import := ⟨"ApiPlatform\\Metadata\\ApiProperty", none⟩

/-- The imports that the attributes of a class and its properties need. -/
def imports (cls : Class) : List Import :=
  if isResource cls then
    resourceImport ::
      if cls.properties.toList.any fun property => !(propertyAttributes property).isEmpty then
        [propertyImport]
      else []
  else []

end Resource

end EntityGen
