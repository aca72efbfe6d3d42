import EntityGen.Merge.Field
import EntityGen.Model.Class
import EntityGen.Text.CamelCase

/-!
# Accessors and constructors

The methods that are generated for a class: a getter for every property that can
be read; a setter, or an adder and a remover, for every property that can be
written; and a constructor that fills every collection.
-/

namespace EntityGen

/-- A method that changes its object, and returns it when methods are to be
chained. -/
def mutator (config : Config) (name : String) (parameter : Parameter) (body : List String) :
    Method where
  name := name
  parameters := [parameter]
  returnType := some (if config.fluentMutators then "self" else "void")
  body := if config.fluentMutators then body ++ ["", "return $this;"] else body

namespace Property

/-- The method that returns a property. -/
def getter (property : Property) (config : Config) (className : String) : Method where
  name := "get" ++ Text.upperCamel property.name
  returnType :=
    (property.fieldType? config className).map fun hint =>
      if property.isNullableField config className then "?" ++ hint else hint
  body := ["return $this->" ++ property.name ++ ";"]

/-- The method that replaces a property. -/
def setter (property : Property) (config : Config) (className : String) : Method :=
  mutator config ("set" ++ Text.upperCamel property.name)
    { name := property.name
      typeHint := property.fieldType? config className
      nullable := property.isNullableField config className }
    ["$this->" ++ property.name ++ " = $" ++ property.name ++ ";"]

/-- The name of a single value of a property. -/
def itemName (property : Property) : String := Text.lowerCamel (Text.singular property.name)

/-- The parameter for a single value of a property. -/
def itemParameter (property : Property) : Parameter where
  name := property.itemName
  typeHint := property.itemType?

/-- The method that adds a value to a property. -/
def adder (property : Property) (config : Config) : Method :=
  mutator config ("add" ++ Text.upperCamel property.itemName) property.itemParameter
    ["$this->" ++ property.name ++ "[] = $" ++ property.itemName ++ ";"]

/-- The lines that remove a value from a property. -/
def removal (property : Property) (config : Config) : List String :=
  if property.isCollection config.persistence.useCollection then
    ["$this->" ++ property.name ++ "->removeElement($" ++ property.itemName ++ ");"]
  else
    ["if (false !== $key = array_search($" ++ property.itemName ++ ", $this->" ++
        property.name ++ ", true)) \x7b",
      "    unset($this->" ++ property.name ++ "[$key]);",
      "\x7d"]

/-- The method that removes a value from a property. -/
def remover (property : Property) (config : Config) : Method :=
  mutator config ("remove" ++ Text.upperCamel property.itemName) property.itemParameter
    (property.removal config)

/-- The methods that change a property. -/
def mutators (property : Property) (config : Config) (className : String) : List Method :=
  if property.isArray && !property.isEnum then
    [property.adder config, property.remover config]
  else [property.setter config className]

/-- The methods that give access to a property. -/
def accessors (property : Property) (config : Config) (className : String) : List Method :=
  (if property.isReadable then [property.getter config className] else []) ++
    (if property.isWritable then property.mutators config className else [])

end Property

namespace Class

/-- The properties that are held in collection objects. -/
def collectionProperties (cls : Class) (config : Config) : List Property :=
  cls.properties.toList.filter fun property =>
    !property.isEnum && property.isCollection config.persistence.useCollection

/-- Whether a class needs a constructor of its own. -/
def needsConstructor (cls : Class) (config : Config) : Bool :=
  !(cls.collectionProperties config).isEmpty

/-- The lines of a constructor: first those of the parent, then an empty collection
for each property that is held in one. -/
def constructorBody (cls : Class) (config : Config) : List String :=
  (if cls.parentHasConstructor then ["parent::__construct();"] else []) ++
    (cls.collectionProperties config).map fun property =>
      "$this->" ++ property.name ++ " = new ArrayCollection();"

/-- The constructor that a class needs. -/
def constructor? (cls : Class) (config : Config) : Option Method :=
  if cls.needsConstructor config then
    some { name := constructorName, body := cls.constructorBody config }
  else none

/-- The methods that give access to the properties of a class. -/
def accessors (cls : Class) (config : Config) : List Method :=
  cls.declarationOrder.flatMap fun property => property.accessors config cls.name

end Class

end EntityGen
