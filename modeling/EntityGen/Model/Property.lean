import EntityGen.Model.Attribute
import EntityGen.Table
import EntityGen.Vocabulary.Cardinality
import EntityGen.Vocabulary.Datatype

/-!
# Properties of classes

A property of a class in the domain model: what its values are, how many there are,
who may read and write them, and how they are stored.
-/

namespace EntityGen

/-- A property of a class. -/
structure Property where
  name : String
  uri : Option String := none
  description : Option String := none
  cardinality : Cardinality := .unknown
  range : Option Range := none
  /-- Options of the column that stores the property. -/
  columnOptions : Arguments := ∅
  isArray : Bool := false
  isReadable : Bool := true
  isWritable : Bool := true
  isNullable : Bool := true
  isUnique : Bool := false
  /-- Whether the property comes from the configuration and not from the
  vocabulary. -/
  isCustom : Bool := false
  /-- Whether the value is stored inside its owner. -/
  isEmbedded : Bool := false
  /-- Whether the property identifies its owner. -/
  isId : Bool := false
  /-- Whether the values are those of an enumeration. -/
  isEnum : Bool := false
  isReadableLink : Bool := true
  isWritableLink : Bool := true
  /-- The property of the target that owns the relation. -/
  mappedBy : Option String := none
  /-- The property of the target that is the other side of the relation. -/
  inversedBy : Option String := none
  relationTableName : Option String := none
  columnPrefix : Option String := none
  security : Option String := none
  attributes : List Attribute := []
  deriving DecidableEq, Inhabited

/-- Properties are stored under their names. -/
instance : Keyed Property String where
  key := Property.name

namespace Property

/-- The property with a cardinality and what follows from it: whether it holds
many values, and whether it may be absent. -/
def withCardinality (property : Property) (cardinality : Cardinality) : Property :=
  { property with
    cardinality := cardinality
    isArray := cardinality.isCollection
    isNullable := !cardinality.isRequired }

/-- The name under which the range goes. -/
def rangeName? (property : Property) : Option String := property.range.map Range.name

/-- The datatype of the values. -/
def datatype? (property : Property) : Option Datatype := property.range.bind Range.datatype?

/-- The property with one more attribute, unless it carries the same one. -/
def addAttribute (property : Property) (attr : Attribute) : Property :=
  { property with attributes := Attribute.appendNew property.attributes attr }

end Property

end EntityGen
