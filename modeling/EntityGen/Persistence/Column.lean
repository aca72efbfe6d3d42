import EntityGen.Model.Property

/-!
# Columns

The column that stores a property.  A property without a column type is a
relation to another class.
-/

namespace EntityGen

/-- The types of columns. -/
inductive ColumnType
  | string
  | text
  | boolean
  | integer
  | float
  | date
  | datetime
  | time
  | json
  | simpleArray
  deriving DecidableEq, Repr, Inhabited

namespace ColumnType

/-- The name of a column type. -/
def name : ColumnType → String
  | .string => "string"
  | .text => "text"
  | .boolean => "boolean"
  | .integer => "integer"
  | .float => "float"
  | .date => "date"
  | .datetime => "datetime"
  | .time => "time"
  | .json => "json"
  | .simpleArray => "simple_array"

/-- The type that a column has when none is given. -/
def implied : ColumnType := .string

/-- The type of a column that stores one value of a datatype. -/
def ofDatatype : Datatype → ColumnType
  | .boolean => .boolean
  | .integer => .integer
  | .float => .float
  | .text => .text
  | .date => .date
  | .dateTime => .datetime
  | .time => .time
  | .interval => .string

end ColumnType

namespace Property

/-- The type of the column that stores a property; none for a relation. -/
def columnType? (property : Property) : Option ColumnType :=
  if property.isEnum then some (if property.isArray then .simpleArray else .string)
  else
    property.datatype?.map fun datatype =>
      if property.isArray then .json else ColumnType.ofDatatype datatype

/-- Whether a property points to another class. -/
def isRelation (property : Property) : Bool := !property.isId && property.columnType?.isNone

/-- Whether a property holds its values in a collection object, when such
objects are used at all. -/
def isCollection (property : Property) (useCollection : Bool) : Bool :=
  useCollection && property.isArray && property.isRelation

end Property

end EntityGen
