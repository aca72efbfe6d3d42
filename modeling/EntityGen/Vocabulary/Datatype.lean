import EntityGen.Text.Basic

/-!
# Ranges and datatypes

A range is an identifier of a vocabulary together with the name under which it goes
in the model.  The identifiers of primitive datatypes come from two vocabularies: the
datatypes of schema.org, under either of its addresses or by the bare name, and those
of XML Schema.
-/

namespace EntityGen

/-- What a property points to: a class or a datatype, by its identifier in a
vocabulary and by the name it goes under. -/
structure Range where
  name : String
  uri : String
  deriving DecidableEq, Repr, Inhabited

/-- The part of an identifier after its last `#` or `/`. -/
def localName (uri : String) : String :=
  Text.afterLast (fun c => c = '#' || c = '/') uri

/-- The range of an identifier, which goes under its local name. -/
def Range.ofUri (uri : String) : Range := ⟨localName uri, uri⟩

/-- A primitive datatype with a native representation. -/
inductive Datatype
  | boolean
  | integer
  | float
  | text
  | date
  | dateTime
  | time
  | interval
  deriving DecidableEq, Repr, Inhabited

namespace Datatype

/-- The type by which the generated code knows the datatype. -/
def typeHint : Datatype → String
  | .boolean => "bool"
  | .integer => "int"
  | .float => "float"
  | .text => "string"
  | .date | .dateTime | .time => "\\DateTimeInterface"
  | .interval => "\\DateInterval"

/-- The datatypes of schema.org by name. -/
def schemaNames : List (String × Datatype) :=
  [("Boolean", .boolean), ("False", .boolean), ("True", .boolean),
    ("Integer", .integer),
    ("Number", .float), ("Float", .float),
    ("Text", .text), ("URL", .text), ("CssSelectorType", .text), ("PronounceableText", .text),
    ("XPathType", .text),
    ("Date", .date),
    ("DateTime", .dateTime),
    ("Time", .time),
    ("Duration", .interval)]

/-- The datatypes of XML Schema by name. -/
def xmlNames : List (String × Datatype) :=
  [("boolean", .boolean),
    ("integer", .integer), ("int", .integer), ("long", .integer), ("short", .integer),
    ("byte", .integer), ("nonNegativeInteger", .integer), ("positiveInteger", .integer),
    ("nonPositiveInteger", .integer), ("negativeInteger", .integer), ("unsignedInt", .integer),
    ("unsignedLong", .integer),
    ("decimal", .float), ("double", .float), ("float", .float),
    ("string", .text), ("anyURI", .text), ("normalizedString", .text), ("token", .text),
    ("language", .text),
    ("date", .date),
    ("dateTime", .dateTime), ("dateTimeStamp", .dateTime),
    ("time", .time),
    ("duration", .interval), ("dayTimeDuration", .interval), ("yearMonthDuration", .interval)]

/-- Where the identifiers of XML Schema begin. -/
def xmlNamespace : String := "http://www.w3.org/2001/XMLSchema#"

/-- Where the identifiers of schema.org begin. -/
def schemaNamespace : String := "https://schema.org/"

/-- The other address of schema.org. -/
def plainSchemaNamespace : String := "http://schema.org/"

/-- Whether an identifier is a bare name. -/
def isBareName (uri : String) : Bool :=
  !(Text.hasChar '/' uri || Text.hasChar '#' uri || Text.hasChar ':' uri)

/-- The schema.org name that an identifier stands for. -/
def schemaName? (uri : String) : Option String :=
  ((Text.dropPrefix? schemaNamespace uri).or (Text.dropPrefix? plainSchemaNamespace uri)).or
    (if isBareName uri then some uri else none)

/-- The datatype that an identifier stands for. -/
def ofUri? (uri : String) : Option Datatype :=
  match Text.dropPrefix? xmlNamespace uri with
  | some name => xmlNames.lookup name
  | none => (schemaName? uri).bind fun name => schemaNames.lookup name

end Datatype

/-- The datatype that a range stands for. -/
def Range.datatype? (range : Range) : Option Datatype := Datatype.ofUri? range.uri

end EntityGen
