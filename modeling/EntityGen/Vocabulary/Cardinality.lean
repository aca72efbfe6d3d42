/-!
# Cardinalities

How many values stand at the two ends of a relation.
-/

namespace EntityGen

/-- The number of values at the two ends of a relation. -/
inductive Cardinality
  | zeroToOne
  | oneToOne
  | zeroToMany
  | oneToMany
  | manyToZero
  | manyToOne
  | manyToMany
  | unknown
  deriving DecidableEq, Repr, Inhabited

namespace Cardinality

/-- All cardinalities. -/
def all : List Cardinality :=
  [.zeroToOne, .oneToOne, .zeroToMany, .oneToMany, .manyToZero, .manyToOne, .manyToMany, .unknown]

/-- The spelling of a cardinality. -/
def toText : Cardinality → String
  | .zeroToOne => "0..1"
  | .oneToOne => "1..1"
  | .zeroToMany => "0..N"
  | .oneToMany => "1..N"
  | .manyToZero => "N..0"
  | .manyToOne => "N..1"
  | .manyToMany => "N..N"
  | .unknown => "unknown"

/-- The cardinality of a spelling, with nothing else accepted. -/
def ofCanonical? (text : String) : Option Cardinality :=
  all.find? fun cardinality => cardinality.toText = text

/-- Other spellings, which write many as a small letter or a star. -/
def variants : List (String × Cardinality) :=
  [("0..n", .zeroToMany), ("0..*", .zeroToMany), ("1..n", .oneToMany), ("1..*", .oneToMany),
    ("n..0", .manyToZero), ("n..1", .manyToOne), ("n..n", .manyToMany), ("*..*", .manyToMany)]

/-- The cardinality that a text spells in one way or another. -/
def ofText? (text : String) : Option Cardinality :=
  (ofCanonical? text).or (variants.lookup text)

/-- Whether a property of the cardinality holds many values. -/
def isCollection : Cardinality → Bool
  | .zeroToMany | .oneToMany | .manyToMany => true
  | _ => false

/-- Whether a property of the cardinality always has a value. -/
def isRequired : Cardinality → Bool
  | .oneToOne | .manyToOne | .oneToMany => true
  | _ => false

end Cardinality

end EntityGen
