import EntityGen.Json.Value

/-!
# JSON documents

A document is what a JSON text says before it is known which of its parts are
wanted.  A member may repeat, and a part that is well written but has no value
is kept as `unreadable`: a string with half of a surrogate pair, a number too
large for a double, a container nested too deeply.  Only a reader that wants
such a part fails.
-/

namespace EntityGen.Json

/-- What a JSON text says. -/
inductive Document
  | unreadable
  | null
  | bool (value : Bool)
  | number (value : Number)
  | string (value : String)
  | array (items : List Document)
  | object (members : List (String × Document))
  deriving Inhabited

namespace Document

mutual

/-- The document that says a value. -/
def ofValue : Value → Document
  | .null => .null
  | .bool value => .bool value
  | .number value => .number value
  | .string value => .string value
  | .array items => .array (ofItems items)
  | .object members => .object (ofMembers members)

/-- The documents that say the items of an array. -/
def ofItems : List Value → List Document
  | [] => []
  | value :: rest => ofValue value :: ofItems rest

/-- The documents that say the members of an object. -/
def ofMembers : List (String × Value) → List (String × Document)
  | [] => []
  | (key, value) :: rest => (key, ofValue value) :: ofMembers rest

end

mutual

/-- The value that a document says, unless a part of it is unreadable.  Of a
member that repeats, the last value counts, at the place of the first. -/
def value? : Document → Option Value
  | .unreadable => none
  | .null => some .null
  | .bool value => some (.bool value)
  | .number value => some (.number value)
  | .string value => some (.string value)
  | .array items => do return .array (← items? items)
  | .object members => do return .object (OrderedMap.ofList (← members? members)).entries

/-- The values of the items of an array. -/
def items? : List Document → Option (List Value)
  | [] => some []
  | item :: rest => do return (← value? item) :: (← items? rest)

/-- The values of the members of an object, repeated ones included. -/
def members? : List (String × Document) → Option (List (String × Value))
  | [] => some []
  | (key, item) :: rest => do return (key, ← value? item) :: (← members? rest)

end

end Document

end EntityGen.Json
