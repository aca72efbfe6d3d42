import EntityGen.Error
import EntityGen.Model.Attribute

/-!
# Operations on resources

The operations on a class as a resource come in two groups: those on a single
item and those on the collection of all items.  A group maps methods to options;
a group that is missing, `null` or an empty sequence holds no methods.
-/

namespace EntityGen

/-- The operations on a class as a resource. -/
structure Operations where
  /-- Methods with their options, on a single item. -/
  item : Arguments := ∅
  /-- Methods with their options, on the collection. -/
  collection : Arguments := ∅
  deriving DecidableEq, Inhabited

namespace Operations

/-- The methods that the value of a group gives. -/
def methods? : Json.Value → Option (List (String × Json.Value))
  | .null | .array [] => some []
  | .object members => some members
  | _ => none

/-- Add a group to the operations of a class. -/
def addGroup (className : String) (operations : Operations) (group : String × Json.Value) :
    Except GenerationError Operations :=
  let methods : Except GenerationError (List (String × Json.Value)) :=
    match methods? group.2 with
    | some methods => .ok methods
    | none => .error (.invalidOperationGroup className group.1)
  if group.1 = "item" then
    methods.map fun methods => { operations with item := operations.item.insertAll methods }
  else if group.1 = "collection" then
    methods.map fun methods =>
      { operations with collection := operations.collection.insertAll methods }
  else .error (.unknownOperationGroup className group.1)

/-- The operations that a mapping of groups gives, or the first group that is
wrong. -/
def resolve (className : String) (groups : Arguments) : Except GenerationError Operations :=
  groups.entries.foldlM (addGroup className) {}

end Operations

end EntityGen
