import EntityGen.Config.Fault

/-!
# Errors of a generation

Each constructor of `GenerationError` is one cause.  An error that concerns a
single property is recoverable: the generation goes on without that property's
mapping.
-/

namespace EntityGen

/-- Why a generation stops, or leaves out a property. -/
inductive GenerationError
  /-- The configuration is wrong. -/
  | invalidConfig (fault : Config.Fault)
  /-- The operations of a class have a group that does not exist. -/
  | unknownOperationGroup (className group : String)
  /-- A group of operations does not map methods to options. -/
  | invalidOperationGroup (className group : String)
  /-- A relation points to a class that is not registered. -/
  | unresolvedRelation (className property target : String)
  /-- A relation points nowhere. -/
  | missingRange (className property : String)
  /-- A class is asked for that is not registered. -/
  | unknownClass (name : String)
  deriving DecidableEq, Inhabited

namespace GenerationError

/-- The sentence that tells an error. -/
def message : GenerationError → String
  | .invalidConfig fault => "Invalid generator configuration: " ++ fault.message
  | .unknownOperationGroup className group =>
    "Unknown operation group '" ++ group ++ "' on class '" ++ className ++ "'"
  | .invalidOperationGroup className group =>
    "Operation group '" ++ group ++ "' on class '" ++ className ++
      "' must be a mapping of method names to options"
  | .unresolvedRelation className property target =>
    "Relation target '" ++ target ++ "' of " ++ className ++ "::" ++ property ++
      " is not a known class"
  | .missingRange className property =>
    "Property " ++ className ++ "::" ++ property ++ " has no range"
  | .unknownClass name => "Unknown class: " ++ name

/-- The code under which an error is documented. -/
def code : GenerationError → String
  | .invalidConfig _ => "schema::config::invalid"
  | .unknownOperationGroup _ _ => "schema::config::unknown_operation_group"
  | .invalidOperationGroup _ _ => "schema::config::invalid_operation_group"
  | .unresolvedRelation _ _ _ => "schema::relation::unresolved"
  | .missingRange _ _ => "schema::relation::missing_range"
  | .unknownClass _ => "schema::merge::unknown_class"

/-- Advice on how to mend the cause. -/
def help? : GenerationError → Option String
  | .unknownOperationGroup _ _ =>
    some "Operations must be grouped under 'item' and 'collection' only."
  | .unresolvedRelation _ _ _ =>
    some ("Add the target class to the vocabulary selection " ++
      "or give the property a primitive range.")
  | _ => none

/-- Whether an error concerns one property only. -/
def isRecoverable : GenerationError → Bool
  | .unresolvedRelation _ _ _ | .missingRange _ _ => true
  | _ => false

end GenerationError

end EntityGen
