import EntityGen.Json.Printer
import EntityGen.Text.Quoted

/-!
# Faults of a configuration

The ways in which a configuration document can be wrong, and the sentence that
tells each of them.
-/

namespace EntityGen.Config

/-- What stands at a place of a document where something else belongs. -/
inductive Found
  | null
  | boolean (value : Bool)
  | number (value : Json.Number)
  | string (value : String)
  | sequence
  | map
  deriving DecidableEq, Inhabited

namespace Found

/-- A thing found, in words. -/
def toText : Found → String
  | .null => "null"
  | .boolean value => "boolean `" ++ (if value then "true" else "false") ++ "`"
  | .number (.integer value) => "integer `" ++ toString value ++ "`"
  | .number (.decimal value) => "floating point `" ++ value.toText ++ "`"
  | .string value => "string " ++ Text.shown value
  | .sequence => "sequence"
  | .map => "map"

end Found

/-- What belongs at a place of a document. -/
inductive Expected
  | boolean
  | string
  | map
  | sequence
  /-- One of several names, alone or as the key of a map. -/
  | choice
  /-- Nothing but the key before it. -/
  | unit
  /-- The section of this name. -/
  | record (name : String)
  deriving DecidableEq, Inhabited

namespace Expected

/-- A thing expected, in words. -/
def toText : Expected → String
  | .boolean => "a boolean"
  | .string => "a string"
  | .map => "a map"
  | .sequence => "a sequence"
  | .choice => "string or map"
  | .unit => "unit"
  | .record name => "struct " ++ name

end Expected

/-- The mappings of a configuration that hold the arguments of attributes. -/
inductive ArgumentsPlace
  | declaration
  | indexes
  | index
  deriving DecidableEq, Inhabited

namespace ArgumentsPlace

/-- The word for a mapping of arguments. -/
def toText : ArgumentsPlace → String
  | .declaration => "declaration"
  | .indexes => "Indexes"
  | .index => "index"

end ArgumentsPlace

/-- What is wrong with a configuration. -/
inductive Fault
  /-- The text is no JSON document. -/
  | notJson
  /-- A part that is wanted has no value. -/
  | unreadable
  /-- A part is of another kind than the one that belongs there. -/
  | wrongKind (found : Found) (expected : Expected)
  /-- A name is none of those to choose from. -/
  | unknownChoice (name : String) (known : List String)
  /-- A map that should hold one key holds none or several. -/
  | notOneKey
  /-- A section written as a sequence has more elements than the section has
  settings. -/
  | tooManyElements (count : Nat)
  /-- A setting is given twice. -/
  | repeatedSetting (name : String)
  /-- The setting of a parent is neither a flag nor a name. -/
  | noParentSetting
  /-- Arguments are neither absent nor a mapping. -/
  | argumentsNotMapping (place : ArgumentsPlace) (found : Json.Value)
  deriving DecidableEq, Inhabited

namespace Fault

/-- A name between backquotes. -/
def marked (name : String) : String := "`" ++ name ++ "`"

/-- The names to choose from, in words. -/
def choices : List String → String
  | [] => "there are no variants"
  | [name] => "expected " ++ marked name
  | [first, second] => "expected " ++ marked first ++ " or " ++ marked second
  | names => "expected one of " ++ ", ".intercalate (names.map marked)

/-- The sentence that tells a fault. -/
def message : Fault → String
  | .notJson => "the text is not a JSON document"
  | .unreadable => "a value cannot be read"
  | .wrongKind found expected =>
    "invalid type: " ++ found.toText ++ ", expected " ++ expected.toText
  | .unknownChoice name known => "unknown variant " ++ marked name ++ ", " ++ choices known
  | .notOneKey => "invalid value: map, expected map with a single key"
  | .tooManyElements count =>
    "invalid length " ++ toString count ++ ", expected fewer elements in array"
  | .repeatedSetting name => "duplicate field " ++ marked name
  | .noParentSetting => "data did not match any variant of untagged enum ParentConfig"
  | .argumentsNotMapping place found =>
    place.toText ++ " arguments must be a mapping, got " ++ found.toText

end Fault

end EntityGen.Config
