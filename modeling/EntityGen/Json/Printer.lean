import EntityGen.Json.Value

/-!
# JSON text

The compact text of a value: no blanks, members in their order, and in strings
only the quotation mark, the backslash and the control characters escaped.
-/

namespace EntityGen.Json

/-- A character as it stands inside a quoted string. -/
def escapeChar (c : Char) : String :=
  match c with
  | '"' => "\\\""
  | '\\' => "\\\\"
  | '\n' => "\\n"
  | '\r' => "\\r"
  | '\t' => "\\t"
  | '\x08' => "\\b"
  | '\x0c' => "\\f"
  | c =>
    if c.toNat < 32 then
      "\\u00" ++
        String.ofList [Nat.digitChar (c.toNat / 16), Nat.digitChar (c.toNat % 16)]
    else c.toString

/-- A string in quotation marks. -/
def quoted (text : String) : String :=
  "\"" ++ String.join (text.toList.map escapeChar) ++ "\""

namespace Value

mutual

/-- The compact text of a value. -/
def toText : Value → String
  | .null => "null"
  | .bool value => if value then "true" else "false"
  | .number value => value.toText
  | .string value => quoted value
  | .array items => "[" ++ ",".intercalate (itemTexts items) ++ "]"
  | .object members => "\x7b" ++ ",".intercalate (memberTexts members) ++ "\x7d"

/-- The texts of the items of an array. -/
def itemTexts : List Value → List String
  | [] => []
  | value :: rest => toText value :: itemTexts rest

/-- The texts of the members of an object. -/
def memberTexts : List (String × Value) → List String
  | [] => []
  | (key, value) :: rest => (quoted key ++ ":" ++ toText value) :: memberTexts rest

end

end Value

end EntityGen.Json
