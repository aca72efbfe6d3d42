import EntityGen.Json.Document
import EntityGen.Json.Numeral

/-!
# Tokens of a JSON text

A text is cut into brackets, separators, strings and words, one character at a
time.  A word is a longest run of characters of no other kind; it has to be a
literal or a numeral.
-/

namespace EntityGen.Json

/-- A token of a JSON text. -/
inductive Token
  | openArray
  | closeArray
  | openObject
  | closeObject
  | comma
  | colon
  /-- A string, without its text when half of a surrogate pair stands in it. -/
  | string (text : Option String)
  /-- A literal or a number. -/
  | scalar (document : Document)
  deriving Inhabited

namespace Token

/-- What one element of a string literal stands for: a character, or half of a
pair that makes a character beyond four digits. -/
inductive Unit
  | char (c : Char)
  | half (code : Nat)

/-- The first halves of pairs. -/
def isHighHalf (code : Nat) : Bool := 0xd800 ≤ code && code < 0xdc00

/-- The second halves of pairs. -/
def isLowHalf (code : Nat) : Bool := 0xdc00 ≤ code && code < 0xe000

/-- What an escape by four hexadecimal digits stands for. -/
def Unit.ofCode (code : Nat) : Unit :=
  if isHighHalf code || isLowHalf code then .half code else .char (Char.ofNat code)

/-- The characters of a string literal, given its elements from the last to the
first; none when a half stands alone. -/
def joinUnits : List Unit → List Char → Option (List Char)
  | [], text => some text
  | .char c :: rest, text => joinUnits rest (c :: text)
  | .half low :: .half high :: rest, text =>
    if isHighHalf high && isLowHalf low then
      let code := 0x10000 + (high - 0xd800) * 0x400 + (low - 0xdc00)
      joinUnits rest (Char.ofNat code :: text)
    else none
  | .half _ :: _, _ => none

/-- The value of a hexadecimal digit. -/
def hexValue? (c : Char) : Option Nat :=
  if '0' ≤ c ∧ c ≤ '9' then some (c.toNat - '0'.toNat)
  else if 'a' ≤ c ∧ c ≤ 'f' then some (c.toNat - 'a'.toNat + 10)
  else if 'A' ≤ c ∧ c ≤ 'F' then some (c.toNat - 'A'.toNat + 10)
  else none

/-- The character that a letter after a backslash stands for. -/
def escaped? : Char → Option Char
  | '"' => some '"'
  | '\\' => some '\\'
  | '/' => some '/'
  | 'b' => some '\x08'
  | 'f' => some '\x0c'
  | 'n' => some '\n'
  | 'r' => some '\r'
  | 't' => some '\t'
  | _ => none

/-- The literal or number that a word says. -/
def ofWord? (word : List Char) : Option Document :=
  if word = ['n', 'u', 'l', 'l'] then some .null
  else if word = ['t', 'r', 'u', 'e'] then some (.bool true)
  else if word = ['f', 'a', 'l', 's', 'e'] then some (.bool false)
  else (Numeral.ofText? word).map fun numeral =>
    match numeral.number? with
    | some number => .number number
    | none => .unreadable

/-- The token that a single character makes. -/
def ofPunctuation? : Char → Option Token
  | '[' => some .openArray
  | ']' => some .closeArray
  | '\x7b' => some .openObject
  | '\x7d' => some .closeObject
  | ',' => some .comma
  | ':' => some .colon
  | _ => none

/-- The blanks that may stand between tokens. -/
def isBlank (c : Char) : Bool := c = ' ' || c = '\t' || c = '\n' || c = '\r'

/-- Where the reading of a text stands; what has been read of a token is kept
from the last character to the first. -/
inductive Place
  | between
  | word (letters : List Char)
  | string (units : List Unit)
  | escape (units : List Unit)
  | code (units : List Unit) (value : Nat) (digits : Nat)

/-- Tokens read so far, the last one first, and the place in the text. -/
structure Scan where
  tokens : List Token
  place : Place

namespace Scan

/-- Before the first character. -/
def start : Scan := ⟨[], .between⟩

/-- Read a character that stands between tokens. -/
def between (tokens : List Token) (c : Char) : Scan :=
  if isBlank c then ⟨tokens, .between⟩
  else if c = '"' then ⟨tokens, .string []⟩
  else
    match ofPunctuation? c with
    | some token => ⟨token :: tokens, .between⟩
    | none => ⟨tokens, .word [c]⟩

/-- Whether a character ends the word before it. -/
def endsWord (c : Char) : Bool := isBlank c || c = '"' || (ofPunctuation? c).isSome

/-- Read one character. -/
def step (scan : Scan) (c : Char) : Option Scan :=
  match scan.place with
  | .between => some (between scan.tokens c)
  | .word letters =>
    if endsWord c then
      (ofWord? letters.reverse).map fun document =>
        between (.scalar document :: scan.tokens) c
    else some ⟨scan.tokens, .word (c :: letters)⟩
  | .string units =>
    if c = '"' then
      some ⟨.string ((joinUnits units []).map String.ofList) :: scan.tokens, .between⟩
    else if c = '\\' then some ⟨scan.tokens, .escape units⟩
    else if c.toNat < 32 then none
    else some ⟨scan.tokens, .string (.char c :: units)⟩
  | .escape units =>
    if c = 'u' then some ⟨scan.tokens, .code units 0 4⟩
    else (escaped? c).map fun meant => ⟨scan.tokens, .string (.char meant :: units)⟩
  | .code units value digits =>
    (hexValue? c).map fun digit =>
      let value := value * 16 + digit
      if digits ≤ 1 then ⟨scan.tokens, .string (Unit.ofCode value :: units)⟩
      else ⟨scan.tokens, .code units value (digits - 1)⟩

/-- The tokens of a text that ends here. -/
def finish (scan : Scan) : Option (List Token) :=
  match scan.place with
  | .between => some scan.tokens.reverse
  | .word letters =>
    (ofWord? letters.reverse).map fun document => (.scalar document :: scan.tokens).reverse
  | _ => none

end Scan

/-- The tokens of a text, unless a part of it is no token. -/
def ofText? (text : List Char) : Option (List Token) :=
  (text.foldlM Scan.step Scan.start).bind Scan.finish

end Token

end EntityGen.Json
