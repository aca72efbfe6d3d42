import EntityGen.Json.Token

/-!
# Reading JSON text

The tokens of a text are put together to a document one after the other; the
containers that are still open wait on a stack.  A text that says exactly one
document is accepted, and every other text is refused.
-/

namespace EntityGen.Json

/-- A container that is still open, with its parts from the last to the first;
a key is missing when it is unreadable. -/
inductive Container
  | array (items : List Document)
  | object (members : List (Option String × Document)) (key : Option String)

/-- What the next token has to be, inside the containers that are still open,
the innermost first. -/
inductive Reading
  /-- A document. -/
  | start (outer : List Container)
  /-- A document or the end of an array without items. -/
  | firstItem (outer : List Container)
  /-- A key, after these members. -/
  | nextKey (members : List (Option String × Document)) (outer : List Container)
  /-- A key or the end of an object without members. -/
  | firstKey (outer : List Container)
  /-- The colon after a key. -/
  | colon (members : List (Option String × Document)) (key : Option String)
      (outer : List Container)
  /-- A separator or the end of the innermost container, after a part of it. -/
  | rest (innermost : Container) (outer : List Container)
  /-- The end of the text. -/
  | finished (document : Document)

namespace Reading

/-- How many containers may stand one inside the other. -/
def maxDepth : Nat := 127

/-- Take a finished document as the next part of the innermost container. -/
def afterDocument (document : Document) : List Container → Reading
  | [] => .finished document
  | .array items :: outer => .rest (.array (document :: items)) outer
  | .object members key :: outer => .rest (.object ((key, document) :: members) none) outer

/-- The members as the document has them; an unreadable key spoils the whole
object. -/
def readableMembers (members : List (Option String × Document)) :
    Option (List (String × Document)) :=
  members.mapM fun (key, document) => key.map fun key => (key, document)

/-- A container that ends inside the given ones. -/
def afterContainer (container : Container) (outer : List Container) : Reading :=
  let document : Document :=
    if (outer[maxDepth - 1]?).isSome then .unreadable
    else
      match container with
      | .array items => .array items.reverse
      | .object members _ =>
        match readableMembers members.reverse with
        | some members => .object members
        | none => .unreadable
  afterDocument document outer

/-- Begin a document with a token. -/
def begin (outer : List Container) : Token → Option Reading
  | .openArray => some (.firstItem outer)
  | .openObject => some (.firstKey outer)
  | .string (some text) => some (afterDocument (.string text) outer)
  | .string none => some (afterDocument .unreadable outer)
  | .scalar document => some (afterDocument document outer)
  | _ => none

/-- Take one token. -/
def step : Reading → Token → Option Reading
  | .start outer, token => begin outer token
  | .firstItem outer, .closeArray => some (afterContainer (.array []) outer)
  | .firstItem outer, token => begin (.array [] :: outer) token
  | .nextKey members outer, .string key => some (.colon members key outer)
  | .firstKey outer, .closeObject => some (afterContainer (.object [] none) outer)
  | .firstKey outer, .string key => some (.colon [] key outer)
  | .colon members key outer, .colon => some (.start (.object members key :: outer))
  | .rest (.array items) outer, .comma => some (.start (.array items :: outer))
  | .rest (.array items) outer, .closeArray => some (afterContainer (.array items) outer)
  | .rest (.object members _) outer, .comma => some (.nextKey members outer)
  | .rest (.object members key) outer, .closeObject =>
    some (afterContainer (.object members key) outer)
  | _, _ => none

end Reading

namespace Document

/-- The document that a list of tokens says. -/
def ofTokens? (tokens : List Token) : Option Document :=
  match tokens.foldlM Reading.step (.start []) with
  | some (.finished document) => some document
  | _ => none

/-- The document that a text says. -/
def ofText? (text : String) : Option Document :=
  (Token.ofText? text.toList).bind ofTokens?

end Document

/-- The value that a text says, when all of it is readable. -/
def Value.ofText? (text : String) : Option Value :=
  (Document.ofText? text).bind Document.value?

end EntityGen.Json
