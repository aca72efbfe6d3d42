import EntityGen.Text.Alphanumeric
import EntityGen.Text.LetterCase

/-!
# Camel case

A name is split into words, and the words are joined with capitals in place of
gaps.  Words end at characters that are neither letters nor numbers, before an
upper case letter that follows a lower case one (`givenName`), and before the
last of several upper case letters when a lower case one follows (`URLPath`).
-/

namespace EntityGen.Text

/-- The case of the letters before a character, as far as it decides where a
word ends: of a new word nothing is known yet. -/
inductive LetterMode
  | start
  | lower
  | upper
  deriving DecidableEq

namespace LetterMode

/-- The mode after a character, which a character without case does not change. -/
def after (mode : LetterMode) (c : Char) : LetterMode :=
  if isLowercase c then .lower else if isUppercase c then .upper else mode

end LetterMode

/-- The longest runs of letters and numbers; `run` holds the present one, from
its last character to its first. -/
def wordRuns (run : List Char) : List Char → List (List Char)
  | [] => [run.reverse]
  | c :: rest => if isAlphanumeric c then wordRuns (c :: run) rest else run.reverse :: wordRuns [] rest

/-- The words of a run of letters and numbers; `word` holds the present one, from
its last character to its first. -/
def splitRun (mode : LetterMode) (word : List Char) : List Char → List (List Char)
  | [] => []
  | [c] => [(c :: word).reverse]
  | c :: next :: rest =>
    if mode.after c = .lower ∧ isUppercase next then
      (c :: word).reverse :: splitRun .start [] (next :: rest)
    else if mode = .upper ∧ isUppercase c ∧ isLowercase next then
      word.reverse :: splitRun .start [c] (next :: rest)
    else splitRun (mode.after c) (c :: word) (next :: rest)

/-- The words of a name. -/
def words (name : String) : List (List Char) :=
  (wordRuns [] name.toList).flatMap (splitRun .start [])

/-- The rest of a word in lower case; a sigma that ends it takes its final form. -/
def lowerWord : List Char → List Char
  | [] => []
  | [c] => if c = 'Σ' then ['ς'] else lowerChar c
  | c :: rest => lowerChar c ++ lowerWord rest

/-- A word with a capital at its beginning. -/
def capitalized : List Char → List Char
  | [] => []
  | c :: rest => upperChar c ++ lowerWord rest

/-- A name in camel case that begins with a capital. -/
def upperCamel (name : String) : String :=
  String.ofList ((words name).flatMap capitalized)

/-- A name in camel case whose first word is in lower case. -/
def lowerCamel (name : String) : String :=
  match words name with
  | [] => ""
  | first :: rest => String.ofList (lowerWord first ++ rest.flatMap capitalized)

end EntityGen.Text
