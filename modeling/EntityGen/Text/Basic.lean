/-!
# Texts and their characters

Sets of characters; the white space among them; how a text is cut at a given
beginning, at a given end, at its last character of some kind, or at the blanks
around it; and the singular of a plural word.
-/

namespace EntityGen.Text

/-! ## Sets of characters -/

/-- Ranges of code points, both ends included, in increasing order. -/
abbrev CodeRanges := List (Nat × Nat)

namespace CodeRanges

/-- Whether a code point lies in one of the ranges.  The search ends at the first
range that begins after it. -/
def has : CodeRanges → Nat → Bool
  | [], _ => false
  | (first, last) :: rest, code =>
    if code < first then false
    else if code ≤ last then true
    else has rest code

end CodeRanges

/-- The characters that are white space. -/
def isBlank (c : Char) : Bool :=
  let code := c.toNat
  (0x9 ≤ code && code ≤ 0xd) || code = 0x20 || code = 0x85 || code = 0xa0 || code = 0x1680 ||
    (0x2000 ≤ code && code ≤ 0x200a) || code = 0x2028 || code = 0x2029 || code = 0x202f ||
    code = 0x205f || code = 0x3000

/-! ## Beginnings and ends -/

/-- What follows a given beginning of a text. -/
def dropPrefix? (start text : String) : Option String :=
  (start.toList.isPrefixOf? text.toList).map String.ofList

/-- What comes before a given end of a text. -/
def dropSuffix? (ending text : String) : Option String :=
  (ending.toList.isSuffixOf? text.toList).map String.ofList

/-- Whether a character stands in a text. -/
def hasChar (c : Char) (text : String) : Bool := text.toList.contains c

/-- The part of a text after the last character of a kind; the whole text when
there is none. -/
def afterLast (kind : Char → Bool) (text : String) : String :=
  String.ofList (text.toList.reverse.takeWhile (!kind ·)).reverse

/-- A text without the blanks at its two ends. -/
def trim (text : String) : String :=
  String.ofList ((text.toList.dropWhile isBlank).reverse.dropWhile isBlank).reverse

/-- The singular of a word, by a simple rule for English that looks at the ending alone:
`categories` becomes `category`, `addresses` becomes `address`, `authors` becomes
`author`, and a word of any other ending stays as it is. -/
def singular (word : String) : String :=
  match dropSuffix? "ies" word with
  | some stem => stem ++ "y"
  | none =>
    if ["sses", "shes", "ches", "xes"].any fun ending => (dropSuffix? ending word).isSome then
      (dropSuffix? "es" word).getD word
    else
      match dropSuffix? "s" word with
      | some stem => if stem = "" ∨ (dropSuffix? "s" stem).isSome then word else stem
      | none => word

end EntityGen.Text
