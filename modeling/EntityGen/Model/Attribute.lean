import EntityGen.Json.Value
import EntityGen.Table

/-!
# Attributes, imports and constants

What classes of the model and declarations of a source file have in common.  An
attribute is a name with arguments; an import names a symbol of another namespace; a
constant is a name with a value.

Two attributes are the *same* when their names are equal and their arguments
differ at most in order.  A list of attributes grows by new ones only, so no two
of its members are the same (`appendNew`).
-/

namespace EntityGen

/-- The arguments of an attribute, in the order in which they were given. -/
abbrev Arguments := OrderedMap Json.Value

/-- A name with arguments. -/
structure Attribute where
  name : String
  arguments : Arguments := ∅
  deriving DecidableEq, Inhabited

namespace Attribute

/-- The attribute with one more argument, or with another value for it. -/
def withArgument (attr : Attribute) (key : String) (value : Json.Value) :
    Attribute :=
  { attr with arguments := attr.arguments.insert key value }

/-- The attribute with an argument that may be absent. -/
def withArgument? (attr : Attribute) (key : String) (value : Option Json.Value) :
    Attribute :=
  match value with
  | some value => attr.withArgument key value
  | none => attr

/-- The value of an argument. -/
def argument? (attr : Attribute) (key : String) : Option Json.Value :=
  attr.arguments.get? key

/-- Two attributes are the same when they agree apart from the order of
arguments and of members inside them. -/
def Same (a b : Attribute) : Prop :=
  a.name = b.name ∧
    Json.Value.Same (.object a.arguments.entries) (.object b.arguments.entries)

instance (a b : Attribute) : Decidable (Same a b) :=
  inferInstanceAs (Decidable (_ ∧ _))

theorem Same.refl (a : Attribute) : Same a a := ⟨rfl, .refl _⟩

theorem Same.symm {a b : Attribute} (h : Same a b) : Same b a :=
  ⟨Eq.symm h.1, Json.Value.Same.symm h.2⟩

theorem Same.trans {a b c : Attribute} (h : Same a b) (k : Same b c) : Same a c :=
  ⟨Eq.trans h.1 k.1, Json.Value.Same.trans h.2 k.2⟩

/-- Append an attribute unless the list holds the same one already. -/
def appendNew (attributes : List Attribute) (attr : Attribute) :
    List Attribute :=
  if attributes.any fun held => Same held attr then attributes
  else attributes ++ [attr]

/-- The first of every group of attributes that are the same. -/
def distinct (attributes : List Attribute) : List Attribute :=
  attributes.foldl appendNew []

end Attribute

/-- A symbol that a namespace imports, perhaps under another name. -/
structure Import where
  name : String
  knownAs : Option String := none
  deriving DecidableEq, Repr, Inhabited

/-- Imports are ordered by their symbol and then by their other name; none comes
first. -/
instance : Keyed Import (List String) where
  key imported := imported.name :: imported.knownAs.toList

/-- A constant of a class. -/
structure Constant where
  name : String
  value : String
  deriving DecidableEq, Repr, Inhabited

/-- Constants are ordered by their names. -/
instance : Keyed Constant String where
  key := Constant.name

end EntityGen
