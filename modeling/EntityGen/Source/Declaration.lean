import EntityGen.Model.Attribute

/-!
# Class declarations of a source file

The class declaration of a source file with its fields and methods, as far as a
merge looks at them.  Declarations may hold things written by hand, so names may
repeat; where a name is looked up, its first declaration counts.
-/

namespace EntityGen

/-- From where a member of a class can be used. -/
inductive Visibility
  | everywhere
  | subclasses
  | ownClass
  deriving DecidableEq, Repr, Inhabited

namespace Visibility

/-- All visibilities, the widest first. -/
def all : List Visibility := [.everywhere, .subclasses, .ownClass]

/-- The word that declares a visibility. -/
def name : Visibility → String
  | .everywhere => "public"
  | .subclasses => "protected"
  | .ownClass => "private"

end Visibility

/-- A field of a class. -/
structure Field where
  name : String
  visibility : Visibility := .ownClass
  typeHint : Option String := none
  nullable : Bool := false
  default : Option Json.Value := none
  attributes : List Attribute := []
  comment : Option String := none
  deriving DecidableEq, Inhabited

/-- A parameter of a method. -/
structure Parameter where
  name : String
  typeHint : Option String := none
  nullable : Bool := false
  deriving DecidableEq, Repr, Inhabited

/-- A method of a class, with its body as lines of text. -/
structure Method where
  name : String
  visibility : Visibility := .everywhere
  parameters : List Parameter := []
  returnType : Option String := none
  body : List String := []
  attributes : List Attribute := []
  comment : Option String := none
  deriving DecidableEq, Inhabited

/-- The name of constructors. -/
def constructorName : String := "__construct"

/-- The declaration of a class. -/
structure ClassDeclaration where
  name : String
  comment : Option String := none
  extends? : Option String := none
  implements : List String := []
  isAbstract : Bool := false
  attributes : List Attribute := []
  constants : List Constant := []
  fields : List Field := []
  methods : List Method := []
  deriving DecidableEq, Inhabited

namespace ClassDeclaration

/-- Whether an attribute of the name is there. -/
def hasAttribute (decl : ClassDeclaration) (name : String) : Bool :=
  decl.attributes.any (·.name = name)

/-- Whether a constant of the name is there. -/
def hasConstant (decl : ClassDeclaration) (name : String) : Bool :=
  decl.constants.any (·.name = name)

/-- Whether a method of the name is there. -/
def hasMethod (decl : ClassDeclaration) (name : String) : Bool :=
  decl.methods.any (·.name = name)

/-- The first method of a name. -/
def method? (decl : ClassDeclaration) (name : String) : Option Method :=
  decl.methods.find? (·.name = name)

/-- The constructor. -/
def constructor? (decl : ClassDeclaration) : Option Method := decl.method? constructorName

/-- The first field of a name. -/
def field? (decl : ClassDeclaration) (name : String) : Option Field :=
  decl.fields.find? (·.name = name)

/-- The declaration with one more attribute at the end. -/
def addAttribute (decl : ClassDeclaration) (attr : Attribute) : ClassDeclaration :=
  { decl with attributes := decl.attributes ++ [attr] }

/-- The declaration with one more constant at the end. -/
def addConstant (decl : ClassDeclaration) (constant : Constant) : ClassDeclaration :=
  { decl with constants := decl.constants ++ [constant] }

/-- The declaration with one more field at the end. -/
def addField (decl : ClassDeclaration) (field : Field) : ClassDeclaration :=
  { decl with fields := decl.fields ++ [field] }

/-- The declaration with one more method at the end. -/
def addMethod (decl : ClassDeclaration) (method : Method) : ClassDeclaration :=
  { decl with methods := decl.methods ++ [method] }

end ClassDeclaration

end EntityGen
