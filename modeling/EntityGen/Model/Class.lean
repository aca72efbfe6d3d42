import EntityGen.Model.Property

/-!
# Classes and the registry

A class of the domain model, and the registry in which classes are stored under
their names.
-/

namespace EntityGen

/-- What is known about the parent of a class. -/
inductive Parent
  /-- Nothing is known. -/
  | unknown
  /-- The class has no parent. -/
  | absent
  /-- The class has the parent of this name. -/
  | named (name : String)
  deriving DecidableEq, Repr, Inhabited

namespace Parent

/-- The name of the parent. -/
def name? : Parent → Option String
  | .named name => some name
  | _ => none

end Parent

/-- A class of the domain model. -/
structure Class where
  name : String
  uri : Option String := none
  description : Option String := none
  parent : Parent := .unknown
  interface : Option String := none
  properties : Table Property := ∅
  imports : Table Import := ∅
  attributes : List Attribute := []
  constants : Table Constant := ∅
  isAbstract : Bool := false
  /-- Whether instances are stored inside other entities. -/
  isEmbeddable : Bool := false
  isEnum : Bool := false
  /-- Whether another class names this one as its parent. -/
  hasChild : Bool := false
  hasConstructor : Bool := false
  parentHasConstructor : Bool := false
  security : Option String := none
  /-- The operations on the class as a resource, by group. -/
  operations : Arguments := ∅
  deriving DecidableEq, Inhabited

/-- Classes are stored under their names. -/
instance : Keyed Class String where
  key := Class.name

/-- The classes of a domain model. -/
abbrev Registry := Table Class

namespace Class

/-- The name of the parent, when there is one. -/
def parentName? (cls : Class) : Option String := cls.parent.name?

/-- Whether the class has a parent that is known by name. -/
def hasParent (cls : Class) : Bool := cls.parentName?.isSome

/-- The property of a name. -/
def property? (cls : Class) (name : String) : Option Property := cls.properties.get? name

/-- The first property that identifies the instances. -/
def identifier? (cls : Class) : Option Property := cls.properties.toList.find? Property.isId

/-- The class with a property, in place of the one of the same name. -/
def addProperty (cls : Class) (property : Property) : Class :=
  { cls with properties := cls.properties.insert property }

/-- The class with an import. -/
def addImport (cls : Class) (imported : Import) : Class :=
  { cls with imports := cls.imports.insert imported }

/-- The class with one more attribute, unless it carries the same one. -/
def addAttribute (cls : Class) (attr : Attribute) : Class :=
  { cls with attributes := Attribute.appendNew cls.attributes attr }

/-- The class with a constant, in place of the one of the same name. -/
def addConstant (cls : Class) (constant : Constant) : Class :=
  { cls with constants := cls.constants.insert constant }

/-- The properties in the order of a declaration: identifiers before the others. -/
def declarationOrder (cls : Class) : List Property :=
  cls.properties.toList.filter (·.isId) ++ cls.properties.toList.filter (!·.isId)

end Class

end EntityGen
