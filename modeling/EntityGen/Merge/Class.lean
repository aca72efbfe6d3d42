import EntityGen.Logged
import EntityGen.Merge.Accessor
import EntityGen.Source.File

/-!
# Merging a class into a source file

A class of the model is merged into the source file that declares it, and what
was written there by hand stays.  Each kind of element has its own rule:

* a namespace, a class declaration, an import, a constant or an interface is
  appended when it is missing;
* an attribute is appended when none of its name was there before;
* a field is generated anew, and keeps a comment that it had;
* a method is appended when none of its name is there, a constructor in front;
* a header or a comment of the class is set when there is none.

The elements of a kind are taken one after the other, and those that are put in are
counted on the way.
-/

namespace EntityGen

/-- What a merge has added. -/
structure MergeOutcome where
  attributesAdded : Nat
  propertiesMerged : Nat
  methodsAdded : Nat
  deriving DecidableEq, Repr, Inhabited

namespace Field

/-- The field with the comment of an earlier declaration, when that has one. -/
def keepComment (field : Field) (earlier : Option Field) : Field :=
  { field with comment := (earlier.bind Field.comment).or field.comment }

end Field

/-- The fields generated in the course of a merge, with the declared fields that have not
given way to any of them. -/
structure MergedFields where
  generated : List Field := []
  declared : List Field

/-- Generate a field.  The first declared field of its name gives way and leaves its
comment. -/
def MergedFields.generate (fields : MergedFields) (field : Field) : MergedFields where
  generated :=
    fields.generated ++ [field.keepComment (fields.declared.find? (·.name = field.name))]
  declared := fields.declared.eraseP (·.name = field.name)

namespace ClassDeclaration

/-- Append an attribute, and count it, unless an earlier declaration carries one of its
name. -/
def addUncarried (earlier : ClassDeclaration) :
    ClassDeclaration × Nat → Attribute → ClassDeclaration × Nat
  | (decl, added), attr =>
    if earlier.hasAttribute attr.name then (decl, added)
    else (decl.addAttribute attr, added + 1)

/-- Append a constant unless one of its name is there. -/
def addNewConstant (decl : ClassDeclaration) (constant : Constant) : ClassDeclaration :=
  if decl.hasConstant constant.name then decl else decl.addConstant constant

/-- Append a method, and count it, unless one of its name is there. -/
def addNewMethod : ClassDeclaration × Nat → Method → ClassDeclaration × Nat
  | (decl, added), method =>
    if decl.hasMethod method.name then (decl, added)
    else (decl.addMethod method, added + 1)

end ClassDeclaration

namespace Parent

/-- The parent that a declaration extends after a merge. -/
def declared (parent : Parent) (extended : Option String) : Option String :=
  match parent with
  | .named name => some name
  | .absent => none
  | .unknown => extended

end Parent

namespace Class

/-- The fields that declare the properties of a class. -/
def fields (cls : Class) (config : Config) : List Field :=
  cls.declarationOrder.map fun property => property.field config cls.name

/-- The interface of a class, when a declaration does not name it. -/
def newInterfaces (cls : Class) (decl : ClassDeclaration) : List String :=
  cls.interface.toList.filter (· ∉ decl.implements)

/-- A declaration with what a merge tells of the class as a whole. -/
def mergeSignature (cls : Class) (decl : ClassDeclaration) : ClassDeclaration :=
  { decl with
    comment := decl.comment.or (describingComment cls.description cls.uri)
    extends? := cls.parent.declared decl.extends?
    implements := decl.implements ++ cls.newInterfaces decl
    isAbstract := cls.isAbstract }

/-- A declaration with the attributes of a class whose names it did not carry, and their
number.  Attributes of one new name are all added. -/
def mergeAttributes (cls : Class) (decl : ClassDeclaration) : ClassDeclaration × Nat :=
  cls.attributes.foldl decl.addUncarried (decl, 0)

/-- A declaration with the constants of a class. -/
def mergeConstants (cls : Class) (decl : ClassDeclaration) : ClassDeclaration :=
  cls.constants.toList.foldl ClassDeclaration.addNewConstant decl

/-- A declaration with the fields of a class in front, and their number. -/
def mergeFields (cls : Class) (config : Config) (decl : ClassDeclaration) :
    ClassDeclaration × Nat :=
  let fields := (cls.fields config).foldl MergedFields.generate { declared := decl.fields }
  ({ decl with fields := fields.generated ++ fields.declared }, fields.generated.length)

/-- A declaration with the constructor of a class in front when it lacks one, and the
number of methods added. -/
def mergeConstructor (cls : Class) (config : Config) (decl : ClassDeclaration) :
    ClassDeclaration × Nat :=
  match decl.constructor?, cls.constructor? config with
  | none, some constructor => ({ decl with methods := constructor :: decl.methods }, 1)
  | _, _ => (decl, 0)

/-- A declaration with the constructor and the accessors of a class, and the number of
methods added. -/
def mergeMethods (cls : Class) (config : Config) (decl : ClassDeclaration) :
    ClassDeclaration × Nat :=
  let merged := cls.mergeConstructor config decl
  if config.accessorMethods then (cls.accessors config).foldl ClassDeclaration.addNewMethod merged
  else merged

/-- Merge the elements of a class into a declaration, one kind after the other. -/
def mergeElements (cls : Class) (config : Config) (decl : ClassDeclaration) :
    ClassDeclaration × MergeOutcome :=
  let (decl, attributesAdded) := cls.mergeAttributes (cls.mergeSignature decl)
  let (decl, propertiesMerged) := cls.mergeFields config (cls.mergeConstants decl)
  let (decl, methodsAdded) := cls.mergeMethods config decl
  (decl, { attributesAdded, propertiesMerged, methodsAdded })

/-- A declaration after a merge. -/
def mergeDeclaration (cls : Class) (config : Config) (decl : ClassDeclaration) :
    ClassDeclaration :=
  (cls.mergeElements config decl).1

/-- What a merge adds to a declaration. -/
def mergeOutcome (cls : Class) (config : Config) (decl : ClassDeclaration) : MergeOutcome :=
  (cls.mergeElements config decl).2

/-- A namespace after a merge. -/
def mergeNamespace (cls : Class) (config : Config) (space : Namespace) : Namespace :=
  (cls.imports.toList.foldl Namespace.addImport space).changeClass cls.name
    (cls.mergeDeclaration config)

/-- A source file after a merge. -/
def mergeFile (cls : Class) (config : Config) (file : SourceFile) : SourceFile :=
  { file with header := file.header.or config.header }.changeNamespace (config.namespaceFor cls)
    (cls.mergeNamespace config)

/-- The declaration that a merge begins with: an empty one where it is missing. -/
def declarationIn (cls : Class) (config : Config) (file : SourceFile) : ClassDeclaration :=
  (file.classIn? (config.namespaceFor cls) cls.name).getD { name := cls.name }

/-- Merge a class into a source file. -/
def merge (cls : Class) (config : Config) (file : SourceFile) :
    Logged (SourceFile × MergeOutcome) := do
  let outcome := cls.mergeOutcome config (cls.declarationIn config file)
  Logged.report (.merged cls.name outcome.attributesAdded outcome.methodsAdded)
  return (cls.mergeFile config file, outcome)

@[simp] theorem value_merge (cls : Class) (config : Config) (file : SourceFile) :
    (cls.merge config file).value =
      (cls.mergeFile config file, cls.mergeOutcome config (cls.declarationIn config file)) := rfl

end Class

end EntityGen
