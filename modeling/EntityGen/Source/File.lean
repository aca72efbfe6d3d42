import EntityGen.Source.Declaration

/-!
# Source files

A source file is a header and a list of namespaces, and a namespace is a list of
imports and a list of class declarations.  A change is made at the first
namespace or declaration of a name; where it is missing, a new one is appended
first.
-/

namespace EntityGen

/-- Change the first element of a kind; when there is none, append a fresh one and
change that. -/
def changeFirst {α : Type} (kind : α → Bool) (fresh : α) (change : α → α) :
    List α → List α
  | [] => [change fresh]
  | a :: rest => if kind a then change a :: rest else a :: changeFirst kind fresh change rest

/-- Change the first element of a kind, when there is one. -/
def changeFound {α : Type} (kind : α → Bool) (change : α → α) : List α → List α
  | [] => []
  | a :: rest => if kind a then change a :: rest else a :: changeFound kind change rest

/-- After a change the changed element is found, or the changed fresh one. -/
theorem find?_changeFirst {α : Type} {kind : α → Bool} {fresh : α} {change : α → α}
    (keeps : ∀ a, kind a → kind (change a)) (isFresh : kind fresh) (elements : List α) :
    (changeFirst kind fresh change elements).find? kind =
      some (change ((elements.find? kind).getD fresh)) := by
  induction elements with
  | nil => simp [changeFirst, keeps fresh isFresh]
  | cons a rest ih =>
    by_cases h : kind a
    · simp [changeFirst, h, keeps a h]
    · simp [changeFirst, h, ih]

/-- A namespace of a source file. -/
structure Namespace where
  name : String
  imports : List Import := []
  classes : List ClassDeclaration := []
  deriving DecidableEq, Inhabited

namespace Namespace

/-- Whether a symbol is imported, under whatever name. -/
def hasImport (space : Namespace) (name : String) : Bool := space.imports.any (·.name = name)

/-- Import a symbol unless it is imported already. -/
def addImport (space : Namespace) (imported : Import) : Namespace :=
  if space.hasImport imported.name then space
  else { space with imports := space.imports ++ [imported] }

/-- The first class declaration of a name. -/
def class? (space : Namespace) (name : String) : Option ClassDeclaration :=
  space.classes.find? (·.name = name)

/-- Change the class declaration of a name, after appending it when missing. -/
def changeClass (space : Namespace) (name : String)
    (change : ClassDeclaration → ClassDeclaration) : Namespace :=
  { space with classes := changeFirst (·.name = name) { name := name } change space.classes }

/-- Change the class declaration of a name, when it is there. -/
def changeFoundClass (space : Namespace) (name : String)
    (change : ClassDeclaration → ClassDeclaration) : Namespace :=
  { space with classes := changeFound (·.name = name) change space.classes }

end Namespace

/-- A source file. -/
structure SourceFile where
  /-- The comment at the beginning of the file. -/
  header : Option String := none
  namespaces : List Namespace := []
  deriving DecidableEq, Inhabited

namespace SourceFile

/-- The first namespace of a name. -/
def namespace? (file : SourceFile) (name : String) : Option Namespace :=
  file.namespaces.find? (·.name = name)

/-- The first class declaration of a name in any namespace. -/
def findClass? (file : SourceFile) (name : String) : Option ClassDeclaration :=
  file.namespaces.findSome? (·.class? name)

/-- The class declaration of a name in the namespace of a name. -/
def classIn? (file : SourceFile) (space name : String) : Option ClassDeclaration :=
  (file.namespace? space).bind (·.class? name)

/-- Change the namespace of a name, after appending it when missing. -/
def changeNamespace (file : SourceFile) (name : String) (change : Namespace → Namespace) :
    SourceFile :=
  { file with namespaces := changeFirst (·.name = name) { name := name } change file.namespaces }

/-- Change the namespace of a name, when it is there. -/
def changeFoundNamespace (file : SourceFile) (name : String) (change : Namespace → Namespace) :
    SourceFile :=
  { file with namespaces := changeFound (·.name = name) change file.namespaces }

end SourceFile

end EntityGen
