import EntityGen.Table

/-!
# Inherited constructors

A class inherits a constructor when an ancestor of it declares one.  Parents are
given by name and may be anything: a chain, a cycle, a class that is its own
parent, or a name that no class has.  The search goes up from the parent, looks at
no class twice, and stops at a name that no class has.
-/

namespace EntityGen

/-- What the search for a constructor knows about a class. -/
structure Lineage where
  declaresConstructor : Bool
  parent : Option String
  deriving DecidableEq, Repr, Inhabited

/-- The classes of a model with their parents. -/
abbrev Hierarchy := NameMap Lineage

namespace Hierarchy

/-- The classes that are left when a class has been looked at. -/
def without (name : String) (classes : List (String × Lineage)) : List (String × Lineage) :=
  classes.filter fun entry => entry.1 ≠ name

theorem length_without_lt {name : String} {classes : List (String × Lineage)}
    {entry : String × Lineage} (h : classes.find? (fun entry => entry.1 = name) = some entry) :
    (without name classes).length < classes.length := by
  have member := List.mem_of_find?_eq_some h
  have named : entry.1 = name := by simpa using List.find?_some h
  refine Nat.lt_of_le_of_ne (List.length_filter_le _ _) fun same => ?_
  simpa [named] using List.length_filter_eq_length_iff.1 same entry member

/-- Whether a class or an ancestor of it declares a constructor, among classes that
have not been looked at. -/
def declaresAbove (classes : List (String × Lineage)) (name : String) : Bool :=
  match _found : classes.find? (fun entry => entry.1 = name) with
  | none => false
  | some entry =>
    entry.2.declaresConstructor ||
      match entry.2.parent with
      | none => false
      | some parent => declaresAbove (without name classes) parent
termination_by classes.length
decreasing_by exact length_without_lt (by assumption)

/-- Whether a class inherits a constructor; nothing is said about a class whose
parent is not one of the classes. -/
def inheritsConstructor (hierarchy : Hierarchy) (name : String) : Option Bool := do
  let entry ← hierarchy.get? name
  let parent ← entry.2.parent
  if hierarchy.contains parent then
    some (declaresAbove (without name hierarchy.toList) parent)
  else none

end Hierarchy

end EntityGen
