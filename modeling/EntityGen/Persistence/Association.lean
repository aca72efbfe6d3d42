import EntityGen.Error
import EntityGen.Model.Class
import EntityGen.Persistence.Column

/-!
# Associations

The mapping of a property that points to another class.  Its cardinality decides
on the kind of the association, and on the columns and tables that join the two
sides.
-/

namespace EntityGen

/-- An attribute of the persistence mapping, under its name there. -/
def persistenceAttribute (name : String) : Attribute := ⟨"ORM\\" ++ name, ∅⟩

namespace Property

/-- The class that a property points to. -/
def target? (property : Property) (className : String) (registry : Registry) :
    Except GenerationError Class :=
  match property.rangeName? with
  | none => .error (.missingRange className property.name)
  | some target =>
    match registry.get? target with
    | none => .error (.unresolvedRelation className property.name target)
    | some cls => .ok cls

/-- An association of a kind with a target class. -/
def association (kind target : String) : Attribute :=
  (persistenceAttribute kind).withArgument "targetEntity" (.string target)

/-- The join column of a relation that always has a value. -/
def requiredJoinColumn : Attribute :=
  (persistenceAttribute "JoinColumn").withArgument "nullable" (.bool false)

/-- The table that joins the two sides, when it has a name of its own. -/
def joinTable (property : Property) : List Attribute :=
  property.relationTableName.toList.map fun table =>
    (persistenceAttribute "JoinTable").withArgument "name" (.string table)

/-- The association of the many with one of a target. -/
def manyToOne (property : Property) (target : String) : Attribute :=
  (association "ManyToOne" target).withArgument? "inversedBy"
    (property.inversedBy.map .string)

/-- The association of the many with many of a target. -/
def manyToMany (property : Property) (target : String) : Attribute :=
  (association "ManyToMany" target).withArgument? "inversedBy"
    (property.inversedBy.map .string)

/-- The association of one with many of a target, in a table of pairs whose
second component never repeats.  A property that another one maps has no such
table. -/
def oneToMany (property : Property) (target : String) (required : Bool) : List Attribute :=
  match property.mappedBy with
  | some owner => [(association "OneToMany" target).withArgument "mappedBy" (.string owner)]
  | none =>
    let column := persistenceAttribute "InverseJoinColumn"
    let column := if required then column.withArgument "nullable" (.bool false) else column
    property.manyToMany target :: property.joinTable ++
      [column.withArgument "unique" (.bool true)]

/-- The association of a property with its target class, and the columns and
tables that join them. -/
def associationAttributes (property : Property) (target : String) : List Attribute :=
  match property.cardinality with
  | .zeroToOne => [association "OneToOne" target]
  | .oneToOne => [association "OneToOne" target, requiredJoinColumn]
  | .unknown | .manyToZero => [property.manyToOne target]
  | .manyToOne => [property.manyToOne target, requiredJoinColumn]
  | .zeroToMany => property.oneToMany target false
  | .oneToMany => property.oneToMany target true
  | .manyToMany =>
    (property.manyToMany target).withArgument? "mappedBy" (property.mappedBy.map .string) ::
      property.joinTable

end Property

end EntityGen
