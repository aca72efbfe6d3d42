import EntityGen.Config.Settings
import EntityGen.Text.LetterCase
import EntityGen.Vocabulary.Datatype

/-!
# Attributes of constraints

Which values of a property are valid.  Identifiers carry no constraints.
-/

namespace EntityGen

namespace Constraint

/-- A constraint under its name. -/
def assertion (name : String) : Attribute := ⟨"Assert\\" ++ name, ∅⟩

/-- The properties whose values never repeat, apart from identifiers. -/
def uniqueProperties (cls : Class) : List Property :=
  cls.properties.toList.filter fun property => property.isUnique && !property.isId

/-- The attributes of a class: one for each property whose values never repeat. -/
def classAttributes (cls : Class) : List Attribute :=
  if cls.isEnum then []
  else
    (uniqueProperties cls).map fun property =>
      Attribute.withArgument ⟨"UniqueEntity", ∅⟩ "fields" (.array [.string property.name])

/-- The constraint on the form of a single text: that of an address of mail after
the name of the property, that of a web address after its range. -/
def textForm (property : Property) : List Attribute :=
  if property.datatype? = some .text ∧ ¬property.isArray then
    if Text.sameIgnoringAsciiCase property.name "email" then [assertion "Email"]
    else if property.rangeName? = some "URL" ∨ property.rangeName? = some "anyURI" then
      [assertion "Url"]
    else []
  else []

/-- The constraint that restricts a property to the values of an enumeration. -/
def enumChoice (property : Property) : List Attribute :=
  if property.isEnum then
    property.rangeName?.toList.map fun target =>
      let choice :=
        (assertion "Choice").withArgument "callback" (.array [.string target, .string "toArray"])
      if property.isArray then choice.withArgument "multiple" (.bool true) else choice
  else []

/-- The constraint on a single value that is never absent. -/
def presence (property : Property) : List Attribute :=
  if property.isNullable || property.isArray then [] else [assertion "NotNull"]

/-- The attributes of a property. -/
def propertyAttributes (property : Property) : List Attribute :=
  if property.isId then []
  else textForm property ++ enumChoice property ++ presence property

/-- The import of the constraints on properties. -/
def constraintsImport : Import := ⟨"Symfony\\Component\\Validator\\Constraints", some "Assert"⟩

/-- The import of the constraint on entities. -/
def uniqueEntityImport : Import :=
  ⟨"Symfony\\Bridge\\Doctrine\\Validator\\Constraints\\UniqueEntity", none⟩

/-- The imports of the enumerations that properties are restricted to. -/
def enumImports (config : Config) (cls : Class) : List Import :=
  (cls.properties.toList.filter (·.isEnum)).filterMap fun property =>
    property.rangeName?.map fun target =>
      ⟨config.namespaces.enumeration ++ "\\" ++ target, none⟩

/-- The imports that the attributes of a class and its properties need. -/
def imports (config : Config) (cls : Class) : List Import :=
  if cls.isEnum then []
  else
    let constrained :=
      cls.properties.toList.any fun property => !(propertyAttributes property).isEmpty
    (if constrained then [constraintsImport] else []) ++
      (if (uniqueProperties cls).isEmpty then [] else [uniqueEntityImport]) ++
      enumImports config cls

end Constraint

end EntityGen
