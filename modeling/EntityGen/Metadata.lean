import EntityGen.Constraint
import EntityGen.Literal
import EntityGen.Persistence.Attributes
import EntityGen.Resource.Attributes

/-!
# Metadata of classes

Each configured annotator contributes attributes of a class, attributes of its
properties, and imports.  A contribution repeats no attribute; the metadata of a
class is the contributions of all annotators, one after the other.
-/

namespace EntityGen

namespace Annotator

/-- The attributes of a class. -/
def ofClass (config : Config) (cls : Class) :
    Annotator → Except GenerationError (List Attribute)
  | .persistence => Persistence.classAttributes config cls
  | .resource => Resource.classAttributes cls
  | .constraint => .ok (Constraint.classAttributes cls)
  | .configuration => Configured.classAttributes config cls

/-- The attributes of a property. -/
def ofProperty (config : Config) (registry : Registry) (className : String)
    (property : Property) : Annotator → Fallible (List Attribute)
  | .persistence =>
    ExceptT.lift (Persistence.propertyAttributes config registry className property)
  | .resource => pure (Resource.propertyAttributes property)
  | .constraint => pure (Constraint.propertyAttributes property)
  | .configuration => .ofExcept (Configured.propertyAttributes config className property)

/-- The imports that the attributes need. -/
def imports (config : Config) (cls : Class) : Annotator → List Import
  | .persistence => Persistence.imports config cls
  | .resource => Resource.imports cls
  | .constraint => Constraint.imports config cls
  | .configuration => []

end Annotator

/-- What one annotator contributes to a class. -/
structure Contribution where
  attributes : List Attribute
  /-- The attributes of each property, in the order of the names. -/
  properties : List (String × List Attribute)
  imports : List Import
  deriving DecidableEq, Inhabited

namespace Contribution

/-- The attributes of a property. -/
def ofProperty (contribution : Contribution) (name : String) : List Attribute :=
  (contribution.properties.lookup name).getD []

/-- The number of attributes. -/
def size (contribution : Contribution) : Nat :=
  contribution.properties.foldl (fun count entry => count + entry.2.length)
    contribution.attributes.length

/-- Run an annotator on a class. -/
def ofAnnotator (config : Config) (registry : Registry) (cls : Class)
    (annotator : Annotator) : Fallible Contribution := do
  ExceptT.lift (Logged.report (.runningAnnotator cls.name annotator))
  let attributes ← Fallible.ofExcept (annotator.ofClass config cls)
  let properties ← cls.properties.toList.mapM fun property => do
    let attributes ← annotator.ofProperty config registry cls.name property
    return (property.name, Attribute.distinct attributes)
  return {
    attributes := Attribute.distinct attributes
    properties := properties
    imports := annotator.imports config cls }

end Contribution

/-- Everything that the annotators contribute to a class, in their order. -/
structure Metadata where
  contributions : List Contribution
  deriving DecidableEq, Inhabited

namespace Metadata

/-- The attributes of the class. -/
def attributes (metadata : Metadata) : List Attribute :=
  metadata.contributions.flatMap Contribution.attributes

/-- The attributes of a property. -/
def ofProperty (metadata : Metadata) (name : String) : List Attribute :=
  metadata.contributions.flatMap fun contribution => contribution.ofProperty name

/-- The names of the properties that an annotator has looked at, in order. -/
def propertyNames (metadata : Metadata) : List String :=
  match metadata.contributions with
  | [] => []
  | contribution :: _ => contribution.properties.map Prod.fst

/-- The imports, each at its first place. -/
def imports (metadata : Metadata) : List Import :=
  (metadata.contributions.flatMap Contribution.imports).eraseDups

/-- The number of attributes of the class and its properties. -/
def size (metadata : Metadata) : Nat :=
  metadata.contributions.foldl (fun count contribution => count + contribution.size) 0

/-- Run the configured annotators on a class. -/
def ofClass (config : Config) (registry : Registry) (cls : Class) : Fallible Metadata := do
  return ⟨← config.annotators.mapM (Contribution.ofAnnotator config registry cls)⟩

end Metadata

namespace Property

/-- The property with attributes in place of those it carries. -/
def withAttributes (property : Property) (attributes : List Attribute) : Property :=
  { property with attributes := attributes }

end Property

namespace Class

/-- The class with its metadata attached: attributes are replaced, and imports are
added. -/
def attach (cls : Class) (metadata : Metadata) : Class :=
  { cls with
    attributes := metadata.attributes
    properties :=
      cls.properties.map
        (fun property => property.withAttributes (metadata.ofProperty property.name))
        fun _ => rfl
    imports := cls.imports.insertAll metadata.imports }

end Class

end EntityGen
