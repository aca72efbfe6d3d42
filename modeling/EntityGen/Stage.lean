/-!
# Stages of a generation

The adjustments that prepare every class of the model, and the annotators that
produce its attributes.
-/

namespace EntityGen

/-- An adjustment of a class before it is annotated. -/
inductive Adjustment
  /-- Take over the settings that the configuration has for the class. -/
  | settings
  /-- Give the class an identifier. -/
  | identifier
  deriving DecidableEq, Repr, Inhabited

namespace Adjustment

/-- All adjustments, in the order in which they are made. -/
def all : List Adjustment := [.settings, .identifier]

/-- The name of an adjustment. -/
def name : Adjustment → String
  | .settings => "class-config"
  | .identifier => "id-property"

end Adjustment

/-- A family of attributes. -/
inductive Annotator
  /-- How entities are stored. -/
  | persistence
  /-- How entities are offered as resources. -/
  | resource
  /-- What values are valid. -/
  | constraint
  /-- What the configuration gives literally. -/
  | configuration
  deriving DecidableEq, Repr, Inhabited

namespace Annotator

/-- All annotators, in the order in which they run unless configured otherwise. -/
def all : List Annotator := [.persistence, .resource, .constraint, .configuration]

/-- The name of an annotator. -/
def name : Annotator → String
  | .persistence => "doctrine-orm"
  | .resource => "api-platform"
  | .constraint => "constraint"
  | .configuration => "configuration"

end Annotator

end EntityGen
