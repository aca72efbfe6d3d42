import EntityGen.Error
import EntityGen.Stage

/-!
# Events of a generation

A generation reports what it does.  Each constructor of `Event` is one kind of
report; its severity, its sentence and its fields follow from it.
-/

namespace EntityGen

/-- How much an event matters, the most important first. -/
inductive Severity
  | error
  | warn
  | info
  | debug
  | trace
  deriving DecidableEq, Repr, Inhabited

namespace Severity

/-- All severities, the most important first. -/
def all : List Severity := [.error, .warn, .info, .debug, .trace]

/-- The name of a severity. -/
def name : Severity → String
  | .error => "error"
  | .warn => "warn"
  | .info => "info"
  | .debug => "debug"
  | .trace => "trace"

/-- The place of a severity among all of them. -/
def rank : Severity → Nat
  | .error => 0
  | .warn => 1
  | .info => 2
  | .debug => 3
  | .trace => 4

end Severity

/-- A report of a generation. -/
inductive Event
  /-- A class is about to be adjusted. -/
  | adjusting (className : String) (adjustment : Adjustment)
  /-- The configuration has settings for a property that the class lacks. -/
  | unmodeledProperty (className property : String)
  /-- A class is about to be annotated. -/
  | annotating (className : String)
  /-- An annotator is about to run on a class. -/
  | runningAnnotator (className : String) (annotator : Annotator)
  /-- A property gets no mapping because of an error; the target is empty when
  the property has none. -/
  | unmappedProperty (error : GenerationError) (className property target : String)
  /-- A class was merged into its file. -/
  | merged (className : String) (attributes methods : Nat)
  /-- A generation has ended. -/
  | finished (classes declarations methods : Nat)
  deriving DecidableEq, Inhabited

namespace Event

/-- The value of a field of an event. -/
inductive Field
  | text (value : String)
  | count (value : Nat)
  deriving DecidableEq, Repr, Inhabited

/-- How much an event matters. -/
def severity : Event → Severity
  | .adjusting _ _ | .runningAnnotator _ _ => .trace
  | .unmodeledProperty _ _ => .warn
  | .annotating _ | .merged _ _ _ => .debug
  | .unmappedProperty _ _ _ _ => .error
  | .finished _ _ _ => .info

/-- The sentence of an event. -/
def message : Event → String
  | .adjusting _ _ => "applying mutator"
  | .unmodeledProperty _ _ => "configured property is not modeled"
  | .annotating _ => "generating declarations"
  | .runningAnnotator _ _ => "running generator"
  | .unmappedProperty error _ _ _ =>
    error.message ++ "; no mapping generated for this property"
  | .merged _ _ _ => "merged class"
  | .finished _ _ _ => "generation finished"

/-- The fields of an event, in order. -/
def fields : Event → List (String × Field)
  | .adjusting className adjustment =>
    [("class", .text className), ("mutator", .text adjustment.name)]
  | .unmodeledProperty className property =>
    [("class", .text className), ("property", .text property)]
  | .annotating className => [("class", .text className)]
  | .runningAnnotator className annotator =>
    [("class", .text className), ("generator", .text annotator.name)]
  | .unmappedProperty _ className property target =>
    [("class", .text className), ("property", .text property), ("target", .text target)]
  | .merged className attributes methods =>
    [("class", .text className), ("attributes", .count attributes),
      ("methods", .count methods)]
  | .finished classes declarations methods =>
    [("classes", .count classes), ("declarations", .count declarations),
      ("methods", .count methods)]

/-- Whether an event matters at least as much as a severity says. -/
def atLeast (severity : Severity) (event : Event) : Bool :=
  event.severity.rank ≤ severity.rank

end Event

end EntityGen
