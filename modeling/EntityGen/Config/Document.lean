import EntityGen.Config.Decoder
import EntityGen.Config.Settings
import EntityGen.Error

/-!
# Configuration documents

How the settings of a generation are written in a JSON document.
-/

namespace EntityGen.Config

open Json

namespace Section

/-- The section of identifier settings. -/
def identifier : Section Identifier where
  name := "IdConfig"
  initial := {}
  settings := [
    .of "generate" Decoder.boolean fun record value => { record with generate := value },
    .of "generationStrategy" (Decoder.choice IdentifierStrategy.all (·.name))
      fun record value => { record with strategy := value },
    .of "writable" Decoder.boolean fun record value => { record with writable := value },
    .of "onClass" (Decoder.choice IdentifierPlacement.choices (·.name))
      fun record value => { record with placement := value },
    .of "name" Decoder.text fun record value => { record with name := value }]

/-- The section of identifier settings of a class. -/
def identifierOverride : Section IdentifierOverride where
  name := "PartialIdConfig"
  initial := {}
  settings := [
    .of "generate" (.optional Decoder.boolean)
      fun record value => { record with generate := value },
    .of "generationStrategy"
      (.optional (Decoder.choice IdentifierStrategy.all (·.name)))
      fun record value => { record with strategy := value },
    .of "writable" (.optional Decoder.boolean)
      fun record value => { record with writable := value },
    .of "onClass" (.optional (Decoder.choice IdentifierPlacement.choices (·.name)))
      fun record value => { record with placement := value },
    .of "name" (.optional Decoder.text) fun record value => { record with name := value }]

/-- The section of the persistence mapping. -/
def persistence : Section Persistence where
  name := "DoctrineConfig"
  initial := {}
  settings := [
    .of "useCollection" Decoder.boolean
      fun record value => { record with useCollection := value },
    .of "inheritanceAttributes" (.optional Decoder.arguments)
      fun record value => { record with inheritanceAttributes := value }]

/-- The section of namespaces. -/
def namespaces : Section Namespaces where
  name := "NamespacesConfig"
  initial := {}
  settings := [
    .of "entity" Decoder.text fun record value => { record with entity := value },
    .of "enum" Decoder.text fun record value => { record with enumeration := value }]

/-- The section of the persistence mapping of a class. -/
def classPersistence : Section (Option Arguments) where
  name := "TypeDoctrineConfig"
  initial := none
  settings := [.of "attributes" (.optional Decoder.arguments) fun _ value => value]

/-- The section of a property. -/
def property : Section PropertySettings where
  name := "PropertyConfig"
  initial := {}
  settings := [
    .of "relationTableName" (.optional Decoder.text)
      fun record value => { record with relationTableName := value },
    .of "columnOptions" Decoder.arguments
      fun record value => { record with columnOptions := value },
    .of "attributes" Decoder.arguments
      fun record value => { record with attributes := value }]

/-- The parent of a class: a flag or a name. -/
def parent : Decoder ParentSetting
  | .bool value => .ok (.flag value)
  | .string value => .ok (.name value)
  | .unreadable => .error .unreadable
  | _ => .error .noParentSetting

/-- The section of a class. -/
def classSettings : Section ClassSettings where
  name := "TypeConfig"
  initial := {}
  settings := [
    .of "doctrine" classPersistence.decode
      fun record value => { record with persistenceAttributes := value },
    .of "pk" (.optional identifierOverride.decode)
      fun record value => { record with identifier := value },
    .of "properties" (.names property.decode)
      fun record value => { record with properties := value },
    .of "operations" (.optional Decoder.arguments)
      fun record value => { record with operations := value },
    .of "security" (.optional Decoder.text)
      fun record value => { record with security := value },
    .of "parent" (.optional parent) fun record value => { record with parent := value },
    .of "attributes" Decoder.arguments
      fun record value => { record with attributes := value }]

/-- The whole document. -/
def config : Section Config where
  name := "GeneratorConfig"
  initial := {}
  settings := [
    .of "id" identifier.decode fun record value => { record with identifier := value },
    .of "types" (.names classSettings.decode)
      fun record value => { record with classes := value },
    .of "doctrine" persistence.decode
      fun record value => { record with persistence := value },
    .of "accessorMethods" Decoder.boolean
      fun record value => { record with accessorMethods := value },
    .of "fluentMutatorMethods" Decoder.boolean
      fun record value => { record with fluentMutators := value },
    .of "fieldVisibility" (Decoder.choice Visibility.all (·.name))
      fun record value => { record with fieldVisibility := value },
    .of "header" (.optional Decoder.text) fun record value => { record with header := value },
    .of "namespaces" namespaces.decode
      fun record value => { record with namespaces := value },
    .of "attributeGenerators" (.sequence (Decoder.choice Annotator.all (·.name)))
      fun record value => { record with annotators := value }]

end Section

/-- The configuration that a document gives. -/
def ofDocument (document : Document) : Except GenerationError Config :=
  (Section.config.decode document).mapError .invalidConfig

/-- The configuration that a value gives. -/
def ofValue (value : Value) : Except GenerationError Config :=
  ofDocument (.ofValue value)

/-- The configuration that a text gives. -/
def ofText (text : String) : Except GenerationError Config :=
  match Document.ofText? text with
  | some document => ofDocument document
  | none => .error (.invalidConfig .notJson)

end EntityGen.Config
