import EntityGen.Config.Settings
import EntityGen.Literal
import EntityGen.Logged
import EntityGen.Persistence.Association
import EntityGen.Persistence.ReservedWord

/-!
# Attributes of the persistence mapping

How a class is stored: as an entity, as part of its subclasses, or inside other
entities; and how each property is stored: as an identifier, in a column, inside
its owner, or as an association.  A relation whose target is not registered is
reported and left out.
-/

namespace EntityGen

namespace Persistence

/-- The entry of a literal mapping whose members each become an index. -/
def indexesKey : String := "Indexes"

/-- The attribute of an index, whose arguments begin with its name. -/
def indexAttribute (entry : String × Json.Value) : Except GenerationError Attribute :=
  (argumentsOf .index entry.2).map fun arguments =>
    { persistenceAttribute "Index" with
      arguments :=
        ((∅ : Arguments).insert "name" (.string entry.1)).overlay arguments }

/-- The attributes that an entry of a literal mapping gives. -/
def overrideEntry (entry : String × Json.Value) : Except GenerationError (List Attribute) :=
  if entry.1 = indexesKey then do
    (← argumentsOf .indexes entry.2).entries.mapM indexAttribute
  else (literalAttribute persistenceName entry).map ([·])

/-- The attributes of a class whose mapping is given literally. -/
def overrideAttributes (literals : Arguments) : Except GenerationError (List Attribute) :=
  (literals.entries.mapM overrideEntry).map List.flatten

/-- The attributes that make a class part of the mapping. -/
def baseAttributes (config : Config) (cls : Class) :
    Except GenerationError (List Attribute) :=
  if cls.isAbstract then
    match config.persistence.inheritanceAttributes with
    | some literals => literalAttributes persistenceName literals
    | none => .ok [persistenceAttribute "MappedSuperclass"]
  else .ok [persistenceAttribute "Entity"]

/-- The table of a class whose name is a reserved word. -/
def tableAttributes (className : String) : List Attribute :=
  if isReserved className then
    [(persistenceAttribute "Table").withArgument "name" (.string (Text.lowercase className))]
  else []

/-- The attributes of a class. -/
def classAttributes (config : Config) (cls : Class) :
    Except GenerationError (List Attribute) :=
  if cls.isEnum then .ok []
  else
    match (config.class? cls.name).bind Config.ClassSettings.persistenceAttributes with
    | some literals => overrideAttributes literals
    | none =>
      if cls.isEmbeddable then .ok [persistenceAttribute "Embeddable"]
      else (baseAttributes config cls).map (· ++ tableAttributes cls.name)

/-- The type of the column that stores an identifier, when it is not the implied
one. -/
def identifierColumnType? : Config.IdentifierStrategy → Option String
  | .uuid => some "guid"
  | .auto => some "integer"
  | .mongoid | .assigned => none

/-- The attributes of an identifier. -/
def identifierAttributes (settings : Config.Identifier) (property : Property) :
    List Attribute :=
  let generated :=
    if settings.isGenerated property then
      [(persistenceAttribute "GeneratedValue").withArgument "strategy"
        (.string settings.strategy.capitalName)]
    else []
  let column :=
    (persistenceAttribute "Column").withArgument? "type"
      ((identifierColumnType? settings.strategy).map .string)
  persistenceAttribute "Id" :: generated ++ [column]

/-- The arguments of a column that follow from the property alone. -/
def derivedColumnArguments (property : Property) (type : ColumnType) : Arguments :=
  let add (condition : Bool) (key : String) (value : Json.Value) (arguments : Arguments) :=
    if condition then arguments.insert key value else arguments
  (∅ : Arguments)
    |> add (type != .implied) "type" (.string type.name)
    |> add property.isNullable "nullable" (.bool true)
    |> add property.isUnique "unique" (.bool true)
    |> add (isReserved property.name) "name" (.string ("`" ++ property.name ++ "`"))

/-- The attribute of a column; the options of the property are laid over what
follows from it. -/
def columnAttribute (property : Property) (type : ColumnType) : Attribute :=
  { persistenceAttribute "Column" with
    arguments := (derivedColumnArguments property type).overlay property.columnOptions }

/-- The attributes of a relation to a class. -/
def relationAttributes (property : Property) (target : Class) : List Attribute :=
  if property.isEmbedded then
    [((persistenceAttribute "Embedded").withArgument "class" (.string target.name)).withArgument?
      "columnPrefix" (property.columnPrefix.map .string)]
  else property.associationAttributes target.name

/-- The attributes of a property. -/
def propertyAttributes (config : Config) (registry : Registry) (className : String)
    (property : Property) : Logged (List Attribute) :=
  if property.isId then
    pure (identifierAttributes (config.identifierFor className) property)
  else
    match property.columnType? with
    | some type => pure [columnAttribute property type]
    | none =>
      match property.target? className registry with
      | .ok target => pure (relationAttributes property target)
      | .error error => do
        let target := property.rangeName?.getD ""
        Logged.report (.unmappedProperty error className property.name target)
        return []

/-- The import of the persistence mapping. -/
def mappingImport : Import := ⟨"Doctrine\\ORM\\Mapping", some "ORM"⟩

/-- The imports of collection objects. -/
def collectionImports : List Import :=
  [⟨"Doctrine\\Common\\Collections\\ArrayCollection", none⟩,
    ⟨"Doctrine\\Common\\Collections\\Collection", none⟩]

/-- The imports that the attributes of a class and its collections need. -/
def imports (config : Config) (cls : Class) : List Import :=
  if cls.isEnum then []
  else
    mappingImport ::
      if cls.properties.toList.any (·.isCollection config.persistence.useCollection) then
        collectionImports
      else []

end Persistence

end EntityGen
