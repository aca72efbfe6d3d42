import EntityGen.Proofs.Attachment
import EntityGen.Proofs.Identifier

/-!
# Fields of identifiers

The settings of an identifier are consulted in several places: by the property that a class
receives, by the mapping of that property, and by the type and the initial value of the
field that declares it.  After a generation they agree.  The first field of a class that has
received its only identifier is the one that the settings name, it carries the mapping that
follows from them, its type fits the column of that mapping, and it is null at first exactly
when the mapping leaves the value to the storage (`Workspace.identifies_finished`).

An annotator that is configured more than once emits its output as often, and so the field
may carry its mapping more than once (`Workspace.identifier_mapped_twice`).
-/

namespace EntityGen

/-! ## Agreement -/

/-- The mapping of an identifier.  The storage generates the value unless the strategy leaves
that to the program or the program may write it; the column has the type of the values. -/
def Config.IdentifierStrategy.mapping (strategy : IdentifierStrategy) (writable : Bool) :
    List Attribute :=
  let generated : List Attribute :=
    if strategy ≠ .assigned ∧ writable = false then
      [{ name := "ORM\\GeneratedValue"
         arguments := .ofList [("strategy", .string strategy.name.toUpper)] }]
    else []
  let column : Attribute :=
    { name := "ORM\\Column"
      arguments :=
        match strategy with
        | .uuid => .ofList [("type", .string "guid")]
        | .auto => .ofList [("type", .string "integer")]
        | .mongoid | .assigned => ∅ }
  { name := "ORM\\Id" } :: generated ++ [column]

/-- The mapping of an identifier by its settings. -/
def Config.Identifier.mapping (settings : Config.Identifier) : List Attribute :=
  settings.strategy.mapping settings.writable

/-- What an annotator emits for the identifier that a class receives. -/
def Annotator.Identifies (config : Config) (className : String) :
    Annotator → List Attribute → Prop
  | .persistence, output => output = (config.identifierFor className).mapping
  | .configuration, output =>
    Configured.propertyAttributes config className (config.identifierFor className).property =
      .ok output
  | .resource, output | .constraint, output => output = []

/-- A field declares the identifier of a class by the settings that hold for it. -/
structure Field.Identifies (config : Config) (className : String) (field : Field) : Prop where
  name : field.name = (config.identifierFor className).name
  /-- The outputs of the annotators follow one another. -/
  attributes : ∃ outputs,
    List.Forall₂ (Annotator.Identifies config className) config.annotators outputs ∧
      field.attributes = outputs.flatten
  /-- The type is that of the values in the column. -/
  typeHint : field.typeHint = some
    (if ∃ attr ∈ (config.identifierFor className).mapping, attr.name = "ORM\\Column" ∧
        attr.argument? "type" = some (.string "integer") then "int"
    else "string")
  /-- The value is null until the storage generates it. -/
  nullable : field.nullable ↔
    ∃ attr ∈ (config.identifierFor className).mapping, attr.name = "ORM\\GeneratedValue"
  default : field.default = if field.nullable then some .null else none

/-! ## Outputs without repetitions -/

namespace Attribute

/-- Of attributes of distinct names each is the first of its kind. -/
theorem Firsts.eq_of_nodup {attributes kept : List Attribute} (firsts : Firsts attributes kept)
    (distinct : (attributes.map Attribute.name).Nodup) : kept = attributes := by
  induction firsts with
  | nil => rfl
  | cons attr tail ih =>
      obtain ⟨fresh, distinctRest⟩ := List.nodup_cons.mp distinct
      rw [ih distinctRest, List.filter_eq_self.mpr]
      intro later member
      have different : ¬Same attr later := fun same =>
        fresh (List.mem_map.mpr ⟨later, member, same.1.symm⟩)
      simpa using different

theorem Concatenates.eq_flatten {outputs : List (List Attribute)} {attributes : List Attribute}
    (concatenates : Concatenates outputs attributes)
    (distinct : ∀ output ∈ outputs, (output.map Attribute.name).Nodup) :
    attributes = outputs.flatten := by
  obtain ⟨kept, firsts, rfl⟩ := concatenates
  congr 1
  induction firsts with
  | nil => rfl
  | cons head tail ih =>
      rw [head.eq_of_nodup (distinct _ List.mem_cons_self),
        ih fun output member => distinct output (List.mem_cons_of_mem _ member)]

end Attribute

theorem map_name_of_mapM_literalAttribute {qualify : String → String}
    {entries : List (String × Json.Value)} {attributes : List Attribute}
    (given : entries.mapM (literalAttribute qualify) = .ok attributes) :
    attributes.map Attribute.name = entries.map (qualify ·.1) := by
  induction mapM_eq_ok_iff.mp given with
  | nil => rfl
  | cons head tail ih =>
      obtain ⟨arguments, _, rfl⟩ := map_eq_ok.mp head
      rw [List.map_cons, List.map_cons, ih (mapM_eq_ok_iff.mpr tail)]

namespace Configured

/-- Attributes that the configuration gives have distinct names. -/
theorem nodup_names_propertyAttributes {config : Config} {className : String}
    {property : Property} {attributes : List Attribute}
    (given : propertyAttributes config className property = .ok attributes) :
    (attributes.map Attribute.name).Nodup := by
  rw [propertyAttributes] at given
  split at given
  next settings _ =>
    rw [map_name_of_mapM_literalAttribute given]
    exact settings.attributes.distinct
  next =>
    cases given
    exact .nil

end Configured

/-! ## Annotators on identifiers -/

namespace Config

/-- The mapping has no attribute twice. -/
theorem nodup_names_mapping (strategy : IdentifierStrategy) (writable : Bool) :
    ((strategy.mapping writable).map Attribute.name).Nodup := by
  cases strategy <;> cases writable <;> decide

namespace Identifier

variable (settings : Identifier)

theorem identifierAttributes_property :
    Persistence.identifierAttributes settings settings.property = settings.mapping := by
  have byStrategy (strategy : IdentifierStrategy) (writable : Bool) :
      Persistence.identifierAttributes { strategy := strategy, writable := writable }
        (property { strategy := strategy, writable := writable }) = strategy.mapping writable := by
    cases strategy <;> cases writable <;> decide +kernel
  exact byStrategy settings.strategy settings.writable

theorem isGenerated_property :
    settings.isGenerated settings.property ↔
      ∃ attr ∈ settings.mapping, attr.name = "ORM\\GeneratedValue" := by
  have byStrategy (strategy : IdentifierStrategy) (writable : Bool) :
      strategy != .assigned && !writable ↔
        ∃ attr ∈ strategy.mapping writable, attr.name = "ORM\\GeneratedValue" := by
    cases strategy <;> cases writable <;> decide
  exact byStrategy settings.strategy settings.writable

theorem strategy_eq_auto_iff :
    settings.strategy = .auto ↔
      ∃ attr ∈ settings.mapping, attr.name = "ORM\\Column" ∧
        attr.argument? "type" = some (.string "integer") := by
  have byStrategy (strategy : IdentifierStrategy) (writable : Bool) :
      strategy = .auto ↔
        ∃ attr ∈ strategy.mapping writable, attr.name = "ORM\\Column" ∧
          attr.argument? "type" = some (.string "integer") := by
    cases strategy <;> cases writable <;> decide +kernel
  exact byStrategy settings.strategy settings.writable

end Identifier

end Config

namespace Annotator

variable {config : Config} {registry : Registry} {className : String} {annotator : Annotator}
  {output : List Attribute}

theorem identifies_of_ofProperty
    (emitted : (annotator.ofProperty config registry className
      (config.identifierFor className).property).outcome = .ok output) :
    annotator.Identifies config className output := by
  cases annotator with
  | persistence =>
      have mapped : Persistence.identifierAttributes (config.identifierFor className)
          (config.identifierFor className).property = output := Except.ok.inj emitted
      exact mapped.symm.trans (Config.Identifier.identifierAttributes_property _)
  | resource => exact (Except.ok.inj emitted).symm
  | constraint => exact (Except.ok.inj emitted).symm
  | configuration =>
      rw [Identifies]
      rwa [ofProperty, Fallible.outcome_ofExcept] at emitted

theorem Identifies.nodup_names (identifies : annotator.Identifies config className output) :
    (output.map Attribute.name).Nodup := by
  cases annotator with
  | persistence =>
      cases identifies
      exact Config.nodup_names_mapping _ _
  | configuration => exact Configured.nodup_names_propertyAttributes identifies
  | resource | constraint =>
      cases identifies
      exact .nil

end Annotator

/-- The annotations of an identifier, one after the other. -/
theorem Metadata.exists_identifies {config : Config} {registry : Registry} {cls : Class}
    {described : Metadata} (ended : (ofClass config registry cls).outcome = .ok described)
    (member : (config.identifierFor cls.name).property ∈ cls.properties.toList) :
    ∃ outputs, List.Forall₂ (Annotator.Identifies config cls.name) config.annotators outputs ∧
      described.ofProperty (config.identifierFor cls.name).name = outputs.flatten := by
  obtain ⟨outputs, collected, concatenates⟩ := concatenates_ofProperty ended member
  have each : List.Forall₂ (Annotator.Identifies config cls.name) config.annotators outputs :=
    (mapM_eq_ok_iff.mp collected).imp fun _ _ emitted =>
      Annotator.identifies_of_ofProperty emitted
  refine ⟨outputs, each, concatenates.eq_flatten ?_⟩
  intro output memberOutput
  obtain ⟨annotator, _, emitted⟩ := mem_of_mapM collected memberOutput
  exact (Annotator.identifies_of_ofProperty emitted).nodup_names

/-! ## Classes that receive their only identifier -/

namespace Class

variable {cls : Class} {config : Config}

theorem isEnum_adjusted (cls : Class) (config : Config) :
    (cls.adjusted config).isEnum = cls.isEnum := by
  rw [adjusted_eq_of_settings]

section Received

variable (received : cls.receivedName? config = some (config.identifierFor cls.name).name)

include received

theorem mem_properties_adjusted :
    (config.identifierFor cls.name).property ∈ (cls.adjusted config).properties.toList := by
  rw [receivedName?] at received
  split at received
  next receives =>
    rw [adjusted_eq_identify, identify, if_pos receives, addProperty, Table.mem_insert_iff]
    exact .inl rfl
  next => cases received

variable (alone : ∀ name ∈ cls.identifierNames, name = (config.identifierFor cls.name).name)

include alone

/-- The identifier that a class receives stands alone when the class models no other. -/
theorem filter_isId_adjusted :
    (cls.adjusted config).properties.toList.filter (·.isId) =
      [(config.identifierFor cls.name).property] := by
  have present := mem_properties_adjusted received
  have same : ∀ property ∈ (cls.adjusted config).properties.toList, property.isId →
      property = (config.identifierFor cls.name).property := by
    intro property member identifies
    have named : property.name ∈ (cls.adjusted config).identifierNames :=
      mem_identifierNames.mpr ⟨property, member, identifies, rfl⟩
    apply Table.eq_of_key_eq _ member present
    rcases (cls.mem_identifierNames_adjusted config).mp named with modeled | given
    · exact alone property.name modeled
    · exact (Option.some.inj (received.symm.trans given)).symm
  rw [← List.perm_singleton, List.perm_ext_iff_of_nodup
    ((cls.adjusted config).properties.nodup_toList.filter _) (List.nodup_singleton _)]
  intro property
  rw [List.mem_filter, List.mem_singleton]
  constructor
  · rintro ⟨member, identifies⟩
    exact same property member identifies
  · rintro rfl
    exact ⟨present, rfl⟩

/-- The identifier is declared first, with what is attached to it. -/
theorem declarationOrder_annotated (described : Metadata) (hierarchy : Hierarchy) :
    ∃ others, (((cls.adjusted config).attach described).markConstructors config
        hierarchy).declarationOrder =
      (config.identifierFor cls.name).property.withAttributes
        (described.ofProperty (config.identifierFor cls.name).name) :: others := by
  have identifies : (Property.isId ∘ fun property : Property =>
      property.withAttributes (described.ofProperty property.name)) = Property.isId := rfl
  rw [declarationOrder, toList_properties_annotated, List.filter_map, identifies,
    filter_isId_adjusted received alone]
  exact ⟨_, rfl⟩

end Received

/-- The property that is declared first has the first field after a merge. -/
theorem fields_mergeDeclaration_of_first {property : Property} {others : List Property}
    (order : cls.declarationOrder = property :: others) (config : Config)
    (decl : ClassDeclaration) :
    ∃ rest, (cls.mergeDeclaration config decl).fields =
      (property.field config cls.name).keepComment (decl.field? property.name) :: rest := by
  rw [fields_mergeDeclaration, fields, order, List.map_cons, Field.mergeAll]
  exact ⟨_, rfl⟩

end Class

namespace Field

variable {config : Config} {className : String}

/-- The field of a received identifier, with the annotations and whatever comment it has. -/
theorem identifies_field {outputs : List (List Attribute)}
    (each : List.Forall₂ (Annotator.Identifies config className) config.annotators outputs)
    (earlier : Option Field) :
    Identifies config className
      ((((config.identifierFor className).property.withAttributes outputs.flatten).field config
        className).keepComment earlier) where
  name := rfl
  attributes := ⟨outputs, each, rfl⟩
  typeHint := by
    simp only [← Config.Identifier.strategy_eq_auto_iff]
    rfl
  nullable := Config.Identifier.isGenerated_property _
  default := rfl

end Field

namespace Workspace

variable {config : Config} {workspace finished : Workspace} {summary : Summary} {cls : Class}

/-- After a generation the first field of a class that has received its only identifier
declares it as the settings say, whatever fields the file had before. -/
theorem identifies_finished
    (ended : (workspace.generate config).value = (finished, .ok summary))
    (member : cls ∈ workspace.registry.toList)
    (received : cls.receivedName? config = some (config.identifierFor cls.name).name)
    (alone : ∀ name ∈ cls.identifierNames, name = (config.identifierFor cls.name).name) :
    ∃ decl field others, finished.declaration? config cls = some decl ∧
      decl.fields = field :: others ∧ field.Identifies config cls.name := by
  have named : (cls.adjusted config).name = cls.name := cls.key_adjusted config
  have memberAdjusted : cls.adjusted config ∈ (workspace.registry.adjust config).value.toList := by
    rw [Registry.toList_adjust]
    exact List.mem_map_of_mem member
  obtain ⟨done, memberDone, described, ofClass, same⟩ := exists_mem_finished ended memberAdjusted
  have doneNamed : done.name = cls.name := by
    rw [same]
    exact named
  have doneIsEnum : done.isEnum = cls.isEnum := by
    rw [same]
    exact cls.isEnum_adjusted config
  have declared := declaration?_finished ended memberDone
  rw [declaration?_congr doneNamed doneIsEnum, doneNamed] at declared
  -- The identifier is annotated under the name that the settings of the class give it.
  have present := Class.mem_properties_adjusted received
  rw [← named] at present
  obtain ⟨outputs, each, attached⟩ := Metadata.exists_identifies ofClass present
  rw [named] at each attached
  obtain ⟨others, order⟩ := Class.declarationOrder_annotated received alone described
    ((workspace.registry.adjust config).value.hierarchy config)
  rw [← same, attached] at order
  obtain ⟨rest, fields⟩ := Class.fields_mergeDeclaration_of_first order config
    ((workspace.declaration? config done).getD { name := cls.name })
  rw [doneNamed] at fields
  exact ⟨_, _, rest, declared, fields, Field.identifies_field each _⟩

/-- A class with an identifier of the configured name, which gives way, in a file that was
written by hand; the settings of the class differ from the global ones. -/
theorem identifies_finished_uuid :
    let config : Config :=
      { annotators := [.configuration, .persistence]
        classes := .ofList
          [("Person",
            { identifier := some { strategy := some .uuid, name := some "key" }
              properties := .ofList
                [("key", { attributes := .ofList [("Groups", .null)] })] })] }
    let person : Class :=
      { name := "Person"
        properties := .ofList
          [{ name := "age", range := some (.ofUri "https://schema.org/Integer") },
            { name := "key", isId := true }] }
    let workspace : Workspace :=
      { registry := .ofList [person]
        files := .ofList
          [("Person",
            { namespaces :=
                [{ name := "App\\Entity"
                   classes :=
                    [{ name := "Person"
                       fields := [{ name := "note" }, { name := "key", comment := some "Key." }] }]
                  }] })] }
    let finished := (workspace.generate config).value.1
    (workspace.generate config).value = (finished, .ok ⟨1, 2, 6, 3⟩) ∧
      person ∈ workspace.registry.toList ∧
      person.receivedName? config = some (config.identifierFor "Person").name ∧
      (∀ name ∈ person.identifierNames, name = (config.identifierFor "Person").name) ∧
      (config.identifierFor "Person").mapping.map Attribute.name =
        ["ORM\\Id", "ORM\\GeneratedValue", "ORM\\Column"] ∧
      ∃ decl field others, finished.declaration? config person = some decl ∧
        decl.fields = field :: others ∧ field.Identifies config "Person" := by
  intro config person workspace finished
  have ended : (workspace.generate config).value = (finished, .ok ⟨1, 2, 6, 3⟩) :=
    generate_eq_ok_of_toOption (by decide +kernel)
  have member : person ∈ workspace.registry.toList := by decide +kernel
  have received : person.receivedName? config = some (config.identifierFor "Person").name := by
    decide +kernel
  have alone : ∀ name ∈ person.identifierNames, name = (config.identifierFor "Person").name := by
    decide +kernel
  exact ⟨ended, member, received, alone, by decide +kernel,
    identifies_finished ended member received alone⟩

/-- The persistence annotator runs twice, and the field of the identifier carries its mapping
twice. -/
theorem identifier_mapped_twice :
    let config : Config := { annotators := [.persistence, .persistence] }
    let person : Class := { name := "Person" }
    let workspace : Workspace := { registry := .ofList [person] }
    let finished := (workspace.generate config).value.1
    let mapping := (config.identifierFor "Person").mapping
    (workspace.generate config).value = (finished, .ok ⟨1, 1, 8, 1⟩) ∧
      person ∈ workspace.registry.toList ∧
      person.receivedName? config = some (config.identifierFor "Person").name ∧
      person.identifierNames = [] ∧
      ∃ decl ∈ finished.declaration? config person, ∃ field ∈ decl.fields.head?,
        field.attributes = mapping ++ mapping ∧ field.attributes ≠ mapping := by
  intro config person workspace finished mapping
  have ended : (workspace.generate config).value = (finished, .ok ⟨1, 1, 8, 1⟩) :=
    generate_eq_ok_of_toOption (by decide +kernel)
  exact ⟨ended, by decide +kernel⟩

end Workspace

end EntityGen
