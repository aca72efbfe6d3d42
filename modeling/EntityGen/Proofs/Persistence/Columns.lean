import EntityGen.Persistence.Attributes
import EntityGen.Proofs.AdjustedClass

/-!
# Columns

The arguments of a column come from three layers: what follows from the property, the options
that the model gives it, and the options that the settings give it.  The settings are taken over
by an adjustment, and the annotator then lays the options of the property over what follows from
it; so two maps are laid one over the other at different times.  Of each argument the last layer
that speaks of it decides, and it stands at the place where the first such layer puts it
(`Registry.layersColumn_adjusted`).
-/

namespace EntityGen

namespace Property

/-- What follows from a property for its column, in order, where no option says otherwise. -/
def impliedOptions (property : Property) (type : ColumnType) : List (String × Json.Value) :=
  (if type.name ≠ "string" then [("type", .string type.name)] else []) ++
    (if property.isNullable then [("nullable", .bool true)] else []) ++
    (if property.isUnique then [("unique", .bool true)] else []) ++
    (if isReserved property.name then [("name", .string ("`" ++ property.name ++ "`"))] else [])

/-- A column as the model and the settings of its property make it, one over the other. -/
structure LayersColumn (settings? : Option Config.PropertySettings) (property : Property)
    (type : ColumnType) (column : Attribute) : Prop where
  name : column.name = "ORM\\Column"
  argument : ∀ key, column.argument? key =
    (settings?.bind (·.columnOptions.get? key)).or
      ((property.columnOptions.get? key).or ((property.impliedOptions type).lookup key))
  /-- No argument has another source, and each layer puts its new ones behind the others. -/
  keys : column.arguments.keys =
    (property.impliedOptions type).map Prod.fst ++
      property.columnOptions.keys.filter (· ∉ (property.impliedOptions type).map Prod.fst) ++
      (settings?.elim [] (·.columnOptions.keys)).filter fun key =>
        key ∉ (property.impliedOptions type).map Prod.fst ∧ key ∉ property.columnOptions.keys

variable (property : Property) (type : ColumnType)

theorem mem_keys_impliedOptions {key : String}
    (member : key ∈ (property.impliedOptions type).map Prod.fst) :
    key ∈ ["type", "nullable", "unique", "name"] := by
  simp only [impliedOptions, List.map_append, List.mem_append] at member
  grind

end Property

namespace Persistence

variable (property : Property) (type : ColumnType)

theorem entries_derivedColumnArguments :
    (derivedColumnArguments property type).entries = property.impliedOptions type := by
  have typed : type != .implied ↔ type.name ≠ "string" := by cases type <;> decide
  simp only [derivedColumnArguments, Property.impliedOptions, typed]
  by_cases implied : type.name = "string" <;> cases property.isNullable <;>
    cases property.isUnique <;> cases isReserved property.name <;> simp [implied, OrderedMap.put]

theorem argument?_columnAttribute (key : String) :
    (columnAttribute property type).argument? key =
      (property.columnOptions.get? key).or ((property.impliedOptions type).lookup key) := by
  rw [← entries_derivedColumnArguments]
  exact (derivedColumnArguments property type).get?_overlay property.columnOptions key

/-- Options decide alone on an argument that never follows from the property. -/
theorem argument?_columnAttribute_of_notMem {key : String}
    (other : key ∉ ["type", "nullable", "unique", "name"]) :
    (columnAttribute property type).argument? key = property.columnOptions.get? key := by
  have absent : (property.impliedOptions type).lookup key = none := by
    rw [List.lookup_eq_none_iff]
    intro entry member
    apply bne_iff_ne.mpr
    rintro rfl
    exact other (property.mem_keys_impliedOptions type (List.mem_map_of_mem member))
  rw [argument?_columnAttribute, absent, Option.or_none]

theorem keys_columnAttribute :
    (columnAttribute property type).arguments.keys =
      (property.impliedOptions type).map Prod.fst ++
        property.columnOptions.keys.filter (· ∉ (property.impliedOptions type).map Prod.fst) := by
  rw [← entries_derivedColumnArguments]
  exact (derivedColumnArguments property type).keys_overlay property.columnOptions

/-- The settings of a property add to its options alone. -/
theorem layersColumn_columnAttribute {settings? : Option Config.PropertySettings}
    {before after : Property} (adjusted : before.AdjustedBy settings? after) :
    before.LayersColumn settings? type (columnAttribute after type) := by
  have implied : after.impliedOptions type = before.impliedOptions type := by
    rw [adjusted.others]
    rfl
  constructor
  case name => rfl
  case argument =>
    intro key
    rw [argument?_columnAttribute, adjusted.columnOption, Option.or_assoc, implied]
  case keys =>
    rw [keys_columnAttribute, adjusted.columnOptionKeys, List.filter_append, List.filter_filter,
      ← List.append_assoc, implied]
    simp

end Persistence

/-! ## Adjusted classes -/

/-- A property that is no identifier after the adjustments is what its settings make of it. -/
theorem Class.AdjustedBy.adjustedBy_of_not_isId {config : Config} {before after : Class}
    (adjusted : before.AdjustedBy config after) {property found : Property}
    (member : property ∈ before.properties.toList)
    (lookup : after.property? property.name = some found) (notId : found.isId = false) :
    property.AdjustedBy (config.property? before.name property.name) found := by
  have different
      (admits : before.AdmitsIdentifier (config.identifierFor before.name) after.parent) :
      property.name ≠ (config.identifierFor before.name).name := by
    intro same
    have given := adjusted.identifier admits
    rw [← same, lookup] at given
    cases given
    cases notId
  obtain ⟨other, lookupOther, adjustedBy⟩ := adjusted.property property member different
  rw [lookup] at lookupOther
  cases lookupOther
  exact adjustedBy

namespace Registry

/-- After the adjustments a modeled property that is stored and no identifier has a column and
nothing else.  Of the arguments of the column the settings of the property decide first, then the
options of the model, then what follows from the property. -/
theorem layersColumn_adjusted (config : Config) (registry : Registry) {cls after : Class}
    (member : cls ∈ registry.toList) (memberAfter : after ∈ (registry.adjust config).value.toList)
    (named : after.name = cls.name) {property adjusted : Property}
    (modeled : property ∈ cls.properties.toList)
    (found : after.property? property.name = some adjusted) (notId : adjusted.isId = false)
    {type : ColumnType} (stored : adjusted.columnType? = some type) :
    ∃ column,
      Persistence.propertyAttributes config (registry.adjust config).value cls.name adjusted =
        pure [column] ∧
      property.LayersColumn (config.property? cls.name property.name) type column := by
  have same : after = cls.adjusted config := by
    have memberAdjusted : cls.adjusted config ∈ (registry.adjust config).value.toList := by
      rw [toList_adjust]
      exact List.mem_map_of_mem member
    exact Table.eq_of_key_eq _ memberAfter memberAdjusted
      (named.trans (cls.key_adjusted config).symm)
  subst same
  refine ⟨Persistence.columnAttribute adjusted type, ?_, ?_⟩
  · rw [Persistence.propertyAttributes, notId, stored]
    rfl
  · apply Persistence.layersColumn_columnAttribute
    exact (cls.adjustedBy_adjusted config).adjustedBy_of_not_isId modeled found notId

/-- An order with a reserved name: model and settings speak of its length, and each of them of an
argument that follows from the property. -/
theorem layersColumn_adjusted_order :
    let settings : Config.PropertySettings :=
      { columnOptions := .ofList
          [("check", .null), ("length", .number (.integer 9)), ("nullable", .bool false)] }
    let config : Config :=
      { classes := .ofList [("Book", { properties := .ofList [("order", settings)] })] }
    let order : Property :=
      { name := "order"
        range := some (.ofUri "https://schema.org/Integer")
        isUnique := true
        columnOptions := .ofList [("length", .number (.integer 5)), ("unique", .bool false)] }
    let book : Class := { name := "Book", properties := .ofList [order] }
    let registry : Registry := .ofList [book]
    let adjusted := order.configure settings
    book ∈ registry.toList ∧ book.adjusted config ∈ (registry.adjust config).value.toList ∧
      order ∈ book.properties.toList ∧
      (book.adjusted config).property? "order" = some adjusted ∧
      adjusted.columnType? = some .integer ∧
      ∃ column,
        Persistence.propertyAttributes config (registry.adjust config).value "Book" adjusted =
          pure [column] ∧
        column.name = "ORM\\Column" ∧
        column.arguments.keys = ["type", "nullable", "unique", "name", "length", "check"] ∧
        column.argument? "type" = some (.string "integer") ∧
        column.argument? "nullable" = some (.bool false) ∧
        column.argument? "unique" = some (.bool false) ∧
        column.argument? "name" = some (.string "`order`") ∧
        column.argument? "length" = some (.number (.integer 9)) := by
  intro settings config order book registry adjusted
  have member : book ∈ registry.toList := by decide +kernel
  have memberAfter : book.adjusted config ∈ (registry.adjust config).value.toList := by
    decide +kernel
  have modeled : order ∈ book.properties.toList := by decide +kernel
  have found : (book.adjusted config).property? "order" = some adjusted := by decide +kernel
  have stored : adjusted.columnType? = some .integer := by decide +kernel
  obtain ⟨column, emitted, layers⟩ :=
    layersColumn_adjusted config registry member memberAfter (book.key_adjusted config) modeled
      found rfl stored
  refine ⟨member, memberAfter, modeled, found, stored, column, emitted, layers.name, ?_⟩
  simp only [layers.argument, layers.keys]
  decide +kernel

end Registry

end EntityGen
