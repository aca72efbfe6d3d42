import EntityGen.Metadata
import EntityGen.Merge.Accessor
import EntityGen.Proofs.Storing
import Mathlib.Data.List.TakeWhile

/-!
# Spellings of ranges

A range of schema.org can be written as a bare name or under either address of the vocabulary,
and the datatypes have names of their own in XML Schema.  What is inferred from a property does
not depend on the spelling (`Property.inference_of_spelling`).

The consumers of a range ask two questions: under which name it goes, and which datatype it stands
for.  Spellings of one name have the same answers (`Range.name_ofUri`, `Range.datatype?_ofUri`);
and most consumers ask for the name only when there is no datatype, so that ranges of one datatype
are alike to them (`Property.storedAlike`).  The constraints are an exception, for they tell a web
address from other texts by the name.
-/

namespace EntityGen

/-! ## Cutting texts -/

namespace Text

variable {start text rest : String}

theorem dropPrefix?_append (start rest : String) :
    dropPrefix? start (start ++ rest) = some rest := by
  have found : start.toList.isPrefixOf? (start ++ rest).toList = some rest.toList :=
    List.isPrefixOf?_eq_some_iff_append_eq.mpr String.toList_append.symm
  rw [dropPrefix?, found, Option.map_some, String.ofList_toList]

theorem dropPrefix?_eq_none (differs : ¬start.toList <+: text.toList) :
    dropPrefix? start text = none := by
  rw [dropPrefix?, Option.map_eq_none_iff, Option.eq_none_iff_forall_ne_some]
  intro rest found
  exact differs ⟨rest, List.isPrefixOf?_eq_some_iff_append_eq.mp found⟩

theorem dropPrefix?_of_notMem {c : Char} (there : c ∈ start.toList) (absent : c ∉ text.toList) :
    dropPrefix? start text = none :=
  dropPrefix?_eq_none fun starts => absent (starts.subset there)

/-- Of two beginnings that go apart, a text has one at most. -/
theorem dropPrefix?_append_of_apart {other : String} (apart : ¬start.toList <+: other.toList)
    (apartOther : ¬other.toList <+: start.toList) (rest : String) :
    dropPrefix? start (other ++ rest) = none := by
  apply dropPrefix?_eq_none
  intro starts
  have startsOther : other.toList <+: (other ++ rest).toList :=
    ⟨rest.toList, String.toList_append.symm⟩
  exact (List.prefix_or_prefix_of_prefix starts startsOther).elim apart apartOther

/-- The part after the last separator, when it is known where that stands. -/
theorem afterLast_append {kind : Char → Bool} {separator : Char}
    (last : start.toList.getLast? = some separator) (separates : kind separator)
    (clear : ∀ c ∈ rest.toList, kind c = false) : afterLast kind (start ++ rest) = rest := by
  obtain ⟨before, split⟩ := List.getLast?_eq_some_iff.mp last
  have reversed : (start ++ rest).toList.reverse =
      rest.toList.reverse ++ separator :: before.reverse := by
    rw [String.toList_append, split, List.reverse_append, List.reverse_append]
    rfl
  rw [afterLast, reversed, List.takeWhile_append_of_pos, List.takeWhile_cons_of_neg,
    List.append_nil, List.reverse_reverse, String.ofList_toList]
  · simp [separates]
  · intro c member
    simp [clear c (List.mem_reverse.mp member)]

theorem afterLast_eq_self {kind : Char → Bool} (clear : ∀ c ∈ text.toList, kind c = false) :
    afterLast kind text = text := by
  have whole : text.toList.reverse.takeWhile (!kind ·) = text.toList.reverse := by
    rw [List.takeWhile_eq_self_iff]
    intro c member
    simp [clear c (List.mem_reverse.mp member)]
  rw [afterLast, whole, List.reverse_reverse, String.ofList_toList]

end Text

/-! ## Names and datatypes of ranges -/

namespace Range

/-- The characters that do not stand in a bare name. -/
def separators : List Char := ['/', '#', ':']

/-- The ways to write a name of schema.org: by itself, or under one of the addresses. -/
def spellings (name : String) : List String :=
  [name, Datatype.plainSchemaNamespace ++ name, Datatype.schemaNamespace ++ name]

theorem forall_mem_spellings {name : String} {p : String → Prop} :
    (∀ uri ∈ spellings name, p uri) ↔
      p name ∧ p (Datatype.plainSchemaNamespace ++ name) ∧
        p (Datatype.schemaNamespace ++ name) := by
  simp [spellings]

variable {name : String} (bare : ∀ c ∈ separators, c ∉ name.toList)
include bare

theorem isBareName_of_notMem : Datatype.isBareName name := by
  have absent {c : Char} (separator : c ∈ separators) : Text.hasChar c name = false := by
    rw [Text.hasChar, List.contains_eq_mem, decide_eq_false_iff_not]
    exact bare c separator
  rw [Datatype.isBareName, absent (by decide), absent (by decide), absent (by decide)]
  rfl

theorem localName_of_spelled : ∀ uri ∈ spellings name, localName uri = name := by
  have clear (c : Char) (member : c ∈ name.toList) :
      (decide (c = '#') || decide (c = '/')) = false := by
    rw [Bool.or_eq_false_iff, decide_eq_false_iff_not, decide_eq_false_iff_not]
    constructor
    · rintro rfl
      exact bare '#' (by decide) member
    · rintro rfl
      exact bare '/' (by decide) member
  exact forall_mem_spellings.mpr
    ⟨Text.afterLast_eq_self clear, Text.afterLast_append rfl rfl clear,
      Text.afterLast_append rfl rfl clear⟩

theorem schemaName?_of_spelled : ∀ uri ∈ spellings name, Datatype.schemaName? uri = some name := by
  have absent : ':' ∉ name.toList := bare ':' (by decide)
  refine forall_mem_spellings.mpr ⟨?_, ?_, ?_⟩
  · rw [Datatype.schemaName?, Text.dropPrefix?_of_notMem (by decide) absent,
      Text.dropPrefix?_of_notMem (by decide) absent, if_pos (isBareName_of_notMem bare)]
    rfl
  · rw [Datatype.schemaName?, Text.dropPrefix?_append_of_apart (by decide) (by decide),
      Text.dropPrefix?_append]
    rfl
  · rw [Datatype.schemaName?, Text.dropPrefix?_append]
    rfl

theorem dropPrefix?_xmlNamespace :
    ∀ uri ∈ spellings name, Text.dropPrefix? Datatype.xmlNamespace uri = none :=
  forall_mem_spellings.mpr
    ⟨Text.dropPrefix?_of_notMem (by decide) (bare ':' (by decide)),
      Text.dropPrefix?_append_of_apart (by decide) (by decide) name,
      Text.dropPrefix?_append_of_apart (by decide) (by decide) name⟩

variable {uri : String} (spelled : uri ∈ spellings name)
include spelled

/-- Under every spelling a range goes by its bare name. -/
theorem name_ofUri : (ofUri uri).name = name := localName_of_spelled bare uri spelled

/-- Under every spelling a range stands for the datatype of its bare name. -/
theorem datatype?_ofUri : (ofUri uri).datatype? = Datatype.schemaNames.lookup name := by
  rw [datatype?, ofUri, Datatype.ofUri?, dropPrefix?_xmlNamespace bare uri spelled,
    schemaName?_of_spelled bare uri spelled]
  rfl

end Range

/-! ## Consumers of ranges -/

namespace Property

/-- The property with a range in place of the one it has. -/
def withRange (property : Property) (range : Range) : Property :=
  { property with range := some range }

/-- Two properties are stored and accessed alike: by the columns, the persistence mapping of their
class, their fields and their accessors they cannot be told apart. -/
structure StoredAlike (config : Config) (registry : Registry) (cls : Class)
    (first second : Property) : Prop where
  columnType? : first.columnType? = second.columnType?
  isRelation : first.isRelation = second.isRelation
  isCollection : first.isCollection = second.isCollection
  mapping : Annotator.persistence.ofProperty config registry cls.name first =
    Annotator.persistence.ofProperty config registry cls.name second
  classMapping : Contribution.ofAnnotator config registry (cls.addProperty first) .persistence =
    Contribution.ofAnnotator config registry (cls.addProperty second) .persistence
  field : first.field config cls.name = second.field config cls.name
  accessors : first.accessors config cls.name = second.accessors config cls.name

/-- All that is inferred from two properties is the same: they are stored and accessed alike, point
to the same class, and every annotator makes the same of them and of their class. -/
structure InfersAlike (config : Config) (registry : Registry) (cls : Class)
    (first second : Property) : Prop extends StoredAlike config registry cls first second where
  target? : first.target? cls.name registry = second.target? cls.name registry
  ofProperty : ∀ annotator : Annotator,
    annotator.ofProperty config registry cls.name first =
      annotator.ofProperty config registry cls.name second
  ofAnnotator : ∀ annotator,
    Contribution.ofAnnotator config registry (cls.addProperty first) annotator =
      Contribution.ofAnnotator config registry (cls.addProperty second) annotator

end Property

/-- Two ranges stand for the same datatype, or else go by the same name. -/
structure Range.MeansSame (first second : Range) : Prop where
  datatype? : first.datatype? = second.datatype?
  name : first.datatype? = none → first.name = second.name

namespace Property

variable {first second : Range} (property : Property)

theorem name_withRange (first second : Range) :
    (property.withRange first).name = (property.withRange second).name := rfl

theorem columnType?_withRange (same : first.MeansSame second) :
    (property.withRange first).columnType? = (property.withRange second).columnType? := by
  have datatypes : (property.withRange first).datatype? = (property.withRange second).datatype? :=
    same.datatype?
  rw [columnType?, columnType?, datatypes]
  rfl

theorem isRelation_withRange (same : first.MeansSame second) :
    (property.withRange first).isRelation = (property.withRange second).isRelation := by
  rw [isRelation, isRelation, property.columnType?_withRange same]
  rfl

theorem isCollection_withRange (same : first.MeansSame second) :
    (property.withRange first).isCollection = (property.withRange second).isCollection := by
  funext useCollection
  rw [isCollection, isCollection, property.isRelation_withRange same]
  rfl

theorem itemType?_withRange (same : first.MeansSame second) :
    (property.withRange first).itemType? = (property.withRange second).itemType? := by
  rw [itemType?, itemType?]
  simp only [withRange, Option.map_some, ← same.datatype?]
  cases found : first.datatype? with
  | some datatype => rfl
  | none =>
      rw [same.name found]
      rfl

theorem fieldType?_withRange (same : first.MeansSame second) (config : Config)
    (className : String) :
    (property.withRange first).fieldType? config className =
      (property.withRange second).fieldType? config className := by
  rw [fieldType?, fieldType?, property.isCollection_withRange same,
    property.itemType?_withRange same]
  rfl

theorem field_withRange (same : first.MeansSame second) (config : Config) (className : String) :
    (property.withRange first).field config className =
      (property.withRange second).field config className := by
  rw [field, field, property.fieldType?_withRange same, defaultValue?, defaultValue?,
    property.isCollection_withRange same]
  rfl

theorem mutators_withRange (same : first.MeansSame second) (config : Config)
    (className : String) :
    (property.withRange first).mutators config className =
      (property.withRange second).mutators config className := by
  have parameters :
      (property.withRange first).itemParameter = (property.withRange second).itemParameter := by
    rw [itemParameter, itemParameter, property.itemType?_withRange same]
    rfl
  rw [mutators, mutators, setter, setter, adder, adder, remover, remover, removal, removal,
    property.fieldType?_withRange same, parameters, property.isCollection_withRange same]
  rfl

theorem accessors_withRange (same : first.MeansSame second) (config : Config)
    (className : String) :
    (property.withRange first).accessors config className =
      (property.withRange second).accessors config className := by
  rw [accessors, accessors, getter, getter, property.fieldType?_withRange same,
    property.mutators_withRange same]
  rfl

/-- The name is asked for when the property is no column, and then the range stands for no
datatype. -/
theorem rangeName?_withRange (same : first.MeansSame second)
    (relates : (property.withRange first).columnType? = none) :
    (property.withRange first).rangeName? = (property.withRange second).rangeName? := by
  have noDatatype : first.datatype? = none := by
    rw [columnType?] at relates
    split at relates
    · cases relates
    · exact Option.map_eq_none_iff.mp relates
  exact congrArg some (same.name noDatatype)

theorem target?_withRange
    (named : (property.withRange first).rangeName? = (property.withRange second).rangeName?)
    (className : String) (registry : Registry) :
    (property.withRange first).target? className registry =
      (property.withRange second).target? className registry := by
  rw [target?, target?, named]
  rfl

end Property

namespace Persistence

variable {first second : Range} (property : Property)

theorem propertyAttributes_withRange (same : first.MeansSame second) (config : Config)
    (registry : Registry) (className : String) :
    propertyAttributes config registry className (property.withRange first) =
      propertyAttributes config registry className (property.withRange second) := by
  rw [propertyAttributes, propertyAttributes, ← property.columnType?_withRange same]
  cases stored : (property.withRange first).columnType? with
  | some type => rfl
  | none =>
      have named := property.rangeName?_withRange same stored
      rw [property.target?_withRange named, named]
      rfl

end Persistence

/-! ## Classes with one property changed -/

/-- Two entries of one key are stored at one place. -/
theorem Table.exists_around {α κ : Type} [Keyed α κ] [Ord κ] [Std.TransOrd κ]
    [Std.LawfulEqOrd κ] {a b : α} (same : Keyed.key a = Keyed.key b) (t : Table α) :
    ∃ before after, (t.insert a).toList = before ++ a :: after ∧
      (t.insert b).toList = before ++ b :: after := by
  rw [toList_insert, toList_insert]
  induction t.toList with
  | nil => exact ⟨[], [], rfl, rfl⟩
  | cons c rest ih =>
      rw [place, place, ← same]
      split
      next => exact ⟨[], c :: rest, rfl, rfl⟩
      next => exact ⟨[], rest, rfl, rfl⟩
      next =>
        obtain ⟨before, after, first, second⟩ := ih
        exact ⟨c :: before, after, congrArg (c :: ·) first, congrArg (c :: ·) second⟩

namespace Contribution

variable {config : Config} {registry : Registry} {cls : Class} {first second : Property}
  {annotator : Annotator}

/-- An annotator that makes the same of two properties makes the same of a class that has the one
or the other. -/
theorem ofAnnotator_addProperty (named : first.name = second.name)
    (ofProperty : annotator.ofProperty config registry cls.name first =
      annotator.ofProperty config registry cls.name second)
    (ofClass : annotator.ofClass config (cls.addProperty first) =
      annotator.ofClass config (cls.addProperty second))
    (imports : annotator.imports config (cls.addProperty first) =
      annotator.imports config (cls.addProperty second)) :
    ofAnnotator config registry (cls.addProperty first) annotator =
      ofAnnotator config registry (cls.addProperty second) annotator := by
  have properties : ((cls.addProperty first).properties.toList.mapM fun property => do
        let attributes ← annotator.ofProperty config registry (cls.addProperty first).name property
        return (property.name, Attribute.distinct attributes)) =
      (cls.addProperty second).properties.toList.mapM fun property => do
        let attributes ← annotator.ofProperty config registry (cls.addProperty second).name property
        return (property.name, Attribute.distinct attributes) := by
    obtain ⟨before, after, splitFirst, splitSecond⟩ := Table.exists_around named cls.properties
    simp only [Class.addProperty, splitFirst, splitSecond, List.mapM_append, List.mapM_cons,
      ofProperty, named]
  rw [ofAnnotator, ofAnnotator, ofClass, imports, properties]
  rfl

end Contribution

namespace Class

variable (cls : Class) {first second : Property}

theorem any_addProperty (named : first.name = second.name) (kept : Property → Bool)
    (same : kept first = kept second) :
    (cls.addProperty first).properties.toList.any kept =
      (cls.addProperty second).properties.toList.any kept := by
  obtain ⟨before, after, splitFirst, splitSecond⟩ := Table.exists_around named cls.properties
  simp only [addProperty, splitFirst, splitSecond, List.any_append, List.any_cons, same]

theorem filterMap_addProperty {β : Type} {kept : Property → Bool} {f : Property → Option β}
    (named : first.name = second.name) (same : kept first = kept second)
    (sameValue : f first = f second) :
    ((cls.addProperty first).properties.toList.filter kept).filterMap f =
      ((cls.addProperty second).properties.toList.filter kept).filterMap f := by
  obtain ⟨before, after, splitFirst, splitSecond⟩ := Table.exists_around named cls.properties
  simp only [addProperty, splitFirst, splitSecond, List.filter_append, List.filter_cons, same,
    List.filterMap_append]
  split
  next => rw [List.filterMap_cons, List.filterMap_cons, sameValue]
  next => rfl

end Class

namespace Persistence

theorem imports_withRange {first second : Range} (same : first.MeansSame second)
    (property : Property) (config : Config) (cls : Class) :
    imports config (cls.addProperty (property.withRange first)) =
      imports config (cls.addProperty (property.withRange second)) := by
  have collections := congrFun (property.isCollection_withRange same)
    config.persistence.useCollection
  rw [imports, imports,
    cls.any_addProperty (property.name_withRange first second)
      (·.isCollection config.persistence.useCollection) collections]
  rfl

end Persistence

namespace Constraint

variable {first second : Range} (config : Config) (cls : Class) (property : Property)

/-- Of a range the constraints ask for the name and for the datatype. -/
theorem propertyAttributes_withRange (datatypes : first.datatype? = second.datatype?)
    (named : first.name = second.name) :
    propertyAttributes (property.withRange first) =
      propertyAttributes (property.withRange second) := by
  have sameDatatype :
      (property.withRange first).datatype? = (property.withRange second).datatype? := datatypes
  have sameName : (property.withRange first).rangeName? = (property.withRange second).rangeName? :=
    congrArg some named
  rw [propertyAttributes, propertyAttributes, textForm, textForm, enumChoice, enumChoice,
    sameDatatype, sameName]
  rfl

theorem uniqueNames_withRange (first second : Range) :
    (uniqueProperties (cls.addProperty (property.withRange first))).map Property.name =
      (uniqueProperties (cls.addProperty (property.withRange second))).map Property.name := by
  rw [← List.filterMap_eq_map]
  exact cls.filterMap_addProperty rfl rfl rfl

theorem classAttributes_withRange (first second : Range) :
    classAttributes (cls.addProperty (property.withRange first)) =
      classAttributes (cls.addProperty (property.withRange second)) := by
  let unique (name : String) : Attribute :=
    Attribute.withArgument ⟨"UniqueEntity", ∅⟩ "fields" (.array [.string name])
  have attributes := congrArg (List.map unique) (uniqueNames_withRange cls property first second)
  rw [List.map_map, List.map_map] at attributes
  exact congrArg (fun attributes => if cls.isEnum then [] else attributes) attributes

theorem imports_withRange (datatypes : first.datatype? = second.datatype?)
    (named : first.name = second.name) :
    imports config (cls.addProperty (property.withRange first)) =
      imports config (cls.addProperty (property.withRange second)) := by
  have same := propertyAttributes_withRange property datatypes named
  have constrained := cls.any_addProperty (property.name_withRange first second)
    (fun property => !(propertyAttributes property).isEmpty)
    (congrArg (fun attributes => !attributes.isEmpty) same)
  have unique := congrArg List.isEmpty (uniqueNames_withRange cls property first second)
  rw [List.isEmpty_map, List.isEmpty_map] at unique
  have enums : enumImports config (cls.addProperty (property.withRange first)) =
      enumImports config (cls.addProperty (property.withRange second)) := by
    refine cls.filterMap_addProperty rfl rfl ?_
    exact congrArg
      (fun name => some (⟨config.namespaces.enumeration ++ "\\" ++ name, none⟩ : Import)) named
  rw [imports, imports, unique, enums, constrained]
  rfl

end Constraint

namespace Resource

theorem imports_withRange (cls : Class) (property : Property) (first second : Range) :
    imports (cls.addProperty (property.withRange first)) =
      imports (cls.addProperty (property.withRange second)) := by
  rw [imports, imports,
    cls.any_addProperty (property.name_withRange first second)
      (fun property => !(propertyAttributes property).isEmpty) rfl]
  rfl

end Resource

namespace Property

variable {first second : Range} (config : Config) (registry : Registry) (cls : Class)
  (property : Property)

/-- Ranges that mean the same are alike to all but the constraints. -/
theorem storedAlike (same : first.MeansSame second) :
    StoredAlike config registry cls (property.withRange first) (property.withRange second) := by
  have mapping : Annotator.persistence.ofProperty config registry cls.name
        (property.withRange first) =
      Annotator.persistence.ofProperty config registry cls.name (property.withRange second) :=
    congrArg ExceptT.lift
      (Persistence.propertyAttributes_withRange property same config registry cls.name)
  exact
    { columnType? := property.columnType?_withRange same
      isRelation := property.isRelation_withRange same
      isCollection := property.isCollection_withRange same
      mapping := mapping
      classMapping :=
        Contribution.ofAnnotator_addProperty rfl mapping rfl
          (Persistence.imports_withRange same property config cls)
      field := property.field_withRange same config cls.name
      accessors := property.accessors_withRange same config cls.name }

/-- Ranges of one datatype that go by one name are alike to every consumer. -/
theorem infersAlike (datatypes : first.datatype? = second.datatype?)
    (named : first.name = second.name) :
    InfersAlike config registry cls (property.withRange first) (property.withRange second) := by
  have stored := property.storedAlike config registry cls ⟨datatypes, fun _ => named⟩
  have ofProperty (annotator : Annotator) :
      annotator.ofProperty config registry cls.name (property.withRange first) =
        annotator.ofProperty config registry cls.name (property.withRange second) := by
    cases annotator with
    | persistence => exact stored.mapping
    | constraint =>
        exact congrArg pure (Constraint.propertyAttributes_withRange property datatypes named)
    | resource | configuration => rfl
  have ofAnnotator (annotator : Annotator) :
      Contribution.ofAnnotator config registry (cls.addProperty (property.withRange first))
          annotator =
        Contribution.ofAnnotator config registry (cls.addProperty (property.withRange second))
          annotator := by
    cases annotator with
    | persistence => exact stored.classMapping
    | constraint =>
        exact Contribution.ofAnnotator_addProperty rfl (ofProperty .constraint)
          (congrArg Except.ok (Constraint.classAttributes_withRange cls property first second))
          (Constraint.imports_withRange config cls property datatypes named)
    | resource =>
        exact Contribution.ofAnnotator_addProperty rfl rfl rfl
          (Resource.imports_withRange cls property first second)
    | configuration => exact Contribution.ofAnnotator_addProperty rfl rfl rfl rfl
  exact
    { stored with
      target? := property.target?_withRange (congrArg some named) cls.name registry
      ofProperty := ofProperty
      ofAnnotator := ofAnnotator }

/-- Inference does not depend on how a range is spelled.  Under all spellings of a name of
schema.org the same is inferred from a property, for every configuration, registry and class; and
ranges of one datatype, of whichever vocabulary and under whatever name, are stored and accessed
alike. -/
theorem inference_of_spelling :
    (∀ name : String, (∀ c ∈ Range.separators, c ∉ name.toList) →
      ∀ first ∈ Range.spellings name, ∀ second ∈ Range.spellings name,
        InfersAlike config registry cls (property.withRange (.ofUri first))
          (property.withRange (.ofUri second))) ∧
    ∀ (first second : Range) (datatype : Datatype),
      first.datatype? = some datatype → second.datatype? = some datatype →
        StoredAlike config registry cls (property.withRange first) (property.withRange second) := by
  constructor
  · intro name bare first spelledFirst second spelledSecond
    apply property.infersAlike config registry cls
    · rw [Range.datatype?_ofUri bare spelledFirst, Range.datatype?_ofUri bare spelledSecond]
    · rw [Range.name_ofUri bare spelledFirst, Range.name_ofUri bare spelledSecond]
  · intro first second datatype isFirst isSecond
    refine property.storedAlike config registry cls ⟨isFirst.trans isSecond.symm, fun none => ?_⟩
    rw [isFirst] at none
    cases none

/-- A date of birth is a date under either address of schema.org, and in XML Schema as well. -/
theorem inference_of_spelling_birthDate :
    let person : Class := { name := "Person" }
    let birthDate (uri : String) : Property :=
      { name := "birthDate", range := some (.ofUri uri) }
    (birthDate "Date").columnType? = some .date ∧
      InfersAlike {} ∅ person (birthDate "http://schema.org/Date")
        (birthDate "https://schema.org/Date") ∧
      StoredAlike {} ∅ person (birthDate "Date")
        (birthDate "http://www.w3.org/2001/XMLSchema#date") := by
  intro person birthDate
  obtain ⟨spelled, ofDatatype⟩ := inference_of_spelling {} ∅ person { name := "birthDate" }
  exact ⟨by decide +kernel,
    spelled "Date" (by simp [Range.separators]) _ (by decide +kernel) _ (by decide +kernel),
    ofDatatype _ _ .date (by decide +kernel) (by decide +kernel)⟩

/-- To the constraints the name matters: of two texts only the one is a web address. -/
example :
    Constraint.propertyAttributes { name := "link", range := some (.ofUri "URL") } =
        [Constraint.assertion "Url"] ∧
      Constraint.propertyAttributes { name := "link", range := some (.ofUri "Text") } = [] := by
  decide +kernel

end Property

end EntityGen
