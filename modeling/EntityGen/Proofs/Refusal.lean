import EntityGen.Proofs.Annotation
import EntityGen.Proofs.Generation

/-!
# Refused configurations

An annotation ends in an error exactly when a configured annotator refuses a class
(`Annotator.Refuses`): because a literal mapping has an entry that is neither `null` nor a
mapping, or because a group of operations is unknown or holds something else than methods.
A relation without a target is no reason.

The error then ends the generation, which leaves the adjusted classes and the files as they
were (`Workspace.refused_iff`).
-/

namespace EntityGen

/-! ## Flaws of a configuration -/

/-- The value of an entry that gives arguments: a mapping, or `null` for none. -/
def Json.Value.GivesArguments : Json.Value → Prop
  | .null | .object _ => True
  | _ => False

/-- A literal mapping has an entry that gives no arguments. -/
def Arguments.Malformed (literals : Arguments) : Prop :=
  ∃ entry ∈ literals.entries, ¬entry.2.GivesArguments

/-- A literal mapping of the persistence has an entry that gives no arguments, on its own or
among its indexes. -/
def Persistence.OverrideMalformed (literals : Arguments) : Prop :=
  literals.Malformed ∨
    ∃ members, (indexesKey, .object members) ∈ literals.entries ∧
      Arguments.Malformed (.ofList members)

/-- A group of operations has another name than the two known ones, or a value that holds no
methods: neither a mapping nor `null` nor an empty sequence. -/
def Operations.WrongGroup (group : String × Json.Value) : Prop :=
  (group.1 ≠ "item" ∧ group.1 ≠ "collection") ∨
    (group.2 ≠ .null ∧ group.2 ≠ .array [] ∧ ∀ members, group.2 ≠ .object members)

namespace Annotator

/-- What makes an annotator refuse a class for its own attributes. -/
def RefusesClass (config : Config) (cls : Class) : Annotator → Prop
  | .persistence =>
    cls.isEnum = false ∧
      match (config.class? cls.name).bind Config.ClassSettings.persistenceAttributes with
      | some literals => Persistence.OverrideMalformed literals
      | none =>
        cls.isAbstract ∧ cls.isEmbeddable = false ∧
          ∃ literals, config.persistence.inheritanceAttributes = some literals ∧ literals.Malformed
  | .resource =>
    cls.isEnum = false ∧ cls.isEmbeddable = false ∧
      ∃ group ∈ cls.operations.entries, Operations.WrongGroup group
  | .constraint => False
  | .configuration =>
    ∃ settings, config.class? cls.name = some settings ∧ settings.attributes.Malformed

/-- What makes an annotator refuse a class for a property of it. -/
def RefusesProperty (config : Config) (className name : String) : Annotator → Prop
  | .configuration =>
    ∃ settings, config.property? className name = some settings ∧ settings.attributes.Malformed
  | .persistence | .resource | .constraint => False

/-- What makes an annotator refuse a class. -/
def Refuses (config : Config) (cls : Class) (annotator : Annotator) : Prop :=
  annotator.RefusesClass config cls ∨
    ∃ property ∈ cls.properties.toList, annotator.RefusesProperty config cls.name property.name

end Annotator

/-! ## Literal attributes -/

theorem refusedWhen_argumentsOf (place : Config.ArgumentsPlace) (value : Json.Value) :
    RefusedWhen (¬value.GivesArguments) (argumentsOf place value) := by
  cases value with
  | null => exact (RefusedWhen.ok _).congr (by simp [Json.Value.GivesArguments])
  | object members => exact (RefusedWhen.ok _).congr (by simp [Json.Value.GivesArguments])
  | _ => exact (RefusedWhen.error rfl).congr (by simp [Json.Value.GivesArguments])

/-- Arguments that a value gives are malformed when the value is a mapping of such. -/
theorem malformed_iff_of_argumentsOf {place : Config.ArgumentsPlace} {value : Json.Value}
    {arguments : Arguments} (given : argumentsOf place value = .ok arguments) :
    arguments.Malformed ↔
      ∃ members, value = .object members ∧ Arguments.Malformed (.ofList members) := by
  cases value with
  | null =>
      cases given
      simp [Arguments.Malformed]
  | object members =>
      cases given
      simp
  | _ => cases given

theorem refusedWhen_literalAttributes (qualify : String → String) (literals : Arguments) :
    RefusedWhen literals.Malformed (literalAttributes qualify literals) :=
  RefusedWhen.mapM fun entry _ => (refusedWhen_argumentsOf .declaration entry.2).map _

/-! ## Annotators -/

namespace Persistence

theorem refusedWhen_overrideEntry (entry : String × Json.Value) :
    RefusedWhen
      (¬entry.2.GivesArguments ∨
        ∃ members, entry = (indexesKey, .object members) ∧ Arguments.Malformed (.ofList members))
      (overrideEntry entry) := by
  rw [overrideEntry]
  split
  next indexes =>
    apply (refusedWhen_argumentsOf .indexes entry.2).bind
    intro arguments given
    have each : RefusedWhen arguments.Malformed (arguments.entries.mapM indexAttribute) :=
      RefusedWhen.mapM fun index _ => (refusedWhen_argumentsOf .index index.2).map _
    apply each.congr
    rw [malformed_iff_of_argumentsOf given]
    simp [Prod.ext_iff, indexes]
  next literal =>
    have plain := ((refusedWhen_argumentsOf .declaration entry.2).map
      (Attribute.mk (persistenceName entry.1))).map ([·])
    exact plain.congr (by simp [Prod.ext_iff, literal])

theorem refusedWhen_overrideAttributes (literals : Arguments) :
    RefusedWhen (OverrideMalformed literals) (overrideAttributes literals) := by
  have each := (RefusedWhen.mapM fun entry (_ : entry ∈ literals.entries) =>
    refusedWhen_overrideEntry entry).map List.flatten
  apply each.congr
  simp only [OverrideMalformed, Arguments.Malformed, and_or_left, exists_or]
  apply or_congr_right
  constructor
  · rintro ⟨_, member, members, rfl, malformed⟩
    exact ⟨members, member, malformed⟩
  · rintro ⟨members, member, malformed⟩
    exact ⟨_, member, members, rfl, malformed⟩

theorem refusedWhen_baseAttributes (config : Config) (cls : Class) :
    RefusedWhen
      (cls.isAbstract ∧ ∃ literals, config.persistence.inheritanceAttributes = some literals ∧
        literals.Malformed)
      (baseAttributes config cls) := by
  rw [baseAttributes]
  split
  next isAbstract =>
    cases inherited : config.persistence.inheritanceAttributes with
    | none => exact (RefusedWhen.ok _).congr (by simp)
    | some literals =>
        exact (refusedWhen_literalAttributes persistenceName literals).congr (by simp [isAbstract])
  next concrete => exact (RefusedWhen.ok _).congr (by simp [concrete])

theorem refusedWhen_classAttributes (config : Config) (cls : Class) :
    RefusedWhen (Annotator.RefusesClass config cls .persistence) (classAttributes config cls) := by
  rw [classAttributes]
  split
  next isEnum => exact (RefusedWhen.ok _).congr (by simp [Annotator.RefusesClass, isEnum])
  next ordinary =>
    cases found : (config.class? cls.name).bind Config.ClassSettings.persistenceAttributes with
    | some literals =>
        apply (refusedWhen_overrideAttributes literals).congr
        simp [Annotator.RefusesClass, ordinary, found]
    | none =>
        simp only
        split
        next embeddable =>
          exact (RefusedWhen.ok _).congr (by simp [Annotator.RefusesClass, found, embeddable])
        next separate =>
          apply ((refusedWhen_baseAttributes config cls).map (· ++ tableAttributes cls.name)).congr
          simp [Annotator.RefusesClass, ordinary, found, separate]

end Persistence

namespace Operations

/-- The value of a group gives methods when it is a mapping, `null` or an empty sequence. -/
theorem methods?_eq_none_iff (value : Json.Value) :
    methods? value = none ↔
      value ≠ .null ∧ value ≠ .array [] ∧ ∀ members, value ≠ .object members := by
  cases value with
  | array items => cases items <;> simp [methods?]
  | _ => simp [methods?]

theorem refusedWhen_addGroup (className : String) (operations : Operations)
    (group : String × Json.Value) :
    RefusedWhen (WrongGroup group) (addGroup className operations group) := by
  -- Whether the group is known is asked first, but an unknown one is refused in any case.
  have grouped {methods : Except GenerationError (List (String × Json.Value))}
      (given : RefusedWhen (methods? group.2 = none) methods)
      (item collection : List (String × Json.Value) → Operations) :
      RefusedWhen (WrongGroup group)
        (if group.1 = "item" then methods.map item
        else if group.1 = "collection" then methods.map collection
        else .error (.unknownOperationGroup className group.1)) := by
    rw [WrongGroup, ← methods?_eq_none_iff]
    split
    next named => exact (given.map item).congr (by simp [named])
    next other =>
      split
      next named => exact (given.map collection).congr (by simp [named])
      next unknown => exact (RefusedWhen.error rfl).congr (by simp [other, unknown])
  apply grouped
  cases methods? group.2 with
  | some methods => exact (RefusedWhen.ok methods).congr (by simp)
  | none => exact (RefusedWhen.error rfl).congr (by simp)

theorem refusedWhen_resolve (className : String) (groups : Arguments) :
    RefusedWhen (∃ group ∈ groups.entries, WrongGroup group) (resolve className groups) :=
  RefusedWhen.foldlM (refusedWhen_addGroup className) {} groups.entries

end Operations

namespace Resource

theorem refusedWhen_withOperations (cls : Class) (attr : Attribute) :
    RefusedWhen (∃ group ∈ cls.operations.entries, Operations.WrongGroup group)
      (withOperations cls attr) := by
  rw [withOperations]
  split
  next empty =>
    have none : cls.operations.entries = [] := List.isEmpty_iff.mp empty
    exact (RefusedWhen.ok attr).congr (by simp [none])
  next => exact (Operations.refusedWhen_resolve cls.name cls.operations).map _

theorem refusedWhen_classAttributes (config : Config) (cls : Class) :
    RefusedWhen (Annotator.RefusesClass config cls .resource) (classAttributes cls) := by
  rw [classAttributes]
  split
  next offered =>
    simp only [isResource, Bool.and_eq_true, Bool.not_eq_true'] at offered
    apply ((refusedWhen_withOperations cls _).map ([·])).congr
    simp [Annotator.RefusesClass, offered]
  next refused =>
    simp only [isResource, Bool.and_eq_true, Bool.not_eq_true'] at refused
    apply (RefusedWhen.ok _).congr
    simp only [Annotator.RefusesClass, ← and_assoc, refused, false_and]

end Resource

namespace Configured

theorem refusedWhen_classAttributes (config : Config) (cls : Class) :
    RefusedWhen (Annotator.RefusesClass config cls .configuration)
      (classAttributes config cls) := by
  rw [classAttributes, Annotator.RefusesClass]
  cases config.class? cls.name with
  | none => exact (RefusedWhen.ok _).congr (by simp)
  | some settings => exact (refusedWhen_literalAttributes id settings.attributes).congr (by simp)

theorem refusedWhen_propertyAttributes (config : Config) (className : String)
    (property : Property) :
    RefusedWhen (Annotator.RefusesProperty config className property.name .configuration)
      (propertyAttributes config className property) := by
  rw [propertyAttributes, Annotator.RefusesProperty]
  cases config.property? className property.name with
  | none => exact (RefusedWhen.ok _).congr (by simp)
  | some settings => exact (refusedWhen_literalAttributes id settings.attributes).congr (by simp)

end Configured

namespace Annotator

theorem refusedWhen_ofClass (config : Config) (cls : Class) (annotator : Annotator) :
    RefusedWhen (annotator.RefusesClass config cls) (annotator.ofClass config cls) := by
  cases annotator with
  | persistence => exact Persistence.refusedWhen_classAttributes config cls
  | resource => exact Resource.refusedWhen_classAttributes config cls
  | constraint => exact RefusedWhen.ok (Constraint.classAttributes cls)
  | configuration => exact Configured.refusedWhen_classAttributes config cls

/-- A relation without a target is reported and is no reason to refuse the class. -/
theorem refusedWhen_ofProperty (config : Config) (registry : Registry) (className : String)
    (property : Property) (annotator : Annotator) :
    RefusedWhen (annotator.RefusesProperty config className property.name)
      (annotator.ofProperty config registry className property).outcome := by
  cases annotator with
  | configuration => exact Configured.refusedWhen_propertyAttributes config className property
  | _ => exact RefusedWhen.ok _

end Annotator

/-! ## All classes -/

theorem Contribution.refusedWhen_ofAnnotator (config : Config) (registry : Registry) (cls : Class)
    (annotator : Annotator) :
    RefusedWhen (annotator.Refuses config cls)
      (ofAnnotator config registry cls annotator).outcome := by
  simp only [ofAnnotator, Fallible.outcome_bind, Fallible.outcome_lift, Fallible.outcome_ofExcept,
    Fallible.outcome_mapM, Fallible.outcome_pure]
  have properties := RefusedWhen.mapM fun property (_ : property ∈ cls.properties.toList) =>
    (annotator.refusedWhen_ofProperty config registry cls.name property).bind fun attributes _ =>
      RefusedWhen.ok (property.name, Attribute.distinct attributes)
  have described := (annotator.refusedWhen_ofClass config cls).bind fun attributes _ =>
    properties.bind fun properties _ =>
      RefusedWhen.ok (Contribution.mk (Attribute.distinct attributes) properties
        (annotator.imports config cls))
  exact described.congr (by simp [Annotator.Refuses])

theorem Metadata.refusedWhen_ofClass (config : Config) (registry : Registry) (cls : Class) :
    RefusedWhen (∃ annotator ∈ config.annotators, annotator.Refuses config cls)
      (ofClass config registry cls).outcome := by
  simp only [ofClass, Fallible.outcome_bind, Fallible.outcome_mapM, Fallible.outcome_pure]
  have contributions := RefusedWhen.mapM fun annotator (_ : annotator ∈ config.annotators) =>
    Contribution.refusedWhen_ofAnnotator config registry cls annotator
  have described := contributions.bind fun contributions _ =>
    RefusedWhen.ok (Metadata.mk contributions)
  exact described.congr (by simp)

namespace Registry

theorem refusedWhen_metadata (config : Config) (registry : Registry) :
    RefusedWhen
      (∃ cls ∈ registry.toList, ∃ annotator ∈ config.annotators, annotator.Refuses config cls)
      (registry.metadata config).outcome := by
  simp only [metadata, Fallible.outcome_bind, Fallible.outcome_lift, Fallible.outcome_mapM,
    Fallible.outcome_pure]
  have each := RefusedWhen.mapM fun cls (_ : cls ∈ registry.toList) =>
    (Metadata.refusedWhen_ofClass config registry cls).bind fun described _ =>
      RefusedWhen.ok (cls.name, described)
  exact each.congr (by simp)

theorem refusedWhen_annotate (config : Config) (registry : Registry) :
    RefusedWhen
      (∃ cls ∈ registry.toList, ∃ annotator ∈ config.annotators, annotator.Refuses config cls)
      (registry.annotate config).value.2 := by
  rw [result_annotate]
  exact (refusedWhen_metadata config registry).map _

end Registry

namespace Workspace

/-- A generation ends in the error of the annotation, which leaves the adjusted classes and
the files as they are; and in no other. -/
theorem generate_eq_error_iff (config : Config) (workspace left : Workspace)
    (error : GenerationError) :
    (workspace.generate config).value = (left, .error error) ↔
      ((workspace.registry.adjust config).value.annotate config).value.2 = .error error ∧
        left = { workspace with registry := (workspace.registry.adjust config).value } := by
  rw [value_generate]
  rcases annotated : ((workspace.registry.adjust config).value.annotate config).value with
    ⟨registry, other | declarations⟩
  · obtain ⟨rfl, _⟩ := Registry.annotate_eq_error_iff.mp annotated
    simp [and_comm, eq_comm]
  · simp

/-- An annotation ends in an error exactly when a configured annotator refuses a class; the
error is none that concerns one property only, and the annotation has then attached nothing.  A
generation ends in the error of the annotation of the adjusted classes, and then it has touched
no file and attached nothing: the classes are as the annotation found them. -/
theorem refused_iff (config : Config) (registry : Registry) :
    ((∃ error, (registry.annotate config).value.2 = .error error) ↔
      ∃ cls ∈ registry.toList, ∃ annotator ∈ config.annotators, annotator.Refuses config cls) ∧
    (∀ left error, (registry.annotate config).value = (left, .error error) →
      left = registry ∧ error.isRecoverable = false) ∧
    ∀ (workspace left : Workspace) (error : GenerationError),
      (workspace.generate config).value = (left, .error error) ↔
        left.files = workspace.files ∧
          left.registry = (workspace.registry.adjust config).value ∧
          (left.registry.annotate config).value = (left.registry, .error error) := by
  have refused := Registry.refusedWhen_annotate config registry
  refine ⟨refused.iff, ?_, ?_⟩
  · intro left error annotated
    obtain ⟨unchanged, failed⟩ := Registry.annotate_eq_error_iff.mp annotated
    exact ⟨unchanged, refused.final error failed⟩
  intro workspace left error
  rw [generate_eq_error_iff]
  constructor
  · rintro ⟨failed, rfl⟩
    exact ⟨rfl, rfl, Registry.annotate_eq_error_iff.mpr ⟨rfl, failed⟩⟩
  · obtain ⟨registry, files⟩ := left
    rintro ⟨rfl, rfl, annotated⟩
    exact ⟨(Registry.annotate_eq_error_iff.mp annotated).2, rfl⟩

/-- The index of a book has a number in place of arguments. -/
theorem refused_iff_index :
    let literals : Arguments :=
      .ofList [(Persistence.indexesKey, .object [("title", .number (.integer 5))])]
    let config : Config :=
      { identifier := { generate := false }
        classes := .ofList [("Book", { persistenceAttributes := some literals })] }
    let author : Property := { name := "author", range := some (.ofUri "Person") }
    let book : Class := { name := "Book", properties := .ofList [author] }
    let workspace : Workspace :=
      { registry := .ofList [book], files := .ofList [("Book", { header := some "Books" })] }
    Annotator.persistence.Refuses config book ∧
      ∃ error, (workspace.generate config).value = (workspace, .error error) ∧
        (workspace.registry.annotate config).value = (workspace.registry, .error error) ∧
        error.isRecoverable = false := by
  intro literals config author book workspace
  have override : (config.class? book.name).bind Config.ClassSettings.persistenceAttributes =
      some literals := by
    decide +kernel
  have refuses : Annotator.persistence.Refuses config book := by
    left
    simp only [Annotator.RefusesClass, override]
    exact ⟨rfl, .inr ⟨[("title", .number (.integer 5))], by decide +kernel,
      ("title", .number (.integer 5)), by decide +kernel, id⟩⟩
  have adjusted : (workspace.registry.adjust config).value = workspace.registry := by
    decide +kernel
  obtain ⟨fails, final, ends⟩ := refused_iff config workspace.registry
  obtain ⟨error, failed⟩ :=
    fails.mpr ⟨book, by decide +kernel, .persistence, by decide, refuses⟩
  have annotated : (workspace.registry.annotate config).value =
      (workspace.registry, .error error) :=
    Registry.annotate_eq_error_iff.mpr ⟨rfl, failed⟩
  have ended : (workspace.generate config).value = (workspace, .error error) :=
    (ends workspace workspace error).mpr ⟨rfl, adjusted.symm, annotated⟩
  exact ⟨refuses, error, ended, annotated, (final _ error annotated).2⟩

end Workspace

end EntityGen
