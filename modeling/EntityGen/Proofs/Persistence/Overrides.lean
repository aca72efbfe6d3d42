import EntityGen.Proofs.Refusal
import EntityGen.Proofs.Storing

/-!
# Literal mappings

A class whose mapping is given literally has the attributes of its entries, in their order.  An
entry stands for one attribute (`Persistence.Declares.single`), but the entry for the indexes
stands for one attribute for each of its members, at its own place
(`Persistence.Declares.indexes`).  Where all entries give arguments nothing else about the class
matters (`Persistence.classAttributes_of_override`).
-/

namespace EntityGen

/-! ## Given arguments -/

/-- The arguments that a mapping gives; `null` gives none. -/
def Json.Value.givenArguments : Json.Value → Arguments
  | .object members => .ofList members
  | _ => ∅

instance Json.Value.instDecidablePredGivesArguments : DecidablePred Json.Value.GivesArguments
  | .null | .object _ => .isTrue trivial
  | .bool _ | .number _ | .string _ | .array _ => .isFalse id

theorem argumentsOf_of_givesArguments (place : Config.ArgumentsPlace) {value : Json.Value}
    (gives : value.GivesArguments) : argumentsOf place value = .ok value.givenArguments := by
  cases value with
  | null => rfl
  | object members => rfl
  | _ => cases gives

/-- An entry that gives arguments stands for an attribute, whose name is completed unless it
has a backslash. -/
theorem literalAttribute_of_givesArguments {entry : String × Json.Value}
    (gives : entry.2.GivesArguments) :
    literalAttribute persistenceName entry =
      .ok ⟨if '\\' ∈ entry.1.toList then entry.1 else "ORM\\" ++ entry.1,
        entry.2.givenArguments⟩ := by
  rw [literalAttribute, argumentsOf_of_givesArguments .declaration gives]
  simp [persistenceName, Text.hasChar, Except.map]

theorem Arguments.not_malformed_iff {literals : Arguments} :
    ¬literals.Malformed ↔ ∀ entry ∈ literals.entries, entry.2.GivesArguments := by
  simp [Malformed]

namespace Persistence

theorem not_overrideMalformed_iff {literals : Arguments} :
    ¬OverrideMalformed literals ↔
      ∀ entry ∈ literals.entries, entry.2.GivesArguments ∧
        (entry.1 = indexesKey →
          ∀ index ∈ entry.2.givenArguments.entries, index.2.GivesArguments) := by
  rw [OverrideMalformed, not_or, Arguments.not_malformed_iff, not_exists]
  constructor
  · rintro ⟨gives, indexes⟩ ⟨key, value⟩ member
    refine ⟨gives _ member, ?_⟩
    rintro rfl
    cases value with
    | object members =>
        rw [← Arguments.not_malformed_iff]
        exact fun malformed => indexes members ⟨member, malformed⟩
    | _ => exact fun index absent => absurd absent List.not_mem_nil
  · intro each
    refine ⟨fun entry member => (each entry member).1, ?_⟩
    rintro members ⟨member, malformed⟩
    exact Arguments.not_malformed_iff.mpr ((each _ member).2 rfl) malformed

/-! ## Entries -/

/-- An entry for an index stands for an attribute that begins with the name: the key of the entry
unless its arguments give another one. -/
structure DeclaresIndex (entry : String × Json.Value) (attr : Attribute) : Prop where
  name : attr.name = "ORM\\Index"
  arguments : attr.arguments.entries =
    ("name", (entry.2.givenArguments.get? "name").getD (.string entry.1)) ::
      entry.2.givenArguments.entries.filter (·.1 ≠ "name")

/-- An entry of a literal mapping stands for attributes. -/
inductive Declares : String × Json.Value → List Attribute → Prop
  | single {entry : String × Json.Value} {attr : Attribute} (other : entry.1 ≠ "Indexes")
      (name : attr.name = if '\\' ∈ entry.1.toList then entry.1 else "ORM\\" ++ entry.1)
      (arguments : attr.arguments = entry.2.givenArguments) : Declares entry [attr]
  | indexes {value : Json.Value} {attributes : List Attribute}
      (members : List.Forall₂ DeclaresIndex value.givenArguments.entries attributes) :
      Declares ("Indexes", value) attributes

theorem exists_indexAttribute {entry : String × Json.Value} (gives : entry.2.GivesArguments) :
    ∃ attr, indexAttribute entry = .ok attr ∧ DeclaresIndex entry attr := by
  rw [indexAttribute, argumentsOf_of_givesArguments .index gives]
  refine ⟨_, rfl, rfl, ?_⟩
  rw [OrderedMap.entries_overlay]
  simp [OrderedMap.keys, OrderedMap.put]

theorem exists_overrideEntry {entry : String × Json.Value} (gives : entry.2.GivesArguments)
    (indexes : entry.1 = indexesKey →
      ∀ index ∈ entry.2.givenArguments.entries, index.2.GivesArguments) :
    ∃ attributes, overrideEntry entry = .ok attributes ∧ Declares entry attributes := by
  rw [overrideEntry]
  split
  next named =>
    obtain ⟨key, value⟩ := entry
    subst named
    obtain ⟨attributes, ended, members⟩ := exists_mapM_of_forall fun index member =>
      exists_indexAttribute (indexes rfl index member)
    rw [argumentsOf_of_givesArguments .indexes gives]
    exact ⟨attributes, ended, .indexes members⟩
  next other =>
    rw [literalAttribute_of_givesArguments gives]
    exact ⟨_, rfl, .single other rfl rfl⟩

/-- Of a literal mapping that is not malformed the attributes of a class are those that the
entries stand for, one after the other; neither the rest of the class nor the rest of the
configuration has a part in them. -/
theorem classAttributes_of_override {literals : Arguments}
    (wellFormed : ¬OverrideMalformed literals) :
    ∃ groups, List.Forall₂ Declares literals.entries groups ∧
      ∀ (config : Config) (cls : Class), cls.isEnum = false →
        (config.class? cls.name).bind Config.ClassSettings.persistenceAttributes = some literals →
        classAttributes config cls = .ok groups.flatten := by
  obtain ⟨groups, ended, declares⟩ := exists_mapM_of_forall fun entry member =>
    have each := not_overrideMalformed_iff.mp wellFormed entry member
    exists_overrideEntry each.1 each.2
  refine ⟨groups, declares, ?_⟩
  intro config cls ordinary override
  calc classAttributes config cls
    _ = overrideAttributes literals := by rw [classAttributes, ordinary, override]; rfl
    _ = .ok groups.flatten := by rw [overrideAttributes, ended]; rfl

/-- A class of a reserved name, once abstract and once embeddable, beside attributes for
inherited classes: the entries alone decide, and the indexes stand in the middle. -/
theorem classAttributes_of_override_group :
    let indexes : Json.Value :=
      .object [("by_name", .object [("fields", .array []), ("name", .string "title")]),
        ("by_date", .null)]
    let literals : Arguments :=
      .ofList [("Entity", .null), ("Indexes", indexes), ("Gedmo\\Tree", .object [("depth", .null)])]
    let config : Config :=
      { persistence := { inheritanceAttributes := some (.ofList [("Cache", .null)]) }
        classes := .ofList [("Group", { persistenceAttributes := some literals })] }
    ¬OverrideMalformed literals ∧
      ∃ groups, List.Forall₂ Declares literals.entries groups ∧
        classAttributes config { name := "Group", isAbstract := true } = .ok groups.flatten ∧
        classAttributes config { name := "Group", isEmbeddable := true } = .ok groups.flatten ∧
        groups.flatten.map (fun attr => (attr.name, attr.arguments.entries)) =
          [("ORM\\Entity", []),
            ("ORM\\Index", [("name", .string "title"), ("fields", .array [])]),
            ("ORM\\Index", [("name", .string "by_date")]),
            ("Gedmo\\Tree", [("depth", .null)])] := by
  intro indexes literals config
  have wellFormed : ¬OverrideMalformed literals := by
    rw [not_overrideMalformed_iff]
    decide +kernel
  obtain ⟨groups, declares, decided⟩ := classAttributes_of_override wellFormed
  have inherited := decided config { name := "Group", isAbstract := true } rfl (by decide +kernel)
  have embedded := decided config { name := "Group", isEmbeddable := true } rfl (by decide +kernel)
  refine ⟨wellFormed, groups, declares, inherited, embedded, ?_⟩
  have emitted : (classAttributes config { name := "Group", isAbstract := true }).toOption.map
      (List.map fun attr => (attr.name, attr.arguments.entries)) =
        some [("ORM\\Entity", []),
          ("ORM\\Index", [("name", .string "title"), ("fields", .array [])]),
          ("ORM\\Index", [("name", .string "by_date")]),
          ("Gedmo\\Tree", [("depth", .null)])] := by
    decide +kernel
  rw [inherited] at emitted
  exact Option.some.inj emitted

end Persistence

end EntityGen
