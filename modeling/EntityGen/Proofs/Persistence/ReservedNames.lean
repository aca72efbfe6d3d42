import EntityGen.Proofs.Persistence.Overrides
import Mathlib.Data.List.Chain

/-!
# Reserved names

The reserved words stand in increasing order (`ReservedWord.increasing_all`), so the search
that halves them misses none, whatever is looked for (`ReservedWord.search_iff`).  A name is
reserved exactly when its lower case is one of the words (`isReserved_iff`).  This decides what
follows the attributes that map a class: a table, named by the lower case of the class, or
nothing (`Persistence.classAttributes_of_mapped`).
-/

namespace EntityGen

/-! ## The search -/

namespace ReservedWord

/-- Words in increasing order, none of them twice. -/
def Increasing (words : Array String) : Prop :=
  words.toList.Pairwise fun a b => compare a b = .lt

theorem increasing_all : Increasing all := by
  have transitive : Trans (fun a b : String => compare a b = .lt)
      (fun a b => compare a b = .lt) (fun a b => compare a b = .lt) :=
    ⟨Std.TransCmp.lt_trans⟩
  -- The order is transitive, so it is enough to compare each word with the next one.
  rw [Increasing, ← List.isChain_iff_pairwise]
  decide +kernel

variable {words : Array String} {word : String} {low high : Nat}

/-- The smaller one of two words stands before the other one. -/
theorem Increasing.lt_of_compare (increasing : Increasing words) {i j : Nat} {a b : String}
    (first : words[i]? = some a) (second : words[j]? = some b) (less : compare a b = .lt) :
    i < j := by
  obtain ⟨inFirst, rfl⟩ := Array.getElem?_eq_some_iff.mp first
  obtain ⟨inSecond, rfl⟩ := Array.getElem?_eq_some_iff.mp second
  rcases Nat.lt_trichotomy i j with before | rfl | after
  · exact before
  · exact absurd less (by simp)
  · have greater := List.pairwise_iff_getElem.mp increasing j i inSecond inFirst after
    exact absurd (Std.TransCmp.lt_trans less greater) (by simp)

/-- Among increasing words the search finds a word exactly when it stands at one of the places
where it is looked for. -/
theorem search_iff (increasing : Increasing words) (inside : high ≤ words.size) :
    search words word low high ↔
      ∃ place, low ≤ place ∧ place < high ∧ words[place]? = some word := by
  fun_induction search words word low high with
  | case1 low high nonempty middle outside =>
      -- The middle of the places is a place.
      rw [Array.getElem?_eq_none_iff] at outside
      omega
  | case2 low high nonempty middle found present same =>
      rw [← Std.LawfulEqOrd.eq_of_compare same] at present
      exact iff_of_true rfl ⟨middle, by omega, by omega, present⟩
  | case3 low high nonempty middle found present less ih =>
      rw [ih (by omega)]
      refine exists_congr fun place => and_congr_right fun _ => ?_
      constructor
      · rintro ⟨before, stands⟩
        exact ⟨by omega, stands⟩
      · rintro ⟨_, stands⟩
        exact ⟨increasing.lt_of_compare stands present less, stands⟩
  | case4 low high nonempty middle found present greater ih =>
      rw [ih inside]
      refine exists_congr fun place => ?_
      constructor
      · rintro ⟨after, before, stands⟩
        exact ⟨by omega, before, stands⟩
      · rintro ⟨_, before, stands⟩
        have less := Std.OrientedCmp.gt_iff_lt.mp greater
        exact ⟨increasing.lt_of_compare present stands less, before, stands⟩
  | case5 low high empty =>
      simp only [Bool.false_eq_true, false_iff]
      rintro ⟨place, after, before, _⟩
      omega

theorem search_all_iff (word : String) : search all word 0 all.size ↔ word ∈ all := by
  rw [search_iff increasing_all (Nat.le_refl _), Array.mem_iff_getElem?]
  refine exists_congr fun place => ?_
  constructor
  · rintro ⟨_, _, stands⟩
    exact stands
  · intro stands
    obtain ⟨before, _⟩ := Array.getElem?_eq_some_iff.mp stands
    exact ⟨Nat.zero_le _, before, stands⟩

end ReservedWord

/-- A name is reserved exactly when its lower case is one of the reserved words. -/
theorem isReserved_iff (name : String) :
    isReserved name ↔ Text.lowercase name ∈ ReservedWord.all :=
  ReservedWord.search_all_iff _

theorem isReserved_congr {name other : String} (same : Text.lowercase name = Text.lowercase other) :
    isReserved name = isReserved other := by
  rw [Bool.eq_iff_iff, isReserved_iff, isReserved_iff, same]

/-! ## Mapped classes -/

namespace Persistence

/-- An entry of the attributes for inherited classes stands for an attribute. -/
structure DeclaresInheritance (entry : String × Json.Value) (attr : Attribute) : Prop where
  name : attr.name = if '\\' ∈ entry.1.toList then entry.1 else "ORM\\" ++ entry.1
  arguments : attr.arguments = entry.2.givenArguments

/-- Attributes make a class part of the mapping: as an entity or, when it is abstract, as what
its subclasses inherit. -/
inductive DeclaresMapped (config : Config) (cls : Class) : List Attribute → Prop
  | entity (concrete : cls.isAbstract = false) : DeclaresMapped config cls [⟨"ORM\\Entity", ∅⟩]
  | superclass (inherited : cls.isAbstract)
      (implied : config.persistence.inheritanceAttributes = none) :
      DeclaresMapped config cls [⟨"ORM\\MappedSuperclass", ∅⟩]
  | inheritance {literals : Arguments} {attributes : List Attribute} (inherited : cls.isAbstract)
      (given : config.persistence.inheritanceAttributes = some literals)
      (entries : List.Forall₂ DeclaresInheritance literals.entries attributes) :
      DeclaresMapped config cls attributes

variable {config : Config} {cls : Class}

theorem exists_baseAttributes
    (wellFormed : ∀ literals, config.persistence.inheritanceAttributes = some literals →
      ¬literals.Malformed) :
    ∃ base, baseAttributes config cls = .ok base ∧ DeclaresMapped config cls base := by
  rw [baseAttributes]
  split
  next inherited =>
    cases given : config.persistence.inheritanceAttributes with
    | none => exact ⟨_, rfl, .superclass inherited given⟩
    | some literals =>
        have each := Arguments.not_malformed_iff.mp (wellFormed literals given)
        obtain ⟨attributes, ended, entries⟩ :
            ∃ attributes, literalAttributes persistenceName literals = .ok attributes ∧
              List.Forall₂ DeclaresInheritance literals.entries attributes :=
          exists_mapM_of_forall fun entry member =>
            ⟨_, literalAttribute_of_givesArguments (each entry member), rfl, rfl⟩
        exact ⟨attributes, ended, .inheritance inherited given entries⟩
  next concrete => exact ⟨_, rfl, .entity (by simpa using concrete)⟩

/-- The table of a class is named by the lower case of its name. -/
theorem tableAttributes_eq (name : String) :
    tableAttributes name =
      if Text.lowercase name ∈ ReservedWord.all then
        [⟨"ORM\\Table", .ofList [("name", .string (Text.lowercase name))]⟩]
      else [] := by
  simp only [tableAttributes, isReserved_iff]
  rfl

theorem tableAttributes_congr {name other : String}
    (same : Text.lowercase name = Text.lowercase other) :
    tableAttributes name = tableAttributes other := by
  rw [tableAttributes_eq, tableAttributes_eq, same]

theorem classAttributes_eq_map (stored : cls.isEnum = false) (whole : cls.isEmbeddable = false)
    (plain : (config.class? cls.name).bind Config.ClassSettings.persistenceAttributes = none) :
    classAttributes config cls =
      (baseAttributes config cls).map (· ++ tableAttributes cls.name) := by
  rw [classAttributes, stored, whole, plain]
  rfl

/-- A name is reserved exactly when its lower case is one of the reserved words, so that names
with the same lower case are all reserved or none is.  A class that is neither an enumeration
nor embedded, and whose mapping is not given literally, has the attributes that map it; behind
them stands one for a table, named by the lower case of the class, exactly when this is a
reserved word.  Nothing else is made of the name, so another spelling of it changes nothing. -/
theorem classAttributes_of_mapped (config : Config) :
    (∀ name, isReserved name ↔ Text.lowercase name ∈ ReservedWord.all) ∧
    (∀ name other, Text.lowercase name = Text.lowercase other →
      isReserved name = isReserved other) ∧
    ((∀ literals, config.persistence.inheritanceAttributes = some literals →
        ¬literals.Malformed) →
      ∀ cls : Class, cls.isEnum = false → cls.isEmbeddable = false →
        (config.class? cls.name).bind Config.ClassSettings.persistenceAttributes = none →
        ∃ base, DeclaresMapped config cls base ∧
          classAttributes config cls = .ok (base ++
            if Text.lowercase cls.name ∈ ReservedWord.all then
              [⟨"ORM\\Table", .ofList [("name", .string (Text.lowercase cls.name))]⟩]
            else []) ∧
          ∀ other, Text.lowercase other = Text.lowercase cls.name →
            (config.class? other).bind Config.ClassSettings.persistenceAttributes = none →
            classAttributes config { cls with name := other } = classAttributes config cls) := by
  refine ⟨isReserved_iff, fun name other => isReserved_congr, ?_⟩
  intro wellFormed cls stored whole plain
  obtain ⟨base, ended, mapped⟩ := exists_baseAttributes wellFormed
  have output := classAttributes_eq_map stored whole plain
  refine ⟨base, mapped, ?_, ?_⟩
  · rw [output, ended, tableAttributes_eq]
    rfl
  · intro other same plainOther
    calc classAttributes config { cls with name := other }
      _ = (baseAttributes config { cls with name := other }).map (· ++ tableAttributes other) :=
        classAttributes_eq_map stored whole plainOther
      _ = (baseAttributes config cls).map (· ++ tableAttributes cls.name) := by
        rw [tableAttributes_congr same]
        rfl
      _ = classAttributes config cls := output.symm

/-- An abstract class whose name is a reserved word when the sign for kelvin counts as a letter:
the table stands behind the attributes for inherited classes. -/
theorem classAttributes_of_mapped_backup :
    let config : Config :=
      { persistence :=
          { inheritanceAttributes := some
              (.ofList [("InheritanceType", .object [("value", .string "JOINED")]),
                ("Gedmo\\Tree", .null)]) } }
    let cls : Class := { name := "Bac\u212aup", isAbstract := true }
    (∀ literals, config.persistence.inheritanceAttributes = some literals →
      ¬literals.Malformed) ∧
    cls.isEnum = false ∧ cls.isEmbeddable = false ∧
    (config.class? cls.name).bind Config.ClassSettings.persistenceAttributes = none ∧
    Text.lowercase "BACKUP" = Text.lowercase cls.name ∧
    (config.class? "BACKUP").bind Config.ClassSettings.persistenceAttributes = none ∧
    isReserved "BACKUP" = isReserved cls.name ∧
    ∃ base, DeclaresMapped config cls base ∧
      classAttributes config cls =
        .ok (base ++ [⟨"ORM\\Table", .ofList [("name", .string "backup")]⟩]) ∧
      classAttributes config { cls with name := "BACKUP" } = classAttributes config cls := by
  intro config cls
  have wellFormed : ∀ literals, config.persistence.inheritanceAttributes = some literals →
      ¬literals.Malformed := by
    rintro _ ⟨⟩
    rw [Arguments.not_malformed_iff]
    decide +kernel
  have same : Text.lowercase "BACKUP" = Text.lowercase cls.name := by decide +kernel
  obtain ⟨_, alike, output⟩ := classAttributes_of_mapped config
  obtain ⟨base, mapped, ended, spelled⟩ := output wellFormed cls rfl rfl (by decide +kernel)
  have lower : Text.lowercase cls.name = "backup" := by decide +kernel
  rw [lower, if_pos (by decide +kernel)] at ended
  exact ⟨wellFormed, rfl, rfl, by decide +kernel, same, by decide +kernel, alike _ _ same, base,
    mapped, ended, spelled "BACKUP" same (by decide +kernel)⟩

end Persistence

end EntityGen
