import EntityGen.Generation
import EntityGen.Table.Lemmas
import Mathlib.Logic.Relation

/-!
# Ancestors

The ancestors of a class are the names that are reached by going from parent to parent.
A class can be among its own ancestors, and the last of them can be a name that no class
has.

The search for an inherited constructor looks at no class twice.  It misses nothing by
that, because a way that comes back to a class can be cut short (`reaches_iff`).  So a
class inherits a constructor exactly when an ancestor other than itself declares one
(`inheritsConstructor_iff`), and its ancestors are all that the search depends on
(`inheritsConstructor_congr`).  Both are stated for the classes of a registry as well
(`Registry.inheritsConstructor_hierarchy_iff`, `inheritsConstructor_hierarchy_congr`).
-/

namespace EntityGen

namespace Hierarchy

/-- What is known about a class among given classes. -/
def lineage? (classes : List (String × Lineage)) (name : String) : Option Lineage :=
  (classes.find? fun entry => entry.1 = name).map Prod.snd

/-- The parent of a class among given classes. -/
def parentIn? (classes : List (String × Lineage)) (name : String) : Option String :=
  (lineage? classes name).bind Lineage.parent

/-- Whether a class among given classes declares a constructor. -/
def declaresIn (classes : List (String × Lineage)) (name : String) : Bool :=
  (lineage? classes name).any Lineage.declaresConstructor

/-- A name is reached from another one by going from parent to parent. -/
def Reaches (classes : List (String × Lineage)) : String → String → Prop :=
  Relation.ReflTransGen fun child parent => parentIn? classes child = some parent

variable {classes : List (String × Lineage)} {name start ancestor : String}

/-! ## Ways that avoid a class -/

theorem lineage?_without (name other : String) (classes : List (String × Lineage)) :
    lineage? (without name classes) other =
      if other = name then none else lineage? classes other := by
  rw [lineage?, without, List.find?_filter]
  split
  next same =>
    rw [Option.map_eq_none_iff, List.find?_eq_none]
    simp [same]
  next different =>
    rw [lineage?]
    congr 2
    funext entry
    by_cases named : entry.1 = other <;> simp [named, different]

theorem parentIn?_without (name other : String) (classes : List (String × Lineage)) :
    parentIn? (without name classes) other =
      if other = name then none else parentIn? classes other := by
  rw [parentIn?, lineage?_without]
  split <;> rfl

/-- What is reached without a class is reached with it. -/
theorem Reaches.of_without (reached : Reaches (without name classes) start ancestor) :
    Reaches classes start ancestor := by
  apply Relation.ReflTransGen.mono _ _ _ reached
  intro child parent step
  rw [parentIn?_without] at step
  split at step
  · cases step
  · exact step

/-- Without a class nothing but its own name is reached from it. -/
theorem Reaches.eq_of_without (reached : Reaches (without name classes) name ancestor) :
    ancestor = name := by
  rcases Relation.ReflTransGen.cases_head reached with same | ⟨parent, step, _⟩
  · exact same.symm
  · rw [parentIn?_without, if_pos rfl] at step
    cases step

/-- A way avoids a class, or it can begin anew at the parent of the class and avoid the
class from there on. -/
theorem Reaches.without_or (reached : Reaches classes start ancestor) (name : String) :
    Reaches (without name classes) start ancestor ∨
      ∃ parent, parentIn? classes name = some parent ∧
        Reaches (without name classes) parent ancestor := by
  -- The induction is on the first step, so that the rest of the way is cut already.
  induction reached using Relation.ReflTransGen.head_induction_on with
  | refl => exact .inl .refl
  | @head child parent step _ ih =>
      rcases ih with avoids | again
      · by_cases same : child = name
        · exact .inr ⟨parent, same ▸ step, avoids⟩
        · left
          refine .head ?_ avoids
          rw [parentIn?_without, if_neg same]
          exact step
      · exact .inr again

/-- Another name is reached from a class exactly when it is reached from the parent on a
way that avoids the class. -/
theorem reaches_iff (different : ancestor ≠ name) :
    Reaches classes name ancestor ↔
      ∃ parent, parentIn? classes name = some parent ∧
        Reaches (without name classes) parent ancestor := by
  constructor
  · intro reached
    rcases reached.without_or name with avoids | again
    · exact absurd avoids.eq_of_without different
    · exact again
  · rintro ⟨parent, step, avoids⟩
    exact .head step avoids.of_without

/-! ## The search -/

theorem declaresIn_without (name other : String) (classes : List (String × Lineage)) :
    declaresIn (without name classes) other =
      if other = name then false else declaresIn classes other := by
  rw [declaresIn, lineage?_without]
  split <;> rfl

theorem declaresAbove_eq (classes : List (String × Lineage)) (name : String) :
    declaresAbove classes name =
      (declaresIn classes name ||
        (parentIn? classes name).any (declaresAbove (without name classes))) := by
  rw [declaresAbove, declaresIn, parentIn?, lineage?]
  split
  next missing => simp [missing]
  next entry found =>
    simp only [found, Option.map_some, Option.any_some, Option.bind_some]
    cases entry.2.parent <;> rfl

/-- A constructor is declared by a name that is reached from the parent on a way which
avoids the class, exactly when it is declared by an ancestor other than the class. -/
theorem exists_declaresIn_without_iff :
    (∃ parent, parentIn? classes name = some parent ∧
      ∃ ancestor, Reaches (without name classes) parent ancestor ∧
        declaresIn (without name classes) ancestor) ↔
    ∃ ancestor, ancestor ≠ name ∧ Reaches classes name ancestor ∧ declaresIn classes ancestor := by
  simp only [declaresIn_without]
  constructor
  · rintro ⟨parent, step, ancestor, avoids, declares⟩
    by_cases same : ancestor = name
    · simp [same] at declares
    · rw [if_neg same] at declares
      exact ⟨ancestor, same, (reaches_iff same).mpr ⟨parent, step, avoids⟩, declares⟩
  · rintro ⟨ancestor, different, reached, declares⟩
    obtain ⟨parent, step, avoids⟩ := (reaches_iff different).mp reached
    refine ⟨parent, step, ancestor, avoids, ?_⟩
    rw [if_neg different]
    exact declares

/-- The search finds a constructor exactly when the class or a name that is reached from
it declares one. -/
theorem declaresAbove_iff (classes : List (String × Lineage)) (name : String) :
    declaresAbove classes name ↔
      ∃ ancestor, Reaches classes name ancestor ∧ declaresIn classes ancestor := by
  have step {classes : List (String × Lineage)} {name : String}
      (above : ∀ parent, parentIn? classes name = some parent →
        (declaresAbove (without name classes) parent ↔
          ∃ ancestor, Reaches (without name classes) parent ancestor ∧
            declaresIn (without name classes) ancestor)) :
      declaresAbove classes name ↔
        ∃ ancestor, Reaches classes name ancestor ∧ declaresIn classes ancestor := by
    rw [declaresAbove_eq, Bool.or_eq_true, Option.any_eq_true,
      exists_congr fun parent => and_congr_right (above parent), exists_declaresIn_without_iff]
    constructor
    · rintro (declares | ⟨ancestor, _, reached, declares⟩)
      · exact ⟨name, .refl, declares⟩
      · exact ⟨ancestor, reached, declares⟩
    · rintro ⟨ancestor, reached, declares⟩
      by_cases same : ancestor = name
      · exact .inl (same ▸ declares)
      · exact .inr ⟨ancestor, same, reached, declares⟩
  induction classes, name using declaresAbove.induct with
  | case1 classes name missing =>
      apply step
      intro parent found
      simp [parentIn?, lineage?, missing] at found
  | case2 classes name entry found ih =>
      apply step
      intro parent _
      exact ih parent

/-! ## Inherited constructors -/

variable {hierarchy other : Hierarchy}

theorem map_get?_eq_lineage? (hierarchy : Hierarchy) (name : String) :
    (hierarchy.get? name).map Prod.snd = lineage? hierarchy.toList name := by
  rw [lineage?, Table.get?]
  congr 2
  funext entry
  exact decide_eq_decide.mpr Std.LawfulEqOrd.compare_eq_iff_eq

theorem contains_eq_isSome_lineage? (hierarchy : Hierarchy) (name : String) :
    hierarchy.contains name = (lineage? hierarchy.toList name).isSome := by
  rw [← map_get?_eq_lineage?, Option.isSome_map]
  rfl

theorem inheritsConstructor_eq (hierarchy : Hierarchy) (name : String) :
    hierarchy.inheritsConstructor name =
      (parentIn? hierarchy.toList name).bind fun parent =>
        if hierarchy.contains parent then
          some (declaresAbove (without name hierarchy.toList) parent)
        else none := by
  rw [inheritsConstructor, parentIn?, ← map_get?_eq_lineage?]
  cases hierarchy.get? name <;> rfl

theorem getD_inheritsConstructor (hierarchy : Hierarchy) (name : String) :
    (hierarchy.inheritsConstructor name).getD false =
      (parentIn? hierarchy.toList name).any (declaresAbove (without name hierarchy.toList)) := by
  rw [inheritsConstructor_eq]
  cases parentIn? hierarchy.toList name with
  | none => rfl
  | some parent =>
      rw [Option.bind_some, Option.any_some]
      split
      next => rfl
      next missing =>
        -- Nothing is declared by a name that no class has, and the search ends there.
        have unknown : lineage? hierarchy.toList parent = none := by
          simpa [contains_eq_isSome_lineage?] using missing
        simp [declaresAbove_eq, declaresIn, parentIn?, lineage?_without, unknown]

/-- A class inherits a constructor exactly when an ancestor other than itself declares
one. -/
theorem inheritsConstructor_iff (hierarchy : Hierarchy) (name : String) :
    (hierarchy.inheritsConstructor name).getD false ↔
      ∃ ancestor, ancestor ≠ name ∧ Reaches hierarchy.toList name ancestor ∧
        declaresIn hierarchy.toList ancestor := by
  rw [getD_inheritsConstructor, Option.any_eq_true, ← exists_declaresIn_without_iff]
  exact exists_congr fun parent => and_congr_right fun _ => declaresAbove_iff _ parent

theorem isSome_inheritsConstructor (hierarchy : Hierarchy) (name : String) :
    (hierarchy.inheritsConstructor name).isSome =
      (parentIn? hierarchy.toList name).any fun parent =>
        (lineage? hierarchy.toList parent).isSome := by
  rw [inheritsConstructor_eq]
  cases parentIn? hierarchy.toList name with
  | none => rfl
  | some parent =>
      rw [Option.bind_some, Option.any_some, contains_eq_isSome_lineage?]
      split <;> simp_all

/-! ## Classes of other names -/

/-- The same names are reached where the same is known about all of them. -/
theorem reaches_congr {others : List (String × Lineage)}
    (same : ∀ ancestor, Reaches classes name ancestor →
      lineage? classes ancestor = lineage? others ancestor) :
    Reaches classes name ancestor ↔ Reaches others name ancestor := by
  constructor
  · intro reached
    induction reached with
    | refl => exact .refl
    | tail reached step ih =>
        refine .tail ih ?_
        rwa [parentIn?, ← same _ reached]
  · intro reached
    induction reached with
    | refl => exact .refl
    | tail _ step ih =>
        refine .tail ih ?_
        rwa [parentIn?, same _ ih]

/-- Whether a class inherits a constructor depends on its ancestors alone. -/
theorem inheritsConstructor_congr
    (same : ∀ ancestor, Reaches hierarchy.toList name ancestor →
      lineage? hierarchy.toList ancestor = lineage? other.toList ancestor) :
    hierarchy.inheritsConstructor name = other.inheritsConstructor name := by
  have parents : parentIn? hierarchy.toList name = parentIn? other.toList name := by
    rw [parentIn?, parentIn?, same name .refl]
  have found : (hierarchy.inheritsConstructor name).isSome =
      (other.inheritsConstructor name).isSome := by
    rw [isSome_inheritsConstructor, isSome_inheritsConstructor, ← parents]
    cases step : parentIn? hierarchy.toList name with
    | none => rfl
    | some parent =>
        rw [Option.any_some, Option.any_some, same parent (.single step)]
  have inherits : (hierarchy.inheritsConstructor name).getD false =
      (other.inheritsConstructor name).getD false := by
    rw [Bool.eq_iff_iff, inheritsConstructor_iff, inheritsConstructor_iff]
    refine exists_congr fun ancestor => and_congr_right fun _ => ?_
    rw [← reaches_congr same]
    refine and_congr_right fun reached => ?_
    rw [declaresIn, declaresIn, same ancestor reached]
  cases first : hierarchy.inheritsConstructor name <;>
    cases second : other.inheritsConstructor name <;> simp_all

end Hierarchy

/-! ## Classes of a registry -/

namespace Registry

/-- The parent of the class of a name. -/
def parentOf? (registry : Registry) (name : String) : Option String :=
  (registry.get? name).bind Class.parentName?

/-- A name is reached from a class by going from parent to parent, at least once, through
classes of the registry. -/
def IsAncestor (registry : Registry) : String → String → Prop :=
  Relation.TransGen fun child parent => registry.parentOf? child = some parent

variable {registry other : Registry} {config : Config} {name ancestor : String}

theorem get?_hierarchy (registry : Registry) (config : Config) (name : String) :
    (registry.hierarchy config).get? name =
      (registry.get? name).map fun cls => (cls.name, cls.lineage config) := by
  simp only [Table.get?, hierarchy, List.find?_map]
  rfl

theorem lineage?_hierarchy (registry : Registry) (config : Config) (name : String) :
    Hierarchy.lineage? (registry.hierarchy config).toList name =
      (registry.get? name).map (Class.lineage · config) := by
  rw [← Hierarchy.map_get?_eq_lineage?, get?_hierarchy, Option.map_map]
  rfl

theorem parentIn?_hierarchy (registry : Registry) (config : Config) (name : String) :
    Hierarchy.parentIn? (registry.hierarchy config).toList name = registry.parentOf? name := by
  rw [Hierarchy.parentIn?, lineage?_hierarchy, parentOf?]
  cases registry.get? name <;> rfl

theorem declaresIn_hierarchy (registry : Registry) (config : Config) (name : String) :
    Hierarchy.declaresIn (registry.hierarchy config).toList name =
      (registry.get? name).any (Class.declaresConstructor · config) := by
  rw [Hierarchy.declaresIn, lineage?_hierarchy]
  cases registry.get? name <;> rfl

/-- The names that the search reaches are the class itself and its ancestors. -/
theorem reaches_hierarchy_iff :
    Hierarchy.Reaches (registry.hierarchy config).toList name ancestor ↔
      ancestor = name ∨ registry.IsAncestor name ancestor := by
  simp only [Hierarchy.Reaches, parentIn?_hierarchy, Relation.reflTransGen_iff_eq_or_transGen,
    IsAncestor]

/-- A class of a registry inherits a constructor exactly when another class, which is an
ancestor of it, declares one. -/
theorem inheritsConstructor_hierarchy_iff (registry : Registry) (config : Config) (name : String) :
    ((registry.hierarchy config).inheritsConstructor name).getD false ↔
      ∃ other ∈ registry.toList, other.name ≠ name ∧ registry.IsAncestor name other.name ∧
        other.declaresConstructor config := by
  rw [Hierarchy.inheritsConstructor_iff]
  simp only [reaches_hierarchy_iff, declaresIn_hierarchy, Option.any_eq_true]
  constructor
  · rintro ⟨ancestor, different, reached, other, found, declares⟩
    obtain ⟨member, rfl⟩ := registry.get?_eq_some_iff.mp found
    exact ⟨other, member, different, reached.resolve_left different, declares⟩
  · rintro ⟨other, member, different, reached, declares⟩
    exact ⟨other.name, different, .inr reached, other,
      registry.get?_eq_some_iff.mpr ⟨member, rfl⟩, declares⟩

/-- Whether a class inherits a constructor is the same in registries that have the same
class of its name and the same ancestors of it. -/
theorem inheritsConstructor_hierarchy_congr (self : registry.get? name = other.get? name)
    (ancestors : ∀ ancestor, registry.IsAncestor name ancestor →
      registry.get? ancestor = other.get? ancestor) :
    (registry.hierarchy config).inheritsConstructor name =
      (other.hierarchy config).inheritsConstructor name := by
  apply Hierarchy.inheritsConstructor_congr
  intro ancestor reached
  rw [lineage?_hierarchy, lineage?_hierarchy]
  rcases reaches_hierarchy_iff.mp reached with rfl | above
  · rw [self]
  · rw [ancestors ancestor above]

end Registry

end EntityGen
