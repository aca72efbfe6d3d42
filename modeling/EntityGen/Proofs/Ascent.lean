import EntityGen.Proofs.Ancestors

/-!
# The search for a constructor, look by look

The search goes up from the parent of a class and looks at one name at a time
(`Ascent.look`).  It ends at a name that it has seen before or that no class has, at a class
that declares a constructor, and at a class without a parent.  A look after which it goes on
takes one class away from those that it has not seen (`Ascent.unseen`), so it ends within as
many looks as there are classes, cycles or not (`Ascent.answer?_eq`).

The names above a class form a chain.  A class inherits a constructor exactly when some name
on the chain, other than its own, declares one (`inheritsConstructor_exact`).
-/

namespace EntityGen

namespace Hierarchy

variable {classes : List (String × Lineage)} {name ancestor : String}

theorem length_without_lt_of_lineage? {lineage : Lineage}
    (found : lineage? classes name = some lineage) :
    (without name classes).length < classes.length := by
  obtain ⟨entry, foundEntry, _⟩ := Option.map_eq_some_iff.mp found
  exact length_without_lt foundEntry

/-! ## Looks -/

/-- How far a search has gone: the names that it has seen, and the one it is to look at. -/
structure Ascent where
  seen : List String
  next : String

namespace Ascent

/-- What a search makes of what is known about the name that it looks at: it ends with an
answer, or it goes on to the parent. -/
def judge (ascent : Ascent) : Option Lineage → Bool ⊕ Ascent
  | none => .inl false
  | some lineage =>
    if lineage.declaresConstructor then .inl true
    else
      match lineage.parent with
      | none => .inl false
      | some parent => .inr ⟨ascent.next :: ascent.seen, parent⟩

/-- Look at a name; the search ends at one that it has seen before. -/
def look (classes : List (String × Lineage)) (ascent : Ascent) : Bool ⊕ Ascent :=
  if ascent.next ∈ ascent.seen then .inl false
  else ascent.judge (lineage? classes ascent.next)

/-- The answer of a search that ends within a number of looks. -/
def answer? (classes : List (String × Lineage)) : Nat → Ascent → Option Bool
  | 0, _ => none
  | looks + 1, ascent =>
    match ascent.look classes with
    | .inl answer => some answer
    | .inr further => answer? classes looks further

/-- The classes whose names have not been seen. -/
def unseen (classes : List (String × Lineage)) : List String → List (String × Lineage)
  | [] => classes
  | name :: seen => without name (unseen classes seen)

theorem lineage?_unseen (classes : List (String × Lineage)) (seen : List String) (name : String) :
    lineage? (unseen classes seen) name = if name ∈ seen then none else lineage? classes name := by
  induction seen with
  | nil => simp [unseen]
  | cons other seen ih =>
      rw [unseen, lineage?_without, ih]
      by_cases same : name = other <;> simp [same]

/-- A look sees what is known about a name among the classes that were not seen. -/
theorem look_eq (classes : List (String × Lineage)) (ascent : Ascent) :
    ascent.look classes =
      ascent.judge (lineage? (unseen classes ascent.seen) ascent.next) := by
  rw [look, lineage?_unseen]
  split <;> rfl

/-- With more looks than classes that it has not seen, a search ends, and it tells whether the
name or one above it declares a constructor. -/
theorem answer?_eq (seen : List String) (next : String) {looks : Nat}
    (enough : (unseen classes seen).length < looks) :
    answer? classes looks ⟨seen, next⟩ = some (declaresAbove (unseen classes seen) next) := by
  -- A look after which the search goes on leaves one class fewer that was not seen.
  induction looks generalizing seen next with
  | zero => cases enough
  | succ looks ih =>
      rw [answer?, look_eq, declaresAbove_eq, declaresIn, parentIn?]
      cases found : lineage? (unseen classes seen) next with
      | none => rfl
      | some lineage =>
          obtain ⟨declares, above⟩ := lineage
          cases declares with
          | true => rfl
          | false =>
              cases above with
              | none => rfl
              | some parent =>
                  have fewer : (unseen classes (next :: seen)).length < looks :=
                    Nat.lt_of_lt_of_le (length_without_lt_of_lineage? found)
                      (Nat.lt_succ_iff.mp enough)
                  exact ih (next :: seen) parent fewer

end Ascent

/-- What is told about a class within a number of looks: whether it inherits a constructor, or
nothing when its parent is not one of the classes. -/
def inheritsWithin? (hierarchy : Hierarchy) (looks : Nat) (name : String) : Option (Option Bool) :=
  match parentIn? hierarchy.toList name with
  | none => some none
  | some parent =>
    if hierarchy.contains parent then
      (Ascent.answer? hierarchy.toList looks ⟨[name], parent⟩).map some
    else some none

theorem inheritsWithin?_size (hierarchy : Hierarchy) (name : String) :
    hierarchy.inheritsWithin? hierarchy.size name = some (hierarchy.inheritsConstructor name) := by
  rw [inheritsWithin?, inheritsConstructor_eq]
  cases above : parentIn? hierarchy.toList name with
  | none => rfl
  | some parent =>
      obtain ⟨lineage, found, _⟩ := Option.bind_eq_some_iff.mp above
      -- The class itself counts as seen, so one look is left for the name that ends the search.
      have ended := Ascent.answer?_eq [name] parent
        (length_without_lt_of_lineage? found)
      simp only [Option.bind_some]
      split
      next => exact congrArg (Option.map some) ended
      next => rfl

/-! ## The chain above a class -/

/-- The names above a class, in order, from its parent on. -/
def chain? (classes : List (String × Lineage)) (name : String) : Nat → Option String
  | 0 => parentIn? classes name
  | place + 1 => (chain? classes name place).bind (parentIn? classes)

/-- On the chain above a class a name other than its own declares a constructor, and all names
before it are those of classes. -/
def DeclaredAbove (classes : List (String × Lineage)) (name : String) : Prop :=
  ∃ place ancestor, chain? classes name place = some ancestor ∧ ancestor ≠ name ∧
    declaresIn classes ancestor ∧
    ∀ earlier < place, ∃ other, chain? classes name earlier = some other ∧
      (lineage? classes other).isSome

/-- The names of a chain are those that are reached in at least one step. -/
theorem exists_chain?_iff :
    (∃ place, chain? classes name place = some ancestor) ↔
      Relation.TransGen (fun child parent => parentIn? classes child = some parent)
        name ancestor := by
  constructor
  · rintro ⟨place, stands⟩
    induction place generalizing ancestor with
    | zero => exact .single stands
    | succ place ih =>
        obtain ⟨other, before, step⟩ := Option.bind_eq_some_iff.mp stands
        exact .tail (ih before) step
  · intro reached
    induction reached with
    | single step => exact ⟨0, step⟩
    | tail _ step ih =>
        obtain ⟨place, before⟩ := ih
        exact ⟨place + 1, Option.bind_eq_some_iff.mpr ⟨_, before, step⟩⟩

/-- The chain goes on past names of classes alone. -/
theorem known_of_chain? {place : Nat} (stands : chain? classes name place = some ancestor) :
    ∀ earlier < place, ∃ other, chain? classes name earlier = some other ∧
      (lineage? classes other).isSome := by
  induction place generalizing ancestor with
  | zero =>
      intro earlier before
      cases before
  | succ place ih =>
      intro earlier before
      obtain ⟨other, stands, step⟩ := Option.bind_eq_some_iff.mp stands
      rcases Nat.lt_succ_iff_lt_or_eq.mp before with before | rfl
      · exact ih stands earlier before
      · obtain ⟨lineage, found, _⟩ := Option.bind_eq_some_iff.mp step
        exact ⟨other, stands, Option.isSome_of_eq_some found⟩

theorem declaredAbove_iff :
    DeclaredAbove classes name ↔
      ∃ ancestor, ancestor ≠ name ∧ Reaches classes name ancestor ∧
        declaresIn classes ancestor := by
  constructor
  · rintro ⟨place, ancestor, stands, different, declares, _⟩
    have reached := exists_chain?_iff.mp ⟨place, stands⟩
    exact ⟨ancestor, different, reached.to_reflTransGen, declares⟩
  · rintro ⟨ancestor, different, reached, declares⟩
    have above := (Relation.reflTransGen_iff_eq_or_transGen.mp reached).resolve_left different
    obtain ⟨place, stands⟩ := exists_chain?_iff.mpr above
    exact ⟨place, ancestor, stands, different, declares, known_of_chain? stands⟩

/-- Nothing is told about a name that no class has, about a class without a parent, and about
one whose parent is not one of the classes. -/
theorem inheritsConstructor_eq_none_iff (hierarchy : Hierarchy) (name : String) :
    hierarchy.inheritsConstructor name = none ↔
      hierarchy.contains name = false ∨ parentIn? hierarchy.toList name = none ∨
        ∃ parent, parentIn? hierarchy.toList name = some parent ∧
          hierarchy.contains parent = false := by
  rw [inheritsConstructor_eq]
  cases above : parentIn? hierarchy.toList name with
  | none => simp
  | some parent =>
      obtain ⟨lineage, found, _⟩ := Option.bind_eq_some_iff.mp above
      have known : hierarchy.contains name := by
        rw [contains_eq_isSome_lineage?, found, Option.isSome_some]
      simp [known]

/-- The search for an inherited constructor ends within as many looks as there are classes,
whatever the parents are.  It tells nothing about a name that no class has, about a class
without a parent, and about one whose parent is not one of the classes.  Of any other class it
tells whether on the chain above it a name other than its own declares a constructor, where all
names before are those of classes. -/
theorem inheritsConstructor_exact (hierarchy : Hierarchy) (name : String) :
    hierarchy.inheritsWithin? hierarchy.size name = some (hierarchy.inheritsConstructor name) ∧
    (hierarchy.inheritsConstructor name = none ↔
      hierarchy.contains name = false ∨ parentIn? hierarchy.toList name = none ∨
        ∃ parent, parentIn? hierarchy.toList name = some parent ∧
          hierarchy.contains parent = false) ∧
    ∀ inherits : Bool, hierarchy.inheritsConstructor name = some inherits ↔
      hierarchy.inheritsConstructor name ≠ none ∧
        (inherits ↔ DeclaredAbove hierarchy.toList name) := by
  refine ⟨hierarchy.inheritsWithin?_size name, hierarchy.inheritsConstructor_eq_none_iff name, ?_⟩
  intro inherits
  rw [declaredAbove_iff, ← inheritsConstructor_iff]
  cases hierarchy.inheritsConstructor name with
  | none => simp
  | some told => cases told <;> cases inherits <;> simp

/-- Three classes in a circle: the last look comes back to the first class. -/
example :
    let hierarchy : Hierarchy :=
      .ofList [("A", ⟨true, some "B"⟩), ("B", ⟨false, some "C"⟩), ("C", ⟨false, some "A"⟩)]
    hierarchy.inheritsWithin? 2 "A" = none ∧
      hierarchy.inheritsWithin? 3 "A" = some (some false) ∧
      hierarchy.inheritsWithin? 2 "B" = some (some true) := by
  decide +kernel

end Hierarchy

end EntityGen
