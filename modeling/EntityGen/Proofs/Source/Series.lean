import EntityGen.Proofs.Source.Change
import Mathlib.Data.List.Forall2

/-!
# Series of changes

A series of changes is made one after the other, each at the first element of the name it
is for.  What becomes of a name depends on the changes for that name alone, in their
order (`changeSeries_cons`, `find?_changeSeries`).

So two series that agree on each name leave lists that are alike place by place as far as
the list went at first; beyond it they differ in their order only
(`Regrown.changeSeries`).
-/

namespace EntityGen

section Series

variable {α β : Type} (name : α → String) (target : β → String) (fresh : β → α)
  (change : β → α → α)

/-- Make changes one after the other, each at the first element of the name it is for. -/
def changeSeries (changes : List β) (elements : List α) : List α :=
  changes.foldl
    (fun elements item =>
      changeFirst (name · = target item) (fresh item) (change item) elements) elements

variable {name target fresh change}

@[simp] theorem cons_changeSeries (item : β) (later : List β) (elements : List α) :
    changeSeries name target fresh change (item :: later) elements =
      changeSeries name target fresh change later
        (changeFirst (name · = target item) (fresh item) (change item) elements) := rfl

/-- The changes for the name of the first element change that one, and all others go on to
the rest. -/
theorem changeSeries_cons (keeps : ∀ item a, name (change item a) = name a) (changes : List β)
    (a : α) (rest : List α) :
    changeSeries name target fresh change changes (a :: rest) =
      (changes.filter (target · = name a)).foldl (fun a item => change item a) a ::
        changeSeries name target fresh change (changes.filter (target · ≠ name a)) rest := by
  induction changes generalizing a rest with
  | nil => rfl
  | cons item later ih =>
      rw [cons_changeSeries, changeFirst]
      by_cases here : name a = target item
      · simp [here, ih, keeps]
      · simp [here, Ne.symm here, ih]

/-- What a series of changes for one name makes of what is found under it. -/
def amended (fresh : β → α) (change : β → α → α) (changes : List β) (found : Option α) : Option α :=
  changes.foldl (fun found item => some (change item (found.getD (fresh item)))) found

@[simp] theorem amended_some (changes : List β) (a : α) :
    amended fresh change changes (some a) =
      some (changes.foldl (fun a item => change item a) a) := by
  induction changes generalizing a with
  | nil => rfl
  | cons item later ih => exact ih (change item a)

theorem amended_of_ne_nil {blank : α} {changes : List β} (found : Option α)
    (isFresh : ∀ item ∈ changes, fresh item = blank) (nonempty : changes ≠ []) :
    amended fresh change changes found =
      some (changes.foldl (fun a item => change item a) (found.getD blank)) := by
  cases changes with
  | nil => exact absurd rfl nonempty
  | cons item later =>
      rw [amended, List.foldl_cons, ← amended, amended_some, isFresh item List.mem_cons_self,
        List.foldl_cons]

/-- The first element of a name is what the changes for that name make of it. -/
theorem find?_changeSeries (keeps : ∀ item a, name (change item a) = name a)
    (isFresh : ∀ item, name (fresh item) = target item) (changes : List β) (elements : List α)
    (key : String) :
    (changeSeries name target fresh change changes elements).find? (name · = key) =
      amended fresh change (changes.filter (target · = key))
        (elements.find? (name · = key)) := by
  induction changes generalizing elements with
  | nil => rfl
  | cons item later ih =>
      rw [cons_changeSeries, ih, List.filter_cons]
      by_cases here : target item = key
      · subst here
        rw [find?_changeFirst (by simp [keeps]) (by simp [isFresh])]
        simp [amended]
      · rw [find?_changeFirst_of_disjoint]
        · simp [here]
        · intro a named
          have named : name a = target item := by simpa using named
          simp [named, here]
        · simp [keeps]
        · simp [isFresh]

theorem changeSeries_append (changes others : List β) (elements : List α) :
    changeSeries name target fresh change (changes ++ others) elements =
      changeSeries name target fresh change others
        (changeSeries name target fresh change changes elements) :=
  List.foldl_append

theorem nodup_changeSeries (keeps : ∀ item a, name (change item a) = name a)
    (isFresh : ∀ item, name (fresh item) = target item) (changes : List β) {elements : List α}
    (distinct : (elements.map name).Nodup) :
    ((changeSeries name target fresh change changes elements).map name).Nodup := by
  induction changes generalizing elements with
  | nil => exact distinct
  | cons item later ih =>
      apply ih
      apply nodup_changeFirst (keeps item) _ distinct
      intro a
      simp [isFresh]

end Series

theorem Namespace.imports_foldl_addImport (imports : List Import) (space : Namespace) :
    (imports.foldl addImport space).imports =
      changeSeries Import.name Import.name id (fun _ => id) imports space.imports := by
  induction imports generalizing space with
  | nil => rfl
  | cons imported rest ih => rw [List.foldl_cons, ih, imports_addImport, cons_changeSeries, id]

/-! ## Lists that differ in the order of what was added -/

/-- Two lists that have grown from one: place by place as far as that one goes, and in some
order beyond it. -/
inductive Regrown {α : Type} (kept : α → α → α → Prop) (added : α → α → Prop) :
    List α → List α → List α → Prop where
  | beyond {first second ordered : List α} :
      second.Perm ordered → List.Forall₂ added first ordered → Regrown kept added [] first second
  | place {before a b : α} {start first second : List α} :
      kept before a b → Regrown kept added start first second →
        Regrown kept added (before :: start) (a :: first) (b :: second)

section Lookup

variable {α : Type} {name : α → String} {added : α → α → Prop}

/-- Taking the first element of a name out of a list of distinct names makes that name
unknown and leaves the others as they are. -/
theorem find?_append_of_nodup {b : α} {before after : List α}
    (distinct : ((before ++ b :: after).map name).Nodup) (key : String) :
    (before ++ after).find? (name · = key) =
      if name b = key then none else (before ++ b :: after).find? (name · = key) := by
  split
  next same =>
    subst same
    have others : ((b :: (before ++ after)).map name).Nodup :=
      (List.perm_middle.map name).nodup_iff.mp distinct
    have unnamed : name b ∉ (before ++ after).map name := (List.nodup_cons.mp others).1
    rw [List.find?_eq_none]
    intro a member named
    exact unnamed (List.mem_map.mpr ⟨a, member, of_decide_eq_true named⟩)
  next other => simp [List.find?_append, other]

/-- Lists of distinct names in which the same is found differ only in their order. -/
theorem exists_perm_of_find? (sameName : ∀ a b, added a b → name a = name b)
    {first second : List α} (distinctFirst : (first.map name).Nodup)
    (distinctSecond : (second.map name).Nodup)
    (same : ∀ key, Option.Rel added (first.find? (name · = key)) (second.find? (name · = key))) :
    ∃ ordered, second.Perm ordered ∧ List.Forall₂ added first ordered := by
  induction first generalizing second with
  | nil =>
      cases second with
      | nil => exact ⟨[], .refl [], .nil⟩
      | cons b rest => simpa using same (name b)
  | cons a rest ih =>
      have found := same (name a)
      simp only [List.find?_cons, decide_true] at found
      cases partner : second.find? (name · = name a) with
      | none =>
          rw [partner] at found
          cases found
      | some b =>
          rw [partner] at found
          obtain ⟨alike⟩ := found
          obtain ⟨_, before, after, rfl, _⟩ := List.find?_eq_some_iff_append.mp partner
          have distinctRest : ((before ++ after).map name).Nodup :=
            ((List.perm_middle.map name).nodup_iff.mp distinctSecond).of_cons
          have sameRest (key : String) : Option.Rel added (rest.find? (name · = key))
              ((before ++ after).find? (name · = key)) := by
            have lookup : ([] ++ rest).find? (name · = key) = _ :=
              find?_append_of_nodup distinctFirst key
            rw [List.nil_append, List.nil_append] at lookup
            rw [lookup, find?_append_of_nodup distinctSecond, sameName a b alike]
            split
            · exact .none
            · exact same key
          obtain ⟨ordered, reordered, related⟩ := ih distinctFirst.of_cons distinctRest sameRest
          exact ⟨b :: ordered, List.perm_middle.trans (reordered.cons b), .cons alike related⟩

end Lookup

namespace Regrown

variable {α β : Type} {kept : α → α → α → Prop} {added : α → α → Prop} {name : α → String}
  {target : β → String} {fresh : β → α} {change : β → α → α}

theorem refl (keptSelf : ∀ a, kept a a a) (start : List α) :
    Regrown kept added start start start := by
  induction start with
  | nil => exact .beyond (.refl []) .nil
  | cons a rest ih => exact .place (keptSelf a) ih

/-- Names occur equally often in both lists. -/
theorem perm_map (sameKept : ∀ before a b, kept before a b → name a = name b)
    (sameAdded : ∀ a b, added a b → name a = name b) {start first second : List α}
    (regrown : Regrown kept added start first second) :
    (first.map name).Perm (second.map name) := by
  induction regrown with
  | beyond reordered related =>
      have names := (List.forall₂_map_left_iff.mpr (List.forall₂_map_right_iff.mpr
        (related.imp sameAdded)))
      rw [List.forall₂_eq_eq_eq] at names
      rw [names]
      exact (reordered.map name).symm
  | place alike _ ih =>
      rw [List.map_cons, List.map_cons, sameKept _ _ _ alike]
      exact ih.cons _

theorem filter_filter_ne (changes : List β) (passed key : String) :
    (changes.filter (target · ≠ passed)).filter (target · = key) =
      if key = passed then [] else changes.filter (target · = key) := by
  rw [List.filter_filter]
  split
  next same =>
    apply List.filter_eq_nil_iff.mpr
    simp [same]
  next other =>
    apply List.filter_congr
    intro item _
    by_cases here : target item = key <;> simp [here, other]

/-- Two series of changes leave lists that differ in the order of what was added, when the
changes for each name do the same to what is there, and add the same where nothing is. -/
theorem changeSeries (keeps : ∀ item a, name (change item a) = name a)
    (isFresh : ∀ item, name (fresh item) = target item)
    (sameName : ∀ a b, added a b → name a = name b) (keptSelf : ∀ a, kept a a a)
    {changes others : List β}
    (keptChange : ∀ a, kept a
      ((changes.filter (target · = name a)).foldl (fun a item => change item a) a)
      ((others.filter (target · = name a)).foldl (fun a item => change item a) a))
    (addedChange : ∀ key, Option.Rel added
      (amended fresh change (changes.filter (target · = key)) none)
      (amended fresh change (others.filter (target · = key)) none))
    (start : List α) :
    Regrown kept added start (EntityGen.changeSeries name target fresh change changes start)
      (EntityGen.changeSeries name target fresh change others start) := by
  induction start generalizing changes others with
  | nil =>
      have distinct (changes : List β) :
          ((EntityGen.changeSeries name target fresh change changes []).map name).Nodup :=
        nodup_changeSeries keeps isFresh changes (by simp)
      obtain ⟨ordered, reordered, related⟩ :=
        exists_perm_of_find? sameName (distinct changes) (distinct others) fun key => by
          rw [find?_changeSeries keeps isFresh, find?_changeSeries keeps isFresh]
          exact addedChange key
      exact .beyond reordered related
  | cons a rest ih =>
      rw [changeSeries_cons keeps, changeSeries_cons keeps]
      apply Regrown.place (keptChange a)
      apply ih
      · intro b
        rw [filter_filter_ne, filter_filter_ne]
        split
        · exact keptSelf b
        · exact keptChange b
      · intro key
        rw [filter_filter_ne, filter_filter_ne]
        split
        · exact .none
        · exact addedChange key

end Regrown

end EntityGen
