import EntityGen.Logged
import EntityGen.Table.Lemmas
import Mathlib.Data.List.Forall2
import Mathlib.Data.List.Perm.Basic

/-!
# Results of computations in sequence

A sequence of computations ends well exactly when each of them does
(`Fallible.outcome_bind_eq_ok`), and the results of a list of computations belong to
the elements of the list one by one (`mapM_eq_ok_iff`, `mem_of_mapM`, `exists_of_mapM`).
Where the elements are the entries of a table and each result is put under the key of its
entry, it is found under that key (`Table.lookup_of_mapM`).  What is looked up step by step in two
places is related when each step is (`rel_bind`).  The events of a sequence that ends well
are those of its parts, one after the other (`Fallible.events_mapM_of_ok`).

When exactly a computation ends in an error, and that the error is one after which nothing
goes on, is told by `RefusedWhen`.  It is passed on by every way to put computations in
sequence: a sequence is refused when a part of it is.
-/

namespace EntityGen

variable {ε α β : Type}

theorem bind_eq_ok {x : Except ε α} {f : α → Except ε β} {b : β} :
    x >>= f = .ok b ↔ ∃ a, x = .ok a ∧ f a = .ok b := by
  constructor
  · intro ended
    cases x with
    | error error => cases ended
    | ok a => exact ⟨a, rfl, ended⟩
  · rintro ⟨a, rfl, ended⟩
    exact ended

theorem eq_ok_of_toOption {x : Except ε α} {a : α} (found : x.toOption = some a) : x = .ok a := by
  cases x with
  | error error => cases found
  | ok result =>
      cases found
      rfl

theorem map_eq_ok {x : Except ε α} {f : α → β} {b : β} :
    x.map f = .ok b ↔ ∃ a, x = .ok a ∧ f a = b := by
  cases x <;> simp [Except.map]

theorem rel_or {related : α → β → Prop} {x x' : Option α} {y y' : Option β}
    (first : Option.Rel related x y) (second : Option.Rel related x' y') :
    Option.Rel related (x.or x') (y.or y') := by
  cases first with
  | none => exact second
  | some relates => exact .some relates

/-- What is found from related things is related. -/
theorem rel_bind {γ δ : Type} {related : α → β → Prop} {allowed : γ → δ → Prop} {x : Option α}
    {y : Option β} {f : α → Option γ} {g : β → Option δ} (found : Option.Rel related x y)
    (following : ∀ a ∈ x, ∀ b, related a b → Option.Rel allowed (f a) (g b)) :
    Option.Rel allowed (x.bind f) (y.bind g) := by
  cases found with
  | none => exact .none
  | some relates => exact following _ rfl _ relates

theorem mapM_cons_eq_ok {f : α → Except ε β} {a : α} {rest : List α} {results : List β} :
    (a :: rest).mapM f = .ok results ↔
      ∃ b following, f a = .ok b ∧ rest.mapM f = .ok following ∧ results = b :: following := by
  rw [List.mapM_cons, bind_eq_ok]
  constructor
  · rintro ⟨b, head, ended⟩
    obtain ⟨following, tail, collected⟩ := bind_eq_ok.mp ended
    cases collected
    exact ⟨b, following, head, tail, rfl⟩
  · rintro ⟨b, following, head, tail, rfl⟩
    exact ⟨b, head, bind_eq_ok.mpr ⟨following, tail, rfl⟩⟩

/-- A list of computations ends well exactly when each of them has its result. -/
theorem mapM_eq_ok_iff {f : α → Except ε β} {elements : List α} {results : List β} :
    elements.mapM f = .ok results ↔ List.Forall₂ (fun a b => f a = .ok b) elements results := by
  induction elements generalizing results with
  | nil =>
      rw [List.forall₂_nil_left_iff, List.mapM_nil]
      exact ⟨fun ended => (Except.ok.inj ended).symm, fun same => congrArg Except.ok same.symm⟩
  | cons a rest ih =>
      rw [mapM_cons_eq_ok, List.forall₂_cons_left_iff]
      simp only [ih]

/-- Every result belongs to an element of the list. -/
theorem mem_of_mapM {f : α → Except ε β} {elements : List α} {results : List β}
    (ended : elements.mapM f = .ok results) {b : β} (member : b ∈ results) :
    ∃ a ∈ elements, f a = .ok b := by
  induction elements generalizing results with
  | nil =>
      cases ended
      cases member
  | cons a rest ih =>
      obtain ⟨first, following, head, tail, rfl⟩ := mapM_cons_eq_ok.mp ended
      rcases List.mem_cons.mp member with rfl | later
      · exact ⟨a, List.mem_cons_self, head⟩
      · obtain ⟨element, memberRest, result⟩ := ih tail later
        exact ⟨element, List.mem_cons_of_mem a memberRest, result⟩

/-- Every element of the list has a result. -/
theorem exists_of_mapM {f : α → Except ε β} {elements : List α} {results : List β}
    (ended : elements.mapM f = .ok results) {a : α} (member : a ∈ elements) :
    ∃ b ∈ results, f a = .ok b := by
  induction elements generalizing results with
  | nil => cases member
  | cons first rest ih =>
      obtain ⟨b, following, head, tail, rfl⟩ := mapM_cons_eq_ok.mp ended
      rcases List.mem_cons.mp member with rfl | later
      · exact ⟨b, List.mem_cons_self, head⟩
      · obtain ⟨result, memberFollowing, found⟩ := ih tail later
        exact ⟨result, List.mem_cons_of_mem b memberFollowing, found⟩

/-- Computations that agree on the elements of a list have the same results in sequence. -/
theorem mapM_congr_left {m : Type → Type} [Monad m] [LawfulMonad m] {f g : α → m β}
    {elements : List α} (same : ∀ a ∈ elements, f a = g a) : elements.mapM f = elements.mapM g := by
  induction elements with
  | nil => rfl
  | cons a rest ih =>
      rw [List.mapM_cons, List.mapM_cons, same a List.mem_cons_self,
        ih fun later member => same later (List.mem_cons_of_mem a member)]

/-- Where other computations succeed as well, with results related to the first ones, they do so
in sequence. -/
theorem exists_mapM_of_mapM {γ : Type} {related : γ → β → Prop} {f : α → Except ε β}
    {g : α → Except ε γ} {elements : List α} {results : List β}
    (ended : elements.mapM f = .ok results)
    (each : ∀ a b, f a = .ok b → ∃ c, g a = .ok c ∧ related c b) :
    ∃ others, elements.mapM g = .ok others ∧ List.Forall₂ related others results := by
  induction elements generalizing results with
  | nil =>
      cases ended
      exact ⟨[], rfl, .nil⟩
  | cons a rest ih =>
      obtain ⟨b, following, head, tail, rfl⟩ := mapM_cons_eq_ok.mp ended
      obtain ⟨c, found, relatedHead⟩ := each a b head
      obtain ⟨others, collected, relatedTail⟩ := ih tail
      exact ⟨c :: others, mapM_cons_eq_ok.mpr ⟨c, others, found, collected, rfl⟩,
        .cons relatedHead relatedTail⟩

/-- Computations that each succeed do so in sequence. -/
theorem exists_mapM_of_forall {related : α → β → Prop} {f : α → Except ε β} {elements : List α}
    (each : ∀ a ∈ elements, ∃ b, f a = .ok b ∧ related a b) :
    ∃ results, elements.mapM f = .ok results ∧ List.Forall₂ related elements results := by
  induction elements with
  | nil => exact ⟨[], rfl, .nil⟩
  | cons a rest ih =>
      obtain ⟨b, found, relatedHead⟩ := each a List.mem_cons_self
      obtain ⟨results, collected, relatedTail⟩ :=
        ih fun later member => each later (List.mem_cons_of_mem a member)
      exact ⟨b :: results, mapM_cons_eq_ok.mpr ⟨b, results, found, collected, rfl⟩,
        .cons relatedHead relatedTail⟩

/-- Computations in another order have the same results in another order. -/
theorem exists_mapM_of_perm {f : α → Except ε β} {elements others : List α} {results : List β}
    (reordered : elements.Perm others) (ended : elements.mapM f = .ok results) :
    ∃ following, others.mapM f = .ok following ∧ results.Perm following := by
  obtain ⟨following, each, permuted⟩ :=
    List.perm_comp_forall₂ reordered.symm (mapM_eq_ok_iff.mp ended)
  exact ⟨following, mapM_eq_ok_iff.mpr each, permuted.symm⟩

theorem Fallible.outcome_bind_eq_ok {x : Fallible α} {f : α → Fallible β} {b : β} :
    outcome (x >>= f) = .ok b ↔ ∃ a, outcome x = .ok a ∧ outcome (f a) = .ok b := by
  rw [outcome_bind, bind_eq_ok]

/-! ## Events -/

namespace Fallible

@[simp] theorem events_pure (a : α) : events (pure a) = [] := rfl

@[simp] theorem events_lift (x : Logged α) : events (ExceptT.lift x) = x.events :=
  List.append_nil x.events

@[simp] theorem events_ofExcept (result : Except GenerationError α) :
    events (ofExcept result) = [] := rfl

/-- What follows a computation that has ended well adds its events. -/
theorem events_bind_of_ok {x : Fallible α} {f : α → Fallible β} {a : α}
    (ended : outcome x = .ok a) : events (x >>= f) = events x ++ events (f a) := by
  have started : events (x >>= f) =
      events x ++ Logged.events (ExceptT.bindCont f (outcome x)) := rfl
  rw [started, ended]
  rfl

/-- What is made of a result adds no events. -/
theorem events_bind_pure (x : Fallible α) (f : α → β) :
    events (x >>= fun a => pure (f a)) = events x := by
  have started : events (x >>= fun a => pure (f a)) =
      events x ++ Logged.events (ExceptT.bindCont (fun a => pure (f a)) (outcome x)) := rfl
  rw [started]
  cases outcome x <;> exact List.append_nil (events x)

theorem events_mapM_of_ok {f : α → Fallible β} {elements : List α} {results : List β}
    (ended : outcome (elements.mapM f) = .ok results) :
    events (elements.mapM f) = elements.flatMap fun a => events (f a) := by
  induction elements generalizing results with
  | nil => rfl
  | cons a rest ih =>
      rw [List.mapM_cons, outcome_bind_eq_ok] at ended
      obtain ⟨b, head, following⟩ := ended
      obtain ⟨others, tail, _⟩ := outcome_bind_eq_ok.mp following
      rw [List.mapM_cons, events_bind_of_ok head, events_bind_of_ok tail, ih tail,
        List.flatMap_cons, events_pure, List.append_nil]

end Fallible

/-! ## Results under keys -/

theorem mem_of_lookup {κ : Type} [BEq κ] [LawfulBEq κ] {key : κ} {value : β}
    {entries : List (κ × β)} (found : entries.lookup key = some value) :
    (key, value) ∈ entries := by
  obtain ⟨before, after, split, _⟩ := List.lookup_eq_some_iff.mp found
  rw [split]
  exact List.mem_append_right before List.mem_cons_self

namespace Table

variable {κ : Type} [Keyed α κ] [Ord κ] [Std.TransOrd κ] [BEq κ] [LawfulBEq κ] {t : Table α}
  {f : α → Except ε (κ × β)} {results : List (κ × β)}

/-- A result under the key of an entry is the one of that entry. -/
theorem lookup_of_mapM (ended : t.toList.mapM f = .ok results)
    (keyed : ∀ a b, f a = .ok b → b.1 = Keyed.key a) {a : α} (member : a ∈ t.toList) :
    ∃ value, f a = .ok (Keyed.key a, value) ∧ results.lookup (Keyed.key a) = some value := by
  obtain ⟨entry, memberResults, result⟩ := exists_of_mapM ended member
  have present : (results.lookup (Keyed.key a)).isSome := by
    rw [List.lookup_isSome_iff]
    exact ⟨entry, memberResults, beq_iff_eq.mpr (keyed a entry result).symm⟩
  obtain ⟨value, lookup⟩ := Option.isSome_iff_exists.mp present
  obtain ⟨other, memberOther, found⟩ := mem_of_mapM ended (mem_of_lookup lookup)
  -- The one that is found belongs to an entry of this key, and there is only one.
  rw [t.eq_of_key_eq memberOther member (keyed other _ found).symm] at found
  exact ⟨value, found, lookup⟩

/-- All results, by what is found under the keys. -/
theorem eq_map_lookup_of_mapM (ended : t.toList.mapM f = .ok results)
    (keyed : ∀ a b, f a = .ok b → b.1 = Keyed.key a) (fallback : β) :
    results = t.toList.map fun a =>
      (Keyed.key a, (results.lookup (Keyed.key a)).getD fallback) := by
  have each : ∀ a ∈ t.toList, f a =
      pure (Keyed.key a, (results.lookup (Keyed.key a)).getD fallback) := by
    intro a member
    obtain ⟨value, found, lookup⟩ := lookup_of_mapM ended keyed member
    rw [found, lookup]
    rfl
  rw [mapM_congr_left each, List.mapM_pure] at ended
  exact (Except.ok.inj ended).symm

end Table

/-! ## Refusals -/

/-- A computation ends in an error exactly when a flaw is there, and the error is none that
concerns one property only. -/
structure RefusedWhen (flaw : Prop) (x : Except GenerationError α) : Prop where
  iff : (∃ error, x = .error error) ↔ flaw
  final : ∀ error, x = .error error → error.isRecoverable = false

namespace RefusedWhen

variable {flaw other : Prop} {x : Except GenerationError α}

theorem congr (refused : RefusedWhen flaw x) (same : flaw ↔ other) : RefusedWhen other x where
  iff := refused.iff.trans same
  final := refused.final

theorem ok (a : α) : RefusedWhen False (.ok a : Except GenerationError α) where
  iff := by simp
  final := by simp

theorem error {error : GenerationError} (final : error.isRecoverable = false) :
    RefusedWhen True (.error error : Except GenerationError α) where
  iff := by simp
  final := by
    rintro _ ⟨⟩
    exact final

/-- What follows a computation has flaws of its own. -/
theorem bind {f : α → Except GenerationError β} (first : RefusedWhen flaw x)
    (following : ∀ a, x = .ok a → RefusedWhen other (f a)) :
    RefusedWhen (flaw ∨ other) (x >>= f) := by
  cases x with
  | error error =>
      have flawed : flaw := first.iff.mp ⟨error, rfl⟩
      exact (RefusedWhen.error (first.final error rfl)).congr (by simp [flawed])
  | ok a =>
      have sound : ¬flaw := fun flawed => by simpa using first.iff.mpr flawed
      exact (following a rfl).congr (by simp [sound])

theorem map (refused : RefusedWhen flaw x) (f : α → β) : RefusedWhen flaw (x.map f) := by
  cases x with
  | error error =>
      exact (RefusedWhen.error (refused.final error rfl)).congr (by simp [← refused.iff])
  | ok a => exact (RefusedWhen.ok (f a)).congr (by simp [← refused.iff])

/-- A list of computations is refused when one of them is. -/
theorem mapM {flaw : α → Prop} {f : α → Except GenerationError β} {elements : List α}
    (each : ∀ a ∈ elements, RefusedWhen (flaw a) (f a)) :
    RefusedWhen (∃ a ∈ elements, flaw a) (elements.mapM f) := by
  induction elements with
  | nil => exact (RefusedWhen.ok []).congr (by simp)
  | cons a rest ih =>
      rw [List.mapM_cons]
      have tail := ih fun later member => each later (List.mem_cons_of_mem a member)
      have collected := (each a List.mem_cons_self).bind fun b _ =>
        tail.bind fun following _ => RefusedWhen.ok (b :: following)
      exact collected.congr (by simp)

theorem foldlM {flaw : α → Prop} {f : β → α → Except GenerationError β}
    (each : ∀ b a, RefusedWhen (flaw a) (f b a)) (b : β) (elements : List α) :
    RefusedWhen (∃ a ∈ elements, flaw a) (elements.foldlM f b) := by
  induction elements generalizing b with
  | nil => exact (RefusedWhen.ok b).congr (by simp)
  | cons a rest ih =>
      rw [List.foldlM_cons]
      exact ((each b a).bind fun next _ => ih next).congr (by simp)

end RefusedWhen

end EntityGen
