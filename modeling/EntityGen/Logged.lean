import EntityGen.Event

/-!
# Computations that report events

A logged computation is a value together with the events reported on the way, in
order.  A fallible one may also end in an error; the events before the error stay
reported.

The value of a sequence of computations is the sequence of their values
(`value_bind`, `outcome_bind`, `outcome_mapM`): reports never influence a result.
-/

namespace EntityGen

/-- A value and the events reported while it was computed. -/
structure Logged (α : Type) where
  value : α
  events : List Event
  deriving DecidableEq

namespace Logged

variable {α β : Type}

instance : Monad Logged where
  pure value := ⟨value, []⟩
  bind computation next :=
    let following := next computation.value
    ⟨following.value, computation.events ++ following.events⟩

@[simp] theorem value_pure (a : α) : (pure a : Logged α).value = a := rfl

@[simp] theorem events_pure (a : α) : (pure a : Logged α).events = [] := rfl

@[simp] theorem value_bind (x : Logged α) (f : α → Logged β) :
    (x >>= f).value = (f x.value).value := rfl

@[simp] theorem events_bind (x : Logged α) (f : α → Logged β) :
    (x >>= f).events = x.events ++ (f x.value).events := rfl

instance : LawfulMonad Logged := LawfulMonad.mk' Logged
  (fun x => by cases x; simp [Functor.map])
  (fun _ _ => by simp [bind])
  (fun x _ _ => by simp [bind])

theorem value_foldlM (f : β → α → Logged β) (b : β) (list : List α) :
    (list.foldlM f b).value = list.foldl (fun b a => (f b a).value) b := by
  induction list generalizing b with
  | nil => rfl
  | cons a rest ih => simp [List.foldlM_cons, ih]

/-- Report an event. -/
def report (event : Event) : Logged Unit := ⟨(), [event]⟩

end Logged

/-- A logged computation that may end in an error. -/
abbrev Fallible (α : Type) := ExceptT GenerationError Logged α

namespace Fallible

variable {α β : Type}

/-- The result of a fallible computation, without its events. -/
def outcome (computation : Fallible α) : Except GenerationError α :=
  (ExceptT.run computation).value

/-- The events of a fallible computation. -/
def events (computation : Fallible α) : List Event := (ExceptT.run computation).events

/-- A result without events. -/
def ofExcept (result : Except GenerationError α) : Fallible α := ExceptT.mk (pure result)

@[simp] theorem outcome_pure (a : α) : outcome (pure a) = .ok a := rfl

@[simp] theorem outcome_ofExcept (result : Except GenerationError α) :
    outcome (ofExcept result) = result := rfl

@[simp] theorem outcome_bind (x : Fallible α) (f : α → Fallible β) :
    outcome (x >>= f) = outcome x >>= fun a => outcome (f a) := by
  simp only [outcome, ExceptT.run, bind, ExceptT.bind, ExceptT.mk, ExceptT.bindCont, Except.bind]
  split <;> simp_all

@[simp] theorem outcome_lift (x : Logged α) : outcome (ExceptT.lift x) = .ok x.value := rfl

@[simp] theorem outcome_throw (error : GenerationError) :
    outcome (throw error : Fallible α) = .error error := rfl

@[simp] theorem outcome_map (f : α → β) (x : Fallible α) :
    outcome (f <$> x) = f <$> outcome x := by
  rw [map_eq_pure_bind, outcome_bind]
  cases h : outcome x <;> rfl

theorem outcome_mapM (f : α → Fallible β) (list : List α) :
    outcome (list.mapM f) = list.mapM fun a => outcome (f a) := by
  induction list with
  | nil => rfl
  | cons a rest ih => simp [List.mapM_cons, ih]

end Fallible

end EntityGen
