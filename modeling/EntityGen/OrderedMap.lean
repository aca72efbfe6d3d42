/-!
# Maps that remember insertion order

An ordered map holds a value for each of its keys, in the order in which the
keys were first stored.  Storing a value under a key that is present replaces
the value and keeps the place.
-/

namespace EntityGen

universe u

/-- Values stored under distinct keys, in the order the keys first came. -/
structure OrderedMap (β : Type u) where
  /-- The keys with their values, in order. -/
  entries : List (String × β)
  /-- No key repeats. -/
  distinct : (entries.map Prod.fst).Nodup
  deriving DecidableEq

namespace OrderedMap

variable {β : Type u}

@[ext] theorem ext {m n : OrderedMap β} (h : m.entries = n.entries) : m = n := by
  cases m; cases n; simp_all

/-- The map without entries. -/
def empty : OrderedMap β := ⟨[], .nil⟩

instance : EmptyCollection (OrderedMap β) := ⟨empty⟩
instance : Inhabited (OrderedMap β) := ⟨empty⟩

@[simp] theorem entries_empty : (∅ : OrderedMap β).entries = [] := rfl

/-- Whether there is no entry. -/
def isEmpty (m : OrderedMap β) : Bool := m.entries.isEmpty

/-- The keys, in order. -/
def keys (m : OrderedMap β) : List String := m.entries.map Prod.fst

/-- The value stored under a key. -/
def get? (m : OrderedMap β) (key : String) : Option β := m.entries.lookup key

/-- Store a value among entries: at the place of its key, else at the end. -/
def put (key : String) (value : β) : List (String × β) → List (String × β)
  | [] => [(key, value)]
  | (other, held) :: rest =>
    if other = key then (key, value) :: rest else (other, held) :: put key value rest

theorem keys_put (key : String) (value : β) (entries : List (String × β)) :
    (put key value entries).map Prod.fst =
      if key ∈ entries.map Prod.fst then entries.map Prod.fst
      else entries.map Prod.fst ++ [key] := by
  induction entries with
  | nil => simp [put]
  | cons entry rest ih =>
    obtain ⟨other, held⟩ := entry
    unfold put
    by_cases same : other = key
    · simp [same]
    · by_cases member : key ∈ rest.map Prod.fst <;>
        simp_all [Ne.symm same]

theorem put_distinct (key : String) (value : β) {entries : List (String × β)}
    (h : (entries.map Prod.fst).Nodup) : ((put key value entries).map Prod.fst).Nodup := by
  rw [keys_put]
  split
  · exact h
  · rename_i fresh
    exact List.nodup_append.2 ⟨h, by simp, fun a member b single => by
      rintro rfl
      exact fresh (List.mem_singleton.1 single ▸ member)⟩

theorem lookup_put (key : String) (value : β) (entries : List (String × β)) (k : String) :
    (put key value entries).lookup k = if k = key then some value else entries.lookup k := by
  induction entries with
  | nil => by_cases h : k = key <;> simp [put, h]
  | cons entry rest ih =>
    obtain ⟨other, held⟩ := entry
    unfold put
    by_cases same : other = key <;> by_cases h : k = other <;> grind

/-- Store a value under a key. -/
def insert (m : OrderedMap β) (key : String) (value : β) : OrderedMap β :=
  ⟨put key value m.entries, put_distinct key value m.distinct⟩

@[simp] theorem entries_insert (m : OrderedMap β) (key : String) (value : β) :
    (m.insert key value).entries = put key value m.entries := rfl

@[simp] theorem get?_insert (m : OrderedMap β) (key : String) (value : β) (k : String) :
    (m.insert key value).get? k = if k = key then some value else m.get? k :=
  lookup_put key value m.entries k

/-- Store values one after the other. -/
def insertAll (m : OrderedMap β) (entries : List (String × β)) : OrderedMap β :=
  entries.foldl (fun map entry => map.insert entry.1 entry.2) m

/-- Lay one map over another: its values win, and keys that both have keep
their place. -/
def overlay (m n : OrderedMap β) : OrderedMap β := m.insertAll n.entries

/-- The map of a list of entries: of one key, the last value stays, at the place
of the first. -/
def ofList (entries : List (String × β)) : OrderedMap β := insertAll ∅ entries

end OrderedMap

end EntityGen
