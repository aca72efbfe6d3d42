import EntityGen.OrderedMap
import EntityGen.Table.Lemmas
import Mathlib.Data.List.Basic

/-!
# Storing again

What tables and ordered maps keep when the same entries are stored a second time.
A table is known by what is found in it (`Table.eq_of_get?`), so storing an entry
that is there, or all entries of a list again, has no effect.  The same holds of
maps that remember the order, where a value is also put back at its own place
(`OrderedMap.overlay_overlay`).  A map laid over another one is known key by key
(`OrderedMap.get?_overlay`, `OrderedMap.keys_overlay`), and so entry by entry
(`OrderedMap.entries_overlay`).
-/

namespace EntityGen

universe u v

namespace Table

variable {α : Type u} {κ : Type v} [Keyed α κ] [Ord κ] [Std.TransOrd κ] [Std.LawfulEqOrd κ]

omit [Std.LawfulEqOrd κ] in
theorem nodup_toList (t : Table α) : t.toList.Nodup := by
  apply t.sorted.imp
  rintro a b less rfl
  exact key_ne_of_lt less rfl

omit [Std.LawfulEqOrd κ] in
theorem nodup_keys (t : Table α) : t.keys.Nodup := by
  rw [keys, List.nodup_iff_pairwise_ne, List.pairwise_map]
  exact t.sorted.imp fun less => key_ne_of_lt less

theorem get?_key_of_mem {t : Table α} {a : α} (member : a ∈ t.toList) :
    t.get? (Keyed.key a) = some a :=
  t.get?_eq_some_iff.mpr ⟨member, rfl⟩

omit [Std.TransOrd κ] [Std.LawfulEqOrd κ] in
theorem contains_of_get? {t : Table α} {k : κ} {a : α} (found : t.get? k = some a) :
    t.contains k := by
  rw [contains, found, Option.isSome]

theorem contains_iff_mem_keys {t : Table α} {k : κ} : t.contains k ↔ k ∈ t.keys := by
  rw [contains, Option.isSome_iff_exists, keys, List.mem_map]
  exact exists_congr fun a => t.get?_eq_some_iff

omit [Std.LawfulEqOrd κ] in
/-- Tables of the same entries are equal. -/
theorem eq_of_mem_iff {t u : Table α} (members : ∀ a, a ∈ t.toList ↔ a ∈ u.toList) : t = u := by
  apply Table.ext
  apply List.Perm.eq_of_pairwise _ t.sorted u.sorted
  · exact (List.perm_ext_iff_of_nodup t.nodup_toList u.nodup_toList).mpr members
  · intro a b _ _ less greater
    exact absurd rfl (key_ne_of_lt (Std.TransCmp.lt_trans less greater))

/-- Tables in which the same is found are equal. -/
theorem eq_of_get? {t u : Table α} (same : ∀ k, t.get? k = u.get? k) : t = u := by
  apply eq_of_mem_iff
  intro a
  constructor
  · intro member
    have found := get?_key_of_mem member
    rw [same] at found
    exact (u.get?_eq_some_iff.mp found).1
  · intro member
    have found := get?_key_of_mem member
    rw [← same] at found
    exact (t.get?_eq_some_iff.mp found).1

theorem get?_insert [DecidableEq κ] (t : Table α) (a : α) (k : κ) :
    (t.insert a).get? k = if Keyed.key a = k then some a else t.get? k := by
  split
  next same =>
    rw [← same]
    exact t.get?_insert_self a
  next other => exact t.get?_insert_of_ne other

theorem mem_keys_insert [DecidableEq κ] (t : Table α) (a : α) {k : κ} :
    k ∈ (t.insert a).keys ↔ k ∈ t.keys ∨ k = Keyed.key a := by
  rw [← contains_iff_mem_keys, ← contains_iff_mem_keys, contains, contains, get?_insert]
  by_cases same : Keyed.key a = k
  · simp [same]
  · simp [same, Ne.symm same]

omit [Std.TransOrd κ] [Std.LawfulEqOrd κ] in
theorem contains_map (t : Table α) (f : α → α) (same : ∀ a, Keyed.key (f a) = Keyed.key a)
    (k : κ) : (t.map f same).contains k = t.contains k := by
  rw [contains, get?_map, Option.isSome_map, contains]

omit [Std.TransOrd κ] [Std.LawfulEqOrd κ] in
theorem keys_map (t : Table α) (f : α → α) (same : ∀ a, Keyed.key (f a) = Keyed.key a) :
    (t.map f same).keys = t.keys := by
  rw [keys, toList_map, List.map_map]
  exact List.map_congr_left fun a _ => same a

variable [DecidableEq κ]

/-- The entry stored last is the one that stays. -/
theorem insert_insert {a b : α} (same : Keyed.key a = Keyed.key b) (t : Table α) :
    (t.insert a).insert b = t.insert b := by
  apply eq_of_get?
  intro k
  rw [get?_insert, get?_insert, get?_insert, same]
  split <;> rfl

theorem insert_eq_self {t : Table α} {a : α} (found : t.get? (Keyed.key a) = some a) :
    t.insert a = t := by
  apply eq_of_get?
  intro k
  rw [get?_insert]
  split
  next same => rw [← same, found]
  next => rfl

/-- Entries of different keys can be stored in either order. -/
theorem insert_comm {a b : α} (different : Keyed.key a ≠ Keyed.key b) (t : Table α) :
    (t.insert a).insert b = (t.insert b).insert a := by
  apply eq_of_get?
  intro k
  rw [get?_insert, get?_insert, get?_insert, get?_insert]
  by_cases isFirst : Keyed.key a = k
  · subst isFirst
    rw [if_pos rfl, if_pos rfl, if_neg (Ne.symm different)]
  · rw [if_neg isFirst, if_neg isFirst]

theorem map_insert (t : Table α) (a : α) (f : α → α)
    (same : ∀ a, Keyed.key (f a) = Keyed.key a) :
    (t.insert a).map f same = (t.map f same).insert (f a) := by
  apply eq_of_get?
  intro k
  rw [get?_map, get?_insert, get?_insert, get?_map, same]
  split <;> rfl

omit [Std.TransOrd κ] [Std.LawfulEqOrd κ] [DecidableEq κ] in
theorem map_map_eq (t : Table α) {f g : α → α} (same : ∀ a, Keyed.key (f a) = Keyed.key a)
    (sameAgain : ∀ a, Keyed.key (g a) = Keyed.key a) (equal : ∀ a ∈ t.toList, g (f a) = f a) :
    (t.map f same).map g sameAgain = t.map f same := by
  apply Table.ext
  simp only [toList_map, List.map_map]
  exact List.map_congr_left equal

omit [DecidableEq κ] in
theorem insertAll_cons (t : Table α) (a : α) (rest : List α) :
    t.insertAll (a :: rest) = (t.insert a).insertAll rest := rfl

/-- Of the entries of a list, the last of a key is found; else what was there. -/
theorem get?_insertAll (t : Table α) (entries : List α) (k : κ) :
    (t.insertAll entries).get? k =
      (entries.reverse.find? fun a => Keyed.key a = k).or (t.get? k) := by
  induction entries generalizing t with
  | nil => rfl
  | cons a rest ih =>
      rw [insertAll_cons, ih, get?_insert, List.reverse_cons, List.find?_append, Option.or_assoc]
      by_cases same : Keyed.key a = k
      · simp [same]
      · simp [same]

omit [DecidableEq κ] in
/-- Where the key tells the whole entry, storing entries removes none. -/
theorem mem_insertAll_iff (tells : ∀ a b : α, Keyed.key a = Keyed.key b → a = b) (t : Table α)
    (entries : List α) {x : α} :
    x ∈ (t.insertAll entries).toList ↔ x ∈ entries ∨ x ∈ t.toList := by
  induction entries generalizing t with
  | nil => simp [insertAll]
  | cons a rest ih =>
      rw [insertAll_cons, ih, mem_insert_iff, List.mem_cons]
      by_cases same : x = a
      · simp [same]
      · simp [same, mt (tells x a) same]

theorem insertAll_insertAll (t : Table α) (entries : List α) :
    (t.insertAll entries).insertAll entries = t.insertAll entries := by
  apply eq_of_get?
  intro k
  rw [get?_insertAll, get?_insertAll, ← Option.or_assoc, Option.or_self]

end Table

namespace OrderedMap

variable {β : Type u}

theorem lookup_eq_none_of_notMem_keys {key : String} {entries : List (String × β)}
    (fresh : key ∉ entries.map Prod.fst) : entries.lookup key = none := by
  rw [List.lookup_eq_none_iff]
  intro entry member
  rw [bne_iff_ne]
  intro same
  exact fresh (List.mem_map.mpr ⟨entry, member, same.symm⟩)

theorem put_eq_self {key : String} {value : β} {entries : List (String × β)}
    (found : entries.lookup key = some value) : put key value entries = entries := by
  induction entries with
  | nil => cases found
  | cons entry rest ih =>
      obtain ⟨other, held⟩ := entry
      by_cases same : other = key
      · subst same
        rw [List.lookup_cons_self, Option.some_inj] at found
        rw [put, if_pos rfl, found]
      · rw [List.lookup_cons, beq_false_of_ne (Ne.symm same)] at found
        rw [put, if_neg same, ih found]

theorem insert_eq_self {map : OrderedMap β} {key : String} {value : β}
    (found : map.get? key = some value) : map.insert key value = map :=
  OrderedMap.ext (put_eq_self found)

theorem insertAll_cons (map : OrderedMap β) (entry : String × β) (rest : List (String × β)) :
    map.insertAll (entry :: rest) = (map.insert entry.1 entry.2).insertAll rest := rfl

theorem insertAll_eq_self {map : OrderedMap β} {entries : List (String × β)}
    (found : ∀ entry ∈ entries, map.get? entry.1 = some entry.2) :
    map.insertAll entries = map := by
  induction entries with
  | nil => rfl
  | cons entry rest ih =>
      rw [insertAll_cons, insert_eq_self (found entry List.mem_cons_self)]
      exact ih fun later member => found later (List.mem_cons_of_mem entry member)

/-- Of entries of different keys, each is found after they are stored. -/
theorem get?_insertAll (map : OrderedMap β) {entries : List (String × β)}
    (distinct : (entries.map Prod.fst).Nodup) (key : String) :
    (map.insertAll entries).get? key = (entries.lookup key).or (map.get? key) := by
  induction entries generalizing map with
  | nil => rfl
  | cons entry rest ih =>
      obtain ⟨fresh, distinctRest⟩ := List.nodup_cons.mp distinct
      obtain ⟨other, held⟩ := entry
      rw [insertAll_cons, ih _ distinctRest, get?_insert]
      by_cases same : key = other
      · rw [same, lookup_eq_none_of_notMem_keys fresh, if_pos rfl, List.lookup_cons_self]
        rfl
      · rw [if_neg same, List.lookup_cons, beq_false_of_ne same]

/-- New keys follow those that are there, which keep their places. -/
theorem keys_insertAll (map : OrderedMap β) {entries : List (String × β)}
    (distinct : (entries.map Prod.fst).Nodup) :
    (map.insertAll entries).keys =
      map.keys ++ (entries.map Prod.fst).filter (· ∉ map.keys) := by
  induction entries generalizing map with
  | nil => simp [insertAll]
  | cons entry rest ih =>
      obtain ⟨fresh, distinctRest⟩ := List.nodup_cons.mp distinct
      have stored : (map.insert entry.1 entry.2).keys =
          if entry.1 ∈ map.keys then map.keys else map.keys ++ [entry.1] :=
        keys_put entry.1 entry.2 map.entries
      rw [insertAll_cons, ih _ distinctRest, stored, List.map_cons]
      split
      next present => rw [List.filter_cons_of_neg (by simpa using present)]
      next absent =>
        rw [List.filter_cons_of_pos (by simpa using absent), List.append_assoc,
          List.singleton_append]
        congr 2
        apply List.filter_congr
        intro key member
        have different : key ≠ entry.1 := fun same => fresh (same ▸ member)
        simp [different]

theorem get?_overlay (lower upper : OrderedMap β) (key : String) :
    (lower.overlay upper).get? key = (upper.get? key).or (lower.get? key) :=
  lower.get?_insertAll upper.distinct key

theorem keys_overlay (lower upper : OrderedMap β) :
    (lower.overlay upper).keys = lower.keys ++ upper.keys.filter (· ∉ lower.keys) :=
  lower.keys_insertAll upper.distinct

theorem get?_of_mem {map : OrderedMap β} {entry : String × β} (member : entry ∈ map.entries) :
    map.get? entry.1 = some entry.2 := by
  obtain ⟨front, back, split⟩ := List.append_of_mem member
  have distinct := map.distinct
  rw [split, List.map_append, List.map_cons, List.nodup_append] at distinct
  apply List.lookup_eq_some_iff.mpr
  refine ⟨front, back, split, ?_⟩
  intro other before
  apply bne_iff_ne.mpr
  intro same
  exact distinct.2.2 other.1 (List.mem_map_of_mem before) entry.1 List.mem_cons_self same.symm

theorem get?_eq_some_iff {map : OrderedMap β} {key : String} {value : β} :
    map.get? key = some value ↔ (key, value) ∈ map.entries := by
  constructor
  · intro found
    obtain ⟨front, back, split, _⟩ := List.lookup_eq_some_iff.mp found
    rw [split]
    exact List.mem_append_right front List.mem_cons_self
  · exact fun member => get?_of_mem member

/-- What is found does not depend on the order of the entries. -/
theorem get?_eq_of_perm {map other : OrderedMap β} (reordered : map.entries.Perm other.entries)
    (key : String) : map.get? key = other.get? key := by
  ext value
  rw [get?_eq_some_iff, get?_eq_some_iff, reordered.mem_iff]

/-- A map is known by its keys and what is found under them. -/
theorem entries_eq_filterMap (map : OrderedMap β) :
    map.entries = map.keys.filterMap fun key => (map.get? key).map (key, ·) := by
  rw [keys, List.filterMap_map]
  symm
  calc map.entries.filterMap _
    _ = map.entries.filterMap some := by
        apply List.filterMap_congr
        intro entry member
        rw [Function.comp, get?_of_mem member]
        rfl
    _ = map.entries := List.filterMap_some

/-- A map laid over another one replaces values in place and puts its new entries behind. -/
theorem entries_overlay (lower upper : OrderedMap β) :
    (lower.overlay upper).entries =
      lower.entries.map (fun entry => (entry.1, (upper.get? entry.1).getD entry.2)) ++
        upper.entries.filter (·.1 ∉ lower.keys) := by
  rw [entries_eq_filterMap, keys_overlay, List.filterMap_append, keys, keys, List.filter_map,
    List.filterMap_map, List.filterMap_map]
  congr 1
  · rw [List.filterMap_eq_map_iff_forall_eq_some]
    intro entry member
    rw [Function.comp, get?_overlay, get?_of_mem member]
    cases upper.get? entry.1 <;> rfl
  · calc (upper.entries.filter _).filterMap _
      _ = (upper.entries.filter (·.1 ∉ lower.keys)).filterMap some := by
          apply List.filterMap_congr
          intro entry member
          rw [Function.comp, get?_overlay, get?_of_mem (List.mem_of_mem_filter member)]
          rfl
      _ = upper.entries.filter (·.1 ∉ lower.keys) := List.filterMap_some

/-- Entries of different keys are stored as they are. -/
theorem ofList_entries (map : OrderedMap β) : ofList map.entries = map := by
  apply OrderedMap.ext
  calc (overlay ∅ map).entries
    _ = map.entries.filter (·.1 ∉ (∅ : OrderedMap β).keys) := entries_overlay ∅ map
    _ = map.entries := List.filter_eq_self.mpr fun _ _ => by simp [keys]

/-- A map laid over another for the second time has no effect. -/
theorem overlay_overlay (lower upper : OrderedMap β) :
    (lower.overlay upper).overlay upper = lower.overlay upper := by
  apply insertAll_eq_self
  intro entry member
  rw [get?_overlay, get?_of_mem member]
  rfl

end OrderedMap

end EntityGen
