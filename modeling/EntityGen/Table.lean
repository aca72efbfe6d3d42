/-!
# Tables sorted by key

A table holds entries that carry their own key, at most one for each key, in
increasing order of the keys.  Classes, properties and constants are stored
under their names this way, and pairs under their first component.

Both promises are part of the type, so two tables with the same entries are
equal, and a table never has to be checked for a repeated or misplaced key.
-/

namespace EntityGen

universe u v w

/-- Entries that carry the key they are stored under. -/
class Keyed (α : Type u) (κ : outParam (Type v)) where
  /-- The key of an entry. -/
  key : α → κ

/-- A pair is stored under its first component. -/
instance instKeyedProd {κ : Type v} {β : Type w} : Keyed (κ × β) κ where
  key := Prod.fst

/-- Entries in strictly increasing order of their keys. -/
structure Table (α : Type u) {κ : Type v} [Keyed α κ] [Ord κ] where
  /-- The entries, in order. -/
  toList : List α
  /-- No key repeats, and every entry stands before those of larger keys. -/
  sorted : toList.Pairwise fun a b => compare (Keyed.key a) (Keyed.key b) = .lt
  deriving DecidableEq

namespace Table

variable {α : Type u} {κ : Type v} [Keyed α κ] [Ord κ]

@[ext] theorem ext {t u : Table α} (h : t.toList = u.toList) : t = u := by
  cases t; cases u; simp_all

/-- The table without entries. -/
def empty : Table α := ⟨[], .nil⟩

instance : EmptyCollection (Table α) := ⟨empty⟩
instance : Inhabited (Table α) := ⟨empty⟩

/-- The number of entries. -/
def size (t : Table α) : Nat := t.toList.length

/-- Whether there is no entry. -/
def isEmpty (t : Table α) : Bool := t.toList.isEmpty

/-- The keys, in increasing order. -/
def keys (t : Table α) : List κ := t.toList.map Keyed.key

/-- The entry stored under a key. -/
def get? (t : Table α) (k : κ) : Option α :=
  t.toList.find? fun a => compare (Keyed.key a) k = .eq

/-- Whether an entry is stored under the key. -/
def contains (t : Table α) (k : κ) : Bool := (t.get? k).isSome

/-- Put an entry at its place among sorted entries; an entry of the same key
gives way. -/
def place (a : α) : List α → List α
  | [] => [a]
  | b :: rest =>
    match compare (Keyed.key a) (Keyed.key b) with
    | .lt => a :: b :: rest
    | .eq => a :: rest
    | .gt => b :: place a rest

theorem mem_place {a x : α} {entries : List α} (h : x ∈ place a entries) :
    x = a ∨ x ∈ entries := by
  induction entries with
  | nil => simpa [place] using h
  | cons b rest ih =>
    unfold place at h
    split at h
    · simpa using h
    · rcases List.mem_cons.1 h with h | h
      · exact .inl h
      · exact .inr (List.mem_cons_of_mem _ h)
    · rcases List.mem_cons.1 h with h | h
      · exact .inr (h ▸ List.mem_cons_self)
      · exact (ih h).imp_right (List.mem_cons_of_mem _)

theorem place_sorted [Std.TransOrd κ] [Std.LawfulEqOrd κ] (a : α) {entries : List α}
    (h : entries.Pairwise fun a b => compare (Keyed.key a) (Keyed.key b) = .lt) :
    (place a entries).Pairwise fun a b => compare (Keyed.key a) (Keyed.key b) = .lt := by
  induction entries with
  | nil => simp [place]
  | cons b rest ih =>
    obtain ⟨before, sorted⟩ := List.pairwise_cons.1 h
    unfold place
    split
    · rename_i less
      refine List.pairwise_cons.2 ⟨fun x member => ?_, h⟩
      rcases List.mem_cons.1 member with rfl | member
      · exact less
      · exact Std.TransCmp.lt_trans less (before x member)
    · rename_i same
      refine List.pairwise_cons.2 ⟨fun x member => ?_, sorted⟩
      rw [Std.LawfulEqOrd.eq_of_compare same]
      exact before x member
    · rename_i greater
      refine List.pairwise_cons.2 ⟨fun x member => ?_, ih sorted⟩
      rcases mem_place member with rfl | member
      · exact Std.OrientedCmp.gt_iff_lt.1 greater
      · exact before x member

/-- Store an entry under its key, in place of the entry stored there. -/
def insert [Std.TransOrd κ] [Std.LawfulEqOrd κ] (t : Table α) (a : α) : Table α :=
  ⟨place a t.toList, place_sorted a t.sorted⟩

/-- Store entries one after the other: of one key, the last stays. -/
def insertAll [Std.TransOrd κ] [Std.LawfulEqOrd κ] (t : Table α) (entries : List α) :
    Table α :=
  entries.foldl insert t

/-- The table of a list of entries: of one key, the last stays. -/
def ofList [Std.TransOrd κ] [Std.LawfulEqOrd κ] (entries : List α) : Table α :=
  insertAll ∅ entries

theorem map_sorted (t : Table α) (f : α → α) (same : ∀ a, Keyed.key (f a) = Keyed.key a) :
    (t.toList.map f).Pairwise fun a b => compare (Keyed.key a) (Keyed.key b) = .lt := by
  simpa [List.pairwise_map, same] using t.sorted

/-- Change every entry by a function that leaves the keys alone. -/
def map (t : Table α) (f : α → α) (same : ∀ a, Keyed.key (f a) = Keyed.key a) : Table α :=
  ⟨t.toList.map f, t.map_sorted f same⟩

@[simp] theorem toList_map (t : Table α) (f : α → α)
    (same : ∀ a, Keyed.key (f a) = Keyed.key a) :
    (t.map f same).toList = t.toList.map f := rfl

@[simp] theorem toList_insert [Std.TransOrd κ] [Std.LawfulEqOrd κ] (t : Table α) (a : α) :
    (t.insert a).toList = place a t.toList := rfl

end Table

/-- A table of values, each stored under a name. -/
abbrev NameMap (β : Type w) := Table (String × β)

end EntityGen
