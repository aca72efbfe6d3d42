import EntityGen.Table

/-!
# Laws of tables

What is found in a table after an entry is stored.  An entry is found under a key
exactly when it is there and has that key (`get?_eq_some_iff`); storing an entry
removes the one of its key and no other (`mem_insert_iff`).
-/

namespace EntityGen.Table

universe u v

variable {α : Type u} {κ : Type v} [Keyed α κ] [Ord κ] [Std.TransOrd κ] [Std.LawfulEqOrd κ]

omit [Std.LawfulEqOrd κ] in
theorem key_ne_of_lt {j k : κ} (less : compare j k = .lt) : j ≠ k := by
  rintro rfl
  simp at less

omit [Std.LawfulEqOrd κ] in
/-- Entries of one key are one entry. -/
theorem eq_of_key_eq (t : Table α) {a b : α} (ha : a ∈ t.toList) (hb : b ∈ t.toList)
    (same : Keyed.key a = Keyed.key b) : a = b := by
  have sorted := t.sorted
  generalize t.toList = entries at *
  induction entries with
  | nil => cases ha
  | cons c rest ih =>
    obtain ⟨before, sorted⟩ := List.pairwise_cons.1 sorted
    rcases List.mem_cons.1 ha with first | ha <;> rcases List.mem_cons.1 hb with second | hb
    · exact first.trans second.symm
    · exact absurd (first ▸ same) (key_ne_of_lt (before b hb))
    · exact absurd (second ▸ same.symm) (key_ne_of_lt (before a ha))
    · exact ih ha hb sorted

theorem get?_eq_some_iff (t : Table α) {k : κ} {a : α} :
    t.get? k = some a ↔ a ∈ t.toList ∧ Keyed.key a = k := by
  constructor
  · intro found
    refine ⟨List.mem_of_find?_eq_some found, ?_⟩
    simpa using List.find?_some found
  · rintro ⟨member, rfl⟩
    cases found : t.get? (Keyed.key a) with
    | none => simpa using List.find?_eq_none.1 found a member
    | some b =>
      have same : Keyed.key b = Keyed.key a := by simpa using List.find?_some found
      rw [t.eq_of_key_eq (List.mem_of_find?_eq_some found) member same]

theorem mem_place_iff {a x : α} {entries : List α}
    (h : entries.Pairwise fun a b => compare (Keyed.key a) (Keyed.key b) = .lt) :
    x ∈ place a entries ↔ x = a ∨ x ∈ entries ∧ Keyed.key x ≠ Keyed.key a := by
  induction entries with
  | nil => simp [place]
  | cons b rest ih =>
    obtain ⟨before, sorted⟩ := List.pairwise_cons.1 h
    have later {y : α} (member : y ∈ rest) : Keyed.key y ≠ Keyed.key b :=
      (key_ne_of_lt (before y member)).symm
    unfold place
    split
    · rename_i less
      have other {y : α} (member : y ∈ b :: rest) : Keyed.key y ≠ Keyed.key a := by
        rcases List.mem_cons.1 member with rfl | member
        · exact (key_ne_of_lt less).symm
        · exact (key_ne_of_lt (Std.TransCmp.lt_trans less (before y member))).symm
      rw [List.mem_cons]
      exact or_congr_right ⟨fun member => ⟨member, other member⟩, And.left⟩
    · rename_i same
      have same := Std.LawfulEqOrd.eq_of_compare same
      rw [List.mem_cons, List.mem_cons, same]
      constructor
      · rintro (rfl | member)
        · exact .inl rfl
        · exact .inr ⟨.inr member, later member⟩
      · rintro (rfl | ⟨rfl | member, other⟩)
        · exact .inl rfl
        · exact absurd rfl other
        · exact .inr member
    · rename_i greater
      have other : Keyed.key b ≠ Keyed.key a :=
        key_ne_of_lt (Std.OrientedCmp.gt_iff_lt.1 greater)
      rw [List.mem_cons, ih sorted, List.mem_cons]
      constructor
      · rintro (rfl | rfl | ⟨member, different⟩)
        · exact .inr ⟨.inl rfl, other⟩
        · exact .inl rfl
        · exact .inr ⟨.inr member, different⟩
      · rintro (rfl | ⟨rfl | member, different⟩)
        · exact .inr (.inl rfl)
        · exact .inl rfl
        · exact .inr (.inr ⟨member, different⟩)

theorem mem_insert_iff (t : Table α) {a x : α} :
    x ∈ (t.insert a).toList ↔ x = a ∨ x ∈ t.toList ∧ Keyed.key x ≠ Keyed.key a :=
  mem_place_iff t.sorted

theorem get?_insert_self (t : Table α) (a : α) : (t.insert a).get? (Keyed.key a) = some a :=
  (get?_eq_some_iff _).2 ⟨t.mem_insert_iff.2 (.inl rfl), rfl⟩

theorem get?_insert_of_ne (t : Table α) {a : α} {k : κ} (other : Keyed.key a ≠ k) :
    (t.insert a).get? k = t.get? k := by
  ext x
  rw [get?_eq_some_iff, get?_eq_some_iff, mem_insert_iff]
  constructor
  · rintro ⟨rfl | ⟨member, -⟩, same⟩
    · exact absurd same other
    · exact ⟨member, same⟩
  · rintro ⟨member, rfl⟩
    exact ⟨.inr ⟨member, Ne.symm other⟩, rfl⟩

omit [Std.TransOrd κ] [Std.LawfulEqOrd κ] in
theorem get?_map (t : Table α) (f : α → α) (same : ∀ a, Keyed.key (f a) = Keyed.key a) (k : κ) :
    (t.map f same).get? k = (t.get? k).map f := by
  simp only [get?, toList_map, List.find?_map]
  congr 2
  funext a
  exact congrArg (fun key => decide (compare key k = .eq)) (same a)

end EntityGen.Table
