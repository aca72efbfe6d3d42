import EntityGen.Proofs.Attachment
import EntityGen.Proofs.Json.Matching

/-!
# First occurrences

A list of attributes is freed of repetitions by keeping the first of those that match: the
attribute at a place stays exactly when none of the earlier places holds a matching one
(`Attribute.distinct_eq_firstOccurrences`).  Every attribute then matches one that is kept, and
that one is the first in the list that it matches, with its arguments in their order
(`Attribute.keepsFirst_distinct`).
-/

namespace EntityGen

namespace Attribute

/-- Two attributes match: their names are equal, and so are their arguments in some order. -/
def Matches (a b : Attribute) : Prop :=
  a.name = b.name ∧
    Json.Value.Matches (.object a.arguments.entries) (.object b.arguments.entries)

theorem same_iff_matches {a b : Attribute} : Same a b ↔ Matches a b :=
  and_congr_right' Json.Value.same_iff_matches

instance instDecidableRelMatches : DecidableRel Matches := fun _ _ =>
  decidable_of_iff _ same_iff_matches

theorem Matches.refl (a : Attribute) : Matches a a := same_iff_matches.mp (.refl a)

theorem Matches.symm {a b : Attribute} (matching : Matches a b) : Matches b a :=
  same_iff_matches.mp (same_iff_matches.mpr matching).symm

theorem Matches.trans {a b c : Attribute} (first : Matches a b) (second : Matches b c) :
    Matches a c :=
  same_iff_matches.mp ((same_iff_matches.mpr first).trans (same_iff_matches.mpr second))

instance instSymmNotMatches : Std.Symm fun a b => ¬Matches a b where
  symm _ _ different matching := different matching.symm

/-- The attributes at the places before which no matching one stands, in their order. -/
def firstOccurrences (attributes : List Attribute) : List Attribute :=
  (attributes.zipIdx.filter fun (attr, place) =>
    decide (∀ earlier ∈ attributes.take place, ¬Matches earlier attr)).map Prod.fst

/-! ## What is kept -/

theorem distinct_cons_eq (attr : Attribute) (rest : List Attribute) :
    distinct (attr :: rest) = attr :: (distinct rest).filter fun later => ¬Matches attr later := by
  simp only [distinct_cons, same_iff_matches]

theorem firstOccurrences_cons (attr : Attribute) (rest : List Attribute) :
    firstOccurrences (attr :: rest) =
      attr :: (firstOccurrences rest).filter fun later => ¬Matches attr later := by
  have shifted (place : Attribute × Nat) :
      (∀ earlier ∈ (attr :: rest).take (place.2 + 1), ¬Matches earlier place.1) ↔
        ¬Matches attr place.1 ∧ ∀ earlier ∈ rest.take place.2, ¬Matches earlier place.1 := by
    rw [List.take_succ_cons, List.forall_mem_cons]
  rw [firstOccurrences, List.zipIdx_cons', List.filter_cons_of_pos (by simp), List.map_cons,
    List.filter_map, List.map_map, firstOccurrences, List.filter_map, List.filter_filter]
  simp only [Function.comp_def, Prod.map_fst, Prod.map_snd, shifted, id_eq]
  simp

theorem distinct_eq_firstOccurrences (attributes : List Attribute) :
    distinct attributes = firstOccurrences attributes := by
  induction attributes with
  | nil => rfl
  | cons attr rest ih => rw [distinct_cons_eq, firstOccurrences_cons, ih]

theorem pairwise_distinct (attributes : List Attribute) :
    (distinct attributes).Pairwise fun a b => ¬Matches a b := by
  induction attributes with
  | nil => exact .nil
  | cons attr rest ih =>
      rw [distinct_cons_eq]
      refine List.pairwise_cons.mpr ⟨?_, ih.filter _⟩
      intro later member
      simpa using (List.mem_filter.mp member).2

theorem distinct_of_pairwise {attributes : List Attribute}
    (different : attributes.Pairwise fun a b => ¬Matches a b) :
    distinct attributes = attributes := by
  induction different with
  | nil => rfl
  | cons fresh _ ih =>
      rw [distinct_cons_eq, ih, List.filter_eq_self.mpr]
      intro later member
      simpa using fresh later member

/-- The first attribute that matches a given one is kept. -/
theorem find?_distinct (attributes : List Attribute) (attr : Attribute) :
    (distinct attributes).find? (Matches · attr) = attributes.find? (Matches · attr) := by
  induction attributes with
  | nil => rfl
  | cons first rest ih =>
      rw [distinct_cons_eq]
      by_cases matching : Matches first attr
      · rw [List.find?_cons_of_pos (by simpa using matching),
          List.find?_cons_of_pos (by simpa using matching)]
      · rw [List.find?_cons_of_neg (by simpa using matching),
          List.find?_cons_of_neg (by simpa using matching), List.find?_filter, ← ih]
        congr 1
        funext later
        -- What matches the attribute cannot match the first one, which does not.
        have apart : Matches later attr → ¬Matches first later :=
          fun second both => matching (both.trans second)
        simpa using apart

/-- Of those that are kept an attribute matches one and no other. -/
theorem exists_kept {attributes : List Attribute} {attr : Attribute}
    (member : attr ∈ attributes) :
    ∃ kept, attributes.find? (Matches · attr) = some kept ∧
      ∀ other, other ∈ distinct attributes ∧ Matches other attr ↔ other = kept := by
  have present : (attributes.find? (Matches · attr)).isSome := by
    rw [List.find?_isSome]
    exact ⟨attr, member, by simpa using Matches.refl attr⟩
  obtain ⟨kept, found⟩ := Option.isSome_iff_exists.mp present
  have foundKept := (find?_distinct attributes attr).trans found
  have memberKept := List.mem_of_find?_eq_some foundKept
  have matching : Matches kept attr := by simpa using List.find?_some foundKept
  refine ⟨kept, found, fun other => ⟨?_, ?_⟩⟩
  · rintro ⟨memberOther, matchingOther⟩
    by_contra different
    have apart := (pairwise_distinct attributes).forall memberOther memberKept different
    exact apart (matchingOther.trans matching.symm)
  · rintro rfl
    exact ⟨memberKept, matching⟩

end Attribute

/-! ## One attribute after the other -/

theorem Class.foldl_addAttribute (cls : Class) (attributes : List Attribute) :
    attributes.foldl addAttribute cls =
      { cls with attributes := attributes.foldl Attribute.appendNew cls.attributes } := by
  induction attributes generalizing cls with
  | nil => rfl
  | cons attr rest ih => exact ih (cls.addAttribute attr)

theorem Property.foldl_addAttribute (property : Property) (attributes : List Attribute) :
    attributes.foldl addAttribute property =
      { property with
        attributes := attributes.foldl Attribute.appendNew property.attributes } := by
  induction attributes generalizing property with
  | nil => rfl
  | cons attr rest ih => exact ih (property.addAttribute attr)

namespace Attribute

/-- A list without repetitions holds the first occurrences, no two of which match.  An attribute
of the list matches one of them only: the first attribute that it matches at all.  No repetition
is left, and classes and properties without attributes end up with the same list when they are
given the attributes one after the other. -/
theorem keepsFirst_distinct (attributes : List Attribute) :
    distinct attributes = firstOccurrences attributes ∧
      ((distinct attributes).Pairwise fun a b => ¬Matches a b) ∧
      (∀ attr ∈ attributes, ∃ kept, attributes.find? (Matches · attr) = some kept ∧
        ∀ other, other ∈ distinct attributes ∧ Matches other attr ↔ other = kept) ∧
      distinct (distinct attributes) = distinct attributes ∧
      (∀ cls : Class, attributes.foldl Class.addAttribute { cls with attributes := [] } =
        { cls with attributes := distinct attributes }) ∧
      ∀ property : Property,
        attributes.foldl Property.addAttribute { property with attributes := [] } =
          { property with attributes := distinct attributes } :=
  ⟨distinct_eq_firstOccurrences attributes, pairwise_distinct attributes,
    fun _ member => exists_kept member, distinct_of_pairwise (pairwise_distinct attributes),
    fun cls => Class.foldl_addAttribute { cls with attributes := [] } attributes,
    fun property => Property.foldl_addAttribute { property with attributes := [] } attributes⟩

/-- Of three columns the second differs from the first in the order of its options alone, and the
third in the kind of a number. -/
theorem keepsFirst_distinct_column :
    let column (length : Json.Number) : Attribute :=
      { name := "ORM\\Column"
        arguments := .ofList
          [("type", .string "text"),
            ("options", .object [("length", .number length), ("fixed", .null)])] }
    let reordered : Attribute :=
      { name := "ORM\\Column"
        arguments := .ofList
          [("options", .object [("fixed", .null), ("length", .number (.integer 1))]),
            ("type", .string "text")] }
    let columns := [column (.integer 1), reordered, column (.decimal ⟨false, 1, 0⟩)]
    reordered ∈ columns ∧
      distinct columns = [column (.integer 1), column (.decimal ⟨false, 1, 0⟩)] ∧
      columns.find? (Matches · reordered) = some (column (.integer 1)) ∧
      Matches (column (.integer 1)) reordered := by
  intro column reordered columns
  have member : reordered ∈ columns := by simp [columns]
  obtain ⟨places, -, kept, -⟩ := keepsFirst_distinct columns
  obtain ⟨first, found, unique⟩ := kept reordered member
  have isFirst : columns.find? (Matches · reordered) = some (column (.integer 1)) := by
    decide +kernel
  have same : first = column (.integer 1) := Option.some.inj (found.symm.trans isFirst)
  refine ⟨member, ?_, isFirst, ((unique _).mpr same.symm).2⟩
  rw [places]
  decide +kernel

end Attribute

end EntityGen
