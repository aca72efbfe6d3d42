import EntityGen.Json.Value
import Mathlib.Data.List.Basic

/-!
# Matching values

Two JSON values match when they are of one kind and agree part by part: items place by place,
members by their keys, in whatever order they stand.  This is read off the values themselves,
while sameness compares their sorted forms; both are one relation (`Value.same_iff_matches`),
since sorting loses no member and keeps the order of those that share a key.
-/

namespace EntityGen.Json

/-- Two numbers match when they are of one kind and equal; the sign of a zero does not count. -/
def Number.Matches : Number → Number → Prop
  | .integer a, .integer b => a = b
  | .decimal a, .decimal b => a = b ∨ a.digits = 0 ∧ b.digits = 0
  | .integer _, .decimal _ | .decimal _, .integer _ => False

namespace Value

/-- The members without the first one of a key. -/
def withoutMember (key : String) (members : List (String × Value)) : List (String × Value) :=
  members.eraseP fun member => member.1 = key

mutual

/-- Two values match. -/
def Matches : Value → Value → Prop
  | .null, .null => True
  | .bool a, .bool b => a = b
  | .number a, .number b => a.Matches b
  | .string a, .string b => a = b
  | .array a, .array b => MatchesItems a b
  | .object a, .object b => MatchesMembers a b
  | _, _ => False

/-- Two lists of items match, place by place. -/
def MatchesItems : List Value → List Value → Prop
  | [], [] => True
  | a :: as, b :: bs => Matches a b ∧ MatchesItems as bs
  | _, _ => False

/-- Two lists of members match: each member of the first takes one of its key from the second,
and none is left over there. -/
def MatchesMembers : List (String × Value) → List (String × Value) → Prop
  | [], others => others = []
  | (key, value) :: rest, others =>
    ∃ other, others.lookup key = some other ∧ Matches value other ∧
      MatchesMembers rest (withoutMember key others)

end

/-! ## Members in order of their keys -/

/-- Members stand in order of their keys. -/
def Ascending (members : List (String × Value)) : Prop :=
  members.Pairwise fun a b => (compare a.1 b.1).isLE

theorem isLE_of_not_lt {a b : String} (notLess : ¬compare a b = .lt) : (compare b a).isLE :=
  Std.OrientedCmp.isGE_iff_isLE.mp (Ordering.ne_lt_iff_isGE.mp notLess)

theorem ne_of_lt {a b : String} (less : compare a b = .lt) : a ≠ b := by
  rintro rfl
  simp at less

section Placing

variable {key k : String} {value : Value} {members : List (String × Value)}

theorem mem_placeMember_iff {member : String × Value} :
    member ∈ placeMember key value members ↔ member = (key, value) ∨ member ∈ members := by
  induction members with
  | nil => simp [placeMember]
  | cons head rest ih =>
      rw [placeMember]
      split
      · rw [List.mem_cons, ih, List.mem_cons, or_left_comm]
      · rw [List.mem_cons]

/-- A member goes in front of those whose keys are not smaller. -/
theorem placeMember_of_forall (notLess : ∀ member ∈ members, (compare key member.1).isLE) :
    placeMember key value members = (key, value) :: members := by
  cases members with
  | nil => rfl
  | cons head rest =>
      rw [placeMember, if_neg]
      intro less
      exact Std.OrientedCmp.not_isLE_of_lt less (notLess head List.mem_cons_self)

theorem ascending_placeMember (ordered : Ascending members) :
    Ascending (placeMember key value members) := by
  induction members with
  | nil => exact List.pairwise_singleton _ _
  | cons head rest ih =>
      obtain ⟨before, orderedRest⟩ := List.pairwise_cons.mp ordered
      rw [placeMember]
      split
      next less =>
        refine List.pairwise_cons.mpr ⟨fun later member => ?_, ih orderedRest⟩
        rcases mem_placeMember_iff.mp member with rfl | member
        · exact Ordering.isLE_of_eq_lt less
        · exact before later member
      next notLess =>
        have first := isLE_of_not_lt notLess
        refine List.pairwise_cons.mpr ⟨fun later member => ?_, ordered⟩
        rcases List.mem_cons.mp member with rfl | member
        · exact first
        · exact Std.TransCmp.isLE_trans first (before later member)

theorem lookup_placeMember (key : String) (value : Value) (members : List (String × Value))
    (k : String) :
    (placeMember key value members).lookup k =
      if k = key then some value else members.lookup k := by
  induction members with
  | nil => by_cases same : k = key <;> simp [placeMember, same]
  | cons head rest ih =>
      obtain ⟨other, held⟩ := head
      rw [placeMember]
      split
      next less =>
        have different := ne_of_lt less
        by_cases same : k = other
        · subst same
          simp [different]
        · simp only [List.lookup_cons, beq_false_of_ne same, ih]
      next =>
        by_cases same : k = key
        · simp [same]
        · rw [List.lookup_cons, beq_false_of_ne same, if_neg same]

theorem withoutMember_placeMember_self (key : String) (value : Value)
    (members : List (String × Value)) :
    withoutMember key (placeMember key value members) = members := by
  induction members with
  | nil => simp [placeMember, withoutMember]
  | cons head rest ih =>
      rw [placeMember]
      split
      next less =>
        rw [withoutMember, List.eraseP_cons_of_neg (by simpa using ne_of_lt less)]
        exact congrArg (head :: ·) ih
      next => simp [withoutMember]

theorem withoutMember_placeMember (ordered : Ascending members) (different : k ≠ key) :
    withoutMember k (placeMember key value members) =
      placeMember key value (withoutMember k members) := by
  induction members with
  | nil => simp [placeMember, withoutMember, Ne.symm different]
  | cons head rest ih =>
      obtain ⟨before, orderedRest⟩ := List.pairwise_cons.mp ordered
      obtain ⟨other, held⟩ := head
      by_cases less : compare other key = .lt
      · rw [placeMember, if_pos less]
        by_cases taken : other = k
        · simp [withoutMember, taken]
        · have kept (others : List (String × Value)) :
              withoutMember k ((other, held) :: others) =
                (other, held) :: withoutMember k others :=
            List.eraseP_cons_of_neg (by simpa using taken)
          rw [kept, kept, placeMember, if_pos less, ih orderedRest]
      · have first := isLE_of_not_lt less
        have notLess : ∀ member ∈ (other, held) :: rest, (compare key member.1).isLE := by
          intro member present
          rcases List.mem_cons.mp present with rfl | later
          · exact first
          · exact Std.TransCmp.isLE_trans first (before member later)
        have kept : ∀ member ∈ withoutMember k ((other, held) :: rest),
            (compare key member.1).isLE :=
          fun member present => notLess member (List.mem_of_mem_eraseP present)
        rw [placeMember_of_forall notLess, placeMember_of_forall kept]
        exact List.eraseP_cons_of_neg (by simpa using Ne.symm different)

/-- A member that is taken out goes back to its place. -/
theorem placeMember_withoutMember (ordered : Ascending members)
    (found : members.lookup key = some value) :
    placeMember key value (withoutMember key members) = members := by
  induction members with
  | nil => cases found
  | cons head rest ih =>
      obtain ⟨before, orderedRest⟩ := List.pairwise_cons.mp ordered
      obtain ⟨other, held⟩ := head
      by_cases same : other = key
      · subst same
        rw [List.lookup_cons_self, Option.some_inj] at found
        subst found
        rw [withoutMember, List.eraseP_cons_of_pos (by simp)]
        exact placeMember_of_forall before
      · rw [List.lookup_cons, beq_false_of_ne (Ne.symm same)] at found
        have member : (key, value) ∈ rest := by
          obtain ⟨front, back, split, _⟩ := List.lookup_eq_some_iff.mp found
          simp [split]
        have less : compare other key = .lt := by
          have notGreater := before _ member
          cases order : compare other key with
          | lt => rfl
          | eq => exact absurd (Std.LawfulEqOrd.eq_of_compare order) same
          | gt => simp [order] at notGreater
        rw [withoutMember, List.eraseP_cons_of_neg (by simpa using same), placeMember, if_pos less]
        exact congrArg _ (ih orderedRest found)

end Placing

/-! ## Sorted forms -/

theorem ascending_sortedMembers (members : List (String × Value)) :
    Ascending (sortedMembers members) := by
  induction members with
  | nil => exact .nil
  | cons head rest ih => exact ascending_placeMember ih

/-- Of the members of a key the first is found, in the sorted form as well. -/
theorem lookup_sortedMembers (members : List (String × Value)) (key : String) :
    (sortedMembers members).lookup key = (members.lookup key).map sorted := by
  induction members with
  | nil => rfl
  | cons head rest ih =>
      obtain ⟨other, held⟩ := head
      rw [sortedMembers, lookup_placeMember]
      by_cases same : key = other
      · simp [same]
      · rw [if_neg same, ih, List.lookup_cons, beq_false_of_ne same]

theorem withoutMember_sortedMembers (members : List (String × Value)) (key : String) :
    withoutMember key (sortedMembers members) = sortedMembers (withoutMember key members) := by
  induction members with
  | nil => rfl
  | cons head rest ih =>
      obtain ⟨other, held⟩ := head
      by_cases same : key = other
      · subst same
        rw [sortedMembers, withoutMember_placeMember_self]
        simp [withoutMember]
      · rw [sortedMembers, withoutMember_placeMember (ascending_sortedMembers rest) same, ih]
        rw [withoutMember, withoutMember, List.eraseP_cons_of_neg (by simpa using Ne.symm same),
          sortedMembers]

theorem sortedMembers_eq_nil_iff (members : List (String × Value)) :
    sortedMembers members = [] ↔ members = [] := by
  cases members with
  | nil => simp [sortedMembers]
  | cons head rest =>
      have placed : (head.1, head.2.sorted) ∈ sortedMembers (head :: rest) :=
        mem_placeMember_iff.mpr (.inl rfl)
      refine iff_of_false ?_ (List.cons_ne_nil head rest)
      intro none
      rw [none] at placed
      cases placed

/-- One member more makes two sorted forms equal exactly when a member of its key can be taken
out of the other one. -/
theorem placeMember_eq_sortedMembers_iff {key : String} {value : Value}
    {members others : List (String × Value)} :
    placeMember key value (sortedMembers members) = sortedMembers others ↔
      ∃ other, others.lookup key = some other ∧ value = other.sorted ∧
        sortedMembers members = sortedMembers (withoutMember key others) := by
  constructor
  · intro same
    have found : (others.lookup key).map sorted = some value := by
      rw [← lookup_sortedMembers, ← same, lookup_placeMember, if_pos rfl]
    obtain ⟨other, present, equal⟩ := Option.map_eq_some_iff.mp found
    refine ⟨other, present, equal.symm, ?_⟩
    rw [← withoutMember_sortedMembers, ← same, withoutMember_placeMember_self]
  · rintro ⟨other, present, rfl, same⟩
    rw [same, ← withoutMember_sortedMembers]
    apply placeMember_withoutMember (ascending_sortedMembers others)
    rw [lookup_sortedMembers, present]
    rfl

end Value

/-! ## Sameness -/

theorem Number.sorted_eq_iff (a b : Number) : a.sorted = b.sorted ↔ a.Matches b := by
  cases a with
  | integer a => cases b <;> simp [sorted, Matches]
  | decimal a =>
      cases b with
      | integer b => simp [sorted, Matches]
      | decimal b =>
          rw [sorted, sorted, decimal.injEq, Matches]
          by_cases first : a.digits = 0 <;> by_cases second : b.digits = 0
          · simp [first, second]
          · have different : Decimal.zero false ≠ b := fun same => second (same ▸ rfl)
            have others : a ≠ b := fun same => second (same ▸ first)
            simp [first, second, different, others]
          · have different : a ≠ Decimal.zero false := fun same => first (same ▸ rfl)
            have others : a ≠ b := fun same => first (same ▸ second)
            simp [first, second, different, others]
          · simp [first, second]

namespace Value

mutual

theorem sorted_eq_iff : ∀ a b : Value, a.sorted = b.sorted ↔ Matches a b
  | .null, b => by cases b <;> simp [sorted, Matches]
  | .bool _, b => by cases b <;> simp [sorted, Matches]
  | .number a, b => by cases b <;> simp [sorted, Matches, Number.sorted_eq_iff]
  | .string _, b => by cases b <;> simp [sorted, Matches]
  | .array a, b => by cases b <;> simp [sorted, Matches, sortedItems_eq_iff a]
  | .object a, b => by cases b <;> simp [sorted, Matches, sortedMembers_eq_iff a]

theorem sortedItems_eq_iff :
    ∀ as bs : List Value, sortedItems as = sortedItems bs ↔ MatchesItems as bs
  | [], bs => by cases bs <;> simp [sortedItems, MatchesItems]
  | a :: as, bs => by
    cases bs <;> simp [sortedItems, MatchesItems, sorted_eq_iff a, sortedItems_eq_iff as]

theorem sortedMembers_eq_iff :
    ∀ as bs : List (String × Value), sortedMembers as = sortedMembers bs ↔ MatchesMembers as bs
  | [], bs => by rw [sortedMembers, MatchesMembers, eq_comm, sortedMembers_eq_nil_iff]
  | (key, value) :: rest, bs => by
    rw [sortedMembers, MatchesMembers, placeMember_eq_sortedMembers_iff]
    simp only [sorted_eq_iff value, sortedMembers_eq_iff rest]

end

/-- Values are the same exactly when they match. -/
theorem same_iff_matches {a b : Value} : Same a b ↔ Matches a b := sorted_eq_iff a b

end Value

end EntityGen.Json
