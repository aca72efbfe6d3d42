import EntityGen.Json.Decimal
import EntityGen.OrderedMap

/-!
# JSON values

A JSON value as it is handed through from a document to a declaration: the
members of an object keep their order, and a number keeps its kind.

Two values are the *same* when they differ at most in the order of members, at
any depth.  Sameness compares sorted forms, so it is an equivalence relation by
construction (`Same.refl`, `Same.symm`, `Same.trans`).
-/

namespace EntityGen.Json

/-- A number: an integer, or a decimal number for one that was written with a
fraction or an exponent, or is too large for an integer.  The two kinds are
never equal. -/
inductive Number
  | integer (value : Int)
  | decimal (value : Decimal)
  deriving DecidableEq, Repr, Inhabited

namespace Number

/-- The text of a number in a JSON document. -/
def toText : Number → String
  | .integer value => toString value
  | .decimal value => value.toText

/-- The number with a zero freed of its sign. -/
def sorted : Number → Number
  | .decimal value => .decimal (if value.digits = 0 then .zero false else value)
  | number => number

end Number

/-- A JSON value. -/
inductive Value
  | null
  | bool (value : Bool)
  | number (value : Number)
  | string (value : String)
  | array (items : List Value)
  | object (members : List (String × Value))
  deriving Inhabited

namespace Value

mutual

/-- Whether two values are equal. -/
def beq : Value → Value → Bool
  | .null, .null => true
  | .bool a, .bool b => a = b
  | .number a, .number b => a = b
  | .string a, .string b => a = b
  | .array a, .array b => beqItems a b
  | .object a, .object b => beqMembers a b
  | _, _ => false

/-- Whether two lists of items are equal. -/
def beqItems : List Value → List Value → Bool
  | [], [] => true
  | a :: as, b :: bs => beq a b && beqItems as bs
  | _, _ => false

/-- Whether two lists of members are equal. -/
def beqMembers : List (String × Value) → List (String × Value) → Bool
  | [], [] => true
  | (j, a) :: as, (k, b) :: bs => decide (j = k) && beq a b && beqMembers as bs
  | _, _ => false

end

mutual

theorem beq_iff : ∀ a b : Value, beq a b = true ↔ a = b
  | .null, b => by cases b <;> simp [beq]
  | .bool _, b => by cases b <;> simp [beq]
  | .number _, b => by cases b <;> simp [beq]
  | .string _, b => by cases b <;> simp [beq]
  | .array a, b => by cases b <;> simp [beq, beqItems_iff a]
  | .object a, b => by cases b <;> simp [beq, beqMembers_iff a]

theorem beqItems_iff : ∀ a b : List Value, beqItems a b = true ↔ a = b
  | [], b => by cases b <;> simp [beqItems]
  | a :: as, b => by cases b <;> simp [beqItems, beq_iff a, beqItems_iff as]

theorem beqMembers_iff :
    ∀ a b : List (String × Value), beqMembers a b = true ↔ a = b
  | [], b => by cases b <;> simp [beqMembers]
  | (j, a) :: as, b => by
    cases b with
    | nil => simp [beqMembers]
    | cons head tail => cases head; simp [beqMembers, beq_iff a, beqMembers_iff as]

end

instance instDecidableEq : DecidableEq Value :=
  fun a b => decidable_of_iff (beq a b = true) (beq_iff a b)

/-- Put a member in front of the first one of a larger key. -/
def placeMember (key : String) (value : Value) :
    List (String × Value) → List (String × Value)
  | [] => [(key, value)]
  | (other, held) :: rest =>
    if compare other key = .lt then (other, held) :: placeMember key value rest
    else (key, value) :: (other, held) :: rest

mutual

/-- The value with the members of every object in order of their keys. -/
def sorted : Value → Value
  | .number value => .number value.sorted
  | .array items => .array (sortedItems items)
  | .object members => .object (sortedMembers members)
  | value => value

/-- The items, each in its sorted form. -/
def sortedItems : List Value → List Value
  | [] => []
  | value :: rest => sorted value :: sortedItems rest

/-- The members in order of their keys, each value in its sorted form. -/
def sortedMembers : List (String × Value) → List (String × Value)
  | [] => []
  | (key, value) :: rest => placeMember key (sorted value) (sortedMembers rest)

end

/-- Two values are the same when they differ at most in the order of members. -/
def Same (a b : Value) : Prop := a.sorted = b.sorted

instance (a b : Value) : Decidable (Same a b) :=
  inferInstanceAs (Decidable (a.sorted = b.sorted))

theorem Same.refl (a : Value) : Same a a := rfl

theorem Same.symm {a b : Value} (h : Same a b) : Same b a := Eq.symm h

theorem Same.trans {a b c : Value} (h : Same a b) (k : Same b c) : Same a c := Eq.trans h k

end Value

end EntityGen.Json
