import LspProbe.Json.Number

/-!
# JSON values

An object keeps its members in key order, each key once. The views below never fail: what has
another shape reads as absent.
-/

namespace LspProbe

inductive Json where
  | null
  | bool (b : Bool)
  | num (n : Number)
  | str (s : String)
  | arr (items : List Json)
  | obj (members : List (String × Json))
  deriving Repr, Inhabited

namespace Json

/-- Members of an object under construction or under view. -/
abbrev Members := List (String × Json)

/-- Adds a member in key order; an equal key is replaced. -/
def Members.insert (key : String) (value : Json) : Members → Members
  | [] => [(key, value)]
  | (k, v) :: rest =>
    if key < k then (key, value) :: (k, v) :: rest
    else if key = k then (key, value) :: rest
    else (k, v) :: Members.insert key value rest

/-- The value of the first member with a key. -/
def Members.get? (key : String) : Members → Option Json
  | [] => none
  | (k, v) :: rest => if k = key then some v else Members.get? key rest

/-- Insertion changes the value of its own key and no other. -/
theorem Members.get?_insert (k key : String) (value : Json) (members : Members) :
    Members.get? k (Members.insert key value members) =
      if key = k then some value else Members.get? k members := by
  induction members with
  | nil => rfl
  | cons head rest ih =>
    obtain ⟨l, v⟩ := head
    rw [Members.insert]
    split
    · simp [Members.get?]
    · split
      · next h => subst h; by_cases hk : key = k <;> simp [Members.get?, hk]
      · next h =>
        by_cases hl : l = k
        · subst hl; simp [Members.get?, h]
        · simp [Members.get?, hl, ih]

/-- The value of an object's member; nothing else has members. -/
def get? (key : String) : Json → Option Json
  | .obj members => Members.get? key members
  | _ => none

def asString? : Json → Option String
  | .str s => some s
  | _ => none

def asList? : Json → Option (List Json)
  | .arr items => some items
  | _ => none

def isNull : Json → Bool
  | .null => true
  | _ => false

def nat (n : Nat) : Json := .num (.int n)

mutual

/-- Equality of values, by member and by item; doubles compare by value. -/
def same : Json → Json → Bool
  | .null, .null => true
  | .bool a, .bool b => a == b
  | .num a, .num b => a.same b
  | .str a, .str b => a == b
  | .arr a, .arr b => sameItems a b
  | .obj a, .obj b => sameMembers a b
  | _, _ => false

def sameItems : List Json → List Json → Bool
  | [], [] => true
  | a :: as, b :: bs => same a b && sameItems as bs
  | _, _ => false

def sameMembers : List (String × Json) → List (String × Json) → Bool
  | [], [] => true
  | (k, a) :: as, (l, b) :: bs => k == l && same a b && sameMembers as bs
  | _, _ => false

end

/-- Equality of optional values. -/
def sameOption : Option Json → Option Json → Bool
  | none, none => true
  | some a, some b => same a b
  | _, _ => false

end Json

end LspProbe
