/-
JSON values.

Numbers are exact rationals: what a decoder hands out is finite, and jsonb keeps
numerics exactly.  An object is the list of its members; a lookup finds the
first member of a name.
-/
import Mathlib.Data.Rat.Defs
import Mathlib.Data.List.Nodup

inductive Json where
  | null
  | bool (b : Bool)
  | num (q : ℚ)
  | str (s : String)
  | arr (items : List Json)
  | obj (members : List (String × Json))
deriving Inhabited

namespace Json

/-- The member of an object; nothing for any other value. -/
def get? : Json → String → Option Json
  | .obj members, name => members.lookup name
  | _, _ => none

/-- The member, with null for an absent one. -/
def getD (j : Json) (name : String) : Json := (j.get? name).getD .null

def isNull : Json → Bool
  | .null => true
  | _ => false

theorem isNull_eq_false {j : Json} (h : j ≠ .null) : j.isNull = false := by
  cases j with
  | null => exact absurd rfl h
  | _ => rfl

def str? : Json → Option String
  | .str s => some s
  | _ => none

@[simp] theorem get?_obj (members : List (String × Json)) (name : String) :
    (Json.obj members).get? name = members.lookup name := rfl

theorem lookup_filter_key {ms : List (String × Json)} (keep : String → Bool) (key : String) :
    (ms.filter fun m => keep m.1).lookup key = if keep key then ms.lookup key else none := by
  induction ms with
  | nil => simp
  | cons m ms ih =>
    obtain ⟨k, v⟩ := m
    rw [List.filter_cons]
    by_cases hkey : key = k
    · subst hkey
      cases hkeep : keep key with
      | true => simp
      | false => simpa [hkeep] using ih
    · rw [List.lookup_cons, beq_false_of_ne hkey]
      split
      · rw [List.lookup_cons, beq_false_of_ne hkey]
        exact ih
      · exact ih

/-- No object has a member twice: a value that a decoder builds from
dictionaries. -/
inductive Distinct : Json → Prop
  | null : Distinct .null
  | bool (b : Bool) : Distinct (.bool b)
  | num (q : ℚ) : Distinct (.num q)
  | str (s : String) : Distinct (.str s)
  | arr {items : List Json} (h : ∀ j ∈ items, Distinct j) : Distinct (.arr items)
  | obj {members : List (String × Json)} (keys : (members.map Prod.fst).Nodup)
      (h : ∀ m ∈ members, Distinct m.2) : Distinct (.obj members)

end Json
