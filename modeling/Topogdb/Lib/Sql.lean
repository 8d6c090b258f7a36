/-
A few parts of PostgreSQL: NULL, errors and the jsonb operators.

NULL is `none`.  A condition is a truth value of three, and `if` and `where`
take only the true one (`Sql.Tri.holds`).  The jsonb operators get and give
`Option Json`; the members of an object stand in the order jsonb keeps them in.
-/
import Topogdb.Lib.Json

/-- An error: its SQLSTATE and its message. -/
structure SqlError where
  sqlstate : String
  message : String
deriving DecidableEq

namespace SqlError

/-- `raise exception … using errcode = 'P0001'`. -/
def p0001 (message : String) : SqlError := ⟨"P0001", message⟩

/-- The condition `syntax_error_or_access_rule_violation`: class 42. -/
def syntaxErrorOrAccessRuleViolation (e : SqlError) : Bool :=
  e.sqlstate.toList.take 2 = ['4', '2']

@[simp] theorem syntaxErrorOrAccessRuleViolation_p0001 (message : String) :
    (p0001 message).syntaxErrorOrAccessRuleViolation = false := by
  simp [p0001, syntaxErrorOrAccessRuleViolation]

/-- A name that resolves to no table or function. -/
def undefinedTable (name : String) : SqlError := ⟨"42P01", s!"relation \"{name}\" does not exist"⟩

@[simp] theorem syntaxErrorOrAccessRuleViolation_undefinedTable (name : String) :
    (undefinedTable name).syntaxErrorOrAccessRuleViolation = true := by
  simp [undefinedTable, syntaxErrorOrAccessRuleViolation]

def undefinedFunction (name : String) : SqlError := ⟨"42883", s!"function {name} does not exist"⟩

end SqlError

namespace Sql

/-! ### Truth values -/

/-- True, false or NULL. -/
abbrev Tri := Option Bool

namespace Tri

def holds (c : Tri) : Bool := c = some true

def not (c : Tri) : Tri := c.map (!·)

def and : Tri → Tri → Tri
  | some false, _ => some false
  | _, some false => some false
  | some true, c => c
  | c, some true => c
  | none, none => none

def or : Tri → Tri → Tri
  | some true, _ => some true
  | _, some true => some true
  | some false, c => c
  | c, some false => c
  | none, none => none

theorem true_and (c : Tri) : Tri.and (some true) c = c := by
  rcases c with _ | _ | _ <;> rfl

theorem false_or (c : Tri) : Tri.or (some false) c = c := by
  rcases c with _ | _ | _ <;> rfl

end Tri

/-- `a = b` and `a <> b`. -/
def eq {α : Type} [DecidableEq α] (a b : Option α) : Tri := do
  let a ← a
  let b ← b
  some (a = b)

def ne {α : Type} [DecidableEq α] (a b : Option α) : Tri := (eq a b).not

/-- `a in (…)` and `a not in (…)`, over values that are not NULL. -/
def isIn {α : Type} [DecidableEq α] (a : Option α) (values : List α) : Tri :=
  a.map fun a => a ∈ values

def notIn {α : Type} [DecidableEq α] (a : Option α) (values : List α) : Tri := (isIn a values).not

/-- `a is not null`. -/
def isNotNull {α : Type} (a : Option α) : Tri := some a.isSome

/-- A value in a message of `raise`. -/
def shown (a : Option String) : String := a.getD "<NULL>"

/-- `if c then raise exception … end if`. -/
def raiseIf (c : Tri) (message : String) : Except SqlError Unit :=
  if c.holds then .error (.p0001 message) else .ok ()

theorem raiseIf_eq_ok {c : Tri} {message : String} :
    raiseIf c message = .ok () ↔ c ≠ some true := by
  rw [raiseIf, Tri.holds]
  by_cases h : c = some true <;> simp [h]

/-! ### jsonb -/

/-- `j -> 'key'`. -/
def arrow (j : Option Json) (key : String) : Option Json := j.bind (·.get? key)

/-- The text of a value, as `->>` and `#>>` give it; `jsonText` writes numbers
and containers. -/
def textOf (jsonText : Json → String) : Json → Option String
  | .null => none
  | .bool b => some (if b then "true" else "false")
  | .str s => some s
  | j => some (jsonText j)

/-- `j ->> 'key'`. -/
def arrowText (jsonText : Json → String) (j : Option Json) (key : String) : Option String :=
  (arrow j key).bind (textOf jsonText)

/-- `j ? 'key'`: a member of an object, an element of an array, or the string. -/
def hasKey (j : Option Json) (key : String) : Tri :=
  j.map fun
    | .obj members => (members.lookup key).isSome
    | .arr items => items.any fun item => item.str? = some key
    | .str s => s = key
    | _ => false

/-- `jsonb_typeof`. -/
def typeOf (j : Option Json) : Option String :=
  j.map fun
    | .null => "null"
    | .bool _ => "boolean"
    | .num _ => "number"
    | .str _ => "string"
    | .arr _ => "array"
    | .obj _ => "object"

theorem typeOf_eq_null {v : Json} (h : typeOf (some v) = some "null") : v = .null := by
  cases v with
  | null => rfl
  | _ => simp [typeOf] at h

theorem typeOf_eq_string {v : Json} (h : typeOf (some v) = some "string") : ∃ s, v = .str s := by
  cases v with
  | str s => exact ⟨s, rfl⟩
  | _ => simp [typeOf] at h

theorem typeOf_eq_object {v : Json} (h : typeOf (some v) = some "object") : ∃ ms, v = .obj ms := by
  cases v with
  | obj ms => exact ⟨ms, rfl⟩
  | _ => simp [typeOf] at h

/-- The element of a path literal that reads `{null}`. -/
def nullPathElement : SqlError := ⟨"22004", "path element at position 1 is null"⟩

/-- `j #- '{key}'`, for a key that is a lower-case name.  The name `null` stands
for no text in the literal; what is empty is given back before the path is read. -/
def deletePath (key : String) : Json → Except SqlError Json
  | .obj [] => .ok (.obj [])
  | .arr [] => .ok (.arr [])
  | .obj members =>
    if key = "null" then .error nullPathElement
    else .ok (.obj (members.filter fun m => m.1 ≠ key))
  | .arr _ =>
    if key = "null" then .error nullPathElement
    else .error ⟨"22P02", s!"path element at position 1 is not an integer: \"{key}\""⟩
  | _ => .error ⟨"22023", "cannot delete path in scalar"⟩

/-- The key `null` can be deleted from what the keys before it leave empty. -/
def Deletable (keys : List String) (members : List (String × Json)) : Prop :=
  "null" ∈ keys → ∀ m ∈ members, m.1 ∈ keys.takeWhile fun key => key ≠ "null"

/-- `j || jsonb_build_object('key', value)`. -/
def concatMember (key : String) (value : Json) : Json → Json
  | .obj members => .obj (members.filter (fun m => m.1 ≠ key) ++ [(key, value)])
  | .arr items => .arr (items ++ [.obj [(key, value)]])
  | j => .arr [j, .obj [(key, value)]]

/-- The members of one object over those of another. -/
def mergeMembers (members others : List (String × Json)) : List (String × Json) :=
  others.foldl (fun ms m => ms.filter (fun x => x.1 ≠ m.1) ++ [m]) members

/-- `jsonb_build_object` and `jsonb_object_agg`: of equal keys the last counts. -/
def buildObject (members : List (String × Json)) : Json := .obj (mergeMembers [] members)

/-- `a || b`, of two objects; other values are not met. -/
def concatObjects : Json → Json → Json
  | .obj members, .obj others => .obj (mergeMembers members others)
  | j, _ => j

theorem lookup_mergeMembers (members others : List (String × Json)) (key : String) :
    (mergeMembers members others).lookup key =
      (others.reverse.lookup key).or (members.lookup key) := by
  induction others generalizing members with
  | nil => simp [mergeMembers]
  | cons m others ih =>
    have hfold : mergeMembers members (m :: others) =
        mergeMembers (members.filter (fun x => x.1 ≠ m.1) ++ [m]) others := rfl
    obtain ⟨name, value⟩ := m
    rw [hfold, ih, List.reverse_cons, List.lookup_append, List.lookup_append, Option.or_assoc]
    congr 1
    have hone : List.lookup key [(name, value)] = if key = name then some value else none := by
      rw [List.lookup_cons]
      by_cases h : key = name
      · simp [h]
      · simp [h, beq_false_of_ne h]
    rw [hone, Json.lookup_filter_key fun k => k ≠ name]
    by_cases h : key = name
    · simp [h]
    · simp [h]

theorem deletePath_ne_null {key : String} {v v' : Json} (h : deletePath key v = .ok v') :
    v' ≠ .null := by
  rintro rfl
  unfold deletePath at h
  split at h
  · cases h
  · cases h
  · split at h <;> cases h
  · split at h <;> cases h
  · cases h

theorem concatMember_ne_null (key : String) (value v : Json) : concatMember key value v ≠ .null := by
  intro h
  unfold concatMember at h
  split at h <;> cases h

/-- JSON null has no keys to delete. -/
theorem foldlM_deletePath_null {keys : List String} {v : Json}
    (h : keys.foldlM (fun v key => deletePath key v) .null = .ok v) : keys = [] ∧ v = .null := by
  cases keys with
  | nil =>
    cases h
    exact ⟨rfl, rfl⟩
  | cons key keys => cases h

theorem foldlM_deletePath_ne_null {keys : List String} {v v' : Json} (hv : v ≠ .null)
    (h : keys.foldlM (fun v key => deletePath key v) v = .ok v') : v' ≠ .null := by
  induction keys generalizing v with
  | nil =>
    cases h
    exact hv
  | cons key keys ih =>
    rw [List.foldlM_cons] at h
    cases hw : deletePath key v with
    | error e =>
      rw [hw] at h
      cases h
    | ok w =>
      rw [hw] at h
      exact ih (deletePath_ne_null hw) h

theorem foldl_concatMember_ne_null {keys : List String} {value v : Json} (hv : v ≠ .null) :
    keys.foldl (fun v key => concatMember key value v) v ≠ .null := by
  induction keys generalizing v with
  | nil => exact hv
  | cons key keys ih => exact ih (concatMember_ne_null key value v)

end Sql
