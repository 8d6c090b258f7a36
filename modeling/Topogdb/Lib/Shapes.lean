/-
Shapes of JSON objects.

A `Shape` declares one member of an object: its JSON type, the codes it is
restricted to, and for an object the shapes of its own members.

* `Shape.Admits` — a member, or its absence, is as the shape declares;
* `Shape.AdmitsObject` — an object has only declared members, each admitted;
* `Shape.admitsObject_edited` — what the jsonb operators `#-` and `||` take from
  an object and put into it, without a change of its shape.
-/
import Topogdb.Lib.Sql

/-- A declared member. -/
inductive Shape where
  | mk (name : String) (required : Bool) (type : String) (whole : Bool)
    (codes : Option (List String)) (members : List Shape)

namespace Shape

def name : Shape → String
  | mk name _ _ _ _ _ => name

def required : Shape → Bool
  | mk _ required _ _ _ _ => required

mutual

/-- A member is there and not null when it is required; a value other than null
has the declared type, and is one of the codes if there are any. -/
def Admits : Shape → Option Json → Prop
  | .mk _ required type whole codes members, value =>
    (required = true → ∃ v, value = some v ∧ v ≠ .null) ∧
    ∀ v, value = some v → v ≠ .null →
      Sql.typeOf (some v) = some type ∧
      (whole = true → ∀ q, v = .num q → q.den = 1) ∧
      (∀ cs, codes = some cs → ∃ c ∈ cs, v = .str c) ∧
      (members ≠ [] →
        (∀ ms, v = .obj ms → ∀ m ∈ ms, m.1 ∈ members.map name) ∧ AdmitsAll members v)

def AdmitsAll : List Shape → Json → Prop
  | [], _ => True
  | shape :: shapes, v => Admits shape (v.get? shape.name) ∧ AdmitsAll shapes v

end

/-- An object with declared members only, each as it is declared. -/
def AdmitsObject (shapes : List Shape) (v : Json) : Prop :=
  ∃ ms, v = .obj ms ∧ (∀ m ∈ ms, m.1 ∈ shapes.map name) ∧
    ∀ shape ∈ shapes, shape.Admits (ms.lookup shape.name)

theorem admitsAll_iff {shapes : List Shape} {v : Json} :
    AdmitsAll shapes v ↔ ∀ shape ∈ shapes, shape.Admits (v.get? shape.name) := by
  induction shapes with
  | nil => simp [AdmitsAll]
  | cons shape shapes ih => rw [AdmitsAll, ih, List.forall_mem_cons]

/-- Absence is admitted where the member is optional. -/
theorem admits_none {shape : Shape} : shape.Admits none ↔ shape.required = false := by
  obtain ⟨name, required, type, whole, codes, members⟩ := shape
  rw [Admits]
  cases required <;> simp [Shape.required]

/-! ### Empty code lists, null objects -/

mutual

/-- The shape without its empty code lists. -/
def dropEmptyCodes : Shape → Shape
  | .mk name required type whole codes members =>
    .mk name required type whole (codes.filter (· ≠ [])) (dropAllEmptyCodes members)

def dropAllEmptyCodes : List Shape → List Shape
  | [] => []
  | shape :: shapes => dropEmptyCodes shape :: dropAllEmptyCodes shapes

end

mutual

/-- Null stands for an object with a required member, at any depth. -/
def NullsRequired : Shape → Option Json → Prop
  | .mk _ _ _ _ _ members, value =>
    (value = some .null ∧ ∃ member ∈ members, member.required = true) ∨
      NullsARequired members value

def NullsARequired : List Shape → Option Json → Prop
  | [], _ => False
  | shape :: shapes, value =>
    NullsRequired shape (Sql.arrow value shape.name) ∨ NullsARequired shapes value

end

theorem dropEmptyCodes_name (shape : Shape) : shape.dropEmptyCodes.name = shape.name := by
  obtain ⟨name, required, type, whole, codes, members⟩ := shape
  rfl

theorem dropEmptyCodes_required (shape : Shape) : shape.dropEmptyCodes.required = shape.required := by
  obtain ⟨name, required, type, whole, codes, members⟩ := shape
  rfl

theorem dropAllEmptyCodes_eq (shapes : List Shape) :
    dropAllEmptyCodes shapes = shapes.map dropEmptyCodes := by
  induction shapes with
  | nil => rfl
  | cons shape shapes ih => rw [dropAllEmptyCodes, ih, List.map_cons]

theorem map_dropEmptyCodes_name (shapes : List Shape) :
    (shapes.map dropEmptyCodes).map name = shapes.map name := by
  rw [List.map_map]
  exact List.map_congr_left fun shape _ => dropEmptyCodes_name shape

theorem nullsARequired_iff {shapes : List Shape} {value : Option Json} :
    NullsARequired shapes value ↔
      ∃ shape ∈ shapes, shape.NullsRequired (Sql.arrow value shape.name) := by
  induction shapes with
  | nil => simp [NullsARequired]
  | cons shape shapes ih => rw [NullsARequired, ih, List.exists_mem_cons_iff]

mutual

/-- Nothing nulls nothing. -/
theorem not_nullsRequired_none : ∀ shape : Shape, ¬ shape.NullsRequired none
  | .mk _ _ _ _ _ members => by
    rw [NullsRequired, not_or]
    refine ⟨fun h => ?_, not_nullsARequired_none members⟩
    cases h.1

theorem not_nullsARequired_none : ∀ shapes : List Shape, ¬ NullsARequired shapes none
  | [] => by
    rw [NullsARequired]
    exact not_false
  | shape :: shapes => by
    rw [NullsARequired, not_or]
    exact ⟨not_nullsRequired_none shape, not_nullsARequired_none shapes⟩

end

/-! ### Members of an object -/

section Members

variable {ms : List (String × Json)}

/-- The keys after a first one that is a name are deleted from what that leaves. -/
theorem deletable_cons {key : String} {keys : List String} (hkey : key ≠ "null") :
    Sql.Deletable (key :: keys) ms ↔ Sql.Deletable keys (ms.filter fun m => m.1 ≠ key) := by
  have hmem : "null" ∈ key :: keys ↔ "null" ∈ keys := by simp [hkey.symm]
  have htake : (key :: keys).takeWhile (fun k => k ≠ "null") =
      key :: keys.takeWhile fun k => k ≠ "null" := by simp [hkey]
  rw [Sql.Deletable, Sql.Deletable, hmem, htake]
  refine imp_congr_right fun _ => ⟨fun h m hm => ?_, fun h m hm => ?_⟩
  · obtain ⟨hm, hne⟩ := List.mem_filter.mp hm
    exact (List.mem_cons.mp (h m hm)).resolve_left (of_decide_eq_true hne)
  · by_cases hne : m.1 = key
    · exact hne ▸ List.mem_cons_self
    · exact List.mem_cons_of_mem key (h m (List.mem_filter.mpr ⟨hm, decide_eq_true hne⟩))

/-- What `#-` leaves of an object. -/
theorem foldlM_deletePath (keys : List String) {v : Json} :
    keys.foldlM (fun v key => Sql.deletePath key v) (.obj ms) = .ok v ↔
      Sql.Deletable keys ms ∧ v = .obj (ms.filter fun m => m.1 ∉ keys) := by
  induction keys generalizing ms with
  | nil =>
    rw [List.filter_eq_self.mpr fun m _ => by simp]
    exact ⟨fun h => by cases h; exact ⟨fun h => absurd h List.not_mem_nil, rfl⟩,
      fun h => congrArg Except.ok h.2.symm⟩
  | cons key keys ih =>
    rw [List.foldlM_cons]
    cases ms with
    | nil =>
      have hempty : ∀ keys : List String, Sql.Deletable keys ([] : List (String × Json)) :=
        fun _ _ m hm => absurd hm List.not_mem_nil
      refine ih.trans ?_
      rw [and_iff_right (hempty keys), and_iff_right (hempty (key :: keys))]
      exact Iff.rfl
    | cons m ms =>
      by_cases hkey : key = "null"
      · -- the first member is not deleted before the path is read
        subst hkey
        refine iff_of_false (fun h => by cases h) fun h => ?_
        exact absurd (h.1 List.mem_cons_self m List.mem_cons_self) (by simp)
      · have hdelete : Sql.deletePath key (.obj (m :: ms)) =
            .ok (.obj ((m :: ms).filter fun m => m.1 ≠ key)) := if_neg hkey
        have hfilter : ((m :: ms).filter fun m => m.1 ≠ key).filter (fun m => m.1 ∉ keys) =
            (m :: ms).filter fun m => m.1 ∉ key :: keys := by
          rw [List.filter_filter]
          refine List.filter_congr fun m _ => ?_
          simp [Bool.and_comm]
        rw [hdelete, deletable_cons hkey, ← hfilter]
        exact ih

/-- What `||` makes of an object: the keys have the value. -/
theorem foldl_concatMember (keys : List String) (x : Json) (ms : List (String × Json)) :
    ∃ ms', keys.foldl (fun v key => Sql.concatMember key x v) (.obj ms) = .obj ms' ∧
      (∀ m ∈ ms', m.1 ∈ keys ∨ m ∈ ms) ∧
      ∀ key, ms'.lookup key = if key ∈ keys then some x else ms.lookup key := by
  induction keys generalizing ms with
  | nil => exact ⟨ms, rfl, fun m hm => .inr hm, by simp⟩
  | cons key keys ih =>
    obtain ⟨ms', hms', hmem, hlookup⟩ := ih (ms.filter (fun m => m.1 ≠ key) ++ [(key, x)])
    refine ⟨ms', hms', fun m hm => ?_, fun key' => ?_⟩
    · rcases hmem m hm with hkeys | hold
      · exact .inl (List.mem_cons_of_mem key hkeys)
      · rcases List.mem_append.mp hold with hold | hnew
        · exact .inr (List.mem_of_mem_filter hold)
        · cases List.mem_singleton.mp hnew
          exact .inl List.mem_cons_self
    · rw [hlookup key', List.lookup_append, Json.lookup_filter_key (fun k => k ≠ key)]
      by_cases hkey : key' = key
      · subst hkey
        simp
      · simp [hkey, List.lookup_cons, beq_false_of_ne hkey]

end Members

/-- **Optional members may go and admitted ones may come.** -/
theorem admitsObject_edited {shapes : List Shape} {ms : List (String × Json)}
    {dropped put : List String} {x : Json} (hdeclared : ∀ m ∈ ms, m.1 ∈ shapes.map name)
    (hkept : ∀ shape ∈ shapes, shape.name ∉ dropped → shape.Admits (ms.lookup shape.name))
    (hdropped : ∀ shape ∈ shapes, shape.name ∈ dropped → shape.required = false)
    (hput : ∀ key ∈ put, key ∈ shapes.map name ∧
      ∀ shape ∈ shapes, shape.name = key → shape.Admits (some x)) :
    AdmitsObject shapes (put.foldl (fun v key => Sql.concatMember key x v)
      (.obj (ms.filter fun m => m.1 ∉ dropped))) := by
  obtain ⟨ms', hms', hmem, hlookup⟩ :=
    foldl_concatMember put x (ms.filter fun m => m.1 ∉ dropped)
  refine ⟨ms', hms', fun m hm => ?_, fun shape hshape => ?_⟩
  · rcases hmem m hm with hput' | hold
    · exact (hput m.1 hput').1
    · exact hdeclared m (List.mem_of_mem_filter hold)
  · rw [hlookup shape.name]
    split
    · next hname => exact (hput _ hname).2 shape hshape rfl
    · rw [Json.lookup_filter_key (fun k => k ∉ dropped)]
      by_cases hname : shape.name ∈ dropped
      · rw [if_neg (by simpa using hname)]
        exact admits_none.mpr (hdropped shape hshape hname)
      · rw [if_pos (by simpa using hname)]
        exact hkept shape hshape hname

end Shape
