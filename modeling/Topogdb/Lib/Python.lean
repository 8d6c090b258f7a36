/-
The Python built-ins the services use.

* strings — `strip`, `split`, `partition`, `splitlines` and the like, over the
  characters of the string;
* dictionaries — association lists in insertion order, `dictSet` and `dictOf`;
* JSON values — equality (`True == 1`) and truth;
* numbers — true division of integers and the product of floats, both correctly
  rounded to the 53-bit significand of a double (`toDouble`; the exponent range
  is not modelled), and `round`, which takes a float to the nearest integer,
  ties to even.
-/
import Mathlib.Data.Int.Log
import Mathlib.Data.Rat.Floor
import Mathlib.Data.List.DropRight
import Mathlib.Data.List.Perm.Subperm
import Mathlib.Data.List.Sort
import Mathlib.Tactic.NormNum
import Topogdb.Lib.Json

namespace Python

/-! ### Strings -/

/-- The characters for which `str.isspace` holds. -/
def isSpace (c : Char) : Bool :=
  let n := c.toNat
  (9 ≤ n ∧ n ≤ 13) ∨ (28 ≤ n ∧ n ≤ 32) ∨ n = 0x85 ∨ n = 0xa0 ∨ n = 0x1680 ∨
    (0x2000 ≤ n ∧ n ≤ 0x200a) ∨ n = 0x2028 ∨ n = 0x2029 ∨ n = 0x202f ∨ n = 0x205f ∨ n = 0x3000

/-- `s.strip()`. -/
def strip (s : String) : String :=
  String.ofList ((s.toList.dropWhile isSpace).rdropWhile isSpace)

/-- `s.rstrip(c)` for one character. -/
def rstrip (c : Char) (s : String) : String := String.ofList (s.toList.rdropWhile (· = c))

def startsWith (p s : List Char) : Bool := p.isPrefixOf s

/-- `s.removeprefix(p)`. -/
def removePrefix (p s : String) : String :=
  if startsWith p.toList s.toList then String.ofList (s.toList.drop p.length) else s

/-- `s.removesuffix(p)`. -/
def removeSuffix (p s : String) : String :=
  if p.toList.isSuffixOf s.toList then String.ofList (s.toList.take (s.length - p.length)) else s

/-- The first and the last part of `s.partition(c)` for one character. -/
def partition (c : Char) (s : String) : String × String :=
  (String.ofList (s.toList.takeWhile (· ≠ c)), String.ofList ((s.toList.dropWhile (· ≠ c)).drop 1))

/-- `s.split()`: the maximal runs of other characters than white space. -/
def splitSpace (s : String) : List String :=
  ((s.toList.splitOnP isSpace).filter (· ≠ [])).map String.ofList

/-- `s.split("...")`; `current` is the segment read so far, in reverse. -/
def splitDots (current : List Char) : List Char → List String
  | '.' :: '.' :: '.' :: rest => String.ofList current.reverse :: splitDots [] rest
  | c :: rest => splitDots (c :: current) rest
  | [] => [String.ofList current.reverse]

/-- The characters that end a line for `str.splitlines`. -/
def isLineEnd (c : Char) : Bool :=
  let n := c.toNat
  (10 ≤ n ∧ n ≤ 13) ∨ (0x1c ≤ n ∧ n ≤ 0x1e) ∨ n = 0x85 ∨ n = 0x2028 ∨ n = 0x2029

/-- `s.splitlines()`; `current` is the line read so far, in reverse. -/
def splitLines (current : List Char) : List Char → List String
  | '\r' :: '\n' :: rest => String.ofList current.reverse :: splitLines [] rest
  | c :: rest =>
    if isLineEnd c then String.ofList current.reverse :: splitLines [] rest
    else splitLines (c :: current) rest
  | [] => if current = [] then [] else [String.ofList current.reverse]

/-- `sorted(names)`: strings compare by code points. -/
def sorted (names : List String) : List String := names.insertionSort (· ≤ ·)

/-- `PurePosixPath(path).suffix`. -/
def pathSuffix (path : String) : String :=
  let parts := (path.toList.splitOn '/').filter fun part => part ≠ [] ∧ part ≠ ['.']
  let name := parts.getLast?.getD []
  let tail := name.rtakeWhile (· ≠ '.')
  if tail = [] ∨ tail.length + 1 ≥ name.length then ""
  else String.ofList ('.' :: tail)

/-! ### Dictionaries -/

section Dict

variable {α : Type*}

/-- `d[k] = v`. -/
def dictSet (d : List (String × α)) (k : String) (v : α) : List (String × α) :=
  if (d.lookup k).isSome then d.map fun e => if e.1 = k then (k, v) else e
  else d ++ [(k, v)]

/-- `dict(pairs)`: a later value of a key replaces an earlier one. -/
def dictOf (pairs : List (String × α)) : List (String × α) :=
  pairs.foldl (fun d e => dictSet d e.1 e.2) []

theorem lookup_isSome_iff {d : List (String × α)} {k : String} :
    (d.lookup k).isSome = true ↔ k ∈ d.map Prod.fst := by
  induction d with
  | nil => simp
  | cons e d ih =>
    obtain ⟨k', v⟩ := e
    rw [List.lookup_cons]
    by_cases hk : k = k'
    · simp [hk]
    · have hbeq : (k == k') = false := by simp [hk]
      simp [hbeq, hk, ih]

theorem mem_of_lookup {d : List (String × α)} {k : String} {v : α} (h : d.lookup k = some v) :
    (k, v) ∈ d := by
  induction d with
  | nil => cases h
  | cons e d ih =>
    obtain ⟨k', v'⟩ := e
    rw [List.lookup_cons] at h
    by_cases hk : k = k'
    · subst hk
      simp only [beq_self_eq_true, Option.some.injEq] at h
      exact h ▸ List.mem_cons_self
    · have hbeq : (k == k') = false := by simp [hk]
      rw [hbeq] at h
      exact List.mem_cons_of_mem _ (ih h)

/-- Without duplicate keys a member is what its key gives. -/
theorem lookup_of_mem {d : List (String × α)} (hd : (d.map Prod.fst).Nodup) {k : String}
    {v : α} (h : (k, v) ∈ d) : d.lookup k = some v := by
  have hsome : (d.lookup k).isSome = true := lookup_isSome_iff.mpr (List.mem_map.mpr ⟨_, h, rfl⟩)
  obtain ⟨w, hw⟩ := Option.isSome_iff_exists.mp hsome
  have heq : (k, w) = (k, v) := List.inj_on_of_nodup_map hd (mem_of_lookup hw) h rfl
  rw [hw, (Prod.mk.inj heq).2]

/-- Replacing the value of a key keeps the keys. -/
theorem map_fst_replace (d : List (String × α)) (k : String) (v : α) :
    (d.map fun e => if e.1 = k then (k, v) else e).map Prod.fst = d.map Prod.fst := by
  rw [List.map_map]
  refine List.map_congr_left fun e _ => ?_
  by_cases he : e.1 = k <;> simp [he]

theorem keys_dictSet (d : List (String × α)) (k k' : String) (v : α) :
    k' ∈ (dictSet d k v).map Prod.fst ↔ k' = k ∨ k' ∈ d.map Prod.fst := by
  rw [dictSet]
  split
  · next h =>
    rw [map_fst_replace]
    constructor
    · exact Or.inr
    · rintro (rfl | h')
      · exact lookup_isSome_iff.mp h
      · exact h'
  · simp [or_comm]

theorem nodup_dictSet {d : List (String × α)} (h : (d.map Prod.fst).Nodup) (k : String) (v : α) :
    ((dictSet d k v).map Prod.fst).Nodup := by
  rw [dictSet]
  split
  · rwa [map_fst_replace]
  · next hnew =>
    rw [List.map_append, List.map_singleton]
    refine List.Nodup.append h (List.nodup_singleton k) ?_
    rw [List.disjoint_singleton]
    exact fun hmem => hnew (lookup_isSome_iff.mpr hmem)

/-- Replacing the value of one key leaves the others. -/
theorem lookup_replace_of_ne (d : List (String × α)) {k k' : String} (v : α) (h : k' ≠ k) :
    (d.map fun e => if e.1 = k then (k, v) else e).lookup k' = d.lookup k' := by
  induction d with
  | nil => rfl
  | cons e d ih =>
    rw [List.map_cons, List.lookup_cons, List.lookup_cons, ih]
    by_cases he : e.1 = k
    · have hbeq : (k' == k) = false := beq_eq_false_iff_ne.mpr h
      simp only [he, if_true, hbeq]
    · rw [if_neg he]

theorem lookup_replace_self {d : List (String × α)} {k : String} (v : α) (h : k ∈ d.map Prod.fst) :
    (d.map fun e => if e.1 = k then (k, v) else e).lookup k = some v := by
  induction d with
  | nil => exact absurd h List.not_mem_nil
  | cons e d ih =>
    rw [List.map_cons, List.lookup_cons]
    by_cases he : e.1 = k
    · simp only [he, if_true, beq_self_eq_true]
    · have hbeq : (k == e.1) = false := beq_eq_false_iff_ne.mpr (Ne.symm he)
      rw [List.map_cons, List.mem_cons] at h
      simp only [if_neg he, hbeq]
      exact ih (h.resolve_left (Ne.symm he))

theorem lookup_dictSet_of_ne (d : List (String × α)) {k k' : String} (v : α) (h : k' ≠ k) :
    (dictSet d k v).lookup k' = d.lookup k' := by
  rw [dictSet]
  split
  · exact lookup_replace_of_ne d v h
  · have hbeq : (k' == k) = false := beq_eq_false_iff_ne.mpr h
    rw [List.lookup_append, List.lookup_cons, hbeq]
    cases d.lookup k' <;> rfl

theorem lookup_dictSet_self (d : List (String × α)) (k : String) (v : α) :
    (dictSet d k v).lookup k = some v := by
  rw [dictSet]
  split
  · next h => exact lookup_replace_self v (lookup_isSome_iff.mp h)
  · next h => simp [List.lookup_append, Option.not_isSome_iff_eq_none.mp h]

theorem lookup_dictSet_isSome (d : List (String × α)) (k k' : String) (v : α) :
    ((dictSet d k v).lookup k').isSome = true ↔ k' = k ∨ (d.lookup k').isSome = true := by
  rw [lookup_isSome_iff, lookup_isSome_iff, keys_dictSet]

theorem keys_foldl_dictSet (pairs d : List (String × α)) (k : String) :
    k ∈ (pairs.foldl (fun d e => dictSet d e.1 e.2) d).map Prod.fst
      ↔ k ∈ d.map Prod.fst ∨ k ∈ pairs.map Prod.fst := by
  induction pairs generalizing d with
  | nil => simp
  | cons e pairs ih =>
    rw [List.foldl_cons, ih, keys_dictSet, List.map_cons, List.mem_cons]
    tauto

theorem lookup_dictOf_isSome (pairs : List (String × α)) (k : String) :
    ((dictOf pairs).lookup k).isSome = true ↔ k ∈ pairs.map Prod.fst := by
  rw [lookup_isSome_iff, dictOf, keys_foldl_dictSet]
  simp

/-- Every value of a dictionary was the value of some pair. -/
theorem mem_dictSet {d : List (String × α)} {k : String} {v : α} {e : String × α}
    (h : e ∈ dictSet d k v) : e = (k, v) ∨ e ∈ d := by
  rw [dictSet] at h
  split at h
  · obtain ⟨e', he', rfl⟩ := List.mem_map.mp h
    by_cases hk : e'.1 = k
    · exact Or.inl (if_pos hk)
    · rw [if_neg hk]
      exact Or.inr he'
  · rcases List.mem_append.mp h with h | h
    · exact Or.inr h
    · exact Or.inl (List.mem_singleton.mp h)

theorem mem_dictOf {pairs : List (String × α)} {e : String × α} (h : e ∈ dictOf pairs) :
    e ∈ pairs := by
  have hfold : ∀ (ps d : List (String × α)),
      e ∈ ps.foldl (fun d e => dictSet d e.1 e.2) d → e ∈ d ∨ e ∈ ps := by
    intro ps
    induction ps with
    | nil => exact fun d h => Or.inl h
    | cons p ps ih =>
      intro d h
      rcases ih _ h with h | h
      · rcases mem_dictSet h with rfl | h
        · exact Or.inr List.mem_cons_self
        · exact Or.inl h
      · exact Or.inr (List.mem_cons_of_mem p h)
  rcases hfold pairs [] h with h | h
  · cases h
  · exact h

/-- The pairs of a dictionary that has entries already: a new value replaces an old one. -/
theorem lookup_foldl_dictSet (pairs d : List (String × α)) (k : String) :
    (pairs.foldl (fun d e => dictSet d e.1 e.2) d).lookup k =
      ((dictOf pairs).lookup k).or (d.lookup k) := by
  induction pairs using List.reverseRecOn with
  | nil => rfl
  | append_singleton pairs e ih =>
    rw [dictOf, List.foldl_concat, List.foldl_concat]
    by_cases hk : k = e.1
    · rw [hk, lookup_dictSet_self, lookup_dictSet_self, Option.some_or]
    · rw [lookup_dictSet_of_ne _ _ hk, lookup_dictSet_of_ne _ _ hk]
      exact ih

theorem nodup_dictOf (pairs : List (String × α)) : ((dictOf pairs).map Prod.fst).Nodup := by
  induction pairs using List.reverseRecOn with
  | nil => exact List.nodup_nil
  | append_singleton pairs e ih =>
    rw [dictOf, List.foldl_concat]
    exact nodup_dictSet ih e.1 e.2

/-- The later pairs of a dictionary come before the earlier ones. -/
theorem lookup_dictOf_append (pairs pairs' : List (String × α)) (k : String) :
    (dictOf (pairs ++ pairs')).lookup k =
      ((dictOf pairs').lookup k).or ((dictOf pairs).lookup k) := by
  rw [dictOf, List.foldl_append, lookup_foldl_dictSet]
  rfl

/-- The value of a key that has only one. -/
theorem lookup_dictOf_of_unique {pairs : List (String × α)} {k : String} {v : α}
    (hmem : (k, v) ∈ pairs) (hunique : ∀ v', (k, v') ∈ pairs → v' = v) :
    (dictOf pairs).lookup k = some v := by
  obtain ⟨v', hv'⟩ := Option.isSome_iff_exists.mp
    ((lookup_dictOf_isSome pairs k).mpr (List.mem_map_of_mem hmem))
  rw [hv', hunique v' (mem_dictOf (mem_of_lookup hv'))]

end Dict

/-! ### JSON values -/

mutual

/-- `a == b`; booleans compare as the integers they are. -/
def jsonEq : Json → Json → Bool
  | .null, .null => true
  | .bool x, .bool y => x = y
  | .bool x, .num q => x.toNat = q
  | .num p, .bool y => p = y.toNat
  | .num p, .num q => p = q
  | .str s, .str t => s = t
  | .arr xs, .arr ys => jsonEqItems xs ys
  | .obj xs, .obj ys => xs.length = ys.length && jsonEqMembers xs ys
  | _, _ => false

def jsonEqItems : List Json → List Json → Bool
  | [], [] => true
  | x :: xs, y :: ys => jsonEq x y && jsonEqItems xs ys
  | _, _ => false

def jsonEqMembers : List (String × Json) → List (String × Json) → Bool
  | [], _ => true
  | (k, x) :: xs, ys =>
    (match ys.lookup k with
      | some y => jsonEq x y
      | none => false) && jsonEqMembers xs ys

end

theorem jsonEqItems_iff {xs ys : List Json} :
    jsonEqItems xs ys = true ↔ List.Forall₂ (fun x y => jsonEq x y = true) xs ys := by
  induction xs generalizing ys with
  | nil => cases ys <;> simp [jsonEqItems]
  | cons x xs ih => cases ys <;> simp [jsonEqItems, ih]

theorem jsonEqMembers_iff {xs ys : List (String × Json)} :
    jsonEqMembers xs ys = true ↔
      ∀ m ∈ xs, ∃ y, ys.lookup m.1 = some y ∧ jsonEq m.2 y = true := by
  induction xs with
  | nil => simp [jsonEqMembers]
  | cons m xs ih =>
    obtain ⟨k, x⟩ := m
    rw [jsonEqMembers, Bool.and_eq_true, ih, List.forall_mem_cons]
    cases ys.lookup k <;> simp

theorem jsonEq_obj {xs ys : List (String × Json)} :
    jsonEq (.obj xs) (.obj ys) = true ↔ xs.length = ys.length ∧
      ∀ m ∈ xs, ∃ y, ys.lookup m.1 = some y ∧ jsonEq m.2 y = true := by
  rw [jsonEq, Bool.and_eq_true, decide_eq_true_iff, jsonEqMembers_iff]

theorem jsonEq_null {b : Json} : jsonEq .null b = true ↔ b = .null := by
  cases b <;> simp [jsonEq]

theorem jsonEq_str {s : String} {b : Json} : jsonEq (.str s) b = true ↔ b = .str s := by
  cases b <;> simp [jsonEq, eq_comm]

/-- The number that a number or a boolean is. -/
def numberOf : Json → Option ℚ
  | .bool b => some b.toNat
  | .num q => some q
  | _ => none

theorem jsonEq_number {a b : Json} {q : ℚ} (ha : numberOf a = some q) :
    jsonEq a b = true ↔ numberOf b = some q := by
  cases a with
  | bool x =>
    cases ha
    cases b with
    | bool y => cases x <;> cases y <;> simp [jsonEq, numberOf]
    | num p => simp [jsonEq, numberOf, eq_comm]
    | _ => simp [jsonEq, numberOf]
  | num p =>
    cases ha
    cases b with
    | bool y => simp [jsonEq, numberOf, eq_comm]
    | num r => simp [jsonEq, numberOf, eq_comm]
    | _ => simp [jsonEq, numberOf]
  | _ => cases ha

/-- Equality of distinct values is symmetric. -/
theorem jsonEq_symm {a b : Json} (ha : a.Distinct) (hb : b.Distinct) (h : jsonEq a b = true) :
    jsonEq b a = true := by
  induction ha generalizing b with
  | null =>
    rw [jsonEq_null] at h
    subst h
    exact jsonEq_null.mpr rfl
  | bool x => exact (jsonEq_number ((jsonEq_number rfl).mp h)).mpr rfl
  | num p => exact (jsonEq_number ((jsonEq_number rfl).mp h)).mpr rfl
  | str s =>
    rw [jsonEq_str] at h
    subst h
    exact jsonEq_str.mpr rfl
  | @arr items hitems ih =>
    cases hb with
    | @arr items' hitems' =>
      rw [jsonEq, jsonEqItems_iff] at h ⊢
      clear hitems
      induction h with
      | nil => exact List.Forall₂.nil
      | cons hxy _ ihrest =>
        refine List.Forall₂.cons (ih _ List.mem_cons_self (hitems' _ List.mem_cons_self) hxy) ?_
        exact ihrest (fun j hj => ih j (List.mem_cons_of_mem _ hj))
          fun j hj => hitems' j (List.mem_cons_of_mem _ hj)
    | _ => simp [jsonEq] at h
  | @obj members hkeys hmembers ih =>
    cases hb with
    | @obj members' hkeys' hmembers' =>
      rw [jsonEq_obj] at h ⊢
      obtain ⟨hlen, hall⟩ := h
      -- as many keys on both sides, and each of the left is one of the right
      have hsub : members.map Prod.fst ⊆ members'.map Prod.fst := by
        intro k hk
        obtain ⟨m, hm, rfl⟩ := List.mem_map.mp hk
        obtain ⟨y, hy, -⟩ := hall m hm
        exact List.mem_map.mpr ⟨_, mem_of_lookup hy, rfl⟩
      have hperm : (members.map Prod.fst).Perm (members'.map Prod.fst) := by
        refine (List.subperm_of_subset hkeys hsub).perm_of_length_le ?_
        rw [List.length_map, List.length_map, hlen]
      refine ⟨hlen.symm, fun m' hm' => ?_⟩
      have hkey : m'.1 ∈ members.map Prod.fst := hperm.mem_iff.mpr (List.mem_map_of_mem hm')
      obtain ⟨m, hm, hmk⟩ := List.mem_map.mp hkey
      obtain ⟨y, hy, heq⟩ := hall m hm
      rw [hmk, lookup_of_mem hkeys' hm'] at hy
      cases hy
      exact ⟨m.2, hmk ▸ lookup_of_mem hkeys hm, ih m hm (hmembers' m' hm') heq⟩
    | _ => simp [jsonEq] at h

/-- Equality of distinct values is transitive. -/
theorem jsonEq_trans {a b c : Json} (ha : a.Distinct) (h : jsonEq a b = true)
    (h' : jsonEq b c = true) : jsonEq a c = true := by
  induction ha generalizing b c with
  | null =>
    rw [jsonEq_null] at h
    subst h
    exact h'
  | bool x => exact (jsonEq_number rfl).mpr ((jsonEq_number ((jsonEq_number rfl).mp h)).mp h')
  | num p => exact (jsonEq_number rfl).mpr ((jsonEq_number ((jsonEq_number rfl).mp h)).mp h')
  | str s =>
    rw [jsonEq_str] at h
    subst h
    exact h'
  | @arr items hitems ih =>
    cases b with
    | arr items' =>
      cases c with
      | arr items'' =>
        rw [jsonEq, jsonEqItems_iff] at h h' ⊢
        clear hitems
        induction h generalizing items'' with
        | nil => exact h'
        | cons hxy _ ihrest =>
          cases h' with
          | cons hyz hrest' =>
            refine List.Forall₂.cons (ih _ List.mem_cons_self hxy hyz) ?_
            exact ihrest (fun j hj => ih j (List.mem_cons_of_mem _ hj)) _ hrest'
      | _ => simp [jsonEq] at h'
    | _ => simp [jsonEq] at h
  | @obj members hkeys hmembers ih =>
    cases b with
    | obj members' =>
      cases c with
      | obj members'' =>
        rw [jsonEq_obj] at h h' ⊢
        refine ⟨h.1.trans h'.1, fun m hm => ?_⟩
        obtain ⟨y, hy, hxy⟩ := h.2 m hm
        obtain ⟨z, hz, hyz⟩ := h'.2 _ (mem_of_lookup hy)
        exact ⟨z, hz, ih m hm hxy hyz⟩
      | _ => simp [jsonEq] at h'
    | _ => simp [jsonEq] at h

/-- `bool(v)`. -/
def truthy : Json → Bool
  | .null => false
  | .bool b => b
  | .num q => q ≠ 0
  | .str s => s ≠ ""
  | .arr items => !items.isEmpty
  | .obj members => !members.isEmpty

/-! ### Numbers -/

/-- `round(x)`: the nearest integer, the even one of two. -/
def round (x : ℚ) : ℤ :=
  if x - ⌊x⌋ < 1 / 2 then ⌊x⌋
  else if 1 / 2 < x - ⌊x⌋ then ⌊x⌋ + 1
  else if ⌊x⌋ % 2 = 0 then ⌊x⌋ else ⌊x⌋ + 1

theorem round_intCast (n : ℤ) : round (n : ℚ) = n := by
  rw [round, if_pos (by simp)]
  exact Int.floor_intCast n

/-- The double nearest to `x`. -/
def toDouble (x : ℚ) : ℚ :=
  if x = 0 then 0
  else
    let ulp : ℚ := 2 ^ (Int.log 2 |x| - 52)
    round (x / ulp) * ulp

/-- Small natural numbers are doubles. -/
theorem toDouble_natCast {n : ℕ} (h : Nat.log 2 n ≤ 52) : toDouble n = n := by
  rw [toDouble]
  split_ifs with hn
  · exact hn.symm
  · -- the unit in the last place is `1 / 2 ^ k`, so the quotient is an integer
    obtain ⟨k, hk⟩ := Nat.exists_eq_add_of_le h
    have hlog : Int.log 2 |(n : ℚ)| - 52 = -(k : ℤ) := by
      rw [Nat.abs_cast, Int.log_natCast]
      omega
    have hpow : (2 : ℚ) ^ k ≠ 0 := by positivity
    have hquot : (n : ℚ) / (2 ^ k)⁻¹ = ((n * 2 ^ k : ℕ) : ℤ) := by
      rw [div_inv_eq_mul]
      push_cast
      rfl
    simp only [hlog, zpow_neg, zpow_natCast]
    rw [hquot, round_intCast]
    push_cast
    rw [mul_assoc, mul_inv_cancel₀ hpow, mul_one]

/-- `p / q` for integers. -/
def trueDiv (p q : ℤ) : ℚ := toDouble ((p : ℚ) / q)

/-- `x * y` for floats. -/
def mulDouble (x y : ℚ) : ℚ := toDouble (x * y)

theorem trueDiv_self {n : ℤ} (h : n ≠ 0) : trueDiv n n = 1 := by
  have hn : (n : ℚ) ≠ 0 := Int.cast_ne_zero.mpr h
  rw [trueDiv, div_self hn]
  simpa using toDouble_natCast (n := 1) (by simp)

end Python
