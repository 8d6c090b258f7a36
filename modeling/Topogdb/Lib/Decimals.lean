/-
Numbers written with a fixed number of decimals.

`toFixed digits value` is the nearest decimal, with its sign, a point and all its
digits.  Two numbers that are written alike are less than one unit of the last
decimal apart (`toFixed_close`).
-/
import Mathlib.Algebra.Order.Floor.Ring
import Mathlib.Data.Rat.Floor
import Mathlib.Tactic.Linarith
import Topogdb.Lib.Identifiers

namespace Decimals

/-- The absolute value in units of the last decimal, of two equally near ones the larger. -/
def nearest (digits : ℕ) (value : ℚ) : ℕ := ⌊|value| * 10 ^ digits + 1 / 2⌋.toNat

/-- The digits of a number, at least as many as the decimals and one. -/
def padded (digits n : ℕ) : List Char :=
  List.replicate (digits + 1 - (Nat.repr n).length) '0' ++ (Nat.repr n).toList

/-- The number with its decimals after the point. -/
def toFixed (digits : ℕ) (value : ℚ) : String :=
  let chars := padded digits (nearest digits value)
  String.ofList ((if value < 0 then ['-'] else []) ++
    chars.take (chars.length - digits) ++ '.' :: chars.drop (chars.length - digits))

theorem isDigit_of_mem_padded {digits n : ℕ} {c : Char} (h : c ∈ padded digits n) :
    c.isDigit = true := by
  rcases List.mem_append.mp h with h | h
  · rw [List.eq_of_mem_replicate h]
    rfl
  · rw [Nat.toList_repr] at h
    exact Nat.isDigit_of_mem_toDigits (by omega) (by omega) h

theorem ofDigitChars_zeros (k : ℕ) (chars : List Char) :
    Nat.ofDigitChars 10 (List.replicate k '0' ++ chars) 0 = Nat.ofDigitChars 10 chars 0 := by
  induction k with
  | zero => rfl
  | succ k ih => exact ih

theorem padded_injective {digits m n : ℕ} (h : padded digits m = padded digits n) : m = n := by
  have hvalue := congrArg (fun chars => Nat.ofDigitChars 10 chars 0) h
  simp only [padded, ofDigitChars_zeros, Nat.toList_repr] at hvalue
  simpa using hvalue

/-- The characters: a sign, digits, a point and digits. -/
theorem toList_toFixed (digits : ℕ) (value : ℚ) :
    ∃ before after, before ++ after = padded digits (nearest digits value) ∧
      (toFixed digits value).toList =
        (if value < 0 then ['-'] else []) ++ before ++ '.' :: after := by
  have hsplit := List.take_append_drop
    ((padded digits (nearest digits value)).length - digits) (padded digits (nearest digits value))
  refine ⟨_, _, hsplit, ?_⟩
  rw [toFixed, String.toList_ofList]

theorem mem_toFixed {digits : ℕ} {value : ℚ} {c : Char} (h : c ∈ (toFixed digits value).toList) :
    c.isDigit = true ∨ c = '.' ∨ c = '-' ∧ value < 0 := by
  obtain ⟨before, after, hpadded, hchars⟩ := toList_toFixed digits value
  have hdigit : ∀ c ∈ before ++ after, c.isDigit = true := by
    rw [hpadded]
    intro c hc
    exact isDigit_of_mem_padded hc
  rw [hchars, List.mem_append, List.mem_append, List.mem_cons] at h
  rcases h with (h | h) | h | h
  · split at h
    · exact .inr (.inr ⟨List.mem_singleton.mp h, by assumption⟩)
    · exact absurd h List.not_mem_nil
  · exact .inl (hdigit c (List.mem_append_left _ h))
  · exact .inr (.inl h)
  · exact .inl (hdigit c (List.mem_append_right _ h))

theorem filter_isDigit_toFixed (digits : ℕ) (value : ℚ) :
    (toFixed digits value).toList.filter Char.isDigit = padded digits (nearest digits value) := by
  obtain ⟨before, after, hpadded, hchars⟩ := toList_toFixed digits value
  have hdigit : (before ++ after).filter Char.isDigit = before ++ after := by
    rw [List.filter_eq_self, hpadded]
    intro c hc
    exact isDigit_of_mem_padded hc
  have hpoint : ('.' : Char).isDigit = false := rfl
  have hsign : (if value < 0 then ['-'] else []).filter Char.isDigit = [] := by
    split <;> rfl
  rw [hchars, List.filter_append, List.filter_append, hsign, List.nil_append,
    List.filter_cons_of_neg (by rw [hpoint]; exact Bool.noConfusion), ← List.filter_append, hdigit,
    hpadded]

theorem minus_mem_toFixed (digits : ℕ) (value : ℚ) :
    '-' ∈ (toFixed digits value).toList ↔ value < 0 := by
  constructor
  · intro h
    rcases mem_toFixed h with h | h | h
    · cases h
    · cases h
    · exact h.2
  · intro h
    obtain ⟨before, after, -, hchars⟩ := toList_toFixed digits value
    rw [hchars, if_pos h]
    exact List.mem_cons_self

theorem colon_notMem_toFixed (digits : ℕ) (value : ℚ) : ':' ∉ (toFixed digits value).toList := by
  intro h
  rcases mem_toFixed h with h | h | h
  · cases h
  · cases h
  · cases h.1

/-- Values with one nearest decimal are close to each other. -/
theorem nearest_close {digits : ℕ} {x y : ℚ} (h : nearest digits x = nearest digits y) :
    |(|x| - |y|)| * 10 ^ digits < 1 := by
  have hnonneg (z : ℚ) : 0 ≤ ⌊|z| * 10 ^ digits + 1 / 2⌋ := by
    refine Int.floor_nonneg.mpr ?_
    positivity
  have hfloor : ⌊|x| * 10 ^ digits + 1 / 2⌋ = ⌊|y| * 10 ^ digits + 1 / 2⌋ := by
    have hx := Int.toNat_of_nonneg (hnonneg x)
    have hy := Int.toNat_of_nonneg (hnonneg y)
    rw [nearest, nearest] at h
    omega
  have hclose := Int.abs_sub_lt_one_of_floor_eq_floor hfloor
  have hpow : (0 : ℚ) < 10 ^ digits := by positivity
  calc |(|x| - |y|)| * 10 ^ digits = |(|x| - |y|) * 10 ^ digits| := by
        rw [abs_mul, abs_of_pos hpow]
    _ = |(|x| * 10 ^ digits + 1 / 2) - (|y| * 10 ^ digits + 1 / 2)| := by
        congr 1
        ring
    _ < 1 := hclose

/-- Numbers written alike are less than a unit of the last decimal apart. -/
theorem toFixed_close {digits : ℕ} {x y : ℚ} (h : toFixed digits x = toFixed digits y) :
    |x - y| * 10 ^ digits < 1 := by
  have hnearest : nearest digits x = nearest digits y := by
    have hpadded : padded digits (nearest digits x) = padded digits (nearest digits y) := by
      rw [← filter_isDigit_toFixed, ← filter_isDigit_toFixed, h]
    exact padded_injective hpadded
  have hsign : x < 0 ↔ y < 0 := by
    rw [← minus_mem_toFixed digits x, ← minus_mem_toFixed digits y, h]
  have hclose := nearest_close hnearest
  have habs : |x - y| = |(|x| - |y|)| := by
    by_cases hx : x < 0
    · have hy := hsign.mp hx
      rw [abs_of_neg hx, abs_of_neg hy, ← abs_neg]
      congr 1
      ring
    · have hy : ¬ y < 0 := fun hy => hx (hsign.mpr hy)
      rw [abs_of_nonneg (not_lt.mp hx), abs_of_nonneg (not_lt.mp hy)]
  rw [habs]
  exact hclose

/-- Two numbers with a colon between them, told apart by the text. -/
theorem toFixed_pair_inj {digits : ℕ} {x y x' y' : ℚ}
    (h : toFixed digits x ++ ":" ++ toFixed digits y =
      toFixed digits x' ++ ":" ++ toFixed digits y') :
    toFixed digits x = toFixed digits x' ∧ toFixed digits y = toFixed digits y' := by
  have hchars := congrArg String.toList h
  simp only [String.toList_append] at hchars
  have hbefore (s t : String) (hs : ':' ∉ s.toList) :
      (s.toList ++ ":".toList ++ t.toList).takeWhile (· ≠ ':') = s.toList := by
    have hall : ∀ c ∈ s.toList, decide (c ≠ ':') = true := by
      intro c hc
      exact decide_eq_true fun heq => hs (heq ▸ hc)
    rw [List.append_assoc, List.takeWhile_append_of_pos hall]
    exact (congrArg (s.toList ++ ·) rfl).trans (List.append_nil _)
  have hfirst := congrArg (List.takeWhile (· ≠ ':')) hchars
  rw [hbefore _ _ (colon_notMem_toFixed digits x), hbefore _ _ (colon_notMem_toFixed digits x')]
    at hfirst
  rw [hfirst, List.append_assoc, List.append_assoc] at hchars
  have hsecond := List.append_cancel_left (List.append_cancel_left hchars)
  exact ⟨String.toList_inj.mp hfirst, String.toList_inj.mp hsecond⟩

end Decimals
