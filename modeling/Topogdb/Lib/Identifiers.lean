/-
Names in SQL.

* `foldIdentifier` — what the server makes of an unquoted identifier: ASCII
  letters become small, and what does not fit into 63 bytes is cut off;
* names put together with underscores, which the part after the last underscore
  tells apart;
* names of a base and a suffix that are cut off, `cut_suffixed_inj`: enough of the
  suffix is left, and no suffix is left after an underscore of another one.
-/
import Mathlib.Data.List.Basic
import Mathlib.Data.Nat.Notation

namespace Sql

/-! ### Folding -/

/-- As many of the first characters as fit into `n` bytes. -/
def clipBytes : ℕ → List Char → List Char
  | _, [] => []
  | n, c :: cs => if c.utf8Size ≤ n then c :: clipBytes (n - c.utf8Size) cs else []

/-- An unquoted identifier, as the server stores it. -/
def foldIdentifier (s : String) : String :=
  String.ofList (clipBytes 63 (s.toList.map Char.toLower))

theorem clipBytes_eq_take {cs : List Char} (h : ∀ c ∈ cs, c.utf8Size = 1) (n : ℕ) :
    clipBytes n cs = cs.take n := by
  induction cs generalizing n with
  | nil => simp [clipBytes]
  | cons c cs ih =>
    have hc : c.utf8Size = 1 := h c List.mem_cons_self
    cases n with
    | zero => simp [clipBytes, hc]
    | succ n =>
      rw [clipBytes, hc, if_pos (by omega), Nat.add_sub_cancel, List.take_succ_cons,
        ih fun c hc => h c (List.mem_cons_of_mem _ hc)]

/-- An ASCII character takes one byte. -/
theorem utf8Size_of_lt {c : Char} (h : c.toNat < 128) : c.utf8Size = 1 := by
  have hval : c.val.toNat < 128 := h
  rw [Char.utf8Size_eq_one_iff, UInt32.le_iff_toNat_le]
  show c.val.toNat ≤ 127
  omega

theorem toNat_toLower_lt {c : Char} (h : c.toNat < 128) : c.toLower.toNat < 128 := by
  have hval : c.val.toNat < 128 := h
  delta Char.toLower
  split
  · next hupper =>
    have hle : c.val.toNat ≤ 90 := UInt32.le_iff_toNat_le.mp hupper.2
    show (c.val + ('a'.val - 'A'.val)).toNat < 128
    rw [UInt32.toNat_add]
    have hoffset : ('a'.val - 'A'.val).toNat = 32 := rfl
    omega
  · exact h

theorem toNat_lt_of_isAlphanum {c : Char} (h : c.isAlphanum = true) : c.toNat < 128 := by
  show c.val.toNat < 128
  delta Char.isAlphanum Char.isAlpha Char.isUpper Char.isLower Char.isDigit at h
  simp only [Bool.or_eq_true, Bool.and_eq_true, decide_eq_true_eq, UInt32.le_iff_toNat_le,
    ge_iff_le] at h
  rcases h with ((h | h) | h)
  · exact Nat.lt_of_le_of_lt h.2 (by decide)
  · exact Nat.lt_of_le_of_lt h.2 (by decide)
  · exact Nat.lt_of_le_of_lt h.2 (by decide)

/-! ### Underscores -/

/-- What is before the first `c`, and what is after it. -/
theorem append_cons_inj {c : Char} {xs ys us vs : List Char} (hx : c ∉ xs) (hy : c ∉ ys)
    (h : xs ++ c :: us = ys ++ c :: vs) : xs = ys ∧ us = vs := by
  have htake (zs ws : List Char) (hz : c ∉ zs) : (zs ++ c :: ws).takeWhile (· ≠ c) = zs := by
    rw [List.takeWhile_append_of_pos fun z hmem => decide_eq_true (ne_of_mem_of_not_mem hmem hz)]
    simp
  have hxy : xs = ys := by rw [← htake xs us hx, h, htake ys vs hy]
  subst hxy
  exact ⟨rfl, (List.cons.inj (List.append_cancel_left h)).2⟩

/-- The part after the last underscore, and what is before it. -/
theorem append_underscore_inj {a b d e : String} (hd : '_' ∉ d.toList) (he : '_' ∉ e.toList) :
    a ++ "_" ++ d = b ++ "_" ++ e ↔ a = b ∧ d = e := by
  constructor
  · intro h
    have hlist : a.toList ++ '_' :: d.toList = b.toList ++ '_' :: e.toList := by
      simpa using congrArg String.toList h
    have hrev : d.toList.reverse ++ '_' :: a.toList.reverse
        = e.toList.reverse ++ '_' :: b.toList.reverse := by
      simpa using congrArg List.reverse hlist
    obtain ⟨h₁, h₂⟩ := append_cons_inj (by simpa using hd) (by simpa using he) hrev
    exact ⟨String.toList_inj.mp (List.reverse_injective h₂),
      String.toList_inj.mp (List.reverse_injective h₁)⟩
  · rintro ⟨rfl, rfl⟩
    rfl

/-! ### Names that are cut off -/

/-- What follows each underscore. -/
def afterUnderscores : List Char → List (List Char)
  | [] => []
  | c :: cs => if c = '_' then cs :: afterUnderscores cs else afterUnderscores cs

theorem mem_afterUnderscores (xs rest : List Char) :
    rest ∈ afterUnderscores (xs ++ '_' :: rest) := by
  induction xs with
  | nil => exact List.mem_cons_self
  | cons x xs ih =>
    rw [List.cons_append, afterUnderscores]
    split
    · exact List.mem_cons_of_mem _ ih
    · exact ih

/-- A name that agrees with a cut name has its base, and what is left of its suffix. -/
theorem exists_after_of_cut {limit keep : ℕ} {base suffix name : List Char}
    (hbase : base.length + 1 + keep ≤ limit)
    (h : (base ++ '_' :: suffix).take limit = name.take limit) :
    ∃ rest, name = base ++ '_' :: rest ∧ rest.take keep = suffix.take keep := by
  have hhead : (base ++ '_' :: suffix).take (base.length + 1) = base ++ ['_'] := by
    rw [List.append_cons]
    exact List.take_left' (by simp)
  have htake : name.take (base.length + 1) = base ++ ['_'] := by
    have hcut := congrArg (List.take (base.length + 1)) h
    rwa [List.take_take, List.take_take, Nat.min_eq_left (by omega), hhead, eq_comm] at hcut
  refine ⟨name.drop (base.length + 1), ?_, ?_⟩
  · rw [List.append_cons, ← htake, List.take_append_drop]
  · have hdrop := congrArg (fun cs => (cs.drop (base.length + 1)).take keep) h
    simp only [List.drop_take, List.take_take] at hdrop
    rw [Nat.min_eq_left (by omega)] at hdrop
    rw [← hdrop, List.append_cons, List.drop_left' (by simp)]

/-- Suffixes that a cut to `keep` characters leaves apart, also after an underscore. -/
structure CutApart (keep : ℕ) (suffixes : List (List Char)) : Prop where
  inj : ∀ s ∈ suffixes, ∀ t ∈ suffixes, s.take keep = t.take keep → s = t
  inner : ∀ s ∈ suffixes, ∀ rest ∈ afterUnderscores s, ∀ t ∈ suffixes, rest.take keep ≠ t.take keep

instance (keep : ℕ) (suffixes : List (List Char)) : Decidable (CutApart keep suffixes) :=
  decidable_of_iff
    ((∀ s ∈ suffixes, ∀ t ∈ suffixes, s.take keep = t.take keep → s = t) ∧
      ∀ s ∈ suffixes, ∀ rest ∈ afterUnderscores s, ∀ t ∈ suffixes, rest.take keep ≠ t.take keep)
    ⟨fun h => ⟨h.1, h.2⟩, fun h => ⟨h.1, h.2⟩⟩

/-- A cut name tells its base and its suffix, as long as the base leaves room for what tells
the suffixes apart. -/
theorem cut_suffixed_inj {limit keep : ℕ} {suffixes : List (List Char)}
    (hapart : CutApart keep suffixes) {a b s t : List Char} (ha : a.length + 1 + keep ≤ limit)
    (hb : b.length + 1 + keep ≤ limit) (hs : s ∈ suffixes) (ht : t ∈ suffixes)
    (h : (a ++ '_' :: s).take limit = (b ++ '_' :: t).take limit) : a = b ∧ s = t := by
  wlog hle : a.length ≤ b.length generalizing a b s t
  · obtain ⟨hba, hts⟩ := this hb ha ht hs h.symm (by omega)
    exact ⟨hba.symm, hts.symm⟩
  obtain ⟨rest, hrest, hcut⟩ := exists_after_of_cut hb h.symm
  rcases List.append_eq_append_iff.mp hrest with ⟨x, rfl, hx⟩ | ⟨x, rfl, hx⟩
  · cases x with
    | nil =>
      obtain ⟨-, rfl⟩ := List.cons.inj hx
      exact ⟨(List.append_nil a).symm, hapart.inj _ hs _ ht hcut⟩
    | cons c x =>
      -- the longer base would end inside the other suffix
      obtain ⟨rfl, rfl⟩ := List.cons.inj hx
      exact absurd hcut (hapart.inner _ hs _ (mem_afterUnderscores x rest) _ ht)
  · rw [List.length_append] at hle
    obtain rfl : x = [] := List.length_eq_zero_iff.mp (by omega)
    obtain ⟨-, rfl⟩ := List.cons.inj hx
    exact ⟨List.append_nil b, hapart.inj _ hs _ ht hcut⟩

theorem underscore_notMem_repr (n : ℕ) : '_' ∉ (Nat.repr n).toList := by
  rw [Nat.toList_repr]
  exact Nat.underscore_not_in_toDigits

theorem repr_injective {m n : ℕ} (h : Nat.repr m = Nat.repr n) : m = n := by
  have hdigits : Nat.toDigits 10 m = Nat.toDigits 10 n := by
    rw [← Nat.toList_repr, h, Nat.toList_repr]
  have hvalue := congrArg (fun ds => Nat.ofDigitChars 10 ds 0) hdigits
  simpa using hvalue

/-- The digits of a number are no word with a letter. -/
theorem repr_ne_of_mem {n : ℕ} {s : String} {c : Char} (hc : c ∈ s.toList)
    (hdigit : c.isDigit = false) : Nat.repr n ≠ s := by
  rintro rfl
  rw [Nat.toList_repr] at hc
  rw [Nat.isDigit_of_mem_toDigits (by omega) (by omega) hc] at hdigit
  cases hdigit

end Sql
