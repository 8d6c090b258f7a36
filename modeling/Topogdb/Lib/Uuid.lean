/-
The uuid type of PostgreSQL.

`uuidIn` reads what `uuid_in` reads: 32 hexadecimal digits in either case, with
an optional hyphen after every second byte, and optional braces.  `text` writes
the canonical form; `uuidIn_text` reads it back.
-/
import Mathlib.Algebra.Order.Ring.Nat
import Mathlib.Data.Fin.Basic
import Mathlib.Tactic.Ring

/-- 128 bits, in the order of their bytes. -/
abbrev Uuid := Fin (2 ^ 128)

namespace Uuid

/-- Numerals are uuids. -/
instance neZero : NeZero (2 ^ 128) := ⟨by decide⟩

/-- One hexadecimal digit. -/
def hexDigit (n : ℕ) : Char := ("0123456789abcdef".toList)[n]?.getD '0'

/-- The value of a hexadecimal digit. -/
def hexValue (c : Char) : Option ℕ :=
  if '0' ≤ c ∧ c ≤ '9' then some (c.toNat - '0'.toNat)
  else if 'a' ≤ c ∧ c ≤ 'f' then some (c.toNat - 'a'.toNat + 10)
  else if 'A' ≤ c ∧ c ≤ 'F' then some (c.toNat - 'A'.toNat + 10)
  else none

/-- The two digits of a byte. -/
def hexPair (byte : ℕ) : List Char := [hexDigit (byte / 16), hexDigit (byte % 16)]

/-- The last `n` bytes of a value, with the hyphens that follow them: the bytes
left are 12, 10, 8 and 6 after the first four groups. -/
def textBytes : ℕ → ℕ → List Char
  | 0, _ => []
  | n + 1, v =>
    hexPair (v / 256 ^ n % 256) ++
      ((if n = 12 ∨ n = 10 ∨ n = 8 ∨ n = 6 then ['-'] else []) ++ textBytes n v)

/-- `uuid_out`. -/
def text (u : Uuid) : String := String.ofList (textBytes 16 u.val)

/-- Skip a hyphen with `n` bytes left to read. -/
def skipHyphen (n : ℕ) : List Char → List Char
  | '-' :: cs => if n % 2 = 0 ∧ 0 < n then cs else '-' :: cs
  | cs => cs

/-- Read `n` bytes on top of the value read so far. -/
def readBytes : ℕ → ℕ → List Char → Option (ℕ × List Char)
  | 0, acc, cs => some (acc, cs)
  | n + 1, acc, a :: b :: cs => do
    let hi ← hexValue a
    let lo ← hexValue b
    readBytes n (acc * 256 + (hi * 16 + lo)) (skipHyphen n cs)
  | _, _, _ => none

/-- `uuid_in`; nothing is its syntax error. -/
def uuidIn (s : String) : Option Uuid :=
  let (cs, close) := match s.toList with
    | '{' :: cs => (cs, ['}'])
    | cs => (cs, [])
  match readBytes 16 0 cs with
  | some (v, rest) => if rest = close then some (Fin.ofNat _ v) else none
  | none => none

/-! ### Reading what was written -/

theorem hexValue_hexDigit {n : ℕ} (h : n < 16) : hexValue (hexDigit n) = some n := by
  have hall : ∀ i : Fin 16, hexValue (hexDigit i.val) = some i.val := by decide
  exact hall ⟨n, h⟩

theorem hexDigit_ne_hyphen {n : ℕ} (h : n < 16) : hexDigit n ≠ '-' := by
  have hall : ∀ i : Fin 16, hexDigit i.val ≠ '-' := by decide
  exact hall ⟨n, h⟩

theorem hexDigit_ne_brace {n : ℕ} (h : n < 16) : hexDigit n ≠ '{' := by
  have hall : ∀ i : Fin 16, hexDigit i.val ≠ '{' := by decide
  exact hall ⟨n, h⟩

theorem skipHyphen_of_ne {c : Char} (n : ℕ) (cs : List Char) (h : c ≠ '-') :
    skipHyphen n (c :: cs) = c :: cs := by
  unfold skipHyphen
  split
  · next heq => exact absurd (List.cons.inj heq).1 h
  · rfl

/-- A hyphen that was written is skipped, and nothing else is. -/
theorem skipHyphen_textBytes (n v : ℕ) :
    skipHyphen n ((if n = 12 ∨ n = 10 ∨ n = 8 ∨ n = 6 then ['-'] else []) ++ textBytes n v)
      = textBytes n v := by
  by_cases hn : n = 12 ∨ n = 10 ∨ n = 8 ∨ n = 6
  · rw [if_pos hn]
    have hskip : n % 2 = 0 ∧ 0 < n := by omega
    simp [skipHyphen, hskip.1, hskip.2]
  · rw [if_neg hn, List.nil_append]
    cases n with
    | zero => rfl
    | succ n =>
      have hbyte : v / 256 ^ n % 256 < 256 := Nat.mod_lt _ (by decide)
      exact skipHyphen_of_ne _ _ (hexDigit_ne_hyphen (by omega))

theorem readBytes_textBytes (n acc v : ℕ) :
    readBytes n acc (textBytes n v) = some (acc * 256 ^ n + v % 256 ^ n, []) := by
  induction n generalizing acc with
  | zero => simp [readBytes, textBytes, Nat.mod_one]
  | succ n ih =>
    have hbyte : v / 256 ^ n % 256 < 256 := Nat.mod_lt _ (by decide)
    have hhi := hexValue_hexDigit (show v / 256 ^ n % 256 / 16 < 16 by omega)
    have hlo := hexValue_hexDigit (show v / 256 ^ n % 256 % 16 < 16 by omega)
    have hsplit : v / 256 ^ n % 256 / 16 * 16 + v / 256 ^ n % 256 % 16 = v / 256 ^ n % 256 := by
      omega
    -- the value of the rest, below the byte just read
    have hmod : v % 256 ^ (n + 1) = v % 256 ^ n + 256 ^ n * (v / 256 ^ n % 256) := Nat.mod_pow_succ
    simp only [textBytes, hexPair, List.cons_append, List.nil_append, readBytes, hhi, hlo,
      Option.bind_eq_bind, Option.bind_some]
    rw [skipHyphen_textBytes, ih, hsplit, hmod]
    congr 2
    ring

/-- **A uuid is read back from its text.** -/
theorem uuidIn_text (u : Uuid) : uuidIn (text u) = some u := by
  have hu : u.val % 256 ^ 16 = u.val := Nat.mod_eq_of_lt (by have := u.isLt; norm_num at this ⊢; omega)
  have hread := readBytes_textBytes 16 0 u.val
  rw [Nat.zero_mul, Nat.zero_add, hu] at hread
  have hbyte : u.val / 256 ^ 15 % 256 < 256 := Nat.mod_lt _ (by decide)
  have hne : hexDigit (u.val / 256 ^ 15 % 256 / 16) ≠ '{' := hexDigit_ne_brace (by omega)
  rw [uuidIn, text, String.toList_ofList]
  have hbrace : (match textBytes 16 u.val with
      | '{' :: cs => (cs, ['}'])
      | cs => (cs, [])) = (textBytes 16 u.val, ([] : List Char)) := by
    split
    · next heq =>
      exact absurd (List.cons.inj heq).1 hne
    · rfl
  rw [hbrace]
  simp only [hread, if_true]
  congr 1
  exact Fin.ext (Nat.mod_eq_of_lt u.isLt)

/-- The groups of a text are set apart. -/
theorem hyphen_mem_text (u : Uuid) : '-' ∈ (text u).toList := by
  rw [text, String.toList_ofList]
  simp [textBytes]

example : uuidIn "\x7b0000000000000000-00000000-0000000A\x7d" = some 10 := by decide

end Uuid
