/-
Exactly-once ledgers.

A ledger posts entries named by keys.  An entry is credited to its account the
first time its key is posted and ignored afterwards, so the balance of an
account depends only on the *set* of keys posted:

* `balance_postAll` — the balance of an account is the sum of the amounts of
  the distinct keys posted to it;
* `balance_congr` — two sequences with the same set of keys give the same
  balances, whatever their order and repetitions.

Keys, accounts and amounts are arbitrary; amounts add in a commutative monoid.
-/
import Mathlib.Algebra.BigOperators.Group.Finset.Basic
import Mathlib.Data.Finset.Dedup

namespace Ledger

variable {κ ι M : Type*} [DecidableEq κ] [DecidableEq ι] [AddCommMonoid M]

/-- The keys posted so far and the balance of every account. -/
structure Book (κ ι M : Type*) where
  posted : Finset κ
  balance : ι → M

/-- The book before the first posting. -/
def Book.empty : Book κ ι M := ⟨∅, fun _ => 0⟩

variable (account : κ → ι) (amount : κ → M)

/-- Post one key: credit its account unless the key was posted before. -/
def post (b : Book κ ι M) (k : κ) : Book κ ι M :=
  if k ∈ b.posted then b
  else ⟨insert k b.posted, fun i => if account k = i then b.balance i + amount k else b.balance i⟩

/-- Post a sequence of keys from the empty book. -/
def postAll (ks : List κ) : Book κ ι M := ks.foldl (post account amount) Book.empty

variable {account amount}

theorem posted_post (b : Book κ ι M) (k : κ) :
    (post account amount b k).posted = insert k b.posted := by
  rw [post]
  split
  · next h => exact (Finset.insert_eq_of_mem h).symm
  · rfl

/-- A book is balanced when each account holds the sum over its posted keys. -/
def Balanced (account : κ → ι) (amount : κ → M) (b : Book κ ι M) : Prop :=
  ∀ i, b.balance i = ∑ k ∈ b.posted with account k = i, amount k

omit [DecidableEq κ] in
theorem balanced_empty : Balanced account amount (Book.empty : Book κ ι M) := by
  intro i
  simp [Book.empty]

theorem Balanced.post {b : Book κ ι M} (hb : Balanced account amount b) (k : κ) :
    Balanced account amount (post account amount b k) := by
  intro i
  rw [Ledger.post]
  split
  · exact hb i
  · next hk =>
    by_cases hi : account k = i
    · have hk' : k ∉ b.posted.filter (account · = i) := by simp [hk]
      simp only [if_pos hi, Finset.filter_insert, Finset.sum_insert hk', hb i, add_comm]
    · simp only [if_neg hi, Finset.filter_insert, hb i]

theorem postAll_append_singleton (ks : List κ) (k : κ) :
    postAll account amount (ks ++ [k]) = post account amount (postAll account amount ks) k := by
  simp [postAll]

theorem balanced_postAll (ks : List κ) : Balanced account amount (postAll account amount ks) := by
  induction ks using List.reverseRecOn with
  | nil => exact balanced_empty
  | append_singleton ks k ih =>
    rw [postAll_append_singleton]
    exact ih.post k

theorem posted_postAll (ks : List κ) : (postAll account amount ks).posted = ks.toFinset := by
  induction ks using List.reverseRecOn with
  | nil => rfl
  | append_singleton ks k ih =>
    rw [postAll_append_singleton, posted_post, ih]
    ext x
    simp

/-- **Exactly once.**  The balance of an account is the sum of the amounts of
the distinct keys posted to it. -/
theorem balance_postAll (ks : List κ) (i : ι) :
    (postAll account amount ks).balance i
      = ∑ k ∈ ks.toFinset with account k = i, amount k := by
  rw [balanced_postAll ks i, posted_postAll]

/-- **Order independence.**  Balances depend on the set of keys only. -/
theorem balance_congr {ks ks' : List κ} (h : ks.toFinset = ks'.toFinset) (i : ι) :
    (postAll account amount ks).balance i = (postAll account amount ks').balance i := by
  rw [balance_postAll, balance_postAll, h]

end Ledger
