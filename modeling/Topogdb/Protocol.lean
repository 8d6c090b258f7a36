/-
The event protocol of one import.

The names of the events that gcimport attempts for one request form a word of a
regular language over event names:

* `featureProtocol` — JSON and GeoJSON uploads;
* `sosiProtocol` — requests with a SOSI upload among their files.

`mem_featureProtocol` and `mem_sosiProtocol` say which words these are.
-/
import Mathlib.Computability.RegularExpressions
import Topogdb.Event

namespace Event

open RegularExpression

/-- `started.(completed.failed | parsed.batch.succeeded*.(completed.succeeded |
batch.failed.completed.failed))`. -/
def featureProtocol : RegularExpression String :=
  char started *
    (char completedFailed +
      char parsed * (star (char batchSucceeded) *
        (char completedSucceeded + char batchFailed * char completedFailed)))

/-- `started.(completed.failed | parsed.completed.succeeded)`. -/
def sosiProtocol : RegularExpression String :=
  char started * (char completedFailed + char parsed * char completedSucceeded)

theorem mem_star_char {α : Type*} (a : α) (w : List α) :
    w ∈ (star (char a)).matches' ↔ ∃ n, w = List.replicate n a := by
  rw [matches'_star, matches'_char, Language.mem_kstar]
  constructor
  · rintro ⟨L, rfl, hL⟩
    refine ⟨L.length, ?_⟩
    have hL' : L = List.replicate L.length [a] := List.eq_replicate_of_mem hL
    rw [hL']
    simp
  · rintro ⟨n, rfl⟩
    refine ⟨List.replicate n [a], by simp, ?_⟩
    intro y hy
    exact List.eq_of_mem_replicate hy

theorem mem_char_mul {α : Type*} (a : α) (P : RegularExpression α) (w : List α) :
    w ∈ (char a * P).matches' ↔ ∃ v ∈ P.matches', w = a :: v := by
  rw [matches'_mul, matches'_char, Language.mem_mul]
  constructor
  · rintro ⟨_, rfl, v, hv, rfl⟩
    exact ⟨v, hv, rfl⟩
  · rintro ⟨v, hv, rfl⟩
    exact ⟨[a], rfl, v, hv, rfl⟩

theorem mem_char {α : Type*} (a : α) (w : List α) : w ∈ (char a).matches' ↔ w = [a] := Iff.rfl

theorem mem_add {α : Type*} (P Q : RegularExpression α) (w : List α) :
    w ∈ (P + Q).matches' ↔ w ∈ P.matches' ∨ w ∈ Q.matches' := Iff.rfl

theorem mem_featureProtocol (w : List String) :
    w ∈ featureProtocol.matches' ↔
      w = [started, completedFailed] ∨
      ∃ n, w = started :: parsed :: (List.replicate n batchSucceeded ++ [completedSucceeded]) ∨
        w = started :: parsed ::
          (List.replicate n batchSucceeded ++ [batchFailed, completedFailed]) := by
  have hend : ∀ v, v ∈ (char completedSucceeded + char batchFailed * char completedFailed).matches'
      ↔ v = [completedSucceeded] ∨ v = [batchFailed, completedFailed] := by
    intro v
    simp only [mem_add, mem_char, mem_char_mul, exists_eq_left]
  constructor
  · intro h
    obtain ⟨v, hv, rfl⟩ := (mem_char_mul _ _ _).mp h
    rcases (mem_add _ _ _).mp hv with hfail | hparsed
    · left
      rw [(mem_char _ _).mp hfail]
    · right
      obtain ⟨u, hu, rfl⟩ := (mem_char_mul _ _ _).mp hparsed
      rw [matches'_mul, Language.mem_mul] at hu
      obtain ⟨x, hx, y, hy, rfl⟩ := hu
      obtain ⟨n, rfl⟩ := (mem_star_char _ _).mp hx
      refine ⟨n, ?_⟩
      rcases (hend y).mp hy with rfl | rfl
      · exact Or.inl rfl
      · exact Or.inr rfl
  · intro h
    refine (mem_char_mul _ _ _).mpr ?_
    rcases h with rfl | ⟨n, rfl | rfl⟩
    · exact ⟨_, (mem_add _ _ _).mpr (Or.inl rfl), rfl⟩
    · refine ⟨_, (mem_add _ _ _).mpr (Or.inr ((mem_char_mul _ _ _).mpr ⟨_, ?_, rfl⟩)), rfl⟩
      rw [matches'_mul]
      exact Language.append_mem_mul ((mem_star_char _ _).mpr ⟨n, rfl⟩) ((hend _).mpr (Or.inl rfl))
    · refine ⟨_, (mem_add _ _ _).mpr (Or.inr ((mem_char_mul _ _ _).mpr ⟨_, ?_, rfl⟩)), rfl⟩
      rw [matches'_mul]
      exact Language.append_mem_mul ((mem_star_char _ _).mpr ⟨n, rfl⟩) ((hend _).mpr (Or.inr rfl))

theorem mem_sosiProtocol (w : List String) :
    w ∈ sosiProtocol.matches' ↔
      w = [started, completedFailed] ∨ w = [started, parsed, completedSucceeded] := by
  simp only [sosiProtocol, mem_add, mem_char, mem_char_mul, exists_eq_left, or_and_right,
    exists_or]

/-- A SOSI word is a feature word without batches. -/
theorem sosiProtocol_le {w : List String} (h : w ∈ sosiProtocol.matches') :
    w ∈ featureProtocol.matches' := by
  rw [mem_featureProtocol]
  rcases (mem_sosiProtocol w).mp h with rfl | rfl
  · exact Or.inl rfl
  · exact Or.inr ⟨0, Or.inl rfl⟩

end Event
