/-
Streams that are read by a group of consumers.

Entries are added to a stream; the group is given each of them once, to one of its
consumers, and keeps it as pending until somebody acknowledges it.  What stays pending
can be claimed by another consumer.  The stream may drop entries that grew old.

`Group` is such a stream as a service: its commands, and what can be observed of it.
`Group.Documented` is what a user of the service may rely on.  If only what was handled
is acknowledged, then

* `Kept.xadd`, `Kept.xreadgroup`, `Kept.xautoclaim`, `Kept.xack` — no command loses an
  entry: it waits, is pending, was handled, or was dropped;
* `Kept.all_handled` — so all were handled once nothing waits and nothing is pending.
-/
import Mathlib.Data.List.Basic
import Mathlib.Data.Nat.Notation

namespace ConsumerGroup

/-- A stream with one group.  Commands have the clock of the server. -/
structure Group (ε φ κ : Type*) where
  State : Type
  id : ε → κ
  /-- Create the group at the start of the stream, unless it is there. -/
  xgroupCreate : State → State
  xadd : ℕ → φ → State → ε × State
  /-- The next entries, for a consumer, up to a count. -/
  xreadgroup : ℕ → String → ℕ → State → List ε × State
  /-- Pending entries that nobody touched for so long, from an id on and up to a count,
  and where to go on. -/
  xautoclaim : ℕ → String → ℕ → String → ℕ → State → (String × List ε) × State
  xack : κ → State → State
  /-- The entries that were ever added. -/
  added : State → List ε
  /-- Those that were not dropped. -/
  stored : State → List ε
  /-- Those that the group was not given yet. -/
  ahead : State → List ε
  /-- The ids of those that it was given and that nobody acknowledged. -/
  pending : State → List κ

variable {ε φ κ : Type*} {group : Group ε φ κ}

/-- What the documentation says of the commands. -/
structure Group.Documented (group : Group ε φ κ) (fields : ε → φ) : Prop where
  stored_added : ∀ s, ∀ e ∈ group.stored s, e ∈ group.added s
  ahead_added : ∀ s, ∀ e ∈ group.ahead s, e ∈ group.added s
  nodup_added : ∀ s, ((group.added s).map group.id).Nodup
  xgroupCreate : ∀ s,
    group.added (group.xgroupCreate s) = group.added s ∧
    group.stored (group.xgroupCreate s) = group.stored s ∧
    group.ahead (group.xgroupCreate s) = group.ahead s ∧
    group.pending (group.xgroupCreate s) = group.pending s
  /-- The entry is new, and old ones may be dropped for it. -/
  xadd : ∀ now x s,
    group.added (group.xadd now x s).2 = group.added s ++ [(group.xadd now x s).1] ∧
    fields (group.xadd now x s).1 = x ∧
    (∀ e ∈ group.stored (group.xadd now x s).2, e ∈ group.stored s ∨ e = (group.xadd now x s).1) ∧
    (∀ e, e ∈ group.ahead s ∨ e = (group.xadd now x s).1 →
      e ∈ group.stored (group.xadd now x s).2 → e ∈ group.ahead (group.xadd now x s).2) ∧
    group.pending (group.xadd now x s).2 = group.pending s
  /-- What the consumer is given is pending now. -/
  xreadgroup : ∀ now consumer count s,
    group.added (group.xreadgroup now consumer count s).2 = group.added s ∧
    group.stored (group.xreadgroup now consumer count s).2 = group.stored s ∧
    (∀ e ∈ (group.xreadgroup now consumer count s).1, e ∈ group.ahead s) ∧
    (∀ e ∈ group.ahead s, e ∈ group.ahead (group.xreadgroup now consumer count s).2 ∨
      group.id e ∈ group.pending (group.xreadgroup now consumer count s).2) ∧
    (∀ i ∈ group.pending s, i ∈ group.pending (group.xreadgroup now consumer count s).2)
  /-- What is no longer pending was dropped from the stream before. -/
  xautoclaim : ∀ now consumer idle startId count s,
    group.added (group.xautoclaim now consumer idle startId count s).2 = group.added s ∧
    group.stored (group.xautoclaim now consumer idle startId count s).2 = group.stored s ∧
    group.ahead (group.xautoclaim now consumer idle startId count s).2 = group.ahead s ∧
    (∀ e ∈ (group.xautoclaim now consumer idle startId count s).1.2,
      e ∈ group.added s ∧ group.id e ∈ group.pending s) ∧
    (∀ i ∈ group.pending s, i ∈ group.pending (group.xautoclaim now consumer idle startId count s).2 ∨
      ∀ e ∈ group.stored s, group.id e ≠ i)
  xack : ∀ i s,
    group.added (group.xack i s) = group.added s ∧
    group.stored (group.xack i s) = group.stored s ∧
    group.ahead (group.xack i s) = group.ahead s ∧
    (∀ j, j ∈ group.pending (group.xack i s) ↔ j ∈ group.pending s ∧ j ≠ i)

/-! ### Nothing is lost -/

/-- Each entry waits, is pending, was handled, or was dropped. -/
def Kept (group : Group ε φ κ) (handled : ε → Prop) (s : group.State) : Prop :=
  ∀ e ∈ group.added s, e ∈ group.ahead s ∨ group.id e ∈ group.pending s ∨ handled e ∨
    e ∉ group.stored s

variable {fields : ε → φ} {handled : ε → Prop} {s : group.State}

theorem Kept.mono {handled' : ε → Prop} (h : Kept group handled s)
    (hmono : ∀ e ∈ group.added s, handled e → handled' e) : Kept group handled' s := by
  intro e he
  rcases h e he with hahead | hpending | hhandled | hdropped
  · exact .inl hahead
  · exact .inr (.inl hpending)
  · exact .inr (.inr (.inl (hmono e he hhandled)))
  · exact .inr (.inr (.inr hdropped))

theorem Kept.xgroupCreate (hgroup : group.Documented fields) (h : Kept group handled s) :
    Kept group handled (group.xgroupCreate s) := by
  obtain ⟨hadded, hstored, hahead, hpending⟩ := hgroup.xgroupCreate s
  intro e he
  rw [hahead, hpending, hstored]
  exact h e (hadded ▸ he)

theorem Kept.xadd (hgroup : group.Documented fields) (h : Kept group handled s) (now : ℕ) (x : φ) :
    Kept group handled (group.xadd now x s).2 := by
  obtain ⟨hadded, -, hstored, hahead, hpending⟩ := hgroup.xadd now x s
  intro e he
  by_cases hdropped : e ∈ group.stored (group.xadd now x s).2
  · rw [hadded, List.mem_append, List.mem_singleton] at he
    rcases he with he | he
    · rcases h e he with hwaits | hpends | hhandled | hgone
      · exact .inl (hahead e (.inl hwaits) hdropped)
      · exact .inr (.inl (hpending ▸ hpends))
      · exact .inr (.inr (.inl hhandled))
      · rcases hstored e hdropped with hold | hnew
        · exact absurd hold hgone
        · exact .inl (hahead e (.inr hnew) hdropped)
    · exact .inl (hahead e (.inr he) hdropped)
  · exact .inr (.inr (.inr hdropped))

theorem Kept.xreadgroup (hgroup : group.Documented fields) (h : Kept group handled s) (now : ℕ)
    (consumer : String) (count : ℕ) :
    Kept group handled (group.xreadgroup now consumer count s).2 := by
  obtain ⟨hadded, hstored, -, hahead, hpending⟩ := hgroup.xreadgroup now consumer count s
  intro e he
  rw [hadded] at he
  rcases h e he with hwaits | hpends | hhandled | hgone
  · rcases hahead e hwaits with hwaits | hpends
    · exact .inl hwaits
    · exact .inr (.inl hpends)
  · exact .inr (.inl (hpending _ hpends))
  · exact .inr (.inr (.inl hhandled))
  · exact .inr (.inr (.inr (hstored ▸ hgone)))

theorem Kept.xautoclaim (hgroup : group.Documented fields) (h : Kept group handled s) (now : ℕ)
    (consumer startId : String) (idle count : ℕ) :
    Kept group handled (group.xautoclaim now consumer idle startId count s).2 := by
  obtain ⟨hadded, hstored, hahead, -, hpending⟩ :=
    hgroup.xautoclaim now consumer idle startId count s
  intro e he
  rw [hadded] at he
  rcases h e he with hwaits | hpends | hhandled | hgone
  · exact .inl (hahead ▸ hwaits)
  · rcases hpending _ hpends with hpends | hdropped
    · exact .inr (.inl hpends)
    · exact .inr (.inr (.inr fun hin => hdropped e (hstored ▸ hin) rfl))
  · exact .inr (.inr (.inl hhandled))
  · exact .inr (.inr (.inr (hstored ▸ hgone)))

/-- What is acknowledged was handled. -/
theorem Kept.xack (hgroup : group.Documented fields) (h : Kept group handled s) {i : κ}
    (hack : ∀ e ∈ group.added s, group.id e = i → handled e) :
    Kept group handled (group.xack i s) := by
  obtain ⟨hadded, hstored, hahead, hpending⟩ := hgroup.xack i s
  intro e he
  rw [hadded] at he
  rcases h e he with hwaits | hpends | hhandled | hgone
  · exact .inl (hahead ▸ hwaits)
  · by_cases hi : group.id e = i
    · exact .inr (.inr (.inl (hack e he hi)))
    · exact .inr (.inl ((hpending _).mpr ⟨hpends, hi⟩))
  · exact .inr (.inr (.inl hhandled))
  · exact .inr (.inr (.inr (hstored ▸ hgone)))

/-- Nothing waits and nothing is pending: all that is stored was handled. -/
theorem Kept.all_handled (h : Kept group handled s) (hahead : group.ahead s = [])
    (hpending : group.pending s = []) {e : ε} (hadded : e ∈ group.added s)
    (hstored : e ∈ group.stored s) : handled e := by
  rcases h e hadded with hwaits | hpends | hhandled | hgone
  · exact absurd (hahead ▸ hwaits) List.not_mem_nil
  · exact absurd (hpending ▸ hpends) List.not_mem_nil
  · exact hhandled
  · exact absurd hstored hgone

end ConsumerGroup
