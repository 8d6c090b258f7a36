/-
The listeners of gcjobs (`RedisImportEventListener` in `gcjobs/pubsub.py`,
`consume_import_events` in `gcjobs/service.py`).

Any number of processes listen to the one stream of import events.  A listener claims
entries that others left pending, reads new ones when there are none, and takes them
one by one: it decodes an entry, records its event, and acknowledges it.  A process can
end anywhere, also between the last two, and another one can claim an entry that is
still at work; the first entry that cannot be decoded or stored ends its listener.

* `Counted.step` — one step of any of them records at most one entry, and loses none;
* `run_entries` — undisturbed, a listener takes a response as `consumeImportEvents` does;
* **`importEvents_counted`** — in every run the counters are the sums over the entries
  that were recorded, each once; and the others wait, are pending, or were dropped from
  the stream.
-/
import Topogdb.Gcjobs.Accounting
import Topogdb.Gcjobs.Consumer
import Topogdb.Gcjobs.Proxy
import Topogdb.Lib.ConsumerGroup
import Topogdb.Lib.Identifiers
import Mathlib.Logic.Function.Basic

namespace Gcjobs

open ConsumerGroup

/-- `IMPORT_EVENTS_IDLE_MS`. -/
def importEventsIdleMs : ℕ := 30000

/-- `IMPORT_EVENTS_READ_COUNT`. -/
def importEventsReadCount : ℕ := 10

/-- What a listener does next. -/
inductive ListenerTurn where
  | ensureStreamGroup
  | claimIdleEntries
  | xreadgroup
  /-- Decode and record the first entry of a response. -/
  | record (entry : StreamEntry) (rest : List StreamEntry)
  | ack (entry : StreamEntry) (rest : List StreamEntry)

/-- A listener at work, with `pending_start_id`. -/
structure ImportEventListener where
  pendingStartId : String := "0-0"
  turn : ListenerTurn := .ensureStreamGroup

/-- On with the entries of a response, or to the top of the loop. -/
def ImportEventListener.entries (listener : ImportEventListener) :
    List StreamEntry → ImportEventListener
  | [] => { listener with turn := .claimIdleEntries }
  | entry :: rest => { listener with turn := .record entry rest }

/-- The stream, as gcjobs and gcimport use it. -/
abbrev ImportEvents := Group StreamEntry (List (String × String)) String

variable {group : ImportEvents}

/-- The stream, the tables, and the listener of each process, by its consumer name. -/
structure ListenerWorld (group : ImportEvents) where
  redis : group.State
  db : Db
  listeners : String → Option ImportEventListener

/-- Redis' clock or that of the database, where one is read. -/
inductive ListenerAction where
  /-- gcimport publishes an event. -/
  | publish (fields : List (String × String)) (now : ℕ)
  | start (consumer : String)
  | turn (consumer : String) (now : ℕ)
  /-- The process ends, or loses one of its connections. -/
  | stop (consumer : String)
  /-- What gcjobs records itself. -/
  | recordAccepted (importId datasetName : String) (now : ℕ)
  | recordFailure (importId profileName err : String) (now : ℕ)

variable (rt : Runtime)

/-- One turn of the listener of a process. -/
def listenerTurn (consumer : String) (now : ℕ) (listener : ImportEventListener)
    (w : ListenerWorld group) : ListenerWorld group :=
  let continue' (listener : ImportEventListener) :=
    Function.update w.listeners consumer (some listener)
  match listener.turn with
  | .ensureStreamGroup =>
    { w with
      redis := group.xgroupCreate w.redis
      listeners := continue' { listener with turn := .claimIdleEntries } }
  | .claimIdleEntries =>
    let response := group.xautoclaim now consumer importEventsIdleMs listener.pendingStartId
      importEventsReadCount w.redis
    let claimed := { listener with pendingStartId := response.1.1, turn := .xreadgroup }
    { w with
      redis := response.2
      listeners := continue' (if response.1.2.isEmpty then claimed
        else claimed.entries response.1.2) }
  | .xreadgroup =>
    let response := group.xreadgroup now consumer importEventsReadCount w.redis
    { w with
      redis := response.2
      listeners := continue' (listener.entries response.1) }
  | .record entry rest =>
    match entryEvent rt entry with
    | .ok event =>
      { w with
        db := (recordImportEvent event (some entry.messageId) now w.db).1
        listeners := continue' { listener with turn := .ack entry rest } }
    -- "Import event listener stopped"
    | .error _ => { w with listeners := Function.update w.listeners consumer none }
  | .ack entry rest =>
    { w with
      redis := group.xack entry.messageId w.redis
      listeners := continue' (listener.entries rest) }

/-- One step of the system; a process has one listener. -/
def listenerStep (w : ListenerWorld group) : ListenerAction → Option (ListenerWorld group)
  | .publish fields now => some { w with redis := (group.xadd now fields w.redis).2 }
  | .start consumer =>
    match w.listeners consumer with
    | some _ => none
    | none => some { w with listeners := Function.update w.listeners consumer (some {}) }
  | .turn consumer now =>
    (w.listeners consumer).map fun listener => listenerTurn rt consumer now listener w
  | .stop consumer => some { w with listeners := Function.update w.listeners consumer none }
  | .recordAccepted importId datasetName now =>
    some { w with db := recordAcceptedImport importId datasetName now w.db }
  | .recordFailure importId profileName err now =>
    some { w with
      db := (recordImportEvent (forwardingFailure importId profileName err) none now w.db).1 }

/-! ### What holds in every run -/

/-- What an entry adds to the counters of an import. -/
def entryContribution (importId : String) (entry : StreamEntry) : Counters :=
  match entryEvent rt entry with
  | .ok event => if event.importId = importId then contribution event else 0
  | .error _ => 0

/-- A listener works on entries of the stream, and acknowledges what is recorded. -/
def ListenerTurn.Sound (added : List StreamEntry) (messageIds : List String) :
    ListenerTurn → Prop
  | .record entry rest => ∀ e ∈ entry :: rest, e ∈ added
  | .ack entry rest => (∀ e ∈ rest, e ∈ added) ∧ entry.messageId ∈ messageIds
  | _ => True

/-- The tables have counted the recorded entries, and the stream keeps the others. -/
structure Counted (counters : String → Counters) (recorded : List StreamEntry)
    (w : ListenerWorld group) : Prop where
  added : ∀ e ∈ recorded, e ∈ group.added w.redis
  wellFormed : ∀ e ∈ recorded, WellFormed rt e
  nodup : (recorded.map (·.messageId)).Nodup
  messageIds : w.db.messageIds = recorded.map (·.messageId)
  counters : ∀ importId, w.db.counters importId =
    counters importId + (recorded.map (entryContribution rt importId)).sum
  listeners : ∀ consumer listener, w.listeners consumer = some listener →
    listener.turn.Sound (group.added w.redis) w.db.messageIds
  kept : Kept group (· ∈ recorded) w.redis

variable {rt} {counters : String → Counters} {recorded : List StreamEntry}
  {w w' : ListenerWorld group}

theorem ListenerTurn.Sound.mono {turn : ListenerTurn} {added added' : List StreamEntry}
    {messageIds messageIds' : List String} (h : turn.Sound added messageIds)
    (hadded : ∀ e ∈ added, e ∈ added') (hids : ∀ m ∈ messageIds, m ∈ messageIds') :
    turn.Sound added' messageIds' := by
  cases turn with
  | record entry rest => exact fun e he => hadded e (h e he)
  | ack entry rest => exact ⟨fun e he => hadded e (h.1 e he), hids _ h.2⟩
  | _ => trivial

theorem ImportEventListener.entries_sound (listener : ImportEventListener)
    {entries added : List StreamEntry} {messageIds : List String} (h : ∀ e ∈ entries, e ∈ added) :
    (listener.entries entries).turn.Sound added messageIds := by
  cases entries with
  | nil => trivial
  | cons entry rest => exact h

/-- Another listener, and what it works on. -/
theorem Counted.update (h : Counted rt counters recorded w) {consumer : String}
    {listener : Option ImportEventListener}
    (hsound : ∀ l, listener = some l → l.turn.Sound (group.added w.redis) w.db.messageIds) :
    Counted rt counters recorded
      { w with listeners := Function.update w.listeners consumer listener } := by
  refine { h with listeners := fun c l hl => ?_ }
  change Function.update w.listeners consumer listener c = some l at hl
  by_cases hc : c = consumer
  · subst hc
    rw [Function.update_self] at hl
    exact hsound l hl
  · rw [Function.update_of_ne hc] at hl
    exact h.listeners c l hl

/-- The stream moves on. -/
theorem Counted.redis (h : Counted rt counters recorded w) {redis : group.State}
    (hadded : ∀ e ∈ group.added w.redis, e ∈ group.added redis)
    (hkept : Kept group (· ∈ recorded) redis) :
    Counted rt counters recorded { w with redis := redis } where
  added e he := hadded e (h.added e he)
  wellFormed := h.wellFormed
  nodup := h.nodup
  messageIds := h.messageIds
  counters := h.counters
  listeners c l hl := (h.listeners c l hl).mono hadded fun _ hm => hm
  kept := hkept

/-- What gcjobs records itself counts nothing. -/
theorem Counted.recordOwn (h : Counted rt counters recorded w) {event : Event}
    (hquiet : contribution event = 0) (now : ℕ) :
    Counted rt counters recorded
      { w with db := (recordImportEvent event none now w.db).1 } := by
  have hfresh : ∀ m, (none : Option String) = some m → m ∉ w.db.messageIds := fun m hm => by cases hm
  have hids : (recordImportEvent event none now w.db).1.messageIds = w.db.messageIds :=
    (recordImportEvent_fresh event now hfresh).1.trans (List.append_nil _)
  refine { h with messageIds := hids.trans h.messageIds, counters := ?_, listeners := ?_ }
  · intro importId
    rw [counters_record event now hfresh, hquiet, add_zero, ite_self]
    exact h.counters importId
  · intro c l hl
    rw [hids]
    exact h.listeners c l hl

/-- An entry that was recorded before. -/
theorem Counted.recordAgain (h : Counted rt counters recorded w) (event : Event) {m : String}
    (hm : m ∈ w.db.messageIds) (now : ℕ) :
    Counted rt counters recorded
      { w with db := (recordImportEvent event (some m) now w.db).1 } := by
  have hdb := recordImportEvent_duplicate event now hm
  have hids : (recordImportEvent event (some m) now w.db).1.messageIds = w.db.messageIds := by
    rw [hdb, insertRun_messageIds]
  refine { h with messageIds := hids.trans h.messageIds, counters := ?_, listeners := ?_ }
  · intro importId
    rw [hdb, counters_insertRun]
    exact h.counters importId
  · intro c l hl
    rw [hids]
    exact h.listeners c l hl

/-- An entry that is recorded for the first time. -/
theorem Counted.recordNew (h : Counted rt counters recorded w) {entry : StreamEntry} {event : Event}
    (hadded : entry ∈ group.added w.redis) (hevent : entryEvent rt entry = .ok event)
    (hnew : entry.messageId ∉ w.db.messageIds) (now : ℕ) :
    Counted rt counters (recorded ++ [entry])
      { w with db := (recordImportEvent event (some entry.messageId) now w.db).1 } := by
  have hfresh : ∀ m, some entry.messageId = some m → m ∉ w.db.messageIds := by
    rintro m ⟨⟩
    exact hnew
  have hids : (recordImportEvent event (some entry.messageId) now w.db).1.messageIds =
      w.db.messageIds ++ [entry.messageId] := (recordImportEvent_fresh event now hfresh).1
  constructor
  · intro e he
    rcases List.mem_append.mp he with he | he
    · exact h.added e he
    · exact List.mem_singleton.mp he ▸ hadded
  · intro e he
    rcases List.mem_append.mp he with he | he
    · exact h.wellFormed e he
    · exact List.mem_singleton.mp he ▸ ⟨event, hevent⟩
  · rw [List.map_append, List.nodup_append]
    refine ⟨h.nodup, List.nodup_singleton _, fun i hi j hj heq => hnew ?_⟩
    rw [List.map_singleton, List.mem_singleton] at hj
    rw [h.messageIds, ← hj, ← heq]
    exact hi
  · rw [List.map_append, ← h.messageIds]
    exact hids
  · intro importId
    -- the counters of the import of this entry grow by it, all others stay
    have hentry : entryContribution rt importId entry =
        if event.importId = importId then contribution event else 0 := by
      rw [entryContribution, hevent]
    rw [counters_record event now hfresh, List.map_append, List.sum_append, List.map_singleton,
      List.sum_singleton, hentry, ← add_assoc, ← h.counters importId]
    split
    · rfl
    · exact (add_zero _).symm
  · intro c l hl
    refine (h.listeners c l hl).mono (fun e he => he) fun m hm => ?_
    rw [hids]
    exact List.mem_append_left _ hm
  · exact h.kept.mono fun e _ he => List.mem_append_left _ he

theorem Counted.record (h : Counted rt counters recorded w) {entry : StreamEntry} {event : Event}
    (hadded : entry ∈ group.added w.redis) (hevent : entryEvent rt entry = .ok event) (now : ℕ) :
    ∃ recorded', Counted rt counters recorded'
      { w with db := (recordImportEvent event (some entry.messageId) now w.db).1 } := by
  by_cases hm : entry.messageId ∈ w.db.messageIds
  · exact ⟨recorded, h.recordAgain event hm now⟩
  · exact ⟨recorded ++ [entry], h.recordNew hadded hevent hm now⟩

/-- The entry with a recorded id is the recorded one. -/
theorem Counted.mem_recorded (h : Counted rt counters recorded w) {fields}
    (hgroup : group.Documented fields) (hid : group.id = (·.messageId)) {entry : StreamEntry}
    (hadded : entry ∈ group.added w.redis) (hm : entry.messageId ∈ w.db.messageIds) :
    entry ∈ recorded := by
  rw [h.messageIds] at hm
  obtain ⟨e, he, heq⟩ := List.mem_map.mp hm
  have hnodup := hgroup.nodup_added w.redis
  rw [hid] at hnodup
  rw [← List.inj_on_of_nodup_map hnodup (h.added e he) hadded heq]
  exact he

/-- A turn of a listener that is sound. -/
theorem Counted.listenerTurn (hgroup : group.Documented StreamEntry.fields)
    (hid : group.id = (·.messageId)) (h : Counted rt counters recorded w) (consumer : String)
    (now : ℕ) {listener : ImportEventListener}
    (hsound : listener.turn.Sound (group.added w.redis) w.db.messageIds) :
    ∃ recorded', Counted rt counters recorded' (Gcjobs.listenerTurn rt consumer now listener w) := by
  rw [Gcjobs.listenerTurn]
  cases hturn : listener.turn with
  | ensureStreamGroup =>
    have hadded := (hgroup.xgroupCreate w.redis).1
    refine ⟨recorded, Counted.update (h.redis (fun e he => ?_) (h.kept.xgroupCreate hgroup)) ?_⟩
    · exact hadded.symm ▸ he
    · rintro l ⟨⟩
      trivial
  | claimIdleEntries =>
    obtain ⟨hadded, -, -, hclaimed, -⟩ := hgroup.xautoclaim now consumer importEventsIdleMs
      listener.pendingStartId importEventsReadCount w.redis
    have hkept := h.kept.xautoclaim hgroup now consumer listener.pendingStartId importEventsIdleMs
      importEventsReadCount
    refine ⟨recorded, Counted.update (h.redis (fun e he => ?_) hkept) ?_⟩
    · exact hadded.symm ▸ he
    · rintro l ⟨⟩
      split
      · trivial
      · exact ImportEventListener.entries_sound _ fun e he => hadded.symm ▸ (hclaimed e he).1
  | xreadgroup =>
    obtain ⟨hadded, -, hread, -, -⟩ :=
      hgroup.xreadgroup now consumer importEventsReadCount w.redis
    have hkept := h.kept.xreadgroup hgroup now consumer importEventsReadCount
    refine ⟨recorded, Counted.update (h.redis (fun e he => ?_) hkept) ?_⟩
    · exact hadded.symm ▸ he
    · rintro l ⟨⟩
      refine ImportEventListener.entries_sound _ fun e he => hadded.symm ▸ ?_
      exact hgroup.ahead_added w.redis e (hread e he)
  | record entry rest =>
    rw [hturn] at hsound
    cases hevent : entryEvent rt entry with
    | error e =>
      simp only [hevent]
      exact ⟨recorded, h.update fun l hl => by cases hl⟩
    | ok event =>
      simp only [hevent]
      obtain ⟨recorded', h'⟩ := h.record (hsound entry List.mem_cons_self) hevent now
      refine ⟨recorded', h'.update ?_⟩
      rintro l ⟨⟩
      have hstored := (recordImportEvent_stores event entry.messageId now w.db).1
      exact ⟨fun e he => hsound e (List.mem_cons_of_mem _ he), (hstored _).mpr (.inr rfl)⟩
  | ack entry rest =>
    rw [hturn] at hsound
    have hadded := (hgroup.xack entry.messageId w.redis).1
    -- what has the id of a recorded entry was recorded
    have hack : ∀ e ∈ group.added w.redis, group.id e = entry.messageId → e ∈ recorded := by
      intro e he heq
      rw [hid] at heq
      change e.messageId = entry.messageId at heq
      refine h.mem_recorded hgroup hid he ?_
      rw [heq]
      exact hsound.2
    refine ⟨recorded, Counted.update (h.redis (fun e he => ?_) (h.kept.xack hgroup hack)) ?_⟩
    · exact hadded.symm ▸ he
    · rintro l ⟨⟩
      exact ImportEventListener.entries_sound _ fun e he => hadded.symm ▸ hsound.1 e he

theorem contribution_acceptedEvent (importId datasetName : String) :
    contribution (acceptedEvent importId datasetName) = 0 := by
  simp [contribution, runUpdatesForEvent, acceptedEvent]

theorem contribution_forwardingFailure (importId profileName err : String) :
    contribution (forwardingFailure importId profileName err) = 0 := by
  simp [contribution, runUpdatesForEvent, forwardingFailure]

/-- **Any step keeps the count.** -/
theorem Counted.step (hgroup : group.Documented StreamEntry.fields)
    (hid : group.id = (·.messageId)) (h : Counted rt counters recorded w) {action : ListenerAction}
    (hstep : listenerStep rt w action = some w') :
    ∃ recorded', Counted rt counters recorded' w' := by
  cases action with
  | publish fields now =>
    cases hstep
    have hadded := (hgroup.xadd now fields w.redis).1
    refine ⟨recorded, h.redis (fun e he => ?_) (h.kept.xadd hgroup now fields)⟩
    rw [hadded]
    exact List.mem_append_left _ he
  | start consumer =>
    rw [listenerStep] at hstep
    split at hstep
    · cases hstep
    · cases hstep
      refine ⟨recorded, h.update ?_⟩
      rintro l ⟨⟩
      trivial
  | turn consumer now =>
    obtain ⟨listener, hlistener, rfl⟩ := Option.map_eq_some_iff.mp hstep
    exact h.listenerTurn hgroup hid consumer now (h.listeners consumer listener hlistener)
  | stop consumer =>
    cases hstep
    exact ⟨recorded, h.update fun l hl => by cases hl⟩
  | recordAccepted importId datasetName now =>
    cases hstep
    exact ⟨recorded, h.recordOwn (contribution_acceptedEvent importId datasetName) now⟩
  | recordFailure importId profileName err now =>
    cases hstep
    exact ⟨recorded, h.recordOwn (contribution_forwardingFailure importId profileName err) now⟩

/-- A listener that nobody disturbs takes the entries of a response as
`consumeImportEvents` does. -/
theorem run_entries {consumer : String} {listener : ImportEventListener}
    {entries : List (StreamEntry × ℕ)} (hentries : ∀ e ∈ entries, WellFormed rt e.1)
    (hlistener : w.listeners consumer = some (listener.entries (entries.map Prod.fst)))
    {t : Tracking} (hdb : t.db = w.db) :
    ∃ w', Runs.run (listenerStep rt) w
        (entries.flatMap fun e => [.turn consumer e.2, .turn consumer e.2]) = some w' ∧
      w'.db = (consumeImportEvents rt entries t).db ∧
      w'.listeners consumer = some { listener with turn := .claimIdleEntries } := by
  induction entries generalizing w t listener with
  | nil => exact ⟨w, rfl, hdb.symm, hlistener⟩
  | cons e entries ih =>
    obtain ⟨entry, now⟩ := e
    obtain ⟨event, hevent⟩ := hentries _ List.mem_cons_self
    have hturn : consumeEntry rt t entry now = .ok _ := consumeEntry_eq_ok.mpr ⟨event, hevent, rfl⟩
    -- the world after the entry was recorded and acknowledged
    let w₁ : ListenerWorld group :=
      { w with
        db := (recordImportEvent event (some entry.messageId) now w.db).1
        listeners := Function.update w.listeners consumer
          (some { listener with turn := .ack entry (entries.map Prod.fst) }) }
    let w₂ : ListenerWorld group :=
      { w₁ with
        redis := group.xack entry.messageId w.redis
        listeners := Function.update w₁.listeners consumer
          (some (listener.entries (entries.map Prod.fst))) }
    have hrecord : listenerStep rt w (.turn consumer now) = some w₁ := by
      rw [listenerStep, hlistener, Option.map_some, Gcjobs.listenerTurn]
      simp only [List.map_cons, ImportEventListener.entries, hevent]
      rfl
    have hack : listenerStep rt w₁ (.turn consumer now) = some w₂ := by
      have hself : w₁.listeners consumer =
          some { listener with turn := .ack entry (entries.map Prod.fst) } :=
        Function.update_self ..
      rw [listenerStep, hself, Option.map_some, Gcjobs.listenerTurn]
      cases entries <;> rfl
    obtain ⟨w', hrun, hdb', hlistener'⟩ := ih (w := w₂)
      (t := { t with
        db := (recordImportEvent event (some entry.messageId) now t.db).1
        acked := t.acked ++ [entry.messageId] })
      (fun e he => hentries e (List.mem_cons_of_mem _ he)) (Function.update_self ..) (by rw [hdb])
    refine ⟨w', ?_, ?_, hlistener'⟩
    · show Runs.run (listenerStep rt) w (.turn consumer now :: .turn consumer now :: _) = some w'
      rw [Runs.run_cons, hrecord, Option.bind_some, Runs.run_cons, hack, Option.bind_some]
      exact hrun
    · simp only [consumeImportEvents, hturn]
      exact hdb'

/-! ### The result -/

variable (rt) in
/-- **Every event is counted once, or is still there.**  Whichever processes listen,
claim, fail and start again, in every run from a new stream the counters of an import
have grown by what its recorded entries are worth, each once; an entry that is not
recorded waits, is pending, or was dropped from the stream; and when nothing waits,
nothing is pending and nothing was dropped, all entries are counted. -/
theorem importEvents_counted (hgroup : group.Documented StreamEntry.fields)
    (hid : group.id = (·.messageId)) {actions : List ListenerAction}
    (hstream : group.added w.redis = []) (htables : w.db.messageIds = [])
    (hlisteners : ∀ consumer, w.listeners consumer = none)
    (hrun : Runs.run (listenerStep rt) w actions = some w') :
    ∃ recorded : List StreamEntry,
      (recorded.map (·.messageId)).Nodup ∧
      (∀ e ∈ recorded, e ∈ group.added w'.redis ∧ WellFormed rt e) ∧
      w'.db.messageIds = recorded.map (·.messageId) ∧
      (∀ importId, w'.db.counters importId =
        w.db.counters importId + (recorded.map (entryContribution rt importId)).sum) ∧
      (∀ e ∈ group.added w'.redis, e ∈ recorded ∨ e ∈ group.ahead w'.redis ∨
        e.messageId ∈ group.pending w'.redis ∨ e ∉ group.stored w'.redis) ∧
      (group.ahead w'.redis = [] → group.pending w'.redis = [] →
        (∀ e ∈ group.added w'.redis, e ∈ group.stored w'.redis) →
        ∀ importId, w'.db.counters importId = w.db.counters importId +
          ((group.added w'.redis).map (entryContribution rt importId)).sum) := by
  -- nothing is recorded before the first step
  have hinit : Counted rt w.db.counters [] w := by
    refine ⟨fun e he => absurd he List.not_mem_nil, fun e he => absurd he List.not_mem_nil,
      List.nodup_nil, htables, fun importId => (add_zero _).symm, fun c l hl => ?_, ?_⟩
    · rw [hlisteners] at hl
      cases hl
    · intro e he
      rw [hstream] at he
      exact absurd he List.not_mem_nil
  obtain ⟨recorded, h⟩ := Runs.run_invariant
    (I := fun w' => ∃ recorded, Counted rt w.db.counters recorded w')
    (fun s a s' ⟨recorded, h⟩ hs => h.step hgroup hid hs) ⟨[], hinit⟩ hrun
  refine ⟨recorded, h.nodup, fun e he => ⟨h.added e he, h.wellFormed e he⟩, h.messageIds,
    h.counters, fun e he => ?_, fun hahead hpending hstored importId => ?_⟩
  · have hkept := h.kept e he
    rw [hid] at hkept
    tauto
  · -- the recorded entries are those that were added
    have hadded := hgroup.nodup_added w'.redis
    rw [hid] at hadded
    have hperm : recorded.Perm (group.added w'.redis) := by
      refine (List.perm_ext_iff_of_nodup h.nodup.of_map hadded.of_map).mpr fun e => ?_
      exact ⟨h.added e, fun he => h.kept.all_handled hahead hpending he (hstored e he)⟩
    rw [h.counters importId, (hperm.map _).sum_eq]

/-! ### A process that ends before it acknowledges -/

namespace Sample

/-- The fields that were added and given to the group, and those that were not given;
nothing is dropped. -/
structure Redis where
  given : List (List (String × String)) := []
  waiting : List (List (String × String)) := []
  unacknowledged : List String := []

/-- The entries from a place in the stream on. -/
def entriesFrom (k : ℕ) (stream : List (List (String × String))) : List StreamEntry :=
  (stream.zipIdx k).map fun x => ⟨Nat.repr x.2 ++ "-0", x.1⟩

/-- Redis, when every pending entry is idle. -/
def redis : ImportEvents where
  State := Redis
  id := (·.messageId)
  xgroupCreate s := s
  xadd _ fields s :=
    (⟨Nat.repr (s.given.length + s.waiting.length) ++ "-0", fields⟩,
      { s with waiting := s.waiting ++ [fields] })
  xreadgroup _ _ count s :=
    let entries := entriesFrom s.given.length (s.waiting.take count)
    (entries,
      { given := s.given ++ s.waiting.take count
        waiting := s.waiting.drop count
        unacknowledged := s.unacknowledged ++ entries.map (·.messageId) })
  xautoclaim _ _ _ _ count s :=
    (("0-0", ((entriesFrom 0 s.given).filter fun e => e.messageId ∈ s.unacknowledged).take count), s)
  xack messageId s :=
    { s with unacknowledged := s.unacknowledged.filter (· ≠ messageId) }
  added s := entriesFrom 0 (s.given ++ s.waiting)
  stored s := entriesFrom 0 (s.given ++ s.waiting)
  ahead s := entriesFrom s.given.length s.waiting
  pending s := s.unacknowledged

theorem entriesFrom_append (k : ℕ) (xs ys : List (List (String × String))) :
    entriesFrom k (xs ++ ys) = entriesFrom k xs ++ entriesFrom (k + xs.length) ys := by
  rw [entriesFrom, List.zipIdx_append, List.map_append]
  rfl

theorem nodup_entriesFrom (k : ℕ) (xs : List (List (String × String))) :
    ((entriesFrom k xs).map (·.messageId)).Nodup := by
  have hids : (entriesFrom k xs).map (·.messageId) =
      (List.range' k xs.length).map fun i => Nat.repr i ++ "-0" := by
    rw [entriesFrom, List.map_map, ← List.zipIdx_map_snd k xs, List.map_map]
    rfl
  rw [hids]
  refine List.Nodup.map (fun i j h => ?_) (List.nodup_range' 1 one_pos)
  exact Sql.repr_injective ((String.append_left_inj _).mp h)

theorem redis_documented : redis.Documented StreamEntry.fields where
  stored_added s e he := he
  ahead_added s e he := by
    show e ∈ entriesFrom 0 (s.given ++ s.waiting)
    rw [entriesFrom_append, Nat.zero_add]
    exact List.mem_append_right _ he
  nodup_added s := nodup_entriesFrom 0 _
  xgroupCreate s := ⟨rfl, rfl, rfl, rfl⟩
  xadd now x s := by
    have hadded : entriesFrom 0 (s.given ++ (s.waiting ++ [x])) =
        entriesFrom 0 (s.given ++ s.waiting) ++
          [⟨Nat.repr (s.given.length + s.waiting.length) ++ "-0", x⟩] := by
      rw [← List.append_assoc, entriesFrom_append, Nat.zero_add, List.length_append]
      rfl
    refine ⟨hadded, rfl, fun e he => ?_, fun e he _ => ?_, rfl⟩
    · change e ∈ entriesFrom 0 (s.given ++ (s.waiting ++ [x])) at he
      rw [hadded, List.mem_append, List.mem_singleton] at he
      exact he
    · show e ∈ entriesFrom s.given.length (s.waiting ++ [x])
      rw [entriesFrom_append, List.mem_append]
      exact he.imp id List.mem_singleton.mpr
  xreadgroup now consumer count s := by
    have hahead : entriesFrom s.given.length s.waiting =
        entriesFrom s.given.length (s.waiting.take count) ++
          entriesFrom (s.given ++ s.waiting.take count).length (s.waiting.drop count) := by
      rw [List.length_append, ← entriesFrom_append, List.take_append_drop]
    have hadded : s.given ++ s.waiting.take count ++ s.waiting.drop count = s.given ++ s.waiting := by
      rw [List.append_assoc, List.take_append_drop]
    refine ⟨congrArg (entriesFrom 0) hadded, congrArg (entriesFrom 0) hadded, fun e he => ?_,
      fun e he => ?_, fun i hi => List.mem_append_left _ hi⟩
    · show e ∈ entriesFrom s.given.length s.waiting
      rw [hahead]
      exact List.mem_append_left _ he
    · change e ∈ entriesFrom s.given.length s.waiting at he
      rw [hahead, List.mem_append] at he
      rcases he with he | he
      · exact .inr (List.mem_append_right _ (List.mem_map_of_mem he))
      · exact .inl he
  xautoclaim now consumer idle startId count s := by
    refine ⟨rfl, rfl, rfl, fun e he => ?_, fun i hi => .inl hi⟩
    obtain ⟨hgiven, hpending⟩ := List.mem_filter.mp (List.mem_of_mem_take he)
    refine ⟨?_, of_decide_eq_true hpending⟩
    show e ∈ entriesFrom 0 (s.given ++ s.waiting)
    rw [entriesFrom_append]
    exact List.mem_append_left _ hgiven
  xack i s := by
    refine ⟨rfl, rfl, rfl, fun j => ?_⟩
    exact List.mem_filter.trans (and_congr_right fun _ => decide_eq_true_iff)

/-- Payloads that are the name of an event about two features. -/
def batchRuntime : Runtime where
  loads payload := some (.obj [("import_id", .str "run"), ("event", .str payload)])
  store members :=
    match members.lookup "event" with
    | some (.str name) => .ok { importId := "run", event := name, batchSize := some 2 }
    | _ => .error "no such event"

/-- A batch; the process that records it ends before it acknowledges the entry, and
another one claims it. -/
def interrupted : List ListenerAction :=
  [.publish [("event", "import.batch.succeeded")] 1, .start "a", .turn "a" 2, .turn "a" 3,
    .turn "a" 4, .turn "a" 5, .stop "a", .start "b", .turn "b" 6, .turn "b" 7, .turn "b" 8,
    .turn "b" 9]

def newStream : ListenerWorld redis := ⟨{}, Db.empty, fun _ => none⟩

end Sample

open Sample in
/-- The batch is recorded twice and counted once. -/
theorem importEvents_counted_interrupted :
    ∃ w, Runs.run (listenerStep batchRuntime) newStream interrupted = some w ∧
      w.db.counters "run" =
        { processedFeatures := 2, succeededFeatures := 2, processedBatches := 1,
          succeededBatches := 1 } := by
  obtain ⟨w, hrun, hahead, hpending, hstored, hcount⟩ : ∃ w,
      Runs.run (listenerStep batchRuntime) newStream interrupted = some w ∧
      redis.ahead w.redis = [] ∧ redis.pending w.redis = [] ∧
      (∀ e ∈ redis.added w.redis, e ∈ redis.stored w.redis) ∧
      ((redis.added w.redis).map (entryContribution batchRuntime "run")).sum =
        { processedFeatures := 2, succeededFeatures := 2, processedBatches := 1,
          succeededBatches := 1 } :=
    ⟨_, rfl, rfl, rfl, fun e he => he, by decide⟩
  obtain ⟨recorded, -, -, -, -, -, hrest⟩ := importEvents_counted batchRuntime redis_documented rfl
    (show redis.added newStream.redis = [] from rfl) rfl (fun _ => rfl) hrun
  refine ⟨w, hrun, ?_⟩
  rw [hrest hahead hpending hstored "run", hcount]
  rfl

end Gcjobs
