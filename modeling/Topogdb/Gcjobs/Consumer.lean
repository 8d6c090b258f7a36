/-
The stream consumer of gcjobs (`consume_import_events` in `gcjobs/service.py`,
`_stream_message` in `gcjobs/pubsub.py`).

The loop, the decoding generator and the recording share one `try`, so the first
entry that raises ends the loop: it is not acknowledged, and neither it nor any
entry after it is recorded.

* `consumeImportEvents_eq` — a pass handles the entries before the first
  malformed one and stops there;
* `consumeImportEvents_records` — so a well-formed entry is recorded and
  acknowledged exactly when no malformed entry comes before it.
-/
import Topogdb.Gcjobs.Db
import Topogdb.Lib.Json
import Topogdb.Lib.Raises

namespace Gcjobs

/-- An entry of the stream: its id and its fields. -/
structure StreamEntry where
  messageId : String
  fields : List (String × String)

/-- What decoding and recording an entry can raise. -/
inductive ConsumerError where
  | valueError (message : String)
  | keyError (key : String)
  | store (message : String)
deriving DecidableEq

/-- What the consumer rests on: `json.loads`, none for its `JSONDecodeError`, and
psycopg with the columns of the two tables, which keep the fields of an event or
refuse them. -/
structure Runtime where
  loads : String → Option Json
  store : List (String × Json) → Except String Event

variable (rt : Runtime)

/-- `_stream_message`: the event of an entry. -/
def streamMessage (entry : StreamEntry) : Except ConsumerError (List (String × Json)) :=
  match entry.fields.lookup "event" with
  | none => .error (.valueError "Redis stream entry missing event payload")
  | some payload =>
    match rt.loads payload with
    | none => .error (.valueError "invalid JSON")
    | some (.obj members) => .ok members
    | some _ => .error (.valueError "Redis stream event payload must decode to an object")

/-- The values of an event that `record_import_event` writes. -/
def storedEvent (event : List (String × Json)) : Except ConsumerError Event := do
  if (event.lookup "import_id").isNone then .error (.keyError "import_id")
  if (event.lookup "event").isNone then .error (.keyError "event")
  (rt.store event).mapError .store

/-- What an entry asks to record. -/
def entryEvent (entry : StreamEntry) : Except ConsumerError Event := do
  storedEvent rt (← streamMessage rt entry)

/-- The tables, the acknowledged ids in order, and why the listener stopped. -/
structure Tracking where
  db : Db
  acked : List String := []
  stopped : Option ConsumerError := none

/-- One turn of the loop: record the event, then acknowledge its entry. -/
def consumeEntry (t : Tracking) (entry : StreamEntry) (now : ℕ) :
    Except ConsumerError Tracking := do
  let event ← entryEvent rt entry
  .ok { t with
    db := (recordImportEvent event (some entry.messageId) now t.db).1
    acked := t.acked ++ [entry.messageId] }

/-- `consume_import_events`, over entries with the database clock at their turn. -/
def consumeImportEvents : List (StreamEntry × ℕ) → Tracking → Tracking
  | [], t => t
  | (entry, now) :: rest, t =>
    match consumeEntry rt t entry now with
    | .ok t => consumeImportEvents rest t
    -- "Import event listener stopped"
    | .error e => { t with stopped := some e }

/-! ### One entry -/

/-- An object with `import_id` and `event` whose fields the tables can store. -/
def WellFormed (entry : StreamEntry) : Prop := ∃ event, entryEvent rt entry = .ok event

instance (entry : StreamEntry) : Decidable (WellFormed rt entry) :=
  match h : entryEvent rt entry with
  | .ok event => isTrue ⟨event, h⟩
  | .error e => isFalse fun ⟨event, h'⟩ => by cases h.symm.trans h'

/-- The event row of the entry is stored, its run is there, and it is
acknowledged. -/
structure Handled (t : Tracking) (entry : StreamEntry) : Prop where
  stored : entry.messageId ∈ t.db.messageIds
  run : ∀ event, entryEvent rt entry = .ok event → (t.db.importRun.lookup event.importId).isSome
  acked : entry.messageId ∈ t.acked

variable {rt}

/-- An entry is well-formed if its payload is an object with the two keys, and
the tables can store its fields. -/
theorem wellFormed_iff {entry : StreamEntry} :
    WellFormed rt entry ↔ ∃ payload members, entry.fields.lookup "event" = some payload ∧
      rt.loads payload = some (.obj members) ∧ (members.lookup "import_id").isSome ∧
      (members.lookup "event").isSome ∧ ∃ event, rt.store members = .ok event := by
  have hstored : ∀ members event, storedEvent rt members = .ok event ↔
      (members.lookup "import_id").isSome ∧ (members.lookup "event").isSome ∧
        rt.store members = .ok event := by
    intro members event
    rw [storedEvent]
    cases members.lookup "import_id" with
    | none => simp
    | some importId =>
      cases members.lookup "event" with
      | none => simp
      | some name => cases rt.store members <;> simp [Except.mapError]
  constructor
  · rintro ⟨event, h⟩
    obtain ⟨members, hmessage, h⟩ := Except.bind_eq_ok.mp h
    rw [streamMessage] at hmessage
    split at hmessage
    · cases hmessage
    · next payload hpayload =>
      split at hmessage
      · cases hmessage
      · next members' hloads =>
        cases hmessage
        obtain ⟨himport, hevent, hstore⟩ := (hstored members event).mp h
        exact ⟨payload, members, hpayload, hloads, himport, hevent, event, hstore⟩
      · cases hmessage
  · rintro ⟨payload, members, hpayload, hloads, himport, hevent, event, hstore⟩
    refine ⟨event, Except.bind_eq_ok.mpr ⟨members, ?_, ?_⟩⟩
    · simp only [streamMessage, hpayload, hloads]
    · exact (hstored members event).mpr ⟨himport, hevent, hstore⟩

/-- Recording stores the message and its run, and no other message. -/
theorem recordImportEvent_stores (event : Event) (m : String) (now : ℕ) (db : Db) :
    (∀ m', m' ∈ (recordImportEvent event (some m) now db).1.messageIds ↔
        m' ∈ db.messageIds ∨ m' = m) ∧
      ∀ runId, ((recordImportEvent event (some m) now db).1.importRun.lookup runId).isSome ↔
        (db.importRun.lookup runId).isSome ∨ runId = event.importId := by
  by_cases h : m ∈ db.messageIds
  · rw [recordImportEvent_duplicate event now h, insertRun_messageIds]
    refine ⟨fun m' => ⟨Or.inl, ?_⟩, fun runId => ?_⟩
    · rintro (hm | rfl)
      · exact hm
      · exact h
    · rw [insertRun_lookup]
      by_cases hr : runId = event.importId
      · simp [hr]
      · simp [hr]
  · have hfresh : ∀ m', some m = some m' → m' ∉ db.messageIds := by
      intro m' hm'
      cases hm'
      exact h
    obtain ⟨hids, hlookup⟩ := recordImportEvent_fresh event now hfresh
    refine ⟨fun m' => by simp [hids], fun runId => ?_⟩
    rw [hlookup]
    by_cases hr : runId = event.importId
    · simp [hr]
    · simp [hr]

/-! ### One turn -/

theorem consumeEntry_eq_ok {t t' : Tracking} {entry : StreamEntry} {now : ℕ} :
    consumeEntry rt t entry now = .ok t' ↔ ∃ event, entryEvent rt entry = .ok event ∧
      t' = { t with
        db := (recordImportEvent event (some entry.messageId) now t.db).1
        acked := t.acked ++ [entry.messageId] } := by
  rw [consumeEntry, Except.bind_eq_ok]
  exact exists_congr fun event => and_congr_right fun _ => by simp [eq_comm]

/-- A turn fails exactly on a malformed entry. -/
theorem consumeEntry_error {t : Tracking} {entry : StreamEntry} {now : ℕ}
    (h : ¬ WellFormed rt entry) : ∃ e, consumeEntry rt t entry now = .error e := by
  cases hturn : consumeEntry rt t entry now with
  | error e => exact ⟨e, rfl⟩
  | ok t' =>
    obtain ⟨event, hevent, -⟩ := consumeEntry_eq_ok.mp hturn
    exact absurd ⟨event, hevent⟩ h

/-- A turn handles its entry. -/
theorem handled_consumeEntry {t t' : Tracking} {entry : StreamEntry} {now : ℕ}
    (h : consumeEntry rt t entry now = .ok t') : Handled rt t' entry := by
  obtain ⟨event, hevent, rfl⟩ := consumeEntry_eq_ok.mp h
  obtain ⟨hids, hruns⟩ := recordImportEvent_stores event entry.messageId now t.db
  refine ⟨(hids _).mpr (Or.inr rfl), fun event' hevent' => ?_, by simp⟩
  cases hevent.symm.trans hevent'
  exact (hruns _).mpr (Or.inr rfl)

/-- A turn leaves what is handled so. -/
theorem Handled.consumeEntry {t t' : Tracking} {entry other : StreamEntry} {now : ℕ}
    (h : Handled rt t entry) (hturn : Gcjobs.consumeEntry rt t other now = .ok t') :
    Handled rt t' entry := by
  obtain ⟨event, -, rfl⟩ := consumeEntry_eq_ok.mp hturn
  obtain ⟨hids, hruns⟩ := recordImportEvent_stores event other.messageId now t.db
  exact ⟨(hids _).mpr (Or.inl h.stored), fun e he => (hruns _).mpr (Or.inl (h.run e he)),
    List.mem_append_left _ h.acked⟩

/-! ### A pass -/

/-- Well-formed entries are handled one after another. -/
theorem consumeImportEvents_append {before : List (StreamEntry × ℕ)}
    (h : ∀ x ∈ before, WellFormed rt x.1) (rest : List (StreamEntry × ℕ)) (t : Tracking) :
    consumeImportEvents rt (before ++ rest) t
      = consumeImportEvents rt rest (consumeImportEvents rt before t) := by
  induction before generalizing t with
  | nil => rfl
  | cons x before ih =>
    obtain ⟨entry, now⟩ := x
    obtain ⟨event, hevent⟩ := h _ List.mem_cons_self
    have hturn : consumeEntry rt t entry now = .ok _ := consumeEntry_eq_ok.mpr ⟨event, hevent, rfl⟩
    simp only [List.cons_append, consumeImportEvents, hturn]
    exact ih (fun x hx => h x (List.mem_cons_of_mem _ hx)) _

/-- At a malformed entry the pass stops. -/
theorem consumeImportEvents_stops {entry : StreamEntry} (h : ¬ WellFormed rt entry) (now : ℕ)
    (rest : List (StreamEntry × ℕ)) (t : Tracking) :
    ∃ e, consumeImportEvents rt ((entry, now) :: rest) t = { t with stopped := some e } := by
  obtain ⟨e, hturn⟩ : ∃ e, consumeEntry rt t entry now = .error e := consumeEntry_error h
  exact ⟨e, by simp only [consumeImportEvents, hturn]⟩

/-- What is handled stays handled to the end of a pass. -/
theorem Handled.consumeImportEvents {entry : StreamEntry} (entries : List (StreamEntry × ℕ))
    {t : Tracking} (h : Handled rt t entry) :
    Handled rt (consumeImportEvents rt entries t) entry := by
  induction entries generalizing t with
  | nil => exact h
  | cons x entries ih =>
    rw [Gcjobs.consumeImportEvents]
    split
    · next t' hturn => exact ih (h.consumeEntry hturn)
    · exact ⟨h.stored, h.run, h.acked⟩

variable (rt) in
/-- A pass stores and acknowledges only what it is given. -/
theorem mem_of_consumeImportEvents (entries : List (StreamEntry × ℕ)) (t : Tracking) (m : String) :
    (m ∈ (consumeImportEvents rt entries t).db.messageIds →
        m ∈ t.db.messageIds ∨ ∃ x ∈ entries, x.1.messageId = m) ∧
      (m ∈ (consumeImportEvents rt entries t).acked →
        m ∈ t.acked ∨ ∃ x ∈ entries, x.1.messageId = m) := by
  induction entries generalizing t with
  | nil => exact ⟨Or.inl, Or.inl⟩
  | cons x entries ih =>
    rw [consumeImportEvents]
    split
    · next t' hturn =>
      obtain ⟨event, -, rfl⟩ := consumeEntry_eq_ok.mp hturn
      obtain ⟨hstored, hacked⟩ := ih
        { t with
          db := (recordImportEvent event (some x.1.messageId) x.2 t.db).1
          acked := t.acked ++ [x.1.messageId] }
      constructor
      · intro hm
        rcases hstored hm with hm | ⟨y, hy, rfl⟩
        · rcases ((recordImportEvent_stores event x.1.messageId x.2 t.db).1 m).mp hm with hm | rfl
          · exact Or.inl hm
          · exact Or.inr ⟨x, List.mem_cons_self, rfl⟩
        · exact Or.inr ⟨y, List.mem_cons_of_mem _ hy, rfl⟩
      · intro hm
        rcases hacked hm with hm | ⟨y, hy, rfl⟩
        · rcases List.mem_append.mp hm with hm | hm
          · exact Or.inl hm
          · exact Or.inr ⟨x, List.mem_cons_self, (List.mem_singleton.mp hm).symm⟩
        · exact Or.inr ⟨y, List.mem_cons_of_mem _ hy, rfl⟩
    · exact ⟨Or.inl, Or.inl⟩

/-- A list with a malformed entry has a first one. -/
theorem exists_first_malformed {entries : List (StreamEntry × ℕ)}
    (h : ∃ x ∈ entries, ¬ WellFormed rt x.1) :
    ∃ before entry now after, entries = before ++ (entry, now) :: after ∧
      (∀ x ∈ before, WellFormed rt x.1) ∧ ¬ WellFormed rt entry := by
  induction entries with
  | nil =>
    obtain ⟨x, hx, -⟩ := h
    exact absurd hx List.not_mem_nil
  | cons x entries ih =>
    by_cases hx : WellFormed rt x.1
    · obtain ⟨y, hy, hmalformed⟩ := h
      have hy : y ∈ entries := by
        rcases List.mem_cons.mp hy with rfl | hy
        · exact absurd hx hmalformed
        · exact hy
      obtain ⟨before, entry, now, after, rfl, hbefore, hentry⟩ := ih ⟨y, hy, hmalformed⟩
      refine ⟨x :: before, entry, now, after, rfl, fun z hz => ?_, hentry⟩
      rcases List.mem_cons.mp hz with rfl | hz
      · exact hx
      · exact hbefore z hz
    · exact ⟨[], x.1, x.2, entries, rfl, fun z hz => absurd hz List.not_mem_nil, hx⟩

/-! ### A stream with one malformed entry -/

namespace Sample

def startedPayload : String := "\x7b\"import_id\": \"run\", \"event\": \"import.started\"\x7d"

def runtime : Runtime where
  loads payload :=
    if payload = startedPayload then
      some (.obj [("import_id", .str "run"), ("event", .str "import.started")])
    else none
  store members :=
    match members.lookup "import_id", members.lookup "event" with
    | some (.str importId), some (.str event) => .ok { importId := importId, event := event }
    | _, _ => .error "cannot adapt type 'dict'"

def started (messageId : String) : StreamEntry := ⟨messageId, [("event", startedPayload)]⟩

/-- An entry without an `event` field. -/
def malformed (messageId : String) : StreamEntry := ⟨messageId, []⟩

theorem wellFormed_started (messageId : String) : WellFormed runtime (started messageId) :=
  ⟨{ importId := "run", event := "import.started" }, rfl⟩

theorem not_wellFormed_malformed (messageId : String) :
    ¬ WellFormed runtime (malformed messageId) := by
  rintro ⟨event, h⟩
  cases h

end Sample

/-! ### The result -/

/-- **A well-formed entry is handled unless a malformed one comes before it.**
Without one it is recorded and acknowledged; with one the listener has stopped,
and unless its message was delivered before, it is neither. -/
theorem consumeImportEvents_records (rt : Runtime) (t : Tracking)
    (before after : List (StreamEntry × ℕ)) (entry : StreamEntry) (now : ℕ)
    (hentry : WellFormed rt entry) :
    ((∀ x ∈ before, WellFormed rt x.1) →
      Handled rt (consumeImportEvents rt (before ++ (entry, now) :: after) t) entry) ∧
    ((∃ x ∈ before, ¬ WellFormed rt x.1) →
      (consumeImportEvents rt (before ++ (entry, now) :: after) t).stopped.isSome ∧
      ((∀ x ∈ before, x.1.messageId ≠ entry.messageId) →
        (entry.messageId ∉ t.db.messageIds → entry.messageId ∉
          (consumeImportEvents rt (before ++ (entry, now) :: after) t).db.messageIds) ∧
        (entry.messageId ∉ t.acked → entry.messageId ∉
          (consumeImportEvents rt (before ++ (entry, now) :: after) t).acked))) := by
  constructor
  · intro hbefore
    obtain ⟨event, hevent⟩ := hentry
    have hturn : consumeEntry rt (consumeImportEvents rt before t) entry now = .ok _ :=
      consumeEntry_eq_ok.mpr ⟨event, hevent, rfl⟩
    rw [consumeImportEvents_append hbefore]
    simp only [consumeImportEvents, hturn]
    exact (handled_consumeEntry hturn).consumeImportEvents after
  · intro hmalformed
    obtain ⟨first, bad, time, rest, rfl, hfirst, hbad⟩ := exists_first_malformed hmalformed
    rw [List.append_assoc, List.cons_append, consumeImportEvents_append hfirst]
    obtain ⟨e, hstops⟩ := consumeImportEvents_stops hbad time (rest ++ (entry, now) :: after)
      (consumeImportEvents rt first t)
    rw [hstops]
    refine ⟨rfl, fun hother => ?_⟩
    -- the tables are those after the entries before the malformed one
    have hnot : ¬ ∃ x ∈ first, x.1.messageId = entry.messageId := by
      rintro ⟨x, hx, heq⟩
      exact hother x (List.mem_append_left _ hx) heq
    obtain ⟨hstored, hacked⟩ := mem_of_consumeImportEvents rt first t entry.messageId
    exact ⟨fun hnew hm => (hstored hm).elim hnew hnot, fun hnew hm => (hacked hm).elim hnew hnot⟩

/-- The entry before the malformed one is handled, the one after it is not. -/
theorem consumeImportEvents_records_sample :
    let entries := [(Sample.started "1-0", 5), (Sample.malformed "2-0", 6), (Sample.started "3-0", 7)]
    let t := consumeImportEvents Sample.runtime entries ⟨Db.empty, [], none⟩
    Handled Sample.runtime t (Sample.started "1-0") ∧ t.stopped.isSome ∧ "3-0" ∉ t.acked := by
  obtain ⟨hhandled, -⟩ := consumeImportEvents_records Sample.runtime ⟨Db.empty, [], none⟩ []
    [(Sample.malformed "2-0", 6), (Sample.started "3-0", 7)] (Sample.started "1-0") 5
    (Sample.wellFormed_started "1-0")
  obtain ⟨-, hlost⟩ := consumeImportEvents_records Sample.runtime ⟨Db.empty, [], none⟩
    [(Sample.started "1-0", 5), (Sample.malformed "2-0", 6)] [] (Sample.started "3-0") 7
    (Sample.wellFormed_started "3-0")
  obtain ⟨hstopped, hnot⟩ := hlost
    ⟨(Sample.malformed "2-0", 6), by simp, Sample.not_wellFormed_malformed "2-0"⟩
  exact ⟨hhandled (by simp), hstopped, (hnot (by decide)).2 List.not_mem_nil⟩

/-- An entry without an event ends the listener: the well-formed entry after it
is neither recorded nor acknowledged. -/
theorem consumeImportEvents_stopped :
    let entries := [(Sample.malformed "1-0", 5), (Sample.started "2-0", 6)]
    let t := consumeImportEvents Sample.runtime entries ⟨Db.empty, [], none⟩
    WellFormed Sample.runtime (Sample.started "2-0") ∧ t.db.messageIds = [] ∧ t.acked = [] ∧
      ¬ Handled Sample.runtime t (Sample.started "2-0") :=
  ⟨Sample.wellFormed_started "2-0", rfl, rfl, fun h => absurd h.acked List.not_mem_nil⟩

end Gcjobs
