/-
Many imports in one stream.

The imports that run at a time publish into one stream, and the consumers of gcjobs
take its entries in any order and some of them again.  `lookup_recordAll` is about one
that has the tables for itself; here

* `lookup_recordAll_among` — the row of an import is a fold over the first deliveries
  of its own entries, whatever else is recorded between them;
* **`consumeImportEvents_own`** — so a job is what the consumer would have made of the
  entries of its import alone, each once.
-/
import Topogdb.Aggregation
import Topogdb.Gcjobs.Consumer

namespace Aggregation

open Gcjobs

/-- The deliveries that count: the first of each entry. -/
def firstDeliveries (messages : List Message) : List Message :=
  messages.foldl (fun firsts m =>
    if m.messageId ∈ firsts.map (·.messageId) then firsts else firsts ++ [m]) []

/-- The deliveries that count for an import. -/
def ownDeliveries (importId : String) (messages : List Message) : List Message :=
  (firstDeliveries messages).filter fun m => m.event.importId = importId

/-- The row after messages of its import, which the first of them creates. -/
def rowAfter (own : List Message) (row : Option ImportRun) : Option ImportRun :=
  match own.head? with
  | none => row
  | some m => some (foldRun own (row.getD (freshRun m.event m.now)))

/-! ### First deliveries -/

theorem firstDeliveries_concat (messages : List Message) (m : Message) :
    firstDeliveries (messages ++ [m]) =
      if m.messageId ∈ (firstDeliveries messages).map (·.messageId) then firstDeliveries messages
      else firstDeliveries messages ++ [m] := by
  rw [firstDeliveries, List.foldl_concat]
  rfl

/-- Each entry that is delivered has a first delivery, and only one. -/
theorem firstDeliveries_spec (messages : List Message) :
    (∀ m ∈ firstDeliveries messages, m ∈ messages) ∧
      (∀ m ∈ messages, m.messageId ∈ (firstDeliveries messages).map (·.messageId)) ∧
      ((firstDeliveries messages).map (·.messageId)).Nodup := by
  induction messages using List.reverseRecOn with
  | nil => exact ⟨fun m hm => hm, fun m hm => absurd hm List.not_mem_nil, List.nodup_nil⟩
  | append_singleton messages m ih =>
    obtain ⟨hsub, hall, hnodup⟩ := ih
    rw [firstDeliveries_concat]
    split
    · rename_i hdelivered
      refine ⟨fun m' hm' => List.mem_append_left _ (hsub m' hm'), fun m' hm' => ?_, hnodup⟩
      rcases List.mem_append.mp hm' with hm' | hm'
      · exact hall m' hm'
      · rw [List.mem_singleton] at hm'
        rw [hm']
        exact hdelivered
    · rename_i hnew
      rw [List.map_append]
      refine ⟨fun m' hm' => ?_, fun m' hm' => ?_, ?_⟩
      · rcases List.mem_append.mp hm' with hm' | hm'
        · exact List.mem_append_left _ (hsub m' hm')
        · exact List.mem_append_right _ hm'
      · rcases List.mem_append.mp hm' with hm' | hm'
        · exact List.mem_append_left _ (hall m' hm')
        · exact List.mem_append_right _ (List.mem_map_of_mem hm')
      · rw [List.nodup_append]
        refine ⟨hnodup, List.nodup_singleton _, fun i hi j hj => ?_⟩
        rw [List.map_singleton, List.mem_singleton] at hj
        intro heq
        exact hnew (hj ▸ heq ▸ hi)

/-! ### Recording them -/

/-- One more message of the import, after those before it. -/
theorem rowAfter_concat (own : List Message) (m : Message) (row : Option ImportRun) :
    rowAfter (own ++ [m]) row =
      some (updateRun m.event m.now ((rowAfter own row).getD (freshRun m.event m.now))) := by
  cases own with
  | nil => rfl
  | cons m' own =>
    rw [rowAfter, List.cons_append, List.head?_cons, ← List.cons_append]
    exact congrArg some (foldRun_concat _ _ _)

variable {messages : List Message} {db : Db}

/-- The tables after messages in any order: the message ids are those of the first
deliveries, and the row of an import has its own ones. -/
theorem lookup_recordAll_among
    (hsame : ∀ m ∈ messages, ∀ m' ∈ messages, m.messageId = m'.messageId →
      m.event.importId = m'.event.importId)
    (hfresh : ∀ m ∈ messages, m.messageId ∉ db.messageIds) :
    (recordAll messages db).messageIds =
        db.messageIds ++ (firstDeliveries messages).map (·.messageId) ∧
      ∀ importId, (recordAll messages db).importRun.lookup importId =
        rowAfter (ownDeliveries importId messages) (db.importRun.lookup importId) := by
  induction messages using List.reverseRecOn with
  | nil => exact ⟨(List.append_nil _).symm, fun _ => rfl⟩
  | append_singleton messages m ih =>
    obtain ⟨hids, hrows⟩ := ih
      (fun a ha b hb => hsame a (List.mem_append_left _ ha) b (List.mem_append_left _ hb))
      (fun a ha => hfresh a (List.mem_append_left _ ha))
    have hlast := List.mem_append_right messages (List.mem_singleton_self m)
    have hrecord : recordAll (messages ++ [m]) db =
        (recordImportEvent m.event (some m.messageId) m.now (recordAll messages db)).1 :=
      List.foldl_concat _ _ _ _
    rw [hrecord]
    by_cases hdelivered : m.messageId ∈ (firstDeliveries messages).map (·.messageId)
    · -- a redelivery: the entry was recorded, so its run is there
      have hstored : m.messageId ∈ (recordAll messages db).messageIds := by
        rw [hids]
        exact List.mem_append_right _ hdelivered
      obtain ⟨m', hm', heq⟩ := List.mem_map.mp hdelivered
      have himport : m'.event.importId = m.event.importId :=
        hsame m' (List.mem_append_left _ ((firstDeliveries_spec messages).1 m' hm')) m hlast heq
      have hrun : ∃ run, (recordAll messages db).importRun.lookup m.event.importId = some run := by
        rw [hrows, rowAfter]
        have hown : m' ∈ ownDeliveries m.event.importId messages :=
          List.mem_filter.mpr ⟨hm', decide_eq_true himport⟩
        cases hhead : (ownDeliveries m.event.importId messages).head? with
        | none =>
          rw [List.head?_eq_none_iff.mp hhead] at hown
          exact absurd hown List.not_mem_nil
        | some first => exact ⟨_, rfl⟩
      obtain ⟨run, hrun⟩ := hrun
      have hinsert : insertRun m.event m.now (recordAll messages db) = recordAll messages db := by
        rw [insertRun, hrun]
      have hdb : (recordImportEvent m.event (some m.messageId) m.now (recordAll messages db)).1 =
          recordAll messages db := by
        rw [recordImportEvent_duplicate m.event m.now hstored, hinsert]
      have hfirsts : firstDeliveries (messages ++ [m]) = firstDeliveries messages := by
        rw [firstDeliveries_concat, if_pos hdelivered]
      rw [hdb, hfirsts]
      refine ⟨hids, fun importId => ?_⟩
      rw [ownDeliveries, hfirsts]
      exact hrows importId
    · -- a first delivery: recorded in the row of its import alone
      have hnew : ∀ k, some m.messageId = some k → k ∉ (recordAll messages db).messageIds := by
        rintro k ⟨⟩ hk
        rw [hids, List.mem_append] at hk
        rcases hk with hk | hk
        · exact hfresh m hlast hk
        · exact hdelivered hk
      obtain ⟨hstored, hlookup⟩ := recordImportEvent_fresh m.event m.now hnew
      have hfirsts : firstDeliveries (messages ++ [m]) = firstDeliveries messages ++ [m] := by
        rw [firstDeliveries_concat, if_neg hdelivered]
      refine ⟨?_, fun importId => ?_⟩
      · rw [hstored, hids, hfirsts, List.map_append, List.append_assoc]
        rfl
      · rw [hlookup, ownDeliveries, hfirsts, List.filter_append]
        by_cases himport : importId = m.event.importId
        · subst himport
          have hown : [m].filter (fun m' => m'.event.importId = m.event.importId) = [m] := by
            simp
          rw [if_pos rfl, hown, rowAfter_concat, hrows]
          rfl
        · have hother : [m].filter (fun m' => m'.event.importId = importId) = [] := by
            simp [Ne.symm himport]
          rw [if_neg himport, hother, List.append_nil, hrows]
          rfl

/-- The own deliveries are about the import, and each of another entry. -/
theorem ownDeliveries_spec (importId : String) (messages : List Message) :
    (∀ m ∈ ownDeliveries importId messages, m ∈ messages ∧ m.event.importId = importId) ∧
      ((ownDeliveries importId messages).map (·.messageId)).Nodup := by
  obtain ⟨hsub, -, hnodup⟩ := firstDeliveries_spec messages
  refine ⟨fun m hm => ?_, hnodup.sublist (List.filter_sublist.map _)⟩
  obtain ⟨hfirst, hown⟩ := List.mem_filter.mp hm
  exact ⟨hsub m hfirst, of_decide_eq_true hown⟩

/-- Own deliveries are recorded as they are. -/
theorem recordAll_ownDeliveries (importId : String)
    (hfresh : ∀ m ∈ messages, m.messageId ∉ db.messageIds) :
    (recordAll (ownDeliveries importId messages) db).importRun.lookup importId =
      rowAfter (ownDeliveries importId messages) (db.importRun.lookup importId) := by
  obtain ⟨hown, hids⟩ := ownDeliveries_spec importId messages
  cases hlist : ownDeliveries importId messages with
  | nil => rfl
  | cons m own =>
    rw [hlist] at hown hids
    exact lookup_recordAll_cons m own db (fun m' hm' => (hown m' hm').2) hids
      fun m' hm' => hfresh m' (hown m' hm').1

/-! ### The consumer -/

variable {rt : Runtime}

/-- What well-formed entries ask to record. -/
def messagesOf (rt : Runtime) (entries : List (StreamEntry × ℕ)) : List Message :=
  entries.filterMap fun e => (entryEvent rt e.1).toOption.map fun event =>
    ⟨e.1.messageId, e.2, event⟩

theorem consumeImportEvents_db {entries : List (StreamEntry × ℕ)}
    (hentries : ∀ e ∈ entries, WellFormed rt e.1) (t : Tracking) :
    (consumeImportEvents rt entries t).db = recordAll (messagesOf rt entries) t.db := by
  induction entries generalizing t with
  | nil => rfl
  | cons e entries ih =>
    obtain ⟨entry, now⟩ := e
    obtain ⟨event, hevent⟩ := hentries _ List.mem_cons_self
    have hturn : consumeEntry rt t entry now = .ok _ := consumeEntry_eq_ok.mpr ⟨event, hevent, rfl⟩
    have hmessages : messagesOf rt ((entry, now) :: entries) =
        ⟨entry.messageId, now, event⟩ :: messagesOf rt entries := by
      simp [messagesOf, hevent, Except.toOption]
    rw [hmessages]
    simp only [consumeImportEvents, hturn]
    exact ih (fun e he => hentries e (List.mem_cons_of_mem _ he)) _

theorem mem_messagesOf {entries : List (StreamEntry × ℕ)} {m : Message}
    (h : m ∈ messagesOf rt entries) :
    ∃ e ∈ entries, m.messageId = e.1.messageId ∧ entryEvent rt e.1 = .ok m.event := by
  obtain ⟨e, he, hm⟩ := List.mem_filterMap.mp h
  obtain ⟨event, hevent, rfl⟩ := Option.map_eq_some_iff.mp hm
  refine ⟨e, he, rfl, ?_⟩
  cases hentry : entryEvent rt e.1 with
  | error _ =>
    rw [hentry] at hevent
    cases hevent
  | ok event' =>
    rw [hentry] at hevent
    cases hevent
    rfl

/-- What is asked of the entries holds of the messages. -/
theorem messagesOf_spec {t : Tracking} {entries : List (StreamEntry × ℕ)}
    (hsame : ∀ e ∈ entries, ∀ e' ∈ entries, e.1.messageId = e'.1.messageId → e.1 = e'.1)
    (hfresh : ∀ e ∈ entries, e.1.messageId ∉ t.db.messageIds) :
    (∀ m ∈ messagesOf rt entries, ∀ m' ∈ messagesOf rt entries,
        m.messageId = m'.messageId → m.event.importId = m'.event.importId) ∧
      ∀ m ∈ messagesOf rt entries, m.messageId ∉ t.db.messageIds := by
  constructor
  · intro m hm m' hm' hid
    obtain ⟨e, he, heid, hevent⟩ := mem_messagesOf hm
    obtain ⟨e', he', heid', hevent'⟩ := mem_messagesOf hm'
    have heq := hsame e he e' he' (heid.symm.trans (hid.trans heid'))
    rw [heq, hevent'] at hevent
    rw [Except.ok.inj hevent]
  · intro m hm
    obtain ⟨e, he, hid, -⟩ := mem_messagesOf hm
    rw [hid]
    exact hfresh e he

/-- **A job is made of the entries of its import**, the first delivery of each, in the
order that these come: other imports, and deliveries that come again, leave no trace
in it. -/
theorem consumeImportEvents_own (rt : Runtime) (t : Tracking) (entries : List (StreamEntry × ℕ))
    (hentries : ∀ e ∈ entries, WellFormed rt e.1)
    (hsame : ∀ e ∈ entries, ∀ e' ∈ entries, e.1.messageId = e'.1.messageId → e.1 = e'.1)
    (hfresh : ∀ e ∈ entries, e.1.messageId ∉ t.db.messageIds) (importId : String) :
    getImportRun (consumeImportEvents rt entries t).db importId =
      getImportRun (recordAll (ownDeliveries importId (messagesOf rt entries)) t.db) importId := by
  obtain ⟨himports, hmessages⟩ := messagesOf_spec hsame hfresh
  rw [consumeImportEvents_db hentries]
  exact ((lookup_recordAll_among himports hmessages).2 importId).trans
    (recordAll_ownDeliveries importId hmessages).symm

namespace Sample

/-- Entries with the import as their payload, each of them about its start. -/
def stream : Runtime where
  loads payload := some (.obj [("import_id", .str payload), ("event", .str "import.started")])
  store := Gcjobs.Sample.runtime.store

def entry (messageId importId : String) : StreamEntry := ⟨messageId, [("event", importId)]⟩

theorem wellFormed_entry (messageId importId : String) : WellFormed stream (entry messageId importId) :=
  ⟨{ importId := importId, event := "import.started" }, rfl⟩

end Sample

/-- Two imports in one stream, and an entry of the first that is delivered twice. -/
theorem consumeImportEvents_own_redelivered :
    let entries := [(Sample.entry "1-0" "a", 1), (Sample.entry "2-0" "b", 2),
      (Sample.entry "1-0" "a", 3), (Sample.entry "3-0" "a", 4)]
    getImportRun (consumeImportEvents Sample.stream entries ⟨Db.empty, [], none⟩).db "a" =
      getImportRun (recordAll
        [⟨"1-0", 1, { importId := "a", event := "import.started" }⟩,
          ⟨"3-0", 4, { importId := "a", event := "import.started" }⟩] Db.empty) "a" := by
  intro entries
  refine (consumeImportEvents_own Sample.stream ⟨Db.empty, [], none⟩ entries ?_ ?_ ?_ "a").trans rfl
  · simp only [entries, List.forall_mem_cons]
    exact ⟨Sample.wellFormed_entry _ _, Sample.wellFormed_entry _ _, Sample.wellFormed_entry _ _,
      Sample.wellFormed_entry _ _, fun e he => absurd he List.not_mem_nil⟩
  · simp [entries, Sample.entry]
  · intro e _
    exact List.not_mem_nil

end Aggregation
