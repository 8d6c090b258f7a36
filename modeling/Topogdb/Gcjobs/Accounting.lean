/-
Import accounting is exactly-once.

The stream delivers a message at least once, to any consumer and in any order.
Seen through `book`, the two import tables are an exactly-once ledger
(`Lib/Ledger.lean`): its keys are the message ids, its accounts the runs, and a
message is worth the increments of its event.

* `book_deliver` — one call of `record_import_event` is one posting;
* `counters_deliverAll` — after any sequence of deliveries the counters of a
  run are the sums over its distinct messages;
* `import_accounting` — the same with order independence and the balance
  `processed = succeeded + failed`.
-/
import Topogdb.Lib.Ledger
import Topogdb.Gcjobs.Db

namespace Gcjobs

/-- One delivery of a stream entry: its message id and the clock at the call. -/
structure Delivery where
  messageId : String
  now : ℕ

/-- What one recorded event adds to the counters of its run. -/
def contribution (event : Event) : Counters := (runUpdatesForEvent event).counters

/-- The counters of a run; a run without a row has counted nothing. -/
def Db.counters (db : Db) (runId : String) : Counters :=
  ((db.importRun.lookup runId).map (·.counters)).getD {}

/-- The consumer records the delivered message; `msg` is the stream's content. -/
def deliver (msg : String → Event) (db : Db) (d : Delivery) : Db :=
  (recordImportEvent (msg d.messageId) (some d.messageId) d.now db).1

/-- Any finite sequence of deliveries, from the empty tables. -/
def deliverAll (msg : String → Event) (ds : List Delivery) : Db :=
  ds.foldl (deliver msg) Db.empty

/-- The distinct messages of one run among the deliveries. -/
def messagesOf (msg : String → Event) (ds : List Delivery) (runId : String) : Finset String :=
  (ds.map (·.messageId)).toFinset.filter (fun m => (msg m).importId = runId)

variable {msg : String → Event}

/-! ### The tables are an exactly-once ledger -/

/-- The ledger that the import tables represent. -/
def book (db : Db) : Ledger.Book String String Counters :=
  ⟨db.messageIds.toFinset, db.counters⟩

theorem counters_insertRun (event : Event) (now : ℕ) (db : Db) (runId : String) :
    (insertRun event now db).counters runId = db.counters runId := by
  simp only [Db.counters, insertRun_lookup]
  by_cases hr : runId = event.importId
  · subst hr
    rw [if_pos rfl]
    cases db.importRun.lookup event.importId <;> rfl
  · rw [if_neg hr]

/-- A recorded event adds its contribution to the counters of its own run. -/
theorem counters_record (event : Event) {messageId : Option String} (now : ℕ) {db : Db}
    (h : ∀ m, messageId = some m → m ∉ db.messageIds) (runId : String) :
    (recordImportEvent event messageId now db).1.counters runId
      = if event.importId = runId then db.counters runId + contribution event
        else db.counters runId := by
  have hlookup := (recordImportEvent_fresh event now h).2 runId
  simp only [Db.counters, hlookup]
  by_cases hr : event.importId = runId
  · subst hr
    rw [if_pos rfl, if_pos rfl]
    cases db.importRun.lookup event.importId <;> rfl
  · rw [if_neg hr, if_neg (Ne.symm hr)]

/-- **Refinement.**  One call of `record_import_event` is one ledger posting. -/
theorem book_deliver (db : Db) (d : Delivery) :
    book (deliver msg db d)
      = Ledger.post (fun m => (msg m).importId) (fun m => contribution (msg m)) (book db)
          d.messageId := by
  by_cases hm : d.messageId ∈ db.messageIds
  · have hdup : deliver msg db d = insertRun (msg d.messageId) d.now db :=
      recordImportEvent_duplicate _ _ hm
    have hposted : d.messageId ∈ (book db).posted := by simpa [book] using hm
    rw [Ledger.post, if_pos hposted, hdup, book, insertRun_messageIds, book]
    congr 1
    funext runId
    exact counters_insertRun _ _ _ _
  · have hfresh : ∀ m, some d.messageId = some m → m ∉ db.messageIds := by
      rintro m ⟨⟩
      exact hm
    have hposted : d.messageId ∉ (book db).posted := by simpa [book] using hm
    have hids := (recordImportEvent_fresh (msg d.messageId) d.now hfresh).1
    rw [Ledger.post, if_neg hposted, book, deliver, hids, book]
    congr 1
    · ext m
      simp
    · funext runId
      exact counters_record _ _ hfresh runId

theorem book_deliverAll (ds : List Delivery) :
    book (deliverAll msg ds)
      = Ledger.postAll (fun m => (msg m).importId) (fun m => contribution (msg m))
          (ds.map (·.messageId)) := by
  induction ds using List.reverseRecOn with
  | nil => rfl
  | append_singleton ds d ih =>
    have hstep : deliverAll msg (ds ++ [d]) = deliver msg (deliverAll msg ds) d := by
      simp [deliverAll]
    rw [hstep, book_deliver, ih, List.map_append, List.map_singleton,
      Ledger.postAll_append_singleton]

/-! ### The accounting laws -/

/-- The counters of a run are the sums over its distinct messages. -/
theorem counters_deliverAll (ds : List Delivery) (runId : String) :
    (deliverAll msg ds).counters runId
      = ∑ m ∈ messagesOf msg ds runId, contribution (msg m) := by
  show (book (deliverAll msg ds)).balance runId = _
  rw [book_deliverAll, Ledger.balance_postAll, messagesOf]

/-- Every contribution splits what it processed into succeeded and failed. -/
theorem contribution_balanced (event : Event) :
    (contribution event).processedFeatures
        = (contribution event).succeededFeatures + (contribution event).failedFeatures ∧
      (contribution event).processedBatches
        = (contribution event).succeededBatches + (contribution event).failedBatches := by
  unfold contribution runUpdatesForEvent
  simp only
  split
  · simp
  · split <;> simp

theorem sum_balanced (s : Finset String) :
    (∑ m ∈ s, contribution (msg m)).processedFeatures
        = (∑ m ∈ s, contribution (msg m)).succeededFeatures
          + (∑ m ∈ s, contribution (msg m)).failedFeatures ∧
      (∑ m ∈ s, contribution (msg m)).processedBatches
        = (∑ m ∈ s, contribution (msg m)).succeededBatches
          + (∑ m ∈ s, contribution (msg m)).failedBatches := by
  induction s using Finset.induction_on with
  | empty => simp
  | insert m s hm ih =>
    obtain ⟨hf, hb⟩ := contribution_balanced (msg m)
    rw [Finset.sum_insert hm]
    simp only [Counters.add_def, ih.1, ih.2, hf, hb]
    constructor <;> omega

/-- **Import accounting is exactly-once and order-independent.**  However the
messages of the stream `msg` are delivered, the counters of every run are the
sums over the distinct messages of that run, so they depend on the set of
delivered messages only, and what was processed is what succeeded or failed. -/
theorem import_accounting (msg : String → Event) :
    (∀ (ds : List Delivery) (runId : String),
      (deliverAll msg ds).counters runId
        = ∑ m ∈ messagesOf msg ds runId, contribution (msg m)) ∧
    (∀ ds ds' : List Delivery,
      (ds.map (·.messageId)).toFinset = (ds'.map (·.messageId)).toFinset →
        ∀ runId, (deliverAll msg ds).counters runId = (deliverAll msg ds').counters runId) ∧
    (∀ (ds : List Delivery) (runId : String),
      let c := (deliverAll msg ds).counters runId
      c.processedFeatures = c.succeededFeatures + c.failedFeatures ∧
        c.processedBatches = c.succeededBatches + c.failedBatches) := by
  refine ⟨counters_deliverAll, ?_, ?_⟩
  · intro ds ds' hset runId
    show (book (deliverAll msg ds)).balance runId = (book (deliverAll msg ds')).balance runId
    rw [book_deliverAll, book_deliverAll]
    exact Ledger.balance_congr hset runId
  · intro ds runId
    show _ ∧ _
    rw [counters_deliverAll]
    exact sum_balanced _

/-- Two batches of one run, one of them redelivered, in two orders. -/
theorem import_accounting_redelivered :
    let msg : String → Event := fun m =>
      { importId := "run", event := Event.batchSucceeded, batchSize := some m.length }
    (deliverAll msg [⟨"1-0", 5⟩, ⟨"22-0", 6⟩, ⟨"1-0", 7⟩]).counters "run"
      = (deliverAll msg [⟨"22-0", 8⟩, ⟨"1-0", 9⟩]).counters "run" :=
  (import_accounting _).2.1 _ _ (by decide) _

end Gcjobs
