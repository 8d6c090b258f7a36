/-
Drawing heights in the background (`upsertElevatedSources` in `gcmapview`'s
`mapDimension.ts`).

A call waits a moment, samples the terrain and starts a worker; a call that comes
meanwhile clears the timeout and terminates the worker of the one before it.  The
page runs one of its tasks at a time: a call, a timeout that is due, a message or an
error of a worker.  The model lets them come in any order and delivers a message of a
terminated worker too.

* `history_step` — the page only takes the steps of a display that shows the latest
  request;
* `Inv.step` — what is under way is for the latest call;
* **`upsertElevatedSources_latest`** — so every run draws the calls in their order,
  each at most once, and at rest the last one, unless its worker failed.
-/
import Topogdb.Gcmapview.Elevated
import Topogdb.Lib.LatestWins
import Topogdb.Lib.Runs

namespace Gcmapview

variable {Map : Type}

/-- What has become of a worker. -/
inductive WorkerStage where
  | working
  | posted
  | failed
deriving DecidableEq

/-- A `Worker`: the request it was posted, and the one its handlers are about. -/
structure ElevatedSourcesWorker (Map : Type) where
  pendingRequest : PendingElevatedSourcesRequest Map
  workerRequest : ElevatedSourcesWorkerRequest
  stage : WorkerStage := .working
  terminated : Bool := false

/-- The variables of `mapDimension.ts`, with what the browser has set up for it. -/
structure ElevatedPage (Map : Type) where
  activeElevatedSourcesWorker : Option ℕ := none
  latestElevatedSourcesRequestId : ℕ := 0
  pendingElevatedSourcesTimeout : Option ℕ := none
  /-- The timeouts that are set, with what they run on. -/
  timeouts : List (ℕ × PendingElevatedSourcesRequest Map) := []
  /-- How many timeouts were set. -/
  timeoutCount : ℕ := 0
  /-- Every worker that was started; a worker is known by its place. -/
  workers : List (ElevatedSourcesWorker Map) := []
  /-- The calls of `setElevatedSourceData`, with the request that each is for. -/
  drawn : List (ℕ × Map × ElevatedLayers (List Feature)) := []

namespace ElevatedPage

/-- `setElevatedSourceData`. -/
def setElevatedSourceData (page : ElevatedPage Map) (requestId : ℕ) (map : Map)
    (elevatedSources : ElevatedLayers (List Feature)) : ElevatedPage Map :=
  { page with drawn := page.drawn ++ [(requestId, map, elevatedSources)] }

/-- The data of `clearElevatedSourceData`. -/
def noElevatedSources : ElevatedLayers (List Feature) := ⟨[], [], [], [], []⟩

/-- `worker.terminate()`. -/
def terminate (page : ElevatedPage Map) (w : ℕ) : ElevatedPage Map :=
  { page with workers := page.workers.modify w fun worker => { worker with terminated := true } }

/-- The worker has ended: its handler terminates it and forgets it if it is active. -/
def release (page : ElevatedPage Map) (w : ℕ) (stage : WorkerStage) : ElevatedPage Map :=
  { page with
    workers := page.workers.modify w fun worker =>
      { worker with stage := stage, terminated := true }
    activeElevatedSourcesWorker :=
      if page.activeElevatedSourcesWorker = some w then none
      else page.activeElevatedSourcesWorker }

/-- The pending timeout is cleared. -/
def clearPending (page : ElevatedPage Map) : ElevatedPage Map :=
  match page.pendingElevatedSourcesTimeout with
  | none => page
  | some id =>
    { page with
      timeouts := page.timeouts.filter fun timeout => timeout.1 ≠ id
      pendingElevatedSourcesTimeout := none }

/-- The active worker is terminated. -/
def terminateActive (page : ElevatedPage Map) : ElevatedPage Map :=
  match page.activeElevatedSourcesWorker with
  | none => page
  | some w => { page.terminate w with activeElevatedSourcesWorker := none }

/-- `upsertElevatedSources`. -/
def upsertElevatedSources (page : ElevatedPage Map) (call : ElevatedSourcesCall Map) :
    ElevatedPage Map :=
  let requestId := page.latestElevatedSourcesRequestId + 1
  let page := { page with latestElevatedSourcesRequestId := requestId }
  let page := page.clearPending.terminateActive
  if call.renderElevatedSources then
    { page with
      timeouts := page.timeouts ++ [(page.timeoutCount, { call with requestId := requestId })]
      timeoutCount := page.timeoutCount + 1
      pendingElevatedSourcesTimeout := some page.timeoutCount }
  else page.setElevatedSourceData requestId call.map noElevatedSources

/-- The callback of a timeout, with the terrain that the map has then. -/
def runTimeout (page : ElevatedPage Map) (id : ℕ)
    (pendingRequest : PendingElevatedSourcesRequest Map) (terrain : Option TerrainLookup) :
    ElevatedPage Map :=
  let page := { page with
    timeouts := page.timeouts.filter fun timeout => timeout.1 ≠ id
    pendingElevatedSourcesTimeout := none }
  if pendingRequest.requestId ≠ page.latestElevatedSourcesRequestId ||
      !pendingRequest.renderElevatedSources then page
  else
    { page with
      workers := page.workers ++ [⟨pendingRequest, workerRequest pendingRequest terrain, .working,
        false⟩]
      activeElevatedSourcesWorker := some page.workers.length }

/-- `worker.onmessage`. -/
def onmessage (math : JsMath) (page : ElevatedPage Map) (w : ℕ)
    (worker : ElevatedSourcesWorker Map) : ElevatedPage Map :=
  let response := elevatedSourcesWorker math worker.workerRequest
  if response.requestId ≠ page.latestElevatedSourcesRequestId then page.release w .posted
  else
    (page.setElevatedSourceData response.requestId worker.pendingRequest.map response.data).release
      w .posted

/-- `worker.onerror`. -/
def onerror (page : ElevatedPage Map) (w : ℕ) : ElevatedPage Map := page.release w .failed

end ElevatedPage

/-- A task of the page. -/
inductive ElevatedEvent (Map : Type) where
  | upsertElevatedSources (call : ElevatedSourcesCall Map)
  | timeout (id : ℕ) (terrain : Option TerrainLookup)
  | message (w : ℕ)
  | error (w : ℕ)

/-- One task; nothing where it cannot come. -/
def elevatedStep (math : JsMath) (page : ElevatedPage Map) :
    ElevatedEvent Map → Option (ElevatedPage Map)
  | .upsertElevatedSources call => some (page.upsertElevatedSources call)
  | .timeout id terrain =>
    (page.timeouts.find? fun timeout => timeout.1 = id).map fun timeout =>
      page.runTimeout id timeout.2 terrain
  | .message w =>
    (page.workers[w]?.filter fun worker => worker.stage = .working).map (page.onmessage math w)
  | .error w =>
    (page.workers[w]?.filter fun worker => worker.stage = .working).map fun _ => page.onerror w

/-! ### What is under way -/

section Invariant

open ElevatedPage

variable {math : JsMath}

/-- What a call shows on its map: nothing if it only clears, and otherwise what the
worker draws with the terrain of a timeout. -/
def Answers (math : JsMath) (seen : Option TerrainLookup → Prop) (call : ElevatedSourcesCall Map)
    (drawn : Map × ElevatedLayers (List Feature)) : Prop :=
  drawn.1 = call.map ∧
    if call.renderElevatedSources then
      ∃ pendingRequest terrain, pendingRequest.toElevatedSourcesCall = call ∧ seen terrain ∧
        drawn.2 = (elevatedSourcesWorker math (workerRequest pendingRequest terrain)).data
    else drawn.2 = noElevatedSources

/-- The call that a task is. -/
def ElevatedEvent.call? : ElevatedEvent Map → Option (ElevatedSourcesCall Map)
  | .upsertElevatedSources call => some call
  | _ => none

/-- The calls of a run. -/
def requested (events : List (ElevatedEvent Map)) : List (ElevatedSourcesCall Map) :=
  events.filterMap ElevatedEvent.call?

/-- A worker, of a call that was made. -/
structure WorksFor (seen : Option TerrainLookup → Prop) (calls : List (ElevatedSourcesCall Map))
    (worker : ElevatedSourcesWorker Map) : Prop where
  request : ∃ terrain, seen terrain ∧
    worker.workerRequest = workerRequest worker.pendingRequest terrain
  le : worker.pendingRequest.requestId ≤ calls.length
  call : worker.pendingRequest.requestId = calls.length →
    calls.getLast? = some worker.pendingRequest.toElevatedSourcesCall
  render : worker.pendingRequest.renderElevatedSources = true

/-- What is under way is for the latest call, and that is not drawn yet. -/
structure Inv (seen : Option TerrainLookup → Prop) (calls : List (ElevatedSourcesCall Map))
    (page : ElevatedPage Map) : Prop where
  latest : page.latestElevatedSourcesRequestId = calls.length
  pending : ∀ timeout ∈ page.timeouts, page.pendingElevatedSourcesTimeout = some timeout.1
  timeout : ∀ timeout ∈ page.timeouts, timeout.2.requestId = calls.length ∧
    calls.getLast? = some timeout.2.toElevatedSourcesCall ∧
    timeout.2.renderElevatedSources = true
  worker : ∀ (w : ℕ) worker, page.workers[w]? = some worker → WorksFor seen calls worker
  active : ∀ (w : ℕ) worker, page.workers[w]? = some worker → worker.terminated = false →
    page.activeElevatedSourcesWorker = some w ∧ worker.pendingRequest.requestId = calls.length
  unique : ∀ (v w : ℕ) worker worker', page.workers[v]? = some worker →
    page.workers[w]? = some worker' → worker.pendingRequest.requestId = calls.length →
    worker'.pendingRequest.requestId = calls.length → v = w
  waiting : page.timeouts ≠ [] → ∀ (w : ℕ) worker, page.workers[w]? = some worker →
    worker.pendingRequest.requestId < calls.length
  nodup : (page.drawn.map Prod.fst).Nodup
  drawn : ∀ e ∈ page.drawn, e.1 ≤ calls.length
  notDrawn : page.timeouts ≠ [] → ∀ e ∈ page.drawn, e.1 < calls.length
  working : ∀ (w : ℕ) worker, page.workers[w]? = some worker → worker.stage = .working →
    worker.pendingRequest.requestId = calls.length → ∀ e ∈ page.drawn, e.1 < calls.length

/-- The latest call is drawn, under way, or its worker failed. -/
def Progress (calls : List (ElevatedSourcesCall Map)) (page : ElevatedPage Map) : Prop :=
  calls ≠ [] → (∃ e ∈ page.drawn, e.1 = calls.length) ∨ page.timeouts ≠ [] ∨
    ∃ (w : ℕ) (worker : ElevatedSourcesWorker Map), page.workers[w]? = some worker ∧
      worker.pendingRequest.requestId = calls.length ∧
      (worker.stage = .failed ∨ worker.terminated = false)

variable {seen : Option TerrainLookup → Prop} {calls : List (ElevatedSourcesCall Map)}
  {page : ElevatedPage Map}

/-! ### The parts of a task -/

theorem getElem?_release (page : ElevatedPage Map) (v w : ℕ) (stage : WorkerStage) :
    (page.release w stage).workers[v]? = (page.workers[v]?).map fun worker =>
      if v = w then { worker with stage := stage, terminated := true } else worker := by
  show (page.workers.modify w _)[v]? = _
  rw [List.getElem?_modify]
  by_cases hvw : v = w
  · subst hvw
    simp
  · simp [hvw, Ne.symm hvw]

/-- Clearing the pending timeout and terminating the active worker. -/
structure Stopped (page stopped : ElevatedPage Map) : Prop where
  timeouts : stopped.timeouts = []
  workers : ∀ v : ℕ, stopped.workers[v]? = (page.workers[v]?).map fun worker =>
    if page.activeElevatedSourcesWorker = some v then { worker with terminated := true }
    else worker
  active : stopped.activeElevatedSourcesWorker = none
  latest : stopped.latestElevatedSourcesRequestId = page.latestElevatedSourcesRequestId
  drawn : stopped.drawn = page.drawn

theorem clearPending_timeouts (h : ∀ timeout ∈ page.timeouts,
    page.pendingElevatedSourcesTimeout = some timeout.1) : page.clearPending.timeouts = [] := by
  rw [clearPending]
  cases hpending : page.pendingElevatedSourcesTimeout with
  | none =>
    refine List.eq_nil_iff_forall_not_mem.mpr fun timeout htimeout => ?_
    have hsome := h timeout htimeout
    rw [hpending] at hsome
    cases hsome
  | some id =>
    refine List.filter_eq_nil_iff.mpr fun timeout htimeout => ?_
    have hsome := h timeout htimeout
    rw [hpending] at hsome
    simp [Option.some.inj hsome]

theorem stopped_terminateActive (h : ∀ timeout ∈ page.timeouts,
    page.pendingElevatedSourcesTimeout = some timeout.1) :
    Stopped page page.clearPending.terminateActive := by
  have hcleared := clearPending_timeouts h
  have hworkers : page.clearPending.workers = page.workers := by
    unfold clearPending
    split <;> rfl
  have hactive : page.clearPending.activeElevatedSourcesWorker =
      page.activeElevatedSourcesWorker := by
    unfold clearPending
    split <;> rfl
  have hlatest : page.clearPending.latestElevatedSourcesRequestId =
      page.latestElevatedSourcesRequestId := by
    unfold clearPending
    split <;> rfl
  have hdrawn : page.clearPending.drawn = page.drawn := by
    unfold clearPending
    split <;> rfl
  unfold terminateActive
  rw [hactive]
  cases hw : page.activeElevatedSourcesWorker with
  | none =>
    refine ⟨hcleared, fun v => ?_, hactive.trans hw, hlatest, hdrawn⟩
    rw [hworkers, hw]
    simp
  | some w =>
    refine ⟨hcleared, fun v => ?_, rfl, hlatest, hdrawn⟩
    show (page.clearPending.workers.modify w _)[v]? = _
    rw [hworkers, hw, List.getElem?_modify]
    by_cases hvw : w = v
    · subst hvw
      simp
    · simp [hvw]

/-! ### Every task keeps the invariant -/

theorem Inv.init : Inv seen [] ({} : ElevatedPage Map) where
  latest := rfl
  pending := fun _ h => absurd h List.not_mem_nil
  timeout := fun _ h => absurd h List.not_mem_nil
  worker := fun w _ h => by simp at h
  active := fun w _ h => by simp at h
  unique := fun v _ _ _ h => by simp at h
  waiting := fun h => absurd rfl h
  nodup := List.nodup_nil
  drawn := fun _ h => absurd h List.not_mem_nil
  notDrawn := fun h => absurd rfl h
  working := fun w _ h => by simp at h

/-- A call is made: what the calls before it left under way is stopped. -/
theorem Inv.stop (h : Inv seen calls page) (call : ElevatedSourcesCall Map)
    {stopped : ElevatedPage Map}
    (hstopped : Stopped { page with latestElevatedSourcesRequestId := calls.length + 1 } stopped) :
    Inv seen (calls ++ [call]) stopped ∧
      (∀ (w : ℕ) worker, stopped.workers[w]? = some worker →
        worker.pendingRequest.requestId ≤ calls.length) ∧
      ∀ e ∈ stopped.drawn, e.1 ≤ calls.length := by
  have hlength : (calls ++ [call]).length = calls.length + 1 := List.length_append
  -- whatever was at work is terminated, and worked for an earlier call
  have hworker : ∀ (w : ℕ) worker, stopped.workers[w]? = some worker →
      worker.terminated = true ∧ worker.pendingRequest.requestId ≤ calls.length ∧
        WorksFor seen (calls ++ [call]) worker := by
    intro w worker hw
    rw [hstopped.workers] at hw
    obtain ⟨before, hbefore, rfl⟩ := Option.map_eq_some_iff.mp hw
    have hworks := h.worker w before hbefore
    have hle := hworks.le
    have hid : ¬ before.pendingRequest.requestId = (calls ++ [call]).length := by omega
    split
    · exact ⟨rfl, hle, ⟨hworks.request, by simp only; omega, fun hid' => absurd hid' hid,
        hworks.render⟩⟩
    · rename_i hactive
      refine ⟨?_, hle, ⟨hworks.request, by omega, fun hid' => absurd hid' hid, hworks.render⟩⟩
      cases hterminated : before.terminated with
      | true => rfl
      | false => exact absurd (h.active w before hbefore hterminated).1 hactive
  have hdrawn : ∀ e ∈ stopped.drawn, e.1 ≤ calls.length := by
    rw [hstopped.drawn]
    exact h.drawn
  have hnone : ∀ timeout ∈ stopped.timeouts, False := by
    rw [hstopped.timeouts]
    intro timeout htimeout
    exact absurd htimeout List.not_mem_nil
  refine ⟨?_, fun w worker hw => (hworker w worker hw).2.1, hdrawn⟩
  constructor
  case latest => rw [hstopped.latest, hlength]
  case pending => exact fun timeout ht => (hnone timeout ht).elim
  case timeout => exact fun timeout ht => (hnone timeout ht).elim
  case worker => exact fun w worker hw => (hworker w worker hw).2.2
  case active =>
    intro w worker hw hfalse
    rw [(hworker w worker hw).1] at hfalse
    cases hfalse
  case unique =>
    intro v w worker worker' hv _ hid
    have hle := (hworker v worker hv).2.1
    omega
  case waiting => exact fun hne => absurd hstopped.timeouts hne
  case nodup =>
    rw [hstopped.drawn]
    exact h.nodup
  case drawn =>
    intro e he
    have hle := hdrawn e he
    omega
  case notDrawn => exact fun hne => absurd hstopped.timeouts hne
  case working =>
    intro w worker hw _ hid
    have hle := (hworker w worker hw).2.1
    omega

/-- The latest call is drawn, when nothing else is under way for it. -/
theorem Inv.setElevatedSourceData (h : Inv seen calls page) (htimeouts : page.timeouts = [])
    (hworking : ∀ (w : ℕ) worker, page.workers[w]? = some worker → worker.stage = .working →
      worker.pendingRequest.requestId ≠ calls.length)
    (hnot : ∀ e ∈ page.drawn, e.1 < calls.length) (map : Map)
    (elevatedSources : ElevatedLayers (List Feature)) :
    Inv seen calls (page.setElevatedSourceData calls.length map elevatedSources) := by
  refine ⟨h.latest, h.pending, h.timeout, h.worker, h.active, h.unique, h.waiting, ?_, ?_,
    fun hne => absurd htimeouts hne, fun w worker hw hstage hid => absurd hid
      (hworking w worker hw hstage)⟩
  · show ((page.drawn ++ [(calls.length, map, elevatedSources)]).map Prod.fst).Nodup
    rw [List.map_append, List.nodup_append]
    refine ⟨h.nodup, List.nodup_singleton _, fun i hi j hj => ?_⟩
    obtain ⟨e, he, rfl⟩ := List.mem_map.mp hi
    rw [List.map_singleton, List.mem_singleton] at hj
    have hlt := hnot e he
    omega
  · intro e he
    rcases List.mem_append.mp he with he | he
    · exact h.drawn e he
    · rw [List.mem_singleton] at he
      rw [he]

/-- A worker ends. -/
theorem Inv.release (h : Inv seen calls page) (w : ℕ) {stage : WorkerStage}
    (hstage : stage ≠ .working) : Inv seen calls (page.release w stage) := by
  -- the other workers are what they were
  have hworker : ∀ (v : ℕ) worker, (page.release w stage).workers[v]? = some worker →
      ∃ before, page.workers[v]? = some before ∧ worker.pendingRequest = before.pendingRequest ∧
        worker.workerRequest = before.workerRequest ∧
        (worker.terminated = false → v ≠ w ∧ before.terminated = false) ∧
        (worker.stage = .working → before.stage = .working) := by
    intro v worker hv
    rw [getElem?_release] at hv
    obtain ⟨before, hbefore, rfl⟩ := Option.map_eq_some_iff.mp hv
    refine ⟨before, hbefore, ?_⟩
    split
    · exact ⟨rfl, rfl, fun hfalse => (Bool.noConfusion hfalse), fun hw => absurd hw hstage⟩
    · exact ⟨rfl, rfl, fun hfalse => ⟨by assumption, hfalse⟩, id⟩
  refine ⟨h.latest, h.pending, h.timeout, ?_, ?_, ?_, ?_, h.nodup, h.drawn, h.notDrawn, ?_⟩
  · intro v worker hv
    obtain ⟨before, hbefore, hpending, hrequest, -⟩ := hworker v worker hv
    have hworks := h.worker v before hbefore
    refine ⟨?_, ?_, ?_, ?_⟩
    · rw [hrequest, hpending]
      exact hworks.request
    · rw [hpending]
      exact hworks.le
    · rw [hpending]
      exact hworks.call
    · rw [hpending]
      exact hworks.render
  · intro v worker hv hfalse
    obtain ⟨before, hbefore, hpending, -, hterminated, -⟩ := hworker v worker hv
    obtain ⟨hne, hterminated⟩ := hterminated hfalse
    obtain ⟨hactive, hid⟩ := h.active v before hbefore hterminated
    refine ⟨?_, by rw [hpending]; exact hid⟩
    show (if page.activeElevatedSourcesWorker = some w then none else _) = _
    rw [if_neg, hactive]
    rw [hactive]
    exact fun heq => hne (Option.some.inj heq)
  · intro v v' worker worker' hv hv' hid hid'
    obtain ⟨before, hbefore, hpending, -⟩ := hworker v worker hv
    obtain ⟨before', hbefore', hpending', -⟩ := hworker v' worker' hv'
    rw [hpending] at hid
    rw [hpending'] at hid'
    exact h.unique v v' before before' hbefore hbefore' hid hid'
  · intro hne v worker hv
    obtain ⟨before, hbefore, hpending, -⟩ := hworker v worker hv
    rw [hpending]
    exact h.waiting hne v before hbefore
  · intro v worker hv hworking hid
    obtain ⟨before, hbefore, hpending, -, -, hstage'⟩ := hworker v worker hv
    rw [hpending] at hid
    exact h.working v before hbefore (hstage' hworking) hid

theorem getElem?_concat_cases {α : Type*} {l : List α} {x y : α} {w : ℕ}
    (h : (l ++ [x])[w]? = some y) : l[w]? = some y ∨ w = l.length ∧ y = x := by
  obtain ⟨hlt, hget⟩ := List.getElem?_eq_some_iff.mp h
  rw [List.length_append, List.length_singleton] at hlt
  by_cases hw : w < l.length
  · rw [List.getElem?_append_left hw] at h
    exact .inl h
  · obtain rfl : w = l.length := by omega
    rw [List.getElem?_concat_length] at h
    exact .inr ⟨rfl, (Option.some.inj h).symm⟩

/-- A timeout that is due starts a worker for the latest call. -/
theorem Inv.runTimeout_eq (h : Inv seen calls page)
    {timeout : ℕ × PendingElevatedSourcesRequest Map} (htimeout : timeout ∈ page.timeouts)
    (terrain : Option TerrainLookup) :
    page.runTimeout timeout.1 timeout.2 terrain =
      { page with
        timeouts := []
        pendingElevatedSourcesTimeout := none
        workers := page.workers ++
          [⟨timeout.2, workerRequest timeout.2 terrain, .working, false⟩]
        activeElevatedSourcesWorker := some page.workers.length } := by
  obtain ⟨hid, -, hrender⟩ := h.timeout timeout htimeout
  have hnone : (page.timeouts.filter fun other => other.1 ≠ timeout.1) = [] := by
    refine List.filter_eq_nil_iff.mpr fun other hother => ?_
    have hsame := (h.pending other hother).symm.trans (h.pending timeout htimeout)
    simp [Option.some.inj hsame]
  rw [ElevatedPage.runTimeout, hnone, if_neg]
  rw [h.latest, hid, hrender]
  simp

theorem Inv.runTimeout (h : Inv seen calls page)
    {timeout : ℕ × PendingElevatedSourcesRequest Map} (htimeout : timeout ∈ page.timeouts)
    {terrain : Option TerrainLookup} (hseen : seen terrain) :
    Inv seen calls (page.runTimeout timeout.1 timeout.2 terrain) := by
  obtain ⟨hid, hcall, hrender⟩ := h.timeout timeout htimeout
  have hne : page.timeouts ≠ [] := List.ne_nil_of_mem htimeout
  rw [h.runTimeout_eq htimeout]
  refine ⟨h.latest, fun _ ht => absurd ht List.not_mem_nil, fun _ ht => absurd ht List.not_mem_nil,
    ?_, ?_, ?_, fun hnil => absurd rfl hnil, h.nodup, h.drawn, fun hnil => absurd rfl hnil, ?_⟩
  · intro w worker hw
    rcases getElem?_concat_cases hw with hw | ⟨-, rfl⟩
    · exact h.worker w worker hw
    · exact ⟨⟨terrain, hseen, rfl⟩, hid.le, fun _ => hcall, hrender⟩
  · intro w worker hw hfalse
    rcases getElem?_concat_cases hw with hw | ⟨rfl, rfl⟩
    · have hactive := h.active w worker hw hfalse
      have hlt := h.waiting hne w worker hw
      omega
    · exact ⟨rfl, hid⟩
  · intro v w worker worker' hv hw hvid hwid
    rcases getElem?_concat_cases hv with hv | ⟨rfl, -⟩
    · have hlt := h.waiting hne v worker hv
      omega
    · rcases getElem?_concat_cases hw with hw | ⟨rfl, -⟩
      · have hlt := h.waiting hne w worker' hw
        omega
      · rfl
  · intro w worker _ _ _
    exact h.notDrawn hne

/-- What one task does: the invariant and the progress stay, and the drawing takes the
steps of a display of the latest request. -/
structure Keeps (math : JsMath) (seen : Option TerrainLookup → Prop)
    (calls : List (ElevatedSourcesCall Map)) (page : ElevatedPage Map)
    (calls' : List (ElevatedSourcesCall Map)) (page' : ElevatedPage Map) : Prop where
  inv : Inv seen calls' page'
  progress : Progress calls' page'
  steps : LatestWins.Steps (Answers math seen) ⟨calls, page.drawn⟩ ⟨calls', page'.drawn⟩

theorem Inv.upsertElevatedSources (h : Inv seen calls page) (call : ElevatedSourcesCall Map) :
    Keeps math seen calls page (calls ++ [call]) (page.upsertElevatedSources call) := by
  have hlength : (calls ++ [call]).length = calls.length + 1 := List.length_append
  have hlast : (calls ++ [call]).getLast? = some call := List.getLast?_concat
  have hstopped := @stopped_terminateActive Map
    { page with latestElevatedSourcesRequestId := calls.length + 1 } h.pending
  obtain ⟨hstop, hworkers, hdrawn⟩ := h.stop call hstopped
  have hrequest : LatestWins.Steps (Answers math seen) ⟨calls, page.drawn⟩
      ⟨calls ++ [call], page.drawn⟩ := .single (.request call)
  rw [ElevatedPage.upsertElevatedSources, h.latest]
  generalize ({ page with latestElevatedSourcesRequestId := calls.length + 1 } :
    ElevatedPage Map).clearPending.terminateActive = stopped at hstopped hstop hworkers hdrawn
  -- a call that renders starts a timer, any other one clears the sources at once
  cases hrender : call.renderElevatedSources with
  | true =>
    rw [if_pos rfl, hstopped.timeouts, List.nil_append]
    refine ⟨⟨hstop.latest, ?_, ?_, hstop.worker, ?_, hstop.unique, ?_, hstop.nodup, hstop.drawn,
      ?_, hstop.working⟩, fun _ => .inr (.inl (List.cons_ne_nil _ _)), ?_⟩
    · intro timeout ht
      rw [List.mem_singleton] at ht
      rw [ht]
    · intro timeout ht
      rw [List.mem_singleton] at ht
      rw [ht]
      exact ⟨hlength.symm, hlast, hrender⟩
    · intro w worker hw hfalse
      have hid := (hstop.active w worker hw hfalse).2
      have hle := hworkers w worker hw
      omega
    · intro _ w worker hw
      have hle := hworkers w worker hw
      omega
    · intro _ e he
      have hle := hdrawn e he
      omega
    · show LatestWins.Steps _ _ ⟨_, stopped.drawn⟩
      rw [hstopped.drawn]
      exact hrequest
  | false =>
    rw [if_neg Bool.false_ne_true]
    have hinv := hstop.setElevatedSourceData hstopped.timeouts
      (fun w worker hw _ => by
        have hle := hworkers w worker hw
        omega)
      (fun e he => by
        have hle := hdrawn e he
        omega) call.map noElevatedSources
    rw [hlength] at hinv
    refine ⟨hinv, fun _ => .inl ⟨_, List.mem_append_right _ (List.mem_singleton_self _),
      hlength.symm⟩, ?_⟩
    show LatestWins.Steps _ _ ⟨_, stopped.drawn ++ [(calls.length + 1, call.map, noElevatedSources)]⟩
    rw [hstopped.drawn, ← hlength]
    refine hrequest.tail (.answer hlast ⟨rfl, ?_⟩)
    rw [hrender]
    rfl

theorem Inv.timeoutRuns (h : Inv seen calls page)
    {timeout : ℕ × PendingElevatedSourcesRequest Map} (htimeout : timeout ∈ page.timeouts)
    {terrain : Option TerrainLookup} (hseen : seen terrain) :
    Keeps math seen calls page calls (page.runTimeout timeout.1 timeout.2 terrain) := by
  refine ⟨h.runTimeout htimeout hseen, fun _ => .inr (.inr ?_), ?_⟩
  · rw [h.runTimeout_eq htimeout]
    exact ⟨_, _, List.getElem?_concat_length, (h.timeout timeout htimeout).1, .inr rfl⟩
  · rw [h.runTimeout_eq htimeout]

/-- The worker of the latest call still has a stage, or another one ended. -/
theorem Progress.release (hprogress : Progress calls page) {w : ℕ} {stage : WorkerStage}
    (hstage : ∀ worker, page.workers[w]? = some worker →
      worker.pendingRequest.requestId = calls.length →
      stage = .failed ∨ ∃ e ∈ page.drawn, e.1 = calls.length) :
    Progress calls (page.release w stage) := by
  intro hne
  rcases hprogress hne with hdrawn | htimeouts | ⟨v, worker, hv, hid, hends⟩
  · exact .inl hdrawn
  · exact .inr (.inl htimeouts)
  · by_cases hvw : v = w
    · subst hvw
      rcases hstage worker hv hid with rfl | hdrawn
      · refine .inr (.inr ⟨v, { worker with stage := .failed, terminated := true }, ?_, hid,
          .inl rfl⟩)
        rw [getElem?_release, hv]
        simp
      · exact .inl hdrawn
    · refine .inr (.inr ⟨v, worker, ?_, hid, hends⟩)
      rw [getElem?_release, hv]
      simp [hvw]

theorem Inv.onerror (h : Inv seen calls page) (hprogress : Progress calls page) (w : ℕ) :
    Keeps math seen calls page calls (page.onerror w) :=
  ⟨h.release w (by decide), hprogress.release fun _ _ _ => .inl rfl, .refl⟩

theorem Inv.onmessage (h : Inv seen calls page) (hprogress : Progress calls page) {w : ℕ}
    {worker : ElevatedSourcesWorker Map} (hworker : page.workers[w]? = some worker)
    (hworking : worker.stage = .working) :
    Keeps math seen calls page calls (page.onmessage math w worker) := by
  obtain ⟨⟨terrain, hseen, hrequest⟩, -, hcall, hrender⟩ := h.worker w worker hworker
  have hposted : (WorkerStage.posted : WorkerStage) ≠ .working := by decide
  have hreleased := h.release w hposted
  have hresponse : (elevatedSourcesWorker math worker.workerRequest).requestId =
      worker.pendingRequest.requestId := by
    rw [hrequest]
    rfl
  rw [ElevatedPage.onmessage, hresponse, h.latest]
  by_cases hid : worker.pendingRequest.requestId = calls.length
  · rw [if_neg (not_not_intro hid), hid]
    have hnot := h.working w worker hworker hworking hid
    have htimeouts : page.timeouts = [] := by
      by_contra hne
      have hlt := h.waiting hne w worker hworker
      omega
    -- no other worker is for this call, and this one is no longer working
    have hnone : ∀ (v : ℕ) other, (page.release w .posted).workers[v]? = some other →
        other.stage = .working → other.pendingRequest.requestId ≠ calls.length := by
      intro v other hv hstage hother
      rw [getElem?_release] at hv
      obtain ⟨before, hbefore, rfl⟩ := Option.map_eq_some_iff.mp hv
      split at hstage
      · exact hposted hstage
      · rename_i hvw
        rw [if_neg hvw] at hother
        exact hvw (h.unique v w before worker hbefore hworker hother hid)
    have hinv := hreleased.setElevatedSourceData htimeouts hnone hnot worker.pendingRequest.map
      (elevatedSourcesWorker math worker.workerRequest).data
    refine ⟨hinv, fun _ => .inl ⟨_, List.mem_append_right _ (List.mem_singleton_self _), rfl⟩,
      .single (.answer (hcall hid) ⟨rfl, ?_⟩)⟩
    rw [if_pos hrender]
    exact ⟨worker.pendingRequest, terrain, rfl, hseen, by rw [hrequest]⟩
  · rw [if_pos hid]
    refine ⟨hreleased, hprogress.release fun other hother hid' => ?_, .refl⟩
    rw [hworker] at hother
    exact absurd (Option.some.inj hother ▸ hid') hid

theorem Inv.step (h : Inv seen calls page) (hprogress : Progress calls page)
    {event : ElevatedEvent Map} (hseen : ∀ id terrain, event = .timeout id terrain → seen terrain)
    {page' : ElevatedPage Map} (hstep : elevatedStep math page event = some page') :
    Keeps math seen calls page (calls ++ requested [event]) page' := by
  cases event with
  | upsertElevatedSources call =>
    cases hstep
    exact h.upsertElevatedSources call
  | timeout id terrain =>
    obtain ⟨timeout, hfind, rfl⟩ := Option.map_eq_some_iff.mp hstep
    obtain rfl : timeout.1 = id := by simpa using List.find?_some hfind
    show Keeps math seen calls page (calls ++ []) _
    rw [List.append_nil]
    exact h.timeoutRuns (List.mem_of_find?_eq_some hfind) (hseen _ _ rfl)
  | message w =>
    obtain ⟨worker, hworker, rfl⟩ := Option.map_eq_some_iff.mp hstep
    obtain ⟨hworker, hworking⟩ := Option.filter_eq_some_iff.mp hworker
    show Keeps math seen calls page (calls ++ []) _
    rw [List.append_nil]
    exact h.onmessage hprogress hworker (of_decide_eq_true hworking)
  | error w =>
    obtain ⟨worker, hworker, rfl⟩ := Option.map_eq_some_iff.mp hstep
    show Keeps math seen calls page (calls ++ []) _
    rw [List.append_nil]
    exact h.onerror hprogress w

/-! ### Runs -/

theorem requested_cons (event : ElevatedEvent Map) (events : List (ElevatedEvent Map)) :
    requested (event :: events) = requested [event] ++ requested events := by
  rw [requested, requested, requested, ← List.filterMap_append]
  rfl

theorem Inv.run {events : List (ElevatedEvent Map)}
    (hseen : ∀ id terrain, .timeout id terrain ∈ events → seen terrain)
    (h : Inv seen calls page) (hprogress : Progress calls page) {page' : ElevatedPage Map}
    (hrun : Runs.run (elevatedStep math) page events = some page') :
    Keeps math seen calls page (calls ++ requested events) page' := by
  induction events generalizing calls page with
  | nil =>
    obtain rfl : page = page' := by simpa using hrun
    show Keeps math seen calls page (calls ++ []) page
    rw [List.append_nil]
    exact ⟨h, hprogress, .refl⟩
  | cons event events ih =>
    rw [Runs.run_cons] at hrun
    obtain ⟨next, hstep, hrest⟩ := Option.bind_eq_some_iff.mp hrun
    have hkeeps := h.step hprogress (fun id terrain heq =>
      hseen id terrain (heq ▸ List.mem_cons_self)) hstep
    have hrest := ih (fun id terrain hmem => hseen id terrain (List.mem_cons_of_mem _ hmem))
      hkeeps.inv hkeeps.progress hrest
    rw [requested_cons, ← List.append_assoc]
    exact ⟨hrest.inv, hrest.progress, hkeeps.steps.trans hrest.steps⟩

/-- Nothing is under way. -/
structure AtRest (page : ElevatedPage Map) : Prop where
  timeouts : page.timeouts = []
  workers : ∀ worker ∈ page.workers, worker.terminated = true

/-- **The latest call is the one that is drawn.**  In every run the calls are drawn in
their order, each at most once and as it asked for; nothing of a call is drawn once a
later one was made, and its worker is terminated; and at rest the last call is drawn,
unless its worker failed. -/
theorem upsertElevatedSources_latest (math : JsMath) {before after : List (ElevatedEvent Map)}
    {page page' : ElevatedPage Map}
    (hbefore : Runs.run (elevatedStep math) {} before = some page)
    (hafter : Runs.run (elevatedStep math) page after = some page') :
    (page'.drawn.map Prod.fst).Pairwise (· < ·) ∧
    (∀ e ∈ page'.drawn, ∃ i call, e.1 = i + 1 ∧ (requested (before ++ after))[i]? = some call ∧
      Answers math (fun terrain => ∃ id, .timeout id terrain ∈ before ++ after) call e.2) ∧
    (∃ more, page'.drawn = page.drawn ++ more ∧ ∀ e ∈ more, (requested before).length ≤ e.1) ∧
    (∀ worker ∈ page'.workers, worker.terminated = false →
      worker.pendingRequest.requestId = (requested (before ++ after)).length) ∧
    (AtRest page' → requested (before ++ after) ≠ [] →
      (∀ worker ∈ page'.workers,
        worker.pendingRequest.requestId = (requested (before ++ after)).length →
          worker.stage ≠ .failed) →
      ∃ drawn, page'.drawn.getLast? = some ((requested (before ++ after)).length, drawn)) := by
  have hkeeps := (@Inv.init Map fun terrain => ∃ id, .timeout id terrain ∈ before ++ after).run
    (fun id terrain hmem => ⟨id, List.mem_append_left _ hmem⟩) (fun hne => absurd rfl hne) hbefore
  rw [List.nil_append] at hkeeps
  have hkeeps' := hkeeps.inv.run (fun id terrain hmem => ⟨id, List.mem_append_right _ hmem⟩)
    hkeeps.progress hafter
  have hrequested : requested before ++ requested after = requested (before ++ after) :=
    (List.filterMap_append).symm
  rw [hrequested] at hkeeps'
  have horder := (LatestWins.InOrder.ofSteps ⟨List.Pairwise.nil, fun e he => absurd he
    List.not_mem_nil⟩ (hkeeps.steps.trans hkeeps'.steps))
  have hincreasing : (page'.drawn.map Prod.fst).Pairwise (· < ·) :=
    (horder.increasing.and hkeeps'.inv.nodup).imp fun h => lt_of_le_of_ne h.1 h.2
  refine ⟨hincreasing, horder.answered, (LatestWins.Steps.later hkeeps'.steps).2, ?_, ?_⟩
  · intro worker hworker hfalse
    obtain ⟨w, hw⟩ := List.mem_iff_getElem?.mp hworker
    exact (hkeeps'.inv.active w worker hw hfalse).2
  · intro hrest hne hfailed
    obtain ⟨e, he, hid⟩ : ∃ e ∈ page'.drawn, e.1 = (requested (before ++ after)).length := by
      rcases hkeeps'.progress hne with hdrawn | htimeouts | ⟨w, worker, hw, hid, hends⟩
      · exact hdrawn
      · exact absurd hrest.timeouts htimeouts
      · have hmem := List.mem_of_getElem? hw
        rcases hends with hstage | hfalse
        · exact absurd hstage (hfailed worker hmem hid)
        · rw [hrest.workers worker hmem] at hfalse
          cases hfalse
    -- the drawings are in order, so that one is the last
    rcases List.eq_nil_or_concat page'.drawn with hnil | ⟨front, last, hlast⟩
    · rw [hnil] at he
      exact absurd he List.not_mem_nil
    · rw [List.concat_eq_append] at hlast
      have hle := hkeeps'.inv.drawn last (hlast ▸ List.mem_append_right _ List.mem_cons_self)
      have hid' : last.1 = (requested (before ++ after)).length := by
        rw [hlast, List.mem_append, List.mem_singleton] at he
        rcases he with he | rfl
        · rw [hlast, List.map_append, List.pairwise_append] at hincreasing
          have hlt := hincreasing.2.2 e.1 (List.mem_map_of_mem he) last.1 List.mem_cons_self
          omega
        · exact hid
      refine ⟨last.2, ?_⟩
      rw [hlast, List.getLast?_concat, ← hid']

end Invariant

namespace Overtaken

def math : JsMath := ⟨3, fun _ => 1, fun x y => x + y⟩

/-- A call that draws nothing, with every layer hidden. -/
def call (renderElevatedSources : Bool) : ElevatedSourcesCall Unit where
  map := ()
  collections := ⟨[], [], [], [], []⟩
  visibility := ⟨false, false, false, false, false⟩
  adjustHeights := false
  renderElevatedSources := renderElevatedSources

/-- A call whose worker is at work, and one that clears the drawing before it is done. -/
def before : List (ElevatedEvent Unit) := [.upsertElevatedSources (call true), .timeout 0 none]
def after : List (ElevatedEvent Unit) := [.upsertElevatedSources (call false), .message 0]

def atWork : ElevatedPage Unit := (Runs.run (elevatedStep math) {} before).getD {}
def atRest : ElevatedPage Unit := (Runs.run (elevatedStep math) atWork after).getD {}

end Overtaken

open Overtaken in
/-- The worker of a call that was overtaken draws nothing. -/
theorem upsertElevatedSources_latest_overtaken :
    ∃ drawn, atRest.drawn.getLast? = some ((requested (before ++ after)).length, drawn) := by
  have hworkers : atRest.workers.all fun worker =>
      worker.terminated && worker.stage ≠ .failed := rfl
  have hends : ∀ worker ∈ atRest.workers, worker.terminated = true ∧ worker.stage ≠ .failed := by
    intro worker hworker
    simpa using List.all_eq_true.mp hworkers worker hworker
  exact (upsertElevatedSources_latest math
    (show Runs.run (elevatedStep math) {} before = some atWork from rfl)
    (show Runs.run (elevatedStep math) atWork after = some atRest from rfl)).2.2.2.2
      ⟨rfl, fun worker hworker => (hends worker hworker).1⟩ (List.cons_ne_nil _ _)
      fun worker hworker _ => (hends worker hworker).2

end Gcmapview
