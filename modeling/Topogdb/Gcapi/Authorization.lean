/-
What the gateway proxies is authorized, except on the health path.

`Authorized` says of a log that every proxied request, OPTIONS apart, follows an
approval of its own client that the cache still remembers, and that only
approvals are cached.  The exemption looks at the path and the routes at the
method as well, so a request for `/healthz` that is no GET goes past both
(`bypass_iff`); these steps decide whether a run is authorized
(`run_authorized_iff`).
-/
import Mathlib.Algebra.Order.Ring.NNRat
import Mathlib.Data.List.Induction
import Topogdb.Gcapi.App

namespace Gcapi

/-- gccore has answered `authorized = true`. -/
def Approves (answer : Answer) : Prop :=
  ∃ statusCode payload, answer = .response statusCode (some (.obj payload)) ∧ statusCode < 400 ∧
    payload.lookup "authorized" = some (.bool true)

/-- gccore has approved the client within the lifetime of the cache. -/
def Approved (log : List Entry) (clientId : Option String) (now : ℚ≥0) : Prop :=
  ∃ answer time, Entry.answered clientId answer time ∈ log ∧ Approves answer ∧ time ≤ now ∧
    now < time + authCacheTtlSeconds

/-- What happened was right after what had happened before. -/
def Entry.Justified (earlier : List Entry) : Entry → Prop
  | .proxied request clientId awaited now =>
    (∀ answer, awaited = some answer → Approves answer) ∧
      (request.method ≠ "OPTIONS" →
        clientId = clientIdForRequest request ∧ Approved earlier clientId now)
  | .cached key now =>
    ∃ clientId answer, earlier.head? = some (.answered clientId answer now) ∧ Approves answer ∧
      key = authorizationCacheKey clientId
  | _ => True

/-- Everything that happened was right. -/
def Authorized : List Entry → Prop
  | [] => True
  | e :: earlier => e.Justified earlier ∧ Authorized earlier

/-- What the cache holds was put into it, and expires when its time is over. -/
def CacheLogged (g : Gateway) : Prop :=
  ∀ e ∈ g.cache, ∃ time, Entry.cached e.1 time ∈ g.log ∧ e.2 = time + authCacheTtlSeconds

/-- A request for the health path that the route of the health path does not
take. -/
def Bypasses (request : Request) : Prop :=
  request.path = "/healthz" ∧ request.method ∈ ["HEAD", "POST", "PUT", "PATCH", "DELETE"]

/-! ### Answers and routes -/

theorem authorizationError_eq_none_iff {authorizeUrl : String} {answer : Answer} :
    authorizationError authorizeUrl answer = none ↔ Approves answer := by
  constructor
  · intro h
    cases answer with
    | response statusCode body =>
      rw [authorizationError.eq_def] at h
      simp only at h
      split_ifs at h with hstatus
      cases body with
      | none => cases h
      | some body =>
        cases body with
        | obj payload =>
          simp only at h
          split at h
          · next hpayload => exact ⟨statusCode, payload, rfl, not_le.mp hstatus, hpayload⟩
          · cases h
        | _ => cases h
    | _ => cases h
  · rintro ⟨statusCode, payload, rfl, hstatus, hpayload⟩
    rw [authorizationError.eq_def]
    simp only [if_neg (not_le.mpr hstatus), hpayload]

theorem mem_proxyMethods_of_isProxied {request : Request} (h : isProxied request = true) :
    request.method ∈ proxyMethods := by
  have hmem : ∀ e, dispatch request = some e → e = .rootProxy ∨ e = .catchAllProxy →
      request.method ∈ proxyMethods := by
    intro e he hproxy
    rw [dispatch] at he
    split_ifs at he with h₁ h₂ h₃ h₄
    · cases he
      simp at hproxy
    · cases he
      simp at hproxy
    · exact of_decide_eq_true (Bool.and_eq_true_iff.mp h₃).2
    · exact of_decide_eq_true (Bool.and_eq_true_iff.mp h₄).2
  rw [isProxied, Bool.and_eq_true, Bool.or_eq_true, decide_eq_true_iff, decide_eq_true_iff] at h
  rcases h.2 with h | h
  · exact hmem _ h (Or.inl rfl)
  · exact hmem _ h (Or.inr rfl)

/-- **What is exempt and proxied all the same.** -/
theorem bypass_iff (request : Request) :
    isExempt request = true ∧ isProxied request = true ∧ request.method ≠ "OPTIONS" ↔
      Bypasses request := by
  constructor
  · rintro ⟨hexempt, hproxied, hoptions⟩
    have hmethod := mem_proxyMethods_of_isProxied hproxied
    have hupper : request.method.toUpper ≠ "OPTIONS" := by
      have hall : ∀ m ∈ proxyMethods, m ≠ "OPTIONS" → m.toUpper ≠ "OPTIONS" := by decide +kernel
      exact hall _ hmethod hoptions
    have hpath : request.path = "/healthz" := by
      rw [isExempt, Bool.or_eq_true, decide_eq_true_iff] at hexempt
      simpa [authExemptPaths] using hexempt.resolve_left hupper
    refine ⟨hpath, ?_⟩
    have hget : request.method ≠ "GET" := by
      intro hget
      have hlocal : dispatch request = some .healthz := by
        rw [dispatch, hpath, hget]
        decide +kernel
      rw [isProxied, hlocal] at hproxied
      simp at hproxied
    have hall : ∀ m ∈ proxyMethods, m ≠ "OPTIONS" → m ≠ "GET" →
        m ∈ ["HEAD", "POST", "PUT", "PATCH", "DELETE"] := by decide +kernel
    exact hall _ hmethod hoptions hget
  · rintro ⟨hpath, hmethod⟩
    have hall : ∀ m ∈ ["HEAD", "POST", "PUT", "PATCH", "DELETE"], m ≠ "OPTIONS" ∧
        ∀ p, dispatch ⟨m, "/healthz", p⟩ = some .catchAllProxy := by decide +kernel
    obtain ⟨method, path, preflight⟩ := request
    obtain rfl : path = "/healthz" := hpath
    obtain ⟨hoptions, hdispatch⟩ := hall method hmethod
    refine ⟨?_, ?_, hoptions⟩
    · simp [isExempt, authExemptPaths]
    · simp [isProxied, hoptions, hdispatch preflight]

/-! ### One event -/

/-- What holds of every gateway: its clients are those of its requests, and what
it has cached was approved. -/
structure Invariant (g : Gateway) : Prop where
  clients : ∀ clientId answer time, Entry.answered clientId answer time ∈ g.log →
    clientId = none ∧ time ≤ g.now
  pending : ∀ p ∈ g.pending, p.clientId = clientIdForRequest p.request
  approvals : ∀ key time, Entry.cached key time ∈ g.log →
    ∃ clientId answer, Entry.answered clientId answer time ∈ g.log ∧ Approves answer
  cache : CacheLogged g

/-- What an event has to find: an approval, if the request goes past the check. -/
def Covered (g : Gateway) : ℚ≥0 × Event → Prop
  | (delay, .arrive request) =>
    Bypasses request → Approved g.log (clientIdForRequest request) (g.now + delay)
  | (_, .answer _ _) => True

/-- A cached approval is one of the client that looks it up. -/
theorem Invariant.approved {g : Gateway} (h : Invariant g) {request : Request} {now : ℚ≥0}
    (hnow : g.now ≤ now)
    (hit : g.cache.contains (authorizationCacheKey (clientIdForRequest request)) now = true) :
    Approved g.log (clientIdForRequest request) now := by
  obtain ⟨e, he, hkey⟩ := List.any_eq_true.mp hit
  obtain ⟨-, hfresh⟩ := of_decide_eq_true hkey
  obtain ⟨time, hcached, hexpires⟩ := h.cache e he
  obtain ⟨clientId, answer, hanswered, happroves⟩ := h.approvals _ _ hcached
  obtain ⟨rfl, htime⟩ := h.clients _ _ _ hanswered
  exact ⟨answer, time, hanswered, happroves, htime.trans hnow, hexpires ▸ hfresh⟩

/-- Dispatching a request writes at most that it was proxied. -/
theorem callNext_cases (g : Gateway) (request : Request) (clientId : Option String)
    (awaited : Option Answer) :
    (isProxied request = true ∧ g.callNext request clientId awaited
        = { g with log := .proxied request clientId awaited g.now :: g.log }) ∨
      (isProxied request = false ∧ g.callNext request clientId awaited = g) := by
  rw [Gateway.callNext]
  cases isProxied request with
  | true => exact Or.inl ⟨rfl, rfl⟩
  | false => exact Or.inr ⟨rfl, rfl⟩

/-- More time and an entry about no client change nothing. -/
theorem Invariant.log_cons {g : Gateway} (h : Invariant g) {e : Entry}
    (hanswered : ∀ clientId answer time, e ≠ .answered clientId answer time)
    (hcached : ∀ key time, e ≠ .cached key time) : Invariant { g with log := e :: g.log } where
  clients clientId answer time hmem := by
    rcases List.mem_cons.mp hmem with heq | hmem
    · exact absurd heq.symm (hanswered _ _ _)
    · exact h.clients _ _ _ hmem
  pending := h.pending
  approvals key time hmem := by
    rcases List.mem_cons.mp hmem with heq | hmem
    · exact absurd heq.symm (hcached _ _)
    · obtain ⟨clientId, answer, hmem, happroves⟩ := h.approvals _ _ hmem
      exact ⟨clientId, answer, List.mem_cons_of_mem _ hmem, happroves⟩
  cache e' he' := by
    obtain ⟨time, hmem, hexpires⟩ := h.cache e' he'
    exact ⟨time, List.mem_cons_of_mem _ hmem, hexpires⟩

theorem Invariant.wait {g : Gateway} (h : Invariant g) (delay : ℚ≥0) :
    Invariant { g with now := g.now + delay } where
  clients clientId answer time hmem := by
    obtain ⟨hclient, htime⟩ := h.clients _ _ _ hmem
    exact ⟨hclient, htime.trans (le_add_of_nonneg_right zero_le)⟩
  pending := h.pending
  approvals := h.approvals
  cache := h.cache

theorem Invariant.callNext {g : Gateway} (h : Invariant g) (request : Request)
    (clientId : Option String) (awaited : Option Answer) :
    Invariant (g.callNext request clientId awaited) := by
  rcases callNext_cases g request clientId awaited with ⟨-, heq⟩ | ⟨-, heq⟩
  · rw [heq]
    exact h.log_cons nofun nofun
  · rw [heq]
    exact h

/-- **A request that arrives: only one that goes past the check needs an approval
that nobody looked for.** -/
theorem arrive_spec {g : Gateway} (h : Invariant g) (request : Request) :
    Invariant (g.arrive request) ∧
      (Authorized (g.arrive request).log ↔ Authorized g.log ∧
        (Bypasses request → Approved g.log (clientIdForRequest request) g.now)) := by
  rw [Gateway.arrive]
  by_cases hexempt : isExempt request = true
  · rw [if_pos hexempt]
    refine ⟨h.callNext _ _ _, ?_⟩
    rcases callNext_cases g request (clientIdForRequest request) none with
      ⟨hproxied, heq⟩ | ⟨hproxied, heq⟩
    · -- proxied without a look at the cache
      rw [heq]
      show (_ ∧ (_ → _ ∧ _)) ∧ Authorized g.log ↔ _
      rw [and_comm, ← bypass_iff]
      refine and_congr_right fun _ => ?_
      constructor
      · rintro ⟨-, happroved⟩ ⟨-, -, hoptions⟩
        exact (happroved hoptions).2
      · intro happroved
        exact ⟨nofun, fun hoptions => ⟨rfl, happroved ⟨hexempt, hproxied, hoptions⟩⟩⟩
    · rw [heq]
      refine (and_iff_left ?_).symm
      intro hbypass
      rw [← bypass_iff, hproxied] at hbypass
      exact absurd hbypass.2.1 Bool.false_ne_true
  · have hnot : ¬ Bypasses request := fun hbypass => hexempt (bypass_iff request |>.mpr hbypass).1
    rw [if_neg hexempt]
    have htrivial : Bypasses request → Approved g.log (clientIdForRequest request) g.now :=
      fun hbypass => absurd hbypass hnot
    -- a hit answers from the cache, a miss waits for gccore
    split_ifs with hit
    · refine ⟨h.callNext _ _ _, ?_⟩
      rw [and_iff_left htrivial]
      rcases callNext_cases g request (clientIdForRequest request) none with ⟨-, heq⟩ | ⟨-, heq⟩
      · rw [heq]
        refine and_iff_right ?_
        exact ⟨nofun, fun _ => ⟨rfl, h.approved le_rfl hit⟩⟩
      · rw [heq]
    · refine ⟨⟨h.clients, ?_, h.approvals, h.cache⟩, (and_iff_left htrivial).symm⟩
      intro p hp
      rcases List.mem_append.mp hp with hp | hp
      · exact h.pending p hp
      · rw [List.mem_singleton.mp hp]

theorem lt_lifetime (now : ℚ≥0) : now < now + authCacheTtlSeconds := by
  have hpos : (0 : ℚ≥0) < authCacheTtlSeconds := by decide
  exact lt_add_of_pos_right now hpos

/-- What is in the cache after a key is set was there before, or is that key. -/
theorem mem_set {cache : TtlCache} {key : String} {now : ℚ≥0} {e : String × ℚ≥0}
    (h : e ∈ cache.set key now) : e ∈ cache ∨ e = (key, now + authCacheTtlSeconds) := by
  rw [TtlCache.set] at h
  rcases List.mem_append.mp h with h | h
  · exact Or.inl (List.mem_filter.mp (List.mem_of_mem_drop h)).1
  · exact Or.inr (List.mem_singleton.mp h)

/-- The gateway that has noted an answer. -/
theorem Invariant.answered {g : Gateway} (h : Invariant g) {p : Pending} (hp : p ∈ g.pending)
    (n : ℕ) (answer : Answer) :
    Invariant { g with
      pending := g.pending.eraseIdx n
      log := .answered p.clientId answer g.now :: g.log } where
  clients clientId answer' time hmem := by
    rcases List.mem_cons.mp hmem with heq | hmem
    · cases heq
      exact ⟨h.pending p hp, le_rfl⟩
    · exact h.clients _ _ _ hmem
  pending q hq := h.pending q (List.mem_of_mem_eraseIdx hq)
  approvals key time hmem := by
    obtain ⟨clientId, answer', hmem, happroves⟩ :=
      h.approvals key time ((List.mem_cons.mp hmem).resolve_left nofun)
    exact ⟨clientId, answer', List.mem_cons_of_mem _ hmem, happroves⟩
  cache e he := by
    obtain ⟨time, hmem, hexpires⟩ := h.cache e he
    exact ⟨time, List.mem_cons_of_mem _ hmem, hexpires⟩

/-- The gateway that has cached the approval it noted last. -/
theorem Invariant.cached {g : Gateway} (h : Invariant g) {clientId : Option String} {answer : Answer}
    (hanswered : Entry.answered clientId answer g.now ∈ g.log) (happroves : Approves answer)
    (key : String) :
    Invariant { g with cache := g.cache.set key g.now, log := .cached key g.now :: g.log } where
  clients clientId answer time hmem :=
    h.clients _ _ _ ((List.mem_cons.mp hmem).resolve_left nofun)
  pending := h.pending
  approvals key' time hmem := by
    rcases List.mem_cons.mp hmem with heq | hmem
    · cases heq
      exact ⟨clientId, answer, List.mem_cons_of_mem _ hanswered, happroves⟩
    · obtain ⟨clientId', answer', hmem, happroves'⟩ := h.approvals _ _ hmem
      exact ⟨clientId', answer', List.mem_cons_of_mem _ hmem, happroves'⟩
  cache e he := by
    rcases mem_set he with he | rfl
    · obtain ⟨time, hmem, hexpires⟩ := h.cache e he
      exact ⟨time, List.mem_cons_of_mem _ hmem, hexpires⟩
    · exact ⟨g.now, List.mem_cons_self, rfl⟩

/-- **An answer never leads to anything that is not right.** -/
theorem answer_spec {g : Gateway} (h : Invariant g) (authorizeUrl : String) (n : ℕ)
    (answer : Answer) :
    Invariant (g.answer authorizeUrl n answer) ∧
      (Authorized (g.answer authorizeUrl n answer).log ↔ Authorized g.log) := by
  rw [Gateway.answer]
  cases hp : g.pending[n]? with
  | none => exact ⟨h, Iff.rfl⟩
  | some p =>
    have hmem : p ∈ g.pending := List.mem_of_getElem? hp
    have hnoted := h.answered hmem n answer
    simp only
    cases herror : authorizationError authorizeUrl answer with
    | some error =>
      refine ⟨hnoted.log_cons nofun nofun, ?_⟩
      show True ∧ True ∧ Authorized g.log ↔ Authorized g.log
      rw [true_and, true_and]
    | none =>
      have happroves := authorizationError_eq_none_iff.mp herror
      have hcached := hnoted.cached List.mem_cons_self happroves (authorizationCacheKey p.clientId)
      refine ⟨hcached.callNext _ _ _, ?_⟩
      have hlog : Authorized (.cached (authorizationCacheKey p.clientId) g.now ::
          .answered p.clientId answer g.now :: g.log) ↔ Authorized g.log := by
        show _ ∧ True ∧ Authorized g.log ↔ Authorized g.log
        rw [true_and]
        exact and_iff_right ⟨p.clientId, answer, rfl, happroves, rfl⟩
      rcases callNext_cases _ p.request p.clientId (some answer) with ⟨-, heq⟩ | ⟨-, heq⟩
      · rw [heq]
        refine Iff.trans (and_iff_right ?_) hlog
        constructor
        · rintro answer' ⟨⟩
          exact happroves
        · intro _
          exact ⟨h.pending p hmem, answer, g.now,
            List.mem_cons_of_mem _ List.mem_cons_self, happroves, le_rfl, lt_lifetime _⟩
      · rw [heq]
        exact hlog

theorem step_spec {g : Gateway} (h : Invariant g) (authorizeUrl : String) (e : ℚ≥0 × Event) :
    Invariant (g.step authorizeUrl e) ∧
      (Authorized (g.step authorizeUrl e).log ↔ Authorized g.log ∧ Covered g e) := by
  obtain ⟨delay, event⟩ := e
  cases event with
  | arrive request => exact arrive_spec (h.wait delay) request
  | answer n answer =>
    obtain ⟨hinv, hlog⟩ := answer_spec (h.wait delay) authorizeUrl n answer
    exact ⟨hinv, hlog.trans (and_iff_left trivial).symm⟩

/-! ### A run -/

theorem run_append (authorizeUrl : String) (events : List (ℚ≥0 × Event)) (e : ℚ≥0 × Event) :
    run authorizeUrl (events ++ [e]) = (run authorizeUrl events).step authorizeUrl e := by
  rw [run, List.foldl_append]
  rfl

theorem run_invariant (authorizeUrl : String) (events : List (ℚ≥0 × Event)) :
    Invariant (run authorizeUrl events) := by
  induction events using List.reverseRecOn with
  | nil =>
    exact ⟨fun _ _ _ h => absurd h List.not_mem_nil, fun _ h => absurd h List.not_mem_nil,
      fun _ _ h => absurd h List.not_mem_nil, fun _ h => absurd h List.not_mem_nil⟩
  | append_singleton events e ih =>
    rw [run_append]
    exact (step_spec ih authorizeUrl e).1

/-- **In every state of a run everything proxied is authorized and everything
cached approved, exactly when every request for the health path that is no GET
comes after a recent approval.** -/
theorem run_authorized_iff (authorizeUrl : String) (events : List (ℚ≥0 × Event)) :
    (∀ before, before <+: events →
        Authorized (run authorizeUrl before).log ∧ CacheLogged (run authorizeUrl before)) ↔
      ∀ before delay request, before ++ [(delay, .arrive request)] <+: events →
        Bypasses request →
          Approved (run authorizeUrl before).log (clientIdForRequest request)
            ((run authorizeUrl before).now + delay) := by
  induction events using List.reverseRecOn with
  | nil =>
    refine ⟨fun _ before delay request hprefix => ?_, fun _ before hprefix => ?_⟩
    · exact absurd (List.prefix_nil.mp hprefix) (by simp)
    · rw [List.prefix_nil.mp hprefix]
      exact ⟨trivial, (run_invariant authorizeUrl []).cache⟩
  | append_singleton events e ih =>
    obtain ⟨hinv, hlog⟩ := step_spec (run_invariant authorizeUrl events) authorizeUrl e
    rw [← run_append] at hinv hlog
    have hshorter : ∀ {before : List (ℚ≥0 × Event)}, before <+: events → before <+: events ++ [e] :=
      fun h => h.trans (List.prefix_append events [e])
    constructor
    · intro hall before delay request hprefix hbypass
      rcases List.prefix_concat_iff.mp hprefix with heq | hprefix
      · -- the last event is the request
        obtain ⟨rfl, hlast⟩ := List.append_inj' heq rfl
        cases hlast
        exact (hlog.mp (hall _ (List.prefix_refl _)).1).2 hbypass
      · exact ih.mp (fun before h => hall before (hshorter h)) before delay request hprefix hbypass
    · intro hcovered before hprefix
      have hbefore := ih.mpr fun before delay request h =>
        hcovered before delay request (hshorter h)
      rcases List.prefix_concat_iff.mp hprefix with rfl | hprefix
      · refine ⟨hlog.mpr ⟨(hbefore events (List.prefix_refl _)).1, ?_⟩, hinv.cache⟩
        obtain ⟨delay, event⟩ := e
        cases event with
        | arrive request => exact hcovered events delay request (List.prefix_refl _)
        | answer n answer => trivial
      · exact hbefore before hprefix

/-- The first request of all: a POST to the health path is proxied, and gccore has
not been asked. -/
theorem run_bypassed :
    let events : List (ℚ≥0 × Event) := [(0, .arrive ⟨"POST", "/healthz", false⟩)]
    ¬ (Authorized (run "http://gccore/authorize" events).log ∧
      CacheLogged (run "http://gccore/authorize" events)) := by
  intro events h
  have hspec := step_spec (run_invariant "http://gccore/authorize" []) "http://gccore/authorize"
    (0, .arrive ⟨"POST", "/healthz", false⟩)
  have hcovered : Covered (run "http://gccore/authorize" []) (0, .arrive ⟨"POST", "/healthz", false⟩) :=
    (hspec.2.mp h.1).2
  obtain ⟨answer, time, hmem, -⟩ := hcovered ⟨rfl, by decide⟩
  exact List.not_mem_nil hmem

end Gcapi
