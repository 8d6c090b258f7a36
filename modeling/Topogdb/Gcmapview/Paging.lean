/-
Loading a collection page by page (`getPagedFeatureCollection` in
`gcmapview/mapViewData.ts`).

The loop follows the next links of the server; without them it steps the offset
by the features it got, until a page is short or looks like the page before it,
which it tells by the signature of the two.

* `pagingLoop_links` — with links every feature arrives;
* `pagingLoop_offsets`, `pagingLoop_repeat` — without links every feature arrives
  unless two pages look alike;
* **`getPagedFeatureCollection_complete_iff`** — both together.
-/
import Topogdb.Lib.Identifiers
import Topogdb.Lib.Python
import Topogdb.Lib.Relations
import Topogdb.Gcmapview.Editing

namespace Gcmapview

/-- `FeatureCollectionLink`, whose members are unknown. -/
structure FeatureCollectionLink where
  rel : Json
  href : Json

/-- `FeatureCollection`, with the links that a page has. -/
structure FeatureCollection where
  features : List Feature
  links : List FeatureCollectionLink := []
  members : List (String × Json) := []

/-- `emptyFeatureCollection`. -/
def emptyFeatureCollection : FeatureCollection :=
  { features := []
    members := [("type", .str "FeatureCollection")] }

/-- `Response`: the body is read with `response.json()`, which may throw. -/
structure Response where
  ok : Bool
  status : ℕ
  json : Except String FeatureCollection

/-- The URLs of the browser. -/
structure Browser where
  Url : Type
  /-- `new URL(url, window.location.origin)`; nothing is its `TypeError`. -/
  newUrl : String → Option Url
  /-- `searchParams.set` and `searchParams.delete`. -/
  set : String → String → Url → Url
  delete : String → Url → Url
  /-- `toString`. -/
  toString : Url → String
  /-- `String(value)`. -/
  stringOf : Json → String

/-- `FEATURE_PAGE_LIMIT`. -/
def featurePageLimit : ℕ := 1000

/-- `MAX_FEATURE_PAGE_REQUESTS`. -/
def maxFeaturePageRequests : ℕ := 100

/-- `sanitizeMissingHeights`. -/
def sanitizeMissingHeights (featureCollection : FeatureCollection) : FeatureCollection :=
  { featureCollection with features := featureCollection.features.map sanitizeMissingHeightFeature }

/-- `nextFeatureCollectionUrl`. -/
def nextFeatureCollectionUrl (payload : FeatureCollection) : Option String :=
  let nextLink := payload.links.find? fun link =>
    link.rel.str? = some "next" && link.href.str?.isSome
  (nextLink.bind fun link => link.href.str?).filter (· ≠ "")

/-- `mergedFeatureCollection`. -/
def mergedFeatureCollection (current nextPage : FeatureCollection) : FeatureCollection :=
  if current.features = [] then nextPage
  else { nextPage with features := current.features ++ nextPage.features }

section Loop

variable (browser : Browser)

/-- `pagedFeatureCollectionUrl`, of the URL as the browser read it. -/
def pagedFeatureCollectionUrl (url : browser.Url) (offset : ℕ) : String :=
  let nextUrl := browser.set "limit" (Nat.repr featurePageLimit) url
  browser.toString
    (if offset > 0 then browser.set "offset" (Nat.repr offset) nextUrl
      else browser.delete "offset" nextUrl)

/-- `String(feature?.id ?? '')`. -/
def idText (feature : Option Feature) : String :=
  match feature.bind (·.members.lookup "id") with
  | none => ""
  | some .null => ""
  | some id => browser.stringOf id

/-- `featurePageSignature`. -/
def featurePageSignature (features : List Feature) : String :=
  idText browser features.head? ++ ":" ++ idText browser features.getLast? ++ ":" ++
    Nat.repr features.length

/-- The variables of the loop but `requestCount`; `nextUrl` is never null. -/
structure PagingState where
  aggregated : FeatureCollection
  nextUrl : String
  offset : ℕ
  previousSignature : Option String

variable (fetch : String → Except String Response)

/-- The page of a request. -/
def fetchPage (nextUrl : String) : Except String FeatureCollection := do
  let response ← fetch nextUrl
  if !response.ok then .error ("Request failed with " ++ Nat.repr response.status)
  else response.json

/-- The end of an iteration, of the page and the link it had: the state of the next
one, or a break. -/
def continuePaging (url : browser.Url) (st : PagingState) (page : FeatureCollection)
    (linkedNextUrl : Option String) : Option PagingState :=
  match linkedNextUrl with
  | some linkedNextUrl =>
    some
      { st with
        nextUrl := linkedNextUrl
        offset := st.aggregated.features.length
        previousSignature := none }
  | none =>
    if page.features.length < featurePageLimit then none
    else
      let currentSignature := featurePageSignature browser page.features
      if some currentSignature = st.previousSignature then none
      else
        let offset := st.offset + page.features.length
        some
          { st with
            previousSignature := some currentSignature
            offset := offset
            nextUrl := pagedFeatureCollectionUrl browser url offset }

/-- The loop with the requests that are left: the collections given to `onProgress`,
and what it comes to. -/
def pagingLoop (url : browser.Url) :
    ℕ → PagingState → List FeatureCollection × Except String FeatureCollection
  | 0, st => ([], .ok st.aggregated)
  | requests + 1, st =>
    match fetchPage fetch st.nextUrl with
    | .error message => ([], .error message)
    | .ok payload =>
      let page := sanitizeMissingHeights payload
      let st := { st with aggregated := mergedFeatureCollection st.aggregated page }
      match continuePaging browser url st page (nextFeatureCollectionUrl payload) with
      | none => ([st.aggregated], .ok st.aggregated)
      | some next =>
        let rest := pagingLoop url requests next
        (st.aggregated :: rest.1, rest.2)

/-- `getPagedFeatureCollection`. -/
def getPagedFeatureCollection (url : String) :
    List FeatureCollection × Except String FeatureCollection :=
  match browser.newUrl url with
  | none => ([], .error "Invalid URL")
  | some url =>
    pagingLoop browser fetch url maxFeaturePageRequests
      { aggregated := emptyFeatureCollection
        nextUrl := pagedFeatureCollectionUrl browser url 0
        offset := 0
        previousSignature := none }

end Loop

/-! ### Servers -/

section Servers

variable (browser : Browser) (fetch : String → Except String Response) (url : browser.Url)
  (features : List Feature)

/-- The server knows which offset a URL asks for, the client's or its own, answers
with some of the features from there, and links on while more remain. -/
structure ServesLinks (asks : String → ℕ → Prop) : Prop where
  paged : ∀ offset, asks (pagedFeatureCollectionUrl browser url offset) offset
  answers : ∀ nextUrl offset, asks nextUrl offset → ∃ page, fetchPage fetch nextUrl = .ok page ∧
    page.features <+: features.drop offset ∧ (offset < features.length → page.features ≠ []) ∧
    if offset + page.features.length < features.length then
      ∃ href, nextFeatureCollectionUrl page = some href ∧ asks href (offset + page.features.length)
    else nextFeatureCollectionUrl page = none

/-- The server gives no links, and as many features as the client asks for. -/
def ServesOffsets : Prop :=
  ∀ offset, ∃ page, fetchPage fetch (pagedFeatureCollectionUrl browser url offset) = .ok page ∧
    page.features = Relations.page featurePageLimit offset features ∧
    nextFeatureCollectionUrl page = none

/-- The links from a request end within so many requests. -/
def LinksEnd : ℕ → String → Prop
  | 0, _ => False
  | requests + 1, nextUrl => ∀ page href, fetchPage fetch nextUrl = .ok page →
      nextFeatureCollectionUrl page = some href → LinksEnd requests href

/-- How the client gets on. -/
inductive Continuation where
  | links
  | offsets

/-- The features are served, and fit in the requests of the loop. -/
def Serves : Continuation → Prop
  | .links => (∃ asks, ServesLinks browser fetch url features asks) ∧
      LinksEnd fetch maxFeaturePageRequests (pagedFeatureCollectionUrl browser url 0)
  | .offsets => ServesOffsets browser fetch url features ∧
      features.length ≤ maxFeaturePageRequests * featurePageLimit

/-- A page and the one after it differ in their signatures, if more come then. -/
def PagesLookApart : Prop :=
  ∀ k, (k + 2) * featurePageLimit < features.length →
    featurePageSignature browser (Relations.page featurePageLimit (k * featurePageLimit) features) ≠
      featurePageSignature browser
        (Relations.page featurePageLimit ((k + 1) * featurePageLimit) features)

/-- The run returns every feature once, in order, and showed beginnings of them on
the way. -/
structure ReturnsAll (run : List FeatureCollection × Except String FeatureCollection) : Prop where
  returns : ∃ out, run.2 = .ok out ∧ out.features = features.map sanitizeMissingHeightFeature
  progress : ∀ shown ∈ run.1, shown.features <+: features.map sanitizeMissingHeightFeature

end Servers

/-! ### One iteration -/

section Iteration

variable {browser : Browser} {fetch : String → Except String Response} {url : browser.Url}
  {features : List Feature}

theorem mergedFeatureCollection_features (current nextPage : FeatureCollection) :
    (mergedFeatureCollection current nextPage).features = current.features ++ nextPage.features := by
  rw [mergedFeatureCollection]
  split
  · next h => rw [h, List.nil_append]
  · rfl

/-- Signatures look at the ids, which sanitising leaves. -/
theorem featurePageSignature_sanitize (page : List Feature) :
    featurePageSignature browser (page.map sanitizeMissingHeightFeature) =
      featurePageSignature browser page := by
  have htext (feature : Option Feature) :
      idText browser (feature.map sanitizeMissingHeightFeature) = idText browser feature := by
    cases feature <;> rfl
  rw [featurePageSignature, List.head?_map, List.getLast?_map, htext, htext, List.length_map]
  rfl

theorem pagingLoop_fetched {requests : ℕ} {st : PagingState} {payload : FeatureCollection}
    (h : fetchPage fetch st.nextUrl = .ok payload) :
    pagingLoop browser fetch url (requests + 1) st =
      let page := sanitizeMissingHeights payload
      let st := { st with aggregated := mergedFeatureCollection st.aggregated page }
      match continuePaging browser url st page (nextFeatureCollectionUrl payload) with
      | none => ([st.aggregated], .ok st.aggregated)
      | some next =>
        let rest := pagingLoop browser fetch url requests next
        (st.aggregated :: rest.1, rest.2) := by
  rw [pagingLoop, h]

/-- Without a link a short page and a repeated one break the loop. -/
theorem continuePaging_offset (st : PagingState) (page : List Feature) (other : FeatureCollection) :
    continuePaging browser url st { other with features := page.map sanitizeMissingHeightFeature }
      none =
      if page.length < featurePageLimit ∨
          some (featurePageSignature browser page) = st.previousSignature then none
      else some
        { st with
          previousSignature := some (featurePageSignature browser page)
          offset := st.offset + page.length
          nextUrl := pagedFeatureCollectionUrl browser url (st.offset + page.length) } := by
  rw [continuePaging]
  simp only [featurePageSignature_sanitize, List.length_map]
  by_cases hshort : page.length < featurePageLimit
  · rw [if_pos hshort, if_pos (.inl hshort)]
  by_cases hsame : some (featurePageSignature browser page) = st.previousSignature
  · rw [if_neg hshort, if_pos hsame, if_pos (.inr hsame)]
  · rw [if_neg hshort, if_neg hsame, if_neg (not_or.mpr ⟨hshort, hsame⟩)]

/-- The first features, sanitised, and a page of the others. -/
theorem merged_take (payload : FeatureCollection) {aggregated : FeatureCollection} {offset : ℕ}
    (haggregated : aggregated.features =
      (features.take offset).map sanitizeMissingHeightFeature)
    (hpage : payload.features <+: features.drop offset) :
    (mergedFeatureCollection aggregated (sanitizeMissingHeights payload)).features =
      (features.take (offset + payload.features.length)).map sanitizeMissingHeightFeature := by
  rw [mergedFeatureCollection_features, haggregated, List.take_add, List.map_append,
    ← List.prefix_iff_eq_take.mp hpage]
  rfl

theorem ReturnsAll.of_take {aggregated : FeatureCollection} {offset : ℕ}
    (haggregated : aggregated.features =
      (features.take offset).map sanitizeMissingHeightFeature)
    (hall : features.length ≤ offset) : ReturnsAll features ([], .ok aggregated) where
  returns := ⟨aggregated, rfl, by rw [haggregated, List.take_of_length_le hall]⟩
  progress := by simp

/-- What is shown on the way is a beginning. -/
theorem ReturnsAll.cons {run : List FeatureCollection × Except String FeatureCollection}
    (h : ReturnsAll features run) {aggregated : FeatureCollection} {offset : ℕ}
    (haggregated : aggregated.features =
      (features.take offset).map sanitizeMissingHeightFeature) :
    ReturnsAll features (aggregated :: run.1, run.2) where
  returns := h.returns
  progress := by
    intro shown hshown
    rcases List.mem_cons.mp hshown with rfl | hshown
    · rw [haggregated]
      exact (List.take_prefix offset features).map _
    · exact h.progress shown hshown

/-- A page of nothing ends the loop. -/
theorem pagingLoop_empty {requests : ℕ} {st : PagingState} {payload : FeatureCollection}
    (haggregated : st.aggregated.features = features.map sanitizeMissingHeightFeature)
    (hfetch : fetchPage fetch st.nextUrl = .ok payload) (hempty : payload.features = [])
    (hlink : nextFeatureCollectionUrl payload = none) :
    ReturnsAll features (pagingLoop browser fetch url requests st) := by
  have htake : st.aggregated.features =
      (features.take features.length).map sanitizeMissingHeightFeature := by
    rw [List.take_length, haggregated]
  cases requests with
  | zero => exact ReturnsAll.of_take htake le_rfl
  | succ requests =>
    have hmerged := merged_take payload htake (by simp [hempty])
    rw [hempty, List.length_nil, Nat.add_zero] at hmerged
    have hshort : (sanitizeMissingHeights payload).features.length < featurePageLimit := by
      simp [sanitizeMissingHeights, hempty, featurePageLimit]
    rw [pagingLoop_fetched hfetch, hlink]
    simp only [continuePaging, if_pos hshort]
    exact (ReturnsAll.of_take hmerged le_rfl).cons hmerged

end Iteration

/-! ### Whole runs -/

section Runs

variable {browser : Browser} {fetch : String → Except String Response} {url : browser.Url}
  {features : List Feature}

/-- **With links** every feature arrives. -/
theorem pagingLoop_links {asks : String → ℕ → Prop}
    (hserver : ServesLinks browser fetch url features asks) {requests : ℕ} {st : PagingState}
    (hoffset : st.offset ≤ features.length) (hasks : asks st.nextUrl st.offset)
    (hprevious : st.previousSignature = none)
    (haggregated : st.aggregated.features =
      (features.take st.offset).map sanitizeMissingHeightFeature)
    (hend : LinksEnd fetch requests st.nextUrl) :
    ReturnsAll features (pagingLoop browser fetch url requests st) := by
  induction requests generalizing st with
  | zero => exact hend.elim
  | succ requests ih =>
    obtain ⟨payload, hfetch, hpage, -, hlink⟩ := hserver.answers _ _ hasks
    have hmerged := merged_take payload haggregated hpage
    have hlength : st.offset + payload.features.length ≤ features.length := by
      have hle := hpage.length_le
      rw [List.length_drop] at hle
      omega
    rw [pagingLoop_fetched hfetch]
    split at hlink
    · -- a link to the rest
      obtain ⟨href, hhref, hasks'⟩ := hlink
      rw [hhref]
      have hcount : (mergedFeatureCollection st.aggregated
          (sanitizeMissingHeights payload)).features.length =
            st.offset + payload.features.length := by
        rw [hmerged, List.length_map, List.length_take, min_eq_left hlength]
      refine ReturnsAll.cons (ih ?_ ?_ rfl ?_ ?_) hmerged
      · exact hcount.trans_le hlength
      · exact hcount.symm ▸ hasks'
      · exact hmerged.trans (by rw [← hcount])
      · exact hend payload href hfetch hhref
    · -- the last page; one of full length is followed by an empty one
      next hlast =>
      have hall : st.offset + payload.features.length = features.length := by omega
      rw [hlink, sanitizeMissingHeights]
      simp only [continuePaging_offset, hprevious]
      split
      · next hbreak =>
        split at hbreak
        · exact (ReturnsAll.of_take hmerged (by omega)).cons hmerged
        · cases hbreak
      · next next hnext =>
        split at hnext
        · cases hnext
        cases hnext
        obtain ⟨rest, hfetch', hrest, -, hlink'⟩ :=
          hserver.answers _ _ (hserver.paged (st.offset + payload.features.length))
        have hempty : rest.features = [] := by
          rw [hall, List.drop_length] at hrest
          exact List.prefix_nil.mp hrest
        rw [hempty, List.length_nil, Nat.add_zero, if_neg (by omega)] at hlink'
        refine ReturnsAll.cons (pagingLoop_empty ?_ hfetch' hempty hlink') hmerged
        exact hmerged.trans (by rw [hall, List.take_length])

/-- The state before the request for page `k`. -/
structure AtPage (browser : Browser) (url : browser.Url) (features : List Feature) (k : ℕ)
    (st : PagingState) : Prop where
  full : k * featurePageLimit ≤ features.length
  nextUrl : st.nextUrl = pagedFeatureCollectionUrl browser url (k * featurePageLimit)
  offset : st.offset = k * featurePageLimit
  aggregated : st.aggregated.features =
    (features.take (k * featurePageLimit)).map sanitizeMissingHeightFeature
  previousSignature : st.previousSignature =
    if k = 0 then none
    else some (featurePageSignature browser
      (Relations.page featurePageLimit ((k - 1) * featurePageLimit) features))

/-- One iteration without links: the last page ends the loop, and so does one that
looks like the page before. -/
theorem pagingLoop_page (hserver : ServesOffsets browser fetch url features) (requests : ℕ)
    {k : ℕ} {st : PagingState} (hst : AtPage browser url features k st) :
    ∃ aggregated, aggregated.features =
        (features.take ((k + 1) * featurePageLimit)).map sanitizeMissingHeightFeature ∧
      if features.length < (k + 1) * featurePageLimit ∨ some (featurePageSignature browser
          (Relations.page featurePageLimit (k * featurePageLimit) features)) = st.previousSignature
      then pagingLoop browser fetch url (requests + 1) st = ([aggregated], .ok aggregated)
      else ∃ next, AtPage browser url features (k + 1) next ∧
        pagingLoop browser fetch url (requests + 1) st =
          (aggregated :: (pagingLoop browser fetch url requests next).1,
            (pagingLoop browser fetch url requests next).2) := by
  obtain ⟨payload, hfetch, hpage, hlink⟩ := hserver (k * featurePageLimit)
  rw [← hst.nextUrl] at hfetch
  have hprefix : payload.features <+: features.drop (k * featurePageLimit) := by
    rw [hpage]
    exact List.take_prefix _ _
  have hlength : payload.features.length =
      min featurePageLimit (features.length - k * featurePageLimit) := by
    rw [hpage, Relations.length_page]
  have hmerged : (mergedFeatureCollection st.aggregated (sanitizeMissingHeights payload)).features =
      (features.take ((k + 1) * featurePageLimit)).map sanitizeMissingHeightFeature := by
    rw [merged_take payload hst.aggregated hprefix, Nat.succ_mul, List.take_eq_take_iff.mpr]
    omega
  have hshort : (Relations.page featurePageLimit (k * featurePageLimit) features).length <
      featurePageLimit ↔ features.length < (k + 1) * featurePageLimit := by
    have hfull := hst.full
    rw [← hpage, hlength, Nat.succ_mul]
    omega
  refine ⟨_, hmerged, ?_⟩
  rw [pagingLoop_fetched hfetch, hlink]
  rw [sanitizeMissingHeights] at hmerged ⊢
  simp only [continuePaging_offset, hpage, hshort] at hmerged ⊢
  -- the loop ends at a short page, and at one that looks like the last one
  split
  · rfl
  · next hgoes =>
    refine ⟨_, ?_, rfl⟩
    rw [not_or, not_lt] at hgoes
    -- a full page: the next one starts where it ends
    have hsize : (Relations.page featurePageLimit (k * featurePageLimit) features).length =
        featurePageLimit := by
      have hle := hgoes.1
      rw [← hpage, hlength]
      rw [Nat.succ_mul] at hle
      omega
    have hoffset : st.offset + (Relations.page featurePageLimit (k * featurePageLimit)
        features).length = (k + 1) * featurePageLimit := by
      rw [hsize, hst.offset, Nat.succ_mul]
    exact
      { full := hgoes.1
        nextUrl := congrArg (pagedFeatureCollectionUrl browser url) hoffset
        offset := hoffset
        aggregated := hmerged
        previousSignature := rfl }

/-- **Without links** every feature arrives if no two pages look alike. -/
theorem pagingLoop_offsets (hserver : ServesOffsets browser fetch url features)
    (hapart : PagesLookApart browser features) {requests k : ℕ} {st : PagingState}
    (hst : AtPage browser url features k st)
    (hfits : features.length ≤ (k + requests) * featurePageLimit) :
    ReturnsAll features (pagingLoop browser fetch url requests st) := by
  induction requests generalizing k st with
  | zero => exact ReturnsAll.of_take hst.aggregated hfits
  | succ requests ih =>
    obtain ⟨aggregated, haggregated, hpage⟩ := pagingLoop_page hserver requests hst
    split at hpage
    · next hbreak =>
      -- whatever the reason, this is the last page
      have hall : features.length ≤ (k + 1) * featurePageLimit := by
        rcases hbreak with hshort | hsame
        · exact hshort.le
        · rw [hst.previousSignature] at hsame
          split at hsame
          · cases hsame
          · next hk =>
            obtain ⟨k, rfl⟩ := Nat.exists_eq_succ_of_ne_zero hk
            by_contra hmore
            exact hapart k (not_le.mp hmore) (Option.some.inj hsame).symm
      rw [hpage]
      exact (ReturnsAll.of_take haggregated hall).cons haggregated
    · obtain ⟨next, hnext, heq⟩ := hpage
      rw [heq]
      refine (ih hnext ?_).cons haggregated
      rwa [Nat.add_right_comm, Nat.add_assoc]

/-- **Two pages that look alike** end the loop before the features that follow. -/
theorem pagingLoop_repeat (hserver : ServesOffsets browser fetch url features) {k j : ℕ}
    (hmore : (j + 2) * featurePageLimit < features.length)
    (hsame : featurePageSignature browser
        (Relations.page featurePageLimit (j * featurePageLimit) features) =
      featurePageSignature browser
        (Relations.page featurePageLimit ((j + 1) * featurePageLimit) features))
    (hk : k ≤ j + 1) {requests : ℕ} {st : PagingState} (hst : AtPage browser url features k st)
    {out : FeatureCollection} (hout : (pagingLoop browser fetch url requests st).2 = .ok out) :
    out.features.length < features.length := by
  have htake {aggregated : FeatureCollection} {m : ℕ} (hm : m ≤ j + 2)
      (haggregated : aggregated.features =
        (features.take (m * featurePageLimit)).map sanitizeMissingHeightFeature) :
      aggregated.features.length < features.length := by
    have hle : m * featurePageLimit ≤ (j + 2) * featurePageLimit := Nat.mul_le_mul_right _ hm
    rw [haggregated, List.length_map, List.length_take]
    omega
  induction requests generalizing k st with
  | zero =>
    cases hout
    exact htake (by omega) hst.aggregated
  | succ requests ih =>
    obtain ⟨aggregated, haggregated, hpage⟩ := pagingLoop_page hserver requests hst
    split at hpage
    · rw [hpage] at hout
      cases hout
      exact htake (by omega) haggregated
    · next hgoes =>
      obtain ⟨next, hnext, heq⟩ := hpage
      rw [heq] at hout
      -- the page that looks like the one before does not go on
      have hne : k ≠ j + 1 := by
        rintro rfl
        exact hgoes (.inr (by rw [hst.previousSignature, if_neg (Nat.succ_ne_zero j),
          Nat.add_sub_cancel, hsame]))
      exact ih (by omega) hnext hout

/-- The state that the loop starts in. -/
def PagingState.start (browser : Browser) (url : browser.Url) : PagingState :=
  { aggregated := emptyFeatureCollection
    nextUrl := pagedFeatureCollectionUrl browser url 0
    offset := 0
    previousSignature := none }

theorem PagingState.start_atPage (browser : Browser) (url : browser.Url) (features : List Feature) :
    AtPage browser url features 0 (PagingState.start browser url) where
  full := by simp
  nextUrl := by rw [Nat.zero_mul]; rfl
  offset := by rw [Nat.zero_mul]; rfl
  aggregated := by rw [Nat.zero_mul]; rfl
  previousSignature := rfl

/-- **`getPagedFeatureCollection` is complete** with links, and without them exactly
when no two pages look alike that more features follow. -/
theorem getPagedFeatureCollection_complete_iff {text : String}
    (hurl : browser.newUrl text = some url) {continuation : Continuation}
    (hserves : Serves browser fetch url features continuation) :
    ReturnsAll features (getPagedFeatureCollection browser fetch text) ↔
      (continuation = .offsets → PagesLookApart browser features) := by
  rw [getPagedFeatureCollection, hurl]
  simp only
  cases continuation with
  | links =>
    obtain ⟨⟨asks, hserver⟩, hend⟩ := hserves
    refine iff_of_true (pagingLoop_links hserver (Nat.zero_le _) (hserver.paged 0) rfl rfl hend) ?_
    rintro ⟨⟩
  | offsets =>
    obtain ⟨hserver, hfits⟩ := hserves
    have hst := PagingState.start_atPage browser url features
    constructor
    · rintro h - j hmore hsame
      obtain ⟨out, hout, hfeatures⟩ := h.returns
      have hlt := pagingLoop_repeat hserver hmore hsame (Nat.zero_le _) hst hout
      rw [hfeatures, List.length_map] at hlt
      exact lt_irrefl _ hlt
    · exact fun h => pagingLoop_offsets hserver (h rfl) hst (by rwa [Nat.zero_add])

end Runs

/-! ### Ids -/

theorem signature_page {browser : Browser} {features : List Feature} {k : ℕ}
    (hfull : (k + 1) * featurePageLimit ≤ features.length) :
    featurePageSignature browser (Relations.page featurePageLimit (k * featurePageLimit) features) =
      idText browser features[k * featurePageLimit]? ++ ":" ++
        idText browser features[(k + 1) * featurePageLimit - 1]? ++ ":" ++
          Nat.repr featurePageLimit := by
  have hlim : 1 ≤ featurePageLimit := by decide
  rw [Nat.succ_mul] at hfull ⊢
  rw [featurePageSignature, Relations.head?_page hlim, Relations.getLast?_page hlim hfull,
    Relations.length_page, min_eq_left (by omega)]

/-- Pages look apart when the ids are apart as texts without a colon. -/
theorem pagesLookApart_of_ids {browser : Browser} {features : List Feature}
    (hnodup : (features.map fun feature => idText browser (some feature)).Nodup)
    (hcolon : ∀ feature ∈ features, ':' ∉ (idText browser (some feature)).toList) :
    PagesLookApart browser features := by
  intro k hmore hsame
  have hpos : 0 < featurePageLimit := by decide
  rw [Nat.add_mul] at hmore
  have hlt : k * featurePageLimit < features.length := by omega
  have hlt' : (k + 1) * featurePageLimit < features.length := by
    rw [Nat.succ_mul]
    omega
  rw [signature_page hlt'.le, signature_page (by rw [Nat.add_mul, Nat.add_mul]; omega),
    List.getElem?_eq_getElem hlt, List.getElem?_eq_getElem hlt'] at hsame
  -- the signatures up to their first colons
  have htexts := congrArg String.toList hsame
  simp only [String.toList_append, List.append_assoc, List.singleton_append,
    show ":".toList = [':'] from rfl] at htexts
  obtain ⟨hfirst, -⟩ := Sql.append_cons_inj (hcolon _ (List.getElem_mem hlt))
    (hcolon _ (List.getElem_mem hlt')) htexts
  have hids : (features.map fun feature => idText browser (some feature))[k * featurePageLimit]? =
      (features.map fun feature => idText browser (some feature))[(k + 1) * featurePageLimit]? := by
    rw [List.getElem?_map, List.getElem?_map, List.getElem?_eq_getElem hlt,
      List.getElem?_eq_getElem hlt']
    exact congrArg some (String.toList_inj.mp hfirst)
  have hindex : k * featurePageLimit = (k + 1) * featurePageLimit :=
    (List.getElem?_inj (by simpa using hlt) hnodup).mp hids
  rw [Nat.succ_mul] at hindex
  omega

/-! ### A server -/

/-- A browser, on URLs that come without a query. -/
def plainBrowser : Browser where
  Url := String × List (String × String)
  newUrl text := some (text, [])
  set key value url := (url.1, Python.dictSet url.2 key value)
  delete key url := (url.1, url.2.filter (·.1 ≠ key))
  toString url :=
    if url.2 = [] then url.1
    else url.1 ++ "?" ++ "&".intercalate (url.2.map fun e => e.1 ++ "=" ++ e.2)
  stringOf id := id.str?.getD ""

/-- The offset that a URL asks for, after its limit. -/
def requestedOffset (text : String) : ℕ :=
  match text.toList.splitOn '=' with
  | [_, _, digits] => Nat.ofDigitChars 10 digits 0
  | _ => 0

/-- A server of these features that gives no links. -/
def offsetServer (features : List Feature) (text : String) : Except String Response :=
  .ok
    { ok := true
      status := 200
      json := .ok
        { features := Relations.page featurePageLimit (requestedOffset text) features } }

theorem requestedOffset_paged (offset : ℕ) :
    requestedOffset (pagedFeatureCollectionUrl plainBrowser ("https://api/items", []) offset) =
      offset := by
  by_cases h : offset = 0
  · subst h
    decide +kernel
  · have htext : (pagedFeatureCollectionUrl plainBrowser ("https://api/items", []) offset).toList =
        "https://api/items?limit".toList ++ '=' :: ("1000&offset".toList ++ '=' ::
          (Nat.repr offset).toList) := by
      have hparams : pagedFeatureCollectionUrl plainBrowser ("https://api/items", []) offset =
          "https://api/items" ++ "?" ++ ("limit" ++ "=" ++ "1000" ++ "&" ++
            ("offset" ++ "=" ++ Nat.repr offset)) := by
        show plainBrowser.toString (if offset > 0 then _ else _) = _
        rw [if_pos (Nat.pos_of_ne_zero h)]
        rfl
      rw [hparams]
      simp [String.toList_append]
    have hdigits : '=' ∉ (Nat.repr offset).toList := by
      intro hmem
      rw [Nat.toList_repr] at hmem
      exact absurd (Nat.isDigit_of_mem_toDigits (by omega) (by omega) hmem) (by decide)
    rw [requestedOffset, htext, List.splitOn_append_cons_self_of_not_mem (by decide),
      List.splitOn_append_cons_self_of_not_mem (by decide), List.splitOn_eq_singleton hdigits]
    simp [Nat.toList_repr]

theorem serves_offsetServer {features : List Feature}
    (h : features.length ≤ maxFeaturePageRequests * featurePageLimit) :
    Serves plainBrowser (offsetServer features) ("https://api/items", []) features .offsets := by
  refine ⟨fun offset => ⟨_, rfl, ?_, rfl⟩, h⟩
  rw [requestedOffset_paged]

/-- A feature of an id alone. -/
def featureOf (id : String) : Feature :=
  { geometry := none
    members := [("id", .str id)] }

/-- Features numbered from zero. -/
def numberedFeatures (n : ℕ) : List Feature := (List.range n).map fun i => featureOf (Nat.repr i)

theorem length_numberedFeatures (n : ℕ) : (numberedFeatures n).length = n := by
  rw [numberedFeatures, List.length_map, List.length_range]

/-- A server of pages of two that links to the next one. -/
def linkServer (features : List Feature) (text : String) : Except String Response :=
  let offset := requestedOffset text
  .ok
    { ok := true
      status := 200
      json := .ok
        { features := Relations.page 2 offset features
          links :=
            if offset + 2 < features.length then
              [⟨.str "next", .str
                (pagedFeatureCollectionUrl plainBrowser ("https://api/items", []) (offset + 2))⟩]
            else [] } }

theorem fetchPage_linkServer (features : List Feature) (offset : ℕ) :
    ∃ page, fetchPage (linkServer features)
        (pagedFeatureCollectionUrl plainBrowser ("https://api/items", []) offset) = .ok page ∧
      page.features = Relations.page 2 offset features ∧
      nextFeatureCollectionUrl page =
        if offset + 2 < features.length then
          some (pagedFeatureCollectionUrl plainBrowser ("https://api/items", []) (offset + 2))
        else none := by
  refine ⟨_, rfl, by rw [requestedOffset_paged], ?_⟩
  rw [requestedOffset_paged]
  have hne : pagedFeatureCollectionUrl plainBrowser ("https://api/items", []) (offset + 2) ≠ "" := by
    intro hnil
    have hoffset := requestedOffset_paged (offset + 2)
    rw [hnil] at hoffset
    exact absurd (hoffset.symm.trans (by decide +kernel : requestedOffset "" = 0)) (by omega)
  by_cases hmore : offset + 2 < features.length
  · simp [nextFeatureCollectionUrl, hmore, hne, Json.str?]
  · simp [nextFeatureCollectionUrl, hmore]

/-- So many requests of two are enough. -/
theorem linksEnd_linkServer {features : List Feature} {requests offset : ℕ}
    (h : features.length ≤ offset + 2 * requests + 2) :
    LinksEnd (linkServer features) (requests + 1)
      (pagedFeatureCollectionUrl plainBrowser ("https://api/items", []) offset) := by
  induction requests generalizing offset with
  | zero =>
    intro page href hpage hnext
    obtain ⟨page', hpage', -, hlink⟩ := fetchPage_linkServer features offset
    cases hpage.symm.trans hpage'
    rw [hlink, if_neg (by omega)] at hnext
    cases hnext
  | succ requests ih =>
    intro page href hpage hnext
    obtain ⟨page', hpage', -, hlink⟩ := fetchPage_linkServer features offset
    cases hpage.symm.trans hpage'
    rw [hlink] at hnext
    split at hnext
    · cases hnext
      exact ih (by omega)
    · cases hnext

theorem serves_linkServer {features : List Feature} (h : features.length ≤ 200) :
    Serves plainBrowser (linkServer features) ("https://api/items", []) features .links := by
  refine ⟨⟨fun text offset =>
    text = pagedFeatureCollectionUrl plainBrowser ("https://api/items", []) offset,
    fun _ => rfl, ?_⟩, @linksEnd_linkServer features 99 0 (by omega)⟩
  rintro nextUrl offset rfl
  obtain ⟨page, hpage, hfeatures, hlink⟩ := fetchPage_linkServer features offset
  have hlength : page.features.length = min 2 (features.length - offset) := by
    rw [hfeatures, Relations.length_page]
  refine ⟨page, hpage, hfeatures ▸ List.take_prefix _ _, fun hlt hnil => ?_, ?_⟩
  · rw [hnil, List.length_nil] at hlength
    omega
  · rw [hlink]
    by_cases hmore : offset + 2 < features.length
    · have htwo : page.features.length = 2 := by omega
      rw [htwo, if_pos hmore, if_pos hmore]
      exact ⟨_, rfl, rfl⟩
    · rw [if_neg hmore, if_neg (by omega)]

/-- Three pages of a thousand by their offsets, and three of two along their links. -/
theorem getPagedFeatureCollection_complete_iff_sample :
    ReturnsAll (numberedFeatures 2500) (getPagedFeatureCollection plainBrowser
        (offsetServer (numberedFeatures 2500)) "https://api/items") ∧
      ReturnsAll (numberedFeatures 5) (getPagedFeatureCollection plainBrowser
        (linkServer (numberedFeatures 5)) "https://api/items") := by
  have hserves : Serves plainBrowser (offsetServer (numberedFeatures 2500)) ("https://api/items", [])
      (numberedFeatures 2500) .offsets :=
    serves_offsetServer (by rw [length_numberedFeatures]; decide)
  constructor
  · refine (getPagedFeatureCollection_complete_iff rfl hserves).mpr fun _ =>
      pagesLookApart_of_ids ?_ ?_
    · rw [numberedFeatures, List.map_map]
      exact List.nodup_range.map fun i j h => Sql.repr_injective h
    · intro feature hfeature
      obtain ⟨i, -, rfl⟩ := List.mem_map.mp hfeature
      show ':' ∉ (Nat.repr i).toList
      intro hmem
      rw [Nat.toList_repr] at hmem
      exact absurd (Nat.isDigit_of_mem_toDigits (by omega) (by omega) hmem) (by decide)
  · refine (getPagedFeatureCollection_complete_iff rfl
      (serves_linkServer (by rw [length_numberedFeatures]; omega))).mpr ?_
    rintro ⟨⟩

/-- Ids, of which two pages have the same ends around their colons. -/
def colonId (i : ℕ) : String :=
  if i = 0 then "a:b" else if i = 999 then "c" else if i = 1000 then "a"
  else if i = 1999 then "b:c" else Nat.repr i

theorem colonId_injective {i j : ℕ} (h : colonId i = colonId j) : i = j := by
  have hrepr (n : ℕ) : Nat.repr n ≠ "a:b" ∧ Nat.repr n ≠ "c" ∧ Nat.repr n ≠ "a" ∧
      Nat.repr n ≠ "b:c" :=
    ⟨Sql.repr_ne_of_mem (c := 'a') (by decide +kernel) (by decide),
      Sql.repr_ne_of_mem (c := 'c') (by decide +kernel) (by decide),
      Sql.repr_ne_of_mem (c := 'a') (by decide +kernel) (by decide),
      Sql.repr_ne_of_mem (c := 'b') (by decide +kernel) (by decide)⟩
  have hi := hrepr i
  have hj := hrepr j
  unfold colonId at h
  split_ifs at h
  all_goals first | omega | exact Sql.repr_injective h | simp_all

/-- Three pages, of which the first two look alike. -/
def colonFeatures : List Feature := (List.range 2001).map fun i => featureOf (colonId i)

/-- The third page is never asked for. -/
theorem getPagedFeatureCollection_stops :
    (colonFeatures.map (·.members.lookup "id")).Nodup ∧
      Serves plainBrowser (offsetServer colonFeatures) ("https://api/items", []) colonFeatures
        .offsets ∧
      ¬ ReturnsAll colonFeatures (getPagedFeatureCollection plainBrowser
        (offsetServer colonFeatures) "https://api/items") := by
  have hlength : colonFeatures.length = 2001 := by
    rw [colonFeatures, List.length_map, List.length_range]
  have hget {i : ℕ} (hi : i < 2001) : colonFeatures[i]? = some (featureOf (colonId i)) := by
    rw [colonFeatures, List.getElem?_map, List.getElem?_range hi]
    rfl
  have hserves : Serves plainBrowser (offsetServer colonFeatures) ("https://api/items", [])
      colonFeatures .offsets :=
    serves_offsetServer (by rw [hlength]; decide)
  refine ⟨?_, hserves, fun hall => ?_⟩
  · rw [colonFeatures, List.map_map]
    refine List.nodup_range.map fun i j h => colonId_injective ?_
    simpa [featureOf] using h
  · obtain ⟨out, hout, hfeatures⟩ := hall.returns
    -- the first two pages look alike, and the third is never asked for
    have hlt : out.features.length < colonFeatures.length := by
      refine pagingLoop_repeat hserves.1 (j := 0) ?_ ?_ (Nat.zero_le _) (PagingState.start_atPage _ _ _) hout
      · rw [hlength]
        decide
      · rw [signature_page (by rw [hlength]; decide), signature_page (by rw [hlength]; decide)]
        have hstart : colonFeatures[0 * featurePageLimit]? = some (featureOf "a:b") :=
          hget (by decide)
        have hend : colonFeatures[(0 + 1) * featurePageLimit - 1]? = some (featureOf "c") :=
          hget (by decide)
        have hstart' : colonFeatures[(0 + 1) * featurePageLimit]? = some (featureOf "a") :=
          hget (by decide)
        have hend' : colonFeatures[(0 + 1 + 1) * featurePageLimit - 1]? = some (featureOf "b:c") :=
          hget (by decide)
        have hends : "a:b" ++ ":" ++ "c" = "a" ++ ":" ++ "b:c" := by decide
        rw [hstart, hend, hstart', hend']
        exact congrArg (· ++ ":" ++ Nat.repr featurePageLimit) hends
    rw [hfeatures, List.length_map] at hlt
    exact lt_irrefl _ hlt

end Gcmapview
