/-
The paths of a collection that the server manages (`outward_identifier` and
`server_managed` of a description), and what a plan makes of them.

The loader walks a path part by part.  The plan builder splits it once, at its
first dot, and takes the rest as one key of the object.

* `segments_of_splitFirst` — the first part and the key, against the parts;
* `injects_injectedKeys` — the keys of a column, out of the paths;
* `field_of_managedPath` — a managed path leads into a declared field.
-/
import Topogdb.Geocomponents.Conformance

namespace Geocomponents

open Sql

/-! ### Paths -/

/-- The parts of a split path. -/
theorem segments_of_splitFirst {path : String} {x : String × String}
    (h : splitFirst path = some x) : segments path = x.1 :: segments x.2 := by
  have hpath := splitFirst_eq h
  have hhead : '.' ∉ x.1.toList := by
    rw [splitFirst] at h
    split at h
    · cases h
      rw [Python.partition, String.toList_ofList]
      intro hmem
      have hne := List.mem_takeWhile_imp hmem
      simp at hne
    · cases h
  have hchars : path.toList = x.1.toList ++ '.' :: x.2.toList := by
    rw [hpath, String.toList_append, String.toList_append, List.append_assoc]
    rfl
  rw [segments, hchars, List.splitOn_append_cons_self_of_not_mem hhead, List.map_cons,
    String.ofList_toList]
  rfl

/-- A path without a dot is one part. -/
theorem segments_of_splitFirst_none {path : String} (h : splitFirst path = none) :
    segments path = [path] := by
  have hdot : '.' ∉ path.toList := by
    intro hdot
    rw [splitFirst, if_pos hdot] at h
    cases h
  rw [segments, List.splitOn_eq_singleton hdot, List.map_singleton, String.ofList_toList]

/-- A path of two parts is split into them. -/
theorem splitFirst_of_segments {path column key : String} (h : segments path = [column, key]) :
    splitFirst path = some (column, key) := by
  cases hsplit : splitFirst path with
  | none =>
    rw [segments_of_splitFirst_none hsplit] at h
    cases h
  | some x =>
    rw [segments_of_splitFirst hsplit] at h
    obtain ⟨hcolumn, hkey⟩ := List.cons.inj h
    cases hsplit' : splitFirst x.2 with
    | none =>
      rw [segments_of_splitFirst_none hsplit'] at hkey
      rw [← hcolumn, ← (List.cons.inj hkey).1]
    | some y =>
      rw [segments_of_splitFirst hsplit'] at hkey
      have hnil := (List.cons.inj hkey).2
      rw [segments, List.map_eq_nil_iff] at hnil
      exact absurd hnil (List.splitOn_ne_nil _ _)

/-- The parts of a path of two that is split. -/
theorem segments_of_length {path column key : String} (h : splitFirst path = some (column, key))
    (hlen : (segments path).length = 2) : segments path = [column, key] := by
  have hsegments := segments_of_splitFirst h
  cases hsplit : splitFirst key with
  | none => rw [hsegments, segments_of_splitFirst_none hsplit]
  | some x =>
    rw [hsegments, segments_of_splitFirst hsplit, List.length_cons, List.length_cons] at hlen
    have hpos : 0 < (segments x.2).length := by
      rw [segments, List.length_map]
      exact List.length_pos_iff.mpr (List.splitOn_ne_nil _ _)
    omega

/-- The column that a path begins with. -/
def pathColumn (path : String) : String := (segments path).headD ""

theorem pathColumn_of_splitFirst {path : String} {x : String × String}
    (h : splitFirst path = some x) : pathColumn path = x.1 := by
  rw [pathColumn, segments_of_splitFirst h]
  rfl

/-- The `outward_identifier` path, and the `server_managed` paths that lead into an
object. -/
def ResolvedCollection.managedPaths (rc : ResolvedCollection) :
    List (String × ServerManagedToken) :=
  rc.serverManagedPaths.filter (fun e => 2 ≤ (segments e.1).length) ++
    (rc.outwardIdentifierPath.filter (· ≠ "")).toList.map fun path => (path, .outwardIdentifier)

/-- The paths that are split are all of them managed. -/
theorem mem_managedPaths_of_splitFirst {rc : ResolvedCollection}
    {e : String × ServerManagedToken}
    (h : e ∈ rc.serverManagedPaths ++
      rc.outwardIdentifierPath.toList.map fun path => (path, .outwardIdentifier))
    {x : String × String} (hsplit : splitFirst e.1 = some x) : e ∈ rc.managedPaths := by
  have hsegments := segments_of_splitFirst hsplit
  rw [ResolvedCollection.managedPaths, List.mem_append]
  rcases List.mem_append.mp h with hserver | houtward
  · refine .inl (List.mem_filter.mpr ⟨hserver, decide_eq_true ?_⟩)
    rw [hsegments, List.length_cons]
    have hpos : 0 < (segments x.2).length := by
      rw [segments, List.length_map]
      exact List.length_pos_iff.mpr (List.splitOn_ne_nil _ _)
    omega
  · obtain ⟨path, hpath, rfl⟩ := List.mem_map.mp houtward
    refine .inr (List.mem_map.mpr ⟨path, ?_, rfl⟩)
    rw [Option.mem_toList] at hpath ⊢
    have hne : path ≠ "" := by
      rintro rfl
      cases hsplit
    rw [hpath, Option.filter_some, if_pos (decide_eq_true hne)]

theorem mem_paths_of_mem_managedPaths {rc : ResolvedCollection}
    {e : String × ServerManagedToken} (h : e ∈ rc.managedPaths) :
    e ∈ rc.serverManagedPaths ++
      rc.outwardIdentifierPath.toList.map fun path => (path, .outwardIdentifier) := by
  rw [List.mem_append]
  rcases List.mem_append.mp h with hserver | houtward
  · exact .inl (List.mem_filter.mp hserver).1
  · obtain ⟨path, hpath, rfl⟩ := List.mem_map.mp houtward
    rw [Option.mem_toList] at hpath
    obtain ⟨hpath, -⟩ := Option.filter_eq_some_iff.mp hpath
    exact .inr (List.mem_map_of_mem (Option.mem_toList.mpr hpath))

/-! ### The fields of a path -/

/-- A path that the loader finds begins with a field, which has sub-fields if the
path goes on. -/
theorem field_of_resolveDotPath {fields : List ResolvedField} {path place kind : String}
    (h : resolveDotPath fields path place kind = .ok ()) :
    ∃ f ∈ fields, f.name = pathColumn path ∧
      (2 ≤ (segments path).length → f.subFields ≠ []) := by
  rw [resolveDotPath] at h
  obtain ⟨last, h, -⟩ := Except.bind_eq_ok.mp h
  obtain ⟨part, parts, hsegments⟩ : ∃ part parts, segments path = part :: parts := by
    refine List.exists_cons_of_ne_nil ?_
    rw [segments]
    simp
  rw [hsegments, List.foldlM_cons] at h
  obtain ⟨subFields, hfirst, h⟩ := Except.bind_eq_ok.mp h
  cases hfind : fields.find? (·.name = part) with
  | none =>
    rw [hfind] at hfirst
    cases hfirst
  | some f =>
    rw [hfind] at hfirst
    cases hfirst
    refine ⟨f, List.mem_of_find?_eq_some hfind, ?_, fun hlen hnil => ?_⟩
    · rw [pathColumn, hsegments]
      simpa using List.find?_some hfind
    · cases parts with
      | nil =>
        rw [hsegments] at hlen
        simp at hlen
      | cons part' parts =>
        -- no sub-field has the next part
        rw [List.foldlM_cons, hnil] at h
        cases h

/-- **A managed path leads into a declared field.** -/
theorem field_of_managedPath {dataset : DatasetDef} {commons : Commons}
    {resolved : ResolvedDataset} (hresolved : resolveDataset dataset commons = .ok resolved)
    {rc : ResolvedCollection} (hrc : rc ∈ resolved.collections)
    {e : String × ServerManagedToken} (he : e ∈ rc.managedPaths) :
    ∃ f ∈ rc.fields, f.name = pathColumn e.1 ∧
      (2 ≤ (segments e.1).length → f.subFields ≠ []) := by
  obtain ⟨coll, -, hcoll⟩ := (resolvedFrom_of_resolveDataset hresolved).exists_of_mem_right hrc
  obtain ⟨byName, hfrom⟩ := hcoll.resolved
  have hkept := resolveCollection_ok hcoll.prepared hfrom
  have hprepared := hcoll.prepared
  rw [prepareCollection] at hprepared
  split at hprepared
  · cases hprepared
  · obtain ⟨fields, -, hprepared⟩ := Except.bind_eq_ok.mp hprepared
    obtain ⟨⟨⟩, houtward, hprepared⟩ := Except.bind_eq_ok.mp hprepared
    obtain ⟨⟨⟩, hserver, hprepared⟩ := Except.bind_eq_ok.mp hprepared
    obtain ⟨_, -, hprepared⟩ := Except.bind_eq_ok.mp hprepared
    rw [Except.ok.inj hprepared] at houtward hserver
    rcases List.mem_append.mp he with hmem | hmem
    · rw [hkept.serverManaged] at hmem
      exact field_of_resolveDotPath (Except.forM_ok.mp hserver e (List.mem_filter.mp hmem).1)
    · obtain ⟨path, hpath, rfl⟩ := List.mem_map.mp hmem
      rw [Option.mem_toList, hkept.outwardIdentifier] at hpath
      obtain ⟨hpath, hne⟩ := Option.filter_eq_some_iff.mp hpath
      rw [checkOutwardIdentifier, hpath] at houtward
      split at houtward
      · next hnone => cases hnone
      · next hempty =>
        cases hempty
        simp at hne
      · next path' _ hsome =>
        cases hsome
        exact field_of_resolveDotPath houtward

/-! ### The keys of a column -/

/-- The keys are those of the paths that begin with the field. -/
structure InjectedKeys.Injects (field : String) (paths : List (String × ServerManagedToken))
    (keys : InjectedKeys) : Prop where
  strip : ∀ key, key ∈ keys.stripKeys ↔ ∃ e ∈ paths, splitFirst e.1 = some (field, key)
  write : ∀ key, key ∈ keys.writeInject ↔
    ∃ e ∈ paths, e.2 = .timestampIso ∧ splitFirst e.1 = some (field, key)
  id : ∀ key, keys.idInjectKey = some key →
    ∃ e ∈ paths, e.2 = .outwardIdentifier ∧ splitFirst e.1 = some (field, key)
  noId : keys.idInjectKey = none →
    ∀ e ∈ paths, e.2 = .outwardIdentifier → ∀ key, splitFirst e.1 ≠ some (field, key)

namespace InjectedKeys.Injects

variable {field : String} {paths : List (String × ServerManagedToken)} {keys : InjectedKeys}

/-- A path of another column changes nothing. -/
theorem skip (h : keys.Injects field paths) {e : String × ServerManagedToken}
    (he : ∀ key, splitFirst e.1 ≠ some (field, key)) : keys.Injects field (paths ++ [e]) := by
  refine ⟨fun key => ?_, fun key => ?_, fun key hkey => ?_, fun hkey e' he' => ?_⟩
  · rw [h.strip key]
    simp [List.mem_append, or_and_right, exists_or, he key]
  · rw [h.write key]
    simp [List.mem_append, or_and_right, exists_or, he key]
  · obtain ⟨e', he', hid⟩ := h.id key hkey
    exact ⟨e', List.mem_append_left _ he', hid⟩
  · rcases List.mem_append.mp he' with hold | hnew
    · exact h.noId hkey e' hold
    · rw [List.mem_singleton.mp hnew]
      exact fun _ => he

theorem skip_whole (h : keys.Injects field paths) {e : String × ServerManagedToken}
    (hsplit : splitFirst e.1 = none) : keys.Injects field (paths ++ [e]) := by
  refine h.skip fun key hkey => ?_
  rw [hsplit] at hkey
  cases hkey

theorem skip_other (h : keys.Injects field paths) {e : String × ServerManagedToken}
    {head subKey : String} (hsplit : splitFirst e.1 = some (head, subKey)) (hhead : head ≠ field) :
    keys.Injects field (paths ++ [e]) := by
  refine h.skip fun key hkey => hhead ?_
  rw [hsplit] at hkey
  cases hkey
  rfl

/-- A key that is stripped, and shows the id. -/
theorem identifier (h : keys.Injects field paths) {path subKey : String}
    (hsplit : splitFirst path = some (field, subKey)) {stripKeys : List String}
    (hstrip : ∀ key, key ∈ stripKeys ↔ key ∈ keys.stripKeys ∨ key = subKey) :
    ({ keys with stripKeys := stripKeys, idInjectKey := some subKey } : InjectedKeys).Injects field
      (paths ++ [(path, .outwardIdentifier)]) := by
  refine ⟨fun key => ?_, fun key => ?_, fun key hkey => ?_, fun hkey => ?_⟩
  · rw [hstrip, h.strip key]
    simp [List.mem_append, or_and_right, exists_or, hsplit, eq_comm]
  · rw [h.write key]
    simp [List.mem_append, or_and_right, exists_or]
  · cases hkey
    exact ⟨_, List.mem_append_right _ (List.mem_singleton_self _), rfl, hsplit⟩
  · cases hkey

theorem addServerManaged (h : keys.Injects field paths) (e : String × ServerManagedToken) :
    (keys.addServerManaged field e).Injects field (paths ++ [e]) := by
  obtain ⟨path, token⟩ := e
  unfold InjectedKeys.addServerManaged
  split
  · next hnone => exact h.skip_whole hnone
  · next head subKey hsplit =>
    split
    · next hhead => exact h.skip_other hsplit hhead
    · next hhead =>
      rw [not_not] at hhead
      subst hhead
      cases token with
      | outwardIdentifier =>
        exact h.identifier hsplit fun key => by rw [List.mem_append, List.mem_singleton]
      | timestampIso =>
        have hsplit' : splitFirst path = some (head, subKey) := hsplit
        refine ⟨fun key => ?_, fun key => ?_, fun key hkey => ?_, fun hkey e' he' => ?_⟩
        · rw [List.mem_append, List.mem_singleton, h.strip key]
          simp [List.mem_append, or_and_right, exists_or, hsplit', eq_comm]
        · rw [List.mem_append, List.mem_singleton, h.write key]
          simp [List.mem_append, or_and_right, exists_or, hsplit', eq_comm]
        · obtain ⟨e', he', hid⟩ := h.id key hkey
          exact ⟨e', List.mem_append_left _ he', hid⟩
        · rcases List.mem_append.mp he' with hold | hnew
          · exact h.noId hkey e' hold
          · rw [List.mem_singleton.mp hnew]
            exact fun hid => by cases hid

theorem addOutwardIdentifier (h : keys.Injects field paths) (path : Option String) :
    (keys.addOutwardIdentifier field path).Injects field
      (paths ++ path.toList.map fun path => (path, .outwardIdentifier)) := by
  cases path with
  | none =>
    rw [Option.toList_none, List.map_nil, List.append_nil]
    exact h
  | some path =>
    rw [Option.toList_some, List.map_singleton, InjectedKeys.addOutwardIdentifier,
      Option.bind_some]
    split
    · next hnone => exact h.skip_whole hnone
    · next head subKey hsplit =>
      split
      · next hhead => exact h.skip_other hsplit hhead
      · next hhead =>
        rw [not_not] at hhead
        subst hhead
        refine h.identifier hsplit fun key => ?_
        split
        · next hmem =>
          refine ⟨.inl, ?_⟩
          rintro (hkey | rfl)
          · exact hkey
          · exact hmem
        · rw [List.mem_append, List.mem_singleton]

end InjectedKeys.Injects

/-- **The keys of a column.** -/
theorem injects_injectedKeys (rc : ResolvedCollection) (field : String) :
    (injectedKeys rc field).Injects field rc.managedPaths := by
  have hfold : ∀ (entries paths : List (String × ServerManagedToken)) (keys : InjectedKeys),
      keys.Injects field paths →
      (entries.foldl (InjectedKeys.addServerManaged field) keys).Injects field
        (paths ++ entries) := by
    intro entries
    induction entries with
    | nil =>
      intro paths keys h
      rwa [List.append_nil]
    | cons e entries ih =>
      intro paths keys h
      rw [← List.singleton_append, ← List.append_assoc]
      exact ih _ _ (h.addServerManaged e)
  have hnil : InjectedKeys.Injects field [] {} := ⟨by simp, by simp, by simp, by simp⟩
  have hall := ((hfold rc.serverManagedPaths [] {} hnil).addOutwardIdentifier
    rc.outwardIdentifierPath)
  rw [List.nil_append] at hall
  have hiff : ∀ (p : String × ServerManagedToken → Prop) (key : String),
      (∃ e ∈ rc.serverManagedPaths ++
          rc.outwardIdentifierPath.toList.map fun path => (path, .outwardIdentifier),
        p e ∧ splitFirst e.1 = some (field, key)) ↔
      ∃ e ∈ rc.managedPaths, p e ∧ splitFirst e.1 = some (field, key) := by
    intro p key
    constructor
    · rintro ⟨e, he, hp, hsplit⟩
      exact ⟨e, mem_managedPaths_of_splitFirst he hsplit, hp, hsplit⟩
    · rintro ⟨e, he, h⟩
      exact ⟨e, mem_paths_of_mem_managedPaths he, h⟩
  refine ⟨fun key => ?_, fun key => ?_, fun key hkey => ?_, fun hkey e he => ?_⟩
  · refine (hall.strip key).trans ?_
    simpa using hiff (fun _ => True) key
  · exact (hall.write key).trans (hiff (fun e => e.2 = .timestampIso) key)
  · exact (hiff (fun e => e.2 = .outwardIdentifier) key).mp (hall.id key hkey)
  · exact hall.noId hkey e (mem_paths_of_mem_managedPaths he)

end Geocomponents
