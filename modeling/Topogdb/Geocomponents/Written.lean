/-
The row that an accepted write leaves.

* `WriteOp` — the four functions that write a row from a document;
* `ends_writeOp` — an accepted write passed its checks and stored, in each column
  it sets, what `_prop_read` makes of the document (`Written`);
* `shown_property` — how the readers show a stored column;
* `Written.stored_object`, `shown_object` — the members of an object, stored and
  shown.
-/
import Topogdb.Geocomponents.Conformance
import Topogdb.Geocomponents.Read
import Topogdb.Geocomponents.WriteExact
import Topogdb.Lib.Python

namespace Geocomponents

open Prog Sql

variable {Geometry : Type}

/-- A call of `_create`, `_upsert`, `_replace` or `_update`; `n` is the number of
the write. -/
inductive WriteOp where
  | create (n : ℕ)
  | upsert (n : ℕ)
  | replace (fid : Option Uuid)
  | update (fid : Option Uuid)

namespace WriteOp

/-- The function; it gives the id of the row that it wrote. -/
def prog (gis : PostGIS Geometry) (env : Env) (coll : CollectionPlan) (feature : Option Json) :
    WriteOp → SqlProg Geometry SqlError (Option Uuid)
  | create n => do
    let id ← Geocomponents.create gis env n coll feature
    Pure.pure (some id)
  | upsert n => do
    let id ← Geocomponents.upsert gis env n coll feature
    Pure.pure (some id)
  | replace fid => do
    let found ← Geocomponents.replace gis env coll fid feature
    Pure.pure (if found then fid else none)
  | update fid => do
    let found ← Geocomponents.update gis env coll fid feature
    Pure.pure (if found then fid else none)

/-- A PATCH checks and writes what the document names. -/
def guardedByPresence : WriteOp → Bool
  | update _ => true
  | _ => false

/-- Whether the write sets a column that it reads from the document. -/
def sets (op : WriteOp) (feature : Option Json) (col : ColumnPlan) : Bool :=
  !op.guardedByPresence || namesColumn feature col

/-- The guard that compares the identifiers of the document and the call. -/
def idGuard (env : Env) (coll : CollectionPlan) (feature : Option Json) :
    WriteOp → Except SqlError Unit
  | create _ | upsert _ => idsDisagree env coll feature
  | replace fid | update fid => oiGuard env coll fid feature

/-- The id of the row: given by the call or the document, or drawn. -/
def rowId (env : Env) (coll : CollectionPlan) (feature : Option Json) : WriteOp → Option Uuid
  | create n | upsert n => some ((givenId env coll feature).getD (env.genRandomUuid n))
  | replace fid | update fid => fid

/-- Whether the call itself names the row. -/
def namesRow : WriteOp → Bool
  | create _ | upsert _ => false
  | replace _ | update _ => true

end WriteOp

/-- What an accepted write has done to the row `id`, which was `old`. -/
structure Written (gis : PostGIS Geometry) (env : Env) (coll : CollectionPlan)
    (feature : Option Json) (op : WriteOp) (old : Option (Row Geometry)) (id : Uuid)
    (row : Row Geometry) : Prop where
  guards : guardBlock gis env coll op.guardedByPresence feature = .ok ()
  idGuard : op.idGuard env coll feature = .ok ()
  idChecks : op.namesRow = false → idChecks env coll feature = .ok ()
  rowId : op.rowId env coll feature = some id
  links : ∀ role ∈ coll.roles, ∀ v, arrow (properties feature) role.property = some v →
    ∃ elems, v = .arr elems
  set : ∀ col ∈ coll.writableColumns, op.sets feature col = true →
    propRead env col feature = .ok (row.columns col.name)
  kept : ∀ col ∈ coll.writableColumns, op.sets feature col = false →
    ∀ oldRow, old = some oldRow → row.columns col.name = oldRow.columns col.name

section Write

variable {gis : PostGIS Geometry} {env : Env} {coll : CollectionPlan} {feature : Option Json}

/-- A link property is an array. -/
theorem ends_linkValidation_arrays (roles : List CollectionRolePlan) (db : Db Geometry) :
    Ends (linkValidation env roles feature) db fun _ _ =>
      ∀ role ∈ roles, ∀ v, arrow (properties feature) role.property = some v →
        ∃ elems, v = .arr elems := by
  have hone : ∀ (role : CollectionRolePlan) (db : Db Geometry),
      Ends (linkIds env feature role) db fun _ _ =>
        ∀ v, arrow (properties feature) role.property = some v → ∃ elems, v = .arr elems := by
    intro role db
    unfold linkIds
    simp only
    split
    · split
      · next hnone =>
        refine ends_pure fun v hv => ?_
        rw [hnone] at hv
        cases hv
      · next elems harray =>
        refine (ends_run _ _).mono fun _ _ _ v hv => ⟨elems, ?_⟩
        rw [harray] at hv
        exact (Option.some.inj hv).symm
      · exact ends_raise
    · next hnot =>
      refine ends_pure fun v hv => absurd ?_ hnot
      rw [hasKey_of_arrow hv]
      rfl
  -- role by role, since a later one may still refuse
  induction roles generalizing db with
  | nil => exact ends_pure fun role hrole => absurd hrole List.not_mem_nil
  | cons role roles ih =>
    unfold linkValidation at ih ⊢
    rw [List.mapM_cons]
    have hpair : Ends (do
        let ids ← linkIds env feature role
        Pure.pure (role, ids) : SqlProg Geometry SqlError _) db fun _ _ =>
          ∀ v, arrow (properties feature) role.property = some v → ∃ elems, v = .arr elems :=
      (hone role db).bind fun _ _ h => ends_pure h
    refine hpair.bind fun _ db' hrole => ?_
    refine (ih db').bind fun _ _ hroles => ends_pure ?_
    exact List.forall_mem_cons.mpr ⟨hrole, hroles⟩

/-- The checks that come before a create or an upsert writes. -/
theorem ends_create_idChecks (n : ℕ) (db : Db Geometry) :
    Ends (create gis env n coll feature) db fun _ _ =>
      idChecks env coll feature = .ok () ∧
        ∀ role ∈ coll.roles, ∀ v, arrow (properties feature) role.property = some v →
          ∃ elems, v = .arr elems := by
  refine (ends_ofExcept (Q := fun _ _ => idChecks env coll feature = .ok ()) fun _ h =>
    (Except.seq_eq_ok.mp h).1).bind fun _ db' hids => ?_
  refine (ends_linkValidation_arrays coll.roles db').bind fun _ db' hlinks => ?_
  refine (ends_run _ db').bind fun _ db' _ => ?_
  refine (ends_run _ db').bind fun _ db' _ => ?_
  exact (ends_run _ db').bind fun _ db' _ => ends_pure ⟨hids, hlinks⟩

theorem ends_upsert_checks (n : ℕ) (db : Db Geometry) :
    Ends (upsert gis env n coll feature) db fun _ _ =>
      idChecks env coll feature = .ok () ∧ linkUpsertGuards coll.roles feature = .ok () := by
  refine (ends_ofExcept (Q := fun _ _ => idChecks env coll feature = .ok () ∧
    linkUpsertGuards coll.roles feature = .ok ()) fun _ h => ?_).bind fun _ db' hids => ?_
  · obtain ⟨hlinks, h⟩ := Except.seq_eq_ok.mp h
    exact ⟨(Except.seq_eq_ok.mp h).1, hlinks⟩
  · exact (ends_run _ db').mono fun _ _ _ => hids

/-- What is assigned to a row is stored in it. -/
theorem set_of_assigns {op : WriteOp} {named : ColumnPlan → Bool} {vals : Assignments Geometry}
    (hassigns : AssignsColumns env coll feature named vals.columns)
    (hnamed : ∀ col, named col = op.sets feature col) {row : Row Geometry} {now : Datum} :
    ∀ col ∈ coll.writableColumns, op.sets feature col = true →
      propRead env col feature = .ok ((row.assign vals now).columns col.name) := by
  intro col hcol hsets
  obtain ⟨v, hread, hlookup⟩ := hassigns.writable col hcol ((hnamed col).trans hsets)
  show propRead env col feature = .ok ((vals.columns.lookup col.name).getD (row.columns col.name))
  rw [hlookup, hread]
  rfl

/-- A column that is not set keeps its value. -/
theorem kept_of_assigns (hnodup : (coll.columns.map (·.name)).Nodup) {named : ColumnPlan → Bool}
    {vals : Assignments Geometry} (hassigns : AssignsColumns env coll feature named vals.columns)
    {row : Row Geometry} {now : Datum} {col : ColumnPlan} (hcol : col ∈ coll.writableColumns)
    (hnamed : named col = false) : (row.assign vals now).columns col.name = row.columns col.name := by
  have hother : vals.columns.lookup col.name = none := by
    refine hassigns.other col.name (fun col' hcol' hnamed' hname => ?_) fun x hx hname =>
      name_ne_of_server hnodup hcol hx hname.symm
    have hsame := List.inj_on_of_nodup_map hnodup (mem_writableColumns.mp hcol').1
      (mem_writableColumns.mp hcol).1 hname
    rw [hsame, hnamed] at hnamed'
    cases hnamed'
  show (vals.columns.lookup col.name).getD (row.columns col.name) = _
  rw [hother]
  rfl

/-- A replace or an update that found its row. -/
theorem ends_writeExisting_written (hnodup : (coll.columns.map (·.name)).Nodup) (op : WriteOp)
    {fid : Option Uuid} (hguard : oiGuard env coll fid feature = op.idGuard env coll feature)
    (hrow : op.rowId env coll feature = fid) (hnames : op.namesRow = true)
    {values : Except SqlError (Assignments Geometry)}
    {writeLinks : Ref → List (CollectionRolePlan × List Uuid) → SqlProg Geometry SqlError Unit}
    (hvalues : ∀ vals, values = .ok vals →
      AssignsColumns env coll feature (op.sets feature) vals.columns)
    (hlinks : ∀ ref links db, Ends (writeLinks ref links) db fun _ db' => ∀ r, db'.row? r = db.row? r)
    (db : Db Geometry) :
    Ends (writeExisting gis env op.guardedByPresence coll fid feature values writeLinks) db
      fun found db' => found = true → ∀ id, fid = some id →
        ∃ row, db'.row? ⟨coll.collectionName, id⟩ = some row ∧
          Written gis env coll feature op (db.row? ⟨coll.collectionName, id⟩) id row := by
  -- the links are validated between the guards and the write
  have harrays : Ends (writeExisting gis env op.guardedByPresence coll fid feature values writeLinks)
      db fun _ _ => ∀ role ∈ coll.roles, ∀ v,
        arrow (properties feature) role.property = some v → ∃ elems, v = .arr elems := by
    refine (ends_run _ db).bind fun _ db' _ => ?_
    refine (ends_linkValidation_arrays coll.roles db').bind fun _ db' harrays => ?_
    exact (ends_run _ db').mono fun _ _ _ => harrays
  refine ((ends_writeExisting_exact db).and harrays).mono ?_
  rintro found db' ⟨⟨hguards, hoi, ⟨rfl, -⟩ | ⟨rfl, id, vals, links, rfl, hrewrote⟩⟩, hnamed⟩
  · exact fun h => by cases h
  · intro _ id' hid
    cases hid
    obtain ⟨old, hold⟩ := Option.isSome_iff_exists.mp hrewrote.present
    have hassigns := hvalues vals hrewrote.values
    have hstored := hlinks _ _ _ () db' hrewrote.writes
    refine ⟨old.assign vals env.now, ?_, hguards, hguard ▸ hoi, fun h => ?_, hrow, hnamed,
      set_of_assigns hassigns fun _ => rfl, fun col hcol hsets oldRow holdRow => ?_⟩
    · rw [hstored, row?_assign, if_pos rfl, hold]
      rfl
    · rw [hnames] at h
      cases h
    · rw [hold] at holdRow
      cases holdRow
      exact kept_of_assigns hnodup hassigns hcol hsets

/-- **An accepted write.** -/
theorem ends_writeOp (hnodup : (coll.columns.map (·.name)).Nodup) (op : WriteOp)
    (db : Db Geometry) :
    Ends (op.prog gis env coll feature) db fun written db' => ∀ id, written = some id →
      ∃ row, db'.row? ⟨coll.collectionName, id⟩ = some row ∧
        Written gis env coll feature op (db.row? ⟨coll.collectionName, id⟩) id row := by
  cases op with
  | create n =>
    refine ((ends_create_exact n feature db).and (ends_create_idChecks n db)).bind ?_
    rintro id db' ⟨⟨vals, links, hcreated⟩, hids, harrays⟩
    refine ends_pure fun id' hid => ?_
    cases hid
    obtain ⟨-, hassigns, -⟩ := completeValues_ok hnodup hcreated.values
    have hframe := (linkWrites_frame _ feature links _ () db' hcreated.writes).1
    refine ⟨newRow env n coll vals, ?_, ?_⟩
    · rw [hframe.rows, row?_insertRow, if_pos rfl]
    · exact ⟨hcreated.guards, hcreated.agrees, fun _ => hids, congrArg some hcreated.id_eq.symm,
        harrays, set_of_assigns hassigns fun _ => rfl, fun _ _ h => by cases h⟩
  | upsert n =>
    refine ((ends_upsert_exact n feature db).and (ends_upsert_checks n db)).bind ?_
    rintro id db' ⟨⟨vals, hupserted⟩, hids, hlinks⟩
    refine ends_pure fun id' hid => ?_
    cases hid
    obtain ⟨-, hassigns, -⟩ := completeValues_ok hnodup hupserted.values
    have hrow := hupserted.rows ⟨coll.collectionName, id⟩
    rw [if_pos rfl] at hrow
    refine ⟨_, hrow, hupserted.guards, hupserted.agrees, fun _ => hids,
      congrArg some hupserted.id_eq.symm, fun role hrole v hv => ?_, ?_, fun _ _ h => by cases h⟩
    · -- an upsert names no link
      exact absurd (hasKey_of_arrow hv)
        (raiseIf_eq_ok.mp (Except.forM_ok.mp hlinks role hrole))
    · cases db.row? ⟨coll.collectionName, id⟩ with
      | none => exact set_of_assigns hassigns fun _ => rfl
      | some old => exact set_of_assigns hassigns fun _ => rfl
  | replace fid =>
    have hwritten : Ends (replace gis env coll fid feature) db fun found db' =>
        found = true → ∀ id, fid = some id → ∃ row, db'.row? ⟨coll.collectionName, id⟩ = some row ∧
          Written gis env coll feature (.replace fid) (db.row? ⟨coll.collectionName, id⟩) id row := by
      refine ends_writeExisting_written hnodup (.replace fid) rfl rfl rfl
        (fun vals hvals => (completeValues_ok hnodup hvals).2.1) (fun ref links db => ?_) db
      refine (deleteLinks_frame ref _ (LinkedBy ref links) db).bind fun _ db₁ h₁ => ?_
      refine (linkWrites_frame ref feature links db₁).mono fun _ db₂ h₂ r => ?_
      rw [h₂.1.rows, h₁.rows]
    refine hwritten.bind fun found db' h => ends_pure fun id hid => ?_
    cases found with
    | false => cases hid
    | true => exact h rfl id hid
  | update fid =>
    have hwritten : Ends (update gis env coll fid feature) db fun found db' =>
        found = true → ∀ id, fid = some id → ∃ row, db'.row? ⟨coll.collectionName, id⟩ = some row ∧
          Written gis env coll feature (.update fid) (db.row? ⟨coll.collectionName, id⟩) id row := by
      refine ends_writeExisting_written hnodup (.update fid) rfl rfl rfl
        (fun vals hvals => (partialValues_ok hnodup hvals).2.1) (fun ref links db => ?_) db
      exact (linkWritesPatch_frame ref feature links db).mono fun _ db' h => h.rows
    refine hwritten.bind fun found db' h => ends_pure fun id hid => ?_
    cases found with
    | false => cases hid
    | true => exact h rfl id hid

end Write

/-! ### How a row is shown -/

theorem nodup_mergeMembers {members : List (String × Json)} (h : (members.map Prod.fst).Nodup)
    (others : List (String × Json)) : ((mergeMembers members others).map Prod.fst).Nodup := by
  induction others generalizing members with
  | nil => exact h
  | cons m others ih =>
    refine ih ?_
    rw [List.map_append, List.map_singleton, List.nodup_append]
    refine ⟨(List.filter_sublist.map Prod.fst).nodup h, List.nodup_singleton _, ?_⟩
    intro k hk k' hk' heq
    obtain ⟨x, hx, rfl⟩ := List.mem_map.mp hk
    have hne := (List.mem_filter.mp hx).2
    rw [List.mem_singleton.mp hk'] at heq
    exact of_decide_eq_true hne heq

theorem lookup_reverse {ms : List (String × Json)} (h : (ms.map Prod.fst).Nodup) (key : String) :
    ms.reverse.lookup key = ms.lookup key := by
  have hreverse : (ms.reverse.map Prod.fst).Nodup := by
    rw [List.map_reverse]
    exact List.nodup_reverse.mpr h
  cases hlookup : ms.lookup key with
  | some v =>
    exact Python.lookup_of_mem hreverse (List.mem_reverse.mpr (Python.mem_of_lookup hlookup))
  | none =>
    rw [List.lookup_eq_none_iff] at hlookup ⊢
    exact fun m hm => hlookup m (List.mem_reverse.mp hm)

/-- The last member of a key, on the right side first. -/
theorem get?_concatObjects (members others : List (String × Json)) (key : String) :
    (concatObjects (buildObject members) (buildObject others)).get? key =
      (others.reverse.lookup key).or (members.reverse.lookup key) := by
  have hget : ∀ ms : List (String × Json), (mergeMembers [] ms).lookup key = ms.reverse.lookup key := by
    intro ms
    rw [lookup_mergeMembers]
    exact Option.or_none
  show (mergeMembers (mergeMembers [] members) (mergeMembers [] others)).lookup key = _
  have hnodup : ((mergeMembers [] others).map Prod.fst).Nodup :=
    nodup_mergeMembers (by simp) others
  rw [lookup_mergeMembers, lookup_reverse hnodup, hget, hget]

section Shown

variable {rd : Reader Geometry} {db : Db Geometry} {coll : CollectionPlan} {id : Uuid}
  {row : Row Geometry}

/-- What `_item` shows of a row, by its keys. -/
theorem item_members (rd : Reader Geometry) (hrow : db.row? ⟨coll.collectionName, id⟩ = some row) :
    ∃ shown, item rd db coll (some id) = some shown ∧ shown.get? "id" = some (.str id.text) ∧
      shown.get? "geometry" = some ((row.geometry.map rd.asGeoJSON).getD .null) ∧
      shown.get? "properties" = some (propertiesObject rd coll id row
        (some (associationPropertiesObject db coll id))) := by
  refine ⟨featureObject rd coll id row (some (associationPropertiesObject db coll id)), ?_, ?_, ?_,
    ?_⟩
  · rw [item_some, hrow]
    rfl
  · simp [featureObject, buildObject, mergeMembers, List.lookup_cons]
  · simp [featureObject, buildObject, mergeMembers, List.lookup_cons]
  · simp [featureObject, buildObject, mergeMembers, List.lookup_cons]

/-- A property is the links of a role, or the value of its column. -/
theorem shown_property_cases (hnodup : (coll.columns.map (·.name)).Nodup) {col : ColumnPlan}
    (hcol : col ∈ coll.columns) :
    (propertiesObject rd coll id row (some (associationPropertiesObject db coll id))).get?
      col.name =
      ((coll.roles.filterMap (linkProperty db coll id)).reverse.lookup col.name).or
        (some (columnProperty rd id row col).2) := by
  have hcolumns : (coll.columns.map (columnProperty rd id row)).map Prod.fst =
      coll.columns.map (·.name) := by
    rw [List.map_map]
    rfl
  have hlookup : (coll.columns.map (columnProperty rd id row)).reverse.lookup col.name =
      some (columnProperty rd id row col).2 := by
    have hkeys := hcolumns.symm ▸ hnodup
    rw [lookup_reverse hkeys]
    exact Python.lookup_of_mem hkeys (List.mem_map_of_mem hcol)
  show (concatObjects (buildObject _) (buildObject _)).get? col.name = _
  rw [get?_concatObjects, List.reverse_cons, List.reverse_cons, List.lookup_append,
    List.lookup_append, hlookup]
  rfl

/-- The links of a role are an array. -/
theorem array_of_linkProperty {m : String × Json}
    (hm : m ∈ coll.roles.filterMap (linkProperty db coll id)) :
    (∃ role ∈ coll.roles, role.property = m.1) ∧ ∃ elems, m.2 = .arr elems := by
  obtain ⟨role, hrole, hm⟩ := List.mem_filterMap.mp hm
  rw [linkProperty] at hm
  split at hm
  · cases hm
  · cases hm
    exact ⟨⟨role, hrole, rfl⟩, _, rfl⟩

/-- A property is the value of its column, unless it is a link property. -/
theorem shown_property (hnodup : (coll.columns.map (·.name)).Nodup) {col : ColumnPlan}
    (hcol : col ∈ coll.columns) (hroles : ∀ role ∈ coll.roles, role.property ≠ col.name) :
    (propertiesObject rd coll id row (some (associationPropertiesObject db coll id))).get?
      col.name = some (columnProperty rd id row col).2 := by
  have hlinks : (coll.roles.filterMap (linkProperty db coll id)).reverse.lookup col.name = none := by
    rw [List.lookup_eq_none_iff]
    intro m hm
    obtain ⟨⟨role, hrole, hproperty⟩, -⟩ := array_of_linkProperty (List.mem_reverse.mp hm)
    rw [← hproperty]
    simpa using (hroles role hrole).symm
  rw [shown_property_cases hnodup hcol, hlinks, Option.none_or]

end Shown

/-! ### Objects -/

section Objects

variable {gis : PostGIS Geometry} {env : Env} {coll : CollectionPlan} {feature : Option Json}
  {op : WriteOp} {old : Option (Row Geometry)} {id : Uuid} {row : Row Geometry} {col : ColumnPlan}

/-- What `_prop_read` makes of an object. -/
theorem propRead_object (hjson : col.sqlType = "jsonb") {ms : List (String × Json)}
    (h : arrow (properties feature) col.name = some (.obj ms)) {value : Option Datum} :
    propRead env col feature = .ok value ↔ Deletable col.stripKeys ms ∧
      value = some (.json (col.writeInject.foldl
        (fun value key => concatMember key (.str env.nowText) value)
        (.obj (ms.filter fun m => m.1 ∉ col.stripKeys)))) := by
  rw [propRead, if_pos hjson, h]
  simp only
  rw [Except.bind_eq_ok]
  constructor
  · rintro ⟨v, hstrip, hvalue⟩
    obtain ⟨hdeletable, rfl⟩ := (Shape.foldlM_deletePath _).mp hstrip
    exact ⟨hdeletable, (Except.ok.inj hvalue).symm⟩
  · rintro ⟨hdeletable, rfl⟩
    exact ⟨_, (Shape.foldlM_deletePath _).mpr ⟨hdeletable, rfl⟩, rfl⟩

/-- The members of an object that is read: the keys to write are put into it, the
keys to strip are gone. -/
theorem exists_propRead_object (hjson : col.sqlType = "jsonb") {ms : List (String × Json)}
    (h : arrow (properties feature) col.name = some (.obj ms)) {value : Option Datum}
    (hread : propRead env col feature = .ok value) :
    ∃ ms', value = some (.json (.obj ms')) ∧
      (∀ m ∈ ms', m.1 ∈ col.writeInject ∨ m ∈ ms) ∧ ∀ key, ms'.lookup key =
        if key ∈ col.writeInject then some (.str env.nowText)
        else if key ∈ col.stripKeys then none else ms.lookup key := by
  obtain ⟨ms', hms', hmem, hlookup⟩ := Shape.foldl_concatMember col.writeInject (.str env.nowText)
    (ms.filter fun m => m.1 ∉ col.stripKeys)
  refine ⟨ms', ?_, fun m hm => (hmem m hm).imp_right List.mem_of_mem_filter, fun key => ?_⟩
  · rw [((propRead_object hjson h).mp hread).2, hms']
  · rw [hlookup key, Json.lookup_filter_key fun k => k ∉ col.stripKeys]
    by_cases hkey : key ∈ col.stripKeys <;> simp [hkey]

/-- The members of a stored object. -/
theorem Written.stored_object (hwritten : Written gis env coll feature op old id row)
    (hcol : col ∈ coll.writableColumns) (hjson : col.sqlType = "jsonb")
    (hsets : op.sets feature col = true) {ms : List (String × Json)}
    (hms : arrow (properties feature) col.name = some (.obj ms)) :
    ∃ ms', row.columns col.name = some (.json (.obj ms')) ∧ ∀ key, ms'.lookup key =
      if key ∈ col.writeInject then some (.str env.nowText)
      else if key ∈ col.stripKeys then none else ms.lookup key := by
  obtain ⟨ms', hvalue, -, hlookup⟩ :=
    exists_propRead_object hjson hms (hwritten.set col hcol hsets)
  exact ⟨ms', hvalue, hlookup⟩

/-- An object is stored of an object only. -/
theorem object_of_propRead (hjson : col.sqlType = "jsonb") {ms' : List (String × Json)}
    (h : propRead env col feature = .ok (some (.json (.obj ms')))) :
    ∃ ms, arrow (properties feature) col.name = some (.obj ms) := by
  -- `||` and `#-` give an object only when they are given one
  have hconcat : ∀ (keys : List String) (v : Json),
      keys.foldl (fun v key => concatMember key (.str env.nowText) v) v = .obj ms' →
        ∃ ms, v = .obj ms := by
    intro keys
    induction keys with
    | nil => exact fun v hv => ⟨ms', hv⟩
    | cons key keys ih =>
      intro v hv
      obtain ⟨ms, hms⟩ := ih _ hv
      cases v with
      | obj ms => exact ⟨ms, rfl⟩
      | _ => cases hms
  have hdelete : ∀ (keys : List String) (v : Json) (ms : List (String × Json)),
      keys.foldlM (fun v key => deletePath key v) v = .ok (.obj ms) → ∃ ms, v = .obj ms := by
    intro keys
    induction keys with
    | nil =>
      intro v ms hv
      cases hv
      exact ⟨ms, rfl⟩
    | cons key keys ih =>
      intro v ms hv
      rw [List.foldlM_cons] at hv
      obtain ⟨w, hw, hv⟩ := Except.bind_eq_ok.mp hv
      obtain ⟨ms, rfl⟩ := ih w ms hv
      unfold deletePath at hw
      split at hw
      · exact ⟨[], rfl⟩
      · cases hw
      · next ms _ => exact ⟨ms, rfl⟩
      · split at hw <;> cases hw
      · cases hw
  rw [propRead, if_pos hjson] at h
  cases harrow : arrow (properties feature) col.name with
  | none =>
    rw [harrow] at h
    cases h
  | some v =>
    rw [harrow] at h
    obtain ⟨w, hw, h⟩ := Except.bind_eq_ok.mp h
    obtain ⟨ms, rfl⟩ := hconcat col.writeInject w (by simpa using h)
    obtain ⟨ms, rfl⟩ := hdelete col.stripKeys v ms hw
    exact ⟨ms, rfl⟩

/-- No link property has the name of a sent object. -/
theorem Written.ne_of_object (hwritten : Written gis env coll feature op old id row)
    {ms : List (String × Json)} (hms : arrow (properties feature) col.name = some (.obj ms)) :
    ∀ role ∈ coll.roles, role.property ≠ col.name := by
  intro role hrole hname
  obtain ⟨elems, helems⟩ := hwritten.links role hrole _ (hname ▸ hms)
  cases helems

variable {rd : Reader Geometry} {db : Db Geometry}

/-- The properties of a shown row. -/
theorem properties_of_item (hrow : db.row? ⟨coll.collectionName, id⟩ = some row) {shown : Json}
    (hitem : item rd db coll (some id) = some shown) :
    shown.get? "properties" = some (propertiesObject rd coll id row
      (some (associationPropertiesObject db coll id))) := by
  obtain ⟨shown', hitem', -, -, hproperties⟩ := item_members rd hrow
  rw [hitem, Option.some.injEq] at hitem'
  rw [hitem', hproperties]

/-- A member that is put over the others. -/
theorem lookup_injected (ms : List (String × Json)) (injected key : String) (v : Json) :
    (ms.filter (fun m => m.1 ≠ injected) ++ [(injected, v)]).lookup key =
      if some injected = some key then some v else ms.lookup key := by
  rw [List.lookup_append, Json.lookup_filter_key fun k => k ≠ injected]
  by_cases hkey : injected = key
  · subst hkey
    simp
  · simp [hkey, Ne.symm hkey, List.lookup_cons, beq_false_of_ne (Ne.symm hkey)]

/-- The members of a shown object: the id is put over the stored ones. -/
theorem shown_object (hnodup : (coll.columns.map (·.name)).Nodup) (hcol : col ∈ coll.columns)
    (hroles : ∀ role ∈ coll.roles, role.property ≠ col.name)
    (hrow : db.row? ⟨coll.collectionName, id⟩ = some row) {ms : List (String × Json)}
    (hms : row.columns col.name = some (.json (.obj ms))) {shown : Json}
    (hitem : item rd db coll (some id) = some shown) :
    ∃ ms', arrow (shown.get? "properties") col.name = some (.obj ms') ∧ ∀ key, ms'.lookup key =
      if col.idInjectKey = some key then some (.str id.text) else ms.lookup key := by
  have hproperty : arrow (shown.get? "properties") col.name =
      some (columnProperty rd id row col).2 := by
    rw [properties_of_item hrow hitem]
    exact shown_property hnodup hcol hroles
  rw [hproperty, columnProperty, hms]
  cases col.idInjectKey with
  | none => exact ⟨ms, rfl, fun key => by simp⟩
  | some injected => exact ⟨_, rfl, fun key => lookup_injected ms injected key _⟩

/-- What is shown inside a property is in a stored object. -/
theorem stored_of_shown (hnodup : (coll.columns.map (·.name)).Nodup) (hcol : col ∈ coll.columns)
    (hrow : db.row? ⟨coll.collectionName, id⟩ = some row) {shown : Json}
    (hitem : item rd db coll (some id) = some shown) {key : String} {v : Json}
    (hv : arrow (arrow (shown.get? "properties") col.name) key = some v) :
    ∃ ms, (row.columns col.name).map (Datum.toJson rd) = some (.obj ms) ∧
      some v = if col.idInjectKey = some key then some (.str id.text) else ms.lookup key := by
  rw [properties_of_item hrow hitem] at hv
  have hproperty : arrow (some (propertiesObject rd coll id row
      (some (associationPropertiesObject db coll id)))) col.name = _ :=
    shown_property_cases hnodup hcol
  rw [hproperty] at hv
  -- a link property of the same name hides the column
  cases hlinks : (coll.roles.filterMap (linkProperty db coll id)).reverse.lookup col.name with
  | some links =>
    rw [hlinks, Option.some_or] at hv
    obtain ⟨-, elems, helems⟩ := array_of_linkProperty
      (List.mem_reverse.mp (Python.mem_of_lookup hlinks))
    rw [show links = .arr elems from helems] at hv
    cases hv
  | none =>
    rw [hlinks, Option.none_or, columnProperty] at hv
    cases hinject : col.idInjectKey with
    | none =>
      rw [hinject] at hv
      cases hstored : (row.columns col.name).map (Datum.toJson rd) with
      | none =>
        rw [hstored] at hv
        cases hv
      | some stored =>
        rw [hstored] at hv
        cases stored with
        | obj ms => exact ⟨ms, rfl, hv.symm⟩
        | _ => cases hv
    | some injected =>
      rw [hinject] at hv
      cases hstored : (row.columns col.name).map (Datum.toJson rd) with
      | none =>
        rw [hstored] at hv
        cases hv
      | some stored =>
        rw [hstored] at hv
        cases stored with
        | obj ms =>
          refine ⟨ms, rfl, ?_⟩
          have hlookup : (ms.filter (fun m => m.1 ≠ injected) ++
              [(injected, Json.str id.text)]).lookup key = some v := hv
          rw [← hlookup, lookup_injected]
        | _ => cases hv

end Objects

end Geocomponents
