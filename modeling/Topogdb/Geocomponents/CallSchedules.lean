/-
Runs of direct writes that come in another order, or without the writes that are
overwritten anyway.

A direct write asks nothing of other rows but whether the rows that it links to are
there, and a replace or a delete leaves nothing of what a replace or an update of its
row wrote before.

* `Spares` — a call neither adds nor removes a row that another one links to;
* `run_eq_of_same_rows` — the tables after a run, and whether it is accepted, depend only
  on what each row is sent;
* `run_of_overwritten` — writes that are overwritten can be left out.
-/
import Topogdb.Geocomponents.CallWrites

namespace Geocomponents

open Prog Sql

variable {Geometry : Type}

/-! ### Rows and targets of a call -/

/-- The row that a direct write goes to. -/
def callRow (plan : SchemaPlan) : Env × Call → Option Ref
  | (env, .create collection feature) | (env, .upsert collection feature) =>
    (plan.collection? collection).map fun coll =>
      ⟨collection, (givenId env coll feature).getD (env.genRandomUuid 0)⟩
  | (_, .replace collection fid _) | (_, .update collection fid _) | (_, .delete collection fid) =>
    fid.map fun id => ⟨collection, id⟩
  | (_, .transaction _) => none

/-- The rows that a direct write links to. -/
def callTargets (plan : SchemaPlan) : Env × Call → List Ref
  | (env, .create collection feature) | (env, .replace collection _ feature)
  | (env, .update collection _ feature) =>
    (((plan.collection? collection).bind fun coll => documentLinks env coll.roles feature).map
      linkedRows).getD []
  | _ => []

/-- The call changes a row that is there. -/
def Call.rewrites : Call → Bool
  | .replace _ _ _ | .update _ _ _ => true
  | _ => false

/-- The call leaves nothing of what its row held. -/
def Call.overwrites : Call → Bool
  | .replace _ _ _ | .delete _ _ => true
  | _ => false

/-- The first call neither adds nor removes a row that the second one links to. -/
def Spares (plan : SchemaPlan) (a b : Env × Call) : Prop :=
  a.2.rewrites = true ∨ ∀ ref ∈ callRow plan a, ref ∉ callTargets plan b

instance (plan : SchemaPlan) (a b : Env × Call) : Decidable (Spares plan a b) :=
  inferInstanceAs (Decidable (_ ∨ _))

section Rows

variable {gis : PostGIS Geometry} {plan : SchemaPlan} {w : RowWrite Geometry}

theorem ref_of_existingRowWrite {env : Env} {coll : CollectionPlan} {guarded : Bool} {id : Uuid}
    {feature : Option Json} {values : Except SqlError (Assignments Geometry)}
    {clears : List (CollectionRolePlan × List Uuid) → String → Bool}
    (h : existingRowWrite gis env coll guarded id feature values clears = some w) :
    w.ref = ⟨coll.collectionName, id⟩ ∧
      (documentLinks env coll.roles feature).map linkedRows = some w.targets ∧ w.Keeps := by
  obtain ⟨-, -, links, vals, hlinks, -, rfl⟩ := existingRowWrite_eq_some.mp h
  refine ⟨rfl, ?_, fun row => Option.isSome_map⟩
  rw [hlinks]
  rfl

/-- The write of a call is to the row of the call, links to its targets, and keeps the
row where it was if the call rewrites it. -/
theorem callRow_of_rowWrite {call : Env × Call} (h : rowWrite gis plan call = some w) :
    callRow plan call = some w.ref ∧ callTargets plan call = w.targets ∧
      (call.2.rewrites = true → w.Keeps) := by
  obtain ⟨env, call⟩ := call
  -- the collection of a direct write is found by its name
  have hfound : ∀ {collection : String} {coll : CollectionPlan},
      directCollection plan collection = some coll →
        plan.collection? collection = some coll ∧ coll.collectionName = collection := by
    intro collection coll hdirect
    obtain ⟨hmem, rfl, -⟩ := mem_of_directCollection hdirect
    exact ⟨SchemaPlan.collection?_eq hmem, rfl⟩
  cases call with
  | create collection feature =>
    obtain ⟨coll, hdirect, hwrite⟩ := Option.bind_eq_some_iff.mp h
    obtain ⟨hcoll, rfl⟩ := hfound hdirect
    obtain ⟨-, -, -, links, vals, hlinks, -, rfl⟩ := createRowWrite_eq_some.mp hwrite
    refine ⟨?_, ?_, fun h => by cases h⟩
    · rw [callRow, hcoll]
      rfl
    · rw [callTargets, hcoll, Option.bind_some, hlinks]
      rfl
  | replace collection fid feature =>
    obtain ⟨coll, hdirect, hwrite⟩ := Option.bind_eq_some_iff.mp h
    obtain ⟨id, rfl, hwrite⟩ := Option.bind_eq_some_iff.mp hwrite
    obtain ⟨hcoll, rfl⟩ := hfound hdirect
    obtain ⟨href, htargets, hkeeps⟩ := ref_of_existingRowWrite hwrite
    refine ⟨by rw [callRow, href]; rfl, ?_, fun _ => hkeeps⟩
    rw [callTargets, hcoll, Option.bind_some, htargets]
    rfl
  | update collection fid feature =>
    obtain ⟨coll, hdirect, hwrite⟩ := Option.bind_eq_some_iff.mp h
    obtain ⟨id, rfl, hwrite⟩ := Option.bind_eq_some_iff.mp hwrite
    obtain ⟨hcoll, rfl⟩ := hfound hdirect
    obtain ⟨href, htargets, hkeeps⟩ := ref_of_existingRowWrite hwrite
    refine ⟨by rw [callRow, href]; rfl, ?_, fun _ => hkeeps⟩
    rw [callTargets, hcoll, Option.bind_some, htargets]
    rfl
  | delete collection fid =>
    obtain ⟨coll, hdirect, hwrite⟩ := Option.bind_eq_some_iff.mp h
    obtain ⟨id, rfl, rfl⟩ := Option.map_eq_some_iff.mp hwrite
    obtain ⟨-, rfl⟩ := hfound hdirect
    exact ⟨rfl, rfl, fun h => by cases h⟩
  | upsert collection feature =>
    obtain ⟨coll, hdirect, hwrite⟩ := Option.bind_eq_some_iff.mp h
    obtain ⟨hcoll, rfl⟩ := hfound hdirect
    split at hwrite
    · obtain ⟨-, -, -, -, -, vals, -, rfl⟩ := upsertRowWrite_eq_some.mp hwrite
      refine ⟨?_, rfl, fun h => by cases h⟩
      rw [callRow, hcoll]
      rfl
    · cases hwrite
  | transaction document => cases h

end Rows

/-! ### Values that are written over -/

section Values

variable {gis : PostGIS Geometry} {env : Env} {coll : CollectionPlan} {feature : Option Json}
  {vals : Assignments Geometry}

/-- The columns that a complete write assigns. -/
def assignedColumns (coll : CollectionPlan) : List String :=
  coll.writableColumns.map (·.name) ++ coll.serverWriteColumns.map fun x => x.1.name

/-- A loop that names what it computes names what it reads. -/
theorem map_fst_of_mapM {α β ε : Type} {name : α → String} {f : α → Except ε β} {as : List α}
    {ys : List (String × β)} (h : as.mapM (fun a => do
      let value ← f a
      pure (name a, value)) = .ok ys) : ys.map Prod.fst = as.map name := by
  refine (List.Forall₂.map_eq (Except.forall₂_of_mapM h) fun a y hy => ?_).symm
  obtain ⟨value, -, hy⟩ := Except.bind_eq_ok.mp hy
  cases hy
  rfl

theorem mem_names_iff {α : Type} {ys : List (String × α)} {name : String} :
    (ys.lookup name).isSome = true ↔ name ∈ ys.map Prod.fst := by
  induction ys with
  | nil => simp
  | cons y ys ih =>
    obtain ⟨k, v⟩ := y
    by_cases h : name = k
    · subst h
      simp
    · rw [List.lookup_cons, beq_false_of_ne h, ih]
      simp [h]

/-- A complete write assigns the geometry and all of its columns. -/
theorem assigned_of_completeValues (h : completeValues gis env coll feature = .ok vals) :
    (∃ g, vals.geometry = some g) ∧
      ∀ c, (vals.columns.lookup c).isSome = true ↔ c ∈ assignedColumns coll := by
  obtain ⟨g, -, h⟩ := Except.bind_eq_ok.mp h
  obtain ⟨writable, hwritable, h⟩ := Except.bind_eq_ok.mp h
  obtain ⟨server, hserver, h⟩ := Except.bind_eq_ok.mp h
  obtain ⟨_, -, h⟩ := Except.bind_eq_ok.mp h
  cases h
  refine ⟨⟨g, rfl⟩, fun c => ?_⟩
  rw [mem_names_iff, List.map_append, map_fst_of_mapM hwritable, map_fst_of_mapM hserver]
  rfl

/-- A partial write assigns no other columns. -/
theorem assigned_of_partialValues (h : partialValues gis env coll feature = .ok vals) :
    ∀ c, (vals.columns.lookup c).isSome = true → c ∈ assignedColumns coll := by
  have hcolumns : ∀ {writable server : List (String × Option Datum)},
      ((coll.writableColumns.filter (namesColumn feature)).mapM (fun col => do
        let value ← propRead env col feature
        pure (col.name, value)) = .ok writable) →
      (coll.serverWriteColumns.mapM (fun x => do
        let value ← serverWrite env x.1 feature x.2
        pure (x.1.name, value)) = .ok server) →
      ∀ c, ((writable ++ server).lookup c).isSome = true → c ∈ assignedColumns coll := by
    intro writable server hwritable hserver c hc
    rw [mem_names_iff, List.map_append, map_fst_of_mapM hwritable,
      map_fst_of_mapM hserver] at hc
    rcases List.mem_append.mp hc with hc | hc
    · obtain ⟨col, hcol, rfl⟩ := List.mem_map.mp hc
      exact List.mem_append_left _ (List.mem_map_of_mem (List.mem_of_mem_filter hcol))
    · exact List.mem_append_right _ hc
  unfold partialValues at h
  split at h
  all_goals
    obtain ⟨_, -, h⟩ := Except.bind_eq_ok.mp h
    obtain ⟨writable, hwritable, h⟩ := Except.bind_eq_ok.mp h
    obtain ⟨server, hserver, h⟩ := Except.bind_eq_ok.mp h
    obtain ⟨_, -, h⟩ := Except.bind_eq_ok.mp h
    cases h
    exact hcolumns hwritable hserver

/-- **A complete write leaves nothing of a write of the same columns but when the row
was made.** -/
theorem assign_assign {row : Row Geometry} {vals vals' : Assignments Geometry} {now now' : Datum}
    (hgeometry : ∃ g, vals'.geometry = some g)
    (hcolumns : ∀ c, (vals.columns.lookup c).isSome = true →
      (vals'.columns.lookup c).isSome = true) :
    (row.assign vals now).assign vals' now' = row.assign vals' now' := by
  obtain ⟨g, hg⟩ := hgeometry
  have hcol : ∀ c, (vals'.columns.lookup c).getD ((vals.columns.lookup c).getD (row.columns c)) =
      (vals'.columns.lookup c).getD (row.columns c) := by
    intro c
    cases hold : vals.columns.lookup c with
    | none => rfl
    | some v =>
      obtain ⟨v', hv'⟩ := Option.isSome_iff_exists.mp (hcolumns c (by rw [hold]; rfl))
      rw [hv']
      rfl
  simp only [Row.assign, hg, Option.getD_some, hcol]

end Values

/-! ### Calls that overwrite -/

section Overwrites

variable {gis : PostGIS Geometry} {plan : SchemaPlan} {w a : RowWrite Geometry}

/-- The links of a document are of declared roles. -/
theorem role_of_mem_namedLinks {env : Env} {coll : CollectionPlan} {feature : Option Json}
    {links : List (CollectionRolePlan × List Uuid)} {source : Ref}
    (hlinks : documentLinks env coll.roles feature = some links) {l : Link}
    (hl : l ∈ namedLinks source feature links) :
    ∃ role ∈ coll.roles, role.property = l.property := by
  obtain ⟨-, x, hx, -, hproperty, -⟩ := mem_namedLinks.mp hl
  refine ⟨x.1, ?_, hproperty.symm⟩
  rw [← roles_of_documentLinks hlinks]
  exact List.mem_map_of_mem hx

/-- What a replace or an update writes is all of columns and links that a replace of
the row writes too. -/
theorem absorbed_of_rewrites {call : Env × Call} (h : rowWrite gis plan call = some a)
    (hrewrites : call.2.rewrites = true) : ∃ coll, coll.collectionName = a.ref.collection ∧
      directCollection plan a.ref.collection = some coll ∧
        (∃ vals now, a.row = Option.map (fun row => row.assign vals now) ∧
          ∀ c, (vals.columns.lookup c).isSome = true → c ∈ assignedColumns coll) ∧
        (∀ l ∈ a.links, ∃ role ∈ coll.roles, role.property = l.property) ∧
        ∀ property, a.clears property = true → ∃ role ∈ coll.roles, role.property = property := by
  obtain ⟨env, call⟩ := call
  cases call with
  | replace collection fid feature =>
    obtain ⟨coll, hdirect, hwrite⟩ := Option.bind_eq_some_iff.mp h
    obtain ⟨id, rfl, hwrite⟩ := Option.bind_eq_some_iff.mp hwrite
    obtain ⟨hmem, rfl, -⟩ := mem_of_directCollection hdirect
    obtain ⟨-, -, links, vals, hlinks, hvals, rfl⟩ := existingRowWrite_eq_some.mp hwrite
    refine ⟨coll, rfl, hdirect, ⟨vals, env.now, rfl, fun c =>
      ((assigned_of_completeValues hvals).2 c).mp⟩, fun l hl =>
      role_of_mem_namedLinks hlinks (List.mem_toFinset.mp hl), fun property hclears => ?_⟩
    obtain ⟨role, hrole, hproperty⟩ := List.any_eq_true.mp hclears
    exact ⟨role, hrole, of_decide_eq_true hproperty⟩
  | update collection fid feature =>
    obtain ⟨coll, hdirect, hwrite⟩ := Option.bind_eq_some_iff.mp h
    obtain ⟨id, rfl, hwrite⟩ := Option.bind_eq_some_iff.mp hwrite
    obtain ⟨hmem, rfl, -⟩ := mem_of_directCollection hdirect
    obtain ⟨-, -, links, vals, hlinks, hvals, rfl⟩ := existingRowWrite_eq_some.mp hwrite
    refine ⟨coll, rfl, hdirect, ⟨vals, env.now, rfl, assigned_of_partialValues hvals⟩, fun l hl =>
      role_of_mem_namedLinks hlinks (List.mem_toFinset.mp hl), fun property hclears => ?_⟩
    obtain ⟨-, hany⟩ := Bool.and_eq_true_iff.mp hclears
    obtain ⟨x, hx, hproperty⟩ := List.any_eq_true.mp hany
    refine ⟨x.1, ?_, of_decide_eq_true hproperty⟩
    rw [← roles_of_documentLinks hlinks]
    exact List.mem_map_of_mem hx
  | create collection feature => cases hrewrites
  | delete collection fid => cases hrewrites
  | upsert collection feature => cases hrewrites
  | transaction document => cases hrewrites

/-- **A replace or a delete absorbs a replace or an update of its row.** -/
theorem absorbing_of_overwrites {call call' : Env × Call} (ha : rowWrite gis plan call = some a)
    (hw : rowWrite gis plan call' = some w) (hrow : w.ref = a.ref)
    (hrewrites : call.2.rewrites = true) (hoverwrites : call'.2.overwrites = true) :
    w.Absorbing a := by
  have hkeeps := (callRow_of_rowWrite ha).2.2 hrewrites
  obtain ⟨coll, hname, hcoll, ⟨vals, now, hvals, hassigned⟩, hlinks, hclears⟩ :=
    absorbed_of_rewrites ha hrewrites
  rw [← hrow] at hcoll
  obtain ⟨env', call'⟩ := call'
  cases call' with
  | replace collection fid feature =>
    obtain ⟨coll', hdirect, hwrite⟩ := Option.bind_eq_some_iff.mp hw
    obtain ⟨id, rfl, hwrite⟩ := Option.bind_eq_some_iff.mp hwrite
    obtain ⟨-, rfl, -⟩ := mem_of_directCollection hdirect
    obtain ⟨-, -, links, vals', -, hvals', rfl⟩ := existingRowWrite_eq_some.mp hwrite
    cases hcoll.symm.trans hdirect
    obtain ⟨hgeometry, hcolumns⟩ := assigned_of_completeValues hvals'
    -- a replace clears the links of every role
    have hdeclared : ∀ property, (∃ role ∈ coll.roles, role.property = property) →
        (coll.roles.any fun role => role.property = property) = true := by
      rintro _ ⟨role, hrole, rfl⟩
      exact List.any_eq_true.mpr ⟨role, hrole, decide_eq_true rfl⟩
    refine ⟨hrow, hkeeps, fun row => ?_, fun l hl => hdeclared _ (hlinks l hl),
      fun property h => hdeclared _ (hclears property h)⟩
    rw [hvals]
    cases row with
    | none => rfl
    | some row =>
      exact congrArg some (assign_assign hgeometry fun c hc => (hcolumns c).mpr (hassigned c hc))
  | delete collection fid =>
    obtain ⟨coll', hdirect, hwrite⟩ := Option.bind_eq_some_iff.mp hw
    obtain ⟨id, rfl, rfl⟩ := Option.map_eq_some_iff.mp hwrite
    obtain ⟨-, rfl, -⟩ := mem_of_directCollection hdirect
    cases hcoll.symm.trans hdirect
    -- a delete takes all links of the row with it
    have hsome : ∀ property, (∃ role ∈ coll.roles, role.property = property) →
        decide (coll.roles ≠ []) = true := by
      rintro _ ⟨role, hrole, -⟩
      exact decide_eq_true (List.ne_nil_of_mem hrole)
    exact ⟨hrow, hkeeps, fun _ => rfl, fun l hl => hsome _ (hlinks l hl),
      fun property h => hsome _ (hclears property h)⟩
  | create collection feature => cases hoverwrites
  | update collection fid feature => cases hoverwrites
  | upsert collection feature => cases hoverwrites
  | transaction document => cases hoverwrites

end Overwrites

/-! ### Runs of calls -/

section Runs

variable {gis : PostGIS Geometry} {deployed : String → Option SchemaPlan} {dataset : String}
  {plan : SchemaPlan}

/-- **Calls on different rows that spare each other's targets commute.** -/
theorem commute_of_spares (hdeployed : deployed dataset = some plan) {a b : Env × Call}
    (ha : a.2.isDirect = true) (hb : b.2.isDirect = true) (hrows : callRow plan a ≠ callRow plan b)
    (hab : Spares plan a b) (hba : Spares plan b a) :
    Runs.Commute (acceptedStep gis deployed dataset) a b := by
  have hspares : ∀ {a b : Env × Call} {w w' : RowWrite Geometry}, rowWrite gis plan a = some w →
      rowWrite gis plan b = some w' → Spares plan a b → w.Spares w' := by
    intro a b w w' hw hw' h
    obtain ⟨hrow, -, hkeeps⟩ := callRow_of_rowWrite hw
    obtain ⟨-, htargets, -⟩ := callRow_of_rowWrite hw'
    rcases h with h | h
    · exact .inl (hkeeps h)
    · exact .inr (htargets ▸ h w.ref hrow)
  intro db
  simp only [acceptedStep_eq hdeployed ha, acceptedStep_eq hdeployed hb]
  cases hw : rowWrite gis plan a with
  | none =>
    simp only [Option.bind_none]
    cases (rowWrite gis plan b).bind fun w => w.step db <;> rfl
  | some w =>
    cases hw' : rowWrite gis plan b with
    | none =>
      simp only [Option.bind_none, Option.bind_some]
      cases w.step db <;> rfl
    | some w' =>
      have hne : w.ref ≠ w'.ref := by
        intro heq
        rw [(callRow_of_rowWrite hw).1, (callRow_of_rowWrite hw').1, heq] at hrows
        exact hrows rfl
      exact RowWrite.Independent.commute ⟨hne, hspares hw hw' hab, hspares hw' hw hba⟩ db

end Runs

/-- **A run of direct writes depends only on what each row is sent**, if the calls on
different rows spare each other's targets: in another order it is accepted just the
same, and it leaves the same tables. -/
theorem run_eq_of_same_rows (gis : PostGIS Geometry) (deployed : String → Option SchemaPlan)
    (dataset : String) {plan : SchemaPlan} (hdeployed : deployed dataset = some plan)
    {calls calls' : List (Env × Call)} (hdirect : ∀ call ∈ calls, call.2.isDirect = true)
    (hspares : ∀ a ∈ calls, ∀ b ∈ calls, callRow plan a ≠ callRow plan b → Spares plan a b)
    (hsame : ∀ row, calls.filter (fun call => callRow plan call = row) =
      calls'.filter fun call => callRow plan call = row) (db : Db Geometry) :
    Runs.run (acceptedStep gis deployed dataset) db calls =
      Runs.run (acceptedStep gis deployed dataset) db calls' :=
  Runs.run_eq_of_filter_eq (callRow plan) (fun a ha b hb hne =>
    commute_of_spares hdeployed (hdirect a ha) (hdirect b hb) hne (hspares a ha b hb hne)
      (hspares b hb a ha (Ne.symm hne))) hsame db

/-- The later call leaves nothing of what the earlier one wrote. -/
def overwrites (later earlier : Env × Call) : Bool :=
  later.2.overwrites && earlier.2.rewrites

/-- The calls without those that the next call on their row overwrites. -/
def withoutOverwritten (plan : SchemaPlan) (calls : List (Env × Call)) : List (Env × Call) :=
  Runs.compact (callRow plan) overwrites calls

/-- **A run of direct writes that is accepted leads to the same tables without the
writes that are overwritten.** -/
theorem run_of_overwritten (gis : PostGIS Geometry) (deployed : String → Option SchemaPlan)
    (dataset : String) {plan : SchemaPlan} (hdeployed : deployed dataset = some plan)
    {calls : List (Env × Call)} (hdirect : ∀ call ∈ calls, call.2.isDirect = true)
    (hspares : ∀ a ∈ calls, ∀ b ∈ calls, callRow plan a ≠ callRow plan b → Spares plan a b)
    {db db' : Db Geometry}
    (hrun : Runs.run (acceptedStep gis deployed dataset) db calls = some db') :
    Runs.run (acceptedStep gis deployed dataset) db (withoutOverwritten plan calls) = some db' ∧
      withoutOverwritten plan (withoutOverwritten plan calls) = withoutOverwritten plan calls := by
  refine ⟨Runs.run_compact (fun a ha b hb hne =>
    commute_of_spares hdeployed (hdirect a ha) (hdirect b hb) hne (hspares a ha b hb hne)
      (hspares b hb a ha (Ne.symm hne))) (fun a ha w hw hrow hoverwrites => ?_) hrun,
    Runs.compact_compact calls⟩
  obtain ⟨hover, hrewrites⟩ := Bool.and_eq_true_iff.mp hoverwrites
  intro s s' hstep
  rw [acceptedStep_eq hdeployed (hdirect a ha)] at hstep
  obtain ⟨write, hwrite, hstep⟩ := Option.bind_eq_some_iff.mp hstep
  rw [acceptedStep_eq hdeployed (hdirect w hw), acceptedStep_eq hdeployed (hdirect w hw)]
  cases hlater : rowWrite gis plan w with
  | none => rfl
  | some write' =>
    have href : write'.ref = write.ref := by
      rw [(callRow_of_rowWrite hlater).1, (callRow_of_rowWrite hwrite).1] at hrow
      exact Option.some.inj hrow
    exact (absorbing_of_overwrites hwrite hlater href hrewrites hover).absorbs s s' hstep

namespace Sample

/-- A building moved and gone, and another parcel. -/
def demolished : List (Env × Call) :=
  [(env, .replace "buildings" (some 2) (some (building 2 1))),
    (env, .create "parcels" (some (parcel 3))), (env, .delete "buildings" (some 2))]

/-- The parcel first. -/
def reordered : List (Env × Call) :=
  [(env, .create "parcels" (some (parcel 3))),
    (env, .replace "buildings" (some 2) (some (building 2 1))), (env, .delete "buildings" (some 2))]

theorem spares_demolished : ∀ a ∈ demolished, ∀ b ∈ demolished,
    callRow cadastre a ≠ callRow cadastre b → Spares cadastre a b := by
  decide +kernel

end Sample

theorem run_eq_of_same_rows_sample :
    (Runs.run (acceptedStep Sample.gis (fun _ => some Sample.cadastre) "cadastre") Sample.built
        Sample.demolished).isSome = true ∧
      Runs.run (acceptedStep Sample.gis (fun _ => some Sample.cadastre) "cadastre") Sample.built
          Sample.demolished =
        Runs.run (acceptedStep Sample.gis (fun _ => some Sample.cadastre) "cadastre") Sample.built
          Sample.reordered := by
  refine ⟨by decide +kernel, run_eq_of_same_rows Sample.gis (fun _ => some Sample.cadastre)
    "cadastre" rfl (by decide) Sample.spares_demolished (fun row => ?_) Sample.built⟩
  have hother : callRow Sample.cadastre (Sample.env, .create "parcels" (some (Sample.parcel 3))) ≠
      callRow Sample.cadastre
        (Sample.env, .replace "buildings" (some 2) (some (Sample.building 2 1))) := by
    decide +kernel
  by_cases hcreate : callRow Sample.cadastre
      (Sample.env, .create "parcels" (some (Sample.parcel 3))) = row
  · have hreplace : callRow Sample.cadastre
        (Sample.env, .replace "buildings" (some 2) (some (Sample.building 2 1))) ≠ row :=
      fun h => hother (hcreate.trans h.symm)
    simp [Sample.demolished, Sample.reordered, hcreate, hreplace]
  · simp [Sample.demolished, Sample.reordered, List.filter_cons, hcreate]

theorem run_of_overwritten_sample : ∃ db',
    Runs.run (acceptedStep Sample.gis (fun _ => some Sample.cadastre) "cadastre") Sample.built
        Sample.demolished = some db' ∧
      Runs.run (acceptedStep Sample.gis (fun _ => some Sample.cadastre) "cadastre") Sample.built
        [(Sample.env, .create "parcels" (some (Sample.parcel 3))),
          (Sample.env, .delete "buildings" (some 2))] = some db' := by
  obtain ⟨db', hrun, -⟩ : ∃ db' ∈ Runs.run (acceptedStep Sample.gis
      (fun _ => some Sample.cadastre) "cadastre") Sample.built Sample.demolished, True := by
    decide +kernel
  exact ⟨db', hrun, (run_of_overwritten Sample.gis (fun _ => some Sample.cadastre) "cadastre" rfl
    (by decide) Sample.spares_demolished hrun).1⟩

end Geocomponents
