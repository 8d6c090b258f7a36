/-
Applying a description to a database (`geocomponents/schema/postgis.py`:
`apply_tables` and `_guard_association_role_removal`).

A `Schema` is what the server holds for one dataset: the relations, the two
catalogue tables, and the rows.  No collection is called like a catalogue table
of the links (`_RESERVED_COLLECTION_NAMES`), so `roles` are the rows of the table
`association_role`.

* `exec_spec` — what one statement needs and what it does;
* `applyTables_eq` — when `apply_tables` raises and what it leaves;
* `orphansNothing_iff` — when no link is orphaned: a property may keep its name
  and change its target collection.
-/
import Topogdb.Geocomponents.Dispatch
import Topogdb.Geocomponents.StoredRows
import Topogdb.Lib.Sessions

namespace Geocomponents

/-! ### The database -/

/-- A relation of the schema: a table with its columns, or an index. -/
inductive Relation where
  | table (columns : List String)
  | index
deriving DecidableEq

/-- The database of one dataset. -/
structure Schema (Geometry : Type) where
  relations : Finmap fun _ : String => Relation
  /-- The rows of `collection_capability`. -/
  featureModels : Finmap fun _ : String => FeatureModel
  /-- The rows of `association_role`: the target collections. -/
  roles : Finmap fun _ : String × String => String
  db : Db Geometry
  roles_in_table : ∀ key ∈ roles, ∃ columns,
    relations.lookup "association_role" = some (.table columns)
  /-- The foreign key of `association`. -/
  links_have_roles : ∀ l ∈ db.association, (l.source.collection, l.property) ∈ roles

variable {Geometry : Type}

namespace Schema

/-- Nothing is deployed. -/
def empty : Schema Geometry where
  relations := ∅
  featureModels := ∅
  roles := ∅
  db := Db.empty
  roles_in_table _ h := absurd h Finmap.notMem_empty
  links_have_roles _ h := absurd h (Finset.notMem_empty _)

/-- The relation of a name. -/
def relation? (s : Schema Geometry) (name : String) : Option Relation := s.relations.lookup name

/-- The row that a link points at, by its role. -/
def target? (s : Schema Geometry) (l : Link) : Option Ref :=
  (s.roles.lookup (l.source.collection, l.property)).map fun target => ⟨target, l.targetId⟩

/-- Every link has its role and its target. -/
def Resolves (s : Schema Geometry) : Prop :=
  ∀ l ∈ s.db.association, ∃ t, s.target? l = some t ∧ (s.db.row? t).isSome = true

/-- `create … if not exists`. -/
def create (s : Schema Geometry) (name : String) (relation : Relation) : Schema Geometry where
  relations := if name ∈ s.relations then s.relations else s.relations.insert name relation
  featureModels := s.featureModels
  roles := s.roles
  db := s.db
  roles_in_table key h := by
    obtain ⟨columns, hcolumns⟩ := s.roles_in_table key h
    refine ⟨columns, ?_⟩
    split
    · exact hcolumns
    · next hnew =>
      rw [Finmap.lookup_insert_of_ne _ ?_, hcolumns]
      rintro rfl
      exact hnew (Finmap.mem_of_lookup_eq_some hcolumns)
  links_have_roles := s.links_have_roles

/-- `insert … on conflict … do update`. -/
def upsertRows {κ β : Type} [DecidableEq κ] (rows : List (κ × β)) (table : Finmap fun _ : κ => β) :
    Finmap fun _ : κ => β :=
  rows.foldl (fun table row => table.insert row.1 row.2) table

theorem lookup_upsertRows {κ β : Type} [DecidableEq κ] [BEq κ] [LawfulBEq κ] {rows : List (κ × β)}
    (hnodup : (rows.map Prod.fst).Nodup) (table : Finmap fun _ : κ => β) (key : κ) :
    (upsertRows rows table).lookup key = (rows.lookup key).or (table.lookup key) := by
  induction rows generalizing table with
  | nil => rfl
  | cons row rows ih =>
    obtain ⟨key', value⟩ := row
    rw [List.map_cons, List.nodup_cons] at hnodup
    have hfold : upsertRows ((key', value) :: rows) table =
        upsertRows rows (table.insert key' value) := rfl
    rw [hfold, ih hnodup.2, List.lookup_cons]
    by_cases hkey : key = key'
    · have hnone : rows.lookup key' = none := by
        rw [List.lookup_eq_none_iff]
        intro row hrow
        exact bne_iff_ne.mpr fun heq => hnodup.1 (List.mem_map.mpr ⟨row, hrow, heq.symm⟩)
      subst hkey
      rw [beq_self_eq_true, hnone, Option.none_or, Finmap.lookup_insert, Option.some_or]
    · rw [beq_false_of_ne hkey, Finmap.lookup_insert_of_ne _ hkey]

end Schema

/-! ### Statements -/

/-- What of a statement is left to the server: extensions, the types of the
columns, and index expressions over them. -/
structure Server where
  createExtension : String → Except SqlError Unit
  createTable : String → List String → Except SqlError Unit
  createIndex : List String → String → Except SqlError Unit

/-- The columns of a table. -/
def columnsOf (relation? : String → Option Relation) (name : String) :
    Except SqlError (List String) :=
  match relation? name with
  | some (.table columns) => .ok columns
  | some .index => .error ⟨"42809", s!"\"{name}\" is not a table"⟩
  | none => .error (.undefinedTable name)

/-- The rows of one `insert … on conflict … do update`. -/
def checkSeed {κ : Type} [DecidableEq κ] (keys : List κ) : Except SqlError Unit :=
  if keys = [] then .error ⟨"42601", "syntax error at or near \"on\""⟩
  else if keys.Nodup then .ok ()
  else
    .error ⟨"21000", "ON CONFLICT DO UPDATE command cannot affect row a second time"⟩

namespace AssociationRoleRow

/-- The primary key of `association_role`. -/
def key (row : AssociationRoleRow) : String × String := (row.sourceCollection, row.property)

/-- The row by its key. -/
def entry (row : AssociationRoleRow) : (String × String) × String :=
  (row.key, row.targetCollection)

end AssociationRoleRow

namespace TableStatement

/-- The error of a statement. -/
def check (server : Server) (relation? : String → Option Relation) :
    TableStatement → Except SqlError Unit
  | createExtension name => server.createExtension name
  | createSchema _ | commentOnSchema _ => .ok ()
  | createTable name columns =>
    if (relation? name).isSome then .ok ()
    else if columns.Nodup then server.createTable name columns
    else .error ⟨"42701", s!"a column of \"{name}\" specified more than once"⟩
  | commentOnTable name => do
    let _ ← columnsOf relation? name
    .ok ()
  | seedCollectionCapability rows => do
    checkSeed (rows.map Prod.fst)
    let _ ← columnsOf relation? "collection_capability"
    .ok ()
  | seedAssociationRole rows => do
    checkSeed (rows.map (·.key))
    let _ ← columnsOf relation? "association_role"
    .ok ()
  | createIndex _ table expression => do
    let columns ← columnsOf relation? table
    server.createIndex columns expression

/-- The relation that a statement creates, if it is not there. -/
def creates : TableStatement → Option (String × Relation)
  | createTable name columns => some (name, .table columns)
  | createIndex name _ _ => some (name, .index)
  | _ => none

/-- The rows that a statement seeds `association_role` with. -/
def roleRows : TableStatement → List ((String × String) × String)
  | seedAssociationRole rows => rows.map (·.entry)
  | _ => []

end TableStatement

theorem columnsOf_eq_ok {relation? : String → Option Relation} {name : String}
    {columns : List String} :
    columnsOf relation? name = .ok columns ↔ relation? name = some (.table columns) := by
  rw [columnsOf]
  split
  · next columns' h => rw [h, Except.ok.injEq, Option.some.injEq, Relation.table.injEq]
  · next h => simp [h]
  · next h => simp [h]

theorem checkSeed_eq_ok {κ : Type} [DecidableEq κ] {keys : List κ} :
    checkSeed keys = .ok () ↔ keys ≠ [] ∧ keys.Nodup := by
  rw [checkSeed]
  split
  · next h => simp [h]
  · next h =>
    split
    · next hnodup => simp [h, hnodup]
    · next hnodup => simp [hnodup]

/-- What `apply_tables` raises. -/
inductive ApplyError where
  | runtimeError (message : String)
  | sql (e : SqlError)

namespace Schema

variable (s : Schema Geometry)

/-- The seed of `association_role`. -/
def seedRoles (rows : List AssociationRoleRow) {columns : List String}
    (htable : s.relation? "association_role" = some (.table columns))
    (hnodup : (rows.map (·.key)).Nodup) : Schema Geometry where
  relations := s.relations
  featureModels := s.featureModels
  roles := upsertRows (rows.map (·.entry)) s.roles
  db := s.db
  roles_in_table _ _ := ⟨columns, htable⟩
  links_have_roles l hl := by
    have hkeys : ((rows.map (·.entry)).map Prod.fst).Nodup := by
      rw [List.map_map]
      exact hnodup
    obtain ⟨target, htarget⟩ :=
      Option.isSome_iff_exists.mp (Finmap.lookup_isSome.mpr (s.links_have_roles l hl))
    rw [← Finmap.lookup_isSome, lookup_upsertRows hkeys, htarget, Option.isSome_or]
    exact Bool.or_true _

/-- One statement. -/
def exec (server : Server) (stmt : TableStatement) : Except SqlError (Schema Geometry) :=
  let checked (s' : Schema Geometry) := (stmt.check server s.relation?).map fun _ => s'
  match stmt with
  | .createExtension _ | .createSchema _ | .commentOnSchema _ | .commentOnTable _ => checked s
  | .createTable name columns => checked (s.create name (.table columns))
  | .createIndex name _ _ => checked (s.create name .index)
  | .seedCollectionCapability rows =>
    checked { s with featureModels := upsertRows rows s.featureModels }
  | .seedAssociationRole rows =>
    match hseed : checkSeed (rows.map (·.key)), htable : columnsOf s.relation? "association_role" with
    | .ok (), .ok _ =>
      .ok (s.seedRoles rows (columnsOf_eq_ok.mp htable) (checkSeed_eq_ok.mp hseed).2)
    | .error e, _ => .error e
    | .ok (), .error e => .error e

/-- The list `blocking`: the removed properties that have links. -/
def blocking (plan : BuiltSchema) : List String :=
  let removed := s.roles.keys \ (plan.associationRoleRows.map (·.key)).toFinset
  (Ordered.list (removed.image toLex)).filterMap fun key =>
    let count := (s.db.association.filter fun l =>
      l.source.collection = (ofLex key).1 ∧ l.property = (ofLex key).2).card
    if 0 < count then some s!"  {(ofLex key).1}.{(ofLex key).2}: {count} row(s)" else none

/-- `_guard_association_role_removal`. -/
def guardAssociationRoleRemoval (plan : BuiltSchema) : Except ApplyError Unit :=
  if s.relation? "association_role" = none then .ok ()
  else
    let blocking := s.blocking plan
    if blocking ≠ [] then
      .error (.runtimeError
        (s!"apply-schema: removing {blocking.length} property(ies) from " ++
          s!"{plan.schemaName}.association_role would orphan association rows:\n" ++
          "\n".intercalate blocking))
    else .ok ()

end Schema

/-- `DuplicateObject`. -/
def ApplyError.isDuplicateObject : ApplyError → Bool
  | .sql e => e.sqlstate = "42710"
  | .runtimeError _ => false

/-- `apply_tables`. -/
def applyTables (server : Server) (plan : BuiltSchema) :
    Session (Schema Geometry) ApplyError Unit :=
  Session.transaction do
    Session.select fun s => s.guardAssociationRoleRemoval plan
    (tableStatements plan).forM fun stmt =>
      Session.catching ApplyError.isDuplicateObject <| Session.transaction <|
        Session.execute fun s => (s.exec server stmt).mapError .sql

/-! ### What a statement does -/

/-- The relations after a statement. -/
def TableStatement.relationAfter (stmt : TableStatement) (relation? : String → Option Relation)
    (name : String) : Option Relation :=
  (relation? name).or ((stmt.creates.filter fun r => r.1 = name).map Prod.snd)

theorem Schema.relation?_create (s : Schema Geometry) (name name' : String) (relation : Relation) :
    (s.create name relation).relation? name' =
      (s.relation? name').or (if name = name' then some relation else none) := by
  have hcreate : (s.create name relation).relation? name' =
      (if name ∈ s.relations then s.relations
        else s.relations.insert name relation).lookup name' := rfl
  rw [hcreate]
  by_cases hname : name = name'
  · subst hname
    rw [if_pos rfl]
    split
    · next hmem =>
      obtain ⟨r, hr⟩ := Option.isSome_iff_exists.mp (Finmap.lookup_isSome.mpr hmem)
      rw [Schema.relation?, hr, Option.some_or]
    · next hmem =>
      rw [Finmap.lookup_insert, Schema.relation?, Finmap.lookup_eq_none.mpr hmem, Option.none_or]
  · rw [if_neg hname, Option.or_none]
    split
    · rfl
    · exact Finmap.lookup_insert_of_ne _ (Ne.symm hname)

/-- Statements that create no relation and seed no role. -/
theorem TableStatement.relationAfter_of_creates {stmt : TableStatement} (h : stmt.creates = none)
    (relation? : String → Option Relation) : stmt.relationAfter relation? = relation? := by
  funext name
  rw [relationAfter, h]
  exact Option.or_none

theorem Schema.relation?_create_eq (s : Schema Geometry) {stmt : TableStatement} {name : String}
    {relation : Relation} (h : stmt.creates = some (name, relation)) :
    (s.create name relation).relation? = stmt.relationAfter s.relation? := by
  funext name'
  rw [Schema.relation?_create, TableStatement.relationAfter, h, Option.filter_some]
  by_cases hname : name = name' <;> simp [hname]

/-- What a statement leaves of a schema. -/
structure Schema.Executed (stmt : TableStatement) (s s' : Schema Geometry) : Prop where
  db : s'.db = s.db
  relation? : s'.relation? = stmt.relationAfter s.relation?
  roles : ∀ key, s'.roles.lookup key = (stmt.roleRows.lookup key).or (s.roles.lookup key)

/-- The seed of `association_role`. -/
theorem Schema.exec_seedAssociationRole (server : Server) (rows : List AssociationRoleRow)
    (s : Schema Geometry) :
    (∃ e, (TableStatement.seedAssociationRole rows).check server s.relation? = .error e ∧
      s.exec server (.seedAssociationRole rows) = .error e) ∨
    ∃ s', (TableStatement.seedAssociationRole rows).check server s.relation? = .ok () ∧
      s.exec server (.seedAssociationRole rows) = .ok s' ∧
        Executed (.seedAssociationRole rows) s s' := by
  rw [exec, TableStatement.check]
  split
  · next hseed htable =>
    have hkeys : ((rows.map (·.entry)).map Prod.fst).Nodup := by
      rw [List.map_map]
      exact (checkSeed_eq_ok.mp hseed).2
    refine .inr ⟨_, ?_, rfl, rfl, (TableStatement.relationAfter_of_creates rfl _).symm,
      lookup_upsertRows hkeys s.roles⟩
    rw [hseed, htable]
    rfl
  · next e hseed =>
    refine .inl ⟨e, ?_, rfl⟩
    rw [hseed]
    rfl
  · next e hseed htable =>
    refine .inl ⟨e, ?_, rfl⟩
    rw [hseed, htable]
    rfl

/-- **One statement**: it fails by its check, keeps the rows, creates its relation
and seeds the roles. -/
theorem Schema.exec_spec (server : Server) (stmt : TableStatement) (s : Schema Geometry) :
    (∃ e, stmt.check server s.relation? = .error e ∧ s.exec server stmt = .error e) ∨
    ∃ s', stmt.check server s.relation? = .ok () ∧ s.exec server stmt = .ok s' ∧
      Executed stmt s s' := by
  -- all but the seed of the roles are their check and one schema
  have hchecked : ∀ s' : Schema Geometry, Executed stmt s s' →
      s.exec server stmt = (stmt.check server s.relation?).map (fun _ => s') →
      (∃ e, stmt.check server s.relation? = .error e ∧ s.exec server stmt = .error e) ∨
      ∃ s', stmt.check server s.relation? = .ok () ∧ s.exec server stmt = .ok s' ∧
        Executed stmt s s' := by
    intro s' hs' hexec
    cases hcheck : stmt.check server s.relation? with
    | error e =>
      rw [hcheck] at hexec
      exact .inl ⟨e, rfl, hexec⟩
    | ok _ =>
      rw [hcheck] at hexec
      exact .inr ⟨s', rfl, hexec, hs'⟩
  cases stmt with
  | createTable name columns =>
    exact hchecked (s.create name (.table columns))
      ⟨rfl, s.relation?_create_eq rfl, fun _ => rfl⟩ rfl
  | createIndex name table expression =>
    exact hchecked (s.create name .index) ⟨rfl, s.relation?_create_eq rfl, fun _ => rfl⟩ rfl
  | seedAssociationRole rows => exact s.exec_seedAssociationRole server rows
  | seedCollectionCapability rows =>
    exact hchecked { s with featureModels := upsertRows rows s.featureModels }
      ⟨rfl, (TableStatement.relationAfter_of_creates rfl _).symm, fun _ => rfl⟩ rfl
  | createExtension name | createSchema name | commentOnSchema name | commentOnTable name =>
    exact hchecked s ⟨rfl, (TableStatement.relationAfter_of_creates rfl _).symm, fun _ => rfl⟩ rfl

/-! ### All statements -/

/-- The server refuses one of the statements, which come after one another; the
relations are as those before leave them. -/
def Refused (server : Server) : List TableStatement → (String → Option Relation) → Prop
  | [], _ => False
  | stmt :: stmts, relation? =>
    match stmt.check server relation? with
    | .ok _ => Refused server stmts (stmt.relationAfter relation?)
    | .error e => e.sqlstate ≠ "42710" ∨ Refused server stmts relation?

instance Refused.decidable (server : Server) :
    ∀ stmts relation?, Decidable (Refused server stmts relation?)
  | [], _ => inferInstanceAs (Decidable False)
  | stmt :: stmts, relation? =>
    match hcheck : stmt.check server relation? with
    | .ok _ =>
      have := Refused.decidable server stmts (stmt.relationAfter relation?)
      decidable_of_iff (Refused server stmts (stmt.relationAfter relation?)) (by rw [Refused, hcheck])
    | .error e =>
      have := Refused.decidable server stmts relation?
      decidable_of_iff (e.sqlstate ≠ "42710" ∨ Refused server stmts relation?)
        (by rw [Refused, hcheck])

/-- The statements in their savepoints. -/
def applyStatements (server : Server) (stmts : List TableStatement) (s : Schema Geometry) :
    Except ApplyError (Schema Geometry) :=
  stmts.foldlM (fun s stmt => Session.tolerate ApplyError.isDuplicateObject
    (fun s => (s.exec server stmt).mapError .sql) s) s

/-- The target of a role after statements: of its seeds the last counts. -/
def targetAfter (stmts : List TableStatement) (key : String × String) (target : Option String) :
    Option String :=
  stmts.foldl (fun target stmt => (stmt.roleRows.lookup key).or target) target

/-- A seed never fails as a duplicate object. -/
theorem roleRows_of_duplicate {server : Server} {stmt : TableStatement}
    {relation? : String → Option Relation} {e : SqlError}
    (h : stmt.check server relation? = .error e) (hduplicate : e.sqlstate = "42710") :
    stmt.roleRows = [] := by
  cases stmt with
  | seedAssociationRole rows =>
    exfalso
    rw [TableStatement.check, checkSeed, columnsOf] at h
    split at h
    · cases h
      exact absurd hduplicate (by decide)
    · split at h
      · split at h
        · cases h
        · cases h
          exact absurd hduplicate (by decide)
        · cases h
          exact absurd hduplicate (by simp [SqlError.undefinedTable])
      · cases h
        exact absurd hduplicate (by decide)
  | _ => rfl

/-- **The statements** stop at the first that is refused, or keep the rows and seed
the roles. -/
theorem applyStatements_spec (server : Server) (stmts : List TableStatement)
    (s : Schema Geometry) :
    (Refused server stmts s.relation? ∧ ∃ e, applyStatements server stmts s = .error e) ∨
    (¬ Refused server stmts s.relation? ∧ ∃ s', applyStatements server stmts s = .ok s' ∧
      s'.db = s.db ∧ ∀ key, s'.roles.lookup key = targetAfter stmts key (s.roles.lookup key)) := by
  induction stmts generalizing s with
  | nil => exact .inr ⟨id, s, rfl, rfl, fun _ => rfl⟩
  | cons stmt stmts ih =>
    have hcons : applyStatements server (stmt :: stmts) s =
        (Session.tolerate ApplyError.isDuplicateObject
          (fun s => (s.exec server stmt).mapError .sql) s).bind
            (applyStatements server stmts) := List.foldlM_cons
    obtain ⟨e, hcheck, hexec⟩ | ⟨s', hcheck, hexec, hs'⟩ := s.exec_spec server stmt
    · by_cases hduplicate : e.sqlstate = "42710"
      · -- the savepoint is given up, and the loop goes on
        have hstep : Session.tolerate ApplyError.isDuplicateObject
            (fun s => (s.exec server stmt).mapError .sql) s = .ok s := by
          rw [Session.tolerate, hexec]
          exact if_pos (decide_eq_true hduplicate)
        have hrefused : Refused server (stmt :: stmts) s.relation? ↔
            Refused server stmts s.relation? := by
          rw [Refused, hcheck]
          exact or_iff_right fun h => h hduplicate
        have htarget : ∀ key target, targetAfter (stmt :: stmts) key target =
            targetAfter stmts key target := by
          intro key target
          rw [targetAfter, List.foldl_cons, roleRows_of_duplicate hcheck hduplicate]
          rfl
        simp only [hcons, hstep, hrefused, htarget]
        exact ih s
      · -- any other error ends the loop
        have hstep : Session.tolerate ApplyError.isDuplicateObject
            (fun s => (s.exec server stmt).mapError .sql) s = .error (.sql e) := by
          rw [Session.tolerate, hexec]
          exact if_neg fun h => hduplicate (of_decide_eq_true h)
        refine .inl ⟨?_, .sql e, ?_⟩
        · rw [Refused, hcheck]
          exact .inl hduplicate
        · rw [hcons, hstep]
          rfl
    · have hstep : Session.tolerate ApplyError.isDuplicateObject
          (fun s => (s.exec server stmt).mapError .sql) s = .ok s' := by
        rw [Session.tolerate, hexec]
        rfl
      have hrefused : Refused server (stmt :: stmts) s.relation? ↔
          Refused server stmts s'.relation? := by
        rw [Refused, hcheck, hs'.relation?]
      rw [hcons, hstep, hrefused]
      obtain ⟨h, e, he⟩ | ⟨h, s'', hs'', hdb, hroles⟩ := ih s'
      · exact .inl ⟨h, e, he⟩
      · refine .inr ⟨h, s'', hs'', hdb.trans hs'.db, fun key => ?_⟩
        rw [hroles key, hs'.roles key]
        rfl

/-- The target collection of a property in a plan. -/
def BuiltSchema.target? (plan : BuiltSchema) (key : String × String) : Option String :=
  (plan.associationRoleRows.map (·.entry)).lookup key

theorem BuiltSchema.isSome_target? {plan : BuiltSchema} {key : String × String} :
    (plan.target? key).isSome = true ↔ key ∈ plan.associationRoleRows.map (·.key) := by
  rw [target?, List.lookup_isSome_iff, List.mem_map]
  constructor
  · rintro ⟨_, hentry, hkey⟩
    obtain ⟨row, hrow, rfl⟩ := List.mem_map.mp hentry
    exact ⟨row, hrow, (beq_iff_eq.mp hkey).symm⟩
  · rintro ⟨row, hrow, rfl⟩
    exact ⟨row.entry, List.mem_map_of_mem hrow, beq_self_eq_true _⟩

/-- The statements of a plan seed its roles. -/
theorem targetAfter_tableStatements (plan : BuiltSchema) (key : String × String)
    (target : Option String) :
    targetAfter (tableStatements plan) key target = (plan.target? key).or target := by
  -- only the seed has role rows
  have hnone : ∀ stmts : List TableStatement, (∀ stmt ∈ stmts, stmt.roleRows = []) →
      ∀ target, targetAfter stmts key target = target := by
    intro stmts
    induction stmts with
    | nil => exact fun _ _ => rfl
    | cons stmt stmts ih =>
      intro h target
      rw [List.forall_mem_cons] at h
      rw [targetAfter, List.foldl_cons, h.1]
      exact ih h.2 target
  have happend : ∀ stmts stmts' target, targetAfter (stmts ++ stmts') key target =
      targetAfter stmts' key (targetAfter stmts key target) :=
    fun stmts stmts' target => List.foldl_append
  have hseed : ∀ target, targetAfter (if plan.associationRoleRows.isEmpty then []
      else [.seedAssociationRole plan.associationRoleRows, associationIndexDdl]) key target =
        (plan.target? key).or target := by
    intro target
    rw [BuiltSchema.target?]
    cases plan.associationRoleRows with
    | nil => rfl
    | cons row rows => rfl
  rw [tableStatements, happend, hnone (plan.collections.flatMap _), happend, hseed, hnone]
  · intro stmt hstmt
    simp only [List.mem_append, List.mem_cons, List.mem_map, List.not_mem_nil, or_false] at hstmt
    rcases hstmt with (((rfl | rfl | rfl | rfl | rfl | rfl) | hstmt) | ⟨coll, -, rfl⟩) | rfl
    all_goals try rfl
    split at hstmt
    · exact absurd hstmt List.not_mem_nil
    · rcases List.mem_pair.mp hstmt with rfl | rfl
      · rfl
      · rfl
  · intro stmt hstmt
    obtain ⟨coll, -, hstmt⟩ := List.mem_flatMap.mp hstmt
    rcases List.mem_cons.mp hstmt with rfl | hstmt
    · rfl
    · obtain ⟨i, hi, rfl⟩ := List.mem_mapIdx.mp hstmt
      rfl

/-! ### The guard -/

theorem Schema.blocking_eq_nil_iff (plan : BuiltSchema) (s : Schema Geometry) :
    s.blocking plan = [] ↔
      ∀ l ∈ s.db.association, (plan.target? (l.source.collection, l.property)).isSome = true := by
  simp only [blocking, List.filterMap_eq_nil_iff, Ordered.mem_list, Finset.mem_image,
    Finset.mem_sdiff, Finmap.mem_keys, List.mem_toFinset, BuiltSchema.isSome_target?,
    ite_eq_right_iff, reduceCtorEq, imp_false, Nat.not_lt, Nat.le_zero, Finset.card_eq_zero]
  constructor
  · intro h l hl
    by_contra hremoved
    have hnone := h (toLex (l.source.collection, l.property))
      ⟨_, ⟨s.links_have_roles l hl, hremoved⟩, rfl⟩
    exact Finset.notMem_empty l (hnone ▸ Finset.mem_filter.mpr ⟨hl, rfl, rfl⟩)
  · rintro h _ ⟨key, ⟨-, hremoved⟩, rfl⟩
    refine Finset.eq_empty_of_forall_notMem fun l hl => hremoved ?_
    obtain ⟨hl, hsource, hproperty⟩ := Finset.mem_filter.mp hl
    have hkey := h l hl
    rw [hsource, hproperty] at hkey
    exact hkey

/-- **The guard** passes when no link has a property that the plan lacks. -/
theorem guardAssociationRoleRemoval_eq_ok (plan : BuiltSchema) (s : Schema Geometry) :
    s.guardAssociationRoleRemoval plan = .ok () ↔
      ∀ l ∈ s.db.association, (plan.target? (l.source.collection, l.property)).isSome = true := by
  rw [Schema.guardAssociationRoleRemoval]
  split
  · next hnone =>
    -- without the catalogue there are no links
    refine iff_of_true rfl fun l hl => ?_
    obtain ⟨columns, hcolumns⟩ := s.roles_in_table _ (s.links_have_roles l hl)
    rw [Schema.relation?, hcolumns] at hnone
    cases hnone
  · rw [← s.blocking_eq_nil_iff]
    dsimp only
    split
    · next h => exact iff_of_false (by simp) h
    · next h => exact iff_of_true rfl (not_not.mp h)

/-- **`apply_tables`** raises and leaves the schema, or seeds the roles. -/
theorem applyTables_spec (server : Server) (plan : BuiltSchema) (s : Schema Geometry) :
    (((∃ l ∈ s.db.association, plan.target? (l.source.collection, l.property) = none) ∨
        Refused server (tableStatements plan) s.relation?) ∧
      ∃ e, applyTables server plan s = (.error e, s)) ∨
    ((∀ l ∈ s.db.association, (plan.target? (l.source.collection, l.property)).isSome = true) ∧
      ¬ Refused server (tableStatements plan) s.relation? ∧
      ∃ s', applyTables server plan s = (.ok (), s') ∧ s'.db = s.db ∧
        ∀ key, s'.roles.lookup key = (plan.target? key).or (s.roles.lookup key)) := by
  have houtcome : applyTables server plan s =
      match (s.guardAssociationRoleRemoval plan).bind fun _ =>
        applyStatements server (tableStatements plan) s with
      | .ok s' => (.ok (), s')
      | .error e => (.error e, s) := by
    -- the savepoints of the loop, as `applyStatements`
    have hbody : (fun _ : Unit => ((tableStatements plan).forM fun stmt =>
        Session.catching ApplyError.isDuplicateObject <| Session.transaction <|
          Session.execute fun s => (s.exec server stmt).mapError .sql).outcome s) =
        fun _ => (applyStatements server (tableStatements plan) s).map fun s' => ((), s') :=
      funext fun _ => Session.outcome_forM ApplyError.isDuplicateObject
        (fun stmt (s : Schema Geometry) => (s.exec server stmt).mapError ApplyError.sql) _ s
    rw [applyTables, Session.transaction_eq, Session.outcome_select_bind, hbody]
    cases s.guardAssociationRoleRemoval plan with
    | error e => rfl
    | ok _ => cases applyStatements server (tableStatements plan) s <;> rfl
  cases hguard : s.guardAssociationRoleRemoval plan with
  | error e =>
    rw [hguard] at houtcome
    refine .inl ⟨.inl ?_, e, houtcome⟩
    -- the guard refuses a role that links still use
    have hfails : ¬ ∀ l ∈ s.db.association,
        (plan.target? (l.source.collection, l.property)).isSome = true := by
      rw [← guardAssociationRoleRemoval_eq_ok, hguard]
      simp
    simpa using hfails
  | ok _ =>
    have hpasses := (guardAssociationRoleRemoval_eq_ok plan s).mp hguard
    rw [hguard] at houtcome
    obtain ⟨hrefused, e, he⟩ | ⟨hrefused, s', hs', hdb, hroles⟩ :=
      applyStatements_spec server (tableStatements plan) s
    · refine .inl ⟨.inr hrefused, e, houtcome.trans ?_⟩
      rw [Except.bind, he]
    · refine .inr ⟨hpasses, hrefused, s', houtcome.trans ?_, hdb, fun key => ?_⟩
      · rw [Except.bind, hs']
      · rw [hroles, targetAfter_tableStatements]

/-! ### Links -/

/-- `apply_tables` leaves the schema, or every link with its role and its target. -/
def OrphansNothing (server : Server) (plan : BuiltSchema) (s : Schema Geometry) : Prop :=
  match applyTables server plan s with
  | (.error _, after) => after = s
  | (.ok _, after) => after.Resolves

/-- A link whose property moves to another collection finds its target there. -/
def KeepsTargets (plan : BuiltSchema) (s : Schema Geometry) : Prop :=
  ∀ l ∈ s.db.association, ∀ target, plan.target? (l.source.collection, l.property) = some target →
    s.target? l ≠ some ⟨target, l.targetId⟩ → (s.db.row? ⟨target, l.targetId⟩).isSome = true

/-- **When no link is orphaned**: a link has a property that the plan lacks, the
server refuses a statement, or no link is moved away from its target. -/
theorem orphansNothing_iff (server : Server) (plan : BuiltSchema) (s : Schema Geometry)
    (hresolves : s.Resolves) :
    OrphansNothing server plan s ↔
      (∃ l ∈ s.db.association, plan.target? (l.source.collection, l.property) = none) ∨
        Refused server (tableStatements plan) s.relation? ∨ KeepsTargets plan s := by
  obtain ⟨hraises, e, he⟩ | ⟨hpasses, hrefused, s', hs', hdb, hroles⟩ :=
    applyTables_spec server plan s
  · rw [OrphansNothing, he]
    exact iff_of_true rfl (hraises.imp_right .inl)
  · have hremoved : ¬ ∃ l ∈ s.db.association,
        plan.target? (l.source.collection, l.property) = none := by
      rintro ⟨l, hl, hnone⟩
      have hsome := hpasses l hl
      rw [hnone] at hsome
      cases hsome
    rw [OrphansNothing, hs', or_iff_right hremoved, or_iff_right hrefused]
    -- every property of a link is in the plan, which says its target
    have htarget : ∀ l ∈ s.db.association, ∀ target,
        plan.target? (l.source.collection, l.property) = some target →
          s'.target? l = some ⟨target, l.targetId⟩ := by
      intro l hl target htarget
      rw [Schema.target?, hroles, htarget]
      rfl
    constructor
    · intro hresolves' l hl target htarget' _
      obtain ⟨t, ht, hrow⟩ := hresolves' l (hdb ▸ hl)
      rw [htarget l hl target htarget'] at ht
      cases ht
      rw [← hdb]
      exact hrow
    · intro hkeeps l hl
      rw [hdb] at hl ⊢
      obtain ⟨target, htarget'⟩ := Option.isSome_iff_exists.mp (hpasses l hl)
      refine ⟨_, htarget l hl target htarget', ?_⟩
      by_cases hmoved : s.target? l = some ⟨target, l.targetId⟩
      · obtain ⟨t, ht, hrow⟩ := hresolves l hl
        rw [hmoved] at ht
        cases ht
        exact hrow
      · exact hkeeps l hl target htarget' hmoved

/-- The rows that calls leave in a deployed schema. -/
def Schema.withRows (s : Schema Geometry) (db : Db Geometry)
    (h : ∀ l ∈ db.association, (l.source.collection, l.property) ∈ s.roles) : Schema Geometry where
  relations := s.relations
  featureModels := s.featureModels
  roles := s.roles
  db := db
  roles_in_table := s.roles_in_table
  links_have_roles := h

/-! ### A cadastre whose buildings stand on something else -/

namespace Sample

/-- A server that accepts everything. -/
def server : Server where
  createExtension _ := .ok ()
  createTable _ _ := .ok ()
  createIndex _ _ := .ok ()

theorem parcels_safe : isSafeIdentifier "parcels" = true := by decide

theorem buildings_safe : isSafeIdentifier "buildings" = true := by decide

theorem cadastre_safe : isSafeIdentifier "cadastre" = true := by decide

/-- Parcels, and buildings on rows of a collection. -/
def cadastreOn (target : SafeIdentifier) : DatasetDef where
  name := ⟨"cadastre", cadastre_safe⟩
  collections := [
    { name := ⟨"parcels", parcels_safe⟩
      bounds := none
      geometry := { type := .multiPolygon, derived := none, derived_type := fun _ => rfl }
      serverManaged := []
      bounds_value := no_bounds
      fields_valid := no_fields
      serverManaged_nodup := List.nodup_nil },
    { name := ⟨"buildings", buildings_safe⟩
      bounds := none
      geometry := { type := .multiPolygon, derived := none, derived_type := fun _ => rfl }
      relationships := [⟨"parcel", target⟩]
      serverManaged := []
      bounds_value := no_bounds
      fields_valid := no_fields
      serverManaged_nodup := List.nodup_nil }]

def resolvedOn (target : String) : ResolvedDataset :=
  ⟨"cadastre", [], [
    { name := "parcels", featureModel := .simple, geometryType := .multiPolygon, srid := 4326
      fields := [], relationships := [] },
    { name := "buildings", featureModel := .simple, geometryType := .multiPolygon, srid := 4326
      fields := [], relationships := [⟨"parcel", target⟩] }]⟩

def builtOn (target : String) : BuiltSchema :=
  ⟨"cadastre", [⟨parcels, []⟩, ⟨{ buildings with roles := [⟨"parcel", target, "id"⟩] }, []⟩],
    [⟨"buildings", "parcel", target⟩]⟩

/-- The first description, deployed. -/
def deployed : Schema Unit := (applyTables server (builtOn "parcels") Schema.empty).2

theorem applyTables_deployed :
    applyTables server (builtOn "parcels") Schema.empty = (.ok (), deployed) := by
  obtain ⟨hraises, -⟩ | ⟨-, -, s', hs', -⟩ :=
    applyTables_spec server (builtOn "parcels") (Schema.empty : Schema Unit)
  · obtain ⟨l, hl, -⟩ | hrefused := hraises
    · exact absurd hl (Finset.notMem_empty l)
    · have haccepts : ¬ Refused server (tableStatements (builtOn "parcels"))
          (Schema.empty : Schema Unit).relation? := by decide +kernel
      exact absurd hrefused haccepts
  · rw [deployed, hs']

/-- The link of a building. -/
def onParcel : Link := ⟨⟨"buildings", 2⟩, "parcel", 1⟩

/-- A building on its parcel, written by two calls. -/
theorem run_directly : ∃ db, Runs.run (callStep gis (fun _ => some cadastre) "cadastre") Db.empty
      directly = some db ∧ db.association = {onParcel} ∧
    (db.row? ⟨"parcels", 1⟩).isSome = true ∧ (db.row? ⟨"buildings", 1⟩).isSome = false := by
  obtain ⟨db, hrun, hwritten⟩ : ∃ db ∈ Runs.run
      (callStep gis (fun _ => some cadastre) "cadastre") Db.empty directly,
      db.association = {onParcel} ∧ (db.row? ⟨"parcels", 1⟩).isSome = true ∧
        (db.row? ⟨"buildings", 1⟩).isSome = false := by decide +kernel
  exact ⟨db, hrun, hwritten⟩

/-- The role of the link is deployed. -/
theorem role_onParcel : deployed.roles.lookup ("buildings", "parcel") = some "parcels" := by
  decide +kernel

theorem links_have_roles {db : Db Unit} (h : db.association = {onParcel}) :
    ∀ l ∈ db.association, (l.source.collection, l.property) ∈ deployed.roles := by
  intro l hl
  rw [h, Finset.mem_singleton] at hl
  subst hl
  exact Finmap.mem_of_lookup_eq_some role_onParcel

theorem resolves_deployed {db : Db Unit} (h : db.association = {onParcel})
    (hparcel : (db.row? ⟨"parcels", 1⟩).isSome = true) :
    (deployed.withRows db (links_have_roles h)).Resolves := by
  intro l hl
  have hl : l ∈ db.association := hl
  rw [h, Finset.mem_singleton] at hl
  subst hl
  refine ⟨⟨"parcels", 1⟩, ?_, hparcel⟩
  exact congrArg (Option.map fun target => Ref.mk target 1) role_onParcel

end Sample

open Sample in
/-- Applied again, the first description keeps the building on its parcel. -/
theorem orphansNothing_iff_sample : ∃ db h,
    applyTables server (builtOn "parcels") Schema.empty = (.ok (), deployed) ∧
    Runs.run (callStep gis (fun _ => some cadastre) "cadastre") Db.empty directly = some db ∧
    OrphansNothing server (builtOn "parcels") (deployed.withRows db h) := by
  obtain ⟨db, hrun, hlink, hparcel, -⟩ := run_directly
  refine ⟨db, links_have_roles hlink, applyTables_deployed, hrun,
    (orphansNothing_iff server (builtOn "parcels") _ (resolves_deployed hlink hparcel)).mpr
      (.inr (.inr ?_))⟩
  intro l hl target htarget hmoved
  have hl : l ∈ db.association := hl
  rw [hlink, Finset.mem_singleton] at hl
  subst hl
  cases htarget
  exact absurd (congrArg (Option.map fun target => Ref.mk target 1) role_onParcel) hmoved

open Sample in
/-- With the second one the parcel is looked for among the buildings. -/
theorem retargeted_link_orphaned :
    (resolveDataset (cadastreOn ⟨"parcels", parcels_safe⟩) noCommons = .ok (resolvedOn "parcels") ∧
      buildSchemaPlan (resolvedOn "parcels") = .ok (builtOn "parcels")) ∧
    (resolveDataset (cadastreOn ⟨"buildings", buildings_safe⟩) noCommons =
      .ok (resolvedOn "buildings") ∧
      buildSchemaPlan (resolvedOn "buildings") = .ok (builtOn "buildings")) ∧
    applyTables server (builtOn "parcels") Schema.empty = (.ok (), deployed) ∧
    ∃ db h, Runs.run (callStep gis (fun _ => some cadastre) "cadastre") Db.empty directly = some db ∧
      (deployed.withRows db h).Resolves ∧
      ¬ OrphansNothing server (builtOn "buildings") (deployed.withRows db h) := by
  obtain ⟨db, hrun, hlink, hparcel, hbuilding⟩ := run_directly
  refine ⟨⟨rfl, rfl⟩, ⟨rfl, rfl⟩, applyTables_deployed, db, links_have_roles hlink, hrun,
    resolves_deployed hlink hparcel, ?_⟩
  obtain ⟨⟨l, hl, hnone⟩ | hrefused, -⟩ | ⟨-, -, s', hs', hdb, hroles⟩ :=
    applyTables_spec server (builtOn "buildings") (deployed.withRows db (links_have_roles hlink))
  · have hl : l ∈ db.association := hl
    rw [hlink, Finset.mem_singleton] at hl
    subst hl
    cases hnone
  · have haccepts : ¬ Refused server (tableStatements (builtOn "buildings"))
        deployed.relation? := by decide +kernel
    exact absurd hrefused haccepts
  · rw [OrphansNothing, hs']
    intro hresolves
    have hl : onParcel ∈ s'.db.association := by
      rw [hdb]
      exact hlink ▸ Finset.mem_singleton_self onParcel
    obtain ⟨t, ht, hrow⟩ := hresolves onParcel hl
    rw [Schema.target?, hroles] at ht
    cases ht
    rw [hdb] at hrow
    exact Bool.false_ne_true (hbuilding.symm.trans hrow)

end Geocomponents
