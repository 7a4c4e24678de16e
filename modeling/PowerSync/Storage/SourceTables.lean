import PowerSync.Replication.SaveOperation

/-!
# Source tables and `resolveTable`

`PostgresSyncRulesStorage.resolveTable` maps a table that replication meets to its row in
`source_tables`, in one transaction.  It looks for a row of the same sync rules group and
connection with the same schema, name and replica identity columns, and with the same
relation id when the source database gives one; when there is none it inserts a row under
a fresh `uuid.v4()`.  It then returns, as the tables to drop, every other row of the group
and connection with the same schema and name, or, when there is a relation id, the same
relation id: the table was renamed, or its replica identity changed.  The caller drops them
with `BucketStorageBatch.drop`, which truncates their data and deletes their rows.

## What is proved

* `SourceTables.run_keys_unique`: over any sequence of such resolve-and-drop steps, the
  rows of one group and connection never share a schema-qualified name or a relation id,
  and no two rows share an id.
* `SourceTables.run_keeps_other_sources`: such steps never delete a row of another group or
  connection, even one with the same name and relation id, as when sync rules are
  reprocessed.  The drop deletes by id, so this rests on the ids being distinct.
* `SourceTables.resolveTable_again`: resolving a table again right after resolving it finds
  the same row, drops nothing and inserts nothing.  It follows from `resolveTable_of_mem`:
  in such a state, `resolveTable` of a table that has its row is a lookup.
-/

namespace PowerSync

/-! ## Descriptors, rows and tables -/

/-- The `objectId` of a `SourceEntityDescriptor`: `string | number`. -/
inductive ObjectId where
  | num (n : Nat)
  | str (s : String)
deriving DecidableEq, Repr

/-- `ColumnDescriptor`: a replica identity column as the source database describes it. -/
structure ColumnDescriptor where
  name : String
  type : Option String
  typeId : Option Nat
deriving DecidableEq, Repr

/-- An element of `source_tables.replica_id_columns`. -/
structure ReplicaIdColumn where
  name : String
  type : Option String
  type_oid : Option Nat
deriving DecidableEq, Repr

/-- The map `normalizedReplicaIdColumns` of `resolveTable` applies: `typeId` is stored as
`type_oid`, a number. -/
def ColumnDescriptor.normalize (c : ColumnDescriptor) : ReplicaIdColumn :=
  ⟨c.name, c.type, c.typeId⟩

/-- `SourceEntityDescriptor`. -/
structure SourceEntityDescriptor where
  objectId : Option ObjectId
  schema : String
  name : String
  replicaIdColumns : List ColumnDescriptor
deriving DecidableEq, Repr

/-- A row of `source_tables`, decoded.  `relation_id` is the stored `{ object_id }`, `none`
when `object_id` is absent. -/
structure SourceTableRow where
  id : String
  group_id : Nat
  connection_id : Nat
  relation_id : Option ObjectId
  schema_name : String
  table_name : String
  replica_id_columns : List ReplicaIdColumn
  snapshot_done : Option Bool
  snapshot_total_estimated_count : Option Int
  snapshot_replicated_count : Option Nat
  snapshot_last_key : Option (List UInt8)
deriving DecidableEq, Repr

/-- The sync rules' `tableTriggersEvent`, `tableSyncsData` and `tableSyncsParameters`.
Modelled from the spec: they match a table's connection tag, schema and name against the
rules' table patterns, and are taken here as functions of those three. -/
structure TableSyncRules where
  tableTriggersEvent : String → String → String → Bool
  tableSyncsData : String → String → String → Bool
  tableSyncsParameters : String → String → String → Bool

/-- `storage.ResolveTableOptions`. -/
structure ResolveTableOptions where
  group_id : Nat
  connection_id : Nat
  connection_tag : String
  entity_descriptor : SourceEntityDescriptor
  sync_rules : TableSyncRules

/-- `snapshotStatus` of a table whose snapshot is not done. -/
structure SnapshotStatus where
  totalEstimatedCount : Int
  replicatedCount : Nat
  lastKey : Option (List UInt8)
deriving DecidableEq, Repr

/-- `storage.SourceTable`, with the fields `resolveTable` sets.  `SourceTable` keeps the
ones `saveOperation` reads (`StorageSourceTable.toSourceTable`). -/
structure StorageSourceTable where
  id : String
  connectionTag : String
  objectId : Option ObjectId
  schema : String
  name : String
  replicaIdColumns : List ColumnDescriptor
  snapshotComplete : Bool
  snapshotStatus : Option SnapshotStatus
  syncEvent : Bool
  syncData : Bool
  syncParameters : Bool
deriving DecidableEq, Repr

/-- The `SourceTable` that `saveOperation` reads. -/
def StorageSourceTable.toSourceTable (t : StorageSourceTable) : SourceTable :=
  ⟨t.id, t.syncData, t.syncParameters⟩

/-- A table of `dropTables`: the `storage.SourceTable` built from a truncated row. -/
structure DroppedTable where
  id : String
  connectionTag : String
  objectId : ObjectId
  schema : String
  name : String
  snapshotComplete : Bool
deriving DecidableEq, Repr

/-- `storage.ResolveTableResult`. -/
structure ResolveTableResult where
  table : StorageSourceTable
  dropTables : List DroppedTable

/-! ## `resolveTable` -/

/-- The first query: a row of the group and connection with the descriptor's schema, name and
replica identity columns, and its relation id when `objectId != null`. -/
def matchesRow (o : ResolveTableOptions) (r : SourceTableRow) : Bool :=
  let d := o.entity_descriptor
  r.group_id == o.group_id && r.connection_id == o.connection_id &&
    (match d.objectId with
      | some objectId => r.relation_id == some objectId
      | none => true) &&
    r.schema_name == d.schema && r.table_name == d.name &&
    r.replica_id_columns == d.replicaIdColumns.map ColumnDescriptor.normalize

/-- The row the `INSERT` writes, under the id `uuid.v4()` returned. -/
def insertedRow (uuid : String) (o : ResolveTableOptions) : SourceTableRow :=
  let d := o.entity_descriptor
  ⟨uuid, o.group_id, o.connection_id, d.objectId, d.schema, d.name,
    d.replicaIdColumns.map ColumnDescriptor.normalize, none, none, none, none⟩

/-- The row found by the first query, or inserted, and the table after. -/
def findOrInsert (rows : List SourceTableRow) (uuid : String) (o : ResolveTableOptions) :
    SourceTableRow × List SourceTableRow :=
  match rows.find? (matchesRow o) with
  | some row => (row, rows)
  | none => (insertedRow uuid o, rows ++ [insertedRow uuid o])

/-- The `storage.SourceTable` built from the row found or inserted. -/
def sourceTable (o : ResolveTableOptions) (row : SourceTableRow) : StorageSourceTable :=
  let d := o.entity_descriptor
  let snapshotComplete := row.snapshot_done.getD true
  { id := row.id
    connectionTag := o.connection_tag
    objectId := d.objectId
    schema := d.schema
    name := d.name
    replicaIdColumns := d.replicaIdColumns
    snapshotComplete := snapshotComplete
    snapshotStatus := if snapshotComplete then none else
      some ⟨row.snapshot_total_estimated_count.getD (-1), row.snapshot_replicated_count.getD 0,
        row.snapshot_last_key⟩
    syncEvent := o.sync_rules.tableTriggersEvent o.connection_tag d.schema d.name
    syncData := o.sync_rules.tableSyncsData o.connection_tag d.schema d.name
    syncParameters := o.sync_rules.tableSyncsParameters o.connection_tag d.schema d.name }

/-- The second query: another row of the group and connection with the descriptor's relation
id or with its schema and name; only the name when `objectId` is absent. -/
def truncates (o : ResolveTableOptions) (id : String) (r : SourceTableRow) : Bool :=
  let d := o.entity_descriptor
  r.group_id == o.group_id && r.connection_id == o.connection_id && r.id != id &&
    match d.objectId with
    | some objectId =>
        r.relation_id == some objectId || (r.schema_name == d.schema && r.table_name == d.name)
    | none => r.schema_name == d.schema && r.table_name == d.name

/-- A truncated row as a table to drop. -/
def droppedTable (connection_tag : String) (doc : SourceTableRow) : DroppedTable :=
  ⟨doc.id, connection_tag, doc.relation_id.getD (.num 0), doc.schema_name, doc.table_name,
    doc.snapshot_done.getD true⟩

/-- `PostgresSyncRulesStorage.resolveTable`, with `uuid` the id `uuid.v4()` returns: the
result and `source_tables` after the transaction. -/
def resolveTable (rows : List SourceTableRow) (uuid : String) (o : ResolveTableOptions) :
    ResolveTableResult × List SourceTableRow :=
  let (row, rows) := findOrInsert rows uuid o
  (⟨sourceTable o row, (rows.filter (truncates o row.id)).map (droppedTable o.connection_tag)⟩,
    rows)

@[simp] theorem droppedTable_id (tag : String) (doc : SourceTableRow) :
    (droppedTable tag doc).id = doc.id := rfl

@[simp] theorem sourceTable_id (o : ResolveTableOptions) (row : SourceTableRow) :
    (sourceTable o row).id = row.id := rfl

/-! ## Keys

A row is found by its group, connection, schema and name (`nameKey`), and by its relation id
within its group and connection (`relationKey`).  The options carry the same keys. -/

/-- The group, connection, schema and name of a row. -/
def nameKey (r : SourceTableRow) : Nat × Nat × String × String :=
  (r.group_id, r.connection_id, r.schema_name, r.table_name)

/-- The group, connection and relation id of a row, if it has one. -/
def relationKey (r : SourceTableRow) : Option (Nat × Nat × ObjectId) :=
  r.relation_id.map (r.group_id, r.connection_id, ·)

/-- The `nameKey` of the table the options describe. -/
def ResolveTableOptions.nameKey (o : ResolveTableOptions) : Nat × Nat × String × String :=
  (o.group_id, o.connection_id, o.entity_descriptor.schema, o.entity_descriptor.name)

/-- The `relationKey` of the table the options describe. -/
def ResolveTableOptions.relationKey (o : ResolveTableOptions) : Option (Nat × Nat × ObjectId) :=
  o.entity_descriptor.objectId.map (o.group_id, o.connection_id, ·)

section Keys

variable {o : ResolveTableOptions} {r : SourceTableRow}

@[simp] theorem nameKey_insertedRow (uuid : String) : nameKey (insertedRow uuid o) = o.nameKey :=
  rfl

@[simp] theorem relationKey_insertedRow (uuid : String) :
    relationKey (insertedRow uuid o) = o.relationKey := rfl

theorem nameKey_of_matchesRow (h : matchesRow o r = true) : nameKey r = o.nameKey := by
  simp only [matchesRow, Bool.and_eq_true, beq_iff_eq] at h
  simp [nameKey, ResolveTableOptions.nameKey, h]

theorem relationKey_of_matchesRow (h : matchesRow o r = true) (hsome : o.relationKey.isSome) :
    relationKey r = o.relationKey := by
  obtain ⟨x, hx⟩ := Option.isSome_iff_exists.1 hsome
  obtain ⟨objectId, hd, rfl⟩ := Option.map_eq_some'.1 hx
  simp only [matchesRow, hd, Bool.and_eq_true, beq_iff_eq] at h
  simp [relationKey, ResolveTableOptions.relationKey, h, hd]

/-- What the second query selects, in terms of the keys. -/
theorem truncates_eq_true {id : String} :
    truncates o id r = true ↔ r.id ≠ id ∧
      (nameKey r = o.nameKey ∨ o.relationKey.isSome ∧ relationKey r = o.relationKey) := by
  unfold truncates nameKey relationKey ResolveTableOptions.nameKey ResolveTableOptions.relationKey
  cases hd : o.entity_descriptor.objectId <;> simp [hd] <;> aesop

theorem truncates_self : truncates o r.id r = false :=
  Bool.eq_false_iff.2 fun h ↦ (truncates_eq_true.1 h).1 rfl

theorem truncates_eq_false_of_ne {id : String}
    (h : (r.group_id, r.connection_id) ≠ (o.group_id, o.connection_id)) :
    truncates o id r = false := by
  refine Bool.eq_false_iff.2 fun ht ↦ h ?_
  simp only [truncates, Bool.and_eq_true, beq_iff_eq] at ht
  rw [ht.1.1.1, ht.1.1.2]

end Keys

/-! ## The table over resolve-and-drop steps -/

/-- One `resolveTable` call, with the id `uuid.v4()` returns there. -/
structure ResolveRequest where
  options : ResolveTableOptions
  uuid : String

namespace SourceTables

/-- `BucketStorageBatch.drop`, as it changes `source_tables`: the row of each table is
deleted. -/
def drop (rows : List SourceTableRow) (tables : List DroppedTable) : List SourceTableRow :=
  rows.filter fun r ↦ r.id ∉ tables.map (·.id)

/-- `resolveTable`, then `drop` of the tables it returns.  A `uuid.v4()` that is already a
row's id does not occur, and such a request changes nothing. -/
def step (rows : List SourceTableRow) (req : ResolveRequest) : List SourceTableRow :=
  if req.uuid ∈ rows.map (·.id) then rows
  else
    let (result, rows) := resolveTable rows req.uuid req.options
    drop rows result.dropTables

/-- A sequence of steps. -/
def run (rows : List SourceTableRow) (reqs : List ResolveRequest) : List SourceTableRow :=
  reqs.foldl step rows

/-- The invariant of `source_tables`: distinct ids, and within a group and connection
distinct schema-qualified names and distinct relation ids. -/
structure Good (rows : List SourceTableRow) : Prop where
  nodup_ids : (rows.map (·.id)).Nodup
  unique_names : ∀ r ∈ rows, ∀ r' ∈ rows, nameKey r = nameKey r' → r = r'
  unique_relations : ∀ r ∈ rows, ∀ r' ∈ rows, (relationKey r).isSome →
    relationKey r = relationKey r' → r = r'

instance (rows : List SourceTableRow) : Decidable (Good rows) :=
  decidable_of_iff (_ ∧ _ ∧ _)
    ⟨fun ⟨h₁, h₂, h₃⟩ ↦ ⟨h₁, h₂, h₃⟩, fun ⟨h₁, h₂, h₃⟩ ↦ ⟨h₁, h₂, h₃⟩⟩

section Step

variable {rows : List SourceTableRow} {uuid : String} {o : ResolveTableOptions}

/-- The row found or inserted, and the table after the insert. -/
theorem findOrInsert_spec (hg : Good rows) (hu : uuid ∉ rows.map (·.id)) :
    let p := findOrInsert rows uuid o
    (p.2.map (·.id)).Nodup ∧ p.1 ∈ p.2 ∧ (∀ r ∈ p.2, r ∈ rows ∨ r = p.1) ∧
      matchesRow o p.1 = true ∧ (p.1 ∈ rows ∨ relationKey p.1 = o.relationKey) := by
  unfold findOrInsert
  split
  · next row hrow =>
    exact ⟨hg.nodup_ids, List.mem_of_find?_eq_some hrow, fun r hr ↦ .inl hr,
      List.find?_some hrow, .inl (List.mem_of_find?_eq_some hrow)⟩
  · next hnone =>
    refine ⟨?_, by simp, by simp [or_comm], ?_, .inr rfl⟩
    · simpa [List.nodup_append, hg.nodup_ids] using hu
    · unfold matchesRow insertedRow
      cases hd : o.entity_descriptor.objectId <;> simp [hd]

/-- After dropping what the second query returned, no row of `rows` conflicts with `row`. -/
theorem not_truncates_of_mem_drop {rows : List SourceTableRow} {row r : SourceTableRow}
    (hr : r ∈ drop rows ((rows.filter (truncates o row.id)).map (droppedTable o.connection_tag))) :
    r ∈ rows ∧ truncates o row.id r = false := by
  simp only [drop, List.map_map, List.mem_filter, decide_eq_true_eq] at hr
  refine ⟨hr.1, Bool.eq_false_iff.2 fun ht ↦ hr.2 ?_⟩
  exact List.mem_map.2 ⟨r, List.mem_filter.2 ⟨hr.1, ht⟩, rfl⟩

/-- Ids are distinct, so a row survives the drop unless the second query selected it. -/
theorem mem_drop_of_not_truncates {rows : List SourceTableRow} {id : String} {r : SourceTableRow}
    (hnodup : (rows.map (·.id)).Nodup) (hr : r ∈ rows) (ht : truncates o id r = false) :
    r ∈ drop rows ((rows.filter (truncates o id)).map (droppedTable o.connection_tag)) := by
  simp only [drop, List.mem_filter, hr, true_and, decide_eq_true_eq, List.map_map, List.mem_map,
    Function.comp_def, droppedTable_id, not_exists, not_and]
  exact fun x hx hid ↦
    Bool.false_ne_true (ht.symm.trans (List.inj_on_of_nodup_map hnodup hx.1 hr hid ▸ hx.2))

theorem subset_findOrInsert : rows ⊆ (findOrInsert rows uuid o).2 := by
  unfold findOrInsert
  split
  · exact List.Subset.refl _
  · exact List.subset_append_left _ _

/-- A resolve-and-drop step with a fresh id keeps the found or inserted row and leaves it the
only row with its name, and with its relation id. -/
theorem step_spec (hg : Good rows) (hu : uuid ∉ rows.map (·.id)) :
    let row := (findOrInsert rows uuid o).1
    let rows' := step rows ⟨o, uuid⟩
    (rows'.map (·.id)).Nodup ∧ row ∈ rows' ∧ (∀ r ∈ rows', r ∈ rows ∨ r = row) ∧
      (∀ r ∈ rows', r ≠ row → nameKey r ≠ o.nameKey ∧
        (o.relationKey.isSome → relationKey r ≠ o.relationKey)) := by
  obtain ⟨hnodup, hmem, hsub, -, -⟩ := findOrInsert_spec (o := o) hg hu
  simp only [step, if_neg hu, resolveTable]
  refine ⟨hnodup.sublist ((List.filter_sublist _).map _),
    mem_drop_of_not_truncates hnodup hmem truncates_self,
    fun r hr ↦ hsub r (not_truncates_of_mem_drop hr).1, fun r hr hne ↦ ?_⟩
  obtain ⟨hr', htr⟩ := not_truncates_of_mem_drop hr
  have hid : r.id ≠ (findOrInsert rows uuid o).1.id :=
    fun h ↦ hne (List.inj_on_of_nodup_map hnodup hr' hmem h)
  have hnt := fun h ↦ Bool.false_ne_true (htr.symm.trans (truncates_eq_true.2 h))
  exact ⟨fun h ↦ hnt ⟨hid, .inl h⟩, fun hs h ↦ hnt ⟨hid, .inr ⟨hs, h⟩⟩⟩

theorem step_good (hg : Good rows) (req : ResolveRequest) : Good (step rows req) := by
  obtain ⟨o, uuid⟩ := req
  by_cases hu : uuid ∈ rows.map (·.id)
  · simpa [step, hu] using hg
  obtain ⟨hnodup, -, hsub, hconf⟩ := step_spec (o := o) hg hu
  obtain ⟨-, -, -, hmatch, hnew⟩ := findOrInsert_spec (o := o) hg hu
  set row := (findOrInsert rows uuid o).1
  -- a row of the new table that shares `row`'s name, or relation id, is `row`
  have hname : ∀ r ∈ step rows ⟨o, uuid⟩, nameKey r = nameKey row → r = row :=
    fun r hr h ↦ by_contra fun hne ↦ (hconf r hr hne).1 (h.trans (nameKey_of_matchesRow hmatch))
  have hrel : ∀ r ∈ step rows ⟨o, uuid⟩, (relationKey r).isSome → row ∉ rows →
      relationKey r = relationKey row → r = row := by
    intro r hr hs hrow h
    have hkey := hnew.resolve_left hrow
    exact by_contra fun hne ↦ (hconf r hr hne).2 (hkey ▸ h ▸ hs) (h.trans hkey)
  refine ⟨hnodup, fun r hr r' hr' h ↦ ?_, fun r hr r' hr' hs h ↦ ?_⟩
  · rcases hsub r hr with hr0 | rfl
    · rcases hsub r' hr' with hr0' | rfl
      · exact hg.unique_names r hr0 r' hr0' h
      · exact hname r hr h
    · exact (hname r' hr' h.symm).symm
  · by_cases hrow : row ∈ rows
    · have hold : ∀ r ∈ step rows ⟨o, uuid⟩, r ∈ rows := fun r hr ↦
        (hsub r hr).elim id fun h ↦ h ▸ hrow
      exact hg.unique_relations r (hold r hr) r' (hold r' hr') hs h
    rcases hsub r hr with hr0 | rfl
    · rcases hsub r' hr' with hr0' | rfl
      · exact hg.unique_relations r hr0 r' hr0' hs h
      · exact hrel r hr hs hrow h
    · exact (hrel r' hr' (h ▸ hs) hrow h.symm).symm

end Step

theorem run_keys_unique {rows : List SourceTableRow} (hg : Good rows) (reqs : List ResolveRequest) :
    Good (run rows reqs) := by
  induction reqs generalizing rows with
  | nil => exact hg
  | cons req reqs ih => exact ih (step_good hg req)

/-- A table of connection 1 of group 1, in schema `public`, with text replica identity
columns. -/
def publicTable (objectId : Option ObjectId) (name : String) (columns : List String) :
    ResolveTableOptions :=
  ⟨1, 1, "default", ⟨objectId, "public", name, columns.map (⟨·, some "text", some 25⟩)⟩,
    ⟨fun _ _ _ ↦ false, fun _ _ _ ↦ true, fun _ _ _ ↦ false⟩⟩

/-- `todos` resolved under relation 16384, then renamed `tasks`, then given a second replica
identity column, then `lists` with no relation id. -/
def renames : List ResolveRequest :=
  [⟨publicTable (some (.num 16384)) "todos" ["id"], "t1"⟩,
   ⟨publicTable (some (.num 16384)) "tasks" ["id"], "t2"⟩,
   ⟨publicTable (some (.num 16384)) "tasks" ["id", "owner"], "t3"⟩,
   ⟨publicTable none "lists" ["id"], "t4"⟩]

theorem run_keys_unique_renames : Good (run [] renames) :=
  run_keys_unique (show Good [] by decide) renames

example : (run [] renames).map (·.id) = ["t3", "t4"] := by decide

/-- Resolving a table never deletes a row of another sync rules group or connection. -/
theorem mem_step_of_ne {rows : List SourceTableRow} {r : SourceTableRow} {req : ResolveRequest}
    (hg : Good rows) (hr : r ∈ rows)
    (hne : (r.group_id, r.connection_id) ≠ (req.options.group_id, req.options.connection_id)) :
    r ∈ step rows req := by
  obtain ⟨o, uuid⟩ := req
  by_cases hu : uuid ∈ rows.map (·.id)
  · simpa [step, hu] using hr
  simp only [step, if_neg hu, resolveTable]
  exact mem_drop_of_not_truncates (findOrInsert_spec hg hu).1 (subset_findOrInsert hr)
    (truncates_eq_false_of_ne hne)

theorem run_keeps_other_sources {rows : List SourceTableRow} {r : SourceTableRow}
    (hg : Good rows) (hr : r ∈ rows) {reqs : List ResolveRequest}
    (hother : ∀ req ∈ reqs,
      (req.options.group_id, req.options.connection_id) ≠ (r.group_id, r.connection_id)) :
    r ∈ run rows reqs := by
  induction reqs generalizing rows with
  | nil => exact hr
  | cons req reqs ih =>
      exact ih (step_good hg req) (mem_step_of_ne hg hr (hother req (.head _)).symm)
        fun q hq ↦ hother q (.tail _ hq)

/-- The row of `todos` in sync rules group 2, which is being reprocessed. -/
def reprocessedTodos : SourceTableRow :=
  ⟨"g2", 2, 1, some (.num 16384), "public", "todos", [⟨"id", some "text", some 25⟩], some true,
    none, none, none⟩

theorem run_keeps_other_sources_renames : reprocessedTodos ∈ run [reprocessedTodos] renames :=
  run_keeps_other_sources (by decide) (List.mem_singleton_self _) (by decide)

/-! ## Resolving a table again -/

/-- In a consistent table, resolving a table whose row is there finds that row and drops
nothing. -/
theorem resolveTable_of_mem {rows : List SourceTableRow} {o : ResolveTableOptions}
    {row : SourceTableRow} (hg : Good rows) (hrow : row ∈ rows) (hmatch : matchesRow o row = true)
    (uuid : String) : resolveTable rows uuid o = (⟨sourceTable o row, []⟩, rows) := by
  have hfind : rows.find? (matchesRow o) = some row := by
    obtain ⟨x, hx⟩ := Option.ne_none_iff_exists'.1 fun h ↦
      absurd hmatch (by simpa using List.find?_eq_none.1 h row hrow)
    rw [hx, hg.unique_names x (List.mem_of_find?_eq_some hx) row hrow
      ((nameKey_of_matchesRow (List.find?_some hx)).trans (nameKey_of_matchesRow hmatch).symm)]
  have hnone : rows.filter (truncates o row.id) = [] := by
    refine List.filter_eq_nil_iff.2 fun r hr ht ↦ ?_
    obtain ⟨hid, hname | ⟨hs, hrel⟩⟩ := truncates_eq_true.1 ht
    · exact hid (congrArg (·.id) (hg.unique_names r hr row hrow
        (hname.trans (nameKey_of_matchesRow hmatch).symm)))
    · have hrow' := relationKey_of_matchesRow hmatch hs
      exact hid (congrArg (·.id) (hg.unique_relations r hr row hrow (hrel ▸ hs)
        (hrel.trans hrow'.symm)))
  simp [resolveTable, findOrInsert, hfind, hnone]

theorem resolveTable_again {rows : List SourceTableRow} {o : ResolveTableOptions} {uuid : String}
    (hg : Good rows) (hu : uuid ∉ rows.map (·.id)) (uuid' : String) :
    resolveTable (step rows ⟨o, uuid⟩) uuid' o =
      (⟨(resolveTable rows uuid o).1.table, []⟩, step rows ⟨o, uuid⟩) := by
  obtain ⟨-, hmem, -, -⟩ := step_spec (o := o) hg hu
  rw [resolveTable_of_mem (step_good hg _) hmem (findOrInsert_spec (o := o) hg hu).2.2.2.1]
  rfl

theorem resolveTable_again_renamed :
    let todos := step [] ⟨publicTable (some (.num 16384)) "todos" ["id"], "t1"⟩
    let tasks := publicTable (some (.num 16384)) "tasks" ["id"]
    resolveTable (step todos ⟨tasks, "t2"⟩) "t9" tasks =
      (⟨(resolveTable todos "t2" tasks).1.table, []⟩, step todos ⟨tasks, "t2"⟩) :=
  resolveTable_again (by decide) (by decide) "t9"

end SourceTables

end PowerSync
