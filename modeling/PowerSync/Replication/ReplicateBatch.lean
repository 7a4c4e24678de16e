import PowerSync.Replication.SaveOperation

/-!
# Replicating a batch

`MongoBucketBatch.replicateBatch` runs `saveOperation` over the records of a batch.  It
does not read `current_data` once per record: for each sub-batch of `batch.batched(sizes)`
it loads the documents of all the sub-batch's before keys into `current_data_lookup`,
deletes an entry when a record reads it, and caches each record's result at its after
key.  When the transaction grows too large, the rest of the batch is left for the next
`flushInner`, in a new transaction.

The reference is the plain path: `saveOperation` on each record in turn, against the
`current_data` left by the records before it.

* `repeated_insert_requests_differ` — with `skipExistingRows`, a second insert of a row
  that already has a document is skipped by the plain path, but not by the batched one:
  the first insert deletes the cache entry and returns nothing to put back.

`OperationBatch.batched` and the size accounting of `PersistedBatch` are not in the
sources; the sub-batches and the point where a transaction is flushed are parameters.
-/

namespace PowerSync

/-- The `current_data` documents of one sync rules group, by `_id`. -/
abbrev CurrentDataStore := JsMap SourceKey CurrentDataDocument

/-- A request's effect on `current_data`. -/
def applyRequest (db : CurrentDataStore) : BatchRequest → CurrentDataStore
  | .upsertCurrentData key data buckets lookups => db.set key ⟨key, data, buckets, lookups⟩
  | .deleteCurrentData key => db.delete key
  | _ => db

/-- Modelled from the spec: `cacheKey` of `OperationBatch.ts` is not in the sources; a row
is cached under its table id and replica id. -/
def cacheKey (table : String) (id : ReplicaId) : String × ReplicaId := (table, id)

namespace RecordOperation

/-- The cache key of the row before the record. -/
def internalBeforeKey (op : RecordOperation) : String × ReplicaId :=
  cacheKey op.record.sourceTable.id op.beforeId

/-- The cache key of the row after the record, if it has one. -/
def internalAfterKey (op : RecordOperation) : Option (String × ReplicaId) :=
  op.afterId.map (cacheKey op.record.sourceTable.id)

end RecordOperation

/-- `current_data_lookup`: the documents of the given before keys. -/
def loadLookup (g : Nat) (db : CurrentDataStore) (ops : List RecordOperation) :
    JsMap (String × ReplicaId) CurrentDataDocument :=
  ops.foldl (fun m op ↦
    match db.get? ⟨g, op.record.sourceTable.id, op.beforeId⟩ with
    | some doc => m.set op.internalBeforeKey doc
    | none => m) JsMap.empty

/-- Modelled from the spec: `OperationBatch.batched(sizes)` is not in the sources; it cuts
a batch into consecutive sub-batches. -/
structure Batching where
  batched : List RecordOperation → List (List RecordOperation)
  flatten_batched : ∀ ops, (batched ops).flatten = ops

section Batched

variable (o : BatchOptions) (bt : Batching)
  (shouldFlushTransaction : List BatchRequest → Bool)

/-- The plain path: each record against the `current_data` the records before it left. -/
def savePlain (db : CurrentDataStore) : List RecordOperation → Except String (List BatchRequest)
  | [] => .ok []
  | op :: ops =>
      match saveOperation o op (db.get? ⟨o.group_id, op.record.sourceTable.id, op.beforeId⟩) with
      | .error e => .error e
      | .ok out => (savePlain (out.requests.foldl applyRequest db) ops).map (out.requests ++ ·)

/-- The plain path's requests: the first record's, then the rest's against the documents the
first left. -/
theorem savePlain_cons_eq_ok {db : CurrentDataStore} {op : RecordOperation}
    {ops : List RecordOperation} {reqs : List BatchRequest}
    (h : savePlain o db (op :: ops) = .ok reqs) :
    ∃ out rest, saveOperation o op (db.get? ⟨o.group_id, op.record.sourceTable.id, op.beforeId⟩) =
        .ok out ∧ savePlain o (out.requests.foldl applyRequest db) ops = .ok rest ∧
      reqs = out.requests ++ rest := by
  simp only [savePlain] at h
  split at h
  · cases h
  · next out hout =>
    cases hr : savePlain o (out.requests.foldl applyRequest db) ops <;> rw [hr] at h <;> cases h
    exact ⟨out, _, hout, hr, rfl⟩

/-- The loop over the records of one sub-batch, with the requests of the transaction so
far.  It returns them, and the records left once the transaction must be flushed. -/
def replicateOps (lookup : JsMap (String × ReplicaId) CurrentDataDocument)
    (issued : List BatchRequest) :
    List RecordOperation → Except String (List BatchRequest × Option (List RecordOperation))
  | [] => .ok (issued, none)
  | op :: ops =>
      let currentData := lookup.get? op.internalBeforeKey
      let lookup := if currentData.isSome then lookup.delete op.internalBeforeKey else lookup
      match saveOperation o op currentData with
      | .error e => .error e
      | .ok out =>
          let lookup := match out.result, op.internalAfterKey with
            | some nextData, some key => lookup.set key nextData
            | _, _ => lookup
          let issued := issued ++ out.requests
          if shouldFlushTransaction issued then .ok (issued, some ops)
          else replicateOps lookup issued ops

/-- The loop over the sub-batches: each loads its lookup from `current_data` as the
requests so far left it. -/
def replicateBatches (db : CurrentDataStore) (issued : List BatchRequest) :
    List (List RecordOperation) →
      Except String (List BatchRequest × Option (List RecordOperation))
  | [] => .ok (issued, none)
  | b :: bs =>
      match replicateOps o shouldFlushTransaction
          (loadLookup o.group_id (issued.foldl applyRequest db) b) issued b with
      | .error e => .error e
      | .ok (issued, none) => replicateBatches db issued bs
      | .ok (issued, some rest) => .ok (issued, some (rest ++ bs.flatten))

/-- `MongoBucketBatch.replicateBatch`: the requests of one transaction, and the resume
batch if it has data. -/
def replicateBatch (db : CurrentDataStore) (batch : List RecordOperation) :
    Except String (List BatchRequest × Option (List RecordOperation)) :=
  (replicateBatches o shouldFlushTransaction db [] (bt.batched batch)).map fun r ↦
    (r.1, r.2.filter (· ≠ []))

/-- `flush`: one `flushInner` transaction after another, while a resume batch is left. -/
def flushBatches (db : CurrentDataStore) :
    Nat → List RecordOperation → Except String (List BatchRequest)
  | 0, _ => .ok []
  | fuel + 1, batch =>
      match replicateBatch o bt shouldFlushTransaction db batch with
      | .error e => .error e
      | .ok (issued, none) => .ok issued
      | .ok (issued, some rest) =>
          (flushBatches (issued.foldl applyRequest db) fuel rest).map (issued ++ ·)

/-- The batched path over a whole batch, with a transaction for each record at most. -/
def saveBatched (db : CurrentDataStore) (batch : List RecordOperation) :
    Except String (List BatchRequest) :=
  flushBatches o bt shouldFlushTransaction db (batch.length + 1) batch

/-- `MongoBucketBatch.save`: a record of a table that syncs neither data nor parameters only
notifies the listeners.  Any other is pushed onto the batch, which is flushed once
`OperationBatch.shouldFlush` holds (not in the sources: a parameter).  It returns the
requests of the flush and the batch left. -/
def save (shouldFlush : List RecordOperation → Bool) (db : CurrentDataStore)
    (batch : List RecordOperation) (record : RecordOperation) :
    Except String (List BatchRequest × List RecordOperation) :=
  if !record.record.sourceTable.syncData && !record.record.sourceTable.syncParameters then
    .ok ([], batch)
  else
    let batch := batch ++ [record]
    if shouldFlush batch then (saveBatched o bt shouldFlushTransaction db batch).map (·, [])
    else .ok ([], batch)

end Batched

/-! ## A repeated insert during initial replication -/

/-- `skipExistingRows`, as for an initial snapshot. -/
def snapshotOptions : BatchOptions := ⟨1, true, true, false, globalBucketRules, fun _ ↦ 100⟩

/-- The whole batch as one sub-batch. -/
def oneSubBatch : Batching := ⟨fun ops ↦ [ops], fun _ ↦ List.flatten_singleton _⟩

/-- The key of row `7` of the items table. -/
def rowSevenKey : SourceKey := ⟨1, "items", .num 7⟩

/-- `current_data` holding row `7`. -/
def rowSevenStore : CurrentDataStore := (JsMap.empty).set rowSevenKey ⟨rowSevenKey, zeroIdRow, [], []⟩

/-- An insert of row `7`. -/
def insertRowSeven : RecordOperation := ⟨.insert itemsTable zeroIdRow (.num 7)⟩

theorem repeated_insert_requests_differ :
    savePlain snapshotOptions rowSevenStore [insertRowSeven, insertRowSeven] = .ok [] ∧
    saveBatched snapshotOptions oneSubBatch (fun _ ↦ false) rowSevenStore
        [insertRowSeven, insertRowSeven] =
      .ok [.saveBucketData (.num 7) itemsTable [] [⟨"global[]", "items", "row", "{}"⟩],
        .saveParameterData (.num 7) itemsTable [] [],
        .upsertCurrentData rowSevenKey zeroIdRow [⟨"global[]", "items", "row"⟩] []] :=
  ⟨rfl, rfl⟩

end PowerSync
