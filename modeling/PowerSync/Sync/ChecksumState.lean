import PowerSync.Util.JsMap

/-!
# The per-connection checkpoint state

`BucketParameterState` turns each storage checkpoint update into the connection's bucket
list and the buckets that may have changed; `BucketChecksumState.buildNextCheckpointLine`
turns that into a `checkpoint` or `checkpoint_diff` line and the buckets to download.
Both are translated step for step from `sync.ts`; every state change is an explicit
state in and out, and every `throw` an `Except` error.

Three helpers the code imports are not in the repository: the checksum cache behind
`getChecksums`, `util.checksumsDiff`, and `getIntersection` / `hasIntersection`.  They
are modelled from the spec below, each under a doc comment that says so.  The sync-rules
querier is not in the repository either; `BucketParameterQuerier` records what the
connection relies on, as fields a querier must satisfy.
-/

namespace PowerSync

/-- A bucket and its priority (0 is the highest). -/
structure BucketDescription where
  bucket : String
  priority : Nat
deriving DecidableEq, Repr

/-- A bucket's checksum and op count at a checkpoint. -/
structure BucketChecksum where
  bucket : String
  checksum : Int
  count : Nat
deriving DecidableEq, Repr

/-- An entry of a checkpoint line: a bucket's checksum with its priority. -/
structure CheckpointBucket where
  bucket : String
  checksum : Int
  count : Nat
  priority : Nat
deriving DecidableEq, Repr

/-- `BucketChecksum & { priority }`. -/
def BucketChecksum.withPriority (c : BucketChecksum) (priority : Nat) : CheckpointBucket :=
  ⟨c.bucket, c.checksum, c.count, priority⟩

/-- What the connection reads from storage (`BucketChecksumStateStorage`). -/
structure ChecksumStorage where
  /-- A bucket's checksum and op count at a checkpoint. -/
  checksumOf : Nat → String → Int × Nat
  /-- The parameter rows of a lookup at a checkpoint, each serialized. -/
  parameterSets : Nat → String → List String

/-- Modelled from the spec: the checksum cache behind `getChecksums` is not in the
repository.  `getChecksums(checkpoint, buckets)` answers, for each requested bucket, its
authoritative checksum and count at the checkpoint. -/
def ChecksumStorage.getChecksums (s : ChecksumStorage) (checkpoint : Nat) (buckets : List String) :
    JsMap String BucketChecksum :=
  buckets.foldl (fun m b ↦ m.set b ⟨b, (s.checksumOf checkpoint b).1, (s.checksumOf checkpoint b).2⟩)
    JsMap.empty

/-- The request's sync-rules querier (`BucketParameterQuerier`), with the two facts about
sync rules the connection depends on: a dynamic query reads only the querier's own
lookups, and a bucket's priority is that of its definition, so it depends on the
bucket's name alone. -/
structure BucketParameterQuerier where
  staticBuckets : List BucketDescription
  hasDynamicBuckets : Bool
  /-- `parameterQueryLookups`, each as `JSONBig.stringify(l.values)`. -/
  parameterQueryLookups : List String
  /-- `queryDynamicBucketDescriptions`, given the parameter rows of each lookup. -/
  queryDynamicBucketDescriptions : (String → List String) → List BucketDescription
  /-- The priority of each bucket's definition. -/
  priorityOf : String → Nat
  reads_own_lookups : ∀ f g : String → List String, (∀ l ∈ parameterQueryLookups, f l = g l) →
    queryDynamicBucketDescriptions f = queryDynamicBucketDescriptions g
  static_priority : ∀ d ∈ staticBuckets, d.priority = priorityOf d.bucket
  dynamic_priority : ∀ f, ∀ d ∈ queryDynamicBucketDescriptions f, d.priority = priorityOf d.bucket

/-- The connection's limits (`SyncContext`). -/
structure SyncContext where
  maxBuckets : Nat
  maxParameterQueryResults : Nat
deriving DecidableEq, Repr

/-- The two kinds of error `buildNextCheckpointLine` throws. -/
inductive SyncError where
  | assertion (message : String)
  | service (code : String) (message : String)
deriving DecidableEq, Repr

/-- The error's message. -/
def SyncError.message : SyncError → String
  | .assertion m | .service _ m => m

/-- What changed since the previous update (`CheckpointChanges`). -/
structure CheckpointChanges where
  updatedDataBuckets : List String
  invalidateDataBuckets : Bool
  updatedParameterLookups : List String
  invalidateParameterBuckets : Bool
deriving DecidableEq, Repr

/-- `StorageCheckpointUpdate`: the checkpoint, the user's write checkpoint, the changes. -/
structure StorageCheckpointUpdate where
  checkpoint : Nat
  writeCheckpoint : Option Nat
  update : CheckpointChanges
deriving DecidableEq, Repr

/-- `updatedBuckets`: a set of bucket names, or `INVALIDATE_ALL_BUCKETS`. -/
inductive UpdatedBuckets where
  | all
  | some (buckets : List String)
deriving DecidableEq, Repr

/-- `CheckpointUpdate`. -/
structure CheckpointUpdate where
  buckets : List BucketDescription
  updatedBuckets : UpdatedBuckets
deriving DecidableEq, Repr

/-- Modelled from the spec: `getIntersection` is not in the repository.  The names of
`b` that are keys of `a`. -/
def getIntersection (a : List String) (b : List String) : List String := b.filter (· ∈ a)

/-- Modelled from the spec: `hasIntersection` is not in the repository. -/
def hasIntersection (a : List String) (b : List String) : Bool := b.any (· ∈ a)

/-! ## `BucketParameterState` -/

/-- The mutable fields of `BucketParameterState`; the querier is fixed per connection. -/
structure BucketParameterState where
  cachedDynamicBuckets : Option (List BucketDescription)
  cachedDynamicBucketSet : Option (List String)
deriving DecidableEq, Repr

/-- A fresh parameter state. -/
def BucketParameterState.init : BucketParameterState := ⟨none, none⟩

section Parameters

variable (ctx : SyncContext) (q : BucketParameterQuerier) (s : ChecksumStorage)

/-- `getCheckpointUpdateStatic`: the static buckets, and the updated ones among them. -/
def getCheckpointUpdateStatic (next : StorageCheckpointUpdate) : CheckpointUpdate :=
  if next.update.invalidateDataBuckets then ⟨q.staticBuckets, .all⟩
  else ⟨q.staticBuckets,
    .some (getIntersection (q.staticBuckets.map (·.bucket)) next.update.updatedDataBuckets)⟩

/-- `getCheckpointUpdateDynamic`: re-query the dynamic buckets when a lookup of the querier
may have changed or nothing is cached, and then treat every bucket as updated. -/
def getCheckpointUpdateDynamic (ps : BucketParameterState) (next : StorageCheckpointUpdate) :
    CheckpointUpdate × BucketParameterState :=
  let update := next.update
  let hasParameterChange := update.invalidateParameterBuckets ||
    hasIntersection q.parameterQueryLookups update.updatedParameterLookups
  let requery : CheckpointUpdate × BucketParameterState :=
    let dynamicBuckets := q.queryDynamicBucketDescriptions (s.parameterSets next.checkpoint)
    (⟨q.staticBuckets ++ dynamicBuckets, .all⟩,
      ⟨some dynamicBuckets, some (dynamicBuckets.map (·.bucket))⟩)
  match ps.cachedDynamicBuckets, ps.cachedDynamicBucketSet with
  | some dynamicBuckets, some dynamicSet =>
      if hasParameterChange then requery
      else if update.invalidateDataBuckets then
        (⟨q.staticBuckets ++ dynamicBuckets, .all⟩, ps)
      else
        (⟨q.staticBuckets ++ dynamicBuckets,
          .some (getIntersection (q.staticBuckets.map (·.bucket)) update.updatedDataBuckets ++
            getIntersection dynamicSet update.updatedDataBuckets)⟩, ps)
  | _, _ => requery

/-- `getCheckpointUpdate`, with its limit on the number of parameter query results. -/
def getCheckpointUpdate (ps : BucketParameterState) (next : StorageCheckpointUpdate) :
    Except SyncError (CheckpointUpdate × BucketParameterState) :=
  let r := if q.hasDynamicBuckets then getCheckpointUpdateDynamic q s ps next
    else (getCheckpointUpdateStatic q next, ps)
  let n := r.1.buckets.length
  let limit := ctx.maxParameterQueryResults
  if limit < n then
    .error (.service "PSYNC_S2305" s!"Too many parameter query results: {n} (limit of {limit})")
  else .ok r

end Parameters

/-! ## `BucketChecksumState` -/

/-- `BucketSyncState`: a bucket's description, once resolved, and its download position. -/
structure BucketSyncState where
  description : Option BucketDescription
  start_op_id : Nat
deriving DecidableEq, Repr

/-- The mutable fields of `BucketChecksumState`. -/
structure BucketChecksumState where
  bucketDataPositions : JsMap String BucketSyncState
  lastChecksums : Option (JsMap String BucketChecksum)
  lastWriteCheckpoint : Option Nat
  pendingBucketDownloads : JsSet
  parameterState : BucketParameterState
deriving DecidableEq, Repr

/-- The constructor: positions from the client's `buckets`, nothing sent yet. -/
def BucketChecksumState.init (initialBucketPositions : List (String × Nat)) : BucketChecksumState :=
  ⟨initialBucketPositions.foldl (fun m p ↦ m.set p.1 ⟨none, p.2⟩) JsMap.empty, none, none,
    JsSet.empty, BucketParameterState.init⟩

/-- The two kinds of checkpoint line. -/
inductive StreamingSyncCheckpointLine where
  | checkpoint (last_op_id : Nat) (write_checkpoint : Option Nat) (buckets : List CheckpointBucket)
  | checkpoint_diff (last_op_id : Nat) (write_checkpoint : Option Nat)
      (removed_buckets : List String) (updated_buckets : List CheckpointBucket)
deriving DecidableEq, Repr

/-- `CheckpointLine`: the line to send and the buckets to download for it. -/
structure CheckpointLine where
  checkpointLine : StreamingSyncCheckpointLine
  bucketsToFetch : List BucketDescription
deriving DecidableEq, Repr

/-- Modelled from the spec: `util.checksumsDiff` is not in the repository.  A bucket is
updated when it is new or its checksum or count changed, and removed when it is gone. -/
def checksumsDiff (previous current : JsMap String BucketChecksum) : List BucketChecksum × List String :=
  (current.values.filter fun c ↦ previous.get? c.bucket ≠ some c,
    previous.keys.filter fun b ↦ !current.has b)

/-- `write_checkpoint: writeCheckpoint ? String(writeCheckpoint) : undefined`. -/
def lineWriteCheckpoint (writeCheckpoint : Option Nat) : Option Nat :=
  writeCheckpoint.filter (· ≠ 0)

/-- `this.bucketDataPositions.get(b)!.description!.priority`. -/
def priorityIn (positions : JsMap String BucketSyncState) (b : String) : Nat :=
  match positions.get? b with
  | some ⟨some d, _⟩ => d.priority
  | _ => 0

/-- The new positions: every bucket of the update, keeping a known position. -/
def nextPositions (positions : JsMap String BucketSyncState) (buckets : List BucketDescription) :
    JsMap String BucketSyncState :=
  buckets.foldl (fun m d ↦ m.set d.bucket
    ⟨some d, ((positions.get? d.bucket).map (·.start_op_id)).getD 0⟩) JsMap.empty

/-- The loop over `dataBucketsNew.keys()` when only some buckets are updated: reuse the
previous checksum of every other bucket in `newChecksums`, and push the updated ones to
`checksumLookups`. -/
def reuseChecksums (last : JsMap String BucketChecksum) (updated : List String)
    (newChecksums : JsMap String BucketChecksum) (checksumLookups : List String) :
    List String → Except SyncError (JsMap String BucketChecksum × List String)
  | [] => .ok (newChecksums, checksumLookups)
  | bucket :: rest =>
      if bucket ∈ updated then
        reuseChecksums last updated newChecksums (checksumLookups ++ [bucket]) rest
      else
        match last.get? bucket with
        | none => .error (.assertion s!"Existing checksum not found for bucket {bucket}")
        | some existing =>
            reuseChecksums last updated (newChecksums.set bucket existing) checksumLookups rest

section Build

variable (ctx : SyncContext) (q : BucketParameterQuerier) (s : ChecksumStorage)

/-- The new `checksumMap`. -/
def nextChecksums (st : BucketChecksumState) (checkpoint : Nat) (keys : List String) :
    UpdatedBuckets → Except SyncError (JsMap String BucketChecksum)
  | .all => .ok (s.getChecksums checkpoint keys)
  | .some updated =>
      match st.lastChecksums with
      | none => .error (.assertion "Bucket diff received without existing checksums")
      | some last => (reuseChecksums last updated JsMap.empty [] keys).map fun r ↦
          if r.2.length > 0 then
            (s.getChecksums checkpoint r.2).entries.foldl (fun m e ↦ m.set e.1 e.2) r.1
          else r.1

/-- The line for the new checksum map, with the buckets to download: a `checkpoint` line
the first time, then a `checkpoint_diff`, or nothing when neither the checksums nor the
write checkpoint changed (the early `return null`). -/
def checkpointLineFor (st : BucketChecksumState) (next : StorageCheckpointUpdate)
    (update : CheckpointUpdate) (dataBucketsNew : JsMap String BucketSyncState)
    (checksumMap : JsMap String BucketChecksum) :
    Option (StreamingSyncCheckpointLine × List BucketDescription) :=
  let priority := priorityIn dataBucketsNew
  match st.lastChecksums with
  | some last =>
      let (updatedBuckets, removedBuckets) := checksumsDiff last checksumMap
      if st.lastWriteCheckpoint = next.writeCheckpoint ∧ removedBuckets = [] ∧
          updatedBuckets = [] then none
      else
        let generate := st.pendingBucketDownloads.elems.foldl
          (fun acc b ↦ if checksumMap.has b then acc.add b else acc)
          (JsSet.ofList (updatedBuckets.map (·.bucket)))
        some (.checkpoint_diff next.checkpoint (lineWriteCheckpoint next.writeCheckpoint)
            removedBuckets (updatedBuckets.map fun e ↦ e.withPriority (priority e.bucket)),
          generate.elems.map fun b ↦ ⟨b, priority b⟩)
  | none =>
      some (.checkpoint next.checkpoint (lineWriteCheckpoint next.writeCheckpoint)
          (checksumMap.values.map fun e ↦ e.withPriority (priority e.bucket)),
        update.buckets)

/-- `buildNextCheckpointLine`.  Returns the line, or `none` when nothing changed, and the
state after the call: the positions and the parameter cache are updated even when
there is no line. -/
def buildNextCheckpointLine (st : BucketChecksumState) (next : StorageCheckpointUpdate) :
    Except SyncError (Option CheckpointLine × BucketChecksumState) := do
  let (update, ps) ← getCheckpointUpdate ctx q s st.parameterState next
  let dataBucketsNew := nextPositions st.bucketDataPositions update.buckets
  let st1 := { st with bucketDataPositions := dataBucketsNew, parameterState := ps }
  let size := dataBucketsNew.size
  let limit := ctx.maxBuckets
  if limit < size then
    throw (.service "PSYNC_S2305" s!"Too many buckets: {size} (limit of {limit})")
  let checksumMap ← nextChecksums s st next.checkpoint dataBucketsNew.keys update.updatedBuckets
  match checkpointLineFor st next update dataBucketsNew checksumMap with
  | none => pure (none, st1)
  | some (line, bucketsToFetch) =>
      pure (some ⟨line, bucketsToFetch⟩,
        { st1 with lastChecksums := some checksumMap, lastWriteCheckpoint := next.writeCheckpoint
                   pendingBucketDownloads := JsSet.ofList (bucketsToFetch.map (·.bucket)) })

end Build

/-- `getFilteredBucketPositions`: the positions of the given buckets that have one. -/
def BucketChecksumState.getFilteredBucketPositions (st : BucketChecksumState)
    (bucketsToFetch : List BucketDescription) : JsMap String Nat :=
  bucketsToFetch.foldl (fun m d ↦ match st.bucketDataPositions.get? d.bucket with
    | some state => m.set d.bucket state.start_op_id
    | none => m) JsMap.empty

/-- `updateBucketPosition`: move a known bucket's position to `nextAfter`, and drop the
bucket from the pending downloads once it has no more data. -/
def BucketChecksumState.updateBucketPosition (st : BucketChecksumState) (bucket : String)
    (nextAfter : Nat) (hasMore : Bool) : BucketChecksumState :=
  { st with
    bucketDataPositions := match st.bucketDataPositions.get? bucket with
      | some state => st.bucketDataPositions.set bucket { state with start_op_id := nextAfter }
      | none => st.bucketDataPositions
    pendingBucketDownloads :=
      if hasMore then st.pendingBucketDownloads else st.pendingBucketDownloads.delete bucket }

end PowerSync
