import PowerSync.Util.JsMap

/-!
# Saving one record

`MongoBucketBatch.saveOperation` turns one replicated record, with the row's previous
`current_data` document, into requests to the persisted batch: the bucket data and the
parameter data of the old and the new row, and the upsert or delete of the row's
`current_data` document.  It returns the new document, which `replicateBatch` keeps in its
cache.

A record is `SaveOptions`, the union of insert, update and delete records: an insert and
an update always carry the new row and its replica id, a delete never does, and the
before id falls back to the after id.  So `afterId != null` holds exactly when `after` is
there.  Several of the code's tests are on the replica id's *truthiness* instead:
`if (afterId && after && ...)` before evaluating the sync rules and `if (afterId)` before
the upsert.  A MongoDB `_id` of `0` or `""` is a replica id that is not truthy.

* `insert_zero_id_not_saved` — an insert whose `_id` is `0` is dropped: no bucket data,
  no parameter data, no `current_data` document.

`RecordOperation`, `replicaIdEquals`, `isCompleteRow`, `mergeToast` and `cacheKey` are not
in the sources; they are modelled from the spec below.  The BSON serialization of a row
is taken as the row itself, with its size a parameter.
-/

namespace PowerSync

/-- A replica id: a string, a number such as a MongoDB `_id`, an object id, or BSON's
`MinKey` or `MaxKey`, which a MongoDB `_id` can also be. -/
inductive ReplicaId where
  | str (s : String)
  | num (n : Int)
  | objectId (hex : String)
  | minKey
  | maxKey
deriving DecidableEq, Repr

/-- JavaScript truthiness of a replica id: `""` and `0` are falsy. -/
def ReplicaId.truthy : ReplicaId → Bool
  | .str s => s ≠ ""
  | .num n => n ≠ 0
  | .objectId _ => true
  | .minKey => true
  | .maxKey => true

/-- Modelled from the spec: `storage.replicaIdEquals` is not in the sources; two replica
ids are equal when they are the same value. -/
def replicaIdEquals (a b : ReplicaId) : Bool := a = b

/-- A column value. -/
inductive SqliteValue where
  | null
  | text (s : String)
  | integer (n : Int)
deriving DecidableEq, Repr

/-- A `ToastableSqliteRow`: the columns in order, `none` for `undefined`, a TOAST
placeholder for an unchanged column. -/
abbrev ToastableRow := JsMap String (Option SqliteValue)

/-- Modelled from the spec: `storage.mergeToast` is not in the sources; each TOAST
placeholder of the record takes the persisted row's value of the column. -/
def mergeToast (record persisted : ToastableRow) : ToastableRow :=
  ⟨record.entries.map fun e ↦ (e.1, e.2 <|> (persisted.get? e.1).join)⟩

/-- Modelled from the spec: `isCompleteRow` is not in the sources; without stored
current data every row is complete, with it a row is complete without TOAST
placeholders. -/
def isCompleteRow (storeData : Bool) (row : ToastableRow) : Bool :=
  !storeData || row.entries.all fun e ↦ e.2.isSome

/-- The fields of a source table that `saveOperation` reads. -/
structure SourceTable where
  id : String
  syncData : Bool
  syncParameters : Bool
deriving DecidableEq, Repr

/-- Modelled from the spec: the record tags, under the spec's names. -/
inductive SaveOperationTag where
  | INSERT | UPDATE | DELETE
deriving DecidableEq, Repr

/-- The tag's text in an error message. -/
def SaveOperationTag.toString : SaveOperationTag → String
  | .INSERT => "INSERT"
  | .UPDATE => "UPDATE"
  | .DELETE => "DELETE"

/-- `storage.SaveOptions`: an insert, an update, which may change the replica id and
carry TOAST placeholders, or a delete. -/
inductive SaveOptions where
  | insert (sourceTable : SourceTable) (after : ToastableRow) (afterReplicaId : ReplicaId)
  | update (sourceTable : SourceTable) (beforeReplicaId : Option ReplicaId)
      (after : ToastableRow) (afterReplicaId : ReplicaId)
  | delete (sourceTable : SourceTable) (beforeReplicaId : ReplicaId)
deriving DecidableEq, Repr

namespace SaveOptions

def tag : SaveOptions → SaveOperationTag
  | .insert .. => .INSERT
  | .update .. => .UPDATE
  | .delete .. => .DELETE

def sourceTable : SaveOptions → SourceTable
  | .insert t .. | .update t .. | .delete t .. => t

def after : SaveOptions → Option ToastableRow
  | .insert _ a _ | .update _ _ a _ => some a
  | .delete .. => none

end SaveOptions

/-- Modelled from the spec: `RecordOperation` of `OperationBatch.ts` is not in the
sources; it wraps a record with its before and after ids. -/
structure RecordOperation where
  record : SaveOptions
deriving DecidableEq, Repr

namespace RecordOperation

/-- `record.afterReplicaId ?? null`. -/
def afterId (op : RecordOperation) : Option ReplicaId :=
  match op.record with
  | .insert _ _ id | .update _ _ _ id => some id
  | .delete .. => none

/-- `record.beforeReplicaId ?? record.afterReplicaId`. -/
def beforeId (op : RecordOperation) : ReplicaId :=
  match op.record with
  | .insert _ _ id => id
  | .update _ before _ id => before.getD id
  | .delete _ id => id

end RecordOperation

/-- `{ bucket, table, id }` of a row's bucket in its `current_data` document. -/
structure CurrentBucket where
  bucket : String
  table : String
  id : String
deriving DecidableEq, Repr

/-- A result of `evaluateRowWithErrors`: the row's output in one bucket. -/
structure EvaluatedRow where
  bucket : String
  table : String
  id : String
  data : String
deriving DecidableEq, Repr

/-- A result of `evaluateParameterRowWithErrors`, with its lookup already serialized by
`storage.serializeLookup`. -/
structure EvaluatedParameters where
  lookup : String
  bucket_parameters : String
deriving DecidableEq, Repr

/-- What `saveOperation` uses of the sync rules: the results of the two evaluations.
Their errors are only reported and logged. -/
structure SyncRulesEval where
  evaluateRow : SourceTable → ToastableRow → List EvaluatedRow
  evaluateParameterRow : SourceTable → ToastableRow → List EvaluatedParameters

/-- `{ g, t, k }`, the `_id` of a `current_data` document. -/
structure SourceKey where
  g : Nat
  t : String
  k : ReplicaId
deriving DecidableEq, Repr

/-- A `current_data` document. -/
structure CurrentDataDocument where
  _id : SourceKey
  data : ToastableRow
  buckets : List CurrentBucket
  lookups : List String
deriving DecidableEq, Repr

/-- A request to the `PersistedBatch`.  The shared `op_seq` argument is left out. -/
inductive BatchRequest where
  | saveBucketData (sourceKey : ReplicaId) (table : SourceTable)
      (before_buckets : List CurrentBucket) (evaluated : List EvaluatedRow)
  | saveParameterData (sourceKey : ReplicaId) (sourceTable : SourceTable)
      (evaluated : List EvaluatedParameters) (existing_lookups : List String)
  | upsertCurrentData (key : SourceKey) (data : ToastableRow) (buckets : List CurrentBucket)
      (lookups : List String)
  | deleteCurrentData (key : SourceKey)
deriving DecidableEq, Repr

/-- The options of a `MongoBucketBatch` that `saveOperation` reads. -/
structure BatchOptions where
  group_id : Nat
  storeCurrentData : Bool
  skipExistingRows : Bool
  /-- Whether a `markRecordUnavailable` callback was given. -/
  hasMarkRecordUnavailable : Bool
  sync_rules : SyncRulesEval
  /-- The size of a row's BSON serialization. -/
  bsonSize : ToastableRow → Nat

/-- `MAX_ROW_SIZE`, 15 MB. -/
def MAX_ROW_SIZE : Nat := 15 * 1024 * 1024

/-- What `saveOperation` did: its requests, whether it called `markRecordUnavailable`,
and the new `current_data` document it returns. -/
structure SaveOutcome where
  requests : List BatchRequest
  markedUnavailable : Bool
  result : Option CurrentDataDocument
deriving DecidableEq, Repr

section Save

variable (o : BatchOptions)

/-- The previous buckets and lookups of the row, the row with its TOAST placeholders
merged, and whether the record was marked unavailable. -/
def previousState (record : SaveOptions) (current_data : Option CurrentDataDocument) :
    List CurrentBucket × List String × Option ToastableRow × Bool :=
  match record, current_data with
  | .update _ _ after _, none =>
      ([], [], some after, !isCompleteRow o.storeCurrentData after && o.hasMarkRecordUnavailable)
  | .update _ _ after _, some result =>
      (result.buckets, result.lookups,
        some (if o.storeCurrentData then mergeToast after result.data else after), false)
  | .delete .., none => ([], [], none, false)
  | .delete .., some result => (result.buckets, result.lookups, none, false)
  | .insert _ after _, _ => ([], [], some after, false)

/-- A row too large to store: every column replaced by a TOAST placeholder. -/
def blankRow (after : ToastableRow) : ToastableRow :=
  ⟨after.entries.map fun e ↦ (e.1, none)⟩

/-- The row to evaluate and the data to store: `{}` without stored current data, and a
blanked row over `MAX_ROW_SIZE`. -/
def serializeAfter (after : ToastableRow) : ToastableRow × ToastableRow :=
  if !o.storeCurrentData then (after, JsMap.empty)
  else if MAX_ROW_SIZE < o.bsonSize after then (blankRow after, blankRow after)
  else (after, after)

/-- `saveOperation` past the `skipExistingRows` check. -/
def saveRecord (operation : RecordOperation) (current_data : Option CurrentDataDocument) :
    SaveOutcome :=
  let record := operation.record
  let beforeId := operation.beforeId
  let afterId := operation.afterId
  let sourceTable := record.sourceTable
  let before_key : SourceKey := ⟨o.group_id, sourceTable.id, beforeId⟩
  let (existing_buckets, existing_lookups, after, marked) := previousState o record current_data
  let serialized := after.map (serializeAfter o)
  let after := serialized.map (·.1)
  let afterData := serialized.map (·.2)
  -- Source ID updated: delete the old record and its parameters.
  let idChanged := match afterId with
    | none => true
    | some id => !replicaIdEquals beforeId id
  let removeData := idChanged && sourceTable.syncData
  let removeParameters := idChanged && sourceTable.syncParameters
  let removals :=
    (if removeData then [.saveBucketData beforeId sourceTable existing_buckets []] else []) ++
    (if removeParameters then [.saveParameterData beforeId sourceTable [] existing_lookups]
      else [])
  let existing_buckets := if removeData then [] else existing_buckets
  let existing_lookups := if removeParameters then [] else existing_lookups
  -- Insert or update, for a complete row with a truthy id.
  let saved : List BatchRequest × List CurrentBucket × List String :=
    match afterId, after with
    | some id, some row =>
        if id.truthy && isCompleteRow o.storeCurrentData row then
          let evaluated := o.sync_rules.evaluateRow sourceTable row
          let paramEvaluated := o.sync_rules.evaluateParameterRow sourceTable row
          ((if sourceTable.syncData then [.saveBucketData id sourceTable existing_buckets evaluated]
              else []) ++
            (if sourceTable.syncParameters then
              [.saveParameterData id sourceTable paramEvaluated existing_lookups] else []),
           if sourceTable.syncData then evaluated.map fun e ↦ ⟨e.bucket, e.table, e.id⟩ else [],
           if sourceTable.syncParameters then paramEvaluated.map (·.lookup) else [])
        else ([], [], [])
    | _, _ => ([], [], [])
  let (saves, new_buckets, new_lookups) := saved
  -- TOAST: update current data and the bucket list.
  let upsert : List BatchRequest × Option CurrentDataDocument :=
    match afterId, afterData with
    | some id, some data =>
        if id.truthy then
          let after_key : SourceKey := ⟨o.group_id, sourceTable.id, id⟩
          ([.upsertCurrentData after_key data new_buckets new_lookups],
            some ⟨after_key, data, new_buckets, new_lookups⟩)
        else ([], none)
    | _, _ => ([], none)
  let deletion := if idChanged then [.deleteCurrentData before_key] else []
  ⟨removals ++ saves ++ upsert.1 ++ deletion, marked, upsert.2⟩

/-- `MongoBucketBatch.saveOperation`: with `skipExistingRows`, an insert of a row that
has a document is skipped, and any other record is an error. -/
def saveOperation (operation : RecordOperation) (current_data : Option CurrentDataDocument) :
    Except String SaveOutcome :=
  if o.skipExistingRows then
    match operation.record with
    | .insert .. =>
        if current_data.isSome then .ok ⟨[], false, none⟩ else .ok (saveRecord o operation current_data)
    | record => .error (record.tag.toString ++ " not supported with skipExistingRows: true")
  else .ok (saveRecord o operation current_data)

end Save

/-! ## An insert with a falsy id -/

/-- A table that syncs data and parameters. -/
def itemsTable : SourceTable := ⟨"items", true, true⟩

/-- Every row goes to one global bucket. -/
def globalBucketRules : SyncRulesEval :=
  ⟨fun _ _ ↦ [⟨"global[]", "items", "row", "{}"⟩], fun _ _ ↦ []⟩

/-- `storeCurrentData`, no `skipExistingRows`, small rows. -/
def storingOptions : BatchOptions := ⟨1, true, false, false, globalBucketRules, fun _ ↦ 100⟩

/-- A row with `_id` 0. -/
def zeroIdRow : ToastableRow := ⟨[("_id", some (.integer 0)), ("name", some (.text "a"))]⟩

theorem insert_zero_id_not_saved :
    saveOperation storingOptions ⟨.insert itemsTable zeroIdRow (.num 0)⟩ none =
      .ok ⟨[], false, none⟩ :=
  rfl

end PowerSync
