import PowerSync.Replication.BatchedPath

/-!
# current_data mirrors the source

`MongoBucketBatch.saveOperation` keeps one `current_data` document per source row: the
row itself, TOAST columns filled from the stored row, with the buckets and lookups the sync
rules give it. This file states that as a relation between `current_data` and the rows the
source has (`Mirrors`), and shows that the plain path keeps it over every batch.

* `SourceRows` is ours: the source table as replication sees it, one row per table and
  replica id, and `SourceRows.apply` is what a record does to it. Everything else is the
  model of `SaveOperation.lean` and `ReplicateBatch.lean`.
* `mirrors_saveRecord` is the step: one record, saved against the document at its before
  key. `run_mirrors` is the run: every batch of records the source could send, from a
  mirroring state, is saved without error and leaves a mirroring state.

## Boundary

* The records are not asked to be consistent with the source: an insert may land on an
  existing row and an update may name a row that is not there, and the mirror still holds.
* What a record must meet is `Saved`: a truthy after id, and a new row with no TOAST
  placeholder left and not over `MAX_ROW_SIZE`. A falsy id such as the MongoDB _id 0 is
  not saved at all, and an oversize row is stored with every column a TOAST placeholder,
  so neither is mirrored.
* `storeCurrentData = false` is left out: `current_data` then stores `{}` for every row
  and an update is not merged with the stored row, so it mirrors no source.
-/

namespace PowerSync
open LookupTracking

/-- The source rows replication has seen: the table and current row at each key. -/
abbrev SourceRows := JsMap (String × ReplicaId) (SourceTable × ToastableRow)

namespace SourceRows

/-- The row at a record's before key, `{}` when there is none. -/
def oldRow (src : SourceRows) (op : RecordOperation) : ToastableRow :=
  ((src.get? op.internalBeforeKey).map (·.2)).getD JsMap.empty

/-- The row a record leaves at its after key: the inserted row, or the updated row with its
TOAST placeholders filled from the old row. -/
def newRow (src : SourceRows) (op : RecordOperation) : Option ToastableRow :=
  match op.record with
  | .insert _ row _ => some row
  | .update _ _ row _ => some (mergeToast row (oldRow src op))
  | .delete .. => none

/-- A record applied to the source: an insert adds its row, an update replaces the old row by
the new one, at the new id, and a delete removes the row. -/
def apply (src : SourceRows) (op : RecordOperation) : SourceRows :=
  match op.record with
  | .insert t row id => src.set (t.id, id) (t, row)
  | .update t _ row id =>
      (src.delete op.internalBeforeKey).set (t.id, id) (t, mergeToast row (oldRow src op))
  | .delete .. => src.delete op.internalBeforeKey

end SourceRows

/-- The `current_data` document of a source row: the row, with its buckets and lookups under
the sync rules. -/
def currentDoc (o : BatchOptions) (key : SourceKey) (t : SourceTable) (row : ToastableRow) :
    CurrentDataDocument :=
  ⟨key, row,
    if t.syncData then (o.sync_rules.evaluateRow t row).map fun e ↦ ⟨e.bucket, e.table, e.id⟩
    else [],
    if t.syncParameters then (o.sync_rules.evaluateParameterRow t row).map (·.lookup) else []⟩

/-- `current_data` of the group holds a document for each source row and nothing else: the
row's `currentDoc`. -/
def Mirrors (o : BatchOptions) (db : CurrentDataStore) (src : SourceRows) : Prop :=
  ∀ k : String × ReplicaId,
    db.get? ⟨o.group_id, k.1, k.2⟩ = (src.get? k).map fun r ↦ currentDoc o ⟨o.group_id, k.1, k.2⟩ r.1 r.2

/-- What `saveOperation` needs of a record to keep `current_data` a mirror of the source: the
new row has a truthy id, and is complete once merged and not over `MAX_ROW_SIZE`. -/
structure Saved (o : BatchOptions) (src : SourceRows) (op : RecordOperation) : Prop where
  truthy : ∀ id ∈ op.afterId, id.truthy
  complete : ∀ row ∈ SourceRows.newRow src op,
    isCompleteRow o.storeCurrentData row ∧ o.bsonSize row ≤ MAX_ROW_SIZE

theorem mergeToast_empty (row : ToastableRow) : mergeToast row JsMap.empty = row := by
  obtain ⟨entries⟩ := row
  simp only [mergeToast, JsMap.get?_empty]
  congr 1
  conv_rhs => rw [← List.map_id entries]
  congr 1
  funext ⟨a, b⟩
  cases b <;> rfl

variable {o : BatchOptions} {op : RecordOperation} {doc : Option CurrentDataDocument}

theorem result_saveRecord_of_saved {id : ReplicaId} {row : ToastableRow} (hid : op.afterId = some id)
    (htr : id.truthy) (hafter : (previousState o op.record doc).2.2.1 = some row)
    (hstore : o.storeCurrentData = true) (hc : isCompleteRow o.storeCurrentData row)
    (hs : o.bsonSize row ≤ MAX_ROW_SIZE) :
    (saveRecord o op doc).result =
      some (currentDoc o ⟨o.group_id, op.record.sourceTable.id, id⟩ op.record.sourceTable row) := by
  rw [hstore] at hc
  unfold saveRecord
  dsimp only
  rw [hid, hafter]
  simp [serializeAfter, hstore, not_lt.2 hs, htr, hc, currentDoc]

theorem mirrors_saveRecord (hstore : o.storeCurrentData = true) {db : CurrentDataStore}
    {src : SourceRows} (hm : Mirrors o db src) (hs : Saved o src op) :
    Mirrors o ((saveRecord o op (db.get? (beforeKey o op))).requests.foldl applyRequest db)
      (src.apply op) := by
  intro k
  have hdoc : db.get? (beforeKey o op) = (src.get? op.internalBeforeKey).map fun r ↦
      currentDoc o (beforeKey o op) r.1 r.2 := hm op.internalBeforeKey
  rw [get?_foldl_saveRecord]
  simp only [beforeKey_eq_iff]
  obtain ⟨r⟩ := op
  cases r with
  | delete t id =>
    have hres : (saveRecord o ⟨.delete t id⟩ (db.get? (beforeKey o ⟨.delete t id⟩))).result = none :=
      Option.eq_none_iff_forall_not_mem.2 fun d hd ↦ by
        obtain ⟨_, h, _⟩ := result_saveRecord_eq_some hd
        cases h
    rw [hres]
    by_cases hk : k = RecordOperation.internalBeforeKey ⟨.delete t id⟩
    · simp [hk, idChanged, RecordOperation.afterId, SourceRows.apply]
    · simp [hk, idChanged, RecordOperation.afterId, SourceRows.apply, JsMap.get?_delete, Ne.symm hk,
        hm k]
  | insert t row id =>
    obtain ⟨hc, hsz⟩ := hs.complete row rfl
    rw [result_saveRecord_of_saved (show RecordOperation.afterId ⟨.insert t row id⟩ = some id from rfl)
      (hs.truthy id rfl) rfl hstore hc hsz]
    have hchg : idChanged ⟨.insert t row id⟩ = false := by
      simp [idChanged, RecordOperation.afterId, RecordOperation.beforeId, replicaIdEquals]
    by_cases hk : (t.id, id) = k
    · subst hk
      simp [hchg, Option.filter, currentDoc, SourceRows.apply, SaveOptions.sourceTable]
    · have hne : (⟨o.group_id, t.id, id⟩ : SourceKey) ≠ ⟨o.group_id, k.1, k.2⟩ := fun h ↦
        hk (by simp only [SourceKey.mk.injEq, true_and] at h; exact Prod.ext h.1 h.2)
      simp [hchg, Option.filter, currentDoc, hne, SourceRows.apply, SaveOptions.sourceTable, hk, hm k]
  | update t before row id =>
    have hafter : (previousState o (SaveOptions.update t before row id)
        (db.get? (beforeKey o ⟨.update t before row id⟩))).2.2.1 =
        some (mergeToast row (SourceRows.oldRow src ⟨.update t before row id⟩)) := by
      rw [hdoc, SourceRows.oldRow]
      cases src.get? (RecordOperation.internalBeforeKey ⟨.update t before row id⟩) <;>
        simp [previousState, mergeToast_empty, currentDoc, hstore]
    obtain ⟨hc, hsz⟩ := hs.complete _ rfl
    rw [result_saveRecord_of_saved (show RecordOperation.afterId ⟨.update t before row id⟩ = some id
      from rfl) (hs.truthy id rfl) hafter hstore hc hsz]
    have hchg : idChanged ⟨.update t before row id⟩ = true ↔ before.getD id ≠ id := by
      simp [idChanged, RecordOperation.afterId, RecordOperation.beforeId, replicaIdEquals]
    have hK : RecordOperation.internalBeforeKey ⟨.update t before row id⟩ = (t.id, before.getD id) :=
      rfl
    by_cases hk : (t.id, id) = k
    · subst hk
      have hn : ¬(idChanged ⟨.update t before row id⟩ = true ∧ (t.id, id) = (t.id, before.getD id)) :=
        fun ⟨h₁, h₂⟩ ↦ hchg.1 h₁ (Prod.ext_iff.1 h₂).2.symm
      simp only [hK, if_neg hn]
      simp [Option.filter, currentDoc, SourceRows.apply, SaveOptions.sourceTable]
    · have hne : (⟨o.group_id, t.id, id⟩ : SourceKey) ≠ ⟨o.group_id, k.1, k.2⟩ := fun h ↦
        hk (by simp only [SourceKey.mk.injEq, true_and] at h; exact Prod.ext h.1 h.2)
      by_cases hkK : k = (t.id, before.getD id)
      · subst hkK
        have hc' : idChanged ⟨.update t before row id⟩ = true :=
          hchg.2 fun h ↦ hk (by rw [h])
        simp [hK, hc', SourceRows.apply, hk]
      · simp [hK, hkK, Option.filter, currentDoc, hne, SourceRows.apply, SaveOptions.sourceTable, hk,
          Ne.symm hkK, hm k]

theorem mirrors_empty (o : BatchOptions) : Mirrors o JsMap.empty JsMap.empty := fun _ ↦ rfl

instance (o : BatchOptions) (src : SourceRows) (op : RecordOperation) : Decidable (Saved o src op) :=
  decidable_of_iff (_ ∧ _) ⟨fun ⟨h₁, h₂⟩ ↦ ⟨h₁, h₂⟩, fun ⟨h₁, h₂⟩ ↦ ⟨h₁, h₂⟩⟩

/-- Whether each record of a batch meets `Saved` against the source the records before it
left. -/
def savedRun (o : BatchOptions) : SourceRows → List RecordOperation → Bool
  | _, [] => true
  | src, op :: ops => decide (Saved o src op) && savedRun o (src.apply op) ops

theorem run_mirrors (hstore : o.storeCurrentData = true) (hskip : o.skipExistingRows = false)
    {db : CurrentDataStore} {src : SourceRows} (hm : Mirrors o db src) {ops : List RecordOperation}
    (hs : savedRun o src ops) :
    ∃ reqs, savePlain o db ops = .ok reqs ∧
      Mirrors o (reqs.foldl applyRequest db) (ops.foldl SourceRows.apply src) := by
  induction ops generalizing db src with
  | nil => exact ⟨[], rfl, hm⟩
  | cons op ops ih =>
    simp only [savedRun, Bool.and_eq_true, decide_eq_true_eq] at hs
    obtain ⟨reqs, h, hm'⟩ := ih (mirrors_saveRecord hstore hm hs.1) hs.2
    refine ⟨_, by rw [savePlain_cons_of_skipExistingRows hskip, h]; rfl, ?_⟩
    rw [List.foldl_append]
    exact hm'

theorem run_mirrors_owners :
    ∃ reqs, savePlain ownerOptions JsMap.empty ownerOps = .ok reqs ∧
      Mirrors ownerOptions (reqs.foldl applyRequest JsMap.empty)
        (ownerOps.foldl SourceRows.apply JsMap.empty) :=
  run_mirrors rfl rfl (mirrors_empty ownerOptions) (by decide)

end PowerSync
