import PowerSync.Sync.ChecksumState

/-!
# The active checkpoint and its watchers

`PostgresSyncRulesStorage` tells connections about new checkpoints in two stages.
`watchActiveCheckpoint` reads the active sync rules' row once, registers a listener for the
database's checkpoint notifications, yields the row's checkpoint, and then the checkpoint of
every notification that changes it; a `BroadcastIterable` shares that stream between the
connections.  Each connection's `watchCheckpointChanges` reads the shared stream, looks up
the user's write checkpoint, and yields an update whenever the checkpoint or the write
checkpoint changed.  Which sync rules are active is decided by
`MongoBucketBatch.autoActivate`, and `terminate` ends them.  The sources hold the MongoDB
backend's `autoActivate` and the Postgres backend's reads and `terminate`, which no deployment
runs together; the model runs both over one `sync_rules` table.

Both hand-offs may drop values: the listener writes to a `LastValueSink`, and the broadcast
hands a slow subscriber only the latest value.  Neither is in the repository;
`LastValueDelivery` says what a reader sees: some of the values written, in order, the last
one among them.

## What is proved

* `watch_delivers_latest`: whatever the two hand-offs drop and whatever write checkpoints
  the lookups return, the last update a connection receives carries the latest committed
  checkpoint and the last write checkpoint read, and no update repeats the one before.
  This needs every commit after the first query to reach the listener.  The listener is
  registered after the query, so a commit between the two is not notified, and the stream
  stays on the older checkpoint until the next commit (the example after the theorem).
* `SyncRulesTable.run_one_active`: over any sequence of new sync rules, `autoActivate`
  transactions and `terminate` calls, at most one row is `ACTIVE` or `ERRORED`, and no
  row's state moves back along `PROCESSING`, `ACTIVE`, `STOP`, `TERMINATED`.  So the first
  query of `watchActiveCheckpoint`, which has no `ORDER BY`, finds the row that
  `getActiveCheckpoint` finds.
-/

namespace PowerSync

/-! ## Checkpoints and notifications -/

/-- `storage.SyncRuleState`. -/
inductive SyncRuleState where
  | PROCESSING
  | ACTIVE
  | ERRORED
  | STOP
  | TERMINATED
deriving DecidableEq, Repr

/-- `models.ActiveCheckpoint`, decoded: the columns `id`, `last_checkpoint` and
`last_checkpoint_lsn` of a `sync_rules` row. -/
structure ActiveCheckpointRow where
  id : Nat
  last_checkpoint : Option Nat
  last_checkpoint_lsn : Option String
deriving DecidableEq, Repr

/-- `storage.ReplicationCheckpoint`. -/
structure ReplicationCheckpoint where
  checkpoint : Nat
  lsn : Option String
deriving DecidableEq, Repr

/-- `makeActiveCheckpoint(row)`. -/
def makeActiveCheckpoint (row : Option ActiveCheckpointRow) : ReplicationCheckpoint :=
  ⟨(row.bind (·.last_checkpoint)).getD 0, row.bind (·.last_checkpoint_lsn)⟩

/-- `models.ActiveCheckpointNotification`, decoded. -/
structure ActiveCheckpointNotification where
  active_checkpoint : Option ActiveCheckpointRow
deriving DecidableEq, Repr

/-- Modelled from the spec: what the reader of a `LastValueSink`, or a subscriber of a
`BroadcastIterable`, sees of the values written: some of them, in order, ending with the
last one written. -/
def LastValueDelivery {α : Type} (written delivered : List α) : Prop :=
  delivered.Sublist written ∧ delivered.getLast? = written.getLast?

instance {α : Type} [DecidableEq α] (written delivered : List α) :
    Decidable (LastValueDelivery written delivered) :=
  inferInstanceAs (Decidable (_ ∧ _))

/-! ## `watchActiveCheckpoint` -/

/-- `lastOp == null || activeCheckpoint.lsn != lastOp.lsn ||
activeCheckpoint.checkpoint != lastOp.checkpoint`. -/
def checkpointChanged (lastOp : Option ReplicationCheckpoint) (cp : ReplicationCheckpoint) :
    Bool :=
  match lastOp with
  | none => true
  | some l => cp.lsn != l.lsn || cp.checkpoint != l.checkpoint

/-- The `for await` loop of `watchActiveCheckpoint` over the payloads the sink delivers,
for the sync rules `docId`: the checkpoints it yields. -/
def watchActiveCheckpointLoop (docId : Nat) (lastOp : Option ReplicationCheckpoint) :
    List ActiveCheckpointNotification → List ReplicationCheckpoint
  | [] => []
  | n :: ns =>
    match n.active_checkpoint with
    | none => watchActiveCheckpointLoop docId lastOp ns
    | some row =>
      if row.id ≠ docId then []
      else
        let activeCheckpoint := makeActiveCheckpoint (some row)
        if checkpointChanged lastOp activeCheckpoint then
          activeCheckpoint :: watchActiveCheckpointLoop docId (some activeCheckpoint) ns
        else watchActiveCheckpointLoop docId lastOp ns

/-- `watchActiveCheckpoint(signal)`, given the row its first query returns and the payloads
its sink delivers; an abort ends the payloads. -/
def watchActiveCheckpoint (doc : Option ActiveCheckpointRow)
    (delivered : List ActiveCheckpointNotification) :
    Except SyncError (List ReplicationCheckpoint) :=
  match doc with
  | none => .error (.service "PSYNC_S2302" "No active sync rules available")
  | some doc =>
    .ok (makeActiveCheckpoint (some doc) :: watchActiveCheckpointLoop doc.id none delivered)

/-! ## `watchCheckpointChanges` -/

/-- `CHECKPOINT_INVALIDATE_ALL`. -/
def CHECKPOINT_INVALIDATE_ALL : CheckpointChanges := ⟨[], true, [], true⟩

/-- The loop of `watchCheckpointChanges`: each checkpoint of the shared stream, with the
write checkpoint that `lastWriteCheckpoint` returned for it.  An update records its base by
the base's checkpoint, the one field of it the connection reads. -/
def watchCheckpointChangesLoop (lastCheckpoint lastWriteCheckpoint : Option Nat) :
    List (ReplicationCheckpoint × Option Nat) → List StorageCheckpointUpdate
  | [] => []
  | (cp, currentWriteCheckpoint) :: rest =>
    if currentWriteCheckpoint = lastWriteCheckpoint ∧ some cp.checkpoint = lastCheckpoint then
      watchCheckpointChangesLoop lastCheckpoint lastWriteCheckpoint rest
    else
      ⟨cp.checkpoint, currentWriteCheckpoint, CHECKPOINT_INVALIDATE_ALL⟩ ::
        watchCheckpointChangesLoop (some cp.checkpoint) currentWriteCheckpoint rest

/-- `watchCheckpointChanges(options)`. -/
def watchCheckpointChanges (received : List (ReplicationCheckpoint × Option Nat)) :
    List StorageCheckpointUpdate :=
  watchCheckpointChangesLoop none none received

/-! ## The last checkpoint is delivered -/

theorem checkpointChanged_eq_false {lastOp : Option ReplicationCheckpoint}
    {cp : ReplicationCheckpoint} : checkpointChanged lastOp cp = false ↔ lastOp = some cp := by
  rcases lastOp with _ | ⟨c, l⟩
  · simp [checkpointChanged]
  · rcases cp with ⟨c', l'⟩
    simp only [checkpointChanged, Bool.or_eq_false_iff, bne_eq_false_iff_eq, Option.some.injEq,
      ReplicationCheckpoint.mk.injEq]
    exact ⟨fun h ↦ ⟨h.2.symm, h.1.symm⟩, fun h ↦ ⟨h.2.symm, h.1.symm⟩⟩

/-- One notification of the watched sync rules. -/
theorem watchActiveCheckpointLoop_cons {docId : Nat} {row : ActiveCheckpointRow}
    (h : row.id = docId) (lastOp : Option ReplicationCheckpoint)
    (ns : List ActiveCheckpointNotification) :
    watchActiveCheckpointLoop docId lastOp (⟨some row⟩ :: ns) =
      if checkpointChanged lastOp (makeActiveCheckpoint (some row)) then
        makeActiveCheckpoint (some row) ::
          watchActiveCheckpointLoop docId (some (makeActiveCheckpoint (some row))) ns
      else watchActiveCheckpointLoop docId lastOp ns := by
  rw [watchActiveCheckpointLoop]
  exact if_neg (not_not.2 h)

/-- Over notifications of the watched sync rules, the last checkpoint the loop yields, or
the one before the loop if it yields none, is that of the last notification. -/
theorem watchActiveCheckpointLoop_getLast {docId : Nat} (r : ActiveCheckpointRow) :
    ∀ (rs : List ActiveCheckpointRow) (lastOp : Option ReplicationCheckpoint),
      (∀ x ∈ rs ++ [r], x.id = docId) →
      (watchActiveCheckpointLoop docId lastOp ((rs ++ [r]).map fun x ↦ ⟨some x⟩)).getLast?.or
        lastOp = some (makeActiveCheckpoint (some r))
  | [], lastOp, hid => by
    rw [List.nil_append, List.map_singleton,
      watchActiveCheckpointLoop_cons (hid r (List.mem_singleton_self r))]
    cases hc : checkpointChanged lastOp (makeActiveCheckpoint (some r))
    · rw [if_neg Bool.false_ne_true, checkpointChanged_eq_false.1 hc]
      rfl
    · rfl
  | x :: rs, lastOp, hid => by
    have hrest : ∀ y ∈ rs ++ [r], y.id = docId := fun y hy ↦ hid y (List.mem_cons_of_mem _ hy)
    rw [List.cons_append, List.map_cons,
      watchActiveCheckpointLoop_cons (hid x (List.mem_cons_self _ _))]
    split
    · rw [List.getLast?_cons, Option.or_some, ← watchActiveCheckpointLoop_getLast r rs _ hrest]
      cases (watchActiveCheckpointLoop docId (some (makeActiveCheckpoint (some x)))
        ((rs ++ [r]).map fun x ↦ ⟨some x⟩)).getLast? <;> rfl
    · exact watchActiveCheckpointLoop_getLast r rs lastOp hrest

/-- The stream of `watchActiveCheckpoint` ends on the latest row: the last notification
delivered, or the first query's row if none is. -/
theorem watchActiveCheckpoint_getLast (doc : ActiveCheckpointRow) (after : List ActiveCheckpointRow)
    (hid : ∀ r ∈ after, r.id = doc.id) {delivered : List ActiveCheckpointNotification}
    (hdelivered : LastValueDelivery (after.map fun r ↦ ⟨some r⟩) delivered)
    {checkpoints : List ReplicationCheckpoint}
    (hwatch : watchActiveCheckpoint (some doc) delivered = .ok checkpoints) :
    checkpoints.getLast? =
      some (makeActiveCheckpoint (some ((doc :: after).getLast (List.cons_ne_nil _ _)))) := by
  obtain ⟨ds, hds, rfl⟩ := List.sublist_map_iff.1 hdelivered.1
  have hlast := hdelivered.2
  cases hwatch
  rcases List.eq_nil_or_concat ds with rfl | ⟨ds', d, rfl⟩
  · rw [List.map_nil, List.getLast?_nil, eq_comm, List.getLast?_eq_none_iff,
      List.map_eq_nil_iff] at hlast
    subst hlast
    rfl
  rcases List.eq_nil_or_concat after with rfl | ⟨rs, r, rfl⟩
  · exact absurd (List.eq_nil_of_sublist_nil hds) (by simp)
  simp only [List.concat_eq_append] at hds hlast hid ⊢
  rw [List.getLast?_map, List.getLast?_map, List.getLast?_append, List.getLast?_append,
    List.getLast?_singleton, List.getLast?_singleton, Option.or_some, Option.or_some] at hlast
  obtain rfl : d = r := by simpa using hlast
  have h := watchActiveCheckpointLoop_getLast d ds' none fun x hx ↦ hid x (hds.subset hx)
  rw [Option.or_none] at h
  rw [List.getLast?_cons, h, Option.getD_some]
  simp

/-! ## The last update is delivered, and none repeats -/

/-- The pair an update is compared on. -/
def updateKey (u : StorageCheckpointUpdate) : Option Nat × Option Nat :=
  (some u.checkpoint, u.writeCheckpoint)

/-- After the loop, the last update, or the state before it if it yields none, is the last
input's checkpoint and write checkpoint. -/
theorem watchCheckpointChangesLoop_getLast (i : ReplicationCheckpoint × Option Nat) :
    ∀ (inputs : List (ReplicationCheckpoint × Option Nat)) (lc lw : Option Nat),
      ((watchCheckpointChangesLoop lc lw (inputs ++ [i])).getLast?.map updateKey).getD (lc, lw) =
        (some i.1.checkpoint, i.2)
  | [], lc, lw => by
    simp only [List.nil_append, watchCheckpointChangesLoop]
    split
    · rename_i h
      rw [h.1, h.2]
      rfl
    · rfl
  | j :: inputs, lc, lw => by
    simp only [List.cons_append, watchCheckpointChangesLoop]
    split
    · exact watchCheckpointChangesLoop_getLast i inputs lc lw
    · rw [List.getLast?_cons, Option.map_some', Option.getD_some,
        ← watchCheckpointChangesLoop_getLast i inputs (some j.1.checkpoint) j.2]
      cases (watchCheckpointChangesLoop (some j.1.checkpoint) j.2 (inputs ++ [i])).getLast? <;> rfl

/-- Each update differs from the one before it, the first from the loop's start. -/
theorem chain_watchCheckpointChangesLoop :
    ∀ (inputs : List (ReplicationCheckpoint × Option Nat)) (lc lw : Option Nat),
      List.Chain (· ≠ ·) (lc, lw) ((watchCheckpointChangesLoop lc lw inputs).map updateKey)
  | [], _, _ => .nil
  | j :: inputs, lc, lw => by
    simp only [watchCheckpointChangesLoop]
    split
    · exact chain_watchCheckpointChangesLoop inputs lc lw
    · rename_i h
      refine .cons (fun he ↦ h ?_) (chain_watchCheckpointChangesLoop inputs _ _)
      simp only [updateKey, Prod.mk.injEq] at he
      exact ⟨he.2.symm, he.1.symm⟩

/-- The first input always yields: no checkpoint was seen before it. -/
theorem watchCheckpointChanges_ne_nil {inputs : List (ReplicationCheckpoint × Option Nat)}
    (h : inputs ≠ []) : watchCheckpointChanges inputs ≠ [] := by
  obtain ⟨j, inputs, rfl⟩ := List.exists_cons_of_ne_nil h
  simp only [watchCheckpointChanges, watchCheckpointChangesLoop, reduceCtorEq, and_false,
    if_false]
  exact List.cons_ne_nil _ _

/-- No lost and no repeated update: whatever the sink and the broadcast drop and whatever
write checkpoints the lookups return, the last update a connection receives carries the
latest committed checkpoint and the last write checkpoint read, and no two updates in a row
agree on both.  `after` is every commit after the first query, each notified to the
listener. -/
theorem watch_delivers_latest (doc : ActiveCheckpointRow) (after : List ActiveCheckpointRow)
    (hid : ∀ r ∈ after, r.id = doc.id) {delivered : List ActiveCheckpointNotification}
    (hdelivered : LastValueDelivery (after.map fun r ↦ ⟨some r⟩) delivered)
    {checkpoints : List ReplicationCheckpoint}
    (hwatch : watchActiveCheckpoint (some doc) delivered = .ok checkpoints)
    {received : List (ReplicationCheckpoint × Option Nat)}
    (hreceived : LastValueDelivery checkpoints (received.map (·.1))) :
    ∃ u, (watchCheckpointChanges received).getLast? = some u ∧
      u.checkpoint = ((doc :: after).getLast (List.cons_ne_nil _ _)).last_checkpoint.getD 0 ∧
      some u.writeCheckpoint = received.getLast?.map (·.2) ∧
      (watchCheckpointChanges received).Chain' fun u v ↦
        (u.checkpoint, u.writeCheckpoint) ≠ (v.checkpoint, v.writeCheckpoint) := by
  have hlast := hreceived.2
  rw [watchActiveCheckpoint_getLast doc after hid hdelivered hwatch, List.getLast?_map] at hlast
  rcases List.eq_nil_or_concat received with rfl | ⟨rs, i, rfl⟩
  · cases hlast
  rw [List.concat_eq_append, List.getLast?_append, List.getLast?_singleton, Option.or_some,
    Option.map_some', Option.some.injEq] at hlast
  rw [List.concat_eq_append]
  have hne : watchCheckpointChanges (rs ++ [i]) ≠ [] := watchCheckpointChanges_ne_nil (by simp)
  have hkey := watchCheckpointChangesLoop_getLast i rs none none
  rw [← watchCheckpointChanges, List.getLast?_eq_getLast _ hne, Option.map_some',
    Option.getD_some, updateKey, Prod.mk.injEq, Option.some.injEq] at hkey
  have hchain : List.Chain' (· ≠ ·)
      ((none, none) :: (watchCheckpointChanges (rs ++ [i])).map updateKey) :=
    chain_watchCheckpointChangesLoop (rs ++ [i]) none none
  replace hchain := (List.chain'_map updateKey).1 hchain.tail
  refine ⟨_, List.getLast?_eq_getLast _ hne, by rw [hkey.1, hlast]; rfl, ?_,
    hchain.imp fun a b h he ↦ h ?_⟩
  · rw [List.getLast?_append, List.getLast?_singleton, Option.or_some, Option.map_some', hkey.2]
  · simp only [updateKey, Prod.mk.injEq, Option.some.injEq] at he ⊢
    exact he

/-- Sync rules 1 at checkpoint 5 when first read, then commits to 6 and 7. -/
def watchedRow (cp : Nat) : ActiveCheckpointRow := ⟨1, some cp, some ("0/" ++ toString cp)⟩

/-- The sink drops the commit to 6, the broadcast drops checkpoint 5, and the write
checkpoint lookup returns 3. -/
theorem watch_delivers_latest_dropped :
    ∃ u, (watchCheckpointChanges [(⟨7, some "0/7"⟩, some 3)]).getLast? = some u ∧
      u.checkpoint = ((watchedRow 5 :: [watchedRow 6, watchedRow 7]).getLast
        (List.cons_ne_nil _ _)).last_checkpoint.getD 0 ∧
      some u.writeCheckpoint = [((⟨7, some "0/7"⟩ : ReplicationCheckpoint), some 3)].getLast?.map (·.2) ∧
      (watchCheckpointChanges [(⟨7, some "0/7"⟩, some 3)]).Chain' fun u v ↦
        (u.checkpoint, u.writeCheckpoint) ≠ (v.checkpoint, v.writeCheckpoint) :=
  watch_delivers_latest (watchedRow 5) [watchedRow 6, watchedRow 7] (by decide)
    (show LastValueDelivery ([watchedRow 6, watchedRow 7].map
      fun r ↦ (⟨some r⟩ : ActiveCheckpointNotification)) [⟨some (watchedRow 7)⟩] by decide)
    rfl (by decide)

/-- The window: the row is read at checkpoint 5, a commit to checkpoint 6 lands before the
listener is registered, and no commit follows.  The stream never leaves checkpoint 5. -/
example : watchActiveCheckpoint (some ⟨1, some 5, none⟩) [] = .ok [⟨5, none⟩] := rfl

/-! ## Which sync rules are active -/

/-- The columns of a `sync_rules` row that activation and the checkpoint queries read. -/
structure SyncRulesRow where
  id : Nat
  state : SyncRuleState
  last_checkpoint : Option Nat
  last_checkpoint_lsn : Option String
deriving DecidableEq, Repr

/-- `state = ACTIVE OR state = ERRORED`, and `state: { $in: [ACTIVE, ERRORED] }`. -/
def SyncRuleState.activeOrErrored : SyncRuleState → Bool
  | .ACTIVE | .ERRORED => true
  | _ => false

/-- The row as `models.ActiveCheckpoint` decodes it. -/
def SyncRulesRow.toActiveCheckpoint (r : SyncRulesRow) : ActiveCheckpointRow :=
  ⟨r.id, r.last_checkpoint, r.last_checkpoint_lsn⟩

/-- `updateOne({ _id: group_id }, { $set: { state: ACTIVE } })`, on one row. -/
def activateRow (group_id : Nat) (r : SyncRulesRow) : SyncRulesRow :=
  if r.id = group_id then { r with state := .ACTIVE } else r

/-- `updateMany({ _id: { $ne: group_id }, state: { $in: [ACTIVE, ERRORED] } },
{ $set: { state: STOP } })`, on one row. -/
def stopOtherRow (group_id : Nat) (r : SyncRulesRow) : SyncRulesRow :=
  if r.id ≠ group_id ∧ r.state.activeOrErrored then { r with state := .STOP } else r

/-- The transaction of `autoActivate` for the sync rules `group_id`: `findOne`, and if they
are `PROCESSING`, the two updates.  With whether it activated. -/
def autoActivateTx (group_id : Nat) (rows : List SyncRulesRow) : List SyncRulesRow × Bool :=
  match rows.find? (·.id = group_id) with
  | some doc =>
    if doc.state = .PROCESSING then
      ((rows.map (activateRow group_id)).map (stopOtherRow group_id), true)
    else (rows, false)
  | none => (rows, false)

/-- `autoActivate(lsn)`: the transaction the first time only; the table and
`needsActivation` after. -/
def autoActivate (needsActivation : Bool) (group_id : Nat) (rows : List SyncRulesRow) :
    List SyncRulesRow × Bool :=
  if !needsActivation then (rows, needsActivation)
  else ((autoActivateTx group_id rows).1, false)

/-- The update of `terminate(options)` on one row: `clear` when asked to or given no
options, which empties the row's checkpoint, then the state `TERMINATED`. -/
def terminateRow (clearStorage : Bool) (group_id : Nat) (r : SyncRulesRow) : SyncRulesRow :=
  if r.id = group_id then
    if clearStorage then
      { r with state := .TERMINATED, last_checkpoint := none, last_checkpoint_lsn := none }
    else { r with state := .TERMINATED }
  else r

/-- `terminate(options)` of the sync rules `group_id`. -/
def terminate (clearStorage : Bool) (group_id : Nat) (rows : List SyncRulesRow) :
    List SyncRulesRow :=
  rows.map (terminateRow clearStorage group_id)

@[simp] theorem activateRow_id (g : Nat) (r : SyncRulesRow) : (activateRow g r).id = r.id := by
  unfold activateRow; split <;> rfl

@[simp] theorem stopOtherRow_id (g : Nat) (r : SyncRulesRow) : (stopOtherRow g r).id = r.id := by
  unfold stopOtherRow; split <;> rfl

@[simp] theorem terminateRow_id (c : Bool) (g : Nat) (r : SyncRulesRow) :
    (terminateRow c g r).id = r.id := by
  unfold terminateRow; split <;> [split <;> rfl; rfl]

/-- `getActiveCheckpoint()`: the `ACTIVE` or `ERRORED` row with the largest id. -/
def getActiveCheckpoint (rows : List SyncRulesRow) : ReplicationCheckpoint :=
  makeActiveCheckpoint
    (((rows.filter (·.state.activeOrErrored)).argmax (·.id)).map (·.toActiveCheckpoint))

/-- Modelled from the spec: new sync rules are written by the storage factory, which is not
in the repository: a `PROCESSING` row with an id above every other. -/
def createSyncRules (rows : List SyncRulesRow) : List SyncRulesRow :=
  rows ++ [⟨(rows.map (·.id)).foldr max 0 + 1, .PROCESSING, none, none⟩]

/-- What changes which sync rules are active. -/
inductive SyncRulesEvent where
  | create
  | activate (group_id : Nat)
  | terminate (clearStorage : Bool) (group_id : Nat)
deriving DecidableEq, Repr

/-- Modelled from the spec: the lifecycle's order, `PROCESSING`, then `ACTIVE` (or
`ERRORED`), then `STOP`, then `TERMINATED`. -/
def SyncRuleState.rank : SyncRuleState → Nat
  | .PROCESSING => 0
  | .ACTIVE | .ERRORED => 1
  | .STOP => 2
  | .TERMINATED => 3

namespace SyncRulesTable

/-- One event on the table. -/
def step (rows : List SyncRulesRow) : SyncRulesEvent → List SyncRulesRow
  | .create => createSyncRules rows
  | .activate group_id => (autoActivateTx group_id rows).1
  | .terminate clearStorage group_id => terminate clearStorage group_id rows

/-- A run of events. -/
def run (rows : List SyncRulesRow) (events : List SyncRulesEvent) : List SyncRulesRow :=
  events.foldl step rows

/-- Ids are unique, and at most one row is `ACTIVE` or `ERRORED`. -/
structure Good (rows : List SyncRulesRow) : Prop where
  nodup_ids : (rows.map (·.id)).Nodup
  one_active : ∀ r ∈ rows, ∀ r' ∈ rows, r.state.activeOrErrored → r'.state.activeOrErrored →
    r = r'

/-- Every row is still there, under its id, no earlier in the lifecycle. -/
def Forward (rows rows' : List SyncRulesRow) : Prop :=
  ∀ r ∈ rows, ∃ r' ∈ rows', r'.id = r.id ∧ r.state.rank ≤ r'.state.rank

theorem Forward.refl (rows : List SyncRulesRow) : Forward rows rows :=
  fun r hr ↦ ⟨r, hr, rfl, le_rfl⟩

theorem Forward.trans {rows rows' rows'' : List SyncRulesRow} (h : Forward rows rows')
    (h' : Forward rows' rows'') : Forward rows rows'' := fun r hr ↦ by
  obtain ⟨r', hr', hid, hle⟩ := h r hr
  obtain ⟨r'', hr'', hid', hle'⟩ := h' r' hr'
  exact ⟨r'', hr'', hid'.trans hid, hle.trans hle'⟩

section Map

variable {rows : List SyncRulesRow} {f : SyncRulesRow → SyncRulesRow}

/-- A row-by-row update that keeps ids and moves states forward. -/
theorem forward_map (hrank : ∀ r ∈ rows, r.state.rank ≤ (f r).state.rank)
    (hid : ∀ r, (f r).id = r.id) : Forward rows (rows.map f) :=
  fun r hr ↦ ⟨f r, List.mem_map_of_mem f hr, hid r, hrank r hr⟩

theorem nodup_ids_map (h : (rows.map (·.id)).Nodup) (hid : ∀ r, (f r).id = r.id) :
    ((rows.map f).map (·.id)).Nodup := by
  rwa [List.map_map, show ((·.id) ∘ f) = (·.id) from funext hid]

/-- An update that keeps ids and leaves `ACTIVE` or `ERRORED` only rows of the id `g`:
the row that id names. -/
theorem good_map_of_active_id (h : Good rows) (hid : ∀ r, (f r).id = r.id) {g : Nat}
    (hactive : ∀ r ∈ rows, (f r).state.activeOrErrored → r.id = g) : Good (rows.map f) := by
  refine ⟨nodup_ids_map h.nodup_ids hid, ?_⟩
  intro r hr r' hr' ha ha'
  obtain ⟨x, hx, rfl⟩ := List.mem_map.1 hr
  obtain ⟨y, hy, rfl⟩ := List.mem_map.1 hr'
  rw [List.inj_on_of_nodup_map h.nodup_ids hx hy ((hactive x hx ha).trans (hactive y hy ha').symm)]

/-- An update that keeps ids and makes no row `ACTIVE` or `ERRORED`. -/
theorem good_map_of_active_fixed (h : Good rows) (hid : ∀ r, (f r).id = r.id)
    (hactive : ∀ r, (f r).state.activeOrErrored → f r = r) : Good (rows.map f) := by
  refine ⟨nodup_ids_map h.nodup_ids hid, ?_⟩
  intro r hr r' hr' ha ha'
  obtain ⟨x, hx, rfl⟩ := List.mem_map.1 hr
  obtain ⟨y, hy, rfl⟩ := List.mem_map.1 hr'
  have hfx := hactive x ha
  have hfy := hactive y ha'
  rw [hfx] at ha ⊢
  rw [hfy] at ha' ⊢
  exact h.one_active x hx y hy ha ha'

end Map

/-! ### The three events -/

variable {rows : List SyncRulesRow}

theorem create_good (h : Good rows) : Good (createSyncRules rows) ∧ Forward rows (createSyncRules rows) := by
  have hfresh : (rows.map (·.id)).foldr max 0 + 1 ∉ rows.map (·.id) := fun hm ↦
    absurd (List.le_max_of_le hm le_rfl) (Nat.not_succ_le_self _)
  refine ⟨⟨?_, fun r hr r' hr' ha ha' ↦ ?_⟩,
    fun r hr ↦ ⟨r, List.mem_append_left _ hr, rfl, le_rfl⟩⟩
  · rw [createSyncRules, List.map_append, List.map_singleton]
    exact h.nodup_ids.append (List.nodup_singleton _)
      (List.disjoint_singleton.2 hfresh)
  · rcases List.mem_append.1 hr with hr | hr <;> rcases List.mem_append.1 hr' with hr' | hr'
    · exact h.one_active r hr r' hr' ha ha'
    all_goals
      first
      | (rw [List.mem_singleton.1 hr] at ha; cases ha)
      | (rw [List.mem_singleton.1 hr'] at ha'; cases ha')

/-- After `stopOtherRow g`, only a row of the id `g` can be `ACTIVE` or `ERRORED`. -/
theorem id_of_active_stopOtherRow {g : Nat} {r : SyncRulesRow}
    (h : (stopOtherRow g r).state.activeOrErrored) : r.id = g := by
  unfold stopOtherRow at h
  split at h
  · simp [SyncRuleState.activeOrErrored] at h
  · rename_i hn
    by_contra hr
    exact hn ⟨hr, h⟩

theorem activate_good (h : Good rows) (g : Nat) :
    Good (autoActivateTx g rows).1 ∧ Forward rows (autoActivateTx g rows).1 := by
  unfold autoActivateTx
  split
  · rename_i doc hdoc
    have hmem := List.mem_of_find?_eq_some hdoc
    have hdocid : doc.id = g := by simpa using List.find?_some hdoc
    split
    · rename_i hproc
      rw [List.map_map]
      have hid : ∀ r, ((stopOtherRow g ∘ activateRow g) r).id = r.id := by simp
      refine ⟨good_map_of_active_id h hid (g := g) fun r _ ha ↦ ?_,
        forward_map (fun r hr ↦ ?_) hid⟩
      · simpa using id_of_active_stopOtherRow ha
      · by_cases hr' : r.id = g
        · obtain rfl : r = doc :=
            List.inj_on_of_nodup_map h.nodup_ids hr hmem (hr'.trans hdocid.symm)
          simp [activateRow, stopOtherRow, hr', hproc, SyncRuleState.rank]
        · simp only [Function.comp_apply, activateRow, stopOtherRow, hr', if_false, ne_eq,
            not_false_eq_true, true_and]
          split
          · rename_i hra
            have ha : r.state.activeOrErrored = true := hra
            show r.state.rank ≤ SyncRuleState.STOP.rank
            revert ha
            cases r.state <;> decide
          · exact le_rfl
    · exact ⟨h, .refl rows⟩
  · exact ⟨h, .refl rows⟩

theorem terminate_good (h : Good rows) (c : Bool) (g : Nat) :
    Good (terminate c g rows) ∧ Forward rows (terminate c g rows) := by
  refine ⟨good_map_of_active_fixed h (terminateRow_id c g) fun r ha ↦ ?_,
    forward_map (fun r _ ↦ ?_) (terminateRow_id c g)⟩
  · by_cases hr : r.id = g
    · cases c <;> simp [terminateRow, hr, SyncRuleState.activeOrErrored] at ha
    · simp [terminateRow, hr]
  · by_cases hr : r.id = g
    · cases c <;> simp only [terminateRow, hr, if_true, Bool.false_eq_true, if_false] <;>
        cases r.state <;> decide
    · simp [terminateRow, hr]

theorem step_good (h : Good rows) (e : SyncRulesEvent) :
    Good (step rows e) ∧ Forward rows (step rows e) := by
  cases e with
  | create => exact create_good h
  | activate g => exact activate_good h g
  | terminate c g => exact terminate_good h c g

/-- With at most one `ACTIVE` or `ERRORED` row, `getActiveCheckpoint` reports it. -/
theorem Good.getActiveCheckpoint_eq (h : Good rows) {r : SyncRulesRow} (hr : r ∈ rows)
    (ha : r.state.activeOrErrored) :
    getActiveCheckpoint rows = makeActiveCheckpoint (some r.toActiveCheckpoint) := by
  have hne : rows.filter (·.state.activeOrErrored) ≠ [] :=
    List.ne_nil_of_mem (List.mem_filter.2 ⟨hr, ha⟩)
  obtain ⟨m, hm⟩ := Option.ne_none_iff_exists'.1
    (mt (List.argmax_eq_none (f := fun r : SyncRulesRow ↦ r.id)).1 hne)
  have hmem := List.mem_filter.1 (List.argmax_mem hm)
  rw [getActiveCheckpoint, hm, h.one_active m hmem.1 r hr hmem.2 ha]
  rfl

/-- Over any sequence of new sync rules, activations and terminations, at most one row is
`ACTIVE` or `ERRORED`, no row goes back in the lifecycle, and `getActiveCheckpoint` reports
whichever `ACTIVE` or `ERRORED` row the unordered first query of `watchActiveCheckpoint`
finds. -/
theorem run_one_active (h : Good rows) (events : List SyncRulesEvent) :
    Good (run rows events) ∧ Forward rows (run rows events) ∧
      ∀ r ∈ run rows events, r.state.activeOrErrored →
        getActiveCheckpoint (run rows events) = makeActiveCheckpoint (some r.toActiveCheckpoint) := by
  suffices hgf : Good (run rows events) ∧ Forward rows (run rows events) from
    ⟨hgf.1, hgf.2, fun r hr ha ↦ hgf.1.getActiveCheckpoint_eq hr ha⟩
  induction events generalizing rows with
  | nil => exact ⟨h, .refl rows⟩
  | cons e events ih =>
    obtain ⟨hg, hf⟩ := step_good h e
    obtain ⟨hg', hf'⟩ := ih hg
    exact ⟨hg', hf.trans hf'⟩

/-- Two sync rules, the first activated, then the second, then the first terminated. -/
def lifecycleEvents : List SyncRulesEvent :=
  [.create, .activate 1, .create, .activate 2, .terminate true 1]

theorem run_one_active_lifecycle :
    Good (run [] lifecycleEvents) ∧ Forward [] (run [] lifecycleEvents) ∧
      ∀ r ∈ run [] lifecycleEvents, r.state.activeOrErrored →
        getActiveCheckpoint (run [] lifecycleEvents) =
          makeActiveCheckpoint (some r.toActiveCheckpoint) :=
  run_one_active (show Good [] from ⟨List.nodup_nil, fun r hr ↦ absurd hr (List.not_mem_nil r)⟩)
    lifecycleEvents

/-- The second sync rules end `ACTIVE`, the first `STOP`ped and then `TERMINATED`. -/
example : (run [] lifecycleEvents).map (·.state) = [.TERMINATED, .ACTIVE] := by decide

end SyncRulesTable

end PowerSync
