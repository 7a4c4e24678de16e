import PowerSync.Replication.Checkpoints

/-!
# Retried transactions

`withTransaction` runs its callback through `session.withTransaction`.  That call runs the
callback again when an attempt fails with a transient error, whether the error is raised
at one of its statements or at commit.  The database writes of a failed attempt are
rolled back.  What the attempt assigned to the batch's fields, or to the locals of the
enclosing function, is not.

An attempt is modelled as its statements in order.  A failed attempt is given by the
number of statements that ran before the error; the statement count itself means the
error came at commit.

`retried_transactions_differ` compares runs whose first attempt fails with runs where it
commits:

* `flushInner` clears `write_checkpoint_batch` inside the callback.  If an attempt fails
  after that, the attempt that commits writes no write checkpoint, takes no op id for it
  and leaves a different `persisted_op`.
* `markSnapshotDone` sets `no_checkpoint_before_lsn` in memory before it writes
  `no_checkpoint_before`.  If the attempt fails after that, the retry no longer sees a
  larger LSN and writes nothing.
-/

namespace PowerSync

/-- The collections these transactions write.  Each bucket op is kept as its op id, and
each write checkpoint as its user id and the op id it was written at. -/
structure Database where
  bucket_ops : List Nat
  write_checkpoints : List (String × Nat)
  op_id : Nat
  no_checkpoint_before : String
  snapshot_done : List String
  deriving DecidableEq, Repr

/-- The batch's fields that these transactions read and write.  `batch` holds the number
of ops the pending batch writes, if there is one; its records are the subject of
`replicateBatch`. -/
structure BatchMemory where
  batch : Option Nat
  write_checkpoint_batch : List String
  no_checkpoint_before_lsn : String
  persisted_op : Option Nat
  deriving DecidableEq, Repr

/-- What an attempt works on: the database, the batch's fields, and the locals of the
function that runs the transaction. -/
structure Ctx (L : Type) where
  db : Database
  mem : BatchMemory
  locals : L
  deriving DecidableEq, Repr

section Attempts

variable {L : Type}

/-- The statements of an attempt, run in order. -/
def runStmts (stmts : List (Ctx L → Ctx L)) (c : Ctx L) : Ctx L :=
  stmts.foldl (fun c f ↦ f c) c

/-- `session.withTransaction`.  Each entry of `fails` is one failed attempt: the number of
statements it ran before the transient error.  Its database writes are rolled back, and its
other assignments stay.  The attempt after the last failure commits. -/
def withTransaction (stmts : List (Ctx L → Ctx L)) : List Nat → Ctx L → Ctx L
  | [], c => runStmts stmts c
  | k :: ks, c => withTransaction stmts ks { runStmts (stmts.take k) c with db := c.db }

end Attempts

/-! ## `flushInner` -/

/-- The locals of `flushInner` and of its attempt: the `batch` it captured, the attempt's
`opSeq` as its last id, `resumeBatch` and `last_op`. -/
structure FlushLocals where
  batch : Option Nat
  opSeq : Nat
  resumeBatch : Option Nat
  last_op : Option Nat
  deriving DecidableEq, Repr

namespace FlushStmt

/-- `op_id_sequence.findOneAndUpdate`, and `new MongoIdSequence` from its `op_id`. -/
def readSequence (c : Ctx FlushLocals) : Ctx FlushLocals :=
  { c with locals := { c.locals with opSeq := c.db.op_id } }

/-- `replicateBatch` when a batch was captured: its ops take the next ids, and the whole
batch fits in this transaction. -/
def replicateBatch (c : Ctx FlushLocals) : Ctx FlushLocals :=
  match c.locals.batch with
  | some n =>
      { c with
        db := { c.db with bucket_ops := c.db.bucket_ops ++ List.range' (c.locals.opSeq + 1) n }
        locals := { c.locals with opSeq := c.locals.opSeq + n, resumeBatch := none } }
  | none => c

/-- Modelled from the spec: `batchCreateCustomWriteCheckpoints` is not in the sources.  It
writes each pending write checkpoint at the id `opSeq.next()`. -/
def writeCheckpoints (c : Ctx FlushLocals) : Ctx FlushLocals :=
  if c.mem.write_checkpoint_batch ≠ [] then
    let id := c.locals.opSeq + 1
    { c with
      db := { c.db with
        write_checkpoints := c.db.write_checkpoints ++ c.mem.write_checkpoint_batch.map (·, id) }
      locals := { c.locals with opSeq := id } }
  else c

/-- `this.write_checkpoint_batch = []`, in the same branch. -/
def clearWriteCheckpoints (c : Ctx FlushLocals) : Ctx FlushLocals :=
  if c.mem.write_checkpoint_batch ≠ [] then
    { c with mem := { c.mem with write_checkpoint_batch := [] } }
  else c

/-- `last_op = opSeq.last()`. -/
def setLastOp (c : Ctx FlushLocals) : Ctx FlushLocals :=
  { c with locals := { c.locals with last_op := some c.locals.opSeq } }

/-- `op_id_sequence.updateOne` with `opSeq.last()`. -/
def writeSequence (c : Ctx FlushLocals) : Ctx FlushLocals :=
  { c with db := { c.db with op_id := c.locals.opSeq } }

end FlushStmt

/-- The statements of a `flushInner` attempt.  The `last_keepalive_ts` update that ends it
sets no field of this model. -/
def flushStmts : List (Ctx FlushLocals → Ctx FlushLocals) :=
  [FlushStmt.readSequence, FlushStmt.replicateBatch, FlushStmt.writeCheckpoints,
    FlushStmt.clearWriteCheckpoints, FlushStmt.setLastOp, FlushStmt.writeSequence]

/-- `flushInner`, with the attempts that fail before one commits. -/
def flushInner (fails : List Nat) (db : Database) (mem : BatchMemory) :
    Except String (Database × BatchMemory) :=
  let c := withTransaction flushStmts fails ⟨db, mem, ⟨mem.batch, 0, none, none⟩⟩
  match c.locals.last_op with
  | none => .error "Unexpected last_op == null"
  | some op => .ok (c.db, { c.mem with batch := c.locals.resumeBatch, persisted_op := some op })

/-- No batch, and one custom write checkpoint waiting. -/
def oneCheckpointMemory : BatchMemory := ⟨none, ["user1"], "0/0", none⟩

/-- A database with no op id taken yet. -/
def emptyDatabase : Database := ⟨[], [], 0, "0/0", []⟩

/-! ## `markSnapshotDone` -/

namespace SnapshotStmt

/-- `source_tables.updateMany`: the tables' snapshots are done. -/
def markTables (ids : List String) (c : Ctx Bool) : Ctx Bool :=
  { c with db := { c.db with snapshot_done := c.db.snapshot_done ++ ids } }

/-- The test of the `if` and the assignment that opens its branch; the local records
whether the branch runs. -/
def setLsn (lsn : String) (c : Ctx Bool) : Ctx Bool :=
  if lsnLt c.mem.no_checkpoint_before_lsn lsn then
    { c with mem := { c.mem with no_checkpoint_before_lsn := lsn }, locals := true }
  else { c with locals := false }

/-- `sync_rules.updateOne` with `no_checkpoint_before`, in the same branch. -/
def writeLsn (lsn : String) (c : Ctx Bool) : Ctx Bool :=
  if c.locals then { c with db := { c.db with no_checkpoint_before := lsn } } else c

end SnapshotStmt

/-- `markSnapshotDone`, with the attempts that fail before one commits. -/
def markSnapshotDone (fails : List Nat) (ids : List String) (lsn : String) (db : Database)
    (mem : BatchMemory) : Database × BatchMemory :=
  let c := withTransaction [SnapshotStmt.markTables ids, SnapshotStmt.setLsn lsn,
    SnapshotStmt.writeLsn lsn] fails ⟨db, mem, false⟩
  (c.db, c.mem)

/-- A batch with nothing pending. -/
def idleMemory : BatchMemory := ⟨none, [], "0/0", none⟩

theorem retried_transactions_differ :
    flushInner [] emptyDatabase oneCheckpointMemory =
      .ok (⟨[], [("user1", 1)], 1, "0/0", []⟩, ⟨none, [], "0/0", some 1⟩) ∧
    flushInner [5] emptyDatabase oneCheckpointMemory =
      .ok (⟨[], [], 0, "0/0", []⟩, ⟨none, [], "0/0", some 0⟩) ∧
    markSnapshotDone [] ["t1"] "0/5" emptyDatabase idleMemory =
      (⟨[], [], 0, "0/5", ["t1"]⟩, ⟨none, [], "0/5", none⟩) ∧
    markSnapshotDone [3] ["t1"] "0/5" emptyDatabase idleMemory =
      (⟨[], [], 0, "0/0", ["t1"]⟩, ⟨none, [], "0/5", none⟩) :=
  ⟨rfl, rfl, by decide, by decide⟩

end PowerSync
