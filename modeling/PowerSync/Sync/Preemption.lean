import PowerSync.Sync.Stream

/-!
# Preempting a batch

`bucketDataInBatches` runs `bucketDataBatch` while `!request.abort_connection.aborted &&
!isDone`.  The loop tests the connection's signal, not `abort_batch`.  When the batch
signal fires, `bucketDataBatch` stops after the line it is sending, and its `has_more`
decides what follows:

* if no chunk of the batch had more data, it yields its completion line and sets
  `isDone`, and the loop ends;
* otherwise it returns without a line, `isDone` stays false, and the loop starts a new
  `bucketDataBatch`, which asks the semaphore again.  `acquireSemaphoreAbortable` is given
  the aborted signal.  If it answers `'aborted'`, the same happens again.

In the model, `Conn.Spinning` is the state at the semaphore with the batch aborted and
the connection open, and `Conn.Spinning.run` shows that no run leaves it without a
permit or the connection's abort.  `Conn.spinning_of_resume` shows how a batch reaches
it: the consumer pulls the data line of a chunk with more data after the batch was
aborted.
-/

namespace PowerSync

/-- `bucketDataInBatches` at `acquireSemaphoreAbortable`, with `abort_batch` aborted and
the connection open. -/
structure Conn.Spinning (c : Conn) : Prop where
  pc : c.pc = .acquire
  batchAborted : c.batchAborted = true
  connAborted : c.connAborted = false
  isDone : c.isDone = false

/-- The events after which the loop can be still at the semaphore: all but a permit
and the connection's abort. -/
def Event.spins : Event → Bool
  | .abortConnection => false
  | .acquire (some _) => false
  | _ => true

section Frames

variable (c : Conn)

theorem maybeRace_batchAborted : (maybeRace c).batchAborted = c.batchAborted := by
  unfold maybeRace; split <;> rfl

theorem maybeRace_connAborted : (maybeRace c).connAborted = c.connAborted := by
  unfold maybeRace; split <;> rfl

theorem maybeRace_isDone : (maybeRace c).isDone = c.isDone := by
  unfold maybeRace; split <;> rfl

theorem maybeRace_has_more : (maybeRace c).has_more = c.has_more := by
  unfold maybeRace; split <;> rfl

end Frames

section Machine

variable (ctx : SyncContext) (q : BucketParameterQuerier) (s : ChecksumStorage)
  (lim : BatchLimits)

/-- At the semaphore, an `'aborted'` answer starts the next `bucketDataBatch`, and every
other event but a permit or the connection's abort is not waited for. -/
theorem Conn.Spinning.step {c : Conn} (hc : c.Spinning) {e : Event} (he : e.spins = true) :
    (step ctx q s lim c e).1.Spinning ∧ (step ctx q s lim c e).2 = [] := by
  obtain ⟨hpc, hb, hconn, hdone⟩ := hc
  cases e with
  | next r =>
    simp only [PowerSync.step, onNext]
    split <;> simp only [hpc, reduceCtorEq, if_false, and_true] <;>
      exact ⟨by simp [hpc], by simp [hb], by simp [hconn], by simp [hdone]⟩
  | resume =>
    simp only [PowerSync.step, onResume, hpc, and_true]
    exact ⟨hpc, hb, hconn, hdone⟩
  | abortConnection => simp [Event.spins] at he
  | acquire storage =>
    cases storage with
    | none =>
      simp only [PowerSync.step, onAcquire, hpc, if_true, batchesHead, hconn, hdone,
        Bool.or_false, Bool.false_eq_true, and_true, if_false]
      exact ⟨rfl, hb, rfl, rfl⟩
    | some _ => simp [Event.spins] at he
  | chunk =>
    simp only [PowerSync.step, onChunk, hpc, and_true]
    exact ⟨hpc, hb, hconn, hdone⟩

/-- The loop never leaves the semaphore, and yields nothing, unless a permit comes or the
connection is aborted. -/
theorem Conn.Spinning.run {c : Conn} (hc : c.Spinning) (es : List Event)
    (hes : ∀ e ∈ es, e.spins = true) :
    (run ctx q s lim c es).1.Spinning ∧ (run ctx q s lim c es).2 = [] := by
  induction es generalizing c with
  | nil => exact ⟨hc, rfl⟩
  | cons e es ih =>
    obtain ⟨h1, h2⟩ := hc.step ctx q s lim (hes e (List.mem_cons_self e es))
    obtain ⟨h3, h4⟩ := ih h1 fun e' he' ↦ hes e' (List.mem_cons_of_mem e he')
    exact ⟨h3, by simp only [PowerSync.run, h2, h4, List.append_nil]⟩

/-- A batch aborted while the consumer holds the data line of a chunk, when some chunk of
the batch had more data: the pull ends `bucketDataBatch` without a line and the loop
goes back to the semaphore. -/
theorem Conn.spinning_of_resume {c : Conn} {r : SyncBucketData}
    {rest : List SyncBucketDataChunk} (hpc : c.pc = .yielded r rest)
    (hb : c.batchAborted = true) (hconn : c.connAborted = false) (hdone : c.isDone = false)
    (hmore : c.has_more = true) :
    (onResume ctx q s c).1.Spinning ∧ (onResume ctx q s c).2 = [] := by
  simp only [onResume, hpc, afterYield, Conn.abortBatch, maybeRace_batchAborted,
    maybeRace_connAborted, hb, Bool.true_or, if_true, completeBatch, maybeRace_has_more, hmore,
    batchesHead, maybeRace_isDone, hdone, hconn, Bool.or_false, Bool.false_eq_true, if_false,
    and_true]
  exact ⟨rfl, by simp [maybeRace_batchAborted, hb], by simp [maybeRace_connAborted, hconn],
    by simp [maybeRace_isDone, hdone]⟩

end Machine

/-! ## A preempted download

Bucket `a` has two ops and the batch limit is one row, so the chunk of op 1 has more
data.  The connection has sent 1000 ops and completed a priority group, so the next
checkpoint is being raced; it arrives while the consumer holds the line of op 1. -/

/-- Two ops in bucket `a`. -/
def twoOpTable : BucketDataTable :=
  ⟨[⟨"a", 1, .PUT, some "t", some "r1", 5, some "{}", none⟩,
    ⟨"a", 2, .PUT, some "t", some "r2", 5, some "{}", none⟩], by decide⟩

/-- One row per batch. -/
def oneRowLimits : BatchLimits := ⟨1, 100000⟩

/-- Bucket `a` being downloaded at checkpoint 10, its first chunk just yielded. -/
def preemptedConn : Conn :=
  { Conn.init [("a", 0)] with
    pc := .yielded ⟨"a", 0, true, [⟨1, .PUT, some "t", some "r1", 5, some "{}"⟩], 1⟩ []
    promise := .racing
    checkpoint := 10
    lowestPriority := some 0
    bucketsToFetch := [⟨"a", 0⟩]
    has_more := true
    didCompletePartialSync := true
    syncedOperations := 1000 }

/-- Checkpoint 11, which the race brings. -/
def racedCheckpoint : StorageCheckpointUpdate := ⟨11, none, ⟨[], true, [], false⟩⟩

/-- The race settles with checkpoint 11, then the consumer pulls the next line. -/
def abortEvents : List Event := [.next (some racedCheckpoint), .resume]

theorem preempted_batch_keeps_fetching :
    (run ⟨10, 10⟩ twoBucketQuerier fixedChecksums oneRowLimits preemptedConn abortEvents).2 = [] ∧
    (∀ n, (run ⟨10, 10⟩ twoBucketQuerier fixedChecksums oneRowLimits
        (run ⟨10, 10⟩ twoBucketQuerier fixedChecksums oneRowLimits preemptedConn abortEvents).1
        (List.replicate n (.acquire none))).1.Spinning ∧
      (run ⟨10, 10⟩ twoBucketQuerier fixedChecksums oneRowLimits
        (run ⟨10, 10⟩ twoBucketQuerier fixedChecksums oneRowLimits preemptedConn abortEvents).1
        (List.replicate n (.acquire none))).2 = []) ∧
    (run ⟨10, 10⟩ twoBucketQuerier fixedChecksums oneRowLimits
        (run ⟨10, 10⟩ twoBucketQuerier fixedChecksums oneRowLimits preemptedConn abortEvents).1
        [.acquire (some (twoOpTable, [])), .chunk]).2 =
      [.data ⟨"a", 1, true, [⟨2, .PUT, some "t", some "r2", 5, some "{}"⟩], 2⟩] := by
  have hc := Conn.spinning_of_resume ⟨10, 10⟩ twoBucketQuerier fixedChecksums
    (c := (step ⟨10, 10⟩ twoBucketQuerier fixedChecksums oneRowLimits preemptedConn
      (.next (some racedCheckpoint))).1) rfl rfl rfl rfl rfl
  refine ⟨hc.2, fun n ↦ hc.1.run _ _ _ _ _ fun e he ↦ ?_, rfl⟩
  rw [List.eq_of_mem_replicate he]
  rfl

end PowerSync
