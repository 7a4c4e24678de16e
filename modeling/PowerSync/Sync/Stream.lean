import PowerSync.Storage.BucketData
import PowerSync.Sync.ChecksumState

/-!
# The sync stream of one connection

`streamResponseInner`, `bucketDataInBatches` and `bucketDataBatch` as one state machine.
JavaScript runs each of them as a coroutine, and between two `await`s nothing else of the
connection runs.  So the model keeps where the code is suspended (`Pc`) with the locals
alive there, and each `Event` is what the code waits for at a suspension point: the
checkpoint iterator's `next()`, the semaphore, the next chunk from storage, the consumer
pulling the next line, the end of the 10 ms sleep.  The connection's abort signal and
the storage contents are events too, so a run is any interleaving the outside world can
produce.  `step` runs the synchronous code from one suspension point to the next and
returns the lines yielded on the way.

Two promises matter.  The main loop's `nextCheckpointPromise` is created either by the
loop itself (`fresh`) or by `maybeRaceForNewCheckpoint` (`racing`); a raced promise that
resolves to a value aborts the batch (`batchAborted`).  Awaiting a promise that has
already settled still suspends, until the `resume` event.

`bucketDataBatch` calls `checksumState.getFilteredBucketStates` and
`checksumState.updateState(r.bucket, r.next_after)`, which `BucketChecksumState` does not
define; the model calls the two methods it defines for this, `getFilteredBucketPositions`
and `updateBucketPosition` with the chunk's `has_more`.

A `yield` of a checkpoint line or of a completion line is not a suspension point here:
`step` returns the line and runs on to the next `await`, as if the consumer pulled it at
once.  Only a data line waits for the consumer (`Pc.yielded`).  `bucketDataBatch` reads each
chunk as `{ batch: r, targetOp }`, while `PostgresSyncRulesStorage.getBucketDataBatch`
yields `{ chunkData, targetOp }`; the two files come from versions that name the field
differently, and the model reads the chunk the storage yields.

Not modelled: the three wire encodings of a data line and the `null` the code yields
after a data line over 50 kB (it releases memory and carries no data), the request
tracker, and logging.
-/

namespace PowerSync

/-- A line of the sync stream. -/
inductive StreamingSyncLine where
  | checkpointLine (line : StreamingSyncCheckpointLine)
  | data (chunk : SyncBucketData)
  | partial_checkpoint_complete (last_op_id : Nat) (priority : Nat)
  | checkpoint_complete (last_op_id : Nat)
  /-- The `null` yielded when a `CLEAR` or `MOVE` invalidated the checkpoint. -/
  | null
deriving DecidableEq, Repr

/-- The state of `nextCheckpointPromise`. -/
inductive NextPromise where
  | none
  /-- `newCheckpoints.next()` from the main loop, not settled. -/
  | fresh
  /-- `newCheckpoints.next()` from `maybeRaceForNewCheckpoint`, not settled. -/
  | racing
  /-- The raced promise, settled (`none`: the iterator is done). -/
  | raced (next : Option StorageCheckpointUpdate)
deriving DecidableEq, Repr

/-- Where the connection's code is suspended. -/
inductive Pc where
  /-- `await nextCheckpointPromise`. -/
  | awaitCheckpoint
  /-- `await acquireSemaphoreAbortable(...)` in `bucketDataBatch`. -/
  | acquire
  /-- `for await (... of data)`, with the chunks still to come. -/
  | chunks (rest : List SyncBucketDataChunk)
  /-- `yield` of a data line for `chunk`, waiting for the consumer. -/
  | yielded (chunk : SyncBucketData) (rest : List SyncBucketDataChunk)
  /-- `await new Promise((resolve) => setTimeout(resolve, 10))`. -/
  | sleep
  | done
  | failed (error : String)
deriving DecidableEq, Repr

/-- What the connection waits for. -/
inductive Event where
  /-- The pending `newCheckpoints.next()` settles (`none`: done). -/
  | next (r : Option StorageCheckpointUpdate)
  /-- A settled promise, the timer or the consumer lets the code continue. -/
  | resume
  /-- The connection's `signal` is aborted. -/
  | abortConnection
  /-- `acquireSemaphoreAbortable` settles with a permit, and storage holds `table`, which
  the database streams in row sets of sizes `sizes`; or it settles with `'aborted'`. -/
  | acquire (storage : Option (BucketDataTable × List Nat))
  /-- The `for await` over the chunks receives the next one, or the end. -/
  | chunk

/-- The connection: the checksum state, where the code is, and its live locals. -/
structure Conn where
  state : BucketChecksumState
  pc : Pc
  promise : NextPromise
  /-- `next.value.base.checkpoint` of the checkpoint being downloaded. -/
  checkpoint : Nat
  /-- The priority groups the `for` loop has still to run. -/
  groups : List (Nat × List BucketDescription)
  lowestPriority : Option Nat
  /-- The group `bucketDataInBatches` runs: its buckets and `forPriority`. -/
  bucketsToFetch : List BucketDescription
  forPriority : Option Nat
  isDone : Bool
  has_more : Bool
  checkpointInvalidated : Bool
  didCompletePartialSync : Bool
  syncedOperations : Nat
  /-- `abortCheckpointController.signal.aborted`. -/
  batchAborted : Bool
  /-- `signal.aborted`. -/
  connAborted : Bool

/-- The generator's first `next()`: the client's positions, waiting for a checkpoint. -/
def Conn.init (initialBucketPositions : List (String × Nat)) : Conn :=
  ⟨BucketChecksumState.init initialBucketPositions, .awaitCheckpoint, .fresh, 0, [], none, [],
    none, false, false, false, false, 0, false, false⟩

/-- `abortCheckpointSignal = AbortSignal.any([abortCheckpointController.signal, signal])`. -/
def Conn.abortBatch (c : Conn) : Bool := c.batchAborted || c.connAborted

/-- `Map.groupBy(bucketsToFetch, (bucket) => bucket.priority)`: groups in order of first
appearance. -/
def groupByPriority (buckets : List BucketDescription) : List (Nat × List BucketDescription) :=
  buckets.foldl (fun acc d ↦
    if acc.any (·.1 = d.priority) then acc.map fun g ↦ if g.1 = d.priority then (g.1, g.2 ++ [d]) else g
    else acc ++ [(d.priority, [d])]) []

/-- `bucketsByPriority.sort((a, b) => b[0] - a[0])`: `a` goes first when `b[0] - a[0] < 0`. -/
def sortGroups (groups : List (Nat × List BucketDescription)) : List (Nat × List BucketDescription) :=
  groups.insertionSort fun a b ↦ b.1 ≤ a.1

section Machine

variable (ctx : SyncContext) (q : BucketParameterQuerier) (s : ChecksumStorage)
  (lim : BatchLimits)

/-- `maybeRaceForNewCheckpoint`. -/
def maybeRace (c : Conn) : Conn :=
  if c.didCompletePartialSync && decide (1000 ≤ c.syncedOperations) && c.promise = .none then
    { c with promise := .racing }
  else c

/-- The top of the `do` loop: create a fresh `newCheckpoints.next()` if there is no
promise, and await. -/
def loopTop (c : Conn) : Conn :=
  match c.promise with
  | .none => { c with promise := .fresh, pc := .awaitCheckpoint }
  | _ => { c with pc := .awaitCheckpoint }

/-- `while (!signal.aborted)`. -/
def doWhile (c : Conn) : Conn := if c.connAborted then { c with pc := .done } else loopTop c

/-- After the `for` loop over the groups: sleep unless the batch was aborted. -/
def afterGroups (c : Conn) : Conn := if c.abortBatch then doWhile c else { c with pc := .sleep }

/-- The head of `for (const [priority, buckets] of bucketsByPriority)`: start
`bucketDataInBatches` for the next group, which goes straight to the semaphore. -/
def groupHead (c : Conn) : Conn :=
  match c.groups with
  | [] => afterGroups c
  | (priority, buckets) :: rest =>
      if c.abortBatch then afterGroups c
      else { c with groups := rest, bucketsToFetch := buckets, isDone := false, has_more := false,
                    checkpointInvalidated := false, pc := .acquire,
                    forPriority := if some priority = c.lowestPriority then none else some priority }

/-- After `yield* bucketDataInBatches(...)`. -/
def groupEnd (c : Conn) : Conn := groupHead (maybeRace { c with didCompletePartialSync := true })

/-- `while (!request.abort_connection.aborted && !isDone)` in `bucketDataInBatches`. -/
def batchesHead (c : Conn) : Conn :=
  if c.connAborted || c.isDone then groupEnd c
  else { c with pc := .acquire, has_more := false, checkpointInvalidated := false }

/-- Emit a checkpoint line and start downloading its buckets. -/
def startLine (c : Conn) (checkpoint : Nat) (line : CheckpointLine) : Conn :=
  let groups := sortGroups (groupByPriority line.bucketsToFetch)
  groupHead { c with checkpoint := checkpoint, groups := groups,
                     lowestPriority := groups.getLast?.map (·.1), batchAborted := false,
                     didCompletePartialSync := false, syncedOperations := 0 }

/-- The main loop with the update `u`: build the next line, send it and start its
download; without a line, go round the loop. -/
def handleUpdate (c : Conn) (u : StorageCheckpointUpdate) : Conn × List StreamingSyncLine :=
  match buildNextCheckpointLine ctx q s c.state u with
  | .error e => ({ c with pc := .failed e.message }, [])
  | .ok (none, st) => (doWhile { c with state := st }, [])
  | .ok (some line, st) =>
      (startLine { c with state := st } u.checkpoint line, [.checkpointLine line.checkpointLine])

/-- The main loop after `await nextCheckpointPromise` settled with `r`. -/
def handleNext (c : Conn) : Option StorageCheckpointUpdate → Conn × List StreamingSyncLine
  | none => ({ c with promise := .none, pc := .done }, [])
  | some u => handleUpdate ctx q s { c with promise := .none } u

/-- The end of `bucketDataBatch` when it was not cut short: a completion line once no
bucket has more data, unless a `CLEAR` or `MOVE` invalidated the checkpoint. -/
def completeBatch (c : Conn) : Conn × List StreamingSyncLine :=
  if c.has_more then (batchesHead c, [])
  else
    let line : StreamingSyncLine :=
      if c.checkpointInvalidated then .null
      else match c.forPriority with
        | some p => .partial_checkpoint_complete c.checkpoint p
        | none => .checkpoint_complete c.checkpoint
    (batchesHead { c with isDone := true }, [line])

/-- `newCheckpoints.next()` settles.  The loop's own promise resumes the loop; the raced
one aborts the batch when it brings a checkpoint, and resumes the loop if it waits. -/
def onNext (c : Conn) (r : Option StorageCheckpointUpdate) : Conn × List StreamingSyncLine :=
  match c.promise with
  | .fresh => if c.pc = .awaitCheckpoint then handleNext ctx q s c r else (c, [])
  | .racing =>
      let c := { c with batchAborted := c.batchAborted || r.isSome }
      if c.pc = .awaitCheckpoint then handleNext ctx q s c r else ({ c with promise := .raced r }, [])
  | _ => (c, [])

/-- After a data line: count the rows, maybe start the race, move the bucket's position,
and stop the batch if it was aborted. -/
def afterYield (c : Conn) (r : SyncBucketData) (rest : List SyncBucketDataChunk) :
    Conn × List StreamingSyncLine :=
  let c := maybeRace { c with syncedOperations := c.syncedOperations + r.data.length }
  let c := { c with state := c.state.updateBucketPosition r.bucket r.next_after r.has_more }
  if c.abortBatch then completeBatch c else ({ c with pc := .chunks rest }, [])

/-- A settled promise, the timer or the consumer lets the code continue. -/
def onResume (c : Conn) : Conn × List StreamingSyncLine :=
  match c.pc with
  | .awaitCheckpoint =>
      match c.promise with
      | .raced r => handleNext ctx q s c r
      | _ => (c, [])
  | .sleep => (doWhile c, [])
  | .yielded r rest => afterYield c r rest
  | _ => (c, [])

/-- `acquireSemaphoreAbortable` settles; with a permit, fetch the group's buckets from
their positions. -/
def onAcquire (c : Conn) (storage : Option (BucketDataTable × List Nat)) :
    Conn × List StreamingSyncLine :=
  if c.pc = .acquire then
    match storage with
    | none => (batchesHead c, [])
    | some (table, sizes) =>
        match getBucketDataBatch lim table sizes c.checkpoint
            (c.state.getFilteredBucketPositions c.bucketsToFetch) with
        | .error m => ({ c with pc := .failed m }, [])
        | .ok cs => ({ c with pc := .chunks cs }, [])
  else (c, [])

/-- One chunk of the `for await`: stop if the connection is aborted, note `has_more` and an
invalidating `targetOp`, and yield the chunk's data line unless it is empty. -/
def sendChunk (c : Conn) (ch : SyncBucketDataChunk) (rest : List SyncBucketDataChunk) :
    Conn × List StreamingSyncLine :=
  if c.connAborted then (batchesHead c, [])
  else
    let c := { c with has_more := c.has_more || ch.chunkData.has_more,
                      checkpointInvalidated := c.checkpointInvalidated ||
                        (ch.targetOp.map fun t ↦ decide (c.checkpoint < t)).getD false }
    if ch.chunkData.data = [] then ({ c with pc := .chunks rest }, [])
    else ({ c with pc := .yielded ch.chunkData rest }, [.data ch.chunkData])

/-- The `for await` over the chunks receives the next one, or the end. -/
def onChunk (c : Conn) : Conn × List StreamingSyncLine :=
  match c.pc with
  | .chunks [] => completeBatch c
  | .chunks (ch :: rest) => sendChunk c ch rest
  | _ => (c, [])

/-- One event.  An event the code is not waiting for changes nothing. -/
def step (c : Conn) : Event → Conn × List StreamingSyncLine
  | .next r => onNext ctx q s c r
  | .resume => onResume ctx q s c
  | .abortConnection => ({ c with connAborted := true }, [])
  | .acquire storage => onAcquire lim c storage
  | .chunk => onChunk c

/-- A run: the events in order, and every line yielded. -/
def run : Conn → List Event → Conn × List StreamingSyncLine
  | c, [] => (c, [])
  | c, e :: es =>
      let r := step ctx q s lim c e
      let r' := run r.1 es
      (r'.1, r.2 ++ r'.2)

end Machine

/-! ## A run

Two static buckets, `a` of priority 0 and `b` of priority 3, one op each, and one
checkpoint at op 10.  The groups run lowest priority first, against the comment on the
sort, and the priority-3 group ends with `partial_checkpoint_complete` while `a` has not
been sent. -/

/-- Two static buckets and no parameter queries. -/
def twoBucketQuerier : BucketParameterQuerier where
  staticBuckets := [⟨"a", 0⟩, ⟨"b", 3⟩]
  hasDynamicBuckets := false
  parameterQueryLookups := []
  queryDynamicBucketDescriptions := fun _ ↦ []
  priorityOf := fun b ↦ if b = "a" then 0 else 3
  reads_own_lookups := fun _ _ _ ↦ rfl
  static_priority := by decide
  dynamic_priority := by simp

/-- Every bucket has checksum 5 over one op. -/
def fixedChecksums : ChecksumStorage := ⟨fun _ _ ↦ (5, 1), fun _ _ ↦ []⟩

/-- Checkpoint 10, invalidating all buckets. -/
def checkpointTen : StorageCheckpointUpdate := ⟨10, none, ⟨[], true, [], false⟩⟩

/-- One op in each bucket. -/
def twoRowTable : BucketDataTable :=
  ⟨[⟨"a", 1, .PUT, some "t", some "r1", 5, some "{}", none⟩,
    ⟨"b", 2, .PUT, some "t", some "r2", 5, some "{}", none⟩], by decide⟩

/-- `MAX_BATCH_ROWS`-like limits far above the run's sizes. -/
def smallLimits : BatchLimits := ⟨1000, 100000⟩

/-- The checkpoint, then both priority groups fetched and sent to the end. -/
def twoGroupEvents : List Event :=
  [.next (some checkpointTen), .acquire (some (twoRowTable, [])), .chunk, .resume, .chunk,
    .acquire (some (twoRowTable, [])), .chunk, .resume, .chunk]

theorem twoGroups_lowest_priority_first :
    (run ⟨10, 10⟩ twoBucketQuerier fixedChecksums smallLimits (Conn.init []) twoGroupEvents).2 =
      [.checkpointLine (.checkpoint 10 none [⟨"a", 5, 1, 0⟩, ⟨"b", 5, 1, 3⟩]),
        .data ⟨"b", 0, false, [⟨2, .PUT, some "t", some "r2", 5, some "{}"⟩], 2⟩,
        .partial_checkpoint_complete 10 3,
        .data ⟨"a", 0, false, [⟨1, .PUT, some "t", some "r1", 5, some "{}"⟩], 1⟩,
        .checkpoint_complete 10] ∧
    ((run ⟨10, 10⟩ twoBucketQuerier fixedChecksums smallLimits (Conn.init [])
        (twoGroupEvents.take 5)).1.state.bucketDataPositions.get? "a").map (·.start_op_id) = some 0 := by
  decide

/-- No buckets at all. -/
def noBucketQuerier : BucketParameterQuerier where
  staticBuckets := []
  hasDynamicBuckets := false
  parameterQueryLookups := []
  queryDynamicBucketDescriptions := fun _ ↦ []
  priorityOf := fun _ ↦ 3
  reads_own_lookups := fun _ _ _ ↦ rfl
  static_priority := by simp
  dynamic_priority := by simp

/-- A checkpoint with nothing to fetch is never completed: after its line the loop goes
back to a fresh `newCheckpoints.next()`. -/
theorem empty_checkpoint_not_completed :
    (run ⟨10, 10⟩ noBucketQuerier fixedChecksums smallLimits (Conn.init [])
        [.next (some checkpointTen), .resume]).2 = [.checkpointLine (.checkpoint 10 none [])] ∧
    ((run ⟨10, 10⟩ noBucketQuerier fixedChecksums smallLimits (Conn.init [])
        [.next (some checkpointTen), .resume]).1.pc,
      (run ⟨10, 10⟩ noBucketQuerier fixedChecksums smallLimits (Conn.init [])
        [.next (some checkpointTen), .resume]).1.promise) = (.awaitCheckpoint, .fresh) := by
  decide

end PowerSync
