import PowerSync.Util.JsMap

/-!
# Bucket data and `getBucketDataBatch`

The storage side of the data download: the `bucket_data` table of one sync-rules group,
the statement `PostgresSyncRulesStorage.getBucketDataBatch` runs against it, and the loop
that cuts the streamed rows into chunks of one bucket each.

The table is kept in the order of its primary index `(group_id, bucket_name, op_id)`,
and that order is a field of `BucketDataTable`: the index is what makes the statement's
`ORDER BY bucket_name, op_id` a plain scan, and it is also what makes the keys unique.
The database delivers the selected rows in row sets of sizes it chooses; `splitRows`
takes those sizes as an argument, so every result below holds for every grouping.

Op ids are the storage's `InternalOpId` (a non-negative `bigint`); the external string
form of an op id on the wire is not modelled, so `after` and `next_after` are numbers.
-/

namespace PowerSync

/-- The four kinds of bucket operation. -/
inductive OpType where
  | PUT
  | REMOVE
  | MOVE
  | CLEAR
deriving DecidableEq, Repr

/-- A decoded `bucket_data` row, with the columns the download reads. -/
structure BucketDataRow where
  bucket_name : String
  op_id : Nat
  op : OpType
  table : Option String
  row_id : Option String
  checksum : Int
  data : Option String
  /-- Set on `MOVE` and `CLEAR` ops: the op they point at. -/
  target_op : Option Nat
deriving DecidableEq, Repr

/-- One operation as the client receives it. -/
structure OplogEntry where
  op_id : Nat
  op : OpType
  object_type : Option String
  object_id : Option String
  checksum : Int
  data : Option String
deriving DecidableEq, Repr

/-- `mapOpEntry`: `PUT` and `REMOVE` carry the row, `MOVE` and `CLEAR` only the op. -/
def mapOpEntry (row : BucketDataRow) : OplogEntry :=
  match row.op with
  | .PUT | .REMOVE =>
      ⟨row.op_id, row.op, row.table, row.row_id, row.checksum, row.data⟩
  | .MOVE | .CLEAR => ⟨row.op_id, row.op, none, none, row.checksum, none⟩

@[simp] theorem mapOpEntry_op_id (row : BucketDataRow) : (mapOpEntry row).op_id = row.op_id := by
  unfold mapOpEntry; split <;> rfl

/-- `SyncBucketData`: a chunk of the ops of one bucket after `after`. -/
structure SyncBucketData where
  bucket : String
  after : Nat
  has_more : Bool
  data : List OplogEntry
  next_after : Nat
deriving DecidableEq, Repr

/-- `SyncBucketDataChunk`: a chunk and the largest `target_op` of its rows. -/
structure SyncBucketDataChunk where
  chunkData : SyncBucketData
  targetOp : Option Nat
deriving DecidableEq, Repr

/-! ## The table and the statement -/

/-- The order of the primary index: by bucket name (character by character), then op id. -/
def KeyLt (r s : BucketDataRow) : Prop :=
  r.bucket_name.data < s.bucket_name.data ∨ (r.bucket_name = s.bucket_name ∧ r.op_id < s.op_id)

instance : DecidableRel KeyLt := fun _ _ ↦ inferInstanceAs (Decidable (_ ∨ _))

/-- The `bucket_data` rows of one group, in index order. -/
structure BucketDataTable where
  rows : List BucketDataRow
  sorted : rows.Pairwise KeyLt

/-- Whether a row passes the statement's `WHERE` clause. -/
def selects (checkpoint : Nat) (filters : List (String × Nat)) (r : BucketDataRow) : Bool :=
  decide (r.op_id ≤ checkpoint) &&
    filters.any fun f ↦ decide (r.bucket_name = f.1) && decide (f.2 < r.op_id)

/-- The rows the statement returns: the selected rows in index order, at most `limit`. -/
def selectBucketData (t : BucketDataTable) (checkpoint : Nat) (filters : List (String × Nat))
    (limit : Nat) : List BucketDataRow :=
  (t.rows.filter (selects checkpoint filters)).take limit

/-- The database streams the rows in row sets of the given sizes, the rest in a last set. -/
def splitRows {α : Type} : List α → List Nat → List (List α)
  | rows, [] => [rows]
  | rows, n :: ns => rows.take n :: splitRows (rows.drop n) ns

@[simp] theorem flatten_splitRows {α : Type} (rows : List α) (sizes : List Nat) :
    (splitRows rows sizes).flatten = rows := by
  induction sizes generalizing rows with
  | nil => simp [splitRows]
  | cons n ns ih => simp [splitRows, ih]

/-! ## Cutting rows into chunks -/

/-- `options.limit` and `options.chunkLimitBytes`, or the storage defaults. -/
structure BatchLimits where
  batchRowLimit : Nat
  chunkLimitBytes : Nat
deriving DecidableEq, Repr

/-- The locals of the loop in `getBucketDataBatch`. -/
structure ChunkState where
  chunkSizeBytes : Nat
  currentChunk : Option SyncBucketData
  targetOp : Option Nat
  batchRowCount : Nat
deriving DecidableEq, Repr

/-- The state before the first row. -/
def ChunkState.init : ChunkState := ⟨0, none, none, 0⟩

/-- `s.length` in JavaScript: the string's UTF-16 code units, two for a character outside
the Basic Multilingual Plane. -/
def jsLength (s : String) : Nat := (s.data.map fun c ↦ if c.val ≤ 0xFFFF then 1 else 2).sum

/-- `row.data ? row.data.length : 0`. -/
def rowSizeBytes (row : BucketDataRow) : Nat := (row.data.map jsLength).getD 0

/-- The `sizeExceeded` test for the next row. -/
def sizeExceeded (lim : BatchLimits) (st : ChunkState) (rowSize : Nat) : Bool :=
  let len := (st.currentChunk.map fun c ↦ c.data.length).getD 0
  decide (lim.chunkLimitBytes ≤ st.chunkSizeBytes) ||
    (decide (0 < len) && decide (lim.chunkLimitBytes < st.chunkSizeBytes + rowSize)) ||
    decide (lim.batchRowLimit ≤ len)

/-- `targetOp` after a row: the largest `target_op` seen in the chunk. -/
def maxTargetOp (targetOp : Option Nat) (row : BucketDataRow) : Option Nat :=
  match row.target_op, targetOp with
  | none, t => t
  | some r, none => some r
  | some r, some t => if t < r then some r else some t

/-- Append a row to the open chunk. -/
def pushRow (st : ChunkState) (c : SyncBucketData) (row : BucketDataRow) : ChunkState :=
  { chunkSizeBytes := st.chunkSizeBytes + rowSizeBytes row
    currentChunk := some { c with data := c.data ++ [mapOpEntry row], next_after := row.op_id }
    targetOp := maxTargetOp st.targetOp row
    batchRowCount := st.batchRowCount + 1 }

/-- Open a chunk for the row's bucket at `start`, or at the bucket's requested position,
and append the row to it. -/
def openChunk (dataBuckets : JsMap String Nat) (st : ChunkState) (start : Option Nat)
    (row : BucketDataRow) : Except String ChunkState :=
  let name := row.bucket_name
  match start <|> dataBuckets.get? name with
  | none => .error s!"data for unexpected bucket: {name}"
  | some s => .ok (pushRow { st with targetOp := none } ⟨name, s, false, [], s⟩ row)

/-- One iteration of `for (const row of decodedRows)`: the chunk it yields, if any, and
whether it hits the `break`. -/
def processRow (lim : BatchLimits) (dataBuckets : JsMap String Nat) (st : ChunkState)
    (row : BucketDataRow) : Except String (List SyncBucketDataChunk × Bool × ChunkState) :=
  match st.currentChunk with
  | none => (openChunk dataBuckets st none row).map fun st' ↦ ([], false, st')
  | some c =>
      if c.bucket ≠ row.bucket_name ∨ sizeExceeded lim st (rowSizeBytes row) then
        let yielded : SyncBucketDataChunk :=
          ⟨if c.bucket = row.bucket_name then { c with has_more := true } else c, st.targetOp⟩
        let closed : ChunkState :=
          { st with currentChunk := none, chunkSizeBytes := 0, targetOp := none }
        if lim.batchRowLimit ≤ st.batchRowCount then .ok ([yielded], true, closed)
        else (openChunk dataBuckets closed
            (if c.bucket = row.bucket_name then some c.next_after else none) row).map
          fun st' ↦ ([yielded], false, st')
      else .ok ([], false, pushRow st c row)

/-- The loop over one row set, up to its end or its `break`. -/
def processRowSet (lim : BatchLimits) (dataBuckets : JsMap String Nat) :
    ChunkState → List BucketDataRow → Except String (List SyncBucketDataChunk × ChunkState)
  | st, [] => .ok ([], st)
  | st, row :: rows =>
      match processRow lim dataBuckets st row with
      | .error e => .error e
      | .ok (ys, true, st') => .ok (ys, st')
      | .ok (ys, false, st') =>
          (processRowSet lim dataBuckets st' rows).map fun r ↦ (ys ++ r.1, r.2)

/-- The loop over all row sets. -/
def processRowSets (lim : BatchLimits) (dataBuckets : JsMap String Nat) :
    ChunkState → List (List BucketDataRow) → Except String (List SyncBucketDataChunk × ChunkState)
  | st, [] => .ok ([], st)
  | st, set :: sets =>
      match processRowSet lim dataBuckets st set with
      | .error e => .error e
      | .ok (ys, st') => (processRowSets lim dataBuckets st' sets).map fun r ↦ (ys ++ r.1, r.2)

/-- The final chunk: it has more data exactly when the batch was full. -/
def finalChunk (lim : BatchLimits) (st : ChunkState) : List SyncBucketDataChunk :=
  match st.currentChunk with
  | none => []
  | some c => [⟨{ c with has_more := decide (lim.batchRowLimit ≤ st.batchRowCount) }, st.targetOp⟩]

/-- The chunks `getBucketDataBatch` yields for row sets already selected. -/
def chunkRows (lim : BatchLimits) (dataBuckets : JsMap String Nat) (sets : List (List BucketDataRow)) :
    Except String (List SyncBucketDataChunk) :=
  (processRowSets lim dataBuckets ChunkState.init sets).map fun r ↦ r.1 ++ finalChunk lim r.2

/-- `getBucketDataBatch(checkpoint, dataBuckets, options)` against the table `t`, with the
database streaming the result in row sets of sizes `sizes`. -/
def getBucketDataBatch (lim : BatchLimits) (t : BucketDataTable) (sizes : List Nat)
    (checkpoint : Nat) (dataBuckets : JsMap String Nat) : Except String (List SyncBucketDataChunk) :=
  if dataBuckets.size = 0 then pure []
  else chunkRows lim dataBuckets
    (splitRows (selectBucketData t checkpoint dataBuckets.entries lim.batchRowLimit) sizes)

/-! ## What the chunks contain

The download relies on three facts about the chunks, whatever the row sets and the
limits: each chunk is non-empty and its `next_after` is its last op id; the op ids of one
bucket's chunks are, in order, a sublist of that bucket's selected rows; and those rows
are ascending and after the requested position.  The first two are invariants of the
loop, one step per row. -/

/-- A yielded chunk: not empty, and `next_after` is the op id of its last entry. -/
def SyncBucketData.WellFormed (c : SyncBucketData) : Prop :=
  ∃ init e, c.data = init ++ [e] ∧ c.next_after = e.op_id

/-- The op ids of bucket `b`'s chunks, in order. -/
def chunkOps (b : String) (cs : List SyncBucketData) : List Nat :=
  (cs.filter fun c ↦ c.bucket = b).flatMap fun c ↦ c.data.map (·.op_id)

/-- The op ids of bucket `b`'s rows, in order. -/
def rowOps (b : String) (rows : List BucketDataRow) : List Nat :=
  (rows.filter fun r ↦ r.bucket_name = b).map (·.op_id)

@[simp] theorem chunkOps_nil (b : String) : chunkOps b [] = [] := rfl

@[simp] theorem chunkOps_append (b : String) (cs ds : List SyncBucketData) :
    chunkOps b (cs ++ ds) = chunkOps b cs ++ chunkOps b ds := by
  simp [chunkOps, List.filter_append]

@[simp] theorem chunkOps_cons (b : String) (c : SyncBucketData) (cs : List SyncBucketData) :
    chunkOps b (c :: cs) = (if c.bucket = b then c.data.map (·.op_id) else []) ++ chunkOps b cs := by
  by_cases h : c.bucket = b <;> simp [chunkOps, List.filter_cons, h]

@[simp] theorem rowOps_nil (b : String) : rowOps b [] = [] := rfl

@[simp] theorem rowOps_append (b : String) (rs ss : List BucketDataRow) :
    rowOps b (rs ++ ss) = rowOps b rs ++ rowOps b ss := by
  simp [rowOps, List.filter_append]

@[simp] theorem rowOps_cons (b : String) (r : BucketDataRow) (rs : List BucketDataRow) :
    rowOps b (r :: rs) = (if r.bucket_name = b then [r.op_id] else []) ++ rowOps b rs := by
  by_cases h : r.bucket_name = b <;> simp [rowOps, List.filter_cons, h]

/-- The open chunk of the loop, as a list. -/
def ChunkState.pending (st : ChunkState) : List SyncBucketData := st.currentChunk.toList

/-- The loop invariant: the open chunk, if any, is well formed. -/
def ChunkState.Good (st : ChunkState) : Prop := ∀ c ∈ st.currentChunk, c.WellFormed

theorem pushRow_good (st : ChunkState) (c : SyncBucketData) (row : BucketDataRow) :
    (pushRow st c row).Good := by
  intro c' hc
  simp only [pushRow, Option.mem_def, Option.some.injEq] at hc
  subst hc
  exact ⟨c.data, mapOpEntry row, rfl, by simp⟩

theorem chunkOps_pushRow (st : ChunkState) (c : SyncBucketData) (row : BucketDataRow)
    (hb : c.bucket = row.bucket_name) (b : String) :
    chunkOps b (pushRow st c row).pending = chunkOps b [c] ++ rowOps b [row] := by
  by_cases h : c.bucket = b <;> simp_all [pushRow, ChunkState.pending, rowOps]

theorem except_map_eq_ok {α β ε : Type} {f : α → β} {x : Except ε α} {b : β} :
    x.map f = .ok b ↔ ∃ a, x = .ok a ∧ f a = b := by
  cases x <;> simp [Except.map]

theorem openChunk_spec {db : JsMap String Nat} {st st' : ChunkState} {start : Option Nat}
    {row : BucketDataRow} (h : openChunk db st start row = .ok st') :
    st'.Good ∧ ∀ b, chunkOps b st'.pending = rowOps b [row] := by
  unfold openChunk at h
  dsimp only at h
  split at h
  · cases h
  · cases h
    refine ⟨pushRow_good _ _ _, fun b ↦ ?_⟩
    rw [chunkOps_pushRow _ _ _ rfl]
    simp

/-- A chunk closed by the loop keeps its data, whether or not `has_more` is set. -/
theorem wellFormed_of_cut {c : SyncBucketData} (hc : c.WellFormed) (p : Prop) [Decidable p] :
    (if p then { c with has_more := true } else c).WellFormed := by
  split <;> exact hc

/-- One row keeps the loop invariant, and the op ids of the chunks yielded so far plus the
open one grow by at most the row. -/
theorem processRow_spec {lim : BatchLimits} {db : JsMap String Nat} {st st' : ChunkState}
    {row : BucketDataRow} {ys : List SyncBucketDataChunk} {brk : Bool}
    (hg : st.Good) (h : processRow lim db st row = .ok (ys, brk, st')) :
    st'.Good ∧ (∀ y ∈ ys, y.chunkData.WellFormed) ∧
      ∀ b, (chunkOps b (ys.map (·.chunkData) ++ st'.pending)).Sublist
        (chunkOps b st.pending ++ rowOps b [row]) := by
  unfold processRow at h
  split at h
  · rename_i hc
    obtain ⟨st1, h1, he⟩ := except_map_eq_ok.mp h
    cases he
    obtain ⟨hg', hops⟩ := openChunk_spec h1
    refine ⟨hg', by simp, fun b ↦ ?_⟩
    rw [List.map_nil, List.nil_append, hops]
    simp [ChunkState.pending, hc]
  · rename_i c hc
    have hwf : c.WellFormed := hg c hc
    have hpending : st.pending = [c] := by simp [ChunkState.pending, hc]
    have hcut_ops : ∀ b, chunkOps b
        [if c.bucket = row.bucket_name then { c with has_more := true } else c] =
        chunkOps b [c] := fun b ↦ by split <;> simp
    by_cases hcut : c.bucket ≠ row.bucket_name ∨ sizeExceeded lim st (rowSizeBytes row)
    · rw [if_pos hcut] at h
      dsimp only at h
      by_cases hlim : lim.batchRowLimit ≤ st.batchRowCount
      · rw [if_pos hlim] at h
        simp only [Except.ok.injEq, Prod.mk.injEq] at h
        obtain ⟨rfl, rfl, rfl⟩ := h
        refine ⟨fun _ h ↦ by simp at h, by simpa using wellFormed_of_cut hwf _, fun b ↦ ?_⟩
        rw [hpending]
        simp only [List.map_singleton, ChunkState.pending, Option.toList_none, List.append_nil,
          hcut_ops]
        exact List.sublist_append_left _ _
      · rw [if_neg hlim] at h
        obtain ⟨st1, h1, he⟩ := except_map_eq_ok.mp h
        cases he
        obtain ⟨hg', hops⟩ := openChunk_spec h1
        refine ⟨hg', by simpa using wellFormed_of_cut hwf _, fun b ↦ ?_⟩
        rw [List.map_singleton, List.singleton_append, ← List.singleton_append, chunkOps_append,
          hcut_ops, hops, hpending]
    · rw [if_neg hcut] at h
      simp only [Except.ok.injEq, Prod.mk.injEq] at h
      obtain ⟨rfl, rfl, rfl⟩ := h
      have hb : c.bucket = row.bucket_name := by
        by_contra hne; exact hcut (.inl hne)
      refine ⟨pushRow_good _ _ _, by simp, fun b ↦ ?_⟩
      rw [List.map_nil, List.nil_append, hpending, chunkOps_pushRow _ _ _ hb]

/-- The loop over a row set keeps the invariant, and its chunks' op ids are a sublist of
its rows'. -/
theorem processRowSet_spec {lim : BatchLimits} {db : JsMap String Nat} :
    ∀ {st st' : ChunkState} {rows : List BucketDataRow} {ys : List SyncBucketDataChunk},
      st.Good → processRowSet lim db st rows = .ok (ys, st') →
      st'.Good ∧ (∀ y ∈ ys, y.chunkData.WellFormed) ∧
        ∀ b, (chunkOps b (ys.map (·.chunkData) ++ st'.pending)).Sublist
          (chunkOps b st.pending ++ rowOps b rows)
  | st, st', [], ys, hg, h => by
      simp only [processRowSet, Except.ok.injEq, Prod.mk.injEq] at h
      obtain ⟨rfl, rfl⟩ := h
      exact ⟨hg, by simp, fun b ↦ by simp [rowOps]⟩
  | st, st', row :: rows, ys, hg, h => by
      simp only [processRowSet] at h
      split at h
      · cases h
      · rename_i ys1 st1 h1
        simp only [Except.ok.injEq, Prod.mk.injEq] at h
        obtain ⟨rfl, rfl⟩ := h
        obtain ⟨hg1, hw1, hs1⟩ := processRow_spec hg h1
        refine ⟨hg1, hw1, fun b ↦ (hs1 b).trans ?_⟩
        have : rowOps b (row :: rows) = rowOps b [row] ++ rowOps b rows := by simp
        rw [this, ← List.append_assoc]
        exact List.sublist_append_left _ _
      · rename_i ys1 st1 h1
        obtain ⟨r, h2, he⟩ := except_map_eq_ok.mp h
        cases he
        obtain ⟨hg1, hw1, hs1⟩ := processRow_spec hg h1
        obtain ⟨hg2, hw2, hs2⟩ := processRowSet_spec hg1 h2
        refine ⟨hg2, fun y hy ↦ ?_, fun b ↦ ?_⟩
        · rcases List.mem_append.mp hy with hy | hy
          exacts [hw1 y hy, hw2 y hy]
        · calc chunkOps b ((ys1 ++ r.1).map (·.chunkData) ++ r.2.pending)
              = chunkOps b (ys1.map (·.chunkData)) ++
                  chunkOps b (r.1.map (·.chunkData) ++ r.2.pending) := by simp
            List.Sublist _
                (chunkOps b (ys1.map (·.chunkData)) ++ (chunkOps b st1.pending ++ rowOps b rows)) :=
                (hs2 b).append_left _
            _ = chunkOps b (ys1.map (·.chunkData) ++ st1.pending) ++ rowOps b rows := by simp
            List.Sublist _ ((chunkOps b st.pending ++ rowOps b [row]) ++ rowOps b rows) :=
                (hs1 b).append_right _
            _ = chunkOps b st.pending ++ rowOps b (row :: rows) := by
                rw [List.append_assoc, ← rowOps_append]; rfl

/-- The same over all row sets: the chunks' op ids are a sublist of all rows'. -/
theorem processRowSets_spec {lim : BatchLimits} {db : JsMap String Nat} :
    ∀ {st st' : ChunkState} {sets : List (List BucketDataRow)} {ys : List SyncBucketDataChunk},
      st.Good → processRowSets lim db st sets = .ok (ys, st') →
      st'.Good ∧ (∀ y ∈ ys, y.chunkData.WellFormed) ∧
        ∀ b, (chunkOps b (ys.map (·.chunkData) ++ st'.pending)).Sublist
          (chunkOps b st.pending ++ rowOps b sets.flatten)
  | st, st', [], ys, hg, h => by
      simp only [processRowSets, Except.ok.injEq, Prod.mk.injEq] at h
      obtain ⟨rfl, rfl⟩ := h
      exact ⟨hg, by simp, fun b ↦ by simp [rowOps]⟩
  | st, st', set :: sets, ys, hg, h => by
      simp only [processRowSets] at h
      split at h
      · cases h
      · rename_i ys1 st1 h1
        obtain ⟨r, h2, he⟩ := except_map_eq_ok.mp h
        cases he
        obtain ⟨hg1, hw1, hs1⟩ := processRowSet_spec hg h1
        obtain ⟨hg2, hw2, hs2⟩ := processRowSets_spec hg1 h2
        refine ⟨hg2, fun y hy ↦ ?_, fun b ↦ ?_⟩
        · rcases List.mem_append.mp hy with hy | hy
          exacts [hw1 y hy, hw2 y hy]
        · calc chunkOps b ((ys1 ++ r.1).map (·.chunkData) ++ r.2.pending)
              = chunkOps b (ys1.map (·.chunkData)) ++
                  chunkOps b (r.1.map (·.chunkData) ++ r.2.pending) := by simp
            List.Sublist _ (chunkOps b (ys1.map (·.chunkData)) ++
                  (chunkOps b st1.pending ++ rowOps b sets.flatten)) := (hs2 b).append_left _
            _ = chunkOps b (ys1.map (·.chunkData) ++ st1.pending) ++ rowOps b sets.flatten := by
                simp
            List.Sublist _ ((chunkOps b st.pending ++ rowOps b set) ++ rowOps b sets.flatten) :=
                (hs1 b).append_right _
            _ = chunkOps b st.pending ++ rowOps b (set :: sets).flatten := by simp

/-- Every chunk of a batch is well formed, and each bucket's op ids in the chunks are a
sublist of its op ids in the rows. -/
theorem chunkRows_spec {lim : BatchLimits} {db : JsMap String Nat} {sets : List (List BucketDataRow)}
    {cs : List SyncBucketDataChunk} (h : chunkRows lim db sets = .ok cs) :
    (∀ c ∈ cs, c.chunkData.WellFormed) ∧
      ∀ b, (chunkOps b (cs.map (·.chunkData))).Sublist (rowOps b sets.flatten) := by
  obtain ⟨r, h1, rfl⟩ := except_map_eq_ok.mp h
  obtain ⟨hg, hw, hs⟩ := (processRowSets_spec : ChunkState.init.Good → _) (fun _ h ↦ by cases h) h1
  have hfinal : (finalChunk lim r.2).map (·.chunkData) = r.2.currentChunk.toList.map
      fun c ↦ { c with has_more := decide (lim.batchRowLimit ≤ r.2.batchRowCount) } := by
    unfold finalChunk; split <;> simp_all
  refine ⟨fun c hc ↦ ?_, fun b ↦ ?_⟩
  · rcases List.mem_append.mp hc with hc | hc
    · exact hw c hc
    · unfold finalChunk at hc
      split at hc
      · simp at hc
      · rename_i c0 h0
        simp only [List.mem_singleton] at hc
        subst hc
        exact hg c0 h0
  · have hops : chunkOps b (r.2.currentChunk.toList.map fun c ↦
        { c with has_more := decide (lim.batchRowLimit ≤ r.2.batchRowCount) }) =
        chunkOps b r.2.currentChunk.toList := by
      cases r.2.currentChunk <;> simp
    simpa [hfinal, hops, ChunkState.init, ChunkState.pending] using hs b

/-! ## The selected rows -/

theorem opId_lt_of_keyLt {r s : BucketDataRow} (h : KeyLt r s) (hb : r.bucket_name = s.bucket_name) :
    r.op_id < s.op_id := by
  rcases h with h | h
  · rw [hb] at h
    exact absurd h (lt_irrefl _)
  · exact h.2

/-- A bucket's selected op ids ascend: the table is in index order. -/
theorem rowOps_select_pairwise (t : BucketDataTable) (cp : Nat) (filters : List (String × Nat))
    (limit : Nat) (b : String) : (rowOps b (selectBucketData t cp filters limit)).Pairwise (· < ·) := by
  have hsub : (selectBucketData t cp filters limit).Sublist t.rows :=
    (List.take_sublist _ _).trans (List.filter_sublist _)
  unfold rowOps
  rw [List.pairwise_map]
  refine ((t.sorted.sublist hsub).filter _).imp_of_mem fun hr hs hlt ↦ opId_lt_of_keyLt hlt ?_
  simp only [List.mem_filter, decide_eq_true_eq] at hr hs
  rw [hr.2, hs.2]

/-- A bucket's selected op ids lie after its requested position and up to the checkpoint. -/
theorem rowOps_select_bounds {t : BucketDataTable} {cp : Nat} {m : JsMap String Nat} (hm : m.Nodup)
    {limit : Nat} {b : String} {x : Nat} (hx : x ∈ rowOps b (selectBucketData t cp m.entries limit)) :
    ∃ p, m.get? b = some p ∧ p < x ∧ x ≤ cp := by
  simp only [rowOps, selectBucketData, List.mem_map, List.mem_filter, decide_eq_true_eq] at hx
  obtain ⟨r, ⟨hr, hb⟩, rfl⟩ := hx
  have hsel := (List.mem_filter.mp (List.mem_of_mem_take hr)).2
  simp only [selects, Bool.and_eq_true, decide_eq_true_eq, List.any_eq_true] at hsel
  obtain ⟨hcp, f, hf, hfb, hflt⟩ := hsel
  refine ⟨f.2, m.get?_eq_of_mem hm ?_, hflt, hcp⟩
  rw [← hb, hfb]
  exact hf

/-- What the download relies on, for every table, grouping and limit: every chunk is well
formed, and each bucket's op ids in the chunks ascend and lie after the requested
position. -/
theorem getBucketDataBatch_spec {lim : BatchLimits} {t : BucketDataTable} {sizes : List Nat}
    {cp : Nat} {db : JsMap String Nat} (hdb : db.Nodup) {cs : List SyncBucketDataChunk}
    (h : getBucketDataBatch lim t sizes cp db = .ok cs) :
    (∀ c ∈ cs, c.chunkData.WellFormed) ∧
      ∀ b, (chunkOps b (cs.map (·.chunkData))).Pairwise (· < ·) ∧
        ∀ x ∈ chunkOps b (cs.map (·.chunkData)), ∃ p, db.get? b = some p ∧ p < x ∧ x ≤ cp := by
  unfold getBucketDataBatch at h
  split at h
  · cases h; simp
  · obtain ⟨hw, hs⟩ := chunkRows_spec h
    refine ⟨hw, fun b ↦ ⟨?_, fun x hx ↦ ?_⟩⟩
    · exact (rowOps_select_pairwise t cp _ _ b).sublist (by simpa using hs b)
    · have hx' := (hs b).subset hx
      rw [flatten_splitRows] at hx'
      exact rowOps_select_bounds hdb hx'

end PowerSync
