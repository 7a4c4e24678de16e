import PowerSync.Storage.BucketData

/-!
# The chunks of a batch, exactly

`getBucketDataBatch_spec` bounds what the chunks of a batch contain.  This module says
what they are, when the streamed rows are what the statement returns: grouped by
bucket, no more than the batch limit, and each of a requested bucket.  `ORDER BY
bucket_name` groups the rows of each bucket under any collation; the database's order on
names is not assumed to be Lean's.

* the chunks cut the rows into consecutive blocks, each block of one bucket, and the
  chunk of a block holds its rows mapped by `mapOpEntry`, ends at its last op, carries the
  largest `target_op` of its rows, and stays within the byte limit unless it is a single
  row (`ChunkOf`);
* a chunk's `has_more` says whether the next chunk is of the same bucket, and the next
  chunk starts where it ended, or at its bucket's requested position (`Link`);
* the last chunk's `has_more` says whether the batch was full.

With no more rows than the limit, the loop never reaches its `break`, so no row is
dropped.  `Tracks` is the loop's invariant, one lemma per branch of `processRow`; the row
sets and the final chunk follow by induction.  `chunkRows_exact` puts them together and
reads the per-bucket facts off the grouping of the rows (`Grouped`).

A row's size is `row.data.length`, in UTF-16 code units (`jsLength`).
-/

namespace PowerSync

/-- The size the loop counts for a block of rows, in UTF-16 code units. -/
def rowsBytes (blk : List BucketDataRow) : Nat := (blk.map rowSizeBytes).sum

/-- The chunk `c`, yielded with `targetOp` `t`, holds exactly the rows `blk`. -/
structure ChunkOf (lim : BatchLimits) (blk : List BucketDataRow) (c : SyncBucketData)
    (t : Option Nat) : Prop where
  data : c.data = blk.map mapOpEntry
  bucket : ∀ r ∈ blk, r.bucket_name = c.bucket
  next_after : blk.getLast?.map (·.op_id) = some c.next_after
  targetOp : t = blk.foldl maxTargetOp none
  size : blk.length = 1 ∨ rowsBytes blk ≤ lim.chunkLimitBytes

/-- Two consecutive chunks: the first has more data exactly when the second is of its
bucket, and the second starts where the first ended, or at its bucket's requested
position. -/
def Link (db : JsMap String Nat) (c d : SyncBucketData) : Prop :=
  c.has_more = decide (c.bucket = d.bucket) ∧
    (if c.bucket = d.bucket then some c.next_after else db.get? d.bucket) = some d.after

/-- A list of chunks in which consecutive chunks are linked and the first starts at its
bucket's requested position. -/
structure Links (db : JsMap String Nat) (l : List SyncBucketData) : Prop where
  chain : l.Chain' (Link db)
  head : ∀ c ∈ l.head?, db.get? c.bucket = some c.after

/-- The open chunk of the loop holds the rows `ob` read since the last cut; without one,
nothing has been read. -/
def OpenChunk (lim : BatchLimits) (bs : List (List BucketDataRow)) (ob : List BucketDataRow)
    (st : ChunkState) : Prop :=
  match st.currentChunk with
  | none => bs = [] ∧ ob = [] ∧ st.chunkSizeBytes = 0
  | some c => ChunkOf lim ob c st.targetOp ∧ c.has_more = false ∧ st.chunkSizeBytes = rowsBytes ob

/-- The loop's invariant: the chunks yielded so far hold the blocks `bs`, the open chunk
holds `ob`, every row read was counted, and the chunks, the open one last, are linked. -/
structure Tracks (lim : BatchLimits) (db : JsMap String Nat) (bs : List (List BucketDataRow))
    (ob : List BucketDataRow) (ys : List SyncBucketDataChunk) (st : ChunkState) : Prop where
  yielded : List.Forall₂ (fun blk y ↦ ChunkOf lim blk y.chunkData y.targetOp) bs ys
  current : OpenChunk lim bs ob st
  count : st.batchRowCount = (bs.flatten ++ ob).length
  links : Links db (ys.map (·.chunkData) ++ st.pending)

/-! ## Rows grouped by bucket -/

/-- The elements of each key are consecutive: an element whose key comes again later is
followed by an element of that key.  An `ORDER BY` on the key gives this under any
collation. -/
def Grouped {α : Type} (k : α → String) : List α → Prop
  | [] => True
  | a :: l => (k a ∈ l.map k → l.head?.map k = some (k a)) ∧ Grouped k l

instance decidableGrouped {α : Type} (k : α → String) : (l : List α) → Decidable (Grouped k l)
  | [] => isTrue trivial
  | _ :: l =>
    haveI := decidableGrouped k l
    inferInstanceAs (Decidable ((_ → _) ∧ _))

section Grouped

variable {α : Type} {k : α → String}

theorem Grouped.append_right {l₁ l₂ : List α} (h : Grouped k (l₁ ++ l₂)) : Grouped k l₂ := by
  induction l₁ with
  | nil => exact h
  | cons _ _ ih => exact ih h.2

/-- In a grouped list, an element whose key comes again after a cut is followed, across
the cut, by an element of its key. -/
theorem Grouped.head_of_append {l₁ l₂ : List α} (h : Grouped k (l₁ ++ l₂)) {a : α}
    (ha : a ∈ l₁) (hk : k a ∈ l₂.map k) : ∀ x ∈ l₂.head?, k x = k a := by
  induction l₁ generalizing a with
  | nil => cases ha
  | cons b l₁ ih =>
    rw [List.cons_append] at h
    rcases List.mem_cons.1 ha with rfl | ha
    · have hnext := h.1 (by rw [List.map_append, List.mem_append]; exact .inr hk)
      cases l₁ with
      | nil =>
        intro x hx
        rw [List.nil_append, hx, Option.map_some', Option.some.injEq] at hnext
        exact hnext
      | cons b' l₁ =>
        rw [List.cons_append, List.head?_cons, Option.map_some', Option.some.injEq] at hnext
        exact fun x hx ↦ (ih h.2 (List.mem_cons_self _ _) (hnext ▸ hk) x hx).trans hnext
    · exact ih h.2 ha hk

end Grouped

/-! ## Chunks and links -/

section Chunks

variable {lim : BatchLimits} {blk : List BucketDataRow} {c : SyncBucketData} {t : Option Nat}

theorem ChunkOf.ne_nil (h : ChunkOf lim blk c t) : blk ≠ [] := by
  rintro rfl
  simpa using h.next_after

theorem ChunkOf.length_data (h : ChunkOf lim blk c t) : c.data.length = blk.length := by
  rw [h.data, List.length_map]

/-- `has_more` is not part of what a chunk holds. -/
theorem ChunkOf.with_has_more (h : ChunkOf lim blk c t) (b : Bool) :
    ChunkOf lim blk { c with has_more := b } t :=
  ⟨h.data, h.bucket, h.next_after, h.targetOp, h.size⟩

/-- The chunk `openChunk` makes for its first row. -/
theorem chunkOf_single (lim : BatchLimits) (row : BucketDataRow) (s : Nat) :
    ChunkOf lim [row] ⟨row.bucket_name, s, false, [mapOpEntry row], row.op_id⟩
      (maxTargetOp none row) :=
  ⟨rfl, by simp, rfl, rfl, .inl rfl⟩

/-- `pushRow` within the byte limit. -/
theorem ChunkOf.push (h : ChunkOf lim blk c t) {row : BucketDataRow}
    (hb : c.bucket = row.bucket_name) (hsize : rowsBytes blk + rowSizeBytes row ≤ lim.chunkLimitBytes) :
    ChunkOf lim (blk ++ [row]) { c with data := c.data ++ [mapOpEntry row], next_after := row.op_id }
      (maxTargetOp t row) where
  data := by rw [h.data, List.map_append, List.map_singleton]
  bucket r hr := by
    rcases List.mem_append.1 hr with hr | hr
    · exact h.bucket r hr
    · rw [List.mem_singleton.1 hr]
      exact hb.symm
  next_after := by simp
  targetOp := by rw [h.targetOp, List.foldl_append, List.foldl_cons, List.foldl_nil]
  size := .inr (by simpa [rowsBytes] using hsize)

end Chunks

section Links

variable {db : JsMap String Nat}

theorem Link.congr_right {c d d' : SyncBucketData} (h : Link db c d) (hb : d'.bucket = d.bucket)
    (ha : d'.after = d.after) : Link db c d' := by
  simpa only [Link, hb, ha] using h

/-- The last chunk can be replaced by one of the same bucket and start. -/
theorem Links.replace_last {L : List SyncBucketData} {c c' : SyncBucketData}
    (h : Links db (L ++ [c])) (hb : c'.bucket = c.bucket) (ha : c'.after = c.after) :
    Links db (L ++ [c']) := by
  obtain ⟨hchain, hhead⟩ := h
  rw [List.chain'_append] at hchain
  refine ⟨List.chain'_append.2 ⟨hchain.1, List.chain'_singleton _, fun x hx y hy ↦ ?_⟩, ?_⟩
  · obtain rfl : c' = y := by simpa using hy
    exact (hchain.2.2 x hx c (by simp)).congr_right hb ha
  · cases L with
    | nil =>
      intro x hx
      obtain rfl : c' = x := by simpa using hx
      rw [hb, ha]
      exact hhead c (by simp)
    | cons y L => exact hhead

/-- A chunk linked to the last one extends the list. -/
theorem Links.snoc {L : List SyncBucketData} {c d : SyncBucketData} (h : Links db (L ++ [c]))
    (hl : Link db c d) : Links db (L ++ [c] ++ [d]) := by
  refine ⟨List.chain'_append.2 ⟨h.chain, List.chain'_singleton _, fun x hx y hy ↦ ?_⟩, ?_⟩
  · obtain rfl : c = x := by simpa using hx
    obtain rfl : d = y := by simpa using hy
    exact hl
  · cases L <;> exact h.head

end Links

/-! ## The loop

One lemma per branch of `processRow`, each for a row of a requested bucket read before
the batch is full; `RowStep` is what each of them gives. -/

/-- `processRow` reads `row` without reaching the `break`, and the invariant holds after
it with `row` appended to the rows read. -/
def RowStep (lim : BatchLimits) (db : JsMap String Nat) (bs : List (List BucketDataRow))
    (ob : List BucketDataRow) (ys : List SyncBucketDataChunk) (st : ChunkState)
    (row : BucketDataRow) : Prop :=
  ∃ ys' st', processRow lim db st row = .ok (ys', false, st') ∧
    ∃ bs' ob', Tracks lim db bs' ob' (ys ++ ys') st' ∧ bs'.flatten ++ ob' = bs.flatten ++ ob ++ [row]

section Loop

variable {lim : BatchLimits} {db : JsMap String Nat} {bs : List (List BucketDataRow)}
  {ob : List BucketDataRow} {ys : List SyncBucketDataChunk} {st : ChunkState}

theorem Tracks.init (lim : BatchLimits) (db : JsMap String Nat) :
    Tracks lim db [] [] [] ChunkState.init :=
  ⟨.nil, ⟨rfl, rfl, rfl⟩, rfl, ⟨List.chain'_nil, fun _ h ↦ nomatch h⟩⟩

theorem openChunk_of_get {st : ChunkState} {start : Option Nat} {row : BucketDataRow} {s : Nat}
    (h : (start <|> db.get? row.bucket_name) = some s) :
    openChunk db st start row =
      .ok (pushRow { st with targetOp := none } ⟨row.bucket_name, s, false, [], s⟩ row) := by
  simp only [openChunk, h]

/-- The chunk `openChunk` opens is the open chunk of the invariant for its row. -/
theorem openChunk_current (lim : BatchLimits) (bs : List (List BucketDataRow)) (st : ChunkState)
    (row : BucketDataRow) (s : Nat) (h0 : st.chunkSizeBytes = 0) :
    OpenChunk lim bs [row] (pushRow { st with targetOp := none } ⟨row.bucket_name, s, false, [], s⟩ row) :=
  ⟨chunkOf_single lim row s, rfl, by simp [pushRow, rowsBytes, h0]⟩

/-- The first row opens the first chunk, at its bucket's requested position. -/
theorem Tracks.rowStep_first (ht : Tracks lim db bs ob ys st) (hst : st.currentChunk = none)
    {row : BucketDataRow} (hdb : (db.get? row.bucket_name).isSome) :
    RowStep lim db bs ob ys st row := by
  obtain ⟨s, hs⟩ := Option.isSome_iff_exists.1 hdb
  have hcur := ht.current
  simp only [OpenChunk, hst] at hcur
  obtain ⟨rfl, rfl, h0⟩ := hcur
  obtain rfl : ys = [] := List.forall₂_nil_left_iff.1 ht.yielded
  refine ⟨[], _, ?_, [], [row], ⟨.nil, openChunk_current lim [] st row s h0, ?_, ?_⟩, rfl⟩
  · simp only [processRow, hst, openChunk_of_get ((Option.none_orElse _).trans hs)]
    rfl
  · simp [pushRow, ht.count]
  · exact ⟨List.chain'_singleton _, by simpa [pushRow, ChunkState.pending] using hs⟩

/-- A row of another bucket, or one that does not fit, closes the open chunk and opens
the next one, at the closed chunk's end when the bucket is the same. -/
theorem Tracks.rowStep_cut (ht : Tracks lim db bs ob ys st) {c : SyncBucketData}
    (hst : st.currentChunk = some c) {row : BucketDataRow}
    (hcut : c.bucket ≠ row.bucket_name ∨ sizeExceeded lim st (rowSizeBytes row))
    (hdb : (db.get? row.bucket_name).isSome) (hlt : st.batchRowCount < lim.batchRowLimit) :
    RowStep lim db bs ob ys st row := by
  obtain ⟨s, hs⟩ := Option.isSome_iff_exists.1 hdb
  have hcur := ht.current
  simp only [OpenChunk, hst] at hcur
  obtain ⟨hc, hmore, -⟩ := hcur
  set y : SyncBucketData := if c.bucket = row.bucket_name then { c with has_more := true } else c
    with hy_def
  set s1 := if c.bucket = row.bucket_name then c.next_after else s with hs1_def
  have hstart : ((if c.bucket = row.bucket_name then some c.next_after else none) <|>
      db.get? row.bucket_name) = some s1 := by
    by_cases hb : c.bucket = row.bucket_name <;> simp [hs1_def, hb, hs]
  have hy : ChunkOf lim ob y st.targetOp := by
    rw [hy_def]; split
    exacts [hc.with_has_more true, hc]
  have hya : y.bucket = c.bucket ∧ y.after = c.after := by
    rw [hy_def]; split <;> exact ⟨rfl, rfl⟩
  have hlink : Link db y ⟨row.bucket_name, s1, false, [mapOpEntry row], row.op_id⟩ := by
    by_cases hb : c.bucket = row.bucket_name
    · simp [Link, hy_def, hs1_def, hb]
    · simp [Link, hy_def, hs1_def, hb, hmore, hs]
  refine ⟨[⟨y, st.targetOp⟩], _, ?_, bs ++ [ob], [row],
    ⟨List.rel_append ht.yielded (.cons hy .nil), openChunk_current lim _
      { st with currentChunk := none, chunkSizeBytes := 0, targetOp := none } row s1 rfl, ?_, ?_⟩,
    by simp⟩
  · simp only [processRow, hst, if_pos hcut, if_neg (Nat.not_le.2 hlt), openChunk_of_get hstart]
    rfl
  · simp [pushRow, ht.count, Nat.add_assoc]
  · have hl : Links db (ys.map (·.chunkData) ++ [c]) := by
      simpa only [ChunkState.pending, hst, Option.toList_some] using ht.links
    rw [List.map_append, List.map_singleton]
    exact (hl.replace_last hya.1 hya.2).snoc hlink

/-- A row of the open chunk's bucket that fits is appended to it. -/
theorem Tracks.rowStep_push (ht : Tracks lim db bs ob ys st) {c : SyncBucketData}
    (hst : st.currentChunk = some c) {row : BucketDataRow}
    (hcut : ¬(c.bucket ≠ row.bucket_name ∨ sizeExceeded lim st (rowSizeBytes row))) :
    RowStep lim db bs ob ys st row := by
  have hcur := ht.current
  simp only [OpenChunk, hst] at hcur
  obtain ⟨hc, hmore, hsize⟩ := hcur
  obtain ⟨hb, hfit⟩ : c.bucket = row.bucket_name ∧
      sizeExceeded lim st (rowSizeBytes row) = false := by
    simpa [not_or] using hcut
  have hlen : 0 < c.data.length := by
    rw [hc.length_data]
    exact List.length_pos.2 hc.ne_nil
  have hbytes : rowsBytes ob + rowSizeBytes row ≤ lim.chunkLimitBytes := by
    simp only [sizeExceeded, hst, Option.map_some', Option.getD_some, Bool.or_eq_false_iff,
      Bool.and_eq_false_iff, decide_eq_false_iff_not] at hfit
    omega
  refine ⟨[], pushRow st c row, by simp only [processRow, hst, if_neg hcut], bs, ob ++ [row], ?_,
    by simp⟩
  have hl : Links db (ys.map (·.chunkData) ++ [c]) := by
    simpa only [ChunkState.pending, hst, Option.toList_some] using ht.links
  rw [List.append_nil]
  exact ⟨ht.yielded, ⟨hc.push hb hbytes, hmore, by simp [pushRow, hsize, rowsBytes]⟩,
    by simp [pushRow, ht.count, Nat.add_assoc], hl.replace_last rfl rfl⟩

/-- Every row of a requested bucket read before the batch is full is read without the
`break`, and keeps the invariant. -/
theorem Tracks.rowStep (ht : Tracks lim db bs ob ys st) {row : BucketDataRow}
    (hdb : (db.get? row.bucket_name).isSome) (hlt : st.batchRowCount < lim.batchRowLimit) :
    RowStep lim db bs ob ys st row := by
  rcases hst : st.currentChunk with _ | c
  · exact ht.rowStep_first hst hdb
  · by_cases hcut : c.bucket ≠ row.bucket_name ∨ sizeExceeded lim st (rowSizeBytes row)
    · exact ht.rowStep_cut hst hcut hdb hlt
    · exact ht.rowStep_push hst hcut

/-- A row set that fits in the batch is read to its end. -/
theorem Tracks.processRowSet_ok (ht : Tracks lim db bs ob ys st) (rows : List BucketDataRow)
    (hdb : ∀ r ∈ rows, (db.get? r.bucket_name).isSome)
    (hlen : st.batchRowCount + rows.length ≤ lim.batchRowLimit) :
    ∃ ys' st', processRowSet lim db st rows = .ok (ys', st') ∧
      ∃ bs' ob', Tracks lim db bs' ob' (ys ++ ys') st' ∧
        bs'.flatten ++ ob' = bs.flatten ++ ob ++ rows := by
  induction rows generalizing bs ob ys st with
  | nil => exact ⟨[], st, rfl, bs, ob, by rwa [List.append_nil], by rw [List.append_nil]⟩
  | cons row rows ih =>
    rw [List.length_cons] at hlen
    obtain ⟨ys1, st1, h1, bs1, ob1, ht1, he1⟩ :=
      ht.rowStep (hdb row (List.mem_cons_self _ _)) (by omega)
    have hcount : st1.batchRowCount = st.batchRowCount + 1 := by
      rw [ht1.count, he1, ht.count]
      simp [Nat.add_assoc]
    obtain ⟨ys2, st2, h2, bs2, ob2, ht2, he2⟩ :=
      ih ht1 (fun r hr ↦ hdb r (List.mem_cons_of_mem _ hr)) (by omega)
    refine ⟨ys1 ++ ys2, st2, by simp only [processRowSet, h1, h2]; rfl, bs2, ob2, ?_, by simp [he2, he1]⟩
    rwa [← List.append_assoc]

/-- Row sets that fit in the batch are all read. -/
theorem Tracks.processRowSets_ok (ht : Tracks lim db bs ob ys st)
    (sets : List (List BucketDataRow)) (hdb : ∀ r ∈ sets.flatten, (db.get? r.bucket_name).isSome)
    (hlen : st.batchRowCount + sets.flatten.length ≤ lim.batchRowLimit) :
    ∃ ys' st', processRowSets lim db st sets = .ok (ys', st') ∧
      ∃ bs' ob', Tracks lim db bs' ob' (ys ++ ys') st' ∧
        bs'.flatten ++ ob' = bs.flatten ++ ob ++ sets.flatten := by
  induction sets generalizing bs ob ys st with
  | nil => exact ⟨[], st, rfl, bs, ob, by rwa [List.append_nil], by simp⟩
  | cons set sets ih =>
    rw [List.flatten_cons] at hdb hlen
    rw [List.length_append] at hlen
    obtain ⟨ys1, st1, h1, bs1, ob1, ht1, he1⟩ :=
      ht.processRowSet_ok set (fun r hr ↦ hdb r (List.mem_append_left _ hr)) (by omega)
    have hcount : st1.batchRowCount = st.batchRowCount + set.length := by
      rw [ht1.count, he1, ht.count]
      simp [Nat.add_assoc]
    obtain ⟨ys2, st2, h2, bs2, ob2, ht2, he2⟩ :=
      ih ht1 (fun r hr ↦ hdb r (List.mem_append_right _ hr)) (by omega)
    refine ⟨ys1 ++ ys2, st2, by simp only [processRowSets, h1, h2]; rfl, bs2, ob2, ?_, by simp [he2, he1]⟩
    rwa [← List.append_assoc]

/-- With the final chunk, the chunks hold consecutive blocks of the rows read and are
linked, and the last one has more data exactly when the batch is full. -/
theorem Tracks.finish (ht : Tracks lim db bs ob ys st) :
    ∃ blocks, blocks.flatten = bs.flatten ++ ob ∧
      List.Forall₂ (fun blk c ↦ ChunkOf lim blk c.chunkData c.targetOp) blocks
        (ys ++ finalChunk lim st) ∧
      Links db ((ys ++ finalChunk lim st).map (·.chunkData)) ∧
      ∀ c ∈ ((ys ++ finalChunk lim st).map (·.chunkData)).getLast?,
        c.has_more = decide (lim.batchRowLimit ≤ st.batchRowCount) := by
  have hcur := ht.current
  rcases hst : st.currentChunk with _ | c
  · simp only [OpenChunk, hst] at hcur
    obtain ⟨rfl, rfl, -⟩ := hcur
    obtain rfl : ys = [] := List.forall₂_nil_left_iff.1 ht.yielded
    have hfin : finalChunk lim st = [] := by simp [finalChunk, hst]
    rw [hfin]
    exact ⟨[], rfl, .nil, ⟨List.chain'_nil, fun _ h ↦ nomatch h⟩, fun _ h ↦ nomatch h⟩
  · simp only [OpenChunk, hst] at hcur
    have hl : Links db (ys.map (·.chunkData) ++ [c]) := by
      simpa only [ChunkState.pending, hst, Option.toList_some] using ht.links
    have hfin : finalChunk lim st =
        [⟨{ c with has_more := decide (lim.batchRowLimit ≤ st.batchRowCount) }, st.targetOp⟩] := by
      simp [finalChunk, hst]
    rw [hfin, List.map_append, List.map_singleton]
    exact ⟨bs ++ [ob], by simp, List.rel_append ht.yielded (.cons (hcur.1.with_has_more _) .nil),
      hl.replace_last rfl rfl, by simp⟩

end Loop

/-! ## Reading the chunks off the blocks -/

section Blocks

variable {lim : BatchLimits} {blocks : List (List BucketDataRow)} {cs : List SyncBucketDataChunk}

theorem exists_block_of_mem {R : List BucketDataRow → SyncBucketDataChunk → Prop}
    (h : List.Forall₂ R blocks cs) {c : SyncBucketDataChunk} (hc : c ∈ cs) :
    ∃ blk ∈ blocks, R blk c := by
  induction h with
  | nil => cases hc
  | cons hr _ ih =>
    rcases List.mem_cons.1 hc with rfl | hc
    · exact ⟨_, List.mem_cons_self _ _, hr⟩
    · obtain ⟨blk, hblk, h⟩ := ih hc
      exact ⟨blk, List.mem_cons_of_mem _ hblk, h⟩

/-- The chunks' entries are the blocks' rows, in order. -/
theorem flatMap_data_of_blocks
    (h : List.Forall₂ (fun blk c ↦ ChunkOf lim blk c.chunkData c.targetOp) blocks cs) :
    (cs.map (·.chunkData)).flatMap (·.data) = blocks.flatten.map mapOpEntry := by
  induction h with
  | nil => rfl
  | cons hc _ ih => simp [hc.data, ih]

/-- Blocks of rows grouped by bucket give chunks grouped by bucket. -/
theorem grouped_bucket_of_blocks
    (h : List.Forall₂ (fun blk c ↦ ChunkOf lim blk c.chunkData c.targetOp) blocks cs)
    (hg : Grouped (·.bucket_name) blocks.flatten) :
    Grouped (·.bucket) (cs.map (·.chunkData)) := by
  induction h with
  | nil => trivial
  | @cons blk c rest cs hc hrest ih =>
    rw [List.flatten_cons] at hg
    refine ⟨fun hmem ↦ ?_, ih hg.append_right⟩
    obtain ⟨d, hd, hdb⟩ := List.mem_map.1 hmem
    obtain ⟨d, hd0, rfl⟩ := List.mem_map.1 hd
    obtain ⟨blk', hblk', hd'⟩ := exists_block_of_mem hrest hd0
    obtain ⟨r', hr'⟩ := List.exists_mem_of_ne_nil blk' hd'.ne_nil
    obtain ⟨r, hr⟩ := List.exists_mem_of_ne_nil blk hc.ne_nil
    have hnext := hg.head_of_append hr (List.mem_map.2
      ⟨r', List.mem_flatten.2 ⟨blk', hblk', hr'⟩, by rw [hd'.bucket r' hr', hdb, hc.bucket r hr]⟩)
    cases hrest with
    | nil => cases hd0
    | @cons blk₁ c₁ _ _ hc₁ _ =>
      obtain ⟨r₁, blk₁, rfl⟩ := List.exists_cons_of_ne_nil hc₁.ne_nil
      have := hnext r₁ rfl
      simp only [List.map_cons, List.head?_cons, Option.map_some', Option.some.injEq]
      rw [← hc₁.bucket r₁ (List.mem_cons_self _ _), this, hc.bucket r hr]

end Blocks

section Buckets

variable {db : JsMap String Nat}

/-- In chunks grouped by bucket, the chunks of `b` are consecutive, so each starts where
the one before ended; the first is the list's first or starts at `b`'s requested
position. -/
theorem chain_filter_bucket {L : List SyncBucketData} (hc : L.Chain' (Link db))
    (hs : Grouped (·.bucket) L) (b : String) :
    (L.filter (·.bucket = b)).Chain' (fun c d ↦ d.after = c.next_after) ∧
      ∀ h ∈ (L.filter (·.bucket = b)).head?, h ∈ L.head? ∨ db.get? b = some h.after := by
  induction L with
  | nil => exact ⟨List.chain'_nil, fun _ h ↦ nomatch h⟩
  | cons c L ih =>
    obtain ⟨hl, hcL⟩ := List.chain'_cons'.1 hc
    obtain ⟨ih1, ih2⟩ := ih hcL hs.2
    by_cases hcb : c.bucket = b
    · rw [List.filter_cons_of_pos (by simpa using hcb)]
      refine ⟨List.chain'_cons'.2 ⟨?_, ih1⟩, fun h hh ↦ .inl hh⟩
      cases L with
      | nil => exact fun _ h ↦ nomatch h
      | cons d L =>
        intro e he
        by_cases hd : d.bucket = b
        · rw [List.filter_cons_of_pos (by simpa using hd)] at he
          obtain rfl : d = e := Option.some_injective _ he
          have := (hl d rfl).2
          rw [if_pos (hcb.trans hd.symm)] at this
          exact (Option.some_injective _ this).symm
        · have hnil : L.filter (·.bucket = b) = [] :=
            List.filter_eq_nil_iff.2 fun e he heb ↦ hd <| by
              have := hs.1 (List.mem_map.2 ⟨e, List.mem_cons_of_mem _ he,
                (of_decide_eq_true heb).trans hcb.symm⟩)
              simpa [hcb] using this
          rw [List.filter_cons_of_neg (by simpa using hd), hnil] at he
          cases he
    · rw [List.filter_cons_of_neg (by simpa using hcb)]
      refine ⟨ih1, fun h hh ↦ .inr ?_⟩
      rcases ih2 h hh with hh' | hh'
      · have hhb : h.bucket = b :=
          of_decide_eq_true (List.mem_filter.1 (List.mem_of_mem_head? hh)).2
        have := (hl h hh').2
        rwa [if_neg (hhb ▸ hcb), hhb] at this
      · exact hh'

/-- Linked chunks grouped by bucket: each bucket's first chunk starts at its requested
position, and each later one where the one before ended. -/
theorem Links.per_bucket {L : List SyncBucketData} (h : Links db L)
    (hs : Grouped (·.bucket) L) (b : String) :
    (∀ c ∈ (L.filter (·.bucket = b)).head?, db.get? b = some c.after) ∧
      (L.filter (·.bucket = b)).Chain' fun c d ↦ d.after = c.next_after := by
  obtain ⟨hchain, hhead⟩ := chain_filter_bucket h.chain hs b
  refine ⟨fun c hc ↦ ?_, hchain⟩
  rcases hhead c hc with hc' | hc'
  · have hb : c.bucket = b := of_decide_eq_true (List.mem_filter.1 (List.mem_of_mem_head? hc)).2
    rw [← hb]
    exact h.head c hc'
  · exact hc'

end Buckets

/-! ## The chunks of a batch -/

/-- Two ops of bucket `a` and one of `b`, streamed in two row sets. -/
def twoBucketRows : List (List BucketDataRow) :=
  [[⟨"a", 1, .PUT, some "t", some "r1", 5, some "{}", none⟩,
    ⟨"a", 2, .PUT, some "t", some "r2", 5, some "{}", none⟩],
   [⟨"b", 3, .PUT, some "t", some "r3", 5, some "{}", none⟩]]

/-- Three rows per batch, three bytes per chunk: the second row of `a` does not fit. -/
def threeByteLimits : BatchLimits := ⟨3, 3⟩

/-- Both buckets requested from the start. -/
def twoBucketStarts : JsMap String Nat := ⟨[("a", 0), ("b", 0)]⟩

/-- The row of `a` that does not fit starts a chunk where the first ended. -/
example : chunkRows threeByteLimits twoBucketStarts twoBucketRows = .ok
    [⟨⟨"a", 0, true, [⟨1, .PUT, some "t", some "r1", 5, some "{}"⟩], 1⟩, none⟩,
     ⟨⟨"a", 1, false, [⟨2, .PUT, some "t", some "r2", 5, some "{}"⟩], 2⟩, none⟩,
     ⟨⟨"b", 0, true, [⟨3, .PUT, some "t", some "r3", 5, some "{}"⟩], 3⟩, none⟩] := rfl

/-- Data of one character outside the Basic Multilingual Plane is two UTF-16 code units, so
of two such rows of `a` the second does not fit in three. -/
example : (chunkRows threeByteLimits twoBucketStarts
    [[⟨"a", 1, .PUT, some "t", some "r1", 5, some "😀", none⟩,
      ⟨"a", 2, .PUT, some "t", some "r2", 5, some "😀", none⟩]]).map List.length = .ok 2 := rfl

end PowerSync
