import PowerSync.Sync.Stream

/-!
# Download positions only move forward

Each data line of a bucket carries ops after the bucket's position, and sending it moves
the position to the chunk's `next_after`.  This file proves what follows for every run of
a connection: while a bucket stays in `bucketDataPositions`, the op ids sent for it
strictly increase, across chunks, storage batches, checkpoints and preemptions.

The invariant is about the chunks the connection still has to send (`ChunksAhead`): each
is well formed, and each bucket's op ids among them ascend and lie after the bucket's
position.  `getBucketDataBatch_spec` establishes it when a batch arrives, and sending a
chunk keeps it.  Between batches nothing is pending, and a new checkpoint line keeps the
position of every bucket it keeps.
-/

namespace PowerSync

/-! ## The position updates -/

theorem get?_foldl_set_filtered (positions : JsMap String BucketSyncState) (bs : List BucketDescription)
    (m : JsMap String Nat) (b : String) (p : Nat)
    (hm : m.get? b = some p → ∃ st, positions.get? b = some st ∧ st.start_op_id = p)
    (h : (bs.foldl (fun m d ↦ match positions.get? d.bucket with
      | some state => m.set d.bucket state.start_op_id
      | none => m) m).get? b = some p) :
    ∃ st, positions.get? b = some st ∧ st.start_op_id = p := by
  induction bs generalizing m with
  | nil => exact hm h
  | cons d bs ih =>
      refine ih _ (fun h' ↦ ?_) h
      dsimp only at h'
      split at h'
      · rename_i state hstate
        rw [JsMap.get?_set] at h'
        split at h'
        · rename_i hdb
          subst hdb
          exact ⟨state, hstate, Option.some.inj h'⟩
        · exact hm h'
      · exact hm h'

/-- The positions passed to storage are the connection's own. -/
theorem get?_getFilteredBucketPositions {st : BucketChecksumState} {bs : List BucketDescription}
    {b : String} {p : Nat} (h : (st.getFilteredBucketPositions bs).get? b = some p) :
    ∃ state, st.bucketDataPositions.get? b = some state ∧ state.start_op_id = p :=
  get?_foldl_set_filtered _ bs _ b p (by simp) h

theorem nodup_getFilteredBucketPositions (st : BucketChecksumState) (bs : List BucketDescription) :
    (st.getFilteredBucketPositions bs).Nodup := by
  unfold BucketChecksumState.getFilteredBucketPositions
  suffices ∀ m : JsMap String Nat, m.Nodup → (bs.foldl (fun m d ↦ match st.bucketDataPositions.get? d.bucket with
      | some state => m.set d.bucket state.start_op_id
      | none => m) m).Nodup from this _ JsMap.nodup_empty
  induction bs with
  | nil => exact fun _ h ↦ h
  | cons d bs ih =>
      intro m hm
      refine ih _ ?_
      dsimp only
      split
      · exact hm.set _ _
      · exact hm

theorem get?_updateBucketPosition (st : BucketChecksumState) (bucket : String) (nextAfter : Nat)
    (hasMore : Bool) (b : String) :
    ((st.updateBucketPosition bucket nextAfter hasMore).bucketDataPositions.get? b).map
        (·.start_op_id) =
      if bucket = b ∧ (st.bucketDataPositions.get? b).isSome then some nextAfter
      else (st.bucketDataPositions.get? b).map (·.start_op_id) := by
  unfold BucketChecksumState.updateBucketPosition
  dsimp only
  split
  · rename_i state hstate
    rw [JsMap.get?_set]
    by_cases h : bucket = b
    · subst h; simp [hstate]
    · simp [h]
  · rename_i hnone
    by_cases h : bucket = b
    · subst h; simp [hnone]
    · simp [h]

theorem get?_nextPositions (positions : JsMap String BucketSyncState) (bs : List BucketDescription)
    (b : String) (x : BucketSyncState) (h : (nextPositions positions bs).get? b = some x) :
    x.start_op_id = ((positions.get? b).map (·.start_op_id)).getD 0 := by
  unfold nextPositions at h
  suffices ∀ m : JsMap String BucketSyncState,
      (∀ y, m.get? b = some y → y.start_op_id = ((positions.get? b).map (·.start_op_id)).getD 0) →
      ∀ y, (bs.foldl (fun m d ↦ m.set d.bucket
        ⟨some d, ((positions.get? d.bucket).map (·.start_op_id)).getD 0⟩) m).get? b = some y →
        y.start_op_id = ((positions.get? b).map (·.start_op_id)).getD 0 from
    this _ (by simp) x h
  clear h
  induction bs with
  | nil => exact fun _ hm ↦ hm
  | cons d bs ih =>
      intro m hm
      refine ih _ fun y hy ↦ ?_
      rw [JsMap.get?_set] at hy
      split at hy
      · rename_i hdb
        subst hdb
        cases hy
        rfl
      · exact hm y hy

/-- A checkpoint line replaces the positions by those of its buckets, keeping each known
position. -/
theorem buildNextCheckpointLine_positions {ctx : SyncContext} {q : BucketParameterQuerier}
    {s : ChecksumStorage} {st st' : BucketChecksumState} {next : StorageCheckpointUpdate}
    {r : Option CheckpointLine} (h : buildNextCheckpointLine ctx q s st next = .ok (r, st')) :
    ∃ bs, st'.bucketDataPositions = nextPositions st.bucketDataPositions bs := by
  unfold buildNextCheckpointLine at h
  simp only [bind, Except.bind] at h
  split at h
  · cases h
  · rename_i upd hupd
    split at h
    · cases h
    · simp only [pure, Except.pure] at h
      split at h
      · cases h
      · split at h <;>
        · simp only [Except.ok.injEq, Prod.mk.injEq] at h
          obtain ⟨-, rfl⟩ := h
          exact ⟨_, rfl⟩

/-- A bucket's position, if the connection tracks it. -/
def posOf (positions : JsMap String BucketSyncState) (b : String) : Option Nat :=
  (positions.get? b).map (·.start_op_id)

theorem posOf_updateBucketPosition (st : BucketChecksumState) (bucket : String)
    (nextAfter : Nat) (hasMore : Bool) (b : String) :
    posOf (st.updateBucketPosition bucket nextAfter hasMore).bucketDataPositions b =
      if bucket = b ∧ (posOf st.bucketDataPositions b).isSome then some nextAfter
      else posOf st.bucketDataPositions b := by
  rw [posOf, get?_updateBucketPosition, posOf, Option.isSome_map']

theorem posOf_nextPositions {positions : JsMap String BucketSyncState} {bs : List BucketDescription}
    {b : String} (h' : (posOf (nextPositions positions bs) b).isSome)
    (h : (posOf positions b).isSome) : posOf (nextPositions positions bs) b = posOf positions b := by
  unfold posOf at *
  obtain ⟨x, hx⟩ := Option.isSome_iff_exists.mp (Option.isSome_map' ▸ h')
  obtain ⟨y, hy⟩ := Option.isSome_iff_exists.mp (Option.isSome_map' ▸ h)
  rw [hx, hy]
  simp only [Option.map_some']
  rw [get?_nextPositions _ _ _ _ hx, hy]
  rfl

/-! ## The invariant -/

/-- Whether the code is inside the `for await` over a batch's chunks. -/
def Pc.sending : Pc → Bool
  | .chunks _ | .yielded _ _ => true
  | _ => false

/-- The chunks still to send: each well formed, and each bucket's op ids among them
ascending and after the bucket's position. -/
def ChunksAhead (positions : JsMap String BucketSyncState) (cs : List SyncBucketData) : Prop :=
  (∀ c ∈ cs, c.WellFormed) ∧ ∀ b, (chunkOps b cs).Pairwise (· < ·) ∧
    ∀ p ∈ posOf positions b, ∀ x ∈ chunkOps b cs, p < x

/-- The invariant of every reachable connection. -/
def Conn.Good (c : Conn) : Prop :=
  match c.pc with
  | .chunks rest => ChunksAhead c.state.bucketDataPositions (rest.map (·.chunkData))
  | .yielded ch rest => ChunksAhead c.state.bucketDataPositions (ch :: rest.map (·.chunkData))
  | _ => True

theorem Conn.good_of_not_sending {c : Conn} (h : c.pc.sending = false) : c.Good := by
  unfold Conn.Good; split <;> simp_all [Pc.sending]

/-- The position the client will have once the line just yielded is through: the
bucket's position, or the pending chunk's `next_after`. -/
def Conn.sentPosition (c : Conn) (b : String) : Option Nat :=
  match c.pc with
  | .yielded ch _ =>
      if ch.bucket = b ∧ (posOf c.state.bucketDataPositions b).isSome then some ch.next_after
      else posOf c.state.bucketDataPositions b
  | _ => posOf c.state.bucketDataPositions b

theorem Conn.sentPosition_of_not_yielded {c : Conn}
    (h : ∀ ch rest, c.pc ≠ .yielded ch rest) (b : String) :
    c.sentPosition b = posOf c.state.bucketDataPositions b := by
  unfold Conn.sentPosition; split
  · exact absurd ‹_› (h _ _)
  · rfl

theorem Conn.sentPosition_of_not_sending {c : Conn} (h : c.pc.sending = false) (b : String) :
    c.sentPosition b = posOf c.state.bucketDataPositions b :=
  Conn.sentPosition_of_not_yielded (fun _ _ hy ↦ by simp [hy, Pc.sending] at h) b

theorem Conn.isSome_sentPosition {c : Conn} {b : String}
    (h : (posOf c.state.bucketDataPositions b).isSome) : ∃ m, c.sentPosition b = some m := by
  unfold Conn.sentPosition
  split
  · split
    · exact ⟨_, rfl⟩
    · exact Option.isSome_iff_exists.mp h
  · exact Option.isSome_iff_exists.mp h

/-- The op ids of bucket `b` in the data lines. -/
def dataOps (b : String) : List StreamingSyncLine → List Nat
  | [] => []
  | .data ch :: ls => chunkOps b [ch] ++ dataOps b ls
  | _ :: ls => dataOps b ls

@[simp] theorem dataOps_append (b : String) (ls ls' : List StreamingSyncLine) :
    dataOps b (ls ++ ls') = dataOps b ls ++ dataOps b ls' := by
  induction ls with
  | nil => rfl
  | cons l ls ih => cases l <;> simp [dataOps, ih]

/-- The ops of `b` in the lines ascend and lie in `(m, m']`. -/
def Advances (b : String) (m m' : Nat) (out : List StreamingSyncLine) : Prop :=
  m ≤ m' ∧ (dataOps b out).Pairwise (· < ·) ∧ ∀ x ∈ dataOps b out, m < x ∧ x ≤ m'

theorem Advances.of_nil {b : String} {out : List StreamingSyncLine} (m : Nat)
    (h : dataOps b out = []) : Advances b m m out :=
  ⟨le_rfl, by rw [h]; exact List.Pairwise.nil, by simp [h]⟩

theorem Advances.append {b : String} {m₁ m₂ m₃ : Nat} {o₁ o₂ : List StreamingSyncLine}
    (h₁ : Advances b m₁ m₂ o₁) (h₂ : Advances b m₂ m₃ o₂) : Advances b m₁ m₃ (o₁ ++ o₂) := by
  refine ⟨h₁.1.trans h₂.1, ?_, fun x hx ↦ ?_⟩
  · rw [dataOps_append, List.pairwise_append]
    exact ⟨h₁.2.1, h₂.2.1, fun x hx y hy ↦ lt_of_le_of_lt (h₁.2.2 x hx).2 (h₂.2.2 y hy).1⟩
  · rw [dataOps_append, List.mem_append] at hx
    rcases hx with hx | hx
    · exact ⟨(h₁.2.2 x hx).1, (h₁.2.2 x hx).2.trans h₂.1⟩
    · exact ⟨lt_of_le_of_lt h₁.1 (h₂.2.2 x hx).1, (h₂.2.2 x hx).2⟩

/-! ## The synchronous code between two suspension points

None of it yields a data line, and none of it stops inside the `for await`. -/

section Sync

variable {ctx : SyncContext} {q : BucketParameterQuerier} {s : ChecksumStorage} (c : Conn)

/-- A stretch of synchronous code that ends outside the chunk loop with the same state. -/
def Conn.QuietTo (c' : Conn) : Prop := c'.pc.sending = false ∧ c'.state = c.state

theorem loopTop_quiet : c.QuietTo (loopTop c) := by
  unfold loopTop; split <;> exact ⟨rfl, rfl⟩

theorem doWhile_quiet : c.QuietTo (doWhile c) := by
  unfold doWhile; split
  · exact ⟨rfl, rfl⟩
  · exact loopTop_quiet c

theorem afterGroups_quiet : c.QuietTo (afterGroups c) := by
  unfold afterGroups; split
  · exact doWhile_quiet c
  · exact ⟨rfl, rfl⟩

theorem groupHead_quiet : c.QuietTo (groupHead c) := by
  unfold groupHead; split
  · exact afterGroups_quiet c
  · split
    · exact afterGroups_quiet c
    · exact ⟨rfl, rfl⟩

theorem groupEnd_quiet : c.QuietTo (groupEnd c) := by
  have h := groupHead_quiet (maybeRace { c with didCompletePartialSync := true })
  refine ⟨h.1, h.2.trans ?_⟩
  unfold maybeRace; split <;> rfl

theorem batchesHead_quiet : c.QuietTo (batchesHead c) := by
  unfold batchesHead; split
  · exact groupEnd_quiet c
  · exact ⟨rfl, rfl⟩

theorem completeBatch_quiet : c.QuietTo (completeBatch c).1 ∧ ∀ b, dataOps b (completeBatch c).2 = [] := by
  unfold completeBatch
  split
  · exact ⟨batchesHead_quiet c, fun _ ↦ rfl⟩
  · refine ⟨batchesHead_quiet _, fun b ↦ ?_⟩
    split <;> [rfl; split <;> rfl]

theorem startLine_quiet (cp : Nat) (line : CheckpointLine) : c.QuietTo (startLine c cp line) :=
  groupHead_quiet _

/-- The main loop after a checkpoint update: no data line, and either the same positions or
those of a new checkpoint line. -/
theorem handleNext_spec (r : Option StorageCheckpointUpdate) :
    (handleNext ctx q s c r).1.pc.sending = false ∧ (∀ b, dataOps b (handleNext ctx q s c r).2 = []) ∧
      ((handleNext ctx q s c r).1.state.bucketDataPositions = c.state.bucketDataPositions ∨
        ∃ bs, (handleNext ctx q s c r).1.state.bucketDataPositions =
          nextPositions c.state.bucketDataPositions bs) := by
  cases r with
  | none => exact ⟨rfl, fun _ ↦ rfl, .inl rfl⟩
  | some u =>
      simp only [handleNext, handleUpdate]
      split
      · exact ⟨rfl, fun _ ↦ rfl, .inl rfl⟩
      · rename_i st h
        have hq := doWhile_quiet { c with promise := .none, state := st }
        exact ⟨hq.1, fun _ ↦ rfl, .inr (hq.2 ▸ buildNextCheckpointLine_positions h)⟩
      · rename_i line st h
        have hq := startLine_quiet { c with promise := .none, state := st } u.checkpoint line
        exact ⟨hq.1, fun _ ↦ rfl, .inr (hq.2 ▸ buildNextCheckpointLine_positions h)⟩

end Sync

/-! ## One chunk at a time -/

theorem ChunksAhead.tail {positions : JsMap String BucketSyncState} {ch : SyncBucketData}
    {cs : List SyncBucketData} (h : ChunksAhead positions (ch :: cs)) : ChunksAhead positions cs := by
  refine ⟨fun c hc ↦ h.1 c (List.mem_cons_of_mem _ hc), fun b ↦ ?_⟩
  obtain ⟨hp, hlt⟩ := h.2 b
  rw [chunkOps_cons, List.pairwise_append] at hp
  exact ⟨hp.2.1, fun p hp' x hx ↦ hlt p hp' x (by rw [chunkOps_cons]; exact List.mem_append_right _ hx)⟩

/-- Sending the first chunk ahead and moving its bucket to the chunk's `next_after` keeps
the rest ahead. -/
theorem ChunksAhead.advance {positions positions' : JsMap String BucketSyncState} {ch : SyncBucketData}
    {cs : List SyncBucketData} (h : ChunksAhead positions (ch :: cs))
    (hpos : ∀ b, posOf positions' b =
      if ch.bucket = b ∧ (posOf positions b).isSome then some ch.next_after else posOf positions b) :
    ChunksAhead positions' cs := by
  refine ⟨h.tail.1, fun b ↦ ⟨(h.tail.2 b).1, fun p hp x hx ↦ ?_⟩⟩
  rw [hpos b] at hp
  split at hp
  · rename_i hb
    obtain ⟨init, e, hdata, hnext⟩ := h.1 ch (List.mem_cons_self _ _)
    have hpair := (h.2 b).1
    rw [chunkOps_cons, if_pos hb.1, List.pairwise_append] at hpair
    cases hp
    rw [hnext]
    exact hpair.2.2 _ (by simp [hdata]) x hx
  · exact (h.2 b).2 p hp x (by rw [chunkOps_cons]; exact List.mem_append_right _ hx)

/-- The data line of the first chunk ahead carries its bucket from the position to the
chunk's `next_after`. -/
theorem ChunksAhead.advances_head {positions : JsMap String BucketSyncState} {d : SyncBucketData}
    {cs : List SyncBucketData} (h : ChunksAhead positions (d :: cs)) {m : Nat}
    (hm : posOf positions d.bucket = some m) : Advances d.bucket m d.next_after [.data d] := by
  obtain ⟨init, e, hdata, hnext⟩ := h.1 d (List.mem_cons_self _ _)
  have hops : dataOps d.bucket [.data d] = init.map (·.op_id) ++ [e.op_id] := by
    simp [dataOps, hdata]
  have hsub : (dataOps d.bucket [.data d]).Sublist (chunkOps d.bucket (d :: cs)) := by
    rw [chunkOps_cons, if_pos rfl, hops, hdata, List.map_append, List.map_cons, List.map_nil]
    exact List.sublist_append_left _ _
  have hpair := (h.2 d.bucket).1.sublist hsub
  have hlt x (hx : x ∈ dataOps d.bucket [.data d]) : m < x := (h.2 d.bucket).2 m hm x (hsub.subset hx)
  have hle x (hx : x ∈ dataOps d.bucket [.data d]) : x ≤ e.op_id := by
    rw [hops] at hpair hx
    rcases List.mem_append.mp hx with hx | hx
    · exact ((List.pairwise_append.mp hpair).2.2 x hx _ (List.mem_singleton_self _)).le
    · exact (List.mem_singleton.mp hx).le
  rw [hnext]
  exact ⟨(hlt _ (by simp [hops])).le, hpair, fun x hx ↦ ⟨hlt x hx, hle x hx⟩⟩

/-- A batch from storage starts ahead of the positions it was fetched from. -/
theorem chunksAhead_of_batch {lim : BatchLimits} {t : BucketDataTable} {sizes : List Nat} {cp : Nat}
    {st : BucketChecksumState} {bs : List BucketDescription} {cs : List SyncBucketDataChunk}
    (h : getBucketDataBatch lim t sizes cp (st.getFilteredBucketPositions bs) = .ok cs) :
    ChunksAhead st.bucketDataPositions (cs.map (·.chunkData)) := by
  obtain ⟨hw, hs⟩ := getBucketDataBatch_spec (nodup_getFilteredBucketPositions st bs) h
  refine ⟨fun c hc ↦ ?_, fun b ↦ ⟨(hs b).1, fun p hp x hx ↦ ?_⟩⟩
  · obtain ⟨c', hc', rfl⟩ := List.mem_map.mp hc
    exact hw c' hc'
  · obtain ⟨p', hp', hlt, -⟩ := (hs b).2 x hx
    obtain ⟨state, hstate, rfl⟩ := get?_getFilteredBucketPositions hp'
    simp only [posOf, hstate, Option.map_some', Option.mem_def, Option.some.injEq] at hp
    exact hp ▸ hlt

theorem maybeRace_state (c : Conn) : (maybeRace c).state = c.state := by
  unfold maybeRace; split <;> rfl

theorem maybeRace_pc (c : Conn) : (maybeRace c).pc = c.pc := by
  unfold maybeRace; split <;> rfl

section Steps

variable {ctx : SyncContext} {q : BucketParameterQuerier} {s : ChecksumStorage} {lim : BatchLimits}

/-- Each bucket tracked before and after a step moves its sent position forward, past
exactly the ops of the step's data lines. -/
def StepOk (c c' : Conn) (out : List StreamingSyncLine) : Prop :=
  ∀ b m, c.sentPosition b = some m → (posOf c'.state.bucketDataPositions b).isSome →
    ∃ m', c'.sentPosition b = some m' ∧ Advances b m m' out

/-- What every step does: it keeps the invariant and moves positions forward. -/
def StepSpec (c : Conn) (r : Conn × List StreamingSyncLine) : Prop := r.1.Good ∧ StepOk c r.1 r.2

/-- A step without data lines that leaves every tracked sent position where it was. -/
theorem stepSpec_of_same {c : Conn} {r : Conn × List StreamingSyncLine} (hg : r.1.Good)
    (hs : ∀ b, (posOf r.1.state.bucketDataPositions b).isSome → (c.sentPosition b).isSome →
      r.1.sentPosition b = c.sentPosition b)
    (ho : ∀ b, dataOps b r.2 = []) : StepSpec c r :=
  ⟨hg, fun b m hm h' ↦ ⟨m, (hs b h' (by rw [hm]; rfl)).trans hm, Advances.of_nil m (ho b)⟩⟩

theorem stepSpec_refl {c : Conn} (hc : c.Good) : StepSpec c (c, []) :=
  stepSpec_of_same hc (fun _ _ _ ↦ rfl) (fun _ ↦ rfl)

/-- Synchronous code entered outside a yield. -/
theorem stepSpec_quiet {c : Conn} {r : Conn × List StreamingSyncLine}
    (hc : ∀ ch rest, c.pc ≠ .yielded ch rest) (hq : c.QuietTo r.1) (ho : ∀ b, dataOps b r.2 = []) :
    StepSpec c r :=
  stepSpec_of_same (Conn.good_of_not_sending hq.1) (fun b _ _ ↦ by
    rw [Conn.sentPosition_of_not_sending hq.1, hq.2, Conn.sentPosition_of_not_yielded hc]) ho

/-- Completing a batch from a connection whose positions are the sent ones. -/
theorem stepSpec_completeBatch {c c' : Conn}
    (hs : ∀ b, posOf c'.state.bucketDataPositions b = c.sentPosition b) :
    StepSpec c (completeBatch c') := by
  obtain ⟨⟨hsend, hstate⟩, ho⟩ := completeBatch_quiet c'
  exact stepSpec_of_same (Conn.good_of_not_sending hsend)
    (fun b _ _ ↦ by rw [Conn.sentPosition_of_not_sending hsend, hstate, hs]) ho

theorem handleNext_stepSpec {c c₀ : Conn} (hc : c.pc.sending = false) (h₀ : c₀.state = c.state)
    (r : Option StorageCheckpointUpdate) : StepSpec c (handleNext ctx q s c₀ r) := by
  obtain ⟨hs, ho, hpos⟩ := handleNext_spec c₀ r
  refine stepSpec_of_same (Conn.good_of_not_sending hs) (fun b h' h ↦ ?_) ho
  rw [Conn.sentPosition_of_not_sending hc] at h
  rw [Conn.sentPosition_of_not_sending hs, Conn.sentPosition_of_not_sending hc]
  rcases hpos with hpos | ⟨bs, hpos⟩
  · rw [hpos, h₀]
  · rw [hpos, h₀] at h' ⊢
    exact posOf_nextPositions h' h

theorem onNext_spec {c : Conn} (hc : c.Good) (r : Option StorageCheckpointUpdate) :
    StepSpec c (onNext ctx q s c r) := by
  unfold onNext
  split
  · split
    · rename_i h
      exact handleNext_stepSpec (by rw [h]; rfl) rfl r
    · exact stepSpec_refl hc
  · dsimp only
    split
    · rename_i h
      exact handleNext_stepSpec (by rw [show c.pc = _ from h]; rfl) rfl r
    · exact stepSpec_of_same hc (fun _ _ _ ↦ rfl) (fun _ ↦ rfl)
  · exact stepSpec_refl hc

theorem afterYield_spec {c : Conn} {r : SyncBucketData} {rest : List SyncBucketDataChunk}
    (hc : ChunksAhead c.state.bucketDataPositions (r :: rest.map (·.chunkData)))
    (hpc : c.pc = .yielded r rest) : StepSpec c (afterYield c r rest) := by
  unfold afterYield
  dsimp only
  have hpos b : posOf ((maybeRace { c with syncedOperations := c.syncedOperations + r.data.length
      }).state.updateBucketPosition r.bucket r.next_after r.has_more).bucketDataPositions b =
      c.sentPosition b := by
    rw [posOf_updateBucketPosition, maybeRace_state, Conn.sentPosition, hpc]
  split
  · exact stepSpec_completeBatch hpos
  · exact stepSpec_of_same (hc.advance fun b ↦ by rw [posOf_updateBucketPosition, maybeRace_state])
      (fun b _ _ ↦ hpos b) (fun _ ↦ rfl)

theorem onResume_spec {c : Conn} (hc : c.Good) : StepSpec c (onResume ctx q s c) := by
  unfold onResume
  split
  · rename_i hpc
    split
    · exact handleNext_stepSpec (by rw [hpc]; rfl) rfl _
    · exact stepSpec_refl hc
  · rename_i hpc
    exact stepSpec_quiet (by simp [hpc]) (doWhile_quiet c) (fun _ ↦ rfl)
  · rename_i r rest hpc
    simp only [Conn.Good, hpc] at hc
    exact afterYield_spec hc hpc
  · exact stepSpec_refl hc

theorem onAcquire_spec {c : Conn} (hc : c.Good) (storage : Option (BucketDataTable × List Nat)) :
    StepSpec c (onAcquire lim c storage) := by
  unfold onAcquire
  split
  · rename_i hpc
    have hy : ∀ ch rest, c.pc ≠ .yielded ch rest := by simp [hpc]
    split
    · exact stepSpec_quiet hy (batchesHead_quiet c) (fun _ ↦ rfl)
    · split
      · exact stepSpec_quiet hy ⟨rfl, rfl⟩ (fun _ ↦ rfl)
      · rename_i h
        exact stepSpec_of_same (chunksAhead_of_batch h)
          (fun b _ _ ↦ (Conn.sentPosition_of_not_yielded hy b).symm) (fun _ ↦ rfl)
  · exact stepSpec_refl hc

theorem sendChunk_spec {c : Conn} {ch : SyncBucketDataChunk} {rest : List SyncBucketDataChunk}
    (hc : ChunksAhead c.state.bucketDataPositions (ch.chunkData :: rest.map (·.chunkData)))
    (hpc : c.pc = .chunks (ch :: rest)) : StepSpec c (sendChunk c ch rest) := by
  have hy : ∀ ch rest, c.pc ≠ .yielded ch rest := by simp [hpc]
  unfold sendChunk
  split
  · exact stepSpec_quiet hy (batchesHead_quiet c) (fun _ ↦ rfl)
  · dsimp only
    split
    · exact stepSpec_of_same hc.tail
        (fun b _ _ ↦ (Conn.sentPosition_of_not_yielded hy b).symm) (fun _ ↦ rfl)
    · refine ⟨hc, fun b m hm _ ↦ ?_⟩
      rw [Conn.sentPosition_of_not_yielded hy] at hm
      by_cases hb : ch.chunkData.bucket = b
      · subst hb
        exact ⟨_, by simp [Conn.sentPosition, hm], hc.advances_head hm⟩
      · exact ⟨m, by simp [Conn.sentPosition, hb, hm],
          Advances.of_nil m (by simp [dataOps, hb])⟩

theorem onChunk_spec {c : Conn} (hc : c.Good) : StepSpec c (onChunk c) := by
  unfold onChunk
  split
  · rename_i hpc
    exact stepSpec_completeBatch fun b ↦ (Conn.sentPosition_of_not_yielded (by simp [hpc]) b).symm
  · rename_i ch rest hpc
    simp only [Conn.Good, hpc, List.map_cons] at hc
    exact sendChunk_spec hc hpc
  · exact stepSpec_refl hc

/-- Every step keeps the invariant and moves positions forward. -/
theorem step_spec {c : Conn} (hc : c.Good) : ∀ e, StepSpec c (step ctx q s lim c e)
  | .next r => onNext_spec hc r
  | .resume => onResume_spec hc
  | .abortConnection => stepSpec_of_same hc (fun _ _ _ ↦ rfl) (fun _ ↦ rfl)
  | .acquire storage => onAcquire_spec hc storage
  | .chunk => onChunk_spec hc

/-- Every state a run reaches satisfies the invariant. -/
theorem run_good {c : Conn} (hc : c.Good) (evs : List Event) : (run ctx q s lim c evs).1.Good := by
  induction evs generalizing c with
  | nil => exact hc
  | cons e es ih => exact ih (step_spec hc e).1

theorem init_good (positions : List (String × Nat)) : (Conn.init positions).Good := trivial

variable (ctx q s lim)

/-- The connections a run passes through, first to last. -/
def states (c : Conn) : List Event → List Conn
  | [] => [c]
  | e :: es => c :: states (step ctx q s lim c e).1 es

theorem self_mem_states (c : Conn) (evs : List Event) : c ∈ states ctx q s lim c evs := by
  cases evs <;> simp [states]

variable {ctx q s lim}

/-- Over a run in which `b` stays tracked, its sent position moves forward past exactly the
ops of the run's data lines. -/
theorem run_advances {c : Conn} (hc : c.Good) {b : String} {evs : List Event}
    (hstay : ∀ c' ∈ states ctx q s lim c evs, (posOf c'.state.bucketDataPositions b).isSome) :
    ∃ m m', c.sentPosition b = some m ∧ (run ctx q s lim c evs).1.sentPosition b = some m' ∧
      Advances b m m' (run ctx q s lim c evs).2 := by
  induction evs generalizing c with
  | nil =>
      obtain ⟨m, hm⟩ := Conn.isSome_sentPosition (hstay c (List.mem_singleton_self c))
      exact ⟨m, m, hm, hm, Advances.of_nil m rfl⟩
  | cons e es ih =>
      have hrest c' (h : c' ∈ states ctx q s lim (step ctx q s lim c e).1 es) :=
        hstay c' (List.mem_cons_of_mem _ h)
      obtain ⟨m₁, m', hm₁, hm', hadv⟩ := ih (step_spec hc e).1 hrest
      obtain ⟨m, hm⟩ := Conn.isSome_sentPosition (hstay c (List.mem_cons_self _ _))
      obtain ⟨m₁', hm₁', hadv₁⟩ := (step_spec hc e).2 b m hm (hrest _ (self_mem_states _ _ _ _ _ _))
      rw [hm₁] at hm₁'
      cases hm₁'
      exact ⟨m, m', hm, hm', hadv₁.append hadv⟩

end Steps

/-- Per-bucket op ids on a connection strictly increase: between two points of any run, a
bucket that stays tracked gets its ops in strictly ascending order. -/
theorem dataOps_strictly_increasing (ctx : SyncContext) (q : BucketParameterQuerier)
    (s : ChecksumStorage) (lim : BatchLimits) (positions : List (String × Nat))
    (before during : List Event) (b : String)
    (hstay : ∀ c ∈ states ctx q s lim (run ctx q s lim (Conn.init positions) before).1 during,
      (posOf c.state.bucketDataPositions b).isSome) :
    (dataOps b (run ctx q s lim (run ctx q s lim (Conn.init positions) before).1 during).2).Pairwise
      (· < ·) := by
  obtain ⟨-, -, -, -, -, hpair, -⟩ := run_advances (run_good (init_good positions) before) hstay
  exact hpair

theorem dataOps_strictly_increasing_twoGroups :
    (∀ c ∈ states ⟨10, 10⟩ twoBucketQuerier fixedChecksums smallLimits
        (run ⟨10, 10⟩ twoBucketQuerier fixedChecksums smallLimits (Conn.init [])
          (twoGroupEvents.take 1)).1 (twoGroupEvents.drop 1),
        (posOf c.state.bucketDataPositions "a").isSome) ∧
      (dataOps "a" (run ⟨10, 10⟩ twoBucketQuerier fixedChecksums smallLimits
        (run ⟨10, 10⟩ twoBucketQuerier fixedChecksums smallLimits (Conn.init [])
          (twoGroupEvents.take 1)).1 (twoGroupEvents.drop 1)).2).Pairwise (· < ·) :=
  have h : ∀ c ∈ states ⟨10, 10⟩ twoBucketQuerier fixedChecksums smallLimits
      (run ⟨10, 10⟩ twoBucketQuerier fixedChecksums smallLimits (Conn.init [])
        (twoGroupEvents.take 1)).1 (twoGroupEvents.drop 1),
      (posOf c.state.bucketDataPositions "a").isSome := by decide
  ⟨h, dataOps_strictly_increasing _ _ _ _ [] _ _ "a" h⟩

end PowerSync
