import PowerSync.Sync.Stream

/-!
# Checkpoint diffs agree with recomputation

`buildNextCheckpointLine` does not recompute every checksum at every checkpoint.  It
reuses the previous checksum of each bucket that the storage update does not list as
updated, reuses the dynamic bucket list while no lookup of the querier changed, and sends
only the difference to the previous line.  This is sound when storage reports its
changes: the first update invalidates everything, and each later update either
invalidates or names every bucket whose checksum changed and every lookup whose parameter
rows changed (`ReportsChanges`).

A client applies the lines in order (`applyLine`): a `checkpoint` line replaces its map,
a `checkpoint_diff` removes and then updates buckets.  The result:

* `buildAll_agrees` — for every update sequence that keeps the contract, and a querier
  within the connection's limits, no call throws, and after the last call the client's
  map holds exactly the current buckets, each with its checksum and count at the latest
  checkpoint and its priority.

The invariant (`Agrees`) relates the connection state after an update to the storage at
that update's checkpoint; `buildNextCheckpointLine_agrees` is the step.
-/

namespace PowerSync

/-! ## Checksum maps -/

/-- `m` holds, for exactly the buckets `bs`, their checksums and counts `cs`. -/
def ChecksumsOf (m : JsMap String BucketChecksum) (bs : List String)
    (cs : String → Int × Nat) : Prop :=
  m.Nodup ∧ ∀ b, m.get? b = if b ∈ bs then some ⟨b, (cs b).1, (cs b).2⟩ else none

/-- Every entry is keyed by its own bucket. -/
theorem ChecksumsOf.bucket_eq {m : JsMap String BucketChecksum} {bs : List String}
    {cs : String → Int × Nat} (h : ChecksumsOf m bs cs) {e : String × BucketChecksum}
    (he : e ∈ m.entries) : e.2.bucket = e.1 := by
  have hget := JsMap.get?_eq_of_mem h.1 he
  rw [h.2] at hget
  split at hget
  · rw [← Option.some.inj hget]
  · cases hget

theorem ChecksumsOf.get?_bucket {m : JsMap String BucketChecksum} {bs : List String}
    {cs : String → Int × Nat} (h : ChecksumsOf m bs cs) {c : BucketChecksum}
    (hc : c ∈ m.values) : m.get? c.bucket = some c := by
  obtain ⟨e, he, rfl⟩ := List.mem_map.mp hc
  rw [h.bucket_eq he]
  exact JsMap.get?_eq_of_mem h.1 he

theorem ChecksumsOf.nodup_buckets {m : JsMap String BucketChecksum} {bs : List String}
    {cs : String → Int × Nat} (h : ChecksumsOf m bs cs) : (m.values.map (·.bucket)).Nodup := by
  have hkeys : m.values.map (·.bucket) = m.keys := by
    unfold JsMap.values JsMap.keys
    rw [List.map_map]
    exact List.map_congr_left fun e he ↦ h.bucket_eq he
  rw [hkeys]
  exact h.1

theorem ChecksumsOf.bucket_of_get? {m : JsMap String BucketChecksum} {bs : List String}
    {cs : String → Int × Nat} (h : ChecksumsOf m bs cs) {b : String} {c : BucketChecksum}
    (hb : m.get? b = some c) : c.bucket = b := by
  rw [h.2] at hb
  split at hb
  · rw [← Option.some.inj hb]
  · cases hb

/-- A checksum diff with nothing updated and nothing removed means no change. -/
theorem get?_eq_of_checksumsDiff {prev cur : JsMap String BucketChecksum} {bs : List String}
    {cs : String → Int × Nat} (hc : ChecksumsOf cur bs cs)
    (hu : (checksumsDiff prev cur).1 = []) (hr : (checksumsDiff prev cur).2 = []) (b : String) :
    prev.get? b = cur.get? b := by
  simp only [checksumsDiff, List.filter_eq_nil_iff] at hu hr
  cases hcur : cur.get? b with
  | some c =>
      have hcb := hc.bucket_of_get? hcur
      have := hu c (JsMap.mem_values_of_get? hcur)
      simpa [hcb] using this
  | none =>
      cases hprev : prev.get? b with
      | none => rfl
      | some p =>
          have := hr b ((JsMap.mem_keys_iff prev b).mpr (by simp [hprev]))
          simp [JsMap.has_eq, hcur] at this

/-! ## The client's map -/

/-- How a client applies a checkpoint line to its map of buckets: a `checkpoint` line
replaces it, a `checkpoint_diff` removes buckets and then updates buckets. -/
def applyLine (view : JsMap String CheckpointBucket) :
    StreamingSyncCheckpointLine → JsMap String CheckpointBucket
  | .checkpoint _ _ buckets => buckets.foldl (fun m c ↦ m.set c.bucket c) JsMap.empty
  | .checkpoint_diff _ _ removed updated =>
      updated.foldl (fun m c ↦ m.set c.bucket c) (removed.foldl JsMap.delete view)

/-- The client's map shows the checksums of `m`, each with its priority under `pr`. -/
def ShowsChecksums (view : JsMap String CheckpointBucket) (m : JsMap String BucketChecksum)
    (pr : String → Nat) : Prop :=
  ∀ b, view.get? b = (m.get? b).map fun c ↦ c.withPriority (pr b)

/-- The entries of a line: checksums with their priorities. -/
def withPriorities (pr : String → Nat) (cs : List BucketChecksum) : List CheckpointBucket :=
  cs.map fun e ↦ e.withPriority (pr e.bucket)

theorem bucket_withPriority (c : BucketChecksum) (p : Nat) : (c.withPriority p).bucket = c.bucket :=
  rfl

theorem nodup_withPriorities {pr : String → Nat} {cs : List BucketChecksum}
    (h : (cs.map (·.bucket)).Nodup) : ((withPriorities pr cs).map (·.bucket)).Nodup := by
  rwa [withPriorities, List.map_map]

/-- A value of `cs` under the key `b`, with its priority, if `cs` has one; otherwise
the map is left as it was at `b`. -/
theorem get?_foldl_withPriorities {pr : String → Nat} {cs : List BucketChecksum}
    (hn : (cs.map (·.bucket)).Nodup) (view : JsMap String CheckpointBucket) {b : String}
    {c : BucketChecksum} (hc : c ∈ cs) (hb : c.bucket = b) :
    ((withPriorities pr cs).foldl (fun m c ↦ m.set c.bucket c) view).get? b =
      some (c.withPriority (pr b)) := by
  subst hb
  exact JsMap.get?_foldl_set_of_mem _ (nodup_withPriorities hn) (List.mem_map_of_mem _ hc) view

theorem get?_foldl_withPriorities_of_not_mem {pr : String → Nat} {cs : List BucketChecksum}
    (view : JsMap String CheckpointBucket) {b : String} (hb : ∀ c ∈ cs, c.bucket ≠ b) :
    ((withPriorities pr cs).foldl (fun m c ↦ m.set c.bucket c) view).get? b = view.get? b := by
  refine JsMap.get?_foldl_set_of_forall_ne _ (fun c hc ↦ ?_) view
  obtain ⟨d, hd, rfl⟩ := List.mem_map.mp hc
  exact hb d hd

/-- A `checkpoint` line shows its checksum map, with priorities that are `pr₀` on its
buckets. -/
theorem applyLine_checkpoint {cur : JsMap String BucketChecksum} {bs : List String}
    {cs : String → Int × Nat} (hc : ChecksumsOf cur bs cs) {pr pr₀ : String → Nat}
    (hpr : ∀ b ∈ bs, pr b = pr₀ b) (view : JsMap String CheckpointBucket) (cp : Nat)
    (wc : Option Nat) :
    ShowsChecksums (applyLine view (.checkpoint cp wc (withPriorities pr cur.values))) cur pr₀ := by
  intro b
  cases hb : cur.get? b with
  | some c =>
      have hbs : b ∈ bs := by
        by_contra hn
        rw [hc.2, if_neg hn] at hb
        cases hb
      rw [← hpr b hbs]
      exact get?_foldl_withPriorities hc.nodup_buckets _ (JsMap.mem_values_of_get? hb)
        (hc.bucket_of_get? hb)
  | none =>
      refine (get?_foldl_withPriorities_of_not_mem _ fun c hc' hcb ↦ ?_).trans rfl
      rw [← hcb, hc.get?_bucket hc'] at hb
      cases hb

/-- A `checkpoint_diff` line takes a client that shows the previous checksums to one that
shows the current ones, when the line's priorities are `pr₀` on the current buckets. -/
theorem applyLine_diff {prev cur : JsMap String BucketChecksum} {bs : List String}
    {cs : String → Int × Nat} (hc : ChecksumsOf cur bs cs) {view : JsMap String CheckpointBucket}
    {pr pr₀ : String → Nat} (hpr : ∀ b ∈ bs, pr b = pr₀ b) (hv : ShowsChecksums view prev pr₀)
    (cp : Nat) (wc : Option Nat) :
    ShowsChecksums (applyLine view (.checkpoint_diff cp wc (checksumsDiff prev cur).2
      (withPriorities pr (checksumsDiff prev cur).1))) cur pr₀ := by
  intro b
  have hn : ((checksumsDiff prev cur).1.map (·.bucket)).Nodup :=
    hc.nodup_buckets.sublist ((List.filter_sublist _).map _)
  have hdel : ((checksumsDiff prev cur).2.foldl JsMap.delete view).get? b =
      if b ∈ (checksumsDiff prev cur).2 then none else view.get? b :=
    JsMap.get?_foldl_delete _ _ _
  simp only [applyLine]
  cases hb : cur.get? b with
  | none =>
      have hout : ∀ c ∈ (checksumsDiff prev cur).1, c.bucket ≠ b := fun c hc' hcb ↦ by
        rw [← hcb, hc.get?_bucket (List.mem_filter.mp hc').1] at hb
        cases hb
      rw [get?_foldl_withPriorities_of_not_mem _ hout, hdel, hv]
      split
      · rfl
      · rename_i hnot
        cases hp : prev.get? b with
        | none => rfl
        | some p =>
            refine absurd (List.mem_filter.mpr ⟨(JsMap.mem_keys_iff prev b).mpr ?_, ?_⟩) hnot
            · simp [hp]
            · simp [JsMap.has_eq, hb]
  | some c =>
      have hcb := hc.bucket_of_get? hb
      have hmem := JsMap.mem_values_of_get? hb
      have hbs : b ∈ bs := by
        by_contra hn
        rw [hc.2, if_neg hn] at hb
        cases hb
      by_cases hpc : prev.get? b = some c
      · have hout : ∀ d ∈ (checksumsDiff prev cur).1, d.bucket ≠ b := fun d hd hdb ↦ by
          obtain ⟨hd, hne⟩ := List.mem_filter.mp hd
          rw [hdb, ← hc.get?_bucket hd, hdb, hb] at hne
          simp [hpc] at hne
        rw [get?_foldl_withPriorities_of_not_mem _ hout, hdel, if_neg, hv, hpc]
        intro hr
        have := (List.mem_filter.mp hr).2
        simp [JsMap.has_eq, hb] at this
      · rw [← hpr b hbs]
        exact get?_foldl_withPriorities hn _ (List.mem_filter.mpr ⟨hmem, by simp [hcb, hpc]⟩) hcb

/-! ## The checksum map of one call -/

theorem getChecksums_spec (s : ChecksumStorage) (cp : Nat) (keys : List String) :
    ChecksumsOf (s.getChecksums cp keys) keys (s.checksumOf cp) :=
  ⟨JsMap.nodup_empty.foldl_set _ keys, fun b ↦ by
    rw [ChecksumStorage.getChecksums, JsMap.get?_foldl_set]
    split <;> rfl⟩

/-- Reusing the previous checksums succeeds when every bucket that is not updated has
one.  It adds exactly those to `newChecksums` and pushes the updated buckets, in order. -/
theorem reuseChecksums_spec (last : JsMap String BucketChecksum) (updated : List String) :
    ∀ (keys : List String) (acc : JsMap String BucketChecksum) (lookups : List String),
      acc.Nodup → (∀ b ∈ keys, b ∉ updated → (last.get? b).isSome) →
      ∃ m, reuseChecksums last updated acc lookups keys =
          .ok (m, lookups ++ keys.filter (· ∈ updated)) ∧ m.Nodup ∧
        ∀ b, m.get? b = if b ∈ keys ∧ b ∉ updated then last.get? b else acc.get? b
  | [], acc, _, hacc, _ => ⟨acc, by simp [reuseChecksums], hacc, fun b ↦ by simp⟩
  | k :: ks, acc, lookups, hacc, hcover => by
      have hks : ∀ b ∈ ks, b ∉ updated → (last.get? b).isSome :=
        fun b hb ↦ hcover b (List.mem_cons_of_mem _ hb)
      by_cases hk : k ∈ updated
      · obtain ⟨m, hm, hnd, hget⟩ :=
          reuseChecksums_spec last updated ks acc (lookups ++ [k]) hacc hks
        refine ⟨m, by simp [reuseChecksums, hk, hm], hnd, fun b ↦ ?_⟩
        rw [hget]
        by_cases hb : b = k <;> simp [hb, hk]
      · obtain ⟨e, he⟩ := Option.isSome_iff_exists.mp (hcover k (List.mem_cons_self _ _) hk)
        obtain ⟨m, hm, hnd, hget⟩ :=
          reuseChecksums_spec last updated ks (acc.set k e) lookups (hacc.set k e) hks
        refine ⟨m, by simp [reuseChecksums, hk, he, hm], hnd, fun b ↦ ?_⟩
        rw [hget, JsMap.get?_set]
        by_cases hb : b = k
        · subst hb; simp [hk, he]
        · simp [hb, Ne.symm hb]

/-- The reused checksums keep the order of the keys, as `newChecksums` does. -/
example : (reuseChecksums ⟨[("c", ⟨"c", 3, 1⟩), ("a", ⟨"a", 1, 1⟩)]⟩ ["b"] JsMap.empty []
    ["a", "b", "c"]).map (fun r ↦ (r.1.keys, r.2)) = .ok (["a", "c"], ["b"]) := rfl

/-- With only some buckets updated, the new checksum map is exact when every other
bucket's previous checksum is still current. -/
theorem nextChecksums_some {s : ChecksumStorage} {st : BucketChecksumState} {cp : Nat}
    {keys updated : List String} {last : JsMap String BucketChecksum}
    (hlast : st.lastChecksums = some last)
    (hreuse : ∀ b ∈ keys, b ∉ updated →
      last.get? b = some ⟨b, (s.checksumOf cp b).1, (s.checksumOf cp b).2⟩) :
    ∃ m, nextChecksums s st cp keys (.some updated) = .ok m ∧
      ChecksumsOf m keys (s.checksumOf cp) := by
  obtain ⟨m, hm, hnd, hget⟩ := reuseChecksums_spec last updated keys JsMap.empty []
    JsMap.nodup_empty fun b hb hu ↦ by rw [hreuse b hb hu]; rfl
  have hg := getChecksums_spec s cp (keys.filter (· ∈ updated))
  let merged := (s.getChecksums cp (keys.filter (· ∈ updated))).entries.foldl
    (fun m e ↦ m.set e.1 e.2) m
  refine ⟨merged, ?_, hnd.foldl_set_entries _, fun b ↦ ?_⟩
  · simp only [nextChecksums, hlast, hm, List.nil_append, Except.map]
    split
    · rfl
    · rename_i hlen
      have hnil : keys.filter (· ∈ updated) = [] := List.eq_nil_of_length_eq_zero (by omega)
      simp only [merged, hnil]
      rfl
  · simp only [merged]
    rw [JsMap.get?_foldl_set_entries hg.1, hg.2, hget]
    by_cases hb : b ∈ keys <;> by_cases hu : b ∈ updated <;> simp [hb, hu, hreuse]

/-! ## The bucket list -/

/-- The request's buckets when the parameter rows are those at checkpoint `cp`. -/
def BucketParameterQuerier.bucketsAt (q : BucketParameterQuerier) (s : ChecksumStorage)
    (cp : Nat) : List BucketDescription :=
  if q.hasDynamicBuckets then q.staticBuckets ++ q.queryDynamicBucketDescriptions (s.parameterSets cp)
  else q.staticBuckets

theorem BucketParameterQuerier.priority_bucketsAt (q : BucketParameterQuerier)
    (s : ChecksumStorage) (cp : Nat) : ∀ d ∈ q.bucketsAt s cp, d.priority = q.priorityOf d.bucket := by
  intro d hd
  unfold BucketParameterQuerier.bucketsAt at hd
  split at hd
  · rcases List.mem_append.mp hd with hd | hd
    · exact q.static_priority d hd
    · exact q.dynamic_priority _ d hd
  · exact q.static_priority d hd

/-- Within the connection's limits: at most `maxParameterQueryResults` query results and
at most `maxBuckets` distinct buckets. -/
def WithinLimits (ctx : SyncContext) (q : BucketParameterQuerier) (s : ChecksumStorage)
    (cp : Nat) : Prop :=
  (q.bucketsAt s cp).length ≤ ctx.maxParameterQueryResults ∧
    ((q.bucketsAt s cp).map (·.bucket)).dedup.length ≤ ctx.maxBuckets

theorem isSome_get?_nextPositions (positions : JsMap String BucketSyncState)
    (bs : List BucketDescription) (b : String) :
    ((nextPositions positions bs).get? b).isSome ↔ b ∈ bs.map (·.bucket) := by
  unfold nextPositions
  exact (JsMap.isSome_get?_foldl_set_fn _ _ bs JsMap.empty b).trans (by simp)

theorem mem_keys_nextPositions (positions : JsMap String BucketSyncState)
    (bs : List BucketDescription) (b : String) :
    b ∈ (nextPositions positions bs).keys ↔ b ∈ bs.map (·.bucket) :=
  (JsMap.mem_keys_iff _ b).trans (isSome_get?_nextPositions positions bs b)

theorem size_nextPositions (positions : JsMap String BucketSyncState)
    (bs : List BucketDescription) :
    (nextPositions positions bs).size = (bs.map (·.bucket)).dedup.length := by
  have hnd : (nextPositions positions bs).keys.Nodup := by
    unfold nextPositions
    exact JsMap.nodup_empty.foldl_set_fn _ _ bs
  have hperm := (List.perm_ext_iff_of_nodup hnd (List.nodup_dedup _)).mpr fun b ↦ by
    rw [mem_keys_nextPositions, List.mem_dedup]
  rw [← hperm.length_eq, JsMap.size, JsMap.keys, List.length_map]

/-- The priority the line gives a bucket of the update is that of its description. -/
theorem priorityIn_nextPositions {pr : String → Nat} {bs : List BucketDescription}
    (hpr : ∀ d ∈ bs, d.priority = pr d.bucket) (positions : JsMap String BucketSyncState)
    {b : String} (hb : b ∈ bs.map (·.bucket)) : priorityIn (nextPositions positions bs) b = pr b := by
  obtain ⟨v, hv⟩ := Option.isSome_iff_exists.mp ((isSome_get?_nextPositions positions bs b).mpr hb)
  have hv' := hv
  unfold nextPositions at hv'
  rcases JsMap.get?_foldl_set_fn _ _ bs JsMap.empty hv' with ⟨d, hd, rfl, rfl⟩ | h
  · rw [priorityIn, hv]
    exact hpr d hd
  · cases h

/-! ## The parameter state -/

/-- What storage promises about the update after `prev`: it invalidates all buckets or
names every bucket whose checksum or count changed, and it invalidates all parameter
buckets or names every lookup whose parameter rows changed. -/
def ReportsChanges (s : ChecksumStorage) (prev next : StorageCheckpointUpdate) : Prop :=
  (next.update.invalidateDataBuckets = true ∨
    ∀ b, s.checksumOf next.checkpoint b ≠ s.checksumOf prev.checkpoint b →
      b ∈ next.update.updatedDataBuckets) ∧
  (next.update.invalidateParameterBuckets = true ∨
    ∀ l, s.parameterSets next.checkpoint l ≠ s.parameterSets prev.checkpoint l →
      l ∈ next.update.updatedParameterLookups)

/-- The dynamic bucket cache holds the querier's buckets at checkpoint `cp`. -/
def CacheAt (q : BucketParameterQuerier) (s : ChecksumStorage) (ps : BucketParameterState)
    (cp : Nat) : Prop :=
  q.hasDynamicBuckets = true →
    ps.cachedDynamicBuckets = some (q.queryDynamicBucketDescriptions (s.parameterSets cp)) ∧
    ps.cachedDynamicBucketSet =
      some ((q.queryDynamicBucketDescriptions (s.parameterSets cp)).map (·.bucket))

/-- Where a call starts: the first call, with no cache and an update that invalidates all
buckets, or a later one, with the cache exact at the previous update and the contract
between the two updates. -/
def CallStart (q : BucketParameterQuerier) (s : ChecksumStorage) (ps : BucketParameterState)
    (prev next : StorageCheckpointUpdate) : Prop :=
  (ps.cachedDynamicBuckets = none ∧ next.update.invalidateDataBuckets = true) ∨
    (CacheAt q s ps prev.checkpoint ∧ ReportsChanges s prev next)

/-- An exact checkpoint update: the buckets at `next`, a cache exact at `next`, and, when
only some buckets are listed as updated, the same buckets as at `prev` with every other
one unchanged since `prev`. -/
def ExactUpdate (q : BucketParameterQuerier) (s : ChecksumStorage)
    (prev next : StorageCheckpointUpdate) (r : CheckpointUpdate × BucketParameterState) : Prop :=
  r.1.buckets = q.bucketsAt s next.checkpoint ∧ CacheAt q s r.2 next.checkpoint ∧
    ∀ U, r.1.updatedBuckets = .some U →
      q.bucketsAt s next.checkpoint = q.bucketsAt s prev.checkpoint ∧
      ∀ b ∈ (q.bucketsAt s next.checkpoint).map (·.bucket), b ∉ U →
        s.checksumOf next.checkpoint b = s.checksumOf prev.checkpoint b

/-- A bucket the update does not name kept its checksum. -/
theorem ReportsChanges.checksum_eq {s : ChecksumStorage} {prev next : StorageCheckpointUpdate}
    (h : ReportsChanges s prev next) (hinv : next.update.invalidateDataBuckets = false) {b : String}
    (hb : b ∉ next.update.updatedDataBuckets) :
    s.checksumOf next.checkpoint b = s.checksumOf prev.checkpoint b := by
  rcases h.1 with h1 | h1
  · simp [hinv] at h1
  · exact Classical.byContradiction fun hne ↦ hb (h1 b hne)

/-- Without a change to a lookup of the querier, the dynamic buckets are the same. -/
theorem ReportsChanges.query_eq {q : BucketParameterQuerier} {s : ChecksumStorage}
    {prev next : StorageCheckpointUpdate} (h : ReportsChanges s prev next)
    (hno : (next.update.invalidateParameterBuckets ||
      hasIntersection q.parameterQueryLookups next.update.updatedParameterLookups) = false) :
    q.queryDynamicBucketDescriptions (s.parameterSets next.checkpoint) =
      q.queryDynamicBucketDescriptions (s.parameterSets prev.checkpoint) := by
  simp only [Bool.or_eq_false_iff, hasIntersection, List.any_eq_false] at hno
  refine q.reads_own_lookups _ _ fun l hl ↦ Classical.byContradiction fun hne ↦ ?_
  rcases h.2 with h2 | h2
  · simp [hno.1] at h2
  · exact hno.2 l (h2 l hne) (by simpa using hl)

theorem getCheckpointUpdateStatic_buckets (q : BucketParameterQuerier)
    (next : StorageCheckpointUpdate) : (getCheckpointUpdateStatic q next).buckets = q.staticBuckets := by
  unfold getCheckpointUpdateStatic; split <;> rfl

theorem getCheckpointUpdateStatic_exact {q : BucketParameterQuerier} {s : ChecksumStorage}
    (hq : q.hasDynamicBuckets = false) {ps : BucketParameterState}
    {prev next : StorageCheckpointUpdate} (hs : CallStart q s ps prev next) :
    ExactUpdate q s prev next (getCheckpointUpdateStatic q next, ps) := by
  have hb : ∀ cp, q.bucketsAt s cp = q.staticBuckets := fun cp ↦ by
    simp [BucketParameterQuerier.bucketsAt, hq]
  refine ⟨by dsimp only; rw [getCheckpointUpdateStatic_buckets, hb], fun h ↦ by simp [hq] at h,
    fun U hU ↦ ⟨by rw [hb, hb], fun b hb' hbU ↦ ?_⟩⟩
  unfold getCheckpointUpdateStatic at hU
  split at hU
  · cases hU
  · rename_i hinv
    simp only [Bool.not_eq_true] at hinv
    cases hU
    rcases hs with ⟨-, h⟩ | ⟨-, h⟩
    · simp [hinv] at h
    · refine h.checksum_eq hinv fun hmem ↦ hbU ?_
      rw [hb] at hb'
      exact List.mem_filter.mpr ⟨hmem, by simpa [getIntersection] using hb'⟩

theorem getCheckpointUpdateDynamic_exact {q : BucketParameterQuerier} {s : ChecksumStorage}
    (hq : q.hasDynamicBuckets = true) {ps : BucketParameterState}
    {prev next : StorageCheckpointUpdate} (hs : CallStart q s ps prev next) :
    ExactUpdate q s prev next (getCheckpointUpdateDynamic q s ps next) := by
  have hb : ∀ cp, q.bucketsAt s cp =
      q.staticBuckets ++ q.queryDynamicBucketDescriptions (s.parameterSets cp) := fun cp ↦ by
    simp [BucketParameterQuerier.bucketsAt, hq]
  unfold getCheckpointUpdateDynamic
  dsimp only
  split
  · rename_i dyn set hc1 hc2
    rcases hs with ⟨hnone, -⟩ | ⟨hcache, hrep⟩
    · rw [hnone] at hc1
      cases hc1
    obtain ⟨hd, hs'⟩ := hcache hq
    rw [hc1, Option.some.injEq] at hd
    rw [hc2, Option.some.injEq] at hs'
    subst hd hs'
    split
    · exact ⟨(hb _).symm, fun _ ↦ ⟨rfl, rfl⟩, fun U hU ↦ by cases hU⟩
    · rename_i hno
      have hquery := hrep.query_eq (q := q) (by simpa using hno)
      split
      · exact ⟨by simp [hb, hquery], fun _ ↦ by simp [hc1, hc2, hquery], fun U hU ↦ by cases hU⟩
      · rename_i hinv
        refine ⟨by simp [hb, hquery], fun _ ↦ by simp [hc1, hc2, hquery],
          fun U hU ↦ ⟨by rw [hb, hb, hquery], fun b hb' hbU ↦ ?_⟩⟩
        cases hU
        refine hrep.checksum_eq (by simpa using hinv) fun hmem ↦ hbU ?_
        rw [hb, List.map_append, List.mem_append] at hb'
        rcases hb' with hb' | hb'
        · exact List.mem_append_left _ (List.mem_filter.mpr ⟨hmem, by simpa using hb'⟩)
        · exact List.mem_append_right _ (List.mem_filter.mpr ⟨hmem, by simpa [hquery] using hb'⟩)
  · exact ⟨(hb _).symm, fun _ ↦ ⟨rfl, rfl⟩, fun U hU ↦ by cases hU⟩

/-- Within the limit on query results, `getCheckpointUpdate` returns an exact update. -/
theorem getCheckpointUpdate_exact {ctx : SyncContext} {q : BucketParameterQuerier}
    {s : ChecksumStorage} {ps : BucketParameterState} {prev next : StorageCheckpointUpdate}
    (hs : CallStart q s ps prev next)
    (hlim : (q.bucketsAt s next.checkpoint).length ≤ ctx.maxParameterQueryResults) :
    ∃ r, getCheckpointUpdate ctx q s ps next = .ok r ∧ ExactUpdate q s prev next r := by
  have hr : ExactUpdate q s prev next (if q.hasDynamicBuckets then
      getCheckpointUpdateDynamic q s ps next else (getCheckpointUpdateStatic q next, ps)) := by
    cases hq : q.hasDynamicBuckets
    · exact getCheckpointUpdateStatic_exact hq hs
    · exact getCheckpointUpdateDynamic_exact hq hs
  refine ⟨_, ?_, hr⟩
  unfold getCheckpointUpdate
  dsimp only
  rw [if_neg (by rw [hr.1]; omega)]

/-- The first call: without a cache, an update that invalidates all buckets is answered
with all buckets updated. -/
theorem getCheckpointUpdate_all {ctx : SyncContext} {q : BucketParameterQuerier}
    {s : ChecksumStorage} {ps : BucketParameterState} {next : StorageCheckpointUpdate}
    (hnone : ps.cachedDynamicBuckets = none) (hinv : next.update.invalidateDataBuckets = true)
    {r : CheckpointUpdate × BucketParameterState} (h : getCheckpointUpdate ctx q s ps next = .ok r) :
    r.1.updatedBuckets = .all := by
  unfold getCheckpointUpdate at h
  dsimp only at h
  cases hq : q.hasDynamicBuckets <;>
    simp only [hq, Bool.false_eq_true, if_true, if_false] at h <;> split at h <;> cases h
  · simp [getCheckpointUpdateStatic, hinv]
  · simp [getCheckpointUpdateDynamic, hnone]

/-! ## One call -/

/-- The line `checkpointLineFor` chooses: a full checkpoint without previous checksums;
with them nothing, when the diff is empty, or the diff. -/
theorem checkpointLineFor_cases (st : BucketChecksumState) (next : StorageCheckpointUpdate)
    (upd : CheckpointUpdate) (dnew : JsMap String BucketSyncState) (m : JsMap String BucketChecksum) :
    (st.lastChecksums = none ∧ checkpointLineFor st next upd dnew m =
      some (.checkpoint next.checkpoint (lineWriteCheckpoint next.writeCheckpoint)
        (withPriorities (priorityIn dnew) m.values), upd.buckets)) ∨
    ∃ last, st.lastChecksums = some last ∧
      ((checkpointLineFor st next upd dnew m = none ∧ (checksumsDiff last m).1 = [] ∧
          (checksumsDiff last m).2 = []) ∨
        ∃ bs, checkpointLineFor st next upd dnew m =
          some (.checkpoint_diff next.checkpoint (lineWriteCheckpoint next.writeCheckpoint)
            (checksumsDiff last m).2 (withPriorities (priorityIn dnew) (checksumsDiff last m).1), bs)) := by
  unfold checkpointLineFor
  cases hl : st.lastChecksums with
  | none => exact .inl ⟨rfl, rfl⟩
  | some last =>
      refine .inr ⟨last, rfl, ?_⟩
      dsimp only
      split
      · rename_i h
        exact .inl ⟨rfl, h.2.2, h.2.1⟩
      · exact .inr ⟨_, rfl⟩

/-- When the parameter update and the checksums succeed within the bucket limit, the call
returns what `checkpointLineFor` chooses, and records the checksums only with a line. -/
theorem buildNextCheckpointLine_ok {ctx : SyncContext} {q : BucketParameterQuerier}
    {s : ChecksumStorage} {st : BucketChecksumState} {next : StorageCheckpointUpdate}
    {upd : CheckpointUpdate} {ps : BucketParameterState} {m : JsMap String BucketChecksum}
    (hget : getCheckpointUpdate ctx q s st.parameterState next = .ok (upd, ps))
    (hsize : (nextPositions st.bucketDataPositions upd.buckets).size ≤ ctx.maxBuckets)
    (hcs : nextChecksums s st next.checkpoint (nextPositions st.bucketDataPositions upd.buckets).keys
      upd.updatedBuckets = .ok m) :
    buildNextCheckpointLine ctx q s st next =
      match checkpointLineFor st next upd (nextPositions st.bucketDataPositions upd.buckets) m with
      | none => .ok (none,
          { st with bucketDataPositions := nextPositions st.bucketDataPositions upd.buckets,
                    parameterState := ps })
      | some (line, bucketsToFetch) => .ok (some ⟨line, bucketsToFetch⟩,
          { st with bucketDataPositions := nextPositions st.bucketDataPositions upd.buckets,
                    parameterState := ps, lastChecksums := some m,
                    lastWriteCheckpoint := next.writeCheckpoint,
                    pendingBucketDownloads := JsSet.ofList (bucketsToFetch.map (·.bucket)) }) := by
  rcases h : checkpointLineFor st next upd (nextPositions st.bucketDataPositions upd.buckets) m
    with _ | ⟨line, bucketsToFetch⟩ <;>
  simp only [buildNextCheckpointLine, hget, hcs, h, bind, Except.bind, pure, Except.pure,
    if_neg (not_lt.mpr hsize)]

theorem ChecksumsOf.congr_mem {m : JsMap String BucketChecksum} {bs bs' : List String}
    {cs : String → Int × Nat} (h : ChecksumsOf m bs cs) (hbs : ∀ b, b ∈ bs ↔ b ∈ bs') :
    ChecksumsOf m bs' cs :=
  ⟨h.1, fun b ↦ by rw [h.2]; simp only [hbs]⟩

theorem ChecksumsOf.of_get?_eq {m m' : JsMap String BucketChecksum} {bs : List String}
    {cs : String → Int × Nat} (h : ChecksumsOf m bs cs) (hnd : m'.Nodup)
    (heq : ∀ b, m'.get? b = m.get? b) : ChecksumsOf m' bs cs :=
  ⟨hnd, fun b ↦ (heq b).trans (h.2 b)⟩

/-! ## The invariant -/

/-- The connection after the update at checkpoint `cp` agrees with storage at `cp`: the
dynamic bucket cache is exact, the last checksums are those of the buckets at `cp`, and
the client's map shows them with their priorities. -/
def Agrees (q : BucketParameterQuerier) (s : ChecksumStorage) (st : BucketChecksumState)
    (cp : Nat) (view : JsMap String CheckpointBucket) : Prop :=
  CacheAt q s st.parameterState cp ∧ ∃ last, st.lastChecksums = some last ∧
    ChecksumsOf last ((q.bucketsAt s cp).map (·.bucket)) (s.checksumOf cp) ∧
    ShowsChecksums view last q.priorityOf

/-- The client's map after the line of a call, if it sent one. -/
def viewAfter (view : JsMap String CheckpointBucket) :
    Option CheckpointLine → JsMap String CheckpointBucket
  | none => view
  | some line => applyLine view line.checkpointLine

/-- One call, the first or one from an agreeing state under the contract: within the
limits it succeeds, and agrees with storage at the new checkpoint. -/
theorem buildNextCheckpointLine_agrees {ctx : SyncContext} {q : BucketParameterQuerier}
    {s : ChecksumStorage} {st : BucketChecksumState} {prev next : StorageCheckpointUpdate}
    {view : JsMap String CheckpointBucket}
    (hstart : (st.parameterState.cachedDynamicBuckets = none ∧ st.lastChecksums = none ∧
        next.update.invalidateDataBuckets = true) ∨
      (Agrees q s st prev.checkpoint view ∧ ReportsChanges s prev next))
    (hlim : WithinLimits ctx q s next.checkpoint) :
    ∃ r st', buildNextCheckpointLine ctx q s st next = .ok (r, st') ∧
      Agrees q s st' next.checkpoint (viewAfter view r) := by
  have hcall : CallStart q s st.parameterState prev next :=
    hstart.imp (fun h ↦ ⟨h.1, h.2.2⟩) fun h ↦ ⟨h.1.1, h.2⟩
  obtain ⟨⟨upd, ps⟩, hget, hbuckets, hcache, hsome⟩ := getCheckpointUpdate_exact hcall hlim.1
  dsimp only at hbuckets hcache hsome
  have hkeys : ∀ b, b ∈ (nextPositions st.bucketDataPositions upd.buckets).keys ↔
      b ∈ (q.bucketsAt s next.checkpoint).map (·.bucket) := fun b ↦ by
    rw [mem_keys_nextPositions, hbuckets]
  have hsize : (nextPositions st.bucketDataPositions upd.buckets).size ≤ ctx.maxBuckets := by
    rw [size_nextPositions, hbuckets]
    exact hlim.2
  have hpr : ∀ b ∈ (q.bucketsAt s next.checkpoint).map (·.bucket),
      priorityIn (nextPositions st.bucketDataPositions upd.buckets) b = q.priorityOf b :=
    fun b hb ↦ priorityIn_nextPositions (by rw [hbuckets]; exact q.priority_bucketsAt s _) _
      (by rwa [hbuckets])
  -- The checksum map is exact at the new checkpoint.
  obtain ⟨m, hm, hmc⟩ : ∃ m, nextChecksums s st next.checkpoint
      (nextPositions st.bucketDataPositions upd.buckets).keys upd.updatedBuckets = .ok m ∧
      ChecksumsOf m ((q.bucketsAt s next.checkpoint).map (·.bucket)) (s.checksumOf next.checkpoint) := by
    cases hu : upd.updatedBuckets with
    | all => exact ⟨_, rfl, (getChecksums_spec s _ _).congr_mem hkeys⟩
    | some U =>
        rcases hstart with ⟨hnone, -, hinv⟩ | ⟨⟨-, last, hlast, hlc, -⟩, -⟩
        · have := getCheckpointUpdate_all hnone hinv hget
          rw [hu] at this
          cases this
        · obtain ⟨hsame, hunch⟩ := hsome U hu
          obtain ⟨m, hm, hmc⟩ := nextChecksums_some hlast fun b hb hbU ↦ by
            have hb' := (hkeys b).mp hb
            rw [hlc.2, if_pos (by rwa [← hsame]), hunch b hb' hbU]
          exact ⟨m, hm, hmc.congr_mem hkeys⟩
  have hok := buildNextCheckpointLine_ok hget hsize hm
  rcases checkpointLineFor_cases st next upd (nextPositions st.bucketDataPositions upd.buckets) m with
    ⟨-, hline⟩ | ⟨last, hlast, ⟨hline, hu, hr⟩ | ⟨bs, hline⟩⟩
  · rw [hline] at hok
    dsimp only at hok
    refine ⟨_, _, hok, hcache, m, rfl, hmc, ?_⟩
    exact applyLine_checkpoint hmc hpr view next.checkpoint (lineWriteCheckpoint next.writeCheckpoint)
  · rw [hline] at hok
    dsimp only at hok
    rcases hstart with ⟨-, hnone, -⟩ | ⟨⟨-, last', hlast', hlc, hv⟩, -⟩
    · rw [hnone] at hlast
      cases hlast
    · rw [hlast, Option.some.injEq] at hlast'
      subst hlast'
      exact ⟨_, _, hok, hcache, last, hlast,
        hmc.of_get?_eq hlc.1 (get?_eq_of_checksumsDiff hmc hu hr), hv⟩
  · rw [hline] at hok
    dsimp only at hok
    rcases hstart with ⟨-, hnone, -⟩ | ⟨⟨-, last', hlast', -, hv⟩, -⟩
    · rw [hnone] at hlast
      cases hlast
    · rw [hlast, Option.some.injEq] at hlast'
      subst hlast'
      refine ⟨_, _, hok, hcache, m, rfl, hmc, ?_⟩
      exact applyLine_diff hmc hpr hv next.checkpoint (lineWriteCheckpoint next.writeCheckpoint)

/-! ## A sequence of updates -/

/-- `buildNextCheckpointLine` on each update in turn, with the lines it sends. -/
def buildAll (ctx : SyncContext) (q : BucketParameterQuerier) (s : ChecksumStorage)
    (st : BucketChecksumState) :
    List StorageCheckpointUpdate → Except SyncError (List StreamingSyncCheckpointLine × BucketChecksumState)
  | [] => .ok ([], st)
  | u :: us =>
      match buildNextCheckpointLine ctx q s st u with
      | .error e => .error e
      | .ok (r, st') =>
          (buildAll ctx q s st' us).map fun p ↦ (r.toList.map (·.checkpointLine) ++ p.1, p.2)

theorem foldl_applyLine_toList (view : JsMap String CheckpointBucket) (r : Option CheckpointLine)
    (ls : List StreamingSyncCheckpointLine) :
    (r.toList.map (·.checkpointLine) ++ ls).foldl applyLine view = ls.foldl applyLine (viewAfter view r) := by
  cases r <;> rfl

/-- From an agreeing state, a sequence of updates under the contract and within the limits
runs without error and ends agreeing with storage at its last checkpoint. -/
theorem buildAll_agrees_from {ctx : SyncContext} {q : BucketParameterQuerier} {s : ChecksumStorage}
    {st : BucketChecksumState} {prev : StorageCheckpointUpdate} {view : JsMap String CheckpointBucket}
    (hinv : Agrees q s st prev.checkpoint view) :
    ∀ us, List.Chain (ReportsChanges s) prev us → (∀ u ∈ us, WithinLimits ctx q s u.checkpoint) →
      ∃ lines st', buildAll ctx q s st us = .ok (lines, st') ∧
        Agrees q s st' ((prev :: us).getLast (List.cons_ne_nil _ _)).checkpoint
          (lines.foldl applyLine view)
  | [], _, _ => ⟨[], st, rfl, hinv⟩
  | u :: us, hchain, hlim => by
      rw [List.chain_cons] at hchain
      obtain ⟨r, st₁, h₁, hinv₁⟩ :=
        buildNextCheckpointLine_agrees (.inr ⟨hinv, hchain.1⟩) (hlim u (List.mem_cons_self _ _))
      obtain ⟨lines, st', h₂, hinv₂⟩ := buildAll_agrees_from hinv₁ us hchain.2
        fun v hv ↦ hlim v (List.mem_cons_of_mem _ hv)
      refine ⟨r.toList.map (·.checkpointLine) ++ lines, st', by simp [buildAll, h₁, h₂, Except.map], ?_⟩
      rwa [foldl_applyLine_toList, List.getLast_cons (List.cons_ne_nil _ _)]

/-- What the server's `getChecksums` at checkpoint `cp` gives for bucket `b`, with the
bucket's priority, if `b` is one of the request's buckets there. -/
def recomputed (q : BucketParameterQuerier) (s : ChecksumStorage) (cp : Nat) (b : String) :
    Option CheckpointBucket :=
  ((s.getChecksums cp ((q.bucketsAt s cp).map (·.bucket))).get? b).map
    fun c ↦ c.withPriority (q.priorityOf b)

/-- The incremental checkpoint computation agrees with full recomputation: for every
sequence of updates that keeps storage's contract, within the connection's limits, no
call throws, and the lines sent, applied in order to an empty map, give the checksums of
the request's buckets at the last checkpoint with their priorities. -/
theorem buildAll_agrees (ctx : SyncContext) (q : BucketParameterQuerier) (s : ChecksumStorage)
    (positions : List (String × Nat)) (u : StorageCheckpointUpdate) (us : List StorageCheckpointUpdate)
    (hfirst : u.update.invalidateDataBuckets = true) (hchain : List.Chain (ReportsChanges s) u us)
    (hlim : ∀ v ∈ u :: us, WithinLimits ctx q s v.checkpoint) :
    ∃ lines st, buildAll ctx q s (BucketChecksumState.init positions) (u :: us) = .ok (lines, st) ∧
      ∀ b, (lines.foldl applyLine JsMap.empty).get? b =
        recomputed q s ((u :: us).getLast (List.cons_ne_nil u us)).checkpoint b := by
  have hstart : ((BucketChecksumState.init positions).parameterState.cachedDynamicBuckets = none ∧
      (BucketChecksumState.init positions).lastChecksums = none ∧
      u.update.invalidateDataBuckets = true) ∨
      (Agrees q s (BucketChecksumState.init positions) u.checkpoint JsMap.empty ∧
        ReportsChanges s u u) := .inl ⟨rfl, rfl, hfirst⟩
  obtain ⟨r, st₁, h₁, hinv₁⟩ := buildNextCheckpointLine_agrees hstart (hlim u (List.mem_cons_self _ _))
  obtain ⟨lines, st', h₂, -, last, -, hlc, hv⟩ :=
    buildAll_agrees_from hinv₁ us hchain fun v hv ↦ hlim v (List.mem_cons_of_mem _ hv)
  refine ⟨r.toList.map (·.checkpointLine) ++ lines, st', by simp [buildAll, h₁, h₂, Except.map],
    fun b ↦ ?_⟩
  have hg := getChecksums_spec s ((u :: us).getLast (List.cons_ne_nil u us)).checkpoint
    ((q.bucketsAt s ((u :: us).getLast (List.cons_ne_nil u us)).checkpoint).map (·.bucket))
  rw [foldl_applyLine_toList, hv, recomputed, hlc.2, hg.2]

/-- Checkpoint 11: only the write checkpoint changed. -/
def checkpointEleven : StorageCheckpointUpdate := ⟨11, some 3, ⟨[], false, [], false⟩⟩

theorem buildAll_agrees_twoUpdates :
    ∃ lines st, buildAll ⟨10, 10⟩ twoBucketQuerier fixedChecksums (BucketChecksumState.init [])
        [checkpointTen, checkpointEleven] = .ok (lines, st) ∧
      ∀ b, (lines.foldl applyLine JsMap.empty).get? b =
        recomputed twoBucketQuerier fixedChecksums
          ([checkpointTen, checkpointEleven].getLast (List.cons_ne_nil _ _)).checkpoint b :=
  buildAll_agrees ⟨10, 10⟩ twoBucketQuerier fixedChecksums [] checkpointTen [checkpointEleven] rfl
    (.cons ⟨.inr fun _ h ↦ absurd rfl h, .inr fun _ h ↦ absurd rfl h⟩ .nil)
    (fun v hv ↦ by
      simp only [List.mem_cons, List.mem_singleton, List.not_mem_nil, or_false] at hv
      rcases hv with rfl | rfl <;> exact ⟨by decide, by decide⟩)

end PowerSync
