import PowerSync.Sync.ChecksumState
import PowerSync.Storage.PartialChecksums

/-!
# The checksum cache

`PostgresSyncRulesStorage.getChecksums(checkpoint, buckets)` answers through
`checksumCache.getChecksumMap`, a `ChecksumCache` whose `fetchChecksums` is
`getChecksumsInternal`.  The cache itself is not in the repository.  What it does is
modelled from the spec and from the lookups its tests expect: a bucket cached at the
checkpoint is answered from the cache; every other bucket is fetched, once, in one batch,
over `(A, checkpoint]` when the bucket is cached at checkpoints below, `A` the largest of
them, and over `(0, checkpoint]` otherwise; and the fetched partial is added to the
checksum cached at `A`, unless it holds a `CLEAR`, which makes it a full checksum.

## What is proved

`CacheSystem` runs the cache beside the `bucket_data` table it reads: lookups at the
published checkpoint or below, evictions of any entry (the LRU may drop any), ops that
replication writes above the published checkpoint, and new checkpoints, in any order.
`CacheSystem.Good` says that every entry holds the full checksum of its bucket at its
checkpoint.  Every event keeps it, given that a `CLEAR` is the first op of its bucket, as
compaction leaves it.  So after any run a lookup answers exactly what the table answers
with no cache (`lookup_run`): the `ChecksumStorage` that the connection's checkpoint state
reads.
-/

namespace PowerSync

/-! ## The cache -/

/-- Modelled from the spec: `addChecksums`, addition of 32-bit two's-complement words. -/
def addChecksums (a b : Int) : Int := (a + b).bmod (2 ^ 32)

/-- Modelled from the spec: `addPartialChecksums(bucket, previous, partial)`.  A partial
with a `CLEAR` replaces what came before; a missing side counts as nothing. -/
def addPartialChecksums (bucket : String) :
    Option BucketChecksum → Option PartialChecksum → BucketChecksum
  | some c, some p =>
    if p.isFullChecksum then ⟨bucket, p.partialChecksum, p.partialCount⟩
    else ⟨bucket, addChecksums c.checksum p.partialChecksum, c.count + p.partialCount⟩
  | some c, none => c
  | none, some p => ⟨bucket, p.partialChecksum, p.partialCount⟩
  | none, none => ⟨bucket, 0, 0⟩

/-- Modelled from the spec: among the cache's entries, the checkpoint of `bucket` closest
below `checkpoint`, with its checksum. -/
def latestBefore (bucket : String) (checkpoint : Nat) :
    List ((String × Nat) × BucketChecksum) → Option (Nat × BucketChecksum)
  | [] => none
  | e :: es =>
    let best := latestBefore bucket checkpoint es
    if e.1.1 = bucket ∧ e.1.2 < checkpoint ∧ best.all (·.1 < e.1.2) then some (e.1.2, e.2)
    else best

/-- The buckets a lookup fetches: those not cached at the checkpoint, each once. -/
def missingBuckets (cache : JsMap (String × Nat) BucketChecksum) (checkpoint : Nat)
    (buckets : List String) : List String :=
  (buckets.filter fun b ↦ !cache.has (b, checkpoint)).dedup

/-- The request for a missing bucket: from its latest cached checkpoint below, if any. -/
def fetchRequest (cache : JsMap (String × Nat) BucketChecksum) (checkpoint : Nat)
    (bucket : String) : FetchPartialBucketChecksum :=
  ⟨bucket, (latestBefore bucket checkpoint cache.entries).map (·.1), checkpoint⟩

@[simp] theorem fetchRequest_bucket (cache : JsMap (String × Nat) BucketChecksum)
    (checkpoint : Nat) (bucket : String) : (fetchRequest cache checkpoint bucket).bucket = bucket :=
  rfl

@[simp] theorem fetchRequest_start (cache : JsMap (String × Nat) BucketChecksum)
    (checkpoint : Nat) (bucket : String) : (fetchRequest cache checkpoint bucket).start =
      (latestBefore bucket checkpoint cache.entries).map (·.1) := rfl

@[simp] theorem fetchRequest_end (cache : JsMap (String × Nat) BucketChecksum)
    (checkpoint : Nat) (bucket : String) : (fetchRequest cache checkpoint bucket).«end» = checkpoint :=
  rfl

/-- A missing bucket's checksum: the fetched partial added to the cached checksum. -/
def composedChecksum (cache : JsMap (String × Nat) BucketChecksum) (checkpoint : Nat)
    (results : JsMap String PartialChecksum) (bucket : String) : BucketChecksum :=
  addPartialChecksums bucket ((latestBefore bucket checkpoint cache.entries).map (·.2))
    (results.get? bucket)

/-- What one `getChecksumMap` call returns, fetches and leaves in the cache. -/
structure ChecksumLookup where
  checksums : JsMap String BucketChecksum
  batch : List FetchPartialBucketChecksum
  cache : JsMap (String × Nat) BucketChecksum

/-- Modelled from the spec: `getChecksumMap(checkpoint, buckets)`, with no other lookup in
flight. -/
def getChecksumMap
    (fetchChecksums : List FetchPartialBucketChecksum → JsMap String PartialChecksum)
    (cache : JsMap (String × Nat) BucketChecksum) (checkpoint : Nat) (buckets : List String) :
    ChecksumLookup :=
  let toFetch := missingBuckets cache checkpoint buckets
  let batch := toFetch.map (fetchRequest cache checkpoint)
  let results := if batch.isEmpty then JsMap.empty else fetchChecksums batch
  let cache' := toFetch.foldl
    (fun m b ↦ m.set (b, checkpoint) (composedChecksum cache checkpoint results b)) cache
  ⟨buckets.foldl (fun m b ↦ m.set b ((cache'.get? (b, checkpoint)).getD ⟨b, 0, 0⟩))
    JsMap.empty, batch, cache'⟩

/-- The lookups of the test `should handle a sequential lookups (a)`: the second reuses
the first, the third is for another bucket. -/
example :
    let fetch : List FetchPartialBucketChecksum → JsMap String PartialChecksum :=
      fun _ ↦ JsMap.empty
    let r₁ := getChecksumMap fetch JsMap.empty 123 ["test"]
    let r₂ := getChecksumMap fetch r₁.cache 1234 ["test"]
    let r₃ := getChecksumMap fetch r₂.cache 123 ["test2"]
    [r₁.batch, r₂.batch, r₃.batch] =
      [[⟨"test", none, 123⟩], [⟨"test", some 123, 1234⟩], [⟨"test2", none, 123⟩]] := by
  decide

/-! ## What the cache should answer -/

/-- The full checksum of `bucket` at `checkpoint`: its ops in `(0, checkpoint]`. -/
def fullChecksum (rows : List BucketDataRow) (bucket : String) (checkpoint : Nat) :
    BucketChecksum :=
  ⟨bucket, (partialOf rows bucket 0 checkpoint).partialChecksum,
    (partialOf rows bucket 0 checkpoint).partialCount⟩

/-- The storage the connection reads, answering from `bucket_data` with no cache. -/
def bucketDataStorage (rows : List BucketDataRow) (parameterSets : Nat → String → List String) :
    ChecksumStorage :=
  ⟨fun checkpoint b ↦
    ((fullChecksum rows b checkpoint).checksum, (fullChecksum rows b checkpoint).count),
    parameterSets⟩

theorem getChecksums_bucketDataStorage (rows : List BucketDataRow)
    (parameterSets : Nat → String → List String) (checkpoint : Nat) (buckets : List String) :
    (bucketDataStorage rows parameterSets).getChecksums checkpoint buckets =
      buckets.foldl (fun m b ↦ m.set b (fullChecksum rows b checkpoint)) JsMap.empty := rfl

/-- Compaction leaves a `CLEAR` as the first op of its bucket: it merges every op below. -/
def ClearsFirst (rows : List BucketDataRow) : Prop :=
  ∀ r ∈ rows, r.op = .CLEAR → ∀ r' ∈ rows, r'.bucket_name = r.bucket_name → r.op_id ≤ r'.op_id

instance (rows : List BucketDataRow) : Decidable (ClearsFirst rows) :=
  inferInstanceAs (Decidable (∀ r ∈ rows, r.op = .CLEAR →
    ∀ r' ∈ rows, r'.bucket_name = r.bucket_name → r.op_id ≤ r'.op_id))

/-! ## Composing a cached checksum with a partial one -/

section Compose

variable {rows : List BucketDataRow} {b : String}

theorem fullChecksum_bmod (rows : List BucketDataRow) (b : String) (c : Nat) :
    (fullChecksum rows b c).checksum.bmod (2 ^ 32) = (fullChecksum rows b c).checksum :=
  Int.bmod_bmod

/-- With a `CLEAR` of the bucket in `(a, c]`, no op of the bucket lies at or below `a`, so
its ops in `(0, c]` are its ops in `(a, c]`. -/
theorem opsInRange_of_clear (hclear : ClearsFirst rows) {a c : Nat} {r : BucketDataRow}
    (hr : r ∈ opsInRange rows b a c) (hop : r.op = .CLEAR) :
    opsInRange rows b 0 c = opsInRange rows b a c := by
  simp only [opsInRange, List.mem_filter, Bool.and_eq_true, decide_eq_true_eq] at hr
  refine List.filter_congr fun r' hr' ↦ ?_
  by_cases hb : r'.bucket_name = b
  · have hle := hclear r hr.1 hop r' hr' (hb.trans hr.2.1.1.symm)
    have ha : a < r'.op_id := by omega
    have h0 : 0 < r'.op_id := by omega
    simp [hb, ha, h0]
  · simp [hb]

/-- The cached full checksum at `a` plus the partial over `(a, c]` is the full checksum at
`c`, whether or not the partial holds a `CLEAR`. -/
theorem addPartialChecksums_partialOf (hclear : ClearsFirst rows) {a c : Nat} (hac : a ≤ c) :
    addPartialChecksums b (some (fullChecksum rows b a)) (some (partialOf rows b a c)) =
      fullChecksum rows b c := by
  by_cases hfull : (partialOf rows b a c).isFullChecksum
  · have hany : (opsInRange rows b a c).any (·.op = .CLEAR) := hfull
    obtain ⟨r, hr, hop⟩ := List.any_eq_true.1 hany
    rw [addPartialChecksums, if_pos hfull]
    simp only [fullChecksum, partialOf, opsInRange_of_clear hclear hr (of_decide_eq_true hop)]
  · rw [addPartialChecksums, if_neg hfull]
    simp only [fullChecksum, partialOf_add rows b (Nat.zero_le a) hac, PartialChecksum.add,
      addChecksums]

/-- An absent entry of the fetched map is a zero partial, added to a checksum that is
already a 32-bit word. -/
theorem addPartialChecksums_getD {base : Option BucketChecksum}
    (hbase : ∀ v ∈ base, v.bucket = b ∧ v.checksum.bmod (2 ^ 32) = v.checksum)
    (p : Option PartialChecksum) :
    addPartialChecksums b base p = addPartialChecksums b base (some (p.getD ⟨b, 0, 0, false⟩)) := by
  rcases p with _ | p
  · rcases base with _ | ⟨b', x, n⟩
    · rfl
    · obtain ⟨rfl, hx⟩ := hbase _ rfl
      show (⟨b', x, n⟩ : BucketChecksum) = ⟨b', (x + 0).bmod (2 ^ 32), n + 0⟩
      rw [Int.add_zero, Nat.add_zero, hx]
  · rfl

end Compose

/-! ## One lookup -/

section Lookup

variable {cache : JsMap (String × Nat) BucketChecksum} {b : String} {checkpoint : Nat}

theorem latestBefore_mem {es : List ((String × Nat) × BucketChecksum)} {x : Nat × BucketChecksum}
    (h : latestBefore b checkpoint es = some x) : ((b, x.1), x.2) ∈ es ∧ x.1 < checkpoint := by
  induction es with
  | nil => cases h
  | cons e es ih =>
    simp only [latestBefore] at h
    split at h
    · rename_i hc
      cases h
      exact ⟨hc.1 ▸ List.mem_cons_self _ _, hc.2.1⟩
    · exact (ih h).imp_left (List.mem_cons_of_mem _)

/-- `latestBefore` finds the largest cached checkpoint of the bucket below. -/
theorem le_latestBefore {es : List ((String × Nat) × BucketChecksum)} {a : Nat}
    {v : BucketChecksum} (he : ((b, a), v) ∈ es) (ha : a < checkpoint) :
    ∃ x ∈ latestBefore b checkpoint es, a ≤ x.1 := by
  induction es with
  | nil => cases he
  | cons e es ih =>
    simp only [latestBefore]
    cases hbest : latestBefore b checkpoint es with
    | none =>
      have hes : ((b, a), v) ∉ es := fun he ↦ by
        obtain ⟨x, hx, -⟩ := ih he
        rw [hbest] at hx
        cases hx
      obtain rfl := (List.mem_cons.1 he).resolve_right hes
      rw [if_pos ⟨rfl, ha, rfl⟩]
      exact ⟨_, rfl, le_rfl⟩
    | some y =>
      split
      · rename_i hc
        have hy : y.1 < e.1.2 := by simpa using hc.2.2
        rcases List.mem_cons.1 he with rfl | he
        · exact ⟨_, rfl, le_rfl⟩
        · obtain ⟨x, hx, hax⟩ := ih he
          rw [hbest] at hx
          cases hx
          exact ⟨_, rfl, by simp only; omega⟩
      · rename_i hc
        rcases List.mem_cons.1 he with rfl | he
        · refine ⟨y, rfl, Nat.not_lt.1 fun hlt ↦ hc ⟨rfl, ha, by simpa using hlt⟩⟩
        · obtain ⟨x, hx, hax⟩ := ih he
          rw [hbest] at hx
          exact ⟨x, hx, hax⟩

theorem nodup_missingBuckets (buckets : List String) :
    (((missingBuckets cache checkpoint buckets).map (fetchRequest cache checkpoint)).map
      (·.bucket)).Nodup := by
  rw [List.map_map]
  exact (List.map_id' _ ▸ List.nodup_dedup _)

theorem getChecksumsInternal_nil (rows : List BucketDataRow) :
    getChecksumsInternal rows [] = JsMap.empty := rfl

variable {rows : List BucketDataRow}

/-- A missing bucket's composed checksum is its full checksum, when the cache's entries
are all full checksums. -/
theorem composedChecksum_eq (hclear : ClearsFirst rows)
    (hcache : ∀ e ∈ cache.entries, e.2 = fullChecksum rows e.1.1 e.1.2) {buckets : List String}
    (hb : b ∈ missingBuckets cache checkpoint buckets) :
    composedChecksum cache checkpoint (getChecksumsInternal rows
      ((missingBuckets cache checkpoint buckets).map (fetchRequest cache checkpoint))) b =
      fullChecksum rows b checkpoint := by
  have hf := List.mem_map_of_mem (fetchRequest cache checkpoint) hb
  have hq := getChecksumsInternal_get rows (nodup_missingBuckets buckets) hf
  simp only [partialChecksumFor, fetchRequest_bucket, fetchRequest_start, fetchRequest_end] at hq
  unfold composedChecksum
  cases hbase : latestBefore b checkpoint cache.entries with
  | none =>
    rw [hbase] at hq
    rw [Option.map_none', addPartialChecksums_getD (fun _ h ↦ by cases h), hq]
    rfl
  | some x =>
    obtain ⟨a, v⟩ := x
    obtain ⟨hmem, hlt⟩ := latestBefore_mem hbase
    obtain rfl : v = fullChecksum rows b a := hcache _ hmem
    rw [hbase] at hq
    rw [Option.map_some', addPartialChecksums_getD
      (fun w hw ↦ by cases hw; exact ⟨rfl, fullChecksum_bmod rows b a⟩), hq]
    exact addPartialChecksums_partialOf hclear hlt.le

/-- After a lookup, every requested bucket is cached at the checkpoint. -/
theorem isSome_foldl_missing (g : String → BucketChecksum) {buckets : List String}
    (hb : b ∈ buckets) : (((missingBuckets cache checkpoint buckets).foldl
      (fun m b ↦ m.set (b, checkpoint) (g b)) cache).get? (b, checkpoint)).isSome :=
  (JsMap.isSome_get?_foldl_set_fn (fun b ↦ (b, checkpoint)) g _ cache (b, checkpoint)).2 (by
    by_cases hc : cache.has (b, checkpoint)
    · exact .inr hc
    · refine .inl (List.mem_map_of_mem _ (List.mem_dedup.2 (List.mem_filter.2 ⟨hb, ?_⟩)))
      simpa using hc)

/-- One lookup over a cache of full checksums: it answers every bucket's full checksum,
and every entry it leaves is one from before or a full checksum at the checkpoint. -/
theorem getChecksumMap_spec (hclear : ClearsFirst rows)
    (hcache : ∀ e ∈ cache.entries, e.2 = fullChecksum rows e.1.1 e.1.2) (buckets : List String) :
    (getChecksumMap (getChecksumsInternal rows) cache checkpoint buckets).checksums =
      buckets.foldl (fun m b ↦ m.set b (fullChecksum rows b checkpoint)) JsMap.empty ∧
    ∀ e ∈ (getChecksumMap (getChecksumsInternal rows) cache checkpoint buckets).cache.entries,
      e ∈ cache.entries ∨ (e.1.2 = checkpoint ∧ e.2 = fullChecksum rows e.1.1 checkpoint) := by
  have hres : (if ((missingBuckets cache checkpoint buckets).map
      (fetchRequest cache checkpoint)).isEmpty then JsMap.empty else getChecksumsInternal rows
      ((missingBuckets cache checkpoint buckets).map (fetchRequest cache checkpoint))) =
      getChecksumsInternal rows
        ((missingBuckets cache checkpoint buckets).map (fetchRequest cache checkpoint)) := by
    split
    · rename_i h
      rw [List.isEmpty_iff.1 h]
      rfl
    · rfl
  have hg : ∀ d ∈ missingBuckets cache checkpoint buckets, composedChecksum cache checkpoint
      (getChecksumsInternal rows ((missingBuckets cache checkpoint buckets).map
        (fetchRequest cache checkpoint))) d = fullChecksum rows d checkpoint :=
    fun d hd ↦ composedChecksum_eq hclear hcache hd
  simp only [getChecksumMap, hres]
  generalize composedChecksum cache checkpoint (getChecksumsInternal rows
    ((missingBuckets cache checkpoint buckets).map (fetchRequest cache checkpoint))) = g at hg ⊢
  have hentries : ∀ e ∈ ((missingBuckets cache checkpoint buckets).foldl
      (fun m b ↦ m.set (b, checkpoint) (g b)) cache).entries,
      e ∈ cache.entries ∨ (e.1.2 = checkpoint ∧ e.2 = fullChecksum rows e.1.1 checkpoint) := by
    intro e he
    rcases JsMap.mem_entries_foldl_set_fn (fun b ↦ (b, checkpoint)) g _ he with he | ⟨d, hd, rfl⟩
    · exact .inl he
    · exact .inr ⟨rfl, hg d hd⟩
  refine ⟨List.foldl_ext _ _ _ fun m b hb ↦ ?_, hentries⟩
  obtain ⟨v, hv⟩ := Option.isSome_iff_exists.1 (isSome_foldl_missing g hb)
  rw [hv, Option.getD_some]
  rcases hentries _ (JsMap.mem_entries_of_get? hv) with hold | ⟨-, hnew⟩
  · exact congrArg _ (hcache _ hold)
  · exact congrArg _ hnew

/-- A lookup keeps every entry. -/
theorem has_getChecksumMap {k : String × Nat} (h : cache.has k)
    (fetchChecksums : List FetchPartialBucketChecksum → JsMap String PartialChecksum)
    (buckets : List String) : (getChecksumMap fetchChecksums cache checkpoint buckets).cache.has k :=
  (JsMap.isSome_get?_foldl_set_fn _ _ _ cache k).2 (.inr h)

/-- A lookup caches every requested bucket at its checkpoint. -/
theorem has_getChecksumMap_of_mem
    (fetchChecksums : List FetchPartialBucketChecksum → JsMap String PartialChecksum)
    {buckets : List String} (hb : b ∈ buckets) :
    (getChecksumMap fetchChecksums cache checkpoint buckets).cache.has (b, checkpoint) :=
  isSome_foldl_missing _ hb

/-- A lookup of `b` at `B`, with `b` cached at some `A < B`, fetches `b`, if at all, over
`(A', B]` with `A ≤ A'`: never again from 0. -/
theorem batch_start_of_has {fetchChecksums : List FetchPartialBucketChecksum →
    JsMap String PartialChecksum} {buckets : List String} {A B : Nat} (hA : cache.has (b, A))
    (hAB : A < B) {f : FetchPartialBucketChecksum}
    (hf : f ∈ (getChecksumMap fetchChecksums cache B buckets).batch) (hfb : f.bucket = b) :
    ∃ A', f.start = some A' ∧ A ≤ A' ∧ A' < B := by
  obtain ⟨d, -, rfl⟩ := List.mem_map.1 hf
  obtain rfl : d = b := hfb
  obtain ⟨v, hv⟩ := Option.isSome_iff_exists.1 hA
  obtain ⟨x, hx, hax⟩ := le_latestBefore (JsMap.mem_entries_of_get? hv) hAB
  exact ⟨x.1, by rw [fetchRequest_start, hx]; rfl, hax, (latestBefore_mem hx).2⟩

end Lookup

/-! ## The cache beside its table -/

/-- The cache, the `bucket_data` table it reads, and the published checkpoint. -/
structure CacheSystem where
  rows : List BucketDataRow
  published : Nat
  cache : JsMap (String × Nat) BucketChecksum

/-- What can happen: a lookup, an eviction, an op written by replication, a checkpoint. -/
inductive CacheEvent where
  | getChecksums (checkpoint : Nat) (buckets : List String)
  | evict (bucket : String) (checkpoint : Nat)
  | append (row : BucketDataRow)
  | publish (checkpoint : Nat)
deriving DecidableEq

namespace CacheSystem

/-- A lookup, with `getChecksumsInternal` over the table as `fetchChecksums`. -/
def lookup (s : CacheSystem) (checkpoint : Nat) (buckets : List String) : ChecksumLookup :=
  getChecksumMap (getChecksumsInternal s.rows) s.cache checkpoint buckets

/-- One event.  An event the system does not produce changes nothing: a lookup above the
published checkpoint, an op at or below it or other than a `PUT` or `REMOVE` (replication
writes no other), a checkpoint that goes back. -/
def step (s : CacheSystem) : CacheEvent → CacheSystem
  | .getChecksums checkpoint buckets =>
    if checkpoint ≤ s.published then { s with cache := (s.lookup checkpoint buckets).cache }
    else s
  | .evict bucket checkpoint => { s with cache := s.cache.delete (bucket, checkpoint) }
  | .append row =>
    if s.published < row.op_id ∧ (row.op = .PUT ∨ row.op = .REMOVE) then
      { s with rows := s.rows ++ [row] }
    else s
  | .publish checkpoint =>
    if s.published ≤ checkpoint then { s with published := checkpoint } else s

/-- A run of events. -/
def run (s : CacheSystem) (events : List CacheEvent) : CacheSystem := events.foldl step s

/-- Every entry holds the full checksum of its bucket at its checkpoint, at or below the
published one; every `CLEAR` is published and first in its bucket. -/
structure Good (s : CacheSystem) : Prop where
  clears_first : ClearsFirst s.rows
  clear_published : ∀ r ∈ s.rows, r.op = .CLEAR → r.op_id ≤ s.published
  entries_full : ∀ e ∈ s.cache.entries,
    e.1.2 ≤ s.published ∧ e.2 = fullChecksum s.rows e.1.1 e.1.2

instance (s : CacheSystem) : Decidable s.Good :=
  decidable_of_iff (ClearsFirst s.rows ∧ (∀ r ∈ s.rows, r.op = .CLEAR → r.op_id ≤ s.published) ∧
      ∀ e ∈ s.cache.entries, e.1.2 ≤ s.published ∧ e.2 = fullChecksum s.rows e.1.1 e.1.2)
    ⟨fun ⟨h₁, h₂, h₃⟩ ↦ ⟨h₁, h₂, h₃⟩, fun ⟨h₁, h₂, h₃⟩ ↦ ⟨h₁, h₂, h₃⟩⟩

/-- An op above the published checkpoint leaves the full checksums at or below it. -/
theorem fullChecksum_append {rows : List BucketDataRow} {row : BucketDataRow} {c : Nat}
    (hc : c < row.op_id) (b : String) :
    fullChecksum (rows ++ [row]) b c = fullChecksum rows b c := by
  have hops : opsInRange (rows ++ [row]) b 0 c = opsInRange rows b 0 c := by
    simp only [opsInRange, List.filter_append, List.filter_singleton]
    simp [Nat.not_le.2 hc]
  simp only [fullChecksum, partialOf, hops]

variable {s : CacheSystem}

theorem step_good (hs : s.Good) (e : CacheEvent) : (s.step e).Good := by
  cases e with
  | getChecksums checkpoint buckets =>
    simp only [step]
    split
    · rename_i hcp
      refine ⟨hs.clears_first, hs.clear_published, fun e he ↦ ?_⟩
      rcases (getChecksumMap_spec hs.clears_first (fun e he ↦ (hs.entries_full e he).2)
        buckets).2 e he with hold | ⟨hc, hv⟩
      · exact hs.entries_full e hold
      · exact ⟨hc ▸ hcp, hc ▸ hv⟩
    · exact hs
  | evict bucket checkpoint =>
    exact ⟨hs.clears_first, hs.clear_published,
      fun e he ↦ hs.entries_full e (JsMap.mem_entries_delete he)⟩
  | append row =>
    simp only [step]
    split
    · rename_i hrow
      have hnot : row.op ≠ .CLEAR := by rcases hrow.2 with h | h <;> simp [h]
      refine ⟨fun r hr hop r' hr' hb ↦ ?_, fun r hr hop ↦ ?_, fun e he ↦ ?_⟩
      · rcases List.mem_append.1 hr with hr | hr
        · rcases List.mem_append.1 hr' with hr' | hr'
          · exact hs.clears_first r hr hop r' hr' hb
          · rw [List.mem_singleton.1 hr']
            have := hs.clear_published r hr hop
            omega
        · exact absurd (List.mem_singleton.1 hr ▸ hop) hnot
      · rcases List.mem_append.1 hr with hr | hr
        · exact hs.clear_published r hr hop
        · exact absurd (List.mem_singleton.1 hr ▸ hop) hnot
      · obtain ⟨hle, hv⟩ := hs.entries_full e he
        exact ⟨hle, hv.trans (fullChecksum_append (by omega) _).symm⟩
    · exact hs
  | publish checkpoint =>
    simp only [step]
    split
    · rename_i hle
      exact ⟨hs.clears_first, fun r hr hop ↦ (hs.clear_published r hr hop).trans hle,
        fun e he ↦ ⟨(hs.entries_full e he).1.trans hle, (hs.entries_full e he).2⟩⟩
    · exact hs

theorem run_good (hs : s.Good) (events : List CacheEvent) : (s.run events).Good := by
  induction events generalizing s with
  | nil => exact hs
  | cons e events ih => exact ih (step_good hs e)

/-- After any run, a lookup answers exactly what the table answers with no cache. -/
theorem lookup_run (hs : s.Good) (events : List CacheEvent) (parameterSets : Nat → String → List String)
    (checkpoint : Nat) (buckets : List String) :
    ((s.run events).lookup checkpoint buckets).checksums =
      (bucketDataStorage (s.run events).rows parameterSets).getChecksums checkpoint buckets := by
  have hg := run_good hs events
  rw [getChecksums_bucketDataStorage]
  exact (getChecksumMap_spec hg.clears_first (fun e he ↦ (hg.entries_full e he).2) buckets).1

/-- Bucket `a` compacted into a `CLEAR` at op 2, then a `PUT` at op 3, published at 3. -/
def compacted : CacheSystem :=
  ⟨[⟨"a", 2, .CLEAR, none, none, 7, none, none⟩,
    ⟨"a", 3, .PUT, some "t", some "r1", 5, some "{}", none⟩], 3, JsMap.empty⟩

/-- A `PUT` at op 4 and a checkpoint at 4. -/
def compactedWrites : List CacheEvent :=
  [.append ⟨"a", 4, .PUT, some "t", some "r2", 9, some "{}", none⟩, .publish 4]

theorem lookup_run_compacted :
    ((compacted.run (.getChecksums 2 ["a"] :: compactedWrites)).lookup 4 ["a"]).checksums =
      (bucketDataStorage (compacted.run (.getChecksums 2 ["a"] :: compactedWrites)).rows
        fun _ _ ↦ []).getChecksums 4 ["a"] :=
  lookup_run (by decide) _ _ 4 ["a"]

/-- An entry stays cached through every event but its own eviction. -/
theorem has_step {k : String × Nat} (h : s.cache.has k) {e : CacheEvent}
    (he : e ≠ .evict k.1 k.2) : (s.step e).cache.has k := by
  cases e with
  | getChecksums checkpoint buckets =>
    simp only [step]
    split
    · exact has_getChecksumMap h _ buckets
    · exact h
  | evict bucket checkpoint =>
    have hk : (bucket, checkpoint) ≠ k := fun hk ↦ he (hk ▸ rfl)
    simpa [step, JsMap.has_eq, hk] using h
  | append row =>
    simp only [step]
    split <;> exact h
  | publish checkpoint =>
    simp only [step]
    split <;> exact h

theorem has_run {k : String × Nat} (h : s.cache.has k) {events : List CacheEvent}
    (he : CacheEvent.evict k.1 k.2 ∉ events) : (s.run events).cache.has k := by
  induction events generalizing s with
  | nil => exact h
  | cons e events ih =>
    rw [List.mem_cons, not_or] at he
    exact ih (has_step h (Ne.symm he.1)) he.2

/-- Serial lookups reuse the cache: after a lookup of `b` at a published `A`, and any run
in which the entry is not evicted, a lookup at `B > A` fetches each bucket at most once, and
`b`, if at all, only over `(A', B]` with `A ≤ A'`. -/
theorem lookup_reuses_cached {A B : Nat} {b : String} {buckets : List String}
    (hA : A ≤ s.published) (hb : b ∈ buckets) {events : List CacheEvent}
    (hev : CacheEvent.evict b A ∉ events) (hAB : A < B) (buckets' : List String) :
    ((((s.step (.getChecksums A buckets)).run events).lookup B buckets').batch.map
        (·.bucket)).Nodup ∧
      ∀ f ∈ (((s.step (.getChecksums A buckets)).run events).lookup B buckets').batch,
        f.bucket = b → ∃ A', f.start = some A' ∧ A ≤ A' ∧ A' < B := by
  have hcached : (s.step (.getChecksums A buckets)).cache.has (b, A) := by
    simp only [step, if_pos hA]
    exact has_getChecksumMap_of_mem _ hb
  exact ⟨nodup_missingBuckets buckets', fun f hf hfb ↦
    batch_start_of_has (has_run hcached hev) hAB hf hfb⟩

theorem lookup_reuses_cached_compacted :
    ((((compacted.step (.getChecksums 2 ["a"])).run compactedWrites).lookup 4 ["a"]).batch.map
        (·.bucket)).Nodup ∧
      ∀ f ∈ (((compacted.step (.getChecksums 2 ["a"])).run compactedWrites).lookup 4 ["a"]).batch,
        f.bucket = "a" → ∃ A', f.start = some A' ∧ 2 ≤ A' ∧ A' < 4 :=
  lookup_reuses_cached (by decide) (List.mem_singleton_self "a")
    (show CacheEvent.evict "a" 2 ∉ compactedWrites by decide) (by decide) ["a"]

end CacheSystem

end PowerSync
