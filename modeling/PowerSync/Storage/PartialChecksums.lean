import PowerSync.Storage.BucketData

/-!
# Partial checksums

`PostgresSyncRulesStorage.getChecksumsInternal` answers a batch of requests
`{bucket, start, end}` with one query over `bucket_data`: it joins the rows with the
requests, groups the joined rows by bucket, and for each group sums the checksums, counts
the rows and looks for a `CLEAR`.  The sum is exact (`SUM` over `BIGINT` is a `NUMERIC`);
the code then keeps its low 32 bits as a signed word.

## What is transcribed and what is ours

* `joinFilter`, `groupByBucket`, `checksum32` and `getChecksumsInternal` follow the query
  and the code that reads its rows.  The database returns the groups in no fixed order;
  `groupByBucket` lists them in the order of first appearance, and every result below
  reads the map through `get?`, which that order does not change, since the keys are
  distinct.
* `partialOf` is what a request should return, by the spec: the count of the bucket's
  ops in the range, their checksums' sum as a signed 32-bit word, and whether one is a
  `CLEAR`.  `PartialChecksum.add` is the spec's `⊞`.

`getChecksumsInternal_get` is the bridge: in a batch of distinct buckets, each request is
answered by `partialOf`, an absent entry read as zero.  Additivity is then a fact about
`partialOf` (`partialOf_add`).
-/

namespace PowerSync

/-- A `FetchPartialBucketChecksum`: the ops of `bucket` with op id in `(start, end]`. -/
structure FetchPartialBucketChecksum where
  bucket : String
  start : Option Nat
  «end» : Nat
deriving DecidableEq, Repr

/-- A `PartialChecksum`. -/
structure PartialChecksum where
  bucket : String
  partialCount : Nat
  partialChecksum : Int
  isFullChecksum : Bool
deriving DecidableEq, Repr

/-- A row of the query's result. -/
structure ChecksumRow where
  bucket : String
  checksum_total : Int
  total : Nat
  has_clear_op : Nat
deriving DecidableEq, Repr

/-! ## The query -/

/-- The `JOIN` condition, with `start` sent as `String(b.start ?? 0n)`. -/
def joins (f : FetchPartialBucketChecksum) (r : BucketDataRow) : Bool :=
  r.bucket_name = f.bucket && f.start.getD 0 < r.op_id && r.op_id ≤ f.«end»

/-- `bucket_data b JOIN filter_data f ON ...`: each row once for every request it
matches. -/
def joinFilter (rows : List BucketDataRow) (batch : List FetchPartialBucketChecksum) :
    List BucketDataRow :=
  rows.flatMap fun r ↦ (batch.filter (joins · r)).map fun _ ↦ r

/-- `CASE WHEN b.op = 'CLEAR' THEN 1 ELSE 0 END`. -/
def clearFlag (r : BucketDataRow) : Nat := if r.op = .CLEAR then 1 else 0

/-- `GROUP BY b.bucket_name`, with `SUM(b.checksum)`, `COUNT(*)` and `MAX(CASE ...)`. -/
def groupByBucket (joined : List BucketDataRow) : List ChecksumRow :=
  (joined.map (·.bucket_name)).dedup.map fun b ↦
    let g := joined.filter (·.bucket_name = b)
    ⟨b, (g.map (·.checksum)).sum, g.length, (g.map clearFlag).foldr max 0⟩

/-- `Number(BigInt(checksum_total) & 0xffffffffn) & 0xffffffff`: the `BigInt` mask keeps
the low 32 bits as a number in `[0, 2^32)`, and `&` on numbers reads both operands as
signed 32-bit words. -/
def checksum32 (total : Int) : Int :=
  (BitVec.ofInt 32 (total % 0x100000000) &&& BitVec.ofInt 32 0xffffffff).toInt

/-- The map entry the code builds from a result row. -/
def ChecksumRow.toPartialChecksum (doc : ChecksumRow) : PartialChecksum :=
  ⟨doc.bucket, doc.total, checksum32 doc.checksum_total, doc.has_clear_op == 1⟩

/-- `getChecksumsInternal(batch)` over the group's `bucket_data` rows. -/
def getChecksumsInternal (rows : List BucketDataRow) (batch : List FetchPartialBucketChecksum) :
    JsMap String PartialChecksum :=
  if batch.length = 0 then JsMap.empty
  else ((groupByBucket (joinFilter rows batch)).map (·.toPartialChecksum)).foldl
    (fun m c ↦ m.set c.bucket c) JsMap.empty

/-! ## What a request should return -/

/-- The ops of bucket `b` with op id in `(x, y]`. -/
def opsInRange (rows : List BucketDataRow) (b : String) (x y : Nat) : List BucketDataRow :=
  rows.filter fun r ↦ r.bucket_name = b && x < r.op_id && r.op_id ≤ y

/-- The partial checksum of `b` over `(x, y]`, from its ops. -/
def partialOf (rows : List BucketDataRow) (b : String) (x y : Nat) : PartialChecksum :=
  let ops := opsInRange rows b x y
  ⟨b, ops.length, Int.bmod (ops.map (·.checksum)).sum (2 ^ 32), ops.any (·.op = .CLEAR)⟩

/-- The entry of `b` in the answer to `batch`, an absent entry read as zero. -/
def partialChecksumFor (rows : List BucketDataRow) (batch : List FetchPartialBucketChecksum)
    (b : String) : PartialChecksum :=
  ((getChecksumsInternal rows batch).get? b).getD ⟨b, 0, 0, false⟩

/-- Modelled from the spec: `⊞`, which adds counts, adds checksums as 32-bit
two's-complement integers, and ORs `isFullChecksum`. -/
def PartialChecksum.add (p q : PartialChecksum) : PartialChecksum :=
  ⟨p.bucket, p.partialCount + q.partialCount,
    (p.partialChecksum + q.partialChecksum).bmod (2 ^ 32), p.isFullChecksum || q.isFullChecksum⟩

/-! ## The words -/

/-- The code's two masks are one signed reduction modulo `2^32`. -/
theorem checksum32_eq_bmod (total : Int) : checksum32 total = total.bmod (2 ^ 32) := by
  have hmask : BitVec.ofInt 32 0xffffffff = BitVec.allOnes 32 := by decide
  rw [checksum32, hmask, BitVec.and_allOnes, BitVec.toInt_ofInt]
  exact Int.emod_bmod

theorem foldr_max_clearFlag (g : List BucketDataRow) :
    (g.map clearFlag).foldr max 0 = if g.any (·.op = .CLEAR) then 1 else 0 := by
  induction g with
  | nil => rfl
  | cons r g ih =>
    rw [List.map_cons, List.foldr_cons, ih, List.any_cons]
    have hle : (if g.any (·.op = .CLEAR) then 1 else 0) ≤ 1 := by split <;> omega
    by_cases h : r.op = .CLEAR
    · simp only [clearFlag, h, if_true, decide_True, Bool.true_or]
      omega
    · simp only [clearFlag, h, if_false, decide_False, Bool.false_or, Nat.zero_max]

/-! ## A batch of distinct buckets -/

section Batch

variable {batch : List FetchPartialBucketChecksum} {f : FetchPartialBucketChecksum}

theorem bucket_of_joins {r : BucketDataRow} (h : joins f r) : r.bucket_name = f.bucket := by
  simp only [joins, Bool.and_eq_true, decide_eq_true_eq] at h
  exact h.1.1

/-- In a batch of distinct buckets, a row of `f`'s bucket joins `f` or nothing. -/
theorem filter_joins_of_nodup (hnd : (batch.map (·.bucket)).Nodup) (hf : f ∈ batch)
    {r : BucketDataRow} (hr : r.bucket_name = f.bucket) :
    batch.filter (joins · r) = if joins f r then [f] else [] := by
  induction batch with
  | nil => cases hf
  | cons g batch ih =>
    rw [List.map_cons, List.nodup_cons] at hnd
    rw [List.filter_cons]
    rcases List.mem_cons.1 hf with rfl | hf
    · have hnone : batch.filter (joins · r) = [] := List.filter_eq_nil_iff.2 fun h hh hj ↦
        hnd.1 ((bucket_of_joins hj).symm.trans hr ▸ List.mem_map_of_mem _ hh)
      rw [hnone]
    · have hg : ¬joins g r := fun hj ↦
        hnd.1 ((bucket_of_joins hj).symm.trans hr ▸ List.mem_map_of_mem _ hf)
      rw [if_neg hg, ih hnd.2 hf]

/-- What the join keeps of `f`'s bucket is exactly `f`'s range. -/
theorem joinFilter_filter (hnd : (batch.map (·.bucket)).Nodup) (hf : f ∈ batch)
    (rows : List BucketDataRow) :
    (joinFilter rows batch).filter (·.bucket_name = f.bucket) = rows.filter (joins f) := by
  induction rows with
  | nil => rfl
  | cons r rows ih =>
    have hpiece : ((batch.filter (joins · r)).map fun _ ↦ r).filter (·.bucket_name = f.bucket) =
        if joins f r then [r] else [] := by
      by_cases hr : r.bucket_name = f.bucket
      · rw [filter_joins_of_nodup hnd hf hr]
        split <;> simp [hr]
      · have hj : ¬joins f r := fun hj ↦ hr (bucket_of_joins hj)
        refine (if_neg hj).symm ▸ List.filter_eq_nil_iff.2 fun a ha ↦ ?_
        obtain ⟨_, _, rfl⟩ := List.mem_map.1 ha
        simpa using hr
    simp only [joinFilter, List.flatMap_cons, List.filter_append] at ih ⊢
    rw [ih, hpiece, List.filter_cons]
    split <;> rfl

/-- The result has one row per bucket of the joined rows. -/
theorem map_bucket_groupByBucket (joined : List BucketDataRow) :
    ((groupByBucket joined).map (·.toPartialChecksum)).map (·.bucket) =
      (joined.map (·.bucket_name)).dedup := by
  simp [groupByBucket, ChecksumRow.toPartialChecksum, Function.comp_def]

/-- In a batch of distinct buckets, each request is answered by `partialOf`, an absent
entry read as zero. -/
theorem getChecksumsInternal_get (rows : List BucketDataRow) (hnd : (batch.map (·.bucket)).Nodup)
    (hf : f ∈ batch) :
    partialChecksumFor rows batch f.bucket = partialOf rows f.bucket (f.start.getD 0) f.«end» := by
  have hne : batch.length ≠ 0 := (List.length_pos.2 (List.ne_nil_of_mem hf)).ne'
  have hops : opsInRange rows f.bucket (f.start.getD 0) f.«end» = rows.filter (joins f) := rfl
  have hkeys : (((groupByBucket (joinFilter rows batch)).map (·.toPartialChecksum)).map
      (·.bucket)).Nodup := by
    rw [map_bucket_groupByBucket]
    exact List.nodup_dedup _
  unfold partialChecksumFor getChecksumsInternal
  rw [if_neg hne]
  by_cases hmem : f.bucket ∈ (joinFilter rows batch).map (·.bucket_name)
  · have hrow := List.mem_map_of_mem ChecksumRow.toPartialChecksum
      (List.mem_map_of_mem (fun b ↦
        let g := (joinFilter rows batch).filter (·.bucket_name = b)
        (⟨b, (g.map (·.checksum)).sum, g.length, (g.map clearFlag).foldr max 0⟩ : ChecksumRow))
        (List.mem_dedup.2 hmem))
    have hget : (((groupByBucket (joinFilter rows batch)).map (·.toPartialChecksum)).foldl
        (fun m c ↦ m.set c.bucket c) JsMap.empty).get? f.bucket = some _ :=
      JsMap.get?_foldl_set_of_mem PartialChecksum.bucket hkeys hrow JsMap.empty
    rw [hget, Option.getD_some]
    simp only [ChecksumRow.toPartialChecksum, partialOf, hops, joinFilter_filter hnd hf rows,
      checksum32_eq_bmod, foldr_max_clearFlag]
    congr 1
    split <;> simp [*]
  · have hnone : (joinFilter rows batch).filter (·.bucket_name = f.bucket) = [] :=
      List.filter_eq_nil_iff.2 fun r hr hb ↦ hmem (by simpa using ⟨r, hr, of_decide_eq_true hb⟩)
    rw [JsMap.get?_foldl_set_of_forall_ne PartialChecksum.bucket ?_ JsMap.empty]
    · rw [joinFilter_filter hnd hf rows] at hnone
      simp [partialOf, hops, hnone]
    · intro c hc hcb
      have hkey := List.mem_map_of_mem PartialChecksum.bucket hc
      rw [map_bucket_groupByBucket, hcb, List.mem_dedup] at hkey
      exact hmem hkey

end Batch

/-! ## Additivity -/

section Ranges

variable (rows : List BucketDataRow) (b : String)

/-- A partial checksum is a signed 32-bit word, congruent to its ops' sum. -/
theorem partialOf_checksum (x y : Nat) :
    -2 ^ 31 ≤ (partialOf rows b x y).partialChecksum ∧
      (partialOf rows b x y).partialChecksum < 2 ^ 31 ∧
      (partialOf rows b x y).partialChecksum ≡
        ((opsInRange rows b x y).map (·.checksum)).sum [ZMOD 2 ^ 32] :=
  ⟨Int.le_bmod (by norm_num), Int.bmod_lt (by norm_num), Int.bmod_emod⟩

/-- Splitting a range at `y` splits its ops. -/
theorem opsInRange_perm {x y z : Nat} (hxy : x ≤ y) (hyz : y ≤ z) :
    (opsInRange rows b x y ++ opsInRange rows b y z).Perm (opsInRange rows b x z) := by
  have hsplit := List.filter_append_perm (fun r : BucketDataRow ↦ decide (r.op_id ≤ y))
    (opsInRange rows b x z)
  unfold opsInRange at hsplit ⊢
  rw [List.filter_filter, List.filter_filter] at hsplit
  convert hsplit using 2 <;>
  · refine List.filter_congr fun r _ ↦ ?_
    by_cases hb : r.bucket_name = b
    · simp only [hb, decide_True, Bool.true_and]
      rw [Bool.eq_iff_iff]
      simp only [Bool.and_eq_true, Bool.not_eq_true', decide_eq_true_eq, decide_eq_false_iff_not]
      omega
    · simp [hb]

theorem partialOf_add {x y z : Nat} (hxy : x ≤ y) (hyz : y ≤ z) :
    partialOf rows b x z = (partialOf rows b x y).add (partialOf rows b y z) := by
  have hp := opsInRange_perm rows b hxy hyz
  simp only [partialOf, PartialChecksum.add, PartialChecksum.mk.injEq, true_and]
  refine ⟨by rw [← hp.length_eq, List.length_append], ?_, ?_⟩
  · rw [← (hp.map _).sum_eq, List.map_append, List.sum_append, Int.add_bmod]
  · rw [← List.any_append, List.any_eq, List.any_eq]
    simp only [hp.mem_iff]

end Ranges

theorem partial_checksums_additive (rows : List BucketDataRow) :
    (∀ batch : List FetchPartialBucketChecksum, (batch.map (·.bucket)).Nodup → ∀ f ∈ batch,
      -2 ^ 31 ≤ (partialChecksumFor rows batch f.bucket).partialChecksum ∧
      (partialChecksumFor rows batch f.bucket).partialChecksum < 2 ^ 31 ∧
      (partialChecksumFor rows batch f.bucket).partialChecksum ≡
        ((opsInRange rows f.bucket (f.start.getD 0) f.«end»).map (·.checksum)).sum
          [ZMOD 2 ^ 32]) ∧
    ∀ (b : String) (x y z : Nat) (b₁ b₂ b₃ : List FetchPartialBucketChecksum), x ≤ y → y ≤ z →
      (b₁.map (·.bucket)).Nodup → (b₂.map (·.bucket)).Nodup → (b₃.map (·.bucket)).Nodup →
      ⟨b, some x, y⟩ ∈ b₁ → ⟨b, some y, z⟩ ∈ b₂ → ⟨b, some x, z⟩ ∈ b₃ →
      partialChecksumFor rows b₃ b =
        (partialChecksumFor rows b₁ b).add (partialChecksumFor rows b₂ b) := by
  refine ⟨fun batch hnd f hf ↦ ?_, fun b x y z b₁ b₂ b₃ hxy hyz h₁ h₂ h₃ hm₁ hm₂ hm₃ ↦ ?_⟩
  · rw [getChecksumsInternal_get rows hnd hf]
    exact partialOf_checksum rows _ _ _
  · have e₁ := getChecksumsInternal_get rows h₁ hm₁
    have e₂ := getChecksumsInternal_get rows h₂ hm₂
    have e₃ := getChecksumsInternal_get rows h₃ hm₃
    simp only [Option.getD_some] at e₁ e₂ e₃
    rw [e₁, e₂, e₃]
    exact partialOf_add rows b hxy hyz

/-- Bucket `a` with two checksums of `2^31` and a `CLEAR` of checksum `-5`, and one op of
bucket `b` between them. -/
def wideChecksumRows : List BucketDataRow :=
  [⟨"a", 1, .PUT, some "t", some "r1", 2147483648, some "{}", none⟩,
   ⟨"b", 2, .PUT, some "t", some "r2", -7, some "{}", none⟩,
   ⟨"a", 3, .PUT, some "t", some "r3", 2147483648, some "{}", none⟩,
   ⟨"a", 4, .CLEAR, none, none, -5, none, none⟩]

theorem partial_checksums_additive_wide :
    (-2 ^ 31 ≤ (partialChecksumFor wideChecksumRows [⟨"b", none, 9⟩, ⟨"a", some 0, 3⟩]
        "a").partialChecksum) ∧
    partialChecksumFor wideChecksumRows [⟨"a", some 0, 4⟩] "a" =
      (partialChecksumFor wideChecksumRows [⟨"b", none, 9⟩, ⟨"a", some 0, 3⟩] "a").add
        (partialChecksumFor wideChecksumRows [⟨"a", some 3, 4⟩] "a") :=
  ⟨((partial_checksums_additive wideChecksumRows).1 _ (by decide) ⟨"a", some 0, 3⟩
      (by decide)).1,
    (partial_checksums_additive wideChecksumRows).2 "a" 0 3 4 _ _ _ (by decide) (by decide)
      (by decide) (by decide) (by decide) (by decide) (by decide) (by decide)⟩

/-- The two checksums of `2^31` wrap to zero. -/
example : partialChecksumFor wideChecksumRows [⟨"b", none, 9⟩, ⟨"a", some 0, 3⟩] "a" =
    ⟨"a", 2, 0, false⟩ := by decide

end PowerSync
