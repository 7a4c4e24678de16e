import PowerSync.Replication.SaveOperation

/-!
# Truncating a table's current data

`MongoBucketBatch.truncateSingle` deletes a source table's rows from `current_data`, at
most `BATCH_LIMIT` documents per transaction.  For each document it asks the persisted
batch for the `REMOVE` ops of its buckets (`saveBucketData` with no evaluated rows), the
removal of its parameter lookups (`saveParameterData`), and its deletion.  The loop runs
again while a transaction found a full batch.

Documents are found with `idPrefixFilter({ g, t }, ['k'])`, the `_id` range from
`{ g, t, k: MinKey }` included to `{ g, t, k: MaxKey }` excluded.  BSON compares such
documents field by field, and `MaxKey` is above every other value, so the range holds
every `_id` of the table except one whose `k` is `MaxKey` itself (`contains_idPrefixFilter`).

## What is transcribed and what is ours

* `idPrefixFilter`, `CurrentData.find`, `truncateOps` and `CurrentData.truncateSingle`
  follow the code.  The loop is well-founded recursion on the size of the collection.
* `ReplicaId.lt` and `SourceKey.lt` are BSON's order on these keys, from MongoDB and not
  from this repository: by type (`MinKey`, numbers, strings, `ObjectId`, `MaxKey`), then
  by value.  A table id is an `ObjectId`'s hex string, whose order is that of its bytes.
* The documents and the requests are those of `saveOperation`.  The op ids a transaction
  takes are left out: `Checkpoints` models them.

`truncateSingle_spec` says what the loop does for every collection: it runs one
transaction per full batch of the range and one more, writes each document's ops once
in the collection's order, and leaves exactly the documents outside the range.
-/

namespace PowerSync

/-- BSON's type order on the values a replica id holds: `MinKey`, numbers, strings,
`ObjectId`, `MaxKey`. -/
def ReplicaId.typeRank : ReplicaId → Nat
  | .minKey => 0
  | .num _ => 1
  | .str _ => 2
  | .objectId _ => 3
  | .maxKey => 4

/-- BSON's `<` on replica ids: by type, then by value; strings by code point, object ids by
their bytes, which is the order of their hex strings. -/
def ReplicaId.lt : ReplicaId → ReplicaId → Bool
  | .num a, .num b => decide (a < b)
  | .str a, .str b => decide (a.data < b.data)
  | .objectId a, .objectId b => decide (a.data < b.data)
  | a, b => decide (a.typeRank < b.typeRank)

/-- BSON's `<` on two `_id` documents with the fields `g`, `t`, `k` in that order: the first
field that differs decides. -/
def SourceKey.lt (a b : SourceKey) : Bool :=
  decide (a.g < b.g) || (a.g == b.g && (decide (a.t.data < b.t.data) || (a.t == b.t && a.k.lt b.k)))

/-- The condition `{ $gte: gte, $lt: lt }` on `_id`. -/
structure IdRange where
  gte : SourceKey
  lt : SourceKey
deriving DecidableEq, Repr

/-- Whether an `_id` meets the condition. -/
def IdRange.contains (f : IdRange) (id : SourceKey) : Bool := !id.lt f.gte && id.lt f.lt

/-- `idPrefixFilter<SourceKey>({ g, t }, ['k'])`. -/
def idPrefixFilter (g : Nat) (t : String) : IdRange := ⟨⟨g, t, .minKey⟩, ⟨g, t, .maxKey⟩⟩

/-- The `current_data` collection, in the order its cursor returns documents; `_id` is
unique. -/
structure CurrentData where
  docs : List CurrentDataDocument
  nodup : (docs.map (·._id)).Nodup

/-- `const BATCH_LIMIT = 2000`. -/
def BATCH_LIMIT : Nat := 2000

/-- The writes of one transaction, for each document of its batch. -/
def truncateOps (sourceTable : SourceTable) (batch : List CurrentDataDocument) :
    List BatchRequest :=
  batch.flatMap fun value ↦
    [.saveBucketData value._id.k sourceTable value.buckets [],
      .saveParameterData value._id.k sourceTable [] value.lookups,
      .deleteCurrentData value._id]

namespace CurrentData

/-- `current_data.find(filter, { limit: BATCH_LIMIT })`. -/
def find (c : CurrentData) (f : IdRange) : List CurrentDataDocument :=
  (c.docs.filter fun d ↦ f.contains d._id).take BATCH_LIMIT

/-- The batch's `deleteCurrentData` calls, once flushed. -/
def deleteAll (c : CurrentData) (batch : List CurrentDataDocument) : CurrentData :=
  ⟨c.docs.filter fun d ↦ d._id ∉ batch.map (·._id),
    c.nodup.sublist ((List.filter_sublist _).map _)⟩

/-- A full batch is not empty, and each of its documents leaves the collection. -/
theorem length_deleteAll_find_lt (c : CurrentData) {f : IdRange}
    (h : (c.find f).length = BATCH_LIMIT) : (c.deleteAll (c.find f)).docs.length < c.docs.length := by
  obtain ⟨d, hd⟩ := List.exists_mem_of_ne_nil (c.find f) fun h' ↦ by
    rw [h'] at h
    cases h
  refine List.length_filter_lt_length_iff_exists.2
    ⟨d, List.mem_of_mem_filter (List.mem_of_mem_take hd), ?_⟩
  simpa using List.mem_map_of_mem _ hd

/-- `truncateSingle(sourceTable)` in group `group_id`: the writes of each transaction, and
the collection left.  The `while` loop runs once, and again after every full batch. -/
def truncateSingle (group_id : Nat) (sourceTable : SourceTable) (c : CurrentData) :
    List (List BatchRequest) × CurrentData :=
  if _hfull : (c.find (idPrefixFilter group_id sourceTable.id)).length = BATCH_LIMIT then
    let r := truncateSingle group_id sourceTable
      (c.deleteAll (c.find (idPrefixFilter group_id sourceTable.id)))
    (truncateOps sourceTable (c.find (idPrefixFilter group_id sourceTable.id)) :: r.1, r.2)
  else
    ([truncateOps sourceTable (c.find (idPrefixFilter group_id sourceTable.id))],
      c.deleteAll (c.find (idPrefixFilter group_id sourceTable.id)))
termination_by c.docs.length
decreasing_by exact c.length_deleteAll_find_lt _hfull

/-! ## One transaction -/

section Batch

variable (c : CurrentData) (f : IdRange)

theorem find_eq : c.find f = (c.docs.filter fun d ↦ f.contains d._id).take BATCH_LIMIT := rfl

/-- A document whose `_id` one of the batch's has is in the range. -/
theorem contains_of_mem_find {d : CurrentDataDocument} (h : d._id ∈ (c.find f).map (·._id)) :
    f.contains d._id := by
  obtain ⟨d', hd', hid⟩ := List.mem_map.1 h
  rw [← hid]
  exact (List.mem_filter.1 (List.mem_of_mem_take hd')).2

/-- Deleting the batch leaves the documents outside the range alone. -/
theorem filter_not_deleteAll_find :
    (c.deleteAll (c.find f)).docs.filter (fun d ↦ !f.contains d._id) =
      c.docs.filter fun d ↦ !f.contains d._id := by
  rw [deleteAll, List.filter_filter]
  refine List.filter_congr fun d _ ↦ ?_
  by_cases hd : f.contains d._id
  · simp [hd]
  · have : d._id ∉ (c.find f).map (·._id) := fun h ↦ hd (c.contains_of_mem_find f h)
    simp [hd, this]

/-- In a list of distinct `_id`s, removing the first `n` documents' `_id`s drops them. -/
theorem filter_not_mem_take {L : List CurrentDataDocument} (h : (L.map (·._id)).Nodup) (n : Nat) :
    L.filter (fun d ↦ d._id ∉ (L.take n).map (·._id)) = L.drop n := by
  have hd := h
  rw [← List.take_append_drop n L, List.map_append, List.nodup_append] at hd
  calc L.filter (fun d ↦ d._id ∉ (L.take n).map (·._id))
      = (L.take n ++ L.drop n).filter (fun d ↦ d._id ∉ (L.take n).map (·._id)) := by
        rw [List.take_append_drop]
    _ = L.drop n := by
        rw [List.filter_append, List.filter_eq_nil_iff.2, List.filter_eq_self.2, List.nil_append]
        · exact fun d hd' ↦ by simpa using fun hin ↦ hd.2.2 hin (List.mem_map_of_mem _ hd')
        · exact fun d hd' ↦ by simpa using List.mem_map_of_mem _ hd'

/-- Deleting the batch leaves the rest of the range. -/
theorem filter_deleteAll_find :
    (c.deleteAll (c.find f)).docs.filter (fun d ↦ f.contains d._id) =
      (c.docs.filter fun d ↦ f.contains d._id).drop BATCH_LIMIT := by
  have hnd : ((c.docs.filter fun d ↦ f.contains d._id).map (·._id)).Nodup :=
    c.nodup.sublist ((List.filter_sublist _).map _)
  rw [deleteAll, List.filter_comm, find_eq, filter_not_mem_take hnd]

/-- A batch that is not full is the whole range, and deleting it leaves the documents
outside the range. -/
theorem deleteAll_find_of_lt (h : (c.find f).length ≠ BATCH_LIMIT) :
    (c.deleteAll (c.find f)).docs = c.docs.filter fun d ↦ !f.contains d._id := by
  have hall : c.find f = c.docs.filter fun d ↦ f.contains d._id := by
    rw [find_eq, List.length_take] at *
    exact List.take_of_length_le (by omega)
  rw [deleteAll]
  refine List.filter_congr fun d hd ↦ ?_
  by_cases hc : f.contains d._id
  · have : d._id ∈ (c.find f).map (·._id) := hall ▸ List.mem_map_of_mem _ (List.mem_filter.2 ⟨hd, hc⟩)
    simp [hc, this]
  · have : d._id ∉ (c.find f).map (·._id) := fun h ↦ hc (c.contains_of_mem_find f h)
    simp [hc, this]

end Batch

theorem truncateOps_append (sourceTable : SourceTable) (l₁ l₂ : List CurrentDataDocument) :
    truncateOps sourceTable (l₁ ++ l₂) = truncateOps sourceTable l₁ ++ truncateOps sourceTable l₂ :=
  List.flatMap_append _ _ _

/-! ## The loop -/

/-- For every collection: one transaction per full batch of the range and one more, each
document of the range written once and in order, and the documents outside the range
left. -/
theorem truncateSingle_spec (g : Nat) (t : SourceTable) (c : CurrentData) :
    (c.truncateSingle g t).1.length =
      (c.docs.filter fun d ↦ (idPrefixFilter g t.id).contains d._id).length / BATCH_LIMIT + 1 ∧
    (c.truncateSingle g t).1.flatten =
      truncateOps t (c.docs.filter fun d ↦ (idPrefixFilter g t.id).contains d._id) ∧
    (c.truncateSingle g t).2.docs = c.docs.filter fun d ↦ !(idPrefixFilter g t.id).contains d._id := by
  induction c using truncateSingle.induct g t with
  | case1 c hfull ih =>
    obtain ⟨ih1, ih2, ih3⟩ := ih
    rw [filter_deleteAll_find] at ih1 ih2
    rw [filter_not_deleteAll_find] at ih3
    rw [truncateSingle, dif_pos hfull]
    refine ⟨?_, ?_, ih3⟩
    · rw [find_eq, List.length_take] at hfull
      simp only [List.length_cons, ih1, List.length_drop, BATCH_LIMIT] at hfull ⊢
      omega
    · rw [List.flatten_cons, ih2, find_eq, ← truncateOps_append, List.take_append_drop]
  | case2 c hpart =>
    rw [truncateSingle, dif_neg hpart]
    have hlen := hpart
    rw [find_eq, List.length_take] at hlen
    refine ⟨?_, ?_, c.deleteAll_find_of_lt _ hpart⟩
    · simp only [List.length_singleton, BATCH_LIMIT] at hlen ⊢
      omega
    · rw [List.flatten_singleton, find_eq, List.take_of_length_le (by simp only [BATCH_LIMIT] at hlen ⊢; omega)]

end CurrentData

/-! ## The range of `idPrefixFilter` -/

/-- The range of `idPrefixFilter({ g, t }, ['k'])` holds the `_id`s of group `g` and table
`t`, except one whose `k` is `MaxKey`. -/
theorem contains_idPrefixFilter (g : Nat) (t : String) (id : SourceKey) :
    (idPrefixFilter g t).contains id = true ↔ id.g = g ∧ id.t = t ∧ id.k ≠ .maxKey := by
  obtain ⟨g', t', k⟩ := id
  have hmin : k.lt .minKey = false := by cases k <;> rfl
  have hmax : k.lt .maxKey = (k != .maxKey) := by cases k <;> rfl
  by_cases hg : g' = g
  · by_cases ht : t' = t
    · subst hg ht
      simp [IdRange.contains, idPrefixFilter, SourceKey.lt, hmin, hmax, lt_irrefl]
    · simp [IdRange.contains, idPrefixFilter, SourceKey.lt, hg, ht]
  · simp [IdRange.contains, idPrefixFilter, SourceKey.lt, hg]

/-- With no `MaxKey` replica id in the table, truncating is as intended: one transaction
per full batch of the table's documents and one more, each document's writes once and
in order, no write for another table or group, and none of the table's documents
left. -/
theorem CurrentData.truncateSingle_table (g : Nat) (t : SourceTable) (c : CurrentData)
    (hk : ∀ d ∈ c.docs, d._id.g = g → d._id.t = t.id → d._id.k ≠ .maxKey) :
    (c.truncateSingle g t).1.length =
      (c.docs.filter fun d ↦ d._id.g = g ∧ d._id.t = t.id).length / BATCH_LIMIT + 1 ∧
    (c.truncateSingle g t).1.flatten =
      truncateOps t (c.docs.filter fun d ↦ d._id.g = g ∧ d._id.t = t.id) ∧
    (c.truncateSingle g t).2.docs = c.docs.filter fun d ↦ ¬(d._id.g = g ∧ d._id.t = t.id) := by
  have hsel : (c.docs.filter fun d ↦ (idPrefixFilter g t.id).contains d._id) =
      c.docs.filter fun d ↦ d._id.g = g ∧ d._id.t = t.id :=
    List.filter_congr fun d hd ↦ by
      rw [Bool.eq_iff_iff, contains_idPrefixFilter, decide_eq_true_iff]
      exact ⟨fun h ↦ ⟨h.1, h.2.1⟩, fun h ↦ ⟨h.1, h.2, hk d hd h.1 h.2⟩⟩
  obtain ⟨h1, h2, h3⟩ := c.truncateSingle_spec g t
  refine ⟨hsel ▸ h1, hsel ▸ h2, h3.trans (List.filter_congr fun d hd ↦ ?_)⟩
  rw [Bool.eq_iff_iff, Bool.not_eq_true', ← Bool.not_eq_true, contains_idPrefixFilter,
    decide_eq_true_iff]
  exact ⟨fun h h' ↦ h ⟨h'.1, h'.2, hk d hd h'.1 h'.2⟩, fun h h' ↦ h ⟨h'.1, h'.2.1⟩⟩

/-- Table `t5`, replicated from MongoDB. -/
def maxKeyTable : SourceTable := ⟨"t5", true, true⟩

/-- Two rows of table `t5` in group 1; the second has `_id` `MaxKey` in the source. -/
def maxKeyData : CurrentData :=
  ⟨[⟨⟨1, "t5", .num 0⟩, ⟨[]⟩, [⟨"b", "t5", "0"⟩], ["l0"]⟩,
    ⟨⟨1, "t5", .maxKey⟩, ⟨[]⟩, [⟨"b", "t5", "max"⟩], ["l1"]⟩], by decide⟩

theorem truncate_keeps_maxKey_row :
    (maxKeyData.truncateSingle 1 maxKeyTable).1.flatten =
      [.saveBucketData (.num 0) maxKeyTable [⟨"b", "t5", "0"⟩] [],
        .saveParameterData (.num 0) maxKeyTable [] ["l0"],
        .deleteCurrentData ⟨1, "t5", .num 0⟩] ∧
    (maxKeyData.truncateSingle 1 maxKeyTable).2.docs =
      [⟨⟨1, "t5", .maxKey⟩, ⟨[]⟩, [⟨"b", "t5", "max"⟩], ["l1"]⟩] := by
  obtain ⟨-, h2, h3⟩ := maxKeyData.truncateSingle_spec 1 maxKeyTable
  exact ⟨h2.trans (by decide), h3.trans (by decide)⟩

end PowerSync
