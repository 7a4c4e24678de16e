import PowerSync.Replication.SaveOperation

/-!
# Parameter lookups and `getParameterSets`

`bucket_parameters` keeps every version of a source row's parameter lookups.  For each
lookup a row has, the batch writes a row under the next op id.  For each lookup the row had
and has no longer, it writes a row with no parameter sets.  Nothing is updated in place.
`PostgresSyncRulesStorage.getParameterSets(checkpoint, lookups)` reads the table as of a
checkpoint.  It takes the rows of the sync rules group that have one of the lookups and an
id at or below the checkpoint.  For each `(lookup, source_table, source_key)` it keeps the
row with the largest id, and it returns their parameter sets, flattened.

## What is proved

* `ParameterStore.getParameterSets_snapshot`: after any sequence of parameter writes, each
  taking ids after those taken before it (`ParameterStore.Fresh`), `getParameterSets` at any
  checkpoint returns, up to order, the parameter sets of a key-value map.  That map is the
  one the writes with ids up to the checkpoint leave, applied in order.
* `ParameterStore.getParameterSets_stable`: no later fresh write changes what
  `getParameterSets` returns at a checkpoint the store's ids have reached.  A write under an
  id already taken would.

The writes are `MongoBucketBatch`'s and the read is `PostgresSyncRulesStorage`'s.  No
deployment runs the two backends together; the model runs both over one table.

The query's `ORDER BY lookup, source_table, source_key` fixes the order of its rows.  The
model does not order them, so the first statement is up to order.
-/

namespace PowerSync

/-- A row of `bucket_parameters`. -/
structure BucketParameterRow where
  group_id : Nat
  lookup : String
  source_table : String
  source_key : ReplicaId
  id : Nat
  bucket_parameters : String
deriving DecidableEq, Repr

namespace BucketParameterRow

/-- The columns of `DISTINCT ON`. -/
def distinctKey (r : BucketParameterRow) : String × String × ReplicaId :=
  (r.lookup, r.source_table, r.source_key)

/-- What a row versions: its group and its `DISTINCT ON` columns. -/
def key (r : BucketParameterRow) : Nat × String × String × ReplicaId :=
  (r.group_id, r.distinctKey)

end BucketParameterRow

/-! ## The query -/

/-- `SELECT DISTINCT ON (lookup, source_table, source_key) ... ORDER BY lookup, source_table,
source_key, id DESC`: the row with the largest id of each key. -/
def distinctOnLatest (rows : List BucketParameterRow) : List BucketParameterRow :=
  (rows.map (·.distinctKey)).dedup.filterMap fun k ↦
    (rows.filter (·.distinctKey = k)).argmax (·.id)

/-- `PostgresSyncRulesStorage.getParameterSets`, with `parse` for `JSONBig.parse` of a row's
`bucket_parameters`. -/
def getParameterSets {α : Type} (parse : String → List α) (group_id : Nat)
    (rows : List BucketParameterRow) (checkpoint : Nat) (lookups : List String) : List α :=
  (distinctOnLatest (rows.filter fun r ↦
      r.group_id = group_id ∧ r.lookup ∈ lookups ∧ r.id ≤ checkpoint)).flatMap
    fun r ↦ parse r.bucket_parameters

/-! ## The writes -/

/-- The rows of `(lookup, bucket_parameters)` writes, under the ids after `op_id`. -/
def numberRows (group_id : Nat) (sourceTable : SourceTable) (sourceKey : ReplicaId) :
    Nat → List (String × String) → List BucketParameterRow
  | _, [] => []
  | op_id, (lookup, params) :: writes =>
      ⟨group_id, lookup, sourceTable.id, sourceKey, op_id + 1, params⟩ ::
        numberRows group_id sourceTable sourceKey (op_id + 1) writes

/-- Modelled from the spec: `PersistedBatch.saveParameterData` is not in the sources.  It
writes a row for each evaluated lookup, then a row with no parameter sets for each earlier
lookup that the source row no longer has.  Each row takes the next id of `op_seq`. -/
def saveParameterData (group_id op_id : Nat) (sourceKey : ReplicaId) (sourceTable : SourceTable)
    (evaluated : List EvaluatedParameters) (existing_lookups : List String) :
    List BucketParameterRow :=
  let removed := (existing_lookups.filter (· ∉ evaluated.map (·.lookup))).dedup
  numberRows group_id sourceTable sourceKey op_id
    (evaluated.map (fun e ↦ (e.lookup, e.bucket_parameters)) ++ removed.map fun l ↦ (l, "[]"))

section Rows

variable {group_id : Nat} {sourceTable : SourceTable} {sourceKey : ReplicaId}

theorem length_numberRows (op_id : Nat) (writes : List (String × String)) :
    (numberRows group_id sourceTable sourceKey op_id writes).length = writes.length := by
  induction writes generalizing op_id with
  | nil => rfl
  | cons w writes ih => simp [numberRows, ih]

theorem id_mem_numberRows {op_id : Nat} {writes : List (String × String)}
    {r : BucketParameterRow} (hr : r ∈ numberRows group_id sourceTable sourceKey op_id writes) :
    op_id < r.id ∧ r.id ≤ op_id + writes.length := by
  induction writes generalizing op_id with
  | nil => simp [numberRows] at hr
  | cons w writes ih =>
      rcases List.mem_cons.1 hr with rfl | hr
      · simp
      · have := ih hr
        simp only [List.length_cons]
        omega

theorem pairwise_numberRows (op_id : Nat) (writes : List (String × String)) :
    (numberRows group_id sourceTable sourceKey op_id writes).Pairwise fun a b ↦ a.id < b.id := by
  induction writes generalizing op_id with
  | nil => exact List.Pairwise.nil
  | cons w writes ih =>
      exact List.Pairwise.cons (fun r hr ↦ (id_mem_numberRows hr).1) (ih _)

end Rows

/-! ## Reading an increasing table

The ids of `bucket_parameters` increase in the order the rows were written.  Then the row of
largest id is the last one written, and the query reads the key-value map that the rows up to
the checkpoint leave. -/

/-- The rows as a key-value map: each row sets its key, in order. -/
def snapshot (rows : List BucketParameterRow) :
    JsMap (Nat × String × String × ReplicaId) String :=
  rows.foldl (fun m r ↦ m.set r.key r.bucket_parameters) JsMap.empty

/-- The parameter sets of a map's keys in group `group_id` with one of the lookups. -/
def readSnapshot {α : Type} (parse : String → List α) (group_id : Nat) (lookups : List String)
    (m : JsMap (Nat × String × String × ReplicaId) String) : List α :=
  (m.entries.filter fun e ↦ e.1.1 = group_id ∧ e.1.2.1 ∈ lookups).flatMap fun e ↦ parse e.2

theorem snapshot_get? (rows : List BucketParameterRow) (k : Nat × String × String × ReplicaId) :
    (snapshot rows).get? k = (rows.filter (·.key = k)).getLast?.map (·.bucket_parameters) := by
  simp [snapshot, JsMap.get?_foldl_set_getLast]

section Increasing

variable {rows : List BucketParameterRow}

theorem argmax_id_eq_getLast? (h : rows.Pairwise fun a b ↦ a.id < b.id) :
    rows.argmax (·.id) = rows.getLast? := by
  induction rows using List.reverseRecOn with
  | nil => rfl
  | append_singleton l a ih =>
      obtain ⟨hl, -, hla⟩ := List.pairwise_append.1 h
      rw [List.argmax_concat, ih hl]
      cases hlast : l.getLast? with
      | none => simp
      | some c => simp [hla c (List.mem_of_getLast?_eq_some hlast) a (List.mem_singleton_self a)]

/-- The query keeps a row exactly when it is the last of its key. -/
theorem mem_distinctOnLatest (h : rows.Pairwise fun a b ↦ a.id < b.id) {r : BucketParameterRow} :
    r ∈ distinctOnLatest rows ↔
      (rows.filter (·.distinctKey = r.distinctKey)).getLast? = some r := by
  have hlast : ∀ k, (rows.filter (·.distinctKey = k)).argmax (·.id) =
      (rows.filter (·.distinctKey = k)).getLast? :=
    fun k ↦ argmax_id_eq_getLast? (h.sublist (List.filter_sublist _))
  simp only [distinctOnLatest, List.mem_filterMap, List.mem_dedup, hlast]
  constructor
  · rintro ⟨k, -, hk⟩
    obtain rfl := of_decide_eq_true (List.mem_filter.1 (List.mem_of_getLast?_eq_some hk)).2
    exact hk
  · intro hr
    have hmem := List.mem_filter.1 (List.mem_of_getLast?_eq_some hr)
    exact ⟨r.distinctKey, List.mem_map_of_mem _ hmem.1, hr⟩

theorem nodup_distinctOnLatest (rows : List BucketParameterRow) :
    (distinctOnLatest rows).Nodup := by
  refine (List.nodup_dedup _).filterMap fun k k' r hk hk' ↦ ?_
  have key_eq : ∀ {k}, r ∈ (rows.filter (·.distinctKey = k)).argmax (·.id) → r.distinctKey = k :=
    fun hk ↦ of_decide_eq_true (List.mem_filter.1 (List.argmax_mem hk)).2
  exact (key_eq hk).symm.trans (key_eq hk')

/-- Within the rows the query reads, a key's rows are the key's rows up to the checkpoint. -/
theorem filter_distinctKey_eq {g c : Nat} {lookups : List String}
    {k : Nat × String × String × ReplicaId} (hk : k.1 = g ∧ k.2.1 ∈ lookups) :
    (rows.filter fun r ↦ r.group_id = g ∧ r.lookup ∈ lookups ∧ r.id ≤ c).filter
        (·.distinctKey = k.2) =
      (rows.filter (·.id ≤ c)).filter (·.key = k) := by
  obtain ⟨g', lookup, t, sk⟩ := k
  obtain ⟨rfl, hlookup⟩ := hk
  simp only [List.filter_filter]
  refine List.filter_congr fun r _ ↦ ?_
  rw [Bool.eq_iff_iff]
  simp only [Bool.and_eq_true, decide_eq_true_eq]
  simp only [BucketParameterRow.distinctKey, BucketParameterRow.key, Prod.mk.injEq]
  constructor
  · rintro ⟨⟨rfl, rfl, rfl⟩, rfl, -, hc⟩
    exact ⟨⟨rfl, rfl, rfl, rfl⟩, hc⟩
  · rintro ⟨⟨rfl, rfl, rfl, rfl⟩, hc⟩
    exact ⟨⟨rfl, rfl, rfl⟩, rfl, hlookup, hc⟩

/-- On a table whose ids increase, the rows the query keeps are, as key and parameter sets,
the entries of the map that the rows up to the checkpoint leave, in the group and with one of
the lookups. -/
theorem distinctOnLatest_perm_snapshot (h : rows.Pairwise fun a b ↦ a.id < b.id) (g c : Nat)
    (lookups : List String) :
    ((distinctOnLatest (rows.filter fun r ↦ r.group_id = g ∧ r.lookup ∈ lookups ∧ r.id ≤ c)).map
        fun r ↦ (r.key, r.bucket_parameters)).Perm
      ((snapshot (rows.filter (·.id ≤ c))).entries.filter
        fun e ↦ e.1.1 = g ∧ e.1.2.1 ∈ lookups) := by
  have hF : (rows.filter fun r ↦ r.group_id = g ∧ r.lookup ∈ lookups ∧ r.id ≤ c).Pairwise
      fun a b ↦ a.id < b.id := h.sublist (List.filter_sublist _)
  have hsnap : (snapshot (rows.filter (·.id ≤ c))).Nodup :=
    JsMap.Nodup.foldl_set_fn JsMap.nodup_empty _ _ _
  refine (List.perm_ext_iff_of_nodup ?_ ?_).2 fun ⟨k, v⟩ ↦ ?_
  · refine (nodup_distinctOnLatest _).map_on fun r hr r' hr' hrr' ↦ ?_
    have hkey : r.distinctKey = r'.distinctKey := congrArg (·.2) (Prod.mk.inj hrr').1
    exact Option.some.inj (((mem_distinctOnLatest hF).1 hr).symm.trans
      (hkey ▸ (mem_distinctOnLatest hF).1 hr'))
  · exact (List.Nodup.of_map Prod.fst hsnap).filter _
  have hmem : (k, v) ∈ (snapshot (rows.filter (·.id ≤ c))).entries ↔
      ((rows.filter (·.id ≤ c)).filter (·.key = k)).getLast?.map (·.bucket_parameters) =
        some v := by
    rw [← snapshot_get?]
    exact ⟨JsMap.get?_eq_of_mem hsnap, JsMap.mem_entries_of_get?⟩
  simp only [List.mem_map, List.mem_filter, decide_eq_true_eq, Prod.mk.injEq, hmem]
  constructor
  · rintro ⟨r, hr, rfl, rfl⟩
    have hlast := (mem_distinctOnLatest hF).1 hr
    have hrF := of_decide_eq_true
      (List.mem_filter.1 (List.mem_filter.1 (List.mem_of_getLast?_eq_some hlast)).1).2
    have hq : r.key.1 = g ∧ r.key.2.1 ∈ lookups := ⟨hrF.1, hrF.2.1⟩
    rw [← filter_distinctKey_eq hq]
    exact ⟨by rw [show r.key.2 = r.distinctKey from rfl, hlast]; rfl, hq⟩
  · rintro ⟨hv, hq⟩
    obtain ⟨r, hr, rfl⟩ := Option.map_eq_some'.1 hv
    have hk : r.key = k := of_decide_eq_true (List.mem_filter.1 (List.mem_of_getLast?_eq_some hr)).2
    refine ⟨r, (mem_distinctOnLatest hF).2 ?_, hk, rfl⟩
    rw [show r.distinctKey = k.2 from congrArg Prod.snd hk, filter_distinctKey_eq hq]
    exact hr

/-- On a table whose ids increase, `getParameterSets` at a checkpoint reads the map that the
rows up to the checkpoint leave. -/
theorem getParameterSets_perm_readSnapshot (h : rows.Pairwise fun a b ↦ a.id < b.id)
    {α : Type} (parse : String → List α) (g c : Nat) (lookups : List String) :
    (getParameterSets parse g rows c lookups).Perm
      (readSnapshot parse g lookups (snapshot (rows.filter (·.id ≤ c)))) := by
  unfold getParameterSets readSnapshot
  simpa only [List.flatMap_map] using
    (distinctOnLatest_perm_snapshot h g c lookups).flatMap_right fun e ↦ parse e.2

end Increasing

/-! ## The table over the batch's writes -/

/-- `bucket_parameters` and the last op id taken. -/
structure ParameterStore where
  rows : List BucketParameterRow
  op_id : Nat
deriving DecidableEq, Repr

/-- A batch request of sync rules group `group_id`, its ids taken after `op_id`. -/
structure ParameterWrite where
  group_id : Nat
  op_id : Nat
  request : BatchRequest
deriving DecidableEq, Repr

namespace ParameterStore

/-- The rows a batch request writes: those of `saveParameterData`, under the ids after the
write's `op_id`. -/
def step (s : ParameterStore) (w : ParameterWrite) : ParameterStore :=
  match w.request with
  | .saveParameterData sourceKey sourceTable evaluated existing_lookups =>
      let rows := saveParameterData w.group_id w.op_id sourceKey sourceTable evaluated
        existing_lookups
      ⟨s.rows ++ rows, w.op_id + rows.length⟩
  | _ => s

/-- A sequence of writes. -/
def run (s : ParameterStore) (ws : List ParameterWrite) : ParameterStore := ws.foldl step s

/-- Each write takes its ids after every id taken before it.  The writes of one transaction
take the next ids of its `opSeq`, and a transaction starts at the `op_id` that
`op_ids_unique_increasing` shows is above every committed id. -/
def Fresh : ParameterStore → List ParameterWrite → Prop
  | _, [] => True
  | s, w :: ws => s.op_id ≤ w.op_id ∧ Fresh (s.step w) ws

instance decidableFresh : (s : ParameterStore) → (ws : List ParameterWrite) → Decidable (Fresh s ws)
  | _, [] => isTrue trivial
  | s, w :: ws =>
    haveI := decidableFresh (s.step w) ws
    inferInstanceAs (Decidable (_ ∧ _))

/-- The ids increase in the order the rows were written, up to the last id taken. -/
structure Good (s : ParameterStore) : Prop where
  increasing : s.rows.Pairwise fun a b ↦ a.id < b.id
  le_op_id : ∀ r ∈ s.rows, r.id ≤ s.op_id

instance (s : ParameterStore) : Decidable s.Good :=
  decidable_of_iff (_ ∧ _) ⟨fun ⟨h₁, h₂⟩ ↦ ⟨h₁, h₂⟩, fun ⟨h₁, h₂⟩ ↦ ⟨h₁, h₂⟩⟩

variable {s : ParameterStore}

/-- A write that takes ids after the store's appends rows with increasing ids above them,
and moves its op id up to them. -/
theorem step_spec {w : ParameterWrite} (hw : s.op_id ≤ w.op_id) :
    ∃ added, (s.step w).rows = s.rows ++ added ∧ s.op_id ≤ (s.step w).op_id ∧
      (added.Pairwise fun a b ↦ a.id < b.id) ∧
      ∀ r ∈ added, s.op_id < r.id ∧ r.id ≤ (s.step w).op_id := by
  unfold step
  split
  · refine ⟨_, rfl, by dsimp only; omega, pairwise_numberRows _ _, fun r hr ↦ ?_⟩
    have := id_mem_numberRows hr
    simp only [saveParameterData, length_numberRows] at this ⊢
    omega
  · exact ⟨[], (List.append_nil _).symm, le_rfl, List.Pairwise.nil,
      fun _ h ↦ absurd h (List.not_mem_nil _)⟩

theorem step_good (hs : s.Good) {w : ParameterWrite} (hw : s.op_id ≤ w.op_id) :
    (s.step w).Good := by
  obtain ⟨added, hrows, hop, hinc, hadded⟩ := step_spec hw
  refine ⟨hrows ▸ List.pairwise_append.2 ⟨hs.increasing, hinc, fun a ha b hb ↦ ?_⟩,
    fun r hr ↦ ?_⟩
  · exact lt_of_le_of_lt (hs.le_op_id a ha) (hadded b hb).1
  · rcases List.mem_append.1 (hrows ▸ hr) with hr | hr
    · exact (hs.le_op_id r hr).trans hop
    · exact (hadded r hr).2

theorem run_good (hs : s.Good) {ws : List ParameterWrite} (hf : Fresh s ws) : (s.run ws).Good := by
  induction ws generalizing s with
  | nil => exact hs
  | cons w ws ih => exact ih (step_good hs hf.1) hf.2

/-- Fresh writes only append rows, with ids above the store's. -/
theorem run_rows {ws : List ParameterWrite} (hf : Fresh s ws) :
    ∃ added, (s.run ws).rows = s.rows ++ added ∧ ∀ r ∈ added, s.op_id < r.id := by
  induction ws generalizing s with
  | nil => exact ⟨[], (List.append_nil _).symm, fun _ h ↦ absurd h (List.not_mem_nil _)⟩
  | cons w ws ih =>
      obtain ⟨added, hrows, hop, -, hadded⟩ := step_spec hf.1
      obtain ⟨added', hrows', hadded'⟩ := ih hf.2
      refine ⟨added ++ added', by rw [run, List.foldl_cons, ← run, hrows', hrows,
        List.append_assoc], fun r hr ↦ ?_⟩
      rcases List.mem_append.1 hr with hr | hr
      · exact (hadded r hr).1
      · exact lt_of_le_of_lt hop (hadded' r hr)

theorem getParameterSets_snapshot (hs : s.Good) (ws : List ParameterWrite) (hf : Fresh s ws)
    {α : Type} (parse : String → List α) (group_id checkpoint : Nat) (lookups : List String) :
    (getParameterSets parse group_id (s.run ws).rows checkpoint lookups).Perm
      (readSnapshot parse group_id lookups
        (snapshot ((s.run ws).rows.filter (·.id ≤ checkpoint)))) :=
  getParameterSets_perm_readSnapshot (run_good hs hf).increasing parse group_id checkpoint lookups

/-- A `lists` table whose rows give parameter lookups. -/
def listsTable : SourceTable := ⟨"lists", false, true⟩

/-- List `l1` is written with owner `u1`, then moved to owner `u2`: a row for the new lookup
and a row with no parameter sets for the old one. -/
def ownerWrites : List ParameterWrite :=
  [⟨1, 0, .saveParameterData (.str "l1") listsTable [⟨"by_owner[u1]", "[1]"⟩] []⟩,
   ⟨1, 5, .saveParameterData (.str "l1") listsTable [⟨"by_owner[u2]", "[1]"⟩] ["by_owner[u1]"]⟩]

theorem getParameterSets_snapshot_owners :
    Fresh ⟨[], 0⟩ ownerWrites ∧
      (getParameterSets (fun p ↦ [p]) 1 ((⟨[], 0⟩ : ParameterStore).run ownerWrites).rows 7
          ["by_owner[u1]"]).Perm
        (readSnapshot (fun p ↦ [p]) 1 ["by_owner[u1]"]
          (snapshot (((⟨[], 0⟩ : ParameterStore).run ownerWrites).rows.filter (·.id ≤ 7)))) :=
  ⟨by decide, getParameterSets_snapshot (show Good ⟨[], 0⟩ by decide) ownerWrites (by decide)
    (fun p ↦ [p]) 1 7 ["by_owner[u1]"]⟩

example : getParameterSets (fun p ↦ [p]) 1 ((⟨[], 0⟩ : ParameterStore).run ownerWrites).rows 7
    ["by_owner[u1]"] = ["[]"] := by decide

theorem getParameterSets_stable {checkpoint : Nat} (hc : checkpoint ≤ s.op_id)
    (ws : List ParameterWrite) (hf : Fresh s ws) {α : Type} (parse : String → List α)
    (group_id : Nat) (lookups : List String) :
    getParameterSets parse group_id (s.run ws).rows checkpoint lookups =
      getParameterSets parse group_id s.rows checkpoint lookups := by
  obtain ⟨added, hrows, hadded⟩ := run_rows hf
  have hnone : (added.filter fun r ↦ r.group_id = group_id ∧ r.lookup ∈ lookups ∧
      r.id ≤ checkpoint) = [] :=
    List.filter_eq_nil_iff.2 fun r hr h ↦ by
      have := (of_decide_eq_true h).2.2
      have := hadded r hr
      omega
  rw [hrows, getParameterSets, getParameterSets, List.filter_append, hnone, List.append_nil]

theorem getParameterSets_stable_owners :
    Fresh ((⟨[], 0⟩ : ParameterStore).run (ownerWrites.take 1)) (ownerWrites.drop 1) ∧
      getParameterSets (fun p ↦ [p]) 1 ((⟨[], 0⟩ : ParameterStore).run ownerWrites).rows 1
          ["by_owner[u1]"] =
        getParameterSets (fun p ↦ [p]) 1
          ((⟨[], 0⟩ : ParameterStore).run (ownerWrites.take 1)).rows 1 ["by_owner[u1]"] := by
  refine ⟨by decide, ?_⟩
  rw [show ownerWrites = ownerWrites.take 1 ++ ownerWrites.drop 1 from rfl, run, List.foldl_append,
    ← run, ← run]
  exact getParameterSets_stable (show 1 ≤ ((⟨[], 0⟩ : ParameterStore).run (ownerWrites.take 1)).op_id
    by decide) _ (by decide) _ 1 _

/-- A write under an id the store has already taken is not fresh, and it would change the
read at a checkpoint the store has reached: list `l2` appears at checkpoint `7`. -/
example : ¬Fresh ((⟨[], 0⟩ : ParameterStore).run ownerWrites)
      [⟨1, 0, .saveParameterData (.str "l2") listsTable [⟨"by_owner[u1]", "[2]"⟩] []⟩] ∧
    getParameterSets (fun p ↦ [p]) 1 (((⟨[], 0⟩ : ParameterStore).run ownerWrites).run
      [⟨1, 0, .saveParameterData (.str "l2") listsTable [⟨"by_owner[u1]", "[2]"⟩] []⟩]).rows 7
      ["by_owner[u1]"] = ["[]", "[2]"] := by decide

end ParameterStore

end PowerSync
