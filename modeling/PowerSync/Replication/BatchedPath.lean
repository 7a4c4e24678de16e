import PowerSync.Replication.LookupTracking

/-!
# The batched path agrees with the plain path

`MongoBucketBatch.replicateBatch` does not read `current_data` once per record.  For each
sub-batch it loads the documents of the sub-batch's before keys into `current_data_lookup`;
a record deletes its entry once it has read it, and the document `saveOperation` returns is
put back at the record's after key.  The transaction may stop after any record, and the next
one starts again from `current_data`.

The reference is the plain path, `savePlain`: `saveOperation` on each record in turn, against
the `current_data` the records before it left.  `repeated_insert_requests_differ` shows that
the two differ under `skipExistingRows`.

## What is proved

* `saveBatched_eq_savePlain`: without `skipExistingRows`, the batched path issues exactly the
  requests of the plain path, for every batch, every cut into sub-batches and every point at
  which a transaction is flushed.  The hypothesis is that no document of `current_data` sits
  at a replica id that is not truthy (`TruthyKeys`), which holds of every state the plain
  path reaches from one where it holds (`truthyKeys_savePlain`): `saveOperation` writes no
  such document.  Without it the paths differ (the example at the end).
* `WriterCall.run_flush`: the same holds of `save`, which pushes a record onto the batch and
  flushes when `OperationBatch.shouldFlush` says so.  Any sequence of `save` and `flush` calls
  that ends in a flush issues the requests of the plain path over the records pushed, those of
  tables that sync data or parameters, and leaves no batch.

The proof keeps one invariant over the loop of `replicateOps` (`CacheAgrees`): at the before
keys of the records still to come, `current_data_lookup` holds what `current_data` holds
after the records so far.  `cacheAgrees_saveRecord` is its step, `cacheAgrees_loadLookup`
its start.  What a record does to `current_data` is said once, by
`foldl_applyRequest_saveRecord`: it sets the document it returns, then deletes the old one
if the id changed.
-/

namespace PowerSync

open LookupTracking

/-! ## What a record does to `current_data` -/

section Record

variable {o : BatchOptions} {op : RecordOperation} {doc : Option CurrentDataDocument}

theorem applyRequest_saveBucketData (db : CurrentDataStore) (sk : ReplicaId) (t : SourceTable)
    (b : List CurrentBucket) (e : List EvaluatedRow) : applyRequest db (.saveBucketData sk t b e) = db :=
  rfl

theorem applyRequest_saveParameterData (db : CurrentDataStore) (sk : ReplicaId) (t : SourceTable)
    (e : List EvaluatedParameters) (l : List String) :
    applyRequest db (.saveParameterData sk t e l) = db :=
  rfl

theorem applyRequest_deleteCurrentData (db : CurrentDataStore) (key : SourceKey) :
    applyRequest db (.deleteCurrentData key) = db.delete key :=
  rfl

theorem foldl_applyRequest_ite {c : Prop} [Decidable c] (db : CurrentDataStore) (r : BatchRequest) :
    (if c then [r] else []).foldl applyRequest db = if c then applyRequest db r else db := by
  split <;> rfl

/-- The requests of a record set the document it returns, then delete the old one if the id
changed; its bucket and parameter requests leave `current_data` alone. -/
theorem foldl_applyRequest_saveRecord (db : CurrentDataStore) :
    (saveRecord o op doc).requests.foldl applyRequest db =
      let db' := ((saveRecord o op doc).result.map fun d ↦ db.set d._id d).getD db
      if idChanged op then db'.delete (beforeKey o op) else db' := by
  unfold saveRecord idChanged beforeKey
  dsimp only
  generalize op.afterId = A
  generalize (previousState o op.record doc).2.2.1.map (serializeAfter o) = S
  rcases A with _ | id <;> rcases S with _ | ⟨row, data⟩ <;>
    simp only [Option.map_some', Option.map_none', List.foldl_nil, Option.getD_none,
      apply_ite (f := Prod.fst), List.foldl_append, foldl_applyRequest_ite,
      applyRequest_saveBucketData, applyRequest_saveParameterData, ite_self,
      apply_ite (f := fun l ↦ List.foldl applyRequest db l), List.foldl_cons,
      applyRequest_deleteCurrentData]
  -- what is left is the upsert, under the id's truthiness
  cases id.truthy <;> rfl

theorem get?_foldl_saveRecord (db : CurrentDataStore) (key : SourceKey) :
    ((saveRecord o op doc).requests.foldl applyRequest db).get? key =
      if idChanged op ∧ beforeKey o op = key then none
      else ((saveRecord o op doc).result.filter (·._id = key)).or (db.get? key) := by
  rw [foldl_applyRequest_saveRecord]
  dsimp only
  rcases (saveRecord o op doc).result with _ | d
  · by_cases hc : idChanged op <;> by_cases hk : beforeKey o op = key <;> simp [hc, hk]
  · by_cases hc : idChanged op <;> by_cases hk : beforeKey o op = key <;>
      by_cases hd : d._id = key <;> simp [hc, hk, hd, Option.filter]

/-- A returned document is keyed by the record's after id, which is truthy. -/
theorem result_saveRecord_eq_some {d : CurrentDataDocument} (h : (saveRecord o op doc).result = some d) :
    ∃ id, op.afterId = some id ∧ id.truthy ∧ d._id = ⟨o.group_id, op.record.sourceTable.id, id⟩ := by
  unfold saveRecord at h
  dsimp only at h
  generalize op.afterId = A at h ⊢
  generalize (previousState o op.record doc).2.2.1.map (serializeAfter o) = S at h
  rcases A with _ | id <;> rcases S with _ | ⟨row, data⟩ <;>
    simp only [Option.map_some', Option.map_none'] at h <;> try cases h
  by_cases ht : id.truthy = true
  · rw [if_pos ht] at h
    cases h
    exact ⟨id, rfl, ht, rfl⟩
  · rw [if_neg ht] at h
    cases h

/-- A record with an after id returns no document only when the id is not truthy. -/
theorem truthy_of_result_saveRecord_eq_none {id : ReplicaId} (h : (saveRecord o op doc).result = none)
    (hid : op.afterId = some id) : id.truthy = false := by
  obtain ⟨row, hrow⟩ : ∃ row, savedRow o op doc = some row := exists_savedRow hid
  unfold savedRow at hrow
  unfold saveRecord at h
  dsimp only at h
  rw [hid] at h
  generalize (previousState o op.record doc).2.2.1.map (serializeAfter o) = S at h hrow
  rcases S with _ | ⟨row', data⟩
  · cases hrow
  · simp only [Option.map_some'] at h
    by_cases ht : id.truthy = true
    · rw [if_pos ht] at h
      cases h
    · exact Bool.eq_false_iff.2 ht

theorem afterId_of_not_idChanged (h : idChanged op = false) : op.afterId = some op.beforeId := by
  unfold idChanged at h
  split at h
  · cases h
  · next id hid =>
    have : op.beforeId = id := by simpa [replicaIdEquals] using h
    rw [hid, this]

theorem saveOperation_of_skipExistingRows (hskip : o.skipExistingRows = false) :
    saveOperation o op doc = .ok (saveRecord o op doc) := by
  simp [saveOperation, hskip]

end Record

/-! ## The cache and `current_data` -/

section Cache

variable {o : BatchOptions} {op : RecordOperation} {doc : Option CurrentDataDocument}

/-- Every document of `current_data` is at a truthy replica id, as `saveOperation` writes
them. -/
def TruthyKeys (db : CurrentDataStore) : Prop := ∀ key d, db.get? key = some d → key.k.truthy

/-- `current_data_lookup` agrees with `current_data` at the cache keys given. -/
def CacheAgrees (g : Nat) (lookup : JsMap (String × ReplicaId) CurrentDataDocument)
    (db : CurrentDataStore) (keys : List (String × ReplicaId)) : Prop :=
  ∀ k ∈ keys, lookup.get? k = db.get? ⟨g, k.1, k.2⟩

theorem truthyKeys_saveRecord {db : CurrentDataStore} (ht : TruthyKeys db) :
    TruthyKeys ((saveRecord o op doc).requests.foldl applyRequest db) := by
  intro key d h
  rw [get?_foldl_saveRecord] at h
  split at h
  · cases h
  · rcases hres : (saveRecord o op doc).result with _ | d'
    · rw [hres] at h
      exact ht key d h
    · obtain ⟨id, -, htr, hd⟩ := result_saveRecord_eq_some hres
      by_cases hk : d'._id = key
      · rw [← hk, hd]
        exact htr
      · simp only [hres, Option.filter, hk, decide_False, Option.none_or] at h
        exact ht key d h

theorem beforeKey_eq_iff (k : String × ReplicaId) :
    beforeKey o op = ⟨o.group_id, k.1, k.2⟩ ↔ k = op.internalBeforeKey := by
  obtain ⟨t, k⟩ := k
  simp only [beforeKey, RecordOperation.internalBeforeKey, cacheKey, SourceKey.mk.injEq, true_and,
    Prod.mk.injEq]
  exact ⟨fun ⟨h₁, h₂⟩ ↦ ⟨h₁.symm, h₂.symm⟩, fun ⟨h₁, h₂⟩ ↦ ⟨h₁.symm, h₂.symm⟩⟩

/-- The step of the invariant: after a record, the cache without the record's entry and with
its result at the after key agrees with `current_data` after the record's requests, at every
key where the cache agreed before. -/
theorem cacheAgrees_saveRecord {lookup l' : JsMap (String × ReplicaId) CurrentDataDocument}
    {db : CurrentDataStore} {keys : List (String × ReplicaId)}
    (ha : CacheAgrees o.group_id lookup db keys) (ht : TruthyKeys db)
    (hl' : ∀ k, l'.get? k = (if op.internalAfterKey = some k then
        (saveRecord o op (lookup.get? op.internalBeforeKey)).result else none).or
        (if k = op.internalBeforeKey then none else lookup.get? k)) :
    CacheAgrees o.group_id l'
      ((saveRecord o op (lookup.get? op.internalBeforeKey)).requests.foldl applyRequest db) keys := by
  intro k hk
  rw [hl', get?_foldl_saveRecord]
  simp only [beforeKey_eq_iff]
  rcases hres : (saveRecord o op (lookup.get? op.internalBeforeKey)).result with _ | d
  · simp only [ite_self, Option.none_or, Option.filter_none]
    by_cases hkK : k = op.internalBeforeKey
    · subst hkK
      cases hc : idChanged op
      · have hA := afterId_of_not_idChanged hc
        have hf := truthy_of_result_saveRecord_eq_none hres hA
        cases hb : db.get? ⟨o.group_id, op.internalBeforeKey.1, op.internalBeforeKey.2⟩ with
        | none => simp
        | some d => exact absurd (ht _ _ hb) (by simpa [RecordOperation.internalBeforeKey, cacheKey] using hf)
      · simp
    · simp only [hkK, and_false, if_false]
      exact ha k hk
  · obtain ⟨id, hA, -, hd⟩ := result_saveRecord_eq_some hres
    have hak : op.internalAfterKey = some (op.record.sourceTable.id, id) := by
      simp [RecordOperation.internalAfterKey, hA, cacheKey]
    have hchg := idChanged_iff hA
    by_cases hka : (op.record.sourceTable.id, id) = k
    · subst hka
      have hbk : op.internalBeforeKey = (op.record.sourceTable.id, id) ↔ op.beforeId = id := by
        simp [RecordOperation.internalBeforeKey, cacheKey]
      simp only [hak, if_true, Option.filter, hd, decide_True]
      have hn : ¬(idChanged op = true ∧ (op.record.sourceTable.id, id) = op.internalBeforeKey) :=
        fun ⟨h₁, h₂⟩ ↦ hchg.1 h₁ (hbk.1 h₂.symm)
      rw [if_neg hn]
      rfl
    · have hnd : d._id ≠ ⟨o.group_id, k.1, k.2⟩ := fun h ↦ by
        rw [hd, SourceKey.mk.injEq] at h
        exact hka (Prod.ext h.2.1 h.2.2)
      simp only [hak, Option.some.injEq, hka, if_false, Option.none_or, Option.filter, hnd,
        decide_False]
      by_cases hkK : k = op.internalBeforeKey
      · subst hkK
        have hc : idChanged op = true := hchg.2 fun h ↦ hka (by simp [RecordOperation.internalBeforeKey,
          cacheKey, h])
        simp [hc]
      · simp only [hkK, if_false, and_false, Option.none_or]
        exact ha k hk

/-- `current_data_lookup` as loaded holds the documents of the sub-batch's before keys. -/
theorem cacheAgrees_loadLookup (db : CurrentDataStore) (ops : List RecordOperation) :
    CacheAgrees o.group_id (loadLookup o.group_id db ops) db
      (ops.map RecordOperation.internalBeforeKey) := by
  suffices ∀ (m : JsMap (String × ReplicaId) CurrentDataDocument) (ks : List (String × ReplicaId)),
      (∀ k d, m.get? k = some d → db.get? ⟨o.group_id, k.1, k.2⟩ = some d) →
      CacheAgrees o.group_id m db ks →
      CacheAgrees o.group_id (ops.foldl (fun m op ↦
        match db.get? ⟨o.group_id, op.record.sourceTable.id, op.beforeId⟩ with
        | some doc => m.set op.internalBeforeKey doc
        | none => m) m) db (ks ++ ops.map RecordOperation.internalBeforeKey) from
    this _ [] (fun _ _ h ↦ by cases h) (fun _ h ↦ by cases h)
  induction ops with
  | nil => exact fun m ks _ ha ↦ by simpa using ha
  | cons op ops ih =>
    intro m ks hsound ha
    rw [List.foldl_cons, List.map_cons, ← List.singleton_append, ← List.append_assoc]
    have hK : ∀ k, k = op.internalBeforeKey →
        (⟨o.group_id, k.1, k.2⟩ : SourceKey) = ⟨o.group_id, op.record.sourceTable.id, op.beforeId⟩ :=
      fun k hk ↦ by simp [hk, RecordOperation.internalBeforeKey, cacheKey]
    cases hd : db.get? ⟨o.group_id, op.record.sourceTable.id, op.beforeId⟩ with
    | none =>
      refine ih m _ hsound fun k hk ↦ ?_
      rcases List.mem_append.1 hk with hk | hk
      · exact ha k hk
      · obtain rfl := List.mem_singleton.1 hk
        rw [hK _ rfl, hd]
        cases hm : m.get? op.internalBeforeKey with
        | none => rfl
        | some d => simpa [hK _ rfl, hd] using hsound _ _ hm
    | some doc =>
      refine ih _ _ (fun k d h ↦ ?_) fun k hk ↦ ?_
      · rw [JsMap.get?_set] at h
        split at h
        · next he =>
          cases h
          rw [hK k he.symm, hd]
        · exact hsound k d h
      · rw [JsMap.get?_set]
        split
        · next he => rw [hK k he.symm, hd]
        · next he =>
          rcases List.mem_append.1 hk with hk | hk
          · exact ha k hk
          · exact absurd (List.mem_singleton.1 hk).symm he

end Cache

/-! ## The two paths -/

section Paths

variable {o : BatchOptions} {op : RecordOperation} (bt : Batching) (sft : List BatchRequest → Bool)

/-- The requests of the plain path, and the records it covers: all of them, or a non-empty
prefix when the rest is left for the next transaction. -/
def PlainPrefix (o : BatchOptions) (db : CurrentDataStore) (ops : List RecordOperation)
    (reqs : List BatchRequest) : Option (List RecordOperation) → Prop
  | none => savePlain o db ops = .ok reqs
  | some rest => ∃ pre, pre ≠ [] ∧ ops = pre ++ rest ∧ savePlain o db pre = .ok reqs

theorem savePlain_cons_of_skipExistingRows (hskip : o.skipExistingRows = false)
    (op : RecordOperation) (db : CurrentDataStore) (ops : List RecordOperation) :
    savePlain o db (op :: ops) =
      (savePlain o ((saveRecord o op (db.get? (beforeKey o op))).requests.foldl applyRequest db)
        ops).map ((saveRecord o op (db.get? (beforeKey o op))).requests ++ ·) := by
  simp only [savePlain, saveOperation_of_skipExistingRows hskip]
  rfl

theorem savePlain_append {db : CurrentDataStore} {xs : List RecordOperation} {P : List BatchRequest}
    (h : savePlain o db xs = .ok P) (ys : List RecordOperation) :
    savePlain o db (xs ++ ys) = (savePlain o (P.foldl applyRequest db) ys).map (P ++ ·) := by
  induction xs generalizing db P with
  | nil =>
    cases h
    simp only [List.nil_append, List.foldl_nil]
    cases savePlain o db ys <;> rfl
  | cons op xs ih =>
    obtain ⟨out, rest, hout, hrest, rfl⟩ := savePlain_cons_eq_ok o h
    have hcons : savePlain o db (op :: (xs ++ ys)) =
        (savePlain o (out.requests.foldl applyRequest db) (xs ++ ys)).map (out.requests ++ ·) := by
      simp only [savePlain, hout]
    rw [List.cons_append, hcons, ih hrest, List.foldl_append]
    cases savePlain o (rest.foldl applyRequest (out.requests.foldl applyRequest db)) ys <;>
      simp [Except.map]

theorem savePlain_append_of_error {db : CurrentDataStore} {xs : List RecordOperation} {e : String}
    (h : savePlain o db xs = .error e) (ys : List RecordOperation) :
    savePlain o db (xs ++ ys) = .error e := by
  induction xs generalizing db with
  | nil => cases h
  | cons op xs ih =>
    rw [List.cons_append]
    simp only [savePlain] at h ⊢
    cases hs : saveOperation o op (db.get? ⟨o.group_id, op.record.sourceTable.id, op.beforeId⟩) with
    | error e' => rw [hs] at h; exact h
    | ok out =>
      rw [hs] at h
      dsimp only at h ⊢
      cases hr : savePlain o (out.requests.foldl applyRequest db) xs with
      | error e' =>
        rw [hr] at h
        obtain rfl : e' = e := by injection h
        rw [ih hr]
        rfl
      | ok _ => rw [hr] at h; cases h

theorem truthyKeys_savePlain (hskip : o.skipExistingRows = false) {db : CurrentDataStore}
    {ops : List RecordOperation} {P : List BatchRequest} (h : savePlain o db ops = .ok P)
    (ht : TruthyKeys db) : TruthyKeys (P.foldl applyRequest db) := by
  induction ops generalizing db P with
  | nil =>
    cases h
    exact ht
  | cons op ops ih =>
    obtain ⟨out, rest, hout, hrest, rfl⟩ := savePlain_cons_eq_ok o h
    rw [saveOperation_of_skipExistingRows hskip] at hout
    cases hout
    rw [List.foldl_append]
    exact ih hrest (truthyKeys_saveRecord ht)

/-- One record of the batched loop: `current_data_lookup` loses the record's entry and gets
its result at the after key. -/
theorem replicateOps_cons (hskip : o.skipExistingRows = false) (op : RecordOperation)
    (lookup : JsMap (String × ReplicaId) CurrentDataDocument) (issued : List BatchRequest)
    (ops : List RecordOperation) :
    ∃ l' : JsMap (String × ReplicaId) CurrentDataDocument,
      (∀ k, l'.get? k = (if op.internalAfterKey = some k then
        (saveRecord o op (lookup.get? op.internalBeforeKey)).result else none).or
        (if k = op.internalBeforeKey then none else lookup.get? k)) ∧
      replicateOps o sft lookup issued (op :: ops) =
        let issued := issued ++ (saveRecord o op (lookup.get? op.internalBeforeKey)).requests
        if sft issued then .ok (issued, some ops) else replicateOps o sft l' issued ops := by
  have hdel : ∀ k, (if (lookup.get? op.internalBeforeKey).isSome then
      lookup.delete op.internalBeforeKey else lookup).get? k =
      if k = op.internalBeforeKey then none else lookup.get? k := fun k ↦ by
    split
    · simp [eq_comm]
    · next hn =>
      split
      · next h => rw [h]; simpa using hn
      · rfl
  simp only [replicateOps, saveOperation_of_skipExistingRows hskip]
  rcases (saveRecord o op (lookup.get? op.internalBeforeKey)).result with _ | d <;>
    rcases op.internalAfterKey with _ | ak
  · exact ⟨_, fun k ↦ by simpa using hdel k, rfl⟩
  · exact ⟨_, fun k ↦ by simpa using hdel k, rfl⟩
  · exact ⟨_, fun k ↦ by simpa using hdel k, rfl⟩
  · refine ⟨_, fun k ↦ ?_, rfl⟩
    rw [JsMap.get?_set, hdel]
    by_cases h : ak = k <;> simp [h]

theorem replicateOps_plain (hskip : o.skipExistingRows = false) (ops : List RecordOperation) :
    ∀ (lookup : JsMap (String × ReplicaId) CurrentDataDocument) (db : CurrentDataStore)
      (issued : List BatchRequest),
      CacheAgrees o.group_id lookup db (ops.map RecordOperation.internalBeforeKey) → TruthyKeys db →
      ∃ reqs r, replicateOps o sft lookup issued ops = .ok (issued ++ reqs, r) ∧
        PlainPrefix o db ops reqs r := by
  induction ops with
  | nil => exact fun _ _ issued _ _ ↦ ⟨[], none, by simp [replicateOps], rfl⟩
  | cons op ops ih =>
    intro lookup db issued ha ht
    have hK : lookup.get? op.internalBeforeKey = db.get? (beforeKey o op) :=
      ha _ (List.mem_cons_self _ _)
    obtain ⟨l', hl', hrep⟩ := replicateOps_cons sft hskip op lookup issued ops
    have hplain := savePlain_cons_of_skipExistingRows hskip op db ops
    rw [← hK] at hplain
    have ha' := cacheAgrees_saveRecord (fun k hk ↦ ha k (List.mem_cons_of_mem _ hk)) ht hl'
    have ht' : TruthyKeys ((saveRecord o op (lookup.get? op.internalBeforeKey)).requests.foldl
        applyRequest db) := truthyKeys_saveRecord ht
    rw [hrep]
    dsimp only
    split
    · refine ⟨_, some ops, rfl, [op], List.cons_ne_nil _ _, rfl, ?_⟩
      rw [savePlain_cons_of_skipExistingRows hskip, ← hK]
      simp [savePlain, Except.map]
    · obtain ⟨reqs, r, h, hp⟩ := ih l' _ _ ha' ht'
      refine ⟨(saveRecord o op (lookup.get? op.internalBeforeKey)).requests ++ reqs, r,
        by rw [h, List.append_assoc], ?_⟩
      cases r with
      | none => rw [PlainPrefix, hplain, show savePlain _ _ _ = _ from hp]; rfl
      | some rest =>
        obtain ⟨pre, hne, rfl, hpre⟩ := hp
        refine ⟨op :: pre, List.cons_ne_nil _ _, rfl, ?_⟩
        rw [savePlain_cons_of_skipExistingRows hskip, ← hK, hpre]
        rfl

theorem replicateBatches_plain (hskip : o.skipExistingRows = false) {db : CurrentDataStore}
    (ht : TruthyKeys db) (bs : List (List RecordOperation)) :
    ∀ (done : List RecordOperation) (issued : List BatchRequest),
      savePlain o db done = .ok issued →
      ∃ reqs r, replicateBatches o sft db issued bs = .ok (reqs, r) ∧
        PlainPrefix o db (done ++ bs.flatten) reqs r := by
  induction bs with
  | nil => exact fun done issued h ↦ ⟨issued, none, rfl, by simpa [PlainPrefix] using h⟩
  | cons b bs ih =>
    intro done issued h
    obtain ⟨reqs, r, hops, hp⟩ := replicateOps_plain sft hskip b _ _ issued
      (cacheAgrees_loadLookup _ b) (truthyKeys_savePlain hskip h ht)
    have happ := savePlain_append h
    simp only [replicateBatches, hops]
    cases r with
    | none =>
      have hdone : savePlain o db (done ++ b) = .ok (issued ++ reqs) := by
        rw [happ, show savePlain _ _ _ = _ from hp]
        rfl
      rw [List.flatten_cons, ← List.append_assoc]
      exact ih (done ++ b) _ hdone
    | some rest =>
      obtain ⟨pre, hne, rfl, hpre⟩ := hp
      refine ⟨_, _, rfl, done ++ pre, List.append_ne_nil_of_right_ne_nil done hne,
        by simp only [List.flatten_cons, List.append_assoc], ?_⟩
      rw [happ, hpre]
      rfl

theorem replicateBatch_plain (hskip : o.skipExistingRows = false) {db : CurrentDataStore}
    (ht : TruthyKeys db) (batch : List RecordOperation) :
    ∃ reqs r, replicateBatch o bt sft db batch = .ok (reqs, r) ∧ PlainPrefix o db batch reqs r := by
  obtain ⟨reqs, r, h, hp⟩ := replicateBatches_plain sft hskip ht (bt.batched batch) [] [] rfl
  rw [List.nil_append, bt.flatten_batched] at hp
  refine ⟨reqs, r.filter (· ≠ []), by simp [replicateBatch, h, Except.map], ?_⟩
  cases r with
  | none => exact hp
  | some rest =>
    obtain ⟨pre, hne, rfl, hpre⟩ := hp
    by_cases hr : rest = []
    · subst hr
      simpa [PlainPrefix] using hpre
    · have hf : (some rest).filter (· ≠ []) = some rest := by simp [Option.filter, hr]
      rw [hf]
      exact ⟨pre, hne, rfl, hpre⟩

theorem flushBatches_eq_savePlain (hskip : o.skipExistingRows = false) (fuel : Nat) :
    ∀ {db : CurrentDataStore} {batch : List RecordOperation}, batch.length < fuel →
      TruthyKeys db → flushBatches o bt sft db fuel batch = savePlain o db batch := by
  induction fuel with
  | zero => exact fun h ↦ absurd h (Nat.not_lt_zero _)
  | succ fuel ih =>
    intro db batch hlen ht
    obtain ⟨reqs, r, h, hp⟩ := replicateBatch_plain bt sft hskip ht batch
    rw [flushBatches, h]
    cases r with
    | none => exact hp.symm
    | some rest =>
      obtain ⟨pre, hne, rfl, hpre⟩ := hp
      have hlt : rest.length < fuel := by
        have := List.length_pos.2 hne
        simp only [List.length_append] at hlen
        omega
      dsimp only
      rw [savePlain_append hpre, ih hlt (truthyKeys_savePlain hskip hpre ht)]

theorem saveBatched_eq_savePlain (hskip : o.skipExistingRows = false) {db : CurrentDataStore}
    (ht : TruthyKeys db) (batch : List RecordOperation) :
    saveBatched o bt sft db batch = savePlain o db batch :=
  flushBatches_eq_savePlain bt sft hskip _ (Nat.lt_succ_self _) ht

theorem saveBatched_eq_savePlain_owners :
    saveBatched ownerOptions oneSubBatch (fun issued ↦ 4 ≤ issued.length) JsMap.empty ownerOps =
      savePlain ownerOptions JsMap.empty ownerOps :=
  saveBatched_eq_savePlain _ _ rfl (fun _ _ h ↦ by cases h) _

end Paths

/-! ## Saving and flushing -/

/-- A call of the batch writer that reaches `current_data`: `save` of a record, or the
`flush` that `commit`, `truncate` and `drop` start with. -/
inductive WriterCall where
  | save (record : RecordOperation)
  | flush
deriving DecidableEq, Repr

namespace WriterCall

section Run

variable (o : BatchOptions) (bt : Batching) (sft : List BatchRequest → Bool)
  (shouldFlush : List RecordOperation → Bool)

/-- One call: the requests it issues and the batch it leaves. -/
def apply (db : CurrentDataStore) (batch : List RecordOperation) :
    WriterCall → Except String (List BatchRequest × List RecordOperation)
  | .save record => PowerSync.save o bt sft shouldFlush db batch record
  | .flush => (saveBatched o bt sft db batch).map (·, [])

/-- A run of calls, each against the documents the calls before it left. -/
def run (db : CurrentDataStore) (batch : List RecordOperation) :
    List WriterCall → Except String (List BatchRequest × List RecordOperation)
  | [] => .ok ([], batch)
  | c :: cs =>
      match apply o bt sft shouldFlush db batch c with
      | .error e => .error e
      | .ok (reqs, batch) =>
          (run (reqs.foldl applyRequest db) batch cs).map fun r ↦ (reqs ++ r.1, r.2)

end Run

/-- The records the calls push onto the batch: those of tables that sync data or
parameters. -/
def pushed : List WriterCall → List RecordOperation
  | [] => []
  | .save r :: cs =>
      (if r.record.sourceTable.syncData || r.record.sourceTable.syncParameters then [r] else []) ++
        pushed cs
  | .flush :: cs => pushed cs

theorem pushed_cons (c : WriterCall) (cs : List WriterCall) :
    pushed (c :: cs) = pushed [c] ++ pushed cs := by
  cases c <;> simp [pushed]

variable {o : BatchOptions} (bt : Batching) (sft : List BatchRequest → Bool)
  (shouldFlush : List RecordOperation → Bool)

theorem apply_eq (hskip : o.skipExistingRows = false) {db : CurrentDataStore} (ht : TruthyKeys db)
    (batch : List RecordOperation) (c : WriterCall) :
    apply o bt sft shouldFlush db batch c = .ok ([], batch ++ pushed [c]) ∨
      apply o bt sft shouldFlush db batch c = (savePlain o db (batch ++ pushed [c])).map (·, []) := by
  cases c with
  | flush =>
    right
    simp only [apply, saveBatched, flushBatches_eq_savePlain bt sft hskip _ (Nat.lt_succ_self _) ht,
      pushed, List.append_nil]
  | save r =>
    simp only [apply, PowerSync.save, pushed, List.append_nil]
    by_cases hs : r.record.sourceTable.syncData || r.record.sourceTable.syncParameters
    · have hn : (!r.record.sourceTable.syncData && !r.record.sourceTable.syncParameters) = false := by
        rw [← Bool.not_or, hs]; rfl
      simp only [hn, hs, if_true, Bool.false_eq_true, if_false]
      split
      · right; rw [saveBatched, flushBatches_eq_savePlain bt sft hskip _ (Nat.lt_succ_self _) ht]
      · left; rfl
    · have hn : (!r.record.sourceTable.syncData && !r.record.sourceTable.syncParameters) = true := by
        rw [← Bool.not_or, Bool.eq_false_iff.2 hs]; rfl
      simp [hn, hs]

theorem run_flush (hskip : o.skipExistingRows = false) (cs : List WriterCall) :
    ∀ {db : CurrentDataStore} (batch : List RecordOperation), TruthyKeys db →
      run o bt sft shouldFlush db batch (cs ++ [.flush]) =
        (savePlain o db (batch ++ pushed cs)).map (·, []) := by
  induction cs with
  | nil =>
    intro db batch ht
    simp only [List.nil_append, run, apply, saveBatched,
      flushBatches_eq_savePlain bt sft hskip _ (Nat.lt_succ_self _) ht, pushed, List.append_nil]
    cases savePlain o db batch <;> simp [Except.map]
  | cons c cs ih =>
    intro db batch ht
    rw [List.cons_append, pushed_cons, ← List.append_assoc]
    rcases apply_eq bt sft shouldFlush hskip ht batch c with h | h
    · simp only [run, h, List.foldl_nil, ih _ ht]
      cases savePlain o db (batch ++ pushed [c] ++ pushed cs) <;> rfl
    · cases hp : savePlain o db (batch ++ pushed [c]) with
      | error e => simp only [run, h, hp, savePlain_append_of_error hp]; rfl
      | ok P =>
        have h' : apply o bt sft shouldFlush db batch c = .ok (P, []) := by rw [h, hp]; rfl
        simp only [run, h', savePlain_append hp, ih _ (truthyKeys_savePlain hskip hp ht),
          List.nil_append]
        cases savePlain o (P.foldl applyRequest db) (pushed cs) <;> rfl

/-- A table of events: it syncs neither data nor parameters. -/
def eventsTable : SourceTable := ⟨"events", false, false⟩

/-- The records of `ownerOps` saved one at a time, with an event after the first and a flush
after the event. -/
def ownerCalls : List WriterCall :=
  (ownerOps.take 1).map save ++ [.save ⟨.insert eventsTable (listRow "u1" "") (.str "e1")⟩, .flush] ++
    (ownerOps.drop 1).map save

theorem run_flush_owners :
    run ownerOptions oneSubBatch (fun issued ↦ 4 ≤ issued.length) (fun batch ↦ 2 ≤ batch.length)
        JsMap.empty [] (ownerCalls ++ [.flush]) =
      (savePlain ownerOptions JsMap.empty ([] ++ pushed ownerCalls)).map (·, []) :=
  run_flush (o := ownerOptions) _ _ _ rfl ownerCalls [] fun _ _ h ↦ by cases h

/-- The event is not pushed: the run saves exactly the records of `ownerOps`. -/
example : pushed ownerCalls = ownerOps := by decide

end WriterCall

/-! ## A document at a falsy id -/

/-- `current_data` with a document for row `0` of the items table, in bucket `b`. -/
def falsyStore : CurrentDataStore :=
  JsMap.empty.set ⟨1, "items", .num 0⟩ ⟨⟨1, "items", .num 0⟩, zeroIdRow, [⟨"b", "items", "0"⟩], []⟩

/-- Row `0` is updated in place, then moved to id `5`. -/
def falsyOps : List RecordOperation :=
  [⟨.update itemsTable none zeroIdRow (.num 0)⟩, ⟨.update itemsTable (some (.num 0)) zeroIdRow (.num 5)⟩]

/-- The update in place deletes row `0` from the cache and puts nothing back, while
`current_data` keeps its document: the move then removes the row from bucket `b` on the plain
path only. -/
example : (saveBatched storingOptions oneSubBatch (fun _ ↦ false) falsyStore falsyOps).toOption ≠
    (savePlain storingOptions falsyStore falsyOps).toOption := by
  decide

end PowerSync
