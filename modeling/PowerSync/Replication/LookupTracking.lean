import PowerSync.Replication.ReplicateBatch
import PowerSync.Storage.ParameterSets
import PowerSync.Replication.Truncate

/-!
# Parameter lookups follow `current_data`

A source row's parameter lookups are kept in two places: its `current_data` document lists
them, and `bucket_parameters` holds a row for each.  `saveOperation` keeps the two together.
It writes rows for the lookups the row has now, and removal rows for the lookups its document
listed and the row no longer has.  Removal is driven by the document alone.  So a lookup that
`bucket_parameters` still serves and the document does not list is never removed.

The writes are `MongoBucketBatch`'s.  What the table serves is what
`PostgresSyncRulesStorage.getParameterSets` reads from it (`ParameterSets`), the one read of
`bucket_parameters` in the sources.  No deployment runs the two backends together; the model
runs both over one table.

## What is proved

* `LookupTracking.run_tracked`: over any sequence of records replicated one after another,
  every lookup of a source row that still gives parameter sets is listed in the row's
  `current_data` document.  Each record must save a complete row, an insert or a change of
  id must not land on an existing document, and a table without parameter queries must have
  no lookups in its documents.
* The completeness condition is needed.  A row over `MAX_ROW_SIZE` is saved blanked, as
  incomplete: its document's lookups are cleared while its parameter rows are kept, and no
  later record removes them, not even a delete (the example after the theorem).
* `LookupTracking.truncate_tracked`: `truncateSingle` keeps the lookups tracked, and
  afterwards no row of the truncated table gives parameter sets, when no replica id of the
  table is `MaxKey`.  With `run_tracked`, the lookups stay tracked over any run of saves and
  truncates.
-/

namespace PowerSync

namespace LookupTracking

/-! ## The two collections -/

/-- The lookups the document at a key lists, `[]` without a document. -/
def docLookups (db : CurrentDataStore) (key : SourceKey) : List String :=
  ((db.get? key).map (·.lookups)).getD []

/-- A lookup of a source row gives parameter sets: its latest row in `bucket_parameters` is
not a removal. -/
def Live (m : JsMap (Nat × String × String × ReplicaId) String) (key : SourceKey)
    (lookup : String) : Prop :=
  ∃ p, m.get? (key.g, lookup, key.t, key.k) = some p ∧ p ≠ "[]"

/-- The requests of a batch, applied to `bucket_parameters` under the next op ids. -/
def applyParameters (group_id : Nat) (s : ParameterStore) (req : BatchRequest) :
    ParameterStore :=
  s.step ⟨group_id, s.op_id, req⟩

/-- Whether a request writes the document at `key`. -/
def touches (key : SourceKey) : BatchRequest → Bool
  | .upsertCurrentData k .. => k = key
  | .deleteCurrentData k => k = key
  | _ => false

/-- The lookups a request leaves in the document it writes. -/
def lookupsAfter : BatchRequest → List String
  | .upsertCurrentData _ _ _ lookups => lookups
  | _ => []

section Collections

variable {key : SourceKey} {lookup : String}

theorem docLookups_applyRequest (db : CurrentDataStore) (r : BatchRequest) :
    docLookups (applyRequest db r) key =
      if touches key r then lookupsAfter r else docLookups db key := by
  cases r <;> simp only [applyRequest, touches, lookupsAfter, docLookups, Bool.false_eq_true,
    if_false, JsMap.get?_set, JsMap.get?_delete, decide_eq_true_eq] <;> split <;> simp

/-- The document at a key after a list of requests is the one the last request writing it
left. -/
theorem docLookups_foldl_applyRequest (db : CurrentDataStore) (R : List BatchRequest) :
    docLookups (R.foldl applyRequest db) key =
      ((R.filter (touches key)).getLast?.map lookupsAfter).getD (docLookups db key) := by
  induction R using List.reverseRecOn with
  | nil => rfl
  | append_singleton R r ih =>
      rw [List.foldl_append, List.foldl_cons, List.foldl_nil, docLookups_applyRequest,
        List.filter_append]
      by_cases h : touches key r <;> simp [h, ih]

end Collections

section Parameters

variable {key : SourceKey} {lookup : String}

theorem snapshot_append (rows added : List BucketParameterRow) :
    snapshot (rows ++ added) =
      added.foldl (fun m r ↦ m.set r.key r.bucket_parameters) (snapshot rows) := by
  simp [snapshot, List.foldl_append]

theorem foldl_numberRows (g : Nat) (t : SourceTable) (sk : ReplicaId) (op_id : Nat)
    (writes : List (String × String)) (m : JsMap (Nat × String × String × ReplicaId) String) :
    (numberRows g t sk op_id writes).foldl (fun m r ↦ m.set r.key r.bucket_parameters) m =
      writes.foldl (fun m w ↦ m.set (g, w.1, t.id, sk) w.2) m := by
  induction writes generalizing op_id m with
  | nil => rfl
  | cons w writes ih => exact ih _ _

/-- After `saveParameterData`, a lookup of the written row gives parameter sets only if it
was evaluated; another lookup does only if it did before and was not among the removed. -/
theorem live_saveParameterData {m : JsMap (Nat × String × String × ReplicaId) String}
    {g op_id : Nat} {sk : ReplicaId} {t : SourceTable} {E : List EvaluatedParameters}
    {L : List String}
    (h : Live ((saveParameterData g op_id sk t E L).foldl
      (fun m r ↦ m.set r.key r.bucket_parameters) m) key lookup) :
    ((key.g, key.t, key.k) = (g, t.id, sk) ∧ lookup ∈ E.map (·.lookup)) ∨
      (¬((key.g, key.t, key.k) = (g, t.id, sk) ∧ lookup ∈ L) ∧ Live m key lookup) := by
  obtain ⟨p, hp, hne⟩ := h
  rw [saveParameterData, foldl_numberRows, JsMap.get?_foldl_set_getLast] at hp
  by_cases hE : (key.g, key.t, key.k) = (g, t.id, sk) ∧ lookup ∈ E.map (·.lookup)
  · exact .inl hE
  refine .inr ?_
  -- every write to this lookup of the row is a removal
  have hremoval : ∀ w ∈ (E.map (fun e ↦ (e.lookup, e.bucket_parameters)) ++
      ((L.filter (· ∉ E.map (·.lookup))).dedup.map fun l ↦ (l, "[]"))).filter
        (fun w ↦ (g, w.1, t.id, sk) = (key.g, lookup, key.t, key.k)), w.2 = "[]" := by
    intro w hw
    simp only [List.mem_filter, List.mem_append, List.mem_map, decide_eq_true_eq,
      Prod.mk.injEq] at hw
    obtain ⟨⟨e, he, rfl⟩ | ⟨l, -, rfl⟩, hg, hl, ht, hk⟩ := hw
    · exact absurd ⟨by rw [hg, ht, hk], List.mem_map.2 ⟨e, he, hl⟩⟩ hE
    · rfl
  cases hlast : (List.filter _ _).getLast? with
  | some w =>
      rw [hlast] at hp
      exact absurd ((Option.some.inj hp).symm.trans
        (hremoval w (List.mem_of_getLast?_eq_some hlast))) hne
  | none =>
      rw [hlast] at hp
      refine ⟨fun ⟨hkey, hL⟩ ↦ ?_, p, by simpa using hp, hne⟩
      have hnotE : lookup ∉ E.map (·.lookup) := fun h ↦ hE ⟨hkey, h⟩
      have hw : (lookup, "[]") ∈ (E.map (fun e ↦ (e.lookup, e.bucket_parameters)) ++
          ((L.filter (· ∉ E.map (·.lookup))).dedup.map fun l ↦ (l, "[]"))).filter
            (fun w ↦ (g, w.1, t.id, sk) = (key.g, lookup, key.t, key.k)) := by
        refine List.mem_filter.2 ⟨List.mem_append_right _ (List.mem_map.2 ⟨lookup,
          List.mem_dedup.2 (List.mem_filter.2 ⟨hL, decide_eq_true hnotE⟩), rfl⟩), ?_⟩
        simp only [Prod.mk.injEq] at hkey
        simp [hkey]
      exact List.ne_nil_of_mem hw (List.getLast?_eq_none_iff.1 hlast)

theorem applyParameters_rows (g : Nat) (s : ParameterStore) (r : BatchRequest) :
    (applyParameters g s r).rows = s.rows ++ match r with
      | .saveParameterData sk t E L => saveParameterData g s.op_id sk t E L
      | _ => [] := by
  cases r <;> simp [applyParameters, ParameterStore.step]

/-- A lookup that gives parameter sets after a list of requests was evaluated by one of them,
or gave them before and none of them removed it. -/
theorem live_foldl_applyParameters {g : Nat} (R : List BatchRequest) (s : ParameterStore)
    (h : Live (snapshot (R.foldl (applyParameters g) s).rows) key lookup) :
    (∃ sk t E L, .saveParameterData sk t E L ∈ R ∧ (key.g, key.t, key.k) = (g, t.id, sk) ∧
        lookup ∈ E.map (·.lookup)) ∨
      (Live (snapshot s.rows) key lookup ∧ ∀ sk t E L, .saveParameterData sk t E L ∈ R →
        (key.g, key.t, key.k) = (g, t.id, sk) → lookup ∉ L) := by
  induction R generalizing s with
  | nil => exact .inr ⟨h, fun _ _ _ _ h ↦ absurd h (List.not_mem_nil _)⟩
  | cons r R ih =>
      rcases ih _ h with ⟨sk, t, E, L, hmem, hrest⟩ | ⟨hlive, hnot⟩
      · exact .inl ⟨sk, t, E, L, List.mem_cons_of_mem _ hmem, hrest⟩
      have hcons : ∀ sk t E L, BatchRequest.saveParameterData sk t E L ∈ r :: R →
          BatchRequest.saveParameterData sk t E L = r ∨ BatchRequest.saveParameterData sk t E L ∈ R :=
        fun _ _ _ _ h ↦ List.mem_cons.1 h
      rw [applyParameters_rows, snapshot_append] at hlive
      cases r
      case saveParameterData sk t E L =>
        rcases live_saveParameterData hlive with hE | ⟨hL, hlive⟩
        · exact .inl ⟨sk, t, E, L, List.mem_cons_self _ _, hE⟩
        · refine .inr ⟨hlive, fun sk' t' E' L' hmem hkey ↦ ?_⟩
          rcases hcons _ _ _ _ hmem with heq | hmem
          · cases heq
            exact fun hl ↦ hL ⟨hkey, hl⟩
          · exact hnot _ _ _ _ hmem hkey
      all_goals
        refine .inr ⟨hlive, fun sk' t' E' L' hmem hkey ↦ ?_⟩
        rcases hcons _ _ _ _ hmem with heq | hmem
        · cases heq
        · exact hnot _ _ _ _ hmem hkey

end Parameters

/-! ## What `saveRecord` writes -/

section Record

variable (o : BatchOptions)

/-- The `current_data` key of the row before the record. -/
def beforeKey (op : RecordOperation) : SourceKey :=
  ⟨o.group_id, op.record.sourceTable.id, op.beforeId⟩

/-- The lookups `saveRecord` takes from the row's document. -/
def existingLookups (op : RecordOperation) (doc : Option CurrentDataDocument) : List String :=
  (previousState o op.record doc).2.1

/-- The row `saveRecord` evaluates: TOAST columns merged, blanked if too large. -/
def savedRow (op : RecordOperation) (doc : Option CurrentDataDocument) : Option ToastableRow :=
  ((previousState o op.record doc).2.2.1.map (serializeAfter o)).map (·.1)

/-- Whether the record takes the row away from its old id: a delete, or a new id. -/
def idChanged (op : RecordOperation) : Bool :=
  match op.afterId with
  | none => true
  | some id => !replicaIdEquals op.beforeId id

/-- The id and row whose parameter lookups `saveRecord` writes, if it writes them. -/
def parameterSave (op : RecordOperation) (doc : Option CurrentDataDocument) :
    Option (ReplicaId × ToastableRow) :=
  match op.afterId, savedRow o op doc with
  | some id, some row =>
      if id.truthy && isCompleteRow o.storeCurrentData row && op.record.sourceTable.syncParameters
      then some (id, row) else none
  | _, _ => none

variable {o} {op : RecordOperation} {doc : Option CurrentDataDocument}

/-- Every request of `saveRecord`: bucket data, the removal of the old id's lookups, the new
row's lookups, the new document, or the deletion of the old one. -/
theorem mem_saveRecord {op : RecordOperation} {doc : Option CurrentDataDocument} {req : BatchRequest}
    (h : req ∈ (saveRecord o op doc).requests) :
    (∃ sk t before evaluated, req = .saveBucketData sk t before evaluated) ∨
    (req = .saveParameterData op.beforeId op.record.sourceTable [] (existingLookups o op doc) ∧
      idChanged op ∧ op.record.sourceTable.syncParameters) ∨
    (∃ id row, parameterSave o op doc = some (id, row) ∧
      req = .saveParameterData id op.record.sourceTable
        (o.sync_rules.evaluateParameterRow op.record.sourceTable row)
        (if idChanged op && op.record.sourceTable.syncParameters then [] else
          existingLookups o op doc)) ∨
    (∃ id, op.afterId = some id ∧ id.truthy ∧
      (∀ key, touches key req = decide (⟨o.group_id, op.record.sourceTable.id, id⟩ = key)) ∧
      lookupsAfter req = match parameterSave o op doc with
          | some (_, row) =>
              (o.sync_rules.evaluateParameterRow op.record.sourceTable row).map (·.lookup)
          | none => []) ∨
    (req = .deleteCurrentData (beforeKey o op) ∧ idChanged op) := by
  unfold saveRecord at h
  unfold parameterSave savedRow idChanged existingLookups beforeKey
  simp only [List.mem_append] at h
  generalize op.afterId = A at h ⊢
  generalize (previousState o op.record doc).2.2.1.map (serializeAfter o) = S at h ⊢
  generalize (previousState o op.record doc).2.1 = L at h ⊢
  generalize (previousState o op.record doc).1 = B at h ⊢
  generalize op.record.sourceTable = t at h ⊢
  rcases h with (((h | h) | h) | h) | h
  · split at h
    · exact .inl ⟨_, _, _, _, List.mem_singleton.1 h⟩
    · exact absurd h (List.not_mem_nil _)
  · split at h
    · next hc =>
      simp only [Bool.and_eq_true] at hc
      exact .inr (.inl ⟨List.mem_singleton.1 h, hc⟩)
    · exact absurd h (List.not_mem_nil _)
  · rcases A with _ | id
    · exact absurd h (List.not_mem_nil _)
    rcases S with _ | ⟨row, data⟩
    · exact absurd h (List.not_mem_nil _)
    dsimp only [Option.map_some'] at h ⊢
    split at h
    · next hc =>
      rcases List.mem_append.1 h with h | h
      · split at h
        · exact .inl ⟨_, _, _, _, List.mem_singleton.1 h⟩
        · exact absurd h (List.not_mem_nil _)
      · split at h
        · next hp =>
          refine .inr (.inr (.inl ⟨id, row, ?_, List.mem_singleton.1 h⟩))
          simp only [Bool.and_eq_true] at hc
          simp [hc, hp]
        · exact absurd h (List.not_mem_nil _)
    · exact absurd h (List.not_mem_nil _)
  · rcases A with _ | id
    · exact absurd h (List.not_mem_nil _)
    rcases S with _ | ⟨row, data⟩
    · exact absurd h (List.not_mem_nil _)
    dsimp only [Option.map_some'] at h ⊢
    by_cases ht : id.truthy = true
    · rw [if_pos ht] at h
      obtain rfl := List.mem_singleton.1 h
      refine .inr (.inr (.inr (.inl ⟨id, rfl, ht, fun _ ↦ rfl, ?_⟩)))
      by_cases hc : isCompleteRow o.storeCurrentData row <;>
        by_cases hp : t.syncParameters <;> simp [lookupsAfter, ht, hc, hp]
    · rw [if_neg ht] at h
      exact absurd h (List.not_mem_nil _)
  · split at h
    · next hc => exact .inr (.inr (.inr (.inr ⟨List.mem_singleton.1 h, hc⟩)))
    · exact absurd h (List.not_mem_nil _)

theorem mem_saveParameterData_saveRecord {id : ReplicaId} {row : ToastableRow}
    (hsave : parameterSave o op doc = some (id, row)) :
    .saveParameterData id op.record.sourceTable
        (o.sync_rules.evaluateParameterRow op.record.sourceTable row)
        (if idChanged op && op.record.sourceTable.syncParameters then [] else
          existingLookups o op doc) ∈ (saveRecord o op doc).requests := by
  unfold saveRecord
  unfold parameterSave savedRow at hsave
  unfold idChanged existingLookups
  dsimp only
  generalize op.afterId = A at hsave ⊢
  generalize (previousState o op.record doc).2.2.1.map (serializeAfter o) = S at hsave ⊢
  rcases A with _ | id' <;> rcases S with _ | ⟨row', data⟩ <;> simp only [Option.map_some',
    Option.map_none', reduceCtorEq] at hsave
  split at hsave
  · next hc =>
    obtain ⟨rfl, rfl⟩ := Prod.mk.inj (Option.some.inj hsave)
    simp only [Bool.and_eq_true] at hc
    refine List.mem_append_left _ (List.mem_append_left _ (List.mem_append_right _ ?_))
    simp [hc]
  · cases hsave

theorem mem_removal_saveRecord (hid : idChanged op) (hsync : op.record.sourceTable.syncParameters) :
    .saveParameterData op.beforeId op.record.sourceTable [] (existingLookups o op doc) ∈
      (saveRecord o op doc).requests := by
  unfold saveRecord
  unfold idChanged at hid
  dsimp only
  refine List.mem_append_left _ (List.mem_append_left _ (List.mem_append_left _
    (List.mem_append_right _ ?_)))
  rcases hA : op.afterId with _ | id <;> simp only [hA] at hid ⊢ <;>
    simp [hid, hsync, existingLookups]

theorem any_touches_saveRecord {id : ReplicaId} {row : ToastableRow}
    (hsave : parameterSave o op doc = some (id, row)) :
    (saveRecord o op doc).requests.any (touches ⟨o.group_id, op.record.sourceTable.id, id⟩) := by
  unfold saveRecord
  unfold parameterSave savedRow at hsave
  dsimp only
  generalize op.afterId = A at hsave ⊢
  generalize (previousState o op.record doc).2.2.1.map (serializeAfter o) = S at hsave ⊢
  rcases A with _ | id' <;> rcases S with _ | ⟨row', data⟩ <;> simp only [Option.map_some',
    Option.map_none', reduceCtorEq] at hsave
  split at hsave
  · next hc =>
    obtain ⟨rfl, rfl⟩ := Prod.mk.inj (Option.some.inj hsave)
    simp only [Bool.and_eq_true] at hc
    simp [hc.1.1, touches]
  · cases hsave

theorem parameterSave_afterId {id : ReplicaId} {row : ToastableRow}
    (hsave : parameterSave o op doc = some (id, row)) : op.afterId = some id := by
  unfold parameterSave at hsave
  split at hsave
  · split at hsave
    · exact (Prod.mk.inj (Option.some.inj hsave)).1 ▸ ‹_›
    · cases hsave
  · cases hsave

theorem exists_savedRow {id : ReplicaId} (h : op.afterId = some id) :
    ∃ row, savedRow o op doc = some row := by
  obtain ⟨_ | _ | _⟩ := op <;> cases doc <;>
    simp_all [RecordOperation.afterId, savedRow, previousState]

/-- Without a parameter save, a complete row with a truthy id is one of a table without
parameter queries. -/
theorem syncParameters_of_parameterSave_eq_none {id : ReplicaId} {row : ToastableRow}
    (hsave : parameterSave o op doc = none) (hid : op.afterId = some id) (htruthy : id.truthy)
    (hrow : savedRow o op doc = some row) (hcomplete : isCompleteRow o.storeCurrentData row) :
    op.record.sourceTable.syncParameters = false := by
  simp only [parameterSave, hid, hrow] at hsave
  split at hsave
  · cases hsave
  · next h => simpa [htruthy, hcomplete] using h

theorem idChanged_iff {id : ReplicaId} (h : op.afterId = some id) :
    idChanged op = true ↔ op.beforeId ≠ id := by
  simp [idChanged, h, replicaIdEquals]

theorem afterId_of_insert (h : op.record.tag = .INSERT) : op.afterId = some op.beforeId := by
  obtain ⟨_ | _ | _⟩ := op <;> first | rfl | cases h

theorem existingLookups_eq :
    existingLookups o op doc =
      if op.record.tag = .INSERT then [] else (doc.map (·.lookups)).getD [] := by
  obtain ⟨_ | _ | _⟩ := op <;> cases doc <;> rfl

/-- A request of `saveRecord` that writes a lookup saves the new row's parameters. -/
theorem parameterSave_of_mem {sk : ReplicaId} {t : SourceTable} {E : List EvaluatedParameters}
    {L : List String} {lookup : String}
    (hmem : .saveParameterData sk t E L ∈ (saveRecord o op doc).requests)
    (hE : lookup ∈ E.map (·.lookup)) :
    ∃ row, parameterSave o op doc = some (sk, row) ∧ t = op.record.sourceTable ∧
      E = o.sync_rules.evaluateParameterRow op.record.sourceTable row := by
  rcases mem_saveRecord hmem with ⟨_, _, _, _, h⟩ | ⟨h, -⟩ | ⟨id, row, hsave, h⟩ |
      ⟨id, -, -, htouch, -⟩ | ⟨h, -⟩
  · cases h
  · cases h
    simp at hE
  · cases h
    exact ⟨row, hsave, rfl, rfl⟩
  · simpa [touches] using htouch ⟨o.group_id, op.record.sourceTable.id, id⟩
  · cases h

/-- A request of `saveRecord` that writes a document writes the new row's, with the lookups
whose parameters it saved, or deletes the old row's. -/
theorem touches_saveRecord {r : BatchRequest} {key : SourceKey}
    (hr : r ∈ (saveRecord o op doc).requests) (htouch : touches key r) :
    (∃ id, op.afterId = some id ∧ id.truthy ∧ key = ⟨o.group_id, op.record.sourceTable.id, id⟩ ∧
      lookupsAfter r = match parameterSave o op doc with
        | some (_, row) => (o.sync_rules.evaluateParameterRow op.record.sourceTable row).map (·.lookup)
        | none => []) ∨
    (key = beforeKey o op ∧ idChanged op ∧ lookupsAfter r = []) := by
  rcases mem_saveRecord hr with ⟨_, _, _, _, rfl⟩ | ⟨rfl, -⟩ | ⟨_, _, -, rfl⟩ |
      ⟨id, hid, ht, hkey, hl⟩ | ⟨rfl, hchg⟩
  · exact absurd htouch (by simp [touches])
  · exact absurd htouch (by simp [touches])
  · exact absurd htouch (by simp [touches])
  · exact .inl ⟨id, hid, ht, (of_decide_eq_true ((hkey key).symm.trans htouch)).symm, hl⟩
  · exact .inr ⟨(of_decide_eq_true htouch).symm, hchg, rfl⟩

end Record

/-! ## One record keeps the lookups tracked -/

section Step

variable {o : BatchOptions} {op : RecordOperation}

/-- `saveRecord` keeps every lookup that gives parameter sets listed in its row's document.
The record must save a complete row, an insert or a move to a new id must find no document,
and a table without parameter queries must have no lookups in the row's document. -/
theorem tracked_saveRecord {db : CurrentDataStore} {s : ParameterStore}
    (ht : ∀ key lookup, Live (snapshot s.rows) key lookup → lookup ∈ docLookups db key)
    (hinsert : op.record.tag = .INSERT → db.get? (beforeKey o op) = none)
    (hmove : ∀ id ∈ op.afterId, op.beforeId ≠ id →
      db.get? ⟨o.group_id, op.record.sourceTable.id, id⟩ = none)
    (hcomplete : ∀ row ∈ savedRow o op (db.get? (beforeKey o op)),
      isCompleteRow o.storeCurrentData row = true)
    (hnone : op.record.sourceTable.syncParameters = false → docLookups db (beforeKey o op) = [])
    (key : SourceKey) (lookup : String)
    (hl : Live (snapshot ((saveRecord o op (db.get? (beforeKey o op))).requests.foldl
      (applyParameters o.group_id) s).rows) key lookup) :
    lookup ∈ docLookups ((saveRecord o op (db.get? (beforeKey o op))).requests.foldl
      applyRequest db) key := by
  set doc := db.get? (beforeKey o op) with hdoc
  set R := (saveRecord o op doc).requests
  have hnodoc : ∀ k, db.get? k = none → lookup ∉ docLookups db k := fun k h ↦ by
    simp [docLookups, h]
  rw [docLookups_foldl_applyRequest]
  rcases live_foldl_applyParameters R s hl with ⟨sk, t, E, L, hmem, hkey, hE⟩ | ⟨hold, hnot⟩
  · -- written by the record: a lookup of the new row, which the new document lists
    obtain ⟨row, hsave, rfl, rfl⟩ := parameterSave_of_mem hmem hE
    have hid := parameterSave_afterId hsave
    obtain rfl : key = ⟨o.group_id, op.record.sourceTable.id, sk⟩ := by
      obtain ⟨g, t', k⟩ := key
      simp only [Prod.mk.injEq] at hkey
      simp [hkey]
    obtain ⟨x, hx, hxt⟩ := List.any_eq_true.1 (any_touches_saveRecord hsave)
    obtain ⟨r, hlast⟩ := Option.ne_none_iff_exists'.1 fun h ↦
      List.ne_nil_of_mem (List.mem_filter.2 ⟨hx, hxt⟩) (List.getLast?_eq_none_iff.1 h)
    have hr := List.mem_filter.1 (List.mem_of_getLast?_eq_some hlast)
    simp only [hlast, Option.map_some', Option.getD_some]
    rcases touches_saveRecord hr.1 hr.2 with ⟨id, -, -, -, hl⟩ | ⟨hb, hchg, -⟩
    · rwa [hl, hsave]
    · simp only [beforeKey, SourceKey.mk.injEq, true_and] at hb
      exact absurd hb.symm ((idChanged_iff hid).1 hchg)
  · -- not written by the record: the old document listed it
    have hdocl := ht key lookup hold
    cases hlast : (R.filter (touches key)).getLast? with
    | none => simpa using hdocl
    | some r =>
      simp only [Option.map_some', Option.getD_some]
      have hr := List.mem_filter.1 (List.mem_of_getLast?_eq_some hlast)
      exfalso
      rcases touches_saveRecord hr.1 hr.2 with ⟨id, hid, htr, rfl, -⟩ | ⟨rfl, hchg, -⟩
      · -- the new document: the old one, whose lookups the record rewrote, or none
        by_cases hsame : op.beforeId = id
        · have hkey : (⟨o.group_id, op.record.sourceTable.id, id⟩ : SourceKey) = beforeKey o op := by
            simp [beforeKey, hsame]
          rw [hkey] at hdocl
          cases hps : parameterSave o op doc with
          | some p =>
            obtain ⟨id', row⟩ := p
            obtain rfl : id' = id := Option.some.inj ((parameterSave_afterId hps).symm.trans hid)
            have hnotL := hnot _ _ _ _ (mem_saveParameterData_saveRecord hps) rfl
            have hchg : idChanged op = false :=
              Bool.eq_false_iff.2 fun h ↦ (idChanged_iff hid).1 h hsame
            simp only [hchg, Bool.false_and, Bool.false_eq_true, if_false, existingLookups_eq] at hnotL
            split at hnotL
            · exact hnodoc _ (hinsert ‹_›) hdocl
            · exact hnotL hdocl
          | none =>
            obtain ⟨row, hrow⟩ : ∃ row, savedRow o op doc = some row := exists_savedRow hid
            rw [hnone (syncParameters_of_parameterSave_eq_none hps hid htr hrow
              (hcomplete row hrow))] at hdocl
            exact List.not_mem_nil _ hdocl
        · exact hnodoc _ (hmove id hid hsame) hdocl
      · -- the deleted document: the record removed its lookups, or it had none
        cases hsync : op.record.sourceTable.syncParameters
        · rw [hnone hsync] at hdocl
          exact List.not_mem_nil _ hdocl
        · have hnotL := hnot _ _ _ _ (mem_removal_saveRecord hchg hsync) rfl
          have hins : op.record.tag ≠ .INSERT := fun h ↦
            absurd rfl ((idChanged_iff (afterId_of_insert h)).1 hchg)
          rw [existingLookups_eq, if_neg hins] at hnotL
          exact hnotL hdocl

end Step

/-! ## Whole runs -/

/-- Every lookup of a source row that gives parameter sets is listed in the row's
document. -/
def Tracked (db : CurrentDataStore) (s : ParameterStore) : Prop :=
  ∀ key lookup, Live (snapshot s.rows) key lookup → lookup ∈ docLookups db key

/-- What a record must meet, against the documents it is replicated over, to keep the
lookups tracked. -/
structure Benign (o : BatchOptions) (db : CurrentDataStore) (op : RecordOperation) : Prop where
  /-- An insert finds no document, unless `skipExistingRows` skips it. -/
  fresh_insert : op.record.tag = .INSERT → o.skipExistingRows = false →
    db.get? (beforeKey o op) = none
  /-- A change of id lands on no document. -/
  fresh_move : ∀ id ∈ op.afterId, op.beforeId ≠ id →
    db.get? ⟨o.group_id, op.record.sourceTable.id, id⟩ = none
  /-- The row saved is complete: no TOAST placeholder is left and it is not over
  `MAX_ROW_SIZE`. -/
  complete : ∀ row ∈ savedRow o op (db.get? (beforeKey o op)),
    isCompleteRow o.storeCurrentData row = true
  /-- A table without parameter queries has no lookups in the row's document. -/
  no_parameters : op.record.sourceTable.syncParameters = false →
    docLookups db (beforeKey o op) = []

instance (o : BatchOptions) (db : CurrentDataStore) (op : RecordOperation) :
    Decidable (Benign o db op) :=
  decidable_of_iff (_ ∧ _ ∧ _ ∧ _)
    ⟨fun ⟨h₁, h₂, h₃, h₄⟩ ↦ ⟨h₁, h₂, h₃, h₄⟩, fun ⟨h₁, h₂, h₃, h₄⟩ ↦ ⟨h₁, h₂, h₃, h₄⟩⟩

/-- Whether each record of a batch is benign against the documents the records before it
left. -/
def benignRun (o : BatchOptions) : CurrentDataStore → List RecordOperation → Bool
  | _, [] => true
  | db, op :: ops =>
      decide (Benign o db op) &&
        match saveOperation o op (db.get? (beforeKey o op)) with
        | .ok out => benignRun o (out.requests.foldl applyRequest db) ops
        | .error _ => true

section Run

variable {o : BatchOptions} {op : RecordOperation} {db : CurrentDataStore} {s : ParameterStore}

theorem tracked_of_rows_nil (db : CurrentDataStore) (op_id : Nat) : Tracked db ⟨[], op_id⟩ :=
  fun _ _ ⟨_, h, _⟩ ↦ by cases h

/-- `saveOperation` keeps the lookups tracked: it skips an insert, or saves the record. -/
theorem tracked_saveOperation (ht : Tracked db s) (hb : Benign o db op) {out : SaveOutcome}
    (h : saveOperation o op (db.get? (beforeKey o op)) = .ok out) :
    Tracked (out.requests.foldl applyRequest db)
      (out.requests.foldl (applyParameters o.group_id) s) := by
  have hsave := fun hinsert ↦
    tracked_saveRecord ht hinsert hb.fresh_move hb.complete hb.no_parameters
  unfold saveOperation at h
  split at h
  · split at h
    · split at h
      · cases h
        exact ht
      · next hnone =>
        cases h
        exact hsave fun _ ↦ Option.not_isSome_iff_eq_none.1 hnone
    · cases h
  · next hskip =>
    cases h
    exact hsave fun hi ↦ hb.fresh_insert hi (Bool.eq_false_iff.2 hskip)

theorem run_tracked {ops : List RecordOperation} {reqs : List BatchRequest}
    (ht : Tracked db s) (hb : benignRun o db ops) (h : savePlain o db ops = .ok reqs) :
    Tracked (reqs.foldl applyRequest db) (reqs.foldl (applyParameters o.group_id) s) := by
  induction ops generalizing db s reqs with
  | nil =>
    cases h
    exact ht
  | cons op ops ih =>
    obtain ⟨out, rest, hout, hrest, rfl⟩ := savePlain_cons_eq_ok o h
    simp only [benignRun, Bool.and_eq_true, decide_eq_true_eq] at hb
    rw [beforeKey, hout] at hb
    rw [List.foldl_append, List.foldl_append]
    exact ih (tracked_saveOperation ht hb.1 hout) hb.2 hrest

end Run

/-! ## A list moved between owners, and a row too large -/

/-- Each list's row gives one lookup, by its owner. -/
def ownerRules : SyncRulesEval :=
  ⟨fun _ _ ↦ [], fun _ row ↦ match row.get? "owner_id" with
    | some (some (.text u)) => [⟨"by_owner[" ++ u ++ "]", "[1]"⟩]
    | _ => []⟩

/-- Stored current data, no `skipExistingRows`; a row with a `huge` bio is 20 MB. -/
def ownerOptions : BatchOptions :=
  ⟨1, true, false, false, ownerRules, fun row ↦
    if row.get? "bio" = some (some (.text "huge")) then 20 * 1024 * 1024 else 100⟩

/-- A row of the lists table. -/
def listRow (owner bio : String) : ToastableRow :=
  ⟨[("owner_id", some (.text owner)), ("bio", some (.text bio))]⟩

/-- List `l1` is inserted for `u1`, moved to `u2`, renamed to `l2`, and deleted. -/
def ownerOps : List RecordOperation :=
  [⟨.insert ParameterStore.listsTable (listRow "u1" "") (.str "l1")⟩,
   ⟨.update ParameterStore.listsTable none (listRow "u2" "") (.str "l1")⟩,
   ⟨.update ParameterStore.listsTable (some (.str "l1")) (listRow "u2" "") (.str "l2")⟩,
   ⟨.delete ParameterStore.listsTable (.str "l2")⟩]

theorem run_tracked_owners :
    ∃ reqs, savePlain ownerOptions JsMap.empty ownerOps = .ok reqs ∧
      Tracked (reqs.foldl applyRequest JsMap.empty) (reqs.foldl (applyParameters 1) ⟨[], 0⟩) := by
  have hok : (savePlain ownerOptions JsMap.empty ownerOps).isOk = true := by decide
  cases h : savePlain ownerOptions JsMap.empty ownerOps with
  | error e =>
    rw [h] at hok
    cases hok
  | ok reqs => exact ⟨reqs, rfl, run_tracked (o := ownerOptions) (tracked_of_rows_nil _ _) (by decide) h⟩

/-- List `l1` is inserted for `u1`, updated with a bio over `MAX_ROW_SIZE`, and deleted. -/
def oversizeOps : List RecordOperation :=
  [⟨.insert ParameterStore.listsTable (listRow "u1" "") (.str "l1")⟩,
   ⟨.update ParameterStore.listsTable none (listRow "u1" "huge") (.str "l1")⟩,
   ⟨.delete ParameterStore.listsTable (.str "l1")⟩]

/-- The update over `MAX_ROW_SIZE` clears the document's lookups and keeps the row's
parameters, so the delete leaves them: the deleted list's owner still gets its parameter
set. -/
theorem oversize_update_keeps_lookup :
    ((savePlain ownerOptions JsMap.empty oversizeOps).toOption.map fun reqs ↦
      ((reqs.foldl applyRequest JsMap.empty).get? ⟨1, "lists", .str "l1"⟩,
        getParameterSets (fun p ↦ [p]) 1 (reqs.foldl (applyParameters 1) ⟨[], 0⟩).rows
          (reqs.foldl (applyParameters 1) ⟨[], 0⟩).op_id ["by_owner[u1]"])) =
      some (none, ["[1]"]) := by
  decide

/-! ## Truncating a table -/

/-- The `current_data` collection as a map by `_id`. -/
def currentDataStore (c : CurrentData) : CurrentDataStore := ⟨c.docs.map fun d ↦ (d._id, d)⟩

section Truncate

variable {g : Nat} {t : SourceTable} {c : CurrentData} {s : ParameterStore}

theorem mem_docLookups_currentDataStore {key : SourceKey} {lookup : String} :
    lookup ∈ docLookups (currentDataStore c) key ↔ ∃ d ∈ c.docs, d._id = key ∧ lookup ∈ d.lookups := by
  constructor
  · intro h
    cases hd : (currentDataStore c).get? key with
    | none => simp [docLookups, hd] at h
    | some d =>
      obtain ⟨d', hd', he⟩ := List.mem_map.1 (JsMap.mem_entries_of_get? hd)
      simp only [Prod.mk.injEq] at he
      obtain ⟨rfl, rfl⟩ := he
      simp only [docLookups, hd, Option.map_some', Option.getD_some] at h
      exact ⟨d', hd', rfl, h⟩
  · rintro ⟨d, hd, rfl, hl⟩
    have hnd : (currentDataStore c).Nodup := by
      simpa [JsMap.Nodup, JsMap.keys, currentDataStore, Function.comp_def] using c.nodup
    rw [docLookups, JsMap.get?_eq_of_mem hnd (List.mem_map_of_mem _ hd)]
    exact hl

theorem saveParameterData_mem_truncateOps {t' : SourceTable} {D : List CurrentDataDocument}
    {sk : ReplicaId} {E : List EvaluatedParameters} {L : List String} :
    BatchRequest.saveParameterData sk t' E L ∈ truncateOps t D ↔
      ∃ d ∈ D, sk = d._id.k ∧ t' = t ∧ E = [] ∧ L = d.lookups := by
  simp [truncateOps, List.mem_flatMap, eq_comm]

/-- A tracked state can be checked entry by entry of the snapshot. -/
theorem tracked_of_entries {db : CurrentDataStore}
    (h : ∀ e ∈ (snapshot s.rows).entries, e.2 ≠ "[]" →
      e.1.2.1 ∈ docLookups db ⟨e.1.1, e.1.2.2.1, e.1.2.2.2⟩) : Tracked db s :=
  fun _ _ ⟨_, hp, hne⟩ ↦ h _ (JsMap.mem_entries_of_get? hp) hne

theorem truncate_tracked (ht : Tracked (currentDataStore c) s)
    (hk : ∀ d ∈ c.docs, d._id.g = g → d._id.t = t.id → d._id.k ≠ .maxKey) :
    Tracked (currentDataStore (c.truncateSingle g t).2)
        ((c.truncateSingle g t).1.flatten.foldl (applyParameters g) s) ∧
      ∀ key lookup, key.g = g → key.t = t.id →
        ¬Live (snapshot ((c.truncateSingle g t).1.flatten.foldl (applyParameters g) s).rows)
          key lookup := by
  obtain ⟨-, hreqs, hdocs⟩ := c.truncateSingle_table g t hk
  have after : Tracked (currentDataStore (c.truncateSingle g t).2)
      ((c.truncateSingle g t).1.flatten.foldl (applyParameters g) s) := by
    intro key lookup hlive
    rw [hreqs] at hlive
    rcases live_foldl_applyParameters _ _ hlive with ⟨sk, t', E, L, hmem, -, hE⟩ | ⟨hbefore, hnot⟩
    · obtain ⟨d, -, -, -, rfl, -⟩ := saveParameterData_mem_truncateOps.1 hmem
      exact absurd hE (List.not_mem_nil _)
    · obtain ⟨d, hd, rfl, hl⟩ := mem_docLookups_currentDataStore.1 (ht _ _ hbefore)
      by_cases hin : d._id.g = g ∧ d._id.t = t.id
      · refine absurd hl (hnot _ _ _ _ (saveParameterData_mem_truncateOps.2
          ⟨d, List.mem_filter.2 ⟨hd, decide_eq_true hin⟩, rfl, rfl, rfl, rfl⟩) ?_)
        rw [hin.1, hin.2]
      · refine mem_docLookups_currentDataStore.2 ⟨d, ?_, rfl, hl⟩
        rw [hdocs]
        exact List.mem_filter.2 ⟨hd, decide_eq_true hin⟩
  refine ⟨after, fun key lookup hg htab hlive ↦ ?_⟩
  obtain ⟨d, hd, rfl, -⟩ := mem_docLookups_currentDataStore.1 (after _ _ hlive)
  rw [hdocs] at hd
  exact of_decide_eq_true (List.mem_filter.1 hd).2 ⟨hg, htab⟩

end Truncate

/-- A list and a todo of owner `u1`, each with its lookup. -/
def ownerData : CurrentData :=
  ⟨[⟨⟨1, "lists", .str "l1"⟩, listRow "u1" "", [], ["by_owner[u1]"]⟩,
    ⟨⟨1, "todos", .str "t1"⟩, listRow "u1" "", [], ["by_owner[u1]"]⟩], by decide⟩

/-- The parameter rows of `ownerData`. -/
def ownerParameters : ParameterStore :=
  ⟨saveParameterData 1 0 (.str "l1") ParameterStore.listsTable [⟨"by_owner[u1]", "[1]"⟩] [] ++
    saveParameterData 1 1 (.str "t1") ⟨"todos", false, true⟩ [⟨"by_owner[u1]", "[2]"⟩] [], 2⟩

theorem truncate_tracked_owners :
    Tracked (currentDataStore (ownerData.truncateSingle 1 ParameterStore.listsTable).2)
        ((ownerData.truncateSingle 1 ParameterStore.listsTable).1.flatten.foldl
          (applyParameters 1) ownerParameters) ∧
      ∀ key lookup, key.g = 1 → key.t = ParameterStore.listsTable.id →
        ¬Live (snapshot ((ownerData.truncateSingle 1 ParameterStore.listsTable).1.flatten.foldl
          (applyParameters 1) ownerParameters).rows) key lookup :=
  truncate_tracked (tracked_of_entries (by decide)) (by decide)

end LookupTracking

end PowerSync
