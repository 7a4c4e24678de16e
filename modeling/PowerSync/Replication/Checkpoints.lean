import Mathlib

/-!
# The checkpoint state machine of the batch writer

`MongoBucketBatch` keeps three fields in memory: `last_checkpoint_lsn`,
`no_checkpoint_before_lsn` and `persisted_op`.  They decide when `commit` and `keepalive`
advance the sync rules document's `last_checkpoint_lsn` and `last_checkpoint`.  A restart
builds a new batch from that document: `lastCheckpointLsn`, `noCheckpointBeforeLsn` and
`keepaliveOp`.

A run is any sequence of calls, restarts included, in which no transaction fails.  The
run keeps two records beside the writer.  `flushed` holds the op ids that the current
batch's transactions took, and the `keepalive_op` it was built with.  `given` holds the
first `no_checkpoint_before` and every LSN passed to `markSnapshotDone`.

* `RunState.Good` is the invariant.  `RunState.Good.next` shows that every call keeps it
  and guarantees `CallOk`, and `RunState.Good.runCalls` extends this to whole runs.
* `checkpoints_monotone` shows four things over every run from a consistent store:
  - `last_checkpoint_lsn` and `last_checkpoint` never decrease;
  - every LSN written to `last_checkpoint_lsn` is at least every `no_checkpoint_before`
    given so far;
  - when `commit` or `keepalive` returns true, every flushed op id is at most
    `last_checkpoint`.

LSNs are compared as JavaScript compares strings: character by character.
-/

namespace PowerSync

/-- `a < b` on two LSN strings. -/
def lsnLt (a b : String) : Prop := a.data < b.data

instance : DecidableRel lsnLt := fun a b ↦ inferInstanceAs (Decidable (a.data < b.data))

/-- `a <= b` on two LSN strings. -/
def lsnLe (a b : String) : Prop := a.data ≤ b.data

instance : DecidableRel lsnLe := fun a b ↦ inferInstanceAs (Decidable (a.data ≤ b.data))

theorem lsnLt_iff {a b : String} : lsnLt a b ↔ a < b := String.lt_iff_toList_lt.symm

theorem lsnLe_iff {a b : String} : lsnLe a b ↔ a ≤ b := String.le_iff_toList_le.symm

/-! ## The persisted state -/

/-- The fields of the `sync_rules` document that checkpoints read and write. -/
structure SyncRulesDoc where
  last_checkpoint_lsn : Option String
  last_checkpoint : Option Nat
  keepalive_op : Option Nat
  no_checkpoint_before : String
  deriving DecidableEq, Repr

/-- A `$set` on the sync rules document: the fields it sets, with `keepalive_op` possibly
set to `null`. -/
structure SyncRulesUpdate where
  last_checkpoint_lsn : Option String := none
  last_checkpoint : Option Nat := none
  keepalive_op : Option (Option Nat) := none
  no_checkpoint_before : Option String := none
  deriving DecidableEq, Repr

/-- `updateOne` with a `$set`. -/
def SyncRulesDoc.set (d : SyncRulesDoc) (u : SyncRulesUpdate) : SyncRulesDoc :=
  { last_checkpoint_lsn := u.last_checkpoint_lsn.or d.last_checkpoint_lsn
    last_checkpoint := u.last_checkpoint.or d.last_checkpoint
    keepalive_op := u.keepalive_op.getD d.keepalive_op
    no_checkpoint_before := u.no_checkpoint_before.getD d.no_checkpoint_before }

/-- The sync rules document and the `op_id` of `op_id_sequence`. -/
structure Store where
  sync_rules : SyncRulesDoc
  op_id : Nat
  deriving DecidableEq, Repr

/-- Modelled from the spec: `MongoIdSequence` is not in the sources.  A transaction that
calls `opSeq.next()` `n` times takes the ids after `op_id`, and `opSeq.last()` is the last
of them, or `op_id` if it took none. -/
def Store.take (s : Store) (n : Nat) : Store := { s with op_id := s.op_id + n }

/-- The ids a transaction that takes `n` of them is given. -/
def Store.idsOf (s : Store) (n : Nat) : List Nat := List.range' (s.op_id + 1) n

@[simp] theorem Store.take_op_id (s : Store) (n : Nat) : (s.take n).op_id = s.op_id + n := rfl

@[simp] theorem Store.take_sync_rules (s : Store) (n : Nat) :
    (s.take n).sync_rules = s.sync_rules := rfl

theorem Store.mem_idsOf {s : Store} {n o : Nat} (h : o ∈ s.idsOf n) :
    s.op_id < o ∧ o ≤ s.op_id + n := by
  simp only [Store.idsOf, List.mem_range'_1] at h
  omega

/-! ## The batch -/

/-- The checkpoint fields of a `MongoBucketBatch`. -/
structure MongoBucketBatch where
  last_checkpoint_lsn : Option String
  no_checkpoint_before_lsn : String
  persisted_op : Option Nat
  deriving DecidableEq, Repr

namespace MongoBucketBatch

/-- The constructor, with the options a restart reads from the sync rules document. -/
def ofSyncRules (d : SyncRulesDoc) : MongoBucketBatch :=
  ⟨d.last_checkpoint_lsn, d.no_checkpoint_before, d.keepalive_op⟩

/-- `flush`: one `flushInner` transaction after another while the batch or the write
checkpoints have data; `txs` are the ids each one takes.  Each sets `persisted_op` to its
`opSeq.last()`. -/
def flush (b : MongoBucketBatch) (s : Store) : List Nat → MongoBucketBatch × Store
  | [] => (b, s)
  | n :: txs => flush { b with persisted_op := some (s.take n).op_id } (s.take n) txs

/-- `truncateSingle`: its transactions, each deleting up to `BATCH_LIMIT` rows.  The loop
runs at least once; an empty `txs` stands for the one transaction that finds no rows.  It
returns `opSeq.last()` of the last transaction. -/
def truncateSingle (s : Store) (txs : List Nat) : Store × Nat :=
  let s := s.take txs.sum
  (s, s.op_id)

/-- The loop of `truncate` over the tables: `last_op` is the result of the last one. -/
def truncateTables (s : Store) (last_op : Option Nat) : List (List Nat) → Store × Option Nat
  | [] => (s, last_op)
  | t :: ts =>
      let (s, op) := truncateSingle s t
      truncateTables s (some op) ts

/-- `truncate`: a flush, then each table, and `persisted_op` set to the last op if it is
truthy. -/
def truncate (b : MongoBucketBatch) (s : Store) (pending : List Nat)
    (tables : List (List Nat)) : MongoBucketBatch × Store :=
  let (b, s) := b.flush s pending
  let (s, last_op) := truncateTables s none tables
  match last_op with
  | some op => if op ≠ 0 then ({ b with persisted_op := some op }, s) else (b, s)
  | none => (b, s)

/-- `markSnapshotDone`: the new `no_checkpoint_before_lsn` if it is larger, in memory and
in the sync rules document. -/
def markSnapshotDone (b : MongoBucketBatch) (lsn : String) :
    MongoBucketBatch × List SyncRulesUpdate :=
  if lsnLt b.no_checkpoint_before_lsn lsn then
    ({ b with no_checkpoint_before_lsn := lsn }, [{ no_checkpoint_before := some lsn }])
  else (b, [])

/-- `commit` after its flush: the new batch fields, the `$set`s on the sync rules document
and the result. -/
def commitFlushed (b : MongoBucketBatch) (lsn : String) (createEmptyCheckpoints : Bool) :
    MongoBucketBatch × List SyncRulesUpdate × Bool :=
  if b.last_checkpoint_lsn.any (lsnLt lsn ·) then (b, [], false)
  else if lsnLt lsn b.no_checkpoint_before_lsn then
    (b, [{ keepalive_op := some b.persisted_op }], false)
  else if !createEmptyCheckpoints ∧ b.persisted_op = none then (b, [], true)
  else
    ({ b with persisted_op := none, last_checkpoint_lsn := some lsn },
      [{ last_checkpoint_lsn := some lsn, last_checkpoint := b.persisted_op,
         keepalive_op := some none }], true)

/-- `keepalive` before it commits: `none` when it calls `commit`, and otherwise the new
batch fields, the `$set`s and the result. -/
def keepaliveOwn (b : MongoBucketBatch) (lsn : String) :
    Option (MongoBucketBatch × List SyncRulesUpdate × Bool) :=
  if b.last_checkpoint_lsn.any (lsnLe lsn ·) then some (b, [], false)
  else if lsnLt lsn b.no_checkpoint_before_lsn then some (b, [], false)
  else if b.persisted_op.isSome then none
  else some ({ b with last_checkpoint_lsn := some lsn },
    [{ last_checkpoint_lsn := some lsn }], true)

end MongoBucketBatch

/-! ## Calls -/

/-- A call on the batch writer.  The transactions of a flush, whether its own or the one
that starts `commit` or `truncate`, are given as the number of ids each one takes. -/
inductive Call
  | flush (txs : List Nat)
  | truncate (pending : List Nat) (tables : List (List Nat))
  | drop (pending : List Nat) (tables : List (List Nat))
  | markSnapshotDone (lsn : String)
  | commit (lsn : String) (pending : List Nat) (createEmptyCheckpoints : Option Bool)
  | keepalive (lsn : String) (pending : List Nat)
  | restart
  deriving DecidableEq, Repr

/-- The writer: the batch's fields and the store. -/
structure Writer where
  batch : MongoBucketBatch
  store : Store
  deriving DecidableEq, Repr

/-- What a call did: the ids its transactions took, its `$set`s on the sync rules
document, and the result of `commit` or `keepalive`. -/
structure Effect where
  opIds : List Nat := []
  updates : List SyncRulesUpdate := []
  result : Option Bool := none
  deriving DecidableEq, Repr

section Calls

/- Modelled from the spec: `DEFAULT_BUCKET_BATCH_COMMIT_OPTIONS` is not in the sources, so
its `createEmptyCheckpoints` is a parameter. -/
variable (createEmptyDefault : Bool)

namespace Writer

/-- A flush. -/
def flush (w : Writer) (txs : List Nat) : Writer × Effect :=
  let (b, s) := w.batch.flush w.store txs
  (⟨b, s⟩, { opIds := w.store.idsOf txs.sum })

/-- `truncate`; `drop` is the same, followed by a flush with nothing left and by the
deletion of the `source_tables` documents, which this state does not hold. -/
def truncate (w : Writer) (pending : List Nat) (tables : List (List Nat)) : Writer × Effect :=
  let (b, s) := w.batch.truncate w.store pending tables
  (⟨b, s⟩, { opIds := w.store.idsOf (pending.sum + tables.flatten.sum) })

/-- The `$set`s of a call applied to the store. -/
def apply (w : Writer) (b : MongoBucketBatch) (us : List SyncRulesUpdate) : Writer :=
  ⟨b, { w.store with sync_rules := us.foldl SyncRulesDoc.set w.store.sync_rules }⟩

/-- `commit`: a flush, then `commitFlushed`. -/
def commit (w : Writer) (lsn : String) (pending : List Nat) (create : Bool) :
    Writer × Effect :=
  let (w, e) := w.flush pending
  let (b, us, r) := w.batch.commitFlushed lsn create
  (w.apply b us, { e with updates := us, result := some r })

/-- `keepalive`, which calls `commit` with the default options when a flushed op waits
for its checkpoint. -/
def keepalive (w : Writer) (lsn : String) (pending : List Nat) : Writer × Effect :=
  match w.batch.keepaliveOwn lsn with
  | some (b, us, r) => (w.apply b us, { updates := us, result := some r })
  | none => w.commit lsn pending createEmptyDefault

/-- One call. -/
def call (w : Writer) : Call → Writer × Effect
  | .flush txs => w.flush txs
  | .truncate pending tables => w.truncate pending tables
  | .drop pending tables => w.truncate pending tables
  | .markSnapshotDone lsn =>
      let (b, us) := w.batch.markSnapshotDone lsn
      (w.apply b us, { updates := us })
  | .commit lsn pending create => w.commit lsn pending (create.getD createEmptyDefault)
  | .keepalive lsn pending => w.keepalive createEmptyDefault lsn pending
  | .restart => (⟨.ofSyncRules w.store.sync_rules, w.store⟩, {})

end Writer

/-- A run: the writer, the ids the current batch flushed or was built with, and the
`no_checkpoint_before` values given so far. -/
structure RunState where
  writer : Writer
  flushed : List Nat
  given : List String

namespace RunState

/-- A run on a store: the first batch is built from it. -/
def start (s : Store) : RunState :=
  ⟨⟨.ofSyncRules s.sync_rules, s⟩, s.sync_rules.keepalive_op.toList,
    [s.sync_rules.no_checkpoint_before]⟩

/-- One call of a run. -/
def next (r : RunState) (c : Call) : RunState × Effect :=
  let (w, e) := r.writer.call createEmptyDefault c
  let flushed := match c with
    | .restart => w.store.sync_rules.keepalive_op.toList
    | _ => r.flushed ++ e.opIds
  let given := match c with
    | .markSnapshotDone lsn => r.given ++ [lsn]
    | _ => r.given
  (⟨w, flushed, given⟩, e)

end RunState

/-- The state after a sequence of calls. -/
def runCalls (r : RunState) (cs : List Call) : RunState :=
  cs.foldl (fun r c ↦ (r.next createEmptyDefault c).1) r

end Calls

/-! ## Closed forms of the flushes -/

theorem Store.take_zero (s : Store) : s.take 0 = s := rfl

theorem Store.take_take (s : Store) (m n : Nat) : (s.take m).take n = s.take (m + n) := by
  simp only [Store.take, Nat.add_assoc]

@[simp] theorem Store.idsOf_zero (s : Store) : s.idsOf 0 = [] := rfl

namespace MongoBucketBatch

theorem flush_spec (b : MongoBucketBatch) (s : Store) (txs : List Nat) :
    ∃ po, b.flush s txs = ({ b with persisted_op := po }, s.take txs.sum) ∧
      (po = some (s.op_id + txs.sum) ∨ po = b.persisted_op ∧ txs.sum = 0) := by
  induction txs generalizing b s with
  | nil => exact ⟨b.persisted_op, rfl, .inr ⟨rfl, rfl⟩⟩
  | cons n txs ih =>
    obtain ⟨po, h, hpo⟩ := ih { b with persisted_op := some (s.take n).op_id } (s.take n)
    refine ⟨po, by rw [flush, h, Store.take_take, List.sum_cons], .inl ?_⟩
    rcases hpo with rfl | ⟨rfl, h0⟩
    · simp [Nat.add_assoc]
    · simp [h0]

theorem truncateTables_eq (s : Store) (l : Option Nat) (ts : List (List Nat)) :
    truncateTables s l ts =
      (s.take ts.flatten.sum, if ts = [] then l else some (s.op_id + ts.flatten.sum)) := by
  induction ts generalizing s l with
  | nil => rfl
  | cons t ts ih =>
    simp only [truncateTables, truncateSingle, ih]
    cases ts <;> simp [Store.take, Nat.add_assoc, List.sum_append]

theorem truncate_spec (b : MongoBucketBatch) (s : Store) (pending : List Nat)
    (tables : List (List Nat)) :
    ∃ po, b.truncate s pending tables =
        ({ b with persisted_op := po }, s.take (pending.sum + tables.flatten.sum)) ∧
      (po = some (s.op_id + (pending.sum + tables.flatten.sum)) ∨
        po = b.persisted_op ∧ pending.sum + tables.flatten.sum = 0) := by
  obtain ⟨po, hf, hpo⟩ := b.flush_spec s pending
  simp only [truncate, hf, truncateTables_eq, Store.take_op_id, Store.take_take]
  split
  · rename_i op hop
    split_ifs at hop with ht
    cases hop
    split_ifs with h0
    · exact ⟨_, rfl, .inl (by rw [Nat.add_assoc])⟩
    · refine ⟨po, rfl, ?_⟩
      rcases hpo with rfl | ⟨rfl, _⟩
      · exact .inl (congrArg some (by omega))
      · exact .inr ⟨rfl, by omega⟩
  · rename_i hop
    split_ifs at hop with ht
    subst ht
    exact ⟨po, rfl, by simpa using hpo⟩

end MongoBucketBatch

namespace SyncRulesDoc

variable (d : SyncRulesDoc) (u : SyncRulesUpdate)

@[simp] theorem set_last_checkpoint_lsn :
    (d.set u).last_checkpoint_lsn = u.last_checkpoint_lsn.or d.last_checkpoint_lsn := rfl

@[simp] theorem set_last_checkpoint :
    (d.set u).last_checkpoint = u.last_checkpoint.or d.last_checkpoint := rfl

@[simp] theorem set_keepalive_op : (d.set u).keepalive_op = u.keepalive_op.getD d.keepalive_op :=
  rfl

@[simp] theorem set_no_checkpoint_before :
    (d.set u).no_checkpoint_before = u.no_checkpoint_before.getD d.no_checkpoint_before := rfl

end SyncRulesDoc

namespace Writer

variable (w : Writer) (b : MongoBucketBatch) (us : List SyncRulesUpdate)

@[simp] theorem apply_batch : (w.apply b us).batch = b := rfl

@[simp] theorem apply_op_id : (w.apply b us).store.op_id = w.store.op_id := rfl

@[simp] theorem apply_sync_rules :
    (w.apply b us).store.sync_rules = us.foldl SyncRulesDoc.set w.store.sync_rules := rfl

end Writer

@[simp] theorem SyncRulesDoc.foldl_set_nil (d : SyncRulesDoc) :
    ([] : List SyncRulesUpdate).foldl SyncRulesDoc.set d = d := rfl

@[simp] theorem SyncRulesDoc.foldl_set_singleton (d : SyncRulesDoc) (u : SyncRulesUpdate) :
    [u].foldl SyncRulesDoc.set d = d.set u := rfl

/-! ## The invariant -/

/-- What the flushed ids and `persisted_op` owe the store: a pending op is an id already
taken, at least the checkpoint and every flushed id; with none pending, every flushed id
is covered by the checkpoint. -/
def Pending (s : Store) (flushed : List Nat) : Option Nat → Prop
  | some p => p ≤ s.op_id ∧ (∀ c ∈ s.sync_rules.last_checkpoint, c ≤ p) ∧ ∀ o ∈ flushed, o ≤ p
  | none => ∀ o ∈ flushed, ∃ c ∈ s.sync_rules.last_checkpoint, o ≤ c

/-- A store the batch writer can have left: the checkpoint is an id already taken, and so
is the op `keepalive_op` carries, which is at least the checkpoint. -/
structure Store.Good (s : Store) : Prop where
  checkpoint_le : ∀ c ∈ s.sync_rules.last_checkpoint, c ≤ s.op_id
  keepalive_op : Pending s s.sync_rules.keepalive_op.toList s.sync_rules.keepalive_op

namespace RunState

/-- The sync rules document of a run. -/
def doc (r : RunState) : SyncRulesDoc := r.writer.store.sync_rules

/-- The invariant of a run: the batch mirrors the document's LSNs, its
`no_checkpoint_before_lsn` is the largest given, and its flushed ids are pending or
checkpointed. -/
structure Good (r : RunState) : Prop where
  store : r.writer.store.Good
  lsn_eq : r.writer.batch.last_checkpoint_lsn = r.doc.last_checkpoint_lsn
  ncb_eq : r.writer.batch.no_checkpoint_before_lsn = r.doc.no_checkpoint_before
  ncb_ge : ∀ l ∈ r.given, lsnLe l r.writer.batch.no_checkpoint_before_lsn
  pending : Pending r.writer.store r.flushed r.writer.batch.persisted_op

end RunState

theorem Pending.le_op_id {s : Store} {F : List Nat} {po : Option Nat} (hs : s.Good)
    (h : Pending s F po) : ∀ o ∈ F, o ≤ s.op_id := by
  intro o ho
  cases po with
  | some p => exact (h.2.2 o ho).trans h.1
  | none =>
    obtain ⟨c, hc, hoc⟩ := h o ho
    exact hoc.trans (hs.checkpoint_le c hc)

/-- Taking ids keeps the invariant, whether they become the pending op or there are
none. -/
theorem Pending.take {s : Store} {F : List Nat} {po po' : Option Nat} (hs : s.Good)
    (h : Pending s F po) {n : Nat} (hpo : po' = some (s.op_id + n) ∨ po' = po ∧ n = 0) :
    Pending (s.take n) (F ++ s.idsOf n) po' := by
  rcases hpo with rfl | ⟨rfl, rfl⟩
  · refine ⟨le_rfl, fun c hc ↦ (hs.checkpoint_le c hc).trans (Nat.le_add_right _ _), ?_⟩
    intro o ho
    rcases List.mem_append.1 ho with ho | ho
    · exact (h.le_op_id hs o ho).trans (Nat.le_add_right _ _)
    · exact (Store.mem_idsOf ho).2
  · simpa using h

/-- The invariant holds against any store with the same checkpoint and more ids taken. -/
theorem Pending.of_le {s s' : Store} {F : List Nat} {po : Option Nat}
    (hc : s'.sync_rules.last_checkpoint = s.sync_rules.last_checkpoint)
    (hle : s.op_id ≤ s'.op_id) (h : Pending s F po) : Pending s' F po := by
  cases po with
  | some p =>
    simp only [Pending, hc] at h ⊢
    exact ⟨h.1.trans hle, h.2⟩
  | none => simpa only [Pending, hc] using h

theorem Store.Good.take {s : Store} (hs : s.Good) (n : Nat) : (s.take n).Good :=
  ⟨fun c hc ↦ (hs.checkpoint_le c hc).trans (Nat.le_add_right _ _),
    Pending.of_le (s := s) rfl (Nat.le_add_right _ _) hs.keepalive_op⟩

theorem Store.Good.of_eq {s s' : Store} (hs : s.Good)
    (hc : s'.sync_rules.last_checkpoint = s.sync_rules.last_checkpoint)
    (hk : s'.sync_rules.keepalive_op = s.sync_rules.keepalive_op) (ho : s'.op_id = s.op_id) :
    s'.Good :=
  ⟨by rw [hc, ho]; exact hs.checkpoint_le, by rw [hk]; exact hs.keepalive_op.of_le hc ho.ge⟩

theorem Pending.toList {s : Store} {F : List Nat} {po : Option Nat} (h : Pending s F po) :
    Pending s po.toList po := by
  cases po with
  | some p => exact ⟨h.1, h.2.1, by simp⟩
  | none => simp [Pending]

theorem lsnLe_of_not_lt {a b : String} (h : ¬ lsnLt a b) : lsnLe b a :=
  lsnLe_iff.2 (not_lt.1 (mt lsnLt_iff.2 h))

theorem lsnLe_of_lt {a b : String} (h : lsnLt a b) : lsnLe a b :=
  lsnLe_iff.2 (lsnLt_iff.1 h).le

theorem lsnLe_trans {a b c : String} (h₁ : lsnLe a b) (h₂ : lsnLe b c) : lsnLe a c :=
  lsnLe_iff.2 ((lsnLe_iff.1 h₁).trans (lsnLe_iff.1 h₂))

theorem lsnLe_refl (a : String) : lsnLe a a := lsnLe_iff.2 le_rfl

theorem lsnLt_of_not_le {a b : String} (h : ¬ lsnLe a b) : lsnLt b a :=
  lsnLt_iff.2 (not_le.1 (mt lsnLe_iff.2 h))

theorem Writer.flush_spec (w : Writer) (txs : List Nat) :
    ∃ po, w.flush txs = (⟨{ w.batch with persisted_op := po }, w.store.take txs.sum⟩,
        { opIds := w.store.idsOf txs.sum }) ∧
      (po = some (w.store.op_id + txs.sum) ∨ po = w.batch.persisted_op ∧ txs.sum = 0) := by
  obtain ⟨po, h, hpo⟩ := w.batch.flush_spec w.store txs
  exact ⟨po, by simp only [Writer.flush, h], hpo⟩

theorem Writer.truncate_spec (w : Writer) (pending : List Nat) (tables : List (List Nat)) :
    ∃ po, w.truncate pending tables =
        (⟨{ w.batch with persisted_op := po }, w.store.take (pending.sum + tables.flatten.sum)⟩,
          { opIds := w.store.idsOf (pending.sum + tables.flatten.sum) }) ∧
      (po = some (w.store.op_id + (pending.sum + tables.flatten.sum)) ∨
        po = w.batch.persisted_op ∧ pending.sum + tables.flatten.sum = 0) := by
  obtain ⟨po, h, hpo⟩ := w.batch.truncate_spec w.store pending tables
  exact ⟨po, by simp only [Writer.truncate, h], hpo⟩

/-! ## One call -/

/-- What a call guarantees, from the document `d` and the values `given` before it to the
run state `r'` after it. -/
structure CallOk (d : SyncRulesDoc) (given : List String) (r' : RunState) (e : Effect) :
    Prop where
  lsn_mono : ∀ a ∈ d.last_checkpoint_lsn, ∃ b ∈ r'.doc.last_checkpoint_lsn, lsnLe a b
  lsn_written : ∀ u ∈ e.updates, ∀ l ∈ u.last_checkpoint_lsn, ∀ g ∈ given, lsnLe g l
  checkpoint_mono : ∀ c ∈ d.last_checkpoint, ∃ c' ∈ r'.doc.last_checkpoint, c ≤ c'
  covered : e.result = some true → ∀ o ∈ r'.flushed, ∃ c ∈ r'.doc.last_checkpoint, o ≤ c

/-- A call that leaves the checkpoint fields as they were and writes no LSN. -/
theorem CallOk.of_keep {d : SyncRulesDoc} {given : List String} {r' : RunState} {e : Effect}
    (hl : r'.doc.last_checkpoint_lsn = d.last_checkpoint_lsn)
    (hc : r'.doc.last_checkpoint = d.last_checkpoint)
    (hu : ∀ u ∈ e.updates, u.last_checkpoint_lsn = none)
    (hr : e.result = some true → ∀ o ∈ r'.flushed, ∃ c ∈ r'.doc.last_checkpoint, o ≤ c) :
    CallOk d given r' e where
  lsn_mono a ha := ⟨a, hl ▸ ha, lsnLe_refl a⟩
  lsn_written u hu' l hl' := by simp [hu u hu'] at hl'
  checkpoint_mono c hc' := ⟨c, hc ▸ hc', le_rfl⟩
  covered := hr

namespace RunState

variable {r : RunState}

/-- Taking ids, and making the last one pending or taking none. -/
theorem Good.take (hr : r.Good) {n : Nat} {po : Option Nat}
    (hpo : po = some (r.writer.store.op_id + n) ∨ po = r.writer.batch.persisted_op ∧ n = 0) :
    RunState.Good ⟨⟨{ r.writer.batch with persisted_op := po }, r.writer.store.take n⟩,
      r.flushed ++ r.writer.store.idsOf n, r.given⟩ :=
  ⟨hr.store.take n, hr.lsn_eq, hr.ncb_eq, hr.ncb_ge, hr.pending.take hr.store hpo⟩

theorem Good.commitFlushed (hr : r.Good) {lsn : String} {create : Bool}
    {b : MongoBucketBatch} {us : List SyncRulesUpdate} {res : Bool}
    (h : r.writer.batch.commitFlushed lsn create = (b, us, res)) (ids : List Nat) :
    RunState.Good ⟨r.writer.apply b us, r.flushed, r.given⟩ ∧
      CallOk r.doc r.given ⟨r.writer.apply b us, r.flushed, r.given⟩ ⟨ids, us, some res⟩ := by
  obtain ⟨hs, hl, hn, hg, hp⟩ := hr
  simp only [MongoBucketBatch.commitFlushed] at h
  split_ifs at h with h1 h2 h3 <;> simp only [Prod.mk.injEq] at h <;>
    obtain ⟨rfl, rfl, rfl⟩ := h
  · exact ⟨⟨hs, hl, hn, hg, hp⟩, .of_keep rfl rfl (by simp) (by simp)⟩
  · refine ⟨⟨⟨hs.checkpoint_le, hp.toList.of_le rfl le_rfl⟩, hl, hn, hg, hp.of_le rfl le_rfl⟩,
      .of_keep rfl rfl (by simp) (by simp)⟩
  · exact ⟨⟨hs, hl, hn, hg, hp⟩, .of_keep rfl rfl (by simp) fun _ ↦ by rw [h3.2] at hp; exact hp⟩
  · have hlsn : ∀ a ∈ r.doc.last_checkpoint_lsn, lsnLe a lsn := fun a ha ↦
      lsnLe_of_not_lt fun h ↦ h1 (by simp [hl, Option.mem_def.1 ha, h])
    have hwrite : ∀ g ∈ r.given, lsnLe g lsn := fun g hg' ↦
      lsnLe_trans (hg g hg') (lsnLe_of_not_lt h2)
    refine ⟨⟨⟨?_, by simp [Pending]⟩, by simp [RunState.doc], hn, hg, ?_⟩,
      ⟨fun a ha ↦ ⟨lsn, by simp [RunState.doc], hlsn a ha⟩, by simpa using hwrite, ?_,
        fun _ ↦ ?_⟩⟩ <;>
    cases hpo : r.writer.batch.persisted_op <;> rw [hpo] at hp <;>
      simp only [Pending, RunState.doc, Writer.apply_sync_rules, Writer.apply_op_id,
        SyncRulesDoc.foldl_set_singleton, SyncRulesDoc.set_last_checkpoint, Option.or_some,
        Option.or_none, Option.mem_def] at hp ⊢
    · exact hs.checkpoint_le
    · exact fun c hc ↦ Option.some.inj hc ▸ hp.1
    · exact hp
    · exact fun o ho ↦ ⟨_, rfl, hp.2.2 o ho⟩
    · exact fun c hc ↦ ⟨c, hc, le_rfl⟩
    · exact fun c hc ↦ ⟨_, rfl, hp.2.1 c hc⟩
    · exact hp
    · exact fun o ho ↦ ⟨_, rfl, hp.2.2 o ho⟩

theorem Good.keepaliveOwn (hr : r.Good) {lsn : String} {b : MongoBucketBatch}
    {us : List SyncRulesUpdate} {res : Bool}
    (h : r.writer.batch.keepaliveOwn lsn = some (b, us, res)) (ids : List Nat) :
    RunState.Good ⟨r.writer.apply b us, r.flushed, r.given⟩ ∧
      CallOk r.doc r.given ⟨r.writer.apply b us, r.flushed, r.given⟩ ⟨ids, us, some res⟩ := by
  obtain ⟨hs, hl, hn, hg, hp⟩ := hr
  simp only [MongoBucketBatch.keepaliveOwn] at h
  split_ifs at h with h1 h2 h3 <;> simp only [Option.some.injEq, Prod.mk.injEq] at h <;>
    obtain ⟨rfl, rfl, rfl⟩ := h
  · exact ⟨⟨hs, hl, hn, hg, hp⟩, .of_keep rfl rfl (by simp) (by simp)⟩
  · exact ⟨⟨hs, hl, hn, hg, hp⟩, .of_keep rfl rfl (by simp) (by simp)⟩
  · rw [Option.not_isSome_iff_eq_none.1 h3] at hp
    have hlsn : ∀ a ∈ r.doc.last_checkpoint_lsn, lsnLe a lsn := fun a ha ↦
      lsnLe_of_lt (lsnLt_of_not_le fun h ↦ h1 (by simp [hl, Option.mem_def.1 ha, h]))
    have hwrite : ∀ g ∈ r.given, lsnLe g lsn := fun g hg' ↦
      lsnLe_trans (hg g hg') (lsnLe_of_not_lt h2)
    refine ⟨⟨hs.of_eq rfl rfl rfl, by simp [RunState.doc], hn, hg,
        by simpa [Option.not_isSome_iff_eq_none.1 h3] using hp⟩,
      ⟨fun a ha ↦ ⟨lsn, by simp [RunState.doc], hlsn a ha⟩, by simpa using hwrite,
        fun c hc ↦ ⟨c, hc, le_rfl⟩, fun _ ↦ hp⟩⟩

theorem Good.markSnapshotDone (hr : r.Good) (lsn : String) :
    RunState.Good ⟨r.writer.apply (r.writer.batch.markSnapshotDone lsn).1
        (r.writer.batch.markSnapshotDone lsn).2, r.flushed, r.given ++ [lsn]⟩ ∧
      CallOk r.doc r.given ⟨r.writer.apply (r.writer.batch.markSnapshotDone lsn).1
        (r.writer.batch.markSnapshotDone lsn).2, r.flushed, r.given ++ [lsn]⟩
        { updates := (r.writer.batch.markSnapshotDone lsn).2 } := by
  obtain ⟨hs, hl, hn, hg, hp⟩ := hr
  unfold MongoBucketBatch.markSnapshotDone
  split_ifs with h
  · refine ⟨⟨hs.of_eq rfl rfl rfl, hl, rfl, ?_, hp⟩, .of_keep rfl rfl (by simp) (by simp)⟩
    simp only [List.mem_append, List.mem_singleton]
    rintro l (hl' | rfl)
    · exact lsnLe_trans (hg l hl') (lsnLe_of_lt h)
    · exact lsnLe_refl l
  · refine ⟨⟨hs, hl, hn, ?_, hp⟩, .of_keep rfl rfl (by simp) (by simp)⟩
    simp only [List.mem_append, List.mem_singleton]
    rintro l (hl' | rfl)
    · exact hg l hl'
    · exact lsnLe_of_not_lt h

theorem Good.restart (hr : r.Good) :
    RunState.Good ⟨⟨.ofSyncRules r.doc, r.writer.store⟩, r.doc.keepalive_op.toList, r.given⟩ :=
  ⟨hr.store, rfl, rfl, fun l hl ↦ by simpa only [hr.ncb_eq] using hr.ncb_ge l hl, hr.store.keepalive_op⟩

theorem Good.commit (hr : r.Good) (lsn : String) (pending : List Nat) (create : Bool) :
    RunState.Good ⟨(r.writer.commit lsn pending create).1,
        r.flushed ++ (r.writer.commit lsn pending create).2.opIds, r.given⟩ ∧
      CallOk r.doc r.given ⟨(r.writer.commit lsn pending create).1,
        r.flushed ++ (r.writer.commit lsn pending create).2.opIds, r.given⟩
        (r.writer.commit lsn pending create).2 := by
  obtain ⟨po, hf, hpo⟩ := r.writer.flush_spec pending
  obtain ⟨⟨b, us, res⟩, hx⟩ : ∃ x, ({ r.writer.batch with persisted_op := po } :
      MongoBucketBatch).commitFlushed lsn create = x := ⟨_, rfl⟩
  simp only [Writer.commit, hf, hx]
  exact (hr.take hpo).commitFlushed hx _

variable (dflt : Bool)

/-- Every call keeps the invariant and guarantees `CallOk`. -/
theorem Good.next (hr : r.Good) (c : Call) :
    (r.next dflt c).1.Good ∧ CallOk r.doc r.given (r.next dflt c).1 (r.next dflt c).2 := by
  cases c with
  | flush txs =>
    obtain ⟨po, hf, hpo⟩ := r.writer.flush_spec txs
    simp only [RunState.next, Writer.call, hf]
    exact ⟨hr.take hpo, .of_keep rfl rfl (by simp) (by simp)⟩
  | truncate pending tables | drop pending tables =>
    obtain ⟨po, hf, hpo⟩ := r.writer.truncate_spec pending tables
    simp only [RunState.next, Writer.call, hf]
    exact ⟨hr.take hpo, .of_keep rfl rfl (by simp) (by simp)⟩
  | markSnapshotDone lsn =>
    simp only [RunState.next, Writer.call, List.append_nil]
    exact hr.markSnapshotDone lsn
  | commit lsn pending create => exact hr.commit lsn pending _
  | keepalive lsn pending =>
    simp only [RunState.next, Writer.call, Writer.keepalive]
    split
    · rename_i h
      simpa only [List.append_nil] using hr.keepaliveOwn h []
    · exact hr.commit lsn pending dflt
  | restart =>
    simp only [RunState.next, Writer.call]
    exact ⟨hr.restart, .of_keep rfl rfl (by simp) (by simp)⟩

theorem Good.runCalls (hr : r.Good) (cs : List Call) : (runCalls dflt r cs).Good := by
  induction cs generalizing r with
  | nil => exact hr
  | cons c cs ih => exact ih (hr.next dflt c).1

theorem good_start {s : Store} (hs : s.Good) : (RunState.start s).Good :=
  ⟨hs, rfl, rfl, by simp [RunState.start, MongoBucketBatch.ofSyncRules, lsnLe_refl],
    hs.keepalive_op⟩

end RunState

theorem checkpoints_monotone (createEmptyDefault : Bool) (s : Store) (hs : s.Good)
    (cs : List Call) (c : Call) :
    let r := runCalls createEmptyDefault (.start s) cs
    let r' := (r.next createEmptyDefault c).1
    let e := (r.next createEmptyDefault c).2
    (∀ a ∈ r.doc.last_checkpoint_lsn, ∃ b ∈ r'.doc.last_checkpoint_lsn, lsnLe a b) ∧
    (∀ u ∈ e.updates, ∀ l ∈ u.last_checkpoint_lsn, ∀ g ∈ r.given, lsnLe g l) ∧
    (∀ n ∈ r.doc.last_checkpoint, ∃ n' ∈ r'.doc.last_checkpoint, n ≤ n') ∧
    (e.result = some true → ∀ o ∈ r'.flushed, ∃ n ∈ r'.doc.last_checkpoint, o ≤ n) :=
  let h := (((RunState.good_start hs).runCalls createEmptyDefault cs).next createEmptyDefault c).2
  ⟨h.lsn_mono, h.lsn_written, h.checkpoint_mono, h.covered⟩

/-- A fresh deployment: no checkpoint yet, and no op ids taken. -/
def freshStore : Store := ⟨⟨none, none, none, "0/0"⟩, 0⟩

theorem freshStore_good : freshStore.Good := ⟨fun _ h ↦ (nomatch h), fun _ h ↦ (nomatch h)⟩

theorem checkpoints_monotone_fresh :
    freshStore.Good ∧
    let r := runCalls true (.start freshStore) [.markSnapshotDone "0/5", .commit "0/4" [2] none]
    let r' := (r.next true (.keepalive "0/6" [])).1
    let e := (r.next true (.keepalive "0/6" [])).2
    (∀ a ∈ r.doc.last_checkpoint_lsn, ∃ b ∈ r'.doc.last_checkpoint_lsn, lsnLe a b) ∧
    (∀ u ∈ e.updates, ∀ l ∈ u.last_checkpoint_lsn, ∀ g ∈ r.given, lsnLe g l) ∧
    (∀ n ∈ r.doc.last_checkpoint, ∃ n' ∈ r'.doc.last_checkpoint, n ≤ n') ∧
    (e.result = some true → ∀ o ∈ r'.flushed, ∃ n ∈ r'.doc.last_checkpoint, o ≤ n) :=
  ⟨freshStore_good, checkpoints_monotone true freshStore freshStore_good _ _⟩

example : (runCalls true (.start freshStore)
    [.markSnapshotDone "0/5", .commit "0/4" [2] none, .keepalive "0/6" []]).doc =
      ⟨some "0/6", some 2, none, "0/5"⟩ := by decide

end PowerSync
