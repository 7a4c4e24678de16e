import Mathlib

/-!
# Op ids across concurrent writers

Every `withReplicationTransaction` attempt starts with `op_id_sequence.findOneAndUpdate`.
That call reads the `main` document and writes it in the same transaction.  The attempt
takes ids from a `MongoIdSequence` that starts at the `op_id` it read, and it writes
`opSeq.last()` back before it commits.  Attempts may come from any number of batches, in
one process or in several.

The database is modelled by its rule for write conflicts.  An attempt commits only if no
write to the document has committed since it read it.  Otherwise the attempt is aborted,
and its retry is a new attempt.  A transient error can abort an attempt at any point.

* `SeqState.Good` is the invariant, and `SeqState.Good.step` shows that every event keeps
  it.
* `op_ids_unique_increasing` shows three things over every interleaving:
  - the committed op ids are pairwise distinct;
  - each transaction's ids are above those of every transaction committed before it;
  - `op_id` is the largest id committed so far.
-/

namespace PowerSync

/-- An open attempt: its number, the version of the sequence document it read, the `op_id`
it read, and the ids it has taken since. -/
structure SeqAttempt where
  tx : Nat
  snapshot : Nat
  start : Nat
  taken : Nat
  deriving DecidableEq, Repr

/-- The committed `op_id_sequence` document, with the number of committed writes to it. -/
structure SeqDoc where
  op_id : Nat
  version : Nat
  deriving DecidableEq, Repr

/-- The shared document, the open attempts, the number of the next attempt, and the ids of
each committed transaction in commit order. -/
structure SeqState where
  doc : SeqDoc
  active : List SeqAttempt
  nextTx : Nat
  committed : List (List Nat)
  deriving DecidableEq, Repr

/-- Before any transaction: `$setOnInsert` gives `op_id` `0`. -/
def SeqState.init : SeqState := ⟨⟨0, 0⟩, [], 0, []⟩

/-- An event of the interleaving. -/
inductive SeqEvent
  /-- A new attempt runs `findOneAndUpdate`. -/
  | begin
  /-- The attempt calls `opSeq.next()`. -/
  | next (tx : Nat)
  /-- The attempt writes `opSeq.last()` and commits. -/
  | commit (tx : Nat)
  /-- A transient error aborts the attempt. -/
  | abort (tx : Nat)
  deriving DecidableEq, Repr

/-- The ids an attempt has taken. -/
def SeqAttempt.ids (a : SeqAttempt) : List Nat := List.range' (a.start + 1) a.taken

namespace SeqState

/-- The attempts other than `t`. -/
def drop (s : SeqState) (t : Nat) : List SeqAttempt := s.active.filter (·.tx ≠ t)

/-- An attempt's commit: it writes `opSeq.last()` if the document has not changed since it
read it, and is aborted otherwise. -/
def commit (s : SeqState) (t : Nat) (a : SeqAttempt) : SeqState :=
  if a.snapshot = s.doc.version then
    { s with doc := ⟨a.start + a.taken, s.doc.version + 1⟩, active := s.drop t,
             committed := s.committed ++ [a.ids] }
  else { s with active := s.drop t }

/-- One event. -/
def step (s : SeqState) : SeqEvent → SeqState
  | .begin =>
      { s with active := s.active ++ [⟨s.nextTx, s.doc.version, s.doc.op_id, 0⟩],
               nextTx := s.nextTx + 1 }
  | .next t =>
      { s with active := s.active.map fun a ↦
          if a.tx = t then { a with taken := a.taken + 1 } else a }
  | .commit t =>
      match s.active.find? (·.tx = t) with
      | some a => s.commit t a
      | none => s
  | .abort t => { s with active := s.drop t }

end SeqState

/-- The state after an interleaving. -/
def runSeq (s : SeqState) (es : List SeqEvent) : SeqState := es.foldl SeqState.step s

/-! ## The invariant -/

/-- The invariant: committed ids are distinct and ordered by commit, `op_id` is the largest
of them, and an attempt that read the current version read the current `op_id`. -/
structure SeqState.Good (s : SeqState) : Prop where
  nodup : s.committed.flatten.Nodup
  ordered : s.committed.Pairwise fun a b ↦ ∀ x ∈ a, ∀ y ∈ b, x < y
  le_op_id : ∀ x ∈ s.committed.flatten, x ≤ s.doc.op_id
  op_id_mem : s.doc.op_id = 0 ∨ s.doc.op_id ∈ s.committed.flatten
  snapshot_le : ∀ a ∈ s.active, a.snapshot ≤ s.doc.version
  current : ∀ a ∈ s.active, a.snapshot = s.doc.version → a.start = s.doc.op_id

theorem SeqState.init_good : SeqState.init.Good :=
  ⟨List.nodup_nil, List.Pairwise.nil, fun _ h ↦ (nomatch h), .inl rfl, fun _ h ↦ (nomatch h),
    fun _ h ↦ (nomatch h)⟩

namespace SeqState

variable {s : SeqState}

theorem mem_drop {t : Nat} {a : SeqAttempt} (h : a ∈ s.drop t) : a ∈ s.active :=
  (List.mem_filter.1 h).1

/-- Dropping attempts keeps the invariant. -/
theorem Good.drop (hs : s.Good) (t : Nat) : Good { s with active := s.drop t } :=
  ⟨hs.nodup, hs.ordered, hs.le_op_id, hs.op_id_mem, fun a ha ↦ hs.snapshot_le a (mem_drop ha),
    fun a ha ↦ hs.current a (mem_drop ha)⟩

/-- A commit that finds the document unchanged appends ids above every committed one. -/
theorem Good.commit (hs : s.Good) {t : Nat} {a : SeqAttempt} (ha : a ∈ s.active) :
    (s.commit t a).Good := by
  unfold SeqState.commit
  split_ifs with hv
  · have hstart := hs.current a ha hv
    have hids : ∀ y ∈ a.ids, s.doc.op_id < y ∧ y ≤ a.start + a.taken := fun y hy ↦ by
      simp only [SeqAttempt.ids, List.mem_range'_1] at hy
      omega
    refine ⟨?_, ?_, ?_, ?_, ?_, ?_⟩
    · rw [List.flatten_append, List.nodup_append]
      exact ⟨hs.nodup, by simpa [SeqAttempt.ids] using List.nodup_range' _ _,
        fun x hx hy ↦ by have := hs.le_op_id x hx; have := hids x (by simpa using hy); omega⟩
    · refine List.pairwise_append.2 ⟨hs.ordered, List.pairwise_singleton _ _, ?_⟩
      intro b hb c hc x hx y hy
      rw [List.mem_singleton.1 hc] at hy
      exact lt_of_le_of_lt (hs.le_op_id x (List.mem_flatten.2 ⟨b, hb, hx⟩)) (hids y hy).1
    · simp only [List.flatten_append, List.mem_append, List.flatten_singleton]
      rintro x (hx | hx)
      · have := hs.le_op_id x hx
        omega
      · exact (hids x hx).2
    · rcases Nat.eq_zero_or_pos a.taken with h0 | hpos
      · simp only [h0, Nat.add_zero, hstart, List.flatten_append, List.mem_append]
        exact hs.op_id_mem.imp_right .inl
      · refine .inr (List.mem_flatten.2 ⟨a.ids, by simp, ?_⟩)
        simp only [SeqAttempt.ids, List.mem_range'_1]
        omega
    · exact fun b hb ↦ (hs.snapshot_le b (mem_drop hb)).trans (Nat.le_succ _)
    · intro b hb hb'
      have := hs.snapshot_le b (mem_drop hb)
      simp only at hb'
      omega
  · exact hs.drop t

/-- Every event keeps the invariant. -/
theorem Good.step (hs : s.Good) (e : SeqEvent) : (s.step e).Good := by
  cases e with
  | begin =>
    refine ⟨hs.nodup, hs.ordered, hs.le_op_id, hs.op_id_mem, ?_, ?_⟩ <;>
      simp only [SeqState.step, List.mem_append, List.mem_singleton] <;> rintro a (ha | rfl)
    · exact hs.snapshot_le a ha
    · exact le_rfl
    · exact hs.current a ha
    · exact fun _ ↦ rfl
  | next t =>
    refine ⟨hs.nodup, hs.ordered, hs.le_op_id, hs.op_id_mem, ?_, ?_⟩ <;>
      simp only [SeqState.step, List.mem_map] <;> rintro _ ⟨a, ha, rfl⟩ <;> split
    exacts [hs.snapshot_le a ha, hs.snapshot_le a ha, hs.current a ha, hs.current a ha]
  | commit t =>
    simp only [SeqState.step]
    split
    · rename_i a h
      exact hs.commit (List.mem_of_find?_eq_some h)
    · exact hs
  | abort t => exact hs.drop t

theorem Good.runSeq (hs : s.Good) (es : List SeqEvent) : (runSeq s es).Good := by
  induction es generalizing s with
  | nil => exact hs
  | cons e es ih => exact ih (hs.step e)

end SeqState

theorem op_ids_unique_increasing (es : List SeqEvent) :
    let s := runSeq .init es
    s.committed.flatten.Nodup ∧
    s.committed.Pairwise (fun a b ↦ ∀ x ∈ a, ∀ y ∈ b, x < y) ∧
    (∀ x ∈ s.committed.flatten, x ≤ s.doc.op_id) ∧
    (s.doc.op_id = 0 ∨ s.doc.op_id ∈ s.committed.flatten) :=
  let h := SeqState.init_good.runSeq es
  ⟨h.nodup, h.ordered, h.le_op_id, h.op_id_mem⟩

/-- Two attempts read `op_id` `0`; the first commits two ids, and the second cannot commit
and starts again from `2`. -/
example : (runSeq .init [.begin, .begin, .next 0, .next 0, .next 1, .commit 0, .commit 1,
    .begin, .next 2, .commit 2]).committed = [[1, 2], [3]] := by decide

end PowerSync
