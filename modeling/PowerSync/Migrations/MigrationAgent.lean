import Mathlib

/-!
# Running migrations

`AbstractMigrationAgent.run` loads the migration state from the store and lets `execute`
run migrations one after another.  After each one, `writeLogsToStore` saves the state: the
migration's name as `last_run`, and the log with one more entry.

`execute` works out where to start from the state alone.  It finds `last_run` in the list
of migrations, reversed for a run down.  Then it looks up the direction of the last run of
that migration: the first entry of `last_run` in the log sorted newest first.  An up run
after an up, or a down run after a down, starts after `last_run`; any other run starts
at it.

`run` passes `execute` no count: whatever count the caller gives, every run executes all
the migrations it starts from.  Read as a prefix of the list, the applied migrations follow
the claim's model of calls without a count when the entries of every run are newer than the
log before it (`runCalls_refines`).  Entries of one millisecond break it.  The sort is
stable, so of two entries of `last_run` with one timestamp it finds the older one.  Were a
count passed, one of `0` would be falsy, and the run would execute every migration
(`executeLoop_count_zero`).

## What is transcribed and what is ours

* `execute`, `writeLogsToStore` and `run` follow the code, and `startIndex` and
  `executeLoop` are the two parts of `execute`, named.  A migration is its name: the model
  records which migrations a run calls `up` or `down` on, and in what order.  The lock, the
  logger and `process.exit` are left out.
* `new Date()` at the `i`-th migration of a run is `clock i`.  `log.sort` is a stable sort,
  as JavaScript's is; here it is `List.insertionSort`.
* `PrefixModel` is the claim's model.  With `k` migrations applied, a run up executes the
  next ones, and a run down executes the applied ones from the last, in reverse.
-/

namespace PowerSync

/-- `defs.Direction`. -/
inductive Direction
  | Up
  | Down
deriving DecidableEq, Repr

/-- `defs.ExecutedMigration`, with its timestamp in milliseconds. -/
structure ExecutedMigration where
  name : String
  direction : Direction
  timestamp : Nat
deriving DecidableEq, Repr

/-- `defs.MigrationState`. -/
structure MigrationState where
  last_run : String
  log : List ExecutedMigration
deriving DecidableEq, Repr

/-- A call of `run`: its direction and count, and its clock.  `new Date()` when the run's
`i`-th migration is done is `clock i`. -/
structure RunCall where
  direction : Direction
  count : Option Nat
  clock : Nat → Nat

/-- The order of `(a, b) => b.timestamp.getTime() - a.timestamp.getTime()`: `a` may come
before `b` when it is not older. -/
def NewerFirst (a b : ExecutedMigration) : Prop := b.timestamp ≤ a.timestamp

instance : DecidableRel NewerFirst := fun a b ↦
  inferInstanceAs (Decidable (b.timestamp ≤ a.timestamp))

instance : IsTotal ExecutedMigration NewerFirst :=
  ⟨fun a b ↦ le_total b.timestamp a.timestamp⟩

instance : IsTrans ExecutedMigration NewerFirst := ⟨fun _ _ _ h₁ h₂ ↦ le_trans h₂ h₁⟩

/-! ## The agent -/

/-- The entry of the last run of `state.last_run`, as `execute` finds it: the first entry of
that name in the log sorted newest first. -/
def lastLogEntry (state : MigrationState) : Option ExecutedMigration :=
  (state.log.insertionSort NewerFirst).find? (·.name == state.last_run)

/-- Where `execute` starts in `migrations`, which are already reversed for a run down. -/
def startIndex (migrations : List String) (direction : Direction) :
    Option MigrationState → Except String Nat
  | some state =>
    let last_run := state.last_run
    match migrations.findIdx? (· == last_run) with
    | none =>
      .error s!"The last run migration {last_run} was not found in the given set of migrations"
    | some index =>
      match lastLogEntry state with
      | none => .error s!"Could not find last migration log entry for {last_run}"
      | some lastLogEntry =>
        if (direction = .Up ∧ lastLogEntry.direction = .Up) ∨
            (direction = .Down ∧ lastLogEntry.direction = .Down) then .ok (index + 1)
        else .ok index
  | none => .ok (if direction = .Down then migrations.length else 0)

/-- The loop of `execute`, from its `i`-th migration.  It returns when `params.count &&
params.count === i`; otherwise it runs the migration and yields its log entry. -/
def executeLoop (direction : Direction) (count : Option Nat) (clock : Nat → Nat) :
    Nat → List String → List ExecutedMigration
  | _, [] => []
  | i, name :: rest =>
    if count.any (fun c ↦ c != 0 && c == i) then []
    else ⟨name, direction, clock i⟩ :: executeLoop direction count clock (i + 1) rest

/-- `execute(params)`: the log entries it yields, one for each migration it runs. -/
def AbstractMigrationAgent.execute (internalMigrations migrations : List String)
    (direction : Direction) (count : Option Nat) (state : Option MigrationState)
    (clock : Nat → Nat) : Except String (List ExecutedMigration) := do
  let all := internalMigrations ++ migrations
  let ordered := if direction = .Down then all.reverse else all
  let index ← startIndex ordered direction state
  pure (executeLoop direction count clock 0 (ordered.drop index))

/-- `writeLogsToStore({ log_stream, state })`: the store after it.  Each entry is pushed
onto a copy of the loaded log, and the log is saved with the entry's name as `last_run`. -/
def AbstractMigrationAgent.writeLogsToStore (state : Option MigrationState)
    (log_stream : List ExecutedMigration) (store : Option MigrationState) :
    Option MigrationState :=
  (log_stream.foldl (fun (acc : List ExecutedMigration × Option MigrationState) migration ↦
      (acc.1 ++ [migration], some ⟨migration.name, acc.1 ++ [migration]⟩))
    ((state.map (·.log)).getD [], store)).2

/-- `run(params)` on a store: the log entries of the migrations it runs, and the store
after it.  It passes `execute` the direction, the migrations, the state and the context, and
not `params.count`, so `execute` sees no count. -/
def AbstractMigrationAgent.run (internalMigrations migrations : List String) (call : RunCall)
    (store : Option MigrationState) :
    Except String (List ExecutedMigration × Option MigrationState) := do
  let state := store
  let logStream ← AbstractMigrationAgent.execute internalMigrations migrations call.direction
    none state call.clock
  pure (logStream, AbstractMigrationAgent.writeLogsToStore state logStream store)

/-- The calls of `run`, one after another from `store`: the entries of each run, and the
store after them all. -/
def AbstractMigrationAgent.runCalls (internalMigrations migrations : List String) :
    List RunCall → Option MigrationState →
      Except String (List (List ExecutedMigration) × Option MigrationState)
  | [], store => .ok ([], store)
  | call :: calls, store => do
    let (executed, store) ← AbstractMigrationAgent.run internalMigrations migrations call store
    let (rest, store) ← AbstractMigrationAgent.runCalls internalMigrations migrations calls store
    pure (executed :: rest, store)

/-! ## The applied-prefix model -/

/-- Modelled from the spec: with the first `k` migrations of `ms` applied, the migrations a
run may execute.  Up, those from `k` on, in order; down, the applied ones, in reverse. -/
def PrefixModel.candidates (ms : List String) (k : Nat) : Direction → List String
  | .Up => ms.drop k
  | .Down => (ms.take k).reverse

/-- Modelled from the spec: the first `count` (or all) of the candidates run, and the prefix
grows or shrinks by as many. -/
def PrefixModel.step (ms : List String) (k : Nat) (direction : Direction)
    (count : Option Nat) : List String × Nat :=
  let executed := match count with
    | some c => (PrefixModel.candidates ms k direction).take c
    | none => PrefixModel.candidates ms k direction
  (executed, match direction with
    | .Up => k + executed.length
    | .Down => k - executed.length)

/-- Modelled from the spec: the migrations each call executes, from `k` applied. -/
def PrefixModel.run (ms : List String) : List RunCall → Nat → List (List String)
  | [], _ => []
  | call :: calls, k =>
    (PrefixModel.step ms k call.direction call.count).1 ::
      PrefixModel.run ms calls (PrefixModel.step ms k call.direction call.count).2

/-- The log of a store. -/
def logOf (store : Option MigrationState) : List ExecutedMigration :=
  (store.map (·.log)).getD []

/-- A store of runs that left the first `k` migrations of `ms` applied: empty with none
applied, or `last_run` is the `j`-th migration, and its last run, as `execute` finds it,
went up with `k = j + 1` or down with `k = j`. -/
def Applied (ms : List String) (k : Nat) : Option MigrationState → Prop
  | none => k = 0
  | some state => ∃ j e, ms[j]? = some state.last_run ∧ lastLogEntry state = some e ∧
      k = if e.direction = .Up then j + 1 else j

/-! ## The parts of a run -/

section Parts

variable {ms : List String} {k : Nat} {store : Option MigrationState}

theorem findIdx?_of_getElem? {l : List String} (hnd : l.Nodup) {j : Nat} {x : String}
    (hj : l[j]? = some x) : l.findIdx? (· == x) = some j := by
  obtain ⟨hjl, rfl⟩ := List.getElem?_eq_some_iff.mp hj
  rw [List.findIdx?_eq_some_iff_getElem]
  exact ⟨hjl, by simp, fun i hi h ↦
    absurd (hnd.getElem_inj_iff.mp (beq_iff_eq.mp h)) (by omega)⟩

theorem Applied.le_length (h : Applied ms k store) : k ≤ ms.length := by
  cases store with
  | none => simp only [Applied] at h; omega
  | some state =>
    obtain ⟨j, e, hj, -, rfl⟩ := h
    have := (List.getElem?_eq_some_iff.mp hj).1
    split <;> omega

theorem startIndex_up (hnd : ms.Nodup) (h : Applied ms k store) :
    startIndex ms .Up store = .ok k := by
  cases store with
  | none => simp only [Applied] at h; simp [startIndex, h]
  | some state =>
    obtain ⟨j, e, hj, he, rfl⟩ := h
    simp only [startIndex, findIdx?_of_getElem? hnd hj, he]
    cases e.direction <;> simp

theorem startIndex_down (hnd : ms.Nodup) (h : Applied ms k store) :
    ∃ index, startIndex ms.reverse .Down store = .ok index ∧
      ms.reverse.drop index = (ms.take k).reverse := by
  cases store with
  | none =>
    simp only [Applied] at h
    exact ⟨ms.length, by simp [startIndex], by simp [h]⟩
  | some state =>
    obtain ⟨j, e, hj, he, rfl⟩ := h
    have hjl := (List.getElem?_eq_some_iff.mp hj).1
    have hrev : ms.reverse[ms.length - 1 - j]? = some state.last_run := by
      rw [List.getElem?_reverse (by omega), ← hj]
      congr 1
      omega
    simp only [startIndex, findIdx?_of_getElem? (List.nodup_reverse.mpr hnd) hrev, he]
    cases e.direction
    · refine ⟨ms.length - 1 - j, by simp, ?_⟩
      rw [List.drop_reverse, if_pos rfl]
      congr 2
      omega
    · refine ⟨ms.length - 1 - j + 1, by simp, ?_⟩
      rw [List.drop_reverse, if_neg (by decide)]
      congr 2
      omega

/-- Under `Applied`, `execute` starts at the candidates of the prefix model. -/
theorem execute_eq {internal migrations : List String} (hnd : (internal ++ migrations).Nodup)
    (h : Applied (internal ++ migrations) k store) (direction : Direction)
    (count : Option Nat) (clock : Nat → Nat) :
    AbstractMigrationAgent.execute internal migrations direction count store clock =
      .ok (executeLoop direction count clock 0
        (PrefixModel.candidates (internal ++ migrations) k direction)) := by
  cases direction with
  | Up => simp [AbstractMigrationAgent.execute, startIndex_up hnd h, PrefixModel.candidates]
  | Down =>
    obtain ⟨index, hi, hdrop⟩ := startIndex_down hnd h
    simp only [AbstractMigrationAgent.execute, if_true, hi, PrefixModel.candidates, ← hdrop]
    rfl

/-- A count of `0` is falsy: the loop never returns early. -/
theorem executeLoop_count_zero (direction : Direction) (clock : Nat → Nat) (i : Nat)
    (l : List String) :
    executeLoop direction (some 0) clock i l = executeLoop direction none clock i l := by
  induction l generalizing i with
  | nil => rfl
  | cons name rest ih => simp [executeLoop, ih]

theorem map_name_executeLoop_none {direction : Direction} {clock : Nat → Nat}
    (l : List String) (i : Nat) : (executeLoop direction none clock i l).map (·.name) = l := by
  induction l generalizing i with
  | nil => rfl
  | cons name rest ih => simp [executeLoop, ih]

theorem map_name_executeLoop_some {direction : Direction} {clock : Nat → Nat} {c : Nat}
    (hc : c ≠ 0) (l : List String) {i : Nat} (hi : i ≤ c) :
    (executeLoop direction (some c) clock i l).map (·.name) = l.take (c - i) := by
  induction l generalizing i with
  | nil => simp [executeLoop]
  | cons name rest ih =>
    by_cases hci : c = i
    · subst hci
      simp [executeLoop, hc]
    · rw [show c - i = c - (i + 1) + 1 by omega]
      simp [executeLoop, hc, hci, ih (show i + 1 ≤ c by omega)]

/-- With no count of `0`, the loop runs what the prefix model's step executes. -/
theorem executeLoop_names {ms : List String} {k : Nat} {direction : Direction}
    {count : Option Nat} {clock : Nat → Nat} (hcount : count ≠ some 0) :
    (executeLoop direction count clock 0 (PrefixModel.candidates ms k direction)).map (·.name) =
      (PrefixModel.step ms k direction count).1 := by
  cases count with
  | none => exact map_name_executeLoop_none _ 0
  | some c =>
    simpa [PrefixModel.step] using
      map_name_executeLoop_some (by simpa using hcount) _ (Nat.zero_le c)

theorem mem_executeLoop {direction : Direction} {count : Option Nat} {clock : Nat → Nat}
    {i : Nat} {l : List String} {e : ExecutedMigration}
    (he : e ∈ executeLoop direction count clock i l) :
    e.direction = direction ∧ ∃ n, e.timestamp = clock n := by
  induction l generalizing i with
  | nil => simp [executeLoop] at he
  | cons name rest ih =>
    simp only [executeLoop] at he
    split at he
    · simp at he
    · rcases List.mem_cons.mp he with rfl | he
      · exact ⟨rfl, i, rfl⟩
      · exact ih he

theorem foldl_push_fst (E : List ExecutedMigration) (l : List ExecutedMigration)
    (s : Option MigrationState) :
    (E.foldl (fun (acc : List ExecutedMigration × Option MigrationState) migration ↦
      (acc.1 ++ [migration], some ⟨migration.name, acc.1 ++ [migration]⟩)) (l, s)).1 =
      l ++ E := by
  induction E generalizing l s with
  | nil => simp
  | cons m E ih => simp [ih]

theorem writeLogsToStore_append_singleton (state store : Option MigrationState)
    (E : List ExecutedMigration) (m : ExecutedMigration) :
    AbstractMigrationAgent.writeLogsToStore state (E ++ [m]) store =
      some ⟨m.name, logOf state ++ E ++ [m]⟩ := by
  simp [AbstractMigrationAgent.writeLogsToStore, List.foldl_append, foldl_push_fst, logOf]

/-- The last entry of the log is found when every other entry of its name is older. -/
theorem lastLogEntry_append_singleton {L : List ExecutedMigration} {m : ExecutedMigration}
    (holder : ∀ x ∈ L, x.name = m.name → x.timestamp < m.timestamp) :
    lastLogEntry ⟨m.name, L ++ [m]⟩ = some m := by
  have hperm := List.perm_insertionSort NewerFirst (L ++ [m])
  have hsorted := List.sorted_insertionSort NewerFirst (L ++ [m])
  obtain ⟨x, hx⟩ := Option.isSome_iff_exists.mp (List.find?_isSome.mpr
    ⟨m, hperm.mem_iff.mpr (by simp), by simp⟩ :
      ((L ++ [m]).insertionSort NewerFirst).find? (·.name == m.name) |>.isSome)
  unfold lastLogEntry
  rw [hx]
  obtain ⟨hpx, as, bs, hS, has⟩ := List.find?_eq_some.mp hx
  rcases List.mem_append.mp (hperm.mem_iff.mp (hS ▸ by simp : x ∈ _)) with hxL | hxm
  · exfalso
    have hlt := holder x hxL (by simpa using hpx)
    have hm : m ∈ as ++ x :: bs := hS ▸ hperm.mem_iff.mpr (by simp)
    rw [hS] at hsorted
    rcases List.mem_append.mp hm with hma | hmx
    · simpa using has m hma
    rcases List.mem_cons.mp hmx with rfl | hmb
    · omega
    · exact absurd ((List.pairwise_cons.mp (List.pairwise_append.mp hsorted).2.1).1 m hmb)
        (by unfold NewerFirst; omega)
  · simpa using hxm

end Parts

/-! ## Refinement -/

section Model

variable {ms : List String} {k : Nat}

theorem nodup_step (hnd : ms.Nodup) (k : Nat) (direction : Direction) (count : Option Nat) :
    (PrefixModel.step ms k direction count).1.Nodup := by
  have hc : (PrefixModel.candidates ms k direction).Nodup := by
    cases direction
    · exact hnd.sublist (List.drop_sublist _ _)
    · exact List.nodup_reverse.mpr (hnd.sublist (List.take_sublist _ _))
  cases count
  · exact hc
  · exact hc.sublist (List.take_sublist _ _)

/-- What a step executes is a prefix of its candidates. -/
theorem step_eq_take (ms : List String) (k : Nat) (direction : Direction) (count : Option Nat) :
    (PrefixModel.step ms k direction count).1 =
      (PrefixModel.candidates ms k direction).take
        (PrefixModel.step ms k direction count).1.length := by
  cases count with
  | none => exact (List.take_length _).symm
  | some c => simp only [PrefixModel.step, List.length_take, List.take_eq_take]; omega

theorem step_snd (ms : List String) (k : Nat) (direction : Direction) (count : Option Nat) :
    (PrefixModel.step ms k direction count).2 =
      if direction = .Up then k + (PrefixModel.step ms k direction count).1.length
      else k - (PrefixModel.step ms k direction count).1.length := by
  cases direction <;> rfl

/-- The last migration a step executes is the `j`-th, and leaves `j + 1` applied up, or `j`
down. -/
theorem step_last (hk : k ≤ ms.length) {direction : Direction} {count : Option Nat}
    {R : List String} {x : String} (h : (PrefixModel.step ms k direction count).1 = R ++ [x]) :
    ∃ j, ms[j]? = some x ∧
      (PrefixModel.step ms k direction count).2 = if direction = .Up then j + 1 else j := by
  have hlen : (PrefixModel.step ms k direction count).1.length = R.length + 1 := by simp [h]
  have hx : (PrefixModel.candidates ms k direction)[R.length]? = some x := by
    have ht := step_eq_take ms k direction count
    rw [hlen, h] at ht
    rw [← List.getElem?_take_of_lt (Nat.lt_succ_self _), ← ht, List.getElem?_concat_length]
  have hr : R.length < (PrefixModel.candidates ms k direction).length :=
    (List.getElem?_eq_some_iff.mp hx).1
  rw [step_snd, hlen]
  cases direction with
  | Up =>
    refine ⟨k + R.length, by simpa [PrefixModel.candidates] using hx, ?_⟩
    simp only [if_true]
    omega
  | Down =>
    have hkl : (ms.take k).length = k := by simp [hk]
    simp only [PrefixModel.candidates, List.length_reverse] at hr hx
    rw [List.getElem?_reverse hr] at hx
    rw [hkl] at hr hx
    rw [List.getElem?_take_of_lt (by omega)] at hx
    refine ⟨k - 1 - R.length, hx, ?_⟩
    simp only [reduceCtorEq, if_false]
    omega

end Model

section Refinement

variable {internal migrations : List String} {k : Nat} {store : Option MigrationState}

/-- One call of `run`, from a store with `k` applied and a clock newer than its log: it
executes what the prefix model says of a call with no count, and leaves a store with the
model's prefix applied, whose log is the old log and entries of the call's clock. -/
theorem AbstractMigrationAgent.run_refines (hnd : (internal ++ migrations).Nodup)
    (h : Applied (internal ++ migrations) k store) (call : RunCall)
    (hfresh : ∀ x ∈ logOf store, ∀ i, x.timestamp < call.clock i) :
    ∃ executed store',
      AbstractMigrationAgent.run internal migrations call store = .ok (executed, store') ∧
      executed.map (·.name) =
        (PrefixModel.step (internal ++ migrations) k call.direction none).1 ∧
      Applied (internal ++ migrations)
        (PrefixModel.step (internal ++ migrations) k call.direction none).2 store' ∧
      ∀ x ∈ logOf store', x ∈ logOf store ∨ ∃ i, x.timestamp = call.clock i := by
  have hnames : (executeLoop call.direction none call.clock 0
      (PrefixModel.candidates (internal ++ migrations) k call.direction)).map (·.name) =
        (PrefixModel.step (internal ++ migrations) k call.direction none).1 :=
    map_name_executeLoop_none _ 0
  refine ⟨_, _, by simp [AbstractMigrationAgent.run, execute_eq hnd h]; rfl, hnames, ?_⟩
  rcases List.eq_nil_or_concat (executeLoop call.direction none call.clock 0
      (PrefixModel.candidates (internal ++ migrations) k call.direction)) with hE | ⟨E, m, hE⟩
  · -- nothing ran, and nothing is saved
    rw [hE] at hnames ⊢
    have hk : (PrefixModel.step (internal ++ migrations) k call.direction none).2 = k := by
      rw [step_snd, ← hnames]
      split <;> rfl
    exact ⟨by rwa [hk], fun x hx ↦ .inl hx⟩
  · rw [hE, List.concat_eq_append] at hnames ⊢
    rw [List.concat_eq_append] at hE
    rw [writeLogsToStore_append_singleton]
    have hm : m ∈ executeLoop call.direction none call.clock 0
        (PrefixModel.candidates (internal ++ migrations) k call.direction) := by simp [hE]
    obtain ⟨hmd, i, hmi⟩ := mem_executeLoop hm
    have hR : (PrefixModel.step (internal ++ migrations) k call.direction none).1 =
        E.map (·.name) ++ [m.name] := by simp [← hnames]
    obtain ⟨j, hj, hk⟩ := step_last h.le_length hR
    have hnodup := nodup_step hnd k call.direction none
    rw [hR, List.nodup_append] at hnodup
    refine ⟨⟨j, m, hj, lastLogEntry_append_singleton fun x hx hxn ↦ ?_, by rw [hk, hmd]⟩,
      ?_⟩
    · rcases List.mem_append.mp hx with hx | hx
      · exact hmi ▸ hfresh x hx i
      · exact (hnodup.2.2 (List.mem_map_of_mem _ hx) (by simp [hxn])).elim
    · intro x hx
      simp only [logOf, Option.map_some', Option.getD_some, List.mem_append,
        List.mem_singleton] at hx
      rcases hx with (hx | hx) | rfl
      · exact .inl hx
      · exact .inr (mem_executeLoop (hE ▸ List.mem_append_left [m] hx)).2
      · exact .inr ⟨i, hmi⟩

/-- The run lemma: from a store with `k` applied, calls each with a clock newer than the
log and than every earlier call's run without error, and each executes what the prefix
model says of it without its count. -/
theorem runCalls_refines_from (hnd : (internal ++ migrations).Nodup) (calls : List RunCall)
    (h : Applied (internal ++ migrations) k store)
    (hclock : calls.Pairwise fun a b ↦ ∀ i j, a.clock i < b.clock j)
    (hfresh : ∀ x ∈ logOf store, ∀ c ∈ calls, ∀ i, x.timestamp < c.clock i) :
    ∃ executed store',
      AbstractMigrationAgent.runCalls internal migrations calls store = .ok (executed, store') ∧
      executed.map (·.map (·.name)) =
        PrefixModel.run (internal ++ migrations) (calls.map fun c ↦ { c with count := none }) k := by
  induction calls generalizing k store with
  | nil => exact ⟨[], store, rfl, rfl⟩
  | cons call calls ih =>
    obtain ⟨hfirst, hrest⟩ := List.pairwise_cons.mp hclock
    obtain ⟨E, store', hrun, hnames, happ, hlog⟩ :=
      AbstractMigrationAgent.run_refines hnd h call fun x hx ↦ hfresh x hx call (List.mem_cons_self _ _)
    obtain ⟨rest, s, hcalls, hmap⟩ :=
      ih happ hrest fun x hx c hc i ↦ by
        rcases hlog x hx with hx | ⟨i', hi'⟩
        · exact hfresh x hx c (List.mem_cons_of_mem _ hc) i
        · exact hi' ▸ hfirst c hc i' i
    refine ⟨E :: rest, s, ?_, by simp [PrefixModel.run, hnames, hmap]⟩
    simp only [AbstractMigrationAgent.runCalls, hrun, bind, Except.bind, hcalls]
    rfl

/-- Every sequence of calls on an empty store, with clocks that run forward from call to call,
runs without error and executes in each call what the applied-prefix model says of the call
without its count: every candidate. -/
theorem runCalls_refines (hnd : (internal ++ migrations).Nodup) (calls : List RunCall)
    (hclock : calls.Pairwise fun a b ↦ ∀ i j, a.clock i < b.clock j) :
    ∃ executed store,
      AbstractMigrationAgent.runCalls internal migrations calls none = .ok (executed, store) ∧
      executed.map (·.map (·.name)) =
        PrefixModel.run (internal ++ migrations) (calls.map fun c ↦ { c with count := none }) 0 :=
  runCalls_refines_from hnd calls rfl hclock (by simp [logOf])

end Refinement

/-! ## One millisecond

Two migrations, applied by a run up, then two runs down of count `1`, all in one
millisecond.  `run` drops the count, so the first run down reverts both.  The second finds
`m0`'s entry of the run up, which sorts first among the entries of that millisecond, and
reverts `m0` again, though it is not applied. -/

/-- Up, down one, down one, all in one millisecond. -/
def sameMillisecondCalls : List RunCall :=
  [⟨.Up, none, fun _ ↦ 0⟩, ⟨.Down, some 1, fun _ ↦ 0⟩, ⟨.Down, some 1, fun _ ↦ 0⟩]

theorem same_millisecond_reverts_twice :
    PrefixModel.run ["m0", "m1"] sameMillisecondCalls 0 = [["m0", "m1"], ["m1"], ["m0"]] ∧
    (AbstractMigrationAgent.runCalls [] ["m0", "m1"] sameMillisecondCalls none).map
        (·.1.map (·.map (·.name))) =
      .ok [["m0", "m1"], ["m1", "m0"], ["m0"]] := ⟨rfl, rfl⟩

end PowerSync
