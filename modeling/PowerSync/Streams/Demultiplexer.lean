import PowerSync.Util.JsMap

/-!
# The demultiplexer

`Demultiplexer` shares one upstream source between the callers of `subscribe`.  The
first subscriber makes `start` call the source factory.  Each later subscriber adds its
sink to the listeners map of the current source.  When the last sink is removed, the
source is aborted and the state is cleared, so that the next subscriber starts a new
source.

The loop of an aborted source can still be running.  It reads the listeners map that
`start` made for it: the same `Map` object that `subscribers` held while that source was
current.  In this model each map is the one made for its source, so a reference to it is
the source's number, and `this.subscribers === sinks` compares numbers.

A run interleaves the steps of `subscribe` calls and of the loops.  The steps of a call
are the registration of its sink, the resolution of `getFirstValue`, and its `finally`,
which runs when the caller returns or the sink fails.  A loop can receive a value, the end
of its iterator, or an error from it.  The factory does not throw.

* `Demux.Good` is the invariant, and `Demux.Good.step` shows that every event keeps it.
* `demux_safe` shows four things of every reachable state and the event after it:
  - `subscribers`, `abortController` and `currentSource` are set together, and then the
    map is not empty and no key's set is empty;
  - the factory is called only when no source is current, and every live subscription
    is on the current source;
  - removing the last sink aborts the current source and clears the state;
  - a value from the current source reaches exactly the open subscriptions of its key,
    and no sink is ever sent anything by another source than its own.
-/

namespace PowerSync

/-- What `subscribe` yields, or what its sink receives from a loop. -/
inductive SinkMsg
  | first (v : Nat)
  | write (v : Nat)
  | finish
  | error
  deriving DecidableEq, Repr

/-- The loop of one source: the listeners map `start` made for it, its controller's
signal, and whether the loop has returned. -/
structure DemuxLoop where
  listeners : JsMap String (List Nat)
  aborted : Bool
  finished : Bool

/-- The loop of a source the factory has not made. -/
def DemuxLoop.idle : DemuxLoop := ⟨JsMap.empty, false, false⟩

/-- Where a call of `subscribe` is: waiting for `getFirstValue`, yielding from its sink, or
past its `finally`. -/
inductive SubPhase
  | awaitingFirst
  | streaming
  | closed
  deriving DecidableEq, Repr

/-- A call of `subscribe`: its key, and the source `addSink` returned. -/
structure Subscription where
  key : String
  source : Nat
  phase : SubPhase
  deriving DecidableEq, Repr

/-- The demultiplexer's fields, the loops of the sources the factory made, the calls of
`subscribe` (call `j` owns sink `j`), and every message sent to a sink, with the source
that sent it.  A `Set<LastValueSink>` is its sinks in insertion order. -/
structure Demux where
  subscribers : Option Nat
  abortController : Option Nat
  currentSource : Option Nat
  loops : Nat → DemuxLoop
  sources : Nat
  subs : List Subscription
  delivered : List (Nat × Nat × SinkMsg)

/-- An event of a run. -/
inductive DemuxEvent
  /-- A call of `subscribe` registers its sink. -/
  | subscribe (key : String)
  /-- The `getFirstValue` of a call resolves, and the call yields the value. -/
  | firstValue (sink : Nat) (v : Nat)
  /-- The `finally` of a call. -/
  | close (sink : Nat)
  /-- The iterator of a source yields a document. -/
  | value (source : Nat) (key : String) (v : Nat)
  /-- The iterator of a source ends. -/
  | finish (source : Nat)
  /-- The iterator of a source throws. -/
  | fail (source : Nat)
  deriving DecidableEq, Repr

namespace Demux

/-- Before any subscriber. -/
def init : Demux := ⟨none, none, none, fun _ ↦ .idle, 0, [], []⟩

/-- Change the loop of one source. -/
def updateLoop (d : Demux) (i : Nat) (f : DemuxLoop → DemuxLoop) : Demux :=
  { d with loops := fun k ↦ if k = i then f (d.loops k) else d.loops k }

/-- Unset `subscribers`, `abortController` and `currentSource`. -/
def clear (d : Demux) : Demux :=
  { d with subscribers := none, abortController := none, currentSource := none }

/-- `start`: a new controller and listeners map, and the factory's new source. -/
def start (d : Demux) (key : String) (sink : Nat) : Demux × Nat :=
  let i := d.sources
  ({ d with
      loops := fun k ↦ if k = i then ⟨JsMap.empty.set key [sink], false, false⟩ else d.loops k
      abortController := some i, subscribers := some i, sources := i + 1,
      currentSource := some i }, i)

/-- `addSink`: `none` when `this.subscribers!` throws. -/
def addSink (d : Demux) (key : String) (sink : Nat) : Option (Demux × Nat) :=
  match d.currentSource, d.subscribers with
  | none, _ => some (d.start key sink)
  | some _, none => none
  | some src, some m =>
      let map := (d.loops m).listeners
      let map := match map.get? key with
        | some existing => map.set key (existing ++ [sink])
        | none => map.set key [sink]
      some (d.updateLoop m ({ · with listeners := map }), src)

/-- `removeSink`. -/
def removeSink (d : Demux) (key : String) (sink : Nat) : Demux :=
  match d.subscribers with
  | none => d
  | some m =>
      let map := (d.loops m).listeners
      match map.get? key with
      | none => d
      | some existing =>
          let existing := existing.erase sink
          let map := if existing.length = 0 then map.delete key else map.set key existing
          let d := d.updateLoop m ({ · with listeners := map })
          if map.size = 0 then
            let d := match d.abortController with
              | some c => d.updateLoop c ({ · with aborted := true })
              | none => d
            d.clear
          else d

/-- Send a message to every sink in a loop's map. -/
def sendAll (d : Demux) (i : Nat) (msg : SinkMsg) : Demux :=
  { d with delivered := d.delivered ++
      ((d.loops i).listeners.values.flatten.map fun j ↦ (j, i, msg)) }

/-- The `finally` of a loop. -/
def loopFinally (d : Demux) (i : Nat) : Demux :=
  let d := d.updateLoop i ({ · with finished := true })
  if d.subscribers = some i then d.clear else d

/-- The `catch` of a loop, then its `finally`. -/
def loopCatch (d : Demux) (i : Nat) : Demux :=
  ((d.updateLoop i ({ · with aborted := true })).sendAll i .error).loopFinally i

/-- One document of the iterator. -/
def onValue (d : Demux) (i : Nat) (key : String) (v : Nat) : Demux :=
  let l := d.loops i
  if l.aborted ∨ l.listeners.size = 0 then d.loopCatch i
  else match l.listeners.get? key with
    | some sinks => { d with delivered := d.delivered ++ sinks.map fun j ↦ (j, i, .write v) }
    | none => d

/-- The loop of source `i` is running. -/
def running (d : Demux) (i : Nat) : Prop := i < d.sources ∧ (d.loops i).finished = false

instance (d : Demux) (i : Nat) : Decidable (d.running i) :=
  inferInstanceAs (Decidable (_ ∧ _))

/-- Change the phase of a call. -/
def setPhase (d : Demux) (j : Nat) (p : SubPhase) : Demux :=
  { d with subs := d.subs.modify (fun s ↦ { s with phase := p }) j }

/-- One event. -/
def step (d : Demux) : DemuxEvent → Demux
  | .subscribe key =>
      match d.addSink key d.subs.length with
      | some (d', src) => { d' with subs := d'.subs ++ [⟨key, src, .awaitingFirst⟩] }
      | none => d
  | .firstValue j v =>
      match d.subs[j]? with
      | some s =>
          if s.phase = .awaitingFirst then
            { d.setPhase j .streaming with delivered := d.delivered ++ [(j, s.source, .first v)] }
          else d
      | none => d
  | .close j =>
      match d.subs[j]? with
      | some s => if s.phase = .closed then d else (d.removeSink s.key j).setPhase j .closed
      | none => d
  | .value i key v => if d.running i then d.onValue i key v else d
  | .finish i => if d.running i then (d.sendAll i .finish).loopFinally i else d
  | .fail i => if d.running i then d.loopCatch i else d

end Demux

/-- The state after a run. -/
def runDemux (d : Demux) (es : List DemuxEvent) : Demux := es.foldl Demux.step d

/-! ## The invariant -/

namespace Demux

variable {d : Demux}

/-! ## Frames -/

@[simp] theorem updateLoop_loops (d : Demux) (i : Nat) (f : DemuxLoop → DemuxLoop) (k : Nat) :
    (d.updateLoop i f).loops k = if k = i then f (d.loops k) else d.loops k := rfl

section Frames

variable (d : Demux) (i : Nat) (f : DemuxLoop → DemuxLoop)

@[simp] theorem updateLoop_subscribers : (d.updateLoop i f).subscribers = d.subscribers := rfl
@[simp] theorem updateLoop_abortController :
    (d.updateLoop i f).abortController = d.abortController := rfl
@[simp] theorem updateLoop_currentSource :
    (d.updateLoop i f).currentSource = d.currentSource := rfl
@[simp] theorem updateLoop_sources : (d.updateLoop i f).sources = d.sources := rfl
@[simp] theorem updateLoop_subs : (d.updateLoop i f).subs = d.subs := rfl
@[simp] theorem updateLoop_delivered : (d.updateLoop i f).delivered = d.delivered := rfl
@[simp] theorem clear_subscribers : d.clear.subscribers = none := rfl
@[simp] theorem clear_abortController : d.clear.abortController = none := rfl
@[simp] theorem clear_currentSource : d.clear.currentSource = none := rfl
@[simp] theorem clear_loops : d.clear.loops = d.loops := rfl
@[simp] theorem clear_sources : d.clear.sources = d.sources := rfl
@[simp] theorem clear_subs : d.clear.subs = d.subs := rfl
@[simp] theorem clear_delivered : d.clear.delivered = d.delivered := rfl

@[simp] theorem setPhase_loops (j : Nat) (p : SubPhase) : (d.setPhase j p).loops = d.loops := rfl
@[simp] theorem setPhase_subscribers (j : Nat) (p : SubPhase) :
    (d.setPhase j p).subscribers = d.subscribers := rfl
@[simp] theorem setPhase_abortController (j : Nat) (p : SubPhase) :
    (d.setPhase j p).abortController = d.abortController := rfl
@[simp] theorem setPhase_currentSource (j : Nat) (p : SubPhase) :
    (d.setPhase j p).currentSource = d.currentSource := rfl
@[simp] theorem setPhase_sources (j : Nat) (p : SubPhase) :
    (d.setPhase j p).sources = d.sources := rfl
@[simp] theorem setPhase_delivered (j : Nat) (p : SubPhase) :
    (d.setPhase j p).delivered = d.delivered := rfl

end Frames

@[simp] theorem setPhase_subs_getElem? (d : Demux) (j : Nat) (p : SubPhase) (j' : Nat) :
    (d.setPhase j p).subs[j']? =
      d.subs[j']?.map fun s ↦ if j = j' then { s with phase := p } else s := by
  simp only [setPhase, List.getElem?_modify]
  rfl

/-! ## Registrations -/

/-- Call `j` registered its sink under `key`, with source `i`. -/
def Reg (d : Demux) (j : Nat) (key : String) (i : Nat) : Prop :=
  ∃ s, d.subs[j]? = some s ∧ s.key = key ∧ s.source = i

/-- Call `j` registered its sink under `key` with source `i`, and has not passed its
`finally`. -/
def Open (d : Demux) (j : Nat) (key : String) (i : Nat) : Prop :=
  ∃ s, d.subs[j]? = some s ∧ s.key = key ∧ s.source = i ∧ s.phase ≠ .closed

/-- Source `i` is current: the three fields hold it, its loop runs and is not aborted, and
its map has a key and no empty set. -/
structure Current (d : Demux) (i : Nat) : Prop where
  subscribers : d.subscribers = some i
  abortController : d.abortController = some i
  currentSource : d.currentSource = some i
  lt : i < d.sources
  not_aborted : (d.loops i).aborted = false
  not_finished : (d.loops i).finished = false
  size_ne : (d.loops i).listeners.size ≠ 0
  ne_nil : ∀ k l, (d.loops i).listeners.get? k = some l → l ≠ []

/-- No source is current. -/
def Unset (d : Demux) : Prop :=
  d.subscribers = none ∧ d.abortController = none ∧ d.currentSource = none

/-- The invariant. -/
structure Good (d : Demux) : Prop where
  state : d.Unset ∨ ∃ i, d.Current i
  stopped : ∀ i < d.sources, d.currentSource ≠ some i →
    (d.loops i).aborted = true ∨ (d.loops i).finished = true
  keys_nodup : ∀ i, (d.loops i).listeners.Nodup
  sinks_nodup : ∀ i, ∀ e ∈ (d.loops i).listeners.entries, e.2.Nodup
  registered : ∀ i, ∀ e ∈ (d.loops i).listeners.entries, ∀ j ∈ e.2, d.Reg j e.1 i
  exact : ∀ i, d.currentSource = some i →
    ∀ j k, j ∈ ((d.loops i).listeners.get? k).getD [] ↔ d.Open j k i
  delivered : ∀ x ∈ d.delivered, ∃ s, d.subs[x.1]? = some s ∧ s.source = x.2.1
  source_lt : ∀ (j : Nat) (s : Subscription), d.subs[j]? = some s → s.source < d.sources

theorem init_good : init.Good where
  state := .inl ⟨rfl, rfl, rfl⟩
  stopped _ h := absurd h (Nat.not_lt_zero _)
  keys_nodup _ := List.nodup_nil
  sinks_nodup _ _ h := nomatch h
  registered _ _ h := nomatch h
  exact _ h := nomatch h
  delivered _ h := nomatch h
  source_lt _ _ h := nomatch h

theorem Good.subscribers_eq (hd : d.Good) : d.subscribers = d.currentSource := by
  rcases hd.state with ⟨h1, -, h3⟩ | ⟨i, hi⟩
  · rw [h1, h3]
  · rw [hi.subscribers, hi.currentSource]

theorem Good.current (hd : d.Good) {i : Nat} (h : d.currentSource = some i) : d.Current i := by
  rcases hd.state with ⟨-, -, h3⟩ | ⟨c, hc⟩
  · simp [h3] at h
  · obtain rfl : c = i := Option.some.inj (hc.currentSource.symm.trans h)
    exact hc

theorem Current.of_fields {d' : Demux} {i : Nat} (hc : d.Current i)
    (h1 : d'.subscribers = d.subscribers) (h2 : d'.abortController = d.abortController)
    (h3 : d'.currentSource = d.currentSource) (hsrc : d'.sources = d.sources)
    (hl : d'.loops i = d.loops i) : d'.Current i :=
  ⟨h1 ▸ hc.subscribers, h2 ▸ hc.abortController, h3 ▸ hc.currentSource, hsrc ▸ hc.lt,
    hl ▸ hc.not_aborted, hl ▸ hc.not_finished, hl ▸ hc.size_ne, hl ▸ hc.ne_nil⟩

/-! ## Steps that change flags and fields only -/

/-- A step that keeps every map and the sources keeps the invariant if it keeps the
registrations, the open ones of a current source, the first two fields of the invariant
and the senders of messages, and makes no new source current. -/
theorem Good.of_frame {d' : Demux} (hd : d.Good)
    (hreg : ∀ j k i, d.Reg j k i → d'.Reg j k i)
    (hopen : ∀ i, d'.currentSource = some i → ∀ j k, d'.Open j k i ↔ d.Open j k i)
    (hdel : ∀ x ∈ d'.delivered, ∃ s, d'.subs[x.1]? = some s ∧ s.source = x.2.1)
    (hlt : ∀ (j : Nat) (s : Subscription), d'.subs[j]? = some s → s.source < d'.sources)
    (hl : ∀ k, (d'.loops k).listeners = (d.loops k).listeners)
    (hstate : d'.Unset ∨ ∃ i, d'.Current i)
    (hstop : ∀ i < d'.sources, d'.currentSource ≠ some i →
      (d'.loops i).aborted = true ∨ (d'.loops i).finished = true)
    (hcur : ∀ i, d'.currentSource = some i → d.currentSource = some i) : d'.Good where
  state := hstate
  stopped := hstop
  keys_nodup i := hl i ▸ hd.keys_nodup i
  sinks_nodup i := hl i ▸ hd.sinks_nodup i
  registered i e he j hj := hreg j e.1 i (hd.registered i e (hl i ▸ he) j hj)
  exact i hi j k := by rw [hl i, hopen i hi]; exact hd.exact i (hcur i hi) j k
  delivered := hdel
  source_lt := hlt

/-- `of_frame` for a step that keeps the calls and the sources. -/
theorem Good.of_flags {d' : Demux} (hd : d.Good) (hsubs : d'.subs = d.subs)
    (hdel : ∀ x ∈ d'.delivered, ∃ s, d.subs[x.1]? = some s ∧ s.source = x.2.1)
    (hsrc : d'.sources = d.sources)
    (hl : ∀ k, (d'.loops k).listeners = (d.loops k).listeners)
    (hstate : d'.Unset ∨ ∃ i, d'.Current i)
    (hstop : ∀ i < d'.sources, d'.currentSource ≠ some i →
      (d'.loops i).aborted = true ∨ (d'.loops i).finished = true)
    (hcur : ∀ i, d'.currentSource = some i → d.currentSource = some i) : d'.Good :=
  hd.of_frame (fun j k i h ↦ by simpa only [Reg, hsubs] using h)
    (fun _ _ j k ↦ by simp only [Open, hsubs]) (by simpa only [hsubs] using hdel)
    (by simpa only [hsubs, hsrc] using hd.source_lt) hl hstate hstop hcur

theorem Good.sendAll (hd : d.Good) (i : Nat) (msg : SinkMsg) : (d.sendAll i msg).Good := by
  refine hd.of_flags rfl ?_ rfl (fun _ ↦ rfl) ?_ hd.stopped (fun _ ↦ id)
  · intro x hx
    rcases List.mem_append.1 hx with hx | hx
    · exact hd.delivered x hx
    · obtain ⟨j, hj, rfl⟩ := List.mem_map.1 hx
      obtain ⟨l, hl, hjl⟩ := List.mem_flatten.1 hj
      obtain ⟨e, he, rfl⟩ := List.mem_map.1 hl
      obtain ⟨s, hs, -, hsrc⟩ := hd.registered i e he j hjl
      exact ⟨s, hs, hsrc⟩
  · rcases hd.state with hu | ⟨c, hc⟩
    · exact .inl hu
    · exact .inr ⟨c, hc.of_fields rfl rfl rfl rfl rfl⟩

/-- A change of one loop's flags keeps every map. -/
theorem updateLoop_listeners (d : Demux) (i : Nat) {f : DemuxLoop → DemuxLoop}
    (hf : ∀ l, (f l).listeners = l.listeners) (k : Nat) :
    ((d.updateLoop i f).loops k).listeners = (d.loops k).listeners := by
  rw [updateLoop_loops]
  split_ifs
  exacts [hf _, rfl]

theorem updateLoop_loops_of_ne (d : Demux) {i k : Nat} (f : DemuxLoop → DemuxLoop) (h : k ≠ i) :
    (d.updateLoop i f).loops k = d.loops k :=
  if_neg h

/-- After the `finally` of a loop, or its `catch` and `finally`, the loop has stopped, and
the state is clear if it was the current one. -/
theorem Good.of_loopEnd {d' : Demux} (hd : d.Good) (i : Nat) (hsubs : d'.subs = d.subs)
    (hdel : d'.delivered = d.delivered) (hsrc : d'.sources = d.sources)
    (hl : ∀ k, (d'.loops k).listeners = (d.loops k).listeners)
    (hflags : ∀ k, k ≠ i → d'.loops k = d.loops k) (hfin : (d'.loops i).finished = true)
    (hclear : d.subscribers = some i ∧ d'.Unset ∨ d.subscribers ≠ some i ∧
      d'.subscribers = d.subscribers ∧ d'.abortController = d.abortController ∧
        d'.currentSource = d.currentSource) : d'.Good := by
  have hsub := hd.subscribers_eq
  have hdel' : ∀ x ∈ d'.delivered, ∃ s, d.subs[x.1]? = some s ∧ s.source = x.2.1 :=
    hdel ▸ hd.delivered
  rcases hclear with ⟨h, hclear⟩ | ⟨h, h1, h2, h3⟩
  · refine hd.of_flags hsubs hdel' hsrc hl (.inl hclear) (fun k hk _ ↦ ?_) (by simp [hclear.2.2])
    by_cases hki : k = i
    · exact .inr (hki ▸ hfin)
    · rw [hflags k hki]
      exact hd.stopped k (hsrc ▸ hk) (by rw [← hsub, h]; simpa using Ne.symm hki)
  · refine hd.of_flags hsubs hdel' hsrc hl ?_ (fun k hk hc ↦ ?_) (fun k hk ↦ h3 ▸ hk)
    · rcases hd.state with hu | ⟨c, hc⟩
      · exact .inl ⟨h1 ▸ hu.1, h2 ▸ hu.2.1, h3 ▸ hu.2.2⟩
      · have hci : c ≠ i := fun hci ↦ h (hci ▸ hc.subscribers)
        exact .inr ⟨c, hc.of_fields h1 h2 h3 hsrc (hflags c hci)⟩
    · by_cases hki : k = i
      · exact .inr (hki ▸ hfin)
      · rw [hflags k hki]
        exact hd.stopped k (hsrc ▸ hk) (h3 ▸ hc)

theorem Good.loopFinally (hd : d.Good) (i : Nat) : (d.loopFinally i).Good := by
  have hl := updateLoop_listeners d i (f := ({ · with finished := true })) fun _ ↦ rfl
  have hfl := fun k (hk : k ≠ i) ↦ updateLoop_loops_of_ne d ({ · with finished := true }) hk
  dsimp only [Demux.loopFinally]
  split_ifs with h
  · exact hd.of_loopEnd i rfl rfl rfl hl hfl (by simp) (.inl ⟨h, rfl, rfl, rfl⟩)
  · exact hd.of_loopEnd i rfl rfl rfl hl hfl (by simp) (.inr ⟨h, rfl, rfl, rfl⟩)

theorem Good.loopCatch (hd : d.Good) (i : Nat) : (d.loopCatch i).Good := by
  let d0 := d.updateLoop i ({ · with aborted := true })
  have ha := updateLoop_listeners d i (f := ({ · with aborted := true })) fun _ ↦ rfl
  have hl := updateLoop_listeners (d0.sendAll i .error) i (f := ({ · with finished := true }))
    fun _ ↦ rfl
  have hdel : (d0.sendAll i .error).delivered = (d.sendAll i .error).delivered := by
    simp only [Demux.sendAll, d0, updateLoop_delivered, ha]
  have hfl : ∀ k, k ≠ i →
      ((d0.sendAll i .error).updateLoop i ({ · with finished := true })).loops k = d.loops k :=
    fun k hk ↦ (updateLoop_loops_of_ne _ _ hk).trans
      (updateLoop_loops_of_ne d ({ · with aborted := true }) hk)
  dsimp only [Demux.loopCatch, Demux.loopFinally]
  split_ifs with h
  · exact (hd.sendAll i .error).of_loopEnd i rfl hdel rfl (fun k ↦ (hl k).trans (ha k)) hfl
      (by simp) (.inl ⟨h, rfl, rfl, rfl⟩)
  · exact (hd.sendAll i .error).of_loopEnd i rfl hdel rfl (fun k ↦ (hl k).trans (ha k)) hfl
      (by simp) (.inr ⟨h, rfl, rfl, rfl⟩)

/-! ## Registration -/

theorem getElem?_append_singleton {α : Type} (l : List α) (a : α) (n : Nat) :
    (l ++ [a])[n]? = if n = l.length then some a else l[n]? := by
  rcases Nat.lt_trichotomy n l.length with h | rfl | h
  · rw [List.getElem?_append_left h, if_neg (Nat.ne_of_lt h)]
  · simp
  · rw [List.getElem?_append_right h.le, if_neg (Nat.ne_of_gt h),
      List.getElem?_eq_none (by simp; omega), List.getElem?_eq_none h.le]

theorem Reg.lt {j : Nat} {k : String} {i : Nat} (h : d.Reg j k i) : j < d.subs.length := by
  obtain ⟨s, hs, -⟩ := h
  exact (List.getElem?_eq_some_iff.1 hs).1

theorem reg_append {d' : Demux} {s : Subscription} (h : d'.subs = d.subs ++ [s])
    {j : Nat} {k : String} {i : Nat} :
    d'.Reg j k i ↔ d.Reg j k i ∨ (j = d.subs.length ∧ s.key = k ∧ s.source = i) := by
  unfold Reg
  rw [h, getElem?_append_singleton]
  split_ifs with hj
  · subst hj
    simp only [Option.some.injEq, exists_eq_left', List.getElem?_length, reduceCtorEq, false_and,
      exists_false, true_and, false_or]
  · simp only [hj, false_and, or_false]

theorem open_append {d' : Demux} {s : Subscription} (h : d'.subs = d.subs ++ [s])
    {j : Nat} {k : String} {i : Nat} :
    d'.Open j k i ↔
      d.Open j k i ∨
        (j = d.subs.length ∧ s.key = k ∧ s.source = i ∧ s.phase ≠ .closed) := by
  unfold Open
  rw [h, getElem?_append_singleton]
  split_ifs with hj
  · subst hj
    simp only [Option.some.injEq, ne_eq, exists_eq_left', List.getElem?_length, reduceCtorEq,
      false_and, exists_false, true_and, false_or]
  · simp only [ne_eq, hj, false_and, or_false]

theorem Good.not_open_of_source_ge (hd : d.Good) {j : Nat} {k : String} {i : Nat}
    (hi : d.sources ≤ i) : ¬ d.Open j k i := by
  rintro ⟨s, hs, -, rfl, -⟩
  exact absurd (hd.source_lt _ s hs) (Nat.not_lt.2 hi)

theorem Good.delivered_append (hd : d.Good) {d' : Demux} {s : Subscription}
    (h : d'.subs = d.subs ++ [s]) :
    ∀ x ∈ d.delivered, ∃ t, d'.subs[x.1]? = some t ∧ t.source = x.2.1 := by
  intro x hx
  obtain ⟨t, ht, hsrc⟩ := hd.delivered x hx
  refine ⟨t, ?_, hsrc⟩
  rw [h, getElem?_append_singleton, if_neg (Nat.ne_of_lt (List.getElem?_eq_some_iff.1 ht).1)]
  exact ht

/-- A step that gives source `m` a new map and keeps the others keeps the invariant if the new
map has distinct keys and sinks, each sink registered under its key with `m`, and the step
keeps the registrations and the other fields of the invariant. -/
theorem Good.of_map {d' : Demux} (hd : d.Good) {m : Nat} {map : JsMap String (List Nat)}
    (hl : ∀ k, (d'.loops k).listeners = if k = m then map else (d.loops k).listeners)
    (hkeys : map.Nodup) (hsinks : ∀ e ∈ map.entries, e.2.Nodup)
    (hmap : ∀ e ∈ map.entries, ∀ j ∈ e.2, d'.Reg j e.1 m)
    (hreg : ∀ j k i, d.Reg j k i → d'.Reg j k i)
    (hstate : d'.Unset ∨ ∃ i, d'.Current i)
    (hstop : ∀ i < d'.sources, d'.currentSource ≠ some i →
      (d'.loops i).aborted = true ∨ (d'.loops i).finished = true)
    (hexact : ∀ i, d'.currentSource = some i →
      ∀ j k, j ∈ ((d'.loops i).listeners.get? k).getD [] ↔ d'.Open j k i)
    (hdel : ∀ x ∈ d'.delivered, ∃ s, d'.subs[x.1]? = some s ∧ s.source = x.2.1)
    (hlt : ∀ (j : Nat) (s : Subscription), d'.subs[j]? = some s → s.source < d'.sources) :
    d'.Good where
  state := hstate
  stopped := hstop
  keys_nodup k := by rw [hl]; split_ifs; exacts [hkeys, hd.keys_nodup k]
  sinks_nodup k := by rw [hl]; split_ifs; exacts [hsinks, hd.sinks_nodup k]
  registered k := by
    rw [hl]
    split_ifs with hk
    · exact hk ▸ hmap
    · exact fun e he j hj ↦ hreg j e.1 k (hd.registered k e he j hj)
  exact := hexact
  delivered := hdel
  source_lt := hlt

/-- `subscribe` when no source is current: `start`. -/
theorem Good.start (hd : d.Good) (hu : d.currentSource = none) (key : String) :
    Good { (d.start key d.subs.length).1 with
      subs := d.subs ++ [⟨key, d.sources, .awaitingFirst⟩] } := by
  set d' : Demux := { (d.start key d.subs.length).1 with
      subs := d.subs ++ [⟨key, d.sources, .awaitingFirst⟩] } with hd'
  have hloops : ∀ k, d'.loops k = if k = d.sources then
      ⟨JsMap.empty.set key [d.subs.length], false, false⟩ else d.loops k := fun _ ↦ rfl
  have hl : ∀ k, (d'.loops k).listeners = if k = d.sources then
      JsMap.empty.set key [d.subs.length] else (d.loops k).listeners := by
    intro k
    rw [hloops]
    split_ifs <;> rfl
  refine hd.of_map hl (JsMap.nodup_empty.set _ _) ?_ ?_
    (fun j k i h ↦ (reg_append rfl).2 (.inl h))
    (.inr ⟨d.sources, rfl, rfl, rfl, Nat.lt_succ_self _, by simp [Demux.start],
      by simp [Demux.start], ?_, ?_⟩) ?_ ?_ (hd.delivered_append rfl) ?_
  · intro e he
    rcases JsMap.mem_entries_set he with he | rfl
    · exact absurd he (List.not_mem_nil _)
    · exact List.nodup_singleton _
  · intro e he j hj
    rcases JsMap.mem_entries_set he with he | rfl
    · exact absurd he (List.not_mem_nil _)
    · exact (reg_append rfl).2 (.inr ⟨List.mem_singleton.1 hj, rfl, rfl⟩)
  · rw [hl, if_pos rfl]
    exact JsMap.size_ne_zero_of_get? (k := key) (v := [d.subs.length]) (by simp)
  · intro k l h
    rw [hl, if_pos rfl] at h
    simp only [JsMap.get?_set, JsMap.get?_empty] at h
    split_ifs at h
    cases h
    simp
  · intro k hk hne
    have hki : k ≠ d.sources := fun h ↦ hne (h ▸ rfl)
    rw [hloops, if_neg hki]
    have hk' : k < d.sources + 1 := hk
    exact hd.stopped k (by omega) (by simp [hu])
  · rintro k ⟨⟩ j k'
    rw [hl, if_pos rfl, open_append rfl]
    simp only [JsMap.get?_set, JsMap.get?_empty, hd.not_open_of_source_ge le_rfl, false_or]
    split_ifs with hk <;> simp [hk, eq_comm]
  · intro j s hs
    rw [getElem?_append_singleton] at hs
    split_ifs at hs
    · cases hs
      exact Nat.lt_succ_self _
    · exact (hd.source_lt j s hs).trans (Nat.lt_succ_self _)

/-- `subscribe` when a source is current: the sink joins its key's set. -/
theorem Good.add (hd : d.Good) {c : Nat} (hc : d.currentSource = some c) (key : String)
    {l : List Nat}
    (hl : l = ((d.loops c).listeners.get? key).getD [] ++ [d.subs.length]) :
    Good { d.updateLoop c ({ · with listeners := (d.loops c).listeners.set key l }) with
      subs := d.subs ++ [⟨key, c, .awaitingFirst⟩] } := by
  set d' : Demux := { d.updateLoop c ({ · with listeners := (d.loops c).listeners.set key l }) with
      subs := d.subs ++ [⟨key, c, .awaitingFirst⟩] } with hd'
  have hcur := hd.current hc
  have hloops : ∀ k, d'.loops k = if k = c then
      { d.loops c with listeners := (d.loops c).listeners.set key l } else d.loops k := by
    intro k
    simp only [d', updateLoop_loops]
    split_ifs with h <;> simp only [h]
  have hls : ∀ k, (d'.loops k).listeners = if k = c then
      (d.loops c).listeners.set key l else (d.loops k).listeners := by
    intro k
    rw [hloops]
    split_ifs <;> rfl
  have hmem : ∀ j, j ∈ l ↔
      j ∈ ((d.loops c).listeners.get? key).getD [] ∨ j = d.subs.length := by
    simp [hl]
  have hold : ∀ j ∈ ((d.loops c).listeners.get? key).getD [], d.Reg j key c := by
    intro j hj
    cases h : (d.loops c).listeners.get? key with
    | none => simp [h] at hj
    | some ex =>
      rw [h] at hj
      exact hd.registered c _ (JsMap.mem_entries_of_get? h) j hj
  refine hd.of_map hls ((hd.keys_nodup c).set _ _) ?_ ?_
    (fun j k i h ↦ (reg_append rfl).2 (.inl h))
    (.inr ⟨c, hcur.subscribers, hcur.abortController, hcur.currentSource, hcur.lt,
      by rw [hloops, if_pos rfl]; exact hcur.not_aborted,
      by rw [hloops, if_pos rfl]; exact hcur.not_finished, ?_, ?_⟩)
    ?_ ?_ (hd.delivered_append rfl) ?_
  · intro e he
    rcases JsMap.mem_entries_set he with he | rfl
    · exact hd.sinks_nodup c e he
    · have hnd : (((d.loops c).listeners.get? key).getD []).Nodup := by
        cases h : (d.loops c).listeners.get? key with
        | none => exact List.nodup_nil
        | some ex => exact hd.sinks_nodup c _ (JsMap.mem_entries_of_get? h)
      rw [hl, List.nodup_append]
      exact ⟨hnd, List.nodup_singleton _, fun a ha hb ↦
        absurd (List.mem_singleton.1 hb ▸ (hold a ha).lt) (Nat.lt_irrefl _)⟩
  · intro e he j hj
    refine (reg_append rfl).2 ?_
    rcases JsMap.mem_entries_set he with he | rfl
    · exact .inl (hd.registered c e he j hj)
    · rcases (hmem j).1 hj with hj | rfl
      · exact .inl (hold j hj)
      · exact .inr ⟨rfl, rfl, rfl⟩
  · rw [hls, if_pos rfl]
    exact JsMap.size_ne_zero_of_get? (k := key) (v := l) (by simp)
  · intro k l' h
    rw [hls, if_pos rfl] at h
    simp only [JsMap.get?_set] at h
    split_ifs at h
    · cases h
      simp [hl]
    · exact hcur.ne_nil k l' h
  · intro k hk hne
    have hkc : k ≠ c := fun h ↦ hne (h ▸ hc)
    rw [hloops, if_neg hkc]
    exact hd.stopped k hk hne
  · intro k hk j k'
    obtain rfl : k = c := Option.some.inj (hk.symm.trans hc)
    rw [hls, if_pos rfl, open_append rfl, ← hd.exact k hc]
    simp only [JsMap.get?_set]
    split_ifs with hkk
    · subst hkk
      simp [hmem]
    · simp [hkk]
  · intro j s hs
    rw [getElem?_append_singleton] at hs
    split_ifs at hs
    · cases hs
      exact hcur.lt
    · exact hd.source_lt j s hs

/-! ## Phases -/

theorem reg_setPhase {j : Nat} {p : SubPhase} {j' : Nat} {k : String} {i : Nat} :
    (d.setPhase j p).Reg j' k i ↔ d.Reg j' k i := by
  unfold Reg
  rw [setPhase_subs_getElem?]
  cases d.subs[j']? with
  | none => simp only [Option.map_none', reduceCtorEq, false_and, exists_false]
  | some s => split_ifs <;> simp only [Option.map_some', Option.some.injEq, exists_eq_left']

theorem open_setPhase {j : Nat} {p : SubPhase} {j' : Nat} {k : String} {i : Nat} :
    (d.setPhase j p).Open j' k i ↔
      if j' = j then d.Reg j k i ∧ p ≠ .closed else d.Open j' k i := by
  unfold Open Reg
  rw [setPhase_subs_getElem?]
  by_cases hj : j' = j
  · subst hj
    rw [if_pos rfl]
    cases d.subs[j']? with
    | none =>
      simp only [eq_self_iff_true, if_true, Option.map_none', reduceCtorEq, false_and, exists_false]
    | some s =>
      simp only [eq_self_iff_true, if_true, Option.map_some', Option.some.injEq, ne_eq,
        exists_eq_left', and_assoc]
  · rw [if_neg hj]
    cases d.subs[j']? with
    | none => simp only [Option.map_none', reduceCtorEq, false_and, exists_false]
    | some s =>
      simp only [Ne.symm hj, if_false, Option.map_some', Option.some.injEq, ne_eq, exists_eq_left']

theorem open_iff_reg {j : Nat} {s : Subscription} (hs : d.subs[j]? = some s)
    (hp : s.phase ≠ .closed) {k : String} {i : Nat} : d.Open j k i ↔ d.Reg j k i := by
  simp [Open, Reg, hs, hp]

theorem Good.setPhase_source_lt (hd : d.Good) (j : Nat) (p : SubPhase) :
    ∀ (j' : Nat) (s : Subscription), (d.setPhase j p).subs[j']? = some s →
      s.source < d.sources := by
  intro j' s hs
  rw [setPhase_subs_getElem?] at hs
  obtain ⟨t, ht, rfl⟩ := Option.map_eq_some'.1 hs
  split_ifs <;> exact hd.source_lt j' t ht

/-- The first value of a call comes from the source it registered with. -/
theorem Good.firstValue (hd : d.Good) {j : Nat} {s : Subscription} (hs : d.subs[j]? = some s)
    (hp : s.phase = .awaitingFirst) (v : Nat) :
    Good { d.setPhase j .streaming with
      delivered := d.delivered ++ [(j, s.source, .first v)] } := by
  refine hd.of_frame (fun _ _ _ h ↦ reg_setPhase.2 h) (fun i _ j' k ↦ ?_) ?_
    (hd.setPhase_source_lt j _) (fun _ ↦ rfl) ?_ hd.stopped (fun _ ↦ id)
  · show (d.setPhase j .streaming).Open j' k i ↔ _
    rw [open_setPhase]
    split_ifs with hj
    · subst hj
      rw [open_iff_reg hs (by simp [hp])]
      simp
    · exact Iff.rfl
  · intro x hx
    rcases List.mem_append.1 hx with hx | hx
    · obtain ⟨t, ht, hsrc⟩ := hd.delivered x hx
      refine ⟨_, (setPhase_subs_getElem? d j _ x.1).trans (by rw [ht]; rfl), ?_⟩
      split_ifs <;> exact hsrc
    · rw [List.mem_singleton.1 hx]
      exact ⟨_, (setPhase_subs_getElem? d j _ j).trans (by rw [hs]; rfl), by simp⟩
  · rcases hd.state with hu | ⟨c, hc⟩
    · exact .inl hu
    · exact .inr ⟨c, hc.of_fields rfl rfl rfl rfl rfl⟩

theorem Good.delivered_setPhase (hd : d.Good) (j : Nat) (p : SubPhase) :
    ∀ x ∈ d.delivered, ∃ t, (d.setPhase j p).subs[x.1]? = some t ∧ t.source = x.2.1 := by
  intro x hx
  obtain ⟨t, ht, hsrc⟩ := hd.delivered x hx
  refine ⟨_, (setPhase_subs_getElem? d j p x.1).trans (by rw [ht]; rfl), ?_⟩
  split_ifs <;> exact hsrc

/-- A call that is not open on a source has no sink in its map. -/
theorem Good.not_mem_of_not_open (hd : d.Good) {m j : Nat} (hm : d.currentSource = some m)
    {k : String} (h : ¬ d.Open j k m) : j ∉ ((d.loops m).listeners.get? k).getD [] :=
  fun hj ↦ h ((hd.exact m hm j k).1 hj)

/-- The `finally` of a call whose key has no set in the current map. -/
theorem Good.close_absent (hd : d.Good) {j : Nat} {s : Subscription}
    (hs : d.subs[j]? = some s)
    (hg : ∀ m, d.currentSource = some m → (d.loops m).listeners.get? s.key = none) :
    (d.setPhase j .closed).Good := by
  refine hd.of_frame (fun _ _ _ h ↦ reg_setPhase.2 h) (fun m hm j' k ↦ ?_)
    (hd.delivered_setPhase j .closed) (hd.setPhase_source_lt j _) (fun _ ↦ rfl) ?_
    hd.stopped (fun _ ↦ id)
  · change d.currentSource = some m at hm
    rw [open_setPhase]
    split_ifs with hj
    · subst hj
      simp only [ne_eq, not_true_eq_false, and_false, false_iff]
      intro ho
      have hk : s.key = k := by obtain ⟨t, ht, h1, -⟩ := ho; rw [hs] at ht; cases ht; exact h1
      have := (hd.exact m hm j' k).2 ho
      rw [← hk, hg m hm] at this
      exact absurd this (List.not_mem_nil _)
    · exact Iff.rfl
  · rcases hd.state with hu | ⟨c, hc⟩
    · exact .inl hu
    · exact .inr ⟨c, hc.of_fields rfl rfl rfl rfl rfl⟩

/-- The `finally` of a call whose key has a set in the current map: the sink leaves it,
and if the map is then empty the source is aborted and the state cleared. -/
theorem Good.close_present (hd : d.Good) {j m : Nat} {s : Subscription} {ex : List Nat}
    (hs : d.subs[j]? = some s) (hm : d.currentSource = some m)
    (hg : (d.loops m).listeners.get? s.key = some ex) :
    let map := if (ex.erase j).length = 0 then (d.loops m).listeners.delete s.key
      else (d.loops m).listeners.set s.key (ex.erase j)
    let d1 := d.updateLoop m ({ · with listeners := map })
    Good ((if map.size = 0 then (d1.updateLoop m ({ · with aborted := true })).clear
      else d1).setPhase j .closed) := by
  intro map d1
  have hcur := hd.current hm
  have hnd : ex.Nodup := hd.sinks_nodup m _ (JsMap.mem_entries_of_get? hg)
  have hget : ∀ k, map.get? k = if s.key = k then
      (if (ex.erase j).length = 0 then none else some (ex.erase j))
      else (d.loops m).listeners.get? k := by
    intro k
    by_cases hl : (ex.erase j).length = 0 <;>
      simp only [map, hl, if_true, if_false, JsMap.get?_delete, JsMap.get?_set]
  have hmem : ∀ j' k, j' ∈ (map.get? k).getD [] ↔
      j' ≠ j ∧ j' ∈ ((d.loops m).listeners.get? k).getD [] := by
    intro j' k
    rw [hget]
    split_ifs with hk hl
    · subst hk
      rw [hg]
      have hnil : ex.erase j = [] := List.length_eq_zero.1 hl
      simp only [Option.getD_none, List.not_mem_nil, false_iff, not_and, Option.getD_some]
      intro hj hj'
      simpa [hnil] using hnd.mem_erase_iff.2 ⟨hj, hj'⟩
    · subst hk
      rw [hg]
      exact hnd.mem_erase_iff
    · refine ⟨fun h ↦ ⟨fun hj ↦ ?_, h⟩, fun h ↦ h.2⟩
      subst hj
      obtain ⟨t, ht, h1, -⟩ := (hd.exact m hm j' k).1 h
      rw [hs] at ht
      cases ht
      exact hk h1
  have hkeys : map.Nodup := by
    simp only [map]
    split_ifs
    · exact (hd.keys_nodup m).delete _
    · exact (hd.keys_nodup m).set _ _
  have hsinks : ∀ e ∈ map.entries, e.2.Nodup := by
    intro e he
    simp only [map] at he
    split_ifs at he
    · exact hd.sinks_nodup m e (JsMap.mem_entries_delete he)
    · rcases JsMap.mem_entries_set he with he | rfl
      · exact hd.sinks_nodup m e he
      · exact hnd.erase _
  have hreg : ∀ e ∈ map.entries, ∀ j' ∈ e.2, (d1.setPhase j .closed).Reg j' e.1 m := by
    intro e he j' hj'
    refine reg_setPhase.2 ?_
    simp only [map] at he
    split_ifs at he
    · exact hd.registered m e (JsMap.mem_entries_delete he) j' hj'
    · rcases JsMap.mem_entries_set he with he | rfl
      · exact hd.registered m e he j' hj'
      · exact hd.registered m _ (JsMap.mem_entries_of_get? hg) j' (List.erase_subset _ _ hj')
  have hloops : ∀ k, d1.loops k =
      if k = m then { d.loops m with listeners := map } else d.loops k := by
    intro k
    simp only [d1, updateLoop_loops]
    split_ifs with h <;> simp only [h]
  have hdel := hd.delivered_setPhase j .closed
  split_ifs with hsize
  · refine hd.of_map (fun k ↦ ?_) hkeys hsinks hreg (fun _ _ _ h ↦ reg_setPhase.2 h)
      (.inl ⟨rfl, rfl, rfl⟩) (fun k hk _ ↦ ?_) (fun _ h ↦ (nomatch h)) hdel
      (hd.setPhase_source_lt j _)
    · rw [setPhase_loops, clear_loops, updateLoop_loops, hloops]
      split_ifs <;> rfl
    · rw [setPhase_loops, clear_loops, updateLoop_loops, hloops]
      split_ifs with hkm
      · exact .inl rfl
      · exact hd.stopped k hk (by rw [hm]; exact fun h ↦ hkm (Option.some.inj h).symm)
  · refine hd.of_map (fun k ↦ ?_) hkeys hsinks hreg
      (fun _ _ _ h ↦ reg_setPhase.2 h)
      (.inr ⟨m, hcur.subscribers, hcur.abortController, hcur.currentSource, hcur.lt,
        by rw [setPhase_loops, hloops, if_pos rfl]; exact hcur.not_aborted,
        by rw [setPhase_loops, hloops, if_pos rfl]; exact hcur.not_finished,
        by rw [setPhase_loops, hloops, if_pos rfl]; exact hsize, fun k l h ↦ ?_⟩)
      (fun k hk hne ↦ ?_) (fun i hi j' k ↦ ?_) hdel (hd.setPhase_source_lt j _)
    · rw [setPhase_loops, hloops]
      split_ifs <;> rfl
    · rw [setPhase_loops, hloops, if_pos rfl, hget] at h
      split_ifs at h with hk hl
      · cases h
        exact List.ne_nil_of_length_pos (Nat.pos_of_ne_zero hl)
      · exact hcur.ne_nil k l h
    · have hkm : k ≠ m := fun h ↦ hne (by rw [h]; exact hm)
      rw [setPhase_loops, hloops, if_neg hkm]
      exact hd.stopped k hk hne
    · obtain rfl : i = m := Option.some.inj (hi.symm.trans hm)
      rw [setPhase_loops, hloops, if_pos rfl, hmem, open_setPhase]
      split_ifs with hj
      · simp [hj]
      · exact (and_iff_right hj).trans (hd.exact i hm j' k)

/-! ## Loops -/

theorem Good.onValue (hd : d.Good) (i : Nat) (key : String) (v : Nat) :
    (d.onValue i key v).Good := by
  dsimp only [Demux.onValue]
  split_ifs with h
  · exact hd.loopCatch i
  · split
    · rename_i sinks hsinks
      refine hd.of_flags rfl ?_ rfl (fun _ ↦ rfl) ?_ hd.stopped (fun _ ↦ id)
      · intro x hx
        rcases List.mem_append.1 hx with hx | hx
        · exact hd.delivered x hx
        · obtain ⟨j, hj, rfl⟩ := List.mem_map.1 hx
          obtain ⟨s, hs, -, hsrc⟩ := hd.registered i _ (JsMap.mem_entries_of_get? hsinks) j hj
          exact ⟨s, hs, hsrc⟩
      · rcases hd.state with hu | ⟨c, hc⟩
        · exact .inl hu
        · exact .inr ⟨c, hc.of_fields rfl rfl rfl rfl rfl⟩
    · exact hd

/-! ## Runs -/

/-- Every event keeps the invariant. -/
theorem Good.step (hd : d.Good) (e : DemuxEvent) : (d.step e).Good := by
  cases e with
  | subscribe key =>
    simp only [Demux.step, Demux.addSink]
    cases hc : d.currentSource with
    | none => exact hd.start hc key
    | some c =>
      have hs : d.subscribers = some c := hd.subscribers_eq.trans hc
      simp only [hs]
      cases hg : (d.loops c).listeners.get? key with
      | none => exact hd.add hc key (by simp [hg])
      | some ex => exact hd.add hc key (by simp [hg])
  | firstValue j v =>
    simp only [Demux.step]
    cases hs : d.subs[j]? with
    | none => exact hd
    | some s =>
      simp only
      split_ifs with hp
      · exact hd.firstValue hs hp v
      · exact hd
  | close j =>
    simp only [Demux.step]
    cases hs : d.subs[j]? with
    | none => exact hd
    | some s =>
      simp only
      split_ifs with hp
      · exact hd
      · unfold Demux.removeSink
        cases hm : d.subscribers with
        | none =>
          exact hd.close_absent hs fun m hm' ↦ by simp [← hd.subscribers_eq, hm] at hm'
        | some m =>
          have hcm : d.currentSource = some m := hd.subscribers_eq ▸ hm
          simp only
          cases hg : (d.loops m).listeners.get? s.key with
          | none =>
            exact hd.close_absent hs fun m' hm' ↦ by rw [hcm] at hm'; cases hm'; exact hg
          | some ex =>
            simp only [updateLoop_abortController, (hd.current hcm).abortController]
            exact hd.close_present hs hcm hg
  | value i key v =>
    simp only [Demux.step]
    split_ifs
    · exact hd.onValue i key v
    · exact hd
  | finish i =>
    simp only [Demux.step]
    split_ifs
    · exact (hd.sendAll i .finish).loopFinally i
    · exact hd
  | fail i =>
    simp only [Demux.step]
    split_ifs
    · exact hd.loopCatch i
    · exact hd

theorem Good.runDemux (hd : d.Good) (es : List DemuxEvent) : (runDemux d es).Good := by
  induction es generalizing d with
  | nil => exact hd
  | cons e es ih => exact ih (hd.step e)

/-! ## What a run guarantees -/

/-- A source that is neither aborted nor finished is the current one. -/
theorem Good.live_current (hd : d.Good) {i : Nat} (hi : i < d.sources)
    (ha : (d.loops i).aborted = false) (hf : (d.loops i).finished = false) :
    d.currentSource = some i := by
  by_contra h
  rcases hd.stopped i hi h with h' | h' <;> simp_all

@[simp] theorem sendAll_sources (i : Nat) (msg : SinkMsg) : (d.sendAll i msg).sources = d.sources :=
  rfl

@[simp] theorem loopFinally_sources (i : Nat) : (d.loopFinally i).sources = d.sources := by
  dsimp only [Demux.loopFinally]
  split_ifs <;> rfl

@[simp] theorem loopCatch_sources (i : Nat) : (d.loopCatch i).sources = d.sources := by
  simp [Demux.loopCatch]

@[simp] theorem onValue_sources (i : Nat) (key : String) (v : Nat) :
    (d.onValue i key v).sources = d.sources := by
  dsimp only [Demux.onValue]
  split_ifs
  · simp
  · split <;> rfl

@[simp] theorem removeSink_sources (key : String) (j : Nat) :
    (d.removeSink key j).sources = d.sources := by
  unfold Demux.removeSink
  split
  · rfl
  · dsimp only
    split
    · rfl
    · split_ifs <;> simp only [clear_sources, updateLoop_sources] <;> split <;> rfl

/-- The factory is called only when no source is current. -/
theorem Good.sources_step (hd : d.Good) (e : DemuxEvent) (h : (d.step e).sources ≠ d.sources) :
    d.currentSource = none := by
  by_contra hc
  obtain ⟨c, hc⟩ := Option.ne_none_iff_exists'.1 hc
  apply h
  cases e with
  | subscribe key =>
    simp only [Demux.step, Demux.addSink, hc, hd.subscribers_eq]
    rfl
  | firstValue j v | close j =>
    simp only [Demux.step]
    split <;> (try split_ifs) <;> simp
  | value i key v | finish i | fail i =>
    simp only [Demux.step]
    split_ifs <;> simp

/-- A value from the current source goes to every sink in its key's set, in order. -/
theorem Good.value_current (hd : d.Good) {i : Nat} (hc : d.currentSource = some i)
    (key : String) (v : Nat) :
    (d.step (.value i key v)).delivered =
      d.delivered ++ (((d.loops i).listeners.get? key).getD []).map fun j ↦ (j, i, .write v) := by
  have hcur := hd.current hc
  simp only [Demux.step, Demux.running, hcur.lt, hcur.not_finished, and_self, if_true,
    Demux.onValue, hcur.not_aborted, hcur.size_ne, Bool.false_eq_true, or_self, if_false]
  cases (d.loops i).listeners.get? key <;> simp

/-- Removing the only open sink of the current source aborts it and clears the state. -/
theorem Good.close_last (hd : d.Good) {j : Nat} {s : Subscription} (hs : d.subs[j]? = some s)
    (hp : s.phase ≠ .closed) (hc : d.currentSource = some s.source)
    (honly : ∀ j' k, d.Open j' k s.source → j' = j) :
    (d.step (.close j)).Unset ∧ ((d.step (.close j)).loops s.source).aborted = true := by
  have hcur := hd.current hc
  have hj : j ∈ ((d.loops s.source).listeners.get? s.key).getD [] :=
    (hd.exact _ hc j s.key).2 ⟨s, hs, rfl, rfl, hp⟩
  obtain ⟨ex, hg⟩ : ∃ ex, (d.loops s.source).listeners.get? s.key = some ex := by
    cases h : (d.loops s.source).listeners.get? s.key with
    | none => simp [h] at hj
    | some ex => exact ⟨ex, rfl⟩
  have herase : ex.erase j = [] := by
    refine List.eq_nil_iff_forall_not_mem.2 fun x hx ↦ ?_
    have hx' : x ∈ ((d.loops s.source).listeners.get? s.key).getD [] := by
      rw [hg]; exact List.erase_subset _ _ hx
    have := honly x s.key ((hd.exact _ hc x s.key).1 hx')
    subst this
    exact (((hd.sinks_nodup _ _ (JsMap.mem_entries_of_get? hg)).mem_erase_iff).1 hx).1 rfl
  have hsize : ((d.loops s.source).listeners.delete s.key).size = 0 := by
    refine JsMap.size_eq_zero_of_get? fun k ↦ ?_
    rw [JsMap.get?_delete]
    split_ifs with hk
    · rfl
    · cases h : (d.loops s.source).listeners.get? k with
      | none => rfl
      | some l =>
        obtain ⟨x, hx⟩ := List.exists_mem_of_ne_nil l (hcur.ne_nil k l h)
        have hxo := (hd.exact _ hc x k).1 (by rw [h]; exact hx)
        obtain rfl := honly x k hxo
        obtain ⟨t, ht, hk', -⟩ := hxo
        rw [hs] at ht
        cases ht
        exact absurd hk' hk
  simp only [Demux.step, hs, hp, if_false, Demux.removeSink, hcur.subscribers, hg, herase,
    List.length_nil, if_true, hsize, updateLoop_abortController, hcur.abortController]
  exact ⟨⟨rfl, rfl, rfl⟩, by simp⟩

end Demux

theorem demux_safe (es : List DemuxEvent) (e : DemuxEvent) :
    let d := runDemux .init es
    let d' := d.step e
    ((d.subscribers = none ∧ d.abortController = none ∧ d.currentSource = none) ∨
      ∃ i, d.subscribers = some i ∧ d.abortController = some i ∧ d.currentSource = some i ∧
        (d.loops i).listeners.size ≠ 0 ∧
        ∀ k l, (d.loops i).listeners.get? k = some l → l ≠ []) ∧
    (d'.sources ≠ d.sources → d.currentSource = none) ∧
    (∀ i < d.sources, (d.loops i).aborted = false → (d.loops i).finished = false →
      d.currentSource = some i) ∧
    (∀ (j : Nat) (s : Subscription), d.subs[j]? = some s → (d.loops s.source).aborted = false →
      (d.loops s.source).finished = false → d.currentSource = some s.source) ∧
    (∀ (j : Nat) (s : Subscription), d.subs[j]? = some s → s.phase ≠ .closed → d.currentSource = some s.source →
      (∀ j' k, d.Open j' k s.source → j' = j) → e = .close j →
      d'.Unset ∧ (d'.loops s.source).aborted = true) ∧
    (∀ i k v, e = .value i k v → d.currentSource = some i →
      d'.delivered = d.delivered ++
        (((d.loops i).listeners.get? k).getD []).map (fun j ↦ (j, i, .write v)) ∧
      ∀ j, j ∈ ((d.loops i).listeners.get? k).getD [] ↔ d.Open j k i) ∧
    (∀ x ∈ d.delivered, ∃ s, d.subs[x.1]? = some s ∧ s.source = x.2.1) := by
  intro d d'
  have hd : d.Good := Demux.init_good.runDemux es
  refine ⟨?_, hd.sources_step e, fun i hi ↦ hd.live_current hi,
    fun j s hs ↦ hd.live_current (hd.source_lt j s hs), ?_, ?_, hd.delivered⟩
  · rcases hd.state with hu | ⟨i, hi⟩
    · exact .inl hu
    · exact .inr ⟨i, hi.subscribers, hi.abortController, hi.currentSource, hi.size_ne,
        hi.ne_nil⟩
  · rintro j s hs hp hc honly rfl
    exact hd.close_last hs hp hc honly
  · rintro i k v rfl hc
    exact ⟨hd.value_current hc k v, fun j ↦ hd.exact i hc j k⟩

/-- A subscriber gets a value, leaves, and a new one starts a second source; the first
loop's next value finds its source aborted and stops. -/
example : (runDemux .init [.subscribe "u", .value 0 "u" 1, .close 0, .subscribe "u",
    .value 0 "u" 2, .value 1 "u" 3]).delivered = [(0, 0, .write 1), (1, 1, .write 3)] := by
  decide

end PowerSync
