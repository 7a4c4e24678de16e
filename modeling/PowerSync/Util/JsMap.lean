import Mathlib

/-!
# JavaScript maps

The TypeScript code keeps most of its state in maps: bucket positions, checksum maps,
the demultiplexer's subscribers, the `current_data` lookup of a batch.
A `Map` iterates in insertion order, and `set` on a key that is present keeps the key
where it is.  `JsMap V` is that map: its entries in insertion order.  Every operation
of the model goes through `get?`, `set` and `delete`, so the lemmas below are all that
later files need to know about it.
-/

namespace PowerSync

/-- A `Map<K, V>`, as its entries in insertion order. -/
structure JsMap (K V : Type) where
  entries : List (K × V)
deriving DecidableEq, Repr

namespace JsMap

variable {K V : Type} [DecidableEq K]

/-- `new Map()`. -/
def empty : JsMap K V := ⟨[]⟩

/-- The value of the first entry with key `k`. -/
def lookup (k : K) : List (K × V) → Option V
  | [] => none
  | (a, b) :: l => if a = k then some b else lookup k l

@[simp] theorem lookup_nil (k : K) : lookup k ([] : List (K × V)) = none := rfl

@[simp] theorem lookup_cons (k a : K) (b : V) (l : List (K × V)) :
    lookup k ((a, b) :: l) = if a = k then some b else lookup k l := rfl

/-- `map.get(key)`, with `undefined` as `none`. -/
def get? (m : JsMap K V) (k : K) : Option V := lookup k m.entries

/-- `map.has(key)`. -/
def has (m : JsMap K V) (k : K) : Bool := (m.get? k).isSome

/-- `map.set(key, value)`: a present key keeps its place, a new one goes last. -/
def set (m : JsMap K V) (k : K) (v : V) : JsMap K V :=
  if m.has k then ⟨m.entries.map fun e ↦ if e.1 = k then (k, v) else e⟩
  else ⟨m.entries ++ [(k, v)]⟩

/-- `map.delete(key)`. -/
def delete (m : JsMap K V) (k : K) : JsMap K V := ⟨m.entries.filter fun e ↦ e.1 ≠ k⟩

/-- `[...map.keys()]`. -/
def keys (m : JsMap K V) : List K := m.entries.map Prod.fst

/-- `[...map.values()]`. -/
def values (m : JsMap K V) : List V := m.entries.map Prod.snd

/-- `map.size`. -/
def size (m : JsMap K V) : Nat := m.entries.length

@[simp] theorem get?_empty (k : K) : (empty : JsMap K V).get? k = none := rfl

private theorem lookup_map_replace (l : List (K × V)) (k k' : K) (v : V) :
    lookup k' (l.map fun e ↦ if e.1 = k then (k, v) else e) =
      if k = k' then (lookup k l).map fun _ ↦ v else lookup k' l := by
  induction l with
  | nil => split <;> rfl
  | cons e l ih =>
      obtain ⟨a, b⟩ := e
      by_cases ha : a = k <;> by_cases h : k = k' <;> simp_all

private theorem lookup_append_single (l : List (K × V)) (k k' : K) (v : V)
    (hk : lookup k l = none) :
    lookup k' (l ++ [(k, v)]) = if k = k' then some v else lookup k' l := by
  induction l with
  | nil => rfl
  | cons e l ih =>
      obtain ⟨a, b⟩ := e
      by_cases ha : a = k
      · simp [ha] at hk
      · simp only [lookup_cons, ha, if_false] at hk
        simp only [List.cons_append, lookup_cons, ih hk]
        by_cases h : a = k'
        · subst h; simp [Ne.symm ha]
        · simp [h]

@[simp] theorem get?_set (m : JsMap K V) (k k' : K) (v : V) :
    (m.set k v).get? k' = if k = k' then some v else m.get? k' := by
  unfold set has
  split
  · rename_i h
    simp only [get?, lookup_map_replace]
    split <;> simp_all [get?, Option.isSome_iff_exists]
  · rename_i h
    exact lookup_append_single _ _ _ _ (by simpa [get?] using h)

@[simp] theorem get?_delete (m : JsMap K V) (k k' : K) :
    (m.delete k).get? k' = if k = k' then none else m.get? k' := by
  unfold delete get?
  induction m.entries with
  | nil => simp
  | cons e l ih =>
      obtain ⟨a, b⟩ := e
      by_cases ha : a = k
      · subst ha
        by_cases h : a = k' <;> simpa [List.filter_cons, h] using ih
      · simp only [List.filter_cons, ne_eq, ha, not_false_eq_true, decide_True, if_true,
          lookup_cons, ih]
        by_cases h : a = k'
        · subst h; simp [Ne.symm ha]
        · simp [h]

theorem has_eq (m : JsMap K V) (k : K) : m.has k = (m.get? k).isSome := rfl

theorem mem_keys_iff (m : JsMap K V) (k : K) : k ∈ m.keys ↔ (m.get? k).isSome := by
  unfold keys get?
  induction m.entries with
  | nil => simp
  | cons e l ih =>
      obtain ⟨a, b⟩ := e
      by_cases h : a = k
      · simp only [h, List.map_cons, List.mem_cons, true_or, lookup_cons, if_true,
          Option.isSome_some]
      · simp only [List.map_cons, List.mem_cons, Ne.symm h, false_or, lookup_cons, if_neg h, ih]

/-- No key occurs twice, as in every map the code builds. -/
def Nodup (m : JsMap K V) : Prop := m.keys.Nodup

omit [DecidableEq K] in
theorem nodup_empty : (empty : JsMap K V).Nodup := List.nodup_nil

theorem Nodup.set {m : JsMap K V} (h : m.Nodup) (k : K) (v : V) : (m.set k v).Nodup := by
  unfold JsMap.set
  split
  · have hmap : (m.entries.map fun e ↦ if e.1 = k then (k, v) else e).map Prod.fst = m.keys := by
      unfold keys
      rw [List.map_map]
      congr 1
      funext e
      by_cases he : e.1 = k <;> simp [he]
    simpa [Nodup, keys, hmap] using h
  · rename_i hk
    have hk' : k ∉ m.keys := by rw [mem_keys_iff]; simpa [has] using hk
    simpa [Nodup, keys] using h.append (List.nodup_singleton k) (List.disjoint_singleton.mpr hk')

/-- In a map without repeated keys, an entry is what `get?` finds. -/
theorem get?_eq_of_mem {m : JsMap K V} (h : m.Nodup) {k : K} {v : V}
    (hm : (k, v) ∈ m.entries) : m.get? k = some v := by
  obtain ⟨l⟩ := m
  unfold Nodup keys at h
  unfold get?
  induction l with
  | nil => simp at hm
  | cons e l ih =>
      obtain ⟨a, b⟩ := e
      simp only [List.map_cons, List.nodup_cons, List.mem_map] at h
      rcases List.mem_cons.mp hm with he | he
      · obtain ⟨rfl, rfl⟩ := Prod.mk.inj he
        exact if_pos rfl
      · have hak : a ≠ k := fun hak ↦ h.1 ⟨(k, v), he, hak.symm⟩
        rw [lookup_cons, if_neg hak]
        exact ih h.2 he

/-- Deleting keys one after another. -/
theorem get?_foldl_delete (ks : List K) (m : JsMap K V) (b : K) :
    (ks.foldl JsMap.delete m).get? b = if b ∈ ks then none else m.get? b := by
  induction ks generalizing m with
  | nil => simp
  | cons k ks ih =>
      rw [List.foldl_cons, ih, get?_delete]
      by_cases h : b = k <;> simp [h, eq_comm]

/-- Setting each key of a list to its value under `f`. -/
theorem get?_foldl_set (f : K → V) (ks : List K) (m : JsMap K V) (b : K) :
    (ks.foldl (fun m k ↦ m.set k (f k)) m).get? b = if b ∈ ks then some (f b) else m.get? b := by
  induction ks generalizing m with
  | nil => simp
  | cons k ks ih =>
      rw [List.foldl_cons, ih, get?_set]
      by_cases h : b = k <;> simp [h, eq_comm]

theorem Nodup.foldl_set {m : JsMap K V} (h : m.Nodup) (f : K → V) (ks : List K) :
    (ks.foldl (fun m k ↦ m.set k (f k)) m).Nodup := by
  induction ks generalizing m with
  | nil => exact h
  | cons k ks ih => exact ih (h.set k (f k))

theorem lookup_eq_none {k : K} {l : List (K × V)} (h : k ∉ l.map Prod.fst) :
    lookup k l = none := by
  induction l with
  | nil => rfl
  | cons e l ih =>
      obtain ⟨a, b⟩ := e
      simp only [List.map_cons, List.mem_cons, not_or] at h
      rw [lookup_cons, if_neg (Ne.symm h.1), ih h.2]

/-- Copying the entries of a map without repeated keys into another. -/
theorem get?_foldl_set_entries {g : JsMap K V} (hg : g.Nodup) (m : JsMap K V) (b : K) :
    (g.entries.foldl (fun m e ↦ m.set e.1 e.2) m).get? b = (g.get? b).or (m.get? b) := by
  obtain ⟨l⟩ := g
  unfold Nodup keys at hg
  show (l.foldl (fun m e ↦ m.set e.1 e.2) m).get? b = (lookup b l).or (m.get? b)
  induction l generalizing m with
  | nil => rfl
  | cons e l ih =>
      obtain ⟨a, v⟩ := e
      simp only [List.map_cons, List.nodup_cons] at hg
      rw [List.foldl_cons, ih _ hg.2, get?_set, lookup_cons]
      by_cases h : a = b
      · subst h
        rw [lookup_eq_none hg.1]
        simp
      · simp [h]

theorem Nodup.foldl_set_entries {m : JsMap K V} (h : m.Nodup) (l : List (K × V)) :
    (l.foldl (fun m e ↦ m.set e.1 e.2) m).Nodup := by
  induction l generalizing m with
  | nil => exact h
  | cons e l ih => exact ih (h.set e.1 e.2)

/-- Setting each element of a list under its key, to a value computed from it: the map
has a key exactly when the list or the start map does. -/
theorem isSome_get?_foldl_set_fn {W : Type} (key : W → K) (f : W → V) (l : List W)
    (m : JsMap K V) (b : K) :
    ((l.foldl (fun m d ↦ m.set (key d) (f d)) m).get? b).isSome ↔
      b ∈ l.map key ∨ (m.get? b).isSome := by
  induction l generalizing m with
  | nil => simp
  | cons d l ih =>
      rw [List.foldl_cons, ih, get?_set]
      by_cases h : key d = b
      · simp [h]
      · simp [h, Ne.symm h]

/-- After setting each element of a list, a key holds the value of the last element with
that key, or its value in the start map. -/
theorem get?_foldl_set_getLast {W : Type} (key : W → K) (f : W → V) (l : List W)
    (m : JsMap K V) (b : K) :
    (l.foldl (fun m d ↦ m.set (key d) (f d)) m).get? b =
      ((l.filter (key · = b)).getLast?.map f).or (m.get? b) := by
  induction l using List.reverseRecOn with
  | nil => simp
  | append_singleton l a ih =>
      by_cases h : key a = b <;> simp [List.foldl_append, List.filter_append, h, ih]

/-- Each value comes from an element of the list with that key, or from the start map. -/
theorem get?_foldl_set_fn {W : Type} (key : W → K) (f : W → V) (l : List W) (m : JsMap K V)
    {b : K} {v : V} (h : (l.foldl (fun m d ↦ m.set (key d) (f d)) m).get? b = some v) :
    (∃ d ∈ l, key d = b ∧ f d = v) ∨ m.get? b = some v := by
  induction l generalizing m with
  | nil => exact .inr h
  | cons d l ih =>
      rcases ih _ h with ⟨e, he, hk, hv⟩ | hm
      · exact .inl ⟨e, List.mem_cons_of_mem _ he, hk, hv⟩
      · rw [get?_set] at hm
        split at hm
        · exact .inl ⟨d, List.mem_cons_self _ _, ‹_›, Option.some.inj hm⟩
        · exact .inr hm

theorem Nodup.foldl_set_fn {W : Type} {m : JsMap K V} (h : m.Nodup) (key : W → K) (f : W → V)
    (l : List W) : (l.foldl (fun m d ↦ m.set (key d) (f d)) m).Nodup := by
  induction l generalizing m with
  | nil => exact h
  | cons d l ih => exact ih (h.set (key d) (f d))

section Keyed

/-! Maps built from values that carry their own key. -/

variable {W : Type} (key : W → K)

theorem get?_foldl_set_of_forall_ne {l : List W} {b : K} (hb : ∀ c ∈ l, key c ≠ b)
    (m : JsMap K W) : (l.foldl (fun m c ↦ m.set (key c) c) m).get? b = m.get? b := by
  induction l generalizing m with
  | nil => rfl
  | cons d l ih =>
      rw [List.foldl_cons, ih (fun c hc ↦ hb c (List.mem_cons_of_mem _ hc)), get?_set,
        if_neg (hb d (List.mem_cons_self _ _))]

/-- A value whose key no other value of the list has is found. -/
theorem get?_foldl_set_of_mem {l : List W} (hl : (l.map key).Nodup) {c : W} (hc : c ∈ l)
    (m : JsMap K W) : (l.foldl (fun m c ↦ m.set (key c) c) m).get? (key c) = some c := by
  induction l generalizing m with
  | nil => simp at hc
  | cons d l ih =>
      rw [List.map_cons, List.nodup_cons] at hl
      rw [List.foldl_cons]
      rcases List.mem_cons.mp hc with rfl | hc
      · have hne : ∀ e ∈ l, key e ≠ key c := fun e he hk ↦
          hl.1 (hk ▸ List.mem_map_of_mem key he)
        rw [get?_foldl_set_of_forall_ne key hne, get?_set, if_pos rfl]
      · exact ih hl.2 hc _

theorem Nodup.foldl_set_keyed {m : JsMap K W} (h : m.Nodup) (l : List W) :
    (l.foldl (fun m c ↦ m.set (key c) c) m).Nodup := by
  induction l generalizing m with
  | nil => exact h
  | cons c l ih => exact ih (h.set (key c) c)

end Keyed

theorem mem_entries_of_get? {m : JsMap K V} {k : K} {v : V} (h : m.get? k = some v) :
    (k, v) ∈ m.entries := by
  obtain ⟨l⟩ := m
  unfold get? at h
  induction l with
  | nil => simp at h
  | cons e l ih =>
      rw [lookup_cons] at h
      split at h
      · cases h; rename_i he; exact he ▸ List.mem_cons_self _ _
      · exact List.mem_cons_of_mem _ (ih h)

theorem mem_entries_set {m : JsMap K V} {k : K} {v : V} {e : K × V}
    (h : e ∈ (m.set k v).entries) : e ∈ m.entries ∨ e = (k, v) := by
  unfold set at h
  split at h
  · obtain ⟨e', he', rfl⟩ := List.mem_map.1 h
    split
    · exact .inr rfl
    · exact .inl he'
  · simpa using h

/-- An entry after setting each element of a list was there before or was set. -/
theorem mem_entries_foldl_set_fn {W : Type} (key : W → K) (f : W → V) (l : List W)
    {m : JsMap K V} {e : K × V} (h : e ∈ (l.foldl (fun m d ↦ m.set (key d) (f d)) m).entries) :
    e ∈ m.entries ∨ ∃ d ∈ l, e = (key d, f d) := by
  induction l generalizing m with
  | nil => exact .inl h
  | cons d l ih =>
      rcases ih h with he | ⟨d', hd', rfl⟩
      · exact (mem_entries_set he).imp_right fun he ↦ ⟨d, List.mem_cons_self _ _, he⟩
      · exact .inr ⟨d', List.mem_cons_of_mem _ hd', rfl⟩

theorem mem_entries_delete {m : JsMap K V} {k : K} {e : K × V}
    (h : e ∈ (m.delete k).entries) : e ∈ m.entries :=
  (List.mem_filter.1 h).1

theorem Nodup.delete {m : JsMap K V} (h : m.Nodup) (k : K) : (m.delete k).Nodup :=
  h.sublist ((List.filter_sublist _).map _)

theorem size_eq_zero_of_get? {m : JsMap K V} (h : ∀ k, m.get? k = none) : m.size = 0 := by
  obtain ⟨l⟩ := m
  cases l with
  | nil => rfl
  | cons e l =>
    obtain ⟨a, b⟩ := e
    simpa [get?] using h a

theorem size_ne_zero_of_get? {m : JsMap K V} {k : K} {v : V} (h : m.get? k = some v) :
    m.size ≠ 0 := by
  have := mem_entries_of_get? h
  unfold size
  intro h0
  simp [List.length_eq_zero.1 h0] at this

theorem mem_values_of_get? {m : JsMap K V} {k : K} {v : V} (h : m.get? k = some v) :
    v ∈ m.values := by
  obtain ⟨l⟩ := m
  unfold get? at h
  unfold values
  induction l with
  | nil => simp at h
  | cons e l ih =>
      obtain ⟨a, b⟩ := e
      rw [lookup_cons] at h
      split at h
      · cases h; exact List.mem_cons_self _ _
      · exact List.mem_cons_of_mem _ (ih h)

end JsMap

/-- A `Set<string>`, as its elements in insertion order. -/
structure JsSet where
  elems : List String
deriving DecidableEq, Repr

namespace JsSet

/-- `new Set()`. -/
def empty : JsSet := ⟨[]⟩

/-- `set.has(x)`. -/
def has (s : JsSet) (x : String) : Bool := decide (x ∈ s.elems)

/-- `set.add(x)`: a new element goes last. -/
def add (s : JsSet) (x : String) : JsSet := if s.has x then s else ⟨s.elems ++ [x]⟩

/-- `set.delete(x)`. -/
def delete (s : JsSet) (x : String) : JsSet := ⟨s.elems.filter fun y ↦ y ≠ x⟩

/-- `new Set(list)`. -/
def ofList (l : List String) : JsSet := l.foldl add empty

@[simp] theorem has_add (s : JsSet) (x y : String) : (s.add x).has y = (y = x || s.has y) := by
  unfold add has
  split <;> by_cases h : y = x <;> simp_all

@[simp] theorem has_empty (x : String) : empty.has x = false := rfl

theorem has_foldl_add (l : List String) (s : JsSet) (y : String) :
    (l.foldl add s).has y = (decide (y ∈ l) || s.has y) := by
  induction l generalizing s with
  | nil => simp
  | cons x l ih =>
      rw [List.foldl_cons, ih]
      by_cases h : y = x <;> simp [h]

@[simp] theorem has_ofList (l : List String) (y : String) : (ofList l).has y = decide (y ∈ l) := by
  simp [ofList, has_foldl_add]

end JsSet

end PowerSync
