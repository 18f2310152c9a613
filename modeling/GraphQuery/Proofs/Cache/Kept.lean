import GraphQuery.Cache.Basic
import GraphQuery.Proofs.Run

/-!
# What caches keep

When every result in a cache has some property, it keeps it through lookups, insertions and computations whose results
have the property (`RelationshipCache.All`, `RequestCache.All`). A computation inside a larger state that finds its
result in the cache or puts it there gives a result of the property (`Cell.keeps_getOrCompute`).
-/

namespace GraphQuery

variable {ρ : Type}

/-! ## Entries -/

section Entries

variable {κ α : Type} [BEq κ] [LawfulBEq κ] [DecidableEq κ]

theorem lookup_cons_ite (key k : κ) (a : α) (rest : List (κ × α)) :
    List.lookup key ((k, a) :: rest) = if key = k then some a else List.lookup key rest := by
  rw [List.lookup_cons]
  by_cases h : key = k
  · subst h
    simp
  · rw [beq_false_of_ne h, if_neg h]

/-- Lookups after the entries of a key were removed. -/
theorem lookup_filter_ne (key other : κ) (entries : List (κ × α)) :
    List.lookup other (entries.filter fun entry => entry.1 ≠ key) =
      if other = key then none else List.lookup other entries := by
  induction entries with
  | nil => simp
  | cons first rest ih =>
    obtain ⟨k, a⟩ := first
    by_cases hkey : k = key
    · subst hkey
      rw [List.filter_cons_of_neg (by simp), ih, lookup_cons_ite]
      by_cases hother : other = k <;> simp [hother]
    · rw [List.filter_cons_of_pos (by simp [hkey]), lookup_cons_ite, lookup_cons_ite, ih]
      by_cases hother : other = k
      · subst hother
        simp [hkey]
      · simp [hother]

end Entries

/-! ## The cache of a node -/

namespace RelationshipCache

theorem lookup_setSlot (slots : List (CacheKey × Slot ρ)) (key other : CacheKey) (slot : Slot ρ) :
    List.lookup other (setSlot slots key slot) = if other = key then some slot else List.lookup other slots := by
  induction slots with
  | nil => rw [setSlot, lookup_cons_ite]
  | cons first rest ih =>
    obtain ⟨k, s⟩ := first
    rw [setSlot]
    by_cases hkey : key = k
    · subst hkey
      rw [if_pos rfl, lookup_cons_ite, lookup_cons_ite]
      by_cases hother : other = key <;> simp [hother]
    · rw [if_neg hkey, lookup_cons_ite, lookup_cons_ite, ih]
      by_cases hother : other = k
      · subst hother
        simp [Ne.symm hkey]
      · simp [hother]

theorem slot?_set (cache : RelationshipCache ρ) (key other : CacheKey) (slot : Slot ρ) :
    (cache.set key slot).slot? other = if other = key then some slot else cache.slot? other :=
  lookup_setSlot cache.slots key other slot

theorem slot?_erase (cache : RelationshipCache ρ) (key other : CacheKey) :
    (cache.erase key).slot? other = if other = key then none else cache.slot? other :=
  lookup_filter_ne key other cache.slots

/-- Every result in a cache has some property with its key. -/
def All (P : CacheKey → ρ → Prop) (cache : RelationshipCache ρ) : Prop :=
  ∀ key result, cache.slot? key = some (.ready result) → P key result

variable {P : CacheKey → ρ → Prop} {cache : RelationshipCache ρ} {key : CacheKey} {result : ρ}

theorem all_empty : (empty : RelationshipCache ρ).All P := by
  intro key result h
  cases h

theorem All.set (h : cache.All P) {slot : Slot ρ} (hslot : ∀ result, slot = .ready result → P key result) :
    (cache.set key slot).All P := by
  intro other result hresult
  rw [slot?_set] at hresult
  split at hresult
  · rename_i heq
    exact heq ▸ hslot result (Option.some.inj hresult)
  · exact h other result hresult

theorem All.release (h : cache.All P) : (cache.release key).All P := by
  unfold RelationshipCache.release
  split
  · intro other result hresult
    rw [slot?_erase] at hresult
    split at hresult
    · cases hresult
    · exact h other result hresult
  · exact h

/-- A lookup finds results of the property. -/
theorem All.start (h : cache.All P) (key : CacheKey) :
    (∀ result, (cache.start key).1 = .ok (some result) → P key result) ∧ (cache.start key).2.All P := by
  unfold RelationshipCache.start
  cases hslot : cache.slot? key with
  | none => exact ⟨nofun, h.set nofun⟩
  | some slot =>
    cases slot with
    | computing => exact ⟨nofun, h⟩
    | ready result =>
      refine ⟨fun other heq => ?_, h⟩
      cases heq
      exact h key result hslot

/-- What counts after an insertion has the property. -/
theorem All.insertReady (h : cache.All P) (hresult : P key result) :
    P key (cache.insertReady key result).1 ∧ (cache.insertReady key result).2.All P := by
  unfold RelationshipCache.insertReady
  cases hslot : cache.slot? key with
  | none =>
    refine ⟨hresult, h.set fun other heq => ?_⟩
    cases heq
    exact hresult
  | some slot =>
    cases slot with
    | computing => exact ⟨hresult, h⟩
    | ready earlier => exact ⟨h key earlier hslot, h⟩

end RelationshipCache

/-! ## The caches of a request -/

namespace RequestCache

/-- Every result in the caches of a request has some property with its node and its key. -/
def All (P : (typeName id : String) → CacheKey → ρ → Prop) (cache : RequestCache ρ) : Prop :=
  ∀ typeName id, (cache.forNode typeName id).All (P typeName id)

variable {P : (typeName id : String) → CacheKey → ρ → Prop} {cache : RequestCache ρ}

theorem lookup_setNode (nodes : List ((String × String) × RelationshipCache ρ)) (identity other : String × String)
    (node : RelationshipCache ρ) : List.lookup other (setNode nodes identity node) =
      if other = identity then some node else List.lookup other nodes := by
  induction nodes with
  | nil => rw [setNode, lookup_cons_ite]
  | cons first rest ih =>
    obtain ⟨i, c⟩ := first
    rw [setNode]
    by_cases hidentity : identity = i
    · subst hidentity
      rw [if_pos rfl, lookup_cons_ite, lookup_cons_ite]
      by_cases hother : other = identity <;> simp [hother]
    · rw [if_neg hidentity, lookup_cons_ite, lookup_cons_ite, ih]
      by_cases hother : other = i
      · subst hother
        simp [Ne.symm hidentity]
      · simp [hother]

theorem forNode_set (typeName id otherType other : String) (node : RelationshipCache ρ) :
    (cache.set typeName id node).forNode otherType other =
      if otherType = typeName ∧ other = id then node else cache.forNode otherType other := by
  unfold forNode set
  rw [lookup_setNode]
  by_cases h : otherType = typeName ∧ other = id
  · simp [h]
  · simp [h]

theorem all_empty (request : Nat) : (empty request : RequestCache ρ).All P :=
  fun _ _ => RelationshipCache.all_empty

theorem All.set (h : cache.All P) {typeName id : String} {node : RelationshipCache ρ}
    (hnode : node.All (P typeName id)) : (cache.set typeName id node).All P := by
  intro otherType other
  rw [forNode_set]
  split
  · rename_i heq
    rw [heq.1, heq.2]
    exact hnode
  · exact h otherType other

theorem All.see (h : cache.All P) (typeName id : String) : (cache.see typeName id).All P := h.set (h typeName id)

end RequestCache

/-! ## Caches inside a larger state -/

/-- What a lookup with a computation keeps: starting keeps it, and so does ending a computation that was started, with a
result or without one. -/
theorem Cell.keeps_of_start {σ : Type} {cell : Cell σ ρ} {I : σ → Prop} {P : ρ → Prop} {key : CacheKey}
    {compute : Run σ ρ}
    (hstart : ∀ s, I s → I (cell.set s ((cell.get s).start key).2) ∧
      ∀ result, ((cell.get s).start key).1 = .ok (some result) → P result)
    (hend : ∀ s, I s → ((cell.get s).start key).1 = .ok none → ∀ later, I later →
      (∀ result, P result → I (cell.set later ((cell.get later).complete key result))) ∧
        I (cell.set later ((cell.get later).release key)))
    (hcompute : Run.Keeps I P compute) : Run.Keeps I P (cell.getOrCompute key compute) := by
  intro s hs
  obtain ⟨hset, hready⟩ := hstart s hs
  have hended := hend s hs
  unfold Cell.getOrCompute
  generalize (cell.get s).start key = started at hset hready hended ⊢
  obtain ⟨found, cache⟩ := started
  rcases found with e | _ | result
  · refine ⟨nofun, fun e' s' h => ?_⟩
    cases h
    exact hset
  · obtain ⟨hok, herror⟩ := hcompute _ hset
    simp only
    cases hrun : compute (cell.set s cache) with
    | ok result later =>
      obtain ⟨hresult, hlater⟩ := hok result later hrun
      refine ⟨fun a s' h => ?_, fun e s' h => nomatch h⟩
      cases h
      exact ⟨hresult, (hended rfl later hlater).1 result hresult⟩
    | error e later =>
      have hlater := herror e later hrun
      refine ⟨nofun, fun e' s' h => ?_⟩
      cases h
      exact (hended rfl later hlater).2
  · refine ⟨fun a s' h => ?_, fun e s' h => nomatch h⟩
    cases h
    exact ⟨hready result rfl, hset⟩

/-- A computation inside a larger state gives a result of a property of its key when the results in the cache have the
property and so has whatever is computed. -/
theorem Cell.keeps_getOrCompute {σ : Type} {cell : Cell σ ρ} {I : σ → Prop} {P : CacheKey → ρ → Prop} {key : CacheKey}
    {compute : Run σ ρ} (hget : ∀ s, I s → (cell.get s).All P)
    (hset : ∀ s cache, I s → cache.All P → I (cell.set s cache)) (hcompute : Run.Keeps I (P key) compute) :
    Run.Keeps I (P key) (cell.getOrCompute key compute) := by
  refine Cell.keeps_of_start (fun s hs => ?_) (fun s _ _ later hlater => ?_) hcompute
  · obtain ⟨hready, hcache⟩ := (hget s hs).start key
    exact ⟨hset s _ hs hcache, hready⟩
  · refine ⟨fun result hresult => hset later _ hlater ((hget later hlater).set fun other heq => ?_),
      hset later _ hlater (hget later hlater).release⟩
    cases heq
    exact hresult

/-- A result that is ready stays where another may be computed: the entry of that one is not ready, so it is another. -/
theorem Cell.keeps_getOrCompute_apart {σ : Type} {cell : Cell σ ρ} {I : σ → Prop} {key : CacheKey} {compute : Run σ ρ}
    (hsame : ∀ s cache, I s → (∀ other, cache.slot? other = (cell.get s).slot? other) → I (cell.set s cache))
    (hapart : ∀ s, I s → (∀ result, (cell.get s).slot? key ≠ some (.ready result)) → ∀ later cache, I later →
      (∀ other, other ≠ key → cache.slot? other = (cell.get later).slot? other) → I (cell.set later cache))
    (hcompute : Run.Keeps I (fun _ => True) compute) :
    Run.Keeps I (fun _ => True) (cell.getOrCompute key compute) := by
  refine Cell.keeps_of_start (fun s hs => ⟨?_, fun _ _ => trivial⟩) (fun s hs hnone later hlater => ?_) hcompute
  · unfold RelationshipCache.start
    cases hslot : (cell.get s).slot? key with
    | some slot => cases slot <;> exact hsame s _ hs fun _ => rfl
    | none =>
      refine hapart s hs (fun result h => ?_) s _ hs fun other hne => (RelationshipCache.slot?_set ..).trans (if_neg hne)
      rw [hslot] at h
      cases h
  · have hnot : ∀ result, (cell.get s).slot? key ≠ some (.ready result) := by
      intro result h
      unfold RelationshipCache.start at hnone
      rw [h] at hnone
      cases hnone
    refine ⟨fun result _ => ?_, ?_⟩
    · refine hapart s hs hnot later _ hlater fun other hne => ?_
      exact (RelationshipCache.slot?_set ..).trans (if_neg hne)
    · refine hapart s hs hnot later _ hlater fun other hne => ?_
      unfold RelationshipCache.release
      split
      · exact (RelationshipCache.slot?_erase ..).trans (if_neg hne)
      · rfl

/-- A result that is in the cache is given as it is, and nothing but the cache changes. -/
theorem Cell.getOrCompute_of_ready {σ : Type} {cell : Cell σ ρ} {key : CacheKey} {s : σ} {result : ρ}
    (hslot : (cell.get s).slot? key = some (.ready result)) (compute : Run σ ρ) :
    ∃ cache, cell.getOrCompute key compute s = .ok result (cell.set s cache) := by
  have hstart : (cell.get s).start key = (.ok (some result), ((cell.get s).start key).2) := by
    unfold RelationshipCache.start
    rw [hslot]
  unfold Cell.getOrCompute
  rw [hstart]
  exact ⟨_, rfl⟩

/-- A computation whose result is not in the cache is run, from the state where it is marked as being computed. -/
theorem Cell.getOrCompute_of_none {σ : Type} {cell : Cell σ ρ} {key : CacheKey} {compute : Run σ ρ} {s s' : σ} {result : ρ}
    (hslot : (cell.get s).slot? key = none) (h : compute (cell.set s ((cell.get s).start key).2) = .ok result s') :
    ∃ after, cell.getOrCompute key compute s = .ok result after := by
  have hstart : (cell.get s).start key = (.ok none, ((cell.get s).start key).2) := by
    unfold RelationshipCache.start
    rw [hslot]
  unfold Cell.getOrCompute
  rw [hstart]
  simp only [h]
  exact ⟨_, rfl⟩

end GraphQuery
