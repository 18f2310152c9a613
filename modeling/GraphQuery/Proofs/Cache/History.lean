import GraphQuery.Proofs.Cache.Kept

/-!
# The history of a cache

The cache of a node is a state machine. A `Program` is anything that is done with one: lookups, insertions and
computations in any order and depending on all earlier answers, where a computation is again such a program. A program
is run on a cache that is `Watched`: every operation, and every start of a computation, leaves a `Moment` with the cache
before and after it.

* One step: `Step` is what a moment can be, with the keys whose computations have not ended; each of the laws below is
  a lemma about one step from a cache that computes exactly the open keys (`Computes`).
* A whole run: the log of a program is a sequence of such steps (`Program.traced_run`, by induction on the program), and
  so every history is `Lawful` (`Program.lawful`): ready entries stay, computations are not entered twice, they end with
  their own entry and nothing else changed, none stays open, and the statistics count what they say.
-/

namespace GraphQuery

namespace RelationshipCache

variable {ρ : Type}

/-! ## Programs and their logs -/

/-- What is done with the cache of a node. Every step may depend on all answers so far. -/
inductive Program (ρ : Type) where
  | done (outcome : Result ρ)
  | get (key : CacheKey) (next : Result (Option ρ) → Program ρ)
  | insertReady (key : CacheKey) (result : ρ) (next : ρ → Program ρ)
  /-- The computation is a program on the same cache. -/
  | getOrCompute (key : CacheKey) (compute : Program ρ) (next : Result ρ → Program ρ)

/-- What can be seen of a cache. -/
inductive Event (ρ : Type) where
  | got (key : CacheKey) (answer : Result (Option ρ))
  | inserted (key : CacheKey) (given answer : ρ)
  /-- A computation starts. -/
  | began (key : CacheKey)
  /-- The answer to a request to compute; `computed` is what the computation gave if one was run for it. -/
  | answered (key : CacheKey) (computed : Option (Result ρ)) (answer : Result ρ)

/-- An event, with the cache before and after it. -/
structure Moment (ρ : Type) where
  before : RelationshipCache ρ
  event : Event ρ
  after : RelationshipCache ρ

/-- A cache under observation. -/
structure Watched (ρ : Type) where
  cache : RelationshipCache ρ
  /-- The cache at the last event. -/
  seen : RelationshipCache ρ
  /-- What a computation gave that ended since the last request to compute. -/
  computed : Option (Result ρ)
  log : List (Moment ρ)

namespace Watched

/-- A new cache under observation. -/
def fresh : Watched ρ := ⟨.empty, .empty, none, []⟩

/-- The cache inside of what is known about it. -/
def cell : Cell (Watched ρ) ρ := ⟨cache, fun watched cache => { watched with cache }⟩

/-- Logs an event, with all that changed since the last one. -/
def note (watched : Watched ρ) (event : Event ρ) : Watched ρ :=
  { watched with seen := watched.cache, log := watched.log ++ [⟨watched.seen, event, watched.cache⟩] }

/-- Runs a computation for a key: logs that it starts and remembers what it gives. -/
def computing (key : CacheKey) (compute : Run (Watched ρ) ρ) : Run (Watched ρ) ρ := fun watched =>
  match compute (watched.note (.began key)) with
  | .ok result after => .ok result { after with computed := some (.ok result) }
  | .error e after => .error e { after with computed := some (.error e) }

/-- What a run leaves behind, whether it succeeds or fails. -/
def left : EStateM.Result Error (Watched ρ) ρ → Watched ρ
  | .ok _ watched => watched
  | .error _ watched => watched

end Watched

namespace Program

/-- Runs a program on a watched cache. -/
def run : Program ρ → Run (Watched ρ) ρ
  | done (.ok result), watched => .ok result watched
  | done (.error e), watched => .error e watched
  | get key next, watched =>
    let (answer, cache) := watched.cache.get key
    (next answer).run (({ watched with cache }).note (.got key answer))
  | insertReady key result next, watched =>
    let (answer, cache) := watched.cache.insertReady key result
    (next answer).run (({ watched with cache }).note (.inserted key result answer))
  | getOrCompute key compute next, watched =>
    match Watched.cell.getOrCompute key (Watched.computing key compute.run) { watched with computed := none } with
    | .ok result after => (next (.ok result)).run (after.note (.answered key after.computed (.ok result)))
    | .error e after => (next (.error e)).run (after.note (.answered key after.computed (.error e)))

/-- What a program leaves behind on a new cache. -/
def final (program : Program ρ) : Watched ρ := Watched.left (program.run .fresh)

end Program

/-! ## Laws -/

/-- A moment when the result of a key is ready: the entry stays, and whoever asks gets the result. -/
def Moment.Tells (moment : Moment ρ) (key : CacheKey) (result : ρ) : Prop :=
  moment.after.slot? key = some (.ready result) ∧
    match moment.event with
    | .got k answer => k = key → answer = .ok (some result)
    | .inserted k _ answer => k = key → answer = result
    | .began k => k ≠ key
    | .answered k computed answer => k = key → computed = none ∧ answer = .ok result

/-- A moment while the result of a key is being computed: whoever asks fails, nothing is stored and no other computation
for the key starts. -/
def Moment.Refuses (moment : Moment ρ) (key : CacheKey) : Prop :=
  match moment.event with
  | .got k answer => k = key → answer = .error (.reentrantComputation key.text) ∧ moment.after = moment.before
  | .inserted k given answer => k = key → answer = given ∧ moment.after = moment.before
  | .began k => k ≠ key
  | .answered k none answer =>
    k = key → answer = .error (.reentrantComputation key.text) ∧ moment.after = moment.before
  | .answered _ (some _) _ => True

/-- What a computation leaves as the entry of its key. -/
def Slot.ofOutcome : Result ρ → Option (Slot ρ)
  | .ok result => some (.ready result)
  | .error _ => none

/-- A moment when a computation ends: the answer is what it gave, and only its own entry changes. -/
def Moment.Concludes (moment : Moment ρ) : Prop :=
  match moment.event with
  | .answered key (some outcome) answer => answer = outcome ∧ moment.before.slot? key = some .computing ∧
      ∀ other, moment.after.slot? other = if other = key then Slot.ofOutcome outcome else moment.before.slot? other
  | _ => True

/-- Whether a computation for a key starts. -/
def Moment.begins (key : CacheKey) (moment : Moment ρ) : Bool :=
  match moment.event with
  | .began k => k = key
  | _ => false

/-- Whether a computation for a key ends. -/
def Moment.ends (key : CacheKey) (moment : Moment ρ) : Bool :=
  match moment.event with
  | .answered k (some _) _ => k = key
  | _ => false

/-- Whether a computation starts. -/
def Moment.misses (moment : Moment ρ) : Bool :=
  match moment.event with
  | .began _ => true
  | _ => false

/-- Whether the entry of a key is ready. -/
def isReady (cache : RelationshipCache ρ) (key : CacheKey) : Bool :=
  match cache.slot? key with
  | some (.ready _) => true
  | _ => false

/-- Whether someone asks for a result that is ready. -/
def Moment.hits (moment : Moment ρ) : Bool :=
  match moment.event with
  | .got key _ => moment.before.isReady key
  | .answered key none _ => moment.before.isReady key
  | _ => false

/-- A log that leads from a cache to another one, each moment beginning where the one before it ended. -/
def Linked (cache : RelationshipCache ρ) : List (Moment ρ) → RelationshipCache ρ → Prop
  | [], last => cache = last
  | moment :: rest, last => moment.before = cache ∧ Linked moment.after rest last

/-- The laws of a cache over the history that led to it. -/
structure Lawful (log : List (Moment ρ)) (cache : RelationshipCache ρ) : Prop where
  /-- Nothing happens to the cache between the moments. -/
  linked : Linked .empty log cache
  /-- A result that is ready once is what every later operation on its key answers. -/
  stays : log.Pairwise fun earlier later =>
    ∀ key result, earlier.after.slot? key = some (.ready result) → later.Tells key result
  refuses : ∀ moment ∈ log, ∀ key, moment.before.slot? key = some .computing → moment.Refuses key
  concludes : ∀ moment ∈ log, moment.Concludes
  /-- At any time the keys being computed are those whose computation began and has not ended. -/
  computing : ∀ past future now, log = past ++ future → Linked .empty past now → ∀ key,
    past.countP (Moment.begins key) = past.countP (Moment.ends key) + if now.isComputing key then 1 else 0
  /-- At the end nothing is being computed. -/
  idle : ∀ key, cache.slot? key ≠ some .computing
  misses : cache.misses = log.countP Moment.misses
  hits : cache.hits = log.countP Moment.hits

/-! ## Steps -/

/-- What can happen to a cache while some keys are open, the innermost computation first. -/
inductive Step : List CacheKey → RelationshipCache ρ → Event ρ → List CacheKey → RelationshipCache ρ → Prop
  | hit {opened : List CacheKey} {cache : RelationshipCache ρ} {key : CacheKey} {result : ρ} :
      cache.slot? key = some (.ready result) →
      Step opened cache (.got key (.ok (some result))) opened { cache with hits := cache.hits + 1 }
  | refused {opened : List CacheKey} {cache : RelationshipCache ρ} {key : CacheKey} :
      cache.slot? key = some .computing →
      Step opened cache (.got key (.error (.reentrantComputation key.text))) opened cache
  | absent {opened : List CacheKey} {cache : RelationshipCache ρ} {key : CacheKey} :
      cache.slot? key = none → Step opened cache (.got key (.ok none)) opened cache
  | kept {opened : List CacheKey} {cache : RelationshipCache ρ} {key : CacheKey} {given earlier : ρ} :
      cache.slot? key = some (.ready earlier) → Step opened cache (.inserted key given earlier) opened cache
  | dropped {opened : List CacheKey} {cache : RelationshipCache ρ} {key : CacheKey} {given : ρ} :
      cache.slot? key = some .computing → Step opened cache (.inserted key given given) opened cache
  | stored {opened : List CacheKey} {cache : RelationshipCache ρ} {key : CacheKey} {given : ρ} :
      cache.slot? key = none → Step opened cache (.inserted key given given) opened (cache.set key (.ready given))
  | found {opened : List CacheKey} {cache : RelationshipCache ρ} {key : CacheKey} {result : ρ} :
      cache.slot? key = some (.ready result) →
      Step opened cache (.answered key none (.ok result)) opened { cache with hits := cache.hits + 1 }
  | reentered {opened : List CacheKey} {cache : RelationshipCache ρ} {key : CacheKey} :
      cache.slot? key = some .computing →
      Step opened cache (.answered key none (.error (.reentrantComputation key.text))) opened cache
  | began {opened : List CacheKey} {cache : RelationshipCache ρ} {key : CacheKey} :
      cache.slot? key = none →
      Step opened cache (.began key) (key :: opened) { cache.set key .computing with misses := cache.misses + 1 }
  | completed {opened : List CacheKey} {cache : RelationshipCache ρ} {key : CacheKey} {result : ρ} :
      Step (key :: opened) cache (.answered key (some (.ok result)) (.ok result)) opened (cache.complete key result)
  | failed {opened : List CacheKey} {cache : RelationshipCache ρ} {key : CacheKey} {e : Error} :
      Step (key :: opened) cache (.answered key (some (.error e)) (.error e)) opened (cache.release key)

/-- The keys that are being computed are exactly the open ones, each opened once. -/
structure Computes (opened : List CacheKey) (cache : RelationshipCache ρ) : Prop where
  nodup : opened.Nodup
  iff : ∀ key, cache.slot? key = some .computing ↔ key ∈ opened

section Steps

variable {opened opened' : List CacheKey} {cache cache' : RelationshipCache ρ} {event : Event ρ} {key other : CacheKey}
  {result : ρ}

theorem isComputing_iff : cache.isComputing key = true ↔ cache.slot? key = some .computing := by
  unfold isComputing
  split
  · rename_i h
    simp [h]
  · rename_i h
    simp only [Bool.false_eq_true, false_iff]
    exact h

theorem isReady_iff : cache.isReady key = true ↔ ∃ result, cache.slot? key = some (.ready result) := by
  unfold isReady
  split
  · rename_i result h
    simp [h]
  · rename_i h
    simp only [Bool.false_eq_true, false_iff, not_exists]
    exact h

/-- The statistics are no part of the entries. -/
theorem slot?_counted (hits misses : Nat) :
    ({ cache with hits := hits, misses := misses } : RelationshipCache ρ).slot? key = cache.slot? key := rfl

theorem slot?_complete :
    (cache.complete key result).slot? other = if other = key then some (.ready result) else cache.slot? other :=
  slot?_set cache key other _

theorem release_of_computing (h : cache.slot? key = some .computing) : cache.release key = cache.erase key := by
  unfold release
  rw [if_pos (isComputing_iff.mpr h)]

/-- The end of a computation changes its own entry only. -/
theorem Step.concludes (h : Step opened cache event opened' cache') (hopen : Computes opened cache) :
    (⟨cache, event, cache'⟩ : Moment ρ).Concludes := by
  cases h with
  | completed => exact ⟨rfl, (hopen.iff _).mpr List.mem_cons_self, fun _ => slot?_complete⟩
  | failed =>
    have hcomputing := (hopen.iff _).mpr List.mem_cons_self
    refine ⟨rfl, hcomputing, fun other => ?_⟩
    rw [release_of_computing hcomputing, slot?_erase]
    rfl
  | _ => trivial

/-- Open computations stay open, and nothing else is being computed. -/
theorem Step.computes (h : Step opened cache event opened' cache') (hopen : Computes opened cache) :
    Computes opened' cache' := by
  have hconcludes := h.concludes hopen
  cases h with
  | hit | refused | absent | kept | dropped | found | reentered => exact ⟨hopen.nodup, hopen.iff⟩
  | @stored _ _ key given hslot =>
    refine ⟨hopen.nodup, fun other => ?_⟩
    rw [slot?_set, ← hopen.iff]
    split
    · rename_i heq
      rw [heq, hslot]
      simp
    · rfl
  | @began _ _ key hslot =>
    have hnot : key ∉ opened := fun hmem => by
      rw [(hopen.iff key).mpr hmem] at hslot
      cases hslot
    refine ⟨List.nodup_cons.mpr ⟨hnot, hopen.nodup⟩, fun other => ?_⟩
    rw [slot?_counted, slot?_set, List.mem_cons, ← hopen.iff]
    split <;> simp_all
  | @completed _ _ key result | @failed _ _ key e =>
    obtain ⟨-, -, hslots⟩ := hconcludes
    obtain ⟨hnot, hnodup⟩ := List.nodup_cons.mp hopen.nodup
    refine ⟨hnodup, fun other => ?_⟩
    rw [hslots]
    split
    · rename_i heq
      subst heq
      simpa [Slot.ofOutcome] using hnot
    · rename_i hne
      rw [hopen.iff, List.mem_cons, or_iff_right hne]

/-- A ready entry stays, and the operation on it answers with its result. -/
theorem Step.tells (h : Step opened cache event opened' cache') (hopen : Computes opened cache)
    (hready : cache.slot? key = some (.ready result)) : (⟨cache, event, cache'⟩ : Moment ρ).Tells key result := by
  have hnot : key ∉ opened := fun hmem => by
    rw [(hopen.iff key).mpr hmem] at hready
    cases hready
  have hconcludes := h.concludes hopen
  unfold Moment.Tells
  cases h with
  | refused hslot | absent hslot | dropped hslot | reentered hslot =>
    refine ⟨hready, ?_⟩
    rintro rfl
    rw [hready] at hslot
    cases hslot
  | hit hslot | kept hslot | found hslot =>
    refine ⟨hready, ?_⟩
    rintro rfl
    rw [hready] at hslot
    cases hslot
    simp
  | @stored _ _ k given hslot =>
    have hne : key ≠ k := by
      rintro rfl
      rw [hready] at hslot
      cases hslot
    exact ⟨by rw [slot?_set, if_neg hne, hready], fun heq => absurd heq.symm hne⟩
  | @began _ _ k hslot =>
    have hne : key ≠ k := by
      rintro rfl
      rw [hready] at hslot
      cases hslot
    exact ⟨by rw [slot?_counted, slot?_set, if_neg hne, hready], hne.symm⟩
  | completed | failed =>
    obtain ⟨-, -, hslots⟩ := hconcludes
    have hne := List.ne_of_not_mem_cons hnot
    exact ⟨by rw [hslots, if_neg hne, hready], fun heq => absurd heq.symm hne⟩

/-- While a result is being computed it is refused to everyone. -/
theorem Step.refuses (h : Step opened cache event opened' cache') (hslot : cache.slot? key = some .computing) :
    (⟨cache, event, cache'⟩ : Moment ρ).Refuses key := by
  unfold Moment.Refuses
  cases h with
  | completed | failed => trivial
  | hit h | absent h | kept h | stored h | found h | began h =>
    rintro rfl
    rw [hslot] at h
    cases h
  | refused | dropped | reentered =>
    rintro rfl
    exact ⟨rfl, rfl⟩

/-- A key is opened when its computation begins and closed when it ends. -/
theorem Step.count (h : Step opened cache event opened' cache') (key : CacheKey) :
    opened'.count key + (if (⟨cache, event, cache'⟩ : Moment ρ).ends key then 1 else 0) =
      opened.count key + if (⟨cache, event, cache'⟩ : Moment ρ).begins key then 1 else 0 := by
  cases h with
  | began => simp [Moment.begins, Moment.ends, List.count_cons]
  | completed | failed => simp [Moment.begins, Moment.ends, List.count_cons]
  | _ => rfl

theorem Step.misses (h : Step opened cache event opened' cache') :
    cache'.misses = cache.misses + if (⟨cache, event, cache'⟩ : Moment ρ).misses then 1 else 0 := by
  cases h with
  | failed =>
    unfold release
    split <;> rfl
  | _ => rfl

theorem Step.hits (h : Step opened cache event opened' cache') :
    cache'.hits = cache.hits + if (⟨cache, event, cache'⟩ : Moment ρ).hits then 1 else 0 := by
  cases h with
  | hit h | found h => simp [Moment.hits, isReady_iff, h]
  | refused h | absent h | reentered h => simp [Moment.hits, isReady_iff, h]
  | failed =>
    unfold release
    split <;> rfl
  | _ => rfl

end Steps

/-! ## Runs -/

/-- A log of steps from a new cache, with the keys that are open at its end and the cache it leads to. -/
inductive Traced : List CacheKey → List (Moment ρ) → RelationshipCache ρ → Prop
  | fresh : Traced [] [] .empty
  | step {opened opened' : List CacheKey} {log : List (Moment ρ)} {event : Event ρ}
      {cache cache' : RelationshipCache ρ} :
      Traced opened log cache → Step opened cache event opened' cache' →
      Traced opened' (log ++ [⟨cache, event, cache'⟩]) cache'

section Runs

variable {opened : List CacheKey} {log : List (Moment ρ)} {cache : RelationshipCache ρ}

theorem Traced.computes (h : Traced opened log cache) : Computes opened cache := by
  induction h with
  | fresh => exact ⟨List.nodup_nil, fun _ => by simp [slot?, empty]⟩
  | step _ hstep ih => exact hstep.computes ih

theorem linked_concat {first last after : RelationshipCache ρ} {event : Event ρ} :
    ∀ {log : List (Moment ρ)}, Linked first log last → Linked first (log ++ [⟨last, event, after⟩]) after
  | [], h => ⟨h.symm, rfl⟩
  | _ :: _, ⟨hbefore, hrest⟩ => ⟨hbefore, linked_concat hrest⟩

/-- A log leads to one cache only. -/
theorem Linked.unique {first last last' : RelationshipCache ρ} :
    ∀ {log : List (Moment ρ)}, Linked first log last → Linked first log last' → last = last'
  | [], h, h' => h.symm.trans h'
  | _ :: _, ⟨_, h⟩, ⟨_, h'⟩ => Linked.unique h h'

theorem Traced.linked (h : Traced opened log cache) : Linked .empty log cache := by
  induction h with
  | fresh => rfl
  | step _ _ ih => exact linked_concat ih

/-- A part of a log from its start is a log. -/
theorem Traced.part (h : Traced opened log cache) : ∀ {past future : List (Moment ρ)}, log = past ++ future →
    ∃ opened' cache', Traced opened' past cache' := by
  induction h with
  | fresh =>
    intro past future heq
    obtain ⟨rfl, -⟩ := List.append_eq_nil_iff.mp heq.symm
    exact ⟨_, _, .fresh⟩
  | @step opened opened' log event cache cache' hlog hstep ih =>
    intro past future heq
    rcases future.eq_nil_or_concat with rfl | ⟨future, last, rfl⟩
    · rw [List.append_nil] at heq
      exact heq ▸ ⟨_, _, hlog.step hstep⟩
    · rw [List.concat_eq_append, ← List.append_assoc] at heq
      exact ih (List.append_inj_left' heq rfl)

/-- Every moment of a log is a step, and what is ready after it is ready at the end. -/
theorem Traced.mem (h : Traced opened log cache) : ∀ moment ∈ log,
    (∃ opened opened', Computes opened moment.before ∧ Step opened moment.before moment.event opened' moment.after) ∧
      ∀ key result, moment.after.slot? key = some (.ready result) → cache.slot? key = some (.ready result) := by
  induction h with
  | fresh =>
    intro moment hmem
    cases hmem
  | @step opened opened' log event cache cache' hlog hstep ih =>
    intro moment hmem
    rcases List.mem_append.mp hmem with hmem | hmem
    · obtain ⟨hmoment, hready⟩ := ih moment hmem
      exact ⟨hmoment, fun key result h => (hstep.tells hlog.computes (hready key result h)).1⟩
    · obtain rfl := List.mem_singleton.mp hmem
      exact ⟨⟨opened, opened', hlog.computes, hstep⟩, fun _ _ h => h⟩

theorem Traced.stays (h : Traced opened log cache) : log.Pairwise fun earlier later =>
    ∀ key result, earlier.after.slot? key = some (.ready result) → later.Tells key result := by
  induction h with
  | fresh => exact .nil
  | step hlog hstep ih =>
    refine List.pairwise_append.mpr ⟨ih, List.pairwise_singleton _ _, fun earlier hearlier later hlater => ?_⟩
    obtain rfl := List.mem_singleton.mp hlater
    exact fun key result hready => hstep.tells hlog.computes ((hlog.mem earlier hearlier).2 key result hready)

/-- The open keys are those whose computations began and have not ended. -/
theorem Traced.count (h : Traced opened log cache) (key : CacheKey) :
    log.countP (Moment.begins key) = log.countP (Moment.ends key) + opened.count key := by
  induction h with
  | fresh => rfl
  | step _ hstep ih =>
    have hcount := hstep.count key
    rw [List.countP_append, List.countP_append, List.countP_singleton, List.countP_singleton]
    omega

theorem Computes.count (h : Computes opened cache) (key : CacheKey) :
    opened.count key = if cache.isComputing key then 1 else 0 := by
  rw [h.nodup.count]
  simp only [isComputing_iff, h.iff]

theorem Traced.statistics (h : Traced opened log cache) :
    cache.misses = log.countP Moment.misses ∧ cache.hits = log.countP Moment.hits := by
  induction h with
  | fresh => exact ⟨rfl, rfl⟩
  | step _ hstep ih =>
    rw [List.countP_append, List.countP_append, List.countP_singleton, List.countP_singleton, hstep.misses, hstep.hits,
      ih.1, ih.2]
    exact ⟨rfl, rfl⟩

/-- A log after which nothing is open is lawful. -/
theorem Lawful.of_traced (h : Traced [] log cache) : Lawful log cache where
  linked := h.linked
  stays := h.stays
  refuses moment hmem key hslot := by
    obtain ⟨⟨_, _, -, hstep⟩, -⟩ := h.mem moment hmem
    exact hstep.refuses hslot
  concludes moment hmem := by
    obtain ⟨⟨_, _, hopen, hstep⟩, -⟩ := h.mem moment hmem
    exact hstep.concludes hopen
  computing past future now heq hnow key := by
    obtain ⟨opened, cache', hpast⟩ := h.part heq
    obtain rfl := hpast.linked.unique hnow
    rw [hpast.count, hpast.computes.count]
  idle key hslot := nomatch (h.computes.iff key).mp hslot
  misses := h.statistics.1
  hits := h.statistics.2

end Runs

/-! ## Histories of programs -/

theorem get_step (opened : List CacheKey) (cache : RelationshipCache ρ) (key : CacheKey) :
    Step opened cache (.got key (cache.get key).1) opened (cache.get key).2 := by
  unfold RelationshipCache.get
  cases hslot : cache.slot? key with
  | none => exact .absent hslot
  | some slot =>
    cases slot with
    | computing => exact .refused hslot
    | ready result => exact .hit hslot

theorem insertReady_step (opened : List CacheKey) (cache : RelationshipCache ρ) (key : CacheKey) (given : ρ) :
    Step opened cache (.inserted key given (cache.insertReady key given).1) opened (cache.insertReady key given).2 := by
  unfold RelationshipCache.insertReady
  cases hslot : cache.slot? key with
  | none => exact .stored hslot
  | some slot =>
    cases slot with
    | computing => exact .dropped hslot
    | ready result => exact .kept hslot

/-- A request to compute is answered at once, or a computation starts. -/
theorem start_step (opened : List CacheKey) (cache : RelationshipCache ρ) (key : CacheKey) :
    match cache.start key with
    | (.ok (some result), after) => Step opened cache (.answered key none (.ok result)) opened after
    | (.error e, after) => Step opened cache (.answered key none (.error e)) opened after
    | (.ok none, after) => Step opened cache (.began key) (key :: opened) after := by
  unfold RelationshipCache.start
  cases hslot : cache.slot? key with
  | none => exact .began hslot
  | some slot =>
    cases slot with
    | computing => exact .reentered hslot
    | ready result => exact .found hslot

/-- A cache under observation whose log is a trace up to now. -/
structure Watched.Sound (opened : List CacheKey) (watched : Watched ρ) : Prop where
  seen : watched.seen = watched.cache
  traced : Traced opened watched.log watched.cache

variable {opened opened' : List CacheKey} {watched : Watched ρ}

/-- Noting a step. -/
theorem Watched.Sound.note (h : watched.Sound opened) {cache : RelationshipCache ρ} {event : Event ρ}
    (computed : Option (Result ρ)) (hstep : Step opened watched.cache event opened' cache) :
    (({ watched with cache, computed }).note event).Sound opened' := by
  refine ⟨rfl, ?_⟩
  show Traced opened' (watched.log ++ [⟨watched.seen, event, cache⟩]) cache
  rw [h.seen]
  exact h.traced.step hstep

/-- Every program extends a trace and closes the computations that it opens. -/
theorem Program.sound_run (program : Program ρ) (opened : List CacheKey) (watched : Watched ρ)
    (h : watched.Sound opened) : (Watched.left (program.run watched)).Sound opened := by
  induction program generalizing opened watched with
  | done outcome =>
    cases outcome with
    | ok result => exact h
    | error e => exact h
  | get key next ih => exact ih _ opened _ (h.note _ (get_step opened watched.cache key))
  | insertReady key given next ih => exact ih _ opened _ (h.note _ (insertReady_step opened watched.cache key given))
  | getOrCompute key compute next ihc ihn =>
    have hstart := start_step opened watched.cache key
    simp only [run, Cell.getOrCompute, Watched.cell]
    cases hfound : watched.cache.start key with
    | mk found cache =>
      rw [hfound] at hstart
      rcases found with e | _ | result
      · exact ihn _ opened _ (h.note _ hstart)
      · have hcompute := ihc (key :: opened) _ (h.note none hstart)
        simp only [Watched.computing]
        cases hrun : compute.run (({ watched with cache, computed := none }).note (.began key)) with
        | ok result after =>
          rw [hrun] at hcompute
          exact ihn _ opened _ (hcompute.note _ .completed)
        | error e after =>
          rw [hrun] at hcompute
          exact ihn _ opened _ (hcompute.note _ .failed)
      · exact ihn _ opened _ (h.note _ hstart)

/-- The cache of a node obeys its laws, whatever is done with it. -/
theorem Program.lawful (program : Program ρ) : Lawful program.final.log program.final.cache :=
  .of_traced (program.sound_run [] .fresh ⟨rfl, .fresh⟩).traced

/-- A computation that asks for its own result fails and leaves nothing. -/
example : (Program.getOrCompute default (.getOrCompute default (.done (.ok ())) .done) .done).final.cache =
    ⟨[], 0, 1⟩ := rfl

end RelationshipCache

end GraphQuery
