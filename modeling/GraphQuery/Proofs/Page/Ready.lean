import GraphQuery.Proofs.Page.Assembling
import GraphQuery.Proofs.Page.Coherent

/-!
# Attached results are ready

Whatever presenting attaches to a node it keeps in the cache of the node, unless a result is being computed there. A
cache is quiet when it is coherent and nothing in it is being computed. From a quiet cache presenting leads to a quiet
one in which everything that was ready still is (`ResultCache.Grows`), and every result that is attached at any position
is ready in the cache of its node, under the key of the sub-query it is attached for (`Level.Filed`,
`Level.Planned.advances_presentNode`). From any cache assembling loses no result that is ready (`assembles_ready`).
-/

namespace GraphQuery

/-! ## Ready results -/

namespace RelationshipCache

variable {ρ : Type} {cache : RelationshipCache ρ} {key other : CacheKey} {result earlier : ρ}

/-- What is ready stays ready when another result is added. -/
theorem insertReady_grows (hready : cache.slot? other = some (.ready earlier)) :
    (cache.insertReady key result).2.slot? other = some (.ready earlier) := by
  unfold RelationshipCache.insertReady
  cases hslot : cache.slot? key with
  | none =>
    have hne : other ≠ key := by
      rintro rfl
      rw [hslot] at hready
      cases hready
    simp only [slot?_set, if_neg hne, hready]
  | some slot => cases slot <;> exact hready

/-- A result that is added while none is being computed is ready, or the earlier one that counts instead is. -/
theorem insertReady_ready (hidle : cache.slot? key ≠ some .computing) :
    (cache.insertReady key result).2.slot? key = some (.ready (cache.insertReady key result).1) := by
  unfold RelationshipCache.insertReady
  cases hslot : cache.slot? key with
  | none => simp only [slot?_set, if_pos]
  | some slot =>
    cases slot with
    | computing => exact absurd hslot hidle
    | ready earlier => exact hslot

/-- Adding a result starts no computation. -/
theorem insertReady_idle (hidle : cache.slot? other ≠ some .computing) :
    (cache.insertReady key result).2.slot? other ≠ some .computing := by
  unfold RelationshipCache.insertReady
  cases cache.slot? key with
  | none =>
    simp only [slot?_set]
    split
    · exact nofun
    · exact hidle
  | some slot => cases slot <;> exact hidle

end RelationshipCache

namespace ResultCache

/-- A result is ready in the cache of a node. -/
def Ready (cache : ResultCache) (typeName id : String) (key : CacheKey) (result : Related Node) : Prop :=
  (cache.forNode typeName id).slot? key = some (.ready result)

/-- Whatever is ready in a cache is ready in a later one. -/
def Grows (cache later : ResultCache) : Prop :=
  ∀ typeName id key result, cache.Ready typeName id key result → later.Ready typeName id key result

/-- No result is being computed. -/
def Idle (cache : ResultCache) : Prop :=
  ∀ typeName id key, (cache.forNode typeName id).slot? key ≠ some .computing

/-- A coherent cache in which no result is being computed. -/
structure Quiet [PropertyTable] (schema : Schema) (graph : Graph) (asks : Asking) (request : Nat) (cache : ResultCache)
    : Prop where
  coherent : ResultCache.Coherent schema graph asks request cache
  idle : cache.Idle

variable {cache later last : ResultCache} {typeName id : String} {key : CacheKey} {result kept : Related Node}

theorem Grows.refl (cache : ResultCache) : cache.Grows cache := fun _ _ _ _ h => h

theorem Grows.trans (h : cache.Grows later) (h' : later.Grows last) : cache.Grows last :=
  fun typeName id key result hready => h' typeName id key result (h typeName id key result hready)

theorem Quiet.empty [PropertyTable] (schema : Schema) (graph : Graph) (asks : Asking) (request : Nat) :
    ResultCache.Quiet schema graph asks request (.empty request) :=
  ⟨.empty schema graph asks request, fun _ _ _ h => by cases h⟩

/-- A change of the cache of a node that keeps a result ready. -/
theorem Ready.set (h : cache.Ready typeName id key result) {otherType other : String}
    {node : RelationshipCache (Related Node)}
    (hnode : typeName = otherType → id = other → node.slot? key = some (.ready result)) :
    ResultCache.Ready (cache.set otherType other node) typeName id key result := by
  rw [Ready, RequestCache.forNode_set]
  split
  · rename_i heq
    exact hnode heq.1 heq.2
  · exact h

/-- A change of the cache of a node that loses nothing. -/
theorem Grows.set {node : RelationshipCache (Related Node)}
    (hnode : ∀ key result, cache.Ready typeName id key result → node.slot? key = some (.ready result)) :
    cache.Grows (cache.set typeName id node) :=
  fun _ _ key result hready => hready.set fun htype hid => hnode key result (by rwa [← htype, ← hid])

theorem Grows.see (cache : ResultCache) (typeName id : String) : cache.Grows (cache.see typeName id) :=
  .set fun _ _ hready => hready

/-- A change of the cache of a node that starts no computation. -/
theorem Idle.set (h : cache.Idle) {node : RelationshipCache (Related Node)}
    (hnode : ∀ key, node.slot? key ≠ some .computing) : ResultCache.Idle (cache.set typeName id node) := by
  intro otherType other key
  rw [RequestCache.forNode_set]
  split
  · exact hnode key
  · exact h otherType other key

theorem grows_keep (h : keep typeName id key result cache = .ok kept later) : cache.Grows later := by
  have hkeep := Run.modifyGet_eq_ok.mp h
  cases hkeep
  exact .set fun _ _ => RelationshipCache.insertReady_grows

/-- A result that is kept while none is being computed under its key is ready. -/
theorem ready_keep (hidle : (cache.forNode typeName id).slot? key ≠ some .computing)
    (h : keep typeName id key result cache = .ok kept later) : later.Ready typeName id key kept := by
  have hkeep := Run.modifyGet_eq_ok.mp h
  cases hkeep
  rw [Ready, RequestCache.forNode_set, if_pos ⟨rfl, rfl⟩]
  exact RelationshipCache.insertReady_ready hidle

/-- Keeping a result starts no computation. -/
theorem Idle.keep (hidle : cache.Idle) (h : GraphQuery.keep typeName id key result cache = .ok kept later) :
    later.Idle := by
  have hkeep := Run.modifyGet_eq_ok.mp h
  cases hkeep
  exact hidle.set fun other => RelationshipCache.insertReady_idle (hidle typeName id other)

end ResultCache

/-! ## Filed results -/

/-- Every result that is attached to a node, at any position of a result of a level, is ready in the cache of its node
under the key of the sub-query that it is attached for. -/
def Level.Filed (cache : ResultCache) (level : Level) (result : Related Node) : Prop :=
  ∀ position other, result.At position other → ∀ inner, level.levelAt position = some inner → ∀ node ∈ other.nodes,
    ∀ entry ∈ node.relationships, ∀ sub, inner.below? entry.1 node.typeName = some sub →
      cache.Ready node.typeName node.id (.ofQuery sub.relationship sub.query) entry.2

/-- What is attached to a node for a sub-query is ready, and so is everything below. -/
def SubQuery.Filed (cache : ResultCache) (typeName id : String) (sub : SubQuery Level) (result : Related Node) : Prop :=
  cache.Ready typeName id (.ofQuery sub.relationship sub.query) result ∧ sub.query.Filed cache result

/-- Whatever is attached to a node of a level is filed for its sub-query. -/
def Level.Files (cache : ResultCache) (level : Level) (node : Node) : Prop :=
  ∀ entry ∈ node.relationships, ∃ sub, level.below? entry.1 node.typeName = some sub ∧
    sub.Filed cache node.typeName node.id entry.2

section Filing

variable {cache later : ResultCache} {level : Level} {result : Related Node} {typeName id : String}

theorem Level.Filed.mono (h : level.Filed cache result) (hgrows : cache.Grows later) : level.Filed later result :=
  fun position other hat inner hinner node hnode entry hentry sub hsub =>
    hgrows _ _ _ _ (h position other hat inner hinner node hnode entry hentry sub hsub)

theorem SubQuery.Filed.mono {sub : SubQuery Level} (h : sub.Filed cache typeName id result)
    (hgrows : cache.Grows later) : sub.Filed later typeName id result :=
  ⟨hgrows _ _ _ _ h.1, h.2.mono hgrows⟩

theorem Level.Files.mono {node : Node} (h : level.Files cache node) (hgrows : cache.Grows later) :
    level.Files later node := by
  intro entry hentry
  obtain ⟨sub, hsub, hfiled⟩ := h entry hentry
  exact ⟨sub, hsub, hfiled.mono hgrows⟩

/-- A result is filed when what is attached to its nodes is. -/
theorem Level.filed_of (h : ∀ node ∈ result.nodes, level.Files cache node) : level.Filed cache result := by
  intro position other hat inner hinner node hnode entry hentry sub hsub
  cases hat with
  | here =>
    cases hinner
    obtain ⟨own, hown, hready, _⟩ := h node hnode entry hentry
    cases hown.symm.trans hsub
    exact hready
  | @down _ attached _ above resultKey rest habove hattached hat =>
    obtain ⟨own, hown, hinner⟩ := Option.bind_eq_some_iff.mp hinner
    obtain ⟨own', hown', _, hfiled⟩ := h above habove _ hattached
    cases hown'.symm.trans hown
    exact hfiled rest other hat inner hinner node hnode entry hentry sub hsub

end Filing

/-! ## Runs from quiet caches -/

variable [PropertyTable]

/-- From a quiet cache a run that succeeds leads to a quiet one in which everything that was ready is, and what it gives
has a property there. -/
def Advances (schema : Schema) (graph : Graph) (asks : Asking) (request : Nat) {α : Type} (P : ResultCache → α → Prop)
    (x : Assembly α) : Prop :=
  ∀ cache a later, ResultCache.Quiet schema graph asks request cache → x cache = .ok a later →
    ResultCache.Quiet schema graph asks request later ∧ cache.Grows later ∧ P later a

section Advancing

variable {schema : Schema} {graph : Graph} {asks : Asking} {request : Nat} {α β : Type} {P : ResultCache → α → Prop}
  {Q : ResultCache → β → Prop}

theorem Advances.imp {x : Assembly α} (h : Advances schema graph asks request P x) {P' : ResultCache → α → Prop}
    (himp : ∀ cache a, P cache a → P' cache a) : Advances schema graph asks request P' x := by
  intro cache a later hquiet hx
  obtain ⟨hlater, hgrows, ha⟩ := h cache a later hquiet hx
  exact ⟨hlater, hgrows, himp later a ha⟩

theorem advances_pure {a : α} (h : ∀ cache, P cache a) : Advances schema graph asks request P (pure a) := by
  intro cache b later hquiet hx
  obtain ⟨rfl, rfl⟩ := Run.pure_eq_ok.mp hx
  exact ⟨hquiet, .refl cache, h cache⟩

/-- What the first step gives keeps its property while the caches grow. -/
theorem Advances.bind {x : Assembly α} {f : α → Assembly β} (hx : Advances schema graph asks request P x)
    (hP : ∀ cache later a, P cache a → cache.Grows later → P later a)
    (hf : ∀ a cache, P cache a → Advances schema graph asks request (fun cache b => P cache a → Q cache b) (f a)) :
    Advances schema graph asks request Q (x >>= f) := by
  intro cache b last hquiet h
  obtain ⟨a, later, ha, hb⟩ := Run.bind_eq_ok.mp h
  obtain ⟨hlater, hgrows, hPa⟩ := hx cache a later hquiet ha
  obtain ⟨hlast, hgrows', hQb⟩ := hf a later hPa later b last hlater hb
  exact ⟨hlast, hgrows.trans hgrows', hQb (hP later last a hPa hgrows')⟩

/-- A run that gives one result from coherent caches gives it from quiet ones. -/
theorem Advances.and_gives {r : Result α} {x : Assembly α} (h : Advances schema graph asks request P x)
    (hgives : Run.Gives (ResultCache.Coherent schema graph asks request) r x) :
    Advances schema graph asks request (fun cache a => r = .ok a ∧ P cache a) x := by
  intro cache a later hquiet hx
  obtain ⟨hlater, hgrows, ha⟩ := h cache a later hquiet hx
  exact ⟨hlater, hgrows, ((hgives.keeps cache hquiet.coherent).1 a later hx).1, ha⟩

theorem advances_ofExcept (r : Result α) :
    Advances schema graph asks request (fun _ a => r = .ok a) (MonadExcept.ofExcept r) := by
  intro cache a later hquiet hx
  obtain ⟨hr, rfl⟩ := Run.ofExcept_eq_ok.mp hx
  exact ⟨hquiet, .refl cache, hr⟩

theorem advances_see (typeName id : String) :
    Advances schema graph asks request (fun _ _ => True) (modify fun cache => cache.see typeName id) := by
  intro cache a later hquiet hx
  have hsee := Run.modify_eq_ok.mp hx
  subst hsee
  exact ⟨⟨hquiet.coherent.see typeName id, hquiet.idle.set (hquiet.idle typeName id)⟩,
    .see cache typeName id, trivial⟩

theorem advances_get : Advances schema graph asks request (fun _ _ => True) (get : Assembly ResultCache) := by
  intro cache a later hquiet hx
  obtain ⟨_, rfl⟩ := Run.get_eq_ok.mp hx
  exact ⟨hquiet, .refl _, trivial⟩

theorem Advances.mapM {R : ResultCache → α → β → Prop} {f : α → Assembly β}
    (hR : ∀ cache later x y, R cache x y → cache.Grows later → R later x y) : ∀ {xs : List α},
      (∀ x ∈ xs, Advances schema graph asks request (fun cache y => R cache x y) (f x)) →
      Advances schema graph asks request (fun cache ys => ∀ y ∈ ys, ∃ x ∈ xs, R cache x y) (xs.mapM f)
  | [], _ => by
    rw [List.mapM_nil]
    exact advances_pure fun _ _ hy => by cases hy
  | x :: xs, h => by
    obtain ⟨hx, hxs⟩ := List.forall_mem_cons.mp h
    rw [List.mapM_cons]
    refine hx.bind (fun cache later y => hR cache later x y) fun y _ _ =>
      (Advances.mapM hR hxs).bind ?_ fun ys _ _ => ?_
    · intro cache later ys hys hgrows z hz
      obtain ⟨w, hw, hwz⟩ := hys z hz
      exact ⟨w, hw, hR cache later w z hwz hgrows⟩
    · refine advances_pure fun cache hys hy z hz => ?_
      rcases List.mem_cons.mp hz with rfl | hz
      · exact ⟨x, List.mem_cons_self, hy⟩
      · obtain ⟨w, hw, hwz⟩ := hys z hz
        exact ⟨w, List.mem_cons_of_mem x hw, hwz⟩

/-- A result that is the one that counts is ready when it is kept. -/
theorem advances_keep {typeName id : String} {key : CacheKey} {result : Related Node}
    (hgives : Run.Gives (ResultCache.Coherent schema graph asks request) (.ok result) (keep typeName id key result)) :
    Advances schema graph asks request (fun cache kept => kept = result ∧ cache.Ready typeName id key result)
      (keep typeName id key result) := by
  intro cache kept later hquiet h
  obtain ⟨after, hafter, hcoherent⟩ := hgives.ok hquiet.coherent
  cases hafter.symm.trans h
  exact ⟨⟨hcoherent, hquiet.idle.keep h⟩, ResultCache.grows_keep h, rfl,
    ResultCache.ready_keep (hquiet.idle typeName id key) h⟩

end Advancing

/-! ## Presenting -/

section Presenting

variable {schema : Schema} {graph : Graph} {asks : Asking} {request : Nat} {found : Found} {typeName : String}
  {level : Level}

/-- Presenting a branch gives what the branch shows, with everything below filed, and keeping it changes nothing. -/
structure Branch.Advances (schema : Schema) (graph : Graph) (asks : Asking) (request : Nat) (found : Found)
    (typeName : String) (branch : Branch) : Prop where
  present : GraphQuery.Advances schema graph asks request
    (fun cache result => branch.shown schema request found = .ok result ∧ branch.sub.query.Filed cache result)
    (branch.sub.query.present schema ((List.lookup (branch.resultKey, branch.index) found.related).getD .empty))
  keep : ∀ result, branch.shown schema request found = .ok result →
    Run.Gives (ResultCache.Coherent schema graph asks request) (.ok result)
      (keep typeName found.id (.ofQuery branch.sub.relationship branch.sub.query) result)

/-- A result is filed for the first of several sub-queries that applies. -/
def FiledFirst (cache : ResultCache) (typeName id : String) (subs : List (SubQuery Level)) (result : Related Node) :
    Prop :=
  ∃ sub, subs.find? (·.appliesTo typeName) = some sub ∧ sub.Filed cache typeName id result

omit [PropertyTable] in
theorem FiledFirst.mono {cache later : ResultCache} {id : String} {subs : List (SubQuery Level)} {result : Related Node}
    (h : FiledFirst cache typeName id subs result) (hgrows : cache.Grows later) :
    FiledFirst later typeName id subs result := by
  obtain ⟨sub, hsub, hfiled⟩ := h
  exact ⟨sub, hsub, hfiled.mono hgrows⟩

theorem advances_presentFirst {resultKey : String} : ∀ {subs : List (SubQuery Level)} {i : Nat},
    (∀ branch ∈ Level.branchesOfSubs resultKey subs i, branch.sub.appliesTo typeName = true →
      branch.Advances schema graph asks request found typeName) →
      Advances schema graph asks request
        (fun cache first => ∀ result, first = some result → FiledFirst cache typeName found.id subs result)
        (Level.presentFirst schema typeName found resultKey subs i)
  | [], i, _ => by
    rw [Level.presentFirst]
    exact advances_pure fun _ _ heq => by cases heq
  | ⟨relationship, query, onlyOnTypes⟩ :: rest, i, h => by
    obtain ⟨hfirst, hrest⟩ := List.forall_mem_cons.mp h
    rw [Level.presentFirst]
    by_cases happlies : SubQuery.appliesTo ⟨relationship, (), onlyOnTypes⟩ typeName = true
    · rw [if_pos happlies]
      obtain ⟨hpresent, hkeep⟩ := hfirst happlies
      refine hpresent.bind (fun _ _ _ h hgrows => ⟨h.1, h.2.mono hgrows⟩) fun result _ hresult => ?_
      refine (advances_keep (hkeep result hresult.1)).bind (fun _ _ _ h hgrows => ⟨h.1, hgrows _ _ _ _ h.2⟩)
        fun kept _ _ => advances_pure fun cache hkept hfiled other heq => ?_
      obtain ⟨rfl, hready⟩ := hkept
      cases heq
      exact ⟨_, List.find?_cons_of_pos happlies, hready, hfiled.2⟩
    · have hskip : (⟨relationship, query, onlyOnTypes⟩ :: rest : List (SubQuery Level)).find? (·.appliesTo typeName) =
          rest.find? (·.appliesTo typeName) := List.find?_cons_of_neg happlies
      simp only [if_neg happlies, FiledFirst, hskip]
      exact advances_presentFirst hrest

theorem advances_presentParts : ∀ {parts : List (String × List (SubQuery Level))},
    (∀ branch ∈ Level.branchesOfParts parts, branch.sub.appliesTo typeName = true →
      branch.Advances schema graph asks request found typeName) →
      Advances schema graph asks request
        (fun cache results => ∀ entry ∈ results, ∃ subs, (entry.1, subs) ∈ parts ∧
          FiledFirst cache typeName found.id subs entry.2)
        (Level.presentParts schema typeName found parts)
  | [], _ => by
    rw [Level.presentParts]
    exact advances_pure fun _ _ hentry => by cases hentry
  | (resultKey, subs) :: rest, h => by
    have hrest : Advances schema graph asks request
        (fun cache results => ∀ entry ∈ results, ∃ others, (entry.1, others) ∈ (resultKey, subs) :: rest ∧
          FiledFirst cache typeName found.id others entry.2) (Level.presentParts schema typeName found rest) := by
      refine (advances_presentParts fun branch hbranch => h branch (List.mem_append_right _ hbranch)).imp
        fun cache results hresults entry hentry => ?_
      obtain ⟨others, hothers, hfiled⟩ := hresults entry hentry
      exact ⟨others, List.mem_cons_of_mem (resultKey, subs) hothers, hfiled⟩
    rw [Level.presentParts]
    refine (advances_presentFirst fun branch hbranch => h branch (List.mem_append_left _ hbranch)).bind
      (fun _ _ _ h hgrows result heq => (h result heq).mono hgrows) fun first _ _ => ?_
    cases first with
    | none => exact hrest.imp fun _ _ hresults _ => hresults
    | some result =>
      refine hrest.bind (fun cache later results h hgrows entry hentry => ?_) fun results _ _ => ?_
      · obtain ⟨others, hothers, hfiled⟩ := h entry hentry
        exact ⟨others, hothers, hfiled.mono hgrows⟩
      · refine advances_pure fun cache hresults hfirst entry hentry => ?_
        rcases List.mem_cons.mp hentry with rfl | hentry
        · exact ⟨subs, List.mem_cons_self, hfirst result rfl⟩
        · exact hresults entry hentry

/-- Presenting a node files what is attached to it when presenting each branch files what is below. -/
theorem Level.advances_presentNode (hsorted : Table.Sorted level.parts)
    (h : ∀ entity, found.concreteType schema = .ok entity → ∀ branch ∈ level.branches,
      branch.sub.appliesTo entity.name = true → branch.Advances schema graph asks request found entity.name) :
    Advances schema graph asks request (fun cache node => level.Files cache node) (level.presentNode schema found) := by
  obtain ⟨entityType, options, condition, limit, cardinality, parts⟩ := level
  rw [Level.presentNode]
  refine (advances_ofExcept _).bind (fun _ _ _ h _ => h) fun entity _ hentity => ?_
  refine (advances_see entity.name found.id).bind (fun _ _ _ h _ => h) fun _ _ _ => ?_
  refine (advances_presentParts (h entity hentity)).bind (fun cache later results h hgrows entry hentry => ?_)
    fun relationships _ _ => ?_
  · obtain ⟨subs, hpart, hfiled⟩ := h entry hentry
    exact ⟨subs, hpart, hfiled.mono hgrows⟩
  · refine advances_get.bind (fun _ _ _ h _ => h) fun state _ _ => ?_
    refine advances_pure fun cache _ hresults _ _ entry hentry => ?_
    obtain ⟨subs, hpart, sub, hsub, hfiled⟩ := hresults entry hentry
    refine ⟨sub, ?_, hfiled⟩
    rw [Level.below?, Level.part?, (Table.lookup_eq_some_iff hsorted).mpr hpart]
    exact hsub

section Answers

variable {answer : Answer Found} (hrows : ∀ found ∈ answer.rows,
  Advances schema graph asks request (fun cache node => level.Files cache node) (level.presentNode schema found))

include hrows

theorem Level.advances_presentPage : Advances schema graph asks request
    (fun cache page => level.Filed cache (.many page)) (level.presentPage schema answer) := by
  unfold Level.presentPage Options.presentPage
  have hitems : Advances schema graph asks request
      (fun cache (items : List (Item Node)) => ∀ item ∈ items, ∃ found ∈ (level.options.slice answer.rows).1,
        level.Files cache item.node)
      ((level.options.slice answer.rows).1.mapM (level.options.presentItem (level.presentNode schema))) := by
    refine Advances.mapM (R := fun cache _ (item : Item Node) => level.Files cache item.node) (fun _ _ _ _ h => h.mono)
      fun found hfound => ?_
    exact (hrows found (Options.mem_of_slice hfound)).bind (fun _ _ _ => Level.Files.mono)
      fun node _ _ => advances_pure fun _ h => h
  refine hitems.bind (fun cache later items h hgrows item hitem => ?_) fun items _ _ => ?_
  · obtain ⟨found, hfound, hfiles⟩ := h item hitem
    exact ⟨found, hfound, hfiles.mono hgrows⟩
  · refine advances_pure fun cache h => Level.filed_of fun node hnode => ?_
    obtain ⟨item, hitem, rfl⟩ := List.mem_map.mp hnode
    obtain ⟨_, _, hfiles⟩ := h item hitem
    exact hfiles

theorem Level.advances_present : Advances schema graph asks request (fun cache result => level.Filed cache result)
    (level.present schema answer) := by
  unfold Level.present Level.presentRelated
  cases level.cardinality with
  | one =>
    obtain ⟨totalCount, rows⟩ := answer
    cases rows with
    | nil => exact advances_pure fun cache => Level.filed_of fun node hnode => by cases hnode
    | cons found rest =>
      refine (hrows found List.mem_cons_self).bind (fun _ _ _ => Level.Files.mono) fun node _ _ =>
        advances_pure fun cache hfiles => Level.filed_of fun other hother => ?_
      rw [List.mem_singleton.mp hother]
      exact hfiles
  | many =>
    exact (Level.advances_presentPage hrows).bind (fun _ _ _ => Level.Filed.mono) fun page _ _ =>
      advances_pure fun _ h => h

end Answers

end Presenting

/-- Presenting what a planned level finds files everything that is attached. -/
theorem Level.Planned.advances_presentNode {planner : Planner} {graph : Graph} {asks : Asking} {request : Nat}
    (hnamed : planner.schema.Named) (hsingle : asks.Single) :
    ∀ {level : Level}, level.Planned planner graph asks → ∀ {candidates : List String} {answer : Answer Found},
      (∀ id ∈ candidates, graph.hasLabel id level.entityType = true) → level.find graph candidates = .ok answer →
        ∀ found ∈ answer.rows, Advances planner.schema graph asks request (fun cache node => level.Files cache node)
          (level.presentNode planner.schema found) := by
  intro level
  induction level using Level.induct with
  | step level ih =>
    intro hlevel candidates answer hlabels hfind found hfound
    obtain ⟨_, hmakes⟩ := hlevel.makes
    have hsorted := hmakes.heads.sorted
    refine Level.advances_presentNode hsorted fun concrete hconcrete branch hbranch happlies => ?_
    have hgives : branch.Gives planner.schema graph asks request found concrete.name :=
      hlevel.gives_branch hnamed hsingle hlabels hfind hfound hconcrete hbranch happlies
        ((hlevel.below hbranch).gives_presentNode hnamed hsingle)
    have hlabelled := SubQuery.appliesToLabels_of happlies (Found.name_of_concreteType hnamed hconcrete)
    obtain ⟨other, hlookup, hother⟩ := Level.lookup_of_find hsorted hfind hfound hbranch hlabelled
    refine ⟨Advances.and_gives ?_ hgives.present, hgives.keep⟩
    rw [hlookup]
    exact Level.advances_present
      (ih branch hbranch (hlevel.below hbranch) (fun id hid => (Graph.mem_neighbours.mp hid).2) hother)

/-! ## Assembling loses nothing -/

omit [PropertyTable] in
/-- Assembling loses no result that is ready, whatever the answer. -/
theorem assembles_ready (schema : Schema) (typeName id : String) (key : CacheKey) (result : Related Node) :
    Assembles schema (ResultCache.Ready · typeName id key result) (fun _ => True) (fun _ => True) fun _ => True where
  below _ _ _ _ _ _ := trivial
  see cache typeName id hready := ResultCache.Grows.see cache typeName id _ _ _ _ hready
  keep _ _ _ _ _ cache hready :=
    ⟨fun kept later h => ⟨trivial, ResultCache.grows_keep h _ _ _ _ hready⟩, fun e later h => by cases h⟩
  result _ _ := trivial
  node _ _ _ _ _ _ _ := trivial

end GraphQuery
