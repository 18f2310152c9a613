import GraphQuery.Proofs.Cursor.Beyond
import GraphQuery.Proofs.Page.Presented
import GraphQuery.Proofs.Page.Slice
import GraphQuery.Proofs.Plan.Adequacy
import GraphQuery.Proofs.Plan.Paged

/-!
# Pages of what a level finds

A level without pages finds its nodes in order (`Level.find_whole`). With a page among its options it finds of the same
rows those between the cursors, up to one more than the page shows (`Level.find_withOptions`), and the page that is
presented has the outlines that the items of the whole have there (`Options.presentPage_of_presents`).
-/

namespace GraphQuery

/-! ## Nodes around a cursor -/

namespace Order

/-- What cursors need of an order on nodes: keys of distinct names, the identifier among them, values of one kind at
every key, and nulls at nullable keys only. -/
structure Seekable (order : Order) (graph : Graph) (ids : List String) : Prop where
  nodup : order.names.Nodup
  identifies : order.Identifies
  comparable : order.Comparable graph ids
  nulls : ∀ key ∈ order.keys, ∀ id ∈ ids, key.path.value graph id = .null → key.nullable = true

/-- The cursor of a node. -/
def cursorOf (order : Order) (graph : Graph) (id : String) : String :=
  Cursor.encode order (order.keyTable (order.values graph id))

variable {order : Order} {graph : Graph} {ids : List String} {a b : String}

theorem lookup_keyTable (hn : order.names.Nodup) {key : OrderKey} (hkey : key ∈ order.keys) :
    List.lookup key.name (order.keyTable (order.values graph a)) = some (key.path.value graph a) := by
  have hzip : order.names.zip (order.values graph a) =
      order.keys.map fun key => (key.name, key.path.value graph a) := by
    rw [names, values, List.zip_map']
  have hnames : (order.names.zip (order.values graph a)).map (·.1) = order.names := by
    rw [hzip, List.map_map]
    rfl
  have hnodup : ((order.names.zip (order.values graph a)).map (·.1)).Nodup := by rwa [hnames]
  rw [keyTable, Table.lookup_ofList hnodup]
  refine Table.lookup_of_mem hnodup ?_
  rw [hzip]
  exact List.mem_map.mpr ⟨key, hkey, rfl⟩

/-- Lying beyond the cursor of a node is coming after the node, or before it. -/
theorem Seekable.beyondCursor (h : order.Seekable graph ids) (ha : a ∈ ids) (hb : b ∈ ids) (forwards : Bool) :
    order.beyondCursor (some (order.cursorOf graph a)) forwards
        (fun key => (order.pathNamed key.name).value graph b) = some true ↔
      if forwards then order.before graph a b else order.before graph b a := by
  obtain ⟨key, hkey, _⟩ := h.identifies
  exact beyondCursor_encode h.nodup (List.ne_nil_of_mem hkey) h.comparable ha hb (fun _ => lookup_keyTable h.nodup)
    fun key hkey => h.nulls key hkey b hb

/-- The cursor of a node can be read. -/
theorem Seekable.decode_cursorOf (h : order.Seekable graph ids) (ha : a ∈ ids) :
    ∃ values, Cursor.decode order (order.cursorOf graph a) = .ok values := by
  refine ⟨_, Cursor.decode_encode h.nodup fun name hname => ?_⟩
  obtain ⟨key, hkey, rfl⟩ := List.mem_map.mp hname
  obtain ⟨kind, hkind⟩ := h.comparable key hkey
  rw [lookup_keyTable h.nodup hkey]
  exact (hkind a ha).exact

end Order

section Between

variable {graph : Graph} {options : Options} {ids : List String} {i : Nat}

theorem filter_append_eq_right {α : Type} {p : α → Bool} {front back : List α} (hfront : ∀ x ∈ front, p x = false)
    (hback : ∀ x ∈ back, p x = true) : (front ++ back).filter p = back := by
  rw [List.filter_append, List.filter_eq_nil_iff.mpr fun x hx => by simp [hfront x hx], List.filter_eq_self.mpr hback,
    List.nil_append]

theorem filter_append_eq_left {α : Type} {p : α → Bool} {front back : List α} (hfront : ∀ x ∈ front, p x = true)
    (hback : ∀ x ∈ back, p x = false) : (front ++ back).filter p = front := by
  rw [List.filter_append, List.filter_eq_self.mpr hfront, List.filter_eq_nil_iff.mpr fun x hx => by simp [hback x hx],
    List.append_nil]

/-- Of arranged nodes those after a cursor stand behind the node of the cursor. -/
theorem Options.filter_after (h : options.order.Seekable graph ids) (hasymm : ∀ a ∈ ids, ∀ b ∈ ids,
      options.order.before graph a b → ¬ options.order.before graph b a)
    (hp : ids.Pairwise (options.order.before graph))
    (hafter : options.after = ((ids.take i).getLast?.map (options.order.cursorOf graph)))
    (hbefore : options.before = none) :
    (ids.filter fun id => options.beyond graph id = some true) = ids.drop i := by
  have hsplit : ids.take i ++ ids.drop i = ids := List.take_append_drop i ids
  have hbeyond : ∀ id, options.beyond graph id = options.order.beyondCursor options.after true
      (fun key => (options.order.pathNamed key.name).value graph id) := by
    intro id
    rw [Options.beyond, hbefore]
    exact Truth.and_true _
  conv => lhs; rw [← hsplit]
  cases hlast : (ids.take i).getLast? with
  | none =>
    rw [hlast] at hafter
    rw [List.getLast?_eq_none_iff.mp hlast]
    refine filter_append_eq_right nofun fun id _ => decide_eq_true ?_
    rw [hbeyond, hafter]
    rfl
  | some c =>
    rw [hlast] at hafter
    have hc : c ∈ ids.take i := List.mem_of_getLast? hlast
    have hfront : ∀ id ∈ ids.take i, id ∈ ids := fun id hid => List.mem_of_mem_take hid
    have hback : ∀ id ∈ ids.drop i, id ∈ ids := fun id hid => List.mem_of_mem_drop hid
    have htrue : ∀ id ∈ ids, options.beyond graph id = some true ↔ options.order.before graph c id := by
      intro id hid
      rw [hbeyond, hafter]
      exact h.beyondCursor (hfront c hc) hid true
    have hpairs := List.pairwise_append.mp (hsplit.symm ▸ hp)
    refine filter_append_eq_right (fun id hid => decide_eq_false fun hlt => ?_) fun id hid => decide_eq_true ?_
    · -- a node up to the last one does not come after it
      rw [htrue id (hfront id hid)] at hlt
      obtain ⟨front, hfrontEq⟩ := List.getLast?_eq_some_iff.mp hlast
      rw [hfrontEq] at hid hpairs
      rcases List.mem_append.mp hid with hid | hid
      · have hmem : id ∈ ids := hfront id (hfrontEq ▸ List.mem_append_left _ hid)
        exact hasymm id hmem c (hfront c hc)
          ((List.pairwise_append.mp hpairs.1).2.2 id hid c List.mem_cons_self) hlt
      · obtain rfl := List.mem_singleton.mp hid
        exact hasymm id (hfront id hc) id (hfront id hc) hlt hlt
    · exact (htrue id (hback id hid)).mpr (hpairs.2.2 c hc id hid)

/-- Of arranged nodes those before a cursor stand in front of the node of the cursor. -/
theorem Options.filter_before (h : options.order.Seekable graph ids) (hasymm : ∀ a ∈ ids, ∀ b ∈ ids,
      options.order.before graph a b → ¬ options.order.before graph b a)
    (hp : ids.Pairwise (options.order.before graph)) (hafter : options.after = none)
    (hbefore : options.before = ((ids.drop i).head?.map (options.order.cursorOf graph))) :
    (ids.filter fun id => options.beyond graph id = some true) = ids.take i := by
  have hsplit : ids.take i ++ ids.drop i = ids := List.take_append_drop i ids
  have hbeyond : ∀ id, options.beyond graph id = options.order.beyondCursor options.before false
      (fun key => (options.order.pathNamed key.name).value graph id) := by
    intro id
    rw [Options.beyond, hafter]
    exact Truth.true_and _
  conv => lhs; rw [← hsplit]
  cases hdrop : ids.drop i with
  | nil =>
    rw [hdrop] at hbefore
    refine filter_append_eq_left (fun id _ => decide_eq_true ?_) nofun
    rw [hbeyond, hbefore]
    rfl
  | cons c rest =>
    rw [hdrop] at hbefore hsplit
    have hfront : ∀ id ∈ ids.take i, id ∈ ids := fun id hid => List.mem_of_mem_take hid
    have hback : ∀ id ∈ c :: rest, id ∈ ids := fun id hid => hsplit ▸ List.mem_append_right _ hid
    have hc : c ∈ ids := hback c List.mem_cons_self
    have htrue : ∀ id ∈ ids, options.beyond graph id = some true ↔ options.order.before graph id c := by
      intro id hid
      rw [hbeyond, hbefore]
      exact h.beyondCursor hc hid false
    have hpairs := List.pairwise_append.mp (hsplit.symm ▸ hp)
    refine filter_append_eq_left (fun id hid => decide_eq_true ?_) fun id hid => decide_eq_false fun hlt => ?_
    · exact (htrue id (hfront id hid)).mpr (hpairs.2.2 id hid c List.mem_cons_self)
    · -- a node from the first one on does not come before it
      rw [htrue id (hback id hid)] at hlt
      rcases List.mem_cons.mp hid with rfl | hid'
      · exact hasymm id hc id hc hlt hlt
      · exact hasymm c hc id (hback id hid) ((List.pairwise_cons.mp hpairs.2.1).1 id hid') hlt

end Between

/-! ## Finding -/

section Finding

variable {graph : Graph} {level : Level} {candidates passing ids : List String} {options : Options}

/-- A page of nodes that can be put in order is a part of them in order. -/
theorem Options.pageRows_eq {limit : Option Nat} {kinds : List Value.Kind}
    (h : Rankable options.order.directions kinds (ids.map (options.order.keyed graph))) :
    options.pageRows limit (ids.map (options.order.keyed graph)) =
      (cutOff limit options.last.isSome (options.order.arrange graph ids)).map (options.order.keyed graph) := by
  have hblock : (Level.block ⟨"", options, .all, limit, .many, []⟩ "" .all "" 0 none .empty .always []).page
      (ids.map (options.order.keyed graph)) = options.pageRows limit (ids.map (options.order.keyed graph)) :=
    Level.page_block _
  rw [← hblock]
  refine Order.page_eq ?_ h
  rw [Block.requested, Level.block, List.map_map]
  rfl

/-- Options that ask for no page. -/
structure Options.Whole (options : Options) : Prop where
  after : options.after = none
  before : options.before = none
  first : options.first = none
  last : options.last = none

/-- A level without pages finds its nodes in order. -/
theorem Level.find_whole [PropertyTable] {answer : Answer Found} (hw : level.options.Whole)
    (hlimit : level.limit = none) (h : level.find graph candidates = .ok answer) : ∃ passing, level.passing graph
    candidates = .ok passing ∧
      List.Forall₂ (fun keyed found => level.findRow graph keyed = .ok found)
        ((level.options.order.arrange graph passing).map (level.options.order.keyed graph)) answer.rows := by
  obtain ⟨passing, hpassing, _, hrows⟩ := Level.find_eq_ok.mp h
  refine ⟨passing, hpassing, ?_⟩
  have hbeyond : (passing.filter fun id => level.options.beyond graph id = some true) = passing := by
    refine List.filter_eq_self.mpr fun id _ => decide_eq_true ?_
    rw [Options.beyond, hw.after, hw.before]
    rfl
  have hpaged : level.paged graph passing =
      (level.options.order.arrange graph passing).map (level.options.order.keyed graph) := by
    rw [Level.paged, hbeyond, Order.map_keyed_arrange, hlimit]
    unfold Options.pageRows
    rw [hw.last]
    rfl
  rwa [hpaged] at hrows

theorem forall₂_cutOff {α β : Type} {R : α → β → Prop} {xs : List α} {ys : List β} (h : List.Forall₂ R xs ys)
    (limit : Option Nat) (reversed : Bool) :
    List.Forall₂ R (cutOff limit reversed xs) (cutOff limit reversed ys) := by
  unfold cutOff
  cases limit with
  | none => exact h
  | some n =>
    cases reversed with
    | true => rw [h.length_eq]; exact List.forall₂_drop _ h
    | false => exact List.forall₂_take _ h

/-- With a page among its options, a level finds the rows between the cursors, as many as the limit leaves. -/
theorem Level.find_withOptions [PropertyTable] {kinds : List Value.Kind} {rows : List Found}
    (hpassing : level.passing graph candidates = .ok passing) (horder : options.order = level.options.order)
    (hrank : Rankable options.order.directions kinds (passing.map (options.order.keyed graph)))
    (hrows : List.Forall₂ (fun keyed found => level.findRow graph keyed = .ok found)
      (((options.order.arrange graph passing).filter fun id => options.beyond graph id = some true).map
        (options.order.keyed graph)) rows) :
    ∃ totalCount, (level.withOptions options).find graph candidates =
      .ok ⟨totalCount, cutOff (options.rowLimit level.cardinality) options.last.isSome rows⟩ := by
  have hsub : Rankable options.order.directions kinds
      ((passing.filter fun id => options.beyond graph id = some true).map (options.order.keyed graph)) :=
    hrank.of_sublist (List.filter_sublist.map _)
  have hpaged : (level.withOptions options).paged graph passing =
      cutOff (options.rowLimit level.cardinality) options.last.isSome
        (((options.order.arrange graph passing).filter fun id => options.beyond graph id = some true).map
          (options.order.keyed graph)) := by
    rw [Level.paged, Level.withOptions, Options.pageRows_eq hsub, Order.arrange_filter hrank, Order.cutOff_map]
  have hfindRow : ∀ keyed, (level.withOptions options).findRow graph keyed = level.findRow graph keyed := by
    intro keyed
    rw [Level.findRow, Level.findRow, Level.withOptions, horder]
    rfl
  refine ⟨_, Level.find_eq_ok.mpr ⟨passing, hpassing, rfl, ?_⟩⟩
  rw [hpaged]
  simp only [hfindRow]
  exact forall₂_cutOff hrows _ _

end Finding

/-! ## Presenting -/

section Presenting

variable {schema : Schema} {options : Options} {nodeOf : Found → Assembly Node} {rows : List Found}

/-- Whether what was found is presented from all caches as an item of an outline. -/
def Options.Presents (options : Options) (nodeOf : Found → Assembly Node) (found : Found) (outline : Outline) : Prop :=
  ∀ cache, ∃ item cache', options.presentItem nodeOf found cache = .ok item cache' ∧ item.outline = outline

/-- The rows of a page that was presented are presented from all caches. -/
theorem Options.presents_of_page {answer : Answer Found} {page : Page Node} {cache cache' : ResultCache}
    (hsteady : ∀ found, Run.Follows (fun a b => b.outline = a.outline) (nodeOf found) (nodeOf found))
    (h : options.presentPage nodeOf answer cache = .ok page cache') :
    List.Forall₂ (options.Presents nodeOf) (options.slice answer.rows).1 page.outline := by
  obtain ⟨items, _, hitems, h⟩ := Run.bind_eq_ok.mp h
  obtain ⟨rfl, _⟩ := Run.pure_eq_ok.mp h
  rw [Page.outline, List.forall₂_map_right_iff]
  refine (Run.mapM_eq_ok.mp hitems).forall₂ fun found s item s' hitem cache => ?_
  exact Options.presentItem_follows (hsteady found) s item s' hitem cache

/-- The items of a page have the cursors and the identifiers of its rows. -/
theorem Options.names_of_page {level : Level} {answer : Answer Found} {page : Page Node} {cache cache' : ResultCache}
    (h : options.presentPage (level.presentNode schema) answer cache = .ok page cache') :
    List.Forall₂ (fun found outline => outline.1 = Cursor.encode options.order found.keys ∧ outline.2.1 = found.id)
      (options.slice answer.rows).1 page.outline := by
  obtain ⟨items, _, hitems, h⟩ := Run.bind_eq_ok.mp h
  obtain ⟨rfl, _⟩ := Run.pure_eq_ok.mp h
  rw [Page.outline, List.forall₂_map_right_iff]
  refine (Run.mapM_eq_ok.mp hitems).forall₂ fun found s item s' hitem => ?_
  obtain ⟨hcursor, hnode⟩ := Options.presentItem_eq_ok hitem
  exact ⟨hcursor, Level.presentNode_id hnode⟩

theorem Options.mapM_presents {outlines : List Outline}
    (h : List.Forall₂ (options.Presents nodeOf) rows outlines) (cache : ResultCache) :
    ∃ items cache', rows.mapM (options.presentItem nodeOf) cache = .ok items cache' ∧
      items.map Item.outline = outlines := by
  induction h generalizing cache with
  | nil => exact ⟨[], cache, rfl, rfl⟩
  | cons hfound _ ih =>
    obtain ⟨item, cache₁, hitem, rfl⟩ := hfound cache
    obtain ⟨items, cache₂, hitems, rfl⟩ := ih cache₁
    refine ⟨item :: items, cache₂, ?_, rfl⟩
    rw [List.mapM_cons]
    exact Run.bind_eq_ok.mpr ⟨item, cache₁, hitem, Run.bind_eq_ok.mpr ⟨items, cache₂, hitems, rfl⟩⟩

theorem Options.slice_snd_congr {α β : Type} {xs : List α} {ys : List β} (h : xs.length = ys.length) :
    (options.slice xs).2 = (options.slice ys).2 := by
  unfold Options.slice
  rw [h]
  cases options.first with
  | some n => rfl
  | none => cases options.last <;> rfl

theorem Options.forall₂_slice {α β : Type} {R : α → β → Prop} {xs : List α} {ys : List β} (h : List.Forall₂ R xs ys) :
    List.Forall₂ R (options.slice xs).1 (options.slice ys).1 := by
  unfold Options.slice
  cases options.first with
  | some n => exact List.forall₂_take n h
  | none =>
    cases options.last with
    | some n => rw [h.length_eq]; exact List.forall₂_drop _ h
    | none => exact h

/-- A page of rows that are presented has their outlines, and says what the outlines say of what lies around it. -/
theorem Options.presentPage_of_presents {answer : Answer Found} {outlines : List Outline}
    (h : List.Forall₂ (options.Presents nodeOf) answer.rows outlines) (cache : ResultCache) :
    ∃ page cache', options.presentPage nodeOf answer cache = .ok page cache' ∧
      page.outline = (options.slice outlines).1 ∧ (page.info.hasNext, page.info.hasPrevious) = (options.slice outlines).2 ∧
      page.info.startCursor = page.outline.head?.map (·.1) ∧ page.info.endCursor = page.outline.getLast?.map (·.1) := by
  obtain ⟨items, cache', hitems, houtlines⟩ := Options.mapM_presents (Options.forall₂_slice h) cache
  refine ⟨_, cache', Run.bind_eq_ok.mpr ⟨items, cache', hitems, rfl⟩, houtlines,
    Options.slice_snd_congr h.length_eq, ?_, ?_⟩
  · rw [Page.outline, List.head?_map, Option.map_map]
    rfl
  · rw [Page.outline, List.getLast?_map, Option.map_map]
    rfl

end Presenting

end GraphQuery
