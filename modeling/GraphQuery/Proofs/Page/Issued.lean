import GraphQuery.Proofs.Page.Paging
import GraphQuery.Proofs.Page.Shown

/-!
# Cursors of pages

A page is issued under an order when each of its cursors leads back to its node: under that order it is accepted and
gives every key the value that the key reads of the node, unless two keys have one name or a value has no numeral
(`Page.Issued`). So are all pages that a level shows, from caches (`Level.issued_of_presentPage`) or without them
(`Level.issued_of_shownFrom`).
-/

namespace GraphQuery

/-! ## Cursors of nodes -/

namespace Order

/-- Whether the cursor of a node can tell what an order reads of it: the keys have distinct names, and no value is a
floating-point number that is not finite. -/
structure Tells (order : Order) (graph : Graph) (id : String) : Prop where
  nodup : order.names.Nodup
  finite : ∀ key ∈ order.keys, (key.path.value graph id).isFinite = true

/-- Whether a table has for every key of an order the value that it reads of a node, and nothing else. -/
def Observes (order : Order) (graph : Graph) (id : String) (values : Table Value) : Prop :=
  ∀ name value, List.lookup name values = some value ↔
    ∃ key ∈ order.keys, key.name = name ∧ key.path.value graph id = value

/-- Whether the finite numbers that an order reads of a node are read back from their numerals. -/
def Faithful (order : Order) (graph : Graph) (id : String) : Prop :=
  ∀ key ∈ order.keys, (key.path.value graph id).Faithful

variable {order : Order} {graph : Graph} {id : String}

theorem of_lookup_keyTable {name : String} {value : Value}
    (h : List.lookup name (order.keyTable (order.values graph id)) = some value) :
    ∃ key ∈ order.keys, key.name = name ∧ key.path.value graph id = value := by
  have hmem := Table.mem_ofList (Table.mem_of_lookup h)
  rw [names, values, List.zip_map'] at hmem
  obtain ⟨key, hkey, heq⟩ := List.mem_map.mp hmem
  cases heq
  exact ⟨key, hkey, rfl, rfl⟩

theorem Faithful.of_keyTable (h : order.Faithful graph id) (name : String) :
    ((List.lookup name (order.keyTable (order.values graph id))).getD .null).Faithful := by
  cases hlookup : List.lookup name (order.keyTable (order.values graph id)) with
  | none => exact fun _ _ hnull => nomatch hnull
  | some value =>
    obtain ⟨key, hkey, _, rfl⟩ := of_lookup_keyTable hlookup
    exact h key hkey

theorem observes_valuesOf (hn : order.names.Nodup) :
    order.Observes graph id (Cursor.valuesOf order (order.keyTable (order.values graph id))) := by
  intro name value
  rw [Cursor.lookup_valuesOf hn]
  constructor
  · intro h
    split at h
    · rename_i hname
      obtain ⟨key, hkey, rfl⟩ := List.mem_map.mp hname
      rw [lookup_keyTable hn hkey] at h
      exact ⟨key, hkey, rfl, Option.some.inj h⟩
    · cases h
  · rintro ⟨key, hkey, rfl, rfl⟩
    have hname : key.name ∈ order.names := List.mem_map_of_mem hkey
    rw [if_pos hname, lookup_keyTable hn hkey]
    rfl

/-- The cursor of a node under the order it is for, when the keys have distinct names. -/
theorem decode_cursorOf_eq (hn : order.names.Nodup) (h : order.Faithful graph id) :
    Cursor.decode order (order.cursorOf graph id) =
      if ∀ key ∈ order.keys, (key.path.value graph id).isFinite = true then
        .ok (Cursor.valuesOf order (order.keyTable (order.values graph id)))
      else .error (.invalidCursor .unreadable) := by
  rw [cursorOf, Cursor.decode_own fun name _ => h.of_keyTable name, if_pos hn]
  refine if_congr ?_ rfl rfl
  rw [names, List.forall_mem_map]
  refine forall₂_congr fun key hkey => ?_
  rw [lookup_keyTable hn hkey, Option.getD_some]

/-- A cursor that can tell what is read of its node is accepted, and tells it. -/
theorem Tells.decode_cursorOf (htells : order.Tells graph id) (h : order.Faithful graph id) :
    ∃ values, Cursor.decode order (order.cursorOf graph id) = .ok values ∧ Table.Sorted values ∧
      order.Observes graph id values := by
  rw [decode_cursorOf_eq htells.nodup h, if_pos htells.finite]
  exact ⟨_, rfl, Table.sorted_ofList _, observes_valuesOf htells.nodup⟩

/-- A cursor that cannot tell what is read of its node is refused. -/
theorem refused_cursorOf (htells : ¬ order.Tells graph id) (h : order.Faithful graph id) :
    ∃ fault, Cursor.decode order (order.cursorOf graph id) = .error (.invalidCursor fault) := by
  by_cases hn : order.names.Nodup
  · rw [decode_cursorOf_eq hn h, if_neg fun hfinite => htells ⟨hn, hfinite⟩]
    exact ⟨_, rfl⟩
  · rw [cursorOf, Cursor.decode_own fun name _ => h.of_keyTable name, if_neg hn]
    split
    · exact ⟨_, rfl⟩
    · exact ⟨_, rfl⟩

/-- No node has a cursor that is accepted under an order by one property twice. -/
example : ¬ (ofKeys [.ofProperty "name" .ascending, .ofProperty "name" .descending]).Tells graph id :=
  fun htells => absurd htells.nodup (by decide)

end Order

/-! ## Pages -/

/-- The cursors of a page under an order: that of every item is accepted, and gives every key what it reads of the node of
the item, exactly when it can tell it; the page starts and ends with the cursors of its first and its last item. -/
structure Page.Issued (graph : Graph) (order : Order) (page : Page Node) : Prop where
  accepted : ∀ item ∈ page.items, order.Faithful graph item.node.id → order.Tells graph item.node.id →
    ∃ values, Cursor.decode order item.cursor = .ok values ∧ Table.Sorted values ∧
      order.Observes graph item.node.id values
  refused : ∀ item ∈ page.items, order.Faithful graph item.node.id → ¬ order.Tells graph item.node.id →
    ∃ fault, Cursor.decode order item.cursor = .error (.invalidCursor fault)
  startCursor : page.info.startCursor = page.items.head?.map (·.cursor)
  endCursor : page.info.endCursor = page.items.getLast?.map (·.cursor)

/-- Under the order by identifier every cursor of a stored node leads back to it. -/
theorem Page.Issued.leads_back {graph : Graph} {page : Page Node} (h : page.Issued graph .byId) (hg : graph.WellFormed)
    {item : Item Node} (hitem : item ∈ page.items) (hstored : graph.Stored item.node.id) :
    ∃ values, Cursor.decode .byId item.cursor = .ok values ∧
      List.lookup idProperty values = some (.string item.node.id) := by
  have hvalue : ∀ key ∈ Order.byId.keys, key.path.value graph item.node.id = .string item.node.id := by
    intro key hkey
    rw [List.mem_singleton.mp hkey]
    exact Graph.value_id hg hstored
  have hkey : OrderKey.ofProperty idProperty .ascending ∈ Order.byId.keys := List.mem_singleton_self _
  have htells : Order.byId.Tells graph item.node.id := by
    refine ⟨by decide, fun key hkey => ?_⟩
    rw [hvalue key hkey]
    rfl
  have hfaithful : Order.byId.Faithful graph item.node.id := by
    intro key hkey _ x hx
    rw [hvalue key hkey] at hx
    cases hx
  obtain ⟨values, hdecode, _, hobserves⟩ := h.accepted item hitem hfaithful htells
  exact ⟨values, hdecode, (hobserves _ _).mpr ⟨_, hkey, rfl, hvalue _ hkey⟩⟩

section Issuing

variable {graph : Graph} {level : Level} {candidates : List String} {answer : Answer Found} {page : Page Node}
  {schema : Schema}

variable [PropertyTable]

/-- What is found has the values that the order of its level reads of it. -/
theorem Level.keys_of_find (h : level.find graph candidates = .ok answer) {found : Found} (hfound : found ∈ answer.rows) :
    found.keys = level.options.order.keyTable (level.options.order.values graph found.id) := by
  obtain ⟨passing, _, _, hrows⟩ := Level.find_eq_ok.mp h
  obtain ⟨keyed, hkeyed, hrow⟩ := Result.member_of_mem_mapM (Result.mapM_eq_ok.mpr hrows) found hfound
  obtain ⟨hid, hkeys⟩ := Level.findRow_eq_ok hrow
  rw [hkeys, hid, Level.values_of_paged hkeyed]

/-- Items that are rows of what a level found have the cursors of their nodes. -/
theorem Level.cursor_of_rows (h : level.find graph candidates = .ok answer)
    (hitems : ∀ item ∈ page.items, ∃ found ∈ answer.rows,
      item.cursor = Cursor.encode level.options.order found.keys ∧ item.node.id = found.id) :
    ∀ item ∈ page.items, item.cursor = level.options.order.cursorOf graph item.node.id := by
  intro item hitem
  obtain ⟨found, hfound, hcursor, hid⟩ := hitems item hitem
  rw [hcursor, hid, Level.keys_of_find h hfound, Order.cursorOf]

/-- A page whose items are rows of what a level found. -/
theorem Level.issued_of_rows (h : level.find graph candidates = .ok answer)
    (hitems : ∀ item ∈ page.items, ∃ found ∈ answer.rows,
      item.cursor = Cursor.encode level.options.order found.keys ∧ item.node.id = found.id)
    (hstart : page.info.startCursor = page.items.head?.map (·.cursor))
    (hend : page.info.endCursor = page.items.getLast?.map (·.cursor)) :
    page.Issued graph level.options.order := by
  have hcursor := Level.cursor_of_rows h hitems
  refine ⟨fun item hitem hfaithful htells => ?_, fun item hitem hfaithful htells => ?_, hstart, hend⟩
  · rw [hcursor item hitem]
    exact htells.decode_cursorOf hfaithful
  · rw [hcursor item hitem]
    exact Order.refused_cursorOf htells hfaithful

/-- The page that is presented of what a level finds, from whatever caches. -/
theorem Level.issued_of_presentPage {cache cache' : ResultCache} (h : level.find graph candidates = .ok answer)
    (hpage : level.presentPage schema answer cache = .ok page cache') : page.Issued graph level.options.order := by
  obtain ⟨items, _, hitems, hpage⟩ := Run.bind_eq_ok.mp hpage
  obtain ⟨rfl, _⟩ := Run.pure_eq_ok.mp hpage
  refine Level.issued_of_rows h (fun item hitem => ?_) rfl rfl
  obtain ⟨found, hfound, _, _, hstep⟩ := (Run.mapM_eq_ok.mp hitems).member_of_mem item hitem
  obtain ⟨hcursor, hnode⟩ := Options.presentItem_eq_ok hstep
  exact ⟨found, Options.mem_of_slice hfound, hcursor, Level.presentNode_id hnode⟩

omit [PropertyTable] in
/-- The items of the page that a level shows without caches are rows of what it found. -/
theorem Level.rows_of_shownPage (hsorted : Table.Sorted level.parts) {request : Nat}
    (hpage : level.shownPage schema request answer = .ok page) : ∀ item ∈ page.items, ∃ found ∈ answer.rows,
      item.cursor = Cursor.encode level.options.order found.keys ∧ item.node.id = found.id := by
  obtain ⟨items, hitems, hpage⟩ := Result.bind_eq_ok.mp hpage
  cases hpage
  intro item hitem
  obtain ⟨found, hfound, hstep⟩ := Result.member_of_mem_mapM hitems item hitem
  obtain ⟨node, hnode, hstep⟩ := Result.bind_eq_ok.mp hstep
  obtain rfl := Except.ok.inj hstep
  obtain ⟨_, _, hid, _⟩ := Level.of_shownNode hsorted hnode
  exact ⟨found, Options.mem_of_slice hfound, rfl, hid⟩

/-- The page that a level shows without caches. -/
theorem Level.issued_of_shownPage (hsorted : Table.Sorted level.parts) {request : Nat}
    (h : level.find graph candidates = .ok answer)
    (hpage : level.shownPage schema request answer = .ok page) : page.Issued graph level.options.order := by
  have hrows := Level.rows_of_shownPage hsorted hpage
  obtain ⟨items, _, hpage⟩ := Result.bind_eq_ok.mp hpage
  cases hpage
  exact Level.issued_of_rows h hrows rfl rfl

/-- A page that a level shows of some nodes is one of what it finds of them. -/
theorem Level.shownPage_of_shownFrom {request : Nat}
    (h : level.shownFrom schema graph request candidates = .ok (.many page)) :
    ∃ answer, level.find graph candidates = .ok answer ∧ level.shownPage schema request answer = .ok page := by
  obtain ⟨answer, hfind, h⟩ := Result.bind_eq_ok.mp h
  unfold Level.shown Level.shownRelated at h
  cases hcardinality : level.cardinality with
  | one =>
    rw [hcardinality] at h
    dsimp only at h
    split at h
    · cases h
    · obtain ⟨_, _, h⟩ := Result.bind_eq_ok.mp h
      cases h
  | many =>
    rw [hcardinality] at h
    obtain ⟨_, hpage, h⟩ := Result.bind_eq_ok.mp h
    cases h
    exact ⟨answer, hfind, hpage⟩

/-- A page among the results that a level shows of some nodes. -/
theorem Level.issued_of_shownFrom (hsorted : Table.Sorted level.parts) {request : Nat}
    (h : level.shownFrom schema graph request candidates = .ok (.many page)) :
    page.Issued graph level.options.order := by
  obtain ⟨answer, hfind, hpage⟩ := Level.shownPage_of_shownFrom h
  exact Level.issued_of_shownPage hsorted hfind hpage

/-- The cursors of a page among the results that a level shows of some nodes. -/
theorem Level.cursor_of_shownFrom (hsorted : Table.Sorted level.parts) {request : Nat}
    (h : level.shownFrom schema graph request candidates = .ok (.many page)) :
    ∀ item ∈ page.items, item.cursor = level.options.order.cursorOf graph item.node.id := by
  obtain ⟨answer, hfind, hpage⟩ := Level.shownPage_of_shownFrom h
  exact Level.cursor_of_rows hfind (Level.rows_of_shownPage hsorted hpage)

end Issuing

end GraphQuery
