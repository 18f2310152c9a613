import GraphQuery.Proofs.Engine.Execute
import GraphQuery.Proofs.Order.Keys
import GraphQuery.Proofs.Page.Paging
import GraphQuery.Proofs.Plan.Made

/-!
# Walking through a connection

A connection that is answered as a whole lists its nodes (`Engine.Listing`). Every page of it is answered, too, and shows
the part of the list that begins behind its cursor or ends before it (`Engine.Listing.forwards`,
`Engine.Listing.backwards`). So the pages of a walk, forwards or backwards, together show the list, each of its nodes once
and in the same order, and say of every page exactly whether nodes of the list follow and precede it
(`Engine.walk_stitches`).
-/

namespace GraphQuery

/-! ## Pages that cover a list -/

/-- Pages that show a list from one place to another, each saying what lies around it. -/
inductive Page.Covers (outlines : List Outline) : Nat → Nat → List (Page Node) → Prop
  | nil (i : Nat) : Covers outlines i i []
  | cons {i k j : Nat} {page : Page Node} {rest : List (Page Node)} : i ≤ k →
      page.outline = (outlines.take k).drop i → (page.info.hasNext = true ↔ k < outlines.length) →
      (page.info.hasPrevious = true ↔ 0 < i) → Covers outlines k j rest → Covers outlines i j (page :: rest)

/-- Pages that together show a list, each node of it once and in its order, and say of each page exactly whether nodes of
the list follow and precede it. -/
structure Page.Stitched (full : Page Node) (pages : List (Page Node)) : Prop where
  outline : pages.flatMap Page.outline = full.outline
  nodup : (pages.flatMap Page.ids).Nodup
  around : ∀ before page after, pages = before ++ page :: after →
    (page.info.hasNext = true ↔ after.flatMap Page.outline ≠ []) ∧
      (page.info.hasPrevious = true ↔ before.flatMap Page.outline ≠ [])

namespace Page.Covers

variable {outlines : List Outline} {i j k : Nat} {pages others : List (Page Node)}

theorem append (h : Covers outlines i k pages) (hothers : Covers outlines k j others) :
    Covers outlines i j (pages ++ others) := by
  induction h with
  | nil => exact hothers
  | cons hle hshows hnext hprevious _ ih => exact .cons hle hshows hnext hprevious (ih hothers)

theorem le (h : Covers outlines i j pages) : i ≤ j := by
  induction h with
  | nil => exact Nat.le_refl _
  | cons hle _ _ _ _ ih => exact Nat.le_trans hle ih

/-- The pages show the part of the list between the two places. -/
theorem flatMap_outline (h : Covers outlines i j pages) : pages.flatMap Page.outline = (outlines.take j).drop i := by
  induction h with
  | nil i =>
    symm
    rw [List.flatMap_nil, List.drop_eq_nil_iff, List.length_take]
    exact Nat.min_le_left _ _
  | @cons i k j page rest hle hshows _ _ hrest ih =>
    have hkj := hrest.le
    have hfront : outlines.take k = (outlines.take j).take k := by rw [List.take_take, Nat.min_eq_left hkj]
    rw [List.flatMap_cons, hshows, ih, hfront]
    by_cases hk : k ≤ (outlines.take j).length
    · have hi : i ≤ ((outlines.take j).take k).length := by
        rw [List.length_take, Nat.min_eq_left hk]
        exact hle
      rw [← List.drop_append_of_le_length hi, List.take_append_drop]
    · have hwhole : (outlines.take j).take k = outlines.take j := List.take_of_length_le (by omega)
      have hnone : (outlines.take j).drop k = [] := List.drop_eq_nil_of_le (by omega)
      rw [hwhole, hnone, List.append_nil]

/-- What the pages around a page show. -/
theorem split (h : Covers outlines i j pages) : ∀ {before after : List (Page Node)} {page : Page Node},
    pages = before ++ page :: after → ∃ k l, k ≤ l ∧ Covers outlines i k before ∧ Covers outlines l j after ∧
      (page.info.hasNext = true ↔ l < outlines.length) ∧ (page.info.hasPrevious = true ↔ 0 < k) := by
  induction h with
  | nil =>
    intro before after page heq
    cases before <;> cases heq
  | @cons i k j first rest hle hshows hnext hprevious hrest ih =>
    intro before after page heq
    cases before with
    | nil =>
      cases heq
      exact ⟨i, k, hle, .nil i, hrest, hnext, hprevious⟩
    | cons _ before =>
      cases heq
      obtain ⟨k', l, hle', hbefore, hafter, hfacts⟩ := ih rfl
      exact ⟨k', l, hle', .cons hle hshows hnext hprevious hbefore, hafter, hfacts⟩

/-- Pages that cover the outlines of a whole page stitch it together. -/
theorem stitched {full : Page Node} (hn : full.ids.Nodup) (h : Covers full.outline 0 full.outline.length pages) :
    full.Stitched pages := by
  have houtline : pages.flatMap Page.outline = full.outline := by
    rw [h.flatMap_outline, List.take_length, List.drop_zero]
  refine ⟨houtline, ?_, fun before page after heq => ?_⟩
  · have hids : pages.flatMap Page.ids = full.ids := by
      rw [Page.ids_eq, ← houtline, List.map_flatMap]
      exact List.flatMap_congr fun page _ => page.ids_eq
    rwa [hids]
  · obtain ⟨k, l, hle, hbefore, hafter, hnext, hprevious⟩ := h.split heq
    have hl := hafter.le
    refine ⟨hnext.trans ?_, hprevious.trans ?_⟩
    · rw [hafter.flatMap_outline, List.take_length, ne_eq, List.drop_eq_nil_iff]
      omega
    · rw [hbefore.flatMap_outline, List.drop_zero, ne_eq, List.take_eq_nil_iff, ← List.length_eq_zero_iff]
      omega

end Page.Covers

/-! ## Pages of a listed connection -/

/-- The rows of a level are presented in the same way under other options with the same order. -/
theorem Options.Presents.withOptions {schema : Schema} {level : Level} {options : Options} {found : Found}
    {outline : Outline} (h : level.options.Presents (level.presentNode schema) found outline)
    (horder : options.order = level.options.order) :
    options.Presents ((level.withOptions options).presentNode schema) found outline := by
  obtain ⟨entityType, own, condition, limit, cardinality, parts⟩ := level
  intro cache
  obtain ⟨item, cache', hitem, houtline⟩ := h cache
  refine ⟨item, cache', ?_, houtline⟩
  rw [← hitem, Options.presentItem, Options.presentItem, horder]
  rfl

/-- The order among the arguments of a field, given or not, names each key once and ends in the identifier. -/
theorem Field.proper_of_readArgument {schema : Schema} {entity : EntityType} {field : Field} {order : Option Order}
    (h : field.readArgument "orderBy" (Order.parse schema entity) = .ok order) :
    Order.Proper (order.getD .byId).keys ∧ (order.getD .byId).Identifies := by
  unfold Field.readArgument at h
  split at h
  · cases h
    exact Order.proper_byId
  · obtain ⟨parsed, hparsed, rfl⟩ := Result.map_eq_ok.mp h
    exact Order.proper_of_parse hparsed

/-- A page whose items come from the rows of nodes has these nodes and their cursors. -/
theorem Level.outline_of_rows [PropertyTable] {graph : Graph} {level : Level} {ids : List String} {rows : List Found}
    {page : Page Node} (hrows : List.Forall₂ (fun keyed found => level.findRow graph keyed = .ok found)
      (ids.map (level.options.order.keyed graph)) rows)
    (hitems : List.Forall₂ (fun found outline => outline.1 = Cursor.encode level.options.order found.keys ∧
      outline.2.1 = found.id) rows page.outline) :
    page.ids = ids ∧ page.outline.map (·.1) = ids.map (level.options.order.cursorOf graph) := by
  have hfound := hrows.imp fun _ _ h => Level.findRow_eq_ok h
  constructor
  · have hrowIds : rows.map (·.id) = (ids.map (level.options.order.keyed graph)).map (·.1) :=
      (Run.map_eq_map (hfound.imp fun _ _ h => h.1.symm)).symm
    rw [Order.map_fst_keyed] at hrowIds
    rw [Page.ids_eq, ← hrowIds]
    exact (Run.map_eq_map (hitems.imp fun _ _ h => h.2.symm)).symm
  · have hrowCursors : rows.map (fun found => Cursor.encode level.options.order found.keys) =
        (ids.map (level.options.order.keyed graph)).map
          fun keyed => Cursor.encode level.options.order (level.options.order.keyTable keyed.2) :=
      (Run.map_eq_map (hfound.imp fun _ _ h => by rw [h.2])).symm
    rw [List.map_map] at hrowCursors
    exact (Run.map_eq_map (hitems.imp fun _ _ h => h.1.symm)).symm.trans hrowCursors

namespace Engine

/-- A session that answers a request over a graph under a permission, with no failure ahead. -/
structure Serves (graph : Graph) (permission : Option Permission) (request : Nat) (session : Session) : Prop where
  graph : session.store.graph = graph
  outage : session.store.outage = none
  permission : session.permission request = permission

theorem Serves.next {graph : Graph} {permission : Option Permission} {request : Nat} {session : Session}
    (h : Serves graph permission request session) (cache : ResultCache) :
    Serves graph permission request (session.counted.setCache request cache) :=
  ⟨h.graph, h.outage, (Session.setCache_permission cache request).trans h.permission⟩

/-! ## Steps of a walk -/

section

variable [PropertyTable]

section Steps

variable {engine : Engine} {request : Nat} {entityType : String} {field : Field} {session session' : Session}
  {heading : Heading} {place : Option String} {json : Json} {page : Page Node}

/-- A walk ends with a page that says that there are no more. -/
theorem walk_last
    (hpage : engine.connection request entityType (heading.field field json place) session = .ok page session')
    (hlast : heading.hasMore page.info = false) (fuel : Nat) :
    engine.walk request entityType field json heading (fuel + 1) place session = .ok [page] session' := by
  rw [walk]
  refine Run.bind_eq_ok.mpr ⟨page, session', hpage, ?_⟩
  cases heading.cursor page.info with
  | none => rfl
  | some next =>
    simp only [hlast]
    rfl

/-- A walk goes on behind a page that says that there are more. -/
theorem walk_more {next : String} {rest : List (Page Node)} {session'' : Session} {fuel : Nat}
    (hpage : engine.connection request entityType (heading.field field json place) session = .ok page session')
    (hmore : heading.hasMore page.info = true) (hnext : heading.cursor page.info = some next)
    (hrest : engine.walk request entityType field json heading fuel (some next) session' = .ok rest session'') :
    engine.walk request entityType field json heading (fuel + 1) place session = .ok (page :: rest) session'' := by
  rw [walk]
  refine Run.bind_eq_ok.mpr ⟨page, session', hpage, ?_⟩
  simp only [hnext, hmore]
  exact Run.bind_eq_ok.mpr ⟨rest, session'', hrest, rfl⟩

end Steps

/-! ## Listings -/

/-- What a connection lists when it is answered as a whole: the nodes of its level in order, and their outlines. -/
structure Listing (engine : Engine) (graph : Graph) (level : Level) (ids : List String) (outlines : List Outline) :
    Prop where
  compiles : ∃ statement, Plan.compile engine.schema ⟨level, none⟩ = .ok statement
  whole : level.options.Whole
  many : level.cardinality = .many
  seekable : level.options.order.Seekable graph ids
  found : ∃ passing rows kinds, level.passing graph (graph.labelled level.entityType) = .ok passing ∧
    ids = level.options.order.arrange graph passing ∧
    Rankable level.options.order.directions kinds (passing.map (level.options.order.keyed graph)) ∧
    List.Forall₂ (fun keyed found => level.findRow graph keyed = .ok found)
      (ids.map (level.options.order.keyed graph)) rows ∧
    List.Forall₂ (level.options.Presents (level.presentNode engine.schema)) rows outlines
  cursors : outlines.map (·.1) = ids.map (level.options.order.cursorOf graph)

namespace Listing

variable {engine : Engine} {graph : Graph} {level : Level} {ids : List String} {outlines : List Outline}
  {options : Options} {planner : Planner} {request : Nat} {permission : Option Permission} {session : Session} {i j : Nat}

theorem length_eq (h : Listing engine graph level ids outlines) : outlines.length = ids.length := by
  have hlength := congrArg List.length h.cursors
  rwa [List.length_map, List.length_map] at hlength

theorem ordered (h : Listing engine graph level ids outlines) :
    ids.Pairwise (level.options.order.before graph) ∧ ∀ a ∈ ids, ∀ b ∈ ids,
      level.options.order.before graph a b → ¬ level.options.order.before graph b a := by
  obtain ⟨passing, _, kinds, _, rfl, hrank, _⟩ := h.found
  refine ⟨Order.pairwise_arrange hrank, fun a ha b hb hab hba => ?_⟩
  have hmem : ∀ {id : String}, id ∈ level.options.order.arrange graph passing →
      level.options.order.keyed graph id ∈ passing.map (level.options.order.keyed graph) := by
    intro id hid
    exact List.mem_map.mpr ⟨id, (Order.perm_arrange _ graph passing).mem_iff.mp hid, rfl⟩
  have hfalse := hrank.linear.asymm _ (hmem ha) _ (hmem hb) (decide_eq_true hab)
  exact of_decide_eq_false hfalse hba

/-- A page between cursors of a listed connection is answered with a part of the list. -/
theorem execute (h : Listing engine graph level ids outlines) (hnamed : engine.schema.Named) (hg : graph.WellFormed)
    (hplan : planner.Plans ⟨level.withOptions options, none⟩) (hschema : planner.schema = engine.schema)
    (horder : options.order = level.options.order) (hread : options.Readable)
    (hfilter : (ids.filter fun id => options.beyond graph id = some true) = (ids.take j).drop i)
    (hs : Serves graph permission request session) :
    ∃ page session', engine.execute request ⟨level.withOptions options, none⟩ Level.assemblePage session =
        .ok page session' ∧ Serves graph permission request session' ∧
      page.outline = (options.slice (cutOff (options.rowLimit .many) options.last.isSome ((outlines.take j).drop i))).1 ∧
      (page.info.hasNext, page.info.hasPrevious) =
        (options.slice (cutOff (options.rowLimit .many) options.last.isSome ((outlines.take j).drop i))).2 ∧
      page.info.startCursor = page.outline.head?.map (·.1) ∧ page.info.endCursor = page.outline.getLast?.map (·.1) := by
  obtain ⟨passing, rows, kinds, hpassing, rfl, hrank, hrows, hpresents⟩ := h.found
  have hbetween : List.Forall₂ (fun keyed found => level.findRow graph keyed = .ok found)
      (((options.order.arrange graph passing).filter fun id => options.beyond graph id = some true).map
        (options.order.keyed graph)) ((rows.take j).drop i) := by
    rw [horder, hfilter, List.map_drop, List.map_take]
    exact List.forall₂_drop i (List.forall₂_take j hrows)
  obtain ⟨totalCount, hfind⟩ := Level.find_withOptions hpassing horder (horder ▸ hrank) hbetween
  have hpart : List.Forall₂ (options.Presents ((level.withOptions options).presentNode engine.schema))
      (Answer.mk totalCount (cutOff (options.rowLimit .many) options.last.isSome ((rows.take j).drop i))).rows
      (cutOff (options.rowLimit .many) options.last.isSome ((outlines.take j).drop i)) := by
    refine forall₂_cutOff (List.forall₂_drop i (List.forall₂_take j ?_)) _ _
    exact hpresents.imp fun found outline hfound => hfound.withOptions horder
  rw [h.many] at hfind
  obtain ⟨page, cache, hpage, hfacts⟩ := Options.presentPage_of_presents hpart (session.cache request)
  obtain ⟨statement, hcompile⟩ := h.compiles
  have hcompiles := Plan.compile_withOptions hcompile horder hread
  refine ⟨page, _, (executePage_eq_ok hplan hschema hnamed (hs.graph ▸ hg)).mpr
    ⟨hs.outage, hcompiles, _, cache, ?_, hpage, rfl⟩, hs.next cache, hfacts⟩
  rw [hs.graph]
  exact hfind

section Pages

variable {entityType : String} {field : Field} {cursor : Option String} {size : Nat}
  (h : Listing engine graph level ids outlines) (hnamed : engine.schema.Named) (hg : graph.WellFormed)
  (hu : field.Unpaged) (hplan : (engine.planner permission).connection entityType field = .ok ⟨level, none⟩)
  (hsize : (size : Int) ≤ Int64.maxValue.toInt) (hbudget : size ≤ engine.budget.maxPageSize)
  (hs : Serves graph permission request session)

include h in
theorem mem_of_cursor {place : String} {part : List Outline} (hpart : part.Sublist outlines) {outline : Outline}
    (hmem : outline ∈ part) (hplace : outline.1 = place) :
    ∃ values, Cursor.decode level.options.order place = .ok values := by
  have hcursor : place ∈ ids.map (level.options.order.cursorOf graph) := by
    rw [← h.cursors]
    exact List.mem_map.mpr ⟨outline, hpart.subset hmem, hplace⟩
  obtain ⟨id, hid, rfl⟩ := List.mem_map.mp hcursor
  exact h.seekable.decode_cursorOf hid

include h hnamed hg hu hplan hsize hbudget hs

/-- The page behind a place of the list, counted from its front. -/
theorem forwards (hi : i ≤ outlines.length) (hcursor : cursor = (outlines.take i).getLast?.map (·.1)) :
    ∃ page session', engine.connection request entityType (Heading.forwards.field field (.int size) cursor) session =
        .ok page session' ∧ Serves graph permission request session' ∧
      page.outline = (outlines.drop i).take size ∧ (page.info.hasNext = true ↔ i + size < outlines.length) ∧
      (page.info.hasPrevious = true ↔ 0 < i) ∧ page.info.endCursor = page.outline.getLast?.map (·.1) := by
  let options : Options := { level.options with first := some size, after := cursor }
  have hconnection : (engine.planner permission).connection entityType
      (Heading.forwards.field field (.int size) cursor) = .ok ⟨level.withOptions options, none⟩ := by
    refine Planner.connection_withOptions hplan ?_ (fun entity own hown heq => ?_) rfl fun entity => ?_
    · cases cursor <;> rfl
    · rw [Engine.Heading.options_forwards hu hsize hown, heq]
    · exact if_neg (Nat.not_lt.mpr hbudget)
  have hafter : options.after = (ids.take i).getLast?.map (level.options.order.cursorOf graph) := by
    rw [← List.getLast?_map, List.map_take, ← h.cursors, ← List.map_take, List.getLast?_map]
    exact hcursor
  have hread : options.Readable := by
    rintro place (hplace | hplace)
    · have hsome : (outlines.take i).getLast?.map (·.1) = some place := hcursor.symm.trans hplace
      obtain ⟨outline, hlast, hname⟩ := Option.map_eq_some_iff.mp hsome
      exact h.mem_of_cursor (List.take_sublist i outlines) (List.mem_of_getLast? hlast) hname
    · have hnone : options.before = none := h.whole.before
      rw [hnone] at hplace
      cases hplace
  have hfilter : (ids.filter fun id => options.beyond graph id = some true) = (ids.take ids.length).drop i := by
    rw [List.take_length]
    exact Options.filter_after h.seekable h.ordered.2 h.ordered.1 hafter h.whole.before
  obtain ⟨page, session', hpage, hs', houtline, hinfo, _, hend⟩ :=
    h.execute hnamed hg (.connection hconnection) rfl rfl hread hfilter hs
  have hexclusive : options.Exclusive := .inr h.whole.last
  have hlength := h.length_eq
  rw [← hlength, List.take_length, Options.slice_cutOff hexclusive] at houtline hinfo
  have hinfo : page.info.hasNext = decide (size < (outlines.drop i).length) ∧ page.info.hasPrevious = cursor.isSome :=
    ⟨congrArg Prod.fst hinfo, congrArg Prod.snd hinfo⟩
  refine ⟨page, session', connection_eq_ok.mpr ⟨_, hs.permission.symm ▸ hconnection, hpage⟩, hs', houtline, ?_, ?_, hend⟩
  · rw [hinfo.1, decide_eq_true_iff, List.length_drop]
    omega
  · rw [hinfo.2, hcursor, Option.isSome_map, List.getLast?_isSome, ne_eq, List.take_eq_nil_iff,
      ← List.length_eq_zero_iff]
    omega

/-- The page in front of a place of the list, counted from its back. -/
theorem backwards (hi : i ≤ outlines.length) (hcursor : cursor = (outlines.drop i).head?.map (·.1)) :
    ∃ page session', engine.connection request entityType (Heading.backwards.field field (.int size) cursor) session =
        .ok page session' ∧ Serves graph permission request session' ∧
      page.outline = (outlines.take i).drop (i - size) ∧ (page.info.hasNext = true ↔ i < outlines.length) ∧
      (page.info.hasPrevious = true ↔ 0 < i - size) ∧ page.info.startCursor = page.outline.head?.map (·.1) := by
  let options : Options := { level.options with last := some size, before := cursor }
  have hconnection : (engine.planner permission).connection entityType
      (Heading.backwards.field field (.int size) cursor) = .ok ⟨level.withOptions options, none⟩ := by
    have hfirst : options.pageSize = some size := by
      show level.options.first.or (some size) = some size
      rw [h.whole.first]
      rfl
    refine Planner.connection_withOptions hplan ?_ (fun entity own hown heq => ?_) rfl fun entity => ?_
    · cases cursor <;> rfl
    · rw [Engine.Heading.options_backwards hu hsize hown, heq]
    · rw [Budget.checkPage, hfirst]
      exact if_neg (Nat.not_lt.mpr hbudget)
  have hbefore : options.before = (ids.drop i).head?.map (level.options.order.cursorOf graph) := by
    rw [← List.head?_map, List.map_drop, ← h.cursors, ← List.map_drop, List.head?_map]
    exact hcursor
  have hread : options.Readable := by
    rintro place (hplace | hplace)
    · have hnone : options.after = none := h.whole.after
      rw [hnone] at hplace
      cases hplace
    · have hsome : (outlines.drop i).head?.map (·.1) = some place := hcursor.symm.trans hplace
      obtain ⟨outline, hhead, hname⟩ := Option.map_eq_some_iff.mp hsome
      exact h.mem_of_cursor (List.drop_sublist i outlines) (List.mem_of_head? hhead) hname
  have hfilter : (ids.filter fun id => options.beyond graph id = some true) = (ids.take i).drop 0 :=
    Options.filter_before h.seekable h.ordered.2 h.ordered.1 h.whole.after hbefore
  obtain ⟨page, session', hpage, hs', houtline, hinfo, hstart, _⟩ :=
    h.execute hnamed hg (.connection hconnection) rfl rfl hread hfilter hs
  have hexclusive : options.Exclusive := .inl h.whole.first
  have hfirst : options.first = none := h.whole.first
  have hmin : min i outlines.length = i := Nat.min_eq_left hi
  rw [List.drop_zero, Options.slice_cutOff hexclusive, hfirst] at houtline hinfo
  have hinfo : page.info.hasNext = cursor.isSome ∧ page.info.hasPrevious = decide (size < (outlines.take i).length) :=
    ⟨congrArg Prod.fst hinfo, congrArg Prod.snd hinfo⟩
  have hshows : page.outline = (outlines.take i).drop ((outlines.take i).length - size) := houtline
  rw [List.length_take, hmin] at hinfo hshows
  refine ⟨page, session', connection_eq_ok.mpr ⟨_, hs.permission.symm ▸ hconnection, hpage⟩, hs', hshows, ?_, ?_, hstart⟩
  · rw [hinfo.1, hcursor, Option.isSome_map, List.isSome_head?, ne_eq, List.drop_eq_nil_iff]
    omega
  · rw [hinfo.2, decide_eq_true_iff]
    omega

/-- A walk forwards from a place of the list covers the rest of it. -/
theorem walk_forwards (hpos : 1 ≤ size) (hi : i ≤ outlines.length)
    (hcursor : cursor = (outlines.take i).getLast?.map (·.1)) :
    ∃ pages session', (∀ fuel, outlines.length - i < fuel →
        engine.walk request entityType field (.int size) .forwards fuel cursor session = .ok pages session') ∧
      Page.Covers outlines i outlines.length pages := by
  induction hleft : outlines.length - i using Nat.strongRecOn generalizing i cursor session with
  | ind left ih =>
    obtain ⟨page, session₁, hpage, hs₁, houtline, hnext, hprevious, hend⟩ :=
      h.forwards hnamed hg hu hplan hsize hbudget hs hi hcursor
    have hshows : page.outline = (outlines.take (i + size)).drop i := by
      rw [houtline, List.drop_take, Nat.add_sub_cancel_left]
    by_cases hmore : i + size < outlines.length
    · -- the next page begins behind the last node of this one
      have hplace : page.info.endCursor = (outlines.take (i + size)).getLast?.map (·.1) := by
        have hne : (outlines.drop i).take size ≠ [] := by
          rw [ne_eq, List.take_eq_nil_iff, List.drop_eq_nil_iff]
          omega
        rw [hend, houtline, List.take_add, List.getLast?_append_of_ne_nil _ hne]
      have hsome : page.info.endCursor.isSome = true := by
        rw [hplace, Option.isSome_map, List.getLast?_isSome, ne_eq, List.take_eq_nil_iff, ← List.length_eq_zero_iff]
        omega
      obtain ⟨next, hnextCursor⟩ := Option.isSome_iff_exists.mp hsome
      obtain ⟨rest, session₂, hrest, hcovers⟩ := ih (outlines.length - (i + size)) (by omega) hs₁ (Nat.le_of_lt hmore)
        (hnextCursor.symm.trans hplace) rfl
      refine ⟨page :: rest, session₂, fun fuel hfuel => ?_, .cons (by omega) hshows hnext hprevious hcovers⟩
      cases fuel with
      | zero => omega
      | succ fuel => exact walk_more hpage (hnext.mpr hmore) hnextCursor (hrest fuel (by omega))
    · have hlast : page.info.hasNext = false := Bool.eq_false_iff.mpr fun htrue => hmore (hnext.mp htrue)
      have hall : (outlines.take (i + size)).drop i = (outlines.take outlines.length).drop i := by
        rw [List.take_of_length_le (by omega), List.take_length]
      have hnone : page.info.hasNext = true ↔ outlines.length < outlines.length := by
        rw [hlast]
        simp
      refine ⟨[page], session₁, fun fuel hfuel => ?_, .cons hi (hshows.trans hall) hnone hprevious (.nil _)⟩
      cases fuel with
      | zero => omega
      | succ fuel => exact walk_last hpage hlast fuel

/-- A walk backwards from a place of the list covers what stands in front of it, the last page first. -/
theorem walk_backwards (hpos : 1 ≤ size) (hi : i ≤ outlines.length)
    (hcursor : cursor = (outlines.drop i).head?.map (·.1)) :
    ∃ pages session', (∀ fuel, i < fuel →
        engine.walk request entityType field (.int size) .backwards fuel cursor session = .ok pages session') ∧
      Page.Covers outlines 0 i pages.reverse := by
  induction i using Nat.strongRecOn generalizing cursor session with
  | ind i ih =>
    obtain ⟨page, session₁, hpage, hs₁, houtline, hnext, hprevious, hstart⟩ :=
      h.backwards hnamed hg hu hplan hsize hbudget hs hi hcursor
    have hsingle : Page.Covers outlines (i - size) i [page] := .cons (Nat.sub_le i size) houtline hnext hprevious (.nil i)
    by_cases hmore : 0 < i - size
    · -- the next page ends before the first node of this one
      have hne : (outlines.take i).drop (i - size) ≠ [] := by
        rw [ne_eq, List.drop_eq_nil_iff, List.length_take]
        omega
      have hplace : page.info.startCursor = (outlines.drop (i - size)).head?.map (·.1) := by
        have hdrop : outlines.drop (i - size) = (outlines.take i).drop (i - size) ++ outlines.drop i := by
          have hle : i - size ≤ (outlines.take i).length := by
            rw [List.length_take]
            omega
          rw [← List.drop_append_of_le_length hle, List.take_append_drop]
        rw [hstart, houtline, hdrop, List.head?_append_of_ne_nil _ hne]
      have hsome : page.info.startCursor.isSome = true := by
        rw [hstart, houtline, Option.isSome_map, List.isSome_head?]
        exact hne
      obtain ⟨next, hnextCursor⟩ := Option.isSome_iff_exists.mp hsome
      obtain ⟨rest, session₂, hrest, hcovers⟩ := ih (i - size) (by omega) hs₁ (by omega)
        (hnextCursor.symm.trans hplace)
      refine ⟨page :: rest, session₂, fun fuel hfuel => ?_, ?_⟩
      · cases fuel with
        | zero => omega
        | succ fuel => exact walk_more hpage (hprevious.mpr hmore) hnextCursor (hrest fuel (by omega))
      · rw [List.reverse_cons]
        exact hcovers.append hsingle
    · have hlast : page.info.hasPrevious = false := Bool.eq_false_iff.mpr fun htrue => hmore (hprevious.mp htrue)
      have hzero : i - size = 0 := Nat.eq_zero_of_not_pos hmore
      refine ⟨[page], session₁, fun fuel hfuel => ?_, hzero ▸ hsingle⟩
      cases fuel with
      | zero => omega
      | succ fuel => exact walk_last hpage hlast fuel

end Pages

end Listing

/-! ## Connections as a whole -/

/-- A connection that was answered as a whole lists its nodes. -/
theorem listing_of_connection {engine : Engine} {request : Nat} {entityType : String} {field : Field} {plan : Plan}
    {full : Page Node} {session session' : Session} (hnamed : engine.schema.Named) (hg : session.store.graph.WellFormed)
    (hu : field.Unpaged) (hplan : (engine.planner (session.permission request)).connection entityType field = .ok plan)
    (hfull : engine.connection request entityType field session = .ok full session')
    (hkinds : plan.root.options.order.Comparable session.store.graph full.ids)
    (hnulls : ∀ key ∈ plan.root.options.order.keys, ∀ id ∈ full.ids,
      key.path.value session.store.graph id = .null → key.nullable = true) :
    plan.anchor = none ∧ session.store.outage = none ∧
      Listing engine session.store.graph plan.root full.ids full.outline := by
  obtain ⟨own, hown, hexecute⟩ := connection_eq_ok.mp hfull
  rw [hplan] at hown
  cases hown
  obtain ⟨houtage, hcompiles, found, cache, hfind, hpresent, _⟩ :=
    (executePage_eq_ok (.connection hplan) rfl hnamed hg).mp hexecute
  obtain ⟨entity, options, level, hentity, hoptions, hlevel, rfl⟩ := Planner.connection_eq_ok hplan
  obtain ⟨hmakes, hmany, hlevelOptions⟩ := Planner.makes (Field.exclusive_of_options hoptions) hlevel
  obtain ⟨filter, order, _, horder, rfl⟩ := hu.options_eq hoptions
  have hwhole : level.options.Whole := by
    rw [hlevelOptions]
    exact ⟨rfl, rfl, rfl, rfl⟩
  have hlimit : level.limit = none := by
    rw [hmakes.heads.limit, hlevelOptions, hmany]
    rfl
  have hproper : Order.Proper level.options.order.keys ∧ level.options.order.Identifies := by
    rw [hlevelOptions]
    exact Field.proper_of_readArgument horder
  -- the rows of the page are those of the nodes in order
  have hcandidates : level.find session.store.graph (session.store.graph.labelled level.entityType) = .ok found := hfind
  obtain ⟨passing, hpassing, hrows⟩ := Level.find_whole hwhole hlimit hcandidates
  have hall : (level.options.slice found.rows).1 = found.rows := by rw [Options.slice_all hwhole.first hwhole.last]
  have hpresents := Options.presents_of_page level.presentNode_follows hpresent
  have hnames := Options.names_of_page hpresent
  rw [hall] at hpresents hnames
  obtain ⟨hids, hcursors⟩ := Level.outline_of_rows hrows hnames
  -- the nodes of the page are comparable, so those that pass are, which are the same in another order
  have hperm := Order.perm_arrange level.options.order session.store.graph passing
  have hcomparable : level.options.order.Comparable session.store.graph passing := by
    intro key hkey
    obtain ⟨kind, hkind⟩ := hkinds key hkey
    exact ⟨kind, fun id hid => hkind id (hids ▸ hperm.mem_iff.mpr hid)⟩
  have hsub := Level.passing_sublist hpassing
  obtain ⟨kinds, hrank⟩ := Order.rankable hg hproper.2 ((Graph.nodup_labelled hg).sublist hsub)
    (fun id hid => Graph.stored_of_mem_labelled hg (hsub.subset hid)) hcomparable
  exact ⟨rfl, houtage, hcompiles, hwhole, hmany, ⟨hproper.1.nodup, hproper.2, hkinds, hnulls⟩,
    ⟨passing, found.rows, kinds, hpassing, hids, hrank, hids ▸ hrows, hpresents⟩, hids ▸ hcursors⟩

/-- Walking through a connection, forwards or backwards, ends of itself, and its pages together are the connection as a
whole: its nodes, each once and in the same order, every page saying exactly whether nodes follow and precede it. -/
theorem walk_stitches {engine : Engine} {decls : List EntityDecl} {request other : Nat} {entityType : String}
    {field : Field} {plan : Plan} {full : Page Node} {size : Nat} {session after start : Session}
    (hschema : Schema.build decls = .ok engine.schema) (hgraph : session.store.graph.Built) (hu : field.Unpaged)
    (hplan : (engine.planner (session.permission request)).connection entityType field = .ok plan)
    (hfull : engine.connection request entityType field session = .ok full after)
    (hkinds : plan.root.options.order.Comparable session.store.graph full.ids)
    (hnulls : ∀ key ∈ plan.root.options.order.keys, ∀ id ∈ full.ids,
      key.path.value session.store.graph id = .null → key.nullable = true)
    (hpos : 1 ≤ size) (hbudget : size ≤ engine.budget.maxPageSize) (hsize : (size : Int) ≤ Int64.maxValue.toInt)
    (hstart : Serves session.store.graph (session.permission request) other start) :
    (∃ pages final, (∀ fuel, full.items.length < fuel →
        engine.walk other entityType field (.int size) .forwards fuel none start = .ok pages final) ∧
      full.Stitched pages) ∧
    (∃ pages final, (∀ fuel, full.items.length < fuel →
        engine.walk other entityType field (.int size) .backwards fuel none start = .ok pages final) ∧
      full.Stitched pages.reverse) := by
  have hnamed := Schema.named_of_build hschema
  have hg := hgraph.wellFormed
  obtain ⟨root, anchor⟩ := plan
  obtain ⟨rfl, _, hlisting⟩ := listing_of_connection hnamed hg hu hplan hfull hkinds hnulls
  have hlength : full.outline.length = full.items.length := by rw [Page.outline, List.length_map]
  have hn : full.ids.Nodup := by
    obtain ⟨passing, _, _, hpassing, hids, _⟩ := hlisting.found
    rw [hids]
    exact (Order.perm_arrange _ _ passing).nodup_iff.mpr
      ((Graph.nodup_labelled hg).sublist (Level.passing_sublist hpassing))
  constructor
  · obtain ⟨pages, final, hwalk, hcovers⟩ := hlisting.walk_forwards hnamed hg hu hplan hsize hbudget hstart hpos
      (Nat.zero_le _) rfl
    refine ⟨pages, final, fun fuel hfuel => hwalk fuel ?_, hcovers.stitched hn⟩
    rwa [Nat.sub_zero, hlength]
  · have hplace : none = (full.outline.drop full.outline.length).head?.map (·.1) := by
      rw [List.drop_length]
      rfl
    obtain ⟨pages, final, hwalk, hcovers⟩ := hlisting.walk_backwards hnamed hg hu hplan hsize hbudget hstart hpos
      (Nat.le_refl _) hplace
    exact ⟨pages, final, fun fuel hfuel => hwalk fuel (hlength ▸ hfuel), hcovers.stitched hn⟩

end

/-! ## A walk through two nodes -/

/-- An engine over a schema of one type. -/
def plainEngine : Engine := ⟨plainSchema, ⟨.builtin, Access.defaultMaxHops⟩, .default⟩

/-- A session over two nodes of the type. -/
def pairSession : Session := { Session.initial with store := ⟨pairGraph, 0, none⟩ }

/-- The declaration of the type. -/
def plainDecl : EntityDecl := .declare "A" false [] [] [] []

/-- The walk forwards through two nodes, one node a page. -/
theorem walk_stitches_pair : ∃ full after pages final,
    plainEngine.connection 0 "A" (.named "all") pairSession = .ok full after ∧ full.ids = ["a", "b"] ∧
      plainEngine.walk 0 "A" (.named "all") (.int (1 : Nat)) .forwards 3 none after = .ok pages final ∧
      full.Stitched pages := by
  have hgraph : pairSession.store.graph.Built := .addNode _ _ _ (.addNode _ _ _ .empty)
  have hbuild : Schema.build [plainDecl] = .ok plainEngine.schema := rfl
  obtain ⟨plan, hplan, horder⟩ : ∃ plan, (plainEngine.planner (pairSession.permission 0)).connection "A" (.named "all") =
      .ok plan ∧ plan.root.options.order = .byId := ⟨_, rfl, rfl⟩
  obtain ⟨full, after, hfull, hids, hserves⟩ : ∃ full after,
      plainEngine.connection 0 "A" (.named "all") pairSession = .ok full after ∧ full.ids = ["a", "b"] ∧
        Serves pairSession.store.graph (pairSession.permission 0) 0 after := ⟨_, _, rfl, rfl, rfl, rfl, rfl⟩
  have hkey : ∀ key ∈ plan.root.options.order.keys, ∀ id ∈ full.ids,
      key.path.value pairSession.store.graph id = .string id := by
    rw [horder, hids]
    simp [Order.byId]
    decide
  have hlength : full.items.length = 2 := by
    have hcount := congrArg List.length hids
    rwa [Page.ids_eq, List.length_map, Page.outline, List.length_map] at hcount
  obtain ⟨⟨pages, final, hwalk, hstitched⟩, _⟩ := walk_stitches hbuild hgraph ⟨rfl, rfl, rfl, rfl⟩ hplan hfull
    (fun key hkeys => ⟨.string, fun id hid => by rw [hkey key hkeys id hid]; exact .inr rfl⟩)
    (fun key hkeys id hid hnull => by rw [hkey key hkeys id hid] at hnull; cases hnull)
    (Nat.le_refl 1) (by decide) (by decide) hserves
  exact ⟨full, after, pages, final, hfull, hids, hwalk 3 (by rw [hlength]; decide), hstitched⟩

end Engine

end GraphQuery
