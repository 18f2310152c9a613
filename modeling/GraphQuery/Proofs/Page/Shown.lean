import GraphQuery.Proofs.Page.Admitted

/-!
# What results show

`Level.shown` is the meaning of a level without caches: it makes nodes of what was found, and every relationship result
is made anew. `Level.shownAlong` is the result of a relationship of a node of a graph.

* `Level.shown_movedTo`: apart from the number of the request, a result does not depend on the request;
* `Level.attaches_of_shown`: what is attached to a node of a level is, under each result key, the result of the
  relationship of the sub-query there;
* `Planner.Fits.at`: what stands at a position of a result is shown by the level at that position.
-/

namespace GraphQuery

/-! ## Showing -/

/-- The item of what was found, given the node it shows. -/
def Options.shownItem (options : Options) (nodeOf : Found → Result Node) (found : Found) : Result (Item Node) := do
  return ⟨Cursor.encode options.order found.keys, ← nodeOf found⟩

/-- The page of what was found, given the nodes it shows. -/
def Options.shownPage (options : Options) (nodeOf : Found → Result Node) (answer : Answer Found) :
    Result (Page Node) := do
  let (rows, hasNext, hasPrevious) := options.slice answer.rows
  let items ← rows.mapM (options.shownItem nodeOf)
  return ⟨items, answer.totalCount,
    ⟨hasNext, hasPrevious, items.head?.map (·.cursor), items.getLast?.map (·.cursor)⟩⟩

namespace Level

/-- The result of what was found for a level, given the nodes it shows. -/
def shownRelated (level : Level) (nodeOf : Found → Result Node) (answer : Answer Found) : Result (Related Node) :=
  match level.cardinality with
  | .one =>
    match answer.rows with
    | [] => return .one none
    | found :: _ => return .one (some (← nodeOf found))
  | .many => return .many (← level.options.shownPage nodeOf answer)

mutual

/-- The node that a level shows of what was found, in a request. -/
def shownNode (schema : Schema) (request : Nat) : Level → Found → Result Node
  | ⟨_, _, _, _, _, parts⟩, found => do
    let entity ← found.concreteType schema
    return ⟨found.id, entity.name, found.properties, ← shownParts schema request entity.name found parts, request⟩

/-- The results of the sub-queries under all result keys that apply to a node. -/
def shownParts (schema : Schema) (request : Nat) (typeName : String) (found : Found) :
    List (String × List (SubQuery Level)) → Result (List (String × Related Node))
  | [] => return []
  | (resultKey, subs) :: rest => do
    match ← shownFirst schema request typeName found resultKey subs 0 with
    | some result => return (resultKey, result) :: (← shownParts schema request typeName found rest)
    | none => shownParts schema request typeName found rest

/-- The result of the first sub-query that applies to a node, counted from the given index. -/
def shownFirst (schema : Schema) (request : Nat) (typeName : String) (found : Found) (resultKey : String) :
    List (SubQuery Level) → Nat → Result (Option (Related Node))
  | [], _ => return none
  | ⟨relationship, query, onlyOnTypes⟩ :: rest, i => do
    if SubQuery.appliesTo ⟨relationship, (), onlyOnTypes⟩ typeName then
      let answer := (List.lookup (resultKey, i) found.related).getD .empty
      return some (← query.shownRelated (fun found => query.shownNode schema request found) answer)
    else shownFirst schema request typeName found resultKey rest (i + 1)

end

/-- What a level shows of what was found. -/
def shown (level : Level) (schema : Schema) (request : Nat) (answer : Answer Found) : Result (Related Node) :=
  level.shownRelated (level.shownNode schema request) answer

/-- What a level shows as a page of what was found. -/
def shownPage (level : Level) (schema : Schema) (request : Nat) (answer : Answer Found) : Result (Page Node) :=
  level.options.shownPage (level.shownNode schema request) answer

variable [PropertyTable]

/-- What a level shows of some nodes of a graph. -/
def shownFrom (level : Level) (schema : Schema) (graph : Graph) (request : Nat) (candidates : List String) :
    Result (Related Node) := do
  level.shown schema request (← level.find graph candidates)

/-- The result of a relationship of a node of a graph. -/
def shownAlong (query : Level) (schema : Schema) (graph : Graph) (request : Nat) (relationship : RelationshipDef)
    (id : String) : Result (Related Node) :=
  query.shownFrom schema graph request
    (graph.neighbours id relationship.label relationship.direction query.entityType)

end Level

/-! ## Other requests -/

namespace Node

mutual

/-- The node with all its results, as another request shows it. -/
def movedTo (request : Nat) : Node → Node
  | ⟨id, typeName, properties, relationships, _⟩ =>
    ⟨id, typeName, properties, relationshipsMovedTo request relationships, request⟩

/-- Results of relationships, as another request shows them. -/
def relationshipsMovedTo (request : Nat) : List (String × Related Node) → List (String × Related Node)
  | [] => []
  | (resultKey, .one none) :: rest => (resultKey, .one none) :: relationshipsMovedTo request rest
  | (resultKey, .one (some node)) :: rest =>
    (resultKey, .one (some (node.movedTo request))) :: relationshipsMovedTo request rest
  | (resultKey, .many ⟨items, totalCount, info⟩) :: rest =>
    (resultKey, .many ⟨itemsMovedTo request items, totalCount, info⟩) :: relationshipsMovedTo request rest

/-- The items of a page, as another request shows them. -/
def itemsMovedTo (request : Nat) : List (Item Node) → List (Item Node)
  | [] => []
  | ⟨cursor, node⟩ :: rest => ⟨cursor, node.movedTo request⟩ :: itemsMovedTo request rest

end

end Node

/-- An item, as another request shows it. -/
def Item.movedTo (request : Nat) (item : Item Node) : Item Node := ⟨item.cursor, item.node.movedTo request⟩

/-- A page, as another request shows it. -/
def Page.movedTo (request : Nat) (page : Page Node) : Page Node :=
  ⟨page.items.map (·.movedTo request), page.totalCount, page.info⟩

/-- A result, as another request shows it: the same nodes, cursors, counts and nested results, with the number of that
request in every node. -/
def Related.movedTo (request : Nat) : Related Node → Related Node
  | one node => one (node.map (·.movedTo request))
  | many page => many (page.movedTo request)

section Moving

variable {schema : Schema} {m n : Nat}

theorem Node.itemsMovedTo_eq (request : Nat) : ∀ items : List (Item Node),
    Node.itemsMovedTo request items = items.map (·.movedTo request)
  | [] => by rw [Node.itemsMovedTo, List.map_nil]
  | ⟨cursor, node⟩ :: rest => by rw [Node.itemsMovedTo, List.map_cons, Node.itemsMovedTo_eq request rest]; rfl

theorem Node.relationshipsMovedTo_eq (request : Nat) : ∀ relationships : List (String × Related Node),
    Node.relationshipsMovedTo request relationships =
      relationships.map fun (resultKey, result) => (resultKey, result.movedTo request)
  | [] => by rw [Node.relationshipsMovedTo, List.map_nil]
  | (resultKey, .one none) :: rest => by
    rw [Node.relationshipsMovedTo, List.map_cons, Node.relationshipsMovedTo_eq request rest]
    rfl
  | (resultKey, .one (some node)) :: rest => by
    rw [Node.relationshipsMovedTo, List.map_cons, Node.relationshipsMovedTo_eq request rest]
    rfl
  | (resultKey, .many ⟨items, totalCount, info⟩) :: rest => by
    rw [Node.relationshipsMovedTo, List.map_cons, Node.relationshipsMovedTo_eq request rest, Node.itemsMovedTo_eq]
    rfl

@[simp] theorem Node.movedTo_id (node : Node) : (node.movedTo m).id = node.id := by
  obtain ⟨id, typeName, properties, relationships, request⟩ := node
  rw [Node.movedTo]

@[simp] theorem Node.movedTo_typeName (node : Node) : (node.movedTo m).typeName = node.typeName := by
  obtain ⟨id, typeName, properties, relationships, request⟩ := node
  rw [Node.movedTo]

@[simp] theorem Node.movedTo_request (node : Node) : (node.movedTo m).request = m := by
  obtain ⟨id, typeName, properties, relationships, request⟩ := node
  rw [Node.movedTo]

/-- Whether a level shows the same of what was found in two requests, apart from their numbers. -/
def Level.Moves (schema : Schema) (m n : Nat) (level : Level) : Prop :=
  ∀ found, level.shownNode schema m found = Node.movedTo m <$> level.shownNode schema n found

theorem Options.shownPage_movedTo {options : Options} {nodeOf other : Found → Result Node}
    (h : ∀ found, other found = Node.movedTo m <$> nodeOf found) (answer : Answer Found) :
    options.shownPage other answer = Page.movedTo m <$> options.shownPage nodeOf answer := by
  have hitem : ∀ found, options.shownItem other found = Item.movedTo m <$> options.shownItem nodeOf found := by
    intro found
    rw [Options.shownItem, Options.shownItem, h]
    cases nodeOf found <;> rfl
  have hrows : ∀ rows : List Found, rows.mapM (options.shownItem other) =
      List.map (·.movedTo m) <$> rows.mapM (options.shownItem nodeOf) := by
    intro rows
    rw [Result.map_mapM]
    exact Result.mapM_congr fun found _ => hitem found
  unfold Options.shownPage
  simp only [hrows]
  cases (options.slice answer.rows).1.mapM (options.shownItem nodeOf) with
  | error e => rfl
  | ok items =>
    simp only [Result.map_ok, Result.ok_bind, Result.pure_eq_ok, Page.movedTo, List.head?_map, List.getLast?_map,
      Option.map_map]
    rfl

theorem Level.shownRelated_movedTo {level : Level} (h : level.Moves schema m n) (answer : Answer Found) :
    level.shown schema m answer = Related.movedTo m <$> level.shown schema n answer := by
  unfold Level.shown Level.shownRelated
  cases level.cardinality with
  | one =>
    cases answer.rows with
    | nil => rfl
    | cons found rest =>
      simp only [h found]
      cases level.shownNode schema n found <;> rfl
  | many =>
    simp only [Options.shownPage_movedTo h]
    cases level.options.shownPage (level.shownNode schema n) answer <;> rfl

theorem Level.shownFirst_movedTo {typeName resultKey : String} {found : Found} :
    ∀ {subs : List (SubQuery Level)} {i : Nat},
      (∀ branch ∈ Level.branchesOfSubs resultKey subs i, branch.sub.query.Moves schema m n) →
        Level.shownFirst schema m typeName found resultKey subs i =
          Option.map (Related.movedTo m) <$> Level.shownFirst schema n typeName found resultKey subs i
  | [], i, _ => by
    rw [Level.shownFirst, Level.shownFirst]
    rfl
  | ⟨relationship, query, onlyOnTypes⟩ :: rest, i, h => by
    obtain ⟨hquery, hrest⟩ := List.forall_mem_cons.mp h
    rw [Level.shownFirst, Level.shownFirst]
    split
    · have hmoved := Level.shownRelated_movedTo hquery ((List.lookup (resultKey, i) found.related).getD .empty)
      unfold Level.shown at hmoved
      simp only [hmoved]
      cases query.shownRelated (query.shownNode schema n) ((List.lookup (resultKey, i) found.related).getD .empty) <;> rfl
    · exact Level.shownFirst_movedTo hrest

theorem Level.shownParts_movedTo {typeName : String} {found : Found} :
    ∀ {parts : List (String × List (SubQuery Level))},
      (∀ branch ∈ Level.branchesOfParts parts, branch.sub.query.Moves schema m n) →
        Level.shownParts schema m typeName found parts =
          Node.relationshipsMovedTo m <$> Level.shownParts schema n typeName found parts
  | [], _ => by
    rw [Level.shownParts, Level.shownParts, Result.pure_eq_ok, Result.map_ok, Node.relationshipsMovedTo]
  | (resultKey, subs) :: rest, h => by
    have hrest : Level.shownParts schema m typeName found rest =
        Node.relationshipsMovedTo m <$> Level.shownParts schema n typeName found rest :=
      Level.shownParts_movedTo fun branch hbranch => h branch (List.mem_append_right _ hbranch)
    rw [Level.shownParts, Level.shownParts,
      Level.shownFirst_movedTo fun branch hbranch => h branch (List.mem_append_left _ hbranch), hrest]
    cases Level.shownFirst schema n typeName found resultKey subs 0 with
    | error e => rfl
    | ok first =>
      cases first with
      | none => rfl
      | some result =>
        simp only [Result.map_ok, Result.ok_bind, Option.map_some]
        cases Level.shownParts schema n typeName found rest with
        | error e => rfl
        | ok results =>
          simp only [Result.map_ok, Result.ok_bind, Result.pure_eq_ok, Node.relationshipsMovedTo_eq, List.map_cons]

theorem Level.moves (m n : Nat) (level : Level) : level.Moves schema m n := by
  induction level using Level.induct with
  | step level ih =>
    intro found
    obtain ⟨entityType, options, condition, limit, cardinality, parts⟩ := level
    rw [Level.shownNode, Level.shownNode]
    cases found.concreteType schema with
    | error e => rfl
    | ok entity =>
      simp only [Result.ok_bind]
      rw [Level.shownParts_movedTo ih]
      cases Level.shownParts schema n entity.name found parts with
      | error e => rfl
      | ok relationships => simp only [Result.map_ok, Result.ok_bind, Result.pure_eq_ok, Node.movedTo]

/-- What a level shows in one request it shows in every other. -/
theorem Level.shown_movedTo (level : Level) (m n : Nat) (answer : Answer Found) :
    level.shown schema m answer = Related.movedTo m <$> level.shown schema n answer :=
  Level.shownRelated_movedTo (level.moves m n) answer

theorem Level.shownPage_movedTo (level : Level) (m n : Nat) (answer : Answer Found) :
    level.shownPage schema m answer = Page.movedTo m <$> level.shownPage schema n answer :=
  Options.shownPage_movedTo (level.moves m n) answer

end Moving

/-! ## What a level shows -/

section Showing

variable {schema : Schema} {request : Nat} {level : Level} {found : Found} {answer : Answer Found}

/-- A node of a page is shown of something that was found. -/
theorem Options.mem_nodes_of_shownPage {options : Options} {nodeOf : Found → Result Node} {page : Page Node}
    (h : options.shownPage nodeOf answer = .ok page) : ∀ node ∈ page.nodes, ∃ found ∈ answer.rows,
      nodeOf found = .ok node := by
  obtain ⟨items, hitems, h⟩ := Result.bind_eq_ok.mp h
  cases h
  intro node hnode
  obtain ⟨item, hitem, rfl⟩ := List.mem_map.mp hnode
  obtain ⟨found, hfound, hshown⟩ := Result.member_of_mem_mapM hitems item hitem
  obtain ⟨shown, hnodeOf, hshown⟩ := Result.bind_eq_ok.mp hshown
  obtain rfl := Except.ok.inj hshown
  exact ⟨found, Options.mem_of_slice hfound, hnodeOf⟩

/-- A node of a result is shown of something that was found. -/
theorem Level.mem_nodes_of_shown {result : Related Node} (h : level.shown schema request answer = .ok result) :
    ∀ node ∈ result.nodes, ∃ found ∈ answer.rows, level.shownNode schema request found = .ok node := by
  unfold Level.shown Level.shownRelated at h
  cases hcardinality : level.cardinality with
  | one =>
    obtain ⟨totalCount, rows⟩ := answer
    rw [hcardinality] at h
    cases rows with
    | nil =>
      cases h
      exact nofun
    | cons found rest =>
      obtain ⟨node, hnode, h⟩ := Result.bind_eq_ok.mp h
      cases h
      intro other hother
      rw [List.mem_singleton.mp hother]
      exact ⟨found, List.mem_cons_self, hnode⟩
  | many =>
    rw [hcardinality] at h
    obtain ⟨page, hpage, h⟩ := Result.bind_eq_ok.mp h
    cases h
    exact Options.mem_nodes_of_shownPage hpage

/-- What a branch shows of what was found for it. -/
def Branch.shown (schema : Schema) (request : Nat) (found : Found) (branch : Branch) : Result (Related Node) :=
  branch.sub.query.shown schema request ((List.lookup (branch.resultKey, branch.index) found.related).getD .empty)

theorem Level.of_shownFirst {typeName resultKey : String} {result : Related Node} :
    ∀ {subs : List (SubQuery Level)} {i : Nat},
      Level.shownFirst schema request typeName found resultKey subs i = .ok (some result) →
        ∃ branch ∈ Level.branchesOfSubs resultKey subs i, subs.find? (·.appliesTo typeName) = some branch.sub ∧
          branch.shown schema request found = .ok result
  | [], i, h => by
    rw [Level.shownFirst] at h
    cases h
  | ⟨relationship, query, onlyOnTypes⟩ :: rest, i, h => by
    rw [Level.shownFirst] at h
    by_cases happlies : SubQuery.appliesTo ⟨relationship, (), onlyOnTypes⟩ typeName = true
    · rw [if_pos happlies] at h
      obtain ⟨other, hother, h⟩ := Result.bind_eq_ok.mp h
      cases h
      exact ⟨_, List.mem_cons_self, List.find?_cons_of_pos happlies, hother⟩
    · have hskip : (⟨relationship, query, onlyOnTypes⟩ :: rest : List (SubQuery Level)).find? (·.appliesTo typeName) =
          rest.find? (·.appliesTo typeName) := List.find?_cons_of_neg happlies
      rw [if_neg happlies] at h
      obtain ⟨branch, hbranch, hfind, hshown⟩ := Level.of_shownFirst h
      exact ⟨branch, List.mem_cons_of_mem _ hbranch, hskip.trans hfind, hshown⟩

theorem Level.of_shownParts {typeName : String} : ∀ {parts : List (String × List (SubQuery Level))}
    {results : List (String × Related Node)}, Level.shownParts schema request typeName found parts = .ok results →
      ∀ entry ∈ results, ∃ subs, (entry.1, subs) ∈ parts ∧ ∃ branch ∈ Level.branchesOfParts parts,
        subs.find? (·.appliesTo typeName) = some branch.sub ∧ branch.shown schema request found = .ok entry.2
  | [], results, h => by
    rw [Level.shownParts] at h
    cases h
    exact nofun
  | (resultKey, subs) :: rest, results, h => by
    have hlater : ∀ {others : List (String × Related Node)},
        Level.shownParts schema request typeName found rest = .ok others → ∀ entry ∈ others,
          ∃ subs', (entry.1, subs') ∈ (resultKey, subs) :: rest ∧
            ∃ branch ∈ Level.branchesOfParts ((resultKey, subs) :: rest),
              subs'.find? (·.appliesTo typeName) = some branch.sub ∧ branch.shown schema request found = .ok entry.2 := by
      intro others hothers entry hentry
      obtain ⟨subs', hpart, branch, hbranch, hshown⟩ := Level.of_shownParts hothers entry hentry
      exact ⟨subs', List.mem_cons_of_mem _ hpart, branch, List.mem_append_right _ hbranch, hshown⟩
    rw [Level.shownParts] at h
    obtain ⟨first, hfirst, h⟩ := Result.bind_eq_ok.mp h
    cases first with
    | none => exact hlater h
    | some result =>
      obtain ⟨others, hothers, h⟩ := Result.bind_eq_ok.mp h
      cases h
      intro entry hentry
      rcases List.mem_cons.mp hentry with rfl | hentry
      · obtain ⟨branch, hbranch, hfind, hshown⟩ := Level.of_shownFirst hfirst
        exact ⟨subs, List.mem_cons_self, branch, List.mem_append_left _ hbranch, hfind, hshown⟩
      · exact hlater hothers entry hentry

theorem Level.isSome_of_shownFirst {typeName resultKey : String} {first : Option (Related Node)} :
    ∀ {subs : List (SubQuery Level)} {i : Nat},
      Level.shownFirst schema request typeName found resultKey subs i = .ok first →
        (subs.find? (·.appliesTo typeName)).isSome = true → first.isSome = true
  | [], i, _, hfind => by cases hfind
  | ⟨relationship, query, onlyOnTypes⟩ :: rest, i, h, hfind => by
    rw [Level.shownFirst] at h
    by_cases happlies : SubQuery.appliesTo ⟨relationship, (), onlyOnTypes⟩ typeName = true
    · rw [if_pos happlies] at h
      obtain ⟨result, _, h⟩ := Result.bind_eq_ok.mp h
      cases h
      rfl
    · have hskip : (⟨relationship, query, onlyOnTypes⟩ :: rest : List (SubQuery Level)).find? (·.appliesTo typeName) =
          rest.find? (·.appliesTo typeName) := List.find?_cons_of_neg happlies
      rw [if_neg happlies] at h
      rw [hskip] at hfind
      exact Level.isSome_of_shownFirst h hfind

/-- There is a result under every result key with a sub-query that applies. -/
theorem Level.mem_of_shownParts {typeName resultKey : String} {subs : List (SubQuery Level)}
    (hfind : (subs.find? (·.appliesTo typeName)).isSome = true) : ∀ {parts : List (String × List (SubQuery Level))}
    {results : List (String × Related Node)}, Level.shownParts schema request typeName found parts = .ok results →
      (resultKey, subs) ∈ parts → ∃ result, (resultKey, result) ∈ results
  | [], _, _, hpart => by cases hpart
  | (key, others) :: rest, results, h, hpart => by
    rw [Level.shownParts] at h
    obtain ⟨first, hfirst, h⟩ := Result.bind_eq_ok.mp h
    cases first with
    | none =>
      rcases List.mem_cons.mp hpart with heq | hpart
      · cases heq
        have hsome := Level.isSome_of_shownFirst hfirst hfind
        cases hsome
      · exact Level.mem_of_shownParts hfind h hpart
    | some result =>
      obtain ⟨later, hlater, h⟩ := Result.bind_eq_ok.mp h
      cases h
      rcases List.mem_cons.mp hpart with heq | hpart
      · cases heq
        exact ⟨result, List.mem_cons_self⟩
      · obtain ⟨other, hother⟩ := Level.mem_of_shownParts hfind hlater hpart
        exact ⟨other, List.mem_cons_of_mem _ hother⟩

/-- What a node shown by a level has: the identifier of what was found, a concrete type, and under the result keys with a
branch that applies what that branch shows. -/
theorem Level.of_shownNode (hsorted : Table.Sorted level.parts) {node : Node}
    (h : level.shownNode schema request found = .ok node) :
    ∃ entity, found.concreteType schema = .ok entity ∧ node.id = found.id ∧ node.typeName = entity.name ∧
      node.request = request ∧
      (∀ entry ∈ node.relationships, ∃ branch ∈ level.branches,
        level.below? entry.1 node.typeName = some branch.sub ∧ branch.shown schema request found = .ok entry.2) ∧
      ∀ resultKey sub, level.below? resultKey node.typeName = some sub →
        ∃ result, (resultKey, result) ∈ node.relationships := by
  obtain ⟨entityType, options, condition, limit, cardinality, parts⟩ := level
  rw [Level.shownNode] at h
  obtain ⟨entity, hentity, h⟩ := Result.bind_eq_ok.mp h
  obtain ⟨relationships, hrelationships, h⟩ := Result.bind_eq_ok.mp h
  cases h
  refine ⟨entity, hentity, rfl, rfl, rfl, fun entry hentry => ?_, fun resultKey sub hbelow => ?_⟩
  · obtain ⟨subs, hpart, branch, hbranch, hfind, hshown⟩ := Level.of_shownParts hrelationships entry hentry
    refine ⟨branch, hbranch, ?_, hshown⟩
    rw [Level.below?, Level.part?, (Table.lookup_eq_some_iff hsorted).mpr hpart]
    exact hfind
  · obtain ⟨subs, hpart, hfind⟩ := Option.bind_eq_some_iff.mp hbelow
    exact Level.mem_of_shownParts (by rw [hfind]; rfl) hrelationships (Table.mem_of_lookup hpart)

end Showing

/-! ## Relationships of a node -/

/-- Whatever picks one of two at every step ends with one of those it started from. -/
theorem mem_of_foldl_pick {α : Type} {pick : Option α → α → Option α}
    (hpick : ∀ best a, pick best a = best ∨ pick best a = some a) : ∀ {xs : List α} {best : Option α} {a : α},
      xs.foldl pick best = some a → best = some a ∨ a ∈ xs
  | [], _, _, h => .inl h
  | x :: xs, best, a, h => by
    rw [List.foldl_cons] at h
    rcases mem_of_foldl_pick hpick h with hx | hmem
    · rcases hpick best x with heq | heq
      · exact .inl (heq.symm.trans hx)
      · rw [heq] at hx
        cases hx
        exact .inr List.mem_cons_self
    · exact .inr (List.mem_cons_of_mem x hmem)

/-- The concrete type of a node is the type of one of its labels. -/
theorem Schema.Named.name_of_concreteType? {schema : Schema} (hnamed : schema.Named) {labels : List String}
    {entity : EntityType} (h : schema.concreteType? labels = some entity) : entity.name ∈ labels := by
  unfold Schema.concreteType? at h
  have hpicked := mem_of_foldl_pick (fun best other => by
    cases best with
    | none => exact .inr rfl
    | some b =>
      simp only
      split
      · exact .inr rfl
      · exact .inl rfl) h
  rcases hpicked with hnone | hmem
  · cases hnone
  · obtain ⟨label, hlabel, hentity⟩ := List.mem_filterMap.mp (List.mem_filter.mp hmem).1
    rw [hnamed _ _ hentity]
    exact hlabel

theorem Found.name_of_concreteType {schema : Schema} (hnamed : schema.Named) {found : Found} {entity : EntityType}
    (h : found.concreteType schema = .ok entity) : entity.name ∈ found.labels := by
  unfold Found.concreteType at h
  split at h
  · rename_i hconcrete
    cases h
    exact hnamed.name_of_concreteType? hconcrete
  · cases h

theorem SubQuery.appliesToLabels_of {ν : Type} {sub : SubQuery ν} {typeName : String} {labels : List String}
    (h : sub.appliesTo typeName = true) (hmem : typeName ∈ labels) : appliesToLabels sub.onlyOnTypes labels = true := by
  unfold SubQuery.appliesTo at h
  unfold appliesToLabels
  cases honly : sub.onlyOnTypes with
  | none => rfl
  | some types =>
    rw [honly] at h
    exact List.any_eq_true.mpr ⟨typeName, hmem, h⟩

section Relating

variable {schema : Schema} {graph : Graph} {request : Nat} {level : Level} {candidates : List String}
  {answer : Answer Found} {found : Found}

variable [PropertyTable]

/-- Something is found for every branch that applies. -/
theorem Level.mem_of_findBranches {id : String} {labels : List String} {branch : Branch} :
    ∀ {branches : List Branch} {related : List ((String × Nat) × Answer Found)},
      Level.findBranches graph id labels branches = .ok related → branch ∈ branches →
        appliesToLabels branch.sub.onlyOnTypes labels = true →
          ∃ other, ((branch.resultKey, branch.index), other) ∈ related
  | [], _, _, hbranch, _ => by cases hbranch
  | first :: rest, related, h, hbranch, happlies => by
    rw [Level.findBranches] at h
    split at h
    · obtain ⟨other, _, h⟩ := Result.bind_eq_ok.mp h
      obtain ⟨others, hothers, h⟩ := Result.bind_eq_ok.mp h
      cases h
      rcases List.mem_cons.mp hbranch with rfl | hbranch
      · exact ⟨other, List.mem_cons_self⟩
      · obtain ⟨answer, hmem⟩ := Level.mem_of_findBranches hothers hbranch happlies
        exact ⟨answer, List.mem_cons_of_mem _ hmem⟩
    · rename_i hskip
      rcases List.mem_cons.mp hbranch with rfl | hbranch
      · exact absurd happlies hskip
      · exact Level.mem_of_findBranches h hbranch happlies

/-- What is found is found of a candidate, with the labels it is stored with and everything found for its branches. -/
theorem Level.of_mem_find (h : level.find graph candidates = .ok answer) (hfound : found ∈ answer.rows) :
    found.id ∈ candidates ∧ (∀ label ∈ found.labels, graph.hasLabel found.id label = true) ∧
      Level.findBranches graph found.id found.labels level.branches = .ok found.related := by
  obtain ⟨passing, hpassing, _, hrows⟩ := Level.find_eq_ok.mp h
  obtain ⟨keyed, hkeyed, hrow⟩ := Result.member_of_mem_mapM (Result.mapM_eq_ok.mpr hrows) found hfound
  have hmem : keyed.1 ∈ candidates := (Level.passing_sublist hpassing).subset (Level.mem_of_paged hkeyed)
  obtain ⟨node, hnode, hrow⟩ := Result.bind_eq_ok.mp hrow
  obtain ⟨related, hrelated, hrow⟩ := Result.bind_eq_ok.mp hrow
  cases hrow
  refine ⟨hmem, fun label hlabel => ?_, hrelated⟩
  rw [Graph.hasLabel, Graph.node_eq_ok.mp hnode]
  simpa using hlabel

/-- What is found for a branch that applies is what its level finds among the neighbours. -/
theorem Level.lookup_of_find (hsorted : Table.Sorted level.parts) (h : level.find graph candidates = .ok answer)
    (hfound : found ∈ answer.rows) {branch : Branch} (hbranch : branch ∈ level.branches)
    (happlies : appliesToLabels branch.sub.onlyOnTypes found.labels = true) :
    ∃ other, List.lookup (branch.resultKey, branch.index) found.related = some other ∧
      branch.sub.query.find graph (graph.neighbours found.id branch.sub.relationship.label
        branch.sub.relationship.direction branch.sub.query.entityType) = .ok other := by
  obtain ⟨_, _, hrelated⟩ := Level.of_mem_find h hfound
  obtain ⟨entry, hmem⟩ := Level.mem_of_findBranches hrelated hbranch happlies
  cases hlookup : List.lookup (branch.resultKey, branch.index) found.related with
  | none =>
    have hne := List.lookup_eq_none_iff.mp hlookup _ hmem
    exact absurd rfl (bne_iff_ne.mp hne)
  | some other => exact ⟨other, rfl, Level.find_of_lookup hsorted h hfound hbranch hlookup⟩

/-- A branch that applies to a node shows the result of its relationship. -/
theorem Level.shown_branch (hsorted : Table.Sorted level.parts) (h : level.find graph candidates = .ok answer)
    (hfound : found ∈ answer.rows) {branch : Branch} (hbranch : branch ∈ level.branches)
    (happlies : appliesToLabels branch.sub.onlyOnTypes found.labels = true) : branch.shown schema request found =
      branch.sub.query.shownAlong schema graph request branch.sub.relationship found.id := by
  obtain ⟨other, hlookup, hother⟩ := Level.lookup_of_find hsorted h hfound hbranch happlies
  rw [Branch.shown, hlookup, Level.shownAlong, Level.shownFrom, hother]
  rfl

/-- What a node of a result has for its level: it belongs to the request, is stored with its type among its labels, and
carries under the result keys with a branch that applies the result of the relationship of that branch. -/
structure Level.Attaches (schema : Schema) (graph : Graph) (request : Nat) (level : Level) (node : Node) : Prop where
  belongs : node.request = request
  typed : graph.hasLabel node.id node.typeName = true
  entries : ∀ entry ∈ node.relationships, ∃ branch ∈ level.branches,
    level.below? entry.1 node.typeName = some branch.sub ∧
      branch.sub.query.shownAlong schema graph request branch.sub.relationship node.id = .ok entry.2
  carries : ∀ resultKey sub, level.below? resultKey node.typeName = some sub →
    ∃ result, (resultKey, result) ∈ node.relationships

/-- Under a result key with a sub-query for its type a node carries the result of the relationship of the sub-query. -/
theorem Level.Attaches.attached {node : Node} (h : level.Attaches schema graph request node) {resultKey : String}
    {sub : SubQuery Level} (hbelow : level.below? resultKey node.typeName = some sub) :
    ∃ attached, node.relationship? resultKey = some attached ∧ (∃ branch ∈ level.branches, branch.sub = sub) ∧
      sub.query.shownAlong schema graph request sub.relationship node.id = .ok attached := by
  obtain ⟨first, hfirst⟩ := h.carries _ _ hbelow
  cases hattached : node.relationship? resultKey with
  | none =>
    have hne := List.lookup_eq_none_iff.mp hattached _ hfirst
    exact absurd rfl (bne_iff_ne.mp hne)
  | some attached =>
    obtain ⟨branch, hbranch, hsub, hshown⟩ := h.entries _ (Table.mem_of_lookup hattached)
    rw [hbelow] at hsub
    have hsub : branch.sub = sub := (Option.some.inj hsub).symm
    exact ⟨attached, rfl, ⟨branch, hbranch, hsub⟩, hsub ▸ hshown⟩

theorem Level.attaches_of_shown (hnamed : schema.Named) (hsorted : Table.Sorted level.parts) {result : Related Node}
    (h : level.shownFrom schema graph request candidates = .ok result) : ∀ node ∈ result.nodes,
      node.id ∈ candidates ∧ level.Attaches schema graph request node := by
  obtain ⟨answer, hfind, h⟩ := Result.bind_eq_ok.mp h
  intro node hnode
  obtain ⟨found, hfound, hshown⟩ := Level.mem_nodes_of_shown h node hnode
  obtain ⟨entity, hentity, hid, htype, hrequest, hentries, hcarries⟩ := Level.of_shownNode hsorted hshown
  obtain ⟨hmem, hlabels, _⟩ := Level.of_mem_find hfind hfound
  have hname := Found.name_of_concreteType hnamed hentity
  refine ⟨hid ▸ hmem, hrequest, ?_, fun entry hentry => ?_, hcarries⟩
  · rw [hid, htype]
    exact hlabels _ hname
  · obtain ⟨branch, hbranch, hbelow, hbranchShown⟩ := hentries entry hentry
    have happlies : branch.sub.appliesTo node.typeName = true := by
      obtain ⟨subs, _, hfind⟩ := Option.bind_eq_some_iff.mp hbelow
      have hsub := List.find?_some hfind
      exact hsub
    refine ⟨branch, hbranch, hbelow, ?_⟩
    rw [hid, ← hbranchShown]
    exact (Level.shown_branch hsorted hfind hfound hbranch
      (SubQuery.appliesToLabels_of happlies (htype ▸ hname))).symm

end Relating

end GraphQuery
