import GraphQuery.Proofs.Engine.Coherence
import GraphQuery.Proofs.Order.Grammar
import GraphQuery.Proofs.Page.Issued
import GraphQuery.Proofs.Page.Single

/-!
# Sort keys read what is returned

The cursor of a node carries what the sort keys read of it. A key over a single relationship reads a property of the
node at its end, whatever the store finds first; the relationship may be asked for as well, and then its result is a row
of a level of its own. Without a permission both are the same node: the cursor of every node that a request returns has,
under such a key, the property of the node that is returned along the relationship (`Engine.observed_of_serve`).
-/

namespace GraphQuery

/-- The property of the node that is returned under a result key for at most one node; it is null when no node is
returned there, and when the node lacks it. -/
def Node.propertyAlong? (node : Node) (resultKey name : String) : Option Value :=
  match node.relationship? resultKey with
  | some (.one related) => some ((related.map (·.property name)).getD .null)
  | _ => none

namespace Order

variable {order : Order} {graph : Graph} {id : String} {key : OrderKey}

/-- The values that an order reads of a node have that of a key under its name, when the keys of this name read the
same. -/
theorem lookup_values (hkey : key ∈ order.keys)
    (hshared : ∀ other ∈ order.keys, other.name = key.name → other.path = key.path) :
    List.lookup key.name (order.keyTable (order.values graph id)) = some (key.path.value graph id) := by
  have hnames : (order.keyTable (order.values graph id)).map (·.1) = sortNames order.names := by
    rw [keyTable, Table.names_ofList, names, values, List.zip_map', List.map_map]
    rfl
  have hname : key.name ∈ (order.keyTable (order.values graph id)).map (·.1) := by
    rw [hnames, mem_sortNames]
    exact List.mem_map_of_mem hkey
  obtain ⟨⟨_, value⟩, hentry, rfl⟩ := List.mem_map.mp hname
  have hlookup := (Table.lookup_eq_some_iff (Table.sorted_ofList _)).mpr hentry
  obtain ⟨other, hother, hsame, rfl⟩ := of_lookup_keyTable hlookup
  rw [hshared other hother hsame] at hlookup
  exact hlookup

end Order

section Reading

variable {planner : Planner} {graph : Graph} {asks : Asking} {request : Nat} {level : Level} {node : Node}

/-- Under the result key of a single relationship a node has the value that a sort key over the relationship reads. -/
theorem Level.Attaches.propertyAlong_eq [PropertyTable] (hg : graph.WellFormed) {schema : Schema}
    (h : level.Attaches schema graph request node) {resultKey : String} {sub : SubQuery Level}
    (hbelow : level.below? resultKey node.typeName = some sub) (hlone : sub.query.Lone sub.relationship)
    (name : String) : node.propertyAlong? resultKey name =
      some ((OrderPath.related sub.relationship name).value graph node.id) := by
  obtain ⟨attached, hattached, _, hshown⟩ := h.attached hbelow
  obtain ⟨related, rfl, hvalue⟩ := hlone.value_eq hg hshown name
  rw [Node.propertyAlong?, hattached, hvalue]

end Reading

namespace Engine

variable {engine : Engine} {session : Session} {decls : List EntityDecl} {calls : List Call} {call : Call}
  {result : Related Node}

/-- The cursor of every node that a request without permission returns, at any position, has under a sort key over a
single relationship the property of the node that is returned along the relationship. -/
theorem observed_of_serve [PropertyTable] (hschema : Schema.build decls = .ok engine.schema)
    (hgraph : session.store.graph.Built) (hloads : engine.LoadsShown session.requests.length calls
    (session.openRequest none)) (hkeys : (asked (engine.planner none) session.store.graph calls).Distinct)
    (hanswer : (call, .ok result) ∈
      (engine.serve session.requests.length calls (session.openRequest none)).1) :
    ∃ plan, call.plan (engine.planner none) = .ok plan ∧ ∀ position page, result.At position (.many page) →
      ∃ level, plan.root.levelAt position = some level ∧ ∀ item ∈ page.items, ∃ observed,
        item.cursor = Cursor.encode level.options.order observed ∧
        ∀ key ∈ level.options.order.keys, ∀ relationship property, key.path = .related relationship property →
          relationship.isMany = false → ∀ resultKey sub, level.below? resultKey item.node.typeName = some sub →
          sub.relationship = relationship →
            item.node.propertyAlong? resultKey property = some (key.path.value session.store.graph item.node.id) ∧
            ((∀ other ∈ level.options.order.keys, other.name = key.name → other.path = key.path) →
              List.lookup key.name observed = item.node.propertyAlong? resultKey property) := by
  have hnamed := Schema.named_of_build hschema
  have hg := hgraph.wellFormed
  obtain ⟨plan, hplan, hshows⟩ := shows_of_serve hschema hgraph hloads hkeys hanswer
  refine ⟨plan, hplan, fun position page hat => ?_⟩
  obtain ⟨level, among, hlevel, hplanned, _, hpage⟩ := hshows.level_at hnamed hg hat
  obtain ⟨_, hmakes⟩ := hplanned.makes
  refine ⟨level, hlevel, fun item hitem => ?_⟩
  have hcursor := Level.cursor_of_shownFrom hmakes.heads.sorted hpage item hitem
  have hnode : item.node ∈ (Related.many page).nodes := List.mem_map_of_mem hitem
  obtain ⟨_, hattaches⟩ := Level.attaches_of_shown hnamed hmakes.heads.sorted hpage item.node hnode
  refine ⟨_, hcursor, fun key hkey relationship property hpath hone resultKey sub hbelow hsub => ?_⟩
  subst hsub
  have hlone := (Call.plans hplan).lone hnamed rfl hlevel hbelow hone
  have hvalue := hattaches.propertyAlong_eq hg hbelow hlone property
  rw [← hpath] at hvalue
  exact ⟨hvalue, fun hshared => (Order.lookup_values hkey hshared).trans hvalue.symm⟩

/-! ## The authors of a document -/

/-- An engine over the archive. -/
def archiveEngine : Engine where
  schema := Archive.schema
  access := ⟨.builtin, Access.defaultMaxHops⟩
  budget := .default

/-- A document and two people. -/
def archiveNodes : Graph :=
  ((Graph.empty.addNode "d" Archive.doc.labels [("title", .string "Duet")]).addNode "a" Archive.person.labels
    [("name", .string "Ann")]).addNode "b" Archive.person.labels [("name", .string "Bob")]

/-- A document that two people wrote. -/
def archiveSession : Session where
  store := ⟨{ archiveNodes with edges := [⟨"d", "WRITTEN_BY", "b"⟩, ⟨"d", "WRITTEN_BY", "a"⟩] }, 0, none⟩
  requests := []

theorem archiveSession_built : archiveSession.store.graph.Built := by
  have hnodes : archiveNodes.Built := .addNode _ _ _ (.addNode _ _ _ (.addNode _ _ _ .empty))
  have hbob := hnodes.addEdge (rfl : Graph.addEdge _ "d" "WRITTEN_BY" "b" = .ok _)
  exact hbob.addEdge (rfl : Graph.addEdge _ "d" "WRITTEN_BY" "a" = .ok _)

/-- By the name of the author. -/
def byAuthorName : Order := .ofKeys [.ofRelated Archive.author "name" .ascending]

/-- A query of the documents with their authors, by the name of the author. -/
def docsCall : Call := .query "Doc" [.named "author"] { Options.default with order := byAuthorName }
  ⟨.all, byAuthorName, none, none, none, none, false, rfl⟩

/-- The document has one of two authors, and its cursor has the name of this one. -/
theorem observed_of_serve_author : ∃ (page : Page Node) (item : Item Node) (writer : Node) (order : Order)
    (observed : Table Value), (docsCall, .ok (.many page)) ∈
        (archiveEngine.serve 0 [docsCall] (archiveSession.openRequest none)).1 ∧
      page.items = [item] ∧ item.node.relationship? "author" = some (.one (some writer)) ∧ writer.id = "a" ∧
      item.cursor = Cursor.encode order observed ∧
      List.lookup "author.name" observed = some (writer.property "name") := by
  obtain ⟨plan, branch, hplan, hfree, hbranches, hparts, hkeys, hbelow⟩ : ∃ plan branch,
      docsCall.plan (archiveEngine.planner none) = .ok plan ∧ plan.anchor = none ∧ plan.root.branches = [branch] ∧
        branch.sub.query.parts = [] ∧
        plan.root.options.order.keys = [.ofRelated Archive.author "name" .ascending, .ofProperty "id" .ascending] ∧
        ∃ sub, plan.root.below? "author" "Doc" = some sub ∧ sub.relationship = Archive.author :=
    ⟨_, _, rfl, rfl, rfl, rfl, rfl, _, rfl, rfl⟩
  obtain ⟨page, item, writer, hmem, hitems, htype, hwriter, hid⟩ : ∃ page item writer,
      (docsCall, .ok (.many page)) ∈ (archiveEngine.serve 0 [docsCall] (archiveSession.openRequest none)).1 ∧
        page.items = [item] ∧ item.node.typeName = "Doc" ∧
        item.node.relationship? "author" = some (.one (some writer)) ∧ writer.id = "a" :=
    ⟨_, _, _, List.mem_cons_self, rfl, rfl, rfl, rfl⟩
  have hloads : archiveEngine.LoadsShown 0 [docsCall] (archiveSession.openRequest none) := loadsShown_single nofun
  obtain ⟨own, hown, hobserved⟩ := observed_of_serve
    (Archive.build_decls : Schema.build Archive.decls = .ok archiveEngine.schema)
    archiveSession_built hloads (distinct_of_branch hplan hfree hbranches hparts) hmem
  rw [hplan] at hown
  cases hown
  obtain ⟨level, hlevel, hitem⟩ := hobserved [] page (.here _)
  cases hlevel
  obtain ⟨observed, hcursor, hread⟩ := hitem item (hitems ▸ List.mem_cons_self)
  obtain ⟨sub, hsub, hrelationship⟩ := hbelow
  rw [hkeys, htype] at hread
  obtain ⟨_, hlookup⟩ := hread _ List.mem_cons_self Archive.author "name" rfl rfl "author" sub hsub hrelationship
  have hvalue := hlookup (by decide)
  rw [Node.propertyAlong?, hwriter] at hvalue
  exact ⟨page, item, writer, _, observed, hmem, hitems, hwriter, hid, hcursor, hvalue⟩

end Engine

end GraphQuery
