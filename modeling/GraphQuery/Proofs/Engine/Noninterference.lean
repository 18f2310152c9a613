import GraphQuery.Proofs.Authorization.Denied
import GraphQuery.Proofs.Engine.Execute
import GraphQuery.Proofs.Engine.Walk
import GraphQuery.Proofs.Filter.Reading

/-!
# What denied nodes tell

Two graphs that differ in what a denied node stores give every connection the same result, whether it is a page or an
error (`Engine.connection_over`), if the request itself does not read the difference: its filters read of related nodes,
and its sort keys over relationships, only properties that the graphs share (`Options.Overlooks`).

The condition is needed, since the filter of a request is not restricted to the nodes that its permission grants
(`Engine.secret_told`).
-/

namespace GraphQuery

/-! ## Levels -/

section

variable [PropertyTable]

/-- Whether options read of related nodes only what may be read, by patterns that the store compiles. -/
structure Options.Overlooks (readable : (label name : String) → Prop) (options : Options) : Prop where
  filter : options.filter.Reads readable fun _ => True
  patterns : ∀ pattern ∈ options.filter.patterns, Automaton.Anchorable pattern
  order : ∀ key ∈ options.order.keys, key.path.Reads readable

namespace Level

section Variants

variable {planner : Planner} {permission : Permission} {odd : String} {graph other : Graph}

/-- The same nodes pass a filter that does not tell the graphs apart, if the odd node passes it on neither. -/
theorem passing_over {level : Level} (hdiscreet : level.condition.Discreet odd graph other) {candidates : List String}
    (hodd : odd ∈ candidates → ¬ level.condition.Holds graph odd ∧ ¬ level.condition.Holds other odd) :
    level.passing other candidates = level.passing graph candidates := by
  refine Result.filterM_congr fun id hid => ?_
  obtain ⟨hgraph, hother⟩ := hdiscreet.verdict id
  by_cases heq : id = odd
  · subst heq
    obtain ⟨hdenied, hdenied'⟩ := hodd hid
    rw [Filter.Holds, hgraph, Except.ok.injEq] at hdenied
    rw [Filter.Holds, hother, Except.ok.injEq] at hdenied'
    rw [hgraph, hother]
    simp [hdenied, hdenied']
  · rw [hgraph, hother, hdiscreet.meaning id heq]

omit [PropertyTable] in
theorem paged_over (h : Graph.Variant odd graph other) {level : Level}
    (hreads : ∀ key ∈ level.options.order.keys, key.path.Reads (Graph.Shares odd graph other)) {passing : List String}
    (hodd : odd ∉ passing) : level.paged other passing = level.paged graph passing := by
  have hne : ∀ id ∈ passing, id ≠ odd := fun id hid heq => hodd (heq ▸ hid)
  unfold paged
  have hbeyond : (passing.filter fun id => level.options.beyond other id = some true) =
      passing.filter fun id => level.options.beyond graph id = some true :=
    List.filter_congr fun id hid => by rw [Options.beyond_eq h hreads (hne id hid)]
  rw [hbeyond]
  refine congrArg _ (List.map_congr_left fun id hid => ?_)
  rw [Order.keyed, Order.keyed, Order.values_eq hreads h (hne id (List.mem_filter.mp hid).1)]

/-- Branches find the same for a node when their levels find the same among its neighbours. -/
theorem findBranches_eq (h : Graph.Variant odd graph other) {id : String} {labels : List String} :
    ∀ {branches : List Branch}, (∀ branch ∈ branches, ∀ candidates,
      (∀ id ∈ candidates, graph.hasLabel id branch.sub.query.entityType = true) →
        branch.sub.query.find other candidates = branch.sub.query.find graph candidates) →
      findBranches other id labels branches = findBranches graph id labels branches
  | [], _ => rfl
  | branch :: rest, hfind => by
    obtain ⟨hfirst, hrest⟩ := List.forall_mem_cons.mp hfind
    rw [findBranches, findBranches, h.neighbours_eq, findBranches_eq h hrest,
      hfirst _ fun id hid => (Graph.mem_neighbours.mp hid).2]

/-- The condition of a level does not tell the graphs apart, and the odd node does not satisfy it on either. -/
theorem condition_over (hplanner : planner.permission = some permission)
    (hrules : planner.access.ParametersOnly planner.schema) (h : Graph.Variant odd graph other)
    (hdenies : planner.access.Denies planner.schema permission graph odd)
    (hdenies' : planner.access.Denies planner.schema permission other odd) {entity : EntityType} {level : Level}
    (hheads : planner.Heads entity level) (hentity : planner.schema.entity entity.name = .ok entity)
    (hown : level.options.Overlooks (Graph.Shares odd graph other)) :
    level.condition.Discreet odd graph other ∧
      (graph.hasLabel odd level.entityType = true →
        ¬ level.condition.Holds graph odd ∧ ¬ level.condition.Holds other odd) := by
  obtain ⟨authorization, hauthorization, hcondition⟩ := hheads.condition
  have hfilter : planner.access.filter planner.schema entity permission = .ok authorization := by
    rwa [Planner.authorization, hplanner] at hauthorization
  rw [hcondition]
  constructor
  · exact Filter.discreet_conjoin (List.forall_mem_cons.mpr
      ⟨Filter.discreet_of_reads h hown.filter hown.patterns, List.forall_mem_singleton.mpr
        (Access.discreet_filter h hrules hdenies hdenies' hentity hfilter)⟩)
  · intro hlabel
    rw [hheads.entityType] at hlabel
    have hmember : authorization ∈ [level.options.filter, authorization] := by simp
    exact ⟨fun hholds => hdenies _ _ _ hlabel hentity hfilter (Filter.holds_of_conjoin hholds _ hmember),
      fun hholds => hdenies' _ _ _ (h.hasLabel_eq.trans hlabel) hentity hfilter
        (Filter.holds_of_conjoin hholds _ hmember)⟩

theorem find_over (hplanner : planner.permission = some permission) (hnamed : planner.schema.Named)
    (hrules : planner.access.ParametersOnly planner.schema) (h : Graph.Variant odd graph other)
    (hdenies : planner.access.Denies planner.schema permission graph odd)
    (hdenies' : planner.access.Denies planner.schema permission other odd) {entity : EntityType} {level : Level}
    (hmakes : planner.Makes entity level) : planner.schema.entity entity.name = .ok entity →
      (∀ part ∈ level.levels, part.options.Overlooks (Graph.Shares odd graph other)) →
      ∀ candidates, (∀ id ∈ candidates, graph.hasLabel id level.entityType = true) →
        level.find other candidates = level.find graph candidates := by
  induction hmakes with
  | @mk entity level hheads _ htargets _ ih =>
    intro hentity hoverlooks candidates hcandidates
    rw [levels_eq] at hoverlooks
    obtain ⟨hown, hbelow⟩ := List.forall_mem_cons.mp hoverlooks
    obtain ⟨hdiscreet, hdenied⟩ := condition_over hplanner hrules h hdenies hdenies' hheads hentity hown
    have hodd : odd ∈ candidates → ¬ level.condition.Holds graph odd ∧ ¬ level.condition.Holds other odd :=
      fun hmem => hdenied (hcandidates odd hmem)
    rw [find_eq, find_eq, passing_over hdiscreet hodd]
    cases hpassing : level.passing graph candidates with
    | error e => rw [Result.error_bind, Result.error_bind]
    | ok passing =>
      have hnot : odd ∉ passing := fun hmem => by
        exact (hodd ((passing_sublist hpassing).subset hmem)).1 (holds_of_passing hpassing odd hmem)
      simp only [Result.ok_bind]
      rw [paged_over h hown.order hnot]
      have hrows : (level.paged graph passing).mapM (level.findRow other) =
          (level.paged graph passing).mapM (level.findRow graph) := by
        refine Result.mapM_congr fun keyed hkeyed => ?_
        have hne : keyed.1 ≠ odd := fun heq => hnot (heq ▸ mem_of_paged hkeyed)
        rw [findRow, findRow, h.node_eq hne]
        refine bind_congr fun node => ?_
        rw [findBranches_eq h fun branch hbranch => ?_]
        obtain ⟨target, htarget⟩ := htargets branch hbranch
        refine ih branch hbranch target htarget (Schema.entity_eq_ok.mpr (hnamed.stands htarget)) fun part hpart => ?_
        exact hbelow part (List.mem_flatMap.mpr ⟨branch, hbranch, hpart⟩)
      rw [hrows]

end Variants

end Level

/-- A plan that starts from no node finds the same. -/
theorem Plan.find_over {planner : Planner} {permission : Permission} {odd : String} {graph other : Graph}
    {entityType : String} {field : Field} {plan : Plan} (hplanner : planner.permission = some permission)
    (hnamed : planner.schema.Named) (hrules : planner.access.ParametersOnly planner.schema) (hg : graph.WellFormed)
    (h : Graph.Variant odd graph other) (hdenies : planner.access.Denies planner.schema permission graph odd)
    (hdenies' : planner.access.Denies planner.schema permission other odd)
    (hplan : planner.connection entityType field = .ok plan)
    (hoverlooks : ∀ level ∈ plan.root.levels, level.options.Overlooks (Graph.Shares odd graph other)) :
    plan.find other = plan.find graph := by
  obtain ⟨entity, options, root, hentity, hoptions, hroot, rfl⟩ := Planner.connection_eq_ok hplan
  have hmakes := (Planner.makes (Field.exclusive_of_options hoptions) hroot).1
  have hstands := Schema.entity_eq_ok.mpr (hnamed.stands hentity)
  show root.find other (other.labelled root.entityType) = root.find graph (graph.labelled root.entityType)
  rw [h.labelled_eq]
  exact Level.find_over hplanner hnamed hrules h hdenies hdenies' hmakes hstands hoverlooks _
    fun id hid => Graph.hasLabel_of_mem_labelled hg hid

end

/-! ## Connections -/

namespace Session

/-- A session whose store is over another graph. -/
def onGraph (session : Session) (graph : Graph) : Session := { session with store := { session.store with graph } }

/-- What a run ends with, with the store over another graph. -/
def endsOver {α : Type} (graph : Graph) : EStateM.Result Error Session α → EStateM.Result Error Session α
  | .ok a session => .ok a (session.onGraph graph)
  | .error e session => .error e (session.onGraph graph)

theorem assembling_over {α : Type} {request : Nat} {assembly : Assembly α} {session : Session} {graph : Graph} :
    Session.assembling request assembly (session.onGraph graph) =
      endsOver graph (Session.assembling request assembly session) := by
  have hcache : (session.onGraph graph).cache request = session.cache request := rfl
  unfold Session.assembling
  rw [hcache]
  cases assembly (session.cache request) <;> rfl

end Session

namespace Engine

variable {engine : Engine} {request : Nat} {session : Session} {entityType : String} {field : Field}

/-- What a denied node stores decides nothing about a connection that does not read it: from a session over either of
two graphs that differ there the connection gives the same page or fails with the same error, and leaves the same
session behind. -/
theorem connection_over [PropertyTable] {decls : List EntityDecl} {permission : Permission} {odd : String}
    {other : Graph} (hbuild : Schema.build decls = .ok engine.schema)
    (hrules : engine.access.ParametersOnly engine.schema) (hg : session.store.graph.Built) (hother : other.Built)
    (h : Graph.Variant odd session.store.graph other) (hdenies : engine.access.Denies engine.schema permission
    session.store.graph odd) (hdenies' : engine.access.Denies engine.schema permission other odd)
    (hpermission : session.permission request = some permission)
    (hoverlooks : ∀ plan, (engine.planner (some permission)).connection entityType field = .ok plan →
      ∀ level ∈ plan.root.levels, level.options.Overlooks (Graph.Shares odd session.store.graph other)) :
    engine.connection request entityType field (session.onGraph other) =
      Session.endsOver other (engine.connection request entityType field session) := by
  have hnamed : engine.schema.Named := Schema.named_of_build hbuild
  have hpermission' : (session.onGraph other).permission request = some permission := hpermission
  rw [connection_eq, connection_eq, hpermission, hpermission']
  cases hplan : (engine.planner (some permission)).connection entityType field with
  | error e => rfl
  | ok plan =>
    have hplanner : (engine.planner (some permission)).permission = some permission := rfl
    have hfind := Plan.find_over hplanner hnamed hrules hg.wellFormed h hdenies hdenies' hplan (hoverlooks plan hplan)
    dsimp only
    rw [executePage_eq (.connection hplan) rfl hnamed hg.wellFormed,
      executePage_eq (.connection hplan) rfl hnamed hother.wellFormed]
    have houtage : (session.onGraph other).store.outage = session.store.outage := rfl
    have hgraph : (session.onGraph other).store.graph = other := rfl
    have hcounted : (session.onGraph other).counted = session.counted.onGraph other := rfl
    rw [houtage, hgraph, hcounted, hfind]
    cases plan.compile engine.schema with
    | error e => rfl
    | ok statement =>
      cases session.store.outage with
      | some message => rfl
      | none =>
        cases plan.find session.store.graph with
        | error e => rfl
        | ok found => exact Session.assembling_over

/-! ### Children that only their owner may read -/

def childOf : RelationshipDef := ⟨"child", "Parent", "Child", "CHILD", .outgoing, .one, none⟩

/-- Everyone may read parents, but a child only who owns it. -/
def familyDecls : List EntityDecl :=
  [.declare "Child" false [⟨"secret", .string, false⟩] [] []
      [⟨"read", [⟨"matchesParameter", [("parameter", "owner")]⟩], [], [], false⟩],
    .declare "Parent" false [] [childOf] [] [⟨"read", [], [], [], true⟩]]

def familyChild : EntityType :=
  ⟨"Child", false, [⟨"id", .id, false⟩, ⟨"secret", .string, false⟩], [], [],
    [("read", ⟨[⟨"matchesParameter", [("parameter", "owner")]⟩], [], [], false⟩)]⟩

def familyParent : EntityType :=
  ⟨"Parent", false, [⟨"id", .id, false⟩], [childOf], [], [("read", ⟨[], [], [], true⟩)]⟩

def familyEngine : Engine where
  schema := ⟨[("Child", familyChild), ("Parent", familyParent)]⟩
  access := ⟨.builtin, Access.defaultMaxHops⟩
  budget := .default

def familyNodes (secret : String) : Graph :=
  (((Graph.empty.addNode "c" ["Child"] [("secret", .string secret)]).addNode "d" ["Child"]
    [("secret", .string "m")]).addNode "p" ["Parent"] []).addNode "q" ["Parent"] []

/-- Two parents with a child each, of which the first has the given secret. -/
def familyGraph (secret : String) : Graph :=
  { familyNodes secret with edges := [⟨"p", "CHILD", "c"⟩, ⟨"q", "CHILD", "d"⟩] }

/-- The permission of somebody who owns no child. -/
def stranger : Permission := ⟨"read", [("owner", .string "p")]⟩

def familySession (secret : String) : Session := ⟨⟨familyGraph secret, 0, none⟩, [⟨some stranger, .empty 0⟩]⟩

theorem family_built (secret : String) : (familyGraph secret).Built := by
  have hnodes : (familyNodes secret).Built :=
    (((Graph.Built.empty.addNode _ _ _).addNode _ _ _).addNode _ _ _).addNode _ _ _
  have hfirst : Graph.Built { familyNodes secret with edges := [⟨"p", "CHILD", "c"⟩] } :=
    hnodes.addEdge (show (familyNodes secret).addEdge "p" "CHILD" "c" = .ok _ from rfl)
  exact hfirst.addEdge (show Graph.addEdge _ "q" "CHILD" "d" = .ok (familyGraph secret) from rfl)

theorem family_variant (secret other : String) : Graph.Variant "c" (familyGraph secret) (familyGraph other) where
  outline := rfl
  edges := rfl
  rest id hne := by
    show List.lookup id (("c", _) :: _) = List.lookup id (("c", _) :: _)
    rw [List.lookup_cons, List.lookup_cons, beq_false_of_ne hne]

theorem family_rules : familyEngine.access.ParametersOnly familyEngine.schema := by
  intro name entity hentity permission authorization hauthorization rule hrule
  have hentity := Table.mem_of_lookup (Schema.entity_eq_ok.mp hentity)
  have hauthorization := Table.mem_of_lookup hauthorization
  rw [familyEngine, List.mem_cons, List.mem_singleton] at hentity
  rcases hentity with heq | heq <;> cases heq <;> cases List.mem_singleton.mp hauthorization
  · cases List.mem_singleton.mp hrule
    rfl
  · cases hrule

/-- A stranger may not read the first child, whatever its secret. -/
theorem family_denies (secret : String) :
    familyEngine.access.Denies familyEngine.schema stranger (familyGraph secret) "c" := by
  intro label entity filter hlabel hentity hfilter hholds
  have hmem := Table.mem_of_lookup (Schema.entity_eq_ok.mp hentity)
  rw [familyEngine, List.mem_cons, List.mem_singleton] at hmem
  rcases hmem with heq | heq <;> cases heq
  · have hverdict : filter.verdict (familyGraph secret) "c" = .ok (some false) := by
      cases hfilter
      have hvalue : (familyGraph secret).value "c" "id" = .string "c" :=
        Graph.value_id (family_built secret).wellFormed rfl
      show Filter.verdict _ (.disj [.property "id" (.ofParameter (.string "p"))]) "c" = _
      rw [Filter.verdict, if_neg (by decide), Filter.verdictOfAny, Filter.verdictOfAny, Filter.verdict, hvalue]
      rfl
    cases hverdict.symm.trans hholds
  · cases hlabel

/-- Asks for the parents whose child has a value of a property. -/
def ofChild (name value : String) : Field :=
  ⟨"parents", none, [("filter", .object [("child", .object [(name, .object [("eq", .string value)])])])], none, []⟩

def ofChildOptions (name value : String) : Options :=
  { Options.default with filter := .related childOf .any (.property name (.eq (.string value))) }

/-- Asks for the parents in the order of the secrets of their children. -/
def bySecret : Field := ⟨"parents", none, [("orderBy", .object [("field", .string "child.secret")])], none, []⟩

def bySecretOptions : Options := { Options.default with order := .ofKeys [.ofRelated childOf "secret" .ascending] }

/-- The plan of a request for parents alone. -/
def parentsPlan (options : Options) : Plan := ⟨⟨"Parent", options, options.filter, none, .many, []⟩, none⟩

theorem parse_ofChild {name : String} (value : String) (h : name = "id" ∨ name = "secret") :
    Filter.parse familyEngine.schema familyParent
        (.object [("child", .object [(name, .object [("eq", .string value)])])]) =
      .ok (.related childOf .any (.property name (.eq (.string value)))) := by
  have hvalue : Filter.parse familyEngine.schema familyChild (.object [(name, .object [("eq", .string value)])]) =
      .ok (.property name (.eq (.string value))) := by
    rcases h with rfl | rfl <;> exact Filter.parse_property (by simp [Filter.reserved]) rfl rfl rfl
  exact Filter.parse_single (by simp [Filter.reserved]) rfl rfl rfl rfl rfl hvalue

theorem plan_ofChild {name : String} (value : String) (h : name = "id" ∨ name = "secret") :
    (familyEngine.planner (some stranger)).connection "Parent" (ofChild name value) =
      .ok (parentsPlan (ofChildOptions name value)) := by
  have hread : (ofChild name value).readArgument "filter" (Filter.parse familyEngine.schema familyParent) =
      .ok (some (.related childOf .any (.property name (.eq (.string value))))) :=
    congrArg (some <$> ·) (parse_ofChild value h)
  have hentity : (familyEngine.planner (some stranger)).schema.entity "Parent" = .ok familyParent := rfl
  have hoptions : (ofChild name value).options (familyEngine.planner (some stranger)).schema familyParent
      (ofChild name value).wantsTotal = .ok (ofChildOptions name value) :=
    Field.options_eq_ok.mpr ⟨_, none, none, none, none, none, hread, rfl, rfl, rfl, rfl, rfl, rfl⟩
  rw [Planner.connection, hentity, Result.ok_bind, hoptions, Result.ok_bind]
  rfl

theorem plan_bySecret :
    (familyEngine.planner (some stranger)).connection "Parent" bySecret = .ok (parentsPlan bySecretOptions) := by
  have hentity : (familyEngine.planner (some stranger)).schema.entity "Parent" = .ok familyParent := rfl
  have hread : bySecret.readArgument "orderBy" (Order.parse familyEngine.schema familyParent) =
      .ok (some (.ofKeys [.ofRelated childOf "secret" .ascending])) := rfl
  have hoptions : bySecret.options (familyEngine.planner (some stranger)).schema familyParent bySecret.wantsTotal =
      .ok bySecretOptions :=
    Field.options_eq_ok.mpr ⟨none, _, none, none, none, none, rfl, hread, rfl, rfl, rfl, rfl, rfl⟩
  rw [Planner.connection, hentity, Result.ok_bind, hoptions, Result.ok_bind]
  rfl

/-- The nodes on the page that a run ends with, if it ends with a page. -/
def shownIds : EStateM.Result Error Session (Page Node) → Option (List String)
  | .ok page _ => some page.ids
  | .error _ _ => none

theorem connection_family {options : Options} {field : Field} (secret : String)
    (hplan : (familyEngine.planner (some stranger)).connection "Parent" field = .ok (parentsPlan options)) :
    familyEngine.connection 0 "Parent" field (familySession secret) =
      familyEngine.execute 0 (parentsPlan options) Level.assemblePage (familySession secret) := by
  have hpermission : (familySession secret).permission 0 = some stranger := rfl
  rw [connection_eq, hpermission, hplan]

/-- Who asks for the parent of a child by its identifier learns nothing of its secret. -/
theorem connection_over_family : ∃ page after,
    familyEngine.connection 0 "Parent" (ofChild "id" "c") (familySession "a") = .ok page after ∧ page.ids = ["p"] ∧
      familyEngine.connection 0 "Parent" (ofChild "id" "c") (familySession "z") =
        .ok page (after.onGraph (familyGraph "z")) := by
  have hoverlooks : ∀ plan, (familyEngine.planner (some stranger)).connection "Parent" (ofChild "id" "c") = .ok plan →
      ∀ level ∈ plan.root.levels,
        level.options.Overlooks (Graph.Shares "c" (familySession "a").store.graph (familyGraph "z")) := by
    intro plan hplan level hlevel
    cases (plan_ofChild "c" (.inl rfl)).symm.trans hplan
    rw [Level.levels_eq] at hlevel
    cases List.mem_singleton.mp hlevel
    refine ⟨fun _ => rfl, nofun, fun key hkey => ?_⟩
    cases List.mem_singleton.mp hkey
    trivial
  have hsame : familyEngine.connection 0 "Parent" (ofChild "id" "c") ((familySession "a").onGraph (familyGraph "z")) =
      Session.endsOver (familyGraph "z") (familyEngine.connection 0 "Parent" (ofChild "id" "c") (familySession "a")) :=
    connection_over (show Schema.build familyDecls = _ from rfl) family_rules (family_built "a") (family_built "z")
      (family_variant "a" "z") (family_denies "a") (family_denies "z") rfl hoverlooks
  have hover : (familySession "a").onGraph (familyGraph "z") = familySession "z" := rfl
  rw [hover] at hsame
  have hshown : shownIds (familyEngine.connection 0 "Parent" (ofChild "id" "c") (familySession "a")) = some ["p"] := by
    rw [connection_family "a" (plan_ofChild "c" (.inl rfl))]
    decide +kernel
  cases hrun : familyEngine.connection 0 "Parent" (ofChild "id" "c") (familySession "a") with
  | error e after =>
    rw [hrun] at hshown
    cases hshown
  | ok page after =>
    rw [hrun] at hshown hsame
    exact ⟨page, after, rfl, Option.some.inj hshown, hsame⟩

/-- Who asks for the parents of a child with a secret learns whether it has the secret, and the order of parents by the
secrets of their children tells which is smaller. -/
theorem secret_told :
    Schema.build familyDecls = .ok familyEngine.schema ∧ familyEngine.access.ParametersOnly familyEngine.schema ∧
      (∀ secret, (familyGraph secret).Built ∧
        familyEngine.access.Denies familyEngine.schema stranger (familyGraph secret) "c") ∧
      Graph.Variant "c" (familyGraph "a") (familyGraph "z") ∧
      shownIds (familyEngine.connection 0 "Parent" (ofChild "secret" "a") (familySession "a")) = some ["p"] ∧
      shownIds (familyEngine.connection 0 "Parent" (ofChild "secret" "a") (familySession "z")) = some [] ∧
      shownIds (familyEngine.connection 0 "Parent" bySecret (familySession "a")) = some ["p", "q"] ∧
      shownIds (familyEngine.connection 0 "Parent" bySecret (familySession "z")) = some ["q", "p"] := by
  have hfilter := plan_ofChild "a" (.inr rfl)
  refine ⟨rfl, family_rules, fun secret => ⟨family_built secret, family_denies secret⟩, family_variant "a" "z", ?_⟩
  rw [connection_family "a" hfilter, connection_family "z" hfilter, connection_family "a" plan_bySecret,
    connection_family "z" plan_bySecret]
  exact ⟨by decide +kernel, by decide +kernel, by decide +kernel, by decide +kernel⟩

end Engine

end GraphQuery
