import GraphQuery.Pattern.KnownProperty
import GraphQuery.Proofs.Filter.Matches
import GraphQuery.Proofs.Graph.Inserted

/-!
# Filters on present data

A test of a property has a truth on every value that the property accepts, other than null
(`PropertyTest.meaning_ne_none`), because its operands are accepted by the same property. Nodes with the label of a type
may have been inserted with a type below it, so this carries over to stored nodes where types agree on the properties
that they share (`Schema.Agrees`). Then a filter is unknown on a node only where a property that it asks for is absent
or null, and otherwise the node matches either the filter or its negation (`Filter.matches_neg_of_present`).
-/

namespace GraphQuery

/-! ## Values of one type -/

section Values

variable {type : PropertyType} {value other : Value}

/-- Values that one property accepts have an order between them. -/
theorem PropertyType.comparable_of_accepts (hvalue : type.accepts value = true) (hother : type.accepts other = true)
    (hpresent : value ≠ .null) (hgiven : other ≠ .null) : value.comparable other = true := by
  cases type <;> cases value <;> cases hvalue <;> cases other <;> cases hother <;>
    first | rfl | exact absurd rfl hpresent | exact absurd rfl hgiven

/-- A property that accepts a text accepts nothing else, but null. -/
theorem PropertyType.exists_text_of_accepts {word : String} (hword : type.accepts (.string word) = true)
    (hvalue : type.accepts value = true) (hpresent : value ≠ .null) : ∃ text, value = .string text := by
  cases type <;> cases hword <;> cases value <;> cases hvalue <;> first | exact ⟨_, rfl⟩ | exact absurd rfl hpresent

end Values

namespace Truth

variable {truths : List (Option Bool)}

theorem all_ne_none (h : none ∉ truths) : all truths ≠ none := by
  rw [all, if_neg h]
  split <;> exact nofun

theorem any_ne_none (h : none ∉ truths) : any truths ≠ none := by
  rw [any, if_neg h]
  split <;> exact nofun

end Truth

namespace PropertyTest

variable {type : PropertyType} {value : Value}

/-- A test has a truth on every value that is comparable with its operands. -/
theorem meaning_ne_none [PropertyTable] (hvalue : type.accepts value = true) (hpresent : value ≠ .null) : ∀
    {test : PropertyTest}, (∀ other ∈ test.operands, type.accepts other = true ∧ other ≠ .null) → test.meaning value ≠
    none := by
  have hequality : ∀ {other : Value}, other ≠ .null → value.equality other ≠ none := by
    intro other hother
    simp [Value.equality, hpresent, hother]
  have hwithin : ∀ {other : Value} {inRange : Ordering → Bool}, type.accepts other = true ∧ other ≠ .null →
      value.within other inRange ≠ none := by
    rintro other inRange ⟨haccepts, hother⟩
    simp [Value.within, hpresent, PropertyType.comparable_of_accepts hvalue haccepts hpresent hother]
  have htextually : ∀ {word : String} {holds : String → Bool}, type.accepts (.string word) = true →
      value.textually holds ≠ none := by
    intro word holds hword
    obtain ⟨text, rfl⟩ := PropertyType.exists_text_of_accepts hword hvalue hpresent
    exact nofun
  rintro (other | values | other | other | other | other | word | word | word | word | expected) hoperands
  case eq => exact hequality (hoperands other List.mem_cons_self).2
  case oneOf =>
    refine Truth.any_ne_none fun hnone => ?_
    obtain ⟨other, hmem, hother⟩ := List.mem_map.mp hnone
    exact hequality (hoperands other hmem).2 hother
  case isNull => exact nofun
  case startsWith | endsWith | contains | matching => exact htextually (hoperands _ List.mem_cons_self).1
  all_goals
    rw [meaning]
    exact hwithin (hoperands other List.mem_cons_self)

end PropertyTest

/-- Whether a type and the types above it give a property that they share the same type. -/
def Schema.Agrees (schema : Schema) : Prop :=
  ∀ {lower upper : String} {entity above : EntityType}, schema.entity? lower = some entity →
    schema.entity? upper = some above → entity.isSubtypeOf upper = true → ∀ {name : String} {own shared : PropertyDef},
      entity.property? name = some own → above.property? name = some shared → own.type = shared.type

/-- Types agree when the type of a property depends on its name only. -/
theorem Schema.Agrees.of_types {schema : Schema} (typeOf : String → PropertyType)
    (h : ∀ entry ∈ schema.entities, ∀ property ∈ entry.2.properties, property.type = typeOf property.name) :
    schema.Agrees := by
  have htype : ∀ {lower : String} {entity : EntityType}, schema.entity? lower = some entity → ∀ {name : String}
      {property : PropertyDef}, entity.property? name = some property → property.type = typeOf name := by
    intro lower entity hentity name property hproperty
    rw [← EntityType.property?_name hproperty]
    exact h _ (Table.mem_of_lookup hentity) property (List.mem_of_find?_eq_some hproperty)
  intro lower upper entity above hentity habove _ name own shared hown hshared
  rw [htype hentity hown, htype habove hshared]

namespace Filter

/-! ## Questions -/

/-- Whether a filter for the nodes of a type asks the nodes of some type for a property. -/
inductive Asks (schema : Schema) : EntityType → Filter → (level : EntityType) → (name : String) → PropertyTest → Prop
  | property {entity : EntityType} {name : String} {test : PropertyTest} :
      Asks schema entity (.property name test) entity name test
  | conj {entity level : EntityType} {members : List Filter} {member : Filter} {name : String} {test : PropertyTest} :
      member ∈ members → Asks schema entity member level name test → Asks schema entity (.conj members) level name test
  | disj {entity level : EntityType} {members : List Filter} {member : Filter} {name : String} {test : PropertyTest} :
      member ∈ members → Asks schema entity member level name test → Asks schema entity (.disj members) level name test
  | neg {entity level : EntityType} {filter : Filter} {name : String} {test : PropertyTest} :
      Asks schema entity filter level name test → Asks schema entity (.neg filter) level name test
  | related {entity target level : EntityType} {r : RelationshipDef} {quantifier : Quantifier} {filter : Filter}
      {name : String} {test : PropertyTest} : schema.entity? r.target = some target →
      Asks schema target filter level name test → Asks schema entity (.related r quantifier filter) level name test

section Questions

variable {schema : Schema} {entity level : EntityType} {filter : Filter} {name : String} {test : PropertyTest}

theorem Asks.mem_tests (h : Asks schema entity filter level name test) : test ∈ filter.tests := by
  induction h with
  | property => rw [tests]; exact List.mem_cons_self
  | conj hmem _ ih => rw [tests]; exact mem_testsOfAll.mpr ⟨_, hmem, ih⟩
  | disj hmem _ ih => rw [tests]; exact mem_testsOfAll.mpr ⟨_, hmem, ih⟩
  | neg _ ih => rwa [tests]
  | related _ _ ih => rwa [tests]

/-- The types whose nodes are asked are types of the schema. -/
theorem Asks.declared (hnamed : schema.Named) (h : Asks schema entity filter level name test)
    (hentity : schema.entity? entity.name = some entity) : schema.entity? level.name = some level := by
  induction h with
  | property => exact hentity
  | conj _ _ ih | disj _ _ ih | neg _ ih => exact ih hentity
  | related htarget _ ih => exact ih (hnamed.stands (Schema.entity_eq_ok.mpr htarget))

/-- A filter that fits a type asks for properties that the nodes may have, with operands that the properties accept. -/
theorem Asks.accepts (h : Asks schema entity filter level name test) (hfits : Fits schema entity filter) :
    ∃ property, level.property? name = some property ∧ ∀ value ∈ test.operands, property.type.accepts value = true := by
  induction h with
  | property =>
    cases hfits with
    | property hproperty haccepts => exact ⟨_, hproperty, haccepts⟩
  | conj hmem _ ih =>
    cases hfits with
    | conj hmembers => exact ih (hmembers _ hmem)
  | disj hmem _ ih =>
    cases hfits with
    | disj _ hmembers => exact ih (hmembers _ hmem)
  | neg _ ih =>
    cases hfits with
    | neg hinner => exact ih hinner
  | related htarget _ ih =>
    cases hfits with
    | related _ htarget' hinner =>
      cases htarget.symm.trans htarget'
      exact ih hinner

variable {graph : Graph} {id : String}

variable [PropertyTable]

mutual

/-- A filter has a truth where its tests of the node itself have one. -/
theorem meaning_ne_none : ∀ {filter : Filter}, (∀ name test, Asks schema entity filter entity name test →
    test.meaning (graph.value id name) ≠ none) → filter.meaning graph id ≠ none
  | .conj members, h => by
    rw [meaning]
    exact Truth.all_ne_none (none_notMem_meanings fun member hmem name test hasks => h name test (.conj hmem hasks))
  | .disj members, h => by
    rw [meaning]
    exact Truth.any_ne_none (none_notMem_meanings fun member hmem name test hasks => h name test (.disj hmem hasks))
  | .neg filter, h => by
    have hinner : filter.meaning graph id ≠ none := meaning_ne_none fun name test hasks => h name test (.neg hasks)
    rw [meaning]
    simpa using hinner
  | .property name test, h => by
    rw [meaning]
    exact h name test .property
  | .related r quantifier filter, _ => by
    cases quantifier <;> rw [meaning] <;> exact nofun

theorem none_notMem_meanings : ∀ {filters : List Filter}, (∀ filter ∈ filters, ∀ name test,
    Asks schema entity filter entity name test → test.meaning (graph.value id name) ≠ none) →
      none ∉ meanings graph filters id
  | [], _ => by
    rw [meanings]
    exact List.not_mem_nil
  | filter :: rest, h => by
    obtain ⟨hfirst, hrest⟩ := List.forall_mem_cons.mp h
    rw [meanings, List.mem_cons, not_or]
    exact ⟨(meaning_ne_none hfirst).symm, none_notMem_meanings hrest⟩

end

end Questions

/-! ## Stored nodes -/

section Stored

variable {decls : List EntityDecl} {schema : Schema} {entity level : EntityType} {filter : Filter} {raw : Json}
  {graph : Graph} {id name : String} {test : PropertyTest}

variable [PropertyTable]

/-- A test that a filter makes of the nodes of a type has a truth on all of them that have the property. -/
theorem Asks.meaning_ne_none (hmade : ∀ decl ∈ decls, decl.Made) (hschema : Schema.build decls = .ok schema)
    (hagrees : schema.Agrees) (hentity : schema.entity? entity.name = some entity)
    (hread : parse schema entity raw = .ok filter) (hgraph : graph.Inserted schema)
    (hasks : Asks schema entity filter level name test) (hlabel : graph.hasLabel id level.name = true)
    (hpresent : graph.value id name ≠ .null) : test.meaning (graph.value id name) ≠ none := by
  obtain ⟨table, htable, hflattens⟩ := Schema.gather_of_build hschema
  have hwell := hflattens.wellFormed htable
  obtain ⟨node, hnode⟩ := (Graph.stored_of_hasLabel hlabel).node
  obtain ⟨inserted, hinserted, hconforms⟩ :=
    hgraph.conforms hwell.named (fun _ _ hentity => hwell.identifier hmade hentity) hnode
  have hbelow : inserted.isSubtypeOf level.name = true := by
    rw [Graph.hasLabel, hnode] at hlabel
    exact hconforms.isSubtypeOf (List.contains_iff_mem.mp hlabel)
  obtain ⟨own, hown, hvalue⟩ := hconforms.accepts hnode hpresent
  obtain ⟨shared, hshared, hoperands⟩ := hasks.accepts (fits_of_parse hschema hentity hread)
  have htype : own.type = shared.type :=
    hagrees hinserted (hasks.declared hwell.named hentity) hbelow hown hshared
  have hsound := sound_of_parse hread test hasks.mem_tests
  exact PropertyTest.meaning_ne_none hvalue hpresent fun other hother =>
    ⟨htype ▸ hoperands other hother, hsound.present other hother⟩

/-- A client's filter whose patterns compile, on a graph of inserted nodes, where types agree on the properties that
they share: a test in it is unknown on a node only if the node does not have the property or has it as null. So a node
that has all the properties, like all those it is related to, matches either the filter or its negation. -/
theorem matches_neg_of_present (hmade : ∀ decl ∈ decls, decl.Made) (hschema : Schema.build decls = .ok schema)
    (hagrees : schema.Agrees) (hentity : schema.entity? entity.name = some entity)
    (hread : parse schema entity raw = .ok filter)
    (hpatterns : ∀ pattern ∈ filter.patterns, Automaton.Anchorable pattern) (hgraph : graph.Inserted schema) :
    parse schema entity (.object [("not", raw)]) = .ok (neg filter) ∧
    (∀ level name test, Asks schema entity filter level name test → ∀ id, graph.hasLabel id level.name = true →
      ∀ site, ∃ truth, (property name test).truthAt graph site id = .ok truth ∧
        (truth = none → graph.value id name = .null)) ∧
    ((∀ level name test, Asks schema entity filter level name test → ∀ id, graph.hasLabel id level.name = true →
        graph.value id name ≠ .null) →
      ∀ id, graph.hasLabel id entity.name = true → ((neg filter).Matches graph id ↔ ¬ filter.Matches graph id)) := by
  refine ⟨parse_not hread, fun level name test hasks id hlabel site => ?_, fun hpresent id hlabel => ?_⟩
  · have htest : ∀ pattern ∈ (property name test).patterns, Automaton.Anchorable pattern := by
      intro pattern hpattern
      rw [patterns] at hpattern
      exact hpatterns pattern (mem_patterns.mpr ⟨test, hasks.mem_tests, hpattern⟩)
    rw [truthAt_eq_verdict (Graph.stored_of_hasLabel hlabel), verdict_eq_meaning htest, meaning]
    refine ⟨_, rfl, fun hunknown => by_contra fun hpresent => ?_⟩
    exact hasks.meaning_ne_none hmade hschema hagrees hentity hread hgraph hlabel hpresent hunknown
  · have hstored := Graph.stored_of_hasLabel hlabel
    have hknown : filter.meaning graph id ≠ none := meaning_ne_none fun name test hasks =>
      hasks.meaning_ne_none hmade hschema hagrees hentity hread hgraph hlabel (hpresent _ _ _ hasks id hlabel)
    rw [matches_neg_iff hstored, matches_iff_holds hstored, Fails, Holds, verdict_eq_meaning hpatterns]
    obtain ⟨truth, htruth⟩ := Option.ne_none_iff_exists'.mp hknown
    rw [htruth]
    cases truth <;> simp

end Stored

/-- The young of an animal. -/
def young : RelationshipDef := ⟨"young", "Animal", "Animal", "BORE", .outgoing, .many, none⟩

/-- Animals have a weight and young, sheep also wool. -/
def herdDecls : List EntityDecl :=
  [.declare "Animal" true [⟨"weight", .float, true⟩] [young] [] [],
    .declare "Sheep" false [⟨"wool", .string, true⟩] [] ["Animal"] []]

/-- The type of the animals of a herd. -/
def livestock : EntityType := ⟨"Animal", true, [⟨"id", .id, false⟩, ⟨"weight", .float, true⟩], [young], [], []⟩

/-- The type of the sheep of a herd. -/
def sheep : EntityType :=
  ⟨"Sheep", false, [⟨"id", .id, false⟩, ⟨"wool", .string, true⟩, ⟨"weight", .float, true⟩], [young], ["Animal"], []⟩

/-- The types of a herd. -/
def herd : Schema := ⟨[("Animal", livestock), ("Sheep", sheep)]⟩

/-- Two sheep whose weights are whole numbers. -/
def flock : Graph :=
  (Graph.empty.addNode "ewe" sheep.labels [("weight", .int 60)]).addNode "lamb" sheep.labels
    [("weight", .int 4), ("wool", .string "white")]

/-- A sheep with a lamb. -/
def herdGraph : Graph := { flock with edges := [⟨"ewe", "BORE", "lamb"⟩] }

/-- Whether some young is heavier than sixty. -/
def heavyYoung : Filter := related young .any (property "weight" (.gt (.float (Binary64.ofInt 60))))

/-- How a client writes it. -/
def heavyYoungRaw : Json := .object [("young", .object [("any", .object [("weight", .object [("gt", .int 60)])])])]

theorem inserted_herdGraph : herdGraph.Inserted herd := by
  have hsheep : herd.entity "Sheep" = .ok sheep := rfl
  have hewe : Graph.Inserted herd (Graph.empty.addNode "ewe" sheep.labels [("weight", .int 60)]) :=
    .insert "ewe" [("weight", .int 60)] .empty hsheep rfl
  have hflock : flock.Inserted herd := hewe.insert "lamb" [("weight", .int 4), ("wool", .string "white")] hsheep rfl
  have hedge : flock.addEdge "ewe" "BORE" "lamb" = .ok herdGraph := rfl
  exact hflock.addEdge hedge

/-- The weights of the ewe and its lamb are known, so the ewe matches either the question or its negation. -/
theorem matches_neg_of_present_herd :
    parse herd livestock (.object [("not", heavyYoungRaw)]) = .ok (neg heavyYoung) ∧
    ((neg heavyYoung).Matches herdGraph "ewe" ↔ ¬ heavyYoung.Matches herdGraph "ewe") := by
  have hmade : ∀ decl ∈ herdDecls, decl.Made := by
    simp only [herdDecls, List.forall_mem_cons]
    exact ⟨⟨_, _, _, _, _, _, rfl⟩, ⟨_, _, _, _, _, _, rfl⟩, List.forall_mem_nil _⟩
  have hagrees : herd.Agrees := Schema.Agrees.of_types
    (fun name => if name = "id" then .id else if name = "weight" then .float else .string) (by decide)
  have hread : parse herd livestock heavyYoungRaw = .ok heavyYoung :=
    parse_quantified (by simp [reserved]) rfl rfl rfl rfl (parse_property (by simp [reserved]) rfl rfl rfl) .any
  have hweights : ∀ entry ∈ herdGraph.nodes, (List.lookup "weight" entry.2.properties).getD .null ≠ .null := by decide
  have hpatterns : ∀ pattern ∈ heavyYoung.patterns, Automaton.Anchorable pattern := List.forall_mem_nil _
  have hschema : Schema.build herdDecls = .ok herd := rfl
  obtain ⟨hnot, _, hdecided⟩ :=
    matches_neg_of_present hmade hschema hagrees rfl hread hpatterns inserted_herdGraph
  refine ⟨hnot, hdecided (fun level name test hasks id hlabel => ?_) "ewe" rfl⟩
  -- the weight is all that is asked for
  have hname : name = "weight" := by
    cases hasks with
    | related _ hinner => cases hinner; rfl
  obtain ⟨node, hnode⟩ := (Graph.stored_of_hasLabel hlabel).node
  rw [hname, Graph.value, hnode]
  exact hweights _ (Table.mem_of_lookup hnode)

end Filter
end GraphQuery
