import GraphQuery.Proofs.Cursor.Seek
import GraphQuery.Proofs.Filter.Meaning
import GraphQuery.Proofs.Graph.Selection

/-!
# Two graphs that differ in one node

`Graph.Variant` relates graphs with the same nodes, labels and edges of which only one node may have other properties. All
that paths through the graphs depend on is the same, and so is every value of the other nodes.

What is read of related nodes may still tell the graphs apart. `Filter.Reads` and `OrderPath.Reads` say of filters and
sort keys that they read of the nodes of each label only properties of some kind; where those are properties that the
graphs share (`Graph.Shares`), filters mean the same on the other nodes (`Filter.meaning_eq`), and the other nodes have
the same sort keys (`Order.values_eq`, `Options.beyond_eq`).
-/

namespace GraphQuery

/-! ## Reading -/

namespace Filter

mutual

/-- Whether a filter reads of its own node only the properties of one kind, and of related nodes with a label only the
properties that may be read of the label. -/
def Reads (readable : (label name : String) → Prop) : (own : String → Prop) → Filter → Prop
  | own, conj members | own, disj members => ReadsAll readable own members
  | own, neg filter => Reads readable own filter
  | own, property name _ => own name
  | _, related relationship _ filter => Reads readable (readable relationship.target) filter

/-- Whether several filters read only what may be read. -/
def ReadsAll (readable : (label name : String) → Prop) : (own : String → Prop) → List Filter → Prop
  | _, [] => True
  | own, filter :: rest => Reads readable own filter ∧ ReadsAll readable own rest

end

end Filter

/-- Whether a sort key reads of related nodes with a label only the properties that may be read of the label. -/
def OrderPath.Reads (readable : (label name : String) → Prop) : OrderPath → Prop
  | property _ => True
  | related relationship name => readable relationship.target name

/-! ## Variants -/

namespace Graph

/-- The nodes with their labels. -/
def outline (graph : Graph) : List (String × List String) := graph.nodes.map fun (id, node) => (id, node.labels)

/-- Whether two graphs differ in properties of one node only. -/
structure Variant (odd : String) (graph other : Graph) : Prop where
  outline : other.outline = graph.outline
  edges : other.edges = graph.edges
  rest : ∀ id, id ≠ odd → other.node? id = graph.node? id

/-- Whether a property of nodes with a label does not tell the graphs apart. -/
def Shares (odd : String) (graph other : Graph) (label name : String) : Prop :=
  graph.hasLabel odd label = true → other.value odd name = graph.value odd name

variable {odd id label name : String} {graph other : Graph}

theorem hasLabel_eq_lookup : graph.hasLabel id label =
    match List.lookup id graph.outline with
    | some labels => labels.contains label
    | none => false := by
  unfold hasLabel outline node?
  rw [Table.lookup_map]
  cases List.lookup id graph.nodes <;> rfl

theorem labelled_eq_outline :
    graph.labelled label = (graph.outline.filter fun (_, labels) => labels.contains label).map (·.1) := by
  rw [labelled, outline, List.filter_map, List.map_map]
  rfl

namespace Variant

theorem hasLabel_eq (h : Variant odd graph other) : other.hasLabel id label = graph.hasLabel id label := by
  rw [hasLabel_eq_lookup, hasLabel_eq_lookup, h.outline]

theorem labelled_eq (h : Variant odd graph other) : other.labelled label = graph.labelled label := by
  rw [labelled_eq_outline, labelled_eq_outline, h.outline]

theorem neighbours_eq (h : Variant odd graph other) {direction : Direction} {target : String} :
    other.neighbours id label direction target = graph.neighbours id label direction target := by
  unfold neighbours
  simp only [h.edges, h.hasLabel_eq]

theorem reached_eq (h : Variant odd graph other) {step : Step} : other.reached id step = graph.reached id step :=
  h.neighbours_eq

theorem value_eq (h : Variant odd graph other) (hne : id ≠ odd) : other.value id name = graph.value id name := by
  unfold value
  rw [h.rest id hne]

theorem node_eq (h : Variant odd graph other) (hne : id ≠ odd) : other.node id = graph.node id := by
  unfold Graph.node
  rw [h.rest id hne]

/-- What may be read of a reached node is the same. -/
theorem value_of_reached (h : Variant odd graph other) {step : Step} {reached : String}
    (hreached : reached ∈ graph.reached id step) (hshares : Shares odd graph other step.target name) :
    other.value reached name = graph.value reached name := by
  by_cases hne : reached = odd
  · subst hne
    exact hshares (mem_neighbours.mp hreached).2
  · exact h.value_eq hne

end Variant
end Graph

/-! ## Filters and sort keys -/

section Reading

variable {odd id : String} {graph other : Graph}

namespace Filter

variable [PropertyTable]

mutual

/-- A filter that reads what the graphs share means the same on both. -/
theorem meaning_eq (h : Graph.Variant odd graph other) : ∀ {filter : Filter} {own : String → Prop} {id : String},
    filter.Reads (Graph.Shares odd graph other) own → (∀ name, own name → other.value id name = graph.value id name) →
      filter.meaning other id = filter.meaning graph id
  | .conj members, own, id, hreads, hown | .disj members, own, id, hreads, hown => by
    rw [Reads] at hreads
    rw [meaning, meaning, meanings_eq h hreads hown]
  | .neg filter, own, id, hreads, hown => by
    rw [Reads] at hreads
    rw [meaning, meaning, meaning_eq h hreads hown]
  | .property name test, own, id, hreads, hown => by
    rw [Reads] at hreads
    rw [meaning, meaning, hown name hreads]
  | .related relationship quantifier filter, own, id, hreads, _ => by
    rw [Reads] at hreads
    have hrelated : ∀ reached ∈ graph.reached id relationship.step,
        filter.meaning other reached = filter.meaning graph reached :=
      fun reached hreached => meaning_eq h hreads fun name hname => h.value_of_reached hreached hname
    cases quantifier with
    | any =>
      rw [meaning, meaning, h.reached_eq]
      exact congrArg some (decide_eq_decide.mpr (exists_congr fun reached => and_congr_right fun hreached => by
        rw [hrelated reached hreached]))
    | none | all =>
      rw [meaning, meaning, h.reached_eq]
      exact congrArg some (decide_eq_decide.mpr (forall₂_congr fun reached hreached => by
        rw [hrelated reached hreached]))

theorem meanings_eq (h : Graph.Variant odd graph other) : ∀ {filters : List Filter} {own : String → Prop} {id : String},
    ReadsAll (Graph.Shares odd graph other) own filters →
      (∀ name, own name → other.value id name = graph.value id name) → meanings other filters id = meanings graph filters id
  | [], _, _, _, _ => rfl
  | filter :: rest, own, id, hreads, hown => by
    rw [ReadsAll] at hreads
    rw [meanings, meanings, meaning_eq h hreads.1 hown, meanings_eq h hreads.2 hown]

end

end Filter

/-- A sort key that reads what the graphs share reads the same of every other node. -/
theorem OrderPath.value_eq (h : Graph.Variant odd graph other) {path : OrderPath}
    (hreads : path.Reads (Graph.Shares odd graph other)) (hne : id ≠ odd) : path.value other id = path.value graph id := by
  cases path with
  | property name => exact h.value_eq hne
  | related relationship name =>
    rw [OrderPath.value, OrderPath.value, h.reached_eq]
    cases hreached : graph.reached id relationship.step with
    | nil => rfl
    | cons first rest =>
      have hfirst : first ∈ graph.reached id relationship.step := hreached ▸ List.mem_cons_self
      exact h.value_of_reached hfirst hreads

variable {order : Order} (hreads : ∀ key ∈ order.keys, key.path.Reads (Graph.Shares odd graph other))

include hreads in
theorem Order.values_eq (h : Graph.Variant odd graph other) (hne : id ≠ odd) :
    order.values other id = order.values graph id :=
  List.map_congr_left fun key hkey => OrderPath.value_eq h (hreads key hkey) hne

include hreads in
/-- A name leads to a path that may be read: that of some key, or a property of the node itself. -/
theorem Order.reads_pathNamed (name : String) : (order.pathNamed name).Reads (Graph.Shares odd graph other) := by
  unfold Order.pathNamed
  cases hfind : order.keys.find? fun key => key.name = name with
  | none => exact trivial
  | some key => exact hreads key (List.mem_of_find?_eq_some hfind)

/-- Every other node lies between the same cursors. -/
theorem Options.beyond_eq {options : Options} (h : Graph.Variant odd graph other)
    (hreads : ∀ key ∈ options.order.keys, key.path.Reads (Graph.Shares odd graph other)) (hne : id ≠ odd) :
    options.beyond other id = options.beyond graph id := by
  unfold Options.beyond
  simp only [OrderPath.value_eq h (Order.reads_pathNamed hreads _) hne]

end Reading

end GraphQuery
