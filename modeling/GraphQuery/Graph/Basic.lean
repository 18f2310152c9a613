import GraphQuery.Condition.Basic
import GraphQuery.Schema.Basic

/-!
# Labelled property graphs

A `Graph` holds nodes with labels and properties, and labelled edges between them. Nodes are replaced when they are
added again, edges are not.

* `Graph.addNode` takes a node as it is, `Graph.insert` checks it against an entity type first;
* `Graph.neighbours` finds the nodes one edge away, each once and by identifier.
-/

namespace GraphQuery

/-- What is stored of a node. -/
structure StoredNode where
  /-- The labels, sorted. -/
  labels : List String
  properties : Table Value
deriving DecidableEq, Inhabited

/-- A labelled edge. -/
structure Edge where
  source : String
  label : String
  target : String
deriving DecidableEq, Inhabited

/-- A graph. -/
structure Graph where
  /-- The nodes by identifier. -/
  nodes : Table StoredNode
  /-- The edges in the order in which they were added. -/
  edges : List Edge
deriving DecidableEq, Inhabited

namespace Graph

variable (graph : Graph)

/-- No nodes and no edges. -/
def empty : Graph := ⟨[], []⟩

/-- The node of an identifier. -/
def node? (id : String) : Option StoredNode := List.lookup id graph.nodes

/-- The node of an identifier, or the error that there is none. -/
def node (id : String) : Result StoredNode :=
  match graph.node? id with
  | some node => .ok node
  | none => .error (.storeExecution (.noNode id))

/-! ## Changes -/

/-- Adds or replaces a node. Its identifier also becomes a property. -/
def addNode (id : String) (labels : List String) (properties : List (String × Value)) : Graph :=
  { graph with
    nodes := graph.nodes.insert id
      ⟨sortNames labels, (Table.ofList properties).insert idProperty (.string id)⟩ }

/-- Refuses a property that a type does not declare, and a value that does not fit its declaration. -/
def checkProperty (entity : EntityType) (name : String) (value : Value) : Result Unit :=
  match entity.property? name with
  | none => .error (.storeExecution (.unknownProperty name entity.name))
  | some property =>
    if property.type.accepts value && (!value.isNull || property.nullable) then .ok ()
    else .error (.storeExecution (.invalidValue value entity.name name))

/-- Adds or replaces a node of a type, with the labels of the type. -/
def insert (entity : EntityType) (id : String) (properties : List (String × Value)) : Result Graph := do
  properties.forM fun (name, value) => checkProperty entity name value
  return graph.addNode id entity.labels properties

/-- Adds an edge between two nodes. -/
def addEdge (source label target : String) : Result Graph := do
  let _ ← graph.node source
  let _ ← graph.node target
  return { graph with edges := graph.edges ++ [⟨source, label, target⟩] }

/-! ## Neighbours -/

/-- Whether there is a node of an identifier and a label. -/
def hasLabel (id label : String) : Bool :=
  match graph.node? id with
  | some node => node.labels.contains label
  | none => false

/-- The other end of an edge that leaves a node in a direction. -/
def otherEnd? (id : String) (direction : Direction) (edge : Edge) : Option String :=
  match direction with
  | .outgoing => if edge.source = id then some edge.target else none
  | .incoming => if edge.target = id then some edge.source else none

/-- The nodes of a label one edge of a label away, sorted by identifier. -/
def neighbours (id label : String) (direction : Direction) (targetLabel : String) : List String :=
  sortNames (((graph.edges.filter fun edge => edge.label = label).filterMap (otherEnd? id direction)).filter
    fun other => graph.hasLabel other targetLabel)

/-- The nodes one step away, sorted by identifier. -/
def reached (id : String) (step : Step) : List String := graph.neighbours id step.label step.direction step.target

/-- The nodes of a label, sorted by identifier. -/
def labelled (label : String) : List String :=
  (graph.nodes.filter fun (_, node) => node.labels.contains label).map (·.1)

variable {graph}

/-- A neighbour has the label, and is the other end of some edge. -/
theorem mem_neighbours {id label targetLabel other : String} {direction : Direction} :
    other ∈ graph.neighbours id label direction targetLabel ↔
      (∃ edge ∈ graph.edges, edge.label = label ∧ otherEnd? id direction edge = some other) ∧
        graph.hasLabel other targetLabel = true := by
  simp [neighbours, mem_sortNames, and_assoc]

/-- A labelled node is a node with the label. -/
theorem mem_labelled {label id : String} :
    id ∈ graph.labelled label ↔ ∃ node, (id, node) ∈ graph.nodes ∧ label ∈ node.labels := by
  simp [labelled]

end Graph

end GraphQuery
