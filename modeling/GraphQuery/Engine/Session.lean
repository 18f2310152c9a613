import GraphQuery.Graph.Run
import GraphQuery.Page.Assemble
import GraphQuery.Request.Permission
import GraphQuery.Statement.Compile

/-!
# Sessions

A `Session` is everything that queries change: the store, which counts the statements it runs, and the open requests.
A request has one permission, and caches of its own for results of relationships.
-/

namespace GraphQuery

variable [PropertyTable]

/-- A store over a graph. -/
structure Store where
  graph : Graph
  /-- The number of statements run. -/
  executed : Nat
  /-- The failure that the next statement meets, if there is one. -/
  outage : Option String
deriving Inhabited

namespace Store

/-- A store over the empty graph. -/
def empty : Store := ⟨.empty, 0, none⟩

/-- Runs a statement. A statement that meets a failure is not counted. -/
def execute (store : Store) (statement : Statement) : Result (Answer Row) × Store :=
  match store.outage with
  | some message => (.error (.storeExecution (.reported message)), { store with outage := none })
  | none => (store.graph.run statement, { store with executed := store.executed + 1 })

end Store

/-- An open request. -/
structure Request where
  permission : Option Permission
  cache : ResultCache
deriving Inhabited

/-- A store and the open requests, numbered in the order in which they were opened. -/
structure Session where
  store : Store
  requests : List Request
deriving Inhabited

namespace Session

/-- Opens a request. -/
def openRequest (session : Session) (permission : Option Permission) : Session :=
  { session with requests := session.requests ++ [⟨permission, .empty session.requests.length⟩] }

/-- An empty store and one request without a permission. -/
def initial : Session := openRequest ⟨.empty, []⟩ none

/-- The permission of a request. -/
def permission (session : Session) (request : Nat) : Option Permission := do (← session.requests[request]?).permission

/-- The caches of a request. -/
def cache (session : Session) (request : Nat) : ResultCache :=
  (session.requests[request]?.map (·.cache)).getD (.empty request)

/-- Sets the caches of a request. -/
def setCache (session : Session) (request : Nat) (cache : ResultCache) : Session :=
  { session with requests := session.requests.modify request fun r => { r with cache } }

/-- The cache of a node of a result. -/
def cell (node : Node) : Cell Session (Related Node) :=
  ⟨fun session => (session.cache node.request).forNode node.typeName node.id,
    fun session cache =>
      session.setCache node.request ((session.cache node.request).set node.typeName node.id cache)⟩

/-- Runs a statement on the store. -/
def execute (statement : Statement) : Run Session (Answer Row) := fun session =>
  match session.store.execute statement with
  | (.ok answer, store) => .ok answer { session with store }
  | (.error e, store) => .error e { session with store }

/-- Assembles a result with the caches of a request. -/
def assembling {α : Type} (request : Nat) (assembly : Assembly α) : Run Session α := fun session =>
  match assembly (session.cache request) with
  | .ok a cache => .ok a (session.setCache request cache)
  | .error e cache => .error e (session.setCache request cache)

end Session

end GraphQuery
