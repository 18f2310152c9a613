import GraphQuery.Engine.Session
import GraphQuery.Pattern.KnownProperty
import GraphQuery.Plan.Build

/-!
# The engine

An `Engine` answers requests over one schema: it plans, compiles to one statement, runs it and assembles the result.

* `Engine.query` and `Engine.connection` query the nodes of a type, `Engine.load` loads one relationship of a node;
* `Engine.walk` follows the cursors of a connection from page to page.
-/

namespace GraphQuery

variable [PropertyTable]

/-- The schema, the rules and the limits that all requests share. -/
structure Engine where
  schema : Schema
  access : Access
  budget : Budget

/-- The text of an error of a request. -/
def Error.requestMessage (e : Error) : String := "query error: " ++ e.message

namespace Engine

variable (engine : Engine)

/-- The planner under a permission. -/
def planner (permission : Option Permission) : Planner := ⟨engine.schema, engine.access, engine.budget, permission⟩

/-- Plans under the permission of a request. -/
def planning {α : Type} (request : Nat) (plan : Planner → Result α) : Run Session α := do
  MonadExcept.ofExcept (plan (engine.planner ((← get).permission request)))

/-- Runs a plan and assembles its answer. -/
def execute {α : Type} (request : Nat) (plan : Plan)
    (assemble : Level → Schema → Block → Answer Row → Assembly α) : Run Session α := do
  let statement ← MonadExcept.ofExcept (plan.compile engine.schema)
  let answer ← Session.execute statement
  Session.assembling request (assemble plan.root engine.schema statement.root answer)

/-- Queries the nodes of a type. -/
def query (request : Nat) (entityType : String) (selection : List Field) (options : Options) :
    Run Session (Page Node) := do
  let plan ← engine.planning request fun planner => planner.query entityType selection options
  engine.execute request plan Level.assemblePage

/-- Queries the nodes of a type with the arguments of a field as options. -/
def connection (request : Nat) (entityType : String) (field : Field) : Run Session (Page Node) := do
  let plan ← engine.planning request fun planner => planner.connection entityType field
  engine.execute request plan Level.assemblePage

/-- Plans the load of a relationship of a node, and finds the key of its result. -/
def planLoad (request : Nat) (node : Node) (field : Field) : Run Session (Plan × CacheKey) :=
  engine.planning request fun planner => do
    let plan ← planner.relationship node.typeName (.string node.id) field
    match plan.anchor with
    | some anchor => return (plan, .ofQuery anchor.relationship plan.root)
    | none => throw (.planCompilation (.notARelationship field.name node.typeName))

/-- Loads a relationship of a node, unless the cache of the node has its result. -/
def load (request : Nat) (node : Node) (field : Field) : Run Session (Related Node) := do
  let (plan, key) ← engine.planLoad request node field
  (Session.cell node).getOrCompute key (engine.execute request plan Level.assemble)

/-- Loads a relationship of a node from within the computation of the same result under a key. -/
def loadInside (request : Nat) (node : Node) (field : Field) (key : CacheKey) : Run Session (Related Node) :=
  (Session.cell node).getOrCompute key (engine.load request node field)

/-! ## Walking -/

/-- A way through a connection: the arguments that carry the page size and the cursor, and where the next page lies. -/
structure Heading where
  sizeArgument : String
  cursorArgument : String
  hasMore : PageInfo → Bool
  cursor : PageInfo → Option String

/-- From the first node on. -/
def Heading.forwards : Heading := ⟨"first", "after", (·.hasNext), (·.endCursor)⟩

/-- From the last node back. -/
def Heading.backwards : Heading := ⟨"last", "before", (·.hasPrevious), (·.startCursor)⟩

/-- The field of a connection with the arguments of a page. -/
def Heading.field (heading : Heading) (field : Field) (size : Json) (cursor : Option String) : Field :=
  let sized := Table.insert field.arguments heading.sizeArgument size
  match cursor with
  | none => { field with arguments := sized }
  | some cursor => { field with arguments := Table.insert sized heading.cursorArgument (.string cursor) }

/-- The pages of a connection one after the other, as many as there are but at most so many. -/
def walk (request : Nat) (entityType : String) (field : Field) (size : Json) (heading : Heading) :
    (pages : Nat) → (cursor : Option String) → Run Session (List (Page Node))
  | 0, _ => return []
  | pages + 1, cursor => do
    let page ← engine.connection request entityType (heading.field field size cursor)
    match heading.cursor page.info with
    | some next =>
      if heading.hasMore page.info then
        return page :: (← walk request entityType field size heading pages (some next))
      else return [page]
    | none => return [page]

end Engine

end GraphQuery
