import GraphQuery.Json.Basic
import GraphQuery.Value

/-!
# Results

A `Node` carries all its properties and the results of the relationships asked for. A relationship that yields at most
one node has that node or none as its result, any other a `Page`: items with their cursors, and whether more nodes lie
on either side.
-/

namespace GraphQuery

/-- What lies around a page, and the cursors of its ends. -/
structure PageInfo where
  hasNext : Bool
  hasPrevious : Bool
  startCursor : Option String
  endCursor : Option String
deriving DecidableEq, Inhabited

/-- A node at its place in an order. -/
structure Item (ν : Type) where
  cursor : String
  node : ν
deriving Inhabited

/-- A page of nodes. -/
structure Page (ν : Type) where
  items : List (Item ν)
  /-- The number of nodes before paging, if it was asked for. -/
  totalCount : Option Nat
  info : PageInfo
deriving Inhabited

/-- The result of a relationship. -/
inductive Related (ν : Type) where
  /-- At most one node. -/
  | one (node : Option ν)
  | many (page : Page ν)
deriving Inhabited

/-- A node of a result. -/
structure Node where
  id : String
  /-- The concrete type. -/
  typeName : String
  properties : Table Value
  /-- The results of relationships by result key. -/
  relationships : List (String × Related Node)
  /-- The number of the request whose cache keeps results for the node. -/
  request : Nat
deriving Inhabited

namespace Page

/-- The nodes of a page. -/
def nodes {ν : Type} (page : Page ν) : List ν := page.items.map (·.node)

/-- The identifiers of the nodes of a page. -/
def ids (page : Page Node) : List String := page.nodes.map (·.id)

end Page

/-- The interchange form. -/
def PageInfo.toJson (info : PageInfo) : Json :=
  .object [("hasNextPage", .bool info.hasNext), ("hasPreviousPage", .bool info.hasPrevious),
    ("startCursor", Json.ofOption .string info.startCursor), ("endCursor", Json.ofOption .string info.endCursor)]

/-- The interchange form of a page, given that of its items; a count that was not asked for is left out. -/
def pageJson (items : List Json) (totalCount : Option Nat) (info : PageInfo) : Json :=
  .object ([("items", .array items), ("pageInfo", info.toJson)] ++
    (totalCount.map fun n => ("totalCount", Json.int n)).toList)

namespace Node

/-- A property; an absent one is null. -/
def property (node : Node) (name : String) : Value := (List.lookup name node.properties).getD .null

/-- The result of a relationship. -/
def relationship? (node : Node) (resultKey : String) : Option (Related Node) :=
  List.lookup resultKey node.relationships

mutual

/-- The interchange form of a node. -/
def toJson : Node → Json
  | ⟨id, typeName, properties, relationships, _⟩ =>
    .object [("id", .string id), ("__typename", .string typeName), ("properties", Json.ofTable Value.toJson properties),
      ("relationships", .object (relationshipsToJson relationships))]

/-- The interchange forms of the results of relationships. -/
def relationshipsToJson : List (String × Related Node) → List (String × Json)
  | [] => []
  | (resultKey, .one none) :: rest => (resultKey, .null) :: relationshipsToJson rest
  | (resultKey, .one (some node)) :: rest => (resultKey, node.toJson) :: relationshipsToJson rest
  | (resultKey, .many ⟨items, totalCount, info⟩) :: rest =>
    (resultKey, pageJson (itemsToJson items) totalCount info) :: relationshipsToJson rest

/-- The interchange forms of the items of a page. -/
def itemsToJson : List (Item Node) → List Json
  | [] => []
  | ⟨cursor, node⟩ :: rest => .object [("cursor", .string cursor), ("node", node.toJson)] :: itemsToJson rest

end

end Node

/-- The interchange form of a page. -/
def Page.toJson (page : Page Node) : Json := pageJson (Node.itemsToJson page.items) page.totalCount page.info

/-- The interchange form of the result of a relationship. -/
def Related.toJson : Related Node → Json
  | one node => Json.ofOption Node.toJson node
  | many page => page.toJson

/-! ## Paths -/

/-- A step into a result. -/
inductive PathStep where
  /-- An item of a page. -/
  | item (index : Nat)
  /-- A relationship of a node. -/
  | relationship (resultKey : String)
deriving DecidableEq, Inhabited

/-- The result at the end of a path. -/
def Related.descend? : Related Node → List PathStep → Option (Related Node)
  | result, [] => some result
  | many page, .item index :: rest => (page.items[index]?).bind fun item => descend? (one (some item.node)) rest
  | one (some node), .relationship resultKey :: rest => (node.relationship? resultKey).bind fun r => descend? r rest
  | _, _ => none

/-- The node at the end of a path. -/
def Related.node? (result : Related Node) (path : List PathStep) : Option Node :=
  match result.descend? path with
  | some (one node) => node
  | _ => none

end GraphQuery
