import GraphQuery.Digest.Blake3
import GraphQuery.Error
import GraphQuery.Filter.Basic
import GraphQuery.Order.Basic

/-!
# Options of a query

`Options` filter, order and page the nodes of one level of a request. A page is either the first so many nodes or the
last so many, never both.

* `Options.build` checks the limits;
* `Options.key` is a fingerprint of all options together, for caching results.
-/

namespace GraphQuery

/-- The options of one level of a request. -/
structure Options where
  filter : Filter
  order : Order
  /-- The cursor after which the nodes start. -/
  after : Option String
  /-- The cursor before which the nodes end. -/
  before : Option String
  /-- How many nodes to take from the front. -/
  first : Option Nat
  /-- How many nodes to take from the back. -/
  last : Option Nat
  /-- Whether the nodes are counted before they are paged. -/
  countsTotal : Bool
deriving Inhabited

namespace Options

/-- All nodes, by identifier. -/
def default : Options := ⟨.all, .byId, none, none, none, none, false⟩

/-- The first node, by identifier: the options of a relationship that yields at most one. -/
def single : Options := { default with first := some 1 }

/-- A limit as a natural number. -/
def limit (name : String) : Option Int → Result (Option Nat)
  | none => .ok none
  | some limit =>
    if limit < 0 then .error (.invalidQueryOptions (.negative name limit)) else .ok (some limit.toNat)

/-- Options with the limits checked. -/
def build (filter : Filter) (order : Order) (after before : Option String) (first last : Option Int)
    (countsTotal : Bool) : Result Options := do
  if first.isSome && last.isSome then throw (.invalidQueryOptions .bothLimits)
  return ⟨filter, order, after, before, ← limit "first" first, ← limit "last" last, countsTotal⟩

/-- The size of a page, if there are pages. -/
def pageSize (options : Options) : Option Nat := options.first.or options.last

/-- The interchange form. -/
def toJson (options : Options) : Json :=
  .object [("filter", options.filter.toJson), ("order", options.order.toJson),
    ("after", Json.ofOption .string options.after), ("before", Json.ofOption .string options.before),
    ("first", Json.ofOption (fun (n : Nat) => .int n) options.first),
    ("last", Json.ofOption (fun (n : Nat) => .int n) options.last), ("fetch_total_count", .bool options.countsTotal)]

/-- The bytes of the interchange form. -/
def bytes (options : Options) : List UInt8 := options.toJson.text.toUTF8.data.toList

/-- The fingerprint of the options. -/
def key (options : Options) : Fingerprint := Blake3.hash options.bytes

end Options

end GraphQuery
