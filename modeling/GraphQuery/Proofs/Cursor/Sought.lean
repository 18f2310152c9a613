import GraphQuery.Pattern.KnownProperty
import GraphQuery.Proofs.Cursor.Beyond
import GraphQuery.Proofs.Plan.Names

/-!
# Seeking is the order

The condition that a cursor adds to a statement is evaluated without failing, and when the values of every key are null
or of one kind and only nullable keys read nulls, it is true of exactly the nodes that the order puts after the values
of the cursor, or before them when it is run backwards (`Order.truth_seek_iff`). An order without keys tells no nodes
apart, and still its cursors let every node pass (`Order.truth_seek_of_keyless`); `Order.ofKeys` makes no such order.
-/

namespace GraphQuery
namespace Order

/-! ## Both directions of seeking -/

section Directions

variable {f g : OrderKey → Value}

/-- Every key with its kind. -/
theorem kinds_of_pairs : ∀ {keys : List OrderKey},
    (∀ key ∈ keys, ∃ kind, Value.OfKind kind (f key) ∧ Value.OfKind kind (g key)) →
      ∃ kinds, List.Forall₂ Value.OfKind kinds (keys.map f) ∧ List.Forall₂ Value.OfKind kinds (keys.map g)
  | [], _ => ⟨[], .nil, .nil⟩
  | key :: keys, h => by
    obtain ⟨⟨kind, hf, hg⟩, hkeys⟩ := List.forall_mem_cons.mp h
    obtain ⟨kinds, hfs, hgs⟩ := kinds_of_pairs hkeys
    exact ⟨kind :: kinds, .cons hf hfs, .cons hg hgs⟩

/-- Coming later in the order turned round is coming earlier. -/
theorem compareKeys_along (order : Order) (forwards : Bool)
    (hkinds : ∀ key ∈ order.keys, ∃ kind, Value.OfKind kind (f key) ∧ Value.OfKind kind (g key)) :
    compareKeys (order.keys.map (·.along forwards)) (order.keys.map f) (order.keys.map g) = .lt ↔
      compareKeys order.directions (order.keys.map f) (order.keys.map g) = if forwards then .lt else .gt := by
  cases forwards with
  | true => exact Iff.rfl
  | false =>
    obtain ⟨kinds, hfs, hgs⟩ := kinds_of_pairs hkinds
    rw [map_along_backwards, compareKeys_reverse, compareKeys_swap hfs hgs, Ordering.swap_eq_lt]
    exact Iff.rfl

end Directions

/-! ## The condition of a cursor -/

theorem keys_ofKeys_ne_nil (keys : List OrderKey) : (ofKeys keys).keys ≠ [] := by
  rw [ofKeys]
  split
  · rename_i hid
    rintro rfl
    cases hid
  · exact List.append_ne_nil_of_right_ne_nil _ (List.cons_ne_nil _ _)

section Seeking

variable {order : Order} {values : Table Value} {forwards : Bool} {operandOf : OrderKey → Operand}
  {read : OrderKey → Value} {graph : Graph} {scope : Scope} {b b' : Bindings}

/-- The truth of lying beyond the values of a cursor, in the words of the order. -/
theorem beyondKeys_iff
    (hkinds : ∀ key ∈ order.keys, ∃ kind, Value.OfKind kind (boundOf values key) ∧ Value.OfKind kind (read key))
    (hnulls : ∀ key ∈ order.keys, read key = .null → key.nullable = true) :
    beyondKeys values forwards read order.keys = some true ↔ order.keys = [] ∨
      compareKeys order.directions (order.keys.map (boundOf values)) (order.keys.map read) =
        if forwards then .lt else .gt := by
  by_cases hempty : order.keys = []
  · rw [hempty]
    exact ⟨fun _ => .inl rfl, fun _ => rfl⟩
  · rw [beyondKeys_eq_true hempty hkinds hnulls, compareKeys_along order forwards hkinds]
    exact (or_iff_right hempty).symm

/-- An order without keys puts no node after another, and still the condition of a cursor is true of every node. -/
theorem truth_seek_of_keyless [PropertyTable] (e : Evaluation) (hkeys : order.keys = []) :
    e.truth (order.seek values forwards operandOf b).1 scope = .ok (some true) ∧
      compareKeys order.directions (order.keys.map (boundOf values)) (order.keys.map read) = .eq := by
  obtain ⟨keys⟩ := order
  subst hkeys
  refine ⟨?_, rfl⟩
  show e.truth .always scope = _
  rw [Evaluation.truth]

/-- The condition of a cursor never fails, and is true of the nodes that the order puts strictly beyond the values of
the cursor, in every statement that names are handed out for before and after the condition. An order without keys
lets every node pass. -/
theorem truth_seek_iff [PropertyTable] (root : Block) (hlater : (order.seek values forwards operandOf b).2.Grows b')
    (hreads : ∀ key ∈ order.keys, (graph.evaluation ⟨root, b'.params⟩).operand scope (operandOf key) = .ok (read key))
    (hkinds : ∀ key ∈ order.keys, ∃ kind, Value.OfKind kind (boundOf values key) ∧ Value.OfKind kind (read key))
    (hnulls : ∀ key ∈ order.keys, read key = .null → key.nullable = true) :
    ∃ truth, (graph.evaluation ⟨root, b'.params⟩).truth (order.seek values forwards operandOf b).1 scope = .ok truth ∧
      (truth = some true ↔ order.keys = [] ∨
        compareKeys order.directions (order.keys.map (boundOf values)) (order.keys.map read) =
          if forwards then .lt else .gt) := by
  have hknows : (graph.evaluation ⟨root, b'.params⟩).Knows (order.seek values forwards operandOf b).2 :=
    Evaluation.Knows.of_prefix (Graph.knows_of_params rfl) hlater.values
  obtain ⟨htruth, _⟩ := Evaluation.truth_seekKeys hreads hknows
  exact ⟨beyondKeys values forwards read order.keys, htruth, beyondKeys_iff hkinds hnulls⟩

end Seeking

/-- Documents with a rank, one of them without a score. -/
def rankedGraph : Graph :=
  ((Graph.empty.addNode "a" ["Doc"] [("id", .string "a"), ("rank", .int 1)]).addNode "b" ["Doc"]
    [("id", .string "b"), ("rank", .int 1), ("score", .int 5)]).addNode "c" ["Doc"] [("id", .string "c")]

/-- By rank upwards, then by score downwards; both may be missing. -/
def byRank : Order :=
  .ofKeys [⟨"rank", .property "rank", .ascending, true⟩, ⟨"score", .property "score", .descending, true⟩]

/-- The second document comes after a cursor of its rank without a score, and is not found before it. -/
theorem truth_seek_iff_ranked :
    let operandOf (key : OrderKey) := key.path.operand "n1"
    let values : Table Value := [("id", .string "a"), ("rank", .int 1), ("score", .null)]
    let sought (forwards : Bool) := byRank.seek values forwards operandOf ⟨2, [.null]⟩
    let truth (forwards : Bool) :=
      (rankedGraph.evaluation ⟨default, (sought forwards).2.params⟩).truth (sought forwards).1 [("n1", "b")]
    compareKeys byRank.directions [.int 1, .null, .string "a"] [.int 1, .int 5, .string "b"] = .lt ∧
      truth true = .ok (some true) ∧ ∃ before, truth false = .ok before ∧ before ≠ some true := by
  intro operandOf values sought truth
  let evaluation (forwards : Bool) := rankedGraph.evaluation ⟨default, (sought forwards).2.params⟩
  have hreads : ∀ forwards, ∀ key ∈ byRank.keys,
      (evaluation forwards).operand [("n1", "b")] (operandOf key) = .ok (key.path.value rankedGraph "b") :=
    fun _ => List.forall_mem_cons.mpr ⟨rfl, List.forall_mem_cons.mpr ⟨rfl, List.forall_mem_singleton.mpr rfl⟩⟩
  have hkinds : ∀ key ∈ byRank.keys, ∃ kind, Value.OfKind kind (boundOf values key) ∧
      Value.OfKind kind (key.path.value rankedGraph "b") :=
    List.forall_mem_cons.mpr ⟨⟨.int, .inr rfl, .inr rfl⟩, List.forall_mem_cons.mpr ⟨⟨.int, .inl rfl, .inr rfl⟩,
      List.forall_mem_singleton.mpr ⟨.string, .inr rfl, .inr rfl⟩⟩⟩
  have hnulls : ∀ key ∈ byRank.keys, key.path.value rankedGraph "b" = .null → key.nullable = true := by decide
  obtain ⟨after, hafter, hafters⟩ := truth_seek_iff default (.refl _) (hreads true) hkinds hnulls
  obtain ⟨before, hbefore, hbefores⟩ := truth_seek_iff default (.refl _) (hreads false) hkinds hnulls
  obtain rfl : after = some true := hafters.mpr (.inr (by decide))
  refine ⟨by decide, hafter, before, hbefore, fun htrue => ?_⟩
  rcases hbefores.mp htrue with h | h <;> exact absurd h (by decide)

end Order
end GraphQuery
