import GraphQuery.Order.Parser
import GraphQuery.Proofs.Result

/-!
# The keys of an order

An order that was read has keys of distinct names (`Order.nodup_names_of_parse`), and the identifier is among them
(`Order.identifies_of_parse`). So it is with the order by identifier alone.
-/

namespace GraphQuery
namespace Order

/-- The identifier is a sort key. -/
def Identifies (order : Order) : Prop := ∃ key ∈ order.keys, key.path = .property idProperty

/-- A key of the name of the identifier reads the identifier. -/
def Plain (key : OrderKey) : Prop := key.name = idProperty → key.path = .property idProperty

section Reading

variable {schema : Schema} {entity : EntityType} {key : OrderKey}

theorem mem_toList_append_point (a b : String) : '.' ∈ (a ++ "." ++ b).toList := by
  simp

theorem plain_of_parseField {field : String} {direction : SortDirection}
    (h : parseField schema entity field direction = .ok key) : Plain key := by
  unfold parseField at h
  intro hname
  split at h
  · split at h
    · cases h
      exact congrArg OrderPath.property hname
    · cases h
  · split at h
    · cases h
    · rename_i relationship _
      obtain ⟨target, _, h⟩ := Result.bind_eq_ok.mp h
      split at h
      · cases h
        -- the name of such a key has a point in it
        have hpoint : '.' ∈ idProperty.toList := hname ▸ mem_toList_append_point relationship.name _
        exact absurd hpoint (by decide)
      · cases h

theorem plain_of_parseItem {item : Json} (h : parseItem schema entity item = .ok key) : Plain key := by
  unfold parseItem at h
  split at h
  · cases h
  · split at h
    · cases h
    · obtain ⟨direction, _, h⟩ := Result.bind_eq_ok.mp h
      exact plain_of_parseField h

/-- Keys of distinct names, of which one with the name of the identifier reads the identifier. -/
structure Proper (keys : List OrderKey) : Prop where
  nodup : (keys.map (·.name)).Nodup
  plain : ∀ key ∈ keys, Plain key

theorem Proper.append {keys : List OrderKey} (h : Proper keys) (hkey : Plain key)
    (hnew : ∀ k ∈ keys, k.name ≠ key.name) : Proper (keys ++ [key]) where
  nodup := by
    rw [List.map_append, List.nodup_append]
    refine ⟨h.nodup, List.pairwise_singleton _ _, fun a ha b hb => ?_⟩
    obtain ⟨k, hk, rfl⟩ := List.mem_map.mp ha
    obtain rfl := List.mem_singleton.mp hb
    exact hnew k hk
  plain k hk := by
    rcases List.mem_append.mp hk with hk | hk
    · exact h.plain k hk
    · exact List.mem_singleton.mp hk ▸ hkey

theorem Proper.ofKeys {keys : List OrderKey} (h : Proper keys) :
    Proper (Order.ofKeys keys).keys ∧ (Order.ofKeys keys).Identifies := by
  unfold Order.ofKeys
  split
  · rename_i hany
    obtain ⟨k, hk, hname⟩ := List.any_eq_true.mp hany
    exact ⟨h, k, hk, h.plain k hk (of_decide_eq_true hname)⟩
  · rename_i hany
    refine ⟨h.append (fun _ => rfl) fun k hk hname => hany ?_, _, List.mem_append_right _ List.mem_cons_self, rfl⟩
    exact List.any_eq_true.mpr ⟨k, hk, decide_eq_true hname⟩

/-- An order that was read has distinct names, and tells nodes apart. -/
theorem proper_of_parse {raw : Json} {order : Order} (h : parse schema entity raw = .ok order) :
    Proper order.keys ∧ order.Identifies := by
  obtain ⟨items, _, h⟩ := Result.bind_eq_ok.mp h
  obtain ⟨keys, hkeys, h⟩ := Result.bind_eq_ok.mp h
  cases h
  have hnil : Proper [] := ⟨.nil, nofun⟩
  refine Proper.ofKeys (Result.foldlM_induct hkeys hnil fun keys item keys' _ hproper hstep => ?_)
  obtain ⟨key, hkey, hstep⟩ := Result.bind_eq_ok.mp hstep
  split at hstep
  · cases hstep
  · rename_i hany
    cases hstep
    refine hproper.append (plain_of_parseItem hkey) fun k hk hname => hany ?_
    exact List.any_eq_true.mpr ⟨k, hk, decide_eq_true hname⟩

theorem proper_byId : Proper byId.keys ∧ byId.Identifies := Proper.ofKeys ⟨.nil, nofun⟩

end Reading

end Order
end GraphQuery
