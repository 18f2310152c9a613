import GraphQuery.Proofs.Schema.WellFormed

/-!
# The type of labels

A type has more ancestors than any of its ancestors (`Schema.Flattens.length_ancestors_lt`). Of the labels of a type
that is not abstract the most derived one is therefore its own name, so the labels resolve to the type again, in
whatever order and however often they stand (`Schema.Flattens.concreteType?_labels`).
-/

namespace GraphQuery
namespace Schema

/-! ## Preferring the more derived -/

/-- The step by which the most derived of several types is found. -/
def prefer (best : Option EntityType) (entity : EntityType) : Option EntityType :=
  match best with
  | none => some entity
  | some b => if moreDerived entity b then some entity else some b

theorem concreteType?_eq_foldl (schema : Schema) (labels : List String) : schema.concreteType? labels =
    ((labels.filterMap schema.entity?).filter fun entity => !entity.isAbstract).foldl prefer none := rfl

/-- Whether a type is another one or has fewer ancestors. -/
def YieldsTo (entity other : EntityType) : Prop := other = entity ∨ other.ancestors.length < entity.ancestors.length

variable {entity other : EntityType}

theorem moreDerived_of_lt (h : other.ancestors.length < entity.ancestors.length) :
    moreDerived entity other = true ∧ moreDerived other entity = false := by
  have hne : other.ancestors.length ≠ entity.ancestors.length := Nat.ne_of_lt h
  simp [moreDerived, h, hne, Nat.not_lt_of_gt h]

theorem prefer_eq (best : Option EntityType) (entity : EntityType) :
    prefer best entity = some entity ∨ prefer best entity = best := by
  unfold prefer
  cases best with
  | none => exact .inl rfl
  | some b =>
    simp only
    split
    · exact .inl rfl
    · exact .inr rfl

/-- A type that all others yield to is preferred to them. -/
theorem prefer_of_yieldsTo (h : YieldsTo entity other) :
    prefer (some other) entity = some entity ∧ prefer (some entity) other = some entity := by
  rcases h with rfl | h
  · exact ⟨ite_self _, ite_self _⟩
  · obtain ⟨hmore, hless⟩ := moreDerived_of_lt h
    exact ⟨if_pos hmore, if_neg (Bool.eq_false_iff.mp hless)⟩

/-- Going through the candidates ends with one that all others yield to. -/
theorem foldl_prefer : ∀ {candidates : List EntityType} {best : Option EntityType},
    (∀ other ∈ candidates, YieldsTo entity other) → (∀ other, best = some other → YieldsTo entity other) →
      best = some entity ∨ entity ∈ candidates → candidates.foldl prefer best = some entity
  | [], _, _, _, h => h.resolve_right List.not_mem_nil
  | first :: rest, best, hcandidates, hbest, h => by
    obtain ⟨hfirst, hrest⟩ := List.forall_mem_cons.mp hcandidates
    rw [List.foldl_cons]
    refine foldl_prefer hrest (fun other hother => ?_) ?_
    · rcases prefer_eq best first with heq | heq
      · cases heq.symm.trans hother
        exact hfirst
      · exact hbest other (heq.symm.trans hother)
    · rcases h with rfl | h
      · exact .inl (prefer_of_yieldsTo hfirst).2
      · rcases List.mem_cons.mp h with rfl | h
        · refine .inl ?_
          cases best with
          | none => rfl
          | some b => exact (prefer_of_yieldsTo (hbest b rfl)).1
        · exact .inr h

/-! ## Ancestors -/

namespace Flattens

variable {table : Table EntityDecl} {schema : Schema} (h : Flattens table schema) {name above : String}
  {entity lower upper : EntityType}

include h

theorem nodup_ancestors (hentity : schema.entity? name = some entity) : entity.ancestors.Nodup := by
  obtain ⟨_, above, _, _, hflatten⟩ := h.flat name entity hentity
  obtain ⟨_, hancestors, _⟩ := flatten_eq_ok hflatten
  rw [hancestors]
  exact nodup_sortNames above

/-- A type has the ancestors of its ancestors, and these. -/
theorem length_ancestors_lt (hlower : schema.entity? name = some lower) (hupper : schema.entity? above = some upper)
    (hmem : above ∈ lower.ancestors) : upper.ancestors.length < lower.ancestors.length := by
  have hbelow := (h.ancestors_iff hlower above).mp hmem
  have hnodup : (above :: upper.ancestors).Nodup :=
    List.nodup_cons.mpr ⟨fun hself => h.not_below_self hupper ((h.ancestors_iff hupper above).mp hself),
      h.nodup_ancestors hupper⟩
  have hsubset : above :: upper.ancestors ⊆ lower.ancestors := by
    refine List.cons_subset.mpr ⟨hmem, fun x hx => ?_⟩
    exact (h.ancestors_iff hlower x).mpr (hbelow.trans ((h.ancestors_iff hupper x).mp hx))
  exact (List.subperm_of_subset hnodup hsubset).length_le

/-- The labels of a type that is not abstract resolve to it. -/
theorem concreteType?_labels (hentity : schema.entity? name = some entity) (hconcrete : entity.isAbstract = false)
    {labels : List String} (hlabels : ∀ label, label ∈ labels ↔ label ∈ entity.labels) :
    schema.concreteType? labels = some entity := by
  have hname : entity.name = name := h.named name entity hentity
  rw [concreteType?_eq_foldl]
  refine foldl_prefer (fun other hother => ?_) nofun (.inr ?_)
  · obtain ⟨label, hlabel, hother⟩ := List.mem_filterMap.mp (List.mem_filter.mp hother).1
    rcases List.mem_cons.mp ((hlabels label).mp hlabel) with rfl | habove
    · rw [hname] at hother
      exact .inl (Option.some.inj (hother.symm.trans hentity))
    · exact .inr (h.length_ancestors_lt hentity hother habove)
  · refine List.mem_filter.mpr ⟨List.mem_filterMap.mpr ⟨name, (hlabels name).mpr ?_, hentity⟩, by simp [hconcrete]⟩
    exact hname ▸ List.mem_cons_self

end Flattens

end Schema
end GraphQuery
