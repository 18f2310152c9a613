import GraphQuery.Proofs.Schema.Lineage
import Mathlib.Data.List.Perm.Subperm

/-!
# The walk up from a type

`Schema.Climbs` is the walk that collects a lineage, as a relation with no bound on its depth: a derivation is a walk
that ends, and a walk ends with one result (`Schema.Climbs.unique`). From every declared type the walk ends, and with
the lineage, so the bound of `Schema.lineage` is never what ends it (`Schema.climbs_lineage`). It succeeds only where no
type is above itself (`Schema.not_below_of_lineage`).
-/

namespace GraphQuery
namespace Schema

variable {decls : Table EntityDecl}

/-! ## Walks -/

/-- The walk over the supertypes of a type, each followed by the supertypes above it. `path` leads to the type, `found`
is what was found before. -/
inductive Climbs (decls : Table EntityDecl) : (supertypes path found : List String) → Result (List String) → Prop
  | done {path found : List String} : Climbs decls [] path found (.ok found)
  /-- A supertype the path has come through. -/
  | cycle {supertype : String} {rest path found : List String} : supertype ∈ path →
      Climbs decls (supertype :: rest) path found (.error (.invalidSchema .supertypeCycle))
  | unknown {supertype : String} {rest path found : List String} : supertype ∉ path →
      List.lookup supertype decls = none →
      Climbs decls (supertype :: rest) path found (.error (.invalidSchema (.unknownSupertype supertype)))
  /-- A failure above a supertype ends the walk. -/
  | failed {supertype : String} {rest path found : List String} {decl : EntityDecl} {e : Error} :
      supertype ∉ path → List.lookup supertype decls = some decl →
      Climbs decls decl.supertypes (path ++ [supertype])
        (if supertype ∈ found then found else found ++ [supertype]) (.error e) →
      Climbs decls (supertype :: rest) path found (.error e)
  | next {supertype : String} {rest path found middle : List String} {decl : EntityDecl}
      {result : Result (List String)} : supertype ∉ path → List.lookup supertype decls = some decl →
      Climbs decls decl.supertypes (path ++ [supertype])
        (if supertype ∈ found then found else found ++ [supertype]) (.ok middle) →
      Climbs decls rest path middle result → Climbs decls (supertype :: rest) path found result

/-- A walk ends with one result. -/
theorem Climbs.unique {supertypes path found : List String} {x : Result (List String)}
    (hx : Climbs decls supertypes path found x) : ∀ {y}, Climbs decls supertypes path found y → x = y := by
  induction hx with
  | done =>
    intro y hy
    cases hy
    rfl
  | cycle hmem =>
    intro y hy
    cases hy with
    | cycle => rfl
    | unknown hnew => exact absurd hmem hnew
    | failed hnew => exact absurd hmem hnew
    | next hnew => exact absurd hmem hnew
  | unknown hnew hnone =>
    intro y hy
    cases hy with
    | cycle hmem => exact absurd hmem hnew
    | unknown => rfl
    | failed _ hsome => cases hnone.symm.trans hsome
    | next _ hsome => cases hnone.symm.trans hsome
  | failed hnew hdecl _ ih =>
    intro y hy
    cases hy with
    | cycle hmem => exact absurd hmem hnew
    | unknown _ hnone => cases hnone.symm.trans hdecl
    | failed _ hsome habove =>
      cases hdecl.symm.trans hsome
      exact congrArg _ (Except.error.inj (ih habove))
    | next _ hsome habove =>
      cases hdecl.symm.trans hsome
      cases ih habove
  | next hnew hdecl _ _ ihAbove ihRest =>
    intro y hy
    cases hy with
    | cycle hmem => exact absurd hmem hnew
    | unknown _ hnone => cases hnone.symm.trans hdecl
    | failed _ hsome habove =>
      cases hdecl.symm.trans hsome
      cases ihAbove habove
    | next _ hsome habove hrest =>
      cases hdecl.symm.trans hsome
      cases ihAbove habove
      exact ihRest hrest

/-! ## Enough fuel -/

/-- The walk over several supertypes, from the walks that start at each of them. -/
theorem climbs_foldlM {path : List String} (step : String → List String → Result (List String))
    (hunknown : ∀ supertype found, supertype ∉ path → List.lookup supertype decls = none →
      step supertype found = .error (.invalidSchema (.unknownSupertype supertype)))
    (hstep : ∀ supertype found decl, supertype ∉ path → List.lookup supertype decls = some decl →
      Climbs decls decl.supertypes (path ++ [supertype]) found (step supertype found)) :
    ∀ (supertypes found : List String), Climbs decls supertypes path found (supertypes.foldlM (fun found supertype =>
      if supertype ∈ path then .error (.invalidSchema .supertypeCycle)
      else step supertype (if supertype ∈ found then found else found ++ [supertype])) found)
  | [], found => .done
  | supertype :: rest, found => by
    rw [List.foldlM_cons]
    by_cases hmem : supertype ∈ path
    · rw [if_pos hmem]
      exact .cycle hmem
    · rw [if_neg hmem]
      cases hdecl : List.lookup supertype decls with
      | none =>
        rw [hunknown supertype _ hmem hdecl]
        exact .unknown hmem hdecl
      | some decl =>
        have habove := hstep supertype (if supertype ∈ found then found else found ++ [supertype]) decl hmem hdecl
        cases hresult : step supertype (if supertype ∈ found then found else found ++ [supertype]) with
        | error e =>
          rw [hresult] at habove
          exact .failed hmem hdecl habove
        | ok middle =>
          rw [hresult] at habove
          exact .next hmem hdecl habove (climbs_foldlM step hunknown hstep rest middle)

/-- A path through different declared types is no longer than the table. -/
theorem length_path_le {path : List String} (hnodup : path.Nodup)
    (hdeclared : ∀ x ∈ path, (List.lookup x decls).isSome = true) : path.length ≤ decls.length := by
  have hsubset : path ⊆ decls.map (·.1) := by
    intro x hx
    obtain ⟨decl, hdecl⟩ := Option.isSome_iff_exists.mp (hdeclared x hx)
    exact List.mem_map.mpr ⟨(x, decl), Table.mem_of_lookup hdecl, rfl⟩
  simpa using (List.subperm_of_subset hnodup hsubset).length_le

/-- What remains of the fuel is as much as the path may still grow, and two more, so the fuel is never what ends the
walk. -/
theorem climbs_ascend : ∀ {fuel : Nat} {name : String} {decl : EntityDecl} {path : List String} (found : List String),
    List.lookup name decls = some decl → path.Nodup → (∀ x ∈ path, (List.lookup x decls).isSome = true) →
      fuel + path.length = decls.length + 2 →
        Climbs decls decl.supertypes path found (ascend decls fuel name path found)
  | 0, _, _, path, _, _, hnodup, hdeclared, hfuel => by
    have hlength := length_path_le hnodup hdeclared
    omega
  | 1, _, _, path, _, _, hnodup, hdeclared, hfuel => by
    have hlength := length_path_le hnodup hdeclared
    omega
  | fuel + 2, name, decl, path, found, hdecl, hnodup, hdeclared, hfuel => by
    rw [ascend]
    simp only [hdecl]
    refine climbs_foldlM (fun supertype found => ascend decls (fuel + 1) supertype (path ++ [supertype]) found)
      (fun supertype found _ hnone => ?_) (fun supertype found above hnew hsome => ?_) decl.supertypes found
    · simp only [ascend, hnone]
    · refine climbs_ascend found hsome ?_ ?_ ?_
      · exact List.nodup_append.mpr ⟨hnodup, List.pairwise_singleton _ supertype, fun x hx y hy hxy =>
          hnew (List.mem_singleton.mp hy ▸ hxy ▸ hx)⟩
      · intro x hx
        rcases List.mem_append.mp hx with hx | hx
        · exact hdeclared x hx
        · rw [List.mem_singleton.mp hx, hsome]
          rfl
      · rw [List.length_append, List.length_singleton]
        omega

/-- From every declared type the walk ends, and with its lineage. -/
theorem climbs_lineage {name : String} {decl : EntityDecl} (hdecl : List.lookup name decls = some decl)
    {result : Result (List String)} : Climbs decls decl.supertypes [name] [] result ↔ result = lineage decls name := by
  have hclimbs : Climbs decls decl.supertypes [name] [] (lineage decls name) := by
    refine climbs_ascend [] hdecl (List.pairwise_singleton _ name) (fun x hx => ?_) ?_
    · rw [List.mem_singleton.mp hx, hdecl]
      rfl
    · exact Nat.add_right_comm _ 1 1
  constructor
  · exact fun h => h.unique hclimbs
  · rintro rfl
    exact hclimbs

/-! ## No cycles -/

/-- A walk that succeeds does not lead back to its path. -/
theorem Climbs.not_back {supertypes path found : List String} {result : Result (List String)}
    (h : Climbs decls supertypes path found result) : (∃ above, result = .ok above) →
      ∀ supertype ∈ supertypes, ∀ x ∈ path, ¬ Relation.ReflTransGen (DeclaredBelow decls) supertype x := by
  induction h with
  | done => exact fun _ _ hmem => absurd hmem List.not_mem_nil
  | cycle => rintro ⟨_, hok⟩; cases hok
  | unknown => rintro ⟨_, hok⟩; cases hok
  | failed => rintro ⟨_, hok⟩; cases hok
  | @next first rest path found middle decl result hnew hdecl _ _ ihAbove ihRest =>
    intro hok supertype hsupertype x hx hback
    rcases List.mem_cons.mp hsupertype with rfl | hsupertype
    · rcases Relation.ReflTransGen.cases_head hback with rfl | ⟨above, ⟨decl', hdecl', habove⟩, hback⟩
      · exact hnew hx
      · cases hdecl.symm.trans hdecl'
        exact ihAbove ⟨middle, rfl⟩ above habove x (List.mem_append_left _ hx) hback
    · exact ihRest hok supertype hsupertype x hx hback

/-- A type with a lineage is not above itself. -/
theorem not_below_of_lineage {name : String} {decl : EntityDecl} {above : List String}
    (hdecl : List.lookup name decls = some decl) (h : lineage decls name = .ok above) :
    ¬ Relation.TransGen (DeclaredBelow decls) name name := by
  intro hcycle
  obtain ⟨supertype, ⟨decl', hdecl', hsupertype⟩, hback⟩ := Relation.TransGen.head'_iff.mp hcycle
  cases hdecl.symm.trans hdecl'
  exact ((climbs_lineage hdecl).mpr h.symm).not_back ⟨above, rfl⟩ supertype hsupertype name List.mem_cons_self hback

end Schema
end GraphQuery
