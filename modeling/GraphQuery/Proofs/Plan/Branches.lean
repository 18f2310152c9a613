import GraphQuery.Plan.Basic
import GraphQuery.Table

/-!
# The branches of a level

A `Branch` is a sub-query of a level with its place: its result key and its index under that key. `Level.induct` is
induction over the levels of a plan, branch by branch, and `Level.find_branch` finds the branch at a place.
`Level.gather` is what a level and the levels below it have, in their order; `Level.levels` are these levels.
-/

namespace GraphQuery

/-- A sub-query at its place in a level. -/
structure Branch where
  resultKey : String
  /-- The index under the result key. -/
  index : Nat
  sub : SubQuery Level

namespace Level

/-- The sub-queries under one result key at their places, counted from the given index. -/
def branchesOfSubs (resultKey : String) : List (SubQuery Level) → Nat → List Branch
  | [], _ => []
  | sub :: rest, i => ⟨resultKey, i, sub⟩ :: branchesOfSubs resultKey rest (i + 1)

/-- The sub-queries of several parts at their places. -/
def branchesOfParts : List (String × List (SubQuery Level)) → List Branch
  | [] => []
  | (resultKey, subs) :: rest => branchesOfSubs resultKey subs 0 ++ branchesOfParts rest

/-- The sub-queries of a level at their places. -/
def branches (level : Level) : List Branch := branchesOfParts level.parts

section Induction

variable {motive : Level → Prop}

mutual

/-- Induction over the levels of a plan. -/
theorem induct (step : ∀ level, (∀ branch ∈ level.branches, motive branch.sub.query) → motive level) :
    ∀ level, motive level
  | ⟨_, _, _, _, _, parts⟩ => step _ (inductParts step parts)

theorem inductParts (step : ∀ level, (∀ branch ∈ level.branches, motive branch.sub.query) → motive level) :
    ∀ parts : List (String × List (SubQuery Level)), ∀ branch ∈ branchesOfParts parts, motive branch.sub.query
  | [], _, h => nomatch h
  | (resultKey, subs) :: rest, branch, h => by
    rcases List.mem_append.mp h with h | h
    · exact inductSubs step resultKey subs 0 branch h
    · exact inductParts step rest branch h

theorem inductSubs (step : ∀ level, (∀ branch ∈ level.branches, motive branch.sub.query) → motive level)
    (resultKey : String) : ∀ (subs : List (SubQuery Level)) (i : Nat), ∀ branch ∈ branchesOfSubs resultKey subs i,
      motive branch.sub.query
  | [], _, _, h => nomatch h
  | ⟨_, query, _⟩ :: rest, i, branch, h => by
    rcases List.mem_cons.mp h with rfl | h
    · exact induct step query
    · exact inductSubs step resultKey rest (i + 1) branch h

end

end Induction

end Level

/-! ## Gathering over the branches -/

namespace Level

section Gathering

variable {α : Type} (f : Level → List α)

mutual

/-- What a level has, and then what the levels below it have. -/
def gather : Level → List α
  | ⟨entityType, options, condition, limit, cardinality, parts⟩ =>
    f ⟨entityType, options, condition, limit, cardinality, parts⟩ ++ gatherParts parts

/-- What the levels of several parts have. -/
def gatherParts : List (String × List (SubQuery Level)) → List α
  | [] => []
  | (_, subs) :: rest => gatherSubs subs ++ gatherParts rest

/-- What the levels of several sub-queries have. -/
def gatherSubs : List (SubQuery Level) → List α
  | [] => []
  | ⟨_, query, _⟩ :: rest => gather query ++ gatherSubs rest

end

theorem gatherSubs_eq (resultKey : String) : ∀ (subs : List (SubQuery Level)) (i : Nat),
    gatherSubs f subs = (branchesOfSubs resultKey subs i).flatMap fun branch => branch.sub.query.gather f
  | [], i => by rw [gatherSubs, branchesOfSubs, List.flatMap_nil]
  | ⟨_, query, _⟩ :: rest, i => by
    rw [gatherSubs, branchesOfSubs, List.flatMap_cons, gatherSubs_eq resultKey rest]

theorem gatherParts_eq : ∀ parts : List (String × List (SubQuery Level)),
    gatherParts f parts = (branchesOfParts parts).flatMap fun branch => branch.sub.query.gather f
  | [] => by rw [gatherParts, branchesOfParts, List.flatMap_nil]
  | (resultKey, subs) :: rest => by
    rw [gatherParts, branchesOfParts, List.flatMap_append, gatherSubs_eq f resultKey subs 0, gatherParts_eq rest]

/-- What a level gathers, branch by branch. -/
theorem gather_eq (level : Level) :
    level.gather f = f level ++ level.branches.flatMap fun branch => branch.sub.query.gather f := by
  obtain ⟨entityType, options, condition, limit, cardinality, parts⟩ := level
  rw [gather, gatherParts_eq]
  rfl

end Gathering

/-- A level and the levels below it. -/
def levels (level : Level) : List Level := level.gather fun level => [level]

theorem levels_eq (level : Level) :
    level.levels = level :: level.branches.flatMap fun branch => branch.sub.query.levels := by
  rw [levels, gather_eq, List.singleton_append]
  rfl

end Level

/-! ## Finding a branch -/

/-- Whether a branch stands at a place. -/
def Branch.standsAt (branch : Branch) (resultKey : String) (i : Nat) : Bool :=
  branch.resultKey = resultKey ∧ branch.index = i

namespace Level

variable {resultKey : String} {subs : List (SubQuery Level)} {sub : SubQuery Level} {i : Nat}

theorem find_branchesOfSubs : ∀ {subs : List (SubQuery Level)} {i : Nat} (start : Nat), subs[i]? = some sub →
    (branchesOfSubs resultKey subs start).find? (·.standsAt resultKey (start + i)) =
      some ⟨resultKey, start + i, sub⟩
  | [], _, _, h => by cases h
  | first :: rest, 0, start, h => by
    cases h
    simp [branchesOfSubs, Branch.standsAt]
  | first :: rest, i + 1, start, h => by
    have ih := find_branchesOfSubs (start + 1) (List.getElem?_cons_succ ▸ h)
    rw [Nat.add_right_comm] at ih
    rw [branchesOfSubs, List.find?_cons_of_neg (by simp [Branch.standsAt])]
    exact ih

theorem find_branchesOfSubs_of_ne {key : String} (h : key ≠ resultKey) : ∀ (subs : List (SubQuery Level)) (start : Nat),
    (branchesOfSubs key subs start).find? (·.standsAt resultKey i) = none
  | [], _ => rfl
  | first :: rest, start => by
    rw [branchesOfSubs, List.find?_cons_of_neg (by simp [Branch.standsAt, h])]
    exact find_branchesOfSubs_of_ne h rest (start + 1)

theorem find_branchesOfParts : ∀ {parts : List (String × List (SubQuery Level))},
    List.lookup resultKey parts = some subs → subs[i]? = some sub →
      (branchesOfParts parts).find? (·.standsAt resultKey i) = some ⟨resultKey, i, sub⟩
  | [], h, _ => by cases h
  | (key, first) :: rest, h, hi => by
    rw [Table.lookup_cons] at h
    rw [branchesOfParts, List.find?_append]
    split at h
    · rename_i heq
      cases h
      subst heq
      have hfind : (branchesOfSubs resultKey subs 0).find? (·.standsAt resultKey (0 + i)) =
          some ⟨resultKey, 0 + i, sub⟩ := find_branchesOfSubs 0 hi
      rw [Nat.zero_add] at hfind
      rw [hfind]
      rfl
    · rename_i hne
      rw [find_branchesOfSubs_of_ne (Ne.symm hne), Option.none_or]
      exact find_branchesOfParts h hi

/-- The branch at a place of a level is the sub-query there. -/
theorem find_branch {level : Level} (h : level.part? resultKey = some subs) (hi : subs[i]? = some sub) :
    level.branches.find? (·.standsAt resultKey i) = some ⟨resultKey, i, sub⟩ :=
  find_branchesOfParts h hi

end Level

end GraphQuery
