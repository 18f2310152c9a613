import GraphQuery.Proofs.Plan.Find
import GraphQuery.Proofs.Plan.Branches
import GraphQuery.Proofs.Run

/-!
# What presenting does not depend on

The outline of a node is the node without its relationships. Whether what was found can be presented, and with which
outline, does not depend on the caches of the request (`Level.presentNode_follows`, `Options.presentItem_follows`).
-/

namespace GraphQuery

/-! ## Outlines -/

/-- A node without the results of its relationships: the identifier, the concrete type and the properties. -/
def Node.outline (node : Node) : String × String × Table Value := (node.id, node.typeName, node.properties)

/-- A cursor with the identifier, the concrete type and the properties of a node. -/
abbrev Outline := String × String × String × Table Value

/-- A cursor with the outline of its node. -/
def Item.outline (item : Item Node) : Outline := (item.cursor, item.node.outline)

/-- The outlines of the items of a page. -/
def Page.outline (page : Page Node) : List Outline := page.items.map Item.outline

theorem Page.ids_eq (page : Page Node) : page.ids = page.outline.map (·.2.1) := by
  rw [ids, nodes, outline, List.map_map, List.map_map]
  rfl

/-! ## Presenting from other caches -/

section Presenting

variable {schema : Schema}

/-- Whether what is found for a level is presented from all caches when it is from some, with the same outline. -/
def Level.Steady (schema : Schema) (level : Level) : Prop :=
  ∀ found, Run.Follows (fun a b => b.outline = a.outline) (level.presentNode schema found)
    (level.presentNode schema found)

/-- What is presented for a level has the identifier of what was found. -/
theorem Level.presentNode_id {level : Level} {found : Found} {cache cache' : ResultCache} {node : Node}
    (h : level.presentNode schema found cache = .ok node cache') : node.id = found.id := by
  obtain ⟨entityType, options, condition, limit, cardinality, parts⟩ := level
  rw [Level.presentNode] at h
  obtain ⟨_, _, _, h⟩ := Run.bind_eq_ok.mp h
  obtain ⟨_, _, _, h⟩ := Run.bind_eq_ok.mp h
  obtain ⟨_, _, _, h⟩ := Run.bind_eq_ok.mp h
  obtain ⟨_, _, _, h⟩ := Run.bind_eq_ok.mp h
  obtain ⟨rfl, _⟩ := Run.pure_eq_ok.mp h
  rfl

theorem Options.presentItem_eq_ok {options : Options} {nodeOf : Found → Assembly Node} {found : Found}
    {cache cache' : ResultCache} {item : Item Node} (h : options.presentItem nodeOf found cache = .ok item cache') :
    item.cursor = Cursor.encode options.order found.keys ∧ nodeOf found cache = .ok item.node cache' := by
  obtain ⟨node, _, hnode, h⟩ := Run.bind_eq_ok.mp h
  obtain ⟨rfl, rfl⟩ := Run.pure_eq_ok.mp h
  exact ⟨rfl, hnode⟩

theorem Options.presentItem_follows {options : Options} {nodeOf : Found → Assembly Node} {found : Found}
    (h : Run.Follows (fun a b => b.outline = a.outline) (nodeOf found) (nodeOf found)) :
    Run.Follows (fun a b => b.outline = a.outline) (options.presentItem nodeOf found)
      (options.presentItem nodeOf found) := by
  unfold Options.presentItem
  refine h.bind fun a b hab => Run.follows_pure ?_
  rw [Item.outline, Item.outline, hab]

theorem Options.presentPage_follows {options : Options} {nodeOf : Found → Assembly Node}
    (h : ∀ found, Run.Follows (fun a b => b.outline = a.outline) (nodeOf found) (nodeOf found))
    (answer : Answer Found) :
    Run.Follows (fun _ _ => True) (options.presentPage nodeOf answer) (options.presentPage nodeOf answer) := by
  unfold Options.presentPage
  refine (Run.Follows.mapM fun found _ => Options.presentItem_follows (h found)).bind fun _ _ _ => ?_
  exact Run.follows_pure trivial

theorem Level.presentRelated_follows {level : Level} {nodeOf : Found → Assembly Node}
    (h : ∀ found, Run.Follows (fun a b => b.outline = a.outline) (nodeOf found) (nodeOf found))
    (answer : Answer Found) :
    Run.Follows (fun _ _ => True) (level.presentRelated nodeOf answer) (level.presentRelated nodeOf answer) := by
  unfold Level.presentRelated
  cases level.cardinality with
  | one =>
    cases answer.rows with
    | nil => exact Run.follows_pure trivial
    | cons found rest => exact (h found).bind fun _ _ _ => Run.follows_pure trivial
  | many => exact (Options.presentPage_follows h answer).bind fun _ _ _ => Run.follows_pure trivial

theorem presentFirst_follows {typeName resultKey : String} {found : Found} : ∀ {subs : List (SubQuery Level)} {i : Nat},
    (∀ branch ∈ Level.branchesOfSubs resultKey subs i, branch.sub.query.Steady schema) →
      Run.Follows (fun a b => b.isSome = a.isSome) (Level.presentFirst schema typeName found resultKey subs i)
        (Level.presentFirst schema typeName found resultKey subs i)
  | [], i, _ => by
    rw [Level.presentFirst]
    exact Run.follows_pure rfl
  | ⟨relationship, query, onlyOnTypes⟩ :: rest, i, h => by
    obtain ⟨hquery, hrest⟩ := List.forall_mem_cons.mp h
    rw [Level.presentFirst]
    split
    · refine (Level.presentRelated_follows hquery _).bind fun result other _ => ?_
      exact (Run.follows_modifyGet _ _).bind fun _ _ _ => Run.follows_pure rfl
    · exact presentFirst_follows hrest

theorem presentParts_follows {typeName : String} {found : Found} : ∀ {parts : List (String × List (SubQuery Level))},
    (∀ branch ∈ Level.branchesOfParts parts, branch.sub.query.Steady schema) →
      Run.Follows (fun _ _ => True) (Level.presentParts schema typeName found parts)
        (Level.presentParts schema typeName found parts)
  | [], _ => by
    rw [Level.presentParts]
    exact Run.follows_pure trivial
  | (resultKey, subs) :: rest, h => by
    have hrest : Run.Follows (fun _ _ => True) (Level.presentParts schema typeName found rest)
        (Level.presentParts schema typeName found rest) :=
      presentParts_follows fun branch hbranch => h branch (List.mem_append_right _ hbranch)
    rw [Level.presentParts]
    refine (presentFirst_follows fun branch hbranch => h branch (List.mem_append_left _ hbranch)).bind
      fun a b hab => ?_
    cases a with
    | none =>
      cases b with
      | none => exact hrest
      | some other => cases hab
    | some result =>
      cases b with
      | none => cases hab
      | some other => exact hrest.bind fun _ _ _ => Run.follows_pure trivial

/-- What is found for a level is presented from all caches when it is from some, with the same outline. -/
theorem Level.presentNode_follows (level : Level) : level.Steady schema := by
  induction level using Level.induct with
  | step level ih =>
    intro found
    obtain ⟨entityType, options, condition, limit, cardinality, parts⟩ := level
    rw [Level.presentNode]
    refine (Run.follows_ofExcept _).bind fun entity other hentity => ?_
    obtain ⟨_, rfl⟩ := hentity
    refine (Run.follows_modify _ _).bind fun _ _ _ => (presentParts_follows ih).bind fun _ _ _ => ?_
    exact (Run.follows_get _).bind fun _ _ _ => Run.follows_pure rfl

end Presenting

end GraphQuery
