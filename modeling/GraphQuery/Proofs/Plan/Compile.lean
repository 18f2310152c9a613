import GraphQuery.Proofs.Plan.Branches
import GraphQuery.Proofs.Result
import GraphQuery.Statement.Compile

/-!
# The blocks of a plan

A level compiles to the block read off it (`Level.compile_eq_ok`), with one child for every branch in their order
(`Compiles`). The child that answers a sub-query is the one compiled from it (`Compiles.find_child`).
-/

namespace GraphQuery

/-! ## Types and their relationships -/

theorem Schema.plannedType_eq_ok {schema : Schema} {name : String} {entity : EntityType} :
    schema.plannedType name = .ok entity ↔ schema.entity name = .ok entity := by
  unfold Schema.plannedType Schema.entity
  cases schema.entity? name <;> simp

/-- A type has its own relationships. -/
theorem EntityType.requireRelationship_own {entity : EntityType} {name : String} {relationship : RelationshipDef}
    (h : entity.relationship? name = some relationship) : entity.requireRelationship relationship = .ok () := by
  have hname : relationship.name = name := by
    unfold EntityType.relationship? at h
    have hfound := List.find?_some h
    simpa using hfound
  unfold EntityType.requireRelationship
  rw [hname, h]
  simp

/-! ## Sort keys -/

/-- The sort key of a block for a key of an order. -/
def OrderKey.termOn (key : OrderKey) (var : String) : OrderTerm := ⟨key.name, key.path.operand var, key.direction⟩

/-- Whether a key reads over a relationship of the type, if it reads over one. -/
def OrderKey.Fits (key : OrderKey) (entity : EntityType) : Prop :=
  match key.path with
  | .property _ => True
  | .related relationship _ => entity.requireRelationship relationship = .ok ()

/-- What the first key of a name reads. -/
def Order.pathNamed (order : Order) (name : String) : OrderPath :=
  ((order.keys.find? fun key => key.name = name).map (·.path)).getD (.property name)

theorem OrderKey.term_eq_ok {key : OrderKey} {entity : EntityType} {var : String} {term : OrderTerm} :
    key.term entity var = .ok term ↔ key.Fits entity ∧ term = key.termOn var := by
  unfold OrderKey.term OrderKey.Fits OrderKey.termOn
  cases key.path with
  | property name =>
    simp only [Result.pure_eq_ok, Except.ok.injEq, true_and]
    exact eq_comm
  | related relationship name =>
    rw [Result.bind_eq_ok]
    constructor
    · rintro ⟨_, h, ht⟩
      cases ht
      exact ⟨h, rfl⟩
    · rintro ⟨h, rfl⟩
      exact ⟨(), h, rfl⟩

theorem Order.mapM_term_eq_ok {entity : EntityType} {var : String} : ∀ {keys : List OrderKey} {terms : List OrderTerm},
    keys.mapM (fun key => key.term entity var) = .ok terms ↔
      (∀ key ∈ keys, key.Fits entity) ∧ terms = keys.map (·.termOn var)
  | [], terms => by simp [eq_comm]
  | key :: keys, terms => by
    rw [List.mapM_cons, Result.bind_eq_ok]
    constructor
    · rintro ⟨term, hterm, h⟩
      obtain ⟨rest, hrest, h⟩ := Result.bind_eq_ok.mp h
      cases h
      obtain ⟨hfit, rfl⟩ := OrderKey.term_eq_ok.mp hterm
      obtain ⟨hfits, rfl⟩ := Order.mapM_term_eq_ok.mp hrest
      exact ⟨List.forall_mem_cons.mpr ⟨hfit, hfits⟩, rfl⟩
    · rintro ⟨h, rfl⟩
      obtain ⟨hfit, hfits⟩ := List.forall_mem_cons.mp h
      exact ⟨_, OrderKey.term_eq_ok.mpr ⟨hfit, rfl⟩, Result.bind_eq_ok.mpr ⟨_, Order.mapM_term_eq_ok.mpr ⟨hfits, rfl⟩, rfl⟩⟩

theorem operandNamed_eq (order : Order) (var name : String) :
    operandNamed (order.keys.map (·.termOn var)) var name = (order.pathNamed name).operand var := by
  unfold operandNamed Order.pathNamed
  rw [List.find?_map]
  have hp : ((fun term : OrderTerm => decide (term.name = name)) ∘ fun key : OrderKey => key.termOn var) =
      fun key : OrderKey => decide (key.name = name) := rfl
  rw [hp]
  cases order.keys.find? fun key => decide (key.name = name) <;> rfl

/-! ## Blocks -/

/-- The block of a level, given the condition of its cursors and its children. -/
def Level.block (level : Level) (label : String) (source : Source) (resultKey : String) (subQuery : Nat)
    (onlyOnTypes : Option (List String)) (b : Bindings) (seek : Condition) (children : List Block) : Block where
  var := b.freshVar.1
  label := label
  source := source
  resultKey := resultKey
  subQuery := subQuery
  onlyOnTypes := onlyOnTypes
  condition := (level.condition.lower b.freshVar.1 b.freshVar.2).1
  count := level.options.countsTotal
  seek := seek
  order := level.options.order.keys.map (·.termOn b.freshVar.1)
  limit := level.limit
  reversed := level.options.last.isSome
  children := children

/-- The blocks of several branches, the names being handed out from left to right. -/
inductive Compiles (schema : Schema) (entity : EntityType) (var : String) :
    List Branch → Bindings → List Block → Bindings → Prop
  | nil (b : Bindings) : Compiles schema entity var [] b [] b
  | cons {branch : Branch} {rest : List Branch} {child : Block} {children : List Block} {b b₁ b₂ : Bindings} :
      schema.requireSubQuery entity ⟨branch.sub.relationship, (), branch.sub.onlyOnTypes⟩ = .ok () →
      branch.sub.query.compile schema
        (.traversal var branch.sub.relationship.label branch.sub.relationship.direction) branch.resultKey branch.index
        branch.sub.onlyOnTypes b = .ok (child, b₁) →
      Compiles schema entity var rest b₁ children b₂ →
      Compiles schema entity var (branch :: rest) b (child :: children) b₂

section Inversion

variable {schema : Schema} {entity : EntityType} {var resultKey : String}

theorem Compiles.append {branches rest : List Branch} {blocks children : List Block} {b b₁ b₂ : Bindings}
    (h : Compiles schema entity var branches b blocks b₁) (hrest : Compiles schema entity var rest b₁ children b₂) :
    Compiles schema entity var (branches ++ rest) b (blocks ++ children) b₂ := by
  induction h with
  | nil => exact hrest
  | cons hr hc _ ih => exact .cons hr hc (ih hrest)

theorem Compiles.of_append {rest : List Branch} : ∀ {branches : List Branch} {blocks : List Block} {b b₂ : Bindings},
    Compiles schema entity var (branches ++ rest) b blocks b₂ → ∃ front back b₁, blocks = front ++ back ∧
      Compiles schema entity var branches b front b₁ ∧ Compiles schema entity var rest b₁ back b₂
  | [], blocks, b, _, h => ⟨[], blocks, b, rfl, .nil b, h⟩
  | _ :: _, _, _, _, .cons hr hc h => by
    obtain ⟨front, back, b₁, rfl, hfront, hback⟩ := Compiles.of_append h
    exact ⟨_ :: front, back, b₁, rfl, .cons hr hc hfront, hback⟩

theorem compileSubs_eq_ok : ∀ {subs : List (SubQuery Level)} {i : Nat} {b b' : Bindings} {children : List Block},
    compileSubs schema entity var resultKey subs i b = .ok (children, b') ↔
      Compiles schema entity var (Level.branchesOfSubs resultKey subs i) b children b'
  | [], i, b, b', children => by
    rw [compileSubs, Level.branchesOfSubs]
    constructor
    · intro h
      cases h
      exact .nil b
    · intro h
      cases h
      rfl
  | ⟨relationship, query, onlyOnTypes⟩ :: rest, i, b, b', children => by
    rw [compileSubs, Level.branchesOfSubs, Result.bind_eq_ok]
    constructor
    · rintro ⟨_, hrequire, h⟩
      obtain ⟨⟨child, b₁⟩, hchild, h⟩ := Result.bind_eq_ok.mp h
      obtain ⟨⟨others, b₂⟩, hothers, h⟩ := Result.bind_eq_ok.mp h
      cases h
      exact .cons hrequire hchild (compileSubs_eq_ok.mp hothers)
    · intro h
      cases h with
      | cons hrequire hchild hrest =>
        exact ⟨_, hrequire, Result.bind_eq_ok.mpr ⟨_, hchild, Result.bind_eq_ok.mpr
          ⟨_, compileSubs_eq_ok.mpr hrest, rfl⟩⟩⟩

/-- Compiling all parts is compiling the branches in their order. -/
theorem compileParts_eq_ok : ∀ {parts : List (String × List (SubQuery Level))} {b b' : Bindings} {children : List Block},
    compileParts schema entity var parts b = .ok (children, b') ↔
      Compiles schema entity var (Level.branchesOfParts parts) b children b'
  | [], b, b', children => by
    rw [compileParts, Level.branchesOfParts]
    constructor
    · intro h
      cases h
      exact .nil b
    · intro h
      cases h
      rfl
  | (resultKey, subs) :: rest, b, b', children => by
    rw [compileParts, Level.branchesOfParts, Result.bind_eq_ok]
    constructor
    · rintro ⟨⟨first, b₁⟩, hfirst, h⟩
      obtain ⟨⟨others, b₂⟩, hothers, h⟩ := Result.bind_eq_ok.mp h
      cases h
      exact (compileSubs_eq_ok.mp hfirst).append (compileParts_eq_ok.mp hothers)
    · intro h
      obtain ⟨front, back, b₁, rfl, hfront, hback⟩ := h.of_append
      exact ⟨_, compileSubs_eq_ok.mpr hfront, Result.bind_eq_ok.mpr ⟨_, compileParts_eq_ok.mpr hback, rfl⟩⟩

/-- What a level compiles to. -/
theorem Level.compile_eq_ok {level : Level} {source : Source} {subQuery : Nat} {onlyOnTypes : Option (List String)}
    {b b' : Bindings} {block : Block} :
    level.compile schema source resultKey subQuery onlyOnTypes b = .ok (block, b') ↔
      ∃ entity seek b₁ children, schema.plannedType level.entityType = .ok entity ∧
        (∀ key ∈ level.options.order.keys, key.Fits entity) ∧
        level.options.seek (fun key => (level.options.order.pathNamed key.name).operand b.freshVar.1)
          (level.condition.lower b.freshVar.1 b.freshVar.2).2 = .ok (seek, b₁) ∧
        Compiles schema entity b.freshVar.1 level.branches b₁ children b' ∧
        block = level.block entity.name source resultKey subQuery onlyOnTypes b seek children := by
  obtain ⟨entityType, options, filter, limit, cardinality, parts⟩ := level
  rw [Level.compile, Result.bind_eq_ok]
  constructor
  · rintro ⟨entity, hentity, h⟩
    obtain ⟨order, horder, h⟩ := Result.bind_eq_ok.mp h
    obtain ⟨⟨seek, b₁⟩, hseek, h⟩ := Result.bind_eq_ok.mp h
    obtain ⟨⟨children, b₂⟩, hchildren, h⟩ := Result.bind_eq_ok.mp h
    obtain ⟨hfits, rfl⟩ := Order.mapM_term_eq_ok.mp horder
    simp only [operandNamed_eq] at hseek
    cases h
    exact ⟨entity, seek, b₁, children, hentity, hfits, hseek, compileParts_eq_ok.mp hchildren, rfl⟩
  · rintro ⟨entity, seek, b₁, children, hentity, hfits, hseek, hchildren, rfl⟩
    refine ⟨entity, hentity, Result.bind_eq_ok.mpr ⟨_, Order.mapM_term_eq_ok.mpr ⟨hfits, rfl⟩, ?_⟩⟩
    simp only [operandNamed_eq]
    exact Result.bind_eq_ok.mpr ⟨_, hseek, Result.bind_eq_ok.mpr ⟨_, compileParts_eq_ok.mpr hchildren, rfl⟩⟩

/-! ## The child that answers a sub-query -/

/-- A block compiled from a branch, somewhere among its siblings. -/
def Branch.CompilesTo (schema : Schema) (var : String) (branch : Branch) (child : Block) : Prop :=
  ∃ b b', branch.sub.query.compile schema
    (.traversal var branch.sub.relationship.label branch.sub.relationship.direction) branch.resultKey branch.index
    branch.sub.onlyOnTypes b = .ok (child, b')

theorem Branch.CompilesTo.standsAt_iff {branch : Branch} {child : Block} (h : branch.CompilesTo schema var child)
    (resultKey : String) (i : Nat) :
    branch.standsAt resultKey i = decide (child.resultKey = resultKey ∧ child.subQuery = i) := by
  obtain ⟨b, b', h⟩ := h
  obtain ⟨entity, seek, b₁, children, _, _, _, _, rfl⟩ := Level.compile_eq_ok.mp h
  rfl

theorem Compiles.forall₂ {branches : List Branch} {children : List Block} {b b' : Bindings}
    (h : Compiles schema entity var branches b children b') :
    List.Forall₂ (Branch.CompilesTo schema var) branches children := by
  induction h with
  | nil => exact .nil
  | cons _ hchild _ ih => exact .cons ⟨_, _, hchild⟩ ih

/-- The first child at the place of a branch is compiled from the first branch there. -/
theorem Branch.find_child {i : Nat} {branches : List Branch} {children : List Block} {branch : Branch}
    (h : List.Forall₂ (Branch.CompilesTo schema var) branches children)
    (hfind : branches.find? (·.standsAt resultKey i) = some branch) :
    ∃ child, children.find? (fun c => c.resultKey = resultKey ∧ c.subQuery = i) = some child ∧
      branch.CompilesTo schema var child := by
  induction h with
  | nil => cases hfind
  | @cons first child rest children hchild _ ih =>
    have hplace := hchild.standsAt_iff resultKey i
    rw [List.find?_cons] at hfind ⊢
    rw [← hplace]
    cases hp : first.standsAt resultKey i with
    | true =>
      rw [hp] at hfind
      cases hfind
      exact ⟨child, rfl, hchild⟩
    | false =>
      rw [hp] at hfind
      exact ih hfind

end Inversion

end GraphQuery
