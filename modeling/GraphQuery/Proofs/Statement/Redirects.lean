import GraphQuery.Proofs.Plan.Arguments
import GraphQuery.Proofs.Plan.Groups
import GraphQuery.Proofs.Plan.Paged
import GraphQuery.Proofs.Schema.Lineage

/-!
# Redirected relationships

A type may redeclare a relationship of a type above it, or inherit another one of its name, so that the name leads over
other edges from the lower type (`Schema.Redirects`). The planner takes a relationship from the type of the fragment, the
compiler asks for its edges on the type of the level or on the concrete types below the fragment. So the plan of a
connection or of a load compiles, or has a cursor that cannot be read, or meets a redirected relationship; and every
redirected relationship is met by the plan of some connection (`Plan.compile_of_request`).
-/

namespace GraphQuery

/-! ## Sort keys -/

namespace Order

variable {schema : Schema} {entity : EntityType}

theorem fits_of_parseField {field : String} {direction : SortDirection} {key : OrderKey}
    (h : parseField schema entity field direction = .ok key) : key.Fits entity := by
  unfold parseField at h
  split at h
  · split at h
    · cases h
      trivial
    · cases h
  · split at h
    · cases h
    · rename_i relationship hsingle
      obtain ⟨hrelationship, _⟩ := Option.filter_eq_some_iff.mp hsingle
      obtain ⟨target, _, h⟩ := Result.bind_eq_ok.mp h
      split at h
      · cases h
        exact EntityType.requireRelationship_own hrelationship
      · cases h

theorem fits_ofKeys {keys : List OrderKey} (h : ∀ key ∈ keys, key.Fits entity) : ∀ key ∈ (ofKeys keys).keys,
    key.Fits entity := by
  unfold ofKeys
  split
  · exact h
  · intro key hkey
    rcases List.mem_append.mp hkey with hkey | hkey
    · exact h key hkey
    · rw [List.mem_singleton.mp hkey]
      trivial

theorem fits_byId : ∀ key ∈ byId.keys, key.Fits entity := fits_ofKeys nofun

/-- The keys of an order that was read for a type read over relationships of the type. -/
theorem fits_of_parse {raw : Json} {order : Order} (h : parse schema entity raw = .ok order) :
    ∀ key ∈ order.keys, key.Fits entity := by
  obtain ⟨items, _, h⟩ := Result.bind_eq_ok.mp h
  obtain ⟨keys, hkeys, h⟩ := Result.bind_eq_ok.mp h
  cases h
  refine fits_ofKeys (Result.foldlM_induct (P := fun keys => ∀ key ∈ keys, key.Fits entity) hkeys nofun
    fun keys item keys' _ hfits hstep => ?_)
  obtain ⟨key, hkey, hstep⟩ := Result.bind_eq_ok.mp hstep
  split at hstep
  · cases hstep
  · cases hstep
    have hnew : key.Fits entity := by
      unfold parseItem at hkey
      split at hkey
      · cases hkey
      · split at hkey
        · cases hkey
        · obtain ⟨direction, _, hkey⟩ := Result.bind_eq_ok.mp hkey
          exact fits_of_parseField hkey
    intro other hother
    rcases List.mem_append.mp hother with hother | hother
    · exact hfits other hother
    · exact List.mem_singleton.mp hother ▸ hnew

end Order

theorem Field.fits_of_options [PropertyTable] {field : Field} {schema : Schema} {entity : EntityType}
    {countsTotal : Bool} {options : Options} (h : field.options schema entity countsTotal = .ok options) :
    ∀ key ∈ options.order.keys, key.Fits entity := by
  obtain ⟨_, order, _, _, _, _, _, horder, _, _, _, _, hbuild⟩ := Field.options_eq_ok.mp h
  obtain ⟨_, _, _, _, _, rfl⟩ := Options.build_eq_ok.mp hbuild
  unfold Field.readArgument at horder
  split at horder
  · cases horder
    exact Order.fits_byId
  · obtain ⟨parsed, hparsed, rfl⟩ := Result.map_eq_ok.mp horder
    exact Order.fits_of_parse hparsed

theorem Planner.fits_of_relationshipOptions [PropertyTable] {planner : Planner} {relationship : RelationshipDef}
    {target : EntityType} {field : Field} {others : List Field} {options : Options}
    (h : planner.relationshipOptions relationship target field others = .ok options) :
    ∀ key ∈ options.order.keys, key.Fits target := by
  unfold Planner.relationshipOptions at h
  split at h
  · cases h
  · split at h
    · exact Field.fits_of_options h
    · cases h
      exact Order.fits_byId

/-! ## Redirected relationships -/

/-- The name of a relationship of a type leads over other edges from a type below it. -/
structure Schema.Redirects (schema : Schema) (below above : EntityType) (relationship : RelationshipDef) : Prop where
  stands_below : schema.entity? below.name = some below
  stands_above : schema.entity? above.name = some above
  subtype : below.isSubtypeOf above.name = true
  declared : above.relationship? relationship.name = some relationship
  redirected : ∃ other, below.relationship? relationship.name = some other ∧
    (other.label ≠ relationship.label ∨ other.direction ≠ relationship.direction)

namespace Schema

variable {schema : Schema} {α β : Type}

/-- Results that are refused, if at all, for a cursor that cannot be read or for a redirected relationship. -/
inductive Admits (schema : Schema) : Result α → Prop
  | ok (a : α) : Admits schema (.ok a)
  | cursor (fault : CursorFault) : Admits schema (.error (.invalidCursor fault))
  | redirected {below above : EntityType} {relationship : RelationshipDef} :
      schema.Redirects below above relationship →
      Admits schema (.error (.planCompilation (.notARelationship relationship.qualifiedName below.name)))

theorem Admits.bind {x : Result α} {f : α → Result β} (h : schema.Admits x)
    (hf : ∀ a, x = .ok a → schema.Admits (f a)) : schema.Admits (x >>= f) := by
  cases h with
  | ok a => exact hf a rfl
  | cursor fault => exact .cursor fault
  | redirected h => exact .redirected h

variable {decls : Table EntityDecl} {below above : EntityType} {relationship : RelationshipDef}

/-- A type has the relationships of the types above it, unless their names lead elsewhere. -/
theorem Flattens.admits_requireRelationship (h : Flattens decls schema)
    (hbelow : schema.entity? below.name = some below) (habove : schema.entity? above.name = some above)
    (hsubtype : below.isSubtypeOf above.name = true) {name : String}
    (hdeclared : above.relationship? name = some relationship) :
    schema.Admits (below.requireRelationship relationship) := by
  have hname := EntityType.relationship?_name hdeclared
  subst hname
  obtain ⟨other, hother⟩ := h.inherits hbelow habove hsubtype hdeclared
  unfold EntityType.requireRelationship
  by_cases hedges : other.label = relationship.label ∧ other.direction = relationship.direction
  · simp only [hother, Option.filter_some, hedges, and_self, decide_true, if_true, Option.isSome_some]
    exact .ok ()
  · simp only [hother, Option.filter_some, hedges, decide_false, Bool.false_eq_true, if_false, Option.isSome_none]
    exact .redirected ⟨hbelow, habove, hsubtype, hdeclared, other, hother, Decidable.not_and_iff_or_not.mp hedges⟩

/-- What a relationship of a fragment is refused for on the concrete types below the fragment. -/
theorem Flattens.admits_forM (h : Flattens decls schema) {entity scope : EntityType}
    (hscope : schema.entity? scope.name = some scope) (hbelow : scope.isSubtypeOf entity.name = true) {name : String}
    (hdeclared : scope.relationship? name = some relationship) :
    ∀ {types : List String}, (∀ type ∈ types, type ∈ schema.concreteSubtypes scope.name) →
      schema.Admits (schema.requireSubQuery entity ⟨relationship, (), some types⟩)
  | [], _ => .ok ()
  | type :: rest, htypes => by
    obtain ⟨htype, hrest⟩ := List.forall_mem_cons.mp htypes
    obtain ⟨concrete, hconcrete, _, hsubtype⟩ := h.mem_concreteSubtypes.mp htype
    have hname := h.named type concrete hconcrete
    subst hname
    have hplanned : schema.plannedType concrete.name = .ok concrete :=
      plannedType_eq_ok.mpr (entity_eq_ok.mpr hconcrete)
    have hentity : concrete.isSubtypeOf entity.name = true := h.isSubtypeOf_trans hconcrete hscope hsubtype hbelow
    have hfirst : schema.Admits (do
        let scope ← schema.plannedType concrete.name
        if !scope.isSubtypeOf entity.name then throw (.planCompilation (.notASubtype scope.name entity.name))
        scope.requireRelationship relationship) := by
      rw [hplanned]
      simp only [Result.ok_bind, hentity, Bool.not_true, Bool.false_eq_true, if_false]
      exact h.admits_requireRelationship hconcrete hscope hsubtype hdeclared
    exact hfirst.bind fun _ _ => Flattens.admits_forM h hscope hbelow hdeclared hrest

end Schema

/-! ## Compiling -/

section Compiling

variable {schema : Schema} {decls : Table EntityDecl} {entity : EntityType} {var : String}

/-- A cursor is all that the options of a level can be refused for. -/
theorem Options.admits_seek (options : Options) (operandOf : OrderKey → Operand) (b : Bindings) :
    schema.Admits (options.seek operandOf b) := by
  have hcursor : ∀ (cursor : Option String) (forwards : Bool) (b : Bindings),
      schema.Admits (options.order.seekCursor cursor forwards operandOf b) := by
    intro cursor forwards b
    cases cursor with
    | none => exact .ok _
    | some cursor =>
      refine Schema.Admits.bind ?_ fun _ _ => .ok _
      unfold Cursor.decode
      split
      · exact .cursor _
      · split
        · exact .ok _
        · exact .cursor _
  exact (hcursor _ _ _).bind fun _ _ => (hcursor _ _ _).bind fun _ _ => .ok _

theorem admits_compileSubs {resultKey : String} : ∀ {subs : List (SubQuery Level)} {i : Nat} {b : Bindings},
    (∀ branch ∈ Level.branchesOfSubs resultKey subs i,
      schema.Admits (schema.requireSubQuery entity ⟨branch.sub.relationship, (), branch.sub.onlyOnTypes⟩) ∧
        ∀ source key index types b, schema.Admits (branch.sub.query.compile schema source key index types b)) →
      schema.Admits (compileSubs schema entity var resultKey subs i b)
  | [], _, b, _ => .ok ([], b)
  | ⟨_, _, _⟩ :: _, _, b, h => by
    obtain ⟨⟨hrequire, hfirst⟩, hrest⟩ := List.forall_mem_cons.mp h
    rw [compileSubs]
    exact hrequire.bind fun _ _ => (hfirst _ _ _ _ b).bind fun _ _ => (admits_compileSubs hrest).bind fun _ _ => .ok _

theorem admits_compileParts : ∀ {parts : List (String × List (SubQuery Level))} {b : Bindings},
    (∀ branch ∈ Level.branchesOfParts parts,
      schema.Admits (schema.requireSubQuery entity ⟨branch.sub.relationship, (), branch.sub.onlyOnTypes⟩) ∧
        ∀ source key index types b, schema.Admits (branch.sub.query.compile schema source key index types b)) →
      schema.Admits (compileParts schema entity var parts b)
  | [], b, _ => .ok ([], b)
  | (_, _) :: _, b, h => by
    obtain ⟨hsubs, hrest⟩ := List.forall_mem_append.mp h
    rw [compileParts]
    exact (admits_compileSubs hsubs).bind fun _ _ => (admits_compileParts hrest).bind fun _ _ => .ok _

/-- A planned level is refused, if at all, for a cursor or for a redirected relationship. -/
theorem Planner.admits_level [PropertyTable] {planner : Planner} (h : Schema.Flattens decls planner.schema) : ∀
    {level : Level} {room : Nat} {entity : EntityType} {selection : List Field} {options : Options}
    {cardinality : Cardinality}, planner.schema.entity? entity.name = some entity →
    (∀ key ∈ options.order.keys, key.Fits entity) → planner.level room entity selection options cardinality = .ok level
    →
      ∀ source resultKey subQuery onlyOnTypes b,
        planner.schema.Admits (level.compile planner.schema source resultKey subQuery onlyOnTypes b) := by
  intro level
  induction level using Level.induct with
  | step level ih =>
  intro room entity selection options cardinality hentity hfits hlevel source resultKey subQuery onlyOnTypes b
  obtain ⟨htype, hoptions, _⟩ := head_of_level hlevel
  obtain ⟨groups, hgroups, hbranches⟩ := branch_of_level hlevel
  have hchildren : ∀ branch ∈ level.branches,
      planner.schema.Admits
        (planner.schema.requireSubQuery entity ⟨branch.sub.relationship, (), branch.sub.onlyOnTypes⟩) ∧
        ∀ source key index types b,
          planner.schema.Admits (branch.sub.query.compile planner.schema source key index types b) := by
    intro branch hbranch
    obtain ⟨group, hgroup, _, hrelationship, htypes, less, target, _, hfor⟩ := hbranches branch hbranch
    obtain ⟨field, _, scope, relationship, hscope, hdeclared, happlies, _, rfl, hgroupTypes⟩ :=
      field_of_group hgroups hgroup
    have hscopeIn := stands_scopeOf h.named hentity hscope
    constructor
    · rw [hrelationship, htypes, hgroupTypes, typesOf]
      split
      · rename_i hcovers
        exact h.admits_requireRelationship hentity hscopeIn hcovers hdeclared
      · rename_i hcovers
        exact h.admits_forM hscopeIn (happlies.resolve_right hcovers) hdeclared fun _ => id
    · obtain ⟨options', hoptions', hplanned⟩ := hfor.planned
      exact ih branch hbranch (h.named.stands hfor.leads) (fits_of_relationshipOptions hoptions') hplanned
  obtain ⟨entityType, levelOptions, condition, limit, levelCardinality, parts⟩ := level
  subst htype
  subst hoptions
  rw [Level.compile, Schema.plannedType_eq_ok.mpr (Schema.entity_eq_ok.mpr hentity)]
  simp only [Result.ok_bind]
  rw [Order.mapM_term_eq_ok.mpr ⟨hfits, rfl⟩]
  exact (Options.admits_seek _ _ _).bind fun _ _ => (admits_compileParts hchildren).bind fun _ _ => .ok _

end Compiling

/-! ## Plans of requests -/

section

variable [PropertyTable]

namespace Planner

/-- The plans of connections and of loads. -/
inductive Requests (planner : Planner) (plan : Plan) : Prop
  | connection {entityType : String} {field : Field} : planner.connection entityType field = .ok plan →
      Requests planner plan
  | load {parentType : String} {parentId : Value} {field : Field} :
      planner.relationship parentType parentId field = .ok plan → Requests planner plan

variable {planner : Planner} {decls : Table EntityDecl} {plan : Plan}

/-- The plan of a request is refused, if at all, for a cursor or for a redirected relationship. -/
theorem Requests.admits_compile (hplan : planner.Requests plan) (h : Schema.Flattens decls planner.schema) :
    planner.schema.Admits (plan.compile planner.schema) := by
  cases hplan with
  | connection hplan =>
    obtain ⟨entity, options, root, hentity, hoptions, hroot, rfl⟩ := connection_eq_ok hplan
    have hcompile := admits_level h (h.named.stands hentity) (Field.fits_of_options hoptions) hroot
    exact (hcompile _ _ _ _ _).bind fun _ _ => .ok _
  | load hplan =>
    obtain ⟨parent, relationship, target, options, root, hparent, hrelationship, htarget, hoptions, hroot, rfl⟩ :=
      relationship_eq_ok hplan
    have hcompile := admits_level h (h.named.stands htarget) (fits_of_relationshipOptions hoptions) hroot
    have hsource : planner.schema.Admits
        (Plan.source planner.schema .empty (some ⟨parent.name, ‹Value›, relationship⟩)) := by
      rw [Plan.source, Schema.plannedType_eq_ok.mpr (Schema.entity_eq_ok.mpr (h.named.stands hparent))]
      simp only [Result.ok_bind, EntityType.requireRelationship_own hrelationship]
      exact .ok _
    exact hsource.bind fun _ _ => (hcompile _ _ _ _ _).bind fun _ _ => .ok _

end Planner

/-! ## A request for a redirected relationship -/

section Probing

/-- A connection whose nodes are asked for one relationship, in a fragment on a type. -/
def Field.probe (typeCondition relationship : String) : Field :=
  { Field.named "connection" with
    selection := [{ Field.named "nodes" with
      selection := [{ Field.named relationship with typeCondition := some typeCondition }] }] }

/-- Planning without a permission, within the usual limits. -/
def Planner.unrestricted (schema : Schema) : Planner := ⟨schema, ⟨.empty, 0⟩, .default, none⟩

variable {schema : Schema} {decls : Table EntityDecl} {below above : EntityType} {relationship : RelationshipDef}

theorem Field.options_of_bare {field : Field} (h : field.arguments = []) (entity : EntityType) (countsTotal : Bool) :
    field.options schema entity countsTotal = .ok { Options.default with countsTotal } := by
  have hnone : ∀ {α : Type} (name : String) (read : Json → Result α), field.readArgument name read = .ok none := by
    intro α name read
    refine readArgument_none ?_ read
    rw [Field.present?, Field.argument?, h]
    rfl
  simp only [Field.options, hnone, Result.ok_bind]
  rfl

/-- A level without fields is planned whatever the type, within the limit of a page. -/
theorem Planner.level_bare (schema : Schema) (room : Nat) (entity : EntityType) {options : Options}
    (cardinality : Cardinality) (hpage : ∀ size, options.pageSize = some size → size ≤ 1000) :
    ∃ level, (unrestricted schema).level room entity [] options cardinality = .ok level := by
  have hcheck : (unrestricted schema).budget.checkPage entity options = .ok () := by
    unfold Budget.checkPage
    split
    · rfl
    · rename_i size hsize
      exact if_neg (Nat.not_lt.mpr (hpage size hsize))
  have hover : ∀ nested, ∃ level, (unrestricted schema).levelOver nested entity [] options cardinality = .ok level := by
    intro nested
    unfold levelOver
    rw [hcheck]
    exact ⟨_, rfl⟩
  cases room with
  | zero => exact hover _
  | succ room => exact hover _

omit [PropertyTable] in
/-- A redirected relationship is refused on the lower type. -/
theorem Schema.Redirects.refused (h : schema.Redirects below above relationship) :
    below.requireRelationship relationship =
      .error (.planCompilation (.notARelationship relationship.qualifiedName below.name)) := by
  obtain ⟨other, hother, hedges⟩ := h.redirected
  have hnone : ¬ (other.label = relationship.label ∧ other.direction = relationship.direction) :=
    Decidable.not_and_iff_or_not.mpr hedges
  simp [EntityType.requireRelationship, hother, hnone]

/-- The relationship field of a probe. -/
def Field.within (typeCondition relationship : String) : Field :=
  { Field.named relationship with typeCondition := some typeCondition }

omit [PropertyTable] in
/-- The only group of a probe asks for the relationship of the upper type, on all nodes. -/
theorem Schema.Redirects.groups_of_probe (h : schema.Redirects below above relationship) :
    (Planner.unrestricted schema).groups below [.within above.name relationship.name] =
      .ok [⟨relationship.name, relationship, none, .within above.name relationship.name, []⟩] := by
  have hadd : (Planner.unrestricted schema).addField below [] (.within above.name relationship.name) =
      .ok [⟨relationship.name, relationship, none, .within above.name relationship.name, []⟩] := by
    refine Planner.addField_eq_ok.mpr ⟨above, Schema.entity_eq_ok.mpr h.stands_above, .inr h.subtype, ?_⟩
    have hdeclared : above.relationship? (Field.within above.name relationship.name).name = some relationship :=
      h.declared
    have htypes : (Planner.unrestricted schema).typesOf below above = none := if_pos h.subtype
    rw [hdeclared, htypes]
    rfl
  rw [Planner.groups, List.foldlM_cons, hadd]
  rfl

/-- A relationship that is asked for without arguments has options within the usual limits. -/
theorem Planner.relationshipOptions_of_bare (schema : Schema) (relationship : RelationshipDef) {field : Field}
    (h : field.arguments = []) (target : EntityType) :
    ∃ options, (unrestricted schema).relationshipOptions relationship target field [] = .ok options ∧
      ∀ size, options.pageSize = some size → size ≤ 1000 := by
  unfold relationshipOptions
  rw [List.find?_nil]
  dsimp only
  split
  · exact ⟨_, Field.options_of_bare h target _, nofun⟩
  · refine ⟨_, rfl, fun size hsize => ?_⟩
    cases hsize
    decide

/-- The topmost level of a probe has one sub-query, which follows the relationship of the upper type. -/
theorem Schema.Redirects.level_of_probe (hflat : Schema.Flattens decls schema)
    (h : schema.Redirects below above relationship) : ∃ query,
      (Planner.unrestricted schema).level 8 below [.within above.name relationship.name] .default .many =
        .ok ⟨below.name, .default, .conjoin [Options.default.filter, .all], Options.default.rowLimit .many, .many,
          [(relationship.name, [⟨relationship, query, none⟩])]⟩ := by
  obtain ⟨target, htarget⟩ := hflat.target h.stands_above h.declared
  obtain ⟨options, hoptions, hpage⟩ := Planner.relationshipOptions_of_bare schema relationship
    (rfl : (Field.within above.name relationship.name).arguments = []) target
  obtain ⟨query, hquery⟩ := Planner.level_bare schema 7 target relationship.cardinality hpage
  have hselection : Field.nodeSelection [.within above.name relationship.name] relationship.cardinality = [] := by
    cases hcardinality : relationship.cardinality <;> simp [Field.nodeSelection, Field.within, Field.named]
  have hnested : (do
      let target ← (Planner.unrestricted schema).schema.entity relationship.target
      let options ← (Planner.unrestricted schema).relationshipOptions relationship target
        (.within above.name relationship.name) []
      (Planner.unrestricted schema).level 7 target
        (Field.nodeSelection [.within above.name relationship.name] relationship.cardinality) options
        relationship.cardinality) = .ok query := by
    have htarget' : (Planner.unrestricted schema).schema.entity relationship.target = .ok target := htarget
    rw [htarget', Result.ok_bind, hoptions, Result.ok_bind, hselection]
    exact hquery
  refine ⟨query, Planner.levelOver_eq_ok.mpr ⟨.all, _, _, rfl, rfl, h.groups_of_probe, ?_, rfl⟩⟩
  rw [List.foldlM_cons]
  exact Result.bind_eq_ok.mpr ⟨_, Result.bind_eq_ok.mpr ⟨query, hnested, rfl⟩, rfl⟩

/-- The plan of a connection that asks for a redirected relationship does not compile. -/
theorem Schema.Redirects.probe (hflat : Schema.Flattens decls schema) (h : schema.Redirects below above relationship) :
    ∃ plan, (Planner.unrestricted schema).connection below.name (.probe above.name relationship.name) = .ok plan ∧
      plan.compile schema = .error (.planCompilation (.notARelationship relationship.qualifiedName below.name)) := by
  have hbelow : schema.entity below.name = .ok below := Schema.entity_eq_ok.mpr h.stands_below
  obtain ⟨query, hroot⟩ := h.level_of_probe hflat
  refine ⟨⟨_, none⟩, Result.bind_eq_ok.mpr ⟨below, hbelow, Result.bind_eq_ok.mpr ⟨Options.default,
    Field.options_of_bare rfl below _, Result.bind_eq_ok.mpr ⟨_, hroot, rfl⟩⟩⟩, ?_⟩
  have hplanned : schema.plannedType below.name = .ok below := Schema.plannedType_eq_ok.mpr hbelow
  have hrequire : schema.requireSubQuery below ⟨relationship, (), none⟩ = _ := h.refused
  have hterms : ∀ var, Options.default.order.keys.mapM (fun key => key.term below var) =
      .ok (Options.default.order.keys.map (·.termOn var)) :=
    fun _ => Order.mapM_term_eq_ok.mpr ⟨Order.fits_byId, rfl⟩
  have hseek : ∀ operandOf b, Options.default.seek operandOf b = .ok (.and [], b) := fun _ _ => rfl
  rw [Plan.compile, Plan.source, Result.ok_bind, Level.compile, hplanned]
  simp only [Result.ok_bind, hterms, hseek, compileParts, compileSubs, hrequire, Result.error_bind]

end Probing

/-- The plan of a connection or of a load compiles, or has a cursor that cannot be read, or meets a redirected
relationship of the schema; and every redirected relationship makes the plan of some request fail to compile. -/
theorem Plan.compile_of_request {decls : List EntityDecl} {schema : Schema} (hbuild : Schema.build decls = .ok schema) :
    (∀ (planner : Planner) (plan : Plan), planner.schema = schema → planner.Requests plan →
      (∃ statement, plan.compile schema = .ok statement) ∨
      (∃ fault, plan.compile schema = .error (.invalidCursor fault)) ∨
      ∃ below above relationship, schema.Redirects below above relationship ∧
        plan.compile schema = .error (.planCompilation (.notARelationship relationship.qualifiedName below.name))) ∧
    ∀ below above relationship, schema.Redirects below above relationship →
      ∃ (planner : Planner) (plan : Plan), planner.schema = schema ∧ planner.Requests plan ∧
        plan.compile schema = .error (.planCompilation (.notARelationship relationship.qualifiedName below.name)) := by
  obtain ⟨table, hflat⟩ := Schema.flattens_of_build hbuild
  constructor
  · rintro planner plan rfl hplan
    generalize hcompile : plan.compile planner.schema = result
    cases hcompile ▸ hplan.admits_compile hflat with
    | ok statement => exact .inl ⟨statement, rfl⟩
    | cursor fault => exact .inr (.inl ⟨fault, rfl⟩)
    | redirected h => exact .inr (.inr ⟨_, _, _, h, rfl⟩)
  · intro below above relationship h
    obtain ⟨plan, hplan, hcompile⟩ := h.probe hflat
    exact ⟨Planner.unrestricted schema, plan, rfl, .connection hplan, hcompile⟩

end

/-! ## Shared accounts -/

/-- The owner of an account. -/
def ownerOfAccount : RelationshipDef := ⟨"owner", "Account", "Person", "OWNED_BY", .outgoing, .one, none⟩

/-- The owner of a shared account, over other edges. -/
def ownerOfShared : RelationshipDef := ⟨"owner", "Shared", "Person", "SHARED_BY", .outgoing, .one, none⟩

/-- Accounts. -/
def account : EntityType := ⟨"Account", false, [⟨"id", .id, false⟩], [ownerOfAccount], [], []⟩

/-- Accounts that are shared. -/
def shared : EntityType := ⟨"Shared", false, [⟨"id", .id, false⟩], [ownerOfShared], ["Account"], []⟩

/-- Accounts, of which some are shared, and persons. -/
def bank : Schema :=
  ⟨[("Account", account), ("Person", ⟨"Person", false, [⟨"id", .id, false⟩], [], [], []⟩), ("Shared", shared)]⟩

/-- The owner of shared accounts is redirected, and a request for it does not compile. -/
theorem Plan.compile_of_request_shared :
    Schema.build [.declare "Person" false [] [] [] [], .declare "Account" false [] [ownerOfAccount] [] [],
        .declare "Shared" false [] [ownerOfShared] ["Account"] []] = .ok bank ∧
      bank.Redirects shared account ownerOfAccount ∧
      ∃ (planner : Planner) (plan : Plan), planner.schema = bank ∧ planner.Requests plan ∧
        plan.compile bank = .error (.planCompilation (.notARelationship "Account.owner" "Shared")) := by
  have hbuild : Schema.build [.declare "Person" false [] [] [] [], .declare "Account" false [] [ownerOfAccount] [] [],
      .declare "Shared" false [] [ownerOfShared] ["Account"] []] = .ok bank := rfl
  have hredirects : bank.Redirects shared account ownerOfAccount :=
    ⟨rfl, rfl, rfl, rfl, ownerOfShared, rfl, .inl (by decide)⟩
  exact ⟨hbuild, hredirects, (Plan.compile_of_request hbuild).2 shared account ownerOfAccount hredirects⟩

end GraphQuery
