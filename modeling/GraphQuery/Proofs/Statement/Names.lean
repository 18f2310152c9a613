import GraphQuery.Proofs.Plan.Names

/-!
# The names in a statement

A statement binds variables, one for each block and one for each test of related nodes, and reads parameters. What a
part of it mentions is compared with what was handed out while the part was put together (`Mentions`): variables from an
interval of their own, so that no two are the same, and parameters with the values that the plan wants compared
(`Plan.literals`), in the order of the plan. Folding conditions leaves some of them out and adds none
(`Condition.mentions_and`, `Condition.mentions_or`, `Condition.mentions_not`).

`Level.mentions_compile` says so of the block of a level, and `Plan.mentions_compile` of the statement of a plan.
-/

namespace GraphQuery

/-! ## Mentions -/

/-- What a part of a statement mentions. -/
inductive Mention where
  /-- A variable that is bound. -/
  | binds (name : String)
  /-- A parameter that is read. -/
  | reads (name : String)
deriving DecidableEq

namespace Mention

/-- The variable that is bound. -/
def bound? : Mention → Option String
  | binds name => some name
  | reads _ => none

/-- The parameter that is read. -/
def read? : Mention → Option String
  | binds _ => none
  | reads name => some name

end Mention

namespace Condition

mutual

/-- What a condition mentions, from left to right. -/
def mentions : Condition → List Mention
  | always | never | isNull _ => []
  | conj members | disj members => mentionsOfAll members
  | neg condition => mentions condition
  | compare _ _ param | text _ _ param => [.reads param]
  | oneOf _ params => params.map .reads
  | related _ _ reached _ condition => .binds reached :: mentions condition

/-- What several conditions mention. -/
def mentionsOfAll : List Condition → List Mention
  | [] => []
  | condition :: rest => mentions condition ++ mentionsOfAll rest

end

theorem mentionsOfAll_append : ∀ cs ds : List Condition, mentionsOfAll (cs ++ ds) = mentionsOfAll cs ++ mentionsOfAll ds
  | [], ds => rfl
  | c :: cs, ds => by
    rw [List.cons_append, mentionsOfAll, mentionsOfAll, mentionsOfAll_append cs ds, List.append_assoc]

theorem mentionsOfAll_singleton (c : Condition) : mentionsOfAll [c] = c.mentions := by
  rw [mentionsOfAll, mentionsOfAll, List.append_nil]

/-- The members that are gathered for a connective mention nothing new. -/
theorem Flattened.mentions {unit : Condition} {nested : List Condition → Condition} {conditions members : List Condition}
    (hunit : unit.mentions = []) (hnested : ∀ inner, (nested inner).mentions = mentionsOfAll inner)
    (h : Flattened unit nested conditions members) : (mentionsOfAll members).Sublist (mentionsOfAll conditions) := by
  induction h with
  | nil => exact List.Sublist.refl _
  | unit _ ih =>
    rw [mentionsOfAll, hunit]
    exact ih
  | nested inner _ ih =>
    rw [mentionsOfAll_append, mentionsOfAll, hnested]
    exact (List.Sublist.refl _).append ih
  | member c _ ih =>
    rw [mentionsOfAll, mentionsOfAll]
    exact (List.Sublist.refl _).append ih

/-- Folding a conjunction mentions nothing new. -/
theorem mentions_and (conditions : List Condition) :
    (Condition.and conditions).mentions.Sublist (mentionsOfAll conditions) := by
  unfold Condition.and
  cases h : conjuncts conditions with
  | none => exact List.nil_sublist _
  | some members =>
    have hsub := (flattened_conjuncts h).mentions (by rw [mentions]) fun inner => by rw [mentions]
    match members with
    | [] => exact List.nil_sublist _
    | [c] =>
      rw [mentionsOfAll_singleton] at hsub
      exact hsub
    | _ :: _ :: _ =>
      rw [mentions]
      exact hsub

/-- Folding a disjunction mentions nothing new. -/
theorem mentions_or (conditions : List Condition) :
    (Condition.or conditions).mentions.Sublist (mentionsOfAll conditions) := by
  unfold Condition.or
  cases h : disjuncts conditions with
  | none => exact List.nil_sublist _
  | some members =>
    have hsub := (flattened_disjuncts h).mentions (by rw [mentions]) fun inner => by rw [mentions]
    match members with
    | [] => exact List.nil_sublist _
    | [c] =>
      rw [mentionsOfAll_singleton] at hsub
      exact hsub
    | _ :: _ :: _ =>
      rw [mentions]
      exact hsub

theorem mentions_and_pair (c d : Condition) : (Condition.and [c, d]).mentions.Sublist (c.mentions ++ d.mentions) := by
  have hsub := mentions_and [c, d]
  rwa [mentionsOfAll, mentionsOfAll_singleton] at hsub

theorem mentions_or_pair (c d : Condition) : (Condition.or [c, d]).mentions.Sublist (c.mentions ++ d.mentions) := by
  have hsub := mentions_or [c, d]
  rwa [mentionsOfAll, mentionsOfAll_singleton] at hsub

@[simp] theorem mentions_not (condition : Condition) : (Condition.not condition).mentions = condition.mentions := by
  cases condition <;> simp [Condition.not, mentions]

end Condition

/-- What the source of a block mentions. -/
def Source.mentions : Source → List Mention
  | all | traversal _ _ _ => []
  | anchored _ parentParam _ _ => [.reads parentParam]

namespace Block

mutual

/-- What a block mentions: in its source, its variable, in its conditions and in its children. -/
def mentions : Block → List Mention
  | ⟨var, _, source, _, _, _, condition, _, seek, _, _, _, children⟩ =>
    source.mentions ++ .binds var :: (condition.mentions ++ (seek.mentions ++ mentionsOfAll children))

/-- What several blocks mention. -/
def mentionsOfAll : List Block → List Mention
  | [] => []
  | block :: rest => mentions block ++ mentionsOfAll rest

end

end Block

namespace Statement

/-- The variables that a statement binds: one for each block, and one for each test of related nodes. -/
def variableNames (statement : Statement) : List String := statement.root.mentions.filterMap Mention.bound?

/-- The parameters that a statement reads, where it reads them from left to right. -/
def parameterNames (statement : Statement) : List String := statement.root.mentions.filterMap Mention.read?

end Statement

/-! ## Values of parameters -/

namespace PropertyTest

/-- The values that a test compares with. -/
def literals : PropertyTest → List Value
  | eq value | lt value | lte value | gt value | gte value => [value]
  | oneOf values => values
  | startsWith text | endsWith text | contains text | matching text => [.string text]
  | isNull _ => []

end PropertyTest

namespace Filter

mutual

/-- The values that a filter compares with, from left to right. -/
def literals : Filter → List Value
  | conj members | disj members => literalsOfAll members
  | neg filter => literals filter
  | property _ test => test.literals
  | related _ _ filter => literals filter

/-- The values that several filters compare with. -/
def literalsOfAll : List Filter → List Value
  | [] => []
  | filter :: rest => literals filter ++ literalsOfAll rest

end

end Filter

namespace Order

/-- The value of a key that a cursor is compared by; a null is not compared with. -/
def literalsOf (values : Table Value) (key : OrderKey) : List Value :=
  if (boundOf values key).isNull then [] else [boundOf values key]

/-- The values that lying beyond a cursor is decided by. All keys but the last are compared twice, for lying past the
value and for being equal to it. -/
def seekLiterals (values : Table Value) : List OrderKey → List Value
  | [] => []
  | [key] => literalsOf values key
  | key :: rest => literalsOf values key ++ (literalsOf values key ++ seekLiterals values rest)

/-- The values that a cursor is compared by. -/
def cursorLiterals (order : Order) : Option String → List Value
  | none => []
  | some cursor =>
    match Cursor.decode order cursor with
    | .ok values => seekLiterals values order.keys
    | .error _ => []

end Order

/-- The values that the cursors of the options are compared by. -/
def Options.literals (options : Options) : List Value :=
  options.order.cursorLiterals options.after ++ options.order.cursorLiterals options.before

/-- The values that a level and the levels below it compare with. -/
def Level.literals (level : Level) : List Value :=
  level.gather fun level => level.condition.literals ++ level.options.literals

/-- The values that a plan wants compared, in the order in which its statement reads them: the identifier of the node it
starts from, and the operands of the filters and of the cursors of every level. -/
def Plan.literals (plan : Plan) : List Value := (plan.anchor.map (·.parentId)).toList ++ plan.root.literals

/-! ## What is handed out -/

namespace Bindings

/-- The variables handed out from one state to another. -/
def variablesTo (b b' : Bindings) : List String :=
  (List.range' b.varCount (b'.varCount - b.varCount)).map variableName

/-- Whether a table has the value of every parameter registered so far. -/
def RecordedIn (table : Table Value) (b : Bindings) : Prop :=
  ∀ i value, b.values[i]? = some value → List.lookup (paramName i) table = some value

variable {table : Table Value} {b b' b'' : Bindings}

theorem nodup_variablesTo : (b.variablesTo b').Nodup :=
  List.pairwise_map.mpr (List.Pairwise.imp (fun hne heq => hne (variableName_injective heq)) List.nodup_range')

theorem variablesTo_append (h : b.varCount ≤ b'.varCount) (h' : b'.varCount ≤ b''.varCount) :
    b.variablesTo b' ++ b'.variablesTo b'' = b.variablesTo b'' := by
  have hsplit : b''.varCount - b.varCount = (b'.varCount - b.varCount) + (b''.varCount - b'.varCount) := by omega
  have hnext : b'.varCount = b.varCount + 1 * (b'.varCount - b.varCount) := by omega
  rw [variablesTo, variablesTo, variablesTo, ← List.map_append, hsplit, ← List.range'_append, ← hnext]

theorem variablesTo_freshVar : b.variablesTo b.freshVar.2 = [b.freshVar.1] := by
  have hone : b.freshVar.2.varCount - b.varCount = 1 := Nat.add_sub_cancel_left _ _
  rw [variablesTo, hone]
  rfl

theorem RecordedIn.of_prefix (h : b'.RecordedIn table) (hp : b.values <+: b'.values) : b.RecordedIn table :=
  fun i value hvalue => h i value (value_kept hp hvalue)

theorem RecordedIn.addParam {value : Value} (h : (b.addParam value).2.RecordedIn table) :
    List.lookup (b.addParam value).1 table = some value :=
  h b.values.length value (b.value_addParam value)

theorem RecordedIn.addParams : ∀ {values : List Value} {b : Bindings}, (b.addParams values).2.RecordedIn table →
    (b.addParams values).1.map (fun name => List.lookup name table) = values.map some
  | [], _, _ => rfl
  | value :: rest, b, h => by
    have hfirst : List.lookup (b.addParam value).1 table = some value :=
      (h.of_prefix (prefix_addParams rest (b.addParam value).2)).addParam
    have hrest : ((b.addParam value).2.addParams rest).1.map (fun name => List.lookup name table) = rest.map some :=
      RecordedIn.addParams h
    rw [Bindings.addParams, List.map_cons, List.map_cons, hfirst, hrest]

end Bindings

/-- What is mentioned by a part that was put together from one state to another: variables handed out on the way, each
once, and parameters that have the given values, in their order. Some of either may have been left out. -/
structure Mentions (table : Table Value) (b b' : Bindings) (mentions : List Mention) (literals : List Value) : Prop where
  varCount : b.varCount ≤ b'.varCount
  bound : (mentions.filterMap Mention.bound?).Sublist (b.variablesTo b')
  read : ((mentions.filterMap Mention.read?).map fun name => List.lookup name table).Sublist
    (literals.map some)

namespace Mentions

variable {table : Table Value} {b b' b'' : Bindings} {mentions mentions' : List Mention} {literals literals' : List Value}

theorem append (h : Mentions table b b' mentions literals) (h' : Mentions table b' b'' mentions' literals') :
    Mentions table b b'' (mentions ++ mentions') (literals ++ literals') where
  varCount := Nat.le_trans h.varCount h'.varCount
  bound := by
    rw [List.filterMap_append, ← Bindings.variablesTo_append h.varCount h'.varCount]
    exact h.bound.append h'.bound
  read := by
    rw [List.filterMap_append, List.map_append, List.map_append]
    exact h.read.append h'.read

theorem of_sublist (h : Mentions table b b' mentions literals) (hsub : mentions'.Sublist mentions) :
    Mentions table b b' mentions' literals where
  varCount := h.varCount
  bound := (hsub.filterMap _).trans h.bound
  read := ((hsub.filterMap _).map _).trans h.read

theorem extend (h : Mentions table b b' mentions literals) (hvarCount : b'.varCount ≤ b''.varCount) :
    Mentions table b b'' mentions literals where
  varCount := Nat.le_trans h.varCount hvarCount
  bound := by
    rw [← Bindings.variablesTo_append h.varCount hvarCount]
    exact h.bound.trans (List.sublist_append_left _ _)
  read := h.read

/-- A part that reads parameters and binds nothing. -/
theorem reads {names : List String} (hvarCount : b.varCount ≤ b'.varCount)
    (h : (names.map fun name => List.lookup name table).Sublist (literals.map some)) :
    Mentions table b b' (names.map .reads) literals where
  varCount := hvarCount
  bound := by
    have hnone : (names.map Mention.reads).filterMap Mention.bound? = [] := by
      rw [List.filterMap_map]
      exact List.filterMap_eq_nil_iff.mpr fun _ _ => rfl
    rw [hnone]
    exact List.nil_sublist _
  read := by
    have hsome : (names.map Mention.reads).filterMap Mention.read? = names := by
      rw [List.filterMap_map]
      exact List.filterMap_some
    rw [hsome]
    exact h

theorem nothing (hvarCount : b.varCount ≤ b'.varCount) : Mentions table b b' [] [] :=
  @reads _ _ _ _ [] hvarCount (List.Sublist.refl _)

/-- A part that reads one parameter. -/
theorem param {c : Bindings} {value : Value} (h : (c.addParam value).2.RecordedIn table)
    (hvarCount : b.varCount ≤ b'.varCount) : Mentions table b b' [.reads (c.addParam value).1] [value] := by
  have hread : [(c.addParam value).1].map (fun name => List.lookup name table) = [value].map some := by
    rw [List.map_singleton, h.addParam, List.map_singleton]
  refine @reads _ _ _ _ [(c.addParam value).1] hvarCount ?_
  rw [hread]

/-- A variable just handed out. -/
theorem binds : Mentions table b b.freshVar.2 [.binds b.freshVar.1] [] where
  varCount := Nat.le_succ _
  bound := by
    rw [Bindings.variablesTo_freshVar]
    exact List.Sublist.refl _
  read := List.Sublist.refl _

end Mentions

/-! ## Filters -/

section Filters

variable {table : Table Value}

theorem Bindings.mentions_range (b : Bindings) (operand : Operand) (op : CompareOp) (value : Value) :
    (b.range operand op value).1.mentions.Sublist [.reads (b.addParam value).1] := by
  have hsub := Condition.mentions_and_pair (.not (.isNull operand)) (b.compare operand op value).1
  rw [Condition.mentions_not] at hsub
  exact hsub

theorem PropertyTest.mentions_lower {operand : Operand} {b : Bindings} : ∀ {test : PropertyTest},
    (test.lower operand b).2.RecordedIn table →
      Mentions table b (test.lower operand b).2 (test.lower operand b).1.mentions test.literals
  | .oneOf [], _ | .isNull true, _ | .isNull false, _ => .nothing (Nat.le_refl _)
  | .oneOf (value :: rest), h =>
    .reads (Nat.le_of_eq (b.varCount_addParams (value :: rest)).symm) (h.addParams ▸ List.Sublist.refl _)
  | .eq _, h | .startsWith _, h | .endsWith _, h | .contains _, h | .matching _, h => .param h (Nat.le_refl _)
  | .lt value, h | .lte value, h | .gt value, h | .gte value, h => by
    have hread : Mentions table b (b.addParam value).2 [.reads (b.addParam value).1] [value] := .param h (Nat.le_refl _)
    exact hread.of_sublist (b.mentions_range operand _ value)

namespace Filter

mutual

/-- What the condition of a filter mentions. -/
theorem mentions_lower : ∀ {filter : Filter} {var : String} {b : Bindings}, (filter.lower var b).2.RecordedIn table →
    Mentions table b (filter.lower var b).2 (filter.lower var b).1.mentions filter.literals
  | .conj members, var, b, h => by
    rw [lower] at h ⊢
    rw [literals]
    exact (mentions_lowerAll h).of_sublist (Condition.mentions_and _)
  | .disj members, var, b, h => by
    rw [lower] at h ⊢
    rw [literals]
    exact (mentions_lowerAll h).of_sublist (Condition.mentions_or _)
  | .neg filter, var, b, h => by
    rw [lower] at h ⊢
    rw [literals, Condition.mentions_not]
    exact mentions_lower h
  | .property name test, var, b, h => by
    rw [lower] at h ⊢
    rw [literals]
    exact PropertyTest.mentions_lower h
  | .related relationship quantifier filter, var, b, h => by
    rw [lower] at h ⊢
    rw [literals, Condition.mentions]
    exact Mentions.binds.append (mentions_lower h)

theorem mentions_lowerAll : ∀ {filters : List Filter} {var : String} {b : Bindings},
    (lowerAll filters var b).2.RecordedIn table →
      Mentions table b (lowerAll filters var b).2 (Condition.mentionsOfAll (lowerAll filters var b).1)
        (literalsOfAll filters)
  | [], _, _, _ => .nothing (Nat.le_refl _)
  | filter :: rest, var, b, h => by
    rw [lowerAll] at h ⊢
    rw [literalsOfAll, Condition.mentionsOfAll]
    have hfirst := h.of_prefix (prefix_lowerAll rest var (filter.lower var b).2)
    exact (mentions_lower hfirst).append (mentions_lowerAll h)

end

end Filter

end Filters

/-! ## Cursors -/

section Cursors

variable {table : Table Value} {operandOf : OrderKey → Operand} {b b' : Bindings}

/-- What the two conditions of the bounds of a key read. -/
theorem OrderKey.mentions_bounds {key : OrderKey} {operand : Operand} {values : Table Value} {descending : Bool}
    (h : (key.bounds operand (Order.boundOf values key) descending b).2.RecordedIn table) (c : Bindings) :
    Mentions table c c (key.bounds operand (Order.boundOf values key) descending b).1.1.mentions
        (Order.literalsOf values key) ∧
      Mentions table c c (key.bounds operand (Order.boundOf values key) descending b).1.2.mentions
        (Order.literalsOf values key) := by
  unfold OrderKey.bounds at h ⊢
  unfold Order.literalsOf
  generalize Order.boundOf values key = bound at h ⊢
  cases hnull : bound.isNull with
  | true =>
    cases descending <;> exact ⟨.nothing (Nat.le_refl _), .nothing (Nat.le_refl _)⟩
  | false =>
    simp only [hnull, Bool.false_eq_true, if_false] at h ⊢
    have hread : Mentions table c c [.reads (b.addParam bound).1] [bound] := .param h (Nat.le_refl _)
    cases key.nullable && !descending with
    | true =>
      refine ⟨hread.of_sublist ?_, hread⟩
      exact Condition.mentions_or_pair (.compare operand _ (b.addParam bound).1) (.isNull operand)
    | false => exact ⟨hread, hread⟩

namespace Order

theorem mentions_seekKeys {values : Table Value} {forwards : Bool} (c : Bindings) : ∀ {keys : List OrderKey}
    {b : Bindings}, (seekKeys values forwards operandOf keys b).2.RecordedIn table →
      Mentions table c c (seekKeys values forwards operandOf keys b).1.mentions (seekLiterals values keys)
  | [], _, _ => .nothing (Nat.le_refl _)
  | [_], _, h => (OrderKey.mentions_bounds h c).1
  | key :: next :: rest, b, h => by
    obtain ⟨hpast, hat⟩ := OrderKey.mentions_bounds h c
    have hbeyond := mentions_seekKeys c (h.of_prefix Bindings.prefix_bounds)
    have hequal := (hat.append hbeyond).of_sublist (Condition.mentions_and_pair _ _)
    exact (hpast.append hequal).of_sublist (Condition.mentions_or_pair _ _)

theorem mentions_seekCursor {order : Order} {cursor : Option String} {forwards : Bool} {conditions : List Condition}
    (c : Bindings) (h : order.seekCursor cursor forwards operandOf b = .ok (conditions, b'))
    (hrecorded : b'.RecordedIn table) :
    Mentions table c c (Condition.mentionsOfAll conditions) (order.cursorLiterals cursor) := by
  obtain ⟨_, _, h⟩ := seekCursor_eq_ok h
  cases cursor with
  | none =>
    obtain ⟨rfl, _⟩ := h
    exact .nothing (Nat.le_refl _)
  | some cursor =>
    obtain ⟨values, hvalues, rfl, rfl⟩ := h
    rw [Condition.mentionsOfAll_singleton, cursorLiterals]
    simp only [hvalues]
    exact mentions_seekKeys c hrecorded

end Order

/-- What the condition of the cursors reads. -/
theorem Options.mentions_seek {options : Options} {condition : Condition} (c : Bindings)
    (h : options.seek operandOf b = .ok (condition, b')) (hrecorded : b'.RecordedIn table) :
    Mentions table c c condition.mentions options.literals := by
  obtain ⟨after, b₁, before, hafter, hbefore, rfl⟩ := Options.seek_eq_ok h
  have hrecorded₁ := hrecorded.of_prefix (Order.seekCursor_eq_ok hbefore).1
  have hboth := (Order.mentions_seekCursor c hafter hrecorded₁).append (Order.mentions_seekCursor c hbefore hrecorded)
  rw [← Condition.mentionsOfAll_append] at hboth
  exact hboth.of_sublist (Condition.mentions_and _)

end Cursors

/-! ## Blocks -/

section Blocks

variable {schema : Schema} {table : Table Value}

/-- What the blocks of several branches mention, each branch accounting for its own. -/
theorem Compiles.mentions {entity : EntityType} {var : String} {branches : List Branch} {children : List Block}
    {b b' : Bindings} (h : Compiles schema entity var branches b children b') (hrecorded : b'.RecordedIn table)
    (hbranch : ∀ branch ∈ branches, ∀ {resultKey subQuery onlyOnTypes b b' block},
      branch.sub.query.compile schema (.traversal var branch.sub.relationship.label branch.sub.relationship.direction)
        resultKey subQuery onlyOnTypes b = .ok (block, b') → b'.RecordedIn table →
          Mentions table b b' block.mentions branch.sub.query.literals) :
    Mentions table b b' (Block.mentionsOfAll children) (branches.flatMap fun branch => branch.sub.query.literals) := by
  induction h with
  | nil b => exact .nothing (Nat.le_refl _)
  | cons _ hchild hrest ih =>
    obtain ⟨hfirst, hbranches⟩ := List.forall_mem_cons.mp hbranch
    rw [Block.mentionsOfAll, List.flatMap_cons]
    exact (hfirst hchild (hrecorded.of_prefix hrest.values)).append (ih hrecorded hbranches)

/-- What the block of a level mentions, given what its source mentions. -/
theorem Level.mentions_compile : ∀ {level : Level} {source : Source} {resultKey : String} {subQuery : Nat}
    {onlyOnTypes : Option (List String)} {b₀ b b' : Bindings} {block : Block} {literals : List Value},
      level.compile schema source resultKey subQuery onlyOnTypes b = .ok (block, b') → b'.RecordedIn table →
        Mentions table b₀ b source.mentions literals →
          Mentions table b₀ b' block.mentions (literals ++ level.literals) := by
  intro level
  induction level using Level.induct with
  | step level ih =>
    intro source resultKey subQuery onlyOnTypes b₀ b b' block literals h hrecorded hsource
    obtain ⟨entity, seek, b₁, children, _, _, hseek, hchildren, rfl⟩ := Level.compile_eq_ok.mp h
    have hrecorded₁ : b₁.RecordedIn table := hrecorded.of_prefix hchildren.values
    have hseekPrefix := Options.prefix_seek hseek
    have hcondition := Filter.mentions_lower (Bindings.RecordedIn.of_prefix hrecorded₁ hseekPrefix.1)
    have hbelow := hchildren.mentions hrecorded fun branch hbranch _ _ _ _ _ _ hcompile hr =>
      ih branch hbranch hcompile hr (.nothing (Nat.le_refl _))
    have hcursors := (Options.mentions_seek _ hseek hrecorded₁).extend (Nat.le_of_eq hseekPrefix.2.symm)
    rw [Level.block, Block.mentions, Level.literals, Level.gather_eq, List.append_assoc level.condition.literals]
    exact hsource.append (Mentions.binds.append (hcondition.append (hcursors.append hbelow)))

end Blocks

/-! ## Statements -/

section Statements

variable {schema : Schema} {plan : Plan} {statement : Statement}

/-- Where the nodes of a plan come from mentions the parameter for the node it starts from. -/
theorem Plan.mentions_source {table : Table Value} {anchor : Option Anchor} {source : Source} {b b' : Bindings}
    (h : Plan.source schema b anchor = .ok (source, b')) (hrecorded : b'.RecordedIn table) :
    Mentions table b b' source.mentions (anchor.map (·.parentId)).toList := by
  cases anchor with
  | none =>
    cases h
    exact .nothing (Nat.le_refl _)
  | some anchor =>
    obtain ⟨_, _, h⟩ := Result.bind_eq_ok.mp h
    obtain ⟨_, _, h⟩ := Result.bind_eq_ok.mp h
    cases h
    exact .param hrecorded (Nat.le_refl _)

/-- What the statement of a plan mentions. -/
theorem Plan.mentions_compile (h : plan.compile schema = .ok statement) :
    ∃ b', Mentions statement.params .empty b' statement.root.mentions plan.literals := by
  obtain ⟨source, b, b', hsource, hroot, hparams⟩ := Plan.compile_eq_ok h
  have hrecorded : b'.RecordedIn statement.params := by
    rw [hparams]
    exact fun _ _ => Bindings.lookup_params
  have hgrows := (b.grows_freshVar.trans (Level.grows hroot).1).values
  exact ⟨b', Level.mentions_compile hroot hrecorded (Plan.mentions_source hsource (hrecorded.of_prefix hgrows))⟩

/-- No two of the variables that a statement binds are the same. -/
theorem Plan.nodup_variableNames (h : plan.compile schema = .ok statement) : statement.variableNames.Nodup := by
  obtain ⟨b', hmentions⟩ := Plan.mentions_compile h
  exact Bindings.nodup_variablesTo.sublist hmentions.bound

/-- The parameters that a statement reads have the values that the plan wants compared. -/
theorem Plan.values_parameterNames (h : plan.compile schema = .ok statement) :
    (statement.parameterNames.map fun name => List.lookup name statement.params).Sublist (plan.literals.map some) := by
  obtain ⟨b', hmentions⟩ := Plan.mentions_compile h
  exact hmentions.read

end Statements

end GraphQuery
