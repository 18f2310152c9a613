import GraphQuery.Proofs.Cursor.Seek

/-!
# The names of a statement

Compiling hands out variables and parameters in order (`Level.grows`), so sibling blocks have variables of their own
(`Compiles.nodup_vars`), and the parameters of a statement have the values registered for them
(`Plan.knows_of_compile`).
-/

namespace GraphQuery

namespace Bindings

theorem repr_injective {i j : Nat} (h : toString i = toString j) : i = j := by
  have hdigits : Nat.toDigits 10 i = Nat.toDigits 10 j := by
    rw [← Nat.toList_repr, ← Nat.toList_repr]
    exact congrArg String.toList h
  rw [← @Nat.ofDigitChars_ten_toDigits i, hdigits, Nat.ofDigitChars_ten_toDigits]

theorem variableName_injective {i j : Nat} (h : variableName i = variableName j) : i = j := by
  refine repr_injective (String.toList_injective ?_)
  have hl := congrArg String.toList h
  simpa [variableName] using hl

theorem paramName_injective {i j : Nat} (h : paramName i = paramName j) : i = j := by
  refine repr_injective (String.toList_injective ?_)
  have hl := congrArg String.toList h
  simpa [paramName] using hl

/-- Whether names are handed out from one state to another. -/
structure Grows (b b' : Bindings) : Prop where
  values : b.values <+: b'.values
  varCount : b.varCount ≤ b'.varCount

namespace Grows

variable {b b' b'' : Bindings}

theorem refl (b : Bindings) : Grows b b := ⟨List.prefix_refl _, Nat.le_refl _⟩

theorem trans (h : Grows b b') (h' : Grows b' b'') : Grows b b'' :=
  ⟨h.values.trans h'.values, Nat.le_trans h.varCount h'.varCount⟩

end Grows

theorem grows_freshVar (b : Bindings) : Grows b b.freshVar.2 := ⟨List.prefix_refl _, Nat.le_succ _⟩

theorem varCount_addParams : ∀ (values : List Value) (b : Bindings), (b.addParams values).2.varCount = b.varCount
  | [], _ => rfl
  | value :: rest, b => varCount_addParams rest (b.addParam value).2

end Bindings

theorem PropertyTest.varCount_lower (operand : Operand) (b : Bindings) : ∀ test : PropertyTest,
    (test.lower operand b).2.varCount = b.varCount
  | .oneOf [] | .isNull true | .isNull false => rfl
  | .oneOf (value :: rest) => b.varCount_addParams (value :: rest)
  | .eq _ | .lt _ | .lte _ | .gt _ | .gte _ | .startsWith _ | .endsWith _ | .contains _ | .matching _ => rfl

namespace Filter

mutual

theorem varCount_lower : ∀ (filter : Filter) (var : String) (b : Bindings),
    b.varCount ≤ (filter.lower var b).2.varCount
  | conj members, var, b | disj members, var, b => by
    rw [lower]
    exact varCount_lowerAll members var b
  | neg filter, var, b => by
    rw [lower]
    exact varCount_lower filter var b
  | property name test, var, b => by
    rw [lower]
    exact Nat.le_of_eq (test.varCount_lower _ b).symm
  | related relationship quantifier filter, var, b => by
    rw [lower]
    exact Nat.le_trans (Nat.le_succ _) (varCount_lower filter b.freshVar.1 b.freshVar.2)

theorem varCount_lowerAll : ∀ (filters : List Filter) (var : String) (b : Bindings),
    b.varCount ≤ (lowerAll filters var b).2.varCount
  | [], _, _ => Nat.le_refl _
  | filter :: rest, var, b => by
    rw [lowerAll]
    exact Nat.le_trans (varCount_lower filter var b) (varCount_lowerAll rest var (filter.lower var b).2)

end

theorem grows_lower (filter : Filter) (var : String) (b : Bindings) : b.Grows (filter.lower var b).2 :=
  ⟨prefix_lower filter var b, varCount_lower filter var b⟩

end Filter

section Compiling

variable {schema : Schema} {entity : EntityType} {var : String}

/-- Sibling blocks have variables handed out while they were compiled. -/
theorem Compiles.grows {branches : List Branch} {children : List Block} {b b' : Bindings}
    (h : Compiles schema entity var branches b children b')
    (hbranch : ∀ branch ∈ branches, ∀ {source resultKey subQuery onlyOnTypes b b' block},
      branch.sub.query.compile schema source resultKey subQuery onlyOnTypes b = .ok (block, b') →
        b.freshVar.2.Grows b' ∧ block.var = b.freshVar.1) :
    b.Grows b' ∧ (∀ child ∈ children, ∃ k, b.varCount ≤ k ∧ k < b'.varCount ∧ child.var = Bindings.variableName k) ∧
      (children.map (·.var)).Nodup := by
  induction h with
  | nil b => exact ⟨.refl b, nofun, .nil⟩
  | @cons branch rest child children b b₁ b₂ hrequire hchild hrest ih =>
    obtain ⟨hfirst, hrestBranches⟩ := List.forall_mem_cons.mp hbranch
    obtain ⟨hgrows, hvar⟩ := hfirst hchild
    obtain ⟨hgrows', hvars, hnodup⟩ := ih hrestBranches
    have hlt : b.varCount < b₁.varCount := hgrows.varCount
    refine ⟨(b.grows_freshVar.trans hgrows).trans hgrows', fun c hc => ?_, ?_⟩
    · rcases List.mem_cons.mp hc with rfl | hc
      · exact ⟨b.varCount, Nat.le_refl _, Nat.lt_of_lt_of_le hlt hgrows'.varCount, hvar⟩
      · obtain ⟨k, hle, hk, hname⟩ := hvars c hc
        exact ⟨k, by omega, hk, hname⟩
    · refine List.nodup_cons.mpr ⟨fun hmem => ?_, hnodup⟩
      obtain ⟨c, hc, hsame⟩ := List.mem_map.mp hmem
      obtain ⟨k, hle, _, hname⟩ := hvars c hc
      have heq : k = b.varCount := Bindings.variableName_injective (hname.symm.trans (hsame.trans hvar))
      omega

/-- Compiling a level hands out its variable first. -/
theorem Level.grows : ∀ {level : Level} {source : Source} {resultKey : String} {subQuery : Nat}
    {onlyOnTypes : Option (List String)} {b b' : Bindings} {block : Block},
      level.compile schema source resultKey subQuery onlyOnTypes b = .ok (block, b') →
        b.freshVar.2.Grows b' ∧ block.var = b.freshVar.1 := by
  intro level
  induction level using Level.induct with
  | step level ih =>
    intro source resultKey subQuery onlyOnTypes b b' block h
    obtain ⟨entity, seek, b₁, children, _, _, hseek, hchildren, rfl⟩ := Level.compile_eq_ok.mp h
    obtain ⟨hvalues, hcount⟩ := Options.prefix_seek hseek
    have hlower := Filter.grows_lower level.condition b.freshVar.1 b.freshVar.2
    have hb₁ : b.freshVar.2.Grows b₁ := hlower.trans ⟨hvalues, Nat.le_of_eq hcount.symm⟩
    exact ⟨hb₁.trans (hchildren.grows fun branch hbranch => ih branch hbranch).1, rfl⟩

theorem Compiles.nodup_vars {branches : List Branch} {children : List Block} {b b' : Bindings}
    (h : Compiles schema entity var branches b children b') : (children.map (·.var)).Nodup :=
  (h.grows fun _ _ => Level.grows).2.2

theorem Compiles.values {branches : List Branch} {children : List Block} {b b' : Bindings}
    (h : Compiles schema entity var branches b children b') : b.values <+: b'.values :=
  (h.grows fun _ _ => Level.grows).1.values

end Compiling

/-! ## The parameters of a statement -/

theorem Table.lookup_map {α β : Type} (f : α → β) (key : String) : ∀ entries : List (String × α),
    List.lookup key (entries.map fun (name, entry) => (name, f entry)) = (List.lookup key entries).map f
  | [] => rfl
  | (name, entry) :: rest => by
    rw [List.map_cons, lookup_cons, lookup_cons, lookup_map f key rest]
    split <;> rfl

/-- The table of the parameters has every value under its name. -/
theorem Bindings.lookup_params {b : Bindings} {i : Nat} {value : Value} (h : b.values[i]? = some value) :
    List.lookup (paramName i) b.params = some value := by
  have hnodup : ((b.values.zipIdx.map fun entry => (paramName entry.2, entry.1)).map (·.1)).Nodup := by
    rw [List.map_map]
    have hindices : (b.values.zipIdx.map (·.2)).Nodup := by
      rw [List.zipIdx_map_snd]
      exact List.nodup_range'
    have hnames : ((b.values.zipIdx.map (·.2)).map paramName).Nodup :=
      List.pairwise_map.mpr (hindices.imp fun hne heq => hne (paramName_injective heq))
    rwa [List.map_map] at hnames
  refine (Table.lookup_ofList hnodup).trans (Table.lookup_of_mem hnodup (List.mem_map.mpr ⟨(value, i), ?_, rfl⟩))
  exact List.mem_zipIdx_iff_getElem?.mpr h

/-- What conditions of a statement are evaluated in. -/
def Graph.evaluation [PropertyTable] (graph : Graph) (statement : Statement) : Evaluation :=
  ⟨graph, statement.params.map fun (name, value) => (name, .ofValue value)⟩

theorem Graph.knows_of_params [PropertyTable] {graph : Graph} {statement : Statement} {b : Bindings}
    (h : statement.params = b.params) : (graph.evaluation statement).Knows b := by
  intro i value hvalue
  rw [Evaluation.argument, evaluation, h, Table.lookup_map, Bindings.lookup_params hvalue]
  rfl

/-- What the statement of a plan is compiled from. -/
theorem Plan.compile_eq_ok {schema : Schema} {plan : Plan} {statement : Statement}
    (h : plan.compile schema = .ok statement) : ∃ source b b',
      Plan.source schema .empty plan.anchor = .ok (source, b) ∧
      plan.root.compile schema source "" 0 none b = .ok (statement.root, b') ∧ statement.params = b'.params := by
  obtain ⟨⟨source, b⟩, hsource, h⟩ := Result.bind_eq_ok.mp h
  obtain ⟨⟨root, b'⟩, hroot, h⟩ := Result.bind_eq_ok.mp h
  cases h
  exact ⟨source, b, b', hsource, hroot, rfl⟩

end GraphQuery
