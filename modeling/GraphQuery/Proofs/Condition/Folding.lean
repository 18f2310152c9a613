import GraphQuery.Graph.Truth
import GraphQuery.Proofs.Result

/-!
# The truth of folded conditions

Folding constants and nesting away does not change the truth of a condition, save that a member that is the constant
false (true) decides a conjunction (disjunction) before any other member is looked at: `Evaluation.truth_and`,
`Evaluation.truth_or` and `Evaluation.truth_not`.

Which constant a folded condition is follows from the constants among its members by Kleene's tables
(`Condition.constant?_and`, `Condition.constant?_or`, `Condition.constant?_not`), since folding leaves no constant and no
lone member below a connective (`Condition.Proper`).
-/

namespace GraphQuery

namespace Truth

@[simp] theorem not_not (a : Option Bool) : Truth.not (Truth.not a) = a := by cases a <;> simp [Truth.not]

@[simp] theorem and_true (a : Option Bool) : Truth.and a (some true) = a := by
  rcases a with _ | _ | _ <;> rfl

@[simp] theorem true_and (a : Option Bool) : Truth.and (some true) a = a := by
  rcases a with _ | _ | _ <;> rfl

@[simp] theorem false_and (a : Option Bool) : Truth.and (some false) a = some false := by
  rcases a with _ | _ | _ <;> rfl

@[simp] theorem or_false (a : Option Bool) : Truth.or a (some false) = a := by
  rcases a with _ | _ | _ <;> rfl

@[simp] theorem false_or (a : Option Bool) : Truth.or (some false) a = a := by
  rcases a with _ | _ | _ <;> rfl

@[simp] theorem true_or (a : Option Bool) : Truth.or (some true) a = some true := by
  rcases a with _ | _ | _ <;> rfl

theorem and_eq_true {a b : Option Bool} : Truth.and a b = some true ↔ a = some true ∧ b = some true := by
  rcases a with _ | _ | _ <;> rcases b with _ | _ | _ <;> simp [Truth.and]

theorem and_eq_false {a b : Option Bool} : Truth.and a b = some false ↔ a = some false ∨ b = some false := by
  rcases a with _ | _ | _ <;> rcases b with _ | _ | _ <;> simp [Truth.and]

theorem or_eq_true {a b : Option Bool} : Truth.or a b = some true ↔ a = some true ∨ b = some true := by
  rcases a with _ | _ | _ <;> rcases b with _ | _ | _ <;> simp [Truth.or]

theorem or_eq_false {a b : Option Bool} : Truth.or a b = some false ↔ a = some false ∧ b = some false := by
  rcases a with _ | _ | _ <;> rcases b with _ | _ | _ <;> simp [Truth.or]

/-- A conjunction whose second part is asked for only when the first is not false. -/
def andThen (first second : Result (Option Bool)) : Result (Option Bool) := do
  match ← first with
  | some false => return some false
  | known => return Truth.and known (← second)

/-- A disjunction whose second part is asked for only when the first is not true. -/
def orElse (first second : Result (Option Bool)) : Result (Option Bool) := do
  match ← first with
  | some true => return some true
  | known => return Truth.or known (← second)

section Sequences

variable {a b c : Result (Option Bool)}

@[simp] theorem andThen_error (e : Error) : andThen (.error e) b = .error e := rfl

@[simp] theorem andThen_false : andThen (.ok (some false)) b = .ok (some false) := rfl

@[simp] theorem andThen_true : andThen (.ok (some true)) b = b := by
  cases b with
  | error e => rfl
  | ok t => rcases t with _ | _ | _ <;> rfl

@[simp] theorem andThen_unknown : andThen (.ok none) b = Truth.and none <$> b := by cases b <;> rfl

theorem andThen_ok_true : andThen a (.ok (some true)) = a := by
  rcases a with _ | _ | _ | _ <;> rfl

theorem andThen_assoc : andThen (andThen a b) c = andThen a (andThen b c) := by
  rcases a with _ | _ | _ | _
  · rfl
  · -- an unknown first part: the second part decides whether the third is asked for
    rcases b with _ | _ | _ | _ <;> rcases c with _ | _ | _ | _ <;> rfl
  · rfl
  · simp

theorem andThen_eq_true : andThen a b = .ok (some true) ↔ a = .ok (some true) ∧ b = .ok (some true) := by
  rcases a with _ | _ | _ | _ <;> rcases b with _ | _ | _ | _ <;> simp [Truth.and]

theorem andThen_eq_false (h : andThen a b = .ok (some false)) : a = .ok (some false) ∨ b = .ok (some false) := by
  rcases a with _ | _ | _ | _ <;> rcases b with _ | _ | _ | _ <;> simp_all [Truth.and]

theorem andThen_eq_unknown (h : andThen a b = .ok none) : a = .ok none ∨ b = .ok none := by
  rcases a with _ | _ | _ | _ <;> rcases b with _ | _ | _ | _ <;> simp_all [Truth.and]

@[simp] theorem orElse_error (e : Error) : orElse (.error e) b = .error e := rfl

@[simp] theorem orElse_true : orElse (.ok (some true)) b = .ok (some true) := rfl

@[simp] theorem orElse_false : orElse (.ok (some false)) b = b := by
  cases b with
  | error e => rfl
  | ok t => rcases t with _ | _ | _ <;> rfl

@[simp] theorem orElse_unknown : orElse (.ok none) b = Truth.or none <$> b := by cases b <;> rfl

theorem orElse_ok_false : orElse a (.ok (some false)) = a := by
  rcases a with _ | _ | _ | _ <;> rfl

theorem orElse_assoc : orElse (orElse a b) c = orElse a (orElse b c) := by
  rcases a with _ | _ | _ | _
  · rfl
  · rcases b with _ | _ | _ | _ <;> rcases c with _ | _ | _ | _ <;> rfl
  · simp
  · rfl

theorem orElse_eq_false : orElse a b = .ok (some false) ↔ a = .ok (some false) ∧ b = .ok (some false) := by
  rcases a with _ | _ | _ | _ <;> rcases b with _ | _ | _ | _ <;> simp [Truth.or]

theorem orElse_eq_true (h : orElse a b = .ok (some true)) : a = .ok (some true) ∨ b = .ok (some true) := by
  rcases a with _ | _ | _ | _ <;> rcases b with _ | _ | _ | _ <;> simp_all [Truth.or]

/-- Nothing is known of a disjunction only when both parts have been asked for. -/
theorem orElse_eq_unknown (h : orElse a b = .ok none) :
    a = .ok none ∧ (b = .ok none ∨ b = .ok (some false)) ∨ a = .ok (some false) ∧ b = .ok none := by
  rcases a with _ | _ | _ | _ <;> rcases b with _ | _ | _ | _ <;> simp_all [Truth.or]

end Sequences

end Truth

namespace Evaluation

variable [PropertyTable] {e : Evaluation} {scope : Scope}

theorem truthOfAll_cons (c : Condition) (cs : List Condition) :
    e.truthOfAll (c :: cs) scope = Truth.andThen (e.truth c scope) (e.truthOfAll cs scope) := by
  rw [truthOfAll]
  rfl

theorem truthOfAny_cons (c : Condition) (cs : List Condition) :
    e.truthOfAny (c :: cs) scope = Truth.orElse (e.truth c scope) (e.truthOfAny cs scope) := by
  rw [truthOfAny]
  rfl

theorem truthOfAll_append : ∀ cs ds : List Condition,
    e.truthOfAll (cs ++ ds) scope = Truth.andThen (e.truthOfAll cs scope) (e.truthOfAll ds scope)
  | [], ds => by rw [List.nil_append, truthOfAll, Truth.andThen_true]
  | c :: cs, ds => by
    rw [List.cons_append, truthOfAll_cons, truthOfAll_append cs ds, truthOfAll_cons, Truth.andThen_assoc]

theorem truthOfAny_append : ∀ cs ds : List Condition,
    e.truthOfAny (cs ++ ds) scope = Truth.orElse (e.truthOfAny cs scope) (e.truthOfAny ds scope)
  | [], ds => by rw [List.nil_append, truthOfAny, Truth.orElse_false]
  | c :: cs, ds => by
    rw [List.cons_append, truthOfAny_cons, truthOfAny_append cs ds, truthOfAny_cons, Truth.orElse_assoc]

end Evaluation

namespace Condition

/-- The constant that a condition is, if it is one. -/
def constant? : Condition → Option Bool
  | always => some true
  | never => some false
  | _ => none

/-- The conjunction of the constants among several conditions, the others unknown. -/
def constantOfAll (conditions : List Condition) : Option Bool :=
  conditions.foldr (fun c known => Truth.and c.constant? known) (some true)

/-- The disjunction of the constants among several conditions, the others unknown. -/
def constantOfAny (conditions : List Condition) : Option Bool :=
  conditions.foldr (fun c known => Truth.or c.constant? known) (some false)

/-- No constant and no lone member stands below the outermost connective. -/
def Proper : Condition → Prop
  | conj members | disj members => 2 ≤ members.length
  | neg condition => condition.constant? = none ∧ condition.Proper
  | _ => True

/-! ## Gathering -/

/-- The members that are gathered from several conditions for a connective: its unit is left out, the members of a nested
one are taken over, and whatever else there is stays a member. -/
inductive Flattened (unit : Condition) (nested : List Condition → Condition) : List Condition → List Condition → Prop
  | nil : Flattened unit nested [] []
  | unit {conditions members : List Condition} : Flattened unit nested conditions members →
      Flattened unit nested (unit :: conditions) members
  | nested (inner : List Condition) {conditions members : List Condition} : Flattened unit nested conditions members →
      Flattened unit nested (nested inner :: conditions) (inner ++ members)
  | member (c : Condition) {conditions members : List Condition} : Flattened unit nested conditions members →
      Flattened unit nested (c :: conditions) (c :: members)

theorem flattened_conjuncts {conditions members : List Condition} (h : conjuncts conditions = some members) :
    Flattened always conj conditions members := by
  fun_induction conjuncts conditions generalizing members with
  | case1 =>
    cases h
    exact .nil
  | case2 rest ih => exact .unit (ih h)
  | case3 => cases h
  | case4 inner rest ih =>
    obtain ⟨others, hothers, rfl⟩ := Option.map_eq_some_iff.mp h
    exact .nested inner (ih hothers)
  | case5 c rest _ _ _ ih =>
    obtain ⟨others, hothers, rfl⟩ := Option.map_eq_some_iff.mp h
    exact .member c (ih hothers)

theorem flattened_disjuncts {conditions members : List Condition} (h : disjuncts conditions = some members) :
    Flattened never disj conditions members := by
  fun_induction disjuncts conditions generalizing members with
  | case1 =>
    cases h
    exact .nil
  | case2 rest ih => exact .unit (ih h)
  | case3 => cases h
  | case4 inner rest ih =>
    obtain ⟨others, hothers, rfl⟩ := Option.map_eq_some_iff.mp h
    exact .nested inner (ih hothers)
  | case5 c rest _ _ _ ih =>
    obtain ⟨others, hothers, rfl⟩ := Option.map_eq_some_iff.mp h
    exact .member c (ih hothers)

theorem append_ne_singleton {inner members : List Condition} (h : 2 ≤ inner.length) (c : Condition) :
    inner ++ members ≠ [c] := by
  intro heq
  have hlength := congrArg List.length heq
  rw [List.length_append, List.length_singleton] at hlength
  omega

/-! ## Conjunctions -/

theorem conjuncts_cons_of_plain {c : Condition} (rest : List Condition) (hconst : c.constant? = none)
    (hconj : ∀ members, c ≠ conj members) : conjuncts (c :: rest) = (conjuncts rest).map (c :: ·) := by
  cases c with
  | always => cases hconst
  | never => cases hconst
  | conj members => exact absurd rfl (hconj members)
  | _ => rfl

/-- What the members gathered for a conjunction say of the conditions: these are constantly true when there are none and
no constant otherwise, and a lone one is proper. -/
structure Gathered (conditions members : List Condition) : Prop where
  constant : constantOfAll conditions = if members = [] then some true else none
  lone : ∀ c, members = [c] → c.constant? = none ∧ c.Proper

theorem constantOfAll_cons (c : Condition) (cs : List Condition) :
    constantOfAll (c :: cs) = Truth.and c.constant? (constantOfAll cs) := rfl

namespace Gathered

variable {rest members : List Condition}

theorem nested {inner : List Condition} (hlength : 2 ≤ inner.length) (hg : Gathered rest members) :
    Gathered (conj inner :: rest) (inner ++ members) := by
  refine ⟨?_, fun d hd => absurd hd (append_ne_singleton hlength d)⟩
  have hne : inner ++ members ≠ [] := List.append_ne_nil_of_left_ne_nil (List.ne_nil_of_length_pos (by omega)) _
  rw [constantOfAll_cons, hg.constant, if_neg hne]
  show Truth.and none _ = none
  split <;> rfl

theorem member {c : Condition} (hconst : c.constant? = none) (hc : c.Proper) (hg : Gathered rest members) :
    Gathered (c :: rest) (c :: members) := by
  refine ⟨?_, fun d hd => ?_⟩
  · rw [constantOfAll_cons, hconst, hg.constant, if_neg (List.cons_ne_nil _ _)]
    split <;> rfl
  · obtain ⟨rfl, _⟩ := List.cons.inj hd
    exact ⟨hconst, hc⟩

theorem unit (hg : Gathered rest members) : Gathered (always :: rest) members := by
  refine ⟨?_, hg.lone⟩
  rw [constantOfAll_cons, hg.constant]
  exact Truth.true_and _

end Gathered

theorem conjuncts_spec : ∀ {conditions : List Condition}, (∀ c ∈ conditions, c.Proper) →
    (conjuncts conditions = none ∧ constantOfAll conditions = some false) ∨
      ∃ members, conjuncts conditions = some members ∧ Gathered conditions members
  | [], _ => .inr ⟨[], rfl, rfl, nofun⟩
  | c :: rest, h => by
    obtain ⟨hc, hrest⟩ := List.forall_mem_cons.mp h
    rcases conjuncts_spec hrest with ⟨hnone, hfalse⟩ | ⟨members, hsome, hg⟩
    · -- a later member is the constant false
      left
      rw [constantOfAll_cons, hfalse]
      refine ⟨?_, by rcases c.constant? with _ | _ | _ <;> rfl⟩
      cases c <;> simp [conjuncts, hnone]
    · by_cases hconst : c.constant? = none
      · right
        by_cases hnested : ∃ inner, c = conj inner
        · obtain ⟨inner, rfl⟩ := hnested
          exact ⟨inner ++ members, by rw [conjuncts, hsome]; rfl, hg.nested hc⟩
        · have hplain := conjuncts_cons_of_plain rest hconst fun inner hinner => hnested ⟨inner, hinner⟩
          exact ⟨c :: members, by rw [hplain, hsome]; rfl, hg.member hconst hc⟩
      · cases c with
        | always => exact .inr ⟨members, hsome, hg.unit⟩
        | never => exact .inl ⟨rfl, Truth.false_and (constantOfAll rest)⟩
        | _ => exact absurd rfl hconst

/-- The constant that a folded conjunction is. -/
theorem constant?_and {conditions : List Condition} (h : ∀ c ∈ conditions, c.Proper) :
    (Condition.and conditions).constant? = constantOfAll conditions ∧ (Condition.and conditions).Proper := by
  unfold Condition.and
  rcases conjuncts_spec h with ⟨hnone, hfalse⟩ | ⟨members, hsome, hg⟩
  · rw [hnone, hfalse]
    exact ⟨rfl, trivial⟩
  · rw [hsome, hg.constant]
    match members, hg.lone with
    | [], _ => exact ⟨rfl, trivial⟩
    | [c], hlone => exact hlone c rfl
    | _ :: _ :: _, _ => exact ⟨rfl, Nat.le_add_left 2 _⟩

/-! ## Disjunctions -/

theorem disjuncts_cons_of_plain {c : Condition} (rest : List Condition) (hconst : c.constant? = none)
    (hdisj : ∀ members, c ≠ disj members) : disjuncts (c :: rest) = (disjuncts rest).map (c :: ·) := by
  cases c with
  | always => cases hconst
  | never => cases hconst
  | disj members => exact absurd rfl (hdisj members)
  | _ => rfl

/-- What the members gathered for a disjunction say of the conditions. -/
structure Spread (conditions members : List Condition) : Prop where
  constant : constantOfAny conditions = if members = [] then some false else none
  lone : ∀ c, members = [c] → c.constant? = none ∧ c.Proper

theorem constantOfAny_cons (c : Condition) (cs : List Condition) :
    constantOfAny (c :: cs) = Truth.or c.constant? (constantOfAny cs) := rfl

namespace Spread

variable {rest members : List Condition}

theorem nested {inner : List Condition} (hlength : 2 ≤ inner.length) (hs : Spread rest members) :
    Spread (disj inner :: rest) (inner ++ members) := by
  refine ⟨?_, fun d hd => absurd hd (append_ne_singleton hlength d)⟩
  have hne : inner ++ members ≠ [] := List.append_ne_nil_of_left_ne_nil (List.ne_nil_of_length_pos (by omega)) _
  rw [constantOfAny_cons, hs.constant, if_neg hne]
  show Truth.or none _ = none
  split <;> rfl

theorem member {c : Condition} (hconst : c.constant? = none) (hc : c.Proper) (hs : Spread rest members) :
    Spread (c :: rest) (c :: members) := by
  refine ⟨?_, fun d hd => ?_⟩
  · rw [constantOfAny_cons, hconst, hs.constant, if_neg (List.cons_ne_nil _ _)]
    split <;> rfl
  · obtain ⟨rfl, _⟩ := List.cons.inj hd
    exact ⟨hconst, hc⟩

theorem unit (hs : Spread rest members) : Spread (never :: rest) members := by
  refine ⟨?_, hs.lone⟩
  rw [constantOfAny_cons, hs.constant]
  exact Truth.false_or _

end Spread

theorem disjuncts_spec : ∀ {conditions : List Condition}, (∀ c ∈ conditions, c.Proper) →
    (disjuncts conditions = none ∧ constantOfAny conditions = some true) ∨
      ∃ members, disjuncts conditions = some members ∧ Spread conditions members
  | [], _ => .inr ⟨[], rfl, rfl, nofun⟩
  | c :: rest, h => by
    obtain ⟨hc, hrest⟩ := List.forall_mem_cons.mp h
    rcases disjuncts_spec hrest with ⟨hnone, htrue⟩ | ⟨members, hsome, hs⟩
    · -- a later member is the constant true
      left
      rw [constantOfAny_cons, htrue]
      refine ⟨?_, by rcases c.constant? with _ | _ | _ <;> rfl⟩
      cases c <;> simp [disjuncts, hnone]
    · by_cases hconst : c.constant? = none
      · right
        by_cases hnested : ∃ inner, c = disj inner
        · obtain ⟨inner, rfl⟩ := hnested
          exact ⟨inner ++ members, by rw [disjuncts, hsome]; rfl, hs.nested hc⟩
        · have hplain := disjuncts_cons_of_plain rest hconst fun inner hinner => hnested ⟨inner, hinner⟩
          exact ⟨c :: members, by rw [hplain, hsome]; rfl, hs.member hconst hc⟩
      · cases c with
        | never => exact .inr ⟨members, hsome, hs.unit⟩
        | always => exact .inl ⟨rfl, Truth.true_or (constantOfAny rest)⟩
        | _ => exact absurd rfl hconst

/-- The constant that a folded disjunction is. -/
theorem constant?_or {conditions : List Condition} (h : ∀ c ∈ conditions, c.Proper) :
    (Condition.or conditions).constant? = constantOfAny conditions ∧ (Condition.or conditions).Proper := by
  unfold Condition.or
  rcases disjuncts_spec h with ⟨hnone, htrue⟩ | ⟨members, hsome, hs⟩
  · rw [hnone, htrue]
    exact ⟨rfl, trivial⟩
  · rw [hsome, hs.constant]
    match members, hs.lone with
    | [], _ => exact ⟨rfl, trivial⟩
    | [c], hlone => exact hlone c rfl
    | _ :: _ :: _, _ => exact ⟨rfl, Nat.le_add_left 2 _⟩

/-! ## Negations -/

/-- The constant that a folded negation is. -/
theorem constant?_not {condition : Condition} (h : condition.Proper) :
    (Condition.not condition).constant? = Truth.not condition.constant? ∧ (Condition.not condition).Proper := by
  cases condition with
  | neg inner =>
    refine ⟨?_, h.2⟩
    show inner.constant? = none
    exact h.1
  | always => exact ⟨rfl, trivial⟩
  | never => exact ⟨rfl, trivial⟩
  | conj members => exact ⟨rfl, rfl, h⟩
  | disj members => exact ⟨rfl, rfl, h⟩
  | _ => exact ⟨rfl, rfl, trivial⟩

/-! ## Pairs -/

variable {c d : Condition}

theorem proper_pair (hc : c.Proper) (hd : d.Proper) : ∀ x ∈ [c, d], x.Proper := by
  intro x hx
  rcases List.mem_cons.mp hx with rfl | hx
  · exact hc
  · exact List.mem_singleton.mp hx ▸ hd

theorem proper_and_pair (hc : c.Proper) (hd : d.Proper) : (Condition.and [c, d]).Proper :=
  (constant?_and (proper_pair hc hd)).2

theorem proper_or_pair (hc : c.Proper) (hd : d.Proper) : (Condition.or [c, d]).Proper :=
  (constant?_or (proper_pair hc hd)).2

end Condition

namespace Evaluation

variable [PropertyTable] {e : Evaluation} {scope : Scope} {conditions : List Condition}

/-- Conditions and the members gathered from them for a conjunction are true alike. -/
theorem truthOfAll_flattened {members : List Condition} (h : Condition.Flattened .always .conj conditions members) :
    e.truthOfAll members scope = e.truthOfAll conditions scope := by
  induction h with
  | nil => rfl
  | unit _ ih => rw [ih, truthOfAll_cons, truth, Truth.andThen_true]
  | nested inner _ ih => rw [truthOfAll_append, ih, truthOfAll_cons, truth]
  | member c _ ih => rw [truthOfAll_cons, ih, truthOfAll_cons]

/-- Conditions and the members gathered from them for a disjunction are true alike. -/
theorem truthOfAny_flattened {members : List Condition} (h : Condition.Flattened .never .disj conditions members) :
    e.truthOfAny members scope = e.truthOfAny conditions scope := by
  induction h with
  | nil => rfl
  | unit _ ih => rw [ih, truthOfAny_cons, truth, Truth.orElse_false]
  | nested inner _ ih => rw [truthOfAny_append, ih, truthOfAny_cons, truth]
  | member c _ ih => rw [truthOfAny_cons, ih, truthOfAny_cons]

/-- The truth of a folded conjunction. -/
theorem truth_and (h : ∀ c ∈ conditions, c.Proper) : e.truth (.and conditions) scope =
    if Condition.constantOfAll conditions = some false then .ok (some false) else e.truthOfAll conditions scope := by
  unfold Condition.and
  rcases Condition.conjuncts_spec h with ⟨hnone, hfalse⟩ | ⟨members, hsome, hg⟩
  · rw [hnone, if_pos hfalse, truth]
  · have hne : Condition.constantOfAll conditions ≠ some false := by
      rw [hg.constant]
      split <;> exact nofun
    rw [hsome, if_neg hne, ← truthOfAll_flattened (Condition.flattened_conjuncts hsome)]
    match members with
    | [] => rw [truth, truthOfAll]
    | [c] => rw [truthOfAll_cons, truthOfAll, Truth.andThen_ok_true]
    | _ :: _ :: _ => rw [truth]

/-- The truth of a folded disjunction. -/
theorem truth_or (h : ∀ c ∈ conditions, c.Proper) : e.truth (.or conditions) scope =
    if Condition.constantOfAny conditions = some true then .ok (some true) else e.truthOfAny conditions scope := by
  unfold Condition.or
  rcases Condition.disjuncts_spec h with ⟨hnone, htrue⟩ | ⟨members, hsome, hs⟩
  · rw [hnone, if_pos htrue, truth]
  · have hne : Condition.constantOfAny conditions ≠ some true := by
      rw [hs.constant]
      split <;> exact nofun
    rw [hsome, if_neg hne, ← truthOfAny_flattened (Condition.flattened_disjuncts hsome)]
    match members with
    | [] => rw [truth, truthOfAny]
    | [c] => rw [truthOfAny_cons, truthOfAny, Truth.orElse_ok_false]
    | _ :: _ :: _ => rw [truth]

theorem truth_of_constant {c : Condition} {k : Bool} (h : c.constant? = some k) : e.truth c scope = .ok (some k) := by
  cases c with
  | always =>
    cases h
    rw [truth]
  | never =>
    cases h
    rw [truth]
  | _ => cases h

section Pairs

variable {c d : Condition} {a b : Option Bool}

theorem truth_and_single (hc : c.Proper) (ha : e.truth c scope = .ok a) : e.truth (.and [c]) scope = .ok a := by
  have hproper : ∀ x ∈ [c], x.Proper := fun x hx => List.mem_singleton.mp hx ▸ hc
  rw [truth_and hproper, truthOfAll_cons, ha, truthOfAll, Truth.andThen_ok_true]
  split
  · rename_i hfalse
    rw [Condition.constantOfAll_cons, Condition.constantOfAll, List.foldr_nil, Truth.and_true] at hfalse
    rw [← ha, truth_of_constant hfalse]
  · rfl

/-- A folded conjunction of two conditions that both have a truth. -/
theorem truth_and_pair (hc : c.Proper) (hd : d.Proper) (ha : e.truth c scope = .ok a) (hb : e.truth d scope = .ok b) :
    e.truth (.and [c, d]) scope = .ok (Truth.and a b) := by
  rw [truth_and (Condition.proper_pair hc hd), truthOfAll_cons, truthOfAll_cons, ha, hb, truthOfAll, Truth.andThen_ok_true]
  split
  · -- one of them is the constant false
    rename_i hfalse
    rw [Condition.constantOfAll_cons, Condition.constantOfAll_cons, Condition.constantOfAll, List.foldr_nil,
      Truth.and_true] at hfalse
    have hconst : c.constant? = some false ∨ d.constant? = some false := by
      rcases hk : c.constant? with _ | _ | _ <;> rcases hl : d.constant? with _ | _ | _ <;>
        simp_all [Truth.and]
    rcases hconst with h | h
    · rw [truth_of_constant h] at ha
      cases ha
      rw [Truth.false_and]
    · rw [truth_of_constant h] at hb
      cases hb
      rcases a with _ | _ | _ <;> rfl
  · rcases a with _ | _ | _ <;> simp

/-- A folded disjunction of two conditions that both have a truth. -/
theorem truth_or_pair (hc : c.Proper) (hd : d.Proper) (ha : e.truth c scope = .ok a) (hb : e.truth d scope = .ok b) :
    e.truth (.or [c, d]) scope = .ok (Truth.or a b) := by
  rw [truth_or (Condition.proper_pair hc hd), truthOfAny_cons, truthOfAny_cons, ha, hb, truthOfAny, Truth.orElse_ok_false]
  split
  · rename_i htrue
    rw [Condition.constantOfAny_cons, Condition.constantOfAny_cons, Condition.constantOfAny, List.foldr_nil,
      Truth.or_false] at htrue
    have hconst : c.constant? = some true ∨ d.constant? = some true := by
      rcases hk : c.constant? with _ | _ | _ <;> rcases hl : d.constant? with _ | _ | _ <;>
        simp_all [Truth.or]
    rcases hconst with h | h
    · rw [truth_of_constant h] at ha
      cases ha
      rw [Truth.true_or]
    · rw [truth_of_constant h] at hb
      cases hb
      rcases a with _ | _ | _ <;> rfl
  · rcases a with _ | _ | _ <;> simp

end Pairs

/-- The truth of a folded negation. -/
theorem truth_not (condition : Condition) : e.truth (.not condition) scope = Truth.not <$> e.truth condition scope := by
  cases condition with
  | always => simp [Condition.not, truth, Truth.not]
  | never => simp [Condition.not, truth, Truth.not]
  | neg inner =>
    rw [Condition.not, truth]
    cases e.truth inner scope <;> simp
  | _ => simp only [Condition.not, truth]

end Evaluation

end GraphQuery
