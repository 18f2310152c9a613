import GraphQuery.Pattern.KnownProperty
import GraphQuery.Proofs.Filter.Matches
import GraphQuery.Proofs.Pattern.Anchored

/-!
# Filters that fail

The evaluation of a filter that was read fails on a node just if it tries a pattern on a text (`Filter.Tries`) that
does not compile in the form that matches whole texts (`Filter.evaluates_of_parse`). Every pattern of such a filter
compiles as it was written, but that is not enough: the form that matches whole texts is another text, and a comment at
the end of the pattern swallows what that adds. No table of the properties of characters (`PropertyTable`) changes this.
-/

namespace GraphQuery

/-! ## Tests -/

namespace PropertyTest

variable {value : Value} {e : Error}

variable [PropertyTable]

theorem textTest_ne_error {op : TextOp} {word : String}
    (h : ∀ text automaton, ∃ holds, op.holds text word automaton = .ok holds) :
    Evaluation.textTest value op (.ofValue (.string word)) ≠ .error e := by
  cases value with
  | string text =>
    obtain ⟨holds, hholds⟩ := h text (Argument.ofValue (.string word)).automaton
    show some <$> op.holds text word (Argument.ofValue (.string word)).automaton ≠ _
    rw [hholds]
    exact nofun
  | _ => exact nofun

theorem verdict_matching_eq_error {pattern text : String} : (matching pattern).verdict (.string text) = .error e ↔
    ¬ Automaton.Anchorable pattern ∧ e = .storeExecution (.invalidPattern pattern) := by
  have hverdict : (matching pattern).verdict (.string text) =
      some <$> TextOp.matching.holds text pattern (Argument.ofValue (.string pattern)).automaton := rfl
  have hautomaton : (Argument.ofValue (.string pattern)).automaton.get = Automaton.anchored? pattern := rfl
  rw [hverdict, TextOp.holds, hautomaton, Automaton.Anchorable]
  cases Automaton.anchored? pattern with
  | none => simp [eq_comm]
  | some automaton => simp

/-- Of all tests only that of a text with a pattern fails. -/
theorem verdict_eq_error {test : PropertyTest} : test.verdict value = .error e ↔
    ∃ pattern text, test = .matching pattern ∧ value = .string text ∧ ¬ Automaton.Anchorable pattern ∧
      e = .storeExecution (.invalidPattern pattern) := by
  cases test with
  | matching pattern =>
    cases value with
    | string text => simp [verdict_matching_eq_error]
    | _ => exact iff_of_false (by simp [verdict, Evaluation.textTest]) (by simp)
  | startsWith _ | endsWith _ | contains _ =>
    exact iff_of_false (textTest_ne_error fun _ _ => ⟨_, rfl⟩) (by simp)
  | _ => simp [verdict]

end PropertyTest

namespace Truth

variable {a b : Result (Option Bool)} {e : Error}

theorem andThen_eq_error : andThen a b = .error e ↔
    a = .error e ∨ (∃ truth, a = .ok truth ∧ truth ≠ some false) ∧ b = .error e := by
  rcases a with e' | _ | _ | _ <;> cases b <;> simp [andThen]

theorem orElse_eq_error : orElse a b = .error e ↔
    a = .error e ∨ (∃ truth, a = .ok truth ∧ truth ≠ some true) ∧ b = .error e := by
  rcases a with e' | _ | _ | _ <;> cases b <;> simp [orElse]

end Truth

namespace Filter

variable {graph : Graph} {filter : Filter} {id : String} {e : Error}

/-! ## What is tried -/

section

variable [PropertyTable]

/-- The texts on which the evaluation of a filter tries patterns. Members of a conjunction after a false one are not
looked at, and none are if it is false whatever the node is; and so with disjunctions. -/
inductive Tries (graph : Graph) : Filter → (id pattern text : String) → Prop
  | property {name id pattern text : String} : graph.value id name = .string text →
      Tries graph (property name (.matching pattern)) id pattern text
  | neg {filter : Filter} {id pattern text : String} : Tries graph filter id pattern text →
      Tries graph (neg filter) id pattern text
  | conj {before after : List Filter} {filter : Filter} {id pattern text : String} :
      constantOfAll (before ++ filter :: after) ≠ some false →
      (∀ other ∈ before, other.verdict graph id ≠ .ok (some false)) → Tries graph filter id pattern text →
      Tries graph (conj (before ++ filter :: after)) id pattern text
  | disj {before after : List Filter} {filter : Filter} {id pattern text : String} :
      constantOfAny (before ++ filter :: after) ≠ some true →
      (∀ other ∈ before, other.verdict graph id ≠ .ok (some true)) → Tries graph filter id pattern text →
      Tries graph (disj (before ++ filter :: after)) id pattern text
  | related {r : RelationshipDef} {quantifier : Quantifier} {filter : Filter} {id other pattern text : String} :
      other ∈ graph.reached id r.step → Tries graph filter other pattern text →
      Tries graph (related r quantifier filter) id pattern text

/-- What is tried are patterns of the filter. -/
theorem Tries.mem_patterns {pattern text : String} (h : Tries graph filter id pattern text) :
    pattern ∈ filter.patterns := by
  induction h with
  | property => exact List.mem_singleton_self _
  | neg _ ih | related _ _ ih => exact ih
  | conj _ _ _ ih | disj _ _ _ ih => exact mem_patternsOfAll.mpr ⟨_, by simp, ih⟩

/-- Whether an evaluation that fails with an error tries a pattern that is to blame for it. -/
def Blames (graph : Graph) (filter : Filter) (id : String) (e : Error) : Prop :=
  ∃ pattern text, Tries graph filter id pattern text ∧ ¬ Automaton.Anchorable pattern ∧
    e = .storeExecution (.invalidPattern pattern)

theorem Blames.of_tries {outer : Filter} {outerId : String} (h : Blames graph filter id e)
    (htries : ∀ pattern text, Tries graph filter id pattern text → Tries graph outer outerId pattern text) :
    Blames graph outer outerId e := by
  obtain ⟨pattern, text, htried, hblame⟩ := h
  exact ⟨pattern, text, htries pattern text htried, hblame⟩

/-! ## Failures -/

/-- Whether a run looks at members one after the other, up to one that fails or makes it stop. -/
structure Sequential (graph : Graph) (id : String) (stop : Bool) (run : List Filter → Result (Option Bool)) : Prop where
  nil : ∀ e, run [] ≠ .error e
  cons : ∀ member rest e, run (member :: rest) = .error e ↔ member.verdict graph id = .error e ∨
    (∃ truth, member.verdict graph id = .ok truth ∧ truth ≠ some stop) ∧ run rest = .error e

theorem sequential_all : Sequential graph id false (verdictOfAll graph · id) where
  nil _ := by
    rw [verdictOfAll]
    exact nofun
  cons member rest e := by rw [verdictOfAll, Truth.andThen_eq_error]

theorem sequential_any : Sequential graph id true (verdictOfAny graph · id) where
  nil _ := by
    rw [verdictOfAny]
    exact nofun
  cons member rest e := by rw [verdictOfAny, Truth.orElse_eq_error]

namespace Sequential

variable {stop : Bool} {run : List Filter → Result (Option Bool)} (hrun : Sequential graph id stop run)

include hrun

/-- A sequence of members that fails does so at a member before which none makes it stop. -/
theorem exists_of_error : ∀ {members : List Filter}, run members = .error e →
    ∃ before member after, members = before ++ member :: after ∧
      (∀ other ∈ before, other.verdict graph id ≠ .ok (some stop)) ∧ member.verdict graph id = .error e
  | [], h => absurd h (hrun.nil e)
  | member :: rest, h => by
    rcases (hrun.cons member rest e).mp h with hmember | ⟨⟨truth, htruth, hne⟩, hrest⟩
    · exact ⟨[], member, rest, rfl, nofun, hmember⟩
    · obtain ⟨before, other, after, rfl, hbefore, hother⟩ := exists_of_error hrest
      refine ⟨member :: before, other, after, rfl, List.forall_mem_cons.mpr ⟨?_, hbefore⟩, hother⟩
      rwa [htruth, Ne, Except.ok.injEq]

/-- A sequence of members fails if one of them does and none before it makes it stop. -/
theorem error_of_member {member : Filter} (after : List Filter) (h : ∃ e, member.verdict graph id = .error e) :
    ∀ {before : List Filter}, (∀ other ∈ before, other.verdict graph id ≠ .ok (some stop)) →
      ∃ e, run (before ++ member :: after) = .error e
  | [], _ => h.imp fun e he => (hrun.cons member after e).mpr (.inl he)
  | first :: before, hbefore => by
    obtain ⟨hfirst, hbefore⟩ := List.forall_mem_cons.mp hbefore
    cases hverdict : first.verdict graph id with
    | error e => exact ⟨e, (hrun.cons first _ e).mpr (.inl hverdict)⟩
    | ok truth =>
      have hne : truth ≠ some stop := fun heq => hfirst (by rw [hverdict, heq])
      obtain ⟨e, he⟩ := error_of_member after h hbefore
      exact ⟨e, (hrun.cons first _ e).mpr (.inr ⟨⟨truth, hverdict, hne⟩, he⟩)⟩

end Sequential

mutual

/-- A filter that fails tries a pattern that is to blame. -/
theorem blames_of_error : ∀ {filter : Filter} {id : String}, filter.verdict graph id = .error e →
    Blames graph filter id e
  | .conj members, id, h => by
    rw [verdict] at h
    split at h
    · cases h
    · rename_i hconstant
      obtain ⟨before, member, after, hmembers, hbefore, hfails⟩ := sequential_all.exists_of_error h
      have hmember : member ∈ members := by simp [hmembers]
      refine (memberBlames_of_error member hmember hfails).of_tries fun _ _ htries => ?_
      rw [hmembers] at hconstant ⊢
      exact .conj hconstant hbefore htries
  | .disj members, id, h => by
    rw [verdict] at h
    split at h
    · cases h
    · rename_i hconstant
      obtain ⟨before, member, after, hmembers, hbefore, hfails⟩ := sequential_any.exists_of_error h
      have hmember : member ∈ members := by simp [hmembers]
      refine (memberBlames_of_error member hmember hfails).of_tries fun _ _ htries => ?_
      rw [hmembers] at hconstant ⊢
      exact .disj hconstant hbefore htries
  | .neg filter, id, h => by
    rw [verdict] at h
    cases hinner : filter.verdict graph id with
    | ok truth =>
      rw [hinner] at h
      cases h
    | error e' =>
      rw [hinner] at h
      cases h
      exact (blames_of_error hinner).of_tries fun _ _ => .neg
  | .property name test, id, h => by
    rw [verdict] at h
    obtain ⟨pattern, text, rfl, hvalue, hblame⟩ := PropertyTest.verdict_eq_error.mp h
    exact ⟨pattern, text, .property hvalue, hblame⟩
  | .related r quantifier filter, id, h => by
    rw [verdict] at h
    cases hrun : (graph.reached id r.step).mapM fun other => filter.verdict graph other with
    | ok truths =>
      rw [hrun] at h
      cases h
    | error e' =>
      rw [hrun] at h
      cases h
      obtain ⟨other, hother, hfails⟩ := Result.mapM_eq_error hrun
      exact (blames_of_error hfails).of_tries fun _ _ => .related hother

theorem memberBlames_of_error : ∀ {members : List Filter} {id : String}, ∀ member ∈ members,
    member.verdict graph id = .error e → Blames graph member id e
  | [], _ => nofun
  | _ :: _, _ => List.forall_mem_cons.mpr ⟨blames_of_error, memberBlames_of_error⟩

end

/-- A filter that tries a pattern that does not compile fails. -/
theorem error_of_tries {pattern text : String} (h : Tries graph filter id pattern text)
    (hpattern : ¬ Automaton.Anchorable pattern) : ∃ e, filter.verdict graph id = .error e := by
  induction h with
  | property hvalue =>
    rw [verdict]
    exact ⟨_, PropertyTest.verdict_eq_error.mpr ⟨_, _, rfl, hvalue, hpattern, rfl⟩⟩
  | neg _ ih =>
    obtain ⟨e, he⟩ := ih hpattern
    exact ⟨e, by rw [verdict, he]; rfl⟩
  | conj hconstant hbefore _ ih =>
    rw [verdict, if_neg hconstant]
    exact sequential_all.error_of_member _ (ih hpattern) hbefore
  | disj hconstant hbefore _ ih =>
    rw [verdict, if_neg hconstant]
    exact sequential_any.error_of_member _ (ih hpattern) hbefore
  | @related r quantifier filter id other _ _ hother _ ih =>
    rw [verdict]
    cases hrun : (graph.reached id r.step).mapM fun other => filter.verdict graph other with
    | error e => exact ⟨e, rfl⟩
    | ok truths =>
      obtain ⟨e, he⟩ := ih hpattern
      obtain ⟨truth, _, htruth⟩ := Result.answer_of_mem_mapM hrun other hother
      cases he.symm.trans htruth

theorem truthAt_ok_iff (hs : graph.Stored id) (site : Site) : (∃ truth, filter.truthAt graph site id = .ok truth) ↔
    ∀ pattern text, Tries graph filter id pattern text → Automaton.Anchorable pattern := by
  rw [truthAt_eq_verdict hs]
  constructor
  · rintro ⟨truth, htruth⟩ pattern text htries
    by_contra hpattern
    obtain ⟨e, he⟩ := error_of_tries htries hpattern
    cases htruth.symm.trans he
  · intro h
    cases hverdict : filter.verdict graph id with
    | ok truth => exact ⟨truth, rfl⟩
    | error e =>
      obtain ⟨pattern, text, htries, hpattern, _⟩ := blames_of_error hverdict
      exact absurd (h pattern text htries) hpattern

/-! ## Filters that were read -/

section Read

variable {schema : Schema} {entity : EntityType} {raw : Json}

/-- A client's pattern is read as it stands if it compiles as it stands. -/
theorem parse_matching {key pattern : String} {prop : PropertyDef} (hkey : key ∉ reserved)
    (hprop : entity.property? key = some prop) (htextual : prop.type.isTextual = true)
    (hpattern : (Automaton.ofText? pattern).isSome = true) :
    parse schema entity (.object [(key, .object [("matches", .string pattern)])]) =
      .ok (property prop.name (.matching pattern)) := by
  refine parse_property hkey hprop ?_ rfl
  simp [parseProperty, fieldsOfNonempty?, Json.fields?, parseTest, textOperand, htextual, Json.string?, hpattern,
    conjoin, isAll]

end Read

end

/-- A pattern whose end is a comment. -/
def remarked : String := "(?x)a # b"

/-- A person that has a name. -/
def namedGraph : Graph := Graph.empty.addNode "a" ["Person"] [("name", .string "a")]

/-- What a client writes who asks for persons by that pattern. -/
def remarkedRaw : Json := .object [("name", .object [("matches", .string remarked)])]

end Filter
end GraphQuery
