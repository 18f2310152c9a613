import GraphQuery.Proofs.Filter.Grammar
import GraphQuery.Proofs.Filter.Meaning

/-!
# Filters that are read

How deep a filter is nested bounds how it is read and nothing else (`Filter.deepEnough`), so a filter that is read is
also read within a larger one: negated (`Filter.parse_not`) and as a predicate on related nodes
(`Filter.parse_quantified`).

The tests of a filter that was read are sound (`Filter.sound_of_parse`): none has a null operand, and every pattern is
one.
-/

namespace GraphQuery
namespace Filter

variable {schema : Schema} {raw : Json}

/-! ## Depth -/

variable [PropertyTable]

section Depth

variable {depth : Nat}

/-- Whether more depth than a tree has changes nothing about how it is read. -/
def DeepEnough (schema : Schema) (depth : Nat) : Prop :=
  ∀ (entity : EntityType) (raw : Json), raw.depth ≤ depth →
    parseWithin schema (depth + 1) entity raw = parseWithin schema depth entity raw

theorem list_succ (h : DeepEnough schema depth) (hdepth : raw.depth ≤ depth) (entity : EntityType) (key : String) :
    parseWithin.list schema (depth + 1) entity key raw = parseWithin.list schema depth entity key raw := by
  unfold parseWithin.list
  cases raw with
  | array items =>
    rw [Json.depth] at hdepth
    have hitems : ∀ item ∈ items,
        parseWithin schema (depth + 1) entity item = parseWithin schema depth entity item := by
      intro item hitem
      have hle := depth_le_of_mem_items hitem
      exact h entity item (by omega)
    cases items with
    | nil => rfl
    | cons first rest => exact Result.mapM_congr hitems
  | _ => rfl

theorem predicate_succ (h : DeepEnough schema depth) (hdepth : raw.depth ≤ depth) (r : RelationshipDef) :
    parseWithin.predicate schema (depth + 1) r raw = parseWithin.predicate schema depth r raw := by
  unfold parseWithin.predicate
  refine congrArg (schema.entity r.target >>= ·) (funext fun target => ?_)
  rw [h target raw hdepth]
  cases hfields : fieldsOfNonempty? raw with
  | none => rfl
  | some fields =>
    obtain ⟨rfl, -⟩ := fieldsOfNonempty?_eq_some.mp hfields
    rw [Json.depth] at hdepth
    have hnested : ∀ field ∈ fields,
        parseWithin schema (depth + 1) target field.2 = parseWithin schema depth target field.2 := by
      intro field hfield
      have hle := depth_le_of_mem_fields hfield
      exact h target field.2 (by omega)
    simp only
    rw [Result.mapM_congr]
    intro field hfield
    simp only [hnested field hfield]

theorem entry_succ (h : DeepEnough schema depth) (hdepth : raw.depth ≤ depth) (entity : EntityType) (key : String) :
    parseWithin.entry schema (depth + 1) entity key raw = parseWithin.entry schema depth entity key raw := by
  unfold parseWithin.entry
  rw [list_succ h hdepth, h entity raw hdepth]
  simp only [predicate_succ h hdepth]

theorem deepEnough (schema : Schema) : ∀ depth, DeepEnough schema depth
  | 0 => fun _ raw hdepth => by cases raw <;> simp [Json.depth] at hdepth
  | depth + 1 => fun entity raw hdepth => by
    rw [parseWithin, parseWithin]
    cases raw with
    | object fields =>
      rw [Json.depth] at hdepth
      simp only [Json.fields?]
      rw [Result.mapM_congr]
      intro field hfield
      have hle := depth_le_of_mem_fields hfield
      exact entry_succ (deepEnough schema depth) (by omega) entity field.1
    | _ => rfl

end Depth

/-- A filter that was read for a type of a built schema fits the type. -/
theorem fits_of_parse {decls : List EntityDecl} {name : String} {entity : EntityType} {filter : Filter}
    (hschema : Schema.build decls = .ok schema) (hentity : schema.entity? name = some entity)
    (hread : parse schema entity raw = .ok filter) : Fits schema entity filter := by
  obtain ⟨_, hflattens⟩ := Schema.flattens_of_build hschema
  have hsettles : Settles (IsFilter schema entity raw) (Fits schema entity) (parse schema entity raw) := by
    refine readsWithin (fun name entity hentity key r hr => ?_) raw.depth name entity hentity raw (Nat.le_refl _)
    obtain ⟨target, htarget⟩ := hflattens.target hentity hr
    exact ⟨target, Schema.entity_eq_ok.mp htarget⟩
  rw [hread] at hsettles
  cases hsettles with
  | ok _ hfits => exact hfits

/-! ## Filters within filters -/

theorem parse_object {entity : EntityType} {key : String} {filter : Filter} (hall : filter.isAll = false)
    (hentry : parseWithin.entry schema raw.depth entity key raw = .ok filter) :
    parse schema entity (.object [(key, raw)]) = .ok filter := by
  have hdepth : (Json.object [(key, raw)]).depth = raw.depth + 1 := by
    simp [Json.depth, Json.depthFields]
  rw [parse, hdepth, parseWithin]
  simp [Json.fields?, hentry, conjoin, hall]

/-- A client's negation of a filter is read as the negation. -/
theorem parse_not {entity : EntityType} {filter : Filter} (hread : parse schema entity raw = .ok filter) :
    parse schema entity (.object [("not", raw)]) = .ok (neg filter) := by
  refine parse_object rfl ?_
  rw [parse] at hread
  rw [parseWithin.entry, hread]
  rfl

/-- A client's tests of a property are read as they stand. -/
theorem parse_property {entity : EntityType} {key : String} {prop : PropertyDef} {filter : Filter}
    (hkey : key ∉ reserved) (hprop : entity.property? key = some prop) (hread : parseProperty prop raw = .ok filter)
    (hall : filter.isAll = false) : parse schema entity (.object [(key, raw)]) = .ok filter := by
  refine parse_object hall ?_
  rw [parseWithin.entry]
  · simp only [hprop, hread]
  all_goals
    rintro rfl
    exact hkey (by simp [reserved])

/-- A client's predicate on the nodes of a relationship is read with its quantifier. -/
theorem parse_quantified {entity target : EntityType} {key : String} {r : RelationshipDef} {filter : Filter}
    (hkey : key ∉ reserved) (hproperty : entity.property? key = none) (hr : entity.relationship? key = some r)
    (hmany : r.isMany = true) (htarget : schema.entity? r.target = some target)
    (hread : parse schema target raw = .ok filter) (quantifier : Quantifier) :
    parse schema entity (.object [(key, .object [(quantifier.name, raw)])]) = .ok (related r quantifier filter) := by
  have hdepth : (Json.object [(quantifier.name, raw)]).depth = raw.depth + 1 := by
    simp [Json.depth, Json.depthFields]
  have hname : Quantifier.ofName? quantifier.name = some quantifier := by cases quantifier <;> decide
  have hnested : parseWithin schema (raw.depth + 1) target raw = .ok filter :=
    (deepEnough schema raw.depth target raw (Nat.le_refl _)).trans hread
  have hpredicate : parseWithin.predicate schema (raw.depth + 1) r (.object [(quantifier.name, raw)]) =
      .ok (related r quantifier filter) := by
    rw [parseWithin.predicate, Schema.entity_eq_ok.mpr htarget, Result.ok_bind, if_pos hmany]
    simp [fieldsOfNonempty?, Json.fields?, hname, hnested, conjoin, isAll]
  refine parse_object rfl ?_
  rw [hdepth, parseWithin.entry]
  · simp only [hproperty, hr, hpredicate]
  all_goals
    rintro rfl
    exact hkey (by simp [reserved])

/-- A client's filter of the node of a single relationship is read as asking for such a node. -/
theorem parse_single {entity target : EntityType} {key : String} {r : RelationshipDef} {filter : Filter}
    (hkey : key ∉ reserved) (hproperty : entity.property? key = none) (hr : entity.relationship? key = some r)
    (hone : r.isMany = false) (htarget : schema.entity? r.target = some target) (hnull : raw.isNull = false)
    (hread : parse schema target raw = .ok filter) :
    parse schema entity (.object [(key, raw)]) = .ok (related r .any filter) := by
  have hnested : parseWithin schema raw.depth target raw = .ok filter := hread
  have hpredicate : parseWithin.predicate schema raw.depth r raw = .ok (related r .any filter) := by
    rw [parseWithin.predicate, Schema.entity_eq_ok.mpr htarget, Result.ok_bind]
    simp [hone, hnull, hnested]
  refine parse_object rfl ?_
  rw [parseWithin.entry]
  · simp only [hproperty, hr, hpredicate]
  all_goals
    rintro rfl
    exact hkey (by simp [reserved])

end Filter

/-! ## Sound tests -/

/-- A test whose operands are not null and whose pattern, if it has one, is one. -/
structure PropertyTest.Sound [PropertyTable] (test : PropertyTest) : Prop where
  present : ∀ value ∈ test.operands, value ≠ .null
  legible : ∀ pattern ∈ test.patterns, (Automaton.ofText? pattern).isSome = true

namespace Filter

mutual

/-- The tests of properties that stand in a filter. -/
def tests : Filter → List PropertyTest
  | conj members | disj members => testsOfAll members
  | neg filter => tests filter
  | property _ test => [test]
  | related _ _ filter => tests filter

/-- The tests that stand in several filters. -/
def testsOfAll : List Filter → List PropertyTest
  | [] => []
  | filter :: rest => tests filter ++ testsOfAll rest

end

/-- Whether the tests of a filter are sound. -/
def Sound [PropertyTable] (filter : Filter) : Prop := ∀ test ∈ filter.tests, test.Sound

theorem mem_testsOfAll {test : PropertyTest} : ∀ {filters : List Filter},
    test ∈ testsOfAll filters ↔ ∃ filter ∈ filters, test ∈ filter.tests
  | [] => by simp [testsOfAll]
  | filter :: rest => by rw [testsOfAll, List.mem_append, mem_testsOfAll, List.exists_mem_cons_iff]

mutual

theorem mem_patterns {pattern : String} : ∀ {filter : Filter},
    pattern ∈ filter.patterns ↔ ∃ test ∈ filter.tests, pattern ∈ test.patterns
  | conj members | disj members => by rw [patterns, tests, mem_patternsOfTests]
  | neg filter => by rw [patterns, tests, mem_patterns]
  | property name test => by simp [patterns, tests]
  | related r quantifier filter => by rw [patterns, tests, mem_patterns]

theorem mem_patternsOfTests {pattern : String} : ∀ {filters : List Filter},
    pattern ∈ patternsOfAll filters ↔ ∃ test ∈ testsOfAll filters, pattern ∈ test.patterns
  | [] => by simp [patternsOfAll, testsOfAll]
  | filter :: rest => by
    rw [patternsOfAll, testsOfAll, List.mem_append, mem_patterns, mem_patternsOfTests]
    simp only [List.mem_append, or_and_right, exists_or]

end

theorem sound_conj [PropertyTable] {members : List Filter} : (conj members).Sound ↔ ∀ member ∈ members, member.Sound :=
    by
  simp only [Sound, tests, mem_testsOfAll]
  grind

theorem sound_conjoin [PropertyTable] {filters : List Filter} (h : ∀ filter ∈ filters, filter.Sound) :
    (conjoin filters).Sound := by
  have hkept : ∀ filter ∈ filters.filter fun f => !f.isAll, filter.Sound :=
    fun filter hfilter => h filter (List.mem_of_mem_filter hfilter)
  unfold conjoin
  split
  · rename_i filter hsingle
    exact hkept filter (hsingle ▸ List.mem_singleton_self filter)
  · exact sound_conj.mpr hkept

section Reading

variable {property : PropertyDef} {operator : String}

theorem operand_ne_null {value : Value} (h : operand property raw = .ok value) : value ≠ .null := by
  unfold operand at h
  split at h
  · cases h
  · rename_i hne _
    cases h
    exact hne
  · cases h

theorem bound_ne_null {value : Value} (h : bound property operator raw = .ok value) : value ≠ .null := by
  unfold bound at h
  split at h
  · cases h
  · exact operand_ne_null h

variable [PropertyTable]

/-- A test without a pattern is sound when its operands are read. -/
theorem sound_of_operand {α : Type} {x : Result α} {make : α → PropertyTest} {test : PropertyTest}
    (h : make <$> x = .ok test) (hoperands : ∀ a, x = .ok a → ∀ value ∈ (make a).operands, value ≠ .null)
    (hpatterns : ∀ a, (make a).patterns = []) : test.Sound := by
  obtain ⟨a, ha, rfl⟩ := Result.map_eq_ok.mp h
  refine ⟨hoperands a ha, fun pattern hpattern => ?_⟩
  rw [hpatterns] at hpattern
  cases hpattern

theorem sound_of_parseTest {test : PropertyTest} (h : parseTest property operator raw = .ok test) : test.Sound := by
  have hoperand : ∀ value, operand property raw = .ok value → ∀ other ∈ [value], other ≠ .null :=
    fun value hvalue => List.forall_mem_singleton.mpr (operand_ne_null hvalue)
  have hbound : ∀ operator value, bound property operator raw = .ok value → ∀ other ∈ [value], other ≠ .null :=
    fun operator value hvalue => List.forall_mem_singleton.mpr (bound_ne_null hvalue)
  have htext : ∀ text : String, ∀ other ∈ [Value.string text], other ≠ .null :=
    fun text => List.forall_mem_singleton.mpr nofun
  unfold parseTest at h
  split at h
  case h_1 =>
    split at h
    · cases h
      exact ⟨nofun, nofun⟩
    · exact sound_of_operand h hoperand fun _ => rfl
  case h_2 =>
    split at h
    · refine sound_of_operand h (fun values hvalues value hvalue => ?_) fun _ => rfl
      obtain ⟨item, _, hitem⟩ := Result.member_of_mem_mapM hvalues value hvalue
      exact operand_ne_null hitem
    · cases h
  case h_3 => exact sound_of_operand h (hbound _) fun _ => rfl
  case h_4 => exact sound_of_operand h (hbound _) fun _ => rfl
  case h_5 => exact sound_of_operand h (hbound _) fun _ => rfl
  case h_6 => exact sound_of_operand h (hbound _) fun _ => rfl
  case h_7 => exact sound_of_operand h (fun text _ => htext text) fun _ => rfl
  case h_8 => exact sound_of_operand h (fun text _ => htext text) fun _ => rfl
  case h_9 => exact sound_of_operand h (fun text _ => htext text) fun _ => rfl
  case h_10 =>
    obtain ⟨text, _, h⟩ := Result.bind_eq_ok.mp h
    split at h
    · rename_i hpattern
      cases h
      exact ⟨htext text, List.forall_mem_singleton.mpr hpattern⟩
    · cases h
  case h_11 =>
    split at h
    · cases h
      exact ⟨nofun, nofun⟩
    · cases h
  case h_12 => cases h

theorem sound_of_parseProperty {filter : Filter} (h : parseProperty property raw = .ok filter) : filter.Sound := by
  unfold parseProperty at h
  split at h
  · cases h
  · obtain ⟨tests, htests, h⟩ := Result.bind_eq_ok.mp h
    cases h
    refine sound_conjoin fun filter hfilter => ?_
    obtain ⟨field, _, hfield⟩ := Result.member_of_mem_mapM htests filter hfilter
    obtain ⟨test, htest, hfield⟩ := Result.bind_eq_ok.mp hfield
    cases hfield
    rw [Sound, Filter.tests]
    exact List.forall_mem_singleton.mpr (sound_of_parseTest htest)

variable {depth : Nat}

/-- Whether what is read with some depth left is sound. -/
def SoundWithin (schema : Schema) (depth : Nat) : Prop :=
  ∀ (entity : EntityType) (raw : Json) (filter : Filter),
    parseWithin schema depth entity raw = .ok filter → filter.Sound

theorem sound_of_list (h : SoundWithin schema depth) {entity : EntityType} {key : String} {filters : List Filter}
    (hread : parseWithin.list schema depth entity key raw = .ok filters) : ∀ filter ∈ filters, filter.Sound := by
  unfold parseWithin.list at hread
  split at hread
  · cases hread
  · cases hread
  · intro filter hfilter
    obtain ⟨item, _, hitem⟩ := Result.member_of_mem_mapM hread filter hfilter
    exact h entity item filter hitem

theorem sound_of_predicate (h : SoundWithin schema depth) {r : RelationshipDef} {filter : Filter}
    (hread : parseWithin.predicate schema depth r raw = .ok filter) : filter.Sound := by
  have hrelated : ∀ quantifier {x : Result Filter}, (∀ inner, x = .ok inner → inner.Sound) → ∀ {filter},
      related r quantifier <$> x = .ok filter → filter.Sound := by
    intro quantifier x hx filter hfilter
    obtain ⟨inner, hinner, rfl⟩ := Result.map_eq_ok.mp hfilter
    rw [Sound, tests]
    exact hx inner hinner
  unfold parseWithin.predicate at hread
  obtain ⟨target, _, hread⟩ := Result.bind_eq_ok.mp hread
  split at hread
  · split at hread
    · cases hread
    · obtain ⟨filters, hfilters, hread⟩ := Result.bind_eq_ok.mp hread
      cases hread
      refine sound_conjoin fun filter hfilter => ?_
      obtain ⟨field, _, hfield⟩ := Result.member_of_mem_mapM hfilters filter hfilter
      dsimp only at hfield
      split at hfield
      · cases hfield
      · exact hrelated _ (h target field.2) hfield
  · split at hread
    · cases hread
      exact List.forall_mem_nil PropertyTest.Sound
    · exact hrelated _ (h target raw) hread

theorem sound_of_entry (h : SoundWithin schema depth) {entity : EntityType} {key : String} {filter : Filter}
    (hread : parseWithin.entry schema depth entity key raw = .ok filter) : filter.Sound := by
  unfold parseWithin.entry at hread
  split at hread
  · obtain ⟨filters, hfilters, rfl⟩ := Result.map_eq_ok.mp hread
    exact sound_conj.mpr (sound_of_list h hfilters)
  · obtain ⟨filters, hfilters, rfl⟩ := Result.map_eq_ok.mp hread
    exact sound_conj.mpr (sound_of_list h hfilters)
  · obtain ⟨inner, hinner, rfl⟩ := Result.map_eq_ok.mp hread
    rw [Sound, tests]
    exact h entity raw inner hinner
  · split at hread
    · exact sound_of_parseProperty hread
    · split at hread
      · exact sound_of_predicate h hread
      · cases hread

theorem soundWithin (schema : Schema) : ∀ depth, SoundWithin schema depth
  | 0 => fun _ _ _ hread => by simp [parseWithin, refuse] at hread
  | depth + 1 => fun entity raw filter hread => by
    rw [parseWithin] at hread
    split at hread
    · cases hread
    · obtain ⟨filters, hfilters, hread⟩ := Result.bind_eq_ok.mp hread
      cases hread
      refine sound_conjoin fun filter hfilter => ?_
      obtain ⟨field, _, hfield⟩ := Result.member_of_mem_mapM hfilters filter hfilter
      exact sound_of_entry (soundWithin schema depth) hfield

/-- A filter that was read has sound tests. -/
theorem sound_of_parse {entity : EntityType} {filter : Filter} (h : parse schema entity raw = .ok filter) :
    filter.Sound :=
  soundWithin schema raw.depth entity raw filter h

end Reading

end Filter
end GraphQuery
