import GraphQuery.Pattern.KnownProperty
import GraphQuery.Proofs.Plan.Merged
import GraphQuery.Proofs.Plan.Regrouped

/-!
# Selections in other words

Planning tells two groups of fields apart by their result key, their types and relationship, the options in their
arguments, and what they want of the related nodes (`Planner.level_of_plannedAlike`). So a selection may be put in other
words (`Planner.Rephrases`): a field that repeats an earlier one is joined with it, the nodes of a page are selected
directly, below `nodes`, or below `node` below `edges`, and what is wanted below the fields is put in other words in
turn. The plan is the same, or the error is (`Planner.level_of_rephrases`).

The nodes of a page are looked for below a field only where the relationship of its group yields pages, and that is the
relationship of the first field of the group.
-/

namespace GraphQuery

/-! ## What a group is planned with -/

namespace Field

/-- Only the arguments of a field make its options. -/
theorem options_congr [PropertyTable] {field other : Field} (h : field.arguments = other.arguments) (schema : Schema)
    (entity : EntityType) (countsTotal : Bool) :
    field.options schema entity countsTotal = other.options schema entity countsTotal := by
  unfold options readArgument present? argument?
  rw [h]

theorem wantsTotal_joined (field repeated : Field) :
    (field.joined repeated).wantsTotal = (field.wantsTotal || repeated.wantsTotal) := List.any_append

theorem nodeSelection_append (fields more : List Field) (cardinality : Cardinality) :
    nodeSelection (fields ++ more) cardinality = nodeSelection fields cardinality ++ nodeSelection more cardinality :=
  List.flatMap_append

theorem nodeSelection_cons (field : Field) (rest : List Field) (cardinality : Cardinality) :
    nodeSelection (field :: rest) cardinality = nodeSelection [field] cardinality ++ nodeSelection rest cardinality :=
  nodeSelection_append [field] rest cardinality

theorem nodeSelection_joined (field repeated : Field) (cardinality : Cardinality) :
    nodeSelection [field.joined repeated] cardinality =
      nodeSelection [field] cardinality ++ nodeSelection [repeated] cardinality := by
  cases cardinality with
  | one => simp [nodeSelection, joined, withSelection]
  | many => simp [nodeSelection, joined, withSelection]

/-- Of the nodes the same is wanted. -/
theorem Joins.nodeSelection_eq {field repeated : Field} {fields fields' : List Field}
    (h : Joins field repeated fields fields') (cardinality : Cardinality) :
    nodeSelection fields cardinality = nodeSelection fields' cardinality := by
  cases h with
  | same => rfl
  | joined before after =>
    rw [nodeSelection_append, nodeSelection_append, nodeSelection_cons field, nodeSelection_cons repeated,
      nodeSelection_cons (field.joined repeated), nodeSelection_joined, List.append_assoc]

end Field

/-- Two fields that differ in what is wanted below them only. -/
structure Field.SameAbove (field other : Field) : Prop extends SameHead field other where
  arguments : field.arguments = other.arguments

namespace Planner

variable {planner : Planner} {relationship : RelationshipDef} {target : EntityType} {field field' repeated : Field}
  {others others' : List Field}

variable [PropertyTable]

/-- The options of several fields are made of the arguments of the first, of the first conflict with them, and of
whether one of the fields wants the total. -/
theorem relationshipOptions_congr (harguments : field.arguments = field'.arguments)
    (hconflict : (others.find? fun other => !other.sameArguments field).map (·.resultKey) =
      (others'.find? fun other => !other.sameArguments field').map (·.resultKey))
    (htotal : relationship.isMany = true → (field :: others).any Field.wantsTotal =
      (field' :: others').any Field.wantsTotal) :
    planner.relationshipOptions relationship target field others =
      planner.relationshipOptions relationship target field' others' := by
  unfold relationshipOptions
  cases hfound : others.find? fun other => !other.sameArguments field with
  | some other =>
    rw [hfound, Option.map_some] at hconflict
    obtain ⟨other', hfound', hkey⟩ := Option.map_eq_some_iff.mp hconflict.symm
    simp only [hfound', hkey]
  | none =>
    rw [hfound, Option.map_none] at hconflict
    rw [Option.map_eq_none_iff.mp hconflict.symm]
    cases hmany : relationship.isMany with
    | false => rfl
    | true =>
      simp only [if_true]
      rw [htotal hmany, Field.options_congr harguments]

/-- A field and one that repeats it have the options that one field with both selections has. -/
theorem relationshipOptions_joins (hrepeats : field.Repeats repeated) {first first' : Field}
    (h : Field.Joins field repeated (first :: others) (first' :: others')) :
    planner.relationshipOptions relationship target first others =
      planner.relationshipOptions relationship target first' others' := by
  generalize hfields : first :: others = fields, hfields' : first' :: others' = fields' at h
  cases h with
  | same =>
    obtain ⟨rfl, rfl⟩ := List.cons.inj (hfields.trans hfields'.symm)
    rfl
  | joined before after =>
    have htotal : (first :: others).any Field.wantsTotal = (first' :: others').any Field.wantsTotal := by
      rw [hfields, hfields']
      simp [Field.wantsTotal_joined, Bool.or_assoc]
    cases before with
    | nil =>
      obtain ⟨rfl, rfl⟩ := List.cons.inj hfields
      obtain ⟨rfl, rfl⟩ := List.cons.inj hfields'
      refine relationshipOptions_congr rfl ?_ fun _ => htotal
      rw [List.find?_cons_of_neg (by simp [hrepeats.arguments])]
      rfl
    | cons start before =>
      rw [List.cons_append] at hfields hfields'
      obtain ⟨rfl, rfl⟩ := List.cons.inj hfields
      obtain ⟨rfl, rfl⟩ := List.cons.inj hfields'
      refine relationshipOptions_congr rfl ?_ fun _ => htotal
      rw [List.find?_append, List.find?_append]
      cases before.find? fun other => !other.sameArguments first' with
      | some other => rfl
      | none =>
        rw [Option.none_or, Option.none_or]
        by_cases hsame : field.sameArguments first' = true
        · have hjoined : (field.joined repeated).sameArguments first' = true := hsame
          have hrepeated : repeated.sameArguments first' = true := Json.sameFields_trans hrepeats.arguments hsame
          rw [List.find?_cons_of_neg (by simp [hsame]), List.find?_cons_of_neg (by simp [hrepeated]),
            List.find?_cons_of_neg (by simp [hjoined])]
        · have hjoined : ¬ (field.joined repeated).sameArguments first' = true := hsame
          rw [List.find?_cons_of_pos (by simp [hsame]), List.find?_cons_of_pos (by simp [hjoined])]
          rfl

/-- Fields that differ below them only have options for the same reasons. -/
theorem relationshipOptions_of_forall₂ {first first' : Field}
    (h : List.Forall₂ Field.SameAbove (first :: others) (first' :: others'))
    (htotal : relationship.isMany = true → (first :: others).any Field.wantsTotal =
      (first' :: others').any Field.wantsTotal) :
    planner.relationshipOptions relationship target first others =
      planner.relationshipOptions relationship target first' others' := by
  obtain ⟨hfirst, hothers⟩ := List.forall₂_cons.mp h
  refine relationshipOptions_congr hfirst.arguments ?_ htotal
  clear h htotal
  induction hothers with
  | nil => rfl
  | @cons other other' _ _ hother _ ih =>
    have hsame : other.sameArguments first = other'.sameArguments first' := by
      rw [Field.sameArguments, Field.sameArguments, hother.arguments, hfirst.arguments]
    rw [List.find?_cons, List.find?_cons, hsame]
    cases other'.sameArguments first' with
    | true => exact ih
    | false => exact congrArg some hother.resultKey

/-! ## Levels over corresponding groups -/

/-- Two groups that planning does not tell apart. -/
structure PlannedAlike (planner : Planner) (group other : FieldGroup) : Prop where
  resultKey : group.resultKey = other.resultKey
  relationship : group.relationship = other.relationship
  onlyOnTypes : group.onlyOnTypes = other.onlyOnTypes
  options : ∀ target, planner.relationshipOptions group.relationship target group.field group.others =
    planner.relationshipOptions group.relationship target other.field other.others
  /-- Whatever room is left, the same level is planned for what is wanted of the related nodes. -/
  nested : ∀ target, planner.schema.entity group.relationship.target = .ok target → ∀ room options cardinality,
    planner.level room target (Field.nodeSelection group.fields group.relationship.cardinality) options cardinality =
      planner.level room target (Field.nodeSelection other.fields group.relationship.cardinality) options cardinality

variable {entity : EntityType} {selection selection' : List Field}

theorem foldlM_of_plannedAlike {nested : FieldGroup → Result Level} (hnested : ∀ group other : FieldGroup,
    planner.PlannedAlike group other → nested group = nested other) :
    ∀ {groups others : List FieldGroup} (parts : List (String × List (SubQuery Level))),
      List.Forall₂ planner.PlannedAlike groups others →
        groups.foldlM (fun parts group => do
          return addToPart parts group.resultKey ⟨group.relationship, ← nested group, group.onlyOnTypes⟩) parts =
        others.foldlM (fun parts group => do
          return addToPart parts group.resultKey ⟨group.relationship, ← nested group, group.onlyOnTypes⟩) parts
  | [], [], _, .nil => rfl
  | group :: groups, other :: others, parts, .cons hfirst hrest => by
    rw [List.foldlM_cons, List.foldlM_cons, hfirst.resultKey, hfirst.relationship, hfirst.onlyOnTypes,
      hnested group other hfirst]
    exact congrArg (_ >>= ·) (funext fun parts => foldlM_of_plannedAlike hnested parts hrest)

theorem levelOver_of_plannedAlike {nested : FieldGroup → Result Level} (hnested : ∀ group other : FieldGroup,
    planner.PlannedAlike group other → nested group = nested other)
    (h : Result.Alike (List.Forall₂ planner.PlannedAlike) (planner.groups entity selection)
      (planner.groups entity selection')) (options : Options) (cardinality : Cardinality) :
    planner.levelOver nested entity selection options cardinality =
      planner.levelOver nested entity selection' options cardinality := by
  unfold levelOver
  refine congrArg (_ >>= ·) (funext fun _ => congrArg (_ >>= ·) (funext fun authorization => ?_))
  revert h
  generalize planner.groups entity selection = groups, planner.groups entity selection' = groups'
  intro h
  cases h with
  | error e => rfl
  | ok hgroups =>
    rw [Result.ok_bind, Result.ok_bind, foldlM_of_plannedAlike hnested [] hgroups]

/-- Selections whose groups planning does not tell apart are planned alike. -/
theorem level_of_plannedAlike (h : Result.Alike (List.Forall₂ planner.PlannedAlike) (planner.groups entity selection)
    (planner.groups entity selection')) (room : Nat) (options : Options) (cardinality : Cardinality) :
    planner.level room entity selection options cardinality =
      planner.level room entity selection' options cardinality := by
  cases room with
  | zero =>
    refine levelOver_of_plannedAlike (fun group other halike => ?_) h options cardinality
    rw [halike.relationship]
  | succ room =>
    refine levelOver_of_plannedAlike (fun group other halike => ?_) h options cardinality
    simp only [← halike.relationship]
    cases htarget : planner.schema.entity group.relationship.target with
    | error e => rfl
    | ok target =>
      rw [Result.ok_bind, Result.ok_bind, halike.options target]
      exact congrArg (_ >>= ·) (funext fun options => halike.nested target htarget room options _)

end Planner

/-! ## Selecting the nodes of a page -/

/-- The selections that want the same fields of the nodes of a page: the fields directly, if none of them is one of the
page itself, below `nodes`, or below `node` below `edges`. -/
inductive Field.Pages (inner : List Field) : List Field → Prop
  | direct (h : ∀ field ∈ inner, field.name ≠ "nodes" ∧ field.name ≠ "edges" ∧ field.name ≠ "totalCount" ∧
      field.name ≠ "pageInfo") : Pages inner inner
  | nodes {wrapper : Field} (hname : wrapper.name = "nodes") (hselection : wrapper.selection = inner) :
    Pages inner [wrapper]
  | edges {wrapper node : Field} (hname : wrapper.name = "edges") (hselection : wrapper.selection = [node])
    (hnode : node.name = "node") (hinner : node.selection = inner) : Pages inner [wrapper]

namespace Field

theorem ofPage_other {field : Field} (h : field.name ≠ "nodes" ∧ field.name ≠ "edges" ∧ field.name ≠ "totalCount" ∧
    field.name ≠ "pageInfo") : ofPage field = [field] := by
  simp [ofPage, h.1, h.2.1, h.2.2.1, h.2.2.2]

theorem Pages.flatMap_ofPage {inner selection : List Field} (h : Pages inner selection) :
    selection.flatMap ofPage = inner := by
  cases h with
  | direct hother =>
    rw [List.flatMap_congr fun field hfield => ofPage_other (hother field hfield), List.flatMap_singleton']
  | nodes hname hselection => simp [ofPage, hname, hselection]
  | edges hname hselection hnode hinner => simp [ofPage, hname, hselection, hnode, hinner]

/-- The total is not wanted. -/
theorem Pages.wantsTotal {inner selection : List Field} (h : Pages inner selection) (field : Field) :
    (field.withSelection selection).wantsTotal = false := by
  have hany : ∀ child ∈ selection, child.name ≠ "totalCount" := by
    cases h with
    | direct hother => exact fun child hchild => (hother child hchild).2.2.1
    | nodes hname _ =>
      rintro child hchild
      rw [List.mem_singleton.mp hchild, hname]
      decide
    | edges hname _ _ _ =>
      rintro child hchild
      rw [List.mem_singleton.mp hchild, hname]
      decide
  refine List.any_eq_false.mpr fun child hchild => ?_
  simpa using hany child hchild

theorem Pages.nodeSelection_eq {inner selection : List Field} (h : Pages inner selection) (field : Field) :
    nodeSelection [field.withSelection selection] .many = inner := by
  rw [nodeSelection, List.flatMap_singleton]
  exact h.flatMap_ofPage

/-- The same field, or a field that wants the same of the nodes of its page in two ways. -/
def Respelled (field : Field) (direct paged : List Field) (x y : Field) : Prop :=
  x = y ∨ x = field.withSelection direct ∧ y = field.withSelection paged

theorem Respelled.sameAbove {field x y : Field} {direct paged : List Field} (h : field.Respelled direct paged x y) :
    x.SameAbove y := by
  rcases h with rfl | ⟨rfl, rfl⟩
  · exact ⟨.refl x, rfl⟩
  · exact ⟨⟨rfl, rfl, rfl⟩, rfl⟩

end Field

namespace Planner

variable {planner : Planner} {entity : EntityType} {selection selection' : List Field}

/-- Groups of two selections for the same types under the same result key. -/
def Counterparts (planner : Planner) (entity : EntityType) (selection selection' : List Field)
    (group other : FieldGroup) : Prop :=
  (∃ groups, planner.groups entity selection = .ok groups ∧ group ∈ groups) ∧
    (∃ groups, planner.groups entity selection' = .ok groups ∧ other ∈ groups) ∧ group.joins other = true

/-- Selections for the nodes of a type that ask for the same in other words: a field that repeats an earlier one is
joined with it, the nodes of a page are selected in another way, or what is wanted below the fields is rephrased. -/
inductive Rephrases (planner : Planner) : EntityType → List Field → List Field → Prop
  | refl (entity : EntityType) (selection : List Field) : Rephrases planner entity selection selection
  | trans {entity : EntityType} {first second third : List Field} (h : Rephrases planner entity first second)
    (h' : Rephrases planner entity second third) : Rephrases planner entity first third
  /-- No field of the same result key stands between the two. -/
  | joined {entity : EntityType} {field repeated : Field} {between : List Field} (hrepeats : field.Repeats repeated)
    (hbetween : ∀ other ∈ between, other.resultKey ≠ field.resultKey) (before after : List Field) :
    Rephrases planner entity (before ++ field :: between ++ repeated :: after)
      (before ++ field.joined repeated :: between ++ after)
  /-- The field is in a group of a relationship that yields pages. -/
  | pages {entity : EntityType} {field : Field} {inner direct paged before after : List Field}
    (hdirect : Field.Pages inner direct) (hpaged : Field.Pages inner paged)
    (hmany : ∀ groups, planner.groups entity (before ++ field.withSelection direct :: after) = .ok groups →
      ∀ group ∈ groups, field.withSelection direct ∈ group.fields → group.relationship.isMany = true) :
    Rephrases planner entity (before ++ field.withSelection direct :: after)
      (before ++ field.withSelection paged :: after)
  /-- Fields of one group are looked at together. -/
  | nested {entity : EntityType} {selection selection' : List Field}
    (hsame : List.Forall₂ Field.SameAbove selection selection')
    (htotal : ∀ group other, planner.Counterparts entity selection selection' group other →
      group.relationship.isMany = true → group.fields.any Field.wantsTotal = other.fields.any Field.wantsTotal)
    (hnested : ∀ group other target, planner.Counterparts entity selection selection' group other →
      planner.schema.entity group.relationship.target = .ok target →
        Rephrases planner target (Field.nodeSelection group.fields group.relationship.cardinality)
          (Field.nodeSelection other.fields group.relationship.cardinality)) :
    Rephrases planner entity selection selection'

section

variable [PropertyTable]

/-- What is known of corresponding groups of two selections makes them planned alike. -/
theorem plannedAlike_of_groups {R : List Field → List Field → Prop}
    (h : Result.Alike (List.Forall₂ (FieldGroup.Matches R)) (planner.groups entity selection)
      (planner.groups entity selection'))
    (halike : ∀ group other, planner.Counterparts entity selection selection' group other →
      FieldGroup.Matches R group other → planner.PlannedAlike group other) :
    Result.Alike (List.Forall₂ planner.PlannedAlike) (planner.groups entity selection)
      (planner.groups entity selection') := by
  refine h.imp fun groups others hgroups hothers hmatches => List.forall₂_iff_zip.mpr ⟨hmatches.length_eq, ?_⟩
  intro group other hmem
  obtain ⟨hgroup, hother⟩ := List.of_mem_zip hmem
  have hpair := List.forall₂_zip hmatches hmem
  exact halike group other ⟨⟨groups, hgroups, hgroup⟩, ⟨others, hothers, hother⟩,
    FieldGroup.joins_iff.mpr ⟨hpair.resultKey, hpair.onlyOnTypes⟩⟩ hpair

/-- A field that repeats an earlier one is planned alike when it is joined with it. -/
theorem plannedAlike_joined {field repeated : Field} {between : List Field} (hrepeats : field.Repeats repeated)
    (hbetween : ∀ other ∈ between, other.resultKey ≠ field.resultKey) (before after : List Field) :
    Result.Alike (List.Forall₂ planner.PlannedAlike)
      (planner.groups entity (before ++ field :: between ++ repeated :: after))
      (planner.groups entity (before ++ field.joined repeated :: between ++ after)) := by
  refine plannedAlike_of_groups (alike_groups_joined hrepeats.toSameHead hbetween before after) ?_
  intro group other _ hmatches
  refine ⟨hmatches.resultKey, hmatches.relationship, hmatches.onlyOnTypes,
    fun target => relationshipOptions_joins hrepeats hmatches.fields, ?_⟩
  intro target _ room options cardinality
  rw [hmatches.fields.nodeSelection_eq]

theorem plannedAlike_nested (hsame : List.Forall₂ Field.SameAbove selection selection')
    (htotal : ∀ group other, planner.Counterparts entity selection selection' group other →
      group.relationship.isMany = true → group.fields.any Field.wantsTotal = other.fields.any Field.wantsTotal)
    (hnested : ∀ group other target, planner.Counterparts entity selection selection' group other →
      planner.schema.entity group.relationship.target = .ok target → ∀ room options cardinality,
        planner.level room target (Field.nodeSelection group.fields group.relationship.cardinality) options
            cardinality =
          planner.level room target (Field.nodeSelection other.fields group.relationship.cardinality) options
            cardinality) :
    Result.Alike (List.Forall₂ planner.PlannedAlike) (planner.groups entity selection)
      (planner.groups entity selection') := by
  refine plannedAlike_of_groups (alike_groups (fun _ _ h => h.toSameHead) hsame) ?_
  intro group other hcounterparts hmatches
  exact ⟨hmatches.resultKey, hmatches.relationship, hmatches.onlyOnTypes,
    fun target => relationshipOptions_of_forall₂ hmatches.fields (htotal group other hcounterparts),
    fun target htarget => hnested group other target hcounterparts htarget⟩

end

section Pages

variable {field : Field} {inner direct paged before after : List Field} (hdirect : Field.Pages inner direct)
  (hpaged : Field.Pages inner paged)

include hdirect hpaged

theorem any_wantsTotal_respelled : ∀ {fields fields' : List Field},
    List.Forall₂ (field.Respelled direct paged) fields fields' →
      fields.any Field.wantsTotal = fields'.any Field.wantsTotal
  | [], [], .nil => rfl
  | x :: xs, y :: ys, .cons hxy hrest => by
    have hfirst : x.wantsTotal = y.wantsTotal := by
      rcases hxy with rfl | ⟨rfl, rfl⟩
      · rfl
      · rw [hdirect.wantsTotal, hpaged.wantsTotal]
    rw [List.any_cons, List.any_cons, hfirst, any_wantsTotal_respelled hrest]

theorem nodeSelection_respelled : ∀ {fields fields' : List Field},
    List.Forall₂ (field.Respelled direct paged) fields fields' →
      Field.nodeSelection fields .many = Field.nodeSelection fields' .many
  | [], [], .nil => rfl
  | x :: xs, y :: ys, .cons hxy hrest => by
    have hfirst : Field.nodeSelection [x] .many = Field.nodeSelection [y] .many := by
      rcases hxy with rfl | ⟨rfl, rfl⟩
      · rfl
      · rw [hdirect.nodeSelection_eq, hpaged.nodeSelection_eq]
    rw [Field.nodeSelection_cons x, Field.nodeSelection_cons y, hfirst, nodeSelection_respelled hrest]

omit hdirect hpaged in
theorem eq_of_respelled {fields fields' : List Field} (h : List.Forall₂ (field.Respelled direct paged) fields fields')
    (hnot : field.withSelection direct ∉ fields) : fields = fields' := by
  induction h with
  | nil => rfl
  | cons hxy _ ih =>
    obtain ⟨hx, hrest⟩ := not_or.mp (List.mem_cons.not.mp hnot)
    rcases hxy with rfl | ⟨rfl, _⟩
    · rw [ih hrest]
    · exact absurd rfl hx

/-- The nodes of a page may be selected in each way, where pages are asked for. -/
theorem plannedAlike_pages [PropertyTable]
    (hmany : ∀ groups, planner.groups entity (before ++ field.withSelection direct :: after) = .ok groups →
      ∀ group ∈ groups, field.withSelection direct ∈ group.fields → group.relationship.isMany = true) :
    Result.Alike (List.Forall₂ planner.PlannedAlike)
      (planner.groups entity (before ++ field.withSelection direct :: after))
      (planner.groups entity (before ++ field.withSelection paged :: after)) := by
  have hlists : List.Forall₂ (field.Respelled direct paged) (before ++ field.withSelection direct :: after)
      (before ++ field.withSelection paged :: after) :=
    List.rel_append (List.forall₂_same.mpr fun _ _ => .inl rfl)
      (.cons (.inr ⟨rfl, rfl⟩) (List.forall₂_same.mpr fun _ _ => .inl rfl))
  refine plannedAlike_of_groups (alike_groups (fun _ _ h => h.sameAbove.toSameHead) hlists) ?_
  intro group other hcounterparts hmatches
  refine ⟨hmatches.resultKey, hmatches.relationship, hmatches.onlyOnTypes, fun target =>
    relationshipOptions_of_forall₂ (hmatches.fields.imp fun _ _ h => h.sameAbove) fun _ =>
      any_wantsTotal_respelled hdirect hpaged hmatches.fields, fun target _ room options cardinality => ?_⟩
  obtain ⟨⟨groups, hgroups, hgroup⟩, _⟩ := hcounterparts
  by_cases hmem : field.withSelection direct ∈ group.fields
  · have hcardinality : group.relationship.cardinality = .many :=
      of_decide_eq_true (hmany groups hgroups group hgroup hmem)
    rw [hcardinality, nodeSelection_respelled hdirect hpaged hmatches.fields]
  · rw [eq_of_respelled hmatches.fields hmem]

end Pages

/-- Selections that ask for the same in other words are planned alike. -/
theorem level_of_rephrases [PropertyTable] (h : planner.Rephrases entity selection selection') : ∀ room options
    cardinality, planner.level room entity selection options cardinality =
      planner.level room entity selection' options cardinality := by
  induction h with
  | refl => exact fun _ _ _ => rfl
  | trans _ _ ih ih' =>
    exact fun room options cardinality => (ih room options cardinality).trans (ih' room options cardinality)
  | joined hrepeats hbetween before after =>
    exact level_of_plannedAlike (plannedAlike_joined hrepeats hbetween before after)
  | pages hdirect hpaged hmany => exact level_of_plannedAlike (plannedAlike_pages hdirect hpaged hmany)
  | nested hsame htotal _ ih => exact level_of_plannedAlike (plannedAlike_nested hsame htotal ih)

/-! ## The first field of a result key -/

/-- The fields of a group are fields that were in it, and the one that joins it. -/
theorem fields_of_add {new group : FieldGroup} {field : Field} (hfield : field ∈ group.fields) :
    ∀ {groups : List FieldGroup}, group ∈ FieldGroup.add groups new →
      ∃ other, (other = new ∨ other ∈ groups) ∧ group.joins other = true ∧ field ∈ other.fields
  | [], h => by
    obtain rfl := List.mem_singleton.mp h
    exact ⟨group, .inl rfl, FieldGroup.joins_iff.mpr ⟨rfl, rfl⟩, hfield⟩
  | first :: rest, h => by
    rw [FieldGroup.add] at h
    split at h
    · rename_i hjoins
      rcases List.mem_cons.mp h with rfl | h
      · have hfield : field ∈ first.fields ++ [new.field] := hfield
        rcases List.mem_append.mp hfield with hfield | hfield
        · exact ⟨first, .inr List.mem_cons_self, FieldGroup.joins_iff.mpr ⟨rfl, rfl⟩, hfield⟩
        · rw [List.mem_singleton.mp hfield]
          exact ⟨new, .inl rfl, FieldGroup.joins_iff.mpr hjoins, List.mem_cons_self⟩
      · exact ⟨group, .inr (List.mem_cons_of_mem _ h), FieldGroup.joins_iff.mpr ⟨rfl, rfl⟩, hfield⟩
    · rcases List.mem_cons.mp h with rfl | h
      · exact ⟨group, .inr List.mem_cons_self, FieldGroup.joins_iff.mpr ⟨rfl, rfl⟩, hfield⟩
      · obtain ⟨other, hother, hsame⟩ := fields_of_add hfield h
        exact ⟨other, hother.imp_right (List.mem_cons_of_mem _), hsame⟩

/-- Every field of a group names a relationship under its result key for its types. -/
theorem names_of_group {groups : List FieldGroup} (h : planner.groups entity selection = .ok groups) :
    ∀ group ∈ groups, ∀ field ∈ group.fields,
      ∃ relationship, planner.Names entity group.resultKey group.onlyOnTypes field relationship := by
  refine Result.foldlM_induct (P := fun groups => ∀ group ∈ groups, ∀ field ∈ group.fields,
    ∃ relationship, planner.Names entity group.resultKey group.onlyOnTypes field relationship) h (by simp) ?_
  intro groups field groups' _ hgroups hstep group hgroup other hother
  obtain ⟨scope, hscope, _, rfl⟩ := addField_eq_ok.mp hstep
  cases hrelationship : scope.relationship? field.name with
  | none =>
    rw [hrelationship] at hgroup
    exact hgroups group hgroup other hother
  | some relationship =>
    rw [hrelationship] at hgroup
    obtain ⟨source, hsource, hjoins, hmem⟩ := fields_of_add hother hgroup
    rw [FieldGroup.joins_iff] at hjoins
    rw [hjoins.1, hjoins.2]
    rcases hsource with rfl | hsource
    · rw [List.mem_singleton.mp hmem]
      exact ⟨relationship, rfl, scope, hscope, hrelationship, rfl⟩
    · exact hgroups source hsource other hmem

/-- A field that is the first of its result key is in a group of the relationship that it names. -/
theorem relationship_of_first {field : Field} {relationship : RelationshipDef} {types : Option (List String)}
    {before after : List Field} (hbefore : ∀ other ∈ before, other.resultKey ≠ field.resultKey)
    (hnames : planner.Names entity field.resultKey types field relationship) {groups : List FieldGroup}
    (hgroups : planner.groups entity (before ++ field :: after) = .ok groups) {group : FieldGroup}
    (hgroup : group ∈ groups) (hfield : field ∈ group.fields) : group.relationship = relationship := by
  obtain ⟨front, first, back, firstRelationship, hselection, hfirst, hfront, led, hled, hkey, hheading⟩ :=
    group_of_field hgroups (List.mem_append_right before List.mem_cons_self) hnames
  obtain ⟨hrelationship, htypes⟩ := Prod.mk.inj hheading
  -- no earlier field has the result key, so the first field that names a relationship under it is this one
  have hsame : first = field := by
    rcases List.append_eq_append_iff.mp hselection with ⟨more, rfl, hrest⟩ | ⟨more, rfl, hrest⟩
    · cases more with
      | nil => exact (List.cons.inj hrest).1.symm
      | cons head more =>
        rw [← (List.cons.inj hrest).1] at hfront
        exact absurd hnames (hfront field (by simp) relationship)
    · cases more with
      | nil => exact (List.cons.inj hrest).1
      | cons head more =>
        rw [← (List.cons.inj hrest).1] at hbefore
        exact absurd hfirst.key (hbefore first (by simp))
  subst hsame
  obtain ⟨own, hown⟩ := names_of_group hgroups group hgroup first hfield
  cases (names_iff.mp hfirst).symm.trans (names_iff.mp hnames)
  have hheads := (names_iff.mp hown).symm.trans (names_iff.mp hnames)
  injection hheads with hheads
  injection hheads with hgroupKey _ hgroupTypes
  have hjoins : group.joins led = true :=
    FieldGroup.joins_iff.mpr ⟨hgroupKey.trans hkey.symm, hgroupTypes.trans htypes.symm⟩
  rw [(apart_of_groups hgroups).eq_of_joins hgroup hled hjoins]
  exact hrelationship

/-! ## Requests -/

section

variable [PropertyTable]

/-- A connection is planned alike when what its field wants of the nodes is rephrased. -/
theorem connection_of_rephrases {name : String} {field other : Field} (hsame : field.SameAbove other)
    (htotal : field.wantsTotal = other.wantsTotal) (hentity : planner.schema.entity name = .ok entity)
    (h : planner.Rephrases entity (Field.nodeSelection [field] .many) (Field.nodeSelection [other] .many)) :
    planner.connection name field = planner.connection name other := by
  unfold connection
  rw [hentity, Result.ok_bind, Result.ok_bind, Field.options_congr hsame.arguments, htotal]
  exact congrArg (_ >>= ·) (funext fun options => by rw [level_of_rephrases h])

/-- The load of a relationship is planned alike when what its field wants of the nodes is rephrased. -/
theorem relationship_of_rephrases {parentType : String} {parent : EntityType} {parentId : Value} {field other : Field}
    {relationship : RelationshipDef} (hsame : field.SameAbove other) (htotal : field.wantsTotal = other.wantsTotal)
    (hparent : planner.schema.entity parentType = .ok parent)
    (hrelationship : parent.relationship? field.name = some relationship)
    (hentity : planner.schema.entity relationship.target = .ok entity)
    (h : planner.Rephrases entity (Field.nodeSelection [field] relationship.cardinality)
      (Field.nodeSelection [other] relationship.cardinality)) :
    planner.relationship parentType parentId field = planner.relationship parentType parentId other := by
  have hoptions : planner.relationshipOptions relationship entity field [] =
      planner.relationshipOptions relationship entity other [] :=
    relationshipOptions_of_forall₂ (.cons hsame .nil) fun _ => by simp [htotal]
  unfold Planner.relationship
  rw [hparent, Result.ok_bind, Result.ok_bind, ← hsame.name, hrelationship]
  simp only [hentity, Result.ok_bind, hoptions]
  exact congrArg (_ >>= ·) (funext fun options => by rw [level_of_rephrases h])

/-- Selections that ask for the same in other words give the same plans, or fail alike: of a level with any room below
it, of a query, of a connection and of a load of a relationship. -/
theorem Rephrases.plans_eq (h : planner.Rephrases entity selection selection') :
    (∀ room options cardinality, planner.level room entity selection options cardinality =
      planner.level room entity selection' options cardinality) ∧
    (∀ name options, planner.schema.entity name = .ok entity →
      planner.query name selection options = planner.query name selection' options) ∧
    (∀ name field other, field.SameAbove other → field.wantsTotal = other.wantsTotal →
      planner.schema.entity name = .ok entity → Field.nodeSelection [field] .many = selection →
      Field.nodeSelection [other] .many = selection' → planner.connection name field = planner.connection name other) ∧
    ∀ parentType parent parentId field other relationship, field.SameAbove other → field.wantsTotal = other.wantsTotal →
      planner.schema.entity parentType = .ok parent → parent.relationship? field.name = some relationship →
      planner.schema.entity relationship.target = .ok entity →
      Field.nodeSelection [field] relationship.cardinality = selection →
      Field.nodeSelection [other] relationship.cardinality = selection' →
        planner.relationship parentType parentId field = planner.relationship parentType parentId other := by
  refine ⟨level_of_rephrases h, fun name options hentity => ?_, ?_, ?_⟩
  · unfold query
    rw [hentity, Result.ok_bind, Result.ok_bind, level_of_rephrases h]
  · rintro name field other hsame htotal hentity rfl rfl
    exact connection_of_rephrases hsame htotal hentity h
  · rintro parentType parent parentId field other relationship hsame htotal hparent hrelationship hentity rfl rfl
    exact relationship_of_rephrases hsame htotal hparent hrelationship hentity h

end

/-! ## Readers and their friends -/

/-- The readers, called who. -/
def whoReads : Field := ⟨"readers", some "who", [], none, []⟩

/-- Some fields below `nodes`. -/
def underNodes (selection : List Field) : Field := (Field.named "nodes").withSelection selection

/-- The readers of a document may be asked for twice, and their friends directly or below `nodes`. Where the owner was
asked for under the same result key before, the friends are planned in the first way and lost in the second. -/
theorem Rephrases.plans_eq_friends :
    (∃ plan, archive.query "Doc" [whoReads.withSelection [.named "friends"],
        whoReads.withSelection [.named "friends"]] .default = .ok plan ∧
      archive.query "Doc" [whoReads.withSelection [underNodes [.named "friends", .named "friends"]]] .default =
        .ok plan) ∧
    ∃ first second who lost,
      archive.query "Doc" [whoOwns, whoReads.withSelection [.named "friends"]] .default = .ok first ∧
      archive.query "Doc" [whoOwns, whoReads.withSelection [underNodes [.named "friends"]]] .default = .ok second ∧
      first.root.part? "who" = some [who] ∧ who.query.parts.length = 1 ∧
      second.root.part? "who" = some [lost] ∧ lost.query.parts.length = 0 := by
  constructor
  · have hpages : Field.Pages [.named "friends", .named "friends"] [.named "friends", .named "friends"] :=
      .direct (by simp [Field.named])
    have hmany : ∀ groups, archive.groups Archive.doc
        ([] ++ whoReads.withSelection [.named "friends", .named "friends"] :: []) = .ok groups → ∀ group ∈ groups,
          whoReads.withSelection [.named "friends", .named "friends"] ∈ group.fields →
            group.relationship.isMany = true := by
      intro groups hgroups group hgroup hfield
      have hreaders : group.relationship = Archive.readers :=
        relationship_of_first (by simp) ⟨rfl, Archive.doc, rfl, rfl, rfl⟩ hgroups hgroup hfield
      rw [hreaders]
      rfl
    have hjoined : archive.Rephrases Archive.doc
        [whoReads.withSelection [.named "friends"], whoReads.withSelection [.named "friends"]]
        [whoReads.withSelection [.named "friends", .named "friends"]] :=
      @joined archive Archive.doc (whoReads.withSelection [.named "friends"]) (whoReads.withSelection [.named "friends"])
        [] ⟨⟨rfl, rfl, rfl⟩, rfl⟩ (by simp) [] []
    have hnodes : archive.Rephrases Archive.doc [whoReads.withSelection [.named "friends", .named "friends"]]
        [whoReads.withSelection [underNodes [.named "friends", .named "friends"]]] :=
      @pages archive Archive.doc whoReads _ _ _ [] [] hpages (.nodes rfl rfl) hmany
    obtain ⟨plan, hplan⟩ : ∃ plan, archive.query "Doc" [whoReads.withSelection [.named "friends"],
        whoReads.withSelection [.named "friends"]] .default = .ok plan := ⟨_, rfl⟩
    exact ⟨plan, hplan, ((Rephrases.plans_eq (.trans hjoined hnodes)).2.1 "Doc" .default rfl).symm.trans hplan⟩
  · exact ⟨_, _, _, _, rfl, rfl, rfl, rfl, rfl, rfl⟩

end Planner

end GraphQuery
