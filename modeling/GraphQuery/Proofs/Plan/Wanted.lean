import GraphQuery.Proofs.Page.Coherent
import GraphQuery.Proofs.Plan.Groups

/-!
# What is wanted at a position

A request wants a type and some fields at every position below it (`Planner.wantedAt`): the fields are grouped, and the
first group under a result key that applies to a node leads on. The level that planning makes for a position is the one
planned for what is wanted there (`Planner.level_at`), with less room left for nesting, which more room does not change
(`Planner.level_mono`).

A field without a type condition that is the only one of its result key has a sub-query of its own, which is planned as a
load of the field is (`Planner.below_field`).
-/

namespace GraphQuery

/-! ## Parts -/

/-- The first sub-query under a result key for the nodes of a concrete type. -/
def firstBelow (parts : List (String × List (SubQuery Level))) (resultKey typeName : String) : Option (SubQuery Level) :=
  (List.lookup resultKey parts).bind fun subs => subs.find? (·.appliesTo typeName)

section Parts

variable {planner : Planner} {nested : FieldGroup → Result Level} {resultKey typeName : String}
  {parts parts' : List (String × List (SubQuery Level))}

/-- A sub-query that is added to a part comes behind those that are there. -/
theorem firstBelow_addToPart (resultKey typeName : String) (parts : List (String × List (SubQuery Level)))
    (key : String) (sub : SubQuery Level) :
    firstBelow (addToPart parts key sub) resultKey typeName = (firstBelow parts resultKey typeName).or
      (if resultKey = key ∧ sub.appliesTo typeName = true then some sub else none) := by
  unfold firstBelow addToPart
  rw [Table.lookup_insert]
  by_cases hkey : resultKey = key
  · subst hkey
    cases List.lookup resultKey parts with
    | none => by_cases happlies : sub.appliesTo typeName = true <;> simp [happlies]
    | some subs => by_cases happlies : sub.appliesTo typeName = true <;> simp [List.find?_append, happlies]
  · simp [hkey]

/-- The first sub-query that applies stays the first. -/
theorem firstBelow_of_foldlM {groups : List FieldGroup} {sub : SubQuery Level}
    (h : groups.foldlM (fun parts group => do
      return addToPart parts group.resultKey ⟨group.relationship, ← nested group, group.onlyOnTypes⟩) parts = .ok parts')
    (hsub : firstBelow parts resultKey typeName = some sub) : firstBelow parts' resultKey typeName = some sub := by
  refine Result.foldlM_induct (P := fun parts => firstBelow parts resultKey typeName = some sub) h hsub
    fun parts group parts'' _ hfirst hstep => ?_
  obtain ⟨query, _, hstep⟩ := Result.bind_eq_ok.mp hstep
  cases hstep
  rw [firstBelow_addToPart, hfirst, Option.some_or]

/-- The first sub-query under a result key is planned for the first group of the result key that applies. -/
theorem firstBelow_foldlM (resultKey typeName : String) :
    ∀ {groups : List FieldGroup} {parts parts' : List (String × List (SubQuery Level))},
      groups.foldlM (fun parts group => do
        return addToPart parts group.resultKey ⟨group.relationship, ← nested group, group.onlyOnTypes⟩) parts =
          .ok parts' →
      firstBelow parts resultKey typeName = none →
        match FieldGroup.firstFor groups resultKey typeName with
        | none => firstBelow parts' resultKey typeName = none
        | some group => ∃ query, nested group = .ok query ∧
            firstBelow parts' resultKey typeName = some ⟨group.relationship, query, group.onlyOnTypes⟩
  | [], parts, parts', h, hnone => by
    cases h
    exact hnone
  | first :: rest, parts, parts', h, hnone => by
    rw [List.foldlM_cons] at h
    obtain ⟨middle, hmiddle, h⟩ := Result.bind_eq_ok.mp h
    obtain ⟨query, hquery, hmiddle⟩ := Result.bind_eq_ok.mp hmiddle
    cases hmiddle
    have hadded := firstBelow_addToPart resultKey typeName parts first.resultKey
      ⟨first.relationship, query, first.onlyOnTypes⟩
    rw [hnone, Option.none_or] at hadded
    by_cases hfirst : first.resultKey = resultKey ∧ first.appliesTo typeName = true
    · have hfound : FieldGroup.firstFor (first :: rest) resultKey typeName = some first :=
        List.find?_cons_of_pos (by simpa using hfirst)
      rw [if_pos ⟨hfirst.1.symm, hfirst.2⟩] at hadded
      rw [hfound]
      exact ⟨query, hquery, firstBelow_of_foldlM h hadded⟩
    · have hskip : FieldGroup.firstFor (first :: rest) resultKey typeName =
          FieldGroup.firstFor rest resultKey typeName := List.find?_cons_of_neg (by simpa using hfirst)
      have hother : ¬ (resultKey = first.resultKey ∧
          SubQuery.appliesTo ⟨first.relationship, query, first.onlyOnTypes⟩ typeName = true) :=
        fun h => hfirst ⟨h.1.symm, h.2⟩
      rw [if_neg hother] at hadded
      rw [hskip]
      exact firstBelow_foldlM resultKey typeName h hadded

end Parts

/-! ## Room -/

/-- A run of a fold succeeds when its steps do what they do in another run that succeeds. -/
theorem Result.foldlM_mono {α β : Type} {f g : β → α → Result β} (hfg : ∀ b a c, f b a = .ok c → g b a = .ok c) :
    ∀ {xs : List α} {b c : β}, xs.foldlM f b = .ok c → xs.foldlM g b = .ok c
  | [], _, _, h => h
  | x :: xs, b, c, h => by
    rw [List.foldlM_cons] at h ⊢
    obtain ⟨d, hd, h⟩ := Result.bind_eq_ok.mp h
    exact Result.bind_eq_ok.mpr ⟨d, hfg _ _ _ hd, Result.foldlM_mono hfg h⟩

section Room

variable {planner : Planner}

theorem Planner.levelOver_mono {nested other : FieldGroup → Result Level}
    (hnested : ∀ group level, nested group = .ok level → other group = .ok level) {entity : EntityType}
    {selection : List Field} {options : Options} {cardinality : Cardinality} {level : Level}
    (h : planner.levelOver nested entity selection options cardinality = .ok level) :
    planner.levelOver other entity selection options cardinality = .ok level := by
  obtain ⟨authorization, groups, parts, hpage, hauthorization, hgroups, hparts, hlevel⟩ := levelOver_eq_ok.mp h
  refine levelOver_eq_ok.mpr ⟨authorization, groups, parts, hpage, hauthorization, hgroups, ?_, hlevel⟩
  refine Result.foldlM_mono (fun parts group parts' hstep => ?_) hparts
  obtain ⟨query, hquery, hstep⟩ := Result.bind_eq_ok.mp hstep
  exact Result.bind_eq_ok.mpr ⟨query, hnested group query hquery, hstep⟩

/-- A level that is planned with some room is planned with more. -/
theorem Planner.level_mono [PropertyTable] : ∀ {room more : Nat} {entity : EntityType} {selection : List Field}
    {options : Options} {cardinality : Cardinality} {level : Level}, room ≤ more →
      planner.level room entity selection options cardinality = .ok level →
        planner.level more entity selection options cardinality = .ok level
  | 0, 0, _, _, _, _, _, _, h => h
  | 0, more + 1, _, _, _, _, _, _, h => Planner.levelOver_mono (fun _ _ hnested => by cases hnested) h
  | room + 1, 0, _, _, _, _, _, hle, _ => by omega
  | room + 1, more + 1, _, _, _, _, _, hle, h => by
    refine Planner.levelOver_mono (fun group level hnested => ?_) h
    obtain ⟨target, htarget, hnested⟩ := Result.bind_eq_ok.mp hnested
    obtain ⟨options, hoptions, hnested⟩ := Result.bind_eq_ok.mp hnested
    exact Result.bind_eq_ok.mpr ⟨target, htarget, Result.bind_eq_ok.mpr
      ⟨options, hoptions, Planner.level_mono (Nat.le_of_succ_le_succ hle) hnested⟩⟩

end Room

/-! ## Positions -/

namespace Planner

variable (planner : Planner)

/-- The type and the fields that are wanted at a position below a type and some fields. -/
def wantedAt : EntityType → List Field → Position → Result (Option (EntityType × List Field))
  | entity, selection, [] => .ok (some (entity, selection))
  | entity, selection, (resultKey, typeName) :: rest => do
    match FieldGroup.firstFor (← planner.groups entity selection) resultKey typeName with
    | none => return none
    | some group =>
      let target ← planner.schema.entity group.relationship.target
      wantedAt target (Field.nodeSelection group.fields group.relationship.cardinality) rest

variable {planner} {room : Nat} {entity : EntityType} {selection : List Field} {options : Options}
  {cardinality : Cardinality} {level : Level}

variable [PropertyTable]

/-- Below a level stands under each result key what is planned, with less room, for the first group that applies. -/
theorem below_of_level (h : planner.level room entity selection options cardinality = .ok level)
    (resultKey typeName : String) : ∃ groups, planner.groups entity selection = .ok groups ∧
      match FieldGroup.firstFor groups resultKey typeName with
      | none => level.below? resultKey typeName = none
      | some group => ∃ less target options' query, less ≤ room ∧
          planner.schema.entity group.relationship.target = .ok target ∧
          planner.relationshipOptions group.relationship target group.field group.others = .ok options' ∧
          planner.level less target (Field.nodeSelection group.fields group.relationship.cardinality) options'
            group.relationship.cardinality = .ok query ∧
          level.below? resultKey typeName = some ⟨group.relationship, query, group.onlyOnTypes⟩ := by
  have hover : ∃ nested : FieldGroup → Result Level,
      planner.levelOver nested entity selection options cardinality = .ok level ∧
        ∀ group query, nested group = .ok query → ∃ less target options', less ≤ room ∧
          planner.schema.entity group.relationship.target = .ok target ∧
          planner.relationshipOptions group.relationship target group.field group.others = .ok options' ∧
          planner.level less target (Field.nodeSelection group.fields group.relationship.cardinality) options'
            group.relationship.cardinality = .ok query := by
    cases room with
    | zero => exact ⟨_, h, fun _ _ hnested => by cases hnested⟩
    | succ less =>
      refine ⟨_, h, fun group query hnested => ?_⟩
      obtain ⟨target, htarget, hnested⟩ := Result.bind_eq_ok.mp hnested
      obtain ⟨options, hoptions, hnested⟩ := Result.bind_eq_ok.mp hnested
      exact ⟨less, target, options, Nat.le_succ less, htarget, hoptions, hnested⟩
  obtain ⟨nested, hover, hnested⟩ := hover
  obtain ⟨_, groups, parts, _, _, hgroups, hparts, rfl⟩ := levelOver_eq_ok.mp hover
  refine ⟨groups, hgroups, ?_⟩
  have hbelow := firstBelow_foldlM resultKey typeName hparts rfl
  cases hfirst : FieldGroup.firstFor groups resultKey typeName with
  | none =>
    rw [hfirst] at hbelow
    exact hbelow
  | some group =>
    rw [hfirst] at hbelow
    obtain ⟨query, hquery, hbelow⟩ := hbelow
    obtain ⟨less, target, options, hless, htarget, hoptions, hlevel⟩ := hnested group query hquery
    exact ⟨less, target, options, query, hless, htarget, hoptions, hlevel, hbelow⟩

/-- The level at a position of a level is planned for what is wanted there. -/
theorem level_at : ∀ {position : Position} {room : Nat} {entity : EntityType} {selection : List Field}
    {options : Options} {cardinality : Cardinality} {level inner : Level},
    planner.level room entity selection options cardinality = .ok level → level.levelAt position = some inner →
      ∃ less type fields options' cardinality', less ≤ room ∧
        planner.wantedAt entity selection position = .ok (some (type, fields)) ∧
        planner.level less type fields options' cardinality' = .ok inner
  | [], room, entity, selection, options, cardinality, level, inner, h, hinner => by
    cases hinner
    exact ⟨room, entity, selection, options, cardinality, Nat.le_refl room, rfl, h⟩
  | (resultKey, typeName) :: rest, room, entity, selection, options, cardinality, level, inner, h, hinner => by
    obtain ⟨groups, hgroups, hbelow⟩ := below_of_level h resultKey typeName
    obtain ⟨sub, hsub, hinner⟩ := Option.bind_eq_some_iff.mp hinner
    cases hfirst : FieldGroup.firstFor groups resultKey typeName with
    | none =>
      rw [hfirst, hsub] at hbelow
      cases hbelow
    | some group =>
      rw [hfirst] at hbelow
      obtain ⟨less, target, options', query, hless, htarget, _, hquery, hbelow⟩ := hbelow
      rw [hsub] at hbelow
      cases hbelow
      obtain ⟨fewer, type, fields, options'', cardinality', hfewer, hwanted, hlevel⟩ := level_at hquery hinner
      refine ⟨fewer, type, fields, options'', cardinality', Nat.le_trans hfewer hless, ?_, hlevel⟩
      refine Result.bind_eq_ok.mpr ⟨groups, hgroups, ?_⟩
      simp only [hfirst]
      exact Result.bind_eq_ok.mpr ⟨target, htarget, hwanted⟩

/-- The only field of a result key, when it has no type condition, has a sub-query for all nodes; a load of the field
plans the same for them. -/
theorem below_field {field : Field} {relationship : RelationshipDef}
    (h : planner.level room entity selection options cardinality = .ok level) (hroom : room ≤ planner.budget.maxDepth)
    (honly : selection.filter (·.resultKey = field.resultKey) = [field]) (hcondition : field.typeCondition = none)
    (hrelationship : entity.relationship? field.name = some relationship) {typeName parentType : String}
    {parent : EntityType} (hparent : planner.schema.entity parentType = .ok parent)
    (hdeclared : parent.relationship? field.name = some relationship) (parentId : Value) :
    ∃ query, level.below? field.resultKey typeName = some ⟨relationship, query, none⟩ ∧
      planner.relationship parentType parentId field = .ok ⟨query, some ⟨parent.name, parentId, relationship⟩⟩ := by
  obtain ⟨groups, hgroups, hbelow⟩ := below_of_level h field.resultKey typeName
  have hfirst : FieldGroup.firstFor groups field.resultKey typeName =
      some ⟨field.resultKey, relationship, none, field, []⟩ := by
    have hsame : FieldGroup.firstFor groups field.resultKey typeName =
        (groups.filter (·.resultKey = field.resultKey)).find? (·.appliesTo typeName) := by
      rw [List.find?_filter, FieldGroup.firstFor]
      congr 1
      funext group
      simp
    rw [hsame, groups_of_only hgroups honly hcondition hrelationship]
    rfl
  rw [hfirst] at hbelow
  obtain ⟨less, target, options', query, hless, htarget, hoptions, hquery, hbelow⟩ := hbelow
  refine ⟨query, hbelow, Result.bind_eq_ok.mpr ⟨parent, hparent, ?_⟩⟩
  rw [hdeclared]
  exact Result.bind_eq_ok.mpr ⟨target, htarget, Result.bind_eq_ok.mpr ⟨options', hoptions, Result.bind_eq_ok.mpr
    ⟨query, level_mono (Nat.le_trans hless hroom) hquery, rfl⟩⟩⟩

end Planner

end GraphQuery
