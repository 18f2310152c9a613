import GraphQuery.Engine.Basic
import GraphQuery.Proofs.Plan.Compile
import GraphQuery.Proofs.Plan.Made

/-!
# Plans of pages

The plan for a page of a connection is the plan for the whole connection with the size and the cursor among its options
(`Engine.Heading.connection_forwards`, `Engine.Heading.connection_backwards`), and it compiles when its cursors can be read
(`Level.compiles_paged`).
-/

namespace GraphQuery

/-! ## Arguments of a page -/

/-- A field with no argument of a page. -/
structure Field.Unpaged (field : Field) : Prop where
  first : field.present? "first" = none
  last : field.present? "last" = none
  after : field.present? "after" = none
  before : field.present? "before" = none

section Arguments

variable {α : Type} {field other : Field} {schema : Schema} {entity : EntityType} {countsTotal : Bool}
  {options : Options}

theorem Field.readArgument_congr {name : String} (h : other.present? name = field.present? name)
    (read : Json → Result α) : other.readArgument name read = field.readArgument name read := by
  rw [Field.readArgument, Field.readArgument, h]

theorem Field.readArgument_none {name : String} (h : field.present? name = none) (read : Json → Result α) :
    field.readArgument name read = .ok none := by
  rw [Field.readArgument, h]

theorem Field.readArgument_cursor {name : String} {cursor : Option String}
    (h : field.present? name = cursor.map Json.string) :
    field.readArgument name (Field.readCursor name) = .ok cursor := by
  rw [Field.readArgument, h]
  cases cursor <;> rfl

theorem Field.readArgument_size {name : String} {size : Nat} (hsize : (size : Int) ≤ Int64.maxValue.toInt)
    (h : field.present? name = some (.int size)) :
    field.readArgument name (Field.readLimit name) = .ok (some (size : Int)) := by
  have hlow : Int64.minValue.toInt ≤ (size : Int) := Int.le_trans (by decide) (Int.natCast_nonneg size)
  have hread : Value.int64OfJson? (.int size) = some (Int64.ofInt size) := by
    rw [Value.int64OfJson?]
    simp only [Json.int?, Option.bind_eq_bind, Option.bind_some, if_pos (And.intro hlow hsize)]
  have htoInt : (Int64.ofInt size).toInt = (size : Int) :=
    Int64.toInt_ofInt_of_le hlow (Int.lt_of_le_of_lt hsize (by decide))
  rw [Field.readArgument, h]
  simp only [Field.readLimit, hread, htoInt]
  rfl

theorem Options.limit_natCast (name : String) (size : Nat) : Options.limit name (some (size : Int)) = .ok (some size) := by
  rw [Options.limit, if_neg (Int.not_lt.mpr (Int.natCast_nonneg size)), Int.toNat_natCast]

/-- The arguments of a field that has none of a page lead to options without pages. -/
theorem Field.Unpaged.options_eq [PropertyTable] (h : field.Unpaged)
    (ho : field.options schema entity countsTotal = .ok options) : ∃ filter order, field.readArgument "filter"
    (Filter.parse schema entity) = .ok filter ∧
      field.readArgument "orderBy" (Order.parse schema entity) = .ok order ∧
      options = ⟨filter.getD .all, order.getD .byId, none, none, none, none, countsTotal⟩ := by
  obtain ⟨filter, hfilter, ho⟩ := Result.bind_eq_ok.mp ho
  obtain ⟨order, horder, ho⟩ := Result.bind_eq_ok.mp ho
  rw [readArgument_none h.after, readArgument_none h.before, readArgument_none h.first, readArgument_none h.last] at ho
  cases ho
  exact ⟨filter, order, hfilter, horder, rfl⟩

/-- The argument that a page adds, and the arguments it leaves as they were. -/
theorem Engine.Heading.present?_field (heading : Engine.Heading) (field : Field) (size : Json)
    (cursor : Option String) (name : String)
    (hsize : size.isNull = false) (hne : heading.sizeArgument ≠ heading.cursorArgument) :
    (heading.field field size cursor).present? name =
      if name = heading.sizeArgument then some size
      else if name = heading.cursorArgument then (cursor.map Json.string).or (field.present? name)
      else field.present? name := by
  unfold Field.present? Field.argument? Engine.Heading.field
  cases cursor with
  | none =>
    simp only [Table.lookup_insert]
    split
    · simp [hsize]
    · simp
  | some cursor =>
    simp only [Table.lookup_insert]
    by_cases hcursor : name = heading.cursorArgument
    · subst hcursor
      simp [Ne.symm hne, Json.isNull]
    · by_cases hname : name = heading.sizeArgument
      · simp [hname, hne, hsize]
      · simp [hcursor, hname]

variable {size : Nat} {cursor : Option String}

variable [PropertyTable]

/-- The options of a page from the front. -/
theorem Engine.Heading.options_forwards (hu : field.Unpaged) (hsize : (size : Int) ≤ Int64.maxValue.toInt)
    (ho : field.options schema entity countsTotal = .ok options) :
    (Engine.Heading.forwards.field field (.int size) cursor).options schema entity countsTotal =
      .ok { options with first := some size, after := cursor } := by
  have hpresent := fun name =>
    Engine.Heading.present?_field .forwards field (.int size) cursor name rfl (by decide)
  obtain ⟨filter, order, hfilter, horder, rfl⟩ := hu.options_eq ho
  have hafter : (Engine.Heading.forwards.field field (.int size) cursor).present? "after" = cursor.map Json.string := by
    rw [hpresent, if_neg (by decide), if_pos (by decide), hu.after, Option.or_none]
  unfold Field.options
  rw [Field.readArgument_congr (hpresent "filter"), Field.readArgument_congr (hpresent "orderBy"), hfilter, horder,
    Field.readArgument_cursor hafter, Field.readArgument_none ((hpresent "before").trans hu.before),
    Field.readArgument_size hsize (hpresent "first"), Field.readArgument_none ((hpresent "last").trans hu.last)]
  simp only [Result.ok_bind]
  unfold Options.build
  rw [Options.limit_natCast]
  rfl

/-- The options of a page from the back. -/
theorem Engine.Heading.options_backwards (hu : field.Unpaged) (hsize : (size : Int) ≤ Int64.maxValue.toInt)
    (ho : field.options schema entity countsTotal = .ok options) :
    (Engine.Heading.backwards.field field (.int size) cursor).options schema entity countsTotal =
      .ok { options with last := some size, before := cursor } := by
  have hpresent := fun name =>
    Engine.Heading.present?_field .backwards field (.int size) cursor name rfl (by decide)
  obtain ⟨filter, order, hfilter, horder, rfl⟩ := hu.options_eq ho
  have hbefore : (Engine.Heading.backwards.field field (.int size) cursor).present? "before" = cursor.map Json.string := by
    rw [hpresent, if_neg (by decide), if_pos (by decide), hu.before, Option.or_none]
  unfold Field.options
  rw [Field.readArgument_congr (hpresent "filter"), Field.readArgument_congr (hpresent "orderBy"), hfilter, horder,
    Field.readArgument_cursor hbefore, Field.readArgument_none ((hpresent "after").trans hu.after),
    Field.readArgument_size hsize (hpresent "last"), Field.readArgument_none ((hpresent "first").trans hu.first)]
  simp only [Result.ok_bind]
  unfold Options.build
  rw [Options.limit_natCast]
  rfl

end Arguments

/-! ## Planning a page -/

/-- The same level with other options, of as many nodes. -/
def Level.withOptions (level : Level) (options : Options) : Level :=
  { level with options, limit := options.rowLimit level.cardinality }

section Planning

variable {planner : Planner} {entity : EntityType} {selection : List Field} {options other : Options}
  {cardinality : Cardinality} {level : Level}

theorem Planner.levelOver_withOptions {nested : FieldGroup → Result Level}
    (h : planner.levelOver nested entity selection options cardinality = .ok level)
    (hfilter : other.filter = options.filter) (hpage : planner.budget.checkPage entity other = .ok ()) :
    planner.levelOver nested entity selection other cardinality = .ok (level.withOptions other) := by
  obtain ⟨authorization, groups, parts, _, hauthorization, hgroups, hparts, rfl⟩ := Planner.levelOver_eq_ok.mp h
  exact Planner.levelOver_eq_ok.mpr ⟨authorization, groups, parts, hpage, hauthorization, hgroups, hparts, by
    rw [Level.withOptions, hfilter]⟩

variable [PropertyTable]

/-- Other options with the same filter lead to the same level with these options. -/
theorem Planner.level_withOptions {room : Nat} (h : planner.level room entity selection options cardinality = .ok level)
    (hfilter : other.filter = options.filter) (hpage : planner.budget.checkPage entity other = .ok ()) :
    planner.level room entity selection other cardinality = .ok (level.withOptions other) := by
  cases room with
  | zero => exact Planner.levelOver_withOptions h hfilter hpage
  | succ room => exact Planner.levelOver_withOptions h hfilter hpage

theorem Planner.connection_withOptions {entityType : String} {field page : Field} {plan : Plan}
    (h : planner.connection entityType field = .ok plan) (hselection : page.selection = field.selection)
    (hoptions : ∀ entity options, field.options planner.schema entity field.wantsTotal = .ok options →
      options = plan.root.options → page.options planner.schema entity field.wantsTotal = .ok other)
    (hfilter : other.filter = plan.root.options.filter)
    (hpage : ∀ entity, planner.budget.checkPage entity other = .ok ()) :
    planner.connection entityType page = .ok ⟨plan.root.withOptions other, none⟩ := by
  obtain ⟨entity, options, root, hentity, hfield, hroot, rfl⟩ := Planner.connection_eq_ok h
  have hrootOptions : root.options = options := (Planner.head_of_level hroot).2.1
  have hwants : page.wantsTotal = field.wantsTotal := by rw [Field.wantsTotal, Field.hasChild, hselection]; rfl
  have hnodes : Field.nodeSelection [page] .many = Field.nodeSelection [field] .many := by
    simp only [Field.nodeSelection, List.flatMap_cons, List.flatMap_nil, hselection]
  refine Result.bind_eq_ok.mpr ⟨entity, hentity, Result.bind_eq_ok.mpr ⟨other, ?_, Result.bind_eq_ok.mpr ⟨_, ?_, rfl⟩⟩⟩
  · rw [hwants]
    exact hoptions entity options hfield hrootOptions.symm
  · rw [hnodes]
    exact Planner.level_withOptions hroot (hfilter.trans (congrArg Options.filter hrootOptions)) (hpage entity)

end Planning

/-! ## Compiling a page -/

/-- The cursors of options can be read. -/
def Options.Readable (options : Options) : Prop :=
  ∀ cursor, options.after = some cursor ∨ options.before = some cursor →
    ∃ values, Cursor.decode options.order cursor = .ok values

section Compiling

variable {schema : Schema} {options : Options} {operandOf : OrderKey → Operand} {b b' : Bindings}

theorem Order.seekCursor_total {order : Order} {cursor : Option String} (forwards : Bool)
    (h : ∀ c, cursor = some c → ∃ values, Cursor.decode order c = .ok values) (operandOf : OrderKey → Operand)
    (b : Bindings) : ∃ conditions b', order.seekCursor cursor forwards operandOf b = .ok (conditions, b') := by
  cases cursor with
  | none => exact ⟨[], b, rfl⟩
  | some cursor =>
    obtain ⟨values, hvalues⟩ := h cursor rfl
    exact ⟨_, _, Result.bind_eq_ok.mpr ⟨values, hvalues, rfl⟩⟩

theorem Options.Readable.seek (h : options.Readable) (operandOf : OrderKey → Operand) (b : Bindings) :
    ∃ condition b', options.seek operandOf b = .ok (condition, b') := by
  obtain ⟨after, b₁, hafter⟩ := Order.seekCursor_total true (fun c hc => h c (.inl hc)) operandOf b
  obtain ⟨before, b₂, hbefore⟩ := Order.seekCursor_total false (fun c hc => h c (.inr hc)) operandOf b₁
  exact ⟨_, _, Result.bind_eq_ok.mpr ⟨_, hafter, Result.bind_eq_ok.mpr ⟨_, hbefore, rfl⟩⟩⟩

theorem Options.readable_of_seek {condition : Condition} (h : options.seek operandOf b = .ok (condition, b')) :
    options.Readable := by
  obtain ⟨⟨after, b₁⟩, hafter, h⟩ := Result.bind_eq_ok.mp h
  obtain ⟨⟨before, b₂⟩, hbefore, _⟩ := Result.bind_eq_ok.mp h
  have hread : ∀ {cursor : String} {forwards : Bool} {b : Bindings} {conditions : List Condition × Bindings},
      options.order.seekCursor (some cursor) forwards operandOf b = .ok conditions →
        ∃ values, Cursor.decode options.order cursor = .ok values := by
    intro cursor forwards b conditions hseek
    obtain ⟨values, hvalues, _⟩ := Result.bind_eq_ok.mp hseek
    exact ⟨values, hvalues⟩
  rintro cursor (hcursor | hcursor)
  · rw [hcursor] at hafter
    exact hread hafter
  · rw [hcursor] at hbefore
    exact hread hbefore

/-- Branches compile from other names and parameters when each of them does. -/
theorem Compiles.total {entity : EntityType} {var : String} {branches : List Branch} {children : List Block}
    (h : Compiles schema entity var branches b children b')
    (hbranch : ∀ branch ∈ branches, ∀ {source : Source} {resultKey : String} {subQuery : Nat}
      {onlyOnTypes : Option (List String)} {b b' : Bindings} {block : Block},
        branch.sub.query.compile schema source resultKey subQuery onlyOnTypes b = .ok (block, b') →
          ∀ (source : Source) (resultKey : String) (subQuery : Nat) (onlyOnTypes : Option (List String)) (b : Bindings),
            ∃ block b', branch.sub.query.compile schema source resultKey subQuery onlyOnTypes b = .ok (block, b'))
    (var' : String) (b₁ : Bindings) : ∃ children' b₂, Compiles schema entity var' branches b₁ children' b₂ := by
  induction h generalizing b₁ with
  | nil => exact ⟨[], b₁, .nil b₁⟩
  | @cons branch rest child children b b₂ b₃ hrequire hchild _ ih =>
    obtain ⟨hfirst, hrest⟩ := List.forall_mem_cons.mp hbranch
    obtain ⟨child', b₄, hchild'⟩ := hfirst hchild
      (.traversal var' branch.sub.relationship.label branch.sub.relationship.direction) branch.resultKey branch.index
      branch.sub.onlyOnTypes b₁
    obtain ⟨children', b₅, hchildren'⟩ := ih hrest b₄
    exact ⟨child' :: children', b₅, .cons hrequire hchild' hchildren'⟩

/-- Whether a level compiles depends neither on the names and parameters handed out before nor on where its nodes come
from. -/
theorem Level.compile_total : ∀ {level : Level} {source : Source} {resultKey : String} {subQuery : Nat}
    {onlyOnTypes : Option (List String)} {b b' : Bindings} {block : Block},
      level.compile schema source resultKey subQuery onlyOnTypes b = .ok (block, b') →
        ∀ (source : Source) (resultKey : String) (subQuery : Nat) (onlyOnTypes : Option (List String)) (b : Bindings),
          ∃ block b', level.compile schema source resultKey subQuery onlyOnTypes b = .ok (block, b') := by
  intro level
  induction level using Level.induct with
  | step level ih =>
    intro _ _ _ _ _ _ _ h source resultKey subQuery onlyOnTypes b
    obtain ⟨entity, seek, b₁, children, hentity, hfits, hseek, hchildren, _⟩ := Level.compile_eq_ok.mp h
    obtain ⟨seek', b₂, hseek'⟩ := (Options.readable_of_seek hseek).seek
      (fun key => (level.options.order.pathNamed key.name).operand b.freshVar.1)
      (level.condition.lower b.freshVar.1 b.freshVar.2).2
    obtain ⟨children', b₃, hchildren'⟩ := Compiles.total hchildren ih b.freshVar.1 b₂
    exact ⟨_, _, Level.compile_eq_ok.mpr ⟨entity, seek', b₂, children', hentity, hfits, hseek', hchildren', rfl⟩⟩

/-- A level with other options compiles when the cursors can be read and the order is the same. -/
theorem Plan.compile_withOptions {plan : Plan} {statement : Statement} (h : plan.compile schema = .ok statement)
    (horder : options.order = plan.root.options.order) (hread : options.Readable) :
    ∃ statement', Plan.compile schema ⟨plan.root.withOptions options, plan.anchor⟩ = .ok statement' := by
  obtain ⟨⟨source, b⟩, hsource, h⟩ := Result.bind_eq_ok.mp h
  obtain ⟨⟨root, b'⟩, hroot, _⟩ := Result.bind_eq_ok.mp h
  obtain ⟨entity, seek, b₁, children, hentity, hfits, _, hchildren, _⟩ := Level.compile_eq_ok.mp hroot
  obtain ⟨seek', b₂, hseek'⟩ := hread.seek (fun key => (options.order.pathNamed key.name).operand b.freshVar.1)
    (plan.root.condition.lower b.freshVar.1 b.freshVar.2).2
  obtain ⟨children', b₃, hchildren'⟩ := Compiles.total hchildren
    (fun branch _ _ _ _ _ _ _ _ hbranch => Level.compile_total hbranch) b.freshVar.1 b₂
  exact ⟨_, Result.bind_eq_ok.mpr ⟨_, hsource, Result.bind_eq_ok.mpr ⟨_, Level.compile_eq_ok.mpr
    ⟨entity, seek', b₂, children', hentity, horder ▸ hfits, hseek', hchildren', rfl⟩, rfl⟩⟩⟩

/-- A level whose cursors can be read compiles as soon as it does without them. -/
theorem Plan.compiles_of_readable {level : Level} {anchor : Option Anchor} (hread : options.Readable)
    (h : (Plan.compile schema
      ⟨level.withOptions { options with after := none, before := none }, anchor⟩).isOk = true) :
    ∃ statement, Plan.compile schema ⟨level.withOptions options, anchor⟩ = .ok statement := by
  cases hcompile : Plan.compile schema ⟨level.withOptions { options with after := none, before := none }, anchor⟩ with
  | error e =>
    rw [hcompile] at h
    cases h
  | ok statement => exact Plan.compile_withOptions hcompile rfl hread

end Compiling

end GraphQuery
