import GraphQuery.Pattern.KnownProperty
import GraphQuery.Proofs.Condition.Plain

/-!
# The text of a condition says what it means

Built conditions that are written alike are true alike, in every graph and with every argument
(`Condition.truth_eq_of_render`), when all names in them are words: letters, digits and underscores. Conditions in plain
form are even told apart by their texts (`Condition.Splits`). The first word of a text and the character behind it say
of which kind the condition is (`Condition.opening_ofText`), and a text that goes on with a blank, with the end of a
group, or not at all, is split into a condition and what follows it in one way only.
-/

namespace GraphQuery

/-! ## Words -/

/-- Whether a character stands in words. -/
def isWordChar (c : Char) : Bool := c.isAlphanum || c = '_'

/-- Names that are words. -/
structure IsWord (name : String) : Prop where
  nonempty : name ≠ ""
  word : ∀ c ∈ name.toList, isWordChar c = true

instance (name : String) : Decidable (IsWord name) :=
  decidable_of_iff (name ≠ "" ∧ name.toList.all isWordChar = true)
    ⟨fun h => ⟨h.1, List.all_eq_true.mp h.2⟩, fun h => ⟨h.nonempty, List.all_eq_true.mpr h.word⟩⟩

section Words

variable {s t : List Char}

/-- A run of characters of one kind reaches up to the first one of another kind. -/
theorem run_inj {p : Char → Bool} {xs ys : List Char} (hxs : ∀ c ∈ xs, p c = true) (hys : ∀ c ∈ ys, p c = true)
    (hs : s.takeWhile p = []) (ht : t.takeWhile p = []) (h : xs ++ s = ys ++ t) : xs = ys ∧ s = t := by
  have heq : xs = ys := by
    have htake := congrArg (List.takeWhile p) h
    rwa [List.takeWhile_append_of_pos hxs, hs, List.append_nil, List.takeWhile_append_of_pos hys, ht,
      List.append_nil] at htake
  subst heq
  exact ⟨rfl, List.append_cancel_left h⟩

theorem IsWord.inj {a b : String} (ha : IsWord a) (hb : IsWord b) (hs : s.takeWhile isWordChar = [])
    (ht : t.takeWhile isWordChar = []) (h : a.toList ++ s = b.toList ++ t) : a = b ∧ s = t := by
  obtain ⟨hword, htail⟩ := run_inj ha.word hb.word hs ht h
  exact ⟨String.toList_inj.mp hword, htail⟩

theorem toList_intercalate (separator : String) : ∀ (first : String) (rest : List String),
    (String.intercalate separator (first :: rest)).toList =
      first.toList ++ rest.flatMap fun text => separator.toList ++ text.toList
  | first, [] => (List.append_nil _).symm
  | first, second :: rest => by
    have hjoin : String.intercalate separator (first :: second :: rest) =
        String.intercalate separator ((first ++ separator ++ second) :: rest) := rfl
    rw [hjoin, toList_intercalate]
    simp only [String.toList_append, List.append_assoc, List.flatMap_cons]

end Words

/-! ## Operands -/

/-- The first bracket of an edge, behind the node that a step is from. -/
def Direction.opening : Direction → String
  | outgoing => ")-[:"
  | incoming => ")<-[:"

/-- The second bracket of an edge, before the node that a step leads to. -/
def Direction.closing : Direction → String
  | outgoing => "]->("
  | incoming => "]-("

theorem Direction.opening_inj {direction direction' : Direction} {s t : List Char}
    (h : direction.opening.toList ++ s = direction'.opening.toList ++ t) : direction = direction' ∧ s = t := by
  cases direction with
  | outgoing => cases direction' with
    | outgoing => exact ⟨rfl, List.append_cancel_left h⟩
    | incoming => cases h
  | incoming => cases direction' with
    | outgoing => cases h
    | incoming => exact ⟨rfl, List.append_cancel_left h⟩

/-- No bracket of an edge stands in words. -/
theorem Direction.takeWhile_opening (direction : Direction) (s : List Char) :
    (direction.opening.toList ++ s).takeWhile isWordChar = [] := by
  cases direction <;> rfl

theorem Direction.takeWhile_closing (direction : Direction) (s : List Char) :
    (direction.closing.toList ++ s).takeWhile isWordChar = [] := by
  cases direction <;> rfl

namespace Step

variable {step step' : Step} {node node' reached reached' : String} {s t : List Char}

theorem toList_text : (step.text node reached).toList ++ s =
    '(' :: (node.toList ++ (step.direction.opening.toList ++ (step.label.toList ++ (step.direction.closing.toList ++
      (reached.toList ++ ':' :: (step.target.toList ++ ')' :: s)))))) := by
  obtain ⟨label, direction, target⟩ := step
  cases direction <;> simp only [text, String.toList_append, List.append_assoc] <;> rfl

/-- A text that starts with a step tells which step it is. -/
theorem text_inj (hwords : ∀ name ∈ [node, step.label, step.target, reached], IsWord name)
    (hwords' : ∀ name ∈ [node', step'.label, step'.target, reached'], IsWord name)
    (h : (step.text node reached).toList ++ s = (step'.text node' reached').toList ++ t) :
    node = node' ∧ step = step' ∧ reached = reached' ∧ s = t := by
  obtain ⟨label, direction, target⟩ := step
  obtain ⟨label', direction', target'⟩ := step'
  simp only [List.forall_mem_cons] at hwords hwords'
  obtain ⟨hnode, hlabel, htarget, hreached, -⟩ := hwords
  obtain ⟨hnode', hlabel', htarget', hreached', -⟩ := hwords'
  rw [toList_text, toList_text] at h
  obtain ⟨rfl, hdirection⟩ := hnode.inj hnode' (Direction.takeWhile_opening _ _) (Direction.takeWhile_opening _ _)
    (List.cons.inj h).2
  obtain ⟨rfl, hbracket⟩ := Direction.opening_inj hdirection
  obtain ⟨rfl, hclosing⟩ := hlabel.inj hlabel' (Direction.takeWhile_closing _ _) (Direction.takeWhile_closing _ _)
    hbracket
  obtain ⟨rfl, hcolon⟩ := hreached.inj hreached' rfl rfl (List.append_cancel_left hclosing)
  obtain ⟨rfl, htail⟩ := htarget.inj htarget' rfl rfl (List.cons.inj hcolon).2
  exact ⟨rfl, rfl, rfl, (List.cons.inj htail).2⟩

end Step

namespace Operand

variable {operand operand' : Operand} {s t : List Char}

/-- The names in an operand. -/
def names : Operand → List String
  | property var name => [var, name]
  | related var step name => [var, step.label, step.target, name]

theorem toList_text_property (var name : String) :
    (property var name).text.toList ++ s = var.toList ++ '.' :: (name.toList ++ s) := by
  simp only [text, String.toList_append, List.append_assoc]
  rfl

theorem toList_text_related (var : String) (step : Step) (name : String) : (related var step name).text.toList ++ s =
    "head".toList ++ '(' :: '[' :: ((step.text var "_r").toList ++
      (" | _r.".toList ++ (name.toList ++ ("])".toList ++ s)))) := by
  simp only [text, String.toList_append, List.append_assoc]
  rfl

theorem isWord_head : IsWord "head" := by decide

theorem words_related {var name : String} {step : Step} (h : ∀ word ∈ (related var step name).names, IsWord word) :
    (∀ word ∈ [var, step.label, step.target, "_r"], IsWord word) ∧ IsWord name := by
  simp only [names, List.forall_mem_cons] at h ⊢
  obtain ⟨hvar, hlabel, htarget, hname, -⟩ := h
  have hreached : IsWord "_r" := by decide
  exact ⟨⟨hvar, hlabel, htarget, hreached, List.forall_mem_nil _⟩, hname⟩

/-- A text that starts with an operand and a blank tells which operand it is. -/
theorem text_inj (hwords : ∀ name ∈ operand.names, IsWord name) (hwords' : ∀ name ∈ operand'.names, IsWord name)
    (h : operand.text.toList ++ ' ' :: s = operand'.text.toList ++ ' ' :: t) : operand = operand' ∧ s = t := by
  cases operand with
  | property var name =>
    simp only [names, List.forall_mem_cons] at hwords
    obtain ⟨hvar, hname, -⟩ := hwords
    rw [toList_text_property] at h
    cases operand' with
    | property var' name' =>
      simp only [names, List.forall_mem_cons] at hwords'
      obtain ⟨hvar', hname', -⟩ := hwords'
      rw [toList_text_property] at h
      obtain ⟨rfl, hpoint⟩ := hvar.inj hvar' rfl rfl h
      obtain ⟨rfl, htail⟩ := hname.inj hname' rfl rfl (List.cons.inj hpoint).2
      exact ⟨rfl, (List.cons.inj htail).2⟩
    | related var' step' name' =>
      rw [toList_text_related] at h
      obtain ⟨-, hpoint⟩ := hvar.inj isWord_head rfl rfl h
      cases hpoint
  | related var step name =>
    rw [toList_text_related] at h
    cases operand' with
    | property var' name' =>
      rw [toList_text_property] at h
      obtain ⟨-, hpoint⟩ := isWord_head.inj (hwords' var' List.mem_cons_self) rfl rfl h
      cases hpoint
    | related var' step' name' =>
      rw [toList_text_related] at h
      obtain ⟨hstep, hname⟩ := words_related hwords
      obtain ⟨hstep', hname'⟩ := words_related hwords'
      have hbracket := List.append_cancel_left h
      obtain ⟨rfl, rfl, -, hbar⟩ := Step.text_inj hstep hstep' (List.cons.inj (List.cons.inj hbracket).2).2
      obtain ⟨rfl, htail⟩ := hname.inj hname' rfl rfl (List.append_cancel_left hbar)
      exact ⟨rfl, (List.cons.inj (List.append_cancel_left htail)).2⟩

end Operand

/-! ## Tests -/

/-- The tests of a value that is read from a node. -/
inductive Test where
  | compare (op : CompareOp) (param : String)
  | oneOf (params : List String)
  | isNull
  | text (op : TextOp) (param : String)

/-- The kinds of tests. -/
inductive Test.Kind where
  | compare (op : CompareOp)
  | oneOf
  | isNull
  | text (op : TextOp)
deriving DecidableEq

namespace Test

/-- The condition that the value of an operand passes a test. -/
def on (operand : Operand) : Test → Condition
  | compare op param => .compare operand op param
  | oneOf params => .oneOf operand params
  | isNull => .isNull operand
  | text op param => .text operand op param

/-- The kind of a test. -/
def kind : Test → Kind
  | compare op _ => .compare op
  | oneOf _ => .oneOf
  | isNull => .isNull
  | text op _ => .text op

/-- The names of the parameters of a test. -/
def params : Test → List String
  | compare _ param | text _ param => [param]
  | oneOf params => params
  | isNull => []

/-- The word that a kind of tests is told by. -/
def Kind.word : Kind → String
  | compare op => op.symbol
  | oneOf => "IN"
  | isNull => "IS"
  | text .startsWith => "STARTS"
  | text .endsWith => "ENDS"
  | text .contains => "CONTAINS"
  | text .matching => "=~"

/-- What stands between the word and the parameters. -/
def Kind.mark : Kind → String
  | compare _ | text .contains | text .matching => "$"
  | text .startsWith | text .endsWith => "WITH $"
  | oneOf => "["
  | isNull => "NULL"

/-- The text of the parameters of a test. -/
def paramsText : Test → String
  | compare _ param | text _ param => param
  | oneOf params => String.intercalate ", " (params.map ("$" ++ ·)) ++ "]"
  | isNull => ""

/-- The kind that a word tells. -/
def Kind.ofWord? (word : String) : Option Kind :=
  [compare .eq, compare .lt, compare .lte, compare .gt, compare .gte, oneOf, isNull, text .startsWith, text .endsWith,
    text .contains, text .matching].find? fun kind => kind.word = word

theorem Kind.ofWord?_word : ∀ kind : Kind, ofWord? kind.word = some kind
  | compare op => by cases op <;> decide
  | oneOf | isNull => by decide
  | text op => by cases op <;> decide

theorem Kind.word_injective {kind kind' : Kind} (h : kind.word = kind'.word) : kind = kind' :=
  Option.some.inj ((kind.ofWord?_word.symm.trans (congrArg ofWord? h)).trans kind'.ofWord?_word)

theorem Kind.blank_not_mem (kind : Kind) : ∀ c ∈ kind.word.toList, (c != ' ') = true := by
  refine List.all_eq_true.mp ?_
  cases kind with
  | compare op => cases op <;> decide
  | oneOf => decide
  | isNull => decide
  | text op => cases op <;> decide

theorem toList_render (operand : Operand) (test : Test) (s : List Char) : (test.on operand).render.toList ++ s =
    operand.text.toList ++ ' ' :: (test.kind.word.toList ++ ' ' :: (test.kind.mark.toList ++
      (test.paramsText.toList ++ s))) := by
  cases test with
  | compare op param =>
    simp only [on, Condition.render, kind, Kind.word, Kind.mark, paramsText, String.toList_append, List.append_assoc]
    rfl
  | oneOf params =>
    simp only [on, Condition.render, kind, Kind.word, Kind.mark, paramsText, String.toList_append, List.append_assoc]
    rfl
  | isNull =>
    simp only [on, Condition.render, String.toList_append, List.append_assoc]
    rfl
  | text op param =>
    simp only [on, Condition.render, kind, paramsText, String.toList_append, List.append_assoc]
    cases op <;> simp only [Kind.word, Kind.mark, TextOp.keyword] <;> rfl

end Test

/-! ## Conditions -/

namespace Condition

/-- What the text of a condition may be followed by: a blank, the end of a group, or nothing. -/
def Ends : List Char → Prop
  | [] => True
  | c :: _ => c = ' ' ∨ c = ')'

theorem ends_nil : Ends [] := trivial

theorem ends_blank (s : List Char) : Ends (' ' :: s) := .inl rfl

theorem Ends.takeWhile {s : List Char} (h : Ends s) : s.takeWhile isWordChar = [] := by
  cases s with
  | nil => rfl
  | cons c rest => rcases h with rfl | rfl <;> rfl

end Condition

namespace Test

open Condition (Ends)

variable {s t : List Char}

/-- The parameters after the first one of a list, and the end of the list. -/
def listed (rest : List String) (s : List Char) : List Char :=
  rest.flatMap (fun name => ", $".toList ++ name.toList) ++ ']' :: s

theorem listed_cons (name : String) (rest : List String) :
    listed (name :: rest) s = ", $".toList ++ (name.toList ++ listed rest s) := by
  simp only [listed, List.flatMap_cons, List.append_assoc]

theorem takeWhile_listed : ∀ rest : List String, (listed rest s).takeWhile isWordChar = []
  | [] => rfl
  | name :: rest => by
    rw [listed_cons]
    rfl

theorem listed_inj : ∀ {rest rest' : List String}, (∀ name ∈ rest, IsWord name) → (∀ name ∈ rest', IsWord name) →
    listed rest s = listed rest' t → rest = rest' ∧ s = t
  | [], [], _, _, h => ⟨rfl, (List.cons.inj h).2⟩
  | [], _ :: _, _, _, h | _ :: _, [], _, _, h => by cases h
  | name :: rest, name' :: rest', hwords, hwords', h => by
    obtain ⟨hname, hrest⟩ := List.forall_mem_cons.mp hwords
    obtain ⟨hname', hrest'⟩ := List.forall_mem_cons.mp hwords'
    rw [listed_cons, listed_cons] at h
    obtain ⟨rfl, hbehind⟩ :=
      hname.inj hname' (takeWhile_listed rest) (takeWhile_listed rest') (List.append_cancel_left h)
    obtain ⟨rfl, htail⟩ := listed_inj hrest hrest' hbehind
    exact ⟨rfl, htail⟩

theorem toList_paramsText_oneOf (name : String) (rest : List String) :
    (oneOf (name :: rest)).paramsText.toList ++ s = '$' :: (name.toList ++ listed rest s) := by
  have hrest : (rest.map ("$" ++ ·)).flatMap (fun text => ", ".toList ++ text.toList) =
      rest.flatMap fun name => ", $".toList ++ name.toList := by
    simp only [List.flatMap_map, String.toList_append]
    rfl
  simp only [paramsText, List.map_cons, String.toList_append, toList_intercalate, hrest, listed, List.append_assoc]
  rfl

/-- A list of parameters reaches up to its bracket. -/
theorem oneOf_inj : ∀ {params params' : List String}, (∀ name ∈ params, IsWord name) →
    (∀ name ∈ params', IsWord name) →
    (oneOf params).paramsText.toList ++ s = (oneOf params').paramsText.toList ++ t → params = params' ∧ s = t
  | [], [], _, _, h => ⟨rfl, (List.cons.inj h).2⟩
  | [], name :: rest, _, _, h => by
    rw [toList_paramsText_oneOf] at h
    cases h
  | name :: rest, [], _, _, h => by
    rw [toList_paramsText_oneOf] at h
    cases h
  | name :: rest, name' :: rest', hwords, hwords', h => by
    obtain ⟨hname, hrest⟩ := List.forall_mem_cons.mp hwords
    obtain ⟨hname', hrest'⟩ := List.forall_mem_cons.mp hwords'
    rw [toList_paramsText_oneOf, toList_paramsText_oneOf] at h
    obtain ⟨rfl, hbehind⟩ := hname.inj hname' (takeWhile_listed rest) (takeWhile_listed rest') (List.cons.inj h).2
    obtain ⟨rfl, htail⟩ := listed_inj hrest hrest' hbehind
    exact ⟨rfl, htail⟩

/-- Two tests of one kind with the same parameters are the same. -/
theorem paramsText_inj {test test' : Test} (hkind : test.kind = test'.kind) (hwords : ∀ name ∈ test.params, IsWord name)
    (hwords' : ∀ name ∈ test'.params, IsWord name) (hs : Ends s) (ht : Ends t)
    (h : test.paramsText.toList ++ s = test'.paramsText.toList ++ t) : test = test' ∧ s = t := by
  cases test with
  | compare op param => cases test' with
    | compare op' param' =>
      cases hkind
      obtain ⟨rfl, htail⟩ := (hwords param List.mem_cons_self).inj (hwords' param' List.mem_cons_self) hs.takeWhile
        ht.takeWhile h
      exact ⟨rfl, htail⟩
    | _ => cases hkind
  | oneOf params => cases test' with
    | oneOf params' =>
      obtain ⟨rfl, htail⟩ := oneOf_inj hwords hwords' h
      exact ⟨rfl, htail⟩
    | _ => cases hkind
  | isNull => cases test' with
    | isNull => exact ⟨rfl, h⟩
    | _ => cases hkind
  | text op param => cases test' with
    | text op' param' =>
      cases hkind
      obtain ⟨rfl, htail⟩ := (hwords param List.mem_cons_self).inj (hwords' param' List.mem_cons_self) hs.takeWhile
        ht.takeWhile h
      exact ⟨rfl, htail⟩
    | _ => cases hkind

/-- A text that starts with a test tells which test of which operand it is. -/
theorem render_inj {operand operand' : Operand} {test test' : Test}
    (hwords : ∀ name ∈ operand.names ++ test.params, IsWord name)
    (hwords' : ∀ name ∈ operand'.names ++ test'.params, IsWord name) (hs : Ends s) (ht : Ends t)
    (h : (test.on operand).render.toList ++ s = (test'.on operand').render.toList ++ t) :
    test.on operand = test'.on operand' ∧ s = t := by
  obtain ⟨hoperand, hparams⟩ := List.forall_mem_append.mp hwords
  obtain ⟨hoperand', hparams'⟩ := List.forall_mem_append.mp hwords'
  rw [toList_render, toList_render] at h
  obtain ⟨rfl, hword⟩ := Operand.text_inj hoperand hoperand' h
  obtain ⟨hword, hmark⟩ := run_inj test.kind.blank_not_mem test'.kind.blank_not_mem rfl rfl hword
  have hkind := Kind.word_injective (String.toList_inj.mp hword)
  rw [hkind] at hmark
  obtain ⟨rfl, htail⟩ := paramsText_inj hkind hparams hparams' hs ht
    (List.append_cancel_left (List.cons.inj hmark).2)
  exact ⟨rfl, htail⟩

end Test

namespace Condition

/-- The names in a condition, apart from those in its parts. -/
def names : Condition → List String
  | compare operand _ param | text operand _ param => operand.names ++ [param]
  | oneOf operand params => operand.names ++ params
  | isNull operand => operand.names
  | related node step reached _ _ => [node, step.label, step.target, reached]
  | _ => []

/-- Whether all names in a condition are words, apart from those in its parts. -/
def Worded (c : Condition) : Prop := ∀ name ∈ c.names, IsWord name

instance (c : Condition) : Decidable c.Worded := inferInstanceAs (Decidable (∀ name ∈ c.names, IsWord name))

/-- Whether a condition, if it tests related nodes, tests whether some node satisfies one. -/
def Existential : Condition → Prop
  | related _ _ _ quantifier _ => quantifier = .any
  | _ => True

/-- Conditions whose texts can be told apart: in plain form, with several members in every connective. -/
structure Regular (c : Condition) : Prop where
  wide : c.Wide
  worded : c.Worded
  existential : c.Existential

/-! ### Regularity -/

theorem regular_neg {c : Condition} (h : c.Throughout Regular) : (neg c).Throughout Regular :=
  .intro ⟨trivial, List.forall_mem_nil _, trivial⟩ (List.forall_mem_singleton.mpr h)

theorem regular_any {node reached : String} {step : Step} {c : Condition}
    (hworded : ∀ name ∈ [node, step.label, step.target, reached], IsWord name) (h : c.Throughout Regular) :
    (related node step reached .any c).Throughout Regular :=
  .intro ⟨trivial, hworded, rfl⟩ (List.forall_mem_singleton.mpr h)

theorem regular_negated {c : Condition} (h : c.plain.Throughout Regular) : (negated c c.plain).Throughout Regular := by
  cases c with
  | always => exact .of_atom ⟨trivial, List.forall_mem_nil _, trivial⟩ rfl
  | never => exact .of_atom ⟨trivial, List.forall_mem_nil _, trivial⟩ rfl
  | neg inner => exact h.parts inner.plain List.mem_cons_self
  | _ => exact regular_neg h

theorem regular_plainAll {members : List Condition} (hwide : 2 ≤ members.length)
    (h : ∀ part ∈ members, part.plain.Throughout Regular) :
    2 ≤ (plainAll members).length ∧ ∀ part ∈ plainAll members, part.Throughout Regular := by
  rw [plainAll_eq_map, List.length_map]
  exact ⟨hwide, List.forall_mem_map.mpr h⟩

/-- The plain form of a condition whose names are words and whose connectives have several members. -/
theorem regular_plain {c : Condition} (h : c.Throughout fun c => c.Wide ∧ c.Worded) : c.plain.Throughout Regular := by
  induction h with
  | @intro c hc _ ih => cases c with
    | conj members =>
      obtain ⟨hwide, hmembers⟩ := regular_plainAll hc.1 ih
      exact .intro ⟨hwide, List.forall_mem_nil _, trivial⟩ hmembers
    | disj members =>
      obtain ⟨hwide, hmembers⟩ := regular_plainAll hc.1 ih
      exact .intro ⟨hwide, List.forall_mem_nil _, trivial⟩ hmembers
    | neg condition => exact regular_neg (ih condition List.mem_cons_self)
    | related node step reached quantifier condition =>
      have hplain := ih condition List.mem_cons_self
      cases quantifier with
      | any => exact regular_any hc.2 hplain
      | none => exact regular_neg (regular_any hc.2 hplain)
      | all => exact regular_neg (regular_any hc.2 (regular_negated hplain))
    | _ => exact .of_atom ⟨hc.1, hc.2, trivial⟩ rfl

/-! ### The first word -/

/-- What the start of a text says of its condition. -/
inductive Opening where
  | always
  | never
  | group
  | negation
  | existence
  | test
deriving DecidableEq

/-- What the text of a condition starts as. -/
def opening : Condition → Opening
  | always => .always
  | never => .never
  | conj _ | disj _ => .group
  | neg _ => .negation
  | related _ _ _ _ _ => .existence
  | compare _ _ _ | oneOf _ _ | isNull _ | text _ _ _ => .test

/-- What a text starts as, by its first word and the character behind it. -/
def Opening.ofText (text : List Char) : Opening :=
  match text.takeWhile isWordChar, text.dropWhile isWordChar with
  | [], _ => .group
  | _, '.' :: _ | _, '(' :: _ => .test
  | word, _ =>
    if word = "true".toList then .always
    else if word = "false".toList then .never
    else if word = "NOT".toList then .negation
    else .existence

theorem exists_test {c : Condition} (h : c.opening = .test) :
    ∃ (operand : Operand) (test : Test), c = test.on operand ∧ c.names = operand.names ++ test.params := by
  cases c with
  | compare operand op param => exact ⟨operand, .compare op param, rfl, rfl⟩
  | oneOf operand params => exact ⟨operand, .oneOf params, rfl, rfl⟩
  | isNull operand => exact ⟨operand, .isNull, rfl, (List.append_nil _).symm⟩
  | text operand op param => exact ⟨operand, .text op param, rfl, rfl⟩
  | _ => cases h

section Texts

variable {s t : List Char}

theorem Opening.ofText_operand {operand : Operand} (h : ∀ name ∈ operand.names, IsWord name) :
    ofText (operand.text.toList ++ s) = .test := by
  cases operand with
  | property var name =>
    obtain ⟨hne, hword⟩ := h var List.mem_cons_self
    have htake : (var.toList ++ '.' :: (name.toList ++ s)).takeWhile isWordChar = var.toList := by
      rw [List.takeWhile_append_of_pos hword]
      exact List.append_nil _
    have hdrop : (var.toList ++ '.' :: (name.toList ++ s)).dropWhile isWordChar = '.' :: (name.toList ++ s) := by
      rw [List.dropWhile_append_of_pos hword]
      rfl
    obtain ⟨c, rest, hvar⟩ := List.exists_cons_of_ne_nil (mt String.toList_eq_nil_iff.mp hne)
    rw [Operand.toList_text_property, ofText, htake, hdrop, hvar]
    rfl
  | related var step name =>
    rw [Operand.toList_text_related]
    rfl

theorem Opening.ofText_test {c : Condition} (h : c.Worded) (htest : c.opening = .test) :
    ofText (c.render.toList ++ s) = .test := by
  obtain ⟨operand, test, rfl, hnames⟩ := exists_test htest
  rw [Test.toList_render]
  refine ofText_operand fun name hname => h name ?_
  rw [hnames]
  exact List.mem_append_left _ hname

/-! ### Texts in full -/

/-- The members of a group after the first one, each behind a blank and the word of the group, and its end. -/
def behind (word : String) (rest : List Condition) (s : List Char) : List Char :=
  rest.flatMap (fun c => ' ' :: (word.toList ++ ' ' :: c.render.toList)) ++ ')' :: s

theorem behind_cons (word : String) (c : Condition) (rest : List Condition) :
    behind word (c :: rest) s = ' ' :: (word.toList ++ ' ' :: (c.render.toList ++ behind word rest s)) := by
  simp only [behind, List.flatMap_cons, List.cons_append, List.append_assoc]

theorem ends_behind (word : String) (rest : List Condition) : Ends (behind word rest s) := by
  cases rest with
  | nil => exact .inr rfl
  | cons c rest => exact .inl rfl

/-- The text of the members of a group, before a text. -/
def group (word : String) : List Condition → List Char → List Char
  | [], s => '(' :: ')' :: s
  | c :: rest, s => '(' :: (c.render.toList ++ behind word rest s)

theorem toList_group (word : String) (members : List Condition) :
    ("(" ++ String.intercalate (" " ++ word ++ " ") (renderAll members) ++ ")").toList ++ s =
      group word members s := by
  cases members with
  | nil =>
    rw [renderAll, String.toList_append, String.toList_append]
    rfl
  | cons c rest =>
    have hrest : (rest.map render).flatMap (fun text => (" " ++ word ++ " ").toList ++ text.toList) =
        rest.flatMap fun c => ' ' :: (word.toList ++ ' ' :: c.render.toList) := by
      simp only [List.flatMap_map, String.toList_append, List.append_assoc]
      rfl
    simp only [renderAll_eq_map, List.map_cons, String.toList_append, toList_intercalate, group, behind,
      List.append_assoc] at hrest ⊢
    rw [hrest]
    rfl

theorem toList_conj (members : List Condition) : (conj members).render.toList ++ s = group "AND" members s := by
  rw [render]
  exact toList_group "AND" members

theorem toList_disj (members : List Condition) : (disj members).render.toList ++ s = group "OR" members s := by
  rw [render]
  exact toList_group "OR" members

theorem toList_neg (c : Condition) : (neg c).render.toList ++ s = "NOT".toList ++ ' ' :: (c.render.toList ++ s) := by
  rw [render, String.toList_append, List.append_assoc]
  rfl

/-- The condition in the text of a test of related nodes, and the end of the test. -/
def satisfying (c : Condition) (s : List Char) : List Char :=
  if c.isAlways then ' ' :: '\x7d' :: s else " WHERE ".toList ++ (c.render.toList ++ ' ' :: '\x7d' :: s)

theorem toList_any (node : String) (step : Step) (reached : String) (c : Condition) :
    (related node step reached .any c).render.toList ++ s =
      "EXISTS \x7b MATCH ".toList ++ ((step.text node reached).toList ++ satisfying c s) := by
  simp only [render, existsText, satisfying, ↓reduceIte]
  split
  · simp only [String.toList_append, List.append_assoc]
    rfl
  · simp only [String.toList_append, List.append_assoc]
    rfl

theorem Opening.ofText_always (hs : Ends s) : ofText ("true".toList ++ s) = .always := by
  rcases s with _ | ⟨c, rest⟩
  · rfl
  · rcases hs with rfl | rfl <;> rfl

theorem Opening.ofText_never (hs : Ends s) : ofText ("false".toList ++ s) = .never := by
  rcases s with _ | ⟨c, rest⟩
  · rfl
  · rcases hs with rfl | rfl <;> rfl

theorem opening_ofText {c : Condition} (h : c.Regular) (hs : Ends s) :
    Opening.ofText (c.render.toList ++ s) = c.opening := by
  cases c with
  | always =>
    rw [render]
    exact Opening.ofText_always hs
  | never =>
    rw [render]
    exact Opening.ofText_never hs
  | conj members =>
    rw [toList_conj]
    cases members <;> rfl
  | disj members =>
    rw [toList_disj]
    cases members <;> rfl
  | neg c =>
    rw [toList_neg]
    rfl
  | related node step reached quantifier c =>
    have hany : quantifier = .any := h.existential
    rw [hany, toList_any]
    rfl
  | _ => exact Opening.ofText_test h.worded rfl

end Texts

/-! ## Reading a condition back -/

/-- Whether a condition is the only regular one whose text stands at the front of a text behind which it may end. -/
def Splits (c : Condition) : Prop := ∀ {d : Condition} {s t : List Char}, d.Throughout Regular → Ends s → Ends t →
  c.render.toList ++ s = d.render.toList ++ t → c = d ∧ s = t

section Splitting

variable {s t : List Char}

theorem behind_inj {word : String} : ∀ {rest others : List Condition}, (∀ c ∈ rest, c.Splits) →
    (∀ d ∈ others, d.Throughout Regular) → behind word rest s = behind word others t → rest = others ∧ s = t
  | [], [], _, _, h => ⟨rfl, (List.cons.inj h).2⟩
  | [], _ :: _, _, _, h | _ :: _, [], _, _, h => by cases h
  | c :: rest, d :: others, hmembers, hothers, h => by
    obtain ⟨hc, hrest⟩ := List.forall_mem_cons.mp hmembers
    obtain ⟨hd, hlater⟩ := List.forall_mem_cons.mp hothers
    rw [behind_cons, behind_cons] at h
    have hblank := List.append_cancel_left (List.cons.inj h).2
    obtain ⟨rfl, hmore⟩ := hc hd (ends_behind word rest) (ends_behind word others) (List.cons.inj hblank).2
    obtain ⟨rfl, htail⟩ := behind_inj hrest hlater hmore
    exact ⟨rfl, htail⟩

/-- The second member of a group comes behind its word, so groups of one text have the same word. -/
theorem group_inj {word word' : String} (hword : IsWord word) (hword' : IsWord word') :
    ∀ {members others : List Condition}, 2 ≤ members.length → 2 ≤ others.length → (∀ c ∈ members, c.Splits) →
      (∀ d ∈ others, d.Throughout Regular) →
      group word members s = group word' others t → word = word' ∧ members = others ∧ s = t
  | c :: second :: rest, d :: second' :: others, _, _, hmembers, hothers, h => by
    obtain ⟨hc, hrest⟩ := List.forall_mem_cons.mp hmembers
    obtain ⟨hd, hlater⟩ := List.forall_mem_cons.mp hothers
    obtain ⟨rfl, hbehind⟩ := hc hd (ends_behind word _) (ends_behind word' _) (List.cons.inj h).2
    have hwords := hbehind
    rw [behind_cons, behind_cons] at hwords
    obtain ⟨rfl, -⟩ := hword.inj hword' rfl rfl (List.cons.inj hwords).2
    obtain ⟨hmore, htail⟩ := behind_inj hrest hlater hbehind
    exact ⟨rfl, congrArg (c :: ·) hmore, htail⟩

theorem satisfying_inj {c d : Condition} (hc : c.Splits) (hd : d.Throughout Regular)
    (h : satisfying c s = satisfying d t) : c = d ∧ s = t := by
  have heq_always : ∀ {x : Condition}, x.isAlways = true → x = always := by
    intro x hx
    cases x with
    | always => rfl
    | _ => cases hx
  unfold satisfying at h
  split at h <;> split at h
  · rename_i hcAlways hdAlways
    rw [heq_always hcAlways, heq_always hdAlways]
    exact ⟨rfl, (List.cons.inj (List.cons.inj h).2).2⟩
  · cases h
  · cases h
  · obtain ⟨rfl, htail⟩ := hc hd (ends_blank _) (ends_blank _) (List.append_cancel_left h)
    exact ⟨rfl, (List.cons.inj (List.cons.inj htail).2).2⟩

/-- The texts of regular conditions tell them apart. -/
theorem splits_of_regular {c : Condition} (h : c.Throughout Regular) : c.Splits := by
  have hAnd : IsWord "AND" := by decide
  have hOr : IsWord "OR" := by decide
  induction h with
  | @intro c hc _ ih =>
    intro d s t hd hs ht heq
    have hopening : c.opening = d.opening := by
      rw [← opening_ofText hc hs, heq, opening_ofText hd.here ht]
    by_cases htest : c.opening = .test
    · obtain ⟨operand, test, rfl, hnames⟩ := exists_test htest
      obtain ⟨operand', test', rfl, hnames'⟩ := exists_test (hopening.symm.trans htest)
      exact Test.render_inj (hnames ▸ hc.worded) (hnames' ▸ hd.here.worded) hs ht heq
    cases c with
    | always => cases d with
      | always => exact ⟨rfl, List.append_cancel_left heq⟩
      | _ => cases hopening
    | never => cases d with
      | never => exact ⟨rfl, List.append_cancel_left heq⟩
      | _ => cases hopening
    | conj members => cases d with
      | conj others =>
        rw [toList_conj, toList_conj] at heq
        obtain ⟨-, rfl, htail⟩ := group_inj hAnd hAnd hc.wide hd.here.wide ih hd.parts heq
        exact ⟨rfl, htail⟩
      | disj others =>
        rw [toList_conj, toList_disj] at heq
        exact absurd (group_inj hAnd hOr hc.wide hd.here.wide ih hd.parts heq).1 (by decide)
      | _ => cases hopening
    | disj members => cases d with
      | conj others =>
        rw [toList_disj, toList_conj] at heq
        exact absurd (group_inj hOr hAnd hc.wide hd.here.wide ih hd.parts heq).1 (by decide)
      | disj others =>
        rw [toList_disj, toList_disj] at heq
        obtain ⟨-, rfl, htail⟩ := group_inj hOr hOr hc.wide hd.here.wide ih hd.parts heq
        exact ⟨rfl, htail⟩
      | _ => cases hopening
    | neg condition => cases d with
      | neg other =>
        rw [toList_neg, toList_neg] at heq
        have hcondition := (List.cons.inj (List.append_cancel_left heq)).2
        obtain ⟨rfl, htail⟩ := ih condition List.mem_cons_self (hd.parts other List.mem_cons_self) hs ht hcondition
        exact ⟨rfl, htail⟩
      | _ => cases hopening
    | related node step reached quantifier condition => cases d with
      | related node' step' reached' quantifier' other =>
        have hany : quantifier = .any := hc.existential
        have hany' : quantifier' = .any := hd.here.existential
        subst hany hany'
        rw [toList_any, toList_any] at heq
        obtain ⟨rfl, rfl, rfl, hsatisfying⟩ := Step.text_inj hc.worded hd.here.worded (List.append_cancel_left heq)
        obtain ⟨rfl, htail⟩ := satisfying_inj (ih condition List.mem_cons_self) (hd.parts other List.mem_cons_self)
          hsatisfying
        exact ⟨rfl, htail⟩
      | _ => cases hopening
    | _ => exact absurd rfl htest

end Splitting

/-! ## What a text says -/

/-- No connective in built conditions has fewer than two members, and those whose names are words and whose texts are
the same are true alike, in every graph, with all arguments and wherever their variables are bound. -/
theorem truth_eq_of_render [PropertyTable] {c d : Condition} (hc : c.Built) (hd : d.Built)
    (hwords : c.Throughout Worded) (hwords' : d.Throughout Worded) : (c.Throughout Wide ∧ d.Throughout Wide) ∧
      (c.render = d.render → ∀ (e : Evaluation) (scope : Scope), e.truth c scope = e.truth d scope) := by
  refine ⟨⟨hc.wide, hd.wide⟩, fun hrender e scope => ?_⟩
  have hregular := regular_plain (hc.wide.and hwords)
  have hregular' := regular_plain (hd.wide.and hwords')
  have htext : c.plain.render.toList ++ [] = d.plain.render.toList ++ [] := by
    rw [render_plain, render_plain, hrender]
  have hplain : c.plain = d.plain := (splits_of_regular hregular hregular' ends_nil ends_nil htext).1
  rw [← Evaluation.truth_plain c, hplain, Evaluation.truth_plain d]

/-- The step from a person to a pet. -/
def ownsPet : Step := ⟨"OWNS", .outgoing, "Pet"⟩

/-- That a pet has more lives than some number. -/
def livesOn : Condition := compare (.property "n1" "lives") .gt "p0"

/-- Two ways to say that no pet has more lives than some number are written alike. -/
theorem truth_eq_of_render_none :
    let c := Condition.and [always, related "n0" ownsPet "n1" .none livesOn]
    let d := Condition.not (related "n0" ownsPet "n1" .any (Condition.or [never, livesOn]))
    c.render = d.render ∧ (c.Throughout Wide ∧ d.Throughout Wide) ∧
      ∀ (e : Evaluation) (scope : Scope), e.truth c scope = e.truth d scope := by
  intro c d
  have hlives : livesOn.Built := .compare _ _ _
  have hc : c.Built := .and_pair .always (.related _ _ _ _ hlives)
  have hd : d.Built := .not (.related _ _ _ _ (.or_pair .never hlives))
  have hwords : ∀ quantifier, (related "n0" ownsPet "n1" quantifier livesOn).Throughout Worded := by
    intro quantifier
    have hlives : livesOn.Throughout Worded := .of_atom (by decide) rfl
    have hown : ∀ name ∈ ["n0", "OWNS", "Pet", "n1"], IsWord name := by decide
    exact .intro hown (List.forall_mem_singleton.mpr hlives)
  have hwords' : d.Throughout Worded := .intro (by decide) (List.forall_mem_singleton.mpr (hwords .any))
  have hrender : c.render = d.render := by
    show (related "n0" ownsPet "n1" .none livesOn).render = (neg (related "n0" ownsPet "n1" .any livesOn)).render
    simp [render, existsText_of_ne_any]
  obtain ⟨hwide, htruth⟩ := truth_eq_of_render hc hd (hwords .none) hwords'
  exact ⟨hrender, hwide, htruth hrender⟩

end Condition

end GraphQuery
