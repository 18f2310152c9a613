import GraphQuery.Proofs.Json.RoundTrip

/-!
# The text of a tree says which tree it is

Two trees of one text are equal (`Json.eq_of_text`), whatever strings stand in them, when the floating-point numbers in
them are finite and told apart by their numerals (`Json.TellsApart`). The first character says what kind of tree it is
(`Json.Over.chars_opening`). A numeral reaches up to the first character that stands in none, and has a point or an
exponent exactly when it is not that of an integer. So a text that goes on with a comma, with the end of an array or of
an object, or not at all, is split into a tree and what follows it in one way only (`Json.Over.splits`).
-/

namespace GraphQuery

/-! ## Numerals -/

namespace FloatLayout

/-- Whether a character stands in numerals: a digit, a sign, the point or the mark of an exponent. -/
def isNumeric (c : Char) : Bool := c.isDigit || c ∈ ['-', '+', '.', 'e']

theorem isNumeric_of_isDigit {c : Char} (h : c.isDigit = true) : isNumeric c = true := by
  rw [isNumeric, h, Bool.true_or]

theorem isNumeric_of_mem_digits {n : Nat} {c : Char} (h : c ∈ digits n) : isNumeric c = true :=
  isNumeric_of_isDigit (Numeral.isDigit_of_mem_digits h)

theorem isNumeric_of_mem_exponentText {layout : FloatLayout} {e : Int} {c : Char} (h : c ∈ layout.exponentText e) :
    isNumeric c = true := by
  unfold exponentText at h
  split at h
  · rcases List.mem_cons.mp h with rfl | h
    · rfl
    · exact isNumeric_of_mem_digits h
  · split at h
    · rcases List.mem_cons.mp h with rfl | h
      · rfl
      · exact isNumeric_of_mem_digits h
    · exact isNumeric_of_mem_digits h

/-- A numeral with a point or an exponent. -/
structure Marked (numeral : List Char) : Prop where
  numeric : ∀ c ∈ numeral, isNumeric c = true
  marked : ∃ c ∈ numeral, c = '.' ∨ c = 'e'

/-- A mark between characters of numerals makes a marked numeral. -/
theorem Marked.between {front back : List Char} {mark : Char} (hfront : ∀ c ∈ front, isNumeric c = true)
    (hmark : mark = '.' ∨ mark = 'e') (hback : ∀ c ∈ back, isNumeric c = true) : Marked (front ++ mark :: back) where
  numeric c hc := by
    rcases List.mem_append.mp hc with hc | hc
    · exact hfront c hc
    · rcases List.mem_cons.mp hc with rfl | hc
      · rcases hmark with rfl | rfl <;> rfl
      · exact hback c hc
  marked := ⟨mark, List.mem_append_right _ List.mem_cons_self, hmark⟩

theorem Marked.cons {c : Char} {numeral : List Char} (hc : isNumeric c = true) (h : Marked numeral) :
    Marked (c :: numeral) where
  numeric := List.forall_mem_cons.mpr ⟨hc, h.numeric⟩
  marked := by
    obtain ⟨mark, hmem, hmark⟩ := h.marked
    exact ⟨mark, List.mem_cons_of_mem c hmem, hmark⟩

/-- A point after the first of several digits leaves a numeral. -/
theorem isNumeric_of_mem_mantissa {ds : List Char} (hdigits : ∀ c ∈ ds, isNumeric c = true) {c : Char}
    (h : c ∈ (match ds with | d₀ :: d₁ :: rest => d₀ :: '.' :: d₁ :: rest | short => short)) : isNumeric c = true := by
  split at h
  · rename_i d₀ d₁ rest
    rcases List.mem_cons.mp h with rfl | h
    · exact hdigits _ List.mem_cons_self
    · rcases List.mem_cons.mp h with rfl | h
      · rfl
      · exact hdigits c (List.mem_cons_of_mem d₀ h)
  · exact hdigits c h

theorem marked_decimalText (layout : FloatLayout) (d : Nat) (k : Int) : Marked (layout.decimalText d k) := by
  have hdigits : ∀ c ∈ digits d, isNumeric c = true := fun c => isNumeric_of_mem_digits
  have hzeros : ∀ n, ∀ c ∈ List.replicate n '0', isNumeric c = true := by
    intro n c hc
    rw [List.eq_of_mem_replicate hc]
    rfl
  unfold decimalText
  simp only
  split
  · split
    · refine .between (fun c hc => ?_) (.inl rfl) (List.forall_mem_singleton.mpr rfl)
      rcases List.mem_append.mp hc with hc | hc
      · exact hdigits c hc
      · exact hzeros _ c hc
    · split
      · exact .between (fun c hc => hdigits c (List.mem_of_mem_take hc)) (.inl rfl)
          fun c hc => hdigits c (List.mem_of_mem_drop hc)
      · have hback : ∀ n, ∀ c ∈ List.replicate n '0' ++ digits d, isNumeric c = true := by
          intro n c hc
          rcases List.mem_append.mp hc with hc | hc
          · exact hzeros n c hc
          · exact hdigits c hc
        have hzero : ∀ c ∈ ['0'], isNumeric c = true := List.forall_mem_singleton.mpr rfl
        exact .between hzero (.inl rfl) (hback _)
  · exact .between (fun c => isNumeric_of_mem_mantissa hdigits) (.inr rfl) fun c => isNumeric_of_mem_exponentText

/-- The numeral of a number has a point or an exponent. -/
theorem marked_text (layout : FloatLayout) (x : Binary64) : Marked (layout.text x) := by
  have hbody : Marked (if x.isZero then ['0', '.', '0']
      else layout.decimalText (x.shortest layout.tie).1 (x.shortest layout.tie).2) := by
    split
    · have hzero : ∀ c ∈ ['0'], isNumeric c = true := List.forall_mem_singleton.mpr rfl
      exact .between hzero (.inl rfl) hzero
    · exact marked_decimalText layout _ _
  unfold text
  simp only
  split
  · exact hbody.cons rfl
  · exact hbody

end FloatLayout

namespace Json

open FloatLayout

variable {s t : List Char}

/-- The numerals of integers have no mark. -/
theorem mem_intText {n : Int} {c : Char} (h : c ∈ intText n) : c = '-' ∨ c.isDigit = true := by
  unfold intText at h
  split at h
  · exact (List.mem_cons.mp h).imp id Numeral.isDigit_of_mem_digits
  · exact .inr (Numeral.isDigit_of_mem_digits h)

theorem isNumeric_of_mem_intText {n : Int} {c : Char} (h : c ∈ intText n) : isNumeric c = true := by
  rcases mem_intText h with rfl | h
  · rfl
  · exact isNumeric_of_isDigit h

theorem intText_ne_nil (n : Int) : intText n ≠ [] := by
  unfold intText
  split
  · exact List.cons_ne_nil _ _
  · exact Nat.toDigits_ne_nil

theorem digits_injective {m n : Nat} (h : digits m = digits n) : m = n := by
  have hvalue := congrArg (Nat.ofDigitChars 10 · 0) h
  simpa only [digits, Nat.ofDigitChars_ten_toDigits] using hvalue

theorem intText_injective {m n : Int} (h : intText m = intText n) : m = n := by
  -- a sign is no digit, so both have one or neither
  have hsign : ∀ k : Nat, ∀ rest, digits k ≠ '-' :: rest := by
    intro k rest hk
    have hdigit : '-'.isDigit = true := Numeral.isDigit_of_mem_digits (hk ▸ List.mem_cons_self)
    cases hdigit
  unfold intText at h
  split at h <;> split at h
  · have habs := digits_injective (List.cons.inj h).2
    omega
  · exact absurd h.symm (hsign _ _)
  · exact absurd h (hsign _ _)
  · have habs := digits_injective h
    omega

theorem marked_floatText {x : Binary64} (h : x.isFinite = true) : Marked (floatText x) := by
  rw [floatText, if_pos h]
  exact marked_text json x

theorem intText_ne_floatText (n : Int) {x : Binary64} (h : x.isFinite = true) : intText n ≠ floatText x := by
  intro heq
  obtain ⟨c, hc, hmark⟩ := (marked_floatText h).marked
  rw [← heq] at hc
  rcases mem_intText hc with rfl | hdigit
  · rcases hmark with hmark | hmark <;> cases hmark
  · rcases hmark with rfl | rfl <;> cases hdigit

/-- A numeral reaches up to the first character that stands in none. -/
theorem takeWhile_numeral {numeral : List Char} (h : ∀ c ∈ numeral, isNumeric c = true) (hs : Ends s) :
    (numeral ++ s).takeWhile isNumeric = numeral := by
  have hnone : s.takeWhile isNumeric = [] := by
    cases s with
    | nil => rfl
    | cons c rest => rcases hs with rfl | rfl | rfl <;> rfl
  rw [List.takeWhile_append_of_pos h, hnone, List.append_nil]

theorem numeral_inj {first second : List Char} (hfirst : ∀ c ∈ first, isNumeric c = true)
    (hsecond : ∀ c ∈ second, isNumeric c = true) (hs : Ends s) (ht : Ends t) (h : first ++ s = second ++ t) :
    first = second ∧ s = t := by
  have heq : first = second := by
    rw [← takeWhile_numeral hfirst hs, h, takeWhile_numeral hsecond ht]
  subst heq
  exact ⟨rfl, List.append_cancel_left h⟩

/-- A string reaches up to its closing quote. -/
theorem stringText_inj {first second : String} (h : stringText first ++ s = stringText second ++ t) :
    first = second ∧ s = t := by
  have hread := congrArg quoted? h
  rw [quoted?_stringText, quoted?_stringText] at hread
  exact Prod.mk.inj (Option.some.inj hread)

/-! ## The first character -/

/-- What the first character of a text says of its tree. -/
inductive Opening where
  | null
  | bool (b : Bool)
  | number
  | string
  | array
  | object
deriving DecidableEq

/-- What the text of a tree starts as. -/
def opening : Json → Opening
  | null => .null
  | bool b => .bool b
  | int _ | float _ => .number
  | string _ => .string
  | array _ => .array
  | object _ => .object

/-- What a character starts. -/
def Opening.ofChar? (c : Char) : Option Opening :=
  if isNumeric c then some .number
  else if c = 'n' then some .null
  else if c = 't' then some (.bool true)
  else if c = 'f' then some (.bool false)
  else if c = '"' then some .string
  else if c = '[' then some .array
  else if c = '\x7b' then some .object
  else none

theorem opening_eq_number {json : Json} (h : json.opening = .number) : (∃ n, json = int n) ∨ ∃ x, json = float x := by
  cases json with
  | int n => exact .inl ⟨n, rfl⟩
  | float x => exact .inr ⟨x, rfl⟩
  | _ => cases h

theorem opening_eq_array {json : Json} (h : json.opening = .array) : ∃ items, json = array items := by
  cases json with
  | array items => exact ⟨items, rfl⟩
  | _ => cases h

theorem opening_eq_object {json : Json} (h : json.opening = .object) : ∃ fields, json = object fields := by
  cases json with
  | object fields => exact ⟨fields, rfl⟩
  | _ => cases h

/-- The trees whose floating-point numbers have a property. -/
inductive Over (P : Binary64 → Prop) : Json → Prop
  | null : Over P null
  | bool (b : Bool) : Over P (bool b)
  | int (n : Int) : Over P (int n)
  | float {x : Binary64} : P x → Over P (float x)
  | string (s : String) : Over P (string s)
  | array {items : List Json} : (∀ item ∈ items, Over P item) → Over P (array items)
  | object {fields : List (String × Json)} : (∀ field ∈ fields, Over P field.2) → Over P (object fields)

/-- Whether the numbers with a property are finite, and no two of them have one numeral. -/
structure TellsApart (P : Binary64 → Prop) : Prop where
  finite : ∀ x, P x → x.isFinite = true
  injective : ∀ x y, P x → P y → floatText x = floatText y → x = y

section Reading

variable {P : Binary64 → Prop} (hP : TellsApart P)

include hP

/-- The first character of a text says of which kind its tree is. -/
theorem Over.chars_opening {json : Json} (h : json.Over P) :
    ∃ c rest, json.chars = c :: rest ∧ Opening.ofChar? c = some json.opening := by
  have hnumeral : ∀ {numeral : List Char}, numeral ≠ [] → (∀ c ∈ numeral, isNumeric c = true) →
      ∃ c rest, numeral = c :: rest ∧ Opening.ofChar? c = some .number := by
    intro numeral hne hnumeric
    obtain ⟨c, rest, rfl⟩ := List.exists_cons_of_ne_nil hne
    exact ⟨c, rest, rfl, if_pos (hnumeric c List.mem_cons_self)⟩
  cases h with
  | null => exact ⟨'n', _, rfl, rfl⟩
  | bool b => cases b with
    | true => exact ⟨'t', _, rfl, rfl⟩
    | false => exact ⟨'f', _, rfl, rfl⟩
  | int n => exact hnumeral (intText_ne_nil n) fun c => isNumeric_of_mem_intText
  | @float x hx =>
    have hmarked := marked_floatText (hP.finite x hx)
    obtain ⟨c, hc, _⟩ := hmarked.marked
    exact hnumeral (List.ne_nil_of_mem hc) hmarked.numeric
  | string s => exact ⟨'"', _, rfl, rfl⟩
  | @array items _ => cases items with
    | nil => exact ⟨'[', _, rfl, rfl⟩
    | cons item rest => exact ⟨'[', _, rfl, rfl⟩
  | @object fields _ => cases fields with
    | nil => exact ⟨'\x7b', _, rfl, rfl⟩
    | cons field rest => exact ⟨'\x7b', _, rfl, rfl⟩

/-- Texts that start alike are those of trees of one kind. -/
theorem Over.opening_eq {first second : Json} (hfirst : first.Over P) (hsecond : second.Over P)
    (h : first.chars ++ s = second.chars ++ t) : second.opening = first.opening := by
  obtain ⟨c, rest, hchars, hc⟩ := hfirst.chars_opening hP
  obtain ⟨d, rest', hchars', hd⟩ := hsecond.chars_opening hP
  rw [hchars, hchars'] at h
  obtain ⟨rfl, _⟩ := List.cons.inj h
  exact Option.some.inj (hd.symm.trans hc)

/-- No text of a tree starts with the end of an array. -/
theorem Over.chars_ne_end {json : Json} (h : json.Over P) : ']' :: s ≠ json.chars ++ t := by
  obtain ⟨c, rest, hchars, hc⟩ := h.chars_opening hP
  rw [hchars]
  intro heq
  obtain ⟨rfl, _⟩ := List.cons.inj heq
  cases hc

end Reading

/-! ## Trees -/

/-- Whether a tree is the only one, of those whose numbers have a property, whose text stands at the front of a text
behind which a tree may end. -/
def Splits (P : Binary64 → Prop) (json : Json) : Prop := ∀ {other : Json} {s t : List Char}, other.Over P → Ends s →
  Ends t → json.chars ++ s = other.chars ++ t → json = other ∧ s = t

section Splitting

variable {P : Binary64 → Prop}

theorem itemsChars_inj : ∀ {items others : List Json}, (∀ item ∈ items, item.Splits P) →
    (∀ other ∈ others, other.Over P) → itemsChars items ++ s = itemsChars others ++ t → items = others ∧ s = t
  | [], [], _, _, h => ⟨rfl, (List.cons.inj h).2⟩
  | [], _ :: _, _, _, h | _ :: _, [], _, _, h => by cases h
  | item :: rest, other :: others, hitems, hothers, h => by
    obtain ⟨hitem, hrest⟩ := List.forall_mem_cons.mp hitems
    obtain ⟨hother, hmore⟩ := List.forall_mem_cons.mp hothers
    rw [itemsChars, itemsChars, List.cons_append, List.cons_append, List.append_assoc, List.append_assoc] at h
    obtain ⟨rfl, hbehind⟩ := hitem hother (ends_itemsChars s rest) (ends_itemsChars t others) (List.cons.inj h).2
    obtain ⟨rfl, htail⟩ := itemsChars_inj hrest hmore hbehind
    exact ⟨rfl, htail⟩

theorem field_inj {name other : String} {value value' : Json} (hvalue : value.Splits P) (hvalue' : value'.Over P)
    (hs : Ends s) (ht : Ends t)
    (h : stringText name ++ ':' :: (value.chars ++ s) = stringText other ++ ':' :: (value'.chars ++ t)) :
    (name, value) = (other, value') ∧ s = t := by
  obtain ⟨rfl, hbehind⟩ := stringText_inj h
  obtain ⟨rfl, htail⟩ := hvalue hvalue' hs ht (List.cons.inj hbehind).2
  exact ⟨rfl, htail⟩

theorem fieldsChars_inj : ∀ {fields others : List (String × Json)}, (∀ field ∈ fields, field.2.Splits P) →
    (∀ other ∈ others, other.2.Over P) → fieldsChars fields ++ s = fieldsChars others ++ t → fields = others ∧ s = t
  | [], [], _, _, h => ⟨rfl, (List.cons.inj h).2⟩
  | [], (_, _) :: _, _, _, h | (_, _) :: _, [], _, _, h => by cases h
  | (name, value) :: rest, (other, value') :: others, hfields, hothers, h => by
    obtain ⟨hvalue, hrest⟩ := List.forall_mem_cons.mp hfields
    obtain ⟨hvalue', hothers⟩ := List.forall_mem_cons.mp hothers
    simp only [fieldsChars, List.cons_append, List.append_assoc] at h
    obtain ⟨hfield, hbehind⟩ :=
      field_inj hvalue hvalue' (ends_fieldsChars s rest) (ends_fieldsChars t others) (List.cons.inj h).2
    obtain ⟨rfl, htail⟩ := fieldsChars_inj hrest hothers hbehind
    exact ⟨congrArg (· :: rest) hfield, htail⟩

section Kinds

variable (hP : TellsApart P)

include hP

theorem splits_int (n : Int) : (int n).Splits P := by
  intro other s t hother hs ht heq
  have hnumeric : ∀ c ∈ intText n, isNumeric c = true := fun c => isNumeric_of_mem_intText
  rcases opening_eq_number (Over.opening_eq hP (.int n) hother heq) with ⟨m, rfl⟩ | ⟨x, rfl⟩
  · obtain ⟨htext, htail⟩ := numeral_inj hnumeric (fun c => isNumeric_of_mem_intText) hs ht heq
    exact ⟨congrArg Json.int (intText_injective htext), htail⟩
  · cases hother with
    | float hx =>
      have hfinite := hP.finite x hx
      obtain ⟨htext, _⟩ := numeral_inj hnumeric (marked_floatText hfinite).numeric hs ht heq
      exact absurd htext (intText_ne_floatText n hfinite)

theorem splits_float {x : Binary64} (hx : P x) : (float x).Splits P := by
  intro other s t hother hs ht heq
  have hfinite := hP.finite x hx
  have hnumeric := (marked_floatText hfinite).numeric
  rcases opening_eq_number (Over.opening_eq hP (.float hx) hother heq) with ⟨m, rfl⟩ | ⟨y, rfl⟩
  · obtain ⟨htext, _⟩ := numeral_inj hnumeric (fun c => isNumeric_of_mem_intText) hs ht heq
    exact absurd htext.symm (intText_ne_floatText m hfinite)
  · cases hother with
    | float hy =>
      obtain ⟨htext, htail⟩ := numeral_inj hnumeric (marked_floatText (hP.finite y hy)).numeric hs ht heq
      exact ⟨congrArg Json.float (hP.injective x y hx hy htext), htail⟩

theorem splits_array {items : List Json} (hitems : ∀ item ∈ items, item.Over P)
    (hsplits : ∀ item ∈ items, item.Splits P) : (array items).Splits P := by
  intro other s t hother hs ht heq
  obtain ⟨others, rfl⟩ := opening_eq_array (Over.opening_eq hP (.array hitems) hother heq)
  cases hother with
  | array hothers =>
    cases items with
    | nil =>
      cases others with
      | nil => exact ⟨rfl, List.append_cancel_left heq⟩
      | cons other others =>
        rw [chars_array, List.cons_append, List.append_assoc] at heq
        exact absurd (List.cons.inj heq).2 ((hothers other List.mem_cons_self).chars_ne_end hP)
    | cons item rest =>
      obtain ⟨hitem, hrest⟩ := List.forall_mem_cons.mp hsplits
      rw [chars_array, List.cons_append, List.append_assoc] at heq
      cases others with
      | nil => exact absurd (List.cons.inj heq).2.symm ((hitems item List.mem_cons_self).chars_ne_end hP)
      | cons other others =>
        obtain ⟨hother, hmore⟩ := List.forall_mem_cons.mp hothers
        rw [chars_array, List.cons_append, List.append_assoc] at heq
        obtain ⟨rfl, hbehind⟩ := hitem hother (ends_itemsChars s rest) (ends_itemsChars t others) (List.cons.inj heq).2
        obtain ⟨rfl, htail⟩ := itemsChars_inj hrest hmore hbehind
        exact ⟨rfl, htail⟩

theorem splits_object {fields : List (String × Json)} (hfields : ∀ field ∈ fields, field.2.Over P)
    (hsplits : ∀ field ∈ fields, field.2.Splits P) : (object fields).Splits P := by
  intro other s t hother hs ht heq
  obtain ⟨others, rfl⟩ := opening_eq_object (Over.opening_eq hP (.object hfields) hother heq)
  cases hother with
  | object hothers =>
    match fields, others with
    | [], [] => exact ⟨rfl, List.append_cancel_left heq⟩
    | [], (_, _) :: _ | (_, _) :: _, [] => cases heq
    | (name, value) :: rest, (other, value') :: others =>
      obtain ⟨hvalue, hrest⟩ := List.forall_mem_cons.mp hsplits
      obtain ⟨hvalue', hothers⟩ := List.forall_mem_cons.mp hothers
      simp only [chars_object, List.cons_append, List.append_assoc] at heq
      obtain ⟨hfield, hbehind⟩ :=
        field_inj hvalue hvalue' (ends_fieldsChars s rest) (ends_fieldsChars t others) (List.cons.inj heq).2
      obtain ⟨rfl, htail⟩ := fieldsChars_inj hrest hothers hbehind
      exact ⟨congrArg (fun field => Json.object (field :: rest)) hfield, htail⟩

/-- The text of a tree is split off the front of a text in one way only. -/
theorem Over.splits {json : Json} (h : json.Over P) : json.Splits P := by
  induction h with
  | null =>
    intro other s t hother _ _ heq
    have hopening := Over.opening_eq hP .null hother heq
    cases hother <;> cases hopening
    exact ⟨rfl, List.append_cancel_left heq⟩
  | bool b =>
    intro other s t hother _ _ heq
    have hopening := Over.opening_eq hP (.bool b) hother heq
    cases hother <;> cases hopening
    exact ⟨rfl, List.append_cancel_left heq⟩
  | int n => exact splits_int hP n
  | float hx => exact splits_float hP hx
  | string text =>
    intro other s t hother _ _ heq
    have hopening := Over.opening_eq hP (.string text) hother heq
    cases hother <;> cases hopening
    obtain ⟨rfl, htail⟩ := stringText_inj heq
    exact ⟨rfl, htail⟩
  | array hitems ih => exact splits_array hP hitems ih
  | object hfields ih => exact splits_object hP hfields ih

/-- Trees of one text are equal. -/
theorem eq_of_text {first second : Json} (hfirst : first.Over P) (hsecond : second.Over P)
    (h : first.text = second.text) : first = second := by
  have hchars : first.chars ++ [] = second.chars ++ [] := by
    rw [List.append_nil, List.append_nil]
    exact String.ofList_injective h
  have hends : Ends [] := trivial
  exact (hfirst.splits hP hsecond hends hends hchars).1

end Kinds

end Splitting

end Json

end GraphQuery
