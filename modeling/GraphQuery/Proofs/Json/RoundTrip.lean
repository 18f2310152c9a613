import GraphQuery.Json.Reader
import GraphQuery.Json.Writer
import Mathlib.Data.List.TakeDrop

/-!
# JSON reads back

A tree whose integers fit 64 bits and whose floating-point numbers are what their numerals read as (`Json.Exact`) is what
its compact text reads as (`Json.Exact.ofText?_text`). The text of a tree is read off the front of any text that goes on
with a comma, with the end of an array or of an object, or not at all; a numeral is scanned alike whatever of these
follows it (`Numeral.scan_append`).
-/

namespace GraphQuery

/-- What may follow the text of a tree. -/
def Json.Ends : List Char → Prop
  | [] => True
  | c :: _ => c = ',' ∨ c = ']' ∨ c = '\x7d'

/-! ## Numerals -/

namespace Numeral

/-- The digits of a positive number do not start with a zero. -/
theorem head_toDigits : ∀ {n : Nat}, 0 < n → (Nat.toDigits 10 n).head? ≠ some '0' := by
  intro n
  induction n using Nat.strongRecOn with
  | ind n ih =>
    intro hn
    by_cases h : n < 10
    · have hall : ∀ d < 10, 0 < d → some (Nat.digitChar d) ≠ some '0' := by decide
      rw [Nat.toDigits_of_lt_base h]
      exact hall n h hn
    · have hdiv : 0 < n / 10 := by omega
      have hfront := ih (n / 10) (by omega) hdiv
      rw [Nat.toDigits_of_base_le (by omega) (by omega)]
      cases hd : Nat.toDigits 10 (n / 10) with
      | nil => exact absurd hd Nat.toDigits_ne_nil
      | cons c rest =>
        rw [hd] at hfront
        exact hfront

theorem isDigit_of_mem_digits {n : Nat} {c : Char} (h : c ∈ FloatLayout.digits n) : c.isDigit = true :=
  Nat.isDigit_of_mem_toDigits (by decide) (by decide) h

theorem spanDigits_append {digits tail : List Char} (h : ∀ c ∈ digits, c.isDigit = true) (ht : Json.Ends tail) :
    spanDigits (digits ++ tail) = (digits, tail) := by
  have htail : tail.takeWhile Char.isDigit = [] ∧ tail.dropWhile Char.isDigit = tail := by
    cases tail with
    | nil => exact ⟨rfl, rfl⟩
    | cons c rest =>
      have hc : c.isDigit = false := by
        rcases ht with rfl | rfl | rfl <;> rfl
      exact ⟨List.takeWhile_cons_of_neg (by simp [hc]), List.dropWhile_cons_of_neg (by simp [hc])⟩
  rw [spanDigits, List.span_eq_takeWhile_dropWhile, List.takeWhile_append_of_pos h, List.dropWhile_append_of_pos h,
    htail.1, htail.2, List.append_nil]

/-- A number is at least what its front digits give. -/
theorem le_ofDigitChars : ∀ {digits : List Char} {n : Nat}, n ≤ Nat.ofDigitChars 10 digits n
  | [], n => Nat.le_of_eq Nat.ofDigitChars_nil.symm
  | c :: rest, n => by
    rw [Nat.ofDigitChars_cons]
    have hrest : 10 * n + (c.toNat - '0'.toNat) ≤ Nat.ofDigitChars 10 rest _ := le_ofDigitChars
    omega

/-- Digits are gathered whole when their number fits. -/
theorem gather_eq : ∀ {digits : List Char} {n : Nat}, Nat.ofDigitChars 10 digits n ≤ maxSignificand →
    gather n digits = (Nat.ofDigitChars 10 digits n, [])
  | [], n, _ => by rw [gather, Nat.ofDigitChars_nil]
  | c :: rest, n, h => by
    rw [Nat.ofDigitChars_cons] at h ⊢
    have hnext : n * 10 + digitValue c = 10 * n + (c.toNat - '0'.toNat) := by
      rw [digitValue]
      omega
    have hle : 10 * n + (c.toNat - '0'.toNat) ≤ Nat.ofDigitChars 10 rest _ := le_ofDigitChars
    rw [gather, hnext, if_pos (by omega)]
    exact gather_eq h

theorem scanInteger_digits {n : Nat} {tail : List Char} (ht : Json.Ends tail) :
    scanInteger (FloatLayout.digits n ++ tail) = some (FloatLayout.digits n, tail) := by
  rw [scanInteger, spanDigits_append (fun _ => isDigit_of_mem_digits) ht]
  cases hd : FloatLayout.digits n with
  | nil => exact absurd hd Nat.toDigits_ne_nil
  | cons c rest =>
    cases rest with
    | nil =>
      split
      · rename_i heq
        cases heq
      · rename_i heq
        cases heq
      · rename_i heq
        cases heq
        rfl
    | cons d rest =>
      have hpos : 0 < n := by
        refine Nat.pos_of_ne_zero ?_
        rintro rfl
        cases hd
      have hc : c ≠ '0' := fun h => head_toDigits hpos (by
        show (FloatLayout.digits n).head? = _
        rw [hd, h]
        rfl)
      split
      · rename_i heq
        cases heq
      · rename_i heq
        cases heq
        exact absurd rfl hc
      · rename_i heq
        cases heq
        rfl

theorem scanFraction_ends {tail : List Char} (ht : Json.Ends tail) : scanFraction tail = some (none, tail) := by
  cases tail with
  | nil => rfl
  | cons c rest => rcases ht with rfl | rfl | rfl <;> rfl

theorem scanExponent_ends {tail : List Char} (ht : Json.Ends tail) : scanExponent tail = some (none, tail) := by
  cases tail with
  | nil => rfl
  | cons c rest => rcases ht with rfl | rfl | rfl <;> rfl

section Following

variable {tail : List Char}

/-- The digits at the front of a text do not reach into what follows it. -/
theorem spanDigits_ends (ht : Json.Ends tail) : ∀ text : List Char,
    spanDigits (text ++ tail) = ((spanDigits text).1, (spanDigits text).2 ++ tail)
  | [] => by
    have hnone : spanDigits ([] ++ tail) = ([], tail) := spanDigits_append nofun ht
    rwa [List.nil_append] at hnone ⊢
  | c :: rest => by
    have ih := spanDigits_ends ht rest
    simp only [spanDigits, List.span_eq_takeWhile_dropWhile, Prod.mk.injEq] at ih ⊢
    rw [List.cons_append]
    cases hc : c.isDigit <;> simp [hc, ih]

theorem scanInteger_append (ht : Json.Ends tail) (text : List Char) :
    scanInteger (text ++ tail) = (scanInteger text).map fun read => (read.1, read.2 ++ tail) := by
  unfold scanInteger
  rw [spanDigits_ends ht]
  obtain ⟨digits, rest⟩ := spanDigits text
  match digits with
  | [] => rfl
  | [c] => by_cases hc : c = '0' <;> simp [hc]
  | c :: d :: more => by_cases hc : c = '0' <;> simp [hc]

theorem scanFraction_append (ht : Json.Ends tail) (text : List Char) :
    scanFraction (text ++ tail) = (scanFraction text).map fun read => (read.1, read.2 ++ tail) := by
  cases text with
  | nil => exact scanFraction_ends ht
  | cons c rest =>
    by_cases hc : c = '.'
    · subst hc
      show scanFraction ('.' :: (rest ++ tail)) = _
      rw [scanFraction, scanFraction, spanDigits_ends ht]
      obtain ⟨digits, after⟩ := spanDigits rest
      cases digits <;> rfl
    · have hother : ∀ r, scanFraction (c :: r) = some (none, c :: r) := by
        intro r
        unfold scanFraction
        split
        · rename_i heq
          cases heq
          exact absurd rfl hc
        · rfl
      rw [List.cons_append, hother, hother]
      rfl

/-- The exponent that digits behind a sign spell, with what follows the digits. -/
def exponentOf (negative : Bool) (span : List Char × List Char) : Option (Option Int × List Char) :=
  let e : Int := span.1.foldl (fun n d => n * 10 + digitValue d) 0
  if span.1.isEmpty then none else some (some (if negative then -e else e), span.2)

/-- After its mark an exponent is what the digits behind the sign spell; what is read of the sign does not depend on what
follows the text. -/
theorem exists_exponentOf {c : Char} (hc : c = 'e' ∨ c = 'E') (rest : List Char) : ∃ negative unsigned,
    ∀ more, Json.Ends more → scanExponent (c :: (rest ++ more)) = exponentOf negative (spanDigits (unsigned ++ more)) := by
  unfold scanExponent
  simp only [if_pos hc]
  have hspan : ∀ more, Json.Ends more → spanDigits ([] ++ more) = ([], more) :=
    fun _ hmore => spanDigits_append nofun hmore
  cases rest with
  | nil =>
    refine ⟨false, [], fun more hmore => ?_⟩
    rw [hspan more hmore]
    cases more with
    | nil => rfl
    | cons d more => rcases hmore with rfl | rfl | rfl <;> rfl
  | cons d rest =>
    by_cases hplus : d = '+'
    · subst hplus
      refine ⟨false, rest, fun more _ => ?_⟩
      simp only [List.cons_append]
      rcases spanDigits (rest ++ more) with ⟨_ | ⟨_, _⟩, after⟩ <;> rfl
    · by_cases hminus : d = '-'
      · subst hminus
        refine ⟨true, rest, fun more _ => ?_⟩
        simp only [List.cons_append]
        rcases spanDigits (rest ++ more) with ⟨_ | ⟨_, _⟩, after⟩ <;> rfl
      · refine ⟨false, d :: rest, fun more _ => ?_⟩
        simp only [List.cons_append, List.cons.injEq, hplus, hminus, false_and, imp_self, implies_true]
        rcases spanDigits (d :: (rest ++ more)) with ⟨_ | ⟨_, _⟩, after⟩ <;> rfl

theorem scanExponent_append (ht : Json.Ends tail) (text : List Char) :
    scanExponent (text ++ tail) = (scanExponent text).map fun read => (read.1, read.2 ++ tail) := by
  cases text with
  | nil => exact scanExponent_ends ht
  | cons c rest =>
    by_cases hc : c = 'e' ∨ c = 'E'
    · obtain ⟨negative, unsigned, hsign⟩ := exists_exponentOf hc rest
      have hfront := hsign [] trivial
      rw [List.append_nil, List.append_nil] at hfront
      rw [List.cons_append, hsign tail ht, hfront, spanDigits_ends ht]
      obtain ⟨digits, after⟩ := spanDigits unsigned
      cases digits <;> rfl
    · simp [scanExponent, hc]

/-- What is scanned off the front of a text does not depend on what follows it. -/
theorem scan_append {text rest : List Char} {numeral : Numeral} (h : scan text = some (numeral, rest))
    (ht : Json.Ends tail) : scan (text ++ tail) = some (numeral, rest ++ tail) := by
  have hsign : text ≠ [] := by
    rintro rfl
    cases h
  obtain ⟨c, text, rfl⟩ := List.exists_cons_of_ne_nil hsign
  rw [List.cons_append]
  unfold scan at h ⊢
  by_cases hminus : c = '-'
  all_goals simp only [hminus, List.cons.injEq, false_and, forall_const, imp_self] at h ⊢
  on_goal 2 => rw [← List.cons_append]
  all_goals
    obtain ⟨⟨whole, r₁⟩, hwhole, h⟩ := Option.bind_eq_some_iff.mp h
    obtain ⟨⟨fraction, r₂⟩, hfraction, h⟩ := Option.bind_eq_some_iff.mp h
    obtain ⟨⟨exponent, r₃⟩, hexponent, h⟩ := Option.bind_eq_some_iff.mp h
    rw [scanInteger_append ht, hwhole]
    simp only [Option.map_some, Option.bind_eq_bind, Option.bind_some] at hfraction hexponent ⊢
    rw [scanFraction_append ht, hfraction]
    simp only [Option.map_some, Option.bind_some]
    rw [scanExponent_append ht, hexponent]
    simp only [Option.map_some, Option.bind_some]
    split at h <;> rename_i hplain <;> rw [hplain]
    · cases h
      rfl
    · obtain ⟨x, hx, h⟩ := Option.bind_eq_some_iff.mp h
      cases h
      rw [hx]
      rfl

/-- A numeral starts with a digit or a sign. -/
theorem head_of_scan {text rest : List Char} {numeral : Numeral} (h : scan text = some (numeral, rest)) :
    ∃ c front, text = c :: front ∧ (c.isDigit = true ∨ c = '-') := by
  cases text with
  | nil => cases h
  | cons c front =>
    refine ⟨c, front, rfl, Classical.byContradiction fun hc => ?_⟩
    obtain ⟨hdigit, hminus⟩ := not_or.mp hc
    have hspan : spanDigits (c :: front) = ([], c :: front) := by
      simp [spanDigits, List.span_eq_takeWhile_dropWhile, hdigit]
    have hwhole : scanInteger (c :: front) = none := by rw [scanInteger, hspan]
    unfold scan at h
    simp [hminus, hwhole] at h

end Following

/-- The digits of a number are scanned as the number, with its sign. -/
theorem scan_digits {n : Nat} {negative : Bool} {numeral : Numeral} {tail : List Char} (hn : n ≤ maxSignificand)
    (hi : integer? negative n = some numeral) (ht : Json.Ends tail) :
    scan ((if negative then ['-'] else []) ++ (FloatLayout.digits n ++ tail)) = some (numeral, tail) := by
  have hwhole := scanInteger_digits (n := n) ht
  have hgather : gather 0 (FloatLayout.digits n) = (n, []) := by
    rw [FloatLayout.digits, gather_eq (by rwa [Nat.ofDigitChars_ten_toDigits]), Nat.ofDigitChars_ten_toDigits]
  cases negative with
  | true =>
    show scan ('-' :: (FloatLayout.digits n ++ tail)) = some (numeral, tail)
    unfold scan
    simp [hwhole, scanFraction_ends ht, scanExponent_ends ht, hgather, hi]
  | false =>
    show scan (FloatLayout.digits n ++ tail) = some (numeral, tail)
    -- the first digit is no sign
    have hsign : ∀ rest, FloatLayout.digits n ++ tail ≠ '-' :: rest := by
      intro rest heq
      cases hd : FloatLayout.digits n with
      | nil => exact absurd hd Nat.toDigits_ne_nil
      | cons c cs =>
        rw [hd] at heq
        cases heq
        have hminus : '-'.isDigit = true := isDigit_of_mem_digits (hd ▸ List.mem_cons_self)
        cases hminus
    unfold scan
    split
    · rename_i hmatch
      split at hmatch
      · rename_i heq
        exact absurd heq (hsign _)
      · cases hmatch
        simp [hwhole, scanFraction_ends ht, scanExponent_ends ht, hgather, hi]

/-- The text of an integer that fits 64 bits is scanned as the integer. -/
theorem scan_intText {n : Int} {tail : List Char} (hlow : -0x8000000000000000 ≤ n) (hhigh : n ≤ 0xFFFFFFFFFFFFFFFF)
    (ht : Json.Ends tail) : scan (Json.intText n ++ tail) = some (.integer n, tail) := by
  by_cases hn : n < 0
  · have hi : integer? true n.natAbs = some (.integer n) := by
      have hzero : ¬ (n.natAbs = 0 ∨ 0x8000000000000000 < n.natAbs) := by omega
      have hneg : -(n.natAbs : Int) = n := by omega
      rw [integer?, if_neg (by exact nofun), if_neg hzero, hneg]
    have hle : n.natAbs ≤ maxSignificand := by
      rw [maxSignificand]
      omega
    have hscan := scan_digits hle hi ht
    rw [Json.intText, if_pos hn]
    rwa [if_pos rfl] at hscan
  · have hi : integer? false n.natAbs = some (.integer n) := by
      have hpos : (n.natAbs : Int) = n := by omega
      rw [integer?, if_pos (by rfl), hpos]
    have hle : n.natAbs ≤ maxSignificand := by
      rw [maxSignificand]
      omega
    have hscan := scan_digits hle hi ht
    rw [Json.intText, if_neg hn]
    rwa [if_neg (by decide), List.nil_append] at hscan

end Numeral

/-- A floating-point number is what its numeral reads as. Reading rounds more than once, so not every finite number is. -/
def Binary64.ReadsBack (x : Binary64) : Prop := Numeral.scan (Json.floatText x) = some (.float x, [])

instance (x : Binary64) : Decidable x.ReadsBack :=
  inferInstanceAs (Decidable (Numeral.scan (Json.floatText x) = some (.float x, [])))

namespace Json

/-! ## Strings -/

theorem hexValue?_digitChar : ∀ d < 16, hexValue? (Nat.digitChar d) = some d := by decide

/-- The escape of a control character by its unit, of two zeros and two digits, reads as the character. -/
theorem escape?_unit {c : Char} (hcontrol : c.toNat < 0x20) (text : List Char) :
    escape? ('u' :: '0' :: '0' :: Nat.digitChar (c.toNat / 16) :: Nat.digitChar (c.toNat % 16) :: text) =
      some (c, text) := by
  have hhigh := hexValue?_digitChar (c.toNat / 16) (by omega)
  have hlow := hexValue?_digitChar (c.toNat % 16) (by omega)
  have hzero : hexValue? '0' = some 0 := by decide
  have hvalue : ((0 * 16 + 0) * 16 + c.toNat / 16) * 16 + c.toNat % 16 = c.toNat := by omega
  have hunit : hexUnit? ('0' :: '0' :: Nat.digitChar (c.toNat / 16) :: Nat.digitChar (c.toNat % 16) :: text) =
      some (c.toNat, text) := by
    rw [hexUnit?, hzero, hhigh, hlow]
    simp only [Option.bind_eq_bind, Option.bind_some, hvalue]
    rfl
  have hlead : ¬ (0xD800 ≤ c.toNat ∧ c.toNat < 0xDC00) := by omega
  have htrail : ¬ (0xDC00 ≤ c.toNat ∧ c.toNat < 0xE000) := by omega
  show escapedUnit? _ = _
  rw [escapedUnit?, hunit]
  simp only [Option.bind_eq_bind, Option.bind_some, if_neg hlead, if_neg htrail, Char.ofNat_toNat]
  rfl

/-- A string goes on behind an escape with the character that is escaped. -/
theorem stringBody?_escape {text rest : List Char} {c : Char} (h : escape? text = some (c, rest)) (rounds : Nat) :
    stringBody? (rounds + 1) ('\\' :: text) = (do
      let (body, rest) ← stringBody? rounds rest
      return (c :: body, rest)) := by
  rw [stringBody?, if_neg (by decide), if_pos rfl, h]
  rfl

/-- The escape of a character reads as the character. -/
theorem stringBody?_escapedChar (rounds : Nat) (c : Char) (text : List Char) :
    stringBody? (rounds + 1) (escapedChar c ++ text) = (do
      let (body, rest) ← stringBody? rounds text
      return (c :: body, rest)) := by
  have hsame : ∀ d : Char, c.toNat = d.toNat → c = d := fun d h => Char.toNat_inj.mp h
  fun_cases escapedChar c with
  | case1 hc | case2 _ hc | case4 _ _ _ hc | case5 _ _ _ _ hc | case6 _ _ _ _ _ hc =>
    rw [hc]
    exact stringBody?_escape rfl rounds
  | case3 hquote hbackslash hprintable =>
    show stringBody? (rounds + 1) (c :: text) = _
    rw [stringBody?, if_neg hquote, if_neg hbackslash, if_neg (by omega)]
  | case7 _ _ _ _ _ _ hc =>
    rw [hsame (Char.ofNat 0x08) hc]
    exact stringBody?_escape rfl rounds
  | case8 _ _ _ _ _ _ _ hc =>
    rw [hsame (Char.ofNat 0x0C) hc]
    exact stringBody?_escape rfl rounds
  | case9 => exact stringBody?_escape (escape?_unit (by omega) text) rounds

theorem stringBody?_flatMap : ∀ {cs : List Char} {rounds : Nat} {tail : List Char}, cs.length < rounds →
    stringBody? rounds (cs.flatMap escapedChar ++ '"' :: tail) = some (cs, tail)
  | [], rounds + 1, tail, _ => rfl
  | c :: cs, rounds + 1, tail, h => by
    have hcs : cs.length < rounds := Nat.lt_of_succ_lt_succ h
    rw [List.flatMap_cons, List.append_assoc, stringBody?_escapedChar, stringBody?_flatMap hcs]
    rfl

theorem length_le_flatMap : ∀ cs : List Char, cs.length ≤ (cs.flatMap escapedChar).length
  | [] => Nat.le_refl 0
  | c :: cs => by
    have hc : 1 ≤ (escapedChar c).length := by
      fun_cases escapedChar c <;> simp
    have ih := length_le_flatMap cs
    rw [List.flatMap_cons, List.length_append, List.length_cons]
    omega

/-- A quoted string reads as the string. -/
theorem quoted?_stringText (s : String) (tail : List Char) : quoted? (stringText s ++ tail) = some (s, tail) := by
  have htext : stringText s ++ tail = '"' :: (s.toList.flatMap escapedChar ++ '"' :: tail) := by
    simp [stringText]
  have hrounds : s.toList.length < (s.toList.flatMap escapedChar ++ '"' :: tail).length + 1 := by
    have := length_le_flatMap s.toList
    rw [List.length_append]
    omega
  rw [htext, quoted?, stringBody?_flatMap hrounds]
  simp

/-! ## Trees -/

/-- The trees whose integers fit 64 bits, signed or not, and whose floating-point numbers are read back. -/
inductive Exact : Json → Prop
  | null : Exact null
  | bool (b : Bool) : Exact (bool b)
  | int {n : Int} : -0x8000000000000000 ≤ n → n ≤ 0xFFFFFFFFFFFFFFFF → Exact (int n)
  | float {x : Binary64} : x.ReadsBack → Exact (float x)
  | string (s : String) : Exact (string s)
  | array {items : List Json} : (∀ item ∈ items, Exact item) → Exact (array items)
  | object {fields : List (String × Json)} : (∀ field ∈ fields, Exact field.2) → Exact (object fields)

theorem chars_string (s : String) : (string s).chars = stringText s := rfl

theorem chars_array (item : Json) (rest : List Json) :
    (array (item :: rest)).chars = '[' :: (item.chars ++ itemsChars rest) := rfl

theorem chars_object (name : String) (value : Json) (rest : List (String × Json)) :
    (object ((name, value) :: rest)).chars =
      '\x7b' :: (stringText name ++ ':' :: (value.chars ++ fieldsChars rest)) := rfl

/-- Whether the text of a tree is read off the front of any text that may go on behind it. -/
def Reads (json : Json) : Prop := ∀ {fuel : Nat} {tail : List Char}, json.chars.length ≤ fuel → Ends tail →
  read? fuel (json.chars ++ tail) = some (json, tail)

/-- An end is not blank. -/
theorem skipBlanks_ends {tail : List Char} (h : Ends tail) : skipBlanks tail = tail := by
  cases tail with
  | nil => rfl
  | cons c rest => rcases h with rfl | rfl | rfl <;> rfl

/-- No other token starts as a numeral does. -/
theorem starts_numeral {c : Char} (hc : c.isDigit = true ∨ c = '-') :
    isBlank c = false ∧ ∀ d ∈ ['"', '[', '\x7b', 't', 'f', 'n', ']', '\x7d'], c ≠ d := by
  refine ⟨?_, fun d hd heq => ?_⟩
  · have hne : c ≠ ' ' ∧ c ≠ '\n' ∧ c ≠ '\r' ∧ c ≠ '\t' := by
      refine ⟨?_, ?_, ?_, ?_⟩ <;> (rintro rfl; rcases hc with hc | hc <;> cases hc)
    simp [isBlank, hne]
  · have hnone : ['"', '[', '\x7b', 't', 'f', 'n', ']', '\x7d'].all (fun d => !d.isDigit && d != '-') = true := rfl
    have hd := List.all_eq_true.mp hnone d hd
    rw [← heq] at hd
    rcases hc with hc | rfl
    · simp [hc] at hd
    · simp at hd

/-- A numeral is read as its number. -/
theorem read?_of_scan {text rest : List Char} {numeral : Numeral} (h : Numeral.scan text = some (numeral, rest))
    (fuel : Nat) : read? (fuel + 1) text = some (match numeral with | .integer n => int n | .float x => float x, rest) := by
  obtain ⟨c, front, rfl, hc⟩ := Numeral.head_of_scan h
  obtain ⟨hblank, hother⟩ := starts_numeral hc
  have hskip : skipBlanks (c :: front) = c :: front := by
    rw [skipBlanks, List.dropWhile_cons_of_neg (by simp [hblank])]
  rw [read?, hskip]
  cases numeral <;> simp [hother, h]

/-- No text of a tree starts with a blank or an end. -/
theorem chars_eq_cons {json : Json} (h : json.Exact) :
    ∃ c rest, json.chars = c :: rest ∧ isBlank c = false ∧ c ≠ ']' ∧ c ≠ '\x7d' := by
  cases h with
  | null => exact ⟨'n', _, rfl, rfl, by decide, by decide⟩
  | bool b => cases b with
    | true => exact ⟨'t', _, rfl, rfl, by decide, by decide⟩
    | false => exact ⟨'f', _, rfl, rfl, by decide, by decide⟩
  | string s => exact ⟨'"', _, rfl, rfl, by decide, by decide⟩
  | @array items _ => cases items with
    | nil => exact ⟨'[', _, rfl, rfl, by decide, by decide⟩
    | cons item rest => exact ⟨'[', _, rfl, rfl, by decide, by decide⟩
  | @object fields _ => cases fields with
    | nil => exact ⟨'\x7b', _, rfl, rfl, by decide, by decide⟩
    | cons field rest => exact ⟨'\x7b', _, rfl, rfl, by decide, by decide⟩
  | @int n hlow hhigh =>
    have hscan : Numeral.scan (intText n ++ []) = some (.integer n, []) := Numeral.scan_intText hlow hhigh trivial
    rw [List.append_nil] at hscan
    obtain ⟨c, rest, hchars, hc⟩ := Numeral.head_of_scan hscan
    obtain ⟨hblank, hother⟩ := starts_numeral hc
    exact ⟨c, rest, hchars, hblank, hother _ (by simp), hother _ (by simp)⟩
  | @float x hx =>
    obtain ⟨c, rest, hchars, hc⟩ := Numeral.head_of_scan hx
    obtain ⟨hblank, hother⟩ := starts_numeral hc
    exact ⟨c, rest, hchars, hblank, hother _ (by simp), hother _ (by simp)⟩

theorem length_itemsChars_pos : ∀ items : List Json, 0 < (itemsChars items).length
  | [] => by simp [itemsChars]
  | _ :: _ => by simp [itemsChars]

theorem length_fieldsChars_pos : ∀ fields : List (String × Json), 0 < (fieldsChars fields).length
  | [] => by simp [fieldsChars]
  | _ :: _ => by simp [fieldsChars]

theorem ends_itemsChars (tail : List Char) : ∀ items : List Json, Ends (itemsChars items ++ tail)
  | [] => by simp [itemsChars, Ends]
  | _ :: _ => by simp [itemsChars, Ends]

theorem ends_fieldsChars (tail : List Char) : ∀ fields : List (String × Json), Ends (fieldsChars fields ++ tail)
  | [] => by simp [fieldsChars, Ends]
  | _ :: _ => by simp [fieldsChars, Ends]

/-- Items that are read one by one are read together, up to the end of their array. -/
theorem readItems?_chars {tail : List Char} : ∀ {item : Json} {rest : List Json} {fuel : Nat},
    (∀ json ∈ item :: rest, Reads json) → item.chars.length + (itemsChars rest).length ≤ fuel →
      readItems? fuel (item.chars ++ (itemsChars rest ++ tail)) = some (item :: rest, tail)
  | item, rest, 0, _, hfuel => by
    have := length_itemsChars_pos rest
    omega
  | item, [], fuel + 1, h, hfuel => by
    have hitem : read? fuel (item.chars ++ (itemsChars [] ++ tail)) = some (item, itemsChars [] ++ tail) := by
      refine h item List.mem_cons_self ?_ (ends_itemsChars tail [])
      simp only [itemsChars, List.length_singleton] at hfuel
      omega
    rw [readItems?, hitem]
    rfl
  | item, next :: rest, fuel + 1, h, hfuel => by
    have hlength : (itemsChars (next :: rest)).length = 1 + (next.chars.length + (itemsChars rest).length) := by
      simp [itemsChars]
      omega
    have hitem : read? fuel (item.chars ++ (itemsChars (next :: rest) ++ tail)) =
        some (item, itemsChars (next :: rest) ++ tail) :=
      h item List.mem_cons_self (by omega) (ends_itemsChars tail (next :: rest))
    have hrest : readItems? fuel (next.chars ++ (itemsChars rest ++ tail)) = some (next :: rest, tail) :=
      readItems?_chars (fun json hjson => h json (List.mem_cons_of_mem item hjson)) (by omega)
    have hcomma : skipBlanks (itemsChars (next :: rest) ++ tail) = ',' :: (next.chars ++ (itemsChars rest ++ tail)) := by
      rw [skipBlanks_ends (ends_itemsChars tail (next :: rest)), itemsChars]
      simp
    rw [readItems?, hitem]
    simp only [Option.bind_eq_bind, Option.bind_some, hcomma, hrest]
    rfl

/-- Behind a name and its colon the value is read, and then the other fields or the end of the object. -/
theorem readFields?_name (fuel : Nat) (name : String) (text : List Char) :
    readFields? (fuel + 1) (stringText name ++ ':' :: text) = (do
      let (value, rest) ← read? fuel text
      match skipBlanks rest with
      | ',' :: rest =>
        let (fields, rest) ← readFields? fuel rest
        return ((name, value) :: fields, rest)
      | '\x7d' :: rest => return ([(name, value)], rest)
      | _ => none) := by
  have hskip : skipBlanks (stringText name ++ ':' :: text) = stringText name ++ ':' :: text := rfl
  rw [readFields?, hskip, quoted?_stringText]
  rfl

/-- Fields whose values are read one by one are read together, up to the end of their object. -/
theorem readFields?_chars {tail : List Char} : ∀ {name : String} {value : Json} {rest : List (String × Json)}
    {fuel : Nat}, (∀ field ∈ (name, value) :: rest, Reads field.2) →
      value.chars.length + (fieldsChars rest).length ≤ fuel →
      readFields? fuel (stringText name ++ ':' :: (value.chars ++ (fieldsChars rest ++ tail))) =
        some ((name, value) :: rest, tail)
  | name, value, rest, 0, _, hfuel => by
    have := length_fieldsChars_pos rest
    omega
  | name, value, [], fuel + 1, h, hfuel => by
    have hreads : Reads value := h (name, value) List.mem_cons_self
    have hvalue : read? fuel (value.chars ++ (fieldsChars [] ++ tail)) = some (value, fieldsChars [] ++ tail) := by
      refine hreads ?_ (ends_fieldsChars tail [])
      simp only [fieldsChars, List.length_singleton] at hfuel
      omega
    rw [readFields?_name, hvalue]
    rfl
  | name, value, (next, content) :: rest, fuel + 1, h, hfuel => by
    have hlength : (fieldsChars ((next, content) :: rest)).length =
        1 + ((stringText next).length + (1 + (content.chars.length + (fieldsChars rest).length))) := by
      simp [fieldsChars]
      omega
    have hreads : Reads value := h (name, value) List.mem_cons_self
    have hvalue : read? fuel (value.chars ++ (fieldsChars ((next, content) :: rest) ++ tail)) =
        some (value, fieldsChars ((next, content) :: rest) ++ tail) :=
      hreads (by omega) (ends_fieldsChars tail ((next, content) :: rest))
    have hrest : readFields? fuel (stringText next ++ ':' :: (content.chars ++ (fieldsChars rest ++ tail))) =
        some ((next, content) :: rest, tail) :=
      readFields?_chars (fun field hfield => h field (List.mem_cons_of_mem _ hfield)) (by omega)
    have hcomma : skipBlanks (fieldsChars ((next, content) :: rest) ++ tail) =
        ',' :: (stringText next ++ ':' :: (content.chars ++ (fieldsChars rest ++ tail))) := by
      rw [skipBlanks_ends (ends_fieldsChars tail ((next, content) :: rest)), fieldsChars]
      simp
    rw [readFields?_name, hvalue]
    simp only [Option.bind_eq_bind, Option.bind_some, hcomma, hrest]
    rfl

/-- A tree has a text of at least one character, so no text of a tree fits within fuel of zero. -/
theorem Exact.reads_of_succ {json : Json} (hjson : json.Exact)
    (h : ∀ {fuel : Nat} {tail : List Char}, json.chars.length ≤ fuel + 1 → Ends tail →
      read? (fuel + 1) (json.chars ++ tail) = some (json, tail)) : Reads json := by
  intro fuel tail hfuel htail
  cases fuel with
  | zero =>
    obtain ⟨c, rest, hchars, _⟩ := chars_eq_cons hjson
    rw [hchars] at hfuel
    cases hfuel
  | succ fuel => exact h hfuel htail

theorem read?_string_chars (s : String) (fuel : Nat) (tail : List Char) :
    read? (fuel + 1) ((string s).chars ++ tail) = some (string s, tail) := by
  have hquoted := quoted?_stringText s tail
  have hskip : skipBlanks (stringText s ++ tail) = stringText s ++ tail := rfl
  rw [chars_string, read?, hskip]
  rw [stringText, List.cons_append, List.cons_append] at hquoted ⊢
  simp only [if_pos, hquoted]
  rfl

/-- An array is read as soon as its items are, since the first of them does not start as the end of an array does. -/
theorem read?_array_chars {item : Json} {rest : List Json} {fuel : Nat} {tail : List Char} (hexact : item.Exact)
    (hitems : readItems? fuel (item.chars ++ (itemsChars rest ++ tail)) = some (item :: rest, tail)) :
    read? (fuel + 1) ((array (item :: rest)).chars ++ tail) = some (array (item :: rest), tail) := by
  obtain ⟨c, cs, hchars, hblank, hend, _⟩ := chars_eq_cons hexact
  have htext : (array (item :: rest)).chars ++ tail = '[' :: (item.chars ++ (itemsChars rest ++ tail)) := by
    rw [chars_array, List.cons_append, List.append_assoc]
  have hskip : ∀ text, skipBlanks ('[' :: text) = '[' :: text := fun _ => rfl
  rw [htext, read?, hskip]
  rw [hchars] at hitems ⊢
  have hitem : skipBlanks (c :: cs ++ (itemsChars rest ++ tail)) = c :: cs ++ (itemsChars rest ++ tail) := by
    rw [List.cons_append, skipBlanks, List.dropWhile_cons_of_neg (by simp [hblank])]
  simp only [hitem]
  rw [if_neg (by decide), if_pos trivial]
  split
  · rename_i heq
    cases heq
    exact absurd rfl hend
  · rw [hitems]
    rfl

/-- An object is read as soon as its fields are, since a name starts with a quote. -/
theorem read?_object_chars {name : String} {value : Json} {rest : List (String × Json)} {fuel : Nat}
    {tail : List Char}
    (hfields : readFields? fuel (stringText name ++ ':' :: (value.chars ++ (fieldsChars rest ++ tail))) =
      some ((name, value) :: rest, tail)) :
    read? (fuel + 1) ((object ((name, value) :: rest)).chars ++ tail) =
      some (object ((name, value) :: rest), tail) := by
  have htext : (object ((name, value) :: rest)).chars ++ tail =
      '\x7b' :: (stringText name ++ ':' :: (value.chars ++ (fieldsChars rest ++ tail))) := by
    rw [chars_object]
    simp
  have hskip : ∀ text, skipBlanks ('\x7b' :: text) = '\x7b' :: text := fun _ => rfl
  have hname : ∀ text, skipBlanks (stringText name ++ text) = stringText name ++ text := fun _ => rfl
  rw [htext, read?, hskip]
  simp only [hname]
  rw [if_neg (by decide), if_neg (by decide), if_pos trivial]
  split
  · rename_i heq
    cases heq
  · rw [hfields]
    rfl

/-- The text of a tree is read off the front as the tree. -/
theorem Exact.reads {json : Json} (h : json.Exact) : Reads json := by
  induction h with
  | null => exact Exact.null.reads_of_succ fun _ _ => rfl
  | bool b => exact (Exact.bool b).reads_of_succ fun _ _ => by cases b <;> rfl
  | int hlow hhigh =>
    exact (Exact.int hlow hhigh).reads_of_succ fun _ htail => read?_of_scan (Numeral.scan_intText hlow hhigh htail) _
  | float hx => exact (Exact.float hx).reads_of_succ fun _ htail => read?_of_scan (Numeral.scan_append hx htail) _
  | string s => exact (Exact.string s).reads_of_succ fun _ _ => read?_string_chars s _ _
  | @array items h ih =>
    refine (Exact.array h).reads_of_succ fun {fuel tail} hfuel _ => ?_
    cases items with
    | nil => rfl
    | cons item rest =>
      have hlength : item.chars.length + (itemsChars rest).length ≤ fuel := by
        rw [chars_array, List.length_cons, List.length_append] at hfuel
        omega
      exact read?_array_chars (h item List.mem_cons_self) (readItems?_chars ih hlength)
  | @object fields h ih =>
    refine (Exact.object h).reads_of_succ fun {fuel tail} hfuel _ => ?_
    cases fields with
    | nil => rfl
    | cons field rest =>
      obtain ⟨name, value⟩ := field
      have hlength : value.chars.length + (fieldsChars rest).length ≤ fuel := by
        rw [chars_object, List.length_cons, List.length_append, List.length_cons, List.length_append] at hfuel
        omega
      exact read?_object_chars (readFields?_chars ih hlength)

/-- The text of a tree reads as the tree. -/
theorem Exact.ofText?_text {json : Json} (h : json.Exact) : ofText? json.text = some json := by
  have hread : read? (json.text.length + 1) json.text.toList = some (json, []) := by
    have hlist : json.text.toList = json.chars ++ [] := by
      rw [text, String.toList_ofList, List.append_nil]
    have hlength : json.chars.length ≤ json.text.length + 1 := by
      rw [text, String.length_ofList]
      omega
    rw [hlist]
    exact h.reads hlength trivial
  rw [ofText?, hread]
  rfl

end Json

end GraphQuery
