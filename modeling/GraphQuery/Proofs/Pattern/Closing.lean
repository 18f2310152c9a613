import GraphQuery.Pattern.Match
import Mathlib.Data.List.TakeDrop

/-!
# Patterns with a closing part after them

A pattern that has to match a whole text is read between `^(?:` and `)$`. Reading the text with the closing part after
it follows reading the text alone, step by step: what is left is what was left, with the closing part after it, unless a
comment that is open at the end of the text has swallowed that (`WrittenPattern.Extends`). A reader follows when it
gives the same and leaves such texts (`WrittenPattern.Follows`); that it does is proved for one reader after the other,
up to `WrittenPattern.patternsFollow`.
-/

namespace GraphQuery
namespace WrittenPattern

/-- What stands after the text of a pattern that has to match a whole text. -/
def closing : List Char := [')', '$']

/-- What is left of a text, and of the same text or, if `closes`, of the text with the closing part after it. The number
bounds the length of the first. -/
inductive Extends (closes : Bool) : Nat → List Char → List Char → Prop
  /-- The closing part has been swallowed, if there was one. -/
  | swallowed {n : Nat} : Extends closes n [] []
  | closed {n : Nat} : closes = true → Extends closes n [] closing
  | cons {n : Nat} {text text' : List Char} (c : Char) : Extends closes n text text' →
      Extends closes (n + 1) (c :: text) (c :: text')

namespace Extends

variable {closes : Bool} {n : Nat} {text text' : List Char}

theorem mono (h : Extends closes n text text') : ∀ {m : Nat}, n ≤ m → Extends closes m text text' := by
  induction h with
  | swallowed => exact fun _ => .swallowed
  | closed hcloses => exact fun _ => .closed hcloses
  | cons c _ ih =>
    rintro (_ | m) hle
    · omega
    · exact .cons c (ih (Nat.le_of_succ_le_succ hle))

theorem succ (h : Extends closes n text text') : Extends closes (n + 1) text text' := h.mono (Nat.le_succ n)

theorem exact (h : Extends closes n text text') : Extends closes text.length text text' := by
  induction h with
  | swallowed => exact .swallowed
  | closed hcloses => exact .closed hcloses
  | cons c _ ih => exact .cons c ih

theorem length_le (h : Extends closes n text text') : text.length ≤ n ∧ text.length ≤ text'.length := by
  induction h with
  | swallowed | closed => exact ⟨Nat.zero_le _, Nat.zero_le _⟩
  | cons c _ ih => exact ⟨Nat.succ_le_succ ih.1, Nat.succ_le_succ ih.2⟩

theorem refl : ∀ text : List Char, Extends closes text.length text text
  | [] => .swallowed
  | c :: rest => .cons c (refl rest)

theorem append_closing : ∀ text : List Char, Extends true text.length text (text ++ closing)
  | [] => .closed rfl
  | c :: rest => .cons c (append_closing rest)

/-- After the whole text there is nothing, or the closing part. -/
theorem atEnd (h : Extends closes n [] text') : text' = [] ∨ text' = closing := by
  cases h with
  | swallowed => exact .inl rfl
  | closed => exact .inr rfl

/-- Without a closing part the texts are the same. -/
theorem eq (h : Extends false n text text') : text' = text := by
  induction h with
  | swallowed => rfl
  | closed hcloses => cases hcloses
  | cons c _ ih => rw [ih]

/-- A character that stands at the start of one text stands at the start of the other; the closing parenthesis may
have been added. -/
theorem peel (h : Extends closes n text text') {c : Char} (hc : c ≠ ')') :
    (∃ m rest rest', n = m + 1 ∧ text = c :: rest ∧ text' = c :: rest' ∧ Extends closes m rest rest') ∨
      (∀ rest, text ≠ c :: rest) ∧ ∀ rest, text' ≠ c :: rest := by
  cases h with
  | swallowed => exact .inr ⟨nofun, nofun⟩
  | closed => exact .inr ⟨nofun, fun rest heq => hc (List.cons.inj heq).1.symm⟩
  | @cons m rest rest' d h =>
    by_cases hd : d = c
    · subst hd
      exact .inl ⟨m, rest, rest', rfl, rfl, rfl, h⟩
    · exact .inr ⟨fun _ heq => hd (List.cons.inj heq).1, fun _ heq => hd (List.cons.inj heq).1⟩

/-- So do two characters. -/
theorem peelTwo (h : Extends closes n text text') {c d : Char} (hc : c ≠ ')') (hd : d ≠ ')') :
    (∃ m rest rest', n = m + 2 ∧ text = c :: d :: rest ∧ text' = c :: d :: rest' ∧ Extends closes m rest rest') ∨
      (∀ rest, text ≠ c :: d :: rest) ∧ ∀ rest, text' ≠ c :: d :: rest := by
  rcases h.peel hc with ⟨m, rest, rest', rfl, rfl, rfl, hrest⟩ | ⟨hne, hne'⟩
  · rcases hrest.peel hd with ⟨k, after, after', rfl, rfl, rfl, hafter⟩ | ⟨hne, hne'⟩
    · exact .inl ⟨k, after, after', rfl, rfl, rfl, hafter⟩
    · exact .inr ⟨fun left heq => hne left (List.cons.inj heq).2, fun left heq => hne' left (List.cons.inj heq).2⟩
  · exact .inr ⟨fun left => hne (d :: left), fun left => hne' (d :: left)⟩

theorem dropWhile {p : Char → Bool} (hp : p ')' = false) (h : Extends closes n text text') :
    Extends closes n (text.dropWhile p) (text'.dropWhile p) := by
  induction h with
  | swallowed => exact .swallowed
  | closed hcloses =>
    have hclosing : closing.dropWhile p = closing := by simp [closing, hp]
    rw [hclosing]
    exact .closed hcloses
  | cons c h ih =>
    cases hc : p c with
    | true =>
      rw [List.dropWhile_cons_of_pos hc, List.dropWhile_cons_of_pos hc]
      exact ih.succ
    | false =>
      rw [List.dropWhile_cons_of_neg (by simp [hc]), List.dropWhile_cons_of_neg (by simp [hc])]
      exact .cons c h

/-! ## Blanks and comments -/

theorem skipGo (h : Extends closes n text text') :
    ∀ comment : Bool, Extends closes n (skip.go comment text) (skip.go comment text') := by
  induction h with
  | swallowed =>
    intro comment
    rw [skip.go]
    exact .swallowed
  | closed hcloses =>
    rintro (_ | _)
    · exact .closed hcloses
    · -- the comment reaches to the end
      exact .swallowed
  | cons c h ih =>
    intro comment
    rw [skip.go, skip.go]
    split
    · exact (ih _).succ
    · split
      · exact (ih _).succ
      · split
        · exact (ih _).succ
        · exact .cons c h

theorem skip (h : Extends closes n text text') (verbose : Bool) :
    Extends closes n (WrittenPattern.skip verbose text) (WrittenPattern.skip verbose text') := by
  cases verbose with
  | false => exact h
  | true => exact h.skipGo false

theorem takeOf {verbose : Bool} {kind : Char → Bool} (hkind : kind ')' = false) : ∀ {limit limit' n : Nat}
    {text text' : List Char}, Extends closes n text text' → limit = limit' ∨ n ≤ limit ∧ limit ≤ limit' →
      ∃ taken rest rest', WrittenPattern.takeOf verbose kind limit text = (taken, rest) ∧
        WrittenPattern.takeOf verbose kind limit' text' = (taken, rest') ∧ Extends closes n rest rest'
  | limit, limit', _, _, _, .swallowed, _ => by
    refine ⟨[], [], [], ?_, ?_, .swallowed⟩ <;> rw [WrittenPattern.takeOf] <;> simp
  | limit, limit', _, _, _, .closed hcloses, _ => by
    refine ⟨[], [], closing, by rw [WrittenPattern.takeOf]; simp, ?_, .closed hcloses⟩
    cases limit' <;> simp [closing, WrittenPattern.takeOf, hkind]
  | 0, limit', n + 1, _, _, .cons c h, hlimit => by
    obtain rfl : 0 = limit' := by omega
    exact ⟨[], _, _, rfl, rfl, .cons c h⟩
  | limit + 1, limit', n + 1, _, _, .cons c h, hlimit => by
    obtain ⟨limit', rfl⟩ : ∃ k, limit' = k + 1 := ⟨limit' - 1, by omega⟩
    have hless : limit = limit' ∨ n ≤ limit ∧ limit ≤ limit' := by omega
    rw [WrittenPattern.takeOf, WrittenPattern.takeOf]
    split
    · obtain ⟨taken, rest, rest', htaken, htaken', hrest⟩ := takeOf hkind (h.skip verbose) hless
      exact ⟨c :: taken, rest, rest', by rw [htaken], by rw [htaken'], hrest.succ⟩
    · exact ⟨[], _, _, rfl, rfl, .cons c h⟩

section Taking

variable (h : Extends closes n text text') (verbose : Bool) (kind : Char → Bool) (hkind : kind ')' = false)

include h hkind

/-- As many characters of a kind are taken when the closing part follows, if their number is bounded. -/
theorem takeSome (limit : Nat) : ∃ taken rest rest', WrittenPattern.takeOf verbose kind limit text = (taken, rest) ∧
    WrittenPattern.takeOf verbose kind limit text' = (taken, rest') ∧ Extends closes n rest rest' :=
  h.takeOf hkind (.inl rfl)

/-- As many characters of a kind are taken when the closing part follows, if the bounds are no less than the length. -/
theorem takeAll {limit limit' : Nat} (hlimit : text.length ≤ limit) (hle : limit ≤ limit') :
    ∃ taken rest rest', WrittenPattern.takeOf verbose kind limit text = (taken, rest) ∧
      WrittenPattern.takeOf verbose kind limit' text' = (taken, rest') ∧ Extends closes n rest rest' := by
  obtain ⟨taken, rest, rest', htaken, htaken', hrest⟩ := h.exact.takeOf hkind (.inr ⟨hlimit, hle⟩)
  exact ⟨taken, rest, rest', htaken, htaken', hrest.mono h.length_le.1⟩

end Taking

/-- A run of characters that is stopped by another one is stopped there as well when the closing part follows. -/
theorem takeUntil {verbose : Bool} {kind : Char → Bool} {d : Char} {after : List Char} : ∀ {limit limit' n : Nat}
    {text text' taken : List Char}, Extends closes n text text' → n ≤ limit → limit ≤ limit' →
      WrittenPattern.takeOf verbose kind limit text = (taken, d :: after) →
        ∃ after', WrittenPattern.takeOf verbose kind limit' text' = (taken, d :: after') ∧ Extends closes n after after'
  | limit, _, _, _, _, _, .swallowed, _, _, htaken | limit, _, _, _, _, _, .closed _, _, _, htaken => by
    cases limit <;> simp [WrittenPattern.takeOf] at htaken
  | 0, _, _ + 1, _, _, _, .cons _ _, hlimit, _, _ => by omega
  | limit + 1, 0, _, _, _, _, .cons _ _, _, hle, _ => by omega
  | limit + 1, limit' + 1, n + 1, _, _, _, .cons c h, hlimit, hle, htaken => by
    rw [WrittenPattern.takeOf] at htaken ⊢
    split at htaken
    · rename_i hkind
      obtain ⟨rfl, hrest⟩ := Prod.mk.inj htaken
      obtain ⟨after', htaken', hafter⟩ := (h.skip verbose).takeUntil (Nat.le_of_succ_le_succ hlimit)
        (Nat.le_of_succ_le_succ hle) (Prod.ext rfl hrest)
      exact ⟨after', by rw [if_pos hkind, htaken'], hafter.succ⟩
    · rename_i hkind
      obtain ⟨rfl, hrest⟩ := Prod.mk.inj htaken
      obtain ⟨rfl, rfl⟩ := List.cons.inj hrest
      exact ⟨_, if_neg hkind, h.succ⟩

end Extends

theorem length_skip_le (verbose : Bool) (text : List Char) : (skip verbose text).length ≤ text.length :=
  ((Extends.append_closing text).skip verbose).length_le.1

/-! ## Readers -/

/-- Whether a second reading gives what a first one gives, up to the relation. -/
def Follows {α : Type} (R : α → α → Prop) (x y : Option α) : Prop := ∀ a, x = some a → ∃ b, y = some b ∧ R a b

/-- The same is read, and what is left is as it was. -/
inductive Read {α : Type} (closes : Bool) (n : Nat) : α × List Char → α × List Char → Prop
  | mk (a : α) {rest rest' : List Char} : Extends closes n rest rest' → Read closes n (a, rest) (a, rest')

/-- The same two things are read, and what is left is as it was. -/
inductive ReadTwo {α β : Type} (closes : Bool) (n : Nat) : α × β × List Char → α × β × List Char → Prop
  | mk (a : α) (b : β) {rest rest' : List Char} : Extends closes n rest rest' →
      ReadTwo closes n (a, b, rest) (a, b, rest')

namespace Follows

variable {α β : Type} {R : α → α → Prop} {S : β → β → Prop} {closes : Bool}

theorem none {y : Option α} : Follows R .none y := nofun

theorem some {a b : α} (h : R a b) : Follows R (some a) (some b) := by
  rintro _ ⟨⟩
  exact ⟨b, rfl, h⟩

theorem bind {x y : Option α} {f g : α → Option β} (h : Follows R x y) (hfg : ∀ a b, R a b → Follows S (f a) (g b)) :
    Follows S (x >>= f) (y >>= g) := by
  intro c hc
  obtain ⟨a, ha, hc⟩ := Option.bind_eq_some_iff.mp hc
  obtain ⟨b, rfl, hab⟩ := h a ha
  exact hfg a b hab c hc

theorem bindSame {γ : Type} {x : Option γ} {f g : γ → Option α} (h : ∀ c, Follows R (f c) (g c)) :
    Follows R (x >>= f) (x >>= g) := by
  cases x with
  | none => exact .none
  | some c => exact h c

theorem mapSame {γ : Type} {x : Option γ} {f g : γ → α} (h : ∀ c, R (f c) (g c)) : Follows R (x.map f) (x.map g) := by
  cases x with
  | none => exact .none
  | some c => exact .some (h c)

theorem map {x y : Option α} {f g : α → β} (h : Follows R x y) (hfg : ∀ a b, R a b → S (f a) (g b)) :
    Follows S (x.map f) (y.map g) := by
  intro c hc
  obtain ⟨a, ha, rfl⟩ := Option.map_eq_some_iff.mp hc
  obtain ⟨b, rfl, hab⟩ := h a ha
  exact ⟨g b, rfl, hfg a b hab⟩

theorem read {n : Nat} {rest rest' : List Char} (a : α) (h : Extends closes n rest rest') :
    Follows (Read closes n) (.some (a, rest)) (.some (a, rest')) := some (.mk a h)

theorem mono {n m : Nat} {x y : Option (α × List Char)} (h : Follows (Read closes m) x y) (hle : m ≤ n) :
    Follows (Read closes n) x y := by
  intro a ha
  obtain ⟨_, rfl, ⟨a, hrest⟩⟩ := h a ha
  exact ⟨_, rfl, .mk a (hrest.mono hle)⟩

theorem readTwo {n : Nat} {rest rest' : List Char} (a : α) (b : β) (h : Extends closes n rest rest') :
    Follows (ReadTwo closes n) (.some (a, b, rest)) (.some (a, b, rest')) := some (.mk a b h)

theorem monoTwo {n m : Nat} {x y : Option (α × β × List Char)} (h : Follows (ReadTwo closes m) x y) (hle : m ≤ n) :
    Follows (ReadTwo closes n) x y := by
  intro a ha
  obtain ⟨_, rfl, ⟨a, b, hrest⟩⟩ := h a ha
  exact ⟨_, rfl, .mk a b (hrest.mono hle)⟩

end Follows

variable {closes : Bool} {n : Nat} {text text' : List Char} {verbose : Bool}

/-! ## Numbers -/

theorem follows_readNumbered (h : Extends closes n text text') (width : Nat) :
    Follows (Read closes n) (readNumbered? verbose width text) (readNumbered? verbose width text') := by
  let hexadecimal (c : Char) : Bool := (digitValue? c).isSome
  have hkind : hexadecimal ')' = false := by decide
  have hskip := h.skip verbose
  unfold readNumbered?
  dsimp only
  generalize skip verbose text = u, skip verbose text' = u' at hskip ⊢
  rcases hskip.peel (c := '\x7b') (by decide) with ⟨m, rest, rest', rfl, rfl, rfl, hrest⟩ | ⟨hne, hne'⟩
  · obtain ⟨taken, left, left', htaken, htaken', hleft⟩ :=
      (hrest.skip verbose).takeAll verbose hexadecimal hkind (length_skip_le verbose rest) hrest.length_le.2
    simp only [hexadecimal] at htaken htaken'
    simp only [htaken, htaken']
    rcases taken with _ | ⟨digit, digits⟩
    · exact .none
    rcases hleft.peel (c := '\x7d') (by decide) with ⟨k, after, after', rfl, rfl, rfl, hafter⟩ | ⟨hne, hne'⟩
    · exact .bindSame fun c => .read _ (hafter.mono (by omega))
    · intro a ha
      split at ha <;> simp_all
  · obtain ⟨taken, left, left', htaken, htaken', hleft⟩ := hskip.takeSome verbose hexadecimal hkind width
    simp only [hexadecimal] at htaken htaken'
    simp only [htaken, htaken']
    split
    · exact .bindSame fun c => .read _ hleft
    · exact .none

theorem isBlankCharacter_closing : isBlankCharacter ')' = false := by decide

theorem follows_readCount (h : Extends closes n text text') :
    Follows (Read closes n) (readCount? verbose text) (readCount? verbose text') := by
  have hdrop := h.dropWhile isBlankCharacter_closing
  have hlength : (text.dropWhile isBlankCharacter).length ≤ text.length := (List.dropWhile_suffix _).length_le
  obtain ⟨taken, rest, rest', htaken, htaken', hrest⟩ :=
    hdrop.takeAll verbose Char.isDigit (by decide) hlength h.length_le.2
  unfold readCount?
  rw [htaken, htaken']
  cases taken with
  | nil => exact .none
  | cons digit digits =>
    dsimp only
    split
    · exact .read _ (hrest.dropWhile isBlankCharacter_closing)
    · exact .none

theorem follows_readBounds (h : Extends closes n text text') :
    Follows (Read closes n) (readBounds? verbose text) (readBounds? verbose text') := by
  unfold readBounds?
  refine (follows_readCount (h.skip verbose)).bind ?_
  rintro _ _ ⟨least, hrest⟩
  rename_i rest rest'
  dsimp only
  rcases hrest.peel (c := '\x7d') (by decide) with ⟨k, after, after', rfl, rfl, rfl, hafter⟩ | ⟨hne, hne'⟩
  · exact .read _ hafter.succ
  rcases hrest.peel (c := ',') (by decide) with ⟨k, after, after', rfl, rfl, rfl, hafter⟩ | ⟨hcomma, hcomma'⟩
  · -- what the texts do not start with decides about the matches on both sides
    simp only []
    have hskip := hafter.skip verbose
    generalize skip verbose after = u, skip verbose after' = u' at hskip ⊢
    rcases hskip.peel (c := '\x7d') (by decide) with ⟨k, rest, rest', rfl, rfl, rfl, hrest⟩ | ⟨hne, hne'⟩
    · exact .read _ (hrest.mono (by omega))
    · simp only []
      refine ((follows_readCount hskip).bind ?_).mono (Nat.le_succ _)
      rintro _ _ ⟨most, hleft⟩
      rcases hleft.peel (c := '\x7d') (by decide) with ⟨k, rest, rest', rfl, rfl, rfl, hrest⟩ | ⟨hne, hne'⟩
      · simp only []
        split
        · exact .read _ hrest.succ
        · exact .none
      · intro a ha
        split at ha <;> simp_all
  · simp only []
    exact .none

/-! ## Escapes -/

theorem follows_readWordMark (h : Extends closes n text text') :
    Follows (Read closes n) (readWordMark? verbose text) (readWordMark? verbose text') := by
  let nameChar (c : Char) : Bool := c.isAlpha || c = '-'
  have hkind : nameChar ')' = false := by decide
  unfold readWordMark?
  dsimp only
  rcases h.peel (c := '\x7b') (by decide) with ⟨m, rest, rest', rfl, rfl, rfl, hrest⟩ | ⟨hne, hne'⟩
  · obtain ⟨taken, left, left', htaken, htaken', hleft⟩ :=
      (hrest.skip verbose).takeAll verbose nameChar hkind (length_skip_le verbose rest) hrest.length_le.2
    simp only [nameChar] at htaken htaken'
    simp only [htaken, htaken']
    rcases taken with _ | ⟨c, name⟩
    · cases hleft with
      | cons d _ => exact .read _ h
      | _ => exact .none
    · rcases hleft.peel (c := '\x7d') (by decide) with ⟨k, after, after', rfl, rfl, rfl, hafter⟩ | ⟨hne, hne'⟩
      · exact .mapSame fun mark => .mk _ (hafter.mono (by omega))
      · intro a ha
        split at ha <;> simp_all
  · simp only []
    exact .read _ h

theorem follows_readProperty (h : Extends closes n text text') :
    Follows (Read closes n) (readProperty? verbose text) (readProperty? verbose text') := by
  have hskip := h.skip verbose
  unfold readProperty?
  generalize skip verbose text = u, skip verbose text' = u' at hskip ⊢
  cases hskip with
  | swallowed | closed => exact .none
  | @cons m rest rest' c hrest =>
    by_cases hbrace : c = '\x7b'
    · subst hbrace
      obtain ⟨query, left, htaken⟩ : ∃ query left,
        takeOf verbose (· ≠ '\x7d') rest.length (skip verbose rest) = (query, left) := ⟨_, _, rfl⟩
      simp only [htaken]
      intro a ha
      split at ha
      · rename_i after heq
        obtain ⟨rfl, rfl⟩ := Prod.mk.inj heq
        obtain ⟨after', htaken', hafter⟩ := (hrest.skip verbose).exact.takeUntil (length_skip_le verbose rest)
          hrest.length_le.2 htaken
        have hle := Nat.le_trans (length_skip_le verbose rest) hrest.length_le.1
        obtain rfl := Option.some.inj ha
        refine ⟨(.ofChars query, after'), ?_, .mk _ (hafter.mono (Nat.le_succ_of_le hle))⟩
        rw [htaken']
        rfl
      · cases ha
    · by_cases hslash : c = '\\'
      · subst hslash
        exact .none
      · simp only []
        exact .read _ (hrest.skip verbose).succ

theorem follows_readEscape (h : Extends closes (n + 1) text text') :
    Follows (Read closes n) (readEscape? verbose text) (readEscape? verbose text') := by
  cases h with
  | swallowed | closed => exact .none
  | @cons _ rest rest' c h =>
    unfold readEscape?
    dsimp only
    by_cases hmeta : metaChars.contains c = true
    · rw [if_pos hmeta, if_pos hmeta]
      exact .read _ h
    rw [if_neg hmeta, if_neg hmeta]
    split
    case h_1 | h_2 | h_3 => exact follows_readNumbered h _
    case h_4 | h_5 =>
      refine (follows_readProperty h).map ?_
      rintro _ _ ⟨query, hrest⟩
      exact .mk _ hrest
    case h_20 =>
      refine (follows_readWordMark h).map ?_
      rintro _ _ ⟨mark, hrest⟩
      exact .mk _ hrest
    case h_24 =>
      split
      · exact .read _ h
      · exact .none
    all_goals exact .read _ h

/-! ## Classes -/

/-- A run of characters is stopped by the same character, or by nothing: the closing part does not stop it. -/
theorem Extends.span {p : Char → Bool} (hclose : p ')' = true) (hend : p '$' = true) (h : Extends closes n text text') :
    (∃ name c rest rest', text.span p = (name, c :: rest) ∧ text'.span p = (name, c :: rest') ∧
      Extends closes n rest rest') ∨
      ∃ name name', text.span p = (name, []) ∧ text'.span p = (name', []) := by
  simp only [List.span_eq_takeWhile_dropWhile]
  induction h with
  | swallowed => exact .inr ⟨[], [], rfl, rfl⟩
  | closed _ => exact .inr ⟨[], closing, rfl, by simp [closing, hclose, hend]⟩
  | @cons m rest rest' c h ih =>
    cases hc : p c with
    | false => exact .inl ⟨[], c, rest, rest', by simp [hc], by simp [hc], h.succ⟩
    | true =>
      simp only [List.takeWhile_cons_of_pos hc, List.dropWhile_cons_of_pos hc, Prod.mk.injEq] at ih ⊢
      rcases ih with ⟨name, d, left, left', ⟨hname, hleft⟩, ⟨hname', hleft'⟩, hextends⟩ |
        ⟨name, name', ⟨hname, hleft⟩, ⟨hname', hleft'⟩⟩
      · exact .inl ⟨c :: name, d, left, left', ⟨by rw [hname], hleft⟩, ⟨by rw [hname'], hleft'⟩, hextends.succ⟩
      · exact .inr ⟨c :: name, c :: name', ⟨by rw [hname], hleft⟩, ⟨by rw [hname'], hleft'⟩⟩

/-- Takes the mark of a negated class. -/
def takeCaret (verbose : Bool) (text : List Char) : Bool × List Char :=
  match skip verbose text with
  | '^' :: rest => (true, skip verbose rest)
  | rest => (false, rest)

theorem takeCaret_eq (h : Extends closes n text text') (verbose : Bool) : ∃ negated rest rest',
    takeCaret verbose text = (negated, rest) ∧ takeCaret verbose text' = (negated, rest') ∧
      Extends closes n rest rest' := by
  have hskip := h.skip verbose
  unfold takeCaret
  generalize skip verbose text = u, skip verbose text' = u' at hskip ⊢
  rcases hskip.peel (c := '^') (by decide) with ⟨m, rest, rest', rfl, rfl, rfl, hrest⟩ | ⟨hne, hne'⟩
  · exact ⟨true, _, _, rfl, rfl, (hrest.skip verbose).succ⟩
  · refine ⟨false, u, u', ?_, ?_, hskip⟩ <;> simp only []

/-- Reads the name of an ASCII class. -/
def readAsciiName? (negated : Bool) (text : List Char) : Option (ClassBody × List Char) :=
  match text.span (· != ':') with
  | (name, ':' :: ']' :: after) => (asciiClass? (String.ofList name)).map fun set => (.ascii set negated, after)
  | _ => none

theorem readAsciiClass_colon (rest : List Char) : readAsciiClass? (':' :: rest) =
    readAsciiName? (takeCaret false rest).1 (takeCaret false rest).2 := rfl

theorem readAsciiClass_none (h : ∀ rest, text ≠ ':' :: rest) : readAsciiClass? text = none := by
  unfold readAsciiClass?
  split
  · exact absurd rfl (h _)
  · rfl

/-- Whether two readings both give nothing, or the same, and leave the same but for the closing part. -/
def Agree (closes : Bool) (n : Nat) (x y : Option (ClassBody × List Char)) : Prop :=
  (x = none ∧ y = none) ∨
    ∃ item rest rest', x = some (item, rest) ∧ y = some (item, rest') ∧ Extends closes n rest rest'

theorem agree_readAsciiName (h : Extends closes n text text') (negated : Bool) :
    Agree closes n (readAsciiName? negated text) (readAsciiName? negated text') := by
  unfold readAsciiName?
  rcases h.span (p := (· != ':')) (by decide) (by decide) with
    ⟨name, c, after, after', hspan, hspan', hafter⟩ | ⟨name, name', hspan, hspan'⟩
  · have hnone : ∀ left, (∀ r, c :: left ≠ ':' :: ']' :: r) → (match (name, c :: left) with
        | (name, ':' :: ']' :: after) =>
          (asciiClass? (String.ofList name)).map fun set => (ClassBody.ascii set negated, after)
        | _ => none) = none := by
      intro left hleft
      split <;> simp_all
    by_cases hc : c = ':'
    · subst hc
      rcases hafter.peel (c := ']') (by decide) with ⟨k, rest, rest', rfl, rfl, rfl, hrest⟩ | ⟨hne, hne'⟩
      · simp only [hspan, hspan']
        cases asciiClass? (String.ofList name) with
        | none => exact .inl ⟨rfl, rfl⟩
        | some set => exact .inr ⟨_, rest, rest', rfl, rfl, hrest.succ⟩
      · rw [hspan, hspan']
        exact .inl ⟨hnone _ (by simpa using hne), hnone _ (by simpa using hne')⟩
    · rw [hspan, hspan']
      exact .inl ⟨hnone _ (by simp [hc]), hnone _ (by simp [hc])⟩
  · rw [hspan, hspan']
    exact .inl ⟨rfl, rfl⟩

theorem agree_readAsciiClass (h : Extends closes n text text') :
    Agree closes n (readAsciiClass? text) (readAsciiClass? text') := by
  rcases h.peel (c := ':') (by decide) with ⟨m, rest, rest', rfl, rfl, rfl, hrest⟩ | ⟨hne, hne'⟩
  · obtain ⟨negated, after, after', hcaret, hcaret', hafter⟩ := takeCaret_eq hrest false
    rw [readAsciiClass_colon, readAsciiClass_colon, hcaret, hcaret']
    exact agree_readAsciiName hafter.succ negated
  · exact .inl ⟨readAsciiClass_none hne, readAsciiClass_none hne'⟩

theorem readClassItem_plain {c : Char} (hc : c ≠ '\\') (rest : List Char) :
    readClassItem? verbose (c :: rest) = some (.char c, rest) := by
  unfold readClassItem?
  split <;> simp_all

theorem follows_readClassItem (h : Extends closes (n + 1) text text') :
    Follows (Read closes n) (readClassItem? verbose text) (readClassItem? verbose text') := by
  cases h with
  | swallowed | closed => exact .none
  | @cons _ rest rest' c h =>
    by_cases hc : c = '\\'
    · subst hc
      refine (follows_readEscape h.succ).bind ?_
      rintro _ _ ⟨item, hleft⟩
      exact .bindSame fun part => .read _ hleft
    · rw [readClassItem_plain hc, readClassItem_plain hc]
      exact .read _ h

/-- Where blanks are skipped, a hyphen is decided about by what is left of the text after it, if there is something. If
there is not, the text starts with a blank or a comment. -/
theorem afterHyphen_eq (h : Extends closes n text text') : ∃ passed passed', Extends closes n passed passed' ∧
    afterHyphen? true text = passed.head?.or text.head? ∧ afterHyphen? true text' = passed'.head?.or text'.head? ∧
    (passed = [] → ∀ c rest, text = c :: rest → isBlankCharacter c = true ∨ c = '#') := by
  have hstart : ∀ c rest, text = c :: rest → isBlankCharacter c = false →
      text.dropWhile isBlankCharacter = c :: rest := by
    rintro c rest rfl hc
    exact List.dropWhile_cons_of_neg (by simp [hc])
  unfold afterHyphen?
  have hdrop := h.dropWhile isBlankCharacter_closing
  generalize text.dropWhile isBlankCharacter = u, text'.dropWhile isBlankCharacter = u' at hdrop hstart ⊢
  rcases hdrop.peel (c := '#') (by decide) with ⟨m, rest, rest', rfl, rfl, rfl, hrest⟩ | ⟨hne, hne'⟩
  · refine ⟨_, _, (hrest.dropWhile isBlankCharacter_closing).succ, rfl, rfl, fun _ c left htext => ?_⟩
    cases hblank : isBlankCharacter c with
    | true => exact .inl rfl
    | false => exact .inr (List.cons.inj (hstart c left htext hblank)).1.symm
  · refine ⟨u, u', hdrop, ?_, ?_, fun hu c left htext => ?_⟩
    · simp only []
      rfl
    · simp only []
      rfl
    · cases hblank : isBlankCharacter c with
      | true => exact .inl rfl
      | false => cases hu.symm.trans (hstart c left htext hblank)

/-- Whether a hyphen stands at the end of a class or before another one does not depend on the closing part. -/
theorem afterHyphen_contains (h : Extends closes n text text') :
    [some ']', some '-'].contains (afterHyphen? verbose text) =
      [some ']', some '-'].contains (afterHyphen? verbose text') := by
  have hhead : [some ']', some '-'].contains text.head? = [some ']', some '-'].contains text'.head? := by
    cases h with
    | closed => decide
    | _ => rfl
  cases verbose with
  | false => exact hhead
  | true =>
    obtain ⟨passed, passed', hpassed, heq, heq', hblank⟩ := afterHyphen_eq h
    rw [heq, heq']
    cases hpassed with
    | swallowed => exact hhead
    | cons => rfl
    | closed =>
      have hclosing : [some ']', some '-'].contains (closing.head?.or text'.head?) = false := rfl
      rw [hclosing]
      cases text with
      | nil => rfl
      | cons c rest =>
        have hc : c ≠ ']' ∧ c ≠ '-' := by
          constructor <;> rintro rfl <;> revert hblank <;> simp <;> decide
        simp [hc]

theorem follows_readClassRange (h : Extends closes (n + 1) text text') :
    Follows (Read closes n) (readClassRange? verbose text) (readClassRange? verbose text') := by
  unfold readClassRange?
  refine (follows_readClassItem h).bind ?_
  rintro _ _ ⟨first, hrest⟩
  rename_i rest rest'
  have hskip := hrest.skip verbose
  dsimp only
  generalize skip verbose rest = u, skip verbose rest' = u' at hskip ⊢
  rcases hskip.peel (c := '-') (by decide) with ⟨m, after, after', rfl, rfl, rfl, hafter⟩ | ⟨hne, hne'⟩
  · simp only [afterHyphen_contains hafter]
    split
    · exact .read _ (.cons '-' hafter)
    · refine (follows_readClassItem (hafter.skip verbose).succ).bind ?_
      rintro _ _ ⟨second, hleft⟩
      dsimp only
      split
      · split
        · exact .read _ hleft.succ
        · exact .none
      · exact .none
  · cases hskip with
    | swallowed | closed => exact .none
    | cons c hafter =>
      simp only []
      exact .read _ (.cons c hafter)

theorem takeHyphens_eq (h : Extends closes n text text') (verbose : Bool) {limit limit' : Nat}
    (hlimit : text.length ≤ limit) (hle : limit ≤ limit') : ∃ hyphens rest rest',
      takeHyphens verbose limit text = (hyphens, rest) ∧ takeHyphens verbose limit' text' = (hyphens, rest') ∧
        Extends closes n rest rest' := by
  obtain ⟨taken, rest, rest', htaken, htaken', hrest⟩ := h.takeAll verbose (· = '-') (by decide) hlimit hle
  exact ⟨taken.map .char, rest, rest', by rw [takeHyphens, htaken], by rw [takeHyphens, htaken'], hrest⟩

/-- Whether classes are read alike with some fuel, if there is enough, and with more. -/
structure ClassesFollow (closes verbose : Bool) (fuel : Nat) : Prop where
  whole : ∀ {n : Nat} {text text' : List Char} {fuel' : Nat}, Extends closes n text text' →
    2 * n + 2 ≤ fuel → fuel ≤ fuel' →
    Follows (ReadTwo closes n) (readClass? verbose fuel text) (readClass? verbose fuel' text')
  body : ∀ {n : Nat} {text text' : List Char} {fuel' : Nat} (left : Option (ClassBody × SetOperation))
    (items : List ClassBody), Extends closes n text text' → 2 * n + 1 ≤ fuel → fuel ≤ fuel' →
    Follows (Read closes n) (readClassBody? verbose fuel left items text)
      (readClassBody? verbose fuel' left items text')

theorem ClassesFollow.readBody {fuel fuel' : Nat} (ih : ClassesFollow closes verbose fuel)
    (left : Option (ClassBody × SetOperation)) (items : List ClassBody) (h : Extends closes n text text')
    (hfuel : 2 * n + 1 ≤ fuel + 1) (hle : fuel ≤ fuel') :
    Follows (Read closes n) (readClassBody? verbose (fuel + 1) left items text)
      (readClassBody? verbose (fuel' + 1) left items text') := by
  rw [readClassBody?, readClassBody?]
  have hskip := h.skip verbose
  dsimp only
  generalize skip verbose text = u, skip verbose text' = u' at hskip ⊢
  rcases hskip.peel (c := ']') (by decide) with ⟨m, rest, rest', rfl, rfl, rfl, hrest⟩ | ⟨hend, hend'⟩
  · exact .read _ hrest.succ
  rcases hskip.peelTwo (c := '&') (d := '&') (by decide) (by decide) with
    ⟨m, rest, rest', rfl, rfl, rfl, hrest⟩ | ⟨hand, hand'⟩
  · exact (ih.body _ _ hrest (by omega) hle).mono (by omega)
  rcases hskip.peelTwo (c := '-') (d := '-') (by decide) (by decide) with
    ⟨m, rest, rest', rfl, rfl, rfl, hrest⟩ | ⟨hminus, hminus'⟩
  · exact (ih.body _ _ hrest (by omega) hle).mono (by omega)
  rcases hskip.peelTwo (c := '~') (d := '~') (by decide) (by decide) with
    ⟨m, rest, rest', rfl, rfl, rfl, hrest⟩ | ⟨hxor, hxor'⟩
  · exact (ih.body _ _ hrest (by omega) hle).mono (by omega)
  rcases hskip.peel (c := '[') (by decide) with ⟨m, rest, rest', rfl, rfl, rfl, hrest⟩ | ⟨hopen, hopen'⟩
  · simp only []
    rcases agree_readAsciiClass hrest with ⟨hnone, hnone'⟩ | ⟨item, after, after', hsome, hsome', hafter⟩
    · simp only [hnone, hnone']
      refine ((ih.whole hrest (by omega) hle).bind ?_).mono (Nat.le_succ m)
      rintro _ _ ⟨negated, body, hafter⟩
      exact ih.body _ _ hafter (by omega) hle
    · simp only [hsome, hsome']
      exact (ih.body _ _ hafter (by omega) hle).mono (by omega)
  · cases hskip with
    | swallowed | closed => exact .none
    | @cons m rest rest' c hrest =>
      simp only []
      refine ((follows_readClassRange (.cons c hrest)).bind ?_).mono (Nat.le_succ m)
      rintro _ _ ⟨item, hafter⟩
      exact ih.body _ _ hafter (by omega) hle

/-- Takes a closing bracket at the start of a class, which stands for itself. -/
def takeBracket (items : List ClassBody) (text : List Char) : List ClassBody × List Char :=
  match items, text with
  | [], ']' :: rest => ([.char ']'], rest)
  | items, rest => (items, rest)

theorem readClass_succ (verbose : Bool) (fuel : Nat) (text : List Char) : readClass? verbose (fuel + 1) text =
    let caret := takeCaret verbose text
    let hyphens := takeHyphens verbose fuel caret.2
    let start := takeBracket hyphens.1 hyphens.2
    readClassBody? verbose fuel none start.1 start.2 >>= fun read => some (caret.1, read.1, read.2) := by
  rw [readClass?]
  rfl

theorem takeBracket_eq (h : Extends closes n text text') (items : List ClassBody) : ∃ parts rest rest',
    takeBracket items text = (parts, rest) ∧ takeBracket items text' = (parts, rest') ∧
      Extends closes n rest rest' := by
  unfold takeBracket
  cases items with
  | cons item items => exact ⟨item :: items, text, text', rfl, rfl, h⟩
  | nil =>
    rcases h.peel (c := ']') (by decide) with ⟨m, rest, rest', rfl, rfl, rfl, hrest⟩ | ⟨hne, hne'⟩
    · exact ⟨_, rest, rest', rfl, rfl, hrest.succ⟩
    · refine ⟨[], text, text', ?_, ?_, h⟩ <;> split <;> simp_all

theorem ClassesFollow.readWhole {fuel fuel' : Nat} (ih : ClassesFollow closes verbose fuel)
    (h : Extends closes n text text') (hfuel : 2 * n + 2 ≤ fuel + 1) (hle : fuel ≤ fuel') :
    Follows (ReadTwo closes n) (readClass? verbose (fuel + 1) text) (readClass? verbose (fuel' + 1) text') := by
  obtain ⟨negated, rest, rest', hcaret, hcaret', hrest⟩ := takeCaret_eq h verbose
  have hlength : rest.length ≤ fuel := Nat.le_trans hrest.length_le.1 (by omega)
  obtain ⟨hyphens, after, after', hhyphens, hhyphens', hafter⟩ := takeHyphens_eq hrest verbose hlength hle
  obtain ⟨parts, left, left', hbracket, hbracket', hleft⟩ := takeBracket_eq hafter hyphens
  simp only [readClass_succ, hcaret, hcaret', hhyphens, hhyphens', hbracket, hbracket']
  refine (ih.body .none parts hleft (by omega) hle).bind ?_
  rintro _ _ ⟨body, hend⟩
  exact .some (.mk negated body hend)

theorem classesFollow (closes verbose : Bool) : ∀ fuel : Nat, ClassesFollow closes verbose fuel
  | 0 => ⟨fun _ hfuel => by omega, fun _ _ _ hfuel => by omega⟩
  | fuel + 1 => by
    have ih := classesFollow closes verbose fuel
    constructor
    · rintro n text text' (_ | fuel') h hfuel hle
      · omega
      · exact ih.readWhole h hfuel (Nat.le_of_succ_le_succ hle)
    · rintro n text text' (_ | fuel') left items h hfuel hle
      · omega
      · exact ih.readBody left items h hfuel (Nat.le_of_succ_le_succ hle)

/-! ## Groups -/

theorem follows_readFlags (h : Extends closes n text text') : ∀ (change : FlagChange) (off dangling : Bool),
    Follows (ReadTwo closes n) (readFlags? change off dangling text) (readFlags? change off dangling text') := by
  induction h with
  | swallowed | closed => exact fun _ _ _ => .none
  | cons c h ih =>
    intro change off dangling
    rw [readFlags?, readFlags?]
    split
    · split
      · exact .none
      · exact .readTwo _ _ h.succ
    · split
      · split
        · exact .none
        · exact (ih _ _ _).monoTwo (Nat.le_succ _)
      · split
        · exact .none
        · split
          · exact .none
          · exact (ih _ _ _).monoTwo (Nat.le_succ _)

theorem follows_readName (h : Extends closes n text text') (progress : Progress) :
    Follows (Read closes n) (readName? progress text) (readName? progress text') := by
  unfold readName?
  rcases h.span (p := (· != '>')) (by decide) (by decide) with
    ⟨name, c, after, after', hspan, hspan', hafter⟩ | ⟨name, name', hspan, hspan'⟩
  · rw [hspan, hspan']
    cases name with
    | nil => exact .none
    | cons d name =>
      dsimp only
      split
      · exact .read _ hafter
      · exact .none
  · rw [hspan]
    intro a ha
    split at ha <;> simp_all

section Opening

variable {progress : Progress} {rest : List Char}

theorem readOpening_capture (h : ∀ rest, skip progress.verbose text ≠ '?' :: rest) :
    readOpening? progress text = some (.capture, progress, skip progress.verbose text) := by
  unfold readOpening?
  split <;> simp_all

theorem readOpening_name (hskip : skip progress.verbose text = '?' :: '<' :: rest)
    (hbehind : ∀ after, rest ≠ '=' :: after) (hunless : ∀ after, rest ≠ '!' :: after) : readOpening? progress text =
      readName? progress rest >>= fun read => some (.capture, read.1, read.2) := by
  unfold readOpening?
  rw [hskip]
  simp only []
  rfl

theorem readOpening_flags (hskip : skip progress.verbose text = '?' :: rest) (hahead : ∀ after, rest ≠ '=' :: after)
    (hunless : ∀ after, rest ≠ '!' :: after) (hname : ∀ after, rest ≠ '<' :: after)
    (hnamed : ∀ after, rest ≠ 'P' :: '<' :: after) : readOpening? progress text =
      readFlags? [] false false rest >>= fun read =>
        if read.2.1 = ':' then some (.scope read.1, progress, read.2.2)
        else if read.1.isEmpty then none else some (.setting read.1, progress, read.2.2) := by
  have hbehind : ∀ after, rest ≠ '<' :: '=' :: after := fun after => hname ('=' :: after)
  have hnotBehind : ∀ after, rest ≠ '<' :: '!' :: after := fun after => hname ('!' :: after)
  unfold readOpening?
  rw [hskip]
  simp only []
  rfl

end Opening

theorem follows_readOpening (h : Extends closes n text text') (progress : Progress) :
    Follows (ReadTwo closes n) (readOpening? progress text) (readOpening? progress text') := by
  have hskip := h.skip progress.verbose
  generalize hu : skip progress.verbose text = u, hu' : skip progress.verbose text' = u' at hskip
  rcases hskip.peel (c := '?') (by decide) with ⟨m, rest, rest', rfl, rfl, rfl, hrest⟩ | ⟨hplain, hplain'⟩
  case inr =>
    subst hu hu'
    rw [readOpening_capture hplain, readOpening_capture hplain']
    exact .readTwo _ _ hskip
  rcases hrest.peel (c := '=') (by decide) with ⟨k, after, after', rfl, rfl, rfl, _⟩ | ⟨hahead, hahead'⟩
  · rw [readOpening?, hu]
    exact .none
  rcases hrest.peel (c := '!') (by decide) with ⟨k, after, after', rfl, rfl, rfl, _⟩ | ⟨hunless, hunless'⟩
  · rw [readOpening?, hu]
    exact .none
  rcases hrest.peelTwo (c := 'P') (d := '<') (by decide) (by decide) with
    ⟨k, after, after', rfl, rfl, rfl, hafter⟩ | ⟨hnamed, hnamed'⟩
  · rw [readOpening?, readOpening?, hu, hu']
    refine (follows_readName hafter progress).bind ?_
    rintro _ _ ⟨progress, hleft⟩
    exact .readTwo _ _ (hleft.mono (by omega))
  rcases hrest.peel (c := '<') (by decide) with ⟨k, after, after', rfl, rfl, rfl, hafter⟩ | ⟨hname, hname'⟩
  · rcases hafter.peel (c := '=') (by decide) with ⟨i, left, left', rfl, rfl, rfl, _⟩ | ⟨hbehind, hbehind'⟩
    · rw [readOpening?, hu]
      exact .none
    rcases hafter.peel (c := '!') (by decide) with ⟨i, left, left', rfl, rfl, rfl, _⟩ | ⟨hunless, hunless'⟩
    · rw [readOpening?, hu]
      exact .none
    rw [readOpening_name hu hbehind hunless, readOpening_name hu' hbehind' hunless']
    refine (follows_readName hafter progress).bind ?_
    rintro _ _ ⟨progress, hleft⟩
    exact .readTwo _ _ (hleft.mono (by omega))
  · rw [readOpening_flags hu hahead hunless hname hnamed, readOpening_flags hu' hahead' hunless' hname' hnamed']
    refine (follows_readFlags hrest [] false false).bind ?_
    rintro _ _ ⟨change, close, hafter⟩
    dsimp only
    split
    · exact .readTwo _ _ hafter.succ
    · split
      · exact .none
      · exact .readTwo _ _ hafter.succ

/-! ## Patterns -/

theorem follows_repeatRead (h : Extends closes n text text') (least : Nat) (most : Option Nat)
    (parts : List WrittenPattern) :
    Follows (Read closes n) (repeatRead? least most parts text) (repeatRead? least most parts text') := by
  obtain ⟨greedy, rest, rest', hgreed, hgreed', hrest⟩ : ∃ greedy rest rest',
      readGreed text = (greedy, rest) ∧ readGreed text' = (greedy, rest') ∧ Extends closes n rest rest' := by
    unfold readGreed
    rcases h.peel (c := '?') (by decide) with ⟨m, rest, rest', rfl, rfl, rfl, hrest⟩ | ⟨hne, hne'⟩
    · exact ⟨false, rest, rest', rfl, rfl, hrest.succ⟩
    · refine ⟨true, text, text', ?_, ?_, h⟩ <;> simp only []
  unfold repeatRead?
  rw [hgreed, hgreed']
  exact .mapSame fun parts => .mk parts hrest

/-- Whether patterns are read alike with some fuel and with more. -/
structure PatternsFollow (closes : Bool) (fuel : Nat) : Prop where
  alternatives : ∀ {n : Nat} {text text' : List Char} {fuel' : Nat} (progress : Progress)
    (branches : List WrittenPattern), Extends closes n text text' → fuel ≤ fuel' → Follows (ReadTwo closes n)
      (readAlternatives? fuel progress branches text) (readAlternatives? fuel' progress branches text')
  sequence : ∀ {n : Nat} {text text' : List Char} {fuel' : Nat} (progress : Progress) (parts : List WrittenPattern),
    Extends closes n text text' → fuel ≤ fuel' → Follows (ReadTwo closes n)
      (readSequence? fuel progress parts text) (readSequence? fuel' progress parts text')

namespace PatternsFollow

variable {fuel fuel' : Nat} (ih : PatternsFollow closes fuel) (hle : fuel ≤ fuel')

include ih hle

theorem readAlternatives (progress : Progress) (branches : List WrittenPattern) (h : Extends closes n text text') :
    Follows (ReadTwo closes n) (readAlternatives? (fuel + 1) progress branches text)
      (readAlternatives? (fuel' + 1) progress branches text') := by
  rw [readAlternatives?, readAlternatives?]
  refine (ih.sequence progress [] h hle).bind ?_
  rintro _ _ ⟨p, progress, hrest⟩
  rename_i rest rest'
  dsimp only
  rcases hrest.peel (c := '|') (by decide) with ⟨m, after, after', rfl, rfl, rfl, hafter⟩ | ⟨hne, hne'⟩
  · exact (ih.alternatives _ _ hafter hle).monoTwo (Nat.le_succ m)
  · simp only []
    exact .readTwo _ _ hrest

/-- A group is read alike up to its closing parenthesis, and so is what follows it. -/
theorem readGroup (progress inner : Progress) (part : WrittenPattern → WrittenPattern) (parts : List WrittenPattern)
    (h : Extends closes n text text') : Follows (ReadTwo closes n)
      (WrittenPattern.readAlternatives? fuel inner [] text >>= fun read =>
        match read with
        | (p, inner, ')' :: rest) =>
          readSequence? fuel { inner with verbose := progress.verbose } (part p :: parts) rest
        | _ => none)
      (WrittenPattern.readAlternatives? fuel' inner [] text' >>= fun read =>
        match read with
        | (p, inner, ')' :: rest) =>
          readSequence? fuel' { inner with verbose := progress.verbose } (part p :: parts) rest
        | _ => none) := by
  refine (ih.alternatives inner [] h hle).bind ?_
  rintro _ _ ⟨p, inner, hrest⟩
  intro a ha
  split at ha
  · rename_i heq
    cases heq
    cases hrest with
    | cons _ hafter => exact (ih.sequence _ _ hafter hle).monoTwo (Nat.le_succ _) a ha
  · cases ha

/-- A repetition is read alike, and so is what follows it. -/
theorem readRepeat (progress : Progress) (parts : List WrittenPattern) (least : Nat) (most : Option Nat)
    (h : Extends closes n text text') : Follows (ReadTwo closes n)
      (repeatRead? least most parts text >>= fun read => readSequence? fuel progress read.1 read.2)
      (repeatRead? least most parts text' >>= fun read => readSequence? fuel' progress read.1 read.2) := by
  refine (follows_repeatRead h least most parts).bind ?_
  rintro _ _ ⟨parts, hrest⟩
  exact ih.sequence _ _ hrest hle

theorem readSequence (progress : Progress) (parts : List WrittenPattern) (h : Extends closes n text text') :
    Follows (ReadTwo closes n) (readSequence? (fuel + 1) progress parts text)
      (readSequence? (fuel' + 1) progress parts text') := by
  rw [readSequence?, readSequence?]
  have hskip := h.skip progress.verbose
  generalize skip progress.verbose text = u, skip progress.verbose text' = u' at hskip ⊢
  cases hskip with
  | swallowed => exact .readTwo _ _ .swallowed
  | closed hcloses => exact .readTwo _ _ (.closed hcloses)
  | @cons m rest rest' c hrest =>
    by_cases hclose : c = ')'
    · subst hclose
      exact .readTwo _ _ (.cons ')' hrest)
    by_cases hbar : c = '|'
    · subst hbar
      exact .readTwo _ _ (.cons '|' hrest)
    refine Follows.monoTwo ?_ (Nat.le_succ m)
    by_cases hopen : c = '('
    · subst hopen
      refine (follows_readOpening hrest progress).bind ?_
      rintro _ _ ⟨opening, progress, hafter⟩
      cases opening with
      | setting change => exact ih.sequence _ _ hafter hle
      | capture => exact ih.readGroup hle progress _ (.capture (progress.groups + 1)) parts hafter
      | scope change => exact ih.readGroup hle progress _ (.scope change) parts hafter
    by_cases hbracket : c = '['
    · subst hbracket
      have hlength := hrest.length_le.2
      refine ((classesFollow _ _ _).whole hrest.exact (Nat.le_refl _) (by omega)).bind ?_
      rintro _ _ ⟨negated, body, hafter⟩
      exact ih.sequence _ _ (hafter.mono hrest.length_le.1) hle
    by_cases hstar : c = '*'
    · subst hstar
      exact ih.readRepeat hle _ _ _ _ hrest
    by_cases hplus : c = '+'
    · subst hplus
      exact ih.readRepeat hle _ _ _ _ hrest
    by_cases hmark : c = '?'
    · subst hmark
      exact ih.readRepeat hle _ _ _ _ hrest
    by_cases hbrace : c = '\x7b'
    · subst hbrace
      refine (follows_readBounds hrest).bind ?_
      rintro _ _ ⟨⟨least, most⟩, hafter⟩
      exact ih.readRepeat hle _ _ _ _ (hafter.skip progress.verbose)
    by_cases hdot : c = '.'
    · subst hdot
      exact ih.sequence _ _ hrest hle
    by_cases hstart : c = '^'
    · subst hstart
      exact ih.sequence _ _ hrest hle
    by_cases hend : c = '$'
    · subst hend
      exact ih.sequence _ _ hrest hle
    by_cases hescape : c = '\\'
    · subst hescape
      refine (follows_readEscape hrest.succ).bind ?_
      rintro _ _ ⟨part, hafter⟩
      exact ih.sequence _ _ hafter hle
    simp only []
    exact ih.sequence _ _ hrest hle

end PatternsFollow

/-- Patterns are read alike, whether the closing part follows or not, until they end or the closing part is read. -/
theorem patternsFollow (closes : Bool) : ∀ fuel : Nat, PatternsFollow closes fuel
  | 0 => by
    constructor <;> intros
    · rw [readAlternatives?]
      exact .none
    · rw [readSequence?]
      exact .none
  | fuel + 1 => by
    have ih := patternsFollow closes fuel
    constructor
    · rintro n text text' (_ | fuel') progress branches h hle
      · omega
      · exact ih.readAlternatives (Nat.le_of_succ_le_succ hle) progress branches h
    · rintro n text text' (_ | fuel') progress parts h hle
      · omega
      · exact ih.readSequence (Nat.le_of_succ_le_succ hle) progress parts h

end WrittenPattern
end GraphQuery
