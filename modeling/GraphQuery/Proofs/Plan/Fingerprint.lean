import GraphQuery.Cache.Basic
import GraphQuery.Pattern.KnownProperty
import GraphQuery.Proofs.Plan.Fragments

/-!
# Fingerprints of selections

The bytes that are fingerprinted for a selection have no lengths in them: a result key ends at the first zero byte, a
type name at the next comma, and what is below at the next closing parenthesis. They can be read back when no result key
contains a zero character or starts with a closing parenthesis, no type name contains a comma or starts with an opening
parenthesis, and no sub-query is for an empty list of types (`Level.Legible`). Then levels of plans with the same
fingerprint have the same parts, as far as qualified names tell relationships apart and no two fingerprints collide by
chance (`Planner.Draws.parts_of_selectionKey`). So results in a cache are for what is asked
(`Planner.Draws.query_of_cacheKey`).

All levels of plans are legible when the type names are, every type has a concrete type at or below it, and the result
keys are legible (`Planner.Draws.legible`).
-/

namespace GraphQuery

/-! ## The bytes of a text -/

section Bytes

/-- Texts are cut at a mark that they do not contain. -/
theorem append_mark_inj {α : Type} {mark : α} : ∀ {xs ys s t : List α}, mark ∉ xs → mark ∉ ys →
    xs ++ mark :: s = ys ++ mark :: t → xs = ys ∧ s = t
  | [], [], _, _, _, _, h => ⟨rfl, (List.cons.inj h).2⟩
  | [], y :: ys, _, _, _, hy, h => absurd (List.mem_cons.mpr (.inl (List.cons.inj h).1)) hy
  | x :: xs, [], _, _, hx, _, h => absurd (List.mem_cons.mpr (.inl (List.cons.inj h).1.symm)) hx
  | x :: xs, y :: ys, _, _, hx, hy, h => by
    obtain ⟨rfl, hrest⟩ := List.cons.inj h
    obtain ⟨rfl, htail⟩ := append_mark_inj (fun h => hx (List.mem_cons_of_mem _ h))
      (fun h => hy (List.mem_cons_of_mem _ h)) hrest
    exact ⟨rfl, htail⟩

/-- The bytes of a text. -/
def utf8 (text : String) : List UInt8 := text.toUTF8.data.toList

theorem utf8_eq (text : String) : utf8 text = text.toList.flatMap String.utf8EncodeChar := by
  rw [utf8, String.toUTF8, ← String.utf8Encode_toList, List.utf8Encode]
  simp

theorem utf8_inj {a b : String} (h : utf8 a = utf8 b) : a = b :=
  String.toByteArray_inj.mp (ByteArray.ext (Array.toList_inj.mp h))

/-- Only an ASCII character is written as its own byte. -/
theorem ascii_mem_utf8EncodeChar {mark c : Char} (hmark : mark.val.toNat < 128)
    (h : UInt8.ofNat mark.val.toNat ∈ String.utf8EncodeChar c) : mark = c := by
  have hbyte : ∀ n : Nat, UInt8.ofNat mark.val.toNat = UInt8.ofNat n → mark.val.toNat = n % 256 := by
    intro n h
    have hnat := congrArg UInt8.toNat h
    rw [UInt8.toNat_ofNat', UInt8.toNat_ofNat'] at hnat
    omega
  unfold String.utf8EncodeChar at h
  dsimp only at h
  split at h
  · have hsame := hbyte _ (List.mem_singleton.mp h)
    exact Char.ext (UInt32.toNat_inj.mp (by omega))
  · -- every byte of a longer character has its highest bit set
    split at h
    · simp only [List.mem_cons, List.not_mem_nil, or_false] at h
      rcases h with h | h <;> have hsame := hbyte _ h <;> omega
    · split at h
      · simp only [List.mem_cons, List.not_mem_nil, or_false] at h
        rcases h with h | h | h <;> have hsame := hbyte _ h <;> omega
      · simp only [List.mem_cons, List.not_mem_nil, or_false] at h
        rcases h with h | h | h | h <;> have hsame := hbyte _ h <;> omega

theorem ascii_mem_utf8 (mark : Char) (hmark : mark.val.toNat < 128) {text : String}
    (h : UInt8.ofNat mark.val.toNat ∈ utf8 text) : mark ∈ text.toList := by
  rw [utf8_eq] at h
  obtain ⟨c, hc, h⟩ := List.mem_flatMap.mp h
  rwa [ascii_mem_utf8EncodeChar hmark h]

theorem ascii_head_utf8 (mark : Char) (hmark : mark.val.toNat < 128) {text : String} {rest : List UInt8}
    (h : utf8 text = UInt8.ofNat mark.val.toNat :: rest) : text.toList.head? = some mark := by
  rw [utf8_eq] at h
  cases htext : text.toList with
  | nil =>
    rw [htext] at h
    cases h
  | cons c cs =>
    rw [htext, List.flatMap_cons] at h
    cases hc : String.utf8EncodeChar c with
    | nil => exact absurd hc (String.utf8EncodeChar_ne_nil)
    | cons byte bytes =>
      rw [hc] at h
      have hmem : UInt8.ofNat mark.val.toNat ∈ String.utf8EncodeChar c := by
        rw [hc, ← (List.cons.inj h).1]
        exact List.mem_cons_self
      rw [ascii_mem_utf8EncodeChar hmark hmem]
      rfl

/-- A byte before a mark is the first of the text before the mark. -/
theorem utf8_of_head {byte mark : UInt8} (hne : byte ≠ mark) {text : String} {s rest : List UInt8}
    (h : byte :: s = utf8 text ++ mark :: rest) : ∃ bytes, utf8 text = byte :: bytes := by
  cases htext : utf8 text with
  | nil =>
    rw [htext] at h
    exact absurd (List.cons.inj h).1 hne
  | cons first bytes =>
    rw [htext] at h
    exact ⟨bytes, by rw [(List.cons.inj h).1]⟩

theorem Blake3.length_hash (bytes : List UInt8) : (Blake3.hash bytes).bytes.length = 32 := by
  simp [Blake3.hash, List.length_flatMap]

end Bytes

/-! ## Legible names -/

/-- A result key that can be read off the bytes of a selection. -/
structure LegibleKey (key : String) : Prop where
  noZero : '\x00' ∉ key.toList
  opens : key.toList.head? ≠ some ')'

/-- A type name that can be read off the bytes of a selection. -/
structure LegibleType (name : String) : Prop where
  noComma : ',' ∉ name.toList
  opens : name.toList.head? ≠ some '('

/-- A branch that can be read off the bytes of a selection. -/
structure Branch.Legible (branch : Branch) : Prop where
  key : LegibleKey branch.resultKey
  types : ∀ names, branch.sub.onlyOnTypes = some names → names ≠ [] ∧ ∀ name ∈ names, LegibleType name

theorem LegibleKey.zero_not_mem {key : String} (h : LegibleKey key) : 0 ∉ utf8 key :=
  fun hmem => h.noZero (ascii_mem_utf8 '\x00' (by decide) hmem)

theorem LegibleKey.not_opens {key : String} (h : LegibleKey key) (rest : List UInt8) : utf8 key ≠ 41 :: rest :=
  fun hopens => h.opens (ascii_head_utf8 ')' (by decide) hopens)

theorem LegibleType.comma_not_mem {name : String} (h : LegibleType name) : 44 ∉ utf8 name :=
  fun hmem => h.noComma (ascii_mem_utf8 ',' (by decide) hmem)

theorem LegibleType.not_opens {name : String} (h : LegibleType name) (rest : List UInt8) : utf8 name ≠ 40 :: rest :=
  fun hopens => h.opens (ascii_head_utf8 '(' (by decide) hopens)

namespace Level

/-! ## Reading back -/

theorem typeBytes_cons (name : String) (names : List String) (s : List UInt8) :
    typeBytes (some (name :: names)) ++ s = utf8 name ++ 44 :: (typeBytes (some names) ++ s) := by
  have hcomma : ",".toByteArray.data.toList = [44] := rfl
  simp [typeBytes, utf8, hcomma]

/-- Type names are read up to the opening parenthesis. -/
theorem typeBytes_inj : ∀ {names names' : List String} {s t : List UInt8}, (∀ name ∈ names, LegibleType name) →
    (∀ name ∈ names', LegibleType name) →
    typeBytes (some names) ++ 40 :: s = typeBytes (some names') ++ 40 :: t → names = names' ∧ s = t
  | [], [], _, _, _, _, h => ⟨rfl, (List.cons.inj h).2⟩
  | [], name' :: _, _, _, _, hlegible', h => by
    rw [typeBytes_cons] at h
    obtain ⟨bytes, hopens⟩ := utf8_of_head (by decide) h
    exact absurd hopens ((hlegible' name' List.mem_cons_self).not_opens bytes)
  | name :: _, [], _, _, hlegible, _, h => by
    rw [typeBytes_cons] at h
    obtain ⟨bytes, hopens⟩ := utf8_of_head (by decide) h.symm
    exact absurd hopens ((hlegible name List.mem_cons_self).not_opens bytes)
  | name :: rest, name' :: rest', _, _, hlegible, hlegible', h => by
    rw [typeBytes_cons, typeBytes_cons] at h
    obtain ⟨hfirst, hrest⟩ := append_mark_inj (hlegible name List.mem_cons_self).comma_not_mem
      (hlegible' name' List.mem_cons_self).comma_not_mem h
    obtain ⟨rfl, htail⟩ := typeBytes_inj (fun x hx => hlegible x (List.mem_cons_of_mem _ hx))
      (fun x hx => hlegible' x (List.mem_cons_of_mem _ hx)) hrest
    exact ⟨by rw [utf8_inj hfirst], htail⟩

end Level

/-- The bytes that a sub-query starts with: its relationship and its options. -/
def SubQuery.heading (sub : SubQuery Level) : List UInt8 :=
  utf8 sub.relationship.qualifiedName ++ sub.query.options.key.bytes

/-- The bytes of a sub-query, before others. -/
def SubQuery.before (sub : SubQuery Level) (rest : List UInt8) : List UInt8 :=
  sub.heading ++ (Level.typeBytes sub.onlyOnTypes ++ 40 :: (sub.query.selectionBytes ++ 41 :: rest))

/-- Whether two sub-queries with the same bytes are the same. -/
def SubQuery.Told (a b : SubQuery Level) : Prop := ∀ s t, a.before s = b.before t → a = b ∧ s = t

namespace Level

theorem bytesOfSubs_cons (sub : SubQuery Level) (rest : List (SubQuery Level)) :
    bytesOfSubs (sub :: rest) = 0 :: sub.before (bytesOfSubs rest) := by
  obtain ⟨relationship, query, onlyOnTypes⟩ := sub
  have hopening : "(".toByteArray.data.toList = [40] := rfl
  have hclosing : ")".toByteArray.data.toList = [41] := rfl
  simp [bytesOfSubs, SubQuery.before, SubQuery.heading, utf8, hopening, hclosing]

theorem bytesOfParts_cons (resultKey : String) (subs : List (SubQuery Level))
    (rest : List (String × List (SubQuery Level))) :
    bytesOfParts ((resultKey, subs) :: rest) = utf8 resultKey ++ (bytesOfSubs subs ++ 59 :: bytesOfParts rest) := by
  have hmark : ";".toByteArray.data.toList = [59] := rfl
  simp [bytesOfParts, utf8, hmark]

theorem selectionBytes_eq (level : Level) : level.selectionBytes = bytesOfParts level.parts := by
  cases level
  rw [selectionBytes]

theorem before_append (sub : SubQuery Level) (s t : List UInt8) : sub.before s ++ t = sub.before (s ++ t) := by
  simp [SubQuery.before]

/-- Sub-queries are read up to the semicolon. -/
theorem bytesOfSubs_inj : ∀ {subs subs' : List (SubQuery Level)} {s t : List UInt8},
    (∀ a ∈ subs, ∀ b ∈ subs', a.Told b) → bytesOfSubs subs ++ 59 :: s = bytesOfSubs subs' ++ 59 :: t →
      subs = subs' ∧ s = t
  | [], [], _, _, _, h => ⟨rfl, (List.cons.inj h).2⟩
  | [], _ :: _, _, _, _, h => by
    rw [bytesOfSubs_cons] at h
    exact absurd (List.cons.inj h).1 (by decide)
  | _ :: _, [], _, _, _, h => by
    rw [bytesOfSubs_cons] at h
    exact absurd (List.cons.inj h).1 (by decide)
  | sub :: rest, sub' :: rest', _, _, htold, h => by
    rw [bytesOfSubs_cons, bytesOfSubs_cons, List.cons_append, List.cons_append, before_append, before_append] at h
    obtain ⟨rfl, hrest⟩ := htold sub List.mem_cons_self sub' List.mem_cons_self _ _ (List.cons.inj h).2
    obtain ⟨rfl, htail⟩ := bytesOfSubs_inj
      (fun a ha b hb => htold a (List.mem_cons_of_mem _ ha) b (List.mem_cons_of_mem _ hb)) hrest
    exact ⟨rfl, htail⟩

/-- Whether the bytes of a selection end where these begin. -/
def Ends (rest : List UInt8) : Prop := ∀ byte ∈ rest.head?, byte = 41

theorem Ends.nil : Ends [] := fun byte hbyte => by cases hbyte

theorem Ends.closing (rest : List UInt8) : Ends (41 :: rest) := fun _ hbyte => (Option.some.inj hbyte).symm

/-- A part that can be read: its key is legible, and it has a sub-query. -/
structure LegiblePart (part : String × List (SubQuery Level)) : Prop where
  key : LegibleKey part.1
  nonempty : part.2 ≠ []

theorem not_ends_of_part {part : String × List (SubQuery Level)} (h : LegiblePart part)
    (rest : List (String × List (SubQuery Level))) (t : List UInt8) : ¬ Ends (bytesOfParts (part :: rest) ++ t) := by
  obtain ⟨key, subs⟩ := part
  obtain ⟨sub, others, hsubs⟩ := List.exists_cons_of_ne_nil h.nonempty
  intro hends
  rw [bytesOfParts_cons, show subs = sub :: others from hsubs, bytesOfSubs_cons] at hends
  cases hkey : utf8 key with
  | nil =>
    rw [hkey] at hends
    exact absurd (hends 0 rfl) (by decide)
  | cons byte bytes =>
    rw [hkey] at hends
    have hbyte : byte = 41 := hends byte rfl
    exact h.key.not_opens bytes (hbyte ▸ hkey)

/-- Parts are read up to their end. -/
theorem bytesOfParts_inj : ∀ {parts parts' : List (String × List (SubQuery Level))} {s t : List UInt8},
    (∀ part ∈ parts, LegiblePart part) → (∀ part ∈ parts', LegiblePart part) →
    (∀ part ∈ parts, ∀ part' ∈ parts', ∀ a ∈ part.2, ∀ b ∈ part'.2, a.Told b) → Ends s → Ends t →
    bytesOfParts parts ++ s = bytesOfParts parts' ++ t → parts = parts' ∧ s = t
  | [], [], _, _, _, _, _, _, _, h => ⟨rfl, h⟩
  | [], part' :: rest', s, t, _, hlegible', _, hs, _, h => by
    have hends : Ends (bytesOfParts (part' :: rest') ++ t) := h ▸ hs
    exact absurd hends (not_ends_of_part (hlegible' part' List.mem_cons_self) rest' t)
  | part :: rest, [], s, t, hlegible, _, _, _, ht, h => by
    have hends : Ends (bytesOfParts (part :: rest) ++ s) := h ▸ ht
    exact absurd hends (not_ends_of_part (hlegible part List.mem_cons_self) rest s)
  | (key, subs) :: rest, (key', subs') :: rest', s, t, hlegible, hlegible', htold, hs, ht, h => by
    have hkey := (hlegible _ List.mem_cons_self).key.zero_not_mem
    have hkey' := (hlegible' _ List.mem_cons_self).key.zero_not_mem
    obtain ⟨sub, others, hsubs⟩ := List.exists_cons_of_ne_nil (hlegible _ List.mem_cons_self).nonempty
    obtain ⟨sub', others', hsubs'⟩ := List.exists_cons_of_ne_nil (hlegible' _ List.mem_cons_self).nonempty
    dsimp only at hkey hkey' hsubs hsubs'
    subst hsubs hsubs'
    rw [bytesOfParts_cons, bytesOfParts_cons, List.append_assoc, List.append_assoc, List.append_assoc,
      List.append_assoc, bytesOfSubs_cons, bytesOfSubs_cons] at h
    obtain ⟨hkeys, hafter⟩ := append_mark_inj hkey hkey' h
    have hsubs : bytesOfSubs (sub :: others) ++ 59 :: (bytesOfParts rest ++ s) =
        bytesOfSubs (sub' :: others') ++ 59 :: (bytesOfParts rest' ++ t) := by
      rw [bytesOfSubs_cons, bytesOfSubs_cons]
      exact congrArg (0 :: ·) hafter
    obtain ⟨hsame, hrest⟩ := bytesOfSubs_inj (htold _ List.mem_cons_self _ List.mem_cons_self) hsubs
    obtain ⟨rfl, htail⟩ := bytesOfParts_inj (fun x hx => hlegible x (List.mem_cons_of_mem _ hx))
      (fun x hx => hlegible' x (List.mem_cons_of_mem _ hx))
      (fun x hx y hy => htold x (List.mem_cons_of_mem _ hx) y (List.mem_cons_of_mem _ hy)) hs ht hrest
    cases utf8_inj hkeys
    cases hsame
    exact ⟨rfl, htail⟩

/-! ## All branches below a level -/

theorem mem_branchesOfSubs_of_mem (resultKey : String) {sub : SubQuery Level} :
    ∀ {subs : List (SubQuery Level)} (i : Nat), sub ∈ subs →
      ∃ branch ∈ branchesOfSubs resultKey subs i, branch.resultKey = resultKey ∧ branch.sub = sub
  | first :: rest, i, h => by
    rcases List.mem_cons.mp h with rfl | h
    · exact ⟨_, List.mem_cons_self, rfl, rfl⟩
    · obtain ⟨branch, hbranch, hsame⟩ := mem_branchesOfSubs_of_mem resultKey (i + 1) h
      exact ⟨branch, List.mem_cons_of_mem _ hbranch, hsame⟩

theorem mem_branchesOfParts_of_mem {part : String × List (SubQuery Level)} {sub : SubQuery Level}
    (hsub : sub ∈ part.2) : ∀ {parts : List (String × List (SubQuery Level))}, part ∈ parts →
      ∃ branch ∈ branchesOfParts parts, branch.resultKey = part.1 ∧ branch.sub = sub
  | (key, subs) :: rest, h => by
    rcases List.mem_cons.mp h with rfl | h
    · obtain ⟨branch, hbranch, hsame⟩ := mem_branchesOfSubs_of_mem key 0 hsub
      exact ⟨branch, List.mem_append_left _ hbranch, hsame⟩
    · obtain ⟨branch, hbranch, hsame⟩ := mem_branchesOfParts_of_mem hsub h
      exact ⟨branch, List.mem_append_right _ hbranch, hsame⟩

/-- The branches of a level and of all levels below it. -/
def allBranches (level : Level) : List Branch := level.gather Level.branches

theorem mem_allBranches {level : Level} {branch : Branch} (h : branch ∈ level.branches) :
    branch ∈ level.allBranches := by
  rw [allBranches, gather_eq]
  exact List.mem_append_left _ h

theorem allBranches_subset {level : Level} {branch : Branch} (h : branch ∈ level.branches) :
    branch.sub.query.allBranches ⊆ level.allBranches := by
  intro inner hinner
  rw [allBranches, gather_eq]
  exact List.mem_append_right _ (List.mem_flatMap.mpr ⟨branch, h, hinner⟩)

/-- Everything below a level can be read off its bytes. -/
def Legible (level : Level) : Prop := ∀ branch ∈ level.allBranches, branch.Legible

theorem Legible.below {level : Level} (h : level.Legible) {branch : Branch} (hbranch : branch ∈ level.branches) :
    branch.sub.query.Legible := fun inner hinner => h inner (allBranches_subset hbranch hinner)

end Level

/-! ## Chance collisions -/

/-- The headings of two sub-queries tell them apart: qualified names differ when relationships do, fingerprints when
options do, and a fingerprint does not make up for a different name before it. -/
structure SubQuery.Clean (a b : SubQuery Level) : Prop where
  relationship : a.relationship.qualifiedName = b.relationship.qualifiedName → a.relationship = b.relationship
  options : a.query.options.key = b.query.options.key → a.query.options = b.query.options
  heading : a.heading <+: b.heading ∨ b.heading <+: a.heading →
    a.relationship.qualifiedName = b.relationship.qualifiedName

/-- The fingerprints of two levels do not collide by chance, nor do the headings below them. -/
structure Level.Clean (first second : Level) : Prop where
  selection : Blake3.hash first.selectionBytes = Blake3.hash second.selectionBytes →
    first.selectionBytes = second.selectionBytes
  subs : ∀ a ∈ first.allBranches, ∀ b ∈ second.allBranches, a.sub.Clean b.sub

/-- The relationship and the options of two sub-queries are the same when their bytes are. -/
theorem SubQuery.Clean.heading_inj {a b : SubQuery Level} (hclean : a.Clean b) {s t : List UInt8}
    (h : a.heading ++ s = b.heading ++ t) :
    a.relationship = b.relationship ∧ a.query.options = b.query.options ∧ s = t := by
  have hprefix : a.heading <+: b.heading ∨ b.heading <+: a.heading :=
    List.prefix_or_prefix_of_prefix (List.prefix_append a.heading s) (h ▸ List.prefix_append b.heading t)
  have hrelationship := hclean.relationship (hclean.heading hprefix)
  rw [SubQuery.heading, SubQuery.heading, hrelationship, List.append_assoc, List.append_assoc] at h
  obtain ⟨hkey, htail⟩ := List.append_inj (List.append_cancel_left h)
    ((Blake3.length_hash _).trans (Blake3.length_hash _).symm)
  have hkeys : a.query.options.key = b.query.options.key := congrArg Fingerprint.mk hkey
  exact ⟨hrelationship, hclean.options hkeys, htail⟩

/-- The types of two legible branches are the same when their bytes are. -/
theorem Branch.Legible.types_inj {a b : Branch} (ha : a.Legible) (hb : b.Legible) {s t : List UInt8}
    (h : Level.typeBytes a.sub.onlyOnTypes ++ 40 :: s = Level.typeBytes b.sub.onlyOnTypes ++ 40 :: t) :
    a.sub.onlyOnTypes = b.sub.onlyOnTypes ∧ s = t := by
  -- no list of types has the bytes of an empty one, which does not stand in a legible branch
  have hnone : Level.typeBytes none = Level.typeBytes (some []) := rfl
  cases htypes : a.sub.onlyOnTypes with
  | none =>
    cases htypes' : b.sub.onlyOnTypes with
    | none =>
      rw [htypes, htypes'] at h
      exact ⟨rfl, (List.cons.inj h).2⟩
    | some names' =>
      obtain ⟨hsome', hnames'⟩ := hb.types names' htypes'
      rw [htypes, htypes', hnone] at h
      exact absurd (Level.typeBytes_inj (List.forall_mem_nil _) hnames' h).1.symm hsome'
  | some names =>
    obtain ⟨hsome, hnames⟩ := ha.types names htypes
    cases htypes' : b.sub.onlyOnTypes with
    | none =>
      rw [htypes, htypes', hnone] at h
      exact absurd (Level.typeBytes_inj hnames (List.forall_mem_nil _) h).1 hsome
    | some names' =>
      rw [htypes, htypes'] at h
      obtain ⟨hsame, htail⟩ := Level.typeBytes_inj hnames (hb.types names' htypes').2 h
      exact ⟨congrArg some hsame, htail⟩

/-! ## Sub-queries of plans -/

namespace Planner

variable {planner : Planner}

/-- What a sub-query asks for is determined by its relationship, its options and its parts. -/
def Yields (planner : Planner) (sub : SubQuery Level) : Prop :=
  ∃ target authorization, planner.schema.entity sub.relationship.target = .ok target ∧
    planner.authorization target = .ok authorization ∧
    sub.query = ⟨target.name, sub.query.options, .conjoin [sub.query.options.filter, authorization],
      sub.query.options.rowLimit sub.relationship.cardinality, sub.relationship.cardinality, sub.query.parts⟩

theorem Yields.query_eq {a b : SubQuery Level} (ha : planner.Yields a) (hb : planner.Yields b)
    (hrelationship : a.relationship = b.relationship) (hoptions : a.query.options = b.query.options)
    (hparts : a.query.parts = b.query.parts) : a.query = b.query := by
  obtain ⟨target, authorization, htarget, hauthorization, hquery⟩ := ha
  obtain ⟨target', authorization', htarget', hauthorization', hquery'⟩ := hb
  rw [hrelationship, htarget'] at htarget
  cases htarget
  rw [hauthorization'] at hauthorization
  cases hauthorization
  rw [hquery, hquery', hrelationship, hoptions, hparts]

/-- Branches are told apart when the selections below them are. -/
theorem Yields.told {a b : Branch} (ha : planner.Yields a.sub) (hb : planner.Yields b.sub) (hlegible : a.Legible)
    (hlegible' : b.Legible) (hclean : a.sub.Clean b.sub)
    (hbelow : ∀ s t, Level.Ends s → Level.Ends t → a.sub.query.selectionBytes ++ s = b.sub.query.selectionBytes ++ t →
      a.sub.query.parts = b.sub.query.parts ∧ s = t) : a.sub.Told b.sub := by
  intro s t h
  obtain ⟨hrelationship, hoptions, h⟩ := hclean.heading_inj h
  obtain ⟨htypes, h⟩ := hlegible.types_inj hlegible' h
  obtain ⟨hparts, h⟩ := hbelow _ _ (.closing s) (.closing t) h
  have hquery := ha.query_eq hb hrelationship hoptions hparts
  refine ⟨?_, (List.cons.inj h).2⟩
  obtain ⟨_, _, sub⟩ := a
  obtain ⟨_, _, sub'⟩ := b
  cases sub
  cases sub'
  cases hrelationship
  cases htypes
  cases hquery
  rfl

/-! ## Levels of plans -/

section Levels

variable {room : Nat} {entity entity' : EntityType} {selection selection' : List Field} {options : Options}
  {cardinality : Cardinality} {level level' : Level} {first second : Plan}

section

variable [PropertyTable]

/-- A level is determined by what it is planned for and by its parts. -/
theorem shape_of_level (h : planner.level room entity selection options cardinality = .ok level) :
    (∀ key subs, (key, subs) ∈ level.parts → subs ≠ []) ∧ ∃ authorization,
      planner.authorization entity = .ok authorization ∧ level = ⟨entity.name, options,
        .conjoin [options.filter, authorization], options.rowLimit cardinality, cardinality, level.parts⟩ := by
  obtain ⟨nested, hover⟩ := levelOver_of_level h
  refine ⟨(subs_of_levelOver hover).2.1, ?_⟩
  obtain ⟨authorization, _, _, _, hauthorization, _, _, rfl⟩ := levelOver_eq_ok.mp hover
  exact ⟨authorization, hauthorization, rfl⟩

/-- Every branch below a level of a plan is one of a level of the plan. -/
theorem Draws.of_allBranches {branch : Branch} (h : planner.Draws first entity selection level)
    (hbranch : branch ∈ level.allBranches) :
    ∃ inner fields level, planner.Draws first inner fields level ∧ branch ∈ level.branches := by
  induction level using Level.induct generalizing entity selection with
  | step level ih =>
    rw [Level.allBranches, Level.gather_eq] at hbranch
    rcases List.mem_append.mp hbranch with hbranch | hbranch
    · exact ⟨entity, selection, level, h, hbranch⟩
    · obtain ⟨between, hbetween, hbranch⟩ := List.mem_flatMap.mp hbranch
      obtain ⟨_, _, hdraws⟩ := h.of_branch hbetween
      exact ih between hbetween hdraws hbranch

/-- A sub-query of a level of a plan applies to all nodes or to those of the concrete types below a type. -/
theorem Draws.onlyOnTypes (h : planner.Draws first entity selection level) (hnamed : planner.schema.Named)
    {branch : Branch} (hbranch : branch ∈ level.branches) {names : List String}
    (hnames : branch.sub.onlyOnTypes = some names) :
    ∃ name scope, planner.schema.entity? name = some scope ∧ names = planner.schema.concreteSubtypes name := by
  obtain ⟨room, options, cardinality, hlevel⟩ := h.planned
  obtain ⟨groups, hgroups, hbranches⟩ := branch_of_level hlevel
  obtain ⟨group, hgroup, _, _, htypes, _⟩ := hbranches branch hbranch
  obtain ⟨field, _, scope, _, hscope, _, _, _, _, hgroupTypes⟩ := field_of_group hgroups hgroup
  rw [htypes, hgroupTypes, typesOf] at hnames
  split at hnames
  · cases hnames
  · cases hnames
    exact ⟨scope.name, scope, stands_scopeOf hnamed (h.stands hnamed) hscope, rfl⟩

/-- A level of a plan is legible when its result keys and the type names of the schema are, and every type has a
concrete type at or below it. -/
theorem Draws.legible {decls : List EntityDecl} (hbuild : Schema.build decls = .ok planner.schema)
    (hnames : ∀ name entity, planner.schema.entity? name = some entity → LegibleType name)
    (hinhabited : ∀ name entity, planner.schema.entity? name = some entity → planner.schema.concreteSubtypes name ≠ [])
    (h : planner.Draws first entity selection level) (hkeys : ∀ branch ∈ level.allBranches, LegibleKey branch.resultKey) :
    level.Legible := by
  obtain ⟨table, hflat⟩ := Schema.flattens_of_build hbuild
  refine fun branch hbranch => ⟨hkeys branch hbranch, fun names honly => ?_⟩
  obtain ⟨_, _, _, hdraws, hmem⟩ := h.of_allBranches hbranch
  obtain ⟨name, scope, hscope, rfl⟩ := hdraws.onlyOnTypes hflat.named hmem honly
  refine ⟨hinhabited name scope hscope, fun inner hinner => ?_⟩
  obtain ⟨concrete, hconcrete, _⟩ := hflat.mem_concreteSubtypes.mp hinner
  exact hnames inner concrete hconcrete

theorem Draws.yields (h : planner.Draws first entity selection level) {branch : Branch}
    (hbranch : branch ∈ level.branches) : planner.Yields branch.sub := by
  obtain ⟨room, options, cardinality, hlevel⟩ := h.planned
  obtain ⟨groups, _, hbranches⟩ := branch_of_level hlevel
  obtain ⟨group, _, _, hrelationship, _, less, target, _, hfor⟩ := hbranches branch hbranch
  obtain ⟨inner, _, hquery⟩ := hfor.planned
  obtain ⟨_, authorization, hauthorization, hshape⟩ := shape_of_level hquery
  have hinner : branch.sub.query.options = inner := (head_of_level hquery).2.1
  rw [Yields, hrelationship]
  exact ⟨target, authorization, hfor.leads, hauthorization, hinner ▸ hshape⟩

/-- The parts of a legible level can be read. -/
theorem Draws.legibleParts (h : planner.Draws first entity selection level) (hlegible : level.Legible) :
    ∀ part ∈ level.parts, Level.LegiblePart part := by
  intro part hpart
  obtain ⟨room, options, cardinality, hlevel⟩ := h.planned
  have hnonempty := (shape_of_level hlevel).1 part.1 part.2 hpart
  obtain ⟨sub, hsub⟩ := List.exists_mem_of_ne_nil _ hnonempty
  obtain ⟨branch, hbranch, hkey, _⟩ := Level.mem_branchesOfParts_of_mem hsub hpart
  exact ⟨hkey ▸ (hlegible branch (Level.mem_allBranches hbranch)).key, hnonempty⟩

/-- The selection below a level of a plan is read off its bytes, whatever level of a plan it is compared with. -/
theorem Draws.parts_inj (h : planner.Draws first entity selection level)
    (h' : planner.Draws second entity' selection' level') (hlegible : level.Legible) (hlegible' : level'.Legible)
    (hclean : ∀ a ∈ level.allBranches, ∀ b ∈ level'.allBranches, a.sub.Clean b.sub) {s t : List UInt8}
    (hs : Level.Ends s) (ht : Level.Ends t) (heq : level.selectionBytes ++ s = level'.selectionBytes ++ t) :
    level.parts = level'.parts ∧ s = t := by
  induction level using Level.induct generalizing entity entity' selection selection' level' s t with
  | step level ih =>
    rw [Level.selectionBytes_eq, Level.selectionBytes_eq] at heq
    refine Level.bytesOfParts_inj (h.legibleParts hlegible) (h'.legibleParts hlegible')
      (fun part hpart part' hpart' a ha b hb => ?_) hs ht heq
    obtain ⟨branch, hbranch, _, rfl⟩ := Level.mem_branchesOfParts_of_mem ha hpart
    obtain ⟨branch', hbranch', _, rfl⟩ := Level.mem_branchesOfParts_of_mem hb hpart'
    obtain ⟨_, _, hdraws⟩ := h.of_branch hbranch
    obtain ⟨_, _, hdraws'⟩ := h'.of_branch hbranch'
    have hmem := Level.mem_allBranches hbranch
    have hmem' := Level.mem_allBranches hbranch'
    refine (h.yields hbranch).told (h'.yields hbranch') (hlegible branch hmem) (hlegible' branch' hmem')
      (hclean branch hmem branch' hmem') fun s t hs ht heq => ?_
    exact ih branch hbranch hdraws hdraws' (hlegible.below hbranch) (hlegible'.below hbranch')
      (fun x hx y hy => hclean x (Level.allBranches_subset hbranch hx) y (Level.allBranches_subset hbranch' hy)) hs ht
      heq

/-- Sub-queries of plans with the same cache key are for the same relationship and ask for the same of its nodes. -/
theorem Draws.query_of_cacheKey (h : planner.Draws first entity selection level)
    (h' : planner.Draws second entity' selection' level') {branch branch' : Branch} (hbranch : branch ∈ level.branches)
    (hbranch' : branch' ∈ level'.branches) (hlegible : branch.sub.query.Legible)
    (hlegible' : branch'.sub.query.Legible) (hsub : branch.sub.Clean branch'.sub)
    (hclean : branch.sub.query.Clean branch'.sub.query)
    (heq : CacheKey.ofQuery branch.sub.relationship branch.sub.query =
      CacheKey.ofQuery branch'.sub.relationship branch'.sub.query) :
    branch.sub.relationship = branch'.sub.relationship ∧ branch.sub.query = branch'.sub.query := by
  obtain ⟨hname, hoptions, hselection⟩ := CacheKey.mk.inj heq
  have hrelationship := hsub.relationship hname
  obtain ⟨_, _, hdraws⟩ := h.of_branch hbranch
  obtain ⟨_, _, hdraws'⟩ := h'.of_branch hbranch'
  have hbytes : branch.sub.query.selectionBytes ++ [] = branch'.sub.query.selectionBytes ++ [] := by
    rw [hclean.selection hselection]
  obtain ⟨hparts, _⟩ := hdraws.parts_inj hdraws' hlegible hlegible' hclean.subs .nil .nil hbytes
  exact ⟨hrelationship, (h.yields hbranch).query_eq (h'.yields hbranch') hrelationship (hsub.options hoptions) hparts⟩

/-- Legible levels of plans have the same parts when the fingerprints of their selections are the same and do not collide
by chance. -/
theorem Draws.parts_of_selectionKey (h : planner.Draws first entity selection level)
    (h' : planner.Draws second entity' selection' level') (hlegible : level.Legible) (hlegible' : level'.Legible)
    (hclean : level.Clean level') (heq : level.selectionKey = level'.selectionKey) : level.parts = level'.parts := by
  have hbytes : level.selectionBytes ++ [] = level'.selectionBytes ++ [] := by rw [hclean.selection heq]
  exact (h.parts_inj h' hlegible hlegible' hclean.subs .nil .nil hbytes).1

end

/-! ## The agents of rivals -/

/-- The agents of the rivals of writers. -/
def agentsOfRivals : Field := ⟨"rival", none, [], some "Writer", [.named "agent"]⟩

/-- The agent of a rival, and nothing below. -/
def agentOfRival : SubQuery Level :=
  ⟨Archive.agent, ⟨"Person", .single, .conjoin [.all, .all], some 1, .one, []⟩, none⟩

/-- The rival of a writer with the agent. -/
def rivalOfWriter : SubQuery Level :=
  ⟨Archive.rival, ⟨"Person", .single, .conjoin [.all, .all], some 1, .one, [("agent", [agentOfRival])]⟩, some ["Writer"]⟩

/-- The plan of a page of persons, with the agents of the rivals of writers. -/
def agentsPlan (options : Options) : Plan :=
  ⟨⟨"Person", options, .conjoin [options.filter, .all], options.rowLimit .many, .many, [("rival", [rivalOfWriter])]⟩,
    none⟩

theorem subs_of_agentsPlan {options : Options} {branch : Branch} (h : branch ∈ (agentsPlan options).root.allBranches) :
    (branch.resultKey = "rival" ∧ branch.sub = rivalOfWriter) ∨
      (branch.resultKey = "agent" ∧ branch.sub = agentOfRival) := by
  have hall : (agentsPlan options).root.allBranches = [⟨"rival", 0, rivalOfWriter⟩, ⟨"agent", 0, agentOfRival⟩] := rfl
  rw [hall] at h
  simp only [List.mem_cons, List.not_mem_nil, or_false] at h
  rcases h with rfl | rfl
  · exact .inl ⟨rfl, rfl⟩
  · exact .inr ⟨rfl, rfl⟩

/-- Both sub-queries have the same options, and the names of their relationships differ from the start. -/
theorem clean_of_agents {a b : SubQuery Level} (ha : a = rivalOfWriter ∨ a = agentOfRival)
    (hb : b = rivalOfWriter ∨ b = agentOfRival) : a.Clean b := by
  obtain ⟨rest, hrival⟩ : ∃ rest, rivalOfWriter.heading = 87 :: rest := ⟨_, rfl⟩
  obtain ⟨rest', hagent⟩ : ∃ rest, agentOfRival.heading = 80 :: rest := ⟨_, rfl⟩
  rcases ha with rfl | rfl <;> rcases hb with rfl | rfl
  · exact ⟨fun _ => rfl, fun _ => rfl, fun _ => rfl⟩
  · refine ⟨fun h => absurd h (by decide), fun _ => rfl, fun h => ?_⟩
    rw [hrival, hagent, List.cons_prefix_cons, List.cons_prefix_cons] at h
    rcases h with ⟨h, _⟩ | ⟨h, _⟩ <;> exact absurd h (by decide)
  · refine ⟨fun h => absurd h (by decide), fun _ => rfl, fun h => ?_⟩
    rw [hrival, hagent, List.cons_prefix_cons, List.cons_prefix_cons] at h
    rcases h with ⟨h, _⟩ | ⟨h, _⟩ <;> exact absurd h (by decide)
  · exact ⟨fun _ => rfl, fun _ => rfl, fun _ => rfl⟩

/-- Two pages of persons have the same parts, as their fingerprints say. -/
theorem Draws.parts_of_selectionKey_agents :
    archive.query "Person" [agentsOfRivals] .default = .ok (agentsPlan .default) ∧
    archive.query "Person" [agentsOfRivals] .single = .ok (agentsPlan .single) ∧
    (agentsPlan .default).root.Clean (agentsPlan .single).root ∧
    (agentsPlan .default).root.selectionKey = (agentsPlan .single).root.selectionKey ∧
    (agentsPlan .default).root.parts = (agentsPlan .single).root.parts := by
  have hquery : archive.query "Person" [agentsOfRivals] .default = .ok (agentsPlan .default) := rfl
  have hquery' : archive.query "Person" [agentsOfRivals] .single = .ok (agentsPlan .single) := rfl
  have hdraws : archive.Draws (agentsPlan .default) Archive.person [agentsOfRivals] (agentsPlan .default).root :=
    .query hquery rfl
  have hdraws' : archive.Draws (agentsPlan .single) Archive.person [agentsOfRivals] (agentsPlan .single).root :=
    .query hquery' rfl
  have hlegible : ∀ options, (agentsPlan options).root.Legible := by
    intro options branch hbranch
    rcases subs_of_agentsPlan hbranch with ⟨hkey, hsub⟩ | ⟨hkey, hsub⟩
    · refine ⟨hkey ▸ ⟨by decide, by decide⟩, fun names hnames => ?_⟩
      rw [hsub] at hnames
      cases hnames
      exact ⟨by decide, List.forall_mem_singleton.mpr ⟨by decide, by decide⟩⟩
    · refine ⟨hkey ▸ ⟨by decide, by decide⟩, fun names hnames => ?_⟩
      rw [hsub] at hnames
      cases hnames
  have hclean : (agentsPlan .default).root.Clean (agentsPlan .single).root :=
    ⟨fun _ => rfl, fun a ha b hb => clean_of_agents ((subs_of_agentsPlan ha).imp And.right And.right)
      ((subs_of_agentsPlan hb).imp And.right And.right)⟩
  have hkey : (agentsPlan .default).root.selectionKey = (agentsPlan .single).root.selectionKey := rfl
  exact ⟨hquery, hquery', hclean, hkey,
    Draws.parts_of_selectionKey hdraws hdraws' (hlegible _) (hlegible _) hclean hkey⟩

end Levels

end Planner

end GraphQuery
