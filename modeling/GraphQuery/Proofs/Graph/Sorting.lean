import GraphQuery.Graph.Run
import GraphQuery.Proofs.Value.Order
import Mathlib.Data.List.Forall2

/-!
# Sorted rows

`sortBy` puts the members of a list in the order of a strict linear order (`sortBy_perm`, `pairwise_sortBy`), and there
is only one way to do so (`eq_sortBy`). Lists of values that have the same kind at the same place are compared by the
first difference; `compareKeys` is a linear order on them (`compareKeys_eq_iff`, `compareKeys_swap`,
`compareKeys_lt_trans`), and turning all directions round turns the order round (`compareKeys_reverse`).

`Block.page_eq` puts both together: the page of a block is the front or the back of the rows in the requested order.
-/

namespace GraphQuery

/-! ## Sorting by a linear order -/

section Sorting

variable {α : Type} {less : α → α → Bool}

/-- A strict linear order on the members of a list. -/
structure Linear (less : α → α → Bool) (xs : List α) : Prop where
  asymm : ∀ a ∈ xs, ∀ b ∈ xs, less a b = true → less b a = false
  trans : ∀ a ∈ xs, ∀ b ∈ xs, ∀ c ∈ xs, less a b = true → less b c = true → less a c = true
  total : ∀ a ∈ xs, ∀ b ∈ xs, a ≠ b → less a b = true ∨ less b a = true

theorem Linear.of_subset {xs ys : List α} (h : Linear less xs) (hsub : ∀ y ∈ ys, y ∈ xs) : Linear less ys where
  asymm a ha b hb := h.asymm a (hsub a ha) b (hsub b hb)
  trans a ha b hb c hc := h.trans a (hsub a ha) b (hsub b hb) c (hsub c hc)
  total a ha b hb := h.total a (hsub a ha) b (hsub b hb)

theorem insertDescending_perm (x : α) : ∀ xs : List α, (insertDescending less x xs).Perm (x :: xs)
  | [] => .refl _
  | y :: rest => by
    unfold insertDescending
    split
    · exact ((insertDescending_perm x rest).cons y).trans (.swap x y rest)
    · exact .refl _

theorem foldl_insertDescending_perm : ∀ xs acc : List α,
    (xs.foldl (fun sorted x => insertDescending less x sorted) acc).Perm (xs ++ acc)
  | [], acc => .refl _
  | x :: xs, acc => by
    rw [List.foldl_cons, List.cons_append]
    exact (foldl_insertDescending_perm xs _).trans
      (((insertDescending_perm x acc).append_left xs).trans List.perm_middle)

/-- Sorting neither adds an element nor loses one. -/
theorem sortBy_perm (less : α → α → Bool) (xs : List α) : (sortBy less xs).Perm xs :=
  (List.reverse_perm _).trans (by simpa using foldl_insertDescending_perm xs [])

@[simp] theorem mem_sortBy {x : α} {xs : List α} : x ∈ sortBy less xs ↔ x ∈ xs := (sortBy_perm less xs).mem_iff

/-- Insertion keeps a descending list descending. -/
theorem pairwise_insertDescending {x : α} : ∀ {xs : List α}, Linear less (x :: xs) → x ∉ xs →
    xs.Pairwise (fun a b => less b a = true) → (insertDescending less x xs).Pairwise (fun a b => less b a = true)
  | [], _, _, _ => List.pairwise_singleton _ _
  | y :: rest, hlin, hx, hp => by
    obtain ⟨hy, hrest⟩ := List.pairwise_cons.mp hp
    unfold insertDescending
    split
    · rename_i hxy
      refine List.pairwise_cons.mpr ⟨fun z hz => ?_, ?_⟩
      · rcases List.mem_cons.mp ((insertDescending_perm x rest).mem_iff.mp hz) with rfl | hz
        · exact hxy
        · exact hy z hz
      · refine pairwise_insertDescending (hlin.of_subset fun z hz => ?_)
          (fun h => hx (List.mem_cons_of_mem y h)) hrest
        rcases List.mem_cons.mp hz with rfl | hz <;> simp [*]
    · rename_i hxy
      -- the new element is not less than the greatest one, hence greater than all
      have hne : x ≠ y := fun h => hx (h ▸ List.mem_cons_self)
      have hyx : less y x = true := by
        rcases hlin.total x (by simp) y (by simp) hne with h | h
        · exact absurd h hxy
        · exact h
      refine List.pairwise_cons.mpr ⟨fun z hz => ?_, hp⟩
      rcases List.mem_cons.mp hz with rfl | hz
      · exact hyx
      · exact hlin.trans z (by simp [hz]) y (by simp) x (by simp) (hy z hz) hyx

theorem pairwise_foldl_insertDescending : ∀ {xs acc : List α}, Linear less (xs ++ acc) → (xs ++ acc).Nodup →
    acc.Pairwise (fun a b => less b a = true) →
      (xs.foldl (fun sorted x => insertDescending less x sorted) acc).Pairwise (fun a b => less b a = true)
  | [], _, _, _, hp => hp
  | x :: xs, acc, hlin, hn, hp => by
    rw [List.foldl_cons]
    have hperm : (xs ++ insertDescending less x acc).Perm (x :: xs ++ acc) :=
      ((insertDescending_perm x acc).append_left xs).trans List.perm_middle
    have hx : x ∉ acc := fun h => (List.nodup_cons.mp hn).1 (List.mem_append_right xs h)
    refine pairwise_foldl_insertDescending (hlin.of_subset fun z hz => hperm.mem_iff.mp hz) (hperm.nodup_iff.mpr hn)
      (pairwise_insertDescending (hlin.of_subset fun z hz => ?_) hx hp)
    rcases List.mem_cons.mp hz with rfl | hz <;> simp [*]

/-- A sorted list ascends. -/
theorem pairwise_sortBy {xs : List α} (hlin : Linear less xs) (hn : xs.Nodup) :
    (sortBy less xs).Pairwise fun a b => less a b = true := by
  rw [sortBy, List.pairwise_reverse]
  exact pairwise_foldl_insertDescending (by simpa using hlin) (by simpa using hn) .nil

/-- There is one way to put distinct elements in order. -/
theorem eq_sortBy {xs ys : List α} (hlin : Linear less xs) (hn : xs.Nodup) (hperm : ys.Perm xs)
    (hp : ys.Pairwise fun a b => less a b = true) : ys = sortBy less xs := by
  refine List.Perm.eq_of_pairwise (fun a b ha _ hab hba => ?_) hp (pairwise_sortBy hlin hn)
    (hperm.trans (sortBy_perm less xs).symm)
  have hb : b ∈ xs := by simpa using ‹b ∈ sortBy less xs›
  have := hlin.asymm a (hperm.mem_iff.mp ha) b hb hab
  rw [hba] at this
  cases this

end Sorting

/-! ## Comparing lists of values -/

section Keys

namespace SortDirection

theorem compare_reverse (d : SortDirection) (a b : Value) : d.reverse.compare a b = d.compare b a := by
  cases d <;> rfl

variable {d : SortDirection} {kind : Value.Kind} {a b c : Value}

theorem compare_eq_iff (ha : Value.OfKind kind a) (hb : Value.OfKind kind b) : d.compare a b = .eq ↔ a = b := by
  cases d with
  | ascending => exact ha.compare_eq_iff hb
  | descending => exact (hb.compare_eq_iff ha).trans eq_comm

theorem compare_swap (ha : Value.OfKind kind a) (hb : Value.OfKind kind b) :
    d.compare b a = (d.compare a b).swap := by
  cases d with
  | ascending => exact ha.compare_swap hb
  | descending => exact hb.compare_swap ha

theorem compare_lt_trans (ha : Value.OfKind kind a) (hb : Value.OfKind kind b) (hc : Value.OfKind kind c)
    (hab : d.compare a b = .lt) (hbc : d.compare b c = .lt) : d.compare a c = .lt := by
  cases d with
  | ascending => exact ha.compare_lt_trans hb hc hab hbc
  | descending => exact hc.compare_lt_trans hb ha hbc hab

end SortDirection

theorem compareKeys_reverse : ∀ (ds : List SortDirection) (as bs : List Value),
    compareKeys (ds.map (·.reverse)) as bs = compareKeys ds bs as
  | [], [], [] | [], [], _ :: _ | [], _ :: _, [] | [], _ :: _, _ :: _ => rfl
  | _ :: _, [], [] | _ :: _, [], _ :: _ | _ :: _, _ :: _, [] => rfl
  | d :: ds, a :: as, b :: bs => by
    simp only [List.map_cons, compareKeys, SortDirection.compare_reverse, compareKeys_reverse ds as bs]

/-- Only equal lists compare equal. -/
theorem compareKeys_eq_iff : ∀ {ds : List SortDirection} {kinds : List Value.Kind} {as bs : List Value},
    ds.length = kinds.length → List.Forall₂ Value.OfKind kinds as → List.Forall₂ Value.OfKind kinds bs →
      (compareKeys ds as bs = .eq ↔ as = bs)
  | [], [], _, _, _, .nil, .nil => by simp [compareKeys]
  | _ :: _, _ :: _, _ :: _, _ :: _, hl, .cons ha has, .cons hb hbs => by
    have ih := compareKeys_eq_iff (Nat.succ.inj hl) has hbs
    rw [compareKeys, Ordering.then_eq_eq, SortDirection.compare_eq_iff ha hb, ih, List.cons.injEq]

theorem compareKeys_swap : ∀ {ds : List SortDirection} {kinds : List Value.Kind} {as bs : List Value},
    List.Forall₂ Value.OfKind kinds as → List.Forall₂ Value.OfKind kinds bs →
      compareKeys ds bs as = (compareKeys ds as bs).swap
  | [], _, _, _, _, _ => by simp [compareKeys]
  | _ :: _, [], _, _, .nil, .nil => rfl
  | d :: ds, _ :: _, _, _, .cons ha has, .cons hb hbs => by
    rw [compareKeys, compareKeys, SortDirection.compare_swap ha hb, compareKeys_swap has hbs, Ordering.swap_then]

theorem compareKeys_lt_trans : ∀ {ds : List SortDirection} {kinds : List Value.Kind} {as bs cs : List Value},
    List.Forall₂ Value.OfKind kinds as → List.Forall₂ Value.OfKind kinds bs → List.Forall₂ Value.OfKind kinds cs →
      compareKeys ds as bs = .lt → compareKeys ds bs cs = .lt → compareKeys ds as cs = .lt
  | [], _, _, _, _, _, _, _, hab, _ => by simp [compareKeys] at hab
  | _ :: _, [], _, _, _, .nil, .nil, .nil, hab, _ => by simp [compareKeys] at hab
  | d :: ds, _ :: _, _, _, _, .cons ha has, .cons hb hbs, .cons hc hcs, hab, hbc => by
    rw [compareKeys, Ordering.then_eq_lt] at hab hbc ⊢
    rcases hab with hab | ⟨hab, hab'⟩ <;> rcases hbc with hbc | ⟨hbc, hbc'⟩
    · exact .inl (SortDirection.compare_lt_trans ha hb hc hab hbc)
    · rw [SortDirection.compare_eq_iff hb hc] at hbc
      exact .inl (hbc ▸ hab)
    · rw [SortDirection.compare_eq_iff ha hb] at hab
      exact .inl (hab ▸ hbc)
    · rw [SortDirection.compare_eq_iff ha hb] at hab
      exact .inr ⟨hab ▸ hbc, compareKeys_lt_trans has hbs hcs hab' hbc'⟩

end Keys

/-! ## Pages of sorted rows -/

section Pages

variable {α : Type} {directions : List SortDirection} {kinds : List Value.Kind} {rows : List (α × List Value)}

/-- Whether a row comes before another. -/
def precedes (directions : List SortDirection) (a b : α × List Value) : Bool :=
  compareKeys directions a.2 b.2 = .lt

/-- The rows in the order of their values. -/
def ranked (directions : List SortDirection) (rows : List (α × List Value)) : List (α × List Value) :=
  sortBy (precedes directions) rows

/-- Rows that can be put in order: at every place of the directions the values are null or of one kind, and no two rows
have the same values. -/
structure Rankable (directions : List SortDirection) (kinds : List Value.Kind) (rows : List (α × List Value)) :
    Prop where
  length_eq : directions.length = kinds.length
  kinds : ∀ row ∈ rows, List.Forall₂ Value.OfKind kinds row.2
  distinct : ∀ a ∈ rows, ∀ b ∈ rows, a.2 = b.2 → a = b
  nodup : rows.Nodup

theorem precedes_reverse (a b : α × List Value) : precedes (directions.map (·.reverse)) a b = precedes directions b a := by
  rw [precedes, precedes, compareKeys_reverse]

namespace Rankable

theorem of_sublist {xs : List (α × List Value)} (h : Rankable directions kinds rows) (hsub : xs.Sublist rows) :
    Rankable directions kinds xs where
  length_eq := h.length_eq
  kinds row hrow := h.kinds row (hsub.subset hrow)
  distinct a ha b hb := h.distinct a (hsub.subset ha) b (hsub.subset hb)
  nodup := h.nodup.sublist hsub

theorem linear (h : Rankable directions kinds rows) : Linear (precedes directions) rows where
  asymm a ha b hb hab := by
    simp only [precedes, decide_eq_true_eq, decide_eq_false_iff_not] at hab ⊢
    rw [compareKeys_swap (h.kinds a ha) (h.kinds b hb), hab]
    exact nofun
  trans a ha b hb c hc hab hbc := by
    simp only [precedes, decide_eq_true_eq] at hab hbc ⊢
    exact compareKeys_lt_trans (h.kinds a ha) (h.kinds b hb) (h.kinds c hc) hab hbc
  total a ha b hb hne := by
    simp only [precedes, decide_eq_true_eq]
    have hswap : compareKeys directions b.2 a.2 = (compareKeys directions a.2 b.2).swap :=
      compareKeys_swap (h.kinds a ha) (h.kinds b hb)
    rw [hswap]
    cases hc : compareKeys directions a.2 b.2 with
    | lt => exact .inl rfl
    | gt => exact .inr rfl
    | eq => exact absurd (h.distinct a ha b hb ((compareKeys_eq_iff h.length_eq (h.kinds a ha) (h.kinds b hb)).mp hc)) hne

theorem pairwise_ranked (h : Rankable directions kinds rows) :
    (ranked directions rows).Pairwise fun a b => precedes directions a b = true :=
  pairwise_sortBy h.linear h.nodup

/-- Turning all directions round turns the order of the rows round. -/
theorem ranked_reverse (h : Rankable directions kinds rows) :
    ranked (directions.map (·.reverse)) rows = (ranked directions rows).reverse := by
  have hlin : Linear (precedes (directions.map (·.reverse))) rows := by
    refine ⟨fun a ha b hb => ?_, fun a ha b hb c hc => ?_, fun a ha b hb hne => ?_⟩ <;>
      simp only [precedes_reverse]
    · exact h.linear.asymm b hb a ha
    · exact fun hab hbc => h.linear.trans c hc b hb a ha hbc hab
    · exact h.linear.total b hb a ha (Ne.symm hne)
  symm
  refine eq_sortBy hlin h.nodup ((List.reverse_perm _).trans (sortBy_perm _ rows)) ?_
  rw [List.pairwise_reverse]
  simpa only [precedes_reverse] using h.pairwise_ranked

end Rankable

/-- The rows that a limit leaves, counted from the front or from the back. -/
def cutOff (limit : Option Nat) (reversed : Bool) (xs : List α) : List α :=
  match limit with
  | none => xs
  | some n => if reversed then xs.drop (xs.length - n) else xs.take n

namespace Block

variable {block : Block}

/-- The directions of the sort keys as requested. -/
def requested (block : Block) : List SortDirection := block.order.map (·.direction)

theorem directions_eq : block.directions =
    if block.reversed then block.requested.map (·.reverse) else block.requested := by
  cases h : block.reversed <;> simp [directions, requested, effectiveDirection, h]

/-- A page is the front or the back of the rows in the requested order. -/
theorem page_eq (h : Rankable block.requested kinds rows) :
    block.page rows = cutOff block.limit block.reversed (ranked block.requested rows) := by
  have hsorted : sortBy (fun a b => decide (compareKeys block.directions a.2 b.2 = .lt)) rows =
      if block.reversed then (ranked block.requested rows).reverse else ranked block.requested rows := by
    rw [directions_eq]
    cases block.reversed with
    | false => rfl
    | true => exact h.ranked_reverse
  unfold page cutOff
  rw [hsorted]
  cases block.reversed with
  | false => cases block.limit <;> rfl
  | true => cases block.limit <;> simp [List.take_reverse]

end Block

end Pages

end GraphQuery
