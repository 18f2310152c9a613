import GraphQuery.Error
import Mathlib.Data.List.Forall2

/-!
# Results of several steps

An operation that may be refused runs its steps in order and stops at the first refusal. The lemmas of this module
open such runs: a sequence of two steps (`Result.bind_eq_ok`) and runs over a list that map (`Result.mapM_eq_ok`),
filter (`Result.filterM_eq_ok`) or do both (`Result.filterMapM_eq_filterMap`).

`Result.Alike` relates two runs that are refused together, with one error, or succeed together with related results.
-/

namespace GraphQuery
namespace Result

variable {α β γ δ : Type}

/-! ## Two steps -/

theorem bind_eq_ok {x : Result α} {f : α → Result β} {b : β} :
    (x >>= f) = .ok b ↔ ∃ a, x = .ok a ∧ f a = .ok b := by
  cases x <;> simp [bind, Except.bind]

theorem bind_eq_error {x : Result α} {f : α → Result β} {e : Error} :
    (x >>= f) = .error e ↔ x = .error e ∨ ∃ a, x = .ok a ∧ f a = .error e := by
  cases x <;> simp [bind, Except.bind]

theorem map_eq_ok {x : Result α} {f : α → β} {b : β} : (f <$> x) = .ok b ↔ ∃ a, x = .ok a ∧ f a = b := by
  cases x <;> simp [Functor.map, Except.map]

@[simp] theorem ok_bind (a : α) (f : α → Result β) : (Except.ok a >>= f : Result β) = f a := rfl

@[simp] theorem error_bind (e : Error) (f : α → Result β) : (Except.error e >>= f : Result β) = .error e := rfl

@[simp] theorem pure_eq_ok (a : α) : (pure a : Result α) = .ok a := rfl

@[simp] theorem throw_eq_error (e : Error) : (throw e : Result α) = .error e := rfl

@[simp] theorem map_ok (f : α → β) (a : α) : (f <$> (Except.ok a : Result α)) = .ok (f a) := rfl

@[simp] theorem map_error (f : α → β) (e : Error) : (f <$> (Except.error e : Result α)) = .error e := rfl

/-! ## Runs over a list -/

/-- A run that maps succeeds exactly when every step does. -/
theorem mapM_eq_ok {f : α → Result β} : ∀ {xs : List α} {ys : List β},
    xs.mapM f = .ok ys ↔ List.Forall₂ (fun x y => f x = .ok y) xs ys
  | [], ys => by cases ys <;> simp
  | x :: xs, ys => by
    rw [List.mapM_cons, bind_eq_ok]
    constructor
    · rintro ⟨y, hy, h⟩
      obtain ⟨zs, hzs, h⟩ := bind_eq_ok.mp h
      cases h
      exact .cons hy (mapM_eq_ok.mp hzs)
    · intro h
      cases h with
      | cons hy hzs => exact ⟨_, hy, bind_eq_ok.mpr ⟨_, mapM_eq_ok.mpr hzs, rfl⟩⟩

/-- Every member has an answer. -/
theorem answer_of_mem_mapM {f : α → Result β} : ∀ {xs : List α} {ys : List β}, xs.mapM f = .ok ys →
    ∀ x ∈ xs, ∃ y ∈ ys, f x = .ok y
  | [], _, _, x, hx => by cases hx
  | first :: rest, ys, h, x, hx => by
    rw [List.mapM_cons] at h
    obtain ⟨y, hy, h⟩ := bind_eq_ok.mp h
    obtain ⟨zs, hzs, h⟩ := bind_eq_ok.mp h
    cases h
    rcases List.mem_cons.mp hx with rfl | hx
    · exact ⟨y, List.mem_cons_self, hy⟩
    · obtain ⟨z, hz, hxz⟩ := answer_of_mem_mapM hzs x hx
      exact ⟨z, List.mem_cons_of_mem y hz, hxz⟩

/-- Every answer belongs to a member. -/
theorem member_of_mem_mapM {f : α → Result β} : ∀ {xs : List α} {ys : List β}, xs.mapM f = .ok ys →
    ∀ y ∈ ys, ∃ x ∈ xs, f x = .ok y
  | [], ys, h, y, hy => by
    cases h
    cases hy
  | first :: rest, ys, h, y, hy => by
    rw [List.mapM_cons] at h
    obtain ⟨z, hz, h⟩ := bind_eq_ok.mp h
    obtain ⟨zs, hzs, h⟩ := bind_eq_ok.mp h
    cases h
    rcases List.mem_cons.mp hy with rfl | hy
    · exact ⟨first, List.mem_cons_self, hz⟩
    · obtain ⟨x, hx, hxy⟩ := member_of_mem_mapM hzs y hy
      exact ⟨x, List.mem_cons_of_mem first hx, hxy⟩

/-- A run whose steps all succeed does. -/
theorem mapM_total {f : α → Result β} : ∀ {xs : List α}, (∀ x ∈ xs, ∃ y, f x = .ok y) → ∃ ys, xs.mapM f = .ok ys
  | [], _ => ⟨[], rfl⟩
  | x :: xs, h => by
    obtain ⟨⟨y, hy⟩, hrest⟩ := List.forall_mem_cons.mp h
    obtain ⟨ys, hys⟩ := mapM_total hrest
    exact ⟨_, by rw [List.mapM_cons, hy, ok_bind, hys, ok_bind, pure_eq_ok]⟩

/-- A run that is refused is refused at one of its steps. -/
theorem mapM_eq_error {f : α → Result β} {e : Error} : ∀ {xs : List α}, xs.mapM f = .error e → ∃ x ∈ xs, f x = .error e
  | [], h => by cases h
  | x :: xs, h => by
    rw [List.mapM_cons] at h
    cases hx : f x with
    | error e' =>
      rw [hx] at h
      cases h
      exact ⟨x, List.mem_cons_self, hx⟩
    | ok y =>
      rw [hx, ok_bind] at h
      cases hrest : xs.mapM f with
      | error e' =>
        rw [hrest] at h
        cases h
        obtain ⟨x', hmem, hfails⟩ := mapM_eq_error hrest
        exact ⟨x', List.mem_cons_of_mem x hmem, hfails⟩
      | ok ys =>
        rw [hrest] at h
        cases h

/-- A run that only checks succeeds exactly when every check does. -/
theorem forM_eq_ok {f : α → Result PUnit} : ∀ {xs : List α}, xs.forM f = .ok () ↔ ∀ x ∈ xs, f x = .ok ()
  | [] => by simp [List.forM]
  | x :: xs => by
    have hcons : (x :: xs).forM f = (f x >>= fun _ => xs.forM f) := rfl
    rw [hcons, bind_eq_ok, List.forall_mem_cons, forM_eq_ok]
    constructor
    · rintro ⟨⟨⟩, hx, hxs⟩
      exact ⟨hx, hxs⟩
    · rintro ⟨hx, hxs⟩
      exact ⟨.unit, hx, hxs⟩

/-- A run that starts with a check passes it. -/
theorem guard_eq_ok {c : Prop} [Decidable c] {e : Error} {f : α → Result β} {x : Result β} {b : β} :
    (if c then throw e >>= f else x) = .ok b ↔ ¬ c ∧ x = .ok b := by
  split <;> simp_all

/-- Steps that agree on the members of a list give the same run. -/
theorem mapM_congr {f g : α → Result β} : ∀ {xs : List α}, (∀ x ∈ xs, f x = g x) → xs.mapM f = xs.mapM g
  | [], _ => rfl
  | x :: xs, h => by
    rw [List.mapM_cons, List.mapM_cons, h x List.mem_cons_self,
      mapM_congr fun y hy => h y (List.mem_cons_of_mem x hy)]

/-- A run whose steps all succeed is a map. -/
theorem mapM_eq_map {f : α → Result β} {g : α → β} : ∀ {xs : List α}, (∀ x ∈ xs, f x = .ok (g x)) →
    xs.mapM f = .ok (xs.map g)
  | [], _ => rfl
  | x :: xs, h => by
    rw [List.mapM_cons, h x List.mem_cons_self, mapM_eq_map fun y hy => h y (List.mem_cons_of_mem x hy)]
    rfl

/-- What is done to every answer of a run may be done in every step. -/
theorem map_mapM {f : α → Result β} {g : β → γ} : ∀ {xs : List α},
    List.map g <$> xs.mapM f = xs.mapM fun x => g <$> f x
  | [] => rfl
  | x :: xs => by
    have ih : List.map g <$> xs.mapM f = xs.mapM fun x => g <$> f x := map_mapM
    rw [List.mapM_cons, List.mapM_cons, ← ih]
    cases f x with
    | error e => rfl
    | ok y => cases xs.mapM f <;> rfl

/-- Whether a step succeeds with the answer true. -/
def isTrue : Result Bool → Bool
  | .ok b => b
  | .error _ => false

@[simp] theorem isTrue_eq_true {x : Result Bool} : isTrue x = true ↔ x = .ok true := by
  cases x <;> simp [isTrue]

theorem filterAuxM_eq {p : α → Result Bool} : ∀ (xs acc : List α),
    xs.filterAuxM p acc = (fun ys => ys.reverse ++ acc) <$> xs.filterM p
  | [], acc => by simp [List.filterM, List.filterAuxM]
  | x :: xs, acc => by
    simp only [List.filterM, List.filterAuxM]
    cases hp : p x with
    | error e => rfl
    | ok b =>
      simp only [ok_bind]
      rw [filterAuxM_eq xs (cond b (x :: acc) acc), filterAuxM_eq xs (cond b [x] [])]
      cases xs.filterM p with
      | error e => rfl
      | ok ys => cases b <;> simp

theorem filterM_cons {p : α → Result Bool} {x : α} {xs : List α} :
    (x :: xs).filterM p = (do let b ← p x; let ys ← xs.filterM p; return if b then x :: ys else ys) := by
  rw [List.filterM, List.filterAuxM]
  cases hp : p x with
  | error e => rfl
  | ok b =>
    simp only [ok_bind]
    rw [filterAuxM_eq]
    cases xs.filterM p with
    | error e => rfl
    | ok ys => cases b <;> simp

/-- A run that filters answers every question, and keeps the members for which the answer is true. -/
theorem filterM_eq_ok {p : α → Result Bool} : ∀ {xs ys : List α}, xs.filterM p = .ok ys →
    (∀ x ∈ xs, ∃ b, p x = .ok b) ∧ ys = xs.filter fun x => isTrue (p x)
  | [], ys, h => by cases h; simp
  | x :: xs, ys, h => by
    rw [filterM_cons] at h
    obtain ⟨b, hb, h⟩ := bind_eq_ok.mp h
    obtain ⟨zs, hzs, h⟩ := bind_eq_ok.mp h
    obtain ⟨hall, rfl⟩ := filterM_eq_ok hzs
    cases h
    refine ⟨fun y hy => ?_, ?_⟩
    · rcases List.mem_cons.mp hy with rfl | hy
      · exact ⟨b, hb⟩
      · exact hall y hy
    · cases b <;> simp [hb, isTrue]

theorem filterM_congr {p q : α → Result Bool} : ∀ {xs : List α}, (∀ x ∈ xs, p x = q x) → xs.filterM p = xs.filterM q
  | [], _ => rfl
  | x :: xs, h => by
    rw [filterM_cons, filterM_cons, h x List.mem_cons_self,
      filterM_congr fun y hy => h y (List.mem_cons_of_mem x hy)]

/-- A run that filters and maps, when every step succeeds. -/
theorem filterMapM_eq_filterMap {f : α → Result (Option β)} {g : α → Option β} : ∀ {xs : List α},
    (∀ x ∈ xs, f x = .ok (g x)) → xs.filterMapM f = .ok (xs.filterMap g)
  | [], _ => rfl
  | x :: xs, h => by
    have hrest := filterMapM_eq_filterMap fun y hy => h y (List.mem_cons_of_mem x hy)
    rw [List.filterMapM_cons, h x List.mem_cons_self, ok_bind]
    cases hg : g x with
    | none => rw [hrest, List.filterMap_cons_none hg]
    | some b => rw [hrest, List.filterMap_cons_some hg]; rfl

/-- A run that filters and maps takes every step. -/
theorem forall_of_filterMapM {f : α → Result (Option β)} : ∀ {xs : List α} {ys : List β}, xs.filterMapM f = .ok ys →
    ∀ x ∈ xs, ∃ b, f x = .ok b
  | [], _, _, _, hx => nomatch hx
  | x :: xs, ys, h, y, hy => by
    rw [List.filterMapM_cons] at h
    obtain ⟨b, hb, h⟩ := bind_eq_ok.mp h
    have hrest : ∃ zs, xs.filterMapM f = .ok zs := by
      cases b with
      | none => exact ⟨ys, h⟩
      | some b =>
        obtain ⟨zs, hzs, _⟩ := bind_eq_ok.mp h
        exact ⟨zs, hzs⟩
    obtain ⟨zs, hzs⟩ := hrest
    rcases List.mem_cons.mp hy with rfl | hy
    · exact ⟨b, hb⟩
    · exact forall_of_filterMapM hzs y hy

/-- What every step of a fold keeps holds in the end. -/
theorem foldlM_induct {f : β → α → Result β} {P : β → Prop} : ∀ {xs : List α} {b c : β}, xs.foldlM f b = .ok c → P b →
    (∀ b a c, a ∈ xs → P b → f b a = .ok c → P c) → P c
  | [], b, c, h, hb, _ => by
    cases h
    exact hb
  | x :: xs, b, c, h, hb, hstep => by
    rw [List.foldlM_cons] at h
    obtain ⟨d, hd, h⟩ := bind_eq_ok.mp h
    exact foldlM_induct h (hstep b x d List.mem_cons_self hb hd)
      fun b a c ha => hstep b a c (List.mem_cons_of_mem x ha)

/-! ## Runs that go alike -/

/-- Two runs that are refused with the same error, or succeed with related results. -/
inductive Alike (R : α → β → Prop) : Result α → Result β → Prop
  | ok {a : α} {b : β} : R a b → Alike R (.ok a) (.ok b)
  | error (e : Error) : Alike R (.error e) (.error e)

namespace Alike

variable {R : α → β → Prop} {S : γ → δ → Prop}

theorem bind {x : Result α} {y : Result β} {f : α → Result γ} {g : β → Result δ} (h : Alike R x y)
    (hfg : ∀ a b, R a b → Alike S (f a) (g b)) : Alike S (x >>= f) (y >>= g) := by
  cases h with
  | ok hab => exact hfg _ _ hab
  | error e => exact .error e

theorem imp {R' : α → β → Prop} {x : Result α} {y : Result β} (h : Alike R x y)
    (himp : ∀ a b, x = .ok a → y = .ok b → R a b → R' a b) : Alike R' x y := by
  cases h with
  | ok hab => exact .ok (himp _ _ rfl rfl hab)
  | error e => exact .error e

end Alike

end Result
end GraphQuery
