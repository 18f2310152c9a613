import GraphQuery.Cache.Basic
import Mathlib.Data.List.Forall2

/-!
# Runs over a state

A `Run` changes a state and may be refused. The lemmas of this module open runs that succeed: two steps
(`Run.bind_eq_ok`), an answer that is looked at (`Run.map_eq_ok`), and one step for every member of a list
(`Run.mapM_eq_ok`), which goes through the states one after the other (`Run.Steps`).

`Run.Follows` are runs that succeed from every state when others succeed from some state, with related answers;
`Run.Succeeds` are those that succeed from every state.
`Run.Keeps` are runs that keep a property of the state, whether they succeed or fail. `Run.Gives` are runs that end with
the same result from every state of a property, and keep it.
-/

namespace GraphQuery
namespace Run

variable {σ α β γ δ : Type}

theorem bind_eq_ok {x : Run σ α} {f : α → Run σ β} {s s' : σ} {b : β} :
    (x >>= f) s = .ok b s' ↔ ∃ a s₁, x s = .ok a s₁ ∧ f a s₁ = .ok b s' := by
  show EStateM.bind x f s = .ok b s' ↔ _
  unfold EStateM.bind
  cases x s with
  | ok a s₁ => simp
  | error e s₁ => simp

theorem pure_eq_ok {a b : α} {s s' : σ} : (pure a : Run σ α) s = .ok b s' ↔ a = b ∧ s = s' := by
  show EStateM.Result.ok a s = .ok b s' ↔ _
  simp

theorem map_eq_ok {x : Run σ α} {f : α → β} {s s' : σ} {b : β} :
    (f <$> x) s = .ok b s' ↔ ∃ a, x s = .ok a s' ∧ f a = b := by
  show EStateM.map f x s = .ok b s' ↔ _
  unfold EStateM.map
  cases x s with
  | ok a s₁ => simp [and_comm]
  | error e s₁ => simp

theorem modify_eq_ok {f : σ → σ} {s s' : σ} {u : PUnit} : (modify f : Run σ PUnit) s = .ok u s' ↔ f s = s' := by
  show EStateM.Result.ok _ _ = EStateM.Result.ok u s' ↔ _
  simp

theorem modifyGet_eq_ok {f : σ → α × σ} {s s' : σ} {a : α} :
    (modifyGet f : Run σ α) s = .ok a s' ↔ f s = (a, s') := by
  show EStateM.modifyGet f s = .ok a s' ↔ _
  unfold EStateM.modifyGet
  constructor
  · intro h
    cases h
    rfl
  · intro h
    rw [h]

theorem get_eq_ok {s s' a : σ} : (get : Run σ σ) s = .ok a s' ↔ a = s ∧ s' = s := by
  show EStateM.Result.ok s s = .ok a s' ↔ _
  simp [eq_comm]

theorem ofExcept_eq_ok {x : Result α} {s s' : σ} {a : α} :
    (MonadExcept.ofExcept x : Run σ α) s = .ok a s' ↔ x = .ok a ∧ s = s' := by
  cases x with
  | ok b =>
    show EStateM.Result.ok b s = .ok a s' ↔ _
    simp
  | error e =>
    show EStateM.Result.error e s = .ok a s' ↔ _
    simp

/-- A result that comes first, and what follows it. -/
theorem ofExcept_bind (x : Result α) (f : α → Run σ β) (s : σ) : ((MonadExcept.ofExcept x : Run σ α) >>= f) s =
    match x with
    | .ok a => f a s
    | .error e => .error e s := by
  cases x <;> rfl

/-! ## Runs over a list -/

/-- One step for every member of a list, each from the state that the step before left. -/
inductive Steps (f : α → Run σ β) : List α → σ → List β → σ → Prop
  | nil (s : σ) : Steps f [] s [] s
  | cons {x : α} {xs : List α} {y : β} {ys : List β} {s s₁ s₂ : σ} :
      f x s = .ok y s₁ → Steps f xs s₁ ys s₂ → Steps f (x :: xs) s (y :: ys) s₂

/-- A run that maps succeeds exactly when its steps do. -/
theorem mapM_eq_ok {f : α → Run σ β} : ∀ {xs : List α} {ys : List β} {s s' : σ},
    xs.mapM f s = .ok ys s' ↔ Steps f xs s ys s'
  | [], ys, s, s' => by
    rw [List.mapM_nil, pure_eq_ok]
    constructor
    · rintro ⟨rfl, rfl⟩
      exact .nil s
    · intro h
      cases h
      exact ⟨rfl, rfl⟩
  | x :: xs, ys, s, s' => by
    rw [List.mapM_cons, bind_eq_ok]
    constructor
    · rintro ⟨y, s₁, hy, h⟩
      obtain ⟨zs, s₂, hzs, h⟩ := bind_eq_ok.mp h
      obtain ⟨rfl, rfl⟩ := pure_eq_ok.mp h
      exact .cons hy (mapM_eq_ok.mp hzs)
    · intro h
      cases h with
      | cons hy hzs =>
        exact ⟨_, _, hy, bind_eq_ok.mpr ⟨_, _, mapM_eq_ok.mpr hzs, rfl⟩⟩

/-- Lists whose members agree in a part have the same list of parts. -/
theorem map_eq_map {f : α → γ} {g : β → γ} {xs : List α} {ys : List β}
    (h : List.Forall₂ (fun x y => f x = g y) xs ys) : xs.map f = ys.map g := by
  induction h with
  | nil => rfl
  | cons hxy _ ih => rw [List.map_cons, List.map_cons, hxy, ih]

/-- What every step ensures of its member and its answer. -/
theorem Steps.forall₂ {f : α → Run σ β} {R : α → β → Prop} (hR : ∀ x s y s', f x s = .ok y s' → R x y)
    {xs : List α} {ys : List β} {s s' : σ} (h : Steps f xs s ys s') : List.Forall₂ R xs ys := by
  induction h with
  | nil => exact .nil
  | cons hy _ ih => exact .cons (hR _ _ _ _ hy) ih

/-- Every answer is that of some step. -/
theorem Steps.member_of_mem {f : α → Run σ β} {xs : List α} {ys : List β} {s s' : σ} (h : Steps f xs s ys s') :
    ∀ y ∈ ys, ∃ x ∈ xs, ∃ s₁ s₂, f x s₁ = .ok y s₂ := by
  induction h with
  | nil => nofun
  | cons hy _ ih =>
    refine List.forall_mem_cons.mpr ⟨⟨_, List.mem_cons_self, _, _, hy⟩, fun y hmem => ?_⟩
    obtain ⟨x, hx, hstep⟩ := ih y hmem
    exact ⟨x, List.mem_cons_of_mem _ hx, hstep⟩

/-! ## Runs that follow others -/

/-- Whenever one run succeeds from some state, another succeeds from every state, with a related answer. -/
def Follows (R : α → β → Prop) (x : Run σ α) (y : Run σ β) : Prop :=
  ∀ s a s', x s = .ok a s' → ∀ t, ∃ b t', y t = .ok b t' ∧ R a b

theorem Follows.bind {R : α → β → Prop} {S : γ → δ → Prop} {x : Run σ α} {y : Run σ β} {f : α → Run σ γ}
    {g : β → Run σ δ} (h : Follows R x y) (hf : ∀ a b, R a b → Follows S (f a) (g b)) :
    Follows S (x >>= f) (y >>= g) := by
  intro s c s' hx t
  obtain ⟨a, s₁, ha, hc⟩ := bind_eq_ok.mp hx
  obtain ⟨b, t₁, hb, hab⟩ := h s a s₁ ha t
  obtain ⟨d, t', hd, hcd⟩ := hf a b hab s₁ c s' hc t₁
  exact ⟨d, t', bind_eq_ok.mpr ⟨b, t₁, hb, hd⟩, hcd⟩

theorem follows_pure {R : α → β → Prop} {a : α} {b : β} (h : R a b) :
    Follows R (pure a : Run σ α) (pure b : Run σ β) := by
  intro s a' s' ha t
  obtain ⟨rfl, rfl⟩ := pure_eq_ok.mp ha
  exact ⟨b, t, pure_eq_ok.mpr ⟨rfl, rfl⟩, h⟩

theorem follows_ofExcept (x : Result α) :
    Follows (fun a b => x = .ok a ∧ b = a) (MonadExcept.ofExcept x : Run σ α) (MonadExcept.ofExcept x) := by
  intro s a s' ha t
  obtain ⟨hx, rfl⟩ := ofExcept_eq_ok.mp ha
  exact ⟨a, t, ofExcept_eq_ok.mpr ⟨hx, rfl⟩, hx, rfl⟩

/-- A change of the state never fails. -/
theorem follows_modify (f g : σ → σ) :
    Follows (fun _ _ => True) (modify f : Run σ PUnit) (modify g : Run σ PUnit) :=
  fun _ _ _ _ t => ⟨.unit, g t, modify_eq_ok.mpr rfl, trivial⟩

theorem follows_modifyGet (x : Run σ α) (f : σ → β × σ) : Follows (fun _ _ => True) x (modifyGet f : Run σ β) :=
  fun _ _ _ _ t => ⟨(f t).1, (f t).2, modifyGet_eq_ok.mpr rfl, trivial⟩

theorem follows_get (x : Run σ α) : Follows (fun _ _ => True) x (get : Run σ σ) :=
  fun _ _ _ _ t => ⟨t, t, get_eq_ok.mpr ⟨rfl, rfl⟩, trivial⟩

theorem Follows.mapM {R : β → γ → Prop} {f : α → Run σ β} {g : α → Run σ γ} : ∀ {xs : List α},
    (∀ x ∈ xs, Follows R (f x) (g x)) → Follows (List.Forall₂ R) (xs.mapM f) (xs.mapM g)
  | [], _ => by
    rw [List.mapM_nil, List.mapM_nil]
    exact follows_pure .nil
  | x :: xs, h => by
    obtain ⟨hx, hxs⟩ := List.forall_mem_cons.mp h
    rw [List.mapM_cons, List.mapM_cons]
    exact hx.bind fun _ _ hfirst => (Follows.mapM hxs).bind fun _ _ hrest => follows_pure (.cons hfirst hrest)

/-! ## Runs that succeed -/

/-- A run that succeeds from every state. -/
def Succeeds (x : Run σ α) : Prop := ∀ s, ∃ a s', x s = .ok a s'

theorem succeeds_pure (a : α) : Succeeds (pure a : Run σ α) := fun s => ⟨a, s, rfl⟩

theorem succeeds_ofExcept_bind {a : α} {f : α → Run σ β} (h : Succeeds (f a)) :
    Succeeds ((MonadExcept.ofExcept (.ok a : Result α) : Run σ α) >>= f) := fun s => h s

theorem succeeds_modifyGet (f : σ → α × σ) : Succeeds (modifyGet f : Run σ α) := fun s => ⟨(f s).1, (f s).2, rfl⟩

theorem succeeds_get : Succeeds (get : Run σ σ) := fun s => ⟨s, s, rfl⟩

theorem Succeeds.bind {x : Run σ α} {f : α → Run σ β} (h : Succeeds x) (hf : ∀ a, Succeeds (f a)) :
    Succeeds (x >>= f) := by
  intro s
  obtain ⟨a, s₁, hx⟩ := h s
  obtain ⟨b, s', hfa⟩ := hf a s₁
  exact ⟨b, s', bind_eq_ok.mpr ⟨a, s₁, hx, hfa⟩⟩

theorem Succeeds.mapM {f : α → Run σ β} : ∀ {xs : List α}, (∀ x ∈ xs, Succeeds (f x)) → Succeeds (xs.mapM f)
  | [], _ => by
    rw [List.mapM_nil]
    exact succeeds_pure []
  | x :: xs, h => by
    obtain ⟨hx, hxs⟩ := List.forall_mem_cons.mp h
    rw [List.mapM_cons]
    exact hx.bind fun y => (Succeeds.mapM hxs).bind fun ys => succeeds_pure (y :: ys)

/-! ## Runs that keep a property of the state -/

/-- Whether a run succeeds or fails, it keeps a property of the state, and whatever it gives has another property. -/
def Keeps (I : σ → Prop) (P : α → Prop) (x : Run σ α) : Prop :=
  ∀ s, I s → (∀ a s', x s = .ok a s' → P a ∧ I s') ∧ ∀ e s', x s = .error e s' → I s'

section Keeps

variable {I : σ → Prop} {P : α → Prop} {Q : β → Prop} {x : Run σ α}

theorem Keeps.imp (h : Keeps I P x) {P' : α → Prop} (himp : ∀ a, P a → P' a) : Keeps I P' x := by
  intro s hs
  refine ⟨fun a s' hx => ?_, (h s hs).2⟩
  obtain ⟨ha, hs'⟩ := (h s hs).1 a s' hx
  exact ⟨himp a ha, hs'⟩

theorem keeps_pure {a : α} (h : P a) : Keeps I P (pure a : Run σ α) := by
  intro s hs
  refine ⟨fun b s' hx => ?_, fun e s' hx => ?_⟩
  · obtain ⟨rfl, rfl⟩ := pure_eq_ok.mp hx
    exact ⟨h, hs⟩
  · cases hx

theorem Keeps.bind {f : α → Run σ β} (h : Keeps I P x) (hf : ∀ a, P a → Keeps I Q (f a)) : Keeps I Q (x >>= f) := by
  intro s hs
  obtain ⟨hok, herror⟩ := h s hs
  have hbind : (x >>= f) s = EStateM.bind x f s := rfl
  rw [hbind, EStateM.bind]
  cases hx : x s with
  | ok a s₁ =>
    obtain ⟨ha, hs₁⟩ := hok a s₁ hx
    exact hf a ha s₁ hs₁
  | error e s₁ =>
    refine ⟨fun b s' h => ?_, fun e' s' h => ?_⟩
    · cases h
    · cases h
      exact herror e s₁ hx

theorem keeps_ofExcept (x : Result α) : Keeps I (fun a => x = .ok a) (MonadExcept.ofExcept x : Run σ α) := by
  intro s hs
  cases x with
  | ok a =>
    refine ⟨fun b s' h => ?_, fun e s' h => ?_⟩
    · obtain ⟨hb, rfl⟩ := ofExcept_eq_ok.mp h
      exact ⟨hb, hs⟩
    · cases h
  | error e =>
    refine ⟨fun b s' h => ?_, fun e' s' h => ?_⟩
    · cases h
    · cases h
      exact hs

/-- A refusal keeps what holds. -/
theorem keeps_throw (e : Error) : Keeps I P (throw e : Run σ α) := by
  intro s hs
  refine ⟨fun a s' h => ?_, fun e' s' h => ?_⟩
  · cases h
  · cases h
    exact hs

theorem keeps_modifyGet {f : σ → α × σ} (h : ∀ s, I s → P (f s).1 ∧ I (f s).2) :
    Keeps I P (modifyGet f : Run σ α) := by
  intro s hs
  refine ⟨fun a s' hx => ?_, fun e s' hx => ?_⟩
  · have hf := modifyGet_eq_ok.mp hx
    obtain ⟨ha, hs'⟩ := h s hs
    rw [hf] at ha hs'
    exact ⟨ha, hs'⟩
  · cases hx

theorem keeps_modify {f : σ → σ} (h : ∀ s, I s → I (f s)) : Keeps I (fun _ => True) (modify f : Run σ PUnit) :=
  keeps_modifyGet fun s hs => ⟨trivial, h s hs⟩

theorem keeps_get : Keeps I I (get : Run σ σ) := by
  intro s hs
  refine ⟨fun a s' hx => ?_, fun e s' hx => ?_⟩
  · obtain ⟨rfl, rfl⟩ := get_eq_ok.mp hx
    exact ⟨hs, hs⟩
  · cases hx

theorem Keeps.mapM {R : α → β → Prop} {f : α → Run σ β} : ∀ {xs : List α}, (∀ x ∈ xs, Keeps I (R x) (f x)) →
    Keeps I (fun ys => ∀ y ∈ ys, ∃ x ∈ xs, R x y) (xs.mapM f)
  | [], _ => by
    rw [List.mapM_nil]
    exact keeps_pure nofun
  | x :: xs, h => by
    obtain ⟨hx, hxs⟩ := List.forall_mem_cons.mp h
    rw [List.mapM_cons]
    refine hx.bind fun y hy => (Keeps.mapM hxs).bind fun ys hys => keeps_pure fun z hz => ?_
    rcases List.mem_cons.mp hz with rfl | hz
    · exact ⟨x, List.mem_cons_self, hy⟩
    · obtain ⟨w, hw, hwz⟩ := hys z hz
      exact ⟨w, List.mem_cons_of_mem x hw, hwz⟩

end Keeps

/-! ## Runs whose answer the state does not change -/

/-- A result beside a state. -/
def settle (s : σ) : Result α → EStateM.Result Error σ α
  | .ok a => .ok a s
  | .error e => .error e s

/-- From every state of a property a run ends with one result, a refusal or an answer, and it keeps the property. -/
def Gives (I : σ → Prop) (r : Result α) (x : Run σ α) : Prop := ∀ s, I s → ∃ s', x s = settle s' r ∧ I s'

section Gives

variable {I : σ → Prop} {r : Result α} {x : Run σ α}

theorem Gives.keeps (h : Gives I r x) : Keeps I (fun a => r = .ok a) x := by
  intro s hs
  obtain ⟨s₁, hx, hs₁⟩ := h s hs
  rw [hx]
  cases r with
  | ok a =>
    refine ⟨fun b s' hb => ?_, fun e s' he => ?_⟩
    · cases hb
      exact ⟨rfl, hs₁⟩
    · cases he
  | error e =>
    refine ⟨fun b s' hb => ?_, fun e' s' he => ?_⟩
    · cases hb
    · cases he
      exact hs₁

/-- A run that gives an answer succeeds with it from every state of the property. -/
theorem Gives.ok {a : α} (h : Gives I (.ok a) x) {s : σ} (hs : I s) : ∃ s', x s = .ok a s' ∧ I s' := h s hs

theorem gives_pure (a : α) : Gives I (.ok a) (pure a : Run σ α) := fun s hs => ⟨s, rfl, hs⟩

theorem gives_ofExcept (r : Result α) : Gives I r (MonadExcept.ofExcept r : Run σ α) := by
  intro s hs
  cases r with
  | ok a => exact ⟨s, rfl, hs⟩
  | error e => exact ⟨s, rfl, hs⟩

theorem Gives.bind {g : α → Result β} {f : α → Run σ β} (h : Gives I r x)
    (hf : ∀ a, r = .ok a → Gives I (g a) (f a)) : Gives I (r >>= g) (x >>= f) := by
  intro s hs
  obtain ⟨s₁, hx, hs₁⟩ := h s hs
  have hbind : (x >>= f) s = EStateM.bind x f s := rfl
  rw [hbind, EStateM.bind, hx]
  cases r with
  | ok a => exact hf a rfl s₁ hs₁
  | error e => exact ⟨s₁, rfl, hs₁⟩

/-- A change that keeps the property does not change the answer of what follows. -/
theorem Gives.modify_bind {f : σ → σ} {y : PUnit → Run σ α} (hf : ∀ s, I s → I (f s)) (hy : Gives I r (y .unit)) :
    Gives I r (modify f >>= y) :=
  fun s hs => hy (f s) (hf s hs)

/-- A run that goes on with the state gives what it gives from each state. -/
theorem Gives.get_bind {y : σ → Run σ α} (hy : ∀ s, I s → Gives I r (y s)) : Gives I r (get >>= y) :=
  fun s hs => hy s hs s hs

theorem gives_modifyGet {f : σ → α × σ} {a : α} (h : ∀ s, I s → (f s).1 = a ∧ I (f s).2) :
    Gives I (.ok a) (modifyGet f : Run σ α) := by
  intro s hs
  obtain ⟨ha, hs'⟩ := h s hs
  exact ⟨(f s).2, by rw [← ha]; rfl, hs'⟩

theorem Gives.mapM {g : α → Result β} {f : α → Run σ β} : ∀ {xs : List α}, (∀ x ∈ xs, Gives I (g x) (f x)) →
    Gives I (xs.mapM g) (xs.mapM f)
  | [], _ => by
    rw [List.mapM_nil, List.mapM_nil]
    exact gives_pure []
  | x :: xs, h => by
    obtain ⟨hx, hxs⟩ := List.forall_mem_cons.mp h
    rw [List.mapM_cons, List.mapM_cons]
    exact hx.bind fun y _ => (Gives.mapM hxs).bind fun ys _ => gives_pure (y :: ys)

end Gives

end Run
end GraphQuery
