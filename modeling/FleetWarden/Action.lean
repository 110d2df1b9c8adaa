/-!
# Actions

An action works on a state and may fail; what it did to the state before it failed stays done.
`bind_of_ok` and `bind_of_error` say how actions run one after the other; `bind_eq_ok_iff` and
`bind_eq_error_iff` take a run apart again.
-/

namespace FleetWarden

/-- An action on states `σ` with failures `ε` and answers `α`. -/
def Action (σ ε α : Type) := σ → Except ε α × σ

namespace Action
variable {σ τ ε α β : Type}

/-- Answers without touching the state. -/
def answer (a : α) : Action σ ε α := fun s => (.ok a, s)

/-- Fails without touching the state. -/
def fail (e : ε) : Action σ ε α := fun s => (.error e, s)

/-- Runs one action and, if it succeeds, the next one on the state it left. -/
def andThen (x : Action σ ε α) (f : α → Action σ ε β) : Action σ ε β := fun s =>
  match x s with
  | (.ok a, s') => f a s'
  | (.error e, s') => (.error e, s')

instance : Monad (Action σ ε) where
  pure := answer
  bind := andThen

/-- Answers with a view of the state. -/
def look (f : σ → α) : Action σ ε α := fun s => (.ok (f s), s)

/-- Changes the state. -/
def change (f : σ → σ) : Action σ ε Unit := fun s => (.ok (), f s)

/-- Answers with a result that was computed before. -/
def ofExcept : Except ε α → Action σ ε α
  | .ok a => answer a
  | .error e => fail e

/-- Runs an action; if it fails, runs another on the failure, and then fails as before. -/
def onFailure (x : Action σ ε α) (f : ε → Action σ ε Unit) : Action σ ε α := fun s =>
  match x s with
  | (.ok a, s') => (.ok a, s')
  | (.error e, s') => (.error e, (f e s').2)

/-- Runs an action; if it fails, goes on with another one in its place. -/
def recover (x : Action σ ε α) (f : ε → Action σ ε α) : Action σ ε α := fun s =>
  match x s with
  | (.ok a, s') => (.ok a, s')
  | (.error e, s') => f e s'

/-- Runs an action, with its failures passed on in another form. -/
def mapError {ε' : Type} (f : ε → ε') (x : Action σ ε α) : Action σ ε' α := fun s =>
  ((x s).1.mapError f, (x s).2)

/-- Runs an action on a part of a larger state. -/
def within (get : τ → σ) (set : τ → σ → τ) (x : Action σ ε α) : Action τ ε α := fun t =>
  ((x (get t)).1, set t (x (get t)).2)

@[simp] theorem pure_apply (a : α) (s : σ) : (pure a : Action σ ε α) s = (.ok a, s) := rfl

@[simp] theorem fail_apply (e : ε) (s : σ) : (fail e : Action σ ε α) s = (.error e, s) := rfl

@[simp] theorem look_apply (f : σ → α) (s : σ) : (look f : Action σ ε α) s = (.ok (f s), s) := rfl

@[simp] theorem change_apply (f : σ → σ) (s : σ) :
    (change f : Action σ ε Unit) s = (.ok (), f s) := rfl

theorem bind_of_ok {x : Action σ ε α} {f : α → Action σ ε β} {s s' : σ} {a : α}
    (h : x s = (.ok a, s')) : (x >>= f) s = f a s' := by
  change andThen x f s = _
  simp [andThen, h]

theorem bind_of_error {x : Action σ ε α} {f : α → Action σ ε β} {s s' : σ} {e : ε}
    (h : x s = (.error e, s')) : (x >>= f) s = (.error e, s') := by
  change andThen x f s = _
  simp [andThen, h]

instance : LawfulMonad (Action σ ε) := by
  refine LawfulMonad.mk' _ (fun x => ?_) (fun _ _ => rfl) (fun x f g => ?_)
  · funext s
    change andThen x _ s = _
    rcases h : x s with ⟨e | a, s'⟩ <;> simp [andThen, h, answer]
  · funext s
    change andThen (andThen x f) g s = andThen x (fun a => andThen (f a) g) s
    rcases h : x s with ⟨e | a, s'⟩ <;> simp [andThen, h]

theorem bind_eq_ok_iff {x : Action σ ε α} {f : α → Action σ ε β} {s t : σ} {b : β} :
    (x >>= f) s = (.ok b, t) ↔ ∃ a s', x s = (.ok a, s') ∧ f a s' = (.ok b, t) := by
  constructor
  · intro h
    rcases hx : x s with ⟨e | a, s'⟩
    · rw [bind_of_error hx] at h
      cases h
    · exact ⟨a, s', rfl, by rwa [bind_of_ok hx] at h⟩
  · rintro ⟨a, s', hx, hf⟩
    rw [bind_of_ok hx, hf]

theorem bind_eq_error_iff {x : Action σ ε α} {f : α → Action σ ε β} {s t : σ} {e : ε} :
    (x >>= f) s = (.error e, t) ↔
      x s = (.error e, t) ∨ ∃ a s', x s = (.ok a, s') ∧ f a s' = (.error e, t) := by
  constructor
  · intro h
    rcases hx : x s with ⟨e' | a, s'⟩
    · rw [bind_of_error hx] at h
      cases h
      exact Or.inl rfl
    · exact Or.inr ⟨a, s', rfl, by rwa [bind_of_ok hx] at h⟩
  · rintro (hx | ⟨a, s', hx, hf⟩)
    · rw [bind_of_error hx]
    · rw [bind_of_ok hx, hf]

theorem onFailure_eq_ok_iff {x : Action σ ε α} {f : ε → Action σ ε Unit} {s t : σ} {a : α} :
    x.onFailure f s = (.ok a, t) ↔ x s = (.ok a, t) := by
  rcases hx : x s with ⟨e | b, s'⟩ <;> simp [onFailure, hx]

theorem onFailure_eq_error_iff {x : Action σ ε α} {f : ε → Action σ ε Unit} {s t : σ} {e : ε} :
    x.onFailure f s = (.error e, t) ↔ ∃ s', x s = (.error e, s') ∧ t = (f e s').2 := by
  rcases hx : x s with ⟨e' | b, s'⟩
  · simp only [onFailure, hx, Prod.mk.injEq, Except.error.injEq]
    constructor
    · rintro ⟨rfl, rfl⟩
      exact ⟨s', ⟨rfl, rfl⟩, rfl⟩
    · rintro ⟨_, ⟨rfl, rfl⟩, rfl⟩
      exact ⟨rfl, rfl⟩
  · simp [onFailure, hx]

theorem recover_of_ok {x : Action σ ε α} {f : ε → Action σ ε α} {s s' : σ} {a : α}
    (h : x s = (.ok a, s')) : x.recover f s = (.ok a, s') := by
  rw [recover, h]

theorem recover_of_error {x : Action σ ε α} {f : ε → Action σ ε α} {s s' : σ} {e : ε}
    (h : x s = (.error e, s')) : x.recover f s = f e s' := by
  rw [recover, h]

theorem recover_bind_of_ok {x : Action σ ε α} {f : α → Action σ ε β} {g : ε → Action σ ε β}
    {s s' : σ} {a : α} (h : x s = (.ok a, s')) :
    (x >>= f).recover g s = (f a).recover g s' := by
  rw [recover, recover, bind_of_ok h]

end Action
end FleetWarden
