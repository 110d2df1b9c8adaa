import FleetWarden.Action

/-!
# Actions on states with more in them

A state may hold more than an action needs to know. An action on the larger states projects to an
action on the smaller ones if both give the same result and go on agreeing on what they share. An
action that is put together from actions that project to others projects to what the others amount
to.
-/

namespace FleetWarden
namespace Action
variable {σ τ ε α β : Type} {f : σ → τ}

/-- The first action does on all states what the second one does on their images. -/
def Projects (f : σ → τ) (x : Action σ ε α) (y : Action τ ε α) : Prop :=
  ∀ s, y (f s) = ((x s).1, f (x s).2)

theorem Projects.exists_of_eq {x : Action σ ε α} {y : Action τ ε α} (h : Projects f x y) {s : σ}
    {t : τ} {o : Except ε α} (hy : y (f s) = (o, t)) : ∃ s', x s = (o, s') ∧ f s' = t := by
  obtain ⟨rfl, rfl⟩ := Prod.mk.inj (hy.symm.trans (h s))
  exact ⟨_, rfl, rfl⟩

theorem projects_pure (a : α) : Projects f (pure a : Action σ ε α) (pure a) := fun _ => rfl

theorem projects_fail (e : ε) : Projects f (fail e : Action σ ε α) (fail e) := fun _ => rfl

theorem projects_look {g : σ → α} {h : τ → α} (hf : ∀ s, h (f s) = g s) :
    Projects f (look g : Action σ ε α) (look h) := by
  intro s
  rw [look_apply, look_apply, hf]

theorem projects_change {g : σ → σ} {h : τ → τ} (hf : ∀ s, h (f s) = f (g s)) :
    Projects f (change g : Action σ ε Unit) (change h) := by
  intro s
  rw [change_apply, change_apply, hf]

theorem Projects.bind {x : Action σ ε α} {y : Action τ ε α} {k : α → Action σ ε β}
    {l : α → Action τ ε β} (hx : Projects f x y) (hk : ∀ a, Projects f (k a) (l a)) :
    Projects f (x >>= k) (y >>= l) := by
  intro s
  have hs := hx s
  rcases hr : x s with ⟨e | a, s'⟩ <;> rw [hr] at hs
  · rw [bind_of_error hr, bind_of_error hs]
  · rw [bind_of_ok hr, bind_of_ok hs]
    exact hk a s'

theorem Projects.onFailure {x : Action σ ε α} {y : Action τ ε α} {k : ε → Action σ ε Unit}
    {l : ε → Action τ ε Unit} (hx : Projects f x y) (hk : ∀ e, Projects f (k e) (l e)) :
    Projects f (x.onFailure k) (y.onFailure l) := by
  intro s
  have hs := hx s
  rcases hr : x s with ⟨e | a, s'⟩ <;> rw [hr] at hs
  · have he := hk e s'
    simp only [Action.onFailure, hr, hs, he]
  · simp only [Action.onFailure, hr, hs]

/-- Run on parts of larger states, actions project along any map of these that acts on the parts as
the given one does. -/
theorem Projects.within {σ' τ' : Type} {g : σ' → τ'} {get : σ' → σ} {set : σ' → σ → σ'}
    {get' : τ' → τ} {set' : τ' → τ → τ'} {x : Action σ ε α} {y : Action τ ε α}
    (h : Projects f x y) (hget : ∀ s, get' (g s) = f (get s))
    (hset : ∀ s a, set' (g s) (f a) = g (set s a)) :
    Projects g (x.within get set) (y.within get' set') := by
  intro s
  simp only [Action.within, hget, h (get s), hset]

end Action
end FleetWarden
