import FleetWarden.Manager.System

/-!
# How actions fail

An action fails only in certain ways if every fault that it ever ends with meets a condition. An
action that is put together from actions that fail only in these ways fails only in these ways too.
-/

namespace FleetWarden
namespace Action
variable {σ ε α β : Type} {P : ε → Prop}

/-- Every failure of the action meets the condition. -/
def FailsWith (P : ε → Prop) (x : Action σ ε α) : Prop := ∀ ⦃s e t⦄, x s = (.error e, t) → P e

theorem FailsWith.mono {Q : ε → Prop} {x : Action σ ε α} (hx : FailsWith P x)
    (h : ∀ e, P e → Q e) : FailsWith Q x := by
  intro s e t hrun
  exact h e (hx hrun)

theorem failsWith_pure (a : α) : FailsWith P (pure a : Action σ ε α) := by
  intro s e t h
  cases h

theorem failsWith_fail {e : ε} (he : P e) : FailsWith P (fail e : Action σ ε α) := by
  intro s e' t h
  cases h
  exact he

theorem failsWith_look (f : σ → α) : FailsWith P (look f : Action σ ε α) := by
  intro s e t h
  cases h

theorem failsWith_change (f : σ → σ) : FailsWith P (change f : Action σ ε Unit) := by
  intro s e t h
  cases h

theorem failsWith_ofExcept {x : Except ε α} (hx : ∀ e, x = .error e → P e) :
    FailsWith P (ofExcept x : Action σ ε α) := by
  cases x with
  | ok a => exact failsWith_pure a
  | error e => exact failsWith_fail (hx e rfl)

/-- The second action need only be looked at for answers that the first one gives. -/
theorem FailsWith.bind_of_answers {x : Action σ ε α} {f : α → Action σ ε β} (hx : FailsWith P x)
    (hf : ∀ s a t, x s = (.ok a, t) → FailsWith P (f a)) : FailsWith P (x >>= f) := by
  intro s e t h
  rcases bind_eq_error_iff.1 h with h | ⟨a, s', ha, h⟩
  · exact hx h
  · exact hf s a s' ha h

theorem FailsWith.bind {x : Action σ ε α} {f : α → Action σ ε β} (hx : FailsWith P x)
    (hf : ∀ a, FailsWith P (f a)) : FailsWith P (x >>= f) :=
  hx.bind_of_answers fun _ a _ _ => hf a

theorem FailsWith.onFailure {x : Action σ ε α} {f : ε → Action σ ε Unit} (hx : FailsWith P x) :
    FailsWith P (x.onFailure f) := by
  intro s e t h
  obtain ⟨s', h, -⟩ := onFailure_eq_error_iff.1 h
  exact hx h

theorem FailsWith.lift {ρ : Type} {P : Fault → Prop} {x : Effect ρ α} (hx : FailsWith P x) :
    FailsWith P (Effect.lift x) := by
  intro s e t h
  have hfst : (Effect.lift x s).1 = .error e := congrArg Prod.fst h
  have hw : x s.world = (.error e, (x s.world).2) := Prod.ext hfst rfl
  exact hx hw

end Action
end FleetWarden
