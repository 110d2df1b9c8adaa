import FleetWarden.Action

/-!
# Two runs side by side

Two results are the same up to a relation if they are the same failure, or answers that are
related. Two actions end alike if, begun in states that are alike, they have such results and leave
states that are alike again. Actions that are put together from actions that end alike end alike
too.
-/

namespace FleetWarden

/-- Both results are the same failure, or answers that are related. -/
inductive SameUpTo {ε α β : Type} (V : α → β → Prop) : Except ε α → Except ε β → Prop
  | ok {a : α} {b : β} (h : V a b) : SameUpTo V (.ok a) (.ok b)
  | error (e : ε) : SameUpTo V (.error e) (.error e)

namespace SameUpTo
variable {ε α β γ δ : Type} {V : α → β → Prop} {W : γ → δ → Prop} {x : Except ε α} {y : Except ε β}

theorem of_eq {x y : Except ε α} (h : x = y) : SameUpTo (· = ·) x y := by
  subst h
  cases x with
  | error e => exact .error e
  | ok a => exact .ok rfl

theorem bind {f : α → Except ε γ} {g : β → Except ε δ} (h : SameUpTo V x y)
    (hf : ∀ a b, V a b → SameUpTo W (f a) (g b)) : SameUpTo W (x >>= f) (y >>= g) := by
  cases h with
  | ok h => exact hf _ _ h
  | error e => exact .error e

/-- Results are the same up to what a function forgets if their images are the same. -/
theorem of_map_eq {f : α → γ} {g : β → γ} (h : x.map f = y.map g) :
    SameUpTo (fun a b => f a = g b) x y := by
  cases x with
  | error e =>
      cases y with
      | error e' =>
          cases h
          exact .error e
      | ok b => cases h
  | ok a =>
      cases y with
      | error e => cases h
      | ok b => exact .ok (Except.ok.inj h)

end SameUpTo

namespace Action
variable {σ ε α β γ δ : Type} {R : σ → σ → Prop} {V : α → β → Prop} {W : γ → δ → Prop}

/-- Begun in states that are alike, the actions have results that are the same up to a relation, and
leave states that are alike. -/
def EndAlike (R : σ → σ → Prop) (V : α → β → Prop) (x : Action σ ε α) (y : Action σ ε β) : Prop :=
  ∀ s t, R s t → SameUpTo V (x s).1 (y t).1 ∧ R (x s).2 (y t).2

theorem endAlike_pure {a : α} {b : β} (h : V a b) :
    EndAlike R V (pure a : Action σ ε α) (pure b) := fun _ _ hR => ⟨.ok h, hR⟩

theorem endAlike_fail (e : ε) : EndAlike R V (fail e : Action σ ε α) (fail e : Action σ ε β) :=
  fun _ _ hR => ⟨.error e, hR⟩

theorem endAlike_ofExcept {x : Except ε α} {y : Except ε β} (h : SameUpTo V x y) :
    EndAlike R V (ofExcept x : Action σ ε α) (ofExcept y) := by
  cases h with
  | ok h => exact endAlike_pure h
  | error e => exact endAlike_fail e

theorem endAlike_change {f g : σ → σ} (h : ∀ s t, R s t → R (f s) (g t)) :
    EndAlike R (· = ·) (change f : Action σ ε Unit) (change g) := fun s t hR => ⟨.ok rfl, h s t hR⟩

theorem EndAlike.bind {x : Action σ ε α} {y : Action σ ε β} {f : α → Action σ ε γ}
    {g : β → Action σ ε δ} (h : EndAlike R V x y) (hf : ∀ a b, V a b → EndAlike R W (f a) (g b)) :
    EndAlike R W (x >>= f) (y >>= g) := by
  intro s t hR
  obtain ⟨hx, hR'⟩ := h s t hR
  rcases hs : x s with ⟨e | a, s'⟩ <;> rcases ht : y t with ⟨e' | b, t'⟩ <;>
    rw [hs, ht] at hx hR'
  · cases hx
    rw [bind_of_error hs, bind_of_error ht]
    exact ⟨.error e, hR'⟩
  · cases hx
  · cases hx
  · rw [bind_of_ok hs, bind_of_ok ht]
    cases hx with
    | ok hV => exact hf a b hV s' t' hR'

/-- The same action on both sides, as far as its results are concerned. -/
theorem EndAlike.then {x y : Action σ ε α} {f g : α → Action σ ε γ} {W : γ → γ → Prop}
    (h : EndAlike R (· = ·) x y) (hf : ∀ a, EndAlike R W (f a) (g a)) :
    EndAlike R W (x >>= f) (y >>= g) := by
  refine h.bind fun a b hab => ?_
  subst hab
  exact hf a

end Action
end FleetWarden
