import FleetWarden.Manager.Operations

/-!
# Invariants of actions

An action keeps a condition if the state that it leaves meets it whenever the state before did,
whether the action succeeds or fails. An action that is put together from actions that keep a
condition keeps it too. Of the operations of a manager, those that make no rebuild keep what does
not look at the world, and the others keep what does not look at a rebuild's results either.
-/

namespace FleetWarden
namespace Action
variable {σ ε α β : Type} {I : σ → Prop}

/-- The condition holds after the action if it held before, whatever comes of the action. -/
def Keeps (I : σ → Prop) (x : Action σ ε α) : Prop := ∀ s, I s → I (x s).2

theorem Keeps.of_eq {x : Action σ ε α} {s t : σ} {o : Except ε α} (hx : Keeps I x) (hs : I s)
    (h : x s = (o, t)) : I t := by
  have ht := hx s hs
  rwa [h] at ht

theorem keeps_pure (a : α) : Keeps I (pure a : Action σ ε α) := fun _ h => h

theorem keeps_fail (e : ε) : Keeps I (fail e : Action σ ε α) := fun _ h => h

theorem keeps_look (f : σ → α) : Keeps I (look f : Action σ ε α) := fun _ h => h

theorem keeps_change {f : σ → σ} (hf : ∀ s, I s → I (f s)) :
    Keeps I (change f : Action σ ε Unit) := hf

theorem keeps_ofExcept (x : Except ε α) : Keeps I (ofExcept x : Action σ ε α) := by
  cases x with
  | ok a => exact keeps_pure a
  | error e => exact keeps_fail e

theorem Keeps.bind {x : Action σ ε α} {f : α → Action σ ε β} (hx : Keeps I x)
    (hf : ∀ a, Keeps I (f a)) : Keeps I (x >>= f) := by
  intro s h
  have hs := hx s h
  rcases hr : x s with ⟨e | a, s'⟩ <;> rw [hr] at hs
  · rw [bind_of_error hr]
    exact hs
  · rw [bind_of_ok hr]
    exact hf a s' hs

theorem Keeps.onFailure {x : Action σ ε α} {f : ε → Action σ ε Unit} (hx : Keeps I x)
    (hf : ∀ e, Keeps I (f e)) : Keeps I (x.onFailure f) := by
  intro s h
  have hs := hx s h
  rcases hr : x s with ⟨e | a, s'⟩ <;> rw [hr] at hs
  · simpa only [Action.onFailure, hr] using hf e s' hs
  · simpa only [Action.onFailure, hr] using hs

/-- What is done to the world keeps every condition that does not look at it. -/
theorem keeps_lift {ρ : Type} {I : System ρ → Prop} (hI : ∀ s w, I s → I { s with world := w })
    (x : Effect ρ α) : Keeps I (Effect.lift x) := fun s h => hI s _ h

end Action

namespace Manager
variable {ρ : Type} {client : Client ρ} {I : System ρ → Prop}

section World
variable (hI : ∀ s w, I s → I { s with world := w })
include hI

theorem keeps_report (e : Event) : Action.Keeps I (report e) :=
  Action.keeps_change fun s h => hI s _ h

theorem keeps_reportSizes (sizes : List Value) (e : Event) :
    Action.Keeps I (reportSizes sizes e) := by
  unfold reportSizes
  split
  · exact keeps_report hI e
  · exact Action.keeps_fail _

theorem keeps_setSize (fleet : Fleet) (target : Int) :
    Action.Keeps I (setSize client fleet target) :=
  (Action.keeps_lift hI _).bind fun _ =>
    (keeps_reportSizes hI _ _).bind fun _ => Action.keeps_lift hI _

theorem keeps_getSize (fleet : Fleet) : Action.Keeps I (getSize client fleet) :=
  (keeps_report hI _).bind fun _ => (Action.keeps_lift hI _).bind fun _ =>
    (keeps_reportSizes hI _ _).bind fun _ => Action.keeps_pure _

theorem keeps_fleetInstances (fleet : Fleet) : Action.Keeps I (fleetInstances client fleet) :=
  ((Action.keeps_lift hI _).onFailure fun _ => keeps_report hI _).bind fun _ =>
    Action.keeps_ofExcept _

section Commit
variable (hc : ∀ s snapshot names, I s → I (s.commit snapshot names))
include hc

theorem keeps_rebuild : Action.Keeps I (rebuild client) :=
  (Action.keeps_look _).bind fun _ => (Action.keeps_look _).bind fun _ =>
    (Action.keeps_lift hI _).bind fun _ =>
      (Action.keeps_change fun s h => hc s _ _ h).bind fun _ =>
        (Action.keeps_look _).bind fun _ => keeps_report hI _

theorem keeps_refresh : Action.Keeps I (refresh client) :=
  (keeps_rebuild hI hc).bind fun _ => Action.keeps_look _

theorem keeps_findOwner (ref : InstanceRef) : Action.Keeps I (findOwner client ref) := by
  refine (keeps_report hI _).bind fun _ => (Action.keeps_look _).bind fun cached => ?_
  cases cached with
  | some fleet => exact Action.keeps_pure _
  | none =>
      refine ((keeps_rebuild hI hc).onFailure fun _ => keeps_report hI _).bind fun _ => ?_
      exact Action.keeps_look _

theorem keeps_snapshotCovering (targets : List InstanceRef) :
    Action.Keeps I (snapshotCovering client targets) := by
  refine (Action.keeps_look _).bind fun current => ?_
  split
  · exact Action.keeps_pure _
  · exact keeps_refresh hI hc

end Commit
end World

end Manager
end FleetWarden
