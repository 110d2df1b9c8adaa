import FleetWarden.Cloud.InMemory
import FleetWarden.Proofs.Invariant

/-!
# What asking keeps

The checked client asks a question by calls on its remote side, and it reports each listing. So its
questions keep every condition that those calls and those reports keep, whatever the answers are.
-/

namespace FleetWarden

namespace Client
variable {ρ : Type} {azure : Azure ρ} {group : ResourceGroup} {name : String}
variable {I : World ρ → Prop}

theorem keeps_describeChecked (hget : Action.Keeps I (azure.get group name)) :
    Action.Keeps I (describeChecked azure group name) := by
  refine Action.Keeps.bind (hget.bind fun body => ?_) fun _ => Action.keeps_pure _
  split
  · exact Action.keeps_fail _
  · exact Action.keeps_fail _
  · split
    · exact Action.keeps_fail _
    · exact Action.keeps_pure _

theorem keeps_arrive (hreach : ∀ i, Action.Keeps I (azure.reach name i)) (i : Nat)
    (items : List Member) : Action.Keeps I (arrive azure name (requireIds name) i items) := by
  induction items generalizing i with
  | nil => exact Action.keeps_pure _
  | cons m rest ih =>
      refine (hreach i).bind fun _ => Action.Keeps.bind ?_ fun _ => (ih _).bind fun _ =>
        Action.keeps_pure _
      rw [requireIds]
      split
      · exact Action.keeps_pure _
      · exact Action.keeps_fail _

theorem keeps_listChecked (hlist : Action.Keeps I (azure.list group name))
    (hreach : ∀ i, Action.Keeps I (azure.reach name i))
    (hreport : ∀ count w, I w → I (w.report (.listed name count))) :
    Action.Keeps I (listChecked azure group name) :=
  hlist.bind fun items => (keeps_arrive hreach 0 items).bind fun _ =>
    (Action.keeps_change fun w hw => hreport _ w hw).bind fun _ => Action.keeps_pure _

end Client

namespace InMemory
variable {group : ResourceGroup} {name : String} {I : World InMemory → Prop}

/-- What all calls are made of keeps the condition: noting the call, failing and looking up. -/
structure Unmoved (I : World InMemory → Prop) : Prop where
  record : ∀ call, Action.Keeps I (record call)
  mayFail : ∀ point name, Action.Keeps I (mayFail point name)
  find : ∀ name, Action.Keeps I (find name)

theorem Unmoved.get (h : Unmoved I) : Action.Keeps I (azure.get group name) :=
  (h.record _).bind fun _ => (h.mayFail _ _).bind fun _ => (h.find _).bind fun _ =>
    Action.keeps_pure _

theorem Unmoved.list (h : Unmoved I) : Action.Keeps I (azure.list group name) :=
  (h.record _).bind fun _ => (h.mayFail _ _).bind fun _ => (h.find _).bind fun _ =>
    Action.keeps_pure _

end InMemory
end FleetWarden
