import FleetWarden.Proofs.Manager.BlankIds

/-!
# Calls that fail as documented

The remote side documents the kinds of its failures. If its calls fail in no other way, whatever
they answer, then an operation over the checked client ends with a fault that a user is told about
in plain words, or with one of two answers that cannot be used: a capacity that is no whole number,
and a resource id of blanks. Operations on sizes may also meet one that has too many digits to be
reported.
-/

namespace FleetWarden

/-- A documented failure of the remote side. -/
def Fault.IsAzure (f : Fault) : Prop := ∃ kind text, f = .raised (.azure kind) text

theorem Fault.IsAzure.isReported {f : Fault} (h : f.IsAzure) : f.kind.isReported = true := by
  obtain ⟨kind, text, rfl⟩ := h
  rfl

namespace Azure
variable {ρ : Type}

/-- All calls of the remote interface fail as documented, if they fail. -/
structure Documented (azure : Azure ρ) : Prop where
  get : ∀ group name, Action.FailsWith Fault.IsAzure (azure.get group name)
  list : ∀ group name, Action.FailsWith Fault.IsAzure (azure.list group name)
  reach : ∀ name index, Action.FailsWith Fault.IsAzure (azure.reach name index)
  beginUpdate : ∀ group name body, Action.FailsWith Fault.IsAzure
    (azure.beginUpdate group name body)
  finishUpdate : ∀ name body, Action.FailsWith Fault.IsAzure (azure.finishUpdate name body)
  beginDelete : ∀ group name ids, Action.FailsWith Fault.IsAzure (azure.beginDelete group name ids)
  finishDelete : ∀ name ids, Action.FailsWith Fault.IsAzure (azure.finishDelete name ids)

/-- The answers that no command foresees, with the faults that they lead to: a capacity that is no
whole number, and a blank resource id. -/
inductive Unusable (azure : Azure ρ) (group : ResourceGroup) : Fault → Prop
  | capacity {name : String} {body : ScaleSetBody} {v : Value} {e : WholeError} {w w' : World ρ}
      (answered : azure.get group name w = (.ok body, w')) (found : body.capacity = some v)
      (set : v ≠ .null) (unreadable : v.whole = .error e) : Unusable azure group (.badCapacity e)
  | blankId (h : azure.ListsBlank group) : Unusable azure group .blankInstance

/-- The fault is told in plain words, or it comes of an answer that cannot be used. -/
def Settled (azure : Azure ρ) (group : ResourceGroup) (f : Fault) : Prop :=
  f.kind.isReported = true ∨ azure.Unusable group f

variable {azure : Azure ρ} {group : ResourceGroup} {f : Fault}

theorem not_isReported_of_unusable (h : azure.Unusable group f) : f.kind.isReported = false := by
  cases h with
  | @capacity _ _ _ e => cases e <;> rfl
  | blankId => rfl

theorem settled_of_isAzure (h : f.IsAzure) : azure.Settled group f := .inl h.isReported

end Azure

section
variable {ρ : Type} {azure : Azure ρ} {group : ResourceGroup}

namespace Client

theorem settled_of_describeFails (hazure : azure.Documented) {name : String} {w w' : World ρ}
    {e : Fault} (h : DescribeFails azure group name w e w') : azure.Settled group e := by
  cases h with
  | call refused => exact Azure.settled_of_isAzure (hazure.get _ _ refused)
  | noCapacity => exact .inl rfl
  | badCapacity answered found set unreadable =>
      exact .inr (.capacity answered found set unreadable)

theorem settled_of_listFails (hazure : azure.Documented) {name : String} {w w' : World ρ}
    {e : Fault} (h : ListFails azure group name w e w') : azure.Settled group e := by
  cases h with
  | call refused => exact Azure.settled_of_isAzure (hazure.list _ _ refused)
  | item _ _ refused => exact Azure.settled_of_isAzure (hazure.reach _ _ refused)
  | withoutId => exact .inl rfl

theorem failsWith_describeChecked (hazure : azure.Documented) (group : ResourceGroup)
    (name : String) :
    Action.FailsWith (azure.Settled group) (describeChecked azure group name) := by
  intro w e w' h
  exact settled_of_describeFails hazure (describeChecked_eq_error_iff.1 h)

theorem failsWith_deleteIn (hazure : azure.Documented) (name : String) (ids : List String) :
    Action.FailsWith Fault.IsAzure (deleteIn azure group name ids) :=
  (hazure.beginDelete group name ids).bind fun _ => hazure.finishDelete name ids

/-- What was described before needs no look at the set, so an update fails in its own calls only. -/
theorem failsWith_updateChecked (hazure : azure.Documented) (name : String) (capacity : Int)
    {current : Description} {body : ScaleSetBody} (hbody : current.body = some body) :
    Action.FailsWith Fault.IsAzure (updateChecked azure group name capacity (some current)) := by
  have hfor : bodyFor azure group name (some current) = pure body := by
    rw [bodyFor, Option.bind_some, hbody]
  rw [updateChecked, hfor]
  refine (Action.failsWith_pure body).bind fun sent => ?_
  exact (hazure.beginUpdate group name _).bind fun _ => hazure.finishUpdate name _

theorem body_of_describeChecked {name : String} {w w' : World ρ} {d : Description}
    (h : describeChecked azure group name w = (.ok d, w')) : ∃ body, d.body = some body := by
  obtain ⟨⟨body, n⟩, w₁, -, h⟩ := Action.bind_eq_ok_iff.1 h
  cases h
  exact ⟨body, rfl⟩

end Client

theorem Foreseen.settled (hazure : azure.Documented) {f : Fault} (h : Foreseen azure group f) :
    azure.Settled group f := by
  cases h with
  | describe h => exact Client.settled_of_describeFails hazure h
  | list h => exact Client.settled_of_listFails hazure h
  | delete h => exact Azure.settled_of_isAzure (Client.failsWith_deleteIn hazure _ _ h)
  | unmanaged target => exact .inl rfl
  | crossFleet target expected actual => exact .inl rfl
  | staleId target => exact .inl rfl
  | blank h => exact .inr (.blankId h)

namespace Manager

theorem failsWith_reportSizes {P : Fault → Prop} (hP : P .unwritable) (sizes : List Value)
    (e : Event) : Action.FailsWith P (reportSizes sizes e : Operation ρ Unit) := by
  unfold reportSizes
  split
  · exact failsWith_report e
  · exact Action.failsWith_fail hP

theorem failsWith_getSize (hazure : azure.Documented) (fleet : Fleet) :
    Action.FailsWith (fun f => azure.Settled group f ∨ f = .unwritable)
      (getSize (.checked azure group) fleet) := by
  have hdescribe := Client.failsWith_describeChecked hazure group fleet.name
  refine (failsWith_report _).bind fun _ => ?_
  refine (hdescribe.mono fun _ => .inl).lift.bind fun description => ?_
  exact (failsWith_reportSizes (.inr rfl) _ _).bind fun _ => Action.failsWith_pure _

theorem failsWith_setSize (hazure : azure.Documented) (fleet : Fleet) (target : Int) :
    Action.FailsWith (fun f => azure.Settled group f ∨ f = .unwritable)
      (setSize (.checked azure group) fleet target) := by
  have hdescribe := Client.failsWith_describeChecked hazure group fleet.name
  refine (hdescribe.mono fun _ => .inl).lift.bind_of_answers fun s current t h => ?_
  obtain ⟨w, hw, -⟩ := Effect.lift_eq_iff.1 h
  obtain ⟨body, hbody⟩ := Client.body_of_describeChecked hw
  refine (failsWith_reportSizes (.inr rfl) _ _).bind fun _ => Action.FailsWith.lift ?_
  exact (Client.failsWith_updateChecked hazure fleet.name target hbody).mono fun _ hf =>
    .inl (Azure.settled_of_isAzure hf)

end Manager

end

end FleetWarden
