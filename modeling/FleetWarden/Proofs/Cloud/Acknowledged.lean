import FleetWarden.Proofs.Invariant
import FleetWarden.Proofs.Manager.Sizes
import FleetWarden.Proofs.Projection

/-!
# Acknowledged updates

An update is acknowledged when the remote side has finished it. Every remote side has one beside
it that writes its acknowledged updates down and does nothing else in another way. A change of
capacity that succeeds has had exactly one update acknowledged, and one that fails has had none.
-/

namespace FleetWarden

/-- A remote side, and the updates that it has acknowledged, each by the name and the body that were
sent. -/
structure Acknowledging (ρ : Type) where
  remote : ρ
  updates : List (String × ScaleSetBody)

section
variable {ρ α : Type}

/-- The world without the acknowledged updates. -/
def World.plain (w : World (Acknowledging ρ)) : World ρ :=
  ⟨w.remote.remote, w.clock, w.log, w.loopLog, w.threads⟩

/-- Does the same and leaves the acknowledged updates alone. -/
def Effect.beside (x : Effect ρ α) : Effect (Acknowledging ρ) α := fun w =>
  let (answer, after) := x w.plain
  (answer, ⟨⟨after.remote, w.remote.updates⟩, after.clock, after.log, after.loopLog,
    after.threads⟩)

/-- Writes an acknowledged update down. -/
def acknowledge (name : String) (body : ScaleSetBody) : Effect (Acknowledging ρ) Unit :=
  Action.change fun w =>
    { w with remote := { w.remote with updates := w.remote.updates ++ [(name, body)] } }

/-- The remote side that writes down the updates that it has acknowledged. -/
def Azure.acknowledging (azure : Azure ρ) : Azure (Acknowledging ρ) where
  get group name := (azure.get group name).beside
  list group name := (azure.list group name).beside
  reach name index := (azure.reach name index).beside
  beginUpdate group name body := (azure.beginUpdate group name body).beside
  finishUpdate name body := do
    (azure.finishUpdate name body).beside
    acknowledge name body
  beginDelete group name ids := (azure.beginDelete group name ids).beside
  finishDelete name ids := (azure.finishDelete name ids).beside

theorem Effect.projects_beside (x : Effect ρ α) : Action.Projects World.plain x.beside x :=
  fun _ => rfl

/-- Writing an update down makes no difference to the remote side. -/
theorem Azure.projects_finishUpdate (azure : Azure ρ) (name : String) (body : ScaleSetBody) :
    Action.Projects World.plain (azure.acknowledging.finishUpdate name body)
      (azure.finishUpdate name body) := by
  rw [← bind_pure (azure.finishUpdate name body)]
  exact (Effect.projects_beside _).bind fun _ _ => rfl

end

section
variable {ρ : Type} {azure : Azure ρ} {group : ResourceGroup} {name : String} {capacity : Int}
  {current : Option Description} {w w' : World (Acknowledging ρ)}
  {updates : List (String × ScaleSetBody)}

theorem keeps_beside {α : Type} (x : Effect ρ α) :
    Action.Keeps (fun w => w.remote.updates = updates) x.beside := fun _ h => h

theorem keeps_updates_fetch (group : ResourceGroup) (name : String) :
    Action.Keeps (fun w => w.remote.updates = updates)
      (Client.fetch azure.acknowledging group name) := by
  refine (keeps_beside _).bind fun body => ?_
  split
  · exact Action.keeps_fail _
  · exact Action.keeps_fail _
  · split
    · exact Action.keeps_fail _
    · exact Action.keeps_pure _

theorem keeps_updates_describe (group : ResourceGroup) (name : String) :
    Action.Keeps (fun w => w.remote.updates = updates)
      (Client.describeChecked azure.acknowledging group name) :=
  (keeps_updates_fetch group name).bind fun _ => Action.keeps_pure _

theorem keeps_updates_bodyFor (group : ResourceGroup) (name : String)
    (current : Option Description) :
    Action.Keeps (fun w => w.remote.updates = updates)
      (Client.bodyFor azure.acknowledging group name current) := by
  unfold Client.bodyFor
  split
  · exact Action.keeps_pure _
  · exact (keeps_updates_fetch group name).bind fun _ => Action.keeps_pure _

theorem updates_of_finished {body : ScaleSetBody}
    (h : azure.acknowledging.finishUpdate name body w = (.ok (), w')) :
    w'.remote.updates = w.remote.updates ++ [(name, body)] := by
  obtain ⟨_, w₁, hfinish, hwrite⟩ := Action.bind_eq_ok_iff.1 h
  have hsame := (keeps_beside (azure.finishUpdate name body)).of_eq rfl hfinish
  cases hwrite
  exact congrArg (· ++ [(name, body)]) hsame

theorem updates_of_unfinished {body : ScaleSetBody} {f : Fault}
    (h : azure.acknowledging.finishUpdate name body w = (.error f, w')) :
    w'.remote.updates = w.remote.updates := by
  obtain hfinish | ⟨_, _, _, hwrite⟩ := Action.bind_eq_error_iff.1 h
  · exact (keeps_beside (azure.finishUpdate name body)).of_eq rfl hfinish
  · cases hwrite

theorem updates_of_updated
    (h : Client.updateChecked azure.acknowledging group name capacity current w = (.ok (), w')) :
    ∃ body : ScaleSetBody,
      w'.remote.updates = w.remote.updates ++ [(name, body.resized capacity)] := by
  obtain ⟨body, w₁, hbody, h⟩ := Action.bind_eq_ok_iff.1 h
  obtain ⟨_, w₂, hbegin, hfinish⟩ := Action.bind_eq_ok_iff.1 h
  have hfirst := (keeps_updates_bodyFor group name current).of_eq rfl hbody
  have hsecond := (keeps_beside (azure.beginUpdate group name _)).of_eq hfirst hbegin
  exact ⟨body, by rw [updates_of_finished hfinish, hsecond]⟩

theorem updates_of_notUpdated {f : Fault}
    (h : Client.updateChecked azure.acknowledging group name capacity current w = (.error f, w')) :
    w'.remote.updates = w.remote.updates := by
  obtain hbody | ⟨body, w₁, hbody, h⟩ := Action.bind_eq_error_iff.1 h
  · exact (keeps_updates_bodyFor group name current).of_eq rfl hbody
  have hfirst := (keeps_updates_bodyFor group name current).of_eq rfl hbody
  obtain hbegin | ⟨_, w₂, hbegin, hfinish⟩ := Action.bind_eq_error_iff.1 h
  · exact (keeps_beside (azure.beginUpdate group name _)).of_eq hfirst hbegin
  · rw [updates_of_unfinished hfinish]
    exact (keeps_beside (azure.beginUpdate group name _)).of_eq hfirst hbegin

end

namespace Manager
variable {ρ : Type}

variable {azure : Azure ρ} {group : ResourceGroup} {fleet : Fleet} {target : Int}
  {s t : System (Acknowledging ρ)}

/-- A change of capacity that succeeds has had one update acknowledged. -/
theorem updates_of_setSize
    (h : setSize (.checked azure.acknowledging group) fleet target s = (.ok (), t)) :
    ∃ body : ScaleSetBody, t.world.remote.updates =
      s.world.remote.updates ++ [(fleet.name, body.resized target)] := by
  rw [setSize_eq] at h
  rcases hdescribe : (Client.checked azure.acknowledging group).describe fleet.name s.world with
    ⟨f | current, w⟩ <;> rw [hdescribe] at h
  · cases h
  · have hsame := (keeps_updates_describe group fleet.name).of_eq rfl hdescribe
    dsimp only at h
    split_ifs at h
    · obtain ⟨hanswer, rfl⟩ := Prod.mk.inj h
      obtain ⟨body, hbody⟩ := updates_of_updated (Prod.ext hanswer rfl)
      exact ⟨body, hbody.trans (congrArg (· ++ _) hsame)⟩
    · cases h

/-- A change of capacity that fails has had none acknowledged. -/
theorem updates_of_failedSetSize {f : Fault}
    (h : setSize (.checked azure.acknowledging group) fleet target s = (.error f, t)) :
    t.world.remote.updates = s.world.remote.updates := by
  rw [setSize_eq] at h
  rcases hdescribe : (Client.checked azure.acknowledging group).describe fleet.name s.world with
    ⟨f' | current, w⟩ <;> rw [hdescribe] at h
  · cases h
    exact (keeps_updates_describe group fleet.name).of_eq rfl hdescribe
  · have hsame := (keeps_updates_describe group fleet.name).of_eq rfl hdescribe
    dsimp only at h
    split_ifs at h
    · obtain ⟨hanswer, rfl⟩ := Prod.mk.inj h
      exact (updates_of_notUpdated (Prod.ext hanswer rfl)).trans hsame
    · cases h
      exact hsame

end Manager
end FleetWarden
