import FleetWarden.Cloud.InMemory
import FleetWarden.Proofs.Cloud.Transcript
import FleetWarden.Proofs.Membership.Survey

/-!
# What a rebuild asks

A rebuild asks for the name of its first fleet, then for what is listed under that name, and so on
through the fleets. It asks nothing more once a question has failed, nor once a listing had a member
without a key. If it gets to its end, the listings that it was given decide about everything in its
snapshot.
-/

namespace FleetWarden

open Rebuild

namespace Visit

/-- The questions of a visit with their answers. -/
def exchanges (v : Visit) : List Exchange :=
  [.described v.fleet.name (.ok v.name), .listed v.name (.ok v.members)]

end Visit

namespace Rebuild
variable {ρ : Type} {client : Client ρ} {seen : List Sighting}

/-- The exchanges about the fleet at which a rebuild ends before its time, and the fault that it
ends with. -/
inductive Cut (fleet : Fleet) : List Exchange → Fault → Prop
  | describe (e : Fault) : Cut fleet [.described fleet.name (.error e)] e
  | list (name : String) (e : Fault) :
      Cut fleet [.described fleet.name (.ok name), .listed name (.error e)] e
  | member (name : String) {members : List Member} (blank : ∃ m ∈ members, m.ref? = none) :
      Cut fleet [.described fleet.name (.ok name), .listed name (.ok members)] .blankInstance

section Projection

theorem projects_reportConflict (previous : Option Fleet) (fleet : Fleet) (ref : InstanceRef) :
    Action.Projects World.bare (reportConflict previous fleet ref : Effect (Transcribed ρ) Unit)
      (reportConflict previous fleet ref) := by
  cases previous with
  | none => exact Action.projects_pure ()
  | some other =>
      rw [reportConflict, reportConflict]
      split
      · exact Action.projects_pure ()
      · exact projects_emit _

theorem projects_takeMembers (fleet : Fleet) (p : Progress) (members : List Member) :
    Action.Projects World.bare (takeMembers fleet p members : Effect (Transcribed ρ) Progress)
      (takeMembers fleet p members) := by
  induction members generalizing p with
  | nil => exact Action.projects_pure p
  | cons m rest ih =>
      rw [takeMembers, takeMembers]
      cases m.ref? with
      | none => exact Action.projects_fail _
      | some ref => exact (projects_reportConflict _ fleet ref).bind fun _ => ih _

theorem projects_visit (client : Client ρ) (fleet : Fleet) (p : Progress) :
    Action.Projects World.bare (visit client.transcribed fleet p) (visit client fleet p) :=
  (projects_emit _).bind fun _ =>
    ((client.projects_describe _).onFailure fun _ => projects_emit _).bind fun _ =>
      ((client.projects_list _).onFailure fun _ => projects_emit _).bind fun members =>
        (projects_takeMembers fleet p members).bind fun _ => Action.projects_pure _

theorem projects_visitAll (client : Client ρ) (p : Progress) (fleets : List Fleet) :
    Action.Projects World.bare (visitAll client.transcribed p fleets)
      (visitAll client p fleets) := by
  induction fleets generalizing p with
  | nil => exact Action.projects_pure _
  | cons fleet rest ih =>
      exact (projects_visit client fleet p).bind fun _ =>
        (ih _).bind fun _ => Action.projects_pure _

theorem projects_finish (p : Progress) :
    Action.Projects World.bare (finish p : Effect (Transcribed ρ) Snapshot) (finish p) := by
  refine (Action.projects_look fun _ => rfl).bind fun now => ?_
  cases Snapshot.ofMaps? p.owners p.instanceIds now with
  | none => exact Action.projects_fail _
  | some snapshot => exact Action.projects_pure snapshot

/-- A rebuild is as good as transcribed. -/
theorem projects_run (client : Client ρ) (fleets : List Fleet) :
    Action.Projects World.bare (run client.transcribed fleets) (run client fleets) :=
  (projects_visitAll client _ fleets).bind fun _ =>
    (projects_finish _).bind fun _ => Action.projects_pure _

end Projection

theorem Made.refs {w w' : World ρ} {client : Client ρ} {v : Visit} (h : Made client seen w v w') :
    ∀ m ∈ v.members, m.ref? ≠ none := by
  obtain ⟨-, -, hr⟩ := h
  exact hr

section Transcript
variable {w w' : World (Transcribed ρ)} {fleet : Fleet} {fleets : List Fleet} {e : Fault}

theorem Made.transcript {v : Visit} (h : Made client.transcribed seen w v w') :
    w'.remote.transcript = w.remote.transcript ++ v.exchanges := by
  obtain ⟨hd, hl, -⟩ := h
  rw [World.remote_reportAll, Client.transcript_of_list hl, Client.transcript_of_describe hd]
  simp [Except.map, Visit.exchanges]

theorem Survey.transcript {visits : List Visit}
    (h : Survey client.transcribed seen w visits w') :
    w'.remote.transcript = w.remote.transcript ++ visits.flatMap (·.exchanges) := by
  induction h with
  | nil => simp
  | cons first others ih => rw [ih, first.transcript, List.flatMap_cons, List.append_assoc]

theorem Missed.transcript (h : Missed client.transcribed seen w fleet e w') :
    ∃ told, Cut fleet told e ∧ w'.remote.transcript = w.remote.transcript ++ told := by
  cases h with
  | describe refused =>
      refine ⟨_, .describe e, ?_⟩
      rw [World.remote_report, Client.transcript_of_describe refused]
      rfl
  | @list d _ _ _ described refused =>
      refine ⟨_, .list d.name e, ?_⟩
      rw [World.remote_report, Client.transcript_of_list refused,
        Client.transcript_of_describe described]
      simp [Except.map]
  | @member d good others m _ _ described listed refs blank =>
      have hblank : ∃ m' ∈ good ++ m :: others, m'.ref? = none := ⟨m, by simp, blank⟩
      refine ⟨_, .member d.name hblank, ?_⟩
      rw [World.remote_reportAll, Client.transcript_of_list listed,
        Client.transcript_of_describe described]
      simp [Except.map]

/-- A rebuild that ends before its time has made some visits by then, to members that all have a
key, and its transcript goes no further than the question or the member where it ended. -/
theorem Halt.transcript (h : Halt client.transcribed seen w fleets e w') :
    ∃ (visits : List Visit) (fleet : Fleet) (rest : List Fleet) (told : List Exchange),
      fleets = visits.map (·.fleet) ++ fleet :: rest ∧
        (∀ v ∈ visits, ∀ m ∈ v.members, m.ref? ≠ none) ∧ Cut fleet told e ∧
        w'.remote.transcript =
          w.remote.transcript ++ (visits.flatMap (·.exchanges) ++ told) := by
  induction h with
  | here missed =>
      obtain ⟨told, hcut, htold⟩ := missed.transcript
      exact ⟨[], _, _, told, rfl, by simp, hcut, htold⟩
  | @later _ _ _ _ v _ _ first others ih =>
      obtain ⟨visits, fleet, rest, told, rfl, hrefs, hcut, htold⟩ := ih
      refine ⟨v :: visits, fleet, rest, told, rfl,
        List.forall_mem_cons.2 ⟨first.refs, hrefs⟩, hcut, ?_⟩
      rw [htold, first.transcript]
      simp

end Transcript

theorem Survey.refs {w w' : World ρ} {visits : List Visit}
    (h : Survey client seen w visits w') : ∀ v ∈ visits, ∀ m ∈ v.members, m.ref? ≠ none := by
  induction h with
  | nil => simp
  | cons first others ih => exact List.forall_mem_cons.2 ⟨first.refs, ih⟩

/-- A rebuild follows from the answers that it gets. It asks for the name of each fleet and for the
listing under that name, up to the first question that fails or the first listing that has a member
without a key, and ends with the fault of that question or member: in all listings before it every
member has a key. If there is no such question and no such listing, it yields the observed names in
order and the snapshot of all reports in the listings: the instances stand in the order of their
first reports, and the last report of each one gives its owner, which is one of the registered
fleets, and its instance id. The entries stay as they are. -/
theorem run_follows_answers (client : Client ρ) (entries : List Entry) (w : World ρ) :
    let fleets := entries.map (·.fleet)
    let result := run client fleets w
    let written := run client.transcribed fleets w.transcribed
    result = (written.1, written.2.bare) ∧
    ((∃ (visits : List Visit) (snapshot : Snapshot),
        visits.map (·.fleet) = fleets ∧
        written.2.remote.transcript = visits.flatMap (·.exchanges) ∧
        (∀ v ∈ visits, ∀ m ∈ v.members, m.ref? ≠ none) ∧
        result.1 = .ok (snapshot, visits.map (·.name)) ∧
        let reports := visits.flatMap (·.sightings)
        snapshot.refs = (reports.map (·.ref)).eraseDups ∧
        (∀ ref, snapshot.ownerOf? ref = (Sighting.last? reports ref).map (·.fleet) ∧
          snapshot.instanceIds.get? ref = (Sighting.last? reports ref).map (·.instanceId)) ∧
        ∀ ref owner, snapshot.ownerOf? ref = some owner → owner ∈ fleets) ∨
      ∃ (visits : List Visit) (fleet : Fleet) (rest : List Fleet) (told : List Exchange)
          (e : Fault),
        fleets = visits.map (·.fleet) ++ fleet :: rest ∧
        written.2.remote.transcript = visits.flatMap (·.exchanges) ++ told ∧
        (∀ v ∈ visits, ∀ m ∈ v.members, m.ref? ≠ none) ∧
        Cut fleet told e ∧ result.1 = .error e) ∧
    ∀ s : System ρ,
      (Effect.lift (run client (s.entries.map (·.fleet))) s).2.entries = s.entries := by
  intro fleets result written
  have hresult : result = (written.1, written.2.bare) :=
    projects_run client fleets w.transcribed
  refine ⟨hresult, ?_, fun s => rfl⟩
  rcases hw : written with ⟨e | ⟨snapshot, names⟩, w'⟩
  · have hhalt := run_eq_error_iff.1 hw
    obtain ⟨visits, fleet, rest, told, hfleets, hrefs, hcut, htold⟩ := hhalt.transcript
    refine Or.inr ⟨visits, fleet, rest, told, e, hfleets, htold, hrefs, hcut, ?_⟩
    rw [hresult, hw]
  · obtain ⟨visits, hs, hf, hn, rfl⟩ := run_eq_ok_iff.1 hw
    refine Or.inl ⟨visits, .ofSightings (visits.flatMap (·.sightings)) w'.clock, hf, hs.transcript,
      hs.refs, ?_, Snapshot.refs_ofSightings,
      fun ref => ⟨Snapshot.ownerOf?_ofSightings, Snapshot.get?_instanceIds_ofSightings⟩, ?_⟩
    · rw [hresult, hw, hn]
    · intro ref owner howner
      rw [Snapshot.ownerOf?_ofSightings] at howner
      obtain ⟨x, hx, rfl⟩ := Option.map_eq_some_iff.1 howner
      exact hf ▸ fleet_mem_of_last? hx

section BlankMember

/-- Two scale sets, of which the first one reports an instance with a blank resource id. -/
def blankAtFirst : World InMemory :=
  .start (.ofSets [
    ⟨"east", some "east", .int 1, true, [⟨some "0", some " "⟩], .zero⟩,
    ⟨"west", some "west", .int 1, true, [⟨some "1", some "/vm/w"⟩], .zero⟩]) .zero

def bothFleets : List Fleet :=
  [⟨0, ⟨"east", 0, 2, by decide +kernel, by decide⟩⟩,
    ⟨1, ⟨"west", 0, 2, by decide +kernel, by decide⟩⟩]

/-- No question fails, and still nothing is asked about the second fleet and there is no
snapshot. -/
theorem blank_member_ends_rebuild :
    let client := Client.unchecked InMemory.azure
    let written := run client.transcribed bothFleets blankAtFirst.transcribed
    written.1 = .error .blankInstance ∧
      written.2.remote.transcript =
        [.described "east" (.ok "east"), .listed "east" (.ok [⟨some "0", some " "⟩])] :=
  ⟨rfl, rfl⟩

end BlankMember

end Rebuild
end FleetWarden
