import FleetWarden.Proofs.Cloud.SteadySets
import FleetWarden.Proofs.Manager.FailedRebuild
import FleetWarden.Proofs.Manager.LastRebuild
import FleetWarden.Proofs.Membership.Holdings
import FleetWarden.Proofs.Membership.Questions

/-!
# Lookups through the snapshot

A lookup answers from the snapshot if it can, and otherwise makes one rebuild and answers from that.
`enumerate` is a lookup that has no snapshot and asks about all fleets each time. Where nothing has
changed since the last rebuild the two give the same answers.
-/

namespace FleetWarden

open Rebuild

theorem holderAmong?_cons (held : Fleet → List InstanceRef) (fleet : Fleet) (rest : List Fleet)
    (ref : InstanceRef) :
    holderAmong? held (fleet :: rest) ref =
      (holderAmong? held rest ref).or (if ref ∈ held fleet then some fleet else none) := by
  by_cases h : ref ∈ held fleet <;> simp [holderAmong?, h]

section
variable {ρ : Type}

/-- A lookup without a snapshot: all fleets are asked about, and the last one that lists the
instance is the answer. -/
def enumerate (client : Client ρ) (ref : InstanceRef) :
    Option Fleet → List Fleet → Effect ρ (Option Fleet)
  | found, [] => pure found
  | found, fleet :: rest => do
    let description ← client.describe fleet.name
    let members ← client.list description.name
    enumerate client ref (if ref.isListed members then some fleet else found) rest

variable {client : Client ρ} {fleets : List Fleet} {held : Fleet → List InstanceRef}
variable {I : World ρ → Prop} {ref : InstanceRef}

theorem enumerate_of_steady (h : Client.Steady client fleets held I) {part : List Fleet}
    (hpart : part ⊆ fleets) (found : Option Fleet) {w : World ρ} (hw : I w) :
    (enumerate client ref found part w).1 = .ok ((holderAmong? held part ref).or found) := by
  induction part generalizing found w with
  | nil => rfl
  | cons fleet rest ih =>
      obtain ⟨hfleet, hrest⟩ := List.cons_subset.1 hpart
      obtain ⟨d, members, w₁, w₂, hd, hl, hw₂, -, hheld⟩ := h.answers hfleet hw
      rw [enumerate, Action.bind_of_ok hd, Action.bind_of_ok hl, ih hrest _ hw₂, holderAmong?_cons]
      by_cases hr : ref ∈ held fleet <;> simp [hheld, hr]

end

namespace Deed
variable {ρ : Type} {client : Client ρ}

/-- Since the last rebuild of a course of deeds no fleet was registered, and that rebuild learned
what the fleets hold now. -/
def UpToDate (client : Client ρ) (deeds : List (Deed ρ)) (s : System ρ)
    (held : Fleet → List InstanceRef) : Prop :=
  ∀ before after visits w, IsLastRebuild client deeds s before after visits w →
    after.flatMap registered = [] ∧ ∀ v ∈ visits, v.Shows held

/-- An up-to-date snapshot names the fleets that hold the instances now. -/
theorem holder_of_upToDate {loop : RefreshLoop} {world : World ρ} {deeds : List (Deed ρ)}
    {held : Fleet → List InstanceRef} {ref : InstanceRef} {fleet : Fleet}
    (h : UpToDate client deeds (System.start loop world) held)
    (hr : (run client deeds (System.start loop world)).snapshot.ownerOf? ref = some fleet) :
    holderAmong? held (run client deeds (System.start loop world)).fleets ref = some fleet := by
  rcases records_run client deeds (System.start loop world) with
    ⟨-, he⟩ | ⟨before, after, visits, w, hl, he⟩
  · have hempty : (run client deeds (System.start loop world)).snapshot = .empty :=
      congrArg Records.snapshot he
    rw [hempty] at hr
    cases hr
  · obtain ⟨hafter, hshows⟩ := h before after visits w hl
    rw [hafter, Records.register_nil] at he
    have hsnapshot : (run client deeds (System.start loop world)).snapshot = _ :=
      congrArg Records.snapshot he
    have hfleets : (run client deeds (System.start loop world)).fleets = visits.map (·.fleet) := by
      have hentries : (run client deeds (System.start loop world)).entries = _ :=
        congrArg Records.entries he
      rw [System.fleets, hentries, List.map_map]
      rfl
    rw [hsnapshot, Visit.ownerOf?_ofVisits, Visit.lastLister?_of_shows hshows] at hr
    rw [hfleets, hr]

/-- A refresh brings the snapshot up to date. -/
theorem upToDate_refresh (deeds : List (Deed ρ)) {s : System ρ} {held : Fleet → List InstanceRef}
    {I : World ρ → Prop} (h : Client.Steady client (run client deeds s).fleets held I)
    (hw : I (run client deeds s).world) : UpToDate client (deeds ++ [refresh]) s held := by
  rintro before after visits w ⟨d, he, ⟨w₀, hw₀, hs, hf⟩, hn⟩
  rcases List.eq_nil_or_concat after with rfl | ⟨after, last, rfl⟩
  · obtain ⟨rfl, hd⟩ := List.append_inj' he rfl
    obtain rfl := List.singleton_inj.1 hd
    cases hw₀
    exact ⟨rfl, h.shows_of_survey hw hs hf⟩
  · rw [List.concat_eq_append, ← List.cons_append, ← List.append_assoc] at he
    obtain ⟨rfl, hlast⟩ := List.append_inj' he rfl
    obtain rfl := List.singleton_inj.1 hlast
    -- the refresh would be a later rebuild
    rw [List.concat_eq_append, noRebuild_append_singleton, ← run_append, List.append_assoc,
      List.singleton_append] at hn
    obtain ⟨visits', w', hs', hf', -⟩ := h.survey [] hw
    exact absurd ⟨_, rfl, hs', hf'⟩ (hn.2 visits' w')

end Deed

namespace Manager
variable {ρ : Type} {client : Client ρ} {ref : InstanceRef}

theorem projects_report (e : Event) :
    Action.Projects System.bare (report e : Operation (Transcribed ρ) Unit) (report e) :=
  Action.projects_change fun _ => rfl

theorem projects_rebuild (client : Client ρ) :
    Action.Projects System.bare (rebuild client.transcribed) (rebuild client) := by
  refine (Action.projects_look fun _ => rfl).bind fun began =>
    (Action.projects_look fun _ => rfl).bind fun fleets =>
      (Effect.projects_lift (projects_run client fleets)).bind ?_
  rintro ⟨snapshot, names⟩
  exact Action.Projects.bind (Action.projects_change fun _ => rfl) fun _ =>
    Action.Projects.bind (Action.projects_look fun _ => rfl) fun _ => projects_report _

/-- A lookup is as good as transcribed. -/
theorem projects_findOwner (client : Client ρ) (ref : InstanceRef) :
    Action.Projects System.bare (findOwner client.transcribed ref) (findOwner client ref) := by
  refine (projects_report _).bind fun _ => (Action.projects_look fun _ => rfl).bind fun cached => ?_
  cases cached with
  | some fleet => exact Action.projects_pure _
  | none =>
      exact ((projects_rebuild client).onFailure fun _ => projects_report _).bind fun _ =>
        Action.projects_look fun _ => rfl

/-- A lookup that misses answers with the last fleet that its rebuild saw to list the instance. -/
theorem findOwner_of_survey {s : System ρ} {visits : List Visit} {w : World ρ}
    (hr : s.snapshot.ownerOf? ref = none)
    (hs : Survey client [] (s.world.report (.lookingFor ref)) visits w)
    (hf : visits.map (·.fleet) = s.fleets) :
    findOwner client ref s =
      (.ok (Visit.lastLister? visits ref), (s.report (.lookingFor ref)).renewed visits w) := by
  have hrebuild : rebuild client (s.report (.lookingFor ref)) = _ :=
    rebuild_eq_ok_iff.2 ⟨visits, w, hs, hf, rfl⟩
  rw [findOwner_of_no_owner hr, hrebuild]
  simp only [System.renewed, Visit.ownerOf?_ofVisits]

/-- While nothing changes, a lookup that misses makes one rebuild and answers with the holder. -/
theorem findOwner_of_steady {s : System ρ} {held : Fleet → List InstanceRef} {I : World ρ → Prop}
    (h : Client.Steady client s.fleets held I) (hs : I s.world)
    (hr : s.snapshot.ownerOf? ref = none) :
    ∃ visits w, Survey client [] (s.world.report (.lookingFor ref)) visits w ∧
      visits.map (·.fleet) = s.fleets ∧ I w ∧ (∀ v ∈ visits, v.Shows held) ∧
      findOwner client ref s =
        (.ok (holderAmong? held s.fleets ref), (s.report (.lookingFor ref)).renewed visits w) := by
  obtain ⟨visits, w, hv, hf, hw, hshows⟩ := h.survey [] (h.report (.lookingFor ref) hs)
  refine ⟨visits, w, hv, hf, hw, hshows, ?_⟩
  rw [findOwner_of_survey hr hv hf, Visit.lastLister?_of_shows hshows, hf]

/-- A lookup that misses asks what a rebuild asks, and answers from what it was told. -/
theorem findOwner_of_miss (client : Client ρ) (s : System (Transcribed ρ))
    (hr : s.snapshot.ownerOf? ref = none) :
    (∃ (visits : List Visit) (w : World (Transcribed ρ)),
      visits.map (·.fleet) = s.fleets ∧
      w.remote.transcript = s.world.remote.transcript ++ visits.flatMap (·.exchanges) ∧
      findOwner client.transcribed ref s =
        (.ok (Visit.lastLister? visits ref), (s.report (.lookingFor ref)).renewed visits w)) ∨
    ∃ (visits : List Visit) (fleet : Fleet) (rest : List Fleet) (told : List Exchange)
        (e : Fault) (w : World (Transcribed ρ)),
      s.fleets = visits.map (·.fleet) ++ fleet :: rest ∧
      w.remote.transcript = s.world.remote.transcript ++ (visits.flatMap (·.exchanges) ++ told) ∧
      Cut fleet told e ∧
      findOwner client.transcribed ref s = (.error e, { s with world := w }) := by
  rcases hb : rebuild client.transcribed (s.report (.lookingFor ref)) with ⟨e | u, t⟩
  · obtain ⟨w, hhalt, -⟩ := rebuild_eq_error_iff.1 hb
    obtain ⟨visits, fleet, rest, told, hf, -, hcut, htold⟩ := hhalt.transcript
    exact Or.inr ⟨visits, fleet, rest, told, e, w.report (.lookupFailed ref e.message), hf, htold,
      hcut, findOwner_of_halt hr hhalt⟩
  · obtain ⟨visits, w, hv, hf, -⟩ := rebuild_eq_ok_iff.1 hb
    exact Or.inl ⟨visits, w, hf, hv.transcript, findOwner_of_survey hr hv hf⟩

/-- Lookups read through. An instance in the snapshot is answered from there, without a question and
without a change. Any other one takes exactly one rebuild: if it succeeds, the answer is the last
registered fleet whose new listing has the instance, and there is none exactly where no listing has
it; if it fails, the lookup ends with its fault, and the manager keeps what it knows. Where no fleet
was registered and nothing has changed since the last rebuild, and no question fails, every answer
is what a lookup without a snapshot gives. -/
theorem findOwner_reads_through (client : Client ρ) (loop : RefreshLoop) (world : World ρ)
    (deeds : List (Deed ρ)) (ref : InstanceRef) :
    let s := Deed.run client deeds (System.start loop world)
    let asked := findOwner client.transcribed ref s.transcribed
    findOwner client ref s = (asked.1, asked.2.bare) ∧
    (∀ fleet, s.snapshot.ownerOf? ref = some fleet →
      findOwner client ref s = (.ok (some fleet), s.report (.lookingFor ref)) ∧
        asked.2.world.remote.transcript = []) ∧
    (s.snapshot.ownerOf? ref = none →
      (∃ (visits : List Visit) (w : World ρ), visits.map (·.fleet) = s.fleets ∧
        asked.2.world.remote.transcript = visits.flatMap (·.exchanges) ∧
        findOwner client ref s =
          (.ok (Visit.lastLister? visits ref), (s.report (.lookingFor ref)).renewed visits w) ∧
        (Visit.lastLister? visits ref = none ↔ ∀ v ∈ visits, v.lists ref = false)) ∨
      ∃ (visits : List Visit) (fleet : Fleet) (rest : List Fleet) (told : List Exchange)
          (e : Fault) (w : World ρ),
        s.fleets = visits.map (·.fleet) ++ fleet :: rest ∧
        asked.2.world.remote.transcript = visits.flatMap (·.exchanges) ++ told ∧
        Cut fleet told e ∧ findOwner client ref s = (.error e, { s with world := w })) ∧
    ∀ held I, Deed.UpToDate client deeds (System.start loop world) held →
      Client.Steady client s.fleets held I → I s.world →
      (findOwner client ref s).1 = .ok (holderAmong? held s.fleets ref) ∧
        (enumerate client ref none s.fleets s.world).1 = .ok (holderAmong? held s.fleets ref) := by
  intro s asked
  have hasked : findOwner client ref s = (asked.1, asked.2.bare) :=
    projects_findOwner client ref s.transcribed
  refine ⟨hasked, ?_, ?_, ?_⟩
  · intro fleet hr
    refine ⟨findOwner_of_owner hr, ?_⟩
    have hhit : asked = (.ok (some fleet), s.transcribed.report (.lookingFor ref)) :=
      findOwner_of_owner hr
    rw [hhit]
    rfl
  · intro hr
    rcases findOwner_of_miss client s.transcribed hr with
      ⟨visits, w, hf, htold, (hmiss : asked = _)⟩ |
      ⟨visits, fleet, rest, told, e, w, hf, htold, hcut, (hmiss : asked = _)⟩
    · refine Or.inl ⟨visits, w.bare, hf, ?_, ?_, Visit.lastLister?_eq_none_iff⟩
      · rw [hmiss]
        exact htold
      · rw [hasked, hmiss]
        rfl
    · refine Or.inr ⟨visits, fleet, rest, told, e, w.bare, hf, ?_, hcut, ?_⟩
      · rw [hmiss]
        exact htold
      · rw [hasked, hmiss]
        rfl
  · intro held I hdate hsteady hw
    refine ⟨?_, by simpa using enumerate_of_steady hsteady (List.Subset.refl _) none hw⟩
    cases hr : s.snapshot.ownerOf? ref with
    | some fleet => rw [findOwner_of_owner hr, Deed.holder_of_upToDate hdate hr]
    | none =>
        obtain ⟨visits, w, -, -, -, -, hmiss⟩ := findOwner_of_steady hsteady hw hr
        rw [hmiss]

/-- Two pools right after a refresh: an instance that is known, and one that neither pool has. -/
theorem findOwner_reads_through_twoPools :
    let client := Client.checked InMemory.azure (.text "rg")
    let start := System.start (.fresh (.int 60)) twoPools
    let deeds : List (Deed InMemory) := [.register poolA, .register poolB, .refresh]
    let s := Deed.run client deeds start
    let held := InMemory.holdings twoPools.remote.sets
    s.fleets = [poolA, poolB] ∧ s.snapshot.ownerOf? refA1 = some poolA ∧
    s.snapshot.ownerOf? refC0 = none ∧
    findOwner client refA1 s = (.ok (some poolA), s.report (.lookingFor refA1)) ∧
    Deed.UpToDate client deeds start held ∧
    Client.Steady client s.fleets held (InMemory.Rests twoPools.remote.sets) ∧
    (findOwner client refC0 s).1 = .ok (holderAmong? held s.fleets refC0) ∧
    (enumerate client refC0 none s.fleets s.world).1 = .ok none := by
  intro client start deeds s held
  have hsteady : Client.Steady client s.fleets held (InMemory.Rests twoPools.remote.sets) :=
    InMemory.steady_checked _ (by decide +kernel)
  have hdate : Deed.UpToDate client deeds start held :=
    Deed.upToDate_refresh [.register poolA, .register poolB] hsteady ⟨rfl, rfl⟩
  have hA1 : s.snapshot.ownerOf? refA1 = some poolA := by decide +kernel
  have hC0 := (findOwner_reads_through client _ twoPools deeds refC0).2.2.2 held _ hdate hsteady
    ⟨rfl, rfl⟩
  have hnone : holderAmong? held s.fleets refC0 = none := by decide +kernel
  refine ⟨by decide +kernel, hA1, by decide +kernel, ?_, hdate, hsteady, hC0.1, hnone ▸ hC0.2⟩
  exact ((findOwner_reads_through client _ twoPools deeds refA1).2.1 poolA hA1).1

end Manager
end FleetWarden
