import FleetWarden.Proofs.Cloud.Transcript
import FleetWarden.Proofs.Membership.Survey

/-!
# What fleets hold

An instance belongs to the last fleet, in the order of registration, that lists it. A rebuild learns
the listings one by one, and `ownerOf?_ofVisits` says that its snapshot names this fleet. As long as
the fleets hold the same instances and every question is answered, all rebuilds come to the same
owners.

## Implementation notes

Two listings may differ in the order and the number of their reports and still say the same, so what
a fleet holds is compared by membership. The remote side is not looked into: `Client.Steady` speaks
of the worlds that meet some condition, which the questions themselves keep.
-/

namespace FleetWarden

open Numeral Rebuild

/-- Whether a listing has the instance. -/
def InstanceRef.isListed (ref : InstanceRef) (members : List Member) : Bool :=
  members.any (·.ref? = some ref)

theorem InstanceRef.isListed_iff {ref : InstanceRef} {members : List Member} :
    ref.isListed members = true ↔ ∃ m ∈ members, m.ref? = some ref := by
  simp [isListed]

namespace Sighting

theorem last?_append (first second : List Sighting) (ref : InstanceRef) :
    last? (first ++ second) ref = (last? second ref).or (last? first ref) := by
  simp [last?]

theorem last?_ofMembers (fleet : Fleet) (members : List Member) (ref : InstanceRef) :
    (last? (ofMembers fleet members) ref).map (·.fleet) =
      if ref.isListed members then some fleet else none := by
  cases h : last? (ofMembers fleet members) ref with
  | none =>
      have hnot : ¬ref.isListed members = true := by
        intro hl
        obtain ⟨m, hm, href⟩ := InstanceRef.isListed_iff.1 hl
        have hx : (⟨ref, fleet, m.instanceId⟩ : Sighting) ∈ ofMembers fleet members :=
          mem_ofMembers_iff.2 ⟨m, hm, href, rfl, rfl⟩
        rw [last?, List.find?_eq_none] at h
        simpa using h _ (List.mem_reverse.2 hx)
      rw [if_neg hnot]
      rfl
  | some x =>
      obtain ⟨hx, href⟩ := mem_of_last? h
      obtain ⟨m, hm, hmref, hfleet, -⟩ := mem_ofMembers_iff.1 hx
      rw [if_pos (InstanceRef.isListed_iff.2 ⟨m, hm, href ▸ hmref⟩), hfleet]
      rfl

end Sighting

namespace Visit

/-- Whether the visit was told of the instance. -/
def lists (v : Visit) (ref : InstanceRef) : Bool := ref.isListed v.members

/-- The fleet of the last visit that was told of the instance. -/
def lastLister? (visits : List Visit) (ref : InstanceRef) : Option Fleet :=
  (visits.reverse.find? (·.lists ref)).map (·.fleet)

theorem lastLister?_append_singleton (visits : List Visit) (v : Visit) (ref : InstanceRef) :
    lastLister? (visits ++ [v]) ref =
      if v.lists ref then some v.fleet else lastLister? visits ref := by
  by_cases h : v.lists ref = true <;> simp [lastLister?, h]

theorem lastLister?_eq_none_iff {visits : List Visit} {ref : InstanceRef} :
    lastLister? visits ref = none ↔ ∀ v ∈ visits, v.lists ref = false := by
  simp [lastLister?]

theorem last?_sightings (visits : List Visit) (ref : InstanceRef) :
    (Sighting.last? (visits.flatMap (·.sightings)) ref).map (·.fleet) = lastLister? visits ref := by
  induction visits using List.reverseRecOn with
  | nil => rfl
  | append_singleton visits v ih =>
      have hv : (Sighting.last? v.sightings ref).map (·.fleet) =
          if v.lists ref then some v.fleet else none :=
        Sighting.last?_ofMembers v.fleet v.members ref
      rw [List.flatMap_append, List.flatMap_singleton, Sighting.last?_append, Option.map_or, ih, hv,
        lastLister?_append_singleton]
      by_cases h : v.lists ref = true <;> simp [h]

/-- A snapshot names the last fleet that was seen to list the instance. -/
theorem ownerOf?_ofVisits (visits : List Visit) (now : Binary64) (ref : InstanceRef) :
    (Snapshot.ofSightings (visits.flatMap (·.sightings)) now).ownerOf? ref =
      lastLister? visits ref := by
  rw [Snapshot.ownerOf?_ofSightings, last?_sightings]

/-- The visit was told of exactly the instances that its fleet holds. -/
def Shows (held : Fleet → List InstanceRef) (v : Visit) : Prop :=
  ∀ ref, v.lists ref = true ↔ ref ∈ held v.fleet

end Visit

/-- The last one of the fleets that holds the instance. -/
def holderAmong? (held : Fleet → List InstanceRef) (fleets : List Fleet) (ref : InstanceRef) :
    Option Fleet :=
  fleets.reverse.find? fun fleet => ref ∈ held fleet

theorem holderAmong?_eq_none_iff {held : Fleet → List InstanceRef} {fleets : List Fleet}
    {ref : InstanceRef} :
    holderAmong? held fleets ref = none ↔ ∀ fleet ∈ fleets, ref ∉ held fleet := by
  simp [holderAmong?]

theorem Visit.lastLister?_of_shows {held : Fleet → List InstanceRef} {visits : List Visit}
    (h : ∀ v ∈ visits, v.Shows held) (ref : InstanceRef) :
    lastLister? visits ref = holderAmong? held (visits.map (·.fleet)) ref := by
  induction visits using List.reverseRecOn with
  | nil => rfl
  | append_singleton visits v ih =>
      have hv : v.lists ref = true ↔ ref ∈ held v.fleet := h v (by simp) ref
      rw [lastLister?_append_singleton, ih fun v' hv' => h v' (List.mem_append_left _ hv')]
      by_cases hheld : ref ∈ held v.fleet <;> simp [holderAmong?, hheld, hv]

section
variable {ρ : Type} {client : Client ρ} {fleets : List Fleet} {held : Fleet → List InstanceRef}
variable {I : World ρ → Prop}

/-- In worlds that meet the condition the questions about a fleet are answered, always in the same
way, and all that is listed has a key. Asking and reporting keep the condition. -/
structure Client.Unvarying (client : Client ρ) (fleets : List Fleet) (goesBy : Fleet → String)
    (lists : Fleet → List Member) (I : World ρ → Prop) : Prop where
  told : ∀ {w : World ρ} (events : List Event), I w → I (w.reportAll events)
  answers : ∀ {w : World ρ} {fleet : Fleet}, fleet ∈ fleets → I w → ∃ d w₁ w₂,
    client.describe fleet.name w = (.ok d, w₁) ∧ d.name = goesBy fleet ∧
      client.list d.name w₁ = (.ok (lists fleet), w₂) ∧ I w₂
  refs : ∀ {fleet : Fleet}, fleet ∈ fleets → ∀ m ∈ lists fleet, m.ref? ≠ none

/-- In worlds that meet the condition every question about the fleets is answered, and the listings
are of exactly the instances that the fleets hold. Asking and reporting keep the condition. -/
structure Client.Steady (client : Client ρ) (fleets : List Fleet)
    (held : Fleet → List InstanceRef) (I : World ρ → Prop) : Prop where
  told : ∀ {w : World ρ} (events : List Event), I w → I (w.reportAll events)
  answers : ∀ {w : World ρ} {fleet : Fleet}, fleet ∈ fleets → I w → ∃ d members w₁ w₂,
    client.describe fleet.name w = (.ok d, w₁) ∧ client.list d.name w₁ = (.ok members, w₂) ∧
      I w₂ ∧ (∀ m ∈ members, m.ref? ≠ none) ∧
      ∀ ref : InstanceRef, ref.isListed members = true ↔ ref ∈ held fleet

/-- Answers that do not vary are of the same instances. -/
theorem Client.Unvarying.steady {goesBy : Fleet → String} {lists : Fleet → List Member}
    (h : Unvarying client fleets goesBy lists I)
    (hheld : ∀ fleet ref, ref ∈ held fleet ↔ ref.isListed (lists fleet) = true) :
    Steady client fleets held I where
  told := h.told
  answers {w fleet} hf hw := by
    obtain ⟨d, w₁, w₂, hd, -, hl, hw₂⟩ := h.answers hf hw
    exact ⟨d, lists fleet, w₁, w₂, hd, hl, hw₂, h.refs hf, fun ref => (hheld fleet ref).symm⟩

namespace Client.Steady

theorem report (h : Steady client fleets held I) {w : World ρ} (e : Event) (hw : I w) :
    I (w.report e) := h.told [e] hw

theorem made (h : Steady client fleets held I) {fleet : Fleet} (hf : fleet ∈ fleets)
    (seen : List Sighting) {w : World ρ} (hw : I w) :
    ∃ v w', Made client seen w v w' ∧ v.fleet = fleet ∧ I w' ∧ v.Shows held := by
  obtain ⟨d, members, w₁, w₂, hd, hl, hw₂, hrefs, hheld⟩ :=
    h.answers hf (h.report (.visiting fleet.name) hw)
  exact ⟨_, _, .intro hd hl hrefs, rfl, h.told _ hw₂, hheld⟩

/-- While nothing changes a rebuild succeeds, and learns what the fleets hold. -/
theorem survey (h : Steady client fleets held I) (seen : List Sighting) {w : World ρ} (hw : I w) :
    ∃ visits w', Survey client seen w visits w' ∧ visits.map (·.fleet) = fleets ∧ I w' ∧
      ∀ v ∈ visits, v.Shows held := by
  -- the condition is about all fleets, so the induction is on a part of them
  suffices hpart : ∀ part ⊆ fleets, ∃ visits w', Survey client seen w visits w' ∧
      visits.map (·.fleet) = part ∧ I w' ∧ ∀ v ∈ visits, v.Shows held from
    hpart fleets fun _ hf => hf
  intro part hpart
  induction part generalizing seen w with
  | nil => exact ⟨[], w, .nil, rfl, hw, by simp⟩
  | cons fleet rest ih =>
      obtain ⟨hfleet, hrest⟩ := List.cons_subset.1 hpart
      obtain ⟨v, w₁, hv, hvf, hw₁, hvs⟩ := h.made hfleet seen hw
      obtain ⟨visits, w', hs, hf, hw', hshows⟩ := ih (seen ++ v.sightings) hw₁ hrest
      refine ⟨v :: visits, w', .cons hv hs, ?_, hw', List.forall_mem_cons.2 ⟨hvs, hshows⟩⟩
      rw [List.map_cons, hvf, hf]

/-- While nothing changes there is nothing else that a rebuild can learn. -/
theorem shows_of_survey (h : Steady client fleets held I) {seen : List Sighting} {w w' : World ρ}
    (hw : I w) {visits : List Visit} (hs : Survey client seen w visits w')
    (hf : visits.map (·.fleet) = fleets) : ∀ v ∈ visits, v.Shows held := by
  obtain ⟨visits', _, hs', hf', -, hshows⟩ := h.survey seen hw
  obtain ⟨rfl, -⟩ := hs.unique hs' (hf.trans hf'.symm)
  exact hshows

theorem transcribed (h : Steady client fleets held I) :
    Steady client.transcribed fleets held fun w => I w.bare where
  told events hw := h.told events hw
  answers hf hw := by
    obtain ⟨d, members, w₁, w₂, hd, hl, hw₂, hrefs, hheld⟩ := h.answers hf hw
    obtain ⟨u₁, hd', rfl⟩ := (client.projects_describe _).exists_of_eq hd
    obtain ⟨u₂, hl', rfl⟩ := (client.projects_list _).exists_of_eq hl
    exact ⟨d, members, u₁, u₂, hd', hl', hw₂, hrefs, hheld⟩

end Client.Steady
end
end FleetWarden
