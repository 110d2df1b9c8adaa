import FleetWarden.Proofs.Membership.Sightings

/-!
# Rebuilds by the answers they get

A rebuild goes through its fleets and asks two questions about each: what it is called, and what is
listed under that name. `Survey` says which answers a rebuild got, and `Halt` at which question or
member it came to an end and with which fault. `run_eq_ok_iff` and `run_eq_error_iff` say that these
two cover every rebuild: a survey always yields the snapshot of its reports, and nothing but a halt
yields a fault.

## Implementation notes

A client may look at the log, so the events between two questions belong to the relations. What was
reported before is an argument of its own, because the warnings about a change of fleet depend on
it.
-/

namespace FleetWarden

open Numeral Rebuild

namespace World
variable {ρ : Type}

/-- Reports events one after the other. -/
def reportAll (w : World ρ) (events : List Event) : World ρ := { w with log := w.log ++ events }

@[simp] theorem remote_report (w : World ρ) (e : Event) : (w.report e).remote = w.remote := rfl

@[simp] theorem remote_reportAll (w : World ρ) (events : List Event) :
    (w.reportAll events).remote = w.remote := rfl

@[simp] theorem reportAll_nil (w : World ρ) : w.reportAll [] = w := by
  simp [reportAll]

@[simp] theorem reportAll_reportAll (w : World ρ) (first second : List Event) :
    (w.reportAll first).reportAll second = w.reportAll (first ++ second) := by
  simp [reportAll]

end World

namespace Sighting

/-- What is said about a report of an instance that another fleet had before. -/
def conflict (seen : List Sighting) (x : Sighting) : List Event :=
  match last? seen x.ref with
  | some y => if y.fleet = x.fleet then [] else [.conflict x.ref y.fleet x.fleet]
  | none => []

/-- What is said about reports that come after others. -/
def conflicts : List Sighting → List Sighting → List Event
  | _, [] => []
  | seen, x :: rest => conflict seen x ++ conflicts (seen ++ [x]) rest

/-- The reports that members of a fleet stand for. -/
def ofMembers (fleet : Fleet) (members : List Member) : List Sighting :=
  members.filterMap fun m => m.ref?.map fun ref => ⟨ref, fleet, m.instanceId⟩

theorem ofMembers_cons {fleet : Fleet} {m : Member} {rest : List Member} {ref : InstanceRef}
    (h : m.ref? = some ref) :
    ofMembers fleet (m :: rest) = ⟨ref, fleet, m.instanceId⟩ :: ofMembers fleet rest := by
  simp [ofMembers, h]

theorem mem_ofMembers_iff {fleet : Fleet} {members : List Member} {x : Sighting} :
    x ∈ ofMembers fleet members ↔
      ∃ m ∈ members, m.ref? = some x.ref ∧ fleet = x.fleet ∧ m.instanceId = x.instanceId := by
  cases x
  simp [ofMembers, List.mem_filterMap, Option.map_eq_some_iff]

end Sighting

namespace Rebuild
variable {ρ : Type} {client : Client ρ} {fleet : Fleet} {seen : List Sighting} {w w' : World ρ}

theorem reportConflict_ofSightings (x : Sighting) :
    reportConflict ((Progress.ofSightings seen).owners.get? x.ref) x.fleet x.ref w =
      (.ok (), w.reportAll (x.conflict seen)) := by
  rw [Progress.ofSightings, Sighting.get?_latest, Sighting.conflict]
  cases Sighting.last? seen x.ref with
  | none => simp [reportConflict]
  | some y =>
      by_cases h : y.fleet = x.fleet
      · simp [reportConflict, h]
      · simp [reportConflict, h, emit, World.report, World.reportAll]

theorem takeMembers_cons {m : Member} {rest : List Member} {ref : InstanceRef}
    (h : m.ref? = some ref) :
    takeMembers fleet (.ofSightings seen) (m :: rest) w =
      takeMembers fleet (.ofSightings (seen ++ [⟨ref, fleet, m.instanceId⟩])) rest
        (w.reportAll (Sighting.conflict seen ⟨ref, fleet, m.instanceId⟩)) := by
  have hc : reportConflict ((Progress.ofSightings seen).owners.get? ref) fleet ref w = _ :=
    reportConflict_ofSightings ⟨ref, fleet, m.instanceId⟩
  simp only [takeMembers, h]
  rw [Action.bind_of_ok hc, ← Progress.take_ofSightings]

/-- Members that all have a key are taken in as their reports. -/
theorem takeMembers_of_refs {members : List Member} (h : ∀ m ∈ members, m.ref? ≠ none) :
    takeMembers fleet (.ofSightings seen) members w =
      (.ok (.ofSightings (seen ++ Sighting.ofMembers fleet members)),
        w.reportAll (Sighting.conflicts seen (Sighting.ofMembers fleet members))) := by
  induction members generalizing seen w with
  | nil => simp [takeMembers, Sighting.ofMembers, Sighting.conflicts]
  | cons m rest ih =>
      obtain ⟨ref, hm⟩ := Option.ne_none_iff_exists'.1 (h m List.mem_cons_self)
      have hrest : ∀ m' ∈ rest, m'.ref? ≠ none := fun m' h' => h m' (List.mem_cons_of_mem _ h')
      rw [takeMembers_cons hm, ih hrest, Sighting.ofMembers_cons hm, Sighting.conflicts]
      simp

/-- The first member without a key ends the taking in; the members after it do not matter. -/
theorem takeMembers_of_not_ref {good others : List Member} {m : Member}
    (h : ∀ m' ∈ good, m'.ref? ≠ none) (hm : m.ref? = none) :
    takeMembers fleet (.ofSightings seen) (good ++ m :: others) w =
      (.error .blankInstance,
        w.reportAll (Sighting.conflicts seen (Sighting.ofMembers fleet good))) := by
  induction good generalizing seen w with
  | nil => simp [takeMembers, hm, Sighting.ofMembers, Sighting.conflicts]
  | cons m' rest ih =>
      obtain ⟨ref, hm'⟩ := Option.ne_none_iff_exists'.1 (h m' List.mem_cons_self)
      have hrest : ∀ q ∈ rest, q.ref? ≠ none := fun q hq => h q (List.mem_cons_of_mem _ hq)
      rw [List.cons_append, takeMembers_cons hm', ih hrest, Sighting.ofMembers_cons hm',
        Sighting.conflicts]
      simp

/-- Either all members have a key or there is a first one that has none. -/
theorem refs_or_first_not_ref (members : List Member) :
    (∀ m ∈ members, m.ref? ≠ none) ∨
      ∃ good m others, members = good ++ m :: others ∧ (∀ m' ∈ good, m'.ref? ≠ none) ∧
        m.ref? = none := by
  cases h : members.find? (·.ref? = none) with
  | none => exact Or.inl (by simpa using h)
  | some m =>
      obtain ⟨hm, good, others, he, hg⟩ := List.find?_eq_some_iff_append.1 h
      exact Or.inr ⟨good, m, others, he, by simpa using hg, by simpa using hm⟩

end Rebuild

/-- What a rebuild learns about one fleet. -/
structure Visit where
  fleet : Fleet
  /-- The name that the fleet goes by. -/
  name : String
  members : List Member

namespace Visit

def sightings (v : Visit) : List Sighting := Sighting.ofMembers v.fleet v.members

/-- The entry that a rebuild leaves for the fleet. -/
def entry (v : Visit) : Entry := ⟨v.fleet, v.name⟩

end Visit

/-- An instance is only ever reported as one of the fleets that are visited. -/
theorem fleet_mem_of_last? {visits : List Visit} {ref : InstanceRef} {x : Sighting}
    (h : Sighting.last? (visits.flatMap (·.sightings)) ref = some x) :
    x.fleet ∈ visits.map (·.fleet) := by
  obtain ⟨hx, -⟩ := Sighting.mem_of_last? h
  obtain ⟨v, hv, hxv⟩ := List.mem_flatMap.1 hx
  obtain ⟨m, -, -, hfleet, -⟩ := Sighting.mem_ofMembers_iff.1 hxv
  exact hfleet ▸ List.mem_map_of_mem hv

namespace Rebuild
variable {ρ : Type}

/-- A visit that gets both answers, to members that all have a key. -/
inductive Made (client : Client ρ) (seen : List Sighting) (w : World ρ) : Visit → World ρ → Prop
  | intro {fleet : Fleet} {d : Description} {members : List Member} {w₁ w₂ : World ρ}
      (described : client.describe fleet.name (w.report (.visiting fleet.name)) = (.ok d, w₁))
      (listed : client.list d.name w₁ = (.ok members, w₂))
      (refs : ∀ m ∈ members, m.ref? ≠ none) :
      Made client seen w ⟨fleet, d.name, members⟩
        (w₂.reportAll (Sighting.conflicts seen (Sighting.ofMembers fleet members)))

/-- A visit that comes to an end before its time, with the fault of the point where it did. -/
inductive Missed (client : Client ρ) (seen : List Sighting) (w : World ρ) (fleet : Fleet) :
    Fault → World ρ → Prop
  | describe {e : Fault} {w₁ : World ρ}
      (refused : client.describe fleet.name (w.report (.visiting fleet.name)) = (.error e, w₁)) :
      Missed client seen w fleet e (w₁.report (.describeFailed fleet.name e.message))
  | list {d : Description} {e : Fault} {w₁ w₂ : World ρ}
      (described : client.describe fleet.name (w.report (.visiting fleet.name)) = (.ok d, w₁))
      (refused : client.list d.name w₁ = (.error e, w₂)) :
      Missed client seen w fleet e (w₂.report (.listFailed fleet.name e.message))
  | member {d : Description} {good others : List Member} {m : Member} {w₁ w₂ : World ρ}
      (described : client.describe fleet.name (w.report (.visiting fleet.name)) = (.ok d, w₁))
      (listed : client.list d.name w₁ = (.ok (good ++ m :: others), w₂))
      (refs : ∀ m' ∈ good, m'.ref? ≠ none) (blank : m.ref? = none) :
      Missed client seen w fleet .blankInstance
        (w₂.reportAll (Sighting.conflicts seen (Sighting.ofMembers fleet good)))

/-- Visits that are all made, one after the other. -/
inductive Survey (client : Client ρ) : List Sighting → World ρ → List Visit → World ρ → Prop
  | nil {seen : List Sighting} {w : World ρ} : Survey client seen w [] w
  | cons {seen : List Sighting} {w w₁ w' : World ρ} {v : Visit} {rest : List Visit}
      (first : Made client seen w v w₁) (others : Survey client (seen ++ v.sightings) w₁ rest w') :
      Survey client seen w (v :: rest) w'

/-- There is only one way in which a visit can be made. -/
theorem Made.unique {client : Client ρ} {seen : List Sighting} {w w₁ w₂ : World ρ} {v v' : Visit}
    (h : Made client seen w v w₁) (h' : Made client seen w v' w₂) (hf : v.fleet = v'.fleet) :
    v = v' ∧ w₁ = w₂ := by
  obtain ⟨hd, hl, -⟩ := h
  obtain ⟨hd', hl', -⟩ := h'
  obtain rfl := hf
  cases hd.symm.trans hd'
  cases hl.symm.trans hl'
  exact ⟨rfl, rfl⟩

/-- The fleets to visit determine a survey. -/
theorem Survey.unique {client : Client ρ} {seen : List Sighting} {w w₁ w₂ : World ρ}
    {visits visits' : List Visit} (h : Survey client seen w visits w₁)
    (h' : Survey client seen w visits' w₂) (hf : visits.map (·.fleet) = visits'.map (·.fleet)) :
    visits = visits' ∧ w₁ = w₂ := by
  induction h generalizing visits' with
  | nil =>
      obtain rfl := List.map_eq_nil_iff.1 hf.symm
      cases h'
      exact ⟨rfl, rfl⟩
  | cons first others ih =>
      cases h' with
      | nil => cases hf
      | cons first' others' =>
          obtain ⟨hv, hrest⟩ := List.cons.inj hf
          obtain ⟨rfl, rfl⟩ := first.unique first' hv
          obtain ⟨rfl, rfl⟩ := ih others' hrest
          exact ⟨rfl, rfl⟩

/-- Visits of which the last one is missed; the fleets after it are not asked about. -/
inductive Halt (client : Client ρ) : List Sighting → World ρ → List Fleet → Fault → World ρ → Prop
  | here {seen : List Sighting} {w w' : World ρ} {fleet : Fleet} {rest : List Fleet} {e : Fault}
      (missed : Missed client seen w fleet e w') : Halt client seen w (fleet :: rest) e w'
  | later {seen : List Sighting} {w w₁ w' : World ρ} {v : Visit} {rest : List Fleet} {e : Fault}
      (first : Made client seen w v w₁) (others : Halt client (seen ++ v.sightings) w₁ rest e w') :
      Halt client seen w (v.fleet :: rest) e w'

section
variable {client : Client ρ} {fleet : Fleet} {fleets : List Fleet} {seen : List Sighting}
variable {w w' : World ρ} {e : Fault} {p : Progress}

theorem visit_eq_ok_iff {name : String} :
    visit client fleet (.ofSightings seen) w = (.ok (p, name), w') ↔
      ∃ v, Made client seen w v w' ∧ v.fleet = fleet ∧ v.name = name ∧
        p = .ofSightings (seen ++ v.sightings) := by
  simp only [visit, emit, Action.bind_eq_ok_iff, Action.onFailure_eq_ok_iff, Action.change_apply,
    Action.pure_apply, Prod.mk.injEq, Except.ok.injEq]
  constructor
  · rintro ⟨_, _, ⟨-, rfl⟩, d, w₁, hd, members, w₂, hl, p', w₃, ht, ⟨rfl, rfl⟩, rfl⟩
    rcases refs_or_first_not_ref members with hr | ⟨good, m, others, rfl, hg, hm⟩
    · rw [takeMembers_of_refs hr] at ht
      cases ht
      exact ⟨_, .intro hd hl hr, rfl, rfl, rfl⟩
    · rw [takeMembers_of_not_ref hg hm] at ht
      cases ht
  · rintro ⟨_, ⟨hd, hl, hr⟩, rfl, rfl, rfl⟩
    exact ⟨(), _, ⟨trivial, rfl⟩, _, _, hd, _, _, hl, _, _, takeMembers_of_refs hr, ⟨rfl, rfl⟩, rfl⟩

theorem visit_eq_error_iff :
    visit client fleet (.ofSightings seen) w = (.error e, w') ↔
      Missed client seen w fleet e w' := by
  simp only [visit, emit, Action.bind_eq_error_iff, Action.onFailure_eq_error_iff,
    Action.onFailure_eq_ok_iff, Action.change_apply, Action.pure_apply, Prod.mk.injEq,
    reduceCtorEq, false_and, false_or, and_false, or_false, exists_false]
  constructor
  · rintro ⟨_, _, ⟨-, rfl⟩, ⟨w₁, hd, rfl⟩ | ⟨d, w₁, hd, ⟨w₂, hl, rfl⟩ | ⟨members, w₂, hl, ht⟩⟩⟩
    · exact .describe hd
    · exact .list hd hl
    · rcases refs_or_first_not_ref members with hr | ⟨good, m, others, rfl, hg, hm⟩
      · rw [takeMembers_of_refs hr] at ht
        cases ht
      · rw [takeMembers_of_not_ref hg hm] at ht
        cases ht
        exact .member hd hl hg hm
  · rintro (hd | ⟨hd, hl⟩ | ⟨hd, hl, hg, hm⟩)
    · exact ⟨(), _, ⟨trivial, rfl⟩, Or.inl ⟨_, hd, rfl⟩⟩
    · exact ⟨(), _, ⟨trivial, rfl⟩, Or.inr ⟨_, _, hd, Or.inl ⟨_, hl, rfl⟩⟩⟩
    · refine ⟨(), _, ⟨trivial, rfl⟩, Or.inr ⟨_, _, hd, Or.inr ⟨_, _, hl, ?_⟩⟩⟩
      exact takeMembers_of_not_ref hg hm

theorem visitAll_eq_ok_iff {names : List String} :
    visitAll client (.ofSightings seen) fleets w = (.ok (p, names), w') ↔
      ∃ visits, Survey client seen w visits w' ∧ visits.map (·.fleet) = fleets ∧
        visits.map (·.name) = names ∧ p = .ofSightings (seen ++ visits.flatMap (·.sightings)) := by
  induction fleets generalizing seen w p names with
  | nil =>
      simp only [visitAll, Action.pure_apply, Prod.mk.injEq, Except.ok.injEq]
      constructor
      · rintro ⟨⟨rfl, rfl⟩, rfl⟩
        exact ⟨[], .nil, rfl, rfl, by simp⟩
      · rintro ⟨visits, hs, hf, rfl, rfl⟩
        obtain rfl := List.map_eq_nil_iff.1 hf
        cases hs
        simp
  | cons fleet rest ih =>
      simp only [visitAll, Action.bind_eq_ok_iff, Action.pure_apply, Prod.mk.injEq,
        Except.ok.injEq]
      constructor
      · rintro ⟨⟨p₁, name⟩, w₁, hv, ⟨final, others⟩, w₂, ha, ⟨rfl, rfl⟩, rfl⟩
        obtain ⟨v, hm, rfl, rfl, rfl⟩ := visit_eq_ok_iff.1 hv
        obtain ⟨visits, hs, rfl, rfl, rfl⟩ := ih.1 ha
        exact ⟨v :: visits, .cons hm hs, rfl, rfl, by simp⟩
      · rintro ⟨_ | ⟨v, visits⟩, hs, hf, rfl, rfl⟩
        · cases hf
        · obtain ⟨rfl, rfl⟩ := List.cons.inj hf
          cases hs with
          | cons first others =>
              have hv := visit_eq_ok_iff.2 ⟨v, first, rfl, rfl, rfl⟩
              have ha := ih.2 ⟨visits, others, rfl, rfl, rfl⟩
              exact ⟨_, _, hv, _, _, ha, by simp, rfl⟩

theorem visitAll_eq_error_iff :
    visitAll client (.ofSightings seen) fleets w = (.error e, w') ↔
      Halt client seen w fleets e w' := by
  induction fleets generalizing seen w with
  | nil =>
      constructor
      · intro h
        cases h
      · intro h
        cases h
  | cons fleet rest ih =>
      simp only [visitAll, Action.bind_eq_error_iff, Action.pure_apply, Prod.mk.injEq,
        reduceCtorEq, false_and, and_false, or_false, exists_false]
      constructor
      · rintro (hv | ⟨⟨p, name⟩, w₁, hv, ha⟩)
        · exact .here (visit_eq_error_iff.1 hv)
        · obtain ⟨v, hm, rfl, rfl, rfl⟩ := visit_eq_ok_iff.1 hv
          exact .later hm (ih.1 ha)
      · intro h
        cases h with
        | here missed => exact Or.inl (visit_eq_error_iff.2 missed)
        | later first others =>
            exact Or.inr ⟨_, _, visit_eq_ok_iff.2 ⟨_, first, rfl, rfl, rfl⟩, ih.2 others⟩

/-- The two maps of a rebuild always cover the same instances. -/
theorem finish_ofSightings (w : World ρ) :
    finish (.ofSightings seen) w = (.ok (.ofSightings seen w.clock), w) := by
  have h : Snapshot.sameKeys (Sighting.latest (·.fleet) seen)
      (Sighting.latest (·.instanceId) seen) = true :=
    Snapshot.sameKeys_iff.2 (Snapshot.ofSightings seen w.clock).covers
  rw [finish, Action.bind_of_ok (Action.look_apply _ w)]
  simp [Progress.ofSightings, Snapshot.ofMaps?, h, Snapshot.ofSightings]

/-- A rebuild that succeeds is a survey, and yields the snapshot of its reports. -/
theorem run_eq_ok_iff {snapshot : Snapshot} {names : List String} :
    run client fleets w = (.ok (snapshot, names), w') ↔
      ∃ visits, Survey client [] w visits w' ∧ visits.map (·.fleet) = fleets ∧
        visits.map (·.name) = names ∧
        snapshot = .ofSightings (visits.flatMap (·.sightings)) w'.clock := by
  change (visitAll client (.ofSightings []) fleets >>= _) w = _ ↔ _
  simp only [Action.bind_eq_ok_iff, Action.pure_apply, Prod.mk.injEq, Except.ok.injEq]
  constructor
  · rintro ⟨⟨p, names⟩, w₁, ha, s, w₂, hf, ⟨rfl, rfl⟩, rfl⟩
    obtain ⟨visits, hs, rfl, rfl, rfl⟩ := visitAll_eq_ok_iff.1 ha
    rw [finish_ofSightings] at hf
    cases hf
    exact ⟨visits, hs, rfl, rfl, by simp⟩
  · rintro ⟨visits, hs, rfl, rfl, rfl⟩
    have ha := visitAll_eq_ok_iff.2 ⟨visits, hs, rfl, rfl, rfl⟩
    exact ⟨_, _, ha, _, _, finish_ofSightings _, by simp, rfl⟩

/-- A rebuild fails exactly where a visit is missed, and with the fault of that visit. -/
theorem run_eq_error_iff :
    run client fleets w = (.error e, w') ↔ Halt client [] w fleets e w' := by
  change (visitAll client (.ofSightings []) fleets >>= _) w = _ ↔ _
  rw [← visitAll_eq_error_iff, Action.bind_eq_error_iff]
  constructor
  · rintro (ha | ⟨⟨p, names⟩, w₁, ha, hf⟩)
    · exact ha
    · obtain ⟨visits, -, -, -, rfl⟩ := visitAll_eq_ok_iff.1 ha
      change (finish _ >>= _) w₁ = _ at hf
      rw [Action.bind_of_ok (finish_ofSightings w₁)] at hf
      cases hf
  · exact Or.inl

end
end Rebuild
end FleetWarden
