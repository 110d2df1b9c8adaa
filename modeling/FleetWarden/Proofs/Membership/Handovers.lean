import FleetWarden.Proofs.Cloud.Asking
import FleetWarden.Proofs.Membership.Questions

/-!
# Handovers

An instance is handed over where two different fleets report it one right after the other. While a
rebuild takes in its listings it warns of every handover of every instance, and of nothing else
about instances (`warnings_tell_handovers`). So an instance that several fleets report is never
passed over in silence, and the last warning about it names the fleet that it is left to.

## Implementation notes

Reports of other instances may stand between two reports of an instance. Handovers are therefore
told from the reports of the one instance alone, of whatever visits they come.
-/

namespace FleetWarden

open Rebuild

namespace Event

/-- The instance that an event is about, if it is about one. -/
def target? : Event → Option InstanceRef
  | conflict target _ _ => some target
  | lookingFor target => some target
  | lookupFailed target _ => some target
  | _ => none

/-- Whether an event is a warning about the instance. -/
def warnsOf (ref : InstanceRef) (e : Event) : Bool := e.level = .warning && e.target? = some ref

theorem warnsOf_conflict {ref target : InstanceRef} {previous kept : Fleet} :
    (conflict target previous kept).warnsOf ref = decide (target = ref) := by
  simp [warnsOf, level, target?]

end Event

namespace World
variable {ρ : Type}

/-- The warnings about an instance, in order. -/
def warnings (w : World ρ) (ref : InstanceRef) : List Event := w.log.filter (·.warnsOf ref)

theorem warnings_reportAll (w : World ρ) (events : List Event) (ref : InstanceRef) :
    (w.reportAll events).warnings ref = w.warnings ref ++ events.filter (·.warnsOf ref) :=
  List.filter_append ..

theorem warnings_report {w : World ρ} {e : Event} {ref : InstanceRef}
    (h : e.warnsOf ref = false) : (w.report e).warnings ref = w.warnings ref := by
  change (w.reportAll [e]).warnings ref = _
  rw [warnings_reportAll, List.filter_cons_of_neg (by simp [h]), List.filter_nil, List.append_nil]

end World

/-- The pairs of different fleets that stand next to each other, in order. -/
def handovers (fleets : List Fleet) : List (Fleet × Fleet) :=
  (fleets.zip fleets.tail).filter fun p => p.1 ≠ p.2

theorem zip_tail_append_singleton {α : Type} (l : List α) (a : α) :
    (l ++ [a]).zip (l ++ [a]).tail = l.zip l.tail ++ (l.getLast?.map (·, a)).toList := by
  induction l with
  | nil => rfl
  | cons b rest ih =>
      cases rest with
      | nil => rfl
      | cons c rest =>
          simp only [List.cons_append, List.tail_cons, List.zip_cons_cons] at ih ⊢
          rw [ih, List.getLast?_cons_cons]

section
variable {fleets : List Fleet} {fleet last : Fleet}

theorem handovers_append_of_same (h : fleets.getLast? = some fleet) :
    handovers (fleets ++ [fleet]) = handovers fleets := by
  rw [handovers, zip_tail_append_singleton, h, List.filter_append]
  simp [handovers]

theorem handovers_append_of_ne (h : fleets.getLast? = some last) (hne : last ≠ fleet) :
    handovers (fleets ++ [fleet]) = handovers fleets ++ [(last, fleet)] := by
  rw [handovers, zip_tail_append_singleton, h, List.filter_append]
  simp [handovers, hne]

/-- Nothing is handed over exactly if there is one fleet at most. -/
theorem handovers_eq_nil_iff :
    handovers fleets = [] ↔ ∀ a ∈ fleets, ∀ b ∈ fleets, a = b := by
  induction fleets using List.reverseRecOn with
  | nil => simp [handovers]
  | append_singleton fleets fleet ih =>
      cases hlast : fleets.getLast? with
      | none =>
          obtain rfl := List.getLast?_eq_none_iff.1 hlast
          simp [handovers]
      | some last =>
          have hmem : last ∈ fleets := List.mem_of_getLast? hlast
          by_cases hsame : last = fleet
          · subst hsame
            rw [handovers_append_of_same hlast, ih]
            constructor
            · intro h a ha b hb
              have hlast : ∀ c ∈ fleets ++ [last], c ∈ fleets := by
                intro c hc
                rcases List.mem_append.1 hc with hc | hc
                · exact hc
                · exact List.mem_singleton.1 hc ▸ hmem
              exact h a (hlast a ha) b (hlast b hb)
            · intro h a ha b hb
              exact h a (List.mem_append_left _ ha) b (List.mem_append_left _ hb)
          · rw [handovers_append_of_ne hlast hsame]
            refine iff_of_false (by simp) fun h => hsame ?_
            exact h last (List.mem_append_left _ hmem) fleet (by simp)

/-- The last handover is to the last fleet. -/
theorem getLast?_of_handovers {p : Fleet × Fleet} (h : (handovers fleets).getLast? = some p) :
    fleets.getLast? = some p.2 := by
  induction fleets using List.reverseRecOn with
  | nil => cases h
  | append_singleton fleets fleet ih =>
      rw [List.getLast?_concat]
      cases hlast : fleets.getLast? with
      | none =>
          obtain rfl := List.getLast?_eq_none_iff.1 hlast
          cases h
      | some last =>
          by_cases hsame : last = fleet
          · subst hsame
            rw [handovers_append_of_same hlast] at h
            exact hlast.symm.trans (ih h)
          · rw [handovers_append_of_ne hlast hsame, List.getLast?_concat] at h
            rw [← Option.some.inj h]

end

namespace Sighting

/-- The fleets that report an instance, in order. -/
def reporters (seen : List Sighting) (ref : InstanceRef) : List Fleet :=
  (seen.filter (·.ref = ref)).map (·.fleet)

theorem getLast?_reporters (seen : List Sighting) (ref : InstanceRef) :
    (reporters seen ref).getLast? = (last? seen ref).map (·.fleet) := by
  rw [reporters, List.getLast?_map, ← List.head?_reverse, ← List.filter_reverse, List.head?_filter,
    last?]

/-- What is said about a handover of the instance. -/
def warning (ref : InstanceRef) (p : Fleet × Fleet) : Event := .conflict ref p.1 p.2

/-- A report brings a warning about its instance exactly if it hands the instance over. -/
theorem handovers_append_singleton (seen : List Sighting) (x : Sighting) (ref : InstanceRef) :
    (handovers (reporters (seen ++ [x]) ref)).map (warning ref) =
      (handovers (reporters seen ref)).map (warning ref) ++
        (conflict seen x).filter (·.warnsOf ref) := by
  by_cases href : x.ref = ref
  · have hreporters : reporters (seen ++ [x]) ref = reporters seen ref ++ [x.fleet] := by
      simp [reporters, href]
    have hlast := getLast?_reporters seen ref
    rw [hreporters, conflict, href]
    cases hseen : last? seen ref with
    | none =>
        rw [hseen] at hlast
        rw [List.getLast?_eq_none_iff.1 hlast]
        rfl
    | some y =>
        rw [hseen] at hlast
        dsimp only
        split_ifs with hsame
        · rw [handovers_append_of_same (hsame ▸ hlast), List.filter_nil, List.append_nil]
        · rw [handovers_append_of_ne hlast hsame, List.map_append]
          simp [warning, Event.warnsOf_conflict]
  · have hreporters : reporters (seen ++ [x]) ref = reporters seen ref := by
      simp [reporters, href]
    have hsilent : ∀ e ∈ conflict seen x, ¬e.warnsOf ref = true := by
      intro e he
      rw [conflict] at he
      split at he
      · split_ifs at he
        · cases he
        · rw [List.mem_singleton.1 he, Event.warnsOf_conflict]
          simpa using href
      · cases he
    rw [hreporters, List.filter_eq_nil_iff.2 hsilent, List.append_nil]

theorem handovers_append (seen rest : List Sighting) (ref : InstanceRef) :
    (handovers (reporters (seen ++ rest) ref)).map (warning ref) =
      (handovers (reporters seen ref)).map (warning ref) ++
        (conflicts seen rest).filter (·.warnsOf ref) := by
  induction rest generalizing seen with
  | nil => simp [conflicts]
  | cons x rest ih =>
      have hsplit : seen ++ x :: rest = seen ++ [x] ++ rest := by simp
      rw [hsplit, ih, handovers_append_singleton, conflicts, List.filter_append, List.append_assoc]

theorem conflicts_append (seen first second : List Sighting) :
    conflicts seen (first ++ second) =
      conflicts seen first ++ conflicts (seen ++ first) second := by
  induction first generalizing seen with
  | nil => simp [conflicts]
  | cons x first ih => simp [conflicts, ih]

end Sighting

section
variable {ρ : Type} {client : Client ρ}

/-- A client that does not itself warn of instances. -/
structure Client.Reticent (client : Client ρ) : Prop where
  describe : ∀ name ref told, Action.Keeps (·.warnings ref = told) (client.describe name)
  list : ∀ name ref told, Action.Keeps (·.warnings ref = told) (client.list name)

theorem Client.Reticent.transcribed (h : client.Reticent) : client.transcribed.Reticent where
  describe name ref told w hw := h.describe name ref told w.bare hw
  list name ref told w hw := h.list name ref told w.bare hw

namespace Rebuild
variable {seen : List Sighting} {w w' : World ρ}

theorem Made.warnings {v : Visit} (h : Made client seen w v w') (hr : client.Reticent)
    (ref : InstanceRef) :
    w'.warnings ref =
      w.warnings ref ++ (Sighting.conflicts seen v.sightings).filter (·.warnsOf ref) := by
  obtain ⟨hd, hl, -⟩ := h
  have hdescribed := (hr.describe _ ref (w.warnings ref)).of_eq (World.warnings_report rfl) hd
  have hlisted := (hr.list _ ref (w.warnings ref)).of_eq hdescribed hl
  rw [World.warnings_reportAll, hlisted]
  rfl

theorem Survey.warnings {visits : List Visit} (h : Survey client seen w visits w')
    (hr : client.Reticent) (ref : InstanceRef) :
    w'.warnings ref = w.warnings ref ++
      (Sighting.conflicts seen (visits.flatMap (·.sightings))).filter (·.warnsOf ref) := by
  induction h with
  | nil => simp [Sighting.conflicts]
  | cons first others ih =>
      rw [ih, first.warnings hr, List.flatMap_cons, Sighting.conflicts_append, List.filter_append,
        List.append_assoc]

/-- The warnings of a whole rebuild are those of its handovers. -/
theorem Survey.warnings_eq {visits : List Visit} (h : Survey client [] w visits w')
    (hr : client.Reticent) (ref : InstanceRef) :
    w'.warnings ref = w.warnings ref ++
      (handovers (Sighting.reporters (visits.flatMap (·.sightings)) ref)).map
        (Sighting.warning ref) := by
  have htold := Sighting.handovers_append [] (visits.flatMap (·.sightings)) ref
  rw [h.warnings hr, ← List.nil_append (visits.flatMap (·.sightings)), htold]
  rfl

/-- A rebuild that succeeds warns of an instance exactly if different fleets reported it. In the
order in which the fleets reported it, each two fleets that follow each other and differ bring one
warning, which names the earlier one as the previous and the later one as the kept fleet; there are
no other warnings about the instance. The fleet kept in the last warning is the owner in the
snapshot. -/
theorem warnings_tell_handovers (hr : client.Reticent) {entries : List Entry}
    {snapshot : Snapshot} {names : List String}
    (h : run client (entries.map (·.fleet)) w = (.ok (snapshot, names), w')) :
    ∃ visits : List Visit,
      visits.map (·.fleet) = entries.map (·.fleet) ∧ visits.map (·.name) = names ∧
      (run client.transcribed (entries.map (·.fleet)) w.transcribed).2.remote.transcript =
        visits.flatMap (·.exchanges) ∧
      ∀ ref,
        let reporters := Sighting.reporters (visits.flatMap (·.sightings)) ref
        let told := (handovers reporters).map fun p => Event.conflict ref p.1 p.2
        w'.warnings ref = w.warnings ref ++ told ∧
        (told ≠ [] ↔ ∃ a ∈ reporters, ∃ b ∈ reporters, a ≠ b) ∧
        ∀ previous kept, told.getLast? = some (.conflict ref previous kept) →
          snapshot.ownerOf? ref = some kept := by
  obtain ⟨u, hrun, rfl⟩ := (projects_run client (entries.map (·.fleet))).exists_of_eq
    (s := w.transcribed) h
  obtain ⟨visits, hs, hfleets, hnames, rfl⟩ := run_eq_ok_iff.1 hrun
  refine ⟨visits, hfleets, hnames, ?_, fun ref => ?_⟩
  · rw [hrun]
    exact hs.transcript
  · intro reporters told
    refine ⟨hs.warnings_eq hr.transcribed ref, ?_, fun previous kept hlast => ?_⟩
    · rw [ne_eq, List.map_eq_nil_iff, handovers_eq_nil_iff]
      push Not
      rfl
    · obtain ⟨p, hp, heq⟩ := Option.map_eq_some_iff.1 ((List.getLast?_map ..).symm.trans hlast)
      have hkept : p.2 = kept := by
        cases heq
        rfl
      rw [Snapshot.ownerOf?_ofSightings, ← Sighting.getLast?_reporters, ← hkept]
      exact getLast?_of_handovers hp

end Rebuild
end

namespace InMemory

theorem unmoved_warnings (ref : InstanceRef) (told : List Event) :
    Unmoved (·.warnings ref = told) where
  record _ := Action.keeps_change fun _ hw => hw
  mayFail point name w hw := by
    rw [mayFail]
    cases takeFailure point name w.remote.failures <;> exact hw
  find name w hw := by
    rw [find]
    cases w.remote.sets.find? (·.answersTo name) <;> exact hw

/-- The checked client reports what it lists, and gives no warnings. -/
theorem reticent_checked (group : ResourceGroup) : (Client.checked azure group).Reticent where
  describe _ ref told := Client.keeps_describeChecked (unmoved_warnings ref told).get
  list _ ref told :=
    have h := unmoved_warnings ref told
    Client.keeps_listChecked h.list (fun _ => h.mayFail _ _)
      fun _ _ hw => (World.warnings_report rfl).trans hw

end InMemory

namespace Rebuild

def hill : Fleet := ⟨0, ⟨"hill", 2, 7, by decide +kernel, by decide⟩⟩

def dale : Fleet := ⟨1, ⟨"dale", 2, 7, by decide +kernel, by decide⟩⟩

/-- Two sets that both list one instance, in different spellings. -/
def sharedInstance : World InMemory :=
  .start (.ofSets [
    ⟨"hill", some "hill", .int 1, true, [⟨some "0", some "/vm/a"⟩], .zero⟩,
    ⟨"dale", some "dale", .int 1, true, [⟨some "4", some "azure:///VM/A"⟩], .zero⟩]) .zero

def sharedRef : InstanceRef := ⟨"azure:///vm/a", "/vm/a", by decide +kernel⟩

/-- The instance goes to the second fleet and back to the first, which is registered twice. -/
theorem warnings_tell_handovers_backAndForth :
    let client := Client.checked InMemory.azure (.text "rg")
    ∃ snapshot names w',
      run client [hill, dale, hill] sharedInstance = (.ok (snapshot, names), w') ∧
      w'.warnings sharedRef = [.conflict sharedRef hill dale, .conflict sharedRef dale hill] ∧
      snapshot.ownerOf? sharedRef = some hill ∧
      ∃ visits : List Visit, visits.map (·.fleet) = [hill, dale, hill] ∧
        w'.warnings sharedRef = (handovers (Sighting.reporters (visits.flatMap (·.sightings))
          sharedRef)).map fun p => .conflict sharedRef p.1 p.2 := by
  intro client
  obtain ⟨snapshot, hsnapshot⟩ : ∃ snapshot, (run client [hill, dale, hill] sharedInstance).1 =
      .ok (snapshot, ["hill", "dale", "hill"]) := ⟨_, rfl⟩
  have hrun : run client (([hill, dale, hill].map Entry.fresh).map (·.fleet)) sharedInstance =
      (.ok (snapshot, ["hill", "dale", "hill"]),
        (run client [hill, dale, hill] sharedInstance).2) :=
    Prod.ext hsnapshot rfl
  obtain ⟨visits, hfleets, -, -, htold⟩ :=
    warnings_tell_handovers (InMemory.reticent_checked (.text "rg")) hrun
  obtain ⟨hwarnings, -, hlast⟩ := htold sharedRef
  refine ⟨snapshot, _, _, hrun, rfl, hlast dale hill ?_, visits, hfleets, hwarnings⟩
  exact congrArg List.getLast? hwarnings.symm

end Rebuild
end FleetWarden
