import FleetWarden.Proofs.Cloud.Asking
import FleetWarden.Proofs.Cloud.SteadySets
import FleetWarden.Proofs.Manager.FailedRebuild
import FleetWarden.Proofs.Pairs

/-!
# Two views of a fleet

The instances of a fleet can be read off the snapshot or listed directly. The snapshot lists every
fleet under the name that it goes by, keeps all reports in one map and picks out those whose last
report is of the fleet; the direct list is under the fleet's own name. Where the remote side looks
names up without regard to case and does not change, both views are the same list, provided that no
other fleet lists any of the instances and that none is listed twice
(`fleetInstances_eq_membersOf`).

## Implementation notes

A fleet that is registered several times is visited several times, and each visit reports the same
instances. Only the first reports of them count for the order, so nothing is assumed about the
number of visits.
-/

namespace FleetWarden

open Rebuild Text

section
variable {α β : Type} [DecidableEq α]

theorem eraseDups_of_nodup {l : List α} (h : l.Nodup) : l.eraseDups = l := by
  induction l using List.reverseRecOn with
  | nil => rfl
  | append_singleton l a ih =>
      obtain ⟨hl, -, hdisjoint⟩ := List.nodup_append.1 h
      have ha : a ∉ l := fun hmem => hdisjoint a hmem a List.mem_cons_self rfl
      rw [eraseDups_append_singleton, if_neg ha, ih hl]

/-- A list that is repeated counts once. -/
theorem eraseDups_flatMap_ite {l : List α} {items : List β} {p : β → Prop} [DecidablePred p]
    (hl : l.Nodup) (h : ∃ x ∈ items, p x) :
    (items.flatMap fun x => if p x then l else []).eraseDups = l := by
  induction items with
  | nil => simp at h
  | cons x rest ih =>
      rw [List.flatMap_cons]
      by_cases hx : p x
      · have hrest : (rest.flatMap fun x => if p x then l else []).removeAll l = [] := by
          simp only [List.removeAll, List.filter_eq_nil_iff, List.mem_flatMap]
          rintro a ⟨y, -, ha⟩
          have hal : a ∈ l := by
            by_cases hy : p y
            · rwa [if_pos hy] at ha
            · simp [hy] at ha
          simp [hal]
        rw [if_pos hx, List.eraseDups_append, hrest, eraseDups_of_nodup hl, List.eraseDups_nil,
          List.append_nil]
      · obtain ⟨y, hy, hpy⟩ := h
        have hyrest : y ∈ rest := by
          rcases List.mem_cons.1 hy with rfl | hrest
          · exact absurd hpy hx
          · exact hrest
        rw [if_neg hx, List.nil_append, ih ⟨y, hyrest, hpy⟩]

end

/-- The references of the members that have one. -/
def Member.refs (members : List Member) : List InstanceRef := members.filterMap (·.ref?)

theorem InstanceRef.isListed_iff_mem_refs {ref : InstanceRef} {members : List Member} :
    ref.isListed members = true ↔ ref ∈ Member.refs members := by
  rw [isListed_iff, Member.refs, List.mem_filterMap]

theorem Sighting.map_ref_ofMembers (fleet : Fleet) (members : List Member) :
    (ofMembers fleet members).map (·.ref) = Member.refs members := by
  simp [ofMembers, Member.refs, List.map_filterMap, Function.comp_def]

/-- The members of a fleet are the instances that it owns, in the order of the snapshot. -/
theorem Snapshot.membersOf_eq_filter (s : Snapshot) (fleet : Fleet) :
    s.membersOf fleet = s.refs.filter fun ref => s.ownerOf? ref = some fleet := by
  rw [membersOf, refs, InsertionMap.keys, List.filter_map]
  congr 1
  refine List.filter_congr fun p hp => ?_
  have howner : s.ownerOf? p.1 = some p.2 := lookup_of_mem s.owners.nodup hp
  simp [howner]

namespace Visit
variable {visits : List Visit} {fleet : Fleet} {l : List InstanceRef} {ref : InstanceRef}

theorem membersOf_ofVisits (visits : List Visit) (now : Numeral.Binary64) (fleet : Fleet) :
    (Snapshot.ofSightings (visits.flatMap (·.sightings)) now).membersOf fleet =
      ((visits.flatMap fun v => Member.refs v.members).filter fun ref =>
        lastLister? visits ref = some fleet).eraseDups := by
  have hrefs : (visits.flatMap (·.sightings)).map (·.ref) =
      visits.flatMap fun v => Member.refs v.members := by
    simp only [List.map_flatMap, sightings, Sighting.map_ref_ofMembers]
  simp only [Snapshot.membersOf_eq_filter, ownerOf?_ofVisits, Snapshot.refs_ofSightings, hrefs,
    filter_eraseDups]

theorem exists_of_lastLister? (h : lastLister? visits ref = some fleet) :
    ∃ v ∈ visits, v.fleet = fleet ∧ ref ∈ Member.refs v.members := by
  obtain ⟨v, hv, rfl⟩ := Option.map_eq_some_iff.1 h
  refine ⟨v, List.mem_reverse.1 (List.mem_of_find?_eq_some hv), rfl, ?_⟩
  have hlists : v.lists ref = true := by simpa using List.find?_some hv
  exact InstanceRef.isListed_iff_mem_refs.1 hlists

/-- The fleet was visited, every visit to it found the same instances, and no visit to another fleet
found any of them. -/
structure Alone (visits : List Visit) (fleet : Fleet) (l : List InstanceRef) : Prop where
  visited : ∃ v ∈ visits, v.fleet = fleet
  same : ∀ v ∈ visits, v.fleet = fleet → Member.refs v.members = l
  others : ∀ v ∈ visits, v.fleet ≠ fleet → ∀ ref ∈ Member.refs v.members, ref ∉ l

theorem Alone.lastLister?_eq_iff (h : Alone visits fleet l) :
    lastLister? visits ref = some fleet ↔ ref ∈ l := by
  constructor
  · intro hlast
    obtain ⟨v, hv, hfleet, href⟩ := exists_of_lastLister? hlast
    rwa [← h.same v hv hfleet]
  · intro href
    cases hlast : lastLister? visits ref with
    | none =>
        obtain ⟨v, hv, hfleet⟩ := h.visited
        have hlists : v.lists ref = true :=
          InstanceRef.isListed_iff_mem_refs.2 ((h.same v hv hfleet).symm ▸ href)
        rw [lastLister?_eq_none_iff.1 hlast v hv] at hlists
        cases hlists
    | some other =>
        obtain ⟨v, hv, rfl, hfound⟩ := exists_of_lastLister? hlast
        by_cases hfleet : v.fleet = fleet
        · rw [hfleet]
        · exact absurd href (h.others v hv hfleet ref hfound)

/-- What a fleet alone has listed is what the snapshot says of it, in the same order. -/
theorem Alone.membersOf_eq (h : Alone visits fleet l) (hl : l.Nodup) (now : Numeral.Binary64) :
    (Snapshot.ofSightings (visits.flatMap (·.sightings)) now).membersOf fleet = l := by
  have hfilter : ∀ v ∈ visits, ((Member.refs v.members).filter fun ref =>
      lastLister? visits ref = some fleet) = if v.fleet = fleet then l else [] := by
    intro v hv
    simp only [h.lastLister?_eq_iff]
    by_cases hfleet : v.fleet = fleet
    · rw [if_pos hfleet, h.same v hv hfleet]
      exact List.filter_eq_self.2 fun ref href => by simpa using href
    · rw [if_neg hfleet, List.filter_eq_nil_iff]
      intro ref href
      simpa using h.others v hv hfleet ref href
  rw [membersOf_ofVisits, List.filter_flatMap, List.flatMap_def, List.map_congr_left hfilter,
    ← List.flatMap_def, eraseDups_flatMap_ite hl h.visited]

end Visit

section
variable {ρ : Type} {client : Client ρ} {listing : String → Option (List Member)}
variable {I : World ρ → Prop}

/-- In worlds that meet the condition a listing depends on the name alone, and not on its case.
Asking and reporting keep the condition, whatever the answer. -/
structure Client.Fixed (client : Client ρ) (listing : String → Option (List Member))
    (I : World ρ → Prop) : Prop where
  told : ∀ {w : World ρ} (events : List Event), I w → I (w.reportAll events)
  describe : ∀ name, Action.Keeps I (client.describe name)
  list : ∀ name, Action.Keeps I (client.list name)
  lists : ∀ {w : World ρ} (name : String), I w → (client.list name w).1.toOption = listing name
  caseless : ∀ {a b : String}, lower a = lower b → listing a = listing b

namespace Client.Fixed

theorem made (h : Fixed client listing I) {seen : List Sighting} {w w' : World ρ} {v : Visit}
    (hw : I w) (hv : Made client seen w v w') :
    I w' ∧ listing v.name = some v.members ∧ ∀ m ∈ v.members, m.ref? ≠ none := by
  obtain ⟨hd, hl, hrefs⟩ := hv
  have hw₁ := (h.describe _).of_eq (h.told [_] hw) hd
  refine ⟨h.told _ ((h.list _).of_eq hw₁ hl), ?_, hrefs⟩
  rw [← h.lists _ hw₁, hl]
  rfl

theorem survey (h : Fixed client listing I) {seen : List Sighting} {w w' : World ρ}
    {visits : List Visit} (hw : I w) (hs : Survey client seen w visits w') :
    I w' ∧ ∀ v ∈ visits, listing v.name = some v.members ∧ ∀ m ∈ v.members, m.ref? ≠ none := by
  induction hs with
  | nil => exact ⟨hw, by simp⟩
  | cons first others ih =>
      obtain ⟨hw₁, hv⟩ := h.made hw first
      obtain ⟨hw', hrest⟩ := ih hw₁
      exact ⟨hw', List.forall_mem_cons.2 ⟨hv, hrest⟩⟩

end Client.Fixed

end

namespace InMemory
variable {name : String} {sets : List RemoteSet}

/-- The listing under a name: there is one if a set is found and all of it has ids. -/
def listing (sets : List RemoteSet) (name : String) : Option (List Member) :=
  (sets.find? (·.answersTo name)).bind fun set =>
    if set.members.all (·.hasIds) then some set.members else none

theorem unmoved_rests (sets : List RemoteSet) : Unmoved (Rests sets) where
  record _ := Action.keeps_change fun _ hw => hw
  mayFail _ _ w hw := by rwa [mayFail_of_rests hw]
  find name w hw := by
    rw [find]
    cases w.remote.sets.find? (·.answersTo name) <;> exact hw

variable (group : ResourceGroup)

/-- An answer of the remote side is that of the set that is found. -/
theorem find?_of_list {w w' : World InMemory} (hw : Rests sets w) {members : List Member}
    (h : azure.list group name w = (.ok members, w')) :
    ∃ set, sets.find? (·.answersTo name) = some set ∧ set.members = members := by
  have hrecord : Rests sets (record (.list group name) w).2 :=
    (unmoved_rests sets).record _ w hw
  change (record (.list group name) >>= fun _ => mayFail .list name >>= fun _ =>
    find name >>= fun set => pure set.members) w = _ at h
  obtain ⟨_, w₁, hr, h⟩ := Action.bind_eq_ok_iff.1 h
  rw [hr] at hrecord
  rw [Action.bind_of_ok (mayFail_of_rests hrecord _)] at h
  obtain ⟨set, w₂, hf, h⟩ := Action.bind_eq_ok_iff.1 h
  cases h
  refine ⟨set, ?_, rfl⟩
  rw [find, hrecord.1] at hf
  cases hfind : sets.find? (·.answersTo name) with
  | none => simp [hfind] at hf
  | some found =>
      rw [hfind] at hf
      cases hf
      rfl

/-- Sets in memory stay as they are while questions are asked, whatever the sets are. -/
theorem fixed_checked (sets : List RemoteSet) :
    Client.Fixed (.checked azure group) (listing sets) (Rests sets) where
  told _ hw := hw
  describe _ := Client.keeps_describeChecked (unmoved_rests sets).get
  list _ := Client.keeps_listChecked (unmoved_rests sets).list
    (fun _ => (unmoved_rests sets).mayFail _ _) fun _ _ hw => hw
  lists {w} name hw := by
    rcases hrun : Client.listChecked azure group name w with ⟨e | members, w'⟩
    · change (Client.listChecked azure group name w).1.toOption = _
      rw [hrun, listing]
      cases hfind : sets.find? (·.answersTo name) with
      | none => rfl
      | some set =>
          rw [Option.bind_some, if_neg]
          · rfl
          · intro hids
            obtain ⟨w'', hl, -⟩ := listChecked_of_rests group hw hfind (List.all_eq_true.1 hids)
            cases hl.symm.trans hrun
    · change (Client.listChecked azure group name w).1.toOption = _
      obtain ⟨⟨_, hl⟩, hids⟩ := Client.listChecked_of_ok hrun
      obtain ⟨set, hfind, rfl⟩ := find?_of_list group hw hl
      rw [hrun, listing, hfind, Option.bind_some, if_pos (List.all_eq_true.2 hids)]
      rfl
  caseless {a b} hab := by
    have hanswers : (fun set : RemoteSet => set.answersTo a) = (·.answersTo b) := by
      funext set
      rw [RemoteSet.answersTo, RemoteSet.answersTo, hab]
    rw [listing, listing, hanswers]

end InMemory

namespace Manager
variable {ρ : Type} {client : Client ρ} {listing : String → Option (List Member)}
variable {I : World ρ → Prop}

theorem refsOf_of_refs {members : List Member} (h : ∀ m ∈ members, m.ref? ≠ none) :
    refsOf members = .ok (Member.refs members) := by
  induction members with
  | nil => rfl
  | cons m rest ih =>
      obtain ⟨hm, hrest⟩ := List.forall_mem_cons.1 h
      obtain ⟨ref, href⟩ := Option.ne_none_iff_exists'.1 hm
      rw [refsOf, href, ih hrest, Member.refs, Member.refs, List.filterMap_cons_some href]
      rfl

/-- A listing that succeeds is answered with its references. -/
theorem fleetInstances_of_listed {fleet : Fleet} {s : System ρ} {members : List Member}
    {w : World ρ} (hl : client.list fleet.name s.world = (.ok members, w))
    (hrefs : ∀ m ∈ members, m.ref? ≠ none) :
    fleetInstances client fleet s = (.ok (Member.refs members), { s with world := w }) := by
  have hlift : Effect.lift (client.list fleet.name) s = (.ok members, { s with world := w }) :=
    Effect.lift_eq_iff.2 ⟨w, hl, rfl⟩
  rw [fleetInstances, Action.bind_of_ok (Action.onFailure_eq_ok_iff.2 hlift),
    refsOf_of_refs hrefs]
  rfl

/-- A registered fleet has its own name, up to case, its listing repeats no instance, and no other
registered fleet lists any of them. -/
structure KeepsToItself (listing : String → Option (List Member)) (s : System ρ) (fleet : Fleet) :
    Prop where
  registered : fleet ∈ s.fleets
  named : ∀ entry ∈ s.entries, entry.fleet = fleet → lower entry.observedName = lower fleet.name
  distinct : ∀ members, listing fleet.name = some members → (Member.refs members).Nodup
  alone : ∀ entry ∈ s.entries, entry.fleet ≠ fleet →
    ∀ members others, listing fleet.name = some members → listing entry.observedName = some others →
      ∀ ref ∈ Member.refs others, ref ∉ Member.refs members

theorem alone_of_keepsToItself (h : Client.Fixed client listing I) {s : System ρ} {w : World ρ}
    {visits : List Visit} {fleet : Fleet}
    (hlisted : ∀ v ∈ visits, listing v.name = some v.members)
    (hd : KeepsToItself listing (s.renewed visits w) fleet) :
    ∃ v ∈ visits, v.fleet = fleet ∧ listing fleet.name = some v.members ∧
      (Member.refs v.members).Nodup ∧ Visit.Alone visits fleet (Member.refs v.members) := by
  have hown : ∀ v ∈ visits, v.fleet = fleet → listing fleet.name = some v.members := by
    intro v hv hfleet
    rw [← hlisted v hv]
    exact (h.caseless (hd.named v.entry (List.mem_map_of_mem hv) hfleet)).symm
  obtain ⟨v, hv, hfleet⟩ : ∃ v ∈ visits, v.fleet = fleet := by
    simpa [System.fleets, System.renewed, Visit.entry] using hd.registered
  refine ⟨v, hv, hfleet, hown v hv hfleet, hd.distinct _ (hown v hv hfleet), ⟨v, hv, hfleet⟩,
    fun v' hv' hfleet' => ?_, fun v' hv' hfleet' => ?_⟩
  · rw [Option.some.inj ((hown v' hv' hfleet').symm.trans (hown v hv hfleet))]
  · exact hd.alone v'.entry (List.mem_map_of_mem hv') hfleet' _ _ (hown v hv hfleet)
      (hlisted v' hv')

/-- After a refresh, and as long as the remote side stays as it is, listing a fleet directly gives
the members that the snapshot has of it, in the same order, if the fleet goes by its own name and
shares no instance. Listing never changes anything but the world. -/
theorem fleetInstances_eq_membersOf (h : Client.Fixed client listing I) {s t : System ρ}
    {snapshot : Snapshot} (hs : I s.world) (hr : refresh client s = (.ok snapshot, t)) :
    I t.world ∧
    (∀ fleet, KeepsToItself listing t fleet → ∀ u : System ρ, u.snapshot = t.snapshot →
      I u.world → ∃ w, I w ∧
        fleetInstances client fleet u = (.ok (u.snapshot.membersOf fleet), { u with world := w })) ∧
    ∀ (fleet : Fleet) (u : System ρ), ∃ w,
      (fleetInstances client fleet u).2 = { u with world := w } := by
  obtain ⟨visits, w, hsurvey, -, rfl⟩ : ∃ visits w, Survey client [] s.world visits w ∧
      visits.map (·.fleet) = s.fleets ∧ t = s.renewed visits w := by
    rw [refresh_eq] at hr
    rcases hb : rebuild client s with ⟨e | _, t'⟩
    · rw [hb] at hr
      cases hr
    · rw [hb] at hr
      cases hr
      exact rebuild_eq_ok_iff.1 hb
  obtain ⟨hw, hlisted⟩ := h.survey hs hsurvey
  refine ⟨h.told [_] hw, fun fleet hd u hu hworld => ?_, fun fleet u => ?_⟩
  · obtain ⟨v, hv, hfleet, hown, hnodup, halone⟩ :=
      alone_of_keepsToItself h (fun v hv => (hlisted v hv).1) hd
    obtain ⟨outcome, w', hl⟩ : ∃ outcome w', client.list fleet.name u.world = (outcome, w') :=
      ⟨_, _, rfl⟩
    have hanswer := h.lists fleet.name hworld
    rw [hl, hown] at hanswer
    cases outcome with
    | error e => cases hanswer
    | ok members =>
        obtain rfl : members = v.members := Option.some.inj hanswer
        have hmembers : u.snapshot.membersOf fleet = Member.refs v.members := by
          rw [hu]
          exact halone.membersOf_eq hnodup w.clock
        rw [hmembers]
        exact ⟨w', (h.list _).of_eq hworld hl, fleetInstances_of_listed hl (hlisted v hv).2⟩
  · exact keeps_fleetInstances (I := fun u' => ∃ w, u' = { u with world := w })
      (fun _ _ ⟨_, hu⟩ => ⟨_, by rw [hu]⟩) fleet u ⟨u.world, rfl⟩

/-- Two sets, of which the first one goes by another case of its key. -/
def northAndSouth : List RemoteSet :=
  [⟨"North", some "NORTH", .int 2, true, [⟨some "0", some "/vm/n0"⟩, ⟨some "1", some "/vm/n1"⟩],
      .zero⟩,
    ⟨"south", none, .int 1, true, [⟨some "0", some "/vm/s0"⟩], .zero⟩]

def north : Fleet := ⟨1, ⟨"north", 1, 4, by decide +kernel, by decide⟩⟩

/-- A fleet of the second set, of which there may be several. -/
def south (id : Nat) : Fleet := ⟨id, ⟨"south", 1, 4, by decide +kernel, by decide⟩⟩

/-- A manager of the first set twice, with fleets of the second set before and between. -/
def northTwice : System InMemory :=
  { System.start (.fresh (.int 60))
      (.start (.ofSets northAndSouth) .zero) with
    entries := [south 0, north, south 2, north].map .fresh }

/-- The fleet that is registered twice and goes by `NORTH` looks the same both ways. -/
theorem fleetInstances_eq_membersOf_northTwice :
    let client := Client.checked InMemory.azure (.text "rg")
    let t := (refresh client northTwice).2
    refresh client northTwice = (.ok t.snapshot, t) ∧ t.observedName north = "NORTH" ∧
      KeepsToItself (InMemory.listing northAndSouth) t north ∧
      t.snapshot.membersOf north ≠ [] ∧
      ∃ w, fleetInstances client north t =
        (.ok (t.snapshot.membersOf north), { t with world := w }) := by
  intro client t
  have hrefresh : refresh client northTwice = (.ok t.snapshot, t) :=
    Prod.ext (by decide +kernel) rfl
  have hmembers : InMemory.listing northAndSouth north.name =
      some [⟨some "0", some "/vm/n0"⟩, ⟨some "1", some "/vm/n1"⟩] := by
    decide +kernel
  have hd : KeepsToItself (InMemory.listing northAndSouth) t north := by
    refine ⟨by decide +kernel, by decide +kernel, fun members hm => ?_,
      fun entry hentry hfleet members others hm ho => ?_⟩
    · obtain rfl := Option.some.inj (hmembers.symm.trans hm)
      decide +kernel
    · obtain rfl := Option.some.inj (hmembers.symm.trans hm)
      have hsouth : ∀ entry ∈ t.entries, entry.fleet ≠ north →
          InMemory.listing northAndSouth entry.observedName = some [⟨some "0", some "/vm/s0"⟩] := by
        decide +kernel
      obtain rfl := Option.some.inj ((hsouth entry hentry hfleet).symm.trans ho)
      decide +kernel
  obtain ⟨hw, hview, -⟩ := fleetInstances_eq_membersOf
    (InMemory.fixed_checked (.text "rg") northAndSouth) (s := northTwice) ⟨rfl, rfl⟩ hrefresh
  obtain ⟨w, -, hinstances⟩ := hview north hd t rfl hw
  exact ⟨hrefresh, by decide +kernel, hd, by decide +kernel, w, hinstances⟩

end Manager
end FleetWarden
