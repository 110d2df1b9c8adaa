import FleetWarden.Proofs.Manager.ReadThrough

/-!
# Lookups that share rebuilds

A lookup holds the lock from its beginning to its end, so lookups of any number of threads run one
after the other, in the order in which they get the lock. Those that come after a rebuild are
answered from it. While nothing changes outside, only the first miss and the lookups of instances
that no fleet holds can make a rebuild.
-/

namespace FleetWarden

open Rebuild

namespace Manager
variable {ρ α β : Type}

/-- An operation that succeeds, with all rebuilds that it makes, each by what it learned. They are
all that the operation asks. -/
structure Takes (x : Operation (Transcribed ρ) α) (s : System (Transcribed ρ)) (a : α)
    (rebuilds : List (List Visit)) (t : System (Transcribed ρ)) : Prop where
  succeeds : x s = (.ok a, t)
  transcript : t.world.remote.transcript =
    s.world.remote.transcript ++ rebuilds.flatMap (·.flatMap (·.exchanges))
  count : t.rebuilds = s.rebuilds + rebuilds.length
  fleets : t.fleets = s.fleets
  visited : ∀ visits ∈ rebuilds, visits.map (·.fleet) = s.fleets

theorem Takes.pure (a : α) (s : System (Transcribed ρ)) : Takes (Pure.pure a) s a [] s :=
  ⟨rfl, by simp, rfl, rfl, by simp⟩

theorem Takes.bind {x : Operation (Transcribed ρ) α} {f : α → Operation (Transcribed ρ) β} {a : α}
    {b : β} {s t u : System (Transcribed ρ)} {first others : List (List Visit)}
    (hx : Takes x s a first t) (hf : Takes (f a) t b others u) :
    Takes (x >>= f) s b (first ++ others) u where
  succeeds := by rw [Action.bind_of_ok hx.succeeds, hf.succeeds]
  transcript := by rw [hf.transcript, hx.transcript, List.flatMap_append, List.append_assoc]
  count := by rw [hf.count, hx.count, List.length_append, Nat.add_assoc]
  fleets := hf.fleets.trans hx.fleets
  visited visits hv := by
    rcases List.mem_append.1 hv with hv | hv
    · exact hx.visited visits hv
    · exact (hf.visited visits hv).trans hx.fleets

/-- Lookups one after the other. -/
def findOwners (client : Client ρ) : List InstanceRef → Operation ρ (List (Option Fleet))
  | [] => pure []
  | ref :: rest => do
    let owner ← findOwner client ref
    let owners ← findOwners client rest
    pure (owner :: owners)

/-- Lookups are as good as transcribed. -/
theorem projects_findOwners (client : Client ρ) (order : List InstanceRef) :
    Action.Projects System.bare (findOwners client.transcribed order)
      (findOwners client order) := by
  induction order with
  | nil => exact Action.projects_pure []
  | cons ref rest ih =>
      exact (projects_findOwner client ref).bind fun owner => ih.bind fun owners =>
        Action.projects_pure (owner :: owners)

theorem Takes.cons {client : Client ρ} {ref : InstanceRef} {rest : List InstanceRef}
    {owner : Option Fleet} {owners : List (Option Fleet)} {first others : List (List Visit)}
    {s t u : System (Transcribed ρ)} (h : Takes (findOwner client.transcribed ref) s owner first t)
    (hrest : Takes (findOwners client.transcribed rest) t owners others u) :
    Takes (findOwners client.transcribed (ref :: rest)) s (owner :: owners) (first ++ others)
      u := by
  have hall : Takes
      (findOwners client.transcribed rest >>= fun owners => Pure.pure (owner :: owners)) t
      (owner :: owners) (others ++ []) u := hrest.bind (.pure _ u)
  rw [List.append_nil] at hall
  exact h.bind hall

/-- The snapshot names the holder of every instance. -/
def Knows (held : Fleet → List InstanceRef) (s : System ρ) : Prop :=
  ∀ ref, s.snapshot.ownerOf? ref = holderAmong? held s.fleets ref

section
variable {client : Client ρ} {fleets : List Fleet} {held : Fleet → List InstanceRef}
variable {I : World ρ → Prop} {s : System (Transcribed ρ)} {ref : InstanceRef}

theorem takes_of_owner (client : Client ρ) {fleet : Fleet}
    (hr : s.snapshot.ownerOf? ref = some fleet) :
    Takes (findOwner client.transcribed ref) s (some fleet) [] (s.report (.lookingFor ref)) :=
  ⟨findOwner_of_owner hr, (List.append_nil _).symm, rfl, rfl, by simp⟩

/-- A lookup that misses takes one rebuild, after which the snapshot names all holders. -/
theorem takes_of_no_owner (h : Client.Steady client s.fleets held I) (hw : I s.world.bare)
    (hr : s.snapshot.ownerOf? ref = none) :
    ∃ visits t, Takes (findOwner client.transcribed ref) s (holderAmong? held s.fleets ref)
      [visits] t ∧ I t.world.bare ∧ Knows held t := by
  obtain ⟨visits, w, hs, hf, hw', hshows, hfind⟩ := findOwner_of_steady h.transcribed hw hr
  have hfleets : ((s.report (.lookingFor ref)).renewed visits w).fleets = s.fleets := by
    simp only [System.renewed, System.fleets, List.map_map]
    exact hf
  refine ⟨visits, _, ⟨hfind, ?_, rfl, hfleets, by simpa using hf⟩, h.report _ hw', ?_⟩
  · rw [List.flatMap_singleton]
    exact hs.transcript
  · intro ref'
    rw [hfleets, ← hf, ← Visit.lastLister?_of_shows hshows]
    exact Visit.ownerOf?_ofVisits visits w.clock ref'

/-- Where the snapshot names all holders, every lookup answers with the holder, and those of
instances that nobody holds take one rebuild each. -/
theorem findOwners_of_knows (h : Client.Steady client fleets held I) (hf : s.fleets = fleets)
    (hw : I s.world.bare) (hk : Knows held s) (order : List InstanceRef) :
    ∃ rebuilds t, Takes (findOwners client.transcribed order) s
        (order.map (holderAmong? held fleets)) rebuilds t ∧
      rebuilds.length = order.countP fun ref => holderAmong? held fleets ref = none := by
  induction order generalizing s with
  | nil => exact ⟨[], s, .pure [] s, rfl⟩
  | cons ref rest ih =>
      subst hf
      have href : s.snapshot.ownerOf? ref = holderAmong? held s.fleets ref := hk ref
      cases hr : s.snapshot.ownerOf? ref with
      | some fleet =>
          have hlook := takes_of_owner client hr
          obtain ⟨rebuilds, t, hrest, hcount⟩ :=
            ih (s := s.report (.lookingFor ref)) rfl (h.report _ hw) hk
          rw [hr] at href
          refine ⟨rebuilds, t, ?_, ?_⟩
          · rw [List.map_cons, ← href]
            exact hlook.cons hrest
          · rw [hcount, List.countP_cons, ← href]
            simp
      | none =>
          -- a miss of a snapshot that names all holders is of an instance that nobody holds
          obtain ⟨visits, u, hlook, hwu, hku⟩ := takes_of_no_owner h hw hr
          obtain ⟨rebuilds, t, hrest, hcount⟩ := ih hlook.fleets hwu hku
          rw [hr] at href
          refine ⟨visits :: rebuilds, t, hlook.cons hrest, ?_⟩
          rw [List.length_cons, hcount, List.countP_cons, ← href]
          simp

/-- From any snapshot, only the first miss and the lookups of instances that nobody holds can take a
rebuild. -/
theorem findOwners_of_steady (h : Client.Steady client s.fleets held I) (hw : I s.world.bare)
    (order : List InstanceRef) :
    ∃ owners rebuilds t, Takes (findOwners client.transcribed order) s owners rebuilds t ∧
      rebuilds.length ≤ 1 + order.countP fun ref => holderAmong? held s.fleets ref = none := by
  induction order generalizing s with
  | nil => exact ⟨[], [], s, .pure [] s, Nat.zero_le _⟩
  | cons ref rest ih =>
      cases hr : s.snapshot.ownerOf? ref with
      | some fleet =>
          obtain ⟨owners, rebuilds, t, hrest, hcount⟩ :=
            ih (s := s.report (.lookingFor ref)) h (h.report _ hw)
          refine ⟨some fleet :: owners, rebuilds, t, (takes_of_owner client hr).cons hrest, ?_⟩
          rw [List.countP_cons]
          exact Nat.le_trans hcount (Nat.add_le_add_left (Nat.le_add_right _ _) 1)
      | none =>
          -- the rebuild of this miss is the one on top: after it the snapshot names all holders
          obtain ⟨visits, u, hlook, hwu, hku⟩ := takes_of_no_owner h hw hr
          obtain ⟨rebuilds, t, hrest, hcount⟩ := findOwners_of_knows h hlook.fleets hwu hku rest
          refine ⟨_, visits :: rebuilds, t, hlook.cons hrest, ?_⟩
          rw [List.length_cons, hcount, List.countP_cons]
          omega

/-- From an empty snapshot, lookups of instances that are all held take one rebuild together. -/
theorem findOwners_of_empty (h : Client.Steady client s.fleets held I) (hw : I s.world.bare)
    (hempty : s.snapshot.refs = []) {order : List InstanceRef} (hne : order ≠ [])
    (hheld : ∀ ref ∈ order, holderAmong? held s.fleets ref ≠ none) :
    ∃ visits t, Takes (findOwners client.transcribed order) s
      (order.map (holderAmong? held s.fleets)) [visits] t := by
  obtain ⟨ref, rest, rfl⟩ := List.exists_cons_of_ne_nil hne
  have hmem : ref ∉ s.snapshot.refs := hempty ▸ List.not_mem_nil
  have hr : s.snapshot.ownerOf? ref = none := InsertionMap.get?_eq_none_iff.2 hmem
  obtain ⟨visits, u, hlook, hwu, hku⟩ := takes_of_no_owner h hw hr
  obtain ⟨rebuilds, t, hrest, hcount⟩ := findOwners_of_knows h hlook.fleets hwu hku rest
  have hnone : rebuilds = [] := by
    rw [← List.length_eq_zero_iff, hcount, List.countP_eq_zero]
    simpa using fun ref' href' => hheld ref' (List.mem_cons_of_mem _ href')
  exact ⟨visits, t, hnone ▸ hlook.cons hrest⟩

end

/-- Lookups share their rebuilds, whichever one gets the lock first. As long as the fleets hold the
same instances and every question is answered, all lookups succeed, and what they ask is what some
rebuilds ask, each of which goes through all fleets once. There is at most one rebuild, and besides
one for each lookup of an instance that no fleet holds. From an empty snapshot, lookups of instances
that are all held take exactly one rebuild and answer with the holders. -/
theorem lookups_share_rebuilds {client : Client ρ} {s : System ρ}
    {held : Fleet → List InstanceRef} {I : World ρ → Prop}
    (hsteady : Client.Steady client s.fleets held I) (hworld : I s.world)
    {calls order : List InstanceRef} (horder : order.Perm calls) :
    let asked := findOwners client.transcribed order s.transcribed
    ∃ (owners : List (Option Fleet)) (rebuilds : List (List Visit)) (t : System ρ),
      findOwners client order s = (.ok owners, t) ∧
      asked.2.world.remote.transcript = rebuilds.flatMap (·.flatMap (·.exchanges)) ∧
      (∀ visits ∈ rebuilds, visits.map (·.fleet) = s.fleets) ∧
      t.rebuilds = s.rebuilds + rebuilds.length ∧
      rebuilds.length ≤ 1 + calls.countP (fun ref => ∀ fleet ∈ s.fleets, ref ∉ held fleet) ∧
      (s.snapshot.refs = [] → calls ≠ [] →
        (∀ ref ∈ calls, ∃ fleet ∈ s.fleets, ref ∈ held fleet) →
        rebuilds.length = 1 ∧ owners = order.map (holderAmong? held s.fleets)) := by
  intro asked
  obtain ⟨owners, rebuilds, t, htakes, hcount⟩ :=
    findOwners_of_steady (s := s.transcribed) hsteady hworld order
  have hasked : asked = (.ok owners, t) := htakes.succeeds
  have hrun : findOwners client order s = (asked.1, asked.2.bare) :=
    projects_findOwners client order s.transcribed
  refine ⟨owners, rebuilds, t.bare, ?_, ?_, htakes.visited, htakes.count, ?_, ?_⟩
  · rw [hrun, hasked]
  · rw [hasked]
    exact htakes.transcript
  · have hbound : rebuilds.length ≤
        1 + order.countP fun ref => holderAmong? held s.fleets ref = none := hcount
    rw [← horder.countP_eq]
    simpa only [holderAmong?_eq_none_iff] using hbound
  · intro hempty hne hheld
    have hne' : order ≠ [] := fun h => hne (List.nil_perm.1 (h ▸ horder))
    obtain ⟨visits, t', htakes'⟩ := findOwners_of_empty (s := s.transcribed) hsteady hworld hempty
      hne' fun ref href => by
        obtain ⟨fleet, hfleet, hmem⟩ := hheld ref (horder.subset href)
        exact fun hnone => holderAmong?_eq_none_iff.1 hnone fleet hfleet hmem
    obtain ⟨howners, rfl⟩ := Prod.mk.inj (htakes.succeeds.symm.trans htakes'.succeeds)
    refine ⟨?_, Except.ok.inj howners⟩
    exact Nat.add_left_cancel (htakes.count.symm.trans htakes'.count)

/-- Three lookups of two pools that no rebuild has seen yet, and a fourth one of an instance that
neither pool has. -/
theorem lookups_share_rebuilds_twoPools :
    let client := Client.checked InMemory.azure (.text "rg")
    let start : System InMemory := .start (.fresh (.int 60)) twoPools
    let s := (start.register poolA).register poolB
    let held := InMemory.holdings twoPools.remote.sets
    Client.Steady client s.fleets held (InMemory.Rests twoPools.remote.sets) ∧
    (∃ owners t, findOwners client [refB0, refA1, refA0] s = (.ok owners, t) ∧
      owners = [some poolB, some poolA, some poolA] ∧ t.rebuilds = 1) ∧
    ∃ owners t, findOwners client [refC0, refB0, refA1, refA0] s = (.ok owners, t) ∧
      t.rebuilds ≤ 2 := by
  intro client start s held
  have hsteady : Client.Steady client s.fleets held (InMemory.Rests twoPools.remote.sets) :=
    InMemory.steady_checked _ (by decide +kernel)
  refine ⟨hsteady, ?_, ?_⟩
  · have horder : [refB0, refA1, refA0].Perm [refA0, refA1, refB0] := by decide +kernel
    obtain ⟨owners, rebuilds, t, hrun, -, -, hcount, -, hempty⟩ :=
      lookups_share_rebuilds hsteady ⟨rfl, rfl⟩ horder
    obtain ⟨hone, howners⟩ := hempty rfl (by decide) (by decide +kernel)
    refine ⟨owners, t, hrun, howners.trans (by decide +kernel), ?_⟩
    rw [hcount, hone]
    rfl
  · have horder : [refC0, refB0, refA1, refA0].Perm [refA0, refA1, refB0, refC0] := by
      decide +kernel
    obtain ⟨owners, rebuilds, t, hrun, -, -, hcount, hbound, -⟩ :=
      lookups_share_rebuilds hsteady ⟨rfl, rfl⟩ horder
    have htwo : 1 + [refA0, refA1, refB0, refC0].countP
        (fun ref => ∀ fleet ∈ s.fleets, ref ∉ held fleet) = 2 := by decide +kernel
    have hzero : s.rebuilds = 0 := rfl
    exact ⟨owners, t, hrun, by omega⟩

end Manager
end FleetWarden
