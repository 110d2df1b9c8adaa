import FleetWarden.Proofs.Manager.TwoViews
import FleetWarden.Proofs.Membership.Handovers
import Mathlib.Data.List.Dedup

/-!
# The order of registration

A rebuild visits the fleets in the order of their registration, and the last report of an instance
counts. As long as the answers about a fleet do not vary, this order matters only for instances that
different fleets report: where there are none, fleets registered in another order come to the same
owners, instance ids and observed names, without a warning. What an earlier registration of a fleet
reports is reported again by its last one, so the earlier ones may be dropped
(`registration_order_immaterial`).

## Implementation notes

The order of the instances in a snapshot does depend on the order of registration. So snapshots are
compared instance by instance.
-/

namespace FleetWarden

open Rebuild

/-- Snapshots that say the same of every instance. -/
structure Snapshot.Agrees (s t : Snapshot) : Prop where
  ownerOf? : ∀ ref, s.ownerOf? ref = t.ownerOf? ref
  instanceIds : ∀ ref, s.instanceIds.get? ref = t.instanceIds.get? ref
  refs : ∀ ref, ref ∈ s.refs ↔ ref ∈ t.refs

namespace Sighting

/-- Reports with the same last one for each instance amount to the same. -/
theorem agrees_of_last? {seen other : List Sighting} {now then' : Numeral.Binary64}
    (h : ∀ ref, last? seen ref = last? other ref) :
    (Snapshot.ofSightings seen now).Agrees (Snapshot.ofSightings other then') := by
  have howner : ∀ ref, (Snapshot.ofSightings seen now).ownerOf? ref =
      (Snapshot.ofSightings other then').ownerOf? ref := fun ref => by
    rw [Snapshot.ownerOf?_ofSightings, Snapshot.ownerOf?_ofSightings, h]
  refine ⟨howner, fun ref => ?_, fun ref => ?_⟩
  · rw [Snapshot.get?_instanceIds_ofSightings, Snapshot.get?_instanceIds_ofSightings, h]
  · have hkeys := congrArg (· = none) (howner ref)
    simp only [Snapshot.ownerOf?, InsertionMap.get?_eq_none_iff, eq_iff_iff, not_iff_not] at hkeys
    exact hkeys

section
variable {α : Type} {told : α → List Sighting} {sources sources' : List α} {ref : InstanceRef}

theorem last?_eq_none_iff {seen : List Sighting} :
    last? seen ref = none ↔ ∀ x ∈ seen, x.ref ≠ ref := by
  simp [last?]

/-- A source that comes again later need not be asked before. -/
theorem last?_flatMap_dedup [DecidableEq α] (told : α → List Sighting) (sources : List α)
    (ref : InstanceRef) :
    last? (sources.dedup.flatMap told) ref = last? (sources.flatMap told) ref := by
  induction sources with
  | nil => rfl
  | cons a rest ih =>
      rw [List.flatMap_cons, last?_append]
      by_cases ha : a ∈ rest
      · rw [List.dedup_cons_of_mem ha, ih]
        cases hrest : last? (rest.flatMap told) ref with
        | some x => rfl
        | none =>
            have hnone : last? (told a) ref = none := last?_eq_none_iff.2 fun x hx =>
              last?_eq_none_iff.1 hrest x (List.mem_flatMap_of_mem ha hx)
            rw [hnone]
            rfl
      · rw [List.dedup_cons_of_notMem ha, List.flatMap_cons, last?_append, ih]

/-- No instance is reported by two different sources. -/
def Apart (told : α → List Sighting) (sources : List α) : Prop :=
  ∀ a ∈ sources, ∀ b ∈ sources, ∀ x ∈ told a, ∀ y ∈ told b, x.ref = y.ref → a = b

theorem exists_source_of_last? {x : Sighting}
    (h : last? (sources.flatMap told) ref = some x) :
    ∃ a ∈ sources, last? (told a) ref = some x := by
  induction sources with
  | nil => cases h
  | cons b rest ih =>
      rw [List.flatMap_cons, last?_append, Option.or_eq_some_iff] at h
      rcases h with hrest | ⟨-, hb⟩
      · obtain ⟨a, ha, hx⟩ := ih hrest
        exact ⟨a, List.mem_cons_of_mem _ ha, hx⟩
      · exact ⟨b, List.mem_cons_self, hb⟩

/-- If no other source reports the instance, its last report there is its last report of all. -/
theorem last?_flatMap_eq_some_iff (hapart : Apart told sources) {x : Sighting} :
    last? (sources.flatMap told) ref = some x ↔ ∃ a ∈ sources, last? (told a) ref = some x := by
  refine ⟨exists_source_of_last?, ?_⟩
  rintro ⟨a, ha, hx⟩
  cases h : last? (sources.flatMap told) ref with
  | none =>
      obtain ⟨hmem, href⟩ := mem_of_last? hx
      exact absurd href (last?_eq_none_iff.1 h x (List.mem_flatMap_of_mem ha hmem))
  | some y =>
      obtain ⟨b, hb, hy⟩ := exists_source_of_last? h
      obtain ⟨hxmem, hxref⟩ := mem_of_last? hx
      obtain ⟨hymem, hyref⟩ := mem_of_last? hy
      obtain rfl := hapart a ha b hb x hxmem y hymem (hxref.trans hyref.symm)
      exact hy.symm.trans hx

/-- Sources that report different instances may be asked in any order. -/
theorem last?_flatMap_perm (hapart : Apart told sources) (hperm : sources'.Perm sources) :
    last? (sources'.flatMap told) ref = last? (sources.flatMap told) ref := by
  have hapart' : Apart told sources' := fun a ha b hb =>
    hapart a (hperm.subset ha) b (hperm.subset hb)
  ext x
  simp only [last?_flatMap_eq_some_iff hapart, last?_flatMap_eq_some_iff hapart', hperm.mem_iff]

end

/-- The reporters of an instance that only one fleet reports are all the same. -/
theorem handovers_of_apart {told : Fleet → List Sighting} {fleets : List Fleet}
    (hfleet : ∀ fleet, ∀ x ∈ told fleet, x.fleet = fleet) (hapart : Apart told fleets)
    (ref : InstanceRef) : handovers (reporters (fleets.flatMap told) ref) = [] := by
  have hreporter : ∀ c ∈ reporters (fleets.flatMap told) ref,
      c ∈ fleets ∧ ∃ x ∈ told c, x.ref = ref := by
    intro c hc
    obtain ⟨x, hx, rfl⟩ := List.mem_map.1 hc
    obtain ⟨hmem, href⟩ := List.mem_filter.1 hx
    obtain ⟨a, ha, hxa⟩ := List.mem_flatMap.1 hmem
    obtain rfl := hfleet a x hxa
    exact ⟨ha, x, hxa, of_decide_eq_true href⟩
  refine handovers_eq_nil_iff.2 fun a ha b hb => ?_
  obtain ⟨ha, x, hx, hxref⟩ := hreporter a ha
  obtain ⟨hb, y, hy, hyref⟩ := hreporter b hb
  exact hapart a ha b hb x hx y hy (hxref.trans hyref.symm)

end Sighting

section
variable {ρ : Type} {client : Client ρ} {fleets : List Fleet} {goesBy : Fleet → String}
variable {lists : Fleet → List Member} {I : World ρ → Prop}

/-- The visit of a fleet with the given answers. -/
def Visit.ofAnswers (goesBy : Fleet → String) (lists : Fleet → List Member) (fleet : Fleet) :
    Visit :=
  ⟨fleet, goesBy fleet, lists fleet⟩

theorem Visit.fleet_of_mem_sightings {v : Visit} {x : Sighting} (h : x ∈ v.sightings) :
    x.fleet = v.fleet := by
  obtain ⟨-, -, -, hfleet, -⟩ := Sighting.mem_ofMembers_iff.1 h
  exact hfleet.symm

/-- With answers that do not vary, a rebuild of some of the fleets succeeds and learns nothing
else. -/
theorem Client.Unvarying.survey (h : Unvarying client fleets goesBy lists I) {part : List Fleet}
    (hpart : part ⊆ fleets) (seen : List Sighting) {w : World ρ} (hw : I w) :
    ∃ w', Survey client seen w (part.map (.ofAnswers goesBy lists)) w' ∧ I w' := by
  induction part generalizing seen w with
  | nil => exact ⟨w, .nil, hw⟩
  | cons fleet rest ih =>
      obtain ⟨hfleet, hrest⟩ := List.cons_subset.1 hpart
      obtain ⟨d, w₁, w₂, hd, hname, hl, hw₂⟩ := h.answers hfleet (h.told [.visiting _] hw)
      have hmade : Made client seen w ⟨fleet, d.name, lists fleet⟩ _ :=
        .intro hd hl (h.refs hfleet)
      rw [hname] at hmade
      obtain ⟨w', hs, hw'⟩ := ih hrest _ (h.told _ hw₂)
      exact ⟨w', .cons hmade hs, hw'⟩

/-- No instance is listed for two different fleets. -/
def ListedApart (lists : Fleet → List Member) (fleets : List Fleet) : Prop :=
  ∀ a ∈ fleets, ∀ b ∈ fleets, ∀ ref : InstanceRef,
    ref.isListed (lists a) = true → ref.isListed (lists b) = true → a = b

theorem ListedApart.sightings (h : ListedApart lists fleets) :
    Sighting.Apart (fun fleet => (Visit.ofAnswers goesBy lists fleet).sightings) fleets := by
  have hlisted : ∀ fleet, ∀ x ∈ (Visit.ofAnswers goesBy lists fleet).sightings,
      x.ref.isListed (lists fleet) = true := by
    intro fleet x hx
    obtain ⟨m, hm, href, -, -⟩ := Sighting.mem_ofMembers_iff.1 hx
    exact InstanceRef.isListed_iff.2 ⟨m, hm, href⟩
  intro a ha b hb x hx y hy href
  exact h a ha b hb x.ref (hlisted a x hx) (href ▸ hlisted b y hy)

namespace Manager
variable {s : System ρ}

/-- What a rebuild leaves if the answers about its fleets do not vary. -/
theorem rebuild_of_unvarying (h : Client.Unvarying client fleets goesBy lists I)
    (hfleets : s.fleets ⊆ fleets) (hs : I s.world) :
    ∃ w, Survey client [] s.world (s.fleets.map (.ofAnswers goesBy lists)) w ∧
      rebuild client s = (.ok (), s.renewed (s.fleets.map (.ofAnswers goesBy lists)) w) := by
  obtain ⟨w, hsurvey, -⟩ := h.survey hfleets [] hs
  have hvisited : (s.fleets.map (Visit.ofAnswers goesBy lists)).map (·.fleet) = s.fleets := by
    rw [List.map_map]
    exact List.map_id _
  exact ⟨w, hsurvey, rebuild_eq_ok_iff.2 ⟨_, w, hsurvey, hvisited, rfl⟩⟩

theorem entries_renewed (s : System ρ) (w : World ρ) :
    (s.renewed (fleets.map (.ofAnswers goesBy lists)) w).entries =
      fleets.map fun fleet => ⟨fleet, goesBy fleet⟩ :=
  List.map_map ..

/-- Where no instance is listed for two fleets, a rebuild warns of none. -/
theorem warnings_of_listedApart (hr : client.Reticent) (hapart : ListedApart lists fleets)
    {w : World ρ} (hsurvey : Survey client [] s.world (fleets.map (.ofAnswers goesBy lists)) w)
    (ref : InstanceRef) :
    (s.renewed (fleets.map (.ofAnswers goesBy lists)) w).world.warnings ref =
      s.world.warnings ref := by
  have hsightings : Sighting.Apart (fun fleet => (Visit.ofAnswers goesBy lists fleet).sightings)
      fleets := hapart.sightings
  have hnone := Sighting.handovers_of_apart (fun fleet x hx => Visit.fleet_of_mem_sightings hx)
    hsightings ref
  have hwarnings := hsurvey.warnings_eq hr ref
  rw [List.flatMap_map, hnone, List.map_nil, List.append_nil] at hwarnings
  exact (World.warnings_report rfl).trans hwarnings

/-- While the answers about the fleets do not vary, rebuilds succeed and each entry gets the name
that its fleet goes by. If no instance is listed for two fleets, fleets registered in any other
order come to the same owner and instance id for every instance, and neither order brings a warning.
In any case, dropping each registration but the last one of each fleet changes neither owners nor
instance ids. -/
theorem registration_order_immaterial (h : Client.Unvarying client s.fleets goesBy lists I)
    (hr : client.Reticent) (hs : I s.world) :
    ∃ t, rebuild client s = (.ok (), t) ∧
      t.entries = s.fleets.map (fun fleet => ⟨fleet, goesBy fleet⟩) ∧
      (ListedApart lists s.fleets → ∀ s' : System ρ, s'.fleets.Perm s.fleets → I s'.world →
        ∃ t', rebuild client s' = (.ok (), t') ∧ t'.snapshot.Agrees t.snapshot ∧
          t'.entries = s'.fleets.map (fun fleet => ⟨fleet, goesBy fleet⟩) ∧
          ∀ ref, t.world.warnings ref = s.world.warnings ref ∧
            t'.world.warnings ref = s'.world.warnings ref) ∧
      ∀ s' : System ρ, s'.fleets = s.fleets.dedup → I s'.world →
        ∃ t', rebuild client s' = (.ok (), t') ∧ t'.snapshot.Agrees t.snapshot := by
  obtain ⟨w, hsurvey, hrebuild⟩ := rebuild_of_unvarying h (List.Subset.refl _) hs
  refine ⟨_, hrebuild, entries_renewed s w, fun hapart s' hperm hs' => ?_, fun s' hdedup hs' => ?_⟩
  · obtain ⟨w', hsurvey', hrebuild'⟩ := rebuild_of_unvarying h hperm.subset hs'
    have hapart' : ListedApart lists s'.fleets := fun a ha b hb =>
      hapart a (hperm.subset ha) b (hperm.subset hb)
    refine ⟨_, hrebuild', Sighting.agrees_of_last? fun ref => ?_, entries_renewed s' w',
      fun ref => ⟨warnings_of_listedApart hr hapart hsurvey ref,
        warnings_of_listedApart hr hapart' hsurvey' ref⟩⟩
    rw [List.flatMap_map, List.flatMap_map]
    exact Sighting.last?_flatMap_perm hapart.sightings hperm
  · have hsubset : s'.fleets ⊆ s.fleets := hdedup ▸ List.dedup_subset s.fleets
    obtain ⟨w', -, hrebuild'⟩ := rebuild_of_unvarying h hsubset hs'
    refine ⟨_, hrebuild', Sighting.agrees_of_last? fun ref => ?_⟩
    rw [List.flatMap_map, List.flatMap_map, hdedup]
    exact Sighting.last?_flatMap_dedup _ s.fleets ref

/-- A manager of the given fleets over the two sets. -/
def tracking (fleets : List Fleet) : System InMemory :=
  { System.start (.fresh (.int 60))
      (.start (.ofSets northAndSouth) .zero) with
    entries := fleets.map .fresh }

/-- Two fleets with one of them registered twice, in two orders and without the repetition. -/
theorem registration_order_immaterial_threeWays :
    let client := Client.checked InMemory.azure (.text "rg")
    let lists := InMemory.lists northAndSouth
    ListedApart lists [north, south 0, north] ∧
      ∃ t t' t'', rebuild client (tracking [north, south 0, north]) = (.ok (), t) ∧
        rebuild client (tracking [south 0, north, north]) = (.ok (), t') ∧
        rebuild client (tracking [south 0, north]) = (.ok (), t'') ∧
        t'.snapshot.Agrees t.snapshot ∧ t''.snapshot.Agrees t.snapshot := by
  intro client lists
  have hapart : ListedApart lists [north, south 0, north] := by
    have hsame : ∀ a ∈ [north, south 0, north], ∀ b ∈ [north, south 0, north],
        ∀ ref ∈ Member.refs (lists a), ref ∈ Member.refs (lists b) → a = b := by
      decide +kernel
    intro a ha b hb ref hra hrb
    exact hsame a ha b hb ref (InstanceRef.isListed_iff_mem_refs.1 hra)
      (InstanceRef.isListed_iff_mem_refs.1 hrb)
  have hserves : ∀ fleet ∈ [north, south 0, north],
      InMemory.serves northAndSouth fleet = true := by decide +kernel
  obtain ⟨t, ht, -, hperm, hlast⟩ := registration_order_immaterial
    (InMemory.unvarying_checked (.text "rg") hserves) (InMemory.reticent_checked (.text "rg"))
    (s := tracking [north, south 0, north]) ⟨rfl, rfl⟩
  obtain ⟨t', ht', hagrees, -⟩ := hperm hapart (tracking [south 0, north, north])
    (by decide +kernel) ⟨rfl, rfl⟩
  obtain ⟨t'', ht'', hagrees'⟩ := hlast (tracking [south 0, north]) (by decide +kernel) ⟨rfl, rfl⟩
  exact ⟨hapart, t, t', t'', ht, ht', ht'', hagrees, hagrees'⟩

end Manager
end
end FleetWarden
