import FleetWarden.Proofs.Manager.FailedRebuild
import FleetWarden.Proofs.Manager.LastRebuild

/-!
# Deletions stay within one fleet

A deletion is decided in one snapshot: the current one if it has all targets, else the one of a
single rebuild. In that snapshot all targets must have the same owner as the first one. Targets that
do always have an instance id there, as long as everything that was listed had one.
-/

namespace FleetWarden

open Rebuild

namespace Snapshot

/-- Every instance that has an owner has an instance id. -/
def Identified (s : Snapshot) : Prop :=
  ∀ ref fleet, s.ownerOf? ref = some fleet → ∃ id, s.instanceIdOf? ref = some id

theorem identified_empty : Identified .empty := by
  intro ref fleet h
  cases h

end Snapshot

namespace Visit

/-- Everything that the visits found has an instance id. -/
def AllIdentified (visits : List Visit) : Prop :=
  ∀ v ∈ visits, ∀ m ∈ v.members, m.instanceId ≠ none

theorem AllIdentified.identified {visits : List Visit} (h : AllIdentified visits)
    (now : Numeral.Binary64) :
    (Snapshot.ofSightings (visits.flatMap (·.sightings)) now).Identified := by
  intro ref fleet hr
  rw [Snapshot.ownerOf?_ofSightings] at hr
  obtain ⟨x, hx, -⟩ := Option.map_eq_some_iff.1 hr
  obtain ⟨v, hv, hxv⟩ := List.mem_flatMap.1 (Sighting.mem_of_last? hx).1
  obtain ⟨m, hm, -, -, hmx⟩ := Sighting.mem_ofMembers_iff.1 hxv
  obtain ⟨id, hid⟩ := Option.ne_none_iff_exists'.1 (h v hv m hm)
  refine ⟨id, ?_⟩
  rw [Snapshot.instanceIdOf?_ofSightings, hx, Option.bind_some, ← hmx, hid]

end Visit

namespace Manager
variable {ρ : Type} {client : Client ρ} {s t : System ρ} {targets : List InstanceRef}

/-- The state in whose snapshot a deletion is decided: the present one if its snapshot has all
targets, else the one after a rebuild. -/
inductive DecidedIn (client : Client ρ) (targets : List InstanceRef) (s : System ρ) :
    System ρ → Prop
  | cached (known : ∀ ref ∈ targets, s.snapshot.contains ref = true) : DecidedIn client targets s s
  | rebuilt {t : System ρ} (unknown : ∃ ref ∈ targets, s.snapshot.contains ref = false)
      (renewed : rebuild client s = (.ok (), t)) : DecidedIn client targets s t

theorem snapshotCovering_of_decidedIn (h : DecidedIn client targets s t) :
    snapshotCovering client targets s = (.ok t.snapshot, t) := by
  cases h with
  | cached known => exact snapshotCovering_of_all (List.all_eq_true.2 known)
  | rebuilt unknown renewed => rw [snapshotCovering_of_unknown unknown, refresh_eq, renewed]

/-- The first target that belongs elsewhere is the one that a refusal names. -/
theorem stranger?_eq_some {snapshot : Snapshot} {fleet : Fleet} {first ref : InstanceRef}
    {others before after : List InstanceRef} (howner : snapshot.ownerOf? first = some fleet)
    (hsplit : first :: others = before ++ ref :: after)
    (hbefore : ∀ r ∈ before, snapshot.ownerOf? r = some fleet)
    (href : snapshot.ownerOf? ref ≠ some fleet) : stranger? snapshot fleet others = some ref := by
  cases before with
  | nil =>
      obtain ⟨rfl, -⟩ := List.cons.inj hsplit
      exact absurd howner href
  | cons r rest =>
      obtain ⟨rfl, rfl⟩ := List.cons.inj hsplit
      refine List.find?_eq_some_iff_append.2 ⟨by simpa using href, rest, after, rfl, ?_⟩
      intro q hq
      simpa using hbefore q (List.mem_cons_of_mem _ hq)

theorem idsOf_eq_error {snapshot : Snapshot} {ref : InstanceRef} {before after : List InstanceRef}
    (hbefore : ∀ r ∈ before, snapshot.instanceIdOf? r ≠ none)
    (href : snapshot.instanceIdOf? ref = none) :
    idsOf snapshot (before ++ ref :: after) = .error (.staleId ref) := by
  induction before with
  | nil => simp [idsOf, href]
  | cons r rest ih =>
      obtain ⟨id, hid⟩ := Option.ne_none_iff_exists'.1 (hbefore r List.mem_cons_self)
      have hrest := ih fun q hq => hbefore q (List.mem_cons_of_mem _ hq)
      rw [List.cons_append, idsOf, hid, hrest]
      rfl

theorem exists_ids {snapshot : Snapshot} {fleet : Fleet} {refs : List InstanceRef}
    (h : snapshot.Identified) (howner : ∀ ref ∈ refs, snapshot.ownerOf? ref = some fleet) :
    ∃ ids : List String, refs.map snapshot.instanceIdOf? = ids.map some := by
  induction refs with
  | nil => exact ⟨[], rfl⟩
  | cons ref rest ih =>
      obtain ⟨id, hid⟩ := h ref fleet (howner ref List.mem_cons_self)
      obtain ⟨ids, hids⟩ := ih fun r hr => howner r (List.mem_cons_of_mem _ hr)
      exact ⟨id :: ids, by simp [hid, hids]⟩

/-- A deletion of given targets, all of them distinct, once the state to decide it in is known. -/
theorem deleteInstances_of_decidedIn {first : InstanceRef} {others : List InstanceRef}
    (hd : targets.eraseDups = first :: others) (ht : DecidedIn client targets.eraseDups s t) :
    deleteInstances client targets s =
      match resolve t.snapshot first others with
      | .ok plan => carryOut client plan t
      | .error e => (.error e, t) := by
  rw [hd] at ht
  rw [← distinct_eq_eraseDups] at hd
  have hres : resolveDeletion client targets s =
      ((resolve t.snapshot first others).map some, t) := by
    rw [resolveDeletion_of_cons hd, snapshotCovering_of_decidedIn ht]
  rw [deleteInstances_eq]
  cases hr : resolve t.snapshot first others with
  | error e =>
      rw [hr] at hres
      exact Action.bind_of_error hres
  | ok plan =>
      rw [hr] at hres
      exact Action.bind_of_ok hres

theorem records_of_decidedIn (ht : DecidedIn client targets.eraseDups s t) :
    (deleteInstances client targets s).2.records = t.records := by
  rw [Deed.records_deleteInstances, ← all_distinct, distinct_eq_eraseDups]
  cases ht with
  | cached known => rw [if_pos (List.all_eq_true.2 known)]
  | rebuilt unknown renewed => rw [if_neg (by simpa using unknown), renewed]

/-- The snapshot that a deletion is decided in identifies its instances, if all rebuilds up to then
found instance ids only. -/
theorem identified_of_decidedIn {loop : RefreshLoop} {world : World ρ} {deeds : List (Deed ρ)}
    (hids : Deed.EveryRebuild client Visit.AllIdentified (deeds ++ [.deleteInstances targets])
      (System.start loop world))
    (ht : DecidedIn client targets.eraseDups (Deed.run client deeds (System.start loop world)) t) :
    t.snapshot.Identified := by
  have hrun := Deed.snapshot_run Snapshot.identified_empty
    (hids.mono fun visits h now => h.identified now)
  rw [Deed.run_append_singleton] at hrun
  have hrecords : t.records.snapshot.Identified := records_of_decidedIn ht ▸ hrun
  exact hrecords

/-- A rebuild of the checked client finds nothing without an instance id. -/
theorem allIdentified_of_checked {azure : Azure ρ} {group : ResourceGroup}
    {seen : List Sighting} {visits : List Visit} {w w' : World ρ}
    (h : Survey (Client.checked azure group) seen w visits w') : Visit.AllIdentified visits := by
  induction h with
  | nil =>
      intro v hv
      cases hv
  | cons first others ih =>
      intro v hv m hm
      rcases List.mem_cons.1 hv with rfl | hv
      · obtain ⟨-, hl, -⟩ := first
        have hids := (Client.listChecked_of_ok hl).2 m hm
        intro hnone
        simp [Member.hasIds, hnone] at hids
      · exact ih v hv m hm

theorem everyRebuild_allIdentified (azure : Azure ρ) (group : ResourceGroup)
    (deeds : List (Deed ρ)) (s : System ρ) :
    Deed.EveryRebuild (Client.checked azure group) Visit.AllIdentified deeds s := by
  induction deeds generalizing s with
  | nil => trivial
  | cons d rest ih =>
      refine ⟨?_, ih _⟩
      rintro visits w ⟨w₀, -, hs, -⟩
      exact allIdentified_of_checked hs

/-- Either there is a state to decide a deletion in, or the rebuild that it needs fails. -/
theorem decidedIn_or_fails (client : Client ρ) (targets : List InstanceRef) (s : System ρ) :
    (∃ t, DecidedIn client targets s t) ∨
      (∃ ref ∈ targets, s.snapshot.contains ref = false) ∧
        ∃ e t, rebuild client s = (.error e, t) := by
  by_cases h : ∀ ref ∈ targets, s.snapshot.contains ref = true
  · exact Or.inl ⟨s, .cached h⟩
  · have hunknown : ∃ ref ∈ targets, s.snapshot.contains ref = false := by simpa using h
    rcases hr : rebuild client s with ⟨e | u, t⟩
    · exact Or.inr ⟨hunknown, e, t, rfl⟩
    · exact Or.inl ⟨t, .rebuilt hunknown hr⟩

/-- What a deletion comes to, in every state that a course of deeds leads to. Repeated targets count
once, in the place of their first mention. Without targets nothing happens. With a target that the
snapshot lacks, one rebuild is made, and its fault, if any, ends the deletion. In the snapshot
that is there then, the owner of the first target decides: without one the deletion is refused, and
so it is for the first target with another owner or none. Otherwise the deletion comes to one call
with the instance ids of the targets, or is refused for the first target without one. There is no
such target as long as all that was listed had an instance id, and the checked client lists nothing
else. -/
theorem deleteInstances_outcome (client : Client ρ) (loop : RefreshLoop) (world : World ρ)
    (deeds : List (Deed ρ)) (targets : List InstanceRef) :
    let start := System.start loop world
    let s := Deed.run client deeds start
    let rs := targets.eraseDups
    (rs = [] → deleteInstances client targets s = (.ok (), s)) ∧
    ((∃ t, DecidedIn client rs s t) ∨
      (∃ r ∈ rs, s.snapshot.contains r = false) ∧ ∃ e t, rebuild client s = (.error e, t)) ∧
    (∀ e t, (∃ r ∈ rs, s.snapshot.contains r = false) → rebuild client s = (.error e, t) →
      deleteInstances client targets s = (.error e, t)) ∧
    (∀ t first others, rs = first :: others → DecidedIn client rs s t →
      (t.snapshot.ownerOf? first = none →
        deleteInstances client targets s = (.error (.unmanaged first), t)) ∧
      ∀ fleet, t.snapshot.ownerOf? first = some fleet →
        (∀ before r after, rs = before ++ r :: after →
          (∀ q ∈ before, t.snapshot.ownerOf? q = some fleet) →
          t.snapshot.ownerOf? r ≠ some fleet →
          deleteInstances client targets s =
            (.error (.crossFleet r fleet.name ((t.snapshot.ownerOf? r).map (·.name))), t)) ∧
        ((∀ r ∈ rs, t.snapshot.ownerOf? r = some fleet) →
          (∀ ids : List String, rs.map t.snapshot.instanceIdOf? = ids.map some →
            deleteInstances client targets s =
              Effect.lift (client.delete fleet.name ids)
                (t.report (.deleting ids.length fleet.name))) ∧
          (∀ before r after, rs = before ++ r :: after →
            (∀ q ∈ before, t.snapshot.instanceIdOf? q ≠ none) →
            t.snapshot.instanceIdOf? r = none →
            deleteInstances client targets s = (.error (.staleId r), t)) ∧
          (Deed.EveryRebuild client Visit.AllIdentified
              (deeds ++ [.deleteInstances targets]) start →
            ∃ ids : List String, rs.map t.snapshot.instanceIdOf? = ids.map some))) ∧
    ∀ azure group, client = Client.checked azure group →
      Deed.EveryRebuild client Visit.AllIdentified (deeds ++ [.deleteInstances targets]) start := by
  intro start s rs
  refine ⟨?_, decidedIn_or_fails client rs s, ?_, ?_, ?_⟩
  · intro hnil
    have hd : distinct targets = [] := (distinct_eq_eraseDups targets).trans hnil
    rw [deleteInstances_eq, Action.bind_of_ok (resolveDeletion_of_nil hd)]
    rfl
  · rintro e t ⟨ref, hmem, hr⟩ hfail
    obtain ⟨w, hw, rfl⟩ := rebuild_eq_error_iff.1 hfail
    have hnone : s.snapshot.ownerOf? ref = none := Snapshot.contains_eq_false_iff.1 hr
    exact deleteInstances_of_halt ⟨ref, List.mem_eraseDups.1 hmem, hnone⟩ hw
  · intro t first others hcons ht
    have hdel := deleteInstances_of_decidedIn hcons ht
    refine ⟨?_, ?_⟩
    · intro hfirst
      rw [hdel, resolve_of_no_owner hfirst]
    · intro fleet hfirst
      refine ⟨?_, ?_⟩
      · intro before r after hsplit hbefore hr
        have hst := stranger?_eq_some hfirst (hcons.symm.trans hsplit) hbefore hr
        rw [hdel, resolve_of_owner hfirst, hst]
      · intro howner
        have hst : stranger? t.snapshot fleet others = none :=
          stranger?_eq_none_iff.2 fun r hr => howner r (hcons ▸ List.mem_cons_of_mem _ hr)
        refine ⟨?_, ?_, ?_⟩
        · intro ids hmap
          rw [hdel, resolve_of_owner hfirst, hst, idsOf_eq_ok_iff.2 (hcons ▸ hmap)]
          rfl
        · intro before r after hsplit hbefore hr
          rw [hdel, resolve_of_owner hfirst, hst, hcons.symm.trans hsplit,
            idsOf_eq_error hbefore hr]
          rfl
        · intro hids
          exact exists_ids (identified_of_decidedIn hids ht) howner
  · rintro azure group rfl
    exact everyRebuild_allIdentified azure group _ _

/-- A deletion within the first pool goes out with the ids in the order of the targets; one that
reaches into the second pool is refused. -/
theorem deleteInstances_outcome_twoPools :
    let client := Client.checked InMemory.azure (.text "rg")
    let start := System.start (.fresh (.int 60)) twoPools
    let s := Deed.run client [.register poolA, .register poolB] start
    let t := (rebuild client s).2
    deleteInstances client [refA1, refA0, refA1] s =
      Effect.lift (client.delete "pool-a" ["1", "0"]) (t.report (.deleting 2 "pool-a")) ∧
    deleteInstances client [refA0, refB0] s =
      (.error (.crossFleet refB0 "pool-a" (some "pool-b")), t) := by
  intro client start s t
  have hr : rebuild client s = (.ok (), t) := Prod.ext rfl rfl
  have h := deleteInstances_outcome client (.fresh (.int 60)) twoPools
    [.register poolA, .register poolB]
  constructor
  · have hd : DecidedIn client [refA1, refA0] s t :=
      .rebuilt ⟨refA1, List.mem_cons_self, rfl⟩ hr
    have hrs : [refA1, refA0, refA1].eraseDups = [refA1, refA0] := by decide +kernel
    have hcase := (h [refA1, refA0, refA1]).2.2.2.1 t refA1 [refA0] hrs (hrs ▸ hd)
    have howner : ∀ r ∈ [refA1, refA0, refA1].eraseDups, t.snapshot.ownerOf? r = some poolA := by
      decide +kernel
    exact ((hcase.2 poolA (by decide +kernel)).2 howner).1 ["1", "0"] (by decide +kernel)
  · have hd : DecidedIn client [refA0, refB0] s t := .rebuilt ⟨refA0, List.mem_cons_self, rfl⟩ hr
    have hrs : [refA0, refB0].eraseDups = [refA0, refB0] := by decide +kernel
    have hcase := (h [refA0, refB0]).2.2.2.1 t refA0 [refB0] hrs (hrs ▸ hd)
    exact (hcase.2 poolA (by decide +kernel)).1 [refA0] refB0 [] hrs (by decide +kernel)
      (by decide +kernel)

end Manager
end FleetWarden
