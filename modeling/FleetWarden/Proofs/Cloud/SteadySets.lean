import FleetWarden.Cloud.InMemory
import FleetWarden.Proofs.Cloud.Refusals
import FleetWarden.Proofs.Membership.Holdings

/-!
# Sets in memory that stay as they are

Questions change no scale set, so the checked client is steady over sets in memory that can all be
described and listed, as long as no failure is asked for.
-/

namespace FleetWarden
namespace InMemory

/-- The remote side has these sets, and nothing will fail. -/
def Rests (sets : List RemoteSet) (w : World InMemory) : Prop :=
  w.remote.sets = sets ∧ w.remote.failures = []

/-- The set that is listed for a fleet: the one found under the name that the fleet goes by. -/
def listedFor? (sets : List RemoteSet) (fleet : Fleet) : Option RemoteSet :=
  (sets.find? (·.answersTo fleet.name)).bind fun set =>
    sets.find? (·.answersTo ((body set).nameOr fleet.name))

/-- The instances of the set that is listed for a fleet. -/
def holdings (sets : List RemoteSet) (fleet : Fleet) : List InstanceRef :=
  match listedFor? sets fleet with
  | some set => set.members.filterMap (·.ref?)
  | none => []

/-- Whether a fleet can be described and listed, with ids and keys for all that is listed. -/
def serves (sets : List RemoteSet) (fleet : Fleet) : Bool :=
  (sets.find? (·.answersTo fleet.name)).any
      (fun set => (Client.capacityOf fleet.name (body set)).isOk) &&
    (listedFor? sets fleet).any fun set => set.members.all fun m => m.hasIds && m.ref?.isSome

/-- The name that a fleet goes by, if there is a set for it. -/
def goesBy (sets : List RemoteSet) (fleet : Fleet) : String :=
  match sets.find? (·.answersTo fleet.name) with
  | some set => (body set).nameOr fleet.name
  | none => fleet.name

/-- The members of the set that is listed for a fleet. -/
def lists (sets : List RemoteSet) (fleet : Fleet) : List Member :=
  match listedFor? sets fleet with
  | some set => set.members
  | none => []

theorem serves_iff {sets : List RemoteSet} {fleet : Fleet} :
    serves sets fleet = true ↔
      ∃ set, sets.find? (·.answersTo fleet.name) = some set ∧
        (Client.capacityOf fleet.name (body set)).isOk = true ∧
        ∃ listed, listedFor? sets fleet = some listed ∧
          ∀ m ∈ listed.members, m.hasIds = true ∧ m.ref?.isSome = true := by
  simp only [serves, Bool.and_eq_true, Option.any_eq_true, List.all_eq_true]
  constructor
  · rintro ⟨⟨set, hset, hc⟩, hlisted⟩
    exact ⟨set, hset, hc, hlisted⟩
  · rintro ⟨set, hset, hc, hlisted⟩
    exact ⟨⟨set, hset, hc⟩, hlisted⟩

section
variable {sets : List RemoteSet} {set : RemoteSet} {name : String} {w : World InMemory}
variable (group : ResourceGroup)

theorem mayFail_of_rests (h : Rests sets w) (point : CallPoint) :
    mayFail point name w = (.ok (), w) := by
  simp [mayFail, h.2, takeFailure]

theorem find_of_rests (h : Rests sets w) (hf : sets.find? (·.answersTo name) = some set) :
    find name w = (.ok set, w.advance set.latency) := by
  simp [find, h.1, hf]

/-- A question that looks a set up is answered from the set. -/
theorem lookUp_of_rests {α : Type} (h : Rests sets w)
    (hf : sets.find? (·.answersTo name) = some set) (call : Call) (point : CallPoint)
    (answer : RemoteSet → α) :
    ∃ w', (do
        record call
        mayFail point name
        let set ← find name
        pure (answer set)) w = (.ok (answer set), w') ∧ Rests sets w' := by
  obtain ⟨w₁, hr, hw₁⟩ : ∃ w₁, record call w = (.ok (), w₁) ∧ Rests sets w₁ := ⟨_, rfl, h⟩
  refine ⟨w₁.advance set.latency, ?_, hw₁⟩
  rw [Action.bind_of_ok hr, Action.bind_of_ok (mayFail_of_rests hw₁ point),
    Action.bind_of_ok (find_of_rests hw₁ hf)]
  rfl

theorem arrived_of_rests (h : Rests sets w) {members : List Member}
    (hm : ∀ m ∈ members, m.hasIds = true) (i : Nat) :
    Client.Arrived azure name i w members w := by
  induction members generalizing i with
  | nil => exact .nil
  | cons m rest ih =>
      obtain ⟨hids, hrest⟩ := List.forall_mem_cons.1 hm
      exact .cons (mayFail_of_rests h _) hids (ih hrest (i + 1))

theorem describeChecked_of_rests (h : Rests sets w)
    (hf : sets.find? (·.answersTo name) = some set)
    (hc : (Client.capacityOf name (body set)).isOk = true) :
    ∃ d w', Client.describeChecked azure group name w = (.ok d, w') ∧
      d.name = (body set).nameOr name ∧ Rests sets w' := by
  obtain ⟨w', hg, hw'⟩ : ∃ w', azure.get group name w = (.ok (body set), w') ∧ Rests sets w' :=
    lookUp_of_rests h hf (.get group name) .get body
  cases hn : Client.capacityOf name (body set) with
  | error e =>
      rw [hn] at hc
      cases hc
  | ok n =>
      have hfetch := Client.fetch_of_answer hg
      rw [hn] at hfetch
      exact ⟨_, w', Action.bind_of_ok hfetch, rfl, hw'⟩

theorem listChecked_of_rests (h : Rests sets w) (hf : sets.find? (·.answersTo name) = some set)
    (hm : ∀ m ∈ set.members, m.hasIds = true) :
    ∃ w', Client.listChecked azure group name w = (.ok set.members, w') ∧ Rests sets w' := by
  obtain ⟨w', hl, hw'⟩ : ∃ w', azure.list group name w = (.ok set.members, w') ∧ Rests sets w' :=
    lookUp_of_rests h hf (.list group name) .list (·.members)
  have harrived : Client.Arrived azure name 0 w' set.members w' := arrived_of_rests hw' hm 0
  have ha := Client.arrive_eq_ok_iff.2 ⟨rfl, harrived⟩
  refine ⟨w'.report (.listed name set.members.length), ?_, hw'⟩
  rw [Client.listChecked, Action.bind_of_ok hl, Action.bind_of_ok ha]
  rfl

/-- Over sets that can be described and listed, and where nothing will fail, the checked client
always gives the same answers. -/
theorem unvarying_checked {fleets : List Fleet} (h : ∀ fleet ∈ fleets, serves sets fleet = true) :
    Client.Unvarying (.checked azure group) fleets (goesBy sets) (lists sets) (Rests sets) where
  told _ hw := hw
  answers {w fleet} hfleet hw := by
    obtain ⟨set, hset, hc, listed, hlisted, hm⟩ := serves_iff.1 (h fleet hfleet)
    have hfound : sets.find? (·.answersTo ((body set).nameOr fleet.name)) = some listed := by
      rwa [listedFor?, hset] at hlisted
    obtain ⟨d, w₁, hd, hname, hw₁⟩ := describeChecked_of_rests group hw hset hc
    obtain ⟨w₂, hl, hw₂⟩ := listChecked_of_rests group hw₁ hfound fun m hmem => (hm m hmem).1
    refine ⟨d, w₁, w₂, hd, ?_, ?_, hw₂⟩
    · rw [hname, goesBy, hset]
    · rw [lists, hlisted]
      exact hname ▸ hl
  refs {fleet} hfleet m hmem := by
    obtain ⟨-, -, -, listed, hlisted, hm⟩ := serves_iff.1 (h fleet hfleet)
    rw [lists, hlisted] at hmem
    exact Option.isSome_iff_ne_none.1 (hm m hmem).2

/-- Over such sets, the checked client always tells what the sets hold. -/
theorem steady_checked {fleets : List Fleet} (h : ∀ fleet ∈ fleets, serves sets fleet = true) :
    Client.Steady (.checked azure group) fleets (holdings sets) (Rests sets) := by
  apply (unvarying_checked group h).steady
  intro fleet ref
  rw [InstanceRef.isListed_iff, holdings, lists]
  cases listedFor? sets fleet <;> simp

end
end InMemory
end FleetWarden
