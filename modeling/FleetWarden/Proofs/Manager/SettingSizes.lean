import FleetWarden.Proofs.Cloud.Notes
import FleetWarden.Proofs.Manager.FailedRebuild
import FleetWarden.Proofs.Manager.Sizes
import FleetWarden.Proofs.Numeral.Digits

/-!
# Setting a size

A change of size reads the set, and writes it back with the new capacity. `ResizeStops` names the
points at which it can come to an end before that is done, with the calls that were made up to
there. At each of them every set is still as it was; past the last one exactly one set has another
capacity. The records of the manager have no part in it.
-/

namespace FleetWarden

open Numeral Text

section
variable {ρ α : Type}

/-- The system without the notes. -/
def System.withoutNotes (s : System (Noted ρ)) : System ρ :=
  ⟨s.entries, s.snapshot, s.rebuilds, s.loop, s.world.withoutNotes⟩

theorem Effect.projects_lift_noted {x : Effect (Noted ρ) α} {y : Effect ρ α}
    (h : Action.Projects World.withoutNotes x y) :
    Action.Projects System.withoutNotes (Effect.lift x) (Effect.lift y) :=
  h.within (fun _ => rfl) fun _ _ => rfl

end

namespace Manager
variable {ρ : Type}

/-- Where a change of size stops: the calls that were made, and the fault. In most cases the last
call failed. Otherwise the set does not say its capacity, or says it in words that are no number, or
one of the two sizes has too many digits for the report between the calls. -/
inductive ResizeStops (group : ResourceGroup) (name : String) (target : Int) :
    List Note → Fault → Prop
  | get {f : Fault} : ResizeStops group name target [.got group name (.error f)] f
  | noCapacity {body : ScaleSetBody} (missing : body.capacity = none ∨ body.capacity = some .null) :
      ResizeStops group name target [.got group name (.ok body)] (.noCapacity name)
  | badCapacity {body : ScaleSetBody} {v : Value} {e : WholeError}
      (found : body.capacity = some v) (set : v ≠ .null) (unreadable : v.whole = .error e) :
      ResizeStops group name target [.got group name (.ok body)] (.badCapacity e)
  | unwritable {body : ScaleSetBody} {n : Int} (read : Client.capacityOf name body = .ok n)
      (long : Value.allWritable [.int n, .int target] = false) :
      ResizeStops group name target [.got group name (.ok body)] .unwritable
  | beginUpdate {body : ScaleSetBody} {f : Fault} :
      ResizeStops group name target
        [.got group name (.ok body), .updateBegun group name (body.resized target) (.error f)] f
  | finishUpdate {body : ScaleSetBody} {f : Fault} :
      ResizeStops group name target
        [.got group name (.ok body), .updateBegun group name (body.resized target) (.ok ()),
          .updateFinished name (body.resized target) (.error f)] f

variable {azure : Azure ρ} {group : ResourceGroup} {fleet : Fleet} {target : Int}
  {found : ρ → String → Option RemoteSet}

theorem ResizeStops.of_capacityOf {name : String} {body : ScaleSetBody} {f : Fault}
    (h : Client.capacityOf name body = .error f) :
    ResizeStops group name target [.got group name (.ok body)] f := by
  rcases Client.capacityOf_eq_error_iff.1 h with ⟨hmissing, rfl⟩ | ⟨v, e, hfound, hset, hread, rfl⟩
  · exact .noCapacity hmissing
  · exact .badCapacity hfound hset hread

theorem ResizeStops.of_sent {name : String} {body : ScaleSetBody} {notes : List Note} {f : Fault}
    (h : Sent group name (body.resized target) notes (.error f)) :
    ResizeStops group name target (.got group name (.ok body) :: notes) f := by
  cases h with
  | refused => exact .beginUpdate
  | waited => exact .finishUpdate

theorem projects_reportSizes (sizes : List Value) (e : Event) :
    Action.Projects System.withoutNotes (reportSizes sizes e : Operation (Noted ρ) Unit)
      (reportSizes sizes e) := by
  unfold reportSizes
  split
  · exact Action.projects_change fun _ => rfl
  · exact Action.projects_fail _

/-- The notes make no difference to a change of size. -/
theorem projects_setSize (azure : Azure ρ) (group : ResourceGroup) (fleet : Fleet) (target : Int) :
    Action.Projects System.withoutNotes (setSize (.checked azure.noted group) fleet target)
      (setSize (.checked azure group) fleet target) :=
  (Effect.projects_lift_noted (Client.projects_describeChecked azure group fleet.name)).bind
    fun current => (projects_reportSizes _ _).bind fun _ => Effect.projects_lift_noted
      (Client.projects_updateChecked azure group fleet.name target (some current))

section Outcome
variable {s t : System (Noted ρ)} {answer : Except Fault Unit}
  (h : setSize (.checked azure.noted group) fleet target s = (answer, t))
include h

/-- A change of size has no part in what the manager keeps. -/
theorem records_of_setSize : t.entries = s.entries ∧ t.snapshot = s.snapshot ∧
    t.rebuilds = s.rebuilds ∧ t.loop = s.loop := by
  have hkeeps : Action.Keeps (fun u => u.entries = s.entries ∧ u.snapshot = s.snapshot ∧
      u.rebuilds = s.rebuilds ∧ u.loop = s.loop)
      (setSize (.checked azure.noted group) fleet target) :=
    keeps_setSize (fun _ _ hu => hu) fleet target
  exact hkeeps.of_eq ⟨rfl, rfl, rfl, rfl⟩ h

/-- What a change of size does to the sets, and the calls that it makes. -/
theorem outcome_of_setSize (hholds : azure.Holds group found) :
    found t.world.remote.remote =
        foundAfter (found s.world.remote.remote) fleet.name target answer ∧
      ∃ notes, t.world.remote.notes = s.world.remote.notes ++ notes ∧
        match answer with
        | .error f => ResizeStops group fleet.name target notes f
        | .ok () => ∃ body n,
            notes = [.got group fleet.name (.ok body),
              .updateBegun group fleet.name (body.resized target) (.ok ()),
              .updateFinished fleet.name (body.resized target) (.ok ())] ∧
            Client.capacityOf fleet.name body = .ok n ∧
            Value.allWritable [.int n, .int target] = true ∧
            ∃ set, found s.world.remote.remote fleet.name = some set ∧
              body.capacity = (InMemory.body set).capacity := by
  rw [setSize_eq] at h
  rcases hdescribe : (Client.checked azure.noted group).describe fleet.name s.world with
    ⟨described, w⟩
  obtain ⟨got, fetched, hget, hnotes, hfetched, rfl⟩ := Client.describe_noted hdescribe
  have hsame : found w.remote.remote = found s.world.remote.remote := hholds.get hget
  rw [hdescribe] at h
  cases hfetched with
  | refused =>
      cases h
      exact ⟨hsame, _, hnotes, .get⟩
  | unreadable hcapacity =>
      cases h
      exact ⟨hsame, _, hnotes, .of_capacityOf hcapacity⟩
  | @read body n hread =>
      dsimp only [Except.map] at h
      split_ifs at h with hwritable
      · obtain ⟨hanswer, rfl⟩ := Prod.mk.inj h
        have hupdate : Client.updateChecked azure.noted group fleet.name target
            (some ⟨body.nameOr fleet.name, .int n, some body⟩)
            (w.report (.resizing fleet.name (.int n) target)) = (answer, _) :=
          Prod.ext hanswer rfl
        obtain ⟨notes, hsending, hupdated⟩ := Client.updated_of_updateChecked hupdate
        refine ⟨?_, .got group fleet.name (.ok body) :: notes, ?_, ?_⟩
        · exact (Client.found_of_updateChecked hupdate hholds).trans
            (congrArg (foundAfter · fleet.name target answer) hsame)
        · refine hsending.trans ?_
          rw [World.report, hnotes, List.append_assoc]
          rfl
        · cases hupdated with
          | passed hsent =>
              cases answer with
              | error f => exact .of_sent hsent
              | ok _ =>
                  cases hsent
                  exact ⟨body, n, rfl, hread, hwritable, hholds.shows hget⟩
      · cases h
        exact ⟨hsame, _, hnotes, .unwritable hread (Bool.eq_false_iff.2 hwritable)⟩

end Outcome

/-- A set with a size that can be reported is answered with it, unless the call fails. -/
theorem getSize_of_found (hholds : azure.Holds group found) {u : System ρ} {set : RemoteSet}
    (hset : found u.world.remote fleet.name = some set) (hsize : set.hasSize = true)
    (hcapacity : set.capacity = .int target) (hwritable : Value.isWritable (.int target) = true) :
    (getSize (.checked azure group) fleet u).1 =
      (azure.get group fleet.name (u.world.report (.sizeAsked fleet.name))).1.map
        fun _ => .int target := by
  rw [getSize_eq]
  rcases hget : azure.get group fleet.name (u.world.report (.sizeAsked fleet.name)) with
    ⟨f | body, w⟩
  · have hdescribe : (Client.checked azure group).describe fleet.name
        (u.world.report (.sizeAsked fleet.name)) = (.error f, w) :=
      Client.describeChecked_eq_error_iff.2 (.call hget)
    rw [hdescribe]
    rfl
  · obtain ⟨set', hset', hbody⟩ := hholds.shows hget
    obtain rfl : set = set' := Option.some.inj (hset.symm.trans hset')
    have hread : Client.capacityOf fleet.name body = .ok target := by
      rw [Client.capacityOf, hbody, InMemory.body, hsize, hcapacity]
      rfl
    have hdescribe : (Client.checked azure group).describe fleet.name
        (u.world.report (.sizeAsked fleet.name)) =
          (.ok ⟨body.nameOr fleet.name, .int target, some body⟩, w) := by
      have hfetch := Client.fetch_of_answer hget
      rw [hread] at hfetch
      exact Action.bind_of_ok hfetch
    rw [hdescribe]
    simp only [Value.allWritable, hwritable, Bool.and_self, if_true]
    rfl

/-- A change of size is exact, and it is all or nothing. If it succeeds, it has got the set, begun
an update to the new capacity and waited for it, and nothing else; the set has that capacity and the
size of the fleet is answered with it until the set is changed again, while all other sets are as
they were. If it fails, all sets are as they were. The fault is then that of the call at which it
stopped, or the client's own for a set that does not say its capacity, or one of two that are
neither: of a capacity that is no number, and of a size that is too long to be reported
(`setSize_of_unusable_sizes`). What the manager keeps is the same either way. -/
theorem setSize_all_or_nothing (hholds : azure.Holds group found) (fleet : Fleet) (target : Int)
    (s : System (Noted ρ)) :
    let (answer, t) := setSize (.checked azure.noted group) fleet target s
    setSize (.checked azure group) fleet target s.withoutNotes = (answer, t.withoutNotes) ∧
      (t.entries = s.entries ∧ t.snapshot = s.snapshot ∧ t.rebuilds = s.rebuilds ∧
        t.loop = s.loop) ∧
      match answer with
      | .ok () =>
        (∃ body, t.world.remote.notes = s.world.remote.notes ++
          [.got group fleet.name (.ok body),
            .updateBegun group fleet.name (body.resized target) (.ok ()),
            .updateFinished fleet.name (body.resized target) (.ok ())]) ∧
        (∃ set, found s.world.remote.remote fleet.name = some set ∧
          found t.world.remote.remote fleet.name = some { set with capacity := .int target }) ∧
        (∀ other, ¬lower other = lower fleet.name →
          found t.world.remote.remote other = found s.world.remote.remote other) ∧
        (∀ other, (found t.world.remote.remote other).map (·.members) =
          (found s.world.remote.remote other).map (·.members)) ∧
        ∀ u : System ρ,
          found u.world.remote fleet.name = found t.world.remote.remote fleet.name →
            (getSize (.checked azure group) fleet u).1 =
              (azure.get group fleet.name (u.world.report (.sizeAsked fleet.name))).1.map
                fun _ => .int target
      | .error f =>
        found t.world.remote.remote = found s.world.remote.remote ∧
          ∃ notes, t.world.remote.notes = s.world.remote.notes ++ notes ∧
            ResizeStops group fleet.name target notes f := by
  rcases hrun : setSize (.checked azure.noted group) fleet target s with ⟨answer, t⟩
  have hplain : setSize (.checked azure group) fleet target s.withoutNotes =
      (answer, t.withoutNotes) := by
    rw [projects_setSize azure group fleet target s, hrun]
  refine ⟨hplain, records_of_setSize hrun, ?_⟩
  obtain ⟨hfound, notes, hnotes, houtcome⟩ := outcome_of_setSize hrun hholds
  cases answer with
  | error f => exact ⟨hfound, notes, hnotes, houtcome⟩
  | ok _ =>
      obtain ⟨body, n, rfl, hread, hwritable, set, hset, hbody⟩ := houtcome
      rw [foundAfter] at hfound
      have hresized : found t.world.remote.remote fleet.name =
          some { set with capacity := .int target } := by
        rw [hfound, resizedIn, if_pos rfl, hset]
        rfl
      have hsize : set.hasSize = true := by
        by_contra hno
        rw [Client.capacityOf, hbody, InMemory.body, if_neg hno] at hread
        cases hread
      have hshort : Value.isWritable (.int target) = true := by
        simp only [Value.allWritable, Bool.and_eq_true] at hwritable
        exact hwritable.2.1
      refine ⟨⟨body, hnotes⟩, ⟨set, hset, hresized⟩, ?_, ?_, ?_⟩
      · intro other hother
        rw [hfound, resizedIn, if_neg hother]
      · intro other
        rw [hfound, resizedIn]
        split_ifs
        · rw [Option.map_map]
          rfl
        · rfl
      · intro u hsame
        exact getSize_of_found hholds (hsame.trans hresized) hsize rfl hshort

/-- A pool in capital letters. -/
def loudPool : Fleet := ⟨0, ⟨"POOL-A", 0, 9, by decide +kernel, by decide⟩⟩

/-- The set is found whatever the case of the letters, and it is the one that is changed. -/
theorem setSize_all_or_nothing_loudPool :
    let s := System.start (.fresh (.int 60)) (twoPools.withNotes [])
    let client := Client.checked InMemory.azure.noted (.text "rg")
    let t := (setSize client loudPool 7 s).2
    InMemory.azure.Holds (.text "rg") InMemory.found ∧
      (setSize client loudPool 7 s).1 = .ok () ∧
      t.world.remote.notes.length = 3 ∧
      (∃ set, InMemory.found s.world.remote.remote "POOL-A" = some set ∧
        InMemory.found t.world.remote.remote "POOL-A" = some { set with capacity := .int 7 }) ∧
      InMemory.found t.world.remote.remote "pool-b" =
        InMemory.found s.world.remote.remote "pool-b" := by
  intro s client t
  have hanswer : (setSize client loudPool 7 s).1 = .ok () := by rfl
  have hrun : setSize client loudPool 7 s = (.ok (), t) := Prod.ext hanswer rfl
  have h := setSize_all_or_nothing (InMemory.holds (.text "rg")) loudPool 7 s
  rw [hrun] at h
  obtain ⟨-, -, ⟨body, hnotes⟩, hset, hothers, -, -⟩ := h
  refine ⟨InMemory.holds _, hanswer, ?_, hset, hothers "pool-b" (by decide +kernel)⟩
  exact congrArg List.length hnotes

/-- The pool in capital letters alone, with the given value for its capacity. -/
def solePool (capacity : Value) : System InMemory :=
  .start (.fresh (.int 60))
    (.start (.ofSets [⟨"POOL-A", none, capacity, true, [], .zero⟩]) .zero)

theorem setSize_of_long {n : Int} (h : (Whole.write? n).isSome = false) :
    (setSize (.checked InMemory.azure (.text "rg")) loudPool n (solePool (.int 5))).1 =
      .error .unwritable := by
  have hlong : Value.allWritable [.int 5, .int n] = false := by
    simp [Value.allWritable, Value.isWritable, h]
  rw [setSize_eq]
  exact congrArg Prod.fst (if_neg (Bool.eq_false_iff.1 hlong))

/-- Of two changes of size that fail without any call that does, the first one finds a word for the
capacity, and the second one has more digits than can be reported. -/
theorem setSize_of_unusable_sizes :
    let client := Client.checked InMemory.azure (.text "rg")
    let long := Whole.tenTo Whole.digitLimit
    (setSize client loudPool 7 (solePool (.text "x"))).1 = .error (.badCapacity (.badText "x")) ∧
      (setSize client loudPool long (solePool (.int 5))).1 = .error .unwritable ∧
      ∀ f ∈ [Fault.badCapacity (.badText "x"), .unwritable], f.kind = .value := by
  refine ⟨rfl, setSize_of_long ?_, by decide⟩
  rw [Whole.write?, Int.natAbs_natCast,
    if_neg (Nat.not_le.2 (Whole.lt_length_digits_tenTo Whole.digitLimit))]
  rfl

end Manager

end FleetWarden
