import FleetWarden.Proofs.Cloud.Machines
import FleetWarden.Proofs.Cloud.Refusals
import FleetWarden.Proofs.Projection

/-!
# Notes of remote calls

Every remote side has one beside it that notes each call with its answer and does nothing else in
another way. `Updated` tells what an update of the checked client notes, from the body that it was
passed: a body is fetched only if none was, and what is sent has the capacity that was asked for and
no provisioning state.

## Implementation notes

What a remote side holds is told by a function from its states and names to scale sets, as in
`Azure.Holds`, so that nothing is said about how it stores them. A body is a value here. That an
answer is a copy, which later changes of it leave alone, needs no law of its own.
-/

namespace FleetWarden

open Text

/-- A call on the remote side with its answer. -/
inductive Note where
  | got (group : ResourceGroup) (name : String) (answer : Except Fault ScaleSetBody)
  | listed (group : ResourceGroup) (name : String) (answer : Except Fault (List Member))
  | reached (name : String) (index : Nat) (answer : Except Fault Unit)
  | updateBegun (group : ResourceGroup) (name : String) (body : ScaleSetBody)
      (answer : Except Fault Unit)
  | updateFinished (name : String) (body : ScaleSetBody) (answer : Except Fault Unit)
  | deletionBegun (group : ResourceGroup) (name : String) (ids : List String)
      (answer : Except Fault Unit)
  | deletionFinished (name : String) (ids : List String) (answer : Except Fault Unit)

/-- A remote side, and the notes of the calls on it. -/
structure Noted (ρ : Type) where
  remote : ρ
  notes : List Note

section
variable {ρ α : Type}

namespace World

/-- The world without the notes. -/
def withoutNotes (w : World (Noted ρ)) : World ρ :=
  ⟨w.remote.remote, w.clock, w.log, w.loopLog, w.threads⟩

/-- The world with notes of its calls. -/
def withNotes (w : World ρ) (notes : List Note) : World (Noted ρ) :=
  ⟨⟨w.remote, notes⟩, w.clock, w.log, w.loopLog, w.threads⟩

end World

/-- Calls as before and notes the call. -/
def Effect.noted (note : Except Fault α → Note) (x : Effect ρ α) : Effect (Noted ρ) α := fun w =>
  let (answer, after) := x w.withoutNotes
  (answer, after.withNotes (w.remote.notes ++ [note answer]))

/-- The remote side that notes the calls on it. -/
def Azure.noted (azure : Azure ρ) : Azure (Noted ρ) where
  get group name := (azure.get group name).noted (.got group name)
  list group name := (azure.list group name).noted (.listed group name)
  reach name index := (azure.reach name index).noted (.reached name index)
  beginUpdate group name body :=
    (azure.beginUpdate group name body).noted (.updateBegun group name body)
  finishUpdate name body := (azure.finishUpdate name body).noted (.updateFinished name body)
  beginDelete group name ids :=
    (azure.beginDelete group name ids).noted (.deletionBegun group name ids)
  finishDelete name ids := (azure.finishDelete name ids).noted (.deletionFinished name ids)

theorem Effect.projects_noted (note : Except Fault α → Note) (x : Effect ρ α) :
    Action.Projects World.withoutNotes (x.noted note) x := fun _ => rfl

theorem Effect.noted_eq_iff {note : Except Fault α → Note} {x : Effect ρ α}
    {w w' : World (Noted ρ)} {answer : Except Fault α} :
    x.noted note w = (answer, w') ↔ x w.withoutNotes = (answer, w'.withoutNotes) ∧
      w'.remote.notes = w.remote.notes ++ [note answer] := by
  constructor
  · intro h
    cases h
    exact ⟨rfl, rfl⟩
  · rintro ⟨hcall, hnotes⟩
    rw [Effect.noted, hcall]
    exact congrArg (fun notes => (answer, w'.withoutNotes.withNotes notes)) hnotes.symm

end

/-! ## Sets that are held -/

/-- The sets that are found after the one of a name was given another capacity. -/
def resizedIn (found : String → Option RemoteSet) (name : String) (capacity : Option Value) :
    String → Option RemoteSet := fun other =>
  if lower other = lower name then (found other).map (InMemory.withCapacity capacity)
  else found other

/-- The remote side holds scale sets, found under their names whatever the case of the letters. A
set is shown with its capacity; an update that is waited for changes the capacity of its set, and no
other call for an update changes anything. -/
structure Azure.Holds {ρ : Type} (azure : Azure ρ) (group : ResourceGroup)
    (found : ρ → String → Option RemoteSet) : Prop where
  get {name : String} {w w' : World ρ} {answer : Except Fault ScaleSetBody} :
    azure.get group name w = (answer, w') → found w'.remote = found w.remote
  shows {name : String} {w w' : World ρ} {body : ScaleSetBody} :
    azure.get group name w = (.ok body, w') →
      ∃ set, found w.remote name = some set ∧ body.capacity = (InMemory.body set).capacity
  beginUpdate {name : String} {body : ScaleSetBody} {w w' : World ρ} {answer : Except Fault Unit} :
    azure.beginUpdate group name body w = (answer, w') → found w'.remote = found w.remote
  finished {name : String} {body : ScaleSetBody} {w w' : World ρ} :
    azure.finishUpdate name body w = (.ok (), w') →
      found w'.remote = resizedIn (found w.remote) name body.capacity
  unfinished {name : String} {body : ScaleSetBody} {f : Fault} {w w' : World ρ} :
    azure.finishUpdate name body w = (.error f, w') → found w'.remote = found w.remote

namespace InMemory

/-- The set found under a name. -/
def found (r : InMemory) (name : String) : Option RemoteSet := r.sets.find? (·.answersTo name)

section
variable {name : String} {sets : List RemoteSet} {w w' : World InMemory}

theorem found_eq_of_sets {r r' : InMemory} (h : r'.sets = r.sets) : found r' = found r :=
  congrArg (fun sets name => sets.find? (RemoteSet.answersTo · name)) h

theorem keeps_sets_find (name : String) :
    Action.Keeps (fun w => w.remote.sets = sets) (find name) := by
  intro w h
  rw [find]
  cases w.remote.sets.find? (·.answersTo name) <;> exact h

theorem found_of_find {set : RemoteSet} (h : find name w = (.ok set, w')) :
    found w.remote name = some set := by
  rw [find] at h
  rw [found]
  cases hset : w.remote.sets.find? (·.answersTo name) <;> rw [hset] at h <;> cases h
  rfl

theorem found_modifyFirst (r : InMemory) (name : String) (capacity : Option Value) :
    found { r with sets := modifyFirst name (withCapacity capacity) r.sets } =
      resizedIn (found r) name capacity :=
  funext fun other => find?_modifyFirst (f := withCapacity capacity) (fun _ => rfl) other

/-- The sets in memory are held. -/
theorem holds (group : ResourceGroup) : azure.Holds group found where
  get {name w w' answer} h := by
    have hkeeps : Action.Keeps (fun w' => w'.remote.sets = w.remote.sets) (azure.get group name) :=
      (keeps_sets_record _).bind fun _ => (keeps_sets_mayFail _).bind fun _ =>
        (keeps_sets_find name).bind fun _ => Action.keeps_pure _
    exact found_eq_of_sets (hkeeps.of_eq rfl h)
  shows {name w w' body} h := by
    obtain ⟨_, w₁, hrecord, h⟩ := Action.bind_eq_ok_iff.1 h
    obtain ⟨_, w₂, hfail, h⟩ := Action.bind_eq_ok_iff.1 h
    obtain ⟨set, w₃, hfind, hbody⟩ := Action.bind_eq_ok_iff.1 h
    have hw₁ := (keeps_sets_record _).of_eq rfl hrecord
    have hw₂ := (keeps_sets_mayFail _).of_eq hw₁ hfail
    cases hbody
    exact ⟨set, by rw [← found_eq_of_sets hw₂, found_of_find hfind], rfl⟩
  beginUpdate {name body w w' answer} h := by
    have hkeeps : Action.Keeps (fun w' => w'.remote.sets = w.remote.sets)
        (azure.beginUpdate group name body) :=
      (keeps_sets_record _).bind fun _ => keeps_sets_mayFail _
    exact found_eq_of_sets (hkeeps.of_eq rfl h)
  finished {name body w w'} h := by
    obtain ⟨_, w₁, hrecord, h⟩ := Action.bind_eq_ok_iff.1 h
    obtain ⟨_, w₂, hfail, hmodify⟩ := Action.bind_eq_ok_iff.1 h
    have hw₁ := (keeps_sets_record _).of_eq rfl hrecord
    have hw₂ := (keeps_sets_mayFail _).of_eq hw₁ hfail
    rw [remote_of_modify hmodify, found_modifyFirst, found_eq_of_sets hw₂]
  unfinished {name body f w w'} h := by
    refine found_eq_of_sets ?_
    obtain hrecord | ⟨_, w₁, hrecord, h⟩ := Action.bind_eq_error_iff.1 h
    · cases hrecord
    have hw₁ := (keeps_sets_record _).of_eq rfl hrecord
    obtain hfail | ⟨_, w₂, hfail, h⟩ := Action.bind_eq_error_iff.1 h
    · exact (keeps_sets_mayFail _).of_eq hw₁ hfail
    have hw₂ := (keeps_sets_mayFail _).of_eq hw₁ hfail
    obtain hfind | ⟨_, w₃, hfind, hchange⟩ := Action.bind_eq_error_iff.1 h
    · exact (keeps_sets_find name).of_eq hw₂ hfind
    · cases hchange

end

end InMemory

/-! ## Updates -/

/-- What comes of fetching a set, from the answer of the one call. -/
inductive Fetched (name : String) :
    Except Fault ScaleSetBody → Except Fault (ScaleSetBody × Int) → Prop
  | refused {f : Fault} : Fetched name (.error f) (.error f)
  | unreadable {body : ScaleSetBody} {f : Fault}
      (capacity : Client.capacityOf name body = .error f) : Fetched name (.ok body) (.error f)
  | read {body : ScaleSetBody} {n : Int} (capacity : Client.capacityOf name body = .ok n) :
      Fetched name (.ok body) (.ok (body, n))

/-- What is noted when a body is sent, and what comes of it: the update is refused when it is begun,
or it is begun and then waited for. -/
inductive Sent (group : ResourceGroup) (name : String) (body : ScaleSetBody) :
    List Note → Except Fault Unit → Prop
  | refused {f : Fault} : Sent group name body [.updateBegun group name body (.error f)] (.error f)
  | waited {answer : Except Fault Unit} :
      Sent group name body [.updateBegun group name body (.ok ()), .updateFinished name body answer]
        answer

/-- What is noted of an update that was passed this body or none, and what comes of it. -/
inductive Updated (group : ResourceGroup) (name : String) (capacity : Int) :
    Option ScaleSetBody → List Note → Except Fault Unit → Prop
  | passed {body : ScaleSetBody} {notes : List Note} {answer : Except Fault Unit}
      (sent : Sent group name (body.resized capacity) notes answer) :
      Updated group name capacity (some body) notes answer
  | unfetched {f : Fault} : Updated group name capacity none [.got group name (.error f)] (.error f)
  | unreadable {body : ScaleSetBody} {f : Fault}
      (refused : Client.capacityOf name body = .error f) :
      Updated group name capacity none [.got group name (.ok body)] (.error f)
  | fetched {body : ScaleSetBody} {n : Int} {notes : List Note} {answer : Except Fault Unit}
      (read : Client.capacityOf name body = .ok n)
      (sent : Sent group name (body.resized capacity) notes answer) :
      Updated group name capacity none (.got group name (.ok body) :: notes) answer

namespace Updated
variable {group : ResourceGroup} {name : String} {capacity : Int} {passed : Option ScaleSetBody}
  {notes : List Note} {answer : Except Fault Unit}

/-- What an update sends is as it was asked for. -/
theorem sends (h : Updated group name capacity passed notes answer) {group' : ResourceGroup}
    {name' : String} {body : ScaleSetBody} {answer' : Except Fault Unit}
    (hmem : .updateBegun group' name' body answer' ∈ notes) :
    group' = group ∧ name' = name ∧ body.capacity = some (.int capacity) ∧
      body.provisioningState = none := by
  cases h with
  | passed sent => cases sent <;> simp_all [ScaleSetBody.resized]
  | unfetched => simp at hmem
  | unreadable refused => simp at hmem
  | fetched read sent => cases sent <;> simp_all [ScaleSetBody.resized]

/-- The set is fetched, and then first, exactly if no body was passed. -/
theorem fetches_iff (h : Updated group name capacity passed notes answer) :
    (∃ got rest, notes = .got group name got :: rest) ↔ passed = none := by
  cases h with
  | passed sent => cases sent <;> simp
  | unfetched => simp
  | unreadable refused => simp
  | fetched read sent => simp

end Updated

/-- The sets that are found after an update that came to an answer. -/
def foundAfter (found : String → Option RemoteSet) (name : String) (capacity : Int) :
    Except Fault Unit → String → Option RemoteSet
  | .ok () => resizedIn found name (some (.int capacity))
  | .error _ => found

namespace Client
variable {ρ : Type}

/-- Begins an update to a body and waits until it is done. -/
def send (azure : Azure ρ) (group : ResourceGroup) (name : String) (body : ScaleSetBody) :
    Effect ρ Unit := do
  azure.beginUpdate group name body
  azure.finishUpdate name body

theorem updateChecked_of_some (azure : Azure ρ) (group : ResourceGroup) (name : String)
    (capacity : Int) {current : Option Description} {body : ScaleSetBody}
    (h : current.bind (·.body) = some body) :
    updateChecked azure group name capacity current =
      send azure group name (body.resized capacity) := by
  rw [updateChecked, bodyFor, h]
  rfl

theorem updateChecked_of_none (azure : Azure ρ) (group : ResourceGroup) (name : String)
    (capacity : Int) {current : Option Description} (h : current.bind (·.body) = none) :
    updateChecked azure group name capacity current =
      fetch azure group name >>= fun p => send azure group name (p.1.resized capacity) := by
  rw [updateChecked, bodyFor, h]
  exact bind_assoc _ _ _

variable {azure : Azure ρ} {group : ResourceGroup} {name : String} {capacity : Int}
  {w w' : World (Noted ρ)} {found : ρ → String → Option RemoteSet}

/-! The notes make no difference to what the client does. -/

theorem projects_fetch (azure : Azure ρ) (group : ResourceGroup) (name : String) :
    Action.Projects World.withoutNotes (fetch azure.noted group name) (fetch azure group name) := by
  refine (Effect.projects_noted _ _).bind fun body => ?_
  split
  · exact Action.projects_fail _
  · exact Action.projects_fail _
  · split
    · exact Action.projects_fail _
    · exact Action.projects_pure _

theorem projects_describeChecked (azure : Azure ρ) (group : ResourceGroup) (name : String) :
    Action.Projects World.withoutNotes (describeChecked azure.noted group name)
      (describeChecked azure group name) :=
  (projects_fetch azure group name).bind fun _ => Action.projects_pure _

theorem projects_updateChecked (azure : Azure ρ) (group : ResourceGroup) (name : String)
    (capacity : Int) (current : Option Description) :
    Action.Projects World.withoutNotes (updateChecked azure.noted group name capacity current)
      (updateChecked azure group name capacity current) := by
  have hsend : ∀ body, Action.Projects World.withoutNotes (send azure.noted group name body)
      (send azure group name body) := fun body =>
    (Effect.projects_noted _ _).bind fun _ => Effect.projects_noted _ _
  cases hbody : current.bind (·.body) with
  | some body =>
      rw [updateChecked_of_some _ _ _ _ hbody, updateChecked_of_some _ _ _ _ hbody]
      exact hsend _
  | none =>
      rw [updateChecked_of_none _ _ _ _ hbody, updateChecked_of_none _ _ _ _ hbody]
      exact (projects_fetch azure group name).bind fun _ => hsend _

/-- Fetching makes one call and reads what it answers. -/
theorem fetch_noted {fetched : Except Fault (ScaleSetBody × Int)}
    (h : fetch azure.noted group name w = (fetched, w')) :
    ∃ got, azure.get group name w.withoutNotes = (got, w'.withoutNotes) ∧
      w'.remote.notes = w.remote.notes ++ [.got group name got] ∧ Fetched name got fetched := by
  rcases hget : azure.noted.get group name w with ⟨f | body, w₁⟩
  · rw [fetch, Action.bind_of_error hget] at h
    cases h
    obtain ⟨hcall, hnotes⟩ := Effect.noted_eq_iff.1 hget
    exact ⟨.error f, hcall, hnotes, .refused⟩
  · rw [fetch_of_answer hget] at h
    cases h
    obtain ⟨hcall, hnotes⟩ := Effect.noted_eq_iff.1 hget
    refine ⟨.ok body, hcall, hnotes, ?_⟩
    cases hread : capacityOf name body with
    | error f => exact .unreadable hread
    | ok n => exact .read hread

theorem describe_noted {described : Except Fault Description}
    (h : describeChecked azure.noted group name w = (described, w')) :
    ∃ got fetched, azure.get group name w.withoutNotes = (got, w'.withoutNotes) ∧
      w'.remote.notes = w.remote.notes ++ [.got group name got] ∧ Fetched name got fetched ∧
      described = fetched.map fun p => ⟨p.1.nameOr name, .int p.2, some p.1⟩ := by
  rcases hfetch : fetch azure.noted group name w with ⟨fetched, w₁⟩
  obtain ⟨got, hget, hnotes, hfetched⟩ := fetch_noted hfetch
  cases fetched with
  | error f =>
      rw [describeChecked, Action.bind_of_error hfetch] at h
      cases h
      exact ⟨got, _, hget, hnotes, hfetched, rfl⟩
  | ok p =>
      rw [describeChecked, Action.bind_of_ok hfetch] at h
      cases h
      exact ⟨got, _, hget, hnotes, hfetched, rfl⟩

section Sending
variable {body : ScaleSetBody} {answer : Except Fault Unit}
  (h : send azure.noted group name body w = (answer, w'))
include h

theorem sent_of_send :
    ∃ notes, w'.remote.notes = w.remote.notes ++ notes ∧ Sent group name body notes answer := by
  rcases hbegin : azure.noted.beginUpdate group name body w with ⟨f | _, w₁⟩
  · rw [send, Action.bind_of_error hbegin] at h
    cases h
    exact ⟨_, (Effect.noted_eq_iff.1 hbegin).2, .refused⟩
  · rw [send, Action.bind_of_ok hbegin] at h
    refine ⟨_, ?_, .waited⟩
    rw [(Effect.noted_eq_iff.1 h).2, (Effect.noted_eq_iff.1 hbegin).2, List.append_assoc]
    rfl

theorem found_of_send (hholds : azure.Holds group found)
    (hbody : body.capacity = some (.int capacity)) :
    found w'.remote.remote = foundAfter (found w.remote.remote) name capacity answer := by
  rcases hbegin : azure.noted.beginUpdate group name body w with ⟨f | _, w₁⟩
  · rw [send, Action.bind_of_error hbegin] at h
    cases h
    exact hholds.beginUpdate (Effect.noted_eq_iff.1 hbegin).1
  · rw [send, Action.bind_of_ok hbegin] at h
    have hsame := hholds.beginUpdate (Effect.noted_eq_iff.1 hbegin).1
    have hfinish := (Effect.noted_eq_iff.1 h).1
    cases answer with
    | error f => exact (hholds.unfinished hfinish).trans hsame
    | ok _ =>
        rw [foundAfter, ← hbody]
        exact (hholds.finished hfinish).trans (congrArg (resizedIn · name body.capacity) hsame)

end Sending

section Updating
variable {current : Option Description} {answer : Except Fault Unit}
  (h : updateChecked azure.noted group name capacity current w = (answer, w'))
include h

/-- What an update notes depends on the body that it was passed. -/
theorem updated_of_updateChecked :
    ∃ notes, w'.remote.notes = w.remote.notes ++ notes ∧
      Updated group name capacity (current.bind (·.body)) notes answer := by
  cases hbody : current.bind (·.body) with
  | some body =>
      rw [updateChecked_of_some _ _ _ _ hbody] at h
      obtain ⟨notes, hnotes, hsent⟩ := sent_of_send h
      exact ⟨notes, hnotes, .passed hsent⟩
  | none =>
      rw [updateChecked_of_none _ _ _ _ hbody] at h
      rcases hfetch : fetch azure.noted group name w with ⟨fetched, w₁⟩
      obtain ⟨got, -, hnotes, hfetched⟩ := fetch_noted hfetch
      cases hfetched with
      | refused =>
          rw [Action.bind_of_error hfetch] at h
          cases h
          exact ⟨_, hnotes, .unfetched⟩
      | unreadable hcapacity =>
          rw [Action.bind_of_error hfetch] at h
          cases h
          exact ⟨_, hnotes, .unreadable hcapacity⟩
      | read hcapacity =>
          rw [Action.bind_of_ok hfetch] at h
          obtain ⟨notes, hsending, hsent⟩ := sent_of_send h
          refine ⟨_, ?_, .fetched hcapacity hsent⟩
          rw [hsending, hnotes, List.append_assoc]
          rfl

/-- An update changes a capacity if it succeeds, and nothing otherwise. -/
theorem found_of_updateChecked (hholds : azure.Holds group found) :
    found w'.remote.remote = foundAfter (found w.remote.remote) name capacity answer := by
  cases hbody : current.bind (·.body) with
  | some body =>
      rw [updateChecked_of_some _ _ _ _ hbody] at h
      exact found_of_send h hholds rfl
  | none =>
      rw [updateChecked_of_none _ _ _ _ hbody] at h
      rcases hfetch : fetch azure.noted group name w with ⟨f | ⟨body, n⟩, w₁⟩
      · rw [Action.bind_of_error hfetch] at h
        cases h
        obtain ⟨got, hget, -, -⟩ := fetch_noted hfetch
        exact hholds.get hget
      · rw [Action.bind_of_ok hfetch] at h
        obtain ⟨got, hget, -, -⟩ := fetch_noted hfetch
        rw [found_of_send h hholds rfl]
        exact congrArg (foundAfter · name capacity answer) (hholds.get hget)

end Updating

end Client

end FleetWarden
