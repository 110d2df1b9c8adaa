import FleetWarden.CommandLine.Watch
import FleetWarden.Proofs.Console.Coloured
import FleetWarden.Proofs.Fleet.SpecTexts
import FleetWarden.Proofs.Manager.DocumentedCalls
import FleetWarden.Proofs.Outcome

/-!
# How commands stop

Why a command that works on fleets stops before it is done, if calls of the remote side fail as
documented. `Stops` lists the reasons that it tells: a fault of a documented kind in one message, a
question that is answered with no, and blank instance ids among its arguments. `Strays` lists what
it does not foresee: the blank name of a fleet, an answer that cannot be used, a size or a bound
that is too long to be told and a text that is taken for tags are passed on as they are, and a
lookup puts the blame for some answers on its argument.
-/

namespace FleetWarden

section
variable {α β ε : Type}

theorem exists_of_mapM_eq_error {f : α → Except ε β} {xs : List α} {e : ε}
    (h : xs.mapM f = .error e) : ∃ x ∈ xs, f x = .error e := by
  induction xs with
  | nil => cases h
  | cons x xs ih =>
      rw [List.mapM_cons] at h
      rcases except_bind_eq_error_iff.1 h with h | ⟨b, -, h⟩
      · exact ⟨x, List.mem_cons_self, h⟩
      · rcases except_bind_eq_error_iff.1 h with h | ⟨bs, -, h⟩
        · obtain ⟨x', hx', h⟩ := ih h
          exact ⟨x', List.mem_cons_of_mem _ hx', h⟩
        · cases h

theorem mapM_eq_none_iff {f : α → Option β} {xs : List α} :
    xs.mapM f = none ↔ ∃ x ∈ xs, f x = none := by
  induction xs with
  | nil => simp
  | cons x xs ih =>
      rw [List.mapM_cons, List.exists_mem_cons_iff, ← ih]
      cases f x <;> cases xs.mapM f <;> simp

theorem mapM_eq_some_iff {f : α → Option β} {xs : List α} {ys : List β} :
    xs.mapM f = some ys ↔ xs.map f = ys.map some := by
  induction xs generalizing ys with
  | nil =>
      rw [List.mapM_nil, List.map_nil, eq_comm (a := []), List.map_eq_nil_iff]
      exact ⟨fun h => (Option.some.inj h).symm, fun h => congrArg some h.symm⟩
  | cons x xs ih =>
      rw [List.mapM_cons, List.map_cons]
      cases ys with
      | nil => cases f x <;> cases xs.mapM f <;> simp
      | cons y ys => cases f x <;> cases h : xs.mapM f <;> simp [← ih, h]

end

namespace CommandLine

open Text Numeral

namespace Desk
variable {ρ α : Type}

theorem operate_of_ok {settle : Fault → Stop} {x : Operation ρ α} {d : Desk ρ} {a : α}
    {s : System ρ} (h : x d.system = (.ok a, s)) :
    operate settle x d = (.ok a, { d with system := s }) := by
  rw [operate, h]

theorem operate_of_error {settle : Fault → Stop} {x : Operation ρ α} {d : Desk ρ} {f : Fault}
    {s : System ρ} (h : x d.system = (.error f, s)) :
    operate settle x d = (.error (settle f), { d with system := s }) := by
  rw [operate, h]

theorem writeMarkup_of_ok {text : String} {cs : List Char} (h : Console.plain text = .ok cs)
    (d : Desk ρ) : writeMarkup text d =
      (.ok (), { d with terminal := d.terminal.write (Console.printed Terminal.columns cs) }) := by
  rw [writeMarkup, Terminal.writeMarkup, h]
  rfl

theorem writeMarkup_of_error {text : String} {e : Console.MarkupError}
    (h : Console.plain text = .error e) (d : Desk ρ) :
    writeMarkup text d = (.error (.escaped (.markup e)), d) := by
  rw [writeMarkup, Terminal.writeMarkup, h]
  rfl

/-- A text is written as it is read, unless there are tags in it that do not fit. -/
theorem writeMarkup_cases (text : String) (d : Desk ρ) :
    (∃ terminal, writeMarkup text d = (.ok (), { d with terminal })) ∨
      ∃ e, Console.plain text = .error e ∧
        writeMarkup text d = (.error (.escaped (.markup e)), d) := by
  cases h : Console.plain text with
  | error e => exact .inr ⟨e, rfl, writeMarkup_of_error h d⟩
  | ok cs => exact .inl ⟨_, writeMarkup_of_ok h d⟩

/-- A warning is written, unless a number in it is too long or its text has tags that do not fit. -/
theorem warn_cases (name : String) (spec : FleetSpec) (target : Nat) (d : Desk ρ) :
    (∃ terminal, warn name spec target d = (.ok (), { d with terminal })) ∨
      (∃ e, Console.plain (boundsWarning name spec target) = .error e ∧
        warn name spec target d = (.error (.escaped (.markup e)), d)) ∨
      Value.allWritable (warnedSizes spec target) = false ∧
        warn name spec target d = (.error (.escaped (.fault .unwritable)), d) := by
  rw [warn]
  split_ifs with hwritable
  · exact (writeMarkup_cases (boundsWarning name spec target) d).imp_right .inl
  · exact .inr (.inr ⟨Bool.eq_false_iff.2 hwritable, rfl⟩)

theorem failsWith_writeMarkup {P : Stop → Prop} {text : String}
    (h : ∀ e, Console.plain text = .error e → P (.escaped (.markup e))) :
    Action.FailsWith P (writeMarkup text : Act ρ Unit) := by
  intro d stop d' hrun
  obtain ⟨terminal, hwritten⟩ | ⟨e, hplain, hfailed⟩ := writeMarkup_cases text d
  · cases hwritten.symm.trans hrun
  · cases hfailed.symm.trans hrun
    exact h e hplain

/-- A question does not touch the manager. -/
theorem confirm_cases (question : String) (d : Desk ρ) :
    ∃ terminal, confirm question d = (.ok (), { d with terminal }) ∨
      confirm question d = (.error .aborted, { d with terminal }) := by
  rw [confirm]
  dsimp only
  split_ifs
  · exact ⟨_, .inl rfl⟩
  · exact ⟨_, .inr rfl⟩

/-- The name stands for the fleet on the command line. -/
def Named (s : System ρ) (name : String) (fleet : Fleet) : Prop :=
  ∀ terminal : Terminal, fleetNamed name ⟨terminal, s⟩ = (.ok fleet, ⟨terminal, s⟩)

theorem Named.unique {s : System ρ} {name : String} {fleet fleet' : Fleet}
    (h : Named s name fleet) (h' : Named s name fleet') : fleet = fleet' := by
  cases (h (.withInput "")).symm.trans (h' (.withInput ""))
  rfl

/-- The first of the fleets that has the name, up to case. -/
def FirstOfName (fleets : List Fleet) (name : String) (fleet : Fleet) : Prop :=
  lower fleet.name = lower name ∧ ∃ before after, fleets = before ++ fleet :: after ∧
    ∀ other ∈ before, lower other.name ≠ lower name

theorem FirstOfName.mem {fleets : List Fleet} {name : String} {fleet : Fleet}
    (h : FirstOfName fleets name fleet) : fleet ∈ fleets := by
  obtain ⟨-, before, after, rfl, -⟩ := h
  exact List.mem_append_right before List.mem_cons_self

/-- The fleet that a name addresses: the first one of this name, or else one of exactly this name
and without bounds. -/
inductive Addresses (fleets : List Fleet) (name : String) (fleet : Fleet) : Prop
  | registered (first : FirstOfName fleets name fleet)
  | unregistered (unknown : ∀ other ∈ fleets, lower other.name ≠ lower name)
      (same : fleet.name = name) (free : fleet.spec.maxSize = 0)

theorem registeredFleet?_eq_some_iff {s : System ρ} {name : String} {fleet : Fleet} :
    registeredFleet? name s = some fleet ↔ FirstOfName s.fleets name fleet := by
  rw [registeredFleet?, List.find?_eq_some_iff_append]
  simp only [decide_eq_true_eq, Bool.not_eq_true', decide_eq_false_iff_not, FirstOfName, ne_eq]

theorem registeredFleet?_eq_none_iff {s : System ρ} {name : String} :
    registeredFleet? name s = none ↔ ∀ other ∈ s.fleets, lower other.name ≠ lower name := by
  rw [registeredFleet?, List.find?_eq_none]
  simp only [decide_eq_true_eq, ne_eq]

theorem Named.addresses {s : System ρ} {name : String} {fleet : Fleet} (h : Named s name fleet) :
    Addresses s.fleets name fleet := by
  have hrun := h (.withInput "")
  rw [fleetNamed] at hrun
  dsimp only at hrun
  cases hfound : registeredFleet? name s with
  | some found =>
      rw [hfound] at hrun
      cases hrun
      exact .registered (registeredFleet?_eq_some_iff.1 hfound)
  | none =>
      rw [hfound] at hrun
      cases hmake : FleetSpec.make name 0 0 with
      | error e =>
          rw [hmake] at hrun
          cases hrun
      | ok spec =>
          rw [hmake] at hrun
          cases hrun
          obtain ⟨hname, -, hmax⟩ := FleetSpec.make_eq_ok_iff.1 hmake
          exact .unregistered (registeredFleet?_eq_none_iff.1 hfound) hname
            (Int.ofNat_eq_zero.1 hmax.symm)

/-- Every name stands for a fleet unless it is blank. -/
theorem named_or_blank (s : System ρ) (name : String) :
    (∃ fleet, Named s name fleet) ∨ blank name = true ∧ ∀ terminal : Terminal,
      fleetNamed name ⟨terminal, s⟩ = (.error (.escaped (.spec .blankName)), ⟨terminal, s⟩) := by
  cases hfound : registeredFleet? name s with
  | some fleet => exact .inl ⟨fleet, fun terminal => by rw [fleetNamed, hfound]⟩
  | none =>
      by_cases hblank : blank name = false
      · obtain ⟨spec, hmake⟩ : ∃ spec, FleetSpec.make name 0 0 = .ok spec :=
          ⟨⟨name, 0, 0, hblank, Nat.le_refl 0⟩, FleetSpec.make_eq_ok_iff.2 ⟨rfl, rfl, rfl⟩⟩
        exact .inl ⟨⟨s.entries.length, spec⟩, fun terminal => by rw [fleetNamed, hfound, hmake]⟩
      · have hmake : FleetSpec.make name 0 0 = .error .blankName := by
          rw [FleetSpec.make, dif_neg hblank]
        exact .inr ⟨eq_true_of_ne_false hblank, fun terminal => by rw [fleetNamed, hfound, hmake]⟩

/-- The text of a table that shows a snapshot. -/
theorem exists_cell_of_snapshotTable {s : Snapshot} {e : Console.MarkupError}
    (h : snapshotTable s = .error e) : ∃ ref fleet, (ref, fleet) ∈ s.owners.pairs ∧
      ∃ text ∈ [fleet.name, (s.instanceIdOf? ref).getD "", ref.key],
        Console.plain text = .error e := by
  rcases except_bind_eq_error_iff.1 h with h | ⟨names, -, h⟩
  · obtain ⟨⟨ref, fleet⟩, hmem, h⟩ := exists_of_mapM_eq_error h
    exact ⟨ref, fleet, hmem, _, by simp, h⟩
  rcases except_bind_eq_error_iff.1 h with h | ⟨ids, -, h⟩
  · obtain ⟨⟨ref, fleet⟩, hmem, h⟩ := exists_of_mapM_eq_error h
    exact ⟨ref, fleet, hmem, _, by simp, h⟩
  rcases except_bind_eq_error_iff.1 h with h | ⟨keys, -, h⟩
  · obtain ⟨⟨ref, fleet⟩, hmem, h⟩ := exists_of_mapM_eq_error h
    exact ⟨ref, fleet, hmem, _, by simp, h⟩
  · cases h

/-- What is said after a deletion can always be shown. -/
theorem plain_deleted (n : Nat) :
    ∃ cs, Console.plain (coloured "green" ("Deleted " ++ instanceCount n)) = .ok cs := by
  have hfree : '[' ∉ ("Deleted " ++ instanceCount n).toList := by
    simp [instanceCount, FleetSpec.notMem_text]
  exact Console.exists_plain_of_colour Console.isColour_green (Console.isTagFree_of_not_mem hfree)

end Desk

namespace Command

/-- The fleet that a command names. -/
def fleet? : Command → Option String
  | sizeGet fleet => some fleet
  | sizeSet fleet _ => some fleet
  | members fleet => some fleet
  | _ => none

/-- The instances that a command names. -/
def instanceIds : Command → List String
  | owner raw => [raw]
  | delete raws _ => raws
  | _ => []

/-- What a command was trying to do when it failed, in the words of its message. -/
def tried : Command → String
  | sizeGet fleet => "Failed to get size of " ++ fleet
  | sizeSet fleet _ => "Failed to set size of " ++ fleet
  | owner raw => "Failed to look up " ++ raw
  | members fleet => "Failed to list VMs of " ++ fleet
  | delete _ _ => "Delete failed"
  | cache => "Cache rebuild failed"
  | watch _ => "Last refresh failed"

/-- The texts of others in which a command looks for tags. -/
inductive Shows : Command → String → Prop
  | warning {name : String} {target : Nat} {spec : FleetSpec}
      (h : Desk.withinBounds spec target = false) :
      Shows (.sizeSet name target) (Desk.boundsWarning name spec target)
  | resized (name : String) (target : Nat) :
      Shows (.sizeSet name target)
        (Desk.coloured "green" (name ++ " capacity set to " ++ Whole.text target))
  | nobody (name : String) : Shows (.members name) ("No VMs in " ++ name)
  | cell {s : Snapshot} {ref : InstanceRef} {fleet : Fleet} {text : String}
      (row : (ref, fleet) ∈ s.owners.pairs)
      (h : text ∈ [fleet.name, (s.instanceIdOf? ref).getD "", ref.key]) : Shows .cache text

/-- The arguments of a command can be used. -/
structure Understood {ρ : Type} (c : Command) (s : System ρ) : Prop where
  fleet : ∀ name, c.fleet? = some name → ∃ fleet, Desk.Named s name fleet
  instances : ∀ raw ∈ c.instanceIds, blank raw = false

section
variable {ρ : Type} (client : Client ρ) (s : System ρ)

/-- What a command asks of the manager fails. -/
inductive Meets : Command → Fault → Prop
  | size {name : String} {fleet : Fleet} {f : Fault} {s' : System ρ}
      (named : Desk.Named s name fleet)
      (failed : Manager.getSize client fleet s = (.error f, s')) : Meets (.sizeGet name) f
  | resize {name : String} {target : Nat} {fleet : Fleet} {f : Fault} {s' : System ρ}
      (named : Desk.Named s name fleet)
      (failed : Manager.setSize client fleet target s = (.error f, s')) :
      Meets (.sizeSet name target) f
  | owner {raw : String} {ref : InstanceRef} {f : Fault} {s' : System ρ}
      (read : InstanceRef.ofRaw? raw = some ref)
      (failed : Manager.findOwner client ref s = (.error f, s')) : Meets (.owner raw) f
  | members {name : String} {fleet : Fleet} {f : Fault} {s' : System ρ}
      (named : Desk.Named s name fleet)
      (failed : Manager.fleetInstances client fleet s = (.error f, s')) : Meets (.members name) f
  | delete {raws : List String} {confirmed : Bool} {refs : List InstanceRef} {f : Fault}
      {s' : System ρ} (read : raws.mapM InstanceRef.ofRaw? = some refs)
      (failed : Manager.deleteInstances client refs s = (.error f, s')) :
      Meets (.delete raws confirmed) f
  | cache {f : Fault} {s' : System ρ} (failed : Manager.refresh client s = (.error f, s')) :
      Meets .cache f

/-- The reasons to stop that a command tells in its own words: a fault behind what was tried, a
question answered with no, and blank instance ids among the arguments. -/
inductive Stops : Command → Stop → Prop
  | told {c : Command} {f : Fault} (met : c.Meets client s f)
      (reported : f.kind.isReported = true) : Stops c (.refused (c.tried ++ ": " ++ f.message))
  | declined (raws : List String) : Stops (.delete raws false) .aborted
  | blankInstance {raw : String} (h : blank raw = true) :
      Stops (.owner raw) (Desk.badValue instanceArgument.name ownerSpec .blankInstance)
  | blankInstances {raws : List String} (confirmed : Bool) (h : ∃ raw ∈ raws, blank raw = true) :
      Stops (.delete raws confirmed)
        (Desk.badValue instancesArgument.name deleteSpec .blankInstance)

end

section
variable {ρ : Type} (azure : Azure ρ) (group : ResourceGroup) (s : System ρ)

/-- The ways in which a command goes astray. -/
inductive Strays : Command → Stop → Prop
  /-- The blank name of a fleet is not refused as an argument. -/
  | blankFleet {c : Command} {name : String} (named : c.fleet? = some name)
      (h : blank name = true) : Strays c (.escaped (.spec .blankName))
  /-- An answer that cannot be used is passed on. -/
  | unusable {c : Command} {f : Fault} (met : c.Meets (.checked azure group) s f)
      (h : azure.Unusable group f) (elsewhere : ∀ raw, c = .owner raw → f.kind ≠ .value) :
      Strays c (.escaped (.fault f))
  /-- A lookup takes an answer that cannot be used for an argument that cannot. -/
  | misattributed {raw : String} {f : Fault}
      (met : (Command.owner raw).Meets (.checked azure group) s f)
      (h : azure.Unusable group f) (bad : f.kind = .value) :
      Strays (.owner raw) (Desk.badValue instanceArgument.name ownerSpec f)
  /-- A size has too many digits to be reported. -/
  | unreported {c : Command} (met : c.Meets (.checked azure group) s .unwritable) :
      Strays c (.escaped (.fault .unwritable))
  /-- A bound has too many digits to be told in a warning. -/
  | unwarned {name : String} {target : Nat} {fleet : Fleet} (named : Desk.Named s name fleet)
      (outside : Desk.withinBounds fleet.spec target = false)
      (h : Value.allWritable (Desk.warnedSizes fleet.spec target) = false) :
      Strays (.sizeSet name target) (.escaped (.fault .unwritable))
  /-- A text of others is taken for tags. -/
  | markup {c : Command} {text : String} {e : Console.MarkupError} (shown : c.Shows text)
      (h : Console.plain text = .error e) : Strays c (.escaped (.markup e))

/-- A command stops for a reason that it tells, or goes astray. -/
def Fails (c : Command) (stop : Stop) : Prop :=
  c.Stops (.checked azure group) s stop ∨ c.Strays azure group s stop

/-- How a command ends: it is done only if its arguments can be used and what it asks of the
manager does not fail. -/
inductive Ends (c : Command) : Except Stop Unit → Prop
  | done (read : c.Understood s) (h : ∀ f, ¬ c.Meets (.checked azure group) s f) :
      Ends c (.ok ())
  | stopped {stop : Stop} (h : c.Fails azure group s stop) : Ends c (.error stop)

end

section
variable {ρ : Type} {client : Client ρ} {azure : Azure ρ} {group : ResourceGroup} {s : System ρ}
  {c : Command} {f : Fault} {stop : Stop}

theorem understood_of_named {name : String} {fleet : Fleet} (hc : c.fleet? = some name)
    (hids : c.instanceIds = []) (h : Desk.Named s name fleet) : c.Understood s where
  fleet name' hname' := by
    cases hname'.symm.trans hc
    exact ⟨fleet, h⟩
  instances raw hraw := by
    rw [hids] at hraw
    cases hraw

theorem understood_of_refs {refs : List InstanceRef} (hc : c.fleet? = none)
    (h : c.instanceIds.mapM InstanceRef.ofRaw? = some refs) : c.Understood s where
  fleet name hname := by
    cases hname.symm.trans hc
  instances raw hraw := by
    refine Bool.eq_false_iff.2 fun hblank => ?_
    have hnone := mapM_eq_none_iff.2 ⟨raw, hraw, InstanceRef.ofRaw?_eq_none_iff.2 hblank⟩
    cases hnone.symm.trans h

theorem Stops.exists_blank (h : c.Stops client s stop) (hcode : stop.exitCode = 2) :
    ∃ raw ∈ c.instanceIds, blank raw = true := by
  cases h with
  | told => cases hcode
  | declined => cases hcode
  | blankInstance h => exact ⟨_, List.mem_cons_self, h⟩
  | blankInstances _ h => exact h

theorem Stops.ne_escaped (h : c.Stops client s stop) (e : Escape) : stop ≠ .escaped e := by
  rintro rfl
  cases h

theorem Strays.exists_unusable (h : c.Strays azure group s stop) (hcode : stop.exitCode = 2) :
    ∃ raw f, c = .owner raw ∧ azure.Unusable group f := by
  cases h with
  | blankFleet => cases hcode
  | unusable => cases hcode
  | misattributed met h => exact ⟨_, _, rfl, h⟩
  | unreported => cases hcode
  | unwarned => cases hcode
  | markup => cases hcode

theorem fails_ofFault (met : c.Meets (.checked azure group) s f) (hf : azure.Settled group f)
    (hc : ∀ raw, c = .owner raw → f.kind ≠ .value) :
    c.Fails azure group s (.ofFault c.tried f) := by
  rcases hf with hf | hf
  · rw [Stop.ofFault, if_pos hf]
    exact .inl (.told met hf)
  · rw [Stop.ofFault, if_neg (by simp [Azure.not_isReported_of_unusable hf])]
    exact .inr (.unusable met hf hc)

theorem fails_ofFault_of_size (met : c.Meets (.checked azure group) s f)
    (hf : azure.Settled group f ∨ f = .unwritable) (hc : ∀ raw, c = .owner raw → f.kind ≠ .value) :
    c.Fails azure group s (.ofFault c.tried f) := by
  rcases hf with hf | rfl
  · exact fails_ofFault met hf hc
  · exact .inr (.unreported met)

theorem fails_settleLookup {raw : String} (met : (owner raw).Meets (.checked azure group) s f)
    (hf : azure.Settled group f) :
    (owner raw).Fails azure group s (Desk.settleLookup raw f) := by
  rw [Desk.settleLookup]
  split_ifs with hvalue
  · rcases hf with hf | hf
    · rw [hvalue] at hf
      cases hf
    · exact .inr (.misattributed met hf hvalue)
  · exact fails_ofFault met hf fun _ _ => hvalue

/-- What a command asks of the manager decides how it ends, if nothing but tags can go wrong after
it. -/
theorem ends_operate {α : Type} {P : Fault → Prop} {settle : Fault → Stop} {x : Operation ρ α}
    {after : α → Desk.Act ρ Unit} {d : Desk ρ} (hx : Action.FailsWith P x)
    (hread : c.Understood d.system)
    (hmeets : ∀ f, c.Meets (.checked azure group) d.system f ↔
      ∃ s', x d.system = (.error f, s'))
    (hsettle : ∀ f, c.Meets (.checked azure group) d.system f → P f →
      c.Fails azure group d.system (settle f))
    (hafter : ∀ a, Action.FailsWith (c.Strays azure group d.system) (after a)) :
    c.Ends azure group d.system ((Desk.operate settle x >>= after) d).1 := by
  rcases hrun : x d.system with ⟨f | a, s'⟩
  · rw [Action.bind_of_error (Desk.operate_of_error hrun)]
    exact .stopped (hsettle f ((hmeets f).2 ⟨s', hrun⟩) (hx hrun))
  · rw [Action.bind_of_ok (Desk.operate_of_ok hrun)]
    rcases hrest : after a { d with system := s' } with ⟨stop | done, d'⟩
    · exact .stopped (.inr (hafter a hrest))
    · refine .done hread fun f met => ?_
      obtain ⟨s'', hfailed⟩ := (hmeets f).1 met
      cases hfailed.symm.trans hrun

end

end Command

namespace Desk
variable {ρ : Type} {azure : Azure ρ} {group : ResourceGroup}

section
variable (hazure : azure.Documented) (name : String) (d : Desk ρ)
include hazure

theorem ends_sizeGet : (Command.sizeGet name).Ends azure group d.system
    (sizeGet (.checked azure group) name d).1 := by
  rw [sizeGet]
  rcases named_or_blank d.system name with ⟨fleet, hnamed⟩ | ⟨hblank, hfails⟩
  · rw [Action.bind_of_ok (hnamed d.terminal)]
    refine Command.ends_operate (Manager.failsWith_getSize hazure fleet)
      (Command.understood_of_named rfl rfl hnamed) (fun f => ⟨?_, ?_⟩)
      (fun f met hf => Command.fails_ofFault_of_size met hf nofun) fun _ =>
      Action.failsWith_change _
    · intro met
      cases met with
      | size hnamed' failed => exact ⟨_, hnamed.unique hnamed' ▸ failed⟩
    · rintro ⟨_, failed⟩
      exact .size hnamed failed
  · rw [Action.bind_of_error (hfails d.terminal)]
    exact .stopped (.inr (.blankFleet rfl hblank))

theorem ends_resize {fleet : Fleet} (target : Nat) (hnamed : Named d.system name fleet) :
    (Command.sizeSet name target).Ends azure group d.system ((do
      operate (.ofFault ("Failed to set size of " ++ name))
        (Manager.setSize (.checked azure group) fleet target)
      writeMarkup (coloured "green" (name ++ " capacity set to " ++ Whole.text target))) d).1 := by
  refine Command.ends_operate (Manager.failsWith_setSize hazure fleet target)
    (Command.understood_of_named rfl rfl hnamed) (fun f => ⟨?_, ?_⟩)
    (fun f met hf => Command.fails_ofFault_of_size met hf nofun) fun _ =>
    failsWith_writeMarkup fun e h => .markup (.resized name target) h
  · intro met
    cases met with
    | resize hnamed' failed => exact ⟨_, hnamed.unique hnamed' ▸ failed⟩
  · rintro ⟨_, failed⟩
    exact .resize hnamed failed

/-- A warning is written before the change is made. -/
theorem ends_sizeSet (target : Nat) : (Command.sizeSet name target).Ends azure group d.system
    (sizeSet (.checked azure group) name target d).1 := by
  rw [sizeSet]
  rcases named_or_blank d.system name with ⟨fleet, hnamed⟩ | ⟨hblank, hfails⟩
  · rw [Action.bind_of_ok (hnamed d.terminal)]
    dsimp only
    split_ifs with hbounds
    · exact ends_resize hazure name d target hnamed
    · have houtside := Bool.eq_false_iff.2 hbounds
      obtain ⟨terminal, hwritten⟩ | ⟨e, hplain, hfailed⟩ | ⟨hlong, hfailed⟩ :=
        warn_cases name fleet.spec target d
      · rw [Action.bind_of_ok hwritten]
        exact ends_resize hazure name ⟨terminal, d.system⟩ target hnamed
      · rw [Action.bind_of_error hfailed]
        exact .stopped (.inr (.markup (.warning houtside) hplain))
      · rw [Action.bind_of_error hfailed]
        exact .stopped (.inr (.unwarned hnamed houtside hlong))
  · rw [Action.bind_of_error (hfails d.terminal)]
    exact .stopped (.inr (.blankFleet rfl hblank))

theorem ends_members : (Command.members name).Ends azure group d.system
    (members (.checked azure group) name d).1 := by
  rw [members]
  rcases named_or_blank d.system name with ⟨fleet, hnamed⟩ | ⟨hblank, hfails⟩
  · rw [Action.bind_of_ok (hnamed d.terminal)]
    have hlist : Action.FailsWith (azure.Settled group)
        (Manager.fleetInstances (.checked azure group) fleet) :=
      (Manager.failsWith_fleetInstances fleet).mono fun f hf => hf.settled hazure
    refine Command.ends_operate hlist (Command.understood_of_named rfl rfl hnamed)
      (fun f => ⟨?_, ?_⟩)
      (fun f met hf => Command.fails_ofFault met hf nofun) fun refs => ?_
    · intro met
      cases met with
      | members hnamed' failed => exact ⟨_, hnamed.unique hnamed' ▸ failed⟩
    · rintro ⟨_, failed⟩
      exact .members hnamed failed
    · split_ifs
      · exact failsWith_writeMarkup fun e h => .markup (.nobody name) h
      · exact Action.failsWith_change _
  · rw [Action.bind_of_error (hfails d.terminal)]
    exact .stopped (.inr (.blankFleet rfl hblank))

end

section
variable (hazure : azure.Documented) (d : Desk ρ)
include hazure

theorem ends_owner (raw : String) : (Command.owner raw).Ends azure group d.system
    (owner (.checked azure group) raw d).1 := by
  rw [owner]
  cases href : InstanceRef.ofRaw? raw with
  | none => exact .stopped (.inl (.blankInstance (InstanceRef.ofRaw?_eq_none_iff.1 href)))
  | some ref =>
      have hlookup : Action.FailsWith (azure.Settled group)
          (Manager.findOwner (.checked azure group) ref) :=
        (Manager.failsWith_findOwner ref).mono fun f hf => hf.settled hazure
      have hread : [raw].mapM InstanceRef.ofRaw? = some [ref] := by simp [href]
      refine Command.ends_operate hlookup (Command.understood_of_refs rfl hread)
        (fun f => ⟨?_, ?_⟩)
        (fun f met hf => Command.fails_settleLookup met hf) fun _ => Action.failsWith_change _
      · intro met
        cases met with
        | owner href' failed =>
            cases href'.symm.trans href
            exact ⟨_, failed⟩
      · rintro ⟨_, failed⟩
        exact .owner href failed

theorem ends_deleteConfirmed {raws : List String} {refs : List InstanceRef}
    (hrefs : raws.mapM InstanceRef.ofRaw? = some refs) (confirmed : Bool) :
    (Command.delete raws confirmed).Ends azure group d.system ((do
      operate (.ofFault "Delete failed") (Manager.deleteInstances (.checked azure group) refs)
      writeMarkup (coloured "green" ("Deleted " ++ instanceCount refs.length))) d).1 := by
  have hdelete : Action.FailsWith (azure.Settled group)
      (Manager.deleteInstances (.checked azure group) refs) :=
    (Manager.failsWith_deleteInstances refs).mono fun f hf => hf.settled hazure
  refine Command.ends_operate hdelete (Command.understood_of_refs rfl hrefs) (fun f => ⟨?_, ?_⟩)
    (fun f met hf => Command.fails_ofFault met hf nofun) fun _ =>
    failsWith_writeMarkup fun e h => ?_
  · intro met
    cases met with
    | delete hrefs' failed =>
        cases hrefs'.symm.trans hrefs
        exact ⟨_, failed⟩
  · rintro ⟨_, failed⟩
    exact .delete hrefs failed
  · obtain ⟨cs, hcs⟩ := plain_deleted refs.length
    cases hcs.symm.trans h

theorem ends_delete (raws : List String) (confirmed : Bool) :
    (Command.delete raws confirmed).Ends azure group d.system
      (delete (.checked azure group) raws confirmed d).1 := by
  rw [delete]
  cases hrefs : raws.mapM InstanceRef.ofRaw? with
  | none =>
      obtain ⟨raw, hmem, hraw⟩ := mapM_eq_none_iff.1 hrefs
      have hblank := InstanceRef.ofRaw?_eq_none_iff.1 hraw
      exact .stopped (.inl (.blankInstances confirmed ⟨raw, hmem, hblank⟩))
  | some refs =>
      dsimp only
      split_ifs with hconfirmed
      · exact ends_deleteConfirmed hazure d hrefs confirmed
      · obtain rfl := Bool.eq_false_iff.2 hconfirmed
        obtain ⟨terminal, hyes | hno⟩ :=
          confirm_cases ("Delete " ++ instanceCount refs.length ++ "?") d
        · rw [Action.bind_of_ok hyes]
          exact ends_deleteConfirmed hazure ⟨terminal, d.system⟩ hrefs false
        · rw [Action.bind_of_error hno]
          exact .stopped (.inl (.declined raws))

theorem ends_cache : Command.cache.Ends azure group d.system
    (cache (.checked azure group) d).1 := by
  have hrefresh : Action.FailsWith (azure.Settled group)
      (Manager.refresh (.checked azure group)) :=
    Manager.failsWith_refresh.mono fun f hf => hf.settled hazure
  refine Command.ends_operate hrefresh ⟨nofun, nofun⟩ (fun f => ⟨?_, ?_⟩)
    (fun f met hf => Command.fails_ofFault met hf nofun) fun snapshot => ?_
  · intro met
    cases met with
    | cache failed => exact ⟨_, failed⟩
  · rintro ⟨_, failed⟩
    exact .cache failed
  · cases htable : snapshotTable snapshot with
    | ok table => exact Action.failsWith_change _
    | error e =>
        obtain ⟨ref, fleet, hrow, text, htext, hplain⟩ := exists_cell_of_snapshotTable htable
        exact Action.failsWith_fail (.markup (.cell hrow htext) hplain)

end
end Desk

/-- Every command but that which watches is done only if what it asks of the manager does not fail,
and stops for one of the listed reasons otherwise. -/
theorem Command.ends_run {ρ : Type} {azure : Azure ρ} {group : ResourceGroup}
    (hazure : azure.Documented) {c : Command} (hc : ∀ duration, c ≠ .watch duration)
    (interruptAt : Nat) (d : Desk ρ) :
    c.Ends azure group d.system (c.run (.checked azure group) interruptAt d).1 := by
  cases c with
  | sizeGet fleet => exact Desk.ends_sizeGet hazure fleet d
  | sizeSet fleet target => exact Desk.ends_sizeSet hazure fleet d target
  | owner raw => exact Desk.ends_owner hazure d raw
  | members fleet => exact Desk.ends_members hazure fleet d
  | delete raws confirmed => exact Desk.ends_delete hazure d raws confirmed
  | cache => exact Desk.ends_cache hazure d
  | watch duration => exact absurd rfl (hc duration)

end CommandLine
end FleetWarden
