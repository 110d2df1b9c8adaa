import FleetWarden.Disk.Basic
import FleetWarden.Proofs.Outcome
import FleetWarden.Proofs.Pairs
import Mathlib.Data.List.Basic
import Mathlib.Tactic.SplitIfs

/-!
# What paths lead to after a change

A path is followed through directories and links only. An operation that takes no directory away and
leaves all links as they are leaves every path leading to the place that it led to
(`lead_of_keeps`), so what is written to a path is found at that path. Where the last name of a path
stands for no link, both ways of following it lead to the same place (`resolve_of_locate`).
-/

namespace FleetWarden

namespace Disk

section
variable {d : Disk} {place other : Place}

theorem node?_put_self (d : Disk) (place : Place) (node : DiskNode) :
    (d.put place node).node? place = some node := by
  rw [node?, put, List.lookup_cons_self]
  split_ifs with hroot
  · subst hroot
    rw [List.lookup_cons_self]
    rfl
  · rfl

theorem node?_put_of_ne (node : DiskNode) (h : ¬other = place) :
    (d.put place node).node? other = d.node? other := by
  have hlookup : (d.put place node).nodes.lookup other = d.nodes.lookup other := by
    exact (lookup_cons_of_key_ne node _ h).trans (lookup_filter_of_ne _ h)
  rw [node?, node?, hlookup]
  split_ifs with hroot
  · rw [← hroot, hlookup]
  · rfl

theorem node?_erase_of_ne (h : ¬other = place) : (d.erase place).node? other = d.node? other := by
  have hlookup : (d.erase place).nodes.lookup other = d.nodes.lookup other :=
    lookup_filter_of_ne _ h
  rw [node?, node?, hlookup]
  split_ifs with hroot
  · rw [← hroot, hlookup]
  · rfl

end

/-! ## Steps and walks -/

section
variable {d : Disk} {place next : Place} {name : String} {names : List String} {through : Bool}
  {jump : Place → List String → Except DiskError Place}

/-- A step is taken in a directory that may be entered. -/
theorem step_eq_ok_iff :
    d.step place name = .ok next ↔ (∃ mode, d.node? place = some (.directory mode)) ∧
      d.host.allow .enter place = .ok () ∧
      (name = ".." ∧ next = place.dropLast ∨
        name ≠ ".." ∧ d.host.size name ≤ nameLimit ∧ next = place ++ [name]) := by
  rw [step]
  cases hnode : d.node? place with
  | none => simp
  | some node =>
      cases node with
      | directory mode =>
          dsimp only
          rw [except_then_eq_ok_iff]
          by_cases hup : name = ".."
          · simp [hup, eq_comm]
          · by_cases hlong : nameLimit < d.host.size name
            · simp [hup, hlong, Nat.not_le.2 hlong]
            · simp [hup, hlong, Nat.le_of_not_lt hlong, eq_comm]
      | _ => simp

/-- What a walk does with the place that a name stands for. -/
def goOn (d : Disk) (through : Bool) (jump : Place → List String → Except DiskError Place)
    (place next : Place) (rest : List String) : Except DiskError Place :=
  match d.node? next with
  | some (.link target) =>
    if rest.isEmpty && !through then .ok next
    else do
      d.host.allow .enter next
      jump (startOf target place) (target.parts ++ rest)
  | _ => d.walk through jump next rest

theorem walk_cons (d : Disk) (through : Bool)
    (jump : Place → List String → Except DiskError Place) (place : Place) (name : String)
    (names : List String) :
    d.walk through jump place (name :: names) =
      d.step place name >>= fun next => d.goOn through jump place next names := by
  rw [walk]
  rfl

theorem goOn_of_link {target : FilePath} {rest : List String}
    (h : d.node? next = some (.link target)) :
    d.goOn through jump place next rest =
      if rest.isEmpty && !through then .ok next
      else d.host.allow .enter next >>= fun _ =>
        jump (startOf target place) (target.parts ++ rest) := by
  rw [goOn, h]

theorem goOn_of_not_link {rest : List String}
    (h : ∀ target, d.node? next ≠ some (.link target)) :
    d.goOn through jump place next rest = d.walk through jump next rest := by
  rw [goOn]
  split
  · next target hnode => exact absurd hnode (h target)
  · rfl

/-- What lies at a place is a link or not. -/
theorem link_cases (d : Disk) (place : Place) :
    (∃ target, d.node? place = some (.link target)) ∨
      ∀ target, d.node? place ≠ some (.link target) := by
  by_cases h : ∃ target, d.node? place = some (.link target)
  · exact .inl h
  · exact .inr (not_exists.1 h)

end

/-! ## Changes that keep all ways -/

/-- No directory of the one disk is missing from the other, and both have the same links. -/
structure Keeps (d d' : Disk) : Prop where
  current : d'.current = d.current
  home : d'.home = d.home
  host : d'.host = d.host
  directory : ∀ {place mode}, d.node? place = some (.directory mode) →
    ∃ mode', d'.node? place = some (.directory mode')
  link : ∀ place target,
    d'.node? place = some (.link target) ↔ d.node? place = some (.link target)

section
variable {d d' d'' : Disk} {p : FilePath} {place next : Place} {through : Bool}

theorem Keeps.rfl : Keeps d d :=
  ⟨Eq.refl _, Eq.refl _, Eq.refl _, fun {_ mode} h => ⟨mode, h⟩, fun _ _ => Iff.rfl⟩

theorem Keeps.trans (h : Keeps d d') (h' : Keeps d' d'') : Keeps d d'' where
  current := h'.current.trans h.current
  home := h'.home.trans h.home
  host := h'.host.trans h.host
  directory hdirectory :=
    let ⟨_, hmode⟩ := h.directory hdirectory
    h'.directory hmode
  link place target := (h'.link place target).trans (h.link place target)

theorem step_of_keeps (h : Keeps d d') {name : String} (hstep : d.step place name = .ok next) :
    d'.step place name = .ok next := by
  obtain ⟨⟨mode, hmode⟩, hrest⟩ := step_eq_ok_iff.1 hstep
  rw [← h.host] at hrest
  exact step_eq_ok_iff.2 ⟨h.directory hmode, hrest⟩

/-- A walk is the same on both disks if the jumps are. -/
theorem walk_of_keeps (h : Keeps d d') {jump jump' : Place → List String → Except DiskError Place}
    (hjump : ∀ start names, jump start names = .ok place → jump' start names = .ok place)
    {start : Place} {names : List String} (hwalk : d.walk through jump start names = .ok place) :
    d'.walk through jump' start names = .ok place := by
  induction names generalizing start with
  | nil => exact hwalk
  | cons name names ih =>
      rw [walk_cons, except_bind_eq_ok_iff] at hwalk ⊢
      obtain ⟨next, hstep, hon⟩ := hwalk
      refine ⟨next, step_of_keeps h hstep, ?_⟩
      obtain ⟨target, htarget⟩ | hnone := d.link_cases next
      · rw [goOn_of_link htarget] at hon
        rw [goOn_of_link ((h.link next target).2 htarget), h.host]
        split_ifs at hon ⊢
        · exact hon
        · obtain ⟨u, hallow, hon⟩ := except_bind_eq_ok_iff.1 hon
          exact except_bind_eq_ok_iff.2 ⟨u, hallow, hjump _ _ hon⟩
      · rw [goOn_of_not_link hnone] at hon
        rw [goOn_of_not_link fun target => mt (h.link next target).1 (hnone target)]
        exact ih hon

theorem follow_of_keeps (h : Keeps d d') {links : Nat} {start : Place} {names : List String}
    (hfollow : d.follow through links start names = .ok place) :
    d'.follow through links start names = .ok place := by
  induction links generalizing start names with
  | zero => exact walk_of_keeps h (fun _ _ hjump => by cases hjump) hfollow
  | succ links ih => exact walk_of_keeps h (fun _ _ hjump => ih hjump) hfollow

/-- A path leads to the same place as long as no directory is taken away and links stay. -/
theorem lead_of_keeps (h : Keeps d d') (hlead : d.lead through p = .ok place) :
    d'.lead through p = .ok place := by
  rw [lead, h.current, h.host]
  rw [lead] at hlead
  split_ifs at hlead ⊢
  exact follow_of_keeps h hlead

/-- What lies at a place may be replaced by anything, as long as directories stay and links too. -/
theorem keeps_put {node : DiskNode}
    (h : ∀ mode, d.node? place = some (.directory mode) → ∃ mode', node = .directory mode')
    (hlink : ∀ target, node = .link target ↔ d.node? place = some (.link target)) :
    Keeps d (d.put place node) where
  current := Eq.refl _
  home := Eq.refl _
  host := Eq.refl _
  directory {other mode} hdirectory := by
    by_cases hother : other = place
    · subst hother
      obtain ⟨mode', rfl⟩ := h mode hdirectory
      exact ⟨mode', node?_put_self d other _⟩
    · exact ⟨mode, by rw [node?_put_of_ne _ hother, hdirectory]⟩
  link other target := by
    by_cases hother : other = place
    · subst hother
      rw [node?_put_self, Option.some.injEq, hlink]
    · rw [node?_put_of_ne _ hother]

/-- The same may be put at a place of both disks. -/
theorem Keeps.put (h : Keeps d d') (place : Place) (node : DiskNode) :
    Keeps (d.put place node) (d'.put place node) where
  current := h.current
  home := h.home
  host := h.host
  directory {other mode} hdirectory := by
    by_cases hother : other = place
    · subst hother
      rw [node?_put_self] at hdirectory ⊢
      exact ⟨mode, hdirectory⟩
    · rw [node?_put_of_ne _ hother] at hdirectory ⊢
      exact h.directory hdirectory
  link other target := by
    by_cases hother : other = place
    · subst hother
      rw [node?_put_self, node?_put_self]
    · rw [node?_put_of_ne _ hother, node?_put_of_ne _ hother]
      exact h.link other target

end

/-! ## Following the last name or not -/

section
variable {d : Disk} {p : FilePath} {place start : Place} {names : List String}

/-- What does not lead to a link leads to the same place if links at the end are followed. -/
theorem walk_through {jump jump' : Place → List String → Except DiskError Place}
    (hjump : ∀ start names, jump start names = .ok place → jump' start names = .ok place)
    (hnode : ∀ target, d.node? place ≠ some (.link target))
    (hwalk : d.walk false jump start names = .ok place) :
    d.walk true jump' start names = .ok place := by
  induction names generalizing start with
  | nil => exact hwalk
  | cons name names ih =>
      rw [walk_cons, except_bind_eq_ok_iff] at hwalk ⊢
      obtain ⟨next, hstep, hon⟩ := hwalk
      refine ⟨next, hstep, ?_⟩
      obtain ⟨target, htarget⟩ | hnone := d.link_cases next
      · rw [goOn_of_link htarget] at hon ⊢
        split_ifs at hon with hlast
        · obtain rfl := Except.ok.inj hon
          exact absurd htarget (hnode target)
        · obtain ⟨u, hallow, hon⟩ := except_bind_eq_ok_iff.1 hon
          rw [if_neg (by simp)]
          exact except_bind_eq_ok_iff.2 ⟨u, hallow, hjump _ _ hon⟩
      · rw [goOn_of_not_link hnone] at hon ⊢
        exact ih hon

theorem follow_through {links : Nat} (hnode : ∀ target, d.node? place ≠ some (.link target))
    (hfollow : d.follow false links start names = .ok place) :
    d.follow true links start names = .ok place := by
  induction links generalizing start names with
  | zero => exact walk_through (fun _ _ hjump => by cases hjump) hnode hfollow
  | succ links ih => exact walk_through (fun _ _ hjump => ih hjump) hnode hfollow

/-- Where the last name stands for no link, the path leads to the place of that name. -/
theorem resolve_of_locate (hnode : ∀ target, d.node? place ≠ some (.link target))
    (h : d.locate p = .ok place) : d.resolve p = .ok place := by
  rw [locate, lead] at h
  rw [resolve, lead]
  split_ifs at h ⊢
  exact follow_through hnode h

/-- If links at the end can be followed, then they can be left alone. -/
theorem exists_walk {jump jump' : Place → List String → Except DiskError Place}
    (hjump : ∀ start names place, jump start names = .ok place →
      ∃ place', jump' start names = .ok place')
    (hwalk : d.walk true jump start names = .ok place) :
    ∃ place', d.walk false jump' start names = .ok place' := by
  induction names generalizing start with
  | nil => exact ⟨start, rfl⟩
  | cons name names ih =>
      simp only [walk_cons, except_bind_eq_ok_iff] at hwalk ⊢
      obtain ⟨next, hstep, hon⟩ := hwalk
      obtain ⟨target, htarget⟩ | hnone := d.link_cases next
      · rw [goOn_of_link htarget, if_neg (by simp)] at hon
        obtain ⟨u, hallow, hon⟩ := except_bind_eq_ok_iff.1 hon
        by_cases hlast : names.isEmpty = true
        · exact ⟨next, next, hstep, by rw [goOn_of_link htarget, hlast]; rfl⟩
        · obtain ⟨place', hplace'⟩ := hjump _ _ _ hon
          refine ⟨place', next, hstep, ?_⟩
          rw [goOn_of_link htarget, if_neg (by simp [hlast])]
          exact except_bind_eq_ok_iff.2 ⟨u, hallow, hplace'⟩
      · rw [goOn_of_not_link hnone] at hon
        obtain ⟨place', hplace'⟩ := ih hon
        exact ⟨place', next, hstep, by rw [goOn_of_not_link hnone, hplace']⟩

theorem exists_follow {links : Nat} (hfollow : d.follow true links start names = .ok place) :
    ∃ place', d.follow false links start names = .ok place' := by
  induction links generalizing start names place with
  | zero => exact exists_walk (fun _ _ _ hjump => by cases hjump) hfollow
  | succ links ih => exact exists_walk (fun _ _ _ hjump => ih hjump) hfollow

theorem exists_locate_of_resolve (h : d.resolve p = .ok place) :
    ∃ entry, d.locate p = .ok entry := by
  rw [resolve, lead] at h
  rw [locate, lead]
  split_ifs at h ⊢
  exact exists_follow h

/-- The last name of a path is looked up in a directory. -/
theorem exists_directory_of_walk {jump : Place → List String → Except DiskError Place}
    (hjump : ∀ start names, jump start names = .ok place → names ≠ [] →
      names.getLast? ≠ some ".." →
      ∃ above mode name, place = above ++ [name] ∧ d.node? above = some (.directory mode))
    (hnames : names ≠ []) (hlast : names.getLast? ≠ some "..")
    (hwalk : d.walk false jump start names = .ok place) :
    ∃ above mode name, place = above ++ [name] ∧ d.node? above = some (.directory mode) := by
  induction names generalizing start with
  | nil => exact absurd rfl hnames
  | cons name names ih =>
      rw [walk_cons, except_bind_eq_ok_iff] at hwalk
      obtain ⟨next, hstep, hon⟩ := hwalk
      obtain ⟨⟨mode, hmode⟩, -, hnext⟩ := step_eq_ok_iff.1 hstep
      by_cases hrest : names = []
      · subst hrest
        have hname : name ≠ ".." := fun h => hlast (by rw [h]; rfl)
        obtain ⟨-, -, rfl⟩ := hnext.resolve_left fun h => hname h.1
        refine ⟨start, mode, name, ?_, hmode⟩
        obtain ⟨target, htarget⟩ | hnone := d.link_cases (start ++ [name])
        · rw [goOn_of_link htarget] at hon
          exact (Except.ok.inj hon).symm
        · rw [goOn_of_not_link hnone] at hon
          exact (Except.ok.inj hon).symm
      · have hrest' : names.getLast? ≠ some ".." := by
          rwa [List.getLast?_cons_of_ne_nil hrest] at hlast
        obtain ⟨target, htarget⟩ | hnone := d.link_cases next
        · rw [goOn_of_link htarget, if_neg (by simp [hrest])] at hon
          obtain ⟨-, -, hon⟩ := except_bind_eq_ok_iff.1 hon
          refine hjump _ _ hon (by simp [hrest]) ?_
          rwa [List.getLast?_append_of_ne_nil _ hrest]
        · rw [goOn_of_not_link hnone] at hon
          exact ih hrest hrest' hon

theorem exists_directory_of_follow {links : Nat} (hnames : names ≠ [])
    (hlast : names.getLast? ≠ some "..")
    (hfollow : d.follow false links start names = .ok place) :
    ∃ above mode name, place = above ++ [name] ∧ d.node? above = some (.directory mode) := by
  induction links generalizing start names with
  | zero => exact exists_directory_of_walk (fun _ _ hjump => by cases hjump) hnames hlast hfollow
  | succ links ih =>
      refine exists_directory_of_walk (fun _ _ hjump hnames hlast => ?_) hnames hlast hfollow
      exact ih hnames hlast hjump

/-- A path that ends in a name leads into a directory. -/
theorem directory_of_locate {name : String} (hname : p.name? = some name) (hup : name ≠ "..")
    (h : d.locate p = .ok place) : ∃ mode, d.node? place.dropLast = some (.directory mode) := by
  have hnames : p.parts ≠ [] := by
    intro hnil
    rw [FilePath.name?, hnil] at hname
    cases hname
  have hlast : p.parts.getLast? ≠ some ".." := by
    rw [FilePath.name?] at hname
    rw [hname]
    exact fun heq => hup (Option.some.inj heq)
  rw [locate, lead] at h
  obtain ⟨above, mode, last, rfl, habove⟩ : ∃ above mode name, place = above ++ [name] ∧
      d.node? above = some (.directory mode) := by
    split_ifs at h
    exact exists_directory_of_follow hnames hlast h
  exact ⟨mode, by rwa [List.dropLast_concat]⟩

end

end Disk
end FleetWarden
