import FleetWarden.Proofs.Disk.Lookups
import Mathlib.Logic.Function.Basic

/-!
# What lies on a disk

What an operation does to a disk is told by a function from places to what lies there, directories
apart (`leaf?`). Writing to a file changes this function at one place, removing something does too,
and a move changes it at two. A directory that is made where nothing was makes no difference here
(`Grows`). Each operation that succeeds says with that what the path led to and that the host
allowed it.
-/

namespace FleetWarden

namespace DiskNode

section
variable {node : DiskNode} {content content' : ByteArray} {mode : Nat} {target : FilePath}

theorem isDirectory_withMode : (node.withMode mode).isDirectory = node.isDirectory := by
  cases node <;> rfl

theorem isDirectory_withContent : (node.withContent content).isDirectory = node.isDirectory := by
  cases node <;> rfl

theorem withContent_withContent :
    (node.withContent content).withContent content' = node.withContent content' := by
  cases node <;> rfl

theorem withMode_eq_link_iff : node.withMode mode = .link target ↔ node = .link target := by
  cases node <;> simp [withMode]

theorem withContent_eq_link_iff :
    node.withContent content = .link target ↔ node = .link target := by
  cases node <;> simp [withContent]

theorem isDirectory_eq_false_iff : node.isDirectory = false ↔ ∀ mode, node ≠ .directory mode := by
  cases node <;> simp [isDirectory]

end

end DiskNode

namespace Host

theorem allow_eq_ok_iff {host : Host} {access : Access} {place : Place} :
    host.allow access place = .ok () ↔ host.refuses? access place = none := by
  rw [allow]
  cases host.refuses? access place <;> simp

theorem allow_eq_error_iff {host : Host} {access : Access} {place : Place} {e : DiskError} :
    host.allow access place = .error e ↔ host.refuses? access place = some e := by
  rw [allow]
  cases host.refuses? access place <;> simp

end Host

namespace Disk

/-- What lies at a place, unless it is a directory. -/
def leaf? (d : Disk) (place : Place) : Option DiskNode := (d.node? place).filter (!·.isDirectory)

/-- What is written to at a place: what lies there, or else a new file. -/
def slot (d : Disk) (place : Place) : DiskNode :=
  (d.node? place).getD (.file .empty d.host.fileMode)

/-- The disk with a content written to a place. -/
def written (d : Disk) (place : Place) (content : ByteArray) : Disk :=
  d.put place ((d.slot place).withContent content)

section
variable {d d' d'' : Disk} {place other : Place} {p : FilePath} {node : DiskNode}

/-! ## Leaves -/

theorem leaf?_eq_some_iff :
    d.leaf? place = some node ↔ d.node? place = some node ∧ node.isDirectory = false := by
  rw [leaf?, Option.filter_eq_some_iff, Bool.not_eq_true']

theorem leaf?_eq_link_iff {target : FilePath} :
    d.leaf? place = some (.link target) ↔ d.node? place = some (.link target) := by
  simp [leaf?_eq_some_iff, DiskNode.isDirectory]

theorem leaf?_eq_of_node?_eq (h : d.node? other = d'.node? other) :
    d.leaf? other = d'.leaf? other := by
  rw [leaf?, leaf?, h]

theorem leaf?_of_directory {mode : Nat} (h : d.node? place = some (.directory mode)) :
    d.leaf? place = none := by
  rw [leaf?, h]
  rfl

theorem leaf?_of_missing (h : d.node? place = none) : d.leaf? place = none := by
  rw [leaf?, h]
  rfl

/-- Where no directory is, the leaf is all that lies there. -/
theorem leaf?_of_free (h : ∀ mode, d.node? place ≠ some (.directory mode)) :
    d.leaf? place = d.node? place := by
  cases hnode : d.node? place with
  | none => exact leaf?_of_missing hnode
  | some node =>
      refine leaf?_eq_some_iff.2 ⟨hnode, DiskNode.isDirectory_eq_false_iff.2 fun mode hmode => ?_⟩
      exact h mode (hnode.trans (congrArg some hmode))

theorem leaf?_put (d : Disk) (place : Place) (h : node.isDirectory = false) :
    (d.put place node).leaf? = Function.update d.leaf? place (some node) := by
  funext other
  by_cases hother : other = place
  · subst hother
    rw [Function.update_self]
    exact leaf?_eq_some_iff.2 ⟨node?_put_self d other node, h⟩
  · rw [Function.update_of_ne hother]
    exact leaf?_eq_of_node?_eq (node?_put_of_ne _ hother)

theorem leaf?_erase (d : Disk) (place : Place) :
    (d.erase place).leaf? = Function.update d.leaf? place none := by
  funext other
  by_cases hother : other = place
  · subst hother
    have hgone : (d.erase other).nodes.lookup other = none := by
      rw [List.lookup_eq_none_iff]
      intro p hp
      have hne : p.1 ≠ other := by simpa using (List.mem_filter.1 hp).2
      simpa using Ne.symm hne
    rw [Function.update_self, leaf?, node?]
    split_ifs with hroot
    · rw [← hroot, hgone]
      rfl
    · rw [hgone]
      rfl
  · rw [Function.update_of_ne hother]
    exact leaf?_eq_of_node?_eq (node?_erase_of_ne hother)

section Directories
variable {mode : Nat} (hfree : ∀ mode, d.node? place ≠ some (.directory mode))
  (h : d.node? other = some (.directory mode))
include hfree h

theorem ne_of_directory : ¬other = place := by
  rintro rfl
  exact hfree mode h

theorem node?_directory_put (node : DiskNode) :
    (d.put place node).node? other = some (.directory mode) := by
  rw [node?_put_of_ne _ (ne_of_directory hfree h), h]

theorem node?_directory_erase : (d.erase place).node? other = some (.directory mode) := by
  rw [node?_erase_of_ne (ne_of_directory hfree h), h]

end Directories

/-- Of two nodes put at one place the second one stays. -/
theorem put_put (d : Disk) (place : Place) (node node' : DiskNode) :
    (d.put place node).put place node' = d.put place node' := by
  simp only [put, List.filter_cons, decide_not, decide_true, Bool.not_true, Bool.false_eq_true,
    if_false, List.filter_filter, Bool.and_self]

/-! ## New directories -/

/-- The second disk has all that the first one has, and at most directories besides. -/
structure Grows (d d' : Disk) : Prop where
  current : d'.current = d.current
  home : d'.home = d.home
  host : d'.host = d.host
  node : ∀ place, d'.node? place = d.node? place ∨
    d.node? place = none ∧ ∃ mode, d'.node? place = some (.directory mode)

theorem Grows.rfl : Grows d d := ⟨Eq.refl _, Eq.refl _, Eq.refl _, fun _ => .inl (Eq.refl _)⟩

theorem Grows.trans (h : Grows d d') (h' : Grows d' d'') : Grows d d'' where
  current := h'.current.trans h.current
  home := h'.home.trans h.home
  host := h'.host.trans h.host
  node place := by
    rcases h'.node place with hsame' | ⟨hnone', hmade'⟩
    · rw [hsame']
      exact h.node place
    · rcases h.node place with hsame | ⟨hnone, mode, hmade⟩
      · exact .inr ⟨hsame ▸ hnone', hmade'⟩
      · cases hnone'.symm.trans hmade

theorem Grows.node?_eq (h : Grows d d') (hnode : d.node? place = some node) :
    d'.node? place = some node := by
  rcases h.node place with hsame | ⟨hnone, -⟩
  · exact hsame.trans hnode
  · cases hnode.symm.trans hnone

theorem Grows.leaf? (h : Grows d d') : d'.leaf? = d.leaf? := by
  funext place
  rcases h.node place with hsame | ⟨hnone, mode, hmade⟩
  · exact leaf?_eq_of_node?_eq hsame
  · rw [leaf?_of_directory hmade, leaf?_of_missing hnone]

theorem Grows.keeps (h : Grows d d') : Keeps d d' where
  current := h.current
  home := h.home
  host := h.host
  directory {_ mode} hdirectory := ⟨mode, h.node?_eq hdirectory⟩
  link place target := by rw [← leaf?_eq_link_iff, ← leaf?_eq_link_iff, h.leaf?]

theorem grows_makeDirectory (h : d.makeDirectory p = .ok d') : Grows d d' := by
  obtain ⟨place, -, h⟩ := except_bind_eq_ok_iff.1 h
  cases hnode : d.node? place with
  | some node => simp [hnode] at h
  | none =>
      simp only [hnode, except_then_eq_ok_iff, Except.ok.injEq] at h
      obtain ⟨-, rfl⟩ := h
      refine ⟨Eq.refl _, Eq.refl _, Eq.refl _, fun other => ?_⟩
      by_cases hother : other = place
      · subst hother
        exact .inr ⟨hnode, _, node?_put_self d other _⟩
      · exact .inl (node?_put_of_ne _ hother)

/-- What is no directory and no link can be taken away. -/
theorem keeps_erase (hfree : ∀ mode, d.node? place ≠ some (.directory mode))
    (hlink : ∀ target, d.node? place ≠ some (.link target)) : Keeps d (d.erase place) where
  current := Eq.refl _
  home := Eq.refl _
  host := Eq.refl _
  directory {_ mode} hdirectory := ⟨mode, node?_directory_erase hfree hdirectory⟩
  link other target := by
    rw [← leaf?_eq_link_iff, ← leaf?_eq_link_iff, leaf?_erase]
    by_cases hother : other = place
    · subst hother
      rw [Function.update_self, leaf?_eq_link_iff]
      exact iff_of_false nofun (hlink target)
    · rw [Function.update_of_ne hother]

/-! ## Looking and reading -/

theorem found_eq_ok_iff : d.found place = .ok node ↔ d.node? place = some node := by
  rw [found]
  cases d.node? place <;> simp

theorem stat_eq_ok_iff :
    d.stat p = .ok node ↔ ∃ place, d.resolve p = .ok place ∧ d.node? place = some node ∧
      d.host.refuses? .look place = none := by
  simp only [stat, ↓except_then_eq_ok_iff, except_bind_eq_ok_iff, found_eq_ok_iff,
    Host.allow_eq_ok_iff, Except.ok.injEq]
  constructor
  · rintro ⟨place, hplace, _, hnode, hlook, rfl⟩
    exact ⟨place, hplace, hnode, hlook⟩
  · rintro ⟨place, hplace, hnode, hlook⟩
    exact ⟨place, hplace, node, hnode, hlook, Eq.refl _⟩

/-- What is there can be looked at unless the host refuses it. -/
theorem refuses_of_stat {e : DiskError} (hresolve : d.resolve p = .ok place)
    (hnode : d.node? place = some node) (h : d.stat p = .error e) :
    d.host.refuses? .look place = some e := by
  rw [stat, hresolve] at h
  change (d.found place >>= fun node => d.host.allow .look place >>= fun _ => .ok node) = _ at h
  rw [found_eq_ok_iff.2 hnode] at h
  rcases except_then_eq_error_iff.1 h with h | ⟨-, h⟩
  · exact Host.allow_eq_error_iff.1 h
  · cases h

/-! ## Changes at one place -/

/-- The second disk is the first one with something put at a place, which was and is no directory;
a link stays as it is. -/
structure Touches (d : Disk) (place : Place) (node : DiskNode) (d' : Disk) : Prop where
  eq : d' = d.put place node
  free : ∀ mode, d.node? place ≠ some (.directory mode)
  isLeaf : node.isDirectory = false
  link : ∀ target, node = .link target ↔ d.node? place = some (.link target)

theorem Touches.node? (h : Touches d place node d') : d'.node? place = some node := by
  rw [h.eq]
  exact node?_put_self d place node

theorem Touches.host (h : Touches d place node d') : d'.host = d.host := by
  rw [h.eq]
  rfl

theorem Touches.leaf? (h : Touches d place node d') :
    d'.leaf? = Function.update d.leaf? place (some node) := by
  rw [h.eq]
  exact leaf?_put d place h.isLeaf

theorem Touches.directory (h : Touches d place node d') {mode : Nat}
    (hdirectory : d.node? other = some (.directory mode)) :
    d'.node? other = some (.directory mode) := by
  rw [h.eq]
  exact node?_directory_put h.free hdirectory node

theorem Touches.keeps (h : Touches d place node d') : Keeps d d' := by
  rw [h.eq]
  exact keeps_put (fun mode hdirectory => absurd hdirectory (h.free mode)) h.link

/-- Paths that lead somewhere afterwards did so before. -/
theorem Touches.keeps_back (h : Touches d place node d') : Keeps d' d where
  current := by rw [h.eq]; rfl
  home := by rw [h.eq]; rfl
  host := h.host.symm
  directory {other mode} hdirectory := by
    rw [h.eq] at hdirectory
    by_cases hother : other = place
    · subst hother
      rw [node?_put_self, Option.some.injEq] at hdirectory
      exact absurd hdirectory (DiskNode.isDirectory_eq_false_iff.1 h.isLeaf mode)
    · exact ⟨mode, by rw [← hdirectory, node?_put_of_ne _ hother]⟩
  link other target := (h.keeps.link other target).symm

/-- Something else of the same kind can be put there too. -/
theorem Touches.replace (h : Touches d place node d') {node' : DiskNode}
    (hleaf : node'.isDirectory = node.isDirectory)
    (hlink : ∀ target, node' = .link target ↔ node = .link target) :
    Touches d place node' (d.put place node') where
  eq := Eq.refl _
  free := h.free
  isLeaf := hleaf.trans h.isLeaf
  link target := (hlink target).trans (h.link target)

theorem slot_of_node? (h : d.node? place = some node) : d.slot place = node := by
  rw [slot, h]
  rfl

/-- What is written to when nothing but directories were made before. -/
theorem Grows.slot (h : Grows d d') (hfree : ∀ mode, d'.node? place ≠ some (.directory mode)) :
    d'.slot place = d.slot place := by
  rcases h.node place with hsame | ⟨-, mode, hmade⟩
  · rw [Disk.slot, Disk.slot, hsame, h.host]
  · exact absurd hmade (hfree mode)

/-- A file that was opened for writing is empty. -/
theorem touches_of_openToWrite (h : d.openToWrite p = .ok (place, d')) :
    d.resolve p = .ok place ∧ Touches d place ((d.slot place).withContent .empty) d' := by
  obtain ⟨found, hresolve, h⟩ := except_bind_eq_ok_iff.1 h
  cases hnode : d.node? found with
  | none =>
      simp only [hnode, except_then_eq_ok_iff] at h
      obtain ⟨rfl, rfl⟩ := Prod.mk.inj (Except.ok.inj h.2)
      rw [slot, hnode]
      exact ⟨hresolve, Eq.refl _, by simp [hnode], Eq.refl _, by simp [hnode, DiskNode.withContent]⟩
  | some node =>
      simp only [hnode] at h
      by_cases hdirectory : node.isDirectory = true
      · rw [if_pos hdirectory] at h
        cases h
      · rw [if_neg hdirectory] at h
        obtain ⟨-, -, h⟩ := except_bind_eq_ok_iff.1 h
        have hleaf : node.isDirectory = false := Bool.eq_false_iff.2 hdirectory
        cases hfault : node.openFault? with
        | some e =>
            rw [hfault] at h
            cases h
        | none =>
            rw [hfault] at h
            obtain ⟨rfl, rfl⟩ := Prod.mk.inj (Except.ok.inj h)
            rw [slot_of_node? hnode]
            refine ⟨hresolve, Eq.refl _, fun mode hmode => ?_, ?_, fun target => ?_⟩
            · rw [hnode, Option.some.injEq] at hmode
              exact DiskNode.isDirectory_eq_false_iff.1 hleaf mode hmode
            · rw [DiskNode.isDirectory_withContent, hleaf]
            · rw [DiskNode.withContent_eq_link_iff, hnode, Option.some.injEq]

theorem openToWrite_eq (h : d.openToWrite p = .ok (place, d')) : d' = d.written place .empty :=
  (touches_of_openToWrite h).2.eq

/-- Any content can be written to a file that was opened. -/
theorem touches_written (h : d.openToWrite p = .ok (place, d')) (content : ByteArray) :
    Touches d place ((d.slot place).withContent content) (d.written place content) := by
  refine (touches_of_openToWrite h).2.replace ?_ fun target => ?_
  · rw [DiskNode.isDirectory_withContent, DiskNode.isDirectory_withContent]
  · rw [DiskNode.withContent_eq_link_iff, DiskNode.withContent_eq_link_iff]

/-- Of what was written to a file the last content stays. -/
theorem setContent_written (d : Disk) (place : Place) (content content' : ByteArray) :
    (d.written place content).setContent place content' = d.written place content' := by
  rw [setContent, written, node?_put_self]
  dsimp only
  rw [put_put, DiskNode.withContent_withContent, written]

theorem changeMode_eq_ok_iff {mode : Nat} :
    d.changeMode p mode = .ok d' ↔ ∃ place node, d.resolve p = .ok place ∧
      d.node? place = some node ∧ d.host.refuses? .changeMode place = none ∧
        d' = d.put place (node.withMode mode) := by
  simp only [changeMode, ↓except_then_eq_ok_iff, except_bind_eq_ok_iff, found_eq_ok_iff,
    Host.allow_eq_ok_iff, Except.ok.injEq]
  constructor
  · rintro ⟨place, hplace, node, hnode, hallow, rfl⟩
    exact ⟨place, node, hplace, hnode, hallow, Eq.refl _⟩
  · rintro ⟨place, node, hplace, hnode, hallow, rfl⟩
    exact ⟨place, hplace, node, hnode, hallow, Eq.refl _⟩

/-! ## Removing and moving -/

theorem removeFile_eq_ok_iff :
    d.removeFile p = .ok d' ↔ ∃ place node, d.locate p = .ok place ∧
      d.leaf? place = some node ∧ d.host.refuses? .remove place = none ∧ d' = d.erase place := by
  simp only [removeFile, ↓except_then_eq_ok_iff, except_bind_eq_ok_iff, found_eq_ok_iff,
    Host.allow_eq_ok_iff, leaf?_eq_some_iff]
  constructor
  · rintro ⟨place, hplace, node, hnode, hallow, h⟩
    split_ifs at h with hdirectory
    exact ⟨place, node, hplace, ⟨hnode, Bool.eq_false_iff.2 hdirectory⟩, hallow,
      (Except.ok.inj h).symm⟩
  · rintro ⟨place, node, hplace, ⟨hnode, hleaf⟩, hallow, rfl⟩
    exact ⟨place, hplace, node, hnode, hallow, by rw [hleaf]; rfl⟩

section Entries
variable {entry : Place} (hlocate : d.locate p = .ok entry) (hresolve : d.resolve p = .ok place)
include hlocate hresolve

/-- Where the last name of a path stands for no link, the path leads there. -/
theorem eq_of_not_link (h : ∀ target, d.node? entry ≠ some (.link target)) : entry = place :=
  Except.ok.inj ((resolve_of_locate h hlocate).symm.trans hresolve)

theorem eq_of_leaf?_eq_none (h : d.leaf? entry = none) : entry = place := by
  refine eq_of_not_link hlocate hresolve fun target hlink => ?_
  cases h.symm.trans (leaf?_eq_some_iff.2 ⟨hlink, Eq.refl _⟩)

/-- The last name of a path stands for a leaf if the path leads to one. -/
theorem exists_leaf?_entry (hleaf : d.leaf? place = some node) :
    ∃ node', d.leaf? entry = some node' := by
  cases h : d.leaf? entry with
  | some node' => exact ⟨node', Eq.refl _⟩
  | none =>
      obtain rfl := eq_of_leaf?_eq_none hlocate hresolve h
      cases h.symm.trans hleaf

end Entries

/-- What is there and no directory can be removed unless the host refuses it. -/
theorem refuses_of_removeFile {entry : Place} {e : DiskError} (hlocate : d.locate p = .ok entry)
    (hleaf : d.leaf? entry = some node) (h : d.removeFile p = .error e) :
    d.host.refuses? .remove entry = some e := by
  cases hallow : d.host.refuses? .remove entry with
  | none =>
      cases (removeFile_eq_ok_iff.2 ⟨entry, node, hlocate, hleaf, hallow, Eq.refl _⟩).symm.trans h
  | some e' =>
      obtain ⟨hnode, -⟩ := leaf?_eq_some_iff.1 hleaf
      have hrefused : d.removeFile p = .error e' := by
        rw [removeFile, hlocate]
        change (d.found entry >>= fun node => d.host.allow .remove entry >>= fun _ => _) = _
        rw [found_eq_ok_iff.2 hnode]
        change (d.host.allow .remove entry >>= fun _ => _) = _
        rw [Host.allow_eq_error_iff.2 hallow]
        rfl
      rw [Except.error.inj (h.symm.trans hrefused)]

/-- What lies at places after something is moved from the one place to the other. -/
def moved (files : Place → Option DiskNode) (old new : Place) : Place → Option DiskNode :=
  Function.update (Function.update files old none) new (files old)

theorem moved_self (files : Place → Option DiskNode) (place : Place) :
    moved files place place = files := by
  rw [moved, Function.update_idem, Function.update_eq_self]

/-- A move that succeeds took something away and put it where no directory was. -/
theorem of_moveFile {source target : FilePath} (h : d.moveFile source target = .ok d') :
    ∃ old new node, d.locate source = .ok old ∧ d.locate target = .ok new ∧
      target.name? ≠ some ".." ∧ d.node? old = some node ∧
        (old = new ∧ d' = d ∨ ¬old = new ∧ (∀ mode, d.node? new ≠ some (.directory mode)) ∧
          d' = (d.erase old).put new node) := by
  obtain ⟨old, hold, h⟩ := except_bind_eq_ok_iff.1 h
  obtain ⟨new, hnew, h⟩ := except_bind_eq_ok_iff.1 h
  by_cases hname : target.name? = some ".."
  · rw [if_pos hname] at h
    cases h
  · rw [if_neg hname] at h
    obtain ⟨node, hnode, h⟩ := except_bind_eq_ok_iff.1 h
    refine ⟨old, new, node, hold, hnew, hname, found_eq_ok_iff.1 hnode, ?_⟩
    by_cases hsame : old = new
    · rw [if_pos hsame] at h
      exact .inl ⟨hsame, (Except.ok.inj h).symm⟩
    · rw [if_neg hsame] at h
      obtain ⟨-, -, h⟩ := except_bind_eq_ok_iff.1 h
      cases hthere : d.node? new with
      | none =>
          rw [hthere] at h
          exact .inr ⟨hsame, nofun, (Except.ok.inj h).symm⟩
      | some there =>
          rw [hthere] at h
          cases there with
          | directory mode => cases h
          | _ => exact .inr ⟨hsame, nofun, (Except.ok.inj h).symm⟩

end

/-- A disk with nothing but the root, on a host that refuses nothing. -/
def empty : Disk := ⟨[], [], ⟨"/", ["root"]⟩, .standard⟩

end Disk
end FleetWarden
