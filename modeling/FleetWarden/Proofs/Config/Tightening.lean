import FleetWarden.Proofs.Config.Loading

/-!
# What loading does to the disk

Loading writes once, when it takes the rights of others away, and that is before anything is read.
So the disk after loading depends on what the path leads to, on the mode of that, and on whether the
host lets the mode be changed, and on nothing else (`disk_of_readEnd`, `disk_load`).

## Implementation notes

What the path leads to need not be a file. The rights of others are taken away from a directory or
a device as well, and only then is it opened.
-/

namespace FleetWarden.Storage

/-- What a text given as a path leads to, and the place of it. -/
def found? (d : Disk) (s : String) : Option (Place × DiskNode) :=
  (expandHome d (.ofText s)).toOption.bind fun p =>
    if (pathFault? d.host p).isSome then none
    else (d.resolve p).toOption.bind fun place =>
      if (d.host.refuses? .look place).isSome then none else (d.node? place).map (place, ·)

/-- The disk after loading from a path that leads somewhere. -/
def afterLoading (d : Disk) (place : Place) (node : DiskNode) : Disk :=
  if (d.host.refuses? .changeMode place).isSome then d else tightened d place node

/-- A disk with a directory in the working directory and nothing else. -/
def soleDirectory : Storage :=
  ⟨⟨[(["d"], .directory 0o755)], [], ⟨"/", ["root"]⟩, .standard⟩, []⟩

section
variable {st : Storage} {d d' : Disk} {p : FilePath} {node : DiskNode} {place : Place} {s : String}
  {r : Except ConfigFault ByteArray}

theorem found?_eq_some_iff :
    found? d s = some (place, node) ↔
      ∃ p, expandHome d (.ofText s) = .ok p ∧ Finds d p place node := by
  have hok : ∀ {ε α : Type} (x : Except ε α) a, x.toOption = some a ↔ x = .ok a := by
    rintro ε α (e | b) a <;> simp [Except.toOption]
  simp only [found?, Option.bind_eq_some_iff, Option.ite_none_left_eq_some, hok,
    Option.map_eq_some_iff, Prod.mk.injEq, Bool.not_eq_true, Option.isSome_eq_false_iff,
    Option.isNone_iff_eq_none]
  constructor
  · rintro ⟨p, hp, hfault, found, hresolve, hlook, node', hnode, rfl, rfl⟩
    exact ⟨p, hp, hfault, hresolve, hnode, hlook⟩
  · rintro ⟨p, hp, hfault, hresolve, hnode, hlook⟩
    exact ⟨p, hp, hfault, place, hresolve, hlook, node, hnode, rfl, rfl⟩

theorem Finds.unique {place' : Place} {node' : DiskNode} (h : Finds d p place node)
    (h' : Finds d p place' node') : place' = place ∧ node' = node := by
  obtain rfl : place' = place := Except.ok.inj (h'.resolve.symm.trans h.resolve)
  exact ⟨rfl, Option.some.inj (h'.node.symm.trans h.node)⟩

/-! ## Reading -/

theorem afterLoading_of_tightens (h : Tightens d place node) :
    afterLoading d place node = tightened d place node := by
  rw [afterLoading]
  split_ifs with hrefused
  · have htight : node.mode &&& othersMask = 0 := by
      by_contra hopen
      rw [h hopen] at hrefused
      cases hrefused
    rw [tightened, if_pos htight]
  · rfl

/-- The disk after reading, however that ended. -/
theorem disk_of_readEnd (h : ReadEnd d p r d') (hfinds : Finds d p place node) :
    d' = afterLoading d place node := by
  cases h with
  | badPath h => cases hfinds.noFault.symm.trans h
  | nowhere _ h => cases hfinds.stat.symm.trans h
  | unseen _ h => cases hfinds.stat.symm.trans h
  | untightened h _ hrefused =>
      obtain ⟨rfl, rfl⟩ := hfinds.unique h
      rw [afterLoading, hrefused]
      rfl
  | unopened h htightens =>
      obtain ⟨rfl, rfl⟩ := hfinds.unique h
      exact (afterLoading_of_tightens htightens).symm
  | unread h htightens =>
      obtain ⟨rfl, rfl⟩ := hfinds.unique h
      exact (afterLoading_of_tightens htightens).symm
  | read h =>
      obtain ⟨rfl, rfl⟩ := hfinds.unique h.toFinds
      exact (afterLoading_of_tightens h.tightens).symm

theorem disk_of_readEnd_of_nothing (h : ReadEnd d p r d')
    (hnothing : ∀ place node, ¬Finds d p place node) : d' = d := by
  cases h with
  | badPath | nowhere | unseen | untightened => rfl
  | unopened h => exact absurd h (hnothing _ _)
  | unread h => exact absurd h (hnothing _ _)
  | read h => exact absurd h.toFinds (hnothing _ _)

/-! ## The whole of loading -/

/-- The disk after loading, however loading ends. -/
theorem disk_load (s : String) (st : Storage) :
    (load s st).2.disk =
      match found? st.disk s with
      | none => st.disk
      | some (place, node) => afterLoading st.disk place node := by
  cases hp : expandHome st.disk (.ofText s) with
  | error b =>
      have hnone : found? st.disk s = none := by
        rw [found?, hp]
        rfl
      rw [load_of_no_path hp, hnone]
  | ok p =>
      rw [disk_load_of_path hp]
      have hend := readEnd_readFile p st
      cases hfound : found? st.disk s with
      | some found =>
          obtain ⟨place, node⟩ := found
          obtain ⟨p', hp', hfinds⟩ := found?_eq_some_iff.1 hfound
          obtain rfl := Except.ok.inj (hp.symm.trans hp')
          exact disk_of_readEnd hend hfinds
      | none =>
          refine disk_of_readEnd_of_nothing hend fun place node hfinds => ?_
          cases hfound.symm.trans (found?_eq_some_iff.2 ⟨p, hp, hfinds⟩)

/-- Where the rights of others cannot be taken away, loading is refused for that. -/
theorem fst_load_of_refused {e : DiskError} (hp : expandHome st.disk (.ofText s) = .ok p)
    (h : Finds st.disk p place node) (hopen : node.mode &&& othersMask ≠ 0)
    (hrefused : st.disk.host.refuses? .changeMode place = some e) :
    (load s st).1 = .error (refusedFor e [p]) := by
  obtain ⟨log, hread⟩ := readFile_of_readEnd (.untightened h hopen hrefused)
  rw [fst_load, hp]
  dsimp only
  rw [hread]
  rfl

theorem withMode_withMode (mode mode' : Nat) (node : DiskNode) :
    (node.withMode mode).withMode mode' = node.withMode mode' := by
  cases node <;> rfl

/-- Only the mode of what the path leads to is another one. -/
theorem node?_afterLoading (h : d.node? place = some node) (other : Place) :
    ((afterLoading d place node).node? other).map (·.withMode 0) =
      (d.node? other).map (·.withMode 0) := by
  rw [afterLoading, tightened]
  split_ifs
  · rfl
  · rfl
  · by_cases hother : other = place
    · subst hother
      rw [Disk.node?_put_self, h, Option.map_some, Option.map_some, withMode_withMode]
    · rw [Disk.node?_put_of_ne _ hother]

/-- However loading ends, it has changed at most one thing about the disk: the mode of what the path
leads to. If that gives rights to others, then it is the mode of a file for its owner only
afterwards, or else the host does not let the mode be changed; then nothing is changed at all, and
loading is refused for that. The mode of a directory is changed like that of a file. -/
theorem only_mode_after_load (s : String) (st : Storage) :
    (load s st).2.disk.current = st.disk.current ∧ (load s st).2.disk.home = st.disk.home ∧
      (load s st).2.disk.host = st.disk.host ∧
      (∀ other, ((load s st).2.disk.node? other).map (·.withMode 0) =
        (st.disk.node? other).map (·.withMode 0)) ∧
      match found? st.disk s with
      | none => (load s st).2.disk = st.disk
      | some (place, node) =>
        (∀ other, ¬other = place → (load s st).2.disk.node? other = st.disk.node? other) ∧
          (node.mode &&& othersMask = 0 → (load s st).2.disk = st.disk) ∧
          (node.mode &&& othersMask ≠ 0 →
            match st.disk.host.refuses? .changeMode place with
            | none => (load s st).2.disk.node? place = some (node.withMode ownerOnly)
            | some e => (load s st).2.disk = st.disk ∧
                ∃ p, (load s st).1 = .error (refusedFor e [p])) := by
  have hdisk := disk_load s st
  cases hfound : found? st.disk s with
  | none =>
      rw [hfound] at hdisk
      rw [hdisk]
      exact ⟨rfl, rfl, rfl, fun _ => rfl, rfl⟩
  | some found =>
      obtain ⟨place, node⟩ := found
      obtain ⟨p, hp, hfinds⟩ := found?_eq_some_iff.1 hfound
      rw [hfound] at hdisk
      dsimp only at hdisk ⊢
      have hkeeps : st.disk.Keeps (afterLoading st.disk place node) := by
        rw [afterLoading]
        split_ifs
        · exact .rfl
        · exact keeps_tightened hfinds.node
      rw [hdisk]
      refine ⟨hkeeps.current, hkeeps.home, hkeeps.host, node?_afterLoading hfinds.node,
        fun other hother => ?_, fun htight => ?_, fun hopen => ?_⟩
      · rw [afterLoading, tightened]
        split_ifs
        · rfl
        · rfl
        · exact Disk.node?_put_of_ne _ hother
      · rw [afterLoading, tightened, if_pos htight, ite_self]
      · cases hrefused : st.disk.host.refuses? .changeMode place with
        | none =>
            dsimp only
            rw [afterLoading, hrefused, tightened, if_neg hopen]
            exact Disk.node?_put_self _ _ _
        | some e =>
            refine ⟨by rw [afterLoading, hrefused]; rfl, p, ?_⟩
            exact fst_load_of_refused hp hfinds hopen hrefused

/-- A file of another account. -/
def foreignFile : Storage :=
  ⟨⟨[(["conf.toml"], .file .empty 0o644)], [], ⟨"/", ["root"]⟩, { Host.standard with
    refuses? := fun access _ => if access = .changeMode then some .notPermitted else none }⟩, []⟩

/-- The file keeps its mode, and loading is refused for that. -/
example : (load "/conf.toml" foreignFile).1 =
      .error (refusedFor .notPermitted [⟨"/", ["conf.toml"]⟩]) ∧
    ((load "/conf.toml" foreignFile).2.disk.node? ["conf.toml"]).map DiskNode.mode =
      some 0o644 :=
  ⟨rfl, rfl⟩

/-- A directory that was to be loaded can no longer be entered by anyone. -/
theorem load_locks_directory :
    found? soleDirectory.disk "d" = some (["d"], .directory 0o755) ∧
      (load "d" soleDirectory).2.disk.node? ["d"] = some (.directory 0o600) :=
  ⟨rfl, rfl⟩

end

end FleetWarden.Storage
