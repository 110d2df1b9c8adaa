import FleetWarden.Proofs.Config.Documents
import FleetWarden.Proofs.Config.Saving

/-!
# Bad saves

A save that the disk does not allow should be refused in plain words, with the error of the disk as
its cause. Some faults get past this guard: the paths are found before it is set up, a text that is
no path or has no bytes is no matter for the disk, and a configuration may have no document. Above
all, the clean-up works on the disk itself: what keeps the file from being written may keep it from
being cleaned up too, and that error takes the place of the refusal. `SaveBreaks` lists these cases,
and nothing else breaks off a save (`save_breaks_iff`). A refusal is always for an error of the disk
that `WriteEnd` tells where it came from.

## Implementation notes

The cases speak of the disk that the directories above the target were made on, since making them
may put a directory where the file ought to be written, as it does for `c.tmp/../c.toml`.
-/

namespace FleetWarden.Storage

/-- What breaks off a save when its paths are found. -/
inductive PathBreaks (c : FleetConfig) (temp target : FilePath) (st : Storage) : Breakdown → Prop
  | badParent {b : Breakdown} (h : pathFault? st.disk.host target.parent = some b) :
      PathBreaks c temp target st b
  | noDocument {d : Disk} {b : Breakdown} (made : Made target st d)
      (h : DocumentBreaks st.disk.host.limits c b) : PathBreaks c temp target st b
  | badTemp {d : Disk} {document : Toml.Table × String} {b : Breakdown} (made : Made target st d)
      (drafted : documentOf st.disk.host.limits c = .ok document)
      (h : pathFault? st.disk.host temp = some b) : PathBreaks c temp target st b
  | unspelled {d : Disk} {document : Toml.Table × String} {beside : Place} {b : Breakdown}
      (opened : Opened c temp target st d document beside)
      (h : spell st.disk.host document = .error b) : PathBreaks c temp target st b
  | badTarget {d : Disk} {document : Toml.Table × String} {beside : Place} {content : ByteArray}
      {b : Breakdown} (ready : Laid c temp target st d document beside content)
      (h : pathFault? st.disk.host target = some b) : PathBreaks c temp target st b
  /-- The disk was in the way, and it cannot be seen whether there is something to clean up. -/
  | unseen {e e' : DiskError} {paths : List FilePath} {d : Disk}
      (blocked : WriteEnd c temp target st (.error (.disk e paths)) d)
      (path : pathFault? d.host temp = none) (h : d.stat temp = .error e')
      (present : e'.isAbsence = false) : PathBreaks c temp target st (unforeseen e' temp)
  /-- The disk was in the way, and what lies beside the target cannot be cleaned up. -/
  | unremoved {e e' : DiskError} {paths : List FilePath} {d : Disk} {node : DiskNode}
      (blocked : WriteEnd c temp target st (.error (.disk e paths)) d)
      (path : pathFault? d.host temp = none) (there : d.stat temp = .ok node)
      (h : d.removeFile temp = .error e') : PathBreaks c temp target st (unforeseen e' temp)

/-- All that breaks off a save. -/
inductive SaveBreaks (c : FleetConfig) (path : Option String) (st : Storage) : Breakdown → Prop
  | noTarget {s : String} {b : Breakdown} (h : path = some s) (hs : s ≠ "")
      (hhome : expandHome st.disk (.ofText s) = .error b) : SaveBreaks c path st b
  | noName {target : FilePath} (h : (targetOf path st).1 = .ok target)
      (hname : target.name? = none) :
      SaveBreaks c path st (.badPath ("PosixPath(" ++ target.quoted ++ ") has an empty name"))
  | paths {target temp : FilePath} {b : Breakdown} (h : (targetOf path st).1 = .ok target)
      (htemp : tempOf target = .ok temp) (hb : PathBreaks c temp target st b) :
      SaveBreaks c path st b

/-- The errors of the disk that a save is refused for, with the paths that they name. -/
structure SaveRefuses (c : FleetConfig) (path : Option String) (st : Storage) (e : DiskError)
    (paths : List FilePath) : Prop where
  blocked : ∃ target temp d d', (targetOf path st).1 = .ok target ∧ tempOf target = .ok temp ∧
    WriteEnd c temp target st (.error (.disk e paths)) d ∧ ClearEnd d temp (.ok ()) d'

/-- The ends that are foreseen: an answer, or a refusal that names an error of the disk. -/
inductive Plain {α : Type} (Answers : α → Prop) (Refuses : DiskError → List FilePath → Prop) :
    Except ConfigFault α → Prop
  | done {a : α} (h : Answers a) : Plain Answers Refuses (.ok a)
  | refused {e : DiskError} {paths : List FilePath} (h : Refuses e paths) :
      Plain Answers Refuses (.error (.refused (.saveFailed (e.message paths) e.kind)))

section
variable {st : Storage} {c : FleetConfig} {path : Option String} {temp target : FilePath}
  {d d' : Disk} {f : ConfigFault} {b : Breakdown} {r : Except ConfigFault FilePath}

/-! ## The ends that break off -/

theorem exists_broke_of_clearEnd (h : ClearEnd d temp (.error f) d') :
    ∃ b, f = .broke b := by
  cases h with
  | unseen | unremoved => exact ⟨_, rfl⟩

/-- Whatever is wrong apart from the disk breaks off. -/
theorem exists_broke_of_writeEnd (h : WriteEnd c temp target st (.error (.other f)) d) :
    ∃ b, f = .broke b ∧ PathBreaks c temp target st b := by
  cases h with
  | badParent h => exact ⟨_, rfl, .badParent h⟩
  | noDocument hmade h =>
      obtain ⟨b, rfl, hb⟩ := documentOf_eq_error_iff.1 h
      exact ⟨b, rfl, .noDocument hmade hb⟩
  | badTemp hmade hdrafted h => exact ⟨_, rfl, .badTemp hmade hdrafted h⟩
  | unspelled hopened h => exact ⟨_, rfl, .unspelled hopened h⟩
  | badTarget hready h => exact ⟨_, rfl, .badTarget hready h⟩

theorem pathBreaks_of_clearEnd {e : DiskError} {paths : List FilePath}
    (h : WriteEnd c temp target st (.error (.disk e paths)) d)
    (hclear : ClearEnd d temp (.error (.broke b)) d') : PathBreaks c temp target st b := by
  cases hclear with
  | unseen hpath hstat hpresent => exact .unseen h hpath hstat hpresent
  | unremoved hpath hthere hremove => exact .unremoved h hpath hthere hremove

/-- What breaks off a save comes about. -/
theorem exists_saveEnd_of_pathBreaks (h : PathBreaks c temp target st b) :
    ∃ d, SaveEnd c temp target st (.error (.broke b)) d := by
  cases h with
  | badParent h => exact ⟨_, .failed (.badParent h)⟩
  | noDocument hmade h =>
      exact ⟨_, .failed (.noDocument hmade (documentOf_eq_error_iff.2 ⟨b, rfl, h⟩))⟩
  | badTemp hmade hdrafted h => exact ⟨_, .failed (.badTemp hmade hdrafted h)⟩
  | unspelled hopened h => exact ⟨_, .failed (.unspelled hopened h)⟩
  | badTarget hready h => exact ⟨_, .failed (.badTarget hready h)⟩
  | unseen hblocked hpath h hpresent => exact ⟨_, .uncleared hblocked (.unseen hpath h hpresent)⟩
  | unremoved hblocked hpath hthere h => exact ⟨_, .uncleared hblocked (.unremoved hpath hthere h)⟩

/-! ## Saving -/

theorem fst_targetOf_eq_error_iff :
    (targetOf path st).1 = .error f ↔ ∃ s b, path = some s ∧ s ≠ "" ∧
      expandHome st.disk (.ofText s) = .error b ∧ f = .broke b := by
  cases path with
  | none => simp [targetOf]
  | some s =>
      rw [targetOf]
      split_ifs with hempty
      · simp [hempty]
      · rw [pathOf]
        cases hhome : expandHome st.disk (.ofText s) with
        | error b => simp [hempty, hhome, Except.mapError, eq_comm (a := f)]
        | ok p => simp [hempty, hhome, Except.mapError]

theorem tempOf_eq_error_iff :
    tempOf target = .error f ↔ target.name? = none ∧
      f = .broke (.badPath ("PosixPath(" ++ target.quoted ++ ") has an empty name")) := by
  rw [tempOf, FilePath.withSuffix?]
  cases target.name? with
  | none => simp [eq_comm]
  | some name => simp

theorem save_of_saveBreaks (h : SaveBreaks c path st b) :
    (save c path st).1 = .error (.broke b) := by
  cases h with
  | noTarget h hs hhome =>
      rw [save_of_no_target (fst_targetOf_eq_error_iff.2 ⟨_, b, h, hs, hhome, rfl⟩)]
  | noName h hname => rw [save_of_no_temp h (tempOf_eq_error_iff.2 ⟨hname, rfl⟩)]
  | paths h htemp hb =>
      obtain ⟨d, hend⟩ := exists_saveEnd_of_pathBreaks hb
      rw [save_of_paths h htemp]
      exact congrArg Prod.fst (saveTo_of_saveEnd hend)

theorem plain_or_pathBreaks (htarget : (targetOf path st).1 = .ok target)
    (htemp : tempOf target = .ok temp) (h : SaveEnd c temp target st r d) :
    Plain (fun target => (targetOf path st).1 = .ok target) (SaveRefuses c path st) r ∨
      ∃ b, PathBreaks c temp target st b := by
  cases h with
  | saved => exact .inl (.done htarget)
  | failed h =>
      obtain ⟨b, -, hb⟩ := exists_broke_of_writeEnd h
      exact .inr ⟨b, hb⟩
  | refused h hclear => exact .inl (.refused ⟨target, temp, _, _, htarget, htemp, h, hclear⟩)
  | uncleared h hclear =>
      obtain ⟨b, rfl⟩ := exists_broke_of_clearEnd hclear
      exact .inr ⟨b, pathBreaks_of_clearEnd h hclear⟩

theorem plain_or_saveBreaks (c : FleetConfig) (path : Option String) (st : Storage) :
    Plain (fun target => (targetOf path st).1 = .ok target) (SaveRefuses c path st)
        (save c path st).1 ∨
      ∃ b, SaveBreaks c path st b := by
  obtain ⟨f, -, hpaths⟩ | ⟨target, temp, r, d, htarget, htemp, hend, hsave⟩ := save_cases c path st
  · right
    obtain htarget | ⟨target, htarget, htemp⟩ := hpaths
    · obtain ⟨s, b, hs, hne, hhome, rfl⟩ := fst_targetOf_eq_error_iff.1 htarget
      exact ⟨b, .noTarget hs hne hhome⟩
    · obtain ⟨hname, rfl⟩ := tempOf_eq_error_iff.1 htemp
      exact ⟨_, .noName htarget hname⟩
  · obtain ⟨rfl, rfl⟩ := Prod.mk.inj hsave
    obtain hplain | ⟨b, hb⟩ := plain_or_pathBreaks htarget htemp hend
    · exact .inl hplain
    · exact .inr ⟨b, .paths htarget htemp hb⟩

/-- A save breaks off in the cases that are listed and in no other. In all other cases it answers
with its target, or is refused for the error that the disk had while the document was written or
moved, after which the clean-up ended well; the refusal tells that error and names it as its
cause. -/
theorem save_breaks_iff (c : FleetConfig) (path : Option String) (st : Storage) :
    (∀ b, (save c path st).1 = .error (.broke b) ↔ SaveBreaks c path st b) ∧
      (Plain (fun target => (targetOf path st).1 = .ok target) (SaveRefuses c path st)
          (save c path st).1 ∨
        ∃ b, SaveBreaks c path st b) := by
  have hends := plain_or_saveBreaks c path st
  refine ⟨fun b => ⟨fun h => ?_, save_of_saveBreaks⟩, hends⟩
  rcases hends with hplain | ⟨b', hb⟩
  · rw [h] at hplain
    cases hplain
  · cases (save_of_saveBreaks hb).symm.trans h
    exact hb

/-! ## Directories in the way -/

theorem openToWrite_of_directory {place : Place} {mode : Nat}
    (hresolve : d.resolve temp = .ok place) (hnode : d.node? place = some (.directory mode)) :
    d.openToWrite temp = .error .isDirectory := by
  refine except_bind_eq_error_iff.2 (.inr ⟨place, hresolve, ?_⟩)
  rw [hnode]
  rfl

theorem exists_removeFile_error_of_directory {place : Place} {mode : Nat}
    (hlocate : d.locate temp = .ok place) (hnode : d.node? place = some (.directory mode)) :
    ∃ e, d.removeFile temp = .error e := by
  cases hremove : d.removeFile temp with
  | error e => exact ⟨e, rfl⟩
  | ok d' =>
      obtain ⟨entry, node, hentry, hleaf, -⟩ := Disk.removeFile_eq_ok_iff.1 hremove
      obtain rfl : entry = place := Except.ok.inj (hentry.symm.trans hlocate)
      cases (Disk.leaf?_of_directory hnode).symm.trans hleaf

/-- A directory of the name that is written first breaks off every save that comes to writing. -/
theorem save_of_directory {document : Toml.Table × String} {place : Place} {mode : Nat}
    (htarget : (targetOf path st).1 = .ok target) (htemp : tempOf target = .ok temp)
    (h : Drafted c temp target st d document) (hlocate : d.locate temp = .ok place)
    (hnode : d.node? place = some (.directory mode))
    (hlook : d.host.refuses? .look place = none) :
    ∃ e, (save c path st).1 = .error (.broke (unforeseen e temp)) := by
  have hresolve : d.resolve temp = .ok place :=
    Disk.resolve_of_locate (fun target hlink => by cases hnode.symm.trans hlink) hlocate
  have hpath : pathFault? d.host temp = none := by rw [h.toMade.host, h.path]
  obtain ⟨e, hremove⟩ := exists_removeFile_error_of_directory hlocate hnode
  refine ⟨e, save_of_saveBreaks (.paths htarget htemp ?_)⟩
  exact .unremoved (.unopened h (openToWrite_of_directory hresolve hnode)) hpath
    (Disk.stat_eq_ok_iff.2 ⟨place, hresolve, hnode, hlook⟩) hremove

end

/-- A configuration with nothing but what is required. -/
def sparseConfig : FleetConfig :=
  { FleetConfig.default with subscriptionId := .text "sub", resourceGroup := .text "rg" }

/-- A disk with a directory that is named like a configuration but for its suffix. -/
def directoryBeside : Storage :=
  ⟨⟨[(["conf.tmp"], .directory 0o755)], [], ⟨"/", ["root"]⟩, .standard⟩, []⟩

/-- The directory stops an accepted configuration from being saved, and the clean-up hides why. -/
theorem save_stopped_by_directory :
    sparseConfig.check = .ok () ∧
      (save sparseConfig (some "conf.toml") directoryBeside).1 =
        .error (.broke (.system (.other "IsADirectoryError")
          "[Errno 21] Is a directory: 'conf.tmp'")) ∧
      ¬ Plain (fun _ => True) (fun _ _ => True)
        (save sparseConfig (some "conf.toml") directoryBeside).1 := by
  have hsave : (save sparseConfig (some "conf.toml") directoryBeside).1 =
      .error (.broke (.system (.other "IsADirectoryError")
        "[Errno 21] Is a directory: 'conf.tmp'")) := by
    decide +kernel
  refine ⟨by decide +kernel, hsave, fun hplain => ?_⟩
  rw [hsave] at hplain
  cases hplain

end FleetWarden.Storage
