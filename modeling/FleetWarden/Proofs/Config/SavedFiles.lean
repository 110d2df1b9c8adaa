import FleetWarden.Proofs.Config.Saving

/-!
# The files that a save changes

A save ought to put the new document at its target and to leave every other file alone, and every
file if it fails (`TouchesOnlyTarget`). The file that is written first has the name of the target
with another suffix, and nothing looks whether there is something of that name already. `Spoils`
lists what this comes to. What lay there is lost, whether the save succeeds or not, and what it
leads to if it is a link is written over. Besides, a fault that is none of the disk, or a second one
in the clean-up, leaves the new file behind. In every other case the rule holds, and no directory is
lost in any (`files_after_save`).

## Implementation notes

Where paths lead is said of the disk that the directories above the target were made on, since
before that they lead nowhere.
-/

namespace FleetWarden.Storage

/-- The bytes that a configuration is saved as. -/
structure SavedAs (c : FleetConfig) (host : Host) (document : Toml.Table × String)
    (content : ByteArray) : Prop where
  drafted : documentOf host.limits c = .ok document
  spelled : spell host document = .ok content

/-- A save changes the target and no other file; one that fails changes no file. -/
def TouchesOnlyTarget (c : FleetConfig) (before after : Disk) : Except ConfigFault FilePath → Prop
  | .ok target => ∃ made document content place, before.Grows made ∧
      SavedAs c before.host document content ∧ made.locate target = .ok place ∧
      (∃ mode, after.node? place.dropLast = some (.directory mode)) ∧
      after.leaf? = Function.update before.leaf? place (some (.file content ownerOnly))
  | .error _ => after.leaf? = before.leaf?

/-- What the file that is written first stands for, and where it leads, when the directories above
are made. -/
structure Stands (temp : FilePath) (before made : Disk) (entry beside : Place) : Prop where
  grows : before.Grows made
  locate : made.locate temp = .ok entry
  resolve : made.resolve temp = .ok beside

/-- What a save does to files that are not its target. -/
inductive Spoils (c : FleetConfig) (temp target : FilePath) (before after : Disk) :
    Except ConfigFault FilePath → Prop
  /-- Something was written to, or what it leads to was, and it was then moved to the target. -/
  | lost {made : Disk} {document : Toml.Table × String} {content : ByteArray}
      {entry beside place : Place} {old : DiskNode} (stands : Stands temp before made entry beside)
      (saved : SavedAs c before.host document content) (locate : made.locate target = .ok place)
      (apart : entry ≠ place) (there : before.leaf? entry = some old)
      (files : after.leaf? = Disk.moved
        (Function.update before.leaf? beside (some (draft before beside content))) entry place) :
      Spoils c temp target before after (.ok target)
  /-- The target is itself written first, and it is a link or no plain file. -/
  | through {made : Disk} {document : Toml.Table × String} {content : ByteArray}
      {beside place : Place} {old : DiskNode} (stands : Stands temp before made place beside)
      (saved : SavedAs c before.host document content) (locate : made.locate target = .ok place)
      (there : before.leaf? place = some old) (strange : ∀ content mode, old ≠ .file content mode)
      (files : after.leaf? =
        Function.update before.leaf? beside (some (draft before beside content))) :
      Spoils c temp target before after (.ok target)
  /-- Something was removed when the disk was in the way, perhaps after it was written to or what it
  leads to was. -/
  | lostInVain {made : Disk} {entry : Place} {old : DiskNode} {e : DiskError}
      {paths : List FilePath} (grows : before.Grows made) (locate : made.locate temp = .ok entry)
      (there : before.leaf? entry = some old)
      (files : after.leaf? = Function.update before.leaf? entry none ∨
        ∃ beside node, made.resolve temp = .ok beside ∧ after.leaf? =
          Function.update (Function.update before.leaf? beside (some node)) entry none) :
      Spoils c temp target before after (.error (.refused (.saveFailed (e.message paths) e.kind)))
  /-- The document has no bytes, which is found when the file is open. -/
  | unspelled {made : Disk} {document : Toml.Table × String} {entry beside : Place} {b : Breakdown}
      (stands : Stands temp before made entry beside)
      (drafted : documentOf before.host.limits c = .ok document)
      (h : spell before.host document = .error b)
      (files : after.leaf? = Function.update before.leaf? beside
        (some ((before.slot beside).withContent .empty))) :
      Spoils c temp target before after (.error (.broke b))
  /-- The target cannot be a path, which is found when the document is written. -/
  | badTarget {made : Disk} {document : Toml.Table × String} {content : ByteArray}
      {entry beside : Place} {b : Breakdown} (stands : Stands temp before made entry beside)
      (saved : SavedAs c before.host document content) (h : pathFault? before.host target = some b)
      (files : after.leaf? =
        Function.update before.leaf? beside (some (draft before beside content))) :
      Spoils c temp target before after (.error (.broke b))
  /-- The disk is in the way once more when the file is cleaned up. -/
  | left {made : Disk} {entry beside : Place} {node : DiskNode} {f : ConfigFault} {e : DiskError}
      (stands : Stands temp before made entry beside)
      (refused : before.host.refuses? .look beside = some e ∨
        before.host.refuses? .remove entry = some e)
      (files : after.leaf? = Function.update before.leaf? beside (some node)) :
      Spoils c temp target before after (.error f)

/-- No directory is lost, and none gets another mode. -/
def KeepsDirectories (before after : Disk) : Prop :=
  ∀ place mode, before.node? place = some (.directory mode) →
    after.node? place = some (.directory mode)

/-- What a save does to files and directories. -/
def FilesAfter (c : FleetConfig) (temp target : FilePath) (before : Disk)
    (outcome : Except ConfigFault FilePath) (after : Disk) : Prop :=
  KeepsDirectories before after ∧
    (TouchesOnlyTarget c before after outcome ∨ Spoils c temp target before after outcome)

section
variable {st : Storage} {c : FleetConfig} {temp target : FilePath} {d d' d'' made : Disk}
  {document : Toml.Table × String} {content : ByteArray} {entry beside place : Place}
  {node : DiskNode} {f : ConfigFault} {e : DiskError}

/-! ## Directories -/

theorem KeepsDirectories.trans (h : KeepsDirectories d d') (h' : KeepsDirectories d' d'') :
    KeepsDirectories d d'' := fun place mode hnode => h' place mode (h place mode hnode)

theorem keepsDirectories_of_grows (h : d.Grows d') : KeepsDirectories d d' := fun _ _ hnode =>
  h.node?_eq hnode

theorem keepsDirectories_of_touches (h : d.Touches place node d') : KeepsDirectories d d' :=
  fun _ _ hnode => h.directory hnode

/-- Where a leaf lies there is no directory. -/
theorem not_directory_of_leaf? (h : d.leaf? place = some node) (mode : Nat) :
    d.node? place ≠ some (.directory mode) := by
  intro hdirectory
  cases (Disk.leaf?_of_directory hdirectory).symm.trans h

theorem keepsDirectories_erase (h : d.leaf? place = some node) :
    KeepsDirectories d (d.erase place) := fun _ _ hnode =>
  Disk.node?_directory_erase (not_directory_of_leaf? h) hnode

/-! ## The file that is written first -/

theorem Opened.exists_stands (h : Opened c temp target st d document beside) :
    ∃ entry, Stands temp st.disk d entry beside := by
  obtain ⟨entry, hentry⟩ := Disk.exists_locate_of_resolve h.resolve
  exact ⟨entry, h.toMade.grows, hentry, h.resolve⟩

theorem Opened.slot (h : Opened c temp target st d document beside) :
    d.slot beside = st.disk.slot beside :=
  h.toMade.grows.slot (h.touches .empty).free

theorem Laid.saved (h : Laid c temp target st d document beside content) :
    SavedAs c st.disk.host document content := ⟨h.drafted, h.spelled⟩

theorem Laid.leaf? (h : Laid c temp target st d document beside content) :
    (laid d beside content).leaf? =
      Function.update st.disk.leaf? beside (some (draft st.disk beside content)) := by
  rw [h.touches.leaf?, h.toMade.grows.leaf?, draft, draft, h.toOpened.slot]

/-- What was nothing or a plain file is a plain file with the document. -/
theorem draft_of_plain (hfree : ∀ mode, d.node? place ≠ some (.directory mode))
    (hplain : ∀ node, d.leaf? place = some node → ∃ content mode, node = .file content mode)
    (content : ByteArray) : draft d place content = .file content ownerOnly := by
  cases hnode : d.node? place with
  | none =>
      rw [draft, Disk.slot, hnode]
      rfl
  | some node =>
      have hleaf : d.leaf? place = some node := (Disk.leaf?_of_free hfree).trans hnode
      obtain ⟨old, mode, rfl⟩ := hplain node hleaf
      rw [draft, Disk.slot_of_node? hnode]
      rfl

/-- A draft in the place of nothing or of a plain file. -/
theorem Laid.draft_of_plain (h : Laid c temp target st d document beside content)
    (hplain : ∀ node, st.disk.leaf? beside = some node →
      ∃ content mode, node = .file content mode) :
    draft st.disk beside content = .file content ownerOnly := by
  refine Storage.draft_of_plain (fun mode hdirectory => ?_) hplain content
  exact (h.touches).free mode (h.toMade.grows.node?_eq hdirectory)

/-! ## A save that succeeds -/

/-- The document is moved to the target, unless it lies there already. -/
theorem Laid.of_moveFile (htemp : tempOf target = .ok temp)
    (h : Laid c temp target st d document beside content)
    (hmove : (laid d beside content).moveFile temp target = .ok d') :
    KeepsDirectories st.disk d' ∧ ∃ entry place, Stands temp st.disk d entry beside ∧
      d.locate target = .ok place ∧ (∃ mode, d'.node? place.dropLast = some (.directory mode)) ∧
      d'.leaf? = Disk.moved
        (Function.update st.disk.leaf? beside (some (draft st.disk beside content)))
        entry place := by
  obtain ⟨entry, place, node, hentry, hplace, hname, hnode, hend⟩ := Disk.of_moveFile hmove
  have htouches := h.touches
  have hback : ∀ {p place}, (laid d beside content).locate p = .ok place →
      d.locate p = .ok place := fun hlocate => Disk.lead_of_keeps htouches.keeps_back hlocate
  have hdirectories : KeepsDirectories st.disk (laid d beside content) :=
    (keepsDirectories_of_grows h.toMade.grows).trans (keepsDirectories_of_touches htouches)
  have hresolve : (laid d beside content).resolve temp = .ok beside :=
    Disk.lead_of_keeps htouches.keeps h.resolve
  have hbeside : (laid d beside content).leaf? beside = some (draft d beside content) :=
    Disk.leaf?_eq_some_iff.2 ⟨htouches.node?, htouches.isLeaf⟩
  obtain ⟨node', hleaf⟩ := Disk.exists_leaf?_entry hentry hresolve hbeside
  obtain rfl : node' = node :=
    Option.some.inj ((Disk.leaf?_eq_some_iff.1 hleaf).1.symm.trans hnode)
  have hstands : Stands temp st.disk d entry beside := ⟨h.toMade.grows, hback hentry, h.resolve⟩
  have hmoved : KeepsDirectories (laid d beside content) d' ∧
      d'.leaf? = Disk.moved (laid d beside content).leaf? entry place := by
    obtain ⟨rfl, rfl⟩ | ⟨-, hfree, rfl⟩ := hend
    · exact ⟨fun _ _ hnode => hnode, (Disk.moved_self _ _).symm⟩
    · refine ⟨fun other mode hdirectory => ?_, ?_⟩
      · have herased := keepsDirectories_erase hleaf other mode hdirectory
        rw [← herased]
        exact Disk.node?_put_of_ne _ (Disk.ne_of_directory hfree hdirectory)
      · rw [Disk.leaf?_put _ _ (Disk.leaf?_eq_some_iff.1 hleaf).2, Disk.leaf?_erase, Disk.moved,
          hleaf]
  obtain ⟨hkept, hfiles⟩ := hmoved
  rw [h.leaf?] at hfiles
  obtain ⟨name, hlast, -⟩ := tempOf_eq_ok htemp
  have hup : name ≠ ".." := fun heq => hname (by rw [hlast, heq])
  obtain ⟨mode, hmode⟩ := Disk.directory_of_locate hlast hup hplace
  exact ⟨hdirectories.trans hkept, entry, place, hstands, hback hplace, ⟨mode, hkept _ _ hmode⟩,
    hfiles⟩

/-- What lay at neither name is as it was before. -/
theorem moved_of_missing {files : Place → Option DiskNode} (h : files entry = none) :
    Disk.moved (Function.update files entry (some node)) entry place =
      Function.update files place (some node) := by
  rw [Disk.moved, Function.update_idem, Function.update_self, ← h, Function.update_eq_self]

theorem filesAfter_of_moved (htemp : tempOf target = .ok temp)
    (h : Laid c temp target st d document beside content)
    (hmove : (laid d beside content).moveFile temp target = .ok d') :
    FilesAfter c temp target st.disk (.ok target) d' := by
  obtain ⟨hdirectories, entry, place, hstands, hplace, hmode, hfiles⟩ := h.of_moveFile htemp hmove
  refine ⟨hdirectories, ?_⟩
  have hold : d.leaf? = st.disk.leaf? := h.toMade.grows.leaf?
  cases hthere : st.disk.leaf? entry with
  | none =>
      rw [← hold] at hthere
      obtain rfl := Disk.eq_of_leaf?_eq_none hstands.locate hstands.resolve hthere
      rw [hold] at hthere
      have hdraft := h.draft_of_plain fun node hnode => by cases hthere.symm.trans hnode
      rw [moved_of_missing hthere, hdraft] at hfiles
      exact .inl ⟨d, document, content, place, h.toMade.grows, h.saved, hplace, hmode, hfiles⟩
  | some old =>
      by_cases hsame : entry = place
      · subst hsame
        rw [Disk.moved_self] at hfiles
        by_cases hplain : ∃ content mode, old = .file content mode
        · obtain ⟨before, mode, rfl⟩ := hplain
          have hlink : ∀ target, d.node? entry ≠ some (.link target) := fun target hlink => by
            rw [← hold] at hthere
            cases (Disk.leaf?_eq_some_iff.1 hthere).1.symm.trans hlink
          obtain rfl := Disk.eq_of_not_link hstands.locate hstands.resolve hlink
          have hdraft := h.draft_of_plain fun node hnode =>
            ⟨before, mode, Option.some.inj (hnode.symm.trans hthere)⟩
          rw [hdraft] at hfiles
          exact .inl ⟨d, document, content, entry, h.toMade.grows, h.saved, hplace, hmode, hfiles⟩
        · refine .inr (.through hstands h.saved hplace hthere (fun content mode heq => ?_) hfiles)
          exact hplain ⟨content, mode, heq⟩
      · exact .inr (.lost hstands h.saved hplace hsame hthere hfiles)

/-! ## A save that fails -/

theorem filesAfter_of_grows (h : d.Grows d') (f : ConfigFault) :
    FilesAfter c temp target d (.error f) d' :=
  ⟨keepsDirectories_of_grows h, .inl h.leaf?⟩

/-- What an error of the disk leaves: nothing was opened, or something was written to. -/
inductive LeftOpen (temp : FilePath) (before d : Disk) : Prop
  | unopened (grows : before.Grows d)
  | opened {made : Disk} {entry beside : Place} {node : DiskNode}
      (stands : Stands temp before made entry beside) (touches : made.Touches beside node d)
      (path : pathFault? before.host temp = none)

theorem Opened.leftOpen (h : Opened c temp target st d document beside)
    (htouches : d.Touches beside node d') : LeftOpen temp st.disk d' := by
  obtain ⟨entry, hstands⟩ := h.exists_stands
  exact .opened hstands htouches h.path

theorem leftOpen_of_writeEnd {paths : List FilePath}
    (h : WriteEnd c temp target st (.error (.disk e paths)) d') : LeftOpen temp st.disk d' := by
  cases h with
  | unmade hparent hmade =>
      obtain ⟨made, hgrows, hend⟩ := ensures_makeAbove target st
      rw [hmade] at hend
      obtain hok | ⟨e', paths', herror⟩ := hend
      · cases hok
      · obtain rfl : d' = made := congrArg Storage.disk (Prod.mk.inj herror).2
        exact .unopened hgrows
  | unopened hdrafted => exact .unopened hdrafted.toMade.grows
  | unfilled hopened => exact hopened.leftOpen (hopened.touches _)
  | untightened hfilled => exact hfilled.toOpened.leftOpen (hfilled.touches _)
  | unmoved hlaid => exact hlaid.toOpened.leftOpen hlaid.touches

section Stands
variable (hstands : Stands temp d made entry beside) (htouches : made.Touches beside node d')
include hstands htouches

theorem Stands.host : d'.host = d.host := htouches.host.trans hstands.grows.host

theorem Stands.leaf?_touched : d'.leaf? = Function.update d.leaf? beside (some node) := by
  rw [htouches.leaf?, hstands.grows.leaf?]

theorem Stands.keepsDirectories : KeepsDirectories d d' :=
  (keepsDirectories_of_grows hstands.grows).trans (keepsDirectories_of_touches htouches)

theorem Stands.resolve_touched : d'.resolve temp = .ok beside :=
  Disk.lead_of_keeps htouches.keeps hstands.resolve

theorem Stands.locate_touched : d'.locate temp = .ok entry :=
  Disk.lead_of_keeps htouches.keeps hstands.locate

theorem Stands.exists_leaf? : ∃ node', d'.leaf? entry = some node' :=
  Disk.exists_leaf?_entry (hstands.locate_touched htouches) (hstands.resolve_touched htouches)
    (Disk.leaf?_eq_some_iff.2 ⟨htouches.node?, htouches.isLeaf⟩)

/-- What was written to stays if the clean-up does not get at it. -/
theorem Stands.filesAfter_of_left (f : ConfigFault) (h : d.host.refuses? .look beside = some e ∨
    d.host.refuses? .remove entry = some e) : FilesAfter c temp target d (.error f) d' :=
  ⟨hstands.keepsDirectories htouches, .inr (.left hstands h (hstands.leaf?_touched htouches))⟩

theorem Stands.filesAfter_of_stat (f : ConfigFault) (h : d'.stat temp = .error e) :
    FilesAfter c temp target d (.error f) d' := by
  have hlook := Disk.refuses_of_stat (hstands.resolve_touched htouches) htouches.node? h
  rw [hstands.host htouches] at hlook
  exact hstands.filesAfter_of_left htouches f (.inl hlook)

theorem Stands.filesAfter_of_removed {paths : List FilePath} (h : d'.removeFile temp = .ok d'') :
    FilesAfter c temp target d (.error (.refused (.saveFailed (e.message paths) e.kind))) d'' := by
  obtain ⟨removed, node', hlocate, hleaf, -, rfl⟩ := Disk.removeFile_eq_ok_iff.1 h
  obtain rfl : removed = entry :=
    Except.ok.inj (hlocate.symm.trans (hstands.locate_touched htouches))
  have hfiles : (d'.erase removed).leaf? =
      Function.update (Function.update d.leaf? beside (some node)) removed none := by
    rw [Disk.leaf?_erase, hstands.leaf?_touched htouches]
  refine ⟨(hstands.keepsDirectories htouches).trans (keepsDirectories_erase hleaf), ?_⟩
  cases hthere : d.leaf? removed with
  | some old =>
      exact .inr (.lostInVain hstands.grows hstands.locate hthere
        (.inr ⟨beside, node, hstands.resolve, hfiles⟩))
  | none =>
      have hmade : made.leaf? removed = none := by rw [hstands.grows.leaf?, hthere]
      obtain rfl := Disk.eq_of_leaf?_eq_none hstands.locate hstands.resolve hmade
      rw [Function.update_idem, ← hthere, Function.update_eq_self] at hfiles
      exact .inl hfiles

end Stands

/-- Removing what was not opened loses it. -/
theorem filesAfter_of_removed {paths : List FilePath} (hgrows : d.Grows d')
    (h : d'.removeFile temp = .ok d'') :
    FilesAfter c temp target d (.error (.refused (.saveFailed (e.message paths) e.kind))) d'' := by
  obtain ⟨entry, node, hlocate, hleaf, -, rfl⟩ := Disk.removeFile_eq_ok_iff.1 h
  refine ⟨(keepsDirectories_of_grows hgrows).trans (keepsDirectories_erase hleaf), ?_⟩
  have hfiles : (d'.erase entry).leaf? = Function.update d.leaf? entry none := by
    rw [Disk.leaf?_erase, hgrows.leaf?]
  rw [hgrows.leaf?] at hleaf
  exact .inr (.lostInVain hgrows hlocate hleaf (.inl hfiles))

/-- The clean-up that ends well. -/
theorem filesAfter_of_cleared {paths : List FilePath} (h : LeftOpen temp st.disk d)
    (hclear : ClearEnd d temp (.ok ()) d') :
    FilesAfter c temp target st.disk
      (.error (.refused (.saveFailed (e.message paths) e.kind))) d' := by
  cases h with
  | unopened hgrows =>
      cases hclear with
      | badPath | absent => exact filesAfter_of_grows hgrows _
      | removed _ _ hremove => exact filesAfter_of_removed hgrows hremove
  | opened hstands htouches hpath =>
      cases hclear with
      | badPath h =>
          rw [hstands.host htouches, hpath] at h
          cases h
      | absent _ h => exact hstands.filesAfter_of_stat htouches _ h
      | removed _ _ hremove => exact hstands.filesAfter_of_removed htouches hremove

/-- The clean-up that the disk is in the way of. -/
theorem filesAfter_of_uncleared (h : LeftOpen temp st.disk d)
    (hclear : ClearEnd d temp (.error f) d') : FilesAfter c temp target st.disk (.error f) d' := by
  cases h with
  | unopened hgrows => cases hclear <;> exact filesAfter_of_grows hgrows _
  | opened hstands htouches hpath =>
      cases hclear with
      | unseen _ h => exact hstands.filesAfter_of_stat htouches _ h
      | unremoved _ _ h =>
          obtain ⟨node', hleaf⟩ := hstands.exists_leaf? htouches
          have hremove :=
            Disk.refuses_of_removeFile (hstands.locate_touched htouches) hleaf h
          rw [hstands.host htouches] at hremove
          exact hstands.filesAfter_of_left htouches _ (.inr hremove)

/-- A fault that is none of the disk leaves what was written. -/
theorem filesAfter_of_other (h : WriteEnd c temp target st (.error (.other f)) d') :
    FilesAfter c temp target st.disk (.error f) d' := by
  cases h with
  | badParent => exact filesAfter_of_grows .rfl _
  | noDocument hmade => exact filesAfter_of_grows hmade.grows _
  | badTemp hmade => exact filesAfter_of_grows hmade.grows _
  | unspelled hopened h =>
      obtain ⟨entry, hstands⟩ := hopened.exists_stands
      have htouches := hopened.touches .empty
      have hfiles := hstands.leaf?_touched htouches
      rw [hopened.slot] at hfiles
      exact ⟨hstands.keepsDirectories htouches,
        .inr (.unspelled hstands hopened.drafted h hfiles)⟩
  | badTarget hlaid h =>
      obtain ⟨entry, hstands⟩ := hlaid.toOpened.exists_stands
      exact ⟨hstands.keepsDirectories hlaid.touches,
        .inr (.badTarget hstands hlaid.saved h hlaid.leaf?)⟩

/-! ## Every end of a save -/

theorem filesAfter_of_saveEnd {r : Except ConfigFault FilePath} (htemp : tempOf target = .ok temp)
    (h : SaveEnd c temp target st r d') : FilesAfter c temp target st.disk r d' := by
  cases h with
  | saved h =>
      cases h with
      | moved hlaid _ hmove => exact filesAfter_of_moved htemp hlaid hmove
  | failed h => exact filesAfter_of_other h
  | refused h hclear => exact filesAfter_of_cleared (leftOpen_of_writeEnd h) hclear
  | uncleared h hclear => exact filesAfter_of_uncleared (leftOpen_of_writeEnd h) hclear

end

/-- A disk with a file of notes that is named like a configuration but for its suffix. -/
def notesBeside : Storage :=
  ⟨⟨[(["conf.tmp"], .file "notes".toUTF8 0o644)], [], ⟨"/", ["root"]⟩, .standard⟩, []⟩

/-- The notes in a directory that nothing can be moved or removed in. -/
def stuckNotes : Storage :=
  ⟨⟨notesBeside.disk.nodes, [], ⟨"/", ["root"]⟩, { Host.standard with
    refuses? := fun access _ => match access with
      | .move _ | .remove => some .denied
      | _ => none }⟩, []⟩

/-- The notes are written over, and what the save breaks off with is the error of the clean-up. -/
example :
    (save .default (some "conf.toml") stuckNotes).1 =
        .error (.broke (unforeseen .denied ⟨"", ["conf.tmp"]⟩)) ∧
      ((save .default (some "conf.toml") stuckNotes).2.disk.leaf? ["conf.tmp"]).map DiskNode.mode =
        some 0o600 :=
  ⟨by decide +kernel, by decide +kernel⟩

end FleetWarden.Storage
