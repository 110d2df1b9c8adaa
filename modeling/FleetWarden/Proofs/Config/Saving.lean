import FleetWarden.Config.Storage
import FleetWarden.Proofs.Disk.Files

/-!
# How a save ends

A save first makes the directories above its target, then writes the document of the configuration
to the file beside the target, and moves that file last. `WriteEnd` lists where this can come to an
end, with the disk that each end leaves. If the disk was in the way, what lies beside the target is
cleaned up after that; `ClearEnd` lists how the clean-up can end. Both lists are complete
(`writeEnd_writeVia`, `exists_clearEnd`), and every end in them comes about as it says
(`writeVia_of_writeEnd`, `cleanUp_of_clearEnd`), so a save comes to one of the ends of `SaveEnd` and
to no other.
-/

namespace FleetWarden.Storage

section
variable {st st' : Storage} {c : FleetConfig} {p temp target : FilePath} {d d' : Disk}
  {e : DiskError} {b : Breakdown}

/-! ## Making directories -/

/-- Directories are made until they are all there or the disk is in the way. -/
def Ensures (x : SaveAct Unit) : Prop :=
  ∀ st, ∃ d, st.disk.Grows d ∧ (x st = (.ok (), { st with disk := d }) ∨
    ∃ e paths, x st = (.error (.disk e paths), { st with disk := d }))

theorem Ensures.andThen {x y : SaveAct Unit} (hx : Ensures x) (hy : Ensures y) :
    Ensures (do x; y) := by
  intro st
  obtain ⟨d, hgrows, hok | ⟨e, paths, herror⟩⟩ := hx st
  · obtain ⟨d', hgrows', hend⟩ := hy { st with disk := d }
    refine ⟨d', hgrows.trans hgrows', ?_⟩
    rwa [Action.bind_of_ok hok]
  · exact ⟨d, hgrows, .inr ⟨e, paths, Action.bind_of_error herror⟩⟩

theorem ensures_ensureDirectory (p : FilePath) : Ensures (ensureDirectory p) := by
  intro st
  rw [ensureDirectory]
  cases hmade : st.disk.makeDirectory p with
  | ok d => exact ⟨d, Disk.grows_makeDirectory hmade, .inl rfl⟩
  | error e =>
      refine ⟨st.disk, .rfl, ?_⟩
      dsimp only
      split_ifs
      · exact .inr ⟨e, [p], rfl⟩
      · rcases st.disk.isDirectory p with e' | _ | _
        · exact .inr ⟨e', [p], rfl⟩
        · exact .inr ⟨e, [p], rfl⟩
        · exact .inl rfl

theorem ensures_ensureDirectories (n : Nat) (p : FilePath) : Ensures (ensureDirectories n p) := by
  induction n generalizing p with
  | zero => exact ensures_ensureDirectory p
  | succ n ih =>
      intro st
      rw [ensureDirectories]
      dsimp only
      split
      · split_ifs
        · exact (ih p.parent).andThen (ensures_ensureDirectory p) st
        · exact ensures_ensureDirectory p st
      · exact ensures_ensureDirectory p st

/-- Makes the directories above a path. -/
def makeAbove (target : FilePath) : SaveAct Unit :=
  ensureDirectories target.parent.parts.length target.parent

theorem ensures_makeAbove (target : FilePath) : Ensures (makeAbove target) :=
  ensures_ensureDirectories _ _

/-! ## The ends of writing -/

/-- What lies at a place after a document was written to it, for nobody but the owner to read. -/
def draft (d : Disk) (place : Place) (content : ByteArray) : DiskNode :=
  ((d.slot place).withContent content).withMode ownerOnly

/-- The disk with a document written to a place. -/
def laid (d : Disk) (place : Place) (content : ByteArray) : Disk :=
  d.put place (draft d place content)

/-- The directories above the target are there. -/
structure Made (target : FilePath) (st : Storage) (d : Disk) : Prop where
  parent : pathFault? st.disk.host target.parent = none
  made : makeAbove target st = (.ok (), { st with disk := d })

/-- The document is known, and the file beside the target can be opened or not. -/
structure Drafted (c : FleetConfig) (temp target : FilePath) (st : Storage) (d : Disk)
    (document : Toml.Table × String) : Prop extends Made target st d where
  drafted : documentOf st.disk.host.limits c = .ok document
  path : pathFault? st.disk.host temp = none

/-- The file beside the target is open. -/
structure Opened (c : FleetConfig) (temp target : FilePath) (st : Storage) (d : Disk)
    (document : Toml.Table × String) (beside : Place) : Prop
    extends Drafted c temp target st d document where
  opened : d.openToWrite temp = .ok (beside, d.written beside .empty)

/-- The document is written to the file beside the target. -/
structure Filled (c : FleetConfig) (temp target : FilePath) (st : Storage) (d : Disk)
    (document : Toml.Table × String) (beside : Place) (content : ByteArray) : Prop
    extends Opened c temp target st d document beside where
  spelled : spell st.disk.host document = .ok content
  whole : st.disk.host.cutsShort? beside content = none

/-- The file beside the target can be moved or not. -/
structure Laid (c : FleetConfig) (temp target : FilePath) (st : Storage) (d : Disk)
    (document : Toml.Table × String) (beside : Place) (content : ByteArray) : Prop
    extends Filled c temp target st d document beside content where
  allowed : st.disk.host.refuses? .changeMode beside = none

/-- The ends that writing and moving can come to, with the disks that they leave. -/
inductive WriteEnd (c : FleetConfig) (temp target : FilePath) (st : Storage) :
    Except SaveFault Unit → Disk → Prop
  | badParent {b : Breakdown} (h : pathFault? st.disk.host target.parent = some b) :
      WriteEnd c temp target st (.error (.other (.broke b))) st.disk
  | unmade {e : DiskError} {paths : List FilePath} {d : Disk}
      (parent : pathFault? st.disk.host target.parent = none)
      (h : makeAbove target st = (.error (.disk e paths), { st with disk := d })) :
      WriteEnd c temp target st (.error (.disk e paths)) d
  | noDocument {d : Disk} {f : ConfigFault} (made : Made target st d)
      (h : documentOf st.disk.host.limits c = .error f) :
      WriteEnd c temp target st (.error (.other f)) d
  | badTemp {d : Disk} {document : Toml.Table × String} {b : Breakdown} (made : Made target st d)
      (drafted : documentOf st.disk.host.limits c = .ok document)
      (h : pathFault? st.disk.host temp = some b) :
      WriteEnd c temp target st (.error (.other (.broke b))) d
  | unopened {d : Disk} {document : Toml.Table × String} {e : DiskError}
      (drafted : Drafted c temp target st d document) (h : d.openToWrite temp = .error e) :
      WriteEnd c temp target st (.error (.disk e [temp])) d
  | unspelled {d : Disk} {document : Toml.Table × String} {beside : Place} {b : Breakdown}
      (opened : Opened c temp target st d document beside)
      (h : spell st.disk.host document = .error b) :
      WriteEnd c temp target st (.error (.other (.broke b))) (d.written beside .empty)
  | unfilled {d : Disk} {document : Toml.Table × String} {beside : Place} {content : ByteArray}
      {e : DiskError} {n : Nat} (opened : Opened c temp target st d document beside)
      (spelled : spell st.disk.host document = .ok content)
      (h : st.disk.host.cutsShort? beside content = some (e, n)) :
      WriteEnd c temp target st (.error (.disk e [])) (d.written beside (content.extract 0 n))
  | untightened {d : Disk} {document : Toml.Table × String} {beside : Place} {content : ByteArray}
      {e : DiskError} (filled : Filled c temp target st d document beside content)
      (h : st.disk.host.refuses? .changeMode beside = some e) :
      WriteEnd c temp target st (.error (.disk e [temp])) (d.written beside content)
  | badTarget {d : Disk} {document : Toml.Table × String} {beside : Place} {content : ByteArray}
      {b : Breakdown} (ready : Laid c temp target st d document beside content)
      (h : pathFault? st.disk.host target = some b) :
      WriteEnd c temp target st (.error (.other (.broke b))) (laid d beside content)
  | unmoved {d : Disk} {document : Toml.Table × String} {beside : Place} {content : ByteArray}
      {e : DiskError} (ready : Laid c temp target st d document beside content)
      (path : pathFault? st.disk.host target = none)
      (h : (laid d beside content).moveFile temp target = .error e) :
      WriteEnd c temp target st (.error (.disk e [temp, target])) (laid d beside content)
  | moved {d d' : Disk} {document : Toml.Table × String} {beside : Place} {content : ByteArray}
      (ready : Laid c temp target st d document beside content)
      (path : pathFault? st.disk.host target = none)
      (h : (laid d beside content).moveFile temp target = .ok d') :
      WriteEnd c temp target st (.ok ()) d'

/-! ## The steps of writing -/

theorem requirePath_of_none (h : pathFault? st.disk.host p = none) :
    requirePath p st = (.ok (), st) := by
  rw [requirePath, h]

theorem requirePath_of_some (h : pathFault? st.disk.host p = some b) :
    requirePath p st = (.error (.other (.broke b)), st) := by
  rw [requirePath, h]

theorem supplied_of_ok {α : Type} {f : Host → Except ConfigFault α} {a : α}
    (h : f st.disk.host = .ok a) : supplied f st = (.ok a, st) := by
  rw [supplied, h]
  rfl

theorem supplied_of_error {α : Type} {f : Host → Except ConfigFault α} {fault : ConfigFault}
    (h : f st.disk.host = .error fault) : supplied f st = (.error (.other fault), st) := by
  rw [supplied, h]
  rfl

theorem changing_of_ok {paths : List FilePath} {f : Disk → Except DiskError Disk}
    (h : f st.disk = .ok d) : changing paths f st = (.ok (), { st with disk := d }) := by
  rw [changing, h]

theorem changing_of_error {paths : List FilePath} {f : Disk → Except DiskError Disk}
    (h : f st.disk = .error e) : changing paths f st = (.error (.disk e paths), st) := by
  rw [changing, h]

theorem opening_of_error (h : st.disk.openToWrite p = .error e) :
    opening p st = (.error (.disk e [p]), st) := by
  rw [opening, h]

/-- Moves the file beside the target when it is written. -/
def moveOver (temp target : FilePath) : SaveAct Unit := do
  changing [temp] (·.changeMode temp ownerOnly)
  requirePath target
  changing [temp, target] (·.moveFile temp target)

/-- Writes a document beside the target and moves it. -/
def writeBeside (temp target : FilePath) (document : Toml.Table × String) : SaveAct Unit := do
  let place ← opening temp
  let content ← supplied fun host => (spell host document).mapError .broke
  filling place content
  moveOver temp target

theorem Made.grows (h : Made target st d) : st.disk.Grows d := by
  obtain ⟨d', hgrows, hend⟩ := ensures_makeAbove target st
  rw [h.made] at hend
  obtain hsame | ⟨e, paths, herror⟩ := hend
  · obtain rfl : d = d' := congrArg disk (Prod.mk.inj hsame).2
    exact hgrows
  · cases herror

theorem Made.host (h : Made target st d) : d.host = st.disk.host := h.grows.host

section Steps
variable {document : Toml.Table × String} {beside : Place} {content : ByteArray}

theorem Made.writeVia_eq (h : Made target st d) (c : FleetConfig) :
    writeVia temp target c st = (do
      let document ← supplied fun host => documentOf host.limits c
      requirePath temp
      writeBeside temp target document) { st with disk := d } := by
  rw [writeVia, Action.bind_of_ok (requirePath_of_none h.parent)]
  exact Action.bind_of_ok h.made

theorem Made.supplied_document (h : Made target st d)
    (hdocument : documentOf st.disk.host.limits c = .ok document) :
    supplied (fun host => documentOf host.limits c) { st with disk := d } =
      (.ok document, { st with disk := d }) := by
  rw [← h.host] at hdocument
  exact supplied_of_ok hdocument

theorem Drafted.writeVia_eq (h : Drafted c temp target st d document) :
    writeVia temp target c st = writeBeside temp target document { st with disk := d } := by
  have htemp := h.path
  rw [← h.host] at htemp
  rw [h.toMade.writeVia_eq c, Action.bind_of_ok (h.supplied_document h.drafted),
    Action.bind_of_ok (requirePath_of_none htemp)]

theorem Opened.touches (h : Opened c temp target st d document beside) (content : ByteArray) :
    d.Touches beside ((d.slot beside).withContent content) (d.written beside content) :=
  Disk.touches_written h.opened content

theorem Opened.resolve (h : Opened c temp target st d document beside) :
    d.resolve temp = .ok beside :=
  (Disk.touches_of_openToWrite h.opened).1

theorem Opened.host (h : Opened c temp target st d document beside) (content : ByteArray) :
    (d.written beside content).host = st.disk.host :=
  (h.touches content).host.trans h.toMade.host

theorem Opened.writeVia_eq (h : Opened c temp target st d document beside) :
    writeVia temp target c st = (do
      let content ← supplied fun host => (spell host document).mapError .broke
      filling beside content
      moveOver temp target) { st with disk := d.written beside .empty } := by
  have hopening : opening temp { st with disk := d } =
      (.ok beside, { st with disk := d.written beside .empty }) := by
    rw [opening, h.opened]
  rw [h.toDrafted.writeVia_eq, writeBeside, Action.bind_of_ok hopening]

theorem Opened.supplied_spell (h : Opened c temp target st d document beside)
    (hspelled : spell st.disk.host document = .ok content) :
    supplied (fun host => (spell host document).mapError .broke)
        { st with disk := d.written beside .empty } =
      (.ok content, { st with disk := d.written beside .empty }) := by
  apply supplied_of_ok
  rw [h.host, hspelled]
  rfl

theorem Filled.writeVia_eq (h : Filled c temp target st d document beside content) :
    writeVia temp target c st =
      moveOver temp target { st with disk := d.written beside content } := by
  have hfilling : filling beside content { st with disk := d.written beside .empty } =
      (.ok (), { st with disk := d.written beside content }) := by
    rw [filling, Disk.fill, h.host, h.whole]
    exact congrArg (fun disk => (Except.ok (), Storage.mk disk st.log))
      (Disk.setContent_written d beside .empty content)
  rw [h.toOpened.writeVia_eq, Action.bind_of_ok (h.supplied_spell h.spelled),
    Action.bind_of_ok hfilling]

/-- What was written can be found beside the target. -/
theorem Filled.changeMode_eq (h : Filled c temp target st d document beside content) :
    (d.written beside content).changeMode temp ownerOnly =
      st.disk.host.allow .changeMode beside >>= fun _ => .ok (laid d beside content) := by
  have htouches := h.touches content
  rw [Disk.changeMode, Disk.resolve, Disk.lead_of_keeps htouches.keeps h.resolve, ← h.host content]
  change ((d.written beside content).found beside >>= _) = _
  rw [Disk.found_eq_ok_iff.2 htouches.node?, laid, draft, ← Disk.put_put]
  rfl

theorem Laid.touches (h : Laid c temp target st d document beside content) :
    d.Touches beside (draft d beside content) (laid d beside content) :=
  (h.toFilled.touches content).replace DiskNode.isDirectory_withMode fun _ =>
    DiskNode.withMode_eq_link_iff

theorem Laid.host (h : Laid c temp target st d document beside content) :
    (laid d beside content).host = st.disk.host :=
  h.touches.host.trans h.toMade.host

theorem Laid.writeVia_eq (h : Laid c temp target st d document beside content) :
    writeVia temp target c st = (do
      requirePath target
      changing [temp, target] (·.moveFile temp target))
        { st with disk := laid d beside content } := by
  have hmode : (d.written beside content).changeMode temp ownerOnly =
      .ok (laid d beside content) := by
    rw [h.changeMode_eq, Host.allow_eq_ok_iff.2 h.allowed]
    rfl
  rw [h.toFilled.writeVia_eq, moveOver, Action.bind_of_ok (changing_of_ok hmode)]

end Steps

/-! ## Writing comes to an end -/

/-- Writing comes to each of the ends as it says. -/
theorem writeVia_of_writeEnd {r : Except SaveFault Unit} (h : WriteEnd c temp target st r d') :
    writeVia temp target c st = (r, { st with disk := d' }) := by
  cases h with
  | badParent h => exact Action.bind_of_error (requirePath_of_some h)
  | unmade hparent h =>
      rw [writeVia, Action.bind_of_ok (requirePath_of_none hparent)]
      exact Action.bind_of_error h
  | noDocument hmade h =>
      rw [← hmade.host] at h
      rw [hmade.writeVia_eq c]
      exact Action.bind_of_error (supplied_of_error h)
  | badTemp hmade hdocument h =>
      rw [← hmade.host] at h
      rw [hmade.writeVia_eq c, Action.bind_of_ok (hmade.supplied_document hdocument)]
      exact Action.bind_of_error (requirePath_of_some h)
  | unopened hdrafted h =>
      rw [hdrafted.writeVia_eq]
      exact Action.bind_of_error (opening_of_error h)
  | unspelled hopened h =>
      rw [hopened.writeVia_eq]
      refine Action.bind_of_error (supplied_of_error ?_)
      rw [hopened.host, h]
      rfl
  | @unfilled d document beside content e n hopened hspelled h =>
      have hfilling : filling beside content { st with disk := d.written beside .empty } =
          (.error (.disk e []), { st with disk := d.written beside (content.extract 0 n) }) := by
        rw [filling, Disk.fill, hopened.host, h]
        exact congrArg (fun disk => (Except.error (SaveFault.disk e []), Storage.mk disk st.log))
          (Disk.setContent_written d beside .empty (content.extract 0 n))
      rw [hopened.writeVia_eq, Action.bind_of_ok (hopened.supplied_spell hspelled)]
      exact Action.bind_of_error hfilling
  | untightened hfilled h =>
      rw [hfilled.writeVia_eq]
      refine Action.bind_of_error (changing_of_error ?_)
      rw [hfilled.changeMode_eq, Host.allow_eq_error_iff.2 h]
      rfl
  | badTarget hlaid h =>
      rw [hlaid.writeVia_eq]
      rw [← hlaid.host] at h
      exact Action.bind_of_error (requirePath_of_some h)
  | unmoved hlaid htarget h =>
      rw [← hlaid.host] at htarget
      rw [hlaid.writeVia_eq, Action.bind_of_ok (requirePath_of_none htarget)]
      exact changing_of_error h
  | moved hlaid htarget h =>
      rw [← hlaid.host] at htarget
      rw [hlaid.writeVia_eq, Action.bind_of_ok (requirePath_of_none htarget)]
      exact changing_of_ok h

theorem exists_writeEnd_of_filled {document : Toml.Table × String} {beside : Place}
    {content : ByteArray} (h : Filled c temp target st d document beside content) :
    ∃ r d', WriteEnd c temp target st r d' := by
  cases hmode : st.disk.host.refuses? .changeMode beside with
  | some e => exact ⟨_, _, .untightened h hmode⟩
  | none =>
      have hlaid : Laid c temp target st d document beside content := ⟨h, hmode⟩
      cases htarget : pathFault? st.disk.host target with
      | some b => exact ⟨_, _, .badTarget hlaid htarget⟩
      | none =>
          cases hmove : (laid d beside content).moveFile temp target with
          | error e => exact ⟨_, _, .unmoved hlaid htarget hmove⟩
          | ok d' => exact ⟨_, _, .moved hlaid htarget hmove⟩

theorem exists_writeEnd_of_drafted {document : Toml.Table × String}
    (h : Drafted c temp target st d document) : ∃ r d', WriteEnd c temp target st r d' := by
  cases hopen : d.openToWrite temp with
  | error e => exact ⟨_, _, .unopened h hopen⟩
  | ok opened =>
      obtain ⟨beside, d'⟩ := opened
      obtain rfl := Disk.openToWrite_eq hopen
      have hopened : Opened c temp target st d document beside := ⟨h, hopen⟩
      cases hspell : spell st.disk.host document with
      | error b => exact ⟨_, _, .unspelled hopened hspell⟩
      | ok content =>
          cases hfill : st.disk.host.cutsShort? beside content with
          | some cut => exact ⟨_, _, .unfilled hopened hspell hfill⟩
          | none => exact exists_writeEnd_of_filled ⟨hopened, hspell, hfill⟩

/-- Writing comes to one of the ends. -/
theorem exists_writeEnd (c : FleetConfig) (temp target : FilePath) (st : Storage) :
    ∃ r d', WriteEnd c temp target st r d' := by
  cases hparent : pathFault? st.disk.host target.parent with
  | some b => exact ⟨_, _, .badParent hparent⟩
  | none =>
      obtain ⟨d, -, hmade | ⟨e, paths, hunmade⟩⟩ := ensures_makeAbove target st
      · have hmade : Made target st d := ⟨hparent, hmade⟩
        cases hdocument : documentOf st.disk.host.limits c with
        | error f => exact ⟨_, _, .noDocument hmade hdocument⟩
        | ok document =>
            cases htemp : pathFault? st.disk.host temp with
            | some b => exact ⟨_, _, .badTemp hmade hdocument htemp⟩
            | none => exact exists_writeEnd_of_drafted ⟨hmade, hdocument, htemp⟩
      · exact ⟨_, _, .unmade hparent hunmade⟩

theorem writeEnd_writeVia (c : FleetConfig) (temp target : FilePath) (st : Storage) :
    WriteEnd c temp target st (writeVia temp target c st).1 (writeVia temp target c st).2.disk := by
  obtain ⟨r, d', hend⟩ := exists_writeEnd c temp target st
  rw [writeVia_of_writeEnd hend]
  exact hend

/-! ## Cleaning up -/

/-- The ends that the clean-up can come to, with the disks that they leave. -/
inductive ClearEnd (d : Disk) (temp : FilePath) : Except ConfigFault Unit → Disk → Prop
  | badPath {b : Breakdown} (h : pathFault? d.host temp = some b) : ClearEnd d temp (.ok ()) d
  | absent {e : DiskError} (path : pathFault? d.host temp = none) (h : d.stat temp = .error e)
      (absent : e.isAbsence = true) : ClearEnd d temp (.ok ()) d
  | unseen {e : DiskError} (path : pathFault? d.host temp = none) (h : d.stat temp = .error e)
      (present : e.isAbsence = false) : ClearEnd d temp (.error (.broke (unforeseen e temp))) d
  | unremoved {node : DiskNode} {e : DiskError} (path : pathFault? d.host temp = none)
      (there : d.stat temp = .ok node) (h : d.removeFile temp = .error e) :
      ClearEnd d temp (.error (.broke (unforeseen e temp))) d
  | removed {node : DiskNode} {d' : Disk} (path : pathFault? d.host temp = none)
      (there : d.stat temp = .ok node) (h : d.removeFile temp = .ok d') :
      ClearEnd d temp (.ok ()) d'

/-- The clean-up comes to each of the ends as it says. -/
theorem cleanUp_of_clearEnd {r : Except ConfigFault Unit} (h : ClearEnd st.disk temp r d') :
    cleanUp temp st = (r, { st with disk := d' }) := by
  cases h with
  | badPath h => rw [cleanUp, h]
  | absent hpath h habsent =>
      rw [cleanUp, hpath, Disk.isThere, Disk.ask, h]
      simp only [habsent, if_true]
  | unseen hpath h hpresent =>
      rw [cleanUp, hpath, Disk.isThere, Disk.ask, h]
      simp only [hpresent, Bool.false_eq_true, if_false]
  | unremoved hpath hthere h => rw [cleanUp, hpath, Disk.isThere, Disk.ask, hthere, h]
  | removed hpath hthere h => rw [cleanUp, hpath, Disk.isThere, Disk.ask, hthere, h]

/-- The clean-up comes to one of the ends. -/
theorem exists_clearEnd (d : Disk) (temp : FilePath) : ∃ r d', ClearEnd d temp r d' := by
  cases hpath : pathFault? d.host temp with
  | some b => exact ⟨_, _, .badPath hpath⟩
  | none =>
      cases hstat : d.stat temp with
      | error e =>
          cases habsent : e.isAbsence with
          | true => exact ⟨_, _, .absent hpath hstat habsent⟩
          | false => exact ⟨_, _, .unseen hpath hstat habsent⟩
      | ok node =>
          cases hremove : d.removeFile temp with
          | error e => exact ⟨_, _, .unremoved hpath hstat hremove⟩
          | ok d' => exact ⟨_, _, .removed hpath hstat hremove⟩

/-! ## The ends of a save -/

/-- The ends that a save can come to when its paths are found. -/
inductive SaveEnd (c : FleetConfig) (temp target : FilePath) (st : Storage) :
    Except ConfigFault FilePath → Disk → Prop
  | saved {d : Disk} (h : WriteEnd c temp target st (.ok ()) d) :
      SaveEnd c temp target st (.ok target) d
  | failed {f : ConfigFault} {d : Disk} (h : WriteEnd c temp target st (.error (.other f)) d) :
      SaveEnd c temp target st (.error f) d
  | refused {e : DiskError} {paths : List FilePath} {d d' : Disk}
      (h : WriteEnd c temp target st (.error (.disk e paths)) d)
      (cleared : ClearEnd d temp (.ok ()) d') :
      SaveEnd c temp target st (.error (.refused (.saveFailed (e.message paths) e.kind))) d'
  | uncleared {e : DiskError} {paths : List FilePath} {d d' : Disk} {f : ConfigFault}
      (h : WriteEnd c temp target st (.error (.disk e paths)) d)
      (uncleared : ClearEnd d temp (.error f) d') : SaveEnd c temp target st (.error f) d'

/-- What a save comes to after its paths are found. -/
def saveTo (temp target : FilePath) (c : FleetConfig) : Act FilePath := do
  settle temp (writeVia temp target c)
  report (.configSaved target.text)
  pure target

/-- The outcome of a save, and the disk after it. -/
def endOf (outcome : Except ConfigFault FilePath × Storage) : Except ConfigFault FilePath × Disk :=
  (outcome.1, outcome.2.disk)

theorem saveTo_of_settled {f : ConfigFault} (log : List Event)
    (h : settle temp (writeVia temp target c) st = (.error f, ⟨d, log⟩)) :
    endOf (saveTo temp target c st) = (.error f, d) := by
  rw [saveTo, Action.bind_of_error h]
  rfl

/-- A save comes to each of the ends as it says. -/
theorem saveTo_of_saveEnd {r : Except ConfigFault FilePath} (h : SaveEnd c temp target st r d') :
    endOf (saveTo temp target c st) = (r, d') := by
  cases h with
  | saved h =>
      have hsettled :
          settle temp (writeVia temp target c) st = (.ok (), { st with disk := d' }) := by
        rw [settle, writeVia_of_writeEnd h]
      rw [saveTo, Action.bind_of_ok hsettled]
      rfl
  | failed h =>
      refine saveTo_of_settled st.log ?_
      rw [settle, writeVia_of_writeEnd h]
  | @refused e paths d _ h hclear =>
      have hcleaned : cleanUp temp { st with disk := d } = (.ok (), { st with disk := d' }) :=
        cleanUp_of_clearEnd hclear
      refine saveTo_of_settled st.log ?_
      rw [settle, writeVia_of_writeEnd h]
      exact Action.bind_of_ok hcleaned
  | @uncleared e paths d _ f h hclear =>
      have hstuck : cleanUp temp { st with disk := d } = (.error f, { st with disk := d' }) :=
        cleanUp_of_clearEnd hclear
      refine saveTo_of_settled st.log ?_
      rw [settle, writeVia_of_writeEnd h]
      exact Action.bind_of_error hstuck

/-- A save comes to one of the ends. -/
theorem exists_saveEnd (c : FleetConfig) (temp target : FilePath) (st : Storage) :
    ∃ r d', SaveEnd c temp target st r d' := by
  obtain ⟨(⟨e, paths⟩ | f) | u, d, hend⟩ := exists_writeEnd c temp target st
  · obtain ⟨f | u, d', hclear⟩ := exists_clearEnd d temp
    · exact ⟨_, _, .uncleared hend hclear⟩
    · exact ⟨_, _, .refused hend hclear⟩
  · exact ⟨_, _, .failed hend⟩
  · exact ⟨_, _, .saved hend⟩

/-! ## Paths -/

theorem snd_targetOf (path : Option String) (st : Storage) : (targetOf path st).2 = st := by
  cases path with
  | none => rfl
  | some s =>
      rw [targetOf]
      split_ifs
      · rfl
      · rfl

/-- A given path that is not empty leads to the target. -/
theorem targetOf_eq_ok {s : String} (h : (targetOf (some s) st).1 = .ok target) (hs : s ≠ "") :
    expandHome st.disk (.ofText s) = .ok target := by
  rw [targetOf, if_neg hs, pathOf] at h
  cases hhome : expandHome st.disk (.ofText s) with
  | error b =>
      rw [hhome] at h
      cases h
  | ok found =>
      rw [hhome] at h
      cases h
      rfl

theorem tempOf_eq_ok (h : tempOf target = .ok temp) :
    ∃ name, target.name? = some name ∧
      temp = { target with
        parts := target.parts.dropLast ++ [FilePath.stem name ++ tempSuffix] } := by
  rw [tempOf, FilePath.withSuffix?] at h
  cases hname : target.name? with
  | none =>
      rw [hname] at h
      cases h
  | some name =>
      rw [hname] at h
      cases h
      exact ⟨name, rfl, rfl⟩

theorem save_of_paths {path : Option String} (htarget : (targetOf path st).1 = .ok target)
    (htemp : tempOf target = .ok temp) : save c path st = saveTo temp target c st := by
  have hfound : targetOf path st = (.ok target, st) := Prod.ext htarget (snd_targetOf path st)
  have hgiven : given (tempOf target) st = (.ok temp, st) := by
    rw [htemp]
    rfl
  rw [save, Action.bind_of_ok hfound, Action.bind_of_ok hgiven]
  rfl

theorem save_of_no_target {path : Option String} {f : ConfigFault}
    (h : (targetOf path st).1 = .error f) : save c path st = (.error f, st) :=
  Action.bind_of_error (Prod.ext h (snd_targetOf path st))

theorem save_of_no_temp {path : Option String} {f : ConfigFault}
    (htarget : (targetOf path st).1 = .ok target) (htemp : tempOf target = .error f) :
    save c path st = (.error f, st) := by
  have hfound : targetOf path st = (.ok target, st) := Prod.ext htarget (snd_targetOf path st)
  have hgiven : given (tempOf target) st = (.error f, st) := by
    rw [htemp]
    rfl
  rw [save, Action.bind_of_ok hfound, Action.bind_of_error hgiven]

/-- A save does nothing, or comes to one of the ends. -/
theorem save_cases (c : FleetConfig) (path : Option String) (st : Storage) :
    (∃ f, save c path st = (.error f, st) ∧ ((targetOf path st).1 = .error f ∨
      ∃ target, (targetOf path st).1 = .ok target ∧ tempOf target = .error f)) ∨
      ∃ target temp r d, (targetOf path st).1 = .ok target ∧ tempOf target = .ok temp ∧
        SaveEnd c temp target st r d ∧ endOf (save c path st) = (r, d) := by
  cases htarget : (targetOf path st).1 with
  | error f => exact .inl ⟨f, save_of_no_target htarget, .inl rfl⟩
  | ok target =>
      cases htemp : tempOf target with
      | error f => exact .inl ⟨f, save_of_no_temp htarget htemp, .inr ⟨target, rfl, htemp⟩⟩
      | ok temp =>
          obtain ⟨r, d, hend⟩ := exists_saveEnd c temp target st
          refine .inr ⟨target, temp, r, d, rfl, htemp, hend, ?_⟩
          rw [save_of_paths htarget htemp, saveTo_of_saveEnd hend]

end

end FleetWarden.Storage
