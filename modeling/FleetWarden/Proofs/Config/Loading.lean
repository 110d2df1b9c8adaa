import FleetWarden.Config.Storage
import FleetWarden.Proofs.Disk.Files
import FleetWarden.Proofs.Invariant

/-!
# What is loaded

A configuration file is looked for, the rights of others on it are taken away, and then it is
opened and read. `ReadEnd` lists where this can come to an end, with the disk that each end leaves
(`readEnd_readFile`); that the mode was changed before makes no difference to what is read. All that
loading does after that depends on the content alone: `fst_load` says so with `ofContent`, which
acts on nothing.
-/

namespace FleetWarden

namespace DiskNode

theorem content?_withMode (mode : Nat) (node : DiskNode) :
    (node.withMode mode).content? = node.content? := by
  cases node <;> rfl

theorem openFault?_withMode (mode : Nat) (node : DiskNode) :
    (node.withMode mode).openFault? = node.openFault? := by
  cases node with
  | special content _ => cases content <;> rfl
  | _ => rfl

end DiskNode

namespace Storage

/-- What is reported of a loaded configuration has to be told. -/
def reported (limits : Limits) (c : FleetConfig) : Except ConfigFault Unit := do
  let _ ← c.subscriptionId.tellWithin limits .reporting
  let masked ← c.maskedEntries
  let _ ← (Value.table masked).tellWithin limits .reporting

/-- The configuration that a file with this content is loaded as. -/
def ofContent (limits : Limits) (content : ByteArray) : Except ConfigFault FleetConfig := do
  let table ← parse limits content
  let c ← FleetConfig.ofPairs limits fileKeys (FleetConfig.documentPairs table)
  c.check
  reported limits c
  .ok c

/-- A path leads to something that may be looked at. -/
structure Finds (d : Disk) (p : FilePath) (place : Place) (node : DiskNode) : Prop where
  noFault : pathFault? d.host p = none
  resolve : d.resolve p = .ok place
  node : d.node? place = some node
  look : d.host.refuses? .look place = none

/-- The rights of others on something can be taken away, if there are any. -/
def Tightens (d : Disk) (place : Place) (node : DiskNode) : Prop :=
  node.mode &&& othersMask ≠ 0 → d.host.refuses? .changeMode place = none

/-- The disk when the rights of others on something are taken away. -/
def tightened (d : Disk) (place : Place) (node : DiskNode) : Disk :=
  if node.mode &&& othersMask = 0 then d else d.put place (node.withMode ownerOnly)

/-- A path leads to something that a configuration can be read from. -/
structure Reads (d : Disk) (p : FilePath) (place : Place) (found : DiskNode) (content : ByteArray) :
    Prop extends Finds d p place found where
  tightens : Tightens d place found
  content : found.content? = some content
  read : d.host.refuses? .read place = none
  fetch : d.host.refuses? .fetch place = none

/-- A text is the path of something that a configuration with this content can be read from. -/
def Holds (d : Disk) (s : String) (content : ByteArray) : Prop :=
  ∃ p place node, expandHome d (.ofText s) = .ok p ∧ Reads d p place node content

/-- How loading refuses a file for an error of the disk. -/
def refusedFor (e : DiskError) (paths : List FilePath) : ConfigFault :=
  .refused (.loadFailed (e.message paths) e.kind)

/-- The ends that reading a configuration file can come to, with the disks that they leave. -/
inductive ReadEnd (d : Disk) (p : FilePath) : Except ConfigFault ByteArray → Disk → Prop
  | badPath {b : Breakdown} (h : pathFault? d.host p = some b) :
      ReadEnd d p (.error (.refused (.fileNotFound p.text))) d
  | nowhere {e : DiskError} (noFault : pathFault? d.host p = none) (h : d.stat p = .error e)
      (absent : e.isAbsence = true) : ReadEnd d p (.error (.refused (.fileNotFound p.text))) d
  | unseen {e : DiskError} (noFault : pathFault? d.host p = none) (h : d.stat p = .error e)
      (present : e.isAbsence = false) : ReadEnd d p (.error (.broke (unforeseen e p))) d
  | untightened {place : Place} {node : DiskNode} {e : DiskError} (finds : Finds d p place node)
      (isOpen : node.mode &&& othersMask ≠ 0)
      (refused : d.host.refuses? .changeMode place = some e) :
      ReadEnd d p (.error (refusedFor e [p])) d
  | unopened {place : Place} {node : DiskNode} {e : DiskError} (finds : Finds d p place node)
      (tightens : Tightens d place node) (refused : d.openToRead p = .error e) :
      ReadEnd d p (.error (refusedFor e [p])) (tightened d place node)
  | unread {place : Place} {node : DiskNode} {e : DiskError} (finds : Finds d p place node)
      (tightens : Tightens d place node) (isOpen : d.openToRead p = .ok place)
      (refused : d.host.refuses? .fetch place = some e) :
      ReadEnd d p (.error (refusedFor e [])) (tightened d place node)
  | read {place : Place} {node : DiskNode} {content : ByteArray}
      (reads : Reads d p place node content) :
      ReadEnd d p (.ok content) (tightened d place node)

section
variable {α β : Type} {st st' : Storage} {d d' : Disk} {p : FilePath} {place : Place}
  {node : DiskNode} {content : ByteArray} {s : String} {r : Except ConfigFault ByteArray}

/-! ## Modes -/

/-- The rights of others are told by the last six bits. -/
theorem and_othersMask (mode : Nat) : mode &&& othersMask = mode % 64 :=
  Nat.and_two_pow_sub_one_eq_mod mode 6

theorem mod_and_othersMask (mode : Nat) : mode % 0o1000 &&& othersMask = mode &&& othersMask := by
  rw [and_othersMask, and_othersMask]
  exact Nat.mod_mod_of_dvd mode (by decide)

theorem keeps_tightened (h : d.node? place = some node) : d.Keeps (tightened d place node) := by
  rw [tightened]
  split_ifs
  · exact .rfl
  · refine Disk.keeps_put (fun mode hdirectory => ?_) fun target => ?_
    · rw [h, Option.some.injEq] at hdirectory
      exact ⟨ownerOnly, by rw [hdirectory]; rfl⟩
    · rw [DiskNode.withMode_eq_link_iff, h, Option.some.injEq]

/-- Only the mode of what lies there is another one. -/
theorem node?_tightened (h : d.node? place = some node) :
    ∃ mode, (tightened d place node).node? place = some (node.withMode mode) := by
  by_cases htight : node.mode &&& othersMask = 0
  · rw [tightened, if_pos htight, h]
    cases node with
    | link target => exact ⟨0, rfl⟩
    | directory mode | file _ mode | special _ mode => exact ⟨mode, rfl⟩
  · rw [tightened, if_neg htight]
    exact ⟨ownerOnly, Disk.node?_put_self d place _⟩

/-! ## Opening and reading -/

/-- What a path leads to is opened for what it is, whatever its mode. -/
theorem openToRead_of_resolve (h : d.resolve p = .ok place) (hnode : d.node? place = some node) :
    d.openToRead p = d.host.allow .read place >>= fun _ =>
      match node.openFault? with
      | none => .ok place
      | some e => .error e := by
  rw [Disk.openToRead, h]
  change (d.found place >>= _) = _
  rw [Disk.found_eq_ok_iff.2 hnode]
  rfl

theorem fetch_of_node? (hnode : d.node? place = some node) :
    d.fetch place = d.host.allow .fetch place >>= fun _ =>
      match node.content? with
      | some content => .ok content
      | none => .error .missing := by
  rw [Disk.fetch, hnode]
  rfl

theorem openToRead_eq_ok_iff (h : d.resolve p = .ok place) (hnode : d.node? place = some node)
    {found : Place} : d.openToRead p = .ok found ↔
      d.host.refuses? .read place = none ∧ node.content?.isSome = true ∧ found = place := by
  rw [openToRead_of_resolve h hnode, except_then_eq_ok_iff, Host.allow_eq_ok_iff]
  refine and_congr_right fun _ => ?_
  cases node with
  | special content mode => cases content <;> simp [DiskNode.openFault?, DiskNode.content?, eq_comm]
  | _ => simp [DiskNode.openFault?, DiskNode.content?, eq_comm]

theorem fetch_eq_ok_iff (hnode : d.node? place = some node) :
    d.fetch place = .ok content ↔
      d.host.refuses? .fetch place = none ∧ node.content? = some content := by
  rw [fetch_of_node? hnode, except_then_eq_ok_iff, Host.allow_eq_ok_iff]
  cases node.content? <;> simp

/-- The mode makes no difference to opening and reading. -/
theorem openToRead_tightened (h : d.resolve p = .ok place) (hnode : d.node? place = some node) :
    (tightened d place node).openToRead p = d.openToRead p := by
  have hkeeps := keeps_tightened hnode
  obtain ⟨mode, hmode⟩ := node?_tightened hnode
  rw [openToRead_of_resolve h hnode,
    openToRead_of_resolve (Disk.lead_of_keeps hkeeps h) hmode, hkeeps.host,
    DiskNode.openFault?_withMode]

theorem fetch_tightened (hnode : d.node? place = some node) :
    (tightened d place node).fetch place = d.fetch place := by
  obtain ⟨mode, hmode⟩ := node?_tightened hnode
  rw [fetch_of_node? hnode, fetch_of_node? hmode, (keeps_tightened hnode).host,
    DiskNode.content?_withMode]

/-! ## Reading a file -/

theorem loading_of_ok {paths : List FilePath} {f : Disk → Except DiskError α} {a : α}
    (h : f st.disk = .ok a) : loading paths f st = (.ok a, st) := by
  rw [loading, h]

theorem loading_of_error {paths : List FilePath} {f : Disk → Except DiskError α} {e : DiskError}
    (h : f st.disk = .error e) : loading paths f st = (.error (refusedFor e paths), st) := by
  rw [loading, h]
  rfl

theorem Finds.stat (h : Finds d p place node) : d.stat p = .ok node :=
  Disk.stat_eq_ok_iff.2 ⟨place, h.resolve, h.node, h.look⟩

theorem requireThere_of_finds (h : Finds st.disk p place node) :
    requireThere p st = (.ok (), st) := by
  rw [requireThere, h.noFault, Disk.isThere, Disk.ask, h.stat]

/-- The rights of others on what the path leads to are taken away. -/
theorem tighten_of_finds (h : Finds st.disk p place node)
    (htightens : Tightens st.disk place node) :
    ∃ log, tighten p st = (.ok (), ⟨tightened st.disk place node, log⟩) := by
  rw [tighten, Action.bind_of_ok (loading_of_ok h.stat), mod_and_othersMask, tightened]
  by_cases htight : node.mode &&& othersMask = 0
  · rw [if_neg (not_not.2 htight), if_pos htight]
    exact ⟨st.log, rfl⟩
  · have hchange : st.disk.changeMode p ownerOnly =
        .ok (st.disk.put place (node.withMode ownerOnly)) :=
      Disk.changeMode_eq_ok_iff.2 ⟨place, node, h.resolve, h.node, htightens htight, rfl⟩
    have hreport : report (.insecureMode (octal (node.mode % 0o1000))) st =
        (.ok (), { st with log := st.log ++ [.insecureMode (octal (node.mode % 0o1000))] }) := rfl
    rw [if_pos htight, if_neg htight, Action.bind_of_ok hreport,
      Action.bind_of_ok (loading_of_ok hchange)]
    exact ⟨_, rfl⟩

theorem changeMode_of_refused {e : DiskError} (h : Finds d p place node)
    (hrefused : d.host.refuses? .changeMode place = some e) :
    d.changeMode p ownerOnly = .error e := by
  rw [Disk.changeMode, h.resolve]
  change (d.found place >>= _) = _
  rw [Disk.found_eq_ok_iff.2 h.node]
  change (d.host.allow .changeMode place >>= _) = _
  rw [Host.allow_eq_error_iff.2 hrefused]
  rfl

theorem tighten_of_refused {e : DiskError} (h : Finds st.disk p place node)
    (hopen : node.mode &&& othersMask ≠ 0)
    (hrefused : st.disk.host.refuses? .changeMode place = some e) :
    ∃ log, tighten p st = (.error (refusedFor e [p]), ⟨st.disk, log⟩) := by
  have hreport : report (.insecureMode (octal (node.mode % 0o1000))) st =
      (.ok (), { st with log := st.log ++ [.insecureMode (octal (node.mode % 0o1000))] }) := rfl
  rw [tighten, Action.bind_of_ok (loading_of_ok h.stat), mod_and_othersMask, if_pos hopen,
    Action.bind_of_ok hreport,
    Action.bind_of_error (loading_of_error (changeMode_of_refused h hrefused))]
  exact ⟨_, rfl⟩

/-- What is done once the rights of others are taken away. -/
theorem readFile_of_finds (h : Finds st.disk p place node)
    (htightens : Tightens st.disk place node) :
    ∃ log, readFile p st = (do
      let found ← loading [p] (·.openToRead p)
      loading [] (·.fetch found)) ⟨tightened st.disk place node, log⟩ := by
  obtain ⟨log, htighten⟩ := tighten_of_finds h htightens
  refine ⟨log, ?_⟩
  rw [readFile, Action.bind_of_ok (requireThere_of_finds h), Action.bind_of_ok htighten]

/-- Reading comes to each of the ends as it says. -/
theorem readFile_of_readEnd (h : ReadEnd st.disk p r d') :
    ∃ log, readFile p st = (r, ⟨d', log⟩) := by
  cases h with
  | badPath h =>
      refine ⟨st.log, Action.bind_of_error ?_⟩
      rw [requireThere, h]
  | nowhere hnull h habsent =>
      refine ⟨st.log, Action.bind_of_error ?_⟩
      rw [requireThere, hnull, Disk.isThere, Disk.ask, h]
      simp only [habsent, if_true]
  | unseen hnull h hpresent =>
      refine ⟨st.log, Action.bind_of_error ?_⟩
      rw [requireThere, hnull, Disk.isThere, Disk.ask, h]
      simp only [hpresent, Bool.false_eq_true, if_false]
  | untightened h hopen hrefused =>
      obtain ⟨log, htighten⟩ := tighten_of_refused h hopen hrefused
      refine ⟨log, ?_⟩
      rw [readFile, Action.bind_of_ok (requireThere_of_finds h), Action.bind_of_error htighten]
  | unopened h htightens hrefused =>
      obtain ⟨log, hread⟩ := readFile_of_finds h htightens
      rw [← openToRead_tightened h.resolve h.node] at hrefused
      exact ⟨log, hread.trans (Action.bind_of_error (loading_of_error hrefused))⟩
  | @unread place _ e h htightens hopen hrefused =>
      obtain ⟨log, hread⟩ := readFile_of_finds h htightens
      have hfetch : st.disk.fetch place = .error e := by
        rw [fetch_of_node? h.node, Host.allow_eq_error_iff.2 hrefused]
        rfl
      rw [← openToRead_tightened h.resolve h.node] at hopen
      rw [← fetch_tightened h.node] at hfetch
      rw [hread, Action.bind_of_ok (loading_of_ok hopen)]
      exact ⟨log, loading_of_error hfetch⟩
  | read h =>
      obtain ⟨log, hread⟩ := readFile_of_finds h.toFinds h.tightens
      have hopen := (openToRead_eq_ok_iff h.resolve h.node).2
        ⟨h.read, by rw [h.content]; rfl, rfl⟩
      have hfetch := (fetch_eq_ok_iff h.node).2 ⟨h.fetch, h.content⟩
      rw [← openToRead_tightened h.resolve h.node] at hopen
      rw [← fetch_tightened h.node] at hfetch
      rw [hread, Action.bind_of_ok (loading_of_ok hopen)]
      exact ⟨log, loading_of_ok hfetch⟩

/-- Reading comes to one of the ends. -/
theorem exists_readEnd (d : Disk) (p : FilePath) : ∃ r d', ReadEnd d p r d' := by
  cases hfault : pathFault? d.host p with
  | some b => exact ⟨_, _, .badPath hfault⟩
  | none =>
      cases hstat : d.stat p with
      | error e =>
          cases habsent : e.isAbsence with
          | true => exact ⟨_, _, .nowhere hfault hstat habsent⟩
          | false => exact ⟨_, _, .unseen hfault hstat habsent⟩
      | ok node =>
          obtain ⟨place, hresolve, hnode, hlook⟩ := Disk.stat_eq_ok_iff.1 hstat
          have hfinds : Finds d p place node := ⟨hfault, hresolve, hnode, hlook⟩
          by_cases htightens : Tightens d place node
          · cases hopen : d.openToRead p with
            | error e => exact ⟨_, _, .unopened hfinds htightens hopen⟩
            | ok found =>
                obtain ⟨hread, hcontent, rfl⟩ := (openToRead_eq_ok_iff hresolve hnode).1 hopen
                obtain ⟨content, hcontent⟩ := Option.isSome_iff_exists.1 hcontent
                cases hfetch : d.host.refuses? .fetch found with
                | some e => exact ⟨_, _, .unread hfinds htightens hopen hfetch⟩
                | none => exact ⟨_, _, .read ⟨hfinds, htightens, hcontent, hread, hfetch⟩⟩
          · obtain ⟨hopen, hrefused⟩ := Classical.not_imp.1 htightens
            obtain ⟨e, he⟩ := Option.ne_none_iff_exists'.1 hrefused
            exact ⟨_, _, .untightened hfinds hopen he⟩

theorem readEnd_readFile (p : FilePath) (st : Storage) :
    ReadEnd st.disk p (readFile p st).1 (readFile p st).2.disk := by
  obtain ⟨r, d', hend⟩ := exists_readEnd st.disk p
  obtain ⟨log, hread⟩ := readFile_of_readEnd hend
  rw [hread]
  exact hend

theorem fst_readFile_eq_ok_iff :
    (readFile p st).1 = .ok content ↔ ∃ place node, Reads st.disk p place node content := by
  constructor
  · intro h
    have hend := readEnd_readFile p st
    rw [h] at hend
    generalize (readFile p st).2.disk = d' at hend
    cases hend with
    | read hreads => exact ⟨_, _, hreads⟩
  · rintro ⟨place, node, hreads⟩
    obtain ⟨log, hread⟩ := readFile_of_readEnd (.read hreads)
    rw [hread]

/-- Reading keeps the host. -/
theorem host_of_readEnd (h : ReadEnd d p r d') : d'.host = d.host := by
  cases h with
  | unopened h => exact (keeps_tightened h.node).host
  | unread h => exact (keeps_tightened h.node).host
  | read h => exact (keeps_tightened h.node).host
  | _ => rfl

/-! ## The whole of loading -/

theorem fst_given_bind (x : Except ConfigFault α) (f : α → Act β) (st : Storage) :
    ((given x >>= f) st).1 = x >>= fun a => (f a st).1 := by
  cases x <;> rfl

theorem fst_report_bind (e : Event) (f : Unit → Act β) (st : Storage) :
    ((report e >>= f) st).1 = (f () { st with log := st.log ++ [e] }).1 := rfl

theorem expandHome_congr (hhome : d'.home = d.home) (hhost : d'.host = d.host) (p : FilePath) :
    expandHome d' p = expandHome d p := by
  have hnamed : homeOf d' = homeOf d := by
    funext name
    rw [homeOf, homeOf, hhome, hhost]
  rw [expandHome, expandHome, hnamed]

theorem pathOf_of_ok (h : expandHome st.disk (.ofText s) = .ok p) : pathOf s st = (.ok p, st) := by
  rw [pathOf, h]
  rfl

theorem pathOf_of_error {b : Breakdown} (h : expandHome st.disk (.ofText s) = .error b) :
    pathOf s st = (.error (.broke b), st) := by
  rw [pathOf, h]
  rfl

/-- What loading does with the content of a file. -/
def loadContent (limits : Limits) (p : FilePath) (content : ByteArray) : Act FleetConfig := do
  let table ← given (parse limits content)
  let c ← given (FleetConfig.ofPairs limits fileKeys (FleetConfig.documentPairs table))
  given c.check
  let subscription ← given (c.subscriptionId.tellWithin limits .reporting)
  report (.configRead subscription)
  let masked ← given c.maskedEntries
  let shown ← given ((Value.table masked).tellWithin limits .reporting)
  report (.configLoaded p.text shown)
  pure c

theorem load_of_path (h : expandHome st.disk (.ofText s) = .ok p) :
    load s st = (readFile p >>= loadContent st.disk.host.limits p) st := by
  change (pathOf s >>= fun p => readFile p >>= loadContent st.disk.host.limits p) st = _
  rw [Action.bind_of_ok (pathOf_of_ok h)]

theorem load_of_no_path {b : Breakdown} (h : expandHome st.disk (.ofText s) = .error b) :
    load s st = (.error (.broke b), st) := by
  change (pathOf s >>= fun p => readFile p >>= loadContent st.disk.host.limits p) st = _
  rw [Action.bind_of_error (pathOf_of_error h)]

theorem fst_loadContent (limits : Limits) (p : FilePath) (content : ByteArray) (st : Storage) :
    (loadContent limits p content st).1 = ofContent limits content := by
  rw [loadContent, ofContent]
  simp only [fst_given_bind, fst_report_bind, reported, bind_assoc]
  rfl

/-- The answer of loading, as it depends on what is read. -/
theorem fst_load (s : String) (st : Storage) :
    (load s st).1 =
      match expandHome st.disk (.ofText s) with
      | .error b => .error (.broke b)
      | .ok p => (readFile p st).1 >>= ofContent st.disk.host.limits := by
  cases hp : expandHome st.disk (.ofText s) with
  | error b => rw [load_of_no_path hp]
  | ok p =>
      rw [load_of_path hp]
      dsimp only
      rcases hread : readFile p st with ⟨f | content, st'⟩
      · rw [Action.bind_of_error hread]
        rfl
      · rw [Action.bind_of_ok hread]
        exact fst_loadContent st.disk.host.limits p content st'

theorem fst_load_of_holds (h : Holds st.disk s content) :
    (load s st).1 = ofContent st.disk.host.limits content := by
  obtain ⟨p, place, node, hp, hreads⟩ := h
  rw [fst_load, hp]
  dsimp only
  rw [fst_readFile_eq_ok_iff.2 ⟨place, node, hreads⟩]
  rfl

/-- What is loaded was read. -/
theorem holds_of_load {c : FleetConfig} (h : (load s st).1 = .ok c) :
    ∃ content, Holds st.disk s content ∧ ofContent st.disk.host.limits content = .ok c := by
  rw [fst_load] at h
  cases hp : expandHome st.disk (.ofText s) with
  | error b =>
      rw [hp] at h
      cases h
  | ok p =>
      rw [hp] at h
      obtain ⟨content, hcontent, hc⟩ := except_bind_eq_ok_iff.1 h
      obtain ⟨place, node, hreads⟩ := fst_readFile_eq_ok_iff.1 hcontent
      exact ⟨content, ⟨p, place, node, hp, hreads⟩, hc⟩

theorem keeps_report (d : Disk) (e : Event) : Action.Keeps (fun st => st.disk = d) (report e) :=
  Action.keeps_change fun _ h => h

/-- When the content is read, nothing is written. -/
theorem keeps_loadContent (d : Disk) (limits : Limits) (p : FilePath) (content : ByteArray) :
    Action.Keeps (fun st => st.disk = d) (loadContent limits p content) := by
  refine (Action.keeps_ofExcept _).bind fun _ => ?_
  refine (Action.keeps_ofExcept _).bind fun _ => ?_
  refine (Action.keeps_ofExcept _).bind fun _ => ?_
  refine (Action.keeps_ofExcept _).bind fun _ => ?_
  refine (keeps_report d _).bind fun _ => ?_
  refine (Action.keeps_ofExcept _).bind fun _ => ?_
  refine (Action.keeps_ofExcept _).bind fun _ => ?_
  exact (keeps_report d _).bind fun _ => Action.keeps_pure _

theorem disk_load_of_path (h : expandHome st.disk (.ofText s) = .ok p) :
    (load s st).2.disk = (readFile p st).2.disk := by
  rw [load_of_path h]
  rcases hread : readFile p st with ⟨f | content, st'⟩
  · rw [Action.bind_of_error hread]
  · rw [Action.bind_of_ok hread]
    exact keeps_loadContent st'.disk st.disk.host.limits p content st' rfl

/-- Loading keeps the host. -/
theorem host_load (s : String) (st : Storage) : (load s st).2.disk.host = st.disk.host := by
  cases hp : expandHome st.disk (.ofText s) with
  | error b => rw [load_of_no_path hp]
  | ok p =>
      rw [disk_load_of_path hp]
      exact host_of_readEnd (readEnd_readFile p st)

end

/-- A disk with a file in the working directory and nothing else. -/
def soleFile (content : ByteArray) : Storage :=
  ⟨⟨[(["conf.toml"], .file content ownerOnly)], [], ⟨"/", ["root"]⟩, .standard⟩, []⟩

theorem holds_soleFile (content : ByteArray) : Holds (soleFile content).disk "conf.toml" content :=
  ⟨⟨"", ["conf.toml"]⟩, ["conf.toml"], .file content ownerOnly, rfl,
    ⟨rfl, rfl, rfl, rfl⟩, fun _ => rfl, rfl, rfl, rfl⟩

theorem fst_load_soleFile (content : ByteArray) :
    (load "conf.toml" (soleFile content)).1 = ofContent .standard content :=
  fst_load_of_holds (holds_soleFile content)

end Storage
end FleetWarden
