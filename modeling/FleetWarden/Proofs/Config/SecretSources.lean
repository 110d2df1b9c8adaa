import FleetWarden.Proofs.Config.BadFiles
import FleetWarden.Proofs.Config.Secrecy
import FleetWarden.Proofs.Toml.DistinctKeys
import FleetWarden.Proofs.TwoRuns
import Mathlib.Data.List.Basic

/-!
# Sources that differ in the client secret

Configurations, documents, disks and environments are alike if they differ at most in client
secrets, which are then texts that are not empty. Loading from sources that are alike ends alike:
with the same reports, and with the same fault or with configurations that are alike again.
-/

namespace FleetWarden

open FleetWarden.Action FleetConfig

namespace FleetConfig
variable {limits : Limits} {c d : FleetConfig}

theorem check_eq_of_veiled_eq (h : c.veiled = d.veiled) : c.check = d.check := by
  rw [← check_veiled c, h, check_veiled]

theorem entries_eq_of_veiled_eq (h : c.veiled = d.veiled) : c.entries = d.entries := by
  rw [← entries_veiled c, h, entries_veiled]

theorem maskedEntries_eq_of_veiled_eq (h : c.veiled = d.veiled) :
    c.maskedEntries = d.maskedEntries := by
  rw [← maskedEntries_veiled c, h, maskedEntries_veiled]

theorem subscriptionId_eq_of_veiled_eq (h : c.veiled = d.veiled) :
    c.subscriptionId = d.subscriptionId := congrArg (·.get .subscriptionId) h

/-- Pairs that are the same behind the veil are read alike. -/
theorem sameUpTo_ofPairs {keys : KeyTable} {pairs pairs' : List (String × Value)}
    (h : pairs.map (veiledPair keys) = pairs'.map (veiledPair keys)) :
    SameUpTo (fun c d => c.veiled = d.veiled) (ofPairs limits keys pairs)
      (ofPairs limits keys pairs') := by
  apply SameUpTo.of_map_eq
  rw [← ofPairs_veiledPair, h, ofPairs_veiledPair]

/-- Environments that differ at most in a client secret that is set in both. -/
def EnvironmentsAlike (e f : List (String × String)) : Prop :=
  ∀ key, e.lookup key = f.lookup key ∨ key = "ARM_CLIENT_SECRET" ∧
    ∃ s t, s ≠ "" ∧ t ≠ "" ∧ e.lookup key = some s ∧ f.lookup key = some t

theorem environmentPairs_alike {e f : List (String × String)} (h : EnvironmentsAlike e f) :
    (environmentPairs e).map (veiledPair environmentKeys) =
      (environmentPairs f).map (veiledPair environmentKeys) := by
  rw [environmentPairs, environmentPairs, List.map_filterMap, List.map_filterMap]
  apply List.filterMap_congr
  intro ⟨key, setting⟩ _
  obtain hsame | ⟨rfl, s, t, hs, ht, he, hf⟩ := h key
  · simp only [hsame]
  · have hkey : environmentKeys.setting? "ARM_CLIENT_SECRET" = some .clientSecret := by decide
    simp only [he, hf, if_neg hs, if_neg ht, Option.map_some, veiledPair, hkey, if_pos,
      Value.veiled]

theorem sameUpTo_ofEnvironment {e f : List (String × String)} (h : EnvironmentsAlike e f) :
    SameUpTo (fun c d => c.veiled = d.veiled) (ofEnvironment limits e)
      (ofEnvironment limits f) := by
  apply (sameUpTo_ofPairs (environmentPairs_alike h)).bind
  intro c d hcd
  apply (SameUpTo.of_eq (check_eq_of_veiled_eq hcd)).bind
  intro _ _ _
  exact .ok hcd

end FleetConfig

/-- Contents of files that are the same, or documents that are the same behind the veil. -/
def ContentsAlike (limits : Limits) (a b : ByteArray) : Prop :=
  a = b ∨ ∃ s t, Storage.parse limits a = .ok s ∧ Storage.parse limits b = .ok t ∧
    s.map veiledEntry = t.map veiledEntry

/-- The same directories or links, or files and devices with contents that are alike, of the same
mode. -/
inductive DiskNode.Alike (limits : Limits) : DiskNode → DiskNode → Prop
  | directory (mode : Nat) : Alike limits (.directory mode) (.directory mode)
  | file {a b : ByteArray} (h : ContentsAlike limits a b) (mode : Nat) :
      Alike limits (.file a mode) (.file b mode)
  | link (target : FilePath) : Alike limits (.link target) (.link target)
  | special {a b : Option ByteArray} (h : Option.Rel (ContentsAlike limits) a b) (mode : Nat) :
      Alike limits (.special a mode) (.special b mode)

namespace DiskNode
variable {limits : Limits} {node node' : DiskNode}

theorem Alike.refl (limits : Limits) : ∀ node : DiskNode, Alike limits node node
  | .directory mode => .directory mode
  | .file _ mode => .file (.inl rfl) mode
  | .link target => .link target
  | .special none mode => .special .none mode
  | .special (some _) mode => .special (.some (.inl rfl)) mode

theorem Alike.mode (h : Alike limits node node') : node.mode = node'.mode := by
  cases h <;> rfl

theorem Alike.openFault? (h : Alike limits node node') : node.openFault? = node'.openFault? := by
  cases h with
  | special h mode => cases h <;> rfl
  | _ => rfl

theorem Alike.content? (h : Alike limits node node') :
    Option.Rel (ContentsAlike limits) node.content? node'.content? := by
  cases h with
  | directory | link => exact .none
  | file h _ => exact .some h
  | special h _ => exact h

theorem Alike.withMode (h : Alike limits node node') (mode : Nat) :
    Alike limits (node.withMode mode) (node'.withMode mode) := by
  cases h with
  | directory _ => exact .directory mode
  | file h _ => exact .file h mode
  | link target => exact .link target
  | special h _ => exact .special h mode

end DiskNode

namespace Disk

/-- Disks of one host with nodes that are alike at the same places. -/
structure Alike (d e : Disk) : Prop where
  current : d.current = e.current
  home : d.home = e.home
  host : d.host = e.host
  node? : ∀ place, Option.Rel (DiskNode.Alike d.host.limits) (d.node? place) (e.node? place)

variable {d e : Disk} {p : FilePath}

theorem Alike.refl (d : Disk) : d.Alike d := by
  refine ⟨rfl, rfl, rfl, ?_⟩
  intro place
  cases d.node? place with
  | none => exact .none
  | some node => exact .some (.refl _ node)

theorem Alike.put (h : d.Alike e) (place : Place) {node node' : DiskNode}
    (hnode : node.Alike d.host.limits node') : (d.put place node).Alike (e.put place node') := by
  refine ⟨h.current, h.home, h.host, ?_⟩
  intro other
  by_cases hother : other = place
  · subst hother
    rw [node?_put_self, node?_put_self]
    exact .some hnode
  · rw [node?_put_of_ne _ hother, node?_put_of_ne _ hother]
    exact h.node? other

/-! ## Following paths -/

theorem Alike.step (h : d.Alike e) (place : Place) (name : String) :
    d.step place name = e.step place name := by
  rw [Disk.step, Disk.step, h.host]
  have hnode := h.node? place
  generalize d.node? place = node, e.node? place = node' at hnode ⊢
  cases hnode with
  | none => rfl
  | some hnode => cases hnode <;> rfl

theorem Alike.walk (h : d.Alike e) (through : Bool)
    (jump : Place → List String → Except DiskError Place) (start : Place) (names : List String) :
    d.walk through jump start names = e.walk through jump start names := by
  induction names generalizing start with
  | nil => rfl
  | cons name names ih =>
      rw [walk_cons, walk_cons, h.step]
      refine congrArg (_ >>= ·) (funext fun next => ?_)
      rw [goOn, goOn, h.host]
      have hnode := h.node? next
      generalize d.node? next = node, e.node? next = node' at hnode ⊢
      cases hnode with
      | none => exact ih next
      | some hnode =>
          cases hnode with
          | link target => rfl
          | _ => exact ih next

theorem Alike.follow (h : d.Alike e) (through : Bool) (links : Nat) (start : Place)
    (names : List String) :
    d.follow through links start names = e.follow through links start names := by
  induction links generalizing start names with
  | zero => exact h.walk through _ start names
  | succ links ih =>
      have hjump : d.follow through links = e.follow through links :=
        funext fun start => funext fun names => ih start names
      rw [Disk.follow, Disk.follow, hjump]
      exact h.walk through _ start names

theorem Alike.resolve (h : d.Alike e) (p : FilePath) : d.resolve p = e.resolve p := by
  rw [Disk.resolve, Disk.resolve, lead, lead, h.current, h.host, h.follow]

theorem Alike.found (h : d.Alike e) (place : Place) :
    SameUpTo (DiskNode.Alike d.host.limits) (d.found place) (e.found place) := by
  rw [Disk.found, Disk.found]
  have hnode := h.node? place
  generalize d.node? place = node, e.node? place = node' at hnode ⊢
  cases hnode with
  | none => exact .error _
  | some hnode => exact .ok hnode

/-! ## Operations -/

theorem Alike.stat (h : d.Alike e) (p : FilePath) :
    SameUpTo (DiskNode.Alike d.host.limits) (d.stat p) (e.stat p) := by
  rw [Disk.stat, Disk.stat, h.resolve, ← h.host]
  apply (SameUpTo.of_eq rfl).bind
  rintro place _ rfl
  apply (h.found place).bind
  intro node node' hnode
  apply (SameUpTo.of_eq rfl).bind
  intro _ _ _
  exact .ok hnode

theorem Alike.isThere (h : d.Alike e) (p : FilePath) : d.isThere p = e.isThere p := by
  rw [Disk.isThere, Disk.isThere, ask, ask]
  have hstat := h.stat p
  generalize d.stat p = x, e.stat p = y at hstat ⊢
  cases hstat with
  | ok => rfl
  | error err => rfl

theorem Alike.changeMode (h : d.Alike e) (p : FilePath) (mode : Nat) :
    SameUpTo (fun d' e' => d'.Alike e' ∧ d'.host.limits = d.host.limits) (d.changeMode p mode)
      (e.changeMode p mode) := by
  rw [Disk.changeMode, Disk.changeMode, h.resolve, ← h.host]
  apply (SameUpTo.of_eq rfl).bind
  rintro place _ rfl
  apply (h.found place).bind
  intro node node' hnode
  apply (SameUpTo.of_eq rfl).bind
  intro _ _ _
  exact .ok ⟨h.put place (hnode.withMode mode), rfl⟩

theorem Alike.openToRead (h : d.Alike e) (p : FilePath) :
    SameUpTo (· = ·) (d.openToRead p) (e.openToRead p) := by
  rw [Disk.openToRead, Disk.openToRead, h.resolve, ← h.host]
  apply (SameUpTo.of_eq rfl).bind
  rintro place _ rfl
  apply (h.found place).bind
  intro node node' hnode
  apply (SameUpTo.of_eq rfl).bind
  intro _ _ _
  exact .of_eq (by rw [hnode.openFault?])

theorem Alike.fetch (h : d.Alike e) (place : Place) :
    SameUpTo (ContentsAlike d.host.limits) (d.fetch place) (e.fetch place) := by
  rw [Disk.fetch, Disk.fetch, ← h.host]
  apply (SameUpTo.of_eq rfl).bind
  intro _ _ _
  have hnode := h.node? place
  generalize d.node? place = node, e.node? place = node' at hnode ⊢
  cases hnode with
  | none => exact .error _
  | @some node node' hnode =>
      have hcontent := hnode.content?
      simp only [Option.bind_some]
      generalize node.content? = x, node'.content? = y at hcontent ⊢
      cases hcontent with
      | none => exact .error _
      | some h => exact .ok h

end Disk

namespace Storage

/-- Disks that are alike, with these limits, and the same reports. -/
structure Alike (limits : Limits) (st st' : Storage) : Prop where
  disk : st.disk.Alike st'.disk
  log : st.log = st'.log
  limits : st.disk.host.limits = limits

theorem Alike.refl (st : Storage) : st.Alike st.disk.host.limits st := ⟨.refl _, rfl, rfl⟩

section
variable {α β : Type} {V : α → β → Prop} {limits : Limits}

theorem endAlike_report (e : Event) : EndAlike (Alike limits) (· = ·) (report e) (report e) :=
  endAlike_change fun _ _ h => ⟨h.disk, congrArg (· ++ [e]) h.log, h.limits⟩

theorem endAlike_given {x : Except ConfigFault α} {y : Except ConfigFault β} (h : SameUpTo V x y) :
    EndAlike (Alike limits) V (given x) (given y) := endAlike_ofExcept h

theorem endAlike_same (x : Except ConfigFault α) :
    EndAlike (Alike limits) (· = ·) (given x) (given x) := endAlike_given (.of_eq rfl)

theorem endAlike_limits :
    EndAlike (Alike limits) (fun found found' => found = limits ∧ found' = limits) Storage.limits
      Storage.limits := fun _ _ h =>
  ⟨.ok ⟨h.limits, (congrArg Host.limits h.disk.host).symm.trans h.limits⟩, h⟩

theorem endAlike_pathOf (s : String) : EndAlike (Alike limits) (· = ·) (pathOf s) (pathOf s) := by
  intro st st' h
  rw [pathOf, pathOf, expandHome_congr h.disk.home h.disk.host]
  exact ⟨.of_eq rfl, h⟩

theorem endAlike_requireThere (p : FilePath) :
    EndAlike (Alike limits) (· = ·) (requireThere p) (requireThere p) := by
  intro st st' h
  rw [requireThere, requireThere, h.disk.isThere, h.disk.host]
  cases pathFault? st'.disk.host p with
  | some b => exact ⟨.error _, h⟩
  | none =>
      rcases st'.disk.isThere p with e | _ | _
      · exact ⟨.error _, h⟩
      · exact ⟨.error _, h⟩
      · exact ⟨.ok rfl, h⟩

theorem endAlike_loading (paths : List FilePath) {f : Disk → Except DiskError α}
    {g : Disk → Except DiskError β}
    (h : ∀ d e : Disk, d.Alike e → d.host.limits = limits → SameUpTo V (f d) (g e)) :
    EndAlike (Alike limits) V (loading paths f) (loading paths g) := by
  intro st st' hst
  have hsame := h _ _ hst.disk hst.limits
  rw [loading, loading]
  generalize f st.disk = x, g st'.disk = y at hsame ⊢
  cases hsame with
  | ok hV => exact ⟨.ok hV, hst⟩
  | error e => exact ⟨.error _, hst⟩

theorem endAlike_tighten (p : FilePath) :
    EndAlike (Alike limits) (· = ·) (tighten p) (tighten p) := by
  apply (endAlike_loading [p] fun d e h (hlimits : d.host.limits = limits) =>
    hlimits ▸ h.stat p).bind
  intro node node' hnode
  rw [hnode.mode]
  dsimp only
  split_ifs
  · apply (endAlike_report _).then
    intro _
    apply (endAlike_loading [p] fun d e h (hlimits : d.host.limits = limits) =>
      hlimits ▸ h.changeMode p ownerOnly).bind
    intro d e h
    exact endAlike_change fun st st' hst => ⟨h.1, hst.log, h.2⟩
  · exact endAlike_pure rfl

theorem endAlike_readFile (p : FilePath) :
    EndAlike (Alike limits) (ContentsAlike limits) (readFile p) (readFile p) := by
  apply (endAlike_requireThere p).then
  intro _
  apply (endAlike_tighten p).then
  intro _
  apply (endAlike_loading [p] fun d e h _ => h.openToRead p).then
  intro place
  exact endAlike_loading [] fun d e h hlimits => hlimits ▸ h.fetch place

theorem sameUpTo_parse {a b : ByteArray} (h : ContentsAlike limits a b) :
    SameUpTo (fun s t => (documentPairs s).map (veiledPair fileKeys) =
      (documentPairs t).map (veiledPair fileKeys)) (parse limits a) (parse limits b) := by
  obtain rfl | ⟨s, t, hs, ht, hveiled⟩ := h
  · cases parse limits a with
    | error f => exact .error f
    | ok s => exact .ok rfl
  · have hkeys : ∀ {a s}, parse limits a = .ok s → (s.map Prod.fst).Nodup := by
      intro a s hs
      obtain ⟨text, -, hread⟩ := parse_eq_ok_iff.1 hs
      exact (Toml.tidy_of_read hread).keys
    rw [hs, ht]
    refine .ok ?_
    rw [← documentPairs_veiledEntry (hkeys hs), hveiled, documentPairs_veiledEntry (hkeys ht)]

/-- The same reports, and the same fault or configurations that are alike. -/
theorem endAlike_load (s : String) :
    EndAlike (Alike limits) (fun c d => c.veiled = d.veiled) (load s) (load s) := by
  apply endAlike_limits.bind
  rintro _ _ ⟨rfl, rfl⟩
  apply (endAlike_pathOf s).then
  intro p
  apply (endAlike_readFile p).bind
  intro a b hcontents
  apply (endAlike_given (sameUpTo_parse hcontents)).bind
  intro table table' hpairs
  apply (endAlike_given (sameUpTo_ofPairs hpairs)).bind
  intro c d hcd
  -- From here on nothing looks at the secret itself.
  rw [check_eq_of_veiled_eq hcd, subscriptionId_eq_of_veiled_eq hcd,
    maskedEntries_eq_of_veiled_eq hcd]
  apply (endAlike_same _).then
  intro _
  apply (endAlike_same _).then
  intro subscription
  apply (endAlike_report _).then
  intro _
  apply (endAlike_same _).then
  intro masked
  apply (endAlike_same _).then
  intro shown
  apply (endAlike_report _).then
  intro _
  exact endAlike_pure hcd

theorem endAlike_loadEnvironment {e f : List (String × String)} (h : EnvironmentsAlike e f) :
    EndAlike (Alike limits) (fun c d => c.veiled = d.veiled) (loadEnvironment e)
      (loadEnvironment f) := by
  apply endAlike_limits.bind
  rintro _ _ ⟨rfl, rfl⟩
  apply (endAlike_given (sameUpTo_ofEnvironment h)).bind
  intro c d hcd
  rw [subscriptionId_eq_of_veiled_eq hcd]
  apply (endAlike_same _).then
  intro subscription
  apply (endAlike_report _).then
  intro _
  exact endAlike_pure hcd

end

/-- The same is done to the disk, and reported, for configurations that are alike. -/
theorem save_eq_of_veiled_eq {c d : FleetConfig} (h : c.veiled = d.veiled) (path : Option String) :
    save c path = save d path := by
  have hdocument : ∀ limits, documentOf limits c = documentOf limits d := by
    intro limits
    rw [documentOf, documentOf, entries_eq_of_veiled_eq h]
  have hwrite : ∀ temp target, writeVia temp target c = writeVia temp target d := by
    intro temp target
    rw [writeVia, writeVia]
    simp only [hdocument]
  simp only [save, hwrite]

end Storage
end FleetWarden
