import FleetWarden.Proofs.Config.Documents
import FleetWarden.Proofs.Config.Kinds
import FleetWarden.Proofs.Config.SavedFiles
import FleetWarden.Proofs.Toml.PlainDocuments

/-!
# Saved and loaded again

A saved configuration is loaded again as it was, but for the client secret, which is not saved
(`load_of_save`). The document has a pair for each setting, in an order of its own and without the
optional settings that are not set; what is read from the document gives every setting the value
that it had (`ofPairs_savedPairs`), since a setting that is left out has its default anyway.

## Implementation notes

That the file can be read again is a matter of the host and of what lay there before, not of the
configuration alone. `Ordinary` says what is relied on. Without it, a save can succeed and leave
something at the target that is no document, or that its path does not lead to.
-/

namespace FleetWarden

open Numeral Toml

namespace FleetConfig

/-- The configuration without its client secret. -/
def withoutSecret (c : FleetConfig) : FleetConfig := c.set .clientSecret (.text "")

/-- The key under which a setting is saved. -/
def savedKey : Setting → String
  | .subscriptionId => "subscriptionId"
  | .resourceGroup => "resourceGroup"
  | .tenantId => "aadTenantId"
  | .clientId => "aadClientId"
  | .clientSecret => "aadClientSecret"
  | .cloud => "cloud"
  | .location => "location"
  | .refreshInterval => "refreshInterval"
  | .fleets => "fleets"

/-- The pairs of some settings. -/
def pairsOf (c : FleetConfig) (settings : List Setting) : List (String × Value) :=
  settings.map fun setting => (savedKey setting, c.get setting)

/-- The settings that are always saved, and those that are saved if they are set. -/
def alwaysSaved : List Setting :=
  [.cloud, .subscriptionId, .resourceGroup, .refreshInterval, .fleets]

def savedIfSet : List Setting := [.tenantId, .clientId, .location]

/-- The pairs that a configuration is saved as. -/
def savedPairs (c : FleetConfig) : List (String × Value) :=
  c.pairsOf alwaysSaved ++ (c.pairsOf savedIfSet).filter (·.2.isTrue)

section
variable {limits : Limits} {c : FleetConfig} {setting : Setting}

theorem setting?_savedKey (setting : Setting) :
    fileKeys.setting? (savedKey setting) = some setting := by
  cases setting <;> decide

theorem entries_eq_savedPairs {items : List Value} (h : c.fleets = .list items) :
    c.entries = .ok c.savedPairs := by
  rw [entries, h]
  change Except.ok _ = _
  rw [savedPairs, pairsOf, alwaysSaved, ← h]
  rfl

theorem keys_savedPairs (c : FleetConfig) :
    (c.savedPairs.map Prod.fst).Sublist ((alwaysSaved ++ savedIfSet).map savedKey) := by
  have hkeys : (c.pairsOf alwaysSaved ++ c.pairsOf savedIfSet).map Prod.fst =
      (alwaysSaved ++ savedIfSet).map savedKey := rfl
  rw [← hkeys]
  exact ((List.Sublist.refl _).append List.filter_sublist).map _

theorem nodup_savedPairs (c : FleetConfig) : (c.savedPairs.map Prod.fst).Nodup := by
  have hnodup : ((alwaysSaved ++ savedIfSet).map savedKey).Nodup := by decide
  exact hnodup.sublist c.keys_savedPairs

theorem documentPairs_savedPairs (c : FleetConfig) : documentPairs c.savedPairs = c.savedPairs := by
  have hglobal : c.savedPairs.lookup "global" = none := by
    refine lookup_eq_none_iff_not_mem.2 fun hmem => ?_
    exact absurd (c.keys_savedPairs.subset hmem) (by decide)
  rw [documentPairs, hglobal]

theorem lastSet?_pairsOf (c : FleetConfig) (settings : List Setting) (setting : Setting) :
    lastSet? fileKeys setting (c.pairsOf settings) =
      if setting ∈ settings ∧ (c.get setting).isUnset = false then some (c.get setting)
      else none := by
  induction settings with
  | nil => rfl
  | cons other settings ih =>
      have hhead : lastSet? fileKeys setting [(savedKey other, c.get other)] =
          if setting = other ∧ (c.get setting).isUnset = false then some (c.get setting)
          else none := by
        by_cases hother : setting = other
        · subst hother
          cases hset : (c.get setting).isUnset <;> simp [lastSet?, setting?_savedKey, hset]
        · have hne : ¬other = setting := fun heq => hother heq.symm
          simp [lastSet?, setting?_savedKey, hother, hne]
      have hcons : c.pairsOf (other :: settings) =
          [(savedKey other, c.get other)] ++ c.pairsOf settings := rfl
      rw [hcons, lastSet?_append, ih, hhead]
      by_cases hother : setting = other
      · subst hother
        by_cases hmem : setting ∈ settings <;> cases hset : (c.get setting).isUnset <;> simp [hmem]
      · simp [hother]

theorem Accepted.cloud_isSet (h : c.Accepted) : c.cloud.isUnset = false := by
  obtain ⟨found, hfound⟩ := h.cloud
  obtain ⟨hcloud, hknown⟩ := eq_text_of_cloudNamed? hfound
  have hnames : ∀ e ∈ clouds, e.name ≠ "" := by decide
  rw [hcloud]
  exact decide_eq_false (hnames found hknown)

theorem WellTyped.isTrue_of_set (h : c.WellTyped) (hsetting : setting ∈ plainSettings)
    (hset : (c.get setting).isUnset = false) : (c.get setting).isTrue = true := by
  obtain ⟨s, hs⟩ := h.texts setting hsetting
  rw [hs] at hset ⊢
  have hne : s ≠ "" := of_decide_eq_false hset
  exact decide_eq_true hne

/-- What the saved pairs give for a setting. -/
theorem given?_savedPairs (h : c.WellTyped) (setting : Setting) :
    given? fileKeys c.savedPairs setting =
      if setting ≠ .clientSecret ∧ (c.get setting).isUnset = false then some (c.get setting)
      else none := by
  have hoptional : lastSet? fileKeys setting ((c.pairsOf savedIfSet).filter (·.2.isTrue)) =
      lastSet? fileKeys setting (c.pairsOf savedIfSet) := by
    refine lastSet?_filter fun q hq _ hset => ?_
    obtain ⟨other, hother, rfl⟩ := List.mem_map.1 hq
    have hplain : other ∈ plainSettings :=
      (by decide : ∀ setting ∈ savedIfSet, setting ∈ plainSettings) other hother
    exact h.isTrue_of_set hplain hset
  rw [given?, pairs_ofList (nodup_savedPairs c), savedPairs, lastSet?_append, hoptional,
    lastSet?_pairsOf, lastSet?_pairsOf]
  cases setting <;> simp [alwaysSaved, savedIfSet]

/-- Each setting gets back the value that it had. A setting that is left out has its default, the
empty text; the cloud, whose default is another one, is never left out. -/
theorem ofPairs_savedPairs (h : c.WellTyped) (hcloud : c.cloud.isUnset = false) :
    ofPairs limits fileKeys c.savedPairs = .ok c.withoutSecret := by
  rw [ofPairs_eq_ok_iff]
  intro setting
  rw [given?_savedPairs h, withoutSecret, get_set]
  have htext : setting ∈ plainSettings → default.get setting = .text "" →
      settled limits setting
        (if (c.get setting).isUnset = false then some (c.get setting) else none) =
          .ok (c.get setting) := by
    intro hplain hdefault
    obtain ⟨s, hs⟩ := h.texts setting hplain
    rw [settled_of_plain hplain, hs, hdefault]
    by_cases hempty : s = ""
    · subst hempty
      rfl
    · have hset : (Value.text s).isUnset = false := decide_eq_false hempty
      rw [if_pos hset]
      rfl
  cases setting with
  | clientSecret => rfl
  | cloud =>
      rw [if_pos ⟨by decide, hcloud⟩]
      rfl
  | refreshInterval =>
      obtain ⟨x, hx⟩ := h.interval
      have hget : c.get .refreshInterval = .float x := hx
      rw [hget]
      rfl
  | fleets =>
      obtain ⟨names, hnames⟩ := h.fleets
      have hget : c.get .fleets = .list (names.map .text) := hnames
      rw [hget]
      rfl
  | _ => simpa using htext (by decide) rfl

theorem WellTyped.isPlain (h : c.WellTyped) (setting : Setting) :
    isPlain (c.get setting) = true := by
  by_cases hplain : setting ∈ plainSettings
  · obtain ⟨s, hs⟩ := h.texts setting hplain
    rw [hs]
    rfl
  · cases setting with
    | refreshInterval =>
        obtain ⟨x, hx⟩ := h.interval
        rw [get, hx]
        rfl
    | fleets =>
        obtain ⟨names, hnames⟩ := h.fleets
        rw [get, hnames]
        simp [Toml.isPlain, isSimple]
    | _ => exact absurd (by decide) hplain

theorem isPlain_of_mem_savedPairs (h : c.WellTyped) {p : String × Value} (hp : p ∈ c.savedPairs) :
    isPlain p.2 = true := by
  rcases List.mem_append.1 hp with hp | hp
  · obtain ⟨setting, -, rfl⟩ := List.mem_map.1 hp
    exact h.isPlain setting
  · obtain ⟨setting, -, rfl⟩ := List.mem_map.1 (List.mem_of_mem_filter hp)
    exact h.isPlain setting

/-- The saved pairs are read back from the document of the configuration. -/
theorem parse_documentOf (h : c.WellTyped) {document : Toml.Table × String}
    (h' : Storage.documentOf limits c = .ok document) :
    Storage.parse limits document.2.toUTF8 = .ok c.savedPairs := by
  obtain ⟨names, hnames⟩ := h.fleets
  obtain ⟨cs, hwritten, hread⟩ := read_document limits c.nodup_savedPairs
    fun p hp => isPlain_of_mem_savedPairs h hp
  obtain ⟨entries, text⟩ := document
  obtain ⟨hentries, -, cs', hdocument, rfl⟩ := Storage.documentOf_eq_ok_iff.1 h'
  obtain rfl := Except.ok.inj ((entries_eq_savedPairs hnames).symm.trans hentries)
  obtain rfl := Option.some.inj (hwritten.symm.trans hdocument)
  exact Storage.parse_toUTF8 hread

theorem withoutSecret_eq_self (h : c.WellTyped) (hprincipal : c.usesServicePrincipal = false) :
    c.withoutSecret = c := by
  obtain ⟨s, hs⟩ := h.texts .clientSecret (by decide)
  have hsecret : c.clientSecret.isTrue = false := (Bool.or_eq_false_iff.1 hprincipal).2
  change c.clientSecret = .text s at hs
  rw [hs] at hsecret
  have hempty : s = "" := not_not.1 (of_decide_eq_false hsecret)
  refine ext_get fun setting => ?_
  rw [withoutSecret, get_set]
  split_ifs with hsetting
  · rw [hsetting, get, hs, hempty]
  · rfl

/-- Without its secret, a service principal is incomplete. -/
theorem check_withoutSecret (h : c.Accepted) (hprincipal : c.usesServicePrincipal = true) :
    c.withoutSecret.check = .error (.refused .noClientSecret) := by
  obtain ⟨htenant, hclient, -⟩ := h.servicePrincipal hprincipal
  have hstill : c.withoutSecret.usesServicePrincipal = true := by
    change (c.tenantId.isTrue || c.clientId.isTrue || false) = true
    rw [htenant]
    rfl
  have hsecret : c.withoutSecret.checkServicePrincipal = .error (.refused .noClientSecret) := by
    rw [checkServicePrincipal, if_pos hstill]
    change (require c.tenantId .noTenant >>= fun _ => require c.clientId .noClientId >>= fun _ =>
      require (.text "") .noClientSecret) = _
    rw [require_eq_ok_iff.2 htenant, require_eq_ok_iff.2 hclient]
    rfl
  rw [check_eq]
  simp only [except_then_eq_error_iff, hsecret]
  exact .inr ⟨require_eq_ok_iff.2 h.resourceGroup, .inr ⟨require_eq_ok_iff.2 h.subscriptionId,
    .inr ⟨checkCloud_eq_ok_iff.2 h.cloud, .inl trivial⟩⟩⟩

end

end FleetConfig

namespace Storage

open FleetConfig

/-- Nothing but a plain file has the last name of a path, whatever directories are made. -/
def PlainAt (d : Disk) (p : FilePath) : Prop :=
  ∀ made place node, d.Grows made → made.locate p = .ok place → d.leaf? place = some node →
    ∃ content mode, node = .file content mode

/-- The way to a path does not go through what lies there, whatever directories are made. -/
def SteadyAt (d : Disk) (p : FilePath) : Prop :=
  ∀ made place content mode, d.Grows made → made.locate p = .ok place →
    (∀ mode, made.node? place ≠ some (.directory mode)) →
      (made.put place (.file content mode)).locate p = .ok place

/-- What loading relies on when a configuration was saved: the host writes its document as Unicode,
nothing but a plain file lies beside the target, the target is not on the way to itself, and the
owner of a file may read it. A save can succeed without any of these. But the document may then be
in another encoding, it may have gone to a device or be behind a link that leads back to itself,
and a path such as `l/../l` leads nowhere when the link `l` was replaced. -/
structure Ordinary (c : FleetConfig) (temp target : FilePath) (d : Disk) : Prop where
  unicode : ∀ document content, SavedAs c d.host document content → content = document.2.toUTF8
  beside : PlainAt d temp
  there : SteadyAt d target
  readable : ∀ made place, d.Grows made → made.locate target = .ok place →
    ∀ access ∈ [Access.look, .read, .fetch], d.host.refuses? access place = none

section
variable {limits : Limits} {c : FleetConfig} {temp target : FilePath} {d d' : Disk}
  {document : Toml.Table × String} {content : ByteArray} {beside entry place : Place}
  {st st' : Storage}

/-! ## Where the document lies -/

theorem PlainAt.not_link (h : PlainAt d temp) {made : Disk} (hgrows : d.Grows made)
    (hlocate : made.locate temp = .ok entry) (target : FilePath) :
    made.node? entry ≠ some (.link target) := by
  intro hlink
  rw [← Disk.leaf?_eq_link_iff, hgrows.leaf?] at hlink
  obtain ⟨content, mode, heq⟩ := h made entry _ hgrows hlocate hlink
  cases heq

/-- Only plain files were written to, so the document is a plain file beside the target. -/
theorem Laid.touches_file (h : Laid c temp target st d document beside content)
    (hplain : PlainAt st.disk temp) :
    d.Touches beside (.file content ownerOnly) (laid d beside content) := by
  obtain ⟨entry, hstands⟩ := h.toOpened.exists_stands
  obtain rfl := Disk.eq_of_not_link hstands.locate hstands.resolve
    (hplain.not_link hstands.grows hstands.locate)
  have hdraft := h.draft_of_plain fun node => hplain d entry node hstands.grows hstands.locate
  have htouches := h.touches
  rwa [draft, h.toOpened.slot, ← draft, hdraft] at htouches

/-- A target that is no link is steady. -/
theorem steadyAt_of_plainAt (h : PlainAt d target) : SteadyAt d target := by
  intro made place content mode hgrows hplace hfree
  refine Disk.lead_of_keeps (Disk.keeps_put (fun mode' hdirectory => ?_) fun link => ?_) hplace
  · exact absurd hdirectory (hfree mode')
  · exact iff_of_false nofun (h.not_link hgrows hplace link)

/-- A plain file is moved to the target, whatever was there. -/
theorem of_moveFile_of_plain (htouches : d.Touches beside (.file content ownerOnly) d')
    (hresolve : d.resolve temp = .ok beside) {after : Disk}
    (hmove : d'.moveFile temp target = .ok after)
    (htemp : ∀ entry, d.locate temp = .ok entry → ∀ target, d.node? entry ≠ some (.link target))
    (htarget : ∀ place, d.locate target = .ok place →
      (∀ mode, d.node? place ≠ some (.directory mode)) →
        (d.put place (.file content ownerOnly)).locate target = .ok place) :
    after.home = d.home ∧ after.host = d.host ∧ ∃ place, d.locate target = .ok place ∧
      after.resolve target = .ok place ∧ after.node? place = some (.file content ownerOnly) := by
  obtain ⟨entry, place, node, hentry, hplace, -, hnode, hend⟩ := Disk.of_moveFile hmove
  have hentry' := Disk.lead_of_keeps htouches.keeps_back hentry
  have hplace' := Disk.lead_of_keeps htouches.keeps_back hplace
  obtain rfl := Disk.eq_of_not_link hentry' hresolve (htemp entry hentry')
  obtain rfl : .file content ownerOnly = node := Option.some.inj (htouches.node?.symm.trans hnode)
  have hresolved : ∀ {after : Disk}, after.locate target = .ok place →
      after.node? place = some (.file content ownerOnly) → after.resolve target = .ok place :=
    fun hlocate hfile =>
      Disk.resolve_of_locate (fun link hlink => by cases hfile.symm.trans hlink) hlocate
  obtain ⟨rfl, rfl⟩ | ⟨-, hfree, rfl⟩ := hend
  · exact ⟨htouches.keeps.home, htouches.host, entry, hplace', hresolved hplace hnode, hnode⟩
  · have herased : d.Keeps (d'.erase entry) := by
      refine htouches.keeps.trans
        (Disk.keeps_erase (fun mode hdirectory => ?_) fun link hlink => ?_)
      · cases hnode.symm.trans hdirectory
      · cases hnode.symm.trans hlink
    have hsteady := htarget place hplace' fun mode hdirectory =>
      hfree mode (htouches.directory hdirectory)
    have hfile := Disk.node?_put_self (d'.erase entry) place (.file content ownerOnly)
    exact ⟨herased.home, herased.host, place, hplace',
      hresolved (Disk.lead_of_keeps (herased.put place _) hsteady) hfile, hfile⟩

/-- What lies at the target after a save that succeeds. -/
theorem saved_of_save {path : Option String} (h : save c path st = (.ok target, st'))
    (hordinary : ∀ temp, tempOf target = .ok temp → Ordinary c temp target st.disk) :
    (targetOf path st).1 = .ok target ∧ st'.disk.home = st.disk.home ∧
      st'.disk.host = st.disk.host ∧
      ∃ document place, documentOf st.disk.host.limits c = .ok document ∧
        Reads st'.disk target place (.file document.2.toUTF8 ownerOnly) document.2.toUTF8 := by
  obtain ⟨f, hfail, -⟩ | ⟨target', temp, r, after, htarget, htemp, hend, hsave⟩ :=
    save_cases c path st
  · cases hfail.symm.trans h
  · rw [h] at hsave
    obtain ⟨rfl, rfl⟩ := Prod.mk.inj hsave
    cases hend with
    | saved hend =>
        cases hend with
        | @moved made _ document beside content hlaid hpath hmove =>
            have hhost := hordinary temp htemp
            obtain rfl := hhost.unicode document content hlaid.saved
            have hgrows := hlaid.toMade.grows
            obtain ⟨hhome, hsame, place, hplace, hresolve, hnode⟩ := of_moveFile_of_plain
              (hlaid.touches_file hhost.beside) hlaid.resolve hmove
              (fun entry => hhost.beside.not_link hgrows)
              (fun place hplace => hhost.there made place _ _ hgrows hplace)
            have hallowed := hhost.readable made place hgrows hplace
            have hhost' := hsame.trans hgrows.host
            rw [← hhost'] at hallowed hpath
            refine ⟨htarget, hhome.trans hgrows.home, hhost', document, place, hlaid.drafted,
              ⟨hpath, hresolve, hnode, hallowed _ (by simp)⟩, ?_, rfl, hallowed _ (by simp),
              hallowed _ (by simp)⟩
            exact fun hopen => absurd (by decide : ownerOnly &&& othersMask = 0) hopen

/-! ## What is loaded -/

/-- What becomes of a saved configuration when it is loaded. -/
theorem ofContent_documentOf (hkinds : c.WellTyped) (haccepted : c.Accepted)
    (hdocument : documentOf limits c = .ok document) :
    ofContent limits document.2.toUTF8 =
      if c.usesServicePrincipal then .error (.refused .noClientSecret) else .ok c := by
  have hparse := parse_documentOf hkinds hdocument
  have hpairs : ofPairs limits fileKeys (documentPairs c.savedPairs) = .ok c.withoutSecret := by
    rw [documentPairs_savedPairs]
    exact ofPairs_savedPairs hkinds haccepted.cloud_isSet
  split_ifs with hprincipal
  · rw [ofContent, hparse]
    change (ofPairs limits fileKeys (documentPairs c.savedPairs) >>= _) = _
    rw [hpairs]
    change (c.withoutSecret.check >>= _) = _
    rw [check_withoutSecret haccepted hprincipal]
    rfl
  · rw [withoutSecret_eq_self hkinds (Bool.eq_false_iff.2 hprincipal)] at hpairs
    exact ofContent_eq_ok_iff.2 ⟨_, hparse, hpairs, haccepted,
      hkinds.reported_of_accepted haccepted⟩

end

/-- A configuration with characters that are written as escapes. -/
def escapedConfig : FleetConfig :=
  { FleetConfig.default with
    subscriptionId := .text "a \"quoted\" text"
    resourceGroup := .text "back\\slash, line\nand control \x01"
    refreshInterval := .float (Binary64.ofNat 600)
    fleets := .list [.text "1:10:pool"] }

/-- The empty disk, before anything is reported. -/
def empty : Storage := ⟨.empty, []⟩

theorem plainAt_empty (p : FilePath) : PlainAt Disk.empty p := by
  intro made place node _ _ hleaf
  rw [Disk.leaf?, Disk.node?] at hleaf
  by_cases hroot : place = []
  · rw [if_pos hroot] at hleaf
    cases hleaf
  · rw [if_neg hroot] at hleaf
    cases hleaf

theorem ordinary_empty (c : FleetConfig) (temp target : FilePath) :
    Ordinary c temp target Disk.empty where
  unicode document content h := by
    have hspelled := h.spelled
    rw [spell] at hspelled
    split at hspelled
    · cases hspelled
    · next hcontent =>
        obtain rfl := Except.ok.inj hspelled
        exact (Option.some.inj hcontent).symm
    · cases hspelled
  beside := plainAt_empty temp
  there := steadyAt_of_plainAt (plainAt_empty target)
  readable _ _ _ _ _ _ := rfl

end Storage
end FleetWarden
