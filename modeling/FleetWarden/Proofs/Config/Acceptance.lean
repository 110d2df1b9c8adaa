import FleetWarden.Proofs.Config.Settings

/-!
# What a check accepts

`check` goes through the settings in a fixed order. What it asks of them is put into structures,
each of which adds to the one before what the check comes to next: `Identified`, `Equipped`,
`Accepted`. A check passes exactly the accepted configurations (`check_eq_ok_iff`). It breaks off,
and names no setting, in the cases of `CheckBreaks` (`check_eq_broke_iff`).
-/

namespace FleetWarden

open Text Numeral

namespace FleetConfig

/-- The resource group and the subscription are set. -/
structure Identified (c : FleetConfig) : Prop where
  resourceGroup : c.resourceGroup.isTrue = true
  subscriptionId : c.subscriptionId.isTrue = true

/-- The cloud is known, the service principal is configured in full or not at all, and the refresh
interval is positive. -/
structure Equipped (c : FleetConfig) : Prop extends Identified c where
  cloud : ∃ e, cloudNamed? c.cloud = some e
  servicePrincipal : c.usesServicePrincipal = true →
    c.tenantId.isTrue = true ∧ c.clientId.isTrue = true ∧ c.clientSecret.isTrue = true
  interval : c.refreshInterval.atMostZero = .ok false

/-- The fleets can be read, too. -/
structure Accepted (c : FleetConfig) : Prop extends Equipped c where
  fleets : ∃ fs, c.descriptors = .ok fs

/-- The settings are of the kind that is asked for, as far as that is texts: the plain ones are
texts, and the fleets are a list of texts. -/
structure Textual (c : FleetConfig) : Prop where
  texts : ∀ setting ∈ plainSettings, ∃ s, c.get setting = .text s
  fleets : ∃ names : List String, c.fleets = .list (names.map .text)

section
variable {c : FleetConfig} {v : Value} {e : ConfigError} {b : Breakdown}

theorem require_eq_ok_iff : require v e = .ok () ↔ v.isTrue = true := by
  rw [require]
  split_ifs with htrue
  · exact ⟨fun _ => htrue, fun _ => rfl⟩
  · exact ⟨nofun, fun h => absurd h htrue⟩

theorem require_ne_broke : require v e ≠ .error (.broke b) := by
  rw [require]
  split_ifs
  · exact nofun
  · exact nofun

theorem eq_text_of_cloudNamed? {found : CloudEndpoints} (h : cloudNamed? v = some found) :
    v = .text found.name ∧ found ∈ clouds := by
  cases v with
  | text s =>
      change clouds.find? (·.name = s) = some found at h
      have hname : found.name = s := by simpa using List.find?_some h
      exact ⟨by rw [hname], List.mem_of_find?_eq_some h⟩
  | _ => cases h

theorem Textual.isWritable (h : c.Textual) {setting : Setting} (hplain : setting ∈ plainSettings) :
    (c.get setting).isWritable = true := by
  obtain ⟨s, hs⟩ := h.texts setting hplain
  rw [hs]
  rfl

theorem tell_eq_error_iff {f : ConfigFault} :
    v.tell = .error f ↔ v.isWritable = false ∧ f = .broke .unwritable := by
  rw [Value.tell]
  split_ifs with hwritable
  · exact ⟨nofun, fun h => absurd hwritable (Bool.eq_false_iff.1 h.1)⟩
  · have hfalse : v.isWritable = false := Bool.eq_false_iff.2 hwritable
    exact ⟨fun h => ⟨hfalse, (Except.error.inj h).symm⟩, fun h => h.2 ▸ rfl⟩

theorem tellWithin_of_overflow {limits : Limits} {passage : Passage} {said : String}
    (h : limits.overflow? passage v = some said) :
    v.tellWithin limits passage = .error (.broke (.tooDeep said)) := by
  rw [Value.tellWithin, h]

theorem tellWithin_of_not_overflow {limits : Limits} {passage : Passage}
    (h : limits.overflow? passage v = none) : v.tellWithin limits passage = v.tell := by
  rw [Value.tellWithin, h]

theorem tellWithin_eq_error_iff {limits : Limits} {passage : Passage} {f : ConfigFault} :
    v.tellWithin limits passage = .error f ↔
      (∃ said, limits.overflow? passage v = some said ∧ f = .broke (.tooDeep said)) ∨
        limits.overflow? passage v = none ∧ v.isWritable = false ∧ f = .broke .unwritable := by
  cases hdeep : limits.overflow? passage v with
  | some said => simp [tellWithin_of_overflow hdeep, eq_comm (a := f)]
  | none => simp [tellWithin_of_not_overflow hdeep, tell_eq_error_iff]

/-- A value is told unless it is too deep or holds a number of too many digits. -/
theorem exists_tellWithin_iff {limits : Limits} {passage : Passage} :
    (∃ shown, v.tellWithin limits passage = .ok shown) ↔
      limits.overflow? passage v = none ∧ v.isWritable = true := by
  cases hdeep : limits.overflow? passage v with
  | some said => simp [tellWithin_of_overflow hdeep]
  | none =>
      rw [tellWithin_of_not_overflow hdeep]
      cases hwritable : v.isWritable <;> simp [Value.tell, hwritable]

/-- Texts can always be told. -/
theorem Textual.exists_tellWithin (h : c.Textual) {setting : Setting}
    (hplain : setting ∈ plainSettings) (limits : Limits) (passage : Passage) :
    ∃ shown, (c.get setting).tellWithin limits passage = .ok shown := by
  refine exists_tellWithin_iff.2 ⟨limits.shallow _ _ ?_, h.isWritable hplain⟩
  obtain ⟨s, hs⟩ := h.texts setting hplain
  rw [hs]
  simp [Value.levels]

theorem checkCloud_eq_ok_iff :
    c.checkCloud = .ok () ↔ ∃ found, cloudNamed? c.cloud = some found := by
  rw [checkCloud]
  constructor
  · intro h
    split_ifs at h
    cases hcloud : cloudNamed? c.cloud with
    | none =>
        rw [hcloud] at h
        obtain ⟨shown, -, hshown⟩ := except_bind_eq_ok_iff.1 h
        cases hshown
    | some found => exact ⟨found, rfl⟩
  · rintro ⟨found, hfound⟩
    have hkey : c.cloud.isKey = true := by
      rw [(eq_text_of_cloudNamed? hfound).1]
      rfl
    rw [if_pos hkey, hfound]

theorem checkCloud_eq_broke_iff :
    c.checkCloud = .error (.broke b) ↔
      c.cloud.isKey = false ∧ b = .wrongType ∨
        c.cloud.isKey = true ∧ cloudNamed? c.cloud = none ∧ c.cloud.isWritable = false ∧
          b = .unwritable := by
  rw [checkCloud]
  by_cases hkey : c.cloud.isKey = true
  · rw [if_pos hkey]
    cases hcloud : cloudNamed? c.cloud with
    | none =>
        change (c.cloud.tell >>= fun shown => .error (.refused (.unknownCloud shown))) = _ ↔ _
        rw [except_bind_eq_error_iff, tell_eq_error_iff]
        simp [hkey]
    | some found => simp [hkey]
  · rw [if_neg hkey]
    simp [hkey, eq_comm (a := b)]

theorem checkServicePrincipal_eq_ok_iff :
    c.checkServicePrincipal = .ok () ↔ (c.usesServicePrincipal = true →
      c.tenantId.isTrue = true ∧ c.clientId.isTrue = true ∧ c.clientSecret.isTrue = true) := by
  rw [checkServicePrincipal]
  split_ifs with h
  · simp only [except_then_eq_ok_iff, require_eq_ok_iff, h, forall_const]
  · simp only [h, Bool.false_eq_true, false_implies]

theorem checkServicePrincipal_ne_broke : c.checkServicePrincipal ≠ .error (.broke b) := by
  rw [checkServicePrincipal]
  split_ifs
  · simp [except_then_eq_error_iff, require_ne_broke]
  · exact nofun

theorem checkInterval_eq_ok_iff :
    c.checkInterval = .ok () ↔ c.refreshInterval.atMostZero = .ok false := by
  rw [checkInterval, except_bind_eq_ok_iff]
  constructor
  · rintro ⟨low, hlow, h⟩
    cases low with
    | false => exact hlow
    | true =>
        obtain ⟨shown, -, hshown⟩ := except_bind_eq_ok_iff.1 h
        cases hshown
  · intro h
    exact ⟨false, h, rfl⟩

theorem checkInterval_ne_broke {x : Binary64} (hx : c.refreshInterval = .float x) :
    c.checkInterval ≠ .error (.broke b) := by
  rw [checkInterval, hx]
  change (if x.atMostZero = true then _ else _) ≠ _
  split_ifs
  · exact nofun
  · exact nofun

theorem check_eq : c.check = (do
    require c.resourceGroup .noResourceGroup
    require c.subscriptionId .noSubscription
    c.checkCloud
    c.checkServicePrincipal
    c.checkInterval
    c.descriptors.map fun _ => ()) := by
  rw [check]
  cases c.descriptors <;> rfl

/-- The check passes exactly what is accepted. -/
theorem check_eq_ok_iff : c.check = .ok () ↔ c.Accepted := by
  rw [check_eq]
  simp only [except_then_eq_ok_iff, require_eq_ok_iff, checkCloud_eq_ok_iff,
    checkServicePrincipal_eq_ok_iff, checkInterval_eq_ok_iff, except_map_eq_ok_iff, and_true]
  constructor
  · rintro ⟨hgroup, hsubscription, hcloud, hprincipal, hinterval, hfleets⟩
    exact ⟨⟨⟨hgroup, hsubscription⟩, hcloud, hprincipal, hinterval⟩, hfleets⟩
  · intro h
    exact ⟨h.resourceGroup, h.subscriptionId, h.cloud, h.servicePrincipal, h.interval, h.fleets⟩

end

/-- The cases in which a check breaks off. -/
inductive CheckBreaks (c : FleetConfig) : Breakdown → Prop
  | cloudNotKey (h : c.Identified) (hcloud : c.cloud.isKey = false) : CheckBreaks c .wrongType
  | cloudUnwritable (h : c.Identified) (hkey : c.cloud.isKey = true)
      (hunknown : cloudNamed? c.cloud = none) (hcloud : c.cloud.isWritable = false) :
      CheckBreaks c .unwritable
  | fleetsWithoutItems (h : c.Equipped) (hfleets : ∀ items, c.fleets.elements ≠ .ok items) :
      CheckBreaks c .wrongType
  | fleetNotText (h : c.Equipped) {before after : List Value} {v : Value}
      (hfleets : c.fleets.elements = .ok (before ++ v :: after))
      (hbefore : ∀ w ∈ before, ∃ f, readFleet w = .ok f) (hv : ∀ s, v ≠ .text s) :
      CheckBreaks c .notText

section
variable {c : FleetConfig} {b : Breakdown}

theorem elements_eq_error {v : Value} {f : ConfigFault} (h : v.elements = .error f) :
    f = .broke .wrongType := by
  cases v <;> first | cases h; rfl | cases h

theorem readFleet_eq_broke_iff {v : Value} :
    readFleet v = .error (.broke b) ↔ (∀ s, v ≠ .text s) ∧ b = .notText := by
  cases v with
  | text s =>
      rw [readFleet]
      cases FleetSpec.read s <;> simp [Except.mapError]
  | _ => simp [readFleet, eq_comm]

theorem readFleet_text_eq_ok_iff {name : String} {spec : FleetSpec} :
    readFleet (.text name) = .ok spec ↔ FleetSpec.read name = .ok spec := by
  rw [readFleet]
  cases FleetSpec.read name <;> simp [Except.mapError]

theorem readFleets_eq_ok_iff {names : List String} {specs : List FleetSpec} :
    readFleets (names.map .text) = .ok specs ↔ names.map FleetSpec.read = specs.map .ok := by
  induction names generalizing specs with
  | nil => cases specs <;> simp [readFleets]
  | cons name rest ih =>
      rw [List.map_cons, readFleets, except_bind_eq_ok_iff]
      constructor
      · rintro ⟨f, hf, hrest⟩
        obtain ⟨fs, hfs, heq⟩ := except_bind_eq_ok_iff.1 hrest
        obtain rfl := Except.ok.inj heq
        rw [List.map_cons, List.map_cons, ih.1 hfs, readFleet_text_eq_ok_iff.1 hf]
      · intro h
        cases specs with
        | nil => cases h
        | cons f fs =>
            obtain ⟨hf, hfs⟩ := List.cons.inj h
            rw [readFleet_text_eq_ok_iff.2 hf, ih.2 hfs]
            exact ⟨f, rfl, rfl⟩

/-- The fleets before the first one that is no text are read. -/
theorem readFleets_eq_broke_iff {items : List Value} :
    readFleets items = .error (.broke b) ↔
      ∃ before v after, items = before ++ v :: after ∧
        (∀ w ∈ before, ∃ f, readFleet w = .ok f) ∧ (∀ s, v ≠ .text s) ∧ b = .notText := by
  induction items with
  | nil => simp [readFleets]
  | cons v items ih =>
      rw [readFleets, except_bind_eq_error_iff, readFleet_eq_broke_iff]
      constructor
      · rintro (⟨hv, rfl⟩ | ⟨f, hf, h⟩)
        · exact ⟨[], v, items, rfl, by simp, hv, rfl⟩
        · have hitems : readFleets items = .error (.broke b) := by
            rcases except_bind_eq_error_iff.1 h with hitems | ⟨fs, -, hfs⟩
            · exact hitems
            · cases hfs
          obtain ⟨before, w, after, rfl, hbefore, hw, rfl⟩ := ih.1 hitems
          refine ⟨v :: before, w, after, rfl, ?_, hw, rfl⟩
          exact List.forall_mem_cons.2 ⟨⟨f, hf⟩, hbefore⟩
      · rintro ⟨before, w, after, heq, hbefore, hw, rfl⟩
        cases before with
        | nil =>
            obtain ⟨rfl, rfl⟩ := List.cons.inj heq
            exact .inl ⟨hw, rfl⟩
        | cons u before =>
            obtain ⟨rfl, rfl⟩ := List.cons.inj heq
            obtain ⟨⟨f, hf⟩, hbefore⟩ := List.forall_mem_cons.1 hbefore
            refine .inr ⟨f, hf, except_bind_eq_error_iff.2 (.inl ?_)⟩
            exact ih.2 ⟨before, w, after, rfl, hbefore, hw, rfl⟩

theorem descriptors_eq_broke_iff :
    c.descriptors = .error (.broke b) ↔
      (∀ items, c.fleets.elements ≠ .ok items) ∧ b = .wrongType ∨
        ∃ before v after, c.fleets.elements = .ok (before ++ v :: after) ∧
          (∀ w ∈ before, ∃ f, readFleet w = .ok f) ∧ (∀ s, v ≠ .text s) ∧ b = .notText := by
  rw [descriptors]
  cases h : c.fleets.elements with
  | error f =>
      obtain rfl := elements_eq_error h
      simp [bind, Except.bind, eq_comm]
  | ok items =>
      change readFleets items = _ ↔ _
      simp [readFleets_eq_broke_iff]

/-- The check breaks off exactly in the cases listed. -/
theorem check_eq_broke_iff {x : Binary64} (hx : c.refreshInterval = .float x) :
    c.check = .error (.broke b) ↔ c.CheckBreaks b := by
  rw [check_eq]
  simp only [except_then_eq_error_iff, require_eq_ok_iff, require_ne_broke, false_or,
    checkCloud_eq_broke_iff, checkCloud_eq_ok_iff, checkServicePrincipal_ne_broke,
    checkServicePrincipal_eq_ok_iff, checkInterval_ne_broke hx, checkInterval_eq_ok_iff,
    except_map_eq_error_iff, descriptors_eq_broke_iff]
  constructor
  · rintro ⟨hgroup, hsubscription, (⟨hcloud, rfl⟩ | ⟨hkey, hunknown, hcloud, rfl⟩) |
      ⟨hcloud, hprincipal, hinterval, ⟨hfleets, rfl⟩ |
        ⟨before, v, after, hfleets, hbefore, hv, rfl⟩⟩⟩
    · exact .cloudNotKey ⟨hgroup, hsubscription⟩ hcloud
    · exact .cloudUnwritable ⟨hgroup, hsubscription⟩ hkey hunknown hcloud
    · exact .fleetsWithoutItems ⟨⟨hgroup, hsubscription⟩, hcloud, hprincipal, hinterval⟩ hfleets
    · exact .fleetNotText ⟨⟨hgroup, hsubscription⟩, hcloud, hprincipal, hinterval⟩ hfleets hbefore
        hv
  · rintro (⟨h, hcloud⟩ | ⟨h, hkey, hunknown, hcloud⟩ | ⟨h, hfleets⟩ | ⟨h, hfleets, hbefore, hv⟩)
    · exact ⟨h.resourceGroup, h.subscriptionId, .inl (.inl ⟨hcloud, rfl⟩)⟩
    · exact ⟨h.resourceGroup, h.subscriptionId, .inl (.inr ⟨hkey, hunknown, hcloud, rfl⟩)⟩
    · exact ⟨h.resourceGroup, h.subscriptionId,
        .inr ⟨h.cloud, h.servicePrincipal, h.interval, .inl ⟨hfleets, rfl⟩⟩⟩
    · exact ⟨h.resourceGroup, h.subscriptionId,
        .inr ⟨h.cloud, h.servicePrincipal, h.interval,
          .inr ⟨_, _, _, hfleets, hbefore, hv, rfl⟩⟩⟩

end

end FleetConfig
end FleetWarden
