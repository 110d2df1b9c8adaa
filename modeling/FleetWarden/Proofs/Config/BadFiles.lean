import FleetWarden.Proofs.Config.Acceptance
import FleetWarden.Proofs.Config.Loading

/-!
# Bad files

A bad file should be refused in plain words, but some faults get past all guards: text that is not
Unicode, limits of the notation, numbers that are too large to be converted or to be shown, values
that are too deep to be shown, and values of a kind that a check is not made for. Some errors of the
disk get past them too, since the file is looked for before any guard is set up. `LoadBreaks` lists
all this, and nothing else breaks off a load (`load_breaks_iff`).
-/

namespace FleetWarden

open Numeral

namespace Value

section
variable {v : Value}

theorem entriesWritable_eq_true_iff {entries : List (String × Value)} :
    entriesWritable entries = true ↔ ∀ p ∈ entries, p.2.isWritable = true := by
  induction entries with
  | nil => simp [entriesWritable]
  | cons p entries ih =>
      obtain ⟨key, v⟩ := p
      rw [entriesWritable, Bool.and_eq_true, ih, List.forall_mem_cons]

theorem itemLevels_le {items : List Value} {n : Nat} (h : ∀ v ∈ items, v.levels ≤ n) :
    itemLevels items ≤ n := by
  induction items with
  | nil => exact Nat.zero_le n
  | cons v items ih =>
      obtain ⟨hv, hitems⟩ := List.forall_mem_cons.1 h
      exact Nat.max_le.2 ⟨hv, ih hitems⟩

theorem entryLevels_le {entries : List (String × Value)} {n : Nat}
    (h : ∀ p ∈ entries, p.2.levels ≤ n) : entryLevels entries ≤ n := by
  induction entries with
  | nil => exact Nat.zero_le n
  | cons p entries ih =>
      obtain ⟨hp, hentries⟩ := List.forall_mem_cons.1 h
      exact Nat.max_le.2 ⟨hp, ih hentries⟩

/-- What cannot be written counts as set. -/
theorem isTrue_of_not_isWritable (h : v.isWritable = false) : v.isTrue = true := by
  cases v with
  | int n =>
      have hn : n ≠ 0 := by
        rintro rfl
        exact absurd h (by decide)
      simpa [isTrue] using hn
  | list items =>
      cases items with
      | nil => cases h
      | cons v items => rfl
  | table entries =>
      cases entries with
      | nil => cases h
      | cons p entries => rfl
  | _ => cases h

end

end Value

namespace FleetConfig

/-- The settings that are shown as they came when a configuration is loaded. -/
def shownSettings : List Setting :=
  [.subscriptionId, .resourceGroup, .tenantId, .clientId, .location]

section
variable {limits : Limits} {c : FleetConfig} {keys : KeyTable}
  {source : List (String × Value)} {b : Breakdown}

theorem exists_float_of_ofPairs (h : ofPairs limits keys source = .ok c) :
    ∃ x, c.refreshInterval = .float x := by
  have hinterval := ofPairs_eq_ok_iff.1 h .refreshInterval
  cases hgiven : given? keys source .refreshInterval with
  | none =>
      rw [hgiven] at hinterval
      exact ⟨_, (Except.ok.inj hinterval).symm⟩
  | some v =>
      rw [hgiven, settled, except_map_eq_ok_iff] at hinterval
      obtain ⟨x, -, hx⟩ := hinterval
      exact ⟨x, hx.symm⟩

theorem seconds_eq_broke_iff {v : Value} :
    seconds limits v = .error (.broke b) ↔
      (∃ n, v = .int n ∧ Binary64.ofInt? n = none ∧ b = .outOfRange) ∨
        (∃ said, limits.overflow? .refusing v = some said ∧ b = .tooDeep said) ∨
        (∀ n, v ≠ .int n) ∧ limits.overflow? .refusing v = none ∧ v.isWritable = false ∧
          b = .unwritable := by
  have hshallow : v.levels = 1 → limits.overflow? .refusing v = none := fun hlevels =>
    limits.shallow _ _ (by omega)
  fun_cases seconds limits v with
  | case1 flag => simp [hshallow rfl, Value.isWritable]
  | case2 n x hn => simp [hn, hshallow rfl]
  | case3 n hn => simp [hn, hshallow rfl, eq_comm (a := b)]
  | case4 x => simp [hshallow rfl, Value.isWritable]
  | case5 s x hs => simp [hshallow rfl, Value.isWritable]
  | case6 s hs => simp [hshallow rfl, Value.isWritable]
  | case7 _ _ hint =>
      have hne : ∀ n, v ≠ .int n := hint
      rw [except_bind_eq_error_iff, tellWithin_eq_error_iff]
      simp [hne]

/-- A source is broken off for its refresh interval only. -/
theorem ofPairs_eq_broke_iff :
    ofPairs limits keys source = .error (.broke b) ↔
      ∃ v, given? keys source .refreshInterval = some v ∧ seconds limits v = .error (.broke b) := by
  rw [ofPairs_eq_error_iff]
  cases given? keys source .refreshInterval with
  | none => simp [settled]
  | some v => simp [settled, except_map_eq_error_iff]

theorem eq_text_of_readFleets {items : List Value} {fs : List FleetSpec}
    (h : readFleets items = .ok fs) : ∀ v ∈ items, ∃ s, v = .text s := by
  induction items generalizing fs with
  | nil => simp
  | cons v items ih =>
      obtain ⟨f, hf, h⟩ := except_bind_eq_ok_iff.1 h
      obtain ⟨fs', hfs, -⟩ := except_bind_eq_ok_iff.1 h
      have hv : ∃ s, v = .text s := by
        cases v with
        | text s => exact ⟨s, rfl⟩
        | _ => cases hf
      exact List.forall_mem_cons.2 ⟨hv, ih hfs⟩

theorem forall_optionalEntries_isWritable :
    (∀ p ∈ c.optionalEntries, p.2.isWritable = true) ↔
      c.tenantId.isWritable = true ∧ c.clientId.isWritable = true ∧
        c.location.isWritable = true := by
  have hset : ∀ v : Value, (v.isTrue = true → v.isWritable = true) ↔ v.isWritable = true := by
    intro v
    refine ⟨fun h => ?_, fun h _ => h⟩
    by_contra hv
    exact hv (h (Value.isTrue_of_not_isWritable (Bool.eq_false_iff.2 hv)))
  simp [optionalEntries, hset]

theorem allWritable_of_texts {items : List Value} (h : ∀ v ∈ items, ∃ s, v = .text s) :
    Value.allWritable items = true := by
  induction items with
  | nil => rfl
  | cons v items ih =>
      obtain ⟨⟨s, rfl⟩, hitems⟩ := List.forall_mem_cons.1 h
      rw [Value.allWritable, ih hitems]
      rfl

/-- The settings of an accepted configuration can be written unless a number in them has too many
digits. -/
theorem maskedEntries_of_accepted (h : c.Accepted) {x : Binary64}
    (hx : c.refreshInterval = .float x) :
    ∃ masked, c.maskedEntries = .ok masked ∧
      ((Value.table masked).isWritable = true ↔
        ∀ setting ∈ shownSettings, (c.get setting).isWritable = true) := by
  obtain ⟨fs, hfs⟩ := h.fleets
  obtain ⟨items, hitems, hread⟩ := except_bind_eq_ok_iff.1 hfs
  obtain ⟨found, hfound⟩ := h.cloud
  have hcloud : c.cloud.isWritable = true := by
    rw [(eq_text_of_cloudNamed? hfound).1]
    rfl
  have hinterval : c.refreshInterval.isWritable = true := by
    rw [hx]
    rfl
  have hfleets : (Value.list items).isWritable = true :=
    allWritable_of_texts (eq_text_of_readFleets hread)
  have hentries : c.entries = .ok ([("cloud", c.cloud), ("subscriptionId", c.subscriptionId),
      ("resourceGroup", c.resourceGroup), ("refreshInterval", c.refreshInterval),
      ("fleets", .list items)] ++ c.optionalEntries) := by
    rw [entries, hitems]
    rfl
  rw [maskedEntries, hentries]
  refine ⟨_, rfl, ?_⟩
  have hshown : (∀ setting ∈ shownSettings, (c.get setting).isWritable = true) ↔
      c.subscriptionId.isWritable = true ∧ c.resourceGroup.isWritable = true ∧
        c.tenantId.isWritable = true ∧ c.clientId.isWritable = true ∧
          c.location.isWritable = true := by
    simp [shownSettings, get]
  have hsecret : ∀ p ∈ [("aadClientSecret", Value.text "****")], p.2.isWritable = true := by
    simp [Value.isWritable]
  change Value.entriesWritable _ = true ↔ _
  rw [Value.entriesWritable_eq_true_iff, hshown]
  split_ifs
  · rw [List.forall_mem_append, and_iff_left hsecret, List.forall_mem_append,
      forall_optionalEntries_isWritable]
    simp [hcloud, hinterval, hfleets, and_assoc]
  · rw [List.forall_mem_append, forall_optionalEntries_isWritable]
    simp [hcloud, hinterval, hfleets, and_assoc]

/-- What keeps an accepted configuration from being reported, after its subscription was. -/
inductive ReportBreaks (limits : Limits) (c : FleetConfig) : Breakdown → Prop
  | subscriptionTooDeep {said : String}
      (h : limits.overflow? .reporting c.subscriptionId = some said) :
      ReportBreaks limits c (.tooDeep said)
  | settingsTooDeep {shown : String} {masked : List (String × Value)} {said : String}
      (hshown : c.subscriptionId.tellWithin limits .reporting = .ok shown)
      (hmasked : c.maskedEntries = .ok masked)
      (h : limits.overflow? .reporting (.table masked) = some said) :
      ReportBreaks limits c (.tooDeep said)
  | subscriptionUnwritable (hshallow : limits.overflow? .reporting c.subscriptionId = none)
      (h : c.subscriptionId.isWritable = false) : ReportBreaks limits c .unwritable
  | settingUnwritable {masked : List (String × Value)} {setting : Setting}
      (hsubscription : limits.overflow? .reporting c.subscriptionId = none)
      (hmasked : c.maskedEntries = .ok masked)
      (hshallow : limits.overflow? .reporting (.table masked) = none)
      (hsetting : setting ∈ shownSettings) (h : (c.get setting).isWritable = false) :
      ReportBreaks limits c .unwritable

theorem reported_of_masked {masked : List (String × Value)} (h : c.maskedEntries = .ok masked) :
    Storage.reported limits c = c.subscriptionId.tellWithin limits .reporting >>= fun _ =>
      (Value.table masked).tellWithin limits .reporting >>= fun _ => .ok () := by
  rw [Storage.reported, h]
  rfl

/-- An accepted configuration is reported unless one of these things is in the way. -/
theorem reported_eq_error_iff (h : c.Accepted) {x : Binary64} (hx : c.refreshInterval = .float x)
    {f : ConfigFault} :
    Storage.reported limits c = .error f ↔ ∃ b, f = .broke b ∧ ReportBreaks limits c b := by
  obtain ⟨masked, hmasked, hwritable⟩ := maskedEntries_of_accepted h hx
  rw [reported_of_masked hmasked]
  simp only [except_bind_eq_error_iff, tellWithin_eq_error_iff]
  constructor
  · rintro ((⟨said, hover, rfl⟩ | ⟨hshallow, hsubscription, rfl⟩) |
      ⟨shown, hshown, (⟨said, hover, rfl⟩ | ⟨hshallow, htable, rfl⟩) | ⟨_, -, hend⟩⟩)
    · exact ⟨_, rfl, .subscriptionTooDeep hover⟩
    · exact ⟨_, rfl, .subscriptionUnwritable hshallow hsubscription⟩
    · exact ⟨_, rfl, .settingsTooDeep hshown hmasked hover⟩
    · have hall : ¬∀ setting ∈ shownSettings, (c.get setting).isWritable = true := fun hall =>
        Bool.false_ne_true (htable.symm.trans (hwritable.2 hall))
      push Not at hall
      obtain ⟨setting, hsetting, hfalse⟩ := hall
      exact ⟨_, rfl, .settingUnwritable (exists_tellWithin_iff.1 ⟨shown, hshown⟩).1 hmasked hshallow
        hsetting (Bool.eq_false_iff.2 hfalse)⟩
    · cases hend
  · rintro ⟨b, rfl, hb⟩
    cases hb with
    | subscriptionTooDeep hover => exact .inl (.inl ⟨_, hover, rfl⟩)
    | settingsTooDeep hshown hmasked' hover =>
        obtain rfl := Except.ok.inj (hmasked.symm.trans hmasked')
        exact .inr ⟨_, hshown, .inl (.inl ⟨_, hover, rfl⟩)⟩
    | subscriptionUnwritable hshallow hfalse => exact .inl (.inr ⟨hshallow, hfalse, rfl⟩)
    | settingUnwritable hsubscription hmasked' hshallow hsetting hfalse =>
        obtain rfl := Except.ok.inj (hmasked.symm.trans hmasked')
        have htable : (Value.table masked).isWritable = false :=
          Bool.eq_false_iff.2 fun htable =>
            Bool.false_ne_true (hfalse.symm.trans (hwritable.1 htable _ hsetting))
        cases htold : c.subscriptionId.isWritable with
        | false => exact .inl (.inr ⟨hsubscription, rfl, rfl⟩)
        | true =>
            obtain ⟨shown, hshown⟩ := exists_tellWithin_iff.2 ⟨hsubscription, htold⟩
            exact .inr ⟨shown, hshown, .inl (.inr ⟨hshallow, htable, rfl⟩)⟩

/-- What is shown of every configuration. -/
theorem mem_of_maskedEntries {masked : List (String × Value)} (h : c.maskedEntries = .ok masked) :
    ("resourceGroup", c.resourceGroup) ∈ masked ∧ c.optionalEntries ⊆ masked := by
  obtain ⟨shown, hentries, hmasked⟩ := except_map_eq_ok_iff.1 h
  obtain ⟨items, -, hshown⟩ := except_bind_eq_ok_iff.1 hentries
  obtain rfl := Except.ok.inj hshown
  have hmem : ("resourceGroup", c.resourceGroup) ∈ masked ∧ c.optionalEntries ⊆ masked := by
    subst hmasked
    split_ifs
    · refine ⟨by simp, fun p hp => ?_⟩
      exact List.mem_append_left _ (List.mem_append_right _ hp)
    · exact ⟨by simp, fun p hp => List.mem_append_right _ hp⟩
  exact hmem

/-- What does not count as set can always be told. -/
theorem tellWithin_of_not_isTrue (passage : Passage) {v : Value} (h : v.isTrue = false) :
    ∃ shown, v.tellWithin limits passage = .ok shown := by
  have hwritable : v.isWritable = true := by
    by_contra hfalse
    have htrue := Value.isTrue_of_not_isWritable (Bool.eq_false_iff.2 hfalse)
    exact Bool.false_ne_true (h.symm.trans htrue)
  have hlevels : v.levels = 1 := by
    cases v with
    | list items =>
        cases items with
        | nil => rfl
        | cons v items => cases h
    | table entries =>
        cases entries with
        | nil => rfl
        | cons p entries => cases h
    | _ => rfl
  exact exists_tellWithin_iff.2 ⟨limits.shallow _ _ (by omega), hwritable⟩

/-- What was reported of an accepted configuration can be told again. -/
theorem tellWithin_of_reported (h : c.Accepted) {x : Binary64} (hx : c.refreshInterval = .float x)
    (hreported : Storage.reported limits c = .ok ()) {setting : Setting}
    (hsetting : setting ∈ [.subscriptionId, .resourceGroup, .clientId]) :
    ∃ shown, (c.get setting).tellWithin limits .reporting = .ok shown := by
  obtain ⟨masked, hmasked, hwritable⟩ := maskedEntries_of_accepted h hx
  rw [reported_of_masked hmasked] at hreported
  obtain ⟨shown, hshown, hreported⟩ := except_bind_eq_ok_iff.1 hreported
  obtain ⟨table, htable, -⟩ := except_bind_eq_ok_iff.1 hreported
  obtain ⟨hshallow, htable⟩ := exists_tellWithin_iff.1 ⟨table, htable⟩
  obtain ⟨hgroup, hoptional⟩ := mem_of_maskedEntries hmasked
  have hentry : ∀ {key v}, (key, v) ∈ masked → v.isWritable = true →
      ∃ shown, v.tellWithin limits .reporting = .ok shown := fun hmem hv =>
    exists_tellWithin_iff.2 ⟨limits.entry _ _ _ _ hmem htable hshallow, hv⟩
  have hall := hwritable.1 htable
  simp only [List.mem_cons, List.not_mem_nil, or_false] at hsetting
  rcases hsetting with rfl | rfl | rfl
  · exact ⟨shown, hshown⟩
  · exact hentry hgroup (hall .resourceGroup (by decide))
  · cases htrue : c.clientId.isTrue with
    | false => exact tellWithin_of_not_isTrue _ htrue
    | true =>
        have hmem : ("aadClientId", c.clientId) ∈ c.optionalEntries := by
          simp [optionalEntries, htrue]
        exact hentry (hoptional hmem) (hall .clientId (by decide))

end

end FleetConfig

namespace Storage

open FleetConfig

/-- The contents of a file that loading breaks off at. -/
inductive ContentBreaks (limits : Limits) (content : ByteArray) : Breakdown → Prop
  | notUnicode (h : String.fromUTF8? content = none) : ContentBreaks limits content .notUnicode
  | tooLong {text : String} {digits : Nat} (h : String.fromUTF8? content = some text)
      (hread : Toml.read limits text = .error (.tooLong digits)) :
      ContentBreaks limits content (.unreadable digits)
  | tooDeep {text : String} (h : String.fromUTF8? content = some text)
      (hread : Toml.read limits text = .error .tooDeep) :
      ContentBreaks limits content (.tooDeep (Toml.tooDeepText limits))
  | tooManyParts {text : String} (h : String.fromUTF8? content = some text)
      (hread : Toml.read limits text = .error .tooManyParts) :
      ContentBreaks limits content (.tooDeep (Toml.tooManyPartsText limits))
  | intervalTooLarge {table : Toml.Table} {n : Int} (h : parse limits content = .ok table)
      (hgiven : given? fileKeys (documentPairs table) .refreshInterval = some (.int n))
      (hn : Binary64.ofInt? n = none) : ContentBreaks limits content .outOfRange
  | intervalTooDeep {table : Toml.Table} {v : Value} {said : String}
      (h : parse limits content = .ok table)
      (hgiven : given? fileKeys (documentPairs table) .refreshInterval = some v)
      (hdeep : limits.overflow? .refusing v = some said) :
      ContentBreaks limits content (.tooDeep said)
  | intervalUnwritable {table : Toml.Table} {v : Value} (h : parse limits content = .ok table)
      (hgiven : given? fileKeys (documentPairs table) .refreshInterval = some v)
      (hv : ∀ n, v ≠ .int n) (hshallow : limits.overflow? .refusing v = none)
      (hwritable : v.isWritable = false) : ContentBreaks limits content .unwritable
  | check {table : Toml.Table} {c : FleetConfig} {b : Breakdown}
      (h : parse limits content = .ok table)
      (hc : ofPairs limits fileKeys (documentPairs table) = .ok c) (hb : c.CheckBreaks b) :
      ContentBreaks limits content b
  | report {table : Toml.Table} {c : FleetConfig} {b : Breakdown}
      (h : parse limits content = .ok table)
      (hc : ofPairs limits fileKeys (documentPairs table) = .ok c) (haccepted : c.Accepted)
      (hb : c.ReportBreaks limits b) : ContentBreaks limits content b

/-- All that loading from a path breaks off at. -/
inductive LoadBreaks (s : String) (disk : Disk) : Breakdown → Prop
  /-- The path begins with a tilde that stands for nothing. -/
  | home {b : Breakdown} (h : expandHome disk (.ofText s) = .error b) : LoadBreaks s disk b
  /-- The disk does not say whether there is a file. -/
  | unseen {p : FilePath} {e : DiskError} (h : expandHome disk (.ofText s) = .ok p)
      (noFault : pathFault? disk.host p = none) (hstat : disk.stat p = .error e)
      (present : e.isAbsence = false) : LoadBreaks s disk (unforeseen e p)
  | content {content : ByteArray} {b : Breakdown} (h : Holds disk s content)
      (hcontent : ContentBreaks disk.host.limits content b) : LoadBreaks s disk b

section
variable {limits : Limits} {content : ByteArray} {b : Breakdown} {c : FleetConfig}

theorem ofContent_eq_ok_iff :
    ofContent limits content = .ok c ↔ ∃ table, parse limits content = .ok table ∧
      ofPairs limits fileKeys (documentPairs table) = .ok c ∧ c.Accepted ∧
        reported limits c = .ok () := by
  simp only [ofContent, ↓except_then_eq_ok_iff, except_bind_eq_ok_iff, check_eq_ok_iff]
  refine exists_congr fun table => and_congr_right fun _ => ?_
  constructor
  · rintro ⟨c', hc, haccepted, hreported, hc'⟩
    obtain rfl : c' = c := Except.ok.inj hc'
    exact ⟨hc, haccepted, hreported⟩
  · rintro ⟨hc, haccepted, hreported⟩
    exact ⟨c, hc, haccepted, hreported, rfl⟩

theorem parse_eq_ok_iff {table : Toml.Table} :
    parse limits content = .ok table ↔
      ∃ text, String.fromUTF8? content = some text ∧ Toml.read limits text = .ok table := by
  rw [parse]
  cases String.fromUTF8? content with
  | none => simp
  | some text =>
      cases hread : Toml.read limits text with
      | ok table' => simp [hread]
      | error e => cases e <;> simp [hread]

theorem parse_toUTF8 {text : String} {table : Toml.Table} (h : Toml.read limits text = .ok table) :
    parse limits text.toUTF8 = .ok table :=
  parse_eq_ok_iff.2 ⟨text, dif_pos text.isValidUTF8, h⟩

theorem parse_eq_broke_iff :
    parse limits content = .error (.broke b) ↔
      String.fromUTF8? content = none ∧ b = .notUnicode ∨
        ∃ text, String.fromUTF8? content = some text ∧
          ((∃ n, Toml.read limits text = .error (.tooLong n) ∧ b = .unreadable n) ∨
            Toml.read limits text = .error .tooDeep ∧ b = .tooDeep (Toml.tooDeepText limits) ∨
            Toml.read limits text = .error .tooManyParts ∧
              b = .tooDeep (Toml.tooManyPartsText limits)) := by
  rw [parse]
  cases String.fromUTF8? content with
  | none => simp [eq_comm (a := b)]
  | some text =>
      cases hread : Toml.read limits text with
      | ok table => simp [hread]
      | error e => cases e <;> simp [hread, eq_comm (a := b)]

theorem ofContent_eq_broke_iff :
    ofContent limits content = .error (.broke b) ↔ ContentBreaks limits content b := by
  simp only [ofContent, ↓except_then_eq_error_iff, except_bind_eq_error_iff, parse_eq_broke_iff,
    ofPairs_eq_broke_iff, seconds_eq_broke_iff, check_eq_ok_iff]
  constructor
  · rintro ((⟨h, rfl⟩ | ⟨text, h, ⟨n, hread, rfl⟩ | ⟨hread, rfl⟩ | ⟨hread, rfl⟩⟩) |
      ⟨table, h, ⟨v, hgiven, ⟨n, rfl, hn, rfl⟩ | ⟨said, hdeep, rfl⟩ |
        ⟨hv, hshallow, hwritable, rfl⟩⟩ | ⟨c, hc, hrest⟩⟩)
    · exact .notUnicode h
    · exact .tooLong h hread
    · exact .tooDeep h hread
    · exact .tooManyParts h hread
    · exact .intervalTooLarge h hgiven hn
    · exact .intervalTooDeep h hgiven hdeep
    · exact .intervalUnwritable h hgiven hv hshallow hwritable
    · obtain ⟨x, hx⟩ := exists_float_of_ofPairs hc
      rcases hrest with hb | ⟨haccepted, hreported | ⟨-, hc'⟩⟩
      · exact .check h hc ((check_eq_broke_iff hx).1 hb)
      · obtain ⟨b', hb', hbreaks⟩ := (reported_eq_error_iff haccepted hx).1 hreported
        obtain rfl := ConfigFault.broke.inj hb'
        exact .report h hc haccepted hbreaks
      · cases hc'
  · rintro (h | ⟨h, hread⟩ | ⟨h, hread⟩ | ⟨h, hread⟩ | ⟨h, hgiven, hn⟩ | ⟨h, hgiven, hdeep⟩ |
      ⟨h, hgiven, hv, hshallow, hwritable⟩ | ⟨h, hc, hb⟩ | ⟨h, hc, haccepted, hb⟩)
    · exact .inl (.inl ⟨h, rfl⟩)
    · exact .inl (.inr ⟨_, h, .inl ⟨_, hread, rfl⟩⟩)
    · exact .inl (.inr ⟨_, h, .inr (.inl ⟨hread, rfl⟩)⟩)
    · exact .inl (.inr ⟨_, h, .inr (.inr ⟨hread, rfl⟩)⟩)
    · exact .inr ⟨_, h, .inl ⟨_, hgiven, .inl ⟨_, rfl, hn, rfl⟩⟩⟩
    · exact .inr ⟨_, h, .inl ⟨_, hgiven, .inr (.inl ⟨_, hdeep, rfl⟩)⟩⟩
    · exact .inr ⟨_, h, .inl ⟨_, hgiven, .inr (.inr ⟨hv, hshallow, hwritable, rfl⟩)⟩⟩
    · obtain ⟨x, hx⟩ := exists_float_of_ofPairs hc
      exact .inr ⟨_, h, .inr ⟨_, hc, .inl ((check_eq_broke_iff hx).2 hb)⟩⟩
    · obtain ⟨x, hx⟩ := exists_float_of_ofPairs hc
      have hreported := (reported_eq_error_iff haccepted hx).2 ⟨_, rfl, hb⟩
      exact .inr ⟨_, h, .inr ⟨_, hc, .inr ⟨haccepted, .inl hreported⟩⟩⟩

/-- Reading breaks off only where the disk does not say whether there is a file. -/
theorem fst_readFile_eq_broke_iff {p : FilePath} {st : Storage} :
    (readFile p st).1 = .error (.broke b) ↔ ∃ e, pathFault? st.disk.host p = none ∧
      st.disk.stat p = .error e ∧ e.isAbsence = false ∧ b = unforeseen e p := by
  constructor
  · intro h
    have hend := readEnd_readFile p st
    rw [h] at hend
    generalize (readFile p st).2.disk = d' at hend
    cases hend with
    | unseen noFault hstat present => exact ⟨_, noFault, hstat, present, rfl⟩
  · rintro ⟨e, noFault, hstat, present, rfl⟩
    obtain ⟨log, hread⟩ := readFile_of_readEnd (.unseen noFault hstat present)
    rw [hread]

end

/-- Loading answers with configurations that a check accepts, and it breaks off exactly at the
faults listed; otherwise it refuses in plain words. -/
theorem load_breaks_iff (s : String) (st : Storage) :
    (∀ c, (load s st).1 = .ok c → c.check = .ok ()) ∧
      ∀ b, (load s st).1 = .error (.broke b) ↔ LoadBreaks s st.disk b := by
  refine ⟨fun c h => ?_, fun b => ?_⟩
  · obtain ⟨content, -, hcontent⟩ := holds_of_load h
    obtain ⟨table, -, -, haccepted, -⟩ := ofContent_eq_ok_iff.1 hcontent
    exact check_eq_ok_iff.2 haccepted
  · cases hp : expandHome st.disk (.ofText s) with
    | error b' =>
        rw [load_of_no_path hp]
        constructor
        · intro h
          obtain rfl := ConfigFault.broke.inj (Except.error.inj h)
          exact .home hp
        · rintro (hp' | hp' | ⟨⟨p, _, _, hp', -⟩, -⟩)
          · rw [Except.error.inj (hp.symm.trans hp')]
          · cases hp.symm.trans hp'
          · cases hp.symm.trans hp'
    | ok p =>
        rw [fst_load, hp]
        dsimp only
        rw [except_bind_eq_error_iff, fst_readFile_eq_broke_iff]
        simp only [ofContent_eq_broke_iff, fst_readFile_eq_ok_iff]
        constructor
        · rintro (⟨e, noFault, hstat, present, rfl⟩ | ⟨content, ⟨place, node, hreads⟩, hb⟩)
          · exact .unseen hp noFault hstat present
          · exact .content ⟨p, place, node, hp, hreads⟩ hb
        · rintro (hp' | ⟨hp', noFault, hstat, present⟩ | ⟨⟨p', place, node, hp', hreads⟩, hb⟩)
          · cases hp.symm.trans hp'
          · obtain rfl := Except.ok.inj (hp.symm.trans hp')
            exact .inl ⟨_, noFault, hstat, present, rfl⟩
          · obtain rfl := Except.ok.inj (hp.symm.trans hp')
            exact .inr ⟨_, ⟨place, node, hreads⟩, hb⟩

/-- A single byte that begins no character gets past all guards. -/
theorem load_breaks_at_stray_byte :
    (load "conf.toml" (soleFile ⟨#[0xff]⟩)).1 = .error (.broke .notUnicode) ∧
      ∀ e, ConfigFault.broke .notUnicode ≠ .refused e := by
  rw [fst_load_soleFile]
  exact ⟨rfl, nofun⟩

end Storage
end FleetWarden
