import FleetWarden.Proofs.Config.BadFiles
import FleetWarden.Proofs.Toml.Obstacles

/-!
# The document of a configuration

A configuration has a document unless its fleets are no list or one of its entries is too deep or
has no written form (`documentOf_eq_error_iff`). Of the configurations that pass their check and
hold texts where texts are asked for, those with a refresh interval of too many digits are the only
ones that have none (`documentBreaks_iff_of_texts`).
-/

namespace FleetWarden.Storage

open FleetConfig Toml

/-- What keeps a configuration from having a document: the first entry that cannot be converted, if
its fleets have items at all. -/
inductive DocumentBreaks (limits : Limits) (c : FleetConfig) : Breakdown → Prop
  | noFleets (h : c.fleets.elements = .error (.broke .wrongType)) :
      DocumentBreaks limits c .wrongType
  | entry {before after : Table} {key : String} {v : Value} {b : Breakdown}
      (h : c.entries = .ok (before ++ (key, v) :: after))
      (hbefore : ∀ p ∈ before, conversionFault? limits p.2 = none)
      (hv : conversionFault? limits v = some b) : DocumentBreaks limits c b

section
variable {limits : Limits} {c : FleetConfig} {entries : Table} {text : String} {f : ConfigFault}
  {b : Breakdown} {v : Value}

theorem conversionFault?_of_shallow (h : v.levels ≤ 3) :
    conversionFault? limits v = (obstacle? v).map unwritten := by
  rw [conversionFault?, limits.shallow _ _ h]

theorem obstacle?_of_conversionFault? (h : conversionFault? limits v = none) :
    obstacle? v = none := by
  rw [conversionFault?] at h
  cases hdeep : limits.overflow? .converting v with
  | some said =>
      rw [hdeep] at h
      cases h
  | none =>
      rw [hdeep] at h
      exact Option.map_eq_none_iff.1 h

theorem documentFault?_eq_none_iff :
    documentFault? limits entries = none ↔ ∀ p ∈ entries, conversionFault? limits p.2 = none :=
  List.findSome?_eq_none_iff

theorem documentFault?_eq_some_iff :
    documentFault? limits entries = some b ↔ ∃ before key v after,
      entries = before ++ (key, v) :: after ∧ conversionFault? limits v = some b ∧
        ∀ p ∈ before, conversionFault? limits p.2 = none := by
  rw [documentFault?, List.findSome?_eq_some_iff]
  constructor
  · rintro ⟨before, ⟨key, v⟩, after, h⟩
    exact ⟨before, key, v, after, h⟩
  · rintro ⟨before, key, v, after, h⟩
    exact ⟨before, (key, v), after, h⟩

/-- What has no fault has a document. -/
theorem exists_document_of_documentFault? (h : documentFault? limits entries = none) :
    ∃ cs, document? entries = some cs :=
  exists_document fun p hp => obstacle?_of_conversionFault? (documentFault?_eq_none_iff.1 h p hp)

theorem documentOf_eq_ok_iff :
    documentOf limits c = .ok (entries, text) ↔ c.entries = .ok entries ∧
      documentFault? limits entries = none ∧
        ∃ cs, document? entries = some cs ∧ String.ofList cs = text := by
  rw [documentOf, except_bind_eq_ok_iff]
  constructor
  · rintro ⟨found, hfound, h⟩
    split at h
    · next cs hfault hcs =>
        obtain ⟨rfl, rfl⟩ := Prod.mk.inj (Except.ok.inj h)
        exact ⟨hfound, hfault, cs, hcs, rfl⟩
    · cases h
  · rintro ⟨hentries, hfault, cs, hcs, rfl⟩
    exact ⟨entries, hentries, by rw [hfault, hcs]⟩

theorem documentOf_of_entries (h : c.entries = .ok entries) :
    documentOf limits c = .error f ↔
      ∃ b, documentFault? limits entries = some b ∧ f = .broke b := by
  rw [documentOf, h]
  dsimp only [bind, Except.bind]
  cases hfault : documentFault? limits entries with
  | some b => simp [eq_comm]
  | none =>
      obtain ⟨cs, hcs⟩ := exists_document_of_documentFault? hfault
      rw [hcs]
      simp

theorem entries_eq_error_iff : c.entries = .error f ↔ c.fleets.elements = .error f := by
  rw [FleetConfig.entries, except_bind_eq_error_iff]
  simp

theorem documentOf_eq_error_iff :
    documentOf limits c = .error f ↔ ∃ b, f = .broke b ∧ DocumentBreaks limits c b := by
  cases hentries : c.entries with
  | error f' =>
      have helements := entries_eq_error_iff.1 hentries
      obtain rfl := elements_eq_error helements
      rw [documentOf, hentries]
      constructor
      · intro h
        exact ⟨_, (Except.error.inj h).symm, .noFleets helements⟩
      · rintro ⟨b, rfl, h | ⟨h, -, -⟩⟩
        · rfl
        · cases hentries.symm.trans h
  | ok entries =>
      rw [documentOf_of_entries hentries]
      constructor
      · rintro ⟨b, hb, rfl⟩
        obtain ⟨before, key, v, after, rfl, hv, hbefore⟩ := documentFault?_eq_some_iff.1 hb
        exact ⟨b, rfl, .entry hentries hbefore hv⟩
      · rintro ⟨b, rfl, h | ⟨h, hbefore, hv⟩⟩
        · cases (entries_eq_error_iff.2 h).symm.trans hentries
        · obtain rfl := Except.ok.inj (hentries.symm.trans h)
          exact ⟨b, documentFault?_eq_some_iff.2 ⟨_, _, _, _, rfl, hv, hbefore⟩, rfl⟩

/-! ## Configurations of texts -/

theorem conversionFault?_text (limits : Limits) (s : String) :
    conversionFault? limits (.text s) = none :=
  conversionFault?_of_shallow (v := .text s) (by simp [Value.levels])

theorem conversionFault?_of_texts {items : List Value} (h : ∀ v ∈ items, ∃ s, v = .text s) :
    conversionFault? limits (.list items) = none := by
  have hitem : ∀ v ∈ items, v.levels ≤ 2 := by
    intro v hv
    obtain ⟨s, rfl⟩ := h v hv
    exact Nat.le_succ 1
  have hlevels : (Value.list items).levels ≤ 3 := Nat.succ_le_succ (Value.itemLevels_le hitem)
  rw [conversionFault?_of_shallow hlevels, obstacle?, itemObstacle?_of_texts h]
  rfl

/-- A number that passes the check is written unless it has too many digits. -/
theorem conversionFault?_of_atMostZero (limits : Limits) {low : Bool}
    (h : v.atMostZero = .ok low) :
    conversionFault? limits v = if v.isWritable then none else some .unwritable := by
  have hlevels : v.levels = 1 := by
    cases v with
    | bool b | int n | float x => rfl
    | _ => cases h
  rw [conversionFault?_of_shallow (by omega)]
  cases v with
  | bool b => rfl
  | int n =>
      change (if (Numeral.Whole.write? n).isSome then none else some Obstacle.tooManyDigits).map
        unwritten = if (Numeral.Whole.write? n).isSome then none else some .unwritable
      split_ifs <;> rfl
  | float x => rfl
  | _ => cases h

/-- With texts where texts are asked for, the refresh interval alone can stand in the way. -/
theorem conversionFault?_of_entries (limits : Limits)
    (htexts : ∀ setting ∈ plainSettings, ∃ s, c.get setting = .text s) (h : c.Accepted) :
    ∃ entries, c.entries = .ok entries ∧
      ("refreshInterval", c.refreshInterval) ∈ entries ∧
      ∀ p ∈ entries, p.2 = c.refreshInterval ∨ conversionFault? limits p.2 = none := by
  obtain ⟨fs, hfs⟩ := h.fleets
  obtain ⟨items, hitems, hread⟩ := except_bind_eq_ok_iff.1 hfs
  have htext : ∀ setting ∈ plainSettings, conversionFault? limits (c.get setting) = none := by
    intro setting hsetting
    obtain ⟨s, hs⟩ := htexts setting hsetting
    rw [hs]
    exact conversionFault?_text limits s
  refine ⟨_, by rw [FleetConfig.entries, hitems]; rfl, by simp, fun p hp => ?_⟩
  rcases List.mem_append.1 hp with hp | hp
  · simp only [List.mem_cons, List.not_mem_nil, or_false] at hp
    rcases hp with rfl | rfl | rfl | rfl | rfl
    · exact .inr (htext .cloud (by decide))
    · exact .inr (htext .subscriptionId (by decide))
    · exact .inr (htext .resourceGroup (by decide))
    · exact .inl rfl
    · exact .inr (conversionFault?_of_texts (eq_text_of_readFleets hread))
  · have hp := (List.mem_filter.1 hp).1
    simp only [List.mem_cons, List.not_mem_nil, or_false] at hp
    rcases hp with rfl | rfl | rfl
    · exact .inr (htext .tenantId (by decide))
    · exact .inr (htext .clientId (by decide))
    · exact .inr (htext .location (by decide))

theorem documentBreaks_iff_of_texts
    (htexts : ∀ setting ∈ plainSettings, ∃ s, c.get setting = .text s) (h : c.Accepted) :
    DocumentBreaks limits c b ↔ c.refreshInterval.isWritable = false ∧ b = .unwritable := by
  obtain ⟨entries, hentries, hmem, hothers⟩ := conversionFault?_of_entries limits htexts h
  have hinterval := conversionFault?_of_atMostZero limits h.interval
  have honly : ∀ {b}, DocumentBreaks limits c b →
      c.refreshInterval.isWritable = false ∧ b = .unwritable := by
    rintro b (hnone | ⟨hfound, -, hv⟩)
    · cases hentries.symm.trans (entries_eq_error_iff.2 hnone)
    · obtain rfl := Except.ok.inj (hentries.symm.trans hfound)
      obtain hsame | hfree := hothers _ (List.mem_append_right _ List.mem_cons_self)
      · obtain rfl : _ = c.refreshInterval := hsame
        rw [hinterval] at hv
        split_ifs at hv with hwritable
        exact ⟨Bool.eq_false_iff.2 hwritable, (Option.some.inj hv).symm⟩
      · cases hfree.symm.trans hv
  refine ⟨honly, ?_⟩
  rintro ⟨hwritable, rfl⟩
  cases hfault : documentFault? limits entries with
  | none =>
      have hnone := documentFault?_eq_none_iff.1 hfault _ hmem
      rw [hinterval, hwritable] at hnone
      cases hnone
  | some b =>
      obtain ⟨before, key, v, after, rfl, hv, hbefore⟩ := documentFault?_eq_some_iff.1 hfault
      have hbreaks : DocumentBreaks limits c b := .entry hentries hbefore hv
      rwa [← (honly hbreaks).2]

end

end FleetWarden.Storage
