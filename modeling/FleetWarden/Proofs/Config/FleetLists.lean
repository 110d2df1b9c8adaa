import FleetWarden.Proofs.Config.Acceptance
import FleetWarden.Proofs.Config.Settings
import FleetWarden.Proofs.Fleet.SpecTexts

/-!
# Lists of fleets

Fleets can be configured as a list of texts or as one text with commas between them. Either way
those that can be given as texts are read back as they were and in their order
(`fleets_read_back`); blanks and empty items between the commas do not count. A comma in a name
would part it, so with commas the names must do without them.
-/

namespace FleetWarden

open Text

theorem Text.splitBetween_eq_splitOn (separator : Char) (cs : List Char) :
    splitBetween separator cs = cs.splitOn separator := by
  induction cs with
  | nil => rfl
  | cons c rest ih =>
      have hsplit : splitBetween separator (c :: rest) =
          if c = separator then [] :: splitBetween separator rest
          else (splitBetween separator rest).modifyHead (c :: ·) := by
        rw [splitBetween, List.foldr_cons, ← splitBetween]
        split_ifs
        · rfl
        · cases hrest : splitBetween separator rest with
          | nil =>
              rw [ih] at hrest
              exact absurd hrest (List.splitOn_ne_nil separator rest)
          | cons part parts => rfl
      rw [hsplit, ih, List.splitOn, List.splitOn, List.splitOnP_cons_eq_if_modifyHead]
      simp only [beq_iff_eq]

theorem Text.splitBetween_intercalate {items : List String}
    (h : ∀ item ∈ items, ',' ∉ item.toList) (hne : items ≠ []) :
    splitBetween ',' (String.intercalate "," items).toList = items.map String.toList := by
  have hparts : ∀ part ∈ items.map String.toList, ',' ∉ part := List.forall_mem_map.2 h
  rw [splitBetween_eq_splitOn, String.toList_intercalate]
  exact List.splitOn_intercalate ',' hparts (by simpa using hne)

namespace FleetSpec

/-- The items spell the fleets in their order, with blanks around them and blank items between. -/
inductive SpelledBy : List FleetSpec → List String → Prop
  | nil : SpelledBy [] []
  | blank {item : String} {specs : List FleetSpec} {items : List String}
      (hblank : blank item = true) (hitems : SpelledBy specs items) :
      SpelledBy specs (item :: items)
  | fleet (f : FleetSpec) {before after : String} {specs : List FleetSpec} {items : List String}
      (hbefore : Text.blank before = true) (hafter : Text.blank after = true)
      (hitems : SpelledBy specs items) :
      SpelledBy (f :: specs) ((before ++ f.written ++ after) :: items)

theorem isTrimmed_written {f : FleetSpec} (h : f.IsPlain) : IsTrimmed isBlank f.written.toList := by
  have htext : ∀ n : Nat, ∀ c ∈ (Numeral.Whole.text n).toList, isBlank c = false := by
    intro n c hc
    rw [Numeral.Whole.text, String.toList_ofList] at hc
    exact Numeral.Whole.isBlank_of_isDigit (Numeral.Whole.isDigit_of_mem_digits hc)
  have hcolon : ∀ c ∈ ":".toList, isBlank c = false :=
    List.forall_mem_singleton.2 (by decide : isBlank ':' = false)
  rw [written, String.toList_append]
  refine IsTrimmed.append (fun c hc => ?_) (h.trimmed ▸ isTrimmed_trim f.name)
  simp only [String.toList_append, List.mem_append] at hc
  rcases hc with ((hc | hc) | hc) | hc
  exacts [htext _ c hc, hcolon c hc, htext _ c hc, hcolon c hc]

theorem written_ne_empty (f : FleetSpec) : f.written ≠ "" := by
  intro h
  have hchars := congrArg String.toList h
  simp [written] at hchars

namespace SpelledBy
variable {specs : List FleetSpec} {items : List String}

/-- What is left of the items when they are trimmed and the empty ones dropped. -/
theorem filter_trim (h : SpelledBy specs items) (hplain : ∀ f ∈ specs, f.IsPlain) :
    (items.map trim).filter (· ≠ "") = specs.map (·.written) := by
  induction h with
  | nil => rfl
  | blank hblank hitems ih =>
      rw [List.map_cons, trim_eq_empty_iff.2 hblank, List.filter_cons, if_neg (by simp)]
      exact ih hplain
  | fleet f hbefore hafter hitems ih =>
      obtain ⟨hf, hrest⟩ := List.forall_mem_cons.1 hplain
      rw [List.map_cons, trim_append hbefore hafter, trim_of_isTrimmed (isTrimmed_written hf),
        List.filter_cons, if_pos (decide_eq_true (written_ne_empty f)), ih hrest, List.map_cons]

theorem notMem (h : SpelledBy specs items) (hnames : ∀ f ∈ specs, ',' ∉ f.name.toList) :
    ∀ item ∈ items, ',' ∉ item.toList := by
  have hblanks : ∀ {s : String}, Text.blank s = true → ',' ∉ s.toList := by
    intro s hs hmem
    exact absurd (List.all_eq_true.1 hs _ hmem) (by decide)
  induction h with
  | nil => exact fun _ hitem => nomatch hitem
  | blank hblank hitems ih => exact List.forall_mem_cons.2 ⟨hblanks hblank, ih hnames⟩
  | fleet f hbefore hafter hitems ih =>
      obtain ⟨hf, hrest⟩ := List.forall_mem_cons.1 hnames
      refine List.forall_mem_cons.2 ⟨?_, ih hrest⟩
      simp [written, notMem_text, hblanks hbefore, hblanks hafter, hf]

end SpelledBy
end FleetSpec

namespace FleetConfig

theorem fleetList_intercalate {items : List String} (h : ∀ item ∈ items, ',' ∉ item.toList) :
    fleetList (String.intercalate "," items) =
      ((items.map trim).filter (· ≠ "")).map .text := by
  by_cases hne : items = []
  · subst hne
    rfl
  · have htrim : (fun cs => trim (String.ofList cs)) ∘ String.toList = trim :=
      funext fun s => congrArg trim String.ofList_toList
    rw [fleetList, splitBetween_intercalate h hne, List.map_map, htrim]

theorem descriptors_of_texts {c : FleetConfig} {specs : List FleetSpec}
    (hplain : ∀ f ∈ specs, f.IsPlain)
    (hfleets : c.fleets = .list ((specs.map (·.written)).map .text)) :
    c.descriptors = .ok specs := by
  rw [descriptors, hfleets]
  refine readFleets_eq_ok_iff.2 ?_
  rw [List.map_map, List.map_inj_left]
  intro f hf
  rw [Function.comp_apply, FleetSpec.read_written (hplain f hf)]

/-- The first text that is no fleet ends the reading. -/
theorem readFleets_of_error {before : List String} {s : String} {e : SpecError}
    (hbefore : ∀ t ∈ before, ∃ f, FleetSpec.read t = .ok f) (hs : FleetSpec.read s = .error e)
    (after : List String) :
    readFleets ((before ++ s :: after).map .text) = .error (.refused (.badFleet e)) := by
  induction before with
  | nil =>
      rw [List.nil_append, List.map_cons, readFleets, readFleet, hs]
      rfl
  | cons t rest ih =>
      obtain ⟨⟨f, hf⟩, hrest⟩ := List.forall_mem_cons.1 hbefore
      rw [List.cons_append, List.map_cons, readFleets, readFleet_text_eq_ok_iff.2 hf]
      exact except_bind_eq_error_iff.2 (.inr ⟨f, rfl, except_bind_eq_error_iff.2 (.inl (ih hrest))⟩)

section
variable {limits : Limits} {keys : KeyTable} {source : List (String × Value)} {c : FleetConfig}

theorem fleets_of_given {s : String} (hgiven : given? keys source .fleets = some (.text s))
    (hc : ofPairs limits keys source = .ok c) : c.fleets = .list (fleetList s) := by
  have hsettled := ofPairs_eq_ok_iff.1 hc .fleets
  rw [hgiven] at hsettled
  exact (Except.ok.inj hsettled).symm

theorem given?_singleton (key : String) (v : Value) (setting : Setting) :
    given? keys [(key, v)] setting =
      if keys.setting? key = some setting ∧ v.isUnset = false then some v else none := by
  change lastSet? keys setting [(key, v)] = _
  split_ifs with h
  · simp [lastSet?, h]
  · simpa [lastSet?] using h

/-- The fleets alone, given as one text, make a configuration. -/
theorem ofPairs_fleets {key : String} (hkey : keys.setting? key = some .fleets) (s : String) :
    ofPairs limits keys [(key, .text s)] =
      .ok { default with fleets := .list (fleetList s) } := by
  refine ofPairs_eq_ok_iff.2 fun setting => ?_
  rw [given?_singleton, hkey]
  by_cases hsetting : setting = .fleets
  · subst hsetting
    by_cases hs : s = ""
    · subst hs
      rfl
    · rw [if_pos ⟨rfl, decide_eq_false hs⟩]
      rfl
  · rw [if_neg fun h => hsetting (Option.some.inj h.1).symm]
    cases setting <;> first | rfl | exact absurd rfl hsetting

end

/-- Fleets whose names are trimmed and whose bounds have at most 4300 digits are read back as they
were and in their order, from a list of their texts as well as from one text with commas between
them and with blanks and blank items anywhere, if no name has a comma. Conversely every fleet that
is read is such a fleet, and the first text that is none is refused for its value. -/
theorem fleets_read_back :
    (∀ specs : List FleetSpec, (∀ f ∈ specs, f.IsPlain) →
      (∀ c : FleetConfig, c.fleets = .list (specs.map fun f => .text f.written) →
        c.descriptors = .ok specs) ∧
      ∀ items, FleetSpec.SpelledBy specs items → (∀ f ∈ specs, ',' ∉ f.name.toList) →
        ∀ (limits : Limits) (keys : KeyTable),
          (∀ key, keys.setting? key = some .fleets →
            ∃ c, ofPairs limits keys [(key, .text (String.intercalate "," items))] = .ok c ∧
              c.descriptors = .ok specs) ∧
          ∀ source c, given? keys source .fleets = some (.text (String.intercalate "," items)) →
            ofPairs limits keys source = .ok c → c.descriptors = .ok specs) ∧
    (∀ s f, FleetSpec.read s = .ok f → f.IsPlain ∧ FleetSpec.read f.written = .ok f) ∧
    ∀ before s after e, (∀ t ∈ before, ∃ f, FleetSpec.read t = .ok f) →
      FleetSpec.read s = .error e → ∀ c : FleetConfig,
      c.fleets = .list ((before ++ s :: after).map .text) →
        c.descriptors = .error (.refused (.badFleet e)) ∧
          (ConfigFault.refused (.badFleet e)).cause? = some .value := by
  refine ⟨fun specs hplain => ⟨fun c hc => ?_, fun items hitems hnames limits keys => ?_⟩,
    fun s f hread => ?_, fun before s after e hbefore hs c hc => ⟨?_, rfl⟩⟩
  · apply descriptors_of_texts hplain
    rw [hc, List.map_map]
    rfl
  · have hlist : fleetList (String.intercalate "," items) =
        (specs.map (·.written)).map .text := by
      rw [fleetList_intercalate (hitems.notMem hnames), hitems.filter_trim hplain]
    refine ⟨fun key hkey => ⟨_, ofPairs_fleets hkey _, ?_⟩, fun source c hgiven hc => ?_⟩
    · exact descriptors_of_texts hplain (congrArg Value.list hlist)
    · apply descriptors_of_texts hplain
      rw [fleets_of_given hgiven hc, hlist]
  · have hf := FleetSpec.isPlain_of_read hread
    exact ⟨hf, FleetSpec.read_written hf⟩
  · rw [descriptors, hc]
    exact readFleets_of_error hbefore hs after

/-- A fleet with a colon in its name. -/
def blue : FleetSpec := ⟨"pool:blue", 1, 10, by decide +kernel, by decide⟩

def web : FleetSpec := ⟨"web", 0, 0, by decide +kernel, by decide⟩

/-- A list, a text with blanks and blank items, a fleet in digits of another script, and a list with
a text that is no fleet in it. -/
theorem fleets_read_back_blueAndWeb :
    ({ default with fleets := .list [.text "1:10:pool:blue", .text "0:0:web"] } :
      FleetConfig).descriptors = .ok [blue, web] ∧
    (∃ c, ofPairs .standard fileKeys [("fleets", .text " 1:10:pool:blue , ,0:0:web,")] = .ok c ∧
      c.descriptors = .ok [blue, web]) ∧
    (∃ f, FleetSpec.read " +1_0:٢٠: x:y " = .ok f ∧ f.written = "10:20:x:y" ∧
      FleetSpec.read "10:20:x:y" = .ok f) ∧
    ({ default with fleets := .list [.text "0:0:web", .text "1:2"] } : FleetConfig).descriptors =
      .error (.refused (.badFleet (.notThreeParts "1:2"))) := by
  obtain ⟨hplain, hread, herror⟩ := fleets_read_back
  have hblue : blue.IsPlain := ⟨by decide +kernel, by decide +kernel⟩
  have hweb : web.IsPlain := ⟨by decide +kernel, by decide +kernel⟩
  obtain ⟨hlist, hitems⟩ := hplain [blue, web] (by simp [hblue, hweb])
  have hspelled : FleetSpec.SpelledBy [blue, web]
      [" " ++ blue.written ++ " ", " ", "" ++ web.written ++ "", ""] :=
    .fleet blue (by decide) (by decide) (.blank (by decide)
      (.fleet web (by decide) (by decide) (.blank (by decide) .nil)))
  obtain ⟨hpair, -⟩ := hitems _ hspelled (by decide +kernel) .standard fileKeys
  have htext : String.intercalate ","
      [" " ++ blue.written ++ " ", " ", "" ++ web.written ++ "", ""] =
        " 1:10:pool:blue , ,0:0:web," := by decide +kernel
  have hscript : FleetSpec.read " +1_0:٢٠: x:y " =
      .ok ⟨"x:y", 10, 20, by decide +kernel, by decide⟩ := by decide +kernel
  have hwritten : (⟨"x:y", 10, 20, by decide +kernel, by decide⟩ : FleetSpec).written =
      "10:20:x:y" := by decide +kernel
  have hblue' : blue.written = "1:10:pool:blue" := by decide +kernel
  have hweb' : web.written = "0:0:web" := by decide +kernel
  refine ⟨hlist _ (by simp [hblue', hweb']), htext ▸ hpair "fleets" (by decide +kernel),
    ⟨_, hscript, hwritten, hwritten ▸ (hread _ _ hscript).2⟩, ?_⟩
  have hfirst : ∀ t ∈ ["0:0:web"], ∃ f, FleetSpec.read t = .ok f :=
    List.forall_mem_singleton.2 ⟨web, by decide +kernel⟩
  have htwo : FleetSpec.read "1:2" = .error (.notThreeParts "1:2") := by decide +kernel
  exact (herror ["0:0:web"] "1:2" [] _ hfirst htwo _ rfl).1

end FleetConfig
end FleetWarden
