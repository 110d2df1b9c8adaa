import FleetWarden.Proofs.Outcome
import FleetWarden.Proofs.Pairs
import FleetWarden.Toml.Document
import Mathlib.Tactic.SplitIfs

/-!
# Tables have different keys

A reader puts every key once into a table, and tables inside of values are no exception. `Tidy` says
so of a value with all that is in it; each step of a reader keeps it, and so what is read is tidy
(`tidy_of_read`).
-/

namespace FleetWarden.Toml

/-- The keys of every table in the value are different. -/
inductive Tidy : Value → Prop
  | plain {v : Value} (h : isNested v = false) : Tidy v
  | list {items : List Value} (h : ∀ v ∈ items, Tidy v) : Tidy (.list items)
  | table {entries : Table} (hkeys : (entries.map Prod.fst).Nodup)
      (h : ∀ p ∈ entries, Tidy p.2) : Tidy (.table entries)

theorem Tidy.items {items : List Value} (h : Tidy (.list items)) : ∀ v ∈ items, Tidy v := by
  cases h with
  | plain h => cases h
  | list h => exact h

theorem Tidy.keys {entries : Table} (h : Tidy (.table entries)) : (entries.map Prod.fst).Nodup := by
  cases h with
  | plain h => cases h
  | table hkeys _ => exact hkeys

theorem Tidy.entries {entries : Table} (h : Tidy (.table entries)) : ∀ p ∈ entries, Tidy p.2 := by
  cases h with
  | plain h => cases h
  | table _ h => exact h

theorem orMalformed_eq_ok_iff {α : Type} {x : Option α} {a : α} :
    orMalformed x = .ok a ↔ x = some a := by
  cases x <;> simp [orMalformed]

theorem tidy_nil : Tidy (.table []) := .table List.nodup_nil nofun

section
variable {table table' : Table} {key : String} {v : Value}

theorem Tidy.of_lookup (h : Tidy (.table table)) (hkey : table.lookup key = some v) : Tidy v := by
  exact h.entries _ (mem_of_lookup hkey)

theorem Tidy.putPair (h : Tidy (.table table)) (hv : Tidy v) :
    Tidy (.table (putPair key v table)) := by
  refine .table (nodup_map_fst_putPair h.keys) fun p hp => ?_
  rcases mem_putPair hp with rfl | hp
  · exact hv
  · exact h.entries p hp

theorem Tidy.append (h : Tidy (.table table)) (hkey : table.lookup key = none) (hv : Tidy v) :
    Tidy (.table (table ++ [(key, v)])) := by
  rw [← putPair_of_not_mem (lookup_eq_none_iff_not_mem.1 hkey)]
  exact h.putPair hv

theorem tidy_of_addNew (h : Tidy (.table table)) (hv : Tidy v)
    (hadd : addNew key v table = some table') : Tidy (.table table') := by
  rw [addNew] at hadd
  split at hadd
  · rename_i hkey
    cases hadd
    exact h.append hkey hv
  · cases hadd

theorem tidy_of_addItem (h : Tidy (.table table)) (hadd : addItem key table = some table') :
    Tidy (.table table') := by
  rw [addItem] at hadd
  split at hadd
  · rename_i hkey
    cases hadd
    exact h.append hkey (.list fun v hv => by rw [List.mem_singleton.1 hv]; exact tidy_nil)
  · rename_i items hkey
    cases hadd
    refine h.putPair (.list fun v hv => ?_)
    rcases List.mem_append.1 hv with hv | hv
    · exact (h.of_lookup hkey).items v hv
    · rw [List.mem_singleton.1 hv]
      exact tidy_nil
  · cases hadd

/-- A change of a table keeps the tables around it tidy. -/
theorem tidy_of_updateAt {throughLists : Bool} {f : Table → Option Table} {path : KeyPath}
    (hf : ∀ t t', Tidy (.table t) → f t = some t' → Tidy (.table t')) (h : Tidy (.table table))
    (hupdate : updateAt throughLists f path table = some table') : Tidy (.table table') := by
  induction path generalizing table table' with
  | nil => exact hf table table' h hupdate
  | cons key path ih =>
      rw [updateAt] at hupdate
      split at hupdate
      · rename_i hkey
        obtain ⟨inner, hinner, rfl⟩ := Option.map_eq_some_iff.1 hupdate
        exact h.append hkey (ih tidy_nil hinner)
      · rename_i inner hkey
        obtain ⟨inner', hinner, rfl⟩ := Option.map_eq_some_iff.1 hupdate
        exact h.putPair (ih (h.of_lookup hkey) hinner)
      -- Through a list, the path goes on in its last table.
      · rename_i items hkey
        have hitems := (h.of_lookup hkey).items
        split_ifs at hupdate
        split at hupdate
        · rename_i inner hlast
          obtain ⟨inner', hinner, rfl⟩ := Option.map_eq_some_iff.1 hupdate
          have hinner' := ih (hitems _ (List.mem_of_getLast? hlast)) hinner
          refine h.putPair (.list fun v hv => ?_)
          rcases List.mem_append.1 hv with hv | hv
          · exact hitems v (List.dropLast_subset items hv)
          · rw [List.mem_singleton.1 hv]
            exact hinner'
        · cases hupdate
      · cases hupdate

end

section
variable {cs rest : List Char} {v : Value}

theorem isNested_afterDate (d : Date) (cs : List Char) : isNested (afterDate d cs).1 = false := by
  fun_cases afterDate d cs <;> rfl

theorem isNested_of_calendar? (h : calendar? cs = some (.ok (v, rest))) : isNested v = false := by
  rw [calendar?] at h
  split at h
  · rename_i d after hdate
    have hdated : Except.ok (afterDate d after) = Except.ok (ε := ReadError) (v, rest) := by
      split_ifs at h
      · exact Option.some.inj h
      · cases h
    have hnested := isNested_afterDate d after
    rwa [Except.ok.inj hdated] at hnested
  · split at h
    · cases h
      rfl
    · cases h

theorem isNested_of_basedNumber? (h : basedNumber? cs = some (v, rest)) : isNested v = false := by
  rw [basedNumber?.eq_def] at h
  split at h
  · obtain ⟨base, -, h⟩ := Option.bind_eq_some_iff.1 h
    obtain ⟨found, -, heq⟩ := Option.bind_eq_some_iff.1 h
    cases heq
    rfl
  · cases h

theorem isNested_of_wholeNumber {negative : Bool} {ds : List Char}
    (h : wholeNumber negative ds = .ok v) : isNested v = false := by
  rw [wholeNumber] at h
  by_cases hlength : ds.length ≤ Numeral.Whole.digitLimit
  · rw [if_pos hlength] at h
    cases h
    rfl
  · rw [if_neg hlength] at h
    cases h

theorem isNested_of_decimalNumber? (h : decimalNumber? cs = some (.ok (v, rest))) :
    isNested v = false := by
  rw [decimalNumber?] at h
  obtain ⟨⟨whole, afterWhole⟩, -, h⟩ := Option.bind_eq_some_iff.1 h
  dsimp only at h
  split at h
  · cases h
    rfl
  · split_ifs at h
    · obtain ⟨n, hn, heq⟩ := except_map_eq_ok_iff.1 (Option.some.inj h)
      cases heq
      exact isNested_of_wholeNumber hn
    · cases h
      rfl

theorem isNested_of_numberWord? (h : numberWord? cs = some (v, rest)) : isNested v = false := by
  rw [numberWord?] at h
  dsimp only at h
  split at h
  · cases h
    rfl
  · cases h
    rfl
  · cases h

theorem isNested_of_readScalar (h : readScalar cs = .ok (v, rest)) : isNested v = false := by
  rw [readScalar] at h
  split at h
  · rename_i hcalendar
    rw [h] at hcalendar
    exact isNested_of_calendar? hcalendar
  · split at h
    · rename_i hbased
      rw [Except.ok.inj h] at hbased
      exact isNested_of_basedNumber? hbased
    · split at h
      · rename_i hdecimal
        rw [h] at hdecimal
        exact isNested_of_decimalNumber? hdecimal
      · split at h
        · rename_i hword
          rw [Except.ok.inj h] at hword
          exact isNested_of_numberWord? hword
        · cases h

end

/-- What is read with so much fuel is tidy: a value, the items of a list, the pairs of a table. -/
structure ReadsTidy (limits : Limits) (fuel : Nat) : Prop where
  value : ∀ {depth cs v rest}, readValue limits fuel depth cs = .ok (v, rest) → Tidy v
  items : ∀ {depth cs items rest}, readItems limits fuel depth cs = .ok (items, rest) →
    Tidy (.list items)
  pairs : ∀ {depth table marks cs table' rest}, Tidy (.table table) →
    readPairs limits fuel depth table marks cs = .ok (table', rest) → Tidy (.table table')

section
variable {limits : Limits} {fuel depth : Nat} {cs rest : List Char}

theorem ReadsTidy.value_succ (htidy : ReadsTidy limits fuel) {v : Value}
    (h : readValue limits (fuel + 1) depth cs = .ok (v, rest)) : Tidy v := by
  rw [readValue.eq_def] at h
  dsimp only at h
  split_ifs at h
  split at h
  · obtain ⟨found, -, heq⟩ := except_bind_eq_ok_iff.1 h
    cases heq
    exact .plain rfl
  · obtain ⟨found, -, heq⟩ := except_bind_eq_ok_iff.1 h
    cases heq
    exact .plain rfl
  · cases h
    exact .plain rfl
  · cases h
    exact .plain rfl
  · obtain ⟨found, hfound, heq⟩ := except_bind_eq_ok_iff.1 h
    cases heq
    exact htidy.items hfound
  · obtain ⟨found, hfound, heq⟩ := except_bind_eq_ok_iff.1 h
    cases heq
    exact htidy.pairs tidy_nil hfound
  · exact .plain (isNested_of_readScalar h)

theorem ReadsTidy.items_succ (htidy : ReadsTidy limits fuel) {items : List Value}
    (h : readItems limits (fuel + 1) depth cs = .ok (items, rest)) : Tidy (.list items) := by
  rw [readItems] at h
  obtain ⟨filled, -, h⟩ := except_bind_eq_ok_iff.1 h
  split at h
  · cases h
    exact .list nofun
  · obtain ⟨⟨v, after⟩, hv, h⟩ := except_bind_eq_ok_iff.1 h
    obtain ⟨after', -, h⟩ := except_bind_eq_ok_iff.1 h
    split at h
    · cases h
      exact .list fun w hw => List.mem_singleton.1 hw ▸ htidy.value hv
    · obtain ⟨⟨vs, last⟩, hvs, heq⟩ := except_bind_eq_ok_iff.1 h
      cases heq
      exact .list (List.forall_mem_cons.2 ⟨htidy.value hv, (htidy.items hvs).items⟩)
    · cases h

theorem ReadsTidy.pairs_succ (htidy : ReadsTidy limits fuel) {table table' : Table}
    {marks : List Mark} (htable : Tidy (.table table))
    (h : readPairs limits (fuel + 1) depth table marks cs = .ok (table', rest)) :
    Tidy (.table table') := by
  rw [readPairs] at h
  obtain ⟨filled, -, h⟩ := except_bind_eq_ok_iff.1 h
  split at h
  · cases h
    exact htable
  · obtain ⟨⟨key, afterKey⟩, -, h⟩ := except_bind_eq_ok_iff.1 h
    obtain ⟨after, -, h⟩ := except_bind_eq_ok_iff.1 h
    obtain ⟨⟨v, after'⟩, hv, h⟩ := except_bind_eq_ok_iff.1 h
    obtain ⟨_, -, h⟩ := except_bind_eq_ok_iff.1 h
    obtain ⟨table₁, htable₁, h⟩ := except_bind_eq_ok_iff.1 h
    obtain ⟨after'', -, h⟩ := except_bind_eq_ok_iff.1 h
    have hadded : Tidy (.table table₁) :=
      tidy_of_updateAt (fun t t' ht => tidy_of_addNew ht (htidy.value hv)) htable
        (orMalformed_eq_ok_iff.1 htable₁)
    split at h
    · cases h
      exact hadded
    · exact htidy.pairs hadded h
    · cases h

theorem readsTidy (limits : Limits) (fuel : Nat) : ReadsTidy limits fuel := by
  induction fuel with
  | zero =>
      refine ⟨fun h => ?_, fun h => ?_, fun _ h => ?_⟩
      · rw [readValue] at h
        cases h
      · rw [readItems] at h
        cases h
      · rw [readPairs] at h
        cases h
  | succ fuel ih => exact ⟨ih.value_succ, ih.items_succ, ih.pairs_succ⟩

end

namespace Draft

section
variable {d d' : Draft} {key path : KeyPath} {v : Value}

theorem tidy_of_addPair (h : Tidy (.table d.table)) (hv : Tidy v)
    (hadd : d.addPair key v = .ok d') : Tidy (.table d'.table) := by
  obtain ⟨_, -, hadd⟩ := except_bind_eq_ok_iff.1 hadd
  obtain ⟨_, -, hadd⟩ := except_bind_eq_ok_iff.1 hadd
  obtain ⟨table, htable, heq⟩ := except_bind_eq_ok_iff.1 hadd
  cases heq
  exact tidy_of_updateAt (fun t t' ht => tidy_of_addNew ht hv) h (orMalformed_eq_ok_iff.1 htable)

theorem tidy_of_openTable (h : Tidy (.table d.table)) (hopen : d.openTable path = .ok d') :
    Tidy (.table d'.table) := by
  obtain ⟨_, -, hopen⟩ := except_bind_eq_ok_iff.1 hopen
  obtain ⟨table, htable, heq⟩ := except_bind_eq_ok_iff.1 hopen
  cases heq
  refine tidy_of_updateAt (fun t t' ht ht' => ?_) h (orMalformed_eq_ok_iff.1 htable)
  exact Option.some.inj ht' ▸ ht

theorem tidy_of_openItem (h : Tidy (.table d.table)) (hopen : d.openItem path = .ok d') :
    Tidy (.table d'.table) := by
  obtain ⟨_, -, hopen⟩ := except_bind_eq_ok_iff.1 hopen
  obtain ⟨table, htable, heq⟩ := except_bind_eq_ok_iff.1 hopen
  cases heq
  exact tidy_of_updateAt (fun t t' ht => tidy_of_addItem ht) h (orMalformed_eq_ok_iff.1 htable)

end

end Draft

section
variable {limits : Limits} {d d' : Draft} {cs rest : List Char}

theorem tidy_of_readStatement (h : Tidy (.table d.table))
    (hread : readStatement limits d cs = .ok (d', rest)) : Tidy (.table d'.table) := by
  cases cs with
  | nil =>
      cases hread
      exact h
  | cons c cs =>
      rw [readStatement] at hread
      split_ifs at hread
      · obtain ⟨⟨key, afterKey⟩, -, hread⟩ := except_bind_eq_ok_iff.1 hread
        obtain ⟨after, -, hread⟩ := except_bind_eq_ok_iff.1 hread
        obtain ⟨⟨v, after'⟩, hv, hread⟩ := except_bind_eq_ok_iff.1 hread
        obtain ⟨d₁, hadd, heq⟩ := except_bind_eq_ok_iff.1 hread
        cases heq
        exact Draft.tidy_of_addPair h ((readsTidy _ _).value hv) hadd
      · rw [readHeader.eq_def] at hread
        split at hread
        · obtain ⟨⟨path, afterPath⟩, -, hread⟩ := except_bind_eq_ok_iff.1 hread
          obtain ⟨d₁, hopen, hread⟩ := except_bind_eq_ok_iff.1 hread
          obtain ⟨after, -, heq⟩ := except_bind_eq_ok_iff.1 hread
          cases heq
          exact Draft.tidy_of_openItem (d := d.endSection) h hopen
        · obtain ⟨⟨path, afterPath⟩, -, hread⟩ := except_bind_eq_ok_iff.1 hread
          obtain ⟨d₁, hopen, hread⟩ := except_bind_eq_ok_iff.1 hread
          obtain ⟨after, -, heq⟩ := except_bind_eq_ok_iff.1 hread
          cases heq
          exact Draft.tidy_of_openTable (d := d.endSection) h hopen
      · cases hread
        exact h

theorem tidy_of_readLines {fuel : Nat} (h : Tidy (.table d.table))
    (hread : readLines limits fuel d cs = .ok d') : Tidy (.table d'.table) := by
  induction fuel generalizing d cs with
  | zero => cases hread
  | succ fuel ih =>
      rw [readLines.eq_def] at hread
      dsimp only at hread
      split at hread
      · cases hread
        exact h
      · exact ih h hread
      · obtain ⟨⟨d₁, after⟩, hstatement, hread⟩ := except_bind_eq_ok_iff.1 hread
        obtain ⟨after', -, hread⟩ := except_bind_eq_ok_iff.1 hread
        have h₁ := tidy_of_readStatement h hstatement
        split at hread
        · cases hread
          exact h₁
        · exact ih h₁ hread
        · cases hread

end

/-- What is read is tidy. -/
theorem tidy_of_read {limits : Limits} {s : String} {table : Table}
    (h : read limits s = .ok table) : Tidy (.table table) := by
  obtain ⟨d, hd, rfl⟩ := except_map_eq_ok_iff.1 h
  exact tidy_of_readLines tidy_nil hd

end FleetWarden.Toml
