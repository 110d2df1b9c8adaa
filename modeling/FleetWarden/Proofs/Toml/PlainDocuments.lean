import FleetWarden.Proofs.Outcome
import FleetWarden.Proofs.Pairs
import FleetWarden.Proofs.Toml.Numerals
import FleetWarden.Proofs.Toml.Obstacles

/-!
# Plain documents read back

A document is plain if its values are texts, numbers with a point, and lists of these. Each pair of
such a document is written on a line of its own, and a reader takes the lines one after the other:
what is written for a table is read back as the table (`read_document`).

## Implementation notes

`Recovers` says of one value all that the lines and lists around it rely on. The fuel of the readers
is measured by the length of the text of the value.
-/

namespace FleetWarden.Toml

open Numeral Text

/-- Texts and numbers with a point. -/
def isSimple : Value → Bool
  | .text _ => true
  | .float _ => true
  | _ => false

/-- Simple values and lists of them. -/
def isPlain : Value → Bool
  | .list items => items.all isSimple
  | v => isSimple v

variable {limits : Limits}

/-- The text that a value is written as is read back as the value, at any place that leaves `room`
for so many lists in it. -/
structure Recovers (limits : Limits) (room : Nat) (v : Value) (text : List Char) : Prop where
  written : ∀ tight, written? tight v = some text
  begins : ∃ c more, text = c :: more ∧ c ∉ [' ', '\t', '\n', '#', ']']
  unreturned : '\r' ∉ text
  reads : ∀ fuel depth rest, text.length ≤ fuel → depth + room ≤ limits.nesting → Ends rest →
    readValue limits (fuel + 1) depth (text ++ rest) = .ok (v, rest)

theorem QuotedAs.not_mem_return {c : Char} {cs : List Char} (h : QuotedAs c cs) : '\r' ∉ cs := by
  cases h with
  | @short d hcode h =>
      have hd : d ≠ '\r' := by
        rintro rfl
        cases h
      simp [hd.symm]
  | code h =>
      have hdigit : ∀ n, Nat.digitChar (n % 16) ≠ '\r' := by
        have hall : ∀ d : Fin 16, Nat.digitChar d.val ≠ '\r' := by decide
        exact fun n => hall ⟨n % 16, Nat.mod_lt n (by decide)⟩
      simp [hexDigits, (hdigit _).symm]
  | plain hquote hslash hlegal =>
      rw [List.mem_singleton]
      rintro rfl
      cases hlegal

theorem not_mem_quotedText (s : String) : '\r' ∉ quotedText s := by
  have hall : '\r' ∉ s.toList.flatMap quotedChar := by
    rw [List.mem_flatMap]
    rintro ⟨c, -, hc⟩
    exact (quotedAs_quotedChar c).not_mem_return hc
  simp [quotedText, hall]

theorem recovers_text (room : Nat) (s : String) :
    Recovers limits room (.text s) (quotedText s) where
  written tight := by rw [written?]
  begins := ⟨'"', _, rfl, by decide⟩
  unreturned := not_mem_quotedText s
  reads fuel depth rest _ hroom hrest := by
    have hquote : rest.head? ≠ some '"' := hrest.head?_ne (by decide) (by decide) (by decide)
    rw [quotedText_append, readValue, if_neg (by omega), readBasicText_quotedText _ hquote]
    exact congrArg (fun s => Except.ok (Value.text s, rest)) String.ofList_toList

/-- A reader of values leaves dates, times and numbers to a reader of these. -/
theorem readValue_scalar {fuel depth : Nat} {c : Char} {cs : List Char}
    (hdepth : depth ≤ limits.nesting) (hc : c.isDigit = true ∨ c ∈ ['-', 'i', 'n']) :
    readValue limits (fuel + 1) depth (c :: cs) = readScalar (c :: cs) := by
  have hne : ∀ d ∈ ['"', '\'', 't', 'f', '[', '\x7b'], c ≠ d := by
    rintro d hd rfl
    simp only [List.mem_cons, List.not_mem_nil, or_false] at hd
    rcases hd with rfl | rfl | rfl | rfl | rfl | rfl <;> exact absurd hc (by decide)
  rw [readValue, if_neg (by omega)]
  all_goals
    intro more heq
    exact hne _ (by decide) (List.cons.inj heq).1

theorem recovers_float (room : Nat) (x : Binary64) :
    Recovers limits room (.float x) x.text.toList where
  written tight := by rw [written?]
  begins := by
    obtain ⟨c, more, htext, hc⟩ := text_eq_cons x
    refine ⟨c, more, htext, fun hmem => ?_⟩
    simp only [List.mem_cons, List.not_mem_nil, or_false] at hmem
    rcases hmem with rfl | rfl | rfl | rfl | rfl <;> exact absurd hc (by decide)
  unreturned h := by
    rcases isDigit_or_mem_of_mem_float h with hdigit | hmem
    · exact absurd hdigit (by decide)
    · exact absurd hmem (by decide)
  reads fuel depth rest _ hroom hrest := by
    obtain ⟨c, more, htext, hc⟩ := text_eq_cons x
    have hscalar := readScalar_float x hrest
    rw [htext, List.cons_append] at hscalar ⊢
    rw [readValue_scalar (by omega) hc, hscalar]

theorem recovers_of_simple (room : Nat) {v : Value} (h : isSimple v = true) :
    ∃ text, Recovers limits room v text := by
  cases v with
  | text s => exact ⟨_, recovers_text room s⟩
  | float x => exact ⟨_, recovers_float room x⟩
  | _ => cases h

theorem skipFill_of_not_mem {c : Char} {cs : List Char} (hc : c ∉ [' ', '\t', '\n', '#', ']']) :
    skipFill false (c :: cs) = .ok (c :: cs) := by
  simp only [List.mem_cons, not_or] at hc
  simp [skipFill, isSpace, hc]

theorem readItems_space (fuel depth : Nat) (cs : List Char) :
    readItems limits fuel depth (' ' :: cs) = readItems limits fuel depth cs := by
  cases fuel with
  | zero => rfl
  | succ fuel =>
      rw [readItems, readItems]
      rfl

section
variable {room depth : Nat} {items : List Value} {parts : List (List Char)}

theorem readItems_last {v : Value} {part : List Char} (hv : Recovers limits room v part)
    (hdepth : depth + room ≤ limits.nesting) {fuel : Nat} (hfuel : part.length ≤ fuel)
    (rest : List Char) :
    readItems limits (fuel + 2) depth (part ++ ']' :: rest) = .ok ([v], rest) := by
  have hread := hv.reads fuel depth _ hfuel hdepth (ends_bracket rest)
  obtain ⟨c, more, hpart, hc⟩ := hv.begins
  have hclose : c ≠ ']' := fun heq => hc (by simp [heq])
  rw [hpart, List.cons_append] at hread ⊢
  rw [readItems, skipFill_of_not_mem hc]
  simp only [bind, Except.bind, after?, if_neg hclose, hread]
  rfl

theorem readItems_further {v : Value} {part : List Char} (hv : Recovers limits room v part)
    (hdepth : depth + room ≤ limits.nesting) {fuel : Nat} (hfuel : part.length ≤ fuel)
    (rest : List Char) :
    readItems limits (fuel + 2) depth (part ++ ',' :: rest) =
      (readItems limits (fuel + 1) depth rest).map fun found => (v :: found.1, found.2) := by
  have hread := hv.reads fuel depth _ hfuel hdepth (ends_comma rest)
  obtain ⟨c, more, hpart, hc⟩ := hv.begins
  have hclose : c ≠ ']' := fun heq => hc (by simp [heq])
  rw [hpart, List.cons_append] at hread ⊢
  rw [readItems, skipFill_of_not_mem hc]
  simp only [bind, Except.bind, after?, if_neg hclose, hread]
  rfl

/-- The items of a list are read back. -/
theorem readItems_intercalate (hdepth : depth + room ≤ limits.nesting)
    (h : List.Forall₂ (Recovers limits room) items parts) {fuel : Nat} (rest : List Char)
    (hfuel : (List.intercalate [',', ' '] parts).length + 2 ≤ fuel) :
    readItems limits fuel depth (List.intercalate [',', ' '] parts ++ ']' :: rest) =
      .ok (items, rest) := by
  obtain ⟨fuel, rfl⟩ : ∃ n, fuel = n + 2 := ⟨fuel - 2, by omega⟩
  induction h generalizing fuel with
  | nil =>
      rw [readItems]
      rfl
  | @cons v part items parts hv hall ih =>
      -- No comma follows the last item, so it is a case of its own.
      cases hall with
      | nil =>
          rw [List.intercalate_singleton] at hfuel ⊢
          exact readItems_last hv hdepth (by omega) rest
      | @cons w next items parts hw hall =>
          rw [List.intercalate_cons_cons] at hfuel ⊢
          simp only [List.length_append, List.length_cons, List.length_nil] at hfuel
          obtain ⟨fuel, rfl⟩ : ∃ n, fuel = n + 1 := ⟨fuel - 1, by omega⟩
          have hnext := ih fuel (by omega)
          rw [List.append_assoc, List.append_assoc, List.cons_append,
            readItems_further hv hdepth (by omega), List.cons_append, List.nil_append,
            readItems_space, hnext]
          rfl

theorem writtenItems?_of_recovers (h : List.Forall₂ (Recovers limits room) items parts) :
    writtenItems? items = some parts := by
  induction h with
  | nil => rw [writtenItems?]
  | cons hv _ ih =>
      rw [writtenItems?, hv.written, ih]
      rfl

theorem not_mem_intercalate (h : List.Forall₂ (Recovers limits room) items parts) :
    '\r' ∉ List.intercalate [',', ' '] parts := by
  induction h with
  | nil => simp
  | @cons v part items parts hv hall ih =>
      cases hall with
      | nil =>
          rw [List.intercalate_singleton]
          exact hv.unreturned
      | cons hw hall =>
          rw [List.intercalate_cons_cons]
          simp [hv.unreturned, ih]

/-- A list is read back if its items are. -/
theorem recovers_list (h : List.Forall₂ (Recovers limits room) items parts) :
    Recovers limits (room + 1) (.list items)
      ('[' :: List.intercalate [',', ' '] parts ++ [']']) where
  written tight := by
    rw [written?, writtenItems?_of_recovers h]
    rfl
  begins := ⟨'[', _, rfl, by decide⟩
  unreturned := by simpa using not_mem_intercalate h
  reads fuel depth rest hfuel hroom hrest := by
    have hroomy : (List.intercalate [',', ' '] parts).length + 2 ≤ fuel := by
      simp only [List.length_append, List.length_cons, List.length_nil] at hfuel
      omega
    have hitems : readItems limits fuel (depth + 1)
        (List.intercalate [',', ' '] parts ++ ']' :: rest) = .ok (items, rest) :=
      readItems_intercalate (by omega) h rest hroomy
    rw [List.append_assoc, List.cons_append, readValue, if_neg (by omega)]
    simp only [List.cons_append, List.nil_append, hitems, bind, Except.bind]

end

theorem recovers_of_plain {v : Value} (h : isPlain v = true) :
    ∃ text, Recovers limits 1 v text := by
  cases v with
  | list items =>
      have hparts : ∃ parts, List.Forall₂ (Recovers limits 0) items parts := by
        rw [isPlain] at h
        induction items with
        | nil => exact ⟨[], .nil⟩
        | cons v items ih =>
            rw [List.all_cons, Bool.and_eq_true] at h
            obtain ⟨part, hv⟩ := recovers_of_simple 0 h.1
            obtain ⟨parts, hitems⟩ := ih h.2
            exact ⟨part :: parts, .cons hv hitems⟩
      obtain ⟨parts, hitems⟩ := hparts
      exact ⟨_, recovers_list hitems⟩
  | text s => exact ⟨_, recovers_text 1 s⟩
  | float x => exact ⟨_, recovers_float 1 x⟩
  | _ => cases h

/-- The line of a pair. -/
def lineText (key : String) (text : List Char) : List Char := pairText key text ++ ['\n']

/-- Lines one after the other. -/
def linesText (lines : List (String × List Char)) : List Char :=
  lines.flatMap fun line => lineText line.1 line.2

theorem linesText_cons (line : String × List Char) (lines : List (String × List Char)) :
    linesText (line :: lines) = lineText line.1 line.2 ++ linesText lines := List.flatMap_cons

theorem lineText_append (key : String) (text rest : List Char) :
    lineText key text ++ rest = keyText key ++ ' ' :: '=' :: ' ' :: (text ++ '\n' :: rest) := by
  simp [lineText, pairText]

theorem keyText_eq_cons (key : String) :
    ∃ c more, keyText key = c :: more ∧ (isBareKeyChar c || c = '"') = true := by
  rw [keyText]
  split_ifs with hbare
  · obtain ⟨c, cs, hcs⟩ := List.exists_cons_of_ne_nil (mt String.toList_eq_nil_iff.1 hbare.1)
    have hc : isBareKeyChar c = true := List.all_eq_true.1 hbare.2 c (by simp [hcs])
    exact ⟨c, cs, hcs, by simp [hc]⟩
  · exact ⟨'"', _, rfl, by simp⟩

theorem isSpace_of_keyStart {c : Char} (h : (isBareKeyChar c || c = '"') = true) :
    isSpace c = false ∧ c ≠ '\n' := by
  have hne : c ≠ ' ' ∧ c ≠ '\t' ∧ c ≠ '\n' := by
    refine ⟨?_, ?_, ?_⟩ <;> (rintro rfl; exact absurd h (by decide))
  exact ⟨by simp [isSpace, hne], hne.2.2⟩

section
variable {d : Draft} {key : String} {v : Value} {text : List Char}

/-- A new key of one part adds its pair at the end of the table. -/
theorem addPair_new (hheader : d.header = []) (hkey : d.table.lookup key = none) :
    ∃ d' : Draft, d.addPair [key] v = .ok d' ∧ d'.header = [] ∧
      d'.table = d.table ++ [(key, v)] := by
  obtain ⟨table, marks, pending, header⟩ := d
  change header = [] at hheader
  subst hheader
  refine ⟨⟨table ++ [(key, v)], if isNested v then ⟨[key], .frozen⟩ :: marks else marks,
    pending ++ [], []⟩, ?_, rfl, rfl⟩
  change (orMalformed (addNew key v table)).bind _ = _
  rw [addNew, hkey]
  rfl

/-- A line is read as its pair. -/
theorem readStatement_line (hheader : d.header = []) (hkey : d.table.lookup key = none)
    (hv : Recovers limits 1 v text) (rest : List Char) :
    ∃ d' : Draft, readStatement limits d (lineText key text ++ rest) = .ok (d', '\n' :: rest) ∧
      d'.header = [] ∧ d'.table = d.table ++ [(key, v)] := by
  obtain ⟨d', hadd, hheader', htable'⟩ := addPair_new (v := v) hheader hkey
  refine ⟨d', ?_, hheader', htable'⟩
  have hvalue := hv.reads (2 * (text ++ '\n' :: rest).length + 1) 0 ('\n' :: rest)
    (by simp; omega) limits.nesting_pos (ends_lineEnd rest)
  have hspaces : skipSpaces (' ' :: (text ++ '\n' :: rest)) = text ++ '\n' :: rest := by
    obtain ⟨c, more, htext, hc⟩ := hv.begins
    have hspace : isSpace c = false := by
      simp only [List.mem_cons, not_or] at hc
      simp [isSpace, hc]
    rw [htext, List.cons_append, skipSpaces, List.dropWhile_cons_of_pos rfl,
      List.dropWhile_cons_of_neg (by simp [hspace])]
  have hpair : readPair limits d (lineText key text ++ rest) = .ok (d', '\n' :: rest) := by
    rw [lineText_append, readPair, readKey_keyText]
    simp only [bind, Except.bind, afterEquals, after?, if_true, orMalformed, Except.map, hspaces,
      hvalue, hadd]
  obtain ⟨c, more, hline, hc⟩ := keyText_eq_cons key
  have hstart : (isBareKeyChar c || c = '"' || c = '\'') = true := by rw [hc, Bool.true_or]
  rw [lineText_append, hline, List.cons_append] at hpair ⊢
  rw [readStatement, hpair, if_pos hstart]

/-- Reading goes on behind a line, with the pair of the line at the end of the table. -/
theorem readLines_line (hheader : d.header = []) (hkey : d.table.lookup key = none)
    (hv : Recovers limits 1 v text) (fuel : Nat) (rest : List Char) :
    ∃ d' : Draft,
      readLines limits (fuel + 1) d (lineText key text ++ rest) = readLines limits fuel d' rest ∧
      d'.header = [] ∧ d'.table = d.table ++ [(key, v)] := by
  obtain ⟨d', hread, hd'⟩ := readStatement_line hheader hkey hv rest
  refine ⟨d', ?_, hd'⟩
  obtain ⟨c, more, hline, hc⟩ := keyText_eq_cons key
  obtain ⟨hspace, hend⟩ := isSpace_of_keyStart hc
  rw [lineText_append, hline, List.cons_append] at hread ⊢
  rw [readLines, skipSpaces, List.dropWhile_cons_of_neg (by simp [hspace])]
  split
  · rename_i heq
    cases heq
  · rename_i heq
    exact absurd (List.cons.inj heq).1 hend
  · rw [hread]
    rfl

/-- An entry and the key and text of its line. -/
def WrittenAs (limits : Limits) (entry : String × Value) (line : String × List Char) : Prop :=
  entry.1 = line.1 ∧ Recovers limits 1 entry.2 line.2

/-- Lines with different keys are read as their pairs. -/
theorem readLines_lines {entries : List (String × Value)} {lines : List (String × List Char)}
    (hlines : List.Forall₂ (WrittenAs limits) entries lines) (hheader : d.header = [])
    (hkeys : ((d.table ++ entries).map Prod.fst).Nodup) {fuel : Nat} (hfuel : lines.length < fuel) :
    ∃ d' : Draft, readLines limits fuel d (linesText lines) = .ok d' ∧
      d'.table = d.table ++ entries := by
  obtain ⟨fuel, rfl⟩ : ∃ n, fuel = n + 1 := ⟨fuel - 1, by omega⟩
  induction hlines generalizing d fuel with
  | nil => exact ⟨d, rfl, (List.append_nil _).symm⟩
  | @cons entry line entries lines hline _ ih =>
      obtain ⟨key, v⟩ := entry
      obtain ⟨key', text⟩ := line
      obtain ⟨rfl, hv⟩ : key = key' ∧ Recovers limits 1 v text := hline
      obtain ⟨fuel, rfl⟩ : ∃ n, fuel = n + 1 := ⟨fuel - 1, by rw [List.length_cons] at hfuel; omega⟩
      have hkey : d.table.lookup key = none := by
        rw [List.map_append, List.map_cons] at hkeys
        have hnew := (List.nodup_middle.1 hkeys).notMem
        rw [lookup_eq_none_iff_not_mem]
        exact fun hmem => hnew (List.mem_append_left _ hmem)
      obtain ⟨d₁, hread, hheader₁, htable₁⟩ := readLines_line hheader hkey hv (fuel + 1)
        (linesText lines)
      have happend : d₁.table ++ entries = d.table ++ (key, v) :: entries := by
        rw [htable₁, List.append_assoc]
        rfl
      obtain ⟨d₂, hrest, htable₂⟩ := ih (d := d₁) hheader₁ (by rwa [happend]) fuel
        (by rw [List.length_cons] at hfuel; omega)
      refine ⟨d₂, ?_, htable₂.trans happend⟩
      rw [linesText_cons, hread, hrest]

end

section
variable {entries : List (String × Value)}

theorem exists_lines (hplain : ∀ p ∈ entries, isPlain p.2 = true) :
    ∃ lines, List.Forall₂ (WrittenAs limits) entries lines := by
  induction entries with
  | nil => exact ⟨[], .nil⟩
  | cons p entries ih =>
      obtain ⟨text, hv⟩ := recovers_of_plain (hplain p (by simp))
      obtain ⟨lines, hlines⟩ := ih fun q hq => hplain q (by simp [hq])
      exact ⟨(p.1, text) :: lines, .cons ⟨rfl, hv⟩ hlines⟩

/-- A plain value is written on one line. -/
theorem block?_of_plain (path : List Char) (key : String) {v : Value} {text : List Char}
    (hplain : isPlain v = true) (hv : Recovers limits 1 v text) :
    block? path key v = some ⟨.line, lineText key text⟩ := by
  have hwritten := hv.written false
  cases v with
  | list items =>
      have hitems : ¬(items ≠ [] ∧ items.all isTable = true) := by
        rintro ⟨hne, hall⟩
        obtain ⟨w, rest, rfl⟩ := List.exists_cons_of_ne_nil hne
        rw [isPlain, List.all_cons, Bool.and_eq_true] at hplain
        rw [List.all_cons, Bool.and_eq_true] at hall
        cases w with
        | table => exact absurd hplain.1 (by simp [isSimple])
        | _ => cases hall.1
      rw [block?, if_neg hitems, hwritten]
      rfl
  | text s =>
      rw [block?, hwritten]
      · rfl
      all_goals exact fun _ h => nomatch h
  | float x =>
      rw [block?, hwritten]
      · rfl
      all_goals exact fun _ h => nomatch h
  | _ => cases hplain

theorem blocks?_of_plain {lines : List (String × List Char)} (path : List Char)
    (hplain : ∀ p ∈ entries, isPlain p.2 = true)
    (hlines : List.Forall₂ (WrittenAs limits) entries lines) :
    blocks? path entries = some (lines.map fun line => ⟨.line, lineText line.1 line.2⟩) := by
  induction hlines with
  | nil => rw [blocks?]; rfl
  | @cons entry line entries lines hline _ ih =>
      obtain ⟨key, v⟩ := entry
      obtain ⟨key', text⟩ := line
      obtain ⟨rfl, hv⟩ : key = key' ∧ Recovers limits 1 v text := hline
      have hblock := block?_of_plain (pathBelow path key) key
        (hplain (key, v) (by simp)) hv
      rw [blocks?, hblock, ih fun p hp => hplain p (by simp [hp])]
      rfl

theorem join_lines (lines : List (String × List Char)) :
    Block.join (lines.map fun line => ⟨.line, lineText line.1 line.2⟩) =
      linesText lines := by
  have hall : ∀ b ∈ lines.map fun line => (⟨.line, lineText line.1 line.2⟩ : Block),
      b.isLine = true := by
    intro b hb
    obtain ⟨line, -, rfl⟩ := List.mem_map.1 hb
    rfl
  rw [Block.join.eq_def, List.filter_eq_self.2 hall, List.flatMap_map, linesText]
  cases lines with
  | nil => rfl
  | cons line lines =>
      have hnone : (lines.map fun line => (⟨.line, lineText line.1 line.2⟩ : Block)).filter
          (!·.isLine) = [] := by
        rw [List.filter_eq_nil_iff]
        intro b hb
        rw [hall b (List.mem_cons_of_mem _ hb)]
        decide
      rw [List.map_cons]
      simp only [hall _ List.mem_cons_self, hnone]
      simp

theorem length_lines_le (lines : List (String × List Char)) :
    lines.length ≤ (linesText lines).length := by
  induction lines with
  | nil => rfl
  | cons line lines ih =>
      rw [linesText_cons, List.length_append, List.length_cons, lineText, List.length_append,
        List.length_singleton]
      omega

theorem dropReturns_of_not_mem {cs : List Char} (h : '\r' ∉ cs) : dropReturns cs = cs := by
  induction cs with
  | nil => rfl
  | cons c cs ih =>
      rw [List.mem_cons, not_or] at h
      rw [dropReturns, ih h.2]
      exact fun _ heq => absurd heq.symm h.1

theorem not_mem_keyText (key : String) : '\r' ∉ keyText key := by
  rw [keyText]
  split_ifs with hbare
  · exact fun h => absurd (List.all_eq_true.1 hbare.2 _ h) (by decide)
  · exact not_mem_quotedText key

theorem not_mem_lines {lines : List (String × List Char)}
    (hlines : List.Forall₂ (WrittenAs limits) entries lines) :
    '\r' ∉ linesText lines := by
  induction hlines with
  | nil => simp [linesText]
  | @cons entry line entries lines hline _ ih =>
      have hkey := not_mem_keyText line.1
      have htext := hline.2.unreturned
      rw [linesText_cons, List.mem_append, not_or]
      exact ⟨by simp [lineText, pairText, hkey, htext], ih⟩

/-- What is written for a table of plain values is read back as the table. -/
theorem read_document (limits : Limits) (hkeys : (entries.map Prod.fst).Nodup)
    (hplain : ∀ p ∈ entries, isPlain p.2 = true) :
    ∃ cs, document? entries = some cs ∧ read limits (String.ofList cs) = .ok entries := by
  obtain ⟨lines, hlines⟩ := exists_lines hplain
  refine ⟨linesText lines, ?_, ?_⟩
  · rw [document?, blocks?_of_plain [] hplain hlines, Option.map_some, join_lines]
  · obtain ⟨d, hread, htable⟩ := readLines_lines (d := .empty) hlines rfl hkeys
      (Nat.lt_succ_of_le (length_lines_le lines))
    rw [read, String.toList_ofList, dropReturns_of_not_mem (not_mem_lines hlines), hread]
    exact congrArg Except.ok htable

end

end FleetWarden.Toml
