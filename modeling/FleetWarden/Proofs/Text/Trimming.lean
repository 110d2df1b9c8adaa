import Mathlib.Tactic.SplitIfs
import FleetWarden.Text.Blank

/-!
# Trimmed texts

A text is trimmed if it neither begins nor ends with a character of the class. Trimming gives a
trimmed text and leaves trimmed texts alone, so it does not matter how much of the class stands
around a text.
-/

namespace FleetWarden.Text

variable {p : Char → Bool} {cs : List Char}

/-- Neither the first nor the last character is in the class. -/
structure IsTrimmed (p : Char → Bool) (cs : List Char) : Prop where
  first : ∀ c ∈ cs.head?, p c = false
  last : ∀ c ∈ cs.getLast?, p c = false

theorem dropWhile_of_first (h : ∀ c ∈ cs.head?, p c = false) : cs.dropWhile p = cs := by
  cases cs with
  | nil => rfl
  | cons c rest => rw [List.dropWhile_cons_of_neg (by simpa using h c)]

theorem first_dropWhile (p : Char → Bool) (cs : List Char) :
    ∀ c ∈ (cs.dropWhile p).head?, p c = false := by
  intro c hc
  obtain ⟨rest, hrest⟩ := List.head?_eq_some_iff.1 hc
  exact not_of_dropWhile_cons p hrest

theorem trimBy_of_isTrimmed (h : IsTrimmed p cs) : trimBy p cs = cs := by
  have hreverse : cs.reverse.dropWhile p = cs.reverse := by
    apply dropWhile_of_first
    simpa only [List.head?_reverse] using h.last
  rw [trimBy, dropWhile_of_first h.first, hreverse, List.reverse_reverse]

theorem isTrimmed_trimBy (p : Char → Bool) (cs : List Char) : IsTrimmed p (trimBy p cs) := by
  constructor
  · intro c hc
    -- Taking away at the end leaves the first character, if there is one left.
    obtain ⟨gone, hgone⟩ := List.dropWhile_suffix p (l := (cs.dropWhile p).reverse)
    have hsplit : cs.dropWhile p = trimBy p cs ++ gone.reverse := by
      rw [trimBy, ← List.reverse_append, hgone, List.reverse_reverse]
    apply first_dropWhile p cs
    rw [hsplit, List.head?_append, Option.mem_def.1 hc]
    rfl
  · intro c hc
    rw [trimBy, List.getLast?_reverse] at hc
    exact first_dropWhile p _ c hc

theorem IsTrimmed.append {before : List Char} (hbefore : ∀ c ∈ before, p c = false)
    (h : IsTrimmed p cs) : IsTrimmed p (before ++ cs) := by
  constructor
  · intro c hc
    rw [List.head?_append, Option.mem_def, Option.or_eq_some_iff] at hc
    obtain hfirst | ⟨-, hfirst⟩ := hc
    · exact hbefore c (List.mem_of_head? hfirst)
    · exact h.first c hfirst
  · intro c hc
    rw [List.getLast?_append, Option.mem_def, Option.or_eq_some_iff] at hc
    obtain hlast | ⟨-, hlast⟩ := hc
    · exact h.last c hlast
    · exact hbefore c (List.mem_of_getLast? hlast)

theorem trimBy_append {before after : List Char} (hbefore : ∀ c ∈ before, p c = true)
    (hafter : ∀ c ∈ after, p c = true) : trimBy p (before ++ cs ++ after) = trimBy p cs := by
  rw [trimBy, List.append_assoc, List.dropWhile_append_of_pos hbefore, List.dropWhile_append]
  split_ifs with hempty
  · have hall : ∀ c ∈ cs, p c = true := (dropWhile_eq_nil p).1 (List.isEmpty_iff.1 hempty)
    rw [(dropWhile_eq_nil p).2 hafter, (trimBy_eq_nil p).2 hall]
    rfl
  · have hreverse : ∀ c ∈ after.reverse, p c = true := by simpa using hafter
    rw [List.reverse_append, List.dropWhile_append_of_pos hreverse]
    rfl

/-- What is done to each character comes to the same before and after trimming, as long as it does
not change which of them are in the class. -/
theorem trimBy_map {f : Char → Char} (h : ∀ c, p (f c) = p c) (cs : List Char) :
    trimBy p (cs.map f) = (trimBy p cs).map f := by
  have hp : p ∘ f = p := funext h
  rw [trimBy, List.dropWhile_map, hp, ← List.map_reverse, List.dropWhile_map, hp,
    ← List.map_reverse]
  rfl

theorem isTrimmed_trim (s : String) : IsTrimmed isBlank (trim s).toList := by
  rw [trim, String.toList_ofList]
  exact isTrimmed_trimBy isBlank s.toList

theorem trim_of_isTrimmed {s : String} (h : IsTrimmed isBlank s.toList) : trim s = s := by
  rw [trim, trimBy_of_isTrimmed h, String.ofList_toList]

theorem trim_eq_iff_of_last {s : String} (hlast : ∀ c ∈ s.toList.getLast?, isBlank c = false) :
    trim s = s ↔ ∀ c ∈ s.toList.head?, isBlank c = false := by
  constructor
  · intro h
    rw [← h]
    exact (isTrimmed_trim s).first
  · intro hfirst
    exact trim_of_isTrimmed ⟨hfirst, hlast⟩

/-- A text that does not end in a blank is blank only if it is empty. -/
theorem blank_iff_of_last {s : String} (hlast : ∀ c ∈ s.toList.getLast?, isBlank c = false) :
    blank s = true ↔ s = "" := by
  constructor
  · intro hblank
    cases h : s.toList.getLast? with
    | none => exact String.toList_eq_nil_iff.1 (List.getLast?_eq_none_iff.1 h)
    | some c =>
        have hc := List.all_eq_true.1 hblank c (List.mem_of_getLast? h)
        rw [hlast c h] at hc
        cases hc
  · rintro rfl
    rfl

theorem trimBy_sublist (p : Char → Bool) (cs : List Char) : (trimBy p cs).Sublist cs := by
  rw [trimBy, ← List.reverse_sublist, List.reverse_reverse]
  apply (List.dropWhile_sublist p).trans
  rw [List.reverse_sublist]
  exact List.dropWhile_sublist p

theorem trim_sublist (s : String) : (trim s).toList.Sublist s.toList := by
  rw [trim, String.toList_ofList]
  exact trimBy_sublist isBlank s.toList

theorem trim_append {before after : String} (hbefore : blank before = true)
    (hafter : blank after = true) (s : String) : trim (before ++ s ++ after) = trim s := by
  rw [trim, String.toList_append, String.toList_append,
    trimBy_append (List.all_eq_true.1 hbefore) (List.all_eq_true.1 hafter)]
  rfl

end FleetWarden.Text
