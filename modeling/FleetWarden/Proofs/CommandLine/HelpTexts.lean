import FleetWarden.CommandLine.Spec
import FleetWarden.Proofs.Text.ControlSequences
import Mathlib.Data.List.Nodup
import Mathlib.Data.List.SplitBy
import Mathlib.Data.List.TakeWhile
import Mathlib.Tactic.SplitIfs

/-!
# The texts of helps

A help is laid out from the texts of its command, and nothing but blanks, line feeds and a few fixed
words is added to them: without escapes in the texts of a command there are none in its help
(`CommandSpec.TextsUnescaped.help`). The first line of a help is the usage line, which tells the
commands of the program apart (`help_inj`).
-/

namespace FleetWarden

open Text

/-- The text has no escapes. -/
def Text.IsUnescaped (s : String) : Prop := escapeChar ∉ s.toList

instance (s : String) : Decidable (IsUnescaped s) :=
  inferInstanceAs (Decidable (escapeChar ∉ s.toList))

namespace CommandLine

section Layout
variable {s t : String} {texts : List String}

theorem isUnescaped_append (hs : IsUnescaped s) (ht : IsUnescaped t) : IsUnescaped (s ++ t) := by
  rw [IsUnescaped, String.toList_append, List.mem_append]
  exact not_or.2 ⟨hs, ht⟩

theorem isUnescaped_intercalate (hs : IsUnescaped s) (htexts : ∀ t ∈ texts, IsUnescaped t) :
    IsUnescaped (String.intercalate s texts) := by
  induction texts with
  | nil => exact List.not_mem_nil
  | cons t texts ih =>
      obtain ⟨ht, htexts⟩ := List.forall_mem_cons.1 htexts
      cases texts with
      | nil => exact ht
      | cons t' texts =>
          rw [String.intercalate_cons_cons]
          exact isUnescaped_append (isUnescaped_append ht hs) (ih htexts)

theorem isUnescaped_blanks (n : Nat) : IsUnescaped (Help.blanks n) := by
  rw [IsUnescaped, Help.blanks, String.toList_ofList]
  intro h
  exact absurd (List.eq_of_mem_replicate h) (by decide)

theorem isUnescaped_words (hs : IsUnescaped s) : ∀ word ∈ Help.words s, IsUnescaped word := by
  intro word hword
  obtain ⟨cs, hcs, rfl⟩ := List.mem_map.1 (List.mem_of_mem_filter hword)
  rw [IsUnescaped, String.toList_ofList]
  intro h
  refine hs ?_
  rw [← List.flatten_splitBy (fun a b => (a = ' ') == (b = ' ')) s.toList]
  exact List.mem_flatten_of_mem hcs h

theorem isUnescaped_fill (size : Nat) (hs : IsUnescaped s) (htexts : ∀ t ∈ texts, IsUnescaped t) :
    ∀ line ∈ Help.fill size s texts, IsUnescaped line := by
  induction texts generalizing s with
  | nil => exact List.forall_mem_singleton.2 hs
  | cons word texts ih =>
      obtain ⟨hword, htexts⟩ := List.forall_mem_cons.1 htexts
      have hspace : IsUnescaped " " := by decide
      rw [Help.fill]
      split_ifs
      · exact ih hword htexts
      · exact ih (isUnescaped_append (isUnescaped_append hs hspace) hword) htexts
      · exact List.forall_mem_cons.2 ⟨hs, ih hword htexts⟩

theorem isUnescaped_definition (column : Nat) (hs : IsUnescaped s) (ht : IsUnescaped t) :
    ∀ line ∈ Help.definition column s t, IsUnescaped line := by
  have hmargin : IsUnescaped "  " := by decide
  have hlines := isUnescaped_fill (Help.columns - column - 2) (s := "") List.not_mem_nil
    (isUnescaped_words ht)
  rw [Help.definition]
  split
  · exact List.forall_mem_singleton.2 (isUnescaped_append hmargin hs)
  · rename_i first rest hfill
    rw [hfill] at hlines
    obtain ⟨hfirst, hrest⟩ := List.forall_mem_cons.1 hlines
    refine List.forall_mem_cons.2 ⟨?_, List.forall_mem_map.2 fun line hline => ?_⟩
    · exact isUnescaped_append (isUnescaped_append (isUnescaped_append hmargin hs)
        (isUnescaped_blanks _)) hfirst
    · exact isUnescaped_append (isUnescaped_blanks _) (hrest line hline)

theorem isUnescaped_definitions {pairs : List (String × String)} (hs : IsUnescaped s)
    (hpairs : ∀ p ∈ pairs, IsUnescaped p.1 ∧ IsUnescaped p.2) :
    ∀ line ∈ Help.definitions s pairs, IsUnescaped line := by
  rw [Help.definitions]
  split_ifs
  · exact List.forall_mem_nil _
  · refine List.forall_mem_cons.2 ⟨List.not_mem_nil, List.forall_mem_cons.2 ⟨hs, ?_⟩⟩
    intro line hline
    obtain ⟨p, hp, hline⟩ := List.mem_flatMap.1 hline
    exact isUnescaped_definition _ (hpairs p hp).1 (hpairs p hp).2 line hline

end Layout

namespace CommandSpec

/-- The texts that the help of a command is laid out from. -/
structure TextsUnescaped (c : CommandSpec) : Prop where
  path : ∀ word ∈ c.path, IsUnescaped word
  summary : IsUnescaped c.summary
  examples : ∀ line ∈ c.examples, IsUnescaped line
  arguments : ∀ a ∈ c.arguments, IsUnescaped a.shown
  options : ∀ o ∈ c.allOptions, IsUnescaped o.shown ∧ IsUnescaped o.help
  subcommands : ∀ p ∈ c.subcommands, IsUnescaped p.1 ∧ IsUnescaped p.2

instance (c : CommandSpec) : Decidable c.TextsUnescaped :=
  decidable_of_iff ((∀ word ∈ c.path, IsUnescaped word) ∧ IsUnescaped c.summary ∧
      (∀ line ∈ c.examples, IsUnescaped line) ∧ (∀ a ∈ c.arguments, IsUnescaped a.shown) ∧
      (∀ o ∈ c.allOptions, IsUnescaped o.shown ∧ IsUnescaped o.help) ∧
      ∀ p ∈ c.subcommands, IsUnescaped p.1 ∧ IsUnescaped p.2)
    ⟨fun ⟨h₁, h₂, h₃, h₄, h₅, h₆⟩ => ⟨h₁, h₂, h₃, h₄, h₅, h₆⟩,
      fun ⟨h₁, h₂, h₃, h₄, h₅, h₆⟩ => ⟨h₁, h₂, h₃, h₄, h₅, h₆⟩⟩

section
variable {c : CommandSpec}

theorem TextsUnescaped.usage (h : c.TextsUnescaped) : IsUnescaped c.usage := by
  have hfixed : IsUnescaped "Usage: " ∧ IsUnescaped " " ∧ IsUnescaped "[OPTIONS]" ∧
      IsUnescaped "COMMAND" ∧ IsUnescaped "[ARGS]..." := by
    decide
  obtain ⟨hname, hspace, hoptions, hcommand, hargs⟩ := hfixed
  refine isUnescaped_append hname (isUnescaped_intercalate hspace ?_)
  refine List.forall_mem_append.2 ⟨List.forall_mem_append.2 ⟨h.path, ?_⟩, ?_⟩
  · exact List.forall_mem_singleton.2 hoptions
  · split_ifs
    · exact List.forall_mem_cons.2 ⟨hcommand, List.forall_mem_singleton.2 hargs⟩
    · exact List.forall_mem_map.2 h.arguments

/-- Without escapes in the texts of a command there are none in its help. -/
theorem TextsUnescaped.help (h : c.TextsUnescaped) : IsUnescaped c.help := by
  have hfixed : IsUnescaped "\n" ∧ IsUnescaped "  " ∧ IsUnescaped "Options:" ∧
      IsUnescaped "Commands:" := by
    decide
  obtain ⟨hnewline, hmargin, hoptions, hcommands⟩ := hfixed
  have hhead : ∀ line ∈ [c.usage, "", "  " ++ c.summary], IsUnescaped line := by
    refine List.forall_mem_cons.2 ⟨h.usage, List.forall_mem_cons.2 ⟨List.not_mem_nil, ?_⟩⟩
    exact List.forall_mem_singleton.2 (isUnescaped_append hmargin h.summary)
  have hexamples : ∀ line ∈ if c.examples.isEmpty then []
      else "" :: c.examples.map ("  " ++ ·), IsUnescaped line := by
    split_ifs
    · exact List.forall_mem_nil _
    · refine List.forall_mem_cons.2 ⟨List.not_mem_nil, List.forall_mem_map.2 fun line hline => ?_⟩
      exact isUnescaped_append hmargin (h.examples line hline)
  refine isUnescaped_intercalate hnewline ?_
  refine List.forall_mem_append.2 ⟨List.forall_mem_append.2
    ⟨List.forall_mem_append.2 ⟨hhead, hexamples⟩, ?_⟩, ?_⟩
  · exact isUnescaped_definitions hoptions (List.forall_mem_map.2 h.options)
  · exact isUnescaped_definitions hcommands h.subcommands

/-- A help is a usage line and what is below it. -/
theorem exists_help_eq (c : CommandSpec) : ∃ rest, c.help = c.usage ++ "\n" ++ rest := by
  simp only [help, List.cons_append, List.append_assoc, String.intercalate_cons_cons]
  exact ⟨_, rfl⟩

theorem head?_help (c : CommandSpec) : c.help.toList.head? = some 'U' := by
  obtain ⟨rest, hhelp⟩ := c.exists_help_eq
  rw [hhelp, usage]
  simp

/-- The first line of a help is the usage line. -/
theorem takeWhile_help (h : '\n' ∉ c.usage.toList) :
    c.help.toList.takeWhile (· ≠ '\n') = c.usage.toList := by
  obtain ⟨rest, hhelp⟩ := c.exists_help_eq
  have hlist : c.help.toList = c.usage.toList ++ '\n' :: rest.toList := by
    rw [hhelp]
    simp
  rw [hlist, takeWhile_append_newline (by decide), List.takeWhile_eq_self_iff]
  intro ch hch
  exact decide_eq_true (ne_of_mem_of_not_mem hch h)

end
end CommandSpec

/-- The commands of the program, and the groups that they belong to. -/
def commandSpecs : List CommandSpec :=
  [rootSpec, sizeSpec, sizeGetSpec, sizeSetSpec, ownerSpec, membersSpec, deleteSpec, cacheSpec,
    watchSpec]

theorem not_mem_usage : ∀ c ∈ commandSpecs, '\n' ∉ c.usage.toList := by
  decide +kernel

theorem nodup_usages : (commandSpecs.map (·.usage)).Nodup := by
  decide +kernel

/-- The help of a command of the program tells the command. -/
theorem help_inj {c c' : CommandSpec} (hc : c ∈ commandSpecs) (hc' : c' ∈ commandSpecs) :
    c.help = c'.help ↔ c = c' := by
  refine ⟨fun h => List.inj_on_of_nodup_map nodup_usages hc hc' ?_, congrArg _⟩
  apply String.toList_injective
  rw [← CommandSpec.takeWhile_help (not_mem_usage c hc), h,
    CommandSpec.takeWhile_help (not_mem_usage c' hc')]

theorem textsUnescaped_of_mem : ∀ c ∈ commandSpecs, c.TextsUnescaped := by
  decide +kernel

theorem isUnescaped_help {c : CommandSpec} (h : c ∈ commandSpecs) : IsUnescaped c.help :=
  (textsUnescaped_of_mem c h).help

end CommandLine
end FleetWarden
