import FleetWarden.Console.Layout
import FleetWarden.Console.Markup
import Mathlib.Data.List.Infix

/-!
# Coloured texts

A text in which no tag begins stays a text behind an opening tag. In front of a closing tag it can
do one thing only: if it ends in an odd number of backslashes, the closing tag is no tag. So such a
text can always be shown in a colour (`exists_plain_of_colour`), and what is printed then is never
nothing (`printed_ne_empty`).
-/

namespace FleetWarden

open Text

theorem Text.splitBetween_ne_nil (separator : Char) (cs : List Char) :
    splitBetween separator cs ≠ [] := by
  cases cs with
  | nil => exact List.cons_ne_nil _ _
  | cons c cs =>
      rw [splitBetween, List.foldr_cons]
      split_ifs
      · exact List.cons_ne_nil _ _
      · split <;> exact List.cons_ne_nil _ _

namespace Console

/-- The text has no brackets that open and no backslashes. -/
def IsBare (cs : List Char) : Prop := ∀ c ∈ cs, c ≠ '[' ∧ c ≠ '\\'

/-- No tag begins anywhere in the text. -/
def IsTagFree (cs : List Char) : Prop := ∀ s, s <:+ cs → tagAt? s = none

section
variable {cs cs' : List Char}

theorem tagAt?_of_ne {c : Char} (h : c ≠ '[') (rest : List Char) : tagAt? (c :: rest) = none := by
  rw [tagAt?]
  intro c' rest' heq
  exact h (List.cons.inj heq).1

theorem untilBracket?_eq_none (h : ']' ∉ cs) : untilBracket? cs = none := by
  induction cs with
  | nil => rfl
  | cons c cs ih =>
      obtain ⟨hc, hcs⟩ := not_or.1 (mt List.mem_cons.2 h)
      rw [untilBracket?, if_neg (Ne.symm hc), ih hcs, Option.map_none, ite_self]

theorem untilBracket?_append (h : untilBracket? cs = none) (h' : untilBracket? cs' = none) :
    untilBracket? (cs ++ cs') = none := by
  induction cs with
  | nil => exact h'
  | cons c cs ih =>
      rw [untilBracket?] at h
      rw [List.cons_append, untilBracket?]
      split_ifs at h ⊢ with hclose hopen
      · rfl
      · rw [ih (Option.map_eq_none_iff.1 h), Option.map_none]

theorem tagAt?_of_untilBracket? (h : untilBracket? cs = none) : tagAt? ('[' :: cs) = none := by
  cases cs with
  | nil => rfl
  | cons c cs =>
      rw [untilBracket?] at h
      rw [tagAt?]
      split_ifs at h ⊢ with hbegins hclose hopen
      · subst hopen
        cases hbegins
      · rw [Option.map_eq_none_iff.1 h, Option.map_none]
      · rfl
      · rfl

/-- A bracket that begins no tag does not begin one if more text comes without its closing
bracket. -/
theorem tagAt?_append {c : Char} (h : tagAt? (c :: cs) = none) (h' : untilBracket? cs' = none) :
    tagAt? (c :: cs ++ cs') = none := by
  by_cases hopen : c = '['
  · subst hopen
    cases cs with
    | nil => exact tagAt?_of_untilBracket? h'
    | cons c cs =>
        rw [tagAt?] at h
        rw [List.cons_append, List.cons_append, tagAt?]
        split_ifs at h ⊢ with hbegins
        · rw [untilBracket?_append (Option.map_eq_none_iff.1 h) h', Option.map_none]
        · rfl
  · exact tagAt?_of_ne hopen _

theorem isTagFree_nil : IsTagFree [] := by
  intro s hs
  rw [List.suffix_nil.1 hs]
  rfl

theorem isTagFree_cons {c : Char} :
    IsTagFree (c :: cs) ↔ tagAt? (c :: cs) = none ∧ IsTagFree cs := by
  constructor
  · intro h
    exact ⟨h _ List.suffix_rfl, fun s hs => h s (hs.trans (List.suffix_cons c cs))⟩
  · rintro ⟨hhead, htail⟩ s hs
    obtain rfl | hs := List.suffix_cons_iff.1 hs
    · exact hhead
    · exact htail s hs

theorem isTagFree_append_of_not_mem (h : '[' ∉ cs) (h' : IsTagFree cs') :
    IsTagFree (cs ++ cs') := by
  induction cs with
  | nil => exact h'
  | cons c cs ih =>
      obtain ⟨hc, hcs⟩ := not_or.1 (mt List.mem_cons.2 h)
      exact isTagFree_cons.2 ⟨tagAt?_of_ne (Ne.symm hc) _, ih hcs⟩

theorem isTagFree_of_not_mem (h : '[' ∉ cs) : IsTagFree cs := by
  rw [← List.append_nil cs]
  exact isTagFree_append_of_not_mem h isTagFree_nil

theorem IsBare.isTagFree (h : IsBare cs) : IsTagFree cs :=
  isTagFree_of_not_mem fun hmem => (h _ hmem).1 rfl

theorem IsTagFree.append (h : IsTagFree cs) (h' : IsTagFree cs')
    (hnone : untilBracket? cs' = none) : IsTagFree (cs ++ cs') := by
  induction cs with
  | nil => exact h'
  | cons c cs ih =>
      obtain ⟨hhead, htail⟩ := isTagFree_cons.1 h
      exact isTagFree_cons.2 ⟨tagAt?_append hhead hnone, ih htail⟩

/-- A text without tags is passed over, up to where more text comes without a bracket to close its
last one. -/
theorem exists_pieces_append (h : IsTagFree cs) (hrest : untilBracket? cs' = none)
    (slashes : Nat) (seen : List Char) (fuel : Nat) :
    ∃ slashes' seen', pieces (cs.length + fuel) slashes seen (cs ++ cs') =
      pieces fuel slashes' seen' cs' := by
  induction cs generalizing slashes seen with
  | nil => exact ⟨slashes, seen, by rw [List.length_nil, Nat.zero_add, List.nil_append]⟩
  | cons c cs ih =>
      obtain ⟨hhead, htail⟩ := isTagFree_cons.1 h
      have hfuel : (c :: cs).length + fuel = (cs.length + fuel) + 1 := by
        rw [List.length_cons]
        omega
      have hnone := tagAt?_append hhead hrest
      rw [List.cons_append] at hnone
      rw [hfuel, List.cons_append, pieces]
      dsimp only
      rw [hnone]
      by_cases hslash : c = '\\'
      · rw [if_pos hslash]
        exact ih htail _ _
      · rw [if_neg hslash]
        exact ih htail _ _

theorem pieces_of_tag {tag after : List Char} (h : tagAt? ('[' :: cs) = some (tag, after))
    (slashes : Nat) (seen : List Char) (fuel : Nat) :
    pieces (fuel + 1) slashes seen ('[' :: cs) =
      .text seen.reverse :: .text (List.replicate (slashes / 2) '\\') ::
        (if slashes % 2 = 1 then .text ('[' :: tag ++ [']']) else .tag tag) ::
          pieces fuel 0 [] after := by
  rw [pieces]
  dsimp only
  rw [if_neg (by decide), h]
  dsimp only
  split_ifs <;> rfl

end

/-- The tag that closes the tag of a word. -/
def closingTag (word : List Char) : List Char := '[' :: '/' :: (word ++ [']'])

/-- The word is a colour: its tag switches something on, which its closing tag switches off. -/
structure IsColour (word : List Char) : Prop where
  opens : ∀ rest, tagAt? ('[' :: (word ++ ']' :: rest)) = some (word, rest)
  closes : tagAt? (closingTag word) = some ('/' :: word, [])
  switches : ∃ tag, afterTag [] word = .ok [tag] ∧ afterTag [tag] ('/' :: word) = .ok []

section
variable {word : List Char} {name : String}

theorem switches_of_nameOf (hne : word ≠ []) (hhead : word.head? ≠ some '/')
    (hplain : splitTag word = (word, none))
    (hclosing : splitTag ('/' :: word) = ('/' :: word, none))
    (htrim : trimBy isBlank word = word) (hname : nameOf word = .ok name) :
    ∃ tag, afterTag [] word = .ok [tag] ∧ afterTag [tag] ('/' :: word) = .ok [] := by
  refine ⟨⟨name, none⟩, ?_, ?_⟩
  · rw [afterTag, hplain]
    dsimp only
    split
    · exact absurd rfl hhead
    · rw [hname]
      rfl
  · rw [afterTag, hclosing]
    simp only [htrim, hname, if_neg hne, Except.bind, take?, if_true]
    rfl

theorem nameOf_green : nameOf "green".toList = .ok "green" := by rfl

theorem nameOf_yellow : nameOf "yellow".toList = .ok "yellow" := by rfl

theorem isColour_green : IsColour "green".toList where
  opens _ := rfl
  closes := rfl
  switches := switches_of_nameOf (by decide) (by decide) (by decide) (by decide)
    (by decide +kernel) nameOf_green

theorem isColour_yellow : IsColour "yellow".toList where
  opens _ := rfl
  closes := rfl
  switches := switches_of_nameOf (by decide) (by decide) (by decide) (by decide)
    (by decide +kernel) nameOf_yellow

end

section
variable {opened : List OpenTag} {rest : List Piece}

theorem exists_textOf_text (h : ∃ cs, textOf opened rest = .ok cs) (text : List Char) :
    ∃ cs, textOf opened (.text text :: rest) = .ok cs := by
  obtain ⟨cs, h⟩ := h
  exact ⟨_, by rw [textOf, h]; rfl⟩

theorem exists_textOf_tag {opened' : List OpenTag} {tag : List Char}
    (htag : afterTag opened tag = .ok opened') (h : ∃ cs, textOf opened' rest = .ok cs) :
    ∃ cs, textOf opened (.tag tag :: rest) = .ok cs := by
  obtain ⟨cs, h⟩ := h
  exact ⟨cs, by rw [textOf, htag]; exact h⟩

end

/-- A text without tags can always be shown in a colour. -/
theorem exists_plain_of_colour {word s : String} (hword : IsColour word.toList)
    (h : IsTagFree s.toList) :
    ∃ cs, plain ("[" ++ word ++ "]" ++ s ++ "[/" ++ word ++ "]") = .ok cs := by
  have hlist : ("[" ++ word ++ "]" ++ s ++ "[/" ++ word ++ "]").toList =
      '[' :: (word.toList ++ ']' :: (s.toList ++ closingTag word.toList)) := by
    simp [closingTag]
  obtain ⟨fuel, hlength⟩ : ∃ fuel,
      ('[' :: (word.toList ++ ']' :: (s.toList ++ closingTag word.toList))).length + 1 =
        (s.toList.length + (fuel + 2)) + 1 := by
    refine ⟨2 * word.toList.length + 3, ?_⟩
    simp only [closingTag, List.length_cons, List.length_append, List.length_nil]
    omega
  obtain ⟨tag, hswitched, hclosed⟩ := hword.switches
  have hbracket : untilBracket? (closingTag word.toList) = none := rfl
  obtain ⟨slashes, seen, hpassed⟩ := exists_pieces_append h hbracket 0 [] (fuel + 2)
  -- behind an odd number of backslashes the closing tag is shown, and the colour stays on
  have hrest : ∃ cs, textOf [tag] (pieces (s.toList.length + (fuel + 2)) 0 []
      (s.toList ++ closingTag word.toList)) = .ok cs := by
    rw [hpassed, closingTag, pieces_of_tag hword.closes]
    refine exists_textOf_text (exists_textOf_text ?_ _) _
    split_ifs
    · exact exists_textOf_text (exists_textOf_text ⟨[], rfl⟩ _) _
    · exact exists_textOf_tag hclosed (exists_textOf_text ⟨[], rfl⟩ _)
  rw [plain, hlist, List.contains_cons, beq_self_eq_true, Bool.true_or, if_pos rfl, hlength,
    pieces_of_tag (hword.opens _)]
  obtain ⟨cs, htext⟩ := exists_textOf_text (exists_textOf_text (exists_textOf_tag hswitched hrest)
    []) []
  exact ⟨_, congrArg _ htext⟩

theorem breakLine_ne_nil (columns : Nat) (overflow : Overflow) (line : List Char) :
    breakLine columns overflow line ≠ [] := by
  rw [breakLine]
  split_ifs
  · exact List.cons_ne_nil _ _
  · exact List.reverse_ne_nil_iff.2 (List.cons_ne_nil _ _)

/-- Something is printed of every text, be it an empty line. -/
theorem printed_ne_empty (columns : Nat) (cs : List Char) : printed columns cs ≠ "" := by
  obtain ⟨line, more, hsplit⟩ := List.exists_cons_of_ne_nil (splitBetween_ne_nil '\n' cs)
  obtain ⟨part, parts, hbreak⟩ :=
    List.exists_cons_of_ne_nil (breakLine_ne_nil columns .fold line)
  rw [printed, layOut, hsplit, List.flatMap_cons, hbreak]
  intro hempty
  have hnil := congrArg String.toList hempty
  rw [String.toList_ofList] at hnil
  simp [endLines] at hnil

end Console
end FleetWarden
