import FleetWarden.Text.ControlSequence

/-!
# Texts without their control sequences

No control sequence goes on behind the end of a line, so what is left of a line does not depend on
what comes behind it (`dropControlSequences_append_newline`). Nothing is left out of a text without
escapes.
-/

namespace FleetWarden.Text

/-- The length of the parameters and intermediate characters at the front of a text. -/
def sequenceLength (cs : List Char) : Nat :=
  let parameters := cs.takeWhile isParameter
  parameters.length + ((cs.drop parameters.length).takeWhile isIntermediate).length

section
variable {cs rest : List Char} {c : Char} {s : Stretch}

theorem controlSequence?_bracket (c : Char) (cs : List Char) :
    controlSequence? (c :: '[' :: cs) =
      if c = escapeChar && (cs.drop (sequenceLength cs)).head?.any isFinal then
        some ⟨sequenceLength cs + 2, []⟩
      else none := by
  rw [controlSequence?]
  rfl

theorem controlSequence?_of_head?_ne (h : cs.head? ≠ some '[') :
    controlSequence? (c :: cs) = none := by
  rw [controlSequence?]
  rintro c' rest heq
  cases heq
  exact h rfl

theorem takeWhile_append_newline {p : Char → Bool} (hp : p '\n' = false) (cs rest : List Char) :
    (cs ++ '\n' :: rest).takeWhile p = cs.takeWhile p := by
  induction cs with
  | nil => rw [List.nil_append, List.takeWhile_cons, hp]; rfl
  | cons c cs ih => rw [List.cons_append, List.takeWhile_cons, List.takeWhile_cons, ih]

theorem sequenceLength_le (cs : List Char) : sequenceLength cs ≤ cs.length := by
  have hparameters := (List.takeWhile_prefix isParameter (l := cs)).length_le
  have hintermediates := (List.takeWhile_prefix isIntermediate
    (l := cs.drop (cs.takeWhile isParameter).length)).length_le
  rw [List.length_drop] at hintermediates
  rw [sequenceLength]
  omega

theorem sequenceLength_append_newline (cs rest : List Char) :
    sequenceLength (cs ++ '\n' :: rest) = sequenceLength cs := by
  have hparameters := (List.takeWhile_prefix isParameter (l := cs)).length_le
  simp only [sequenceLength]
  rw [takeWhile_append_newline rfl, List.drop_append_of_le_length hparameters,
    takeWhile_append_newline rfl]

/-- Whether a control sequence begins is seen before the end of the line. -/
theorem controlSequence?_append_newline (c : Char) (cs rest : List Char) :
    controlSequence? (c :: (cs ++ '\n' :: rest)) = controlSequence? (c :: cs) := by
  by_cases hbracket : cs.head? = some '['
  · obtain ⟨cs, rfl⟩ := List.head?_eq_some_iff.1 hbracket
    have hlast : ((cs ++ '\n' :: rest).drop (sequenceLength cs)).head?.any isFinal =
        (cs.drop (sequenceLength cs)).head?.any isFinal := by
      rw [List.drop_append_of_le_length (sequenceLength_le cs)]
      cases cs.drop (sequenceLength cs) <;> rfl
    rw [List.cons_append, controlSequence?_bracket, controlSequence?_bracket,
      sequenceLength_append_newline, hlast]
  · have hbracket' : (cs ++ '\n' :: rest).head? ≠ some '[' := by
      cases cs with
      | nil => exact fun h => absurd (Option.some.inj h) (by decide)
      | cons c' cs => exact hbracket
    rw [controlSequence?_of_head?_ne hbracket, controlSequence?_of_head?_ne hbracket']

theorem more_le_of_controlSequence? (h : controlSequence? (c :: cs) = some s) :
    s.more ≤ cs.length := by
  by_cases hbracket : cs.head? = some '['
  · obtain ⟨cs, rfl⟩ := List.head?_eq_some_iff.1 hbracket
    rw [controlSequence?_bracket] at h
    split at h
    · rename_i hends
      cases h
      have hlast : cs.drop (sequenceLength cs) ≠ [] := by
        intro hnil
        rw [hnil] at hends
        simp at hends
      have hlength := List.length_pos_iff.2 hlast
      rw [List.length_drop] at hlength
      rw [List.length_cons]
      dsimp only
      omega
    · cases h
  · rw [controlSequence?_of_head?_ne hbracket] at h
    cases h

theorem controlSequence?_of_ne (h : c ≠ escapeChar) : controlSequence? (c :: cs) = none := by
  by_cases hbracket : cs.head? = some '['
  · obtain ⟨cs, rfl⟩ := List.head?_eq_some_iff.1 hbracket
    rw [controlSequence?_bracket, decide_eq_false h, Bool.false_and, if_neg Bool.false_ne_true]
  · exact controlSequence?_of_head?_ne hbracket

theorem replaceFrom_append_newline {skip : Nat} (hskip : skip ≤ cs.length) :
    replaceFrom controlSequence? skip (cs ++ '\n' :: rest) =
      replaceFrom controlSequence? skip cs ++ '\n' :: replaceFrom controlSequence? 0 rest := by
  induction cs generalizing skip with
  | nil =>
      obtain rfl := Nat.le_zero.1 hskip
      rw [List.nil_append, replaceFrom, replaceFrom, controlSequence?_of_ne (by decide)]
      rfl
  | cons c cs ih =>
      rw [List.cons_append]
      cases skip with
      | succ n =>
          rw [replaceFrom, replaceFrom]
          exact ih (Nat.le_of_succ_le_succ hskip)
      | zero =>
          rw [replaceFrom, replaceFrom, controlSequence?_append_newline]
          cases hfound : controlSequence? (c :: cs) with
          | some s =>
              dsimp only
              rw [ih (more_le_of_controlSequence? hfound), List.append_assoc]
          | none =>
              dsimp only
              rw [ih (Nat.zero_le _), List.cons_append]

theorem replaceFrom_append_of_not_mem (h : escapeChar ∉ cs) :
    replaceFrom controlSequence? 0 (cs ++ rest) = cs ++ replaceFrom controlSequence? 0 rest := by
  induction cs with
  | nil => rfl
  | cons c cs ih =>
      obtain ⟨hc, hcs⟩ := not_or.1 (mt List.mem_cons.2 h)
      rw [List.cons_append, replaceFrom, controlSequence?_of_ne (Ne.symm hc)]
      dsimp only
      rw [ih hcs, List.cons_append]

end

/-- The control sequences of two texts are on lines of their own. -/
theorem dropControlSequences_append_newline (s t : String) :
    dropControlSequences (s ++ "\n" ++ t) =
      dropControlSequences s ++ "\n" ++ dropControlSequences t := by
  have hlist : (s ++ "\n" ++ t).toList = s.toList ++ '\n' :: t.toList := by simp
  apply String.toList_injective
  rw [dropControlSequences, hlist, replaceStretches, replaceFrom_append_newline (Nat.zero_le _)]
  simp [dropControlSequences, replaceStretches]

theorem dropControlSequences_append_of_not_mem {s : String} (h : escapeChar ∉ s.toList)
    (t : String) : dropControlSequences (s ++ t) = s ++ dropControlSequences t := by
  apply String.toList_injective
  rw [dropControlSequences, String.toList_append, replaceStretches, replaceFrom_append_of_not_mem h]
  simp [dropControlSequences, replaceStretches]

theorem dropControlSequences_of_not_mem {s : String} (h : escapeChar ∉ s.toList) :
    dropControlSequences s = s := by
  have hempty : dropControlSequences "" = "" := rfl
  have happend := dropControlSequences_append_of_not_mem h ""
  rwa [hempty, String.append_empty] at happend

end FleetWarden.Text
