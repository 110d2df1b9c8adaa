import FleetWarden.Toml.Document
import FleetWarden.Toml.Written
import Mathlib.Tactic.SplitIfs

/-!
# Texts read back

A text between double quotes is read back as the text that was written, whatever characters it has:
each character is read back on its own (`QuotedAs.reads`), and the rest follows by induction.
The same goes for keys, with or without quotes.
-/

namespace FleetWarden.Toml

open Text

/-- The next character can follow a value: there is none, or it ends a line or an item. -/
def Ends (rest : List Char) : Prop := ∀ c ∈ rest.head?, c = '\n' ∨ c = ',' ∨ c = ']'

theorem ends_lineEnd (rest : List Char) : Ends ('\n' :: rest) := by simp [Ends]

theorem ends_comma (rest : List Char) : Ends (',' :: rest) := by simp [Ends]

theorem ends_bracket (rest : List Char) : Ends (']' :: rest) := by simp [Ends]

theorem Ends.head?_ne {rest : List Char} (h : Ends rest) {c : Char} (hc : c ≠ '\n')
    (hc' : c ≠ ',') (hc'' : c ≠ ']') : rest.head? ≠ some c := by
  intro hhead
  rcases h c hhead with rfl | rfl | rfl <;> contradiction

/-- The ways in which a character stands between double quotes. -/
inductive QuotedAs (c : Char) : List Char → Prop
  | short {d : Char} (hcode : codeLength? d = none) (h : shortEscape? d = some c) :
      QuotedAs c ['\\', d]
  | code (h : c.toNat < 0x10000) : QuotedAs c ('\\' :: 'u' :: hexDigits 4 c.toNat)
  | plain (hquote : c ≠ '"') (hslash : c ≠ '\\') (hlegal : illegalInLine c = false) :
      QuotedAs c [c]

theorem quotedAs_quotedChar (c : Char) : QuotedAs c (quotedChar c) := by
  rw [quotedChar]
  split_ifs with hquote hslash hback htab hline hfeed hreturn hcontrol
  · exact .short rfl (congrArg some hquote.symm)
  · exact .short rfl (congrArg some hslash.symm)
  · exact .short rfl (congrArg some hback.symm)
  · exact .short rfl (congrArg some htab.symm)
  · exact .short rfl (congrArg some hline.symm)
  · exact .short rfl (congrArg some hfeed.symm)
  · exact .short rfl (congrArg some hreturn.symm)
  · have hlow : c.toNat < 0x20 ∨ c.toNat = 0x7F := by simpa using hcontrol
    exact .code (by omega)
  · refine .plain hquote hslash ?_
    simpa [illegalInLine, isControl, htab] using hcontrol

section
variable {block : Bool} {rest : List Char}

theorem hexValue?_digitChar {d : Nat} (h : d < 16) : hexValue? (Nat.digitChar d) = some d := by
  have hall : ∀ d : Fin 16, hexValue? (Nat.digitChar d) = some d.val := by decide
  exact hall ⟨d, h⟩

theorem readQuoted_code_last {value d : Nat} {c : Char} (hd : d < 16)
    (hc : 16 * value + d = c.toNat) :
    readQuoted block (.code 1 value) (Nat.digitChar d :: rest) =
      withChar c (readQuoted block (.plain false) rest) := by
  have hchar : charOfCode? (16 * value + d) = some c := by
    have hvalid : (c.toNat).isValidChar := c.valid
    rw [hc, charOfCode?, if_pos hvalid, Char.ofNat_toNat]
  rw [readQuoted]
  simp only [hexValue?_digitChar hd, hchar, Nat.le_refl, if_true]

theorem readQuoted_code {left value d : Nat} (hd : d < 16) :
    readQuoted block (.code (left + 2) value) (Nat.digitChar d :: rest) =
      readQuoted block (.code (left + 1) (16 * value + d)) rest := by
  rw [readQuoted]
  simp only [hexValue?_digitChar hd]
  rw [if_neg (by omega)]
  rfl

/-- The code of a control is read back. -/
theorem readQuoted_controlCode {c : Char} (h : c.toNat < 0x10000) :
    readQuoted block (.plain false) ('\\' :: 'u' :: (hexDigits 4 c.toNat ++ rest)) =
      withChar c (readQuoted block (.plain false) rest) := by
  have hdigits : hexDigits 4 c.toNat ++ rest =
      Nat.digitChar (c.toNat / 16 / 16 / 16 % 16) :: Nat.digitChar (c.toNat / 16 / 16 % 16) ::
        Nat.digitChar (c.toNat / 16 % 16) :: Nat.digitChar (c.toNat % 16) :: rest := rfl
  have hescape : readQuoted block (.plain false) ('\\' :: 'u' :: (hexDigits 4 c.toNat ++ rest)) =
      readQuoted block (.code 4 0) (hexDigits 4 c.toNat ++ rest) := by
    cases block <;> rfl
  rw [hescape, hdigits, readQuoted_code (Nat.mod_lt _ (by decide)),
    readQuoted_code (Nat.mod_lt _ (by decide)), readQuoted_code (Nat.mod_lt _ (by decide)),
    readQuoted_code_last (Nat.mod_lt _ (by decide))]
  omega

/-- Every character is read back, whether it is written as an escape or as it is. -/
theorem QuotedAs.reads {c : Char} {cs : List Char} (h : QuotedAs c cs) :
    readQuoted false (.plain false) (cs ++ rest) =
      withChar c (readQuoted false (.plain false) rest) := by
  cases h with
  | @short d hcode h =>
      have hescape : readQuoted false (.plain false) ('\\' :: d :: rest) =
          readQuoted false .escape (d :: rest) := rfl
      rw [List.cons_append, List.cons_append, List.nil_append, hescape, readQuoted]
      simp only [Bool.false_and, Bool.false_eq_true, if_false, hcode, h]
  | code h => exact readQuoted_controlCode h
  | plain hquote hslash hlegal =>
      rw [List.cons_append, List.nil_append, readQuoted]
      simp only [Bool.false_and, Bool.false_eq_true, if_false, hquote, hslash, hlegal]

/-- A text up to its closing quote is read back. -/
theorem readQuoted_flatMap_quotedChar (cs : List Char) :
    readQuoted false (.plain false) (cs.flatMap quotedChar ++ '"' :: rest) = .ok (cs, rest) := by
  induction cs with
  | nil => rfl
  | cons c cs ih =>
      rw [List.flatMap_cons, List.append_assoc, (quotedAs_quotedChar c).reads, ih]
      rfl

end

section
variable {s : String} {rest : List Char}

theorem quotedText_append (s : String) (rest : List Char) :
    quotedText s ++ rest = '"' :: (s.toList.flatMap quotedChar ++ '"' :: rest) := by
  simp [quotedText]

theorem QuotedAs.head_ne_quote {c : Char} {cs : List Char} (h : QuotedAs c cs) :
    ∃ d more, cs = d :: more ∧ d ≠ '"' := by
  cases h with
  | short => exact ⟨_, _, rfl, by decide⟩
  | code => exact ⟨_, _, rfl, by decide⟩
  | plain hquote => exact ⟨_, _, rfl, hquote⟩

/-- A text in double quotes is not taken for the beginning of a text over several lines, unless
another quote follows it. -/
theorem readBasicText_quotedText (cs : List Char) (h : rest.head? ≠ some '"') :
    readBasicText (cs.flatMap quotedChar ++ '"' :: rest) = .ok (cs, rest) := by
  have hplain : readBasicText (cs.flatMap quotedChar ++ '"' :: rest) =
      readQuoted false (.plain false) (cs.flatMap quotedChar ++ '"' :: rest) := by
    refine readBasicText.eq_2 _ fun more heq => ?_
    cases cs with
    | nil =>
        rw [List.flatMap_nil, List.nil_append, List.cons_inj_right] at heq
        exact h (by rw [heq]; rfl)
    | cons c cs =>
        obtain ⟨d, ds, hc, hd⟩ := (quotedAs_quotedChar c).head_ne_quote
        rw [List.flatMap_cons, hc] at heq
        exact hd (List.cons.inj heq).1
  rw [hplain, readQuoted_flatMap_quotedChar]

end

theorem takeWhile_bareKey {cs : List Char} (h : cs.all isBareKeyChar = true) (rest : List Char) :
    (cs ++ ' ' :: rest).takeWhile isBareKeyChar = cs ∧
      (cs ++ ' ' :: rest).dropWhile isBareKeyChar = ' ' :: rest := by
  have hall : ∀ c ∈ cs, isBareKeyChar c = true := List.all_eq_true.1 h
  have hspace : isBareKeyChar ' ' = false := rfl
  rw [List.takeWhile_append_of_pos hall, List.dropWhile_append_of_pos hall]
  simp [hspace]

/-- A key is read back, with or without quotes. -/
theorem readKeyPart_keyText (key : String) (rest : List Char) :
    readKeyPart (keyText key ++ ' ' :: rest) = .ok (key, ' ' :: rest) := by
  rw [keyText]
  split_ifs with hbare
  · obtain ⟨hne, hall⟩ := hbare
    obtain ⟨c, cs, hcs⟩ : ∃ c cs, key.toList = c :: cs :=
      List.exists_cons_of_ne_nil (mt String.toList_eq_nil_iff.1 hne)
    obtain ⟨htake, hdrop⟩ := takeWhile_bareKey hall rest
    have hc : isBareKeyChar c = true := List.all_eq_true.1 hall c (by simp [hcs])
    rw [hcs, List.cons_append] at htake hdrop
    rw [hcs, List.cons_append, readKeyPart, if_pos hc, htake, hdrop, ← hcs, String.ofList_toList]
  · rw [quotedText_append, readKeyPart, if_neg (by decide), if_neg (by decide), if_pos rfl,
      readQuoted_flatMap_quotedChar]
    exact congrArg (fun s => Except.ok (s, ' ' :: rest)) String.ofList_toList

/-- A key before an equals sign is read back as a path of one part. -/
theorem readKey_keyText (limits : Limits) (key : String) (rest : List Char) :
    readKey limits (keyText key ++ ' ' :: '=' :: rest) = .ok ([key], '=' :: rest) := by
  rw [readKey, ← Nat.sub_add_cancel limits.keyParts_pos, readParts, readKeyPart_keyText]
  rfl

end FleetWarden.Toml
