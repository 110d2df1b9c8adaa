import FleetWarden.Value.Text

/-!
# Limits

Values are taken apart one level after the other, and the run-time system gives up when the levels
are too many. How many these are depends on what is done with a value and on all that is under way
at the time, so `overflow?` is left open but for two things: a value of three levels is never too
deep, and an entry is not where its table is shown. The reader of documents has limits of its own.
-/

namespace FleetWarden

namespace Value

mutual

/-- The levels of a value: one for itself and those of its parts. -/
def levels : Value → Nat
  | list items => itemLevels items + 1
  | table entries => entryLevels entries + 1
  | _ => 1

def itemLevels : List Value → Nat
  | [] => 0
  | v :: rest => max (levels v) (itemLevels rest)

def entryLevels : List (String × Value) → Nat
  | [] => 0
  | (_, v) :: rest => max (levels v) (entryLevels rest)

end

end Value

/-- What a value is taken apart for. -/
inductive Passage where
  /-- To be shown when it is refused. -/
  | refusing
  /-- To be shown in a report. -/
  | reporting
  /-- To become a part of a document. -/
  | converting
  /-- To be written out with its document. -/
  | writing
deriving DecidableEq, Repr

/-- The limits of a run-time system. -/
structure Limits where
  /-- The most lists and tables that a value in a document may stand in. -/
  nesting : Nat
  /-- The most parts that a key in a document may have. -/
  keyParts : Nat
  /-- What is said when a value is too deep to be taken apart. -/
  overflow? : Passage → Value → Option String
  nesting_pos : 0 < nesting
  keyParts_pos : 0 < keyParts
  shallow : ∀ passage v, v.levels ≤ 3 → overflow? passage v = none
  entry : ∀ passage key v entries, (key, v) ∈ entries → (Value.table entries).isWritable = true →
    overflow? passage (.table entries) = none → overflow? passage v = none

namespace Limits

/-- The most levels of a value that is taken apart. -/
def levelLimit : Nat := 980

theorem levels_le_entryLevels {key : String} {v : Value} {entries : List (String × Value)}
    (h : (key, v) ∈ entries) : v.levels ≤ Value.entryLevels entries := by
  induction entries with
  | nil => cases h
  | cons p rest ih =>
      obtain ⟨key', v'⟩ := p
      rw [Value.entryLevels]
      rcases List.mem_cons.1 h with h | h
      · cases h
        exact Nat.le_max_left _ _
      · exact Nat.le_trans (ih h) (Nat.le_max_right _ _)

/-- Limits as they are found in practice. -/
def standard : Limits where
  nesting := 400
  keyParts := 1000
  overflow? _ v :=
    if levelLimit < v.levels then some "maximum recursion depth exceeded" else none
  nesting_pos := by decide
  keyParts_pos := by decide
  shallow _ v h := if_neg (by rw [levelLimit]; omega)
  entry _ key v entries h _ htable := by
    have hle := levels_le_entryLevels h
    have htop : ¬levelLimit < Value.entryLevels entries + 1 := by
      intro hlong
      simp [Value.levels, hlong] at htable
    exact if_neg (by omega)

instance : Inhabited Limits := ⟨standard⟩

end Limits
end FleetWarden
