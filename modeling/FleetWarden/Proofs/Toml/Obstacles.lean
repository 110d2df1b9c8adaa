import FleetWarden.Toml.Written

/-!
# What keeps a document from being written

A value without an obstacle has a written form, wherever it stands: inside a line, as a section, or
as sections for the items of a list. So a document has one too (`exists_document`).
-/

namespace FleetWarden.Toml

section
variable {items : List Value} {entries : List (String × Value)}

theorem itemObstacle?_eq_none_iff :
    itemObstacle? items = none ↔ ∀ v ∈ items, obstacle? v = none := by
  induction items with
  | nil => simp [itemObstacle?]
  | cons v items ih => rw [itemObstacle?, Option.or_eq_none_iff, ih, List.forall_mem_cons]

/-- Texts have no obstacle. -/
theorem itemObstacle?_of_texts (h : ∀ v ∈ items, ∃ s, v = .text s) :
    itemObstacle? items = none :=
  itemObstacle?_eq_none_iff.2 fun v hv => by
    obtain ⟨s, rfl⟩ := h v hv
    rfl

/-- Tables and other entries together are all entries. -/
theorem entryObstacle?_eq_none_iff :
    entryObstacle? false entries = none ∧ entryObstacle? true entries = none ↔
      ∀ p ∈ entries, obstacle? p.2 = none := by
  induction entries with
  | nil => simp [entryObstacle?]
  | cons p entries ih =>
      obtain ⟨key, v⟩ := p
      rw [List.forall_mem_cons, ← ih, entryObstacle?, entryObstacle?, Option.or_eq_none_iff,
        Option.or_eq_none_iff]
      cases isTable v with
      | false => simp [and_assoc]
      | true => simp [and_left_comm]

theorem obstacle?_list_eq_none_iff :
    obstacle? (.list items) = none ↔ ∀ v ∈ items, obstacle? v = none := by
  rw [obstacle?, itemObstacle?_eq_none_iff]

theorem obstacle?_table_eq_none_iff :
    obstacle? (.table entries) = none ↔ ∀ p ∈ entries, obstacle? p.2 = none := by
  rw [obstacle?, Option.or_eq_none_iff, entryObstacle?_eq_none_iff]

end

mutual

theorem exists_written (tight : Bool) (v : Value) (h : obstacle? v = none) :
    ∃ text, written? tight v = some text := by
  cases v with
  | null => cases h
  | list items =>
      obtain ⟨parts, hparts⟩ := exists_writtenItems items (obstacle?_list_eq_none_iff.1 h)
      exact ⟨_, by rw [written?, hparts, Option.map_some]⟩
  | table entries =>
      obtain ⟨parts, hparts⟩ := exists_writtenEntries entries (obstacle?_table_eq_none_iff.1 h)
      exact ⟨_, by rw [written?, hparts, Option.map_some]⟩
  | _ => exact ⟨_, rfl⟩

theorem exists_writtenItems :
    ∀ items, (∀ v ∈ items, obstacle? v = none) → ∃ parts, writtenItems? items = some parts
  | [], _ => ⟨[], by rw [writtenItems?]⟩
  | v :: items, h => by
      obtain ⟨hv, hitems⟩ := List.forall_mem_cons.1 h
      obtain ⟨part, hpart⟩ := exists_written false v hv
      obtain ⟨parts, hparts⟩ := exists_writtenItems items hitems
      exact ⟨part :: parts, by rw [writtenItems?, hpart, hparts]; rfl⟩

theorem exists_writtenEntries :
    ∀ entries, (∀ p ∈ entries, obstacle? p.2 = none) →
      ∃ parts, writtenEntries? entries = some parts
  | [], _ => ⟨[], by rw [writtenEntries?]⟩
  | (key, v) :: entries, h => by
      obtain ⟨hv, hentries⟩ := List.forall_mem_cons.1 h
      obtain ⟨part, hpart⟩ := exists_written true v hv
      obtain ⟨parts, hparts⟩ := exists_writtenEntries entries hentries
      exact ⟨⟨isTable v, pairText key part⟩ :: parts, by rw [writtenEntries?, hpart, hparts]; rfl⟩

end

mutual

theorem exists_block (path : List Char) (key : String) (v : Value) (h : obstacle? v = none) :
    ∃ block, block? path key v = some block := by
  cases v with
  | null => cases h
  | table entries =>
      obtain ⟨blocks, hblocks⟩ := exists_blocks path entries (obstacle?_table_eq_none_iff.1 h)
      exact ⟨_, by rw [block?, hblocks, Option.map_some]⟩
  | list items =>
      rw [block?]
      by_cases htables : items ≠ [] ∧ items.all isTable = true
      · obtain ⟨blocks, hblocks⟩ := exists_itemBlocks path items
          (obstacle?_list_eq_none_iff.1 h) (List.all_eq_true.1 htables.2)
        exact ⟨_, by rw [if_pos htables, hblocks, Option.map_some]⟩
      · obtain ⟨text, htext⟩ := exists_written false (.list items) h
        exact ⟨_, by rw [if_neg htables, htext, Option.map_some]⟩
  | _ => exact ⟨_, rfl⟩

theorem exists_itemBlocks (path : List Char) :
    ∀ items, (∀ v ∈ items, obstacle? v = none) → (∀ v ∈ items, isTable v = true) →
      ∃ blocks, itemBlocks? path items = some blocks
  | [], _, _ => ⟨[], by rw [itemBlocks?]⟩
  | v :: items, h, htables => by
      obtain ⟨hv, hitems⟩ := List.forall_mem_cons.1 h
      obtain ⟨hfirst, hrest⟩ := List.forall_mem_cons.1 htables
      obtain ⟨others, hothers⟩ := exists_itemBlocks path items hitems hrest
      cases v with
      | table entries =>
          obtain ⟨blocks, hblocks⟩ := exists_blocks path entries (obstacle?_table_eq_none_iff.1 hv)
          exact ⟨blocks :: others, by rw [itemBlocks?, hblocks, hothers]; rfl⟩
      | _ => cases hfirst

theorem exists_blocks (path : List Char) :
    ∀ entries, (∀ p ∈ entries, obstacle? p.2 = none) → ∃ blocks, blocks? path entries = some blocks
  | [], _ => ⟨[], by rw [blocks?]⟩
  | (key, v) :: entries, h => by
      obtain ⟨hv, hentries⟩ := List.forall_mem_cons.1 h
      obtain ⟨block, hblock⟩ := exists_block (pathBelow path key) key v hv
      obtain ⟨others, hothers⟩ := exists_blocks path entries hentries
      exact ⟨block :: others, by rw [blocks?, hblock, hothers]; rfl⟩

end

/-- Entries without an obstacle have a document. -/
theorem exists_document {entries : List (String × Value)}
    (h : ∀ p ∈ entries, obstacle? p.2 = none) : ∃ text, document? entries = some text := by
  obtain ⟨blocks, hblocks⟩ := exists_blocks [] entries h
  exact ⟨Block.join blocks, by rw [document?, hblocks, Option.map_some]⟩

end FleetWarden.Toml
