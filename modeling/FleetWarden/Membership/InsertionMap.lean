/-!
# Maps in insertion order

A key keeps the place at which it was first put in and takes the value that was put in last.
`get?_put` and `keys_put` are the two laws that everything else rests on.
-/

namespace FleetWarden

/-- The pairs with a value put under a key. -/
def putPair {κ α : Type} [DecidableEq κ] (k : κ) (a : α) : List (κ × α) → List (κ × α)
  | [] => [(k, a)]
  | (k', a') :: rest => if k' = k then (k, a) :: rest else (k', a') :: putPair k a rest

section
variable {κ α : Type} [DecidableEq κ]

theorem mem_map_fst_putPair {k x : κ} {a : α} {pairs : List (κ × α)} :
    x ∈ (putPair k a pairs).map Prod.fst ↔ x = k ∨ x ∈ pairs.map Prod.fst := by
  induction pairs with
  | nil => simp [putPair]
  | cons p rest ih =>
      obtain ⟨k', a'⟩ := p
      by_cases h : k' = k
      · subst h
        simp [putPair]
      · simp only [putPair, if_neg h, List.map_cons, List.mem_cons, ih]
        grind

theorem map_fst_putPair (k : κ) (a : α) (pairs : List (κ × α)) :
    (putPair k a pairs).map Prod.fst =
      if k ∈ pairs.map Prod.fst then pairs.map Prod.fst else pairs.map Prod.fst ++ [k] := by
  induction pairs with
  | nil => simp [putPair]
  | cons p rest ih =>
      obtain ⟨k', a'⟩ := p
      by_cases hk : k' = k
      · simp [putPair, hk]
      · have hk' : ¬k = k' := fun e => hk e.symm
        by_cases h : k ∈ rest.map Prod.fst
        · simp only [h, if_true] at ih
          simp only [putPair, if_neg hk, List.map_cons, ih, List.mem_cons, h, or_true, if_true]
        · simp only [h, if_false] at ih
          simp only [putPair, if_neg hk, List.map_cons, ih, List.mem_cons, h, hk', or_self,
            if_false, List.cons_append]

theorem lookup_cons_of_ne {k x : κ} (a : α) (rest : List (κ × α)) (h : ¬x = k) :
    List.lookup x ((k, a) :: rest) = List.lookup x rest := by
  rw [List.lookup_cons, beq_eq_false_iff_ne.2 h]

theorem lookup_putPair (k : κ) (a : α) (pairs : List (κ × α)) (x : κ) :
    (putPair k a pairs).lookup x = if x = k then some a else pairs.lookup x := by
  induction pairs with
  | nil =>
      by_cases h : x = k
      · simp [putPair, h]
      · simp [putPair, lookup_cons_of_ne, h]
  | cons p rest ih =>
      obtain ⟨k', a'⟩ := p
      by_cases hk : k' = k
      · subst hk
        by_cases h : x = k'
        · simp [putPair, h]
        · simp [putPair, lookup_cons_of_ne, h]
      · by_cases h : x = k'
        · subst h
          simp [putPair, hk]
        · simp [putPair, lookup_cons_of_ne, ih, h, hk]

theorem nodup_map_fst_putPair {k : κ} {a : α} {pairs : List (κ × α)}
    (h : (pairs.map Prod.fst).Nodup) : ((putPair k a pairs).map Prod.fst).Nodup := by
  induction pairs with
  | nil => simp [putPair]
  | cons p rest ih =>
      obtain ⟨k', a'⟩ := p
      simp only [List.map_cons, List.nodup_cons] at h
      by_cases hk : k' = k
      · subst hk
        simpa [putPair] using h
      · simp only [putPair, if_neg hk, List.map_cons, List.nodup_cons]
        refine ⟨?_, ih h.2⟩
        rw [mem_map_fst_putPair]
        exact fun hmem => hmem.elim hk h.1

end

/-- Pairs with different keys. -/
structure InsertionMap (κ α : Type) where
  pairs : List (κ × α)
  nodup : (pairs.map Prod.fst).Nodup
deriving DecidableEq

namespace InsertionMap
variable {κ α : Type}

def empty : InsertionMap κ α := ⟨[], List.nodup_nil⟩

/-- The keys in the order of their first insertion. -/
def keys (m : InsertionMap κ α) : List κ := m.pairs.map Prod.fst

variable [DecidableEq κ]

/-- The value under a key. -/
def get? (m : InsertionMap κ α) (k : κ) : Option α := m.pairs.lookup k

/-- Puts a value under a key, at the key's place if it has one and else at the end. -/
def put (m : InsertionMap κ α) (k : κ) (a : α) : InsertionMap κ α :=
  ⟨putPair k a m.pairs, nodup_map_fst_putPair m.nodup⟩

/-- The map that results from putting in the pairs one after the other. -/
def ofList (pairs : List (κ × α)) : InsertionMap κ α :=
  pairs.foldl (fun m p => m.put p.1 p.2) empty

/-- Whether the map has the key. -/
def contains (m : InsertionMap κ α) (k : κ) : Bool := m.keys.contains k

@[simp] theorem contains_iff {m : InsertionMap κ α} {k : κ} : m.contains k = true ↔ k ∈ m.keys := by
  simp [contains]

theorem get?_put (m : InsertionMap κ α) (k : κ) (a : α) (x : κ) :
    (m.put k a).get? x = if x = k then some a else m.get? x := lookup_putPair k a m.pairs x

theorem mem_keys_put {m : InsertionMap κ α} {k : κ} {a : α} {x : κ} :
    x ∈ (m.put k a).keys ↔ x = k ∨ x ∈ m.keys := mem_map_fst_putPair

theorem keys_put (m : InsertionMap κ α) (k : κ) (a : α) :
    (m.put k a).keys = if k ∈ m.keys then m.keys else m.keys ++ [k] :=
  map_fst_putPair k a m.pairs

theorem get?_eq_none_iff {m : InsertionMap κ α} {k : κ} : m.get? k = none ↔ k ∉ m.keys := by
  simp only [get?, keys, List.lookup_eq_none_iff, List.mem_map, not_exists, not_and]
  constructor
  · intro h p hp e
    have := h p hp
    simp [e] at this
  · intro h p hp
    simpa using fun e => h p hp e.symm

end InsertionMap
end FleetWarden
