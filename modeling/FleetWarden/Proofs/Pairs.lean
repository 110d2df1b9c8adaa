import FleetWarden.Proofs.Membership.Sightings

/-!
# Pairs of keys and values

Pairs with different keys are a map in insertion order already. Putting pairs into such a map one
after the other overrides the values of the keys that are there, at their places, and adds the other
pairs behind (`foldl_putPair`). A function that leaves the keys alone may be mapped before or after.
-/

namespace FleetWarden

section
variable {κ α : Type} [BEq κ] [LawfulBEq κ]

theorem lookup_cons_of_key_ne {k x : κ} (a : α) (pairs : List (κ × α)) (h : ¬x = k) :
    ((k, a) :: pairs).lookup x = pairs.lookup x := by
  rw [List.lookup_cons, beq_eq_false_iff_ne.2 h]

theorem lookup_filter_of_ne [DecidableEq κ] (pairs : List (κ × α)) {k x : κ} (h : ¬x = k) :
    (pairs.filter (·.1 ≠ k)).lookup x = pairs.lookup x := by
  induction pairs with
  | nil => rfl
  | cons p pairs ih =>
      obtain ⟨k', a⟩ := p
      by_cases hk : k' = k
      · subst hk
        rw [List.filter_cons_of_neg (by simp), ih, lookup_cons_of_key_ne a pairs h]
      · rw [List.filter_cons_of_pos (by simpa using hk)]
        by_cases hx : x = k'
        · simp [hx]
        · rw [lookup_cons_of_key_ne a _ hx, lookup_cons_of_key_ne a _ hx, ih]

theorem lookup_eq_none_iff_not_mem {pairs : List (κ × α)} {k : κ} :
    pairs.lookup k = none ↔ k ∉ pairs.map Prod.fst := by
  simp only [List.lookup_eq_none_iff, List.mem_map, not_exists, not_and, bne_iff_ne]
  exact forall₂_congr fun p _ => ⟨fun h heq => h heq.symm, fun h heq => h heq.symm⟩

theorem mem_of_lookup {pairs : List (κ × α)} {k : κ} {a : α} (h : pairs.lookup k = some a) :
    (k, a) ∈ pairs := by
  obtain ⟨before, after, rfl, -⟩ := List.lookup_eq_some_iff.1 h
  simp

theorem lookup_of_mem {pairs : List (κ × α)} {p : κ × α} (hnodup : (pairs.map Prod.fst).Nodup)
    (h : p ∈ pairs) : pairs.lookup p.1 = some p.2 := by
  induction pairs with
  | nil => cases h
  | cons q rest ih =>
      rw [List.map_cons, List.nodup_cons] at hnodup
      rcases List.mem_cons.1 h with rfl | hrest
      · exact List.lookup_cons_self
      · have hne : ¬p.1 = q.1 := fun heq => hnodup.1 (heq ▸ List.mem_map_of_mem hrest)
        exact (lookup_cons_of_key_ne q.2 rest hne).trans (ih hnodup.2 hrest)

/-- Where keys are different, the order of the pairs does not matter. -/
theorem lookup_perm {pairs pairs' : List (κ × α)} (hperm : pairs'.Perm pairs)
    (hnodup : (pairs.map Prod.fst).Nodup) (k : κ) : pairs'.lookup k = pairs.lookup k := by
  have hnodup' : (pairs'.map Prod.fst).Nodup := (hperm.map _).nodup_iff.2 hnodup
  ext a
  constructor
  · intro h
    exact lookup_of_mem hnodup (hperm.subset (mem_of_lookup h))
  · intro h
    exact lookup_of_mem hnodup' (hperm.symm.subset (mem_of_lookup h))

end

section
variable {κ α : Type} [DecidableEq κ] {pairs : List (κ × α)} {k : κ} {a : α}

theorem putPair_of_not_mem (h : k ∉ pairs.map Prod.fst) :
    putPair k a pairs = pairs ++ [(k, a)] := by
  induction pairs with
  | nil => rfl
  | cons p pairs ih =>
      obtain ⟨k', a'⟩ := p
      rw [List.map_cons, List.mem_cons, not_or] at h
      rw [putPair, if_neg fun heq => h.1 heq.symm, ih h.2, List.cons_append]

theorem putPair_of_mem (hnodup : (pairs.map Prod.fst).Nodup) (h : k ∈ pairs.map Prod.fst) :
    putPair k a pairs = pairs.map fun p => if p.1 = k then (k, a) else p := by
  induction pairs with
  | nil => cases h
  | cons p pairs ih =>
      obtain ⟨k', a'⟩ := p
      rw [List.map_cons, List.nodup_cons] at hnodup
      rw [putPair, List.map_cons]
      by_cases hk : k' = k
      · subst hk
        have hrest : ∀ q ∈ pairs, (if q.1 = k' then (k', a) else q) = q := by
          rintro q hq
          exact if_neg fun heq : q.1 = k' => hnodup.1 (List.mem_map.2 ⟨q, hq, heq⟩)
        rw [if_pos rfl, if_pos rfl, List.map_congr_left hrest, List.map_id']
      · have hmem : k ∈ pairs.map Prod.fst := by
          rcases List.mem_cons.1 h with heq | hmem
          · exact absurd heq.symm hk
          · exact hmem
        rw [if_neg hk, if_neg hk, ih hnodup.2 hmem]

theorem mem_putPair {p : κ × α} (h : p ∈ putPair k a pairs) : p = (k, a) ∨ p ∈ pairs := by
  induction pairs with
  | nil => exact .inl (List.mem_singleton.1 h)
  | cons q pairs ih =>
      obtain ⟨k', a'⟩ := q
      rw [putPair] at h
      split_ifs at h
      · exact (List.mem_cons.1 h).imp_right (List.mem_cons_of_mem _)
      · rcases List.mem_cons.1 h with rfl | h
        · exact .inr List.mem_cons_self
        · exact (ih h).imp_right (List.mem_cons_of_mem _)

/-- Pairs with different keys are a map already. -/
theorem pairs_ofList (h : (pairs.map Prod.fst).Nodup) :
    (InsertionMap.ofList pairs).pairs = pairs := by
  induction pairs using List.reverseRecOn with
  | nil => rfl
  | append_singleton pairs p ih =>
      rw [List.map_append, List.map_singleton] at h
      obtain ⟨hpairs, -, hnew⟩ := List.nodup_append.1 h
      have hlast : p.1 ∉ pairs.map Prod.fst := fun hmem => hnew _ hmem _ List.mem_cons_self rfl
      rw [InsertionMap.ofList_append_singleton]
      change putPair p.1 p.2 (InsertionMap.ofList pairs).pairs = pairs ++ [p]
      rw [ih hpairs, putPair_of_not_mem hlast]

theorem nodup_foldl_putPair (own : List (κ × α)) {common : List (κ × α)}
    (h : (common.map Prod.fst).Nodup) :
    ((own.foldl (fun pairs p => putPair p.1 p.2 pairs) common).map Prod.fst).Nodup := by
  induction own generalizing common with
  | nil => exact h
  | cons p own ih => exact ih (nodup_map_fst_putPair h)

/-- Pairs put into a map override the values of its keys and add the other pairs behind. -/
theorem foldl_putPair {own common : List (κ × α)} (hown : (own.map Prod.fst).Nodup)
    (hcommon : (common.map Prod.fst).Nodup) :
    own.foldl (fun pairs p => putPair p.1 p.2 pairs) common =
      (common.map fun p => (p.1, (own.lookup p.1).getD p.2)) ++
        own.filter fun p => p.1 ∉ common.map Prod.fst := by
  induction own generalizing common with
  | nil => simp
  | cons p own ih =>
      obtain ⟨k, a⟩ := p
      rw [List.map_cons, List.nodup_cons] at hown
      have hnone : own.lookup k = none := lookup_eq_none_iff_not_mem.2 hown.1
      rw [List.foldl_cons, ih hown.2 (nodup_map_fst_putPair hcommon), map_fst_putPair]
      -- A key that is there keeps its place. One that is not goes behind, where no later pair of
      -- `own` has the same key.
      by_cases hk : k ∈ common.map Prod.fst
      · have hvalue : ∀ q ∈ common,
            (((if q.1 = k then (k, a) else q) : κ × α).1,
              (own.lookup ((if q.1 = k then (k, a) else q) : κ × α).1).getD
                ((if q.1 = k then (k, a) else q) : κ × α).2) =
              (q.1, (((k, a) :: own).lookup q.1).getD q.2) := by
          intro q _
          by_cases hq : q.1 = k
          · simp [hq, hnone]
          · rw [if_neg hq, lookup_cons_of_key_ne a own hq]
        rw [putPair_of_mem hcommon hk, List.map_map, if_pos hk,
          List.filter_cons_of_neg (by simpa using hk)]
        exact congrArg (· ++ _) (List.map_congr_left hvalue)
      · have hvalue : ∀ q ∈ common, (q.1, (own.lookup q.1).getD q.2) =
            (q.1, (((k, a) :: own).lookup q.1).getD q.2) := by
          intro q hq
          have hne : ¬q.1 = k := fun heq => hk (List.mem_map.2 ⟨q, hq, heq⟩)
          rw [lookup_cons_of_key_ne a own hne]
        have hrest : ∀ q ∈ own, decide (q.1 ∉ common.map Prod.fst ++ [k]) =
            decide (q.1 ∉ common.map Prod.fst) := by
          intro q hq
          have hne : ¬q.1 = k := fun heq => hown.1 (List.mem_map.2 ⟨q, hq, heq⟩)
          simp [hne]
        rw [putPair_of_not_mem hk, if_neg hk, List.map_append, List.map_congr_left hvalue,
          List.filter_congr hrest, List.filter_cons_of_pos (by simpa using hk), List.append_assoc]
        simp [hnone]

end

section Map
variable {κ α β : Type} [DecidableEq κ] {g : κ × α → κ × β}

theorem lookup_map (hg : ∀ p, (g p).1 = p.1) (k : κ) (pairs : List (κ × α)) :
    (pairs.map g).lookup k = (pairs.lookup k).map fun a => (g (k, a)).2 := by
  have hpair : ∀ p : κ × α, g p = (p.1, (g p).2) := fun p => Prod.ext (hg p) rfl
  induction pairs with
  | nil => rfl
  | cons p rest ih =>
      obtain ⟨k', a⟩ := p
      rw [List.map_cons, hpair (k', a)]
      by_cases h : k = k'
      · subst h
        rw [List.lookup_cons_self, List.lookup_cons_self, Option.map_some]
      · rw [lookup_cons_of_key_ne _ _ h, lookup_cons_of_key_ne _ _ h, ih]

theorem map_putPair (hg : ∀ p, (g p).1 = p.1) (k : κ) (a : α) (pairs : List (κ × α)) :
    (putPair k a pairs).map g = putPair k (g (k, a)).2 (pairs.map g) := by
  have hpair : ∀ p : κ × α, g p = (p.1, (g p).2) := fun p => Prod.ext (hg p) rfl
  induction pairs with
  | nil => exact congrArg (fun p => [p]) (hpair (k, a))
  | cons p rest ih =>
      rw [putPair, List.map_cons, hpair p, putPair]
      by_cases h : p.1 = k
      · rw [if_pos h, if_pos h, List.map_cons, hpair (k, a)]
      · rw [if_neg h, if_neg h, List.map_cons, ih, hpair p]

theorem map_foldl_putPair (hg : ∀ p, (g p).1 = p.1) (own common : List (κ × α)) :
    (own.foldl (fun pairs p => putPair p.1 p.2 pairs) common).map g =
      (own.map g).foldl (fun pairs p => putPair p.1 p.2 pairs) (common.map g) := by
  induction own generalizing common with
  | nil => rfl
  | cons p rest ih => rw [List.foldl_cons, ih, map_putPair hg, List.map_cons, List.foldl_cons, hg]

theorem pairs_ofList_map (hg : ∀ p, (g p).1 = p.1) (source : List (κ × α)) :
    (InsertionMap.ofList (source.map g)).pairs = (InsertionMap.ofList source).pairs.map g := by
  induction source using List.reverseRecOn with
  | nil => rfl
  | append_singleton source p ih =>
      rw [List.map_append, List.map_singleton, InsertionMap.ofList_append_singleton,
        InsertionMap.ofList_append_singleton]
      change putPair _ _ (InsertionMap.ofList (source.map g)).pairs =
        (putPair _ _ (InsertionMap.ofList source).pairs).map g
      rw [ih, map_putPair hg, hg]

end Map

end FleetWarden
