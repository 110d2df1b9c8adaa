import FleetWarden.Cloud.Client

/-!
# Where the checked client fails

`DescribeFails` and `ListFails` name the points at which a question of the checked client can come
to an end, each with the fault that it ends with and the world that it leaves: the call itself, an
answer that cannot be used, or an item that does not arrive.
-/

namespace FleetWarden
namespace Client
variable {ρ : Type} (azure : Azure ρ) (group : ResourceGroup) (name : String)

/-- A set that cannot be described: the call fails, or the set has no capacity that can be read. -/
inductive DescribeFails (w : World ρ) : Fault → World ρ → Prop
  | call {e : Fault} {w' : World ρ} (refused : azure.get group name w = (.error e, w')) :
      DescribeFails w e w'
  | noCapacity {body : ScaleSetBody} {w' : World ρ}
      (answered : azure.get group name w = (.ok body, w'))
      (missing : body.capacity = none ∨ body.capacity = some .null) :
      DescribeFails w (.noCapacity name) w'
  | badCapacity {body : ScaleSetBody} {v : Value} {e : WholeError} {w' : World ρ}
      (answered : azure.get group name w = (.ok body, w')) (found : body.capacity = some v)
      (set : v ≠ .null) (unreadable : v.whole = .error e) :
      DescribeFails w (.badCapacity e) w'

/-- Items that all arrive and have ids, counted from a place in their listing. -/
inductive Arrived : Nat → World ρ → List Member → World ρ → Prop
  | nil {i : Nat} {w : World ρ} : Arrived i w [] w
  | cons {i : Nat} {w w₁ w' : World ρ} {m : Member} {rest : List Member}
      (reached : azure.reach name i w = (.ok (), w₁)) (ids : m.hasIds = true)
      (others : Arrived (i + 1) w₁ rest w') : Arrived i w (m :: rest) w'

/-- A set that cannot be listed: the call fails, or the first item that is not in order does not
arrive or has no ids. -/
inductive ListFails (w : World ρ) : Fault → World ρ → Prop
  | call {e : Fault} {w' : World ρ} (refused : azure.list group name w = (.error e, w')) :
      ListFails w e w'
  | item {good others : List Member} {m : Member} {e : Fault} {w₁ w₂ w' : World ρ}
      (listed : azure.list group name w = (.ok (good ++ m :: others), w₁))
      (arrived : Arrived azure name 0 w₁ good w₂)
      (refused : azure.reach name good.length w₂ = (.error e, w')) : ListFails w e w'
  | withoutId {good others : List Member} {m : Member} {w₁ w₂ w' : World ρ}
      (listed : azure.list group name w = (.ok (good ++ m :: others), w₁))
      (arrived : Arrived azure name 0 w₁ good w₂)
      (reached : azure.reach name good.length w₂ = (.ok (), w')) (ids : m.hasIds = false) :
      ListFails w (.instanceWithoutId name) w'

variable {azure group name} {w w' : World ρ} {e : Fault}

/-- The capacity that a body shows, or why it shows none. -/
def capacityOf (name : String) (body : ScaleSetBody) : Except Fault Int :=
  match body.capacity with
  | none => .error (.noCapacity name)
  | some .null => .error (.noCapacity name)
  | some v =>
    match v.whole with
    | .error e => .error (.badCapacity e)
    | .ok n => .ok n

theorem capacityOf_eq_error_iff {body : ScaleSetBody} :
    capacityOf name body = .error e ↔
      ((body.capacity = none ∨ body.capacity = some .null) ∧ e = .noCapacity name) ∨
        ∃ v err, body.capacity = some v ∧ v ≠ .null ∧ v.whole = .error err ∧
          e = .badCapacity err := by
  rw [capacityOf]
  cases body.capacity with
  | none => simp [eq_comm]
  | some v =>
      by_cases hv : v = .null
      · subst hv
        simp [eq_comm]
      · cases hw : v.whole <;> simp [hv, hw, eq_comm]

theorem fetch_of_answer {body : ScaleSetBody} (h : azure.get group name w = (.ok body, w')) :
    fetch azure group name w = ((capacityOf name body).map (body, ·), w') := by
  rw [fetch, Action.bind_of_ok h, capacityOf]
  cases body.capacity with
  | none => rfl
  | some v =>
      cases v with
      | null => rfl
      | _ =>
          dsimp only
          cases Value.whole _ <;> rfl

theorem describeChecked_eq_error_iff :
    describeChecked azure group name w = (.error e, w') ↔
      DescribeFails azure group name w e w' := by
  have hf : describeChecked azure group name w = (.error e, w') ↔
      fetch azure group name w = (.error e, w') := by
    rw [describeChecked, Action.bind_eq_error_iff]
    simp
  rw [hf]
  constructor
  · intro h
    rcases hb : azure.get group name w with ⟨e' | body, w₁⟩
    · rw [fetch, Action.bind_of_error hb] at h
      cases h
      exact .call hb
    · rw [fetch_of_answer hb] at h
      cases hc : capacityOf name body with
      | ok n =>
          rw [hc] at h
          cases h
      | error e' =>
          rw [hc] at h
          cases h
          rcases capacityOf_eq_error_iff.1 hc with ⟨hm, rfl⟩ | ⟨v, err, hv, hn, hw, rfl⟩
          · exact .noCapacity hb hm
          · exact .badCapacity hb hv hn hw
  · rintro (h | ⟨hb, hm⟩ | ⟨hb, hv, hn, hw⟩)
    · rw [fetch, Action.bind_of_error h]
    · rw [fetch_of_answer hb, capacityOf_eq_error_iff.2 (Or.inl ⟨hm, rfl⟩)]
      rfl
    · rw [fetch_of_answer hb, capacityOf_eq_error_iff.2 (Or.inr ⟨_, _, hv, hn, hw, rfl⟩)]
      rfl

theorem requireIds_of_hasIds {m : Member} (h : m.hasIds = true) :
    requireIds name m w = (.ok (), w) := by
  rw [requireIds, if_pos h]
  rfl

theorem requireIds_of_not_hasIds {m : Member} (h : m.hasIds = false) :
    requireIds name m w = (.error (.instanceWithoutId name), w) := by
  rw [requireIds, if_neg (by simp [h])]
  rfl

/-- Items are taken exactly as they are if they all arrive and have ids. -/
theorem arrive_eq_ok_iff {i : Nat} {items members : List Member} :
    arrive azure name (requireIds name) i items w = (.ok members, w') ↔
      members = items ∧ Arrived azure name i w items w' := by
  induction items generalizing i w members with
  | nil =>
      simp only [arrive, Action.pure_apply, Prod.mk.injEq, Except.ok.injEq]
      constructor
      · rintro ⟨rfl, rfl⟩
        exact ⟨rfl, .nil⟩
      · rintro ⟨rfl, h⟩
        cases h
        exact ⟨rfl, rfl⟩
  | cons m rest ih =>
      simp only [arrive, Action.bind_eq_ok_iff, Action.pure_apply, Prod.mk.injEq, Except.ok.injEq]
      constructor
      · rintro ⟨_, w₁, hr, _, w₂, hi, others, w₃, ha, rfl, rfl⟩
        cases hm : m.hasIds with
        | false =>
            rw [requireIds_of_not_hasIds hm] at hi
            cases hi
        | true =>
            rw [requireIds_of_hasIds hm] at hi
            cases hi
            obtain ⟨rfl, ha⟩ := ih.1 ha
            exact ⟨rfl, .cons hr hm ha⟩
      · rintro ⟨rfl, h⟩
        cases h with
        | cons reached ids others =>
            exact ⟨_, _, reached, _, _, requireIds_of_hasIds ids, _, _, ih.2 ⟨rfl, others⟩, rfl,
              rfl⟩

/-- The first item that is not in order decides how a listing fails. -/
theorem arrive_eq_error_iff {i : Nat} {items : List Member} :
    arrive azure name (requireIds name) i items w = (.error e, w') ↔
      ∃ good m others w₁, items = good ++ m :: others ∧ Arrived azure name i w good w₁ ∧
        (azure.reach name (i + good.length) w₁ = (.error e, w') ∨
          azure.reach name (i + good.length) w₁ = (.ok (), w') ∧ m.hasIds = false ∧
            e = .instanceWithoutId name) := by
  induction items generalizing i w with
  | nil => simp [arrive]
  | cons m rest ih =>
      simp only [arrive, Action.bind_eq_error_iff, Action.pure_apply, Prod.mk.injEq,
        reduceCtorEq, false_and, and_false, or_false, exists_false]
      constructor
      · rintro (hr | ⟨_, w₁, hr, hi | ⟨_, w₂, hi, ha⟩⟩)
        · exact ⟨[], m, rest, w, rfl, .nil, Or.inl hr⟩
        · cases hm : m.hasIds with
          | false =>
              rw [requireIds_of_not_hasIds hm] at hi
              cases hi
              exact ⟨[], m, rest, w, rfl, .nil, Or.inr ⟨hr, hm, rfl⟩⟩
          | true =>
              rw [requireIds_of_hasIds hm] at hi
              cases hi
        · cases hm : m.hasIds with
          | false =>
              rw [requireIds_of_not_hasIds hm] at hi
              cases hi
          | true =>
              rw [requireIds_of_hasIds hm] at hi
              cases hi
              obtain ⟨good, m', others, w₃, rfl, harr, hend⟩ := ih.1 ha
              refine ⟨m :: good, m', others, w₃, rfl, .cons hr hm harr, ?_⟩
              simpa [Nat.add_assoc, Nat.add_comm 1] using hend
      · rintro ⟨good, m', others, w₁, hsplit, harr, hend⟩
        cases harr with
        | nil =>
            obtain ⟨rfl, rfl⟩ := List.cons.inj hsplit
            rcases hend with hr | ⟨hr, hm, rfl⟩
            · exact Or.inl hr
            · exact Or.inr ⟨(), _, hr, Or.inl (requireIds_of_not_hasIds hm)⟩
        | cons reached ids more =>
            obtain ⟨rfl, rfl⟩ := List.cons.inj hsplit
            refine Or.inr ⟨(), _, reached, Or.inr ⟨(), _, requireIds_of_hasIds ids, ?_⟩⟩
            refine ih.2 ⟨_, m', others, w₁, rfl, more, ?_⟩
            simpa [Nat.add_assoc, Nat.add_comm 1] using hend

theorem listChecked_eq_error_iff :
    listChecked azure group name w = (.error e, w') ↔ ListFails azure group name w e w' := by
  rw [listChecked, Action.bind_eq_error_iff]
  simp only [emit, Action.bind_eq_error_iff, Action.change_apply, Action.pure_apply,
    Prod.mk.injEq, reduceCtorEq, false_and, and_false, or_false, exists_false, arrive_eq_error_iff,
    Nat.zero_add]
  constructor
  · rintro (h | ⟨_, w₁, hl, good, m, others, w₂, rfl, harr, hr | ⟨hr, hm, rfl⟩⟩)
    · exact .call h
    · exact .item hl harr hr
    · exact .withoutId hl harr hr hm
  · rintro (h | ⟨hl, harr, hr⟩ | ⟨hl, harr, hr, hm⟩)
    · exact Or.inl h
    · exact Or.inr ⟨_, _, hl, _, _, _, _, rfl, harr, Or.inl hr⟩
    · exact Or.inr ⟨_, _, hl, _, _, _, _, rfl, harr, Or.inr ⟨hr, hm, rfl⟩⟩

theorem hasIds_of_arrived {i : Nat} {items : List Member}
    (h : Arrived azure name i w items w') : ∀ m ∈ items, m.hasIds = true := by
  induction h with
  | nil => simp
  | cons reached ids others ih => simpa [ids] using ih

/-- What the checked client lists is what was answered, and all of it has ids. -/
theorem listChecked_of_ok {members : List Member}
    (h : listChecked azure group name w = (.ok members, w')) :
    (∃ w₁, azure.list group name w = (.ok members, w₁)) ∧ ∀ m ∈ members, m.hasIds = true := by
  rw [listChecked] at h
  simp only [emit, Action.bind_eq_ok_iff, Action.pure_apply, Prod.mk.injEq, Except.ok.injEq] at h
  obtain ⟨items, w₁, hl, _, w₂, ha, _, _, -, rfl, -⟩ := h
  obtain ⟨rfl, harr⟩ := arrive_eq_ok_iff.1 ha
  exact ⟨⟨w₁, hl⟩, hasIds_of_arrived harr⟩

end Client
end FleetWarden
