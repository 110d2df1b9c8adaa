import FleetWarden.Proofs.Manager.Rebuilding

/-!
# Sizes through a client

What the manager does to answer or to change the size of a fleet, as one equation for each
operation: the calls of the client in their order, and the report between them. A size with too many
digits to be reported stops the operation there.
-/

namespace FleetWarden.Manager
variable {ρ : Type}

theorem reportSizes_of_writable {sizes : List Value} (h : Value.allWritable sizes = true)
    (e : Event) : (reportSizes sizes e : Operation ρ Unit) = report e := by
  rw [reportSizes, if_pos h]

theorem reportSizes_of_unwritable {sizes : List Value} (h : Value.allWritable sizes = false)
    (e : Event) : (reportSizes sizes e : Operation ρ Unit) = .fail .unwritable := by
  rw [reportSizes, h, if_neg Bool.false_ne_true]

/-- The size of a fleet is what the client describes. -/
theorem getSize_eq (client : Client ρ) (fleet : Fleet) (s : System ρ) :
    getSize client fleet s =
      match client.describe fleet.name (s.world.report (.sizeAsked fleet.name)) with
      | (.error f, w) => (.error f, { s with world := w })
      | (.ok description, w) =>
        if Value.allWritable [description.capacity] then
          (.ok description.capacity,
            { s with world := w.report (.sizeAnswered description.capacity) })
        else (.error .unwritable, { s with world := w }) := by
  have hasked : report (.sizeAsked fleet.name) s = (.ok (), s.report (.sizeAsked fleet.name)) := rfl
  rw [getSize, Action.bind_of_ok hasked]
  rcases h : client.describe fleet.name (s.world.report (.sizeAsked fleet.name)) with
    ⟨f | description, w⟩
  · rw [Action.bind_of_error (Effect.lift_eq_iff.2 ⟨w, h, rfl⟩)]
    rfl
  · rw [Action.bind_of_ok (Effect.lift_eq_iff.2 ⟨w, h, rfl⟩)]
    dsimp only
    split_ifs with hsizes
    · rw [reportSizes_of_writable hsizes]
      rfl
    · rw [reportSizes_of_unwritable (Bool.eq_false_iff.2 hsizes)]
      rfl

/-- A change of size describes the fleet and then updates it, unless one of the two sizes cannot be
reported. -/
theorem setSize_eq (client : Client ρ) (fleet : Fleet) (target : Int) (s : System ρ) :
    setSize client fleet target s =
      match client.describe fleet.name s.world with
      | (.error f, w) => (.error f, { s with world := w })
      | (.ok current, w) =>
        if Value.allWritable [current.capacity, .int target] then
          let (answer, w') := client.update fleet.name target (some current)
            (w.report (.resizing fleet.name current.capacity target))
          (answer, { s with world := w' })
        else (.error .unwritable, { s with world := w }) := by
  rcases h : client.describe fleet.name s.world with ⟨f | current, w⟩
  · rw [setSize, Action.bind_of_error (Effect.lift_eq_iff.2 ⟨w, h, rfl⟩)]
  · rw [setSize, Action.bind_of_ok (Effect.lift_eq_iff.2 ⟨w, h, rfl⟩)]
    dsimp only
    split_ifs with hsizes
    · rw [reportSizes_of_writable hsizes]
      rfl
    · rw [reportSizes_of_unwritable (Bool.eq_false_iff.2 hsizes)]
      rfl

end FleetWarden.Manager
