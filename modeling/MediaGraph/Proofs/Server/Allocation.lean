import MediaGraph.Proofs.Server.Objects
import MediaGraph.Proofs.Table

/-!
# Free ids

The search for a free id goes through the ids in a circle. On its way to an id that is free it comes
by ids that are in use, each of them once, and perhaps by the reserved one at its start. So as many
steps as there are objects, and two more, are enough to arrive (`Server.get?_allocateId`).
-/

namespace MediaGraph

namespace Server

variable {objects : Table ObjectId Object} {goal id other : ObjectId}

theorem toNat_idAfter (id : ObjectId) :
    (idAfter id).toNat = if 4294967294 ≤ id.toNat then 32 else id.toNat + 1 := by
  have last : unassigned - 1 ≤ id ↔ 4294967294 ≤ id.toNat := UInt32.le_iff_toNat_le
  simp only [idAfter, last]
  split
  case isTrue => rfl
  case isFalse below =>
    rw [UInt32.toNat_add]
    have small : id.toNat + 1 < 2 ^ 32 := by omega
    exact Nat.mod_eq_of_lt small

theorem idAfter_ne_unassigned (id : ObjectId) : idAfter id ≠ unassigned := by
  intro same
  have next := toNat_idAfter id
  rw [same] at next
  have reserved : unassigned.toNat = 4294967295 := rfl
  split at next <;> omega

/-- The ids that the search comes by from one id to another, in terms of numbers. -/
def OnWay (start goal id : ObjectId) : Prop :=
  if start.toNat ≤ goal.toNat then start.toNat ≤ id.toNat ∧ id.toNat < goal.toNat
  else start.toNat ≤ id.toNat ∨ (32 ≤ id.toNat ∧ id.toNat < goal.toNat)

theorem onWay_start (apart : id ≠ goal) : OnWay id goal id := by
  have numbers : id.toNat ≠ goal.toNat := fun same => apart (UInt32.toNat_inj.1 same)
  simp only [OnWay]
  split <;> omega

/-- One step further, an id has been left behind and the others are still ahead. -/
theorem onWay_of_idAfter (inRange : firstObjectId ≤ goal ∧ goal < unassigned) (apart : id ≠ goal)
    (ahead : OnWay (idAfter id) goal other) : OnWay id goal other ∧ other ≠ id := by
  have low : 32 ≤ goal.toNat := UInt32.le_iff_toNat_le.1 inRange.1
  have high : goal.toNat < 4294967295 := UInt32.lt_iff_toNat_lt.1 inRange.2
  have numbers : id.toNat ≠ goal.toNat := fun same => apart (UInt32.toNat_inj.1 same)
  suffices further : OnWay id goal other ∧ other.toNat ≠ id.toNat from
    ⟨further.1, fun same => further.2 (congrArg _ same)⟩
  simp only [OnWay, toNat_idAfter] at ahead ⊢
  split at ahead
  case isTrue => split <;> omega
  case isFalse => split at ahead <;> split <;> omega

/-- The search arrives if there are more steps to go than ids in use ahead of it. -/
theorem freeIdFrom_spec (inRange : firstObjectId ≤ goal ∧ goal < unassigned)
    (free : objects.get? goal = none) {steps : Nat} {ahead : List ObjectId}
    (start : id ≠ unassigned) (enough : ahead.length < steps)
    (met : ∀ other, OnWay id goal other → objects.contains other → other ∈ ahead) :
    objects.get? (freeIdFrom objects steps id) = none ∧
      freeIdFrom objects steps id ≠ unassigned := by
  induction steps generalizing id ahead with
  | zero => exact absurd enough (Nat.not_lt_zero _)
  | succ steps ih =>
      cases used : objects.contains id with
      | false =>
          have found : freeIdFrom objects (steps + 1) id = id := by
            simp [freeIdFrom, start, used]
          rw [found]
          exact ⟨by simpa [Table.contains] using used, start⟩
      | true =>
          have next : freeIdFrom objects (steps + 1) id =
              freeIdFrom objects steps (idAfter id) := by
            simp [freeIdFrom, used]
          have apart : id ≠ goal := by
            rintro rfl
            simp [Table.contains, free] at used
          have here := met id (onWay_start apart) used
          have fewer : (ahead.erase id).length < steps := by
            have one := List.length_pos_of_mem here
            rw [List.length_erase_of_mem here]
            omega
          rw [next]
          apply ih (idAfter_ne_unassigned id) fewer
          intro other further isUsed
          rcases onWay_of_idAfter inRange apart further with ⟨onWay, differs⟩
          exact (List.mem_erase_of_ne differs).2 (met other onWay isUsed)

/-- As long as there is a free id to give out, the server gives out one that no object has. -/
theorem get?_allocateId (server : Server)
    (room : ∃ id, firstObjectId ≤ id ∧ id < unassigned ∧ server.objects.get? id = none) :
    server.objects.get? server.allocateId.1 = none ∧ server.allocateId.1 ≠ unassigned := by
  rcases room with ⟨goal, low, high, free⟩
  have met : ∀ start other, OnWay start goal other → server.objects.contains other →
      other ∈ server.objects.keys := fun _ other _ used =>
    (Table.mem_keys_iff _ other).2 used
  have size : server.objects.keys.length = server.objects.size := List.length_map _
  show server.objects.get?
      (freeIdFrom server.objects (server.objects.size + 2) server.nextId) = none ∧
    freeIdFrom server.objects (server.objects.size + 2) server.nextId ≠ unassigned
  by_cases reserved : server.nextId = unassigned
  · have skipped : freeIdFrom server.objects (server.objects.size + 2) server.nextId =
        freeIdFrom server.objects (server.objects.size + 1) (idAfter server.nextId) := by
      simp [freeIdFrom, reserved]
    rw [skipped]
    exact freeIdFrom_spec ⟨low, high⟩ free (idAfter_ne_unassigned _) (by omega) (met _)
  · exact freeIdFrom_spec ⟨low, high⟩ free reserved (by omega) (met _)

end Server

end MediaGraph
