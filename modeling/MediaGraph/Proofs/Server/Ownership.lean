import MediaGraph.Proofs.Server.Stream

/-!
# Who objects belong to

An object belongs to nobody, or to a connection that was there when the object was made. Numbers of
connections are not used again, so nothing belongs to a connection that is yet to come: whatever a
new client does, it finds no objects that would go away with it.
-/

namespace MediaGraph.Server

/-- Connections, and those whom objects belong to, have numbers that have been given out. -/
structure Issued (server : Server) : Prop where
  numbered : server.Numbered
  owners : ∀ id object owner, server.objects.get? id = some object → object.owner = some owner →
    owner ≤ server.lastConnection

variable {before after server : Server}

theorem Numbered.of_passes (numbered : before.Numbered) (passes : ∀ id, Passes id before after) :
    after.Numbered :=
  numbered.of_lasts (passes 0).last fun id => (passes id).toLasts

/-- Objects that stay, with whom they belong to, are no objection. -/
theorem Issued.of_objects (issued : before.Issued) (numbered : after.Numbered)
    (last : before.lastConnection ≤ after.lastConnection)
    (kept : ∀ id object, after.objects.get? id = some object →
      ∃ former, before.objects.get? id = some former ∧ object.owner = former.owner) :
    after.Issued where
  numbered := numbered
  owners id object owner found owned := by
    rcases kept id object found with ⟨former, isFormer, same⟩
    exact Nat.le_trans (issued.owners id former owner isFormer (same.symm.trans owned)) last

theorem Issued.insertObject (issued : server.Issued) {object : Object} (id : ObjectId)
    (hosts : server.Hosts object) : (server.insertObject id object).Issued := by
  have passes : ∀ other, Passes other server (server.insertObject id object) := fun other =>
    passes_insertObject server id object
  refine ⟨issued.numbered.of_passes passes, fun other found owner isFound owned => ?_⟩
  apply Nat.le_trans _ (passes 0).last
  rw [get?_insertObject] at isFound
  split at isFound
  · cases isFound
    rcases Option.isSome_iff_exists.1 (hosts owner owned) with ⟨connection, connected⟩
    exact issued.numbered owner connection connected
  · exact issued.owners other found owner isFound owned

theorem carries_issued : Carries fun before after => before.Issued → after.Issued where
  trans start rest issued := rest (start issued)
  keeps keeps issued := by
    apply issued.of_objects (issued.numbered.of_passes fun _ => passes_of_keeps keeps) keeps.last
    intro id object found
    exact ⟨object, keeps.objects ▸ found, rfl⟩
  insertObject id hosts issued := issued.insertObject id hosts
  removeObject server id issued := by
    have passes : ∀ other, Passes other server (server.removeObject id) := fun _ =>
      passes_removeObject server id
    apply issued.of_objects (issued.numbered.of_passes passes) (passes 0).last
    intro other object found
    rw [get?_removeObject, Option.ite_none_left_eq_some] at found
    exact ⟨object, found.2, rfl⟩
  rewrite {server id former} props present issued := by
    have passes : ∀ other, Passes other server _ := fun _ => passes_rewrite present props
    apply issued.of_objects (issued.numbered.of_passes passes) (passes 0).last
    intro other object found
    rw [objects_sendInfo, Table.get?_insert] at found
    split at found
    case isTrue same =>
      cases found
      exact ⟨former, same ▸ present, rfl⟩
    case isFalse => exact ⟨object, found, rfl⟩

theorem serves_issued (id : ConnectionId) :
    Serves id fun before after => before.Issued → after.Issued where
  toCarries := carries_issued
  arrange {server connection later} connected _ issued := by
    refine ⟨fun other present found => ?_, issued.owners⟩
    simp only [setConnection, Table.get?_insert] at found
    split at found
    case isTrue same => exact same ▸ issued.numbered id connection connected
    case isFalse => exact issued.numbered other present found

/-! ## Runs -/

theorem Issued.perform (issued : server.Issued) (step : Step) : (server.perform step).Issued := by
  cases step with
  | setUp => exact ⟨issued.numbered, issued.owners⟩
  | takeDown => exact ⟨issued.numbered, issued.owners⟩
  | inject injection => exact carries_issued.inject server injection issued
  | connect config =>
      have numbered := issued.numbered.perform (.connect config)
      cases refuses : server.policy.refuseConnections with
      | true => simpa [Server.perform, connect, refuses] using issued
      | false =>
          simp only [Server.perform, connect, refuses, Bool.false_eq_true, if_false] at numbered ⊢
          exact issued.of_objects numbered (Nat.le_succ _) fun id object found =>
            ⟨object, found, rfl⟩
  | ask id request => exact (serves_issued id).answer server request issued

theorem Issued.run (issued : server.Issued) (steps : List Step) : (server.run steps).Issued := by
  induction steps generalizing server with
  | nil => exact issued
  | cons step rest ih => exact ih (issued.perform step)

theorem issued_run (steps : List Step) : (run {} steps).Issued := by
  have empty : Issued {} := by
    constructor
    · intro id connection found
      cases found
    · intro id object owner found
      cases found
  exact empty.run steps

end MediaGraph.Server
