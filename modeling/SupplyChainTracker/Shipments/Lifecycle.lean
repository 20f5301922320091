import SupplyChainTracker.Core.Run
import SupplyChainTracker.Shipments.ShipmentRepository

/-!
# The lifecycle of a shipment

Runs of the operations that write the status of a shipment, over a store that keeps what
it is given. No operation asks `can_transition_to`, so a run follows the lifecycle exactly
when its callers only ask for statuses that it allows.
-/

namespace SupplyChainTracker.Shipments

/-- One operation of a run. -/
def statusStep (op : StatusOp) (t : ShipmentStore) : ShipmentStore :=
  (op.program.run ShipmentStore.act t).2

/-- Every change of a stored status is one that `can_transition_to` would have allowed just before. -/
def Lawful (t : ShipmentStore) (op : StatusOp) : Prop :=
  ∀ id old new, t.find? id = some old → (statusStep op t).find? id = some new →
    new.status ≠ old.status →
    ((ShipmentService.canTransitionTo id new.status).run ShipmentStore.act t).1 = .ok true

/-- The caller asks for the status that is stored already or for one that the lifecycle allows
next. -/
def AsksNext (t : ShipmentStore) (op : StatusOp) : Prop :=
  ∀ old, t.find? op.shipmentId = some old →
    op.status = old.status ∨ op.status ∈ ShipmentService.validTransitions old.status

/-- Loading, changing and saving a shipment, over a store. -/
theorem run_modifyShipment (t : ShipmentStore) (id : UUID) (change : Shipment → Shipment) :
    (ShipmentService.modify id change).run ShipmentStore.act t =
      match t.find? id with
      | none => (.error (notFound id), t)
      | some shipment => (.ok (change shipment), t.put (change shipment)) := by
  simp only [ShipmentService.modify, Coroutine.bind_eq, Coroutine.run_bind, Coroutine.run_perform,
    ShipmentStore.act]
  cases t.find? id with
  | none => rfl
  | some shipment => exact Coroutine.run_perform ..

/-- A creation stores its shipment. -/
theorem statusStep_create (t : ShipmentStore) (shipment : Shipment) :
    statusStep (.create shipment) t = t.put shipment :=
  congrArg Prod.snd (Coroutine.run_perform ..)

/-- Any other operation changes the shipment that it is about, if it is stored. -/
theorem statusStep_of_modify {op : StatusOp}
    (h : op.program = ShipmentService.modify op.shipmentId op.change) (t : ShipmentStore) :
    statusStep op t =
      match t.find? op.shipmentId with
      | some old => t.put (op.change old)
      | none => t := by
  rw [statusStep, h, run_modifyShipment]
  cases t.find? op.shipmentId <;> rfl

/-- An operation on a stored shipment changes it. -/
theorem statusStep_of_find? {t : ShipmentStore} {op : StatusOp} {old : Shipment}
    (h : t.find? op.shipmentId = some old) : statusStep op t = t.put (op.change old) := by
  rcases op.program_eq with ⟨shipment, rfl⟩ | hmodify
  · exact statusStep_create t shipment
  · rw [statusStep_of_modify hmodify, h]

/-- An operation leaves the other shipments alone. -/
theorem find?_statusStep_of_ne {t : ShipmentStore} {op : StatusOp} {id : UUID}
    (h : op.shipmentId ≠ id) : (statusStep op t).find? id = t.find? id := by
  rcases op.program_eq with ⟨shipment, rfl⟩ | hmodify
  · rw [statusStep_create]
    exact Table.find?_put_of_ne t shipment h
  · rw [statusStep_of_modify hmodify]
    cases hfind : t.find? op.shipmentId with
    | none => rfl
    | some old =>
      have hid := StatusOp.shipmentId_change op (Table.key_of_find? hfind)
      exact Table.find?_put_of_ne t _ (hid ▸ h)

/-- What `can_transition_to` answers for a stored shipment. -/
theorem run_canTransitionTo {t : ShipmentStore} {id : UUID} {old : Shipment}
    (h : t.find? id = some old) (target : ShipmentStatus) :
    ((ShipmentService.canTransitionTo id target).run ShipmentStore.act t).1 =
      .ok (decide (target ∈ ShipmentService.validTransitions old.status)) := by
  simp only [ShipmentService.canTransitionTo, Coroutine.bind_eq, Coroutine.run_bind,
    Coroutine.run_perform, ShipmentStore.act, h, Coroutine.pure_eq, Coroutine.run_ret]

/-- One operation follows the lifecycle exactly when it asks for nothing else. -/
theorem lawful_iff_asksNext (t : ShipmentStore) (op : StatusOp) : Lawful t op ↔ AsksNext t op := by
  constructor
  · intro h old hold
    by_cases hsame : op.status = old.status
    · exact .inl hsame
    · have hnew : (statusStep op t).find? op.shipmentId = some (op.change old) := by
        rw [statusStep_of_find? hold]
        conv_lhs => rw [← StatusOp.shipmentId_change op (Table.key_of_find? hold)]
        exact Table.find?_put_self ..
      have hcan := h _ _ _ hold hnew (by rwa [StatusOp.status_change])
      rw [run_canTransitionTo hold, StatusOp.status_change] at hcan
      exact .inr (of_decide_eq_true (Except.ok.inj hcan))
  · intro h id old new hold hnew hchanged
    by_cases hid : op.shipmentId = id
    · subst hid
      rw [statusStep_of_find? hold] at hnew
      have hkey := StatusOp.shipmentId_change op (Table.key_of_find? hold)
      rw [← hkey, Table.find?_put_self, Option.some.injEq] at hnew
      subst hnew
      rw [StatusOp.status_change] at hchanged ⊢
      have hnext := (h old hold).resolve_left hchanged
      rw [run_canTransitionTo hold, decide_eq_true hnext]
    · rw [find?_statusStep_of_ne hid, hold, Option.some.injEq] at hnew
      exact absurd (congrArg Shipment.status hnew.symm) hchanged

/-- Every change of a status in a run is allowed by `can_transition_to` exactly when every operation
of the run asks for the stored status or for one that is allowed next. -/
theorem lifecycle_iff_asksNext (ops : List StatusOp) (t : ShipmentStore) :
    EachStep statusStep Lawful ops t ↔ EachStep statusStep AsksNext ops t :=
  eachStep_congr lawful_iff_asksNext ops t

/-- A new shipment is completed at once, and the completed shipment is received again. -/
theorem completed_received :
    ¬ EachStep statusStep Lawful
        [.create sampleShipment, .markAsCompleted ⟨3⟩ 1, .markAsReceived ⟨3⟩ 2] Table.empty ∧
    (([.create sampleShipment, .markAsCompleted ⟨3⟩ 1].foldl (fun t op => statusStep op t)
        Table.empty).find? ⟨3⟩).map Shipment.status = some .completed ∧
    (([.create sampleShipment, .markAsCompleted ⟨3⟩ 1, .markAsReceived ⟨3⟩ 2].foldl
        (fun t op => statusStep op t) Table.empty).find? ⟨3⟩).map Shipment.status =
      some .received := by
  refine ⟨fun h => ?_, rfl, rfl⟩
  rcases (lawful_iff_asksNext _ _).mp h.2.1 sampleShipment rfl with hasked | hasked
  · exact absurd hasked (by decide)
  · exact absurd hasked (by decide)

end SupplyChainTracker.Shipments
