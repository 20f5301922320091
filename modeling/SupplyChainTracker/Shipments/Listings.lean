import SupplyChainTracker.Shipments.ShipmentRepository

/-!
# Listings of shipments by their status

The service selects the shipments in memory, out of what `get_all` returns by default. That is the
first page of the repository, so a listing is complete only where the rest holds nothing to select.
-/

namespace SupplyChainTracker.Shipments

/-- What is selected from a page is all there is to select exactly where the rest holds nothing. -/
theorem perm_filter_take_iff {α : Type} (p : α → Bool) (limit : Nat) (l : List α) :
    ((l.take limit).filter p).Perm (l.filter p) ↔ ∀ a ∈ l.drop limit, ¬ p a := by
  have hsplit : l.filter p = (l.take limit).filter p ++ (l.drop limit).filter p := by
    rw [← List.filter_append, List.take_append_drop]
  rw [← List.filter_eq_nil_iff]
  constructor
  · intro hperm
    have hlength := hperm.length_eq
    rw [hsplit, List.length_append] at hlength
    exact List.eq_nil_of_length_eq_zero (by omega)
  · intro hnil
    rw [hsplit, hnil, List.append_nil]

/-- A method of the service returns the stored shipments that satisfy a condition, each once, and
no others. -/
def ReturnsExactly (program : ShipmentProgram (List Shipment)) (p : Shipment → Bool)
    (t : ShipmentStore) : Prop :=
  ∃ found, program.run ShipmentStore.act t = (.ok found, t) ∧ found.Perm (t.rows.filter p)

/-- Selecting from what `get_all` returns by default. -/
theorem returnsExactly_iff (p : Shipment → Bool) (t : ShipmentStore) :
    ReturnsExactly (do
        let allShipments ← ShipmentService.getAll 50 0
        return allShipments.filter p) p t ↔ ∀ s ∈ t.rows.drop 50, ¬ p s := by
  have hrun : (do
      let allShipments ← ShipmentService.getAll 50 0
      return allShipments.filter p : ShipmentProgram (List Shipment)).run ShipmentStore.act t =
        (.ok ((t.rows.take 50).filter p), t) := by
    simp only [Coroutine.bind_eq, Coroutine.pure_eq, Coroutine.run_bind, ShipmentService.getAll,
      Coroutine.run_perform, ShipmentStore.act, List.drop_zero, Coroutine.run_ret]
  simp only [ReturnsExactly, hrun, Prod.mk.injEq, Except.ok.injEq, and_true, exists_eq_left']
  exact perm_filter_take_iff p 50 t.rows

/-- Each listing is complete exactly where the first page of the repository holds all that it
selects. -/
theorem listings_complete_iff (t : ShipmentStore) (status : ShipmentStatus) :
    (ReturnsExactly (ShipmentService.getByStatus status) (fun s => s.status = status) t ↔
      ∀ s ∈ t.rows.drop 50, s.status ≠ status) ∧
    (ReturnsExactly ShipmentService.getActiveShipments (fun s => s.status ≠ .completed) t ↔
      ∀ s ∈ t.rows.drop 50, s.status = .completed) ∧
    (ReturnsExactly ShipmentService.getPendingShipments (fun s => s.status ∈ [.created, .received])
        t ↔ ∀ s ∈ t.rows.drop 50, s.status ≠ .created ∧ s.status ≠ .received) := by
  refine ⟨(returnsExactly_iff _ t).trans ?_, (returnsExactly_iff _ t).trans ?_,
    (returnsExactly_iff _ t).trans ?_⟩
  · simp only [decide_eq_true_eq]
  · simp only [decide_eq_true_eq, not_not]
  · simp only [decide_eq_true_eq, List.mem_cons, List.not_mem_nil, or_false, not_or]

/-- Fifty completed shipments and one that has just been created. -/
def crowdedStore : ShipmentStore where
  rows := (List.range 51).map fun n => { sampleShipment with
    shipmentId := ⟨Fin.ofNat _ n⟩
    status := if n = 50 then .created else .completed }
  nodup := by decide +kernel

/-- The only active shipment is missing from every listing. -/
theorem crowdedStore_incomplete :
    ¬ ReturnsExactly (ShipmentService.getByStatus .created) (fun s => s.status = .created)
        crowdedStore ∧
      ¬ ReturnsExactly ShipmentService.getActiveShipments (fun s => s.status ≠ .completed)
        crowdedStore ∧
      ¬ ReturnsExactly ShipmentService.getPendingShipments
        (fun s => s.status ∈ [.created, .received]) crowdedStore := by
  have hlast : { sampleShipment with shipmentId := ⟨50⟩ } ∈ crowdedStore.rows.drop 50 := by
    decide +kernel
  exact ⟨fun h => (returnsExactly_iff _ _).mp h _ hlast (by decide),
    fun h => (returnsExactly_iff _ _).mp h _ hlast (by decide),
    fun h => (returnsExactly_iff _ _).mp h _ hlast (by decide)⟩

end SupplyChainTracker.Shipments
