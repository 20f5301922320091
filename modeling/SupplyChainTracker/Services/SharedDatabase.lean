import SupplyChainTracker.Blockchain.NonceState
import SupplyChainTracker.Core.Async.Refusal
import SupplyChainTracker.Saga.Causes
import SupplyChainTracker.Services.Migrations
import SupplyChainTracker.Services.StatusChecks

/-!
# The services over the shared database

The upserts of the delivery service, the shipment service and the saga coordinator and
`get_next_nonce` update the row of a key that is stored already. Where the trigger on a table
raises, they do not get through: each row stays as it is until it is deleted. Of the services that
share the database, some are always in this situation.
-/

namespace SupplyChainTracker

open Services (Catalog)

namespace Deliveries

/-- What a statement raises that updates a row of a table with a trigger that raises. The proposed
row has been checked before. -/
def Statement.updateRaises (pg : Postgres) (cat : Catalog) :
    Statement → World → Option DeliveryError
  | .saveDelivery delivery, w =>
      if (w.db.deliveries.find? delivery.deliveryId).isSome then
        (cat.refusesUpdate "deliveries").map fun raised =>
          .database ((pg.refusesDelivery delivery.toRow).getD raised)
      else none
  | .saveCourier courierId name contactInfo, w =>
      if (w.db.couriers.find? courierId).isSome then
        (cat.refusesUpdate "couriers").map fun raised =>
          .database ((pg.refusesCourier ⟨courierId, name, contactInfo, w.now, w.now⟩).getD raised)
      else none
  | _, _ => none

/-- The effect of a statement on tables with such triggers. -/
def Statement.actIn (pg : Postgres) (cat : Catalog) :
    (op : Statement) → World → Except DeliveryError op.Ans × World :=
  refuse (Statement.updateRaises pg cat) Database.read (Statement.act pg)

/-- Where both triggers raise, no statement changes a row. -/
theorem frozen_actIn {pg : Postgres} {cat : Catalog}
    (hdeliveries : (cat.refusesUpdate "deliveries").isSome)
    (hcouriers : (cat.refusesUpdate "couriers").isSome) (op : Statement) (w : World) :
    w.db.deliveries.Frozen (op.actIn pg cat w).2.db.deliveries ∧
      w.db.couriers.Frozen (op.actIn pg cat w).2.db.couriers := by
  cases hraises : op.updateRaises pg cat w with
  | some e =>
    rw [Statement.actIn, refuse_of_some hraises]
    exact ⟨.refl _, .refl _⟩
  | none =>
    rw [Statement.actIn, refuse_of_none hraises]
    cases op with
    | shared op =>
      cases op with
      | get deliveryId => exact ⟨.refl _, .refl _⟩
      | delete deliveryId => exact ⟨Table.frozen_removeWhere _ _, .refl _⟩
    | saveDelivery delivery =>
      have hnew : w.db.deliveries.find? delivery.deliveryId = none := by
        obtain ⟨raised, hraised⟩ := Option.isSome_iff_exists.mp hdeliveries
        simpa [Statement.updateRaises, hraised] using hraises
      rcases saveDelivery_cases pg delivery w.now w.db with
        ⟨-, db, hok, hcouriers', hput⟩ | ⟨-, e, he⟩
      · simp only [Statement.act, hok, Database.db_after, hcouriers', hput]
        exact ⟨Table.frozen_put (by simpa using hnew), .refl _⟩
      · simp only [Statement.act, he]
        exact ⟨.refl _, .refl _⟩
    | saveCourier courierId name contactInfo =>
      have hnew : w.db.couriers.find? courierId = none := by
        obtain ⟨raised, hraised⟩ := Option.isSome_iff_exists.mp hcouriers
        simpa [Statement.updateRaises, hraised] using hraises
      simp only [Statement.act, DeliveryDb.saveCourier]
      split
      · exact ⟨.refl _, .refl _⟩
      · exact ⟨.refl _, Table.frozen_put (by simpa using hnew)⟩
    | deleteCourier courierId =>
      simp only [Statement.act, DeliveryDb.deleteCourier]
      split
      · exact ⟨.refl _, Table.frozen_removeWhere _ _⟩
      · exact ⟨.refl _, .refl _⟩
    | listDeliveries | getCourier | listCouriers => exact ⟨.refl _, .refl _⟩

/-- The answer to a call of a handler over such tables. -/
def apiActIn (backend : Backend) (cat : Catalog) := HandlerCall.act DeliveryError.ofQueue
  backend.adapter (Statement.actIn backend.pg cat)

/-- Where both triggers raise, no delivery and no courier is ever changed. -/
theorem handlers_freeze {ι : Type} [DecidableEq ι] {cat : Catalog}
    (hdeliveries : (cat.refusesUpdate "deliveries").isSome)
    (hcouriers : (cat.refusesUpdate "couriers").isSome) (backend : Backend)
    (c : Handlers ι Statement Statement.Ans DeliveryError World) :
    c.Freezes (Journal.perform (apiActIn backend cat)) (fun j => j.world.world.db.deliveries) ∧
      c.Freezes (Journal.perform (apiActIn backend cat)) fun j => j.world.world.db.couriers := by
  have hact : ∀ (op : HandlerCall Statement) (s : Served World),
      s.world.db.deliveries.Frozen (apiActIn backend cat op s).2.world.db.deliveries ∧
        s.world.db.couriers.Frozen (apiActIn backend cat op s).2.world.db.couriers := by
    intro op s
    cases op with
    | publishEvent call => exact ⟨.refl _, .refl _⟩
    | repository op => exact frozen_actIn hdeliveries hcouriers op s.world
  exact ⟨Journal.freezes_of_frozen (fun s => s.world.db.deliveries) fun op s => (hact op s).1,
    Journal.freezes_of_frozen (fun s => s.world.db.couriers) fun op s => (hact op s).2⟩

end Deliveries

namespace Shipments

/-- What a call raises that updates a row of a table with a trigger that raises. The arguments have
been encoded and the proposed row has been checked before. -/
def RepositoryCall.updateRaises (backend : Backend) (cat : Catalog) :
    RepositoryCall → World → Option ShipmentError
  | .shipment (.save entity), w =>
      match backend.textArgument entity.origin, backend.textArgument entity.destination with
      | .ok origin, .ok destination =>
          if (w.db.shipments.find? entity.shipmentId).isSome then
            (cat.refusesUpdate "shipments").map fun raised => .database
              ((backend.pg.refusesShipment ⟨entity.shipmentId, origin, destination,
                entity.status.value, w.now, w.now⟩).getD raised)
          else none
      | _, _ => none
  | .item (.save entity), w =>
      if (w.db.items.find? entity.itemId).isSome then
        (cat.refusesUpdate "items").map fun raised => .database
          ((backend.pg.refusesItem ⟨entity.itemId, entity.shipmentId, entity.name,
            entity.quantity.value, entity.weight.value, w.now, w.now⟩).getD raised)
      else none
  | _, _ => none

/-- The effect of a call on tables with such triggers. -/
def RepositoryCall.actIn (backend : Backend) (cat : Catalog) :
    (op : RepositoryCall) → World → Except ShipmentError op.Ans × World :=
  refuse (RepositoryCall.updateRaises backend cat) World.read (RepositoryCall.act backend)

/-- Where both triggers raise, no call changes a row. -/
theorem frozen_actIn {backend : Backend} {cat : Catalog}
    (hshipments : (cat.refusesUpdate "shipments").isSome)
    (hitems : (cat.refusesUpdate "items").isSome) (op : RepositoryCall) (w : World) :
    w.db.shipments.Frozen (op.actIn backend cat w).2.db.shipments ∧
      w.db.items.Frozen (op.actIn backend cat w).2.db.items := by
  cases hraises : op.updateRaises backend cat w with
  | some e =>
    rw [RepositoryCall.actIn, refuse_of_some hraises]
    exact ⟨.refl _, .refl _⟩
  | none =>
    rw [RepositoryCall.actIn, refuse_of_none hraises]
    cases op with
    | delete op =>
      cases op with
      | delete shipmentId =>
        exact ⟨Table.frozen_removeWhere _ _, Table.frozen_removeWhere _ _⟩
    | shipment op =>
      cases op with
      | get shipmentId => exact ⟨.refl _, .refl _⟩
      | getAll limit offset => exact ⟨.refl _, .refl _⟩
      | save shipment =>
        simp only [RepositoryCall.act, ShipmentRepository.act]
        cases horigin : backend.textArgument shipment.origin with
        | error e => exact ⟨.refl _, .refl _⟩
        | ok origin =>
          cases hdestination : backend.textArgument shipment.destination with
          | error e => exact ⟨.refl _, .refl _⟩
          | ok destination =>
            have hnew : w.db.shipments.find? shipment.shipmentId = none := by
              obtain ⟨raised, hraised⟩ := Option.isSome_iff_exists.mp hshipments
              simpa [RepositoryCall.updateRaises, horigin, hdestination, hraised] using hraises
            simp only [ShipmentDb.saveShipment]
            cases backend.pg.refusesShipment (w.db.shipmentTarget shipment origin destination w.now)
            · exact ⟨Table.frozen_put (by simpa using hnew), .refl _⟩
            · exact ⟨.refl _, .refl _⟩
    | item op =>
      cases op with
      | save item =>
        have hnew : w.db.items.find? item.itemId = none := by
          obtain ⟨raised, hraised⟩ := Option.isSome_iff_exists.mp hitems
          simpa [RepositoryCall.updateRaises, hraised] using hraises
        by_cases haccepts : w.db.Accepts backend.pg item w.now
        · obtain ⟨db, hact, hshipments', hput⟩ := ItemRepository.act_save_of_accepts haccepts
          simp only [RepositoryCall.act, hact, World.db_after, hshipments', hput]
          exact ⟨.refl _, Table.frozen_put (by simpa using hnew)⟩
        · obtain ⟨violated, hact⟩ := ItemRepository.act_save_of_not_accepts haccepts
          simp only [RepositoryCall.act, hact]
          exact ⟨.refl _, .refl _⟩
      | get itemId => exact ⟨.refl _, .refl _⟩
      | getByShipment shipmentId => exact ⟨.refl _, .refl _⟩
      | delete itemId =>
        simp only [RepositoryCall.act, ItemRepository.act]
        split
        · exact ⟨.refl _, Table.frozen_removeWhere _ _⟩
        · exact ⟨.refl _, .refl _⟩
      | getAll => exact ⟨.refl _, .refl _⟩

/-- The answer to a call of a handler over such tables. -/
def apiActIn (backend : Backend) (cat : Catalog) := HandlerCall.act ShipmentError.ofQueue
  backend.adapter (RepositoryCall.actIn backend cat)

/-- Where both triggers raise, no shipment and no item is ever changed. -/
theorem handlers_freeze {ι : Type} [DecidableEq ι] {cat : Catalog}
    (hshipments : (cat.refusesUpdate "shipments").isSome)
    (hitems : (cat.refusesUpdate "items").isSome) (backend : Backend)
    (c : Handlers ι RepositoryCall RepositoryCall.Ans ShipmentError World) :
    c.Freezes (Journal.perform (apiActIn backend cat)) (fun j => j.world.world.db.shipments) ∧
      c.Freezes (Journal.perform (apiActIn backend cat)) fun j => j.world.world.db.items := by
  have hact : ∀ (op : HandlerCall RepositoryCall) (s : Served World),
      s.world.db.shipments.Frozen (apiActIn backend cat op s).2.world.db.shipments ∧
        s.world.db.items.Frozen (apiActIn backend cat op s).2.world.db.items := by
    intro op s
    cases op with
    | publishEvent call => exact ⟨.refl _, .refl _⟩
    | repository op => exact frozen_actIn hshipments hitems op s.world
  exact ⟨Journal.freezes_of_frozen (fun s => s.world.db.shipments) fun op s => (hact op s).1,
    Journal.freezes_of_frozen (fun s => s.world.db.items) fun op s => (hact op s).2⟩

end Shipments

namespace Saga

/-- What a call raises that updates a row of `saga_instances`, if the trigger raises. The proposed
row has been checked before. -/
def Call.updateRaises (c : Constraints) (cat : Catalog) : Call → World → Option SagaError
  | .save saga, w =>
      match c.proposed saga with
      | .ok proposed =>
          if (w.db.sagas.find? saga.sagaId).isSome then
            (cat.refusesUpdate "saga_instances").map fun raised =>
              .database ((c.violated proposed).getD raised)
          else none
      | .error _ => none
  | _, _ => none

/-- The effect of a call on a table with such a trigger. -/
def Call.actIn (c : Constraints) (cat : Catalog) :
    (op : Call) → World → Except SagaError op.Ans × World :=
  refuse (Call.updateRaises c cat) id (act c)

variable {c : Constraints} {cat : Catalog}

/-- Where the trigger raises, a save raises without effect or stores the row of a new saga. -/
theorem actIn_save_cases (h : (cat.refusesUpdate "saga_instances").isSome) (t : SagaInstance)
    (w : World) :
    (∃ e, Call.actIn c cat (.save t) w = (.error e, w)) ∨
    ∃ new u w', Call.actIn c cat (.save t) w = (.ok u, w') ∧ u.sagaId = t.sagaId ∧
      u.status = t.status ∧ w.db.sagas.find? t.sagaId = none ∧ new.sagaId = t.sagaId ∧
      new.status = t.status.value ∧ w'.db.sagas = w.db.sagas.put new ∧
      w'.published = w.published := by
  obtain ⟨raised, hraised⟩ := Option.isSome_iff_exists.mp h
  cases hraises : Call.updateRaises c cat (.save t) w with
  | some e => exact .inl ⟨e, refuse_of_some hraises⟩
  | none =>
    rw [Call.actIn, refuse_of_none hraises]
    rcases w.db.save_cases c t with ⟨e, he⟩ | ⟨new, db', hsave, hput, hup⟩
    · exact .inl ⟨e, by simp [act, he]⟩
    · have hentity := rowToEntity_of_status hup.status
      have hact : act c (.save t) w = (rowToEntity new, { w with db := db' }) := by
        simp only [act, hsave]
      refine .inr ⟨new, _, _, hact.trans (congrArg (·, _) hentity), hup.sagaId, rfl, ?_,
        hup.sagaId, hup.status, hput, rfl⟩
      cases hproposed : c.proposed t with
      | error e => simp [SagaDb.save, hproposed, hentity] at hsave
      | ok proposed => simpa [Call.updateRaises, hproposed, hraised] using hraises

variable {ι : Type} {tasks : ι → Task} {db : SagaDb}

/-- What has been read is stored, what has been stored is new, and nothing has been published. -/
structure Standstill (db : SagaDb) (st : ι → Progress) (w : World) : Prop where
  read : ∀ i, ∀ u ∈ (st i).copies, (w.db.sagas.find? u.sagaId).isSome
  stored : ∀ i s, (st i).stored = some s → s.status = .started
  published : w.published = []
  kept : ∀ row ∈ db.sagas.rows, row ∈ w.db.sagas.rows
  new : ∀ row ∈ w.db.sagas.rows, row ∈ db.sagas.rows ∨ row.status = SagaStatus.started.value

/-- What a task may store, other than a new saga, it has read. -/
theorem Task.MayStore.read_or_new {task : Task} {p : Progress} {t : SagaInstance}
    (h : task.MayStore p t) : t.status = .started ∨ ∃ u ∈ p.copies, u.sagaId = t.sagaId := by
  cases h with
  | new h => exact .inl h
  | read u hu id => exact .inr ⟨u, hu, id⟩
  | claim r handled correlated h u hu id => exact .inr ⟨u, hu, id⟩
  | close r reason handled correlated h u hu id => exact .inr ⟨u, hu, id⟩

section Step

variable [DecidableEq ι] {st : ι → Progress} {w : World} {i : ι}

/-- A call that changes neither the tables nor the queue. -/
theorem Standstill.keep (h : Standstill db st w) {p : Progress}
    (hread : ∀ u ∈ p.copies, u ∈ (st i).copies ∨ (w.db.sagas.find? u.sagaId).isSome)
    (hstored : p.stored = (st i).stored) : Standstill db (Function.update st i p) w where
  read j u hu := by
    by_cases hj : j = i
    · subst hj
      rw [Function.update_self] at hu
      exact (hread u hu).elim (h.read j u) id
    · rw [Function.update_of_ne hj] at hu
      exact h.read j u hu
  stored j s hs := by
    by_cases hj : j = i
    · subst hj
      rw [Function.update_self, hstored] at hs
      exact h.stored j s hs
    · rw [Function.update_of_ne hj] at hs
      exact h.stored j s hs
  published := h.published
  kept := h.kept
  new := h.new

/-- A call keeps the standstill. -/
theorem Standstill.actIn (h : Standstill db st w)
    (hcat : (cat.refusesUpdate "saga_instances").isSome) {op : Call}
    (hmay : (tasks i).protocol.may (st i) op) :
    (tasks i).protocol.expects op (op.actIn c cat w).1 ∧
      Standstill db
        (Function.update st i ((tasks i).protocol.next (st i) op (op.actIn c cat w).1))
        (op.actIn c cat w).2 := by
  cases op with
  | get sagaId =>
    rw [show Call.actIn c cat (.get sagaId) w = (w.db.get sagaId, w) from rfl]
    cases hget : w.db.get sagaId with
    | error e => exact ⟨fun _ hu => (by cases hu), h.keep (fun u hu => .inl hu) rfl⟩
    | ok found =>
      cases found with
      | none => exact ⟨fun _ hu => (by cases hu), h.keep (fun u hu => .inl hu) rfl⟩
      | some u =>
        obtain ⟨row, hrow, -⟩ := SagaDb.get_eq_some_iff.mp hget
        refine ⟨fun v hv => ?_, h.keep (fun v hv => ?_) rfl⟩
        · cases hv
          exact SagaDb.sagaId_of_get hget
        · rcases List.mem_cons.mp hv with rfl | hv
          · rw [SagaDb.sagaId_of_get hget, hrow]
            exact .inr rfl
          · exact .inl hv
  | save t =>
    rcases actIn_save_cases hcat t w with
      ⟨e, he⟩ | ⟨new, u, w', hw, hid, hst, hnone, hnewId, hnewStatus, hput, hpublished⟩
    · rw [he]
      exact ⟨(protocol_error _ (st i) (.save t) e).1, h.keep (fun u hu => .inl hu) rfl⟩
    · rw [hw]
      have hstarted : t.status = .started := by
        refine hmay.read_or_new.resolve_right ?_
        rintro ⟨v, hv, hvid⟩
        have hstored := h.read i v hv
        rw [hvid, hnone] at hstored
        cases hstored
      refine ⟨fun v hv => ?_, ⟨fun j v hv => ?_, fun j v hv => ?_, ?_, fun row hrow => ?_,
        fun row hrow => ?_⟩⟩
      · cases hv
        exact ⟨hid, hst⟩
      · rw [hput]
        refine Table.isSome_find?_put (h.read j v ?_)
        by_cases hj : j = i
        · subst hj
          rwa [Function.update_self] at hv
        · rwa [Function.update_of_ne hj] at hv
      · by_cases hj : j = i
        · subst hj
          rw [Function.update_self] at hv
          cases hv
          exact hst.trans hstarted
        · rw [Function.update_of_ne hj] at hv
          exact h.stored j v hv
      · exact hpublished.trans h.published
      · rw [hput, Table.mem_put, hnewId]
        exact .inr ⟨h.kept row hrow, (Table.find?_eq_none_iff _ _).mp hnone row (h.kept row hrow)⟩
      · rw [hput, Table.mem_put] at hrow
        rcases hrow with rfl | ⟨hrow, -⟩
        · exact .inr (hnewStatus.trans (congrArg SagaStatus.value hstarted))
        · exact h.new row hrow
  | getByShipment shipmentId => exact ⟨trivial, h.keep (fun u hu => .inl hu) rfl⟩
  | listActive => exact ⟨trivial, h.keep (fun u hu => .inl hu) rfl⟩
  | publishCommand command topic =>
    obtain ⟨r, s, -, hstored, hcompensating, -⟩ := hmay
    rw [h.stored i s hstored] at hcompensating
    cases hcompensating

end Step

/-- Where the trigger on `saga_instances` raises, however the tasks of the coordinator interleave
and whichever calls raise: no command is published, every saga stays as it is, and new ones are
started. -/
theorem coordinator_standstill [DecidableEq ι] (c : Constraints)
    (hcat : (cat.refusesUpdate "saga_instances").isSome) (tasks : ι → Task) (db : SagaDb)
    (faults : Nat → Option SagaError) {sched : List ι}
    {d : Config ι Call Call.Ans SagaError Unit (Journal Call Call.Ans SagaError World)}
    (h : (coordinator tasks db faults).exec (Journal.perform (Call.actIn c cat)) sched = some d) :
    d.world.world.published = [] ∧
    (∀ row ∈ db.sagas.rows, row ∈ d.world.world.db.sagas.rows) ∧
    ∀ row ∈ d.world.world.db.sagas.rows,
      row ∈ db.sagas.rows ∨ row.status = SagaStatus.started.value := by
  obtain ⟨st, -, hend⟩ := Config.exec_conforms (P := fun i => (tasks i).protocol)
    (Q := fun _ _ _ => True) (fun st j _ => Standstill db st j.world)
    (fun st j tr i op hst hmay => by
      rcases j.perform_cases (Call.actIn c cat) op with ⟨e, hans, hworld, -⟩ | ⟨hans, hworld, -⟩
      · obtain ⟨hexpects, hnext⟩ := protocol_error (tasks i) (st i) op e
        rw [hans, hworld, hnext]
        exact ⟨hexpects, hst.keep (fun u hu => .inl hu) rfl⟩
      · rw [hans, hworld]
        exact hst.actIn hcat hmay)
    (fun _ => {}) (fun i => (tasks i).grants {})
    ⟨fun _ _ hu => (by cases hu), fun _ _ hs => (by cases hs), rfl, fun _ => id, fun _ => .inl⟩ h
  exact ⟨hend.published, hend.kept, hend.new⟩

end Saga

namespace Blockchain

/-- The exceptions that `get_next_nonce` lets through. -/
inductive NonceCallError : Type
  | state (e : NonceStateError)
  /-- The trigger has raised. -/
  | trigger (message : String)
  deriving DecidableEq

namespace NonceState

/-- A call of `get_next_nonce` on a table with a trigger that may raise. The new row is computed
before the trigger gets it. -/
def callIn (cat : Catalog) (state : NonceState) (wallet : String × String) :
    Except NonceCallError Nat × NonceState :=
  match state.select wallet.1 wallet.2, cat.refusesUpdate "nonce_state" with
  | some row, some raised =>
      match state.increment row with
      | .ok _ => (.error (.trigger raised), state)
      | .error e => (.error (.state e), state)
  | _, _ => ((state.call wallet).1.mapError .state, (state.call wallet).2)

/-- The answers to calls one after the other. -/
def answersIn (cat : Catalog) :
    List (String × String) → NonceState → List (Except NonceCallError Nat)
  | [], _ => []
  | wallet :: calls, state =>
      (state.callIn cat wallet).1 :: answersIn cat calls (state.callIn cat wallet).2

/-- The wallets of the calls that return. -/
def servedIn (cat : Catalog) (calls : List (String × String)) (state : NonceState) : List String :=
  (calls.zip (answersIn cat calls state)).filterMap fun c =>
    if c.2.isOk then some c.1.1 else none

variable {cat : Catalog} {state : NonceState} {wallet : String × String}

/-- Where the trigger raises, a call raises without effect, or stores the first row of its
wallet. -/
theorem callIn_cases (hcat : (cat.refusesUpdate "nonce_state").isSome) (state : NonceState)
    (wallet : String × String) :
    (∃ e, state.callIn cat wallet = (.error e, state)) ∨
    ∃ address network, varcharColumn 42 wallet.1 = .ok address ∧ state.find? address = none ∧
      state.callIn cat wallet = (.ok 0, state.put ⟨address, 1, network⟩) := by
  obtain ⟨raised, hraised⟩ := Option.isSome_iff_exists.mp hcat
  cases hselect : state.select wallet.1 wallet.2 with
  | some row =>
    simp only [callIn, hselect, hraised]
    cases state.increment row with
    | ok _ => exact .inl ⟨_, rfl⟩
    | error e => exact .inl ⟨_, rfl⟩
  | none =>
    simp only [callIn, hselect, call_of_not_select hselect]
    cases hinsert : state.insert wallet.1 wallet.2 1 with
    | error e => exact .inl ⟨_, rfl⟩
    | ok state' =>
      obtain ⟨address, network, haddress, -, hnone, rfl⟩ := insert_eq_ok_iff.mp hinsert
      exact .inr ⟨address, network, haddress, hnone, rfl⟩

/-- Where the trigger raises, each call that returns gets the nonce 0, for a wallet that has got
none before. -/
theorem servedIn_nodup (hcat : (cat.refusesUpdate "nonce_state").isSome)
    (calls : List (String × String)) (state : NonceState) :
    (∀ nonce, .ok nonce ∈ answersIn cat calls state → nonce = 0) ∧
    (servedIn cat calls state).Nodup ∧
    ∀ a ∈ servedIn cat calls state, ∀ address, varcharColumn 42 a = .ok address →
      state.find? address = none := by
  induction calls generalizing state with
  | nil => exact ⟨fun _ h => (by cases h), .nil, fun _ h => (by cases h)⟩
  | cons wallet calls ih =>
    rcases callIn_cases hcat state wallet with ⟨e, he⟩ | ⟨address, network, haddress, hnone, hok⟩
    · obtain ⟨hzero, hnodup, hnew⟩ := ih state
      have hserved : servedIn cat (wallet :: calls) state = servedIn cat calls state := by
        simp [servedIn, answersIn, he, Except.isOk, Except.toBool]
      rw [hserved]
      refine ⟨fun nonce h => hzero nonce ?_, hnodup, hnew⟩
      simpa [answersIn, he] using h
    · obtain ⟨hzero, hnodup, hnew⟩ := ih (state.put ⟨address, 1, network⟩)
      have hserved : servedIn cat (wallet :: calls) state =
          wallet.1 :: servedIn cat calls (state.put ⟨address, 1, network⟩) := by
        simp [servedIn, answersIn, hok, Except.isOk, Except.toBool]
      rw [hserved]
      refine ⟨fun nonce h => ?_, List.nodup_cons.mpr ⟨fun hmem => ?_, hnodup⟩, ?_⟩
      · rw [answersIn, hok] at h
        rcases List.mem_cons.mp h with h | h
        · exact Except.ok.inj h
        · exact hzero nonce h
      · have hstored : (state.put ⟨address, 1, network⟩).find? address =
            some ⟨address, 1, network⟩ := Table.find?_put_self state ⟨address, 1, network⟩
        cases (hnew _ hmem address haddress).symm.trans hstored
      · rintro a (_ | ⟨_, ha⟩) address' haddress'
        · rw [haddress] at haddress'
          cases haddress'
          exact hnone
        · by_contra hsome
          have hkept := Table.isSome_find?_put (r := (⟨address, 1, network⟩ : NonceRow))
            (Option.isSome_iff_ne_none.mpr hsome)
          rw [hnew a ha address' haddress'] at hkept
          cases hkept

end NonceState

end Blockchain

namespace Services

/-- What comes of a service whose triggers raise. -/
def Migrated.Stuck (cat : Catalog) : Migrated → Prop
  | delivery => ∀ (ι : Type) [DecidableEq ι] (backend : Deliveries.Backend)
      (c : Handlers ι Deliveries.Statement Deliveries.Statement.Ans Deliveries.DeliveryError
        Deliveries.World),
      c.Freezes (Journal.perform (Deliveries.apiActIn backend cat))
        (fun j => j.world.world.db.deliveries) ∧
      c.Freezes (Journal.perform (Deliveries.apiActIn backend cat))
        (fun j => j.world.world.db.couriers)
  | shipment => ∀ (ι : Type) [DecidableEq ι] (backend : Shipments.Backend)
      (c : Handlers ι Shipments.RepositoryCall Shipments.RepositoryCall.Ans
        Shipments.ShipmentError Shipments.World),
      c.Freezes (Journal.perform (Shipments.apiActIn backend cat))
        (fun j => j.world.world.db.shipments) ∧
      c.Freezes (Journal.perform (Shipments.apiActIn backend cat))
        (fun j => j.world.world.db.items)
  | saga => ∀ (ι : Type) [DecidableEq ι] (c : Saga.Constraints) (tasks : ι → Saga.Task)
      (db : Saga.SagaDb) (faults : Nat → Option Saga.SagaError) (sched : List ι),
      ∀ d ∈ (Saga.coordinator tasks db faults).exec (Journal.perform (Saga.Call.actIn c cat)) sched,
        d.world.world.published = [] ∧
        (∀ row ∈ db.sagas.rows, row ∈ d.world.world.db.sagas.rows) ∧
        ∀ row ∈ d.world.world.db.sagas.rows,
          row ∈ db.sagas.rows ∨ row.status = Saga.SagaStatus.started.value
  | blockchain => ∀ (calls : List (String × String)) (state : Blockchain.NonceState),
      (∀ nonce, .ok nonce ∈ Blockchain.NonceState.answersIn cat calls state → nonce = 0) ∧
      (Blockchain.NonceState.servedIn cat calls state).Nodup

/-- The triggers make no difference to a service. -/
def Migrated.Unhindered (cat : Catalog) : Migrated → Prop
  | delivery => ∀ pg, Deliveries.Statement.actIn pg cat = Deliveries.Statement.act pg
  | shipment => ∀ backend,
      Shipments.RepositoryCall.actIn backend cat = Shipments.RepositoryCall.act backend
  | saga => ∀ c, Saga.Call.actIn c cat = Saga.act c
  | blockchain => ∀ (state : Blockchain.NonceState) wallet,
      state.callIn cat wallet = ((state.call wallet).1.mapError .state, (state.call wallet).2)

section Outcome

variable {cat : Catalog} {s : Migrated}

/-- Where all triggers of a service raise. -/
theorem Migrated.stuck_of_refuses (h : ∀ table ∈ s.tables, (cat.refusesUpdate table).isSome) :
    s.Stuck cat := by
  cases s with
  | delivery =>
    intro ι _ backend c
    exact Deliveries.handlers_freeze (h "deliveries" (by decide)) (h "couriers" (by decide))
      backend c
  | shipment =>
    intro ι _ backend c
    exact Shipments.handlers_freeze (h "shipments" (by decide)) (h "items" (by decide)) backend c
  | saga =>
    intro ι _ c tasks db faults sched d hd
    exact Saga.coordinator_standstill c (h "saga_instances" (by decide)) tasks db faults hd
  | blockchain =>
    intro calls state
    obtain ⟨hzero, hnodup, -⟩ :=
      Blockchain.NonceState.servedIn_nodup (h "nonce_state" (by decide)) calls state
    exact ⟨hzero, hnodup⟩

/-- Where none of them does. -/
theorem Migrated.unhindered_of_accepts (h : ∀ table ∈ s.tables, cat.refusesUpdate table = none) :
    s.Unhindered cat := by
  cases s with
  | delivery =>
    have hdeliveries := h "deliveries" (by decide)
    have hcouriers := h "couriers" (by decide)
    intro pg
    funext op w
    refine refuse_of_none ?_
    cases op <;> simp [Deliveries.Statement.updateRaises, hdeliveries, hcouriers]
  | shipment =>
    have hshipments := h "shipments" (by decide)
    have hitems := h "items" (by decide)
    intro backend
    funext op w
    refine refuse_of_none ?_
    rcases op with op | op | op <;> cases op <;>
      simp [Shipments.RepositoryCall.updateRaises, hshipments, hitems]
    split <;> rfl
  | saga =>
    have hsagas := h "saga_instances" (by decide)
    intro c
    funext op w
    refine refuse_of_none ?_
    cases op <;> simp [Saga.Call.updateRaises, hsagas]
    split <;> rfl
  | blockchain =>
    have hnonces := h "nonce_state" (by decide)
    intro state wallet
    simp [Blockchain.NonceState.callIn, hnonces]

/-- In whatever order and however often the migrations of services are applied to their database:
they succeed, and the last service that they were new for decides for which services the triggers
make no difference and which ones are stuck. -/
theorem shared_database {services : List Migrated} {last : Migrated}
    (hlast : (firstApplied services).getLast? = some last) :
    ∃ cat, Catalog.after services = .ok cat ∧ ∀ s ∈ services,
      ((s = .blockchain ↔ last = .blockchain) → s.Unhindered cat) ∧
      (¬(s = .blockchain ↔ last = .blockchain) → s.Stuck cat) := by
  refine ⟨_, after_eq services, fun s hs => ?_⟩
  have hrefuses : ∀ table ∈ s.tables, (Catalog.of (firstApplied services)).refusesUpdate table =
      if s = .blockchain ↔ last = .blockchain then none
      else some ("record \"new\" has no field \"" ++ last.column ++ "\"") :=
    fun table htable => refusesUpdate_of (mem_firstApplied.mpr hs) hlast htable
  refine ⟨fun hsame => Migrated.unhindered_of_accepts fun table htable => ?_,
    fun hother => Migrated.stuck_of_refuses fun table htable => ?_⟩
  · rw [hrefuses table htable, if_pos hsame]
  · rw [hrefuses table htable, if_neg hother]
    rfl

end Outcome

/-- After the migrations in the order of the README, a failure event is handled beside an update of
its saga. -/
theorem shared_database_sample : ∃ cat d,
    Catalog.after [.delivery, .shipment, .saga, .blockchain] = .ok cat ∧
    (Saga.coordinator Saga.sampleTasks Saga.sampleDb fun _ => none).exec
      (Journal.perform (Saga.Call.actIn .leftAside cat)) [true, true, false, false] = some d ∧
    d.world.world.published = [] ∧ Saga.sampleSaga.toRow ∈ d.world.world.db.sagas.rows := by
  have hlast : (firstApplied [.delivery, .shipment, .saga, .blockchain]).getLast? =
      some .blockchain := by decide
  obtain ⟨cat, hafter, hservices⟩ := shared_database hlast
  have hrun : ∃ d, (Saga.coordinator Saga.sampleTasks Saga.sampleDb fun _ => none).exec
      (Journal.perform (Saga.Call.actIn .leftAside cat)) [true, true, false, false] = some d := by
    cases hafter
    exact ⟨_, rfl⟩
  obtain ⟨d, hd⟩ := hrun
  obtain ⟨hpublished, hkept, -⟩ := (hservices .saga (by decide)).2 (by decide) Bool .leftAside
    Saga.sampleTasks Saga.sampleDb (fun _ => none) [true, true, false, false] d hd
  exact ⟨cat, d, hafter, hd, hpublished, hkept _ (List.mem_singleton.mpr rfl)⟩

end Services

end SupplyChainTracker
