import SupplyChainTracker.Services.System

/-!
# State changes and their events

A handler stores a change and announces it afterwards. No announcement gets through, so
a request whose change is stored raises with the change in the tables, and state and
event go together only where nothing is stored.
-/

namespace SupplyChainTracker.Services

open Shipments (ItemRow)

variable (backend : Backend)

/-- The state change of a request and its event are published together: a request that returns
has published exactly one event, the one for its change, and a request that raises has left the
tables as they were. -/
structure PublishedTogether (request : Request) (s : System) : Prop where
  published : ∀ response, (request.handle backend s).1 = .ok response →
    ∃ topic, ∃ event : Event, request.eventType? = some event.eventType ∧
      (request.queue (request.handle backend s).2).messages =
        (request.queue s).messages ++ [⟨topic, event.aggregateId.str, event.toDict⟩]
  unchanged : ∀ e, (request.handle backend s).1 = .error e →
    (request.handle backend s).2.tables = s.tables

/-- A change and its event are published together exactly when there is no change to store. -/
theorem publishedTogether_iff (s : System) {request : Request} (h : request.eventType?.isSome) :
    PublishedTogether backend request s ↔ ¬ request.Writes backend s := by
  obtain ⟨e, he⟩ := request.raises_of_eventType? backend s h
  rw [← request.tables_handle_eq_iff backend s]
  constructor
  · exact fun together => together.unchanged e he
  · intro hsame
    refine ⟨fun response hresponse => ?_, fun _ _ => hsame⟩
    cases he.symm.trans hresponse

/-- What the sample events draw. -/
def sampleDraws : EventDraws := ⟨1, ⟨91⟩, 1⟩

/-- The request of a crate that is not stored. -/
theorem publishedTogether_missing :
    PublishedTogether sampleBackend (.shipments (.increaseItemQuantity ⟨22⟩ 1 sampleDraws))
      sampleSystem :=
  (publishedTogether_iff sampleBackend sampleSystem rfl).mpr fun hwrites => by
    obtain ⟨_, _, hitem, _⟩ := hwrites
    cases hitem

/-- The request of one more crate. -/
def sampleIncrease : Request := .shipments (.increaseItemQuantity ⟨21⟩ 1 sampleDraws)

/-- One more crate is stored, the publication of the event raises, and the crate stays. -/
theorem increase_unannounced :
    (sampleIncrease.handle sampleBackend sampleSystem).1 = .error (.shipments (.typeError
      "InMemoryEventQueueAdapter.publish_event() got an unexpected keyword argument 'topic'")) ∧
    ¬ PublishedTogether sampleBackend sampleIncrease sampleSystem := by
  refine ⟨rfl, fun together => ?_⟩
  have hquantity := congrArg (fun t => (t.shipments.items.find? ⟨21⟩).map ItemRow.quantity)
    (together.unchanged _ rfl)
  exact absurd hquantity (by decide)

end SupplyChainTracker.Services
