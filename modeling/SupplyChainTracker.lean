import SupplyChainTracker.Saga.OncePerSaga
import SupplyChainTracker.Saga.Recovery
import SupplyChainTracker.Saga.Race
import SupplyChainTracker.Saga.LostUpdate
import SupplyChainTracker.Saga.Retry
import SupplyChainTracker.Saga.LateParticipants
import SupplyChainTracker.Saga.SchemaMismatch
import SupplyChainTracker.Saga.ContextUpdate
import SupplyChainTracker.Saga.BadMessage
import SupplyChainTracker.Compensation
import SupplyChainTracker.Auth.SingleUse
import SupplyChainTracker.Auth.RegisterRace
import SupplyChainTracker.Auth.Rotation
import SupplyChainTracker.Auth.FailedRefresh
import SupplyChainTracker.Auth.Roles
import SupplyChainTracker.Auth.Sessions
import SupplyChainTracker.Auth.Deactivation
import SupplyChainTracker.Shipments.QuantityRace
import SupplyChainTracker.Shipments.ItemRun
import SupplyChainTracker.Shipments.Lifecycle
import SupplyChainTracker.Shipments.RoundTrip
import SupplyChainTracker.Shipments.Listings
import SupplyChainTracker.Shipments.Update
import SupplyChainTracker.Shipments.QuantitySign
import SupplyChainTracker.Shipments.ItemNumbers
import SupplyChainTracker.Shipments.Statistics
import SupplyChainTracker.Warehouse.ShippedRace
import SupplyChainTracker.Warehouse.Isolation
import SupplyChainTracker.Warehouse.Redelivery
import SupplyChainTracker.Warehouse.PartialRelease
import SupplyChainTracker.Warehouse.Times
import SupplyChainTracker.Warehouse.UpdateRoundTrip
import SupplyChainTracker.Deliveries.UnassignRace
import SupplyChainTracker.Deliveries.Arrival
import SupplyChainTracker.Deliveries.History
import SupplyChainTracker.Deliveries.CourierRoundTrip
import SupplyChainTracker.Blockchain.Announcement
import SupplyChainTracker.Blockchain.Nonce
import SupplyChainTracker.Blockchain.NonceGaps
import SupplyChainTracker.Blockchain.NonceState
import SupplyChainTracker.Blockchain.Starvation
import SupplyChainTracker.Blockchain.Recording
import SupplyChainTracker.Blockchain.Worker
import SupplyChainTracker.Blockchain.Finality
import SupplyChainTracker.Blockchain.MockGateway
import SupplyChainTracker.Blockchain.Statistics
import SupplyChainTracker.Libs.Interchange
import SupplyChainTracker.Libs.InMemoryKeys
import SupplyChainTracker.Libs.KafkaRetry
import SupplyChainTracker.Libs.PayloadShape
import SupplyChainTracker.Libs.RedisCache
import SupplyChainTracker.Services.CommandWire
import SupplyChainTracker.Services.Publication
import SupplyChainTracker.Services.Protection
import SupplyChainTracker.Services.Pages
import SupplyChainTracker.Services.Correlation
import SupplyChainTracker.Saga.Events
import SupplyChainTracker.Services.Choreography
import SupplyChainTracker.Services.StatusHistory
import SupplyChainTracker.Services.SharedDatabase
import SupplyChainTracker.Services.Wiring
