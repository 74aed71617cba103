import OrderManagement.Library.Table
import OrderManagement.Library.Transition
import OrderManagement.Library.Transaction
import OrderManagement.Library.Guarantee
import OrderManagement.Library.Alike
import OrderManagement.Library.Ledger
import OrderManagement.Library.BitFields
import OrderManagement.Library.Encoding
import OrderManagement.Library.Locking
import OrderManagement.Library.Counter
import OrderManagement.Library.Lease
import OrderManagement.Library.CacheAside
import OrderManagement.Library.Decimal
import OrderManagement.Library.Layers
import OrderManagement.Library.Mirror
import OrderManagement.Library.Swap
import OrderManagement.Library.Rungs
import OrderManagement.Library.GoMap
import OrderManagement.Library.BinaryFormat
import OrderManagement.Library.Pattern
import OrderManagement.Library.Utf8
import OrderManagement.Library.Hex
import OrderManagement.Library.Quote
import OrderManagement.Library.Exposition
import OrderManagement.Library.Paging
import OrderManagement.Config.Redis
import OrderManagement.Model.Schema
import OrderManagement.Dao.Inventory
import OrderManagement.Dao.Order
import OrderManagement.Dao.Outbox
import OrderManagement.Dao.Writes
import OrderManagement.Service.OrderRequest
import OrderManagement.Pkg.Idgen
import OrderManagement.Pkg.IdgenFields
import OrderManagement.Bizcache.InventoryStockGuard
import OrderManagement.Bizcache.Lua
import OrderManagement.Bizcache.StockScripts
import OrderManagement.Bizcache.StockValues
import OrderManagement.Bizcache.ProductCache
import OrderManagement.Service.Order
import OrderManagement.Service.OrderQueries
import OrderManagement.Service.Inventory
import OrderManagement.Service.Catalog
import OrderManagement.Service.CatalogCalls
import OrderManagement.Service.Lines
import OrderManagement.Service.OrderEffects
import OrderManagement.Service.OrderAmounts
import OrderManagement.Service.Orderable
import OrderManagement.Service.TransitionEffects
import OrderManagement.Service.Refusals
import OrderManagement.Service.KeyAnswers
import OrderManagement.Fronted.OrderSubmission
import OrderManagement.Fronted.Money
import OrderManagement.Ordertimeout.Event
import OrderManagement.Ordertimeout.Worker
import OrderManagement.Ordertimeout.Backoff
import OrderManagement.Ordertimeout.Poison
import OrderManagement.Ordertimeout.Classification
import OrderManagement.System.Database
import OrderManagement.Service.UserView
import OrderManagement.Ordertimeout.Publisher
import OrderManagement.System.Requests
import OrderManagement.System.Step
import OrderManagement.System.Serial
import OrderManagement.Ordertimeout.LastError
import OrderManagement.Ordertimeout.Delays
import OrderManagement.Ordertimeout.Topology
import OrderManagement.Ordertimeout.Ladders
import OrderManagement.System.Coherence
import OrderManagement.System.Fleet
import OrderManagement.System.Leases
import OrderManagement.System.Attempts
import OrderManagement.System.Amounts
import OrderManagement.System.Estimate
import OrderManagement.System.Locks
import OrderManagement.Service.Aggregation
import OrderManagement.System.Conservation
import OrderManagement.Migrations.LockedQuantity
import OrderManagement.System.Lifecycle
import OrderManagement.System.TransitionMetrics
import OrderManagement.Service.User
import OrderManagement.System.Passwords
import OrderManagement.System.Idempotency
import OrderManagement.System.Guarded
import OrderManagement.System.Replay
import OrderManagement.System.KeyIndependence
import OrderManagement.System.Shop
import OrderManagement.Service.StockReconcile
import OrderManagement.Inventoryreconcile.Worker
import OrderManagement.System.Ownership
import OrderManagement.System.Backing
import OrderManagement.System.Schedule
import OrderManagement.System.LuaShop
import OrderManagement.System.Drift
import OrderManagement.System.Agreement
import OrderManagement.System.Resync
import OrderManagement.System.Solo
import OrderManagement.System.Restoration
import OrderManagement.System.Compensation
import OrderManagement.Service.StockLedger
import OrderManagement.Middleware.OperationAudit
import OrderManagement.System.Ledger
import OrderManagement.System.Recovery
import OrderManagement.System.Retry
import OrderManagement.System.CancelRecovery
import OrderManagement.System.PayRecovery
import OrderManagement.System.OrderIDs
import OrderManagement.System.Snowflake
import OrderManagement.System.Submission
import OrderManagement.System.Timeout
import OrderManagement.System.Outbox
import OrderManagement.System.Dispatch
import OrderManagement.System.Stranded
import OrderManagement.System.Isolation
import OrderManagement.System.ColdKey
import OrderManagement.Service.Listings
import OrderManagement.System.Listings
import OrderManagement.Auth.TokenManager
import OrderManagement.Service.Account
import OrderManagement.Middleware.Auth
import OrderManagement.System.Access
import OrderManagement.Observability.BusinessMetrics
import OrderManagement.Observability.HTTPMetrics
import OrderManagement.System.OrderMetrics
import OrderManagement.Fronted.Format
import OrderManagement.Fronted.Estimate
