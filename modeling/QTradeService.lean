import QTradeService.Library.Machine
import QTradeService.Library.Program
import QTradeService.Library.Journal
import QTradeService.Library.Coupling
import QTradeService.Library.Interleaving
import QTradeService.Library.Linearization
import QTradeService.Library.Mutex
import QTradeService.Library.UnorderedMap
import QTradeService.Library.Double
import QTradeService.Library.VersionedRegister
import QTradeService.Library.Sql.Reader
import QTradeService.Library.Sql.Backslash
import QTradeService.Library.Sql.Tables
import QTradeService.Library.Sql.Definitions
import QTradeService.Library.Sql.Secrets
import QTradeService.Grpc.Status
import QTradeService.Grpc.HandlerInterface
import QTradeService.Grpc.Rollback
import QTradeService.Grpc.UnaryCallTag
import QTradeService.Database.Connection
import QTradeService.Database.Shared
import QTradeService.Database.Transactions
import QTradeService.Database.Commits
import QTradeService.Database.InStep
import QTradeService.Dao.DmlUtils
import QTradeService.Dao.Rendering
import QTradeService.Dao.Literals
import QTradeService.Dao.Effects
import QTradeService.Dao.AccountTables
import QTradeService.Dao.Autocommit
import QTradeService.Dao.Conditions
import QTradeService.Dao.EngineConfigTable
import QTradeService.Dao.Entities
import QTradeService.Dao.EntityCalls
import QTradeService.Dao.StoredEntities
import QTradeService.Dao.Transactions
import QTradeService.Dao.Ddl
import QTradeService.Dao.InStep
import QTradeService.AccountService.Messages
import QTradeService.AccountService.Handlers
import QTradeService.AccountService.Service
import QTradeService.AccountService.Programs
import QTradeService.AccountService.Steps
import QTradeService.AccountService.Business
import QTradeService.AccountService.Calls
import QTradeService.AccountService.Disabled
import QTradeService.AccountService.Directory
import QTradeService.AccountService.Pairing
import QTradeService.AccountService.Refinement
import QTradeService.AccountService.Transactions
import QTradeService.AccountService.ConcurrentAdds
import QTradeService.AccountService.CredentialSnapshot
import QTradeService.AccountService.Linearizability
import QTradeService.AccountService.Recency
import QTradeService.AccountService.PasswordSecrecy
import QTradeService.AccountRisk.Messages
import QTradeService.AccountRisk.Ledger
import QTradeService.AccountRisk.Service
import QTradeService.AccountRisk.Sweep
import QTradeService.AccountRisk.History
import QTradeService.AccountRisk.Conservation
import QTradeService.AccountRisk.SweepOrder
import QTradeService.AccountRisk.Limits
import QTradeService.AccountRisk.Locking
import QTradeService.AccountRisk.Lifecycle
import QTradeService.AccountRisk.Views
import QTradeService.AccountRisk.TimeToLive
import QTradeService.AccountRisk.Headroom
import QTradeService.AccountRisk.EagerExpiry
import QTradeService.AccountRisk.PolicyVersions
import QTradeService.AccountRisk.Isolation
import QTradeService.AccountRisk.Unobservable
import QTradeService.ConfigService.Messages
import QTradeService.ConfigService.SubscribeTag
import QTradeService.ConfigService.SubscribeQueue
import QTradeService.ConfigService.Subscription
import QTradeService.ConfigService.Pushes
import QTradeService.ConfigService.Listeners
import QTradeService.ConfigService.Shutdown
import QTradeService.ConfigService.ConfigScope
import QTradeService.ConfigService.Versions
import QTradeService.ConfigService.FailClosed
import QTradeService.Support.Service
import QTradeService.Support.Lifecycle
import QTradeService.Support.Schema
