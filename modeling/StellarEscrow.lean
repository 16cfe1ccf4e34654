import StellarEscrow.Types
import StellarEscrow.Storage
import StellarEscrow.Host
import StellarEscrow.Contract
import StellarEscrow.ExecFacts
import StellarEscrow.ContractFacts
import StellarEscrow.Run
import StellarEscrow.Config
import StellarEscrow.Trades
import StellarEscrow.Records
import StellarEscrow.Frame
import StellarEscrow.Fees
import StellarEscrow.Ids
import StellarEscrow.History
import StellarEscrow.Init
import StellarEscrow.Auth
import StellarEscrow.Settlement
import StellarEscrow.Failure
import StellarEscrow.Solvency
import StellarEscrow.Queries
import StellarEscrow.Events
import StellarEscrow.FeeLedger
import StellarEscrow.Enabled
import StellarEscrow.Resettle
import StellarEscrow.Release
import StellarEscrow.Accounting
import StellarEscrow.Isolation
import StellarEscrow.Interleaving
