/-
The contract's storage (`storage.rs`): six instance keys, written by
`initialize` and read by everything after it, and two persistent maps,
trades under `("TRADE", id)` and arbitrators under `("ARB", address)`.

A key that was never set is `none` (for the `INIT` flag, `false`), and
each getter turns a missing key into the error `storage.rs` names.
-/
import StellarEscrow.Types
import Mathlib.Logic.Function.Basic

namespace StellarEscrow

/-- Rust's `Option::ok_or`. -/
def okOr {α} (o : Option α) (e : ContractError) : Except ContractError α :=
  match o with
  | some a => .ok a
  | none => .error e

@[simp] theorem okOr_some {α} (a : α) (e : ContractError) : okOr (some a) e = .ok a := rfl
@[simp] theorem okOr_none {α} (e : ContractError) : okOr (none : Option α) e = .error e := rfl

/-- The contract's storage: the instance keys `INIT`, `ADMIN`, `USDC`,
`FEE_BPS`, `COUNTER`, `ACC_FEES`, and the persistent trade and arbitrator
entries. -/
structure Storage where
  initialized : Bool
  admin : Option Address
  usdcToken : Option Address
  feeBps : Option U32
  tradeCounter : Option U64
  accumulatedFees : Option U64
  trades : U64 → Option Trade
  arbitrators : Address → Bool

/-- The storage of a freshly deployed contract: no key set. -/
def Storage.empty : Storage :=
  ⟨false, none, none, none, none, none, fun _ => none, fun _ => false⟩

namespace Storage

variable (s : Storage)

@[simp] def isInitialized : Bool := s.initialized

@[simps]
def setInitialized : Storage := { s with initialized := true }

@[simps]
def setAdmin (admin : Address) : Storage := { s with admin := some admin }

@[simp] def getAdmin : Except ContractError Address := okOr s.admin .notInitialized

@[simps]
def setUsdcToken (token : Address) : Storage := { s with usdcToken := some token }

@[simp] def getUsdcToken : Except ContractError Address := okOr s.usdcToken .notInitialized

@[simps]
def setFeeBps (feeBps : U32) : Storage := { s with feeBps := some feeBps }

@[simp] def getFeeBps : Except ContractError U32 := okOr s.feeBps .notInitialized

@[simps]
def setTradeCounter (counter : U64) : Storage := { s with tradeCounter := some counter }

@[simp] def getTradeCounter : Except ContractError U64 := okOr s.tradeCounter .notInitialized

@[simps]
def setAccumulatedFees (fees : U64) : Storage := { s with accumulatedFees := some fees }

@[simp] def getAccumulatedFees : Except ContractError U64 := okOr s.accumulatedFees .notInitialized

@[simps]
def saveTrade (tradeId : U64) (trade : Trade) : Storage :=
  { s with trades := Function.update s.trades tradeId (some trade) }

@[simp] def getTrade (tradeId : U64) : Except ContractError Trade := okOr (s.trades tradeId) .tradeNotFound

@[simps]
def saveArbitrator (arbitrator : Address) : Storage :=
  { s with arbitrators := Function.update s.arbitrators arbitrator true }

@[simps]
def removeArbitrator (arbitrator : Address) : Storage :=
  { s with arbitrators := Function.update s.arbitrators arbitrator false }

@[simp] def hasArbitrator (arbitrator : Address) : Bool := s.arbitrators arbitrator

end Storage

end StellarEscrow
