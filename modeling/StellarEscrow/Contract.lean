/-
The contract's public functions (`lib.rs`), each a body in code order.

Fragments the source repeats are written once: the initialization guard
every function but `initialize` opens with, the admin gate, the seller's
status change that `complete_trade` and `cancel_trade` share, and the
settlement tail that `confirm_receipt` and `resolve_dispute` share. Each
public function keeps its own definition, under its own name.
-/
import StellarEscrow.Host

namespace StellarEscrow

open Exec

/-- `if !is_initialized(&env) { return Err(ContractError::NotInitialized); }` -/
def whenInitialized : Exec Unit := do
  failIf (!(← read Storage.isInitialized)) .notInitialized

/-- `let admin = get_admin(&env)?; admin.require_auth();` -/
def requireAdmin (env : Env) : Exec Unit := do
  let admin ← fetch Storage.getAdmin
  requireAuth env admin

/-- `initialize` (the name is a Lean keyword). -/
def initializeContract (env : Env) (admin usdcToken : Address) (feeBps : U32) : Exec Unit := do
  failIf (← read Storage.isInitialized) .alreadyInitialized
  failIf (feeBps.val > 10000) .invalidFeeBps
  requireAuth env admin
  write (·.setAdmin admin)
  write (·.setUsdcToken usdcToken)
  write (·.setFeeBps feeBps)
  write (·.setTradeCounter 0)
  write (·.setAccumulatedFees 0)
  write Storage.setInitialized

/-- The shape `register_arbitrator` and `remove_arbitrator_fn` share: an
admin-only write of the registry, then its event. -/
def adminWrite (env : Env) (f : Storage → Storage) (event : Event) : Exec Unit := do
  whenInitialized
  requireAdmin env
  write f
  publish event

def registerArbitrator (env : Env) (arbitrator : Address) : Exec Unit :=
  adminWrite env (·.saveArbitrator arbitrator) (.arbitratorRegistered arbitrator)

def removeArbitratorFn (env : Env) (arbitrator : Address) : Exec Unit :=
  adminWrite env (·.removeArbitrator arbitrator) (.arbitratorRemoved arbitrator)

def updateFee (env : Env) (feeBps : U32) : Exec Unit := do
  whenInitialized
  failIf (feeBps.val > 10000) .invalidFeeBps
  requireAdmin env
  write (·.setFeeBps feeBps)
  publish (.feeUpdated feeBps)

def withdrawFees (env : Env) (toAddr : Address) : Exec Unit := do
  whenInitialized
  requireAdmin env
  let fees ← fetch Storage.getAccumulatedFees
  failIf (fees.val = 0) .noFeesToWithdraw
  let token ← fetch Storage.getUsdcToken
  let contract ← currentContractAddress
  transfer env token contract toAddr fees.val
  write (·.setAccumulatedFees 0)
  publish (.feesWithdrawn fees toAddr)

/-- `if let Some(ref arb) = arbitrator { if !has_arbitrator(&env, arb) {
return Err(ContractError::ArbitratorNotRegistered); } }` -/
def requireRegistered : Option Address → Exec Unit
  | some arb => do failIf (!(← read (·.hasArbitrator arb))) .arbitratorNotRegistered
  | none => pure ()

def createTrade (env : Env) (seller buyer : Address) (amount : U64)
    (arbitrator : Option Address) : Exec U64 := do
  whenInitialized
  failIf (amount.val = 0) .invalidAmount
  requireAuth env seller
  requireRegistered arbitrator
  let tradeId ← incrementTradeCounter
  let feeBps ← fetch Storage.getFeeBps
  let fee ← lift (okOr (checkedMul amount feeBps.toU64) .overflow)
  let fee ← lift (okOr (checkedDiv fee 10000) .overflow)
  let trade : Trade := ⟨tradeId, seller, buyer, amount, fee, arbitrator, .created⟩
  write (·.saveTrade tradeId trade)
  publish (.tradeCreated tradeId seller buyer amount)
  pure tradeId

def fundTrade (env : Env) (tradeId : U64) : Exec Unit := do
  whenInitialized
  let trade ← fetch (·.getTrade tradeId)
  failIf (trade.status ≠ .created) .invalidStatus
  requireAuth env trade.buyer
  let token ← fetch Storage.getUsdcToken
  let contract ← currentContractAddress
  transfer env token trade.buyer contract trade.amount.val
  write (·.saveTrade tradeId { trade with status := .funded })
  publish (.tradeFunded tradeId)

/-- The shape `complete_trade` and `cancel_trade` share: the trade's seller
moves it from `expected` to `next`, moving no funds. -/
def sellerTransition (env : Env) (tradeId : U64) (expected next : TradeStatus) (event : Event) :
    Exec Unit := do
  whenInitialized
  let trade ← fetch (·.getTrade tradeId)
  failIf (trade.status ≠ expected) .invalidStatus
  requireAuth env trade.seller
  write (·.saveTrade tradeId { trade with status := next })
  publish event

def completeTrade (env : Env) (tradeId : U64) : Exec Unit :=
  sellerTransition env tradeId .funded .completed (.tradeCompleted tradeId)

/-- The tail `confirm_receipt` and `resolve_dispute` share: pay
`amount - fee` out of the contract to `recipient`, then add `fee` to the
accumulated fees. It answers the payout. -/
def payOut (env : Env) (token : Address) (trade : Trade) (recipient : Address) : Exec U64 := do
  let payout ← lift (okOr (checkedSub trade.amount trade.fee) .overflow)
  let contract ← currentContractAddress
  transfer env token contract recipient payout.val
  let currentFees ← fetch Storage.getAccumulatedFees
  let newFees ← lift (okOr (checkedAdd currentFees trade.fee) .overflow)
  write (·.setAccumulatedFees newFees)
  pure payout

def confirmReceipt (env : Env) (tradeId : U64) : Exec Unit := do
  whenInitialized
  let trade ← fetch (·.getTrade tradeId)
  failIf (trade.status ≠ .completed) .invalidStatus
  requireAuth env trade.buyer
  let token ← fetch Storage.getUsdcToken
  let payout ← payOut env token trade trade.seller
  publish (.tradeConfirmed tradeId payout trade.fee)

def raiseDispute (env : Env) (tradeId : U64) : Exec Unit := do
  whenInitialized
  let trade ← fetch (·.getTrade tradeId)
  failIf (trade.status ≠ .funded ∧ trade.status ≠ .completed) .invalidStatus
  failIf trade.arbitrator.isNone .arbitratorNotRegistered
  let caller := env.invoker
  failIf (caller ≠ trade.buyer ∧ caller ≠ trade.seller) .unauthorized
  requireAuth env caller
  write (·.saveTrade tradeId { trade with status := .disputed })
  publish (.disputeRaised tradeId caller)

/-- `match resolution { ReleaseToBuyer => trade.buyer.clone(),
ReleaseToSeller => trade.seller.clone() }` -/
def DisputeResolution.recipient (resolution : DisputeResolution) (trade : Trade) : Address :=
  match resolution with
  | .releaseToBuyer => trade.buyer
  | .releaseToSeller => trade.seller

def resolveDispute (env : Env) (tradeId : U64) (resolution : DisputeResolution) :
    Exec Unit := do
  whenInitialized
  let trade ← fetch (·.getTrade tradeId)
  failIf (trade.status ≠ .disputed) .invalidStatus
  let arbitrator ← lift (okOr trade.arbitrator .arbitratorNotRegistered)
  requireAuth env arbitrator
  let token ← fetch Storage.getUsdcToken
  let recipient := resolution.recipient trade
  let _ ← payOut env token trade recipient
  publish (.disputeResolved tradeId resolution recipient)

def cancelTrade (env : Env) (tradeId : U64) : Exec Unit :=
  sellerTransition env tradeId .created .cancelled (.tradeCancelled tradeId)

/-! ## The read-only functions -/

def getTrade (s : Storage) (tradeId : U64) : Except ContractError Trade := s.getTrade tradeId

def getAccumulatedFees (s : Storage) : Except ContractError U64 := s.getAccumulatedFees

def isArbitratorRegistered (s : Storage) (arbitrator : Address) : Bool := s.hasArbitrator arbitrator

def getPlatformFeeBps (s : Storage) : Except ContractError U32 := s.getFeeBps

/-! ## Invocations -/

/-- A call of one of the contract's mutating functions, with its arguments. -/
inductive Op where
  | initializeContract (admin usdcToken : Address) (feeBps : U32)
  | registerArbitrator (arbitrator : Address)
  | removeArbitratorFn (arbitrator : Address)
  | updateFee (feeBps : U32)
  | withdrawFees (toAddr : Address)
  | createTrade (seller buyer : Address) (amount : U64) (arbitrator : Option Address)
  | fundTrade (tradeId : U64)
  | completeTrade (tradeId : U64)
  | confirmReceipt (tradeId : U64)
  | raiseDispute (tradeId : U64)
  | resolveDispute (tradeId : U64) (resolution : DisputeResolution)
  | cancelTrade (tradeId : U64)
  deriving DecidableEq, Repr

/-- The function an `Op` calls; `create_trade` answers the new trade's id,
the others `()` (here `none`). -/
def Op.body (env : Env) : Op → Exec (Option U64)
  | .initializeContract admin token feeBps => do StellarEscrow.initializeContract env admin token feeBps; pure none
  | .registerArbitrator a => do StellarEscrow.registerArbitrator env a; pure none
  | .removeArbitratorFn a => do StellarEscrow.removeArbitratorFn env a; pure none
  | .updateFee feeBps => do StellarEscrow.updateFee env feeBps; pure none
  | .withdrawFees toAddr => do StellarEscrow.withdrawFees env toAddr; pure none
  | .createTrade seller buyer amount arb => do
      let tradeId ← StellarEscrow.createTrade env seller buyer amount arb; pure (some tradeId)
  | .fundTrade id => do StellarEscrow.fundTrade env id; pure none
  | .completeTrade id => do StellarEscrow.completeTrade env id; pure none
  | .confirmReceipt id => do StellarEscrow.confirmReceipt env id; pure none
  | .raiseDispute id => do StellarEscrow.raiseDispute env id; pure none
  | .resolveDispute id r => do StellarEscrow.resolveDispute env id r; pure none
  | .cancelTrade id => do StellarEscrow.cancelTrade env id; pure none

/-- One invocation: the caller's `Env` and the function called. -/
structure Call where
  env : Env
  op : Op

/-- What the host does with a call: the body, as one transaction. -/
def Call.run (c : Call) (w : World) : Except Fault (Option U64) × World :=
  invoke (c.op.body c.env) w

end StellarEscrow
