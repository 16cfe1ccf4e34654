/-
The escrow contract's data (`types.rs`, `errors.rs`, the payloads of
`events.rs`) and the `u64` arithmetic it checks.

Integers keep their Rust widths: a `u64` is a `Fin (2 ^ 64)`, a `u32` a
`Fin (2 ^ 32)`, so an argument out of range cannot be built. The checked
operations answer `none` exactly where Rust's `checked_*` does, and the
contract turns that `none` into `Overflow`.
-/
import Mathlib.Tactic.Ring
import Mathlib.Data.Fin.Basic

namespace StellarEscrow

/-- Rust's `u64`. -/
abbrev U64 := Fin (2 ^ 64)

/-- Rust's `u32`. -/
abbrev U32 := Fin (2 ^ 32)

@[simp] theorem U64.val_zero : (0 : U64).val = 0 := rfl
@[simp] theorem U64.val_one : (1 : U64).val = 1 := rfl

/-- `fee_bps as u64`. -/
def U32.toU64 (b : U32) : U64 := ⟨b.val, Nat.lt_trans b.isLt (by decide)⟩

@[simp] theorem U32.toU64_val (b : U32) : b.toU64.val = b.val := rfl

/-- A Soroban `Address`: an account or a contract, compared only for equality. -/
structure Address where
  id : Nat
  deriving DecidableEq, Repr

/-! ## `u64` checked arithmetic -/

/-- `u64::checked_add`. -/
def checkedAdd (a b : U64) : Option U64 :=
  if h : a.val + b.val < 2 ^ 64 then some ⟨a.val + b.val, h⟩ else none

/-- `u64::checked_sub`. -/
def checkedSub (a b : U64) : Option U64 :=
  if h : b.val ≤ a.val then some ⟨a.val - b.val, by omega⟩ else none

/-- `u64::checked_mul`. -/
def checkedMul (a b : U64) : Option U64 :=
  if h : a.val * b.val < 2 ^ 64 then some ⟨a.val * b.val, h⟩ else none

/-- `u64::checked_div`: `none` only for a zero divisor. -/
def checkedDiv (a b : U64) : Option U64 :=
  if b.val = 0 then none else some ⟨a.val / b.val, Nat.lt_of_le_of_lt (Nat.div_le_self _ _) a.isLt⟩

/-- The shape `checked_add`, `checked_sub` and `checked_mul` share: the
result when the guard holds, `none` otherwise. -/
theorem checked_eq_some {p : Prop} [Decidable p] {x : Nat} {hx : p → x < 2 ^ 64} {c : U64} :
    (if h : p then some (⟨x, hx h⟩ : U64) else none) = some c ↔ p ∧ c.val = x := by
  split
  · next h => exact ⟨fun e => ⟨h, by cases e; rfl⟩, fun ⟨_, e⟩ => congrArg some (Fin.ext e.symm)⟩
  · next h => exact ⟨fun e => (by cases e), fun ⟨h', _⟩ => absurd h' h⟩

theorem checkedAdd_eq_some {a b c : U64} :
    checkedAdd a b = some c ↔ a.val + b.val < 2 ^ 64 ∧ c.val = a.val + b.val := checked_eq_some

theorem checkedSub_eq_some {a b c : U64} :
    checkedSub a b = some c ↔ b.val ≤ a.val ∧ c.val = a.val - b.val := checked_eq_some

/-- A `checked_sub` that succeeds answers the plain difference. -/
theorem checkedSub_eq_sub {a b c : U64} (h : checkedSub a b = some c) : c = a - b := by
  obtain ⟨hle, hc⟩ := checkedSub_eq_some.1 h
  exact Fin.ext (by rw [hc, Fin.sub_val_of_le hle])

theorem checkedMul_eq_some {a b c : U64} :
    checkedMul a b = some c ↔ a.val * b.val < 2 ^ 64 ∧ c.val = a.val * b.val := checked_eq_some

theorem checkedDiv_eq_some {a b c : U64} :
    checkedDiv a b = some c ↔ b.val ≠ 0 ∧ c.val = a.val / b.val := by
  unfold checkedDiv
  split
  · next h => exact ⟨fun e => (by cases e), fun ⟨h', _⟩ => absurd h h'⟩
  · next h => exact ⟨fun e => ⟨h, by cases e; rfl⟩, fun ⟨_, e⟩ => congrArg some (Fin.ext e.symm)⟩

/-! ## `errors.rs` and `types.rs` -/

/-- `ContractError`, the contract's own failures (`#[repr(u32)]`, 1 to 10). -/
inductive ContractError where
  | alreadyInitialized
  | notInitialized
  | invalidAmount
  | invalidFeeBps
  | arbitratorNotRegistered
  | tradeNotFound
  | invalidStatus
  | overflow
  | noFeesToWithdraw
  | unauthorized
  deriving DecidableEq, Repr

inductive TradeStatus where
  | created
  | funded
  | completed
  | disputed
  | cancelled
  deriving DecidableEq, Repr

inductive DisputeResolution where
  | releaseToBuyer
  | releaseToSeller
  deriving DecidableEq, Repr

structure Trade where
  id : U64
  seller : Address
  buyer : Address
  amount : U64
  fee : U64
  arbitrator : Option Address
  status : TradeStatus
  deriving DecidableEq, Repr

/-- The fee `create_trade` computes, `amount * fee_bps / 10000`, when the
product fits in a `u64`. -/
def feeOf (amount : U64) (feeBps : U32) : Nat := amount.val * feeBps.val / 10000

/-! ## `events.rs` -/

/-- The events the contract publishes, one constructor per `emit_*`, with
its payload. -/
inductive Event where
  | tradeCreated (tradeId : U64) (seller buyer : Address) (amount : U64)
  | tradeFunded (tradeId : U64)
  | tradeCompleted (tradeId : U64)
  | tradeConfirmed (tradeId payout fee : U64)
  | disputeRaised (tradeId : U64) (raisedBy : Address)
  | disputeResolved (tradeId : U64) (resolution : DisputeResolution) (recipient : Address)
  | tradeCancelled (tradeId : U64)
  | arbitratorRegistered (arbitrator : Address)
  | arbitratorRemoved (arbitrator : Address)
  | feeUpdated (feeBps : U32)
  | feesWithdrawn (amount : U64) (toAddr : Address)
  deriving DecidableEq, Repr

/-- The `symbol_short!` topic each event is published under. -/
def Event.topic : Event → String
  | .tradeCreated .. => "created"
  | .tradeFunded _ => "funded"
  | .tradeCompleted _ => "complete"
  | .tradeConfirmed .. => "confirm"
  | .disputeRaised .. => "dispute"
  | .disputeResolved .. => "resolved"
  | .tradeCancelled _ => "cancel"
  | .arbitratorRegistered _ => "arb_reg"
  | .arbitratorRemoved _ => "arb_rem"
  | .feeUpdated _ => "fee_upd"
  | .feesWithdrawn .. => "fees_out"

end StellarEscrow
