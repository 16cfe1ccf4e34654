/-
Settlement. `confirm_receipt` and `resolve_dispute` pay a trade out of
escrow and accrue its fee, but store no status: the trade stays `Completed`
or `Disputed`, so the status check that let one settlement through lets the
next one through as well, and one trade can be paid out twice from the
escrow of another.
-/
import StellarEscrow.History

namespace StellarEscrow

open Exec

/-- The call settles trade `k`: `confirm_receipt(k)` or `resolve_dispute(k, _)`. -/
def Op.settles (k : U64) : Op → Bool
  | .confirmReceipt k' | .resolveDispute k' _ => decide (k' = k)
  | _ => false

/-- From a fresh contract: `initialize`, two trades of 10000 at 250 basis
points, both funded, the first completed, then `confirm_receipt(1)` twice.
Every call succeeds, and trade 1 is settled twice. -/
theorem confirm_receipt_twice :
    let w₀ : World :=
      ⟨⟨2⟩, .empty, fun tok a => if tok = ⟨1⟩ ∧ (a = ⟨4⟩ ∨ a = ⟨6⟩) then 10000 else 0, []⟩
    let cs : List Call :=
      [⟨⟨⟨0⟩, [⟨0⟩]⟩, .initializeContract ⟨0⟩ ⟨1⟩ 250⟩,
       ⟨⟨⟨3⟩, [⟨3⟩]⟩, .createTrade ⟨3⟩ ⟨4⟩ 10000 none⟩,
       ⟨⟨⟨5⟩, [⟨5⟩]⟩, .createTrade ⟨5⟩ ⟨6⟩ 10000 none⟩,
       ⟨⟨⟨4⟩, [⟨4⟩]⟩, .fundTrade 1⟩,
       ⟨⟨⟨6⟩, [⟨6⟩]⟩, .fundTrade 2⟩,
       ⟨⟨⟨3⟩, [⟨3⟩]⟩, .completeTrade 1⟩,
       ⟨⟨⟨4⟩, [⟨4⟩]⟩, .confirmReceipt 1⟩,
       ⟨⟨⟨4⟩, [⟨4⟩]⟩, .confirmReceipt 1⟩]
    (trace w₀ cs).all (fun st => st.ok) ∧
      (trace w₀ cs).countP (fun st => st.ok && st.call.op.settles 1) = 2 := by
  decide

/-- The same run ends with 500 in the contract's account and 500 of
accrued fees, while trade 2's 10000 are escrowed, funded and never settled:
the contract holds less than it owes. -/
theorem double_settlement_insolvent :
    let w₀ : World :=
      ⟨⟨2⟩, .empty, fun tok a => if tok = ⟨1⟩ ∧ (a = ⟨4⟩ ∨ a = ⟨6⟩) then 10000 else 0, []⟩
    let cs : List Call :=
      [⟨⟨⟨0⟩, [⟨0⟩]⟩, .initializeContract ⟨0⟩ ⟨1⟩ 250⟩,
       ⟨⟨⟨3⟩, [⟨3⟩]⟩, .createTrade ⟨3⟩ ⟨4⟩ 10000 none⟩,
       ⟨⟨⟨5⟩, [⟨5⟩]⟩, .createTrade ⟨5⟩ ⟨6⟩ 10000 none⟩,
       ⟨⟨⟨4⟩, [⟨4⟩]⟩, .fundTrade 1⟩,
       ⟨⟨⟨6⟩, [⟨6⟩]⟩, .fundTrade 2⟩,
       ⟨⟨⟨3⟩, [⟨3⟩]⟩, .completeTrade 1⟩,
       ⟨⟨⟨4⟩, [⟨4⟩]⟩, .confirmReceipt 1⟩,
       ⟨⟨⟨4⟩, [⟨4⟩]⟩, .confirmReceipt 1⟩]
    (final w₀ cs).storage.usdcToken = some ⟨1⟩ ∧
      (final w₀ cs).storage.accumulatedFees = some 500 ∧
      (final w₀ cs).storage.trades 2 = some ⟨2, ⟨5⟩, ⟨6⟩, 10000, 250, none, .funded⟩ ∧
      (trace w₀ cs).countP (fun st => st.ok && st.call.op.settles 2) = 0 ∧
      (final w₀ cs).ledger ⟨1⟩ (final w₀ cs).contract = 500 ∧ 500 < 500 + 10000 := by
  decide

end StellarEscrow
