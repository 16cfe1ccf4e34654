/-
The fee ledger. `accumulated_fees` starts at 0 with `initialize`, grows by
a trade's fee with each settlement (`confirm_receipt`, `resolve_dispute`),
and `withdraw_fees` pays all of it out and sets it back to 0; nothing else
touches it. So after any run the accrued fees are the fold of the run's
successful calls (`Step.accrual`), and a settlement repeated on one trade
accrues its fee again.
-/
import StellarEscrow.Solvency

namespace StellarEscrow

open Exec

/-- The fee a settlement of trade `k` accrues: the stored trade's fee. -/
def feeOfTrade (s : Storage) (k : U64) : Nat := ((s.trades k).map fun t => t.fee.val).getD 0

/-- The accrued fees after a successful call of `op` from storage `s`, from
`acc` before it. -/
def Op.accrual (s : Storage) : Op → Nat → Nat
  | .initializeContract .., _ | .withdrawFees _, _ => 0
  | .confirmReceipt k, acc | .resolveDispute k _, acc => acc + feeOfTrade s k
  | _, acc => acc

/-- The same of a step of a run: a failed call keeps the fees. -/
def Step.accrual (acc : Nat) (st : Step) : Nat :=
  if st.ok then st.call.op.accrual st.pre.storage acc else acc

/-- What a settlement does to the accrued fees. -/
theorem accrued_settle {s : Storage} {k : U64} {t : Trade} {acc fees : U64}
    (ht : s.trades k = some t) (hacc : s.accumulatedFees = some acc)
    (hfees : checkedAdd acc t.fee = some fees) :
    accrued (s.setAccumulatedFees fees) = accrued s + feeOfTrade s k := by
  simp [accrued, feeOfTrade, ht, hacc, (checkedAdd_eq_some.1 hfees).2]

/-- **What a successful body does to the accrued fees.** -/
theorem body_accrual {env : Env} {op : Op} {w w' : World} {v : Option U64}
    (h : op.body env w = (.ok v, w')) :
    accrued w'.storage = op.accrual w.storage (accrued w.storage) := by
  cases body_ok h with
  | confirmReceipt _ ht _ _ _ _ _ hacc hfees | resolveDispute _ ht _ _ _ _ _ _ hacc hfees =>
    exact accrued_settle ht hacc hfees
  | _ => rfl

/-- A successful `withdraw_fees(to)` pays exactly the accrued fees, which are
not zero, from the contract to `to`. -/
theorem withdrawFees_pays {env : Env} {toAddr : Address} {w w' : World} {v : Option U64}
    (h : (Op.withdrawFees toAddr).body env w = (.ok v, w')) :
    ∃ token, w.storage.usdcToken = some token ∧ 0 < accrued w.storage ∧
      w'.ledger = move w.ledger token w.contract toAddr (accrued w.storage) := by
  cases body_ok h with
  | @withdrawFees _ _ _ fees _ _ _ hacc h0 htok =>
    have : accrued w.storage = fees.val := by simp [accrued, hacc]
    exact ⟨_, htok, by omega, by rw [this]⟩

theorem call_accrual (c : Call) (w : World) :
    accrued (c.run w).2.storage = Step.accrual (accrued w.storage) ⟨w, c, (c.run w).1, (c.run w).2⟩ := by
  rcases c.run_cases w with ⟨h, e, he⟩ | ⟨v, hv, h⟩
  · simp only [Step.accrual, he, Step.ok_error, h]
    rfl
  · simp only [Step.accrual, hv, Step.ok_ok, if_true]
    exact body_accrual h

/-- **The fee ledger.** After any run, the accrued fees are those before it
folded through the run's successful calls: `initialize` and
`withdraw_fees` set them to 0, a settlement of a trade adds the trade's
stored fee, and no other call changes them. Each successful
`withdraw_fees(to)` pays exactly the accrued fees, never zero, from the
contract to `to`. -/
theorem fee_ledger (w : World) (cs : List Call) :
    accrued (final w cs).storage = (trace w cs).foldl Step.accrual (accrued w.storage) ∧
    ∀ st ∈ trace w cs, ∀ toAddr, st.call.op = .withdrawFees toAddr → st.ok →
      ∃ token, st.pre.storage.usdcToken = some token ∧ 0 < accrued st.pre.storage ∧
        st.post.ledger = move st.pre.ledger token st.pre.contract toAddr (accrued st.pre.storage) := by
  induction cs generalizing w with
  | nil => exact ⟨rfl, fun _ h => absurd h (List.not_mem_nil _)⟩
  | cons c cs ih =>
    obtain ⟨ihf, ihw⟩ := ih (c.run w).2
    refine ⟨by rw [final_cons, ihf, call_accrual]; rfl, fun st hst toAddr hop hok => ?_⟩
    rcases List.mem_cons.1 hst with rfl | hst
    · rcases c.run_cases w with ⟨-, e, he⟩ | ⟨v, -, h⟩
      · simp [he] at hok
      · obtain ⟨env, op⟩ := c
        cases hop
        exact withdrawFees_pays h
    · exact ihw st hst toAddr hop hok

/- Two end-to-end runs: a trade of 10000 at 250 basis points,
confirmed by the buyer, or disputed and released to the buyer by its
arbitrator. The recipient gets 9750 and the fees are 250. -/
example :
    let w := final ⟨⟨2⟩, .empty, fun tok a => if tok = ⟨1⟩ ∧ a = ⟨4⟩ then 10000 else 0, []⟩
      [⟨⟨⟨0⟩, [⟨0⟩]⟩, .initializeContract ⟨0⟩ ⟨1⟩ 250⟩,
       ⟨⟨⟨3⟩, [⟨3⟩]⟩, .createTrade ⟨3⟩ ⟨4⟩ 10000 none⟩,
       ⟨⟨⟨4⟩, [⟨4⟩]⟩, .fundTrade 1⟩,
       ⟨⟨⟨3⟩, [⟨3⟩]⟩, .completeTrade 1⟩,
       ⟨⟨⟨4⟩, [⟨4⟩]⟩, .confirmReceipt 1⟩]
    w.ledger ⟨1⟩ ⟨3⟩ = 9750 ∧ w.ledger ⟨1⟩ ⟨2⟩ = 250 ∧ accrued w.storage = 250 := by
  decide

example :
    let w := final ⟨⟨2⟩, .empty, fun tok a => if tok = ⟨1⟩ ∧ a = ⟨4⟩ then 10000 else 0, []⟩
      [⟨⟨⟨0⟩, [⟨0⟩]⟩, .initializeContract ⟨0⟩ ⟨1⟩ 250⟩,
       ⟨⟨⟨0⟩, [⟨0⟩]⟩, .registerArbitrator ⟨7⟩⟩,
       ⟨⟨⟨3⟩, [⟨3⟩]⟩, .createTrade ⟨3⟩ ⟨4⟩ 10000 (some ⟨7⟩)⟩,
       ⟨⟨⟨4⟩, [⟨4⟩]⟩, .fundTrade 1⟩,
       ⟨⟨⟨4⟩, [⟨4⟩]⟩, .raiseDispute 1⟩,
       ⟨⟨⟨7⟩, [⟨7⟩]⟩, .resolveDispute 1 .releaseToBuyer⟩]
    w.ledger ⟨1⟩ ⟨4⟩ = 9750 ∧ w.ledger ⟨1⟩ ⟨2⟩ = 250 ∧ accrued w.storage = 250 := by
  decide

end StellarEscrow
