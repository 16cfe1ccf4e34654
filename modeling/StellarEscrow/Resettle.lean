/-
A settlement is not used up. `confirm_receipt` and `resolve_dispute` store
no status, so once one has succeeded every check it made still holds in the
world it left: the same call again is refused only when the contract's
balance no longer covers the payout (the token's transfer fails) or the
accrued fees would overflow, and otherwise pays the trade out a second time.
This is the general form of `confirm_receipt_twice`.
-/
import StellarEscrow.Enabled
import StellarEscrow.Settlement

namespace StellarEscrow

open Exec

/-- Whose signature a call on trade `t` asks for once its status check
passes; `none` where it stops before asking. -/
def Op.signer (env : Env) (t : Trade) : Op → Option Address
  | .fundTrade _ | .confirmReceipt _ => some t.buyer
  | .completeTrade _ | .cancelTrade _ => some t.seller
  | .raiseDispute _ =>
    if t.arbitrator.isSome ∧ (env.invoker = t.buyer ∨ env.invoker = t.seller) then some env.invoker
    else none
  | .resolveDispute _ _ => t.arbitrator
  | _ => none

variable {β : Type} {env : Env} {w : World}

/-- The host returns what the body returned. -/
theorem Call.run_fst (c : Call) (w : World) : (c.run w).1 = (c.op.body c.env w).1 := by
  unfold Call.run invoke
  split <;> rename_i h <;> rw [h]

/-- Past its subtraction, the payout tail fails only at the transfer or at
the accrual. -/
theorem payOut_bind_cases (env : Env) (token recipient : Address) {t : Trade} {p acc : U64}
    {g : U64 → Exec β}
    (hp : checkedSub t.amount t.fee = some p) (hacc : w.storage.accumulatedFees = some acc) :
    ((payOut env token t recipient >>= g) w).1 = .error .transfer ∨
      ((payOut env token t recipient >>= g) w).1 = .error (.contract .overflow) ∨
      ∃ w₁, (payOut env token t recipient >>= g) w = g p w₁ := by
  by_cases hle : p.val ≤ w.ledger token w.contract
  · cases hfees : checkedAdd acc t.fee with
    | some fees => exact .inr (.inr ⟨_, bind_of_ok (payOut_ok hp hle hacc hfees)⟩)
    | none =>
      right; left
      simp only [payOut, exec_bind_assoc, bind_of_ok (lift_some hp), bind_currentContractAddress,
        bind_of_ok (transfer_ok (.inl rfl) hle),
        bind_of_ok (fetchAccumulatedFees_of (w := { w with ledger := move w.ledger token w.contract recipient p.val }) hacc),
        bind_of_error (lift_none hfees)]
  · left
    simp only [payOut, exec_bind_assoc, bind_of_ok (lift_some hp), bind_currentContractAddress,
      bind_of_error (transfer_eq_error.2 ⟨rfl, fun h => hle h.2, rfl⟩)]

/-- A settlement whose checks pass answers `Ok`, or fails at the transfer or
at the accrual. -/
theorem settle_result {op : Op} {k : U64} {t : Trade} {token : Address} {p acc : U64}
    (hs : op.settles k) (hi : w.storage.initialized = true) (ht : w.storage.trades k = some t)
    (hst : Requires op t.status) (ha : ∀ a, op.signer env t = some a → Authorizes env w a)
    (hsig : (op.signer env t).isSome) (htok : w.storage.usdcToken = some token)
    (hp : checkedSub t.amount t.fee = some p) (hacc : w.storage.accumulatedFees = some acc) :
    (op.body env w).1 = .ok none ∨ (op.body env w).1 = .error .transfer ∨
      (op.body env w).1 = .error (.contract .overflow) := by
  cases op <;> simp only [Op.settles, Bool.false_eq_true, decide_eq_true_eq] at hs <;> subst hs <;>
    simp only [Requires] at hst
  case confirmReceipt k =>
    simp only [Op.body, confirmReceipt, exec_bind_assoc, bind_of_ok (whenInitialized_of hi),
      bind_of_ok (fetchTrade_some ht), failIf_of_not (not_not_intro hst), exec_pure_bind,
      bind_of_ok (requireAuth_ok (ha _ rfl)), bind_of_ok (fetchUsdcToken_of htok)]
    rcases payOut_bind_cases env token t.seller
      (g := fun payout => publish (.tradeConfirmed k payout t.fee) >>= fun _ => pure none) hp hacc with
      h | h | ⟨w₁, h⟩
    · exact .inr (.inl h)
    · exact .inr (.inr h)
    · rw [h]; exact .inl rfl
  case resolveDispute k res =>
    obtain ⟨a, harb⟩ := Option.isSome_iff_exists.1 hsig
    have harb' : t.arbitrator = some a := harb
    simp only [Op.body, resolveDispute, exec_bind_assoc, bind_of_ok (whenInitialized_of hi),
      bind_of_ok (fetchTrade_some ht), failIf_of_not (not_not_intro hst), exec_pure_bind,
      bind_of_ok (lift_some harb'), bind_of_ok (requireAuth_ok (ha a harb)),
      bind_of_ok (fetchUsdcToken_of htok)]
    rcases payOut_bind_cases env token (res.recipient t)
      (g := fun _ => publish (.disputeResolved k res (res.recipient t)) >>= fun _ => pure none) hp hacc with
      h | h | ⟨w₁, h⟩
    · exact .inr (.inl h)
    · exact .inr (.inr h)
    · rw [h]; exact .inl rfl

/-- **A settlement can be repeated.** For any world, after a call of
`confirm_receipt(k)` or `resolve_dispute(k, _)` returns `Ok`, the same call
from the world it left returns `Ok` again, or fails only because the
token's transfer of the payout fails or the fee accrual overflows: neither
the trade's status nor any other check refuses it. -/
theorem settlement_repeats (c : Call) (w : World) (k : U64) (hs : c.op.settles k)
    (hok : (c.run w).1.isOk) :
    (c.run (c.run w).2).1 = .ok none ∨ (c.run (c.run w).2).1 = .error .transfer ∨
      (c.run (c.run w).2).1 = .error (.contract .overflow) := by
  rcases c.run_cases w with ⟨-, e, he⟩ | ⟨v, -, h⟩
  · rw [he] at hok; cases hok
  rw [Call.run_fst]
  generalize (c.run w).2 = w' at h ⊢
  obtain ⟨env, op⟩ := c
  cases body_ok h with
  | @confirmReceipt k' _ _ _ _ _ hi ht hst ha htok hp _ _ hfees =>
    obtain rfl : k' = k := by simpa [Op.settles] using hs
    exact settle_result hs hi ht hst (fun _ h => by cases h; exact ha) rfl htok hp rfl
  | @resolveDispute k' _ _ _ _ _ _ _ hi ht hst harb ha htok hp _ _ hfees =>
    obtain rfl : k' = k := by simpa [Op.settles] using hs
    refine settle_result hs hi ht hst (fun b hb => ?_) (by simp [Op.signer, harb]) htok hp rfl
    obtain rfl := Option.some.inj (harb.symm.trans hb)
    exact ha
  | _ => simp [Op.settles] at hs

theorem settlement_repeats_confirm :
    let w : World := final ⟨⟨2⟩, .empty, fun tok a => if tok = ⟨1⟩ ∧ a = ⟨4⟩ then 10000 else 0, []⟩
      [⟨⟨⟨0⟩, [⟨0⟩]⟩, .initializeContract ⟨0⟩ ⟨1⟩ 250⟩,
       ⟨⟨⟨3⟩, [⟨3⟩]⟩, .createTrade ⟨3⟩ ⟨4⟩ 10000 none⟩,
       ⟨⟨⟨4⟩, [⟨4⟩]⟩, .fundTrade 1⟩,
       ⟨⟨⟨3⟩, [⟨3⟩]⟩, .completeTrade 1⟩]
    let c : Call := ⟨⟨⟨4⟩, [⟨4⟩]⟩, .confirmReceipt 1⟩
    c.op.settles 1 ∧ (c.run w).1.isOk ∧
      ((c.run (c.run w).2).1 = .ok none ∨ (c.run (c.run w).2).1 = .error .transfer ∨
        (c.run (c.run w).2).1 = .error (.contract .overflow)) :=
  ⟨rfl, by decide, settlement_repeats _ _ 1 rfl (by decide)⟩

end StellarEscrow
