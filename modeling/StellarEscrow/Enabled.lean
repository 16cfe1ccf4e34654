/-
The checks suffice. `OkStep` lists, for each public function, the checks a
successful call passed and the answer and world it leaves (`body_ok`);
conversely, whenever those checks hold, the function returns `Ok` with that
answer and leaves that world (`body_of_okStep`), which is how a call is run
forward from a world where its checks are known to hold.
-/
import StellarEscrow.History

namespace StellarEscrow

open Exec

variable {env : Env} {w : World}

theorem isNone_ne_true {o : Option Address} (h : o.isSome) : ¬ o.isNone = true := by
  cases o <;> simp_all

/-- The shape of `raise_dispute`'s two checks `x != a && x != b`. -/
theorem not_ne_and_ne {α : Type} {x a b : α} (h : x = a ∨ x = b) : ¬ (x ≠ a ∧ x ≠ b) :=
  fun h' => not_or.2 h' h

/-- **A call whose checks hold returns `Ok`**, with the answer and world
`OkStep` names. -/
theorem body_of_okStep {op : Op} {v : Option U64} {w' : World} (h : OkStep env w op v w') :
    op.body env w = (.ok v, w') := by
  cases h with
  | initializeContract hi hb ha =>
    have hflag : ¬ (Storage.isInitialized w.storage = true) := by simp [hi]
    simp only [Op.body, initializeContract, exec_bind_assoc, bind_read, failIf_of_not hflag,
      exec_pure_bind, failIf_of_not (Nat.not_lt.2 hb), bind_of_ok (requireAuth_ok ha), bind_write,
      pure_apply]
  | registerArbitrator hi ha hauth | removeArbitratorFn hi ha hauth =>
    simp only [Op.body, registerArbitrator, removeArbitratorFn, adminWrite, exec_bind_assoc,
      bind_of_ok (whenInitialized_of hi), bind_of_ok (requireAdmin_ok ha hauth), bind_write,
      bind_publish, pure_apply]
  | updateFee hi hb ha hauth =>
    simp only [Op.body, updateFee, exec_bind_assoc, bind_of_ok (whenInitialized_of hi),
      failIf_of_not (Nat.not_lt.2 hb), exec_pure_bind, bind_of_ok (requireAdmin_ok ha hauth),
      bind_write, bind_publish, pure_apply]
  | withdrawFees hi ha hauth hacc h0 htok hle =>
    simp only [Op.body, withdrawFees, exec_bind_assoc, bind_of_ok (whenInitialized_of hi),
      bind_of_ok (requireAdmin_ok ha hauth), bind_of_ok (fetchAccumulatedFees_of hacc),
      failIf_of_not h0, exec_pure_bind, bind_of_ok (fetchUsdcToken_of htok),
      bind_currentContractAddress, bind_of_ok (transfer_ok (.inl rfl) hle), bind_write, bind_publish,
      pure_apply]
  | @createTrade _ _ amount _ r _ fee b hi ha hs harb hn hr hb hlt hfee =>
    have hmul : checkedMul amount b.toU64 = some ⟨amount.val * b.val, hlt⟩ :=
      checkedMul_eq_some.2 ⟨hlt, rfl⟩
    have hdiv : checkedDiv ⟨amount.val * b.val, hlt⟩ 10000 = some fee :=
      checkedDiv_eq_some.2 ⟨by decide, hfee⟩
    simp only [Op.body, createTrade, exec_bind_assoc, bind_of_ok (whenInitialized_of hi),
      failIf_of_not ha, exec_pure_bind, bind_of_ok (requireAuth_ok hs),
      bind_of_ok (requireRegistered_ok harb), bind_of_ok (incrementTradeCounter_of hn hr),
      bind_of_ok (fetchFeeBps_of (w := { w with storage := w.storage.setTradeCounter r }) hb),
      bind_of_ok (lift_some hmul), bind_of_ok (lift_some hdiv), bind_write, bind_publish, pure_apply]
  | fundTrade hi ht hs ha htok hle =>
    simp only [Op.body, fundTrade, exec_bind_assoc, bind_of_ok (whenInitialized_of hi),
      bind_of_ok (fetchTrade_some ht), failIf_of_not (not_not_intro hs), exec_pure_bind,
      bind_of_ok (requireAuth_ok ha), bind_of_ok (fetchUsdcToken_of htok),
      bind_currentContractAddress, bind_of_ok (transfer_ok (.inr ha.2) hle), bind_write, bind_publish,
      pure_apply]
  | completeTrade hi ht hs ha | cancelTrade hi ht hs ha =>
    simp only [Op.body, completeTrade, cancelTrade, sellerTransition, exec_bind_assoc,
      bind_of_ok (whenInitialized_of hi), bind_of_ok (fetchTrade_some ht),
      failIf_of_not (not_not_intro hs), exec_pure_bind, bind_of_ok (requireAuth_ok ha), bind_write,
      bind_publish, pure_apply]
  | confirmReceipt hi ht hs ha htok hp hle hacc hfees =>
    simp only [Op.body, confirmReceipt, exec_bind_assoc, bind_of_ok (whenInitialized_of hi),
      bind_of_ok (fetchTrade_some ht), failIf_of_not (not_not_intro hs), exec_pure_bind,
      bind_of_ok (requireAuth_ok ha), bind_of_ok (fetchUsdcToken_of htok),
      bind_of_ok (payOut_ok hp hle hacc hfees), bind_publish, pure_apply]
  | raiseDispute hi ht hs harb hinv ha =>
    simp only [Op.body, raiseDispute, exec_bind_assoc, bind_of_ok (whenInitialized_of hi),
      bind_of_ok (fetchTrade_some ht), failIf_of_not (not_ne_and_ne hs),
      failIf_of_not (isNone_ne_true harb), failIf_of_not (not_ne_and_ne hinv), exec_pure_bind,
      bind_of_ok (requireAuth_ok ha), bind_write, bind_publish, pure_apply]
  | resolveDispute hi ht hs harb ha htok hp hle hacc hfees =>
    simp only [Op.body, resolveDispute, exec_bind_assoc, bind_of_ok (whenInitialized_of hi),
      bind_of_ok (fetchTrade_some ht), failIf_of_not (not_not_intro hs), exec_pure_bind,
      bind_of_ok (lift_some harb), bind_of_ok (requireAuth_ok ha), bind_of_ok (fetchUsdcToken_of htok),
      bind_of_ok (payOut_ok hp hle hacc hfees), bind_publish, pure_apply]

end StellarEscrow
