/-
Failures. The host rolls a failing call back whole (`invoke`), so no failing
call changes the world. The bodies themselves, run in code order, fail with
the world they started in (`Exec.Clean`) but for two paths that fail after a
write: `create_trade` has stored the incremented counter when its fee
product overflows, and `confirm_receipt` and `resolve_dispute` have paid
`amount - fee` out when the fee accrual overflows.
-/
import StellarEscrow.Auth

namespace StellarEscrow

open Exec

variable {env : Env} {w w' : World} {e : Fault}

/-! ## Bodies that fail before they write

Nine of the twelve functions make every check before their first write,
transfer or event, and the one transfer they may make is their last step
that can fail. Three predicates on a body say so, each with a lemma per
host function and two rules for `>>=`. -/

namespace Exec

variable {α β : Type}

/-- `x` leaves the world as it found it, whatever it answers: the reads and
the checks. -/
def Keeps (x : Exec α) : Prop := ∀ w, (x w).2 = w

/-- `x` never fails: the writes and the events. -/
def Total (x : Exec α) : Prop := ∀ w e w', x w ≠ (.error e, w')

/-- `x` fails only with the world it found. -/
def Clean (x : Exec α) : Prop := ∀ w e w', x w = (.error e, w') → w' = w

variable {x : Exec α} {f : α → Exec β}

theorem Keeps.bind (hx : Keeps x) (hf : ∀ a, Keeps (f a)) : Keeps (x >>= f) := fun w => by
  have h := hx w
  rw [bind_apply]
  rcases hxw : x w with ⟨_ | a, w'⟩ <;> rw [hxw] at h <;> dsimp only at h ⊢ <;> subst h
  · rfl
  · exact hf a _

theorem Keeps.pure (a : α) : Keeps (Pure.pure a : Exec α) := fun _ => rfl

theorem Keeps.read (g : Storage → α) : Keeps (Exec.read g) := fun _ => rfl

theorem Keeps.lift (r : Except ContractError α) : Keeps (Exec.lift r) := fun _ => by
  cases r <;> rfl

theorem Keeps.fetch (g : Storage → Except ContractError α) : Keeps (Exec.fetch g) :=
  fun w => Keeps.lift (g w.storage) w

theorem Keeps.failIf (c : Prop) [Decidable c] (e : ContractError) : Keeps (Exec.failIf c e) :=
  fun _ => by unfold Exec.failIf; split <;> rfl

theorem Keeps.requireAuth (env : Env) (a : Address) : Keeps (Exec.requireAuth env a) :=
  fun _ => by unfold Exec.requireAuth; split <;> rfl

theorem Keeps.currentContractAddress : Keeps Exec.currentContractAddress := fun _ => rfl

theorem Keeps.clean (h : Keeps x) : Clean x := fun w _ _ hx => by
  have := h w
  rwa [hx] at this

theorem Total.bind (hx : Total x) (hf : ∀ a, Total (f a)) : Total (x >>= f) := fun _ _ _ h => by
  rcases bind_eq_error.1 h with h | ⟨a, _, -, h⟩
  exacts [hx _ _ _ h, hf a _ _ _ h]

theorem Total.pure (a : α) : Total (Pure.pure a : Exec α) := fun _ _ _ h => pure_eq_error.1 h

theorem Total.write (g : Storage → Storage) : Total (Exec.write g) := fun _ _ _ h => write_eq_error.1 h

theorem Total.publish (ev : Event) : Total (Exec.publish ev) := fun _ _ _ h => publish_eq_error.1 h

theorem Total.clean (h : Total x) : Clean x := fun w e w' hx => absurd hx (h w e w')

theorem Clean.transfer (env : Env) (token src dst : Address) (n : Nat) :
    Clean (Exec.transfer env token src dst n) := fun _ _ _ h => (transfer_eq_error.1 h).1

/-- Checks, then a body that fails cleanly. -/
theorem Clean.keeps_bind (hx : Keeps x) (hf : ∀ a, Clean (f a)) : Clean (x >>= f) :=
  fun w _ _ h => by
    rcases bind_eq_error.1 h with hx' | ⟨a, w₁, hxw, hfa⟩
    · exact hx.clean _ _ _ hx'
    · have hw₁ : w₁ = w := by have := hx w; rwa [hxw] at this
      subst hw₁
      exact hf a _ _ _ hfa

/-- A body that fails cleanly, then writes and events. -/
theorem Clean.bind_total (hx : Clean x) (hf : ∀ a, Total (f a)) : Clean (x >>= f) :=
  fun _ _ _ h => by
    rcases bind_eq_error.1 h with h | ⟨a, _, -, h⟩
    exacts [hx _ _ _ h, absurd h (hf a _ _ _)]

end Exec

theorem whenInitialized_keeps : Keeps whenInitialized :=
  .bind (.read _) fun _ => .failIf _ _

theorem requireAdmin_keeps (env : Env) : Keeps (requireAdmin env) :=
  .bind (.fetch _) fun _ => .requireAuth _ _

theorem initializeContract_clean (env : Env) (admin token : Address) (b : U32) :
    Clean (initializeContract env admin token b) :=
  .keeps_bind (.read _) fun _ => .keeps_bind (.failIf _ _) fun _ => .keeps_bind (.failIf _ _) fun _ =>
    .keeps_bind (.requireAuth _ _) fun _ => Total.clean <|
      .bind (.write _) fun _ => .bind (.write _) fun _ => .bind (.write _) fun _ =>
        .bind (.write _) fun _ => .bind (.write _) fun _ => .write _

theorem adminWrite_clean (env : Env) (g : Storage → Storage) (ev : Event) :
    Clean (adminWrite env g ev) :=
  .keeps_bind whenInitialized_keeps fun _ => .keeps_bind (requireAdmin_keeps env) fun _ =>
    Total.clean (.bind (.write _) fun _ => .publish _)

theorem updateFee_clean (env : Env) (b : U32) : Clean (updateFee env b) :=
  .keeps_bind whenInitialized_keeps fun _ => .keeps_bind (.failIf _ _) fun _ =>
    .keeps_bind (requireAdmin_keeps env) fun _ => Total.clean (.bind (.write _) fun _ => .publish _)

theorem withdrawFees_clean (env : Env) (toAddr : Address) : Clean (withdrawFees env toAddr) :=
  .keeps_bind whenInitialized_keeps fun _ => .keeps_bind (requireAdmin_keeps env) fun _ =>
    .keeps_bind (.fetch _) fun _ => .keeps_bind (.failIf _ _) fun _ => .keeps_bind (.fetch _) fun _ =>
      .keeps_bind .currentContractAddress fun _ =>
        .bind_total (.transfer _ _ _ _ _) fun _ => .bind (.write _) fun _ => .publish _

theorem fundTrade_clean (env : Env) (k : U64) : Clean (fundTrade env k) :=
  .keeps_bind whenInitialized_keeps fun _ => .keeps_bind (.fetch _) fun _ =>
    .keeps_bind (.failIf _ _) fun _ => .keeps_bind (.requireAuth _ _) fun _ =>
      .keeps_bind (.fetch _) fun _ => .keeps_bind .currentContractAddress fun _ =>
        .bind_total (.transfer _ _ _ _ _) fun _ => .bind (.write _) fun _ => .publish _

theorem sellerTransition_clean (env : Env) (k : U64) (a b : TradeStatus) (ev : Event) :
    Clean (sellerTransition env k a b ev) :=
  .keeps_bind whenInitialized_keeps fun _ => .keeps_bind (.fetch _) fun _ =>
    .keeps_bind (.failIf _ _) fun _ => .keeps_bind (.requireAuth _ _) fun _ =>
      Total.clean (.bind (.write _) fun _ => .publish _)

theorem raiseDispute_clean (env : Env) (k : U64) : Clean (raiseDispute env k) :=
  .keeps_bind whenInitialized_keeps fun _ => .keeps_bind (.fetch _) fun _ =>
    .keeps_bind (.failIf _ _) fun _ => .keeps_bind (.failIf _ _) fun _ =>
      .keeps_bind (.failIf _ _) fun _ => .keeps_bind (.requireAuth _ _) fun _ =>
        Total.clean (.bind (.write _) fun _ => .publish _)

/-! ## Bodies that fail after a write -/

theorem payOut_error {token recipient : Address} {t : Trade}
    (hacc : w.storage.accumulatedFees.isSome) (h : payOut env token t recipient w = (.error e, w')) :
    w' = w ∨ e = .contract .overflow ∧ ∃ p, checkedSub t.amount t.fee = some p ∧
      w' = { w with ledger := move w.ledger token w.contract recipient p.val } := by
  by_cases hw : w' = w
  · exact .inl hw
  simp only [payOut, bind_eq_error, lift_eq_error, hw, okOr_eq_error, and_assoc, exists_and_left,
    exists_eq_left, false_and, lift_eq_ok, okOr_eq_ok, currentContractAddress_eq_error,
    currentContractAddress_eq_ok, transfer_eq_error, transfer_eq_ok, fetch_eq_error,
    Storage.getAccumulatedFees, fetch_eq_ok, write_eq_error, write_eq_ok, pure_eq_error, and_false,
    exists_false, exists_const, or_false, true_or, true_and, false_or] at h
  obtain ⟨p, hp, -, ⟨-, hn, -⟩ | ⟨acc, -, rfl, -, rfl⟩⟩ := h
  · simp [hn] at hacc
  · exact .inr ⟨rfl, p, hp, rfl⟩

/-- `create_trade` fails with the world it found, or with `Overflow` from
the fee product after it stored the incremented counter. -/
theorem createTrade_error {seller buyer : Address} {amount : U64} {arb : Option Address}
    (hc : ConfigOk w.storage) (h : createTrade env seller buyer amount arb w = (.error e, w')) :
    w' = w ∨ e = .contract .overflow ∧ ∃ n r : U64, w.storage.tradeCounter = some n ∧
      r.val = n.val + 1 ∧ w' = { w with storage := w.storage.setTradeCounter r } := by
  by_cases hw : w' = w
  · exact .inl hw
  simp only [createTrade, bind_eq_error, whenInitialized_eq_error, hw, false_and,
    whenInitialized_eq_ok, failIf_eq_error, failIf_eq_ok, requireAuth_eq_error, requireAuth_eq_ok,
    requireRegistered_eq_error, requireRegistered_eq_ok, incrementTradeCounter_eq_error,
    incrementTradeCounter_eq_ok, fetch_eq_error, Storage.getFeeBps, okOr_eq_error, and_assoc,
    exists_and_left, exists_eq_left, fetch_eq_ok, okOr_eq_ok, lift_eq_error, lift_eq_ok,
    write_eq_error, write_eq_ok, publish_eq_error, pure_eq_error, and_false, exists_false,
    exists_const, or_false, Storage.setTradeCounter_feeBps, false_or] at h
  obtain ⟨hi, -, -, -, r, ⟨n, hn, hr⟩, ⟨-, hb, -⟩ | ⟨b, -, ⟨rfl, -, rfl⟩ | ⟨p, -, -, hdiv, -⟩⟩⟩ := h
  · obtain ⟨b, hb', -⟩ := (hc.configured hi).feeBps
    rw [hb'] at hb; cases hb
  · exact .inr ⟨rfl, n, r, hn, hr, rfl⟩
  · rw [checkedDiv, if_neg (by decide)] at hdiv; cases hdiv

/-- A settlement fails with the world it found, or with `Overflow` from the
fee accrual after it paid `amount - fee` of the stored token to `dst`. -/
theorem confirmReceipt_error {k : U64} (hc : ConfigOk w.storage)
    (h : confirmReceipt env k w = (.error e, w')) :
    w' = w ∨ e = .contract .overflow ∧ ∃ t token, w.storage.trades k = some t ∧
      w.storage.usdcToken = some token ∧
      w' = { w with ledger := move w.ledger token w.contract t.seller (t.amount.val - t.fee.val) } := by
  by_cases hw : w' = w
  · exact .inl hw
  simp only [confirmReceipt, Storage.getTrade, ne_eq, bind_eq_error, whenInitialized_eq_error, hw,
    false_and, whenInitialized_eq_ok, fetch_eq_error, okOr_eq_error, and_assoc, exists_and_left,
    exists_eq_left, fetch_eq_ok, okOr_eq_ok, failIf_eq_error, failIf_eq_ok, Decidable.not_not,
    requireAuth_eq_error, requireAuth_eq_ok, Storage.getUsdcToken, publish_eq_error, and_false,
    exists_false, exists_const, or_false, false_or] at h
  obtain ⟨hi, t, ht, -, -, token, htok, hp⟩ := h
  rcases payOut_error (hc.configured hi).accumulatedFees hp with h | ⟨he, p, hsub, rfl⟩
  · exact absurd h hw
  · exact .inr ⟨he, t, token, ht, htok, by rw [(checkedSub_eq_some.1 hsub).2]⟩

theorem resolveDispute_error {k : U64} {res : DisputeResolution} (hc : ConfigOk w.storage)
    (h : resolveDispute env k res w = (.error e, w')) :
    w' = w ∨ e = .contract .overflow ∧ ∃ t token, w.storage.trades k = some t ∧
      w.storage.usdcToken = some token ∧
      w' = { w with ledger := move w.ledger token w.contract (res.recipient t)
                                (t.amount.val - t.fee.val) } := by
  by_cases hw : w' = w
  · exact .inl hw
  simp only [resolveDispute, Storage.getTrade, ne_eq, bind_eq_error, whenInitialized_eq_error, hw,
    false_and, whenInitialized_eq_ok, fetch_eq_error, okOr_eq_error, and_assoc, exists_and_left,
    exists_eq_left, fetch_eq_ok, okOr_eq_ok, failIf_eq_error, failIf_eq_ok, Decidable.not_not,
    lift_eq_error, lift_eq_ok, requireAuth_eq_error, requireAuth_eq_ok, Storage.getUsdcToken,
    publish_eq_error, and_false, exists_false, exists_const, or_false, false_or] at h
  obtain ⟨hi, t, ht, -, -, -, -, token, htok, hp⟩ := h
  rcases payOut_error (hc.configured hi).accumulatedFees hp with h | ⟨he, p, hsub, rfl⟩
  · exact absurd h hw
  · exact .inr ⟨he, t, token, ht, htok, by rw [(checkedSub_eq_some.1 hsub).2]⟩

/-- A call's body fails exactly when its function does, with the same world. -/
theorem bind_pure_eq_error {β γ : Type} {x : Exec β} {f : β → γ} :
    (x >>= fun a => pure (f a) : Exec γ) w = (.error e, w') ↔ x w = (.error e, w') := by
  simp only [bind_eq_error, pure_eq_error, and_false, exists_false, or_false]

/-- **How a body fails.** From a fresh or configured storage, a body that
fails leaves the world as it found it, but for the two late overflows. -/
theorem body_error {op : Op} (hc : ConfigOk w.storage) (h : op.body env w = (.error e, w')) :
    w' = w ∨
    ((∃ seller buyer amount arb, op = .createTrade seller buyer amount arb) ∧
      e = .contract .overflow ∧ ∃ n r : U64, w.storage.tradeCounter = some n ∧
        r.val = n.val + 1 ∧ w' = { w with storage := w.storage.setTradeCounter r }) ∨
    (∃ k t token dst, ((op = .confirmReceipt k ∧ dst = t.seller) ∨
        ∃ res, op = .resolveDispute k res ∧ dst = res.recipient t) ∧
      w.storage.trades k = some t ∧ w.storage.usdcToken = some token ∧ e = .contract .overflow ∧
      w' = { w with ledger := move w.ledger token w.contract dst (t.amount.val - t.fee.val) }) := by
  cases op with
  | createTrade seller buyer amount arb =>
    rcases createTrade_error hc (bind_pure_eq_error.1 h) with h | ⟨he, hw'⟩
    exacts [.inl h, .inr (.inl ⟨⟨_, _, _, _, rfl⟩, he, hw'⟩)]
  | confirmReceipt k =>
    rcases confirmReceipt_error hc (bind_pure_eq_error.1 h) with h | ⟨he, t, token, ht, htok, hw'⟩
    exacts [.inl h, .inr (.inr ⟨k, t, token, _, .inl ⟨rfl, rfl⟩, ht, htok, he, hw'⟩)]
  | resolveDispute k res =>
    rcases resolveDispute_error hc (bind_pure_eq_error.1 h) with h | ⟨he, t, token, ht, htok, hw'⟩
    exacts [.inl h, .inr (.inr ⟨k, t, token, _, .inr ⟨res, rfl, rfl⟩, ht, htok, he, hw'⟩)]
  | initializeContract admin token b =>
    exact .inl (initializeContract_clean env admin token b _ _ _ (bind_pure_eq_error.1 h))
  | registerArbitrator a => exact .inl (adminWrite_clean env _ _ _ _ _ (bind_pure_eq_error.1 h))
  | removeArbitratorFn a => exact .inl (adminWrite_clean env _ _ _ _ _ (bind_pure_eq_error.1 h))
  | updateFee b => exact .inl (updateFee_clean env b _ _ _ (bind_pure_eq_error.1 h))
  | withdrawFees toAddr => exact .inl (withdrawFees_clean env toAddr _ _ _ (bind_pure_eq_error.1 h))
  | fundTrade k => exact .inl (fundTrade_clean env k _ _ _ (bind_pure_eq_error.1 h))
  | completeTrade k => exact .inl (sellerTransition_clean env k _ _ _ _ _ _ (bind_pure_eq_error.1 h))
  | raiseDispute k => exact .inl (raiseDispute_clean env k _ _ _ (bind_pure_eq_error.1 h))
  | cancelTrade k => exact .inl (sellerTransition_clean env k _ _ _ _ _ _ (bind_pure_eq_error.1 h))

/-! ## Main results -/

/-- From a fresh contract, `initialize` and then a `create_trade` whose fee
product overflows: the body fails with `Overflow` after it has stored the
incremented counter. -/
theorem create_trade_overflow_writes :
    ¬ ∀ (w : World), Reachable w → ∀ (env : Env) (op : Op) (e : Fault) (w' : World),
      op.body env w = (.error e, w') → w'.storage = w.storage ∧ w'.ledger = w.ledger := fun h => by
  let w₁ := final ⟨⟨2⟩, .empty, fun _ _ => 0, []⟩ [⟨⟨⟨0⟩, [⟨0⟩]⟩, .initializeContract ⟨0⟩ ⟨1⟩ 250⟩]
  let env : Env := ⟨⟨3⟩, [⟨3⟩]⟩
  let op : Op := .createTrade ⟨3⟩ ⟨4⟩ 18446744073709551615 none
  have hs := (h w₁ ((Reachable.fresh rfl).final _) env op (.contract .overflow) (op.body env w₁).2
    (Prod.ext rfl rfl)).1
  exact absurd (congrArg Storage.tradeCounter hs) (by decide)

/-- **Failure.** A call that fails leaves the world as it was: the host
rolls it back. Without the rollback, from a reachable world, a body that
fails leaves the world as it found it (storage, ledgers and events), but
for two paths, both ending in `Overflow`: `create_trade` leaves the trade
counter incremented (and nothing else changed) when the fee product
overflows, and `confirm_receipt` or `resolve_dispute` leaves `amount - fee`
of the stored token paid from the contract to the seller, or to the
recipient the resolution names, when the fee accrual overflows. -/
theorem failure_effects :
    (∀ (c : Call) (w : World) (e : Fault), (c.run w).1 = .error e → (c.run w).2 = w) ∧
    ∀ {w : World}, Reachable w → ∀ (env : Env) (op : Op) (e : Fault) (w' : World),
      op.body env w = (.error e, w') →
        w' = w ∨
        ((∃ seller buyer amount arb, op = .createTrade seller buyer amount arb) ∧
          e = .contract .overflow ∧ ∃ n r : U64, w.storage.tradeCounter = some n ∧
            r.val = n.val + 1 ∧ w' = { w with storage := w.storage.setTradeCounter r }) ∨
        (∃ k t token dst, ((op = .confirmReceipt k ∧ dst = t.seller) ∨
            ∃ res, op = .resolveDispute k res ∧ dst = res.recipient t) ∧
          w.storage.trades k = some t ∧ w.storage.usdcToken = some token ∧ e = .contract .overflow ∧
          w' = { w with ledger := move w.ledger token w.contract dst (t.amount.val - t.fee.val) }) := by
  refine ⟨fun c w e he => ?_, fun hw _ _ _ _ h => body_error (reachable_configOk hw) h⟩
  rcases c.run_cases w with ⟨h, -⟩ | ⟨v, hv, -⟩
  · exact h
  · rw [hv] at he; cases he

end StellarEscrow
