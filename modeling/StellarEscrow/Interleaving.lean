/-
Calls on different trades, in either order. The host serves the callers'
invocations one at a time, in an order none of them controls. What a
successful call on a trade does is an `Effect`: the record it writes, under
the trade's own key; the one token transfer it makes; the fee it adds to the
accumulated fees; and its event. `body_effect` reads the effect off the
code, and it depends on the world only through the trade's record, the
stored token and the contract's address.

Two calls on different trades therefore see the same records whichever runs
first, and their effects commute: the records are under different keys, the
accruals are additions, and each transfer is covered by its source's balance
in both orders. So when both orders succeed they leave the same storage and
the same ledger, and publish the same two events (`trade_calls_commute`):
no call on one trade loses or alters another trade's update.
-/
import StellarEscrow.History

namespace StellarEscrow

open Exec

/-- What a successful call on a trade does: the record it writes, the
transfer it makes (token, from, to, amount), the fee it accrues and the
event it publishes. -/
structure Effect where
  write : Option (U64 × Trade)
  pay : Option (Address × Address × Address × Nat)
  accrue : Option U64
  event : Event

namespace Effect

/-- The trade map after the effect's write. -/
def trades (e : Effect) (ts : U64 → Option Trade) : U64 → Option Trade :=
  match e.write with
  | some (k, t) => Function.update ts k (some t)
  | none => ts

/-- The accumulated fees after the effect's accrual. -/
def fees (e : Effect) (f : Option U64) : Option U64 :=
  match e.accrue with
  | some x => f.map (· + x)
  | none => f

/-- The ledger after the effect's transfer. -/
def ledger (e : Effect) (l : Address → Address → Nat) : Address → Address → Nat :=
  match e.pay with
  | some (tok, src, dst, n) => move l tok src dst n
  | none => l

/-- The world after the effect. -/
def apply (e : Effect) (w : World) : World :=
  { w with
    storage := { w.storage with trades := e.trades w.storage.trades,
                                accumulatedFees := e.fees w.storage.accumulatedFees }
    ledger := e.ledger w.ledger
    events := w.events ++ [e.event] }

/-- The effect writes no record but under `k`. -/
def Writes (e : Effect) (k : U64) : Prop := ∀ k' t, e.write = some (k', t) → k' = k

/-- The source of the effect's transfer holds the amount in `l`. -/
def Covered (e : Effect) (l : Address → Address → Nat) : Prop :=
  ∀ tok src dst n, e.pay = some (tok, src, dst, n) → n ≤ l tok src

@[simp] theorem apply_contract (e : Effect) (w : World) : (e.apply w).contract = w.contract := rfl

@[simp] theorem apply_usdcToken (e : Effect) (w : World) :
    (e.apply w).storage.usdcToken = w.storage.usdcToken := rfl

@[simp] theorem apply_trades (e : Effect) (w : World) :
    (e.apply w).storage.trades = e.trades w.storage.trades := rfl

theorem trades_other {e : Effect} {k k' : U64} (he : e.Writes k) (hne : k' ≠ k)
    (ts : U64 → Option Trade) : e.trades ts k' = ts k' := by
  obtain ⟨_ | ⟨k₀, t⟩, _, _, _⟩ := e
  · rfl
  · exact Function.update_noteq (he k₀ t rfl ▸ hne) _ _

end Effect

/-- The effect of a successful call on a trade, from the trade's record `t`,
the stored token and the contract's address: `fund_trade` pays the amount in
and marks the trade `Funded`; `complete_trade`, `cancel_trade` and
`raise_dispute` rewrite its status; `confirm_receipt` and `resolve_dispute`
pay `amount - fee` out and accrue the fee. -/
def Op.effect (env : Env) (contract : Address) (token : Option Address) (t : Trade) :
    Op → Option Effect
  | .fundTrade k => token.map fun tok =>
      ⟨some (k, { t with status := .funded }), some (tok, t.buyer, contract, t.amount.val), none,
        .tradeFunded k⟩
  | .completeTrade k => some ⟨some (k, { t with status := .completed }), none, none, .tradeCompleted k⟩
  | .cancelTrade k => some ⟨some (k, { t with status := .cancelled }), none, none, .tradeCancelled k⟩
  | .raiseDispute k =>
      some ⟨some (k, { t with status := .disputed }), none, none, .disputeRaised k env.invoker⟩
  | .confirmReceipt k => token.map fun tok =>
      ⟨none, some (tok, contract, t.seller, (t.amount - t.fee).val), some t.fee,
        .tradeConfirmed k (t.amount - t.fee) t.fee⟩
  | .resolveDispute k res => token.map fun tok =>
      ⟨none, some (tok, contract, res.recipient t, (t.amount - t.fee).val), some t.fee,
        .disputeResolved k res (res.recipient t)⟩
  | _ => none

/-- A `checked_add` that succeeds answers the plain sum. -/
theorem checkedAdd_eq_add {a b c : U64} (h : checkedAdd a b = some c) : c = a + b := by
  obtain ⟨hlt, hc⟩ := checkedAdd_eq_some.1 h
  exact Fin.ext (by rw [hc, Fin.val_add, Nat.mod_eq_of_lt hlt])

/-- A settlement's world is its effect's. -/
theorem payOut_apply {w : World} {token rcpt : Address} {p acc f : U64} {ev : Event}
    (hacc : w.storage.accumulatedFees = some acc) :
    { w with ledger := move w.ledger token w.contract rcpt p.val,
             storage := w.storage.setAccumulatedFees (acc + f), events := w.events ++ [ev] } =
      Effect.apply ⟨none, some (token, w.contract, rcpt, p.val), some f, ev⟩ w := by
  simp only [Effect.apply, Effect.trades, Effect.fees, Effect.ledger, hacc, Option.map_some',
    Storage.setAccumulatedFees]

/-- **The effect of a successful call on a trade**, read off the code: it
is the call's `Op.effect` at the trade's record, it writes only that
record, and its transfer was covered. -/
theorem body_effect {env : Env} {op : Op} {w w' : World} {v : Option U64} {k : U64}
    (hk : op.tradeId = some k) (h : op.body env w = (.ok v, w')) :
    ∃ t e, w.storage.trades k = some t ∧ op.effect env w.contract w.storage.usdcToken t = some e ∧
      w' = e.apply w ∧ e.Writes k ∧ e.Covered w.ledger := by
  cases body_ok h with
  | fundTrade _ ht _ _ htok hle =>
    cases hk
    rw [htok]
    refine ⟨_, _, ht, rfl, rfl, ?_, ?_⟩
    · intro _ _ h; cases h; rfl
    · intro _ _ _ _ h; cases h; exact hle
  | completeTrade _ ht | cancelTrade _ ht | raiseDispute _ ht =>
    cases hk
    refine ⟨_, _, ht, rfl, rfl, ?_, ?_⟩
    · intro _ _ h; cases h; rfl
    · intro _ _ _ _ h; cases h
  | confirmReceipt _ ht _ _ htok hp hle hacc hfees | resolveDispute _ ht _ _ _ htok hp hle hacc hfees =>
    cases hk
    obtain rfl := checkedSub_eq_sub hp
    obtain rfl := checkedAdd_eq_add hfees
    rw [htok]
    refine ⟨_, _, ht, rfl, payOut_apply hacc, ?_, ?_⟩
    · intro _ _ h; cases h
    · intro _ _ _ _ h; cases h; exact hle
  | _ => cases hk

/-- The same of an invocation that returns `Ok`. -/
theorem Call.run_effect {c : Call} {w : World} {k : U64} (hk : c.op.tradeId = some k)
    (hok : (c.run w).1.isOk) :
    ∃ t e, w.storage.trades k = some t ∧ c.op.effect c.env w.contract w.storage.usdcToken t = some e ∧
      (c.run w).2 = e.apply w ∧ e.Writes k ∧ e.Covered w.ledger := by
  rcases c.run_cases w with ⟨-, e, he⟩ | ⟨v, -, h⟩
  · rw [he] at hok; cases hok
  · exact body_effect hk h

/-! ## Two effects -/

/-- The ledger after a transfer, at every token and holder: the amount
leaves the source and reaches the destination. -/
theorem move_apply (l : Address → Address → Nat) (token src dst : Address) (n : Nat) (tok a : Address) :
    move l token src dst n tok a =
      l tok a - (if tok = token ∧ a = src then n else 0) + (if tok = token ∧ a = dst then n else 0) := by
  unfold move
  by_cases ht : tok = token
  · simp only [ht, true_and, if_true]
    split_ifs <;> omega
  · simp only [ht, false_and, if_false]
    omega

theorem move_out_le {L : Address → Address → Nat} {tok₀ a₀ : Address} {n : Nat} (h : n ≤ L tok₀ a₀)
    (tok a : Address) : (if tok = tok₀ ∧ a = a₀ then n else 0) ≤ L tok a := by
  split_ifs with hc
  · obtain ⟨rfl, rfl⟩ := hc; exact h
  · exact Nat.zero_le _

/-- Two transfers commute when each source holds its amount in both
orders: no balance is cut at zero either way. -/
theorem move_comm (l : Address → Address → Nat) {t₁ a₁ b₁ t₂ a₂ b₂ : Address} {n₁ n₂ : Nat}
    (h₁ : n₁ ≤ l t₁ a₁) (h₂ : n₂ ≤ move l t₁ a₁ b₁ n₁ t₂ a₂)
    (h₃ : n₂ ≤ l t₂ a₂) (h₄ : n₁ ≤ move l t₂ a₂ b₂ n₂ t₁ a₁) :
    move (move l t₁ a₁ b₁ n₁) t₂ a₂ b₂ n₂ = move (move l t₂ a₂ b₂ n₂) t₁ a₁ b₁ n₁ := by
  funext tok a
  have f₁ := move_out_le h₁ tok a
  have f₂ := move_out_le h₂ tok a
  have f₃ := move_out_le h₃ tok a
  have f₄ := move_out_le h₄ tok a
  simp only [move_apply] at f₂ f₄ ⊢
  omega

namespace Effect

variable {e₁ e₂ : Effect} {k₁ k₂ : U64}

theorem trades_comm (h₁ : e₁.Writes k₁) (h₂ : e₂.Writes k₂) (hne : k₁ ≠ k₂) (ts : U64 → Option Trade) :
    e₂.trades (e₁.trades ts) = e₁.trades (e₂.trades ts) := by
  obtain ⟨_ | ⟨k, t⟩, _, _, _⟩ := e₁ <;> obtain ⟨_ | ⟨k', t'⟩, _, _, _⟩ := e₂ <;> try rfl
  simp only [trades]
  rw [h₁ k t rfl, h₂ k' t' rfl]
  exact Function.update_comm hne _ _ _

theorem fees_comm (f : Option U64) : e₂.fees (e₁.fees f) = e₁.fees (e₂.fees f) := by
  obtain ⟨_, _, _ | x, _⟩ := e₁ <;> obtain ⟨_, _, _ | y, _⟩ := e₂ <;> try rfl
  simp only [fees, Option.map_map]
  congr 1
  funext z
  apply Fin.ext
  simp only [Function.comp_apply, Fin.val_add, Nat.mod_add_mod, Nat.add_right_comm]

theorem ledger_comm {l : Address → Address → Nat} (h₁ : e₁.Covered l) (h₂ : e₂.Covered (e₁.ledger l))
    (h₃ : e₂.Covered l) (h₄ : e₁.Covered (e₂.ledger l)) :
    e₂.ledger (e₁.ledger l) = e₁.ledger (e₂.ledger l) := by
  obtain ⟨_, _ | ⟨tok, src, dst, n⟩, _, _⟩ := e₁ <;>
    obtain ⟨_, _ | ⟨tok', src', dst', n'⟩, _, _⟩ := e₂ <;> try rfl
  exact move_comm l (h₁ _ _ _ _ rfl) (h₂ _ _ _ _ rfl) (h₃ _ _ _ _ rfl) (h₄ _ _ _ _ rfl)

/-- Two effects on different trades commute when each transfer is covered
in both orders: the same storage and ledger either way, and the same two
events. -/
theorem apply_comm (h₁ : e₁.Writes k₁) (h₂ : e₂.Writes k₂) (hne : k₁ ≠ k₂) {w : World}
    (hc₁ : e₁.Covered w.ledger) (hc₂ : e₂.Covered (e₁.apply w).ledger)
    (hc₃ : e₂.Covered w.ledger) (hc₄ : e₁.Covered (e₂.apply w).ledger) :
    (e₂.apply (e₁.apply w)).storage = (e₁.apply (e₂.apply w)).storage ∧
      (e₂.apply (e₁.apply w)).ledger = (e₁.apply (e₂.apply w)).ledger ∧
      (e₂.apply (e₁.apply w)).events.Perm (e₁.apply (e₂.apply w)).events := by
  refine ⟨?_, ledger_comm hc₁ hc₂ hc₃ hc₄, ?_⟩
  · simp only [apply, trades_comm h₁ h₂ hne, fees_comm]
  · simp only [apply, List.append_assoc, List.singleton_append]
    exact (List.Perm.swap _ _ []).append_left _

end Effect

/-! ## Main results -/

/-- **Calls on different trades commute.** From every world, when two calls
on different trades succeed in both orders, the two orders end with the same
storage and the same ledger, and publish the same two events: what one
party's call does to its trade, the other's does not change, whichever the
host runs first. -/
theorem trade_calls_commute {c₁ c₂ : Call} {k₁ k₂ : U64} (hk₁ : c₁.op.tradeId = some k₁)
    (hk₂ : c₂.op.tradeId = some k₂) (hne : k₁ ≠ k₂) (w : World)
    (h₁₂ : ∀ st ∈ trace w [c₁, c₂], st.ok) (h₂₁ : ∀ st ∈ trace w [c₂, c₁], st.ok) :
    (final w [c₁, c₂]).storage = (final w [c₂, c₁]).storage ∧
      (final w [c₁, c₂]).ledger = (final w [c₂, c₁]).ledger ∧
      (final w [c₁, c₂]).events.Perm (final w [c₂, c₁]).events := by
  simp only [trace_cons, trace_nil, List.forall_mem_cons] at h₁₂ h₂₁
  obtain ⟨t₁, e₁, ht₁, he₁, hw₁, hW₁, hC₁⟩ := Call.run_effect hk₁ h₁₂.1
  obtain ⟨t₂, e₂, ht₂, he₂, hw₂, hW₂, hC₂⟩ := Call.run_effect hk₂ h₂₁.1
  obtain ⟨t₂', e₂', ht₂', he₂', hw₂', -, hC₂'⟩ := Call.run_effect hk₂ h₁₂.2.1
  obtain ⟨t₁', e₁', ht₁', he₁', hw₁', -, hC₁'⟩ := Call.run_effect hk₁ h₂₁.2.1
  rw [hw₁] at ht₂' he₂' hw₂' hC₂'
  rw [hw₂] at ht₁' he₁' hw₁' hC₁'
  rw [Effect.apply_trades, Effect.trades_other hW₁ hne.symm, ht₂, Option.some_inj] at ht₂'
  rw [Effect.apply_trades, Effect.trades_other hW₂ hne, ht₁, Option.some_inj] at ht₁'
  subst ht₂' ht₁'
  simp only [Effect.apply_contract, Effect.apply_usdcToken, he₂, he₁, Option.some.injEq] at he₂' he₁'
  subst he₂' he₁'
  simp only [final_cons, final_nil, hw₁, hw₂, hw₂', hw₁']
  exact Effect.apply_comm hW₁ hW₂ hne hC₁ hC₂' hC₂ hC₁'

theorem trade_calls_commute_settle_fund :
    let w := final ⟨⟨2⟩, .empty, fun tok a => if tok = ⟨1⟩ ∧ (a = ⟨4⟩ ∨ a = ⟨6⟩) then 10000 else 0, []⟩
      [⟨⟨⟨0⟩, [⟨0⟩]⟩, .initializeContract ⟨0⟩ ⟨1⟩ 250⟩,
       ⟨⟨⟨3⟩, [⟨3⟩]⟩, .createTrade ⟨3⟩ ⟨4⟩ 10000 none⟩,
       ⟨⟨⟨5⟩, [⟨5⟩]⟩, .createTrade ⟨5⟩ ⟨6⟩ 10000 none⟩,
       ⟨⟨⟨4⟩, [⟨4⟩]⟩, .fundTrade 1⟩,
       ⟨⟨⟨3⟩, [⟨3⟩]⟩, .completeTrade 1⟩]
    let c₁ : Call := ⟨⟨⟨4⟩, [⟨4⟩]⟩, .confirmReceipt 1⟩
    let c₂ : Call := ⟨⟨⟨6⟩, [⟨6⟩]⟩, .fundTrade 2⟩
    c₁.op.tradeId = some 1 ∧ c₂.op.tradeId = some 2 ∧ (1 : U64) ≠ 2 ∧
      (∀ st ∈ trace w [c₁, c₂], st.ok) ∧ (∀ st ∈ trace w [c₂, c₁], st.ok) ∧
      (final w [c₁, c₂]).storage = (final w [c₂, c₁]).storage ∧
      (final w [c₁, c₂]).ledger = (final w [c₂, c₁]).ledger ∧
      (final w [c₁, c₂]).events.Perm (final w [c₂, c₁]).events := by
  intro w c₁ c₂
  exact ⟨rfl, rfl, by decide, by decide, by decide,
    @trade_calls_commute c₁ c₂ 1 2 rfl rfl (by decide) w (by decide) (by decide)⟩

end StellarEscrow
