/-
What a successful call does to the stored trades, said once: nothing;
`create_trade` stores a new trade under the next id; or one of the four
status-changing functions rewrites the status of the trade under its
argument, by a step of the lifecycle (the spec's table, section 4.1) and
after the checks that function makes of the caller. Every invariant about
trades is derived from `body_trades`.

The settling functions, `confirm_receipt` and `resolve_dispute`, are not
lifecycle steps: they store no status at all, which is why a settled trade
stays `Completed` or `Disputed`.
-/
import StellarEscrow.Config

namespace StellarEscrow

open Exec

/-- The status changes the contract makes, each by the call that makes it. -/
inductive Lifecycle : Op → U64 → TradeStatus → TradeStatus → Prop
  | fund (k : U64) : Lifecycle (.fundTrade k) k .created .funded
  | cancel (k : U64) : Lifecycle (.cancelTrade k) k .created .cancelled
  | complete (k : U64) : Lifecycle (.completeTrade k) k .funded .completed
  | disputeFunded (k : U64) : Lifecycle (.raiseDispute k) k .funded .disputed
  | disputeCompleted (k : U64) : Lifecycle (.raiseDispute k) k .completed .disputed

namespace Lifecycle

variable {op : Op} {k : U64} {a b : TradeStatus}

theorem target_ne_created (h : Lifecycle op k a b) : b ≠ .created := by
  cases h <;> simp

theorem source_ne_cancelled (h : Lifecycle op k a b) : a ≠ .cancelled := by
  cases h <;> simp

theorem op_of_disputed (h : Lifecycle op k a .disputed) : op = .raiseDispute k := by
  cases h <;> rfl

theorem op_cases (h : Lifecycle op k a b) :
    op = .fundTrade k ∨ op = .completeTrade k ∨ op = .raiseDispute k ∨ op = .cancelTrade k := by
  cases h <;> simp

end Lifecycle

/-- What a status-changing call checked of its caller, and `raise_dispute`
of the trade's arbitrator. -/
def StatusCheck (env : Env) (w : World) (t : Trade) : Op → Prop
  | .fundTrade _ => Authorizes env w t.buyer
  | .completeTrade _ | .cancelTrade _ => Authorizes env w t.seller
  | .raiseDispute _ => t.arbitrator.isSome ∧ (env.invoker = t.buyer ∨ env.invoker = t.seller) ∧
      Authorizes env w env.invoker
  | _ => False

/-- The last trade id issued, `0` before the counter is set. -/
def tradeCount (s : Storage) : Nat := (s.tradeCounter.map Fin.val).getD 0

@[simp] theorem tradeCount_some {s : Storage} {n : U64} (h : s.tradeCounter = some n) :
    tradeCount s = n.val := by
  simp [tradeCount, h]

/-- `create_trade`'s new record: the next id, the caller's terms, the fee at
the rate in force. -/
structure NewTrade (env : Env) (w w' : World) (r : U64) (t : Trade) : Prop where
  id : t.id = r
  next : r.val = tradeCount w.storage + 1
  count : w'.storage.tradeCounter = some r
  status : t.status = .created
  amount : t.amount.val ≠ 0
  fee : ∃ b, w.storage.feeBps = some b ∧ t.amount.val * b.val < 2 ^ 64 ∧ t.fee.val = feeOf t.amount b
  arbitrator : ∀ a, t.arbitrator = some a → w.storage.arbitrators a = true
  seller : Authorizes env w t.seller

/-- **What a successful call does to the trades.** -/
theorem body_trades {env : Env} {op : Op} {w w' : World} {v : Option U64}
    (hc : ConfigOk w.storage) (h : op.body env w = (.ok v, w')) :
    (v = none ∧ w'.storage.trades = w.storage.trades ∧
      tradeCount w'.storage = tradeCount w.storage ∧
      ∀ k, op ≠ .fundTrade k ∧ op ≠ .completeTrade k ∧ op ≠ .raiseDispute k ∧ op ≠ .cancelTrade k) ∨
    (∃ r t, v = some r ∧ op = .createTrade t.seller t.buyer t.amount t.arbitrator ∧
      NewTrade env w w' r t ∧ w'.storage.trades = Function.update w.storage.trades r (some t)) ∨
    (∃ k t s, v = none ∧ w.storage.trades k = some t ∧ Lifecycle op k t.status s ∧
      StatusCheck env w t op ∧ tradeCount w'.storage = tradeCount w.storage ∧
      w'.storage.trades = Function.update w.storage.trades k (some { t with status := s })) := by
  cases body_ok h with
  | createTrade _ ha hs harb hn hr hb hlt hfee =>
    exact .inr (.inl ⟨_, _, rfl, rfl, ⟨rfl, by simp [hn, hr], rfl, rfl, ha, ⟨_, hb, hlt, hfee⟩, harb,
      hs⟩, rfl⟩)
  | initializeContract hi =>
    have : w.storage = .empty := hc.resolve_right fun h' => by simp [h'.initialized] at hi
    exact .inl ⟨rfl, rfl, by simp [tradeCount, this, Storage.empty], by simp⟩
  | registerArbitrator | removeArbitratorFn | updateFee | withdrawFees =>
    exact .inl ⟨rfl, rfl, rfl, by simp⟩
  | confirmReceipt | resolveDispute => exact .inl ⟨rfl, rfl, by simp [tradeCount], by simp⟩
  | fundTrade _ ht hs ha => exact .inr (.inr ⟨_, _, _, rfl, ht, hs ▸ .fund _, ha, rfl, rfl⟩)
  | completeTrade _ ht hs ha => exact .inr (.inr ⟨_, _, _, rfl, ht, hs ▸ .complete _, ha, rfl, rfl⟩)
  | cancelTrade _ ht hs ha => exact .inr (.inr ⟨_, _, _, rfl, ht, hs ▸ .cancel _, ha, rfl, rfl⟩)
  | raiseDispute _ ht hs harb hinv ha =>
    refine .inr (.inr ⟨_, _, _, rfl, ht, ?_, ⟨harb, hinv, ha⟩, rfl, rfl⟩)
    rcases hs with hs | hs <;> rw [hs]
    exacts [.disputeFunded _, .disputeCompleted _]

end StellarEscrow
