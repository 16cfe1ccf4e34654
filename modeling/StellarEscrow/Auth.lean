/-
Authorization. Each token move the contract makes, each status change and
each change of the admin's keys comes after the `require_auth` of the party
with that role: the buyer pays in and releases to the seller, the trade's
arbitrator releases to either party, the seller completes or cancels, a
party raises a dispute, and the admin sets the rate, the registry and
withdraws the fees. `require_auth(a)` is read as `a` having signed the call
(`Authorizes`), judged in the world before it.
-/
import StellarEscrow.Records

namespace StellarEscrow

open Exec

/-- The token moves the contract makes, each from the account it debits to
the one it credits, with the authorization checked before it. -/
inductive Transfer (env : Env) (w : World) : Op → Address → Address → Prop
  | fund {k : U64} {t : Trade} : w.storage.trades k = some t → Authorizes env w t.buyer →
      Transfer env w (.fundTrade k) t.buyer w.contract
  | confirm {k : U64} {t : Trade} : w.storage.trades k = some t → Authorizes env w t.buyer →
      Transfer env w (.confirmReceipt k) w.contract t.seller
  | resolve {k : U64} {res : DisputeResolution} {t : Trade} {a : Address} :
      w.storage.trades k = some t → t.arbitrator = some a → Authorizes env w a →
      Transfer env w (.resolveDispute k res) w.contract (res.recipient t)
  | withdraw {toAddr a : Address} : w.storage.admin = some a → Authorizes env w a →
      Transfer env w (.withdrawFees toAddr) w.contract toAddr

/-- A call that settles a trade: pays it out and accrues its fee. -/
def Op.isSettlement : Op → Bool
  | .confirmReceipt _ | .resolveDispute _ _ => true
  | _ => false

theorem DisputeResolution.recipient_mem (res : DisputeResolution) (t : Trade) :
    res.recipient t = t.buyer ∨ res.recipient t = t.seller := by
  cases res
  exacts [.inl rfl, .inr rfl]

/-- A move lowers only the balance it debits. -/
theorem move_lt {l : Address → Address → Nat} {token src dst tok a : Address} {n : Nat}
    (h : move l token src dst n tok a < l tok a) : tok = token ∧ a = src := by
  unfold move at h
  by_cases ht : tok = token
  · by_cases ha : a = src
    · exact ⟨ht, ha⟩
    · simp only [ht, ha, if_true, if_false] at h
      split at h <;> omega
  · simp [ht] at h

/-- Every account a transfer debits is the contract's, or a funding buyer's
who signed. -/
theorem Transfer.src_cases {env : Env} {w : World} {op : Op} {src dst : Address}
    (h : Transfer env w op src dst) : src = w.contract ∨
      ∃ k t, op = .fundTrade k ∧ w.storage.trades k = some t ∧ src = t.buyer ∧
        Authorizes env w t.buyer := by
  cases h with
  | fund ht ha => exact .inr ⟨_, _, rfl, ht, rfl, ha⟩
  | _ => exact .inl rfl

/-- The settlement `op` of a stored trade raised the accumulated fees by
exactly that trade's fee. -/
def Accrues (w w' : World) (op : Op) : Prop :=
  ∃ k t acc, (op = .confirmReceipt k ∨ ∃ res, op = .resolveDispute k res) ∧
    w.storage.trades k = some t ∧ w.storage.accumulatedFees = some acc ∧
    w'.storage.accumulatedFees = checkedAdd acc t.fee

/-- The admin's keys are unchanged, but for a settlement's accrual of its
trade's fee; or the stored admin signed. -/
def AdminKeys (env : Env) (w w' : World) (op : Op) : Prop :=
  (w'.storage.feeBps = w.storage.feeBps ∧ w'.storage.arbitrators = w.storage.arbitrators ∧
      (w'.storage.accumulatedFees = w.storage.accumulatedFees ∨ Accrues w w' op)) ∨
    ∃ a, w'.storage.admin = some a ∧ Authorizes env w a

/-- The ledger is unchanged, or moved by a `Transfer`. -/
def LedgerMove (env : Env) (w w' : World) (op : Op) : Prop :=
  w'.ledger = w.ledger ∨
    ∃ token src dst n, Transfer env w op src dst ∧ w'.ledger = move w.ledger token src dst n

/-- **What a successful call moves, and what it changes of the admin's keys.** -/
theorem body_authorized {env : Env} {op : Op} {w w' : World} {v : Option U64}
    (h : op.body env w = (.ok v, w')) : LedgerMove env w w' op ∧ AdminKeys env w w' op := by
  cases body_ok h with
  | initializeContract _ _ ha => exact ⟨.inl rfl, .inr ⟨_, rfl, ha⟩⟩
  | registerArbitrator _ hadm ha | removeArbitratorFn _ hadm ha | updateFee _ _ hadm ha =>
    exact ⟨.inl rfl, .inr ⟨_, hadm, ha⟩⟩
  | withdrawFees _ hadm ha =>
    exact ⟨.inr ⟨_, _, _, _, .withdraw hadm ha, rfl⟩, .inr ⟨_, hadm, ha⟩⟩
  | createTrade | completeTrade | raiseDispute | cancelTrade =>
    exact ⟨.inl rfl, .inl ⟨rfl, rfl, .inl rfl⟩⟩
  | fundTrade _ ht _ ha => exact ⟨.inr ⟨_, _, _, _, .fund ht ha, rfl⟩, .inl ⟨rfl, rfl, .inl rfl⟩⟩
  | @confirmReceipt k t _ _ acc _ _ ht _ ha _ _ _ hacc hfees =>
    exact ⟨.inr ⟨_, _, _, _, .confirm ht ha, rfl⟩,
      .inl ⟨rfl, rfl, .inr ⟨k, t, acc, .inl rfl, ht, hacc, hfees.symm⟩⟩⟩
  | @resolveDispute k res t _ _ _ acc _ _ ht _ harb ha _ _ _ hacc hfees =>
    exact ⟨.inr ⟨_, _, _, _, .resolve ht harb ha, rfl⟩,
      .inl ⟨rfl, rfl, .inr ⟨k, t, acc, .inr ⟨res, rfl⟩, ht, hacc, hfees.symm⟩⟩⟩

/-- The same of a whole call: a failed one changes nothing. -/
theorem run_authorized (c : Call) (w : World) :
    LedgerMove c.env w (c.run w).2 c.op ∧ AdminKeys c.env w (c.run w).2 c.op := by
  rcases c.run_cases w with ⟨h, -⟩ | ⟨v, -, h⟩
  · rw [h]; exact ⟨.inl rfl, .inl ⟨rfl, rfl, .inl rfl⟩⟩
  · exact body_authorized h

/-- A balance falls only by a `Transfer`'s debit. -/
theorem LedgerMove.debit {env : Env} {w w' : World} {op : Op} (h : LedgerMove env w w' op)
    {token a : Address} (hlt : w'.ledger token a < w.ledger token a) : a = w.contract ∨
      ∃ k t, op = .fundTrade k ∧ w.storage.trades k = some t ∧ a = t.buyer ∧
        Authorizes env w t.buyer := by
  rcases h with h | ⟨tok, src, dst, n, htr, h⟩
  · rw [h] at hlt; exact absurd hlt (Nat.lt_irrefl _)
  · rw [h] at hlt
    obtain ⟨-, rfl⟩ := move_lt hlt
    exact htr.src_cases

/-! ## Main results -/

/-- **Authorization.** From a reachable world, every call either leaves the
token ledgers as they were or makes one `Transfer`: the buyer's payment into
escrow, signed by the buyer; a release to the seller, signed by the buyer; a
release to the buyer or the seller, signed by the arbitrator the trade
names; or a withdrawal of fees to any address, signed by the stored admin.
So a balance other than the contract's falls only by a buyer's signed
payment. A status changes only with the signature `StatusCheck` names
(buyer for `fund_trade`, seller for `complete_trade` and `cancel_trade`,
buyer or seller as invoker for `raise_dispute`), and the fee rate, the
arbitrator registry and the accumulated fees change only with the signature
of the admin then stored, but for a settlement's accrual, which raises the
accumulated fees by exactly the settled trade's fee (`Accrues`). -/
theorem authorized_effects :
    ∀ {w : World}, Reachable w → ∀ c : Call,
      LedgerMove c.env w (c.run w).2 c.op ∧
      (∀ token a, (c.run w).2.ledger token a < w.ledger token a → a = w.contract ∨
        ∃ k t, c.op = .fundTrade k ∧ w.storage.trades k = some t ∧ a = t.buyer ∧
          Authorizes c.env w t.buyer) ∧
      (∀ k t t', w.storage.trades k = some t → (c.run w).2.storage.trades k = some t' →
        t'.status ≠ t.status → StatusCheck c.env w t c.op) ∧
      AdminKeys c.env w (c.run w).2 c.op := by
  intro w hw c
  obtain ⟨hl, ha⟩ := run_authorized c w
  refine ⟨hl, fun _ _ hlt => hl.debit hlt, fun k t t' ht ht' hne => ?_, ha⟩
  obtain ⟨t'', ht'', -, hs⟩ := trade_step (c := c) hw ht
  rw [ht'] at ht''; cases ht''
  exact (hs.resolve_left hne).2

theorem authorized_effects_settlement :
    let w : World := final ⟨⟨2⟩, .empty, fun tok a => if tok = ⟨1⟩ ∧ a = ⟨4⟩ then 10000 else 0, []⟩
      [⟨⟨⟨0⟩, [⟨0⟩]⟩, .initializeContract ⟨0⟩ ⟨1⟩ 250⟩,
       ⟨⟨⟨3⟩, [⟨3⟩]⟩, .createTrade ⟨3⟩ ⟨4⟩ 10000 none⟩,
       ⟨⟨⟨4⟩, [⟨4⟩]⟩, .fundTrade 1⟩,
       ⟨⟨⟨3⟩, [⟨3⟩]⟩, .completeTrade 1⟩]
    let c : Call := ⟨⟨⟨4⟩, [⟨4⟩]⟩, .confirmReceipt 1⟩
    Reachable w ∧ LedgerMove c.env w (c.run w).2 c.op ∧
      (∀ token a, (c.run w).2.ledger token a < w.ledger token a → a = w.contract ∨
        ∃ k t, c.op = .fundTrade k ∧ w.storage.trades k = some t ∧ a = t.buyer ∧
          Authorizes c.env w t.buyer) ∧
      (∀ k t t', w.storage.trades k = some t → (c.run w).2.storage.trades k = some t' →
        t'.status ≠ t.status → StatusCheck c.env w t c.op) ∧
      AdminKeys c.env w (c.run w).2 c.op := by
  intro w c
  have hw : Reachable w := (Reachable.fresh rfl).final _
  exact ⟨hw, authorized_effects hw c⟩

end StellarEscrow
