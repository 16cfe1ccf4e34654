/-
Escrow is never locked while the contract holds it. The parties whose
signatures a trade's calls need are accounts, never the contract itself
(`PartiesOk`): its seller signed `create_trade` and, once it is paid in, its
buyer signed `fund_trade`. So from every reachable world in which the
contract's balance covers what it owes (`Solvent`, the invariant of
`solvent_of_settled_once`), a trade paid in and not yet settled can be
released by its own parties, with no one else's help: the seller completes
it if it is still `Funded` and the buyer confirms receipt, or, once it is
disputed, the arbitrator it names resolves it. Each of these calls succeeds
(`Payable.complete`, `Payable.confirm`, `Payable.resolve`) and the payee
receives `amount - fee`, as long as the accrued fees have room for the fee.

The release needs those parties. A funded trade that names no arbitrator has
no refund and no timeout: while its seller signs nothing, every call on it
fails and its record stays as it is (`unarbitrated_trade_frozen`).
-/
import StellarEscrow.Solvency
import StellarEscrow.Enabled

namespace StellarEscrow

open Exec

/-! ## The parties are accounts -/

/-- A successful body leaves the contract's address as it was. -/
theorem body_contract {env : Env} {op : Op} {w w' : World} {v : Option U64}
    (h : op.body env w = (.ok v, w')) : w'.contract = w.contract := by
  cases body_ok h <;> rfl

theorem Call.run_contract (c : Call) (w : World) : (c.run w).2.contract = w.contract := by
  rcases c.run_cases w with ⟨h, -⟩ | ⟨v, -, h⟩
  · rw [h]
  · exact body_contract h

/-- The host commits what the body returned. -/
theorem Call.run_of_body {env : Env} {op : Op} {w w' : World} {v : Option U64}
    (h : op.body env w = (.ok v, w')) : Call.run ⟨env, op⟩ w = (.ok v, w') := by
  unfold Call.run invoke
  rw [h]

/-- The seller of every stored trade, and the buyer of every trade paid in,
is not the contract `contract`. -/
def PartiesOk (contract : Address) (s : Storage) : Prop :=
  ∀ k t, s.trades k = some t → t.seller ≠ contract ∧ (t.status.paid → t.buyer ≠ contract)

namespace PartiesOk

variable {c : Address} {s : Storage}

theorem of_trades {s' : Storage} (hp : PartiesOk c s) (h : s'.trades = s.trades) : PartiesOk c s' :=
  fun k t ht => hp k t (h ▸ ht)

theorem saveTrade (hp : PartiesOk c s) {k : U64} {t : Trade} (hs : t.seller ≠ c)
    (hb : t.status.paid → t.buyer ≠ c) : PartiesOk c (s.saveTrade k t) := by
  intro k' t' ht'
  by_cases hk : k' = k
  · subst hk
    simp only [Storage.saveTrade_trades, Function.update_same, Option.some.injEq] at ht'
    exact ht' ▸ ⟨hs, hb⟩
  · exact hp k' t' (by simpa [Function.update_noteq hk] using ht')

/-- A new status for a stored trade that keeps it paid in, or leaves it unpaid. -/
theorem setStatus (hp : PartiesOk c s) {k : U64} {t : Trade} (ht : s.trades k = some t)
    {st : TradeStatus} (hpaid : st.paid → t.status.paid) :
    PartiesOk c (s.saveTrade k { t with status := st }) :=
  hp.saveTrade (hp k t ht).1 fun h => (hp k t ht).2 (hpaid h)

end PartiesOk

theorem partiesOk_body {env : Env} {op : Op} {w w' : World} {v : Option U64}
    (hp : PartiesOk w.contract w.storage) (h : op.body env w = (.ok v, w')) :
    PartiesOk w.contract w'.storage := by
  cases body_ok h with
  | initializeContract | registerArbitrator | removeArbitratorFn | updateFee | withdrawFees
  | confirmReceipt | resolveDispute => exact hp.of_trades rfl
  | createTrade _ _ hs => exact (hp.of_trades rfl).saveTrade hs.1 nofun
  | fundTrade _ ht _ ha => exact hp.saveTrade (hp _ _ ht).1 fun _ => ha.1
  | completeTrade _ ht hs => exact hp.setStatus ht fun _ => by rw [hs]; rfl
  | raiseDispute _ ht hs => exact hp.setStatus ht fun _ => by rcases hs with hs | hs <;> rw [hs] <;> rfl
  | cancelTrade _ ht => exact hp.setStatus ht nofun

theorem reachable_partiesOk {w : World} (hw : Reachable w) : PartiesOk w.contract w.storage := by
  induction hw with
  | fresh h => intro k t ht; simp [h, Storage.empty] at ht
  | call c _ ih =>
    rcases c.run_cases _ with ⟨h, -⟩ | ⟨v, -, h⟩
    · rwa [h]
    · rw [body_contract h]; exact partiesOk_body ih h
  | credit _ _ _ ih => exact ih

/-! ## Calls that release escrow succeed -/

/-- What a settlement of trade `k` needs of a world, its status and
signature apart: the contract initialized with token `token`, the payout
`amount - fee` defined and covered by the contract's balance, and room in
the accrued fees for the fee. -/
structure Payable (w : World) (k : U64) (t : Trade) (token : Address) : Prop where
  initialized : w.storage.initialized = true
  trade : w.storage.trades k = some t
  usdcToken : w.storage.usdcToken = some token
  fee_le : t.fee.val ≤ t.amount.val
  covered : t.amount.val - t.fee.val ≤ w.ledger token w.contract
  room : ∃ acc : U64, w.storage.accumulatedFees = some acc ∧ acc.val + t.fee.val < 2 ^ 64

namespace Payable

variable {w : World} {k : U64} {t : Trade} {token : Address} (hp : Payable w k t token)
include hp

/-- The settlement's `checked_sub` and `checked_add` both succeed. -/
theorem checked : ∃ p acc fees : U64, checkedSub t.amount t.fee = some p ∧
    p.val = t.amount.val - t.fee.val ∧ w.storage.accumulatedFees = some acc ∧
      checkedAdd acc t.fee = some fees := by
  obtain ⟨acc, hacc, hlt⟩ := hp.room
  exact ⟨⟨_, by omega⟩, acc, ⟨_, hlt⟩, checkedSub_eq_some.2 ⟨hp.fee_le, rfl⟩, rfl, hacc,
    checkedAdd_eq_some.2 ⟨hlt, rfl⟩⟩

/-- `complete_trade(k)` signed by the seller succeeds on a funded trade. -/
theorem complete (hs : t.status = .funded) (hsel : t.seller ≠ w.contract) :
    (Op.completeTrade k).body ⟨t.seller, [t.seller]⟩ w =
      (.ok none, { w with storage := w.storage.saveTrade k { t with status := .completed },
                          events := w.events ++ [.tradeCompleted k] }) :=
  body_of_okStep (.completeTrade hp.initialized hp.trade hs ⟨hsel, List.mem_singleton_self _⟩)

/-- A completed trade is still payable. -/
theorem completed (evs : List Event) :
    Payable { w with storage := w.storage.saveTrade k { t with status := .completed }, events := evs }
      k { t with status := .completed } token :=
  ⟨hp.initialized, by simp, hp.usdcToken, hp.fee_le, hp.covered, hp.room⟩

/-- `confirm_receipt(k)` signed by the buyer succeeds on a completed trade,
paying the seller. -/
theorem confirm (hs : t.status = .completed) (hb : t.buyer ≠ w.contract) :
    ∃ w', (Op.confirmReceipt k).body ⟨t.buyer, [t.buyer]⟩ w = (.ok none, w') ∧
      w'.ledger = move w.ledger token w.contract t.seller (t.amount.val - t.fee.val) := by
  obtain ⟨p, acc, fees, hsub, hpv, hacc, hadd⟩ := hp.checked
  exact ⟨_, body_of_okStep (.confirmReceipt hp.initialized hp.trade hs ⟨hb, List.mem_singleton_self _⟩
    hp.usdcToken hsub (hpv ▸ hp.covered) hacc hadd), by rw [hpv]⟩

/-- `resolve_dispute(k, res)` signed by the trade's arbitrator succeeds on a
disputed trade, paying whom `res` names. -/
theorem resolve (hs : t.status = .disputed) {a : Address} (ha : t.arbitrator = some a)
    (hac : a ≠ w.contract) (res : DisputeResolution) :
    ∃ w', (Op.resolveDispute k res).body ⟨a, [a]⟩ w = (.ok none, w') ∧
      w'.ledger = move w.ledger token w.contract (res.recipient t) (t.amount.val - t.fee.val) := by
  obtain ⟨p, acc, fees, hsub, hpv, hacc, hadd⟩ := hp.checked
  exact ⟨_, body_of_okStep (.resolveDispute hp.initialized hp.trade hs ha ⟨hac, List.mem_singleton_self _⟩
    hp.usdcToken hsub (hpv ▸ hp.covered) hacc hadd), by rw [hpv]⟩

end Payable

/-- In a reachable solvent world, a trade paid in and not settled is
payable, when the accrued fees have room for its fee. -/
theorem Solvent.payable {w : World} {L : List U64} (hw : Reachable w) (hS : Solvent w L) {k : U64}
    (hk : k ∉ L) {t : Trade} (ht : w.storage.trades k = some t) (hpaid : t.status.paid)
    (hacc : accrued w.storage + t.fee.val < 2 ^ 64) : ∃ token, Payable w k t token := by
  have hc : Configured w.storage :=
    (reachable_configOk hw).resolve_left fun he => by simp [he, Storage.empty] at ht
  obtain ⟨token, htok⟩ := Option.isSome_iff_exists.1 hc.usdcToken
  obtain ⟨acc, hacc'⟩ := Option.isSome_iff_exists.1 hc.accumulatedFees
  have hk' : escrowAt w.storage L k = t.amount.val := by simp [escrowAt, ht, hpaid, hk]
  have hsum := Finset.add_sum_erase Finset.univ (escrowAt w.storage L) (Finset.mem_univ k)
  have hS' := hS token htok
  simp only [accrued, hacc', Option.map_some', Option.getD_some] at hacc hS'
  unfold escrow at hS'
  exact ⟨token, hc.initialized, ht, htok, (reachable_tradesWf hw k t ht).fee_le, by omega,
    acc, hacc', hacc⟩

/-! ## A funded trade without an arbitrator -/

/-- No call on a funded trade that names no arbitrator succeeds without its
seller's signature: of the calls on a `Funded` trade, `complete_trade` needs
the seller and `raise_dispute` an arbitrator. -/
theorem frozen_body {env : Env} {op : Op} {w w' : World} {v : Option U64} {k : U64} {t : Trade}
    (ht : w.storage.trades k = some t) (hs : t.status = .funded) (harb : t.arbitrator = none)
    (hsel : t.seller ∉ env.signers) (hk : op.tradeId = some k) (h : op.body env w = (.ok v, w')) :
    False := by
  cases body_ok h with
  | fundTrade _ ht' hs' | cancelTrade _ ht' hs' | confirmReceipt _ ht' hs'
  | resolveDispute _ ht' hs' =>
    cases hk; rw [ht] at ht'; cases ht'; rw [hs] at hs'; cases hs'
  | completeTrade _ ht' _ ha => cases hk; rw [ht] at ht'; cases ht'; exact hsel ha.2
  | raiseDispute _ ht' _ harb' => cases hk; rw [ht] at ht'; cases ht'; simp [harb] at harb'
  | _ => cases hk

/-- A call not signed by the seller keeps such a trade as it is, and fails
when it is a call on it. -/
theorem frozen_step (c : Call) {w : World} (hw : Reachable w) {k : U64} {t : Trade}
    (ht : w.storage.trades k = some t) (hs : t.status = .funded) (harb : t.arbitrator = none)
    (hsel : t.seller ∉ c.env.signers) :
    (c.run w).2.storage.trades k = some t ∧ (c.op.tradeId = some k → (c.run w).1.isOk = false) := by
  refine ⟨?_, fun hk => ?_⟩
  · obtain ⟨t', ht', hterms, hst | ⟨hl, hchk⟩⟩ := trade_step (c := c) hw ht
    · rwa [Trade.ext_terms hterms hst] at ht'
    · rcases c with ⟨env, op⟩
      rw [hs] at hl
      generalize t'.status = s at hl
      cases hl with
      | complete => exact (hsel hchk.2).elim
      | disputeFunded => simp [StatusCheck, harb] at hchk
  · rcases c.run_cases w with ⟨-, e, he⟩ | ⟨v, -, h⟩
    · rw [he]; rfl
    · exact (frozen_body ht hs harb hsel hk h).elim

/-! ## Main results -/

/-- The calls by which a paid-in trade's own parties release its escrow:
its seller completes it if it is still `Funded` and its buyer confirms
receipt; a disputed trade's arbitrator resolves it as `res`. -/
def releaseCalls (k : U64) (t : Trade) (res : DisputeResolution) : List Call :=
  match t.status, t.arbitrator with
  | .funded, _ => [⟨⟨t.seller, [t.seller]⟩, .completeTrade k⟩, ⟨⟨t.buyer, [t.buyer]⟩, .confirmReceipt k⟩]
  | .completed, _ => [⟨⟨t.buyer, [t.buyer]⟩, .confirmReceipt k⟩]
  | .disputed, some a => [⟨⟨a, [a]⟩, .resolveDispute k res⟩]
  | _, _ => []

/-- Whom the release pays: the seller, or whom the arbitrator's resolution
names. -/
def Trade.payee (t : Trade) (res : DisputeResolution) : Address :=
  if t.status = .disputed then res.recipient t else t.seller

/-- **Escrow is never locked.** In a reachable world where the contract's
balance covers its accrued fees and the escrow of the trades not settled
(`Solvent`), every trade paid in and not settled can be released by its own
parties: each call of `releaseCalls` (the seller's `complete_trade` if it is
still `Funded` and the buyer's `confirm_receipt`, or the arbitrator's
`resolve_dispute`) returns `Ok`, the payee receives `amount - fee` of the
stored token from the contract, and the contract stays solvent with the
trade settled. What it needs beyond that: room in the accrued fees for the
trade's fee (otherwise the accrual overflows), and an arbitrator that is not
the contract itself (which can sign nothing). -/
theorem escrow_releasable {w : World} (hw : Reachable w) {L : List U64} (hS : Solvent w L)
    {k : U64} (hk : k ∉ L) {t : Trade} (ht : w.storage.trades k = some t) (hpaid : t.status.paid)
    (hacc : accrued w.storage + t.fee.val < 2 ^ 64) (harb : t.arbitrator ≠ some w.contract)
    (res : DisputeResolution) :
    ∃ token, w.storage.usdcToken = some token ∧ (∀ st ∈ trace w (releaseCalls k t res), st.ok) ∧
      (final w (releaseCalls k t res)).ledger =
        move w.ledger token w.contract (t.payee res) (t.amount.val - t.fee.val) ∧
      Solvent (final w (releaseCalls k t res)) (L ++ [k]) := by
  obtain ⟨token, hp⟩ := hS.payable hw hk ht hpaid hacc
  obtain ⟨hsel, hbuy⟩ := reachable_partiesOk hw k t ht
  refine ⟨token, hp.usdcToken, ?_⟩
  unfold releaseCalls Trade.payee
  cases hst : t.status
  case created | cancelled => simp [hst, TradeStatus.paid] at hpaid
  case funded =>
    have h₁ := hp.complete hst hsel
    obtain ⟨w₂, h₂, hl⟩ := (hp.completed (w.events ++ [.tradeCompleted k])).confirm rfl (hbuy hpaid)
    dsimp only at h₂
    simp only [trace_cons, final_cons, Call.run_of_body h₁, Call.run_of_body h₂, trace_nil,
      final_nil, List.forall_mem_cons, Step.ok_ok]
    exact ⟨by simp, hl, solvent_settle (solvent_body hw hS (by rfl) h₁) (by rfl) (by rfl) hk h₂⟩
  case completed =>
    obtain ⟨w₂, h₂, hl⟩ := hp.confirm hst (hbuy hpaid)
    simp only [trace_cons, final_cons, Call.run_of_body h₂, trace_nil, final_nil,
      List.forall_mem_cons, Step.ok_ok]
    exact ⟨by simp, hl, solvent_settle hS (by rfl) (by rfl) hk h₂⟩
  case disputed =>
    obtain ⟨a, ha⟩ := Option.isSome_iff_exists.1 ((reachable_tradesWf hw k t ht).disputed hst)
    obtain ⟨w₂, h₂, hl⟩ := hp.resolve hst ha (fun h => harb (h ▸ ha)) res
    simp only [ha, trace_cons, final_cons, Call.run_of_body h₂, trace_nil, final_nil,
      List.forall_mem_cons, Step.ok_ok, if_true]
    exact ⟨by simp, hl, solvent_settle hS (by rfl) (by rfl) hk h₂⟩

theorem escrow_releasable_funded :
    let w₀ : World := ⟨⟨2⟩, .empty, fun tok a => if tok = ⟨1⟩ ∧ a = ⟨4⟩ then 10000 else 0, []⟩
    let cs : List Call :=
      [⟨⟨⟨0⟩, [⟨0⟩]⟩, .initializeContract ⟨0⟩ ⟨1⟩ 250⟩,
       ⟨⟨⟨0⟩, [⟨0⟩]⟩, .registerArbitrator ⟨7⟩⟩,
       ⟨⟨⟨3⟩, [⟨3⟩]⟩, .createTrade ⟨3⟩ ⟨4⟩ 10000 (some ⟨7⟩)⟩,
       ⟨⟨⟨4⟩, [⟨4⟩]⟩, .fundTrade 1⟩]
    let w := final w₀ cs
    let t : Trade := ⟨1, ⟨3⟩, ⟨4⟩, 10000, 250, some ⟨7⟩, .funded⟩
    Reachable w ∧ Solvent w [] ∧ (1 : U64) ∉ ([] : List U64) ∧ w.storage.trades 1 = some t ∧
      t.status.paid ∧ accrued w.storage + t.fee.val < 2 ^ 64 ∧ t.arbitrator ≠ some w.contract ∧
      ∃ token, w.storage.usdcToken = some token ∧
        (∀ st ∈ trace w (releaseCalls 1 t .releaseToBuyer), st.ok) ∧
        (final w (releaseCalls 1 t .releaseToBuyer)).ledger =
          move w.ledger token w.contract (t.payee .releaseToBuyer) (t.amount.val - t.fee.val) ∧
        Solvent (final w (releaseCalls 1 t .releaseToBuyer)) ([] ++ [1]) := by
  intro w₀ cs w t
  have hw : Reachable w := (Reachable.fresh (w := w₀) rfl).final cs
  have hS : Solvent w [] := by
    have h := solvent_run (Reachable.fresh (w := w₀) rfl) cs [] (fun _ h => by cases h) (by decide)
    rwa [List.nil_append, show settledIds (trace w₀ cs) = [] by decide] at h
  exact ⟨hw, hS, List.not_mem_nil 1, by decide, rfl, by decide, by decide,
    escrow_releasable hw hS (List.not_mem_nil 1) (by decide) (by rfl) (by decide) (by decide)
      .releaseToBuyer⟩

/-- **Only the seller releases a funded trade with no arbitrator.** From a
reachable world, over every run in which the seller of a funded trade that
names no arbitrator signs no call, every call on the trade fails and its
record stays as it was: the buyer has no refund and no timeout, and the
escrow moves only once the seller completes the trade. -/
theorem unarbitrated_trade_frozen {w : World} (hw : Reachable w) {k : U64} {t : Trade}
    (ht : w.storage.trades k = some t) (hs : t.status = .funded) (harb : t.arbitrator = none)
    (cs : List Call) (hsel : ∀ c ∈ cs, t.seller ∉ c.env.signers) :
    (final w cs).storage.trades k = some t ∧
      ∀ st ∈ trace w cs, st.call.op.tradeId = some k → st.ok = false := by
  induction cs generalizing w with
  | nil => exact ⟨ht, fun _ h => absurd h (List.not_mem_nil _)⟩
  | cons c cs ih =>
    obtain ⟨ht', hfail⟩ := frozen_step c hw ht hs harb (hsel c (List.mem_cons_self _ _))
    obtain ⟨hfin, hrest⟩ := ih (hw.call c) ht' fun c' hc' => hsel c' (List.mem_cons_of_mem _ hc')
    exact ⟨hfin, List.forall_mem_cons.2 ⟨hfail, hrest⟩⟩

theorem unarbitrated_trade_frozen_buyer :
    let w₀ : World := ⟨⟨2⟩, .empty, fun tok a => if tok = ⟨1⟩ ∧ a = ⟨4⟩ then 10000 else 0, []⟩
    let w := final w₀
      [⟨⟨⟨0⟩, [⟨0⟩]⟩, .initializeContract ⟨0⟩ ⟨1⟩ 250⟩,
       ⟨⟨⟨3⟩, [⟨3⟩]⟩, .createTrade ⟨3⟩ ⟨4⟩ 10000 none⟩,
       ⟨⟨⟨4⟩, [⟨4⟩]⟩, .fundTrade 1⟩]
    let t : Trade := ⟨1, ⟨3⟩, ⟨4⟩, 10000, 250, none, .funded⟩
    let cs : List Call :=
      [⟨⟨⟨4⟩, [⟨4⟩]⟩, .raiseDispute 1⟩,
       ⟨⟨⟨4⟩, [⟨4⟩]⟩, .confirmReceipt 1⟩,
       ⟨⟨⟨4⟩, [⟨4⟩]⟩, .cancelTrade 1⟩,
       ⟨⟨⟨4⟩, [⟨4⟩]⟩, .completeTrade 1⟩]
    Reachable w ∧ w.storage.trades 1 = some t ∧ t.status = .funded ∧ t.arbitrator = none ∧
      (∀ c ∈ cs, t.seller ∉ c.env.signers) ∧ (final w cs).storage.trades 1 = some t ∧
      ∀ st ∈ trace w cs, st.call.op.tradeId = some 1 → st.ok = false := by
  intro w₀ w t cs
  have hw : Reachable w := (Reachable.fresh (w := w₀) rfl).final _
  exact ⟨hw, by decide, rfl, rfl, by decide,
    unarbitrated_trade_frozen hw (by decide) rfl rfl cs (by decide)⟩

end StellarEscrow
