/-
Solvency, for the runs in which no trade is settled twice. The contract
owes its accrued fees and, for every trade paid in and not yet settled, the
trade's amount (`escrow`). Funding pays the amount in; a settlement pays
`amount - fee` out and moves `fee` to the accrued fees; a withdrawal pays the
fees out. So the contract's balance of the stored token covers what it owes
after every run in which each trade is settled at most once, which is
exactly what a second settlement (`confirm_receipt_twice`) breaks.
-/
import StellarEscrow.Settlement
import StellarEscrow.Auth
import Mathlib.Algebra.BigOperators.Group.Finset

namespace StellarEscrow

open Exec

/-- The ids a run settled, in order: one per successful `confirm_receipt`
or `resolve_dispute`. -/
def settledIds : List Step → List U64 :=
  List.filterMap fun st => if st.ok && st.call.op.isSettlement then st.call.op.tradeId else none

theorem settledIds_cons (st : Step) (sts : List Step) :
    settledIds (st :: sts) = settledIds [st] ++ settledIds sts := by
  simp only [settledIds, List.filterMap_cons, List.filterMap_nil]
  split <;> rfl

/-- What trade `k` holds in escrow: its amount while paid in and not settled. -/
def escrowAt (s : Storage) (settled : List U64) (k : U64) : Nat :=
  match s.trades k with
  | some t => if t.status.paid ∧ k ∉ settled then t.amount.val else 0
  | none => 0

/-- All the escrow the contract holds. -/
def escrow (s : Storage) (settled : List U64) : Nat := ∑ k : U64, escrowAt s settled k

/-- The fees accrued, `0` before `initialize`. -/
def accrued (s : Storage) : Nat := (s.accumulatedFees.map Fin.val).getD 0

/-- The contract's balance of the stored token covers its accrued fees and
all the escrow it holds. -/
def Solvent (w : World) (settled : List U64) : Prop :=
  ∀ token, w.storage.usdcToken = some token →
    accrued w.storage + escrow w.storage settled ≤ w.ledger token w.contract

/-! ## The escrow sum -/

/-- Changing the escrow at one key changes the sum by the new minus the old. -/
theorem escrow_update {s s' : Storage} {L L' : List U64} {k : U64}
    (h : ∀ x, x ≠ k → escrowAt s' L' x = escrowAt s L x) :
    escrow s' L' + escrowAt s L k = escrow s L + escrowAt s' L' k := by
  have hrest : ∑ x ∈ Finset.univ.erase k, escrowAt s' L' x = ∑ x ∈ Finset.univ.erase k, escrowAt s L x :=
    Finset.sum_congr rfl fun x hx => h x (Finset.ne_of_mem_erase hx)
  have e₁ := Finset.add_sum_erase Finset.univ (escrowAt s' L') (Finset.mem_univ k)
  have e₂ := Finset.add_sum_erase Finset.univ (escrowAt s L) (Finset.mem_univ k)
  unfold escrow
  omega

theorem escrow_saveTrade (s : Storage) (L : List U64) (k : U64) (t : Trade) :
    escrow (s.saveTrade k t) L + escrowAt s L k = escrow s L + escrowAt (s.saveTrade k t) L k :=
  escrow_update fun x hx => by simp [escrowAt, Function.update_noteq hx]

theorem escrowAt_saveTrade (s : Storage) (L : List U64) (k : U64) (t : Trade) :
    escrowAt (s.saveTrade k t) L k = if t.status.paid ∧ k ∉ L then t.amount.val else 0 := by
  simp [escrowAt]

/-- Saving a trade whose escrow is what the key held keeps the sum. -/
theorem escrow_saveTrade_eq {s : Storage} {L : List U64} {k : U64} {t : Trade}
    (h : escrowAt (s.saveTrade k t) L k = escrowAt s L k) : escrow (s.saveTrade k t) L = escrow s L := by
  have := escrow_saveTrade s L k t
  omega

/-! ## The ledger -/

theorem move_dst (l : Address → Address → Nat) (token : Address) {src dst : Address} (n : Nat)
    (h : src ≠ dst) : move l token src dst n token dst = l token dst + n := by
  simp [move, Ne.symm h]

theorem move_src_le (l : Address → Address → Nat) (token src dst : Address) (n : Nat) :
    l token src - n ≤ move l token src dst n token src := by
  unfold move
  split_ifs <;> omega

/-! ## One call -/

namespace Solvent

variable {w : World} {L : List U64}

/-- `fund_trade`: the buyer pays the amount in, and the trade holds it. -/
theorem fund {k : U64} {t : Trade} {token : Address} (hS : Solvent w L)
    (ht : w.storage.trades k = some t) (hs : t.status = .created) (hb : t.buyer ≠ w.contract)
    (htok : w.storage.usdcToken = some token) (evs : List Event) :
    Solvent { w with ledger := move w.ledger token t.buyer w.contract t.amount.val,
                     storage := w.storage.saveTrade k { t with status := .funded },
                     events := evs } L := by
  intro token' htok'
  simp only [Storage.saveTrade_usdcToken, htok, Option.some.injEq] at htok'
  subst htok'
  have hsum := escrow_saveTrade w.storage L k { t with status := .funded }
  have hle : escrowAt (w.storage.saveTrade k { t with status := .funded }) L k ≤ t.amount.val := by
    rw [escrowAt_saveTrade]; split <;> simp
  have h0 : escrowAt w.storage L k = 0 := by simp [escrowAt, ht, hs, TradeStatus.paid]
  have hin := move_dst w.ledger token t.amount.val hb
  have := hS token htok
  simp only [accrued, Storage.saveTrade_accumulatedFees] at this ⊢
  omega

/-- A status change within the paid statuses, or within the unpaid ones,
moves nothing. -/
theorem setStatus {k : U64} {t : Trade} {s : TradeStatus} (hS : Solvent w L)
    (ht : w.storage.trades k = some t) (hp : s.paid = t.status.paid) (evs : List Event) :
    Solvent { w with storage := w.storage.saveTrade k { t with status := s }, events := evs } L := by
  intro token htok
  rw [escrow_saveTrade_eq (by rw [escrowAt_saveTrade]; simp [escrowAt, ht, hp])]
  exact hS token htok

/-- `create_trade`: a new `Created` trade holds nothing. -/
theorem create {r : U64} {t : Trade} (hS : Solvent w L) (h0 : w.storage.trades r = none)
    (hs : t.status = .created) (evs : List Event) :
    Solvent { w with storage := (w.storage.setTradeCounter r).saveTrade r t, events := evs } L := by
  intro token htok
  rw [escrow_saveTrade_eq (by rw [escrowAt_saveTrade]; simp [escrowAt, h0, hs, TradeStatus.paid])]
  exact hS token htok

/-- `withdraw_fees`: the fees go out, and the contract owes none. -/
theorem withdraw {fees : U64} {token toAddr : Address} (hS : Solvent w L)
    (hacc : w.storage.accumulatedFees = some fees) (htok : w.storage.usdcToken = some token)
    (evs : List Event) :
    Solvent { w with ledger := move w.ledger token w.contract toAddr fees.val,
                     storage := w.storage.setAccumulatedFees 0, events := evs } L := by
  intro token' htok'
  simp only [Storage.setAccumulatedFees_usdcToken, htok, Option.some.injEq] at htok'
  subst htok'
  have hout := move_src_le w.ledger token w.contract toAddr fees.val
  have hesc : escrow (w.storage.setAccumulatedFees 0) L = escrow w.storage L := rfl
  have := hS token htok
  simp only [accrued, Storage.setAccumulatedFees_accumulatedFees, hacc, Option.map_some',
    Option.getD_some, U64.val_zero] at this ⊢
  omega

/-- A settlement: `amount - fee` goes out, `fee` moves to the accrued fees,
and the trade's amount leaves the escrow. -/
theorem settle {k : U64} {t : Trade} {token recipient : Address} {p acc fees : U64}
    (hS : Solvent w L) (ht : w.storage.trades k = some t) (hpaid : t.status.paid) (hk : k ∉ L)
    (htok : w.storage.usdcToken = some token) (hp : checkedSub t.amount t.fee = some p)
    (hacc : w.storage.accumulatedFees = some acc) (hfees : checkedAdd acc t.fee = some fees)
    (evs : List Event) :
    Solvent { w with ledger := move w.ledger token w.contract recipient p.val,
                     storage := w.storage.setAccumulatedFees fees, events := evs } (L ++ [k]) := by
  intro token' htok'
  simp only [Storage.setAccumulatedFees_usdcToken, htok, Option.some.injEq] at htok'
  subst htok'
  have hsum := @escrow_update w.storage (w.storage.setAccumulatedFees fees) L (L ++ [k]) k fun x hx => by simp [escrowAt, hx]
  have h₁ : escrowAt w.storage L k = t.amount.val := by simp [escrowAt, ht, hpaid, hk]
  have h₂ : escrowAt (w.storage.setAccumulatedFees fees) (L ++ [k]) k = 0 := by simp [escrowAt, ht]
  have hout := move_src_le w.ledger token w.contract recipient p.val
  obtain ⟨hle, hpv⟩ := checkedSub_eq_some.1 hp
  obtain ⟨-, hfv⟩ := checkedAdd_eq_some.1 hfees
  have := hS token htok
  simp only [accrued, Storage.setAccumulatedFees_accumulatedFees, hacc, Option.map_some',
    Option.getD_some] at this ⊢
  omega

end Solvent

/-! ## Runs -/

theorem Op.tradeId_of_isSettlement {op : Op} (h : op.isSettlement) : ∃ k, op.tradeId = some k := by
  cases op <;> simp_all [Op.isSettlement, Op.tradeId]

/-- A successful call that settles no trade keeps the contract solvent. -/
theorem solvent_body {env : Env} {op : Op} {w w' : World} {v : Option U64} {L : List U64}
    (hw : Reachable w) (hS : Solvent w L) (hop : op.isSettlement = false)
    (h : op.body env w = (.ok v, w')) : Solvent w' L := by
  cases body_ok h with
  | initializeContract hi =>
    have he : w.storage = .empty :=
      (reachable_configOk hw).resolve_right fun h' => by simp [h'.initialized] at hi
    have h0 : escrow w.storage L = 0 :=
      Finset.sum_eq_zero fun k _ => by simp [escrowAt, he, Storage.empty]
    intro token _
    show accrued _ + escrow w.storage L ≤ _
    simp only [accrued, Storage.setInitialized_accumulatedFees,
      Storage.setAccumulatedFees_accumulatedFees, Option.map_some', Option.getD_some, U64.val_zero, h0]
    exact Nat.zero_le _
  | registerArbitrator | removeArbitratorFn | updateFee => exact hS
  | withdrawFees _ _ _ hacc _ htok => exact hS.withdraw hacc htok _
  | @createTrade _ _ _ _ r _ _ _ _ _ _ _ hn hr =>
    have := ((reachable_keysOk hw).1 r).not.2 (by rw [tradeCount_some hn]; omega)
    exact hS.create (by simpa using this) rfl _
  | fundTrade _ ht hs ha htok => exact hS.fund ht hs ha.1 htok _
  | completeTrade _ ht hs | cancelTrade _ ht hs => exact hS.setStatus ht (by rw [hs]; rfl) _
  | raiseDispute _ ht hs => exact hS.setStatus ht (by rcases hs with hs | hs <;> rw [hs] <;> rfl) _
  | confirmReceipt | resolveDispute => cases hop

/-- A successful settlement of a trade not settled before keeps the contract
solvent, the trade now settled. -/
theorem solvent_settle {env : Env} {op : Op} {w w' : World} {v : Option U64} {L : List U64}
    {k : U64} (hS : Solvent w L) (hop : op.isSettlement) (hk : op.tradeId = some k) (hL : k ∉ L)
    (h : op.body env w = (.ok v, w')) : Solvent w' (L ++ [k]) := by
  cases body_ok h with
  | confirmReceipt _ ht hs _ htok hp _ hacc hfees =>
    cases hk
    exact hS.settle ht (by rw [hs]; rfl) hL htok hp hacc hfees _
  | resolveDispute _ ht hs _ _ htok hp _ hacc hfees =>
    cases hk
    exact hS.settle ht (by rw [hs]; rfl) hL htok hp hacc hfees _
  | _ => cases hop

/-- One call of a run: if the id it settles, if any, was not settled
before, the contract stays solvent. -/
theorem solvent_call {w : World} {L : List U64} (hw : Reachable w) (hS : Solvent w L) (c : Call)
    (hn : (L ++ settledIds [⟨w, c, (c.run w).1, (c.run w).2⟩]).Nodup) :
    Solvent (c.run w).2 (L ++ settledIds [⟨w, c, (c.run w).1, (c.run w).2⟩]) := by
  rcases c.run_cases w with ⟨h, e, he⟩ | ⟨v, hv, h⟩
  · have : settledIds [⟨w, c, (c.run w).1, (c.run w).2⟩] = [] := by
      simp [settledIds, he]
    rw [this, List.append_nil, h]
    exact hS
  cases hset : c.op.isSettlement
  · have : settledIds [⟨w, c, (c.run w).1, (c.run w).2⟩] = [] := by simp [settledIds, hset]
    rw [this, List.append_nil]
    exact solvent_body hw hS hset h
  · obtain ⟨k, hk⟩ := Op.tradeId_of_isSettlement hset
    have : settledIds [⟨w, c, (c.run w).1, (c.run w).2⟩] = [k] := by
      simp [settledIds, hv, hset, hk]
    rw [this] at hn ⊢
    exact solvent_settle hS hset hk (fun hkL => (List.nodup_append.1 hn).2.2 hkL
      (List.mem_singleton_self k)) h

theorem solvent_run {w : World} (hw : Reachable w) :
    ∀ (cs : List Call) (L : List U64), Solvent w L → (L ++ settledIds (trace w cs)).Nodup →
      Solvent (final w cs) (L ++ settledIds (trace w cs))
  | [], L, hS, _ => by simpa [settledIds] using hS
  | c :: cs, L, hS, hn => by
    rw [trace_cons, settledIds_cons, ← List.append_assoc] at hn ⊢
    exact solvent_run (hw.call c) cs _ (solvent_call hw hS c hn.of_append_left) hn

/-- **Solvency while no trade is settled twice.** After a run from a fresh
contract in which no trade id is settled twice, the contract's balance of
the stored token covers its accrued fees and the amount of every trade paid
in and not settled during the run. -/
theorem solvent_of_settled_once {w₀ : World} (h₀ : w₀.storage = .empty) (cs : List Call)
    (hn : (settledIds (trace w₀ cs)).Nodup) : Solvent (final w₀ cs) (settledIds (trace w₀ cs)) := by
  simpa using solvent_run (.fresh h₀) cs [] (fun _ h => by simp [h₀, Storage.empty] at h)
    (by simpa using hn)

theorem solvent_of_settled_once_run :
    let w₀ : World := ⟨⟨2⟩, .empty, fun tok a => if tok = ⟨1⟩ ∧ a = ⟨4⟩ then 10000 else 0, []⟩
    let cs : List Call :=
      [⟨⟨⟨0⟩, [⟨0⟩]⟩, .initializeContract ⟨0⟩ ⟨1⟩ 250⟩,
       ⟨⟨⟨3⟩, [⟨3⟩]⟩, .createTrade ⟨3⟩ ⟨4⟩ 10000 none⟩,
       ⟨⟨⟨4⟩, [⟨4⟩]⟩, .fundTrade 1⟩,
       ⟨⟨⟨3⟩, [⟨3⟩]⟩, .completeTrade 1⟩,
       ⟨⟨⟨4⟩, [⟨4⟩]⟩, .confirmReceipt 1⟩]
    (settledIds (trace w₀ cs)).Nodup ∧ Solvent (final w₀ cs) (settledIds (trace w₀ cs)) :=
  ⟨by decide, solvent_of_settled_once rfl _ (by decide)⟩

end StellarEscrow
