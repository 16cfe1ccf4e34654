/-
The contract's books. What the contract owes in the stored token is its
accrued fees and the amount of every trade paid in (`owed`). Each call keeps
one equation between its balance and what it owes: `fund_trade` raises both
by the amount; a settlement (`confirm_receipt`, `resolve_dispute`) pays
`amount - fee` out and accrues `fee`, which lowers the balance less what it
owes by the whole amount (`released`), the trade staying paid in; and
`withdraw_fees` lowers both by the fees, unless it pays them to the contract
itself (`reclaimed`). No other call touches either side.

So over any run, released escrow is exactly what the balance falls short of
what is owed. Settling each trade once, the released escrow is that of the
settled trades and the balance covers the rest (`solvent_of_settled_once`);
each further settlement of a trade (`confirm_receipt_twice`) takes its whole
amount once more out of the balance, from other trades' escrow.
-/
import StellarEscrow.Release

namespace StellarEscrow

open Exec

/-- The amount of trade `k`, `0` when there is none. -/
def amountOfTrade (s : Storage) (k : U64) : Nat := ((s.trades k).map fun t => t.amount.val).getD 0

/-- What the contract owes in `token`: when `token` is the stored token, its
accrued fees and the amount of every trade paid in (`escrow` with no trade
counted as settled); nothing in any other token. -/
def owed (s : Storage) (token : Address) : Nat :=
  if s.usdcToken = some token then accrued s + escrow s [] else 0

/-- The escrow a successful call of `op` releases in `token`: for a
settlement, the trade's whole amount, `amount - fee` paid out and `fee`
accrued. -/
def Op.released (s : Storage) (token : Address) : Op → Nat
  | .confirmReceipt k | .resolveDispute k _ => if s.usdcToken = some token then amountOfTrade s k else 0
  | _ => 0

/-- The fees a successful call of `op` pays back to the contract itself:
`withdraw_fees` to the contract's own address. -/
def Op.reclaimed (w : World) (token : Address) : Op → Nat
  | .withdrawFees toAddr =>
    if w.storage.usdcToken = some token ∧ toAddr = w.contract then accrued w.storage else 0
  | _ => 0

/-- The same of a step of a run: a failed call releases and reclaims nothing. -/
def Step.released (token : Address) (st : Step) : Nat :=
  if st.ok then st.call.op.released st.pre.storage token else 0

def Step.reclaimed (token : Address) (st : Step) : Nat :=
  if st.ok then st.call.op.reclaimed st.pre token else 0

@[simp] theorem accrued_saveTrade (s : Storage) (k : U64) (t : Trade) :
    accrued (s.saveTrade k t) = accrued s := rfl

@[simp] theorem escrow_setAccumulatedFees (s : Storage) (f : U64) (L : List U64) :
    escrow (s.setAccumulatedFees f) L = escrow s L := rfl

/-- The contract's balance of a token other than `token` does not move when
`token` does. -/
theorem move_other {l : Address → Address → Nat} {token tok src dst a : Address} {n : Nat}
    (h : tok ≠ token) : move l token src dst n tok a = l tok a := by
  simp [move, h]

theorem move_contract_out (l : Address → Address → Nat) (token : Address) {c dst : Address} (n : Nat)
    (h : dst ≠ c) : move l token c dst n token c = l token c - n := by
  simp [move, Ne.symm h]

theorem move_contract_in (l : Address → Address → Nat) (token : Address) {c src : Address} (n : Nat)
    (h : src ≠ c) : move l token src c n token c = l token c + n := by
  simp [move, Ne.symm h]

/-- Setting a stored trade's status moves the escrow sum by its amount when
it enters or leaves the paid statuses. -/
theorem escrow_setStatus {s : Storage} {k : U64} {t : Trade} (ht : s.trades k = some t)
    (st : TradeStatus) :
    escrow (s.saveTrade k { t with status := st }) [] + (if t.status.paid then t.amount.val else 0) =
      escrow s [] + (if st.paid then t.amount.val else 0) := by
  have h := escrow_saveTrade s [] k { t with status := st }
  rw [escrowAt_saveTrade] at h
  simpa [escrowAt, ht] using h

/-- What the contract owes depends only on the stored token, the accrued
fees and the escrow. -/
theorem owed_congr {s s' : Storage} (he : escrow s' [] = escrow s [])
    (ht : s'.usdcToken = s.usdcToken) (ha : s'.accumulatedFees = s.accumulatedFees) :
    owed s' = owed s := by
  funext token
  simp only [owed, accrued, ht, ha, he]

/-- A status change within the paid statuses, or within the unpaid ones,
owes nothing new. -/
theorem owed_setStatus {s : Storage} {k : U64} {t : Trade} (ht : s.trades k = some t)
    {st : TradeStatus} (hp : st.paid = t.status.paid) : owed (s.saveTrade k { t with status := st }) = owed s :=
  owed_congr (escrow_saveTrade_eq (by rw [escrowAt_saveTrade]; simp [escrowAt, ht, hp])) rfl rfl

/-! ## One call -/

/-- A call that moves no token and owes nothing new keeps the books. -/
theorem books_still {w w' : World} {op : Op} {token : Address} (hl : w'.ledger = w.ledger)
    (ho : owed w'.storage = owed w.storage) (hr : op.released w.storage token = 0)
    (hc : op.reclaimed w token = 0) :
    w'.ledger token w.contract + op.released w.storage token + owed w.storage token =
      w.ledger token w.contract + owed w'.storage token + op.reclaimed w token := by
  rw [hl, ho, hr, hc]
  omega

/-- The books of a settlement of trade `k` paying `amount - fee` to an
account: the balance falls by the payout and what is owed rises by the fee,
so together they fall by the trade's amount, which the settlement releases. -/
theorem books_payOut {w : World} {op : Op} {k : U64} {t : Trade} {tok token rcpt : Address}
    {p acc fees : U64} (ht : w.storage.trades k = some t) (htok : w.storage.usdcToken = some tok)
    (hrc : rcpt ≠ w.contract) (hp : checkedSub t.amount t.fee = some p)
    (hle : p.val ≤ w.ledger tok w.contract) (hacc : w.storage.accumulatedFees = some acc)
    (hfees : checkedAdd acc t.fee = some fees)
    (hr : op.released w.storage token =
      if w.storage.usdcToken = some token then amountOfTrade w.storage k else 0)
    (hc : op.reclaimed w token = 0) :
    move w.ledger tok w.contract rcpt p.val token w.contract + op.released w.storage token +
        owed w.storage token =
      w.ledger token w.contract + owed (w.storage.setAccumulatedFees fees) token +
        op.reclaimed w token := by
  obtain ⟨hfee, hpv⟩ := checkedSub_eq_some.1 hp
  obtain ⟨-, hfv⟩ := checkedAdd_eq_some.1 hfees
  rw [hr, hc]
  by_cases hT : tok = token
  · subst hT
    simp only [owed, htok, if_true, Storage.setAccumulatedFees_usdcToken, move_contract_out _ _ _ hrc,
      amountOfTrade, ht, accrued, hacc, Storage.setAccumulatedFees_accumulatedFees,
      escrow_setAccumulatedFees, Option.map_some', Option.getD_some]
    omega
  · simp [owed, htok, hT, move_other (Ne.symm hT)]

/-- **The books of one successful call.** -/
theorem body_books {env : Env} {op : Op} {w w' : World} {v : Option U64} (hw : Reachable w)
    (h : op.body env w = (.ok v, w')) (token : Address) :
    w'.ledger token w.contract + op.released w.storage token + owed w.storage token =
      w.ledger token w.contract + owed w'.storage token + op.reclaimed w token := by
  have hpar := reachable_partiesOk hw
  cases body_ok h with
  | @initializeContract admin tok b hi =>
    have he : w.storage = .empty :=
      (reachable_configOk hw).resolve_right fun h' => by simp [h'.initialized] at hi
    have h0 : escrow w.storage [] = 0 := Finset.sum_eq_zero fun k _ => by simp [escrowAt, he, Storage.empty]
    have hpost : ∀ s : Storage, escrow s [] = 0 → s.accumulatedFees = some 0 → owed s = owed w.storage :=
      fun s hs ha => funext fun x => by simp [owed, accrued, ha, hs, he, Storage.empty]
    exact books_still rfl (hpost _ h0 rfl) rfl rfl
  | registerArbitrator | removeArbitratorFn | updateFee => exact books_still rfl (owed_congr rfl rfl rfl) rfl rfl
  | @withdrawFees toAddr _ tok fees _ _ _ hacc _ htok hle =>
    by_cases hT : tok = token
    · subst hT
      simp only [owed, Op.released, Op.reclaimed, htok, accrued, hacc, if_true, true_and,
        Storage.setAccumulatedFees_usdcToken, Storage.setAccumulatedFees_accumulatedFees,
        escrow_setAccumulatedFees, Option.map_some', Option.getD_some, U64.val_zero]
      by_cases hto : toAddr = w.contract
      · subst hto; simp only [move, if_true]; omega
      · rw [move_contract_out _ _ _ hto, if_neg hto]; omega
    · simp [owed, Op.released, Op.reclaimed, htok, hT, move_other (Ne.symm hT)]
  | @createTrade seller buyer amount arb r _ fee _ _ _ _ _ hn hr =>
    have h0 : w.storage.trades r = none := by
      simpa using ((reachable_keysOk hw).1 r).not.2 (by rw [tradeCount_some hn]; omega)
    have he : escrow ((w.storage.setTradeCounter r).saveTrade r ⟨r, seller, buyer, amount, fee, arb, .created⟩) [] =
        escrow w.storage [] :=
      escrow_saveTrade_eq (by rw [escrowAt_saveTrade]; simp [escrowAt, h0, TradeStatus.paid])
    exact books_still rfl (owed_congr he rfl rfl) rfl rfl
  | @fundTrade k t tok _ ht hs ha htok hle =>
    have := escrow_setStatus ht .funded
    by_cases hT : tok = token
    · subst hT
      simp only [owed, Op.released, Op.reclaimed, htok, if_true, Storage.saveTrade_usdcToken,
        move_contract_in _ _ _ ha.1, hs, TradeStatus.paid, accrued_saveTrade, Bool.false_eq_true,
        if_false] at this ⊢
      omega
    · simp [owed, Op.released, Op.reclaimed, htok, hT, move_other (Ne.symm hT)]
  | completeTrade _ ht hs | cancelTrade _ ht hs =>
    exact books_still rfl (owed_setStatus ht (by rw [hs]; rfl)) rfl rfl
  | raiseDispute _ ht hs =>
    exact books_still rfl (owed_setStatus ht (by rcases hs with hs | hs <;> rw [hs] <;> rfl)) rfl rfl
  | @confirmReceipt k t _ _ _ _ _ ht _ _ htok hp hle hacc hfees =>
    exact books_payOut ht htok (hpar k t ht).1 hp hle hacc hfees rfl rfl
  | @resolveDispute k res t _ _ _ _ _ _ ht hs _ _ htok hp hle hacc hfees =>
    have hrec : res.recipient t ≠ w.contract := by
      rcases res.recipient_mem t with h | h <;> rw [h]
      exacts [(hpar k t ht).2 (by rw [hs]; rfl), (hpar k t ht).1]
    exact books_payOut ht htok hrec hp hle hacc hfees rfl rfl

/-- The same of a whole call: a failed one changes neither side. -/
theorem call_books (c : Call) {w : World} (hw : Reachable w) (token : Address) :
    (c.run w).2.ledger token w.contract + Step.released token ⟨w, c, (c.run w).1, (c.run w).2⟩ +
        owed w.storage token =
      w.ledger token w.contract + owed (c.run w).2.storage token +
        Step.reclaimed token ⟨w, c, (c.run w).1, (c.run w).2⟩ := by
  rcases c.run_cases w with ⟨h, e, he⟩ | ⟨v, hv, h⟩
  · simp only [Step.released, Step.reclaimed, he, Step.ok_error, h, Bool.false_eq_true, if_false]
    omega
  · simp only [Step.released, Step.reclaimed, hv, Step.ok_ok, if_true]
    exact body_books hw h token

/-! ## Main results -/

/-- **The contract's books.** For every token and every run from a
reachable world, the contract's balance after the run, plus the escrow the
run's settlements released (each successful `confirm_receipt(k)` or
`resolve_dispute(k, _)` the whole amount of trade `k`, again at every
repeated settlement), plus what it owed before, equals its balance before,
plus what it owes after (the accrued fees and the amount of every trade paid
in, in the stored token), plus the fees withdrawn to the contract itself.
From a fresh contract, which owes nothing, the balance is what it held,
plus what it owes, less the escrow released, plus the fees it reclaimed. -/
theorem escrow_accounting {w : World} (hw : Reachable w) (cs : List Call) (token : Address) :
    (final w cs).ledger token w.contract + ((trace w cs).map (Step.released token)).sum +
        owed w.storage token =
      w.ledger token w.contract + owed (final w cs).storage token +
        ((trace w cs).map (Step.reclaimed token)).sum := by
  induction cs generalizing w with
  | nil =>
    simp only [final_nil, trace_nil, List.map_nil, List.sum_nil]
    omega
  | cons c cs ih =>
    have h₁ := call_books c hw token
    have h₂ := ih (hw.call c)
    rw [Call.run_contract] at h₂
    simp only [final_cons, trace_cons, List.map_cons, List.sum_cons]
    omega

theorem escrow_accounting_settled_twice :
    let w₀ : World := ⟨⟨2⟩, .empty, fun tok a => if tok = ⟨1⟩ ∧ (a = ⟨4⟩ ∨ a = ⟨6⟩) then 10000 else 0, []⟩
    let cs : List Call :=
      [⟨⟨⟨0⟩, [⟨0⟩]⟩, .initializeContract ⟨0⟩ ⟨1⟩ 250⟩,
       ⟨⟨⟨3⟩, [⟨3⟩]⟩, .createTrade ⟨3⟩ ⟨4⟩ 10000 none⟩,
       ⟨⟨⟨5⟩, [⟨5⟩]⟩, .createTrade ⟨5⟩ ⟨6⟩ 10000 none⟩,
       ⟨⟨⟨4⟩, [⟨4⟩]⟩, .fundTrade 1⟩,
       ⟨⟨⟨6⟩, [⟨6⟩]⟩, .fundTrade 2⟩,
       ⟨⟨⟨3⟩, [⟨3⟩]⟩, .completeTrade 1⟩,
       ⟨⟨⟨4⟩, [⟨4⟩]⟩, .confirmReceipt 1⟩,
       ⟨⟨⟨4⟩, [⟨4⟩]⟩, .confirmReceipt 1⟩]
    Reachable w₀ ∧
      (final w₀ cs).ledger ⟨1⟩ w₀.contract + ((trace w₀ cs).map (Step.released ⟨1⟩)).sum +
          owed w₀.storage ⟨1⟩ =
        w₀.ledger ⟨1⟩ w₀.contract + owed (final w₀ cs).storage ⟨1⟩ +
          ((trace w₀ cs).map (Step.reclaimed ⟨1⟩)).sum :=
  ⟨.fresh rfl, escrow_accounting (.fresh rfl) _ _⟩

end StellarEscrow
