/-
The fee rate and the fee of every trade. `initialize` and `update_fee`
refuse a rate above 10000 basis points, and `create_trade` computes a
trade's fee once, as `amount * fee_bps / 10000` with the product checked to
fit in a `u64`, and never again: so every stored fee is at most its
amount, and the payout `amount - fee` that `confirm_receipt` and
`resolve_dispute` compute never underflows. A trade becomes `Disputed` only
through `raise_dispute`, which refuses a trade without an arbitrator, so
`resolve_dispute` never finds one missing.
-/
import StellarEscrow.Frame

namespace StellarEscrow

open Exec

theorem resolveDispute_arbitrator_missing {env : Env} {w w' : World} {k : U64}
    {res : DisputeResolution}
    (h : resolveDispute env k res w = (.error (.contract .arbitratorNotRegistered), w')) :
    ∃ t, w.storage.trades k = some t ∧ t.status = .disputed ∧ t.arbitrator = none := by
  simp [resolveDispute, payOut, and_assoc] at h
  obtain ⟨-, t, ht, hs, -, harb⟩ := h
  exact ⟨t, ht, hs, harb⟩

/-- **Fees.** Over a run from a fresh contract, the fee rate stays at most
10000 basis points, and every stored trade has a positive amount, a fee at
most that amount, an arbitrator if disputed, and the fee `create_trade`
computed at the rate `b` in force when it created the trade, with
`amount * b` within a `u64`. So in every reachable world the payout
`amount - fee` never underflows, and `resolve_dispute` never fails for want
of an arbitrator. -/
theorem fee_terms :
    (∀ {w₀ : World}, w₀.storage = .empty → ∀ cs : List Call,
      (∀ b, (final w₀ cs).storage.feeBps = some b → b.val ≤ 10000) ∧
      ∀ k t, (final w₀ cs).storage.trades k = some t →
        0 < t.amount.val ∧ t.fee.val ≤ t.amount.val ∧ (t.status = .disputed → t.arbitrator.isSome) ∧
        ∃ st ∈ trace w₀ cs, CreatedAt st k t) ∧
    ∀ {w : World}, Reachable w →
      (∀ k t, w.storage.trades k = some t → (checkedSub t.amount t.fee).isSome) ∧
      ∀ env k res, (resolveDispute env k res w).1 ≠ .error (.contract .arbitratorNotRegistered) := by
  refine ⟨fun h₀ cs => ⟨fun b hb => ?_, fun k t ht => ?_⟩, fun {w} hw => ⟨fun k t ht => ?_, ?_⟩⟩
  · have hw := (Reachable.fresh h₀).final cs
    rcases reachable_configOk hw with he | hc
    · simp [he, Storage.empty] at hb
    · obtain ⟨b', hb', hle⟩ := hc.feeBps
      rw [hb] at hb'; cases hb'; exact hle
  · have hwf := reachable_tradesWf ((Reachable.fresh h₀).final cs) k t ht
    exact ⟨hwf.amount, hwf.fee_le, hwf.disputed, stored_created_fresh h₀ cs ht⟩
  · have hle := (reachable_tradesWf hw k t ht).fee_le
    simp [checkedSub, hle]
  · intro env k res h
    obtain ⟨t, ht, hs, harb⟩ := resolveDispute_arbitrator_missing (Prod.ext h rfl)
    simpa [harb] using (reachable_tradesWf hw k t ht).disputed hs

end StellarEscrow
