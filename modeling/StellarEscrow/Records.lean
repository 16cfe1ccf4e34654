/-
The trade records in every reachable world. The keys holding a trade are
exactly `1, ..., counter`, each record under its own id (`KeysOk`), so
`create_trade`, which stores under `counter + 1`, never overwrites one. Each
record keeps the terms `create_trade` gave it (`Trade.terms`): a positive
amount and a fee at a rate of at most 10000 basis points whose product with
the amount fits in a `u64` (`TradeWf`); a call changes at most its status.
-/
import StellarEscrow.Trades

namespace StellarEscrow

open Exec

/-- Everything in a trade but its status. -/
def Trade.terms (t : Trade) : U64 × Address × Address × U64 × U64 × Option Address :=
  (t.id, t.seller, t.buyer, t.amount, t.fee, t.arbitrator)

@[simp] theorem Trade.terms_setStatus (t : Trade) (s : TradeStatus) :
    { t with status := s }.terms = t.terms := rfl

theorem Trade.ext_terms {t t' : Trade} (h : t'.terms = t.terms) (hs : t'.status = t.status) :
    t' = t := by
  cases t; cases t'; simp_all [Trade.terms]

/-! ## Keys -/

/-- The keys holding a trade are `1, ..., counter`, each record under its own id. -/
def KeysOk (s : Storage) : Prop :=
  (∀ k, (s.trades k).isSome ↔ 1 ≤ k.val ∧ k.val ≤ tradeCount s) ∧
    ∀ k t, s.trades k = some t → t.id = k

theorem keysOk_step {env : Env} {op : Op} {w w' : World} {v : Option U64}
    (hc : ConfigOk w.storage) (hk : KeysOk w.storage) (h : op.body env w = (.ok v, w')) :
    KeysOk w'.storage := by
  obtain ⟨hkeys, hids⟩ := hk
  rcases body_trades hc h with ⟨-, ht, hn, -⟩ | ⟨r, t, -, -, hnew, ht⟩ | ⟨k₀, t, s, -, hk₀, -, -, hn, ht⟩
  · rw [KeysOk, ht, hn]; exact ⟨hkeys, hids⟩
  · have hr := hnew.next
    rw [KeysOk, ht, tradeCount_some hnew.count]
    refine ⟨fun k => ?_, fun k t' => ?_⟩
    · by_cases hkr : k = r
      · subst hkr; simp; omega
      · have : k.val ≠ r.val := fun h => hkr (Fin.ext h)
        simp [Function.update_noteq hkr, hkeys]; omega
    · by_cases hkr : k = r
      · subst hkr; simp only [Function.update_same, Option.some.injEq]; rintro rfl; exact hnew.id
      · simpa [Function.update_noteq hkr] using hids k t'
  · rw [KeysOk, ht, hn]
    refine ⟨fun k => ?_, fun k t' => ?_⟩
    · by_cases hkk : k = k₀
      · subst hkk; simpa [hk₀] using hkeys k
      · simpa [Function.update_noteq hkk] using hkeys k
    · by_cases hkk : k = k₀
      · subst hkk; simp only [Function.update_same, Option.some.injEq]; rintro rfl; exact hids k t hk₀
      · simpa [Function.update_noteq hkk] using hids k t'

theorem reachable_keysOk {w : World} (hw : Reachable w) : KeysOk w.storage :=
  Reachable.storage (fun s => ConfigOk s ∧ KeysOk s)
    ⟨.inl rfl, by simp [KeysOk, Storage.empty, tradeCount]; omega⟩
    (fun _ _ _ hw' hi h => ⟨.inr (configured_of_body hi.1 h), keysOk_step hi.1 hi.2 h⟩) hw |>.2

/-- `create_trade` stores its trade under a key that held none. -/
theorem NewTrade.fresh {env : Env} {w w' : World} {r : U64} {t : Trade} (hk : KeysOk w.storage)
    (h : NewTrade env w w' r t) : w.storage.trades r = none := by
  have := (hk.1 r).not.2 (by have := h.next; omega)
  simpa using this

/-! ## Terms -/

/-- The terms `create_trade` gives a trade, and a dispute only where an
arbitrator is bound. -/
structure TradeWf (t : Trade) : Prop where
  amount : 0 < t.amount.val
  fee : ∃ b : U32, b.val ≤ 10000 ∧ t.amount.val * b.val < 2 ^ 64 ∧ t.fee.val = feeOf t.amount b
  disputed : t.status = .disputed → t.arbitrator.isSome

/-- Every stored trade is well formed. -/
def TradesWf (s : Storage) : Prop := ∀ k t, s.trades k = some t → TradeWf t

theorem feeOf_le {amount : U64} {b : U32} (hb : b.val ≤ 10000) : feeOf amount b ≤ amount.val :=
  Nat.div_le_of_le_mul (by rw [Nat.mul_comm 10000]; exact Nat.mul_le_mul_left _ hb)

theorem TradeWf.fee_le {t : Trade} (h : TradeWf t) : t.fee.val ≤ t.amount.val := by
  obtain ⟨b, hb, -, hf⟩ := h.fee
  exact hf ▸ feeOf_le hb

theorem tradesWf_step {env : Env} {op : Op} {w w' : World} {v : Option U64}
    (hc : ConfigOk w.storage) (hwf : TradesWf w.storage) (h : op.body env w = (.ok v, w')) :
    TradesWf w'.storage := by
  rcases body_trades hc h with ⟨-, ht, -⟩ | ⟨r, t, -, -, hnew, ht⟩ | ⟨k₀, t, s, -, hk₀, hl, hchk, -, ht⟩
  · rw [TradesWf, ht]; exact hwf
  · rw [TradesWf, ht]
    intro k t' hk
    by_cases hkr : k = r
    · subst hkr
      simp only [Function.update_same, Option.some.injEq] at hk
      subst hk
      obtain ⟨b, hb, hlt, hf⟩ := hnew.fee
      have hcfg := hc.resolve_left fun he => by simp [he, Storage.empty] at hb
      obtain ⟨b', hb', hle⟩ := hcfg.feeBps
      rw [hb] at hb'; cases hb'
      exact ⟨Nat.pos_of_ne_zero hnew.amount, ⟨b, hle, hlt, hf⟩, fun hd => by simp [hnew.status] at hd⟩
    · exact hwf k t' (by simpa [Function.update_noteq hkr] using hk)
  · rw [TradesWf, ht]
    intro k t' hk
    by_cases hkk : k = k₀
    · subst hkk
      simp only [Function.update_same, Option.some.injEq] at hk
      subst hk
      have hw := hwf _ _ hk₀
      refine ⟨hw.amount, hw.fee, fun hd => ?_⟩
      subst hd
      rw [hl.op_of_disputed] at hchk
      exact hchk.1
    · exact hwf k t' (by simpa [Function.update_noteq hkk] using hk)

theorem reachable_tradesWf {w : World} (hw : Reachable w) : TradesWf w.storage :=
  Reachable.storage (fun s => ConfigOk s ∧ TradesWf s)
    ⟨.inl rfl, by simp [TradesWf, Storage.empty]⟩
    (fun _ _ _ _ hi h => ⟨.inr (configured_of_body hi.1 h), tradesWf_step hi.1 hi.2 h⟩) hw |>.2

/-! ## What one call changes of a trade -/

/-- **Frame.** From a reachable world, a call keeps every stored trade
under its key with its terms, and changes its status only by a lifecycle
step of a call on that key. -/
theorem trade_step {c : Call} {w : World} (hw : Reachable w) {k : U64} {t : Trade}
    (ht : w.storage.trades k = some t) :
    ∃ t', (c.run w).2.storage.trades k = some t' ∧ t'.terms = t.terms ∧
      (t'.status = t.status ∨ Lifecycle c.op k t.status t'.status ∧ StatusCheck c.env w t c.op) := by
  rcases c.run_cases w with ⟨hw', -⟩ | ⟨v, -, h⟩
  · exact ⟨t, by rw [hw']; exact ht, rfl, .inl rfl⟩
  rcases body_trades (reachable_configOk hw) h with ⟨-, htr, -⟩ | ⟨r, t₁, -, -, hnew, htr⟩ |
      ⟨k₀, t₀, s, -, hk₀, hl, hchk, -, htr⟩
  · exact ⟨t, by rw [htr]; exact ht, rfl, .inl rfl⟩
  · have hkr : k ≠ r := by
      rintro rfl; simp [hnew.fresh (reachable_keysOk hw)] at ht
    exact ⟨t, by rw [htr, Function.update_noteq hkr]; exact ht, rfl, .inl rfl⟩
  · by_cases hkk : k = k₀
    · subst hkk
      rw [hk₀] at ht; cases ht
      exact ⟨{ t with status := s }, by rw [htr, Function.update_same], rfl, .inr ⟨hl, hchk⟩⟩
    · exact ⟨t, by rw [htr, Function.update_noteq hkk]; exact ht, rfl, .inl rfl⟩

end StellarEscrow
