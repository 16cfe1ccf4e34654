/-
A trade's terms over a run. Once stored, a record keeps every field but its
status (`trade_terms_fixed`), so the trades stored at the end of a run from
a fresh contract are exactly those `create_trade` made during it, each with
the seller, buyer, amount and arbitrator it was given and the fee at the
rate in force at that call (`stored_created`).
-/
import StellarEscrow.Records

namespace StellarEscrow

open Exec

/-- Step `st` was a `create_trade` that returned `k` and gave its trade the
terms of `t`, the fee at the rate in force then. -/
def CreatedAt (st : Step) (k : U64) (t : Trade) : Prop :=
  st.call.op = .createTrade t.seller t.buyer t.amount t.arbitrator ∧ st.result = .ok (some k) ∧
    ∃ b : U32, st.pre.storage.feeBps = some b ∧ t.amount.val * b.val ≤ 2 ^ 64 - 1 ∧
      t.fee.val = t.amount.val * b.val / 10000

theorem CreatedAt.of_terms {st : Step} {k : U64} {t t' : Trade} (h : CreatedAt st k t)
    (ht : t'.terms = t.terms) : CreatedAt st k t' := by
  simp only [Trade.terms, Prod.mk.injEq] at ht
  obtain ⟨-, hs, hb, ha, hf, harb⟩ := ht
  rw [CreatedAt, hs, hb, ha, hf, harb]
  exact h

/-- A trade that appears in one call was created by it, `Created`. -/
theorem created_step {c : Call} {w : World} (hw : Reachable w) {k : U64} {t : Trade}
    (h0 : w.storage.trades k = none) (h1 : (c.run w).2.storage.trades k = some t) :
    CreatedAt ⟨w, c, (c.run w).1, (c.run w).2⟩ k t ∧ t.status = .created := by
  rcases c.run_cases w with ⟨hw', -⟩ | ⟨v, hv, h⟩
  · rw [hw', h0] at h1; cases h1
  rcases body_trades (reachable_configOk hw) h with ⟨-, htr, -⟩ | ⟨r, t₁, rfl, hop, hnew, htr⟩ |
      ⟨k₀, t₀, s, -, hk₀, -, -, -, htr⟩
  · rw [htr, h0] at h1; cases h1
  · by_cases hkr : k = r
    · subst hkr
      rw [htr, Function.update_same] at h1; cases h1
      obtain ⟨b, hb, hlt, hf⟩ := hnew.fee
      exact ⟨⟨hop, by rw [hv], b, hb, by omega, hf⟩, hnew.status⟩
    · rw [htr, Function.update_noteq hkr, h0] at h1; cases h1
  · have hkk : k ≠ k₀ := by rintro rfl; rw [h0] at hk₀; cases hk₀
    rw [htr, Function.update_noteq hkk, h0] at h1; cases h1

/-- **Provenance.** A trade stored at the end of a run was stored at its
start with the same terms, or was created during the run. -/
theorem stored_created {w : World} (hw : Reachable w) :
    ∀ (cs : List Call) {k : U64} {t : Trade}, (final w cs).storage.trades k = some t →
      (∃ t₀, w.storage.trades k = some t₀ ∧ t.terms = t₀.terms) ∨
        ∃ st ∈ trace w cs, CreatedAt st k t
  | [], _, t, h => .inl ⟨t, h, rfl⟩
  | c :: cs, k, t, h => by
    rcases stored_created (hw.call c) cs h with ⟨t₁, h₁, hterms⟩ | ⟨st, hst, hcr⟩
    · cases h₀ : w.storage.trades k with
      | none => exact .inr ⟨_, .head _, (created_step hw h₀ h₁).1.of_terms hterms⟩
      | some t₀ =>
        obtain ⟨t₁', h₁', hterms', -⟩ := trade_step (c := c) hw h₀
        rw [h₁] at h₁'; cases h₁'
        exact .inl ⟨t₀, rfl, hterms.trans hterms'⟩
    · exact .inr ⟨st, .tail _ hst, hcr⟩

/-- Over a run from a fresh contract, every stored trade was created during it. -/
theorem stored_created_fresh {w₀ : World} (h₀ : w₀.storage = .empty) (cs : List Call) {k : U64}
    {t : Trade} (h : (final w₀ cs).storage.trades k = some t) :
    ∃ st ∈ trace w₀ cs, CreatedAt st k t := by
  rcases stored_created (.fresh h₀) cs h with ⟨t₀, h', -⟩ | h'
  · simp [h₀, Storage.empty] at h'
  · exact h'

/-! ## Main results -/

/-- **A call changes no trade's terms.** From a reachable world, a call
keeps every stored trade under its key with the same id, parties, amount,
fee and arbitrator; its status changes only by `fund_trade`,
`complete_trade`, `raise_dispute` or `cancel_trade` on that key, and any
other call leaves the record as it was. So over a run from a fresh
contract, every stored trade's fee is the one `create_trade` computed with
the rate in force when it created the trade, whatever came after. -/
theorem trade_terms_fixed :
    (∀ {w : World}, Reachable w → ∀ (c : Call) {k : U64} {t : Trade},
      w.storage.trades k = some t → ∃ t', (c.run w).2.storage.trades k = some t' ∧
        t'.id = t.id ∧ t'.seller = t.seller ∧ t'.buyer = t.buyer ∧ t'.amount = t.amount ∧
        t'.fee = t.fee ∧ t'.arbitrator = t.arbitrator ∧
        (t'.status ≠ t.status → c.op = .fundTrade k ∨ c.op = .completeTrade k ∨
          c.op = .raiseDispute k ∨ c.op = .cancelTrade k) ∧
        (c.op ≠ .fundTrade k → c.op ≠ .completeTrade k → c.op ≠ .raiseDispute k →
          c.op ≠ .cancelTrade k → t' = t)) ∧
    ∀ {w₀ : World}, w₀.storage = .empty → ∀ (cs : List Call) {k : U64} {t : Trade},
      (final w₀ cs).storage.trades k = some t → ∃ st ∈ trace w₀ cs, CreatedAt st k t := by
  refine ⟨fun hw c k t ht => ?_, fun h₀ cs _ _ h => stored_created_fresh h₀ cs h⟩
  obtain ⟨t', ht', hterms, hstatus⟩ := trade_step (c := c) hw ht
  simp only [Trade.terms, Prod.mk.injEq] at hterms
  obtain ⟨hi, hs, hb, ha, hf, harb⟩ := hterms
  have hop : t'.status ≠ t.status → c.op = .fundTrade k ∨ c.op = .completeTrade k ∨
      c.op = .raiseDispute k ∨ c.op = .cancelTrade k := fun hne =>
    (hstatus.resolve_left hne).1.op_cases
  refine ⟨t', ht', hi, hs, hb, ha, hf, harb, hop, fun h1 h2 h3 h4 => ?_⟩
  refine Trade.ext_terms (by simp [Trade.terms, hi, hs, hb, ha, hf, harb]) ?_
  by_contra hne
  rcases hop hne with h | h | h | h <;> contradiction

/-- `create_trade` never compares its two parties: from a fresh contract,
`initialize` and then `create_trade(s, s, ..)` store a trade whose seller is
its buyer. -/
theorem self_trade_stored :
    ¬ ∀ (w₀ : World), w₀.storage = .empty → ∀ (cs : List Call) (k : U64) (t : Trade),
      (final w₀ cs).storage.trades k = some t → t.seller ≠ t.buyer := fun h =>
  h ⟨⟨2⟩, .empty, fun _ _ => 0, []⟩ rfl
    [⟨⟨⟨0⟩, [⟨0⟩]⟩, .initializeContract ⟨0⟩ ⟨1⟩ 250⟩,
      ⟨⟨⟨3⟩, [⟨3⟩]⟩, .createTrade ⟨3⟩ ⟨3⟩ 10000 none⟩]
    1 ⟨1, ⟨3⟩, ⟨3⟩, 10000, 250, none, .created⟩ (by decide) rfl

/-- **Parties.** A stored trade has the parties its `create_trade` named,
never changed since; so after a run from a fresh contract whose successful
`create_trade` calls all name two distinct parties, every stored trade's
seller differs from its buyer. -/
theorem parties_distinct {w₀ : World} (h₀ : w₀.storage = .empty) (cs : List Call)
    (hcalls : ∀ st ∈ trace w₀ cs, ∀ seller buyer amount arb,
      st.call.op = .createTrade seller buyer amount arb → (∃ v, st.result = .ok v) →
        seller ≠ buyer) :
    ∀ k t, (final w₀ cs).storage.trades k = some t → t.seller ≠ t.buyer := by
  intro k t h
  obtain ⟨st, hst, hop, hres, -⟩ := stored_created_fresh h₀ cs h
  exact hcalls st hst _ _ _ _ hop ⟨_, hres⟩

theorem parties_distinct_run :
    (∀ st ∈ trace ⟨⟨2⟩, .empty, fun _ _ => 0, []⟩
        [⟨⟨⟨0⟩, [⟨0⟩]⟩, .initializeContract ⟨0⟩ ⟨1⟩ 250⟩,
          ⟨⟨⟨3⟩, [⟨3⟩]⟩, .createTrade ⟨3⟩ ⟨4⟩ 10000 none⟩],
      ∀ seller buyer amount arb, st.call.op = .createTrade seller buyer amount arb →
        (∃ v, st.result = .ok v) → seller ≠ buyer) ∧
    (final ⟨⟨2⟩, .empty, fun _ _ => 0, []⟩
        [⟨⟨⟨0⟩, [⟨0⟩]⟩, .initializeContract ⟨0⟩ ⟨1⟩ 250⟩,
          ⟨⟨⟨3⟩, [⟨3⟩]⟩, .createTrade ⟨3⟩ ⟨4⟩ 10000 none⟩]).storage.trades 1 =
      some ⟨1, ⟨3⟩, ⟨4⟩, 10000, 250, none, .created⟩ ∧
    (⟨3⟩ : Address) ≠ ⟨4⟩ := by
  have hcalls : ∀ st ∈ trace ⟨⟨2⟩, .empty, fun _ _ => 0, []⟩
      [⟨⟨⟨0⟩, [⟨0⟩]⟩, .initializeContract ⟨0⟩ ⟨1⟩ 250⟩,
        ⟨⟨⟨3⟩, [⟨3⟩]⟩, .createTrade ⟨3⟩ ⟨4⟩ 10000 none⟩],
      ∀ seller buyer amount arb, st.call.op = .createTrade seller buyer amount arb →
        (∃ v, st.result = .ok v) → seller ≠ buyer := by
    intro st hst seller buyer amount arb hop _
    simp only [trace_cons, trace_nil, List.mem_cons, List.not_mem_nil, or_false] at hst
    rcases hst with rfl | rfl <;> simp only [Op.createTrade.injEq, reduceCtorEq] at hop
    obtain ⟨rfl, rfl, -, -⟩ := hop
    decide
  have hstored : (final ⟨⟨2⟩, .empty, fun _ _ => 0, []⟩
      [⟨⟨⟨0⟩, [⟨0⟩]⟩, .initializeContract ⟨0⟩ ⟨1⟩ 250⟩,
        ⟨⟨⟨3⟩, [⟨3⟩]⟩, .createTrade ⟨3⟩ ⟨4⟩ 10000 none⟩]).storage.trades 1 =
      some ⟨1, ⟨3⟩, ⟨4⟩, 10000, 250, none, .created⟩ := by decide
  exact ⟨hcalls, hstored, parties_distinct rfl _ hcalls 1 _ hstored⟩

end StellarEscrow
