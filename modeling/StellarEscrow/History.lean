/-
The trade lifecycle over runs. Every call on a trade first checks the
trade's status (`Requires`), and a call changes a status only by a lifecycle
step and only when it returns `Ok`. So a trade never returns to `Created`,
`fund_trade` succeeds at most once on it, a cancelled trade refuses every
call on it (token moves included), and a trade that is `Completed` or
`Disputed` was funded earlier in the run.
-/
import StellarEscrow.Frame

namespace StellarEscrow

open Exec

/-- The trade a call is about. -/
def Op.tradeId : Op → Option U64
  | .fundTrade k | .completeTrade k | .confirmReceipt k | .raiseDispute k
  | .resolveDispute k _ | .cancelTrade k => some k
  | _ => none

/-- The status each call on a trade requires of it. -/
def Requires : Op → TradeStatus → Prop
  | .fundTrade _, s | .cancelTrade _, s => s = .created
  | .completeTrade _, s => s = .funded
  | .confirmReceipt _, s => s = .completed
  | .raiseDispute _, s => s = .funded ∨ s = .completed
  | .resolveDispute _ _, s => s = .disputed
  | _, _ => True

/-- The statuses of a trade whose amount the buyer has paid in. -/
def TradeStatus.paid : TradeStatus → Bool
  | .funded | .completed | .disputed => true
  | .created | .cancelled => false

theorem requires_not_cancelled {op : Op} {k : U64} (hk : op.tradeId = some k) :
    ¬ Requires op .cancelled := by
  cases op <;> simp [Op.tradeId, Requires] at hk ⊢

theorem Lifecycle.fund_of_paid {op : Op} {k : U64} {a b : TradeStatus} (h : Lifecycle op k a b)
    (hb : b.paid) (ha : ¬ a.paid) : op = .fundTrade k := by
  cases h <;> simp_all [TradeStatus.paid]

/-! ## One call -/

/-- A call on a trade succeeds only on a stored trade in the status it requires. -/
theorem body_requires {env : Env} {op : Op} {w w' : World} {v : Option U64} {k : U64}
    (hk : op.tradeId = some k) (h : op.body env w = (.ok v, w')) :
    ∃ t, w.storage.trades k = some t ∧ Requires op t.status := by
  cases body_ok h with
  | fundTrade _ ht hs | completeTrade _ ht hs | confirmReceipt _ ht hs | raiseDispute _ ht hs
  | resolveDispute _ ht hs | cancelTrade _ ht hs => cases hk; exact ⟨_, ht, hs⟩
  | _ => cases hk

/-- A call changes a trade's status only by a lifecycle step, and only when
it returns `Ok`. -/
theorem status_step {c : Call} {w : World} (hw : Reachable w) {k : U64} {t : Trade}
    (ht : w.storage.trades k = some t) :
    ∃ t', (c.run w).2.storage.trades k = some t' ∧
      (t'.status = t.status ∨ (c.run w).1.isOk ∧ Lifecycle c.op k t.status t'.status) := by
  obtain ⟨t', ht', -, hs⟩ := trade_step (c := c) hw ht
  refine ⟨t', ht', ?_⟩
  rcases c.run_cases w with ⟨hw', -⟩ | ⟨v, hv, -⟩
  · rw [hw', ht] at ht'; cases ht'; exact .inl rfl
  · rw [hv]; exact hs.imp_right fun h => ⟨rfl, h.1⟩

/-- A successful `fund_trade(k)` found the trade `Created` and left it `Funded`. -/
theorem fundTrade_run {c : Call} {w : World} {k : U64} (hop : c.op = .fundTrade k)
    (hok : (c.run w).1.isOk) :
    ∃ t, w.storage.trades k = some t ∧ t.status = .created ∧
      (c.run w).2.storage.trades k = some { t with status := .funded } := by
  rcases c.run_cases w with ⟨-, e, he⟩ | ⟨v, -, h⟩
  · rw [he] at hok; cases hok
  rw [hop] at h
  obtain ⟨-, t, _, ht, hs, -, -, -, hw'⟩ := fundTrade_ok (body_unit_eq_ok.1 h).1
  exact ⟨t, ht, hs, by rw [hw']; simp⟩

/-- A set of statuses that no lifecycle step leaves is kept by every call. -/
theorem status_stays {k : U64} {P : TradeStatus → Prop}
    (hP : ∀ {op a b}, P a → Lifecycle op k a b → P b) (c : Call) {w : World} (hw : Reachable w) :
    (∃ t, w.storage.trades k = some t ∧ P t.status) →
      ∃ t, (c.run w).2.storage.trades k = some t ∧ P t.status
  | ⟨_, ht, hp⟩ => by
    obtain ⟨t', ht', hs | ⟨-, hl⟩⟩ := status_step (c := c) hw ht
    · exact ⟨t', ht', hs ▸ hp⟩
    · exact ⟨t', ht', hP hp hl⟩

/-! ## Runs -/

/-- Once a trade is past `Created`, no later `fund_trade` on it succeeds. -/
theorem no_fund_after {w : World} (hw : Reachable w) {k : U64}
    (h : ∃ t, w.storage.trades k = some t ∧ t.status ≠ .created) (cs : List Call) :
    (trace w cs).countP (fun st => st.ok && decide (st.call.op = .fundTrade k)) = 0 := by
  have hinv := (hw.trace_inv _ (status_stays fun _ hl => hl.target_ne_created) h cs).1
  refine List.countP_eq_zero.2 fun st hst hf => ?_
  simp only [Bool.and_eq_true, decide_eq_true_eq] at hf
  obtain ⟨-, -, hres⟩ := hw.trace_pre hst
  obtain ⟨t, ht, hs⟩ := hinv st hst
  obtain ⟨t', ht', hs', -⟩ := fundTrade_run hf.2 (by rw [← hres]; exact hf.1)
  rw [ht] at ht'; cases ht'
  exact hs hs'

theorem fund_once {w : World} (hw : Reachable w) (k : U64) :
    ∀ cs, (trace w cs).countP (fun st => st.ok && decide (st.call.op = .fundTrade k)) ≤ 1
  | [] => by simp
  | c :: cs => by
    rw [trace_cons, List.countP_cons]
    by_cases hf : (c.run w).1.isOk ∧ c.op = .fundTrade k
    · obtain ⟨t, -, -, ht⟩ := fundTrade_run hf.2 hf.1
      rw [no_fund_after (hw.call c) ⟨_, ht, by simp⟩]
      split <;> omega
    · have hf' : ¬ (Step.ok ⟨w, c, (c.run w).1, (c.run w).2⟩ && decide (c.op = .fundTrade k)) :=
        by simpa [Step.ok] using hf
      rw [if_neg hf']
      exact fund_once (hw.call c) k cs

/-- A paid trade was paid before the run, or funded during it. -/
theorem paid_funded {w : World} (hw : Reachable w) :
    ∀ (cs : List Call) {k : U64} {t : Trade}, (final w cs).storage.trades k = some t →
      t.status.paid → (∃ t₀, w.storage.trades k = some t₀ ∧ t₀.status.paid) ∨
        ∃ st ∈ trace w cs, st.call.op = .fundTrade k ∧ st.ok
  | [], _, t, h, hp => .inl ⟨t, h, hp⟩
  | c :: cs, k, t, h, hp => by
    rcases paid_funded (hw.call c) cs h hp with ⟨t₁, h₁, hp₁⟩ | ⟨st, hst, hf⟩
    · cases h₀ : w.storage.trades k with
      | none => simp [(created_step hw h₀ h₁).2, TradeStatus.paid] at hp₁
      | some t₀ =>
        obtain ⟨t₁', h₁', hs⟩ := status_step (c := c) hw h₀
        rw [h₁] at h₁'; cases h₁'
        by_cases hp₀ : t₀.status.paid
        · exact .inl ⟨t₀, rfl, hp₀⟩
        · rcases hs with hs | ⟨hok, hl⟩
          · rw [hs] at hp₁; exact absurd hp₁ hp₀
          · exact .inr ⟨_, .head _, hl.fund_of_paid hp₁ hp₀, hok⟩
    · exact .inr ⟨st, .tail _ hst, hf⟩

/-- From a cancelled trade every call on it fails and keeps the world, and
the trade stays cancelled. -/
theorem cancelled_run {w : World} (hw : Reachable w) {k : U64} {t : Trade}
    (ht : w.storage.trades k = some t) (hs : t.status = .cancelled) (cs : List Call) :
    (∃ t', (final w cs).storage.trades k = some t' ∧ t'.status = .cancelled) ∧
      ∀ st ∈ trace w cs, st.call.op.tradeId = some k → st.ok = false ∧ st.post = st.pre := by
  have hinv := hw.trace_inv _ (status_stays fun ha hl => absurd ha hl.source_ne_cancelled)
    ⟨t, ht, hs⟩ cs
  refine ⟨hinv.2, fun st hst hk => ?_⟩
  rcases (hw.trace_step hst).2 with h | ⟨v, -, hb⟩
  · exact h
  obtain ⟨t₁, ht₁, hreq⟩ := body_requires hk hb
  obtain ⟨t₂, ht₂, hs₂⟩ := hinv.1 st hst
  rw [ht₂] at ht₁; cases ht₁
  exact absurd (hs₂ ▸ hreq) (requires_not_cancelled hk)

/-! ## Main results -/

/-- **The lifecycle.** From a reachable world, a call changes a stored
trade's status only by a lifecycle step (`Created → Funded`,
`Created → Cancelled`, `Funded → Completed`, `Funded → Disputed`,
`Completed → Disputed`) made by a successful call on that trade, and a new
trade starts `Created`. Over every run: a trade past `Created` never returns
to it, `fund_trade(k)` succeeds at most once, a cancelled trade stays
cancelled and every later call on it fails and changes nothing (no token
moves), and from a fresh contract a `Completed` or `Disputed` trade was
funded by a successful `fund_trade` earlier in the run. -/
theorem trade_lifecycle :
    (∀ {w : World}, Reachable w → ∀ (c : Call) {k : U64} {t : Trade},
      w.storage.trades k = some t → ∃ t', (c.run w).2.storage.trades k = some t' ∧
        (t'.status = t.status ∨ (c.run w).1.isOk ∧ Lifecycle c.op k t.status t'.status)) ∧
    (∀ {w : World}, Reachable w → ∀ (c : Call) {k : U64} {t : Trade},
      w.storage.trades k = none → (c.run w).2.storage.trades k = some t → t.status = .created) ∧
    (∀ {w : World}, Reachable w → ∀ {k : U64} {t : Trade}, w.storage.trades k = some t →
      t.status ≠ .created → ∀ cs,
        ∃ t', (final w cs).storage.trades k = some t' ∧ t'.status ≠ .created) ∧
    (∀ {w : World}, Reachable w → ∀ (k : U64) cs,
      (trace w cs).countP (fun st => st.ok && decide (st.call.op = .fundTrade k)) ≤ 1) ∧
    (∀ {w : World}, Reachable w → ∀ {k : U64} {t : Trade}, w.storage.trades k = some t →
      t.status = .cancelled → ∀ cs,
        (∃ t', (final w cs).storage.trades k = some t' ∧ t'.status = .cancelled) ∧
        ∀ st ∈ trace w cs, st.call.op.tradeId = some k → st.ok = false ∧ st.post = st.pre) ∧
    ∀ {w₀ : World}, w₀.storage = .empty → ∀ cs {k : U64} {t : Trade},
      (final w₀ cs).storage.trades k = some t → (t.status = .completed ∨ t.status = .disputed) →
        ∃ st ∈ trace w₀ cs, st.call.op = .fundTrade k ∧ st.ok := by
  refine ⟨fun hw c _ _ ht => status_step hw ht, fun hw c _ _ h₀ h₁ => (created_step hw h₀ h₁).2,
    fun hw _ t ht hs cs =>
      (hw.trace_inv _ (status_stays fun _ hl => hl.target_ne_created) ⟨t, ht, hs⟩ cs).2,
    fun hw k cs => fund_once hw k cs, fun hw _ _ ht hs cs => cancelled_run hw ht hs cs,
    fun h₀ cs k t h hs => ?_⟩
  have hp : t.status.paid := by rcases hs with hs | hs <;> rw [hs] <;> rfl
  rcases paid_funded (.fresh h₀) cs h hp with ⟨t₀, ht₀, -⟩ | hf
  · simp [h₀, Storage.empty] at ht₀
  · exact hf

end StellarEscrow
