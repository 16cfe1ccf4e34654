/-
Trade ids. `increment_trade_counter` issues `counter + 1` and stores it
before `create_trade` stores the trade under it, and a failing call is
rolled back whole, counter included; no other call writes the counter or
adds a key. So the ids successful `create_trade` calls return over any run
from a fresh contract are `1, 2, 3, ...`, whatever else is interleaved.
-/
import StellarEscrow.Records

namespace StellarEscrow

open Exec

/-- The ids successful `create_trade` calls returned, in order. -/
def createdIds : List Step → List Nat :=
  List.filterMap fun st =>
    match st.call.op, st.result with
    | .createTrade .., .ok (some r) => some r.val
    | _, _ => none

@[simp] theorem createdIds_nil : createdIds [] = [] := rfl

theorem createdIds_cons (st : Step) (sts : List Step) :
    createdIds (st :: sts) = createdIds [st] ++ createdIds sts := by
  simp only [createdIds, List.filterMap_cons, List.filterMap_nil]
  split <;> rfl

/-- One call issues the next id, and counts it, or issues none. -/
theorem ids_step {w : World} (hw : Reachable w) (c : Call) :
    (createdIds [⟨w, c, (c.run w).1, (c.run w).2⟩] = [] ∧
        tradeCount (c.run w).2.storage = tradeCount w.storage) ∨
      (createdIds [⟨w, c, (c.run w).1, (c.run w).2⟩] = [tradeCount w.storage + 1] ∧
        tradeCount (c.run w).2.storage = tradeCount w.storage + 1) := by
  rcases c.run_cases w with ⟨hw', e, he⟩ | ⟨v, hv, h⟩
  · left
    rw [hw']
    simp [createdIds, he]
  rcases body_trades (reachable_configOk hw) h with ⟨rfl, -, hn, -⟩ | ⟨r, t, rfl, hop, hnew, -⟩ |
      ⟨k, t, s, rfl, -, -, -, hn, -⟩
  · left; simp [createdIds, hv, hn]
  · right
    rw [tradeCount_some hnew.count, hnew.next]
    simp [createdIds, hv, hop, hnew.next]
  · left; simp [createdIds, hv, hn]

theorem createdIds_trace {w : World} (hw : Reachable w) :
    ∀ cs, createdIds (trace w cs) =
      List.range' (tradeCount w.storage + 1) (createdIds (trace w cs)).length
  | [] => rfl
  | c :: cs => by
    have ih := createdIds_trace (hw.call c) cs
    rw [trace_cons, createdIds_cons]
    rcases ids_step hw c with ⟨h1, h2⟩ | ⟨h1, h2⟩ <;> rw [h2] at ih
    · rwa [h1, List.nil_append]
    · rw [h1, List.singleton_append, List.length_cons, List.range'_succ]
      exact congrArg _ ih

/-- **Trade ids.** In every reachable world after `initialize`, the keys
holding a trade are exactly `1, ..., counter`, each record under its own
id. So a successful `create_trade` returns `counter + 1` of the world it
ran in, a key that held no trade; and over any run from a fresh contract,
the ids successful `create_trade` calls return are `1, 2, 3, ...`, never one
twice. -/
theorem trade_ids :
    (∀ {w : World}, Reachable w → w.storage.initialized = true →
      ∃ n : U64, w.storage.tradeCounter = some n ∧
        (∀ k : U64, (w.storage.trades k).isSome ↔ 1 ≤ k.val ∧ k.val ≤ n.val) ∧
        ∀ k t, w.storage.trades k = some t → t.id = k) ∧
    (∀ {w : World}, Reachable w → ∀ (env : Env) seller buyer amount arb (r : U64),
      (Call.run ⟨env, .createTrade seller buyer amount arb⟩ w).1 = .ok (some r) →
        ∃ n : U64, w.storage.tradeCounter = some n ∧ r.val = n.val + 1 ∧
          w.storage.trades r = none) ∧
    ∀ {w₀ : World}, w₀.storage = .empty → ∀ cs : List Call,
      createdIds (trace w₀ cs) = List.range' 1 (createdIds (trace w₀ cs)).length ∧
        (createdIds (trace w₀ cs)).Nodup := by
  refine ⟨fun hw hi => ?_, fun {w} hw env seller buyer amount arb r hr => ?_, fun h₀ cs => ?_⟩
  · obtain ⟨n, hn⟩ := Option.isSome_iff_exists.1 ((reachable_configOk hw).configured hi).tradeCounter
    obtain ⟨hkeys, hids⟩ := reachable_keysOk hw
    exact ⟨n, hn, fun k => by rw [hkeys k, tradeCount_some hn], hids⟩
  · rcases Call.run_cases ⟨env, .createTrade seller buyer amount arb⟩ w with ⟨-, e, he⟩ | ⟨v, hv, h⟩
    · rw [hr] at he; cases he
    rw [hr] at hv; cases hv
    obtain ⟨r', hcr, hr'⟩ := body_createTrade_eq_ok.1 h
    cases hr'
    obtain ⟨hi, -, -, -, n, -, -, hn, hrn, -⟩ := createTrade_ok hcr
    rcases body_trades (reachable_configOk hw) h with ⟨h', -⟩ | ⟨r'', t, h', -, hnew, -⟩ |
        ⟨-, -, -, h', -⟩
    · cases h'
    · cases h'
      exact ⟨n, hn, hrn, hnew.fresh (reachable_keysOk hw)⟩
    · cases h'
  · have hc := createdIds_trace (.fresh h₀) cs
    rw [h₀] at hc
    refine ⟨hc, ?_⟩
    rw [hc]
    exact List.nodup_range' _ _

end StellarEscrow
