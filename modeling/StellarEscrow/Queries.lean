/-
The read-only functions, and the configuration over a run.
`get_platform_fee_bps` and `get_accumulated_fees` read the instance keys
`initialize` sets, so they fail only before it; `get_trade(k)` finds a
record exactly for `1 ≤ k ≤ counter`, the one stored under `k`, which the
`create_trade` that returned `k` made. The fee rate changes only by
`initialize` and `update_fee`, the arbitrator registry only by
`register_arbitrator` and `remove_arbitrator_fn` (`Op.feeRate`,
`Op.registry`), so over a run each is the fold of the successful calls.
-/
import StellarEscrow.Frame

namespace StellarEscrow

open Exec

/-- The fee rate a successful call leaves. -/
def Op.feeRate : Op → Option U32 → Option U32
  | .initializeContract _ _ b, _ | .updateFee b, _ => some b
  | _, rate => rate

/-- The arbitrator registry a successful call leaves. -/
def Op.registry : Op → (Address → Bool) → Address → Bool
  | .registerArbitrator a, r => Function.update r a true
  | .removeArbitratorFn a, r => Function.update r a false
  | _, r => r

/-- What a successful body does to the fee rate and the registry. -/
theorem body_config {env : Env} {op : Op} {w w' : World} {v : Option U64}
    (h : op.body env w = (.ok v, w')) :
    w'.storage.feeBps = op.feeRate w.storage.feeBps ∧
      w'.storage.arbitrators = op.registry w.storage.arbitrators := by
  cases body_ok h <;> exact ⟨rfl, rfl⟩

/-- The fee rate and the registry after a step of a run: a failed call
keeps them. -/
def Step.feeRate (r : Option U32) (st : Step) : Option U32 :=
  if st.ok then st.call.op.feeRate r else r

def Step.registry (r : Address → Bool) (st : Step) : Address → Bool :=
  if st.ok then st.call.op.registry r else r

theorem call_config (c : Call) (w : World) :
    (c.run w).2.storage.feeBps = Step.feeRate w.storage.feeBps ⟨w, c, (c.run w).1, (c.run w).2⟩ ∧
      (c.run w).2.storage.arbitrators =
        Step.registry w.storage.arbitrators ⟨w, c, (c.run w).1, (c.run w).2⟩ := by
  rcases c.run_cases w with ⟨h, e, he⟩ | ⟨v, hv, h⟩
  · simp only [Step.feeRate, Step.registry, he, Step.ok_error, h, Bool.false_eq_true, if_false,
      and_self]
  · simp only [Step.feeRate, Step.registry, hv, Step.ok_ok, if_true]
    exact body_config h

/-- **The configuration over a run.** After any run, `get_platform_fee_bps`
answers the fee rate before it folded through the run's successful calls
(`initialize(_, _, b)` and `update_fee(b)` set `b`, no other call changes
it), and `is_arbitrator_registered(a)` answers the registry before it folded
the same way (`register_arbitrator(a)` sets `a`, `remove_arbitrator_fn(a)`
clears it, no other call touches any entry). So the rate a call reads is the
one the last successful `initialize` or `update_fee` before it set, and an
arbitrator stays registered, or not, until the admin's next call on it. -/
theorem config_effects (w : World) (cs : List Call) :
    getPlatformFeeBps (final w cs).storage =
        okOr ((trace w cs).foldl Step.feeRate w.storage.feeBps) .notInitialized ∧
      ∀ a, isArbitratorRegistered (final w cs).storage a =
        (trace w cs).foldl Step.registry w.storage.arbitrators a := by
  suffices h : (final w cs).storage.feeBps = (trace w cs).foldl Step.feeRate w.storage.feeBps ∧
      (final w cs).storage.arbitrators = (trace w cs).foldl Step.registry w.storage.arbitrators by
    exact ⟨by rw [getPlatformFeeBps, Storage.getFeeBps, h.1], fun a => by
      rw [isArbitratorRegistered, Storage.hasArbitrator, h.2]⟩
  induction cs generalizing w with
  | nil => exact ⟨rfl, rfl⟩
  | cons c cs ih =>
    obtain ⟨hf, hr⟩ := call_config c w
    obtain ⟨ihf, ihr⟩ := ih (c.run w).2
    simp only [final_cons, trace_cons, List.foldl_cons]
    exact ⟨by rw [ihf, hf], by rw [ihr, hr]⟩

/-- **The read-only functions.** In a reachable world not yet initialized,
`get_platform_fee_bps` and `get_accumulated_fees` answer `NotInitialized`.
Once it is initialized they answer the stored rate, at most 10000 basis
points, and the stored accumulated fees; `get_trade(k)` answers
`TradeNotFound` exactly when `k` is not among `1, ..., counter`, and
otherwise the record stored under `k`, whose id is `k`. Over a run from a
fresh contract, that record is the one the `create_trade` of the run that
returned `k` made: its caller's terms and the fee at the rate then in
force. A successful `create_trade` is read back by `get_trade` as the
record it made, status `Created`. -/
theorem queries :
    (∀ {w : World}, Reachable w → w.storage.initialized = false →
      getPlatformFeeBps w.storage = .error .notInitialized ∧
        getAccumulatedFees w.storage = .error .notInitialized) ∧
    (∀ {w : World}, Reachable w → w.storage.initialized = true →
      (∃ b : U32, w.storage.feeBps = some b ∧ getPlatformFeeBps w.storage = .ok b ∧ b.val ≤ 10000) ∧
      (∃ f : U64, w.storage.accumulatedFees = some f ∧ getAccumulatedFees w.storage = .ok f) ∧
      ∀ k : U64, (getTrade w.storage k = .error .tradeNotFound ↔
          ¬ (1 ≤ k.val ∧ k.val ≤ tradeCount w.storage)) ∧
        ∀ t, getTrade w.storage k = .ok t ↔ w.storage.trades k = some t ∧ t.id = k) ∧
    (∀ (w₀ : World) (cs : List Call) (k : U64) (t : Trade), w₀.storage = .empty →
      getTrade (final w₀ cs).storage k = .ok t → ∃ st ∈ trace w₀ cs, CreatedAt st k t) ∧
    ∀ (w : World) (env : Env) seller buyer amount arb (r : U64),
      (Call.run ⟨env, .createTrade seller buyer amount arb⟩ w).1 = .ok (some r) →
        ∃ b : U32, w.storage.feeBps = some b ∧ ∃ fee : U64, fee.val = feeOf amount b ∧
          getTrade (Call.run ⟨env, .createTrade seller buyer amount arb⟩ w).2.storage r =
            .ok ⟨r, seller, buyer, amount, fee, arb, .created⟩ := by
  refine ⟨fun {w} hw hi => ?_, fun {w} hw hi => ?_, fun w₀ cs k t h₀ ht => ?_,
    fun w env seller buyer amount arb r hr => ?_⟩
  · have he : w.storage = .empty :=
      (reachable_configOk hw).resolve_right fun h => by simp [h.initialized] at hi
    simp [getPlatformFeeBps, getAccumulatedFees, he, Storage.empty]
  · have hc := (reachable_configOk hw).configured hi
    obtain ⟨b, hb, hle⟩ := hc.feeBps
    obtain ⟨f, hf⟩ := Option.isSome_iff_exists.1 hc.accumulatedFees
    obtain ⟨hkeys, hids⟩ := reachable_keysOk hw
    refine ⟨⟨b, hb, by simp [getPlatformFeeBps, hb], hle⟩, ⟨f, hf, by simp [getAccumulatedFees, hf]⟩,
      fun k => ⟨?_, fun t => ?_⟩⟩
    · rw [← hkeys k]
      cases h : w.storage.trades k <;> simp [getTrade, h]
    · simp only [getTrade, Storage.getTrade, okOr_eq_ok]
      exact ⟨fun ht => ⟨ht, hids k t ht⟩, fun h => h.1⟩
  · exact stored_created_fresh h₀ cs (okOr_eq_ok.1 ht)
  · rcases Call.run_cases ⟨env, .createTrade seller buyer amount arb⟩ w with ⟨-, e, he⟩ | ⟨v, hv, h⟩
    · rw [hr] at he; cases he
    rw [hr] at hv; cases hv
    obtain ⟨r', hcr, hr'⟩ := body_createTrade_eq_ok.1 h
    cases hr'
    obtain ⟨-, -, -, -, -, b, fee, -, -, hb, -, hfee, hw'⟩ := createTrade_ok hcr
    exact ⟨b, hb, fee, hfee, by rw [hw']; simp [getTrade]⟩

end StellarEscrow
