/-
Initialization. Every function but `initialize` opens with the `INIT` check,
so before the first successful `initialize` each of them returns
`NotInitialized` and writes nothing, even without the host's rollback;
`initialize` checks the flag it sets, so it succeeds at most once; and no
function writes the admin or token keys after it.
-/
import StellarEscrow.Run

namespace StellarEscrow

open Exec

/-- `initialize`, whatever its arguments. -/
def Op.isInitialize : Op → Bool
  | .initializeContract .. => true
  | _ => false

/-! ## One call -/

/-- Before `initialize`, every other function returns `NotInitialized` and
writes nothing. -/
theorem body_uninitialized {env : Env} {op : Op} {w : World} (hi : w.storage.initialized = false)
    (hop : op.isInitialize = false) : op.body env w = (.error (.contract .notInitialized), w) := by
  have h : whenInitialized w = (.error (.contract .notInitialized), w) :=
    whenInitialized_eq_error.2 ⟨rfl, hi, rfl⟩
  cases op
  case initializeContract => cases hop
  all_goals exact bind_of_error (bind_of_error h)

/-- After `initialize`, `initialize` returns `AlreadyInitialized` and writes nothing. -/
theorem initializeContract_initialized {env : Env} {admin token : Address} {b : U32} {w : World}
    (hi : w.storage.initialized = true) :
    (Op.initializeContract admin token b).body env w =
      (.error (.contract .alreadyInitialized), w) := by
  simp [Op.body, initializeContract, hi]

/-- **What a successful call does to the instance keys.** `initialize` sets
them on a contract not yet initialized; every other function runs on an
initialized contract and keeps the flag, the admin and the token. -/
theorem body_instance {env : Env} {op : Op} {w w' : World} {v : Option U64}
    (h : op.body env w = (.ok v, w')) :
    (∃ admin token b, op = .initializeContract admin token b ∧ w.storage.initialized = false ∧
      w'.storage.initialized = true ∧ w'.storage.admin = some admin ∧
      w'.storage.usdcToken = some token) ∨
    (w.storage.initialized = true ∧ w'.storage.initialized = true ∧
      w'.storage.admin = w.storage.admin ∧ w'.storage.usdcToken = w.storage.usdcToken) := by
  cases body_ok h with
  | initializeContract hi => exact .inl ⟨_, _, _, rfl, hi, rfl, rfl, rfl⟩
  | registerArbitrator hi | removeArbitratorFn hi | updateFee hi | withdrawFees hi | createTrade hi
  | fundTrade hi | completeTrade hi | confirmReceipt hi | raiseDispute hi | resolveDispute hi
  | cancelTrade hi => exact .inr ⟨hi, hi, rfl, rfl⟩

/-- Before `initialize`, a call that is not a successful `initialize`
keeps the world, and one that is not `initialize` at all returns
`NotInitialized`. -/
theorem run_uninitialized {w : World} (hi : w.storage.initialized = false) {c : Call}
    (hc : ((c.run w).1.isOk && c.op.isInitialize) = false) :
    (c.run w).2 = w ∧ (c.op.isInitialize = false → (c.run w).1 = .error (.contract .notInitialized)) := by
  cases hop : c.op.isInitialize
  · have hrun : c.run w = (.error (.contract .notInitialized), w) := by
      simp [Call.run, invoke, body_uninitialized hi hop]
    exact ⟨by rw [hrun], fun _ => by rw [hrun]⟩
  · rw [hop, Bool.and_true] at hc
    rcases c.run_cases w with ⟨h, -⟩ | ⟨v, hv, -⟩
    · exact ⟨h, fun h' => by cases h'⟩
    · rw [hv] at hc; cases hc

/-- After `initialize`, a call keeps the flag, the admin and the token, and
`initialize` fails with `AlreadyInitialized` and keeps the world. -/
theorem run_initialized {w : World} (hi : w.storage.initialized = true) (c : Call) :
    (c.run w).2.storage.initialized = true ∧ (c.run w).2.storage.admin = w.storage.admin ∧
      (c.run w).2.storage.usdcToken = w.storage.usdcToken ∧
      (c.op.isInitialize = true →
        (c.run w).1 = .error (.contract .alreadyInitialized) ∧ (c.run w).2 = w) := by
  obtain ⟨env, op⟩ := c
  by_cases hop : op.isInitialize = true
  · have hrun : Call.run ⟨env, op⟩ w = (.error (.contract .alreadyInitialized), w) := by
      cases op <;> simp only [Op.isInitialize, reduceCtorEq] at hop
      simp [Call.run, invoke, initializeContract_initialized hi]
    rw [hrun]
    exact ⟨hi, rfl, rfl, fun _ => ⟨rfl, rfl⟩⟩
  have hkeep : (Call.run ⟨env, op⟩ w).2.storage.initialized = true ∧
      (Call.run ⟨env, op⟩ w).2.storage.admin = w.storage.admin ∧
      (Call.run ⟨env, op⟩ w).2.storage.usdcToken = w.storage.usdcToken := by
    rcases Call.run_cases ⟨env, op⟩ w with ⟨h, -⟩ | ⟨v, -, h⟩
    · rw [h]; exact ⟨hi, rfl, rfl⟩
    rcases body_instance h with ⟨-, -, -, -, h₀, -⟩ | ⟨-, hk⟩
    · rw [hi] at h₀; cases h₀
    · exact hk
  exact ⟨hkeep.1, hkeep.2.1, hkeep.2.2, fun h => absurd h hop⟩

/-! ## Runs -/

/-- Until a successful `initialize`, a run from an uninitialized world keeps
it, and every call but `initialize` returns `NotInitialized`. -/
theorem uninitialized_run {w : World} (hi : w.storage.initialized = false) :
    ∀ cs, (∀ st ∈ trace w cs, (st.ok && st.call.op.isInitialize) = false) →
      ∀ st ∈ trace w cs, st.pre = w ∧ st.post = w ∧
        (st.call.op.isInitialize = false → st.result = .error (.contract .notInitialized))
  | [], _ => fun _ h => absurd h (List.not_mem_nil _)
  | c :: cs, hcs => by
    rw [trace_cons, List.forall_mem_cons] at hcs ⊢
    obtain ⟨hw', hres⟩ := run_uninitialized hi hcs.1
    refine ⟨⟨rfl, hw', hres⟩, ?_⟩
    rw [hw'] at hcs ⊢
    exact uninitialized_run hi cs hcs.2

/-- On an initialized contract, `initialize` never succeeds again. -/
theorem no_initialize_after {w : World} (hw : Reachable w) (hi : w.storage.initialized = true)
    (cs : List Call) :
    (trace w cs).countP (fun st => st.ok && st.call.op.isInitialize) = 0 := by
  have hinv := (hw.trace_inv (fun w => w.storage.initialized = true)
    (fun c _ _ hi => (run_initialized hi c).1) hi cs).1
  refine List.countP_eq_zero.2 fun st hst hf => ?_
  simp only [Bool.and_eq_true] at hf
  obtain ⟨-, -, hres⟩ := hw.trace_pre hst
  have := ((run_initialized (hinv st hst) st.call).2.2.2 hf.2).1
  rw [Step.ok, hres, this] at hf
  cases hf.1

theorem initialize_at_most_once {w : World} (hw : Reachable w) :
    ∀ cs, (trace w cs).countP (fun st => st.ok && st.call.op.isInitialize) ≤ 1
  | [] => by simp
  | c :: cs => by
    rw [trace_cons, List.countP_cons]
    cases hf : (Step.ok ⟨w, c, (c.run w).1, (c.run w).2⟩ && c.op.isInitialize)
    · exact initialize_at_most_once (hw.call c) cs
    · rw [Bool.and_eq_true, Step.ok] at hf
      rcases c.run_cases w with ⟨-, e, he⟩ | ⟨v, -, h⟩
      · rw [he] at hf; cases hf.1
      rcases body_instance h with ⟨-, -, -, -, -, h₁, -⟩ | ⟨h₀, h₁, -⟩ <;>
        rw [no_initialize_after (hw.call c) h₁] <;> simp

/-! ## Main results -/

/-- **Initialization.** Over a run from a fresh contract, until a call of
`initialize` succeeds, every call leaves the world as it found it (the
storage, the token ledgers and the events), and every call of another
function returns `NotInitialized`. At most one `initialize` succeeds in any
run; it sets the flag, the admin and the token it was given. From then on
every `initialize` returns `AlreadyInitialized` and changes nothing, and the
admin and the token never change. -/
theorem initialize_once :
    (∀ {w₀ : World}, w₀.storage = .empty → ∀ cs,
      (∀ st ∈ trace w₀ cs, (st.ok && st.call.op.isInitialize) = false) →
        ∀ st ∈ trace w₀ cs, st.pre = w₀ ∧ st.post = w₀ ∧
          (st.call.op.isInitialize = false → st.result = .error (.contract .notInitialized))) ∧
    (∀ {w : World}, Reachable w → ∀ cs,
      (trace w cs).countP (fun st => st.ok && st.call.op.isInitialize) ≤ 1) ∧
    (∀ (w : World) (env : Env) (admin token : Address) (b : U32),
      (Call.run ⟨env, .initializeContract admin token b⟩ w).1.isOk →
        (Call.run ⟨env, .initializeContract admin token b⟩ w).2.storage.initialized = true ∧
        (Call.run ⟨env, .initializeContract admin token b⟩ w).2.storage.admin = some admin ∧
        (Call.run ⟨env, .initializeContract admin token b⟩ w).2.storage.usdcToken = some token) ∧
    (∀ {w : World}, Reachable w → w.storage.initialized = true → ∀ cs,
      (final w cs).storage.admin = w.storage.admin ∧
      (final w cs).storage.usdcToken = w.storage.usdcToken ∧
      ∀ st ∈ trace w cs, st.call.op.isInitialize = true →
        st.result = .error (.contract .alreadyInitialized) ∧ st.post = st.pre) := by
  refine ⟨fun h₀ cs => uninitialized_run (by simp [h₀, Storage.empty]) cs,
    fun hw cs => initialize_at_most_once hw cs, fun w env admin token b hok => ?_,
    fun {w} hw hi cs => ?_⟩
  · rcases Call.run_cases ⟨env, .initializeContract admin token b⟩ w with ⟨-, e, he⟩ | ⟨v, -, h⟩
    · rw [he] at hok; cases hok
    rcases body_instance h with ⟨a, t, b', hop, -, h₁, h₂, h₃⟩ | ⟨hi, -⟩
    · simp only [Op.initializeContract.injEq] at hop
      obtain ⟨rfl, rfl, rfl⟩ := hop
      exact ⟨h₁, h₂, h₃⟩
    · rw [initializeContract_initialized hi] at h; cases h
  · let I (w' : World) : Prop := w'.storage.initialized = true ∧
      w'.storage.admin = w.storage.admin ∧ w'.storage.usdcToken = w.storage.usdcToken
    have hinv := hw.trace_inv I (fun c _ _ ⟨hi', ha, ht⟩ => by
      obtain ⟨h₁, h₂, h₃, -⟩ := run_initialized hi' c
      exact ⟨h₁, h₂.trans ha, h₃.trans ht⟩) ⟨hi, rfl, rfl⟩ cs
    refine ⟨hinv.2.2.1, hinv.2.2.2, fun st hst hop => ?_⟩
    obtain ⟨-, hpost, hres⟩ := hw.trace_pre hst
    rw [hpost, hres]
    exact (run_initialized (hinv.1 st hst).1 st.call).2.2.2 hop

end StellarEscrow
