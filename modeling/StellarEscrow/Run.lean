/-
Runs of the contract: any sequence of calls, with any callers and
arguments, from a freshly deployed contract (storage empty, the token
ledgers as they stand). Between calls the token ledgers may also change
outside the contract, though never to the contract's loss: a third party
can credit the contract but cannot spend its balance.

`Reachable` is every world such a run reaches, and `trace` records a run
step by step, for statements about the whole run. `Reachable.storage`
packages the induction for storage invariants: each one needs only that a
successful body keeps it.
-/
import StellarEscrow.ContractFacts

namespace StellarEscrow

open Exec

/-- Every world a run reaches. -/
inductive Reachable : World → Prop
  | fresh {w : World} : w.storage = .empty → Reachable w
  | call {w : World} (c : Call) : Reachable w → Reachable (c.run w).2
  | credit {w : World} (ledger : Address → Address → Nat) : Reachable w →
      (∀ token, w.ledger token w.contract ≤ ledger token w.contract) →
      Reachable { w with ledger := ledger }

/-- One step of a run: the world before it, the call, what it returned,
and the world after it. -/
structure Step where
  pre : World
  call : Call
  result : Except Fault (Option U64)
  post : World

/-- The step's call returned `Ok`. -/
def Step.ok (st : Step) : Bool := st.result.isOk

@[simp] theorem Step.ok_ok {w w' : World} {c : Call} {v : Option U64} :
    Step.ok ⟨w, c, .ok v, w'⟩ = true := rfl

@[simp] theorem Step.ok_error {w w' : World} {c : Call} {e : Fault} :
    Step.ok ⟨w, c, .error e, w'⟩ = false := rfl

/-- The run of `calls` from `w`, step by step. -/
def trace (w : World) : List Call → List Step
  | [] => []
  | c :: cs => ⟨w, c, (c.run w).1, (c.run w).2⟩ :: trace (c.run w).2 cs

/-- The world at the end of the run of `calls` from `w`. -/
def final (w : World) : List Call → World
  | [] => w
  | c :: cs => final (c.run w).2 cs

@[simp] theorem trace_nil (w : World) : trace w [] = [] := rfl
@[simp] theorem trace_cons (w : World) (c : Call) (cs : List Call) :
    trace w (c :: cs) = ⟨w, c, (c.run w).1, (c.run w).2⟩ :: trace (c.run w).2 cs := rfl
@[simp] theorem final_nil (w : World) : final w [] = w := rfl
@[simp] theorem final_cons (w : World) (c : Call) (cs : List Call) :
    final w (c :: cs) = final (c.run w).2 cs := rfl

/-- The host either committed the body's `Ok`, or kept the world. -/
theorem Call.run_cases (c : Call) (w : World) :
    ((c.run w).2 = w ∧ ∃ e, (c.run w).1 = .error e) ∨
      ∃ v, (c.run w).1 = .ok v ∧ c.op.body c.env w = (.ok v, (c.run w).2) := by
  unfold Call.run invoke
  generalize c.op.body c.env w = r
  rcases r with ⟨_ | v, w'⟩ <;> simp

theorem Reachable.final {w : World} (hw : Reachable w) : ∀ cs, Reachable (final w cs)
  | [] => hw
  | c :: cs => (hw.call c).final cs

theorem Reachable.trace_pre {w : World} (hw : Reachable w) :
    ∀ {cs st}, st ∈ trace w cs → Reachable st.pre ∧ st.post = (st.call.run st.pre).2 ∧
      st.result = (st.call.run st.pre).1
  | [], _, h => absurd h (List.not_mem_nil _)
  | c :: cs, st, h => by
    rcases List.mem_cons.1 h with rfl | h
    · exact ⟨hw, rfl, rfl⟩
    · exact (hw.call c).trace_pre h

/-- A step of a run from a reachable world failed and kept the world, or its
body returned `Ok`. -/
theorem Reachable.trace_step {w : World} (hw : Reachable w) {cs : List Call} {st : Step}
    (h : st ∈ trace w cs) : Reachable st.pre ∧
      ((st.ok = false ∧ st.post = st.pre) ∨
        ∃ v, st.result = .ok v ∧ st.call.op.body st.call.env st.pre = (.ok v, st.post)) := by
  obtain ⟨hp, hpost, hres⟩ := hw.trace_pre h
  refine ⟨hp, ?_⟩
  rw [Step.ok, hpost, hres]
  rcases st.call.run_cases st.pre with ⟨h₁, e, he⟩ | ⟨v, hv, hb⟩
  · exact .inl ⟨by rw [he]; rfl, h₁⟩
  · exact .inr ⟨v, hv, hb⟩

/-- **World invariants over a run.** A property of worlds that every call
keeps, from a reachable world, holds before every step of a run and at its
end. -/
theorem Reachable.trace_inv (I : World → Prop)
    (step : ∀ (c : Call) {w : World}, Reachable w → I w → I (c.run w).2) :
    ∀ {w : World}, Reachable w → I w → ∀ cs, (∀ st ∈ trace w cs, I st.pre) ∧ I (StellarEscrow.final w cs)
  | _, _, hI, [] => ⟨fun _ h => absurd h (List.not_mem_nil _), hI⟩
  | _, hw, hI, c :: cs =>
    have ih := Reachable.trace_inv I step (hw.call c) (step c hw hI) cs
    ⟨List.forall_mem_cons.2 ⟨hI, ih.1⟩, ih.2⟩

/-- **Storage invariants.** A property of the storage that the empty
storage has and every successful body keeps, from a reachable world, holds
in every reachable world. -/
theorem Reachable.storage (P : Storage → Prop) (empty : P .empty)
    (step : ∀ {w w' : World} (env : Env) (op : Op) (v : Option U64), Reachable w → P w.storage →
      op.body env w = (.ok v, w') → P w'.storage) :
    ∀ {w : World}, Reachable w → P w.storage := by
  intro w hw
  induction hw with
  | fresh h => rwa [h]
  | call c hw ih =>
    rcases c.run_cases _ with ⟨h, -⟩ | ⟨v, -, h⟩
    · rwa [h]
    · exact step c.env c.op v hw ih h
  | credit _ _ _ ih => exact ih

end StellarEscrow
