/-
What a call reads and writes of the arbitrator registry and the trades, as a
property of two runs. `Storage.remap A T` passes the registry through `A`
and the trade map through `T` and keeps every instance key. A body
`Commutes` with a remap when, run from the remapped world, it answers as
from the world itself and leaves the remapped world it left. Every host
function commutes with every remap, but for the reads and writes of the
registry and of the trades; `Op.Frame` names the ones each call makes, and
a call commutes with every remap that keeps them (`body_commutes`).

Two remaps give the main result. Replacing the whole registry changes
nothing for any call but `create_trade` naming an arbitrator and the admin's
two registry writes: a removed arbitrator still resolves the disputes of
the trades that name it, and a registered one gains nothing over them.
Replacing the record of one trade, or removing it, changes nothing for a
call on another trade nor for the admin's calls.
-/
import StellarEscrow.History

namespace StellarEscrow

open Exec

/-- The storage with its arbitrator registry passed through `A` and its
trade map through `T`, every instance key kept. -/
def Storage.remap (A : (Address → Bool) → Address → Bool)
    (T : (U64 → Option Trade) → U64 → Option Trade) (s : Storage) : Storage :=
  { s with arbitrators := A s.arbitrators, trades := T s.trades }

/-- The world with its storage remapped. -/
def World.remap (A : (Address → Bool) → Address → Bool)
    (T : (U64 → Option Trade) → U64 → Option Trade) (w : World) : World :=
  { w with storage := w.storage.remap A T }

variable {α β : Type} {A : (Address → Bool) → Address → Bool}
  {T : (U64 → Option Trade) → U64 → Option Trade}

namespace Exec

/-- `x` commutes with the remap: from the remapped world it answers as from
the world itself, and leaves the remapped world it left. -/
def Commutes (A : (Address → Bool) → Address → Bool) (T : (U64 → Option Trade) → U64 → Option Trade)
    (x : Exec α) : Prop :=
  ∀ w, x (w.remap A T) = ((x w).1, (x w).2.remap A T)

namespace Commutes

theorem bind {x : Exec α} {f : α → Exec β} (hx : Commutes A T x) (hf : ∀ a, Commutes A T (f a)) :
    Commutes A T (x >>= f) := by
  intro w
  rw [bind_apply, bind_apply, hx w]
  rcases x w with ⟨_ | a, w'⟩
  · rfl
  · exact hf a w'

theorem pure (a : α) : Commutes A T (Pure.pure a : Exec α) := fun _ => rfl

theorem failIf (c : Prop) [Decidable c] (e : ContractError) : Commutes A T (Exec.failIf c e) := by
  unfold Exec.failIf
  split
  exacts [fun _ => rfl, pure ()]

theorem lift (r : Except ContractError α) : Commutes A T (Exec.lift r) := fun _ => by
  cases r <;> rfl

theorem read {f : Storage → α} (h : ∀ s, f (s.remap A T) = f s) : Commutes A T (Exec.read f) :=
  fun w => by
    show (Except.ok (f (w.storage.remap A T)), _) = _
    rw [h]
    rfl

theorem fetch {f : Storage → Except ContractError α} (h : ∀ s, f (s.remap A T) = f s) :
    Commutes A T (Exec.fetch f) := fun w => by
  show Exec.lift (f (w.storage.remap A T)) _ = _
  rw [h]
  exact lift _ w

theorem write {f : Storage → Storage} (h : ∀ s, f (s.remap A T) = (f s).remap A T) :
    Commutes A T (Exec.write f) := fun w => by
  show (Except.ok (), { w with storage := f (w.storage.remap A T) }) = _
  rw [h]
  rfl

theorem currentContractAddress : Commutes A T Exec.currentContractAddress := fun _ => rfl

theorem publish (e : Event) : Commutes A T (Exec.publish e) := fun _ => rfl

theorem requireAuth (env : Env) (a : Address) : Commutes A T (Exec.requireAuth env a) := fun w => by
  show (if Authorizes env w a then _ else _) = _
  unfold Exec.requireAuth
  split <;> rfl

theorem transfer (env : Env) (token src dst : Address) (n : Nat) :
    Commutes A T (Exec.transfer env token src dst n) := fun w => by
  show (if (src = w.contract ∨ src ∈ env.signers) ∧ n ≤ w.ledger token src then _ else _) = _
  unfold Exec.transfer
  split <;> rfl

theorem invoke {x : Exec α} (h : Commutes A T x) (w : World) :
    StellarEscrow.invoke x (w.remap A T) = ((StellarEscrow.invoke x w).1, (StellarEscrow.invoke x w).2.remap A T) := by
  unfold StellarEscrow.invoke
  rw [h w]
  rcases x w with ⟨_ | a, w'⟩ <;> rfl

end Commutes

end Exec

/-! ## The contract's functions -/

/-- The remap keeps the record under `k` and commutes with its writes. -/
structure KeepsTrade (T : (U64 → Option Trade) → U64 → Option Trade) (k : U64) : Prop where
  get : ∀ ts, T ts k = ts k
  save : ∀ ts t, T (Function.update ts k (some t)) = Function.update (T ts) k (some t)

theorem KeepsTrade.getTrade {k : U64} (h : KeepsTrade T k) (s : Storage) :
    (s.remap A T).getTrade k = s.getTrade k := by
  simp [Storage.remap, h.get]

theorem KeepsTrade.saveTrade {k : U64} (h : KeepsTrade T k) (t : Trade) (s : Storage) :
    (s.remap A T).saveTrade k t = (s.saveTrade k t).remap A T := by
  simp only [Storage.remap, Storage.saveTrade, h.save]

theorem whenInitialized_commutes : Commutes A T whenInitialized :=
  .bind (.read fun _ => rfl) fun _ => .failIf _ _

theorem requireAdmin_commutes (env : Env) : Commutes A T (requireAdmin env) :=
  .bind (.fetch fun _ => rfl) fun a => .requireAuth env a

theorem incrementTradeCounter_commutes : Commutes A T incrementTradeCounter :=
  .bind (.fetch fun _ => rfl) fun _ => .bind (.lift _) fun _ => .bind (.write fun _ => rfl) fun _ => .pure _

theorem payOut_commutes (env : Env) (token : Address) (t : Trade) (recipient : Address) :
    Commutes A T (payOut env token t recipient) :=
  .bind (.lift _) fun _ => .bind .currentContractAddress fun _ => .bind (.transfer _ _ _ _ _) fun _ =>
    .bind (.fetch fun _ => rfl) fun _ => .bind (.lift _) fun _ => .bind (.write fun _ => rfl) fun _ =>
      .pure _

theorem initializeContract_commutes (env : Env) (admin token : Address) (b : U32) :
    Commutes A T (initializeContract env admin token b) :=
  .bind (.read fun _ => rfl) fun _ => .bind (.failIf _ _) fun _ => .bind (.failIf _ _) fun _ =>
    .bind (.requireAuth _ _) fun _ => .bind (.write fun _ => rfl) fun _ => .bind (.write fun _ => rfl) fun _ =>
      .bind (.write fun _ => rfl) fun _ => .bind (.write fun _ => rfl) fun _ =>
        .bind (.write fun _ => rfl) fun _ => .write fun _ => rfl

theorem adminWrite_commutes (env : Env) {f : Storage → Storage} (e : Event)
    (h : ∀ s, f (s.remap A T) = (f s).remap A T) : Commutes A T (adminWrite env f e) :=
  .bind whenInitialized_commutes fun _ => .bind (requireAdmin_commutes env) fun _ =>
    .bind (.write h) fun _ => .publish _

theorem updateFee_commutes (env : Env) (b : U32) : Commutes A T (updateFee env b) :=
  .bind whenInitialized_commutes fun _ => .bind (.failIf _ _) fun _ =>
    .bind (requireAdmin_commutes env) fun _ => .bind (.write fun _ => rfl) fun _ => .publish _

theorem withdrawFees_commutes (env : Env) (toAddr : Address) : Commutes A T (withdrawFees env toAddr) :=
  .bind whenInitialized_commutes fun _ => .bind (requireAdmin_commutes env) fun _ =>
    .bind (.fetch fun _ => rfl) fun _ => .bind (.failIf _ _) fun _ => .bind (.fetch fun _ => rfl) fun _ =>
      .bind .currentContractAddress fun _ => .bind (.transfer _ _ _ _ _) fun _ =>
        .bind (.write fun _ => rfl) fun _ => .publish _

theorem createTrade_commutes (env : Env) (seller buyer : Address) (amount : U64) (arb : Option Address)
    (ha : ∀ a, arb = some a → ∀ as, A as a = as a)
    (ht : ∀ k t ts, T (Function.update ts k (some t)) = Function.update (T ts) k (some t)) :
    Commutes A T (createTrade env seller buyer amount arb) := by
  refine .bind whenInitialized_commutes fun _ => .bind (.failIf _ _) fun _ =>
    .bind (.requireAuth _ _) fun _ => .bind ?_ fun _ => .bind incrementTradeCounter_commutes fun k =>
      .bind (.fetch fun _ => rfl) fun _ => .bind (.lift _) fun _ => .bind (.lift _) fun _ =>
        .bind (.write fun s => ?_) fun _ => .bind (.publish _) fun _ => .pure _
  · cases arb with
    | none => exact .pure ()
    | some a => exact .bind (.read fun s => by simp [Storage.remap, ha a rfl]) fun _ => .failIf _ _
  · simp only [Storage.remap, Storage.saveTrade, ht]

theorem fundTrade_commutes (env : Env) {k : U64} (h : KeepsTrade T k) : Commutes A T (fundTrade env k) :=
  .bind whenInitialized_commutes fun _ => .bind (.fetch h.getTrade) fun _ => .bind (.failIf _ _) fun _ =>
    .bind (.requireAuth _ _) fun _ => .bind (.fetch fun _ => rfl) fun _ =>
      .bind .currentContractAddress fun _ => .bind (.transfer _ _ _ _ _) fun _ =>
        .bind (.write (h.saveTrade _)) fun _ => .publish _

theorem sellerTransition_commutes (env : Env) {k : U64} (h : KeepsTrade T k) (a b : TradeStatus)
    (e : Event) : Commutes A T (sellerTransition env k a b e) :=
  .bind whenInitialized_commutes fun _ => .bind (.fetch h.getTrade) fun _ => .bind (.failIf _ _) fun _ =>
    .bind (.requireAuth _ _) fun _ => .bind (.write (h.saveTrade _)) fun _ => .publish _

theorem confirmReceipt_commutes (env : Env) {k : U64} (h : KeepsTrade T k) :
    Commutes A T (confirmReceipt env k) :=
  .bind whenInitialized_commutes fun _ => .bind (.fetch h.getTrade) fun _ => .bind (.failIf _ _) fun _ =>
    .bind (.requireAuth _ _) fun _ => .bind (.fetch fun _ => rfl) fun _ =>
      .bind (payOut_commutes _ _ _ _) fun _ => .publish _

theorem raiseDispute_commutes (env : Env) {k : U64} (h : KeepsTrade T k) :
    Commutes A T (raiseDispute env k) :=
  .bind whenInitialized_commutes fun _ => .bind (.fetch h.getTrade) fun _ => .bind (.failIf _ _) fun _ =>
    .bind (.failIf _ _) fun _ => .bind (.failIf _ _) fun _ => .bind (.requireAuth _ _) fun _ =>
      .bind (.write (h.saveTrade _)) fun _ => .publish _

theorem resolveDispute_commutes (env : Env) {k : U64} (h : KeepsTrade T k) (res : DisputeResolution) :
    Commutes A T (resolveDispute env k res) :=
  .bind whenInitialized_commutes fun _ => .bind (.fetch h.getTrade) fun _ => .bind (.failIf _ _) fun _ =>
    .bind (.lift _) fun _ => .bind (.requireAuth _ _) fun _ => .bind (.fetch fun _ => rfl) fun _ =>
      .bind (payOut_commutes _ _ _ _) fun _ => .publish _

/-! ## Calls -/

/-- What a call reads of the registry and the trades, and writes of them: a
remap commutes with the call when it keeps what the call reads and commutes
with what it writes. -/
def Op.Frame (A : (Address → Bool) → Address → Bool) (T : (U64 → Option Trade) → U64 → Option Trade) :
    Op → Prop
  | .initializeContract .. | .updateFee _ | .withdrawFees _ => True
  | .registerArbitrator a => ∀ as, A (Function.update as a true) = Function.update (A as) a true
  | .removeArbitratorFn a => ∀ as, A (Function.update as a false) = Function.update (A as) a false
  | .createTrade _ _ _ arb => (∀ a, arb = some a → ∀ as, A as a = as a) ∧
      ∀ k t ts, T (Function.update ts k (some t)) = Function.update (T ts) k (some t)
  | .fundTrade k | .completeTrade k | .confirmReceipt k | .raiseDispute k | .resolveDispute k _
  | .cancelTrade k => KeepsTrade T k

/-- **A call commutes with every remap that keeps its frame.** -/
theorem body_commutes (env : Env) : ∀ {op : Op}, op.Frame A T → Commutes A T (op.body env)
  | .initializeContract .., _ => .bind (initializeContract_commutes _ _ _ _) fun _ => .pure _
  | .registerArbitrator _, (h : ∀ _, _ = _) => .bind (adminWrite_commutes env _ fun _ => by
      simp only [Storage.remap, Storage.saveArbitrator, h]) fun _ => .pure _
  | .removeArbitratorFn _, (h : ∀ _, _ = _) => .bind (adminWrite_commutes env _ fun _ => by
      simp only [Storage.remap, Storage.removeArbitrator, h]) fun _ => .pure _
  | .updateFee _, _ => .bind (updateFee_commutes _ _) fun _ => .pure _
  | .withdrawFees _, _ => .bind (withdrawFees_commutes _ _) fun _ => .pure _
  | .createTrade .., h => .bind (createTrade_commutes _ _ _ _ _ h.1 h.2) fun _ => .pure _
  | .fundTrade _, h => .bind (fundTrade_commutes _ h) fun _ => .pure _
  | .completeTrade _, h => .bind (sellerTransition_commutes _ h _ _ _) fun _ => .pure _
  | .confirmReceipt _, h => .bind (confirmReceipt_commutes _ h) fun _ => .pure _
  | .raiseDispute _, h => .bind (raiseDispute_commutes _ h) fun _ => .pure _
  | .resolveDispute _ _, h => .bind (resolveDispute_commutes _ h _) fun _ => .pure _
  | .cancelTrade _, h => .bind (sellerTransition_commutes _ h _ _ _) fun _ => .pure _

/-- The world with the arbitrator registry `r` in place of its own. -/
def World.withRegistry (r : Address → Bool) (w : World) : World := w.remap (fun _ => r) id

/-- The world with `o` stored under trade key `k` (no trade, for `none`). -/
def World.withTrade (k : U64) (o : Option Trade) (w : World) : World :=
  w.remap id (Function.update · k o)

/-- The calls that read or write the registry: `create_trade` naming an
arbitrator, `register_arbitrator` and `remove_arbitrator_fn`. -/
def Op.usesRegistry : Op → Bool
  | .registerArbitrator _ | .removeArbitratorFn _ | .createTrade _ _ _ (some _) => true
  | _ => false

/-- The calls that may read or write the trade under `k`: `create_trade`,
which stores under the id the counter gives, and the calls on `k`. -/
def Op.touchesTrade (k : U64) : Op → Bool
  | .createTrade .. => true
  | op => decide (op.tradeId = some k)

theorem frame_withRegistry (r : Address → Bool) :
    ∀ {op : Op}, op.usesRegistry = false → op.Frame (fun _ => r) id
  | .initializeContract .., _ | .updateFee _, _ | .withdrawFees _, _ => trivial
  | .createTrade _ _ _ none, _ => ⟨nofun, fun _ _ _ => rfl⟩
  | .fundTrade _, _ | .completeTrade _, _ | .confirmReceipt _, _ | .raiseDispute _, _
  | .resolveDispute _ _, _ | .cancelTrade _, _ => ⟨fun _ => rfl, fun _ _ => rfl⟩

theorem frame_withTrade (k : U64) (o : Option Trade) :
    ∀ {op : Op}, op.touchesTrade k = false → op.Frame id (Function.update · k o)
  | .initializeContract .., _ | .updateFee _, _ | .withdrawFees _, _ => trivial
  | .registerArbitrator _, _ | .removeArbitratorFn _, _ => fun _ => rfl
  | .fundTrade _, h | .completeTrade _, h | .confirmReceipt _, h | .raiseDispute _, h
  | .resolveDispute _ _, h | .cancelTrade _, h => by
    simp only [Op.touchesTrade, Op.tradeId, decide_eq_false_iff_not, Option.some.injEq] at h
    exact ⟨fun _ => Function.update_noteq h _ _, fun _ _ => Function.update_comm h _ _ _⟩

/-! ## Main results -/

/-- **What a call reads.** The arbitrator registry is read only by
`create_trade` naming an arbitrator and written only by
`register_arbitrator` and `remove_arbitrator_fn`: for every other call, from
every world, replacing the registry by any other changes neither the call's
answer nor anything it does, and the replacement stays. So removing an
arbitrator never stops it from resolving the disputes of the trades that
name it, and registering one gives it nothing over them. Likewise a call on
one trade, and every call but `create_trade`, neither reads nor writes the
record under another key: with that record replaced or removed, it answers
and acts the same, and the replacement stays. -/
theorem call_isolation :
    (∀ (c : Call) (w : World) (r : Address → Bool), c.op.usesRegistry = false →
      c.run (w.withRegistry r) = ((c.run w).1, (c.run w).2.withRegistry r)) ∧
    ∀ (c : Call) (w : World) (k : U64) (o : Option Trade), c.op.touchesTrade k = false →
      c.run (w.withTrade k o) = ((c.run w).1, (c.run w).2.withTrade k o) :=
  ⟨fun c w r h => (body_commutes c.env (frame_withRegistry r h)).invoke w,
   fun c w k o h => (body_commutes c.env (frame_withTrade k o h)).invoke w⟩

/- An arbitrator removed from the registry after its trade was disputed
still resolves it. -/
example :
    let w := final ⟨⟨2⟩, .empty, fun tok a => if tok = ⟨1⟩ ∧ a = ⟨4⟩ then 10000 else 0, []⟩
      [⟨⟨⟨0⟩, [⟨0⟩]⟩, .initializeContract ⟨0⟩ ⟨1⟩ 250⟩,
       ⟨⟨⟨0⟩, [⟨0⟩]⟩, .registerArbitrator ⟨7⟩⟩,
       ⟨⟨⟨3⟩, [⟨3⟩]⟩, .createTrade ⟨3⟩ ⟨4⟩ 10000 (some ⟨7⟩)⟩,
       ⟨⟨⟨4⟩, [⟨4⟩]⟩, .fundTrade 1⟩,
       ⟨⟨⟨4⟩, [⟨4⟩]⟩, .raiseDispute 1⟩,
       ⟨⟨⟨0⟩, [⟨0⟩]⟩, .removeArbitratorFn ⟨7⟩⟩]
    w.storage.arbitrators ⟨7⟩ = false ∧
      (Call.run ⟨⟨⟨7⟩, [⟨7⟩]⟩, .resolveDispute 1 .releaseToSeller⟩ w).1.isOk := by
  decide

end StellarEscrow
