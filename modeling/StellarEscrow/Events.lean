/-
The event log. Every successful call but `initialize` publishes exactly one
event (`events.rs`), its payload read off the call's arguments and the trade
before the call; a failed call publishes nothing, the host rolling it back.
So the log a run leaves is its successful calls' events in order, and an
indexer that folds the log recovers the status storage holds for every
trade. The settlements' events (`confirm`, `resolved`) give no status: the
code stores none after paying out.
-/
import StellarEscrow.Run

namespace StellarEscrow

open Exec

/-- The event a successful call of `op` publishes, from the storage `s`
before it and the call's answer `r` (`create_trade`'s id). -/
def Op.event (env : Env) (s : Storage) (r : Option U64) : Op → Option Event
  | .initializeContract .. => none
  | .registerArbitrator a => some (.arbitratorRegistered a)
  | .removeArbitratorFn a => some (.arbitratorRemoved a)
  | .updateFee b => some (.feeUpdated b)
  | .withdrawFees toAddr => s.accumulatedFees.map (.feesWithdrawn · toAddr)
  | .createTrade seller buyer amount _ => r.map (.tradeCreated · seller buyer amount)
  | .fundTrade k => some (.tradeFunded k)
  | .completeTrade k => some (.tradeCompleted k)
  | .confirmReceipt k => (s.trades k).map fun t => .tradeConfirmed k (t.amount - t.fee) t.fee
  | .raiseDispute k => some (.disputeRaised k env.invoker)
  | .resolveDispute k res => (s.trades k).map fun t => .disputeResolved k res (res.recipient t)
  | .cancelTrade k => some (.tradeCancelled k)

/-- The event a step of a run published: its call's, if it returned `Ok`. -/
def Step.event (st : Step) : Option Event :=
  match st.result with
  | .ok r => st.call.op.event st.call.env st.pre.storage r
  | .error _ => none

/-- The status an event gives the trade it names, if it gives one. -/
def Event.status : Event → Option (U64 × TradeStatus)
  | .tradeCreated k .. => some (k, .created)
  | .tradeFunded k => some (k, .funded)
  | .tradeCompleted k => some (k, .completed)
  | .disputeRaised k _ => some (k, .disputed)
  | .tradeCancelled k => some (k, .cancelled)
  | _ => none

/-- The trades' statuses, as storage holds them. -/
def statusView (s : Storage) (k : U64) : Option TradeStatus := (s.trades k).map Trade.status

/-- One event read by an indexer: the status it gives, if any, is its
trade's now. -/
def Event.apply (view : U64 → Option TradeStatus) (e : Event) : U64 → Option TradeStatus :=
  match e.status with
  | some (k, s) => Function.update view k (some s)
  | none => view

/-- An indexer's view of the statuses after reading `log` from `view`. -/
def replay (view : U64 → Option TradeStatus) (log : List Event) : U64 → Option TradeStatus :=
  log.foldl Event.apply view

theorem statusView_saveTrade (s : Storage) (k : U64) (t : Trade) :
    statusView (s.saveTrade k t) = Function.update (statusView s) k (some t.status) := by
  funext x
  simp only [statusView, Storage.saveTrade_trades, Function.update_apply]
  split <;> rfl

/-- What a successful body publishes, and what it does to the statuses. -/
theorem body_events {env : Env} {op : Op} {w w' : World} {v : Option U64}
    (h : op.body env w = (.ok v, w')) :
    w'.events = w.events ++ (op.event env w.storage v).toList ∧
      statusView w'.storage = replay (statusView w.storage) (op.event env w.storage v).toList := by
  cases body_ok h with
  | initializeContract => exact ⟨(List.append_nil _).symm, rfl⟩
  | registerArbitrator | removeArbitratorFn | updateFee => exact ⟨rfl, rfl⟩
  | withdrawFees _ _ _ hacc =>
    simp only [Op.event, hacc]
    exact ⟨rfl, rfl⟩
  | createTrade | fundTrade | completeTrade | raiseDispute | cancelTrade =>
    exact ⟨rfl, statusView_saveTrade _ _ _⟩
  | confirmReceipt _ ht _ _ _ hp =>
    obtain rfl := checkedSub_eq_sub hp
    simp only [Op.event, ht]
    exact ⟨rfl, rfl⟩
  | resolveDispute _ ht =>
    simp only [Op.event, ht]
    exact ⟨rfl, rfl⟩

/-- The same of a whole call: a failed one publishes nothing. -/
theorem call_events (c : Call) (w : World) :
    (c.run w).2.events = w.events ++ (Step.event ⟨w, c, (c.run w).1, (c.run w).2⟩).toList ∧
      statusView (c.run w).2.storage =
        replay (statusView w.storage) (Step.event ⟨w, c, (c.run w).1, (c.run w).2⟩).toList := by
  rcases c.run_cases w with ⟨h, e, he⟩ | ⟨v, hv, h⟩
  · rw [h]
    simp only [Step.event, he]
    exact ⟨(List.append_nil _).symm, rfl⟩
  · simp only [Step.event, hv]
    exact body_events h

theorem filterMap_cons_toList {α β} (f : α → Option β) (a : α) (l : List α) :
    (a :: l).filterMap f = (f a).toList ++ l.filterMap f := by
  cases h : f a <;> simp [List.filterMap_cons, h]

/-- **The event log.** After any run, the log is the one before it followed
by the events of the run's successful calls, in order: one for each but
`initialize`, none for a failed call. An indexer that reads those events,
each that gives a status setting its trade's, ends with the statuses storage
holds; from a fresh contract (`statusView .empty` is `none` everywhere) the
new events alone give every trade's status. -/
theorem event_log (w : World) (cs : List Call) :
    (final w cs).events = w.events ++ (trace w cs).filterMap Step.event ∧
      statusView (final w cs).storage =
        replay (statusView w.storage) ((trace w cs).filterMap Step.event) := by
  induction cs generalizing w with
  | nil => exact ⟨(List.append_nil _).symm, rfl⟩
  | cons c cs ih =>
    obtain ⟨he, hs⟩ := call_events c w
    obtain ⟨ihe, ihs⟩ := ih (c.run w).2
    rw [final_cons, trace_cons, filterMap_cons_toList, ihe, ihs, he, hs, List.append_assoc]
    exact ⟨rfl, (List.foldl_append _ _ _ _).symm⟩

end StellarEscrow
