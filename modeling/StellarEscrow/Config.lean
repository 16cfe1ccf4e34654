/-
The instance keys in every reachable world: all unset, before the first
successful `initialize`, or all set after it, with the fee rate at most
10000 basis points. Every function but `initialize` checks the `INIT` flag
first, and `initialize` writes all six keys at once, so the two halves never
mix; `update_fee` checks the bound `initialize` checks.
-/
import StellarEscrow.Run

namespace StellarEscrow

open Exec

/-- The instance keys once `initialize` has run. -/
structure Configured (s : Storage) : Prop where
  initialized : s.initialized = true
  admin : s.admin.isSome
  usdcToken : s.usdcToken.isSome
  feeBps : ∃ b, s.feeBps = some b ∧ b.val ≤ 10000
  tradeCounter : s.tradeCounter.isSome
  accumulatedFees : s.accumulatedFees.isSome

namespace Configured

variable {s : Storage} (h : Configured s)
include h

theorem saveTrade (k : U64) (t : Trade) : Configured (s.saveTrade k t) :=
  ⟨h.1, h.2, h.3, h.4, h.5, h.6⟩

theorem saveArbitrator (a : Address) : Configured (s.saveArbitrator a) :=
  ⟨h.1, h.2, h.3, h.4, h.5, h.6⟩

theorem removeArbitrator (a : Address) : Configured (s.removeArbitrator a) :=
  ⟨h.1, h.2, h.3, h.4, h.5, h.6⟩

theorem setTradeCounter (n : U64) : Configured (s.setTradeCounter n) :=
  ⟨h.1, h.2, h.3, h.4, rfl, h.6⟩

theorem setAccumulatedFees (f : U64) : Configured (s.setAccumulatedFees f) :=
  ⟨h.1, h.2, h.3, h.4, h.5, rfl⟩

theorem setFeeBps {b : U32} (hb : b.val ≤ 10000) : Configured (s.setFeeBps b) :=
  ⟨h.1, h.2, h.3, ⟨b, rfl, hb⟩, h.5, h.6⟩

end Configured

/-- The storage is fresh or fully configured. -/
def ConfigOk (s : Storage) : Prop := s = .empty ∨ Configured s

theorem ConfigOk.configured {s : Storage} (h : ConfigOk s) (hi : s.initialized = true) :
    Configured s :=
  h.resolve_left fun he => by simp [he, Storage.empty] at hi

/-- A successful body leaves the keys configured. -/
theorem configured_of_body {env : Env} {op : Op} {w w' : World} {v : Option U64}
    (hc : ConfigOk w.storage) (h : op.body env w = (.ok v, w')) : Configured w'.storage := by
  cases body_ok h with
  | initializeContract _ hb _ => exact ⟨rfl, rfl, rfl, ⟨_, rfl, hb⟩, rfl, rfl⟩
  | registerArbitrator hi => exact (hc.configured hi).saveArbitrator _
  | removeArbitratorFn hi => exact (hc.configured hi).removeArbitrator _
  | updateFee hi hb => exact (hc.configured hi).setFeeBps hb
  | createTrade hi => exact ((hc.configured hi).setTradeCounter _).saveTrade _ _
  | fundTrade hi | completeTrade hi | raiseDispute hi | cancelTrade hi =>
    exact (hc.configured hi).saveTrade _ _
  | withdrawFees hi | confirmReceipt hi | resolveDispute hi =>
    exact (hc.configured hi).setAccumulatedFees _

theorem reachable_configOk {w : World} (hw : Reachable w) : ConfigOk w.storage :=
  Reachable.storage ConfigOk (.inl rfl) (fun _ _ _ _ hc h => .inr (configured_of_body hc h)) hw

end StellarEscrow
