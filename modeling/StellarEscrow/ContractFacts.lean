/-
What each public function does when it returns `Ok`: the checks it passed
and the world it leaves, with every intermediate world substituted away.
Every later fact about a function cites its lemma here and never unfolds the
body again.
-/
import StellarEscrow.Contract
import StellarEscrow.ExecFacts

namespace StellarEscrow

open Exec

variable {env : Env} {w w' : World} {u : Unit} {id : U64}

@[simp] theorem whenInitialized_eq_ok :
    whenInitialized w = (.ok u, w') ↔ w' = w ∧ w.storage.initialized = true := by
  simp [whenInitialized]

@[simp] theorem requireAdmin_eq_ok :
    requireAdmin env w = (.ok u, w') ↔
      w' = w ∧ ∃ a, w.storage.admin = some a ∧ Authorizes env w a := by
  simp only [requireAdmin, bind_eq_ok, fetch_eq_ok, requireAuth_eq_ok, Storage.getAdmin, okOr_eq_ok]
  constructor
  · rintro ⟨a, _, ⟨rfl, ha⟩, rfl, hauth⟩
    exact ⟨rfl, a, ha, hauth⟩
  · rintro ⟨rfl, a, ha, hauth⟩
    exact ⟨a, _, ⟨rfl, ha⟩, rfl, hauth⟩

@[simp] theorem requireRegistered_eq_ok {arb : Option Address} :
    requireRegistered arb w = (.ok u, w') ↔
      w' = w ∧ ∀ a, arb = some a → w.storage.arbitrators a = true := by
  cases arb <;> simp [requireRegistered]

@[simp] theorem requireRegistered_eq_error {arb : Option Address} {e : Fault} :
    requireRegistered arb w = (.error e, w') ↔
      w' = w ∧ ∃ a, arb = some a ∧ w.storage.arbitrators a = false ∧
        e = .contract .arbitratorNotRegistered := by
  cases arb <;> simp [requireRegistered, and_assoc, Storage.hasArbitrator]

@[simp] theorem whenInitialized_eq_error {e : Fault} :
    whenInitialized w = (.error e, w') ↔
      w' = w ∧ w.storage.initialized = false ∧ e = .contract .notInitialized := by
  simp [whenInitialized, and_assoc]

theorem initializeContract_ok {admin token : Address} {feeBps : U32}
    (h : initializeContract env admin token feeBps w = (.ok u, w')) :
    w.storage.initialized = false ∧ feeBps.val ≤ 10000 ∧ Authorizes env w admin ∧
      w' = { w with storage := (((((w.storage.setAdmin admin).setUsdcToken token).setFeeBps
        feeBps).setTradeCounter 0).setAccumulatedFees 0).setInitialized } := by
  simpa only [initializeContract, bind_eq_ok, read_eq_ok, Storage.isInitialized, failIf_eq_ok,
    Bool.not_eq_true, gt_iff_lt, not_lt, requireAuth_eq_ok, write_eq_ok, exists_eq_left, exists_const,
    and_assoc] using h

theorem adminWrite_ok {f : Storage → Storage} {e : Event}
    (h : adminWrite env f e w = (.ok u, w')) :
    w.storage.initialized = true ∧ (∃ a, w.storage.admin = some a ∧ Authorizes env w a) ∧
      w' = { w with storage := f w.storage, events := w.events ++ [e] } := by
  simpa only [adminWrite, bind_eq_ok, whenInitialized_eq_ok, requireAdmin_eq_ok, write_eq_ok,
    publish_eq_ok, exists_eq_left, exists_const, and_assoc] using h

theorem updateFee_ok {feeBps : U32} (h : updateFee env feeBps w = (.ok u, w')) :
    w.storage.initialized = true ∧ feeBps.val ≤ 10000 ∧
      (∃ a, w.storage.admin = some a ∧ Authorizes env w a) ∧
      w' = { w with storage := w.storage.setFeeBps feeBps,
                    events := w.events ++ [.feeUpdated feeBps] } := by
  simpa only [updateFee, bind_eq_ok, whenInitialized_eq_ok, failIf_eq_ok, gt_iff_lt, not_lt,
    requireAdmin_eq_ok, write_eq_ok, publish_eq_ok, exists_eq_left, exists_const, and_assoc] using h

theorem withdrawFees_ok {toAddr : Address} (h : withdrawFees env toAddr w = (.ok u, w')) :
    w.storage.initialized = true ∧ (∃ a, w.storage.admin = some a ∧ Authorizes env w a) ∧
      ∃ fees token, w.storage.accumulatedFees = some fees ∧ fees.val ≠ 0 ∧
        w.storage.usdcToken = some token ∧ fees.val ≤ w.ledger token w.contract ∧
        w' = { w with ledger := move w.ledger token w.contract toAddr fees.val,
                      storage := w.storage.setAccumulatedFees 0,
                      events := w.events ++ [.feesWithdrawn fees toAddr] } := by
  simpa only [ne_eq, exists_and_left, withdrawFees, bind_eq_ok, whenInitialized_eq_ok,
    requireAdmin_eq_ok, fetch_eq_ok, Storage.getAccumulatedFees, okOr_eq_ok, failIf_eq_ok,
    Storage.getUsdcToken, currentContractAddress_eq_ok, transfer_eq_ok, write_eq_ok, publish_eq_ok,
    exists_eq_left, exists_const, and_assoc, true_or, true_and] using h

theorem fundTrade_ok (h : fundTrade env id w = (.ok u, w')) :
    w.storage.initialized = true ∧ ∃ t token, w.storage.trades id = some t ∧
      t.status = .created ∧ Authorizes env w t.buyer ∧ w.storage.usdcToken = some token ∧
      t.amount.val ≤ w.ledger token t.buyer ∧
      w' = { w with ledger := move w.ledger token t.buyer w.contract t.amount.val,
                    storage := w.storage.saveTrade id { t with status := .funded },
                    events := w.events ++ [.tradeFunded id] } := by
  simp only [fundTrade, Storage.getTrade, ne_eq, bind_eq_ok, whenInitialized_eq_ok, fetch_eq_ok,
    okOr_eq_ok, failIf_eq_ok, Decidable.not_not, requireAuth_eq_ok, Storage.getUsdcToken,
    currentContractAddress_eq_ok, transfer_eq_ok, write_eq_ok, publish_eq_ok, exists_eq_left,
    exists_const, and_assoc] at h
  obtain ⟨hi, t, ht, hs, ha, token, htok, -, hle, rfl⟩ := h
  exact ⟨hi, t, token, ht, hs, ha, htok, hle, rfl⟩

theorem createTrade_ok {seller buyer : Address} {amount : U64} {arbitrator : Option Address}
    {r : U64} (h : createTrade env seller buyer amount arbitrator w = (.ok r, w')) :
    w.storage.initialized = true ∧ amount.val ≠ 0 ∧ Authorizes env w seller ∧
      (∀ a, arbitrator = some a → w.storage.arbitrators a = true) ∧
      ∃ n feeBps fee, w.storage.tradeCounter = some n ∧ r.val = n.val + 1 ∧
        w.storage.feeBps = some feeBps ∧ amount.val * feeBps.val < 2 ^ 64 ∧
        fee.val = feeOf amount feeBps ∧
        w' = { w with storage := (w.storage.setTradeCounter r).saveTrade r
                        ⟨r, seller, buyer, amount, fee, arbitrator, .created⟩,
                      events := w.events ++ [.tradeCreated r seller buyer amount] } := by
  simp only [createTrade, bind_eq_ok, whenInitialized_eq_ok, failIf_eq_ok, requireAuth_eq_ok,
    requireRegistered_eq_ok, incrementTradeCounter_eq_ok, fetch_eq_ok, Storage.getFeeBps, okOr_eq_ok,
    lift_eq_ok, write_eq_ok, publish_eq_ok, pure_eq_ok, exists_eq_left, exists_const, and_assoc,
    Storage.setTradeCounter_feeBps] at h
  obtain ⟨hi, ha, hs, harb, r, ⟨n, hn, hr⟩, b, hb, prod, hprod, fee, hfee, rfl, rfl⟩ := h
  obtain ⟨hlt, hprod⟩ := checkedMul_eq_some.1 hprod
  obtain ⟨-, hfee⟩ := checkedDiv_eq_some.1 hfee
  exact ⟨hi, ha, hs, harb, n, b, fee, hn, hr, hb, hlt, by rw [hfee, hprod]; rfl, rfl⟩

theorem sellerTransition_ok {expected next : TradeStatus} {e : Event}
    (h : sellerTransition env id expected next e w = (.ok u, w')) :
    w.storage.initialized = true ∧ ∃ t, w.storage.trades id = some t ∧ t.status = expected ∧
      Authorizes env w t.seller ∧
      w' = { w with storage := w.storage.saveTrade id { t with status := next },
                    events := w.events ++ [e] } := by
  simpa only [sellerTransition, Storage.getTrade, ne_eq, bind_eq_ok, whenInitialized_eq_ok,
    fetch_eq_ok, okOr_eq_ok, failIf_eq_ok, Decidable.not_not, requireAuth_eq_ok, write_eq_ok,
    publish_eq_ok, exists_eq_left, exists_const, and_assoc] using h

theorem payOut_eq_ok {token recipient : Address} {t : Trade} {p : U64} :
    payOut env token t recipient w = (.ok p, w') ↔
      checkedSub t.amount t.fee = some p ∧ p.val ≤ w.ledger token w.contract ∧
      ∃ acc fees, w.storage.accumulatedFees = some acc ∧ checkedAdd acc t.fee = some fees ∧
        w' = { w with ledger := move w.ledger token w.contract recipient p.val,
                      storage := w.storage.setAccumulatedFees fees } := by
  simp only [payOut, bind_eq_ok, lift_eq_ok, okOr_eq_ok, currentContractAddress_eq_ok,
    transfer_eq_ok, fetch_eq_ok, Storage.getAccumulatedFees, write_eq_ok, pure_eq_ok]
  constructor
  · rintro ⟨p, _, ⟨rfl, hp⟩, _, _, ⟨rfl, rfl⟩, _, _, ⟨rfl, -, hle⟩, acc, _, ⟨rfl, hacc⟩, fees, _,
      ⟨rfl, hfees⟩, _, _, rfl, rfl, rfl⟩
    exact ⟨hp, hle, acc, fees, hacc, hfees, rfl⟩
  · rintro ⟨hp, hle, acc, fees, hacc, hfees, rfl⟩
    exact ⟨p, _, ⟨rfl, hp⟩, _, _, ⟨rfl, rfl⟩, (), _, ⟨rfl, .inl rfl, hle⟩, acc, _, ⟨rfl, hacc⟩, fees,
      _, ⟨rfl, hfees⟩, (), _, rfl, rfl, rfl⟩

theorem confirmReceipt_ok (h : confirmReceipt env id w = (.ok u, w')) :
    w.storage.initialized = true ∧ ∃ t token p acc fees, w.storage.trades id = some t ∧
      t.status = .completed ∧ Authorizes env w t.buyer ∧ w.storage.usdcToken = some token ∧
      checkedSub t.amount t.fee = some p ∧ p.val ≤ w.ledger token w.contract ∧
      w.storage.accumulatedFees = some acc ∧ checkedAdd acc t.fee = some fees ∧
      w' = { w with ledger := move w.ledger token w.contract t.seller p.val,
                    storage := w.storage.setAccumulatedFees fees,
                    events := w.events ++ [.tradeConfirmed id p t.fee] } := by
  simp only [confirmReceipt, Storage.getTrade, ne_eq, bind_eq_ok, whenInitialized_eq_ok, fetch_eq_ok,
    okOr_eq_ok, failIf_eq_ok, Decidable.not_not, requireAuth_eq_ok, Storage.getUsdcToken,
    publish_eq_ok, and_assoc, exists_eq_left, exists_const] at h
  obtain ⟨hi, t, ht, hs, ha, token, htok, p, _, hpay, rfl⟩ := h
  obtain ⟨hp, hle, acc, fees, hacc, hfees, rfl⟩ := payOut_eq_ok.1 hpay
  exact ⟨hi, t, token, p, acc, fees, ht, hs, ha, htok, hp, hle, hacc, hfees, rfl⟩

theorem raiseDispute_ok (h : raiseDispute env id w = (.ok u, w')) :
    w.storage.initialized = true ∧ ∃ t, w.storage.trades id = some t ∧
      (t.status = .funded ∨ t.status = .completed) ∧ t.arbitrator.isSome ∧
      (env.invoker = t.buyer ∨ env.invoker = t.seller) ∧ Authorizes env w env.invoker ∧
      w' = { w with storage := w.storage.saveTrade id { t with status := .disputed },
                    events := w.events ++ [.disputeRaised id env.invoker] } := by
  simp only [raiseDispute, Storage.getTrade, ne_eq, bind_eq_ok, whenInitialized_eq_ok, fetch_eq_ok,
    okOr_eq_ok, failIf_eq_ok, not_and, Decidable.not_not, Option.isNone_iff_eq_none,
    requireAuth_eq_ok, write_eq_ok, publish_eq_ok, exists_eq_left, exists_const, and_assoc,
    or_iff_not_imp_left, Option.isSome_iff_ne_none] at h ⊢
  exact h

theorem resolveDispute_ok {resolution : DisputeResolution}
    (h : resolveDispute env id resolution w = (.ok u, w')) :
    w.storage.initialized = true ∧ ∃ t arbitrator token p acc fees, w.storage.trades id = some t ∧
      t.status = .disputed ∧ t.arbitrator = some arbitrator ∧ Authorizes env w arbitrator ∧
      w.storage.usdcToken = some token ∧
      checkedSub t.amount t.fee = some p ∧ p.val ≤ w.ledger token w.contract ∧
      w.storage.accumulatedFees = some acc ∧ checkedAdd acc t.fee = some fees ∧
      w' = { w with ledger := move w.ledger token w.contract (resolution.recipient t) p.val,
                    storage := w.storage.setAccumulatedFees fees,
                    events := w.events ++ [.disputeResolved id resolution (resolution.recipient t)] } := by
  simp only [resolveDispute, Storage.getTrade, ne_eq, bind_eq_ok, whenInitialized_eq_ok, fetch_eq_ok,
    okOr_eq_ok, failIf_eq_ok, Decidable.not_not, lift_eq_ok, requireAuth_eq_ok, Storage.getUsdcToken,
    publish_eq_ok, and_assoc, exists_eq_left, exists_const] at h
  obtain ⟨hi, t, ht, hs, arb, harb, ha, token, htok, p, _, hpay, rfl⟩ := h
  obtain ⟨hp, hle, acc, fees, hacc, hfees, rfl⟩ := payOut_eq_ok.1 hpay
  exact ⟨hi, t, arb, token, p, acc, fees, ht, hs, harb, ha, htok, hp, hle, hacc, hfees, rfl⟩

/-! ## The checks, evaluated -/

theorem whenInitialized_of (hi : w.storage.initialized = true) : whenInitialized w = (.ok (), w) :=
  whenInitialized_eq_ok.2 ⟨rfl, hi⟩

theorem requireAdmin_ok {a : Address} (ha : w.storage.admin = some a) (h : Authorizes env w a) :
    requireAdmin env w = (.ok (), w) :=
  requireAdmin_eq_ok.2 ⟨rfl, a, ha, h⟩

theorem requireRegistered_ok {arb : Option Address}
    (h : ∀ a, arb = some a → w.storage.arbitrators a = true) : requireRegistered arb w = (.ok (), w) :=
  requireRegistered_eq_ok.2 ⟨rfl, h⟩

theorem fetchTrade_some {k : U64} {t : Trade} (ht : w.storage.trades k = some t) :
    fetch (·.getTrade k) w = (.ok t, w) :=
  fetch_eq_ok.2 ⟨rfl, by simp [ht]⟩

theorem fetchUsdcToken_of {token : Address} (h : w.storage.usdcToken = some token) :
    fetch Storage.getUsdcToken w = (.ok token, w) :=
  fetch_eq_ok.2 ⟨rfl, by simp [h]⟩

theorem fetchAccumulatedFees_of {fees : U64} (h : w.storage.accumulatedFees = some fees) :
    fetch Storage.getAccumulatedFees w = (.ok fees, w) :=
  fetch_eq_ok.2 ⟨rfl, by simp [h]⟩

theorem fetchFeeBps_of {b : U32} (h : w.storage.feeBps = some b) :
    fetch Storage.getFeeBps w = (.ok b, w) :=
  fetch_eq_ok.2 ⟨rfl, by simp [h]⟩

theorem payOut_ok {token recipient : Address} {t : Trade} {p acc fees : U64}
    (hp : checkedSub t.amount t.fee = some p) (hle : p.val ≤ w.ledger token w.contract)
    (hacc : w.storage.accumulatedFees = some acc) (hfees : checkedAdd acc t.fee = some fees) :
    payOut env token t recipient w =
      (.ok p, { w with ledger := move w.ledger token w.contract recipient p.val,
                       storage := w.storage.setAccumulatedFees fees }) :=
  payOut_eq_ok.2 ⟨hp, hle, acc, fees, hacc, hfees, rfl⟩

/-! ## A successful call, classified -/

theorem body_unit_eq_ok {x : Exec Unit} {v : Option U64} :
    (do x; pure none : Exec (Option U64)) w = (.ok v, w') ↔ x w = (.ok (), w') ∧ v = none := by
  simp only [bind_eq_ok, pure_eq_ok]
  constructor
  · rintro ⟨⟨⟩, _, h, rfl, rfl⟩
    exact ⟨h, rfl⟩
  · rintro ⟨h, rfl⟩
    exact ⟨(), _, h, rfl, rfl⟩

theorem body_createTrade_eq_ok {seller buyer : Address} {amount : U64} {arb : Option Address}
    {v : Option U64} :
    (Op.createTrade seller buyer amount arb).body env w = (.ok v, w') ↔
      ∃ r, createTrade env seller buyer amount arb w = (.ok r, w') ∧ v = some r := by
  simp only [Op.body, bind_eq_ok, pure_eq_ok]
  constructor
  · rintro ⟨r, _, h, rfl, rfl⟩
    exact ⟨r, h, rfl⟩
  · rintro ⟨r, h, rfl⟩
    exact ⟨r, _, h, rfl, rfl⟩

/-- What a call that returns `Ok` did, one constructor per public function:
the checks it passed, and the answer and world it leaves. -/
inductive OkStep (env : Env) (w : World) : Op → Option U64 → World → Prop
  | initializeContract {admin token : Address} {b : U32} :
      w.storage.initialized = false → b.val ≤ 10000 → Authorizes env w admin →
      OkStep env w (.initializeContract admin token b) none
        { w with storage := (((((w.storage.setAdmin admin).setUsdcToken token).setFeeBps
            b).setTradeCounter 0).setAccumulatedFees 0).setInitialized }
  | registerArbitrator {a admin : Address} :
      w.storage.initialized = true → w.storage.admin = some admin → Authorizes env w admin →
      OkStep env w (.registerArbitrator a) none
        { w with storage := w.storage.saveArbitrator a,
                 events := w.events ++ [.arbitratorRegistered a] }
  | removeArbitratorFn {a admin : Address} :
      w.storage.initialized = true → w.storage.admin = some admin → Authorizes env w admin →
      OkStep env w (.removeArbitratorFn a) none
        { w with storage := w.storage.removeArbitrator a,
                 events := w.events ++ [.arbitratorRemoved a] }
  | updateFee {b : U32} {admin : Address} :
      w.storage.initialized = true → b.val ≤ 10000 → w.storage.admin = some admin →
      Authorizes env w admin →
      OkStep env w (.updateFee b) none
        { w with storage := w.storage.setFeeBps b, events := w.events ++ [.feeUpdated b] }
  | withdrawFees {toAddr admin token : Address} {fees : U64} :
      w.storage.initialized = true → w.storage.admin = some admin → Authorizes env w admin →
      w.storage.accumulatedFees = some fees → fees.val ≠ 0 → w.storage.usdcToken = some token →
      fees.val ≤ w.ledger token w.contract →
      OkStep env w (.withdrawFees toAddr) none
        { w with ledger := move w.ledger token w.contract toAddr fees.val,
                 storage := w.storage.setAccumulatedFees 0,
                 events := w.events ++ [.feesWithdrawn fees toAddr] }
  | createTrade {seller buyer : Address} {amount : U64} {arb : Option Address} {r n fee : U64}
      {b : U32} :
      w.storage.initialized = true → amount.val ≠ 0 → Authorizes env w seller →
      (∀ a, arb = some a → w.storage.arbitrators a = true) →
      w.storage.tradeCounter = some n → r.val = n.val + 1 → w.storage.feeBps = some b →
      amount.val * b.val < 2 ^ 64 → fee.val = feeOf amount b →
      OkStep env w (.createTrade seller buyer amount arb) (some r)
        { w with storage := (w.storage.setTradeCounter r).saveTrade r
                   ⟨r, seller, buyer, amount, fee, arb, .created⟩,
                 events := w.events ++ [.tradeCreated r seller buyer amount] }
  | fundTrade {k : U64} {t : Trade} {token : Address} :
      w.storage.initialized = true → w.storage.trades k = some t → t.status = .created →
      Authorizes env w t.buyer → w.storage.usdcToken = some token →
      t.amount.val ≤ w.ledger token t.buyer →
      OkStep env w (.fundTrade k) none
        { w with ledger := move w.ledger token t.buyer w.contract t.amount.val,
                 storage := w.storage.saveTrade k { t with status := .funded },
                 events := w.events ++ [.tradeFunded k] }
  | completeTrade {k : U64} {t : Trade} :
      w.storage.initialized = true → w.storage.trades k = some t → t.status = .funded →
      Authorizes env w t.seller →
      OkStep env w (.completeTrade k) none
        { w with storage := w.storage.saveTrade k { t with status := .completed },
                 events := w.events ++ [.tradeCompleted k] }
  | confirmReceipt {k : U64} {t : Trade} {token : Address} {p acc fees : U64} :
      w.storage.initialized = true → w.storage.trades k = some t → t.status = .completed →
      Authorizes env w t.buyer → w.storage.usdcToken = some token →
      checkedSub t.amount t.fee = some p → p.val ≤ w.ledger token w.contract →
      w.storage.accumulatedFees = some acc → checkedAdd acc t.fee = some fees →
      OkStep env w (.confirmReceipt k) none
        { w with ledger := move w.ledger token w.contract t.seller p.val,
                 storage := w.storage.setAccumulatedFees fees,
                 events := w.events ++ [.tradeConfirmed k p t.fee] }
  | raiseDispute {k : U64} {t : Trade} :
      w.storage.initialized = true → w.storage.trades k = some t →
      (t.status = .funded ∨ t.status = .completed) → t.arbitrator.isSome →
      (env.invoker = t.buyer ∨ env.invoker = t.seller) → Authorizes env w env.invoker →
      OkStep env w (.raiseDispute k) none
        { w with storage := w.storage.saveTrade k { t with status := .disputed },
                 events := w.events ++ [.disputeRaised k env.invoker] }
  | resolveDispute {k : U64} {res : DisputeResolution} {t : Trade} {arbitrator token : Address}
      {p acc fees : U64} :
      w.storage.initialized = true → w.storage.trades k = some t → t.status = .disputed →
      t.arbitrator = some arbitrator → Authorizes env w arbitrator →
      w.storage.usdcToken = some token → checkedSub t.amount t.fee = some p →
      p.val ≤ w.ledger token w.contract → w.storage.accumulatedFees = some acc →
      checkedAdd acc t.fee = some fees →
      OkStep env w (.resolveDispute k res) none
        { w with ledger := move w.ledger token w.contract (res.recipient t) p.val,
                 storage := w.storage.setAccumulatedFees fees,
                 events := w.events ++ [.disputeResolved k res (res.recipient t)] }
  | cancelTrade {k : U64} {t : Trade} :
      w.storage.initialized = true → w.storage.trades k = some t → t.status = .created →
      Authorizes env w t.seller →
      OkStep env w (.cancelTrade k) none
        { w with storage := w.storage.saveTrade k { t with status := .cancelled },
                 events := w.events ++ [.tradeCancelled k] }

/-- **What a successful call did**, said once for every public function. -/
theorem body_ok {op : Op} {v : Option U64} (h : op.body env w = (.ok v, w')) : OkStep env w op v w' := by
  cases op with
  | createTrade seller buyer amount arb =>
    obtain ⟨r, hcr, rfl⟩ := body_createTrade_eq_ok.1 h
    obtain ⟨hi, ha, hs, harb, n, b, fee, hn, hr, hb, hlt, hfee, rfl⟩ := createTrade_ok hcr
    exact .createTrade hi ha hs harb hn hr hb hlt hfee
  | _ => ?_
  all_goals obtain ⟨hx, rfl⟩ := body_unit_eq_ok.1 h
  case initializeContract =>
    obtain ⟨hi, hb, ha, rfl⟩ := initializeContract_ok hx
    exact .initializeContract hi hb ha
  case registerArbitrator =>
    obtain ⟨hi, ⟨a, ha, hauth⟩, rfl⟩ := adminWrite_ok hx
    exact .registerArbitrator hi ha hauth
  case removeArbitratorFn =>
    obtain ⟨hi, ⟨a, ha, hauth⟩, rfl⟩ := adminWrite_ok hx
    exact .removeArbitratorFn hi ha hauth
  case updateFee =>
    obtain ⟨hi, hb, ⟨a, ha, hauth⟩, rfl⟩ := updateFee_ok hx
    exact .updateFee hi hb ha hauth
  case withdrawFees =>
    obtain ⟨hi, ⟨a, ha, hauth⟩, fees, token, hacc, h0, htok, hle, rfl⟩ := withdrawFees_ok hx
    exact .withdrawFees hi ha hauth hacc h0 htok hle
  case fundTrade =>
    obtain ⟨hi, t, token, ht, hs, ha, htok, hle, rfl⟩ := fundTrade_ok hx
    exact .fundTrade hi ht hs ha htok hle
  case completeTrade =>
    obtain ⟨hi, t, ht, hs, ha, rfl⟩ := sellerTransition_ok hx
    exact .completeTrade hi ht hs ha
  case confirmReceipt =>
    obtain ⟨hi, t, token, p, acc, fees, ht, hs, ha, htok, hp, hle, hacc, hfees, rfl⟩ :=
      confirmReceipt_ok hx
    exact .confirmReceipt hi ht hs ha htok hp hle hacc hfees
  case raiseDispute =>
    obtain ⟨hi, t, ht, hs, harb, hinv, ha, rfl⟩ := raiseDispute_ok hx
    exact .raiseDispute hi ht hs harb hinv ha
  case resolveDispute =>
    obtain ⟨hi, t, arb, token, p, acc, fees, ht, hs, harb, ha, htok, hp, hle, hacc, hfees, rfl⟩ :=
      resolveDispute_ok hx
    exact .resolveDispute hi ht hs harb ha htok hp hle hacc hfees
  case cancelTrade =>
    obtain ⟨hi, t, ht, hs, ha, rfl⟩ := sellerTransition_ok hx
    exact .cancelTrade hi ht hs ha

end StellarEscrow
