/-
How a body runs, one host function at a time: when `x >>= f` returns `Ok`,
`x` did and `f` ran from the world `x` left (`bind_eq_ok`); when it fails,
either `x` failed or `f` did (`bind_eq_error`). Each host function then has
its `_eq_ok` lemma, world equation first, so a body's successful runs unfold
by `simp` into the conditions it checked and the world it leaves.
-/
import StellarEscrow.Host

namespace StellarEscrow

open Exec

variable {α β : Type} {w w' w'' : World}

theorem bind_apply (x : Exec α) (f : α → Exec β) (w : World) :
    (x >>= f) w = match x w with
      | (.ok a, w') => f a w'
      | (.error e, w') => (.error e, w') := rfl

@[simp] theorem bind_eq_ok {x : Exec α} {f : α → Exec β} {b : β} :
    (x >>= f) w = (.ok b, w'') ↔ ∃ a w', x w = (.ok a, w') ∧ f a w' = (.ok b, w'') := by
  rw [bind_apply]
  rcases x w with ⟨_ | a, w'⟩ <;> simp [and_assoc]

@[simp] theorem bind_eq_error {x : Exec α} {f : α → Exec β} {e : Fault} :
    (x >>= f) w = (.error e, w'') ↔
      x w = (.error e, w'') ∨ ∃ a w', x w = (.ok a, w') ∧ f a w' = (.error e, w'') := by
  rw [bind_apply]
  rcases x w with ⟨_ | a, w'⟩ <;> simp [and_assoc]

theorem bind_of_error {x : Exec α} {f : α → Exec β} {e : Fault} (h : x w = (.error e, w')) :
    (x >>= f) w = (.error e, w') := by
  rw [bind_apply, h]

theorem bind_of_ok {x : Exec α} {f : α → Exec β} {a : α} (h : x w = (.ok a, w')) :
    (x >>= f) w = f a w' := by
  rw [bind_apply, h]

theorem exec_bind_assoc {γ : Type} (x : Exec α) (f : α → Exec β) (g : β → Exec γ) :
    x >>= f >>= g = x >>= fun a => f a >>= g := by
  funext w
  simp only [bind_apply]
  rcases x w with ⟨_ | a, w'⟩ <;> rfl

theorem exec_pure_bind (a : α) (f : α → Exec β) : (pure a >>= f : Exec β) = f a := rfl

/-! ## Host functions that return `Ok` -/

@[simp] theorem pure_eq_ok {a b : α} : (pure a : Exec α) w = (.ok b, w') ↔ w' = w ∧ b = a := by
  show (Except.ok a, w) = _ ↔ _
  simp only [Prod.mk.injEq, Except.ok.injEq]
  exact ⟨fun h => ⟨h.2.symm, h.1.symm⟩, fun h => ⟨h.2.symm, h.1.symm⟩⟩

@[simp] theorem fail_ne_ok {e : Fault} {a : α} : (fail e : Exec α) w ≠ (.ok a, w') := by
  simp [fail]

@[simp] theorem read_eq_ok {f : Storage → α} {a : α} :
    Exec.read f w = (.ok a, w') ↔ w' = w ∧ a = f w.storage := by
  simp only [Exec.read, Prod.mk.injEq, Except.ok.injEq]
  exact ⟨fun h => ⟨h.2.symm, h.1.symm⟩, fun h => ⟨h.2.symm, h.1.symm⟩⟩

@[simp] theorem write_eq_ok {f : Storage → Storage} {u : Unit} :
    write f w = (.ok u, w') ↔ w' = { w with storage := f w.storage } := by
  simp [write, eq_comm]

@[simp] theorem publish_eq_ok {e : Event} {u : Unit} :
    publish e w = (.ok u, w') ↔ w' = { w with events := w.events ++ [e] } := by
  simp [publish, eq_comm]

@[simp] theorem currentContractAddress_eq_ok {a : Address} :
    currentContractAddress w = (.ok a, w') ↔ w' = w ∧ a = w.contract := by
  simp only [currentContractAddress, Prod.mk.injEq, Except.ok.injEq]
  exact ⟨fun h => ⟨h.2.symm, h.1.symm⟩, fun h => ⟨h.2.symm, h.1.symm⟩⟩

@[simp] theorem lift_eq_ok {r : Except ContractError α} {a : α} :
    lift r w = (.ok a, w') ↔ w' = w ∧ r = .ok a := by
  cases r <;> simp [lift, eq_comm, and_comm]

@[simp] theorem fetch_eq_ok {f : Storage → Except ContractError α} {a : α} :
    fetch f w = (.ok a, w') ↔ w' = w ∧ f w.storage = .ok a := lift_eq_ok

@[simp] theorem okOr_eq_ok {o : Option α} {e : ContractError} {a : α} : okOr o e = .ok a ↔ o = some a := by
  cases o <;> simp [okOr]

@[simp] theorem failIf_eq_ok {c : Prop} [Decidable c] {e : ContractError} {u : Unit} :
    failIf c e w = (.ok u, w') ↔ w' = w ∧ ¬c := by
  unfold failIf
  split <;> simp_all [fail, pure, eq_comm]

theorem failIf_of_not {c : Prop} [Decidable c] {e : ContractError} (h : ¬c) : failIf c e = pure () :=
  if_neg h

@[simp] theorem requireAuth_eq_ok {env : Env} {a : Address} {u : Unit} :
    requireAuth env a w = (.ok u, w') ↔ w' = w ∧ Authorizes env w a := by
  unfold requireAuth
  split <;> simp_all [eq_comm]

@[simp] theorem transfer_eq_ok {env : Env} {tok src dst : Address} {n : Nat} {u : Unit} :
    transfer env tok src dst n w = (.ok u, w') ↔
      w' = { w with ledger := move w.ledger tok src dst n } ∧
        (src = w.contract ∨ src ∈ env.signers) ∧ n ≤ w.ledger tok src := by
  unfold transfer
  split <;> simp_all [eq_comm]

@[simp] theorem incrementTradeCounter_eq_ok {c : U64} :
    incrementTradeCounter w = (.ok c, w') ↔
      w' = { w with storage := w.storage.setTradeCounter c } ∧
        ∃ n, w.storage.tradeCounter = some n ∧ c.val = n.val + 1 := by
  simp only [incrementTradeCounter, bind_eq_ok, fetch_eq_ok, lift_eq_ok, okOr_eq_ok, write_eq_ok,
    pure_eq_ok, Storage.getTradeCounter, checkedAdd_eq_some, U64.val_one]
  constructor
  · rintro ⟨n, _, ⟨rfl, hn⟩, c', _, ⟨rfl, -, hc⟩, _, _, rfl, rfl, rfl⟩
    exact ⟨rfl, n, hn, hc⟩
  · rintro ⟨rfl, n, hn, hc⟩
    exact ⟨n, _, ⟨rfl, hn⟩, c, _, ⟨rfl, hc ▸ c.isLt, hc⟩, (), _, rfl, rfl, rfl⟩

/-! ## Host functions that fail -/

section
variable {e : Fault}

@[simp] theorem pure_eq_error {a : α} : (pure a : Exec α) w = (.error e, w') ↔ False := by
  simp [pure]

@[simp] theorem fail_eq_error {e' : Fault} :
    (fail e' : Exec α) w = (.error e, w') ↔ w' = w ∧ e = e' := by
  simp [fail, eq_comm, and_comm]

@[simp] theorem read_eq_error {f : Storage → α} : Exec.read f w = (.error e, w') ↔ False := by
  simp [Exec.read]

@[simp] theorem write_eq_error {f : Storage → Storage} : write f w = (.error e, w') ↔ False := by
  simp [write]

@[simp] theorem publish_eq_error {ev : Event} : publish ev w = (.error e, w') ↔ False := by
  simp [publish]

@[simp] theorem currentContractAddress_eq_error :
    currentContractAddress w = (.error e, w') ↔ False := by
  simp [currentContractAddress]

@[simp] theorem lift_eq_error {r : Except ContractError α} :
    lift r w = (.error e, w') ↔ w' = w ∧ ∃ ce, r = .error ce ∧ e = .contract ce := by
  cases r <;> simp [lift, eq_comm, and_comm]

@[simp] theorem fetch_eq_error {f : Storage → Except ContractError α} :
    fetch f w = (.error e, w') ↔ w' = w ∧ ∃ ce, f w.storage = .error ce ∧ e = .contract ce :=
  lift_eq_error

@[simp] theorem okOr_eq_error {o : Option α} {ce ce' : ContractError} :
    okOr o ce = .error ce' ↔ o = none ∧ ce' = ce := by
  cases o <;> simp [okOr, eq_comm]

@[simp] theorem failIf_eq_error {c : Prop} [Decidable c] {ce : ContractError} :
    failIf c ce w = (.error e, w') ↔ w' = w ∧ c ∧ e = .contract ce := by
  unfold failIf
  split <;> simp_all [fail, pure, eq_comm, and_comm]

@[simp] theorem requireAuth_eq_error {env : Env} {a : Address} :
    requireAuth env a w = (.error e, w') ↔ w' = w ∧ ¬ Authorizes env w a ∧ e = .auth a := by
  unfold requireAuth
  split <;> simp_all [eq_comm, and_comm]

@[simp] theorem transfer_eq_error {env : Env} {tok src dst : Address} {n : Nat} :
    transfer env tok src dst n w = (.error e, w') ↔
      w' = w ∧ ¬ ((src = w.contract ∨ src ∈ env.signers) ∧ n ≤ w.ledger tok src) ∧
        e = .transfer := by
  unfold transfer
  split <;> simp_all [eq_comm, and_comm]

@[simp] theorem incrementTradeCounter_eq_error :
    incrementTradeCounter w = (.error e, w') ↔ w' = w ∧
      (w.storage.tradeCounter = none ∧ e = .contract .notInitialized ∨
        ∃ n, w.storage.tradeCounter = some n ∧ checkedAdd n 1 = none ∧ e = .contract .overflow) := by
  cases h : w.storage.tradeCounter <;> simp [incrementTradeCounter, h, and_assoc]

end

/-! ## Host functions, evaluated

The value each host function returns in a world where its outcome is known,
for running a body forward past checks that hold. -/

section

variable {env : Env}

theorem bind_read (f : Storage → α) (g : α → Exec β) :
    (Exec.read f >>= g) w = g (f w.storage) w := rfl

theorem bind_write (f : Storage → Storage) (g : Unit → Exec β) :
    (write f >>= g) w = g () { w with storage := f w.storage } := rfl

theorem bind_publish (e : Event) (g : Unit → Exec β) :
    (publish e >>= g) w = g () { w with events := w.events ++ [e] } := rfl

theorem bind_currentContractAddress (g : Address → Exec β) :
    (currentContractAddress >>= g) w = g w.contract w := rfl

theorem pure_apply (a : α) : (pure a : Exec α) w = (.ok a, w) := rfl

theorem lift_some {o : Option α} {e : ContractError} {a : α} (h : o = some a) :
    lift (okOr o e) w = (.ok a, w) :=
  lift_eq_ok.2 ⟨rfl, by rw [h]; rfl⟩

theorem lift_none {o : Option α} {e : ContractError} (h : o = none) :
    lift (okOr o e) w = (.error (.contract e), w) :=
  lift_eq_error.2 ⟨rfl, e, by rw [h]; rfl, rfl⟩

theorem requireAuth_ok {a : Address} (h : Authorizes env w a) : requireAuth env a w = (.ok (), w) :=
  requireAuth_eq_ok.2 ⟨rfl, h⟩

theorem transfer_ok {token src dst : Address} {n : Nat}
    (hs : src = w.contract ∨ src ∈ env.signers) (hle : n ≤ w.ledger token src) :
    transfer env token src dst n w = (.ok (), { w with ledger := move w.ledger token src dst n }) :=
  transfer_eq_ok.2 ⟨rfl, hs, hle⟩

theorem incrementTradeCounter_of {n r : U64} (hn : w.storage.tradeCounter = some n)
    (hr : r.val = n.val + 1) :
    incrementTradeCounter w = (.ok r, { w with storage := w.storage.setTradeCounter r }) :=
  incrementTradeCounter_eq_ok.2 ⟨rfl, n, hn, hr⟩

end

end StellarEscrow
