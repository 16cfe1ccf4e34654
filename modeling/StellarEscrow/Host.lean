/-
What a contract function runs against: the world (the contract's address
and storage, the token ledgers, the event log), the caller's `Env`, and the
host functions the contract calls (`require_auth`, a token's `transfer`,
`events().publish`).

A function body is an `Exec`: it runs in code order and stops at the first
error, leaving the world as it stood there, every write and transfer made
before the error included. That is the body on its own; the host runs each
invocation as one transaction (`invoke`), committing the body's world when
it returns `Ok` and rolling all of it back when it fails.
-/
import StellarEscrow.Storage

namespace StellarEscrow

/-- Why an invocation fails: the contract's own `Err`, or a host error that
aborts it, an unsatisfied `require_auth` or a refused token transfer. -/
inductive Fault where
  | contract (e : ContractError)
  | auth (a : Address)
  | transfer
  deriving DecidableEq, Repr

/-- The caller's side of an invocation: `env.invoker()`, and the addresses
whose authorization of this call the host can prove. -/
structure Env where
  invoker : Address
  signers : List Address

/-- Everything an invocation reads or changes. `ledger token holder` is
`holder`'s balance of `token`. -/
structure World where
  contract : Address
  storage : Storage
  ledger : Address → Address → Nat
  events : List Event

/-- A contract function's body, as it runs: its result and the world it
leaves, also when it fails. -/
def Exec (α : Type) : Type := World → Except Fault α × World

instance : Monad Exec where
  pure a w := (.ok a, w)
  bind x f w := match x w with
    | (.ok a, w') => f a w'
    | (.error e, w') => (.error e, w')

namespace Exec

/-- Stop with `e`. -/
def fail {α} (e : Fault) : Exec α := fun w => (.error e, w)

/-- `if cond { return Err(e); }` -/
def failIf (cond : Prop) [Decidable cond] (e : ContractError) : Exec Unit :=
  if cond then fail (.contract e) else pure ()

/-- Rust's `?` on a `Result<_, ContractError>`. -/
def lift {α} (r : Except ContractError α) : Exec α := fun w =>
  match r with
  | .ok a => (.ok a, w)
  | .error e => (.error (.contract e), w)

/-- Read the storage. -/
def read {α} (f : Storage → α) : Exec α := fun w => (.ok (f w.storage), w)

/-- A fallible storage getter, followed by `?`. -/
def fetch {α} (f : Storage → Except ContractError α) : Exec α := fun w => lift (f w.storage) w

/-- Write the storage. -/
def write (f : Storage → Storage) : Exec Unit := fun w => (.ok (), { w with storage := f w.storage })

/-- `env.current_contract_address()`. -/
def currentContractAddress : Exec Address := fun w => (.ok w.contract, w)

/-- `a` authorized the invocation: the host proves an account's
authorization from its signature and a contract's from its being the caller,
so the contract's own address never authorizes its own invocation. -/
def Authorizes (env : Env) (w : World) (a : Address) : Prop := a ≠ w.contract ∧ a ∈ env.signers

instance (env : Env) (w : World) (a : Address) : Decidable (Authorizes env w a) :=
  inferInstanceAs (Decidable (_ ∧ _))

/-- `address.require_auth()`. -/
def requireAuth (env : Env) (a : Address) : Exec Unit := fun w =>
  if Authorizes env w a then (.ok (), w) else (.error (.auth a), w)

/-- The ledger after `amount` of `token` moves from `src` to `dst`. -/
def move (l : Address → Address → Nat) (token src dst : Address) (amount : Nat) :
    Address → Address → Nat := fun tok a =>
  if tok = token then
    (if a = src then l tok a - amount else l tok a) + (if a = dst then amount else 0)
  else l tok a

/-- Modelled from the spec: the token contract's `transfer(from, to, amount)`
(`token.wasm` is not in the repository), the external Value Transfer Service
of the spec's section 2. It moves `amount` when `src` authorized it (the
calling contract authorizes its own transfers) and holds that much, and fails
as a whole otherwise. -/
def transfer (env : Env) (token src dst : Address) (amount : Nat) : Exec Unit := fun w =>
  if (src = w.contract ∨ src ∈ env.signers) ∧ amount ≤ w.ledger token src then
    (.ok (), { w with ledger := move w.ledger token src dst amount })
  else (.error .transfer, w)

/-- `env.events().publish(..)`. -/
def publish (e : Event) : Exec Unit := fun w => (.ok (), { w with events := w.events ++ [e] })

end Exec

open Exec

/-- `increment_trade_counter` (`storage.rs`): the next trade id, stored. -/
def incrementTradeCounter : Exec U64 := do
  let current ← fetch Storage.getTradeCounter
  let next ← lift (okOr (checkedAdd current 1) .overflow)
  write (Storage.setTradeCounter · next)
  pure next

/-- The host's transaction: the body's world is committed when it returns
`Ok`, and the world before it is kept when it fails. -/
def invoke {α} (x : Exec α) (w : World) : Except Fault α × World :=
  match x w with
  | (.ok a, w') => (.ok a, w')
  | (.error e, _) => (.error e, w)

end StellarEscrow
