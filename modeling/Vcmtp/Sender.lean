import Vcmtp.SenderMetadata
import Vcmtp.Retransmit
import Vcmtp.Bop
import Vcmtp.RetxThreads

/-!
# The sender's state, its error slot, and `Stop`

`Sender` is the state of one `vcmtpSendv3` object that the modelled code reads and
writes: the product counter `prodIndex`, the table `sendMeta`, TcpSend's connection
list, the delay queue `timerDelayQ`, the error slot `except`/`exceptIsSet`, the worker
list, and `log`, everything the sender has done that others observe, in order.

`SenderM` runs a piece of the code from a state to the value it returns or the exception
it throws, with the state it leaves: as in C++, the effects made before a `throw` stay.

* `stop` — `Stop`: disable the queue, cancel the workers, rethrow the recorded exception;
* `taskExit` — record the first exception (as a `std::exception` copy), then `Stop`;
* `taskWrapper` — the `try … catch (std::exception& e) { taskExit(e); }` of
  `timerWrapper`.

Since `Stop` rethrows whatever the slot holds and `taskExit` has just filled it,
`taskExit` never returns normally (`taskExit_apply`), and an exception of `timerThread`
escapes `timerWrapper`. `coordinator` has the same handler, but the `Stop` it reaches there
begins with `pthread_cancel(coor_t)`, a cancellation of the coordinator itself, which takes
effect at the cancellation point `pthread_join(timer_t, NULL)` before the rethrow: the
coordinator ends there, with the slot written and the queue disabled, and nothing escapes it.
-/

namespace Vcmtp

/-- What the sender does that a receiver, the application or the tests can observe. -/
inductive Effect where
  /-- `sendMeta->addRetxMetadata(entry)`: the entry enters the table. -/
  | insert (entry : RetxMetadata)
  /-- A datagram on the multicast socket. -/
  | udp (frame : Frame)
  /-- `timerDelayQ.push(prodindex, …)`. -/
  | push (prodindex : Nat)
  /-- A message on the connection `sock`. -/
  | tcp (sock : Nat) (frame : Frame)
  /-- A table operation returned true: the entry of `prodindex` left the table. -/
  | remove (prodindex : Nat)
  /-- `notifier->notify_of_eop(prodindex)`. -/
  | eop (prodindex : Nat)
  deriving DecidableEq, Repr

/-- The product an effect is about. -/
def Effect.prodindex : Effect → Nat
  | .insert m => m.prodindex
  | .udp f | .tcp _ f => f.header.prodindex
  | .push p | .remove p | .eop p => p

/-- The part of a `vcmtpSendv3` object the modelled code uses. `notifier` records whether
    an application notifier was given; `qDisabled` whether `timerDelayQ.disable()` ran,
    that is whether `Stop` ran. The clock, `retxTimeoutRatio` and `linkspeed` are not
    modelled. -/
structure Sender where
  prodIndex : Nat
  notifier : Bool
  sendMeta : SenderMetadata
  connSockList : List Nat
  timerDelayQ : List Nat
  qDisabled : Bool
  except : Option Exc
  retxThreadList : RetxThreads
  log : List Effect
  deriving DecidableEq

/-- A sender as the constructors leave it, `Start` done: `initProdIndex`, no entry, no
    connection, nothing recorded. -/
def Sender.init (initProdIndex : Nat) (notifier : Bool) : Sender :=
  ⟨initProdIndex, notifier, .empty, [], [], false, none, ⟨[]⟩, []⟩

/-- A piece of the sender's code: from a state, the value returned or the exception thrown,
    and the state left behind. -/
def SenderM (α : Type) : Type := Sender → Except Exc α × Sender

namespace SenderM

instance : Monad SenderM where
  pure a s := (.ok a, s)
  bind x f s :=
    match x s with
    | (.ok a, s') => f a s'
    | (.error e, s') => (.error e, s')

instance : MonadStateOf Sender SenderM where
  get s := (.ok s, s)
  set s _ := (.ok ⟨⟩, s)
  modifyGet f s := (.ok (f s).1, (f s).2)

instance : MonadExceptOf Exc SenderM where
  throw e s := (.error e, s)
  tryCatch x h s :=
    match x s with
    | (.ok a, s') => (.ok a, s')
    | (.error e, s') => h e s'

variable {α β : Type} {x : SenderM α} {f : α → SenderM β} {s s' : Sender}

@[simp] theorem pure_apply (a : α) (s : Sender) : (pure a : SenderM α) s = (.ok a, s) := rfl

@[simp] theorem get_apply (s : Sender) : (get : SenderM Sender) s = (.ok s, s) := rfl

@[simp] theorem modify_apply (g : Sender → Sender) (s : Sender) :
    (modify g : SenderM Unit) s = (.ok ⟨⟩, g s) := rfl

@[simp] theorem set_apply (s₀ s : Sender) : (set s₀ : SenderM PUnit) s = (.ok ⟨⟩, s₀) :=
  rfl

@[simp] theorem throw_apply (e : Exc) (s : Sender) : (throw e : SenderM α) s = (.error e, s) :=
  rfl

theorem bind_ok {a : α} (h : x s = (.ok a, s')) : (x >>= f) s = f a s' := by
  show (match x s with | (.ok a, s') => f a s' | (.error e, s') => (.error e, s')) = _
  rw [h]

theorem bind_error {e : Exc} (h : x s = (.error e, s')) : (x >>= f) s = (.error e, s') := by
  show (match x s with | (.ok a, s') => f a s' | (.error e, s') => (.error e, s')) = _
  rw [h]

theorem tryCatch_ok {h : Exc → SenderM α} {a : α} (hx : x s = (.ok a, s')) :
    (tryCatch x h : SenderM α) s = (.ok a, s') := by
  show (match x s with | (.ok a, s') => (Except.ok a, s') | (.error e, s') => h e s') = _
  rw [hx]

theorem tryCatch_error {h : Exc → SenderM α} {e : Exc} (hx : x s = (.error e, s')) :
    (tryCatch x h : SenderM α) s = h e s' := by
  show (match x s with | (.ok a, s') => (Except.ok a, s') | (.error e, s') => h e s') = _
  rw [hx]

end SenderM

namespace Sender

/-! ## `Stop` and the error slot -/

/-- `Stop`: `timerDelayQ.disable()`, `retxThreadList.shutdown()` (the threads themselves are
    `System`'s and `Workers`' business), then `throw except` if `exceptIsSet`. -/
def stop : SenderM Unit := do
  modify fun s => { s with qDisabled := true, retxThreadList := s.retxThreadList.shutdown.2 }
  match (← get).except with
  | some e => throw e
  | none => pure ()

/-- `taskExit`: under `exitMutex`, `except = e` (a `std::exception` copy) unless
    `exceptIsSet`; then `Stop`. -/
def taskExit (e : Exc) : SenderM Unit := do
  modify fun s => if s.except.isNone then { s with except := some e.slice } else s
  stop

/-- `try { task } catch (std::exception& e) { taskExit(e); }`, the body of `timerWrapper`
    around `timerThread`. -/
def taskWrapper (task : SenderM Unit) : SenderM Unit :=
  tryCatch task fun e => taskExit e

/-- `Stop` throws exactly when an exception is recorded, and disables the queue. -/
theorem stop_apply (s : Sender) :
    stop s = (match s.except with | some e => .error e | none => .ok (),
      { s with qDisabled := true }) := by
  cases h : s.except <;> simp [stop, SenderM.bind_ok, h, Bind.bind]

/-- `taskExit` never returns normally: it records `e` if the slot was empty and throws
    what the slot then holds. -/
theorem taskExit_apply (e : Exc) (s : Sender) :
    taskExit e s = (.error (s.except.getD e.slice),
      { s with except := some (s.except.getD e.slice), qDisabled := true }) := by
  cases h : s.except <;>
    simp [taskExit, SenderM.bind_ok (SenderM.modify_apply _ _), stop_apply, h]

/-- An exception thrown by the timer task escapes `timerWrapper`: what leaves the thread is
    the recorded exception. -/
theorem taskWrapper_error {task : SenderM Unit} {e : Exc} (h : task s = (.error e, s')) :
    taskWrapper task s = (.error (s'.except.getD e.slice),
      { s' with except := some (s'.except.getD e.slice), qDisabled := true }) := by
  rw [taskWrapper, SenderM.tryCatch_error h, taskExit_apply]

end Sender

end Vcmtp
