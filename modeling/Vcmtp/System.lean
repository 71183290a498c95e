import Vcmtp.SendProduct

/-!
# The sender's threads together

A started `vcmtpSendv3` runs, over one sender, the application's thread in `sendProduct`,
the timer thread (`timerThread`), the acceptor (`coordinator`) and one retransmission
worker per connection (`RunRetxThread`). `Sys` is their joint state and `Sys.step` one
atomic action of one of them; the runs of the sender are the sequences of enabled actions
(`Reachable`).

Atomicity follows the code's locks. A `senderMetadata` operation is one step, as is a
delay-queue operation, and so is the multicast of one product, which touches nothing but
the multicast socket. Between two steps of a thread every other thread may run: a
worker's `getMetadata` and its use of the entry are two steps, as are a table operation
that returns `true` and the `notify_of_eop` that follows it, and the caller's insertion
and its later uses of `senderProdMeta`.

The timer thread binds the popped index to an inner `prodindex` that shadows the outer
one, so `rmRetxMetadata` and `notify_of_eop` read the outer variable, never initialised:
`timerPop` takes its value `v`, any `uint32_t`, as a second choice beside the element
popped. The delay queue's wake times are not modelled, so any pending element may be the
first one due.

Worker `n` serves the connection whose socket is `n`, and its handle is `n` too. `accept`
returns a number never handed out or the number of a socket closed before, which the
kernel reuses; so one socket may be served by several workers in turn.

`Stop`, by the application or from `taskExit`, is one step: `timerDelayQ.disable()`,
`pthread_cancel(coor_t)` and `retxThreadList.shutdown()`, which calls `pthread_cancel` on
every listed handle. Cancellation is deferred: a cancelled thread ends at its next
cancellation point, and until then runs on. The acceptor ends in `acceptConn`
(`acceptorExit`); between the cancellation and that point it may still accept a
connection and, with cancellation disabled, start and register its worker. A worker ends
at its next read or send (`cancel`), without the cleanup of `StartRetxThread`; it does not
fail there instead, and `notify_of_eop` is taken to have no cancellation point.

## Key results

- `Sys.reachable_of_run`: a run of enabled actions from a started sender reaches its last
  state.
- `Sys.run_inv`: what every step keeps, every run keeps.
-/

namespace Vcmtp

/-- Where the application's thread is: between calls, or inside `sendProduct` after the
    insertion, before the statement named. -/
inductive CallerPc where
  | idle
  /-- `senderProdMeta->mcastStartTime = HRclock::now()`, the end of `addRetxMetadata`. -/
  | inserted (a : SendArgs)
  /-- `SendBOPMessage`, `sendData`, `sendEOPMessage`. -/
  | multicast (a : SendArgs)
  /-- `setTimerParameters(senderProdMeta)`. -/
  | timerParams (a : SendArgs)
  /-- `timerDelayQ.push(prodIndex, senderProdMeta->retxTimeoutPeriod)`, `prodIndex++`. -/
  | push (a : SendArgs)
  deriving DecidableEq, Repr

/-- Where the timer thread is in its loop. -/
inductive TimerPc where
  /-- Blocked in `timerDelayQ.pop()`. -/
  | popping
  /-- `pop` returned `p`; the outer `prodindex` holds `v`. -/
  | popped (p v : Nat)
  /-- `rmRetxMetadata(v)` returned `removed`; `notify_of_eop` is next. -/
  | removed (p v : Nat) (removed : Bool)
  /-- `pop` threw on the disabled queue and the thread returned. -/
  | exited
  deriving DecidableEq, Repr

/-- Where a retransmission worker is in `RunRetxThread`. -/
inductive WorkerPc where
  /-- Blocked in `parseHeader`. -/
  | reading
  /-- `recvheader` read; `getMetadata(recvheader.prodindex)` returned `retxMeta`. -/
  | dispatch (recvheader : VcmtpHeader) (retxMeta : Option RetxMetadata)
  /-- In `handleRetxEnd`, `clearUnfinishedSet` returned `removed`; `notify_of_eop` is
      next. -/
  | ending (recvheader : VcmtpHeader) (removed : Bool)
  /-- The socket is closed: the cleanup of `StartRetxThread` ran, or `pthread_create`
      failed in `StartNewRetxThread`, which closed it. -/
  | exited
  /-- Ended by cancellation, past the cleanup: the socket stays open and listed. -/
  | cancelled
  deriving DecidableEq, Repr

/-- Whether the worker still runs `RunRetxThread`. -/
def WorkerPc.live : WorkerPc → Bool
  | .reading | .dispatch _ _ | .ending _ _ => true
  | .exited | .cancelled => false

/-- A started sender and its threads. -/
structure Sys where
  sender : Sender
  caller : CallerPc
  timer : TimerPc
  /-- The acceptor, `none` once its cancellation took effect. -/
  acceptor : Option AcceptorPc
  /-- Whether a `Stop` has called `pthread_cancel(coor_t)`. -/
  acceptorCancelled : Bool
  /-- The worker of each socket number handed out so far. -/
  workers : List WorkerPc
  /-- The workers a `Stop` cancelled that have not reached a cancellation point yet. -/
  cancelPending : List Nat
  deriving DecidableEq

/-- A sender after `Start`: the timer blocked in `pop`, the acceptor in `acceptConn`, no
    connection yet. -/
def Sys.init (initProdIndex : Nat) (notifier : Bool) : Sys :=
  ⟨Sender.init initProdIndex notifier, .idle, .popping, some .accepting, false, [], []⟩

/-- The atomic actions. -/
inductive Action where
  /-- The application calls `sendProduct(a)`: the checks and the insertion, or the
      `catch` block when a check fails. -/
  | call (a : SendArgs)
  /-- The caller runs its next statement. -/
  | callerStep
  /-- `pop` returns the pending element at position `i`; the outer `prodindex` is `v`. -/
  | timerPop (i v : Nat)
  /-- `sendMeta->rmRetxMetadata(prodindex)`. -/
  | timerRemove
  /-- `if (notifier && isRemoved) notifier->notify_of_eop(prodindex)`. -/
  | timerNotify
  /-- `pop` throws on the disabled queue. -/
  | timerExit
  /-- `acceptConn` returns socket `sock` and lists it, and `pthread_create` starts its
      worker. -/
  | accept (sock : Nat)
  /-- `acceptConn` returns socket `sock`, `pthread_create` fails: `rmSockInList`, `close`. -/
  | acceptFail (sock : Nat)
  /-- `retxThreadList.add(t)` and `pthread_detach(t)` end `StartNewRetxThread`. -/
  | register
  /-- The acceptor's cancellation takes effect in `acceptConn`. -/
  | acceptorExit
  /-- Worker `sock` reads `recvheader` and looks its product up. -/
  | recv (sock : Nat) (recvheader : VcmtpHeader)
  /-- Worker `sock` runs the handler of the header it read. -/
  | handle (sock : Nat)
  /-- Worker `sock` ends `handleRetxEnd` with its notification. -/
  | notify (sock : Nat)
  /-- The cancellation of worker `sock` takes effect at its read or send. -/
  | cancel (sock : Nat)
  /-- A receive or a send of worker `sock` fails: `rmSockInList`, `close`,
      `retxThreadList.remove`, exit. -/
  | workerFail (sock : Nat)
  /-- The application calls `Stop`. -/
  | stop
  deriving DecidableEq, Repr

/-- The actions of the acceptor and of the workers' lifecycle, which touch neither the
    table nor the log. -/
def Action.lifecycle : Action → Bool
  | .accept _ | .acceptFail _ | .register | .acceptorExit | .cancel _ | .workerFail _ => true
  | _ => false

/-- The worker whose own action `a` is. -/
def Action.worker : Action → Option Nat
  | .recv sock _ | .handle sock | .notify sock | .cancel sock | .workerFail sock => some sock
  | _ => none

namespace Sender

/-- A table operation that returned `r.1` and left the table `r.2`; a `true` result is
    recorded as the removal of `p`. -/
def tableOp (s : Sender) (p : Nat) (r : Bool × SenderMetadata) : Sender :=
  { s with sendMeta := r.2, log := s.log ++ if r.1 then [.remove p] else [] }

/-- `if (notifier && removed) notifier->notify_of_eop(p)`. -/
def notifyEop (s : Sender) (p : Nat) (removed : Bool) : Sender :=
  if s.notifier && removed then { s with log := s.log ++ [.eop p] } else s

variable (s : Sender) (p : Nat)

@[simp] theorem tableOp_notifier (r : Bool × SenderMetadata) :
    (s.tableOp p r).notifier = s.notifier := rfl

@[simp] theorem tableOp_sendMeta (r : Bool × SenderMetadata) : (s.tableOp p r).sendMeta = r.2 :=
  rfl

@[simp] theorem tableOp_log (r : Bool × SenderMetadata) :
    (s.tableOp p r).log = s.log ++ if r.1 then [.remove p] else [] := rfl

/-- `notifyEop` adds at most the notification, and changes nothing else. -/
theorem notifyEop_eq (r : Bool) :
    s.notifyEop p r = { s with log := s.log ++ if s.notifier && r then [.eop p] else [] } := by
  unfold notifyEop; split <;> simp_all

@[simp] theorem notifyEop_false : s.notifyEop p false = s := by simp [notifyEop]

@[simp] theorem notifyEop_notifier (r : Bool) : (s.notifyEop p r).notifier = s.notifier := by
  unfold notifyEop; split <;> rfl

@[simp] theorem notifyEop_sendMeta (r : Bool) : (s.notifyEop p r).sendMeta = s.sendMeta := by
  unfold notifyEop; split <;> rfl

@[simp] theorem notifyEop_true_log : (s.notifyEop p true).log =
    s.log ++ if s.notifier then [.eop p] else [] := by
  unfold notifyEop; cases s.notifier <;> simp

end Sender

/-- What a worker sends back on its connection for a header other than `RETX_END`:
    `handleRetxReq`, `handleBopReq` and `handleEopReq` answer from the entry, or with
    `RETX_REJ` when `getMetadata` found none; other flags are ignored. -/
def respond (c : Consts) (recvheader : VcmtpHeader) (retxMeta : Option RetxMetadata) :
    List Frame :=
  match recvheader.flags, retxMeta with
  | .retxReq, some m => retransmit c recvheader m
  | .bopReq, some m => [retransBOP c recvheader m]
  | .eopReq, some _ => [retransEOP recvheader]
  | .retxReq, none | .bopReq, none | .eopReq, none => [rejRetxReq recvheader.prodindex]
  | _, _ => []

/-- Answering from a found entry: every message is about the requested product, a
    `RETX_DATA`, `RETX_BOP` or `RETX_EOP`. -/
theorem respond_some (c : Consts) (recvheader : VcmtpHeader) (m : RetxMetadata) :
    ∀ f ∈ respond c recvheader (some m), f.header.prodindex = recvheader.prodindex ∧
      (f.header.flags = .retxData ∨ f.header.flags = .retxBop ∨ f.header.flags = .retxEop) := by
  intro f hf
  cases hfl : recvheader.flags <;>
    simp only [respond, hfl, List.mem_singleton, List.not_mem_nil] at hf
  case retxReq => obtain ⟨_, rfl⟩ := mem_retransmit hf; exact ⟨rfl, .inl rfl⟩
  case bopReq => subst hf; exact ⟨rfl, .inr (.inl rfl)⟩
  case eopReq => subst hf; exact ⟨rfl, .inr (.inr rfl)⟩

/-- A request whose product `getMetadata` did not find is answered with `RETX_REJ`. -/
theorem respond_none (c : Consts) {recvheader : VcmtpHeader}
    (hreq : recvheader.flags = .retxReq ∨ recvheader.flags = .bopReq ∨
      recvheader.flags = .eopReq) :
    respond c recvheader none = [rejRetxReq recvheader.prodindex] := by
  rcases hreq with h | h | h <;> simp [respond, h]

namespace Sys

/-- Whether socket `t` is served by a worker that still runs. -/
def live (s : Sys) (t : Nat) : Bool := (s.workers[t]?.map WorkerPc.live).getD false

/-- What a `Stop` does to the threads: `pthread_cancel(coor_t)`, and the `pthread_cancel`
    of `retxThreadList.shutdown()` on every listed handle, pending in the workers that
    still run. -/
def stopThreads (s : Sys) : Sys :=
  { s with acceptorCancelled := true,
           cancelPending := s.cancelPending ++ s.sender.retxThreadList.shutdown.1.filter s.live }

/-- The workers once `accept` has handed out socket `sock` to a thread at `w`: `sock` is the
    next number never handed out, or the number of a closed socket, reused. -/
def acceptSlot (workers : List WorkerPc) (sock : Nat) (w : WorkerPc) :
    Option (List WorkerPc) :=
  if sock = workers.length then some (workers ++ [w])
  else if workers[sock]? = some .exited then some (workers.set sock w)
  else none

@[simp] theorem stopThreads_sender (s : Sys) : s.stopThreads.sender = s.sender := rfl
@[simp] theorem stopThreads_caller (s : Sys) : s.stopThreads.caller = s.caller := rfl
@[simp] theorem stopThreads_timer (s : Sys) : s.stopThreads.timer = s.timer := rfl
@[simp] theorem stopThreads_workers (s : Sys) : s.stopThreads.workers = s.workers := rfl

/-- `accept` hands out the next number, or reuses the number of a closed socket. -/
theorem acceptSlot_eq_some {ws ws' : List WorkerPc} {sock : Nat} {w : WorkerPc}
    (h : acceptSlot ws sock w = some ws') :
    (sock = ws.length ∧ ws' = ws ++ [w]) ∨ (ws[sock]? = some .exited ∧ ws' = ws.set sock w) := by
  unfold acceptSlot at h
  split at h
  · exact .inl ⟨‹_›, (Option.some.inj h).symm⟩
  · split at h
    · exact .inr ⟨‹_›, (Option.some.inj h).symm⟩
    · cases h

/-- After `accept` the socket it hands out has the new thread and every other socket keeps
    its worker; the socket had none, or one that exited. -/
theorem getElem?_acceptSlot {ws ws' : List WorkerPc} {sock : Nat} {u : WorkerPc}
    (h : acceptSlot ws sock u = some ws') :
    (ws[sock]? = none ∨ ws[sock]? = some .exited) ∧
      ∀ t, ws'[t]? = if t = sock then some u else ws[t]? := by
  rcases acceptSlot_eq_some h with ⟨rfl, rfl⟩ | ⟨hx, rfl⟩
  · refine ⟨.inl (by simp), fun t => ?_⟩
    rw [List.getElem?_append]
    split
    · rw [if_neg (by omega)]
    · by_cases ht : t = ws.length
      · simp [ht]
      · rw [if_neg ht, List.getElem?_eq_none (by simp; omega), List.getElem?_eq_none (by omega)]
  · refine ⟨.inr hx, fun t => ?_⟩
    rw [List.getElem?_set, if_pos (List.getElem?_eq_some_iff.1 hx).1]
    simp only [eq_comm]

/-- `accept` leaves the worker of every socket that is not closed. -/
theorem acceptSlot_getElem? {ws ws' : List WorkerPc} {sock t : Nat} {u w : WorkerPc}
    (h : acceptSlot ws sock u = some ws') (ht : ws[t]? = some w) (hw : w ≠ .exited) :
    ws'[t]? = some w := by
  obtain ⟨hfree, hget⟩ := getElem?_acceptSlot h
  rw [hget, if_neg, ht]
  rintro rfl
  rcases hfree with hn | hn <;> rw [hn] at ht <;> cases ht
  exact hw rfl

/-- One action; `none` when it is not enabled. -/
def step (c : Consts) (s : Sys) : Action → Option Sys
  | .call a =>
    match s.caller, checkArgs c a with
    | .idle, .ok () =>
      some { s with sender := (Sender.addRetxMetadata a s.sender).2, caller := .inserted a }
    | .idle, .error e =>
      some (stopThreads { s with sender := (Sender.sendProductCatch e s.sender).2 })
    | _, _ => none
  | .callerStep =>
    match s.caller with
    | .idle => none
    | .inserted a => some { s with caller := .multicast a }
    | .multicast a =>
      match Sender.multicast c a s.sender with
      | (.ok (), s') => some { s with sender := s', caller := .timerParams a }
      | (.error e, s') =>
        some (stopThreads { s with sender := (Sender.sendProductCatch e s').2, caller := .idle })
    | .timerParams a =>
      some { s with sender := (Sender.setTimerParameters s.sender).2, caller := .push a }
    | .push _ =>
      let s' := (Sender.pushTimer s.sender).2
      some { s with sender := { s' with prodIndex := u32 (s'.prodIndex + 1) }, caller := .idle }
  | .timerPop i v =>
    match s.timer, s.sender.timerDelayQ[i]? with
    | .popping, some p =>
      if !s.sender.qDisabled && v < 2 ^ 32 then
        some { s with sender := { s.sender with timerDelayQ := s.sender.timerDelayQ.eraseIdx i },
                      timer := .popped p v }
      else none
    | _, _ => none
  | .timerRemove =>
    match s.timer with
    | .popped p v =>
      let r := s.sender.sendMeta.rmRetxMetadata v
      some { s with sender := s.sender.tableOp v r, timer := .removed p v r.1 }
    | _ => none
  | .timerNotify =>
    match s.timer with
    | .removed _ v r => some { s with sender := s.sender.notifyEop v r, timer := .popping }
    | _ => none
  | .timerExit =>
    match s.timer with
    | .popping => if s.sender.qDisabled then some { s with timer := .exited } else none
    | _ => none
  | .accept sock =>
    match s.acceptor, acceptSlot s.workers sock .reading with
    | some .accepting, some ws =>
      some { s with sender := { s.sender with connSockList := s.sender.connSockList ++ [sock] },
                    acceptor := some (.created sock), workers := ws }
    | _, _ => none
  | .acceptFail sock =>
    match s.acceptor, acceptSlot s.workers sock .exited with
    | some .accepting, some ws => some { s with workers := ws }
    | _, _ => none
  | .register =>
    match s.acceptor with
    | some (.created t) =>
      some { s with sender := { s.sender with retxThreadList := s.sender.retxThreadList.add t },
                    acceptor := some .accepting }
    | _ => none
  | .acceptorExit =>
    match s.acceptor with
    | some .accepting => if s.acceptorCancelled then some { s with acceptor := none } else none
    | _ => none
  | .recv sock h =>
    match s.workers[sock]? with
    | some .reading =>
      if h.WellFormed then
        some { s with workers :=
          s.workers.set sock (.dispatch h (s.sender.sendMeta.getMetadata h.prodindex)) }
      else none
    | _ => none
  | .handle sock =>
    match s.workers[sock]? with
    | some (.dispatch h m) =>
      if h.flags = .retxEnd then
        match m with
        | some _ =>
          let r := s.sender.sendMeta.clearUnfinishedSet h.prodindex sock
          some { s with sender := s.sender.tableOp h.prodindex r,
                        workers := s.workers.set sock (.ending h r.1) }
        | none => some { s with workers := s.workers.set sock .reading }
      else
        some { s with
          sender := { s.sender with log := s.sender.log ++ (respond c h m).map (.tcp sock) },
          workers := s.workers.set sock .reading }
    | _ => none
  | .notify sock =>
    match s.workers[sock]? with
    | some (.ending h r) =>
      some { s with sender := s.sender.notifyEop h.prodindex r,
                    workers := s.workers.set sock .reading }
    | _ => none
  | .cancel sock =>
    match s.workers[sock]? with
    | some .reading | some (.dispatch _ _) =>
      if sock ∈ s.cancelPending then
        some { s with workers := s.workers.set sock .cancelled,
                      cancelPending := s.cancelPending.filter (· ≠ sock) }
      else none
    | _ => none
  | .workerFail sock =>
    match s.workers[sock]? with
    | some .reading | some (.dispatch _ _) =>
      if sock ∈ s.cancelPending then none
      else some { s with
        sender := { s.sender with connSockList := s.sender.connSockList.filter (· ≠ sock),
                                  retxThreadList := s.sender.retxThreadList.remove sock },
        workers := s.workers.set sock .exited }
    | _ => none
  | .stop => some (stopThreads { s with sender := (Sender.stop s.sender).2 })

/-- A lifecycle action changes, of the sender, only its connection and thread lists, and
    moves neither the caller nor the timer. -/
theorem step_lifecycle {c : Consts} {s s' : Sys} {a : Action} (h : s.step c a = some s')
    (ha : a.lifecycle) :
    s'.sender = { s.sender with connSockList := s'.sender.connSockList,
                                retxThreadList := s'.sender.retxThreadList } ∧
      s'.caller = s.caller ∧ s'.timer = s.timer := by
  cases a <;> (try simp [Action.lifecycle] at ha) <;> simp only [step] at h <;>
    (repeat' split at h) <;> cases h <;> exact ⟨rfl, rfl, rfl⟩

/-- A step of any thread but worker `sock` leaves a running worker `sock` where it is. -/
theorem step_worker_frame {c : Consts} {s s' : Sys} {a : Action} {sock : Nat} {w : WorkerPc}
    (h : s.step c a = some s') (ha : a.worker ≠ some sock) (hw : s.workers[sock]? = some w)
    (hl : w.live) : s'.workers[sock]? = some w := by
  have hx : w ≠ .exited := by rintro rfl; cases hl
  cases a <;> simp only [Action.worker, ne_eq, Option.some.injEq] at ha <;>
    simp only [step] at h <;> (repeat' split at h) <;> cases h <;>
    (try dsimp only) <;>
    first
    | exact hw
    | exact acceptSlot_getElem? ‹_› hw hx
    | rw [List.getElem?_set_ne ha, hw]

/-- Run actions in order; `none` if one is not enabled. -/
def run (c : Consts) (s : Sys) : List Action → Option Sys
  | [] => some s
  | a :: as => (s.step c a).bind fun s' => s'.run c as

/-- The product whose entry an action dereferences through a pointer obtained in an
    earlier step: the caller's `senderProdMeta` (`mcastStartTime`, `setTimerParameters`,
    `retxTimeoutPeriod`), or a worker's `retxMeta` in `retransmit` (for a non-empty
    request) and in `retransBOP`. -/
def reads (s : Sys) : Action → Option Nat
  | .callerStep =>
    match s.caller with
    | .inserted _ | .timerParams _ | .push _ => some s.sender.prodIndex
    | _ => none
  | .handle sock =>
    match s.workers[sock]? with
    | some (.dispatch h (some m)) =>
      if (h.flags = .retxReq ∧ 0 < h.payloadlen) ∨ h.flags = .bopReq then some m.prodindex
      else none
    | _ => none
  | _ => none

end Sys

/-- The states a started sender reaches by any interleaving of its threads. -/
inductive Reachable (c : Consts) : Sys → Prop where
  | init (initProdIndex : Nat) (notifier : Bool) (h : initProdIndex < 2 ^ 32) :
      Reachable c (Sys.init initProdIndex notifier)
  | step {s s' : Sys} (a : Action) : Reachable c s → s.step c a = some s' → Reachable c s'

namespace Sys

variable {c : Consts}

theorem run_cons (s : Sys) (a : Action) (as : List Action) :
    s.run c (a :: as) = (s.step c a).bind fun s' => s'.run c as := rfl

/-- A run of enabled actions from a reachable state ends in a reachable state. -/
theorem reachable_of_run {s : Sys} (hs : Reachable c s) :
    ∀ {as : List Action} {s' : Sys}, s.run c as = some s' → Reachable c s'
  | [], s', h => by cases h; exact hs
  | a :: as, s', h => by
    rw [run_cons] at h
    cases hstep : s.step c a with
    | none => simp [hstep] at h
    | some s₁ =>
      rw [hstep, Option.some_bind] at h
      exact reachable_of_run (Reachable.step a hs hstep) h

/-- A run is its first step and the run of the rest. -/
theorem run_cons_eq_some {s s' : Sys} {a : Action} {as : List Action} :
    s.run c (a :: as) = some s' ↔ ∃ s₁, s.step c a = some s₁ ∧ s₁.run c as = some s' := by
  rw [run_cons]; cases s.step c a <;> simp

/-- A run is the run of its first part, then the run of the rest. -/
theorem run_append (s : Sys) (as bs : List Action) :
    s.run c (as ++ bs) = (s.run c as).bind fun s' => s'.run c bs := by
  induction as generalizing s with
  | nil => rfl
  | cons a as ih =>
    rw [List.cons_append, run_cons, run_cons]
    cases s.step c a <;> simp [ih]

/-- Over a run with no action of worker `sock`, a running worker `sock` stays where it is. -/
theorem run_worker_frame {sock : Nat} {w : WorkerPc} (hl : w.live) :
    ∀ {s s' : Sys} {as : List Action}, s.run c as = some s' →
      (∀ a ∈ as, a.worker ≠ some sock) → s.workers[sock]? = some w → s'.workers[sock]? = some w
  | _, _, [], h, _, hw => by cases h; exact hw
  | _, _, _ :: _, h, ha, hw => by
    obtain ⟨_, hstep, h⟩ := run_cons_eq_some.1 h
    exact run_worker_frame hl h (fun a hm => ha a (List.mem_cons_of_mem _ hm))
      (step_worker_frame hstep (ha _ (List.mem_cons_self _ _)) hw hl)

/-- What every step keeps, every run keeps. -/
theorem run_inv {P : Sys → Prop}
    (hP : ∀ {s s' : Sys} {a : Action}, s.step c a = some s' → P s → P s') :
    ∀ {s s' : Sys} {as : List Action}, s.run c as = some s' → P s → P s'
  | _, _, [], h, hs => by cases h; exact hs
  | _, _, _ :: _, h, hs => by
    obtain ⟨_, hstep, h⟩ := run_cons_eq_some.1 h
    exact run_inv hP h (hP hstep hs)

end Sys

end Vcmtp
