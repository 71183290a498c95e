import Vcmtp.Connections

/-!
# The thread model against the sequential models

`Workers` (`RetxThreads`) models the worker lifecycle alone: the thread and connection
lists, the open sockets, the running workers and the acceptor. Every step of the whole
sender's threads is a step of `Workers` on those, or leaves them (`Sys.life_step`), so every
run of the threads has a run of `Workers` alongside (`Sys.life_run`), and what is proved of
the runs of `Workers` holds of the lifecycle inside every run of the threads.

`Workers` lets the cancellations of a `Stop` take effect at once; in `Sys` a cancelled worker
runs on until its next cancellation point, and `Workers` counts it as ended from the `Stop`
on. A worker whose cancellation is pending does not fail, so nothing it does until then
shows in `Workers`.

The application's thread is the caller of `sendProducts` (`SendProduct`), whatever the other
threads do between its steps: they never move the counter, and each call's insertion,
datagrams and push carry the index the sequential calls give it (`Sys.prodIndex_run`), so
`sendProducts_prodIndex` describes the calls of every run of the threads.

## Key results

- `Sys.life_step`: each step of the threads is a step of `Workers` or none
- `Sys.life_run`: every run of the threads has a run of `Workers` alongside
- `Sys.prodIndex_run`: over every interleaving the caller's counter and artefacts are those of
  `sendProducts` over the run's calls
-/

namespace Vcmtp

/-- Whether an effect is the caller's: the insertion, a datagram or the push of a call. -/
def Effect.byCaller : Effect → Bool
  | .insert _ | .udp _ | .push _ => true
  | _ => false

namespace Sys

variable {c : Consts} {s s' : Sys} {w : Workers}

/-- The lifecycle of `s` seen as `w`: the same thread and connection lists, acceptor and next
    socket number, the open sockets, and as running the workers that run with no cancellation
    pending; a pending cancellation is one of a worker that runs. -/
structure Life (s : Sys) (w : Workers) : Prop where
  retxThreadList : w.retxThreadList = s.sender.retxThreadList
  connSockList : w.connSockList = s.sender.connSockList
  acceptor : w.acceptor = s.acceptor.getD .accepting
  next : w.next = s.workers.length
  openSocks : ∀ t, t ∈ w.openSocks ↔ s.sockOpen t
  running : ∀ t, t ∈ w.running ↔ s.live t ∧ t ∉ s.cancelPending
  pending_live : ∀ t ∈ s.cancelPending, s.live t

/-- A started sender's lifecycle is that of a started `Workers`. -/
theorem life_init (initProdIndex : Nat) (notifier : Bool) :
    (Sys.init initProdIndex notifier).Life Workers.init :=
  ⟨rfl, rfl, rfl, rfl, fun t => by simp [Workers.init, Sys.init, sockOpen],
    fun t => by simp [Workers.init, Sys.init, live], fun t h => by simp [Sys.init] at h⟩

/-! ## Steps that leave the lifecycle -/

/-- What a step leaves when it does not touch the lifecycle. -/
structure LifeSame (s s' : Sys) : Prop where
  retx_eq : s'.sender.retxThreadList = s.sender.retxThreadList
  conn_eq : s'.sender.connSockList = s.sender.connSockList
  acceptor_eq : s'.acceptor = s.acceptor
  length_eq : s'.workers.length = s.workers.length
  pending_eq : s'.cancelPending = s.cancelPending
  live_eq : ∀ t, s'.live t = s.live t
  open_iff : ∀ t, s'.sockOpen t ↔ s.sockOpen t

theorem Life.same (hl : s.Life w) (hs : LifeSame s s') : s'.Life w :=
  ⟨hs.retx_eq ▸ hl.retxThreadList, hs.conn_eq ▸ hl.connSockList,
    hs.acceptor_eq ▸ hl.acceptor, hs.length_eq ▸ hl.next,
    fun t => (hl.openSocks t).trans (hs.open_iff t).symm,
    fun t => by rw [hl.running, hs.live_eq, hs.pending_eq],
    fun t ht => hs.live_eq t ▸ hl.pending_live t (hs.pending_eq ▸ ht)⟩

/-- A step that leaves the workers, the sender's lists, the acceptor and the pending
    cancellations. -/
theorem LifeSame.of (hr : s'.sender.retxThreadList = s.sender.retxThreadList)
    (hc : s'.sender.connSockList = s.sender.connSockList) (ha : s'.acceptor = s.acceptor)
    (hw : s'.workers = s.workers) (hp : s'.cancelPending = s.cancelPending) : LifeSame s s' :=
  ⟨hr, hc, ha, by rw [hw], hp, fun t => by simp only [Sys.live, hw],
    fun t => by simp only [Sys.sockOpen, hw]⟩

/-- Setting one worker decides whether its own socket's worker runs, and no other. -/
theorem live_set {l : List WorkerPc} {i : Nat} {v : WorkerPc} (u : WorkerPc)
    (hv : l[i]? = some v) (t : Nat) :
    ((l.set i u)[t]?.map WorkerPc.live).getD false =
      if t = i then u.live else (l[t]?.map WorkerPc.live).getD false := by
  split
  · subst t; simp [List.getElem?_set_self (List.getElem?_eq_some_iff.1 hv).1]
  · rw [List.getElem?_set_ne (Ne.symm ‹_›)]

/-- `accept` decides whether the worker of the socket it hands out runs, and no other; the
    socket's worker did not run. -/
theorem live_acceptSlot {l l' : List WorkerPc} {sock : Nat} {u : WorkerPc}
    (h : acceptSlot l sock u = some l') :
    (l[sock]?.map WorkerPc.live).getD false = false ∧ ∀ t,
      (l'[t]?.map WorkerPc.live).getD false =
        if t = sock then u.live else (l[t]?.map WorkerPc.live).getD false := by
  obtain ⟨hfree, hget⟩ := getElem?_acceptSlot h
  refine ⟨by rcases hfree with hn | hn <;> simp [hn, WorkerPc.live], fun t => ?_⟩
  rw [hget]
  split <;> simp

/-- A step that moves a running worker between states where it runs, and leaves the sender's
    lists, the acceptor and the pending cancellations. -/
theorem LifeSame.set {i : Nat} {v u : WorkerPc} (hv : s.workers[i]? = some v) (hvl : v.live)
    (hul : u.live) (hr : s'.sender.retxThreadList = s.sender.retxThreadList)
    (hc : s'.sender.connSockList = s.sender.connSockList) (ha : s'.acceptor = s.acceptor)
    (hp : s'.cancelPending = s.cancelPending) (hw : s'.workers = s.workers.set i u) :
    LifeSame s s' := by
  have hvx : v ≠ .exited := by rintro rfl; cases hvl
  have hux : u ≠ .exited := by rintro rfl; cases hul
  refine ⟨hr, hc, ha, by rw [hw, List.length_set], hp, fun t => ?_, fun t => ?_⟩
  · simp only [Sys.live, hw, live_set u hv t]
    split
    · subst t; simp [hv, hvl, hul]
    · rfl
  · simp only [Sys.sockOpen, hw]; exact open_set_same hv hvx hux t

/-- `Stop` after a step that leaves the lifecycle is `Workers`' `Stop`: the workers whose
    handles are listed stop running. -/
theorem Life.stop {x : Sys} (hl : s.Life w) (hs : LifeSame s x) :
    ∃ w', x.stopThreads.Life w' ∧ w.step .stop = some w' := by
  have hl := hl.same hs
  refine ⟨{ w with cancelled := w.cancelled ++ w.retxThreadList.threads,
                   running := w.running.filter (· ∉ w.retxThreadList.threads),
                   ended := w.running.filter (· ∈ w.retxThreadList.threads) ++ w.ended },
    ⟨hl.retxThreadList, hl.connSockList, hl.acceptor, hl.next, hl.openSocks, fun t => ?_,
      fun t ht => ?_⟩, rfl⟩
  · simp only [List.mem_filter, hl.running, stopThreads, RetxThreads.shutdown_fst,
      hl.retxThreadList, List.mem_append, decide_eq_true_eq, not_or, not_and]
    constructor
    · rintro ⟨⟨hlive, hp⟩, hn⟩; exact ⟨hlive, hp, fun h => absurd h hn⟩
    · rintro ⟨hlive, hp, hn⟩; exact ⟨⟨hlive, hp⟩, fun h => hn h hlive⟩
  · simp only [stopThreads, RetxThreads.shutdown_fst, List.mem_append, List.mem_filter] at ht
    rcases ht with ht | ⟨-, ht⟩
    · exact hl.pending_live t ht
    · exact ht

/-- The caller's steps leave the lifecycle, or run `Stop` in the `catch` block. -/
private theorem callerStep_same_or_stop (h : s.step c .callerStep = some s') :
    LifeSame s s' ∨ ∃ x, LifeSame s x ∧ s' = x.stopThreads := by
  simp only [step] at h
  split at h
  · cases h
  · cases h; exact .inl (LifeSame.of rfl rfl rfl rfl rfl)
  · rename_i arg _
    have hm := Sender.multicast_snd c arg s.sender
    split at h <;> rename_i heq <;> rw [heq] at hm <;> cases h <;> dsimp only at hm
    · exact .inl (LifeSame.of (by rw [hm]) (by rw [hm]) rfl rfl rfl)
    · exact .inr ⟨_, LifeSame.of (by rw [Sender.sendProductCatch_apply, hm])
        (by rw [Sender.sendProductCatch_apply, hm]) (by rfl) (by rfl) (by rfl), rfl⟩
  · cases h; exact .inl (LifeSame.of rfl rfl rfl rfl rfl)
  · cases h
    exact .inl (LifeSame.of (by simp only [Sender.pushTimer, SenderM.modify_apply]; split <;> rfl)
      (by simp only [Sender.pushTimer, SenderM.modify_apply]; split <;> rfl) rfl rfl rfl)

/-- Every step but those of the lifecycle leaves it, or is a `Stop`. -/
theorem step_same_or_stop {a : Action} (h : s.step c a = some s') (ha : a.lifecycle = false) :
    LifeSame s s' ∨ ∃ x, LifeSame s x ∧ s' = x.stopThreads := by
  cases a with
  | call arg =>
    simp only [step] at h
    split at h
    · cases h; exact .inl (LifeSame.of rfl rfl rfl rfl rfl)
    · cases h
      exact .inr ⟨_, LifeSame.of (by simp only [Sender.sendProductCatch_apply])
        (by simp only [Sender.sendProductCatch_apply]) (by rfl) (by rfl) (by rfl), rfl⟩
    · cases h
  | callerStep => exact callerStep_same_or_stop h
  | timerPop | timerRemove | timerNotify | timerExit =>
    simp only [step] at h
    (repeat' split at h) <;> cases h
    all_goals exact .inl (LifeSame.of (by simp [Sender.tableOp, Sender.notifyEop_eq])
      (by simp [Sender.tableOp, Sender.notifyEop_eq]) rfl rfl rfl)
  | recv sock hd | handle sock | notify sock =>
    simp only [step] at h
    (repeat' split at h) <;> cases h <;>
      exact .inl (LifeSame.set (by assumption) (by rfl) (by rfl)
        (by simp [Sender.tableOp, Sender.notifyEop_eq])
        (by simp [Sender.tableOp, Sender.notifyEop_eq]) rfl rfl rfl)
  | stop =>
    cases h
    exact .inr ⟨_, LifeSame.of (by simp only [Sender.stop_apply])
      (by simp only [Sender.stop_apply]) (by rfl) (by rfl) (by rfl), rfl⟩
  | _ => simp [Action.lifecycle] at ha

/-! ## The steps of the lifecycle -/

/-- A worker whose cancellation is pending runs, so the socket `accept` hands out has none. -/
private theorem not_mem_pending (hl : s.Life w) {t : Nat} (ht : s.live t = false) :
    t ∉ s.cancelPending :=
  fun h => by simp [hl.pending_live t h] at ht

/-- `accept` is `Workers`' `accept` on a number never handed out, and its `acceptReused` on
    the number of a closed socket. -/
private theorem life_accept {sock : Nat} (hl : s.Life w)
    (h : s.step c (.accept sock) = some s') : ∃ w', s'.Life w' ∧ ∃ wa, w.step wa = some w' := by
  simp only [step] at h
  split at h
  · rename_i ws hacc hslot
    cases h
    have hacc' : w.acceptor = .accepting := by rw [hl.acceptor, hacc]; rfl
    obtain ⟨hno, hopen⟩ := open_acceptSlot hslot
    obtain ⟨hnl, hlive⟩ := live_acceptSlot hslot
    have hsp : sock ∉ s.cancelPending := not_mem_pending hl hnl
    -- what both kinds of `accept` leave in `Workers`
    have life : ∀ n, n = ws.length →
        Sys.Life
          { s with sender := { s.sender with connSockList := s.sender.connSockList ++ [sock] },
                   acceptor := some (.created sock), workers := ws }
          { w with connSockList := w.connSockList ++ [sock], openSocks := sock :: w.openSocks,
                   running := sock :: w.running, acceptor := .created sock, next := n } := by
      rintro n rfl
      refine ⟨hl.retxThreadList, by simp [hl.connSockList], rfl, rfl, fun t => ?_, fun t => ?_,
        fun t ht => ?_⟩
      · simp only [List.mem_cons, hl.openSocks, sockOpen, hopen t]
        split <;> simp [*]
      · simp only [List.mem_cons, hl.running, live, hlive t]
        split <;> simp [*, WorkerPc.live]
      · simp only [live, hlive t]
        split
        · subst t; exact absurd ht hsp
        · exact hl.pending_live t ht
    rcases acceptSlot_eq_some hslot with ⟨rfl, rfl⟩ | ⟨hx, rfl⟩
    · refine ⟨_, life _ rfl, .accept, ?_⟩
      simp [Workers.step, hacc', hl.next]
    · have hlt : sock < s.workers.length := (List.getElem?_eq_some_iff.1 hx).1
      refine ⟨_, life _ (List.length_set _ _ _).symm, .acceptReused sock, ?_⟩
      have hfree : sock ∉ w.openSocks := fun h => hno ((hl.openSocks sock).1 h)
      simp [Workers.step, hacc', hl.next, hlt, hfree]
  · cases h

/-- `acceptFail` is `Workers`' `acceptFail` on a number never handed out, and leaves the
    lifecycle on the number of a closed socket. -/
private theorem life_acceptFail {sock : Nat} (hl : s.Life w)
    (h : s.step c (.acceptFail sock) = some s') :
    ∃ w', s'.Life w' ∧ (w' = w ∨ ∃ wa, w.step wa = some w') := by
  simp only [step] at h
  split at h
  · rename_i ws hacc hslot
    cases h
    obtain ⟨hno, hopen⟩ := open_acceptSlot hslot
    obtain ⟨hnl, hlive⟩ := live_acceptSlot hslot
    have hsame : ∀ t, (ws[t]?.map WorkerPc.live).getD false = s.live t ∧
        ((∃ v, ws[t]? = some v ∧ v ≠ .exited) ↔ s.sockOpen t) := fun t => by
      rw [hlive t, hopen t]
      split
      · subst t; exact ⟨by simp [WorkerPc.live, live, hnl], by simpa [sockOpen] using hno⟩
      · exact ⟨rfl, Iff.rfl⟩
    rcases acceptSlot_eq_some hslot with ⟨rfl, rfl⟩ | ⟨hx, rfl⟩
    · refine ⟨{ w with next := w.next + 1 }, ⟨hl.retxThreadList, hl.connSockList, hl.acceptor,
        by simp [hl.next], fun t => (hl.openSocks t).trans (hsame t).2.symm,
        fun t => by rw [hl.running]; simp only [live, (hsame t).1], fun t ht => ?_⟩,
        .inr ⟨.acceptFail, ?_⟩⟩
      · simp only [live, (hsame t).1]; exact hl.pending_live t ht
      · simp [Workers.step, hl.acceptor, ‹s.acceptor = _›]
    · exact ⟨w, hl.same ⟨rfl, rfl, rfl, List.length_set _ _ _, rfl,
        fun t => (hsame t).1, fun t => (hsame t).2⟩, .inl rfl⟩
  · cases h

/-- `register` is `Workers`' `register`. -/
private theorem life_register (hl : s.Life w) (h : s.step c .register = some s') :
    ∃ w', s'.Life w' ∧ ∃ wa, w.step wa = some w' := by
  simp only [step] at h
  split at h
  · rename_i t hacc
    cases h
    have hacc' : w.acceptor = .created t := by rw [hl.acceptor, hacc]; rfl
    refine ⟨{ w with retxThreadList := w.retxThreadList.add t, acceptor := .accepting },
      ⟨by rw [hl.retxThreadList], hl.connSockList, rfl, hl.next, hl.openSocks, hl.running,
        hl.pending_live⟩, .register, ?_⟩
    simp [Workers.step, hacc']
  · cases h

/-- The acceptor's cancellation taking effect leaves `Workers`. -/
private theorem life_acceptorExit (hl : s.Life w) (h : s.step c .acceptorExit = some s') :
    s'.Life w := by
  simp only [step] at h
  split at h
  · split at h
    · cases h
      exact ⟨hl.retxThreadList, hl.connSockList, by rw [hl.acceptor, ‹s.acceptor = _›]; rfl,
        hl.next, hl.openSocks, hl.running, hl.pending_live⟩
    · cases h
  · cases h

/-- A pending cancellation taking effect leaves `Workers`, which ended the worker at the
    `Stop`. -/
private theorem life_cancel {sock : Nat} (hl : s.Life w) (h : s.step c (.cancel sock) = some s') :
    s'.Life w := by
  simp only [step] at h
  split at h <;> (try split at h) <;> cases h
  all_goals
    rename_i hw hp
    refine ⟨hl.retxThreadList, hl.connSockList, hl.acceptor, by simp [hl.next],
      fun t => ?_, fun t => ?_, fun t ht => ?_⟩
    · rw [hl.openSocks]
      exact (open_set_same hw (by simp) (by simp) t).symm
    · simp only [hl.running, live, live_set _ hw t, List.mem_filter, decide_eq_true_eq]
      split
      · subst t; simp [hp, WorkerPc.live]
      · simp [*]
    · simp only [List.mem_filter, decide_eq_true_eq] at ht
      simp only [live, live_set _ hw t, ht.2, if_false]
      exact hl.pending_live t ht.1

/-- A worker's failure cleanup is `Workers`' `fail`. -/
private theorem life_workerFail {sock : Nat} (hl : s.Life w)
    (h : s.step c (.workerFail sock) = some s') : ∃ w', s'.Life w' ∧ ∃ wa, w.step wa = some w' := by
  simp only [step] at h
  split at h <;> (try split at h) <;> cases h
  all_goals
    rename_i hw hp
    have hrun : sock ∈ w.running := (hl.running sock).2 ⟨by simp [live, hw, WorkerPc.live], hp⟩
    refine ⟨{ w with connSockList := w.connSockList.filter (· ≠ sock),
                     openSocks := w.openSocks.filter (· ≠ sock),
                     retxThreadList := w.retxThreadList.remove sock,
                     running := w.running.filter (· ≠ sock), ended := sock :: w.ended },
      ⟨by rw [hl.retxThreadList], by rw [hl.connSockList], hl.acceptor, by simp [hl.next],
        fun t => ?_, fun t => ?_, fun t ht => ?_⟩, .fail sock, by simp [Workers.step, hrun]⟩
    · simp only [List.mem_filter, hl.openSocks, sockOpen, open_set _ hw t, decide_eq_true_eq]
      split <;> simp [*]
    · simp only [List.mem_filter, hl.running, live, live_set _ hw t, decide_eq_true_eq]
      split <;> simp [*, WorkerPc.live]
    · have hne : t ≠ sock := fun e => hp (e ▸ ht)
      simp only [live, live_set _ hw t, hne, if_false]
      exact hl.pending_live t ht

/-- Every step of the threads is a step of `Workers` on the lifecycle, or leaves it. -/
theorem life_step {a : Action} (hl : s.Life w) (h : s.step c a = some s') :
    ∃ w', s'.Life w' ∧ (w' = w ∨ ∃ wa, w.step wa = some w') := by
  cases hla : a.lifecycle
  · rcases step_same_or_stop h hla with hs | ⟨x, hx, rfl⟩
    · exact ⟨w, hl.same hs, .inl rfl⟩
    · obtain ⟨w', hw', hstop⟩ := hl.stop hx
      exact ⟨w', hw', .inr ⟨.stop, hstop⟩⟩
  · cases a with
    | accept => obtain ⟨w', hw', hs⟩ := life_accept hl h; exact ⟨w', hw', .inr hs⟩
    | acceptFail => exact life_acceptFail hl h
    | register => obtain ⟨w', hw', hs⟩ := life_register hl h; exact ⟨w', hw', .inr hs⟩
    | acceptorExit => exact ⟨w, life_acceptorExit hl h, .inl rfl⟩
    | cancel => exact ⟨w, life_cancel hl h, .inl rfl⟩
    | workerFail => obtain ⟨w', hw', hs⟩ := life_workerFail hl h; exact ⟨w', hw', .inr hs⟩
    | _ => simp [Action.lifecycle] at hla

/-- The arguments of the calls of a run, in order. -/
def callArgs (as : List Action) : List SendArgs :=
  as.filterMap fun
    | .call a => some a
    | _ => none

/-- The counter after one more call of `sendProducts`. -/
theorem sendProducts_concat_prodIndex (args : List SendArgs) (a : SendArgs) (s₀ : Sender) :
    (sendProducts c (args ++ [a]) s₀).2.prodIndex =
      if callOk c (sendProducts c args s₀).2.prodIndex a
      then u32 ((sendProducts c args s₀).2.prodIndex + 1)
      else (sendProducts c args s₀).2.prodIndex := by
  induction args generalizing s₀ with
  | nil =>
    simp only [sendProducts, List.nil_append]
    rw [Sender.sendProduct_apply]
    by_cases hc : callOk c s₀.prodIndex a <;> simp [hc]
  | cons x xs ih => exact ih _

variable (c) in
/-- Where the caller stands against `sendProducts` from `s₀` over the calls `args` made so
    far: between calls its counter is the one after them; inside a call it is the one before
    the call, and past the multicast only if the call succeeds. -/
def CallerAt (s₀ : Sender) (args : List SendArgs) (s : Sys) : Prop :=
  match s.caller with
  | .idle => s.sender.prodIndex = (sendProducts c args s₀).2.prodIndex
  | .inserted a | .multicast a => ∃ pre, args = pre ++ [a] ∧
      s.sender.prodIndex = (sendProducts c pre s₀).2.prodIndex ∧ (checkArgs c a).isOk
  | .timerParams a | .push a => ∃ pre, args = pre ++ [a] ∧
      s.sender.prodIndex = (sendProducts c pre s₀).2.prodIndex ∧ callOk c s.sender.prodIndex a

/-- A table operation's effect is not the caller's. -/
private theorem byCaller_tableOp (x : Sender) (p : Nat) (r : Bool × SenderMetadata) :
    ∀ e ∈ (x.tableOp p r).log.drop x.log.length, e.byCaller = false := by
  intro e he
  rw [Sender.tableOp_log, List.drop_left] at he
  split at he
  · rw [List.mem_singleton.1 he]; rfl
  · cases he

/-- A notification is not the caller's. -/
private theorem byCaller_notifyEop (x : Sender) (p : Nat) (r : Bool) :
    ∀ e ∈ (x.notifyEop p r).log.drop x.log.length, e.byCaller = false := by
  intro e he
  rw [Sender.notifyEop_eq, List.drop_left] at he
  split at he
  · rw [List.mem_singleton.1 he]; rfl
  · cases he

/-- The steps of the other threads leave the caller and its counter, and add none of its
    effects. -/
theorem step_not_caller {a : Action} (h : s.step c a = some s')
    (ha : ∀ arg, a ≠ .call arg) (hb : a ≠ .callerStep) :
    s'.caller = s.caller ∧ s'.sender.prodIndex = s.sender.prodIndex ∧
      ∀ e ∈ s'.sender.log.drop s.sender.log.length, e.byCaller = false := by
  cases a with
  | call arg => exact absurd rfl (ha arg)
  | callerStep => exact absurd rfl hb
  | stop => cases h; simp [Sender.stop_apply]
  | _ =>
    simp only [step] at h
    (repeat' split at h) <;> cases h
    all_goals refine ⟨rfl, by simp [Sender.tableOp, Sender.notifyEop_eq], ?_⟩
    all_goals first
      | exact byCaller_tableOp _ _ _
      | exact byCaller_notifyEop _ _ _
      | simp; done
      | intro e he
        simp only [List.drop_left, List.mem_map] at he
        obtain ⟨f, -, rfl⟩ := he
        rfl

/-- A datagram among those of a product is about that product. -/
private theorem prodindex_udp {L : List Frame} {p : Nat} {e : Effect}
    (hL : ∀ f ∈ L, f.header.prodindex = p) (he : e ∈ L.map .udp) : e.prodindex = p := by
  obtain ⟨f, hf, rfl⟩ := List.mem_map.1 he
  exact hL f hf

/-- The caller's steps of one call: the counter moves on by one exactly at the end of a
    call that succeeded, and what the call adds is about the product the call started
    with. -/
private theorem callerAt_callerStep {s₀ : Sender} {args : List SendArgs}
    (hi : CallerAt c s₀ args s) (h : s.step c .callerStep = some s') :
    CallerAt c s₀ args s' ∧ ∀ e ∈ s'.sender.log.drop s.sender.log.length, e.byCaller →
      e.prodindex = (sendProducts c args.dropLast s₀).2.prodIndex := by
  simp only [step] at h
  split at h
  · cases h
  · rename_i a hc
    cases h
    simp only [CallerAt, hc] at hi
    exact ⟨hi, by simp⟩
  · rename_i a hc
    simp only [CallerAt, hc] at hi
    obtain ⟨pre, rfl, hp, hchk⟩ := hi
    have hdrop : (pre ++ [a]).dropLast = pre := List.dropLast_concat
    rw [Sender.multicast_apply] at h
    cases hf : (datagrams c s.sender.prodIndex a).find? a.hits with
    | some f =>
      simp only [hf] at h
      cases h
      refine ⟨?_, fun e he _ => ?_⟩
      · simp only [CallerAt, stopThreads_caller, stopThreads_sender, Sender.sendProductCatch_apply,
          sendProducts_concat_prodIndex, callOk, hf, ← hp, hchk]
        simp
      · simp only [stopThreads_sender, Sender.sendProductCatch_apply, List.drop_left] at he
        rw [prodindex_udp (fun g hg =>
          datagrams_header c _ a g ((List.takeWhile_sublist _).subset hg)) he, hdrop, hp]
    | none =>
      simp only [hf] at h
      cases h
      refine ⟨⟨pre, rfl, hp, by simp [callOk, hchk, hf]⟩, fun e he _ => ?_⟩
      rw [List.drop_left] at he
      rw [prodindex_udp (datagrams_header c _ a) he, hdrop, hp]
  · rename_i a hc
    cases h
    simp only [CallerAt, hc] at hi
    exact ⟨hi, by simp [Sender.setTimerParameters, SenderM.pure_apply]⟩
  · rename_i a hc
    cases h
    simp only [CallerAt, hc] at hi
    obtain ⟨pre, rfl, hp, hok⟩ := hi
    have hq : (Sender.pushTimer s.sender).2.prodIndex = s.sender.prodIndex := by
      simp only [Sender.pushTimer, SenderM.modify_apply]; split <;> rfl
    refine ⟨?_, fun e he _ => ?_⟩
    · simp only [CallerAt, hq, sendProducts_concat_prodIndex, ← hp, hok, if_true]
    · simp only [Sender.pushTimer, SenderM.modify_apply] at he
      split at he
      · simp at he
      · simp only [List.append_assoc, List.drop_left, List.mem_singleton] at he
        rw [he, List.dropLast_concat, ← hp]; rfl

/-- Each step keeps the caller where `sendProducts` over the calls made so far puts it, and
    what the caller adds is about the product of the call it belongs to. -/
theorem callerAt_step {s₀ : Sender} {args : List SendArgs} {a : Action}
    (hi : CallerAt c s₀ args s) (h : s.step c a = some s') :
    CallerAt c s₀ (args ++ callArgs [a]) s' ∧
      ∀ e ∈ s'.sender.log.drop s.sender.log.length, e.byCaller →
        e.prodindex = (sendProducts c (args ++ callArgs [a]).dropLast s₀).2.prodIndex := by
  cases a with
  | call arg =>
    simp only [callArgs, List.filterMap_cons, List.filterMap_nil, List.dropLast_concat]
    simp only [step] at h
    split at h
    · rename_i hc hchk
      cases h
      simp only [CallerAt, hc] at hi
      refine ⟨⟨args, rfl, hi, by simp [hchk, Except.isOk, Except.toBool]⟩, fun e he _ => ?_⟩
      simp only [Sender.addRetxMetadata_apply, List.drop_left, List.mem_singleton] at he
      rw [he, ← hi]; rfl
    · rename_i hc hchk
      cases h
      simp only [CallerAt, hc] at hi
      refine ⟨?_, fun e he _ => by simp [Sender.sendProductCatch_apply] at he⟩
      simp only [CallerAt, stopThreads_caller, stopThreads_sender, Sender.sendProductCatch_apply,
        sendProducts_concat_prodIndex, callOk, hchk, hc, ← hi]
      simp [Except.isOk, Except.toBool]
    · cases h
  | callerStep =>
    simpa [callArgs] using callerAt_callerStep hi h
  | _ =>
    obtain ⟨hc, hp, hnone⟩ := step_not_caller h (fun _ => nofun) nofun
    refine ⟨?_, fun e he hb => by rw [hnone e he] at hb; cases hb⟩
    simp only [callArgs, List.filterMap_cons, List.filterMap_nil, List.append_nil]
    unfold CallerAt
    rw [hc, hp]
    exact hi

/-- Over every interleaving of the threads, the caller is the sequential caller of
    `sendProducts` over the calls of the run: between calls its counter is the one
    `sendProducts` reaches after them, and every insertion, datagram and push a step of the
    caller adds is about the index `sendProducts` gives the call it belongs to, the counter
    after the calls before it. The other threads never move the counter. -/
theorem prodIndex_run {initProdIndex : Nat} {notifier : Bool} {as : List Action} {s : Sys}
    (hrun : (Sys.init initProdIndex notifier).run c as = some s) :
    (s.caller = .idle → s.sender.prodIndex =
      (sendProducts c (callArgs as) (Sender.init initProdIndex notifier)).2.prodIndex) ∧
    ∀ a s', s.step c a = some s' → ∀ e ∈ s'.sender.log.drop s.sender.log.length, e.byCaller →
      e.prodindex = (sendProducts c (callArgs (as ++ [a])).dropLast
        (Sender.init initProdIndex notifier)).2.prodIndex := by
  have hi : CallerAt c (Sender.init initProdIndex notifier) (callArgs as) s := by
    induction as using List.reverseRecOn generalizing s with
    | nil => cases hrun; rfl
    | append_singleton as a ih =>
      obtain ⟨t, h₁, hstep⟩ := run_concat_eq_some.1 hrun
      rw [callArgs, List.filterMap_append]
      exact (callerAt_step (ih h₁) hstep).1
  refine ⟨fun hidle => ?_, fun a s' h => ?_⟩
  · simp only [CallerAt, hidle] at hi; exact hi
  · rw [callArgs, List.filterMap_append]
    exact (callerAt_step hi h).2

/-- A call rejected for its null data, then a call of one byte up to its multicast. -/
def rejectedRun : List Action := [.call ⟨none, 0, none, 0, none⟩, .call oneByte, .callerStep]

/-- The state `rejectedRun` reaches. -/
def rejectedState : Sys :=
  ((Sys.init 0 true).run Consts.default rejectedRun).getD (Sys.init 0 true)

/-- The multicast of the second call carries the index `sendProducts` gives it after the
    rejected call. -/
theorem prodIndex_run_rejected :
    (((rejectedState.step Consts.default .callerStep).getD rejectedState).sender.log.drop
        rejectedState.sender.log.length).all
      (fun e => !e.byCaller || e.prodindex == (sendProducts Consts.default
        (callArgs (rejectedRun ++ [.callerStep])).dropLast (Sender.init 0 true)).2.prodIndex) =
      true :=
  List.all_eq_true.2 fun e he => by
    have h := (prodIndex_run (show (Sys.init 0 true).run Consts.default rejectedRun =
        some rejectedState from rfl)).2 .callerStep _
      (show rejectedState.step Consts.default .callerStep =
        some ((rejectedState.step Consts.default .callerStep).getD rejectedState) from rfl) e he
    cases hb : e.byCaller <;> simp [hb, h]

/-- The rejected call does not count: the index is `0`. -/
example : (sendProducts Consts.default (callArgs (rejectedRun ++ [.callerStep])).dropLast
    (Sender.init 0 true)).2.prodIndex = 0 := by decide

end Sys

end Vcmtp
