import Vcmtp.System

/-!
# Each removal is notified exactly once

Two paths remove an entry and notify the application: a worker's `handleRetxEnd`, through
`clearUnfinishedSet`, and the timer thread, through `rmRetxMetadata`. Each notifies only
when its table operation returned `true`, and the table returns `true` exactly when it
removed the entry. So over every interleaving, with a notifier, the `notify_of_eop` calls
for a product and the removals of its entry still to be notified add up to its removals,
and removals of an entry never outnumber its insertions.

The proof says once what a step can do to that accounting (`Change`): nothing, insert an
entry, remove one, or deliver a pending notification; each clause of `NotifyInv` is kept by
each kind of change.

## Key results

- `Sys.step_change`: every step is one of the four kinds of change.
- `Sys.reachable_notifyInv`: the accounting holds in every reachable state.
-/

namespace Vcmtp

/-- Whether `e` inserts an entry of product `p`. -/
def Effect.insertsProd (p : Nat) : Effect → Bool
  | .insert m => m.prodindex == p
  | _ => false

/-- Effects that touch neither the table nor the application: datagrams, messages on a
    connection, delay-queue pushes. -/
def Effect.quiet : Effect → Bool
  | .udp _ | .tcp _ _ | .push _ => true
  | _ => false

/-- The product the timer has removed from the table and not yet notified. -/
def TimerPc.pendingEop : TimerPc → Option Nat
  | .removed _ v true => some v
  | _ => none

/-- The product a worker has removed from the table and not yet notified. -/
def WorkerPc.pendingEop : WorkerPc → Option Nat
  | .ending h true => some h.prodindex
  | _ => none

/-- How many of the threads `timer` and `workers` have removed the entry of `p` and not
    yet notified it. -/
def pendingOf (timer : TimerPc) (workers : List WorkerPc) (p : Nat) : Nat :=
  (if timer.pendingEop = some p then 1 else 0) + workers.countP (·.pendingEop = some p)

theorem pendingOf_set (t : TimerPc) {l : List WorkerPc} {i : Nat} {w : WorkerPc} (u : WorkerPc)
    (hw : l[i]? = some w) (p : Nat) :
    pendingOf t (l.set i u) p + (if w.pendingEop = some p then 1 else 0) =
      pendingOf t l p + (if u.pendingEop = some p then 1 else 0) := by
  obtain ⟨hi, rfl⟩ := List.getElem?_eq_some_iff.1 hw
  have hle := List.boole_getElem_le_countP (·.pendingEop = some p) l i hi
  simp only [pendingOf, List.countP_set _ _ _ _ hi, decide_eq_true_eq] at hle ⊢
  split_ifs at hle ⊢ <;> omega

theorem pendingOf_set_of_none (t : TimerPc) {l : List WorkerPc} {i : Nat} {w : WorkerPc}
    (u : WorkerPc) (hw : l[i]? = some w) (hn : w.pendingEop = none) (hu : u.pendingEop = none)
    (p : Nat) : pendingOf t (l.set i u) p = pendingOf t l p := by
  simpa [hn, hu] using pendingOf_set t u hw p

namespace Sys

/-- The notifications due in `s` for product `p`. -/
def pending (s : Sys) (p : Nat) : Nat := pendingOf s.timer s.workers p

/-- The table's accounting: the removals of an entry and its presence never exceed its
    insertions; with a notifier, the notifications of a product and those still due add up
    to its removals; without one, nothing is notified. -/
structure NotifyInv (s : Sys) : Prop where
  remove_le : ∀ p, s.sender.log.count (.remove p) +
    (if p ∈ s.sender.sendMeta.keys then 1 else 0) ≤ s.sender.log.countP (Effect.insertsProd p)
  eop_eq : s.sender.notifier = true → ∀ p,
    s.sender.log.count (.eop p) + s.pending p = s.sender.log.count (.remove p)
  eop_none : s.sender.notifier = false → ∀ p, s.sender.log.count (.eop p) = 0

/-- What one step can do to the accounting. -/
inductive Change (s s' : Sys) : Prop where
  /-- Keys, notifier and due notifications stay; only quiet effects are added. -/
  | quiet (notifier : s'.sender.notifier = s.sender.notifier)
      (keys : ∀ q, q ∈ s'.sender.sendMeta.keys ↔ q ∈ s.sender.sendMeta.keys)
      (pending : ∀ q, s'.pending q = s.pending q) (L : List Effect)
      (log : s'.sender.log = s.sender.log ++ L) (hL : ∀ e ∈ L, e.quiet)
  /-- An entry `m` enters the table. -/
  | insert (m : RetxMetadata) (notifier : s'.sender.notifier = s.sender.notifier)
      (keys : ∀ q, q ∈ s'.sender.sendMeta.keys ↔
        q = m.prodindex ∨ q ∈ s.sender.sendMeta.keys)
      (pending : ∀ q, s'.pending q = s.pending q)
      (log : s'.sender.log = s.sender.log ++ [.insert m])
  /-- A table operation removes the entry of `p` and returns `true`; the thread now owes
      the notification. -/
  | remove (p : Nat) (notifier : s'.sender.notifier = s.sender.notifier)
      (hp : p ∈ s.sender.sendMeta.keys)
      (keys : ∀ q, q ∈ s'.sender.sendMeta.keys ↔ q ≠ p ∧ q ∈ s.sender.sendMeta.keys)
      (pending : ∀ q, s'.pending q = s.pending q + if q = p then 1 else 0)
      (log : s'.sender.log = s.sender.log ++ [.remove p])
  /-- A thread that owed the notification of `p` delivers it, if there is a notifier. -/
  | notify (p : Nat) (notifier : s'.sender.notifier = s.sender.notifier)
      (keys : ∀ q, q ∈ s'.sender.sendMeta.keys ↔ q ∈ s.sender.sendMeta.keys)
      (pending : ∀ q, s'.pending q + (if q = p then 1 else 0) = s.pending q)
      (log : s'.sender.log = s.sender.log ++ if s.sender.notifier then [.eop p] else [])

variable {c : Consts} {s s' : Sys}

/-- A step that touches only the sender's state, without its table or its notifications,
    and the threads' cancellation (`Stop`). -/
private theorem Change.sender_quiet {x : Sender} (hn : x.notifier = s.sender.notifier)
    (hm : x.sendMeta = s.sender.sendMeta) (L : List Effect) (hlog : x.log = s.sender.log ++ L)
    (hL : ∀ e ∈ L, e.quiet) : Change s (stopThreads { s with sender := x }) :=
  .quiet hn (fun q => by rw [stopThreads_sender, hm]) (fun _ => rfl) L hlog hL

/-- A step that leaves the notifier, the table and the log, and moves no due notification. -/
private theorem Change.same (hn : s'.sender.notifier = s.sender.notifier)
    (hm : s'.sender.sendMeta = s.sender.sendMeta) (hl : s'.sender.log = s.sender.log)
    (hp : ∀ q, s'.pending q = s.pending q) : Change s s' :=
  .quiet hn (fun q => by rw [hm]) hp [] (by simp [hl]) (by simp)

/-- The caller's steps insert the entry of the call; every other statement of
    `sendProduct` is quiet. -/
private theorem change_call {a : SendArgs} (h : s.step c (.call a) = some s') : Change s s' := by
  simp only [step] at h
  split at h
  · cases h
    exact .insert (s.sender.newEntry a) rfl (by simp [Sender.addRetxMetadata_apply]) (fun _ => rfl)
      rfl
  · cases h
    exact Change.sender_quiet (by simp [Sender.sendProductCatch_apply])
      (by simp [Sender.sendProductCatch_apply]) [] (by simp [Sender.sendProductCatch_apply])
      (by simp)
  · cases h

private theorem change_callerStep (h : s.step c .callerStep = some s') : Change s s' := by
  simp only [step] at h
  split at h
  · cases h
  · cases h
    exact Change.same rfl rfl rfl fun _ => rfl
  · rename_i a _
    rw [Sender.multicast_apply] at h
    cases hf : (datagrams c s.sender.prodIndex a).find? a.hits with
    | some f =>
      simp only [hf] at h
      cases h
      exact .quiet (by simp [Sender.sendProductCatch_apply])
        (by simp [Sender.sendProductCatch_apply]) (fun _ => rfl)
        (((datagrams c s.sender.prodIndex a).takeWhile (!a.hits ·)).map Effect.udp)
        (by simp [Sender.sendProductCatch_apply]) (by simp [Effect.quiet])
    | none =>
      simp only [hf] at h
      cases h
      exact .quiet rfl (fun _ => Iff.rfl) (fun _ => rfl)
        ((datagrams c s.sender.prodIndex a).map Effect.udp) rfl (by simp [Effect.quiet])
  · cases h
    exact Change.same rfl rfl rfl fun _ => rfl
  · cases h
    exact .quiet (by simp [Sender.pushTimer]; split <;> rfl)
      (by simp [Sender.pushTimer]; split <;> simp) (fun _ => rfl)
      (if s.sender.qDisabled then [] else [.push s.sender.prodIndex])
      (by simp [Sender.pushTimer]; split <;> simp) (by split <;> simp [Effect.quiet])

/-- A due notification moves from the old to the new state of a thread: one less due for
    `p`, none more. -/
private theorem pending_drop {p q : Nat} {x y : Nat} (h : x + (if p = q then 1 else 0) = y) :
    x + (if q = p then 1 else 0) = y := by
  rcases eq_or_ne q p with rfl | hq
  · exact h
  · simpa [hq, hq.symm] using h

private theorem change_timerPop (h : s.step c (.timerPop i v) = some s') : Change s s' := by
  simp only [step] at h
  split at h
  · split at h
    · cases h
      exact Change.same rfl rfl rfl (by simp [pending, pendingOf, TimerPc.pendingEop, *])
    · cases h
  · cases h

/-- The timer's `rmRetxMetadata(v)` removes the entry of `v` if there is one. -/
private theorem change_timerRemove (h : s.step c .timerRemove = some s') : Change s s' := by
  simp only [step] at h
  split at h
  · rename_i p v ht
    cases h
    by_cases hv : v ∈ s.sender.sendMeta.keys
    · refine .remove v rfl hv (by simp) (fun q => (pending_drop ?_).symm) (by simp [hv])
      simp [pending, pendingOf, TimerPc.pendingEop, hv, ht]
      omega
    · exact .quiet rfl (fun q => by simp; intro h hq; subst hq; exact hv h)
        (by simp [pending, pendingOf, TimerPc.pendingEop, hv, ht]) [] (by simp [hv]) (by simp)
  · cases h

/-- The timer notifies what its removal made due. -/
private theorem change_timerNotify (h : s.step c .timerNotify = some s') : Change s s' := by
  simp only [step] at h
  split at h
  · rename_i p v r ht
    cases h
    cases r
    · exact Change.same (by simp) (by simp) (by simp)
        (by simp [pending, pendingOf, TimerPc.pendingEop, ht])
    · refine .notify v (by simp) (by simp) (fun q => pending_drop ?_) (by simp)
      simp [pending, pendingOf, TimerPc.pendingEop, ht]
      omega
  · cases h

private theorem change_timerExit (h : s.step c .timerExit = some s') : Change s s' := by
  simp only [step] at h
  split at h
  · split at h
    · cases h
      exact Change.same rfl rfl rfl (by simp [pending, pendingOf, TimerPc.pendingEop, *])
    · cases h
  · cases h

/-- `accept` gives its socket to a worker that has notified nothing. -/
private theorem pendingOf_acceptSlot (t : TimerPc) {ws ws' : List WorkerPc} {sock : Nat}
    {w : WorkerPc} (h : acceptSlot ws sock w = some ws') (hw : w.pendingEop = none) (q : Nat) :
    pendingOf t ws' q = pendingOf t ws q := by
  rcases acceptSlot_eq_some h with ⟨-, rfl⟩ | ⟨hx, rfl⟩
  · simp [pendingOf, List.countP_append, hw]
  · exact pendingOf_set_of_none t w hx rfl hw q

/-- The lifecycle touches no worker that owes a notification. -/
private theorem change_lifecycle {a : Action} (h : s.step c a = some s') (ha : a.lifecycle) :
    Change s s' := by
  obtain ⟨hsnd, -, ht⟩ := step_lifecycle h ha
  refine Change.same (by rw [hsnd]) (by rw [hsnd]) (by rw [hsnd]) fun q => ?_
  simp only [pending, ht]
  cases a <;> simp only [Action.lifecycle, Bool.false_eq_true] at ha <;> simp only [step] at h <;>
    (repeat' split at h) <;> cases h <;>
    first
    | rfl
    | exact pendingOf_acceptSlot _ ‹_› (by rfl) q
    | exact pendingOf_set_of_none _ _ ‹_› (by rfl) (by rfl) q

private theorem change_recv (h : s.step c (.recv sock hd) = some s') : Change s s' := by
  simp only [step] at h
  split at h
  · rename_i hw
    split at h
    · cases h
      exact Change.same rfl rfl rfl fun q => pendingOf_set_of_none _ (.dispatch _ _) hw rfl rfl q
    · cases h
  · cases h

/-- A worker's `handleRetxEnd` removes the entry when it clears the last receiver; the
    other handlers only answer on the connection. -/
private theorem change_handle (h : s.step c (.handle sock) = some s') : Change s s' := by
  simp only [step] at h
  split at h
  · rename_i hd m hw
    split at h
    · split at h
      · cases h
        rcases SenderMetadata.clearUnfinishedSet_spec s.sender.sendMeta hd.prodindex sock with
          ⟨hr, hp, ht⟩ | ⟨hr, hk⟩
        · refine .remove hd.prodindex rfl hp (by simp [ht]) (fun q => (pending_drop ?_).symm)
            (by simp [hr])
          simpa [WorkerPc.pendingEop, hr, eq_comm] using pendingOf_set s.timer
            (.ending hd (s.sender.sendMeta.clearUnfinishedSet hd.prodindex sock).1) hw q
        · exact .quiet rfl (by simpa using hk)
            (fun q => pendingOf_set_of_none _ _ hw rfl (by simp [WorkerPc.pendingEop, hr]) q) []
            (by simp [hr]) (by simp)
      · cases h
        exact Change.same rfl rfl rfl fun q => pendingOf_set_of_none _ .reading hw rfl rfl q
    · cases h
      exact .quiet rfl (fun _ => Iff.rfl) (fun q => pendingOf_set_of_none _ .reading hw rfl rfl q)
        _ rfl (by simp [Effect.quiet])
  · cases h

/-- A worker notifies what its `clearUnfinishedSet` made due. -/
private theorem change_notify (h : s.step c (.notify sock) = some s') : Change s s' := by
  simp only [step] at h
  split at h
  · rename_i hd r hw
    cases h
    cases r
    · exact Change.same (by simp) (by simp) (by simp)
        fun q => pendingOf_set_of_none _ .reading hw rfl rfl q
    · refine .notify hd.prodindex (by simp) (by simp) (fun q => pending_drop ?_) (by simp)
      simpa [WorkerPc.pendingEop] using pendingOf_set s.timer .reading hw q
  · cases h

private theorem change_stop (h : s.step c .stop = some s') : Change s s' := by
  simp only [step, Option.some.injEq] at h
  subst h
  exact Change.sender_quiet (by simp [Sender.stop_apply]) (by simp [Sender.stop_apply]) []
    (by simp [Sender.stop_apply]) (by simp)

/-- Every step is one of the four kinds of change. -/
theorem step_change {a : Action} (h : s.step c a = some s') : Change s s' := by
  cases a with
  | call => exact change_call h
  | callerStep => exact change_callerStep h
  | timerPop => exact change_timerPop h
  | timerRemove => exact change_timerRemove h
  | timerNotify => exact change_timerNotify h
  | timerExit => exact change_timerExit h
  | recv => exact change_recv h
  | handle => exact change_handle h
  | notify => exact change_notify h
  | stop => exact change_stop h
  | accept | acceptFail | register | acceptorExit | cancel | workerFail =>
    exact change_lifecycle h rfl

/-- Quiet effects count as none of the table's events. -/
private theorem counts_of_quiet {L : List Effect} (hL : ∀ e ∈ L, e.quiet) (p : Nat) :
    L.count (.remove p) = 0 ∧ L.count (.eop p) = 0 ∧ L.countP (Effect.insertsProd p) = 0 := by
  refine ⟨List.count_eq_zero.2 fun h => ?_, List.count_eq_zero.2 fun h => ?_,
    List.countP_eq_zero.2 fun e he => ?_⟩
  · simpa [Effect.quiet] using hL _ h
  · simpa [Effect.quiet] using hL _ h
  · have := hL e he
    cases e <;> simp_all [Effect.quiet, Effect.insertsProd]

/-- Every kind of change keeps the accounting. -/
theorem NotifyInv.change (hi : s.NotifyInv) (hc : Change s s') : s'.NotifyInv := by
  obtain ⟨hrem, heop, hnone⟩ := hi
  cases hc with
  | quiet hn keys pend L log hL =>
    have hq := counts_of_quiet hL
    refine ⟨fun p => ?_, fun h p => ?_, fun h p => ?_⟩
    · simpa [log, keys, (hq p).1, (hq p).2.2] using hrem p
    · simpa [log, pend, (hq p).1, (hq p).2.1] using heop (hn ▸ h) p
    · simpa [log, (hq p).2.1] using hnone (hn ▸ h) p
  | insert m hn keys pend log =>
    refine ⟨fun p => ?_, fun h p => ?_, fun h p => ?_⟩
    · have := hrem p
      simp only [log, keys, List.count_append, List.countP_append]
      by_cases hp : p = m.prodindex
      · subst hp; simp [Effect.insertsProd]; split_ifs at this <;> omega
      · simp [Effect.insertsProd, hp, Ne.symm hp]; exact this
    · simpa [log, pend] using heop (hn ▸ h) p
    · simpa [log] using hnone (hn ▸ h) p
  | remove q hn hq keys pend log =>
    refine ⟨fun p => ?_, fun h p => ?_, fun h p => ?_⟩
    · have := hrem p
      simp only [log, keys, List.count_append, List.countP_append]
      by_cases hp : p = q
      · subst hp; simp [Effect.insertsProd, hq] at this ⊢; omega
      · simp [Effect.insertsProd, hp, Ne.symm hp]; exact this
    · have := heop (hn ▸ h) p
      simp only [log, pend, List.count_append]
      by_cases hp : p = q
      · subst hp; simp; omega
      · simp [hp, Ne.symm hp]; omega
    · simpa [log] using hnone (hn ▸ h) p
  | notify q hn keys pend log =>
    refine ⟨fun p => ?_, fun h p => ?_, fun h p => ?_⟩
    · have := hrem p
      simp only [log, keys, List.count_append, List.countP_append]
      split <;> simpa [Effect.insertsProd] using this
    · have := heop (hn ▸ h) p
      have hp := pend p
      simp only [log, hn ▸ h, if_true, List.count_append, List.count_singleton]
      by_cases hpq : p = q
      · subst hpq; simp at hp ⊢; omega
      · simp [hpq, Ne.symm hpq] at hp ⊢; omega
    · simpa [log, hn ▸ h] using hnone (hn ▸ h) p

theorem notifyInv_init (initProdIndex : Nat) (notifier : Bool) :
    (Sys.init initProdIndex notifier).NotifyInv :=
  ⟨fun p => by simp [Sys.init, Sender.init, SenderMetadata.keys_empty],
    fun _ p => by simp [Sys.init, Sender.init, pending, pendingOf, TimerPc.pendingEop],
    fun _ p => by simp [Sys.init, Sender.init]⟩

/-- The accounting holds in every reachable state. -/
theorem reachable_notifyInv (hs : Reachable c s) : s.NotifyInv := by
  induction hs with
  | init => exact notifyInv_init _ _
  | step _ _ hstep ih => exact ih.change (step_change hstep)

/-- With a notifier, over every interleaving: the notifications of `p` and those still due
    add up to the removals of its entry (each by a table operation that returned `true`),
    and the removals of `p`, with its entry if present, never outnumber its insertions. So
    every removal is notified once, nothing else is, and no inserted product is notified
    twice, whichever of `handleRetxEnd` and the timer removes it. -/
theorem notify_of_eop_once (hs : Reachable c s) (hn : s.sender.notifier = true) (p : Nat) :
    s.sender.log.count (.eop p) + s.pending p = s.sender.log.count (.remove p) ∧
      s.sender.log.count (.remove p) + (if p ∈ s.sender.sendMeta.keys then 1 else 0) ≤
        s.sender.log.countP (Effect.insertsProd p) :=
  ⟨(reachable_notifyInv hs).eop_eq hn p, (reachable_notifyInv hs).remove_le p⟩

/-- A receiver connected before product `0` reports it complete: its worker's
    `clearUnfinishedSet` removes the entry and the worker notifies. -/
def retxEndRun : List Action :=
  [.accept 0, .call ⟨some [1], 1, none, 0, none⟩, .callerStep, .callerStep, .callerStep,
    .callerStep, .recv 0 ⟨0, 0, 0, .retxEnd⟩, .handle 0, .notify 0]

/-- The state `retxEndRun` reaches. -/
def retxEndState : Sys :=
  ((Sys.init 0 true).run Consts.default retxEndRun).getD (Sys.init 0 true)

theorem reachable_retxEndState : Reachable Consts.default retxEndState :=
  reachable_of_run (.init 0 true (by decide))
    (show (Sys.init 0 true).run Consts.default retxEndRun = some retxEndState from rfl)

theorem notify_of_eop_once_retxEnd :
    retxEndState.sender.notifier = true ∧
      (retxEndState.sender.log.count (.eop 0) + retxEndState.pending 0 =
          retxEndState.sender.log.count (.remove 0) ∧
        retxEndState.sender.log.count (.remove 0) +
            (if 0 ∈ retxEndState.sender.sendMeta.keys then 1 else 0) ≤
          retxEndState.sender.log.countP (Effect.insertsProd 0)) :=
  ⟨rfl, notify_of_eop_once reachable_retxEndState rfl 0⟩

end Sys

end Vcmtp
