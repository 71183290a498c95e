import Vcmtp.Notify

/-!
# Aging entries out: the shadowed `prodindex`

Every entry a call inserts is meant to be aged out by the timer: the call pushes its index
on `timerDelayQ`, the timer pops it, removes the entry and notifies. So, before `Stop`,
every entry in the table should be held by something that will remove it: the call still
in progress, an element of the delay queue, or the timer that popped it.

In `timerThread` the popped index goes to an inner `prodindex` that shadows the outer one,
which is what `rmRetxMetadata` and `notify_of_eop` read. `timer_leaves_entry` is a run in
which the timer pops product `0` while the outer variable holds `1`: the entry of `0` stays
in the table, held by nothing, until every receiver sends `RETX_END`.

`reachablePopped_held` shows that the shadowing is the only cause: over the runs in which
each pop reads the index it popped, as the spec requires, every entry stays held before
`Stop`. The proof is one invariant, `AgingInv`, and a lemma per kind of step.

## Key results

- `Sys.timer_leaves_entry`
- `Sys.reachablePopped_held`
-/

namespace Vcmtp

namespace Sys

/-- Whether something holds the entry of `p` in `s` that will remove it: the call in
    progress, an element of the delay queue, or the timer that popped `p` and has not yet
    called `rmRetxMetadata`. -/
def held (s : Sys) (p : Nat) : Bool :=
  (s.caller != .idle && s.sender.prodIndex == p) || s.sender.timerDelayQ.contains p ||
    match s.timer with
    | .popped q _ => q == p
    | _ => false

/-- Whether a present entry `p` is accounted for: it is held, or the timer has removed it and
    is not done with it. -/
def accounted (s : Sys) (p : Nat) : Bool :=
  s.held p ||
    match s.timer with
    | .removed q _ _ => q == p
    | _ => false

theorem held_iff {s : Sys} {p : Nat} : s.held p = true ↔
    (s.caller ≠ .idle ∧ s.sender.prodIndex = p) ∨ p ∈ s.sender.timerDelayQ ∨
      ∃ v, s.timer = .popped p v := by
  cases ht : s.timer <;> simp [held, ht, or_assoc]

theorem accounted_of_held {s : Sys} {p : Nat} (h : s.held p = true) : s.accounted p = true := by
  simp [accounted, h]

/-- Whether `a` is a pop whose outer `prodindex` holds the index popped, or no pop. -/
def PopsPopped (s : Sys) : Action → Prop
  | .timerPop i v => s.sender.timerDelayQ[i]? = some v
  | _ => True

end Sys

/-- The states reached by the runs whose every pop reads the index it popped. -/
inductive ReachablePopped (c : Consts) : Sys → Prop where
  | init (initProdIndex : Nat) (notifier : Bool) (h : initProdIndex < 2 ^ 32) :
      ReachablePopped c (Sys.init initProdIndex notifier)
  | step {s s' : Sys} (a : Action) : ReachablePopped c s → s.PopsPopped a →
      s.step c a = some s' → ReachablePopped c s'

namespace Sys

/-- The invariant of those runs: a popped timer reads the index it popped, and before
    `Stop` every entry is held. -/
structure AgingInv (s : Sys) : Prop where
  reads_popped : ∀ p v, s.timer = .popped p v → v = p
  held : s.sender.qDisabled = false → ∀ p ∈ s.sender.sendMeta.keys, s.held p = true

variable {c : Consts} {s s' : Sys}

/-- A step that keeps a call in progress in progress, leaves the counter, the queue and the
    timer, and only shrinks the table, keeps the invariant. -/
private theorem AgingInv.frame (hi : s.AgingInv) (hc : s.caller ≠ .idle → s'.caller ≠ .idle)
    (hp : s'.sender.prodIndex = s.sender.prodIndex)
    (hq : s'.sender.timerDelayQ = s.sender.timerDelayQ)
    (hd : s'.sender.qDisabled = s.sender.qDisabled)
    (ht : s'.timer = s.timer)
    (hk : ∀ p ∈ s'.sender.sendMeta.keys, p ∈ s.sender.sendMeta.keys) : s'.AgingInv := by
  refine ⟨fun p v h => hi.reads_popped p v (ht ▸ h), fun hdis p hpk => held_iff.2 ?_⟩
  rcases held_iff.1 (hi.held (hd ▸ hdis) p (hk p hpk)) with ⟨hi, rfl⟩ | hq' | hv
  · exact .inl ⟨hc hi, hp⟩
  · exact .inr (.inl (hq ▸ hq'))
  · exact .inr (.inr (ht ▸ hv))

/-- A step that ends in `Stop`'s state keeps the invariant vacuously, if the timer stays. -/
private theorem AgingInv.of_disabled (hi : s.AgingInv) (ht : s'.timer = s.timer)
    (hd : s'.sender.qDisabled = true) : s'.AgingInv :=
  ⟨fun p v h => hi.reads_popped p v (ht ▸ h), fun h => by simp [hd] at h⟩

/-- An element of a queue is still in it after a pop, or it is the element popped. -/
private theorem mem_eraseIdx_or {l : List Nat} {i p q : Nat} (hq : q ∈ l)
    (hi : l[i]? = some p) : q ∈ l.eraseIdx i ∨ q = p := by
  obtain ⟨j, hj⟩ := List.mem_iff_getElem?.1 hq
  by_cases hji : j = i
  · subst hji
    exact .inr (Option.some.inj (hj.symm.trans hi))
  · exact .inl (List.mem_eraseIdx_iff_getElem?.2 ⟨j, hji, hj⟩)

private theorem agingInv_call {a : SendArgs} (hi : s.AgingInv)
    (h : s.step c (.call a) = some s') : s'.AgingInv := by
  simp only [step] at h
  split at h
  · rename_i hidle _
    cases h
    refine ⟨hi.reads_popped, fun hdis p hp => held_iff.2 ?_⟩
    simp only [Sender.addRetxMetadata_apply, SenderMetadata.mem_keys_addRetxMetadata] at hp hdis
    rcases hp with rfl | hp
    · exact .inl ⟨by simp, rfl⟩
    · rcases held_iff.1 (hi.held hdis p hp) with ⟨hc, -⟩ | hq | ht
      · exact absurd hidle hc
      · exact .inr (.inl hq)
      · exact .inr (.inr ht)
  · cases h
    exact hi.of_disabled rfl (by simp [Sender.sendProductCatch_apply])
  · cases h

private theorem agingInv_callerStep (hi : s.AgingInv) (h : s.step c .callerStep = some s') :
    s'.AgingInv := by
  simp only [step] at h
  split at h
  · cases h
  · cases h
    exact hi.frame (fun _ => by simp) rfl rfl rfl rfl fun _ h => h
  · rename_i a _
    rw [Sender.multicast_apply] at h
    cases hf : (datagrams c s.sender.prodIndex a).find? a.hits with
    | some f =>
      simp only [hf] at h
      cases h
      exact hi.of_disabled rfl (by simp [Sender.sendProductCatch_apply])
    | none =>
      simp only [hf] at h
      cases h
      exact hi.frame (fun _ => by simp) rfl rfl rfl rfl fun _ h => h
  · cases h
    exact hi.frame (fun _ => by simp) rfl rfl rfl rfl fun _ h => h
  · cases h
    refine ⟨hi.reads_popped, fun hdis p hp => held_iff.2 ?_⟩
    have hd : s.sender.qDisabled = false := by
      by_contra hd; simp [Sender.pushTimer, hd] at hdis
    simp only [Sender.pushTimer, SenderM.modify_apply, hd] at hp ⊢
    rcases held_iff.1 (hi.held hd p hp) with ⟨-, rfl⟩ | hq | ht
    · exact .inr (.inl (by simp))
    · exact .inr (.inl (by simp [hq]))
    · exact .inr (.inr ht)

/-- A pop that reads the index it popped hands the element over to the timer. -/
private theorem agingInv_timerPop (hi : s.AgingInv) (hpop : s.PopsPopped (.timerPop i v))
    (h : s.step c (.timerPop i v) = some s') : s'.AgingInv := by
  simp only [step] at h
  split at h
  · rename_i p ht hp
    split at h
    · cases h
      have hvp : v = p := Option.some.inj (hpop.symm.trans hp)
      refine ⟨fun _ _ h => (by cases h; exact hvp), fun hdis q hq => held_iff.2 ?_⟩
      rcases held_iff.1 (hi.held hdis q hq) with hc | hq' | ⟨w, hw⟩
      · exact .inl hc
      · rcases mem_eraseIdx_or hq' hp with hq'' | rfl
        · exact .inr (.inl hq'')
        · exact .inr (.inr ⟨v, rfl⟩)
      · simp [ht] at hw
    · cases h
  · cases h

/-- The timer removes the entry it popped, and no other. -/
private theorem agingInv_timerRemove (hi : s.AgingInv) (h : s.step c .timerRemove = some s') :
    s'.AgingInv := by
  simp only [step] at h
  split at h
  · rename_i p v ht
    cases h
    refine ⟨fun _ _ h => (by cases h), fun hdis q hq => held_iff.2 ?_⟩
    simp only [Sender.tableOp_sendMeta, SenderMetadata.rmRetxMetadata_snd,
      SenderMetadata.mem_keys_erase] at hq
    rcases held_iff.1 (hi.held hdis q hq.2) with hc | hq' | ⟨w, hw⟩
    · exact .inl hc
    · exact .inr (.inl hq')
    · rw [ht] at hw
      cases hw
      exact absurd (hi.reads_popped _ _ ht).symm hq.1
  · cases h

private theorem agingInv_timerNotify (hi : s.AgingInv) (h : s.step c .timerNotify = some s') :
    s'.AgingInv := by
  simp only [step] at h
  split at h
  · rename_i p v r ht
    cases h
    refine ⟨fun _ _ h => (by cases h), fun hdis q hq => held_iff.2 ?_⟩
    simp only [Sender.notifyEop_eq] at hq hdis ⊢
    rcases held_iff.1 (hi.held hdis q hq) with hc | hq' | ⟨w, hw⟩
    · exact .inl hc
    · exact .inr (.inl hq')
    · simp [ht] at hw
  · cases h

private theorem agingInv_timerExit (h : s.step c .timerExit = some s') : s'.AgingInv := by
  simp only [step] at h
  split at h
  · split at h
    · cases h
      exact ⟨fun _ _ h => (by cases h), fun h => by simp_all⟩
    · cases h
  · cases h

/-- The lifecycle leaves everything the invariant reads. -/
private theorem agingInv_lifecycle {a : Action} (hi : s.AgingInv) (h : s.step c a = some s')
    (ha : a.lifecycle) : s'.AgingInv := by
  obtain ⟨hsnd, hc, ht⟩ := step_lifecycle h ha
  exact hi.frame (fun h => hc ▸ h) (by rw [hsnd]) (by rw [hsnd]) (by rw [hsnd]) ht
    fun _ h => by rwa [hsnd] at h

private theorem agingInv_recv (hi : s.AgingInv) (h : s.step c (.recv sock hd) = some s') :
    s'.AgingInv := by
  simp only [step] at h
  split at h
  · split at h
    · cases h
      exact hi.frame id rfl rfl rfl rfl fun _ h => h
    · cases h
  · cases h

/-- A worker's `clearUnfinishedSet` only ever removes from the table. -/
private theorem agingInv_handle (hi : s.AgingInv) (h : s.step c (.handle sock) = some s') :
    s'.AgingInv := by
  simp only [step] at h
  split at h
  · rename_i hd _ _
    split at h
    · split at h
      · cases h
        refine hi.frame id rfl rfl rfl rfl fun q hq => ?_
        rcases SenderMetadata.clearUnfinishedSet_spec s.sender.sendMeta hd.prodindex sock with
          ⟨-, -, ht⟩ | ⟨-, hk⟩
        · simp only [Sender.tableOp_sendMeta, ht, SenderMetadata.mem_keys_erase] at hq
          exact hq.2
        · exact (hk q).1 hq
      · cases h
        exact hi.frame id rfl rfl rfl rfl fun _ h => h
    · cases h
      exact hi.frame id rfl rfl rfl rfl fun _ h => h
  · cases h

private theorem agingInv_notify (hi : s.AgingInv) (h : s.step c (.notify sock) = some s') :
    s'.AgingInv := by
  simp only [step] at h
  split at h
  · cases h
    exact hi.frame id (by simp [Sender.notifyEop_eq]) (by simp [Sender.notifyEop_eq])
      (by simp [Sender.notifyEop_eq]) rfl fun _ h => by simpa using h
  · cases h

private theorem agingInv_stop (hi : s.AgingInv) (h : s.step c .stop = some s') :
    s'.AgingInv := by
  simp only [step, Option.some.injEq] at h
  subst h
  exact hi.of_disabled rfl (by simp [Sender.stop_apply])

theorem agingInv_init (initProdIndex : Nat) (notifier : Bool) :
    (Sys.init initProdIndex notifier).AgingInv :=
  ⟨fun _ _ h => (by cases h),
    fun _ p hp => by simp [Sys.init, Sender.init, SenderMetadata.keys_empty] at hp⟩

theorem reachablePopped_agingInv (hs : ReachablePopped c s) : s.AgingInv := by
  induction hs with
  | init => exact agingInv_init _ _
  | step a _ hpop hstep ih =>
    cases a with
    | call => exact agingInv_call ih hstep
    | callerStep => exact agingInv_callerStep ih hstep
    | timerPop => exact agingInv_timerPop ih hpop hstep
    | timerRemove => exact agingInv_timerRemove ih hstep
    | timerNotify => exact agingInv_timerNotify ih hstep
    | timerExit => exact agingInv_timerExit hstep
    | recv => exact agingInv_recv ih hstep
    | handle => exact agingInv_handle ih hstep
    | notify => exact agingInv_notify ih hstep
    | stop => exact agingInv_stop ih hstep
    | accept | acceptFail | register | acceptorExit | cancel | workerFail =>
      exact agingInv_lifecycle ih hstep rfl

/-- Over the runs in which every pop of the timer reads the index it popped, before `Stop`
    every entry in the table is accounted for. -/
theorem reachablePopped_held (hs : ReachablePopped c s) (hd : s.sender.qDisabled = false) :
    ∀ p ∈ s.sender.sendMeta.keys, s.accounted p = true :=
  fun p hp => accounted_of_held ((reachablePopped_agingInv hs).held hd p hp)

/-- A run whose every pop reads the index it popped stays within `ReachablePopped`. -/
theorem reachablePopped_of_run {s : Sys} (hs : ReachablePopped c s) :
    ∀ {as : List Action} {s' : Sys}, s.run c as = some s' →
      (∀ i v, .timerPop i v ∈ as → False) → ReachablePopped c s'
  | [], s', h, _ => by cases h; exact hs
  | a :: as, s', h, hpop => by
    rw [run_cons] at h
    cases hstep : s.step c a with
    | none => simp [hstep] at h
    | some s₁ =>
      rw [hstep, Option.some_bind] at h
      have ha : s.PopsPopped a := by
        cases a <;> first | trivial | exact (hpop _ _ (List.mem_cons_self _ _)).elim
      exact reachablePopped_of_run (.step a hs ha hstep) h
        (fun i v hm => hpop i v (List.mem_cons_of_mem _ hm))

/-- The one-byte product of the runs below, sent with no metadata. -/
def oneByte : SendArgs := ⟨some [1], 1, none, 0, none⟩

/-- Product `0` sent to the end, its element waiting in the delay queue, and the call of
    product `1` past its insertion. -/
def sentCalls : List Action :=
  [.call oneByte, .callerStep, .callerStep, .callerStep, .callerStep, .call oneByte]

/-- The state `sentCalls` reaches. -/
def sentMid : Sys := ((Sys.init 0 true).run Consts.default sentCalls).getD (Sys.init 0 true)

/-- After `sentCalls` the timer pops `0`, its outer `prodindex` holding `0`, and removes the
    entry of `0`; the entry of `1` is the call's. -/
def sentState : Sys :=
  (sentMid.run Consts.default [.timerPop 0 0, .timerRemove]).getD sentMid

theorem reachablePopped_held_sent :
    sentState.sender.qDisabled = false ∧ sentState.sender.sendMeta.keys = [1] ∧
      ∀ p ∈ sentState.sender.sendMeta.keys, sentState.accounted p = true :=
  have hmid : ReachablePopped Consts.default sentMid :=
    reachablePopped_of_run (.init 0 true (by decide))
      (show (Sys.init 0 true).run Consts.default sentCalls = some sentMid from rfl)
      (by simp [sentCalls])
  have hpop : sentMid.PopsPopped (.timerPop 0 0) :=
    (by decide : sentMid.sender.timerDelayQ[0]? = some 0)
  ⟨rfl, by decide, reachablePopped_held
    (.step .timerRemove (.step (.timerPop 0 0) hmid hpop rfl) trivial rfl) rfl⟩

/-- Product `0` is sent and pushed; the timer pops it while the uninitialised outer
    `prodindex` holds `1`, so it removes (nothing) and notifies (nothing) for product `1`. -/
def shadowRun : List Action :=
  [.call oneByte, .callerStep, .callerStep, .callerStep, .callerStep,
    .timerPop 0 1, .timerRemove, .timerNotify]

/-- The state `shadowRun` reaches. -/
def shadowState : Sys :=
  ((Sys.init 0 false).run Consts.default shadowRun).getD (Sys.init 0 false)

/-- Before any `Stop`, the entry of product `0` is in the table with no call in progress for
    it, no element of it in the delay queue, and the timer back in `pop`: the timer popped
    `0` and called `rmRetxMetadata(1)`. -/
theorem timer_leaves_entry :
    Reachable Consts.default shadowState ∧ shadowState.sender.qDisabled = false ∧
      0 ∈ shadowState.sender.sendMeta.keys ∧ shadowState.accounted 0 = false ∧
      shadowState.sender.timerDelayQ = [] ∧ shadowState.timer = .popping :=
  ⟨reachable_of_run (.init 0 false (by decide))
    (show (Sys.init 0 false).run Consts.default shadowRun = some shadowState from rfl),
    by decide, by decide, by decide, by decide, by decide⟩

end Sys

end Vcmtp
