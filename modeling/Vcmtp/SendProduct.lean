import Vcmtp.Sender

/-!
# Multicasting a product: `sendProduct`

```
try {
    checks of data, dataSize, metadata and metaSize   // std::invalid_argument
    RetxMetadata* senderProdMeta = addRetxMetadata(data, dataSize, metadata, metaSize);
    SendBOPMessage(dataSize, metadata, metaSize);
    sendData(data, dataSize);
    sendEOPMessage();
    setTimerParameters(senderProdMeta);
    timerDelayQ.push(prodIndex, senderProdMeta->retxTimeoutPeriod);
}
catch (std::exception& e) { taskExit(e); throw e; }
return prodIndex++;
```

Each statement of the `try` block is a `SenderM` action below. The three multicast
phases send, in order, the datagrams of `datagrams c p a`; the environment picks, through
`SendArgs.fault`, the one datagram whose send fails (if any).

## Key results

- `Sender.sendProduct_apply`: what one call returns and leaves, from every state. On
  success it returns the index on entry and moves the counter on modulo `2³²`; on failure
  the counter stays, `Stop` runs, and the recorded exception is thrown. Either way the call
  adds the effects `callLog`.
- `callLog_isPrefix`: a call's effects are its table insertion, then its datagrams in the
  order BOP, data blocks, EOP, then its delay-queue push, cut short where it fails.
- `sendProducts_prodIndex`: over any sequence of calls, the `i`-th success returns
  `c0 + i - 1` modulo `2³²`, and every effect of a call carries that call's index.
- `Sender.sendProduct_null_data_rethrows_slice`: what reaches the caller of a rejected
  call is the sliced copy that `Stop` rethrows, not the `std::invalid_argument`.
-/

namespace Vcmtp

/-- The arguments of one `sendProduct` call: the pointers `data` and `metadata` (given by
    the bytes they point to, `none` for a null pointer) and the two sizes; and the
    environment's choice of the datagram, by flag and offset, whose send fails. -/
structure SendArgs where
  data : Option (List UInt8)
  dataSize : Nat
  metadata : Option (List UInt8)
  metaSize : Nat
  fault : Option (Flag × Nat)
  deriving DecidableEq, Repr

/-- Whether the send of `f` is the one the environment fails. -/
def SendArgs.hits (a : SendArgs) (f : Frame) : Bool :=
  a.fault == some (f.header.flags, f.header.seqnum)

/-- The checks at the top of `sendProduct`, in the code's order, with its messages. -/
def checkArgs (c : Consts) (a : SendArgs) : Except Exc Unit :=
  if a.data = none then
    .error (.invalidArgument "vcmtpSendv3::sendProduct() data pointer is NULL")
  else if 0xFFFFFFFF < a.dataSize then
    .error (.invalidArgument "vcmtpSendv3::sendProduct() dataSize out of range")
  else match a.metadata with
    | some _ =>
      if c.availBopLen < a.metaSize then
        .error (.invalidArgument "vcmtpSendv3::SendBOPMessage(): metaSize too large")
      else .ok ()
    | none =>
      if a.metaSize ≠ 0 then
        .error (.invalidArgument "vcmtpSendv3::SendBOPMessage(): Non-zero metaSize")
      else .ok ()

/-- The EOP datagram of product `prodIndex` (`sendEOPMessage`). -/
def eopFrame (prodIndex : Nat) : Frame := ⟨⟨prodIndex, 0, 0, .eop⟩, []⟩

/-- The datagrams a call for product `p` multicasts when no send fails: the BOP, the
    data blocks, the EOP. -/
def datagrams (c : Consts) (p : Nat) (a : SendArgs) : List Frame :=
  sendBOPMessage c p (u32 a.dataSize) (a.metadata.getD []) a.metaSize ::
    (sendData c p (a.data.getD []) a.dataSize ++ [eopFrame p])

/-- Every datagram of a call is for product `p`; only the data blocks are `MEM_DATA`. -/
theorem datagrams_header (c : Consts) (p : Nat) (a : SendArgs) :
    ∀ f ∈ datagrams c p a, f.header.prodindex = p := by
  intro f hf
  simp only [datagrams, List.mem_cons, List.mem_append, List.mem_singleton,
    List.not_mem_nil, or_false] at hf
  rcases hf with rfl | hf | rfl
  · rfl
  · exact (sendData_header c p _ _ f hf).1
  · rfl

/-- Modelled from the spec (`UdpSend.cpp` is not among the sources): a failing
    `UdpSend::SendTo` throws an I/O error (§4.2, §7). -/
def sendToError : Exc := .systemError "UdpSend::SendTo()"

/-- What `sendData` throws when `UdpSend::SendData` fails. -/
def sendDataError : Exc := .runtimeError "vcmtpSendv3::sendProduct::SendData() error"

/-- The exception a failing send of `f` throws: `sendData`'s for a data block,
    `UdpSend::SendTo`'s for the BOP and the EOP. -/
def sendError (f : Frame) : Exc :=
  if f.header.flags = .memData then sendDataError else sendToError

namespace Sender

/-- A send on the multicast socket: out goes `f`, unless it is the send that fails. -/
def udpSend (a : SendArgs) (f : Frame) (err : Exc) : SenderM Unit :=
  if a.hits f then throw err else modify fun s => { s with log := s.log ++ [.udp f] }

/-- The entry `addRetxMetadata` builds for a call from `s`: the current `prodIndex`, with
    every connected socket unfinished. -/
def newEntry (s : Sender) (a : SendArgs) : RetxMetadata :=
  newRetxMetadata s.prodIndex (a.data.getD []) a.dataSize (a.metadata.getD []) a.metaSize
    s.connSockList

/-- `vcmtpSendv3::addRetxMetadata`: the new entry goes into the table. -/
def addRetxMetadata (a : SendArgs) : SenderM Unit :=
  modify fun s => { s with sendMeta := s.sendMeta.addRetxMetadata (s.newEntry a),
                           log := s.log ++ [.insert (s.newEntry a)] }

/-- `SendBOPMessage(dataSize, metadata, metaSize)`: one gathered datagram. -/
def sendBOPMessage (c : Consts) (a : SendArgs) : SenderM Unit := do
  let s ← get
  udpSend a (Vcmtp.sendBOPMessage c s.prodIndex (u32 a.dataSize) (a.metadata.getD [])
    a.metaSize) sendToError

/-- `sendData(data, dataSize)`: the data blocks, one datagram each. -/
def sendData (c : Consts) (a : SendArgs) : SenderM Unit := do
  let s ← get
  (Vcmtp.sendData c s.prodIndex (a.data.getD []) a.dataSize).forM fun f =>
    udpSend a f sendDataError

/-- `sendEOPMessage()`. -/
def sendEOPMessage (a : SendArgs) : SenderM Unit := do
  let s ← get
  udpSend a (eopFrame s.prodIndex) sendToError

/-- `setTimerParameters`: it writes the entry's clock fields, which are not modelled. -/
def setTimerParameters : SenderM Unit := pure ()

/-- `timerDelayQ.push(prodIndex, …)`. Modelled from the spec: a disabled queue ignores
    pushes (§4.5). -/
def pushTimer : SenderM Unit :=
  modify fun s => if s.qDisabled then s else
    { s with timerDelayQ := s.timerDelayQ ++ [s.prodIndex], log := s.log ++ [.push s.prodIndex] }

/-- The three multicast statements of `sendProduct`: BOP, data blocks, EOP. -/
def multicast (c : Consts) (a : SendArgs) : SenderM Unit := do
  sendBOPMessage c a
  sendData c a
  sendEOPMessage a

/-- The `try` block of `sendProduct`. -/
def sendProductTry (c : Consts) (a : SendArgs) : SenderM Unit := do
  MonadExcept.ofExcept (checkArgs c a)
  addRetxMetadata a
  multicast c a
  setTimerParameters
  pushTimer

/-- The `catch` block of `sendProduct`: `taskExit(e); throw e;`. -/
def sendProductCatch (e : Exc) : SenderM Unit := do
  taskExit e
  throw e.slice

/-- `vcmtpSendv3::sendProduct(data, dataSize, metadata, metaSize)`. -/
def sendProduct (c : Consts) (a : SendArgs) : SenderM Nat := do
  tryCatch (sendProductTry c a) sendProductCatch
  let s ← get
  set { s with prodIndex := u32 (s.prodIndex + 1) }
  return s.prodIndex

/-! ## One statement at a time -/

open SenderM

theorem ofExcept_apply {α : Type} (r : Except Exc α) (s : Sender) :
    (MonadExcept.ofExcept r : SenderM α) s = (r, s) := by
  cases r <;> rfl

theorem udpSend_apply (a : SendArgs) (f : Frame) (err : Exc) (s : Sender) :
    udpSend a f err s =
      if a.hits f then (.error err, s) else (.ok (), { s with log := s.log ++ [.udp f] }) := by
  unfold udpSend; split <;> rfl

private theorem forM_cons (f : Frame) (fs : List Frame) (g : Frame → SenderM PUnit) :
    (f :: fs).forM g = (g f >>= fun _ => fs.forM g) := rfl

/-- Sending datagrams in turn stops at the first one whose send fails. -/
theorem forM_udpSend_apply (a : SendArgs) (err : Exc) :
    ∀ (fs : List Frame) (s : Sender), (fs.forM fun f => udpSend a f err) s =
      match fs.find? a.hits with
      | some _ => (.error err, { s with log := s.log ++ (fs.takeWhile (!a.hits ·)).map .udp })
      | none => (.ok (), { s with log := s.log ++ fs.map .udp })
  | [], s => by simp
  | f :: fs, s => by
    rw [forM_cons]
    by_cases h : a.hits f
    · rw [bind_error (by rw [udpSend_apply, if_pos h])]
      simp [h]
    · rw [bind_ok (by rw [udpSend_apply, if_neg h]), forM_udpSend_apply a err fs]
      cases hfs : fs.find? a.hits <;> simp [h, hfs]

private theorem sendBOPMessage_flags (c : Consts) (p n : Nat) (m : List UInt8) (k : Nat) :
    (Vcmtp.sendBOPMessage c p n m k).header.flags = .bop := rfl

private theorem eopFrame_flags (p : Nat) : (eopFrame p).header.flags = .eop := rfl

private theorem takeWhile_append_of_find? {p : Frame → Bool} {f : Frame} :
    ∀ {xs : List Frame} (ys : List Frame), xs.find? p = some f →
      (xs ++ ys).takeWhile (!p ·) = xs.takeWhile (!p ·)
  | [], _, h => by simp at h
  | x :: xs, ys, h => by
    by_cases hx : p x
    · simp [hx]
    · simp only [List.find?_cons, hx] at h
      simp [hx, takeWhile_append_of_find? ys h]

/-- The multicast statements send the datagrams of the product in turn and stop at the first
    one whose send fails, with that send's exception. -/
theorem multicast_apply (c : Consts) (a : SendArgs) (s : Sender) :
    multicast c a s =
      match (datagrams c s.prodIndex a).find? a.hits with
      | some f => (.error (sendError f), { s with log := s.log ++
          ((datagrams c s.prodIndex a).takeWhile (!a.hits ·)).map .udp })
      | none => (.ok (), { s with log := s.log ++ (datagrams c s.prodIndex a).map .udp }) := by
  have hbop : sendBOPMessage c a s = udpSend a (Vcmtp.sendBOPMessage c s.prodIndex
      (u32 a.dataSize) (a.metadata.getD []) a.metaSize) sendToError s := rfl
  unfold multicast
  by_cases hb : a.hits (Vcmtp.sendBOPMessage c s.prodIndex (u32 a.dataSize)
    (a.metadata.getD []) a.metaSize)
  · rw [bind_error (by rw [hbop, udpSend_apply, if_pos hb])]
    simp [datagrams, hb, sendError, sendBOPMessage_flags]
  rw [bind_ok (by rw [hbop, udpSend_apply, if_neg hb])]
  set s₁ := { s with log := s.log ++ [Effect.udp (Vcmtp.sendBOPMessage c s.prodIndex
    (u32 a.dataSize) (a.metadata.getD []) a.metaSize)] }
  have hdata : sendData c a s₁ = ((Vcmtp.sendData c s.prodIndex (a.data.getD []) a.dataSize).forM
      fun f => udpSend a f sendDataError) s₁ := rfl
  cases hd : (Vcmtp.sendData c s.prodIndex (a.data.getD []) a.dataSize).find? a.hits with
  | some f =>
    rw [bind_error (by rw [hdata, forM_udpSend_apply, hd])]
    have hf := (sendData_header c _ _ _ f (List.mem_of_find?_eq_some hd)).2
    simp [datagrams, hb, hd, sendError, hf, takeWhile_append_of_find? _ hd, s₁]
  | none =>
    rw [bind_ok (by rw [hdata, forM_udpSend_apply, hd])]
    have hall : ∀ x ∈ Vcmtp.sendData c s.prodIndex (a.data.getD []) a.dataSize, ¬ a.hits x :=
      List.find?_eq_none.1 hd
    show udpSend a (eopFrame s.prodIndex) sendToError _ = _
    rw [udpSend_apply]
    by_cases he : a.hits (eopFrame s.prodIndex)
    · simp [datagrams, hb, hd, he, sendError, eopFrame_flags, s₁, List.takeWhile_append_of_pos
        (p := fun x => !a.hits x) (fun x hx => by simpa using hall x hx)]
    · simp [datagrams, hb, hd, he, s₁]

/-- The multicast statements write only the log. -/
theorem multicast_snd (c : Consts) (a : SendArgs) (s : Sender) :
    (multicast c a s).2 = { s with log := (multicast c a s).2.log } := by
  rw [multicast_apply]; split <;> rfl

theorem addRetxMetadata_apply (a : SendArgs) (s : Sender) :
    addRetxMetadata a s = (.ok (), { s with sendMeta := s.sendMeta.addRetxMetadata (s.newEntry a),
                                            log := s.log ++ [Effect.insert (s.newEntry a)] }) :=
  rfl

/-- The `try` block statement by statement: the checks, the insertion, the multicast, and
    after a multicast that went through, the push. -/
theorem sendProductTry_eq (c : Consts) (a : SendArgs) (s : Sender) :
    sendProductTry c a s =
      match checkArgs c a with
      | .error e => (.error e, s)
      | .ok () =>
        match multicast c a (addRetxMetadata a s).2 with
        | (.ok (), s₂) => pushTimer s₂
        | (.error e, s₂) => (.error e, s₂) := by
  unfold sendProductTry
  cases hc : checkArgs c a with
  | error e => rw [bind_error (ofExcept_apply _ _)]
  | ok u =>
    cases u
    rw [bind_ok (ofExcept_apply _ _),
      bind_ok (show addRetxMetadata a s = (.ok (), (addRetxMetadata a s).2) from rfl)]
    cases hm : multicast c a (addRetxMetadata a s).2 with
    | mk r s₂ =>
      cases r with
      | error e => rw [bind_error hm]
      | ok u => rw [bind_ok hm, bind_ok (x := setTimerParameters) (pure_apply () _)]

/-- The `try` block: the checks, the insertion, the datagrams up to a failing send, and on
    success the push. -/
theorem sendProductTry_apply (c : Consts) (a : SendArgs) (s : Sender) :
    sendProductTry c a s =
      match checkArgs c a with
      | .error e => (.error e, s)
      | .ok () =>
        let ds := datagrams c s.prodIndex a
        let s₁ := { s with sendMeta := s.sendMeta.addRetxMetadata (s.newEntry a),
                           log := s.log ++ [Effect.insert (s.newEntry a)] }
        match ds.find? a.hits with
        | some f => (.error (sendError f),
            { s₁ with log := s₁.log ++ (ds.takeWhile (!a.hits ·)).map Effect.udp })
        | none =>
          let s₂ := { s₁ with log := s₁.log ++ ds.map Effect.udp }
          (.ok (), if s.qDisabled then s₂ else
            { s₂ with timerDelayQ := s.timerDelayQ ++ [s.prodIndex],
                      log := s₂.log ++ [Effect.push s.prodIndex] }) := by
  rw [sendProductTry_eq]
  cases checkArgs c a with
  | error e => rfl
  | ok u =>
    rw [addRetxMetadata_apply, multicast_apply]
    cases hf : (datagrams c s.prodIndex a).find? a.hits <;>
      simp [hf, pushTimer, List.append_assoc]

end Sender

/-- Whether a call for product `p` succeeds: the checks pass and no send fails. -/
def callOk (c : Consts) (p : Nat) (a : SendArgs) : Bool :=
  (checkArgs c a).isOk && ((datagrams c p a).find? a.hits).isNone

/-- What a call from `s` does that others observe: nothing if a check fails; else the
    insertion, the datagrams sent before the failing one (all of them if none fails), and
    on success the push, unless the queue is disabled. -/
def callLog (c : Consts) (s : Sender) (a : SendArgs) : List Effect :=
  if (checkArgs c a).isOk then
    .insert (s.newEntry a) :: ((datagrams c s.prodIndex a).takeWhile (!a.hits ·)).map .udp ++
      if callOk c s.prodIndex a && !s.qDisabled then [.push s.prodIndex] else []
  else []

namespace Sender

open SenderM

/-- The `catch` block never returns: `taskExit` records the exception if none is, and the
    recorded one is thrown. -/
theorem sendProductCatch_apply (e : Exc) (s : Sender) :
    sendProductCatch e s = (.error (s.except.getD .exception),
      { s with except := some (s.except.getD .exception), qDisabled := true }) :=
  bind_error (taskExit_apply e s)

/-- A call is its `try` block, then the counter moved on and the index on entry returned, or
    after a throw the `catch` block. -/
theorem sendProduct_eq (c : Consts) (a : SendArgs) (s : Sender) :
    sendProduct c a s =
      match sendProductTry c a s with
      | (.ok (), s') => (.ok s'.prodIndex, { s' with prodIndex := u32 (s'.prodIndex + 1) })
      | (.error _, s') => (.error (s'.except.getD .exception),
          { s' with except := some (s'.except.getD .exception), qDisabled := true }) := by
  unfold sendProduct
  cases ht : sendProductTry c a s with
  | mk r s' =>
    cases r with
    | error e => rw [bind_error ((tryCatch_error ht).trans (sendProductCatch_apply _ _))]
    | ok u => rw [bind_ok (tryCatch_ok ht), bind_ok (get_apply _), bind_ok (set_apply _ _)]; rfl

/-- One call of `sendProduct`, from any state. On success it returns the index on entry and
    increments the counter modulo `2³²`. On failure the counter stays, `Stop` runs, and what
    reaches the caller is the recorded exception, a sliced `std::exception`, whatever was
    thrown. -/
theorem sendProduct_apply (c : Consts) (a : SendArgs) (s : Sender) :
    sendProduct c a s =
      let log := s.log ++ callLog c s a
      let sendMeta := if (checkArgs c a).isOk then s.sendMeta.addRetxMetadata (s.newEntry a)
        else s.sendMeta
      if callOk c s.prodIndex a then
        (.ok s.prodIndex,
          { s with prodIndex := u32 (s.prodIndex + 1), sendMeta, log,
                   timerDelayQ := if s.qDisabled then s.timerDelayQ
                                  else s.timerDelayQ ++ [s.prodIndex] })
      else
        (.error (s.except.getD .exception),
          { s with sendMeta, log, except := some (s.except.getD .exception),
                   qDisabled := true }) := by
  rw [sendProduct_eq, sendProductTry_apply]
  cases hc : checkArgs c a with
  | error e => simp [callOk, callLog, hc, Except.isOk, Except.toBool]
  | ok u =>
    cases hf : (datagrams c s.prodIndex a).find? a.hits with
    | some f => simp [callOk, callLog, hc, hf, Except.isOk, Except.toBool]
    | none =>
      have hall : (datagrams c s.prodIndex a).takeWhile (!a.hits ·) = datagrams c s.prodIndex a :=
        List.takeWhile_eq_self_iff.2 (by simpa using List.find?_eq_none.1 hf)
      cases hq : s.qDisabled <;>
        simp [callOk, callLog, hc, hf, hq, hall, Except.isOk, Except.toBool]

/-- A call returns the counter on entry or throws; it moves the counter on by one modulo
    `2³²` exactly when it succeeds; and it adds the effects `callLog`. -/
theorem sendProduct_step (c : Consts) (a : SendArgs) (s : Sender) :
    let r := sendProduct c a s
    (r.1.isOk → r.1 = .ok s.prodIndex) ∧
      r.2.prodIndex = (if r.1.isOk then u32 (s.prodIndex + 1) else s.prodIndex) ∧
      r.2.log = s.log ++ callLog c s a := by
  dsimp only
  rw [sendProduct_apply]
  cases h : callOk c s.prodIndex a <;> simp [h, Except.isOk, Except.toBool]

/-- A null `data` is rejected with `std::invalid_argument`, but what reaches the caller is
    the `std::exception` copy that `Stop` rethrows from inside `taskExit`, so the caller
    never sees the argument error. For the same reason `taskExit` never returns, and an
    exception of the timer task escapes `timerWrapper`. -/
theorem sendProduct_null_data_rethrows_slice :
    checkArgs Consts.default ⟨none, 0, none, 0, none⟩ =
        .error (.invalidArgument "vcmtpSendv3::sendProduct() data pointer is NULL") ∧
      (sendProduct Consts.default ⟨none, 0, none, 0, none⟩ (init 0 true)).1 =
        .error .exception ∧
      ∀ e : Exc, (taskExit e (init 0 true)).1 = .error .exception ∧
        (taskWrapper (throw e) (init 0 true)).1 = .error .exception :=
  ⟨rfl, rfl, fun _ => ⟨rfl, rfl⟩⟩

end Sender

/-! ## Calls in turn -/

/-- A call's effects: the entry, then a prefix of its datagrams in the order BOP, data
    blocks, EOP, then the push. -/
theorem callLog_isPrefix (c : Consts) (s : Sender) (a : SendArgs) :
    callLog c s a <+: .insert (s.newEntry a) ::
      (datagrams c s.prodIndex a).map .udp ++ [.push s.prodIndex] := by
  unfold callLog
  split
  · rw [List.cons_append, List.cons_append, List.cons_prefix_cons]
    refine ⟨rfl, ?_⟩
    split
    · rename_i h
      simp only [callOk, Bool.and_eq_true, Option.isNone_iff_eq_none, List.find?_eq_none] at h
      have hall : (datagrams c s.prodIndex a).takeWhile (!a.hits ·) = datagrams c s.prodIndex a :=
        List.takeWhile_eq_self_iff.2 (by simpa using h.1.2)
      simp only [hall, List.prefix_refl]
    · rw [List.append_nil]
      exact List.IsPrefix.trans (List.IsPrefix.map _ <| List.takeWhile_prefix _) <|
        List.prefix_append _ _
  · exact List.nil_prefix

/-- Every effect of a call is about the product of the counter on entry. -/
theorem callLog_prodindex (c : Consts) (s : Sender) (a : SendArgs) :
    ∀ e ∈ callLog c s a, e.prodindex = s.prodIndex := by
  intro e he
  have he' := (callLog_isPrefix c s a).subset he
  simp only [List.cons_append, List.mem_cons, List.mem_append, List.mem_map,
    List.mem_singleton, List.not_mem_nil, or_false] at he'
  rcases he' with rfl | ⟨f, hf, rfl⟩ | rfl
  · rfl
  · exact datagrams_header c _ a f hf
  · rfl

/-- A caller's calls in turn from `s`: each call's result and the effects it added, and the
    state after the last. -/
def sendProducts (c : Consts) : List SendArgs → Sender →
    List (Except Exc Nat × List Effect) × Sender
  | [], s => ([], s)
  | a :: as, s =>
    let r := Sender.sendProduct c a s
    let rest := sendProducts c as r.2
    ((r.1, r.2.log.drop s.log.length) :: rest.1, rest.2)

/-- Each call of a run starts from a state whose counter is the first one moved on by the
    successes before it, modulo `2³²`, and adds that state's `callLog`. -/
theorem sendProducts_calls (c : Consts) :
    ∀ (as : List SendArgs) (s : Sender), s.prodIndex < 2 ^ 32 →
      let run := sendProducts c as s
      run.1.length = as.length ∧
        run.2.prodIndex = u32 (s.prodIndex + run.1.countP (·.1.isOk)) ∧
        ∀ k a r eff, as[k]? = some a → run.1[k]? = some (r, eff) →
          ∃ sk : Sender, sk.prodIndex = u32 (s.prodIndex + (run.1.take k).countP (·.1.isOk)) ∧
            r = (Sender.sendProduct c a sk).1 ∧ eff = callLog c sk a
  | [], s, hs => by simp [sendProducts, u32_of_lt hs]
  | a :: as, s, hs => by
    obtain ⟨-, hp, hlog⟩ := Sender.sendProduct_step c a s
    set r := Sender.sendProduct c a s
    have hs₁ : r.2.prodIndex < 2 ^ 32 := by
      rw [hp]; split
      · exact Nat.mod_lt _ (by decide)
      · exact hs
    have hshift : ∀ n, u32 (r.2.prodIndex + n) =
        u32 (s.prodIndex + (n + if r.1.isOk then 1 else 0)) := by
      intro n; rw [hp]; split
      · simp only [u32, Nat.mod_add_mod]; congr 1; omega
      · simp
    obtain ⟨hlen, hfin, hcalls⟩ := sendProducts_calls c as r.2 hs₁
    refine ⟨by simp [sendProducts, hlen], by simp [sendProducts, List.countP_cons, hfin, hshift],
      fun k a' r' eff ha hk => ?_⟩
    cases k with
    | zero =>
      simp only [sendProducts, List.getElem?_cons_zero, Option.some.injEq, Prod.mk.injEq] at ha hk
      obtain ⟨rfl, rfl⟩ := hk
      subst ha
      exact ⟨s, by simp [u32_of_lt hs], rfl, by rw [hlog, List.drop_left]⟩
    | succ k =>
      obtain ⟨sk, hsk, h⟩ :=
        hcalls k a' r' eff (by simpa using ha) (by simpa [sendProducts] using hk)
      exact ⟨sk, by simp [sendProducts, List.countP_cons, hsk, hshift], h⟩

/-- A caller's calls on a sender started with counter `c0`: the `i`-th successful call
    returns `c0 + i - 1` modulo `2³²` and a failing call leaves the counter; every effect of a
    call is about the index it returns or would have returned, and its datagrams follow its
    table insertion, in the order BOP, data blocks, EOP, then the delay-queue push. -/
theorem sendProducts_prodIndex (c : Consts) (as : List SendArgs) (c0 : Nat) (notifier : Bool)
    (hc0 : c0 < 2 ^ 32) :
    let run := sendProducts c as (Sender.init c0 notifier)
    let idx := fun k => u32 (c0 + (run.1.take k).countP (·.1.isOk))
    run.1.length = as.length ∧ run.2.prodIndex = idx as.length ∧
      ∀ k a r eff, as[k]? = some a → run.1[k]? = some (r, eff) →
        (r.isOk → r = .ok (idx k)) ∧ (∀ e ∈ eff, e.prodindex = idx k) ∧
        ∃ m : RetxMetadata, m.prodindex = idx k ∧
          eff <+: .insert m :: (datagrams c (idx k) a).map .udp ++ [.push (idx k)] := by
  obtain ⟨hlen, hfin, hcalls⟩ := sendProducts_calls c as (Sender.init c0 notifier) hc0
  refine ⟨hlen, by rw [hfin, ← hlen]; simp [Sender.init], fun k a r eff ha hk => ?_⟩
  obtain ⟨sk, hp, rfl, rfl⟩ := hcalls k a r eff ha hk
  dsimp only
  rw [show u32 (c0 + _) = sk.prodIndex from hp.symm]
  exact ⟨(Sender.sendProduct_step c a sk).1, callLog_prodindex c sk a, sk.newEntry a, rfl,
    callLog_isPrefix c sk a⟩

/-- Three calls from the last 32-bit index: the first succeeds with `2³² - 1`, the second is
    rejected, the third gets the wrapped index `0`. -/
theorem sendProducts_prodIndex_wraps :
    2 ^ 32 - 1 < 2 ^ 32 ∧
      let run := sendProducts Consts.default
        [⟨some [1], 1, none, 0, none⟩, ⟨none, 0, none, 0, none⟩,
          ⟨some [2], 1, none, 0, none⟩]
        (Sender.init (2 ^ 32 - 1) true)
      let idx := fun k => u32 (2 ^ 32 - 1 + (run.1.take k).countP (·.1.isOk))
      run.1.length = 3 ∧ run.2.prodIndex = idx 3 ∧
        ∀ k a r eff,
          [(⟨some [1], 1, none, 0, none⟩ : SendArgs), ⟨none, 0, none, 0, none⟩,
            ⟨some [2], 1, none, 0, none⟩][k]? = some a → run.1[k]? = some (r, eff) →
          (r.isOk → r = .ok (idx k)) ∧ (∀ e ∈ eff, e.prodindex = idx k) ∧
          ∃ m : RetxMetadata, m.prodindex = idx k ∧
            eff <+: .insert m :: (datagrams Consts.default (idx k) a).map .udp ++ [.push (idx k)] :=
  ⟨by decide, sendProducts_prodIndex _ _ _ _ (by decide)⟩

end Vcmtp
