import Vcmtp.SendData
import Mathlib.Algebra.Order.Ring.Nat
import Mathlib.Algebra.Group.Int

/-!
# Answering a receiver: `retransmit`, `retransEOP`, `rejRetxReq`

A `RETX_REQ` asks for `payloadlen` bytes from offset `seqnum`. `vcmtpSendv3::retransmit`
answers it from the cached product:

```
uint32_t start = recvheader->seqnum;
uint32_t out   = MIN(retxMeta->prodLength, start + recvheader->payloadlen);
start = (start/VCMTP_DATA_LEN) * VCMTP_DATA_LEN;
uint16_t payLen = VCMTP_DATA_LEN;
for (uint32_t nbytes = out - start; 0 < nbytes; nbytes -= payLen) {
    if (payLen > nbytes) payLen = nbytes;
    sendheader.seqnum = htonl(start); sendheader.payloadlen = htons(payLen);
    tcpsend->send(sock, &sendheader, (char*)retxMeta->dataprod_p + start, payLen);
}
```

`retransmit.loop` is the `for` loop, one pass per recursive call, run with `nbytes` passes
of fuel; `retransmit.passes` lists the loop variables `nbytes` and `payLen` of each pass.
The count itself is sound: the clamp keeps `nbytes -= payLen` from wrapping, and the loop
stops by its own test after `⌈N / L⌉` passes whose lengths add up to `N`. But the loop
never advances `start`: every message it sends carries the first
block's offset and bytes, whatever the span (`retransmit_seqnum`). Nothing bounds the
request either, so an aligned start past the end of the product makes `out - start`
wrap to nearly `2³²` and the loop reads far past `dataprod_p`.

## Key results

- `retransmit_eq`: for every entry and every request, the messages are `⌈N / L⌉` copies
  of the first block's header and bytes, with `N = (out - start) mod 2³²` and the last
  one shortened to what is left
- `retransmit_seqnum`: every message carries the aligned start as its offset
- `retransmit_in_bounds`: a request that starts inside the product is answered only with
  bytes of the product
- `retransmit_within_block`: a request within one multicast datagram is answered with
  that datagram's offset and bytes, up to the end of the request
- `retransmit_loop_passes`: for all `uint32_t` values `start` and `out`, the loop's passes,
  their lengths and their sum, and that `nbytes` never wraps
-/

namespace Vcmtp

/-- One `RETX_DATA` message: `len` bytes of the product from offset `start`. -/
def retxDataFrame (prodindex start : Nat) (dataprod : List UInt8) (len : Nat) : Frame :=
  ⟨⟨prodindex, start, len, .retxData⟩, (dataprod.drop start).take len⟩

/-- `retransmit`'s block loop with at most `fuel` passes; `payLen` is the `uint16_t`
    carried from pass to pass. -/
def retransmit.loop (prodindex start : Nat) (dataprod : List UInt8) :
    Nat → Nat → Nat → List Frame
  | 0, _, _ => []
  | fuel + 1, nbytes, payLen =>
    if 0 < nbytes then
      let payLen := if payLen > nbytes then u16 nbytes else payLen
      retxDataFrame prodindex start dataprod payLen ::
        retransmit.loop prodindex start dataprod fuel (sub32 nbytes payLen) payLen
    else []

/-- The loop variables at each send of `retransmit`'s `for` loop, with at most `fuel`
    passes: `nbytes` as the test `0 < nbytes` saw it, and `payLen` after the clamp. The
    loop's messages are these `payLen`s (`retransmit.loop_eq_passes`). -/
def retransmit.passes : Nat → Nat → Nat → List (Nat × Nat)
  | 0, _, _ => []
  | fuel + 1, nbytes, payLen =>
    if 0 < nbytes then
      let payLen := if payLen > nbytes then u16 nbytes else payLen
      (nbytes, payLen) :: retransmit.passes fuel (sub32 nbytes payLen) payLen
    else []

/-- `retransmit`: the `RETX_DATA` messages answering the request `recvheader` from the
    entry `retxMeta`, in sending order. A failing send ends the worker (`System`). -/
def retransmit (c : Consts) (recvheader : VcmtpHeader) (retxMeta : RetxMetadata) :
    List Frame :=
  if 0 < recvheader.payloadlen then
    let start := recvheader.seqnum
    let out := min retxMeta.prodLength (u32 (start + recvheader.payloadlen))
    let start := start / c.vcmtpDataLen * c.vcmtpDataLen
    let nbytes := sub32 out start
    retransmit.loop recvheader.prodindex start retxMeta.dataprod nbytes nbytes c.vcmtpDataLen
  else []

/-- `retransEOP`: the `RETX_EOP` answer, a bare header. -/
def retransEOP (recvheader : VcmtpHeader) : Frame :=
  ⟨⟨recvheader.prodindex, 0, 0, .retxEop⟩, []⟩

/-- `rejRetxReq`: the `RETX_REJ` answer for a product that has no entry, a bare header. -/
def rejRetxReq (prodindex : Nat) : Frame :=
  ⟨⟨prodindex, 0, 0, .retxRej⟩, []⟩

/-! ## The block loop -/

@[simp] theorem retransmit.loop_zero (prodindex start : Nat) (dataprod : List UInt8)
    (fuel payLen : Nat) : retransmit.loop prodindex start dataprod fuel 0 payLen = [] := by
  cases fuel <;> simp [retransmit.loop]

@[simp] theorem retransmit.passes_zero (fuel payLen : Nat) :
    retransmit.passes fuel 0 payLen = [] := by
  cases fuel <;> simp [retransmit.passes]

/-- The loop sends one message per pass, of the pass's `payLen`. -/
theorem retransmit.loop_eq_passes (prodindex start : Nat) (dataprod : List UInt8) :
    ∀ fuel nbytes payLen, retransmit.loop prodindex start dataprod fuel nbytes payLen =
      (retransmit.passes fuel nbytes payLen).map
        fun v => retxDataFrame prodindex start dataprod v.2
  | 0, _, _ => rfl
  | fuel + 1, nbytes, payLen => by
    simp only [retransmit.loop, retransmit.passes]
    split <;> simp [retransmit.loop_eq_passes prodindex start dataprod fuel]

/-- One pass with `payLen = L`: the clamp makes `payLen` the smaller of `L` and `nbytes`, so
    `nbytes -= payLen` does not wrap. After a clamp `nbytes` is `0`, so the `payLen` carried
    on no longer matters. -/
theorem retransmit.passes_succ {L n : Nat} (hL16 : L < 2 ^ 16) (hn : 0 < n) (h32 : n < 2 ^ 32)
    (fuel : Nat) :
    retransmit.passes (fuel + 1) n L =
      (n, min L n) :: retransmit.passes fuel (n - min L n) L := by
  rcases Nat.lt_or_ge n L with h | h
  · simp [retransmit.passes, hn, h, Nat.min_eq_right h.le, u16_of_lt (by omega : n < 2 ^ 16),
      sub32_of_le h32 le_rfl]
  · simp [retransmit.passes, hn, Nat.not_lt.2 h, Nat.min_eq_left h, sub32_of_le h32 h]

/-- Started with `payLen = L`, fuel for `⌈n / L⌉` passes and a `uint32_t` count `n`, pass
    `k` sees `nbytes = n - k·L` and sends `min L (n - k·L)` bytes, and there are exactly
    `⌈n / L⌉` passes. -/
theorem retransmit.passes_eq {L : Nat} (hL : 0 < L) (hL16 : L < 2 ^ 16) :
    ∀ fuel n, (n + L - 1) / L ≤ fuel → n < 2 ^ 32 →
      retransmit.passes fuel n L =
        (List.range ((n + L - 1) / L)).map fun k => (n - k * L, min L (n - k * L))
  | 0, n, hf, _ => by rw [eq_zero_of_blocks_eq_zero hL (Nat.le_zero.1 hf)]; simp [hL]
  | fuel + 1, n, hf, h32 => by
    rcases Nat.eq_zero_or_pos n with rfl | hn
    · simp [hL]
    rw [blocks_succ hL hn] at hf ⊢
    rw [retransmit.passes_succ hL16 hn h32, List.range_succ_eq_map,
      retransmit.passes_eq hL hL16 fuel _ (by omega) (by omega)]
    simp only [List.map_cons, List.map_map, Nat.zero_mul, Nat.sub_zero]
    congr 1
    refine List.map_congr_left fun k hk => ?_
    have hk := mul_lt_of_lt_blocks hL (List.mem_range.1 hk)
    have hLn : L ≤ n := Nat.not_lt.1 fun h => by rw [Nat.min_eq_right h.le] at hk; omega
    simp only [Function.comp_apply, Nat.succ_mul, Nat.min_eq_left hLn, Nat.sub_sub,
      Nat.add_comm L]

/-- Each pass takes its `payLen` off `nbytes`, so over a whole run the lengths add up to
    the count the loop started with. -/
theorem retransmit.passes_sum {L : Nat} (hL : 0 < L) (hL16 : L < 2 ^ 16) :
    ∀ fuel n, (n + L - 1) / L ≤ fuel → n < 2 ^ 32 →
      ((retransmit.passes fuel n L).map Prod.snd).sum = n
  | 0, n, hf, _ => by rw [eq_zero_of_blocks_eq_zero hL (Nat.le_zero.1 hf)]; rfl
  | fuel + 1, n, hf, h32 => by
    rcases Nat.eq_zero_or_pos n with rfl | hn
    · simp
    rw [blocks_succ hL hn] at hf
    rw [retransmit.passes_succ hL16 hn h32, List.map_cons, List.sum_cons,
      retransmit.passes_sum hL hL16 fuel _ (by omega) (by omega)]
    omega

/-- The lengths of `⌈n / L⌉` passes: `L` for each but the last, the rest for the last. -/
theorem payLens_eq {L : Nat} (hL : 0 < L) (n : Nat) :
    (List.range ((n + L - 1) / L)).map (fun k => min L (n - k * L)) =
      if (n + L - 1) / L = 0 then []
      else List.replicate ((n + L - 1) / L - 1) L ++ [n - ((n + L - 1) / L - 1) * L] := by
  split
  · simp [*]
  · obtain ⟨K, hK⟩ := Nat.exists_eq_succ_of_ne_zero ‹_›
    have hlast := le_blocks_mul hL n
    rw [hK, Nat.succ_mul] at hlast
    rw [hK, List.range_succ, List.map_append, Nat.succ_sub_one]
    congr 1
    · refine List.eq_replicate_iff.2 ⟨by simp, fun x hx => ?_⟩
      obtain ⟨k, hk, rfl⟩ := List.mem_map.1 hx
      have := mul_lt_of_lt_blocks hL (n := n) (k := k + 1) (by rw [hK]; simpa using hk)
      rw [Nat.succ_mul] at this
      omega
    · simp only [List.map_cons, List.map_nil]
      congr 1; omega

/-- Started with `payLen = L`, enough fuel and a `uint32_t` count `nbytes`, the loop sends
    `⌈nbytes / L⌉` messages from `start`, each of `L` bytes but a shorter last one. -/
theorem retransmit.loop_eq {L : Nat} (hL : 0 < L) (hL16 : L < 2 ^ 16)
    (prodindex start : Nat) (dataprod : List UInt8) :
    ∀ fuel nbytes, nbytes ≤ fuel → nbytes < 2 ^ 32 →
      retransmit.loop prodindex start dataprod fuel nbytes L =
        (List.range ((nbytes + L - 1) / L)).map
          (fun k => retxDataFrame prodindex start dataprod (min L (nbytes - k * L))) :=
  fun fuel nbytes hf h32 => by
    rw [retransmit.loop_eq_passes, retransmit.passes_eq hL hL16 fuel nbytes
      ((blocks_le hL nbytes).trans hf) h32, List.map_map]
    rfl

/-- `retransmit`'s loop over every pair of `uint32_t` values `start` and `out`, with
    `N = (out - start) mod 2³²` and `L = VCMTP_DATA_LEN`. Given fuel for `⌈N / L⌉` passes
    (the fuel `N` that `retransmit` gives is enough) the loop stops by its own test after
    exactly `⌈N / L⌉` passes; each pass but the last sends `L` bytes and the last the rest,
    between `1` and `L`; the lengths add up to `N`; every `nbytes -= payLen` subtracts at
    most `nbytes`, so `nbytes` never wraps; and the messages are those lengths. -/
theorem retransmit_loop_passes (c : Consts) (start out fuel : Nat)
    (hfuel : (sub32 out start + c.vcmtpDataLen - 1) / c.vcmtpDataLen ≤ fuel) :
    let L := c.vcmtpDataLen
    let N := sub32 out start
    let K := (N + L - 1) / L
    let ps := retransmit.passes fuel N L
    (N : Int) = ((out : Int) - start) % 2 ^ 32 ∧ K ≤ N ∧ ps.length = K ∧
      ps.map Prod.snd = (if K = 0 then [] else List.replicate (K - 1) L ++ [N - (K - 1) * L]) ∧
      (0 < K → 0 < N - (K - 1) * L ∧ N - (K - 1) * L ≤ L) ∧
      (ps.map Prod.snd).sum = N ∧
      (∀ v ∈ ps, v.2 ≤ v.1 ∧ sub32 v.1 v.2 = v.1 - v.2) ∧
      ∀ prodindex dataprod, retransmit.loop prodindex start dataprod fuel N L =
        ps.map fun v => retxDataFrame prodindex start dataprod v.2 := by
  have hL := c.dataLen_pos
  have hN : sub32 out start < 2 ^ 32 := Nat.mod_lt _ (by decide)
  have hps := retransmit.passes_eq hL c.lt_u16 fuel _ hfuel hN
  refine ⟨by unfold sub32; omega, blocks_le hL _, by simp [hps],
    by rw [hps, List.map_map]; exact payLens_eq hL _, blocks_last hL,
    retransmit.passes_sum hL c.lt_u16 fuel _ hfuel hN, fun v hv => ?_,
    fun _ _ => retransmit.loop_eq_passes _ _ _ _ _ _⟩
  rw [hps] at hv
  obtain ⟨k, -, rfl⟩ := List.mem_map.1 hv
  exact ⟨Nat.min_le_right _ _, sub32_of_le (by omega) (Nat.min_le_right _ _)⟩

/-- The loop of a request up to the end of S1's 3000-byte product from offset `0`: three
    passes, of `1448`, `1448` and `104` bytes. -/
theorem retransmit_loop_passes_s1 :
    (sub32 3000 0 + 1448 - 1) / 1448 ≤ 3000 ∧
      (retransmit.passes 3000 (sub32 3000 0) 1448).length = 3 ∧
      (retransmit.passes 3000 (sub32 3000 0) 1448).map Prod.snd = [1448, 1448, 104] :=
  ⟨by decide, (retransmit_loop_passes Consts.default 0 3000 3000 (by decide)).2.2.1,
    (retransmit_loop_passes Consts.default 0 3000 3000 (by decide)).2.2.2.1⟩

/-- `retransmit` over every entry and every request with a payload: the count
    `N = (out - start) mod 2³²` of bytes it believes it must send, in messages that all
    start at the aligned start of the request. -/
theorem retransmit_eq (c : Consts) (recvheader : VcmtpHeader) (retxMeta : RetxMetadata)
    (hn : 0 < recvheader.payloadlen) :
    let start := recvheader.seqnum / c.vcmtpDataLen * c.vcmtpDataLen
    let nbytes := sub32 (min retxMeta.prodLength
      (u32 (recvheader.seqnum + recvheader.payloadlen))) start
    retransmit c recvheader retxMeta =
      (List.range ((nbytes + c.vcmtpDataLen - 1) / c.vcmtpDataLen)).map fun k =>
        retxDataFrame recvheader.prodindex start retxMeta.dataprod
          (min c.vcmtpDataLen (nbytes - k * c.vcmtpDataLen)) := by
  dsimp only
  rw [retransmit, if_pos hn]
  exact retransmit.loop_eq c.dataLen_pos c.lt_u16 _ _ _ _ _ le_rfl (Nat.mod_lt _ (by decide))

/-- Every message `retransmit` sends is a `RETX_DATA` block of the requested product from
    the aligned start of the request. -/
theorem mem_retransmit {c : Consts} {recvheader : VcmtpHeader} {retxMeta : RetxMetadata}
    {f : Frame} (hf : f ∈ retransmit c recvheader retxMeta) :
    ∃ len, f = retxDataFrame recvheader.prodindex
      (recvheader.seqnum / c.vcmtpDataLen * c.vcmtpDataLen) retxMeta.dataprod len := by
  rcases Nat.eq_zero_or_pos recvheader.payloadlen with h0 | hn
  · simp [retransmit, h0] at hf
  · rw [retransmit_eq c recvheader retxMeta hn] at hf
    obtain ⟨k, -, rfl⟩ := List.mem_map.1 hf
    exact ⟨_, rfl⟩

/-- Every message `retransmit` sends carries the aligned start of the request. -/
theorem retransmit_seqnum (c : Consts) (recvheader : VcmtpHeader) (retxMeta : RetxMetadata) :
    ∀ f ∈ retransmit c recvheader retxMeta,
      f.header.seqnum = recvheader.seqnum / c.vcmtpDataLen * c.vcmtpDataLen := by
  intro f hf
  obtain ⟨_, rfl⟩ := mem_retransmit hf
  rfl

/-! ## Against the multicast -/

/-- A request that lies within one `MEM_DATA` datagram `b` that `sendData` multicast for
    the entry's product is answered with one `RETX_DATA` message: `b`'s offset, and `b`'s
    bytes up to the end of the request. -/
theorem retransmit_within_block (c : Consts) (recvheader : VcmtpHeader)
    (retxMeta : RetxMetadata) {k : Nat} {b : Frame} (hsize : retxMeta.prodLength < 2 ^ 32)
    (hb : (sendData c recvheader.prodindex retxMeta.dataprod retxMeta.prodLength)[k]? = some b)
    (hpos : 0 < recvheader.payloadlen) (hlo : b.header.seqnum ≤ recvheader.seqnum)
    (hhi : recvheader.seqnum + recvheader.payloadlen ≤ b.header.seqnum + b.header.payloadlen) :
    let len := recvheader.seqnum + recvheader.payloadlen - b.header.seqnum
    retransmit c recvheader retxMeta =
      [⟨{ b.header with payloadlen := len, flags := .retxData }, b.body.take len⟩] := by
  obtain ⟨-, rfl⟩ := getElem?_sendData hsize hb
  simp only [memDataBlock] at hlo hhi ⊢
  have hL := c.dataLen_pos
  have hdiv : recvheader.seqnum / c.vcmtpDataLen = k :=
    Nat.div_eq_of_lt_le hlo (by rw [Nat.succ_mul]; omega)
  have hend : min retxMeta.prodLength (u32 (recvheader.seqnum + recvheader.payloadlen)) =
      recvheader.seqnum + recvheader.payloadlen := by
    rw [u32_of_lt (by omega), Nat.min_eq_right (by omega)]
  -- the span from the block's start to the request's end: one pass of the loop
  have hN : sub32 (recvheader.seqnum + recvheader.payloadlen) (k * c.vcmtpDataLen) =
      recvheader.seqnum + recvheader.payloadlen - k * c.vcmtpDataLen :=
    sub32_of_le (by omega) (by omega)
  have hone : (recvheader.seqnum + recvheader.payloadlen - k * c.vcmtpDataLen +
      c.vcmtpDataLen - 1) / c.vcmtpDataLen = 1 :=
    Nat.div_eq_of_lt_le (by omega) (by omega)
  have hmin : min c.vcmtpDataLen (recvheader.seqnum + recvheader.payloadlen -
      k * c.vcmtpDataLen) = recvheader.seqnum + recvheader.payloadlen - k * c.vcmtpDataLen :=
    Nat.min_eq_right (by omega)
  rw [retransmit_eq c recvheader retxMeta hpos]
  simp only [hdiv, hend, hN, hone, show List.range 1 = [0] from rfl, List.map_cons, List.map_nil,
    Nat.zero_mul, Nat.sub_zero, hmin, retxDataFrame, List.take_take,
    Nat.min_eq_left (by omega : recvheader.seqnum + recvheader.payloadlen - k * c.vcmtpDataLen ≤
      min c.vcmtpDataLen (retxMeta.prodLength - k * c.vcmtpDataLen))]

/-- A build with 6-byte blocks, the least `VCMTP_DATA_LEN` the BOP prefix leaves room for. -/
def Consts.six : Consts := ⟨6, le_rfl, by decide⟩

/-- The entry of a 10-byte product, index 0, whose byte at offset `i` is `i`. -/
def entry10 : RetxMetadata := ⟨0, 10, 0, [], [0, 1, 2, 3, 4, 5, 6, 7, 8, 9], []⟩

/-- With 6-byte blocks, bytes 7 and 8 lie in the second datagram (offsets 6 to 9): the
    answer resends offsets 6 to 8 of it. -/
theorem retransmit_within_second_block :
    (sendData Consts.six 0 entry10.dataprod entry10.prodLength)[1]? =
        some ⟨⟨0, 6, 4, .memData⟩, [6, 7, 8, 9]⟩ ∧
      retransmit Consts.six ⟨0, 7, 2, .retxReq⟩ entry10 = [⟨⟨0, 6, 3, .retxData⟩, [6, 7, 8]⟩] :=
  have hb : (sendData Consts.six 0 entry10.dataprod entry10.prodLength)[1]? =
      some ⟨⟨0, 6, 4, .memData⟩, [6, 7, 8, 9]⟩ := by decide
  ⟨hb, retransmit_within_block Consts.six ⟨0, 7, 2, .retxReq⟩ entry10 (by decide) hb
    (by decide) (by decide) (by decide)⟩

/-! ## Reads stay inside the product -/

/-- A request that starts inside the product, and whose end fits a `uint32_t`, makes
    `retransmit` read only inside the product: `out - start` does not wrap, and every message
    ends at most at `out`. Only a start past the end, or an end that wraps, makes the loop
    read past `dataprod_p`. -/
theorem retransmit_in_bounds (c : Consts) (recvheader : VcmtpHeader) (retxMeta : RetxMetadata)
    (hs : recvheader.seqnum < retxMeta.prodLength)
    (h32 : recvheader.seqnum + recvheader.payloadlen < 2 ^ 32) :
    ∀ f ∈ retransmit c recvheader retxMeta,
      f.header.seqnum + f.header.payloadlen ≤ retxMeta.prodLength := by
  intro f hf
  rcases Nat.eq_zero_or_pos recvheader.payloadlen with h0 | hn
  · simp [retransmit, h0] at hf
  rw [retransmit_eq c recvheader retxMeta hn] at hf
  obtain ⟨k, -, rfl⟩ := List.mem_map.1 hf
  have hstart : recvheader.seqnum / c.vcmtpDataLen * c.vcmtpDataLen ≤ recvheader.seqnum :=
    Nat.div_mul_le_self _ _
  have hout : recvheader.seqnum ≤
      min retxMeta.prodLength (u32 (recvheader.seqnum + recvheader.payloadlen)) := by
    rw [u32_of_lt h32]; omega
  have hu : u32 (recvheader.seqnum + recvheader.payloadlen) < 2 ^ 32 := Nat.mod_lt _ (by decide)
  rw [sub32_of_le (lt_of_le_of_lt (Nat.min_le_right _ _) hu) (hstart.trans hout)]
  simp only [retxDataFrame]
  omega

/-- A request for bytes 7 to 26 of the 10-byte product, with 6-byte blocks: the answer
    stays within the product. -/
theorem retransmit_in_bounds_tail :
    (retransmit Consts.six ⟨0, 7, 20, .retxReq⟩ entry10).all
      (fun f => f.header.seqnum + f.header.payloadlen ≤ entry10.prodLength) = true :=
  List.all_eq_true.2 fun f hf => decide_eq_true
    (retransmit_in_bounds Consts.six ⟨0, 7, 20, .retxReq⟩ entry10 (by decide) (by decide) f hf)

/-- The entry of spec scenario S1's product: 3000 bytes `0x41`, index 0. -/
def s1Entry : RetxMetadata := ⟨0, 3000, 0, [], List.replicate 3000 0x41, [1]⟩

/-- A request for the first two blocks of S1's product is answered with the first block
    twice: the second message repeats offset 0 where offset 1448 is due. -/
theorem retransmit_two_block_request :
    retransmit Consts.default ⟨0, 0, 2896, .retxReq⟩ s1Entry =
      [retxDataFrame 0 0 s1Entry.dataprod 1448, retxDataFrame 0 0 s1Entry.dataprod 1448] := by
  rfl

/-- The entry of a 100-byte product, index 0. -/
def entry100 : RetxMetadata := ⟨0, 100, 0, [], List.replicate 100 0, []⟩

/-- A one-byte request at offset 2896 of a 100-byte product: `out - start` wraps, the
    first message claims offsets 2896..4344 of the product, and 2966136 messages follow
    where at most `1 + 1447` bytes were asked for. -/
theorem retransmit_request_past_end :
    (retransmit Consts.default ⟨0, 2896, 1, .retxReq⟩ entry100).head?.map (·.header) =
        some ⟨0, 2896, 1448, .retxData⟩ ∧
      (retransmit Consts.default ⟨0, 2896, 1, .retxReq⟩ entry100).length = 2966136 := by
  refine ⟨by decide, ?_⟩
  rw [retransmit_eq _ _ _ (by decide)]
  simp [sub32, u32, Consts.default, entry100]

end Vcmtp
