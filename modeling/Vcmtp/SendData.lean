import Vcmtp.Basic

/-!
# Multicasting the data blocks: `sendData`

`vcmtpSendv3::sendData` cuts a product into `MEM_DATA` datagrams:

```
while (dataSize > 0) {
    payloadlen = dataSize < VCMTP_DATA_LEN ? dataSize : VCMTP_DATA_LEN;
    header.seqnum = htonl(seqNum); header.payloadlen = htons(payloadlen);
    udpsend->SendData(&header, sizeof(header), data, payloadlen);
    dataSize -= payloadlen; data = (char*)data + payloadlen; seqNum += payloadlen;
}
```

`sendData.loop` is that loop, one pass per recursive call; `sendData` runs it with
`dataSize` passes of fuel, enough because every pass consumes at least one byte. The
layout the loop is meant to produce is `memDataBlocks`: block `k` starts at `k·L` and
holds `min L (n - k·L)` bytes, for the `⌈n / L⌉` blocks of an `n`-byte product.

## Key results

- `sendData_eq_memDataBlocks`: for products of at most `2³² - 1` bytes, the loop sends
  exactly `memDataBlocks`; in particular the `uint32_t` `seqNum` never wraps
- `sendData_bodies`: the bodies of the datagrams concatenate to the product
- `sendData_frames`: the two together, block by block
-/

namespace Vcmtp

/-- `sendData`'s loop with at most `fuel` passes: `data` is what the pointer has left,
    `dataSize` the bytes still to send and `seqNum` the `uint32_t` offset of the next
    block. Failing sends are the caller's business (`Sender`); here every send succeeds. -/
def sendData.loop (c : Consts) (prodIndex : Nat) :
    Nat → List UInt8 → Nat → Nat → List Frame
  | 0, _, _, _ => []
  | fuel + 1, data, dataSize, seqNum =>
    if 0 < dataSize then
      let payloadlen := if dataSize < c.vcmtpDataLen then dataSize else c.vcmtpDataLen
      ⟨⟨prodIndex, seqNum, u16 payloadlen, .memData⟩, data.take payloadlen⟩ ::
        sendData.loop c prodIndex fuel (data.drop payloadlen) (dataSize - payloadlen)
          (u32 (seqNum + payloadlen))
    else []

/-- `sendData`: the `MEM_DATA` datagrams of product `prodIndex`, in sending order. -/
def sendData (c : Consts) (prodIndex : Nat) (data : List UInt8) (dataSize : Nat) :
    List Frame :=
  sendData.loop c prodIndex dataSize data dataSize 0

/-- Block `k` of an `n`-byte product `D`: offset `k·L`, `min L (n - k·L)` bytes. -/
def memDataBlock (c : Consts) (prodIndex : Nat) (D : List UInt8) (n k : Nat) : Frame :=
  let len := min c.vcmtpDataLen (n - k * c.vcmtpDataLen)
  ⟨⟨prodIndex, k * c.vcmtpDataLen, len, .memData⟩, (D.drop (k * c.vcmtpDataLen)).take len⟩

/-- The `⌈n / L⌉` blocks of an `n`-byte product. -/
def memDataBlocks (c : Consts) (prodIndex : Nat) (D : List UInt8) (n : Nat) : List Frame :=
  (List.range ((n + c.vcmtpDataLen - 1) / c.vcmtpDataLen)).map (memDataBlock c prodIndex D n)

/-! ## Block arithmetic -/

/-- The loop's `payloadlen`. -/
theorem payloadlen_eq_min (n L : Nat) : (if n < L then n else L) = min L n := by
  split <;> omega

/-- A span of `n > 0` bytes is one block more than what is left after its first block. -/
theorem blocks_succ {L n : Nat} (hL : 0 < L) (hn : 0 < n) :
    (n + L - 1) / L = (n - min L n + L - 1) / L + 1 := by
  rcases Nat.le_total n L with h | h
  · rw [Nat.min_eq_right h, Nat.sub_self, Nat.zero_add, Nat.div_eq_of_lt (by omega : L - 1 < L)]
    exact Nat.div_eq_of_lt_le (by omega) (by omega)
  · rw [Nat.min_eq_left h, ← Nat.add_div_right (n - L + L - 1) hL]; congr 1; omega

@[simp] theorem blocks_zero {L : Nat} (hL : 0 < L) : (L - 1) / L = 0 :=
  Nat.div_eq_of_lt (by omega)

/-- Every block index below `⌈n / L⌉` starts inside the product. -/
theorem mul_lt_of_lt_blocks {L n k : Nat} (hL : 0 < L) (hk : k < (n + L - 1) / L) :
    k * L < n := by
  have h := (Nat.le_div_iff_mul_le hL).1 hk
  rw [Nat.succ_mul] at h; omega

/-- No block means no byte. -/
theorem eq_zero_of_blocks_eq_zero {L n : Nat} (hL : 0 < L) (h : (n + L - 1) / L = 0) :
    n = 0 := by
  have := (Nat.div_eq_zero_iff hL).1 h; omega

/-- A span of `n` bytes has at most `n` blocks. -/
theorem blocks_le {L : Nat} (hL : 0 < L) (n : Nat) : (n + L - 1) / L ≤ n := by
  rcases n with _ | n
  · simp [blocks_zero hL]
  · apply Nat.div_le_of_le_mul
    have := Nat.le_mul_of_pos_left n hL
    rw [Nat.mul_succ]; omega

/-- `⌈n / L⌉` blocks of `L` bytes cover the span. -/
theorem le_blocks_mul {L : Nat} (hL : 0 < L) (n : Nat) : n ≤ (n + L - 1) / L * L := by
  have := Nat.lt_mul_div_succ (n + L - 1) hL
  rw [Nat.mul_succ, Nat.mul_comm] at this; omega

/-- The last of `⌈n / L⌉ > 0` blocks holds what is left, between `1` and `L` bytes. -/
theorem blocks_last {L : Nat} (hL : 0 < L) {n : Nat} (hK : 0 < (n + L - 1) / L) :
    0 < n - ((n + L - 1) / L - 1) * L ∧ n - ((n + L - 1) / L - 1) * L ≤ L := by
  have h1 := mul_lt_of_lt_blocks hL (n := n) (k := (n + L - 1) / L - 1) (by omega)
  have h2 := le_blocks_mul hL n
  obtain ⟨K, hK'⟩ := Nat.exists_eq_succ_of_ne_zero hK.ne'
  rw [hK', Nat.succ_sub_one] at h1 ⊢
  rw [hK', Nat.succ_mul] at h2
  omega

/-! ## The loop -/

/-- Pass `k` of the loop started on `data`, `dataSize` and `seqNum`. -/
private def pass (c : Consts) (prodIndex : Nat) (data : List UInt8) (dataSize seqNum k : Nat) :
    Frame :=
  let len := min c.vcmtpDataLen (dataSize - k * c.vcmtpDataLen)
  ⟨⟨prodIndex, seqNum + k * c.vcmtpDataLen, len, .memData⟩,
    (data.drop (k * c.vcmtpDataLen)).take len⟩

/-- Pass `k + 1` of a loop is pass `k` of the loop started after the first block. -/
private theorem pass_succ (c : Consts) (prodIndex : Nat) (data : List UInt8)
    (dataSize seqNum k : Nat) :
    pass c prodIndex data dataSize seqNum (k + 1) =
      pass c prodIndex (data.drop c.vcmtpDataLen) (dataSize - c.vcmtpDataLen)
        (seqNum + c.vcmtpDataLen) k := by
  simp only [pass, Nat.succ_mul, List.drop_drop, Nat.sub_sub]
  rw [Nat.add_comm c.vcmtpDataLen (k * _), Nat.add_assoc, Nat.add_comm c.vcmtpDataLen]

/-- With enough fuel and no `uint32_t` wrap, the loop makes the passes `pass 0, pass 1, …`,
    `⌈dataSize / L⌉` of them. -/
private theorem loop_eq (c : Consts) (prodIndex : Nat) :
    ∀ fuel data dataSize seqNum, dataSize ≤ fuel → seqNum + dataSize < 2 ^ 32 →
      sendData.loop c prodIndex fuel data dataSize seqNum =
        (List.range ((dataSize + c.vcmtpDataLen - 1) / c.vcmtpDataLen)).map
          (pass c prodIndex data dataSize seqNum)
  | 0, data, dataSize, seqNum, hf, _ => by
    obtain rfl : dataSize = 0 := by omega
    simp [sendData.loop, c.dataLen_pos]
  | fuel + 1, data, dataSize, seqNum, hf, hs => by
    have hL := c.dataLen_pos
    rcases Nat.eq_zero_or_pos dataSize with rfl | hn
    · simp [sendData.loop, hL]
    have hm : min c.vcmtpDataLen dataSize < 2 ^ 16 := by have := c.lt_u16; omega
    have ih := loop_eq c prodIndex fuel (data.drop (min c.vcmtpDataLen dataSize))
      (dataSize - min c.vcmtpDataLen dataSize) (seqNum + min c.vcmtpDataLen dataSize)
      (by omega) (by omega)
    rw [blocks_succ hL hn, List.range_succ_eq_map]
    simp only [sendData.loop, hn, if_true, payloadlen_eq_min, u16_of_lt hm,
      u32_of_lt (show seqNum + min c.vcmtpDataLen dataSize < 2 ^ 32 by omega), List.map_cons,
      List.map_map, ih]
    congr 1
    · simp [pass]
    · refine List.map_congr_left fun k hk => ?_
      have hk := mul_lt_of_lt_blocks hL (List.mem_range.1 hk)
      rw [Nat.min_eq_left (by omega), Function.comp_apply, Nat.succ_eq_add_one, pass_succ]

/-- The bodies of the loop's datagrams are the first `dataSize` bytes of `data`. -/
private theorem loop_bodies (c : Consts) (prodIndex : Nat) :
    ∀ fuel data dataSize seqNum, dataSize ≤ fuel →
      ((sendData.loop c prodIndex fuel data dataSize seqNum).map (·.body)).flatten =
        data.take dataSize
  | 0, data, dataSize, seqNum, hf => by
    obtain rfl : dataSize = 0 := by omega
    simp [sendData.loop]
  | fuel + 1, data, dataSize, seqNum, hf => by
    have hL := c.dataLen_pos
    rcases Nat.eq_zero_or_pos dataSize with rfl | hn
    · simp [sendData.loop]
    have ih := loop_bodies c prodIndex fuel (data.drop (min c.vcmtpDataLen dataSize))
      (dataSize - min c.vcmtpDataLen dataSize) (u32 (seqNum + min c.vcmtpDataLen dataSize))
      (by omega)
    simp only [sendData.loop, hn, if_true, payloadlen_eq_min, List.map_cons,
      List.flatten_cons, ih, ← List.take_add, Nat.add_sub_cancel' (Nat.min_le_right _ _)]

/-! ## `sendData` -/

/-- For a product of at most `2³² - 1` bytes, `sendData` sends exactly the blocks of
    `memDataBlocks`. -/
theorem sendData_eq_memDataBlocks (c : Consts) (prodIndex : Nat) (D : List UInt8)
    {dataSize : Nat} (hsize : dataSize ≤ 2 ^ 32 - 1) :
    sendData c prodIndex D dataSize = memDataBlocks c prodIndex D dataSize := by
  rw [sendData, loop_eq c prodIndex _ _ _ _ le_rfl (by omega), memDataBlocks]
  refine List.map_congr_left fun k _ => ?_
  simp [pass, memDataBlock]

/-- The bodies of `sendData`'s datagrams concatenate to the product. -/
theorem sendData_bodies (c : Consts) (prodIndex : Nat) (D : List UInt8) :
    ((sendData c prodIndex D D.length).map (·.body)).flatten = D := by
  rw [sendData, loop_bodies c prodIndex _ _ _ _ le_rfl, List.take_length]

/-- Every datagram `sendData` sends is a `MEM_DATA` datagram of product `prodIndex`. -/
theorem sendData_header (c : Consts) (prodIndex : Nat) (D : List UInt8) (dataSize : Nat) :
    ∀ f ∈ sendData c prodIndex D dataSize,
      f.header.prodindex = prodIndex ∧ f.header.flags = .memData := by
  suffices ∀ fuel data dataSize seqNum,
      ∀ f ∈ sendData.loop c prodIndex fuel data dataSize seqNum,
        f.header.prodindex = prodIndex ∧ f.header.flags = .memData from this _ _ _ _
  intro fuel
  induction fuel with
  | zero => simp [sendData.loop]
  | succ fuel ih =>
    intro data dataSize seqNum f hf
    simp only [sendData.loop] at hf
    split at hf
    · rcases List.mem_cons.1 hf with rfl | hf
      · exact ⟨rfl, rfl⟩
      · exact ih _ _ _ f hf
    · simp at hf

/-- `memDataBlocks` has `⌈n / L⌉` blocks, block `k` as `memDataBlock` gives it. -/
@[simp] theorem length_memDataBlocks (c : Consts) (prodIndex : Nat) (D : List UInt8) (n : Nat) :
    (memDataBlocks c prodIndex D n).length = (n + c.vcmtpDataLen - 1) / c.vcmtpDataLen := by
  simp [memDataBlocks]

theorem getElem_memDataBlocks (c : Consts) (prodIndex : Nat) (D : List UInt8) (n k : Nat)
    (hk : k < (memDataBlocks c prodIndex D n).length) :
    (memDataBlocks c prodIndex D n)[k] = memDataBlock c prodIndex D n k := by
  simp [memDataBlocks]

/-- The `k`-th datagram `sendData` multicasts for a product of less than `2³²` bytes is
    block `k` of `memDataBlocks`. -/
theorem getElem?_sendData {c : Consts} {prodIndex : Nat} {D : List UInt8} {n k : Nat}
    {b : Frame} (hsize : n < 2 ^ 32) (hb : (sendData c prodIndex D n)[k]? = some b) :
    k < (n + c.vcmtpDataLen - 1) / c.vcmtpDataLen ∧ memDataBlock c prodIndex D n k = b := by
  rw [sendData_eq_memDataBlocks c prodIndex D (by omega)] at hb
  obtain ⟨hk, rfl⟩ := List.getElem?_eq_some_iff.1 hb
  rw [length_memDataBlocks] at hk
  exact ⟨hk, (getElem_memDataBlocks c prodIndex D n k _).symm⟩

/-- `sendData` over every product of at most `2³² - 1` bytes: `⌈n / L⌉` datagrams, the
    `k`-th at offset `k·L` (a `uint32_t` value, so without wrap) with a payload of
    `min L (n - k·L)` bytes, between one and `L`, taken from offset `k·L` of the product;
    together they carry the product exactly once. -/
theorem sendData_frames (c : Consts) (prodIndex : Nat) (D : List UInt8) (dataSize : Nat)
    (hsize : dataSize ≤ 2 ^ 32 - 1) (hD : D.length = dataSize) :
    (sendData c prodIndex D dataSize).length = (dataSize + c.vcmtpDataLen - 1) / c.vcmtpDataLen ∧
      (∀ k (hk : k < (sendData c prodIndex D dataSize).length),
        let len := min c.vcmtpDataLen (dataSize - k * c.vcmtpDataLen)
        (sendData c prodIndex D dataSize)[k] =
            ⟨⟨prodIndex, k * c.vcmtpDataLen, len, .memData⟩,
              (D.drop (k * c.vcmtpDataLen)).take len⟩ ∧
          k * c.vcmtpDataLen < 2 ^ 32 ∧ 0 < len ∧ len ≤ c.vcmtpDataLen) ∧
      ((sendData c prodIndex D dataSize).map (·.body)).flatten = D := by
  have hL := c.dataLen_pos
  have heq := sendData_eq_memDataBlocks c prodIndex D hsize
  refine ⟨by rw [heq, length_memDataBlocks], fun k hk => ?_, by rw [← hD, sendData_bodies]⟩
  have hkn : k * c.vcmtpDataLen < dataSize :=
    mul_lt_of_lt_blocks hL (by rw [heq, length_memDataBlocks] at hk; exact hk)
  dsimp only
  simp only [heq, getElem_memDataBlocks, memDataBlock, true_and]
  omega

/-- `sendData_frames` at S1's product: 3000 bytes `0x41`, three datagrams of 1448, 1448 and
    104 bytes. -/
theorem sendData_frames_three_blocks :
    (sendData Consts.default 0 (.replicate 3000 0x41) 3000).length =
        (3000 + Consts.default.vcmtpDataLen - 1) / Consts.default.vcmtpDataLen ∧
      (∀ k (hk : k < (sendData Consts.default 0 (.replicate 3000 0x41) 3000).length),
        let len := min Consts.default.vcmtpDataLen (3000 - k * Consts.default.vcmtpDataLen)
        (sendData Consts.default 0 (.replicate 3000 0x41) 3000)[k] =
            ⟨⟨0, k * Consts.default.vcmtpDataLen, len, .memData⟩,
              ((List.replicate 3000 0x41).drop (k * Consts.default.vcmtpDataLen)).take len⟩ ∧
          k * Consts.default.vcmtpDataLen < 2 ^ 32 ∧ 0 < len ∧
            len ≤ Consts.default.vcmtpDataLen) ∧
      ((sendData Consts.default 0 (.replicate 3000 0x41) 3000).map (·.body)).flatten =
        .replicate 3000 0x41 :=
  sendData_frames Consts.default 0 _ 3000 (by decide) (List.length_replicate _ _)

/-- Three blocks: `⌈3000 / 1448⌉ = 3`. -/
example : (3000 + Consts.default.vcmtpDataLen - 1) / Consts.default.vcmtpDataLen = 3 := by
  decide

end Vcmtp
