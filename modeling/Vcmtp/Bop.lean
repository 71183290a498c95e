import Vcmtp.Basic

/-!
# The BOP and its retransmission

A product's beginning-of-product message exists twice in the sender. `SendBOPMessage`
multicasts it as one gathered datagram (header, the `BOPMsg` prefix `prodsize | metasize`,
then the caller's metadata), while `retransBOP` rebuilds it from the retransmission entry
that `addRetxMetadata` stored (a `BOPMsg` with the metadata copied in, sent up to
`payloadlen` bytes). The two paths narrow the sizes differently: `dataSize` becomes the
`uint32_t` `prodSize` of one and the `uint32_t` `prodLength` of the other, `metaSize` an
`unsigned` in one and the `uint16_t` `RetxMetadata::metaSize` in the other.

## Key results

- `retransBOP_eq_sendBOPMessage`: for every call that passes `sendProduct`'s checks, the
  retransmitted BOP is the multicast BOP with the flag `RETX_BOP`, and both carry
  `6 + metaSize` body bytes, as their `payloadlen` says
- `parseBOPMsg_bop`: a receiver reading either BOP recovers the product's size and the
  metadata the application passed
-/

namespace Vcmtp

/-- The bytes of a `BOPMsg` prefix: `htonl(prodsize)` then `htons(metasize)`. -/
def bopMsgPrefix (prodsize metasize : Nat) : List UInt8 := be32 prodsize ++ be16 metasize

@[simp] theorem length_bopMsgPrefix (prodsize metasize : Nat) :
    (bopMsgPrefix prodsize metasize).length = bopMsgPrefixLen := rfl

/-- `SendBOPMessage`: the BOP datagram of product `prodIndex`, gathered from the header,
    the first `sizeof(bopMsg) - sizeof(bopMsg.metadata)` bytes of `bopMsg`, and `metaSize`
    bytes at `metadata` (given by the bytes it points to; empty for a null pointer). -/
def sendBOPMessage (c : Consts) (prodIndex prodSize : Nat) (metadata : List UInt8)
    (metaSize : Nat) : Frame :=
  ⟨⟨prodIndex, 0, u16 (metaSize + (c.vcmtpDataLen - c.availBopLen)), .bop⟩,
    (bopMsgPrefix prodSize (u16 metaSize)).take bopMsgPrefixLen ++ metadata.take metaSize⟩

/-- The entry `vcmtpSendv3::addRetxMetadata` builds for a product before inserting it:
    the sizes narrowed to the entry's `uint32_t` and `uint16_t` fields, the caller's
    pointers, and every connected socket as an unfinished receiver. -/
def newRetxMetadata (prodIndex : Nat) (data : List UInt8) (dataSize : Nat)
    (metadata : List UInt8) (metaSize : Nat) (connSockList : List Nat) : RetxMetadata where
  prodindex := prodIndex
  prodLength := u32 dataSize
  metaSize := u16 metaSize
  metadata := metadata
  dataprod := data
  unfinReceivers := connSockList

/-- `retransBOP`: the `RETX_BOP` answer to `recvheader` from the entry `retxMeta`. The
    metadata is copied into `bopMsg.metadata`, and the first `payloadlen` bytes of
    `bopMsg` are sent; bytes of the array past the copy are never reached, since
    `payloadlen` is at most the prefix and the copy. -/
def retransBOP (c : Consts) (recvheader : VcmtpHeader) (retxMeta : RetxMetadata) : Frame :=
  let payloadlen := u16 (retxMeta.metaSize + (c.vcmtpDataLen - c.availBopLen))
  ⟨⟨recvheader.prodindex, 0, payloadlen, .retxBop⟩,
    (bopMsgPrefix retxMeta.prodLength retxMeta.metaSize ++
      retxMeta.metadata.take retxMeta.metaSize).take payloadlen⟩

/-- The arguments `sendProduct` accepts for the metadata: a non-null pointer to at least
    `metaSize ≤ AVAIL_BOP_LEN` bytes, or a null pointer with `metaSize = 0`. -/
def MetaArgsValid (c : Consts) (metadata : Option (List UInt8)) (metaSize : Nat) : Prop :=
  match metadata with
  | some m => metaSize ≤ c.availBopLen ∧ metaSize ≤ m.length
  | none => metaSize = 0

/-- Valid metadata arguments fit the BOP block and the caller's buffer. -/
theorem MetaArgsValid.bounds {c : Consts} {metadata : Option (List UInt8)} {metaSize : Nat}
    (h : MetaArgsValid c metadata metaSize) :
    metaSize ≤ c.availBopLen ∧ metaSize ≤ (metadata.getD []).length := by
  cases metadata with
  | some m => exact h
  | none => simp only [MetaArgsValid] at h; simp [h]

/-- For every product that passes `sendProduct`'s checks and every request for it, the
    BOP `retransBOP` builds from the stored entry is the multicast BOP with the flag
    `RETX_BOP`, and the body of both is `prodsize`, `metasize` and the metadata, as
    many bytes as `payloadlen` says. -/
theorem retransBOP_eq_sendBOPMessage (c : Consts) (prodIndex : Nat) (data : List UInt8)
    (dataSize : Nat) (metadata : Option (List UInt8)) (metaSize : Nat)
    (connSockList : List Nat) (recvheader : VcmtpHeader)
    (hsize : dataSize ≤ 2 ^ 32 - 1) (hmeta : MetaArgsValid c metadata metaSize)
    (hreq : recvheader.prodindex = prodIndex) :
    let bop := sendBOPMessage c prodIndex (u32 dataSize) (metadata.getD []) metaSize
    let retx := retransBOP c recvheader
      (newRetxMetadata prodIndex data dataSize (metadata.getD []) metaSize connSockList)
    retx.header = { bop.header with flags := .retxBop } ∧ retx.body = bop.body ∧
      bop.body = be32 dataSize ++ be16 metaSize ++ (metadata.getD []).take metaSize ∧
      bop.header.payloadlen = bop.body.length ∧ bop.body.length = 6 + metaSize := by
  obtain ⟨havail, hlen⟩ := hmeta.bounds
  have hprefix := c.prefix_le
  have hL := c.lt_u16
  unfold Consts.availBopLen at havail
  have hlen' : ((metadata.getD []).take metaSize).length = metaSize := by simp [hlen]
  have hb : (bopMsgPrefix dataSize metaSize).take bopMsgPrefixLen =
      bopMsgPrefix dataSize metaSize := List.take_of_length_le (by simp)
  have hr : (bopMsgPrefix dataSize metaSize ++ (metadata.getD []).take metaSize).take
      (metaSize + bopMsgPrefixLen) =
        bopMsgPrefix dataSize metaSize ++ (metadata.getD []).take metaSize :=
    List.take_of_length_le (by simp [hlen']; omega)
  simp only [sendBOPMessage, retransBOP, newRetxMetadata, Consts.dataLen_sub_availBopLen,
    u16_of_lt (show metaSize < 2 ^ 16 by omega), u32_of_lt (show dataSize < 2 ^ 32 by omega),
    u16_of_lt (show metaSize + bopMsgPrefixLen < 2 ^ 16 by omega), hreq, hb, hr, true_and]
  refine ⟨by simp [bopMsgPrefix], ?_, by simp [hlen', bopMsgPrefixLen]⟩
  simp [hlen', bopMsgPrefixLen]; omega

/-- `retransBOP_eq_sendBOPMessage` for a 3000-byte product with two bytes of metadata. -/
theorem retransBOP_eq_sendBOPMessage_s5 :
    let bop := sendBOPMessage Consts.default 0 (u32 3000) ([7, 9] : List UInt8) 2
    let retx := retransBOP Consts.default ⟨0, 0, 0, .bopReq⟩
      (newRetxMetadata 0 [] 3000 [7, 9] 2 [4])
    retx.header = { bop.header with flags := .retxBop } ∧ retx.body = bop.body ∧
      bop.body = be32 3000 ++ be16 2 ++ ([7, 9] : List UInt8).take 2 ∧
      bop.header.payloadlen = bop.body.length ∧ bop.body.length = 6 + 2 :=
  retransBOP_eq_sendBOPMessage Consts.default 0 [] 3000 (some [7, 9]) 2 [4] ⟨0, 0, 0, .bopReq⟩
    (by decide) ⟨by decide, by decide⟩ rfl

/-! ## What a receiver reads -/

/-- Modelled from the spec (the receiver is not among the sources): a receiver reads a
    `BOPMsg` body as `prodsize` from four bytes and `metasize` from two, both in network
    order, then `metasize` bytes of metadata; `none` if the body is too short. -/
def parseBOPMsg : List UInt8 → Option (Nat × Nat × List UInt8)
  | b0 :: b1 :: b2 :: b3 :: m0 :: m1 :: rest =>
    let metasize := m0.toNat * 2 ^ 8 + m1.toNat
    if metasize ≤ rest.length then
      some (b0.toNat * 2 ^ 24 + b1.toNat * 2 ^ 16 + b2.toNat * 2 ^ 8 + b3.toNat, metasize,
        rest.take metasize)
    else none
  | _ => none

private theorem toNat_ofNat_u8 (n : Nat) : (UInt8.ofNat n).toNat = n % 256 := rfl

/-- The `BOPMsg` format round-trips: a receiver reads back the sizes and the metadata. -/
theorem parseBOPMsg_bopMsgPrefix {prodsize metasize : Nat} {metadata : List UInt8}
    (hp : prodsize < 2 ^ 32) (hm : metasize < 2 ^ 16) (hmd : metasize ≤ metadata.length) :
    parseBOPMsg (bopMsgPrefix prodsize metasize ++ metadata) =
      some (prodsize, metasize, metadata.take metasize) := by
  have h16 : (metasize / 2 ^ 8 % 256) * 2 ^ 8 + metasize % 256 = metasize := by omega
  have h32 : (prodsize / 2 ^ 24 % 256) * 2 ^ 24 + (prodsize / 2 ^ 16 % 256) * 2 ^ 16 +
      (prodsize / 2 ^ 8 % 256) * 2 ^ 8 + prodsize % 256 = prodsize := by omega
  simp only [bopMsgPrefix, be32, be16, List.cons_append, List.nil_append, parseBOPMsg,
    toNat_ofNat_u8, h16, h32, if_pos hmd]

/-- The body `SendBOPMessage` multicasts for a call that passes `sendProduct`'s checks. -/
theorem sendBOPMessage_body {c : Consts} {prodIndex dataSize metaSize : Nat}
    {metadata : Option (List UInt8)} (hsize : dataSize ≤ 2 ^ 32 - 1)
    (hmeta : MetaArgsValid c metadata metaSize) :
    (sendBOPMessage c prodIndex (u32 dataSize) (metadata.getD []) metaSize).body =
      bopMsgPrefix dataSize metaSize ++ (metadata.getD []).take metaSize := by
  obtain ⟨havail, -⟩ := hmeta.bounds
  have := c.lt_u16
  unfold Consts.availBopLen at havail
  simp only [sendBOPMessage, u32_of_lt (show dataSize < 2 ^ 32 by omega),
    u16_of_lt (show metaSize < 2 ^ 16 by omega)]
  rw [List.take_of_length_le (by simp)]

/-- The body `retransBOP` sends from the entry of a call that passes `sendProduct`'s
    checks. -/
theorem retransBOP_body {c : Consts} {prodIndex dataSize metaSize : Nat} {data : List UInt8}
    {metadata : Option (List UInt8)} {connSockList : List Nat} (recvheader : VcmtpHeader)
    (hsize : dataSize ≤ 2 ^ 32 - 1) (hmeta : MetaArgsValid c metadata metaSize) :
    (retransBOP c recvheader (newRetxMetadata prodIndex data dataSize (metadata.getD [])
      metaSize connSockList)).body =
      bopMsgPrefix dataSize metaSize ++ (metadata.getD []).take metaSize := by
  obtain ⟨havail, hlen⟩ := hmeta.bounds
  have := c.lt_u16
  have := c.prefix_le
  unfold Consts.availBopLen at havail
  simp only [retransBOP, newRetxMetadata, Consts.dataLen_sub_availBopLen,
    u32_of_lt (show dataSize < 2 ^ 32 by omega), u16_of_lt (show metaSize < 2 ^ 16 by omega),
    u16_of_lt (show metaSize + bopMsgPrefixLen < 2 ^ 16 by omega)]
  exact List.take_of_length_le (by simp [hlen, bopMsgPrefixLen]; omega)

/-- A receiver reads the same `BOPMsg` from the multicast BOP and from a `RETX_BOP`: for every
    call that passes `sendProduct`'s checks and every request, both bodies parse to the
    product's size, the metadata size, and the first `metaSize` bytes of the metadata. -/
theorem parseBOPMsg_bop (c : Consts) (prodIndex : Nat) (data : List UInt8) (dataSize : Nat)
    (metadata : Option (List UInt8)) (metaSize : Nat) (connSockList : List Nat)
    (recvheader : VcmtpHeader) (hsize : dataSize ≤ 2 ^ 32 - 1)
    (hmeta : MetaArgsValid c metadata metaSize) :
    let r := some (dataSize, metaSize, (metadata.getD []).take metaSize)
    parseBOPMsg (sendBOPMessage c prodIndex (u32 dataSize) (metadata.getD []) metaSize).body = r ∧
      parseBOPMsg (retransBOP c recvheader (newRetxMetadata prodIndex data dataSize
        (metadata.getD []) metaSize connSockList)).body = r := by
  obtain ⟨havail, hlen⟩ := hmeta.bounds
  have := c.lt_u16
  unfold Consts.availBopLen at havail
  have hround : parseBOPMsg (bopMsgPrefix dataSize metaSize ++ (metadata.getD []).take metaSize)
      = _ := parseBOPMsg_bopMsgPrefix (show dataSize < 2 ^ 32 by omega)
    (show metaSize < 2 ^ 16 by omega) (by simp [hlen])
  rw [List.take_take, Nat.min_self] at hround
  exact ⟨by rw [sendBOPMessage_body hsize hmeta, hround],
    by rw [retransBOP_body recvheader hsize hmeta, hround]⟩

/-- What a receiver reads from both BOPs of S5's product: 3000 bytes, two bytes of
    metadata. -/
theorem parseBOPMsg_bop_s5 :
    parseBOPMsg (sendBOPMessage Consts.default 0 (u32 3000) [7, 9] 2).body =
        some (3000, 2, [7, 9]) ∧
      parseBOPMsg (retransBOP Consts.default ⟨0, 0, 0, .bopReq⟩
        (newRetxMetadata 0 [] 3000 [7, 9] 2 [4])).body = some (3000, 2, [7, 9]) :=
  parseBOPMsg_bop Consts.default 0 [] 3000 (some [7, 9]) 2 [4] ⟨0, 0, 0, .bopReq⟩ (by decide)
    ⟨by decide, by decide⟩

end Vcmtp
