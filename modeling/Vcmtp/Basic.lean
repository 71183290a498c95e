import Mathlib.Data.List.Basic
import Mathlib.Algebra.Group.Nat.Basic

/-!
# VCMTPv3 sender: constants, wire records and machine arithmetic

The sender (`vcmtpSendv3.cpp`) multicasts products as a BOP datagram, a run of
`MEM_DATA` blocks and an EOP datagram, and answers retransmission requests on one
TCP connection per receiver. This file fixes what every later module shares:

* `Consts` — the compile-time block size `VCMTP_DATA_LEN` of `vcmtpBase.h`, which is
  not among the sources; it carries the two facts the code relies on (a BOP prefix
  fits in a block, and a block length fits the `uint16_t` `payLen`);
* `VcmtpHeader` and `Frame` — a header in host byte order and the body sent after it;
* `RetxMetadata` — the retransmission entry of `senderMetadata.h`;
* `Exc` — the exceptions the sender throws, with `Exc.slice` for the copy into the
  `std::exception` error slot;
* `u32`, `u16`, `sub32` — `uint32_t`/`uint16_t` arithmetic on `Nat`.

Byte-order conversion (`htonl`, `htons`) is the identity on header fields here; only the
BOP body, which the code builds as raw bytes, is spelled out with `be32` and `be16`.
-/

namespace Vcmtp

/-! ## Machine arithmetic -/

/-- Reduction to `uint32_t`. -/
def u32 (n : Nat) : Nat := n % 2 ^ 32

/-- Reduction to `uint16_t` (an implicit narrowing assignment, or `htons`). -/
def u16 (n : Nat) : Nat := n % 2 ^ 16

/-- `uint32_t` subtraction `a - b`, wrapping below zero. -/
def sub32 (a b : Nat) : Nat := (a + (2 ^ 32 - b % 2 ^ 32)) % 2 ^ 32

theorem u32_of_lt {n : Nat} (h : n < 2 ^ 32) : u32 n = n := Nat.mod_eq_of_lt h

theorem u16_of_lt {n : Nat} (h : n < 2 ^ 16) : u16 n = n := Nat.mod_eq_of_lt h

/-- Without wrap-around, `uint32_t` subtraction is `Nat` subtraction. -/
theorem sub32_of_le {a b : Nat} (ha : a < 2 ^ 32) (h : b ≤ a) : sub32 a b = a - b := by
  unfold sub32; omega

/-! ## Constants of `vcmtpBase.h` -/

/-- Modelled from the spec: the BOP prefix `sizeof(BOPMsg) - sizeof(BOPMsg::metadata)`,
    that is `prodsize` (u32) and `metasize` (u16) with no padding (§4.1, §6). -/
def bopMsgPrefixLen : Nat := 6

/-- The compile-time block size `VCMTP_DATA_LEN` (in `vcmtpBase.h`, not among the
    sources). A BOP prefix fits in one block, and a block length fits the `uint16_t`
    `payLen` and `payloadlen` it is stored in. -/
structure Consts where
  vcmtpDataLen : Nat
  prefix_le : bopMsgPrefixLen ≤ vcmtpDataLen
  lt_u16 : vcmtpDataLen < 2 ^ 16

/-- `AVAIL_BOP_LEN`: the room left for metadata in a BOP block (spec §6). -/
def Consts.availBopLen (c : Consts) : Nat := c.vcmtpDataLen - bopMsgPrefixLen

/-- The value of the original build: 1448-byte blocks, hence the `1442`-byte metadata
    bound of `sendProduct`'s documentation. -/
def Consts.default : Consts := ⟨1448, by decide, by decide⟩

theorem Consts.dataLen_pos (c : Consts) : 0 < c.vcmtpDataLen := by
  have := c.prefix_le; unfold bopMsgPrefixLen at this; omega

/-- The BOP `payloadlen` offset `VCMTP_DATA_LEN - AVAIL_BOP_LEN` is the BOP prefix. -/
@[simp] theorem Consts.dataLen_sub_availBopLen (c : Consts) :
    c.vcmtpDataLen - c.availBopLen = bopMsgPrefixLen := by
  have := c.prefix_le; unfold Consts.availBopLen; omega

/-! ## Wire records -/

/-- The `flags` values of `vcmtpBase.h`; `other` stands for any value the sender does not
    name (a receiver may send it). -/
inductive Flag where
  | bop | memData | eop
  | retxReq | retxRej | retxEnd | retxData
  | bopReq | retxBop | eopReq | retxEop
  | other (code : Nat)
  deriving DecidableEq, Repr

/-- `VcmtpHeader`, with its fields in host byte order. -/
structure VcmtpHeader where
  prodindex : Nat
  seqnum : Nat
  payloadlen : Nat
  flags : Flag
  deriving DecidableEq, Repr

/-- A header as a receiver can send it: every field within its C type. -/
def VcmtpHeader.WellFormed (h : VcmtpHeader) : Prop :=
  h.prodindex < 2 ^ 32 ∧ h.seqnum < 2 ^ 32 ∧ h.payloadlen < 2 ^ 16

instance (h : VcmtpHeader) : Decidable h.WellFormed :=
  inferInstanceAs (Decidable (_ ∧ _ ∧ _))

/-- One message on a socket: its header and the body bytes sent after it. -/
structure Frame where
  header : VcmtpHeader
  body : List UInt8
  deriving DecidableEq, Repr

/-- The four bytes of `htonl(n)`, most significant first. -/
def be32 (n : Nat) : List UInt8 :=
  [UInt8.ofNat (n / 2 ^ 24), UInt8.ofNat (n / 2 ^ 16), UInt8.ofNat (n / 2 ^ 8), UInt8.ofNat n]

/-- The two bytes of `htons(n)`, most significant first. -/
def be16 (n : Nat) : List UInt8 := [UInt8.ofNat (n / 2 ^ 8), UInt8.ofNat n]

@[simp] theorem length_be32 (n : Nat) : (be32 n).length = 4 := rfl

@[simp] theorem length_be16 (n : Nat) : (be16 n).length = 2 := rfl

/-! ## Retransmission entries and exceptions -/

/-- `RetxMetadata` of `senderMetadata.h`, with the fields the modelled code reads. The
    pointers `metadata` and `dataprod_p` are given by the bytes they point to when the
    entry is made: the entry keeps the caller's buffers, not a copy, so what is proved of
    the bytes a retransmission sends holds while the caller leaves the buffers unchanged
    during the entry's life. The clock and timeout fields are left out (time is not
    modelled). -/
structure RetxMetadata where
  prodindex : Nat
  prodLength : Nat
  metaSize : Nat
  metadata : List UInt8
  dataprod : List UInt8
  /-- `std::set<int> unfinReceivers`, indexed by socket. -/
  unfinReceivers : List Nat
  deriving DecidableEq, Repr

/-- The exceptions the sender throws. `exception` is a plain `std::exception`, which is
    what a copy into a `std::exception` variable keeps of any of them. -/
inductive Exc where
  | invalidArgument (what : String)
  | runtimeError (what : String)
  | systemError (what : String)
  | exception
  deriving DecidableEq, Repr

/-- Copying an exception into a `std::exception` object (`except = e`, or `throw e` of a
    `std::exception&`) keeps only the base class. -/
def Exc.slice (_ : Exc) : Exc := .exception

end Vcmtp
