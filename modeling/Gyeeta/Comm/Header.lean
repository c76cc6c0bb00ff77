import Gyeeta.Lib.Bytes

/-!
# Message headers

Every message between the hosts starts with a `COMM_HEADER`: magic, total size, type and padding
size, four little-endian words.
-/

namespace Gyeeta.Comm

/-- `HOST_TYPES_E`. -/
inductive HostType where
  | invalid
  | partha
  | madhava
  | shyama
  | nodeWeb
  deriving DecidableEq, Repr

/-- `COMM_TYPE_E`, the types between `COMM_MIN_TYPE` and `COMM_MAX_TYPE`. -/
inductive CommType where
  | psRegisterReq
  | pmConnectCmd
  | msRegisterReq
  | mmConnectCmd
  | nsRegisterReq
  | nmConnectCmd
  | psRegisterResp
  | pmConnectResp
  | msRegisterResp
  | mmConnectResp
  | nsRegisterResp
  | nmConnectResp
  | eventNotify
  | queryCmd
  | queryResp
  | nsAlertRegister
  deriving DecidableEq, Repr

namespace CommType

/-- The number of a type on the wire. -/
def code : CommType → Nat
  | psRegisterReq => 2
  | pmConnectCmd => 3
  | msRegisterReq => 4
  | mmConnectCmd => 5
  | nsRegisterReq => 6
  | nmConnectCmd => 7
  | psRegisterResp => 8
  | pmConnectResp => 9
  | msRegisterResp => 10
  | mmConnectResp => 11
  | nsRegisterResp => 12
  | nmConnectResp => 13
  | eventNotify => 14
  | queryCmd => 15
  | queryResp => 16
  | nsAlertRegister => 17

/-- The type with a number. -/
def ofCode : Nat → Option CommType
  | 2 => some psRegisterReq
  | 3 => some pmConnectCmd
  | 4 => some msRegisterReq
  | 5 => some mmConnectCmd
  | 6 => some nsRegisterReq
  | 7 => some nmConnectCmd
  | 8 => some psRegisterResp
  | 9 => some pmConnectResp
  | 10 => some msRegisterResp
  | 11 => some mmConnectResp
  | 12 => some nsRegisterResp
  | 13 => some nmConnectResp
  | 14 => some eventNotify
  | 15 => some queryCmd
  | 16 => some queryResp
  | 17 => some nsAlertRegister
  | _ => none

@[simp] lemma ofCode_code (type : CommType) : ofCode type.code = some type := by
  cases type <;> rfl

/-- The size of the structure that follows the header of a message of this type. -/
def bodySize : CommType → Nat
  | eventNotify => 8
  | queryCmd => 24
  | queryResp => 32
  | psRegisterReq => 1096
  | pmConnectCmd => 1120
  | msRegisterReq => 1376
  | mmConnectCmd => 1024
  | nsRegisterReq | nsAlertRegister => 416
  | nmConnectCmd => 416
  | psRegisterResp => 1440
  | pmConnectResp => 1008
  | msRegisterResp => 1032
  | mmConnectResp => 992
  | nsRegisterResp => 424
  | nmConnectResp => 424

end CommType

/-- `HDR_MAGIC_E`, without the markers at its ends. -/
inductive HdrMagic where
  | psAdhoc
  | pmHdr
  | msHdr
  | mmHdr
  | nsHdr
  | nmHdr
  | nsAdhoc
  | nmAdhoc
  deriving DecidableEq, Repr

namespace HdrMagic

/-- The magic number on the wire. -/
def code : HdrMagic → Nat
  | psAdhoc => 0x05555505
  | pmHdr => 0x05666605
  | msHdr => 0x05777705
  | mmHdr => 0x05888805
  | nsHdr => 0x05999905
  | nmHdr => 0x05AAAA05
  | nsAdhoc => 0x05B00105
  | nmAdhoc => 0x05C00105

/-- `COMM_HEADER::get_host_types`. -/
def hostTypes : HdrMagic → HostType × HostType
  | psAdhoc => (.partha, .shyama)
  | pmHdr => (.partha, .madhava)
  | msHdr => (.madhava, .shyama)
  | mmHdr => (.madhava, .madhava)
  | nsHdr | nsAdhoc => (.nodeWeb, .shyama)
  | nmHdr | nmAdhoc => (.nodeWeb, .madhava)

def isHostNode (magic : HdrMagic) : Bool :=
  magic.hostTypes.1 = .nodeWeb

end HdrMagic

def maxCommDataSz : Nat := 16 * 1024 * 1024

/-- `sizeof(COMM_HEADER)`. -/
def commHeaderSize : Nat := 16

/-- `COMM_HEADER`, with its words as they are on the wire. -/
structure CommHeader where
  magic : Nat
  totalSz : Nat
  dataType : Nat
  paddingSz : Nat
  deriving DecidableEq, Repr

/-- `gy_align_up_2(value, 8)`. -/
def alignUp8 (value : Nat) : Nat :=
  (value + 7) / 8 * 8

namespace CommHeader

/-- The header in the first sixteen bytes. -/
def parse (bytes : Bytes) : CommHeader where
  magic := bytes.field 0 4
  totalSz := bytes.field 4 4
  dataType := bytes.field 8 4
  paddingSz := bytes.field 12 4

/-- The bytes of a header. -/
def toBytes (hdr : CommHeader) : Bytes :=
  .ofNat 4 hdr.magic ++ .ofNat 4 hdr.totalSz ++ .ofNat 4 hdr.dataType ++
    .ofNat 4 hdr.paddingSz

/-- `COMM_HEADER::get_act_len`. -/
def actLen (hdr : CommHeader) : Nat :=
  hdr.totalSz - hdr.paddingSz

/-- `COMM_HEADER::validate`; `aligned` tells whether the data is on an eight byte
boundary. -/
def validate (hdr : CommHeader) (aligned : Bool) (reqMagic : HdrMagic) : Bool :=
  hdr.magic = reqMagic.code && hdr.totalSz < maxCommDataSz &&
    commHeaderSize ≤ hdr.totalSz && hdr.paddingSz < 8 && hdr.totalSz % 8 = 0 && aligned &&
    match CommType.ofCode hdr.dataType with
    | none => false
    | some type => commHeaderSize + type.bodySize ≤ hdr.actLen

/-- `COMM_HEADER::set_type_len`: `none` if the header is marked invalid. -/
def setTypeLen (type : CommType) (totalSz : Nat) (magic : HdrMagic) : Option CommHeader :=
  let newTotalSz := if magic.isHostNode then totalSz else alignUp8 totalSz
  if newTotalSz < maxCommDataSz ∧ commHeaderSize ≤ totalSz then
    some
      { magic := magic.code
        totalSz := newTotalSz
        dataType := type.code
        paddingSz := newTotalSz - totalSz }
  else
    none

lemma size_of_validate {hdr : CommHeader} {aligned : Bool} {magic : HdrMagic}
    (valid : hdr.validate aligned magic = true) :
    commHeaderSize ≤ hdr.totalSz ∧ hdr.totalSz % 8 = 0 := by
  simp only [validate, Bool.and_eq_true, decide_eq_true_eq] at valid
  exact ⟨valid.1.1.1.1.2, valid.1.1.2⟩

lemma parse_append {front : Bytes} (back : Bytes) (long : commHeaderSize ≤ front.length) :
    parse (front ++ back) = parse front := by
  simp only [commHeaderSize] at long
  simp only [parse, Bytes.field_append_left back (show 0 + 4 ≤ front.length by omega),
    Bytes.field_append_left back (show 4 + 4 ≤ front.length by omega),
    Bytes.field_append_left back (show 8 + 4 ≤ front.length by omega),
    Bytes.field_append_left back (show 12 + 4 ≤ front.length by omega)]

end CommHeader

end Gyeeta.Comm
