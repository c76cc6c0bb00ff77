import Gyeeta.Lib.Bytes

/-!
# Headers of a captured frame

`get_ip_offset` finds the IP header, `get_ipv4_transport_offset` and `get_ipv6_transport_offset`
find the transport header and the payload.  The length of the payload is computed in 32 bits from
the length the IP header declares.
-/

namespace Gyeeta.Capture

/-- The byte at an offset. -/
def byteAt (packet : Bytes) (offset : Nat) : Nat :=
  (packet.getD offset 0).toNat

lemma byteAt_lt (packet : Bytes) (offset : Nat) : byteAt packet offset < 256 :=
  (packet.getD offset 0).toNat_lt

/-- The 16-bit number in network order at an offset. -/
def be16 (packet : Bytes) (offset : Nat) : Nat :=
  byteAt packet offset * 256 + byteAt packet (offset + 1)

lemma be16_lt (packet : Bytes) (offset : Nat) : be16 packet offset < 2 ^ 16 := by
  have first := byteAt_lt packet offset
  have second := byteAt_lt packet (offset + 1)
  rw [be16]
  omega

/-! ## The link layer -/

inductive LinkType where
  | en10mb | ieee802 | linuxSll | null | loop | raw | ipnet | other
  deriving DecidableEq, Repr

def etherTypeIpv4 : Nat := 0x0800
def etherTypeIpv6 : Nat := 0x86DD
def etherTypeVlan8021q : Nat := 0x8100
def etherTypeVlan8021ad : Nat := 0x88A8

/-- `SIZE_ETHERNET`, `SIZE_NULLHDR`, `SIZE_SLL_HDR`, `SIZE_IPNET_HDR` -/
def sizeEthernet : Nat := 14
def sizeNullhdr : Nat := 4
def sizeSllHdr : Nat := 16
def sizeIpnetHdr : Nat := 24

/-- `ip_offset` and `is_ipv4` -/
structure IpOffset where
  ipOffset : Nat
  isIpv4 : Bool
  deriving DecidableEq, Repr

/-- The cases `ETHER_TYPE_IPv4` and `ETHER_TYPE_IPv6` behind Ethernet, where `ptmp` is advanced
past a part of the tags. -/
def ethernetIpOffset (frame : Bytes) (etherType tagged : Nat) : Option IpOffset :=
  if etherType = etherTypeIpv4 then some ⟨sizeEthernet + tagged, true⟩
  else if etherType = etherTypeIpv6 then
    if frame.length ≤ tagged + sizeEthernet + 40 then none
    else some ⟨sizeEthernet + tagged, false⟩
  else none

/-- The family of a protocol that is told apart behind a header of `size` bytes. -/
def familyIpOffset (frame : Bytes) (size : Nat) (isIpv4 isIpv6 : Bool) : Option IpOffset :=
  if isIpv4 then some ⟨size, true⟩
  else if isIpv6 then if frame.length < size + 40 then none else some ⟨size, false⟩
  else none

/-- `family` of `DLT_NULL` and `DLT_LOOP` is zero in either byte order. -/
def noFamily (frame : Bytes) : Bool :=
  byteAt frame 0 = 0 && byteAt frame 1 = 0 && byteAt frame 2 = 0 && byteAt frame 3 = 0

/-- `get_ip_offset`; `none` is a result of -1. -/
def getIpOffset (frame : Bytes) (linktype : LinkType) : Option IpOffset :=
  if frame.length < 20 then none
  else
    match linktype with
    | .en10mb | .ieee802 =>
      if frame.length < sizeEthernet + 20 + 4 then none
      else
        let etherType := be16 frame 12
        if etherType = etherTypeVlan8021q then
          ethernetIpOffset frame (be16 frame (sizeEthernet + 2)) 2
        else if etherType = etherTypeVlan8021ad then
          ethernetIpOffset frame (be16 frame (sizeEthernet + 4)) 4
        else ethernetIpOffset frame etherType 0
    | .linuxSll =>
      if frame.length < sizeSllHdr + 20 then none
      else
        familyIpOffset frame sizeSllHdr (be16 frame 14 = etherTypeIpv4)
          (be16 frame 14 = etherTypeIpv6)
    | .null | .loop =>
      if frame.length < sizeNullhdr + 20 then none
      else if noFamily frame then none
      else
        familyIpOffset frame sizeNullhdr (byteAt frame sizeNullhdr / 16 = 4)
          (byteAt frame sizeNullhdr / 16 = 6)
    | .raw => familyIpOffset frame 0 (byteAt frame 0 / 16 = 4) (byteAt frame 0 / 16 = 6)
    | .ipnet =>
      if frame.length < sizeIpnetHdr + 20 then none
      else familyIpOffset frame sizeIpnetHdr (byteAt frame 1 = 2) (byteAt frame 1 = 26)
    | .other => none

/-! ## The transport header -/

def protoTcp : Nat := 6
def protoUdp : Nat := 17

/-- `IP_PROTO_IPv6_HOPOPT`, `IP_PROTO_IPv6_ROUTE` and `IP_PROTO_IPv6_DST_OPTIONS` -/
def isExtension (nxthdr : Nat) : Bool :=
  nxthdr = 0 || nxthdr = 43 || nxthdr = 60

/-- What the two functions return with a result of 0. -/
structure Transport where
  transportProto : Nat
  transportOffset : Nat
  dataOffset : Nat
  dataLen : Nat
  deriving DecidableEq, Repr

/-- `doff << 2` of a TCP header -/
def sizeTcp (packet : Bytes) (offset : Nat) : Nat :=
  byteAt packet (offset + 12) / 16 * 4

/-- The urgent data of a TCP header: its pointer, if the flag is set. -/
def urgLen (packet : Bytes) (offset : Nat) : Nat :=
  if byteAt packet (offset + 13) / 32 % 2 = 1 then be16 packet (offset + 18) else 0

/-- The checks of a TCP header, which both functions make. -/
def tcpFits (packet : Bytes) (offset : Nat) : Bool :=
  offset + 20 ≤ packet.length && 20 ≤ sizeTcp packet offset &&
    offset + sizeTcp packet offset ≤ packet.length &&
    offset + sizeTcp packet offset + urgLen packet offset ≤ packet.length

def sizeUdp (packet : Bytes) (offset : Nat) : Nat :=
  be16 packet (offset + 4)

def udpFits (packet : Bytes) (offset : Nat) : Bool :=
  offset + 8 ≤ packet.length && 8 ≤ sizeUdp packet offset &&
    offset + sizeUdp packet offset ≤ packet.length

/-- A difference of `uint32_t`. -/
def sub32 (tlen headers : Nat) : Nat :=
  (tlen + 2 ^ 32 - headers) % 2 ^ 32

/-- The header and data behind `offset` for TCP, where the data ends `tlen` bytes behind the
start of headers of `before` bytes. -/
def tcpTransport (packet : Bytes) (offset before tlen : Nat) : Option Transport :=
  if tcpFits packet offset then
    some
      { transportProto := protoTcp
        transportOffset := offset
        dataOffset := offset + sizeTcp packet offset + urgLen packet offset
        dataLen := sub32 tlen (before + sizeTcp packet offset + urgLen packet offset) }
  else none

def udpTransport (packet : Bytes) (offset : Nat) : Option Transport :=
  if udpFits packet offset then
    some
      { transportProto := protoUdp
        transportOffset := offset
        dataOffset := offset + 8
        dataLen := sizeUdp packet offset - 8 }
  else none

def sizeIp (packet : Bytes) : Nat :=
  byteAt packet 0 % 16 * 4

/-- `ip_len`, the total length -/
def ipv4Len (packet : Bytes) : Nat :=
  be16 packet 2

/-- `get_ipv4_transport_offset`; `none` is a result of 1. -/
def getIpv4TransportOffset (packet : Bytes) : Option Transport :=
  if be16 packet 6 % 2 ^ 13 ≠ 0 then none
  else if sizeIp packet < 20 ∨ packet.length ≤ sizeIp packet then none
  else if byteAt packet 9 = protoTcp then
    tcpTransport packet (sizeIp packet) (sizeIp packet)
      (if 0 < ipv4Len packet then ipv4Len packet else packet.length)
  else if byteAt packet 9 = protoUdp then udpTransport packet (sizeIp packet)
  else none

/-- `ip6_plen`, the length of the payload -/
def ipv6Len (packet : Bytes) : Nat :=
  be16 packet 4

/-- The loop over the headers of an IPv6 packet; the outer `none` is a loop that did not end. -/
def ipv6Loop (packet : Bytes) : Nat → (nxthdr offset : Nat) → Option (Option Transport)
  | 0, _, _ => none
  | fuel + 1, nxthdr, offset =>
    if packet.length ≤ offset then some none
    else if nxthdr = protoTcp then some (tcpTransport packet offset 0
        (if 0 < ipv6Len packet then ipv6Len packet else packet.length - offset))
    else if nxthdr = protoUdp then some (udpTransport packet offset)
    else if isExtension nxthdr then
      if packet.length < offset + 2 then some none
      else ipv6Loop packet fuel (byteAt packet offset)
          (offset + (byteAt packet (offset + 1) + 1) * 8)
    else some none

/-- The loop runs at most once for each byte. -/
def ipv6Walk (packet : Bytes) : Option (Option Transport) :=
  if packet.length < 40 + 8 then some none
  else ipv6Loop packet packet.length (byteAt packet 6) 40

/-- `get_ipv6_transport_offset`; `none` is a result of 1. -/
def getIpv6TransportOffset (packet : Bytes) : Option Transport :=
  (ipv6Walk packet).join

/-! ## `process_pkt` -/

/-- What `process_pkt` hands on: where the TCP header and the payload are in the frame, the
length of the payload by the headers, and what was captured of it. -/
structure Located where
  tcp : Nat
  data : Nat
  dataLen : Nat
  caplen : Nat
  deriving DecidableEq, Repr

/-- `GY_TH_SYN | GY_TH_FIN | GY_TH_RST` -/
def hasControl (packet : Bytes) (offset : Nat) : Bool :=
  byteAt packet (offset + 13) % 8 ≠ 0

/-- The part of `process_pkt` up to the lookup of the service. -/
def locate (frame : Bytes) (origlen : Nat) (linktype : LinkType) : Option Located :=
  match getIpOffset frame linktype with
  | none => none
  | some ip =>
    if frame.length < ip.ipOffset then none
    else
      let packet := frame.drop ip.ipOffset
      match if ip.isIpv4 then getIpv4TransportOffset packet else getIpv6TransportOffset packet with
      | none => none
      | some transport =>
        if transport.transportProto ≠ protoTcp ∨ packet.length < transport.dataOffset then none
        else
          let caplen := packet.length - transport.dataOffset
          if origlen < caplen ∨
              (caplen = 0 ∧ hasControl packet transport.transportOffset = false) then none
          else
            some
              { tcp := ip.ipOffset + transport.transportOffset
                data := ip.ipOffset + transport.dataOffset
                dataLen := transport.dataLen
                caplen := caplen }

/-! ## Bounds -/

/-- The offsets lie in the packet and the payload is no longer than the IP header declares, or
than the packet if it declares nothing. -/
def Transport.Bounded (transport : Transport) (packet : Bytes) (declared : Nat) : Prop :=
  transport.transportOffset + 20 ≤ transport.dataOffset ∧
    transport.dataOffset ≤ packet.length ∧
    transport.dataLen ≤ if declared = 0 then packet.length else declared

/-- The IP header declares nothing, or at least the headers it counts and the urgent data. -/
def Declares (packet : Bytes) (declared before offset : Nat) : Prop :=
  declared = 0 ∨ before + sizeTcp packet offset + urgLen packet offset ≤ declared

/-- A chain of extension headers from the header of type `nxthdr` at an offset to the TCP
header. -/
inductive Chain (packet : Bytes) : (nxthdr offset tcp : Nat) → Prop where
  | tcp (offset : Nat) : Chain packet protoTcp offset offset
  | extension {nxthdr offset tcp : Nat} (isExt : isExtension nxthdr = true)
      (rest : Chain packet (byteAt packet offset) (offset + (byteAt packet (offset + 1) + 1) * 8)
        tcp) : Chain packet nxthdr offset tcp

variable {packet : Bytes} {transport : Transport}

variable {offset : Nat}

lemma tcpFits_iff :
    tcpFits packet offset = true ↔ offset + 20 ≤ packet.length ∧ 20 ≤ sizeTcp packet offset ∧
      offset + sizeTcp packet offset + urgLen packet offset ≤ packet.length := by
  simp only [tcpFits, Bool.and_eq_true, decide_eq_true_eq, and_assoc]
  constructor
  · rintro ⟨room, size, -, urgent⟩
    exact ⟨room, size, urgent⟩
  · rintro ⟨room, size, urgent⟩
    exact ⟨room, size, by omega, urgent⟩

variable {tlen headers : Nat}

lemma sub32_le_iff (lenSmall : tlen < 2 ^ 32)
    (small : headers + 2 ^ 16 ≤ 2 ^ 32) : sub32 tlen headers ≤ tlen ↔ headers ≤ tlen := by
  rw [sub32]
  omega

lemma sub32_of_le (lenSmall : tlen < 2 ^ 32) (le : headers ≤ tlen) :
    sub32 tlen headers = tlen - headers := by
  rw [sub32]
  omega

lemma sizeTcp_le (packet : Bytes) (offset : Nat) : sizeTcp packet offset ≤ 60 := by
  have := byteAt_lt packet (offset + 12)
  rw [sizeTcp]
  omega

lemma urgLen_lt (packet : Bytes) (offset : Nat) : urgLen packet offset < 2 ^ 16 := by
  rw [urgLen]
  split
  · exact be16_lt packet (offset + 18)
  · decide

lemma tcpTransport_bounded {before declared : Nat}
    (short : packet.length < 2 ^ 32) (declaredSmall : declared < 2 ^ 16)
    (beforeLe : before ≤ offset) (beforeSmall : before ≤ 60)
    (found : tcpTransport packet offset before
      (if 0 < declared then declared else packet.length - (offset - before)) = some transport) :
    transport.Bounded packet declared ↔ Declares packet declared before offset := by
  have tcpLe := sizeTcp_le packet offset
  have urgLt := urgLen_lt packet offset
  rw [tcpTransport] at found
  split at found
  next fits =>
    obtain ⟨room, size, urgent⟩ := tcpFits_iff.mp fits
    obtain rfl := (Option.some.inj found).symm
    simp only [Transport.Bounded, Declares]
    generalize headersEq : before + sizeTcp packet offset + urgLen packet offset = headers
    by_cases zero : declared = 0
    · subst zero
      rw [if_neg (Nat.lt_irrefl 0), if_pos rfl, sub32_of_le (by omega) (by omega)]
      exact ⟨fun _ => .inl rfl, fun _ => ⟨by omega, by omega, by omega⟩⟩
    rw [if_pos (Nat.pos_of_ne_zero zero), if_neg zero, sub32_le_iff (by omega) (by omega)]
    constructor
    · rintro ⟨-, -, le⟩
      exact .inr le
    · rintro (isZero | le)
      · exact absurd isZero zero
      · exact ⟨by omega, by omega, le⟩
  · cases found

lemma sizeIp_le (packet : Bytes) : sizeIp packet ≤ 60 := by
  rw [sizeIp]
  omega

lemma udpTransport_proto (found : udpTransport packet offset = some transport) :
    transport.transportProto = protoUdp := by
  rw [udpTransport] at found
  split at found
  · rw [← Option.some.inj found]
  · cases found

lemma tcpTransport_offset {before : Nat}
    (found : tcpTransport packet offset before tlen = some transport) :
    transport.transportOffset = offset := by
  rw [tcpTransport] at found
  split at found
  · rw [← Option.some.inj found]
  · cases found

lemma getIpv4TransportOffset_tcp (found : getIpv4TransportOffset packet = some transport)
    (isTcp : transport.transportProto = protoTcp) :
    tcpTransport packet (sizeIp packet) (sizeIp packet)
      (if 0 < ipv4Len packet then ipv4Len packet else packet.length) = some transport := by
  rw [getIpv4TransportOffset] at found
  split at found
  · cases found
  split at found
  · cases found
  split at found
  · exact found
  · split at found
    · rw [udpTransport_proto found] at isTcp
      exact absurd isTcp (by decide)
    · cases found

lemma Chain.le {nxthdr tcp : Nat} (chain : Chain packet nxthdr offset tcp) :
    offset ≤ tcp ∧ (offset = tcp ↔ nxthdr = protoTcp) ∧ (tcp - offset) % 8 = 0 := by
  induction chain with
  | tcp offset => exact ⟨Nat.le_refl _, ⟨fun _ => rfl, fun _ => rfl⟩, by omega⟩
  | extension isExt _ ih =>
    obtain ⟨le, -, multiple⟩ := ih
    refine ⟨by omega, ⟨fun same => by omega, ?_⟩, by omega⟩
    rintro rfl
    exact absurd isExt (by decide)

lemma ipv6Loop_ends (packet : Bytes) {fuel : Nat} (nxthdr : Nat)
    (enough : packet.length < fuel + offset) (running : 0 < fuel) :
    ∃ result, ipv6Loop packet fuel nxthdr offset = some result := by
  induction fuel generalizing nxthdr offset with
  | zero => exact absurd running (Nat.lt_irrefl 0)
  | succ fuel ih =>
    rw [ipv6Loop]
    split
    · exact ⟨_, rfl⟩
    split
    · exact ⟨_, rfl⟩
    split
    · exact ⟨_, rfl⟩
    split
    · split
      · exact ⟨_, rfl⟩
      · exact ih _ (by omega) (by omega)
    · exact ⟨_, rfl⟩

lemma ipv6Walk_ends (packet : Bytes) : ∃ result, ipv6Walk packet = some result := by
  rw [ipv6Walk]
  split
  · exact ⟨none, rfl⟩
  · exact ipv6Loop_ends packet _ (by omega) (by omega)

lemma ipv6Loop_tcp {fuel nxthdr : Nat}
    (found : ipv6Loop packet fuel nxthdr offset = some (some transport))
    (isTcp : transport.transportProto = protoTcp) :
    Chain packet nxthdr offset transport.transportOffset ∧
      tcpTransport packet transport.transportOffset 0 (if 0 < ipv6Len packet then ipv6Len packet
          else packet.length - transport.transportOffset) = some transport := by
  induction fuel generalizing nxthdr offset with
  | zero => cases found
  | succ fuel ih =>
    rw [ipv6Loop] at found
    split at found
    · cases found
    split at found
    next isTcpHdr =>
      have tcp := Option.some.inj found
      rw [tcpTransport_offset tcp]
      exact ⟨isTcpHdr ▸ .tcp offset, tcp⟩
    split at found
    · rw [udpTransport_proto (Option.some.inj found)] at isTcp
      exact absurd isTcp (by decide)
    split at found
    next isExt =>
      split at found
      · cases found
      · obtain ⟨rest, later⟩ := ih found
        exact ⟨.extension isExt rest, later⟩
    · cases found

lemma getIpv6TransportOffset_tcp (found : getIpv6TransportOffset packet = some transport)
    (isTcp : transport.transportProto = protoTcp) :
    Chain packet (byteAt packet 6) 40 transport.transportOffset ∧
      tcpTransport packet transport.transportOffset 0 (if 0 < ipv6Len packet then ipv6Len packet
          else packet.length - transport.transportOffset) = some transport := by
  rw [getIpv6TransportOffset, ipv6Walk] at found
  split at found
  · cases found
  · exact ipv6Loop_tcp (Option.join_eq_some_iff.mp found) isTcp

/-- For every packet: both functions end, the TCP header of an IPv6 packet is the one its chain of
headers leads to, and what they return for TCP is bounded if and only if the IP header
declares nothing or at least the headers it counts. -/
theorem transportOffset_bounded_iff (packet : Bytes) (short : packet.length < 2 ^ 32) :
    (20 ≤ packet.length → ∀ transport, getIpv4TransportOffset packet = some transport →
      transport.transportProto = protoTcp → (transport.Bounded packet (ipv4Len packet) ↔
          Declares packet (ipv4Len packet) (sizeIp packet) (sizeIp packet))) ∧
    (40 ≤ packet.length → (∃ result, ipv6Walk packet = some result) ∧
      ∀ transport, getIpv6TransportOffset packet = some transport →
        transport.transportProto = protoTcp →
          Chain packet (byteAt packet 6) 40 transport.transportOffset ∧
          (transport.Bounded packet (ipv6Len packet) ↔
            Declares packet (ipv6Len packet) 0 transport.transportOffset)) := by
  constructor
  · intro _ transport found isTcp
    have tcp := getIpv4TransportOffset_tcp found isTcp
    refine tcpTransport_bounded short (be16_lt packet 2) (Nat.le_refl _) (sizeIp_le packet) ?_
    rw [Nat.sub_self, Nat.sub_zero]
    exact tcp
  · intro _
    refine ⟨ipv6Walk_ends packet, fun transport found isTcp => ?_⟩
    obtain ⟨chain, tcp⟩ := getIpv6TransportOffset_tcp found isTcp
    exact ⟨chain,
      tcpTransport_bounded short (be16_lt packet 4) (Nat.zero_le _) (Nat.zero_le _) tcp⟩

/-- An IPv4 packet with TCP headers of 40 bytes that declares a length of 40. -/
def declaredPacket : Bytes :=
  [0x45, 0, 0, 40, 0, 0, 0, 0, 64, 6, 0, 0, 0, 0, 0, 0, 0, 0, 0, 0,
    0, 80, 0, 80, 0, 0, 0, 0, 0, 0, 0, 0, 0x50, 0x10, 0, 0, 0, 0, 0, 0]

theorem transportOffset_bounded_declared :
    (Transport.mk protoTcp 20 40 0).Bounded declaredPacket 40 :=
  ((transportOffset_bounded_iff declaredPacket (by decide)).1 (by decide) ⟨protoTcp, 20, 40, 0⟩
    (by decide) rfl).mpr (.inr (by decide))

/-- The same packet with a declared length of 20: the payload has `2 ^ 32 - 20` bytes. -/
theorem getIpv4TransportOffset_wraps : getIpv4TransportOffset (declaredPacket.set 3 20) =
        some ⟨protoTcp, 20, 40, 2 ^ 32 - 20⟩ ∧
      ¬(Transport.mk protoTcp 20 40 (2 ^ 32 - 20)).Bounded (declaredPacket.set 3 20) 20 := by
  refine ⟨by decide, fun bounded => ?_⟩
  exact absurd bounded.2.2 (by decide)

end Gyeeta.Capture
