import Gyeeta.Capture.NetParse

/-!
# Ethernet frames with TCP

Well-formed Ethernet frames with an unfragmented TCP segment, by the fields of their headers: no
tag, one 802.1Q tag, or an 802.1ad tag before an 802.1Q tag; an IPv4 header with any options or
an IPv6 header with extension headers; a TCP header with any options.  `process_pkt` finds the
segment of exactly those that have no tag, and no extension header in IPv6.
-/

namespace Gyeeta.Capture

open List

/-! ## Well-formed frames -/

/-- A TCP header at `tcp` without urgent data, whose payload of `len` bytes starts at
`payload`. -/
structure TcpAt (packet : Bytes) (tcp payload len : Nat) : Prop where
  size_le : 20 ≤ sizeTcp packet tcp
  payload_eq : payload = tcp + sizeTcp packet tcp
  not_urgent : byteAt packet (tcp + 13) / 32 % 2 = 0
  captured : payload + len ≤ packet.length
  some_data : 8 ≤ len

/-- An unfragmented IPv4 packet with TCP. -/
structure Ipv4Tcp (packet : Bytes) (tcp payload len : Nat) : Prop extends
    TcpAt packet tcp payload len where
  version : byteAt packet 0 / 16 = 4
  header_le : 20 ≤ sizeIp packet
  tcp_eq : tcp = sizeIp packet
  unfragmented : be16 packet 6 % 2 ^ 14 = 0
  proto : byteAt packet 9 = protoTcp
  total_eq : ipv4Len packet = payload + len

/-- An unfragmented IPv6 packet with TCP. -/
structure Ipv6Tcp (packet : Bytes) (tcp payload len : Nat) : Prop extends
    TcpAt packet tcp payload len where
  version : byteAt packet 0 / 16 = 6
  chain : Chain packet (byteAt packet 6) 40 tcp
  length_eq : 40 + ipv6Len packet = payload + len

/-- The tags of a frame. -/
inductive Tags where
  | untagged | dot1q | dot1ad
  deriving DecidableEq, Repr

/-- Where the IP header stands. -/
def Tags.ipOffset : Tags → Nat
  | .untagged => 14
  | .dot1q => 18
  | .dot1ad => 22

/-- The tags of a frame, and the type of what follows them. -/
def Tags.Announce (frame : Bytes) (etherType : Nat) : Tags → Prop
  | .untagged => be16 frame 12 = etherType
  | .dot1q => be16 frame 12 = etherTypeVlan8021q ∧ be16 frame 16 = etherType
  | .dot1ad => be16 frame 12 = etherTypeVlan8021ad ∧ be16 frame 16 = etherTypeVlan8021q ∧
    be16 frame 20 = etherType

/-- A frame with a TCP segment: the offsets are those in the IP packet. -/
structure TcpFrame (frame : Bytes) (tags : Tags) (isIpv4 : Bool) (tcp payload len : Nat) :
    Prop where
  captured : frame.length < 2 ^ 32
  announced : tags.Announce frame (if isIpv4 then etherTypeIpv4 else etherTypeIpv6)
  packet : if isIpv4 then Ipv4Tcp (frame.drop tags.ipOffset) tcp payload len
    else Ipv6Tcp (frame.drop tags.ipOffset) tcp payload len

/-- `process_pkt` locates the TCP header and the first byte of the payload and computes the
payload's length. -/
def LocatesExactly (frame : Bytes) (tags : Tags) (tcp payload len : Nat) : Prop :=
  ∃ caplen, locate frame frame.length .en10mb =
    some ⟨tags.ipOffset + tcp, tags.ipOffset + payload, len, caplen⟩

/-! ## Untagged frames -/

section

variable {packet : Bytes} {tcp payload len : Nat}

lemma TcpAt.inside (at_ : TcpAt packet tcp payload len) :
    tcp + 20 ≤ payload ∧ payload + 8 ≤ packet.length := by
  have start := at_.payload_eq
  have size := at_.size_le
  have captured := at_.captured
  have data := at_.some_data
  constructor
  · omega
  · omega

lemma TcpAt.fits (at_ : TcpAt packet tcp payload len) :
    tcpFits packet tcp = true ∧ urgLen packet tcp = 0 := by
  have none : urgLen packet tcp = 0 := by
    rw [urgLen, if_neg]
    have := at_.not_urgent
    omega
  obtain ⟨header, captured⟩ := at_.inside
  have start := at_.payload_eq
  exact ⟨tcpFits_iff.mpr ⟨by omega, at_.size_le, by omega⟩, none⟩

lemma Ipv4Tcp.transport (ip : Ipv4Tcp packet tcp payload len) :
    getIpv4TransportOffset packet = some ⟨protoTcp, tcp, payload, len⟩ := by
  obtain ⟨fits, none⟩ := ip.toTcpAt.fits
  have start := ip.payload_eq
  have total := ip.total_eq
  have data := ip.some_data
  have captured := ip.captured
  have header := ip.header_le
  have isTcp := ip.tcp_eq
  have fragment := ip.unfragmented
  have lenLt : ipv4Len packet < 2 ^ 16 := be16_lt packet 2
  have size := ip.size_le
  rw [getIpv4TransportOffset, if_neg (by omega), if_neg (by omega), if_pos ip.proto, ← isTcp,
    if_pos (by omega), tcpTransport, if_pos fits, none, sub32_of_le (by omega) (by omega)]
  have length : ipv4Len packet - (tcp + sizeTcp packet tcp + 0) = len := by omega
  rw [length, Nat.add_zero, ← start]

lemma Chain.loop {nxthdr offset fuel : Nat} (chain : Chain packet nxthdr offset tcp)
    (inside : tcp < packet.length) (enough : packet.length < fuel + offset) :
    ipv6Loop packet fuel nxthdr offset = some (tcpTransport packet tcp 0
      (if 0 < ipv6Len packet then ipv6Len packet else packet.length - tcp)) := by
  induction chain generalizing fuel with
  | tcp offset =>
    obtain ⟨fuel, rfl⟩ : ∃ rest, fuel = rest + 1 := ⟨fuel - 1, by omega⟩
    rw [ipv6Loop, if_neg (by omega), if_pos rfl]
  | extension isExt rest ih =>
    rename_i nxthdr offset tcp
    have le := rest.le.1
    obtain ⟨fuel, rfl⟩ : ∃ rest, fuel = rest + 1 := ⟨fuel - 1, by omega⟩
    have notTransport : nxthdr ≠ protoTcp ∧ nxthdr ≠ protoUdp := by
      constructor
      · rintro rfl
        exact absurd isExt (by decide)
      · rintro rfl
        exact absurd isExt (by decide)
    rw [ipv6Loop, if_neg (by omega), if_neg notTransport.1, if_neg notTransport.2, if_pos isExt,
      if_neg (by omega)]
    exact ih inside (by omega)

lemma Ipv6Tcp.transport (ip : Ipv6Tcp packet tcp payload len) :
    getIpv6TransportOffset packet = some ⟨protoTcp, tcp, payload, len + (tcp - 40)⟩ := by
  obtain ⟨fits, none⟩ := ip.toTcpAt.fits
  have start := ip.payload_eq
  have declared := ip.length_eq
  have data := ip.some_data
  have captured := ip.captured
  have size := ip.size_le
  have le := ip.chain.le.1
  have lenLt : ipv6Len packet < 2 ^ 16 := be16_lt packet 4
  rw [getIpv6TransportOffset, ipv6Walk, if_neg (by omega),
    ip.chain.loop (by omega) (by omega), if_pos (by omega), tcpTransport, if_pos fits, none,
    sub32_of_le (by omega) (by omega)]
  have length : ipv6Len packet - (0 + sizeTcp packet tcp + 0) = len + (tcp - 40) := by omega
  rw [length, Nat.add_zero, ← start]
  rfl

end

section

variable {frame : Bytes} {isIpv4 : Bool} {tcp payload len : Nat}

variable {tags : Tags} {transport : Transport}

lemma TcpFrame.tcpAt (whole : TcpFrame frame tags isIpv4 tcp payload len) :
    TcpAt (frame.drop tags.ipOffset) tcp payload len ∧ 20 ≤ tcp := by
  have packet := whole.packet
  cases isIpv4 with
  | false =>
    have ip : Ipv6Tcp _ tcp payload len := packet
    have := ip.chain.le.1
    exact ⟨ip.toTcpAt, by omega⟩
  | true =>
    have ip : Ipv4Tcp _ tcp payload len := packet
    exact ⟨ip.toTcpAt, ip.tcp_eq ▸ ip.header_le⟩

lemma TcpFrame.long (whole : TcpFrame frame tags isIpv4 tcp payload len) : 38 ≤ frame.length := by
  obtain ⟨tcpAt, behind⟩ := whole.tcpAt
  obtain ⟨header, captured⟩ := tcpAt.inside
  rw [length_drop] at captured
  omega

lemma getIpOffset_ethernet (long : 38 ≤ frame.length) : getIpOffset frame .en10mb =
      if be16 frame 12 = etherTypeVlan8021q then ethernetIpOffset frame (be16 frame 16) 2
      else if be16 frame 12 = etherTypeVlan8021ad then ethernetIpOffset frame (be16 frame 18) 4
      else ethernetIpOffset frame (be16 frame 12) 0 := by
  have whole : ¬frame.length < sizeEthernet + 20 + 4 := by
    rw [sizeEthernet]
    omega
  rw [getIpOffset, if_neg (by omega)]
  exact if_neg whole

lemma TcpFrame.locate_untagged (whole : TcpFrame frame .untagged isIpv4 tcp payload len) :
    ∃ caplen, locate frame frame.length .en10mb =
      some ⟨14 + tcp, 14 + payload, if isIpv4 then len else len + (tcp - 40), caplen⟩ := by
  obtain ⟨tcpAt, behind⟩ := whole.tcpAt
  have start := tcpAt.payload_eq
  have size := tcpAt.size_le
  have data := tcpAt.some_data
  have captured := tcpAt.captured
  change payload + len ≤ (frame.drop 14).length at captured
  rw [length_drop] at captured
  have announced := whole.announced
  change be16 frame 12 = _ at announced
  have ip : getIpOffset frame .en10mb = some ⟨14, isIpv4⟩ := by
    rw [getIpOffset_ethernet (by omega), announced]
    cases isIpv4 with
    | true => rfl
    | false =>
      have ip6 := whole.packet
      have le := ip6.chain.le.1
      have long : ¬frame.length ≤ 0 + sizeEthernet + 40 := by
        rw [sizeEthernet]
        omega
      exact if_neg long
  have transport : (if isIpv4 then getIpv4TransportOffset (frame.drop 14)
      else getIpv6TransportOffset (frame.drop 14)) =
        some ⟨protoTcp, tcp, payload, if isIpv4 then len else len + (tcp - 40)⟩ := by
    have packet := whole.packet
    cases isIpv4 with
    | true => exact Ipv4Tcp.transport packet
    | false => exact Ipv6Tcp.transport packet
  refine ⟨frame.length - 14 - payload, ?_⟩
  rw [locate, ip]
  dsimp only
  rw [if_neg (by omega), transport]
  dsimp only
  rw [length_drop, if_neg (by omega), if_neg (by omega)]

/-! ## Tagged frames -/

lemma locate_some {origlen : Nat} {linktype : LinkType} {located : Located}
    (found : locate frame origlen linktype = some located) :
    ∃ (ip : IpOffset) (transport : Transport), getIpOffset frame linktype = some ip ∧
      (if ip.isIpv4 then getIpv4TransportOffset (frame.drop ip.ipOffset)
        else getIpv6TransportOffset (frame.drop ip.ipOffset)) = some transport ∧
      transport.transportProto = protoTcp ∧ located.tcp = ip.ipOffset + transport.transportOffset ∧
      located.dataLen = transport.dataLen := by
  rw [locate] at found
  split at found
  · cases found
  next ip isIp =>
  split at found
  · cases found
  dsimp only at found
  split at found
  · cases found
  next transport isTransport =>
  split at found
  · cases found
  next valid =>
  split at found
  · cases found
  · obtain rfl := (Option.some.inj found).symm
    exact ⟨ip, transport, isIp, isTransport, not_not.mp (not_or.mp valid).1, rfl, rfl⟩

lemma ethernetIpOffset_some {etherType tagged : Nat} {ip : IpOffset}
    (found : ethernetIpOffset frame etherType tagged = some ip) : ip.ipOffset = 14 + tagged ∧
      etherType = if ip.isIpv4 then etherTypeIpv4 else etherTypeIpv6 := by
  rw [ethernetIpOffset] at found
  split at found
  next isV4 =>
    rw [← Option.some.inj found]
    exact ⟨rfl, isV4⟩
  · split at found
    next isV6 =>
      split at found
      · cases found
      · rw [← Option.some.inj found]
        exact ⟨rfl, isV6⟩
    · cases found

lemma byteAt_drop (frame : Bytes) (skip offset : Nat) :
    byteAt (frame.drop skip) offset = byteAt frame (skip + offset) := by
  rw [byteAt, byteAt, getD_eq_getElem?_getD, getD_eq_getElem?_getD, List.getElem?_drop]

lemma be16_drop (frame : Bytes) (skip offset : Nat) :
    be16 (frame.drop skip) offset = be16 frame (skip + offset) := by
  rw [be16, be16, byteAt_drop, byteAt_drop, Nat.add_assoc]

variable {packet : Bytes}

lemma transportOffset_mod {isIpv4 : Bool}
    (found : (if isIpv4 then getIpv4TransportOffset packet else getIpv6TransportOffset packet) =
      some transport) (isTcp : transport.transportProto = protoTcp) :
    transport.transportOffset % 4 = 0 := by
  cases isIpv4 with
  | true =>
    have offset := tcpTransport_offset (getIpv4TransportOffset_tcp found isTcp)
    rw [offset, sizeIp]
    omega
  | false =>
    obtain ⟨le, -, multiple⟩ := (getIpv6TransportOffset_tcp found isTcp).1.le
    omega

lemma TcpFrame.tcp_mod (whole : TcpFrame frame tags isIpv4 tcp payload len) : tcp % 4 = 0 := by
  have packet := whole.packet
  cases isIpv4 with
  | true =>
    have ip : Ipv4Tcp _ tcp payload len := packet
    rw [ip.tcp_eq, sizeIp]
    omega
  | false =>
    have ip : Ipv6Tcp _ tcp payload len := packet
    obtain ⟨le, -, multiple⟩ := ip.chain.le
    omega

lemma TcpFrame.not_exact_dot1q (whole : TcpFrame frame .dot1q isIpv4 tcp payload len) :
    ¬LocatesExactly frame .dot1q tcp payload len := by
  rintro ⟨caplen, found⟩
  obtain ⟨ip, transport, isIp, isTransport, isTcp, start, -⟩ := locate_some found
  have tagged := whole.announced.1
  rw [getIpOffset_ethernet whole.long, if_pos tagged] at isIp
  have offset : ip.ipOffset = 16 := (ethernetIpOffset_some isIp).1
  have here := transportOffset_mod isTransport isTcp
  have there := whole.tcp_mod
  change 18 + tcp = _ at start
  omega

lemma Chain.nxthdr_le {nxthdr offset : Nat} (chain : Chain packet nxthdr offset tcp) :
    nxthdr ≤ 60 := by
  cases chain with
  | tcp => decide
  | extension isExt =>
    simp only [isExtension, Bool.or_eq_true, decide_eq_true_eq] at isExt
    omega

lemma tcpTransport_dataLen {offset before tlen : Nat}
    (found : tcpTransport packet offset before tlen = some transport)
    (none : urgLen packet offset = 0) :
    transport.dataLen = sub32 tlen (before + sizeTcp packet offset) := by
  rw [tcpTransport] at found
  split at found
  · rw [← Option.some.inj found, none]
    rfl
  · cases found

lemma tcp_drop (frame : Bytes) {skip skip' offset offset' : Nat}
    (same : skip + offset = skip' + offset') :
    sizeTcp (frame.drop skip) offset = sizeTcp (frame.drop skip') offset' ∧
      urgLen (frame.drop skip) offset = urgLen (frame.drop skip') offset' := by
  have shift : ∀ more, skip + (offset + more) = skip' + (offset' + more) := by
    intro more
    omega
  simp only [sizeTcp, urgLen, byteAt_drop, be16_drop, shift, and_self]

lemma getIpv4TransportOffset_unfragmented
    (found : getIpv4TransportOffset packet = some transport) : be16 packet 6 % 2 ^ 13 = 0 := by
  rw [getIpv4TransportOffset] at found
  split at found
  · cases found
  next whole =>
    exact not_not.mp whole

section

variable (whole : TcpFrame frame .dot1ad isIpv4 tcp payload len)
include whole

lemma TcpFrame.early_ipv4 (isTransport : getIpv4TransportOffset (frame.drop 18) = some transport)
    (isTcp : transport.transportProto = protoTcp) (inner : be16 frame 18 = etherTypeIpv4)
    (start : 22 + tcp = 18 + transport.transportOffset) : transport.dataLen ≠ len := by
  intro length
  obtain ⟨tcpAt, -⟩ := whole.tcpAt
  change TcpAt (frame.drop 22) tcp payload len at tcpAt
  have parsed := getIpv4TransportOffset_tcp isTransport isTcp
  have offset := tcpTransport_offset parsed
  have header : sizeIp (frame.drop 18) = 32 := by
    have low := byteAt_lt frame 19
    rw [be16, etherTypeIpv4] at inner
    simp only [Nat.reduceAdd] at inner
    rw [sizeIp, byteAt_drop, Nat.add_zero]
    omega
  cases isIpv4 with
  | false =>
    have ip : Ipv6Tcp (frame.drop 22) tcp payload len := whole.packet
    have := ip.chain.le.1
    omega
  | true =>
    have ip : Ipv4Tcp (frame.drop 22) tcp payload len := whole.packet
    have isType : be16 frame 20 = 0x0800 := whole.announced.2.2
    have total := ip.total_eq
    have payloadEq := ip.payload_eq
    have sizeSmall := sizeTcp_le (frame.drop 22) tcp
    have fragment := getIpv4TransportOffset_unfragmented isTransport
    obtain ⟨sameSize, sameUrgent⟩ := tcp_drop frame (show 18 + 32 = 22 + tcp by omega)
    rw [header] at parsed
    have computed := tcpTransport_dataLen parsed (sameUrgent.trans ip.toTcpAt.fits.2)
    rw [ipv4Len, be16_drop] at computed total
    rw [be16_drop] at fragment
    simp only [Nat.reduceAdd] at computed total fragment
    rw [isType, if_pos (by decide), sameSize, sub32_of_le (by decide) (by omega)] at computed
    omega

lemma TcpFrame.early_ipv6 (isTransport : getIpv6TransportOffset (frame.drop 18) = some transport)
    (isTcp : transport.transportProto = protoTcp)
    (start : 22 + tcp = 18 + transport.transportOffset) : transport.dataLen ≠ len := by
  intro length
  obtain ⟨found, parsed⟩ := getIpv6TransportOffset_tcp isTransport isTcp
  obtain ⟨foundLe, -, foundMultiple⟩ := found.le
  cases isIpv4 with
  | false =>
    have ip : Ipv6Tcp (frame.drop 22) tcp payload len := whole.packet
    obtain ⟨le, -, multiple⟩ := ip.chain.le
    omega
  | true =>
    have ip : Ipv4Tcp (frame.drop 22) tcp payload len := whole.packet
    have total := ip.total_eq
    have payloadEq := ip.payload_eq
    have version := ip.version
    have sizeSmall := sizeTcp_le (frame.drop 22) tcp
    have next := found.nxthdr_le
    obtain ⟨sameSize, sameUrgent⟩ := tcp_drop frame start.symm
    have computed := tcpTransport_dataLen parsed (sameUrgent.trans ip.toTcpAt.fits.2)
    have low := byteAt_lt frame 25
    have declared := be16_lt frame 22
    rw [ipv6Len, be16_drop] at computed
    rw [ipv4Len, be16_drop] at total
    rw [byteAt_drop] at next version
    simp only [Nat.reduceAdd] at computed total next version
    have large : 2 ^ 14 ≤ be16 frame 22 := by
      rw [be16]
      omega
    rw [if_pos (by omega), sameSize, sub32_of_le (by omega) (by omega)] at computed
    rw [be16] at total
    simp only [Nat.reduceAdd] at total
    omega

lemma TcpFrame.not_exact_dot1ad : ¬LocatesExactly frame .dot1ad tcp payload len := by
  rintro ⟨caplen, found⟩
  obtain ⟨ip, transport, isIp, isTransport, isTcp, start, length⟩ := locate_some found
  obtain ⟨outer, -, -⟩ := whole.announced
  rw [getIpOffset_ethernet whole.long, outer, if_neg (by decide), if_pos rfl] at isIp
  obtain ⟨offset, isType⟩ := ethernetIpOffset_some isIp
  change 22 + tcp = _ at start
  rw [offset] at isTransport start
  cases parsedAs : ip.isIpv4 with
  | true =>
    rw [parsedAs] at isTransport isType
    exact whole.early_ipv4 isTransport isTcp isType start length.symm
  | false =>
    rw [parsedAs] at isTransport
    exact whole.early_ipv6 isTransport isTcp start length.symm

end

end

/-- For every well-formed frame: `process_pkt` locates the segment exactly if and only if the
frame has no tag, and no extension header in IPv6. -/
theorem locate_exact_iff {frame : Bytes} {tags : Tags} {isIpv4 : Bool} {tcp payload len : Nat}
    (whole : TcpFrame frame tags isIpv4 tcp payload len) :
    LocatesExactly frame tags tcp payload len ↔
      tags = .untagged ∧ (isIpv4 = true ∨ byteAt (frame.drop tags.ipOffset) 6 = protoTcp) := by
  cases tags with
  | dot1q =>
    refine ⟨fun exact => absurd exact whole.not_exact_dot1q, ?_⟩
    rintro ⟨tagged, -⟩
    cases tagged
  | dot1ad =>
    refine ⟨fun exact => absurd exact whole.not_exact_dot1ad, ?_⟩
    rintro ⟨tagged, -⟩
    cases tagged
  | untagged =>
    obtain ⟨caplen, found⟩ := whole.locate_untagged
    cases isIpv4 with
    | true => exact ⟨fun _ => ⟨rfl, .inl rfl⟩, fun _ => ⟨caplen, found⟩⟩
    | false =>
      have ip : Ipv6Tcp (frame.drop Tags.untagged.ipOffset) tcp payload len := whole.packet
      obtain ⟨le, direct, -⟩ := ip.chain.le
      constructor
      · rintro ⟨other, exact⟩
        have same := congrArg (Option.map Located.dataLen) (found.symm.trans exact)
        have length : len + (tcp - 40) = len := Option.some.inj same
        exact ⟨rfl, .inr (direct.mp (by omega))⟩
      · rintro ⟨-, isV4 | isTcp⟩
        · cases isV4
        · have none : tcp = 40 := (direct.mpr isTcp).symm
          subst none
          exact ⟨caplen, found⟩

/-- An untagged frame with 8 bytes of payload in IPv4. -/
def untaggedFrame : Bytes :=
  [2, 0, 0, 0, 0, 1, 2, 0, 0, 0, 0, 2, 0x08, 0x00,
    0x45, 0, 0, 48, 0, 0, 0x40, 0, 64, 6, 0, 0, 10, 0, 0, 1, 10, 0, 0, 2,
    0, 80, 0, 80, 0, 0, 0, 0, 0, 0, 0, 0, 0x50, 0x18, 0, 0, 0, 0, 0, 0, 1, 2, 3, 4, 5, 6, 7, 8]

lemma untaggedFrame_tcp : TcpFrame untaggedFrame .untagged true 20 40 8 where
  captured := by decide
  announced := show be16 untaggedFrame 12 = etherTypeIpv4 by decide
  packet := show Ipv4Tcp (untaggedFrame.drop 14) 20 40 8 from
    ⟨⟨by decide, by decide, by decide, by decide, by decide⟩, by decide, by decide, by decide,
      by decide, by decide, by decide⟩

theorem locate_exact_untagged : LocatesExactly untaggedFrame .untagged 20 40 8 :=
  (locate_exact_iff untaggedFrame_tcp).mpr ⟨rfl, .inl rfl⟩

/-- The same segment behind an 802.1Q tag. -/
def taggedFrame : Bytes :=
  untaggedFrame.take 12 ++ [0x81, 0x00, 0, 5] ++ untaggedFrame.drop 12

/-- The same segment behind an IPv6 header with a hop-by-hop header of 8 bytes. -/
def extensionFrame : Bytes :=
  untaggedFrame.take 12 ++ [0x86, 0xDD, 0x60, 0, 0, 0, 0, 36, 0, 64] ++ List.replicate 32 0 ++
    [6, 0, 1, 4, 0, 0, 0, 0] ++ untaggedFrame.drop 34

lemma taggedFrame_tcp : TcpFrame taggedFrame .dot1q true 20 40 8 where
  captured := by decide
  announced := show be16 taggedFrame 12 = etherTypeVlan8021q ∧
    be16 taggedFrame 16 = etherTypeIpv4 by decide
  packet := show Ipv4Tcp (taggedFrame.drop 18) 20 40 8 from
    ⟨⟨by decide, by decide, by decide, by decide, by decide⟩, by decide, by decide, by decide,
      by decide, by decide, by decide⟩

lemma extensionFrame_tcp : TcpFrame extensionFrame .untagged false 48 68 8 where
  captured := by decide
  announced := show be16 extensionFrame 12 = etherTypeIpv6 by decide
  packet := show Ipv6Tcp (extensionFrame.drop 14) 48 68 8 from
    ⟨⟨by decide, by decide, by decide, by decide, by decide⟩, by decide,
      .extension (by decide) (.tcp 48), by decide⟩

/-- The tagged frame is dropped; behind the extension header 16 bytes of payload are computed
instead of 8. -/
theorem locate_misses :
    TcpFrame taggedFrame .dot1q true 20 40 8 ∧ locate taggedFrame 66 .en10mb = none ∧
      TcpFrame extensionFrame .untagged false 48 68 8 ∧
      locate extensionFrame 90 .en10mb = some ⟨62, 82, 16, 8⟩ :=
  ⟨taggedFrame_tcp, by decide, extensionFrame_tcp, by decide⟩

end Gyeeta.Capture
