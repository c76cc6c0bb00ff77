import Gyeeta.Capture.Service
import Gyeeta.Lib.Bytes
import Gyeeta.Lib.Rounding

/-!
# Fragments of a packet

`send_pkt_to_parser` copies a packet to buffers of a fixed size, each with a header of its own.
The sequence numbers of the headers are computed from the bytes sent before, while the header of
the whole packet counts its urgent pointer and one for a `SYN`.
-/

namespace Gyeeta.Capture

open List

/-- `PARSE_PKT_HDR` with the members the parser itself does not use, and the data behind it. -/
structure ParsePkt where
  hdr : ParsePktHdr
  wirelen : Nat
  urg : Bool
  data : Bytes
  deriving DecidableEq, Repr

namespace ParsePkt

/-- A packet as `set_api_msghdr` and `process_pkt` hand it on. -/
def captured (cli : IpPort) (tcp : TcpHdr) (urg : Bool) (wirelen tvPkt : Nat) (dir : DirPacket)
    (data : Bytes) : ParsePkt where
  hdr := setApiMsghdr cli tcp data.length tvPkt dir
  wirelen := wirelen
  urg := urg
  data := data

/-- The numbers of the sender's direction. -/
def startSeq (pkt : ParsePkt) : Seq :=
  pkt.hdr.startSeq.get pkt.hdr.side

def nxtSeq (pkt : ParsePkt) : Seq :=
  pkt.hdr.nxtSeq.get pkt.hdr.side

/-- `get_trunc_bytes`, a `uint32_t` -/
def truncBytes (pkt : ParsePkt) : Nat :=
  (pkt.wirelen + 2 ^ 32 - pkt.hdr.datalen) % 2 ^ 32

/-- A packet without data and without `SYN`, `FIN` and `RST`. -/
def isAck (pkt : ParsePkt) : Bool :=
  pkt.data.isEmpty && !pkt.hdr.tcpflags.syn && !pkt.hdr.tcpflags.fin && !pkt.hdr.tcpflags.rst

section

variable (fragLen : Nat)

def nfrag (pkt : ParsePkt) : Nat :=
  max 1 (divRoundUp pkt.data.length fragLen)

/-- The fragment with number `index`, with the bytes behind the first `nbytesdone`. -/
def fragment (pkt : ParsePkt) (index nbytesdone : Nat) : ParsePkt :=
  let nbytes := min (pkt.data.length - nbytesdone) fragLen
  let data := pkt.data.slice nbytesdone nbytes
  if 1 < pkt.nfrag fragLen then
    { hdr := fragHdr pkt.hdr (pkt.nfrag fragLen) index nbytesdone nbytes
      wirelen := (nbytes + if index + 1 = pkt.nfrag fragLen then pkt.truncBytes else 0) % 2 ^ 32
      urg := pkt.urg && index = 0
      data := data }
  else { pkt with data := data }

/-- The loop of `send_pkt_to_parser`, with `count` fragments left. -/
def fragmentLoop (pkt : ParsePkt) : (count index nbytesdone : Nat) → List ParsePkt
  | 0, _, _ => []
  | count + 1, index, nbytesdone =>
    if nbytesdone ≤ pkt.data.length then pkt.fragment fragLen index nbytesdone ::
        fragmentLoop pkt count (index + 1) (nbytesdone + min (pkt.data.length - nbytesdone) fragLen)
    else []

/-- `send_pkt_to_parser`, where the pool and the queue have room. -/
def sendPktToParser (pkt : ParsePkt) : List ParsePkt :=
  if pkt.isAck then [] else pkt.fragmentLoop fragLen (pkt.nfrag fragLen) 0 0

end

/-! ## The fragments by their number -/

section

variable {fragLen : Nat} {pkt : ParsePkt}

lemma fragmentLoop_eq (pos : 0 < fragLen) {count index : Nat}
    (whole : index + count = pkt.nfrag fragLen) :
    pkt.fragmentLoop fragLen count index (index * fragLen) =
      (List.range' index count).map fun index => pkt.fragment fragLen index (index * fragLen) := by
  induction count generalizing index with
  | zero => rfl
  | succ count ih =>
    have inside : index * fragLen ≤ pkt.data.length := by
      rcases Nat.eq_zero_or_pos index with rfl | later
      · omega
      · refine Nat.le_of_lt (lt_of_lt_divRoundUp pos ?_)
        rw [nfrag] at whole
        omega
    rw [fragmentLoop, if_pos inside, List.range'_succ, map_cons]
    congr 1
    cases count with
    | zero => rfl
    | succ count =>
      have full : (index + 1) * fragLen < pkt.data.length := by
        apply lt_of_lt_divRoundUp pos
        rw [nfrag] at whole
        omega
      have next : index * fragLen + min (pkt.data.length - index * fragLen) fragLen =
          (index + 1) * fragLen := by
        rw [Nat.add_mul, Nat.one_mul] at full ⊢
        omega
      rw [next]
      exact ih (by omega)

lemma sendPktToParser_eq (pos : 0 < fragLen) (data : pkt.isAck = false) :
    pkt.sendPktToParser fragLen = (List.range (pkt.nfrag fragLen)).map fun index =>
        pkt.fragment fragLen index (index * fragLen) := by
  have loop := @fragmentLoop_eq fragLen pkt pos (pkt.nfrag fragLen) 0 (Nat.zero_add _)
  rw [Nat.zero_mul] at loop
  rw [sendPktToParser, data, range_eq_range']
  exact loop

lemma flatMap_slices (data : Bytes) (fragLen count : Nat) :
    (List.range count).flatMap (fun index => data.slice (index * fragLen)
      (min (data.length - index * fragLen) fragLen)) = data.take (count * fragLen) := by
  induction count with
  | zero => simp
  | succ count ih =>
    have last : data.slice (count * fragLen) (min (data.length - count * fragLen) fragLen) =
        (data.drop (count * fragLen)).take fragLen := by
      rw [Bytes.slice, Nat.min_comm, ← length_drop, ← take_take, take_length]
    rw [range_succ, flatMap_append, ih, flatMap_singleton, last, Nat.add_mul, Nat.one_mul, take_add]

/-! ## What the fragments should be -/

/-- The fragments hold the packet's data in order, none is too long, their sequence numbers are
connected and span the packet's, their lengths on the wire add up to the packet's, and the flags
stand on the first or the last of them. -/
structure Splits (fragLen : Nat) (pkt : ParsePkt) (frags : List ParsePkt) : Prop where
  data_eq : frags.flatMap data = pkt.data
  size_le : ∀ frag ∈ frags, frag.data.length ≤ fragLen ∧ frag.hdr.datalen = frag.data.length
  connected : ∀ index frag next, frags[index]? = some frag → frags[index + 1]? = some next →
    frag.nxtSeq = next.startSeq
  first_eq : ∀ frag, frags.head? = some frag → frag.startSeq = pkt.startSeq
  last_eq : ∀ frag, frags.getLast? = some frag → frag.nxtSeq = pkt.nxtSeq
  wirelen_eq : frags ≠ [] → (frags.map wirelen).sum = pkt.wirelen
  syn_first : ∀ index frag, frags[index]? = some frag →
    frag.hdr.tcpflags.syn = (pkt.hdr.tcpflags.syn && index = 0)
  fin_last : ∀ index frag, frags[index]? = some frag →
    frag.hdr.tcpflags.fin = (pkt.hdr.tcpflags.fin && index + 1 = frags.length)
  rst_last : ∀ index frag, frags[index]? = some frag →
    frag.hdr.tcpflags.rst = (pkt.hdr.tcpflags.rst && index + 1 = frags.length)

/-! ## A packet in one fragment -/

lemma nfrag_eq_one (pos : 0 < fragLen) (short : pkt.data.length ≤ fragLen) :
    pkt.nfrag fragLen = 1 := by
  rw [nfrag]
  by_contra more
  have : 1 * fragLen < pkt.data.length := lt_of_lt_divRoundUp pos (by omega)
  omega

lemma one_lt_nfrag (long : fragLen < pkt.data.length) (pos : 0 < fragLen) :
    1 < pkt.nfrag fragLen := by
  by_contra few
  have one : divRoundUp pkt.data.length fragLen ≤ 1 := by
    rw [nfrag] at few
    omega
  have enough := le_divRoundUp_mul pkt.data.length pos
  have := Nat.mul_le_mul_right fragLen one
  omega

lemma sendPktToParser_short (pos : 0 < fragLen) (short : pkt.data.length ≤ fragLen)
    (data : pkt.isAck = false) : pkt.sendPktToParser fragLen = [pkt] := by
  have one := nfrag_eq_one pos short
  have same : pkt.data.slice 0 pkt.data.length = pkt.data := by
    rw [Bytes.slice_zero, take_length]
  rw [sendPktToParser_eq pos data, one]
  simp [fragment, one, Nat.min_eq_left short, same, range_succ]

lemma Splits.single (short : pkt.data.length ≤ fragLen)
    (exact : pkt.hdr.datalen = pkt.data.length) : Splits fragLen pkt [pkt] where
  data_eq := flatMap_singleton _ _
  size_le := by
    intro frag mem
    rw [mem_singleton.mp mem]
    exact ⟨short, exact⟩
  connected := by
    intro index frag next _ isNext
    cases isNext
  first_eq := by
    rintro _ ⟨⟩
    rfl
  last_eq := by
    rintro _ ⟨⟩
    rfl
  wirelen_eq _ := sum_singleton
  syn_first := single_flag fun _ => by simp
  fin_last := single_flag fun _ => by simp
  rst_last := single_flag fun _ => by simp
where
  single_flag {holds : Nat → ParsePkt → Prop} (here : ∀ _ : Unit, holds 0 pkt) (index : Nat)
      (frag : ParsePkt) (found : [pkt][index]? = some frag) : holds index frag := by
    cases index with
    | zero =>
      cases found
      exact here ()
    | succ index => cases found

lemma Splits.nil (empty : pkt.data = []) : Splits fragLen pkt [] where
  data_eq := empty.symm
  size_le _ mem := absurd mem not_mem_nil
  connected _ _ _ found := absurd found.symm (Option.some_ne_none _)
  first_eq _ found := absurd found.symm (Option.some_ne_none _)
  last_eq _ found := absurd found.symm (Option.some_ne_none _)
  wirelen_eq some := absurd rfl some
  syn_first _ _ found := absurd found.symm (Option.some_ne_none _)
  fin_last _ _ found := absurd found.symm (Option.some_ne_none _)
  rst_last _ _ found := absurd found.symm (Option.some_ne_none _)

/-! ## A packet in several fragments -/

variable (several : 1 < pkt.nfrag fragLen)

include several

lemma fragment_startSeq (index nbytesdone : Nat) :
    (pkt.fragment fragLen index nbytesdone).startSeq =
      pkt.startSeq + BitVec.ofNat 32 nbytesdone := by
  rw [fragment, if_pos several]
  exact PerSide.get_set_self _ _ _

lemma fragment_nxtSeq (index nbytesdone : Nat) : (pkt.fragment fragLen index nbytesdone).nxtSeq =
      pkt.startSeq + BitVec.ofNat 32 nbytesdone +
        BitVec.ofNat 32 (min (pkt.data.length - nbytesdone) fragLen) +
        (if pkt.hdr.tcpflags.syn && index = 0 then 2 else 0) := by
  rw [fragment, if_pos several]
  exact PerSide.get_set_self _ _ _

lemma full_of_lt (pos : 0 < fragLen) {index : Nat} (notLast : index + 1 < pkt.nfrag fragLen) :
    index * fragLen + fragLen < pkt.data.length := by
  have full : (index + 1) * fragLen < pkt.data.length := by
    apply lt_of_lt_divRoundUp pos
    rw [nfrag] at notLast several
    omega
  rwa [Nat.add_mul, Nat.one_mul] at full

lemma last_bounds (pos : 0 < fragLen) : (pkt.nfrag fragLen - 1) * fragLen < pkt.data.length ∧
      pkt.data.length ≤ (pkt.nfrag fragLen - 1) * fragLen + fragLen := by
  constructor
  · apply lt_of_lt_divRoundUp pos
    rw [nfrag] at several ⊢
    omega
  have enough := le_divRoundUp_mul pkt.data.length pos
  have count : pkt.nfrag fragLen - 1 + 1 = divRoundUp pkt.data.length fragLen := by
    rw [nfrag] at several ⊢
    omega
  rwa [← count, Nat.add_mul, Nat.one_mul] at enough

lemma sum_wirelen (pos : 0 < fragLen) (short : pkt.data.length < 2 ^ 32)
    (data : pkt.isAck = false) : ((pkt.sendPktToParser fragLen).map wirelen).sum =
      (pkt.nfrag fragLen - 1) * fragLen +
        (pkt.data.length - (pkt.nfrag fragLen - 1) * fragLen + pkt.truncBytes) % 2 ^ 32 := by
  obtain ⟨lower, upper⟩ := last_bounds several pos
  obtain ⟨last, isLast⟩ : ∃ last, pkt.nfrag fragLen = last + 1 := ⟨pkt.nfrag fragLen - 1, by omega⟩
  have full : ∀ index ∈ List.range last,
      (pkt.fragment fragLen index (index * fragLen)).wirelen = fragLen := by
    intro index mem
    have inside := mem_range.mp mem
    have room := @full_of_lt fragLen pkt several pos index (by omega)
    rw [fragment, if_pos several]
    simp only
    rw [if_neg (by omega), Nat.add_zero, Nat.min_eq_right (by omega), Nat.mod_eq_of_lt (by omega)]
  have rest : (pkt.fragment fragLen last (last * fragLen)).wirelen =
      (pkt.data.length - last * fragLen + pkt.truncBytes) % 2 ^ 32 := by
    rw [isLast, Nat.add_sub_cancel] at upper
    rw [fragment, if_pos several]
    simp only
    rw [if_pos isLast.symm, Nat.min_eq_left (by omega)]
  rw [sendPktToParser_eq pos data, isLast, range_succ, map_map, map_append,
    sum_append, Function.comp_def, map_congr_left full, map_singleton,
    sum_singleton, Nat.add_sub_cancel, rest]
  rw [map_const', length_range, sum_replicate_nat]

omit several in
lemma getElem?_sendPktToParser (pos : 0 < fragLen) (data : pkt.isAck = false) (index : Nat) :
    (pkt.sendPktToParser fragLen)[index]? =
      if index < pkt.nfrag fragLen then some (pkt.fragment fragLen index (index * fragLen))
      else none := by
  rw [sendPktToParser_eq pos data, List.getElem?_map]
  split
  next inside =>
    rw [List.getElem?_range inside]
    rfl
  next outside =>
    rw [List.getElem?_eq_none (by rw [length_range]; omega)]
    rfl

omit several in
lemma length_sendPktToParser (pos : 0 < fragLen) (data : pkt.isAck = false) :
    (pkt.sendPktToParser fragLen).length = pkt.nfrag fragLen := by
  rw [sendPktToParser_eq pos data, length_map, length_range]

end

section

variable {fragLen : Nat} {cli : IpPort} {tcp : TcpHdr} {urg : Bool} {wirelen tvPkt : Nat}
  {dir : DirPacket} {data : Bytes}

lemma captured_startSeq : (captured cli tcp urg wirelen tvPkt dir data).startSeq = tcp.seq :=
  PerSide.get_mk'_self _ _ _

lemma captured_nxtSeq :
    (captured cli tcp urg wirelen tvPkt dir data).nxtSeq = tcp.nextExpectedSrcSeq data.length :=
  PerSide.get_mk'_self _ _ _

lemma seq_add (seq : Seq) (done more : Nat) :
    seq + BitVec.ofNat 32 done + BitVec.ofNat 32 more = seq + BitVec.ofNat 32 (done + more) := by
  rw [BitVec.ofNat_add, BitVec.add_assoc]

section

variable (pos : 0 < fragLen)
include pos

lemma last_nxtSeq {pkt : ParsePkt} (several : 1 < pkt.nfrag fragLen) :
    (pkt.fragment fragLen (pkt.nfrag fragLen - 1) ((pkt.nfrag fragLen - 1) * fragLen)).nxtSeq =
      pkt.startSeq + BitVec.ofNat 32 pkt.data.length := by
  obtain ⟨lower, upper⟩ := last_bounds several pos
  have later : ¬pkt.nfrag fragLen - 1 = 0 := by omega
  rw [fragment_nxtSeq several, seq_add, Nat.min_eq_left (by omega), Nat.add_sub_cancel' (by omega)]
  simp [later]

lemma getLast?_sendPktToParser {pkt : ParsePkt} (notAck : pkt.isAck = false)
    (several : 1 < pkt.nfrag fragLen) : (pkt.sendPktToParser fragLen).getLast? = some
      (pkt.fragment fragLen (pkt.nfrag fragLen - 1) ((pkt.nfrag fragLen - 1) * fragLen)) := by
  rw [List.getLast?_eq_getElem?, length_sendPktToParser pos notAck,
    getElem?_sendPktToParser pos notAck, if_pos (by omega)]

lemma captured_several (long : fragLen < data.length) :
    (captured cli tcp urg wirelen tvPkt dir data).isAck = false ∧
      1 < (captured cli tcp urg wirelen tvPkt dir data).nfrag fragLen := by
  refine ⟨?_, one_lt_nfrag long pos⟩
  cases data with
  | nil => exact absurd long (Nat.not_lt_zero _)
  | cons _ _ => rfl

lemma Splits.necessary (short : data.length < 2 ^ 32)
    (long : fragLen < data.length)
    (splits : Splits fragLen (captured cli tcp urg wirelen tvPkt dir data)
      ((captured cli tcp urg wirelen tvPkt dir data).sendPktToParser fragLen)) :
    tcp.tcpflags.syn = false ∧ tcp.urgPtr = 0 ∧
      ((captured cli tcp urg wirelen tvPkt dir data).nfrag fragLen - 1) * fragLen ≤ wirelen := by
  have startSeq := @captured_startSeq cli tcp urg wirelen tvPkt dir data
  have nxtSeq := @captured_nxtSeq cli tcp urg wirelen tvPkt dir data
  have isData : (captured cli tcp urg wirelen tvPkt dir data).data = data := rfl
  have isSyn : (captured cli tcp urg wirelen tvPkt dir data).hdr.tcpflags.syn =
    tcp.tcpflags.syn := rfl
  have isWirelen : (captured cli tcp urg wirelen tvPkt dir data).wirelen = wirelen := rfl
  obtain ⟨notAck, several⟩ := @captured_several fragLen cli tcp urg wirelen tvPkt dir data pos long
  generalize captured cli tcp urg wirelen tvPkt dir data = pkt at *
  have noSyn : tcp.tcpflags.syn = false := by
    have connected := splits.connected 0 _ _
      ((getElem?_sendPktToParser pos notAck 0).trans (if_pos (by omega)))
      ((getElem?_sendPktToParser pos notAck 1).trans (if_pos several))
    rw [fragment_nxtSeq several, fragment_startSeq several, seq_add, Nat.zero_mul, Nat.one_mul,
      Nat.sub_zero, Nat.zero_add, Nat.min_eq_right (by rw [isData]; omega)] at connected
    rw [← isSyn]
    cases syn : pkt.hdr.tcpflags.syn with
    | false => rfl
    | true =>
      rw [syn] at connected
      exact absurd (BitVec.add_right_eq_self.mp connected) (by decide)
  have noUrgent : tcp.urgPtr = 0 := by
    have ends := splits.last_eq _ (getLast?_sendPktToParser pos notAck several)
    rw [last_nxtSeq pos several, nxtSeq, TcpHdr.nextExpectedSrcSeq, noSyn, startSeq, isData] at ends
    simp only [Bool.false_eq_true, if_false, BitVec.ofNat_eq_ofNat, BitVec.add_zero] at ends
    have zero := congrArg BitVec.toNat (BitVec.add_right_eq_self.mp ends.symm)
    apply BitVec.eq_of_toNat_eq
    rw [BitVec.toNat_setWidth, Nat.mod_eq_of_lt (by omega)] at zero
    exact zero
  refine ⟨noSyn, noUrgent, ?_⟩
  have nonempty : pkt.sendPktToParser fragLen ≠ [] := by
    intro empty
    have := length_sendPktToParser pos notAck
    rw [empty, length_nil] at this
    omega
  have total := splits.wirelen_eq nonempty
  rw [sum_wirelen several pos (by rw [isData]; exact short) notAck, isWirelen] at total
  omega

lemma Splits.sufficient (short : data.length < 2 ^ 32)
    (wire : wirelen < 2 ^ 32) (long : fragLen < data.length) (noSyn : tcp.tcpflags.syn = false)
    (noUrgent : tcp.urgPtr = 0)
    (fits : ((captured cli tcp urg wirelen tvPkt dir data).nfrag fragLen - 1) * fragLen ≤ wirelen) :
    Splits fragLen (captured cli tcp urg wirelen tvPkt dir data)
      ((captured cli tcp urg wirelen tvPkt dir data).sendPktToParser fragLen) := by
  have startSeq := @captured_startSeq cli tcp urg wirelen tvPkt dir data
  have nxtSeq := @captured_nxtSeq cli tcp urg wirelen tvPkt dir data
  have isData : (captured cli tcp urg wirelen tvPkt dir data).data = data := rfl
  have isLen : (captured cli tcp urg wirelen tvPkt dir data).hdr.datalen = data.length := rfl
  have isSyn : (captured cli tcp urg wirelen tvPkt dir data).hdr.tcpflags.syn = false := noSyn
  have isWirelen : (captured cli tcp urg wirelen tvPkt dir data).wirelen = wirelen := rfl
  obtain ⟨notAck, several⟩ :=
    @captured_several fragLen cli tcp urg wirelen tvPkt dir data pos long
  generalize captured cli tcp urg wirelen tvPkt dir data = pkt at *
  have count := length_sendPktToParser pos notAck
  have at_ : ∀ {index frag}, (pkt.sendPktToParser fragLen)[index]? = some frag →
      index < pkt.nfrag fragLen ∧ frag = pkt.fragment fragLen index (index * fragLen) := by
    intro index frag found
    rw [getElem?_sendPktToParser pos notAck] at found
    split at found
    next inside =>
      exact ⟨inside, (Option.some.inj found).symm⟩
    · cases found
  obtain ⟨lower, upper⟩ := last_bounds several pos
  refine ⟨?data, ?size, ?connected, ?first, ?last, ?wirelen, ?syn, ?fin, ?rst⟩
  case data =>
    have enough : pkt.data.length ≤ pkt.nfrag fragLen * fragLen := by
      refine (le_divRoundUp_mul pkt.data.length pos).trans (Nat.mul_le_mul_right _ ?_)
      rw [nfrag]
      omega
    rw [sendPktToParser_eq pos notAck, flatMap_map]
    simp only [fragment, if_pos several]
    rw [flatMap_slices, take_of_length_le enough]
  case size =>
    intro frag mem
    obtain ⟨index, inside, rfl⟩ := mem_iff_getElem?.mp mem |>.imp fun _ => at_
    simp only [fragment, if_pos several, fragHdr, Bytes.length_slice]
    omega
  case connected =>
    intro index frag next isFrag isNext
    obtain ⟨-, rfl⟩ := at_ isFrag
    obtain ⟨inside, rfl⟩ := at_ isNext
    have full := full_of_lt several pos inside
    rw [fragment_nxtSeq several, fragment_startSeq several, seq_add, isSyn,
      Nat.min_eq_right (by omega), Nat.add_mul, Nat.one_mul]
    simp
  case first =>
    intro frag isHead
    rw [List.head?_eq_getElem?] at isHead
    obtain ⟨-, rfl⟩ := at_ isHead
    rw [fragment_startSeq several, Nat.zero_mul]
    exact BitVec.add_zero _
  case last =>
    intro frag isLast
    rw [getLast?_sendPktToParser pos notAck several] at isLast
    rw [← Option.some.inj isLast, last_nxtSeq pos several, nxtSeq, startSeq, isData,
      TcpHdr.nextExpectedSrcSeq, noSyn, noUrgent]
    simp
  case wirelen =>
    intro _
    rw [sum_wirelen several pos (by rw [isData]; exact short) notAck, truncBytes, isWirelen, isLen,
      isData]
    rw [isData] at lower upper
    omega
  case syn =>
    intro index frag found
    obtain ⟨-, rfl⟩ := at_ found
    simp only [fragment, if_pos several, fragHdr]
  case fin =>
    intro index frag found
    obtain ⟨-, rfl⟩ := at_ found
    simp only [fragment, if_pos several, fragHdr, count]
  case rst =>
    intro index frag found
    obtain ⟨-, rfl⟩ := at_ found
    simp only [fragment, if_pos several, fragHdr, count]

end

/-- For every captured packet: its fragments are as they should be if and only if it fits in one
buffer, or it has neither `SYN` nor urgent pointer and the bytes before its last fragment are
within its length on the wire. -/
theorem sendPktToParser_splits_iff (pos : 0 < fragLen) (cli : IpPort) (tcp : TcpHdr) (urg : Bool)
    (tvPkt : Nat) (dir : DirPacket) (short : data.length < 2 ^ 32) (wire : wirelen < 2 ^ 32) :
    Splits fragLen (captured cli tcp urg wirelen tvPkt dir data)
        ((captured cli tcp urg wirelen tvPkt dir data).sendPktToParser fragLen) ↔
      data.length ≤ fragLen ∨ (tcp.tcpflags.syn = false ∧ tcp.urgPtr = 0 ∧
        ((captured cli tcp urg wirelen tvPkt dir data).nfrag fragLen - 1) * fragLen ≤ wirelen) := by
  by_cases fits : data.length ≤ fragLen
  · refine ⟨fun _ => .inl fits, fun _ => ?_⟩
    cases ack : (captured cli tcp urg wirelen tvPkt dir data).isAck with
    | false =>
      rw [sendPktToParser_short pos fits ack]
      exact .single fits rfl
    | true =>
      have empty : data = [] := by
        simp only [isAck, Bool.and_eq_true] at ack
        exact isEmpty_iff.mp ack.1.1.1
      have none : (captured cli tcp urg wirelen tvPkt dir data).sendPktToParser fragLen = [] := by
        rw [sendPktToParser, if_pos ack]
      rw [none]
      exact .nil empty
  · have long : fragLen < data.length := by omega
    constructor
    · intro splits
      exact .inr (splits.necessary pos short long)
    · rintro (little | ⟨noSyn, noUrgent, within⟩)
      · exact absurd little fits
      · exact .sufficient pos short wire long noSyn noUrgent within

end

/-- `MAX_PARSE_FRAG_LEN`, what a header leaves of a buffer. -/
def maxParseFragLen : Nat := maxParseTotalLen - 104

/-- A packet of two fragments from a client. -/
def longPacket (tcp : TcpHdr) (urg : Bool) : ParsePkt :=
  captured ⟨1, 80⟩ tcp urg 2000 0 .inbound (.replicate 2000 0)

theorem sendPktToParser_longPacket :
    Splits maxParseFragLen (longPacket ⟨100, 0, 0, ⟨false, true, false⟩⟩ false)
      ((longPacket ⟨100, 0, 0, ⟨false, true, false⟩⟩ false).sendPktToParser maxParseFragLen) :=
  (sendPktToParser_splits_iff (by decide) ⟨1, 80⟩ ⟨100, 0, 0, ⟨false, true, false⟩⟩ false 0 .inbound
    (by decide +kernel) (by decide)).mpr (.inr ⟨rfl, rfl, by decide +kernel⟩)

/-- The first fragment of a packet with a `SYN` ends two numbers beyond the start of the second
one, and with an urgent pointer of 3 the last one ends three numbers early. -/
theorem sendPktToParser_disconnected :
    let syn := longPacket ⟨100, 0, 0, ⟨true, false, false⟩⟩ false
    let urgent := longPacket ⟨100, 0, 3, ⟨false, false, false⟩⟩ true
    ((syn.sendPktToParser maxParseFragLen).map (fun frag => (frag.startSeq, frag.nxtSeq)) =
        [(100, 1798), (1796, 2100)] ∧
      ¬Splits maxParseFragLen syn (syn.sendPktToParser maxParseFragLen)) ∧
    (urgent.sendPktToParser maxParseFragLen).map (fun frag => (frag.startSeq, frag.nxtSeq)) =
        [(100, 1796), (1796, 2100)] ∧ urgent.nxtSeq = 2103 ∧
      ¬Splits maxParseFragLen urgent (urgent.sendPktToParser maxParseFragLen) := by
  refine ⟨⟨by decide +kernel, fun splits => ?_⟩, by decide +kernel, by decide +kernel,
    fun splits => ?_⟩
  · obtain ⟨noSyn, -⟩ := splits.necessary (by decide) (by decide +kernel) (by decide +kernel)
    cases noSyn
  · obtain ⟨-, noUrgent, -⟩ := splits.necessary (by decide) (by decide +kernel) (by decide +kernel)
    exact absurd noUrgent (by decide)

end ParsePkt

end Gyeeta.Capture
