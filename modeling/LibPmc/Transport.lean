import LibPmc.Sock
import LibPmc.Threshold
/-!
# Receiving over a transport

`recv` and `recvmsg` give the octets of a datagram as far as they fit, `recvmsg` to its
buffers in order. A raw socket counts the Ethernet header, too: `SockRaw::rcvBase` tells the
parser of 14 octets more than it has got.
-/
namespace LibPmc

open Cstr Os Os.Sys Wire

/-- What a receive with room for `size` octets gives of a datagram. -/
def arrives (size : Nat) (data : List UInt8) : RcvResult := ⟨((data.take size).length : Nat), data.take size⟩

theorem arrives_of_fits {size : Nat} {data : List UInt8} (h : data.length ≤ size) :
    arrives size data = ⟨(data.length : Nat), data⟩ := by
  unfold arrives
  rw [List.take_of_length_le h]

section Receive
variable {buf b : Mem} {bufSize : Nat} {block : Bool} {cnt : Int} {hdr p : List UInt8}

/-- `p` is received over UDP. -/
def SockIp.Receives (s : SockIp) (buf : Mem) (bufSize : Nat) (block : Bool) (p : List UInt8) (cnt : Int)
    (b : Mem) : Prop :=
  Ends (s.rcvBase buf bufSize block) [⟨.recv s.m_fd bufSize !block, arrives bufSize p⟩] (cnt, b)

/-- `p` is received in an Ethernet frame. -/
def SockRaw.Receives (s : SockRaw) (buf : Mem) (bufSize : Nat) (block : Bool) (hdr p : List UInt8)
    (cnt : Int) (b : Mem) : Prop :=
  Ends (s.rcvBase buf bufSize block)
    [⟨.recvmsg s.m_fd [ethhdrSize, bufSize] !block, arrives (ethhdrSize + bufSize) (hdr ++ p)⟩] (cnt, b)

theorem rcvReply_of_le {n size : Nat} (h : n ≤ size) : rcvReply n size = n := by
  unfold rcvReply
  rw [if_neg (by omega), if_neg (by omega)]

theorem SockIp.receives_iff {s : SockIp} (hi : s.m_isInit = true) (hp : p.length ≤ bufSize) :
    s.Receives buf bufSize block p cnt b ↔ cnt = p.length ∧ b = buf.store 0 p := by
  have hr := arrives_of_fits hp
  unfold SockIp.Receives SockIp.rcvBase
  rw [if_neg (not_not.2 hi), ends_sys_bind, hr]
  constructor
  · rintro ⟨r, es, he, h⟩
    cases he
    have hc := (ends_pure.1 h).2
    rw [rcvReply_of_le hp, List.take_of_length_le hp] at hc
    cases hc
    exact ⟨rfl, rfl⟩
  · rintro ⟨rfl, rfl⟩
    refine ⟨_, [], rfl, ends_pure.2 ⟨rfl, ?_⟩⟩
    rw [rcvReply_of_le hp, List.take_of_length_le hp]

/-- The buffer has the payload alone, and the number of octets has the header. -/
theorem SockRaw.receives_iff {s : SockRaw} (hi : s.m_isInit = true) (hh : hdr.length = ethhdrSize)
    (hp : p.length ≤ bufSize) :
    s.Receives buf bufSize block hdr p cnt b ↔ cnt = (p.length + ethhdrSize : Nat) ∧ b = buf.store 0 p := by
  have hlen : (hdr ++ p).length = p.length + ethhdrSize := by rw [List.length_append, hh, Nat.add_comm]
  have hr : arrives (ethhdrSize + bufSize) (hdr ++ p) = ⟨((p.length + ethhdrSize : Nat) : Int), hdr ++ p⟩ := by
    rw [arrives_of_fits (by omega), hlen]
  have hd : ((hdr ++ p).drop ethhdrSize).take bufSize = p := by
    rw [← hh, List.drop_left, List.take_of_length_le hp]
  have hc : rcvReply (p.length + ethhdrSize : Nat) (bufSize + ethhdrSize) = (p.length + ethhdrSize : Nat) :=
    rcvReply_of_le (by omega)
  unfold SockRaw.Receives SockRaw.rcvBase
  rw [if_neg (not_not.2 hi), ends_sys_bind, hr]
  constructor
  · rintro ⟨r, es, he, h⟩
    cases he
    have h := (ends_pure.1 h).2
    rw [hc, hd] at h
    cases h
    exact ⟨rfl, rfl⟩
  · rintro ⟨rfl, rfl⟩
    refine ⟨_, [], rfl, ends_pure.2 ⟨rfl, ?_⟩⟩
    rw [hc, hd]

end Receive

/-- A payload is received and parsed in the same way over UDP and in a frame, whatever the
buffer had before. -/
structure TransportIndependent (ip : SockIp) (raw : SockRaw) (m : Message) (buf : Mem) (bufSize : Nat) (block : Bool)
    (hdr p : List UInt8) : Prop where
  count_ip : ∀ cnt b, ip.Receives buf bufSize block p cnt b → cnt = p.length
  count_raw : ∀ cnt b, raw.Receives buf bufSize block hdr p cnt b → cnt = p.length
  parse : ∀ cnt b cnt' b', ip.Receives buf bufSize block p cnt b → raw.Receives buf bufSize block hdr p cnt' b' →
    (m.parse b' cnt').err = (m.parse b cnt).err ∧ (m.parse b' cnt').msg = (m.parse b cnt).msg
  beyond_ip : ∀ buf' cnt b cnt' b', ip.Receives buf bufSize block p cnt b → ip.Receives buf' bufSize block p cnt' b' →
    (m.parse b' cnt').err = (m.parse b cnt).err ∧ (m.parse b' cnt').msg = (m.parse b cnt).msg
  beyond_raw : ∀ buf' cnt b cnt' b', raw.Receives buf bufSize block hdr p cnt b →
    raw.Receives buf' bufSize block hdr p cnt' b' →
    (m.parse b' cnt').err = (m.parse b cnt).err ∧ (m.parse b' cnt').msg = (m.parse b cnt).msg

section Transport
variable {ip : SockIp} {raw : SockRaw} (m : Message) (buf : Mem) {bufSize : Nat} (block : Bool) {hdr p : List UInt8}

/-- A raw socket counts the header with every payload. -/
theorem raw_counts_header (hip : ip.m_isInit = true) (hraw : raw.m_isInit = true) (hh : hdr.length = ethhdrSize)
    (hp : p.length ≤ bufSize) :
    (∃ b, ip.Receives buf bufSize block p p.length b ∧
      raw.Receives buf bufSize block hdr p (p.length + ethhdrSize : Nat) b) ∧
      ¬ TransportIndependent ip raw m buf bufSize block hdr p := by
  have hr : raw.Receives buf bufSize block hdr p (p.length + ethhdrSize : Nat) (buf.store 0 p) :=
    (SockRaw.receives_iff hraw hh hp).2 ⟨rfl, rfl⟩
  refine ⟨⟨buf.store 0 p, (SockIp.receives_iff hip hp).2 ⟨rfl, rfl⟩, hr⟩, fun h => ?_⟩
  have hc := h.count_raw _ _ hr
  simp only [ethhdrSize] at hc
  omega

/-- A management message that is accepted over UDP is parsed in the same way in a frame: the
octets behind it are not looked at. -/
theorem raw_parse_accepted (hip : ip.m_isInit = true) (hraw : raw.m_isInit = true) (hh : hdr.length = ethhdrSize)
    (hp : p.length ≤ bufSize) {cnt cnt' : Int} {b b' : Mem} (h : ip.Receives buf bufSize block p cnt b)
    (h' : raw.Receives buf bufSize block hdr p cnt' b') (ha : Accepted (m.parse b cnt).err) :
    (m.parse b' cnt').err = (m.parse b cnt).err ∧ (m.parse b' cnt').msg = (m.parse b cnt).msg := by
  obtain ⟨rfl, rfl⟩ := (SockIp.receives_iff hip hp).1 h
  obtain ⟨rfl, rfl⟩ := (SockRaw.receives_iff hraw hh hp).1 h'
  have hle := mngSize_le m ha
  exact parse_agree m ha (by omega) fun _ _ => rfl

end Transport

/-- The sockets once they are initialised. -/
def ipOpen : SockIp := { SockIp.new4 2 with m_fd := 3, m_isInit := true, m_have_if := true, m_udp_ttl := 1 }
def rawOpen : SockRaw := { m_ifIndex := 2, m_fd := 4, m_isInit := true, m_have_if := true, m_socket_priority := 0 }

/-- An object that takes all signaling messages. -/
def sigReceiver : Message := .ofParams { (default : MsgParams) with rcvSignaling := true } default

theorem raw_counts_header_open :
    ¬ TransportIndependent ipOpen rawOpen sigReceiver (fun _ => 0) 1024 true (List.replicate 14 0)
      ((sigMessage []).slice 0 44) :=
  (raw_counts_header sigReceiver (fun _ => 0) true rfl rfl rfl (by decide)).2

/-- A signaling message without TLVs, in a buffer that has an earlier one with a PATH_TRACE
TLV: the frame is parsed to that TLV. -/
theorem raw_parses_stale_octets :
    let earlier := sigMessage [0, 8, 0, 8, 1, 2, 3, 4, 5, 6, 7, 8]
    let p := (sigMessage []).slice 0 44
    let b := earlier.store 0 p
    ipOpen.Receives earlier 1024 true p 44 b ∧ rawOpen.Receives earlier 1024 true (List.replicate 14 0) p 58 b ∧
      (sigReceiver.parse b 44).err = .SIG ∧ (sigReceiver.parse b 44).msg.getSigTlvsCount = 0 ∧
      (sigReceiver.parse b 58).err = .SIG ∧ (sigReceiver.parse b 58).msg.getSigTlvsCount = 1 ∧
      ¬ TransportIndependent ipOpen rawOpen sigReceiver earlier 1024 true (List.replicate 14 0) p := by
  intro earlier p b
  have hip : ipOpen.Receives earlier 1024 true p 44 b := (SockIp.receives_iff rfl (by decide)).2 ⟨by decide, rfl⟩
  have hraw : rawOpen.Receives earlier 1024 true (List.replicate 14 0) p 58 b :=
    (SockRaw.receives_iff rfl (by decide) (by decide)).2 ⟨by decide, rfl⟩
  refine ⟨hip, hraw, by decide +kernel, by decide +kernel, by decide +kernel, by decide +kernel, fun h => ?_⟩
  exact absurd (h.count_raw _ _ hraw) (by decide)

end LibPmc
