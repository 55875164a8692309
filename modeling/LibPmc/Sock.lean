import LibPmc.Os
import LibPmc.Cfg
import LibPmc.Wire.Octets
/-!
# The sockets

`SockBase` and its classes `SockUnix`, `SockIp4`, `SockIp6` and `SockRaw` of `sock.h` and
`sock.cpp`, and `IfInfo` of `ptp.cpp`. A method is a program that calls the operating
system. The texts that are printed on errors are left out.
-/
namespace LibPmc

open Cstr Os Wire

/-! ## System calls -/

inductive SockAddr where
  | un (path : List UInt8)
  | inet (addr : List UInt8) (port : UInt16)
  | inet6 (addr : List UInt8) (port : UInt16) (scope_id : Int)
  | ll (ifindex : Int) (protocol : UInt16) (addr : List UInt8)

def SockAddr.scope_id : SockAddr → Int
  | inet6 _ _ scope_id => scope_id
  | _ => 0

inductive Domain where
  | AF_UNIX | AF_INET | AF_INET6 | AF_PACKET
  deriving DecidableEq

/-- The options that get set, with their values. -/
inductive SockOpt where
  | SO_REUSEADDR (on : Int)
  | SO_BINDTODEVICE (name : List UInt8)
  | SO_PRIORITY (priority : Int)
  | SO_ATTACH_FILTER (code : List (UInt16 × UInt8 × UInt8 × UInt32))
  | IP_MULTICAST_TTL (ttl : Int)
  | IP_ADD_MEMBERSHIP (multiaddr : List UInt8) (ifindex : Int)
  | IP_MULTICAST_LOOP (on : Int)
  | IP_MULTICAST_IF (ifindex : Int)
  | IPV6_MULTICAST_HOPS (ttl : Int)
  | IPV6_ADD_MEMBERSHIP (multiaddr : List UInt8) (ifindex : Int)
  | IPV6_MULTICAST_LOOP (on : Int)
  | IPV6_MULTICAST_IF (ifindex : Int)
  | PACKET_ADD_MEMBERSHIP (ifindex : Int) (address : List UInt8)

inductive SysCall where
  | socket (domain : Domain)
  | close (fd : Int)
  | bind (fd : Int) (addr : SockAddr)
  | setsockopt (fd : Int) (opt : SockOpt)
  | unlink (path : List UInt8)
  | sendto (fd : Int) (msg : List UInt8) (addr : SockAddr)
  | sendmsg (fd : Int) (iov : List (List UInt8)) (addr : SockAddr)
  | recv (fd : Int) (size : Nat) (dontwait : Bool)
  | recvfrom (fd : Int) (size : Nat) (dontwait : Bool)
  | recvmsg (fd : Int) (iov : List Nat) (dontwait : Bool)
  | getuid
  | getpid
  | getpwuid (uid : Nat)
  | inet_pton (domain : Domain) (str : List UInt8)
  | SIOCGIFINDEX (fd : Int) (ifr_name : List UInt8)
  | SIOCGIFNAME (fd : Int) (ifr_ifindex : Int)
  | SIOCGIFHWADDR (fd : Int) (ifr_name : List UInt8)
  | SIOCETHTOOL (fd : Int) (ifr_name : List UInt8)

/-- A receive call's return value, and the octets it stores. -/
structure RcvResult where
  cnt : Int
  octets : List UInt8

/-- What the calls give, beside their return value. -/
abbrev SysCall.Res : SysCall → Type
  | recv .. => RcvResult
  | recvfrom .. => RcvResult × List UInt8
  | recvmsg .. => RcvResult
  | getuid => Nat
  | getpid => Nat
  | getpwuid .. => List UInt8
  | inet_pton .. => Option (List UInt8)
  | SIOCGIFINDEX .. => Option Int
  | SIOCGIFNAME .. => Option (List UInt8)
  | SIOCGIFHWADDR .. => Option (Octets 6)
  | SIOCETHTOOL .. => Option Int
  | _ => Int

abbrev OS := Sys SysCall SysCall.Res

abbrev SysEvent := Event SysCall SysCall.Res

/-- One call. -/
abbrev sys (c : SysCall) : OS c.Res := Sys.sys c

def socket (domain : Domain) : OS Int := sys (.socket domain)

/-- The calls of an initialisation: each has to return 0, or none of the rest is made. -/
inductive Setup where
  | bind (addr : SockAddr)
  | opt (o : SockOpt)

def Setup.call (fd : Int) : Setup → OS Int
  | bind addr => sys (.bind fd addr)
  | opt o => sys (.setsockopt fd o)

def setups (fd : Int) : List Setup → OS Bool
  | [] => return true
  | s :: rest => do
    let ret ← s.call fd
    if ret ≠ 0 then return false else setups fd rest

/-! ## The base -/

structure SockBase where
  m_fd : Int := -1
  m_isInit : Bool := false

/-- `SockBase::closeBase`. -/
def SockBase.closeBase (s : SockBase) : OS SockBase :=
  if s.m_fd ≥ 0 then do
    let _ ← sys (.close s.m_fd)
    return { s with m_fd := -1 }
  else return s

/-- The return value of a send is to be the length. -/
def sendReply (cnt : Int) (len : Nat) : Bool := ¬ cnt < 0 ∧ cnt = len

/-- What a receive gives: the number of octets, or -1. -/
def rcvReply (cnt : Int) (size : Nat) : Int := if cnt < 0 then -1 else if cnt > size then -1 else cnt

/-! ## Unix sockets -/

def unix_path_max : Nat := 107
def useDefstr : List UInt8 := octets "/.pmc."
def rootBasestr : List UInt8 := octets "/var/run/pmc."

def testUnix (str : List UInt8) : Bool := ¬ (str.length < 2 ∨ str.length > unix_path_max ∨ str.head? ≠ some 47)

def setUnixAddr (str : List UInt8) : SockAddr := .un ((cstr str).take unix_path_max)

structure SockUnix extends SockBase where
  m_me : List UInt8 := []
  m_peer : List UInt8 := []
  m_homeDir : List UInt8 := []
  m_lastFrom : List UInt8 := []
  m_peerAddr : SockAddr := setUnixAddr []

namespace SockUnix

def closeBase (s : SockUnix) : OS SockUnix := do
  let b ← s.toSockBase.closeBase
  let s := { s with toSockBase := b }
  if s.m_isInit then
    let _ ← sys (.unlink s.m_me)
    return { s with m_isInit := false }
  else return s

def initBase (s : SockUnix) : OS (Bool × SockUnix) :=
  if s.m_isInit ∨ ¬ testUnix s.m_me then return (false, s)
  else do
    let b ← s.toSockBase.closeBase
    let fd ← socket .AF_UNIX
    let s := { s with toSockBase := { b with m_fd := fd } }
    if fd < 0 then return (false, s)
    else
      let ok ← setups fd [.bind (setUnixAddr s.m_me)]
      return if ok then (true, { s with m_isInit := true }) else (false, s)

def setPeerInternal (s : SockUnix) (str : List UInt8) : Bool × SockUnix :=
  if ¬ testUnix str then (false, s) else (true, { s with m_peer := str, m_peerAddr := setUnixAddr str })

def setSelfAddress (s : SockUnix) (str : List UInt8) : Bool × SockUnix :=
  if s.m_isInit ∨ ¬ testUnix str then (false, s) else (true, { s with m_me := str })

def getHomeDir (s : SockUnix) : OS (List UInt8 × SockUnix) := do
  let uid ← sys .getuid
  let pw_dir ← sys (.getpwuid uid)
  return (pw_dir, { s with m_homeDir := pw_dir })

/-- The address without the process id: for root, and for the others. -/
def defAddress (s : SockUnix) (rootBase useDef : List UInt8) (uid : Nat) : OS (List UInt8 × SockUnix) :=
  if uid ≠ 0 then do
    let (home, s) ← s.getHomeDir
    return (home ++ (if useDef = [] then useDefstr else useDef), s)
  else return (if rootBase = [] then rootBasestr else rootBase, s)

def setDefSelfAddress (s : SockUnix) (rootBase useDef : List UInt8) : OS (Bool × SockUnix) :=
  if s.m_isInit then return (false, s)
  else do
    let uid ← sys .getuid
    let (new_me, s) ← s.defAddress rootBase useDef uid
    let pid ← sys .getpid
    return s.setSelfAddress (new_me ++ octets (toString pid))

def sendAny (s : SockUnix) (msg : List UInt8) (addr : SockAddr) : OS Bool := do
  let cnt ← sys (.sendto s.m_fd msg addr)
  return sendReply cnt msg.length

def sendBase (s : SockUnix) (msg : List UInt8) : OS Bool :=
  if ¬ s.m_isInit ∨ ¬ testUnix s.m_peer then return false else s.sendAny msg s.m_peerAddr

def sendTo (s : SockUnix) (msg addrStr : List UInt8) : OS Bool :=
  if ¬ s.m_isInit ∨ ¬ testUnix addrStr then return false else s.sendAny msg (setUnixAddr addrStr)

/-- The sender is given where something was received. -/
def rcvFrom (s : SockUnix) (buf : Mem) (bufSize : Nat) (block : Bool) : OS (Int × Mem × Option (List UInt8)) :=
  if ¬ s.m_isInit then return (-1, buf, none)
  else do
    let (r, sun_path) ← sys (.recvfrom s.m_fd bufSize !block)
    let buf := buf.store 0 (r.octets.take bufSize)
    if rcvReply r.cnt bufSize < 0 then return (-1, buf, none)
    else return (r.cnt, buf, some (cstr (sun_path.take unix_path_max)))

/-- `rcvFrom` without the parameter `from`. -/
def rcvLast (s : SockUnix) (buf : Mem) (bufSize : Nat) (block : Bool) : OS (Int × Mem × SockUnix) := do
  let (cnt, buf, sender) ← s.rcvFrom buf bufSize block
  return (cnt, buf, { s with m_lastFrom := sender.getD s.m_lastFrom })

def rcvBase (s : SockUnix) (buf : Mem) (bufSize : Nat) (block : Bool) : OS (Int × Mem) :=
  if ¬ testUnix s.m_peer then return (-1, buf)
  else do
    let (cnt, buf, sender) ← s.rcvFrom buf bufSize block
    return (if cnt > 0 ∧ sender.getD [] = s.m_peer then cnt else -1, buf)

end SockUnix

/-! ## Interfaces -/

def IFNAMSIZ : Nat := 16

structure IfInfo where
  m_isInit : Bool := false
  m_ifIndex : Int := -1
  m_ptpIndex : Int := -1
  m_ifName : List UInt8 := []
  m_mac : List UInt8 := []

namespace IfInfo

def initPtp (i : IfInfo) (fd : Int) (ifr_name : List UInt8) : OS (Bool × IfInfo) := do
  let hwaddr ← sys (.SIOCGIFHWADDR fd ifr_name)
  match hwaddr with
  | none =>
    let _ ← sys (.close fd)
    return (false, i)
  | some mac =>
    let i := { i with m_mac := mac.val }
    let info ← sys (.SIOCETHTOOL fd ifr_name)
    let _ ← sys (.close fd)
    match info with
    | none => return (false, i)
    | some phc_index => return (true, { i with m_ptpIndex := phc_index, m_isInit := true })

def initUsingName (i : IfInfo) (ifName : List UInt8) : OS (Bool × IfInfo) :=
  if i.m_isInit ∨ ifName = [] ∨ ifName.length ≥ IFNAMSIZ then return (false, i)
  else do
    let fd ← socket .AF_UNIX
    if fd < 0 then return (false, i)
    else
      let index ← sys (.SIOCGIFINDEX fd (cstr ifName))
      match index with
      | none =>
        let _ ← sys (.close fd)
        return (false, i)
      | some ifr_ifindex => initPtp { i with m_ifName := ifName, m_ifIndex := ifr_ifindex } fd (cstr ifName)

def initUsingIndex (i : IfInfo) (ifIndex : Int) : OS (Bool × IfInfo) :=
  if i.m_isInit then return (false, i)
  else do
    let fd ← socket .AF_UNIX
    if fd < 0 then return (false, i)
    else
      let name ← sys (.SIOCGIFNAME fd ifIndex)
      match name with
      | none =>
        let _ ← sys (.close fd)
        return (false, i)
      | some ifr_name => initPtp { i with m_ifName := ifr_name, m_ifIndex := ifIndex } fd ifr_name

end IfInfo

/-- `m_ifIndex` is not initialised. -/
structure SockBaseIf extends SockBase where
  m_ifName : List UInt8 := []
  m_mac : List UInt8 := []
  m_ifIndex : Int
  m_have_if : Bool := false

namespace SockBaseIf

def setInt (s : SockBaseIf) (ifObj : IfInfo) : SockBaseIf :=
  { s with m_ifName := ifObj.m_ifName, m_ifIndex := ifObj.m_ifIndex, m_mac := ifObj.m_mac, m_have_if := true }

def setIfUsingName (s : SockBaseIf) (ifName : List UInt8) : OS (Bool × SockBaseIf) :=
  if s.m_isInit then return (false, s)
  else do
    let (ok, ifObj) ← IfInfo.initUsingName {} ifName
    return if ok then (true, s.setInt ifObj) else (false, s)

def setIfUsingIndex (s : SockBaseIf) (ifIndex : Int) : OS (Bool × SockBaseIf) :=
  if s.m_isInit then return (false, s)
  else do
    let (ok, ifObj) ← IfInfo.initUsingIndex {} ifIndex
    return if ok then (true, s.setInt ifObj) else (false, s)

def setIf (s : SockBaseIf) (ifObj : IfInfo) : Bool × SockBaseIf :=
  if s.m_isInit then (false, s) else if ifObj.m_isInit then (true, s.setInt ifObj) else (false, s)

end SockBaseIf

/-! ## UDP sockets -/

def udp_port : UInt16 := 320
def ipv4_udp_mc : List UInt8 := octets "224.0.1.129"
def ipv6_udp_mc : List UInt8 := octets "ff0e::181"

/-- `m_addr` is the address that the member points to; only `SockIp6` has a scope. -/
structure SockIp extends SockBaseIf where
  m_domain : Domain
  m_udp_ttl : Int := -1
  m_addr : SockAddr
  m_mcast_str : List UInt8
  m_mcast : List UInt8 := []
  m_udp6_scope : Int := -1

namespace SockIp

/-- The constructor of `SockIp4`. -/
def new4 (m_ifIndex : Int) : SockIp where
  m_ifIndex := m_ifIndex
  m_domain := .AF_INET
  m_addr := .inet (List.replicate 4 0) udp_port
  m_mcast_str := ipv4_udp_mc

/-- The constructor of `SockIp6`. -/
def new6 (m_ifIndex : Int) : SockIp where
  m_ifIndex := m_ifIndex
  m_domain := .AF_INET6
  m_addr := .inet6 (List.replicate 16 0) udp_port 0
  m_mcast_str := ipv6_udp_mc

def setUdpTtl (s : SockIp) (udp_ttl : UInt8) : Bool × SockIp :=
  if s.m_isInit then (false, s) else (true, { s with m_udp_ttl := udp_ttl.toNat })

def setScope (s : SockIp) (udp6_scope : UInt8) : Bool × SockIp :=
  if s.m_isInit ∨ udp6_scope > 0xf then (false, s) else (true, { s with m_udp6_scope := udp6_scope.toNat })

/-- `setScope` with the value of a configuration. -/
def setScopeCfg (s : SockIp) (udp6_scope : UInt8) : Bool × SockIp :=
  if s.m_isInit then (false, s) else (true, { s with m_udp6_scope := udp6_scope.toNat })

def sendBase (s : SockIp) (msg : List UInt8) : OS Bool :=
  if ¬ s.m_isInit then return false
  else do
    let cnt ← sys (.sendto s.m_fd msg s.m_addr)
    return sendReply cnt msg.length

def rcvBase (s : SockIp) (buf : Mem) (bufSize : Nat) (block : Bool) : OS (Int × Mem) :=
  if ¬ s.m_isInit then return (-1, buf)
  else do
    let r ← sys (.recv s.m_fd bufSize !block)
    return (rcvReply r.cnt bufSize, buf.store 0 (r.octets.take bufSize))

/-- `SockIp4::init2`. -/
def init2v4 (s : SockIp) : OS (Bool × SockIp) := do
  let ok ← setups s.m_fd
    [.opt (.IP_MULTICAST_TTL s.m_udp_ttl), .opt (.IP_ADD_MEMBERSHIP (s.m_mcast.take 4) s.m_ifIndex),
      .opt (.IP_MULTICAST_LOOP 0), .opt (.IP_MULTICAST_IF s.m_ifIndex)]
  return if ok then (true, { s with m_addr := .inet (s.m_mcast.take 4) udp_port }) else (false, s)

/-- `SockIp6::init2`. The multicast address gets the scope once the hops are set. -/
def init2v6 (s : SockIp) : OS (Bool × SockIp) :=
  if s.m_udp6_scope < 0 then return (false, s)
  else do
    let ok ← setups s.m_fd [.opt (.IPV6_MULTICAST_HOPS s.m_udp_ttl)]
    if ¬ ok then return (false, s)
    else
      let s := { s with m_mcast := s.m_mcast.set 1 (UInt8.ofNat s.m_udp6_scope.toNat) }
      let ok ← setups s.m_fd
        [.opt (.IPV6_ADD_MEMBERSHIP (s.m_mcast.take 16) s.m_ifIndex), .opt (.IPV6_MULTICAST_LOOP 0),
          .opt (.IPV6_MULTICAST_IF s.m_ifIndex)]
      return if ok then
        (true, { s with
          m_addr := .inet6 (s.m_mcast.take 16) udp_port
            (if s.m_udp6_scope = 2 then s.m_ifIndex else s.m_addr.scope_id) })
      else (false, s)

/-- `SockIp::initBase`, with the `init2` of the class. `closeBase` is the one of `SockBase`. -/
def initBase (init2 : SockIp → OS (Bool × SockIp)) (s : SockIp) : OS (Bool × SockIp) :=
  if s.m_isInit ∨ ¬ s.m_have_if ∨ s.m_udp_ttl < 0 then return (false, s)
  else do
    let b ← s.toSockBase.closeBase
    let fd ← socket s.m_domain
    let s := { s with m_fd := fd, m_isInit := b.m_isInit }
    if fd < 0 then return (false, s)
    else
      let ok ← setups fd [.opt (.SO_REUSEADDR 1), .bind s.m_addr, .opt (.SO_BINDTODEVICE s.m_ifName)]
      if ¬ ok then return (false, s)
      else
        let ip ← sys (.inet_pton s.m_domain s.m_mcast_str)
        match ip with
        | none => return (false, s)
        | some m_mcast =>
          let (ok, s) ← init2 { s with m_mcast }
          return if ok then (true, { s with m_isInit := true }) else (false, s)

end SockIp

/-! ## Raw sockets -/

def ETH_P_ALL : UInt16 := 0x0003
def ETH_P_1588 : UInt16 := 0x88F7
/-- `sizeof(ethhdr)`. -/
def ethhdrSize : Nat := 14

def bpf_code : List (UInt16 × UInt8 × UInt8 × UInt32) :=
  [(0x28, 0, 0, 12), (0x15, 0, 1, 0x88F7), (0x6, 0, 0, 0x40000), (0x6, 0, 0, 0)]

/-- The message headers point to `m_addr` and `m_hdr` from the initialisation on. -/
structure SockRaw extends SockBaseIf where
  m_ptp_dst_mac : List UInt8 := []
  m_socket_priority : Int := -1
  m_addr : SockAddr := .ll 0 0 []
  m_hdr : Mem := fun _ => 0

namespace SockRaw

def setPtpDstMacStr (s : SockRaw) (str : List UInt8) : Bool × SockRaw :=
  if s.m_isInit ∨ str = [] then (false, s)
  else
    match fromMac [] str with
    | (true, mac) => (true, { s with m_ptp_dst_mac := mac })
    | (false, _) => (false, s)

def setPtpDstMac (s : SockRaw) (ptp_dst_mac : List UInt8) : Bool × SockRaw :=
  if s.m_isInit ∨ (ptp_dst_mac.length ≠ 6 ∧ ptp_dst_mac.length ≠ 8) then (false, s)
  else (true, { s with m_ptp_dst_mac := ptp_dst_mac })

/-- `setPtpDstMac` with the value of a configuration. -/
def setPtpDstMacCfg (s : SockRaw) (ptp_dst_mac : List UInt8) : Bool × SockRaw :=
  if s.m_isInit then (false, s) else (true, { s with m_ptp_dst_mac := ptp_dst_mac })

def setSocketPriority (s : SockRaw) (socket_priority : UInt8) : Bool × SockRaw :=
  if s.m_isInit ∨ socket_priority > 15 then (false, s)
  else (true, { s with m_socket_priority := socket_priority.toNat })

/-- `setSocketPriority` with the value of a configuration. -/
def setSocketPriorityCfg (s : SockRaw) (socket_priority : UInt8) : Bool × SockRaw :=
  if s.m_isInit then (false, s) else (true, { s with m_socket_priority := socket_priority.toNat })

def initBase (s : SockRaw) : OS (Bool × SockRaw) :=
  if s.m_isInit ∨ ¬ s.m_have_if ∨ s.m_ptp_dst_mac = [] ∨ s.m_socket_priority < 0 then return (false, s)
  else do
    let fd ← socket .AF_PACKET
    let s := { s with m_fd := fd }
    if fd < 0 then return (false, s)
    else
      let s := { s with m_addr := .ll s.m_ifIndex ETH_P_ALL [] }
      let ok ← setups fd
        [.bind s.m_addr, .opt (.SO_BINDTODEVICE s.m_ifName), .opt (.SO_PRIORITY s.m_socket_priority),
          .opt (.SO_ATTACH_FILTER bpf_code), .opt (.PACKET_ADD_MEMBERSHIP s.m_ifIndex s.m_ptp_dst_mac)]
      return if ok then
        (true, { s with
          m_addr := .ll s.m_ifIndex ETH_P_ALL s.m_ptp_dst_mac
          m_hdr := ((s.m_hdr.store 12 (beOctets 2 ETH_P_1588.toNat)).store 0 s.m_ptp_dst_mac).store 6 s.m_mac
          m_isInit := true })
      else (false, s)

def sendBase (s : SockRaw) (msg : List UInt8) : OS Bool :=
  if ¬ s.m_isInit then return false
  else do
    let cnt ← sys (.sendmsg s.m_fd [s.m_hdr.slice 0 ethhdrSize, msg] s.m_addr)
    return sendReply cnt (msg.length + ethhdrSize)

/-- The first octets go to `m_rx_buf`, which nothing reads. -/
def rcvBase (s : SockRaw) (buf : Mem) (bufSize : Nat) (block : Bool) : OS (Int × Mem) :=
  if ¬ s.m_isInit then return (-1, buf)
  else do
    let r ← sys (.recvmsg s.m_fd [ethhdrSize, bufSize] !block)
    return (rcvReply r.cnt (bufSize + ethhdrSize), buf.store 0 ((r.octets.drop ethhdrSize).take bufSize))

end SockRaw

end LibPmc
