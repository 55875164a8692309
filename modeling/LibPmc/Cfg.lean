import LibPmc.Cstr
import Mathlib.Logic.Function.Basic
/-!
# The configuration file

`ConfigSection` and `ConfigFile` of `cfg.h` and `cfg.cpp`. The sections are nodes of a
`std::map`, which has them at addresses: `cfgGlobal` is a reference, bound in the
constructor to the node of `"global"`, and `clear` destroys that node. Where the
allocator puts a node is a parameter. A read or write through a reference to no living
node, and a read behind the end of a buffer, have no defined behaviour and give `none`.
-/
namespace LibPmc

open Cstr

/-! ## Keys and values -/

/-- The enumeration of `ConfigSection`. -/
inductive CfgKey where
  | transportSpecific | domainNumber | udp6_scope | udp_ttl | socket_priority | network_transport
  | uds_address | ptp_dst_mac | p2p_dst_mac
  deriving DecidableEq, Repr

namespace CfgKey

def all : List CfgKey :=
  [transportSpecific, domainNumber, udp6_scope, udp_ttl, socket_priority, network_transport, uds_address, ptp_dst_mac,
    p2p_dst_mac]

/-- What a value of the key is: an element of `m_str_vals`, of `m_bin_vals` or of `m_vals`. -/
abbrev Val : CfgKey → Type
  | uds_address => List UInt8
  | ptp_dst_mac => List UInt8
  | p2p_dst_mac => List UInt8
  | _ => UInt8

end CfgKey

/-- `range_t`. -/
structure Range where
  name : List UInt8
  dflt : UInt8
  min : UInt8
  max : UInt8

def ranges : CfgKey → Range
  | .transportSpecific => ⟨octets "transportSpecific", 0, 0, 0xf⟩
  | .domainNumber => ⟨octets "domainNumber", 0, 0, 239⟩
  | .udp6_scope => ⟨octets "udp6_scope", 0xe, 0, 0xf⟩
  | .udp_ttl => ⟨octets "udp_ttl", 1, 1, 255⟩
  | .socket_priority => ⟨octets "socket_priority", 0, 0, 15⟩
  | .network_transport => ⟨octets "network_transport", 52, 50, 54⟩
  | .uds_address => ⟨octets "uds_address", 0, 0, 0⟩
  | .ptp_dst_mac => ⟨octets "ptp_dst_mac", 0, 0, 0⟩
  | .p2p_dst_mac => ⟨octets "p2p_dst_mac", 0, 0, 0⟩

def ptp_dst_mac_def : List UInt8 := octets "1:1b:19:0:0:0"
def p2p_dst_mac_def : List UInt8 := octets "1:80:c2:0:0:e"
def uds_address_def : List UInt8 := octets "/var/run/ptp4l"
def globalSection : List UInt8 := octets "global"

/-! ## Addresses -/

def idsep : List UInt8 := octets ":.-"

/-- One token of an ID: a hexadecimal octet. -/
def idOctet (cur : List UInt8) : Option UInt8 :=
  match strtol cur 16 with
  | some (a, []) => if a < 0 ∨ a > 0xff then none else some (UInt8.ofNat a.toNat)
  | _ => none

/-- `Binary::fromId`: the tokens that `strtok_r` finds, none of them empty. -/
def fromId (string : List UInt8) : Option (List UInt8) :=
  if string.length < 2 then none
  else (((cstr string).splitOnP (idsep.contains ·)).filter (· ≠ [])).mapM idOctet

def isMacLen (bin : List UInt8) : Bool := bin.length = 6 ∨ bin.length = 8

/-- `Binary::fromMac`: its result, and what it leaves in the object. -/
def fromMac (bin string : List UInt8) : Bool × List UInt8 :=
  match fromId string with
  | none => (false, bin)
  | some id => (isMacLen id, id)

/-! ## A section -/

structure ConfigSection where
  vals : (idx : CfgKey) → idx.Val
  m_set : CfgKey → Bool

instance : Inhabited ConfigSection :=
  ⟨fun idx => match idx with
    | .uds_address => []
    | .ptp_dst_mac => []
    | .p2p_dst_mac => []
    | .transportSpecific | .domainNumber | .udp6_scope | .udp_ttl | .socket_priority |
        .network_transport => (0 : UInt8),
    fun _ => false⟩

namespace ConfigSection

def put (sec : ConfigSection) (idx : CfgKey) (v : idx.Val) : ConfigSection :=
  { sec with vals := Function.update sec.vals idx v }

/-- The constructor, on memory that held `mem`: it leaves the numbers as they are there. -/
def new (mem : ConfigSection) : ConfigSection where
  vals := (((mem.put .uds_address []).put .ptp_dst_mac []).put .p2p_dst_mac []).vals
  m_set _ := false

def setGlobal (sec : ConfigSection) : ConfigSection where
  vals idx := match idx with
    | .uds_address => uds_address_def
    | .ptp_dst_mac => (fromMac (sec.vals .ptp_dst_mac) ptp_dst_mac_def).2
    | .p2p_dst_mac => (fromMac (sec.vals .p2p_dst_mac) p2p_dst_mac_def).2
    | .transportSpecific => (ranges .transportSpecific).dflt
    | .domainNumber => (ranges .domainNumber).dflt
    | .udp6_scope => (ranges .udp6_scope).dflt
    | .udp_ttl => (ranges .udp_ttl).dflt
    | .socket_priority => (ranges .socket_priority).dflt
    | .network_transport => (ranges .network_transport).dflt
  m_set := sec.m_set

end ConfigSection

/-- A number that is in the range of its key. -/
def numValue (idx : CfgKey) (val : List UInt8) : Option UInt8 :=
  let ret := ((strtol val 0).map Prod.fst).getD 0
  if ret ≥ (ranges idx).min.toNat ∧ ret ≤ (ranges idx).max.toNat then some (UInt8.ofNat ret.toNat) else none

/-- A MAC address, from an empty `Binary`. -/
def macValue (val : List UInt8) : Option (List UInt8) :=
  match fromMac [] val with
  | (true, id) => some id
  | (false, _) => none

/-- The `switch` of `set_val`: the value that a text gives the key. -/
def CfgKey.read (val : List UInt8) : (idx : CfgKey) → Option idx.Val
  | .uds_address => if val.head? ≠ some 47 ∨ val.length < 2 then none else some val
  | .ptp_dst_mac => macValue val
  | .p2p_dst_mac => macValue val
  | .network_transport =>
    if val = octets "UDPv4" then some (52 : UInt8)
    else if val = octets "UDPv6" then some (54 : UInt8)
    else if val = octets "L2" then some (50 : UInt8)
    else none
  | .transportSpecific => numValue .transportSpecific val
  | .domainNumber => numValue .domainNumber val
  | .udp6_scope => numValue .udp6_scope val
  | .udp_ttl => numValue .udp_ttl val
  | .socket_priority => numValue .socket_priority val

/-- What a line with a key says. -/
inductive KeyLine where
  | unknown
  | wrong
  | value (idx : CfgKey) (v : idx.Val)

/-- The part of `set_val` before it stores anything. `line` is the buffer from the key on:
neither search for the end of the key stops at the end of the string. -/
def keyLine (line : List UInt8) : Option KeyLine :=
  let rest := line.dropWhile fun c => !isspace c
  if rest = [] then none
  else
    let name := cstr (line.takeWhile fun c => !isspace c)
    match CfgKey.all.find? fun idx => (ranges idx).name = name with
    | none => some .unknown
    | some idx =>
      let val := rest.tail.dropWhile isspace
      if 0 ∉ val then none
      else
        let val := stripEnd (cstr val)
        if val = [] then some .wrong
        else
          match idx.read val with
          | none => some .wrong
          | some v => some (.value idx v)

/-- `ConfigSection::set_val`. -/
def ConfigSection.set_val (sec : ConfigSection) (line : List UInt8) : Option (Bool × ConfigSection) :=
  match keyLine line with
  | none => none
  | some .unknown => some (true, sec)
  | some .wrong => some (false, sec)
  | some (.value idx v) => some (true, { sec.put idx v with m_set := Function.update sec.m_set idx true })

/-! ## The map of sections -/

abbrev Addr := Nat

/-- Where the `n`-th new section is put, beside the ones alive. -/
structure Allocator where
  addr : Nat → List Addr → Addr
  fresh : ∀ n live, addr n live ∉ live

/-- `std::map<std::string, ConfigSection>`: each name with its node. -/
structure Sections where
  nodes : List (List UInt8 × Addr)
  addrs_nodup : (nodes.map Prod.snd).Nodup

namespace Sections

def addrs (s : Sections) : List Addr := s.nodes.map Prod.snd

def find (s : Sections) (name : List UInt8) : Option Addr := (s.nodes.find? (·.1 = name)).map Prod.snd

def empty : Sections := ⟨[], List.nodup_nil⟩

def insert (s : Sections) (name : List UInt8) (a : Addr) (h : a ∉ s.addrs) : Sections :=
  ⟨(name, a) :: s.nodes, List.nodup_cons.2 ⟨h, s.addrs_nodup⟩⟩

end Sections

/-- `mem` is the memory of the sections, `count` the number of nodes made so far. -/
structure ConfigFile where
  cfgSec : Sections
  cfgGlobal : Addr
  mem : Addr → ConfigSection
  count : Nat

/-- A call of `read_cfg` meets a file that does not open, or its text. `stale` is what the
uninitialised buffer and the lines before have left behind each line. -/
structure CfgText where
  text : Option (List UInt8)
  stale : Nat → List UInt8

namespace ConfigFile

/-- `cfgSec[name]`. -/
def sec (alloc : Allocator) (c : ConfigFile) (name : List UInt8) : Addr × ConfigFile :=
  match c.cfgSec.find name with
  | some a => (a, c)
  | none =>
    let a := alloc.addr c.count c.cfgSec.addrs
    (a, { c with
      cfgSec := c.cfgSec.insert name a (alloc.fresh _ _)
      mem := Function.update c.mem a (.new (c.mem a))
      count := c.count + 1 })

/-- The constructor, on a memory of whatever there is. -/
def new (alloc : Allocator) (mem : Addr → ConfigSection) : ConfigFile :=
  let (a, c) := sec alloc ⟨.empty, 0, mem, 0⟩ globalSection
  { c with cfgGlobal := a, mem := Function.update c.mem a (c.mem a).setGlobal }

/-- The part of `read_cfg` that removes the old configuration. -/
def reset (alloc : Allocator) (c : ConfigFile) : Option ConfigFile :=
  let (a, c) := sec alloc { c with cfgSec := .empty } globalSection
  if c.cfgGlobal ∉ c.cfgSec.addrs then none
  else some { c with mem := Function.update c.mem c.cfgGlobal (c.mem a).setGlobal }

/-- The name of a section header, of the buffer behind its bracket. `strip_end_spaces`
stops at the name, and where there is none, at the bracket. -/
def header (s : List UInt8) : Option (List UInt8) :=
  let cur := cstr (s.dropWhile isspace)
  if 93 ∉ cur then none
  else
    let name := cur.takeWhile (· ≠ 93)
    if name ≠ [] then some (stripEnd name)
    else if (s.takeWhile isspace) = [] then some []
    else some cur

/-- The loop of `read_cfg`, over what the buffer holds after each `fgets`. -/
def readLines (alloc : Allocator) (c : ConfigFile) (curSection : List UInt8) :
    List (List UInt8) → Option (Bool × ConfigFile)
  | [] => some (true, c)
  | buf :: bufs =>
    let cur := buf.dropWhile isspace
    if cur.headD 0 = 91 then
      match header cur.tail with
      | none => some (false, c)
      | some name => readLines alloc c name bufs
    else if cur.headD 0 ≠ 0 ∧ cur.headD 0 ≠ 35 then
      let (a, c) := c.sec alloc curSection
      match (c.mem a).set_val cur with
      | none => none
      | some (false, sec) => some (false, { c with mem := Function.update c.mem a sec })
      | some (true, sec) => readLines alloc { c with mem := Function.update c.mem a sec } curSection bufs
    else readLines alloc c curSection bufs

/-- What `buf[512]` holds after each `fgets`. -/
def buffers (f : CfgText) (text : List UInt8) : List (List UInt8) :=
  (lines 511 text).mapIdx fun i line => line ++ 0 :: f.stale i

def read_cfg (alloc : Allocator) (c : ConfigFile) (f : CfgText) : Option (Bool × ConfigFile) :=
  match f.text with
  | none => some (false, c)
  | some text =>
    match c.reset alloc with
    | none => none
    | some c => c.readLines alloc globalSection (buffers f text)

/-! ## The getters -/

def is_global (c : ConfigFile) (idx : CfgKey) (section_ : List UInt8) : Bool :=
  section_.isEmpty || match c.cfgSec.find section_ with
    | none => true
    | some a => !(c.mem a).m_set idx

/-- `get`, `get_str` and `get_bin`. -/
def get (c : ConfigFile) (idx : CfgKey) (section_ : List UInt8) : Option idx.Val :=
  if c.is_global idx section_ then
    if c.cfgGlobal ∈ c.cfgSec.addrs then some ((c.mem c.cfgGlobal).vals idx) else none
  else (c.cfgSec.find section_).map fun a => (c.mem a).vals idx

def transportSpecific (c : ConfigFile) (section_ : List UInt8) : Option UInt8 := c.get .transportSpecific section_
def domainNumber (c : ConfigFile) (section_ : List UInt8) : Option UInt8 := c.get .domainNumber section_
def udp6_scope (c : ConfigFile) (section_ : List UInt8) : Option UInt8 := c.get .udp6_scope section_
def udp_ttl (c : ConfigFile) (section_ : List UInt8) : Option UInt8 := c.get .udp_ttl section_
def socket_priority (c : ConfigFile) (section_ : List UInt8) : Option UInt8 := c.get .socket_priority section_
def network_transport (c : ConfigFile) (section_ : List UInt8) : Option UInt8 := c.get .network_transport section_
def uds_address (c : ConfigFile) (section_ : List UInt8) : Option (List UInt8) := c.get .uds_address section_
def ptp_dst_mac (c : ConfigFile) (section_ : List UInt8) : Option (List UInt8) := c.get .ptp_dst_mac section_
def p2p_dst_mac (c : ConfigFile) (section_ : List UInt8) : Option (List UInt8) := c.get .p2p_dst_mac section_

end ConfigFile

end LibPmc
