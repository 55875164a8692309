import LibPmc.Bin
import LibPmc.CfgRange
import LibPmc.Interface
import LibPmc.Keys
import LibPmc.Planned
import LibPmc.SockLife
/-!
# The start of pmc

`main` of `pmc.cpp` from its options to the first command, and `Message::useConfig`, the
library's own way from a configuration to the parameters of a message. Signals and what is
printed are left out.
-/
namespace LibPmc

open Cstr Os Os.Sys Wire

/-! ## Parameters from a configuration -/

/-- `Message::useConfig`. It asks for the domain without the section. -/
def Message.useConfig (m : Message) (cfg : Config) (section_ : List UInt8) : Bool × Message :=
  let transportSpecific : UInt8 := cfg.val .transportSpecific section_
  if transportSpecific > 0xf then (false, m)
  else (true, { m with prms := { m.prms with transportSpecific, domainNumber := cfg.val .domainNumber [] } })

/-- A character of the command line. -/
def ch (c : Char) : UInt8 := UInt8.ofNat c.toNat

/-- What the loop over `getopt_long` leaves. -/
structure Options where
  args : UInt8 → Option (List UInt8) := fun _ => none
  net_select : UInt8 := 0
  zero_get : Bool := false

/-- `options[c]`, the empty text where it is not there. -/
def Options.get (o : Options) (c : Char) : List UInt8 := (o.args (ch c)).getD []

def Options.count (o : Options) (c : Char) : Bool := (o.args (ch c)).isSome

def with_options : List UInt8 := octets "fbdsti"
def net_options : List UInt8 := octets "u246"
def l_options : List UInt8 := octets "MSTP"

/-- The body of the loop, for an option and its argument. With `none` pmc stops. -/
def Options.take (o : Options) (c : UInt8) (optarg : List UInt8) : Option Options :=
  if c = ch ':' ∨ c = ch 'v' ∨ c = ch 'h' then none
  else if c = ch 'z' then some { o with zero_get := true }
  else if c = ch 'n' then
    if caseEq optarg (octets "UDPv4") then some { o with net_select := ch '4' }
    else if caseEq optarg (octets "UDPv6") then some { o with net_select := ch '6' }
    else if caseEq optarg (octets "L2") then some { o with net_select := ch '2' }
    else none
  else if c ∈ with_options ∨ c ∈ l_options then some { o with args := Function.update o.args c (some optarg) }
  else if c ∈ net_options then some { o with net_select := c }
  else none

/-- The loop, over all that `getopt_long` finds. -/
def Options.takeAll (o : Options) : List (UInt8 × List UInt8) → Option Options
  | [] => some o
  | (c, optarg) :: rest =>
    match o.take c optarg with
    | none => none
    | some o => o.takeAll rest

/-- What one option does to the arguments. -/
theorem take_args {o o' : Options} {c c' : UInt8} {optarg : List UInt8} (hc : c ∈ with_options ∨ c ∈ l_options)
    (h : o.take c' optarg = some o') : o'.args c = if c' = c then some optarg else o.args c := by
  have hno {d : UInt8} (hd : ¬ (d ∈ with_options ∨ d ∈ l_options)) : d ≠ c := fun he => hd (he ▸ hc)
  unfold Options.take at h
  split at h
  · cases h
  · split at h
    · rename_i hz
      obtain rfl := Option.some.inj h
      rw [hz, if_neg (hno (by decide))]
    · split at h
      · rename_i hn
        rw [hn, if_neg (hno (by decide))]
        split at h
        · obtain rfl := Option.some.inj h
          rfl
        · split at h
          · obtain rfl := Option.some.inj h
            rfl
          · split at h
            · obtain rfl := Option.some.inj h
              rfl
            · cases h
      · split at h
        · obtain rfl := Option.some.inj h
          exact (Function.update_apply ..).trans (if_congr eq_comm rfl rfl)
        · rename_i hnone
          split at h
          · obtain rfl := Option.some.inj h
            rw [if_neg (hno hnone)]
          · cases h

/-- An option that is given twice has its last argument. -/
theorem takeAll_args {o o' : Options} {c : UInt8} {found : List (UInt8 × List UInt8)}
    (hc : c ∈ with_options ∨ c ∈ l_options)
    (h : o.takeAll found = some o') :
    o'.args c = ((found.filter (·.1 = c)).getLast?.map Prod.snd).or (o.args c) := by
  induction found generalizing o with
  | nil =>
    obtain rfl := Option.some.inj h
    rfl
  | cons x found ih =>
    obtain ⟨c', optarg⟩ := x
    unfold Options.takeAll at h
    rcases ht : o.take c' optarg with _ | o₁
    · rw [ht] at h
      cases h
    · rw [ht] at h
      rw [ih h, take_args hc ht]
      by_cases he : c' = c
      · rw [if_pos he, List.filter_cons_of_pos (by simpa using he), List.getLast?_cons]
        generalize (found.filter fun x => decide (x.1 = c)).getLast? = last
        cases last <;> rfl
      · rw [if_neg he, List.filter_cons_of_neg (by simpa using he)]

/-- `strtoll` without the end of the number, cut to an `int`. -/
def atoi (s : List UInt8) : Int := (strtoll s 10).1.bmod (2 ^ 32)

/-- The parameters that are numbers. The domain comes from the argument of `-b`. -/
def Options.setNumbers (o : Options) (cfg : Config) (interface : List UInt8) (prms : MsgParams) : MsgParams :=
  { prms with
    boundaryHops := if o.count 'b' then UInt8.ofInt (atoi (o.get 'b')) else 1
    domainNumber := if o.count 'd' then UInt8.ofInt (atoi (o.get 'b')) else cfg.val .domainNumber interface
    transportSpecific :=
      if o.count 't' then UInt8.ofInt (strtoll (o.get 't') 16).1 else cfg.val .transportSpecific interface }

/-- The library and the tool agree on a section, if and only if it does not override the
domain. -/
theorem useConfig_agrees_iff (m : Message) (cfg : Config) (section_ : List UInt8) (o : Options) (prms : MsgParams)
    (hd : o.count 'd' = false) (ht : o.count 't' = false) :
    ((m.useConfig cfg section_).2.prms.transportSpecific = (o.setNumbers cfg section_ prms).transportSpecific ∧
        (m.useConfig cfg section_).2.prms.domainNumber = (o.setNumbers cfg section_ prms).domainNumber ∧
        (o.setNumbers cfg section_ prms).transportSpecific = cfg.val .transportSpecific section_ ∧
        (o.setNumbers cfg section_ prms).domainNumber = cfg.val .domainNumber section_) ↔
      ¬ cfg.Overrides .domainNumber section_ := by
  have hle : cfg.val .transportSpecific section_ ≤ (15 : UInt8) := cfg.val_legal .transportSpecific section_
  rw [← cfg.val_eq_global_iff, Options.setNumbers, hd, ht, Message.useConfig, if_neg (UInt8.not_lt.2 hle)]
  constructor
  · rintro ⟨-, h, -⟩
    exact h.symm
  · intro h
    exact ⟨rfl, h.symm, rfl, rfl⟩

/-- What a new configuration has read. -/
theorem read_example (text : String) {l : List Setting}
    (hkept : ConfigFile.Kept firstFit (ConfigFile.new firstFit fun _ => default) (exampleFile text))
    (hl : fileSettings (octets text) = some l) :
    ∃ cfg : Config, (ConfigFile.new firstFit fun _ => default).read_cfg firstFit (exampleFile text) =
      some (true, cfg.1) ∧
      ∀ idx section_, cfg.val idx section_ = expected l idx section_ := by
  obtain ⟨c, hc, hall⟩ := ConfigFile.read_cfg_holds rfl hkept
  rw [hl] at hc
  let cfg : Config := ⟨c, ConfigFile.read_cfg_legal (ConfigFile.new_legal _ _) hc⟩
  exact ⟨cfg, hc, fun idx section_ => Option.some.inj
    ((cfg.get_eq idx section_).symm.trans ((hall l hl).get idx section_))⟩

/-- Each line fits the buffer. -/
theorem kept_example (key : List UInt8) (hne : key ≠ []) (hl : key.length ≤ 511) (h10 : 10 ∉ key.dropLast)
    (h : LineEnds key)
    {text : String} (ht : wholeLines (octets text) = [octets "[eth0]\n", key]) :
    ConfigFile.Kept firstFit (ConfigFile.new firstFit fun _ => default) (exampleFile text) := by
  intro text' ht'
  obtain rfl := Option.some.inj ht'
  rw [ht]
  exact ⟨rfl, readWhole_of_fits (by decide) (by decide) (by decide) (.inr (.inr (.inl rfl))),
    fun _ => ⟨readWhole_of_fits hne hl h10 h, fun _ => trivial⟩⟩

/-- A section that sets something else. -/
theorem useConfig_agrees_read :
    ∃ cfg : Config, (ConfigFile.new firstFit fun _ => default).read_cfg firstFit (exampleFile "[eth0]\nudp_ttl 2\n") =
        some (true, cfg.1) ∧ cfg.val .udp_ttl (octets "eth0") = (2 : UInt8) ∧
      ((Message.new default).useConfig cfg (octets "eth0")).2.prms.transportSpecific =
        (({} : Options).setNumbers cfg (octets "eth0") (Message.new default).prms).transportSpecific ∧
      ((Message.new default).useConfig cfg (octets "eth0")).2.prms.domainNumber =
        (({} : Options).setNumbers cfg (octets "eth0") (Message.new default).prms).domainNumber := by
  obtain ⟨cfg, hc, hval⟩ := read_example "[eth0]\nudp_ttl 2\n" (l := [⟨octets "eth0", .udp_ttl, (2 : UInt8)⟩])
    (kept_example (octets "udp_ttl 2\n") (by decide) (by decide) (by decide)
      (.inr (.inr (.inr ⟨32, by decide, rfl⟩))) rfl) rfl
  have ho : ¬ cfg.Overrides .domainNumber (octets "eth0") := by
    rw [← cfg.val_eq_global_iff, hval, hval]
    rfl
  obtain ⟨ht, hd, -⟩ := (useConfig_agrees_iff (.new default) cfg (octets "eth0") {}
    (Message.new default).prms rfl rfl).2 ho
  exact ⟨cfg, hc, by rw [hval]; rfl, ht, hd⟩

/-- A domain of a section that only the tool uses. -/
theorem useConfig_disagrees :
    ∃ cfg : Config,
      (ConfigFile.new firstFit fun _ => default).read_cfg firstFit (exampleFile "[eth0]\ndomainNumber 5\n") =
        some (true, cfg.1) ∧
      ((Message.new default).useConfig cfg (octets "eth0")).2.prms.domainNumber = 0 ∧
      (({} : Options).setNumbers cfg (octets "eth0") (Message.new default).prms).domainNumber = 5 := by
  obtain ⟨cfg, hc, hval⟩ := read_example "[eth0]\ndomainNumber 5\n" (l := [⟨octets "eth0", .domainNumber, (5 : UInt8)⟩])
    (kept_example (octets "domainNumber 5\n") (by decide) (by decide) (by decide)
      (.inr (.inr (.inr ⟨32, by decide, rfl⟩))) rfl)
    rfl
  have hts : cfg.val .transportSpecific (octets "eth0") = (0 : UInt8) := by
    rw [hval]
    rfl
  refine ⟨cfg, hc, ?_, ?_⟩
  · rw [Message.useConfig, if_neg (by rw [hts]; decide)]
    change cfg.val .domainNumber [] = (0 : UInt8)
    rw [hval]
    rfl
  · change cfg.val .domainNumber (octets "eth0") = (5 : UInt8)
    rw [hval]
    rfl

/-! ## The tool -/

/-- What has become of pmc: it stopped, it used a configuration that is gone, or it goes on
to its commands. -/
inductive Started where
  | stops
  | undefined
  | runs (msg : Message)

/-- The configuration, of the file of `-f` where there is one. -/
def Options.configuration (o : Options) (alloc : Allocator) (mem : Addr → ConfigSection) (file : List UInt8 → CfgText) :
    Option (Bool × Config) :=
  if o.count 'f' then (Config.new alloc mem).read_cfg alloc (file (o.get 'f')) else some (true, .new alloc mem)

/-- The interface and the own identity, but for the port of a Unix socket. -/
def ownIdentity (net_select : UInt8) (interface : List UInt8) (self_id : PortIdentity_t) :
    OS (Option (IfInfo × PortIdentity_t)) :=
  if net_select ≠ ch 'u' then
    if interface = [] then return none
    else do
      let (ok, ifObj) ← IfInfo.initUsingName {} interface
      return if ok then some (ifObj, ⟨Binary.copy (Binary.eui48ToEui64 ifObj.m_mac).2 self_id.clockIdentity, 1⟩)
        else none
  else return some ({}, self_id)

/-- One setter after the other, until one is refused. -/
def setters {σ : Type} (S : SockClass σ) : List S.Setter → σ → OS (Bool × σ)
  | [], s => return (true, s)
  | x :: xs, s => do
    let (ok, s) ← S.set x s
    if ok then setters S xs s else return (false, s)

/-- The setters, and `init`. -/
def openSocket {σ : Type} (S : SockClass σ) (xs : List S.Setter) (s : σ) : OS (Bool × σ) := do
  let (ok, s) ← setters S xs s
  if ok then S.initBase s else return (false, s)

/-- `SockUnix`, with the process id for the own port. -/
def Options.startUnix (o : Options) (cfg : Config) (interface : List UInt8) (self_id : PortIdentity_t) :
    OS (Option PortIdentity_t) := do
  let (ok, s) ← openSocket SockUnix.sockClass [.setDefSelfAddress [] []] {}
  if ¬ ok ∨ ¬ (s.setPeerInternal (if o.count 's' then o.get 's' else cfg.val .uds_address interface)).1 then return none
  else
    let pid ← sys .getpid
    return some { self_id with portNumber := UInt16.ofNat pid }

/-- `SockIp4`, and `SockIp6` for `v6`. -/
def Options.startIp (o : Options) (v6 : Bool) (cfg : Config) (interface : List UInt8) (ifObj : IfInfo) (m_ifIndex : Int)
    (self_id : PortIdentity_t) : OS (Option PortIdentity_t) := do
  let ttl : List (SockIp.sockClass v6).Setter :=
    if o.count 'T' then [⟨.setUdpTtl (UInt8.ofInt (atoi (o.get 'T'))), by simp⟩] else []
  let scope : List (SockIp.sockClass v6).Setter :=
    if h : v6 = true ∧ o.count 'S' = true then
      [⟨.setScope (UInt8.ofInt (atoi (o.get 'S'))) false, by simp [h.1]⟩]
    else []
  let (ok, _) ← openSocket (SockIp.sockClass v6)
    (⟨.setAll ifObj (cfg.val .udp_ttl interface) (cfg.val .udp6_scope interface), by simp⟩ :: (ttl ++ scope))
    (if v6 then SockIp.new6 m_ifIndex else SockIp.new4 m_ifIndex)
  return if ok then some self_id else none

/-- `SockRaw`. -/
def Options.startRaw (o : Options) (cfg : Config) (interface : List UInt8) (ifObj : IfInfo) (m_ifIndex : Int)
    (self_id : PortIdentity_t) : OS (Option PortIdentity_t) := do
  let priority : List SockRaw.Setter :=
    if o.count 'P' then [.setSocketPriority (UInt8.ofInt (atoi (o.get 'P'))) false] else []
  -- a wrong address stops pmc after the other setters, which make no system call
  let mac : Option (List SockRaw.Setter) :=
    if o.count 'M' then
      match fromMac [] (o.get 'M') with
      | (true, mac) => some [.setPtpDstMac mac false]
      | (false, _) => none
    else some []
  match mac with
  | none => return none
  | some mac =>
    let (ok, _) ← openSocket SockRaw.sockClass
      (.setAll ifObj (cfg.val .ptp_dst_mac interface) (cfg.val .socket_priority interface) ::
        (priority ++ mac)) { m_ifIndex }
    return if ok then some self_id else none

/-- The network, of the options or else of the configuration. -/
def Options.netSelect (o : Options) (cfg : Config) : UInt8 :=
  if o.net_select = 0 then cfg.val .network_transport [] else o.net_select

def Options.transport (o : Options) (cfg : Config) (ifObj : IfInfo) (m_ifIndex : Int) (self_id : PortIdentity_t) :
    OS (Option PortIdentity_t) :=
  if o.netSelect cfg = ch 'u' then o.startUnix cfg (o.get 'i') self_id
  else if o.netSelect cfg = ch '6' then o.startIp true cfg (o.get 'i') ifObj m_ifIndex self_id
  else if o.netSelect cfg = ch '2' then o.startRaw cfg (o.get 'i') ifObj m_ifIndex self_id
  else o.startIp false cfg (o.get 'i') ifObj m_ifIndex self_id

/-- The other parameters of `main`. A pmc on the network that reads its commands takes signaling
messages. -/
def Options.setSignaling (o : Options) (cfg : Config) (batch : Bool) (prms : MsgParams) : MsgParams :=
  { prms with
    allowSigTlvs := Function.update (Function.update prms.allowSigTlvs TlvType.SLAVE_RX_SYNC_TIMING_DATA (some true))
      TlvType.SLAVE_DELAY_TIMING_DATA_NP (some true)
    rcvSignaling := if ¬ batch ∧ o.netSelect cfg ≠ ch 'u' then true else prms.rcvSignaling
    useZeroGet := o.zero_get }

/-- `main` behind its options. `updateParams` may refuse, which nothing asks for. -/
def Options.start (o : Options) (alloc : Allocator) (mem : Addr → ConfigSection) (file : List UInt8 → CfgText)
    (batch : Bool) (m_ifIndex : Int) (msg : Message) : OS Started :=
  match o.configuration alloc mem file with
  | none => return .undefined
  | some (false, _) => return .stops
  | some (true, cfg) => do
    let own ← ownIdentity (o.netSelect cfg) (o.get 'i') msg.prms.self_id
    match own with
    | none => return .stops
    | some (ifObj, self_id) =>
      let prms := o.setNumbers cfg (o.get 'i') { msg.prms with self_id }
      let opened ← o.transport cfg ifObj m_ifIndex self_id
      match opened with
      | none => return .stops
      | some self_id =>
        return .runs (msg.updateParams (o.setSignaling cfg batch { prms with self_id })).2

/-- `main` up to its first command, from what `getopt_long` finds. -/
def main (found : List (UInt8 × List UInt8)) (alloc : Allocator) (mem : Addr → ConfigSection)
    (file : List UInt8 → CfgText)
    (batch : Bool) (m_ifIndex : Int) (msg : Message) : OS Started :=
  match ({} : Options).takeAll found with
  | none => return .stops
  | some o => o.start alloc mem file batch m_ifIndex msg

/-! ## What the options ask for -/

/-- The parameters that the options and the configuration ask for. -/
def Options.wanted (o : Options) (cfg : Config) (batch : Bool) (self_id : PortIdentity_t) : MsgParams where
  transportSpecific := match o.args (ch 't') with
    | some s => UInt8.ofInt (strtoll s 16).1
    | none => cfg.val .transportSpecific (o.get 'i')
  domainNumber := match o.args (ch 'd') with
    | some s => UInt8.ofInt (atoi s)
    | none => cfg.val .domainNumber (o.get 'i')
  boundaryHops := match o.args (ch 'b') with
    | some s => UInt8.ofInt (atoi s)
    | none => 1
  isUnicast := true
  implementSpecific := .linuxptp
  target := ⟨allClocks, allPorts⟩
  self_id := self_id
  useZeroGet := o.zero_get
  rcvSignaling := !batch && o.netSelect cfg ≠ ch 'u'
  filterSignaling := true
  allowSigTlvs t := if t = TlvType.SLAVE_RX_SYNC_TIMING_DATA ∨
    t = TlvType.SLAVE_DELAY_TIMING_DATA_NP then some true else none

/-- The identity of a Unix socket has the process id, the one of a network interface its MAC
address. -/
def OwnIdentity (uds : Prop) (es : List SysEvent) (self_id : PortIdentity_t) : Prop :=
  (uds ∧ ∃ pid : Nat, ⟨.getpid, pid⟩ ∈ es ∧ self_id = ⟨default, UInt16.ofNat pid⟩) ∨
    (¬ uds ∧ ∃ (fd : Int) (name : List UInt8) (mac : Octets 6),
      ⟨.SIOCGIFHWADDR fd name, (some mac : Option (Octets 6))⟩ ∈ es ∧
      self_id.clockIdentity.v.val = mac.val.take 3 ++ [0xff, 0xfe] ++ mac.val.drop 3 ∧ self_id.portNumber = 1)

attribute [ext] MsgParams

/-- The argument of `-d` is the number of `-b`, and the one of `-t` has four bits. -/
structure Options.Straight (o : Options) : Prop where
  domain : ∀ s, o.args (ch 'd') = some s → UInt8.ofInt (atoi (o.get 'b')) = UInt8.ofInt (atoi s)
  transport : ∀ s, o.args (ch 't') = some s → UInt8.ofInt (strtoll s 16).1 ≤ 0xf

section Start

variable {o : Options} {cfg : Config} {es : List SysEvent}

theorem startIp_identity {v6 : Bool} {interface : List UInt8} {ifObj : IfInfo} {m_ifIndex : Int}
    {self_id self_id' : PortIdentity_t}
    (h : Ends (o.startIp v6 cfg interface ifObj m_ifIndex self_id) es (some self_id')) : self_id' = self_id := by
  obtain ⟨⟨ok, s⟩, -, he⟩ := ends_bind_pure.1 h
  cases ok
  · cases he
  · exact Option.some.inj he

theorem startRaw_identity {interface : List UInt8} {ifObj : IfInfo} {m_ifIndex : Int}
    {self_id self_id' : PortIdentity_t}
    (h : Ends (o.startRaw cfg interface ifObj m_ifIndex self_id) es (some self_id')) : self_id' = self_id := by
  unfold Options.startRaw at h
  dsimp only at h
  split at h
  · cases (ends_pure.1 h).2
  · obtain ⟨⟨ok, s⟩, -, he⟩ := ends_bind_pure.1 h
    cases ok
    · cases he
    · exact Option.some.inj he

theorem startUnix_identity {interface : List UInt8} {self_id self_id' : PortIdentity_t}
    (h : Ends (o.startUnix cfg interface self_id) es (some self_id')) :
    ∃ pid : Nat, ⟨.getpid, pid⟩ ∈ es ∧ self_id' = { self_id with portNumber := UInt16.ofNat pid } := by
  obtain ⟨⟨ok, s⟩, es₁, es₂, rfl, -, h₂⟩ := ends_bind.1 h
  dsimp only at h₂
  generalize (SockUnix.setPeerInternal s _).1 = peer at h₂
  split at h₂
  · cases (ends_pure.1 h₂).2
  · obtain ⟨pid, es₃, rfl, h₃⟩ := ends_sys_bind.1 h₂
    exact ⟨pid, List.mem_append_right _ List.mem_cons_self, Option.some.inj (ends_pure.1 h₃).2⟩

theorem copy_eui64 (c : ClockIdentity_t) (mac : Octets 6) :
    (Binary.copy (Binary.eui48ToEui64 mac.val).2 c).v.val = mac.val.take 3 ++ [0xff, 0xfe] ++ mac.val.drop 3 := by
  have hlen := mac.2
  have heui : (Binary.eui48ToEui64 mac.val).2 = mac.val.take 3 ++ [0xff, 0xfe] ++ mac.val.drop 3 := by
    rw [Binary.eui48ToEui64, if_neg (by omega), if_neg (by omega)]
  have height : (mac.val.take 3 ++ [0xff, 0xfe] ++ mac.val.drop 3).length = 8 := by
    simp only [List.length_append, List.length_take, List.length_drop, List.length_cons, List.length_nil, hlen]
    rfl
  rw [heui]
  exact List.take_left' height

theorem ownIdentity_ends {net_select : UInt8} {interface : List UInt8} {self_id self_id' : PortIdentity_t}
    {ifObj : IfInfo}
    (h : Ends (ownIdentity net_select interface self_id) es (some (ifObj, self_id'))) :
    (net_select = ch 'u' ∧ self_id' = self_id) ∨
      (net_select ≠ ch 'u' ∧ ∃ (fd : Int) (name : List UInt8) (mac : Octets 6),
        ⟨.SIOCGIFHWADDR fd name, (some mac : Option (Octets 6))⟩ ∈ es ∧
          self_id'.clockIdentity.v.val = mac.val.take 3 ++ [0xff, 0xfe] ++ mac.val.drop 3 ∧
          self_id'.portNumber = 1) := by
  unfold ownIdentity at h
  split at h
  · rename_i hu
    refine .inr ⟨hu, ?_⟩
    split at h
    · cases (ends_pure.1 h).2
    · obtain ⟨⟨ok, i⟩, h₁, he⟩ := ends_bind_pure.1 h
      have ho := IfInfo.initUsingName_ends h₁
      cases ho with
      | unchanged => cases he
      | late => cases he
      | found hf =>
        obtain ⟨rfl, rfl⟩ := Prod.mk.inj (Option.some.inj he)
        cases hf with
        | name fd ret m_ifIndex m_ptpIndex _ mac =>
          exact ⟨fd, cstr interface, mac, by simp, copy_eui64 _ mac, rfl⟩
  · rename_i hu
    obtain ⟨-, rfl⟩ := Prod.mk.inj (Option.some.inj (ends_pure.1 h).2)
    exact .inl ⟨not_not.1 hu, rfl⟩

section Numbers
variable (o : Options) (cfg : Config) (batch : Bool) (self_id : PortIdentity_t) (prms : MsgParams)

theorem setNumbers_boundaryHops : (o.setNumbers cfg (o.get 'i') prms).boundaryHops =
    (o.wanted cfg batch self_id).boundaryHops := by
  change (if (o.args (ch 'b')).isSome then _ else _) = _
  simp only [Options.wanted, Options.get]
  rcases o.args (ch 'b') with _ | s <;> rfl

theorem setNumbers_transportSpecific :
    (o.setNumbers cfg (o.get 'i') prms).transportSpecific = (o.wanted cfg batch self_id).transportSpecific := by
  change (if (o.args (ch 't')).isSome then _ else _) = _
  simp only [Options.wanted, Options.get]
  rcases o.args (ch 't') with _ | s <;> rfl

/-- The domain is the one number that need not come from its own option. -/
theorem setNumbers_domainNumber_iff :
    (o.setNumbers cfg (o.get 'i') prms).domainNumber = (o.wanted cfg batch self_id).domainNumber ↔
      ∀ s, o.args (ch 'd') = some s → UInt8.ofInt (atoi (o.get 'b')) = UInt8.ofInt (atoi s) := by
  change (if (o.args (ch 'd')).isSome then _ else _) = _ ↔ _
  simp only [Options.wanted]
  rcases o.args (ch 'd') with _ | s <;> simp

theorem setSignaling_allowSigTlvs (h : prms.allowSigTlvs = fun _ => none) :
    (o.setSignaling cfg batch prms).allowSigTlvs = (o.wanted cfg batch self_id).allowSigTlvs := by
  funext t
  simp only [Options.setSignaling, Function.update_apply, Options.wanted, h]
  by_cases h₁ : t = TlvType.SLAVE_DELAY_TIMING_DATA_NP
  · simp [h₁]
  · by_cases h₂ : t = TlvType.SLAVE_RX_SYNC_TIMING_DATA
    · simp [h₂]
    · simp [h₁, h₂]

theorem setSignaling_rcvSignaling (h : prms.rcvSignaling = false) :
    (o.setSignaling cfg batch prms).rcvSignaling = (o.wanted cfg batch self_id).rcvSignaling := by
  simp only [Options.setSignaling, Options.wanted, h]
  cases batch <;> simp

/-- Wide numbers are the only ones that `updateParams` refuses. -/
theorem wanted_transportSpecific_le :
    (o.wanted cfg batch self_id).transportSpecific ≤ 0xf ↔
      ∀ s, o.args (ch 't') = some s → UInt8.ofInt (strtoll s 16).1 ≤ 0xf := by
  simp only [Options.wanted]
  rcases o.args (ch 't') with _ | s
  · exact iff_of_true (cfg.val_legal .transportSpecific _) fun s h => by cases h
  · simp

end Numbers

/-- What is in effect is what was asked for, where the numbers are straight. -/
theorem update_wanted_iff (self_id : PortIdentity_t) (batch : Bool) (m₀ : Message) :
    ((Message.new m₀).updateParams
        (o.setSignaling cfg batch (o.setNumbers cfg (o.get 'i') { (Message.new m₀).prms with self_id }))).2.prms =
      o.wanted cfg batch self_id ↔ o.Straight := by
  set prms : MsgParams := { (Message.new m₀).prms with self_id }
  have hts := setNumbers_transportSpecific o cfg batch self_id prms
  have hle := wanted_transportSpecific_le o cfg batch self_id
  have hdomain := setNumbers_domainNumber_iff o cfg batch self_id prms
  have hhops := setNumbers_boundaryHops o cfg batch self_id prms
  have hrcv := setSignaling_rcvSignaling o cfg batch self_id (o.setNumbers cfg (o.get 'i') prms) rfl
  have hallow := setSignaling_allowSigTlvs o cfg batch self_id (o.setNumbers cfg (o.get 'i') prms) rfl
  by_cases hgt : (o.wanted cfg batch self_id).transportSpecific ≤ 0xf
  · rw [Message.updateParams, if_neg (by rw [← hts] at hgt; exact UInt8.not_lt.2 hgt)]
    constructor
    · intro he
      have hd := congrArg MsgParams.domainNumber he
      exact ⟨hdomain.1 hd, hle.1 hgt⟩
    · intro hs
      exact MsgParams.ext hts (hdomain.2 hs.domain) hhops rfl rfl rfl rfl rfl hrcv rfl hallow
  · rw [Message.updateParams, if_pos (by rw [← hts] at hgt; exact UInt8.not_le.1 hgt)]
    refine iff_of_false (fun he => hgt ?_) (fun hs => hgt (hle.2 hs.transport))
    -- the parameters of the new message, of which `transportSpecific` is 0
    have h0 : (0 : UInt8) = (o.wanted cfg batch self_id).transportSpecific := congrArg MsgParams.transportSpecific he
    rw [← h0]
    decide

theorem configuration_cases (alloc : Allocator) (mem : Addr → ConfigSection) (file : List UInt8 → CfgText) :
    o.configuration alloc mem file = none ∨ (∃ cfg, o.configuration alloc mem file = some (false, cfg)) ∨
      ∃ cfg, o.configuration alloc mem file = some (true, cfg) := by
  rcases o.configuration alloc mem file with _ | ⟨_ | _, cfg⟩
  · exact .inl rfl
  · exact .inr (.inl ⟨cfg, rfl⟩)
  · exact .inr (.inr ⟨cfg, rfl⟩)

end Start

/-- What becomes of options: the parameters are the ones asked for, exactly where the numbers
are straight. -/
theorem start_ends (o : Options) (alloc : Allocator) (mem : Addr → ConfigSection) (file : List UInt8 → CfgText)
    (batch : Bool) (m_ifIndex : Int) (m₀ : Message) {es : List SysEvent} {r : Started}
    (h : Ends (o.start alloc mem file batch m_ifIndex (.new m₀)) es r) :
    r = .stops ∨ (r = .undefined ∧ o.configuration alloc mem file = none) ∨
      ∃ cfg self_id msg, r = .runs msg ∧ o.configuration alloc mem file = some (true, cfg) ∧
        OwnIdentity (o.netSelect cfg = ch 'u') es self_id ∧
          (msg.prms = o.wanted cfg batch self_id ↔ o.Straight) := by
  unfold Options.start at h
  rcases @configuration_cases o alloc mem file with hc | ⟨cfg, hc⟩ | ⟨cfg, hc⟩ <;> rw [hc] at h ⊢
  · exact .inr (.inl ⟨(ends_pure.1 h).2, rfl⟩)
  · exact .inl (ends_pure.1 h).2
  · obtain ⟨own, es₁, es₂, rfl, h₁, h₂⟩ := ends_bind.1 h
    rcases own with _ | ⟨ifObj, self_id⟩
    · exact .inl (ends_pure.1 h₂).2
    · obtain ⟨opened, es₃, es₄, rfl, h₃, h₄⟩ := ends_bind.1 h₂
      rcases opened with _ | self_id'
      · exact .inl (ends_pure.1 h₄).2
      · refine .inr (.inr ⟨cfg, self_id', _, (ends_pure.1 h₄).2, rfl, ?_, update_wanted_iff self_id' batch m₀⟩)
        unfold Options.transport at h₃
        rcases ownIdentity_ends h₁ with ⟨hu, rfl⟩ | ⟨hu, fd, name, mac, hm, hv, hp⟩
        · rw [if_pos hu] at h₃
          obtain ⟨pid, hpid, rfl⟩ := startUnix_identity h₃
          exact .inl ⟨hu, pid, List.mem_append_right _ (List.mem_append_left _ hpid), rfl⟩
        · have he : self_id' = self_id := by
            rw [if_neg hu] at h₃
            split at h₃
            · exact startIp_identity h₃
            · split at h₃
              · exact startRaw_identity h₃
              · exact startIp_identity h₃
          rw [he]
          exact .inr ⟨hu, fd, name, mac, List.mem_append_left _ hm, hv, hp⟩

/-- Of the signaling TLVs, a pmc that runs skips all but the two that it prints. -/
theorem start_skips (o : Options) {alloc : Allocator} {mem : Addr → ConfigSection} {file : List UInt8 → CfgText}
    {batch : Bool} {m_ifIndex : Int} {m₀ : Message} {es : List SysEvent} {msg : Message}
    (h : Ends (o.start alloc mem file batch m_ifIndex (.new m₀)) es (.runs msg)) {t : UInt16}
    (ht : ¬ (t = TlvType.SLAVE_RX_SYNC_TIMING_DATA ∨ t = TlvType.SLAVE_DELAY_TIMING_DATA_NP)) :
      msg.prms.skips t = true := by
  have skips (cfg : Config) {prms : MsgParams} (hf : prms.filterSignaling = true)
    (ha : prms.allowSigTlvs = fun _ => none) :
      ((Message.new m₀).updateParams (o.setSignaling cfg batch prms)).2.prms.skips t = true := by
    have hallow : (o.setSignaling cfg batch prms).allowSigTlvs t =
        if t = TlvType.SLAVE_RX_SYNC_TIMING_DATA ∨ t = TlvType.SLAVE_DELAY_TIMING_DATA_NP then some true else none :=
      congrFun (setSignaling_allowSigTlvs o cfg batch prms.self_id prms ha) t
    rw [if_neg ht] at hallow
    unfold Message.updateParams
    split
    · rfl
    · change (prms.filterSignaling && ((o.setSignaling cfg batch prms).allowSigTlvs t).isNone) = true
      rw [hf, hallow]
      rfl
  unfold Options.start at h
  rcases @configuration_cases o alloc mem file with hc | ⟨cfg, hc⟩ | ⟨cfg, hc⟩ <;> rw [hc] at h
  · cases (ends_pure.1 h).2
  · cases (ends_pure.1 h).2
  · obtain ⟨own, es₁, es₂, rfl, -, h₂⟩ := ends_bind.1 h
    rcases own with _ | ⟨ifObj, self_id⟩
    · cases (ends_pure.1 h₂).2
    · obtain ⟨opened, es₃, es₄, rfl, -, h₄⟩ := ends_bind.1 h₂
      rcases opened with _ | self_id'
      · cases (ends_pure.1 h₄).2
      · cases (ends_pure.1 h₄).2
        exact skips cfg rfl rfl

/-! ## Runs on a Unix socket -/

def udsMe : SockUnix := { m_me := octets "/var/run/pmc.77" }

def udsSocket : SockUnix := { udsMe with m_fd := 3, m_isInit := true }

/-- The calls of root, with process id 77. -/
def udsEvents : List SysEvent :=
  [⟨.getuid, (0 : Nat)⟩, ⟨.getpid, (77 : Nat)⟩, ⟨.socket .AF_UNIX, (3 : Int)⟩,
    ⟨.bind 3 (setUnixAddr (octets "/var/run/pmc.77")), (0 : Int)⟩, ⟨.getpid, (77 : Nat)⟩]

theorem new_val (alloc : Allocator) (mem : Addr → ConfigSection) (idx : CfgKey) (section_ : List UInt8) :
    (Config.new alloc mem).val idx section_ = idx.dflt := by
  have hh := (ConfigFile.new_holds mem : ConfigFile.Holds (.new alloc mem) []).get idx section_
  rw [Option.some.inj (((Config.new alloc mem).get_eq idx section_).symm.trans hh), expected]
  split <;> rfl

theorem startUnix_runs (o : Options) (cfg : Config) (hs : o.count 's' = false)
    (hcfg : cfg.val .uds_address (o.get 'i') = uds_address_def) (self_id : PortIdentity_t) :
    Ends (o.startUnix cfg (o.get 'i') self_id) udsEvents (some { self_id with portNumber := 77 }) := by
  have hset : Ends (SockUnix.sockClass.set (.setDefSelfAddress [] []) {})
      [⟨.getuid, (0 : Nat)⟩, ⟨.getpid, (77 : Nat)⟩] (true, udsMe) := by
    change Ends (SockUnix.setDefSelfAddress {} [] []) _ _
    rw [SockUnix.setDefSelfAddress, if_neg (by decide)]
    exact .call (.call (.done _))
  have hinit : Ends (SockUnix.initBase udsMe) [⟨.socket .AF_UNIX, (3 : Int)⟩,
    ⟨.bind 3 (setUnixAddr (octets "/var/run/pmc.77")), (0 : Int)⟩]
      (true, udsSocket) := by
    rw [SockUnix.initBase, if_neg (by decide)]
    exact .call (.call (.done _))
  have hpeer :
      (udsSocket.setPeerInternal (if o.count 's' then o.get 's' else cfg.val .uds_address (o.get 'i'))).1 = true := by
    rw [hs]
    change (udsSocket.setPeerInternal (cfg.val .uds_address (o.get 'i'))).1 = true
    rw [hcfg]
    decide
  have hopen : Ends (openSocket SockUnix.sockClass [.setDefSelfAddress [] []] {})
      [⟨.getuid, (0 : Nat)⟩, ⟨.getpid, (77 : Nat)⟩, ⟨.socket .AF_UNIX, (3 : Int)⟩,
        ⟨.bind 3 (setUnixAddr (octets "/var/run/pmc.77")), (0 : Int)⟩] (true, udsSocket) :=
    ends_bind.2 ⟨(true, udsMe), _, _, rfl, ends_bind.2 ⟨(true, udsMe), _, [], rfl, hset, .done _⟩, hinit⟩
  refine ends_bind.2 ⟨(true, udsSocket), _, [⟨.getpid, (77 : Nat)⟩], rfl, hopen, ?_⟩
  dsimp only
  rw [hpeer, if_neg (by decide)]
  exact .call (.done _)

/-- Without a file and a server, a pmc on a Unix socket runs. -/
theorem start_runs (o : Options) (hu : o.net_select = ch 'u') (hf : o.count 'f' = false) (hs : o.count 's' = false)
    (mem : Addr → ConfigSection) (file : List UInt8 → CfgText) (batch : Bool) (m_ifIndex : Int) (m₀ : Message) :
    Ends (o.start firstFit mem file batch m_ifIndex (.new m₀)) udsEvents
      (.runs ((Message.new m₀).updateParams (o.setSignaling (.new firstFit mem) batch
        (o.setNumbers (.new firstFit mem) (o.get 'i')
          { (Message.new m₀).prms with self_id := ⟨default, 77⟩ }))).2) := by
  have hc : o.configuration firstFit mem file = some (true, .new firstFit mem) := by
    rw [Options.configuration, hf]
    rfl
  have hnet : o.netSelect (.new firstFit mem) = ch 'u' := by
    rw [Options.netSelect, hu, if_neg (by decide)]
  have hown : ownIdentity (ch 'u') (o.get 'i') (Message.new m₀).prms.self_id = return some ({}, ⟨default, 0⟩) := rfl
  unfold Options.start
  rw [hc]
  dsimp only
  rw [hnet, hown]
  have htransport : Ends (o.transport (.new firstFit mem) {} m_ifIndex ⟨default, 0⟩) udsEvents
      (some ⟨default, 77⟩) := by
    rw [Options.transport, if_pos hnet]
    exact startUnix_runs o _ hs (new_val firstFit mem .uds_address _) _
  refine ends_bind.2 ⟨some ({}, ⟨default, 0⟩), [], udsEvents, rfl, .done _, ?_⟩
  exact ends_bind.2 ⟨some ⟨default, 77⟩, udsEvents, [], rfl, htransport, .done _⟩

/-! ## The command line -/

/-- pmc stops, or a configuration that is gone is used, or it runs with the parameters that
the options and the configuration ask for, exactly where the numbers are straight. -/
theorem options_take_effect_iff (found : List (UInt8 × List UInt8)) (alloc : Allocator) (mem : Addr → ConfigSection)
    (file : List UInt8 → CfgText) (batch : Bool) (m_ifIndex : Int) (m₀ : Message) {es : List SysEvent} {r : Started}
    (h : Ends (main found alloc mem file batch m_ifIndex (.new m₀)) es r) :
    r = .stops ∨ ∃ o, ({} : Options).takeAll found = some o ∧
      ((r = .undefined ∧ o.configuration alloc mem file = none) ∨
        ∃ cfg self_id msg, r = .runs msg ∧ o.configuration alloc mem file = some (true, cfg) ∧
          OwnIdentity (o.netSelect cfg = ch 'u') es self_id ∧
            (msg.prms = o.wanted cfg batch self_id ↔ o.Straight)) := by
  unfold main at h
  rcases ht : ({} : Options).takeAll found with _ | o <;> rw [ht] at h
  · exact .inl (ends_pure.1 h).2
  · exact (start_ends o alloc mem file batch m_ifIndex m₀ h).imp_right fun hr => ⟨o, rfl, hr⟩

theorem main_runs {found : List (UInt8 × List UInt8)} {o : Options} (ht : ({} : Options).takeAll found = some o)
    (hu : o.net_select = ch 'u') (hf : o.count 'f' = false) (hs : o.count 's' = false) :
    Ends (main found firstFit (fun _ => default) (fun _ => exampleFile "") true 0 (.new default)) udsEvents
      (.runs ((Message.new default).updateParams (o.setSignaling (.new firstFit fun _ => default) true
        (o.setNumbers (.new firstFit fun _ => default) (o.get 'i')
          { (Message.new default).prms with self_id := ⟨default, 77⟩ }))).2) := by
  unfold main
  rw [ht]
  exact start_runs o hu hf hs _ _ true 0 default

/-- The arguments `-u -b 5 -d 5`. -/
def sameNumbers : List (UInt8 × List UInt8) := [(ch 'u', []), (ch 'b', octets "5"), (ch 'd', octets "5")]

theorem options_take_effect_uds :
    ∃ o cfg self_id msg, ({} : Options).takeAll sameNumbers = some o ∧
      Ends (main sameNumbers firstFit (fun _ => default) (fun _ => exampleFile "") true 0 (.new default))
        udsEvents (.runs msg) ∧
        msg.prms = o.wanted cfg true self_id := by
  obtain ⟨o, ho⟩ : ∃ o, ({} : Options).takeAll sameNumbers = some o := ⟨_, rfl⟩
  have hs : o.Straight := by
    obtain rfl := Option.some.inj ho
    refine ⟨fun s hd => ?_, fun s ht => ?_⟩
    · have he : some (octets "5") = some s := hd
      obtain rfl := Option.some.inj he
      rfl
    · cases ht
  have hrun : ∃ msg, Ends (main sameNumbers firstFit (fun _ => default) (fun _ => exampleFile "") true 0
    (.new default)) udsEvents
      (.runs msg) := ⟨_, main_runs rfl rfl rfl rfl⟩
  obtain ⟨msg, hrun⟩ := hrun
  rcases options_take_effect_iff sameNumbers firstFit (fun _ => default)
    (fun _ => exampleFile "") true 0 default hrun with
    h | ⟨o', ho', ⟨h, -⟩ | ⟨cfg, self_id, msg', h, -, -, hiff⟩⟩
  · cases h
  · cases h
  · obtain rfl := Option.some.inj (ho.symm.trans ho')
    obtain rfl := Started.runs.inj h
    exact ⟨o, cfg, self_id, msg, ho, hrun, hiff.2 hs⟩

/-- The arguments `-u -d 5`. -/
def onlyDomain : List (UInt8 × List UInt8) := [(ch 'u', []), (ch 'd', octets "5")]

/-- The arguments `-u -b 4 -t 1f`. -/
def wideTransport : List (UInt8 × List UInt8) := [(ch 'u', []), (ch 'b', octets "4"), (ch 't', octets "1f")]

/-- The domain of `-d` is not taken, and a wide `-t` takes the hops of `-b` along. -/
theorem options_lost :
    (∃ o msg, ({} : Options).takeAll onlyDomain = some o ∧
        Ends (main onlyDomain firstFit (fun _ => default) (fun _ => exampleFile "") true 0 (.new default))
          udsEvents (.runs msg) ∧
        msg.prms.domainNumber = 0 ∧ (o.wanted (.new firstFit fun _ => default) true ⟨default, 77⟩).domainNumber = 5) ∧
      ∃ o msg, ({} : Options).takeAll wideTransport = some o ∧
        Ends (main wideTransport firstFit (fun _ => default) (fun _ => exampleFile "") true 0 (.new default))
          udsEvents (.runs msg) ∧
        msg.prms.boundaryHops = 1 ∧
        (o.wanted (.new firstFit fun _ => default) true ⟨default, 77⟩).boundaryHops = 4 := by
  constructor
  · refine ⟨_, _, rfl, main_runs rfl rfl rfl rfl, ?_, rfl⟩
    rw [Message.updateParams]
    split
    · rfl
    · rfl
  · refine ⟨_, _, rfl, main_runs rfl rfl rfl rfl, ?_, rfl⟩
    rw [Message.updateParams, if_pos (by decide)]
    rfl

end LibPmc
