import LibPmc.Sock
/-!
# The life of a socket

A class of sockets as its methods, and the runs of calls on an object, for every outcome
of every system call. What the methods do to `m_fd` and `m_isInit` is the same in all
classes but for `close`: `SockUnix` alone takes `m_isInit` back.
-/
namespace LibPmc

open Cstr Os Os.Sys Wire

/-! ## A class of sockets -/

/-- `Setter`, `Send` and `Rcv` are the arguments of its setters and of its calls that send
and receive. `accepts` says that a setter has nothing against its argument, `ready` that
all parameters an initialisation asks for are set. -/
structure SockClass (σ : Type) where
  base : σ → SockBase
  Setter : Type
  Send : Type
  Rcv : Type
  set : Setter → σ → OS (Bool × σ)
  initBase : σ → OS (Bool × σ)
  closeBase : σ → OS σ
  send : Send → σ → OS Bool
  rcv : Rcv → Mem → σ → OS (Int × Mem × σ)
  accepts : Setter → Prop
  ready : σ → Prop

namespace SockUnix

inductive Setter where
  | setPeerAddress (string : List UInt8)
  | setSelfAddress (string : List UInt8)
  | setDefSelfAddress (rootBase useDef : List UInt8)

inductive Send where
  | send (msg : List UInt8)
  | sendTo (msg addrStr : List UInt8)

/-- `last` for the calls of `rcvFrom` without the parameter `from`. -/
inductive Rcv where
  | rcv (bufSize : Nat) (block : Bool)
  | rcvFrom (bufSize : Nat) (block last : Bool)

def sockClass : SockClass SockUnix where
  base := toSockBase
  Setter := Setter
  Send := Send
  Rcv := Rcv
  set
    | .setPeerAddress str, s => return s.setPeerInternal str
    | .setSelfAddress str, s => return s.setSelfAddress str
    | .setDefSelfAddress rootBase useDef, s => s.setDefSelfAddress rootBase useDef
  initBase := initBase
  closeBase := closeBase
  send
    | .send msg, s => s.sendBase msg
    | .sendTo msg addrStr, s => s.sendTo msg addrStr
  rcv
    | .rcv bufSize block, buf, s => do
      let (cnt, buf) ← s.rcvBase buf bufSize block
      return (cnt, buf, s)
    | .rcvFrom bufSize block true, buf, s => s.rcvLast buf bufSize block
    | .rcvFrom bufSize block false, buf, s => do
      let (cnt, buf, _) ← s.rcvFrom buf bufSize block
      return (cnt, buf, s)
  accepts
    | .setPeerAddress str => testUnix str
    | .setSelfAddress str => testUnix str
    -- the address also has the home directory and the process id
    | .setDefSelfAddress rootBase useDef =>
      (∃ pid : Nat, testUnix ((if rootBase = [] then rootBasestr else rootBase) ++ octets (toString pid))) ∨
        ∃ (home : List UInt8) (pid : Nat),
          testUnix (home ++ (if useDef = [] then useDefstr else useDef) ++ octets (toString pid))
  ready s := testUnix s.m_me

end SockUnix

/-- The setters of `SockBaseIf`. -/
inductive SockBaseIf.Setter where
  | setIfUsingName (ifName : List UInt8)
  | setIfUsingIndex (ifIndex : Int)
  | setIf (ifObj : IfInfo)

namespace SockBaseIf

def set (s : SockBaseIf) : Setter → OS (Bool × SockBaseIf)
  | .setIfUsingName ifName => s.setIfUsingName ifName
  | .setIfUsingIndex ifIndex => s.setIfUsingIndex ifIndex
  | .setIf ifObj => return s.setIf ifObj

def Setter.accepts : Setter → Prop
  | setIfUsingName ifName => ifName ≠ [] ∧ ifName.length < IFNAMSIZ
  | setIfUsingIndex _ => True
  | setIf ifObj => ifObj.m_isInit = true

end SockBaseIf

namespace SockIp

/-- `cfg` for the values that come from a configuration. `setAll` has those of both of its
arguments, and `setAllInit` is `setAll` and, where that succeeds, `init`. -/
inductive Setter where
  | setIf (x : SockBaseIf.Setter)
  | setUdpTtl (udp_ttl : UInt8)
  | setScope (udp6_scope : UInt8) (cfg : Bool)
  | setAll (ifObj : IfInfo) (udp_ttl udp6_scope : UInt8)

/-- The setters of the interface on the whole object. -/
def setIfc (x : SockBaseIf.Setter) (s : SockIp) : OS (Bool × SockIp) := do
  let (ok, b) ← s.toSockBaseIf.set x
  return (ok, { s with toSockBaseIf := b })

/-- `setAllBase` of the class, with the values of the configuration. -/
def setAllBase (v6 : Bool) (s : SockIp) (udp_ttl udp6_scope : UInt8) : Bool × SockIp :=
  let (ok, s) := s.setUdpTtl udp_ttl
  if v6 ∧ ok then s.setScopeCfg udp6_scope else (ok, s)

/-- `SockIp4`, and `SockIp6` for `v6`. -/
def sockClass (v6 : Bool) : SockClass SockIp where
  base s := s.toSockBase
  Setter := { x : Setter // v6 = false → ∀ udp6_scope cfg, x ≠ .setScope udp6_scope cfg }
  Send := List UInt8
  Rcv := Nat × Bool
  set x s := match x.val with
    | .setIf x => s.setIfc x
    | .setUdpTtl udp_ttl => return s.setUdpTtl udp_ttl
    | .setScope udp6_scope false => return s.setScope udp6_scope
    | .setScope udp6_scope true => return s.setScopeCfg udp6_scope
    | .setAll ifObj udp_ttl udp6_scope => do
      let (ok, s) ← s.setIfc (.setIf ifObj)
      return if ok then s.setAllBase v6 udp_ttl udp6_scope else (false, s)
  initBase := initBase (if v6 then init2v6 else init2v4)
  closeBase s := do
    let b ← s.toSockBase.closeBase
    return { s with toSockBase := b }
  send msg s := s.sendBase msg
  rcv x buf s := do
    let (cnt, buf) ← s.rcvBase buf x.1 x.2
    return (cnt, buf, s)
  accepts x := match x.val with
    | .setIf x => x.accepts
    | .setUdpTtl _ => True
    | .setScope udp6_scope false => udp6_scope ≤ 0xf
    | .setScope _ true => True
    | .setAll ifObj _ _ => ifObj.m_isInit = true
  ready s := s.m_have_if = true ∧ 0 ≤ s.m_udp_ttl ∧ (v6 = true → 0 ≤ s.m_udp6_scope)

end SockIp

namespace SockRaw

inductive Setter where
  | setIf (x : SockBaseIf.Setter)
  | setPtpDstMacStr (string : List UInt8)
  | setPtpDstMac (ptp_dst_mac : List UInt8) (cfg : Bool)
  | setSocketPriority (socket_priority : UInt8) (cfg : Bool)
  | setAll (ifObj : IfInfo) (ptp_dst_mac : List UInt8) (socket_priority : UInt8)

def setIfc (x : SockBaseIf.Setter) (s : SockRaw) : OS (Bool × SockRaw) := do
  let (ok, b) ← s.toSockBaseIf.set x
  return (ok, { s with toSockBaseIf := b })

def setAllBase (s : SockRaw) (ptp_dst_mac : List UInt8) (socket_priority : UInt8) : Bool × SockRaw :=
  let (ok, s) := s.setPtpDstMacCfg ptp_dst_mac
  if ok then s.setSocketPriorityCfg socket_priority else (false, s)

def sockClass : SockClass SockRaw where
  base s := s.toSockBase
  Setter := Setter
  Send := List UInt8
  Rcv := Nat × Bool
  set
    | .setIf x, s => s.setIfc x
    | .setPtpDstMacStr str, s => return s.setPtpDstMacStr str
    | .setPtpDstMac mac false, s => return s.setPtpDstMac mac
    | .setPtpDstMac mac true, s => return s.setPtpDstMacCfg mac
    | .setSocketPriority priority false, s => return s.setSocketPriority priority
    | .setSocketPriority priority true, s => return s.setSocketPriorityCfg priority
    | .setAll ifObj mac priority, s => do
      let (ok, s) ← s.setIfc (.setIf ifObj)
      return if ok then s.setAllBase mac priority else (false, s)
  initBase := initBase
  closeBase s := do
    let b ← s.toSockBase.closeBase
    return { s with toSockBase := b }
  send msg s := s.sendBase msg
  rcv x buf s := do
    let (cnt, buf) ← s.rcvBase buf x.1 x.2
    return (cnt, buf, s)
  accepts
    | .setIf x => x.accepts
    | .setPtpDstMacStr str => (fromMac [] str).1 = true
    | .setPtpDstMac mac false => mac.length = 6 ∨ mac.length = 8
    | .setPtpDstMac _ true => True
    | .setSocketPriority priority false => priority ≤ 15
    | .setSocketPriority _ true => True
    | .setAll ifObj _ _ => ifObj.m_isInit = true
  ready s := s.m_have_if = true ∧ s.m_ptp_dst_mac ≠ [] ∧ 0 ≤ s.m_socket_priority

end SockRaw

/-! ## What the calls of a method do to descriptors -/

/-- The descriptor opened last. -/
def opened : List SysEvent → Option Int
  | [] => none
  | ⟨.socket _, fd⟩ :: rest => (opened rest).or (some fd)
  | _ :: rest => opened rest

def closes (fd : Int) : List SysEvent → Bool
  | [] => false
  | ⟨.close fd', _⟩ :: rest => fd' = fd || closes fd rest
  | _ :: rest => closes fd rest

@[simp] theorem opened_socket (d : Domain) (fd : Int) (es : List SysEvent) :
    opened (⟨.socket d, fd⟩ :: es) = (opened es).or (some fd) := rfl

@[simp] theorem opened_inet_pton (d : Domain) (str : List UInt8) (r : Option (List UInt8)) (es : List SysEvent) :
    opened (⟨.inet_pton d str, r⟩ :: es) = opened es := rfl

theorem opened_append (es es' : List SysEvent) : opened (es ++ es') = (opened es').or (opened es) := by
  induction es with
  | nil => simp [opened]
  | cons e es ih =>
    rcases e with ⟨c, r⟩
    cases c <;> simp [opened, ih]

theorem closeBase_ends {s s' : SockBase} {es : List SysEvent} (h : Ends s.closeBase es s') :
    s'.m_isInit = s.m_isInit ∧ s'.m_fd < 0 ∧ opened es = none := by
  unfold SockBase.closeBase at h
  split at h
  · obtain ⟨r, es', rfl, h'⟩ := ends_sys_bind.1 h
    obtain ⟨rfl, rfl⟩ := ends_pure.1 h'
    exact ⟨rfl, by simp, rfl⟩
  · obtain ⟨rfl, rfl⟩ := ends_pure.1 h
    exact ⟨rfl, by omega, rfl⟩

theorem closeBase_ends_some (s : SockBase) : ∃ es s', Ends s.closeBase es s' := by
  unfold SockBase.closeBase
  split
  · exact ⟨[⟨.close s.m_fd, (0 : Int)⟩], _, .call (.done _)⟩
  · exact ⟨[], _, .done _⟩

/-- The calls of an initialisation open nothing. -/
theorem setups_ends {fd : Int} {l : List Setup} {es : List SysEvent} {ok : Bool}
    (h : Ends (setups fd l) es ok) : opened es = none := by
  induction l generalizing es with
  | nil =>
    obtain ⟨rfl, -⟩ := ends_pure.1 h
    rfl
  | cons s rest ih =>
    have hs {es' : List SysEvent} {ret : Int} (hs : Ends (s.call fd) es' ret) : opened es' = none := by
      cases s <;> cases hs <;> rename_i h <;> cases h <;> rfl
    obtain ⟨ret, es₁, es₂, rfl, h₁, h₂⟩ := ends_bind.1 h
    rw [opened_append, hs h₁]
    split at h₂
    · obtain ⟨rfl, -⟩ := ends_pure.1 h₂
      rfl
    · rw [ih h₂]
      rfl

/-- Where all of them return 0, they are all made. -/
theorem setups_succeed (fd : Int) (l : List Setup) : ∃ es, Ends (setups fd l) es true := by
  induction l with
  | nil => exact ⟨[], .done true⟩
  | cons s rest ih =>
    obtain ⟨es, h⟩ := ih
    cases s with
    | bind addr => exact ⟨⟨.bind fd addr, (0 : Int)⟩ :: es, .call h⟩
    | opt o => exact ⟨⟨.setsockopt fd o, (0 : Int)⟩ :: es, .call h⟩

/-! ## The laws of a class -/

/-- What the methods do to the descriptor and to `m_isInit`. `clears` says whether `close`
takes `m_isInit` back. -/
structure SockClass.Laws {σ : Type} (S : SockClass σ) (clears : Bool) : Prop where
  set : ∀ {x s es ok s'}, Ends (S.set x s) es (ok, s') → S.base s' = S.base s ∧ ((S.base s).m_isInit = true → es = [])
  send_refused : ∀ {x s es ok}, (S.base s).m_isInit = false → Ends (S.send x s) es ok → es = [] ∧ ok = false
  send : ∀ {x s es ok fd}, Ends (S.send x s) es ok → closes fd es = false
  rcv_refused : ∀ {x buf s es cnt buf' s'}, (S.base s).m_isInit = false → Ends (S.rcv x buf s) es (cnt, buf', s') →
    es = [] ∧ cnt = -1 ∧ buf' = buf
  rcv : ∀ {x buf s es cnt buf' s' fd}, Ends (S.rcv x buf s) es (cnt, buf', s') →
    S.base s' = S.base s ∧ closes fd es = false
  init_refused : ∀ {s es ok s'}, (S.base s).m_isInit = true → Ends (S.initBase s) es (ok, s') →
    es = [] ∧ ok = false ∧ s' = s
  init : ∀ {s es ok s'}, (S.base s).m_isInit = false → Ends (S.initBase s) es (ok, s') →
    (S.base s').m_isInit = ok ∧ (ok = true → 0 ≤ (S.base s').m_fd ∧ opened es = some (S.base s').m_fd)
  close : ∀ {s es s'}, Ends (S.closeBase s) es s' →
    (S.base s').m_fd < 0 ∧ (S.base s').m_isInit = ((S.base s).m_isInit && !clears)
  accepted : ∀ {x s}, (S.base s).m_isInit = false → S.accepts x → ∃ es s', Ends (S.set x s) es (true, s')
  succeeds : ∀ {s}, (S.base s).m_isInit = false → S.ready s → ∃ es s', Ends (S.initBase s) es (true, s')

/-- A single call that is no `close`. -/
theorem not_closes_singleton {c : SysCall} {r : c.Res} {fd : Int} (h : c ≠ .close fd) :
    closes fd [⟨c, r⟩] = false := by
  cases c with
  | close fd' => simpa [closes] using h
  | _ => rfl

section Method
variable {α : Type} {a b : α} {es : List SysEvent}

theorem call_closes {c : SysCall} {f : c.Res → α} (hc : ∀ fd, c ≠ .close fd)
    (h : Ends (sys c >>= fun r => pure (f r)) es b) (fd : Int) : closes fd es = false := by
  obtain ⟨r, h, -⟩ := ends_bind_pure.1 h
  rw [ends_sys.1 h]
  exact not_closes_singleton (hc fd)

/-- A method that is refused on a condition, and closes nothing where it is not. -/
theorem guarded_ends {c : Prop} [Decidable c] {p : OS α} (h : Ends (if c then pure a else p) es b)
    (hp : Ends p es b → ∀ fd, closes fd es = false) : (c → es = [] ∧ b = a) ∧ ∀ fd, closes fd es = false := by
  refine ⟨fun hc => ends_refused hc h, fun fd => ?_⟩
  by_cases hc : c
  · rw [(ends_refused hc h).1]
    rfl
  · rw [if_neg hc] at h
    exact hp h fd

/-- A send that is one call, where the socket is initialised. -/
theorem guardedSend_ends {m_isInit ok : Bool} {c : SysCall} {f : c.Res → Bool} (hc : ∀ fd, c ≠ .close fd)
    (h : Ends (if ¬ m_isInit then pure false else sys c >>= fun r => pure (f r)) es ok) :
    (m_isInit = false → es = [] ∧ ok = false) ∧ ∀ fd, closes fd es = false := by
  obtain ⟨hr, hcl⟩ := guarded_ends h (call_closes hc)
  exact ⟨fun hi => hr (by simp [hi]), hcl⟩

/-- A receive that is one call, where the socket is initialised. -/
theorem guardedRcv_ends {m_isInit : Bool} {buf buf' : Mem} {cnt : Int} {c : SysCall} {f : c.Res → Int × Mem}
    (hc : ∀ fd, c ≠ .close fd)
    (h : Ends (if ¬ m_isInit then pure (-1, buf) else sys c >>= fun r => pure (f r)) es (cnt, buf')) :
    (m_isInit = false → es = [] ∧ cnt = -1 ∧ buf' = buf) ∧ ∀ fd, closes fd es = false := by
  obtain ⟨hr, hcl⟩ := guarded_ends h (call_closes hc)
  refine ⟨fun hi => ?_, hcl⟩
  obtain ⟨rfl, he⟩ := hr (by simp [hi])
  cases he
  exact ⟨rfl, rfl, rfl⟩

/-- A setter that asks the operating system for nothing. -/
theorem pure_ends {σ : Type} {base : σ → SockBase} {s s' : σ} {p : Bool × σ} {ok : Bool} (hp : base p.2 = base s)
    (h : Ends (pure p : OS (Bool × σ)) es (ok, s')) : base s' = base s ∧ ((base s).m_isInit = true → es = []) := by
  obtain ⟨rfl, rfl⟩ := ends_pure.1 h
  exact ⟨hp, fun _ => rfl⟩

/-- `setAll`: the interface, and where that is taken the other values. -/
theorem setAll_ends {σ : Type} {base : σ → SockBase} {s s' : σ} {ifc : OS (Bool × σ)} {f : σ → Bool × σ} {ok : Bool}
    (hifc : ∀ es ok t, Ends ifc es (ok, t) → base t = base s ∧ ((base s).m_isInit = true → es = []))
    (hf : ∀ t, base (f t).2 = base t)
    (h : Ends (ifc >>= fun r => pure (if r.1 then f r.2 else (false, r.2))) es (ok, s')) :
    base s' = base s ∧ ((base s).m_isInit = true → es = []) := by
  obtain ⟨⟨b, t⟩, h₁, he⟩ := ends_bind_pure.1 h
  obtain ⟨hb, hes⟩ := hifc _ _ _ h₁
  refine ⟨?_, hes⟩
  cases b with
  | true =>
    have hs : s' = (f t).2 := congrArg Prod.snd he
    rw [hs]
    exact (hf t).trans hb
  | false =>
    cases he
    exact hb

theorem setAll_accepted {σ : Type} {base : σ → SockBase} {s : σ} {ifc : OS (Bool × σ)} {f : σ → Bool × σ}
    (hifc : ∀ es ok t, Ends ifc es (ok, t) → base t = base s ∧ ((base s).m_isInit = true → es = []))
    (h : ∃ es t, Ends ifc es (true, t)) (hi : (base s).m_isInit = false)
    (hf : ∀ t, (base t).m_isInit = false → (f t).1 = true) :
    ∃ es t, Ends (ifc >>= fun r => pure (if r.1 then f r.2 else (false, r.2))) es (true, t) := by
  obtain ⟨es, t, h⟩ := h
  have ht : (base t).m_isInit = false := by rw [(hifc _ _ _ h).1, hi]
  exact ⟨_, (f t).2, ends_bind.2 ⟨(true, t), es, [], rfl, h, ends_pure.2 ⟨rfl, Prod.ext (hf t ht).symm rfl⟩⟩⟩

end Method

namespace SockUnix

theorem rcvFrom_ends {s : SockUnix} {buf buf' : Mem} {n : Nat} {block : Bool} {es : List SysEvent} {cnt : Int}
    {sender : Option (List UInt8)} (h : Ends (s.rcvFrom buf n block) es (cnt, buf', sender)) :
    (s.m_isInit = false → es = [] ∧ cnt = -1 ∧ buf' = buf) ∧ ∀ fd, closes fd es = false := by
  unfold rcvFrom at h
  obtain ⟨hr, hc⟩ := guarded_ends h fun h fd => by
    obtain ⟨⟨r, path⟩, es', rfl, h'⟩ := ends_sys_bind.1 h
    have hes : es' = [] := by
      dsimp only at h'
      split at h' <;> exact (ends_pure.1 h').1
    rw [hes]
    exact not_closes_singleton (by simp)
  refine ⟨fun hi => ?_, hc⟩
  obtain ⟨rfl, he⟩ := hr (by simp [hi])
  cases he
  exact ⟨rfl, rfl, rfl⟩

/-- Both calls that send. -/
theorem send_ends {s : SockUnix} {x : Send} {es : List SysEvent} {ok : Bool} (h : Ends (sockClass.send x s) es ok) :
    (s.m_isInit = false → es = [] ∧ ok = false) ∧ ∀ fd, closes fd es = false := by
  cases x with
  | send msg =>
    change Ends (s.sendBase msg) es ok at h
    unfold sendBase sendAny at h
    obtain ⟨hr, hc⟩ := guarded_ends h (call_closes (by simp))
    exact ⟨fun hi => hr (by simp [hi]), hc⟩
  | sendTo msg addrStr =>
    change Ends (s.sendTo msg addrStr) es ok at h
    unfold sendTo sendAny at h
    obtain ⟨hr, hc⟩ := guarded_ends h (call_closes (by simp))
    exact ⟨fun hi => hr (by simp [hi]), hc⟩

theorem rcvBase_ends {s : SockUnix} {buf buf' : Mem} {n : Nat} {block : Bool} {es : List SysEvent} {cnt : Int}
    (h : Ends (s.rcvBase buf n block) es (cnt, buf')) :
    (s.m_isInit = false → es = [] ∧ cnt = -1 ∧ buf' = buf) ∧ ∀ fd, closes fd es = false := by
  unfold rcvBase at h
  split at h
  · obtain ⟨rfl, he⟩ := ends_pure.1 h
    cases he
    exact ⟨fun _ => ⟨rfl, rfl, rfl⟩, fun _ => rfl⟩
  · obtain ⟨⟨c, b, sender⟩, h₁, he⟩ := ends_bind_pure.1 h
    obtain ⟨hn, hc⟩ := rcvFrom_ends h₁
    refine ⟨fun hi => ?_, hc⟩
    obtain ⟨rfl, rfl, rfl⟩ := hn hi
    cases he
    exact ⟨rfl, by simp, rfl⟩

theorem setPeerInternal_base (s : SockUnix) (str : List UInt8) :
    (s.setPeerInternal str).2.toSockBase = s.toSockBase := by
  unfold setPeerInternal
  split <;> rfl

theorem setSelfAddress_base (s : SockUnix) (str : List UInt8) :
    (s.setSelfAddress str).2.toSockBase = s.toSockBase := by
  unfold setSelfAddress
  split <;> rfl

theorem setDefSelfAddress_ends {s s' : SockUnix} {rootBase useDef : List UInt8} {es : List SysEvent} {ok : Bool}
    (h : Ends (s.setDefSelfAddress rootBase useDef) es (ok, s')) :
    s'.toSockBase = s.toSockBase ∧ (s.m_isInit = true → es = []) := by
  unfold setDefSelfAddress at h
  split at h
  · obtain ⟨rfl, he⟩ := ends_pure.1 h
    cases he
    exact ⟨rfl, fun _ => rfl⟩
  · rename_i hi
    refine ⟨?_, fun h => absurd h hi⟩
    obtain ⟨uid, es', rfl, h₁⟩ := ends_sys_bind.1 h
    obtain ⟨⟨new_me, s₁⟩, es₂, es₃, rfl, h₂, h₃⟩ := ends_bind.1 h₁
    -- asking for the home directory changes the other members only
    have hs : s₁.toSockBase = s.toSockBase := by
      unfold defAddress at h₂
      split at h₂
      · obtain ⟨⟨home, s₂⟩, es₄, es₅, -, h₄, h₅⟩ := ends_bind.1 h₂
        obtain ⟨u, es₆, -, h₆⟩ := ends_sys_bind.1 h₄
        obtain ⟨d, es₇, -, h₇⟩ := ends_sys_bind.1 h₆
        cases (ends_pure.1 h₅).2
        cases (ends_pure.1 h₇).2
        rfl
      · cases (ends_pure.1 h₂).2
        rfl
    obtain ⟨pid, es₄, -, h₄⟩ := ends_sys_bind.1 h₃
    rw [← hs, ← setSelfAddress_base s₁ (new_me ++ octets (toString pid)), ← (ends_pure.1 h₄).2]

theorem initBase_ends {s s' : SockUnix} {es : List SysEvent} {ok : Bool} (hi : s.m_isInit = false)
    (h : Ends s.initBase es (ok, s')) : s'.m_isInit = ok ∧ (ok = true → 0 ≤ s'.m_fd ∧ opened es = some s'.m_fd) := by
  unfold initBase at h
  split at h
  · cases (ends_pure.1 h).2
    exact ⟨hi, fun h => by cases h⟩
  · obtain ⟨b, es₁, es₂, rfl, h₁, h₂⟩ := ends_bind.1 h
    obtain ⟨hb, -, ho⟩ := closeBase_ends h₁
    obtain ⟨fd, es₃, rfl, h₃⟩ := ends_sys_bind.1 h₂
    dsimp only at h₃
    split at h₃
    · cases (ends_pure.1 h₃).2
      exact ⟨hb.trans hi, fun h => by cases h⟩
    · rename_i hfd
      obtain ⟨r, es₄, es₅, rfl, h₄, h₅⟩ := ends_bind.1 h₃
      obtain ⟨rfl, he⟩ := ends_pure.1 h₅
      cases r with
      | true =>
        cases he
        refine ⟨rfl, fun _ => ⟨Int.not_lt.1 hfd, ?_⟩⟩
        rw [opened_append, opened_socket, List.append_nil, setups_ends h₄]
        rfl
      | false =>
        cases he
        exact ⟨hb.trans hi, fun h => by cases h⟩

theorem laws : sockClass.Laws true where
  set {x s es ok s'} h := by
    cases x with
    | setPeerAddress str => exact pure_ends (setPeerInternal_base s str) h
    | setSelfAddress str => exact pure_ends (setSelfAddress_base s str) h
    | setDefSelfAddress rootBase useDef => exact setDefSelfAddress_ends h
  send_refused hi h := (send_ends h).1 hi
  send {_ _ _ _ fd} h := (send_ends h).2 fd
  rcv_refused {x buf s es cnt buf' s'} hi h := by
    rcases x with ⟨n, block⟩ | ⟨n, block, _ | _⟩
    · obtain ⟨⟨c, b⟩, h₁, he⟩ := ends_bind_pure.1 h
      cases he
      exact (rcvBase_ends h₁).1 hi
    · obtain ⟨⟨c, b, sender⟩, h₁, he⟩ := ends_bind_pure.1 h
      cases he
      exact (rcvFrom_ends h₁).1 hi
    · obtain ⟨⟨c, b, sender⟩, h₁, he⟩ := ends_bind_pure.1 h
      cases he
      exact (rcvFrom_ends h₁).1 hi
  rcv {x buf s es cnt buf' s' fd} h := by
    rcases x with ⟨n, block⟩ | ⟨n, block, _ | _⟩
    · obtain ⟨⟨c, b⟩, h₁, he⟩ := ends_bind_pure.1 h
      cases he
      exact ⟨rfl, (rcvBase_ends h₁).2 fd⟩
    · obtain ⟨⟨c, b, sender⟩, h₁, he⟩ := ends_bind_pure.1 h
      cases he
      exact ⟨rfl, (rcvFrom_ends h₁).2 fd⟩
    · obtain ⟨⟨c, b, sender⟩, h₁, he⟩ := ends_bind_pure.1 h
      cases he
      exact ⟨rfl, (rcvFrom_ends h₁).2 fd⟩
  init_refused {s es ok s'} hi h := by
    have hi' : s.m_isInit = true := hi
    change Ends s.initBase es (ok, s') at h
    unfold initBase at h
    obtain ⟨rfl, he⟩ := ends_refused (by simp [hi']) h
    cases he
    exact ⟨rfl, rfl, rfl⟩
  init hi h := initBase_ends hi h
  close {s es s'} h := by
    obtain ⟨b, es₁, es₂, rfl, h₁, h₂⟩ := ends_bind.1 h
    have hb := (closeBase_ends h₁).2.1
    rw [Bool.not_true, Bool.and_false]
    dsimp only at h₂
    split at h₂
    · obtain ⟨r, es', rfl, h'⟩ := ends_sys_bind.1 h₂
      obtain ⟨-, rfl⟩ := ends_pure.1 h'
      exact ⟨hb, rfl⟩
    · rename_i hi
      obtain ⟨-, rfl⟩ := ends_pure.1 h₂
      exact ⟨hb, Bool.eq_false_iff.2 hi⟩
  accepted {x s} hi hx := by
    have hi' : s.m_isInit = false := hi
    have hself {s : SockUnix} (hi : s.m_isInit = false) {str : List UInt8} (ht : testUnix str = true) :
        s.setSelfAddress str = (true, { s with m_me := str }) := if_neg (by simp [hi, ht])
    cases x with
    | setPeerAddress str =>
      have ht : testUnix str = true := hx
      exact ⟨[], _, ends_pure.2 ⟨rfl, (if_neg (by simp [ht])).symm⟩⟩
    | setSelfAddress str => exact ⟨[], _, ends_pure.2 ⟨rfl, (hself hi' hx).symm⟩⟩
    | setDefSelfAddress rootBase useDef =>
      change ∃ es s', Ends (s.setDefSelfAddress rootBase useDef) es (true, s')
      rw [setDefSelfAddress, if_neg (by simp [hi'])]
      rcases hx with ⟨pid, ht⟩ | ⟨home, pid, ht⟩
      · exact ⟨[⟨.getuid, (0 : Nat)⟩, ⟨.getpid, pid⟩], _, .call (.call (ends_pure.2 ⟨rfl, (hself hi' ht).symm⟩))⟩
      · have hs := hself (s := { s with m_homeDir := home }) hi' ht
        exact ⟨[⟨.getuid, (1 : Nat)⟩, ⟨.getuid, (1 : Nat)⟩, ⟨.getpwuid 1, home⟩, ⟨.getpid, pid⟩], _,
          .call (.call (.call (.call (ends_pure.2 ⟨rfl, hs.symm⟩))))⟩
  succeeds {s} hi hr := by
    have hi' : s.m_isInit = false := hi
    have ht : testUnix s.m_me = true := hr
    change ∃ es s', Ends s.initBase es (true, s')
    rw [initBase, if_neg (by simp [hi', ht])]
    obtain ⟨es₁, b, h₁⟩ := closeBase_ends_some s.toSockBase
    obtain ⟨es₂, h₂⟩ := setups_succeed 0 [.bind (setUnixAddr s.m_me)]
    exact ⟨_, _, ends_bind.2 ⟨b, es₁, _, rfl, h₁, ends_sys_bind.2 ⟨(0 : Int), _, rfl,
      ends_bind.2 ⟨true, es₂, [], rfl, h₂, .done _⟩⟩⟩⟩

end SockUnix

/-! ## Interfaces -/

theorem IfInfo.initPtp_succeeds (i : IfInfo) (fd : Int) (name : List UInt8) :
    ∃ es i', Ends (i.initPtp fd name) es (true, i') :=
  ⟨[⟨.SIOCGIFHWADDR fd name, (some ⟨List.replicate 6 0, rfl⟩ : Option (Octets 6))⟩,
    ⟨.SIOCETHTOOL fd name, (some 0 : Option Int)⟩, ⟨.close fd, (0 : Int)⟩], _, .call (.call (.call (.done _)))⟩

namespace SockBaseIf

theorem setIf_base (s : SockBaseIf) (ifObj : IfInfo) : (s.setIf ifObj).2.toSockBase = s.toSockBase := by
  unfold setIf
  split
  · rfl
  · split <;> rfl

theorem set_ends {s s' : SockBaseIf} {x : Setter} {es : List SysEvent} {ok : Bool} (h : Ends (s.set x) es (ok, s')) :
    s'.toSockBase = s.toSockBase ∧ (s.m_isInit = true → es = []) := by
  -- a search that fails leaves the object, one that succeeds sets the interface's members
  have hset {p : OS (Bool × IfInfo)} {es : List SysEvent}
      (h : Ends (if s.m_isInit then pure (false, s)
        else p >>= fun x => pure (if x.1 then (true, s.setInt x.2) else (false, s))) es (ok, s')) :
      s'.toSockBase = s.toSockBase ∧ (s.m_isInit = true → es = []) := by
    refine ⟨?_, fun hi => (ends_refused hi h).1⟩
    split at h
    · cases (ends_pure.1 h).2
      rfl
    · obtain ⟨⟨b, i⟩, -, he⟩ := ends_bind_pure.1 h
      cases b <;> cases he <;> rfl
  cases x with
  | setIfUsingName ifName => exact hset h
  | setIfUsingIndex ifIndex => exact hset h
  | setIf ifObj => exact pure_ends (setIf_base s ifObj) h

theorem set_accepted {s : SockBaseIf} {x : Setter} (hi : s.m_isInit = false) (hx : x.accepts) :
    ∃ es s', Ends (s.set x) es (true, s') := by
  have hi' : ¬ s.m_isInit = true := by simp [hi]
  cases x with
  | setIfUsingName ifName =>
    obtain ⟨hne, hlen⟩ := hx
    change ∃ es s', Ends (s.setIfUsingName ifName) es (true, s')
    rw [setIfUsingName, if_neg hi', IfInfo.initUsingName, if_neg (by simp [hne, hlen])]
    obtain ⟨es, i, h⟩ := IfInfo.initPtp_succeeds { m_ifName := ifName, m_ifIndex := 1 } 0 (cstr ifName)
    exact ⟨_, _, ends_bind.2 ⟨(true, i), _, [], rfl,
      ends_sys_bind.2 ⟨(0 : Int), _, rfl, ends_sys_bind.2 ⟨(some 1 : Option Int), _, rfl, h⟩⟩, .done _⟩⟩
  | setIfUsingIndex ifIndex =>
    change ∃ es s', Ends (s.setIfUsingIndex ifIndex) es (true, s')
    rw [setIfUsingIndex, if_neg hi', IfInfo.initUsingIndex, if_neg (by simp)]
    obtain ⟨es, i, h⟩ := IfInfo.initPtp_succeeds { m_ifName := [], m_ifIndex := ifIndex } 0 []
    exact ⟨_, _, ends_bind.2 ⟨(true, i), _, [], rfl,
      ends_sys_bind.2 ⟨(0 : Int), _, rfl, ends_sys_bind.2 ⟨(some [] : Option (List UInt8)), _, rfl, h⟩⟩, .done _⟩⟩
  | setIf ifObj =>
    have hx' : ifObj.m_isInit = true := hx
    exact ⟨[], s.setInt ifObj, ends_pure.2 ⟨rfl, by rw [setIf, if_neg hi', if_pos hx']⟩⟩

section Sets
variable {σ : Type} {base : σ → SockBase} {s : SockBaseIf} {x : Setter} {p : OS (Bool × σ)}

/-- The operation is the setter on the interface of an object of a class over this one. -/
def Sets (base : σ → SockBase) (s : SockBaseIf) (x : Setter) (p : OS (Bool × σ)) : Prop :=
  ∃ put : SockBaseIf → σ, (∀ i, base (put i) = i.toSockBase) ∧ p = s.set x >>= fun r => pure (r.1, put r.2)

theorem Sets.ends (hp : Sets base s x p) {es : List SysEvent} {ok : Bool} {t : σ} (h : Ends p es (ok, t)) :
    base t = s.toSockBase ∧ (s.m_isInit = true → es = []) := by
  obtain ⟨put, hput, rfl⟩ := hp
  obtain ⟨⟨b, i⟩, h₁, he⟩ := ends_bind_pure.1 h
  cases he
  rw [hput]
  exact set_ends h₁

theorem Sets.accepted (hp : Sets base s x p) (hi : s.m_isInit = false) (hx : x.accepts) :
    ∃ es t, Ends p es (true, t) := by
  obtain ⟨put, -, rfl⟩ := hp
  obtain ⟨es, b, h⟩ := set_accepted hi hx
  exact ⟨_, _, ends_bind.2 ⟨(true, b), es, [], rfl, h, .done _⟩⟩

end Sets

end SockBaseIf

namespace SockIp

theorem setIfc_sets (s : SockIp) (x : SockBaseIf.Setter) :
    SockBaseIf.Sets (fun t : SockIp => t.toSockBase) s.toSockBaseIf x (s.setIfc x) :=
  ⟨fun i => { s with toSockBaseIf := i }, fun _ => rfl, rfl⟩

theorem setUdpTtl_base (s : SockIp) (udp_ttl : UInt8) : (s.setUdpTtl udp_ttl).2.toSockBase = s.toSockBase := by
  unfold setUdpTtl
  split <;> rfl

theorem setScope_base (s : SockIp) (udp6_scope : UInt8) : (s.setScope udp6_scope).2.toSockBase = s.toSockBase := by
  unfold setScope
  split <;> rfl

theorem setScopeCfg_base (s : SockIp) (udp6_scope : UInt8) :
    (s.setScopeCfg udp6_scope).2.toSockBase = s.toSockBase := by
  unfold setScopeCfg
  split <;> rfl

theorem setAllBase_base (v6 : Bool) (s : SockIp) (udp_ttl udp6_scope : UInt8) :
    (s.setAllBase v6 udp_ttl udp6_scope).2.toSockBase = s.toSockBase := by
  unfold setAllBase
  dsimp only
  split
  · rw [setScopeCfg_base, setUdpTtl_base]
  · exact setUdpTtl_base s udp_ttl

theorem init2v4_ends {s s' : SockIp} {es : List SysEvent} {ok : Bool} (h : Ends s.init2v4 es (ok, s')) :
    s'.toSockBase = s.toSockBase ∧ opened es = none := by
  obtain ⟨b, h₁, he⟩ := ends_bind_pure.1 h
  refine ⟨?_, setups_ends h₁⟩
  cases b <;> cases he <;> rfl

theorem init2v6_ends {s s' : SockIp} {es : List SysEvent} {ok : Bool} (h : Ends s.init2v6 es (ok, s')) :
    s'.toSockBase = s.toSockBase ∧ opened es = none := by
  unfold init2v6 at h
  split at h
  · obtain ⟨rfl, he⟩ := ends_pure.1 h
    cases he
    exact ⟨rfl, rfl⟩
  · obtain ⟨b, es₁, es₂, rfl, h₁, h₂⟩ := ends_bind.1 h
    rw [opened_append, setups_ends h₁]
    dsimp only at h₂
    split at h₂
    · obtain ⟨rfl, he⟩ := ends_pure.1 h₂
      cases he
      exact ⟨rfl, rfl⟩
    · obtain ⟨b', h₃, he⟩ := ends_bind_pure.1 h₂
      rw [setups_ends h₃]
      refine ⟨?_, rfl⟩
      cases b' <;> cases he <;> rfl

/-- What `init2` of a class is to give for the base to initialise. -/
theorem initBase_ends {init2 : SockIp → OS (Bool × SockIp)}
    (h2 : ∀ {s es ok s'}, Ends (init2 s) es (ok, s') → s'.toSockBase = s.toSockBase ∧ opened es = none)
    {s s' : SockIp} {es : List SysEvent} {ok : Bool} (hi : s.m_isInit = false)
    (h : Ends (s.initBase init2) es (ok, s')) :
    s'.m_isInit = ok ∧ (ok = true → 0 ≤ s'.m_fd ∧ opened es = some s'.m_fd) := by
  unfold initBase at h
  split at h
  · cases (ends_pure.1 h).2
    exact ⟨hi, fun h => by cases h⟩
  · obtain ⟨b, es₁, es₂, rfl, h₁, h₂⟩ := ends_bind.1 h
    have hb := (closeBase_ends h₁).1.trans hi
    obtain ⟨fd, es₃, rfl, h₃⟩ := ends_sys_bind.1 h₂
    dsimp only at h₃
    split at h₃
    · cases (ends_pure.1 h₃).2
      exact ⟨hb, fun h => by cases h⟩
    · rename_i hfd
      obtain ⟨r, es₄, es₅, rfl, h₄, h₅⟩ := ends_bind.1 h₃
      split at h₅
      · cases (ends_pure.1 h₅).2
        exact ⟨hb, fun h => by cases h⟩
      · obtain ⟨ip, es₆, rfl, h₆⟩ := ends_sys_bind.1 h₅
        cases ip with
        | none =>
          cases (ends_pure.1 h₆).2
          exact ⟨hb, fun h => by cases h⟩
        | some m_mcast =>
          obtain ⟨⟨r', t⟩, es₇, es₈, rfl, h₇, h₈⟩ := ends_bind.1 h₆
          obtain ⟨rfl, he⟩ := ends_pure.1 h₈
          obtain ⟨ht, ho⟩ := h2 h₇
          cases r' with
          | false =>
            cases he
            exact ⟨(congrArg SockBase.m_isInit ht).trans hb, fun h => by cases h⟩
          | true =>
            cases he
            refine ⟨rfl, fun _ => ?_⟩
            have hf : t.m_fd = fd := congrArg SockBase.m_fd ht
            refine ⟨by rw [hf]; exact Int.not_lt.1 hfd, ?_⟩
            -- the descriptor of `socket` is the only one the calls open
            rw [opened_append, opened_socket, opened_append, opened_inet_pton, List.append_nil, ho, setups_ends h₄, hf]
            rfl

theorem init2v4_succeeds (s : SockIp) : ∃ es s', Ends s.init2v4 es (true, s') := by
  obtain ⟨es, h⟩ := setups_succeed s.m_fd
    [.opt (.IP_MULTICAST_TTL s.m_udp_ttl), .opt (.IP_ADD_MEMBERSHIP (s.m_mcast.take 4) s.m_ifIndex),
      .opt (.IP_MULTICAST_LOOP 0), .opt (.IP_MULTICAST_IF s.m_ifIndex)]
  exact ⟨es ++ [], _, ends_bind.2 ⟨true, es, [], rfl, h, .done _⟩⟩

theorem init2v6_succeeds {s : SockIp} (hs : 0 ≤ s.m_udp6_scope) : ∃ es s', Ends s.init2v6 es (true, s') := by
  rw [init2v6, if_neg (by omega)]
  obtain ⟨es₁, h₁⟩ := setups_succeed s.m_fd [.opt (.IPV6_MULTICAST_HOPS s.m_udp_ttl)]
  obtain ⟨es₂, h₂⟩ := setups_succeed s.m_fd
    [.opt (.IPV6_ADD_MEMBERSHIP ((s.m_mcast.set 1 (UInt8.ofNat s.m_udp6_scope.toNat)).take 16) s.m_ifIndex),
      .opt (.IPV6_MULTICAST_LOOP 0), .opt (.IPV6_MULTICAST_IF s.m_ifIndex)]
  exact ⟨_, _, ends_bind.2 ⟨true, es₁, _, rfl, h₁, ends_bind.2 ⟨true, es₂, [], rfl, h₂, .done _⟩⟩⟩

theorem initBase_succeeds {init2 : SockIp → OS (Bool × SockIp)} {s : SockIp} (hi : s.m_isInit = false)
    (hif : s.m_have_if = true) (httl : 0 ≤ s.m_udp_ttl)
    (h2 : ∀ t : SockIp, t.m_udp6_scope = s.m_udp6_scope → ∃ es t', Ends (init2 t) es (true, t')) :
    ∃ es s', Ends (s.initBase init2) es (true, s') := by
  rw [initBase, if_neg (by simp [hi, hif, httl])]
  obtain ⟨es₁, b, h₁⟩ := closeBase_ends_some s.toSockBase
  obtain ⟨es₂, h₂⟩ := setups_succeed 0 [.opt (.SO_REUSEADDR 1), .bind s.m_addr, .opt (.SO_BINDTODEVICE s.m_ifName)]
  obtain ⟨es₃, t, h₃⟩ := h2 { s with m_fd := 0, m_isInit := b.m_isInit, m_mcast := [] } rfl
  exact ⟨_, _, ends_bind.2 ⟨b, es₁, _, rfl, h₁, ends_sys_bind.2 ⟨(0 : Int), _, rfl,
    ends_bind.2 ⟨true, es₂, _, rfl, h₂, ends_sys_bind.2 ⟨(some [] : Option (List UInt8)), _, rfl,
      ends_bind.2 ⟨(true, t), es₃, [], rfl, h₃, .done _⟩⟩⟩⟩⟩⟩

/-- `recv` and `sendto` are the only calls. -/
theorem rcvBase_ends {s : SockIp} {buf buf' : Mem} {n : Nat} {block : Bool} {es : List SysEvent} {cnt : Int}
    (h : Ends (s.rcvBase buf n block) es (cnt, buf')) :
    (s.m_isInit = false → es = [] ∧ cnt = -1 ∧ buf' = buf) ∧ ∀ fd, closes fd es = false := by
  unfold rcvBase at h
  exact guardedRcv_ends (by simp) h

theorem sendBase_ends {s : SockIp} {msg : List UInt8} {es : List SysEvent} {ok : Bool}
    (h : Ends (s.sendBase msg) es ok) :
    (s.m_isInit = false → es = [] ∧ ok = false) ∧ ∀ fd, closes fd es = false := by
  unfold sendBase at h
  exact guardedSend_ends (by simp) h

theorem setAllBase_accepted (v6 : Bool) {s : SockIp} (hi : s.m_isInit = false) (udp_ttl udp6_scope : UInt8) :
    (s.setAllBase v6 udp_ttl udp6_scope).1 = true := by
  cases v6 <;> simp [setAllBase, setUdpTtl, setScopeCfg, hi]

theorem laws (v6 : Bool) : (sockClass v6).Laws false where
  set {x s es ok s'} h := by
    obtain ⟨x, hx⟩ := x
    rcases x with y | udp_ttl | ⟨udp6_scope, _ | _⟩ | ⟨ifObj, udp_ttl, udp6_scope⟩
    · exact (setIfc_sets s _).ends h
    · exact pure_ends (setUdpTtl_base s udp_ttl) h
    · exact pure_ends (setScope_base s udp6_scope) h
    · exact pure_ends (setScopeCfg_base s udp6_scope) h
    · exact setAll_ends (fun _ _ _ => (setIfc_sets s _).ends) (fun t => setAllBase_base v6 t udp_ttl udp6_scope) h
  send_refused hi h := (sendBase_ends h).1 hi
  send {_ _ _ _ fd} h := (sendBase_ends h).2 fd
  rcv_refused {x buf s es cnt buf' s'} hi h := by
    obtain ⟨⟨c, b⟩, h₁, he⟩ := ends_bind_pure.1 h
    cases he
    exact (rcvBase_ends h₁).1 hi
  rcv {x buf s es cnt buf' s' fd} h := by
    obtain ⟨⟨c, b⟩, h₁, he⟩ := ends_bind_pure.1 h
    cases he
    exact ⟨rfl, (rcvBase_ends h₁).2 fd⟩
  init_refused {s es ok s'} hi h := by
    have hi' : s.m_isInit = true := hi
    change Ends (s.initBase _) es (ok, s') at h
    unfold initBase at h
    obtain ⟨rfl, he⟩ := ends_refused (by simp [hi']) h
    cases he
    exact ⟨rfl, rfl, rfl⟩
  init hi h := by
    refine initBase_ends (fun h => ?_) hi h
    cases v6 with
    | true => exact init2v6_ends h
    | false => exact init2v4_ends h
  close {s es s'} h := by
    obtain ⟨b, h₁, rfl⟩ := ends_bind_pure.1 h
    obtain ⟨hi, hf, -⟩ := closeBase_ends h₁
    exact ⟨hf, by rw [Bool.not_false, Bool.and_true]; exact hi⟩
  accepted {x s} hi hx := by
    have hi' : s.m_isInit = false := hi
    obtain ⟨x, hv⟩ := x
    rcases x with y | udp_ttl | ⟨udp6_scope, _ | _⟩ | ⟨ifObj, udp_ttl, udp6_scope⟩
    · exact (setIfc_sets s _).accepted hi hx
    · exact ⟨[], _, ends_pure.2 ⟨rfl, (if_neg (by simp [hi'])).symm⟩⟩
    · have hle : udp6_scope ≤ 0xf := hx
      exact ⟨[], _, ends_pure.2 ⟨rfl, (if_neg (by simp [hi', UInt8.not_lt.2 hle])).symm⟩⟩
    · exact ⟨[], _, ends_pure.2 ⟨rfl, (if_neg (by simp [hi'])).symm⟩⟩
    · exact setAll_accepted (fun _ _ _ => (setIfc_sets s _).ends) ((setIfc_sets s (.setIf ifObj)).accepted hi hx) hi
        fun t ht => setAllBase_accepted v6 ht udp_ttl udp6_scope
  succeeds {s} hi hr := by
    obtain ⟨hif, httl, hscope⟩ := hr
    refine initBase_succeeds hi hif httl fun t ht => ?_
    cases v6 with
    | true => exact init2v6_succeeds (ht ▸ hscope rfl)
    | false => exact init2v4_succeeds t

end SockIp

namespace SockRaw

theorem setIfc_sets (s : SockRaw) (x : SockBaseIf.Setter) :
    SockBaseIf.Sets (fun t : SockRaw => t.toSockBase) s.toSockBaseIf x (s.setIfc x) :=
  ⟨fun i => { s with toSockBaseIf := i }, fun _ => rfl, rfl⟩

theorem setPtpDstMacStr_base (s : SockRaw) (str : List UInt8) :
    (s.setPtpDstMacStr str).2.toSockBase = s.toSockBase := by
  unfold setPtpDstMacStr
  split
  · rfl
  · split <;> rfl

theorem setPtpDstMac_base (s : SockRaw) (mac : List UInt8) : (s.setPtpDstMac mac).2.toSockBase = s.toSockBase := by
  unfold setPtpDstMac
  split <;> rfl

theorem setPtpDstMacCfg_base (s : SockRaw) (mac : List UInt8) :
    (s.setPtpDstMacCfg mac).2.toSockBase = s.toSockBase := by
  unfold setPtpDstMacCfg
  split <;> rfl

theorem setSocketPriority_base (s : SockRaw) (priority : UInt8) :
    (s.setSocketPriority priority).2.toSockBase = s.toSockBase := by
  unfold setSocketPriority
  split <;> rfl

theorem setSocketPriorityCfg_base (s : SockRaw) (priority : UInt8) :
    (s.setSocketPriorityCfg priority).2.toSockBase = s.toSockBase := by
  unfold setSocketPriorityCfg
  split <;> rfl

theorem setAllBase_base (s : SockRaw) (mac : List UInt8) (priority : UInt8) :
    (s.setAllBase mac priority).2.toSockBase = s.toSockBase := by
  unfold setAllBase
  dsimp only
  split
  · rw [setSocketPriorityCfg_base, setPtpDstMacCfg_base]
  · exact setPtpDstMacCfg_base s mac

theorem initBase_ends {s s' : SockRaw} {es : List SysEvent} {ok : Bool} (hi : s.m_isInit = false)
    (h : Ends s.initBase es (ok, s')) : s'.m_isInit = ok ∧ (ok = true → 0 ≤ s'.m_fd ∧ opened es = some s'.m_fd) := by
  unfold initBase at h
  split at h
  · cases (ends_pure.1 h).2
    exact ⟨hi, fun h => by cases h⟩
  · obtain ⟨fd, es₁, rfl, h₁⟩ := ends_sys_bind.1 h
    dsimp only at h₁
    split at h₁
    · cases (ends_pure.1 h₁).2
      exact ⟨hi, fun h => by cases h⟩
    · rename_i hfd
      obtain ⟨r, es₂, es₃, rfl, h₂, h₃⟩ := ends_bind.1 h₁
      obtain ⟨rfl, he⟩ := ends_pure.1 h₃
      cases r with
      | true =>
        cases he
        refine ⟨rfl, fun _ => ⟨Int.not_lt.1 hfd, ?_⟩⟩
        rw [opened_socket, List.append_nil, setups_ends h₂]
        rfl
      | false =>
        cases he
        exact ⟨hi, fun h => by cases h⟩

theorem initBase_succeeds {s : SockRaw} (hi : s.m_isInit = false) (hif : s.m_have_if = true)
    (hmac : s.m_ptp_dst_mac ≠ []) (hpr : 0 ≤ s.m_socket_priority) : ∃ es s', Ends s.initBase es (true, s') := by
  rw [initBase, if_neg (by simp [hi, hif, hmac, hpr])]
  obtain ⟨es, h⟩ := setups_succeed 0
    [.bind (.ll s.m_ifIndex ETH_P_ALL []), .opt (.SO_BINDTODEVICE s.m_ifName), .opt (.SO_PRIORITY s.m_socket_priority),
      .opt (.SO_ATTACH_FILTER bpf_code), .opt (.PACKET_ADD_MEMBERSHIP s.m_ifIndex s.m_ptp_dst_mac)]
  exact ⟨_, _, ends_sys_bind.2 ⟨(0 : Int), _, rfl, ends_bind.2 ⟨true, es, [], rfl, h, .done _⟩⟩⟩

theorem rcvBase_ends {s : SockRaw} {buf buf' : Mem} {n : Nat} {block : Bool} {es : List SysEvent} {cnt : Int}
    (h : Ends (s.rcvBase buf n block) es (cnt, buf')) :
    (s.m_isInit = false → es = [] ∧ cnt = -1 ∧ buf' = buf) ∧ ∀ fd, closes fd es = false := by
  unfold rcvBase at h
  exact guardedRcv_ends (by simp) h

theorem sendBase_ends {s : SockRaw} {msg : List UInt8} {es : List SysEvent} {ok : Bool}
    (h : Ends (s.sendBase msg) es ok) :
    (s.m_isInit = false → es = [] ∧ ok = false) ∧ ∀ fd, closes fd es = false := by
  unfold sendBase at h
  exact guardedSend_ends (by simp) h

theorem setAllBase_accepted {s : SockRaw} (hi : s.m_isInit = false) (mac : List UInt8) (priority : UInt8) :
    (s.setAllBase mac priority).1 = true := by
  simp [setAllBase, setPtpDstMacCfg, setSocketPriorityCfg, hi]

theorem laws : sockClass.Laws false where
  set {x s es ok s'} h := by
    rcases x with y | str | ⟨mac, _ | _⟩ | ⟨priority, _ | _⟩ | ⟨ifObj, mac, priority⟩
    · exact (setIfc_sets s _).ends h
    · exact pure_ends (setPtpDstMacStr_base s str) h
    · exact pure_ends (setPtpDstMac_base s mac) h
    · exact pure_ends (setPtpDstMacCfg_base s mac) h
    · exact pure_ends (setSocketPriority_base s priority) h
    · exact pure_ends (setSocketPriorityCfg_base s priority) h
    · exact setAll_ends (fun _ _ _ => (setIfc_sets s _).ends) (fun t => setAllBase_base t mac priority) h
  send_refused hi h := (sendBase_ends h).1 hi
  send {_ _ _ _ fd} h := (sendBase_ends h).2 fd
  rcv_refused {x buf s es cnt buf' s'} hi h := by
    obtain ⟨⟨c, b⟩, h₁, he⟩ := ends_bind_pure.1 h
    cases he
    exact (rcvBase_ends h₁).1 hi
  rcv {x buf s es cnt buf' s' fd} h := by
    obtain ⟨⟨c, b⟩, h₁, he⟩ := ends_bind_pure.1 h
    cases he
    exact ⟨rfl, (rcvBase_ends h₁).2 fd⟩
  init_refused {s es ok s'} hi h := by
    have hi' : s.m_isInit = true := hi
    change Ends s.initBase es (ok, s') at h
    unfold initBase at h
    obtain ⟨rfl, he⟩ := ends_refused (by simp [hi']) h
    cases he
    exact ⟨rfl, rfl, rfl⟩
  init hi h := initBase_ends hi h
  close {s es s'} h := by
    obtain ⟨b, h₁, rfl⟩ := ends_bind_pure.1 h
    obtain ⟨hi, hf, -⟩ := closeBase_ends h₁
    exact ⟨hf, by rw [Bool.not_false, Bool.and_true]; exact hi⟩
  accepted {x s} hi hx := by
    have hi' : s.m_isInit = false := hi
    rcases x with y | str | ⟨mac, _ | _⟩ | ⟨priority, _ | _⟩ | ⟨ifObj, mac, priority⟩
    · exact (setIfc_sets s _).accepted hi hx
    · have hm : (fromMac [] str).1 = true := hx
      have hne : str ≠ [] := by
        rintro rfl
        exact absurd hm (by decide)
      refine ⟨[], { s with m_ptp_dst_mac := (fromMac [] str).2 }, ends_pure.2 ⟨rfl, ?_⟩⟩
      rw [setPtpDstMacStr, if_neg (by simp [hi', hne])]
      rcases hr : fromMac [] str with ⟨b, mac⟩
      rw [hr] at hm
      cases hm
      rfl
    · have hl : mac.length = 6 ∨ mac.length = 8 := hx
      have hn : ¬ (s.m_isInit = true ∨ (mac.length ≠ 6 ∧ mac.length ≠ 8)) := by
        simp only [hi', Bool.false_eq_true, false_or]
        omega
      exact ⟨[], _, ends_pure.2 ⟨rfl, (if_neg hn).symm⟩⟩
    · exact ⟨[], _, ends_pure.2 ⟨rfl, (if_neg (by simp [hi'])).symm⟩⟩
    · have hle : priority ≤ 15 := hx
      exact ⟨[], _, ends_pure.2 ⟨rfl, (if_neg (by simp [hi', UInt8.not_lt.2 hle])).symm⟩⟩
    · exact ⟨[], _, ends_pure.2 ⟨rfl, (if_neg (by simp [hi'])).symm⟩⟩
    · exact setAll_accepted (fun _ _ _ => (setIfc_sets s _).ends) ((setIfc_sets s (.setIf ifObj)).accepted hi hx) hi
        fun t ht => setAllBase_accepted ht mac priority
  succeeds hi hr := initBase_succeeds hi hr.1 hr.2.1 hr.2.2

end SockRaw

/-! ## The classes -/

inductive SockKind where
  | unix | ip4 | ip6 | raw
  deriving DecidableEq

namespace SockKind

abbrev Obj : SockKind → Type
  | unix => SockUnix
  | ip4 | ip6 => SockIp
  | raw => SockRaw

abbrev sockClass : (k : SockKind) → SockClass k.Obj
  | unix => SockUnix.sockClass
  | ip4 => SockIp.sockClass false
  | ip6 => SockIp.sockClass true
  | raw => SockRaw.sockClass

/-- The constructors. `m_ifIndex` is what the memory has. -/
def new : (k : SockKind) → Int → k.Obj
  | unix, _ => ({} : SockUnix)
  | ip4, m_ifIndex => SockIp.new4 m_ifIndex
  | ip6, m_ifIndex => SockIp.new6 m_ifIndex
  | raw, m_ifIndex => ({ m_ifIndex } : SockRaw)

theorem new_base (k : SockKind) (m_ifIndex : Int) : k.sockClass.base (k.new m_ifIndex) = {} := by
  cases k <;> rfl

theorem laws (k : SockKind) : k.sockClass.Laws (k = unix) := by
  cases k with
  | unix => exact SockUnix.laws
  | ip4 => exact SockIp.laws false
  | ip6 => exact SockIp.laws true
  | raw => exact SockRaw.laws

end SockKind

/-! ## Runs -/

section Runs

variable {σ : Type} {S : SockClass σ} {clears : Bool}

inductive SockCall (S : SockClass σ) where
  | set (x : S.Setter)
  | init
  | send (x : S.Send)
  | rcv (x : S.Rcv) (buf : Mem)
  | close

/-- The call makes the system calls `es` and leaves `s'`. `ok` is what it returns; a receive
returns whether it has a number of octets, and `close` nothing. -/
inductive SockClass.Makes (S : SockClass σ) (s : σ) : SockCall S → List SysEvent → Bool → σ → Prop
  | set {x es ok s'} : Ends (S.set x s) es (ok, s') → Makes S s (.set x) es ok s'
  | init {es ok s'} : Ends (S.initBase s) es (ok, s') → Makes S s .init es ok s'
  | send {x es ok} : Ends (S.send x s) es ok → Makes S s (.send x) es ok s
  | rcv {x buf es cnt buf' s'} : Ends (S.rcv x buf s) es (cnt, buf', s') → Makes S s (.rcv x buf) es (0 ≤ cnt) s'
  | close {es s'} : Ends (S.closeBase s) es s' → Makes S s .close es true s'

/-- A call of a run, with its system calls and what it returned. -/
structure SockStep (S : SockClass σ) where
  call : SockCall S
  events : List SysEvent
  ok : Bool

/-- The runs on an object that starts as `s₀`, where `may` has a word on the calls. -/
inductive Life (S : SockClass σ) (may : σ → SockCall S → Prop) (s₀ : σ) : List (SockStep S) → σ → Prop
  | new : Life S may s₀ [] s₀
  | call {steps s c es ok s'} (h : Life S may s₀ steps s) (hc : may s c) (hs : S.Makes s c es ok s') :
      Life S may s₀ (steps ++ [⟨c, es, ok⟩]) s'

/-- Whether `close` is called on a socket that is not initialised. -/
def ClosesUninit (S : SockClass σ) (s : σ) (c : SockCall S) : Prop := c = .close → (S.base s).m_isInit = false

/-- The descriptor that the last successful `init` opened, while it is not closed. -/
def nextDescriptor (d : Option Int) (step : SockStep S) : Option Int :=
  match step.call, step.ok with
  | .init, true => opened step.events
  | _, _ => d.filter fun fd => !closes fd step.events

def descriptor (steps : List (SockStep S)) : Option Int := steps.foldl nextDescriptor none

/-- `m_isInit` only with the descriptor of the last successful `init`. -/
def OwnsDescriptor (S : SockClass σ) (s : σ) (d : Option Int) : Prop :=
  (S.base s).m_isInit = true → 0 ≤ (S.base s).m_fd ∧ d = some (S.base s).m_fd

/-- What an object that is not initialised does: it sends and receives nothing, takes the
arguments of its setters, and can be initialised. -/
structure NotInitialised (S : SockClass σ) (s : σ) : Prop where
  isInit : (S.base s).m_isInit = false
  send : ∀ x es ok s', S.Makes s (.send x) es ok s' → es = [] ∧ ok = false
  rcv : ∀ x buf es ok s', S.Makes s (.rcv x buf) es ok s' → es = [] ∧ ok = false
  set : ∀ x, S.accepts x → ∃ es s', S.Makes s (.set x) es true s'
  init : S.ready s → ∃ es s', S.Makes s .init es true s'

/-- What does not close the descriptor, and keeps the base, keeps its owner. -/
theorem OwnsDescriptor.keep {s s' : σ} {d : Option Int} {step : SockStep S} (hi : OwnsDescriptor S s d)
    (hb : S.base s' = S.base s) (hc : (S.base s).m_isInit = true → closes (S.base s).m_fd step.events = false)
    (hn : step.call ≠ .init) : OwnsDescriptor S s' (nextDescriptor d step) := by
  intro h
  rw [hb] at h ⊢
  obtain ⟨hf, rfl⟩ := hi h
  refine ⟨hf, ?_⟩
  unfold nextDescriptor
  split
  · rename_i he _
    exact absurd he hn
  · simp [hc h]

theorem owns_step (L : S.Laws clears) {s s' : σ} {c : SockCall S} {es : List SysEvent} {ok : Bool} {d : Option Int}
    (hc : clears = true ∨ ClosesUninit S s c) (hs : S.Makes s c es ok s') (hi : OwnsDescriptor S s d) :
    OwnsDescriptor S s' (nextDescriptor d ⟨c, es, ok⟩) := by
  cases hs with
  | set h =>
    obtain ⟨hb, hes⟩ := L.set h
    refine hi.keep hb (fun h => ?_) (by simp)
    rw [hes h]
    rfl
  | send h => exact hi.keep rfl (fun _ => L.send h) (by simp)
  | rcv h =>
    have hr {fd : Int} : S.base s' = S.base s ∧ closes fd es = false := L.rcv h
    exact hi.keep (@hr 0).1 (fun _ => hr.2) (by simp)
  | init h =>
    by_cases hs : (S.base s).m_isInit = true
    · -- an initialised socket refuses, and nothing changes
      obtain ⟨rfl, rfl, rfl⟩ := L.init_refused hs h
      intro h'
      obtain ⟨hf, rfl⟩ := hi h'
      exact ⟨hf, by simp [nextDescriptor, closes]⟩
    · obtain ⟨hb, ho⟩ := L.init (Bool.eq_false_iff.2 hs) h
      intro h'
      cases hb.symm.trans h'
      exact ho rfl
  | close h =>
    intro h'
    have hf : (S.base s').m_isInit = false := by
      rw [(L.close h).2]
      rcases hc with rfl | hc
      · simp
      · simp [hc rfl]
    exact absurd h' (by simp [hf])

theorem not_initialised (L : S.Laws clears) {s : σ} (hi : (S.base s).m_isInit = false) : NotInitialised S s where
  isInit := hi
  send x es ok s' h := by
    cases h with
    | send h => exact L.send_refused hi h
  rcv x buf es ok s' h := by
    cases h with
    | rcv h =>
      obtain ⟨rfl, rfl, -⟩ := L.rcv_refused hi h
      exact ⟨rfl, rfl⟩
  set x hx := by
    obtain ⟨es, s', h⟩ := L.accepted hi hx
    exact ⟨es, s', .set h⟩
  init hr := by
    obtain ⟨es, s', h⟩ := L.succeeds hi hr
    exact ⟨es, s', .init h⟩

/-- A `close` leaves an object that is not initialised, if its class or the object's state
before allows. -/
theorem close_iff (L : S.Laws clears) {s s' : σ} {es : List SysEvent} {ok : Bool} (h : S.Makes s .close es ok s') :
    NotInitialised S s' ↔ clears = true ∨ (S.base s).m_isInit = false := by
  cases h with
  | close h =>
    obtain ⟨-, hb⟩ := L.close h
    constructor
    · intro hn
      have hf := hb.symm.trans hn.isInit
      rw [Bool.and_eq_false_iff, Bool.not_eq_false'] at hf
      exact hf.symm
    · intro hc
      apply not_initialised L
      rw [hb]
      rcases hc with rfl | hc
      · simp
      · simp [hc]

/-- Along a run the invariant is kept. -/
theorem owns_life (L : S.Laws clears) {s₀ s : σ} {steps : List (SockStep S)} (h₀ : S.base s₀ = {})
    (h : Life S (fun s c => clears = true ∨ ClosesUninit S s c) s₀ steps s) :
    OwnsDescriptor S s (descriptor steps) := by
  induction h with
  | new =>
    intro hi
    rw [h₀] at hi
    cases hi
  | call _ hc hs ih =>
    rw [descriptor, List.foldl_append]
    exact owns_step L hc hs ih

end Runs

/-- The sockets, where only `SockUnix` is closed while it is initialised. -/
theorem socket_life (k : SockKind) (m_ifIndex : Int) {steps : List (SockStep k.sockClass)} {s : k.Obj}
    (h : Life k.sockClass (fun s c => k = .unix ∨ ClosesUninit k.sockClass s c) (k.new m_ifIndex) steps s) :
    OwnsDescriptor k.sockClass s (descriptor steps) ∧
      ∀ es ok s', k.sockClass.Makes s .close es ok s' →
        (NotInitialised k.sockClass s' ↔ k = .unix ∨ (k.sockClass.base s).m_isInit = false) := by
  constructor
  · refine owns_life k.laws (k.new_base m_ifIndex) ?_
    simpa using h
  · intro es ok s' hs
    simpa using close_iff k.laws hs

def unixReady : SockUnix := { m_me := octets "/me" }

def unixOpen : SockUnix := { unixReady with m_fd := 3, m_isInit := true }

def unixInit : List SysEvent := [⟨.socket .AF_UNIX, (3 : Int)⟩, ⟨.bind 3 (setUnixAddr (octets "/me")), (0 : Int)⟩]

def unixClose : List SysEvent := [⟨.close 3, (0 : Int)⟩, ⟨.unlink (octets "/me"), (0 : Int)⟩]

/-- A `SockUnix` that is initialised, closed and initialised again. -/
theorem socket_life_unix :
    OwnsDescriptor SockKind.unix.sockClass unixOpen
      (descriptor (S := SockUnix.sockClass)
        [⟨.set (.setSelfAddress (octets "/me")), [], true⟩, ⟨.init, unixInit, true⟩, ⟨.close, unixClose, true⟩,
          ⟨.init, unixInit, true⟩]) := by
  have hset : SockUnix.sockClass.Makes (SockKind.new .unix 0) (.set (.setSelfAddress (octets "/me")))
      [] true unixReady := by
    apply SockClass.Makes.set
    exact .done _
  have hinit : SockUnix.sockClass.Makes unixReady .init unixInit true unixOpen := by
    apply SockClass.Makes.init
    change Ends unixReady.initBase _ _
    rw [SockUnix.initBase, if_neg (by decide)]
    exact .call (.call (.done _))
  have hclose : SockUnix.sockClass.Makes unixOpen .close unixClose true unixReady := by
    apply SockClass.Makes.close
    exact .call (.call (.done _))
  have h : Life SockKind.unix.sockClass (fun s c => SockKind.unix = .unix ∨ ClosesUninit SockKind.unix.sockClass s c)
      (SockKind.new .unix 0) _ unixOpen :=
    .call (.call (.call (.call .new (.inl rfl) hset) (.inl rfl) hinit) (.inl rfl) hclose) (.inl rfl) hinit
  exact (socket_life .unix 0 h).1

def ip4Ready : SockIp :=
  { SockIp.new4 2 with
    m_ifName := octets "eth0"
    m_mac := [2, 0, 0, 0, 0, 1]
    m_have_if := true
    m_udp_ttl := 1 }

def ip4Open : SockIp :=
  { ip4Ready with
    m_fd := 3
    m_isInit := true
    m_mcast := [224, 0, 1, 129]
    m_addr := .inet [224, 0, 1, 129] udp_port }

def ip4Init : List SysEvent :=
  [⟨.socket .AF_INET, (3 : Int)⟩, ⟨.setsockopt 3 (.SO_REUSEADDR 1), (0 : Int)⟩,
    ⟨.bind 3 (.inet [0, 0, 0, 0] udp_port), (0 : Int)⟩, ⟨.setsockopt 3 (.SO_BINDTODEVICE (octets "eth0")), (0 : Int)⟩,
    ⟨.inet_pton .AF_INET ipv4_udp_mc, some [224, 0, 1, 129]⟩, ⟨.setsockopt 3 (.IP_MULTICAST_TTL 1), (0 : Int)⟩,
    ⟨.setsockopt 3 (.IP_ADD_MEMBERSHIP [224, 0, 1, 129] 2), (0 : Int)⟩,
    ⟨.setsockopt 3 (.IP_MULTICAST_LOOP 0), (0 : Int)⟩,
    ⟨.setsockopt 3 (.IP_MULTICAST_IF 2), (0 : Int)⟩]

/-- The setter of both parameters. -/
def ip4SetAll : (SockIp.sockClass false).Setter :=
  ⟨.setAll
    { m_isInit := true, m_ifIndex := 2, m_ptpIndex := 0, m_ifName := octets "eth0", m_mac := [2, 0, 0, 0, 0, 1] }
    1 0, by simp⟩

/-- A `SockIp4` that is closed counts as initialised, without a descriptor. -/
theorem closed_ip4_is_initialised :
    let s : SockIp := { ip4Open with m_fd := -1 }
    let steps : List (SockStep (SockIp.sockClass false)) :=
      [⟨.set ip4SetAll, [], true⟩, ⟨.init, ip4Init, true⟩, ⟨.close, [⟨.close 3, (0 : Int)⟩], true⟩]
    Life SockKind.ip4.sockClass (fun _ _ => True) (SockKind.new .ip4 0) steps s ∧ s.m_isInit = true ∧
      ¬ OwnsDescriptor SockKind.ip4.sockClass s (descriptor steps) ∧ ¬ NotInitialised SockKind.ip4.sockClass s := by
  intro s steps
  have hset : (SockIp.sockClass false).Makes (SockKind.new .ip4 0) (.set ip4SetAll) [] true ip4Ready := by
    apply SockClass.Makes.set
    exact .done _
  have hinit : (SockIp.sockClass false).Makes ip4Ready .init ip4Init true ip4Open := by
    apply SockClass.Makes.init
    change Ends (ip4Ready.initBase SockIp.init2v4) _ _
    rw [SockIp.initBase, if_neg (by decide)]
    exact .call (.call (.call (.call (.call (.call (.call (.call (.call (.done _)))))))))
  have hclose : (SockIp.sockClass false).Makes ip4Open .close [⟨.close 3, (0 : Int)⟩] true s := by
    apply SockClass.Makes.close
    exact .call (.done _)
  refine ⟨.call (.call (.call .new trivial hset) trivial hinit) trivial hclose, rfl, ?_, ?_⟩
  · intro ho
    exact absurd (ho rfl).1 (by decide)
  · intro hn
    cases hn.isInit

end LibPmc
