import LibPmc.Process
import LibPmc.Start
/-!
# From the command line to the wire

`main` of `pmc.cpp` with its socket, from the options to the end of its input: whatever the calls
give, what goes out are requests with the parameters that were asked for, numbered from 0 on
(`launched_sends`).
-/
namespace LibPmc

open Cstr Os Os.Sys Wire Pmc

/-! ## The start with its socket -/

/-- What has become of pmc, with its socket where it goes on. -/
inductive Launched where
  | stops
  | undefined
  | runs (sk : Sk) (msg : Message)

/-- Without the socket. -/
def Launched.started : Launched → Started
  | stops => .stops
  | undefined => .undefined
  | runs _ msg => .runs msg

def Options.openUnix (o : Options) (cfg : Config) (interface : List UInt8) (self_id : PortIdentity_t) :
    OS (Option (Sk × PortIdentity_t)) := do
  let (ok, s) ← openSocket SockUnix.sockClass [.setDefSelfAddress [] []] {}
  let (peer, s) := s.setPeerInternal (if o.count 's' then o.get 's' else cfg.val .uds_address interface)
  if ¬ ok ∨ ¬ peer then return none
  else
    let pid ← sys .getpid
    return some (.unix s, { self_id with portNumber := UInt16.ofNat pid })

/-- `setUdpTtl` of either class. -/
def SockIp.ttlSetter (v6 : Bool) (udp_ttl : UInt8) : (SockIp.sockClass v6).Setter := ⟨.setUdpTtl udp_ttl, by simp⟩

/-- `setScope`, which only `SockIp6` has. -/
def SockIp.scopeSetter {v6 : Bool} (h6 : v6 = true) (udp6_scope : UInt8) : (SockIp.sockClass v6).Setter :=
  ⟨.setScope udp6_scope false, by simp [h6]⟩

/-- `setAll`. -/
def SockIp.allSetter (v6 : Bool) (ifObj : IfInfo) (udp_ttl udp6_scope : UInt8) : (SockIp.sockClass v6).Setter :=
  ⟨.setAll ifObj udp_ttl udp6_scope, by simp⟩

def Options.openIp (o : Options) (v6 : Bool) (cfg : Config) (interface : List UInt8) (ifObj : IfInfo) (m_ifIndex : Int)
    (self_id : PortIdentity_t) : OS (Option (Sk × PortIdentity_t)) := do
  let ttl := if o.count 'T' then [SockIp.ttlSetter v6 (UInt8.ofInt (atoi (o.get 'T')))] else []
  let scope :=
    if h : v6 = true ∧ o.count 'S' = true then [SockIp.scopeSetter h.1 (UInt8.ofInt (atoi (o.get 'S')))] else []
  let (ok, s) ← openSocket (SockIp.sockClass v6)
    (SockIp.allSetter v6 ifObj (cfg.val .udp_ttl interface) (cfg.val .udp6_scope interface) :: (ttl ++ scope))
    (if v6 then SockIp.new6 m_ifIndex else SockIp.new4 m_ifIndex)
  return if ok then some (.ip s, self_id) else none

def Options.openRaw (o : Options) (cfg : Config) (interface : List UInt8) (ifObj : IfInfo) (m_ifIndex : Int)
    (self_id : PortIdentity_t) : OS (Option (Sk × PortIdentity_t)) := do
  let priority : List SockRaw.Setter :=
    if o.count 'P' then [.setSocketPriority (UInt8.ofInt (atoi (o.get 'P'))) false] else []
  let mac : Option (List SockRaw.Setter) :=
    if o.count 'M' then
      match fromMac [] (o.get 'M') with
      | (true, mac) => some [.setPtpDstMac mac false]
      | (false, _) => none
    else some []
  match mac with
  | none => return none
  | some mac =>
    let (ok, s) ← openSocket SockRaw.sockClass
      (.setAll ifObj (cfg.val .ptp_dst_mac interface) (cfg.val .socket_priority interface) ::
        (priority ++ mac)) { m_ifIndex }
    return if ok then some (.raw s, self_id) else none

def Options.openSk (o : Options) (cfg : Config) (ifObj : IfInfo) (m_ifIndex : Int) (self_id : PortIdentity_t) :
    OS (Option (Sk × PortIdentity_t)) :=
  if o.netSelect cfg = ch 'u' then o.openUnix cfg (o.get 'i') self_id
  else if o.netSelect cfg = ch '6' then o.openIp true cfg (o.get 'i') ifObj m_ifIndex self_id
  else if o.netSelect cfg = ch '2' then o.openRaw cfg (o.get 'i') ifObj m_ifIndex self_id
  else o.openIp false cfg (o.get 'i') ifObj m_ifIndex self_id

def Options.launch (o : Options) (alloc : Allocator) (mem : Addr → ConfigSection) (file : List UInt8 → CfgText)
    (batch : Bool) (m_ifIndex : Int) (msg : Message) : OS Launched :=
  match o.configuration alloc mem file with
  | none => return .undefined
  | some (false, _) => return .stops
  | some (true, cfg) => do
    let own ← ownIdentity (o.netSelect cfg) (o.get 'i') msg.prms.self_id
    match own with
    | none => return .stops
    | some (ifObj, self_id) =>
      let prms := o.setNumbers cfg (o.get 'i') { msg.prms with self_id }
      let opened ← o.openSk cfg ifObj m_ifIndex self_id
      match opened with
      | none => return .stops
      | some (sk, self_id) =>
        return .runs sk (msg.updateParams (o.setSignaling cfg batch { prms with self_id })).2

section Launch
variable {o : Options} {cfg : Config} {interface : List UInt8} {ifObj : IfInfo} {m_ifIndex : Int}
  {self_id : PortIdentity_t}
  {es : List SysEvent}

theorem openUnix_start {r : Option (Sk × PortIdentity_t)} (h : Ends (o.openUnix cfg interface self_id) es r) :
    Ends (o.startUnix cfg interface self_id) es (r.map Prod.snd) := by
  obtain ⟨⟨ok, s⟩, es₁, es₂, rfl, h₁, h₂⟩ := ends_bind.1 h
  refine ends_bind.2 ⟨(ok, s), es₁, es₂, rfl, h₁, ?_⟩
  dsimp only at h₂ ⊢
  generalize (if o.count 's' then o.get 's' else cfg.val .uds_address interface) = address at h₂ ⊢
  split at h₂
  · rename_i hn
    obtain ⟨rfl, rfl⟩ := ends_pure.1 h₂
    rw [if_pos hn]
    exact .done _
  · rename_i hn
    obtain ⟨pid, es₃, rfl, h₃⟩ := ends_sys_bind.1 h₂
    obtain ⟨rfl, rfl⟩ := ends_pure.1 h₃
    rw [if_neg hn]
    exact .call (.done _)

theorem openIp_start {v6 : Bool} {r : Option (Sk × PortIdentity_t)}
    (h : Ends (o.openIp v6 cfg interface ifObj m_ifIndex self_id) es r) :
    Ends (o.startIp v6 cfg interface ifObj m_ifIndex self_id) es (r.map Prod.snd) := by
  obtain ⟨⟨ok, s⟩, h₁, rfl⟩ := ends_bind_pure.1 h
  exact ends_bind_pure.2 ⟨(ok, s), h₁, by cases ok <;> rfl⟩

theorem openRaw_start {r : Option (Sk × PortIdentity_t)}
    (h : Ends (o.openRaw cfg interface ifObj m_ifIndex self_id) es r) :
    Ends (o.startRaw cfg interface ifObj m_ifIndex self_id) es (r.map Prod.snd) := by
  have opened {xs : List SockRaw.Setter}
      (h : Ends (openSocket SockRaw.sockClass xs { m_ifIndex } >>=
        fun x => pure (if x.1 then some (Sk.raw x.2, self_id) else none))
        es r) :
      Ends (openSocket SockRaw.sockClass xs { m_ifIndex } >>= fun x => pure (if x.1 then some self_id else none)) es
        (r.map Prod.snd) := by
    obtain ⟨⟨ok, s⟩, h₁, rfl⟩ := ends_bind_pure.1 h
    exact ends_bind_pure.2 ⟨(ok, s), h₁, by cases ok <;> rfl⟩
  unfold Options.openRaw at h
  unfold Options.startRaw
  dsimp only at h ⊢
  by_cases hM : o.count 'M' = true
  · rw [if_pos hM] at h ⊢
    rcases hm : fromMac [] (o.get 'M') with ⟨_ | _, mac⟩ <;> rw [hm] at h
    · obtain ⟨rfl, rfl⟩ := ends_pure.1 h
      exact .done _
    · exact opened h
  · rw [if_neg hM] at h ⊢
    exact opened h

theorem openSk_transport {r : Option (Sk × PortIdentity_t)} (h : Ends (o.openSk cfg ifObj m_ifIndex self_id) es r) :
    Ends (o.transport cfg ifObj m_ifIndex self_id) es (r.map Prod.snd) := by
  unfold Options.openSk at h
  unfold Options.transport
  split at h
  · rw [if_pos ‹_›]
    exact openUnix_start h
  rw [if_neg ‹_›]
  split at h
  · rw [if_pos ‹_›]
    exact openIp_start h
  rw [if_neg ‹_›]
  split at h
  · rw [if_pos ‹_›]
    exact openRaw_start h
  · rw [if_neg ‹_›]
    exact openIp_start h

/-- It is the start that is known. -/
theorem launch_start {alloc : Allocator} {mem : Addr → ConfigSection} {file : List UInt8 → CfgText} {batch : Bool}
    {msg : Message} {r : Launched} (h : Ends (o.launch alloc mem file batch m_ifIndex msg) es r) :
    Ends (o.start alloc mem file batch m_ifIndex msg) es r.started := by
  unfold Options.launch at h
  unfold Options.start
  rcases hc : o.configuration alloc mem file with _ | ⟨_ | _, cfg⟩ <;> rw [hc] at h <;> dsimp only at h ⊢
  · obtain ⟨rfl, rfl⟩ := ends_pure.1 h
    exact .done _
  · obtain ⟨rfl, rfl⟩ := ends_pure.1 h
    exact .done _
  · obtain ⟨own, es₁, es₂, rfl, h₁, h₂⟩ := ends_bind.1 h
    refine ends_bind.2 ⟨own, es₁, es₂, rfl, h₁, ?_⟩
    rcases own with _ | ⟨ifObj, self_id⟩
    · obtain ⟨rfl, rfl⟩ := ends_pure.1 h₂
      exact .done _
    · obtain ⟨opened, es₃, es₄, rfl, h₃, h₄⟩ := ends_bind.1 h₂
      refine ends_bind.2 ⟨_, es₃, es₄, rfl, openSk_transport h₃, ?_⟩
      rcases opened with _ | ⟨sk, self_id'⟩
      · obtain ⟨rfl, rfl⟩ := ends_pure.1 h₄
        exact .done _
      · obtain ⟨rfl, rfl⟩ := ends_pure.1 h₄
        exact .done _

end Launch

/-! ## The loops with their calls -/

namespace Pmc

/-- `rcv_timeout`, over what is left of the time whenever `tpoll` reports the socket. -/
def rcv_timeoutOn (libc : Inet) (sk : Sk) (s : Pmc) : List Nat → Run (Pmc × List Out)
  | [] => return (s, [])
  | left :: rest => do
    let (r, s, out) ← s.rcvOn libc sk
    if r = 1 ∧ left > 0 then
      let (s, out') ← s.rcv_timeoutOn libc sk rest
      return (s, out ++ out')
    else return (s, out)

def commandsOn (sk : Sk) (s : Pmc) : List (Heap × Buf) → Run (Nat × Pmc × List Out)
  | [] => return (0, s, [])
  | (heap, line) :: cs => do
    let (sent, s, out) ← s.run_lineOn sk heap line
    let (pkts, s, out') ← s.commandsOn sk cs
    return (if sent then pkts + 1 else pkts, s, out ++ out')

def receivesOn (libc : Inet) (sk : Sk) (s : Pmc) : Nat → List (List Nat) → Run (Pmc × List Out)
  | 0, _ => return (s, [])
  | pkts + 1, waits => do
    let (s, out) ← s.rcv_timeoutOn libc sk (waits.headD [])
    let (s, out') ← s.receivesOn libc sk pkts waits.tail
    return (s, out ++ out')

def batchOn (libc : Inet) (sk : Sk) (s : Pmc) (cs : List (Heap × Buf)) (waits : List (List Nat)) :
    Run (Pmc × List Out) := do
  let (pkts, s, out) ← s.commandsOn sk cs
  let (s, out') ← s.receivesOn libc sk pkts waits
  return (s, out ++ out')

def udsOn (libc : Inet) (sk : Sk) (s : Pmc) : List ((Heap × Buf) × List Nat) → Run (Pmc × List Out)
  | [] => return (s, [])
  | ((heap, line), waits) :: cs => do
    let (sent, s, out) ← s.run_lineOn sk heap line
    let (s, out') ← (if sent then s.rcv_timeoutOn libc sk waits else return (s, []))
    let (s, out'') ← s.udsOn libc sk cs
    return (s, out ++ out' ++ out'')

/-- The commands of the command line, or else the lines that are typed, with what polling reports. -/
inductive Input where
  | batch (cs : List (Heap × Buf)) (waits : List (List Nat))
  | typed (lines : List ((Heap × Buf) × List Nat)) (polled : List Ready)

def Input.isBatch : Input → Bool
  | batch .. => true
  | typed .. => false

/-- `main` from its first command on. -/
def inputOn (libc : Inet) (sk : Sk) (s : Pmc) : Input → Run (Pmc × List Out)
  | .batch cs waits => s.batchOn libc sk cs waits
  | .typed lines polled =>
    if s.use_uds then s.udsOn libc sk lines
    else do
      let (s, outs) ← s.runOn libc sk polled
      return (s, outs.flatten)

end Pmc

/-! ## What the socket is used for -/

/-- The calls of receives, and of sends of requests, each with the next number. A number is used
again for one that was not sent. -/
inductive Wired (sk : Sk) (P : Request → Prop) : Nat → List SysEvent → Nat → Prop
  | nil (n : Nat) : Wired sk P n [] n
  | rcv {n m : Nat} {buf : Mem} {es es' : List SysEvent} {r : Int × Mem} (h : Ends (sk.rcv buf bufSize) es r)
      (hw : Wired sk P n es' m) : Wired sk P n (es ++ es') m
  | send {n m : Nat} {q : Request} {es es' : List SysEvent} {ok : Bool} (hq : P q)
      (h : Ends (sk.send (q.datagram (UInt16.ofNat n))) es ok) (hw : Wired sk P (if ok then n + 1 else n) es' m) :
      Wired sk P n (es ++ es') m

section Wired
variable {sk : Sk} {P : Request → Prop} {n m k : Nat} {es es' : List SysEvent}

theorem Wired.append (h : Wired sk P n es m) (h' : Wired sk P m es' k) : Wired sk P n (es ++ es') k := by
  induction h with
  | nil => exact h'
  | rcv h _ ih =>
    rw [List.append_assoc]
    exact .rcv h (ih h')
  | send hq h _ ih =>
    rw [List.append_assoc]
    exact .send hq h (ih h')

theorem Wired.received {buf : Mem} {r : Int × Mem} (h : Ends (sk.rcv buf bufSize) es r) : Wired sk P n es n := by
  have hw := Wired.rcv (P := P) h (.nil n)
  rwa [List.append_nil] at hw

theorem Wired.sent {q : Request} {ok : Bool} (hq : P q) (h : Ends (sk.send (q.datagram (UInt16.ofNat n))) es ok) :
    Wired sk P n es (if ok then n + 1 else n) := by
  have hw := Wired.send hq h (.nil _)
  rwa [List.append_nil] at hw

theorem Wired.mono {Q : Request → Prop} (h : Wired sk P n es m) (hPQ : ∀ q, P q → Q q) : Wired sk Q n es m := by
  induction h with
  | nil n => exact .nil n
  | rcv h _ ih => exact .rcv h ih
  | send hq h _ ih => exact .send (hPQ _ hq) h ih

/-- What goes out are these requests. -/
theorem Wired.wire (h : Wired sk P n es m) : ∃ qs, wire es = numbered n qs ∧ m = n + qs.length ∧ ∀ q ∈ qs, P q := by
  induction h with
  | nil n => exact ⟨[], rfl, rfl, by simp⟩
  | rcv h _ ih =>
    obtain ⟨qs, hw, hm, hqs⟩ := ih
    exact ⟨qs, by rw [wire_append, Sk.rcv_wire h, hw, List.nil_append], hm, hqs⟩
  | @send n m q es es' ok hq h _ ih =>
    obtain ⟨qs, hw, hm, hqs⟩ := ih
    rw [wire_append, Sk.send_wire h, hw]
    cases ok with
    | false => exact ⟨qs, rfl, hm, hqs⟩
    | true =>
      refine ⟨q :: qs, ?_, ?_, fun q' hq' => ?_⟩
      · exact (numbered_append n [q] qs).symm
      · rw [hm]
        simp only [if_true, List.length_cons]
        omega
      · rcases List.mem_cons.1 hq' with rfl | hq'
        · exact hq
        · exact hqs q' hq'

end Wired

/-- The socket is used for the next requests of the tool. -/
structure Uses (sk : Sk) (s t : Pmc) (es : List SysEvent) : Prop where
  wired : Wired sk (fun q => UpToTarget s.msg.prms q.prms) s.seq es t.seq
  prms : UpToTarget s.msg.prms t.msg.prms

section Uses
variable {libc : Inet} {sk : Sk} {s t u : Pmc} {es es' : List SysEvent} {out : List Out}

theorem Uses.nil (sk : Sk) (s : Pmc) : Uses sk s s [] := ⟨.nil _, .refl _⟩

theorem Uses.append (h : Uses sk s t es) (h' : Uses sk t u es') : Uses sk s u (es ++ es') :=
  ⟨h.wired.append (h'.wired.mono fun _ hq => h.prms.trans hq), h.prms.trans h'.prms⟩

theorem run_lineOn_uses {heap : Heap} {line : Buf} {sent : Bool}
    (h : Ends (s.run_lineOn sk heap line).run es (some (sent, t, out))) : Uses sk s t es := by
  obtain ⟨ha, sends, hs⟩ := told_line heap line _ _ h
  have hl := line_cases hs
  cases ha with
  | none _ =>
    cases hl with
    | none _ hp hn _ _ => exact ⟨by rw [hn]; exact .nil _, hp⟩
  | send q hq hsend _ =>
    have hq' : UpToTarget s.msg.prms q.prms := by rw [hq]; exact .refl _
    cases hl with
    | sent _ _ _ hp hn _ _ => exact ⟨by rw [hn]; exact .sent hq' hsend, by rw [hp]; exact .refl _⟩
    | none _ hp hn _ _ => exact ⟨by rw [hn]; exact .sent hq' hsend, hp⟩

theorem afterRcv_sender {cnt : Int} {buf : Mem} {r : Int × Pmc × List Out} (h : s.afterRcv libc cnt buf = some r) :
    SameSender s r.2.1 := by
  rw [afterRcv_state h]
  exact ⟨(parse_send _ _ _).1.prms, rfl⟩

theorem rcvOn_uses {n : Int} (h : Ends (s.rcvOn libc sk).run es (some (n, t, out))) : Uses sk s t es := by
  obtain ⟨⟨cnt, buf⟩, es₁, es₂, rfl, h₁, h₂⟩ := ends_partial_bind.1 h
  have hw := fun P => Wired.received (P := P) (n := s.seq) (ends_lift.1 h₁)
  dsimp only at h₂
  split at h₂
  · obtain ⟨rfl, he⟩ := ends_partial_pure.1 h₂
    cases he
    rw [List.append_nil]
    exact ⟨hw _, .refl _⟩
  · obtain ⟨rfl, he⟩ := ends_checked.1 h₂
    have hs := afterRcv_sender he
    rw [List.append_nil]
    exact ⟨by rw [hs.seq]; exact hw _, by rw [hs.prms]; exact .refl _⟩

theorem rcv_timeoutOn_uses {waits : List Nat} (h : Ends (s.rcv_timeoutOn libc sk waits).run es (some (t, out))) :
    Uses sk s t es := by
  induction waits generalizing s t out es with
  | nil =>
    obtain ⟨rfl, he⟩ := ends_partial_pure.1 h
    cases he
    exact .nil sk s
  | cons left rest ih =>
    obtain ⟨⟨n, u, out₁⟩, es₁, es₂, rfl, h₁, h₂⟩ := ends_partial_bind.1 h
    have hu := rcvOn_uses h₁
    dsimp only at h₂
    split at h₂
    · obtain ⟨⟨v, out₂⟩, es₃, es₄, rfl, h₃, h₄⟩ := ends_partial_bind.1 h₂
      obtain ⟨rfl, he⟩ := ends_partial_pure.1 h₄
      cases he
      rw [List.append_nil]
      exact hu.append (ih h₃)
    · obtain ⟨rfl, he⟩ := ends_partial_pure.1 h₂
      cases he
      rw [List.append_nil]
      exact hu

theorem commandsOn_uses {cs : List (Heap × Buf)} {pkts : Nat}
    (h : Ends (s.commandsOn sk cs).run es (some (pkts, t, out))) :
    Uses sk s t es := by
  induction cs generalizing s t out es pkts with
  | nil =>
    obtain ⟨rfl, he⟩ := ends_partial_pure.1 h
    cases he
    exact .nil sk s
  | cons c cs ih =>
    obtain ⟨⟨sent, u, out₁⟩, es₁, es₂, rfl, h₁, h₂⟩ := ends_partial_bind.1 h
    obtain ⟨⟨pkts', v, out₂⟩, es₃, es₄, rfl, h₃, h₄⟩ := ends_partial_bind.1 h₂
    obtain ⟨rfl, he⟩ := ends_partial_pure.1 h₄
    cases he
    rw [List.append_nil]
    exact (run_lineOn_uses h₁).append (ih h₃)

theorem receivesOn_uses {pkts : Nat} {waits : List (List Nat)}
    (h : Ends (s.receivesOn libc sk pkts waits).run es (some (t, out))) : Uses sk s t es := by
  induction pkts generalizing s t out es waits with
  | zero =>
    obtain ⟨rfl, he⟩ := ends_partial_pure.1 h
    cases he
    exact .nil sk s
  | succ pkts ih =>
    obtain ⟨⟨u, out₁⟩, es₁, es₂, rfl, h₁, h₂⟩ := ends_partial_bind.1 h
    obtain ⟨⟨v, out₂⟩, es₃, es₄, rfl, h₃, h₄⟩ := ends_partial_bind.1 h₂
    obtain ⟨rfl, he⟩ := ends_partial_pure.1 h₄
    cases he
    rw [List.append_nil]
    exact (rcv_timeoutOn_uses h₁).append (ih h₃)

theorem udsOn_uses {cs : List ((Heap × Buf) × List Nat)} (h : Ends (s.udsOn libc sk cs).run es (some (t, out))) :
    Uses sk s t es := by
  induction cs generalizing s t out es with
  | nil =>
    obtain ⟨rfl, he⟩ := ends_partial_pure.1 h
    cases he
    exact .nil sk s
  | cons c cs ih =>
    obtain ⟨⟨sent, u, out₁⟩, es₁, es₂, rfl, h₁, h₂⟩ := ends_partial_bind.1 h
    obtain ⟨⟨v, out₂⟩, es₃, es₄, rfl, h₃, h₄⟩ := ends_partial_bind.1 h₂
    obtain ⟨⟨w, out₃⟩, es₅, es₆, rfl, h₅, h₆⟩ := ends_partial_bind.1 h₄
    obtain ⟨rfl, he⟩ := ends_partial_pure.1 h₆
    cases he
    have hw : Uses sk u v es₃ := by
      cases sent with
      | false =>
        obtain ⟨rfl, he⟩ := ends_partial_pure.1 h₃
        cases he
        exact .nil sk u
      | true => exact rcv_timeoutOn_uses h₃
    rw [List.append_nil]
    exact (run_lineOn_uses h₁).append (hw.append (ih h₅))

theorem runOn_uses {ready : List Ready} {outs : List (List Out)}
    (h : Ends (s.runOn libc sk ready).run es (some (t, outs))) :
    Uses sk s t es := by
  induction ready generalizing s t outs es with
  | nil =>
    obtain ⟨rfl, he⟩ := ends_partial_pure.1 h
    cases he
    exact .nil sk s
  | cons e ready ih =>
    obtain ⟨u, out, outs', es₁, es₂, rfl, -, h₁, h₂⟩ := Machine.runOn_cons h
    refine Uses.append ?_ (ih h₂)
    cases e with
    | line heap line =>
      obtain ⟨⟨sent, v, out⟩, es₃, es₄, rfl, h₃, h₄⟩ := ends_partial_bind.1 h₁
      obtain ⟨rfl, he⟩ := ends_partial_pure.1 h₄
      cases he
      rw [List.append_nil]
      exact run_lineOn_uses h₃
    | socket =>
      obtain ⟨⟨n, v, out⟩, es₃, es₄, rfl, h₃, h₄⟩ := ends_partial_bind.1 h₁
      obtain ⟨rfl, he⟩ := ends_partial_pure.1 h₄
      cases he
      rw [List.append_nil]
      exact rcvOn_uses h₃

theorem inputOn_uses {input : Input} (h : Ends (s.inputOn libc sk input).run es (some (t, out))) : Uses sk s t es := by
  cases input with
  | batch cs waits =>
    obtain ⟨⟨pkts, u, out₁⟩, es₁, es₂, rfl, h₁, h₂⟩ := ends_partial_bind.1 h
    obtain ⟨⟨v, out₂⟩, es₃, es₄, rfl, h₃, h₄⟩ := ends_partial_bind.1 h₂
    obtain ⟨rfl, he⟩ := ends_partial_pure.1 h₄
    cases he
    rw [List.append_nil]
    exact (commandsOn_uses h₁).append (receivesOn_uses h₃)
  | typed lines polled =>
    unfold Pmc.inputOn at h
    dsimp only at h
    split at h
    · exact udsOn_uses h
    · obtain ⟨⟨u, outs⟩, es₁, es₂, rfl, h₁, h₂⟩ := ends_partial_bind.1 h
      obtain ⟨rfl, he⟩ := ends_partial_pure.1 h₂
      cases he
      rw [List.append_nil]
      exact runOn_uses h₁

end Uses

/-! ## The whole of it -/

/-- The tool before its first command. -/
def Sk.tool (sk : Sk) (msg : Message) (buf : Mem) : Pmc := ⟨msg, buf, 0, sk.isUnix⟩

/-- Whatever the calls give, from the start to the end of the input whole requests go out, numbered
from 0 on. But for the target they have the parameters that the message got at the start, which are
the ones asked for exactly where the numbers are straight. -/
theorem launched_sends (o : Options) (alloc : Allocator) (mem : Addr → ConfigSection) (file : List UInt8 → CfgText)
    (m_ifIndex : Int) (m₀ : Message) (libc : Inet) (buf : Mem) (input : Input) {es₀ es₁ : List SysEvent} {sk : Sk}
    {msg : Message} {r : Pmc × List Out}
    (h : Ends (o.launch alloc mem file input.isBatch m_ifIndex (.new m₀)) es₀ (.runs sk msg))
    (h' : Ends ((sk.tool msg buf).inputOn libc sk input).run es₁ (some r)) :
    ∃ cfg self_id qs, o.configuration alloc mem file = some (true, cfg) ∧
      OwnIdentity (o.netSelect cfg = ch 'u') es₀ self_id ∧
      (msg.prms = o.wanted cfg input.isBatch self_id ↔ o.Straight) ∧ wire es₁ = numbered 0 qs ∧
        ∀ q ∈ qs, UpToTarget msg.prms q.prms := by
  obtain ⟨qs, hw, -, hqs⟩ := (inputOn_uses h').wired.wire
  rcases start_ends o alloc mem file input.isBatch m_ifIndex m₀ (launch_start h) with
    hr | ⟨hr, -⟩ | ⟨cfg, self_id, msg', hr, hc, hid, hiff⟩
  · cases hr
  · cases hr
  · obtain rfl := Started.runs.inj hr
    exact ⟨cfg, self_id, qs, hc, hid, hiff, hw, hqs⟩

/-- Each pmc that gets through its start skips the metrics, as the runs on a network ask for. -/
theorem launch_skips_metrics (o : Options) {alloc : Allocator} {mem : Addr → ConfigSection}
    {file : List UInt8 → CfgText}
    {batch : Bool} {m_ifIndex : Int} {m₀ : Message} {es : List SysEvent} {sk : Sk} {msg : Message}
    (h : Ends (o.launch alloc mem file batch m_ifIndex (.new m₀)) es (.runs sk msg)) (buf : Mem) :
    (sk.tool msg buf).msg.prms.skips TlvType.ENHANCED_ACCURACY_METRICS = true :=
  start_skips o (launch_start h) (by decide)

/-- The option `-u`. -/
def unixOptions : Options := { net_select := ch 'u' }

/-- A priority is asked for on a Unix socket. -/
def unixInput : Input := .typed [((newHeap, octets "GET PRIORITY1" ++ [10, 0]), [])] []

theorem priority_launched : ∃ (es₀ es₁ : List SysEvent) (sk : Sk) (msg : Message) (r : Pmc × List Out) (q : Request),
    Ends (unixOptions.launch firstFit (fun _ => default) (fun _ => exampleFile "") false 0 (.new default)) es₀
      (.runs sk msg) ∧
      Ends ((sk.tool msg fun _ => 0).inputOn twoAddresses sk unixInput).run es₁ (some r) ∧
        wire es₁ = [q.datagram 0] := by
  let p := unixOptions.launch firstFit (fun _ => default) (fun _ => exampleFile "") false 0 (.new default)
  have hp := play_ends replies p
  have hsent : (match (p.play replies).2 with
      | .runs sk msg => (((sk.tool msg fun _ => 0).inputOn twoAddresses sk unixInput).run.play replies).2.isSome &&
          (wire (((sk.tool msg fun _ => 0).inputOn twoAddresses sk unixInput).run.play replies).1).length = 1
      | _ => false) = true := by decide +kernel
  rcases hl : (p.play replies).2 with _ | _ | ⟨sk, msg⟩ <;> rw [hl] at hsent hp
  · cases hsent
  · cases hsent
  · rw [Bool.and_eq_true, decide_eq_true_eq] at hsent
    obtain ⟨r, hr⟩ := Option.isSome_iff_exists.1 hsent.1
    have h' : Ends ((sk.tool msg fun _ => 0).inputOn twoAddresses sk unixInput).run _ (some r) :=
      hr ▸ play_ends replies _
    obtain ⟨-, -, qs, -, -, -, hw, -⟩ :=
      launched_sends unixOptions firstFit (fun _ => default) (fun _ => exampleFile "") 0 default twoAddresses _
        unixInput hp h'
    have hone := hsent.2
    rw [hw, numbered, List.length_mapIdx, List.length_eq_one_iff] at hone
    obtain ⟨q, rfl⟩ := hone
    exact ⟨_, _, sk, msg, r, q, hp, h', hw⟩

end LibPmc
