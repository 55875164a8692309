import LibPmc.SockLife
import Mathlib.Data.Finset.Basic
/-!
# Descriptors that stay open

Which of the descriptors that the methods of a socket opened are still open. Each class
closes the one of a failed `init` at its own place, before the next `socket`; `SockRaw` has
no such place.
-/
namespace LibPmc

open Cstr Os Os.Sys Wire

/-! ## Open descriptors -/

/-- The descriptors that are open after a call. -/
def afterCall (fds : Finset Int) : SysEvent → Finset Int
  | ⟨.socket _, fd⟩ => if 0 ≤ (show Int from fd) then insert fd fds else fds
  | ⟨.close fd, _⟩ => fds.erase fd
  | _ => fds

def openAfter (fds : Finset Int) (es : List SysEvent) : Finset Int := es.foldl afterCall fds

/-- What the calls of a run opened and did not close. -/
def leftOpen {σ : Type} {S : SockClass σ} (steps : List (SockStep S)) : Finset Int :=
  steps.foldl (fun fds step => openAfter fds step.events) ∅

/-- No other descriptor than `m_fd` is open. -/
def Owned (fds : Finset Int) (b : SockBase) : Prop := ∀ fd ∈ fds, fd = b.m_fd ∧ 0 ≤ fd

theorem owned_empty (b : SockBase) : Owned ∅ b := by simp [Owned]

theorem Owned.subset {fds fds' : Finset Int} {b : SockBase} (h : Owned fds b) (hs : fds' ⊆ fds) : Owned fds' b :=
  fun fd hfd => h fd (hs hfd)

/-- A socket that was opened while nothing else was. -/
theorem owned_socket (fd : Int) (d : Domain) (b : SockBase) (hb : b.m_fd = fd) :
    Owned (afterCall ∅ ⟨.socket d, fd⟩) b := by
  intro x hx
  rw [afterCall] at hx
  split at hx
  · rename_i h
    rw [insert_empty_eq, Finset.mem_singleton] at hx
    subst hx
    exact ⟨hb.symm, h⟩
  · simp at hx

theorem afterCall_failed {fds : Finset Int} {d : Domain} {fd : Int} (h : fd < 0) :
    afterCall fds ⟨.socket d, fd⟩ = fds :=
  if_neg (Int.not_le.2 h)

theorem erase_afterCall_subset (fds : Finset Int) (d : Domain) (fd : Int) :
    (afterCall fds ⟨.socket d, fd⟩).erase fd ⊆ fds := by
  rw [afterCall]
  split
  · exact Finset.erase_insert_subset fd fds
  · exact Finset.erase_subset fd fds

/-- The calls of an initialisation open and close nothing. -/
theorem setups_wp {Q : Finset Int → Bool → Prop} {fds : Finset Int} (fd : Int) (l : List Setup) (h : ∀ ok, Q fds ok) :
    wp afterCall (setups fd l) Q fds := by
  induction l with
  | nil => exact h true
  | cons s rest ih =>
    cases s <;> simp only [setups, Setup.call, wp_bind, wp_sys, afterCall] <;> intro ret <;> split
    · exact h false
    · exact ih
    · exact h false
    · exact ih

theorem closeBase_wp {fds : Finset Int} {b : SockBase} (h : Owned fds b) :
    wp afterCall b.closeBase (fun fds' _ => fds' = ∅) fds := by
  unfold SockBase.closeBase
  split
  · intro r
    change afterCall fds _ = ∅
    rw [afterCall, Finset.eq_empty_iff_forall_notMem]
    intro fd hfd
    exact Finset.ne_of_mem_erase hfd (h fd (Finset.mem_of_mem_erase hfd)).1
  · rename_i hn
    refine Finset.eq_empty_iff_forall_notMem.2 fun fd hfd => ?_
    obtain ⟨rfl, hp⟩ := h fd hfd
    exact hn hp

/-! ## The classes -/

/-- Every method leaves no other descriptor open than `m_fd`, an `init` where it may be
called. -/
structure SockClass.Tidy {σ : Type} (S : SockClass σ) (may : σ → Prop) : Prop where
  set : ∀ {x s fds}, Owned fds (S.base s) → wp afterCall (S.set x s) (fun fds r => Owned fds (S.base r.2)) fds
  init : ∀ {s fds}, may s → Owned fds (S.base s) → wp afterCall (S.initBase s) (fun fds r => Owned fds (S.base r.2)) fds
  send : ∀ {x s fds}, Owned fds (S.base s) → wp afterCall (S.send x s) (fun fds _ => Owned fds (S.base s)) fds
  rcv : ∀ {x buf s fds}, Owned fds (S.base s) → wp afterCall (S.rcv x buf s) (fun fds r => Owned fds (S.base r.2.2)) fds
  close : ∀ {s fds}, Owned fds (S.base s) → wp afterCall (S.closeBase s) (fun fds _ => fds = ∅) fds

namespace SockUnix

variable {fds : Finset Int} {s : SockUnix}

theorem initBase_wp (h : Owned fds s.toSockBase) :
    wp afterCall s.initBase (fun fds r => Owned fds r.2.toSockBase) fds := by
  unfold initBase
  split
  · exact h
  · rw [wp_bind]
    refine wp_mono (closeBase_wp h) fun fds b he => ?_
    subst he
    simp only [socket, wp_bind, wp_sys]
    intro fd
    have ho (b : SockBase) (hb : b.m_fd = fd) := owned_socket fd .AF_UNIX b hb
    split
    · exact ho _ rfl
    · rw [wp_bind]
      refine setups_wp fd _ fun ok => ?_
      rw [wp_pure]
      split
      · exact ho _ rfl
      · exact ho _ rfl

theorem defAddress_wp {Q : Finset Int → List UInt8 × SockUnix → Prop} (rootBase useDef : List UInt8) (uid : Nat)
    (h : ∀ me t, t.toSockBase = s.toSockBase → Q fds (me, t)) :
    wp afterCall (s.defAddress rootBase useDef uid) Q fds := by
  unfold defAddress
  split
  · simp only [getHomeDir, wp_bind, wp_pure]
    intro _ _
    exact h _ _ rfl
  · exact h _ _ rfl

theorem set_wp {x : Setter} (h : Owned fds s.toSockBase) :
    wp afterCall (sockClass.set x s) (fun fds r => Owned fds r.2.toSockBase) fds := by
  cases x with
  | setPeerAddress str =>
    change Owned fds (s.setPeerInternal str).2.toSockBase
    rwa [setPeerInternal_base]
  | setSelfAddress str =>
    change Owned fds (s.setSelfAddress str).2.toSockBase
    rwa [setSelfAddress_base]
  | setDefSelfAddress rootBase useDef =>
    change wp afterCall (s.setDefSelfAddress rootBase useDef) _ fds
    unfold setDefSelfAddress
    split
    · exact h
    · simp only [wp_bind, wp_sys, afterCall]
      intro uid
      refine defAddress_wp rootBase useDef uid fun me t ht => ?_
      intro pid
      change Owned fds (t.setSelfAddress _).2.toSockBase
      rwa [setSelfAddress_base, ht]

theorem send_wp {x : Send} (h : Owned fds s.toSockBase) :
    wp afterCall (sockClass.send x s) (fun fds _ => Owned fds s.toSockBase) fds := by
  cases x with
  | send msg =>
    change wp afterCall (s.sendBase msg) _ fds
    unfold sendBase sendAny
    split
    · exact h
    · exact fun _ => h
  | sendTo msg addrStr =>
    change wp afterCall (s.sendTo msg addrStr) _ fds
    unfold sendTo sendAny
    split
    · exact h
    · exact fun _ => h

theorem rcvFrom_wp {Q : Finset Int → Int × Mem × Option (List UInt8) → Prop} (buf : Mem) (bufSize : Nat) (block : Bool)
    (h : ∀ r, Q fds r) : wp afterCall (s.rcvFrom buf bufSize block) Q fds := by
  unfold rcvFrom
  split
  · exact h _
  · simp only [wp_bind, wp_sys, afterCall]
    intro r
    split <;> exact h _

theorem rcv_wp {x : Rcv} {buf : Mem} (h : Owned fds s.toSockBase) :
    wp afterCall (sockClass.rcv x buf s) (fun fds r => Owned fds r.2.2.toSockBase) fds := by
  rcases x with ⟨n, block⟩ | ⟨n, block, _ | _⟩
  · change wp afterCall (s.rcvBase buf n block >>= fun r => pure (r.1, r.2, s)) _ fds
    unfold rcvBase
    split
    · exact h
    · simp only [wp_bind, wp_pure]
      exact rcvFrom_wp buf n block fun _ => h
  · change wp afterCall (s.rcvFrom buf n block >>= fun r => pure (r.1, r.2.1, s)) _ fds
    rw [wp_bind]
    exact rcvFrom_wp buf n block fun _ => h
  · change wp afterCall (s.rcvLast buf n block) _ fds
    unfold rcvLast
    rw [wp_bind]
    exact rcvFrom_wp buf n block fun _ => h

theorem tidy : sockClass.Tidy fun _ => True where
  set h := set_wp h
  init _ h := initBase_wp h
  send h := send_wp h
  rcv h := rcv_wp h
  close {s fds} h := by
    change wp afterCall s.closeBase _ fds
    unfold closeBase
    rw [wp_bind]
    refine wp_mono (closeBase_wp h) fun fds b he => ?_
    dsimp only
    split
    · simp only [wp_bind, wp_sys, wp_pure, afterCall]
      exact fun _ => he
    · exact he

end SockUnix

namespace IfInfo

variable {fds : Finset Int} {Q : Finset Int → Bool × IfInfo → Prop}

theorem initPtp_wp (i : IfInfo) (fd : Int) (ifr_name : List UInt8) (h : ∀ r, Q (fds.erase fd) r) :
    wp afterCall (i.initPtp fd ifr_name) Q fds := by
  simp only [initPtp, wp_bind, wp_sys, afterCall]
  intro hwaddr
  cases hwaddr with
  | none => exact fun _ => h _
  | some mac =>
    simp only [wp_bind, wp_sys, afterCall]
    intro info _
    cases info <;> exact h _

/-- The socket of a search is closed on every path. -/
theorem initUsingName_wp (i : IfInfo) (ifName : List UInt8) (h : ∀ r fds', fds' ⊆ fds → Q fds' r) :
    wp afterCall (i.initUsingName ifName) Q fds := by
  unfold initUsingName
  split
  · exact h _ _ subset_rfl
  · simp only [socket, wp_bind, wp_sys]
    intro fd
    split
    · rename_i hfd
      exact h _ _ (afterCall_failed hfd).subset
    · simp only [wp_bind, wp_sys, afterCall]
      intro index
      cases index with
      | none => exact fun _ => h _ _ (erase_afterCall_subset _ _ _)
      | some ifr_ifindex => exact initPtp_wp _ _ _ fun _ => h _ _ (erase_afterCall_subset _ _ _)

theorem initUsingIndex_wp (i : IfInfo) (ifIndex : Int) (h : ∀ r fds', fds' ⊆ fds → Q fds' r) :
    wp afterCall (i.initUsingIndex ifIndex) Q fds := by
  unfold initUsingIndex
  split
  · exact h _ _ subset_rfl
  · simp only [socket, wp_bind, wp_sys]
    intro fd
    split
    · rename_i hfd
      exact h _ _ (afterCall_failed hfd).subset
    · simp only [wp_bind, wp_sys, afterCall]
      intro name
      cases name with
      | none => exact fun _ => h _ _ (erase_afterCall_subset _ _ _)
      | some ifr_name => exact initPtp_wp _ _ _ fun _ => h _ _ (erase_afterCall_subset _ _ _)

end IfInfo

/-- A setter of the interface leaves the base, and nothing more open. -/
theorem SockBaseIf.set_wp {fds : Finset Int} {s : SockBaseIf} {x : SockBaseIf.Setter} (h : Owned fds s.toSockBase) :
    wp afterCall (s.set x) (fun fds r => Owned fds r.2.toSockBase) fds := by
  cases x with
  | setIfUsingName ifName =>
    change wp afterCall (s.setIfUsingName ifName) _ fds
    unfold setIfUsingName
    split
    · exact h
    · rw [wp_bind]
      refine IfInfo.initUsingName_wp _ _ fun r fds' hs => ?_
      rcases r with ⟨_ | _, ifObj⟩ <;> exact h.subset hs
  | setIfUsingIndex ifIndex =>
    change wp afterCall (s.setIfUsingIndex ifIndex) _ fds
    unfold setIfUsingIndex
    split
    · exact h
    · rw [wp_bind]
      refine IfInfo.initUsingIndex_wp _ _ fun r fds' hs => ?_
      rcases r with ⟨_ | _, ifObj⟩ <;> exact h.subset hs
  | setIf ifObj =>
    change Owned fds (s.setIf ifObj).2.toSockBase
    rwa [setIf_base]

theorem SockBaseIf.Sets.wp {σ : Type} {base : σ → SockBase} {fds : Finset Int} {s : SockBaseIf} {x : SockBaseIf.Setter}
    {p : OS (Bool × σ)} (hp : Sets base s x p) (h : Owned fds s.toSockBase) :
    wp afterCall p (fun fds r => Owned fds (base r.2)) fds := by
  obtain ⟨put, hput, rfl⟩ := hp
  rw [wp_bind]
  refine wp_mono (set_wp h) fun fds r hr => ?_
  rw [wp_pure, hput]
  exact hr

namespace SockIp

variable {fds : Finset Int} {s : SockIp}

theorem set_wp {v6 : Bool} {x : (sockClass v6).Setter} (h : Owned fds s.toSockBase) :
    wp afterCall ((sockClass v6).set x s) (fun fds r => Owned fds r.2.toSockBase) fds := by
  rcases x with ⟨y | ttl | ⟨scope, _ | _⟩ | ⟨ifObj, ttl, scope⟩, hx⟩
  · exact (setIfc_sets s _).wp h
  · change Owned fds (s.setUdpTtl ttl).2.toSockBase
    rwa [setUdpTtl_base]
  · change Owned fds (s.setScope scope).2.toSockBase
    rwa [setScope_base]
  · change Owned fds (s.setScopeCfg scope).2.toSockBase
    rwa [setScopeCfg_base]
  · change wp afterCall (s.setIfc (.setIf ifObj) >>= fun r =>
      pure (if r.1 then r.2.setAllBase v6 ttl scope else (false, r.2))) _ fds
    rw [wp_bind]
    refine wp_mono ((setIfc_sets s _).wp h) fun fds r hr => ?_
    rcases r with ⟨_ | _, t⟩
    · exact hr
    · change Owned fds (t.setAllBase v6 ttl scope).2.toSockBase
      rwa [setAllBase_base]

theorem init2v4_wp {Q : Finset Int → Bool × SockIp → Prop} (h : ∀ r : Bool × SockIp, r.2.m_fd = s.m_fd → Q fds r) :
    wp afterCall s.init2v4 Q fds := by
  unfold init2v4
  rw [wp_bind]
  refine setups_wp _ _ fun ok => ?_
  cases ok <;> exact h _ rfl

theorem init2v6_wp {Q : Finset Int → Bool × SockIp → Prop} (h : ∀ r : Bool × SockIp, r.2.m_fd = s.m_fd → Q fds r) :
    wp afterCall s.init2v6 Q fds := by
  unfold init2v6
  split
  · exact h _ rfl
  · rw [wp_bind]
    refine setups_wp _ _ fun ok => ?_
    cases ok with
    | false => exact h _ rfl
    | true =>
      change wp afterCall (setups _ _ >>= _) Q fds
      rw [wp_bind]
      refine setups_wp _ _ fun ok => ?_
      cases ok <;> exact h _ rfl

theorem initBase_wp {init2 : SockIp → OS (Bool × SockIp)}
    (h2 : ∀ {s fds Q}, (∀ r : Bool × SockIp, r.2.m_fd = s.m_fd → Q fds r) → wp afterCall (init2 s) Q fds)
    (h : Owned fds s.toSockBase) : wp afterCall (s.initBase init2) (fun fds r => Owned fds r.2.toSockBase) fds := by
  unfold initBase
  split
  · exact h
  · rw [wp_bind]
    refine wp_mono (closeBase_wp h) fun fds b he => ?_
    subst he
    simp only [socket, wp_bind, wp_sys]
    intro fd
    have ho (b : SockBase) (hb : b.m_fd = fd) := owned_socket fd s.m_domain b hb
    split
    · exact ho _ rfl
    · rw [wp_bind]
      refine setups_wp fd _ fun ok => ?_
      split
      · exact ho _ rfl
      · simp only [wp_bind, wp_sys]
        intro ip
        cases ip with
        | none => exact ho _ rfl
        | some m_mcast =>
          simp only [wp_bind]
          refine h2 fun r hr => ?_
          rcases r with ⟨_ | _, t⟩ <;> exact ho _ hr

theorem tidy (v6 : Bool) : (sockClass v6).Tidy fun _ => True where
  set h := set_wp h
  init _ h := by
    cases v6 with
    | false => exact initBase_wp init2v4_wp h
    | true => exact initBase_wp init2v6_wp h
  send {msg s fds} h := by
    change wp afterCall (s.sendBase msg) _ fds
    unfold sendBase
    split
    · exact h
    · exact fun _ => h
  rcv {x buf s fds} h := by
    change wp afterCall (s.rcvBase buf x.1 x.2 >>= fun r => pure (r.1, r.2, s)) _ fds
    unfold rcvBase
    split
    · exact h
    · exact fun _ => h
  close {s fds} h := by
    change wp afterCall (s.toSockBase.closeBase >>= fun b => pure { s with toSockBase := b }) _ fds
    rw [wp_bind]
    exact closeBase_wp h

end SockIp

namespace SockRaw

variable {fds : Finset Int} {s : SockRaw}

theorem set_wp {x : Setter} (h : Owned fds s.toSockBase) :
    wp afterCall (sockClass.set x s) (fun fds r => Owned fds r.2.toSockBase) fds := by
  rcases x with y | str | ⟨mac, _ | _⟩ | ⟨priority, _ | _⟩ | ⟨ifObj, mac, priority⟩
  · exact (setIfc_sets s _).wp h
  · change Owned fds (s.setPtpDstMacStr str).2.toSockBase
    rwa [setPtpDstMacStr_base]
  · change Owned fds (s.setPtpDstMac mac).2.toSockBase
    rwa [setPtpDstMac_base]
  · change Owned fds (s.setPtpDstMacCfg mac).2.toSockBase
    rwa [setPtpDstMacCfg_base]
  · change Owned fds (s.setSocketPriority priority).2.toSockBase
    rwa [setSocketPriority_base]
  · change Owned fds (s.setSocketPriorityCfg priority).2.toSockBase
    rwa [setSocketPriorityCfg_base]
  · change wp afterCall (s.setIfc (.setIf ifObj) >>= fun r =>
      pure (if r.1 then r.2.setAllBase mac priority else (false, r.2))) _ fds
    rw [wp_bind]
    refine wp_mono ((setIfc_sets s _).wp h) fun fds r hr => ?_
    rcases r with ⟨_ | _, t⟩
    · exact hr
    · change Owned fds (t.setAllBase mac priority).2.toSockBase
      rwa [setAllBase_base]

/-- The parameters that an `init` asks for, and no descriptor of another `init`. -/
def MayInit (s : SockRaw) : Prop := s.m_isInit = false → sockClass.ready s → s.m_fd < 0

theorem initBase_wp (hm : s.MayInit) (h : Owned fds s.toSockBase) :
    wp afterCall s.initBase (fun fds r => Owned fds r.2.toSockBase) fds := by
  unfold initBase
  split
  · exact h
  · rename_i hg
    have hfd : s.m_fd < 0 := by
      simp only [not_or, not_not, Int.not_lt] at hg
      exact hm (Bool.eq_false_iff.2 hg.1) ⟨hg.2.1, hg.2.2.1, hg.2.2.2⟩
    have he : fds = ∅ := Finset.eq_empty_iff_forall_notMem.2 fun fd hf => by
      obtain ⟨rfl, hp⟩ := h fd hf
      omega
    subst he
    simp only [socket, wp_bind, wp_sys]
    intro fd
    have ho (b : SockBase) (hb : b.m_fd = fd) := owned_socket fd .AF_PACKET b hb
    split
    · exact ho _ rfl
    · rw [wp_bind]
      refine setups_wp fd _ fun ok => ?_
      cases ok <;> exact ho _ rfl

/-- What another `init` does with the descriptor of one that failed: it stays open. -/
theorem initBase_leaves_open (hi : s.m_isInit = false) (hr : sockClass.ready s) (hf : s.m_fd ∈ fds) :
    wp afterCall s.initBase (fun fds _ => s.m_fd ∈ fds) fds := by
  have hg : ¬ (s.m_isInit = true ∨ ¬ s.m_have_if = true ∨ s.m_ptp_dst_mac = [] ∨ s.m_socket_priority < 0) := by
    rintro (h | h | h | h)
    · simp [hi] at h
    · exact h hr.1
    · exact hr.2.1 h
    · exact absurd hr.2.2 (Int.not_le.2 h)
  have hopen (fd : Int) : s.m_fd ∈ afterCall fds ⟨.socket .AF_PACKET, fd⟩ := by
    rw [afterCall]
    split
    · exact Finset.mem_insert_of_mem hf
    · exact hf
  rw [initBase, if_neg hg]
  simp only [socket, wp_bind, wp_sys]
  intro fd
  split
  · exact hopen fd
  · rw [wp_bind]
    exact setups_wp fd _ fun _ => hopen fd

theorem tidy : sockClass.Tidy MayInit where
  set h := set_wp h
  init hm h := initBase_wp hm h
  send {msg s fds} h := by
    change wp afterCall (s.sendBase msg) _ fds
    unfold sendBase
    split
    · exact h
    · exact fun _ => h
  rcv {x buf s fds} h := by
    change wp afterCall (s.rcvBase buf x.1 x.2 >>= fun r => pure (r.1, r.2, s)) _ fds
    unfold rcvBase
    split
    · exact h
    · exact fun _ => h
  close {s fds} h := by
    change wp afterCall (s.toSockBase.closeBase >>= fun b => pure { s with toSockBase := b }) _ fds
    rw [wp_bind]
    exact closeBase_wp h

end SockRaw

/-! ## Runs -/

section Runs

variable {σ : Type} {S : SockClass σ} {may : σ → Prop}

theorem tidy_step (T : S.Tidy may) {s s' : σ} {c : SockCall S} {es : List SysEvent} {ok : Bool} {fds : Finset Int}
    (hm : c = .init → may s) (hs : S.Makes s c es ok s') (h : Owned fds (S.base s)) :
    Owned (openAfter fds es) (S.base s') := by
  cases hs with
  | set he => exact wp_iff.1 (T.set h) es _ he
  | init he => exact wp_iff.1 (T.init (hm rfl) h) es _ he
  | send he => exact wp_iff.1 (T.send h) es _ he
  | rcv he => exact wp_iff.1 (T.rcv h) es _ he
  | close he =>
    rw [openAfter, wp_iff.1 (T.close h) es _ he]
    exact owned_empty _

theorem tidy_life (T : S.Tidy may) {s₀ s : σ} {steps : List (SockStep S)}
    (h : Life S (fun s c => c = .init → may s) s₀ steps s) : Owned (leftOpen steps) (S.base s) := by
  induction h with
  | new => exact owned_empty _
  | call _ hc hs ih =>
    rw [leftOpen, List.foldl_append]
    exact tidy_step T hc hs ih

end Runs

namespace SockKind

/-- No `init` of a `SockRaw` on top of one that failed. -/
def MayInit : (k : SockKind) → k.Obj → Prop
  | raw, s => SockRaw.MayInit s
  | _, _ => True

theorem tidy (k : SockKind) : k.sockClass.Tidy k.MayInit := by
  cases k with
  | unix => exact SockUnix.tidy
  | ip4 => exact SockIp.tidy false
  | ip6 => exact SockIp.tidy true
  | raw => exact SockRaw.tidy

end SockKind

/-- Nothing is left open but `m_fd`, and nothing at all after a `close`. -/
theorem no_descriptor_leaks (k : SockKind) (m_ifIndex : Int) {steps : List (SockStep k.sockClass)} {s : k.Obj}
    (h : Life k.sockClass (fun s c => c = .init → k.MayInit s) (k.new m_ifIndex) steps s) :
    leftOpen steps ⊆ {(k.sockClass.base s).m_fd} ∧
      ∀ es ok s', k.sockClass.Makes s .close es ok s' → leftOpen (steps ++ [⟨.close, es, ok⟩]) = ∅ := by
  have ho := tidy_life k.tidy h
  constructor
  · intro fd hfd
    rw [(ho fd hfd).1]
    exact Finset.mem_singleton_self _
  · intro es ok s' hs
    cases hs with
    | close he =>
      rw [leftOpen, List.foldl_append]
      exact wp_iff.1 (k.tidy.close ho) es s' he

def rawIf : IfInfo :=
  { m_isInit := true, m_ifIndex := 2, m_ptpIndex := 0, m_ifName := octets "eth0", m_mac := [2, 0, 0, 0, 0, 1] }

def rawReady : SockRaw :=
  { m_ifIndex := 2
    m_ifName := octets "eth0"
    m_mac := [2, 0, 0, 0, 0, 1]
    m_have_if := true
    m_ptp_dst_mac := [1, 0x1b, 0x19, 0, 0, 0]
    m_socket_priority := 0 }

/-- After an `init` that fails at `bind`, which leaves its socket for a later `close`. -/
def rawFailed (fd : Int) : SockRaw := { rawReady with m_fd := fd, m_addr := .ll 2 ETH_P_ALL [] }

def rawFails (fd : Int) : List SysEvent := [⟨.socket .AF_PACKET, fd⟩, ⟨.bind fd (.ll 2 ETH_P_ALL []), (-1 : Int)⟩]

theorem raw_set :
    SockRaw.sockClass.Makes (SockKind.new .raw 0) (.set (.setAll rawIf [1, 0x1b, 0x19, 0, 0, 0] 0)) [] true
      rawReady := by
  apply SockClass.Makes.set
  exact .done _

theorem raw_fails {s : SockRaw} (fd : Int) (hs : ∃ old, s = { rawFailed old with m_addr := s.m_addr }) (hfd : 0 ≤ fd) :
    SockRaw.sockClass.Makes s .init (rawFails fd) false (rawFailed fd) := by
  obtain ⟨old, hs⟩ := hs
  apply SockClass.Makes.init
  change Ends s.initBase _ _
  rw [hs, SockRaw.initBase, if_neg (by simp [rawFailed, rawReady])]
  refine .call ?_
  dsimp only
  rw [Sys.bind, if_neg (Int.not_lt.2 hfd)]
  exact .call (.done _)

theorem raw_closes (fd : Int) (hfd : 0 ≤ fd) :
    SockRaw.sockClass.Makes (rawFailed fd) .close [⟨.close fd, (0 : Int)⟩] true (rawFailed (-1)) := by
  apply SockClass.Makes.close
  change Ends ((rawFailed fd).toSockBase.closeBase >>= _) _ _
  rw [SockBase.closeBase, if_pos (show (rawFailed fd).m_fd ≥ 0 from hfd)]
  exact .call (.done _)

/-- A second try after a `close`. -/
theorem no_descriptor_leaks_raw :
    leftOpen (S := SockRaw.sockClass)
      [⟨.set (.setAll rawIf [1, 0x1b, 0x19, 0, 0, 0] 0), [], true⟩, ⟨.init, rawFails 3, false⟩,
        ⟨.close, [⟨.close 3, (0 : Int)⟩], true⟩, ⟨.init, rawFails 4, false⟩] ⊆ {4} := by
  have hset : SockKind.raw.MayInit rawReady := fun _ _ => by decide
  have hclosed : SockKind.raw.MayInit (rawFailed (-1)) := fun _ _ => by decide
  have h : Life SockKind.raw.sockClass (fun s c => c = .init → SockKind.raw.MayInit s) (SockKind.new .raw 0) _
    (rawFailed 4) :=
    .call (.call (.call (.call .new (by simp) raw_set) (fun _ => hset) (raw_fails 3 ⟨-1, rfl⟩ (by decide)))
      (by simp) (raw_closes 3 (by decide))) (fun _ => hclosed) (raw_fails 4 ⟨-1, rfl⟩ (by decide))
  exact (no_descriptor_leaks .raw 0 h).1

/-- Without it the first descriptor is never closed. -/
theorem raw_init_leaks :
    let steps : List (SockStep SockRaw.sockClass) :=
      [⟨.set (.setAll rawIf [1, 0x1b, 0x19, 0, 0, 0] 0), [], true⟩, ⟨.init, rawFails 3, false⟩,
      ⟨.init, rawFails 4, false⟩]
    Life SockKind.raw.sockClass (fun _ _ => True) (SockKind.new .raw 0) steps (rawFailed 4) ∧ leftOpen steps = {3, 4} ∧
      SockRaw.sockClass.Makes (rawFailed 4) .close [⟨.close 4, (0 : Int)⟩] true (rawFailed (-1)) ∧
      leftOpen (steps ++ [⟨.close, [⟨.close 4, (0 : Int)⟩], true⟩]) = {3} := by
  intro steps
  refine ⟨?_, by decide, raw_closes 4 (by decide), by decide⟩
  exact .call (.call (.call .new trivial raw_set) trivial (raw_fails 3 ⟨-1, rfl⟩ (by decide))) trivial
    (raw_fails 4 ⟨3, rfl⟩ (by decide))

end LibPmc
