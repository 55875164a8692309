import LibPmc.Sock
/-!
# The search for an interface

The runs of `initUsingName` and `initUsingIndex` on one `IfInfo`. A search fills the object
between its calls: one that fails at the first of them leaves it alone, one that fails
later leaves what it has found so far.
-/
namespace LibPmc

open Cstr Os Os.Sys Wire

namespace IfInfo

inductive Call where
  | initUsingName (ifName : List UInt8)
  | initUsingIndex (ifIndex : Int)

def make (i : IfInfo) : Call → OS (Bool × IfInfo)
  | .initUsingName ifName => i.initUsingName ifName
  | .initUsingIndex ifIndex => i.initUsingIndex ifIndex

/-- A call of a run, with its system calls and what it returned. -/
structure Step where
  call : Call
  events : List SysEvent
  ok : Bool

/-- The runs on one object. -/
inductive Life : List Step → IfInfo → Prop
  | new : Life [] {}
  | call {steps i c es ok i'} (h : Life steps i) (hs : Ends (i.make c) es (ok, i')) : Life (steps ++ [⟨c, es, ok⟩]) i'

/-- The call finds the interface with these system calls: the four values are its own
argument and their results. -/
inductive Finds : Call → List SysEvent → IfInfo → Prop
  | name (fd ret m_ifIndex m_ptpIndex : Int) (ifName : List UInt8) (mac : Octets 6) :
      Finds (.initUsingName ifName)
        [⟨.socket .AF_UNIX, fd⟩, ⟨.SIOCGIFINDEX fd (cstr ifName), (some m_ifIndex : Option Int)⟩,
          ⟨.SIOCGIFHWADDR fd (cstr ifName), (some mac : Option (Octets 6))⟩,
          ⟨.SIOCETHTOOL fd (cstr ifName), (some m_ptpIndex : Option Int)⟩, ⟨.close fd, ret⟩]
        ⟨true, m_ifIndex, m_ptpIndex, ifName, mac.val⟩
  | index (fd ret ifIndex m_ptpIndex : Int) (m_ifName : List UInt8) (mac : Octets 6) :
      Finds (.initUsingIndex ifIndex)
        [⟨.socket .AF_UNIX, fd⟩, ⟨.SIOCGIFNAME fd ifIndex, (some m_ifName : Option (List UInt8))⟩,
          ⟨.SIOCGIFHWADDR fd m_ifName, (some mac : Option (Octets 6))⟩,
          ⟨.SIOCETHTOOL fd m_ifName, (some m_ptpIndex : Option Int)⟩, ⟨.close fd, ret⟩]
        ⟨true, ifIndex, m_ptpIndex, m_ifName, mac.val⟩

/-- A system call that fails after the name and the index are found. -/
def FailsLate : SysEvent → Prop
  | ⟨.SIOCGIFHWADDR .., none⟩ => True
  | ⟨.SIOCETHTOOL .., none⟩ => True
  | _ => False

/-- What a call does. -/
inductive Outcome (i : IfInfo) (c : Call) (es : List SysEvent) : Bool → IfInfo → Prop
  | unchanged : Outcome i c es false i
  | late {e i'} (he : e ∈ es) (hl : FailsLate e) (hi : i'.m_isInit = false) : Outcome i c es false i'
  | found {i'} (h : Finds c es i') : Outcome i c es true i'

/-- The part that both searches share. -/
theorem initPtp_ends {i i' : IfInfo} {fd : Int} {ifr_name : List UInt8} {es : List SysEvent} {ok : Bool}
    (h : Ends (i.initPtp fd ifr_name) es (ok, i')) :
    (ok = false ∧ i'.m_isInit = i.m_isInit ∧ ∃ e ∈ es, FailsLate e) ∨
      ∃ (mac : Octets 6) (phc_index ret : Int), ok = true ∧
        es = [⟨.SIOCGIFHWADDR fd ifr_name, (some mac : Option (Octets 6))⟩,
          ⟨.SIOCETHTOOL fd ifr_name, (some phc_index : Option Int)⟩, ⟨.close fd, ret⟩] ∧
        i' = ⟨true, i.m_ifIndex, phc_index, i.m_ifName, mac.val⟩ := by
  obtain ⟨hwaddr, es₁, rfl, h₁⟩ := ends_sys_bind.1 h
  cases hwaddr with
  | none =>
    obtain ⟨ret, es₂, rfl, h₂⟩ := ends_sys_bind.1 h₁
    cases (ends_pure.1 h₂).2
    exact .inl ⟨rfl, rfl, _, List.mem_cons_self, trivial⟩
  | some mac =>
    obtain ⟨info, es₂, rfl, h₂⟩ := ends_sys_bind.1 h₁
    obtain ⟨ret, es₃, rfl, h₃⟩ := ends_sys_bind.1 h₂
    cases info with
    | none =>
      cases (ends_pure.1 h₃).2
      exact .inl ⟨rfl, rfl, _, List.mem_cons_of_mem _ List.mem_cons_self, trivial⟩
    | some phc_index =>
      obtain ⟨rfl, he⟩ := ends_pure.1 h₃
      cases he
      exact .inr ⟨mac, phc_index, ret, rfl, rfl, rfl⟩

theorem initUsingName_ends {i i' : IfInfo} {ifName : List UInt8} {es : List SysEvent} {ok : Bool}
    (h : Ends (i.initUsingName ifName) es (ok, i')) : Outcome i (.initUsingName ifName) es ok i' := by
  unfold initUsingName at h
  split at h
  · cases (ends_pure.1 h).2
    exact .unchanged
  · rename_i hn
    have hi : i.m_isInit = false := Bool.eq_false_iff.2 fun h => hn (.inl h)
    obtain ⟨fd, es₁, rfl, h₁⟩ := ends_sys_bind.1 h
    split at h₁
    · cases (ends_pure.1 h₁).2
      exact .unchanged
    · obtain ⟨index, es₂, rfl, h₂⟩ := ends_sys_bind.1 h₁
      cases index with
      | none =>
        obtain ⟨ret, es₃, rfl, h₃⟩ := ends_sys_bind.1 h₂
        cases (ends_pure.1 h₃).2
        exact .unchanged
      | some ifr_ifindex =>
        rcases initPtp_ends h₂ with ⟨rfl, hi', e, he, hl⟩ | ⟨mac, phc_index, ret, rfl, rfl, rfl⟩
        · exact .late (List.mem_cons_of_mem _ (List.mem_cons_of_mem _ he)) hl (hi'.trans hi)
        · exact .found (.name fd ret ifr_ifindex phc_index ifName mac)

theorem initUsingIndex_ends {i i' : IfInfo} {ifIndex : Int} {es : List SysEvent} {ok : Bool}
    (h : Ends (i.initUsingIndex ifIndex) es (ok, i')) : Outcome i (.initUsingIndex ifIndex) es ok i' := by
  unfold initUsingIndex at h
  split at h
  · cases (ends_pure.1 h).2
    exact .unchanged
  · rename_i hn
    have hi : i.m_isInit = false := Bool.eq_false_iff.2 hn
    obtain ⟨fd, es₁, rfl, h₁⟩ := ends_sys_bind.1 h
    split at h₁
    · cases (ends_pure.1 h₁).2
      exact .unchanged
    · obtain ⟨name, es₂, rfl, h₂⟩ := ends_sys_bind.1 h₁
      cases name with
      | none =>
        obtain ⟨ret, es₃, rfl, h₃⟩ := ends_sys_bind.1 h₂
        cases (ends_pure.1 h₃).2
        exact .unchanged
      | some ifr_name =>
        rcases initPtp_ends h₂ with ⟨rfl, hi', e, he, hl⟩ | ⟨mac, phc_index, ret, rfl, rfl, rfl⟩
        · exact .late (List.mem_cons_of_mem _ (List.mem_cons_of_mem _ he)) hl (hi'.trans hi)
        · exact .found (.index fd ret ifIndex phc_index ifr_name mac)

/-- What one call does. -/
theorem make_ends {i i' : IfInfo} {c : Call} {es : List SysEvent} {ok : Bool} (h : Ends (i.make c) es (ok, i')) :
    Outcome i c es ok i' := by
  cases c with
  | initUsingName ifName => exact initUsingName_ends h
  | initUsingIndex ifIndex => exact initUsingIndex_ends h

/-- What `ptp.h` says of an object that is not initialised. -/
structure Unfilled (i : IfInfo) : Prop where
  ifIndex : i.m_ifIndex = -1
  ptpIndex : i.m_ptpIndex = -1
  ifName : i.m_ifName = []
  mac : i.m_mac = []

/-- An initialised object has all of its values from one call. -/
theorem life_found {steps : List Step} {i : IfInfo} (h : Life steps i) (hi : i.m_isInit = true) :
    ∃ step ∈ steps, step.ok = true ∧ Finds step.call step.events i := by
  induction h with
  | new => cases hi
  | call _ hs ih =>
    cases make_ends hs with
    | unchanged =>
      obtain ⟨step, hm, hf⟩ := ih hi
      exact ⟨step, List.mem_append_left _ hm, hf⟩
    | late _ _ hn =>
      rw [hn] at hi
      cases hi
    | found hf => exact ⟨_, List.mem_append_right _ (List.mem_singleton_self _), rfl, hf⟩

theorem life_unfilled {steps : List Step} {i : IfInfo} (h : Life steps i)
    (hl : ∀ step ∈ steps, ∀ e ∈ step.events, ¬ FailsLate e) (hi : i.m_isInit = false) : i.Unfilled := by
  induction h with
  | new => exact ⟨rfl, rfl, rfl, rfl⟩
  | call _ hs ih =>
    cases make_ends hs with
    | unchanged => exact ih (fun step hm => hl step (List.mem_append_left _ hm)) hi
    | late he hf _ => exact absurd hf (hl _ (List.mem_append_right _ (List.mem_singleton_self _)) _ he)
    | found hf => cases hf <;> cases hi

end IfInfo

/-- While no system call fails late, an object that is not initialised is not filled. One
that is has the values of one successful call. -/
theorem interface_is_whole {steps : List IfInfo.Step} {i : IfInfo} (h : IfInfo.Life steps i)
    (hl : ∀ step ∈ steps, ∀ e ∈ step.events, ¬ IfInfo.FailsLate e) :
    (i.m_isInit = false → i.Unfilled) ∧
      (i.m_isInit = true → ∃ step ∈ steps, step.ok = true ∧ IfInfo.Finds step.call step.events i) :=
  ⟨IfInfo.life_unfilled h hl, IfInfo.life_found h⟩

def eth9Misses : List SysEvent :=
  [⟨.socket .AF_UNIX, (3 : Int)⟩, ⟨.SIOCGIFINDEX 3 (octets "eth9"), (none : Option Int)⟩, ⟨.close 3, (0 : Int)⟩]

def eth0Found : List SysEvent :=
  [⟨.socket .AF_UNIX, (3 : Int)⟩, ⟨.SIOCGIFNAME 3 2, (some (octets "eth0") : Option (List UInt8))⟩,
    ⟨.SIOCGIFHWADDR 3 (octets "eth0"), (some ⟨[2, 0, 0, 0, 0, 1], rfl⟩ : Option (Octets 6))⟩,
    ⟨.SIOCETHTOOL 3 (octets "eth0"), (some 0 : Option Int)⟩, ⟨.close 3, (0 : Int)⟩]

def eth0NoMac : List SysEvent :=
  [⟨.socket .AF_UNIX, (3 : Int)⟩, ⟨.SIOCGIFINDEX 3 (octets "eth0"), (some 2 : Option Int)⟩,
    ⟨.SIOCGIFHWADDR 3 (octets "eth0"), (none : Option (Octets 6))⟩, ⟨.close 3, (0 : Int)⟩]

def eth0 : IfInfo := ⟨true, 2, 0, octets "eth0", [2, 0, 0, 0, 0, 1]⟩

/-- A name that is not there, and then an index that is. -/
theorem interface_is_whole_eth0 :
    let steps : List IfInfo.Step :=
      [⟨.initUsingName (octets "eth9"), eth9Misses, false⟩, ⟨.initUsingIndex 2, eth0Found, true⟩]
    ∃ step ∈ steps, step.ok = true ∧ IfInfo.Finds step.call step.events eth0 := by
  intro steps
  have hmiss : Ends (IfInfo.make {} (.initUsingName (octets "eth9"))) eth9Misses (false, {}) := by
    rw [IfInfo.make, IfInfo.initUsingName, if_neg (by decide)]
    exact .call (.call (.call (.done _)))
  have hfind : Ends (IfInfo.make {} (.initUsingIndex 2)) eth0Found (true, eth0) := by
    rw [IfInfo.make, IfInfo.initUsingIndex, if_neg (by decide)]
    exact .call (.call (.call (.call (.call (.done _)))))
  refine (interface_is_whole (.call (.call .new hmiss) hfind) ?_).2 rfl
  simp [eth9Misses, eth0Found, IfInfo.FailsLate]

/-- The name and the index stay where the MAC address was not found. -/
theorem interface_is_half_filled :
    let i : IfInfo := { m_ifIndex := 2, m_ifName := octets "eth0" }
    IfInfo.Life [⟨.initUsingName (octets "eth0"), eth0NoMac, false⟩] i ∧ i.m_isInit = false ∧ ¬ i.Unfilled := by
  intro i
  have hlate : Ends (IfInfo.make {} (.initUsingName (octets "eth0"))) eth0NoMac (false, i) := by
    rw [IfInfo.make, IfInfo.initUsingName, if_neg (by decide)]
    exact .call (.call (.call (.call (.done _))))
  refine ⟨.call .new hlate, rfl, fun h => ?_⟩
  cases h.ifIndex

end LibPmc
