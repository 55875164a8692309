import LibPmc.Lookup
/-!
# The values of a configuration

The sockets and the messages take the values of a configuration without a check of their
own. Each value that `set_val` stores, and each default, is one that its key allows; so is
all that a section holds after any lines, and all that a getter gives after any files.
-/
namespace LibPmc

open Cstr

/-! ## What a key allows -/

/-- The values that those who read the configuration count on. -/
def CfgKey.Legal : (idx : CfgKey) → idx.Val → Prop
  | .transportSpecific, v => v ≤ (15 : UInt8)
  | .domainNumber, v => v ≤ (239 : UInt8)
  | .udp6_scope, v => v ≤ (15 : UInt8)
  | .udp_ttl, v => (1 : UInt8) ≤ v ∧ v ≤ (255 : UInt8)
  | .socket_priority, v => v ≤ (15 : UInt8)
  | .network_transport, v => v = (50 : UInt8) ∨ v = (52 : UInt8) ∨ v = (54 : UInt8)
  | .uds_address, v => List.head? v = some (47 : UInt8) ∧ 2 ≤ List.length v
  | .ptp_dst_mac, v => List.length v = 6 ∨ List.length v = 8
  | .p2p_dst_mac, v => List.length v = 6 ∨ List.length v = 8

theorem numValue_range {idx : CfgKey} {val : List UInt8} {v : UInt8} (h : numValue idx val = some v) :
    (ranges idx).min ≤ v ∧ v ≤ (ranges idx).max := by
  unfold numValue at h
  dsimp only at h
  split at h
  · rename_i hr
    obtain rfl := Option.some.inj h
    have hmax := (ranges idx).max.toNat_lt
    generalize ((strtol val 0).map Prod.fst).getD 0 = ret at hr
    have hlt : ret.toNat < 256 := by omega
    rw [UInt8.le_iff_toNat_le, UInt8.le_iff_toNat_le, UInt8.toNat_ofNat_of_lt' hlt]
    omega
  · cases h

theorem macValue_length {val id : List UInt8} (h : macValue val = some id) : id.length = 6 ∨ id.length = 8 := by
  unfold macValue fromMac at h
  split at h
  · rename_i hm
    split at hm
    · cases hm
    · obtain ⟨hl, rfl⟩ := Prod.mk.inj hm
      obtain rfl := Option.some.inj h
      simpa [isMacLen] using hl
  · cases h

namespace CfgKey

/-- What a text gives a key is legal. -/
theorem read_legal {idx : CfgKey} {val : List UInt8} {v : idx.Val} (h : idx.read val = some v) : idx.Legal v := by
  cases idx with
  | transportSpecific => exact (numValue_range h).2
  | domainNumber => exact (numValue_range h).2
  | udp6_scope => exact (numValue_range h).2
  | udp_ttl => exact numValue_range h
  | socket_priority => exact (numValue_range h).2
  | network_transport =>
    dsimp only [read] at h
    split at h
    · exact .inr (.inl (Option.some.inj h).symm)
    · split at h
      · exact .inr (.inr (Option.some.inj h).symm)
      · split at h
        · exact .inl (Option.some.inj h).symm
        · cases h
  | uds_address =>
    dsimp only [read] at h
    split at h
    · cases h
    · rename_i hn
      obtain rfl := Option.some.inj h
      obtain ⟨hhead, hlen⟩ := not_or.1 hn
      exact ⟨not_not.1 hhead, Nat.not_lt.1 hlen⟩
  | ptp_dst_mac => exact macValue_length h
  | p2p_dst_mac => exact macValue_length h

/-- So is every default. -/
theorem dflt_legal (idx : CfgKey) : idx.Legal idx.dflt := by
  obtain ⟨val, h⟩ := read_dflt idx
  exact read_legal h

end CfgKey

theorem keyLine_legal {line : List UInt8} {idx : CfgKey} {v : idx.Val} (h : keyLine line = some (.value idx v)) :
    idx.Legal v := by
  unfold keyLine at h
  dsimp only at h
  split at h
  · cases h
  · split at h
    · cases h
    · split at h
      · cases h
      · split at h
        · cases h
        · split at h
          · cases h
          · rename_i hr
            cases h
            exact CfgKey.read_legal hr

/-! ## What a section holds -/

/-- A line with white space in it, and what its buffer has behind its end. -/
structure SpacedLine where
  line : List UInt8
  behind : List UInt8
  space : ∃ c ∈ line, isspace c = true

def SpacedLine.buf (l : SpacedLine) : List UInt8 := l.line ++ 0 :: l.behind

namespace ConfigSection

/-- The values of the keys that are set are legal, and those of all keys where `all`. -/
def Legal (sec : ConfigSection) (all : Prop) : Prop :=
  ∀ idx : CfgKey, all ∨ sec.m_set idx = true → idx.Legal (sec.vals idx)

theorem new_legal (mem : ConfigSection) : (new mem).Legal False := by
  rintro idx (h | h)
  · exact h.elim
  · cases h

theorem setGlobal_legal (sec : ConfigSection) (all : Prop) : sec.setGlobal.Legal all := by
  intro idx _
  rw [setGlobal_vals]
  exact idx.dflt_legal

theorem Legal.mono {sec : ConfigSection} {all all' : Prop} (h : sec.Legal all) (ha : all' → all) : sec.Legal all' :=
  fun idx hi => h idx (hi.imp_left ha)

/-- A line that is refused changes nothing. -/
theorem set_val_refused {sec sec' : ConfigSection} {line : List UInt8} (h : sec.set_val line = some (false, sec')) :
    sec' = sec := by
  unfold set_val at h
  split at h <;> simp at h
  exact h.symm

/-- What any line leaves is legal. -/
theorem set_val_legal {sec sec' : ConfigSection} {all : Prop} {line : List UInt8} {ok : Bool}
    (h : sec.set_val line = some (ok, sec')) (hs : sec.Legal all) : sec'.Legal all := by
  unfold set_val at h
  split at h
  · cases h
  · cases h
    exact hs
  · cases h
    exact hs
  · rename_i idx v hline
    cases h
    intro j hj
    change all ∨ Function.update sec.m_set idx true j = true at hj
    change j.Legal (Function.update sec.vals idx v j)
    by_cases hij : j = idx
    · subst hij
      rw [Function.update_self]
      exact keyLine_legal hline
    · rw [Function.update_of_ne hij] at hj ⊢
      exact hs j hj

/-- `set_val` is defined for a line that has white space, whatever is behind its end. -/
theorem set_val_defined (sec : ConfigSection) {line : List UInt8} (hl : ∃ c ∈ line, isspace c = true)
    (behind : List UInt8) : ∃ r, sec.set_val (line ++ 0 :: behind) = some r := by
  obtain ⟨k, hk⟩ := keyLine_append hl
  unfold set_val
  rw [hk]
  cases k with
  | unknown => exact ⟨_, rfl⟩
  | wrong => exact ⟨_, rfl⟩
  | value idx v => exact ⟨_, rfl⟩

/-- The calls of `set_val` one after the other, whatever each of them returns. -/
def setAll (sec : ConfigSection) : List (List UInt8) → Option ConfigSection
  | [] => some sec
  | line :: lines =>
    match sec.set_val line with
    | none => none
    | some (_, sec) => sec.setAll lines

/-- Along a run the values stay legal. -/
theorem setAll_legal {sec : ConfigSection} {all : Prop} (hs : sec.Legal all) (lines : List SpacedLine) :
    ∃ sec', sec.setAll (lines.map SpacedLine.buf) = some sec' ∧ sec'.Legal all := by
  induction lines generalizing sec with
  | nil => exact ⟨sec, rfl, hs⟩
  | cons l lines ih =>
    obtain ⟨⟨ok, sec'⟩, h⟩ := set_val_defined sec l.space l.behind
    obtain ⟨sec'', h', hl⟩ := ih (set_val_legal h hs)
    refine ⟨sec'', ?_, hl⟩
    rw [List.map_cons, setAll, SpacedLine.buf, h]
    exact h'

end ConfigSection

/-- The values of the keys that are set are in their ranges after any lines on a new
section, and those of all keys after any lines on one with the defaults. -/
theorem values_in_range (lines : List SpacedLine) :
    (∀ mem : ConfigSection, ∃ sec, (ConfigSection.new mem).setAll (lines.map SpacedLine.buf) = some sec ∧
      ∀ idx, sec.m_set idx = true → idx.Legal (sec.vals idx)) ∧
    (∀ sec₀ : ConfigSection, ∃ sec, sec₀.setGlobal.setAll (lines.map SpacedLine.buf) = some sec ∧
      ∀ idx : CfgKey, idx.Legal (sec.vals idx)) ∧
    ∀ (sec sec' : ConfigSection) (line : SpacedLine), sec.set_val line.buf = some (false, sec') → sec' = sec := by
  refine ⟨fun mem => ?_, fun sec₀ => ?_, fun sec sec' line h => ConfigSection.set_val_refused h⟩
  · obtain ⟨sec, h, hl⟩ := ConfigSection.setAll_legal (ConfigSection.new_legal mem) lines
    exact ⟨sec, h, fun idx hi => hl idx (.inr hi)⟩
  · obtain ⟨sec, h, hl⟩ := ConfigSection.setAll_legal (sec₀.setGlobal_legal True) lines
    exact ⟨sec, h, fun idx => hl idx (.inl trivial)⟩

/-! ## What a getter gives -/

namespace ConfigFile

variable {alloc : Allocator} {c : ConfigFile}

/-- `cfgGlobal` is bound to a living node, with legal values in every key, and what the
other sections set is legal. -/
structure Legal (c : ConfigFile) : Prop where
  global : c.cfgGlobal ∈ c.cfgSec.addrs
  values : (c.mem c.cfgGlobal).Legal True
  sections : ∀ a ∈ c.cfgSec.addrs, (c.mem a).Legal False

/-- A node with other contents. -/
theorem Legal.update {sec : ConfigSection} (h : c.Legal) {a : Addr} (hs : ∀ all, (c.mem a).Legal all → sec.Legal all)
    (ha : a ∈ c.cfgSec.addrs) : Legal { c with mem := Function.update c.mem a sec } := by
  refine ⟨h.global, ?_, fun b hb => ?_⟩
  · by_cases hg : c.cfgGlobal = a
    · subst hg
      simpa using hs True h.values
    · simpa [Function.update_of_ne hg] using h.values
  · by_cases hba : b = a
    · subst hba
      simpa using hs False (h.sections b ha)
    · simpa [Function.update_of_ne hba] using h.sections b hb

/-- `cfgSec[name]` makes a section that sets nothing. -/
theorem Legal.sec (h : c.Legal) (alloc : Allocator) (name : List UInt8) :
    (c.sec alloc name).2.Legal ∧ (c.sec alloc name).1 ∈ (c.sec alloc name).2.cfgSec.addrs := by
  unfold ConfigFile.sec
  split
  · rename_i a hf
    exact ⟨h, Sections.addr_of_find hf⟩
  · have hfresh := alloc.fresh c.count c.cfgSec.addrs
    refine ⟨⟨List.mem_cons_of_mem _ h.global, ?_, fun b hb => ?_⟩, List.mem_cons_self⟩
    · have hg : c.cfgGlobal ≠ alloc.addr c.count c.cfgSec.addrs := fun he => hfresh (he ▸ h.global)
      simpa [Function.update_of_ne hg] using h.values
    · by_cases hb' : b = alloc.addr c.count c.cfgSec.addrs
      · subst hb'
        simpa using ConfigSection.new_legal _
      · have hmem : b ∈ c.cfgSec.addrs := (List.mem_cons.1 hb).resolve_left hb'
        simpa [Function.update_of_ne hb'] using h.sections b hmem

/-- A map of the section `"global"` alone, with the defaults. -/
theorem legal_global (hm : c.cfgSec.addrs = [c.cfgGlobal]) (sec : ConfigSection) :
    Legal { c with mem := Function.update c.mem c.cfgGlobal sec.setGlobal } := by
  have hg : c.cfgGlobal ∈ c.cfgSec.addrs := by simp [hm]
  refine ⟨hg, ?_, fun a ha => ?_⟩
  · simpa using sec.setGlobal_legal True
  · obtain rfl : a = c.cfgGlobal := by simpa [hm] using ha
    simpa using sec.setGlobal_legal False

theorem new_legal (alloc : Allocator) (mem : Addr → ConfigSection) : (new alloc mem).Legal :=
  legal_global (c := { (sec alloc ⟨.empty, 0, mem, 0⟩ globalSection).2 with cfgGlobal := alloc.addr 0 [] }) rfl _

theorem reset_legal {c' : ConfigFile} (h : c.reset alloc = some c') : c'.Legal := by
  unfold reset at h
  dsimp only at h
  split at h
  · cases h
  · rename_i hg
    cases h
    -- the only node of the new map
    obtain hg : c.cfgGlobal = alloc.addr c.count [] := List.mem_singleton.1 (not_not.1 hg)
    exact legal_global (c := (sec alloc { c with cfgSec := .empty } globalSection).2)
      (congrArg (fun a => [a]) hg.symm) _

theorem readLines_legal {curSection : List UInt8} {bufs : List (List UInt8)} {ok : Bool} {c' : ConfigFile}
    (h : c.Legal) (hr : c.readLines alloc curSection bufs = some (ok, c')) : c'.Legal := by
  induction bufs generalizing c curSection with
  | nil =>
    cases hr
    exact h
  | cons buf bufs ih =>
    simp only [readLines] at hr
    split at hr
    · split at hr
      · cases hr
        exact h
      · exact ih h hr
    · split at hr
      · obtain ⟨hs, ha⟩ := h.sec alloc curSection
        split at hr
        · cases hr
        · rename_i hset
          cases hr
          exact hs.update (fun all => ConfigSection.set_val_legal hset) ha
        · rename_i hset
          exact ih (hs.update (fun all => ConfigSection.set_val_legal hset) ha) hr
      · exact ih h hr

theorem read_cfg_legal {f : CfgText} {ok : Bool} {c' : ConfigFile} (h : c.Legal)
    (hr : c.read_cfg alloc f = some (ok, c')) : c'.Legal := by
  unfold read_cfg at hr
  split at hr
  · cases hr
    exact h
  · split at hr
    · cases hr
    · rename_i hreset
      exact readLines_legal (reset_legal hreset) hr

/-- A getter gives what its key allows. -/
theorem Legal.get (h : c.Legal) (idx : CfgKey) (section_ : List UInt8) :
    ∃ v, c.get idx section_ = some v ∧ idx.Legal v := by
  unfold ConfigFile.get
  split
  · rw [if_pos h.global]
    exact ⟨_, rfl, h.values idx (.inl trivial)⟩
  · rename_i hg
    rcases hf : c.cfgSec.find section_ with _ | a
    · simp [is_global, hf] at hg
    · refine ⟨_, rfl, h.sections a (Sections.addr_of_find hf) idx (.inr ?_)⟩
      simp only [is_global, hf, Bool.or_eq_true, not_or, Bool.not_eq_true', Bool.not_eq_false] at hg
      exact hg.2

end ConfigFile

/-- The states that the calls of a `ConfigFile` leave it in. -/
abbrev Config := { c : ConfigFile // c.Legal }

namespace Config

def new (alloc : Allocator) (mem : Addr → ConfigSection) : Config := ⟨.new alloc mem, ConfigFile.new_legal alloc mem⟩

def read_cfg (alloc : Allocator) (c : Config) (f : CfgText) : Option (Bool × Config) :=
  match h : c.1.read_cfg alloc f with
  | none => none
  | some (ok, c') => some (ok, ⟨c', ConfigFile.read_cfg_legal c.2 h⟩)

theorem get_isSome (c : Config) (idx : CfgKey) (section_ : List UInt8) : (c.1.get idx section_).isSome = true := by
  obtain ⟨v, hv, -⟩ := c.2.get idx section_
  rw [hv]
  rfl

/-- The getters. -/
def val (c : Config) (idx : CfgKey) (section_ : List UInt8) : idx.Val :=
  (c.1.get idx section_).get (c.get_isSome idx section_)

theorem get_eq (c : Config) (idx : CfgKey) (section_ : List UInt8) : c.1.get idx section_ = some (c.val idx section_) :=
  (Option.some_get _).symm

theorem val_legal (c : Config) (idx : CfgKey) (section_ : List UInt8) : idx.Legal (c.val idx section_) := by
  obtain ⟨v, hv, hl⟩ := c.2.get idx section_
  rw [get_eq] at hv
  rwa [Option.some.inj hv]

/-- The section sets the key to another value than `[global]` has. -/
def Overrides (c : Config) (idx : CfgKey) (section_ : List UInt8) : Prop :=
  section_ ≠ [] ∧ ∃ a, c.1.cfgSec.find section_ = some a ∧ (c.1.mem a).m_set idx = true ∧
    (c.1.mem a).vals idx ≠ (c.1.mem c.1.cfgGlobal).vals idx

theorem val_global (c : Config) (idx : CfgKey) : c.val idx [] = (c.1.mem c.1.cfgGlobal).vals idx := by
  have hg := c.get_eq idx []
  unfold ConfigFile.get at hg
  rw [if_pos (show c.1.is_global idx [] = true from rfl), if_pos c.2.global] at hg
  exact (Option.some.inj hg).symm

/-- A getter gives what `[global]` has, unless the section overrides it. -/
theorem val_eq_global_iff (c : Config) (idx : CfgKey) (section_ : List UInt8) :
    c.val idx section_ = c.val idx [] ↔ ¬ c.Overrides idx section_ := by
  have hg := c.get_eq idx section_
  unfold ConfigFile.get at hg
  rw [val_global]
  split at hg
  · rename_i h
    rw [if_pos c.2.global] at hg
    refine iff_of_true (Option.some.inj hg).symm ?_
    rintro ⟨hne, a, hf, hset, -⟩
    simp [ConfigFile.is_global, hf, hset, hne] at h
  · rename_i h
    obtain ⟨a, hf, ha⟩ := Option.map_eq_some_iff.1 hg
    simp only [ConfigFile.is_global, hf, Bool.or_eq_true, not_or, Bool.not_eq_true', Bool.not_eq_false,
      List.isEmpty_iff] at h
    rw [← ha]
    constructor
    · rintro he ⟨-, b, hb, -, hne⟩
      obtain rfl := Option.some.inj (hf.symm.trans hb)
      exact hne he
    · intro ho
      by_contra hne
      exact ho ⟨h.1, a, hf, h.2, hne⟩

end Config

end LibPmc
