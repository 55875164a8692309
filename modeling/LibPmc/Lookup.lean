import LibPmc.Cfg
import Mathlib.Data.List.Nodup
import Mathlib.Algebra.Order.BigOperators.Group.List
import Mathlib.Algebra.Order.Ring.Nat
/-!
# Configuration lookup

What a file says is the list of the settings in its lines: a section, a key and a value each.
After a `read_cfg`, a getter gives the last setting of the key in the section, or else in
`[global]`, or else the default, as long as the node of `"global"` gets the address that
`cfgGlobal` is bound to, and the pieces of a line that is longer than the buffer say no more than
the line.
-/
namespace LibPmc

open Cstr

/-! ## What a file says -/

structure Setting where
  sec : List UInt8
  key : CfgKey
  value : key.Val

/-- What a line says. -/
inductive CfgLine where
  | nothing
  | header (name : List UInt8)
  | wrong
  | setting (idx : CfgKey) (v : idx.Val)

/-- The line on its own, with nothing behind it. -/
def CfgLine.of (line : List UInt8) : CfgLine :=
  let cur : List UInt8 := (line ++ [0]).dropWhile isspace
  if cur.headD 0 = 91 then
    match ConfigFile.header cur.tail with
    | none => .wrong
    | some name => .header name
  else if cur.headD 0 ≠ 0 ∧ cur.headD 0 ≠ 35 then
    match keyLine cur with
    | some .unknown => .nothing
    | some (.value idx v) => .setting idx v
    | _ => .wrong
  else .nothing

/-- The settings of the lines, in their order, unless one of them is wrong. -/
def settings (curSection : List UInt8) : List (List UInt8) → Option (List Setting)
  | [] => some []
  | line :: rest =>
    match CfgLine.of line with
    | .nothing => settings curSection rest
    | .header name => settings name rest
    | .wrong => none
    | .setting idx v => (⟨curSection, idx, v⟩ :: ·) <$> settings curSection rest

/-- The settings of a file. The lines before any header are in `[global]`. -/
def fileSettings (text : List UInt8) : Option (List Setting) := settings globalSection (wholeLines text)

def Setting.valueOf (s : Setting) (name : List UInt8) (idx : CfgKey) : Option idx.Val :=
  if h : s.sec = name ∧ s.key = idx then some (h.2 ▸ s.value) else none

/-- The last value of the key in the section. -/
def lastIn (name : List UInt8) (idx : CfgKey) : List Setting → Option idx.Val
  | [] => none
  | s :: rest => (lastIn name idx rest).or (s.valueOf name idx)

/-- The built-in defaults. -/
def CfgKey.dflt : (idx : CfgKey) → idx.Val
  | .transportSpecific => (0 : UInt8)
  | .domainNumber => (0 : UInt8)
  | .udp6_scope => (0xe : UInt8)
  | .udp_ttl => (1 : UInt8)
  | .socket_priority => (0 : UInt8)
  | .network_transport => (52 : UInt8)
  | .uds_address => octets "/var/run/ptp4l"
  | .ptp_dst_mac => [0x01, 0x1b, 0x19, 0, 0, 0]
  | .p2p_dst_mac => [0x01, 0x80, 0xc2, 0, 0, 0x0e]

/-- What a getter is to give. One that is called without a section asks for `[global]`. -/
def expected (l : List Setting) (idx : CfgKey) (section_ : List UInt8) : idx.Val :=
  ((if section_ = [] then none else lastIn section_ idx l).or (lastIn globalSection idx l)).getD idx.dflt

theorem lastIn_append (name : List UInt8) (idx : CfgKey) (l r : List Setting) :
    lastIn name idx (l ++ r) = (lastIn name idx r).or (lastIn name idx l) := by
  induction l with
  | nil => simp [lastIn]
  | cons s l ih => simp only [List.cons_append, lastIn, ih, Option.or_assoc]

/-- Every default is one that its key accepts. -/
theorem read_dflt : ∀ idx : CfgKey, ∃ val, idx.read val = some idx.dflt := by
  intro idx
  cases idx with
  | transportSpecific => exact ⟨octets "0", by decide⟩
  | domainNumber => exact ⟨octets "0", by decide⟩
  | udp6_scope => exact ⟨octets "0xe", by decide⟩
  | udp_ttl => exact ⟨octets "1", by decide⟩
  | socket_priority => exact ⟨octets "0", by decide⟩
  | network_transport => exact ⟨octets "UDPv4", by decide⟩
  | uds_address => exact ⟨uds_address_def, by decide⟩
  | ptp_dst_mac => exact ⟨ptp_dst_mac_def, by decide⟩
  | p2p_dst_mac => exact ⟨p2p_dst_mac_def, by decide⟩

/-- `setGlobal` sets the defaults, whatever there was. -/
theorem setGlobal_vals (sec : ConfigSection) (idx : CfgKey) : sec.setGlobal.vals idx = idx.dflt := by
  cases idx with
  | ptp_dst_mac =>
    change (fromMac (sec.vals .ptp_dst_mac) ptp_dst_mac_def).2 = _
    rw [fromMac, show fromId ptp_dst_mac_def = some [0x01, 0x1b, 0x19, 0, 0, 0] by decide]
    rfl
  | p2p_dst_mac =>
    change (fromMac (sec.vals .p2p_dst_mac) p2p_dst_mac_def).2 = _
    rw [fromMac, show fromId p2p_dst_mac_def = some [0x01, 0x80, 0xc2, 0, 0, 0x0e] by decide]
    rfl
  | _ => rfl

/-! ## The buffer behind a line -/

/-- The line is a comment, a header or blank, or its key ends before the line does. -/
def LineEnds (line : List UInt8) : Prop :=
  let cur := line.dropWhile isspace
  cur.headD 0 = 0 ∨ cur.headD 0 = 35 ∨ cur.headD 0 = 91 ∨ ∃ c ∈ cur, isspace c = true

/-- So does every line up to the first wrong one. -/
def LinesEnd : List (List UInt8) → Prop
  | [] => True
  | line :: rest => LineEnds line ∧ (CfgLine.of line ≠ .wrong → LinesEnd rest)

/-- Of the pieces that `fgets` gives of the line, the first says what the line says, and the others
say nothing. -/
def ReadWhole (line : List UInt8) : Prop :=
  ∃ piece rest, lines 511 line = piece :: rest ∧ LineEnds piece ∧ CfgLine.of piece = CfgLine.of line ∧
    (CfgLine.of line ≠ .wrong → ∀ q ∈ rest, LineEnds q ∧ CfgLine.of q = .nothing)

/-- So it is with every line up to the first wrong one. -/
def LinesWhole : List (List UInt8) → Prop
  | [] => True
  | line :: rest => ReadWhole line ∧ (CfgLine.of line ≠ .wrong → LinesWhole rest)

/-- A line with room in the buffer. -/
theorem readWhole_of_fits {line : List UInt8} (hne : line ≠ []) (hl : line.length ≤ 511) (h10 : 10 ∉ line.dropLast)
    (h : LineEnds line) : ReadWhole line :=
  ⟨line, [], lines_of_fits hne hl h10, h, rfl, fun _ q hq => by cases hq⟩

section Quiet
variable {ps ls : List (List UInt8)} (h : ∀ q ∈ ps, LineEnds q ∧ CfgLine.of q = .nothing)
include h

theorem linesEnd_quiet (hl : LinesEnd ls) : LinesEnd (ps ++ ls) := by
  induction ps with
  | nil => exact hl
  | cons q ps ih =>
    rw [List.forall_mem_cons] at h
    exact ⟨h.1.1, fun _ => ih h.2⟩

theorem settings_quiet (curSection : List UInt8) : settings curSection (ps ++ ls) = settings curSection ls := by
  induction ps with
  | nil => rfl
  | cons q ps ih =>
    rw [List.forall_mem_cons] at h
    rw [List.cons_append, settings, h.1.2]
    exact ih h.2

end Quiet

/-- The pieces say what the lines say. -/
theorem LinesWhole.pieces {ls : List (List UInt8)} (h : LinesWhole ls) :
    LinesEnd (ls.flatMap (lines 511)) ∧
      ∀ curSection, settings curSection (ls.flatMap (lines 511)) = settings curSection ls := by
  induction ls with
  | nil => exact ⟨trivial, fun _ => rfl⟩
  | cons line ls ih =>
    obtain ⟨⟨piece, rest, hp, hends, hof, hquiet⟩, hrest⟩ := h
    rw [List.flatMap_cons, hp, List.cons_append]
    refine ⟨⟨hends, fun hw => ?_⟩, fun curSection => ?_⟩
    · rw [hof] at hw
      exact linesEnd_quiet (hquiet hw) (ih (hrest hw)).1
    · rw [settings, settings, hof]
      by_cases hw : CfgLine.of line = .wrong
      · rw [hw]
      · simp only [settings_quiet (hquiet hw), (ih (hrest hw)).2]

theorem header_append (s r : List UInt8) : ConfigFile.header (s ++ 0 :: r) = ConfigFile.header (s ++ [0]) := by
  simp only [ConfigFile.header, dropWhile_stop isspace_zero, takeWhile_stop isspace_zero, cstr_append]

/-- A key that ends in its line says the same whatever is behind the line. -/
theorem keyLine_append {s : List UInt8} (h : ∃ c ∈ s, isspace c = true) :
    ∃ k, ∀ r, keyLine (s ++ 0 :: r) = some k := by
  have hstop : ∃ c ∈ s, (!isspace c) = false := h.imp fun c hc => ⟨hc.1, by simp [hc.2]⟩
  obtain ⟨x, t, ht⟩ : ∃ x t, s.dropWhile (fun c => !isspace c) = x :: t := by
    refine List.exists_cons_of_ne_nil fun he => ?_
    obtain ⟨c, hc, hn⟩ := hstop
    exact absurd (List.dropWhile_eq_nil_iff.1 he c hc) (by simp [hn])
  have hval (r : List UInt8) : (t ++ 0 :: r).dropWhile isspace = t.dropWhile isspace ++ 0 :: r :=
    dropWhile_stop isspace_zero _ _
  simp only [keyLine, takeWhile_append_of_stop hstop, dropWhile_append_of_stop hstop, ht, List.cons_append,
    List.tail_cons,
    hval, cstr_append, List.mem_append, List.mem_cons, true_or, or_true, not_true_eq_false, reduceCtorEq, if_false]
  split
  · exact ⟨_, fun _ => rfl⟩
  · split
    · exact ⟨_, fun _ => rfl⟩
    · split <;> exact ⟨_, fun _ => rfl⟩

/-! ## What the sections hold -/

namespace Sections
variable {s : Sections} {name other : List UInt8} {a : Addr}

theorem mem_of_find (h : s.find name = some a) : (name, a) ∈ s.nodes := by
  obtain ⟨⟨n, b⟩, hf, rfl⟩ := Option.map_eq_some_iff.1 h
  have hn : n = name := by simpa using List.find?_some hf
  exact hn ▸ List.mem_of_find?_eq_some hf

theorem addr_of_find (h : s.find name = some a) : a ∈ s.addrs := List.mem_map.2 ⟨_, mem_of_find h, rfl⟩

/-- Two names do not share a node. -/
theorem find_inj (h : s.find name = some a) (h' : s.find other = some a) : name = other :=
  congrArg Prod.fst (List.inj_on_of_nodup_map s.addrs_nodup (mem_of_find h) (mem_of_find h') rfl)

theorem find_insert (h : a ∉ s.addrs) (other : List UInt8) :
    (s.insert name a h).find other = if name = other then some a else s.find other := by
  unfold find insert
  rw [List.find?_cons]
  by_cases hn : name = other <;> simp [hn]

end Sections

namespace ConfigFile

/-- What the section itself shows of a key. -/
def shown (c : ConfigFile) (name : List UInt8) (idx : CfgKey) : Option idx.Val :=
  (c.cfgSec.find name).bind fun a => if (c.mem a).m_set idx then some ((c.mem a).vals idx) else none

/-- The sections hold these settings, and `cfgGlobal` is the one of `"global"`. -/
structure Holds (c : ConfigFile) (l : List Setting) : Prop where
  global : c.cfgSec.find globalSection = some c.cfgGlobal
  values : ∀ name, name ≠ globalSection → ∀ idx, c.shown name idx = lastIn name idx l
  defaults : ∀ idx, (c.mem c.cfgGlobal).vals idx = (lastIn globalSection idx l).getD idx.dflt

variable {alloc : Allocator} {c : ConfigFile} {l : List Setting} {name : List UInt8}

/-- `cfgSec[name]` makes a section that shows nothing. -/
theorem Holds.sec (h : Holds c l) (alloc : Allocator) (name : List UInt8) :
    Holds (c.sec alloc name).2 l ∧ (c.sec alloc name).2.cfgSec.find name = some (c.sec alloc name).1 := by
  unfold ConfigFile.sec
  rcases hf : c.cfgSec.find name with _ | a
  · have hfresh := alloc.fresh c.count c.cfgSec.addrs
    have hne : name ≠ globalSection := fun he => by rw [he, h.global] at hf; cases hf
    have hother (other : List UInt8) (b : Addr) (hb : c.cfgSec.find other = some b) :
      b ≠ alloc.addr c.count c.cfgSec.addrs :=
      fun he => hfresh (he ▸ Sections.addr_of_find hb)
    refine ⟨⟨?_, fun other ho idx => ?_, fun idx => ?_⟩, ?_⟩
    · rw [Sections.find_insert, if_neg hne]
      exact h.global
    · rw [← h.values other ho idx]
      unfold shown
      simp only [Sections.find_insert]
      by_cases hn : name = other
      · subst hn
        simp [hf, ConfigSection.new]
      · rw [if_neg hn]
        rcases hb : c.cfgSec.find other with _ | b
        · rfl
        · simp [Function.update_of_ne (hother other b hb)]
    · rw [← h.defaults idx]
      simp [Function.update_of_ne (hother _ _ h.global)]
    · rw [Sections.find_insert, if_pos rfl]
  · exact ⟨h, hf⟩

/-- A section that is set does as the list with that setting at its end. -/
theorem Holds.put (h : Holds c l) {a : Addr} (hf : c.cfgSec.find name = some a) (idx : CfgKey) (v : idx.Val) :
    Holds { c with
      mem := Function.update c.mem a
        { (c.mem a).put idx v with m_set := Function.update (c.mem a).m_set idx true } } (l ++ [⟨name, idx, v⟩]) := by
  have hlast (other : List UInt8) (j : CfgKey) :
      lastIn other j (l ++ [⟨name, idx, v⟩]) = ((⟨name, idx, v⟩ : Setting).valueOf other j).or (lastIn other j l) := by
    rw [lastIn_append]
    simp [lastIn]
  have hself : (⟨name, idx, v⟩ : Setting).valueOf name idx = some v := by simp [Setting.valueOf]
  have hnone {other : List UInt8} {j : CfgKey} (hn : name ≠ other ∨ idx ≠ j) :
      (⟨name, idx, v⟩ : Setting).valueOf other j = none := by
    simp only [Setting.valueOf]
    rw [dif_neg fun hh => hn.elim (absurd hh.1) (absurd hh.2)]
  refine ⟨h.global, fun other ho j => ?_, fun j => ?_⟩
  · rw [hlast, ← h.values other ho j]
    unfold shown
    by_cases hn : name = other
    · subst hn
      by_cases hj : idx = j
      · subst hj
        simp [hself, hf, ConfigSection.put]
      · simp [hnone (.inr hj), hf, ConfigSection.put, Function.update_of_ne (Ne.symm hj)]
    · rw [hnone (.inl hn)]
      rcases hb : c.cfgSec.find other with _ | b
      · simp
      · have hba : b ≠ a := fun he => hn (Sections.find_inj hf (he ▸ hb))
        simp [Function.update_of_ne hba]
  · rw [hlast]
    have hd := h.defaults j
    by_cases hn : name = globalSection
    · subst hn
      obtain rfl : c.cfgGlobal = a := Option.some.inj (h.global.symm.trans hf)
      by_cases hj : idx = j
      · subst hj
        simp [hself, ConfigSection.put]
      · simp [hnone (.inr hj), ConfigSection.put, Function.update_of_ne (Ne.symm hj), hd]
    · have hga : c.cfgGlobal ≠ a := fun he => hn (Sections.find_inj hf (he ▸ h.global))
      simp [hnone (.inl hn), Function.update_of_ne hga, hd]

/-- A getter gives what the settings say. -/
theorem Holds.get (h : Holds c l) (idx : CfgKey) (section_ : List UInt8) :
    c.get idx section_ = some (expected l idx section_) := by
  have hglobal : (if c.cfgGlobal ∈ c.cfgSec.addrs then some ((c.mem c.cfgGlobal).vals idx) else none) =
      some ((lastIn globalSection idx l).getD idx.dflt) := by
    rw [if_pos (Sections.addr_of_find h.global), h.defaults]
  unfold ConfigFile.get is_global expected
  by_cases hempty : section_ = []
  · subst hempty
    simpa using hglobal
  by_cases hsec : section_ = globalSection
  · subst hsec
    have hor : (lastIn globalSection idx l).or (lastIn globalSection idx l) = lastIn globalSection idx l := by simp
    rw [if_neg hempty, hor]
    rcases hset : (c.mem c.cfgGlobal).m_set idx with _ | _
    · simpa [h.global, hset] using hglobal
    · simp [h.global, hset, h.defaults, show globalSection ≠ [] by decide]
  · have hv := h.values section_ hsec idx
    unfold shown at hv
    rw [if_neg hempty, ← hv]
    rcases hf : c.cfgSec.find section_ with _ | a
    · simpa using hglobal
    · rcases hset : (c.mem a).m_set idx with _ | _
      · simpa [hempty, hset] using hglobal
      · simp [hempty, hset]

/-- The first section of an empty map. -/
theorem find_sec_empty (alloc : Allocator) (c : ConfigFile) (name other : List UInt8) :
    (sec alloc { c with cfgSec := .empty } name).2.cfgSec.find other =
      if name = other then some (alloc.addr c.count []) else none :=
  Sections.find_insert (alloc.fresh c.count []) other

theorem holds_global (hf : ∀ other, c.cfgSec.find other = if globalSection = other then some c.cfgGlobal else none)
    (sec : ConfigSection) : Holds { c with mem := Function.update c.mem c.cfgGlobal sec.setGlobal } [] := by
  refine ⟨?_, fun name hn idx => ?_, fun idx => ?_⟩
  · rw [hf, if_pos rfl]
  · unfold shown
    rw [hf, if_neg (Ne.symm hn)]
    rfl
  · change (Function.update c.mem c.cfgGlobal sec.setGlobal c.cfgGlobal).vals idx = idx.dflt
    rw [Function.update_self, setGlobal_vals]

theorem new_holds (mem : Addr → ConfigSection) : Holds (new alloc mem) [] :=
  holds_global (c := { (sec alloc ⟨.empty, 0, mem, 0⟩ globalSection).2 with
    cfgGlobal := (sec alloc ⟨.empty, 0, mem, 0⟩ globalSection).1 })
    (find_sec_empty alloc ⟨.empty, 0, mem, 0⟩ globalSection) _

/-- Where the node of `"global"` comes back to its address, the old configuration is gone. -/
theorem reset_holds (ha : alloc.addr c.count [] = c.cfgGlobal) :
    ∃ c', c.reset alloc = some c' ∧ Holds c' [] ∧ c'.cfgGlobal = c.cfgGlobal := by
  have hf := find_sec_empty alloc c globalSection
  rw [ha] at hf
  have hmem := Sections.addr_of_find ((hf globalSection).trans (if_pos rfl))
  exact ⟨_, if_neg (not_not.2 hmem), holds_global hf _, rfl⟩

/-- Where it comes to another one, the old node is written after its end. -/
theorem reset_dangles (ha : alloc.addr c.count [] ≠ c.cfgGlobal) : c.reset alloc = none :=
  if_pos fun h => ha (List.mem_singleton.1 h).symm

/-! ## Reading the lines -/

/-- What one line does. -/
theorem readLines_line (alloc : Allocator) (h : Holds c l) {line : List UInt8} (hl : LineEnds line)
    (stale curSection : List UInt8) (bufs : List (List UInt8)) :
    match CfgLine.of line with
    | .nothing => ∃ c', Holds c' l ∧
        c.readLines alloc curSection ((line ++ 0 :: stale) :: bufs) = c'.readLines alloc curSection bufs
    | .header name => c.readLines alloc curSection ((line ++ 0 :: stale) :: bufs) = c.readLines alloc name bufs
    | .wrong => ∃ c', c.readLines alloc curSection ((line ++ 0 :: stale) :: bufs) = some (false, c')
    | .setting idx v => ∃ c', Holds c' (l ++ [⟨curSection, idx, v⟩]) ∧
        c.readLines alloc curSection ((line ++ 0 :: stale) :: bufs) = c'.readLines alloc curSection bufs := by
  have hcur (r : List UInt8) : (line ++ 0 :: r).dropWhile isspace = line.dropWhile isspace ++ 0 :: r :=
    dropWhile_stop isspace_zero _ _
  unfold CfgLine.of LineEnds at *
  simp only [readLines, hcur]
  generalize line.dropWhile isspace = cur at hl
  have hhead (r : List UInt8) : (cur ++ 0 :: r).headD 0 = cur.headD 0 := by cases cur <;> rfl
  simp only [hhead]
  by_cases h91 : cur.headD 0 = 91
  · simp only [if_pos h91]
    obtain ⟨s, rfl⟩ : ∃ s, cur = 91 :: s := by
      cases cur with
      | nil => cases h91
      | cons x s => exact ⟨s, congrArg (· :: s) h91⟩
    simp only [List.cons_append, List.tail_cons, header_append s stale]
    rcases header (s ++ [0]) with _ | name
    · exact ⟨_, rfl⟩
    · rfl
  · simp only [if_neg h91]
    by_cases hkey : cur.headD 0 ≠ 0 ∧ cur.headD 0 ≠ 35
    · simp only [if_pos hkey]
      have hspace : ∃ c ∈ cur, isspace c = true := ((hl.resolve_left hkey.1).resolve_left hkey.2).resolve_left h91
      obtain ⟨hs, hf⟩ := h.sec alloc curSection
      obtain ⟨k, hk⟩ := keyLine_append hspace
      simp only [ConfigSection.set_val, hk]
      rcases k with _ | _ | ⟨idx, v⟩
      · simp only [Function.update_eq_self]
        exact ⟨_, hs, rfl⟩
      · exact ⟨_, rfl⟩
      · exact ⟨_, hs.put hf idx v, rfl⟩
    · simp only [if_neg hkey]
      exact ⟨c, h, rfl⟩

/-- What all of the lines do: the file is accepted where none of them is wrong. -/
theorem readLines_holds (alloc : Allocator) (h : Holds c l) {lines : List (List UInt8)}
    (hl : LinesEnd lines) (curSection : List UInt8) (stale : Nat → List UInt8) :
    ∃ c', c.readLines alloc curSection (lines.mapIdx fun i line => line ++ 0 :: stale i) =
        some ((settings curSection lines).isSome, c') ∧
      ∀ l' ∈ settings curSection lines, Holds c' (l ++ l') := by
  induction lines generalizing c l curSection stale with
  | nil => exact ⟨c, rfl, fun l' hl' => by obtain rfl := Option.some.inj hl'; simpa using h⟩
  | cons line rest ih =>
    obtain ⟨hline, hrest⟩ := hl
    have hstep := readLines_line alloc h hline (stale 0) curSection
      (rest.mapIdx fun i line => line ++ 0 :: stale (i + 1))
    rw [List.mapIdx_cons, settings]
    rcases hof : CfgLine.of line with _ | name | _ | ⟨idx, v⟩ <;> rw [hof] at hstep hrest
    · obtain ⟨c', hc', heq⟩ := hstep
      rw [heq]
      exact ih hc' (hrest (by simp)) curSection _
    · rw [hstep]
      exact ih h (hrest (by simp)) name _
    · obtain ⟨c', heq⟩ := hstep
      exact ⟨c', heq, by simp⟩
    · obtain ⟨c', hc', heq⟩ := hstep
      obtain ⟨c'', heq', hall⟩ := ih hc' (hrest (by simp)) curSection (fun i => stale (i + 1))
      refine ⟨c'', by rw [heq, heq']; simp, fun l' hl' => ?_⟩
      obtain ⟨l'', hl'', rfl⟩ := Option.map_eq_some_iff.1 hl'
      simpa using hall l'' hl''

/-- `cfgGlobal` stays bound to its address. -/
theorem readLines_cfgGlobal (curSection : List UInt8) (bufs : List (List UInt8)) (c : ConfigFile) :
    ∀ r ∈ c.readLines alloc curSection bufs, r.2.cfgGlobal = c.cfgGlobal := by
  have hsec (c : ConfigFile) (name : List UInt8) : (c.sec alloc name).2.cfgGlobal = c.cfgGlobal := by
    unfold ConfigFile.sec
    split <;> rfl
  induction bufs generalizing c curSection with
  | nil =>
    intro r hr
    obtain rfl := Option.some.inj hr
    rfl
  | cons buf bufs ih =>
    intro r hr
    simp only [readLines] at hr
    split at hr
    · split at hr
      · obtain rfl := Option.some.inj hr
        rfl
      · exact ih _ _ r hr
    · split at hr
      · split at hr
        · cases hr
        · obtain rfl := Option.some.inj hr
          exact hsec c curSection
        · exact (ih _ _ r hr).trans (hsec c curSection)
      · exact ih _ _ r hr

theorem read_cfg_cfgGlobal (f : CfgText) (c : ConfigFile) :
    ∀ r ∈ c.read_cfg alloc f, r.2.cfgGlobal = c.cfgGlobal := by
  intro r hr
  unfold read_cfg at hr
  split at hr
  · obtain rfl := Option.some.inj hr
    rfl
  · rename_i text _
    by_cases ha : alloc.addr c.count [] = c.cfgGlobal
    · obtain ⟨c', hc', -, hg⟩ := reset_holds ha
      rw [hc'] at hr
      exact (readLines_cfgGlobal _ _ c' r hr).trans hg
    · rw [reset_dangles ha] at hr
      cases hr

/-! ## Whole runs -/

/-- The object after calls of `read_cfg`. -/
def readAll (alloc : Allocator) : ConfigFile → List CfgText → Option ConfigFile
  | c, [] => some c
  | c, f :: fs =>
    match c.read_cfg alloc f with
    | none => none
    | some (_, c) => readAll alloc c fs

/-- The new node of `"global"` comes to the address of `cfgGlobal`, and the lines of the file are
read as they are. -/
def Kept (alloc : Allocator) (c : ConfigFile) (f : CfgText) : Prop :=
  ∀ text ∈ f.text, alloc.addr c.count [] = c.cfgGlobal ∧ LinesWhole (wholeLines text)

/-- So it is in every call. -/
def AllKept (alloc : Allocator) : ConfigFile → List CfgText → Prop
  | _, [] => True
  | c, f :: fs => Kept alloc c f ∧ ∀ r ∈ c.read_cfg alloc f, AllKept alloc r.2 fs

theorem read_cfg_closed {f : CfgText} (h : f.text = none) (c : ConfigFile) :
    c.read_cfg alloc f = some (false, c) := by
  unfold read_cfg
  rw [h]

theorem readAll_closed {fs : List CfgText} (h : ∀ f ∈ fs, f.text = none) (c : ConfigFile) :
    c.readAll alloc fs = some c := by
  induction fs with
  | nil => rfl
  | cons f fs ih =>
    rw [readAll, read_cfg_closed (h f List.mem_cons_self)]
    exact ih fun g hg => h g (List.mem_cons_of_mem _ hg)

/-- One call reads the settings of its file. -/
theorem read_cfg_holds {f : CfgText} {text : List UInt8} (hf : f.text = some text) (h : Kept alloc c f) :
    ∃ c', c.read_cfg alloc f = some ((fileSettings text).isSome, c') ∧ ∀ l ∈ fileSettings text, Holds c' l := by
  obtain ⟨ha, hl⟩ := h text hf
  have hp := hl.pieces
  rw [← lines_eq_flatMap (by decide) text] at hp
  obtain ⟨c₁, hc₁, hh, -⟩ := reset_holds ha
  obtain ⟨c', hc', hall⟩ := readLines_holds alloc hh hp.1 globalSection f.stale
  rw [hp.2] at hc' hall
  refine ⟨c', ?_, hall⟩
  unfold read_cfg
  rw [hf]
  simp only [hc₁]
  exact hc'

theorem readAll_kept {fs gs : List CfgText} (h : AllKept alloc c (fs ++ gs)) :
    ∃ c', c.readAll alloc fs = some c' ∧ AllKept alloc c' gs := by
  induction fs generalizing c with
  | nil => exact ⟨c, rfl, h⟩
  | cons f fs ih =>
    obtain ⟨hf, hrest⟩ := h
    obtain ⟨ok, c₁, hc₁⟩ : ∃ ok c₁, c.read_cfg alloc f = some (ok, c₁) := by
      rcases ht : f.text with _ | text
      · exact ⟨_, _, read_cfg_closed ht c⟩
      · obtain ⟨c₁, hc₁, -⟩ := read_cfg_holds ht hf
        exact ⟨_, _, hc₁⟩
    rw [readAll, hc₁]
    exact ih (hrest _ hc₁)

end ConfigFile

/-- The getters give what the file read last says, in every run whose calls all keep the
node of `"global"` at its address, also after further files that do not open. -/
theorem getters_follow_file (alloc : Allocator) (mem : Addr → ConfigSection) (files : List CfgText) (f : CfgText)
    (text : List UInt8) (hf : f.text = some text) (h : ConfigFile.AllKept alloc (.new alloc mem) (files ++ [f])) :
    ∃ c c', (ConfigFile.new alloc mem).readAll alloc files = some c ∧
      c.read_cfg alloc f = some ((fileSettings text).isSome, c') ∧
      ∀ l ∈ fileSettings text, ∀ closed : List CfgText, (∀ g ∈ closed, g.text = none) →
        ∃ c'', c'.readAll alloc closed = some c'' ∧
          ∀ idx section_, c''.get idx section_ = some (expected l idx section_) := by
  obtain ⟨c, hc, hk, -⟩ := ConfigFile.readAll_kept h
  obtain ⟨c', hc', hall⟩ := ConfigFile.read_cfg_holds hf hk
  exact ⟨c, c', hc, hc', fun l hl closed hclosed =>
    ⟨c', ConfigFile.readAll_closed hclosed c', fun idx section_ => (hall l hl).get idx section_⟩⟩

theorem addr_fresh {live : List Addr} : live.sum + 1 ∉ live :=
  fun h => Nat.not_succ_le_self _ (List.le_sum_of_mem (M := Nat) h)

/-- An allocator that gives the lowest address back at once. -/
def firstFit : Allocator where
  addr _ live := if 0 ∈ live then live.sum + 1 else 0
  fresh _ live := by
    split
    · exact addr_fresh
    · assumption

/-- One that gives back the node freed last: after a file with a section in front of
`"global"`, that is the section's. -/
def lastFreed : Allocator where
  addr n live := if n / 2 ∈ live then live.sum + 1 else n / 2
  fresh n live := by
    split
    · exact addr_fresh
    · assumption

def exampleFile (text : String) : CfgText := ⟨some (octets text), fun _ => []⟩

theorem getters_follow_file_twice :
    ∃ c c', (ConfigFile.new firstFit fun _ => default).readAll firstFit
      [exampleFile "[eth0]\ndomainNumber 5\n"] = some c ∧
      c.read_cfg firstFit (exampleFile "domainNumber 7\n") = some (true, c') ∧
      c'.domainNumber (octets "eth0") = some 7 := by
  have key {n : Char} (hn : n = '5' ∨ n = '7') : ReadWhole (octets "domainNumber " ++ [UInt8.ofNat n.toNat, 10]) := by
    rcases hn with rfl | rfl <;>
      exact readWhole_of_fits (by decide) (by decide) (by decide) (.inr (.inr (.inr ⟨32, by decide, rfl⟩)))
  have hends : LinesWhole (wholeLines (octets "[eth0]\ndomainNumber 5\n")) ∧
      LinesWhole (wholeLines (octets "domainNumber 7\n")) :=
    ⟨⟨readWhole_of_fits (by decide) (by decide) (by decide) (.inr (.inr (.inl rfl))),
      fun _ => ⟨key (.inl rfl), fun _ => trivial⟩⟩,
      ⟨key (.inr rfl), fun _ => trivial⟩⟩
  have hkept : ConfigFile.AllKept firstFit (.new firstFit fun _ => default)
      ([exampleFile "[eth0]\ndomainNumber 5\n"] ++ [exampleFile "domainNumber 7\n"]) := by
    refine ⟨fun text ht => ?_, fun r hr => ⟨fun text ht => ?_, fun _ _ => trivial⟩⟩
    · obtain rfl := Option.some.inj ht
      exact ⟨rfl, hends.1⟩
    · obtain rfl := Option.some.inj ht
      exact ⟨(ConfigFile.read_cfg_cfgGlobal _ _ r hr).symm, hends.2⟩
  obtain ⟨c, c', hc, hc', hget⟩ := getters_follow_file firstFit (fun _ => default) _ _ _ rfl hkept
  obtain ⟨c'', hc'', hall⟩ := hget [⟨globalSection, .domainNumber, (7 : UInt8)⟩] rfl [] (by simp)
  obtain rfl := Option.some.inj hc''
  exact ⟨c, c', hc, hc', hall .domainNumber (octets "eth0")⟩

/-- The second file is read into a node that is gone. -/
theorem getters_dangle : ¬ ∀ (alloc : Allocator) (mem : Addr → ConfigSection) (files : List CfgText) (f : CfgText)
    (text : List UInt8) (c : ConfigFile), (ConfigFile.new alloc mem).readAll alloc files = some c → f.text = some text →
    ∀ l ∈ fileSettings text, ∃ c', c.read_cfg alloc f = some (true, c') ∧
      ∀ idx section_, c'.get idx section_ = some (expected l idx section_) := by
  intro h
  have heval : ((ConfigFile.new lastFreed fun _ => default).readAll lastFreed
    [exampleFile "[eth0]\ndomainNumber 5\n"]).map
      (fun c => (c.count, c.cfgGlobal)) = some (3, 0) := by rfl
  obtain ⟨c, hc, hcg⟩ := Option.map_eq_some_iff.1 heval
  obtain ⟨l, hl⟩ : ∃ l, fileSettings (octets "domainNumber 7\n") = some l := ⟨_, rfl⟩
  obtain ⟨c', hread, -⟩ := h lastFreed _ _ (exampleFile "domainNumber 7\n") _ c hc rfl l hl
  have hdangles : c.reset lastFreed = none := by
    refine ConfigFile.reset_dangles ?_
    obtain ⟨hcount, hglobal⟩ := Prod.mk.inj hcg
    rw [hcount, hglobal]
    decide
  simp [ConfigFile.read_cfg, exampleFile, hdangles] at hread

end LibPmc
