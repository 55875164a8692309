import LibPmc.Bin
import LibPmc.Message
import LibPmc.SignedField
/-!
# Port identities in texts

The text of a port identity, and `updatePortIdentity` of `pmc.cpp`, which takes one for the
target. The dash in front of the port is a separator of `fromHex` too.
-/
namespace LibPmc

open Cstr

def PortIdentity_t.string (id : PortIdentity_t) : List UInt8 :=
  id.clockIdentity.string ++ octets "-" ++ decimal id.portNumber.toNat

def updatePortIdentity (prms : MsgParams) (str : List UInt8) : Option (Bool × MsgParams) :=
  match (cstr str).dropWhile (· ≠ 45) with
  | [] => some (false, prms)
  | _ :: port => do
    -- the dash is overwritten with the end of the string
    let (ok, nc) ← Binary.fromHex [] ((cstr str).takeWhile (· ≠ 45))
    if ¬ ok ∨ nc.length ≠ 8 then return (false, prms)
    else
      let (val, rest) := strtoll port 0
      if rest ≠ [] ∨ val < 0 ∨ val > 0xffff then return (false, prms)
      else return (true, { prms with target := ⟨Binary.copy nc prms.target.clockIdentity, UInt16.ofInt val⟩ })

/-- It always returns, and a refused text leaves the parameters. -/
theorem updatePortIdentity_cases (prms : MsgParams) (str : List UInt8) :
    updatePortIdentity prms str = some (false, prms) ∨
      ∃ target, updatePortIdentity prms str = some (true, { prms with target }) := by
  unfold updatePortIdentity
  split
  · exact .inl rfl
  · rw [Binary.fromHex_eq]
    dsimp only [bind, Option.bind_some]
    split
    · exact .inl rfl
    · split
      · exact .inl rfl
      · exact .inr ⟨_, rfl⟩

/-! ## The text of an identity -/

theorem clockIdentity_string (id : ClockIdentity_t) : id.string =
    (id.v.val.take 3).flatMap hex2 ++ 46 :: (((id.v.val.drop 3).take 2).flatMap hex2 ++ 46 ::
      (id.v.val.drop 5).flatMap hex2) := by
  have hdot : octets "." = [46] := by decide
  simp only [ClockIdentity_t.string, hdot, List.append_assoc, List.cons_append, List.nil_append]

theorem tokens_clockIdentity (id : ClockIdentity_t) :
    tokens idsep id.string = [id.v.val.take 3, (id.v.val.drop 3).take 2, id.v.val.drop 5].map (·.flatMap hex2) := by
  have hlen := id.v.2
  have hne {b : List UInt8} (h : 0 < b.length) : b.flatMap hex2 ≠ [] :=
    Binary.flatMap_hex2_ne_nil (List.ne_nil_of_length_pos h)
  rw [clockIdentity_string, tokens_word_cons (Binary.flatMap_hex2_notSep _) (hne (by simp [hlen])) (by decide),
    tokens_word_cons (Binary.flatMap_hex2_notSep _) (hne (by simp [hlen])) (by decide),
    tokens_word (Binary.flatMap_hex2_notSep _) (hne (by simp [hlen]))]
  rfl

/-- It has neither a dash nor the end of a string. -/
theorem mem_clockIdentity {c : UInt8} {id : ClockIdentity_t} (hc : c ∈ id.string) : c ≠ 45 ∧ c ≠ 0 := by
  have hhex {b : List UInt8} (h : c ∈ b.flatMap hex2) : c ≠ 45 ∧ c ≠ 0 := by
    refine ⟨fun h' => ?_, fun h' => Binary.zero_notMem_flatMap_hex2 b (h' ▸ h)⟩
    have hsep := Binary.flatMap_hex2_notSep b c h
    rw [h'] at hsep
    exact absurd hsep (by decide)
  have hdot : c = 46 → c ≠ 45 ∧ c ≠ 0 := by
    rintro rfl
    exact ⟨by decide, by decide⟩
  rw [clockIdentity_string] at hc
  simp only [List.mem_append, List.mem_cons] at hc
  rcases hc with h | h | h | h | h
  · exact hhex h
  · exact hdot h
  · exact hhex h
  · exact hdot h
  · exact hhex h

theorem fromHex_clockIdentity (m_str : Binary) (id : ClockIdentity_t) :
    m_str.fromHex id.string = some (true, id.v.val) := by
  have hne : id.string ≠ [] := by
    rw [clockIdentity_string]
    exact List.append_ne_nil_of_right_ne_nil _ (List.cons_ne_nil _ _)
  have hflat : [id.v.val.take 3, (id.v.val.drop 3).take 2, id.v.val.drop 5].flatten = id.v.val := by
    have h5 : (id.v.val.drop 3).drop 2 = id.v.val.drop 5 := List.drop_drop
    rw [List.flatten_cons, List.flatten_cons, List.flatten_cons, List.flatten_nil, List.append_nil, ← h5,
      List.take_append_drop, List.take_append_drop]
  rw [Binary.fromHex_eq, Binary.ofHex_of_tokens hne (fun h => (mem_clockIdentity h).2 rfl) _
    (tokens_clockIdentity id), hflat]
  rfl

theorem copy_whole (id target : ClockIdentity_t) : Binary.copy id.v.val target = id := by
  refine congrArg ClockIdentity_t.mk (Subtype.ext ?_)
  exact List.take_left' id.v.2

theorem strtoll_port (n : UInt16) : strtoll (decimal n.toNat) 0 = ((n.toNat : Int), []) := by
  have hn := n.toNat_lt
  exact strtoll_signed (v := n.toNat) (by omega) (by omega)

theorem portIdentity_string (p : PortIdentity_t) : p.string = p.clockIdentity.string ++ 45 ::
    decimal p.portNumber.toNat := by
  have hdash : octets "-" = [45] := by decide
  rw [PortIdentity_t.string, hdash, List.append_assoc]
  rfl

theorem zero_notMem_portIdentity (p : PortIdentity_t) : 0 ∉ p.string := by
  rw [portIdentity_string]
  intro h
  rcases List.mem_append.1 h with h | h
  · exact (mem_clockIdentity h).2 rfl
  · rcases List.mem_cons.1 h with h | h
    · cases h
    · exact zero_notMem_signed p.portNumber.toNat h

/-- The first dash is the one in front of the port. -/
theorem portIdentity_dash (p : PortIdentity_t) : p.string.takeWhile (· ≠ 45) = p.clockIdentity.string ∧
    p.string.dropWhile (· ≠ 45) = 45 :: decimal p.portNumber.toNat := by
  have hpre : ∀ c ∈ p.clockIdentity.string, decide (c ≠ 45) = true :=
    fun c hc => decide_eq_true (mem_clockIdentity hc).1
  rw [portIdentity_string]
  constructor
  · rw [takeWhile_stop rfl, List.takeWhile_eq_self_iff.2 hpre]
  · rw [dropWhile_stop rfl, List.dropWhile_eq_nil_iff.2 hpre]
    rfl

theorem updatePortIdentity_string (prms : MsgParams) (p : PortIdentity_t) :
    updatePortIdentity prms p.string = some (true, { prms with target := p }) := by
  have hport := p.portNumber.toNat_lt
  obtain ⟨htake, hdrop⟩ := portIdentity_dash p
  unfold updatePortIdentity
  rw [cstr_of_notMem (zero_notMem_portIdentity p), hdrop, htake]
  dsimp only
  rw [fromHex_clockIdentity]
  dsimp only [bind, Option.bind_some]
  rw [if_neg (by simp [p.clockIdentity.v.2]), strtoll_port]
  dsimp only
  rw [if_neg (by simp; omega), copy_whole]
  have hn : UInt16.ofInt (p.portNumber.toNat : Int) = p.portNumber := by
    rw [UInt16.ofInt, Int.emod_eq_of_lt (by omega) (by omega), Int.toNat_natCast, UInt16.ofNat_toNat]
  rw [hn]
  rfl

/-- A printed identity is taken for the target, and a refused text leaves the parameters. -/
theorem port_identity_read_back (prms : MsgParams) :
    (∀ p : PortIdentity_t, updatePortIdentity prms p.string = some (true, { prms with target := p })) ∧
      ∀ str, ∃ ok prms', updatePortIdentity prms str = some (ok, prms') ∧ (ok = false → prms' = prms) := by
  constructor
  · intro p
    exact updatePortIdentity_string prms p
  · intro str
    rcases updatePortIdentity_cases prms str with h | ⟨target, h⟩
    · exact ⟨false, prms, h, fun _ => rfl⟩
    · exact ⟨true, _, h, by simp⟩

end LibPmc
