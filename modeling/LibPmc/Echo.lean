import LibPmc.Emit
import LibPmc.Wire.Echo
/-!
# Encoding what was decoded

For each process function: the structure it parses, built again, gives the octets that
were parsed, but for reserved octets and flags.
-/
namespace LibPmc

open Wire Wire.Prog

/-! ## The overloads of `proc` -/

/-- What the process function of the type parses, it builds again. -/
class Echoes (α : Type) [Proc α] : Prop where
  echoes : ∀ v : α, Parses (proc v) fun a o => Builds (proc a) o a

theorem echoes {α : Type} [Proc α] [Echoes α] (v : α) : Parses (proc v) fun a o => Builds (proc a) o a :=
  Echoes.echoes v

section Echoes

instance {α : Type} [Word α] (v : α) : Builds (proc v : P α) (beOctets (Word.width α) (Word.toNat v)) v :=
  Builds.word v

instance {α : Type} [Word α] : Echoes α := ⟨fun v => Parses.word v⟩
instance {n : Nat} : Echoes (Octets n) := ⟨fun v => Parses.array v⟩
instance : Echoes TimeInterval_t :=
  ⟨fun v => Parses.map ((echoes v.scaledNanoseconds).mono fun _ _ _ => Builds.map)⟩
instance : Echoes ClockIdentity_t := ⟨fun v => Parses.map ((echoes v.v).mono fun _ _ _ => Builds.map)⟩

instance : Echoes PortIdentity_t where
  echoes v := by
    change Parses v.proc fun a o => Builds a.proc o a
    unfold PortIdentity_t.proc
    refine (echoes _).bind fun _ _ _ => (echoes _).bind fun _ _ _ => .pure ?_
    infer_instance

instance : Echoes ClockQuality_t where
  echoes v := by
    change Parses v.proc fun a o => Builds a.proc o a
    unfold ClockQuality_t.proc
    refine (echoes _).bind fun _ _ _ => (echoes _).bind fun _ _ _ => (echoes _).bind fun _ _ _ => .pure ?_
    infer_instance

instance : Echoes AcceptableMaster_t where
  echoes v := by
    change Parses v.proc fun a o => Builds a.proc o a
    unfold AcceptableMaster_t.proc
    refine (echoes _).bind fun _ _ _ => (echoes _).bind fun _ _ _ => .pure ?_
    infer_instance

/-- The number made up of 16 high and 32 low bits fits in 48 bits and falls apart again. -/
theorem split48 (high : UInt16) (low : UInt32) :
    let v := low.toUInt64 ||| (high.toUInt64 <<< 32)
    v ≤ UINT48_MAX ∧ (v >>> 32).toUInt16 = high ∧ v.toUInt32 = low := by
  intro v
  have hh : high.toNat < 2 ^ 16 := high.toNat_lt
  have hl : low.toNat < 2 ^ 32 := low.toNat_lt
  have hv : v.toNat = high.toNat * 2 ^ 32 + low.toNat := by
    have hm : high.toNat * 2 ^ 32 < 2 ^ 64 := by omega
    change (low.toUInt64 ||| (high.toUInt64 <<< 32)).toNat = _
    rw [UInt64.toNat_or, UInt64.toNat_shiftLeft, UInt32.toNat_toUInt64, UInt16.toNat_toUInt64]
    change low.toNat ||| high.toNat <<< 32 % 2 ^ 64 = _
    rw [Nat.shiftLeft_eq, Nat.mod_eq_of_lt hm, ← Nat.shiftLeft_eq, Nat.or_comm, ← Nat.shiftLeft_add_eq_or_of_lt hl,
      Nat.shiftLeft_eq]
  refine ⟨UInt64.le_iff_toNat_le.2 ?_, UInt16.toNat_inj.1 ?_, UInt32.toNat_inj.1 ?_⟩
  · rw [hv]
    change _ ≤ 2 ^ 48 - 1
    omega
  · simp [hv, Nat.shiftRight_eq_div_pow]
    omega
  · simp [hv]

theorem parses_proc48 (v : UInt64) : Parses (proc48 v) fun a o => Builds (proc48 a) o a := by
  refine Parses.building ?_
  rw [if_neg (by simp)]
  refine (echoes _).bind fun high _ _ => (echoes _).bind fun low _ _ => .pure ?_
  obtain ⟨hle, hhigh, hlow⟩ := split48 high low
  rw [if_neg (by simp)]
  generalize low.toUInt64 ||| (high.toUInt64 <<< 32) = w at hle hhigh hlow ⊢
  refine Builds.building ?_
  rw [if_neg fun hn => absurd hn.2 (UInt64.not_lt.2 hle), hhigh, hlow]
  infer_instance

instance : Echoes Timestamp_t where
  echoes v := by
    change Parses v.proc fun a o => Builds a.proc o a
    unfold Timestamp_t.proc
    refine (parses_proc48 _).bind fun _ _ _ => (echoes _).bind fun _ _ _ => .pure ?_
    infer_instance

/-- On build the length variable is ignored, and the number parsed is the length. -/
theorem parses_string (str : List UInt8) (len : UInt16) :
    Parses (procString str len) fun a o => a.length = len.toNat ∧ o = a ∧ ∀ len', Builds (procString a len') o a := by
  refine Parses.building (Parses.xfer fun o => .pure ?_)
  rw [List.append_nil]
  have hn : UInt16.ofNat o.val.length = len := by rw [o.2]; simp
  refine ⟨o.2, rfl, fun len' => Builds.building ?_⟩
  rw [if_pos rfl, hn]
  have ht : o.val.take len.toNat = o.val := List.take_of_length_le (by rw [o.2]; simp)
  exact (Builds.xfer (by rw [ht, o.2]; simp)).cast ht

theorem parses_binary (bin : List UInt8) (len : UInt16) :
    Parses (procBinary bin len) fun a o => a.length = len.toNat ∧ o = a ∧ ∀ len', Builds (procBinary a len') o a := by
  refine Parses.building (Parses.xfer fun o => .pure ?_)
  rw [List.append_nil]
  have hn : UInt16.ofNat o.val.length = len := by rw [o.2]; simp
  refine ⟨o.2, rfl, fun len' => Builds.building ?_⟩
  rw [if_pos rfl, hn]
  exact Builds.xfer (by rw [o.2]; simp)

theorem parses_text (v : PTPText_t) : Parses (proc v) fun a o => Builds (proc a) o a ∧ o.length = a.size := by
  change Parses v.proc fun a o => Builds a.proc o a ∧ o.length = a.size
  unfold PTPText_t.proc
  refine (echoes _).bind fun len o hl => (parses_string _ _).bind fun _ str hs => .pure ?_
  obtain ⟨hlen, rfl, hb⟩ := hs
  have hcnt : UInt8.ofNat str.length = len := by rw [hlen]; simp
  have := hb len.toUInt16
  refine ⟨?_, ?_⟩
  · rw [hcnt]
    infer_instance
  · rw [List.append_nil, List.length_append, hl.length]
    rfl

theorem parses_address (v : PortAddress_t) : Parses (proc v) fun a o => Builds (proc a) o a ∧ o.length = a.size := by
  change Parses v.proc fun a o => Builds a.proc o a ∧ o.length = a.size
  unfold PortAddress_t.proc
  refine (echoes _).bind fun _ o hp => (echoes _).bind fun len o' hl =>
    (parses_binary _ _).bind fun _ bin hs => .pure ?_
  obtain ⟨hlen, rfl, hb⟩ := hs
  have hcnt : UInt16.ofNat bin.length = len := by rw [hlen]; simp
  have := hb len
  refine ⟨?_, ?_⟩
  · rw [hcnt]
    infer_instance
  · simp only [List.length_append, List.length_nil, hl.length, hp.length, PortAddress_t.size, Word.width]
    omega

instance : Echoes PTPText_t := ⟨fun v => (parses_text v).mono fun _ _ h => h.1⟩
instance : Echoes PortAddress_t := ⟨fun v => (parses_address v).mono fun _ _ h => h.1⟩

instance : Echoes FaultRecord_t where
  echoes v := by
    change Parses v.proc fun a o => Builds a.proc o a
    unfold FaultRecord_t.proc
    refine (echoes _).bind fun len _ _ => (echoes _).bind fun _ _ _ => (echoes _).bind fun _ _ _ =>
      (echoes _).bind fun name _ _ => (echoes _).bind fun value _ _ => (echoes _).bind fun descr _ _ => ?_
    by_cases hlen : len.toNat ≠ 16 + name.lengthField.toNat + value.lengthField.toNat + descr.lengthField.toNat
    · rw [if_pos hlen]
      exact .fail
    · rw [if_neg hlen]
      refine .pure ?_
      -- the check that the parse has passed, the build passes
      have (r : FaultRecord_t) : Builds (if len.toNat ≠ 16 + name.lengthField.toNat + value.lengthField.toNat +
          descr.lengthField.toNat then fail (some .SIZE_MISS) else pure r : P FaultRecord_t) [] r := by
        rw [if_neg hlen]
        infer_instance
      infer_instance

/-- Neither mode of a table depends on the count in the other one. -/
theorem parses_vectorF {α : Type} [Proc α] [Inhabited α] [Echoes α] (cnt : Nat) :
    Parses (vectorF cnt ([] : List α)) fun l o => l.length = cnt ∧ ∀ cnt', Builds (vectorF cnt' l) o l := by
  refine Parses.building ?_
  rw [if_neg (by simp)]
  refine (Parses.count (echoes default) cnt).bind fun l o hl => .pure ?_
  rw [List.nil_append, List.append_nil]
  exact ⟨hl.2, fun _ => Builds.building hl.1⟩

theorem parses_vectorO {α : Type} [Proc α] [Inhabited α] [Echoes α] (size : Nat) :
    Parses (vectorO size ([] : List α)) fun l o => Builds (vectorO size l) o l := by
  refine Parses.building ?_
  rw [if_neg (by simp)]
  refine Parses.remaining fun left => (Parses.whileLeft (echoes default) size _).bind fun l o hl => .pure ?_
  rw [List.nil_append, List.append_nil]
  exact Builds.building hl

/-- The octet of the flags is parsed as it is and built with the mask. -/
theorem parses_flags (flags flagsMask : UInt8) : Parses (procFlags flags flagsMask) fun a o => o = [a] := by
  refine Parses.building ?_
  rw [if_neg (by simp)]
  refine Parses.xfer fun o => .pure ?_
  obtain ⟨l, hl⟩ := o
  obtain ⟨b, rfl⟩ := List.length_eq_one_iff.1 hl
  simp [beNat, Word.ofNat]

instance (flags flagsMask : UInt8) :
    Builds (procFlags flags flagsMask) [builtFlags flags flagsMask] (builtFlags flags flagsMask) := by
  refine Builds.building ((Builds.word (builtFlags flags flagsMask)).cast ?_)
  simp [beOctets, Word.width, Word.toNat]

theorem parses_reserved : Parses procReserved fun _ o => o.length = 1 :=
  Parses.xfer fun o => .pure (by rw [List.append_nil, o.2])

instance : Builds procReserved [0] () := Builds.xfer rfl

end Echoes

/-! ## The process functions -/

/-- Where the flags stand in the dataField of an id, and its `flagsMask`. -/
def flagsAt : MngVals → Option (Nat × UInt8)
  | .DEFAULT_DATA_SET => some (0, 0x3)
  | .PARENT_DATA_SET => some (10, 0x1)
  | .TIME_PROPERTIES_DATA_SET => some (2, 0x3f)
  | .SLAVE_ONLY => some (0, 0x1)
  | .UTC_PROPERTIES => some (2, 0x7)
  | .TRACEABILITY_PROPERTIES => some (0, 0x30)
  | .TIMESCALE_PROPERTIES => some (0, 0x8)
  | .UNICAST_NEGOTIATION_ENABLE => some (0, 0x1)
  | .PATH_TRACE_ENABLE => some (0, 0x1)
  | .ACCEPTABLE_MASTER_TABLE_ENABLED => some (0, 0x1)
  | .ALTERNATE_MASTER => some (0, 0x1)
  | .ALTERNATE_TIME_OFFSET_ENABLE => some (1, 0x1)
  | .TRANSPARENT_CLOCK_PORT_DATA_SET => some (10, 0x1)
  | .EXTERNAL_PORT_CONFIGURATION_ENABLED => some (0, 0x1)
  | .MASTER_ONLY => some (0, 0x1)
  | .HOLDOVER_UPGRADE_ENABLE => some (0, 0x1)
  | .EXT_PORT_CONFIG_PORT_DATA_SET => some (0, 0x1)
  | .GRANDMASTER_SETTINGS_NP => some (6, 0x3f)
  | _ => none

/-- Where a structure's reserved octet stands in the dataField. -/
def reservedAt : BaseMngTlv → Option Nat
  | .CLOCK_DESCRIPTION d => some (2 + d.physicalLayerProtocol.size + 2 + d.physicalAddress.length
      + d.protocolAddress.size + 3)
  | .DEFAULT_DATA_SET _ => some 1
  | .PARENT_DATA_SET _ => some 11
  | _ => none

namespace BaseMngTlv

/-- The octets of a structure with the reserved one cleared and the flags normalised. -/
def normalise (d : BaseMngTlv) (o : List UInt8) : List UInt8 :=
  let o := match reservedAt d with
    | some i => o.set i 0
    | none => o
  match flagsAt d.id with
  | some (i, flagsMask) => o.modify i (builtFlags · flagsMask)
  | none => o

/-- A structure with its flags normalised. -/
def normalFlags : BaseMngTlv → BaseMngTlv
  | .DEFAULT_DATA_SET d => .DEFAULT_DATA_SET { d with flags := builtFlags d.flags 0x3 }
  | .PARENT_DATA_SET d => .PARENT_DATA_SET { d with flags := builtFlags d.flags 0x1 }
  | .TIME_PROPERTIES_DATA_SET d => .TIME_PROPERTIES_DATA_SET { d with flags := builtFlags d.flags 0x3f }
  | .SLAVE_ONLY d => .SLAVE_ONLY { flags := builtFlags d.flags 0x1 }
  | .UTC_PROPERTIES d => .UTC_PROPERTIES { d with flags := builtFlags d.flags 0x7 }
  | .TRACEABILITY_PROPERTIES d => .TRACEABILITY_PROPERTIES { flags := builtFlags d.flags 0x30 }
  | .TIMESCALE_PROPERTIES d => .TIMESCALE_PROPERTIES { d with flags := builtFlags d.flags 0x8 }
  | .UNICAST_NEGOTIATION_ENABLE d => .UNICAST_NEGOTIATION_ENABLE { flags := builtFlags d.flags 0x1 }
  | .PATH_TRACE_ENABLE d => .PATH_TRACE_ENABLE { flags := builtFlags d.flags 0x1 }
  | .ACCEPTABLE_MASTER_TABLE_ENABLED d => .ACCEPTABLE_MASTER_TABLE_ENABLED { flags := builtFlags d.flags 0x1 }
  | .ALTERNATE_MASTER d => .ALTERNATE_MASTER { d with flags := builtFlags d.flags 0x1 }
  | .ALTERNATE_TIME_OFFSET_ENABLE d => .ALTERNATE_TIME_OFFSET_ENABLE { d with flags := builtFlags d.flags 0x1 }
  | .TRANSPARENT_CLOCK_PORT_DATA_SET d => .TRANSPARENT_CLOCK_PORT_DATA_SET { d with flags := builtFlags d.flags 0x1 }
  | .EXTERNAL_PORT_CONFIGURATION_ENABLED d => .EXTERNAL_PORT_CONFIGURATION_ENABLED { flags := builtFlags d.flags 0x1 }
  | .MASTER_ONLY d => .MASTER_ONLY { flags := builtFlags d.flags 0x1 }
  | .HOLDOVER_UPGRADE_ENABLE d => .HOLDOVER_UPGRADE_ENABLE { flags := builtFlags d.flags 0x1 }
  | .EXT_PORT_CONFIG_PORT_DATA_SET d => .EXT_PORT_CONFIG_PORT_DATA_SET { d with flags := builtFlags d.flags 0x1 }
  | .GRANDMASTER_SETTINGS_NP d => .GRANDMASTER_SETTINGS_NP { d with flags := builtFlags d.flags 0x3f }
  | d => d

/-- Building the structure writes the octets it was parsed from, normalised. -/
def Rebuilds (d : BaseMngTlv) (o : List UInt8) : Prop := Builds (procTlv d) (d.normalise o) d.normalFlags

end BaseMngTlv

section Tlvs

theorem modify_append {α : Type} {a : List α} {i : Nat} (h : a.length = i) (x : α) (b : List α) (f : α → α) :
    (a ++ ([x] ++ b)).modify i f = a ++ ([f x] ++ b) := by
  subst h
  induction a with
  | nil => rfl
  | cons y a ih => exact congrArg (y :: ·) ih

theorem set_append {α : Type} {a b c : List α} {i : Nat} (h : a.length = i) (hb : b.length = 1) (x : α) :
    (a ++ (b ++ c)).set i x = a ++ ([x] ++ c) := by
  obtain ⟨y, rfl⟩ := List.length_eq_one_iff.1 hb
  subst h
  rw [List.set_append_right _ _ (le_refl _), Nat.sub_self]
  rfl

/-- The process function of the structure alone has to be looked at. -/
theorem rebuilds {α : Type} {c : α → BaseMngTlv} {f : α → P α} {d d' : α} {o o' : List UInt8} (h : Builds (f d) o' d')
    (hp : procTlv (c d) = c <$> f d) (ho : (c d).normalise o = o') (hd : (c d).normalFlags = c d') :
    (c d).Rebuilds o := by
  unfold BaseMngTlv.Rebuilds
  rw [hp, ho, hd]
  exact Builds.map

theorem rebuilds_CLOCK_DESCRIPTION (v : CLOCK_DESCRIPTION_t) :
    Parses (CLOCK_DESCRIPTION_f v) fun d => (BaseMngTlv.CLOCK_DESCRIPTION d).Rebuilds := by
  unfold CLOCK_DESCRIPTION_f
  refine (echoes _).bind fun _ o₁ h₁ => (parses_text _).bind fun layer o₂ h₂ => (echoes _).bind fun len o₃ h₃ =>
    (parses_binary _ _).bind fun _ addr h₄ => (parses_address _).bind fun protocol o₅ h₅ =>
      (echoes _).bind fun _ o₆ h₆ =>
    parses_reserved.bind fun _ o₇ h₇ => ?_
  obtain ⟨hlen, rfl, hb⟩ := h₄
  have hcnt : UInt16.ofNat addr.length = len := by rw [hlen]; simp
  refine (echoes _).bind fun _ _ _ => (echoes _).bind fun _ _ _ => (echoes _).bind fun _ _ _ =>
    (echoes _).bind fun _ _ _ => .pure ?_
  have := h₂.1
  have := h₅.1
  have := hb len
  -- the six parts before the reserved octet
  have hpos : (o₁ ++ (o₂ ++ (o₃ ++ (addr ++ (o₅ ++ o₆))))).length =
      2 + layer.size + 2 + addr.length + protocol.size + 3 := by
    simp only [List.length_append, h₁.length, h₂.2, h₃.length, h₅.2, h₆.length, Word.width]
    omega
  have hset (r : List UInt8) := set_append (c := r) hpos h₇ 0
  simp only [List.append_assoc] at hset
  refine rebuilds (f := CLOCK_DESCRIPTION_f) (c := .CLOCK_DESCRIPTION) ?_ rfl (hset _) rfl
  unfold CLOCK_DESCRIPTION_f
  rw [hcnt]
  infer_instance

theorem rebuilds_DEFAULT_DATA_SET (v : DEFAULT_DATA_SET_t) :
    Parses (DEFAULT_DATA_SET_f v) fun d => (BaseMngTlv.DEFAULT_DATA_SET d).Rebuilds := by
  unfold DEFAULT_DATA_SET_f
  refine (parses_flags _ _).bind fun flags o hf => parses_reserved.bind fun _ o' hr => ?_
  obtain rfl := hf
  obtain ⟨r, rfl⟩ := List.length_eq_one_iff.1 hr
  refine (echoes _).bind fun _ _ _ => (echoes _).bind fun _ _ _ => (echoes _).bind fun _ _ _ =>
    (echoes _).bind fun _ _ _ => (echoes _).bind fun _ _ _ => (echoes _).bind fun _ _ _ => .pure ?_
  refine rebuilds (f := DEFAULT_DATA_SET_f) (c := .DEFAULT_DATA_SET) ?_ rfl rfl rfl
  unfold DEFAULT_DATA_SET_f
  infer_instance

theorem rebuilds_PARENT_DATA_SET (v : PARENT_DATA_SET_t) :
    Parses (PARENT_DATA_SET_f v) fun d => (BaseMngTlv.PARENT_DATA_SET d).Rebuilds := by
  unfold PARENT_DATA_SET_f
  refine (echoes _).bind fun _ o ho => (parses_flags _ _).bind fun flags o' hf =>
    parses_reserved.bind fun _ o'' hr => ?_
  obtain rfl := hf
  refine (echoes _).bind fun _ _ _ => (echoes _).bind fun _ _ _ => (echoes _).bind fun _ _ _ =>
    (echoes _).bind fun _ _ _ => (echoes _).bind fun _ _ _ => (echoes _).bind fun _ _ _ => .pure ?_
  have hpos : (o ++ [flags]).length = 11 := by rw [List.length_append, ho.length]; rfl
  have hset (r : List UInt8) := set_append (c := r) hpos hr 0
  simp only [List.append_assoc] at hset
  refine rebuilds (f := PARENT_DATA_SET_f) (c := .PARENT_DATA_SET) ?_ rfl
    ((congrArg _ (hset _)).trans (modify_append ho.length _ _ _)) rfl
  unfold PARENT_DATA_SET_f
  infer_instance

theorem rebuilds_TIME_PROPERTIES_DATA_SET (v : TIME_PROPERTIES_DATA_SET_t) :
    Parses (TIME_PROPERTIES_DATA_SET_f v) fun d => (BaseMngTlv.TIME_PROPERTIES_DATA_SET d).Rebuilds := by
  unfold TIME_PROPERTIES_DATA_SET_f
  refine (echoes _).bind fun _ _ ho => (parses_flags _ _).bind fun _ _ hf => (echoes _).bind fun _ _ _ => .pure ?_
  obtain rfl := hf
  refine rebuilds (f := TIME_PROPERTIES_DATA_SET_f) (c := .TIME_PROPERTIES_DATA_SET) ?_ rfl
    (modify_append ho.length _ _ _) rfl
  unfold TIME_PROPERTIES_DATA_SET_f
  infer_instance

theorem rebuilds_UTC_PROPERTIES (v : UTC_PROPERTIES_t) :
    Parses (UTC_PROPERTIES_f v) fun d => (BaseMngTlv.UTC_PROPERTIES d).Rebuilds := by
  unfold UTC_PROPERTIES_f
  refine (echoes _).bind fun _ _ ho => (parses_flags _ _).bind fun _ _ hf => .pure ?_
  obtain rfl := hf
  refine rebuilds (f := UTC_PROPERTIES_f) (c := .UTC_PROPERTIES) ?_ rfl (modify_append ho.length _ _ _) rfl
  unfold UTC_PROPERTIES_f
  infer_instance

theorem rebuilds_TIMESCALE_PROPERTIES (v : TIMESCALE_PROPERTIES_t) :
    Parses (TIMESCALE_PROPERTIES_f v) fun d => (BaseMngTlv.TIMESCALE_PROPERTIES d).Rebuilds := by
  unfold TIMESCALE_PROPERTIES_f
  refine (parses_flags _ _).bind fun _ _ hf => (echoes _).bind fun _ _ _ => .pure ?_
  obtain rfl := hf
  refine rebuilds (f := TIMESCALE_PROPERTIES_f) (c := .TIMESCALE_PROPERTIES) ?_ rfl rfl rfl
  unfold TIMESCALE_PROPERTIES_f
  infer_instance

theorem rebuilds_ALTERNATE_MASTER (v : ALTERNATE_MASTER_t) :
    Parses (ALTERNATE_MASTER_f v) fun d => (BaseMngTlv.ALTERNATE_MASTER d).Rebuilds := by
  unfold ALTERNATE_MASTER_f
  refine (parses_flags _ _).bind fun _ _ hf => (echoes _).bind fun _ _ _ => (echoes _).bind fun _ _ _ => .pure ?_
  obtain rfl := hf
  refine rebuilds (f := ALTERNATE_MASTER_f) (c := .ALTERNATE_MASTER) ?_ rfl rfl rfl
  unfold ALTERNATE_MASTER_f
  infer_instance

theorem rebuilds_ALTERNATE_TIME_OFFSET_ENABLE (v : ALTERNATE_TIME_OFFSET_ENABLE_t) :
    Parses (ALTERNATE_TIME_OFFSET_ENABLE_f v) fun d => (BaseMngTlv.ALTERNATE_TIME_OFFSET_ENABLE d).Rebuilds := by
  unfold ALTERNATE_TIME_OFFSET_ENABLE_f
  refine (echoes _).bind fun _ _ ho => (parses_flags _ _).bind fun _ _ hf => .pure ?_
  obtain rfl := hf
  refine rebuilds (f := ALTERNATE_TIME_OFFSET_ENABLE_f) (c := .ALTERNATE_TIME_OFFSET_ENABLE) ?_ rfl
    (modify_append ho.length _ _ _) rfl
  unfold ALTERNATE_TIME_OFFSET_ENABLE_f
  infer_instance

theorem rebuilds_TRANSPARENT_CLOCK_PORT_DATA_SET (v : TRANSPARENT_CLOCK_PORT_DATA_SET_t) :
    Parses (TRANSPARENT_CLOCK_PORT_DATA_SET_f v) fun d => (BaseMngTlv.TRANSPARENT_CLOCK_PORT_DATA_SET d).Rebuilds := by
  unfold TRANSPARENT_CLOCK_PORT_DATA_SET_f
  refine (echoes _).bind fun _ _ ho => (parses_flags _ _).bind fun _ _ hf => (echoes _).bind fun _ _ _ =>
    (echoes _).bind fun _ _ _ => .pure ?_
  obtain rfl := hf
  refine rebuilds (f := TRANSPARENT_CLOCK_PORT_DATA_SET_f) (c := .TRANSPARENT_CLOCK_PORT_DATA_SET) ?_ rfl
    (modify_append ho.length _ _ _) rfl
  unfold TRANSPARENT_CLOCK_PORT_DATA_SET_f
  infer_instance

theorem rebuilds_EXT_PORT_CONFIG_PORT_DATA_SET (v : EXT_PORT_CONFIG_PORT_DATA_SET_t) :
    Parses (EXT_PORT_CONFIG_PORT_DATA_SET_f v) fun d => (BaseMngTlv.EXT_PORT_CONFIG_PORT_DATA_SET d).Rebuilds := by
  unfold EXT_PORT_CONFIG_PORT_DATA_SET_f
  refine (parses_flags _ _).bind fun _ _ hf => (echoes _).bind fun _ _ _ => .pure ?_
  obtain rfl := hf
  refine rebuilds (f := EXT_PORT_CONFIG_PORT_DATA_SET_f) (c := .EXT_PORT_CONFIG_PORT_DATA_SET) ?_ rfl rfl rfl
  unfold EXT_PORT_CONFIG_PORT_DATA_SET_f
  infer_instance

theorem rebuilds_GRANDMASTER_SETTINGS_NP (v : GRANDMASTER_SETTINGS_NP_t) :
    Parses (GRANDMASTER_SETTINGS_NP_f v) fun d => (BaseMngTlv.GRANDMASTER_SETTINGS_NP d).Rebuilds := by
  unfold GRANDMASTER_SETTINGS_NP_f
  refine (echoes _).bind fun _ o ho => (echoes _).bind fun _ o' ho' => (parses_flags _ _).bind fun flags _ hf =>
    (echoes _).bind fun _ _ _ => .pure ?_
  obtain rfl := hf
  have hpos : (o ++ o').length = 6 := by rw [List.length_append, ho.length, ho'.length]; rfl
  have hmod (r : List UInt8) := modify_append hpos flags r (builtFlags · 0x3f)
  simp only [List.append_assoc o o'] at hmod
  refine rebuilds (f := GRANDMASTER_SETTINGS_NP_f) (c := .GRANDMASTER_SETTINGS_NP) ?_ rfl (hmod _) rfl
  unfold GRANDMASTER_SETTINGS_NP_f
  infer_instance

/-- A structure of flags alone. -/
theorem rebuilds_flags {α : Type} {mk : UInt8 → α} {c : α → BaseMngTlv} {flags mask : UInt8}
    (hp : ∀ f, procTlv (c (mk f)) = c <$> mk <$> procFlags f mask) (hr : ∀ f, reservedAt (c (mk f)) = none)
    (hf : ∀ f, flagsAt (c (mk f)).id = some (0, mask)) (hn : ∀ f, (c (mk f)).normalFlags = c (mk (builtFlags f mask))) :
    Parses (mk <$> procFlags flags mask) fun d => (c d).Rebuilds := by
  refine Parses.map ((parses_flags _ _).mono fun f o ho => ?_)
  obtain rfl := ho
  unfold BaseMngTlv.Rebuilds BaseMngTlv.normalise
  rw [hp, hr, hf, hn]
  exact Builds.map

theorem rebuilds_FAULT_LOG : Parses (FAULT_LOG_f default) fun d => (BaseMngTlv.FAULT_LOG d).Rebuilds := by
  unfold FAULT_LOG_f
  refine (echoes _).bind fun cnt _ _ => (parses_vectorF _).bind fun _ _ hl => .pure ?_
  have := hl.2
  refine rebuilds (f := FAULT_LOG_f) (c := .FAULT_LOG) ?_ rfl rfl rfl
  unfold FAULT_LOG_f
  infer_instance

theorem rebuilds_PATH_TRACE_LIST :
    Parses (PATH_TRACE_LIST_f default) fun d => (BaseMngTlv.PATH_TRACE_LIST d).Rebuilds := by
  refine Parses.map ((parses_vectorO _).mono fun _ _ hl => ?_)
  refine rebuilds (f := PATH_TRACE_LIST_f) (c := .PATH_TRACE_LIST) ?_ rfl rfl rfl
  unfold PATH_TRACE_LIST_f
  infer_instance

theorem rebuilds_GRANDMASTER_CLUSTER_TABLE :
    Parses (GRANDMASTER_CLUSTER_TABLE_f default) fun d => (BaseMngTlv.GRANDMASTER_CLUSTER_TABLE d).Rebuilds := by
  unfold GRANDMASTER_CLUSTER_TABLE_f
  refine (echoes _).bind fun _ _ _ => (echoes _).bind fun cnt _ _ => (parses_vectorF _).bind fun l _ hl => .pure ?_
  have hcnt : UInt8.ofNat l.length = cnt := by rw [hl.1]; simp
  have := hl.2
  refine rebuilds (f := GRANDMASTER_CLUSTER_TABLE_f) (c := .GRANDMASTER_CLUSTER_TABLE) ?_ rfl rfl rfl
  unfold GRANDMASTER_CLUSTER_TABLE_f
  rw [hcnt]
  infer_instance

theorem rebuilds_UNICAST_MASTER_TABLE :
    Parses (UNICAST_MASTER_TABLE_f default) fun d => (BaseMngTlv.UNICAST_MASTER_TABLE d).Rebuilds := by
  unfold UNICAST_MASTER_TABLE_f
  refine (echoes _).bind fun _ _ _ => (echoes _).bind fun cnt _ _ => (parses_vectorF _).bind fun l _ hl => .pure ?_
  have hcnt : UInt16.ofNat l.length = cnt := by rw [hl.1]; simp
  have := hl.2
  refine rebuilds (f := UNICAST_MASTER_TABLE_f) (c := .UNICAST_MASTER_TABLE) ?_ rfl rfl rfl
  unfold UNICAST_MASTER_TABLE_f
  rw [hcnt]
  infer_instance

/-- A count that was widened to 32 bits is found again, a negative one too. -/
theorem ofNat_toUInt32 (cnt : Int16) : Int16.ofNat cnt.toInt32.toUInt32.toNat = cnt := by
  apply Int16.toBitVec_inj.1
  change BitVec.ofNat 16 (BitVec.signExtend 32 cnt.toBitVec).toNat = cnt.toBitVec
  rw [BitVec.ofNat_toNat]
  ext i hi
  have hlsb : (BitVec.signExtend 32 cnt.toBitVec).getLsbD i = cnt.toBitVec.getLsbD i := by
    rw [BitVec.getLsbD_signExtend, if_pos hi]
    simp
    omega
  simp [hlsb, hi]

theorem rebuilds_ACCEPTABLE_MASTER_TABLE :
    Parses (ACCEPTABLE_MASTER_TABLE_f default) fun d => (BaseMngTlv.ACCEPTABLE_MASTER_TABLE d).Rebuilds := by
  unfold ACCEPTABLE_MASTER_TABLE_f
  refine (echoes _).bind fun cnt _ _ => (parses_vectorF _).bind fun l _ hl => .pure ?_
  have hcnt : Int16.ofNat l.length = cnt := by rw [hl.1, ofNat_toUInt32]
  have := hl.2
  refine rebuilds (f := ACCEPTABLE_MASTER_TABLE_f) (c := .ACCEPTABLE_MASTER_TABLE) ?_ rfl rfl rfl
  unfold ACCEPTABLE_MASTER_TABLE_f
  rw [hcnt]
  infer_instance

theorem rebuilds_ALTERNATE_TIME_OFFSET_PROPERTIES (v : ALTERNATE_TIME_OFFSET_PROPERTIES_t) :
    Parses (ALTERNATE_TIME_OFFSET_PROPERTIES_f v) fun d =>
      (BaseMngTlv.ALTERNATE_TIME_OFFSET_PROPERTIES d).Rebuilds := by
  unfold ALTERNATE_TIME_OFFSET_PROPERTIES_f
  refine (echoes _).bind fun _ _ _ => (echoes _).bind fun _ _ _ => (echoes _).bind fun _ _ _ =>
    (parses_proc48 _).bind fun _ _ _ => .pure ?_
  refine rebuilds (f := ALTERNATE_TIME_OFFSET_PROPERTIES_f) (c := .ALTERNATE_TIME_OFFSET_PROPERTIES) ?_ rfl rfl rfl
  unfold ALTERNATE_TIME_OFFSET_PROPERTIES_f
  infer_instance

theorem parses_counters (c : Counters) : Parses (procCounters c) fun a o => Builds (procCounters a) o a := by
  refine Parses.map ((Parses.each Parses.wordLe c.val).mono fun _ o h => ?_)
  unfold procCounters
  have := h
  infer_instance

theorem rebuilds_PORT_STATS_NP (v : PORT_STATS_NP_t) :
    Parses (PORT_STATS_NP_f v) fun d => (BaseMngTlv.PORT_STATS_NP d).Rebuilds := by
  unfold PORT_STATS_NP_f
  refine (echoes _).bind fun _ _ _ => (parses_counters _).bind fun _ _ _ =>
    (parses_counters _).bind fun _ _ _ => .pure ?_
  refine rebuilds (f := PORT_STATS_NP_f) (c := .PORT_STATS_NP) ?_ rfl rfl rfl
  unfold PORT_STATS_NP_f
  infer_instance

/-- Every structure parsed is built again. -/
theorem rebuilds_procTlv {id : MngVals} {t : BaseMngTlv} (ht : newTlv id = some t) :
    Parses (procTlv t) fun d => d.Rebuilds := by
  -- the parse starts from the empty structure of the id
  have new {t' : BaseMngTlv} (ht' : newTlv id = some t') (h : Parses (procTlv t') fun d => d.Rebuilds) :
      Parses (procTlv t) fun d => d.Rebuilds := by
    obtain rfl : t' = t := Option.some.inj (ht'.symm.trans ht)
    exact h
  cases id with
  | CLOCK_DESCRIPTION => exact new rfl (.map (rebuilds_CLOCK_DESCRIPTION _))
  | FAULT_LOG => exact new rfl (.map rebuilds_FAULT_LOG)
  | DEFAULT_DATA_SET => exact new rfl (.map (rebuilds_DEFAULT_DATA_SET _))
  | PARENT_DATA_SET => exact new rfl (.map (rebuilds_PARENT_DATA_SET _))
  | TIME_PROPERTIES_DATA_SET => exact new rfl (.map (rebuilds_TIME_PROPERTIES_DATA_SET _))
  | UTC_PROPERTIES => exact new rfl (.map (rebuilds_UTC_PROPERTIES _))
  | TIMESCALE_PROPERTIES => exact new rfl (.map (rebuilds_TIMESCALE_PROPERTIES _))
  | PATH_TRACE_LIST => exact new rfl (.map rebuilds_PATH_TRACE_LIST)
  | GRANDMASTER_CLUSTER_TABLE => exact new rfl (.map rebuilds_GRANDMASTER_CLUSTER_TABLE)
  | UNICAST_MASTER_TABLE => exact new rfl (.map rebuilds_UNICAST_MASTER_TABLE)
  | ACCEPTABLE_MASTER_TABLE => exact new rfl (.map rebuilds_ACCEPTABLE_MASTER_TABLE)
  | ALTERNATE_MASTER => exact new rfl (.map (rebuilds_ALTERNATE_MASTER _))
  | ALTERNATE_TIME_OFFSET_ENABLE => exact new rfl (.map (rebuilds_ALTERNATE_TIME_OFFSET_ENABLE _))
  | ALTERNATE_TIME_OFFSET_PROPERTIES => exact new rfl (.map (rebuilds_ALTERNATE_TIME_OFFSET_PROPERTIES _))
  | TRANSPARENT_CLOCK_PORT_DATA_SET => exact new rfl (.map (rebuilds_TRANSPARENT_CLOCK_PORT_DATA_SET _))
  | EXT_PORT_CONFIG_PORT_DATA_SET => exact new rfl (.map (rebuilds_EXT_PORT_CONFIG_PORT_DATA_SET _))
  | GRANDMASTER_SETTINGS_NP => exact new rfl (.map (rebuilds_GRANDMASTER_SETTINGS_NP _))
  | PORT_STATS_NP => exact new rfl (.map (rebuilds_PORT_STATS_NP _))
  | SLAVE_ONLY | TRACEABILITY_PROPERTIES | UNICAST_NEGOTIATION_ENABLE | PATH_TRACE_ENABLE
  | ACCEPTABLE_MASTER_TABLE_ENABLED | EXTERNAL_PORT_CONFIGURATION_ENABLED | MASTER_ONLY | HOLDOVER_UPGRADE_ENABLE =>
    exact new rfl (.map (rebuilds_flags (fun _ => rfl) (fun _ => rfl) (fun _ => rfl) fun _ => rfl))
  | USER_DESCRIPTION | INITIALIZE | PRIORITY1 | PRIORITY2 | DOMAIN | LOG_ANNOUNCE_INTERVAL
  | ANNOUNCE_RECEIPT_TIMEOUT | LOG_SYNC_INTERVAL | VERSION_NUMBER | TIME | CLOCK_ACCURACY
  | UNICAST_MASTER_MAX_TABLE_SIZE | ACCEPTABLE_MASTER_MAX_TABLE_SIZE | ALTERNATE_TIME_OFFSET_MAX_KEY
  | LOG_MIN_PDELAY_REQ_INTERVAL | PRIMARY_DOMAIN | DELAY_MECHANISM | SYNCHRONIZATION_UNCERTAIN_NP =>
    obtain rfl := Option.some.inj ht
    refine Parses.map (.map ((echoes _).mono fun _ _ _ => ?_))
    exact rebuilds Builds.map rfl rfl rfl
  | CURRENT_DATA_SET | PORT_DATA_SET | ALTERNATE_TIME_OFFSET_NAME | TRANSPARENT_CLOCK_DEFAULT_DATA_SET
  | TIME_STATUS_NP | PORT_DATA_SET_NP | SUBSCRIBE_EVENTS_NP | PORT_PROPERTIES_NP =>
    refine new rfl (.map ?_)
    simp only [CURRENT_DATA_SET_f, PORT_DATA_SET_f, ALTERNATE_TIME_OFFSET_NAME_f, TRANSPARENT_CLOCK_DEFAULT_DATA_SET_f,
      TIME_STATUS_NP_f, PORT_DATA_SET_NP_f, SUBSCRIBE_EVENTS_NP_f, PORT_PROPERTIES_NP_f]
    repeat' refine Parses.bind (echoes _) fun _ _ _ => ?_
    refine .pure (rebuilds ?_ rfl rfl rfl)
    simp only [CURRENT_DATA_SET_f, PORT_DATA_SET_f, ALTERNATE_TIME_OFFSET_NAME_f, TRANSPARENT_CLOCK_DEFAULT_DATA_SET_f,
      TIME_STATUS_NP_f, PORT_DATA_SET_NP_f, SUBSCRIBE_EVENTS_NP_f, PORT_PROPERTIES_NP_f]
    infer_instance
  | _ => cases ht

end Tlvs

/-! ## Encoding undoes decoding -/

theorem BaseMngTlv.normalise_length (d : BaseMngTlv) (o : List UInt8) : (d.normalise o).length = o.length := by
  have hset : (match reservedAt d with
      | some i => o.set i 0
      | none => o).length = o.length := by
    cases reservedAt d with
    | none => rfl
    | some i => exact List.length_set
  unfold BaseMngTlv.normalise
  cases flagsAt d.id with
  | none => exact hset
  | some v => exact (List.length_modify _ _ _).trans hset

/-- Where the process function of an id parses a structure, its build of the structure, in
every buffer with room for it, writes the octets that the parse consumed, with the
reserved ones cleared and the flags normalised. It changes nothing else of the structure. -/
theorem build_undoes_parse {id : MngVals} {t d : BaseMngTlv} {c c' : Cursor MngParseError} (ht : newTlv id = some t)
    (hc : c.build = false) (h0 : 0 ≤ c.left) (hd : ((procTlv t).run c).1 = some d) (hc' : c'.build = true)
    (hroom : (((procTlv t).run c).2.cur - c.cur : Nat) ≤ c'.left) :
    let consumed := c.mem.slice c.cur (((procTlv t).run c).2.cur - c.cur)
    ((procTlv d).run c').1 = some d.normalFlags ∧
      ((procTlv d).run c').2.mem = c'.mem.store c'.cur (d.normalise consumed) ∧
      (d.normalise consumed).length = consumed.length ∧
      ((procTlv d).run c').2.cur = c'.cur + consumed.length ∧ ((procTlv d).run c').2.err = c'.err := by
  intro consumed
  have hb : Builds (procTlv d) (d.normalise consumed) d.normalFlags := Parses.run (rebuilds_procTlv ht) hc h0 hd
  have hlen := d.normalise_length consumed
  have hn : consumed.length = ((procTlv t).run c).2.cur - c.cur := Mem.slice_length _ _ _
  obtain ⟨hval, hmem, hcur, herr⟩ := hb.run hc' (by rw [hlen, hn]; exact hroom)
  exact ⟨hval, hmem, hlen, by rw [hcur, hlen], herr⟩

/-- A reply with the flags 0xff, of which the six of the mask are sent again. -/
theorem build_undoes_parse_time :
    let c : Cursor MngParseError := ⟨Mem.ofList [0, 37, 0xff, 0x20], false, 0, 4, 0, .TOO_SMALL, [], []⟩
    let c' : Cursor MngParseError := ⟨fun _ => 0, true, 0, 4, 0, .TOO_SMALL, [], []⟩
    let d := BaseMngTlv.TIME_PROPERTIES_DATA_SET ⟨37, 0xff, 0x20⟩
    let consumed := c.mem.slice 0 (((procTlv (.TIME_PROPERTIES_DATA_SET default)).run c).2.cur - 0)
    ((procTlv d).run c').1 = some d.normalFlags ∧
      ((procTlv d).run c').2.mem = c'.mem.store 0 (d.normalise consumed) ∧
      (d.normalise consumed).length = consumed.length ∧
      ((procTlv d).run c').2.cur = 0 + consumed.length ∧ ((procTlv d).run c').2.err = .TOO_SMALL :=
  @build_undoes_parse .TIME_PROPERTIES_DATA_SET _ _ _ _ rfl rfl (by decide) rfl rfl (by decide)

example : (BaseMngTlv.TIME_PROPERTIES_DATA_SET ⟨37, 0xff, 0x20⟩).normalise [0, 37, 0xff, 0x20] =
  [0, 37, 0x3f, 0x20] := rfl

end LibPmc
