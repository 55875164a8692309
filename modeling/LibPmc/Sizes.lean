import LibPmc.Emit
import LibPmc.Room
/-!
# The size functions

Each sums by hand what its process function writes. Eight of the nine have the sum right.
-/
namespace LibPmc

open Wire Wire.Prog

/-! ## The ids and the structures -/

/-- The ids with a size function. -/
def sizedIds : List MngVals :=
  [.CLOCK_DESCRIPTION, .USER_DESCRIPTION, .FAULT_LOG, .PATH_TRACE_LIST, .GRANDMASTER_CLUSTER_TABLE,
    .UNICAST_MASTER_TABLE, .ACCEPTABLE_MASTER_TABLE, .ALTERNATE_TIME_OFFSET_NAME, .PORT_PROPERTIES_NP]

/-- They are the ids whose size the table leaves open. -/
theorem mem_sizedIds (id : MngVals) : id ∈ sizedIds ↔ (mngAllVals id).size = -2 := by
  cases id <;> decide

/-- The text has fewer octets than 16 bits can count. -/
abbrev PTPText_t.Fits (v : PTPText_t) : Prop := v.textField.length < 65536

abbrev PortAddress_t.Fits (v : PortAddress_t) : Prop := v.addressField.length < 65536

/-- The record states the length that it is built with. -/
def FaultRecord_t.Consistent (v : FaultRecord_t) : Prop :=
  v.faultRecordLength.toNat = 16 + v.faultName.built.lengthField.toNat + v.faultValue.built.lengthField.toNat +
    v.faultDescription.built.lengthField.toNat

structure FaultRecord_t.Fits (v : FaultRecord_t) : Prop where
  faultName : v.faultName.Fits
  faultValue : v.faultValue.Fits
  faultDescription : v.faultDescription.Fits
  faultTime : v.faultTime.secondsField ≤ UINT48_MAX
  consistent : v.Consistent

structure CLOCK_DESCRIPTION_t.Fits (d : CLOCK_DESCRIPTION_t) : Prop where
  physicalLayerProtocol : d.physicalLayerProtocol.Fits
  physicalAddress : d.physicalAddress.length < 65536
  protocolAddress : d.protocolAddress.Fits
  productDescription : d.productDescription.Fits
  revisionData : d.revisionData.Fits
  userDescription : d.userDescription.Fits

/-- Texts and addresses are shorter than 65536 octets, seconds fit in 48 bits and fault records
state their lengths. -/
def Fitting : BaseMngTlv → Prop
  | .CLOCK_DESCRIPTION d => d.Fits
  | .USER_DESCRIPTION d => d.userDescription.Fits
  | .FAULT_LOG d => ∀ r ∈ d.faultRecords, r.Fits
  | .GRANDMASTER_CLUSTER_TABLE d => ∀ a ∈ d.PortAddress, a.Fits
  | .UNICAST_MASTER_TABLE d => ∀ a ∈ d.PortAddress, a.Fits
  | .ALTERNATE_TIME_OFFSET_NAME d => d.displayName.Fits
  | .PORT_PROPERTIES_NP d => d.interface.Fits
  | _ => True

/-! ## What is written -/

theorem emits_CLOCK_DESCRIPTION {d : CLOCK_DESCRIPTION_t} (h : d.Fits) :
    Emits (CLOCK_DESCRIPTION_f d) (CLOCK_DESCRIPTION_s d + 1) := by
  have := emits_text h.physicalLayerProtocol
  have := fun len => emits_binary d.physicalAddress len h.physicalAddress
  have := emits_address h.protocolAddress
  have := emits_text h.productDescription
  have := emits_text h.revisionData
  have := emits_text h.userDescription
  unfold CLOCK_DESCRIPTION_f
  exact Emits.cast (by simp only [CLOCK_DESCRIPTION_s, Word.width]; omega)

theorem emits_FaultRecord {v : FaultRecord_t} (h : v.Fits) : Emits (proc v) v.size := by
  have := emits_timestamp h.faultTime
  have := emits_text h.faultName
  have := emits_text h.faultValue
  have := emits_text h.faultDescription
  have hc := h.consistent
  change Emits v.proc _
  unfold FaultRecord_t.proc
  refine @Emits.cast _ _ _ _ _ (Emits.bind' fun len hl => Emits.bind' fun time _ => Emits.bind' fun code _ =>
    Emits.bind' fun name hn => Emits.bind' fun value hv => Emits.bind' (m := 0) fun descr hd => ?_) ?_
  · -- the check is about the lengths that were sent
    obtain rfl : v.faultRecordLength = len := Option.some.inj hl
    obtain rfl : v.faultName.built = name := Option.some.inj hn
    obtain rfl : v.faultValue.built = value := Option.some.inj hv
    obtain rfl : v.faultDescription.built = descr := Option.some.inj hd
    rw [if_neg fun hne => hne hc]
    exact Emits.pure _
  · simp only [FaultRecord_t.size, Timestamp_t.size, Word.width]
    omega

theorem emits_FAULT_LOG {d : FAULT_LOG_t} (h : ∀ r ∈ d.faultRecords, r.Fits) :
    Emits (FAULT_LOG_f d) (FAULT_LOG_s d) := by
  have := fun cnt => emits_vectorF cnt d.faultRecords fun r hr => emits_FaultRecord (h r hr)
  unfold FAULT_LOG_f
  exact Emits.cast (by simp only [FAULT_LOG_s, Word.width]; omega)

theorem emits_PATH_TRACE_LIST (d : PATH_TRACE_LIST_t) : Emits (PATH_TRACE_LIST_f d) (PATH_TRACE_LIST_s d) := by
  have : Emits (vectorO ClockIdentity_t.size d.pathSequence) ((d.pathSequence.map fun _ => 8).sum + 0) :=
    Emits.building (Emits.all fun a _ => (inferInstance : Emits (proc a) 8))
  unfold PATH_TRACE_LIST_f
  exact Emits.cast (by
    simp only [PATH_TRACE_LIST_s, ClockIdentity_t.size, List.map_const', List.sum_replicate_nat]
    omega)

theorem emits_PORT_PROPERTIES_NP {d : PORT_PROPERTIES_NP_t} (h : d.interface.Fits) :
    Emits (PORT_PROPERTIES_NP_f d) (PORT_PROPERTIES_NP_s d) := by
  have := emits_text h
  unfold PORT_PROPERTIES_NP_f
  exact Emits.cast (by simp only [PORT_PROPERTIES_NP_s, PortIdentity_t.size, ClockIdentity_t.size, Word.width]; omega)

/-- What a process function writes: as much as the size function has, and for a clock's
description an octet more. -/
theorem emits_sized {d : BaseMngTlv} {n : Nat} (hs : sizeTlv d = some n) (hf : Fitting d) :
    Emits (procTlv d) (if d.id = .CLOCK_DESCRIPTION then n + 1 else n) := by
  cases d with
  | CLOCK_DESCRIPTION d =>
    obtain rfl := Option.some.inj hs
    exact emits_variant (emits_CLOCK_DESCRIPTION hf)
  | USER_DESCRIPTION d =>
    obtain rfl := Option.some.inj hs
    exact emits_variant (emits_variant (emits_text hf))
  | FAULT_LOG d =>
    obtain rfl := Option.some.inj hs
    exact emits_variant (emits_FAULT_LOG hf)
  | PATH_TRACE_LIST d =>
    obtain rfl := Option.some.inj hs
    exact emits_variant (emits_PATH_TRACE_LIST d)
  | GRANDMASTER_CLUSTER_TABLE d =>
    obtain rfl := Option.some.inj hs
    exact emits_variant (emits_GRANDMASTER_CLUSTER_TABLE d hf)
  | UNICAST_MASTER_TABLE d =>
    obtain rfl := Option.some.inj hs
    exact emits_variant (emits_UNICAST_MASTER_TABLE d hf)
  | ACCEPTABLE_MASTER_TABLE d =>
    obtain rfl := Option.some.inj hs
    exact emits_variant (emits_ACCEPTABLE_MASTER_TABLE d)
  | ALTERNATE_TIME_OFFSET_NAME d =>
    obtain rfl := Option.some.inj hs
    exact emits_variant (emits_ALTERNATE_TIME_OFFSET_NAME hf)
  | PORT_PROPERTIES_NP d =>
    obtain rfl := Option.some.inj hs
    exact emits_variant (emits_PORT_PROPERTIES_NP hf)
  | _ => cases hs

/-! ## Runs -/

/-- With enough room, the run writes `n` octets at its cursor, moves past them and succeeds. -/
def WritesOctets {α : Type} (p : P α) (n : Nat) : Prop :=
  ∃ room : Int, ∀ c : Cursor MngParseError, c.build = true → room ≤ c.left →
    (p.run c).1.isSome = true ∧ (p.run c).2.cur = c.cur + n ∧ (p.run c).2.size = c.size + n ∧
      ∃ o : List UInt8, o.length = n ∧ (p.run c).2.mem = c.mem.store c.cur o

theorem writesOctets_iff {α : Type} {p : P α} {n : Nat} (h : Emits p n) (m : Nat) : WritesOctets p m ↔ m = n := by
  have hrun (c : Cursor MngParseError) (hb : c.build = true) (hl : (n : Int) ≤ c.left) :=
    run_build h.tame hb (by rw [h.length]; exact hl)
  constructor
  · rintro ⟨room, hw⟩
    let c : Cursor MngParseError := ⟨fun _ => 0, true, 0, max room n, 0, .OK, [], []⟩
    have hm := (hw c rfl (le_max_left _ _)).2.1
    rw [(hrun c rfl (le_max_right _ _)).2.2.1, h.length] at hm
    omega
  · rintro rfl
    refine ⟨m, fun c hb hl => ?_⟩
    obtain ⟨hv, hm, hc, -, hs, -⟩ := hrun c hb hl
    obtain ⟨a, ha⟩ := h.ok
    rw [h.length] at hc hs
    exact ⟨by rw [hv, ha]; rfl, hc, hs, _, h.length, hm⟩

theorem sizeTlv_of_mem {d : BaseMngTlv} (h : d.id ∈ sizedIds) : ∃ n : Nat, sizeTlv d = some n := by
  cases d <;> first
    | exact ⟨_, rfl⟩
    | exact absurd h (by simp only [BaseMngTlv.id]; decide)

/-- The size function has what gets written, for every id with one but CLOCK_DESCRIPTION. -/
theorem size_eq_written_iff (d : BaseMngTlv) (hd : d.id ∈ sizedIds) (hf : Fitting d) :
    (∃ n : Nat, dataFieldSize d.id (some d) = n ∧ WritesOctets (procTlv d) n) ↔ d.id ≠ .CLOCK_DESCRIPTION := by
  obtain ⟨n, hn⟩ := sizeTlv_of_mem hd
  have hs : dataFieldSize d.id (some d) = n := by
    change (sizeTlv d).elim (-2) (↑) = (n : Int)
    rw [hn]
    rfl
  have he := emits_sized hn hf
  constructor
  · rintro ⟨m, hm, hw⟩ hid
    rw [if_pos hid] at he
    have := (writesOctets_iff he m).1 hw
    omega
  · intro hid
    rw [if_neg hid] at he
    exact ⟨n, hs, (writesOctets_iff he n).2 rfl⟩

/-- The properties of a port with an interface. -/
def eth0Properties : BaseMngTlv :=
  .PORT_PROPERTIES_NP { (default : PORT_PROPERTIES_NP_t) with interface := ⟨4, [0x65, 0x74, 0x68, 0x30]⟩ }

theorem size_eq_written_eth0 :
    ∃ n : Nat, dataFieldSize .PORT_PROPERTIES_NP (some eth0Properties) = n ∧ WritesOctets (procTlv eth0Properties) n :=
  (size_eq_written_iff eth0Properties (by decide) (show 4 < 65536 by decide)).2 (by decide)

/-- An empty description has 22 octets, the size function says 21. -/
theorem empty_description_short : Fitting (.CLOCK_DESCRIPTION default) ∧
    dataFieldSize .CLOCK_DESCRIPTION (some (.CLOCK_DESCRIPTION default)) = 21 ∧
    WritesOctets (procTlv (.CLOCK_DESCRIPTION default)) 22 ∧
      ¬ WritesOctets (procTlv (.CLOCK_DESCRIPTION default)) 21 := by
  have hf : Fitting (.CLOCK_DESCRIPTION default) := ⟨by decide, by decide, by decide, by decide, by decide, by decide⟩
  have he : Emits (procTlv (.CLOCK_DESCRIPTION default)) 22 := emits_sized (n := 21) rfl hf
  exact ⟨hf, rfl, (writesOctets_iff he 22).2 rfl, fun h => absurd ((writesOctets_iff he 21).1 h) (by decide)⟩

end LibPmc
