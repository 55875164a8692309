import LibPmc.Wire.Room
import LibPmc.Lengths
/-!
# Where a build writes

`build_within_iff`: a build writes outside of its buffer exactly where it gets to an
address whose length modulo 65536 is within what is left, and whose length is not.
-/
namespace LibPmc

open Wire Wire.Prog

/-! ## The overloads of `proc` -/

section Steady

instance {α : Type} [Word α] (v : α) : Steady (proc v : P α) := Steady.word v
instance {n : Nat} (v : Octets n) : Steady (proc v : P (Octets n)) := Steady.array v
instance (v : UInt64) : Steady (proc48 v) := by unfold proc48; exact Steady.building inferInstance
instance (str : List UInt8) (len : UInt16) : Steady (procString str len) := by
  refine Steady.building ⟨⟨?_, trivial⟩⟩
  simp only [if_true, List.length_take, UInt16.toNat_ofNat']
  exact Nat.min_eq_left (Nat.mod_le _ _)
instance : Steady procReserved := ⟨⟨rfl, trivial⟩⟩
instance (flags mask : UInt8) : Steady (procFlags flags mask) := Steady.building inferInstance
instance (c : Counters) : Steady (procCounters c) := by unfold procCounters; infer_instance

instance (v : TimeInterval_t) : Steady (proc v) :=
  inferInstanceAs (Steady (TimeInterval_t.mk <$> proc v.scaledNanoseconds))
instance (v : ClockIdentity_t) : Steady (proc v) := inferInstanceAs (Steady (ClockIdentity_t.mk <$> proc v.v))
instance (v : Timestamp_t) : Steady (proc v) := by change Steady v.proc; unfold Timestamp_t.proc; infer_instance
instance (v : PortIdentity_t) : Steady (proc v) := by change Steady v.proc; unfold PortIdentity_t.proc; infer_instance
instance (v : ClockQuality_t) : Steady (proc v) := by change Steady v.proc; unfold ClockQuality_t.proc; infer_instance
instance (v : PTPText_t) : Steady (proc v) := by change Steady v.proc; unfold PTPText_t.proc; infer_instance
instance (v : FaultRecord_t) : Steady (proc v) := by change Steady v.proc; unfold FaultRecord_t.proc; infer_instance
instance (v : AcceptableMaster_t) : Steady (proc v) := by
  change Steady v.proc; unfold AcceptableMaster_t.proc
  infer_instance

variable {α : Type} [Proc α] [Inhabited α] [∀ a : α, Steady (proc a)]

instance (cnt : Nat) (vec : List α) : Steady (vectorF cnt vec) := Steady.building (Steady.all vec)
instance (size : Nat) (vec : List α) : Steady (vectorO size vec) := Steady.building (Steady.all vec)

end Steady

/-! ## Addresses -/

/-- Addresses, each behind `gap` octets of something else, in `room` octets: at each one
that the build gets to, either the low 16 bits of its length are already too many, or
all of it has room. -/
def InRoom : List (Nat × List UInt8) → Int → Prop
  | [], _ => True
  | (gap, a) :: rest, room =>
    room - gap < a.length % 65536 ∨ ((a.length : Int) ≤ room - gap ∧ InRoom rest (room - gap - a.length % 65536))

/-- The addresses a structure has are in room. -/
def AddressesInRoom : BaseMngTlv → Int → Prop
  | .CLOCK_DESCRIPTION d, room =>
    InRoom [(5 + d.physicalLayerProtocol.textField.length % 65536, d.physicalAddress),
      (4, d.protocolAddress.addressField)] room
  | .GRANDMASTER_CLUSTER_TABLE d, room => InRoom (d.PortAddress.map fun a => (4, a.addressField)) (room - 2)
  | .UNICAST_MASTER_TABLE d, room => InRoom (d.PortAddress.map fun a => (4, a.addressField)) (room - 3)
  | _, _ => True

/-- Where the room has run out, the build has failed. -/
theorem inRoom_of_neg {l : List (Nat × List UInt8)} {room : Int} (h : room < 0) : InRoom l room := by
  rcases l with _ | ⟨⟨gap, a⟩, rest⟩
  · trivial
  · exact .inl (by omega)

section Stays
variable {β : Type} {l : List (Nat × List UInt8)}

theorem stays_binary (bin : List UInt8) (len : UInt16) (f : List UInt8 → P β) (room : Int) :
    (procBinary bin len >>= f).Stays room ↔
      room < bin.length % 65536 ∨ ((bin.length : Int) ≤ room ∧ (f bin).Stays (room - bin.length % 65536)) := by
  have hn : ((UInt16.ofNat bin.length).toNat : Int) = bin.length % 65536 := by simp
  rw [← hn]
  exact Iff.rfl

theorem stays_address (a : PortAddress_t) (f : PortAddress_t → P β) {room : Int} (h0 : 0 ≤ room)
    (h : ∀ room, 0 ≤ room → ((f a.built).Stays room ↔ InRoom l room)) :
    (proc a >>= f).Stays room ↔ InRoom ((4, a.addressField) :: l) room := by
  change (a.proc >>= f).Stays room ↔ _
  unfold PortAddress_t.proc
  simp only [bind_assoc, pure_bind]
  have out (h : room < 4) : InRoom ((4, a.addressField) :: l) room := .inl (by omega)
  refine stays_word (n := 2) a.networkProtocol rfl h0 (fun hr => out (by omega)) fun h0 => ?_
  refine stays_word (n := 2) (UInt16.ofNat a.addressField.length) rfl h0 (fun hr => out (by omega)) fun h0 => ?_
  rw [stays_binary, InRoom, show room - (2 : Nat) - (2 : Nat) = room - (4 : Nat) by omega]
  rcases lt_or_ge (room - (4 : Nat)) ((a.addressField.length : Int) % 65536) with hr | hr
  · exact iff_of_true (.inl hr) (.inl hr)
  · rw [← h _ (by omega)]
    rfl

theorem stays_addresses : ∀ (v : List PortAddress_t) {room : Int}, 0 ≤ room →
    ((all proc v).Stays room ↔ InRoom (v.map fun a => (4, a.addressField)) room)
  | [], _, _ => Iff.rfl
  | a :: v, room, h0 => by
    rw [all_cons, List.map_cons]
    refine stays_address a _ h0 fun room h0 => ?_
    rw [bind_pure_comp, stays_map]
    exact stays_addresses v h0

end Stays

/-! ## The process functions -/

theorem octets_text (v : PTPText_t) : (proc v).write.octets.length = 1 + v.textField.length % 65536 := by
  have hs (len : UInt16) : (procString v.textField len).write.octets.length = v.textField.length % 65536 := by
    change (v.textField.take (UInt16.ofNat v.textField.length).toNat ++ []).length = _
    simp [Nat.min_eq_left (Nat.mod_le _ _)]
  change v.proc.write.octets.length = _
  unfold PTPText_t.proc
  rw [write_bind_of_some rfl, write_bind_of_some rfl]
  simp [hs]
  rfl

theorem stays_CLOCK_DESCRIPTION (d : CLOCK_DESCRIPTION_t) {room : Int} (h0 : 0 ≤ room) :
    (CLOCK_DESCRIPTION_f d).Stays room ↔
      InRoom [(5 + d.physicalLayerProtocol.textField.length % 65536, d.physicalAddress),
        (4, d.protocolAddress.addressField)] room := by
  generalize hn : d.physicalLayerProtocol.textField.length % 65536 = n
  have out (h : room < 5 + n) : InRoom [(5 + n, d.physicalAddress), (4, d.protocolAddress.addressField)] room :=
    .inl (by omega)
  unfold CLOCK_DESCRIPTION_f
  refine stays_word (n := 2) d.clockType rfl h0 (fun hr => out (by omega)) fun h0 => ?_
  refine stays_step Steady.tame rfl ((octets_text _).trans (by rw [hn])) h0 (fun hr => out (by omega)) fun h0 => ?_
  refine stays_word (n := 2) (UInt16.ofNat d.physicalAddress.length) rfl h0 (fun hr => out (by omega)) fun h0 => ?_
  rw [stays_binary, InRoom, show room - (2 : Nat) - (1 + n : Nat) - (2 : Nat) = room - (5 + n : Nat) by omega]
  rcases lt_or_ge (room - (5 + n : Nat)) ((d.physicalAddress.length : Int) % 65536) with hr | hr
  · exact iff_of_true (.inl hr) (.inl hr)
  · rw [stays_address (l := []) d.protocolAddress _ (by omega) fun room h0 => iff_of_true
      (Tame.stays Steady.tame _) trivial]

theorem stays_GRANDMASTER_CLUSTER_TABLE (d : GRANDMASTER_CLUSTER_TABLE_t) {room : Int} (h0 : 0 ≤ room) :
    (GRANDMASTER_CLUSTER_TABLE_f d).Stays room ↔
      InRoom (d.PortAddress.map fun a => (4, a.addressField)) (room - 2) := by
  unfold GRANDMASTER_CLUSTER_TABLE_f
  refine stays_word (n := 1) d.logQueryInterval rfl h0 (fun hr => inRoom_of_neg (by omega)) fun h0 => ?_
  refine stays_word (n := 1) (UInt8.ofNat d.PortAddress.length) rfl h0 (fun hr => inRoom_of_neg (by omega)) fun h0 => ?_
  rw [bind_pure_comp, stays_map, show room - 2 = room - (1 : Nat) - (1 : Nat) by omega]
  exact stays_addresses _ h0

theorem stays_UNICAST_MASTER_TABLE (d : UNICAST_MASTER_TABLE_t) {room : Int} (h0 : 0 ≤ room) :
    (UNICAST_MASTER_TABLE_f d).Stays room ↔ InRoom (d.PortAddress.map fun a => (4, a.addressField)) (room - 3) := by
  unfold UNICAST_MASTER_TABLE_f
  refine stays_word (n := 1) d.logQueryInterval rfl h0 (fun hr => inRoom_of_neg (by omega)) fun h0 => ?_
  refine stays_word (n := 2) (UInt16.ofNat d.PortAddress.length) rfl h0
    (fun hr => inRoom_of_neg (by omega)) fun h0 => ?_
  rw [bind_pure_comp, stays_map, show room - 3 = room - (1 : Nat) - (2 : Nat) by omega]
  exact stays_addresses _ h0

/-- Only an address writes more than it checks for. -/
theorem stays_procTlv (d : BaseMngTlv) {room : Int} (h0 : 0 ≤ room) :
    (procTlv d).Stays room ↔ AddressesInRoom d room := by
  cases d with
  | CLOCK_DESCRIPTION d => exact (stays_map _ _ _).trans (stays_CLOCK_DESCRIPTION d h0)
  | GRANDMASTER_CLUSTER_TABLE d => exact (stays_map _ _ _).trans (stays_GRANDMASTER_CLUSTER_TABLE d h0)
  | UNICAST_MASTER_TABLE d => exact (stays_map _ _ _).trans (stays_UNICAST_MASTER_TABLE d h0)
  | _ =>
    refine iff_of_true (Tame.stays (@Steady.tame _ _ _ ?_) _) trivial
    simp only [procTlv, USER_DESCRIPTION_f, INITIALIZE_f, FAULT_LOG_f, DEFAULT_DATA_SET_f, CURRENT_DATA_SET_f,
      PARENT_DATA_SET_f, TIME_PROPERTIES_DATA_SET_f, PORT_DATA_SET_f, PRIORITY1_f, PRIORITY2_f, DOMAIN_f,
      SLAVE_ONLY_f, LOG_ANNOUNCE_INTERVAL_f, ANNOUNCE_RECEIPT_TIMEOUT_f, LOG_SYNC_INTERVAL_f, VERSION_NUMBER_f,
      TIME_f, CLOCK_ACCURACY_f, UTC_PROPERTIES_f, TRACEABILITY_PROPERTIES_f, TIMESCALE_PROPERTIES_f,
      UNICAST_NEGOTIATION_ENABLE_f, PATH_TRACE_LIST_f, PATH_TRACE_ENABLE_f, UNICAST_MASTER_MAX_TABLE_SIZE_f,
      ACCEPTABLE_MASTER_TABLE_f, ACCEPTABLE_MASTER_TABLE_ENABLED_f, ACCEPTABLE_MASTER_MAX_TABLE_SIZE_f,
      ALTERNATE_MASTER_f, ALTERNATE_TIME_OFFSET_ENABLE_f, ALTERNATE_TIME_OFFSET_NAME_f,
      ALTERNATE_TIME_OFFSET_MAX_KEY_f, ALTERNATE_TIME_OFFSET_PROPERTIES_f, TRANSPARENT_CLOCK_PORT_DATA_SET_f,
      LOG_MIN_PDELAY_REQ_INTERVAL_f, TRANSPARENT_CLOCK_DEFAULT_DATA_SET_f, PRIMARY_DOMAIN_f, DELAY_MECHANISM_f,
      EXTERNAL_PORT_CONFIGURATION_ENABLED_f, MASTER_ONLY_f, HOLDOVER_UPGRADE_ENABLE_f,
      EXT_PORT_CONFIG_PORT_DATA_SET_f, TIME_STATUS_NP_f, GRANDMASTER_SETTINGS_NP_f, PORT_DATA_SET_NP_f,
      SUBSCRIBE_EVENTS_NP_f, PORT_PROPERTIES_NP_f, PORT_STATS_NP_f, SYNCHRONIZATION_UNCERTAIN_NP_f]
    infer_instance

/-! ## The build -/

section Build
variable {m : Message} {c : Cursor MngParseError} {n : Nat}

theorem buildPad_within (hb : c.build = true) (he : (c.cur : Int) + c.left = n) :
    Within n (Message.buildPad c).2.writes ↔ Within n c.writes := by
  have hs := run_stays procReserved hb he
  rw [and_iff_left (Tame.stays Steady.tame _)] at hs
  unfold Message.buildPad
  split
  · split <;> rename_i h <;> rw [h] at hs <;> exact hs
  · rfl

theorem buildZero_within (he : (c.cur : Int) + c.left = n) (h : Within n c.writes) :
    Within n (m.buildZero c).2.writes := by
  unfold Message.buildZero
  simp only
  generalize (if (mngAllVals m.tlvId).size = -2 then dataFieldSize m.tlvId none else (mngAllVals m.tlvId).size) = size
  split
  · exact h
  · split
    · exact h
    · split
      · exact h
      · refine List.forall_mem_append.2 ⟨h, List.forall_mem_singleton.2 ?_⟩
        rw [List.length_replicate]
        omega

theorem buildEnd_within (hn : mngMsgBaseSize ≤ n) : Within n (m.buildEnd c).writes ↔ Within n c.writes := by
  have h54 : 54 ≤ n := hn
  unfold Message.buildEnd
  simp only
  split
  · rfl
  · simp only [Within, List.forall_mem_append, List.forall_mem_cons]
    refine and_iff_left ⟨?_, ?_, by simp⟩ <;> simp [mngHeaderSize] <;> omega

/-- The dataField is written inside the buffer exactly where its addresses are in room. -/
theorem buildData_within {d : BaseMngTlv} (hd : ¬ Message.Miscast m.tlvId d) (hb : c.build = true) (h0 : 0 ≤ c.left)
    (he : (c.cur : Int) + c.left = n) :
    Within n (m.buildData d c).2.2.writes ↔ Within n c.writes ∧ (d.id = m.tlvId → AddressesInRoom d c.left) := by
  have hs : Within n ((callTlvData m.tlvId (.to d)).run c).2.writes ↔
      Within n c.writes ∧ (d.id = m.tlvId → AddressesInRoom d c.left) := by
    by_cases hid : d.id = m.tlvId
    · rw [← hid, run_callTlvData hb, run_stays _ hb he, stays_map, stays_procTlv d h0]
      simp
    · have hn : newTlv m.tlvId = none := by
        by_contra hn
        exact hd ⟨hn, hid⟩
      unfold callTlvData
      rw [hn]
      exact (and_iff_left fun h => absurd h hid).symm
  obtain ⟨hb', he'⟩ := run_end (callTlvData m.tlvId (.to d)) c
  rw [← hs]
  unfold Message.buildData
  rcases hr : (callTlvData m.tlvId (.to d)).run c with ⟨_ | p, c'⟩
  · rfl
  · rw [hr] at hb' he'
    exact buildPad_within (hb'.trans hb) (he'.trans he)

end Build

section Message
variable {m : Message} {n : Nat}

theorem buildCursor_end (buf : Mem) (sequence : UInt16) :
    ((m.buildCursor buf n sequence).cur : Int) + (m.buildCursor buf n sequence).left = n := by
  simp [Message.buildCursor]

theorem buildCursor_within (buf : Mem) (sequence : UInt16) (hn : mngMsgBaseSize ≤ n) :
    Within n (m.buildCursor buf n sequence).writes := by
  have h54 : 54 ≤ n := hn
  simp [Message.buildCursor, Within, mngHeaderSize, tlvSize]
  omega

/-- Without a structure, a build stays in its buffer. -/
theorem build_plain_within (buf : Mem) (sequence : UInt16)
    (h : n < mngMsgBaseSize ∨ m.sendAction = .GET ∨ m.dataSend = none) :
    ∃ b, m.build buf n sequence = some b ∧ Within n b.writes := by
  unfold Message.build
  by_cases hsize : n < mngMsgBaseSize
  · exact ⟨_, if_pos hsize, by simp [Within]⟩
  have hn := Nat.not_lt.1 hsize
  have hc := buildCursor_within (m := m) buf sequence hn
  rw [if_neg hsize]
  by_cases hget : m.sendAction = .GET
  · simp only [if_pos hget]
    have hz := buildZero_within (m := m) (buildCursor_end buf sequence) hc
    rcases hr : m.buildZero (m.buildCursor buf n sequence) with ⟨_ | e, c⟩ <;> rw [hr] at hz
    · exact ⟨_, rfl, (buildEnd_within hn).2 hz⟩
    · exact ⟨_, rfl, hz⟩
  · simp only [if_neg hget, (h.resolve_left hsize).resolve_left hget]
    exact ⟨_, rfl, (buildEnd_within hn).2 hc⟩

/-- With one, it does where the addresses are in room. -/
theorem build_data_within (buf : Mem) (sequence : UInt16) {d : BaseMngTlv} (hn : mngMsgBaseSize ≤ n)
    (hget : m.sendAction ≠ .GET) (hdata : m.dataSend = some d) (hmis : ¬ Message.Miscast m.tlvId d) :
    ∃ b, m.build buf n sequence = some b ∧
      (Within n b.writes ↔ (d.id = m.tlvId → AddressesInRoom d (n - mngMsgBaseSize))) := by
  have h0 : (0 : Int) ≤ n - mngMsgBaseSize := by omega
  have hd := buildData_within hmis (c := m.buildCursor buf n sequence) rfl h0 (buildCursor_end buf sequence)
  have hw := hd.trans (and_iff_right (buildCursor_within buf sequence hn))
  rw [Message.build_dataSend buf sequence (Nat.not_lt.2 hn) hget hdata hmis]
  rcases hr : m.buildData d (m.buildCursor buf n sequence) with ⟨_ | e, m', c⟩ <;> rw [hr] at hw
  · exact ⟨_, rfl, (buildEnd_within hn).trans hw⟩
  · exact ⟨_, rfl, hw⟩

end Message

/-- A build writes nothing outside of the buffer exactly where it needs not write a
structure that is not the one of its id, and each address that it gets to is in room. -/
theorem build_within_iff (m : Message) (buf : Mem) (bufSize : Nat) (sequence : UInt16) :
    (∃ b, m.build buf bufSize sequence = some b ∧ Within bufSize b.writes) ↔
      (mngMsgBaseSize ≤ bufSize → m.sendAction ≠ .GET → ∀ d ∈ m.dataSend,
        ¬ Message.Miscast m.tlvId d ∧ (d.id = m.tlvId → AddressesInRoom d (bufSize - mngMsgBaseSize))) := by
  constructor
  · rintro ⟨b, hb, hw⟩ hn hget d hd
    have hmis : ¬ Message.Miscast m.tlvId d := by
      intro hmis
      simp only [Message.build, if_neg (Nat.not_lt.2 hn), if_neg hget, Option.mem_def.1 hd, if_pos hmis] at hb
      cases hb
    obtain ⟨b', hb', hiff⟩ := build_data_within buf sequence hn hget hd hmis
    obtain rfl := Option.some.inj (hb.symm.trans hb')
    exact ⟨hmis, hiff.1 hw⟩
  · intro h
    by_cases hplain : bufSize < mngMsgBaseSize ∨ m.sendAction = .GET ∨ m.dataSend = none
    · exact build_plain_within buf sequence hplain
    · rw [not_or, not_or, Nat.not_lt] at hplain
      obtain ⟨hn, hget, hdata⟩ := hplain
      obtain ⟨d, hd⟩ := Option.ne_none_iff_exists'.1 hdata
      obtain ⟨hmis, hroom⟩ := h hn hget d hd
      obtain ⟨b, hb, hiff⟩ := build_data_within buf sequence hn hget hd hmis
      exact ⟨b, hb, hiff.2 hroom⟩

/-- A request to set one unicast master. -/
def setMaster (addressField : List UInt8) : Message := setRequest (.UNICAST_MASTER_TABLE ⟨0, 0, [⟨1, 0, addressField⟩]⟩)

theorem set_setMaster (addressField : List UInt8) : (setMaster addressField).Set :=
  set_setRequest ⟨.inl rfl, by simp only [BaseMngTlv.id]; decide⟩

/-- An address of 65536 octets gets written where there is room for none. -/
theorem build_leaves_buffer : ¬ ∀ (m : Message) (_ : m.Set) (buf : Mem) (bufSize : Nat) (sequence : UInt16)
    (b : Message.Built), m.build buf bufSize sequence = some b → Within bufSize b.writes := by
  intro h
  obtain ⟨a, hlen⟩ : ∃ a : List UInt8, a.length = 65536 := ⟨List.replicate 65536 0, List.length_replicate⟩
  have hmis : ¬ Message.Miscast (setMaster a).tlvId (.UNICAST_MASTER_TABLE ⟨0, 0, [⟨1, 0, a⟩]⟩) := fun h => h.2 rfl
  obtain ⟨b, hb, hiff⟩ := build_data_within (m := setMaster a)
    (n := 61) (fun _ => 0) 0 (by decide) (fun hg => by cases hg) rfl hmis
  have hw : InRoom [(4, a)] 4 := hiff.1 (h _ (set_setMaster a) _ _ _ b hb) rfl
  simp [InRoom, hlen] at hw

end LibPmc
