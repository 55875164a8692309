import LibPmc.Wire.Fresh
import LibPmc.Wire.Room
import LibPmc.Bounds
import LibPmc.Send
import LibPmc.Session
/-!
# What the buffer held before

Messages are built in the buffer that others were received in. `SameRequest.build`: neither what a
build gives nor the octets of the message go by what the buffer held, or by what was received.
-/
namespace LibPmc

open Wire Wire.Prog

/-! ## The process functions -/

section Gapless

instance {α : Type} : Gapless Failure (fail (some .VAL) : P α) := Gapless.fail_some (by decide)
instance {α : Type} : Gapless Failure (fail (some .SIZE_MISS) : P α) := Gapless.fail_some (by decide)
instance {α : Type} [Word α] (v : α) : Gapless Failure (proc v : P α) := Gapless.word v
instance {n : Nat} (v : Octets n) : Gapless Failure (proc v : P (Octets n)) := Gapless.array v
instance (v : UInt64) : Gapless Failure (proc48 v) := by unfold proc48; exact Gapless.building inferInstance
instance (str : List UInt8) (len : UInt16) : Gapless Failure (procString str len) := by
  refine Gapless.building ⟨?_, trivial⟩
  simp only [if_true, List.length_take, UInt16.toNat_ofNat', le_inf_iff]
  exact ⟨le_refl _, Nat.mod_le _ _⟩
instance (bin : List UInt8) (len : UInt16) : Gapless Failure (procBinary bin len) := by
  refine Gapless.building ⟨?_, trivial⟩
  simp only [if_true, UInt16.toNat_ofNat']
  exact Nat.mod_le _ _
instance : Gapless Failure procReserved := ⟨⟨le_refl _, trivial⟩⟩
instance (flags mask : UInt8) : Gapless Failure (procFlags flags mask) := Gapless.building inferInstance
instance (c : Counters) : Gapless Failure (procCounters c) := by unfold procCounters; infer_instance

instance (v : TimeInterval_t) : Gapless Failure (proc v) :=
  inferInstanceAs (Gapless Failure (TimeInterval_t.mk <$> proc v.scaledNanoseconds))
instance (v : ClockIdentity_t) : Gapless Failure (proc v) :=
  inferInstanceAs (Gapless Failure (ClockIdentity_t.mk <$> proc v.v))
instance (v : Timestamp_t) : Gapless Failure (proc v) := by
  change Gapless Failure v.proc; unfold Timestamp_t.proc; infer_instance
instance (v : PortIdentity_t) : Gapless Failure (proc v) := by
  change Gapless Failure v.proc; unfold PortIdentity_t.proc; infer_instance
instance (v : PortAddress_t) : Gapless Failure (proc v) := by
  change Gapless Failure v.proc; unfold PortAddress_t.proc; infer_instance
instance (v : ClockQuality_t) : Gapless Failure (proc v) := by
  change Gapless Failure v.proc; unfold ClockQuality_t.proc; infer_instance
instance (v : PTPText_t) : Gapless Failure (proc v) := by
  change Gapless Failure v.proc; unfold PTPText_t.proc; infer_instance
instance (v : FaultRecord_t) : Gapless Failure (proc v) := by
  change Gapless Failure v.proc; unfold FaultRecord_t.proc; infer_instance
instance (v : AcceptableMaster_t) : Gapless Failure (proc v) := by
  change Gapless Failure v.proc; unfold AcceptableMaster_t.proc; infer_instance

variable {α : Type} [Proc α] [Inhabited α] [∀ a : α, Gapless Failure (proc a)]

instance (cnt : Nat) (vec : List α) : Gapless Failure (vectorF cnt vec) := Gapless.building (Gapless.all vec)
instance (size : Nat) (vec : List α) : Gapless Failure (vectorO size vec) := Gapless.building (Gapless.all vec)

end Gapless

/-- No structure leaves a gap, whatever its addresses. -/
instance gapless_procTlv (d : BaseMngTlv) : Gapless Failure (procTlv d) := by
  cases d <;> simp only [procTlv,
    CLOCK_DESCRIPTION_f, USER_DESCRIPTION_f, INITIALIZE_f, FAULT_LOG_f, DEFAULT_DATA_SET_f, CURRENT_DATA_SET_f,
    PARENT_DATA_SET_f, TIME_PROPERTIES_DATA_SET_f, PORT_DATA_SET_f, PRIORITY1_f, PRIORITY2_f, DOMAIN_f,
    SLAVE_ONLY_f, LOG_ANNOUNCE_INTERVAL_f, ANNOUNCE_RECEIPT_TIMEOUT_f, LOG_SYNC_INTERVAL_f, VERSION_NUMBER_f,
    TIME_f, CLOCK_ACCURACY_f, UTC_PROPERTIES_f, TRACEABILITY_PROPERTIES_f, TIMESCALE_PROPERTIES_f,
    UNICAST_NEGOTIATION_ENABLE_f, PATH_TRACE_LIST_f, PATH_TRACE_ENABLE_f, GRANDMASTER_CLUSTER_TABLE_f,
    UNICAST_MASTER_TABLE_f, UNICAST_MASTER_MAX_TABLE_SIZE_f, ACCEPTABLE_MASTER_TABLE_f,
    ACCEPTABLE_MASTER_TABLE_ENABLED_f, ACCEPTABLE_MASTER_MAX_TABLE_SIZE_f, ALTERNATE_MASTER_f,
    ALTERNATE_TIME_OFFSET_ENABLE_f, ALTERNATE_TIME_OFFSET_NAME_f, ALTERNATE_TIME_OFFSET_MAX_KEY_f,
    ALTERNATE_TIME_OFFSET_PROPERTIES_f, TRANSPARENT_CLOCK_PORT_DATA_SET_f, LOG_MIN_PDELAY_REQ_INTERVAL_f,
    TRANSPARENT_CLOCK_DEFAULT_DATA_SET_f, PRIMARY_DOMAIN_f, DELAY_MECHANISM_f,
    EXTERNAL_PORT_CONFIGURATION_ENABLED_f, MASTER_ONLY_f, HOLDOVER_UPGRADE_ENABLE_f,
    EXT_PORT_CONFIG_PORT_DATA_SET_f, TIME_STATUS_NP_f, GRANDMASTER_SETTINGS_NP_f, PORT_DATA_SET_NP_f,
    SUBSCRIBE_EVENTS_NP_f, PORT_PROPERTIES_NP_f, PORT_STATS_NP_f, SYNCHRONIZATION_UNCERTAIN_NP_f] <;> infer_instance

/-- The function of an id, on a structure to send. -/
instance gapless_callTlvData (id : MngVals) (d : BaseMngTlv) : Gapless Failure (callTlvData id (.to d)) := by
  unfold callTlvData
  cases newTlv id with
  | none => exact Gapless.pure _
  | some t =>
    have h : Gapless Failure (TlvPtr.to <$> procTlv d) := inferInstance
    exact ⟨h.covers⟩

/-! ## The dataField -/

/-- Two objects make the same request. -/
structure SameRequest (m m' : Message) : Prop where
  sendAction : m'.sendAction = m.sendAction
  tlvId : m'.tlvId = m.tlvId
  dataSend : m'.dataSend = m.dataSend
  prms : m'.prms = m.prms

/-- Two cursors whose memories agree up to the end of the dataField, but for the length of the TLV,
which is written last. -/
structure SameField (c c' : Cursor MngParseError) : Prop where
  same : c' = c.over c'.mem
  mem : ∀ i, i < mngMsgBaseSize + c.size → i < 50 ∨ 52 ≤ i → c'.mem i = c.mem i

section Field
variable {m m' : Message} {c c' : Cursor MngParseError}

theorem SameField.size (h : SameField c c') : c'.size = c.size := by rw [h.same]; rfl

theorem SameField.run {α : Type} (p : P α) [hp : Gapless Failure p] (h : SameField c c') (hb : c.build = true)
    (hc : c.cur = mngMsgBaseSize + c.size) : (p.run c').1 = (p.run c).1 ∧ SameField (p.run c).2 (p.run c').2 := by
  obtain ⟨mem', hr, ha⟩ := run_fresh hp.covers hb c'.mem
  have hs := run_size p c
  rw [h.same, hr]
  refine ⟨rfl, rfl, fun i hi h50 => ha i ?_⟩
  by_cases hlt : i < mngMsgBaseSize + c.size
  · exact .inl (h.mem i hlt h50)
  · exact .inr ⟨by omega, by omega⟩

theorem SameField.buildPad (h : SameField c c') (hb : c.build = true) (hc : c.cur = mngMsgBaseSize + c.size) :
    (Message.buildPad c').1 = (Message.buildPad c).1 ∧ SameField (Message.buildPad c).2 (Message.buildPad c').2 := by
  obtain ⟨hv, hf⟩ := h.run procReserved hb hc
  unfold Message.buildPad
  rw [h.size]
  split
  · generalize procReserved.run c = x at hv hf ⊢
    generalize procReserved.run c' = y at hv hf ⊢
    rcases x with ⟨_ | _, x⟩ <;> rcases y with ⟨_ | _, y⟩ <;> cases hv
    · exact ⟨rfl, hf⟩
    · exact ⟨rfl, hf⟩
  · exact ⟨rfl, h⟩

theorem SameField.buildZero (h : SameField c c') (hm : SameRequest m m') (hc : c.cur = mngMsgBaseSize)
    (hs : c.size = 0) :
    (m'.buildZero c').1 = (m.buildZero c).1 ∧ SameField (m.buildZero c).2 (m'.buildZero c').2 := by
  have hl : c'.left = c.left := by rw [h.same]; rfl
  unfold Message.buildZero
  rw [hm.prms, hm.tlvId]
  dsimp only
  generalize (if (mngAllVals m.tlvId).size = -2 then dataFieldSize m.tlvId none else (mngAllVals m.tlvId).size) = n
  split
  · exact ⟨rfl, h⟩
  split
  · exact ⟨rfl, h⟩
  rw [hl]
  split
  · exact ⟨rfl, h⟩
  refine ⟨rfl, by rw [h.same]; rfl, fun i hi h50 => ?_⟩
  have hcur : c'.cur = c.cur := by rw [h.same]; rfl
  simp only [Cursor.store, hcur] at hi ⊢
  apply Mem.store_agree
  by_cases hlt : i < mngMsgBaseSize
  · exact .inl (h.mem i (by omega) h50)
  · exact .inr ⟨by omega, by rw [List.length_replicate]; omega⟩

theorem SameField.buildData (h : SameField c c') (hm : SameRequest m m') (d : BaseMngTlv) (hb : c.build = true)
    (hc : c.cur = mngMsgBaseSize + c.size) :
    (m'.buildData d c').1 = (m.buildData d c).1 ∧ SameRequest (m.buildData d c).2.1 (m'.buildData d c').2.1 ∧
      SameField (m.buildData d c).2.2 (m'.buildData d c').2.2 := by
  have hs := run_size (callTlvData m.tlvId (.to d)) c
  have hb' := (run_end (callTlvData m.tlvId (.to d)) c).1
  obtain ⟨hv, hf⟩ := h.run (callTlvData m.tlvId (.to d)) hb hc
  unfold Message.buildData
  rw [hm.tlvId]
  generalize (callTlvData m.tlvId (.to d)).run c = x at hs hb' hv hf ⊢
  generalize (callTlvData m.tlvId (.to d)).run c' = y at hv hf ⊢
  rcases x with ⟨_ | p, x⟩ <;> rcases y with ⟨_ | p', y⟩ <;> cases hv
  · exact ⟨congrArg (fun c => some c.err) hf.same, hm, hf⟩
  · obtain ⟨he, hp⟩ := hf.buildPad (hb'.trans hb) (by omega)
    refine ⟨he, ?_, hp⟩
    rcases p with _ | _ | a
    · exact hm
    · exact hm
    · exact ⟨hm.sendAction, rfl, rfl, hm.prms⟩

end Field

/-! ## The message -/

theorem headerOctets_length (m : Message) (sequence : UInt16) : (m.headerOctets sequence).length = mngHeaderSize := by
  simp [Message.headerOctets, m.prms.self_id.clockIdentity.v.2, m.prms.target.clockIdentity.v.2, mngHeaderSize]

/-- Two builds give the same, and the same octets where they make a message. -/
structure SameMessage (b b' : Message.Built) : Prop where
  err : b'.err = b.err
  request : SameRequest b.msg b'.msg
  octets : b.err = .OK → b'.mem.slice 0 b'.msg.msgLen = b.mem.slice 0 b.msg.msgLen

section Message
variable {m m' : Message} {c c' : Cursor MngParseError}

theorem SameRequest.buildCursor (h : SameRequest m m') (buf buf' : Mem) (bufSize : Nat) (sequence : UInt16) :
    SameField (m.buildCursor buf bufSize sequence) (m'.buildCursor buf' bufSize sequence) := by
  have hh : m'.headerOctets sequence = m.headerOctets sequence := by
    unfold Message.headerOctets
    rw [h.prms, h.sendAction]
  have hl := headerOctets_length m sequence
  refine ⟨by simp only [Message.buildCursor, Cursor.over], fun i hi h50 => ?_⟩
  simp only [Message.buildCursor, hh, h.tlvId]
  by_cases h52 : mngHeaderSize + tlvSize ≤ i
  · exact Mem.store_agree _ _ (.inr ⟨h52, hi⟩)
  refine Mem.store_agree _ _ (.inl ?_)
  by_cases h48 : mngHeaderSize ≤ i
  · exact Mem.store_agree _ _ (.inr ⟨h48, h50.resolve_right h52⟩)
  · exact Mem.store_agree _ _ (.inl (Mem.store_agree _ _ (.inr ⟨Nat.zero_le _, by omega⟩)))

theorem SameField.buildEnd (h : SameField c c') (hm : SameRequest m m') :
    SameMessage (m.buildEnd c) (m'.buildEnd c') := by
  have h50 : mngHeaderSize + 2 = 50 := rfl
  unfold Message.buildEnd
  dsimp only
  rw [h.size]
  split
  · exact ⟨rfl, hm, fun h => by cases h⟩
  refine ⟨rfl, ⟨hm.sendAction, hm.tlvId, hm.dataSend, hm.prms⟩, fun _ => Mem.slice_congr fun i _ hi => ?_⟩
  refine Mem.store_agree _ _ (.inl (Mem.store_agree _ _ ?_))
  rw [beOctets_length]
  by_cases hlen : 50 ≤ i ∧ i < 52
  · exact .inr (by omega)
  · exact .inl (h.mem i (by rw [Nat.zero_add] at hi; exact hi) (by omega))

/-- A build that fails. -/
theorem SameRequest.refused (h : SameRequest m m') {e : MngParseError} (he : e ≠ .OK) (a b : Mem)
    (v w : List (Nat × Nat)) :
    SameMessage ⟨e, m, a, v⟩ ⟨e, m', b, w⟩ := ⟨rfl, h, fun h => absurd h he⟩

theorem buildZero_ne {e : MngParseError} (h : (m.buildZero c).1 = some e) : e ≠ .OK := by
  unfold Message.buildZero at h
  dsimp only at h
  generalize (if (mngAllVals m.tlvId).size = -2 then dataFieldSize m.tlvId none else (mngAllVals m.tlvId).size) = n at h
  split at h
  · cases h
  split at h
  · cases h; decide
  split at h
  · cases h; decide
  · cases h

theorem buildData_ne {d : BaseMngTlv} (hb : c.build = true) (hc : c.err = .TOO_SMALL) {e : MngParseError}
    (h : (m.buildData d c).1 = some e) : e ≠ .OK := by
  have hf := run_err (gapless_callTlvData m.tlvId d).covers hb (show Failure c.err by rw [hc]; decide)
  unfold Message.buildData at h
  generalize (callTlvData m.tlvId (.to d)).run c = x at hf h
  rcases x with ⟨_ | p, x⟩
  · cases h
    rintro h
    rw [h] at hf
    exact absurd hf (by decide)
  · obtain rfl := buildPad_err e h
    decide

/-- What a build gives, and the octets of the message, go neither by what the buffer held before
nor by what was received. -/
theorem SameRequest.build (h : SameRequest m m') (buf buf' : Mem) (bufSize : Nat) (sequence : UInt16) :
    Option.Rel SameMessage (m.build buf bufSize sequence) (m'.build buf' bufSize sequence) := by
  have hc := h.buildCursor buf buf' bufSize sequence
  unfold Message.build
  rw [h.sendAction, h.dataSend, h.tlvId]
  by_cases hs : bufSize < mngMsgBaseSize
  · rw [if_pos hs, if_pos hs]
    exact .some (h.refused (by decide) _ _ _ _)
  rw [if_neg hs, if_neg hs]
  dsimp only
  by_cases hg : m.sendAction = .GET
  · rw [if_pos hg, if_pos hg]
    obtain ⟨he, hf⟩ := hc.buildZero h rfl rfl
    have hne {e} := @buildZero_ne m (m.buildCursor buf bufSize sequence) e
    generalize m.buildZero (m.buildCursor buf bufSize sequence) = x at he hf hne ⊢
    generalize m'.buildZero (m'.buildCursor buf' bufSize sequence) = y at he hf ⊢
    rcases x with ⟨_ | e, x⟩ <;> rcases y with ⟨_ | e', y⟩ <;> cases he
    · exact .some (hf.buildEnd h)
    · exact .some (h.refused (hne rfl) _ _ _ _)
  rw [if_neg hg, if_neg hg]
  cases m.dataSend with
  | none => exact .some (hc.buildEnd h)
  | some d =>
    dsimp only
    by_cases hm : Message.Miscast m.tlvId d
    · rw [if_pos hm, if_pos hm]
      exact .none
    rw [if_neg hm, if_neg hm]
    obtain ⟨he, hr, hf⟩ := hc.buildData h d rfl rfl
    have hne {e} := @buildData_ne m (m.buildCursor buf bufSize sequence) d rfl rfl e
    generalize m.buildData d (m.buildCursor buf bufSize sequence) = x at he hr hf hne ⊢
    generalize m'.buildData d (m'.buildCursor buf' bufSize sequence) = y at he hr hf ⊢
    rcases x with ⟨_ | e, n, x⟩ <;> rcases y with ⟨_ | e', n', y⟩ <;> cases he
    · exact .some (hf.buildEnd hr)
    · exact .some (SameRequest.refused hr (hne rfl) _ _ _ _)

/-! ## Two objects -/

theorem allowedAction_congr (h : m'.prms = m.prms) (id : MngVals) (action : ActionField) :
    m'.allowedAction id action = m.allowedAction id action := by
  unfold Message.allowedAction
  rw [h]

/-- The same request is set on two objects of the same parameters, or on none. -/
theorem setAction_request (h : m'.prms = m.prms) (action : ActionField) (id : MngVals) :
    (m'.setAction action id).1 = (m.setAction action id).1 ∧
      (m'.setAction action id).2.prms = (m.setAction action id).2.prms ∧
      ((m.setAction action id).1 = true → SameRequest (m.setAction action id).2 (m'.setAction action id).2) := by
  unfold Message.setAction
  rw [allowedAction_congr h]
  split
  · exact ⟨rfl, h, fun h => by cases h⟩
  split
  · exact ⟨rfl, h, fun h => by cases h⟩
  · exact ⟨rfl, h, fun _ => ⟨rfl, rfl, rfl, h⟩⟩

theorem setActionData_request (h : m'.prms = m.prms) (action : ActionField) (id : MngVals) (d : BaseMngTlv) :
    (m'.setActionData action id d).1 = (m.setActionData action id d).1 ∧
      (m'.setActionData action id d).2.prms = (m.setActionData action id d).2.prms ∧
      ((m.setActionData action id d).1 = true →
        SameRequest (m.setActionData action id d).2 (m'.setActionData action id d).2) := by
  unfold Message.setActionData
  rw [allowedAction_congr h]
  split
  · exact ⟨rfl, h, fun h => by cases h⟩
  · exact ⟨rfl, h, fun _ => ⟨rfl, rfl, rfl, h⟩⟩

end Message

/-- On two objects of the same parameters, whatever they have received and whatever their buffers
hold, the same setAction gives the same messages to the last octet. -/
theorem built_fresh (m m' : Message) (h : m'.prms = m.prms) (action : ActionField) (id : MngVals) (d : BaseMngTlv)
    (buf buf' : Mem) (bufSize : Nat) (sequence : UInt16) :
    ((m.setAction action id).1 = true → Option.Rel SameMessage ((m.setAction action id).2.build buf bufSize sequence)
      ((m'.setAction action id).2.build buf' bufSize sequence)) ∧
    ((m.setActionData action id d).1 = true →
      Option.Rel SameMessage ((m.setActionData action id d).2.build buf bufSize sequence)
        ((m'.setActionData action id d).2.build buf' bufSize sequence)) :=
  ⟨fun hs => ((setAction_request h action id).2.2 hs).build buf buf' bufSize sequence,
    fun hs => ((setActionData_request h action id d).2.2 hs).build buf buf' bufSize sequence⟩

/-- A priority is got with the same octets before a reply is received in the buffer and after it. -/
theorem built_fresh_reply : Option.Rel SameMessage
    (((Message.new default).setAction .GET .PRIORITY1).2.build (fun _ => 0) 2000 7)
    ((((Message.new default).parse priorityReply 56).msg.setAction .GET .PRIORITY1).2.build priorityReply 2000 7) :=
  (built_fresh (Message.new default) _ (parse_send _ _ _).1.prms .GET .PRIORITY1 (.PRIORITY1 ⟨0⟩) _ _ _ _).1 (by decide)

end LibPmc
