import LibPmc.Wire.Bounds
import LibPmc.Sig
/-!
# How much the process functions take

All but one check for what they move past. ENHANCED_ACCURACY_METRICS does not: each of
its doubles is moved past twice.
-/
namespace LibPmc

open Wire Wire.Prog

/-! ## The overloads of `proc` -/

/-- What a process function fails with. -/
abbrev Failure (e : MngParseError) : Prop := e ≠ .OK ∧ e ≠ .MSG ∧ e ≠ .SIG

section Checked

instance {α : Type} : Checked Failure (fail (some .VAL) : P α) := Checked.fail_some (by decide)
instance {α : Type} : Checked Failure (fail (some .SIZE_MISS) : P α) := Checked.fail_some (by decide)
instance {α : Type} [Word α] (v : α) : Checked Failure (proc v : P α) := Checked.word v
instance {n : Nat} (v : Octets n) : Checked Failure (proc v : P (Octets n)) := Checked.array v
instance (v : UInt64) : Checked Failure (proc48 v) := by unfold proc48; infer_instance
instance (str : List UInt8) (len : UInt16) :
    Checked Failure (procString str len) := by unfold procString; infer_instance
instance (bin : List UInt8) (len : UInt16) :
    Checked Failure (procBinary bin len) := by unfold procBinary; infer_instance
instance : Checked Failure procReserved := by unfold procReserved; infer_instance
instance (flags mask : UInt8) : Checked Failure (procFlags flags mask) := by unfold procFlags; infer_instance
instance (c : Counters) : Checked Failure (procCounters c) := by unfold procCounters; infer_instance

instance (v : TimeInterval_t) : Checked Failure (proc v) :=
  inferInstanceAs (Checked Failure (TimeInterval_t.mk <$> proc v.scaledNanoseconds))
instance (v : ClockIdentity_t) : Checked Failure (proc v) :=
  inferInstanceAs (Checked Failure (ClockIdentity_t.mk <$> proc v.v))
instance (v : Timestamp_t) : Checked Failure (proc v) := by
  change Checked Failure v.proc; unfold Timestamp_t.proc
  infer_instance
instance (v : PortIdentity_t) : Checked Failure (proc v) := by
  change Checked Failure v.proc; unfold PortIdentity_t.proc
  infer_instance
instance (v : PortAddress_t) : Checked Failure (proc v) := by
  change Checked Failure v.proc; unfold PortAddress_t.proc
  infer_instance
instance (v : ClockQuality_t) : Checked Failure (proc v) := by
  change Checked Failure v.proc; unfold ClockQuality_t.proc
  infer_instance
instance (v : PTPText_t) : Checked Failure (proc v) := by
  change Checked Failure v.proc; unfold PTPText_t.proc
  infer_instance
instance (v : FaultRecord_t) : Checked Failure (proc v) := by
  change Checked Failure v.proc; unfold FaultRecord_t.proc
  infer_instance
instance (v : AcceptableMaster_t) : Checked Failure (proc v) := by
  change Checked Failure v.proc; unfold AcceptableMaster_t.proc; infer_instance

variable {α : Type} [Proc α] [Inhabited α] [∀ a : α, Checked Failure (proc a)]

instance (cnt : Nat) (vec : List α) : Checked Failure (vectorF cnt vec) := by unfold vectorF; infer_instance
instance (size : Nat) (vec : List α) : Checked Failure (vectorO size vec) := by unfold vectorO; infer_instance

end Checked

/-! ## The management TLVs -/

/-- No management TLV takes more than it has. -/
instance checked_procTlv (t : BaseMngTlv) : Checked Failure (procTlv t) := by
  cases t <;> simp only [procTlv,
    CLOCK_DESCRIPTION_f, USER_DESCRIPTION_f, INITIALIZE_f, FAULT_LOG_f, DEFAULT_DATA_SET_f, CURRENT_DATA_SET_f,
    PARENT_DATA_SET_f, TIME_PROPERTIES_DATA_SET_f, PORT_DATA_SET_f, PRIORITY1_f, PRIORITY2_f, DOMAIN_f,
    SLAVE_ONLY_f, LOG_ANNOUNCE_INTERVAL_f, ANNOUNCE_RECEIPT_TIMEOUT_f, LOG_SYNC_INTERVAL_f, VERSION_NUMBER_f,
    TIME_f, CLOCK_ACCURACY_f, UTC_PROPERTIES_f, TRACEABILITY_PROPERTIES_f, TIMESCALE_PROPERTIES_f,
    UNICAST_NEGOTIATION_ENABLE_f, PATH_TRACE_LIST_f, PATH_TRACE_ENABLE_f, GRANDMASTER_CLUSTER_TABLE_f,
    UNICAST_MASTER_TABLE_f, UNICAST_MASTER_MAX_TABLE_SIZE_f, ACCEPTABLE_MASTER_TABLE_f,
    ACCEPTABLE_MASTER_TABLE_ENABLED_f, ACCEPTABLE_MASTER_MAX_TABLE_SIZE_f, ALTERNATE_MASTER_f,
    ALTERNATE_TIME_OFFSET_ENABLE_f, ALTERNATE_TIME_OFFSET_NAME_f, ALTERNATE_TIME_OFFSET_MAX_KEY_f,
    ALTERNATE_TIME_OFFSET_PROPERTIES_f, TRANSPARENT_CLOCK_PORT_DATA_SET_f, LOG_MIN_PDELAY_REQ_INTERVAL_f,
    TRANSPARENT_CLOCK_DEFAULT_DATA_SET_f, PRIMARY_DOMAIN_f, DELAY_MECHANISM_f,
    EXTERNAL_PORT_CONFIGURATION_ENABLED_f, MASTER_ONLY_f, HOLDOVER_UPGRADE_ENABLE_f,
    EXT_PORT_CONFIG_PORT_DATA_SET_f, TIME_STATUS_NP_f, GRANDMASTER_SETTINGS_NP_f, PORT_DATA_SET_NP_f,
    SUBSCRIBE_EVENTS_NP_f, PORT_PROPERTIES_NP_f, PORT_STATS_NP_f, SYNCHRONIZATION_UNCERTAIN_NP_f] <;> infer_instance

instance checked_callTlvData (id : MngVals) (tlv : TlvPtr) : Checked Failure (callTlvData id tlv) := by
  unfold callTlvData
  split
  · infer_instance
  · infer_instance
/-! ## The signaling TLVs -/

section Checked

instance (v : SLAVE_RX_SYNC_TIMING_DATA_rec_t) : Checked Failure (proc v) := by
  change Checked Failure v.proc; unfold SLAVE_RX_SYNC_TIMING_DATA_rec_t.proc; infer_instance
instance (v : SLAVE_RX_SYNC_COMPUTED_DATA_rec_t) : Checked Failure (proc v) := by
  change Checked Failure v.proc; unfold SLAVE_RX_SYNC_COMPUTED_DATA_rec_t.proc; infer_instance
instance (v : SLAVE_TX_EVENT_TIMESTAMPS_rec_t) : Checked Failure (proc v) := by
  change Checked Failure v.proc; unfold SLAVE_TX_EVENT_TIMESTAMPS_rec_t.proc; infer_instance
instance (v : SLAVE_DELAY_TIMING_DATA_NP_rec_t) : Checked Failure (proc v) := by
  change Checked Failure v.proc; unfold SLAVE_DELAY_TIMING_DATA_NP_rec_t.proc; infer_instance

instance (spec : ImplementSpecific) : Checked Failure (MANAGEMENT_f spec) := by
  have h (l : Int) (o : Option MngVals) : Checked Failure (match o with
      | some tlv_id => if 0 < l then (do return some (BaseSigTlv.MANAGEMENT tlv_id (← callTlvData tlv_id .wild)))
        else pure none
      | none => pure none : P (Option BaseSigTlv)) := by
    cases o <;> infer_instance
  unfold MANAGEMENT_f
  have h' (managementId : UInt16) (l : Int) := h l (findTlvId managementId spec)
  infer_instance

end Checked

theorem checked_procSigTlv (spec : ImplementSpecific) {tlvType : UInt16}
    (h : tlvType ≠ TlvType.ENHANCED_ACCURACY_METRICS) : Checked Failure (procSigTlv spec tlvType) := by
  simp only [procSigTlv, if_neg h, ORGANIZATION_EXTENSION_f, PATH_TRACE_f, ALTERNATE_TIME_OFFSET_INDICATOR_f, L1_SYNC_f,
    PORT_COMMUNICATION_AVAILABILITY_f, PROTOCOL_ADDRESS_f, SLAVE_RX_SYNC_TIMING_DATA_f, SLAVE_RX_SYNC_COMPUTED_DATA_f,
    SLAVE_TX_EVENT_TIMESTAMPS_f, CUMULATIVE_RATE_RATIO_f, SLAVE_DELAY_TIMING_DATA_NP_f]
  infer_instance

/-! ## The records of the slave event TLVs -/

section Takes

instance {α : Type} [Word α] (v : α) : Takes (proc v : P α) (Word.width α) := Takes.word v
instance {n : Nat} (v : Octets n) : Takes (proc v : P (Octets n)) n := Takes.array v
instance (v : UInt64) : Takes (proc48 v) 6 := by
  unfold proc48
  have : Takes (proc (v >>> 32).toUInt16 >>= fun high => proc v.toUInt32 >>= fun low =>
      pure (low.toUInt64 ||| (high.toUInt64 <<< 32)) : P UInt64) 6 := Takes.cast (by rfl)
  exact Takes.building (by simpa using this)
instance (v : TimeInterval_t) : Takes (proc v) 8 :=
  inferInstanceAs (Takes (TimeInterval_t.mk <$> proc v.scaledNanoseconds) 8)
instance (v : ClockIdentity_t) : Takes (proc v) 8 := inferInstanceAs (Takes (ClockIdentity_t.mk <$> proc v.v) 8)
instance (v : Timestamp_t) : Takes (proc v) 10 := by
  change Takes v.proc 10; unfold Timestamp_t.proc
  exact Takes.cast (by rfl)
instance (v : PortIdentity_t) : Takes (proc v) 10 := by
  change Takes v.proc 10; unfold PortIdentity_t.proc; exact Takes.cast (by rfl)
instance (v : SLAVE_RX_SYNC_TIMING_DATA_rec_t) : Takes (proc v) 34 := by
  change Takes v.proc 34; unfold SLAVE_RX_SYNC_TIMING_DATA_rec_t.proc; exact Takes.cast (by rfl)
instance (v : SLAVE_DELAY_TIMING_DATA_NP_rec_t) : Takes (proc v) 30 := by
  change Takes v.proc 30; unfold SLAVE_DELAY_TIMING_DATA_NP_rec_t.proc; exact Takes.cast (by rfl)

/-- Records of `n` octets are parsed as far as they go. -/
theorem read_vectorO {α : Type} [Proc α] [Inhabited α] {n : Nat} [Takes (proc (default : α)) n] (hn : 0 < n)
    (vec : List α) (l : Int) (bs : List UInt8) (hl : 0 ≤ l) : ((vectorO n vec).read l bs).val.isSome = true := by
  obtain ⟨r, l', bs', h, -, -⟩ := Takes.whileLeft (p := (proc (default : α) : P α)) hn l.toNat l bs hl (by omega)
  change (((vec ++ ·) <$> whileLeft n (proc default) l.toNat).read l bs).val.isSome = true
  rw [read_map_val, h]
  rfl

/-- A port identity, and then as many records as there are. -/
theorem read_portIdentity_list {α β : Type} [Proc α] [Inhabited α] {n : Nat} [Takes (proc (default : α)) n]
    (hn : 0 < n) (f : PortIdentity_t → List α → β) (l : Int) (bs : List UInt8) (hl : 0 ≤ l) :
    let o := (do let id ← proc default; let list ← vectorO n default; return f id list : P β).read l bs
    (10 ≤ l → o.val.isSome = true) ∧ (l < 10 → o.val = none ∧ o.err = none) := by
  intro o
  have hp : Takes (proc (default : PortIdentity_t)) 10 := inferInstance
  refine ⟨fun h => ?_, fun h => ?_⟩
  · obtain ⟨id, hid⟩ := hp.takes l bs h
    have hv := read_vectorO hn (default : List α) (l - 10) (bs.drop 10) (by omega)
    obtain ⟨list, hlist⟩ := Option.isSome_iff_exists.1 hv
    simp only [o]
    rw [read_bind, hid]
    change ((f id <$> vectorO n default).read (l - 10) (bs.drop 10)).val.isSome = true
    rw [read_map_val, hlist]
    rfl
  · obtain ⟨h1, h2, -⟩ := hp.short l bs hl h
    simp only [o]
    rw [read_bind]
    rcases hr : (proc (default : PortIdentity_t) : P PortIdentity_t).read l bs with ⟨_ | a, l', r, e⟩
    · rw [hr] at h2; exact ⟨rfl, h2⟩
    · rw [hr] at h1; cases h1

end Takes

/-! ## The one that runs over its end -/

/-- `k` pairs of a TimeInterval and a double. -/
def metrics : Nat → Int → Bool × Int
  | 0 => past 0
  | k + 1 => andThen (andThen (check 8) (past 0)) (andThen (andThen (check 8) (past 8)) (metrics k))

theorem metrics_succ (k : Nat) (l : Int) :
    metrics (k + 1) l = if l < 8 then (false, l) else if l < 16 then (false, l - 8) else metrics k (l - 24) := by
  simp only [metrics, andThen_assoc, check_andThen, past_andThen]
  have e : l - (8 : Nat) - (0 : Nat) - (8 : Nat) - (8 : Nat) = l - 24 := by omega
  rw [e]
  by_cases h : l < 8
  · rw [if_pos (by omega), if_pos h]
  · rw [if_neg (by omega), if_neg h]
    by_cases h' : l < 16
    · rw [if_pos (by omega), if_pos h']
      congr 1
      omega
    · rw [if_neg (by omega), if_neg h']

/-- What is left gets negative where a double is the last that fits. -/
theorem metrics_left (k : Nat) (l : Int) : (metrics k l).2 < 0 ↔ l < 0 ∨ l < 24 * k ∧ 16 ≤ l % 24 := by
  induction k generalizing l with
  | zero => simp only [metrics, past]; omega
  | succ k ih =>
    rw [metrics_succ]
    by_cases h : l < 8
    · rw [if_pos h]; omega
    · rw [if_neg h]
      by_cases h' : l < 16
      · rw [if_pos h']; omega
      · rw [if_neg h', ih]; omega

theorem metrics_done (k : Nat) (l : Int) :
    ((metrics k l).1 = true ↔ k = 0 ∨ 24 * k ≤ l + 8) ∧ ((metrics k l).1 = true → (metrics k l).2 = l - 24 * k) := by
  induction k generalizing l with
  | zero => simp [metrics, past]
  | succ k ih =>
    rw [metrics_succ]
    by_cases h : l < 8
    · rw [if_pos h]; simp; omega
    · rw [if_neg h]
      by_cases h' : l < 16
      · rw [if_pos h']; simp; omega
      · have := ih (l - 24)
        rw [if_neg h', this.1]
        refine ⟨by omega, fun hd => ?_⟩
        rw [this.2 (this.1.2 hd)]
        omega

section Spends

instance {α : Type} [Word α] (v : α) : Spends (proc v : P α) (check (Word.width α)) := Spends.word v
instance : Spends procReserved (check 1) := Spends.xfer
instance (v : TimeInterval_t) : Spends (proc v) (andThen (check 8) (past 0)) :=
  inferInstanceAs (Spends (TimeInterval_t.mk <$> proc v.scaledNanoseconds) _)
instance (v : Float64_t) : Spends (proc v) (andThen (check 8) (past 8)) := by
  change Spends (procFloat64 v) _; unfold procFloat64; exact Spends.bind

set_option synthInstance.maxSize 256 in
theorem spends_ENHANCED_ACCURACY_METRICS : Spends (ENHANCED_ACCURACY_METRICS_f default)
    ((andThen (check 1))^[4] (metrics 5)) := by
  unfold ENHANCED_ACCURACY_METRICS_f; exact Spends.bind

end Spends

/-- The 4 octets before the pairs and the 5 pairs. -/
theorem read_ENHANCED_ACCURACY_METRICS (l : Int) (bs : List UInt8) (hl : 0 ≤ l) :
    let o := (ENHANCED_ACCURACY_METRICS_f default).read l bs
    (o.left < 0 ↔ 24 ≤ l + 4 ∧ l + 4 < 128 ∧ (l + 4) % 24 < 8) ∧
      (o.val.isSome = true ↔ 116 ≤ l) ∧ (116 ≤ l → o.left = l - 124) := by
  intro o
  have h := spends_ENHANCED_ACCURACY_METRICS
  rw [h.isSome l bs, h.left l bs]
  rw [octets_andThen _ _ _ hl]
  by_cases hs : l < (4 : Nat)
  · rw [if_pos hs]
    exact ⟨by omega, by simp; omega, by omega⟩
  · have hm := metrics_left 5 (l - (4 : Nat))
    have hd := metrics_done 5 (l - (4 : Nat))
    rw [if_neg hs]
    refine ⟨by omega, hd.1.trans (by omega), fun h => ?_⟩
    rw [hd.2 (hd.1.2 (by omega))]
    omega

end LibPmc
