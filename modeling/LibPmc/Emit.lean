import LibPmc.Message
/-!
# What the process functions build

For a structure whose contents fit their fields: how many octets its process function
writes, and that the process function of an empty structure parses them back.
-/
namespace LibPmc

open Wire Wire.Prog

/-! ## The overloads of `proc` -/

section Emits

instance {α : Type} [Word α] (v : α) : Emits (proc v : P α) (Word.width α) := Emits.word v
instance {n : Nat} (v : Octets n) : Emits (proc v : P (Octets n)) n := Emits.array v
instance : Emits procReserved 1 := ⟨⟨rfl, trivial⟩, rfl, (), rfl⟩
instance (flags mask : UInt8) : Emits (procFlags flags mask) 1 := Emits.building (Emits.word _)
instance (v : TimeInterval_t) : Emits (proc v) 8 :=
  inferInstanceAs (Emits (TimeInterval_t.mk <$> proc v.scaledNanoseconds) 8)
instance (v : ClockIdentity_t) : Emits (proc v) 8 := inferInstanceAs (Emits (ClockIdentity_t.mk <$> proc v.v) 8)
instance (v : PortIdentity_t) : Emits (proc v) 10 := by
  change Emits v.proc 10; unfold PortIdentity_t.proc; exact Emits.cast (by rfl)
instance (v : ClockQuality_t) : Emits (proc v) 4 := by
  change Emits v.proc 4; unfold ClockQuality_t.proc; exact Emits.cast (by rfl)
instance (v : AcceptableMaster_t) : Emits (proc v) 11 := by
  change Emits v.proc 11; unfold AcceptableMaster_t.proc; exact Emits.cast (by rfl)

theorem emits_proc48 {v : UInt64} (h : v ≤ UINT48_MAX) : Emits (proc48 v) 6 := by
  unfold proc48
  refine Emits.building ?_
  rw [if_neg fun hn => absurd hn.2 (UInt64.not_lt.2 h)]
  exact Emits.cast (by rfl)

theorem emits_timestamp {v : Timestamp_t} (h : v.secondsField ≤ UINT48_MAX) : Emits (proc v) 10 := by
  have := emits_proc48 h
  change Emits v.proc 10; unfold Timestamp_t.proc; exact Emits.cast (by rfl)

theorem emits_string (str : List UInt8) (len : UInt16) (h : str.length < 65536) :
    Emits (procString str len) str.length := by
  have hn : (UInt16.ofNat str.length).toNat = str.length := by simpa using h
  refine Emits.building ⟨⟨?_, trivial⟩, ?_, str, rfl⟩
  · change (str.take (UInt16.ofNat str.length).toNat).length = (UInt16.ofNat str.length).toNat
    simp [hn]
  · change (str.take (UInt16.ofNat str.length).toNat ++ []).length = str.length
    simp [hn]

theorem emits_binary (bin : List UInt8) (len : UInt16) (h : bin.length < 65536) :
    Emits (procBinary bin len) bin.length := by
  have hn : (UInt16.ofNat bin.length).toNat = bin.length := by simpa using h
  refine Emits.building ⟨⟨hn.symm, trivial⟩, ?_, bin, rfl⟩
  change (bin ++ []).length = bin.length
  simp

theorem emits_text {v : PTPText_t} (h : v.textField.length < 65536) : Emits (proc v) v.size := by
  have := fun len => emits_string v.textField len h
  change Emits v.proc _
  unfold PTPText_t.proc
  exact Emits.cast (by simp [PTPText_t.size, Word.width])

theorem emits_address {v : PortAddress_t} (h : v.addressField.length < 65536) : Emits (proc v) v.size := by
  have := fun len => emits_binary v.addressField len h
  change Emits v.proc _
  unfold PortAddress_t.proc
  exact Emits.cast (by simp only [PortAddress_t.size, Word.width]; omega)

theorem emits_vectorF {α : Type} [Proc α] [Inhabited α] {size : α → Nat} (cnt : Nat) (vec : List α)
    (h : ∀ a ∈ vec, Emits (proc a) (size a)) : Emits (vectorF cnt vec) (vec.map size).sum :=
  Emits.building (Emits.all h)

end Emits

section Trip

instance {α : Type} [Word α] (v v' : α) : Trip (proc v : P α) (proc v') := Trip.word v v'
instance {n : Nat} (v v' : Octets n) : Trip (proc v : P (Octets n)) (proc v') := Trip.array v v'
instance : Trip procReserved procReserved := Trip.xfer rfl rfl
instance (flags flags' mask : UInt8) : Trip (procFlags flags mask) (procFlags flags' mask) :=
  Trip.building (Trip.word _ _)
instance (v v' : TimeInterval_t) : Trip (proc v) (proc v') :=
  inferInstanceAs (Trip (TimeInterval_t.mk <$> proc v.scaledNanoseconds)
    (TimeInterval_t.mk <$> proc v'.scaledNanoseconds))
instance (v v' : ClockIdentity_t) : Trip (proc v) (proc v') :=
  inferInstanceAs (Trip (ClockIdentity_t.mk <$> proc v.v) (ClockIdentity_t.mk <$> proc v'.v))
instance (v v' : PortIdentity_t) : Trip (proc v) (proc v') := by
  change Trip v.proc v'.proc; unfold PortIdentity_t.proc; infer_instance
instance (v v' : ClockQuality_t) : Trip (proc v) (proc v') := by
  change Trip v.proc v'.proc; unfold ClockQuality_t.proc; infer_instance
instance (v v' : AcceptableMaster_t) : Trip (proc v) (proc v') := by
  change Trip v.proc v'.proc; unfold AcceptableMaster_t.proc; infer_instance

/-- The high 16 and the low 32 bits make up the number. -/
theorem join48 {v : UInt64} (h : v ≤ UINT48_MAX) :
    v.toUInt32.toUInt64 ||| ((v >>> 32).toUInt16.toUInt64 <<< 32) = v := by
  have hv : v.toNat < 2 ^ 48 := lt_of_le_of_lt (UInt64.le_iff_toNat_le.1 h) (by decide)
  have hh : v.toNat / 2 ^ 32 < 2 ^ 16 := by omega
  have hl : v.toNat % 2 ^ 32 < 2 ^ 32 := Nat.mod_lt _ (by decide)
  apply UInt64.toNat_inj.1
  have hs : (v >>> 32).toUInt16.toUInt64.toNat = v.toNat / 2 ^ 32 := by
    simp [Nat.shiftRight_eq_div_pow]
    omega
  have hm : v.toNat / 2 ^ 32 * 2 ^ 32 < 2 ^ 64 := by omega
  rw [UInt64.toNat_or, UInt64.toNat_shiftLeft, hs, UInt32.toNat_toUInt64, UInt64.toNat_toUInt32]
  change v.toNat % 2 ^ 32 ||| (v.toNat / 2 ^ 32) <<< 32 % 2 ^ 64 = v.toNat
  rw [Nat.shiftLeft_eq, Nat.mod_eq_of_lt hm, ← Nat.shiftLeft_eq, Nat.or_comm, ← Nat.shiftLeft_add_eq_or_of_lt hl,
    Nat.shiftLeft_eq]
  omega

theorem trip_proc48 {v : UInt64} (v' : UInt64) (h : v ≤ UINT48_MAX) : Trip (proc48 v) (proc48 v') := by
  unfold proc48
  refine Trip.building ?_
  rw [if_neg fun hn => absurd hn.2 (UInt64.not_lt.2 h), if_neg (by simp)]
  refine Trip.bind' fun high hh => Trip.bind' fun low hl => ?_
  obtain rfl : (v >>> 32).toUInt16 = high := Option.some.inj hh
  obtain rfl : v.toUInt32 = low := Option.some.inj hl
  rw [if_pos rfl, if_neg (by simp), join48 h]
  infer_instance

theorem trip_timestamp {v : Timestamp_t} (v' : Timestamp_t) (h : v.secondsField ≤ UINT48_MAX) :
    Trip (proc v) (proc v') := by
  have := trip_proc48 v'.secondsField h
  change Trip v.proc v'.proc
  unfold Timestamp_t.proc
  infer_instance

/-- The octets of a text come back where their number is given. -/
theorem trip_string (str str' : List UInt8) (len : UInt16) {len' : UInt16} (h : len'.toNat = str.length) :
    Trip (procString str len) (procString str' len') := by
  have hs : str.length < 65536 := h ▸ len'.toNat_lt
  have hn : UInt16.ofNat str.length = len' := UInt16.toNat_inj.1 (by simp [h, Nat.mod_eq_of_lt hs])
  refine Trip.building ?_
  rw [if_pos rfl, if_neg (by simp), hn]
  exact Trip.xfer (by simp [h]) (by simp [h]; rfl)

theorem trip_binary (bin bin' : List UInt8) (len : UInt16) {len' : UInt16} (h : len'.toNat = bin.length) :
    Trip (procBinary bin len) (procBinary bin' len') := by
  have hs : bin.length < 65536 := h ▸ len'.toNat_lt
  have hn : UInt16.ofNat bin.length = len' := UInt16.toNat_inj.1 (by simp [h, Nat.mod_eq_of_lt hs])
  refine Trip.building ?_
  rw [if_pos rfl, if_neg (by simp), hn]
  exact Trip.xfer h.symm rfl

theorem trip_text {v : PTPText_t} (v' : PTPText_t) (h : v.textField.length < 256) : Trip (proc v) (proc v') := by
  change Trip v.proc v'.proc
  unfold PTPText_t.proc
  refine Trip.bind' fun len hl => ?_
  obtain rfl : UInt8.ofNat v.textField.length = len := Option.some.inj hl
  have hl : (UInt8.ofNat v.textField.length).toUInt16.toNat = v.textField.length := by simpa using h
  have := trip_string v.textField v'.textField (UInt8.ofNat v.textField.length).toUInt16 hl
  infer_instance

theorem trip_address {v : PortAddress_t} (v' : PortAddress_t) (h : v.addressField.length < 65536) :
    Trip (proc v) (proc v') := by
  change Trip v.proc v'.proc
  unfold PortAddress_t.proc
  refine Trip.bind' fun _ _ => Trip.bind' fun len hl => ?_
  obtain rfl : UInt16.ofNat v.addressField.length = len := Option.some.inj hl
  have hl : (UInt16.ofNat v.addressField.length).toNat = v.addressField.length := by simpa using h
  have := trip_binary v.addressField v'.addressField (UInt16.ofNat v.addressField.length) hl
  infer_instance

/-- A list of records comes back where their number is given. -/
theorem trip_vectorF {α : Type} [Proc α] [Inhabited α] (vec : List α) {cnt : Nat} (hc : cnt = vec.length)
    (h : ∀ a ∈ vec, Trip (proc a) (proc default)) : Trip (vectorF cnt vec) (vectorF cnt []) := by
  subst hc
  refine Trip.building ?_
  have := Trip.count vec h
  rw [if_pos rfl, if_neg (by simp)]
  change Trip (all proc vec) ((fun r => [] ++ r) <$> count (proc default) vec.length)
  simpa using this

end Trip

/-! ## The management TLVs that can be sent -/

/-- The id allows SET or COMMAND. -/
def Settable (id : MngVals) : Prop := (mngAllVals id).allowed &&& (aSET ||| aCOMMAND) ≠ 0

instance (id : MngVals) : Decidable (Settable id) := by unfold Settable; infer_instance

/-- Texts, addresses and tables are no longer than the fields for their lengths can say. -/
def LengthsFit : BaseMngTlv → Prop
  | .USER_DESCRIPTION d => d.userDescription.textField.length < 256
  | .GRANDMASTER_CLUSTER_TABLE d => d.PortAddress.length < 256 ∧ ∀ a ∈ d.PortAddress, a.addressField.length < 65536
  | .UNICAST_MASTER_TABLE d => d.PortAddress.length < 65536 ∧ ∀ a ∈ d.PortAddress, a.addressField.length < 65536
  | .ACCEPTABLE_MASTER_TABLE d => d.list.length < 32768
  | .ALTERNATE_TIME_OFFSET_NAME d => d.displayName.textField.length < 256
  | _ => True

/-- Texts and addresses have fewer octets than 16 bits can count. -/
def TextsFit : BaseMngTlv → Prop
  | .USER_DESCRIPTION d => d.userDescription.textField.length < 65536
  | .GRANDMASTER_CLUSTER_TABLE d => ∀ a ∈ d.PortAddress, a.addressField.length < 65536
  | .UNICAST_MASTER_TABLE d => ∀ a ∈ d.PortAddress, a.addressField.length < 65536
  | .ALTERNATE_TIME_OFFSET_NAME d => d.displayName.textField.length < 65536
  | _ => True

theorem LengthsFit.texts {d : BaseMngTlv} (h : LengthsFit d) : TextsFit d := by
  cases d with
  | USER_DESCRIPTION d => exact lt_trans h (by decide)
  | GRANDMASTER_CLUSTER_TABLE d => exact h.2
  | UNICAST_MASTER_TABLE d => exact h.2
  | ALTERNATE_TIME_OFFSET_NAME d => exact lt_trans h (by decide)
  | _ => trivial

/-- The seconds fit in 48 bits. -/
def Fits48 : BaseMngTlv → Prop
  | .TIME d => d.currentTime.secondsField ≤ UINT48_MAX
  | .ALTERNATE_TIME_OFFSET_PROPERTIES d => d.timeOfNextJump ≤ UINT48_MAX
  | _ => True

/-- The size of the dataField, as the table or the id's function gives it. -/
def plannedSize (d : BaseMngTlv) : Int :=
  if (mngAllVals d.id).size ≠ -2 then (mngAllVals d.id).size else dataFieldSize d.id (some d)

/-- A dataField with its pad. -/
def padded (size : Int) : Int := size + size % 2

section Tables

/-- The variant around a structure writes nothing. -/
theorem emits_variant {α β : Type} {f : α → β} {p : P α} {n : Nat} (h : Emits p n) : Emits (f <$> p) n :=
  Emits.cast (Nat.add_zero n)

theorem emits_GRANDMASTER_CLUSTER_TABLE (d : GRANDMASTER_CLUSTER_TABLE_t)
    (h : ∀ a ∈ d.PortAddress, a.addressField.length < 65536) :
    Emits (GRANDMASTER_CLUSTER_TABLE_f d) (GRANDMASTER_CLUSTER_TABLE_s d) := by
  have := fun cnt => emits_vectorF cnt d.PortAddress fun a ha => emits_address (h a ha)
  unfold GRANDMASTER_CLUSTER_TABLE_f
  exact Emits.cast (by simp only [GRANDMASTER_CLUSTER_TABLE_s, Word.width]; omega)

theorem emits_UNICAST_MASTER_TABLE (d : UNICAST_MASTER_TABLE_t)
    (h : ∀ a ∈ d.PortAddress, a.addressField.length < 65536) :
    Emits (UNICAST_MASTER_TABLE_f d) (UNICAST_MASTER_TABLE_s d) := by
  have := fun cnt => emits_vectorF cnt d.PortAddress fun a ha => emits_address (h a ha)
  unfold UNICAST_MASTER_TABLE_f
  exact Emits.cast (by simp only [UNICAST_MASTER_TABLE_s, Word.width]; omega)

theorem emits_ACCEPTABLE_MASTER_TABLE (d : ACCEPTABLE_MASTER_TABLE_t) :
    Emits (ACCEPTABLE_MASTER_TABLE_f d) (ACCEPTABLE_MASTER_TABLE_s d) := by
  have := fun cnt => emits_vectorF cnt d.list fun a _ => (inferInstance : Emits (proc a) 11)
  unfold ACCEPTABLE_MASTER_TABLE_f
  exact Emits.cast (by
    simp only [ACCEPTABLE_MASTER_TABLE_s, AcceptableMaster_t.size, PortIdentity_t.size,
      ClockIdentity_t.size, Word.width,
      List.map_const', List.sum_replicate_nat]
    omega)

theorem emits_ALTERNATE_TIME_OFFSET_NAME {d : ALTERNATE_TIME_OFFSET_NAME_t}
    (h : d.displayName.textField.length < 65536) :
    Emits (ALTERNATE_TIME_OFFSET_NAME_f d) (ALTERNATE_TIME_OFFSET_NAME_s d) := by
  have := emits_text h
  unfold ALTERNATE_TIME_OFFSET_NAME_f
  exact Emits.cast (by simp only [ALTERNATE_TIME_OFFSET_NAME_s, Word.width]; omega)

end Tables

/-- As many octets as planned get written. -/
theorem emits_procTlv {d : BaseMngTlv} (hs : Settable d.id) (ht : TextsFit d) (h48 : Fits48 d) :
    ∃ n : Nat, Emits (procTlv d) n ∧ padded n = padded (plannedSize d) := by
  cases d with
  | USER_DESCRIPTION d => exact ⟨_, emits_variant (emits_variant (emits_text ht)), rfl⟩
  | TIME d => exact ⟨_, emits_variant (emits_variant (emits_timestamp h48)), rfl⟩
  | GRANDMASTER_CLUSTER_TABLE d => exact ⟨_, emits_variant (emits_GRANDMASTER_CLUSTER_TABLE d ht), rfl⟩
  | UNICAST_MASTER_TABLE d => exact ⟨_, emits_variant (emits_UNICAST_MASTER_TABLE d ht), rfl⟩
  | ACCEPTABLE_MASTER_TABLE d => exact ⟨_, emits_variant (emits_ACCEPTABLE_MASTER_TABLE d), rfl⟩
  | ALTERNATE_TIME_OFFSET_NAME d => exact ⟨_, emits_variant (emits_ALTERNATE_TIME_OFFSET_NAME ht), rfl⟩
  | ALTERNATE_TIME_OFFSET_PROPERTIES d =>
    have := emits_proc48 (v := d.timeOfNextJump) h48
    refine ⟨15, emits_variant ?_, rfl⟩
    unfold ALTERNATE_TIME_OFFSET_PROPERTIES_f
    exact Emits.cast (by rfl)
  | _ =>
    first
      | exact absurd hs (by simp only [BaseMngTlv.id]; decide)
      | refine ⟨?_, ?_, ?_⟩
        rotate_left
        · simp only [procTlv, INITIALIZE_f, PRIORITY1_f, PRIORITY2_f, DOMAIN_f, SLAVE_ONLY_f, LOG_ANNOUNCE_INTERVAL_f,
            ANNOUNCE_RECEIPT_TIMEOUT_f, LOG_SYNC_INTERVAL_f, VERSION_NUMBER_f, CLOCK_ACCURACY_f, UTC_PROPERTIES_f,
            TRACEABILITY_PROPERTIES_f, TIMESCALE_PROPERTIES_f, UNICAST_NEGOTIATION_ENABLE_f, PATH_TRACE_ENABLE_f,
            ACCEPTABLE_MASTER_TABLE_ENABLED_f, ALTERNATE_MASTER_f, ALTERNATE_TIME_OFFSET_ENABLE_f,
            LOG_MIN_PDELAY_REQ_INTERVAL_f, PRIMARY_DOMAIN_f, DELAY_MECHANISM_f, EXTERNAL_PORT_CONFIGURATION_ENABLED_f,
            MASTER_ONLY_f, HOLDOVER_UPGRADE_ENABLE_f, EXT_PORT_CONFIG_PORT_DATA_SET_f, GRANDMASTER_SETTINGS_NP_f,
            PORT_DATA_SET_NP_f, SUBSCRIBE_EVENTS_NP_f, SYNCHRONIZATION_UNCERTAIN_NP_f]
          infer_instance
        · rfl

/-- A count that does not get negative is widened as it is. -/
theorem toUInt32_ofNat {n : Nat} (h : n < 32768) : (Int16.ofNat n).toInt32.toUInt32.toNat = n := by
  have h16 : (Int16.ofNat n).toInt = n := Int16.toInt_ofNat_of_lt h
  have h32 : (Int16.ofNat n).toInt32.toInt = n := by rw [Int16.toInt_toInt32, h16]
  have h0 : 0 ≤ (Int16.ofNat n).toInt32 := by
    rw [Int32.le_iff_toInt_le, h32]
    exact Int.natCast_nonneg n
  rw [Int32.toNat_toUInt32_of_le h0, Int32.toNatClampNeg, h32]
  rfl

/-- What a process function builds, the one of an empty structure parses back. -/
theorem trip_procTlv {d t : BaseMngTlv} (hs : Settable d.id) (hl : LengthsFit d) (h48 : Fits48 d)
    (ht : newTlv d.id = some t) : Trip (procTlv d) (procTlv t) := by
  cases d with
  | USER_DESCRIPTION d =>
    obtain rfl := Option.some.inj ht
    have := trip_text (v := d.userDescription) default hl
    exact inferInstanceAs (Trip (BaseMngTlv.USER_DESCRIPTION <$> USER_DESCRIPTION_t.mk <$> proc d.userDescription)
      (BaseMngTlv.USER_DESCRIPTION <$> USER_DESCRIPTION_t.mk <$> proc default))
  | TIME d =>
    obtain rfl := Option.some.inj ht
    have := trip_timestamp (v := d.currentTime) default h48
    exact inferInstanceAs (Trip (BaseMngTlv.TIME <$> TIME_t.mk <$> proc d.currentTime)
      (BaseMngTlv.TIME <$> TIME_t.mk <$> proc default))
  | GRANDMASTER_CLUSTER_TABLE d =>
    obtain rfl := Option.some.inj ht
    have hf : Trip (GRANDMASTER_CLUSTER_TABLE_f d) (GRANDMASTER_CLUSTER_TABLE_f default) := by
      unfold GRANDMASTER_CLUSTER_TABLE_f
      refine Trip.bind' fun _ _ => Trip.bind' fun cnt hc => ?_
      obtain rfl : UInt8.ofNat d.PortAddress.length = cnt := Option.some.inj hc
      have hn : (UInt8.ofNat d.PortAddress.length).toNat = d.PortAddress.length := by simpa using hl.1
      have : Trip _ (vectorF _ (default : GRANDMASTER_CLUSTER_TABLE_t).PortAddress) :=
        trip_vectorF d.PortAddress hn fun a ha => trip_address default (hl.2 a ha)
      infer_instance
    exact Trip.map
  | UNICAST_MASTER_TABLE d =>
    obtain rfl := Option.some.inj ht
    have hf : Trip (UNICAST_MASTER_TABLE_f d) (UNICAST_MASTER_TABLE_f default) := by
      unfold UNICAST_MASTER_TABLE_f
      refine Trip.bind' fun _ _ => Trip.bind' fun cnt hc => ?_
      obtain rfl : UInt16.ofNat d.PortAddress.length = cnt := Option.some.inj hc
      have hn : (UInt16.ofNat d.PortAddress.length).toNat = d.PortAddress.length := by simpa using hl.1
      have : Trip _ (vectorF _ (default : UNICAST_MASTER_TABLE_t).PortAddress) :=
        trip_vectorF d.PortAddress hn fun a ha => trip_address default (hl.2 a ha)
      infer_instance
    exact Trip.map
  | ACCEPTABLE_MASTER_TABLE d =>
    obtain rfl := Option.some.inj ht
    have hf : Trip (ACCEPTABLE_MASTER_TABLE_f d) (ACCEPTABLE_MASTER_TABLE_f default) := by
      unfold ACCEPTABLE_MASTER_TABLE_f
      refine Trip.bind' fun cnt hc => ?_
      obtain rfl : Int16.ofNat d.list.length = cnt := Option.some.inj hc
      have : Trip _ (vectorF _ (default : ACCEPTABLE_MASTER_TABLE_t).list) :=
        trip_vectorF d.list (toUInt32_ofNat hl) fun a _ => inferInstance
      infer_instance
    exact Trip.map
  | ALTERNATE_TIME_OFFSET_NAME d =>
    obtain rfl := Option.some.inj ht
    have := trip_text (v := d.displayName) (default : ALTERNATE_TIME_OFFSET_NAME_t).displayName hl
    have hf : Trip (ALTERNATE_TIME_OFFSET_NAME_f d) (ALTERNATE_TIME_OFFSET_NAME_f default) := by
      unfold ALTERNATE_TIME_OFFSET_NAME_f
      exact Trip.bind
    exact Trip.map
  | ALTERNATE_TIME_OFFSET_PROPERTIES d =>
    obtain rfl := Option.some.inj ht
    have := trip_proc48 (v := d.timeOfNextJump) (default : ALTERNATE_TIME_OFFSET_PROPERTIES_t).timeOfNextJump h48
    have hf : Trip (ALTERNATE_TIME_OFFSET_PROPERTIES_f d) (ALTERNATE_TIME_OFFSET_PROPERTIES_f default) := by
      unfold ALTERNATE_TIME_OFFSET_PROPERTIES_f
      exact Trip.bind
    exact Trip.map
  | _ =>
    first
      | exact absurd hs (by simp only [BaseMngTlv.id]; decide)
      | obtain rfl := Option.some.inj ht
        simp only [procTlv, INITIALIZE_f, PRIORITY1_f, PRIORITY2_f, DOMAIN_f, SLAVE_ONLY_f, LOG_ANNOUNCE_INTERVAL_f,
          ANNOUNCE_RECEIPT_TIMEOUT_f, LOG_SYNC_INTERVAL_f, VERSION_NUMBER_f, CLOCK_ACCURACY_f, UTC_PROPERTIES_f,
          TRACEABILITY_PROPERTIES_f, TIMESCALE_PROPERTIES_f, UNICAST_NEGOTIATION_ENABLE_f, PATH_TRACE_ENABLE_f,
          ACCEPTABLE_MASTER_TABLE_ENABLED_f, ALTERNATE_MASTER_f, ALTERNATE_TIME_OFFSET_ENABLE_f,
          LOG_MIN_PDELAY_REQ_INTERVAL_f, PRIMARY_DOMAIN_f, DELAY_MECHANISM_f, EXTERNAL_PORT_CONFIGURATION_ENABLED_f,
          MASTER_ONLY_f, HOLDOVER_UPGRADE_ENABLE_f, EXT_PORT_CONFIG_PORT_DATA_SET_f, GRANDMASTER_SETTINGS_NP_f,
          PORT_DATA_SET_NP_f, SUBSCRIBE_EVENTS_NP_f, SYNCHRONIZATION_UNCERTAIN_NP_f]
        infer_instance

/-! ## What a build leaves of the structure -/

/-- The flags as they are sent. A single flag is sent as 1. -/
def builtFlags (flags flagsMask : UInt8) : UInt8 :=
  if flagsMask > 1 then flags &&& flagsMask else if flags > 0 then 1 else flags

/-- The length members follow the contents. -/
def PTPText_t.built (v : PTPText_t) : PTPText_t := { v with lengthField := UInt8.ofNat v.textField.length }
def PortAddress_t.built (v : PortAddress_t) : PortAddress_t :=
  { v with addressLength := UInt16.ofNat v.addressField.length }

/-- A structure that can be sent, as a build leaves it. -/
def BaseMngTlv.built : BaseMngTlv → BaseMngTlv
  | .USER_DESCRIPTION d => .USER_DESCRIPTION { userDescription := d.userDescription.built }
  | .SLAVE_ONLY d => .SLAVE_ONLY { flags := builtFlags d.flags 0x1 }
  | .UTC_PROPERTIES d => .UTC_PROPERTIES { d with flags := builtFlags d.flags 0x7 }
  | .TRACEABILITY_PROPERTIES d => .TRACEABILITY_PROPERTIES { flags := builtFlags d.flags 0x30 }
  | .TIMESCALE_PROPERTIES d => .TIMESCALE_PROPERTIES { d with flags := builtFlags d.flags 0x8 }
  | .UNICAST_NEGOTIATION_ENABLE d => .UNICAST_NEGOTIATION_ENABLE { flags := builtFlags d.flags 0x1 }
  | .PATH_TRACE_ENABLE d => .PATH_TRACE_ENABLE { flags := builtFlags d.flags 0x1 }
  | .GRANDMASTER_CLUSTER_TABLE d => .GRANDMASTER_CLUSTER_TABLE { d with
      actualTableSize := UInt8.ofNat d.PortAddress.length
      PortAddress := d.PortAddress.map PortAddress_t.built }
  | .UNICAST_MASTER_TABLE d => .UNICAST_MASTER_TABLE { d with
      actualTableSize := UInt16.ofNat d.PortAddress.length
      PortAddress := d.PortAddress.map PortAddress_t.built }
  | .ACCEPTABLE_MASTER_TABLE d => .ACCEPTABLE_MASTER_TABLE { d with actualTableSize := Int16.ofNat d.list.length }
  | .ACCEPTABLE_MASTER_TABLE_ENABLED d => .ACCEPTABLE_MASTER_TABLE_ENABLED { flags := builtFlags d.flags 0x1 }
  | .ALTERNATE_MASTER d => .ALTERNATE_MASTER { d with flags := builtFlags d.flags 0x1 }
  | .ALTERNATE_TIME_OFFSET_ENABLE d => .ALTERNATE_TIME_OFFSET_ENABLE { d with flags := builtFlags d.flags 0x1 }
  | .ALTERNATE_TIME_OFFSET_NAME d => .ALTERNATE_TIME_OFFSET_NAME { d with displayName := d.displayName.built }
  | .EXTERNAL_PORT_CONFIGURATION_ENABLED d => .EXTERNAL_PORT_CONFIGURATION_ENABLED { flags := builtFlags d.flags 0x1 }
  | .MASTER_ONLY d => .MASTER_ONLY { flags := builtFlags d.flags 0x1 }
  | .HOLDOVER_UPGRADE_ENABLE d => .HOLDOVER_UPGRADE_ENABLE { flags := builtFlags d.flags 0x1 }
  | .EXT_PORT_CONFIG_PORT_DATA_SET d => .EXT_PORT_CONFIG_PORT_DATA_SET { d with flags := builtFlags d.flags 0x1 }
  | .GRANDMASTER_SETTINGS_NP d => .GRANDMASTER_SETTINGS_NP { d with flags := builtFlags d.flags 0x3f }
  | d => d

theorem built_id (d : BaseMngTlv) : d.built.id = d.id := by cases d <;> rfl

theorem write_proc48 {v : UInt64} (h : v ≤ UINT48_MAX) : (proc48 v).write.val = some v := by
  unfold proc48
  change (if true = true ∧ v > UINT48_MAX then fail (some .VAL) else _ : P UInt64).write.val = _
  rw [if_neg fun hn => absurd hn.2 (UInt64.not_lt.2 h)]
  rfl

/-- The process function leaves the structure so. -/
theorem write_procTlv {d : BaseMngTlv} (hs : Settable d.id) (h48 : Fits48 d) :
    (procTlv d).write.val = some d.built := by
  cases d with
  | TIME d =>
    have hw : (proc48 d.currentTime.secondsField >>= fun secondsField => proc d.currentTime.nanosecondsField >>=
        fun nanosecondsField => pure (Timestamp_t.mk secondsField nanosecondsField)).write.val =
          some d.currentTime := by
      rw [write_bind_of_some (write_proc48 h48)]
      rfl
    change (BaseMngTlv.TIME <$> TIME_t.mk <$> d.currentTime.proc).write.val = _
    rw [write_map_val, write_map_val]
    exact congrArg (fun o => (o.map TIME_t.mk).map BaseMngTlv.TIME) hw
  | ALTERNATE_TIME_OFFSET_PROPERTIES d =>
    have hw : (ALTERNATE_TIME_OFFSET_PROPERTIES_f d).write.val = some d := by
      change (proc48 d.timeOfNextJump >>= fun timeOfNextJump => pure { d with timeOfNextJump }).write.val = _
      rw [write_bind_of_some (write_proc48 h48)]
      rfl
    exact (write_map_val _ _).trans (congrArg (Option.map BaseMngTlv.ALTERNATE_TIME_OFFSET_PROPERTIES) hw)
  | GRANDMASTER_CLUSTER_TABLE d =>
    have hv (cnt : Nat) : (vectorF cnt d.PortAddress).write.val = some (d.PortAddress.map PortAddress_t.built) :=
      write_all _ fun _ _ => rfl
    have hw := write_bind_of_some (hv (UInt8.ofNat d.PortAddress.length).toNat) fun PortAddress =>
      (pure ⟨d.logQueryInterval, UInt8.ofNat d.PortAddress.length, PortAddress⟩ : P GRANDMASTER_CLUSTER_TABLE_t)
    exact (write_map_val _ _).trans (congrArg (fun w => w.val.map BaseMngTlv.GRANDMASTER_CLUSTER_TABLE) hw)
  | UNICAST_MASTER_TABLE d =>
    have hv (cnt : Nat) : (vectorF cnt d.PortAddress).write.val = some (d.PortAddress.map PortAddress_t.built) :=
      write_all _ fun _ _ => rfl
    have hw := write_bind_of_some (hv (UInt16.ofNat d.PortAddress.length).toNat) fun PortAddress =>
      (pure ⟨d.logQueryInterval, UInt16.ofNat d.PortAddress.length, PortAddress⟩ : P UNICAST_MASTER_TABLE_t)
    exact (write_map_val _ _).trans (congrArg (fun w => w.val.map BaseMngTlv.UNICAST_MASTER_TABLE) hw)
  | ACCEPTABLE_MASTER_TABLE d =>
    have hv (cnt : Nat) : (vectorF cnt d.list).write.val = some (d.list.map id) := write_all _ fun _ _ => rfl
    have hw := write_bind_of_some (hv (Int16.ofNat d.list.length).toInt32.toUInt32.toNat) fun list =>
      (pure ⟨Int16.ofNat d.list.length, list⟩ : P ACCEPTABLE_MASTER_TABLE_t)
    rw [List.map_id] at hw
    exact (write_map_val _ _).trans (congrArg (fun w => w.val.map BaseMngTlv.ACCEPTABLE_MASTER_TABLE) hw)
  | _ =>
    first
      | exact absurd hs (by simp only [BaseMngTlv.id]; decide)
      | rfl

end LibPmc
