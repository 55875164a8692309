import LibPmc.Keys
import LibPmc.RoundTrip
/-!
# The structures of pmc commands

The `build_<id>` functions of `pmc_dump.cpp` and `call_data`, which give the structure that
a SET or a COMMAND sends. Each function gets the structure that `new` has allocated, with
what its memory holds: a member that is not assigned keeps it. `call_data_text_only_iff`
says for which ids none of that is sent.
-/
namespace LibPmc

open Wire Cstr

/-! ## The functions -/

namespace Keys
variable (keys : Keys) (name : String)

def num (keys : Keys) (name : String) : Int := (keys.get name).num

/-- `num` as a condition. -/
def isSet : Bool := keys.num name ≠ 0

/-- A string made of `str_val`. -/
def str (buf : Buf) : Keyed (List UInt8) :=
  match (keys.get name).str_val with
  | .null => throw .fault
  | .empty => return []
  | .at p => access (buf.str p)

end Keys

/-- A flag of the timePropertiesDS, where its key is set. -/
def flagIf (keys : Keys) (name : String) (flag : UInt8) : UInt8 := if keys.isSet name then flag else 0

def EVENT_BIT_SET (bitmask : Octets 64) (event : Nat) : Octets 64 :=
  ⟨bitmask.val.modify (event / 8) (· ||| (1 <<< UInt8.ofNat (event % 8))), by rw [List.length_modify, bitmask.2]⟩

section Build
variable (buf : Buf) (save : Nat)

def build_USER_DESCRIPTION (d : USER_DESCRIPTION_t) : Keyed USER_DESCRIPTION_t := do
  let (keys, buf) ← parseKeysFunc [("userDescription", { can_str := true })] buf save
  return { d with userDescription.textField := ← keys.str "userDescription" buf }

def build_INITIALIZE (d : INITIALIZE_t) : Keyed INITIALIZE_t := do
  let (keys, _) ← parseKeysFunc [("initializationKey", { dflt := 0x0000, max := 0xffff })] buf save
  return { d with initializationKey := UInt16.ofInt (keys.num "initializationKey") }

def build_PRIORITY1 (d : PRIORITY1_t) : Keyed PRIORITY1_t := do
  let (keys, _) ← parseKeysFunc [("priority1", { dflt := 128, max := 255 })] buf save
  return { d with priority1 := UInt8.ofInt (keys.num "priority1") }

def build_PRIORITY2 (d : PRIORITY2_t) : Keyed PRIORITY2_t := do
  let (keys, _) ← parseKeysFunc [("priority2", { dflt := 128, max := 255 })] buf save
  return { d with priority2 := UInt8.ofInt (keys.num "priority2") }

def build_DOMAIN (d : DOMAIN_t) : Keyed DOMAIN_t := do
  let (keys, _) ← parseKeysFunc [("domainNumber", { max := 0xff })] buf save
  return { d with domainNumber := UInt8.ofInt (keys.num "domainNumber") }

def build_SLAVE_ONLY (d : SLAVE_ONLY_t) : Keyed SLAVE_ONLY_t := do
  let (keys, _) ← parseKeysFunc [("slaveOnly", { flag := true })] buf save
  return { d with flags := UInt8.ofInt (keys.num "slaveOnly") }

def build_LOG_ANNOUNCE_INTERVAL (d : LOG_ANNOUNCE_INTERVAL_t) : Keyed LOG_ANNOUNCE_INTERVAL_t := do
  let (keys, _) ← parseKeysFunc [("logAnnounceInterval", { dflt := 1, max := 0x7f })] buf save
  return { d with logAnnounceInterval := Int8.ofInt (keys.num "logAnnounceInterval") }

def build_ANNOUNCE_RECEIPT_TIMEOUT (d : ANNOUNCE_RECEIPT_TIMEOUT_t) : Keyed ANNOUNCE_RECEIPT_TIMEOUT_t := do
  let (keys, _) ← parseKeysFunc [("announceReceiptTimeout", { dflt := 3, max := 0xff })] buf save
  return { d with announceReceiptTimeout := UInt8.ofInt (keys.num "announceReceiptTimeout") }

def build_LOG_SYNC_INTERVAL (d : LOG_SYNC_INTERVAL_t) : Keyed LOG_SYNC_INTERVAL_t := do
  let (keys, _) ← parseKeysFunc [("logSyncInterval", { max := 0x7f })] buf save
  return { d with logSyncInterval := if keys.num "logSyncInterval" > 0 then 1 else 0 }

def build_VERSION_NUMBER (d : VERSION_NUMBER_t) : Keyed VERSION_NUMBER_t := do
  let (keys, _) ← parseKeysFunc [("minor", { max := 0xf }),
    ("versionNumber", { dflt := 2, max := 0xf, min := 1 })] buf save
  return { d with versionNumber := (UInt8.ofInt (keys.num "minor") <<< 4) ||| UInt8.ofInt (keys.num "versionNumber") }

def build_TIME (d : TIME_t) : Keyed TIME_t := do
  let (keys, _) ← parseKeysFunc [("nanosecondsField", { max := 0xffffffff }),
    ("secondsField", { max := 0xffffffffffff, req := true })] buf save
  return { d with
    currentTime.secondsField := UInt64.ofInt (keys.num "secondsField")
    currentTime.nanosecondsField := UInt32.ofInt (keys.num "nanosecondsField") }

def build_CLOCK_ACCURACY (d : CLOCK_ACCURACY_t) : Keyed CLOCK_ACCURACY_t := do
  let (keys, _) ← parseKeysFunc [("clockAccuracy", { dflt := 0xef, max := 0xef })] buf save
  return { d with clockAccuracy := UInt8.ofInt (keys.num "clockAccuracy") }

def build_UTC_PROPERTIES (d : UTC_PROPERTIES_t) : Keyed UTC_PROPERTIES_t := do
  let (keys, _) ← parseKeysFunc [("currentUtcOffset", { max := 0x7fff, req := true }),
    ("currentUtcOffsetValid", { flag := true }), ("leap59", { flag := true }),
    ("leap61", { flag := true })] buf save
  return { d with
    currentUtcOffset := Int16.ofInt (keys.num "currentUtcOffset")
    flags := flagIf keys "leap61" 0x1 ||| flagIf keys "leap59" 0x2 ||| flagIf keys "currentUtcOffsetValid" 0x4 }

def build_TRACEABILITY_PROPERTIES (d : TRACEABILITY_PROPERTIES_t) : Keyed TRACEABILITY_PROPERTIES_t := do
  let (keys, _) ← parseKeysFunc [("frequencyTraceable", { flag := true }),
    ("timeTraceable", { flag := true })] buf save
  return { d with flags := flagIf keys "timeTraceable" 0x10 ||| flagIf keys "frequencyTraceable" 0x20 }

/-- `timeSource` is not assigned. -/
def build_TIMESCALE_PROPERTIES (d : TIMESCALE_PROPERTIES_t) : Keyed TIMESCALE_PROPERTIES_t := do
  let (keys, _) ← parseKeysFunc [("ptpTimescale", { flag := true })] buf save
  return { d with flags := flagIf keys "ptpTimescale" 0x8 }

def build_UNICAST_NEGOTIATION_ENABLE (d : UNICAST_NEGOTIATION_ENABLE_t) : Keyed UNICAST_NEGOTIATION_ENABLE_t := do
  let (keys, _) ← parseKeysFunc [("unicastNegotiationPortDS", { flag := true })] buf save
  return { d with flags := UInt8.ofInt (keys.num "unicastNegotiationPortDS") }

def build_PATH_TRACE_ENABLE (d : PATH_TRACE_ENABLE_t) : Keyed PATH_TRACE_ENABLE_t := do
  let (keys, _) ← parseKeysFunc [("pathTraceDS", { flag := true })] buf save
  return { d with flags := UInt8.ofInt (keys.num "pathTraceDS") }

def build_ACCEPTABLE_MASTER_TABLE_ENABLED (d : ACCEPTABLE_MASTER_TABLE_ENABLED_t) :
    Keyed ACCEPTABLE_MASTER_TABLE_ENABLED_t := do
  let (keys, _) ← parseKeysFunc [("acceptableMasterPortDS", { flag := true })] buf save
  return { d with flags := UInt8.ofInt (keys.num "acceptableMasterPortDS") }

def build_ALTERNATE_MASTER (d : ALTERNATE_MASTER_t) : Keyed ALTERNATE_MASTER_t := do
  let (keys, _) ← parseKeysFunc [("logAlternateMulticastSyncInterval", { max := 0x7f }),
    ("numberOfAlternateMasters", { max := 0xff }),
    ("transmitAlternateMulticastSync", { flag := true })] buf save
  return { d with
    flags := UInt8.ofInt (keys.num "transmitAlternateMulticastSync")
    logAlternateMulticastSyncInterval := Int8.ofInt (keys.num "logAlternateMulticastSyncInterval")
    numberOfAlternateMasters := UInt8.ofInt (keys.num "numberOfAlternateMasters") }

/-- `keyField` is not assigned. -/
def build_ALTERNATE_TIME_OFFSET_ENABLE (d : ALTERNATE_TIME_OFFSET_ENABLE_t) :
    Keyed ALTERNATE_TIME_OFFSET_ENABLE_t := do
  let (keys, _) ← parseKeysFunc [("alternateTimescaleOffsetsDS", { flag := true })] buf save
  return { d with flags := UInt8.ofInt (keys.num "alternateTimescaleOffsetsDS") }

def build_ALTERNATE_TIME_OFFSET_NAME (d : ALTERNATE_TIME_OFFSET_NAME_t) : Keyed ALTERNATE_TIME_OFFSET_NAME_t := do
  let (keys, buf) ← parseKeysFunc [("displayName", { can_str := true, req := true }),
    ("keyField", { max := 0xff, req := true })] buf save
  return { d with
    keyField := UInt8.ofInt (keys.num "keyField")
    displayName.textField := ← keys.str "displayName" buf }

def build_ALTERNATE_TIME_OFFSET_PROPERTIES (d : ALTERNATE_TIME_OFFSET_PROPERTIES_t) :
    Keyed ALTERNATE_TIME_OFFSET_PROPERTIES_t := do
  let (keys, _) ← parseKeysFunc [("currentOffset", { max := 0x7fffffff }),
    ("jumpSeconds", { max := 0x7fffffff }), ("keyField", { max := 0xff }),
    ("timeOfNextJump", { max := 0xffffffffffff })] buf save
  return { d with
    keyField := UInt8.ofInt (keys.num "keyField")
    currentOffset := Int32.ofInt (keys.num "currentOffset")
    jumpSeconds := Int32.ofInt (keys.num "jumpSeconds")
    timeOfNextJump := UInt64.ofInt (keys.num "timeOfNextJump") }

def build_LOG_MIN_PDELAY_REQ_INTERVAL (d : LOG_MIN_PDELAY_REQ_INTERVAL_t) : Keyed LOG_MIN_PDELAY_REQ_INTERVAL_t := do
  let (keys, _) ← parseKeysFunc [("logMinPdelayReqInterval", { max := 0x7f })] buf save
  return { d with logMinPdelayReqInterval := Int8.ofInt (keys.num "logMinPdelayReqInterval") }

def build_PRIMARY_DOMAIN (d : PRIMARY_DOMAIN_t) : Keyed PRIMARY_DOMAIN_t := do
  let (keys, _) ← parseKeysFunc [("primaryDomain", { max := 0xff })] buf save
  return { d with primaryDomain := UInt8.ofInt (keys.num "primaryDomain") }

def build_DELAY_MECHANISM (d : DELAY_MECHANISM_t) : Keyed DELAY_MECHANISM_t := do
  let (keys, _) ← parseKeysFunc [("delayMechanism", { max := 0xfe })] buf save
  return { d with delayMechanism := UInt8.ofInt (keys.num "delayMechanism") }

def build_EXTERNAL_PORT_CONFIGURATION_ENABLED (d : EXTERNAL_PORT_CONFIGURATION_ENABLED_t) :
    Keyed EXTERNAL_PORT_CONFIGURATION_ENABLED_t := do
  let (keys, _) ← parseKeysFunc [("externalPortConfiguration", { flag := true })] buf save
  return { d with flags := UInt8.ofInt (keys.num "externalPortConfiguration") }

def build_MASTER_ONLY (d : MASTER_ONLY_t) : Keyed MASTER_ONLY_t := do
  let (keys, _) ← parseKeysFunc [("masterOnly", { flag := true })] buf save
  return { d with flags := UInt8.ofInt (keys.num "masterOnly") }

def build_HOLDOVER_UPGRADE_ENABLE (d : HOLDOVER_UPGRADE_ENABLE_t) : Keyed HOLDOVER_UPGRADE_ENABLE_t := do
  let (keys, _) ← parseKeysFunc [("holdoverUpgradeDS", { flag := true })] buf save
  return { d with flags := UInt8.ofInt (keys.num "holdoverUpgradeDS") }

def build_EXT_PORT_CONFIG_PORT_DATA_SET (d : EXT_PORT_CONFIG_PORT_DATA_SET_t) :
    Keyed EXT_PORT_CONFIG_PORT_DATA_SET_t := do
  let (keys, _) ← parseKeysFunc [("acceptableMasterPortDS", { flag := true }),
    ("desiredState", { handle := some getPortState })] buf save
  return { d with
    flags := UInt8.ofInt (keys.num "acceptableMasterPortDS")
    desiredState := UInt8.ofInt (keys.num "desiredState") }

def build_GRANDMASTER_SETTINGS_NP (d : GRANDMASTER_SETTINGS_NP_t) : Keyed GRANDMASTER_SETTINGS_NP_t := do
  let (keys, _) ← parseKeysFunc [("clockAccuracy", { base := 16, max := 0xff, req := true }),
    ("clockClass", { max := 0xff, req := true }), ("currentUtcOffset", { max := 0x7fff, req := true }),
    ("currentUtcOffsetValid", { flag := true }), ("frequencyTraceable", { flag := true }),
    ("leap59", { flag := true }), ("leap61", { flag := true }),
    ("offsetScaledLogVariance", { base := 16, max := 0xffff, req := true }), ("ptpTimescale", { flag := true }),
    ("timeSource", { req := true, handle := some getTimeSource }), ("timeTraceable", { flag := true })] buf save
  return { d with
    clockQuality.clockClass := UInt8.ofInt (keys.num "clockClass")
    clockQuality.clockAccuracy := UInt8.ofInt (keys.num "clockAccuracy")
    clockQuality.offsetScaledLogVariance := UInt16.ofInt (keys.num "offsetScaledLogVariance")
    currentUtcOffset := Int16.ofInt (keys.num "currentUtcOffset")
    flags := flagIf keys "leap61" 0x1 ||| flagIf keys "leap59" 0x2 ||| flagIf keys "currentUtcOffsetValid" 0x4 |||
      flagIf keys "ptpTimescale" 0x8 ||| flagIf keys "timeTraceable" 0x10 ||| flagIf keys "frequencyTraceable" 0x20
    timeSource := UInt8.ofInt (keys.num "timeSource") }

def build_PORT_DATA_SET_NP (d : PORT_DATA_SET_NP_t) : Keyed PORT_DATA_SET_NP_t := do
  let (keys, _) ← parseKeysFunc [("asCapable", { max := 0x7fffffff, req := true }),
    ("neighborPropDelayThresh", { max := 0xffffffff, req := true })] buf save
  return { d with
    neighborPropDelayThresh := UInt32.ofInt (keys.num "neighborPropDelayThresh")
    asCapable := Int32.ofInt (keys.num "asCapable") }

def build_SUBSCRIBE_EVENTS_NP (d : SUBSCRIBE_EVENTS_NP_t) : Keyed SUBSCRIBE_EVENTS_NP_t := do
  let (keys, _) ← parseKeysFunc [("NOTIFY_PORT_STATE", { flag := true }),
    ("NOTIFY_TIME_SYNC", { flag := true }), ("duration", { max := 0xffff, req := true })] buf save
  let bitmask : Octets 64 := ⟨List.replicate 64 0, List.length_replicate⟩
  let bitmask := if keys.isSet "NOTIFY_PORT_STATE" then EVENT_BIT_SET bitmask 0 else bitmask
  let bitmask := if keys.isSet "NOTIFY_TIME_SYNC" then EVENT_BIT_SET bitmask 1 else bitmask
  return { d with duration := UInt16.ofInt (keys.num "duration"), bitmask }

def build_SYNCHRONIZATION_UNCERTAIN_NP (d : SYNCHRONIZATION_UNCERTAIN_NP_t) :
    Keyed SYNCHRONIZATION_UNCERTAIN_NP_t := do
  let (keys, _) ← parseKeysFunc [("duration", { max := 0xff, req := true })] buf save
  return { d with val := UInt8.ofInt (keys.num "duration") }

end Build

/-- `call_data` for the id of the structure that is allocated; the null pointer is an error.
The functions of the tables give it always, and ids that are not built have none. -/
def call_data (mem : BaseMngTlv) (buf : Buf) (save : Nat) : Keyed BaseMngTlv :=
  match mem with
  | .USER_DESCRIPTION d => .USER_DESCRIPTION <$> build_USER_DESCRIPTION buf save d
  | .INITIALIZE d => .INITIALIZE <$> build_INITIALIZE buf save d
  | .PRIORITY1 d => .PRIORITY1 <$> build_PRIORITY1 buf save d
  | .PRIORITY2 d => .PRIORITY2 <$> build_PRIORITY2 buf save d
  | .DOMAIN d => .DOMAIN <$> build_DOMAIN buf save d
  | .SLAVE_ONLY d => .SLAVE_ONLY <$> build_SLAVE_ONLY buf save d
  | .LOG_ANNOUNCE_INTERVAL d => .LOG_ANNOUNCE_INTERVAL <$> build_LOG_ANNOUNCE_INTERVAL buf save d
  | .ANNOUNCE_RECEIPT_TIMEOUT d => .ANNOUNCE_RECEIPT_TIMEOUT <$> build_ANNOUNCE_RECEIPT_TIMEOUT buf save d
  | .LOG_SYNC_INTERVAL d => .LOG_SYNC_INTERVAL <$> build_LOG_SYNC_INTERVAL buf save d
  | .VERSION_NUMBER d => .VERSION_NUMBER <$> build_VERSION_NUMBER buf save d
  | .TIME d => .TIME <$> build_TIME buf save d
  | .CLOCK_ACCURACY d => .CLOCK_ACCURACY <$> build_CLOCK_ACCURACY buf save d
  | .UTC_PROPERTIES d => .UTC_PROPERTIES <$> build_UTC_PROPERTIES buf save d
  | .TRACEABILITY_PROPERTIES d => .TRACEABILITY_PROPERTIES <$> build_TRACEABILITY_PROPERTIES buf save d
  | .TIMESCALE_PROPERTIES d => .TIMESCALE_PROPERTIES <$> build_TIMESCALE_PROPERTIES buf save d
  | .UNICAST_NEGOTIATION_ENABLE d => .UNICAST_NEGOTIATION_ENABLE <$> build_UNICAST_NEGOTIATION_ENABLE buf save d
  | .PATH_TRACE_ENABLE d => .PATH_TRACE_ENABLE <$> build_PATH_TRACE_ENABLE buf save d
  | .ACCEPTABLE_MASTER_TABLE_ENABLED d => .ACCEPTABLE_MASTER_TABLE_ENABLED <$>
      build_ACCEPTABLE_MASTER_TABLE_ENABLED buf save d
  | .ALTERNATE_MASTER d => .ALTERNATE_MASTER <$> build_ALTERNATE_MASTER buf save d
  | .ALTERNATE_TIME_OFFSET_ENABLE d => .ALTERNATE_TIME_OFFSET_ENABLE <$> build_ALTERNATE_TIME_OFFSET_ENABLE buf save d
  | .ALTERNATE_TIME_OFFSET_NAME d => .ALTERNATE_TIME_OFFSET_NAME <$> build_ALTERNATE_TIME_OFFSET_NAME buf save d
  | .ALTERNATE_TIME_OFFSET_PROPERTIES d => .ALTERNATE_TIME_OFFSET_PROPERTIES <$>
      build_ALTERNATE_TIME_OFFSET_PROPERTIES buf save d
  | .LOG_MIN_PDELAY_REQ_INTERVAL d => .LOG_MIN_PDELAY_REQ_INTERVAL <$> build_LOG_MIN_PDELAY_REQ_INTERVAL buf save d
  | .PRIMARY_DOMAIN d => .PRIMARY_DOMAIN <$> build_PRIMARY_DOMAIN buf save d
  | .DELAY_MECHANISM d => .DELAY_MECHANISM <$> build_DELAY_MECHANISM buf save d
  | .EXTERNAL_PORT_CONFIGURATION_ENABLED d => .EXTERNAL_PORT_CONFIGURATION_ENABLED <$>
      build_EXTERNAL_PORT_CONFIGURATION_ENABLED buf save d
  | .MASTER_ONLY d => .MASTER_ONLY <$> build_MASTER_ONLY buf save d
  | .HOLDOVER_UPGRADE_ENABLE d => .HOLDOVER_UPGRADE_ENABLE <$> build_HOLDOVER_UPGRADE_ENABLE buf save d
  | .EXT_PORT_CONFIG_PORT_DATA_SET d => .EXT_PORT_CONFIG_PORT_DATA_SET <$>
      build_EXT_PORT_CONFIG_PORT_DATA_SET buf save d
  | .GRANDMASTER_SETTINGS_NP d => .GRANDMASTER_SETTINGS_NP <$> build_GRANDMASTER_SETTINGS_NP buf save d
  | .PORT_DATA_SET_NP d => .PORT_DATA_SET_NP <$> build_PORT_DATA_SET_NP buf save d
  | .SUBSCRIBE_EVENTS_NP d => .SUBSCRIBE_EVENTS_NP <$> build_SUBSCRIBE_EVENTS_NP buf save d
  | .SYNCHRONIZATION_UNCERTAIN_NP d => .SYNCHRONIZATION_UNCERTAIN_NP <$> build_SYNCHRONIZATION_UNCERTAIN_NP buf save d
  | _ => throw .error

/-! ## What is sent of the memory -/

/-- What a caller sends of a build: its result, the buffer and the length. -/
def Message.Built.sent (n : Message.Built) : MngParseError × Mem × Nat := (n.err, n.mem, n.msg.msgLen)

/-- What a message sends with the structure. -/
def Message.sends (m : Message) (action : ActionField) (d : BaseMngTlv) (mem : Mem) (bufSize : Nat)
    (sequence : UInt16) :
    Option (MngParseError × Mem × Nat) :=
  ((m.setActionData action d.id d).2.build mem bufSize sequence).map Message.Built.sent

/-- Both fail, or a message with either structure sends the same octets. -/
def SameSent : Keyed BaseMngTlv → Keyed BaseMngTlv → Prop
  | .ok b, .ok b' => ∀ (m : Message) (action : ActionField) (mem : Mem) (bufSize : Nat) (sequence : UInt16),
      m.sends action b mem bufSize sequence = m.sends action b' mem bufSize sequence
  | .error _, .error _ => True
  | _, _ => False

/-- The rest of a command line, with the memory behind it. -/
structure Tail where
  buf : Buf
  save : Nat
  ended : buf.Ended save

/-- Nothing that the memory of a new structure holds gets sent. -/
def SendsTextOnly (id : MngVals) (tail : Tail) : Prop :=
  ∀ d d' : BaseMngTlv, d.id = id → d'.id = id →
    SameSent (call_data d tail.buf tail.save) (call_data d' tail.buf tail.save)

section Sent

theorem SameSent.refl (r : Keyed BaseMngTlv) : SameSent r r := by
  cases r with
  | error e => trivial
  | ok b => exact fun _ _ _ _ _ => rfl

theorem buildData_congr (r : Message) {b b' : BaseMngTlv} (c : Cursor MngParseError) (hid : b.id = r.tlvId)
    (hid' : b'.id = r.tlvId) (hp : procTlv b = procTlv b') (hc : c.build = true) :
    let n := { r with dataSend := some b }.buildData b c
    let n' := { r with dataSend := some b' }.buildData b' c
    n.1 = n'.1 ∧ n.2.2 = n'.2.2 ∧ n.2.1.msgLen = n'.2.1.msgLen := by
  unfold Message.buildData
  dsimp only
  rw [← hid, run_callTlvData hc, hid, ← hid', run_callTlvData hc, hp]
  rcases (TlvPtr.to <$> procTlv b').run c with ⟨_ | p, c'⟩
  · exact ⟨rfl, rfl, rfl⟩
  · exact ⟨rfl, rfl, by cases p <;> rfl⟩

/-- Two structures that the process function writes alike are built alike. -/
theorem build_congr (r : Message) {b b' : BaseMngTlv} (hid : b.id = r.tlvId) (hid' : b'.id = r.tlvId)
    (hp : procTlv b = procTlv b') (hg : r.sendAction ≠ .GET) (mem : Mem) (bufSize : Nat) (sequence : UInt16) :
    ({ r with dataSend := some b }.build mem bufSize sequence).map Message.Built.sent =
      ({ r with dataSend := some b' }.build mem bufSize sequence).map Message.Built.sent := by
  by_cases hb : bufSize < mngMsgBaseSize
  · rw [Message.build_small _ mem sequence hb, Message.build_small _ mem sequence hb]
    rfl
  rw [Message.build_dataSend (m := { r with dataSend := some b }) mem sequence hb hg rfl fun h => h.2 hid,
    Message.build_dataSend (m := { r with dataSend := some b' }) mem sequence hb hg rfl fun h => h.2 hid']
  obtain ⟨h1, h2, h3⟩ := buildData_congr r (r.buildCursor mem bufSize sequence) hid hid' hp rfl
  -- the header does not depend on the structure to send
  have hc (d : Option BaseMngTlv) : { r with dataSend := d }.buildCursor mem bufSize sequence =
    r.buildCursor mem bufSize sequence := rfl
  rw [hc (some b), hc (some b')]
  generalize { r with dataSend := some b }.buildData b (r.buildCursor mem bufSize sequence) = n at h1 h2 h3 ⊢
  generalize { r with dataSend := some b' }.buildData b' (r.buildCursor mem bufSize sequence) = n' at h1 h2 h3 ⊢
  obtain ⟨e, m, c⟩ := n
  obtain ⟨e', m', c'⟩ := n'
  obtain rfl : e = e' := h1
  obtain rfl : c = c' := h2
  cases e with
  | some e => exact congrArg (fun n => some (e, c.mem, n)) h3
  | none =>
    unfold Message.buildEnd
    dsimp only
    split
    · exact congrArg (fun n => some (MngParseError.SIZE, c.mem, n)) h3
    · rfl

/-- So a message sends the same octets. -/
theorem sends_congr {b b' : BaseMngTlv} (hid : b.id = b'.id) (hp : procTlv b = procTlv b') (m : Message)
    (action : ActionField) (mem : Mem) (bufSize : Nat) (sequence : UInt16) :
    m.sends action b mem bufSize sequence = m.sends action b' mem bufSize sequence := by
  unfold Message.sends Message.setActionData
  rw [hid]
  by_cases ha : m.allowedAction b'.id action
  · rw [if_neg (not_not.2 ha), if_neg (not_not.2 ha)]
    by_cases hs : b'.id ≠ .NULL_PTP_MANAGEMENT ∧ action ≠ .GET ∧ (mngAllVals b'.id).size ≠ 0
    · rw [if_pos hs, if_pos hs]
      exact build_congr { m with sendAction := action, tlvId := b'.id } hid rfl hp hs.2.1 mem bufSize sequence
    · rw [if_neg hs, if_neg hs]
  · rw [if_pos ha, if_pos ha]

theorem SameSent.trans {r s t : Keyed BaseMngTlv} (h : SameSent r t) (h' : SameSent s t) : SameSent r s := by
  cases t with
  | error e => cases r <;> cases s <;> trivial
  | ok c =>
    cases r with
    | error e => exact h.elim
    | ok b =>
      cases s with
      | error e => exact h'.elim
      | ok b' => exact fun m action mem bufSize sequence =>
          (h m action mem bufSize sequence).trans (h' m action mem bufSize sequence).symm

theorem SameSent.map {α : Type} {f f' : α → BaseMngTlv} (hid : ∀ a, (f a).id = (f' a).id)
    (hp : ∀ a, procTlv (f a) = procTlv (f' a)) (r : Keyed α) : SameSent (f <$> r) (f' <$> r) := by
  cases r with
  | error e => trivial
  | ok a => exact sends_congr (hid a) (hp a)

/-- The ids whose functions leave out a member. -/
def leavesOut (id : MngVals) : Bool := id = .TIMESCALE_PROPERTIES ∨ id = .ALTERNATE_TIME_OFFSET_ENABLE

/-- Every other function assigns each member that is sent: the structure might as well have been empty. -/
theorem sameSent_newTlv {d t : BaseMngTlv} (ht : newTlv d.id = some t) (hl : leavesOut d.id = false)
    (buf : Buf) (save : Nat) :
    SameSent (call_data d buf save) (call_data t buf save) := by
  cases d with
  | TIMESCALE_PROPERTIES d | ALTERNATE_TIME_OFFSET_ENABLE d => cases hl
  -- the length of a text is not read
  | USER_DESCRIPTION d =>
    obtain rfl := Option.some.inj ht
    have hm (d : USER_DESCRIPTION_t) : call_data (.USER_DESCRIPTION d) buf save =
        (fun s => .USER_DESCRIPTION { d with userDescription.textField := s }) <$>
          (parseKeysFunc [("userDescription", { can_str := true })] buf save >>= fun r =>
            r.1.str "userDescription" r.2) := by
      change BaseMngTlv.USER_DESCRIPTION <$> build_USER_DESCRIPTION buf save d = _
      simp only [build_USER_DESCRIPTION, ← bind_pure_comp, bind_assoc, pure_bind]
    rw [hm d, hm default]
    apply SameSent.map
    · intro s; rfl
    · intro s; rfl
  | ALTERNATE_TIME_OFFSET_NAME d =>
    obtain rfl := Option.some.inj ht
    have hm (d : ALTERNATE_TIME_OFFSET_NAME_t) : call_data (.ALTERNATE_TIME_OFFSET_NAME d) buf save =
        (fun v : UInt8 × List UInt8 => .ALTERNATE_TIME_OFFSET_NAME
          { d with keyField := v.1, displayName.textField := v.2 }) <$>
          (parseKeysFunc [("displayName", { can_str := true, req := true }), ("keyField", { max := 0xff, req := true })]
            buf save >>= fun r => r.1.str "displayName" r.2 >>=
              fun s => pure (UInt8.ofInt (r.1.num "keyField"), s)) := by
      change BaseMngTlv.ALTERNATE_TIME_OFFSET_NAME <$> build_ALTERNATE_TIME_OFFSET_NAME buf save d = _
      simp only [build_ALTERNATE_TIME_OFFSET_NAME, ← bind_pure_comp, bind_assoc, pure_bind]
    rw [hm d, hm default]
    apply SameSent.map
    · intro s; rfl
    · intro s; rfl
  | _ =>
    obtain rfl := Option.some.inj ht
    exact SameSent.refl _

/-- A SET of a structure sends what the process function builds of it. -/
theorem built_of_sends {d d' : BaseMngTlv} (ha : Allowed .SET d.id) (ha' : Allowed .SET d'.id) (hl : LengthsFit d)
    (hl' : LengthsFit d') (h48 : Fits48 d) (h48' : Fits48 d') (hmax : messageSize d ≤ 65535)
    (hmax' : messageSize d' ≤ 65535)
    (h : (Message.new default).sends .SET d (fun _ => 0) 65535 0 =
      (Message.new default).sends .SET d' (fun _ => 0) 65535 0) :
    d.built = d'.built := by
  let m := Message.new default
  obtain ⟨-, b, hb, -, -, -, hs⟩ := parse_build m m .SET d (fun _ => 0) 65535 0 ha rfl rfl (by decide) hl h48 hmax hmax
  obtain ⟨-, b', hb', -, -, -, hs'⟩ := parse_build m m .SET d' (fun _ => 0) 65535 0 ha' rfl rfl
    (by decide) hl' h48' hmax' hmax'
  have hsent : some b.sent = some b'.sent := by
    have e : m.sends .SET d (fun _ => 0) 65535 0 = some b.sent := congrArg (Option.map Message.Built.sent) hb
    have e' : m.sends .SET d' (fun _ => 0) 65535 0 = some b'.sent := congrArg (Option.map Message.Built.sent) hb'
    rw [← e, ← e']
    exact h
  obtain ⟨-, h2⟩ := Prod.ext_iff.1 (Option.some.inj hsent)
  obtain ⟨hmem, hlen⟩ := Prod.ext_iff.1 h2
  have hdata := hs.data
  rw [show b.mem = b'.mem from hmem, show b.msg.msgLen = b'.msg.msgLen from hlen, hs'.data] at hdata
  exact (TlvPtr.to.inj hdata).symm

theorem call_data_TIMESCALE_PROPERTIES (tail : Tail) : ∃ flags, ∀ d : TIMESCALE_PROPERTIES_t,
    call_data (.TIMESCALE_PROPERTIES d) tail.buf tail.save = .ok (.TIMESCALE_PROPERTIES { d with flags }) := by
  obtain ⟨keys, buf', hp⟩ := parseKeysFunc_flag "ptpTimescale" tail.ended
  refine ⟨flagIf keys "ptpTimescale" 0x8, fun d => ?_⟩
  change BaseMngTlv.TIMESCALE_PROPERTIES <$> build_TIMESCALE_PROPERTIES tail.buf tail.save d = _
  unfold build_TIMESCALE_PROPERTIES
  rw [hp]
  rfl

theorem call_data_ALTERNATE_TIME_OFFSET_ENABLE (tail : Tail) : ∃ flags, ∀ d : ALTERNATE_TIME_OFFSET_ENABLE_t,
    call_data (.ALTERNATE_TIME_OFFSET_ENABLE d) tail.buf tail.save =
      .ok (.ALTERNATE_TIME_OFFSET_ENABLE { d with flags }) := by
  obtain ⟨keys, buf', hp⟩ := parseKeysFunc_flag "alternateTimescaleOffsetsDS" tail.ended
  refine ⟨UInt8.ofInt (keys.num "alternateTimescaleOffsetsDS"), fun d => ?_⟩
  change BaseMngTlv.ALTERNATE_TIME_OFFSET_ENABLE <$> build_ALTERNATE_TIME_OFFSET_ENABLE tail.buf tail.save d = _
  unfold build_ALTERNATE_TIME_OFFSET_ENABLE
  rw [hp]
  rfl

/-- Two contents of the memory that differ in the member left out. -/
theorem not_sendsTextOnly {id : MngVals} (hl : leavesOut id = true) (tail : Tail) : ¬ SendsTextOnly id tail := by
  intro h
  have hid : id = .TIMESCALE_PROPERTIES ∨ id = .ALTERNATE_TIME_OFFSET_ENABLE := of_decide_eq_true hl
  rcases hid with rfl | rfl
  · obtain ⟨flags, hd⟩ := call_data_TIMESCALE_PROPERTIES tail
    have hs := h (.TIMESCALE_PROPERTIES ⟨0, 0⟩) (.TIMESCALE_PROPERTIES ⟨0, 1⟩) rfl rfl
    rw [hd, hd] at hs
    have ha : Allowed .SET .TIMESCALE_PROPERTIES := ⟨.inl rfl, by decide⟩
    have hsize (v : TIMESCALE_PROPERTIES_t) : messageSize (.TIMESCALE_PROPERTIES v) = 56 := rfl
    have hb := @built_of_sends (.TIMESCALE_PROPERTIES ⟨flags, 0⟩) (.TIMESCALE_PROPERTIES ⟨flags, 1⟩) ha ha
      trivial trivial trivial trivial (by rw [hsize]; decide) (by rw [hsize]; decide)
      (hs (Message.new default) .SET (fun _ => 0) 65535 0)
    cases hb
  · obtain ⟨flags, hd⟩ := call_data_ALTERNATE_TIME_OFFSET_ENABLE tail
    have hs := h (.ALTERNATE_TIME_OFFSET_ENABLE ⟨0, 0⟩) (.ALTERNATE_TIME_OFFSET_ENABLE ⟨1, 0⟩) rfl rfl
    rw [hd, hd] at hs
    have ha : Allowed .SET .ALTERNATE_TIME_OFFSET_ENABLE := ⟨.inl rfl, by decide⟩
    have hsize (v : ALTERNATE_TIME_OFFSET_ENABLE_t) : messageSize (.ALTERNATE_TIME_OFFSET_ENABLE v) = 56 := rfl
    have hb := @built_of_sends (.ALTERNATE_TIME_OFFSET_ENABLE ⟨0, flags⟩) (.ALTERNATE_TIME_OFFSET_ENABLE ⟨1, flags⟩)
      ha ha trivial trivial
      trivial trivial (by rw [hsize]; decide) (by rw [hsize]; decide)
        (hs (Message.new default) .SET (fun _ => 0) 65535 0)
    cases hb

end Sent

/-- For every rest of a command line: where the memory of the new structure holds something else,
`call_data` fails likewise or gives a structure that sends the same octets. The exceptions are
two ids with a member that no key sets. -/
theorem sendsTextOnly_iff (id : MngVals) (tail : Tail) :
    SendsTextOnly id tail ↔ id ≠ .TIMESCALE_PROPERTIES ∧ id ≠ .ALTERNATE_TIME_OFFSET_ENABLE := by
  constructor
  · intro h
    have hl : ¬ leavesOut id = true := fun hl => not_sendsTextOnly hl tail h
    exact not_or.1 fun ho => hl (decide_eq_true ho)
  · rintro ⟨h1, h2⟩ d d' rfl hid
    have hl : leavesOut d.id = false := decide_eq_false (not_or.2 ⟨h1, h2⟩)
    obtain ⟨t, ht⟩ := newTlv_id d
    exact (sameSent_newTlv ht hl tail.buf tail.save).trans
      (sameSent_newTlv (hid.symm ▸ ht) (hid.symm ▸ hl) tail.buf tail.save)

/-- The flag is set, and the clock source that is sent is what the memory holds. -/
theorem timescale_sends_memory :
    ¬ SendsTextOnly .TIMESCALE_PROPERTIES ⟨octets " ptpTimescale on" ++ [0], 0,
      List.mem_append_right _ List.mem_cons_self⟩ :=
  not_sendsTextOnly rfl _

end LibPmc
