import LibPmc.Json.Printf
import LibPmc.Parse
/-!
# A message as JSON

`json.cpp`: the emitter `JsonProcToJson`, which appends to a string, the functions that put
out the members of a TLV, and `msg2json`. All functions that put out a value return
`true`, so that each chain of `&&` runs to its end.
-/
namespace LibPmc

open Wire Cstr

/-! ## Names of codes -/

def tlv2str_c (type : UInt16) : String :=
  if type = TlvType.MANAGEMENT then "MANAGEMENT"
  else if type = TlvType.MANAGEMENT_ERROR_STATUS then "MANAGEMENT_ERROR_STATUS"
  else if type = TlvType.ORGANIZATION_EXTENSION then "ORGANIZATION_EXTENSION"
  else if type = 0x0004 then "REQUEST_UNICAST_TRANSMISSION"
  else if type = 0x0005 then "GRANT_UNICAST_TRANSMISSION"
  else if type = 0x0006 then "CANCEL_UNICAST_TRANSMISSION"
  else if type = 0x0007 then "ACKNOWLEDGE_CANCEL_UNICAST_TRANSMISSION"
  else if type = TlvType.PATH_TRACE then "PATH_TRACE"
  else if type = TlvType.ALTERNATE_TIME_OFFSET_INDICATOR then "ALTERNATE_TIME_OFFSET_INDICATOR"
  else if type = TlvType.ORGANIZATION_EXTENSION_PROPAGATE then "ORGANIZATION_EXTENSION_PROPAGATE"
  else if type = TlvType.ENHANCED_ACCURACY_METRICS then "ENHANCED_ACCURACY_METRICS"
  else if type = TlvType.ORGANIZATION_EXTENSION_DO_NOT_PROPAGATE then "ORGANIZATION_EXTENSION_DO_NOT_PROPAGATE"
  else if type = TlvType.L1_SYNC then "L1_SYNC"
  else if type = TlvType.PORT_COMMUNICATION_AVAILABILITY then "PORT_COMMUNICATION_AVAILABILITY"
  else if type = TlvType.PROTOCOL_ADDRESS then "PROTOCOL_ADDRESS"
  else if type = TlvType.SLAVE_RX_SYNC_TIMING_DATA then "SLAVE_RX_SYNC_TIMING_DATA"
  else if type = TlvType.SLAVE_RX_SYNC_COMPUTED_DATA then "SLAVE_RX_SYNC_COMPUTED_DATA"
  else if type = TlvType.SLAVE_TX_EVENT_TIMESTAMPS then "SLAVE_TX_EVENT_TIMESTAMPS"
  else if type = TlvType.CUMULATIVE_RATE_RATIO then "CUMULATIVE_RATE_RATIO"
  else if type = 0x8009 then "AUTHENTICATION"
  else if type = TlvType.SLAVE_DELAY_TIMING_DATA_NP then "SLAVE_DELAY_TIMING_DATA_NP"
  else if type = 0x8008 then "PAD"
  else "unknown TLV"

def act2str_c : ActionField → String
  | .GET => "GET"
  | .SET => "SET"
  | .RESPONSE => "RESPONSE"
  | .COMMAND => "COMMAND"
  | .ACKNOWLEDGE => "ACKNOWLEDGE"

def mng2str_c : MngVals → String
  | .NULL_PTP_MANAGEMENT => "NULL_PTP_MANAGEMENT"
  | .CLOCK_DESCRIPTION => "CLOCK_DESCRIPTION"
  | .USER_DESCRIPTION => "USER_DESCRIPTION"
  | .SAVE_IN_NON_VOLATILE_STORAGE => "SAVE_IN_NON_VOLATILE_STORAGE"
  | .RESET_NON_VOLATILE_STORAGE => "RESET_NON_VOLATILE_STORAGE"
  | .INITIALIZE => "INITIALIZE"
  | .FAULT_LOG => "FAULT_LOG"
  | .FAULT_LOG_RESET => "FAULT_LOG_RESET"
  | .DEFAULT_DATA_SET => "DEFAULT_DATA_SET"
  | .CURRENT_DATA_SET => "CURRENT_DATA_SET"
  | .PARENT_DATA_SET => "PARENT_DATA_SET"
  | .TIME_PROPERTIES_DATA_SET => "TIME_PROPERTIES_DATA_SET"
  | .PORT_DATA_SET => "PORT_DATA_SET"
  | .PRIORITY1 => "PRIORITY1"
  | .PRIORITY2 => "PRIORITY2"
  | .DOMAIN => "DOMAIN"
  | .SLAVE_ONLY => "SLAVE_ONLY"
  | .LOG_ANNOUNCE_INTERVAL => "LOG_ANNOUNCE_INTERVAL"
  | .ANNOUNCE_RECEIPT_TIMEOUT => "ANNOUNCE_RECEIPT_TIMEOUT"
  | .LOG_SYNC_INTERVAL => "LOG_SYNC_INTERVAL"
  | .VERSION_NUMBER => "VERSION_NUMBER"
  | .ENABLE_PORT => "ENABLE_PORT"
  | .DISABLE_PORT => "DISABLE_PORT"
  | .TIME => "TIME"
  | .CLOCK_ACCURACY => "CLOCK_ACCURACY"
  | .UTC_PROPERTIES => "UTC_PROPERTIES"
  | .TRACEABILITY_PROPERTIES => "TRACEABILITY_PROPERTIES"
  | .TIMESCALE_PROPERTIES => "TIMESCALE_PROPERTIES"
  | .UNICAST_NEGOTIATION_ENABLE => "UNICAST_NEGOTIATION_ENABLE"
  | .PATH_TRACE_LIST => "PATH_TRACE_LIST"
  | .PATH_TRACE_ENABLE => "PATH_TRACE_ENABLE"
  | .GRANDMASTER_CLUSTER_TABLE => "GRANDMASTER_CLUSTER_TABLE"
  | .UNICAST_MASTER_TABLE => "UNICAST_MASTER_TABLE"
  | .UNICAST_MASTER_MAX_TABLE_SIZE => "UNICAST_MASTER_MAX_TABLE_SIZE"
  | .ACCEPTABLE_MASTER_TABLE => "ACCEPTABLE_MASTER_TABLE"
  | .ACCEPTABLE_MASTER_TABLE_ENABLED => "ACCEPTABLE_MASTER_TABLE_ENABLED"
  | .ACCEPTABLE_MASTER_MAX_TABLE_SIZE => "ACCEPTABLE_MASTER_MAX_TABLE_SIZE"
  | .ALTERNATE_MASTER => "ALTERNATE_MASTER"
  | .ALTERNATE_TIME_OFFSET_ENABLE => "ALTERNATE_TIME_OFFSET_ENABLE"
  | .ALTERNATE_TIME_OFFSET_NAME => "ALTERNATE_TIME_OFFSET_NAME"
  | .ALTERNATE_TIME_OFFSET_MAX_KEY => "ALTERNATE_TIME_OFFSET_MAX_KEY"
  | .ALTERNATE_TIME_OFFSET_PROPERTIES => "ALTERNATE_TIME_OFFSET_PROPERTIES"
  | .TRANSPARENT_CLOCK_PORT_DATA_SET => "TRANSPARENT_CLOCK_PORT_DATA_SET"
  | .LOG_MIN_PDELAY_REQ_INTERVAL => "LOG_MIN_PDELAY_REQ_INTERVAL"
  | .TRANSPARENT_CLOCK_DEFAULT_DATA_SET => "TRANSPARENT_CLOCK_DEFAULT_DATA_SET"
  | .PRIMARY_DOMAIN => "PRIMARY_DOMAIN"
  | .DELAY_MECHANISM => "DELAY_MECHANISM"
  | .EXTERNAL_PORT_CONFIGURATION_ENABLED => "EXTERNAL_PORT_CONFIGURATION_ENABLED"
  | .MASTER_ONLY => "MASTER_ONLY"
  | .HOLDOVER_UPGRADE_ENABLE => "HOLDOVER_UPGRADE_ENABLE"
  | .EXT_PORT_CONFIG_PORT_DATA_SET => "EXT_PORT_CONFIG_PORT_DATA_SET"
  | .TIME_STATUS_NP => "TIME_STATUS_NP"
  | .GRANDMASTER_SETTINGS_NP => "GRANDMASTER_SETTINGS_NP"
  | .PORT_DATA_SET_NP => "PORT_DATA_SET_NP"
  | .SUBSCRIBE_EVENTS_NP => "SUBSCRIBE_EVENTS_NP"
  | .PORT_PROPERTIES_NP => "PORT_PROPERTIES_NP"
  | .PORT_STATS_NP => "PORT_STATS_NP"
  | .SYNCHRONIZATION_UNCERTAIN_NP => "SYNCHRONIZATION_UNCERTAIN_NP"

def errId2str_c (err : UInt16) : String :=
  if err = 0x0001 then "RESPONSE_TOO_BIG"
  else if err = 0x0002 then "NO_SUCH_ID"
  else if err = 0x0003 then "WRONG_LENGTH"
  else if err = 0x0004 then "WRONG_VALUE"
  else if err = 0x0005 then "NOT_SETABLE"
  else if err = 0x0006 then "NOT_SUPPORTED"
  else if err = 0xfffe then "GENERAL_ERROR"
  else "unknown"

def netProt2str_c (val : UInt16) : String :=
  if val = 1 then "UDP_IPv4"
  else if val = 2 then "UDP_IPv6"
  else if val = 3 then "IEEE_802_3"
  else if val = 4 then "DeviceNet"
  else if val = 5 then "ControlNet"
  else if val = 6 then "PROFINET"
  else "unknown"

def faultRec2str_c (val : UInt8) : String :=
  if val = 0 then "Emergency"
  else if val = 1 then "Alert"
  else if val = 2 then "Critical"
  else if val = 3 then "Error"
  else if val = 4 then "Warning"
  else if val = 5 then "Notice"
  else if val = 6 then "Informational"
  else if val = 7 then "Debug"
  else "unknown fault record"

def timeSrc2str_c (val : UInt8) : String :=
  if val = 0x10 then "ATOMIC_CLOCK"
  else if val = 0x20 then "GNSS"
  else if val = 0x30 then "TERRESTRIAL_RADIO"
  else if val = 0x39 then "SERIAL_TIME_CODE"
  else if val = 0x40 then "PTP"
  else if val = 0x50 then "NTP"
  else if val = 0x60 then "HAND_SET"
  else if val = 0x90 then "OTHER"
  else if val = 0xa0 then "INTERNAL_OSCILLATOR"
  else "unknown clock"

def portState2str_c (val : UInt8) : String :=
  if val = 1 then "INITIALIZING"
  else if val = 2 then "FAULTY"
  else if val = 3 then "DISABLED"
  else if val = 4 then "LISTENING"
  else if val = 5 then "PRE_MASTER"
  else if val = 6 then "MASTER"
  else if val = 7 then "PASSIVE"
  else if val = 8 then "UNCALIBRATED"
  else if val = 9 then "CLIENT"
  else "unknown state"

def ts2str_c (val : UInt8) : String :=
  if val = 0 then "TS_SOFTWARE"
  else if val = 1 then "TS_HARDWARE"
  else if val = 2 then "TS_LEGACY_HW"
  else if val = 3 then "TS_ONESTEP"
  else if val = 4 then "TS_P2P1STEP"
  else "unknown"

/-! ## Texts of values -/

/-- The double `getInterval` gives, as `std::to_string` prints it. -/
def TimeInterval_t.interval (v : TimeInterval_t) : List UInt8 := fixed6 (toDouble v.scaledNanoseconds.toInt) 0x10000

def Timestamp_t.string (v : Timestamp_t) : List UInt8 :=
  decimal v.secondsField.toNat ++ octets "." ++ zeroPadded 9 v.nanosecondsField.toNat

/-- `%02x%02x%02x.%02x%02x.%02x%02x%02x` -/
def ClockIdentity_t.string (id : ClockIdentity_t) : List UInt8 :=
  (id.v.val.take 3).flatMap hex2 ++ octets "." ++ ((id.v.val.drop 3).take 2).flatMap hex2 ++ octets "." ++
    (id.v.val.drop 5).flatMap hex2

def bufToId : List UInt8 → List UInt8
  | [] => []
  | b :: bs => hex2 b ++ bs.flatMap fun b => octets ":" ++ hex2 b

/-! ## The emitter -/

/-- A record of a list, of one of the four types. -/
inductive ListRecord where
  | clockIdentity (val : ClockIdentity_t)
  | portAddress (val : PortAddress_t)
  | faultRecord (val : FaultRecord_t)
  | acceptableMaster (val : AcceptableMaster_t)

structure JsonProcToJson where
  result : List UInt8
  m_first_vals : List Bool
  m_first : Bool

/-- What a member function does to the object. -/
abbrev Emit := JsonProcToJson → JsonProcToJson

namespace JsonProcToJson

/-- The constructor. -/
def new : JsonProcToJson := ⟨[], [], false⟩

def add (x : List UInt8) : Emit := fun p => { p with result := p.result ++ x }

def close : Emit := fun p =>
  let p := if ¬ p.m_first then p.add (octets ",") else p
  let p := p.add (octets "\n")
  { p with m_first := false }

def indent : Emit := fun p => p.add (List.replicate p.m_first_vals.length (octets "  ")).flatten

def startName (name : String) (tail : String) : Emit := fun p =>
  ((((p.close.indent.add (octets "\"")).add (octets name)).add (octets "\" :")).add (octets tail))

/-- `startObject` and `startArray`, by their bracket. -/
def start (bracket : String) : Emit := fun p =>
  let p := p.indent.add (octets bracket)
  { p with m_first_vals := p.m_first :: p.m_first_vals, m_first := true }

/-- `closeObject` and `closeArray`. The stack holds at least what their start pushed. -/
def stop (bracket : String) : Emit := fun p =>
  let p := p.add (octets "\n")
  let p := { p with m_first := p.m_first_vals.headD false, m_first_vals := p.m_first_vals.tail }
  p.indent.add (octets bracket)

def startObject : Emit := start "\x7b"
def closeObject : Emit := stop "\x7d"
def startArray : Emit := start "["
def closeArray : Emit := stop "]"

end JsonProcToJson

namespace JsonProc

open JsonProcToJson

/-- `a && b && ...` of functions that return `true`. -/
def all (fs : List Emit) : Emit := fun p => fs.foldl (fun p f => f p) p

/-- `procObject` and `closeObject`, and what is between them. -/
def object (name : String) (f : Emit) : Emit := fun p => (f ((p.startName name "\n").startObject)).closeObject

/-- All overloads for arrays: the elements are left out. -/
def procArray {α : Type} (name : String) (_ : List α) :
    Emit := fun p => ((p.startName name "\n").startArray).closeArray

def procString (name : String) (val : List UInt8) :
    Emit := fun p => ((p.startName name " \"").add val).add (octets "\"")

/-- `procValue` of a `std::string`, which is a number. -/
def procNumber (name : String) (val : List UInt8) : Emit := fun p => (p.startName name " ").add val

def procBool (name : String) (val : Bool) : Emit := fun p =>
  (p.startName name " ").add (octets (if val then "true" else "false"))

def procFlag (name : String) (flags mask : UInt8) : Emit := procBool name (flags &&& mask > 0)

/-- Both overloads: a `Binary` and an array of octets. -/
def procBinary (name : String) (val : List UInt8) : Emit := procString name (bufToId val)

/-- The overloads for enumerations, by the function that names the value. -/
def procEnum {α : Type} (func : α → String) (name : String) (val : α) : Emit := procString name (octets (func val))

/-- The other overloads of `procValue`. -/
class ProcValue (α : Type) where
  procValue : String → α → Emit

export ProcValue (procValue)

instance : ProcValue UInt8 := ⟨fun name val => procNumber name (signed val.toNat)⟩
instance : ProcValue UInt16 := ⟨fun name val => procNumber name (signed val.toNat)⟩
instance : ProcValue UInt32 := ⟨fun name val => procNumber name (signed val.toNat)⟩
instance : ProcValue UInt64 := ⟨fun name val => procNumber name (signed val.toNat)⟩
instance : ProcValue Int8 := ⟨fun name val => procNumber name (signed val.toInt)⟩
instance : ProcValue Int16 := ⟨fun name val => procNumber name (signed val.toInt)⟩
instance : ProcValue Int32 := ⟨fun name val => procNumber name (signed val.toInt)⟩
instance : ProcValue Int64 := ⟨fun name val => procNumber name (signed val.toInt)⟩
instance : ProcValue TimeInterval_t := ⟨fun name val => procNumber name val.interval⟩
instance : ProcValue Timestamp_t := ⟨fun name val => procNumber name val.string⟩
instance : ProcValue ClockIdentity_t := ⟨fun name val => procString name val.string⟩
instance : ProcValue PTPText_t := ⟨fun name val => procString name val.textField⟩

instance : ProcValue PortIdentity_t := ⟨fun name val => object name
  (all [procValue "clockIdentity" val.clockIdentity, procValue "portNumber" val.portNumber])⟩

instance : ProcValue PortAddress_t := ⟨fun name val => object name
  (all [procEnum netProt2str_c "networkProtocol" val.networkProtocol, procBinary "addressField" val.addressField])⟩

instance : ProcValue ClockQuality_t := ⟨fun name val => object name
  (all [procValue "clockClass" val.clockClass, procValue "clockAccuracy" val.clockAccuracy,
    procValue "offsetScaledLogVariance" val.offsetScaledLogVariance])⟩

/-- The overloads of `procValue` without a name, which put out an element of an array. No
overload of `procArray` calls them, and those for objects leave the comma to their caller. -/
def procElement : ListRecord → Emit
  | .clockIdentity val => fun p => ((p.close.indent.add (octets "\"")).add val.string).add (octets "\"")
  | .portAddress val => fun p => (all [procEnum netProt2str_c "networkProtocol" val.networkProtocol,
      procBinary "addressField" val.addressField] p.startObject).closeObject
  | .faultRecord val => fun p => (all [procValue "faultRecordLength" val.faultRecordLength,
      procValue "faultTime" val.faultTime, procEnum faultRec2str_c "severityCode" val.severityCode,
      procValue "faultName" val.faultName, procValue "faultValue" val.faultValue,
      procValue "faultDescription" val.faultDescription] p.startObject).closeObject
  | .acceptableMaster val => fun p => (all [procValue "acceptablePortIdentity" val.acceptablePortIdentity,
      procValue "alternatePriority1" val.alternatePriority1] p.startObject).closeObject

/-! ## The TLVs -/

def F_LI_61 : UInt8 := (1 : UInt8) <<< 0
def F_LI_59 : UInt8 := (1 : UInt8) <<< 1
def F_UTCV : UInt8 := (1 : UInt8) <<< 2
def F_PTP : UInt8 := (1 : UInt8) <<< 3
def F_TTRA : UInt8 := (1 : UInt8) <<< 4
def F_FTRA : UInt8 := (1 : UInt8) <<< 5

def proc_CLOCK_DESCRIPTION (d : CLOCK_DESCRIPTION_t) : Emit :=
  all [procValue "clockType" d.clockType, procValue "physicalLayerProtocol" d.physicalLayerProtocol,
    procBinary "physicalAddress" d.physicalAddress, procValue "protocolAddress" d.protocolAddress,
    procBinary "manufacturerIdentity" d.manufacturerIdentity.val,
    procValue "productDescription" d.productDescription, procValue "revisionData" d.revisionData,
    procValue "userDescription" d.userDescription, procBinary "profileIdentity" d.profileIdentity.val]

def proc_USER_DESCRIPTION (d : USER_DESCRIPTION_t) : Emit :=
  all [procValue "userDescription" d.userDescription]

def proc_INITIALIZE (d : INITIALIZE_t) : Emit :=
  all [procValue "initializationKey" d.initializationKey]

def proc_FAULT_LOG (d : FAULT_LOG_t) : Emit :=
  all [procValue "numberOfFaultRecords" d.numberOfFaultRecords, procArray "faultRecords" d.faultRecords]

def proc_DEFAULT_DATA_SET (d : DEFAULT_DATA_SET_t) : Emit :=
  all [procFlag "twoStepFlag" d.flags 1, procFlag "slaveOnly" d.flags 2, procValue "numberPorts" d.numberPorts,
    procValue "priority1" d.priority1, procValue "clockQuality" d.clockQuality, procValue "priority2" d.priority2,
    procValue "clockIdentity" d.clockIdentity, procValue "domainNumber" d.domainNumber]

def proc_CURRENT_DATA_SET (d : CURRENT_DATA_SET_t) : Emit :=
  all [procValue "stepsRemoved" d.stepsRemoved, procValue "offsetFromMaster" d.offsetFromMaster,
    procValue "meanPathDelay" d.meanPathDelay]

def proc_PARENT_DATA_SET (d : PARENT_DATA_SET_t) : Emit :=
  all [procValue "parentPortIdentity" d.parentPortIdentity, procFlag "parentStats" d.flags 1,
    procValue "observedParentOffsetScaledLogVariance" d.observedParentOffsetScaledLogVariance,
    procValue "observedParentClockPhaseChangeRate" d.observedParentClockPhaseChangeRate,
    procValue "grandmasterPriority1" d.grandmasterPriority1,
    procValue "grandmasterClockQuality" d.grandmasterClockQuality,
    procValue "grandmasterPriority2" d.grandmasterPriority2, procValue "grandmasterIdentity" d.grandmasterIdentity]

def proc_TIME_PROPERTIES_DATA_SET (d : TIME_PROPERTIES_DATA_SET_t) : Emit :=
  all [procValue "currentUtcOffset" d.currentUtcOffset, procFlag "leap61" d.flags F_LI_61,
    procFlag "leap59" d.flags F_LI_59, procFlag "currentUtcOffsetValid" d.flags F_UTCV,
    procFlag "ptpTimescale" d.flags F_PTP, procFlag "timeTraceable" d.flags F_TTRA,
    procFlag "frequencyTraceable" d.flags F_FTRA, procEnum timeSrc2str_c "timeSource" d.timeSource]

def proc_PORT_DATA_SET (d : PORT_DATA_SET_t) : Emit :=
  all [procValue "portIdentity" d.portIdentity, procEnum portState2str_c "portState" d.portState,
    procValue "logMinDelayReqInterval" d.logMinDelayReqInterval, procValue "peerMeanPathDelay" d.peerMeanPathDelay,
    procValue "logAnnounceInterval" d.logAnnounceInterval,
    procValue "announceReceiptTimeout" d.announceReceiptTimeout, procValue "logSyncInterval" d.logSyncInterval,
    procValue "delayMechanism" d.delayMechanism, procValue "logMinPdelayReqInterval" d.logMinPdelayReqInterval,
    procValue "versionNumber" d.versionNumber]

def proc_PRIORITY1 (d : PRIORITY1_t) : Emit :=
  all [procValue "priority1" d.priority1]

def proc_PRIORITY2 (d : PRIORITY2_t) : Emit :=
  all [procValue "priority2" d.priority2]

def proc_DOMAIN (d : DOMAIN_t) : Emit :=
  all [procValue "domainNumber" d.domainNumber]

def proc_SLAVE_ONLY (d : SLAVE_ONLY_t) : Emit :=
  all [procFlag "slaveOnly" d.flags 1]

def proc_LOG_ANNOUNCE_INTERVAL (d : LOG_ANNOUNCE_INTERVAL_t) : Emit :=
  all [procValue "logAnnounceInterval" d.logAnnounceInterval]

def proc_ANNOUNCE_RECEIPT_TIMEOUT (d : ANNOUNCE_RECEIPT_TIMEOUT_t) : Emit :=
  all [procValue "announceReceiptTimeout" d.announceReceiptTimeout]

def proc_LOG_SYNC_INTERVAL (d : LOG_SYNC_INTERVAL_t) : Emit :=
  all [procValue "logSyncInterval" d.logSyncInterval]

def proc_VERSION_NUMBER (d : VERSION_NUMBER_t) : Emit :=
  all [procValue "versionNumber" d.versionNumber]

def proc_TIME (d : TIME_t) : Emit :=
  all [procValue "currentTime" d.currentTime]

def proc_CLOCK_ACCURACY (d : CLOCK_ACCURACY_t) : Emit :=
  all [procValue "clockAccuracy" d.clockAccuracy]

def proc_UTC_PROPERTIES (d : UTC_PROPERTIES_t) : Emit :=
  all [procValue "currentUtcOffset" d.currentUtcOffset, procFlag "leap61" d.flags F_LI_61,
    procFlag "leap59" d.flags F_LI_59, procFlag "currentUtcOffsetValid" d.flags F_UTCV]

def proc_TRACEABILITY_PROPERTIES (d : TRACEABILITY_PROPERTIES_t) : Emit :=
  all [procFlag "timeTraceable" d.flags F_TTRA, procFlag "frequencyTraceable" d.flags F_FTRA]

def proc_TIMESCALE_PROPERTIES (d : TIMESCALE_PROPERTIES_t) : Emit :=
  all [procFlag "ptpTimescale" d.flags F_PTP, procEnum timeSrc2str_c "timeSource" d.timeSource]

def proc_UNICAST_NEGOTIATION_ENABLE (d : UNICAST_NEGOTIATION_ENABLE_t) : Emit :=
  all [procFlag "unicastNegotiationPortDS" d.flags 1]

def proc_PATH_TRACE_LIST (d : PATH_TRACE_LIST_t) : Emit :=
  all [procArray "pathSequence" d.pathSequence]

def proc_PATH_TRACE_ENABLE (d : PATH_TRACE_ENABLE_t) : Emit :=
  all [procFlag "pathTraceDS" d.flags 1]

def proc_GRANDMASTER_CLUSTER_TABLE (d : GRANDMASTER_CLUSTER_TABLE_t) : Emit :=
  all [procValue "logQueryInterval" d.logQueryInterval, procValue "actualTableSize" d.actualTableSize,
    procArray "PortAddress" d.PortAddress]

def proc_UNICAST_MASTER_TABLE (d : UNICAST_MASTER_TABLE_t) : Emit :=
  all [procValue "logQueryInterval" d.logQueryInterval, procValue "actualTableSize" d.actualTableSize,
    procArray "PortAddress" d.PortAddress]

def proc_UNICAST_MASTER_MAX_TABLE_SIZE (d : UNICAST_MASTER_MAX_TABLE_SIZE_t) : Emit :=
  all [procValue "maxTableSize" d.maxTableSize]

def proc_ACCEPTABLE_MASTER_TABLE (d : ACCEPTABLE_MASTER_TABLE_t) : Emit :=
  all [procValue "actualTableSize" d.actualTableSize, procArray "list" d.list]

def proc_ACCEPTABLE_MASTER_TABLE_ENABLED (d : ACCEPTABLE_MASTER_TABLE_ENABLED_t) : Emit :=
  all [procFlag "acceptableMasterPortDS" d.flags 1]

def proc_ACCEPTABLE_MASTER_MAX_TABLE_SIZE (d : ACCEPTABLE_MASTER_MAX_TABLE_SIZE_t) : Emit :=
  all [procValue "maxTableSize" d.maxTableSize]

def proc_ALTERNATE_MASTER (d : ALTERNATE_MASTER_t) : Emit :=
  all [procFlag "transmitAlternateMulticastSync" d.flags 1,
    procValue "logAlternateMulticastSyncInterval" d.logAlternateMulticastSyncInterval,
    procValue "numberOfAlternateMasters" d.numberOfAlternateMasters]

def proc_ALTERNATE_TIME_OFFSET_ENABLE (d : ALTERNATE_TIME_OFFSET_ENABLE_t) : Emit :=
  all [procValue "keyField" d.keyField, procFlag "alternateTimescaleOffsetsDS" d.flags 1]

def proc_ALTERNATE_TIME_OFFSET_NAME (d : ALTERNATE_TIME_OFFSET_NAME_t) : Emit :=
  all [procValue "keyField" d.keyField, procValue "displayName" d.displayName]

def proc_ALTERNATE_TIME_OFFSET_MAX_KEY (d : ALTERNATE_TIME_OFFSET_MAX_KEY_t) : Emit :=
  all [procValue "maxKey" d.maxKey]

def proc_ALTERNATE_TIME_OFFSET_PROPERTIES (d : ALTERNATE_TIME_OFFSET_PROPERTIES_t) : Emit :=
  all [procValue "keyField" d.keyField, procValue "currentOffset" d.currentOffset,
    procValue "jumpSeconds" d.jumpSeconds, procValue "timeOfNextJump" d.timeOfNextJump]

def proc_TRANSPARENT_CLOCK_PORT_DATA_SET (d : TRANSPARENT_CLOCK_PORT_DATA_SET_t) : Emit :=
  all [procValue "portIdentity" d.portIdentity, procFlag "transparentClockPortDS" d.flags 1,
    procValue "logMinPdelayReqInterval" d.logMinPdelayReqInterval,
    procValue "peerMeanPathDelay" d.peerMeanPathDelay]

def proc_LOG_MIN_PDELAY_REQ_INTERVAL (d : LOG_MIN_PDELAY_REQ_INTERVAL_t) : Emit :=
  all [procValue "logMinPdelayReqInterval" d.logMinPdelayReqInterval]

def proc_TRANSPARENT_CLOCK_DEFAULT_DATA_SET (d : TRANSPARENT_CLOCK_DEFAULT_DATA_SET_t) : Emit :=
  all [procValue "clockIdentity" d.clockIdentity, procValue "numberPorts" d.numberPorts,
    procValue "delayMechanism" d.delayMechanism, procValue "primaryDomain" d.primaryDomain]

def proc_PRIMARY_DOMAIN (d : PRIMARY_DOMAIN_t) : Emit :=
  all [procValue "primaryDomain" d.primaryDomain]

def proc_DELAY_MECHANISM (d : DELAY_MECHANISM_t) : Emit :=
  all [procValue "delayMechanism" d.delayMechanism]

def proc_EXTERNAL_PORT_CONFIGURATION_ENABLED (d : EXTERNAL_PORT_CONFIGURATION_ENABLED_t) : Emit :=
  all [procFlag "externalPortConfiguration" d.flags 1]

def proc_MASTER_ONLY (d : MASTER_ONLY_t) : Emit :=
  all [procFlag "masterOnly" d.flags 1]

def proc_HOLDOVER_UPGRADE_ENABLE (d : HOLDOVER_UPGRADE_ENABLE_t) : Emit :=
  all [procFlag "holdoverUpgradeDS" d.flags 1]

def proc_EXT_PORT_CONFIG_PORT_DATA_SET (d : EXT_PORT_CONFIG_PORT_DATA_SET_t) : Emit :=
  all [procFlag "acceptableMasterPortDS" d.flags 1, procEnum portState2str_c "desiredState" d.desiredState]

def proc_TIME_STATUS_NP (d : TIME_STATUS_NP_t) : Emit :=
  all [procValue "master_offset" d.master_offset, procValue "ingress_time" d.ingress_time,
    procValue "cumulativeScaledRateOffset" d.cumulativeScaledRateOffset,
    procValue "scaledLastGmPhaseChange" d.scaledLastGmPhaseChange,
    procValue "gmTimeBaseIndicator" d.gmTimeBaseIndicator, procValue "nanoseconds_msb" d.nanoseconds_msb,
    procValue "nanoseconds_lsb" d.nanoseconds_lsb, procValue "fractional_nanoseconds" d.fractional_nanoseconds,
    procValue "gmPresent" d.gmPresent, procValue "gmIdentity" d.gmIdentity]

def proc_GRANDMASTER_SETTINGS_NP (d : GRANDMASTER_SETTINGS_NP_t) : Emit :=
  all [procValue "clockQuality" d.clockQuality, procValue "currentUtcOffset" d.currentUtcOffset,
    procFlag "leap61" d.flags F_LI_61, procFlag "leap59" d.flags F_LI_59,
    procFlag "currentUtcOffsetValid" d.flags F_UTCV, procFlag "ptpTimescale" d.flags F_PTP,
    procFlag "timeTraceable" d.flags F_TTRA, procFlag "frequencyTraceable" d.flags F_FTRA,
    procEnum timeSrc2str_c "timeSource" d.timeSource]

def proc_PORT_DATA_SET_NP (d : PORT_DATA_SET_NP_t) : Emit :=
  all [procValue "neighborPropDelayThresh" d.neighborPropDelayThresh, procValue "asCapable" d.asCapable]

def proc_SUBSCRIBE_EVENTS_NP (d : SUBSCRIBE_EVENTS_NP_t) : Emit :=
  all [procValue "duration" d.duration]

def proc_PORT_PROPERTIES_NP (d : PORT_PROPERTIES_NP_t) : Emit :=
  all [procValue "portIdentity" d.portIdentity, procEnum portState2str_c "portState" d.portState,
    procEnum ts2str_c "timestamping" d.timestamping, procValue "interface" d.interface]

def proc_PORT_STATS_NP (d : PORT_STATS_NP_t) : Emit :=
  all [procValue "portIdentity" d.portIdentity]

def proc_SYNCHRONIZATION_UNCERTAIN_NP (d : SYNCHRONIZATION_UNCERTAIN_NP_t) : Emit :=
  all [procValue "val" d.val]

/-- The function of the structure's id. -/
def proc : BaseMngTlv → Emit
  | .CLOCK_DESCRIPTION d => proc_CLOCK_DESCRIPTION d
  | .USER_DESCRIPTION d => proc_USER_DESCRIPTION d
  | .INITIALIZE d => proc_INITIALIZE d
  | .FAULT_LOG d => proc_FAULT_LOG d
  | .DEFAULT_DATA_SET d => proc_DEFAULT_DATA_SET d
  | .CURRENT_DATA_SET d => proc_CURRENT_DATA_SET d
  | .PARENT_DATA_SET d => proc_PARENT_DATA_SET d
  | .TIME_PROPERTIES_DATA_SET d => proc_TIME_PROPERTIES_DATA_SET d
  | .PORT_DATA_SET d => proc_PORT_DATA_SET d
  | .PRIORITY1 d => proc_PRIORITY1 d
  | .PRIORITY2 d => proc_PRIORITY2 d
  | .DOMAIN d => proc_DOMAIN d
  | .SLAVE_ONLY d => proc_SLAVE_ONLY d
  | .LOG_ANNOUNCE_INTERVAL d => proc_LOG_ANNOUNCE_INTERVAL d
  | .ANNOUNCE_RECEIPT_TIMEOUT d => proc_ANNOUNCE_RECEIPT_TIMEOUT d
  | .LOG_SYNC_INTERVAL d => proc_LOG_SYNC_INTERVAL d
  | .VERSION_NUMBER d => proc_VERSION_NUMBER d
  | .TIME d => proc_TIME d
  | .CLOCK_ACCURACY d => proc_CLOCK_ACCURACY d
  | .UTC_PROPERTIES d => proc_UTC_PROPERTIES d
  | .TRACEABILITY_PROPERTIES d => proc_TRACEABILITY_PROPERTIES d
  | .TIMESCALE_PROPERTIES d => proc_TIMESCALE_PROPERTIES d
  | .UNICAST_NEGOTIATION_ENABLE d => proc_UNICAST_NEGOTIATION_ENABLE d
  | .PATH_TRACE_LIST d => proc_PATH_TRACE_LIST d
  | .PATH_TRACE_ENABLE d => proc_PATH_TRACE_ENABLE d
  | .GRANDMASTER_CLUSTER_TABLE d => proc_GRANDMASTER_CLUSTER_TABLE d
  | .UNICAST_MASTER_TABLE d => proc_UNICAST_MASTER_TABLE d
  | .UNICAST_MASTER_MAX_TABLE_SIZE d => proc_UNICAST_MASTER_MAX_TABLE_SIZE d
  | .ACCEPTABLE_MASTER_TABLE d => proc_ACCEPTABLE_MASTER_TABLE d
  | .ACCEPTABLE_MASTER_TABLE_ENABLED d => proc_ACCEPTABLE_MASTER_TABLE_ENABLED d
  | .ACCEPTABLE_MASTER_MAX_TABLE_SIZE d => proc_ACCEPTABLE_MASTER_MAX_TABLE_SIZE d
  | .ALTERNATE_MASTER d => proc_ALTERNATE_MASTER d
  | .ALTERNATE_TIME_OFFSET_ENABLE d => proc_ALTERNATE_TIME_OFFSET_ENABLE d
  | .ALTERNATE_TIME_OFFSET_NAME d => proc_ALTERNATE_TIME_OFFSET_NAME d
  | .ALTERNATE_TIME_OFFSET_MAX_KEY d => proc_ALTERNATE_TIME_OFFSET_MAX_KEY d
  | .ALTERNATE_TIME_OFFSET_PROPERTIES d => proc_ALTERNATE_TIME_OFFSET_PROPERTIES d
  | .TRANSPARENT_CLOCK_PORT_DATA_SET d => proc_TRANSPARENT_CLOCK_PORT_DATA_SET d
  | .LOG_MIN_PDELAY_REQ_INTERVAL d => proc_LOG_MIN_PDELAY_REQ_INTERVAL d
  | .TRANSPARENT_CLOCK_DEFAULT_DATA_SET d => proc_TRANSPARENT_CLOCK_DEFAULT_DATA_SET d
  | .PRIMARY_DOMAIN d => proc_PRIMARY_DOMAIN d
  | .DELAY_MECHANISM d => proc_DELAY_MECHANISM d
  | .EXTERNAL_PORT_CONFIGURATION_ENABLED d => proc_EXTERNAL_PORT_CONFIGURATION_ENABLED d
  | .MASTER_ONLY d => proc_MASTER_ONLY d
  | .HOLDOVER_UPGRADE_ENABLE d => proc_HOLDOVER_UPGRADE_ENABLE d
  | .EXT_PORT_CONFIG_PORT_DATA_SET d => proc_EXT_PORT_CONFIG_PORT_DATA_SET d
  | .TIME_STATUS_NP d => proc_TIME_STATUS_NP d
  | .GRANDMASTER_SETTINGS_NP d => proc_GRANDMASTER_SETTINGS_NP d
  | .PORT_DATA_SET_NP d => proc_PORT_DATA_SET_NP d
  | .SUBSCRIBE_EVENTS_NP d => proc_SUBSCRIBE_EVENTS_NP d
  | .PORT_PROPERTIES_NP d => proc_PORT_PROPERTIES_NP d
  | .PORT_STATS_NP d => proc_PORT_STATS_NP d
  | .SYNCHRONIZATION_UNCERTAIN_NP d => proc_SYNCHRONIZATION_UNCERTAIN_NP d

/-- `none` where the pointer is not one to a structure of the id. An id without a
function does not look at it. -/
def data2json (id : MngVals) (data : TlvPtr) : Option Emit :=
  if (mngAllVals id).funcs = .NA then some fun p => p
  else
    match data with
    | .to d => if d.id = id then some (proc d) else none
    | _ => none

end JsonProc

/-! ## The message -/

namespace Message

open JsonProc

/-- The members of a MANAGEMENT TLV's data. A pointer that was not assigned counts as
one that is not null. -/
def dataField (m : Message) : Option Emit :=
  match m.dataGet with
  | .null => some fun p => p
  | data => (data2json m.tlvId data).map (object "dataField")

/-- What is put out behind the `managementId`. -/
def mngFields (m : Message) : Option Emit :=
  if m.mngType = TlvType.MANAGEMENT then m.dataField
  else if m.mngType = TlvType.MANAGEMENT_ERROR_STATUS then
    some (all [procEnum errId2str_c "managementErrorId" m.errorId,
      JsonProc.procString "displayData" m.errorDisplay.textField])
  else some fun p => p

/-- The members of the message, by its type. -/
def fields (m : Message) : Option Emit :=
  -- the case of a signaling message goes on into the default
  let typeStr := if m.type = MsgType.Management then "Management" else "Unsupported"
  let head := all [procValue "sequenceId" m.sequence, procValue "sdoId" m.sdoId,
    procValue "domainNumber" m.domainNumber,
    procValue "versionPTP" m.versionPTP, procValue "minorVersionPTP" m.minorVersionPTP,
    JsonProc.procString "messageType" (octets typeStr), procValue "sourcePortIdentity" m.peer]
  if m.type = MsgType.Management then do
    let tail ← m.mngFields
    return all [head, procEnum act2str_c "actionField" m.replyAction, procEnum tlv2str_c "tlvType" m.mngType,
      procEnum mng2str_c "managementId" m.tlvId, tail]
  else some head

/-- `none` where the behaviour is not defined. -/
def msg2json (m : Message) : Option (List UInt8) := do
  let fields ← m.fields
  return (fields (JsonProcToJson.new.startObject)).closeObject.result

end Message

end LibPmc
