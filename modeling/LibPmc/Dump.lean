import LibPmc.Address
import LibPmc.JsonProc
import LibPmc.PortId
/-!
# What pmc prints of a structure

The `dump_<id>` functions of `pmc_dump.cpp` and `call_dump`. Each field stands on a line of
its own behind two tabs, so that the white space around it is that of a command.
-/
namespace LibPmc

open Wire Cstr

/-! ## Conversions -/

/-- `%x` -/
def hexadecimal (n : Nat) : List UInt8 := (Nat.toDigits 16 n).map fun c => UInt8.ofNat c.toNat

/-- `0x%x` -/
def hex (n : Nat) : List UInt8 := octets "0x" ++ hexadecimal n

/-- `%0wx`, and `%wx` for `0x20`. -/
def hexPadded (fill : UInt8) (w n : Nat) : List UInt8 :=
  List.replicate (w - (hexadecimal n).length) fill ++ hexadecimal n

/-- `%016jd` -/
def signedPadded (w : Nat) (i : Int) : List UInt8 := minus i ++ zeroPadded (w - (minus i).length) i.natAbs

/-- `%.kf` of a fraction. -/
def fixedPoint (k : Nat) (i : Int) (d : Nat) : List UInt8 :=
  let s := roundEven (i.natAbs * 10 ^ k) d
  minus i ++ decimal (s / 10 ^ k) ++ octets "." ++ zeroPadded k (s % 10 ^ k)

/-- `%+.kf` -/
def fixedPlus (k : Nat) (i : Int) (d : Nat) : List UInt8 := (if i < 0 then [] else octets "+") ++ fixedPoint k i d

/-- `IDENT`, a label with the white space behind it, and a value. -/
def field (label : String) (value : List UInt8) : List UInt8 := octets "\n\t\t" ++ (octets label ++ value)

/-- A line with the index of a record. -/
def record (i : Nat) (label : String) (value : List UInt8) : List UInt8 :=
  octets "\n\t\t" ++ (octets "[" ++ decimal (i % 2 ^ 16) ++ octets "] " ++ octets label ++ value)

/-- The lines of all records. -/
def records {α : Type} (f : Nat → α → List UInt8) (l : List α) : List UInt8 := (l.mapIdx f).flatten

/-- `%sabled` -/
def abled (flags : UInt8) : List UInt8 := octets (if flags ≠ 0 then "e" else "dis") ++ octets "abled"

def trueFalse (b : Bool) : List UInt8 := octets (if b then "true" else "false")

/-- `is_LI_61` and the others, by their flag. -/
def isFlag (flag flags : UInt8) : List UInt8 := decimal (if flags &&& flag ≠ 0 then 1 else 0)

/-- A `PTPText_t` as a C string. -/
def PTPText_t.string (t : PTPText_t) : List UInt8 := cstr t.textField

def TimeInterval_t.getIntervalInt (v : TimeInterval_t) : Int := v.scaledNanoseconds.toInt.shiftRight 16

/-- `%.1f` of `getInterval`. -/
def TimeInterval_t.tenths (v : TimeInterval_t) : List UInt8 := fixedPoint 1 (toDouble v.scaledNanoseconds.toInt) 0x10000

def EVENT_BIT (bitmask : Octets 64) (event : Nat) : String :=
  if (bitmask.val.getD (event / 8) 0) &&& (1 <<< UInt8.ofNat (event % 8)) ≠ 0 then "on" else "off"

/-! ## The functions -/

section Dump
variable (libc : Inet)

def PortAddress_t.string (val : PortAddress_t) : List UInt8 :=
  if val.networkProtocol = 1 ∨ val.networkProtocol = 2 then Binary.toIp libc val.addressField
  else bufToId val.addressField

def dump_CLOCK_DESCRIPTION (d : CLOCK_DESCRIPTION_t) : List UInt8 :=
  field "clockType             0x" (hexPadded 0x20 4 d.clockType.toNat) ++
  field "physicalLayerProtocol " d.physicalLayerProtocol.string ++
  field "physicalAddress       " (bufToId d.physicalAddress) ++
  field "protocolAddress       " (octets (netProt2str_c d.protocolAddress.networkProtocol) ++ octets " " ++
    d.protocolAddress.string libc) ++
  field "manufacturerId        " (bufToId d.manufacturerIdentity.val) ++
  field "productDescription    " d.productDescription.string ++
  field "revisionData          " d.revisionData.string ++
  field "userDescription       " d.userDescription.string ++
  field "profileId             " (bufToId d.profileIdentity.val)

def dump_USER_DESCRIPTION (d : USER_DESCRIPTION_t) : List UInt8 := field "userDescription  " d.userDescription.string

def dump_INITIALIZE (d : INITIALIZE_t) : List UInt8 := field "initializationKey " (decimal d.initializationKey.toNat)

def dump_FAULT_LOG (d : FAULT_LOG_t) : List UInt8 :=
  field "numberOfFaultRecords " (decimal d.numberOfFaultRecords.toNat) ++
  records (fun i rec =>
    record i "faultTime        " rec.faultTime.string ++
    record i "severityCode     " (octets (faultRec2str_c rec.severityCode)) ++
    record i "faultName        " rec.faultName.string ++
    record i "faultValue       " rec.faultValue.string ++
    record i "faultDescription " rec.faultDescription.string) d.faultRecords

def dump_DEFAULT_DATA_SET (d : DEFAULT_DATA_SET_t) : List UInt8 :=
  field "twoStepFlag             " (decimal (d.flags &&& 1).toNat) ++
  field "slaveOnly               " (decimal (d.flags >>> 1).toNat) ++
  field "numberPorts             " (decimal d.numberPorts.toNat) ++
  field "priority1               " (decimal d.priority1.toNat) ++
  field "clockClass              " (decimal d.clockQuality.clockClass.toNat) ++
  field "clockAccuracy           " (hex d.clockQuality.clockAccuracy.toNat) ++
  field "offsetScaledLogVariance " (hex d.clockQuality.offsetScaledLogVariance.toNat) ++
  field "priority2               " (decimal d.priority2.toNat) ++
  field "clockIdentity           " d.clockIdentity.string ++
  field "domainNumber            " (decimal d.domainNumber.toNat)

def dump_CURRENT_DATA_SET (d : CURRENT_DATA_SET_t) : List UInt8 :=
  field "stepsRemoved     " (decimal d.stepsRemoved.toNat) ++
  field "offsetFromMaster " d.offsetFromMaster.tenths ++
  field "meanPathDelay    " d.meanPathDelay.tenths

def dump_PARENT_DATA_SET (d : PARENT_DATA_SET_t) : List UInt8 :=
  field "parentPortIdentity                    " d.parentPortIdentity.string ++
  field "parentStats                           " (decimal d.flags.toNat) ++
  field "observedParentOffsetScaledLogVariance " (hex d.observedParentOffsetScaledLogVariance.toNat) ++
  field "observedParentClockPhaseChangeRate    " (hex d.observedParentClockPhaseChangeRate.toUInt32.toNat) ++
  field "grandmasterPriority1                  " (decimal d.grandmasterPriority1.toNat) ++
  field "gm.ClockClass                         " (decimal d.grandmasterClockQuality.clockClass.toNat) ++
  field "gm.ClockAccuracy                      " (hex d.grandmasterClockQuality.clockAccuracy.toNat) ++
  field "gm.OffsetScaledLogVariance            " (hex d.grandmasterClockQuality.offsetScaledLogVariance.toNat) ++
  field "grandmasterPriority2                  " (decimal d.grandmasterPriority2.toNat) ++
  field "grandmasterIdentity                   " d.grandmasterIdentity.string

def dump_TIME_PROPERTIES_DATA_SET (d : TIME_PROPERTIES_DATA_SET_t) : List UInt8 :=
  field "currentUtcOffset      " (signed d.currentUtcOffset.toInt) ++
  field "leap61                " (isFlag 0x1 d.flags) ++
  field "leap59                " (isFlag 0x2 d.flags) ++
  field "currentUtcOffsetValid " (isFlag 0x4 d.flags) ++
  field "ptpTimescale          " (isFlag 0x8 d.flags) ++
  field "timeTraceable         " (isFlag 0x10 d.flags) ++
  field "frequencyTraceable    " (isFlag 0x20 d.flags) ++
  field "timeSource            " (octets (timeSrc2str_c d.timeSource))

def dump_PORT_DATA_SET (d : PORT_DATA_SET_t) : List UInt8 :=
  field "portIdentity            " d.portIdentity.string ++
  field "portState               " (octets (portState2str_c d.portState)) ++
  field "logMinDelayReqInterval  " (signed d.logMinDelayReqInterval.toInt) ++
  field "peerMeanPathDelay       " (signed d.peerMeanPathDelay.getIntervalInt) ++
  field "logAnnounceInterval     " (signed d.logAnnounceInterval.toInt) ++
  field "announceReceiptTimeout  " (decimal d.announceReceiptTimeout.toNat) ++
  field "logSyncInterval         " (signed d.logSyncInterval.toInt) ++
  field "delayMechanism          " (decimal d.delayMechanism.toNat) ++
  field "logMinPdelayReqInterval " (signed d.logMinPdelayReqInterval.toInt) ++
  field "versionNumber           " (decimal d.versionNumber.toNat)

def dump_PRIORITY1 (d : PRIORITY1_t) : List UInt8 := field "priority1 " (decimal d.priority1.toNat)

def dump_PRIORITY2 (d : PRIORITY2_t) : List UInt8 := field "priority2 " (decimal d.priority2.toNat)

def dump_DOMAIN (d : DOMAIN_t) : List UInt8 := field "domainNumber " (decimal d.domainNumber.toNat)

def dump_SLAVE_ONLY (d : SLAVE_ONLY_t) : List UInt8 := field "slaveOnly " (decimal d.flags.toNat)

def dump_LOG_ANNOUNCE_INTERVAL (d : LOG_ANNOUNCE_INTERVAL_t) : List UInt8 :=
  field "logAnnounceInterval " (signed d.logAnnounceInterval.toInt)

def dump_ANNOUNCE_RECEIPT_TIMEOUT (d : ANNOUNCE_RECEIPT_TIMEOUT_t) : List UInt8 :=
  field "announceReceiptTimeout " (decimal d.announceReceiptTimeout.toNat)

def dump_LOG_SYNC_INTERVAL (d : LOG_SYNC_INTERVAL_t) : List UInt8 :=
  field "logSyncInterval " (signed d.logSyncInterval.toInt)

def dump_VERSION_NUMBER (d : VERSION_NUMBER_t) : List UInt8 := field "versionNumber " (decimal d.versionNumber.toNat)

def dump_TIME (d : TIME_t) : List UInt8 := field "currentTime " d.currentTime.string

def dump_CLOCK_ACCURACY (d : CLOCK_ACCURACY_t) : List UInt8 :=
  field "clockAccuracy " (hex d.clockAccuracy.toNat)

def dump_UTC_PROPERTIES (d : UTC_PROPERTIES_t) : List UInt8 :=
  field "currentUtcOffset      " (signed d.currentUtcOffset.toInt) ++
  field "leap61                " (isFlag 0x1 d.flags) ++
  field "leap59                " (isFlag 0x2 d.flags) ++
  field "currentUtcOffsetValid " (isFlag 0x4 d.flags)

def dump_TRACEABILITY_PROPERTIES (d : TRACEABILITY_PROPERTIES_t) : List UInt8 :=
  field "timeTraceable      " (isFlag 0x10 d.flags) ++
  field "frequencyTraceable " (isFlag 0x20 d.flags)

def dump_TIMESCALE_PROPERTIES (d : TIMESCALE_PROPERTIES_t) : List UInt8 := field "ptpTimescale " (isFlag 0x8 d.flags)

def dump_UNICAST_NEGOTIATION_ENABLE (d : UNICAST_NEGOTIATION_ENABLE_t) : List UInt8 :=
  field "unicastNegotiationPortDS " (abled d.flags)

def dump_PATH_TRACE_LIST (d : PATH_TRACE_LIST_t) : List UInt8 :=
  records (fun i rec => record i "" rec.string) d.pathSequence

def dump_PATH_TRACE_ENABLE (d : PATH_TRACE_ENABLE_t) : List UInt8 := field "pathTraceDS " (abled d.flags)

def dump_GRANDMASTER_CLUSTER_TABLE (d : GRANDMASTER_CLUSTER_TABLE_t) : List UInt8 :=
  field "logQueryInterval " (signed d.logQueryInterval.toInt) ++
  field "actualTableSize  " (decimal d.actualTableSize.toNat) ++
  records (fun i rec => record i "" (rec.string libc)) d.PortAddress

def dump_UNICAST_MASTER_TABLE (d : UNICAST_MASTER_TABLE_t) : List UInt8 :=
  field "logQueryInterval " (signed d.logQueryInterval.toInt) ++
  field "actualTableSize  " (decimal d.actualTableSize.toNat) ++
  records (fun i rec => record i "" (rec.string libc)) d.PortAddress

def dump_UNICAST_MASTER_MAX_TABLE_SIZE (d : UNICAST_MASTER_MAX_TABLE_SIZE_t) : List UInt8 :=
  field "maxTableSize " (decimal d.maxTableSize.toNat)

def dump_ACCEPTABLE_MASTER_TABLE (d : ACCEPTABLE_MASTER_TABLE_t) : List UInt8 :=
  field "actualTableSize " (signed d.actualTableSize.toInt) ++
  records (fun i rec =>
    record i "acceptablePortIdentity " rec.acceptablePortIdentity.string ++
    record i "alternatePriority1     " (decimal rec.alternatePriority1.toNat)) d.list

def dump_ACCEPTABLE_MASTER_TABLE_ENABLED (d : ACCEPTABLE_MASTER_TABLE_ENABLED_t) : List UInt8 :=
  field "acceptableMasterPortDS " (abled d.flags)

def dump_ACCEPTABLE_MASTER_MAX_TABLE_SIZE (d : ACCEPTABLE_MASTER_MAX_TABLE_SIZE_t) : List UInt8 :=
  field "maxTableSize " (decimal d.maxTableSize.toNat)

def dump_ALTERNATE_MASTER (d : ALTERNATE_MASTER_t) : List UInt8 :=
  field "transmitAlternateMulticastSync    " (abled d.flags) ++
  field "logAlternateMulticastSyncInterval " (signed d.logAlternateMulticastSyncInterval.toInt) ++
  field "numberOfAlternateMasters          " (decimal d.numberOfAlternateMasters.toNat)

def dump_ALTERNATE_TIME_OFFSET_ENABLE (d : ALTERNATE_TIME_OFFSET_ENABLE_t) : List UInt8 :=
  field "alternateTimescaleOffsetsDS[" (decimal d.keyField.toNat ++ (octets "] " ++ abled d.flags))

def dump_ALTERNATE_TIME_OFFSET_NAME (d : ALTERNATE_TIME_OFFSET_NAME_t) : List UInt8 :=
  field "[" (decimal d.keyField.toNat ++ (octets "] " ++ d.displayName.string))

def dump_ALTERNATE_TIME_OFFSET_MAX_KEY (d : ALTERNATE_TIME_OFFSET_MAX_KEY_t) : List UInt8 :=
  field "maxKey " (decimal d.maxKey.toNat)

def dump_ALTERNATE_TIME_OFFSET_PROPERTIES (d : ALTERNATE_TIME_OFFSET_PROPERTIES_t) : List UInt8 :=
  field "keyField       " (decimal d.keyField.toNat) ++
  field "currentOffset  " (signed d.currentOffset.toInt) ++
  field "jumpSeconds    " (signed d.jumpSeconds.toInt) ++
  field "timeOfNextJump " (decimal d.timeOfNextJump.toNat)

def dump_TRANSPARENT_CLOCK_PORT_DATA_SET (d : TRANSPARENT_CLOCK_PORT_DATA_SET_t) : List UInt8 :=
  field "portIdentity            " d.portIdentity.string ++
  field "transparentClockPortDS  " (trueFalse (d.flags ≠ 0)) ++
  field "logMinPdelayReqInterval " (signed d.logMinPdelayReqInterval.toInt) ++
  field "peerMeanPathDelay       " (signed d.peerMeanPathDelay.getIntervalInt)

def dump_LOG_MIN_PDELAY_REQ_INTERVAL (d : LOG_MIN_PDELAY_REQ_INTERVAL_t) : List UInt8 :=
  field "logMinPdelayReqInterval " (signed d.logMinPdelayReqInterval.toInt)

def dump_TRANSPARENT_CLOCK_DEFAULT_DATA_SET (d : TRANSPARENT_CLOCK_DEFAULT_DATA_SET_t) : List UInt8 :=
  field "clockIdentity  " d.clockIdentity.string ++
  field "numberPorts    " (decimal d.numberPorts.toNat) ++
  field "delayMechanism " (decimal d.delayMechanism.toNat) ++
  field "primaryDomain  " (decimal d.primaryDomain.toNat)

def dump_PRIMARY_DOMAIN (d : PRIMARY_DOMAIN_t) : List UInt8 := field "primaryDomain " (decimal d.primaryDomain.toNat)

def dump_DELAY_MECHANISM (d : DELAY_MECHANISM_t) : List UInt8 :=
  field "delayMechanism " (decimal d.delayMechanism.toNat)

def dump_EXTERNAL_PORT_CONFIGURATION_ENABLED (d : EXTERNAL_PORT_CONFIGURATION_ENABLED_t) : List UInt8 :=
  field "externalPortConfiguration " (abled d.flags)

def dump_MASTER_ONLY (d : MASTER_ONLY_t) : List UInt8 := field "masterOnly " (trueFalse (d.flags ≠ 0))

def dump_HOLDOVER_UPGRADE_ENABLE (d : HOLDOVER_UPGRADE_ENABLE_t) : List UInt8 :=
  field "holdoverUpgradeDS " (abled d.flags)

def dump_EXT_PORT_CONFIG_PORT_DATA_SET (d : EXT_PORT_CONFIG_PORT_DATA_SET_t) : List UInt8 :=
  field "acceptableMasterPortDS " (abled d.flags) ++
  field "desiredState           " (octets (portState2str_c d.desiredState))

def dump_TIME_STATUS_NP (d : TIME_STATUS_NP_t) : List UInt8 :=
  field "master_offset              " (signed d.master_offset.toInt) ++
  field "ingress_time               " (signed d.ingress_time.toInt) ++
  field "cumulativeScaledRateOffset " (fixedPlus 9 d.cumulativeScaledRateOffset.toInt (2 ^ 41)) ++
  field "scaledLastGmPhaseChange    " (signed d.scaledLastGmPhaseChange.toInt) ++
  field "gmTimeBaseIndicator        " (decimal d.gmTimeBaseIndicator.toNat) ++
  field "lastGmPhaseChange          0x" (hexPadded 0x30 4 d.nanoseconds_msb.toNat ++ octets "'" ++
    signedPadded 16 d.nanoseconds_lsb.toInt64.toInt ++ octets "." ++ hexPadded 0x30 4 d.fractional_nanoseconds.toNat) ++
  field "gmPresent                  " (trueFalse (d.gmPresent ≠ 0)) ++
  field "gmIdentity                 " d.gmIdentity.string

def dump_GRANDMASTER_SETTINGS_NP (d : GRANDMASTER_SETTINGS_NP_t) : List UInt8 :=
  field "clockClass              " (decimal d.clockQuality.clockClass.toNat) ++
  field "clockAccuracy           " (hex d.clockQuality.clockAccuracy.toNat) ++
  field "offsetScaledLogVariance " (hex d.clockQuality.offsetScaledLogVariance.toNat) ++
  field "currentUtcOffset        " (signed d.currentUtcOffset.toInt) ++
  field "leap61                  " (isFlag 0x1 d.flags) ++
  field "leap59                  " (isFlag 0x2 d.flags) ++
  field "currentUtcOffsetValid   " (isFlag 0x4 d.flags) ++
  field "ptpTimescale            " (isFlag 0x8 d.flags) ++
  field "timeTraceable           " (isFlag 0x10 d.flags) ++
  field "frequencyTraceable      " (isFlag 0x20 d.flags) ++
  field "timeSource              " (octets (timeSrc2str_c d.timeSource))

def dump_PORT_DATA_SET_NP (d : PORT_DATA_SET_NP_t) : List UInt8 :=
  field "neighborPropDelayThresh " (decimal d.neighborPropDelayThresh.toNat) ++
  field "asCapable               " (signed d.asCapable.toInt)

def dump_SUBSCRIBE_EVENTS_NP (d : SUBSCRIBE_EVENTS_NP_t) : List UInt8 :=
  field "duration          " (decimal d.duration.toNat) ++
  field "NOTIFY_PORT_STATE " (octets (EVENT_BIT d.bitmask 0)) ++
  field "NOTIFY_TIME_SYNC  " (octets (EVENT_BIT d.bitmask 1))

/-- The `TS_` in front is removed, whatever the name. -/
def dump_PORT_PROPERTIES_NP (d : PORT_PROPERTIES_NP_t) : List UInt8 :=
  field "portIdentity            " d.portIdentity.string ++
  field "portState               " (octets (portState2str_c d.portState)) ++
  field "timestamping            " ((octets (ts2str_c d.timestamping)).drop 3) ++
  field "interface               " d.interface.string

/-- The counters of a direction, at their offsets. -/
def dumpCounters (labels : List (String × Nat)) (counters : Counters) : List UInt8 :=
  labels.flatMap fun l => field l.1 (decimal (counters.val.getD l.2 0).toNat)

def dump_PORT_STATS_NP (d : PORT_STATS_NP_t) : List UInt8 :=
  field "portIdentity              " d.portIdentity.string ++
  dumpCounters [("rx_Sync                   ", 0), ("rx_Delay_Req              ", 1), ("rx_Pdelay_Req             ", 2),
    ("rx_Pdelay_Resp            ", 3), ("rx_Follow_Up              ", 8), ("rx_Delay_Resp             ", 9),
    ("rx_Pdelay_Resp_Follow_Up  ", 10), ("rx_Announce               ", 11), ("rx_Signaling              ", 12),
    ("rx_Management             ", 13)] d.rxMsgType ++
  dumpCounters [("tx_Sync                   ", 0), ("tx_Delay_Req              ", 1), ("tx_Pdelay_Req             ", 2),
    ("tx_Pdelay_Resp            ", 3), ("tx_Follow_Up              ", 8), ("tx_Delay_Resp             ", 9),
    ("tx_Pdelay_Resp_Follow_Up  ", 10), ("tx_Announce               ", 11), ("tx_Signaling              ", 12),
    ("tx_Management             ", 13)] d.txMsgType

def dump_SYNCHRONIZATION_UNCERTAIN_NP (d : SYNCHRONIZATION_UNCERTAIN_NP_t) : List UInt8 :=
  field "uncertain " (decimal d.val.toNat)

/-- The function of the id, on a structure of the id. -/
def dump : BaseMngTlv → List UInt8
  | .CLOCK_DESCRIPTION d => dump_CLOCK_DESCRIPTION libc d
  | .USER_DESCRIPTION d => dump_USER_DESCRIPTION d
  | .INITIALIZE d => dump_INITIALIZE d
  | .FAULT_LOG d => dump_FAULT_LOG d
  | .DEFAULT_DATA_SET d => dump_DEFAULT_DATA_SET d
  | .CURRENT_DATA_SET d => dump_CURRENT_DATA_SET d
  | .PARENT_DATA_SET d => dump_PARENT_DATA_SET d
  | .TIME_PROPERTIES_DATA_SET d => dump_TIME_PROPERTIES_DATA_SET d
  | .PORT_DATA_SET d => dump_PORT_DATA_SET d
  | .PRIORITY1 d => dump_PRIORITY1 d
  | .PRIORITY2 d => dump_PRIORITY2 d
  | .DOMAIN d => dump_DOMAIN d
  | .SLAVE_ONLY d => dump_SLAVE_ONLY d
  | .LOG_ANNOUNCE_INTERVAL d => dump_LOG_ANNOUNCE_INTERVAL d
  | .ANNOUNCE_RECEIPT_TIMEOUT d => dump_ANNOUNCE_RECEIPT_TIMEOUT d
  | .LOG_SYNC_INTERVAL d => dump_LOG_SYNC_INTERVAL d
  | .VERSION_NUMBER d => dump_VERSION_NUMBER d
  | .TIME d => dump_TIME d
  | .CLOCK_ACCURACY d => dump_CLOCK_ACCURACY d
  | .UTC_PROPERTIES d => dump_UTC_PROPERTIES d
  | .TRACEABILITY_PROPERTIES d => dump_TRACEABILITY_PROPERTIES d
  | .TIMESCALE_PROPERTIES d => dump_TIMESCALE_PROPERTIES d
  | .UNICAST_NEGOTIATION_ENABLE d => dump_UNICAST_NEGOTIATION_ENABLE d
  | .PATH_TRACE_LIST d => dump_PATH_TRACE_LIST d
  | .PATH_TRACE_ENABLE d => dump_PATH_TRACE_ENABLE d
  | .GRANDMASTER_CLUSTER_TABLE d => dump_GRANDMASTER_CLUSTER_TABLE libc d
  | .UNICAST_MASTER_TABLE d => dump_UNICAST_MASTER_TABLE libc d
  | .UNICAST_MASTER_MAX_TABLE_SIZE d => dump_UNICAST_MASTER_MAX_TABLE_SIZE d
  | .ACCEPTABLE_MASTER_TABLE d => dump_ACCEPTABLE_MASTER_TABLE d
  | .ACCEPTABLE_MASTER_TABLE_ENABLED d => dump_ACCEPTABLE_MASTER_TABLE_ENABLED d
  | .ACCEPTABLE_MASTER_MAX_TABLE_SIZE d => dump_ACCEPTABLE_MASTER_MAX_TABLE_SIZE d
  | .ALTERNATE_MASTER d => dump_ALTERNATE_MASTER d
  | .ALTERNATE_TIME_OFFSET_ENABLE d => dump_ALTERNATE_TIME_OFFSET_ENABLE d
  | .ALTERNATE_TIME_OFFSET_NAME d => dump_ALTERNATE_TIME_OFFSET_NAME d
  | .ALTERNATE_TIME_OFFSET_MAX_KEY d => dump_ALTERNATE_TIME_OFFSET_MAX_KEY d
  | .ALTERNATE_TIME_OFFSET_PROPERTIES d => dump_ALTERNATE_TIME_OFFSET_PROPERTIES d
  | .TRANSPARENT_CLOCK_PORT_DATA_SET d => dump_TRANSPARENT_CLOCK_PORT_DATA_SET d
  | .LOG_MIN_PDELAY_REQ_INTERVAL d => dump_LOG_MIN_PDELAY_REQ_INTERVAL d
  | .TRANSPARENT_CLOCK_DEFAULT_DATA_SET d => dump_TRANSPARENT_CLOCK_DEFAULT_DATA_SET d
  | .PRIMARY_DOMAIN d => dump_PRIMARY_DOMAIN d
  | .DELAY_MECHANISM d => dump_DELAY_MECHANISM d
  | .EXTERNAL_PORT_CONFIGURATION_ENABLED d => dump_EXTERNAL_PORT_CONFIGURATION_ENABLED d
  | .MASTER_ONLY d => dump_MASTER_ONLY d
  | .HOLDOVER_UPGRADE_ENABLE d => dump_HOLDOVER_UPGRADE_ENABLE d
  | .EXT_PORT_CONFIG_PORT_DATA_SET d => dump_EXT_PORT_CONFIG_PORT_DATA_SET d
  | .TIME_STATUS_NP d => dump_TIME_STATUS_NP d
  | .GRANDMASTER_SETTINGS_NP d => dump_GRANDMASTER_SETTINGS_NP d
  | .PORT_DATA_SET_NP d => dump_PORT_DATA_SET_NP d
  | .SUBSCRIBE_EVENTS_NP d => dump_SUBSCRIBE_EVENTS_NP d
  | .PORT_PROPERTIES_NP d => dump_PORT_PROPERTIES_NP d
  | .PORT_STATS_NP d => dump_PORT_STATS_NP d
  | .SYNCHRONIZATION_UNCERTAIN_NP d => dump_SYNCHRONIZATION_UNCERTAIN_NP d

end Dump

end LibPmc
