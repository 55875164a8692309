import LibPmc.Mng
import LibPmc.Proc
/-!
# The process functions of the management TLVs

One function for each id with a dataField (`proc.cpp`), and the functions for the
ids of variable size. `new` of a structure is its `default`: no function's parse
mode looks at what the members hold before.
-/
namespace LibPmc

open Wire Wire.Prog

def CLOCK_DESCRIPTION_f (d : CLOCK_DESCRIPTION_t) : P CLOCK_DESCRIPTION_t := do
  let clockType ← proc d.clockType
  let physicalLayerProtocol ← proc d.physicalLayerProtocol
  let physicalAddressLength ← proc (UInt16.ofNat d.physicalAddress.length)
  let physicalAddress ← procBinary d.physicalAddress physicalAddressLength
  let protocolAddress ← proc d.protocolAddress
  let manufacturerIdentity ← proc d.manufacturerIdentity
  procReserved
  let productDescription ← proc d.productDescription
  let revisionData ← proc d.revisionData
  let userDescription ← proc d.userDescription
  let profileIdentity ← proc d.profileIdentity
  return { clockType, physicalLayerProtocol, physicalAddressLength, physicalAddress, protocolAddress,
           manufacturerIdentity, productDescription, revisionData, userDescription, profileIdentity }

def USER_DESCRIPTION_f (d : USER_DESCRIPTION_t) : P USER_DESCRIPTION_t :=
  .mk <$> proc d.userDescription

def INITIALIZE_f (d : INITIALIZE_t) : P INITIALIZE_t :=
  .mk <$> proc d.initializationKey

def FAULT_LOG_f (d : FAULT_LOG_t) : P FAULT_LOG_t := do
  let numberOfFaultRecords ← proc d.numberOfFaultRecords
  let faultRecords ← vectorF numberOfFaultRecords.toNat d.faultRecords
  return { numberOfFaultRecords, faultRecords }

def DEFAULT_DATA_SET_f (d : DEFAULT_DATA_SET_t) : P DEFAULT_DATA_SET_t := do
  let flags ← procFlags d.flags 0x3
  procReserved
  let numberPorts ← proc d.numberPorts
  let priority1 ← proc d.priority1
  let clockQuality ← proc d.clockQuality
  let priority2 ← proc d.priority2
  let clockIdentity ← proc d.clockIdentity
  let domainNumber ← proc d.domainNumber
  return { flags, numberPorts, priority1, clockQuality, priority2, clockIdentity, domainNumber }

def CURRENT_DATA_SET_f (d : CURRENT_DATA_SET_t) : P CURRENT_DATA_SET_t := do
  let stepsRemoved ← proc d.stepsRemoved
  let offsetFromMaster ← proc d.offsetFromMaster
  let meanPathDelay ← proc d.meanPathDelay
  return { stepsRemoved, offsetFromMaster, meanPathDelay }

def PARENT_DATA_SET_f (d : PARENT_DATA_SET_t) : P PARENT_DATA_SET_t := do
  let parentPortIdentity ← proc d.parentPortIdentity
  let flags ← procFlags d.flags 0x1
  procReserved
  let observedParentOffsetScaledLogVariance ← proc d.observedParentOffsetScaledLogVariance
  let observedParentClockPhaseChangeRate ← proc d.observedParentClockPhaseChangeRate
  let grandmasterPriority1 ← proc d.grandmasterPriority1
  let grandmasterClockQuality ← proc d.grandmasterClockQuality
  let grandmasterPriority2 ← proc d.grandmasterPriority2
  let grandmasterIdentity ← proc d.grandmasterIdentity
  return { parentPortIdentity, flags, observedParentOffsetScaledLogVariance,
           observedParentClockPhaseChangeRate, grandmasterPriority1, grandmasterClockQuality,
           grandmasterPriority2, grandmasterIdentity }

def TIME_PROPERTIES_DATA_SET_f (d : TIME_PROPERTIES_DATA_SET_t) : P TIME_PROPERTIES_DATA_SET_t := do
  let currentUtcOffset ← proc d.currentUtcOffset
  let flags ← procFlags d.flags 0x3f
  let timeSource ← proc d.timeSource
  return { currentUtcOffset, flags, timeSource }

def PORT_DATA_SET_f (d : PORT_DATA_SET_t) : P PORT_DATA_SET_t := do
  let portIdentity ← proc d.portIdentity
  let portState ← proc d.portState
  let logMinDelayReqInterval ← proc d.logMinDelayReqInterval
  let peerMeanPathDelay ← proc d.peerMeanPathDelay
  let logAnnounceInterval ← proc d.logAnnounceInterval
  let announceReceiptTimeout ← proc d.announceReceiptTimeout
  let logSyncInterval ← proc d.logSyncInterval
  let delayMechanism ← proc d.delayMechanism
  let logMinPdelayReqInterval ← proc d.logMinPdelayReqInterval
  let versionNumber ← proc d.versionNumber
  return { portIdentity, portState, logMinDelayReqInterval, peerMeanPathDelay, logAnnounceInterval,
           announceReceiptTimeout, logSyncInterval, delayMechanism, logMinPdelayReqInterval, versionNumber }

def PRIORITY1_f (d : PRIORITY1_t) : P PRIORITY1_t :=
  .mk <$> proc d.priority1

def PRIORITY2_f (d : PRIORITY2_t) : P PRIORITY2_t :=
  .mk <$> proc d.priority2

def DOMAIN_f (d : DOMAIN_t) : P DOMAIN_t :=
  .mk <$> proc d.domainNumber

def SLAVE_ONLY_f (d : SLAVE_ONLY_t) : P SLAVE_ONLY_t :=
  .mk <$> procFlags d.flags 0x1

def LOG_ANNOUNCE_INTERVAL_f (d : LOG_ANNOUNCE_INTERVAL_t) : P LOG_ANNOUNCE_INTERVAL_t :=
  .mk <$> proc d.logAnnounceInterval

def ANNOUNCE_RECEIPT_TIMEOUT_f (d : ANNOUNCE_RECEIPT_TIMEOUT_t) : P ANNOUNCE_RECEIPT_TIMEOUT_t :=
  .mk <$> proc d.announceReceiptTimeout

def LOG_SYNC_INTERVAL_f (d : LOG_SYNC_INTERVAL_t) : P LOG_SYNC_INTERVAL_t :=
  .mk <$> proc d.logSyncInterval

def VERSION_NUMBER_f (d : VERSION_NUMBER_t) : P VERSION_NUMBER_t :=
  .mk <$> proc d.versionNumber

def TIME_f (d : TIME_t) : P TIME_t :=
  .mk <$> proc d.currentTime

def CLOCK_ACCURACY_f (d : CLOCK_ACCURACY_t) : P CLOCK_ACCURACY_t :=
  .mk <$> proc d.clockAccuracy

def UTC_PROPERTIES_f (d : UTC_PROPERTIES_t) : P UTC_PROPERTIES_t := do
  let currentUtcOffset ← proc d.currentUtcOffset
  let flags ← procFlags d.flags 0x7
  return { currentUtcOffset, flags }

def TRACEABILITY_PROPERTIES_f (d : TRACEABILITY_PROPERTIES_t) : P TRACEABILITY_PROPERTIES_t :=
  .mk <$> procFlags d.flags 0x30

def TIMESCALE_PROPERTIES_f (d : TIMESCALE_PROPERTIES_t) : P TIMESCALE_PROPERTIES_t := do
  let flags ← procFlags d.flags 0x8
  let timeSource ← proc d.timeSource
  return { flags, timeSource }

def UNICAST_NEGOTIATION_ENABLE_f (d : UNICAST_NEGOTIATION_ENABLE_t) : P UNICAST_NEGOTIATION_ENABLE_t :=
  .mk <$> procFlags d.flags 0x1

def PATH_TRACE_LIST_f (d : PATH_TRACE_LIST_t) : P PATH_TRACE_LIST_t :=
  .mk <$> vectorO ClockIdentity_t.size d.pathSequence

def PATH_TRACE_ENABLE_f (d : PATH_TRACE_ENABLE_t) : P PATH_TRACE_ENABLE_t :=
  .mk <$> procFlags d.flags 0x1

def GRANDMASTER_CLUSTER_TABLE_f (d : GRANDMASTER_CLUSTER_TABLE_t) : P GRANDMASTER_CLUSTER_TABLE_t := do
  let logQueryInterval ← proc d.logQueryInterval
  let actualTableSize ← proc (UInt8.ofNat d.PortAddress.length)
  let PortAddress ← vectorF actualTableSize.toNat d.PortAddress
  return { logQueryInterval, actualTableSize, PortAddress }

def UNICAST_MASTER_TABLE_f (d : UNICAST_MASTER_TABLE_t) : P UNICAST_MASTER_TABLE_t := do
  let logQueryInterval ← proc d.logQueryInterval
  let actualTableSize ← proc (UInt16.ofNat d.PortAddress.length)
  let PortAddress ← vectorF actualTableSize.toNat d.PortAddress
  return { logQueryInterval, actualTableSize, PortAddress }

def UNICAST_MASTER_MAX_TABLE_SIZE_f (d : UNICAST_MASTER_MAX_TABLE_SIZE_t) : P UNICAST_MASTER_MAX_TABLE_SIZE_t :=
  .mk <$> proc d.maxTableSize

def ACCEPTABLE_MASTER_TABLE_f (d : ACCEPTABLE_MASTER_TABLE_t) : P ACCEPTABLE_MASTER_TABLE_t := do
  let actualTableSize ← proc (Int16.ofNat d.list.length)
  -- a negative count is widened to 32 bits and becomes a huge one
  let list ← vectorF actualTableSize.toInt32.toUInt32.toNat d.list
  return { actualTableSize, list }

def ACCEPTABLE_MASTER_TABLE_ENABLED_f (d : ACCEPTABLE_MASTER_TABLE_ENABLED_t) : P ACCEPTABLE_MASTER_TABLE_ENABLED_t :=
  .mk <$> procFlags d.flags 0x1

def ACCEPTABLE_MASTER_MAX_TABLE_SIZE_f (d : ACCEPTABLE_MASTER_MAX_TABLE_SIZE_t) :
    P ACCEPTABLE_MASTER_MAX_TABLE_SIZE_t :=
  .mk <$> proc d.maxTableSize

def ALTERNATE_MASTER_f (d : ALTERNATE_MASTER_t) : P ALTERNATE_MASTER_t := do
  let flags ← procFlags d.flags 0x1
  let logAlternateMulticastSyncInterval ← proc d.logAlternateMulticastSyncInterval
  let numberOfAlternateMasters ← proc d.numberOfAlternateMasters
  return { flags, logAlternateMulticastSyncInterval, numberOfAlternateMasters }

def ALTERNATE_TIME_OFFSET_ENABLE_f (d : ALTERNATE_TIME_OFFSET_ENABLE_t) : P ALTERNATE_TIME_OFFSET_ENABLE_t := do
  let keyField ← proc d.keyField
  let flags ← procFlags d.flags 0x1
  return { keyField, flags }

def ALTERNATE_TIME_OFFSET_NAME_f (d : ALTERNATE_TIME_OFFSET_NAME_t) : P ALTERNATE_TIME_OFFSET_NAME_t := do
  let keyField ← proc d.keyField
  let displayName ← proc d.displayName
  return { keyField, displayName }

def ALTERNATE_TIME_OFFSET_MAX_KEY_f (d : ALTERNATE_TIME_OFFSET_MAX_KEY_t) : P ALTERNATE_TIME_OFFSET_MAX_KEY_t :=
  .mk <$> proc d.maxKey

def ALTERNATE_TIME_OFFSET_PROPERTIES_f (d : ALTERNATE_TIME_OFFSET_PROPERTIES_t) :
    P ALTERNATE_TIME_OFFSET_PROPERTIES_t := do
  let keyField ← proc d.keyField
  let currentOffset ← proc d.currentOffset
  let jumpSeconds ← proc d.jumpSeconds
  let timeOfNextJump ← proc48 d.timeOfNextJump
  return { keyField, currentOffset, jumpSeconds, timeOfNextJump }

def TRANSPARENT_CLOCK_PORT_DATA_SET_f (d : TRANSPARENT_CLOCK_PORT_DATA_SET_t) :
    P TRANSPARENT_CLOCK_PORT_DATA_SET_t := do
  let portIdentity ← proc d.portIdentity
  let flags ← procFlags d.flags 0x1
  let logMinPdelayReqInterval ← proc d.logMinPdelayReqInterval
  let peerMeanPathDelay ← proc d.peerMeanPathDelay
  return { portIdentity, flags, logMinPdelayReqInterval, peerMeanPathDelay }

def LOG_MIN_PDELAY_REQ_INTERVAL_f (d : LOG_MIN_PDELAY_REQ_INTERVAL_t) : P LOG_MIN_PDELAY_REQ_INTERVAL_t :=
  .mk <$> proc d.logMinPdelayReqInterval

def TRANSPARENT_CLOCK_DEFAULT_DATA_SET_f (d : TRANSPARENT_CLOCK_DEFAULT_DATA_SET_t) :
    P TRANSPARENT_CLOCK_DEFAULT_DATA_SET_t := do
  let clockIdentity ← proc d.clockIdentity
  let numberPorts ← proc d.numberPorts
  let delayMechanism ← proc d.delayMechanism
  let primaryDomain ← proc d.primaryDomain
  return { clockIdentity, numberPorts, delayMechanism, primaryDomain }

def PRIMARY_DOMAIN_f (d : PRIMARY_DOMAIN_t) : P PRIMARY_DOMAIN_t :=
  .mk <$> proc d.primaryDomain

def DELAY_MECHANISM_f (d : DELAY_MECHANISM_t) : P DELAY_MECHANISM_t :=
  .mk <$> proc d.delayMechanism

def EXTERNAL_PORT_CONFIGURATION_ENABLED_f (d : EXTERNAL_PORT_CONFIGURATION_ENABLED_t) :
    P EXTERNAL_PORT_CONFIGURATION_ENABLED_t :=
  .mk <$> procFlags d.flags 0x1

def MASTER_ONLY_f (d : MASTER_ONLY_t) : P MASTER_ONLY_t :=
  .mk <$> procFlags d.flags 0x1

def HOLDOVER_UPGRADE_ENABLE_f (d : HOLDOVER_UPGRADE_ENABLE_t) : P HOLDOVER_UPGRADE_ENABLE_t :=
  .mk <$> procFlags d.flags 0x1

def EXT_PORT_CONFIG_PORT_DATA_SET_f (d : EXT_PORT_CONFIG_PORT_DATA_SET_t) : P EXT_PORT_CONFIG_PORT_DATA_SET_t := do
  let flags ← procFlags d.flags 0x1
  let desiredState ← proc d.desiredState
  return { flags, desiredState }

def TIME_STATUS_NP_f (d : TIME_STATUS_NP_t) : P TIME_STATUS_NP_t := do
  let master_offset ← proc d.master_offset
  let ingress_time ← proc d.ingress_time
  let cumulativeScaledRateOffset ← proc d.cumulativeScaledRateOffset
  let scaledLastGmPhaseChange ← proc d.scaledLastGmPhaseChange
  let gmTimeBaseIndicator ← proc d.gmTimeBaseIndicator
  let nanoseconds_msb ← proc d.nanoseconds_msb
  let nanoseconds_lsb ← proc d.nanoseconds_lsb
  let fractional_nanoseconds ← proc d.fractional_nanoseconds
  let gmPresent ← proc d.gmPresent
  let gmIdentity ← proc d.gmIdentity
  return { master_offset, ingress_time, cumulativeScaledRateOffset, scaledLastGmPhaseChange,
           gmTimeBaseIndicator, nanoseconds_msb, nanoseconds_lsb, fractional_nanoseconds, gmPresent,
           gmIdentity }

def GRANDMASTER_SETTINGS_NP_f (d : GRANDMASTER_SETTINGS_NP_t) : P GRANDMASTER_SETTINGS_NP_t := do
  let clockQuality ← proc d.clockQuality
  let currentUtcOffset ← proc d.currentUtcOffset
  let flags ← procFlags d.flags 0x3f
  let timeSource ← proc d.timeSource
  return { clockQuality, currentUtcOffset, flags, timeSource }

def PORT_DATA_SET_NP_f (d : PORT_DATA_SET_NP_t) : P PORT_DATA_SET_NP_t := do
  let neighborPropDelayThresh ← proc d.neighborPropDelayThresh
  let asCapable ← proc d.asCapable
  return { neighborPropDelayThresh, asCapable }

def SUBSCRIBE_EVENTS_NP_f (d : SUBSCRIBE_EVENTS_NP_t) : P SUBSCRIBE_EVENTS_NP_t := do
  let duration ← proc d.duration
  let bitmask ← proc d.bitmask
  return { duration, bitmask }

def PORT_PROPERTIES_NP_f (d : PORT_PROPERTIES_NP_t) : P PORT_PROPERTIES_NP_t := do
  let portIdentity ← proc d.portIdentity
  let portState ← proc d.portState
  let timestamping ← proc d.timestamping
  let interface ← proc d.interface
  return { portIdentity, portState, timestamping, interface }

def PORT_STATS_NP_f (d : PORT_STATS_NP_t) : P PORT_STATS_NP_t := do
  let portIdentity ← proc d.portIdentity
  let rxMsgType ← procCounters d.rxMsgType
  let txMsgType ← procCounters d.txMsgType
  return { portIdentity, rxMsgType, txMsgType }

def SYNCHRONIZATION_UNCERTAIN_NP_f (d : SYNCHRONIZATION_UNCERTAIN_NP_t) : P SYNCHRONIZATION_UNCERTAIN_NP_t :=
  .mk <$> proc d.val

/-- The process function of the structure's own id. -/
def procTlv : BaseMngTlv → P BaseMngTlv
  | .CLOCK_DESCRIPTION d => .CLOCK_DESCRIPTION <$> CLOCK_DESCRIPTION_f d
  | .USER_DESCRIPTION d => .USER_DESCRIPTION <$> USER_DESCRIPTION_f d
  | .INITIALIZE d => .INITIALIZE <$> INITIALIZE_f d
  | .FAULT_LOG d => .FAULT_LOG <$> FAULT_LOG_f d
  | .DEFAULT_DATA_SET d => .DEFAULT_DATA_SET <$> DEFAULT_DATA_SET_f d
  | .CURRENT_DATA_SET d => .CURRENT_DATA_SET <$> CURRENT_DATA_SET_f d
  | .PARENT_DATA_SET d => .PARENT_DATA_SET <$> PARENT_DATA_SET_f d
  | .TIME_PROPERTIES_DATA_SET d => .TIME_PROPERTIES_DATA_SET <$> TIME_PROPERTIES_DATA_SET_f d
  | .PORT_DATA_SET d => .PORT_DATA_SET <$> PORT_DATA_SET_f d
  | .PRIORITY1 d => .PRIORITY1 <$> PRIORITY1_f d
  | .PRIORITY2 d => .PRIORITY2 <$> PRIORITY2_f d
  | .DOMAIN d => .DOMAIN <$> DOMAIN_f d
  | .SLAVE_ONLY d => .SLAVE_ONLY <$> SLAVE_ONLY_f d
  | .LOG_ANNOUNCE_INTERVAL d => .LOG_ANNOUNCE_INTERVAL <$> LOG_ANNOUNCE_INTERVAL_f d
  | .ANNOUNCE_RECEIPT_TIMEOUT d => .ANNOUNCE_RECEIPT_TIMEOUT <$> ANNOUNCE_RECEIPT_TIMEOUT_f d
  | .LOG_SYNC_INTERVAL d => .LOG_SYNC_INTERVAL <$> LOG_SYNC_INTERVAL_f d
  | .VERSION_NUMBER d => .VERSION_NUMBER <$> VERSION_NUMBER_f d
  | .TIME d => .TIME <$> TIME_f d
  | .CLOCK_ACCURACY d => .CLOCK_ACCURACY <$> CLOCK_ACCURACY_f d
  | .UTC_PROPERTIES d => .UTC_PROPERTIES <$> UTC_PROPERTIES_f d
  | .TRACEABILITY_PROPERTIES d => .TRACEABILITY_PROPERTIES <$> TRACEABILITY_PROPERTIES_f d
  | .TIMESCALE_PROPERTIES d => .TIMESCALE_PROPERTIES <$> TIMESCALE_PROPERTIES_f d
  | .UNICAST_NEGOTIATION_ENABLE d => .UNICAST_NEGOTIATION_ENABLE <$> UNICAST_NEGOTIATION_ENABLE_f d
  | .PATH_TRACE_LIST d => .PATH_TRACE_LIST <$> PATH_TRACE_LIST_f d
  | .PATH_TRACE_ENABLE d => .PATH_TRACE_ENABLE <$> PATH_TRACE_ENABLE_f d
  | .GRANDMASTER_CLUSTER_TABLE d => .GRANDMASTER_CLUSTER_TABLE <$> GRANDMASTER_CLUSTER_TABLE_f d
  | .UNICAST_MASTER_TABLE d => .UNICAST_MASTER_TABLE <$> UNICAST_MASTER_TABLE_f d
  | .UNICAST_MASTER_MAX_TABLE_SIZE d => .UNICAST_MASTER_MAX_TABLE_SIZE <$> UNICAST_MASTER_MAX_TABLE_SIZE_f d
  | .ACCEPTABLE_MASTER_TABLE d => .ACCEPTABLE_MASTER_TABLE <$> ACCEPTABLE_MASTER_TABLE_f d
  | .ACCEPTABLE_MASTER_TABLE_ENABLED d => .ACCEPTABLE_MASTER_TABLE_ENABLED <$> ACCEPTABLE_MASTER_TABLE_ENABLED_f d
  | .ACCEPTABLE_MASTER_MAX_TABLE_SIZE d => .ACCEPTABLE_MASTER_MAX_TABLE_SIZE <$> ACCEPTABLE_MASTER_MAX_TABLE_SIZE_f d
  | .ALTERNATE_MASTER d => .ALTERNATE_MASTER <$> ALTERNATE_MASTER_f d
  | .ALTERNATE_TIME_OFFSET_ENABLE d => .ALTERNATE_TIME_OFFSET_ENABLE <$> ALTERNATE_TIME_OFFSET_ENABLE_f d
  | .ALTERNATE_TIME_OFFSET_NAME d => .ALTERNATE_TIME_OFFSET_NAME <$> ALTERNATE_TIME_OFFSET_NAME_f d
  | .ALTERNATE_TIME_OFFSET_MAX_KEY d => .ALTERNATE_TIME_OFFSET_MAX_KEY <$> ALTERNATE_TIME_OFFSET_MAX_KEY_f d
  | .ALTERNATE_TIME_OFFSET_PROPERTIES d => .ALTERNATE_TIME_OFFSET_PROPERTIES <$> ALTERNATE_TIME_OFFSET_PROPERTIES_f d
  | .TRANSPARENT_CLOCK_PORT_DATA_SET d => .TRANSPARENT_CLOCK_PORT_DATA_SET <$> TRANSPARENT_CLOCK_PORT_DATA_SET_f d
  | .LOG_MIN_PDELAY_REQ_INTERVAL d => .LOG_MIN_PDELAY_REQ_INTERVAL <$> LOG_MIN_PDELAY_REQ_INTERVAL_f d
  | .TRANSPARENT_CLOCK_DEFAULT_DATA_SET d => .TRANSPARENT_CLOCK_DEFAULT_DATA_SET <$>
      TRANSPARENT_CLOCK_DEFAULT_DATA_SET_f d
  | .PRIMARY_DOMAIN d => .PRIMARY_DOMAIN <$> PRIMARY_DOMAIN_f d
  | .DELAY_MECHANISM d => .DELAY_MECHANISM <$> DELAY_MECHANISM_f d
  | .EXTERNAL_PORT_CONFIGURATION_ENABLED d => .EXTERNAL_PORT_CONFIGURATION_ENABLED <$>
      EXTERNAL_PORT_CONFIGURATION_ENABLED_f d
  | .MASTER_ONLY d => .MASTER_ONLY <$> MASTER_ONLY_f d
  | .HOLDOVER_UPGRADE_ENABLE d => .HOLDOVER_UPGRADE_ENABLE <$> HOLDOVER_UPGRADE_ENABLE_f d
  | .EXT_PORT_CONFIG_PORT_DATA_SET d => .EXT_PORT_CONFIG_PORT_DATA_SET <$> EXT_PORT_CONFIG_PORT_DATA_SET_f d
  | .TIME_STATUS_NP d => .TIME_STATUS_NP <$> TIME_STATUS_NP_f d
  | .GRANDMASTER_SETTINGS_NP d => .GRANDMASTER_SETTINGS_NP <$> GRANDMASTER_SETTINGS_NP_f d
  | .PORT_DATA_SET_NP d => .PORT_DATA_SET_NP <$> PORT_DATA_SET_NP_f d
  | .SUBSCRIBE_EVENTS_NP d => .SUBSCRIBE_EVENTS_NP <$> SUBSCRIBE_EVENTS_NP_f d
  | .PORT_PROPERTIES_NP d => .PORT_PROPERTIES_NP <$> PORT_PROPERTIES_NP_f d
  | .PORT_STATS_NP d => .PORT_STATS_NP <$> PORT_STATS_NP_f d
  | .SYNCHRONIZATION_UNCERTAIN_NP d => .SYNCHRONIZATION_UNCERTAIN_NP <$> SYNCHRONIZATION_UNCERTAIN_NP_f d

/-- `new n##_t` for the id; an id without functions has no structure. -/
def newTlv : MngVals → Option BaseMngTlv
  | .NULL_PTP_MANAGEMENT => none
  | .CLOCK_DESCRIPTION => some (.CLOCK_DESCRIPTION default)
  | .USER_DESCRIPTION => some (.USER_DESCRIPTION default)
  | .SAVE_IN_NON_VOLATILE_STORAGE => none
  | .RESET_NON_VOLATILE_STORAGE => none
  | .INITIALIZE => some (.INITIALIZE default)
  | .FAULT_LOG => some (.FAULT_LOG default)
  | .FAULT_LOG_RESET => none
  | .DEFAULT_DATA_SET => some (.DEFAULT_DATA_SET default)
  | .CURRENT_DATA_SET => some (.CURRENT_DATA_SET default)
  | .PARENT_DATA_SET => some (.PARENT_DATA_SET default)
  | .TIME_PROPERTIES_DATA_SET => some (.TIME_PROPERTIES_DATA_SET default)
  | .PORT_DATA_SET => some (.PORT_DATA_SET default)
  | .PRIORITY1 => some (.PRIORITY1 default)
  | .PRIORITY2 => some (.PRIORITY2 default)
  | .DOMAIN => some (.DOMAIN default)
  | .SLAVE_ONLY => some (.SLAVE_ONLY default)
  | .LOG_ANNOUNCE_INTERVAL => some (.LOG_ANNOUNCE_INTERVAL default)
  | .ANNOUNCE_RECEIPT_TIMEOUT => some (.ANNOUNCE_RECEIPT_TIMEOUT default)
  | .LOG_SYNC_INTERVAL => some (.LOG_SYNC_INTERVAL default)
  | .VERSION_NUMBER => some (.VERSION_NUMBER default)
  | .ENABLE_PORT => none
  | .DISABLE_PORT => none
  | .TIME => some (.TIME default)
  | .CLOCK_ACCURACY => some (.CLOCK_ACCURACY default)
  | .UTC_PROPERTIES => some (.UTC_PROPERTIES default)
  | .TRACEABILITY_PROPERTIES => some (.TRACEABILITY_PROPERTIES default)
  | .TIMESCALE_PROPERTIES => some (.TIMESCALE_PROPERTIES default)
  | .UNICAST_NEGOTIATION_ENABLE => some (.UNICAST_NEGOTIATION_ENABLE default)
  | .PATH_TRACE_LIST => some (.PATH_TRACE_LIST default)
  | .PATH_TRACE_ENABLE => some (.PATH_TRACE_ENABLE default)
  | .GRANDMASTER_CLUSTER_TABLE => some (.GRANDMASTER_CLUSTER_TABLE default)
  | .UNICAST_MASTER_TABLE => some (.UNICAST_MASTER_TABLE default)
  | .UNICAST_MASTER_MAX_TABLE_SIZE => some (.UNICAST_MASTER_MAX_TABLE_SIZE default)
  | .ACCEPTABLE_MASTER_TABLE => some (.ACCEPTABLE_MASTER_TABLE default)
  | .ACCEPTABLE_MASTER_TABLE_ENABLED => some (.ACCEPTABLE_MASTER_TABLE_ENABLED default)
  | .ACCEPTABLE_MASTER_MAX_TABLE_SIZE => some (.ACCEPTABLE_MASTER_MAX_TABLE_SIZE default)
  | .ALTERNATE_MASTER => some (.ALTERNATE_MASTER default)
  | .ALTERNATE_TIME_OFFSET_ENABLE => some (.ALTERNATE_TIME_OFFSET_ENABLE default)
  | .ALTERNATE_TIME_OFFSET_NAME => some (.ALTERNATE_TIME_OFFSET_NAME default)
  | .ALTERNATE_TIME_OFFSET_MAX_KEY => some (.ALTERNATE_TIME_OFFSET_MAX_KEY default)
  | .ALTERNATE_TIME_OFFSET_PROPERTIES => some (.ALTERNATE_TIME_OFFSET_PROPERTIES default)
  | .TRANSPARENT_CLOCK_PORT_DATA_SET => some (.TRANSPARENT_CLOCK_PORT_DATA_SET default)
  | .LOG_MIN_PDELAY_REQ_INTERVAL => some (.LOG_MIN_PDELAY_REQ_INTERVAL default)
  | .TRANSPARENT_CLOCK_DEFAULT_DATA_SET => some (.TRANSPARENT_CLOCK_DEFAULT_DATA_SET default)
  | .PRIMARY_DOMAIN => some (.PRIMARY_DOMAIN default)
  | .DELAY_MECHANISM => some (.DELAY_MECHANISM default)
  | .EXTERNAL_PORT_CONFIGURATION_ENABLED => some (.EXTERNAL_PORT_CONFIGURATION_ENABLED default)
  | .MASTER_ONLY => some (.MASTER_ONLY default)
  | .HOLDOVER_UPGRADE_ENABLE => some (.HOLDOVER_UPGRADE_ENABLE default)
  | .EXT_PORT_CONFIG_PORT_DATA_SET => some (.EXT_PORT_CONFIG_PORT_DATA_SET default)
  | .TIME_STATUS_NP => some (.TIME_STATUS_NP default)
  | .GRANDMASTER_SETTINGS_NP => some (.GRANDMASTER_SETTINGS_NP default)
  | .PORT_DATA_SET_NP => some (.PORT_DATA_SET_NP default)
  | .SUBSCRIBE_EVENTS_NP => some (.SUBSCRIBE_EVENTS_NP default)
  | .PORT_PROPERTIES_NP => some (.PORT_PROPERTIES_NP default)
  | .PORT_STATS_NP => some (.PORT_STATS_NP default)
  | .SYNCHRONIZATION_UNCERTAIN_NP => some (.SYNCHRONIZATION_UNCERTAIN_NP default)

/-! ## Sizes -/

def CLOCK_DESCRIPTION_s (d : CLOCK_DESCRIPTION_t) : Nat :=
  13 + d.physicalAddress.length + d.protocolAddress.size + d.physicalLayerProtocol.size +
    d.productDescription.size + d.revisionData.size + d.userDescription.size
def USER_DESCRIPTION_s (d : USER_DESCRIPTION_t) : Nat := d.userDescription.size
def FAULT_LOG_s (d : FAULT_LOG_t) : Nat := 2 + (d.faultRecords.map FaultRecord_t.size).sum
def PATH_TRACE_LIST_s (d : PATH_TRACE_LIST_t) : Nat := ClockIdentity_t.size * d.pathSequence.length
def GRANDMASTER_CLUSTER_TABLE_s (d : GRANDMASTER_CLUSTER_TABLE_t) :
    Nat := 2 + (d.PortAddress.map PortAddress_t.size).sum
def UNICAST_MASTER_TABLE_s (d : UNICAST_MASTER_TABLE_t) : Nat := 3 + (d.PortAddress.map PortAddress_t.size).sum
def ACCEPTABLE_MASTER_TABLE_s (d : ACCEPTABLE_MASTER_TABLE_t) : Nat := 2 + AcceptableMaster_t.size * d.list.length
def ALTERNATE_TIME_OFFSET_NAME_s (d : ALTERNATE_TIME_OFFSET_NAME_t) : Nat := 1 + d.displayName.size
def PORT_PROPERTIES_NP_s (d : PORT_PROPERTIES_NP_t) : Nat := 2 + PortIdentity_t.size + d.interface.size

/-- The size of a structure whose id has a size function. -/
def sizeTlv : BaseMngTlv → Option Nat
  | .CLOCK_DESCRIPTION d => some (CLOCK_DESCRIPTION_s d)
  | .USER_DESCRIPTION d => some (USER_DESCRIPTION_s d)
  | .FAULT_LOG d => some (FAULT_LOG_s d)
  | .PATH_TRACE_LIST d => some (PATH_TRACE_LIST_s d)
  | .GRANDMASTER_CLUSTER_TABLE d => some (GRANDMASTER_CLUSTER_TABLE_s d)
  | .UNICAST_MASTER_TABLE d => some (UNICAST_MASTER_TABLE_s d)
  | .ACCEPTABLE_MASTER_TABLE d => some (ACCEPTABLE_MASTER_TABLE_s d)
  | .ALTERNATE_TIME_OFFSET_NAME d => some (ALTERNATE_TIME_OFFSET_NAME_s d)
  | .PORT_PROPERTIES_NP d => some (PORT_PROPERTIES_NP_s d)
  | _ => none

/-- `Message::call_tlv_data`. An id without functions leaves the pointer as the
caller passed it. In build mode the caller's pointer is cast to the id's structure:
`build` sees to it that it points to one. -/
def callTlvData (id : MngVals) (tlv : TlvPtr) : P TlvPtr :=
  match newTlv id with
  | none => pure tlv
  | some t =>
    mode (match tlv with
      | .to d => .to <$> procTlv d
      | p => pure p) (.to <$> procTlv t)

end LibPmc
