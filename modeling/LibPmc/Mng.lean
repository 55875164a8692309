import LibPmc.Types
/-!
# The management TLVs

The structures of `proc.h`, one for each management id that has a dataField, and
a pointer to any of them.
-/
namespace LibPmc

open Wire

structure CLOCK_DESCRIPTION_t where
  clockType : UInt16
  physicalLayerProtocol : PTPText_t
  physicalAddressLength : UInt16
  physicalAddress : List UInt8
  protocolAddress : PortAddress_t
  manufacturerIdentity : Octets 3
  productDescription : PTPText_t
  revisionData : PTPText_t
  userDescription : PTPText_t
  profileIdentity : Octets 6
  deriving Inhabited

structure USER_DESCRIPTION_t where
  userDescription : PTPText_t
  deriving Inhabited

structure INITIALIZE_t where
  initializationKey : UInt16
  deriving Inhabited

structure FAULT_LOG_t where
  numberOfFaultRecords : UInt16
  faultRecords : List FaultRecord_t
  deriving Inhabited

structure DEFAULT_DATA_SET_t where
  flags : UInt8
  numberPorts : UInt16
  priority1 : UInt8
  clockQuality : ClockQuality_t
  priority2 : UInt8
  clockIdentity : ClockIdentity_t
  domainNumber : UInt8
  deriving Inhabited

structure CURRENT_DATA_SET_t where
  stepsRemoved : UInt16
  offsetFromMaster : TimeInterval_t
  meanPathDelay : TimeInterval_t
  deriving Inhabited

structure PARENT_DATA_SET_t where
  parentPortIdentity : PortIdentity_t
  flags : UInt8
  observedParentOffsetScaledLogVariance : UInt16
  observedParentClockPhaseChangeRate : Int32
  grandmasterPriority1 : UInt8
  grandmasterClockQuality : ClockQuality_t
  grandmasterPriority2 : UInt8
  grandmasterIdentity : ClockIdentity_t
  deriving Inhabited

structure TIME_PROPERTIES_DATA_SET_t where
  currentUtcOffset : Int16
  flags : UInt8
  timeSource : UInt8
  deriving Inhabited

structure PORT_DATA_SET_t where
  portIdentity : PortIdentity_t
  portState : UInt8
  logMinDelayReqInterval : Int8
  peerMeanPathDelay : TimeInterval_t
  logAnnounceInterval : Int8
  announceReceiptTimeout : UInt8
  logSyncInterval : Int8
  delayMechanism : UInt8
  logMinPdelayReqInterval : Int8
  versionNumber : UInt8
  deriving Inhabited

structure PRIORITY1_t where
  priority1 : UInt8
  deriving Inhabited

structure PRIORITY2_t where
  priority2 : UInt8
  deriving Inhabited

structure DOMAIN_t where
  domainNumber : UInt8
  deriving Inhabited

structure SLAVE_ONLY_t where
  flags : UInt8
  deriving Inhabited

structure LOG_ANNOUNCE_INTERVAL_t where
  logAnnounceInterval : Int8
  deriving Inhabited

structure ANNOUNCE_RECEIPT_TIMEOUT_t where
  announceReceiptTimeout : UInt8
  deriving Inhabited

structure LOG_SYNC_INTERVAL_t where
  logSyncInterval : Int8
  deriving Inhabited

structure VERSION_NUMBER_t where
  versionNumber : UInt8
  deriving Inhabited

structure TIME_t where
  currentTime : Timestamp_t
  deriving Inhabited

structure CLOCK_ACCURACY_t where
  clockAccuracy : UInt8
  deriving Inhabited

structure UTC_PROPERTIES_t where
  currentUtcOffset : Int16
  flags : UInt8
  deriving Inhabited

structure TRACEABILITY_PROPERTIES_t where
  flags : UInt8
  deriving Inhabited

structure TIMESCALE_PROPERTIES_t where
  flags : UInt8
  timeSource : UInt8
  deriving Inhabited

structure UNICAST_NEGOTIATION_ENABLE_t where
  flags : UInt8
  deriving Inhabited

structure PATH_TRACE_LIST_t where
  pathSequence : List ClockIdentity_t
  deriving Inhabited

structure PATH_TRACE_ENABLE_t where
  flags : UInt8
  deriving Inhabited

structure GRANDMASTER_CLUSTER_TABLE_t where
  logQueryInterval : Int8
  actualTableSize : UInt8
  PortAddress : List PortAddress_t
  deriving Inhabited

structure UNICAST_MASTER_TABLE_t where
  logQueryInterval : Int8
  actualTableSize : UInt16
  PortAddress : List PortAddress_t
  deriving Inhabited

structure UNICAST_MASTER_MAX_TABLE_SIZE_t where
  maxTableSize : UInt16
  deriving Inhabited

structure ACCEPTABLE_MASTER_TABLE_t where
  actualTableSize : Int16
  list : List AcceptableMaster_t
  deriving Inhabited

structure ACCEPTABLE_MASTER_TABLE_ENABLED_t where
  flags : UInt8
  deriving Inhabited

structure ACCEPTABLE_MASTER_MAX_TABLE_SIZE_t where
  maxTableSize : UInt16
  deriving Inhabited

structure ALTERNATE_MASTER_t where
  flags : UInt8
  logAlternateMulticastSyncInterval : Int8
  numberOfAlternateMasters : UInt8
  deriving Inhabited

structure ALTERNATE_TIME_OFFSET_ENABLE_t where
  keyField : UInt8
  flags : UInt8
  deriving Inhabited

structure ALTERNATE_TIME_OFFSET_NAME_t where
  keyField : UInt8
  displayName : PTPText_t
  deriving Inhabited

structure ALTERNATE_TIME_OFFSET_MAX_KEY_t where
  maxKey : UInt8
  deriving Inhabited

structure ALTERNATE_TIME_OFFSET_PROPERTIES_t where
  keyField : UInt8
  currentOffset : Int32
  jumpSeconds : Int32
  timeOfNextJump : UInt64
  deriving Inhabited

structure TRANSPARENT_CLOCK_PORT_DATA_SET_t where
  portIdentity : PortIdentity_t
  flags : UInt8
  logMinPdelayReqInterval : Int8
  peerMeanPathDelay : TimeInterval_t
  deriving Inhabited

structure LOG_MIN_PDELAY_REQ_INTERVAL_t where
  logMinPdelayReqInterval : Int8
  deriving Inhabited

structure TRANSPARENT_CLOCK_DEFAULT_DATA_SET_t where
  clockIdentity : ClockIdentity_t
  numberPorts : UInt16
  delayMechanism : UInt8
  primaryDomain : UInt8
  deriving Inhabited

structure PRIMARY_DOMAIN_t where
  primaryDomain : UInt8
  deriving Inhabited

structure DELAY_MECHANISM_t where
  delayMechanism : UInt8
  deriving Inhabited

structure EXTERNAL_PORT_CONFIGURATION_ENABLED_t where
  flags : UInt8
  deriving Inhabited

structure MASTER_ONLY_t where
  flags : UInt8
  deriving Inhabited

structure HOLDOVER_UPGRADE_ENABLE_t where
  flags : UInt8
  deriving Inhabited

structure EXT_PORT_CONFIG_PORT_DATA_SET_t where
  flags : UInt8
  desiredState : UInt8
  deriving Inhabited

structure TIME_STATUS_NP_t where
  master_offset : Int64
  ingress_time : Int64
  cumulativeScaledRateOffset : Int32
  scaledLastGmPhaseChange : Int32
  gmTimeBaseIndicator : UInt16
  nanoseconds_msb : UInt16
  nanoseconds_lsb : UInt64
  fractional_nanoseconds : UInt16
  gmPresent : Int32
  gmIdentity : ClockIdentity_t
  deriving Inhabited

structure GRANDMASTER_SETTINGS_NP_t where
  clockQuality : ClockQuality_t
  currentUtcOffset : Int16
  flags : UInt8
  timeSource : UInt8
  deriving Inhabited

structure PORT_DATA_SET_NP_t where
  neighborPropDelayThresh : UInt32
  asCapable : Int32
  deriving Inhabited

structure SUBSCRIBE_EVENTS_NP_t where
  duration : UInt16
  bitmask : Octets 64
  deriving Inhabited

structure PORT_PROPERTIES_NP_t where
  portIdentity : PortIdentity_t
  portState : UInt8
  timestamping : UInt8
  interface : PTPText_t
  deriving Inhabited

structure PORT_STATS_NP_t where
  portIdentity : PortIdentity_t
  rxMsgType : Counters
  txMsgType : Counters
  deriving Inhabited

structure SYNCHRONIZATION_UNCERTAIN_NP_t where
  val : UInt8
  deriving Inhabited

/-- The structure behind a management dataField pointer, with its dynamic type. -/
inductive BaseMngTlv where
  | CLOCK_DESCRIPTION (d : CLOCK_DESCRIPTION_t)
  | USER_DESCRIPTION (d : USER_DESCRIPTION_t)
  | INITIALIZE (d : INITIALIZE_t)
  | FAULT_LOG (d : FAULT_LOG_t)
  | DEFAULT_DATA_SET (d : DEFAULT_DATA_SET_t)
  | CURRENT_DATA_SET (d : CURRENT_DATA_SET_t)
  | PARENT_DATA_SET (d : PARENT_DATA_SET_t)
  | TIME_PROPERTIES_DATA_SET (d : TIME_PROPERTIES_DATA_SET_t)
  | PORT_DATA_SET (d : PORT_DATA_SET_t)
  | PRIORITY1 (d : PRIORITY1_t)
  | PRIORITY2 (d : PRIORITY2_t)
  | DOMAIN (d : DOMAIN_t)
  | SLAVE_ONLY (d : SLAVE_ONLY_t)
  | LOG_ANNOUNCE_INTERVAL (d : LOG_ANNOUNCE_INTERVAL_t)
  | ANNOUNCE_RECEIPT_TIMEOUT (d : ANNOUNCE_RECEIPT_TIMEOUT_t)
  | LOG_SYNC_INTERVAL (d : LOG_SYNC_INTERVAL_t)
  | VERSION_NUMBER (d : VERSION_NUMBER_t)
  | TIME (d : TIME_t)
  | CLOCK_ACCURACY (d : CLOCK_ACCURACY_t)
  | UTC_PROPERTIES (d : UTC_PROPERTIES_t)
  | TRACEABILITY_PROPERTIES (d : TRACEABILITY_PROPERTIES_t)
  | TIMESCALE_PROPERTIES (d : TIMESCALE_PROPERTIES_t)
  | UNICAST_NEGOTIATION_ENABLE (d : UNICAST_NEGOTIATION_ENABLE_t)
  | PATH_TRACE_LIST (d : PATH_TRACE_LIST_t)
  | PATH_TRACE_ENABLE (d : PATH_TRACE_ENABLE_t)
  | GRANDMASTER_CLUSTER_TABLE (d : GRANDMASTER_CLUSTER_TABLE_t)
  | UNICAST_MASTER_TABLE (d : UNICAST_MASTER_TABLE_t)
  | UNICAST_MASTER_MAX_TABLE_SIZE (d : UNICAST_MASTER_MAX_TABLE_SIZE_t)
  | ACCEPTABLE_MASTER_TABLE (d : ACCEPTABLE_MASTER_TABLE_t)
  | ACCEPTABLE_MASTER_TABLE_ENABLED (d : ACCEPTABLE_MASTER_TABLE_ENABLED_t)
  | ACCEPTABLE_MASTER_MAX_TABLE_SIZE (d : ACCEPTABLE_MASTER_MAX_TABLE_SIZE_t)
  | ALTERNATE_MASTER (d : ALTERNATE_MASTER_t)
  | ALTERNATE_TIME_OFFSET_ENABLE (d : ALTERNATE_TIME_OFFSET_ENABLE_t)
  | ALTERNATE_TIME_OFFSET_NAME (d : ALTERNATE_TIME_OFFSET_NAME_t)
  | ALTERNATE_TIME_OFFSET_MAX_KEY (d : ALTERNATE_TIME_OFFSET_MAX_KEY_t)
  | ALTERNATE_TIME_OFFSET_PROPERTIES (d : ALTERNATE_TIME_OFFSET_PROPERTIES_t)
  | TRANSPARENT_CLOCK_PORT_DATA_SET (d : TRANSPARENT_CLOCK_PORT_DATA_SET_t)
  | LOG_MIN_PDELAY_REQ_INTERVAL (d : LOG_MIN_PDELAY_REQ_INTERVAL_t)
  | TRANSPARENT_CLOCK_DEFAULT_DATA_SET (d : TRANSPARENT_CLOCK_DEFAULT_DATA_SET_t)
  | PRIMARY_DOMAIN (d : PRIMARY_DOMAIN_t)
  | DELAY_MECHANISM (d : DELAY_MECHANISM_t)
  | EXTERNAL_PORT_CONFIGURATION_ENABLED (d : EXTERNAL_PORT_CONFIGURATION_ENABLED_t)
  | MASTER_ONLY (d : MASTER_ONLY_t)
  | HOLDOVER_UPGRADE_ENABLE (d : HOLDOVER_UPGRADE_ENABLE_t)
  | EXT_PORT_CONFIG_PORT_DATA_SET (d : EXT_PORT_CONFIG_PORT_DATA_SET_t)
  | TIME_STATUS_NP (d : TIME_STATUS_NP_t)
  | GRANDMASTER_SETTINGS_NP (d : GRANDMASTER_SETTINGS_NP_t)
  | PORT_DATA_SET_NP (d : PORT_DATA_SET_NP_t)
  | SUBSCRIBE_EVENTS_NP (d : SUBSCRIBE_EVENTS_NP_t)
  | PORT_PROPERTIES_NP (d : PORT_PROPERTIES_NP_t)
  | PORT_STATS_NP (d : PORT_STATS_NP_t)
  | SYNCHRONIZATION_UNCERTAIN_NP (d : SYNCHRONIZATION_UNCERTAIN_NP_t)

/-- The id whose structure it is. -/
def BaseMngTlv.id : BaseMngTlv → MngVals
  | .CLOCK_DESCRIPTION _ => .CLOCK_DESCRIPTION
  | .USER_DESCRIPTION _ => .USER_DESCRIPTION
  | .INITIALIZE _ => .INITIALIZE
  | .FAULT_LOG _ => .FAULT_LOG
  | .DEFAULT_DATA_SET _ => .DEFAULT_DATA_SET
  | .CURRENT_DATA_SET _ => .CURRENT_DATA_SET
  | .PARENT_DATA_SET _ => .PARENT_DATA_SET
  | .TIME_PROPERTIES_DATA_SET _ => .TIME_PROPERTIES_DATA_SET
  | .PORT_DATA_SET _ => .PORT_DATA_SET
  | .PRIORITY1 _ => .PRIORITY1
  | .PRIORITY2 _ => .PRIORITY2
  | .DOMAIN _ => .DOMAIN
  | .SLAVE_ONLY _ => .SLAVE_ONLY
  | .LOG_ANNOUNCE_INTERVAL _ => .LOG_ANNOUNCE_INTERVAL
  | .ANNOUNCE_RECEIPT_TIMEOUT _ => .ANNOUNCE_RECEIPT_TIMEOUT
  | .LOG_SYNC_INTERVAL _ => .LOG_SYNC_INTERVAL
  | .VERSION_NUMBER _ => .VERSION_NUMBER
  | .TIME _ => .TIME
  | .CLOCK_ACCURACY _ => .CLOCK_ACCURACY
  | .UTC_PROPERTIES _ => .UTC_PROPERTIES
  | .TRACEABILITY_PROPERTIES _ => .TRACEABILITY_PROPERTIES
  | .TIMESCALE_PROPERTIES _ => .TIMESCALE_PROPERTIES
  | .UNICAST_NEGOTIATION_ENABLE _ => .UNICAST_NEGOTIATION_ENABLE
  | .PATH_TRACE_LIST _ => .PATH_TRACE_LIST
  | .PATH_TRACE_ENABLE _ => .PATH_TRACE_ENABLE
  | .GRANDMASTER_CLUSTER_TABLE _ => .GRANDMASTER_CLUSTER_TABLE
  | .UNICAST_MASTER_TABLE _ => .UNICAST_MASTER_TABLE
  | .UNICAST_MASTER_MAX_TABLE_SIZE _ => .UNICAST_MASTER_MAX_TABLE_SIZE
  | .ACCEPTABLE_MASTER_TABLE _ => .ACCEPTABLE_MASTER_TABLE
  | .ACCEPTABLE_MASTER_TABLE_ENABLED _ => .ACCEPTABLE_MASTER_TABLE_ENABLED
  | .ACCEPTABLE_MASTER_MAX_TABLE_SIZE _ => .ACCEPTABLE_MASTER_MAX_TABLE_SIZE
  | .ALTERNATE_MASTER _ => .ALTERNATE_MASTER
  | .ALTERNATE_TIME_OFFSET_ENABLE _ => .ALTERNATE_TIME_OFFSET_ENABLE
  | .ALTERNATE_TIME_OFFSET_NAME _ => .ALTERNATE_TIME_OFFSET_NAME
  | .ALTERNATE_TIME_OFFSET_MAX_KEY _ => .ALTERNATE_TIME_OFFSET_MAX_KEY
  | .ALTERNATE_TIME_OFFSET_PROPERTIES _ => .ALTERNATE_TIME_OFFSET_PROPERTIES
  | .TRANSPARENT_CLOCK_PORT_DATA_SET _ => .TRANSPARENT_CLOCK_PORT_DATA_SET
  | .LOG_MIN_PDELAY_REQ_INTERVAL _ => .LOG_MIN_PDELAY_REQ_INTERVAL
  | .TRANSPARENT_CLOCK_DEFAULT_DATA_SET _ => .TRANSPARENT_CLOCK_DEFAULT_DATA_SET
  | .PRIMARY_DOMAIN _ => .PRIMARY_DOMAIN
  | .DELAY_MECHANISM _ => .DELAY_MECHANISM
  | .EXTERNAL_PORT_CONFIGURATION_ENABLED _ => .EXTERNAL_PORT_CONFIGURATION_ENABLED
  | .MASTER_ONLY _ => .MASTER_ONLY
  | .HOLDOVER_UPGRADE_ENABLE _ => .HOLDOVER_UPGRADE_ENABLE
  | .EXT_PORT_CONFIG_PORT_DATA_SET _ => .EXT_PORT_CONFIG_PORT_DATA_SET
  | .TIME_STATUS_NP _ => .TIME_STATUS_NP
  | .GRANDMASTER_SETTINGS_NP _ => .GRANDMASTER_SETTINGS_NP
  | .PORT_DATA_SET_NP _ => .PORT_DATA_SET_NP
  | .SUBSCRIBE_EVENTS_NP _ => .SUBSCRIBE_EVENTS_NP
  | .PORT_PROPERTIES_NP _ => .PORT_PROPERTIES_NP
  | .PORT_STATS_NP _ => .PORT_STATS_NP
  | .SYNCHRONIZATION_UNCERTAIN_NP _ => .SYNCHRONIZATION_UNCERTAIN_NP

/-- A pointer to a management structure. `wild` is one that was never assigned. -/
inductive TlvPtr where
  | null
  | wild
  | to (d : BaseMngTlv)
  deriving Inhabited

end LibPmc
