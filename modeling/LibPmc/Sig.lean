import LibPmc.MngProc
/-!
# The signaling TLVs

The structures of `sig.h`, their process functions (`sig.cpp`) and the switch over
the TLV type. A signaling message is only ever parsed.
-/
namespace LibPmc

open Wire Wire.Prog

structure ORGANIZATION_EXTENSION_t where
  organizationId : Octets 3
  organizationSubType : Octets 3
  dataField : List UInt8
  deriving Inhabited

structure PATH_TRACE_t where
  pathSequence : List ClockIdentity_t
  deriving Inhabited

structure ALTERNATE_TIME_OFFSET_INDICATOR_t where
  keyField : UInt8
  currentOffset : Int32
  jumpSeconds : Int32
  timeOfNextJump : UInt64
  displayName : PTPText_t
  deriving Inhabited

structure ENHANCED_ACCURACY_METRICS_t where
  bcHopCount : UInt8
  tcHopCount : UInt8
  maxGmInaccuracy : TimeInterval_t
  varGmInaccuracy : Float64_t
  maxTransientInaccuracy : TimeInterval_t
  varTransientInaccuracy : Float64_t
  maxDynamicInaccuracy : TimeInterval_t
  varDynamicInaccuracy : Float64_t
  maxStaticInstanceInaccuracy : TimeInterval_t
  varStaticInstanceInaccuracy : Float64_t
  maxStaticMediumInaccuracy : TimeInterval_t
  varStaticMediumInaccuracy : Float64_t
  deriving Inhabited

structure L1_SYNC_t where
  flags1 : UInt8
  flags2 : UInt8
  deriving Inhabited

structure PORT_COMMUNICATION_AVAILABILITY_t where
  syncMessageAvailability : UInt8
  delayRespMessageAvailability : UInt8
  deriving Inhabited

structure PROTOCOL_ADDRESS_t where
  portProtocolAddress : PortAddress_t
  deriving Inhabited

structure SLAVE_RX_SYNC_TIMING_DATA_rec_t where
  sequenceId : UInt16
  syncOriginTimestamp : Timestamp_t
  totalCorrectionField : TimeInterval_t
  scaledCumulativeRateOffset : Int32
  syncEventIngressTimestamp : Timestamp_t
  deriving Inhabited

structure SLAVE_RX_SYNC_TIMING_DATA_t where
  syncSourcePortIdentity : PortIdentity_t
  list : List SLAVE_RX_SYNC_TIMING_DATA_rec_t
  deriving Inhabited

structure SLAVE_RX_SYNC_COMPUTED_DATA_rec_t where
  sequenceId : UInt16
  offsetFromMaster : TimeInterval_t
  meanPathDelay : TimeInterval_t
  scaledNeighborRateRatio : Int32
  deriving Inhabited

structure SLAVE_RX_SYNC_COMPUTED_DATA_t where
  sourcePortIdentity : PortIdentity_t
  computedFlags : UInt8
  list : List SLAVE_RX_SYNC_COMPUTED_DATA_rec_t
  deriving Inhabited

structure SLAVE_TX_EVENT_TIMESTAMPS_rec_t where
  sequenceId : UInt16
  eventEgressTimestamp : Timestamp_t
  deriving Inhabited

structure SLAVE_TX_EVENT_TIMESTAMPS_t where
  sourcePortIdentity : PortIdentity_t
  eventMessageType : UInt8
  list : List SLAVE_TX_EVENT_TIMESTAMPS_rec_t
  deriving Inhabited

structure CUMULATIVE_RATE_RATIO_t where
  scaledCumulativeRateRatio : Int32
  deriving Inhabited

structure SLAVE_DELAY_TIMING_DATA_NP_rec_t where
  sequenceId : UInt16
  delayOriginTimestamp : Timestamp_t
  totalCorrectionField : TimeInterval_t
  delayResponseTimestamp : Timestamp_t
  deriving Inhabited

structure SLAVE_DELAY_TIMING_DATA_NP_t where
  sourcePortIdentity : PortIdentity_t
  list : List SLAVE_DELAY_TIMING_DATA_NP_rec_t
  deriving Inhabited

def SLAVE_RX_SYNC_TIMING_DATA_rec_t.size : Nat := 6 + TimeInterval_t.size + 2 * Timestamp_t.size
def SLAVE_RX_SYNC_COMPUTED_DATA_rec_t.size : Nat := 6 + 2 * TimeInterval_t.size
def SLAVE_TX_EVENT_TIMESTAMPS_rec_t.size : Nat := 2 + Timestamp_t.size
def SLAVE_DELAY_TIMING_DATA_NP_rec_t.size : Nat := 2 + TimeInterval_t.size + 2 * Timestamp_t.size

/-- The structure behind a signaling TLV pointer. -/
inductive BaseSigTlv where
  | ORGANIZATION_EXTENSION (d : ORGANIZATION_EXTENSION_t)
  | PATH_TRACE (d : PATH_TRACE_t)
  | ALTERNATE_TIME_OFFSET_INDICATOR (d : ALTERNATE_TIME_OFFSET_INDICATOR_t)
  | ENHANCED_ACCURACY_METRICS (d : ENHANCED_ACCURACY_METRICS_t)
  | L1_SYNC (d : L1_SYNC_t)
  | PORT_COMMUNICATION_AVAILABILITY (d : PORT_COMMUNICATION_AVAILABILITY_t)
  | PROTOCOL_ADDRESS (d : PROTOCOL_ADDRESS_t)
  | SLAVE_RX_SYNC_TIMING_DATA (d : SLAVE_RX_SYNC_TIMING_DATA_t)
  | SLAVE_RX_SYNC_COMPUTED_DATA (d : SLAVE_RX_SYNC_COMPUTED_DATA_t)
  | SLAVE_TX_EVENT_TIMESTAMPS (d : SLAVE_TX_EVENT_TIMESTAMPS_t)
  | CUMULATIVE_RATE_RATIO (d : CUMULATIVE_RATE_RATIO_t)
  | SLAVE_DELAY_TIMING_DATA_NP (d : SLAVE_DELAY_TIMING_DATA_NP_t)
  | MANAGEMENT (tlv_id : MngVals) (tlvData : TlvPtr)

/-! ## Process functions -/

def ORGANIZATION_EXTENSION_f (d : ORGANIZATION_EXTENSION_t) : P ORGANIZATION_EXTENSION_t := do
  let organizationId ← proc d.organizationId
  let organizationSubType ← proc d.organizationSubType
  let dataField ← procBinary d.dataField (UInt16.ofNat (← remaining).toNat)
  return { organizationId, organizationSubType, dataField }

def PATH_TRACE_f (d : PATH_TRACE_t) : P PATH_TRACE_t :=
  .mk <$> vectorO ClockIdentity_t.size d.pathSequence

def ALTERNATE_TIME_OFFSET_INDICATOR_f (d : ALTERNATE_TIME_OFFSET_INDICATOR_t) :
    P ALTERNATE_TIME_OFFSET_INDICATOR_t := do
  let keyField ← proc d.keyField
  let currentOffset ← proc d.currentOffset
  let jumpSeconds ← proc d.jumpSeconds
  let timeOfNextJump ← proc d.timeOfNextJump
  let displayName ← proc d.displayName
  return { keyField, currentOffset, jumpSeconds, timeOfNextJump, displayName }

def ENHANCED_ACCURACY_METRICS_f (d : ENHANCED_ACCURACY_METRICS_t) : P ENHANCED_ACCURACY_METRICS_t := do
  let bcHopCount ← proc d.bcHopCount
  let tcHopCount ← proc d.tcHopCount
  procReserved
  procReserved
  let maxGmInaccuracy ← proc d.maxGmInaccuracy
  let varGmInaccuracy ← proc d.varGmInaccuracy
  let maxTransientInaccuracy ← proc d.maxTransientInaccuracy
  let varTransientInaccuracy ← proc d.varTransientInaccuracy
  let maxDynamicInaccuracy ← proc d.maxDynamicInaccuracy
  let varDynamicInaccuracy ← proc d.varDynamicInaccuracy
  let maxStaticInstanceInaccuracy ← proc d.maxStaticInstanceInaccuracy
  let varStaticInstanceInaccuracy ← proc d.varStaticInstanceInaccuracy
  let maxStaticMediumInaccuracy ← proc d.maxStaticMediumInaccuracy
  let varStaticMediumInaccuracy ← proc d.varStaticMediumInaccuracy
  return { bcHopCount, tcHopCount, maxGmInaccuracy, varGmInaccuracy, maxTransientInaccuracy,
           varTransientInaccuracy, maxDynamicInaccuracy, varDynamicInaccuracy, maxStaticInstanceInaccuracy,
           varStaticInstanceInaccuracy, maxStaticMediumInaccuracy, varStaticMediumInaccuracy }

def L1_SYNC_f (d : L1_SYNC_t) : P L1_SYNC_t := do
  let flags1 ← procFlags d.flags1 0xf
  let flags2 ← procFlags d.flags2 0x7
  return { flags1, flags2 }

def PORT_COMMUNICATION_AVAILABILITY_f (d : PORT_COMMUNICATION_AVAILABILITY_t) :
    P PORT_COMMUNICATION_AVAILABILITY_t := do
  let syncMessageAvailability ← procFlags d.syncMessageAvailability 0xf
  let delayRespMessageAvailability ← procFlags d.delayRespMessageAvailability 0xf
  return { syncMessageAvailability, delayRespMessageAvailability }

def PROTOCOL_ADDRESS_f (d : PROTOCOL_ADDRESS_t) : P PROTOCOL_ADDRESS_t :=
  .mk <$> proc d.portProtocolAddress

def SLAVE_RX_SYNC_TIMING_DATA_rec_t.proc (d : SLAVE_RX_SYNC_TIMING_DATA_rec_t) :
    P SLAVE_RX_SYNC_TIMING_DATA_rec_t := do
  let sequenceId ← LibPmc.proc d.sequenceId
  let syncOriginTimestamp ← LibPmc.proc d.syncOriginTimestamp
  let totalCorrectionField ← LibPmc.proc d.totalCorrectionField
  let scaledCumulativeRateOffset ← LibPmc.proc d.scaledCumulativeRateOffset
  let syncEventIngressTimestamp ← LibPmc.proc d.syncEventIngressTimestamp
  return { sequenceId, syncOriginTimestamp, totalCorrectionField, scaledCumulativeRateOffset,
           syncEventIngressTimestamp }

instance : Proc SLAVE_RX_SYNC_TIMING_DATA_rec_t := ⟨SLAVE_RX_SYNC_TIMING_DATA_rec_t.proc⟩

def SLAVE_RX_SYNC_TIMING_DATA_f (d : SLAVE_RX_SYNC_TIMING_DATA_t) : P SLAVE_RX_SYNC_TIMING_DATA_t := do
  let syncSourcePortIdentity ← proc d.syncSourcePortIdentity
  let list ← vectorO SLAVE_RX_SYNC_TIMING_DATA_rec_t.size d.list
  return { syncSourcePortIdentity, list }

def SLAVE_RX_SYNC_COMPUTED_DATA_rec_t.proc (d : SLAVE_RX_SYNC_COMPUTED_DATA_rec_t) :
    P SLAVE_RX_SYNC_COMPUTED_DATA_rec_t := do
  let sequenceId ← LibPmc.proc d.sequenceId
  let offsetFromMaster ← LibPmc.proc d.offsetFromMaster
  let meanPathDelay ← LibPmc.proc d.meanPathDelay
  let scaledNeighborRateRatio ← LibPmc.proc d.scaledNeighborRateRatio
  return { sequenceId, offsetFromMaster, meanPathDelay, scaledNeighborRateRatio }

instance : Proc SLAVE_RX_SYNC_COMPUTED_DATA_rec_t := ⟨SLAVE_RX_SYNC_COMPUTED_DATA_rec_t.proc⟩

def SLAVE_RX_SYNC_COMPUTED_DATA_f (d : SLAVE_RX_SYNC_COMPUTED_DATA_t) : P SLAVE_RX_SYNC_COMPUTED_DATA_t := do
  let sourcePortIdentity ← proc d.sourcePortIdentity
  let computedFlags ← procFlags d.computedFlags 0x7
  procReserved
  let list ← vectorO SLAVE_RX_SYNC_COMPUTED_DATA_rec_t.size d.list
  return { sourcePortIdentity, computedFlags, list }

def SLAVE_TX_EVENT_TIMESTAMPS_rec_t.proc (d : SLAVE_TX_EVENT_TIMESTAMPS_rec_t) :
    P SLAVE_TX_EVENT_TIMESTAMPS_rec_t := do
  let sequenceId ← LibPmc.proc d.sequenceId
  let eventEgressTimestamp ← LibPmc.proc d.eventEgressTimestamp
  return { sequenceId, eventEgressTimestamp }

instance : Proc SLAVE_TX_EVENT_TIMESTAMPS_rec_t := ⟨SLAVE_TX_EVENT_TIMESTAMPS_rec_t.proc⟩

def SLAVE_TX_EVENT_TIMESTAMPS_f (d : SLAVE_TX_EVENT_TIMESTAMPS_t) : P SLAVE_TX_EVENT_TIMESTAMPS_t := do
  let sourcePortIdentity ← proc d.sourcePortIdentity
  let eventMessageType ← proc d.eventMessageType
  procReserved
  let list ← vectorO SLAVE_TX_EVENT_TIMESTAMPS_rec_t.size d.list
  return { sourcePortIdentity, eventMessageType, list }

def CUMULATIVE_RATE_RATIO_f (d : CUMULATIVE_RATE_RATIO_t) : P CUMULATIVE_RATE_RATIO_t :=
  .mk <$> proc d.scaledCumulativeRateRatio

def SLAVE_DELAY_TIMING_DATA_NP_rec_t.proc (d : SLAVE_DELAY_TIMING_DATA_NP_rec_t) :
    P SLAVE_DELAY_TIMING_DATA_NP_rec_t := do
  let sequenceId ← LibPmc.proc d.sequenceId
  let delayOriginTimestamp ← LibPmc.proc d.delayOriginTimestamp
  let totalCorrectionField ← LibPmc.proc d.totalCorrectionField
  let delayResponseTimestamp ← LibPmc.proc d.delayResponseTimestamp
  return { sequenceId, delayOriginTimestamp, totalCorrectionField, delayResponseTimestamp }

instance : Proc SLAVE_DELAY_TIMING_DATA_NP_rec_t := ⟨SLAVE_DELAY_TIMING_DATA_NP_rec_t.proc⟩

def SLAVE_DELAY_TIMING_DATA_NP_f (d : SLAVE_DELAY_TIMING_DATA_NP_t) : P SLAVE_DELAY_TIMING_DATA_NP_t := do
  let sourcePortIdentity ← proc d.sourcePortIdentity
  let list ← vectorO SLAVE_DELAY_TIMING_DATA_NP_rec_t.size d.list
  return { sourcePortIdentity, list }

/-! ## By id and by type -/

/-- A MANAGEMENT TLV in a signaling message; empty and unknown ones are ignored.
The pointer passed to `call_tlv_data` is not initialised. -/
def MANAGEMENT_f (spec : ImplementSpecific) : P (Option BaseSigTlv) := do
  let managementId ← proc (0 : UInt16)
  let l ← remaining
  match findTlvId managementId spec with
  | some tlv_id => if 0 < l then return some (.MANAGEMENT tlv_id (← callTlvData tlv_id .wild)) else return none
  | none => return none

/-- The switch of `Message::parseSig` over the TLV type. -/
def procSigTlv (spec : ImplementSpecific) (tlvType : UInt16) : P (Option BaseSigTlv) :=
  if tlvType = TlvType.ORGANIZATION_EXTENSION_PROPAGATE ∨ tlvType = TlvType.ORGANIZATION_EXTENSION_DO_NOT_PROPAGATE ∨
      tlvType = TlvType.ORGANIZATION_EXTENSION then
    (fun d => some (.ORGANIZATION_EXTENSION d)) <$> ORGANIZATION_EXTENSION_f default
  else if tlvType = TlvType.PATH_TRACE then
    (fun d => some (.PATH_TRACE d)) <$> PATH_TRACE_f default
  else if tlvType = TlvType.ALTERNATE_TIME_OFFSET_INDICATOR then
    (fun d => some (.ALTERNATE_TIME_OFFSET_INDICATOR d)) <$> ALTERNATE_TIME_OFFSET_INDICATOR_f default
  else if tlvType = TlvType.ENHANCED_ACCURACY_METRICS then
    (fun d => some (.ENHANCED_ACCURACY_METRICS d)) <$> ENHANCED_ACCURACY_METRICS_f default
  else if tlvType = TlvType.L1_SYNC then
    (fun d => some (.L1_SYNC d)) <$> L1_SYNC_f default
  else if tlvType = TlvType.PORT_COMMUNICATION_AVAILABILITY then
    (fun d => some (.PORT_COMMUNICATION_AVAILABILITY d)) <$> PORT_COMMUNICATION_AVAILABILITY_f default
  else if tlvType = TlvType.PROTOCOL_ADDRESS then
    (fun d => some (.PROTOCOL_ADDRESS d)) <$> PROTOCOL_ADDRESS_f default
  else if tlvType = TlvType.SLAVE_RX_SYNC_TIMING_DATA then
    (fun d => some (.SLAVE_RX_SYNC_TIMING_DATA d)) <$> SLAVE_RX_SYNC_TIMING_DATA_f default
  else if tlvType = TlvType.SLAVE_RX_SYNC_COMPUTED_DATA then
    (fun d => some (.SLAVE_RX_SYNC_COMPUTED_DATA d)) <$> SLAVE_RX_SYNC_COMPUTED_DATA_f default
  else if tlvType = TlvType.SLAVE_TX_EVENT_TIMESTAMPS then
    (fun d => some (.SLAVE_TX_EVENT_TIMESTAMPS d)) <$> SLAVE_TX_EVENT_TIMESTAMPS_f default
  else if tlvType = TlvType.CUMULATIVE_RATE_RATIO then
    (fun d => some ( BaseSigTlv.CUMULATIVE_RATE_RATIO d)) <$> CUMULATIVE_RATE_RATIO_f default
  else if tlvType = TlvType.MANAGEMENT then MANAGEMENT_f spec
  else if tlvType = TlvType.SLAVE_DELAY_TIMING_DATA_NP ∧ spec = .linuxptp then
    (fun d => some (.SLAVE_DELAY_TIMING_DATA_NP d)) <$> SLAVE_DELAY_TIMING_DATA_NP_f default
  else pure none

end LibPmc
