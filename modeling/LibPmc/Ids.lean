import LibPmc.Wire.Prog
/-!
# Codes and the management id table

The enumerations of `msg.h` that parsing and building depend on, and the table
of management ids (`ids.h`): the wire value, the allowed actions, the dataField
size and which functions an id has. TLV types and the other wire codes stay
numbers, since a message can hold any value there.
-/
namespace LibPmc

/-- Parsing and building errors. -/
inductive MngParseError where
  | OK
  | MSG
  | SIG
  | INVALID_ID
  | INVALID_TLV
  | SIZE_MISS
  | TOO_SMALL
  | SIZE
  | VAL
  | HEADER
  | ACTION
  | UNSUPPORT
  | MEM
  deriving DecidableEq, Repr

/-- PTP management action. -/
inductive ActionField where
  | GET
  | SET
  | RESPONSE
  | COMMAND
  | ACKNOWLEDGE
  deriving DecidableEq, Repr, Inhabited

def ActionField.val : ActionField → UInt8
  | GET => 0
  | SET => 1
  | RESPONSE => 2
  | COMMAND => 3
  | ACKNOWLEDGE => 4

/-- The implementation-specific management TLVs in use. -/
inductive ImplementSpecific where
  | noImplementSpecific
  | linuxptp
  deriving DecidableEq, Repr, Inhabited

/-! ## Message and TLV types -/

namespace MsgType
def Signaling : UInt8 := 0xc
def Management : UInt8 := 0xd
end MsgType

namespace TlvType
def MANAGEMENT : UInt16 := 0x0001
def MANAGEMENT_ERROR_STATUS : UInt16 := 0x0002
def ORGANIZATION_EXTENSION : UInt16 := 0x0003
def PATH_TRACE : UInt16 := 0x0008
def ALTERNATE_TIME_OFFSET_INDICATOR : UInt16 := 0x0009
def ORGANIZATION_EXTENSION_PROPAGATE : UInt16 := 0x4000
def ENHANCED_ACCURACY_METRICS : UInt16 := 0x4001
def ORGANIZATION_EXTENSION_DO_NOT_PROPAGATE : UInt16 := 0x8000
def L1_SYNC : UInt16 := 0x8001
def PORT_COMMUNICATION_AVAILABILITY : UInt16 := 0x8002
def PROTOCOL_ADDRESS : UInt16 := 0x8003
def SLAVE_RX_SYNC_TIMING_DATA : UInt16 := 0x8004
def SLAVE_RX_SYNC_COMPUTED_DATA : UInt16 := 0x8005
def SLAVE_TX_EVENT_TIMESTAMPS : UInt16 := 0x8006
def CUMULATIVE_RATE_RATIO : UInt16 := 0x8007
def SLAVE_DELAY_TIMING_DATA_NP : UInt16 := 0x7f00
end TlvType

/-! ## The management ids -/

inductive MngVals where
  | NULL_PTP_MANAGEMENT
  | CLOCK_DESCRIPTION
  | USER_DESCRIPTION
  | SAVE_IN_NON_VOLATILE_STORAGE
  | RESET_NON_VOLATILE_STORAGE
  | INITIALIZE
  | FAULT_LOG
  | FAULT_LOG_RESET
  | DEFAULT_DATA_SET
  | CURRENT_DATA_SET
  | PARENT_DATA_SET
  | TIME_PROPERTIES_DATA_SET
  | PORT_DATA_SET
  | PRIORITY1
  | PRIORITY2
  | DOMAIN
  | SLAVE_ONLY
  | LOG_ANNOUNCE_INTERVAL
  | ANNOUNCE_RECEIPT_TIMEOUT
  | LOG_SYNC_INTERVAL
  | VERSION_NUMBER
  | ENABLE_PORT
  | DISABLE_PORT
  | TIME
  | CLOCK_ACCURACY
  | UTC_PROPERTIES
  | TRACEABILITY_PROPERTIES
  | TIMESCALE_PROPERTIES
  | UNICAST_NEGOTIATION_ENABLE
  | PATH_TRACE_LIST
  | PATH_TRACE_ENABLE
  | GRANDMASTER_CLUSTER_TABLE
  | UNICAST_MASTER_TABLE
  | UNICAST_MASTER_MAX_TABLE_SIZE
  | ACCEPTABLE_MASTER_TABLE
  | ACCEPTABLE_MASTER_TABLE_ENABLED
  | ACCEPTABLE_MASTER_MAX_TABLE_SIZE
  | ALTERNATE_MASTER
  | ALTERNATE_TIME_OFFSET_ENABLE
  | ALTERNATE_TIME_OFFSET_NAME
  | ALTERNATE_TIME_OFFSET_MAX_KEY
  | ALTERNATE_TIME_OFFSET_PROPERTIES
  | TRANSPARENT_CLOCK_PORT_DATA_SET
  | LOG_MIN_PDELAY_REQ_INTERVAL
  | TRANSPARENT_CLOCK_DEFAULT_DATA_SET
  | PRIMARY_DOMAIN
  | DELAY_MECHANISM
  | EXTERNAL_PORT_CONFIGURATION_ENABLED
  | MASTER_ONLY
  | HOLDOVER_UPGRADE_ENABLE
  | EXT_PORT_CONFIG_PORT_DATA_SET
  | TIME_STATUS_NP
  | GRANDMASTER_SETTINGS_NP
  | PORT_DATA_SET_NP
  | SUBSCRIBE_EVENTS_NP
  | PORT_PROPERTIES_NP
  | PORT_STATS_NP
  | SYNCHRONIZATION_UNCERTAIN_NP
  deriving DecidableEq, Repr, Inhabited

/-- The bit of an action in the allowed actions. -/
def ActionField.bit (a : ActionField) : UInt8 := 1 <<< a.val

def aGET : UInt8 := ActionField.GET.bit
def aSET : UInt8 := ActionField.SET.bit
def aCOMMAND : UInt8 := ActionField.COMMAND.bit
/-- Outside the bits of the actions: the id is one of linuxptp's own. -/
def aUSE_LINUXPTP : UInt8 := (1 : UInt8) <<< 5
def useGSC : UInt8 := aGET ||| aSET ||| aCOMMAND
def useGS : UInt8 := aGET ||| aSET
def useGL : UInt8 := aGET ||| aUSE_LINUXPTP
def useGSL : UInt8 := aGET ||| aSET ||| aUSE_LINUXPTP

/-- Which functions an id has: none, parse, parse and build, and with `S` one
that calculates a variable size. -/
inductive IdFuncs where
  | NA
  | UF
  | UFS
  | UFB
  | UFBS
  deriving DecidableEq, Repr

/-- Properties of a management id. The size is -2 for a dataField of variable
length, 0 for none. -/
structure ManagementId where
  value : UInt16
  allowed : UInt8
  size : Int
  funcs : IdFuncs

def mngAllVals : MngVals → ManagementId
  | .NULL_PTP_MANAGEMENT => ⟨0x0000, useGSC, 0, .NA⟩
  | .CLOCK_DESCRIPTION => ⟨0x0001, aGET, -2, .UFS⟩
  | .USER_DESCRIPTION => ⟨0x0002, useGS, -2, .UFBS⟩
  | .SAVE_IN_NON_VOLATILE_STORAGE => ⟨0x0003, aCOMMAND, 0, .NA⟩
  | .RESET_NON_VOLATILE_STORAGE => ⟨0x0004, aCOMMAND, 0, .NA⟩
  | .INITIALIZE => ⟨0x0005, aCOMMAND, 2, .UFB⟩
  | .FAULT_LOG => ⟨0x0006, aGET, -2, .UFS⟩
  | .FAULT_LOG_RESET => ⟨0x0007, aCOMMAND, 0, .NA⟩
  | .DEFAULT_DATA_SET => ⟨0x2000, aGET, 20, .UF⟩
  | .CURRENT_DATA_SET => ⟨0x2001, aGET, 18, .UF⟩
  | .PARENT_DATA_SET => ⟨0x2002, aGET, 32, .UF⟩
  | .TIME_PROPERTIES_DATA_SET => ⟨0x2003, aGET, 4, .UF⟩
  | .PORT_DATA_SET => ⟨0x2004, aGET, 26, .UF⟩
  | .PRIORITY1 => ⟨0x2005, useGS, 2, .UFB⟩
  | .PRIORITY2 => ⟨0x2006, useGS, 2, .UFB⟩
  | .DOMAIN => ⟨0x2007, useGS, 2, .UFB⟩
  | .SLAVE_ONLY => ⟨0x2008, useGS, 2, .UFB⟩
  | .LOG_ANNOUNCE_INTERVAL => ⟨0x2009, useGS, 2, .UFB⟩
  | .ANNOUNCE_RECEIPT_TIMEOUT => ⟨0x200a, useGS, 2, .UFB⟩
  | .LOG_SYNC_INTERVAL => ⟨0x200b, useGS, 2, .UFB⟩
  | .VERSION_NUMBER => ⟨0x200c, useGS, 2, .UFB⟩
  | .ENABLE_PORT => ⟨0x200d, aCOMMAND, 0, .NA⟩
  | .DISABLE_PORT => ⟨0x200e, aCOMMAND, 0, .NA⟩
  | .TIME => ⟨0x200f, useGS, 10, .UFB⟩
  | .CLOCK_ACCURACY => ⟨0x2010, useGS, 2, .UFB⟩
  | .UTC_PROPERTIES => ⟨0x2011, useGS, 4, .UFB⟩
  | .TRACEABILITY_PROPERTIES => ⟨0x2012, useGS, 2, .UFB⟩
  | .TIMESCALE_PROPERTIES => ⟨0x2013, useGS, 2, .UFB⟩
  | .UNICAST_NEGOTIATION_ENABLE => ⟨0x2014, useGS, 2, .UFB⟩
  | .PATH_TRACE_LIST => ⟨0x2015, aGET, -2, .UFS⟩
  | .PATH_TRACE_ENABLE => ⟨0x2016, useGS, 2, .UFB⟩
  | .GRANDMASTER_CLUSTER_TABLE => ⟨0x2017, useGS, -2, .UFBS⟩
  | .UNICAST_MASTER_TABLE => ⟨0x2018, useGS, -2, .UFBS⟩
  | .UNICAST_MASTER_MAX_TABLE_SIZE => ⟨0x2019, aGET, 2, .UF⟩
  | .ACCEPTABLE_MASTER_TABLE => ⟨0x201a, useGS, -2, .UFBS⟩
  | .ACCEPTABLE_MASTER_TABLE_ENABLED => ⟨0x201b, useGS, 2, .UFB⟩
  | .ACCEPTABLE_MASTER_MAX_TABLE_SIZE => ⟨0x201c, aGET, 2, .UF⟩
  | .ALTERNATE_MASTER => ⟨0x201d, useGS, 4, .UFB⟩
  | .ALTERNATE_TIME_OFFSET_ENABLE => ⟨0x201e, useGS, 2, .UFB⟩
  | .ALTERNATE_TIME_OFFSET_NAME => ⟨0x201f, useGS, -2, .UFBS⟩
  | .ALTERNATE_TIME_OFFSET_MAX_KEY => ⟨0x2020, aGET, 2, .UF⟩
  | .ALTERNATE_TIME_OFFSET_PROPERTIES => ⟨0x2021, useGS, 16, .UFB⟩
  | .TRANSPARENT_CLOCK_PORT_DATA_SET => ⟨0x4001, aGET, 20, .UF⟩
  | .LOG_MIN_PDELAY_REQ_INTERVAL => ⟨0x6001, useGS, 2, .UFB⟩
  | .TRANSPARENT_CLOCK_DEFAULT_DATA_SET => ⟨0x4000, aGET, 12, .UF⟩
  | .PRIMARY_DOMAIN => ⟨0x4002, useGS, 2, .UFB⟩
  | .DELAY_MECHANISM => ⟨0x6000, useGS, 2, .UFB⟩
  | .EXTERNAL_PORT_CONFIGURATION_ENABLED => ⟨0x3000, useGS, 2, .UFB⟩
  | .MASTER_ONLY => ⟨0x3001, useGS, 2, .UFB⟩
  | .HOLDOVER_UPGRADE_ENABLE => ⟨0x3002, useGS, 2, .UFB⟩
  | .EXT_PORT_CONFIG_PORT_DATA_SET => ⟨0x3003, useGS, 2, .UFB⟩
  | .TIME_STATUS_NP => ⟨0xc000, useGL, 50, .UF⟩
  | .GRANDMASTER_SETTINGS_NP => ⟨0xc001, useGSL, 8, .UFB⟩
  | .PORT_DATA_SET_NP => ⟨0xc002, useGSL, 8, .UFB⟩
  | .SUBSCRIBE_EVENTS_NP => ⟨0xc003, useGSL, 66, .UFB⟩
  | .PORT_PROPERTIES_NP => ⟨0xc004, useGL, -2, .UFS⟩
  | .PORT_STATS_NP => ⟨0xc005, useGL, 266, .UF⟩
  | .SYNCHRONIZATION_UNCERTAIN_NP => ⟨0xc006, useGSL, 2, .UFB⟩

/-- The ids in the order of the table. -/
def MngVals.all : List MngVals :=
  [ .NULL_PTP_MANAGEMENT, .CLOCK_DESCRIPTION, .USER_DESCRIPTION,
    .SAVE_IN_NON_VOLATILE_STORAGE, .RESET_NON_VOLATILE_STORAGE, .INITIALIZE,
    .FAULT_LOG, .FAULT_LOG_RESET, .DEFAULT_DATA_SET,
    .CURRENT_DATA_SET, .PARENT_DATA_SET, .TIME_PROPERTIES_DATA_SET,
    .PORT_DATA_SET, .PRIORITY1, .PRIORITY2,
    .DOMAIN, .SLAVE_ONLY, .LOG_ANNOUNCE_INTERVAL,
    .ANNOUNCE_RECEIPT_TIMEOUT, .LOG_SYNC_INTERVAL, .VERSION_NUMBER,
    .ENABLE_PORT, .DISABLE_PORT, .TIME,
    .CLOCK_ACCURACY, .UTC_PROPERTIES, .TRACEABILITY_PROPERTIES,
    .TIMESCALE_PROPERTIES, .UNICAST_NEGOTIATION_ENABLE, .PATH_TRACE_LIST,
    .PATH_TRACE_ENABLE, .GRANDMASTER_CLUSTER_TABLE, .UNICAST_MASTER_TABLE,
    .UNICAST_MASTER_MAX_TABLE_SIZE, .ACCEPTABLE_MASTER_TABLE, .ACCEPTABLE_MASTER_TABLE_ENABLED,
    .ACCEPTABLE_MASTER_MAX_TABLE_SIZE, .ALTERNATE_MASTER, .ALTERNATE_TIME_OFFSET_ENABLE,
    .ALTERNATE_TIME_OFFSET_NAME, .ALTERNATE_TIME_OFFSET_MAX_KEY, .ALTERNATE_TIME_OFFSET_PROPERTIES,
    .TRANSPARENT_CLOCK_PORT_DATA_SET, .LOG_MIN_PDELAY_REQ_INTERVAL, .TRANSPARENT_CLOCK_DEFAULT_DATA_SET,
    .PRIMARY_DOMAIN, .DELAY_MECHANISM, .EXTERNAL_PORT_CONFIGURATION_ENABLED,
    .MASTER_ONLY, .HOLDOVER_UPGRADE_ENABLE, .EXT_PORT_CONFIG_PORT_DATA_SET,
    .TIME_STATUS_NP, .GRANDMASTER_SETTINGS_NP, .PORT_DATA_SET_NP,
    .SUBSCRIBE_EVENTS_NP, .PORT_PROPERTIES_NP, .PORT_STATS_NP,
    .SYNCHRONIZATION_UNCERTAIN_NP ]

theorem MngVals.mem_all (id : MngVals) : id ∈ MngVals.all := by cases id <;> decide

/-- The id with a received managementId value; linuxptp's own only where they are in use. -/
def findTlvId (value : UInt16) (spec : ImplementSpecific) : Option MngVals :=
  match MngVals.all.find? (fun id => (mngAllVals id).value = value) with
  | some id =>
    if spec ≠ .linuxptp ∧ (mngAllVals id).allowed &&& aUSE_LINUXPTP ≠ 0 then none else some id
  | none => none

/-- An id is found under its own value. -/
theorem findTlvId_value (id : MngVals) : findTlvId (mngAllVals id).value .linuxptp = some id := by
  cases id <;> decide

end LibPmc
