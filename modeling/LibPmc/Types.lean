import LibPmc.Ids
/-!
# The structures

The data of `msg.h` with its members in order, as for the TLVs below. Open
enumerations (clock accuracy, port state, network protocol, ...) are the
integers they are declared over: a received octet is cast to them unchecked.
Texts and binaries are lists of octets of any length, beside the length member
the code keeps for them. The TLVs' `flagsMask` members are constants and stand in
the process functions.
-/
namespace LibPmc

open Wire

/-! ## Common structures -/

structure TimeInterval_t where
  scaledNanoseconds : Int64
  deriving Inhabited

/-- `secondsField` is a 48 bits integer in a 64 bits member. -/
structure Timestamp_t where
  secondsField : UInt64
  nanosecondsField : UInt32
  deriving Inhabited

structure ClockIdentity_t where
  v : Octets 8
  deriving Inhabited, DecidableEq

structure PortIdentity_t where
  clockIdentity : ClockIdentity_t
  portNumber : UInt16
  deriving Inhabited, DecidableEq

structure PortAddress_t where
  networkProtocol : UInt16
  addressLength : UInt16
  addressField : List UInt8
  deriving Inhabited

structure ClockQuality_t where
  clockClass : UInt8
  clockAccuracy : UInt8
  offsetScaledLogVariance : UInt16
  deriving Inhabited

structure PTPText_t where
  lengthField : UInt8
  textField : List UInt8
  deriving Inhabited

structure FaultRecord_t where
  faultRecordLength : UInt16
  faultTime : Timestamp_t
  severityCode : UInt8
  faultName : PTPText_t
  faultValue : PTPText_t
  faultDescription : PTPText_t
  deriving Inhabited

structure AcceptableMaster_t where
  acceptablePortIdentity : PortIdentity_t
  alternatePriority1 : UInt8
  deriving Inhabited

/-- A double, as its IEEE 754 pattern. -/
structure Float64_t where
  bits : UInt64
  deriving Inhabited

/-- The message counters of PORT_STATS_NP, one for each of the 16 message types. -/
abbrev Counters := {l : List UInt64 // l.length = 16}

instance : Inhabited Counters := ⟨⟨List.replicate 16 0, by simp⟩⟩

def TimeInterval_t.size : Nat := 8
def Timestamp_t.size : Nat := 10
def ClockIdentity_t.size : Nat := 8
def PortIdentity_t.size : Nat := 2 + ClockIdentity_t.size
def PortAddress_t.size (d : PortAddress_t) : Nat := 4 + d.addressField.length
def PTPText_t.size (d : PTPText_t) : Nat := 1 + d.textField.length
def FaultRecord_t.size (d : FaultRecord_t) : Nat :=
  3 + Timestamp_t.size + d.faultName.size + d.faultValue.size + d.faultDescription.size
def AcceptableMaster_t.size : Nat := 1 + PortIdentity_t.size

end LibPmc
