import LibPmc.Types
import LibPmc.Wire.Trip
/-!
# The overloads of `Message::proc`

A process function takes a value and gives it back as it leaves it: the same text
builds and parses. What a function returns `true` on is a failure here.
-/
namespace LibPmc

open Wire Wire.Prog

/-- A process function's run: it fails with one of the message's errors. -/
abbrev P := Prog MngParseError

/-- The overloads of `Message::proc`. -/
class Proc (α : Type) where
  proc : α → P α

export Proc (proc)

/-! ## Integers, texts and arrays -/

instance {α : Type} [Word α] : Proc α := ⟨word⟩

instance {n : Nat} : Proc (Octets n) := ⟨array⟩

def UINT48_MAX : UInt64 := 0xffffffffffff

/-- An unsigned 48 bits integer, as its high 16 and its low 32 bits. -/
def proc48 (val : UInt64) : P UInt64 := do
  let build ← building
  if build ∧ val > UINT48_MAX then fail (some .VAL)
  else
    let high ← proc (val >>> 32).toUInt16
    let low ← proc val.toUInt32
    return if build then val else low.toUInt64 ||| (high.toUInt64 <<< 32)

/-- A double goes through `proc(uint64_t&)`, which moves past it, and is then
moved past once more. The host's byte order does not matter: the three ways the
code has for it all take the pattern high octet first. -/
def procFloat64 (val : Float64_t) : P Float64_t := do
  let num ← proc val.bits
  move 8 (pure ⟨num⟩)

instance : Proc Float64_t := ⟨procFloat64⟩

/-- The octets of a text. On build the length variable is ignored. -/
def procString (str : List UInt8) (len : UInt16) : P (List UInt8) := do
  let len := if ← building then UInt16.ofNat str.length else len
  xfer len.toNat (str.take len.toNat) (pure str) (fun o => pure o.val)

/-- As `procString`, but `Binary::copy` copies all of the octets. -/
def procBinary (bin : List UInt8) (len : UInt16) : P (List UInt8) := do
  let len := if ← building then UInt16.ofNat bin.length else len
  xfer len.toNat bin (pure bin) (fun o => pure o.val)

/-- `proc(reserved)`: the build clears `reserved` before it calls a process
function, and an octet parsed into it is not looked at. -/
def procReserved : P Unit := xfer 1 [0] (pure ()) (fun _ => pure ())

def procFlags (flags flagsMask : UInt8) : P UInt8 := do
  let build ← building
  -- a single flag may have any positive value
  proc (if build then (if flagsMask > 1 then flags &&& flagsMask else if flags > 0 then 1 else flags) else flags)

/-- `procLe` on each of the message counters. -/
def procCounters (c : Counters) : P Counters :=
  (fun r => ⟨r.val, r.2.trans c.2⟩) <$> each wordLe c.val

/-! ## Composite values -/

instance : Proc TimeInterval_t := ⟨fun v => .mk <$> proc v.scaledNanoseconds⟩

def Timestamp_t.proc (d : Timestamp_t) : P Timestamp_t := do
  let secondsField ← proc48 d.secondsField
  let nanosecondsField ← LibPmc.proc d.nanosecondsField
  return { secondsField, nanosecondsField }

instance : Proc Timestamp_t := ⟨Timestamp_t.proc⟩

instance : Proc ClockIdentity_t := ⟨fun v => .mk <$> proc v.v⟩

def PortIdentity_t.proc (d : PortIdentity_t) : P PortIdentity_t := do
  let clockIdentity ← LibPmc.proc d.clockIdentity
  let portNumber ← LibPmc.proc d.portNumber
  return { clockIdentity, portNumber }

instance : Proc PortIdentity_t := ⟨PortIdentity_t.proc⟩

def PortAddress_t.proc (d : PortAddress_t) : P PortAddress_t := do
  let networkProtocol ← LibPmc.proc d.networkProtocol
  let addressLength ← LibPmc.proc (UInt16.ofNat d.addressField.length)
  let addressField ← procBinary d.addressField addressLength
  return { networkProtocol, addressLength, addressField }

instance : Proc PortAddress_t := ⟨PortAddress_t.proc⟩

def ClockQuality_t.proc (d : ClockQuality_t) : P ClockQuality_t := do
  let clockClass ← LibPmc.proc d.clockClass
  let clockAccuracy ← LibPmc.proc d.clockAccuracy
  let offsetScaledLogVariance ← LibPmc.proc d.offsetScaledLogVariance
  return { clockClass, clockAccuracy, offsetScaledLogVariance }

instance : Proc ClockQuality_t := ⟨ClockQuality_t.proc⟩

def PTPText_t.proc (d : PTPText_t) : P PTPText_t := do
  let lengthField ← LibPmc.proc (UInt8.ofNat d.textField.length)
  let textField ← procString d.textField lengthField.toUInt16
  return { lengthField, textField }

instance : Proc PTPText_t := ⟨PTPText_t.proc⟩

def FaultRecord_t.proc (d : FaultRecord_t) : P FaultRecord_t := do
  let faultRecordLength ← LibPmc.proc d.faultRecordLength
  let faultTime ← LibPmc.proc d.faultTime
  let severityCode ← LibPmc.proc d.severityCode
  let faultName ← LibPmc.proc d.faultName
  let faultValue ← LibPmc.proc d.faultValue
  let faultDescription ← LibPmc.proc d.faultDescription
  if faultRecordLength.toNat ≠ 16 + faultName.lengthField.toNat + faultValue.lengthField.toNat +
      faultDescription.lengthField.toNat then fail (some .SIZE_MISS)
  else return { faultRecordLength, faultTime, severityCode, faultName, faultValue, faultDescription }

instance : Proc FaultRecord_t := ⟨FaultRecord_t.proc⟩

def AcceptableMaster_t.proc (d : AcceptableMaster_t) : P AcceptableMaster_t := do
  let acceptablePortIdentity ← LibPmc.proc d.acceptablePortIdentity
  let alternatePriority1 ← LibPmc.proc d.alternatePriority1
  return { acceptablePortIdentity, alternatePriority1 }

instance : Proc AcceptableMaster_t := ⟨AcceptableMaster_t.proc⟩

/-! ## Lists -/

section Lists
variable {α : Type} [Proc α] [Inhabited α]

/-- A list with a count: built record by record, parsed by counting new ones. -/
def vectorF (cnt : Nat) (vec : List α) : P (List α) := do
  if ← building then all proc vec
  else return vec ++ (← count (proc default) cnt)

/-- A list without a count: new records are parsed while one fits. Each takes at
least an octet, so the octets left bound their number. -/
def vectorO (size : Nat) (vec : List α) : P (List α) := do
  if ← building then all proc vec
  else return vec ++ (← whileLeft size (proc default) (← remaining).toNat)

end Lists

end LibPmc
