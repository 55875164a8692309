import LibPmc.Sig
/-!
# The message object

`Message` of `msg.h` and `msg.cpp`: the parameters, what is to be sent, what was
received, and the functions that set an action, build a message and parse one. The
temporary members (`m_build`, `m_cur`, `m_left`, `m_size`, `m_err`) live in the
cursor a call runs on: no call uses what an earlier one left in them.

A parse and a build also give a log of what they did to memory.
-/
namespace LibPmc

open Wire Wire.Prog

def ptp_major_ver : UInt8 := 0x2
def ptp_minor_ver : UInt8 := 0x0
def ptp_version : UInt8 := (ptp_minor_ver <<< 4) ||| ptp_major_ver
def controlFieldMng : UInt8 := 0x04
def controlFieldDef : UInt8 := 0x05
def logMessageIntervalDef : UInt8 := 0x7f
def unicastFlag : UInt8 := (1 : UInt8) <<< 2
def allPorts : UInt16 := 0xffff
def allClocks : ClockIdentity_t := ⟨⟨List.replicate 8 0xff, by simp⟩⟩

/-- The header of a message with its target, of 34 + 10 octets. -/
def sigBaseSize : Nat := 44
/-- The header of a management message, `managementMessage_p`. -/
def mngHeaderSize : Nat := 48
def tlvSize : Nat := 4
/-- The managementId that comes before the dataField. -/
def lengthFieldMngBase : Nat := 2
def mngMsgBaseSize : Nat := mngHeaderSize + tlvSize + lengthFieldMngBase
/-- The part of a management error TLV before the displayData. -/
def errorTlvSize : Nat := 8

/-- Fixed values to use in management messages. -/
structure MsgParams where
  transportSpecific : UInt8
  domainNumber : UInt8
  boundaryHops : UInt8
  isUnicast : Bool
  implementSpecific : ImplementSpecific
  target : PortIdentity_t
  self_id : PortIdentity_t
  useZeroGet : Bool
  rcvSignaling : Bool
  filterSignaling : Bool
  /-- A map: only whether a TLV type is in it counts. -/
  allowSigTlvs : UInt16 → Option Bool
  deriving Inhabited

/-! ## The received signaling TLVs -/

structure SigTlv where
  tlvType : UInt16
  tlv : Option BaseSigTlv
  deriving Inhabited

/-- The copy and the move constructor: both leave `tlv` behind. -/
def SigTlv.copy (rhs : SigTlv) : SigTlv := ⟨rhs.tlvType, none⟩

/-- `std::vector<sigTlv>` with its capacity. -/
structure SigTlvs where
  recs : List SigTlv
  capacity : Nat
  le_capacity : recs.length ≤ capacity

instance : Inhabited SigTlvs := ⟨⟨[], 0, le_refl _⟩⟩

/-- The elements go, the capacity stays. -/
def SigTlvs.clear (v : SigTlvs) : SigTlvs := ⟨[], v.capacity, Nat.zero_le _⟩

theorem SigTlvs.length_append_le {recs : List SigTlv} {n : Nat} (h : recs.length < n) (r : SigTlv) :
    (recs ++ [r]).length ≤ n := by
  rw [List.length_append, List.length_singleton]
  exact h

theorem SigTlvs.length_relocate_le (recs : List SigTlv) (r : SigTlv) :
    (recs.map SigTlv.copy ++ [r]).length ≤ recs.length + max recs.length 1 := by
  rw [List.length_append, List.length_map, List.length_singleton]
  exact Nat.add_le_add_left (Nat.le_max_right _ _) _

/-- `insert` at the end, and the assignment of the pointer into the new element. A
full vector relocates its elements to twice the room, with their constructor. -/
def SigTlvs.insert (v : SigTlvs) (tlvType : UInt16) (tlv : BaseSigTlv) : SigTlvs :=
  if h : v.recs.length < v.capacity then
    ⟨v.recs ++ [⟨tlvType, some tlv⟩], v.capacity, length_append_le h _⟩
  else
    ⟨v.recs.map SigTlv.copy ++ [⟨tlvType, some tlv⟩], v.recs.length + max v.recs.length 1,
      length_relocate_le v.recs _⟩

/-! ## The object -/

structure Message where
  sendAction : ActionField
  msgLen : Nat
  /-- The caller's structure: a build changes it in place. -/
  dataSend : Option BaseMngTlv
  sequence : UInt16
  isUnicast : Bool
  replyAction : ActionField
  sdoId : UInt32
  type : UInt8
  mngType : UInt16
  domainNumber : UInt8
  versionPTP : UInt8
  minorVersionPTP : UInt8
  sigTlvs : SigTlvs
  dataGet : TlvPtr
  tlvId : MngVals
  prms : MsgParams
  peer : PortIdentity_t
  target : PortIdentity_t
  errorId : UInt16
  errorDisplay : PTPText_t
  deriving Inhabited

namespace Message

/-- `Message(MsgParams)`. The members it does not initialise are as in `mem`. -/
def ofParams (prms : MsgParams) (mem : Message) : Message :=
  { mem with
    sendAction := .GET
    msgLen := 0
    dataSend := none
    sequence := 0
    isUnicast := true
    replyAction := .RESPONSE
    sigTlvs := default
    dataGet := .null
    tlvId := .NULL_PTP_MANAGEMENT
    prms := if prms.transportSpecific > 0xf then { prms with transportSpecific := 0 } else prms
    peer := default
    target := default
    errorDisplay := { mem.errorDisplay with textField := [] } }

/-- `Message()`. -/
def new (mem : Message) : Message :=
  ofParams { (default : MsgParams) with
    boundaryHops := 1
    isUnicast := true
    implementSpecific := .linuxptp
    filterSignaling := true
    allowSigTlvs := fun _ => none
    target := ⟨allClocks, allPorts⟩ } mem

/-! ## Setting the action -/

def allowedAction (m : Message) (id : MngVals) (action : ActionField) : Bool :=
  if action ≠ .GET ∧ action ≠ .SET ∧ action ≠ .COMMAND then false
  else if m.prms.implementSpecific ≠ .linuxptp ∧ (mngAllVals id).allowed &&& aUSE_LINUXPTP ≠ 0 then false
  else (mngAllVals id).allowed &&& action.bit ≠ 0

/-- `setAction` without a dataField. -/
def setAction (m : Message) (actionField : ActionField) (tlv_id : MngVals) : Bool × Message :=
  if ¬ m.allowedAction tlv_id actionField then (false, m)
  else if actionField ≠ .GET ∧ (mngAllVals tlv_id).size ≠ 0 then (false, m)
  else (true, { m with sendAction := actionField, tlvId := tlv_id, dataSend := none })

/-- `setAction` with the caller's structure. -/
def setActionData (m : Message) (actionField : ActionField) (tlv_id : MngVals) (dataSend : BaseMngTlv) :
    Bool × Message :=
  if ¬ m.allowedAction tlv_id actionField then (false, m)
  else
    (true, { m with
      sendAction := actionField
      tlvId := tlv_id
      dataSend := if tlv_id ≠ .NULL_PTP_MANAGEMENT ∧ actionField ≠ .GET ∧ (mngAllVals tlv_id).size ≠ 0
        then some dataSend else none })

/-- The structure to send is not of the id: the cast in `call_tlv_data` and
`dataFieldSize` has no defined behaviour. -/
def Miscast (id : MngVals) (d : BaseMngTlv) : Prop := newTlv id ≠ none ∧ d.id ≠ id

end Message

/-- The size the id's function calculates, of an empty structure where there is no data. -/
def dataFieldSize (id : MngVals) (data : Option BaseMngTlv) : Int :=
  match data.or (newTlv id) with
  | some d => (sizeTlv d).elim (-2) (↑)
  | none => -2

end LibPmc
