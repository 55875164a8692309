import LibPmc.Message
/-!
# Parsing a message

`Message::parse` with its three branches: a signaling message, a management error and a
management dataField. Beside the result and the object a parse gives a log: the octets it
read, where the loop over the signaling TLVs stood, what its process functions left of
their TLV, and the dataField pointers it stored.
-/
namespace LibPmc

open Wire Wire.Prog

/-- The word of two octets at an offset, in network order. -/
def u16 (buf : Mem) (off : Nat) : UInt16 := UInt16.ofNat (buf.word off 2)

theorem u16_toNat (buf : Mem) (off : Nat) : (u16 buf off).toNat = beNat (buf.slice off 2) := by
  have h := beNat_lt (buf.slice off 2)
  rw [Mem.slice_length] at h
  exact Nat.mod_eq_of_lt h

def portIdentity (buf : Mem) (off : Nat) : PortIdentity_t := ⟨⟨buf.octets off 8⟩, u16 buf (off + 8)⟩

structure Trace where
  /-- Offset and number of octets of each read. -/
  reads : List (Nat × Nat)
  /-- `m_cur` and `leftAll` at the head of the loop. -/
  heads : List (Nat × Int)
  /-- `m_left` after each process function. -/
  lefts : List Int
  /-- Each dataField pointer stored, under its id. -/
  stored : List (MngVals × TlvPtr)

namespace Trace

def empty : Trace := ⟨[], [], [], []⟩

def append (a b : Trace) : Trace :=
  ⟨a.reads ++ b.reads, a.heads ++ b.heads, a.lefts ++ b.lefts, a.stored ++ b.stored⟩

/-- The log of a process function that ran on a cursor. -/
def ofCursor (c : Cursor MngParseError) : Trace := ⟨c.reads, [], [c.left], []⟩

section Fields
variable (a b : Trace) (c : Cursor MngParseError)

@[simp] theorem append_reads : (a.append b).reads = a.reads ++ b.reads := rfl
@[simp] theorem append_heads : (a.append b).heads = a.heads ++ b.heads := rfl
@[simp] theorem append_lefts : (a.append b).lefts = a.lefts ++ b.lefts := rfl
@[simp] theorem append_stored : (a.append b).stored = a.stored ++ b.stored := rfl
@[simp] theorem ofCursor_reads : (ofCursor c).reads = c.reads := rfl
@[simp] theorem ofCursor_heads : (ofCursor c).heads = [] := rfl
@[simp] theorem ofCursor_lefts : (ofCursor c).lefts = [c.left] := rfl
@[simp] theorem ofCursor_stored : (ofCursor c).stored = [] := rfl
@[simp] theorem empty_reads : empty.reads = [] := rfl
@[simp] theorem empty_heads : empty.heads = [] := rfl
@[simp] theorem empty_lefts : empty.lefts = [] := rfl
@[simp] theorem empty_stored : empty.stored = [] := rfl

end Fields

end Trace

/-- What a parse gives. -/
structure Parsed where
  err : MngParseError
  msg : Message
  trace : Trace

/-- The log of what comes before. -/
def Parsed.after (t : Trace) (p : Parsed) : Parsed := { p with trace := t.append p.trace }

def Parsed.reading (r : List (Nat × Nat)) (p : Parsed) : Parsed := p.after { Trace.empty with reads := r }

theorem Parsed.reading_reading (r r' : List (Nat × Nat)) (p : Parsed) :
    (p.reading r').reading r = p.reading (r ++ r') := by
  simp [Parsed.reading, Parsed.after, Trace.append, Trace.empty]

/-- A return without more reads. -/
def Parsed.ret (err : MngParseError) (msg : Message) : Parsed := ⟨err, msg, .empty⟩

/-- The cursor of a process function that has `left` octets. -/
def parseCursor (buf : Mem) (cur : Nat) (left : Int) : Cursor MngParseError where
  mem := buf
  build := false
  cur := cur
  left := left
  size := 0
  err := .TOO_SMALL
  reads := []
  writes := []

/-! ## The signaling TLVs -/

/-- The state of the loop in `parseSig`. -/
structure SigLoop where
  cur : Nat
  leftAll : Int
  tlvs : SigTlvs
  trace : Trace

/-- The id and the pointer that a MANAGEMENT TLV stores. -/
def BaseSigTlv.stored : BaseSigTlv → List (MngVals × TlvPtr)
  | .MANAGEMENT tlv_id tlvData => [(tlv_id, tlvData)]
  | _ => []

/-- The filter skips the TLVs of a type. -/
def MsgParams.skips (prms : MsgParams) (tlvType : UInt16) : Bool :=
  prms.filterSignaling && (prms.allowSigTlvs tlvType).isNone

/-- One TLV: an error or the state at the next head of the loop. -/
def parseSigTlv (prms : MsgParams) (buf : Mem) (s : SigLoop) : Option MngParseError × SigLoop :=
  let tlvType := u16 buf s.cur
  let lengthField := (u16 buf (s.cur + 2)).toNat
  let s : SigLoop := { s with
    cur := s.cur + tlvSize
    leftAll := s.leftAll - tlvSize
    trace := s.trace.append { Trace.empty with reads := [(s.cur, 2), (s.cur + 2, 2)] } }
  if s.leftAll < lengthField then (some .TOO_SMALL, s)
  else
    let s := { s with leftAll := s.leftAll - lengthField }
    if prms.skips tlvType then (none, { s with cur := s.cur + lengthField })
    else
      let (r, c) := (procSigTlv prms.implementSpecific tlvType).run (parseCursor buf s.cur lengthField)
      let s := { s with trace := s.trace.append (.ofCursor c) }
      match r with
      | none => (some c.err, s)
      | some tlv =>
        let s := { s with cur := c.cur + c.left.toNat }
        match tlv with
        | none => (none, s)
        | some tlv => (none, { s with
            tlvs := s.tlvs.insert tlvType tlv
            trace := s.trace.append { Trace.empty with stored := tlv.stored } })

/-- The loop. Each TLV takes octets of `leftAll`, which bounds the rounds. -/
def parseSigLoop (prms : MsgParams) (buf : Mem) : Nat → SigLoop → MngParseError × SigLoop
  | 0, s => (.SIG, s)
  | fuel + 1, s =>
    let s : SigLoop := { s with trace := s.trace.append { Trace.empty with heads := [(s.cur, s.leftAll)] } }
    if s.leftAll < tlvSize then (.SIG, s)
    else
      match parseSigTlv prms buf s with
      | (some e, s) => (e, s)
      | (none, s) => parseSigLoop prms buf fuel s

namespace Message

/-- The first object of the loop is the whole message after its header. -/
def parseSig (m : Message) (buf : Mem) (msgSize : Int) : Parsed :=
  let leftAll := msgSize - sigBaseSize
  let (e, s) := parseSigLoop m.prms buf (leftAll.toNat + 1) ⟨sigBaseSize, leftAll, m.sigTlvs.clear, .empty⟩
  ⟨e, { m with sigTlvs := s.tlvs }, s.trace⟩

/-! ## The management messages -/

def replyAction? (actionField : UInt8) : Option ActionField :=
  if actionField = ActionField.RESPONSE.val then some .RESPONSE
  else if actionField = ActionField.ACKNOWLEDGE.val then some .ACKNOWLEDGE
  else none

def checkReplyAction (id : MngVals) (actionField : ActionField) : Bool :=
  let allowed := (mngAllVals id).allowed
  if actionField = .ACKNOWLEDGE then allowed &&& aCOMMAND ≠ 0
  else if actionField = .RESPONSE then allowed &&& (aSET ||| aGET) ≠ 0
  else false

/-- The text of a management error. One that does not fit leaves its length behind. -/
def parseErrorDisplay (m : Message) (buf : Mem) (left : Int) : Parsed :=
  let (r, c) := m.errorDisplay.proc.run (parseCursor buf (mngHeaderSize + tlvSize + errorTlvSize) left)
  match r with
  | some t => .after (.ofCursor c) (.ret .MSG { m with
      errorDisplay := t, mngType := TlvType.MANAGEMENT_ERROR_STATUS })
  | none => .after (.ofCursor c) (.ret .TOO_SMALL { m with
      errorDisplay := { m.errorDisplay with lengthField := buf (mngHeaderSize + tlvSize + errorTlvSize) } })

/-- The part of `parse` on a MANAGEMENT_ERROR_STATUS TLV. -/
def parseError (m : Message) (buf : Mem) (size left : Int) : Parsed :=
  if size < errorTlvSize then .ret .TOO_SMALL m
  else .reading [(mngHeaderSize + tlvSize + 2, 2)] <|
    match findTlvId (u16 buf (mngHeaderSize + tlvSize + 2)) m.prms.implementSpecific with
    | none => .ret .INVALID_ID m
    | some id =>
      let m := { m with tlvId := id }
      if ¬ checkReplyAction id m.replyAction then .ret .ACTION m
      else .reading [(mngHeaderSize + tlvSize, 2)] <|
        let m := { m with errorId := u16 buf (mngHeaderSize + tlvSize) }
        if left < errorTlvSize ∨ left % 2 = 1 then .ret .TOO_SMALL m
        else if size - errorTlvSize < left - errorTlvSize then .ret .TOO_SMALL m
        else if 1 < left - errorTlvSize then m.parseErrorDisplay buf (left - errorTlvSize)
        else .ret .MSG { m with mngType := TlvType.MANAGEMENT_ERROR_STATUS }

/-- The dataField of a MANAGEMENT TLV. The pointer passed on is not initialised. -/
def parseData (m : Message) (buf : Mem) (left : Int) : Parsed :=
  let (r, c) := (callTlvData m.tlvId .wild).run (parseCursor buf mngMsgBaseSize left)
  match r with
  | none => .after (.ofCursor c) (.ret c.err m)
  | some p => .after { Trace.ofCursor c with stored := [(m.tlvId, p)] } (.ret .OK { m with
      dataGet := p, mngType := TlvType.MANAGEMENT })

/-- The part of `parse` on a MANAGEMENT TLV. -/
def parseMng (m : Message) (buf : Mem) (size left : Int) : Parsed :=
  if size < lengthFieldMngBase then .ret .TOO_SMALL m
  else .reading [(mngHeaderSize + tlvSize, 2)] <|
    match findTlvId (u16 buf (mngHeaderSize + tlvSize)) m.prms.implementSpecific with
    | none => .ret .INVALID_ID m
    | some id =>
      let m := { m with tlvId := id }
      if ¬ checkReplyAction id m.replyAction then .ret .ACTION m
      else if left < lengthFieldMngBase ∨ left % 2 = 1 then .ret .TOO_SMALL m
      else if left - lengthFieldMngBase = 0 then .ret .OK m
      else if size - lengthFieldMngBase < left - lengthFieldMngBase then .ret .TOO_SMALL m
      else m.parseData buf (left - lengthFieldMngBase)

/-- The action and the TLV of a management message. -/
def parseManagement (m : Message) (buf : Mem) (msgSize : Int) : Parsed :=
  .reading [(46, 1)] <|
    match replyAction? (buf 46 &&& 0xf) with
    | none => .ret .ACTION m
    | some actionField => .reading [(mngHeaderSize, 2), (mngHeaderSize + 2, 2)] <|
      let m := { m with replyAction := actionField }
      let tlvType := u16 buf mngHeaderSize
      let left : Int := (u16 buf (mngHeaderSize + 2)).toNat
      let size := msgSize - mngHeaderSize - tlvSize
      if tlvType = TlvType.MANAGEMENT_ERROR_STATUS then m.parseError buf size left
      else if tlvType ≠ TlvType.MANAGEMENT then .ret .INVALID_TLV m
      else m.parseMng buf size left

/-! ## The header -/

/-- The members that stand for the header of the message. -/
def setHeader (m : Message) (buf : Mem) : Message :=
  { m with
    sdoId := (buf 5).toUInt32 ||| ((buf 0 &&& 0xf0).toUInt32 <<< 4)
    domainNumber := buf 4
    isUnicast := buf 6 &&& unicastFlag ≠ 0
    sequence := u16 buf 30
    peer := portIdentity buf 20
    target := portIdentity buf 34 }

/-- The version and the rest of the header. -/
def parseHeader (m : Message) (buf : Mem) (msgSize : Int) : Parsed :=
  .reading [(1, 1)] <|
    let m := { m with versionPTP := buf 1 &&& 0xf, minorVersionPTP := buf 1 >>> 4 }
    if m.versionPTP ≠ ptp_major_ver then .ret .HEADER m
    else .reading [(33, 1)] <|
      if buf 33 ≠ logMessageIntervalDef then .ret .HEADER m
      else .reading [(5, 1), (0, 1), (4, 1), (6, 1), (30, 2), (28, 2), (20, 8), (42, 2), (34, 8)] <|
        let m := m.setHeader buf
        if m.type = MsgType.Signaling then m.parseSig buf msgSize
        else m.parseManagement buf msgSize

def parse (m : Message) (buf : Mem) (msgSize : Int) : Parsed :=
  if msgSize < sigBaseSize then .ret .TOO_SMALL m
  else .reading [(0, 1)] <|
    let m := { m with type := buf 0 &&& 0xf }
    if m.type = MsgType.Signaling then
      if ¬ m.prms.rcvSignaling then .ret .HEADER m
      else .reading [(32, 1)] <|
        if buf 32 ≠ controlFieldDef then .ret .HEADER m else m.parseHeader buf msgSize
    else if m.type = MsgType.Management then
      if msgSize < mngHeaderSize + tlvSize then .ret .TOO_SMALL m
      else .reading [(32, 1)] <|
        if buf 32 ≠ controlFieldMng then .ret .HEADER m else m.parseHeader buf msgSize
    else .ret .HEADER m

/-! ## What was received -/

def getSigTlvsCount (m : Message) : Nat :=
  if m.type = MsgType.Signaling then m.sigTlvs.recs.length else 0

/-- The record behind `getSigTlv` and `getSigTlvType`. -/
def sigTlvAt (m : Message) (pos : Nat) : Option SigTlv :=
  if m.type = MsgType.Signaling then m.sigTlvs.recs[pos]? else none

/-- `none` is the null pointer. -/
def getSigTlv (m : Message) (pos : Nat) : Option BaseSigTlv := (m.sigTlvAt pos).bind SigTlv.tlv

def getSigTlvType (m : Message) (pos : Nat) : UInt16 := ((m.sigTlvAt pos).map SigTlv.tlvType).getD 0

/-- The structure of a MANAGEMENT TLV. `none` where a null pointer is used as one. -/
def getSigMng (m : Message) (pos : Nat) : Option (MngVals × TlvPtr) :=
  match m.sigTlvAt pos with
  | some ⟨tlvType, tlv⟩ =>
    if tlvType = TlvType.MANAGEMENT then
      match tlv with
      | some (.MANAGEMENT tlv_id tlvData) => some (tlv_id, tlvData)
      | _ => none
    else some (.NULL_PTP_MANAGEMENT, .null)
  | none => some (.NULL_PTP_MANAGEMENT, .null)

def getSigMngTlvType (m : Message) (pos : Nat) : Option MngVals := (m.getSigMng pos).map Prod.fst

def getSigMngTlv (m : Message) (pos : Nat) : Option TlvPtr := (m.getSigMng pos).map Prod.snd

end Message

end LibPmc
