import LibPmc.Message
/-!
# Building a message

`Message::getMsgPlanedLen` and `Message::build`. A build that casts the structure to
send to a structure it is not has no defined behaviour and gives `none`. Null buffers
are refused like those that are too small, and have no octets.
-/
namespace LibPmc

open Wire Wire.Prog

/-- The octets of a word in network order. -/
abbrev be16 (v : UInt16) : List UInt8 := beOctets 2 v.toNat

namespace Message

instance (id : MngVals) (d : BaseMngTlv) : Decidable (Miscast id d) :=
  decidable_of_iff ((newTlv id).isSome ∧ d.id ≠ id) (by simp [Miscast, Option.isSome_iff_ne_none])

/-- The length of the message to be sent, or the reason why there is none. -/
def getMsgPlanedLen (m : Message) : Option Int :=
  if m.sendAction = .GET ∧ m.prms.useZeroGet then some mngMsgBaseSize
  else
    let data := if m.sendAction = .GET then none else m.dataSend
    let pad (ret : Int) : Int := if ret < 0 then ret else ret + ret % 2 + mngMsgBaseSize
    if (mngAllVals m.tlvId).size ≠ -2 then some (pad (mngAllVals m.tlvId).size)
    else
      match data with
      | none => if m.sendAction = .GET then some (pad (dataFieldSize m.tlvId none)) else some (-2)
      | some d => if Miscast m.tlvId d then none else some (pad (dataFieldSize m.tlvId (some d)))

/-- The header with its target and action, as `build` writes it. -/
def headerOctets (m : Message) (sequence : UInt16) : List UInt8 :=
  [MsgType.Management ||| (m.prms.transportSpecific <<< 4), ptp_version, 0, 0, m.prms.domainNumber, 0,
    if m.prms.isUnicast then unicastFlag else 0, 0] ++ List.replicate 12 0 ++
  m.prms.self_id.clockIdentity.v.val ++ be16 m.prms.self_id.portNumber ++ be16 sequence ++
  [controlFieldMng, logMessageIntervalDef] ++
  m.prms.target.clockIdentity.v.val ++ be16 m.prms.target.portNumber ++
  [m.prms.boundaryHops, m.prms.boundaryHops, m.sendAction.val, 0]

/-- What a build gives: its result, the object after it, the memory the buffer is in and
the log of what it wrote there. -/
structure Built where
  err : MngParseError
  msg : Message
  mem : Mem
  writes : List (Nat × Nat)

/-- The cursor of a build that has written the header, at the dataField. -/
def buildCursor (m : Message) (buf : Mem) (bufSize : Nat) (sequence : UInt16) : Cursor MngParseError where
  mem := ((buf.store 0 (m.headerOctets sequence)).store mngHeaderSize (be16 TlvType.MANAGEMENT)).store
    (mngHeaderSize + tlvSize) (be16 (mngAllVals m.tlvId).value)
  build := true
  cur := mngMsgBaseSize
  left := bufSize - mngMsgBaseSize
  size := 0
  err := .TOO_SMALL
  reads := []
  writes := [(0, mngHeaderSize), (mngHeaderSize, 2), (mngHeaderSize + tlvSize, 2)]

/-- The pad after a dataField of odd length. -/
def buildPad (c : Cursor MngParseError) : Option MngParseError × Cursor MngParseError :=
  if c.size % 2 = 1 then
    match procReserved.run c with
    | (some (), c) => (none, c)
    | (none, c) => (some .TOO_SMALL, c)
  else (none, c)

/-- The dataField of a GET: as many zeros as an empty structure takes. -/
def buildZero (m : Message) (c : Cursor MngParseError) : Option MngParseError × Cursor MngParseError :=
  let tlvSize := (mngAllVals m.tlvId).size
  if m.prms.useZeroGet ∨ tlvSize = 0 then (none, c)
  else
    let tlvSize := if tlvSize = -2 then dataFieldSize m.tlvId none else tlvSize
    if tlvSize < 0 then (some .INVALID_ID, c)
    else
      let tlvSize := tlvSize + tlvSize % 2
      if c.left < tlvSize then (some .TOO_SMALL, c)
      else (none, { c.store (List.replicate tlvSize.toNat 0) with size := tlvSize.toNat })

/-- The dataField of the structure to send. The process function leaves the structure as
it wrote it; what a failed one has changed so far it would change again. -/
def buildData (m : Message) (d : BaseMngTlv) (c : Cursor MngParseError) :
    Option MngParseError × Message × Cursor MngParseError :=
  match (callTlvData m.tlvId (.to d)).run c with
  | (none, c) => (some c.err, m, c)
  | (some p, c) =>
    let (e, c) := buildPad c
    (e, (match p with | .to d => { m with dataSend := some d } | _ => m), c)

theorem buildData_some {m : Message} {d a : BaseMngTlv} {c c' : Cursor MngParseError}
    (h : (callTlvData m.tlvId (.to d)).run c = (some (.to a), c')) :
    m.buildData d c = ((buildPad c').1, { m with dataSend := some a }, (buildPad c').2) := by
  rw [buildData, h]

/-- The lengths, once the dataField stands. -/
def buildEnd (m : Message) (c : Cursor MngParseError) : Built :=
  let size := mngMsgBaseSize + c.size
  if size % 2 = 1 then ⟨.SIZE, m, c.mem, c.writes⟩
  else
    { err := .OK
      msg := { m with msgLen := size }
      mem := (c.mem.store (mngHeaderSize + 2) (beOctets 2 (lengthFieldMngBase + c.size))).store 2 (beOctets 2 size)
      writes := c.writes ++ [(mngHeaderSize + 2, 2), (2, 2)] }

/-- `none` where the structure to send is cast to one it is not. -/
def build (m : Message) (buf : Mem) (bufSize : Nat) (sequence : UInt16) : Option Built :=
  if bufSize < mngMsgBaseSize then some ⟨.TOO_SMALL, m, buf, []⟩
  else
    let c := m.buildCursor buf bufSize sequence
    if m.sendAction = .GET then
      match m.buildZero c with
      | (some e, c) => some ⟨e, m, c.mem, c.writes⟩
      | (none, c) => some (m.buildEnd c)
    else
      match m.dataSend with
      | none => some (m.buildEnd c)
      | some d =>
        if Miscast m.tlvId d then none
        else
          match m.buildData d c with
          | (some e, m, c) => some ⟨e, m, c.mem, c.writes⟩
          | (none, m, c) => some (m.buildEnd c)

theorem build_small (m : Message) (buf : Mem) {bufSize : Nat} (sequence : UInt16) (hb : bufSize < mngMsgBaseSize) :
    m.build buf bufSize sequence = some ⟨.TOO_SMALL, m, buf, []⟩ := if_pos hb

theorem build_dataSend {m : Message} {d : BaseMngTlv} (buf : Mem) {bufSize : Nat} (sequence : UInt16)
    (hb : ¬ bufSize < mngMsgBaseSize) (hg : m.sendAction ≠ .GET) (hd : m.dataSend = some d)
    (hm : ¬ Miscast m.tlvId d) :
    m.build buf bufSize sequence =
      match m.buildData d (m.buildCursor buf bufSize sequence) with
      | (some e, m, c) => some ⟨e, m, c.mem, c.writes⟩
      | (none, m, c) => some (m.buildEnd c) := by
  rw [build, if_neg hb]
  dsimp only
  rw [if_neg hg, hd]
  exact if_neg hm

/-- What is left to do once the dataField stands, or could not be written. -/
def buildResult (m : Message) (c : Cursor MngParseError) : Option MngParseError → Built
  | some e => ⟨e, m, c.mem, c.writes⟩
  | none => m.buildEnd c

/-- How a build ends. -/
inductive BuildCase (m : Message) (buf : Mem) (bufSize : Nat) (sequence : UInt16) : Built → Prop
  | small (hb : bufSize < mngMsgBaseSize) : BuildCase m buf bufSize sequence ⟨.TOO_SMALL, m, buf, []⟩
  | zero {e c} (hb : ¬ bufSize < mngMsgBaseSize) (hg : m.sendAction = .GET)
      (hz : m.buildZero (m.buildCursor buf bufSize sequence) = (e, c)) :
      BuildCase m buf bufSize sequence (m.buildResult c e)
  | empty (hb : ¬ bufSize < mngMsgBaseSize) (hg : m.sendAction ≠ .GET) (hd : m.dataSend = none) :
      BuildCase m buf bufSize sequence (m.buildEnd (m.buildCursor buf bufSize sequence))
  | data {d e m' c} (hb : ¬ bufSize < mngMsgBaseSize) (hg : m.sendAction ≠ .GET) (hd : m.dataSend = some d)
      (hr : m.buildData d (m.buildCursor buf bufSize sequence) = (e, m', c)) :
      BuildCase m buf bufSize sequence (m'.buildResult c e)

theorem build_cases {m : Message} {buf : Mem} {bufSize : Nat} {sequence : UInt16} {b : Built}
    (h : m.build buf bufSize sequence = some b) : BuildCase m buf bufSize sequence b := by
  by_cases hb : bufSize < mngMsgBaseSize
  · rw [build_small m buf sequence hb] at h
    cases h
    exact .small hb
  by_cases hg : m.sendAction = .GET
  · rcases hz : m.buildZero (m.buildCursor buf bufSize sequence) with ⟨e, c⟩
    have hr : m.build buf bufSize sequence = some (m.buildResult c e) := by
      rw [build, if_neg hb]
      dsimp only
      rw [if_pos hg, hz]
      cases e <;> rfl
    cases h.symm.trans hr
    exact .zero hb hg hz
  cases hd : m.dataSend with
  | none =>
    have hr : m.build buf bufSize sequence = some (m.buildEnd (m.buildCursor buf bufSize sequence)) := by
      rw [build, if_neg hb]
      dsimp only
      rw [if_neg hg, hd]
    cases h.symm.trans hr
    exact .empty hb hg hd
  | some d =>
    by_cases hm : Miscast m.tlvId d
    · have hr : m.build buf bufSize sequence = none := by
        rw [build, if_neg hb]
        dsimp only
        rw [if_neg hg, hd]
        exact if_pos hm
      cases h.symm.trans hr
    rcases hr : m.buildData d (m.buildCursor buf bufSize sequence) with ⟨e, m', c⟩
    rw [build_dataSend buf sequence hb hg hd hm, hr] at h
    have hb' : some (m'.buildResult c e) = some b := by
      rw [← h]
      cases e <;> rfl
    cases hb'
    exact .data hb hg hd hr

end Message

end LibPmc
