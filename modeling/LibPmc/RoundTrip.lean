import LibPmc.Send
import LibPmc.History
/-!
# Building a message and parsing it back

A SET or a COMMAND is built, the action of the octets becomes the one of the reply, and
another object parses them: it shows the id, the structure and the header that were sent.
-/
namespace LibPmc

open Wire Wire.Prog

/-! ## The octets of a built message -/

theorem slice_store_self {m : Mem} {off n : Nat} {l : List UInt8} (h : n = l.length) :
    (m.store off l).slice off n = l := by
  subst h
  exact m.slice_store off l

/-- The header, part by part. -/
theorem store_header (m : Message) (buf : Mem) (sequence : UInt16) : buf.store 0 (m.headerOctets sequence) =
    (((((((buf.store 0 ([MsgType.Management ||| (m.prms.transportSpecific <<< 4), ptp_version, 0, 0,
      m.prms.domainNumber, 0, if m.prms.isUnicast then unicastFlag else 0, 0] ++ List.replicate 12 0)).store 20
      m.prms.self_id.clockIdentity.v.val).store 28 (be16 m.prms.self_id.portNumber)).store 30 (be16 sequence)).store 32
      [controlFieldMng, logMessageIntervalDef]).store 34 m.prms.target.clockIdentity.v.val).store 42
      (be16 m.prms.target.portNumber)).store 44 [m.prms.boundaryHops, m.prms.boundaryHops, m.sendAction.val, 0] := by
  unfold Message.headerOctets
  simp only [← Mem.store_append, List.length_append, List.length_cons, List.length_nil, List.length_replicate,
    beOctets_length, m.prms.self_id.clockIdentity.v.2, m.prms.target.clockIdentity.v.2]

/-- The octets with the action of a reply. -/
def withAction (mem : Mem) (action : ActionField) : Mem := mem.store 46 [(mem 46 &&& 0xf0) ||| action.val]

theorem u16_of_slice {mem : Mem} {off : Nat} {v : UInt16} (h : mem.slice off 2 = be16 v) : u16 mem off = v := by
  have hv : v.toNat < 256 ^ 2 := v.toNat_lt
  unfold u16 Mem.word
  rw [h, beNat_beOctets_of_lt hv]
  exact UInt16.ofNat_toNat

theorem octets_of_slice {mem : Mem} {off n : Nat} {o : Octets n} (h : mem.slice off n = o.val) :
    mem.octets off n = o :=
  Subtype.ext h

section Octets
variable (m : Message) (buf : Mem) (sequence : UInt16) (body : List UInt8) (action : ActionField)

/-- Where the parts of a built message stand. -/
structure BuiltOctets (mem : Mem) : Prop where
  type : mem 0 = MsgType.Management ||| (m.prms.transportSpecific <<< 4)
  version : mem 1 = ptp_version
  domainNumber : mem 4 = m.prms.domainNumber
  minorSdoId : mem 5 = 0
  flags : mem 6 = if m.prms.isUnicast then unicastFlag else 0
  controlField : mem 32 = controlFieldMng
  logMessageInterval : mem 33 = logMessageIntervalDef
  sequence : u16 mem 30 = sequence
  sourceClock : mem.octets 20 8 = m.prms.self_id.clockIdentity.v
  sourcePort : u16 mem 28 = m.prms.self_id.portNumber
  targetClock : mem.octets 34 8 = m.prms.target.clockIdentity.v
  targetPort : u16 mem 42 = m.prms.target.portNumber
  tlvType : u16 mem 48 = TlvType.MANAGEMENT
  lengthField : mem.slice 50 2 = beOctets 2 (2 + body.length)
  managementId : u16 mem 52 = (mngAllVals m.tlvId).value
  dataField : mem.slice 54 body.length = body
  messageLength : mem.slice 2 2 = beOctets 2 (54 + body.length)

theorem builtOctets : BuiltOctets m sequence body (m.builtMem buf sequence body) := by
  have h1 := m.prms.self_id.clockIdentity.v.2
  have h2 := m.prms.target.clockIdentity.v.2
  unfold Message.builtMem
  rw [store_header]
  simp only [mngMsgBaseSize, mngHeaderSize, tlvSize, lengthFieldMngBase]
  constructor
  case sequence | sourcePort | targetPort | tlvType | managementId =>
    apply u16_of_slice
    simp (disch := (simp; try omega)) only [Mem.slice_store_of_disjoint, slice_store_self]
  case sourceClock =>
    apply octets_of_slice
    simp (disch := (simp; try omega)) only [Mem.slice_store_of_disjoint]
    exact slice_store_self h1.symm
  case targetClock =>
    apply octets_of_slice
    simp (disch := (simp; try omega)) only [Mem.slice_store_of_disjoint]
    exact slice_store_self h2.symm
  case lengthField | dataField | messageLength =>
    simp (disch := (simp; try omega)) only [Mem.slice_store_of_disjoint, slice_store_self]
  all_goals
    simp (disch := (simp; try omega)) only [Mem.store_apply_of_outside]
    rfl

theorem builtMem_action : m.builtMem buf sequence body 46 = m.sendAction.val := by
  unfold Message.builtMem
  rw [store_header]
  simp only [mngMsgBaseSize, mngHeaderSize, tlvSize, lengthFieldMngBase]
  simp (disch := (simp; try omega)) only [Mem.store_apply_of_outside]
  rfl

variable {m sequence body}

/-- The action stands apart. -/
theorem BuiltOctets.withAction {mem : Mem} (h : BuiltOctets m sequence body mem) :
    BuiltOctets m sequence body (withAction mem action) := by
  have word {off : Nat} (hoff : off + 2 ≤ 46 ∨ 47 ≤ off) : u16 (LibPmc.withAction mem action) off = u16 mem off := by
    unfold u16 Mem.word LibPmc.withAction
    rw [Mem.slice_store_of_disjoint (by simpa using hoff)]
  have octets {off n : Nat} (hoff : off + n ≤ 46 ∨ 47 ≤ off) :
      (LibPmc.withAction mem action).slice off n = mem.slice off n :=
    Mem.slice_store_of_disjoint (by simpa using hoff)
  have octet {off : Nat} (hoff : off ≠ 46) : LibPmc.withAction mem action off = mem off :=
    Mem.store_apply_of_outside (by simp only [List.length_singleton]; omega)
  exact {
    type := (octet (by omega)).trans h.type
    version := (octet (by omega)).trans h.version
    domainNumber := (octet (by omega)).trans h.domainNumber
    minorSdoId := (octet (by omega)).trans h.minorSdoId
    flags := (octet (by omega)).trans h.flags
    controlField := (octet (by omega)).trans h.controlField
    logMessageInterval := (octet (by omega)).trans h.logMessageInterval
    sequence := (word (by omega)).trans h.sequence
    sourceClock := octets_of_slice ((octets (by omega)).trans (congrArg Subtype.val h.sourceClock))
    sourcePort := (word (by omega)).trans h.sourcePort
    targetClock := octets_of_slice ((octets (by omega)).trans (congrArg Subtype.val h.targetClock))
    targetPort := (word (by omega)).trans h.targetPort
    tlvType := (word (by omega)).trans h.tlvType
    lengthField := (octets (by omega)).trans h.lengthField
    managementId := (word (by omega)).trans h.managementId
    dataField := (octets (by omega)).trans h.dataField
    messageLength := (octets (by omega)).trans h.messageLength }

end Octets

/-! ## Parsing it -/

/-- The action of the reply to a request. -/
def replyTo (action : ActionField) : ActionField := if action = .SET then .RESPONSE else .ACKNOWLEDGE

theorem type_of_header (ts : UInt8) : (MsgType.Management ||| (ts <<< 4)) &&& 0xf = MsgType.Management := by
  have h : ∀ n : Fin 256, (MsgType.Management ||| (UInt8.ofFin n <<< 4)) &&& 0xf = MsgType.Management := by
    decide +kernel
  exact h ts.toFin

theorem sdoId_of_header {ts : UInt8} (hts : ts ≤ 0xf) :
    (0 : UInt8).toUInt32 ||| (((MsgType.Management ||| (ts <<< 4)) &&& 0xf0).toUInt32 <<< 4) = ts.toUInt32 <<< 8 := by
  have h : ∀ n : Fin 256, UInt8.ofFin n ≤ 0xf → (0 : UInt8).toUInt32 |||
      (((MsgType.Management ||| (UInt8.ofFin n <<< 4)) &&& 0xf0).toUInt32 <<< 4) = (UInt8.ofFin n).toUInt32 <<< 8 := by
    decide +kernel
  exact h ts.toFin hts

/-- An action of a request, allowed for the id. -/
def Allowed (action : ActionField) (id : MngVals) : Prop :=
  (action = .SET ∨ action = .COMMAND) ∧ (mngAllVals id).allowed &&& action.bit ≠ 0

theorem Allowed.settable {action : ActionField} {id : MngVals} (h : Allowed action id) : Settable id := by
  obtain ⟨rfl | rfl, h⟩ := h <;> revert h <;> cases id <;> decide

theorem Allowed.checkReplyAction {action : ActionField} {id : MngVals} (h : Allowed action id) :
    Message.checkReplyAction id (replyTo action) = true := by
  obtain ⟨rfl | rfl, h⟩ := h <;> revert h <;> cases id <;> decide

/-- What an object shows of a reply with the structure. -/
structure ShowsReply (prms : MsgParams) (action : ActionField) (d : BaseMngTlv) (sequence : UInt16)
    (p : Parsed) : Prop where
  err : p.err = .OK
  tlvId : p.msg.tlvId = d.id
  data : p.msg.dataGet = .to d
  mngType : p.msg.mngType = TlvType.MANAGEMENT
  replyAction : p.msg.replyAction = replyTo action
  sequence : p.msg.sequence = sequence
  domainNumber : p.msg.domainNumber = prms.domainNumber
  sdoId : p.msg.sdoId = prms.transportSpecific.toUInt32 <<< 8
  isUnicast : p.msg.isUnicast = prms.isUnicast
  peer : p.msg.peer = prms.self_id
  target : p.msg.target = prms.target

section Parse
variable {m m' : Message} {d : BaseMngTlv} {sequence : UInt16} {action : ActionField} {mem : Mem}

theorem lengthOf_built {body : List UInt8} (h : BuiltOctets m sequence body mem) (hmax : 54 + body.length ≤ 65535) :
    lengthOf mem = 2 + body.length := by
  unfold lengthOf
  rw [u16_toNat, show mem.slice (mngHeaderSize + 2) 2 = _ from h.lengthField, beNat_beOctets_of_lt (by omega)]
  simp

/-- The octets of a built message, with the action of the reply, are a reply. -/
theorem mngReply_built (h : BuiltOctets m sequence d.body mem) (hact : mem 46 = (replyTo action).val)
    (hid : d.id = m.tlvId) (ha : Allowed action d.id) (hspec : m'.prms.implementSpecific = .linuxptp)
    (hmax : 54 + d.body.length ≤ 65535) :
    MngReply m'.prms mem (54 + d.body.length : Nat) (replyTo action) d.id := by
  have hlen := lengthOf_built h hmax
  have heven := body_even d
  have htype : mem 0 &&& 0xf = MsgType.Management := by rw [h.type]; exact type_of_header _
  have hversion : mem 1 &&& 0xf = ptp_major_ver := by rw [h.version]; rfl
  have hreply : actionOf mem = some (replyTo action) := by
    unfold actionOf replyTo at *
    rw [hact]
    split <;> rfl
  have hfound : findTlvId (u16 mem 52) m'.prms.implementSpecific = some d.id := by
    rw [h.managementId, hspec, hid]
    exact findTlvId_value _
  refine ⟨⟨?_, htype, h.controlField, hversion, h.logMessageInterval⟩, hreply, h.tlvType, ?_, hfound,
    ha.checkReplyAction, ?_, ?_, .inr ?_⟩
  · simp only [mngHeaderSize, tlvSize]; omega
  · simp only [mngMsgBaseSize, mngHeaderSize, tlvSize, lengthFieldMngBase]; omega
  · rw [hlen]; omega
  · rw [hlen]; omega
  · rw [hlen]; omega

/-- The dataField parses back to the structure. -/
theorem dataFieldOf_built (h : BuiltOctets m sequence d.body mem) (hs : Settable d.id) (hl : LengthsFit d)
    (h48 : Fits48 d) (hmax : 54 + d.body.length ≤ 65535) : dataFieldOf mem d.id = some d.built := by
  obtain ⟨t, ht⟩ := newTlv_id d
  have hlen := lengthOf_built h hmax
  have hk : lengthOf mem - 2 = d.body.length := by rw [hlen]; omega
  have hr := (trip_procTlv hs hl h48 ht).trip _ (write_procTlv hs h48) (List.replicate (d.octets.length % 2) 0)
  have hb : (d.octets.length : Int) + (List.replicate (d.octets.length % 2) (0 : UInt8)).length = d.body.length := by
    simp [BaseMngTlv.body]
  unfold dataFieldOf
  rw [ht, Option.bind_some, hk, Int.toNat_natCast, show mem.slice mngMsgBaseSize d.body.length =
    d.body from h.dataField,
    ← hb]
  change ((procTlv t).read ((procTlv d).write.octets.length + _) ((procTlv d).write.octets ++ _)).val = _
  rw [hr]

theorem showsReply_built (h : BuiltOctets m sequence d.body mem) (hact : mem 46 = (replyTo action).val)
    (hid : d.id = m.tlvId) (ha : Allowed action d.id) (hspec : m'.prms.implementSpecific = .linuxptp)
    (hts : m.prms.transportSpecific ≤ 0xf) (hl : LengthsFit d) (h48 : Fits48 d) (hmax : messageSize d ≤ 65535) :
    ShowsReply m.prms action d.built sequence (m'.parse mem (messageSize d)) := by
  have hs := ha.settable
  have hsize : messageSize d = 54 + d.body.length := messageSize_eq hs hl.texts h48
  have hpos : 0 < d.body.length := by
    have := plannedSize_pos hs
    simp only [messageSize, padded, mngMsgBaseSize, mngHeaderSize, tlvSize, lengthFieldMngBase] at hsize
    omega
  rw [hsize] at hmax ⊢
  have hr := mngReply_built h hact hid ha hspec hmax
  have hdata : HasDataField d.id := by
    obtain ⟨t, ht⟩ := newTlv_id d
    by_contra hn
    rw [newTlv_eq_none hn] at ht
    cases ht
  have h2 : lengthOf mem ≠ 2 := by rw [lengthOf_built h hmax]; omega
  obtain ⟨herr, hmsg⟩ := (parse_data m' hr h2 hdata).2 _ (dataFieldOf_built h hs hl h48 hmax)
  have hport {v : ClockIdentity_t} {off : Nat} (hc : mem.octets off 8 = v.v) {p : UInt16} (hp : u16 mem (off + 8) = p) :
      portIdentity mem off = ⟨v, p⟩ := by
    unfold portIdentity
    rw [hc, hp]
  exact {
    err := herr
    tlvId := by rw [hmsg, built_id]; rfl
    data := by rw [hmsg]
    mngType := by rw [hmsg]
    replyAction := by rw [hmsg]; rfl
    sequence := by rw [hmsg]; exact h.sequence
    domainNumber := by rw [hmsg]; exact h.domainNumber
    sdoId := by
      rw [hmsg]
      change (mem 5).toUInt32 ||| ((mem 0 &&& 0xf0).toUInt32 <<< 4) = _
      rw [h.minorSdoId, h.type]
      exact sdoId_of_header hts
    isUnicast := by
      rw [hmsg]
      change decide (mem 6 &&& unicastFlag ≠ 0) = _
      rw [h.flags]
      cases m.prms.isUnicast <;> rfl
    peer := by rw [hmsg]; exact hport h.sourceClock h.sourcePort
    target := by rw [hmsg]; exact hport h.targetClock h.targetPort }

end Parse

/-- The request as setAction leaves it. -/
theorem setActionData_allowed (m : Message) {action : ActionField} {d : BaseMngTlv} (ha : Allowed action d.id)
    (hspec : m.prms.implementSpecific = .linuxptp) : m.setActionData action d.id d =
      (true, { m with sendAction := action, tlvId := d.id, dataSend := some d }) := by
  have hg : action ≠ .GET := by rintro rfl; rcases ha.1 with h | h <;> cases h
  have hallowed : m.allowedAction d.id action = true := by
    have hreq : ¬ (action ≠ .GET ∧ action ≠ .SET ∧ action ≠ .COMMAND) := by
      rintro ⟨-, h1, h2⟩
      rcases ha.1 with h | h
      · exact h1 h
      · exact h2 h
    unfold Message.allowedAction
    rw [if_neg hreq, if_neg fun h => h.1 hspec]
    exact decide_eq_true ha.2
  have hdata : d.id ≠ .NULL_PTP_MANAGEMENT ∧ action ≠ .GET ∧ (mngAllVals d.id).size ≠ 0 := by
    refine ⟨?_, hg, ?_⟩ <;> cases d <;> simp only [BaseMngTlv.id] <;> decide
  unfold Message.setActionData
  rw [if_neg (not_not.2 hallowed), if_pos hdata]

/-- A SET or a COMMAND of a structure that fits the format is built in every buffer that is large
enough, and the reply with its octets shows the structure as the build left it, and the
header. -/
theorem parse_build (m m' : Message) (action : ActionField) (d : BaseMngTlv) (buf : Mem) (bufSize : Nat)
    (sequence : UInt16) (ha : Allowed action d.id) (hspec : m.prms.implementSpecific = .linuxptp)
    (hspec' : m'.prms.implementSpecific = .linuxptp) (hts : m.prms.transportSpecific ≤ 0xf)
    (hl : LengthsFit d) (h48 : Fits48 d) (hmax : messageSize d ≤ 65535) (hroom : messageSize d ≤ bufSize) :
    (m.setActionData action d.id d).1 = true ∧
      ∃ b, (m.setActionData action d.id d).2.build buf bufSize sequence = some b ∧ b.err = .OK ∧
        b.msg.msgLen = messageSize d ∧ b.msg.dataSend = some d.built ∧
        ShowsReply m.prms action d.built sequence (m'.parse (withAction b.mem (replyTo action)) b.msg.msgLen) := by
  rw [setActionData_allowed m ha hspec]
  refine ⟨rfl, ?_⟩
  have hg : action ≠ .GET := by rintro rfl; rcases ha.1 with h | h <;> cases h
  have hs := ha.settable
  have hsize := messageSize_eq hs hl.texts h48
  obtain ⟨n, he, -⟩ := emits_procTlv hs hl.texts h48
  generalize hset : ({ m with sendAction := action, tlvId := d.id, dataSend := some d } : Message) = r
  have hid : d.id = r.tlvId := by rw [← hset]
  have hprms : r.prms = m.prms := by rw [← hset]
  have hsend : r.sendAction = action := by rw [← hset]
  obtain ⟨b, hb, herr, hmsg, hmem⟩ := build_ok buf sequence (by rw [hsend]; exact hg) (by rw [← hset]) hid he.tame
    (write_procTlv hs h48) (hsize ▸ hroom)
  have hlen : b.msg.msgLen = messageSize d := by rw [hmsg, hsize]
  have hoct := builtOctets r buf sequence d.body
  have hact : withAction b.mem (replyTo action) 46 = (replyTo action).val := by
    have h46 : b.mem 46 = action.val := by rw [hmem, builtMem_action, hsend]
    have hv : b.mem 46 &&& 0xf0 ||| (replyTo action).val = (replyTo action).val := by
      rw [h46]
      rcases ha.1 with rfl | rfl <;> rfl
    rw [← hv]
    simp [withAction, Mem.store]
  refine ⟨b, hb, herr, hlen, by rw [hmsg], ?_⟩
  rw [hlen, ← hprms]
  exact showsReply_built (by rw [hmem]; exact hoct.withAction _) hact hid ha hspec' (hprms ▸ hts) hl h48 hmax

/-- A USER_DESCRIPTION of two octets. -/
theorem parse_build_user :
    let m := Message.new default
    let d := BaseMngTlv.USER_DESCRIPTION ⟨⟨0, [104, 105]⟩⟩
    (m.setActionData .SET d.id d).1 = true ∧
      ∃ b, (m.setActionData .SET d.id d).2.build (fun _ => 0) 58 7 = some b ∧ b.err = .OK ∧
        b.msg.msgLen = messageSize d ∧ b.msg.dataSend = some d.built ∧
        ShowsReply m.prms .SET d.built 7 (m.parse (withAction b.mem (replyTo .SET)) b.msg.msgLen) :=
  parse_build (Message.new default) (Message.new default) .SET (.USER_DESCRIPTION ⟨⟨0, [104, 105]⟩⟩) (fun _ => 0) 58 7
    ⟨.inl rfl, by decide⟩ rfl rfl (by decide) (by decide : [104, 105].length < 256) trivial (by decide) (by decide)

end LibPmc
