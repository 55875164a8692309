import LibPmc.Held
/-!
# What is wrong with a message

`Understood` and `Fault` speak of the octets of a message alone. Each message is understood or has a
fault, no message has two, and `parse` gives the fault as its error: `parse_fault_iff`.
-/
namespace LibPmc

open Wire Wire.Prog

/-! ## The octets -/

/-- A message that has something to report. -/
inductive Understood (prms : MsgParams) (buf : Mem) (n : Int) : Prop
  | reply {action : ActionField} {id : MngVals} (h : MngReply prms buf n action id)
      (hd : lengthOf buf = 2 ∨ ¬ HasDataField id ∨ dataFieldOf buf id ≠ none)
  | error {action : ActionField} {id : MngVals} (h : ErrReply prms buf n action id) (hd : ¬ TextTooLong buf)
  | signaling (h : SigHeader prms buf n) (hw : (sigWalk prms buf n).2 = .SIG)

/-- Where a TLV has its id, and the least value of its lengthField. -/
structure Shape where
  id : Nat
  base : Nat

def shapeOf (buf : Mem) : Option Shape :=
  if tlvTypeOf buf = TlvType.MANAGEMENT_ERROR_STATUS then some ⟨54, 8⟩
  else if tlvTypeOf buf = TlvType.MANAGEMENT then some ⟨52, 2⟩
  else none

/-- What is wrong with a TLV before its data. -/
inductive TlvFault (prms : MsgParams) (buf : Mem) (n : Int) (action : ActionField) (s : Shape) : MngParseError → Prop
  | short (h : n < 52 + s.base) : TlvFault prms buf n action s .TOO_SMALL
  | unknown (h : 52 + s.base ≤ n) (hid : findTlvId (u16 buf s.id) prms.implementSpecific = none) :
      TlvFault prms buf n action s .INVALID_ID
  | notAllowed {id : MngVals} (h : 52 + s.base ≤ n) (hid : findTlvId (u16 buf s.id) prms.implementSpecific = some id)
      (hc : Message.checkReplyAction id action = false) : TlvFault prms buf n action s .ACTION
  | length {id : MngVals} (h : 52 + s.base ≤ n) (hid : findTlvId (u16 buf s.id) prms.implementSpecific = some id)
      (hc : Message.checkReplyAction id action = true)
      (hl : ¬ (s.base ≤ lengthOf buf ∧ lengthOf buf % 2 = 0 ∧ 52 + lengthOf buf ≤ n)) :
        TlvFault prms buf n action s .TOO_SMALL

/-- The error of a dataField that is no structure of the id. -/
def fieldError (buf : Mem) (t : BaseMngTlv) : MngParseError :=
  ((procTlv t).read (lengthOf buf - 2) (buf.slice mngMsgBaseSize (lengthOf buf - 2).toNat)).err.getD .TOO_SMALL

/-- What is wrong with a message. -/
inductive Fault (prms : MsgParams) (buf : Mem) (n : Int) : MngParseError → Prop
  | short (h : n < sigBaseSize) : Fault prms buf n .TOO_SMALL
  /-- The other types are those of the clocks. -/
  | type (h : sigBaseSize ≤ n) (hs : buf 0 &&& 0xf ≠ MsgType.Signaling) (hm : buf 0 &&& 0xf ≠ MsgType.Management) :
      Fault prms buf n .HEADER
  | sigHeader (h : sigBaseSize ≤ n) (ht : buf 0 &&& 0xf = MsgType.Signaling) (hh : ¬ SigHeader prms buf n) :
      Fault prms buf n .HEADER
  | sigTlv (h : SigHeader prms buf n) (hw : (sigWalk prms buf n).2 ≠ .SIG) : Fault prms buf n (sigWalk prms buf n).2
  | mngShort (h : sigBaseSize ≤ n) (ht : buf 0 &&& 0xf = MsgType.Management) (hn : n < mngHeaderSize + tlvSize) :
      Fault prms buf n .TOO_SMALL
  | mngHeader (h : mngHeaderSize + tlvSize ≤ n) (ht : buf 0 &&& 0xf = MsgType.Management) (hh : ¬ MngHeader buf n) :
      Fault prms buf n .HEADER
  /-- Requests, among others. -/
  | action (h : MngHeader buf n) (ha : actionOf buf = none) : Fault prms buf n .ACTION
  | tlvType {action : ActionField} (h : MngHeader buf n) (ha : actionOf buf = some action) (hs : shapeOf buf = none) :
      Fault prms buf n .INVALID_TLV
  | tlv {action : ActionField} {s : Shape} {e : MngParseError} (h : MngHeader buf n) (ha : actionOf buf = some action)
      (hs : shapeOf buf = some s) (hf : TlvFault prms buf n action s e) : Fault prms buf n e
  | field {action : ActionField} {id : MngVals} {t : BaseMngTlv} (h : MngReply prms buf n action id)
      (h2 : lengthOf buf ≠ 2) (ht : newTlv id = some t) (hd : dataFieldOf buf id = none) :
        Fault prms buf n (fieldError buf t)
  | text {action : ActionField} {id : MngVals} (h : ErrReply prms buf n action id) (hl : TextTooLong buf) :
      Fault prms buf n .TOO_SMALL

/-! ## There is one, or the message is understood -/

section Octets
variable (prms : MsgParams) (buf : Mem) (n : Int)

theorem shapeOf_eq_some {buf : Mem} {s : Shape} (h : shapeOf buf = some s) :
    (tlvTypeOf buf = TlvType.MANAGEMENT_ERROR_STATUS ∧ s = ⟨54, 8⟩) ∨
      (tlvTypeOf buf = TlvType.MANAGEMENT ∧ s = ⟨52, 2⟩) := by
  unfold shapeOf at h
  split at h
  · exact .inl ⟨‹_›, (Option.some.inj h).symm⟩
  split at h
  · exact .inr ⟨‹_›, (Option.some.inj h).symm⟩
  · cases h

/-- A TLV without a fault has an id that is replied to, and data that is there. -/
theorem tlvFault_or (action : ActionField) (s : Shape) : (∃ e, TlvFault prms buf n action s e) ∨
    ∃ id, 52 + s.base ≤ n ∧ findTlvId (u16 buf s.id) prms.implementSpecific = some id ∧
      Message.checkReplyAction id action = true ∧ s.base ≤ lengthOf buf ∧ lengthOf buf % 2 = 0 ∧
      52 + lengthOf buf ≤ n := by
  by_cases hn : n < 52 + s.base
  · exact .inl ⟨_, .short hn⟩
  have hn := not_lt.1 hn
  cases hid : findTlvId (u16 buf s.id) prms.implementSpecific with
  | none => exact .inl ⟨_, .unknown hn hid⟩
  | some id =>
    cases hc : Message.checkReplyAction id action with
    | false => exact .inl ⟨_, .notAllowed hn hid hc⟩
    | true =>
      by_cases hl : s.base ≤ lengthOf buf ∧ lengthOf buf % 2 = 0 ∧ 52 + lengthOf buf ≤ n
      · exact .inr ⟨id, hn, rfl, hc, hl⟩
      · exact .inl ⟨_, .length hn hid hc hl⟩

theorem fault_or_of_mngReply {prms : MsgParams} {buf : Mem} {n : Int} {action : ActionField} {id : MngVals}
    (h : MngReply prms buf n action id) : Understood prms buf n ∨ ∃ e, Fault prms buf n e := by
  by_cases h2 : lengthOf buf = 2
  · exact .inl (.reply h (.inl h2))
  cases ht : newTlv id with
  | none => exact .inl (.reply h (.inr (.inl (newTlv_eq_none_iff.1 ht))))
  | some t =>
    by_cases hd : dataFieldOf buf id = none
    · exact .inr ⟨_, .field h h2 ht hd⟩
    · exact .inl (.reply h (.inr (.inr hd)))

theorem understood_or_fault : Understood prms buf n ∨ ∃ e, Fault prms buf n e := by
  by_cases hn : n < sigBaseSize
  · exact .inr ⟨_, .short hn⟩
  have hn := not_lt.1 hn
  by_cases hs : buf 0 &&& 0xf = MsgType.Signaling
  · by_cases hh : SigHeader prms buf n
    · by_cases hw : (sigWalk prms buf n).2 = .SIG
      · exact .inl (.signaling hh hw)
      · exact .inr ⟨_, .sigTlv hh hw⟩
    · exact .inr ⟨_, .sigHeader hn hs hh⟩
  by_cases hm : buf 0 &&& 0xf = MsgType.Management
  swap
  · exact .inr ⟨_, .type hn hs hm⟩
  by_cases hl : n < mngHeaderSize + tlvSize
  · exact .inr ⟨_, .mngShort hn hm hl⟩
  by_cases hh : MngHeader buf n
  swap
  · exact .inr ⟨_, .mngHeader (not_lt.1 hl) hm hh⟩
  cases ha : actionOf buf with
  | none => exact .inr ⟨_, .action hh ha⟩
  | some action =>
    cases ht : shapeOf buf with
    | none => exact .inr ⟨_, .tlvType hh ha ht⟩
    | some s =>
      rcases tlvFault_or prms buf n action s with ⟨e, hf⟩ | ⟨id, hn, hid, hc, hb, he, hl⟩
      · exact .inr ⟨e, .tlv hh ha ht hf⟩
      rcases shapeOf_eq_some ht with ⟨ht', rfl⟩ | ⟨ht', rfl⟩
      · have h : ErrReply prms buf n action id := ⟨hh, ha, ht', hn, hid, hc, hb, he, hl⟩
        by_cases hx : TextTooLong buf
        · exact .inr ⟨_, .text h hx⟩
        · exact .inl (.error h hx)
      · exact fault_or_of_mngReply ⟨hh, ha, ht', hn, hid, hc, hb, he, .inr hl⟩

end Octets

/-! ## It is the error of the parse -/

section Parse
variable (m : Message) {buf : Mem} {n : Int} {action : ActionField} {s : Shape} {e : MngParseError}

/-- Both kinds of messages end with these checks of the header. -/
theorem parseHeader_version (hv : ¬ (buf 1 &&& 0xf = ptp_major_ver ∧ buf 33 = logMessageIntervalDef)) :
    (m.parseHeader buf n).err = .HEADER := by
  unfold Message.parseHeader
  by_cases h1 : buf 1 &&& 0xf = ptp_major_ver
  · rw [if_neg (not_not.2 h1), if_pos fun h33 => hv ⟨h1, h33⟩]
    rfl
  · rw [if_pos h1]
    rfl

theorem parse_sigHeader (h : sigBaseSize ≤ n) (ht : buf 0 &&& 0xf = MsgType.Signaling) (hh : ¬ SigHeader m.prms buf n) :
    (m.parse buf n).err = .HEADER := by
  unfold Message.parse
  rw [if_neg (not_lt.2 h), if_pos ht]
  by_cases hr : m.prms.rcvSignaling = true
  · rw [if_neg (not_not.2 hr)]
    by_cases h32 : buf 32 = controlFieldDef
    · rw [if_neg (not_not.2 h32)]
      exact parseHeader_version _ fun hv => hh ⟨h, hr, ht, h32, hv⟩
    · rw [if_pos h32]
      rfl
  · rw [if_pos hr]
    rfl

theorem parse_mngHeader (h : mngHeaderSize + tlvSize ≤ n) (ht : buf 0 &&& 0xf = MsgType.Management)
    (hh : ¬ MngHeader buf n) : (m.parse buf n).err = .HEADER := by
  have hb : (sigBaseSize : Int) ≤ n := le_trans (by decide) h
  have hs : ¬ buf 0 &&& 0xf = MsgType.Signaling := by rw [ht]; decide
  unfold Message.parse
  rw [if_neg (not_lt.2 hb), if_neg hs, if_pos ht, if_neg (not_lt.2 h)]
  by_cases h32 : buf 32 = controlFieldMng
  · rw [if_neg (not_not.2 h32)]
    exact parseHeader_version _ fun hv => hh ⟨h, ht, h32, hv⟩
  · rw [if_pos h32]
    rfl

/-- The two kinds of TLVs go through the same checks. -/
theorem TlvFault.parseMng (hf : TlvFault m.prms buf n m.replyAction ⟨52, 2⟩ e) :
    (m.parseMng buf (n - mngHeaderSize - tlvSize) (lengthOf buf)).err = e := by
  unfold Message.parseMng
  have hsize (h : ((52 + 2 : Nat) : Int) ≤ n) : ¬ n - mngHeaderSize - tlvSize < (lengthFieldMngBase : Int) := by
    simp only [mngHeaderSize, tlvSize, lengthFieldMngBase]; omega
  cases hf with
  | short h =>
    dsimp only at h
    rw [if_pos (by simp only [mngHeaderSize, tlvSize, lengthFieldMngBase]; omega)]
    rfl
  | unknown h hid =>
    have hid : findTlvId (u16 buf (mngHeaderSize + tlvSize)) m.prms.implementSpecific = none := hid
    rw [if_neg (hsize h), hid]
    rfl
  | notAllowed h hid hc =>
    have hid : findTlvId (u16 buf (mngHeaderSize + tlvSize)) m.prms.implementSpecific = some _ := hid
    rw [if_neg (hsize h), hid]
    dsimp only
    rw [if_pos (by rw [hc]; decide)]
    rfl
  | length h hid hc hl =>
    have hid : findTlvId (u16 buf (mngHeaderSize + tlvSize)) m.prms.implementSpecific = some _ := hid
    rw [if_neg (hsize h), hid]
    dsimp only at hl ⊢
    rw [if_neg (not_not.2 hc)]
    by_cases hodd : lengthOf buf < (lengthFieldMngBase : Int) ∨ lengthOf buf % 2 = 1
    · rw [if_pos hodd]
      rfl
    · simp only [lengthFieldMngBase] at hodd h
      rw [if_neg (by simpa only [lengthFieldMngBase] using hodd), if_neg (by simp only [lengthFieldMngBase]; omega),
        if_pos (by simp only [mngHeaderSize, tlvSize, lengthFieldMngBase]; omega)]
      rfl

theorem TlvFault.parseError (hf : TlvFault m.prms buf n m.replyAction ⟨54, 8⟩ e) :
    (m.parseError buf (n - mngHeaderSize - tlvSize) (lengthOf buf)).err = e := by
  unfold Message.parseError
  have hsize (h : ((52 + 8 : Nat) : Int) ≤ n) : ¬ n - mngHeaderSize - tlvSize < (errorTlvSize : Int) := by
    simp only [mngHeaderSize, tlvSize, errorTlvSize]; omega
  cases hf with
  | short h =>
    dsimp only at h
    rw [if_pos (by simp only [mngHeaderSize, tlvSize, errorTlvSize]; omega)]
    rfl
  | unknown h hid =>
    have hid : findTlvId (u16 buf (mngHeaderSize + tlvSize + 2)) m.prms.implementSpecific = none := hid
    rw [if_neg (hsize h), hid]
    rfl
  | notAllowed h hid hc =>
    have hid : findTlvId (u16 buf (mngHeaderSize + tlvSize + 2)) m.prms.implementSpecific = some _ := hid
    rw [if_neg (hsize h), hid]
    dsimp only
    rw [if_pos (by rw [hc]; decide)]
    rfl
  | length h hid hc hl =>
    have hid : findTlvId (u16 buf (mngHeaderSize + tlvSize + 2)) m.prms.implementSpecific = some _ := hid
    rw [if_neg (hsize h), hid]
    dsimp only at hl ⊢
    rw [if_neg (not_not.2 hc)]
    by_cases hodd : lengthOf buf < (errorTlvSize : Int) ∨ lengthOf buf % 2 = 1
    · rw [if_pos hodd]
      rfl
    · simp only [errorTlvSize] at hodd h
      rw [if_neg (by simpa only [errorTlvSize] using hodd),
        if_pos (by simp only [mngHeaderSize, tlvSize, errorTlvSize]; omega)]
      rfl

theorem parse_fieldError {id : MngVals} {t : BaseMngTlv} (h : MngReply m.prms buf n action id) (h2 : lengthOf buf ≠ 2)
    (ht : newTlv id = some t) (hd : dataFieldOf buf id = none) : (m.parse buf n).err = fieldError buf t := by
  have hc : callTlvData id .wild = mode (pure .wild) (.to <$> procTlv t) := by unfold callTlvData; rw [ht]
  obtain ⟨hv, -, he, -⟩ := run_parse (callTlvData id .wild) (parseCursor buf mngMsgBaseSize (lengthOf buf - 2)) rfl
  have hnone : ((procTlv t).read (lengthOf buf - 2) (buf.slice mngMsgBaseSize (lengthOf buf - 2).toNat)).val =
      none := by
    unfold dataFieldOf at hd
    rwa [ht] at hd
  have hv := hv.trans ((read_callTlvData ht _ _ _).trans (congrArg (Option.map TlvPtr.to) hnone))
  have he : ((callTlvData id .wild).run (parseCursor buf mngMsgBaseSize (lengthOf buf - 2))).2.err =
      fieldError buf t := by
    rw [he, hc]
    exact congrArg (Option.getD · MngParseError.TOO_SMALL) (read_map_err TlvPtr.to (procTlv t) _ _ hnone)
  rw [parse_of_mngReply m h, if_neg h2]
  unfold Message.parseData
  rw [show (m.replied buf action id).tlvId = id from rfl]
  rcases hr : (callTlvData id .wild).run (parseCursor buf mngMsgBaseSize (lengthOf buf - 2)) with ⟨r, c⟩
  rw [hr] at hv he
  obtain rfl : r = none := hv
  exact he

theorem Fault.parse (h : Fault m.prms buf n e) : (m.parse buf n).err = e := by
  cases h with
  | short h =>
    unfold Message.parse
    rw [if_pos h]
    rfl
  | type h hs hm =>
    unfold Message.parse
    rw [if_neg (not_lt.2 h), if_neg hs, if_neg hm]
    rfl
  | sigHeader h ht hh => exact parse_sigHeader m h ht hh
  | sigTlv h hw => exact (parse_sigTlvs m h).1
  | mngShort h ht hn =>
    have hs : ¬ buf 0 &&& 0xf = MsgType.Signaling := by rw [ht]; decide
    unfold Message.parse
    rw [if_neg (not_lt.2 h), if_neg hs, if_pos ht, if_pos hn]
    rfl
  | mngHeader h ht hh => exact parse_mngHeader m h ht hh
  | action h ha =>
    unfold actionOf at ha
    rw [parse_of_mngHeader m h]
    unfold Message.parseManagement
    rw [ha]
    rfl
  | tlvType h ha hs =>
    unfold shapeOf at hs
    rw [parse_of_mngHeader m h, parseManagement_of_action _ ha]
    split at hs
    · cases hs
    split at hs
    · cases hs
    rw [if_neg ‹_›, if_pos ‹_›]
    rfl
  | tlv h ha hs hf =>
    rw [parse_of_mngHeader m h, parseManagement_of_action _ ha]
    rcases shapeOf_eq_some hs with ⟨ht, rfl⟩ | ⟨ht, rfl⟩
    · rw [if_pos ht]
      exact hf.parseError { m.headed buf with replyAction := _ }
    · rw [if_neg (by rw [ht]; decide), if_neg (not_not.2 ht)]
      exact hf.parseMng { m.headed buf with replyAction := _ }
  | field h h2 ht hd => exact parse_fieldError m h h2 ht hd
  | text h hl =>
    have hn : ¬ Accepted (m.parse buf n).err := fun h' => (parse_err_accepted_iff m h).1 h' hl
    rw [parse_of_errReply m h, if_pos hl.1] at hn ⊢
    exact (parseErrorDisplay_err (m.failed buf _ _) buf (lengthOf buf - 8)).resolve_left fun h => hn (.inr h)

theorem Fault.failure (h : Fault m.prms buf n e) : Failure e := by
  have hp := h.parse
  cases h with
  | short _ | type _ _ _ | sigHeader _ _ _ | mngShort _ _ _ | mngHeader _ _ _ | action _ _ | tlvType _ _ _
  | text _ _ => decide
  | sigTlv _ hw => exact (walk_err _ _ _ _ _).resolve_left hw
  | tlv _ _ _ hf =>
    cases hf with
    | short _ | unknown _ _ | notAllowed _ _ _ | length _ _ _ _ => decide
  | @field _ id _ h h2 ht hd =>
    rw [← hp]
    have hf : HasDataField id := fun hn => by rw [newTlv_eq_none (fun h => h hn)] at ht; cases ht
    exact (parse_data m h h2 hf).1 hd

theorem Understood.parse (h : Understood m.prms buf n) : ¬ Failure (m.parse buf n).err := by
  cases h with
  | @reply action id h hd =>
    refine fun hf => not_accepted hf (.inl ?_)
    by_cases h2 : lengthOf buf = 2
    · exact (parse_empty m h h2).1
    by_cases hn : HasDataField id
    · obtain ⟨d, hd⟩ := Option.ne_none_iff_exists'.1 ((hd.resolve_left h2).resolve_left (not_not.2 hn))
      exact ((parse_data m h h2 hn).2 d hd).1
    · exact (parse_wild m h h2 hn).1
  | error h hd => exact fun hf => not_accepted hf ((parse_err_accepted_iff m h).2 hd)
  | signaling h hw =>
    rw [(parse_sigTlvs m h).1, hw]
    decide

/-- The errors of a parse are the faults of the octets. -/
theorem parse_fault_iff : Fault m.prms buf n e ↔ (m.parse buf n).err = e ∧ Failure e := by
  constructor
  · exact fun h => ⟨h.parse, h.failure⟩
  · rintro ⟨rfl, hf⟩
    rcases understood_or_fault m.prms buf n with h | ⟨e, h⟩
    · exact absurd hf h.parse
    · rw [h.parse]
      exact h

end Parse

end LibPmc
