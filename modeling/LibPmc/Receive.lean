import LibPmc.Walk
/-!
# What a parse can do

A received message is a signaling message with a good header, a management reply, a
management error, or it is refused. `parse_cases` says so, with what the octets must
be for each, and everything below about `parse` is derived from it.
-/
namespace LibPmc

open Wire Wire.Prog

/-! ## Staying inside -/

/-- All reads are inside the `n` octets, the loop's two counters always end there, and no
process function has taken more than its TLV holds. -/
structure Trace.Within (t : Trace) (n : Int) : Prop where
  reads : ∀ r ∈ t.reads, ((r.1 + r.2 : Nat) : Int) ≤ n
  heads : ∀ h ∈ t.heads, (h.1 : Int) + h.2 = n
  lefts : ∀ l ∈ t.lefts, 0 ≤ l

theorem Trace.within_append {a b : Trace} {n : Int} : (a.append b).Within n ↔ a.Within n ∧ b.Within n := by
  constructor
  · rintro ⟨h1, h2, h3⟩
    simp only [append_reads, append_heads, append_lefts, List.mem_append] at h1 h2 h3
    exact ⟨⟨fun r h => h1 r (.inl h), fun r h => h2 r (.inl h), fun r h => h3 r (.inl h)⟩,
      ⟨fun r h => h1 r (.inr h), fun r h => h2 r (.inr h), fun r h => h3 r (.inr h)⟩⟩
  · rintro ⟨⟨h1, h2, h3⟩, ⟨h4, h5, h6⟩⟩
    refine ⟨?_, ?_, ?_⟩ <;> simp only [append_reads, append_heads, append_lefts, List.mem_append] <;>
      rintro r (h | h)
    · exact h1 r h
    · exact h4 r h
    · exact h2 r h
    · exact h5 r h
    · exact h3 r h
    · exact h6 r h

theorem Trace.within_empty (n : Int) : Trace.empty.Within n := ⟨by simp, by simp, by simp⟩

/-- Reads at fixed places of the header. -/
theorem Trace.within_reads {r : List (Nat × Nat)} {n : Int} (h : ∀ x ∈ r, ((x.1 + x.2 : Nat) : Int) ≤ n) :
    ({ Trace.empty with reads := r } : Trace).Within n := ⟨h, by simp, by simp⟩

/-- A process function that checks what it moves past stays in the octets it was given. -/
theorem Trace.within_ofCursor {α : Type} (p : P α) [hc : Checked Failure p] (buf : Mem) (cur : Nat) {left n : Int}
    (h0 : 0 ≤ left) (hn : cur + left ≤ n) : (Trace.ofCursor (p.run (parseCursor buf cur left)).2).Within n := by
  obtain ⟨_, h2, _, _, h5⟩ := run_parse p (parseCursor buf cur left) rfl
  obtain ⟨l, hl, hin⟩ := h5.reads
  refine ⟨?_, by simp, ?_⟩
  · intro r hr
    rw [ofCursor_reads, hl] at hr
    simp only [parseCursor, List.nil_append] at hr hin
    have := (hin r hr).2
    omega
  · intro x hx
    rw [ofCursor_lefts, List.mem_singleton, h2] at hx
    rw [hx]
    exact hc.left_nonneg _ _ h0

/-! ## The header -/

/-- A header with a type and the control field and the values that go with any type. -/
def Header (buf : Mem) (type controlField : UInt8) : Prop :=
  buf 0 &&& 0xf = type ∧ buf 32 = controlField ∧ buf 1 &&& 0xf = ptp_major_ver ∧ buf 33 = logMessageIntervalDef

/-- The header of a signaling message that gets parsed. -/
def SigHeader (prms : MsgParams) (buf : Mem) (n : Int) : Prop :=
  sigBaseSize ≤ n ∧ prms.rcvSignaling = true ∧ Header buf MsgType.Signaling controlFieldDef

/-- The header of a management message that gets parsed. -/
def MngHeader (buf : Mem) (n : Int) : Prop :=
  mngHeaderSize + tlvSize ≤ n ∧ Header buf MsgType.Management controlFieldMng

/-- The TLV type of a management message, its lengthField and the action it replies with. -/
def tlvTypeOf (buf : Mem) : UInt16 := u16 buf mngHeaderSize
def lengthOf (buf : Mem) : Int := (u16 buf (mngHeaderSize + 2)).toNat
def actionOf (buf : Mem) : Option ActionField := Message.replyAction? (buf 46 &&& 0xf)

/-- A reply to a request of the id, with a dataField that is there. -/
def MngReply (prms : MsgParams) (buf : Mem) (n : Int) (action : ActionField) (id : MngVals) : Prop :=
  MngHeader buf n ∧ actionOf buf = some action ∧ tlvTypeOf buf = TlvType.MANAGEMENT ∧ mngMsgBaseSize ≤ n ∧
    findTlvId (u16 buf 52) prms.implementSpecific = some id ∧ Message.checkReplyAction id action = true ∧
    2 ≤ lengthOf buf ∧ lengthOf buf % 2 = 0 ∧ (lengthOf buf = 2 ∨ 52 + lengthOf buf ≤ n)

/-- A management error on the id, with a displayData that is there. -/
def ErrReply (prms : MsgParams) (buf : Mem) (n : Int) (action : ActionField) (id : MngVals) : Prop :=
  MngHeader buf n ∧ actionOf buf = some action ∧ tlvTypeOf buf = TlvType.MANAGEMENT_ERROR_STATUS ∧ 60 ≤ n ∧
    findTlvId (u16 buf 54) prms.implementSpecific = some id ∧ Message.checkReplyAction id action = true ∧
    8 ≤ lengthOf buf ∧ lengthOf buf % 2 = 0 ∧ 52 + lengthOf buf ≤ n

theorem not_sigHeader {prms : MsgParams} {buf : Mem} {n : Int} (h : MngHeader buf n) : ¬ SigHeader prms buf n := by
  rintro ⟨-, -, h', -⟩
  rw [h.2.1] at h'
  exact absurd h' (by decide)

theorem not_errReply {prms : MsgParams} {buf : Mem} {n : Int} {action action' : ActionField} {id id' : MngVals}
    (h : MngReply prms buf n action id) : ¬ ErrReply prms buf n action' id' := by
  rintro ⟨-, -, h', -⟩
  rw [h.2.2.1] at h'
  exact absurd h' (by decide)

theorem mngReply_unique {prms : MsgParams} {buf : Mem} {n : Int} {action action' : ActionField} {id id' : MngVals}
    (h : MngReply prms buf n action id) (h' : MngReply prms buf n action' id') : action' = action ∧ id' = id := by
  obtain ⟨-, ha, -, -, hid, -⟩ := h
  obtain ⟨-, ha', -, -, hid', -⟩ := h'
  exact ⟨Option.some.inj (ha'.symm.trans ha), Option.some.inj (hid'.symm.trans hid)⟩

instance (buf : Mem) (n : Int) : Decidable (MngHeader buf n) := by unfold MngHeader Header; infer_instance

/-- The id a management message names, for a reply or an error that has got so far. -/
def replyId (prms : MsgParams) (buf : Mem) (n : Int) : Option MngVals :=
  if MngHeader buf n ∧ (actionOf buf).isSome then
    if tlvTypeOf buf = TlvType.MANAGEMENT_ERROR_STATUS then
      if n < 60 then none else findTlvId (u16 buf 54) prms.implementSpecific
    else if tlvTypeOf buf = TlvType.MANAGEMENT then
      if n < mngMsgBaseSize then none else findTlvId (u16 buf 52) prms.implementSpecific
    else none
  else none

/-! ## The cases -/

/-- What is to be sent is the same. -/
structure SameSend (m m' : Message) : Prop where
  sendAction : m'.sendAction = m.sendAction
  dataSend : m'.dataSend = m.dataSend
  msgLen : m'.msgLen = m.msgLen
  prms : m'.prms = m.prms

/-- The object once the header is parsed. -/
def Message.headed (m : Message) (buf : Mem) : Message :=
  { m with type := buf 0 &&& 0xf, versionPTP := buf 1 &&& 0xf, minorVersionPTP := buf 1 >>> 4 }.setHeader buf

/-- A parse that gives an error. -/
structure Refused (m : Message) (buf : Mem) (n : Int) (p : Parsed) : Prop where
  err : Failure p.err
  within : p.trace.Within n
  stored : p.trace.stored = []
  send : SameSend m p.msg
  tlvId : p.msg.tlvId = (replyId m.prms buf n).getD m.tlvId

theorem Refused.reading {m : Message} {buf : Mem} {n : Int} {p : Parsed} (h : Refused m buf n p)
    {r : List (Nat × Nat)} (hr : ∀ x ∈ r, ((x.1 + x.2 : Nat) : Int) ≤ n) : Refused m buf n (p.reading r) :=
  ⟨h.err, Trace.within_append.2 ⟨Trace.within_reads hr, h.within⟩, h.stored, h.send, h.tlvId⟩

theorem refused_ret {m m' : Message} {buf : Mem} {n : Int} {e : MngParseError} (he : Failure e)
    (hs : SameSend m m') (hid : m'.tlvId = (replyId m.prms buf n).getD m.tlvId) : Refused m buf n (.ret e m') :=
  ⟨he, Trace.within_empty n, rfl, hs, hid⟩

/-- What is read before the two kinds of messages part. -/
def headReads : List (Nat × Nat) :=
  [(0, 1), (32, 1), (1, 1), (33, 1), (5, 1), (0, 1), (4, 1), (6, 1), (30, 2), (28, 2), (20, 8), (42, 2), (34, 8)]

theorem parse_of_mngHeader (m : Message) {buf : Mem} {n : Int} (h : MngHeader buf n) :
    m.parse buf n = .reading headReads ((m.headed buf).parseManagement buf n) := by
  obtain ⟨hn, h0, h32, h1, h33⟩ := h
  have hb : (sigBaseSize : Int) ≤ n := le_trans (by decide) hn
  have hs : ¬ buf 0 &&& 0xf = MsgType.Signaling := by rw [h0]; decide
  unfold Message.parse Message.parseHeader
  rw [if_neg (not_lt.2 hb), if_neg hs, if_pos h0, if_neg (not_lt.2 hn), if_neg (not_not.2 h32), if_neg (not_not.2 h1),
    if_neg (not_not.2 h33)]
  have hm : (if (m.headed buf).type = MsgType.Signaling then (m.headed buf).parseSig buf n
      else (m.headed buf).parseManagement buf n) = (m.headed buf).parseManagement buf n := if_neg hs
  rw [← hm]
  simp only [Parsed.reading_reading]
  rfl

theorem parse_of_sigHeader (m : Message) {buf : Mem} {n : Int} (h : SigHeader m.prms buf n) :
    m.parse buf n = .reading headReads ((m.headed buf).parseSig buf n) := by
  obtain ⟨hn, hr, h0, h32, h1, h33⟩ := h
  unfold Message.parse Message.parseHeader
  rw [if_neg (not_lt.2 hn), if_pos h0, if_neg (not_not.2 hr), if_neg (not_not.2 h32), if_neg (not_not.2 h1),
    if_neg (not_not.2 h33)]
  have hm : (if (m.headed buf).type = MsgType.Signaling then (m.headed buf).parseSig buf n
      else (m.headed buf).parseManagement buf n) = (m.headed buf).parseSig buf n := if_pos h0
  rw [← hm]
  simp only [Parsed.reading_reading]
  rfl

/-- Without a good header there is nothing to parse. -/
theorem parse_of_noHeader (m : Message) {buf : Mem} {n : Int} (hs : ¬ SigHeader m.prms buf n)
    (hm : ¬ MngHeader buf n) :
    Refused m buf n (m.parse buf n) := by
  have hid : replyId m.prms buf n = none := if_neg fun h => hm h.1
  have ret {e : MngParseError} {m' : Message} (he : Failure e) (h : SameSend m m')
      (ht : m'.tlvId = m.tlvId) : Refused m buf n (.ret e m') := refused_ret he h (by rw [hid]; exact ht)
  have head {m' : Message} (h : SameSend m m') (ht : m'.tlvId = m.tlvId) : Refused m buf n (.ret .HEADER m') :=
    ret (by decide) h ht
  have small {m' : Message} (h : SameSend m m') (ht : m'.tlvId = m.tlvId) : Refused m buf n (.ret .TOO_SMALL m') :=
    ret (by decide) h ht
  unfold Message.parse
  by_cases hn : n < sigBaseSize
  · rw [if_pos hn]
    exact small ⟨rfl, rfl, rfl, rfl⟩ rfl
  have hb : (44 : Int) ≤ n := not_lt.1 hn
  have one (i : Nat) (hi : i < 44) : ∀ x ∈ [(i, 1)], ((x.1 + x.2 : Nat) : Int) ≤ n := by
    simp only [List.mem_singleton, forall_eq]
    omega
  -- the last two checks, which both kinds of messages share
  have version (hv : ¬ (buf 1 &&& 0xf = ptp_major_ver ∧ buf 33 = logMessageIntervalDef)) :
      Refused m buf n (Message.parseHeader { m with type := buf 0 &&& 0xf } buf n) := by
    unfold Message.parseHeader
    refine Refused.reading ?_ (one 1 (by omega))
    by_cases h1 : buf 1 &&& 0xf = ptp_major_ver
    · rw [if_neg (not_not.2 h1)]
      refine Refused.reading ?_ (one 33 (by omega))
      rw [if_pos fun h33 => hv ⟨h1, h33⟩]
      exact head ⟨rfl, rfl, rfl, rfl⟩ rfl
    · rw [if_pos h1]
      exact head ⟨rfl, rfl, rfl, rfl⟩ rfl
  rw [if_neg hn]
  refine Refused.reading ?_ (one 0 (by omega))
  by_cases h0 : buf 0 &&& 0xf = MsgType.Signaling
  · rw [if_pos h0]
    by_cases hr : m.prms.rcvSignaling = true
    · rw [if_neg (not_not.2 hr)]
      refine Refused.reading ?_ (one 32 (by omega))
      by_cases h32 : buf 32 = controlFieldDef
      · rw [if_neg (not_not.2 h32)]
        exact version fun hv => hs ⟨not_lt.1 hn, hr, h0, h32, hv⟩
      · rw [if_pos h32]
        exact head ⟨rfl, rfl, rfl, rfl⟩ rfl
    · rw [if_pos hr]
      exact head ⟨rfl, rfl, rfl, rfl⟩ rfl
  · rw [if_neg h0]
    by_cases h0 : buf 0 &&& 0xf = MsgType.Management
    · rw [if_pos h0]
      by_cases hl : n < mngHeaderSize + tlvSize
      · rw [if_pos hl]
        exact small ⟨rfl, rfl, rfl, rfl⟩ rfl
      · rw [if_neg hl]
        refine Refused.reading ?_ (one 32 (by omega))
        by_cases h32 : buf 32 = controlFieldMng
        · rw [if_neg (not_not.2 h32)]
          exact version fun hv => hm ⟨not_lt.1 hl, h0, h32, hv⟩
        · rw [if_pos h32]
          exact head ⟨rfl, rfl, rfl, rfl⟩ rfl
    · rw [if_neg h0]
      exact head ⟨rfl, rfl, rfl, rfl⟩ rfl

/-- The object once the action and the id are known. -/
def Message.replied (m : Message) (buf : Mem) (action : ActionField) (id : MngVals) : Message :=
  { m.headed buf with replyAction := action, tlvId := id }

/-- The object once the error is known, too. -/
def Message.failed (m : Message) (buf : Mem) (action : ActionField) (id : MngVals) : Message :=
  { m.replied buf action id with errorId := u16 buf (mngHeaderSize + tlvSize) }

/-- What is read of a reply and of an error before their data. -/
def replyReads : List (Nat × Nat) := headReads ++ [(46, 1), (48, 2), (50, 2), (52, 2)]
def errReads : List (Nat × Nat) := headReads ++ [(46, 1), (48, 2), (50, 2), (54, 2), (52, 2)]

theorem parseManagement_of_action (m : Message) {buf : Mem} {n : Int} {action : ActionField}
    (h : actionOf buf = some action) :
    m.parseManagement buf n = .reading [(46, 1), (48, 2), (50, 2)]
      (if tlvTypeOf buf = TlvType.MANAGEMENT_ERROR_STATUS then
        { m with replyAction := action }.parseError buf (n - mngHeaderSize - tlvSize) (lengthOf buf)
      else if tlvTypeOf buf ≠ TlvType.MANAGEMENT then .ret .INVALID_TLV { m with replyAction := action }
      else { m with replyAction := action }.parseMng buf (n - mngHeaderSize - tlvSize) (lengthOf buf)) := by
  unfold actionOf at h
  unfold Message.parseManagement
  rw [h]
  rfl

theorem parse_of_mngReply (m : Message) {buf : Mem} {n : Int} {action : ActionField} {id : MngVals}
    (h : MngReply m.prms buf n action id) :
    m.parse buf n = .reading replyReads
      (if lengthOf buf = 2 then .ret .OK (m.replied buf action id)
      else (m.replied buf action id).parseData buf (lengthOf buf - 2)) := by
  obtain ⟨hh, ha, ht, hn, hid, hc, h2, he, hl⟩ := h
  have hs : ¬ n - mngHeaderSize - tlvSize < (lengthFieldMngBase : Int) := by
    simp only [mngMsgBaseSize] at hn; omega
  have hl2 : ¬ (lengthOf buf < (lengthFieldMngBase : Int) ∨ lengthOf buf % 2 = 1) := by
    simp only [lengthFieldMngBase]; omega
  rw [parse_of_mngHeader m hh, parseManagement_of_action _ ha, if_neg (by rw [ht]; decide), if_neg (not_not.2 ht)]
  unfold Message.parseMng
  rw [if_neg hs, show findTlvId (u16 buf (mngHeaderSize + tlvSize)) (m.headed buf).prms.implementSpecific =
    some id from hid]
  dsimp only
  rw [if_neg (not_not.2 hc), if_neg hl2]
  by_cases h0 : lengthOf buf = 2
  · rw [if_pos h0, if_pos (by simp only [lengthFieldMngBase]; omega)]
    rfl
  · have hl0 : ¬ lengthOf buf - (lengthFieldMngBase : Int) = 0 := by simp only [lengthFieldMngBase]; omega
    have hfit : ¬ n - mngHeaderSize - tlvSize - (lengthFieldMngBase : Int) < lengthOf buf - lengthFieldMngBase := by
      simp only [lengthFieldMngBase, mngHeaderSize, tlvSize]; omega
    rw [if_neg h0, if_neg hl0, if_neg hfit]
    rfl

theorem parse_of_errReply (m : Message) {buf : Mem} {n : Int} {action : ActionField} {id : MngVals}
    (h : ErrReply m.prms buf n action id) :
    m.parse buf n = .reading errReads
      (if 9 < lengthOf buf then (m.failed buf action id).parseErrorDisplay buf (lengthOf buf - 8)
      else .ret .MSG { m.failed buf action id with mngType := TlvType.MANAGEMENT_ERROR_STATUS }) := by
  obtain ⟨hh, ha, ht, hn, hid, hc, h8, he, hl⟩ := h
  have hs : ¬ n - mngHeaderSize - tlvSize < (errorTlvSize : Int) := by
    simp only [mngHeaderSize, tlvSize, errorTlvSize]; omega
  have hl8 : ¬ (lengthOf buf < (errorTlvSize : Int) ∨ lengthOf buf % 2 = 1) := by
    simp only [errorTlvSize]; omega
  have hfit : ¬ n - mngHeaderSize - tlvSize - (errorTlvSize : Int) < lengthOf buf - errorTlvSize := by
    simp only [errorTlvSize, mngHeaderSize, tlvSize]; omega
  rw [parse_of_mngHeader m hh, parseManagement_of_action _ ha, if_pos ht]
  unfold Message.parseError
  rw [if_neg hs,
    show findTlvId (u16 buf (mngHeaderSize + tlvSize + 2)) (m.headed buf).prms.implementSpecific = some id from hid]
  dsimp only
  rw [if_neg (not_not.2 hc), if_neg hl8, if_neg hfit, Parsed.reading_reading, Parsed.reading_reading,
    Parsed.reading_reading]
  by_cases h9 : 9 < lengthOf buf
  · rw [if_pos h9, if_pos (by simp only [errorTlvSize]; omega)]
    rfl
  · rw [if_neg h9, if_neg (by simp only [errorTlvSize]; omega)]
    rfl

section NoReply
variable (m : Message) {buf : Mem} {n : Int} {action : ActionField}

theorem refused_parseMng (hh : MngHeader buf n) (ha : actionOf buf = some action)
    (ht : tlvTypeOf buf = TlvType.MANAGEMENT) (hr : ∀ id, ¬ MngReply m.prms buf n action id) :
    Refused m buf n ({ m.headed buf with replyAction := action }.parseMng buf (n - mngHeaderSize - tlvSize)
      (lengthOf buf)) := by
  have hid : replyId m.prms buf n =
      if n < mngMsgBaseSize then none else findTlvId (u16 buf 52) m.prms.implementSpecific := by
    unfold replyId
    rw [if_pos ⟨hh, by rw [ha]; rfl⟩, if_neg (by rw [ht]; decide), if_pos ht]
  unfold Message.parseMng
  by_cases hs : n - mngHeaderSize - tlvSize < (lengthFieldMngBase : Int)
  · rw [if_pos hs]
    refine refused_ret (by decide) ⟨rfl, rfl, rfl, rfl⟩ ?_
    rw [hid, if_pos (by simp only [mngMsgBaseSize]; omega)]
    rfl
  have hn : (54 : Int) ≤ n := by simp only [mngHeaderSize, tlvSize, lengthFieldMngBase] at hs; omega
  rw [if_neg (by simp only [mngMsgBaseSize, mngHeaderSize, tlvSize, lengthFieldMngBase]; omega)] at hid
  rw [if_neg hs]
  refine Refused.reading ?_ (by simp only [mngHeaderSize, tlvSize, List.mem_singleton, forall_eq]; omega)
  -- an id that is found stays, whatever is refused behind it
  cases hf : findTlvId (u16 buf 52) m.prms.implementSpecific with
  | none =>
    rw [show findTlvId (u16 buf (mngHeaderSize + tlvSize)) (m.headed buf).prms.implementSpecific = none from hf]
    exact refused_ret (by decide) ⟨rfl, rfl, rfl, rfl⟩ (by rw [hid, hf]; rfl)
  | some id =>
    have same (e : MngParseError) (he : Failure e) :
        Refused m buf n (.ret e (m.replied buf action id)) :=
      refused_ret he ⟨rfl, rfl, rfl, rfl⟩ (by rw [hid, hf]; rfl)
    rw [show findTlvId (u16 buf (mngHeaderSize + tlvSize)) (m.headed buf).prms.implementSpecific = some id from hf]
    dsimp only
    by_cases hc : Message.checkReplyAction id action = true
    · by_cases hl : lengthOf buf < (lengthFieldMngBase : Int) ∨ lengthOf buf % 2 = 1
      · rw [if_neg (not_not.2 hc), if_pos hl]
        exact same _ (by decide)
      · have hl' := hl
        simp only [lengthFieldMngBase] at hl'
        -- all but the length of the buffer is as in a reply
        have hbig : ¬ (lengthOf buf = 2 ∨ 52 + lengthOf buf ≤ n) := fun h =>
          hr id ⟨hh, ha, ht, hn, hf, hc, by omega, by omega, h⟩
        rw [if_neg (not_not.2 hc), if_neg hl, if_neg (by simp only [lengthFieldMngBase]; omega),
          if_pos (by simp only [mngHeaderSize, tlvSize, lengthFieldMngBase]; omega)]
        exact same _ (by decide)
    · rw [if_pos hc]
      exact same _ (by decide)

theorem refused_parseError (hh : MngHeader buf n) (ha : actionOf buf = some action)
    (ht : tlvTypeOf buf = TlvType.MANAGEMENT_ERROR_STATUS) (hr : ∀ id, ¬ ErrReply m.prms buf n action id) :
    Refused m buf n ({ m.headed buf with replyAction := action }.parseError buf (n - mngHeaderSize - tlvSize)
      (lengthOf buf)) := by
  have hid : replyId m.prms buf n = if n < 60 then none else findTlvId (u16 buf 54) m.prms.implementSpecific := by
    unfold replyId
    rw [if_pos ⟨hh, by rw [ha]; rfl⟩, if_pos ht]
  unfold Message.parseError
  by_cases hs : n - mngHeaderSize - tlvSize < (errorTlvSize : Int)
  · rw [if_pos hs]
    refine refused_ret (by decide) ⟨rfl, rfl, rfl, rfl⟩ ?_
    rw [hid, if_pos (by simp only [mngHeaderSize, tlvSize, errorTlvSize] at hs; omega)]
    rfl
  have hn : (60 : Int) ≤ n := by simp only [mngHeaderSize, tlvSize, errorTlvSize] at hs; omega
  rw [if_neg (not_lt.2 hn)] at hid
  rw [if_neg hs]
  refine Refused.reading ?_ (by simp only [mngHeaderSize, tlvSize, List.mem_singleton, forall_eq]; omega)
  cases hf : findTlvId (u16 buf 54) m.prms.implementSpecific with
  | none =>
    rw [show findTlvId (u16 buf (mngHeaderSize + tlvSize + 2)) (m.headed buf).prms.implementSpecific = none from hf]
    exact refused_ret (by decide) ⟨rfl, rfl, rfl, rfl⟩ (by rw [hid, hf]; rfl)
  | some id =>
    rw [show findTlvId (u16 buf (mngHeaderSize + tlvSize + 2)) (m.headed buf).prms.implementSpecific = some id from hf]
    dsimp only
    by_cases hc : Message.checkReplyAction id action = true
    · have same (e : MngParseError) (he : Failure e) :
          Refused m buf n (.ret e (m.failed buf action id)) :=
        refused_ret he ⟨rfl, rfl, rfl, rfl⟩ (by rw [hid, hf]; rfl)
      rw [if_neg (not_not.2 hc)]
      refine Refused.reading ?_ (by simp only [mngHeaderSize, tlvSize, List.mem_singleton, forall_eq]; omega)
      by_cases hl : lengthOf buf < (errorTlvSize : Int) ∨ lengthOf buf % 2 = 1
      · rw [if_pos hl]
        exact same _ (by decide)
      · have hl' := hl
        simp only [errorTlvSize] at hl'
        have hbig : ¬ 52 + lengthOf buf ≤ n := fun h => hr id ⟨hh, ha, ht, hn, hf, hc, by omega, by omega, h⟩
        rw [if_neg hl, if_pos (by simp only [mngHeaderSize, tlvSize, errorTlvSize]; omega)]
        exact same _ (by decide)
    · rw [if_pos hc]
      exact refused_ret (by decide) ⟨rfl, rfl, rfl, rfl⟩ (by rw [hid, hf]; rfl)

/-- A management message that is neither is refused. -/
theorem parse_of_noReply (hh : MngHeader buf n) (hr : ∀ action id, ¬ MngReply m.prms buf n action id)
    (he : ∀ action id, ¬ ErrReply m.prms buf n action id) : Refused m buf n (m.parse buf n) := by
  have hn : (52 : Int) ≤ n := hh.1
  have inside {r : List (Nat × Nat)} (h : ∀ x ∈ r, x.1 + x.2 ≤ 52) : ∀ x ∈ r, ((x.1 + x.2 : Nat) : Int) ≤ n :=
    fun x hx => le_trans (by exact_mod_cast h x hx) hn
  rw [parse_of_mngHeader m hh]
  refine Refused.reading ?_ (inside (by decide))
  cases ha : actionOf buf with
  | none =>
    have hid : replyId m.prms buf n = none := if_neg fun h => by simp [ha] at h
    unfold actionOf at ha
    unfold Message.parseManagement
    rw [ha]
    refine Refused.reading ?_ (inside (by decide))
    exact refused_ret (by decide) ⟨rfl, rfl, rfl, rfl⟩ (by rw [hid]; rfl)
  | some action =>
    rw [parseManagement_of_action _ ha]
    refine Refused.reading ?_ (inside (by decide))
    by_cases ht : tlvTypeOf buf = TlvType.MANAGEMENT_ERROR_STATUS
    · rw [if_pos ht]
      exact refused_parseError m hh ha ht (he action)
    · rw [if_neg ht]
      by_cases ht' : tlvTypeOf buf = TlvType.MANAGEMENT
      · rw [if_neg (not_not.2 ht')]
        exact refused_parseMng m hh ha ht' (hr action)
      · have hid : replyId m.prms buf n = none := by
          unfold replyId
          rw [if_neg ht, if_neg ht', ite_self]
        rw [if_pos ht']
        exact refused_ret (by decide) ⟨rfl, rfl, rfl, rfl⟩ (by rw [hid]; rfl)

end NoReply

/-- What a message is to a parse. -/
inductive Received (m : Message) (buf : Mem) (n : Int) : Prop where
  | sig (h : SigHeader m.prms buf n)
  | reply (action : ActionField) (id : MngVals) (h : MngReply m.prms buf n action id)
  | err (action : ActionField) (id : MngVals) (h : ErrReply m.prms buf n action id)
  | refused (hs : ¬ SigHeader m.prms buf n) (hr : ∀ action id, ¬ MngReply m.prms buf n action id)
      (he : ∀ action id, ¬ ErrReply m.prms buf n action id) (h : Refused m buf n (m.parse buf n))

/-- Every message is one of these. -/
theorem parse_cases (m : Message) (buf : Mem) (n : Int) : Received m buf n := by
  by_cases hs : SigHeader m.prms buf n
  · exact .sig hs
  by_cases hr : ∃ action id, MngReply m.prms buf n action id
  · obtain ⟨action, id, h⟩ := hr
    exact .reply action id h
  by_cases he : ∃ action id, ErrReply m.prms buf n action id
  · obtain ⟨action, id, h⟩ := he
    exact .err action id h
  have hr (action id) : ¬ MngReply m.prms buf n action id := fun h => hr ⟨action, id, h⟩
  have he (action id) : ¬ ErrReply m.prms buf n action id := fun h => he ⟨action, id, h⟩
  refine .refused hs hr he ?_
  by_cases hm : MngHeader buf n
  · exact parse_of_noReply m hm hr he
  · exact parse_of_noHeader m hs hm

theorem run_failure {α : Type} (p : P α) [hc : Checked Failure p] (buf : Mem) (cur : Nat) (left : Int) :
    Failure (p.run (parseCursor buf cur left)).2.err := by
  obtain ⟨-, -, he, -⟩ := run_parse p (parseCursor buf cur left) rfl
  rw [he]
  cases hr : (p.read (parseCursor buf cur left).left (parseCursor buf cur left).window).err with
  | none =>
    change Failure .TOO_SMALL
    decide
  | some e => exact hc.err _ _ e hr

/-- A dataField is decoded or refused. -/
theorem parseData_err (m : Message) (buf : Mem) (left : Int) :
    (m.parseData buf left).err = .OK ∨ Failure (m.parseData buf left).err := by
  have hf := run_failure (callTlvData m.tlvId .wild) buf mngMsgBaseSize left
  unfold Message.parseData
  rcases hr : (callTlvData m.tlvId .wild).run (parseCursor buf mngMsgBaseSize left) with ⟨_ | p, c⟩ <;> rw [hr] at hf
  · exact .inr hf
  · exact .inl rfl

theorem parseData_send (m : Message) (buf : Mem) (left : Int) :
    SameSend m (m.parseData buf left).msg ∧ (m.parseData buf left).msg.tlvId = m.tlvId := by
  unfold Message.parseData
  rcases (callTlvData m.tlvId .wild).run (parseCursor buf mngMsgBaseSize left) with ⟨_ | p, c⟩ <;>
    exact ⟨⟨rfl, rfl, rfl, rfl⟩, rfl⟩

theorem parseErrorDisplay_send (m : Message) (buf : Mem) (left : Int) :
    SameSend m (m.parseErrorDisplay buf left).msg ∧ (m.parseErrorDisplay buf left).msg.tlvId = m.tlvId := by
  unfold Message.parseErrorDisplay
  rcases m.errorDisplay.proc.run _ with ⟨_ | t, c⟩ <;> exact ⟨⟨rfl, rfl, rfl, rfl⟩, rfl⟩

theorem SameSend.trans {a b c : Message} (h : SameSend a b) (h' : SameSend b c) : SameSend a c :=
  ⟨h'.sendAction.trans h.sendAction, h'.dataSend.trans h.dataSend, h'.msgLen.trans h.msgLen, h'.prms.trans h.prms⟩

theorem replyId_of_mngReply {prms : MsgParams} {buf : Mem} {n : Int} {action : ActionField} {id : MngVals}
    (h : MngReply prms buf n action id) : replyId prms buf n = some id := by
  obtain ⟨hh, ha, ht, hn, hid, -⟩ := h
  unfold replyId
  rw [if_pos ⟨hh, by rw [ha]; rfl⟩, if_neg (by rw [ht]; decide), if_pos ht, if_neg (not_lt.2 hn)]
  exact hid

theorem replyId_of_errReply {prms : MsgParams} {buf : Mem} {n : Int} {action : ActionField} {id : MngVals}
    (h : ErrReply prms buf n action id) : replyId prms buf n = some id := by
  obtain ⟨hh, ha, ht, hn, hid, -⟩ := h
  unfold replyId
  rw [if_pos ⟨hh, by rw [ha]; rfl⟩, if_pos ht, if_neg (not_lt.2 hn)]
  exact hid

/-- A parse leaves what is to be sent alone, but for the id. -/
theorem parse_send (m : Message) (buf : Mem) (n : Int) :
    SameSend m (m.parse buf n).msg ∧ (m.parse buf n).msg.tlvId = (replyId m.prms buf n).getD m.tlvId := by
  cases parse_cases m buf n with
  | sig h =>
    have hid : replyId m.prms buf n = none := if_neg fun hm => not_sigHeader hm.1 h
    rw [parse_of_sigHeader m h, hid]
    change SameSend m ((m.headed buf).parseSig buf n).msg ∧ ((m.headed buf).parseSig buf n).msg.tlvId = m.tlvId
    rw [(parseSig_walk (m.headed buf) buf n).2.1]
    exact ⟨⟨rfl, rfl, rfl, rfl⟩, rfl⟩
  | reply action id h =>
    rw [parse_of_mngReply m h, replyId_of_mngReply h]
    split
    · exact ⟨⟨rfl, rfl, rfl, rfl⟩, rfl⟩
    · obtain ⟨hs, hid⟩ := parseData_send (m.replied buf action id) buf (lengthOf buf - 2)
      have hr : SameSend m (m.replied buf action id) := ⟨rfl, rfl, rfl, rfl⟩
      exact ⟨hr.trans hs, hid⟩
  | err action id h =>
    rw [parse_of_errReply m h, replyId_of_errReply h]
    split
    · obtain ⟨hs, hid⟩ := parseErrorDisplay_send (m.failed buf action id) buf (lengthOf buf - 8)
      have hf : SameSend m (m.failed buf action id) := ⟨rfl, rfl, rfl, rfl⟩
      exact ⟨hf.trans hs, hid⟩
    · exact ⟨⟨rfl, rfl, rfl, rfl⟩, rfl⟩
  | refused _ _ _ h => exact ⟨h.send, h.tlvId⟩

theorem parseErrorDisplay_err (m : Message) (buf : Mem) (left : Int) :
    (m.parseErrorDisplay buf left).err = .MSG ∨ (m.parseErrorDisplay buf left).err = .TOO_SMALL := by
  unfold Message.parseErrorDisplay
  rcases m.errorDisplay.proc.run _ with ⟨_ | t, c⟩
  · exact .inr rfl
  · exact .inl rfl

/-- Only a signaling message gives the signaling result. -/
theorem sigHeader_of_err (m : Message) {buf : Mem} {n : Int} (h : (m.parse buf n).err = .SIG) :
    SigHeader m.prms buf n := by
  cases parse_cases m buf n with
  | sig hs => exact hs
  | reply action id hr =>
    have he : (m.parse buf n).err = .OK ∨ Failure (m.parse buf n).err := by
      rw [parse_of_mngReply m hr]
      split
      · exact .inl rfl
      · exact parseData_err _ buf _
    rw [h] at he
    exact absurd he (by decide)
  | err action id hr =>
    have he : (m.parse buf n).err = .MSG ∨ (m.parse buf n).err = .TOO_SMALL := by
      rw [parse_of_errReply m hr]
      split
      · exact parseErrorDisplay_err _ buf _
      · exact .inl rfl
    rw [h] at he
    exact absurd he (by decide)
  | refused _ _ _ hr => exact absurd h hr.err.2.2

end LibPmc
