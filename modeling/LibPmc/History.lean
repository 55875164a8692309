import LibPmc.Safety
/-!
# What a parse keeps from earlier messages

An object parses one message after the other. `HistoryFree` says that what it shows after an
accepted message does not depend on what it parsed before.
-/
namespace LibPmc

open Wire Wire.Prog

namespace Message

/-- The object after a history of messages. -/
def parses (m : Message) (h : List (Mem × Int)) : Message := h.foldl (fun m x => (m.parse x.1 x.2).msg) m

theorem parses_prms (m : Message) (h : List (Mem × Int)) : (m.parses h).prms = m.prms := by
  induction h generalizing m with
  | nil => rfl
  | cons x h ih => exact (ih (m.parse x.1 x.2).msg).trans (parse_send m x.1 x.2).1.prms

end Message

/-- The parse results that show a message. -/
abbrev Accepted (e : MngParseError) : Prop := e = .OK ∨ e = .MSG

/-- The structure the dataField of a reply holds. -/
def dataFieldOf (buf : Mem) (id : MngVals) : Option BaseMngTlv :=
  (newTlv id).bind fun t => ((procTlv t).read (lengthOf buf - 2)
    (buf.slice mngMsgBaseSize (lengthOf buf - 2).toNat)).val

/-- Two parses of a message show the same. -/
structure SameResult (buf : Mem) (p q : Parsed) : Prop where
  err : q.err = p.err
  tlvId : q.msg.tlvId = p.msg.tlvId
  replyAction : q.msg.replyAction = p.msg.replyAction
  mngType : q.msg.mngType = p.msg.mngType
  dataGet : (p.msg.dataGet = .null ∧ q.msg.dataGet = .null) ∨
    ∃ d, dataFieldOf buf p.msg.tlvId = some d ∧ p.msg.dataGet = .to d ∧ q.msg.dataGet = .to d
  display : p.err = .MSG →
    q.msg.errorId = p.msg.errorId ∧ q.msg.errorDisplay.textField = p.msg.errorDisplay.textField

/-- An object of the parameters parses a message after a history. -/
def parseAfter (prms : MsgParams) (mem : Message) (h : List (Mem × Int)) (buf : Mem) (n : Int) : Parsed :=
  ((Message.ofParams prms mem).parses h).parse buf n

/-- What an accepted message shows is the same after every two histories. -/
def HistoryFree (prms : MsgParams) (buf : Mem) (n : Int) : Prop :=
  ∀ mem mem' h h', Accepted (parseAfter prms mem h buf n).err →
    SameResult buf (parseAfter prms mem h buf n) (parseAfter prms mem' h' buf n)

/-! ## The parts of a message -/

section Parts
variable (m : Message) {buf : Mem} {n : Int} {action : ActionField} {id : MngVals}

/-- The text of an error, with its length in front. -/
theorem read_text (d : PTPText_t) (buf : Mem) (pos : Nat) {k : Int} (h : 1 ≤ k) :
    ((proc d : P PTPText_t).read k (buf.slice pos k.toNat)).val.isSome = true ↔ 1 + ((buf pos).toNat : Int) ≤ k := by
  have hw : (proc (UInt8.ofNat d.textField.length) : P UInt8).read k (buf.slice pos k.toNat) =
      ⟨some (buf pos), k - 1, (buf.slice pos k.toNat).drop 1, none⟩ := by
    have hb : UInt8.ofNat (beNat (Octets.ofList 1 (buf.slice pos k.toNat)).val) = buf pos := by
      rw [Mem.ofList_octets buf pos (by omega)]
      simp [Mem.octets, Mem.slice, beNat]
    change (if k < ((1 : Nat) : Int) then _ else _) = _
    rw [if_neg (by omega)]
    exact congrArg (fun v => Outcome.mk (some v) (k - 1) ((buf.slice pos k.toNat).drop 1) none) hb
  change ((d.proc).read k _).val.isSome = true ↔ _
  unfold PTPText_t.proc
  rw [read_bind, hw]
  dsimp only
  rw [bind_pure_comp, read_map_val, Option.isSome_map]
  change (Outcome.val (if k - 1 < (((buf pos).toUInt16.toNat : Nat) : Int) then _ else _)).isSome = true ↔ _
  rw [UInt8.toNat_toUInt16]
  split
  · simp; omega
  · simp [pure, Prog.read]; omega

theorem parseErrorDisplay_fits (buf : Mem) (left : Int) (h : 1 ≤ left) :
    (m.parseErrorDisplay buf left).err = .MSG ↔ 1 + ((buf 60).toNat : Int) ≤ left := by
  have hr := (run_parse m.errorDisplay.proc (parseCursor buf (mngHeaderSize + tlvSize + errorTlvSize) left) rfl).1
  have ht := read_text m.errorDisplay buf (mngHeaderSize + tlvSize + errorTlvSize) h
  change _ = ((proc m.errorDisplay : P PTPText_t).read left
    (buf.slice (mngHeaderSize + tlvSize + errorTlvSize) left.toNat)).val at hr
  rw [← hr] at ht
  refine Iff.trans ?_ ht
  unfold Message.parseErrorDisplay
  rcases m.errorDisplay.proc.run (parseCursor buf (mngHeaderSize + tlvSize + errorTlvSize) left) with ⟨_ | t, c⟩
  · simp [Parsed.after, Parsed.ret]
  · simp [Parsed.after, Parsed.ret]

theorem parseErrorDisplay_dataGet (left : Int) : (m.parseErrorDisplay buf left).msg.dataGet = m.dataGet := by
  unfold Message.parseErrorDisplay
  rcases m.errorDisplay.proc.run _ with ⟨_ | t, c⟩ <;> rfl

/-- The displayData is there but does not hold the text. -/
def TextTooLong (buf : Mem) : Prop := 9 < lengthOf buf ∧ lengthOf buf - 8 < 1 + ((buf 60).toNat : Int)

theorem parse_err_accepted_iff (h : ErrReply m.prms buf n action id) :
    Accepted (m.parse buf n).err ↔ ¬ TextTooLong buf := by
  unfold TextTooLong
  rw [parse_of_errReply m h]
  by_cases h9 : 9 < lengthOf buf
  · have hf := parseErrorDisplay_fits (m.failed buf action id) buf (lengthOf buf - 8) (by omega)
    have he := parseErrorDisplay_err (m.failed buf action id) buf (lengthOf buf - 8)
    rw [if_pos h9]
    change Accepted ((m.failed buf action id).parseErrorDisplay buf (lengthOf buf - 8)).err ↔ _
    constructor
    · rintro (ha | ha)
      · rw [ha] at he
        simp at he
      · have := hf.1 ha
        omega
    · intro hn
      exact .inr (hf.2 (by omega))
  · rw [if_neg h9]
    exact ⟨fun _ hn => h9 hn.1, fun _ => .inr rfl⟩

/-- A management error leaves the structure of an earlier message. -/
theorem parse_err_dataGet (h : ErrReply m.prms buf n action id) : (m.parse buf n).msg.dataGet = m.dataGet := by
  rw [parse_of_errReply m h]
  split
  · exact parseErrorDisplay_dataGet (m.failed buf action id) _
  · rfl

/-- So does a reply with an empty dataField. -/
theorem parse_empty (h : MngReply m.prms buf n action id) (h2 : lengthOf buf = 2) :
    (m.parse buf n).err = .OK ∧ (m.parse buf n).msg.dataGet = m.dataGet := by
  rw [parse_of_mngReply m h, if_pos h2]
  exact ⟨rfl, rfl⟩

theorem parseData_of_read (buf : Mem) (left : Int) {t : BaseMngTlv} (ht : newTlv m.tlvId = some t)
    {o : Option BaseMngTlv} (ho : ((procTlv t).read left (buf.slice mngMsgBaseSize left.toNat)).val = o) :
    (o = none → Failure (m.parseData buf left).err) ∧
      ∀ d, o = some d → (m.parseData buf left).err = .OK ∧
        (m.parseData buf left).msg = { m with dataGet := .to d, mngType := TlvType.MANAGEMENT } := by
  have hv := (run_parse (callTlvData m.tlvId .wild) (parseCursor buf mngMsgBaseSize left) rfl).1
  have hf := run_failure (callTlvData m.tlvId .wild) buf mngMsgBaseSize left
  have hr := read_callTlvData ht .wild left (buf.slice mngMsgBaseSize left.toNat)
  rw [ho] at hr
  have hv := hv.trans hr
  unfold Message.parseData
  rcases hc : (callTlvData m.tlvId .wild).run (parseCursor buf mngMsgBaseSize left) with ⟨r, c⟩
  rw [hc] at hv hf
  obtain rfl : r = o.map .to := hv
  constructor
  · rintro rfl
    exact hf
  · rintro d rfl
    exact ⟨rfl, rfl⟩

/-- A reply with a dataField shows the structure in it, or is refused. -/
theorem parse_data (h : MngReply m.prms buf n action id) (h2 : lengthOf buf ≠ 2) (hd : HasDataField id) :
    (dataFieldOf buf id = none → Failure (m.parse buf n).err) ∧
      ∀ d, dataFieldOf buf id = some d → (m.parse buf n).err = .OK ∧
        (m.parse buf n).msg = { m.replied buf action id with dataGet := .to d, mngType := TlvType.MANAGEMENT } := by
  obtain ⟨t, ht, -⟩ := (hasDataField_iff id).1 hd
  have hp := parseData_of_read (m.replied buf action id) buf (lengthOf buf - 2) ht rfl
  rw [parse_of_mngReply m h, if_neg h2]
  unfold dataFieldOf
  rw [ht]
  exact hp

/-- Data for an id without a dataField: the pointer is not initialised. -/
theorem parse_wild (h : MngReply m.prms buf n action id) (h2 : lengthOf buf ≠ 2) (hd : ¬ HasDataField id) :
    (m.parse buf n).err = .OK ∧ (m.parse buf n).msg.dataGet = .wild := by
  have hc : callTlvData id .wild = pure .wild := by unfold callTlvData; rw [newTlv_eq_none hd]
  rw [parse_of_mngReply m h, if_neg h2]
  change ((m.replied buf action id).parseData buf _).err = _ ∧
    ((m.replied buf action id).parseData buf _).msg.dataGet = _
  unfold Message.parseData
  rw [show (m.replied buf action id).tlvId = id from rfl, hc]
  exact ⟨rfl, rfl⟩

end Parts

/-! ## Two histories -/

theorem not_accepted {e : MngParseError} (h : Failure e) : ¬ Accepted e := by
  rintro (he | he)
  · exact h.1 he
  · exact h.2.1 he

/-- A message that is accepted is a reply or an error. -/
theorem accepted_cases (m : Message) {buf : Mem} {n : Int} (h : Accepted (m.parse buf n).err) :
    (∃ action id, MngReply m.prms buf n action id) ∨ ∃ action id, ErrReply m.prms buf n action id := by
  cases parse_cases m buf n with
  | reply action id hr => exact .inl ⟨action, id, hr⟩
  | err action id hr => exact .inr ⟨action, id, hr⟩
  | refused _ _ _ hr => exact absurd h (not_accepted hr.err)
  | sig hs =>
    rw [parse_of_sigHeader m hs] at h
    change Accepted ((m.headed buf).parseSig buf n).err at h
    rw [(parseSig_walk (m.headed buf) buf n).1] at h
    rcases walk_err m.prms buf ((n - sigBaseSize).toNat + 1) sigBaseSize (n - sigBaseSize) with he | he
    · exact absurd h (by change ¬ Accepted (walk m.prms buf _ _ _).2; rw [he]; decide)
    · exact absurd h (not_accepted he)

section Params
variable (prms : MsgParams) (mem : Message) (buf : Mem) (n : Int) (action : ActionField) (id : MngVals)

theorem implementSpecific_ofParams :
    (Message.ofParams prms mem).prms.implementSpecific = prms.implementSpecific := by
  unfold Message.ofParams
  split <;> rfl

theorem mngReply_ofParams : MngReply (Message.ofParams prms mem).prms buf n action id ↔
    MngReply prms buf n action id := by
  unfold MngReply
  rw [implementSpecific_ofParams]

theorem errReply_ofParams : ErrReply (Message.ofParams prms mem).prms buf n action id ↔
    ErrReply prms buf n action id := by
  unfold ErrReply
  rw [implementSpecific_ofParams]

end Params

/-- A reply of the id PRIORITY1 with the value 7. -/
def priorityReply : Mem := mngMessage .RESPONSE [0, 1, 0, 4, 0x20, 5, 7, 0]

theorem mngReply_priority (prms : MsgParams) : MngReply prms priorityReply 56 .RESPONSE .PRIORITY1 := by
  have hid : findTlvId (u16 priorityReply 52) prms.implementSpecific = some .PRIORITY1 := by
    cases prms.implementSpecific <;> rfl
  exact ⟨by decide, rfl, rfl, by decide, hid, rfl, by decide, by decide, by decide⟩

theorem parses_priority (m : Message) : (m.parses [(priorityReply, 56)]).dataGet = .to (.PRIORITY1 ⟨7⟩) := by
  have h := (parse_data m (mngReply_priority m.prms) (by decide) (by decide)).2 (.PRIORITY1 ⟨7⟩) rfl
  exact congrArg Message.dataGet h.2

/-- What shows the structure of an earlier message depends on the history. -/
theorem not_historyFree {prms : MsgParams} {buf : Mem} {n : Int}
    (h : ∀ m : Message, m.prms = (Message.ofParams prms default).prms →
      Accepted (m.parse buf n).err ∧ (m.parse buf n).msg.dataGet = m.dataGet) : ¬ HistoryFree prms buf n := by
  intro hf
  obtain ⟨ha, hp⟩ := h ((Message.ofParams prms default).parses []) rfl
  obtain ⟨-, hq⟩ := h ((Message.ofParams prms default).parses [(priorityReply, 56)]) (Message.parses_prms _ _)
  rw [parses_priority] at hq
  rcases (hf default default [] [(priorityReply, 56)] ha).dataGet with ⟨-, hn⟩ | ⟨d, -, hd, -⟩
  · cases hq.symm.trans hn
  · cases hp.symm.trans hd

/-- What a parse shows does not depend on the history exactly where the message is not accepted
as a management error, nor as a reply without data or of an id without a dataField. -/
theorem historyFree_iff (prms : MsgParams) (buf : Mem) (n : Int) :
    HistoryFree prms buf n ↔ (∀ action id, ErrReply prms buf n action id → TextTooLong buf) ∧
      (∀ action id, MngReply prms buf n action id → lengthOf buf ≠ 2 ∧ HasDataField id) := by
  constructor
  · intro hf
    constructor
    · intro action id h
      by_contra hn
      refine not_historyFree (fun m hm => ?_) hf
      have h' : ErrReply m.prms buf n action id := by rw [hm]; exact (errReply_ofParams ..).2 h
      exact ⟨(parse_err_accepted_iff m h').2 hn, parse_err_dataGet m h'⟩
    · intro action id h
      have hne : lengthOf buf ≠ 2 := by
        intro h2
        refine not_historyFree (fun m hm => ?_) hf
        have h' : MngReply m.prms buf n action id := by rw [hm]; exact (mngReply_ofParams ..).2 h
        obtain ⟨he, hd⟩ := parse_empty m h' h2
        exact ⟨.inl he, hd⟩
      refine ⟨hne, ?_⟩
      -- a pointer that is not initialised shows nothing
      by_contra hd
      obtain ⟨he, hw⟩ := parse_wild (Message.ofParams prms default) ((mngReply_ofParams ..).2 h) hne hd
      rcases (hf default default [] [] (.inl he)).dataGet with ⟨hn, -⟩ | ⟨d, -, hn, -⟩ <;> cases hw.symm.trans hn
  · rintro ⟨herr, hreply⟩ mem mem' hist hist' ha
    unfold parseAfter at ha ⊢
    have hp := Message.parses_prms (Message.ofParams prms mem) hist
    have hp' := Message.parses_prms (Message.ofParams prms mem') hist'
    generalize (Message.ofParams prms mem).parses hist = m at ha hp ⊢
    generalize (Message.ofParams prms mem').parses hist' = m' at hp' ⊢
    rcases accepted_cases m ha with ⟨action, id, h⟩ | ⟨action, id, h⟩
    · have h0 : MngReply prms buf n action id := by rw [hp] at h; exact (mngReply_ofParams ..).1 h
      have h' : MngReply m'.prms buf n action id := by rw [hp']; exact (mngReply_ofParams ..).2 h0
      obtain ⟨h2, hd⟩ := hreply action id h0
      obtain ⟨hn, hs⟩ := parse_data m h h2 hd
      obtain ⟨-, hs'⟩ := parse_data m' h' h2 hd
      cases ho : dataFieldOf buf id with
      | none => exact absurd ha (not_accepted (hn ho))
      | some d =>
        -- both objects take the structure from the message
        obtain ⟨he, hm⟩ := hs d ho
        obtain ⟨he', hm'⟩ := hs' d ho
        refine ⟨he'.trans he.symm, ?_, ?_, ?_, .inr ⟨d, ?_, ?_, ?_⟩,
          fun hmsg => absurd (he.symm.trans hmsg) (by decide)⟩
        all_goals simp only [hm, hm']
        · rfl
        · rfl
        · exact ho
    · have h0 : ErrReply prms buf n action id := by rw [hp] at h; exact (errReply_ofParams ..).1 h
      exact absurd (herr action id h0) ((parse_err_accepted_iff m h).1 ha)

/-- A PRIORITY1 reply with an empty dataField shows the value of the reply before it. -/
theorem parse_shows_earlier : ¬ ∀ (prms : MsgParams) (buf : Mem) (n : Int), HistoryFree prms buf n := by
  intro h
  have hr (m : Message) : (m.parse (mngMessage .RESPONSE [0, 1, 0, 2, 0x20, 5]) 54).err = .OK ∧
      (m.parse (mngMessage .RESPONSE [0, 1, 0, 2, 0x20, 5]) 54).msg.dataGet = m.dataGet := by
    have hid : findTlvId (u16 (mngMessage .RESPONSE [0, 1, 0, 2, 0x20, 5]) 52) m.prms.implementSpecific =
        some .PRIORITY1 := by cases m.prms.implementSpecific <;> rfl
    have hr : MngReply m.prms (mngMessage .RESPONSE [0, 1, 0, 2, 0x20, 5]) 54 .RESPONSE .PRIORITY1 :=
      ⟨by decide, rfl, rfl, by decide, hid, rfl, by decide, by decide, .inl rfl⟩
    exact parse_empty m hr rfl
  exact not_historyFree (fun m _ => ⟨.inl (hr m).1, (hr m).2⟩) (h default _ _)

end LibPmc
