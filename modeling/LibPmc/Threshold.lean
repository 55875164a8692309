import LibPmc.History
/-!
# How much of a buffer a management message takes

The lengthField of the TLV says where a management message ends. `parse_threshold`: a
message that is accepted has all octets up to there, it is accepted in the same way
whatever comes behind, and refused where one of these octets is missing.
-/
namespace LibPmc

open Wire Wire.Prog

/-- The two memories have the same first octets. -/
def AgreeTo (k : Nat) (a b : Mem) : Prop := ∀ i, i < k → b i = a i

/-- The number of octets up to the end of the TLV. -/
def mngSize (buf : Mem) : Nat := mngHeaderSize + tlvSize + (u16 buf (mngHeaderSize + 2)).toNat

theorem mngSize_eq (buf : Mem) : (mngSize buf : Int) = 52 + lengthOf buf := by
  unfold mngSize lengthOf
  simp only [mngHeaderSize, tlvSize]
  omega

section Agree
variable {k : Nat} {a b : Mem}

theorem AgreeTo.slice (h : AgreeTo k a b) {off n : Nat} (hn : off + n ≤ k) : b.slice off n = a.slice off n :=
  Mem.slice_congr fun i _ hi => h i (by omega)

theorem AgreeTo.u16 (h : AgreeTo k a b) {off : Nat} (hn : off + 2 ≤ k) : u16 b off = u16 a off :=
  congrArg (fun l => UInt16.ofNat (beNat l)) (h.slice hn)

theorem AgreeTo.portIdentity (h : AgreeTo k a b) {off : Nat} (hn : off + 10 ≤ k) :
    portIdentity b off = portIdentity a off := by
  have ho : b.octets off 8 = a.octets off 8 := Subtype.ext (h.slice (by omega))
  unfold LibPmc.portIdentity
  rw [ho, h.u16 (by omega)]

theorem AgreeTo.header (h : AgreeTo k a b) (hk : 34 ≤ k) {type controlField : UInt8} :
    Header b type controlField ↔ Header a type controlField := by
  unfold Header
  rw [h 0 (by omega), h 1 (by omega), h 32 (by omega), h 33 (by omega)]

theorem AgreeTo.headed (h : AgreeTo k a b) (hk : 44 ≤ k) (m : Message) : m.headed b = m.headed a := by
  unfold Message.headed Message.setHeader
  rw [h 0 (by omega), h 1 (by omega), h 4 (by omega), h 5 (by omega), h 6 (by omega), h.u16 (by omega),
    h.portIdentity (by omega), h.portIdentity (by omega)]

/-- A process function gives the same on the same octets. -/
theorem AgreeTo.run (h : AgreeTo k a b) {α : Type} (p : P α) {cur : Nat} {left : Int} (hl : cur + left.toNat ≤ k) :
    (p.run (parseCursor b cur left)).1 = (p.run (parseCursor a cur left)).1 ∧
      (p.run (parseCursor b cur left)).2.err = (p.run (parseCursor a cur left)).2.err := by
  obtain ⟨hv, -, he, -⟩ := run_parse p (parseCursor a cur left) rfl
  obtain ⟨hv', -, he', -⟩ := run_parse p (parseCursor b cur left) rfl
  have hw : (parseCursor b cur left).window = (parseCursor a cur left).window := h.slice hl
  rw [hw] at hv' he'
  exact ⟨hv'.trans hv.symm, he'.trans he.symm⟩

theorem AgreeTo.parseData (h : AgreeTo k a b) (m : Message) {left : Int} (hl : mngMsgBaseSize + left.toNat ≤ k) :
    (m.parseData b left).err = (m.parseData a left).err ∧ (m.parseData b left).msg = (m.parseData a left).msg := by
  obtain ⟨hv, he⟩ := h.run (callTlvData m.tlvId .wild) hl
  unfold Message.parseData
  generalize (callTlvData m.tlvId .wild).run (parseCursor a mngMsgBaseSize left) = x at hv he ⊢
  generalize (callTlvData m.tlvId .wild).run (parseCursor b mngMsgBaseSize left) = y at hv he ⊢
  rcases x with ⟨_ | p, c⟩ <;> rcases y with ⟨_ | p', c'⟩ <;> cases hv
  · exact ⟨he, rfl⟩
  · exact ⟨rfl, rfl⟩

theorem AgreeTo.parseErrorDisplay (h : AgreeTo k a b) (m : Message) {left : Int} (h0 : 0 < left)
    (hl : 60 + left.toNat ≤ k) :
    (m.parseErrorDisplay b left).err = (m.parseErrorDisplay a left).err ∧
      (m.parseErrorDisplay b left).msg = (m.parseErrorDisplay a left).msg := by
  obtain ⟨hv, -⟩ := h.run m.errorDisplay.proc (show mngHeaderSize + tlvSize + errorTlvSize + left.toNat ≤ k from hl)
  have h60 : b (mngHeaderSize + tlvSize + errorTlvSize) = a (mngHeaderSize + tlvSize + errorTlvSize) := h _ (by
    simp only [mngHeaderSize, tlvSize, errorTlvSize]; omega)
  unfold Message.parseErrorDisplay
  generalize m.errorDisplay.proc.run (parseCursor a (mngHeaderSize + tlvSize + errorTlvSize) left) = x at hv ⊢
  generalize m.errorDisplay.proc.run (parseCursor b (mngHeaderSize + tlvSize + errorTlvSize) left) = y at hv ⊢
  rcases x with ⟨_ | t, c⟩ <;> rcases y with ⟨_ | t', c'⟩ <;> cases hv
  · rw [h60]
    exact ⟨rfl, rfl⟩
  · exact ⟨rfl, rfl⟩

theorem AgreeTo.mngHeader (h : AgreeTo k a b) (hk : 34 ≤ k) {n n' : Int} (ha : MngHeader a n) (hn : 52 ≤ n') :
    MngHeader b n' :=
  ⟨hn, (h.header hk).2 ha.2⟩

theorem AgreeTo.actionOf (h : AgreeTo k a b) (hk : 47 ≤ k) : actionOf b = actionOf a := by
  unfold LibPmc.actionOf
  rw [h 46 (by omega)]

theorem AgreeTo.lengthOf (h : AgreeTo k a b) (hk : 52 ≤ k) : lengthOf b = lengthOf a := by
  unfold LibPmc.lengthOf
  rw [h.u16 (by simp only [mngHeaderSize]; omega)]

theorem AgreeTo.tlvTypeOf (h : AgreeTo k a b) (hk : 52 ≤ k) : tlvTypeOf b = tlvTypeOf a :=
  h.u16 (by simp only [mngHeaderSize]; omega)

/-- A reply stays one with all of its octets. -/
theorem AgreeTo.mngReply (h : AgreeTo k a b) (hk : mngSize a ≤ k) {prms : MsgParams} {n n' : Int}
    (hn : mngSize a ≤ n')
    {action : ActionField} {id : MngVals} (ha : MngReply prms a n action id) : MngReply prms b n' action id := by
  obtain ⟨hh, hact, ht, -, hid, hc, h2, he, -⟩ := ha
  have hs := mngSize_eq a
  have hb : (mngMsgBaseSize : Int) ≤ n' := by
    simp only [mngMsgBaseSize, mngHeaderSize, tlvSize, lengthFieldMngBase]
    omega
  have hl := h.lengthOf (by omega)
  refine ⟨h.mngHeader (by omega) hh (by omega), (h.actionOf (by omega)).trans hact,
    (h.tlvTypeOf (by omega)).trans ht, hb, ?_, hc,
    by rw [hl]; exact h2, by rw [hl]; exact he, .inr (by rw [hl]; omega)⟩
  rw [h.u16 (by omega)]
  exact hid

theorem AgreeTo.errReply (h : AgreeTo k a b) (hk : mngSize a ≤ k) {prms : MsgParams} {n n' : Int}
    (hn : mngSize a ≤ n')
    {action : ActionField} {id : MngVals} (ha : ErrReply prms a n action id) : ErrReply prms b n' action id := by
  obtain ⟨hh, hact, ht, -, hid, hc, h8, he, -⟩ := ha
  have hs := mngSize_eq a
  have hl := h.lengthOf (by omega)
  refine ⟨h.mngHeader (by omega) hh (by omega), (h.actionOf (by omega)).trans hact,
    (h.tlvTypeOf (by omega)).trans ht, by omega, ?_, hc,
    by rw [hl]; exact h8, by rw [hl]; exact he, by rw [hl]; omega⟩
  rw [h.u16 (by omega)]
  exact hid

end Agree

theorem mngHeader_of_accepted (m : Message) {buf : Mem} {n : Int} (h : Accepted (m.parse buf n).err) :
    MngHeader buf n := by
  rcases accepted_cases m h with ⟨action, id, hr⟩ | ⟨action, id, hr⟩
  · exact hr.1
  · exact hr.1

/-- All octets of the TLV are there. -/
theorem mngSize_le (m : Message) {buf : Mem} {n : Int} (h : Accepted (m.parse buf n).err) :
    (mngSize buf : Int) ≤ n := by
  rw [mngSize_eq]
  rcases accepted_cases m h with ⟨action, id, hr⟩ | ⟨action, id, hr⟩
  · obtain ⟨-, -, -, hn, -, -, -, -, hl⟩ := hr
    simp only [mngMsgBaseSize, mngHeaderSize, tlvSize, lengthFieldMngBase] at hn
    omega
  · exact hr.2.2.2.2.2.2.2.2

/-- What comes behind the TLV makes no difference. -/
theorem parse_agree (m : Message) {a b : Mem} {n n' : Int} (h : Accepted (m.parse a n).err) (hn : mngSize a ≤ n')
    (hab : AgreeTo (mngSize a) a b) :
    (m.parse b n').err = (m.parse a n).err ∧ (m.parse b n').msg = (m.parse a n).msg := by
  have hs := mngSize_eq a
  rcases accepted_cases m h with ⟨action, id, hr⟩ | ⟨action, id, hr⟩
  · have h2 := hr.2.2.2.2.2.2.1
    have hm : m.replied b action id = m.replied a action id := by
      unfold Message.replied
      rw [hab.headed (by omega)]
    rw [parse_of_mngReply m hr, parse_of_mngReply m (hab.mngReply le_rfl hn hr), hm, hab.lengthOf (by omega)]
    split
    · exact ⟨rfl, rfl⟩
    · exact hab.parseData _ (by simp only [mngMsgBaseSize, mngHeaderSize, tlvSize, lengthFieldMngBase]; omega)
  · have h8 := hr.2.2.2.2.2.2.1
    have hm : m.failed b action id = m.failed a action id := by
      unfold Message.failed Message.replied
      rw [hab.headed (by omega), hab.u16 (by simp only [mngHeaderSize, tlvSize]; omega)]
    rw [parse_of_errReply m hr, parse_of_errReply m (hab.errReply le_rfl hn hr), hm, hab.lengthOf (by omega)]
    split
    · exact hab.parseErrorDisplay _ (by omega) (by omega)
    · exact ⟨rfl, rfl⟩

/-- Fewer octets than the header has are refused before it is looked at. -/
theorem parse_short_header (m : Message) {buf : Mem} {n : Int}
    (h0 : n < 44 ∨ buf 0 &&& 0xf = MsgType.Management) (hn : n < 52) :
    (m.parse buf n).err = .TOO_SMALL := by
  unfold Message.parse
  by_cases h44 : n < sigBaseSize
  · rw [if_pos h44]
    rfl
  · have h0 : buf 0 &&& 0xf = MsgType.Management := h0.resolve_left h44
    have hs : ¬ buf 0 &&& 0xf = MsgType.Signaling := by
      rw [h0]
      decide
    have hn' : n < (mngHeaderSize : Int) + tlvSize := hn
    rw [if_neg h44, if_neg hs, if_pos h0, if_pos hn']
    rfl

/-- A reply that is cut off. -/
theorem parseMng_short (m : Message) {buf : Mem} {size left : Int} {id : MngVals}
    (hid : 2 ≤ size → findTlvId (u16 buf 52) m.prms.implementSpecific = some id)
    (hc : Message.checkReplyAction id m.replyAction = true)
    (h : size < left) (h2 : 2 ≤ left) (he : left % 2 = 0) : (m.parseMng buf size left).err = .TOO_SMALL := by
  unfold Message.parseMng
  by_cases hs : size < lengthFieldMngBase
  · rw [if_pos hs]
    rfl
  · have hs2 : 2 ≤ size := not_lt.1 hs
    rw [if_neg hs, show findTlvId (u16 buf (mngHeaderSize + tlvSize)) m.prms.implementSpecific = some id from hid hs2]
    dsimp only
    rw [if_neg (not_not.2 hc), if_neg (by simp only [lengthFieldMngBase]; omega),
      if_neg (by simp only [lengthFieldMngBase]; omega), if_pos (by omega)]
    rfl

theorem parseError_short (m : Message) {buf : Mem} {size left : Int} {id : MngVals}
    (hid : 8 ≤ size → findTlvId (u16 buf 54) m.prms.implementSpecific = some id)
    (hc : Message.checkReplyAction id m.replyAction = true)
    (h : size < left) (h8 : 8 ≤ left) (he : left % 2 = 0) : (m.parseError buf size left).err = .TOO_SMALL := by
  unfold Message.parseError
  by_cases hs : size < errorTlvSize
  · rw [if_pos hs]
    rfl
  · have hs8 : 8 ≤ size := not_lt.1 hs
    rw [if_neg hs, show findTlvId (u16 buf (mngHeaderSize + tlvSize + 2)) m.prms.implementSpecific =
      some id from hid hs8]
    dsimp only
    rw [if_neg (not_not.2 hc), if_neg (by simp only [errorTlvSize]; omega), if_pos (by omega)]
    rfl

/-- A message that is cut off is refused as too small. -/
theorem parse_truncated (m : Message) {a b : Mem} {n n' : Int} (h : Accepted (m.parse a n).err) (hn : n' < mngSize a)
    (hab : AgreeTo n'.toNat a b) : (m.parse b n').err = .TOO_SMALL := by
  have hs := mngSize_eq a
  have hh := mngHeader_of_accepted m h
  by_cases h52 : n' < 52
  · refine parse_short_header m ?_ h52
    by_cases h44 : n' < 44
    · exact .inl h44
    · rw [hab 0 (by omega)]
      exact .inr hh.2.1
  -- the header is there, so it is the TLV that is cut off
  have hb : MngHeader b n' := hab.mngHeader (by omega) hh (by omega)
  rw [parse_of_mngHeader m hb]
  change ((m.headed b).parseManagement b n').err = _
  rcases accepted_cases m h with ⟨action, id, hr⟩ | ⟨action, id, hr⟩
  · obtain ⟨-, hact, ht, -, hid, hc, h2, he, -⟩ := hr
    rw [parseManagement_of_action _ ((hab.actionOf (by omega)).trans hact), hab.tlvTypeOf (by omega),
      hab.lengthOf (by omega), ht,
      if_neg (by decide), if_neg (by simp)]
    refine parseMng_short _ (fun h => ?_) hc ?_ h2 he
    · rw [hab.u16 (by simp only [mngHeaderSize, tlvSize] at h; omega)]
      exact hid
    · simp only [mngHeaderSize, tlvSize]
      omega
  · obtain ⟨-, hact, ht, -, hid, hc, h8, he, -⟩ := hr
    rw [parseManagement_of_action _ ((hab.actionOf (by omega)).trans hact), hab.tlvTypeOf (by omega),
      hab.lengthOf (by omega), ht,
      if_pos rfl]
    refine parseError_short _ (fun h => ?_) hc ?_ h8 he
    · rw [hab.u16 (by simp only [mngHeaderSize, tlvSize] at h; omega)]
      exact hid
    · simp only [mngHeaderSize, tlvSize]
      omega

/-- A management message is accepted from the end of its TLV on. The content is as decoded
where a dataField has a structure to be decoded to. -/
theorem parse_threshold (m : Message) {buf : Mem} {n : Int} (h : Accepted (m.parse buf n).err) :
    (mngSize buf : Int) ≤ n ∧
      (∀ (buf' : Mem) (n' : Int), mngSize buf ≤ n' → AgreeTo (mngSize buf) buf buf' →
        (m.parse buf' n').err = (m.parse buf n).err ∧
          ((m.parse buf n).err = .MSG ∨ lengthOf buf = 2 ∨ HasDataField (m.parse buf n).msg.tlvId →
            (m.parse buf' n').msg = (m.parse buf n).msg)) ∧
      ∀ (buf' : Mem) (n' : Int), n' < mngSize buf → AgreeTo n'.toNat buf buf' → (m.parse buf' n').err = .TOO_SMALL := by
  refine ⟨mngSize_le m h, fun buf' n' hn hab => ?_, fun buf' n' hn hab => parse_truncated m h hn hab⟩
  obtain ⟨he, hm⟩ := parse_agree m h hn hab
  exact ⟨he, fun _ => hm⟩

/-- A PRIORITY1 reply of 56 octets, with padding and without its last octet. -/
theorem parse_threshold_priority :
    ((Message.new default).parse priorityReply 100).err = .OK ∧
      ((Message.new default).parse priorityReply 100).msg.dataGet = .to (.PRIORITY1 ⟨7⟩) ∧
      ((Message.new default).parse priorityReply 55).err = .TOO_SMALL := by
  obtain ⟨he, hm⟩ := (parse_data (Message.new default) (mngReply_priority _) (by decide) (by decide)).2
    (.PRIORITY1 ⟨7⟩) rfl
  obtain ⟨-, hall, hnone⟩ := parse_threshold (Message.new default) (.inl he)
  obtain ⟨he', hm'⟩ := hall priorityReply 100 (by decide) fun _ _ => rfl
  have hid : HasDataField ((Message.new default).parse priorityReply 56).msg.tlvId := by
    rw [hm]
    decide
  refine ⟨he'.trans he, ?_, hnone priorityReply 55 (by decide) fun _ _ => rfl⟩
  rw [hm' (.inr (.inr hid)), hm]

end LibPmc
