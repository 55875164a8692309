import LibPmc.Wire.Agree
import LibPmc.History
import LibPmc.Walk
/-!
# What a parse goes by

A parse goes by the octets that its log names (`parse_agreeOn`), and of its object by the
parameters and by what a message may leave as it was (`parse_alike`).
-/
namespace LibPmc

open Wire Wire.Prog

/-! ## The octets -/

section Octets
variable {a b : Mem}

theorem agreeOn_u16 {l : List (Nat × Nat)} (h : AgreeOn l a b) (off : Nat) (hm : (off, 2) ∈ l) :
    u16 b off = u16 a off :=
  congrArg (fun l => UInt16.ofNat (beNat l)) (h.slice hm)

theorem agreeOn_octet {l : List (Nat × Nat)} (h : AgreeOn l a b) (off : Nat) (hm : (off, 1) ∈ l) : b off = a off :=
  h _ hm off le_rfl (Nat.lt_succ_self off)

/-- What is read first is the same, and then the rest gives the same. -/
theorem reading_agreeOn {r : List (Nat × Nat)} {p q : Parsed} (h : AgreeOn (p.reading r).trace.reads a b)
    (hq : AgreeOn r a b → AgreeOn p.trace.reads a b → q = p) : q.reading r = p.reading r := by
  obtain ⟨h1, h2⟩ := AgreeOn.append.1 h
  rw [hq h1 h2]

theorem ite_agreeOn {c : Prop} [Decidable c] {p q p' q' : Parsed} (h : AgreeOn (if c then p else q).trace.reads a b)
    (hp : AgreeOn p.trace.reads a b → p' = p) (hq : ¬ c → AgreeOn q.trace.reads a b → q' = q) :
    (if c then p' else q') = if c then p else q := by
  split at h
  · rename_i hc
    rw [if_pos hc, if_pos hc, hp h]
  · rename_i hc
    rw [if_neg hc, if_neg hc, hq hc h]

theorem ran_agreeOn {α : Type} (p : P α) {cur : Nat} {left : Int} {r : Option α} {c : Cursor MngParseError}
    (hr : p.run (parseCursor a cur left) = (r, c)) (h : AgreeOn c.reads a b) :
    p.run (parseCursor b cur left) = (r, c.over b) := by
  have hb := run_agree p (c := parseCursor a cur left) rfl b (by rw [hr]; exact h)
  rw [hr] at hb
  exact hb

theorem parseData_agreeOn (m : Message) {left : Int} (h : AgreeOn (m.parseData a left).trace.reads a b) :
    m.parseData b left = m.parseData a left := by
  unfold Message.parseData at h ⊢
  rcases hr : (callTlvData m.tlvId .wild).run (parseCursor a mngMsgBaseSize left) with ⟨r, c⟩
  rw [hr] at h
  have hc : AgreeOn c.reads a b := by
    cases r with
    | none => exact (AgreeOn.append.1 h).1
    | some p => exact (AgreeOn.append.1 h).1
  rw [ran_agreeOn _ hr hc]
  cases r <;> rfl

/-- The length in front of the text is read, where it is there. -/
theorem mem_reads_text (a : Mem) (t : PTPText_t) (cur : Nat) {left : Int} (h1 : 1 ≤ left) :
    (cur, 1) ∈ (t.proc.run (parseCursor a cur left)).2.reads := by
  obtain ⟨out, kb, kp, hp⟩ : ∃ out kb kp, t.proc = xfer 1 out kb kp := ⟨_, _, _, rfl⟩
  obtain ⟨l, hl⟩ := run_log (kp (a.octets cur 1)) (((parseCursor a cur left).load 1).move 1)
  have hlt : ¬ (parseCursor a cur left).left < (1 : Nat) := not_lt.2 h1
  rw [hp, run, if_neg hlt, if_neg (show ¬ (parseCursor a cur left).build = true from Bool.false_ne_true)]
  simp only [parseCursor] at hl ⊢
  rw [hl]
  exact List.mem_append_left _ (List.mem_singleton.2 rfl)

theorem parseErrorDisplay_agreeOn (m : Message) {left : Int} (h1 : 1 ≤ left)
    (h : AgreeOn (m.parseErrorDisplay a left).trace.reads a b) :
    m.parseErrorDisplay b left = m.parseErrorDisplay a left := by
  have hm := mem_reads_text a m.errorDisplay (mngHeaderSize + tlvSize + errorTlvSize) h1
  unfold Message.parseErrorDisplay at h ⊢
  rcases hr : m.errorDisplay.proc.run (parseCursor a (mngHeaderSize + tlvSize + errorTlvSize) left) with ⟨r, c⟩
  rw [hr] at h hm
  have hc : AgreeOn c.reads a b := by
    cases r with
    | none => exact (AgreeOn.append.1 h).1
    | some p => exact (AgreeOn.append.1 h).1
  rw [ran_agreeOn _ hr hc, agreeOn_octet hc _ hm]
  cases r <;> rfl

theorem parseError_agreeOn (m : Message) {size left : Int} (h : AgreeOn (m.parseError a size left).trace.reads a b) :
    m.parseError b size left = m.parseError a size left := by
  unfold Message.parseError at h ⊢
  refine ite_agreeOn h (fun _ => rfl) fun _ h => reading_agreeOn h fun h1 h => ?_
  rw [agreeOn_u16 h1 _ (List.mem_singleton.2 rfl)]
  cases hid : findTlvId (u16 a (mngHeaderSize + tlvSize + 2)) m.prms.implementSpecific with
  | none => rfl
  | some id =>
    rw [hid] at h
    dsimp only at h ⊢
    refine ite_agreeOn h (fun _ => rfl) fun _ h => reading_agreeOn h fun h2 h => ?_
    rw [agreeOn_u16 h2 _ (List.mem_singleton.2 rfl)]
    refine ite_agreeOn h (fun _ => rfl) fun _ h => ite_agreeOn h (fun _ => rfl) fun _ h => ?_
    split at h
    · rename_i hs
      rw [if_pos hs, if_pos hs]
      exact parseErrorDisplay_agreeOn _ (by omega) h
    · rename_i hs
      rw [if_neg hs, if_neg hs]

theorem parseMng_agreeOn (m : Message) {size left : Int} (h : AgreeOn (m.parseMng a size left).trace.reads a b) :
    m.parseMng b size left = m.parseMng a size left := by
  unfold Message.parseMng at h ⊢
  refine ite_agreeOn h (fun _ => rfl) fun _ h => reading_agreeOn h fun h1 h => ?_
  rw [agreeOn_u16 h1 _ (List.mem_singleton.2 rfl)]
  cases hid : findTlvId (u16 a (mngHeaderSize + tlvSize)) m.prms.implementSpecific with
  | none => rfl
  | some id =>
    rw [hid] at h
    dsimp only at h ⊢
    refine ite_agreeOn h (fun _ => rfl) fun _ h => ite_agreeOn h (fun _ => rfl) fun _ h => ?_
    exact ite_agreeOn h (fun _ => rfl) fun _ h => ite_agreeOn h (fun _ => rfl) fun _ h => parseData_agreeOn _ h

theorem parseManagement_agreeOn (m : Message) {n : Int} (h : AgreeOn (m.parseManagement a n).trace.reads a b) :
    m.parseManagement b n = m.parseManagement a n := by
  unfold Message.parseManagement at h ⊢
  refine reading_agreeOn h fun h1 h => ?_
  rw [agreeOn_octet h1 _ (List.mem_singleton.2 rfl)]
  cases ha : Message.replyAction? (a 46 &&& 0xf) with
  | none => rfl
  | some action =>
    rw [ha] at h
    dsimp only at h ⊢
    refine reading_agreeOn h fun h2 h => ?_
    rw [agreeOn_u16 h2 _ (by simp), agreeOn_u16 h2 _ (by simp)]
    exact ite_agreeOn h (fun h => parseError_agreeOn _ h) fun _ h => ite_agreeOn h (fun _ => rfl) fun _ h =>
      parseMng_agreeOn _ h

/-! The loop over the signaling TLVs keeps the log of the rounds before. -/

theorem parseSigTlv_log (prms : MsgParams) (s : SigLoop) :
    ∃ l, (parseSigTlv prms a s).2.trace.reads = s.headed.reads ++ l := by
  rw [parseSigTlv_eq]
  split
  · exact ⟨[], (List.append_nil _).symm⟩
  split
  · exact ⟨[], (List.append_nil _).symm⟩
  dsimp only
  rcases s.ran prms a with ⟨_ | _ | tlv, c⟩
  · exact ⟨_, rfl⟩
  · exact ⟨_, rfl⟩
  · exact ⟨_, List.append_nil _⟩

theorem parseSigLoop_log (prms : MsgParams) (fuel : Nat) (s : SigLoop) :
    ∃ l, (parseSigLoop prms a fuel s).2.trace.reads = s.trace.reads ++ l := by
  induction fuel generalizing s with
  | zero => exact ⟨[], (List.append_nil _).symm⟩
  | succ fuel ih =>
    rw [parseSigLoop_succ]
    split
    · exact ⟨[], rfl⟩
    · obtain ⟨l, hl⟩ := parseSigTlv_log (a := a) prms s.head
      have hs : (parseSigTlv prms a s.head).2.trace.reads = s.trace.reads ++ ([(s.cur, 2), (s.cur + 2, 2)] ++ l) := by
        rw [hl]
        simp [SigLoop.headed, SigLoop.head]
      generalize parseSigTlv prms a s.head = x at hs
      rcases x with ⟨_ | e, t⟩
      · obtain ⟨l', hl'⟩ := ih t
        exact ⟨_, by rw [hl', show t.trace.reads = _ from hs, List.append_assoc]⟩
      · exact ⟨_, hs⟩

theorem parseSigTlv_agreeOn (prms : MsgParams) {s : SigLoop} (h : AgreeOn (parseSigTlv prms a s).2.trace.reads a b) :
    parseSigTlv prms b s = parseSigTlv prms a s := by
  obtain ⟨l, hl⟩ := parseSigTlv_log (a := a) prms s
  have hh := (AgreeOn.append.1 (AgreeOn.append.1 (hl ▸ h)).1).2
  have hv : s.visit b = s.visit a := by
    unfold SigLoop.visit
    rw [agreeOn_u16 hh _ (by simp), agreeOn_u16 hh _ (by simp)]
  rw [parseSigTlv_eq] at h ⊢
  rw [parseSigTlv_eq]
  unfold SigLoop.rest
  rw [hv]
  split
  · rfl
  split
  · rfl
  rename_i h1 h2
  rw [if_neg h1, if_neg h2] at h
  have hc : AgreeOn (s.ran prms a).2.reads a b := by
    dsimp only at h
    rcases hx : s.ran prms a with ⟨_ | _ | tlv, c⟩ <;> rw [hx] at h
    · exact (AgreeOn.append.1 h).2
    · exact (AgreeOn.append.1 h).2
    · exact (AgreeOn.append.1 (AgreeOn.append.1 h).1).2
  have hr : s.ran prms b = ((s.ran prms a).1, (s.ran prms a).2.over b) := by
    unfold SigLoop.ran at hc ⊢
    rw [hv]
    exact ran_agreeOn _ rfl hc
  rw [hr]
  rcases s.ran prms a with ⟨_ | _ | tlv, c⟩ <;> rfl

theorem parseSigLoop_agreeOn (prms : MsgParams) (fuel : Nat) {s : SigLoop}
    (h : AgreeOn (parseSigLoop prms a fuel s).2.trace.reads a b) :
    parseSigLoop prms b fuel s = parseSigLoop prms a fuel s := by
  induction fuel generalizing s with
  | zero => rfl
  | succ fuel ih =>
    rw [parseSigLoop_succ] at h ⊢
    rw [parseSigLoop_succ]
    split
    · rfl
    · rename_i h4
      rw [if_neg h4] at h
      have ht : AgreeOn (parseSigTlv prms a s.head).2.trace.reads a b := by
        rcases hx : parseSigTlv prms a s.head with ⟨_ | e, t⟩ <;> rw [hx] at h
        · obtain ⟨l, hl⟩ := parseSigLoop_log (a := a) prms fuel t
          exact (AgreeOn.append.1 (hl ▸ h)).1
        · exact h
      rw [parseSigTlv_agreeOn prms ht]
      rcases hx : parseSigTlv prms a s.head with ⟨_ | e, t⟩ <;> rw [hx] at h
      exact ih h

theorem parseSig_agreeOn (m : Message) {n : Int} (h : AgreeOn (m.parseSig a n).trace.reads a b) :
    m.parseSig b n = m.parseSig a n := by
  unfold Message.parseSig at h ⊢
  dsimp only at h ⊢
  rw [parseSigLoop_agreeOn _ _ h]

theorem setHeader_agreeOn (m : Message)
    (h : AgreeOn [(5, 1), (0, 1), (4, 1), (6, 1), (30, 2), (28, 2), (20, 8), (42, 2), (34, 8)] a b) :
    m.setHeader b = m.setHeader a := by
  have hp (off : Nat) (h8 : b.slice off 8 = a.slice off 8) (h2 : u16 b (off + 8) = u16 a (off + 8)) :
      portIdentity b off = portIdentity a off := by
    unfold portIdentity
    rw [show b.octets off 8 = a.octets off 8 from Subtype.ext h8, h2]
  unfold Message.setHeader
  rw [agreeOn_octet h 5 (by simp), agreeOn_octet h 0 (by simp), agreeOn_octet h 4 (by simp),
    agreeOn_octet h 6 (by simp), agreeOn_u16 h 30 (by simp),
    hp 20 (h.slice (by simp)) (agreeOn_u16 h _ (by simp)), hp 34 (h.slice (by simp)) (agreeOn_u16 h _ (by simp))]

theorem parseHeader_agreeOn (m : Message) {n : Int} (h : AgreeOn (m.parseHeader a n).trace.reads a b) :
    m.parseHeader b n = m.parseHeader a n := by
  unfold Message.parseHeader at h ⊢
  refine reading_agreeOn h fun h1 h => ?_
  rw [agreeOn_octet h1 _ (List.mem_singleton.2 rfl)]
  refine ite_agreeOn h (fun _ => rfl) fun _ h => reading_agreeOn h fun h2 h => ?_
  rw [agreeOn_octet h2 _ (List.mem_singleton.2 rfl)]
  refine ite_agreeOn h (fun _ => rfl) fun _ h => reading_agreeOn h fun h3 h => ?_
  rw [setHeader_agreeOn _ h3]
  exact ite_agreeOn h (fun h => parseSig_agreeOn _ h) fun _ h => parseManagement_agreeOn _ h

/-- On octets that are the same where the log reads, a parse gives the same. -/
theorem parse_agreeOn (m : Message) {n : Int} (h : AgreeOn (m.parse a n).trace.reads a b) :
    m.parse b n = m.parse a n := by
  unfold Message.parse at h ⊢
  refine ite_agreeOn h (fun _ => rfl) fun _ h => reading_agreeOn h fun h1 h => ?_
  rw [agreeOn_octet h1 _ (List.mem_singleton.2 rfl)]
  refine ite_agreeOn h (fun h => ite_agreeOn h (fun _ => rfl) fun _ h => ?_) fun _ h =>
    ite_agreeOn h (fun h => ite_agreeOn h (fun _ => rfl) fun _ h => ?_) fun _ _ => rfl
  · refine reading_agreeOn h fun h2 h => ?_
    rw [agreeOn_octet h2 _ (List.mem_singleton.2 rfl)]
    exact ite_agreeOn h (fun _ => rfl) fun _ h => parseHeader_agreeOn _ h
  · refine reading_agreeOn h fun h2 h => ?_
    rw [agreeOn_octet h2 _ (List.mem_singleton.2 rfl)]
    exact ite_agreeOn h (fun _ => rfl) fun _ h => parseHeader_agreeOn _ h

end Octets

/-! ## The object -/

/-- Two objects with the same of what a message may leave as it was. -/
structure Alike (m m' : Message) : Prop where
  prms : m'.prms = m.prms
  dataGet : m'.dataGet = m.dataGet
  errorDisplay : m'.errorDisplay = m.errorDisplay
  sigTlvs : m'.sigTlvs = m.sigTlvs

/-- They show the same header. -/
structure AlikeHead (m m' : Message) : Prop extends Alike m m' where
  type : m'.type = m.type
  sequence : m'.sequence = m.sequence
  peer : m'.peer = m.peer

/-- They show the same reply. -/
structure AlikeReply (m m' : Message) : Prop extends AlikeHead m m' where
  replyAction : m'.replyAction = m.replyAction
  tlvId : m'.tlvId = m.tlvId

/-- Two parses give the same, and show the same of a message that is not refused. -/
structure SameParsed (p p' : Parsed) : Prop where
  err : p'.err = p.err
  trace : p'.trace = p.trace
  alike : Alike p.msg p'.msg
  head : ¬ Failure p.err → AlikeHead p.msg p'.msg
  reply : Accepted p.err → AlikeReply p.msg p'.msg
  errorId : p.err = .MSG → p'.msg.errorId = p.msg.errorId

section Object
variable {m m' : Message}

theorem SameParsed.reading {p p' : Parsed} (h : SameParsed p p') (r : List (Nat × Nat)) :
    SameParsed (p.reading r) (p'.reading r) :=
  ⟨h.err, congrArg (Trace.append { Trace.empty with reads := r }) h.trace, h.alike, h.head, h.reply, h.errorId⟩

theorem SameParsed.after {p p' : Parsed} (h : SameParsed p p') (t : Trace) : SameParsed (p.after t) (p'.after t) :=
  ⟨h.err, congrArg t.append h.trace, h.alike, h.head, h.reply, h.errorId⟩

theorem Alike.refused (h : Alike m m') {e : MngParseError} (he : Failure e) : SameParsed (.ret e m) (.ret e m') :=
  ⟨rfl, rfl, h, fun hn => absurd he hn, fun ha => absurd ha (not_accepted he),
    fun h => absurd (.inr h) (not_accepted he)⟩

theorem AlikeReply.ok (h : AlikeReply m m') : SameParsed (.ret .OK m) (.ret .OK m') :=
  ⟨rfl, rfl, h.toAlike, fun _ => h.toAlikeHead, fun _ => h, fun h => by cases h⟩

theorem AlikeReply.msg (h : AlikeReply m m') (he : m'.errorId = m.errorId) : SameParsed (.ret .MSG m) (.ret .MSG m') :=
  ⟨rfl, rfl, h.toAlike, fun _ => h.toAlikeHead, fun _ => h, fun _ => he⟩

theorem ite_same {c : Prop} [Decidable c] {p q p' q' : Parsed} (hp : c → SameParsed p p') (hq : ¬ c → SameParsed q q') :
    SameParsed (if c then p else q) (if c then p' else q') := by
  split
  · exact hp ‹_›
  · exact hq ‹_›

theorem AlikeReply.parseData (h : AlikeReply m m') (buf : Mem) (left : Int) :
    SameParsed (m.parseData buf left) (m'.parseData buf left) := by
  have hf := run_failure (callTlvData m.tlvId .wild) buf mngMsgBaseSize left
  cases m
  cases m'
  obtain ⟨⟨⟨rfl, rfl, rfl, rfl⟩, rfl, rfl, rfl⟩, rfl, rfl⟩ := h
  unfold Message.parseData
  dsimp only at hf ⊢
  generalize (callTlvData _ .wild).run (parseCursor buf mngMsgBaseSize left) = x at hf ⊢
  rcases x with ⟨_ | p, c⟩
  · refine SameParsed.after (Alike.refused ?_ hf) _
    exact ⟨rfl, rfl, rfl, rfl⟩
  · refine SameParsed.after (AlikeReply.ok ?_) _
    exact ⟨⟨⟨rfl, rfl, rfl, rfl⟩, rfl, rfl, rfl⟩, rfl, rfl⟩

theorem AlikeReply.parseErrorDisplay (h : AlikeReply m m') (he : m'.errorId = m.errorId) (buf : Mem) (left : Int) :
    SameParsed (m.parseErrorDisplay buf left) (m'.parseErrorDisplay buf left) := by
  cases m
  cases m'
  obtain ⟨⟨⟨rfl, rfl, rfl, rfl⟩, rfl, rfl, rfl⟩, rfl, rfl⟩ := h
  obtain rfl := he
  unfold Message.parseErrorDisplay
  dsimp only
  generalize PTPText_t.proc _ = p
  rcases p.run (parseCursor buf (mngHeaderSize + tlvSize + errorTlvSize) left) with ⟨_ | t, c⟩
  · refine SameParsed.after (Alike.refused ?_ (by decide)) _
    exact ⟨rfl, rfl, rfl, rfl⟩
  · refine SameParsed.after (AlikeReply.msg ?_ ?_) _
    · exact ⟨⟨⟨rfl, rfl, rfl, rfl⟩, rfl, rfl, rfl⟩, rfl, rfl⟩
    · rfl

theorem AlikeHead.parseError (h : AlikeHead m m') (hr : m'.replyAction = m.replyAction) (buf : Mem) (size left : Int) :
    SameParsed (m.parseError buf size left) (m'.parseError buf size left) := by
  cases m
  cases m'
  obtain ⟨⟨rfl, rfl, rfl, rfl⟩, rfl, rfl, rfl⟩ := h
  obtain rfl := hr
  unfold Message.parseError
  dsimp only
  refine ite_same (fun _ => ?_) fun _ => SameParsed.reading ?_ _
  · refine Alike.refused ?_ (by decide)
    exact ⟨rfl, rfl, rfl, rfl⟩
  rcases findTlvId _ _ with _ | id
  · refine Alike.refused ?_ (by decide)
    exact ⟨rfl, rfl, rfl, rfl⟩
  dsimp only
  refine ite_same (fun _ => ?_) fun _ => SameParsed.reading ?_ _
  · refine Alike.refused ?_ (by decide)
    exact ⟨rfl, rfl, rfl, rfl⟩
  refine ite_same (fun _ => ?_) fun _ => ite_same (fun _ => ?_) fun _ => ite_same (fun _ => ?_) fun _ => ?_
  · refine Alike.refused ?_ (by decide)
    exact ⟨rfl, rfl, rfl, rfl⟩
  · refine Alike.refused ?_ (by decide)
    exact ⟨rfl, rfl, rfl, rfl⟩
  · refine AlikeReply.parseErrorDisplay ?_ ?_ _ _
    · exact ⟨⟨⟨rfl, rfl, rfl, rfl⟩, rfl, rfl, rfl⟩, rfl, rfl⟩
    · rfl
  · refine AlikeReply.msg ?_ ?_
    · exact ⟨⟨⟨rfl, rfl, rfl, rfl⟩, rfl, rfl, rfl⟩, rfl, rfl⟩
    · rfl

theorem AlikeHead.parseMng (h : AlikeHead m m') (hr : m'.replyAction = m.replyAction) (buf : Mem) (size left : Int) :
    SameParsed (m.parseMng buf size left) (m'.parseMng buf size left) := by
  cases m
  cases m'
  obtain ⟨⟨rfl, rfl, rfl, rfl⟩, rfl, rfl, rfl⟩ := h
  obtain rfl := hr
  unfold Message.parseMng
  dsimp only
  refine ite_same (fun _ => ?_) fun _ => SameParsed.reading ?_ _
  · refine Alike.refused ?_ (by decide)
    exact ⟨rfl, rfl, rfl, rfl⟩
  rcases findTlvId _ _ with _ | id
  · refine Alike.refused ?_ (by decide)
    exact ⟨rfl, rfl, rfl, rfl⟩
  dsimp only
  refine ite_same (fun _ => ?_) fun _ => ite_same (fun _ => ?_) fun _ => ite_same (fun _ => ?_) fun _ =>
    ite_same (fun _ => ?_) fun _ => ?_
  · refine Alike.refused ?_ (by decide)
    exact ⟨rfl, rfl, rfl, rfl⟩
  · refine Alike.refused ?_ (by decide)
    exact ⟨rfl, rfl, rfl, rfl⟩
  · refine AlikeReply.ok ?_
    exact ⟨⟨⟨rfl, rfl, rfl, rfl⟩, rfl, rfl, rfl⟩, rfl, rfl⟩
  · refine Alike.refused ?_ (by decide)
    exact ⟨rfl, rfl, rfl, rfl⟩
  · refine AlikeReply.parseData ?_ _ _
    exact ⟨⟨⟨rfl, rfl, rfl, rfl⟩, rfl, rfl, rfl⟩, rfl, rfl⟩

theorem AlikeHead.parseManagement (h : AlikeHead m m') (buf : Mem) (n : Int) :
    SameParsed (m.parseManagement buf n) (m'.parseManagement buf n) := by
  unfold Message.parseManagement
  refine SameParsed.reading ?_ _
  rcases Message.replyAction? (buf 46 &&& 0xf) with _ | action
  · exact h.refused (by decide)
  have ha : AlikeHead { m with replyAction := action } { m' with replyAction := action } :=
    ⟨⟨h.prms, h.dataGet, h.errorDisplay, h.sigTlvs⟩, h.type, h.sequence, h.peer⟩
  refine SameParsed.reading (ite_same (fun _ => ?_) fun _ => ite_same (fun _ => ?_) fun _ => ?_) _
  · exact ha.parseError rfl _ _ _
  · exact ha.refused (by decide)
  · exact ha.parseMng rfl _ _ _

theorem parseSig_eq (m : Message) (buf : Mem) (n : Int) {x : MngParseError × SigLoop}
    (hx : parseSigLoop m.prms buf ((n - sigBaseSize).toNat + 1)
      ⟨sigBaseSize, n - sigBaseSize, m.sigTlvs.clear, .empty⟩ = x) :
    m.parseSig buf n = ⟨x.1, { m with sigTlvs := x.2.tlvs }, x.2.trace⟩ := by
  unfold Message.parseSig
  dsimp only
  rw [hx]

theorem AlikeHead.parseSig (h : AlikeHead m m') (buf : Mem) (n : Int) :
    SameParsed (m.parseSig buf n) (m'.parseSig buf n) := by
  have he : (m.parseSig buf n).err = .SIG ∨ Failure (m.parseSig buf n).err := by
    rw [(parseSig_walk m buf n).1]
    exact walk_err _ _ _ _ _
  have ha : ¬ Accepted (m.parseSig buf n).err := by
    rintro (ha | ha) <;> rw [ha] at he <;> exact absurd he (by decide)
  generalize hx : parseSigLoop m.prms buf ((n - sigBaseSize).toNat + 1)
    ⟨sigBaseSize, n - sigBaseSize, m.sigTlvs.clear, .empty⟩ = x
  rw [parseSig_eq m buf n hx] at ha ⊢
  rw [parseSig_eq m' buf n (by rw [h.prms, h.sigTlvs, hx])]
  have hs : AlikeHead { m with sigTlvs := x.2.tlvs } { m' with sigTlvs := x.2.tlvs } :=
    ⟨⟨h.prms, h.dataGet, h.errorDisplay, rfl⟩, h.type, h.sequence, h.peer⟩
  exact ⟨rfl, rfl, hs.toAlike, fun _ => hs, fun h => absurd h ha, fun h => absurd (.inr h) ha⟩

theorem Alike.parseHeader (h : Alike m m') (ht : m'.type = m.type) (buf : Mem) (n : Int) :
    SameParsed (m.parseHeader buf n) (m'.parseHeader buf n) := by
  unfold Message.parseHeader
  have hv : Alike { m with versionPTP := buf 1 &&& 0xf, minorVersionPTP := buf 1 >>> 4 }
      { m' with versionPTP := buf 1 &&& 0xf, minorVersionPTP := buf 1 >>> 4 } :=
    ⟨h.prms, h.dataGet, h.errorDisplay, h.sigTlvs⟩
  refine SameParsed.reading (ite_same (fun _ => hv.refused (by decide)) fun _ => SameParsed.reading (ite_same (fun _ =>
    hv.refused (by decide)) fun _ => SameParsed.reading ?_ _) _) _
  have hh : AlikeHead (Message.setHeader { m with versionPTP := buf 1 &&& 0xf, minorVersionPTP := buf 1 >>> 4 } buf)
      (Message.setHeader { m' with versionPTP := buf 1 &&& 0xf, minorVersionPTP := buf 1 >>> 4 } buf) :=
    ⟨⟨h.prms, h.dataGet, h.errorDisplay, h.sigTlvs⟩, ht, rfl, rfl⟩
  dsimp only
  rw [hh.type]
  exact ite_same (fun _ => hh.parseSig buf n) fun _ => hh.parseManagement buf n

/-- Two objects that are alike are so after every message, and show the same of it. -/
theorem Alike.parse (h : Alike m m') (buf : Mem) (n : Int) : SameParsed (m.parse buf n) (m'.parse buf n) := by
  unfold Message.parse
  have ht : Alike { m with type := buf 0 &&& 0xf } { m' with type := buf 0 &&& 0xf } :=
    ⟨h.prms, h.dataGet, h.errorDisplay, h.sigTlvs⟩
  refine ite_same (fun _ => h.refused (by decide)) fun _ => SameParsed.reading ?_ _
  dsimp only
  rw [show m'.prms.rcvSignaling = m.prms.rcvSignaling by rw [h.prms]]
  have hd : SameParsed (Message.parseHeader { m with type := buf 0 &&& 0xf } buf n)
      (Message.parseHeader { m' with type := buf 0 &&& 0xf } buf n) := ht.parseHeader rfl buf n
  refine ite_same (fun _ => ite_same (fun _ => ht.refused (by decide)) fun _ => SameParsed.reading ?_ _) fun _ =>
    ite_same (fun _ => ite_same (fun _ => ht.refused (by decide)) fun _ => SameParsed.reading ?_ _) fun _ =>
      ht.refused (by decide)
  · exact ite_same (fun _ => ht.refused (by decide)) fun _ => hd
  · exact ite_same (fun _ => ht.refused (by decide)) fun _ => hd

end Object

end LibPmc
