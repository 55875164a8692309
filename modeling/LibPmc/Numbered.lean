import LibPmc.Requests
/-!
# The requests of a run

Each datagram of a run is a whole request of the parameters, and they are numbered in the order
they are sent: `requests_numbered`.
-/
namespace LibPmc

open Cstr Wire Wire.Prog Pmc

/-! ## The octets of a request -/

/-- What is asked for, with the dataField. -/
structure Request where
  prms : MsgParams
  action : ActionField
  id : MngVals
  body : List UInt8
  allowed : (mngAllVals id).allowed &&& action.bit ≠ 0
  even : body.length % 2 = 0
  short : mngMsgBaseSize + body.length ≤ Pmc.bufSize

/-- A request with a sequence number. -/
def Request.datagram (q : Request) (sequence : UInt16) : List UInt8 :=
  [MsgType.Management ||| (q.prms.transportSpecific <<< 4), ptp_version] ++
  beOctets 2 (mngMsgBaseSize + q.body.length) ++
  [q.prms.domainNumber, 0, if q.prms.isUnicast then unicastFlag else 0, 0] ++ List.replicate 12 0 ++
  q.prms.self_id.clockIdentity.v.val ++ be16 q.prms.self_id.portNumber ++ be16 sequence ++
  [controlFieldMng, logMessageIntervalDef] ++ q.prms.target.clockIdentity.v.val ++ be16 q.prms.target.portNumber ++
  [q.prms.boundaryHops, q.prms.boundaryHops, q.action.val, 0] ++
  be16 TlvType.MANAGEMENT ++ beOctets 2 (lengthFieldMngBase + q.body.length) ++ be16 (mngAllVals q.id).value ++ q.body

section Build
variable {m : Message} {buf : Mem} {n : Nat} {sequence : UInt16} {c : Cursor MngParseError}

/-- The header stands, and the dataField has its room. -/
structure Headed (m : Message) (buf : Mem) (n : Nat) (sequence : UInt16) (c : Cursor MngParseError) : Prop where
  front : ∀ i, i < mngMsgBaseSize → c.mem i = (m.buildCursor buf n sequence).mem i
  room : mngMsgBaseSize + c.size ≤ n

/-- The cursor is behind what is written of the dataField. -/
structure AtField (m : Message) (buf : Mem) (n : Nat) (sequence : UInt16) (c : Cursor MngParseError) : Prop where
  front : ∀ i, i < mngMsgBaseSize → c.mem i = (m.buildCursor buf n sequence).mem i
  build : c.build = true
  cur : c.cur = mngMsgBaseSize + c.size
  end_eq : (c.cur : Int) + c.left = n
  left : 0 ≤ c.left

theorem AtField.start (hn : ¬ n < mngMsgBaseSize) : AtField m buf n sequence (m.buildCursor buf n sequence) :=
  ⟨fun _ _ => rfl, rfl, rfl, by simp [Message.buildCursor], by simp only [Message.buildCursor]; omega⟩

theorem AtField.headed (h : AtField m buf n sequence c) : Headed m buf n sequence c :=
  ⟨h.front, by have := h.cur; have := h.end_eq; have := h.left; omega⟩

theorem AtField.run (h : AtField m buf n sequence c) {α : Type} (p : P α) [hp : Gapless Failure p] :
    AtField m buf n sequence (p.run c).2 := by
  have hs := run_size p c
  have hc := h.cur
  obtain ⟨hb, he⟩ := run_end p c
  exact ⟨fun i hi => (run_front p (by omega)).trans (h.front i hi), hb.trans h.build, by omega, he.trans h.end_eq,
    run_left hp.covers h.build h.left⟩

theorem AtField.buildPad (h : AtField m buf n sequence c) : AtField m buf n sequence (Message.buildPad c).2 := by
  have hr := h.run procReserved
  unfold Message.buildPad
  split
  · split <;> rename_i hp <;> rw [hp] at hr <;> exact hr
  · exact h

theorem AtField.buildZero (h : AtField m buf n sequence c) (hc : c.size = 0) :
    Headed m buf n sequence (m.buildZero c).2 := by
  have hcur := h.cur
  have he := h.end_eq
  unfold Message.buildZero
  dsimp only
  generalize (if (mngAllVals m.tlvId).size = -2 then dataFieldSize m.tlvId none else (mngAllVals m.tlvId).size) = k
  split
  · exact h.headed
  split
  · exact h.headed
  split
  · exact h.headed
  · exact ⟨fun i hi => (Mem.store_apply_of_outside (by omega)).trans (h.front i hi), by dsimp only; omega⟩

theorem AtField.buildData (h : AtField m buf n sequence c) (d : BaseMngTlv) :
    AtField m buf n sequence (m.buildData d c).2.2 := by
  have hr := h.run (callTlvData m.tlvId (.to d))
  unfold Message.buildData
  generalize (callTlvData m.tlvId (.to d)).run c = x at hr ⊢
  rcases x with ⟨_ | p, x⟩
  · exact hr
  · exact AtField.buildPad hr

/-- The header as it is built, with its length in place of the zeros. -/
theorem Request.datagram_eq (q : Request) (hp : q.prms = m.prms) (ha : q.action = m.sendAction) (hid : q.id = m.tlvId) :
    q.datagram sequence = (m.headerOctets sequence).take 2 ++ beOctets 2 (mngMsgBaseSize + q.body.length) ++
      (m.headerOctets sequence).drop 4 ++ be16 TlvType.MANAGEMENT ++ beOctets 2 (lengthFieldMngBase + q.body.length) ++
      be16 (mngAllVals m.tlvId).value ++ q.body := by
  unfold Request.datagram Message.headerOctets
  rw [hp, ha, hid]
  simp only [List.append_assoc, List.cons_append, List.nil_append, List.take_succ_cons, List.take_zero,
    List.drop_succ_cons,
    List.drop_zero]

/-- The message, once the lengths are written. -/
theorem Headed.octets (h : Headed m buf n sequence c) {q : Request} (hp : q.prms = m.prms)
    (ha : q.action = m.sendAction)
    (hid : q.id = m.tlvId) (hb : q.body = c.mem.slice mngMsgBaseSize c.size) :
    ((c.mem.store (mngHeaderSize + 2) (beOctets 2 (lengthFieldMngBase + c.size))).store 2
      (beOctets 2 (mngMsgBaseSize + c.size))).slice 0 (mngMsgBaseSize + c.size) = q.datagram sequence := by
  have hl : q.body.length = c.size := by rw [hb, Mem.slice_length]
  have hlen := headerOctets_length m sequence
  have hf (off k : Nat) (hk : off + k ≤ 54) : c.mem.slice off k = (m.buildCursor buf n sequence).mem.slice off k :=
    Mem.slice_congr fun i _ hi => h.front i (show i < 54 by omega)
  have hH : c.mem.slice 0 48 = m.headerOctets sequence := by
    rw [hf 0 48 (by omega)]
    simp only [Message.buildCursor, mngHeaderSize, tlvSize] at hlen ⊢
    rw [Mem.slice_store_of_disjoint (.inl (by omega)), Mem.slice_store_of_disjoint (.inl (by omega)),
      Mem.slice_store_of_length _ _ hlen]
  have hT : c.mem.slice 48 2 = be16 TlvType.MANAGEMENT := by
    rw [hf 48 2 (by omega)]
    simp only [Message.buildCursor, mngHeaderSize, tlvSize]
    rw [Mem.slice_store_of_disjoint (.inl (by omega)), Mem.slice_store_of_length _ _ (beOctets_length 2 _)]
  have hI : c.mem.slice 52 2 = be16 (mngAllVals m.tlvId).value := by
    rw [hf 52 2 (by omega)]
    simp only [Message.buildCursor, mngHeaderSize, tlvSize]
    rw [Mem.slice_store_of_length _ _ (beOctets_length 2 _)]
  have h1 : (beOctets 2 (lengthFieldMngBase + c.size)).length = 2 := beOctets_length 2 _
  have h2 : (beOctets 2 (mngMsgBaseSize + c.size)).length = 2 := beOctets_length 2 _
  rw [q.datagram_eq hp ha hid, hl, hb, ← hH, ← hT, ← hI, Mem.take_slice _ _ (by omega), Mem.drop_slice _ _ (by omega)]
  generalize beOctets 2 (lengthFieldMngBase + c.size) = a at h1 ⊢
  generalize beOctets 2 (mngMsgBaseSize + c.size) = b at h2 ⊢
  simp only [mngMsgBaseSize, mngHeaderSize, tlvSize, lengthFieldMngBase]
  have split (mem : Mem) : mem.slice 0 (48 + 4 + 2 + c.size) = mem.slice 0 2 ++ mem.slice 2 2 ++ mem.slice 4 44 ++
    mem.slice 48 2 ++
      mem.slice 50 2 ++ mem.slice 52 2 ++ mem.slice 54 c.size := by
    rw [Mem.slice_add, mem.slice_add 0 52 2, mem.slice_add 0 50 2, mem.slice_add 0 48 2, mem.slice_add 0 4 44,
      mem.slice_add 0 2 2]
  rw [split, Mem.slice_store_of_length _ 2 h2]
  simp (disch := omega) only [Mem.slice_store_of_disjoint, Mem.slice_store_of_length _ _ h1]

theorem Headed.buildEnd (h : Headed m buf n sequence c) (hn : n ≤ bufSize) {m' : Message}
    (ha : (mngAllVals m.tlvId).allowed &&& m.sendAction.bit ≠ 0) (hok : (m'.buildEnd c).err = .OK) :
    ∃ q : Request, q.prms = m.prms ∧ q.action = m.sendAction ∧ q.id = m.tlvId ∧
      (m'.buildEnd c).mem.slice 0 (m'.buildEnd c).msg.msgLen = q.datagram sequence := by
  unfold Message.buildEnd at hok ⊢
  dsimp only at hok ⊢
  split at hok
  · cases hok
  · rename_i he
    rw [if_neg he]
    have hb : (c.mem.slice mngMsgBaseSize c.size).length = c.size := Mem.slice_length _ _ _
    have h54 : mngMsgBaseSize = 54 := rfl
    refine ⟨⟨m.prms, m.sendAction, m.tlvId, c.mem.slice mngMsgBaseSize c.size, ha, by omega, ?_⟩, rfl, rfl, rfl, ?_⟩
    · rw [hb]
      exact h.room.trans hn
    · exact h.octets rfl rfl rfl rfl

/-- A message that is built is a request of what is set. -/
theorem built_request {b : Message.Built} (hb : m.build buf n sequence = some b) (hok : b.err = .OK) (hn : n ≤ bufSize)
    (ha : (mngAllVals m.tlvId).allowed &&& m.sendAction.bit ≠ 0) :
    ∃ q : Request, q.prms = m.prms ∧ q.action = m.sendAction ∧ q.id = m.tlvId ∧
      b.mem.slice 0 b.msg.msgLen = q.datagram sequence := by
  cases Message.build_cases hb with
  | small _ => cases hok
  | @zero e c h54 hg hz =>
    have hne {e} := @buildZero_ne m (m.buildCursor buf n sequence) e
    have hs : AtField m buf n sequence _ := .start h54
    have hc := hs.buildZero rfl
    rw [hz] at hne hc
    cases e with
    | none => exact hc.buildEnd hn ha hok
    | some e => exact absurd hok (hne rfl)
  | empty h54 _ _ => exact (AtField.start h54).headed.buildEnd hn ha hok
  | @data d e m' c h54 hg hd hr =>
    have hne {e} := @buildData_ne m (m.buildCursor buf n sequence) d rfl rfl e
    have hs : AtField m buf n sequence _ := .start h54
    have hc := hs.buildData d
    rw [hr] at hne hc
    cases e with
    | none => exact hc.headed.buildEnd hn ha hok
    | some e => exact absurd hok (hne rfl)

end Build

/-! ## A line -/

def Pmc.Out.datagram? : Out → Option (List UInt8)
  | .datagram l => some l
  | _ => none

/-- What goes out of what is done. -/
def Pmc.datagrams (out : List Out) : List (List UInt8) := out.filterMap Out.datagram?

/-- The same parameters for another target. -/
def UpToTarget (p p' : MsgParams) : Prop := ∃ target, p' = { p with target }

theorem UpToTarget.refl (p : MsgParams) : UpToTarget p p := ⟨p.target, rfl⟩

theorem UpToTarget.trans {p q r : MsgParams} (h : UpToTarget p q) (h' : UpToTarget q r) : UpToTarget p r := by
  obtain ⟨t, rfl⟩ := h
  obtain ⟨t', rfl⟩ := h'
  exact ⟨t', rfl⟩

/-- What is printed of a request that was sent. -/
def Request.line (q : Request) : List UInt8 :=
  octets "sending: " ++ octets (act2str_c q.action) ++ octets " " ++ octets (mng2str_c q.id) ++ octets "\n"

/-- What was received is held as before. -/
structure SameHeld (m m' : Message) : Prop where
  dataGet : m'.dataGet = m.dataGet
  errorDisplay : m'.errorDisplay = m.errorDisplay
  sigTlvs : m'.sigTlvs = m.sigTlvs

theorem SameHeld.trans {a b c : Message} (h : SameHeld a b) (h' : SameHeld b c) : SameHeld a c :=
  ⟨h'.dataGet.trans h.dataGet, h'.errorDisplay.trans h.errorDisplay, h'.sigTlvs.trans h.sigTlvs⟩

/-- A line sends the request with the next number and counts it, or sends nothing. -/
inductive LineCase (s : Pmc) (sends : Bool) : Bool × Pmc × List Out → Prop
  | sent {t : Pmc} (hs : sends = true) (q : Request) (hq : q.prms = s.msg.prms) (hp : t.msg.prms = s.msg.prms)
      (hn : t.seq = s.seq + 1) (hh : SameHeld s.msg t.msg) (hu : t.use_uds = s.use_uds) :
      LineCase s sends (true, t, [.datagram (q.datagram (UInt16.ofNat s.seq)), .stdout q.line])
  | none {t : Pmc} {out : List Out} (ho : datagrams out = []) (hp : UpToTarget s.msg.prms t.msg.prms)
      (hn : t.seq = s.seq) (hh : SameHeld s.msg t.msg) (hu : t.use_uds = s.use_uds) : LineCase s sends (false, t, out)

section Line
variable {s : Pmc}

theorem buildData_held (m : Message) (d : BaseMngTlv) (c : Cursor MngParseError) :
    SameHeld m (m.buildData d c).2.1 := by
  unfold Message.buildData
  rcases (callTlvData m.tlvId (.to d)).run c with ⟨_ | _ | _ | _, _⟩ <;> exact ⟨rfl, rfl, rfl⟩

theorem buildResult_held (m : Message) (c : Cursor MngParseError) (e : Option MngParseError) :
    SameHeld m (m.buildResult c e).msg := by
  unfold Message.buildResult Message.buildEnd
  cases e with
  | some e => exact ⟨rfl, rfl, rfl⟩
  | none =>
    dsimp only
    split <;> exact ⟨rfl, rfl, rfl⟩

/-- A build leaves what was received. -/
theorem build_held {m : Message} {buf : Mem} {bufSize : Nat} {sequence : UInt16} {b : Message.Built}
    (h : m.build buf bufSize sequence = some b) : SameHeld m b.msg := by
  cases Message.build_cases h with
  | small _ => exact ⟨rfl, rfl, rfl⟩
  | zero _ _ _ => exact buildResult_held m _ _
  | empty _ _ _ => exact buildResult_held m _ none
  | @data d e m' c _ _ _ hr =>
    have hd := buildData_held m d (m.buildCursor buf bufSize sequence)
    rw [hr] at hd
    exact hd.trans (buildResult_held _ _ _)

theorem setAction_held (m : Message) (action : ActionField) (id : MngVals) :
    (m.setAction action id).2.prms = m.prms ∧ SameHeld m (m.setAction action id).2 := by
  unfold Message.setAction
  split
  · exact ⟨rfl, rfl, rfl, rfl⟩
  · split <;> exact ⟨rfl, rfl, rfl, rfl⟩

theorem setActionData_held (m : Message) (action : ActionField) (id : MngVals) (d : BaseMngTlv) :
    (m.setActionData action id d).2.prms = m.prms ∧ SameHeld m (m.setActionData action id d).2 := by
  unfold Message.setActionData
  split <;> exact ⟨rfl, rfl, rfl, rfl⟩

/-- An action that is set is allowed for its id. -/
theorem setCommand_set {m m' : Message} {action : ActionField} {id : MngVals} {heap : Heap} {line : Buf} {save : Nat}
    {ok : Bool} (h : Pmc.setCommand m action id heap line save = some (ok, m')) :
    (m'.prms = m.prms ∧ SameHeld m m') ∧ (ok = true → m'.sendAction = action ∧ m'.tlvId = id ∧
      (mngAllVals id).allowed &&& action.bit ≠ 0) := by
  unfold Pmc.setCommand at h
  split at h
  · have hp := setAction_held m action id
    have hok := @Message.setAction_ok m action id
    rw [Option.some.inj h] at hp hok
    refine ⟨hp, fun h => ?_⟩
    obtain ⟨hallow, -, hset⟩ := hok h
    dsimp only at hset
    rw [hset]
    exact ⟨rfl, rfl, (Message.allowedAction_spec hallow).2⟩
  · rcases hd : heap.call_data id line save with (_ | _) | d <;> rw [hd] at h
    · cases h
      exact ⟨⟨rfl, rfl, rfl, rfl⟩, fun h => by cases h⟩
    · cases h
    · have hp := setActionData_held m action id d
      have hok := @Message.setActionData_ok m action id d
      rw [Option.some.inj h] at hp hok
      refine ⟨hp, fun h => ?_⟩
      obtain ⟨hallow, hset⟩ := hok h
      dsimp only at hset
      rw [hset]
      exact ⟨rfl, rfl, (Message.allowedAction_spec hallow).2⟩

theorem sendAction_cases {sends : Bool} (ha : (mngAllVals s.msg.tlvId).allowed &&& s.msg.sendAction.bit ≠ 0)
    {sent : Bool} {t : Pmc} {out : List Out} (h : s.sendAction sends = some (sent, t, out)) :
    t.msg.prms = s.msg.prms ∧ SameHeld s.msg t.msg ∧ t.use_uds = s.use_uds ∧
      ((sent = false ∧ datagrams out = [] ∧ t.seq = s.seq) ∨
       (sent = true ∧ sends = true ∧ t.seq = s.seq + 1 ∧ t.msg.sendAction = s.msg.sendAction ∧ ∃ q : Request,
        q.prms = s.msg.prms ∧ q.action = s.msg.sendAction ∧ q.id = s.msg.tlvId ∧
        out = [.datagram (q.datagram (UInt16.ofNat s.seq))])) := by
  obtain ⟨b, hb, h⟩ := Option.bind_eq_some_iff.1 h
  have hk := build_keeps _ _ _ _ hb
  have hh := build_held hb
  dsimp only at h
  split at h
  · cases h
    exact ⟨hk.prms, hh, rfl, .inl ⟨rfl, rfl, rfl⟩⟩
  split at h
  · cases h
    exact ⟨hk.prms, hh, rfl, .inl ⟨rfl, rfl, rfl⟩⟩
  · rename_i hok hs
    cases h
    obtain ⟨q, hq, hqa, hqi, ho⟩ := built_request hb (not_not.1 hok) le_rfl ha
    exact ⟨hk.prms, hh, rfl, .inr ⟨rfl, not_not.1 hs, rfl, hk.sendAction, q, hq, hqa, hqi, by rw [ho]⟩⟩

theorem command_cases {action : ActionField} {id : MngVals} {heap : Heap} {sends : Bool} {line : Buf} {save : Nat}
    {r : Bool × Pmc × List Out} (h : s.command action id heap sends line save = some r) : LineCase s sends r := by
  obtain ⟨⟨ok, m⟩, hset, h⟩ := Option.bind_eq_some_iff.1 h
  obtain ⟨⟨hp, hh⟩, hm⟩ := setCommand_set hset
  cases ok with
  | false =>
    cases h
    exact .none rfl ⟨_, by rw [hp]⟩ rfl hh rfl
  | true =>
    obtain ⟨hact, hid, hallow⟩ := hm rfl
    obtain ⟨⟨sent, t, out⟩, hsend, h⟩ := Option.bind_eq_some_iff.1 h
    have hallow' : (mngAllVals m.tlvId).allowed &&& m.sendAction.bit ≠ 0 := by rw [hact, hid]; exact hallow
    obtain ⟨htp, hth, hu, ⟨rfl, ho, hn⟩ | ⟨rfl, hs, hn, hta, q, hq, hqa, hqi, rfl⟩⟩ := sendAction_cases hallow' hsend
    · cases h
      exact .none ho ⟨_, (htp.trans hp).trans rfl⟩ hn (hh.trans hth) hu
    · have hl : octets "sending: " ++ octets (act2str_c t.msg.sendAction) ++ octets " " ++
        octets (mng2str_c id) ++ octets "\n" =
          q.line := by
        unfold Request.line
        rw [hqa, hqi, hid, hta]
      cases h
      rw [hl]
      exact .sent hs q (hq.trans hp) (htp.trans hp) hn (hh.trans hth) hu

/-- The target command changes the target at most. -/
theorem target_cases {cur : List UInt8} {t : Pmc} {out : List Out} (h : s.target cur = some (t, out)) :
    datagrams out = [] ∧ UpToTarget s.msg.prms t.msg.prms ∧ t.seq = s.seq ∧ SameHeld s.msg t.msg ∧
    t.use_uds = s.use_uds := by
  unfold Pmc.target at h
  split at h
  · cases h
    exact ⟨rfl, ⟨_, rfl⟩, rfl, ⟨rfl, rfl, rfl⟩, rfl⟩
  rcases updatePortIdentity_cases s.msg.prms cur with hu | ⟨target, hu⟩ <;> rw [hu] at h
  · cases h
    exact ⟨rfl, .refl _, rfl, ⟨rfl, rfl, rfl⟩, rfl⟩
  · cases h
    dsimp only [Message.updateParams]
    split
    · exact ⟨rfl, .refl _, rfl, ⟨rfl, rfl, rfl⟩, rfl⟩
    · exact ⟨rfl, ⟨target, rfl⟩, rfl, ⟨rfl, rfl, rfl⟩, rfl⟩

/-- What a line does. -/
theorem line_cases {heap : Heap} {sends : Bool} {line : Buf} {r : Bool × Pmc × List Out}
    (h : s.run_line heap sends line = some r) : LineCase s sends r := by
  have stop {r : Bool × Pmc × List Out} (h : some (false, s, []) = some r) : LineCase s sends r := by
    cases h
    exact .none rfl (.refl _) rfl ⟨rfl, rfl, rfl⟩ rfl
  unfold Pmc.run_line at h
  obtain ⟨⟨cur, line, save⟩, -, h⟩ := Option.bind_eq_some_iff.1 h
  cases cur with
  | none => exact stop h
  | some cur =>
    obtain ⟨cur, -, h⟩ := Option.bind_eq_some_iff.1 h
    dsimp only at h
    cases ha : action? cur with
    | some action =>
      rw [ha] at h
      obtain ⟨⟨cur, line, save⟩, -, h⟩ := Option.bind_eq_some_iff.1 h
      cases cur with
      | none => exact stop h
      | some cur =>
        obtain ⟨str, -, h⟩ := Option.bind_eq_some_iff.1 h
        rcases findId .NULL_PTP_MANAGEMENT str with ⟨found, id, str⟩
        dsimp only at h
        split at h
        · exact stop h
        · exact command_cases h
    | none =>
      rw [ha] at h
      dsimp only at h
      split at h
      · exact stop h
      obtain ⟨⟨cur, line, save⟩, -, h⟩ := Option.bind_eq_some_iff.1 h
      cases cur with
      | none => exact stop h
      | some cur =>
        obtain ⟨str, -, h⟩ := Option.bind_eq_some_iff.1 h
        obtain ⟨⟨t, out⟩, ht, h⟩ := Option.bind_eq_some_iff.1 h
        obtain ⟨ho, hp, hn, hh, hu⟩ := target_cases ht
        cases h
        exact .none ho hp hn hh hu

end Line

/-! ## Runs -/

/-- Nothing is sent where something is received. -/
theorem rcv_datagrams {libc : Inet} {s : Pmc} {datagram : Option (List UInt8)} {r : Int × Pmc × List Out}
    (h : s.rcv libc datagram = some r) : datagrams r.2.2 = [] := by
  cases datagram with
  | none => cases h; rfl
  | some l =>
    unfold Pmc.rcv Pmc.afterRcv at h
    dsimp only at h
    generalize s.msg.parse (s.buf.store 0 (l.take bufSize)) (l.take bufSize).length = p at h
    split at h
    · cases h
    split at h
    · cases h; rfl
    · obtain ⟨out, -, hr⟩ := Option.bind_eq_some_iff.1 h
      cases hr; rfl
    · obtain ⟨out, -, hr⟩ := Option.bind_eq_some_iff.1 h
      cases hr; rfl
    · split at h <;> cases h <;> rfl

/-- Requests with successive sequence numbers. -/
def numbered (n : Nat) (qs : List Request) : List (List UInt8) := qs.mapIdx fun i q => q.datagram (UInt16.ofNat (n + i))

theorem numbered_append (n : Nat) (qs qs' : List Request) :
    numbered n (qs ++ qs') = numbered n qs ++ numbered (n + qs.length) qs' := by
  have hi (i : Nat) : n + (i + qs.length) = n + qs.length + i := by omega
  simp only [numbered, List.mapIdx_append, hi]

/-- What was done has sent the next requests. -/
structure Sends (s t : Pmc) (out : List Out) (qs : List Request) : Prop where
  datagrams : datagrams out = numbered s.seq qs
  seq : t.seq = s.seq + qs.length
  prms : UpToTarget s.msg.prms t.msg.prms
  requests : ∀ q ∈ qs, UpToTarget s.msg.prms q.prms

theorem Sends.nil (s : Pmc) : Sends s s [] [] := ⟨rfl, rfl, .refl _, by simp⟩

theorem Sends.append {s t u : Pmc} {out out' : List Out} {qs qs' : List Request} (h : Sends s t out qs)
    (h' : Sends t u out' qs') : Sends s u (out ++ out') (qs ++ qs') := by
  refine ⟨?_, ?_, h.prms.trans h'.prms, fun q hq => ?_⟩
  · rw [numbered_append, ← h.seq, ← h.datagrams, ← h'.datagrams]
    exact List.filterMap_append
  · rw [h'.seq, h.seq, List.length_append, Nat.add_assoc]
  · rcases List.mem_append.1 hq with hq | hq
    · exact h.requests q hq
    · exact h.prms.trans (h'.requests q hq)

theorem LineCase.sends {s : Pmc} {sends sent : Bool} {t : Pmc} {out : List Out} (h : LineCase s sends (sent, t, out)) :
    ∃ qs : List Request, Sends s t out qs ∧ qs.length = if sent then 1 else 0 := by
  cases h with
  | sent hs q hq hp hn _ _ =>
    refine ⟨[q], ⟨rfl, hn, ?_, fun q' hq' => ?_⟩, rfl⟩
    · rw [hp]
      exact .refl _
    · rw [List.mem_singleton.1 hq', hq]
      exact .refl _
  | none ho hp hn _ _ => exact ⟨[], ⟨ho, hn, hp, by simp⟩, rfl⟩

theorem rcv_sends {libc : Inet} {s : Pmc} {datagram : Option (List UInt8)} {r : Int × Pmc × List Out}
    (h : s.rcv libc datagram = some r) : Sends s r.2.1 r.2.2 [] := by
  have hs := rcv_sender h
  refine ⟨rcv_datagrams h, hs.seq, ?_, by simp⟩
  rw [hs.prms]
  exact .refl _

/-- The loop on a network sends requests with successive numbers. -/
theorem run_sends {libc : Inet} {s : Pmc} {es : List Event} {r : Pmc × List (Event × List Out)}
    (h : s.run libc es = some r) : ∃ qs, Sends s r.1 (r.2.flatMap Prod.snd) qs := by
  induction es generalizing s r with
  | nil => cases h; exact ⟨[], .nil s⟩
  | cons e es ih =>
    obtain ⟨t, out, trace, hstep, hrun, htrace⟩ := Machine.run_cons.1 h
    obtain ⟨qs, hqs⟩ := ih hrun
    rw [htrace, List.flatMap_cons]
    cases e with
    | line c =>
      obtain ⟨sent, hline⟩ := step_line.1 hstep
      obtain ⟨q, hq, -⟩ := (line_cases hline).sends
      exact ⟨q ++ qs, hq.append hqs⟩
    | packet datagram =>
      obtain ⟨n, hrcv⟩ := step_packet.1 hstep
      exact ⟨qs, (rcv_sends hrcv).append hqs⟩

theorem rcv_timeout_sends {libc : Inet} {s t : Pmc} {out : List Out} {rcvs : List (Option (List UInt8) × Nat)}
    (h : s.rcv_timeout libc rcvs = some (t, out)) : Sends s t out [] := by
  induction rcvs generalizing s t out with
  | nil => cases h; exact .nil s
  | cons x rcvs ih =>
    obtain ⟨⟨n, u, out1⟩, hrcv, h⟩ := Option.bind_eq_some_iff.1 h
    dsimp only at h
    split at h
    · obtain ⟨⟨v, out2⟩, hrest, h⟩ := Option.bind_eq_some_iff.1 h
      cases h
      exact (rcv_sends hrcv).append (ih hrest)
    · cases h
      exact rcv_sends hrcv

/-- The count of the commands that were sent is the one of the requests. -/
theorem commands_sends {s t : Pmc} {out : List Out} {pkts : Nat} {cs : List CommandLine}
    (h : s.commands cs = some (pkts, t, out)) : ∃ qs, Sends s t out qs ∧ qs.length = pkts := by
  induction cs generalizing s t out pkts with
  | nil => cases h; exact ⟨[], .nil s, rfl⟩
  | cons c cs ih =>
    obtain ⟨⟨sent, u, out1⟩, hline, h⟩ := Option.bind_eq_some_iff.1 h
    obtain ⟨⟨pkts', v, out2⟩, hrest, h⟩ := Option.bind_eq_some_iff.1 h
    obtain ⟨q, hq, hlen⟩ := (line_cases hline).sends
    obtain ⟨qs, hqs, rfl⟩ := ih hrest
    cases h
    refine ⟨q ++ qs, hq.append hqs, ?_⟩
    rw [List.length_append, hlen]
    cases sent
    · exact Nat.zero_add _
    · exact Nat.add_comm _ _

theorem receives_sends {libc : Inet} {s t : Pmc} {out : List Out} {pkts : Nat}
    {rcvs : List (List (Option (List UInt8) × Nat))}
    (h : s.receives libc pkts rcvs = some (t, out)) : Sends s t out [] := by
  induction pkts generalizing s t out rcvs with
  | zero => cases h; exact .nil s
  | succ pkts ih =>
    obtain ⟨⟨u, out1⟩, hrcv, h⟩ := Option.bind_eq_some_iff.1 h
    obtain ⟨⟨v, out2⟩, hrest, h⟩ := Option.bind_eq_some_iff.1 h
    cases h
    exact (rcv_timeout_sends hrcv).append (ih hrest)

theorem uds_sends {libc : Inet} {s t : Pmc} {out : List Out}
    {cs : List (CommandLine × List (Option (List UInt8) × Nat))}
    (h : s.uds libc cs = some (t, out)) : ∃ qs, Sends s t out qs := by
  induction cs generalizing s t out with
  | nil => cases h; exact ⟨[], .nil s⟩
  | cons c cs ih =>
    obtain ⟨⟨sent, u, out1⟩, hline, h⟩ := Option.bind_eq_some_iff.1 h
    obtain ⟨⟨v, out2⟩, hrcv, h⟩ := Option.bind_eq_some_iff.1 h
    obtain ⟨⟨w, out3⟩, hrest, h⟩ := Option.bind_eq_some_iff.1 h
    obtain ⟨q, hq, -⟩ := (line_cases hline).sends
    obtain ⟨qs, hqs⟩ := ih hrest
    have hw : Sends u v out2 [] := by
      cases sent with
      | false => cases hrcv; exact .nil u
      | true => exact rcv_timeout_sends hrcv
    cases h
    exact ⟨q ++ [] ++ qs, (hq.append hw).append hqs⟩

/-- Whatever is typed and received, the tool sends whole requests of its parameters, each with
the next sequence number, and a number is used again only for a request that was not sent. In batch
mode it waits as often as it has sent. -/
theorem requests_numbered (libc : Inet) (s : Pmc) :
    (∀ es r, s.run libc es = some r → ∃ qs, Sends s r.1 (r.2.flatMap Prod.snd) qs) ∧
    (∀ cs r, s.uds libc cs = some r → ∃ qs, Sends s r.1 r.2 qs) ∧
    ∀ cs rcvs r, s.batch libc cs rcvs = some r → ∃ qs t out out', Sends s t out qs ∧
      t.receives libc qs.length rcvs = some (r.1, out') ∧ r.2 = out ++ out' ∧ Sends s r.1 r.2 qs := by
  refine ⟨fun es r h => run_sends h, fun cs r h => uds_sends h, fun cs rcvs r h => ?_⟩
  obtain ⟨⟨pkts, t, out⟩, hc, h⟩ := Option.bind_eq_some_iff.1 h
  obtain ⟨⟨u, out'⟩, hr, h⟩ := Option.bind_eq_some_iff.1 h
  obtain rfl := Option.some.inj h
  obtain ⟨qs, hqs, rfl⟩ := commands_sends hc
  refine ⟨qs, t, out, out', hqs, hr, rfl, ?_⟩
  have hs := hqs.append (receives_sends hr)
  rwa [List.append_nil] at hs

/-- A priority is asked for twice, and two requests are sent. -/
theorem priority_numbered : ∃ (r : Pmc × List (Event × List Out)) (qs : List Request),
    started.run twoAddresses [.line getPriority, .packet (some (priorityReply.slice 0 56)),
      .line getPriority] = some r ∧
    qs.length = 2 ∧ Sends started r.1 (r.2.flatMap Prod.snd) qs := by
  have hsent : (started.run twoAddresses [.line getPriority, .packet (some (priorityReply.slice 0 56)),
    .line getPriority]).map
      (fun r => (datagrams (r.2.flatMap Prod.snd)).length) = some 2 := by decide +kernel
  obtain ⟨r, hr, hl⟩ := Option.map_eq_some_iff.1 hsent
  obtain ⟨qs, hqs⟩ := (requests_numbered twoAddresses started).1 _ r hr
  rw [hqs.datagrams, numbered, List.length_mapIdx] at hl
  exact ⟨r, qs, hr, hl, hqs⟩

end LibPmc
