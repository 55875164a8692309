import LibPmc.Build
import LibPmc.Parse
import LibPmc.Emit
/-!
# What a build writes

The octets of a message with a dataField: the header, the dataField with its pad, and the
two lengths. `build_ok` and `build_data_ok` say when such a build succeeds.
-/
namespace LibPmc

open Wire Wire.Prog

/-- The octets the process function writes. -/
def BaseMngTlv.octets (d : BaseMngTlv) : List UInt8 := (procTlv d).write.octets

/-- The dataField: these octets, filled up to an even number. -/
def BaseMngTlv.body (d : BaseMngTlv) : List UInt8 := d.octets ++ List.replicate (d.octets.length % 2) 0

theorem newTlv_id (d : BaseMngTlv) : ∃ t, newTlv d.id = some t := by cases d <;> exact ⟨_, rfl⟩

theorem body_even (d : BaseMngTlv) : d.body.length % 2 = 0 := by
  simp only [BaseMngTlv.body, List.length_append, List.length_replicate]
  omega

/-! ## The dataField -/

section Data
variable {c : Cursor MngParseError} {d a : BaseMngTlv}

theorem run_callTlvData (hb : c.build = true) : (callTlvData d.id (.to d)).run c = (TlvPtr.to <$> procTlv d).run c := by
  obtain ⟨t, ht⟩ := newTlv_id d
  unfold callTlvData
  rw [ht]
  simp only [run, hb, if_true]

theorem buildData_of_none {m : Message} {c' : Cursor MngParseError} (hid : d.id = m.tlvId) (hb : c.build = true)
    (h : (procTlv d).run c = (none, c')) : m.buildData d c = (some c'.err, m, c') := by
  unfold Message.buildData
  rw [← hid, run_callTlvData hb, ← bind_pure_comp, run_bind, h]

theorem buildData_of_some {m : Message} {c' : Cursor MngParseError} (hid : d.id = m.tlvId) (hb : c.build = true)
    (h : (procTlv d).run c = (some a, c')) :
    m.buildData d c = ((Message.buildPad c').1, { m with dataSend := some a }, (Message.buildPad c').2) := by
  apply Message.buildData_some
  rw [← hid, run_callTlvData hb, ← bind_pure_comp, run_bind, h]
  rfl

/-- With room for it, the pad is written where it is needed. -/
theorem buildPad_ok (hb : c.build = true) (h : (c.size % 2 : Nat) ≤ c.left) :
    ∃ c', Message.buildPad c = (none, c') ∧ c'.mem = c.mem.store c.cur (List.replicate (c.size % 2) 0) ∧
      c'.size = c.size + c.size % 2 ∧ ∃ w, c'.writes = c.writes ++ w := by
  unfold Message.buildPad
  by_cases hodd : c.size % 2 = 1
  · rw [hodd] at h
    rw [if_pos hodd, hodd]
    unfold procReserved
    simp only [run, hb, if_true, if_neg (show ¬ c.left < ((1 : Nat) : Int) by omega)]
    exact ⟨_, rfl, rfl, rfl, [(c.cur, 1)], rfl⟩
  · rw [if_neg hodd, show c.size % 2 = 0 by omega]
    exact ⟨c, rfl, by simp, rfl, [], by simp⟩

theorem buildPad_fails (hb : c.build = true) (h : c.left < (c.size % 2 : Nat)) (h0 : 0 ≤ c.left) :
    (Message.buildPad c).1 ≠ none := by
  unfold Message.buildPad procReserved
  rw [if_pos (by omega)]
  simp only [run, hb, if_true, if_pos (show c.left < ((1 : Nat) : Int) by omega)]
  simp

/-- The dataField that fits is written. -/
theorem buildData_ok (m : Message) (hid : d.id = m.tlvId) (ht : (procTlv d).Tame)
    (hv : (procTlv d).write.val = some a)
    (hb : c.build = true) (hs : c.size = 0) (hr : (d.body.length : Int) ≤ c.left) :
    ∃ c', m.buildData d c = (none, { m with dataSend := some a }, c') ∧ c'.mem = c.mem.store c.cur d.body ∧
      c'.size = d.body.length := by
  have hlen : d.body.length = d.octets.length + d.octets.length % 2 := by simp [BaseMngTlv.body]
  obtain ⟨h1, h2, h3, h4, h5, -⟩ := run_build ht hb (show (d.octets.length : Int) ≤ c.left by omega)
  obtain ⟨w, -⟩ := run_writes ht hb
  change (run (procTlv d) c).2.size = c.size + d.octets.length at h5
  change (run (procTlv d) c).2.left = c.left - d.octets.length at h4
  rcases hp : (procTlv d).run c with ⟨o, c'⟩
  rw [hp] at h1 h2 h3 h4 h5 w
  obtain rfl : o = some a := h1.trans hv
  rw [hs, Nat.zero_add] at h5
  obtain ⟨c'', hpad, hmem, hsize, -⟩ := buildPad_ok (c := c') (w.trans hb) (by rw [h5, h4]; omega)
  refine ⟨c'', ?_, ?_, by rw [hsize, h5, hlen]⟩
  · rw [buildData_of_some hid hb hp, hpad]
  · rw [hmem, h2, h3, h5]
    exact Mem.store_append _ _ _ _

theorem buildPad_err (e : MngParseError) (h : (Message.buildPad c).1 = some e) : e = .TOO_SMALL := by
  unfold Message.buildPad at h
  split at h
  · rcases hr : procReserved.run c with ⟨_ | u, c'⟩ <;> rw [hr] at h <;> cases h
    rfl
  · cases h

/-- A build that fails gives an error. -/
theorem buildData_err (m : Message) (hid : d.id = m.tlvId) (ht : (procTlv d).Tame)
    (hw : (procTlv d).write.err ≠ some .OK) (hb : c.build = true) (hc : c.err ≠ .OK) (h0 : 0 ≤ c.left)
    {e : MngParseError} (he : (m.buildData d c).1 = some e) : e ≠ .OK := by
  have herr : (run (procTlv d) c).2.err ≠ .OK := by
    by_cases hroom : (d.octets.length : Int) ≤ c.left
    · rw [(run_build ht hb hroom).2.2.2.2.2]
      cases hn : (procTlv d).write.err with
      | none => exact hc
      | some e => exact fun h => hw (by rw [hn]; exact congrArg some h)
    · rw [(run_short ht hb h0 (lt_of_not_ge hroom)).2]
      exact hc
  rcases hp : (procTlv d).run c with ⟨_ | d', c'⟩
  · rw [buildData_of_none hid hb hp] at he
    rw [hp] at herr
    obtain rfl := Option.some.inj he
    exact herr
  · rw [buildData_of_some hid hb hp] at he
    rw [buildPad_err e he]
    decide

/-- Otherwise the build fails. -/
theorem buildData_fails (m : Message) (hid : d.id = m.tlvId) (ht : (procTlv d).Tame) (hb : c.build = true)
    (hs : c.size = 0) (h0 : 0 ≤ c.left) (h : (procTlv d).write.val = none ∨ c.left < d.body.length) :
    (m.buildData d c).1 ≠ none := by
  have hlen : d.body.length = d.octets.length + d.octets.length % 2 := by simp [BaseMngTlv.body]
  rcases hp : (procTlv d).run c with ⟨_ | d', c'⟩
  · rw [buildData_of_none hid hb hp]
    exact Option.some_ne_none _
  · rw [buildData_of_some hid hb hp]
    obtain ⟨w, -⟩ := run_writes ht hb
    have hroom : (d.octets.length : Int) ≤ c.left := by
      by_contra hn
      have := (run_short ht hb h0 (lt_of_not_ge hn)).1
      rw [hp] at this
      cases this
    obtain ⟨h1, -, -, h4, h5, -⟩ := run_build ht hb hroom
    change (run (procTlv d) c).2.size = c.size + d.octets.length at h5
    change (run (procTlv d) c).2.left = c.left - d.octets.length at h4
    rw [hp] at h1 h4 h5 w
    rw [hs, Nat.zero_add] at h5
    have hl : c.left < d.body.length := h.resolve_left (by rw [← h1]; simp)
    exact buildPad_fails (w.trans hb) (by rw [h4, h5]; omega) (by rw [h4]; omega)

end Data

/-! ## The message -/

/-- The memory of a built message: the dataField, and the lengths. -/
def Message.builtMem (m : Message) (buf : Mem) (sequence : UInt16) (body : List UInt8) : Mem :=
  (((((buf.store 0 (m.headerOctets sequence)).store mngHeaderSize (be16 TlvType.MANAGEMENT)).store
    (mngHeaderSize + tlvSize) (be16 (mngAllVals m.tlvId).value)).store mngMsgBaseSize body).store
    (mngHeaderSize + 2) (beOctets 2 (lengthFieldMngBase + body.length))).store 2
    (beOctets 2 (mngMsgBaseSize + body.length))

section Message
variable {m : Message} {d a : BaseMngTlv} (buf : Mem) {bufSize : Nat} (sequence : UInt16)

/-- A SET or a COMMAND that fits its buffer is built. -/
theorem build_ok (hg : m.sendAction ≠ .GET) (hd : m.dataSend = some d) (hid : d.id = m.tlvId) (ht : (procTlv d).Tame)
    (hv : (procTlv d).write.val = some a) (hr : mngMsgBaseSize + d.body.length ≤ bufSize) :
    ∃ b, m.build buf bufSize sequence = some b ∧ b.err = .OK ∧
      b.msg = { m with dataSend := some a, msgLen := mngMsgBaseSize + d.body.length } ∧
      b.mem = m.builtMem buf sequence d.body := by
  have he := body_even d
  obtain ⟨c', hb, hmem, hsize⟩ := buildData_ok (c := m.buildCursor buf bufSize sequence) m hid ht hv rfl rfl
    (by simp only [Message.buildCursor]; omega)
  rw [Message.build_dataSend buf sequence (by omega) hg hd fun h => h.2 hid, hb]
  dsimp only
  unfold Message.buildEnd
  dsimp only
  rw [if_neg (by rw [hsize]; simp only [mngMsgBaseSize, mngHeaderSize, tlvSize, lengthFieldMngBase]; omega),
    hsize, hmem]
  exact ⟨_, rfl, rfl, rfl, rfl⟩

/-- Where a build with a dataField succeeds, it is that one. -/
theorem build_data_ok (hg : m.sendAction ≠ .GET) (hd : m.dataSend = some d) (hid : d.id = m.tlvId)
    (ht : (procTlv d).Tame) (hw : (procTlv d).write.err ≠ some .OK) {b : Message.Built}
    (hb : m.build buf bufSize sequence = some b) (hok : b.err = .OK) :
    (∃ a, (procTlv d).write.val = some a) ∧ mngMsgBaseSize + d.body.length ≤ bufSize := by
  by_cases hs : bufSize < mngMsgBaseSize
  · rw [Message.build_small m buf sequence hs] at hb
    cases hb
    cases hok
  rw [Message.build_dataSend buf sequence hs hg hd fun h => h.2 hid] at hb
  have h0 : 0 ≤ (m.buildCursor buf bufSize sequence).left := by simp only [Message.buildCursor]; omega
  have hfail := buildData_fails (c := m.buildCursor buf bufSize sequence) m hid ht rfl rfl h0
  have herr := @buildData_err (m.buildCursor buf bufSize sequence) d m hid ht hw rfl (by simp [Message.buildCursor]) h0
  rcases hr : m.buildData d (m.buildCursor buf bufSize sequence) with ⟨_ | e, n, c⟩ <;> rw [hr] at hb hfail herr
  · by_contra hn
    refine hfail ?_ rfl
    by_cases hv : ∃ a, (procTlv d).write.val = some a
    · have hl : bufSize < mngMsgBaseSize + d.body.length := by
        by_contra hl
        exact hn ⟨hv, not_lt.1 hl⟩
      right
      simp only [Message.buildCursor]
      omega
    · left
      cases h : (procTlv d).write.val with
      | none => rfl
      | some a => exact absurd ⟨a, h⟩ hv
  · cases hb
    exact absurd hok (herr rfl)

end Message

/-! ## The length of the message -/

theorem plannedSize_pos {d : BaseMngTlv} (hs : Settable d.id) : 0 < plannedSize d := by
  cases d with
  | USER_DESCRIPTION d => exact Int.natCast_pos.2 (show 0 < 1 + d.userDescription.textField.length by omega)
  | GRANDMASTER_CLUSTER_TABLE d =>
    exact Int.natCast_pos.2 (show 0 < 2 + (d.PortAddress.map PortAddress_t.size).sum by omega)
  | UNICAST_MASTER_TABLE d => exact Int.natCast_pos.2 (show 0 < 3 + (d.PortAddress.map PortAddress_t.size).sum by omega)
  | ACCEPTABLE_MASTER_TABLE d => exact Int.natCast_pos.2 (show 0 < 2 + AcceptableMaster_t.size * d.list.length by omega)
  | ALTERNATE_TIME_OFFSET_NAME d => exact Int.natCast_pos.2 (show 0 < 1 + d.displayName.size by omega)
  | _ =>
    first
      | exact absurd hs (by simp only [BaseMngTlv.id]; decide)
      | simp [plannedSize, BaseMngTlv.id, mngAllVals]

/-- The number of octets of a message with the dataField. -/
def messageSize (d : BaseMngTlv) : Nat := mngMsgBaseSize + (padded (plannedSize d)).toNat

theorem messageSize_eq {d : BaseMngTlv} (hs : Settable d.id) (ht : TextsFit d) (h48 : Fits48 d) :
    messageSize d = mngMsgBaseSize + d.body.length := by
  obtain ⟨n, he, hn⟩ := emits_procTlv hs ht h48
  have hlen : d.body.length = n + n % 2 := by
    have ho : d.octets.length = n := he.length
    simp [BaseMngTlv.body, ho]
  unfold messageSize
  rw [← hn, hlen]
  simp only [padded]
  omega

/-- It is the planned one. -/
theorem getMsgPlanedLen_eq {m : Message} {d : BaseMngTlv} (hg : m.sendAction ≠ .GET) (hd : m.dataSend = some d)
    (hid : d.id = m.tlvId) (hs : Settable d.id) : m.getMsgPlanedLen = some ((messageSize d : Nat) : Int) := by
  have hpos := plannedSize_pos hs
  have hpad : (if plannedSize d < 0 then plannedSize d else plannedSize d + plannedSize d % 2 + mngMsgBaseSize : Int) =
      messageSize d := by
    rw [if_neg (by omega)]
    simp only [messageSize, padded]
    omega
  unfold Message.getMsgPlanedLen
  rw [if_neg fun h => hg h.1, ← hid, if_neg hg, hd]
  dsimp only
  rw [if_neg fun h : Message.Miscast d.id d => h.2 rfl, ← hpad]
  unfold plannedSize
  split <;> rfl

end LibPmc
