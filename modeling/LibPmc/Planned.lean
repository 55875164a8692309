import LibPmc.Lengths
import LibPmc.Session
/-!
# The planned length

`getMsgPlanedLen` goes by the table of ids and the size functions, `build` by what the
process functions write. `build_planned`: a buffer of the planned length is just enough.
-/
namespace LibPmc

open Wire Wire.Prog

namespace Message

def updateParams (m : Message) (prms : MsgParams) : Bool × Message :=
  if prms.transportSpecific > 0xf then (false, m) else (true, { m with prms })

/-- The objects after a setAction that succeeds, without a parse since. -/
inductive Ready : Message → Prop
  | setAction (m : Message) (action : ActionField) (id : MngVals) (h : (m.setAction action id).1 = true) :
      Ready (m.setAction action id).2
  | setActionData (m : Message) (action : ActionField) (id : MngVals) (d : BaseMngTlv)
      (h : (m.setActionData action id d).1 = true) : Ready (m.setActionData action id d).2
  | updateParams {m : Message} (hm : m.Ready) (prms : MsgParams) : Ready (m.updateParams prms).2
  | build {m : Message} (hm : m.Ready) (buf : Mem) (bufSize : Nat) (sequence : UInt16) {b : Built}
      (h : m.build buf bufSize sequence = some b) : Ready b.msg

/-- The id allows the action, and there is a structure to send exactly where the id has data
to be sent. -/
structure Matched (m : Message) : Prop where
  action : m.sendAction = .GET ∨ m.sendAction = .SET ∨ m.sendAction = .COMMAND
  allowed : (mngAllVals m.tlvId).allowed &&& m.sendAction.bit ≠ 0
  data : m.dataSend = none ↔ m.sendAction = .GET ∨ (mngAllVals m.tlvId).size = 0

theorem Matched.sendAction_ne {m : Message} (hm : m.Matched) {d : BaseMngTlv} (hs : m.dataSend = some d) :
    m.sendAction ≠ .GET := by
  intro hg
  have := hm.data.2 (.inl hg)
  rw [hs] at this
  cases this

theorem Ready.matched {m : Message} (h : m.Ready) : m.Matched := by
  induction h with
  | setAction m action id h =>
    obtain ⟨hallow, hdata, hset⟩ := setAction_ok h
    obtain ⟨hact, hall⟩ := allowedAction_spec hallow
    rw [hset]
    exact ⟨hact, hall, fun _ => hdata, fun _ => rfl⟩
  | setActionData m action id d h =>
    obtain ⟨hallow, hset⟩ := setActionData_ok h
    obtain ⟨hact, hall⟩ := allowedAction_spec hallow
    rw [hset]
    refine ⟨hact, hall, ?_⟩
    have hnull : (mngAllVals .NULL_PTP_MANAGEMENT).size = 0 := rfl
    dsimp only
    split
    next h => simp [h.2.1, h.2.2]
    next h =>
      -- the structure is left out where there is nothing to be sent of it
      refine ⟨fun _ => ?_, fun _ => rfl⟩
      by_contra hn
      refine h ⟨fun hid => hn (.inr ?_), fun hg => hn (.inl hg), fun hs => hn (.inr hs)⟩
      rw [hid]
      exact hnull
  | updateParams hm prms ih =>
    unfold Message.updateParams
    split
    · exact ih
    · exact ⟨ih.action, ih.allowed, ih.data⟩
  | build hm buf bufSize sequence h ih =>
    have hk := build_keeps _ buf bufSize sequence h
    obtain ⟨hact, hall, hdata⟩ := ih
    rw [← hk.sendAction] at hact hall hdata
    rw [← hk.tlvId] at hall hdata
    refine ⟨hact, hall, Iff.trans ?_ hdata⟩
    rw [← Option.map_eq_none_iff (f := BaseMngTlv.id), hk.kind, Option.map_eq_none_iff]

end Message

/-! ## A request without data -/

/-- The size of the dataField of a GET: the table's, or the one of an empty structure. -/
def zeroSize (id : MngVals) : Int := if (mngAllVals id).size = -2 then dataFieldSize id none else (mngAllVals id).size

/-- Each id that can be got has a size. -/
theorem zeroSize_nonneg {id : MngVals} (h : (mngAllVals id).allowed &&& ActionField.GET.bit ≠ 0) :
    0 ≤ zeroSize id := by
  revert h
  cases id <;> decide

/-- The number of octets of the dataField that a build makes. -/
def Message.dataLength (m : Message) : Nat :=
  match m.dataSend with
  | some d => d.body.length
  | none => if m.sendAction = .GET ∧ m.prms.useZeroGet = false then (padded (zeroSize m.tlvId)).toNat else 0

section Build
variable {m : Message} {d a : BaseMngTlv} (buf : Mem) (bufSize : Nat) (sequence : UInt16)

theorem build_tiny (h : bufSize < 54) : ∃ b, m.build buf bufSize sequence = some b ∧ b.err = .TOO_SMALL := by
  exact ⟨_, Message.build_small m buf sequence h, rfl⟩

theorem buildEnd_ok (c : Cursor MngParseError) (h : c.size % 2 = 0) :
    (m.buildEnd c).err = .OK ∧ (m.buildEnd c).msg.msgLen = 54 + c.size := by
  unfold Message.buildEnd
  dsimp only
  rw [if_neg (by simp only [mngMsgBaseSize, mngHeaderSize, tlvSize, lengthFieldMngBase]; omega)]
  exact ⟨rfl, rfl⟩

/-- The zeros of a GET take their planned number of octets. -/
theorem buildZero_spec (m : Message) (c : Cursor MngParseError) (hs : c.size = 0) (h0 : 0 ≤ c.left)
    (hz : 0 ≤ zeroSize m.tlvId) (hd : m.dataSend = none) (hg : m.sendAction = .GET) :
    ((m.dataLength : Int) ≤ c.left → (m.buildZero c).1 = none ∧ (m.buildZero c).2.size = m.dataLength) ∧
      (c.left < m.dataLength → (m.buildZero c).1 = some .TOO_SMALL) := by
  unfold Message.dataLength Message.buildZero
  rw [hd]
  dsimp only
  -- either nothing is filled in, or zeros up to the planned length
  by_cases h1 : m.prms.useZeroGet = true ∨ (mngAllVals m.tlvId).size = 0
  · have hk : (if m.sendAction = .GET ∧ m.prms.useZeroGet = false then (padded (zeroSize m.tlvId)).toNat else 0) =
      0 := by
      rcases h1 with h1 | h1
      · rw [if_neg (by simp [h1])]
      · have : padded (zeroSize m.tlvId) = 0 := by
          unfold zeroSize
          rw [h1]
          rfl
        rw [this]
        exact ite_self _
    rw [if_pos h1, hk]
    exact ⟨fun _ => ⟨rfl, hs⟩, fun h => absurd h (by omega)⟩
  · have hk : (if (mngAllVals m.tlvId).size = -2 then dataFieldSize m.tlvId none else (mngAllVals m.tlvId).size) =
        zeroSize m.tlvId := rfl
    rw [if_neg h1, if_pos ⟨hg, by simpa using fun h => h1 (.inl h)⟩, hk, if_neg (not_lt.2 hz)]
    generalize zeroSize m.tlvId = k at hz ⊢
    have hp : ((padded k).toNat : Int) = k + k % 2 := Int.toNat_of_nonneg (by unfold padded; omega)
    rw [hp]
    by_cases h3 : c.left < k + k % 2
    · rw [if_pos h3]
      exact ⟨fun h => absurd h (not_le.2 h3), fun _ => rfl⟩
    · rw [if_neg h3]
      exact ⟨fun _ => ⟨rfl, rfl⟩, fun h => absurd h h3⟩

theorem dataLength_even (m : Message) : m.dataLength % 2 = 0 := by
  unfold Message.dataLength
  split
  · exact body_even _
  · split
    · unfold padded
      omega
    · rfl

/-- A request without data is built in the planned number of octets. -/
theorem build_no_data (hm : m.Matched) (hd : m.dataSend = none) (hn : 54 ≤ bufSize) :
    ∃ b, m.build buf bufSize sequence = some b ∧
      (54 + m.dataLength ≤ bufSize → b.err = .OK ∧ b.msg.msgLen = 54 + m.dataLength) ∧
      (bufSize < 54 + m.dataLength → b.err = .TOO_SMALL) := by
  have hn' : ¬ bufSize < mngMsgBaseSize := not_lt.2 hn
  have he := dataLength_even m
  have hl : (m.buildCursor buf bufSize sequence).left = bufSize - 54 := rfl
  unfold Message.build
  rw [if_neg hn']
  dsimp only
  by_cases hg : m.sendAction = .GET
  · have hall := hm.allowed
    rw [hg] at hall
    obtain ⟨hok, hshort⟩ := buildZero_spec m (m.buildCursor buf bufSize sequence) rfl (by omega)
      (zeroSize_nonneg hall) hd hg
    rw [if_pos hg]
    -- the zeros fit where the whole message does
    by_cases hroom : 54 + m.dataLength ≤ bufSize
    · obtain ⟨h1, h2⟩ := hok (by omega)
      rcases hz : m.buildZero (m.buildCursor buf bufSize sequence) with ⟨_ | e, c⟩ <;> rw [hz] at h1 h2 <;> cases h1
      obtain ⟨hend, hlen⟩ := buildEnd_ok (m := m) c (by change c.size = _ at h2; omega)
      exact ⟨_, rfl, fun _ => ⟨hend, by rw [hlen]; exact congrArg (54 + ·) h2⟩, fun h => absurd h (not_lt.2 hroom)⟩
    · have h1 := hshort (by omega)
      rcases hz : m.buildZero (m.buildCursor buf bufSize sequence) with ⟨_ | e, c⟩ <;> rw [hz] at h1 <;> cases h1
      exact ⟨_, rfl, fun h => absurd h hroom, fun _ => rfl⟩
  · have h0 : m.dataLength = 0 := by
      unfold Message.dataLength
      rw [hd]
      exact if_neg fun h => hg h.1
    obtain ⟨hend, hlen⟩ := buildEnd_ok (m := m) (m.buildCursor buf bufSize sequence) rfl
    rw [if_neg hg, hd, h0]
    exact ⟨_, rfl, fun _ => ⟨hend, hlen⟩, fun h => absurd h (by omega)⟩

/-! ## A request with data -/

/-- A dataField that does not fit is refused as too small. -/
theorem buildData_short {c : Cursor MngParseError} (hid : d.id = m.tlvId) (ht : (procTlv d).Tame)
    (hv : (procTlv d).write.val = some a) (hb : c.build = true) (hs : c.size = 0) (hc : c.err = .TOO_SMALL)
    (h0 : 0 ≤ c.left)
    (h : c.left < d.body.length) : (m.buildData d c).1 = some .TOO_SMALL := by
  have hne := buildData_fails m hid ht hb hs h0 (.inr h)
  rcases hp : (procTlv d).run c with ⟨_ | d', c'⟩
  · -- the process function itself has no room
    rw [buildData_of_none hid hb hp]
    have hshort : c.left < d.octets.length := by
      by_contra hroom
      have := (run_build ht hb (not_lt.1 hroom)).1
      rw [hp, hv] at this
      cases this
    have herr := (run_short ht hb h0 hshort).2
    rw [hp, hc] at herr
    exact congrArg some herr
  · rw [buildData_of_some hid hb hp] at hne ⊢
    obtain ⟨e, he⟩ := Option.ne_none_iff_exists'.1 hne
    exact he.trans (congrArg some (buildPad_err e he))

/-- A structure is sent in the planned number of octets. -/
theorem build_data_planned (hd : m.dataSend = some d) (hg : m.sendAction ≠ .GET) (hid : d.id = m.tlvId)
    (hs : Settable d.id) (ht : TextsFit d) (h48 : Fits48 d) (hn : 54 ≤ bufSize) :
    ∃ b, m.build buf bufSize sequence = some b ∧
      (54 + m.dataLength ≤ bufSize → b.err = .OK ∧ b.msg.msgLen = 54 + m.dataLength) ∧
      (bufSize < 54 + m.dataLength → b.err = .TOO_SMALL) := by
  obtain ⟨n, he, -⟩ := emits_procTlv hs ht h48
  have hv := write_procTlv hs h48
  have hlen : m.dataLength = d.body.length := by
    unfold Message.dataLength
    rw [hd]
  rw [hlen]
  by_cases hroom : 54 + d.body.length ≤ bufSize
  · obtain ⟨b, hb, hok, hmsg, -⟩ := build_ok buf sequence hg hd hid he.tame hv hroom
    exact ⟨b, hb, fun _ => ⟨hok, by rw [hmsg]; rfl⟩, fun h => absurd h (not_lt.2 hroom)⟩
  · have hn' : ¬ bufSize < mngMsgBaseSize := not_lt.2 hn
    have hl : (m.buildCursor buf bufSize sequence).left = bufSize - 54 := rfl
    have hshort := buildData_short (m := m) (c := m.buildCursor buf bufSize sequence) hid he.tame hv rfl rfl rfl
      (by omega) (by omega)
    rw [Message.build_dataSend buf sequence hn' hg hd fun h => h.2 hid]
    rcases hr : m.buildData d (m.buildCursor buf bufSize sequence) with ⟨_ | e, m', c'⟩ <;> rw [hr] at hshort
      <;> cases hshort
    exact ⟨_, rfl, fun h => absurd h hroom, fun _ => rfl⟩

end Build

/-! ## The plan -/

theorem Message.Matched.settable {m : Message} (hm : m.Matched) (hg : m.sendAction ≠ .GET) : Settable m.tlvId := by
  have ha : Allowed m.sendAction m.tlvId := ⟨hm.action.resolve_left hg, hm.allowed⟩
  exact ha.settable

/-- The plan of a GET that sends zeros. -/
theorem planned_get {m : Message} (hg : m.sendAction = .GET) (hu : m.prms.useZeroGet = false)
    (hz : 0 ≤ zeroSize m.tlvId) :
    m.getMsgPlanedLen = some (padded (zeroSize m.tlvId) + 54) := by
  have hpad (k : Int) (hk : 0 ≤ k) : (if k < 0 then k else k + k % 2 + (mngMsgBaseSize : Int)) = padded k + 54 :=
    if_neg (not_lt.2 hk)
  unfold Message.getMsgPlanedLen
  rw [if_neg (by simp [hu]), if_pos hg]
  unfold zeroSize at hz ⊢
  by_cases h2 : (mngAllVals m.tlvId).size = -2
  · rw [if_pos h2] at hz ⊢
    rw [if_neg (not_not.2 h2)]
    exact (if_pos hg).trans (congrArg some (hpad _ hz))
  · rw [if_neg h2] at hz ⊢
    rw [if_pos h2]
    exact congrArg some (hpad _ hz)

theorem planned_eq {m : Message} (hm : m.Matched) (hd : ∀ d ∈ m.dataSend, d.id = m.tlvId ∧ TextsFit d ∧ Fits48 d) :
    m.getMsgPlanedLen = some ((54 + m.dataLength : Nat) : Int) := by
  cases hs : m.dataSend with
  | some d =>
    have hg := hm.sendAction_ne hs
    obtain ⟨hid, ht, h48⟩ := hd d hs
    have hset : Settable d.id := hid ▸ hm.settable hg
    rw [getMsgPlanedLen_eq hg hs hid hset, messageSize_eq hset ht h48]
    unfold Message.dataLength
    rw [hs]
    rfl
  | none =>
    unfold Message.dataLength
    rw [hs]
    by_cases hg : m.sendAction = .GET
    · have hall := hm.allowed
      rw [hg] at hall
      have hz := zeroSize_nonneg hall
      cases hu : m.prms.useZeroGet with
      | true =>
        unfold Message.getMsgPlanedLen
        rw [if_pos ⟨hg, hu⟩]
        simp only [Bool.true_eq_false, and_false, if_false]
        rfl
      | false =>
        have hp : ((padded (zeroSize m.tlvId)).toNat : Int) = padded (zeroSize m.tlvId) :=
          Int.toNat_of_nonneg (by unfold padded; omega)
        rw [planned_get hg hu hz]
        simp only [hg, and_self, if_true, Nat.cast_add, hp]
        exact congrArg some (Int.add_comm _ _)
    · have h0 : (mngAllVals m.tlvId).size = 0 := (hm.data.1 hs).resolve_left hg
      unfold Message.getMsgPlanedLen
      simp only [hg, h0, false_and, if_false]
      rfl

/-- The planned length is even and covers the header, and a buffer of it is just enough. -/
theorem build_planned {m : Message} (h : m.Ready) (hd : ∀ d ∈ m.dataSend, d.id = m.tlvId ∧ TextsFit d ∧ Fits48 d) :
    ∃ n : Nat, m.getMsgPlanedLen = some (n : Int) ∧ n % 2 = 0 ∧ 54 ≤ n ∧
      ∀ (buf : Mem) (bufSize : Nat) (sequence : UInt16), ∃ b, m.build buf bufSize sequence = some b ∧
        (n ≤ bufSize → b.err = .OK ∧ b.msg.msgLen = n) ∧ (bufSize < n → b.err = .TOO_SMALL) := by
  have hm := h.matched
  have he := dataLength_even m
  refine ⟨54 + m.dataLength, planned_eq hm hd, by omega, by omega, fun buf bufSize sequence => ?_⟩
  by_cases hn : bufSize < 54
  · obtain ⟨b, hb, herr⟩ := build_tiny (m := m) buf bufSize sequence hn
    exact ⟨b, hb, fun hr => absurd hr (by omega), fun _ => herr⟩
  · cases hs : m.dataSend with
    | none => exact build_no_data buf bufSize sequence hm hs (not_lt.1 hn)
    | some d =>
      have hg := hm.sendAction_ne hs
      obtain ⟨hid, ht, h48⟩ := hd d hs
      exact build_data_planned buf bufSize sequence hs hg hid (hid ▸ hm.settable hg) ht h48 (not_lt.1 hn)

/-- A description of 3 octets is sent in 58 octets. -/
theorem build_planned_describe : ∃ m : Message, m.Ready ∧ m.getMsgPlanedLen = some 58 ∧
    ∀ buf : Mem, ∃ b, m.build buf 57 1 = some b ∧ b.err = .TOO_SMALL := by
  let m := ((Message.new default).setActionData .SET .USER_DESCRIPTION (.USER_DESCRIPTION ⟨⟨0, [97, 98, 99]⟩⟩)).2
  have hr : m.Ready := .setActionData _ _ _ _ (by decide)
  have hd : ∀ d ∈ m.dataSend, d.id = m.tlvId ∧ TextsFit d ∧ Fits48 d := by
    rintro d hd
    obtain rfl : BaseMngTlv.USER_DESCRIPTION ⟨⟨0, [97, 98, 99]⟩⟩ = d := Option.some.inj hd
    exact ⟨rfl, by change [97, 98, 99].length < 65536; decide, trivial⟩
  obtain ⟨n, hn, -, -, hall⟩ := build_planned hr hd
  obtain rfl : n = 58 := by
    have h58 : m.getMsgPlanedLen = some 58 := rfl
    rw [h58] at hn
    exact (Int.ofNat_inj.1 (Option.some.inj hn)).symm
  refine ⟨m, hr, hn, fun buf => ?_⟩
  obtain ⟨b, hb, -, hshort⟩ := hall buf 57 1
  exact ⟨b, hb, hshort (by decide)⟩

end LibPmc
