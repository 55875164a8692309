import LibPmc.Build
import LibPmc.History
/-!
# Sending and receiving on one object

A program sets actions, builds and parses in any order. A run gives what its builds gave;
`sends_undisturbed` compares it with the run without the parse calls.
-/
namespace LibPmc

open Wire Wire.Prog

inductive Call where
  | setAction (action : ActionField) (id : MngVals)
  | setActionData (action : ActionField) (id : MngVals) (d : BaseMngTlv)
  | parse (buf : Mem) (msgSize : Int)
  | build (buf : Mem) (bufSize : Nat) (sequence : UInt16)

def Call.isParse : Call → Bool
  | .parse _ _ => true
  | _ => false

/-- What a build gives to its caller. -/
structure Sent where
  err : MngParseError
  mem : Mem
  writes : List (Nat × Nat)

namespace Message

def call (m : Message) : Call → Option (Message × List Sent)
  | .setAction action id => some ((m.setAction action id).2, [])
  | .setActionData action id d => some ((m.setActionData action id d).2, [])
  | .parse buf msgSize => some ((m.parse buf msgSize).msg, [])
  | .build buf bufSize sequence => (m.build buf bufSize sequence).map fun b => (b.msg, [⟨b.err, b.mem, b.writes⟩])

/-- A run, with what its builds gave. There is none where a build casts the structure to one
it is not. -/
def calls (m : Message) : List Call → Option (Message × List Sent)
  | [] => some (m, [])
  | c :: cs => do
    let (m, sent) ← m.call c
    let (m, sent') ← m.calls cs
    return (m, sent ++ sent')

/-- The action and the id of the last setAction that succeeded. -/
def given (m : Message) (last : ActionField × MngVals) : Call → ActionField × MngVals
  | .setAction action id => if (m.setAction action id).1 then (action, id) else last
  | .setActionData action id d => if (m.setActionData action id d).1 then (action, id) else last
  | _ => last

/-- A received message names no other id than the one that is set. -/
def Leaves (m : Message) : Call → Prop
  | .parse buf msgSize => replyId m.prms buf msgSize = none ∨ replyId m.prms buf msgSize = some m.tlvId
  | _ => True

/-- All received messages of a run do so. -/
def Undisturbed (m : Message) : List Call → Prop
  | [] => True
  | c :: cs => m.Leaves c ∧ ∀ r, m.call c = some r → r.1.Undisturbed cs

end Message

/-! ## One call -/

/-- Two objects send the same. -/
structure SamePlan (m m' : Message) : Prop extends SameSend m m' where
  tlvId : m'.tlvId = m.tlvId

theorem SamePlan.refl (m : Message) : SamePlan m m := ⟨⟨rfl, rfl, rfl, rfl⟩, rfl⟩

section Step
variable {m m' : Message}

theorem SamePlan.setAction (h : SamePlan m m') (action : ActionField) (id : MngVals) :
    (m'.setAction action id).1 = (m.setAction action id).1 ∧
      SamePlan (m.setAction action id).2 (m'.setAction action id).2 := by
  have ha : m'.allowedAction id action = m.allowedAction id action := by
    unfold Message.allowedAction
    rw [h.prms]
  unfold Message.setAction
  rw [ha]
  by_cases h1 : m.allowedAction id action = true
  · by_cases h2 : action ≠ .GET ∧ (mngAllVals id).size ≠ 0
    · rw [if_neg (not_not.2 h1), if_neg (not_not.2 h1), if_pos h2, if_pos h2]
      exact ⟨rfl, h⟩
    · rw [if_neg (not_not.2 h1), if_neg (not_not.2 h1), if_neg h2, if_neg h2]
      exact ⟨rfl, ⟨rfl, rfl, h.msgLen, h.prms⟩, rfl⟩
  · rw [if_pos h1, if_pos h1]
    exact ⟨rfl, h⟩

theorem SamePlan.setActionData (h : SamePlan m m') (action : ActionField) (id : MngVals) (d : BaseMngTlv) :
    (m'.setActionData action id d).1 = (m.setActionData action id d).1 ∧
      SamePlan (m.setActionData action id d).2 (m'.setActionData action id d).2 := by
  have ha : m'.allowedAction id action = m.allowedAction id action := by
    unfold Message.allowedAction
    rw [h.prms]
  unfold Message.setActionData
  rw [ha]
  by_cases h1 : m.allowedAction id action = true
  · rw [if_neg (not_not.2 h1), if_neg (not_not.2 h1)]
    exact ⟨rfl, ⟨rfl, rfl, h.msgLen, h.prms⟩, rfl⟩
  · rw [if_pos h1, if_pos h1]
    exact ⟨rfl, h⟩

/-- A build goes by what is to be sent alone. -/
structure SameBuilt (b b' : Message.Built) : Prop where
  err : b'.err = b.err
  mem : b'.mem = b.mem
  writes : b'.writes = b.writes
  plan : SamePlan b.msg b'.msg

theorem SamePlan.buildEnd (h : SamePlan m m') (c : Cursor MngParseError) :
    SameBuilt (m.buildEnd c) (m'.buildEnd c) := by
  unfold Message.buildEnd
  dsimp only
  split
  · exact ⟨rfl, rfl, rfl, h⟩
  · exact ⟨rfl, rfl, rfl, ⟨h.sendAction, h.dataSend, rfl, h.prms⟩, h.tlvId⟩

theorem SamePlan.buildCursor (h : SamePlan m m') (buf : Mem) (bufSize : Nat) (sequence : UInt16) :
    m'.buildCursor buf bufSize sequence = m.buildCursor buf bufSize sequence := by
  unfold Message.buildCursor Message.headerOctets
  rw [h.prms, h.sendAction, h.tlvId]

theorem SamePlan.buildZero (h : SamePlan m m') (c : Cursor MngParseError) : m'.buildZero c = m.buildZero c := by
  unfold Message.buildZero
  rw [h.prms, h.tlvId]

theorem SamePlan.buildData (h : SamePlan m m') (d : BaseMngTlv) (c : Cursor MngParseError) :
    (m'.buildData d c).1 = (m.buildData d c).1 ∧ (m'.buildData d c).2.2 = (m.buildData d c).2.2 ∧
      SamePlan (m.buildData d c).2.1 (m'.buildData d c).2.1 := by
  unfold Message.buildData
  rw [h.tlvId]
  rcases (callTlvData m.tlvId (.to d)).run c with ⟨_ | p, c'⟩
  · exact ⟨rfl, rfl, h⟩
  · rcases p with _ | _ | d'
    · exact ⟨rfl, rfl, h⟩
    · exact ⟨rfl, rfl, h⟩
    · exact ⟨rfl, rfl, ⟨h.sendAction, rfl, h.msgLen, h.prms⟩, rfl⟩

theorem SamePlan.build (h : SamePlan m m') (buf : Mem) (bufSize : Nat) (sequence : UInt16) :
    Option.Rel SameBuilt (m.build buf bufSize sequence) (m'.build buf bufSize sequence) := by
  unfold Message.build
  rw [h.buildCursor, h.sendAction, h.dataSend, h.tlvId]
  by_cases hs : bufSize < mngMsgBaseSize
  · rw [if_pos hs, if_pos hs]
    exact .some ⟨rfl, rfl, rfl, h⟩
  rw [if_neg hs, if_neg hs]
  dsimp only
  rw [h.buildZero]
  by_cases hg : m.sendAction = .GET
  · rw [if_pos hg, if_pos hg]
    rcases m.buildZero (m.buildCursor buf bufSize sequence) with ⟨_ | e, c⟩
    · exact .some (h.buildEnd c)
    · exact .some ⟨rfl, rfl, rfl, h⟩
  · rw [if_neg hg, if_neg hg]
    cases m.dataSend with
    | none => exact .some (h.buildEnd _)
    | some d =>
      dsimp only
      by_cases hm : Message.Miscast m.tlvId d
      · rw [if_pos hm, if_pos hm]
        exact .none
      · obtain ⟨h1, h2, h3⟩ := h.buildData d (m.buildCursor buf bufSize sequence)
        rw [if_neg hm, if_neg hm]
        rcases hb : m.buildData d (m.buildCursor buf bufSize sequence) with ⟨e, n, c⟩
        rcases hb' : m'.buildData d (m.buildCursor buf bufSize sequence) with ⟨e', n', c'⟩
        rw [hb, hb'] at h1 h2 h3
        obtain rfl : e' = e := h1
        obtain rfl : c' = c := h2
        cases e' with
        | none => exact .some (SamePlan.buildEnd h3 c')
        | some e => exact .some ⟨rfl, rfl, rfl, h3⟩

/-- What a call gives, on two objects that send the same. -/
structure SameCall (r r' : Message × List Sent) : Prop where
  sent : r'.2 = r.2
  plan : SamePlan r.1 r'.1

theorem SamePlan.call (h : SamePlan m m') (c : Call) (hc : c.isParse = false) :
    Option.Rel SameCall (m.call c) (m'.call c) := by
  cases c with
  | setAction action id => exact .some ⟨rfl, (h.setAction action id).2⟩
  | setActionData action id d => exact .some ⟨rfl, (h.setActionData action id d).2⟩
  | parse buf msgSize => cases hc
  | build buf bufSize sequence =>
    have hb := h.build buf bufSize sequence
    simp only [Message.call]
    generalize m.build buf bufSize sequence = b at hb ⊢
    generalize m'.build buf bufSize sequence = b' at hb ⊢
    cases hb with
    | some hb => exact .some ⟨by simp only [hb.err, hb.mem, hb.writes], hb.plan⟩
    | none => exact .none

/-- A message that names no other id leaves the plan. -/
theorem SamePlan.parse (h : SamePlan m m') (buf : Mem) (msgSize : Int) (hl : m'.Leaves (.parse buf msgSize)) :
    SamePlan m (m'.parse buf msgSize).msg := by
  obtain ⟨hs, hid⟩ := parse_send m' buf msgSize
  refine ⟨h.toSameSend.trans hs, ?_⟩
  rw [hid, ← h.tlvId]
  rcases hl with hn | hn <;> rw [hn] <;> rfl

/-- A build keeps the type of the structure to send. -/
theorem run_procTlv_id {d d' : BaseMngTlv} {c c' : Cursor MngParseError} (h : (procTlv d).run c = (some d', c')) :
    d'.id = d.id := by
  have map {α : Type} {f : α → BaseMngTlv} {p : P α} (h : (f <$> p).run c = (some d', c'))
      (hf : ∀ a, (f a).id = d.id) : d'.id = d.id := by
    rw [← bind_pure_comp, run_bind] at h
    rcases hp : p.run c with ⟨_ | a, c''⟩ <;> rw [hp] at h <;> cases h
    exact hf a
  cases d <;> exact map h fun _ => rfl

/-- What a call leaves of the action, the id and the kind of the structure. -/
structure Keeps (m m' : Message) : Prop where
  sendAction : m'.sendAction = m.sendAction
  tlvId : m'.tlvId = m.tlvId
  prms : m'.prms = m.prms
  kind : m'.dataSend.map BaseMngTlv.id = m.dataSend.map BaseMngTlv.id

theorem buildEnd_keeps (m : Message) (c : Cursor MngParseError) : Keeps m (m.buildEnd c).msg := by
  unfold Message.buildEnd
  dsimp only
  split <;> exact ⟨rfl, rfl, rfl, rfl⟩

theorem buildData_keeps (m : Message) (d : BaseMngTlv) (c : Cursor MngParseError) (hd : m.dataSend = some d)
    (hb : c.build = true) : Keeps m (m.buildData d c).2.1 := by
  unfold Message.buildData
  rcases hr : (callTlvData m.tlvId (.to d)).run c with ⟨_ | p, c'⟩
  · exact ⟨rfl, rfl, rfl, rfl⟩
  · rcases p with _ | _ | d'
    · exact ⟨rfl, rfl, rfl, rfl⟩
    · exact ⟨rfl, rfl, rfl, rfl⟩
    · refine ⟨rfl, rfl, rfl, ?_⟩
      rw [hd]
      change some d'.id = some d.id
      unfold callTlvData at hr
      cases hn : newTlv m.tlvId with
      | none =>
        rw [hn] at hr
        cases hr
        rfl
      | some t =>
        rw [hn] at hr
        simp only [run, hb, if_true] at hr
        rw [← bind_pure_comp, run_bind] at hr
        rcases hp : (procTlv d).run c with ⟨_ | d'', c''⟩ <;> rw [hp] at hr <;> cases hr
        rw [run_procTlv_id hp]

theorem buildResult_keeps (m : Message) (c : Cursor MngParseError) (e : Option MngParseError) :
    Keeps m (m.buildResult c e).msg := by
  cases e with
  | none => exact buildEnd_keeps m c
  | some e => exact ⟨rfl, rfl, rfl, rfl⟩

theorem Keeps.trans {a b c : Message} (h : Keeps a b) (h' : Keeps b c) : Keeps a c :=
  ⟨h'.sendAction.trans h.sendAction, h'.tlvId.trans h.tlvId, h'.prms.trans h.prms, h'.kind.trans h.kind⟩

theorem build_keeps (m : Message) (buf : Mem) (bufSize : Nat) (sequence : UInt16) {b : Message.Built}
    (h : m.build buf bufSize sequence = some b) : Keeps m b.msg := by
  cases Message.build_cases h with
  | small => exact ⟨rfl, rfl, rfl, rfl⟩
  | zero _ _ _ => exact buildResult_keeps m _ _
  | empty => exact buildEnd_keeps m _
  | @data d e m' c _ _ hd hr =>
    have hk := buildData_keeps m d (m.buildCursor buf bufSize sequence) hd rfl
    rw [hr] at hk
    exact hk.trans (buildResult_keeps m' c e)

end Step

/-! ## Runs -/

/-- The structure to send is of the id that is set. -/
def Message.Paired (m : Message) : Prop := ∀ d ∈ m.dataSend, d.id = m.tlvId

/-- The caller hands over a structure of the id it gives. -/
def Call.Typed : Call → Prop
  | .setActionData _ id d => d.id = id
  | _ => True

section Runs
variable {m m' : Message}

theorem given_congr (h : m'.prms = m.prms) (last : ActionField × MngVals) (c : Call) :
    m'.given last c = m.given last c := by
  have ha (id : MngVals) (action : ActionField) : m'.allowedAction id action = m.allowedAction id action := by
    unfold Message.allowedAction
    rw [h]
  cases c with
  | setAction action id =>
    have hs : (m'.setAction action id).1 = (m.setAction action id).1 := by
      unfold Message.setAction
      rw [ha]
      split
      · rfl
      · split <;> rfl
    simp only [Message.given, hs]
  | setActionData action id d =>
    have hs : (m'.setActionData action id d).1 = (m.setActionData action id d).1 := by
      unfold Message.setActionData
      rw [ha]
      split <;> rfl
    simp only [Message.given, hs]
  | parse => rfl
  | build => rfl

/-- A setAction that fails changes nothing, one that succeeds sets what it was given. -/
theorem setAction_given (m : Message) (action : ActionField) (id : MngVals) :
    let r := m.setAction action id
    r.2.prms = m.prms ∧ (r.2.sendAction, r.2.tlvId) = (if r.1 then (action, id) else (m.sendAction, m.tlvId)) ∧
      (m.Paired → r.2.Paired) := by
  unfold Message.setAction
  dsimp only
  split
  · exact ⟨rfl, rfl, fun h => h⟩
  · split
    · exact ⟨rfl, rfl, fun h => h⟩
    · exact ⟨rfl, rfl, fun _ d hd => by cases hd⟩

theorem setActionData_given (m : Message) (action : ActionField) (id : MngVals) (d : BaseMngTlv) :
    let r := m.setActionData action id d
    r.2.prms = m.prms ∧ (r.2.sendAction, r.2.tlvId) = (if r.1 then (action, id) else (m.sendAction, m.tlvId)) ∧
      (m.Paired → d.id = id → r.2.Paired) := by
  unfold Message.setActionData
  dsimp only
  split
  · exact ⟨rfl, rfl, fun h _ => h⟩
  · refine ⟨rfl, rfl, fun _ hid d' hd => ?_⟩
    dsimp only at hd ⊢
    split at hd
    · obtain rfl := Option.some.inj hd
      exact hid
    · cases hd

theorem Keeps.paired (h : Keeps m m') (hp : m.Paired) : m'.Paired := by
  intro d hd
  have hk : m.dataSend.map BaseMngTlv.id = some d.id := by rw [← h.kind, hd]; rfl
  obtain ⟨d', hd', hid⟩ := Option.map_eq_some_iff.1 hk
  rw [← hid, h.tlvId]
  exact hp d' hd'

theorem parse_keeps (m : Message) (buf : Mem) (msgSize : Int) (hl : m.Leaves (.parse buf msgSize)) :
    Keeps m (m.parse buf msgSize).msg := by
  have h := (SamePlan.refl m).parse buf msgSize hl
  exact ⟨h.sendAction, h.tlvId, h.prms, by rw [h.dataSend]⟩

/-- What one call does to the action, the id and the structure. -/
theorem call_given {c : Call} {r : Message × List Sent} (h : m.call c = some r) (hl : m.Leaves c) :
    r.1.prms = m.prms ∧ (r.1.sendAction, r.1.tlvId) = m.given (m.sendAction, m.tlvId) c ∧
      (m.Paired → c.Typed → r.1.Paired) := by
  cases c with
  | setAction action id =>
    cases h
    obtain ⟨h1, h2, h3⟩ := setAction_given m action id
    exact ⟨h1, h2, fun hp _ => h3 hp⟩
  | setActionData action id d =>
    cases h
    exact setActionData_given m action id d
  | parse buf msgSize =>
    cases h
    have hk := parse_keeps m buf msgSize hl
    exact ⟨hk.prms, by rw [hk.sendAction, hk.tlvId]; rfl, fun hp _ => hk.paired hp⟩
  | build buf bufSize sequence =>
    obtain ⟨b, hb, rfl⟩ := Option.map_eq_some_iff.1 h
    have hk := build_keeps m buf bufSize sequence hb
    exact ⟨hk.prms, by rw [hk.sendAction, hk.tlvId]; rfl, fun hp _ => hk.paired hp⟩

/-- No call casts a structure that is of the id. -/
theorem Message.Paired.call (hp : m.Paired) (c : Call) : ∃ r, m.call c = some r := by
  cases c with
  | setAction action id => exact ⟨_, rfl⟩
  | setActionData action id d => exact ⟨_, rfl⟩
  | parse buf msgSize => exact ⟨_, rfl⟩
  | build buf bufSize sequence =>
    have hb : ∃ b, m.build buf bufSize sequence = some b := by
      unfold Message.build
      by_cases hs : bufSize < mngMsgBaseSize
      · rw [if_pos hs]
        exact ⟨_, rfl⟩
      rw [if_neg hs]
      dsimp only
      by_cases hg : m.sendAction = .GET
      · rw [if_pos hg]
        split <;> exact ⟨_, rfl⟩
      rw [if_neg hg]
      cases hd : m.dataSend with
      | none => exact ⟨_, rfl⟩
      | some d =>
        dsimp only
        rw [if_neg fun hm : Message.Miscast m.tlvId d => hm.2 (hp d hd)]
        split <;> exact ⟨_, rfl⟩
    obtain ⟨b, hb⟩ := hb
    exact ⟨_, Option.map_eq_some_iff.2 ⟨b, hb, rfl⟩⟩

/-- A run in which no message names another id sends what the run without the messages sends. -/
theorem SamePlan.calls (h : SamePlan m m') (cs : List Call) (hu : m'.Undisturbed cs) :
    Option.Rel SameCall (m.calls (cs.filter fun c => !c.isParse)) (m'.calls cs) := by
  induction cs generalizing m m' with
  | nil => exact .some ⟨rfl, h⟩
  | cons c cs ih =>
    obtain ⟨hl, hu⟩ := hu
    cases hc : c.isParse with
    | true =>
      cases c with
      | parse buf msgSize =>
        have hr := ih (h.parse buf msgSize hl) (hu _ rfl)
        rw [List.filter_cons_of_neg (by simp [hc])]
        change Option.Rel SameCall _ ((m'.parse buf msgSize).msg.calls cs >>= fun r => pure (r.1, [] ++ r.2))
        simpa using hr
      | _ => cases hc
    | false =>
      have hr := h.call c hc
      rw [List.filter_cons_of_pos (by simp [hc])]
      unfold Message.calls
      cases hm : m.call c with
      | none =>
        rw [hm] at hr
        cases hm' : m'.call c with
        | none => exact .none
        | some r' => rw [hm'] at hr; cases hr
      | some r =>
        rw [hm] at hr
        cases hm' : m'.call c with
        | none => rw [hm'] at hr; cases hr
        | some r' =>
          rw [hm'] at hr
          obtain ⟨hsent, hplan⟩ : SameCall r r' := by cases hr with | some hr => exact hr
          have hrs := ih hplan (hu r' hm')
          change Option.Rel SameCall (r.1.calls _ >>= fun s => pure (s.1, r.2 ++ s.2))
            (r'.1.calls cs >>= fun s => pure (s.1, r'.2 ++ s.2))
          generalize r.1.calls (cs.filter fun c => !c.isParse) = a at hrs ⊢
          generalize r'.1.calls cs = a' at hrs ⊢
          cases hrs with
          | none => exact .none
          | some hs => exact .some ⟨by rw [hsent, hs.sent], hs.plan⟩

theorem calls_given (cs : List Call) (hu : m.Undisturbed cs) (r : Message × List Sent) (h : m.calls cs = some r) :
    (r.1.sendAction, r.1.tlvId) = cs.foldl m.given (m.sendAction, m.tlvId) := by
  induction cs generalizing m r with
  | nil => cases h; rfl
  | cons c cs ih =>
    obtain ⟨hl, hu⟩ := hu
    obtain ⟨s, hs, hr⟩ := Option.bind_eq_some_iff.1 h
    obtain ⟨s', hs', hr⟩ := Option.bind_eq_some_iff.1 hr
    cases hr
    obtain ⟨hprms, hgiven, -⟩ := call_given hs hl
    have hg : s.1.given = m.given := by
      funext last c
      exact given_congr hprms last c
    rw [ih (hu s hs) s' hs', hg, hgiven]
    rfl

theorem Message.Paired.calls (hp : m.Paired) (cs : List Call) (hu : m.Undisturbed cs) (ht : ∀ c ∈ cs, c.Typed) :
    ∃ r, m.calls cs = some r ∧ r.1.Paired := by
  induction cs generalizing m with
  | nil => exact ⟨_, rfl, hp⟩
  | cons c cs ih =>
    obtain ⟨hl, hu⟩ := hu
    obtain ⟨s, hs⟩ := hp.call c
    obtain ⟨s', hs', hp'⟩ := ih ((call_given hs hl).2.2 hp (ht c List.mem_cons_self)) (hu s hs)
      fun c' hc' => ht c' (List.mem_cons_of_mem _ hc')
    refine ⟨(s'.1, s.2 ++ s'.2), ?_, hp'⟩
    unfold Message.calls
    rw [hs]
    change s.1.calls cs >>= _ = _
    rw [hs']
    rfl

end Runs

/-- Every run in which the received messages name no other id than the one set: the builds
give what they give without the messages, the action and the id are the ones of the last
setAction, and a structure is processed under the id it was given with. -/
theorem sends_undisturbed (m : Message) (cs : List Call) (h : m.Undisturbed cs) :
    (m.calls cs).map Prod.snd = (m.calls (cs.filter fun c => !c.isParse)).map Prod.snd ∧
      (∀ r, m.calls cs = some r → (r.1.sendAction, r.1.tlvId) = cs.foldl m.given (m.sendAction, m.tlvId)) ∧
      (m.Paired → (∀ c ∈ cs, c.Typed) → ∃ r, m.calls cs = some r ∧ r.1.Paired) := by
  refine ⟨?_, calls_given cs h, fun hp ht => hp.calls cs h ht⟩
  have hs := (SamePlan.refl m).calls cs h
  generalize m.calls (cs.filter fun c => !c.isParse) = a at hs ⊢
  generalize m.calls cs = a' at hs ⊢
  cases hs with
  | none => rfl
  | some hs => exact congrArg some hs.sent

/-- A request, the reply to it, and the request sent again. -/
def repeatRequest : List Call :=
  [.setAction .GET .PRIORITY1, .build (fun _ => 0) 56 1, .parse priorityReply 56, .build (fun _ => 0) 56 2]

theorem sends_repeatRequest :
    ((Message.new default).calls repeatRequest).map Prod.snd =
        ((Message.new default).calls (repeatRequest.filter fun c => !c.isParse)).map Prod.snd ∧
      (∀ r, (Message.new default).calls repeatRequest = some r → (r.1.sendAction, r.1.tlvId) = (.GET, .PRIORITY1)) ∧
      ∃ r, (Message.new default).calls repeatRequest = some r ∧ r.1.Paired := by
  have hu : (Message.new default).Undisturbed repeatRequest := by
    refine ⟨trivial, fun r hr => ⟨trivial, fun r' hr' => ⟨.inr ?_, fun r'' _ => ⟨trivial, fun _ _ => trivial⟩⟩⟩⟩
    cases hr
    cases hr'
    rfl
  obtain ⟨h1, h2, h3⟩ := sends_undisturbed (Message.new default) repeatRequest hu
  refine ⟨h1, h2, h3 (fun d hd => by cases hd) fun c hc => ?_⟩
  simp only [repeatRequest, List.mem_cons, List.not_mem_nil, or_false] at hc
  rcases hc with rfl | rfl | rfl | rfl <;> trivial

/-- A request of PRIORITY1 that goes out for PRIORITY2, after a reply with that id. -/
theorem sends_received_id : ¬ ∀ (m : Message) (cs : List Call),
    (m.calls cs).map Prod.snd = (m.calls (cs.filter fun c => !c.isParse)).map Prod.snd := by
  intro h
  have hs := h (Message.new default)
    [.setAction .GET .PRIORITY1, .parse (mngMessage .RESPONSE [0, 1, 0, 4, 0x20, 6, 7, 0]) 56,
    .build (fun _ => 0) 56 1]
  have ho := congrArg (fun o : Option (List Sent) => o.map fun l => l.map fun b => b.mem 53) hs
  exact absurd ho (by decide +kernel)

end LibPmc
