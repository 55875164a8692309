import LibPmc.Echo
import LibPmc.Held
import LibPmc.ReadBack
/-!
# What is printed, typed again

A command with a dataField sends the octets of the structure that the line gives: `typed_request`.
Where the line is what was printed of a reply, they are the ones of the reply: `printed_sent_again`.
-/
namespace LibPmc

open Cstr Wire Pmc

/-! ## A request -/

theorem Request.datagram_drop (q : Request) (n : UInt16) : (q.datagram n).drop mngMsgBaseSize = q.body := by
  have hs := q.prms.self_id.clockIdentity.v.property
  have ht := q.prms.target.clockIdentity.v.property
  unfold Request.datagram
  refine List.drop_left' ?_
  simp only [be16, List.length_append, List.length_cons, List.length_nil, List.length_replicate, hs, ht,
    beOctets_length, mngMsgBaseSize, mngHeaderSize, tlvSize, lengthFieldMngBase]

theorem builtMem_body (m : Message) (buf : Mem) (sequence : UInt16) (body : List UInt8) :
    (m.builtMem buf sequence body).slice mngMsgBaseSize body.length = body := by
  have h (n : Nat) : (beOctets 2 n).length = 2 := beOctets_length 2 n
  unfold Message.builtMem
  rw [Mem.slice_store_of_disjoint (.inr (by rw [h]; decide)), Mem.slice_store_of_disjoint (.inr (by rw [h]; decide)),
    Mem.slice_store]

section Send
variable {s : Pmc} {d a : BaseMngTlv}

/-- What is set is sent, with the octets of its structure. -/
theorem sendAction_data (hg : s.msg.sendAction ≠ .GET) (hd : s.msg.dataSend = some d) (hid : d.id = s.msg.tlvId)
    (hb : ∃ o b, Builds (procTlv d) o b) (hr : mngMsgBaseSize + d.body.length ≤ bufSize)
    (ha : (mngAllVals s.msg.tlvId).allowed &&& s.msg.sendAction.bit ≠ 0) :
    ∃ (t : Pmc) (q : Request), s.sendAction true = some (true, t, [.datagram (q.datagram (UInt16.ofNat s.seq))]) ∧
      t.msg.sendAction = s.msg.sendAction ∧ q.prms = s.msg.prms ∧ q.action = s.msg.sendAction ∧ q.id = d.id ∧
      q.body = d.body := by
  obtain ⟨o, a, hb⟩ := hb
  obtain ⟨b, hbuild, hok, hmsg, hmem⟩ := build_ok s.buf (UInt16.ofNat s.seq) hg hd hid hb.tame hb.val hr
  obtain ⟨q, hp, hact, hqid, ho⟩ := built_request hbuild hok le_rfl ha
  have hbody : q.body = d.body := by
    have hk : b.msg.msgLen = mngMsgBaseSize + d.body.length := by rw [hmsg]
    rw [← q.datagram_drop (UInt16.ofNat s.seq), ← ho, hk, Mem.drop_slice _ _ (Nat.le_add_right _ _), Nat.zero_add,
      Nat.add_sub_cancel_left, hmem]
    exact builtMem_body ..
  refine ⟨{ s with msg := b.msg, buf := b.mem, seq := s.seq + 1 }, q, ?_, ?_, hp, hact, hqid.trans hid.symm, hbody⟩
  · unfold Pmc.sendAction
    rw [hbuild]
    dsimp only [Option.bind_eq_bind, Option.bind_some]
    rw [if_neg (not_not.2 hok), if_neg (by simp), ho]
    rfl
  · dsimp only
    rw [hmsg]

end Send

/-! ## A line -/

/-- A word of a command. -/
def CommandWord (w : List UInt8) : Prop := w ≠ [] ∧ ∀ c ∈ w, c ≠ 0 ∧ toksep.contains c = false

theorem CommandWord.zero {w : List UInt8} (h : CommandWord w) : 0 ∉ w := fun h0 => (h.2 0 h0).1 rfl

theorem newTlv_sized {id : MngVals} :
    (newTlv id).isSome = true → (mngAllVals id).size ≠ 0 ∧ id ≠ .NULL_PTP_MANAGEMENT := by
  cases id <;> decide

section Line
variable {s : Pmc} {w i r : List UInt8} {d : BaseMngTlv} {action : ActionField} {heap : Heap}

theorem setCommand_data (ha : s.msg.allowedAction d.id action = true) (hg : action ≠ .GET) {line : Buf} {save : Nat}
    (hd : heap.call_data d.id line save = .ok d) :
    Pmc.setCommand s.msg action d.id heap line save =
      some (true, { s.msg with sendAction := action, tlvId := d.id, dataSend := some d }) := by
  obtain ⟨t, ht⟩ := newTlv_id d
  obtain ⟨hsize, hnull⟩ := newTlv_sized (by rw [ht]; rfl)
  unfold Pmc.setCommand
  rw [if_neg (not_or.2 ⟨hg, by simpa [Message.isEmpty] using hsize⟩), hd]
  dsimp only
  unfold Message.setActionData
  rw [if_neg (not_not.2 ha), if_pos ⟨hnull, hg, hsize⟩]

/-- A line whose words are an action and a text for an id, and whose rest gives a structure of the
id, sends the octets of the structure. -/
theorem typed_request (hw : CommandWord w) (hi : CommandWord i) (haction : action? w = some action) (hg : action ≠ .GET)
    (hid : StandsFor (i.map toupper) d.id) (ha : s.msg.allowedAction d.id action = true)
    (hd : ∀ pre, heap.call_data d.id (pre ++ r) pre.length = .ok d) (hb : ∃ o b, Builds (procTlv d) o b)
    (hr : mngMsgBaseSize + d.body.length ≤ bufSize) :
    ∃ (t : Pmc) (q : Request), s.run_line heap true (w ++ 32 :: (i ++ 32 :: r)) =
        some (true, t, [.datagram (q.datagram (UInt16.ofNat s.seq)), .stdout q.line]) ∧
      q.prms = s.msg.prms ∧ q.action = action ∧ q.id = d.id ∧ q.body = d.body := by
  obtain ⟨hfound, hfid⟩ := (findId_stands hi.1 .NULL_PTP_MANAGEMENT d.id).2 hid
  have hstr : (findId .NULL_PTP_MANAGEMENT i).2.2 = i.map toupper := by
    rw [findId_of_ne_nil hi.1]
    split <;> rfl
  -- the two tokens, and what the second one is written over with
  have h1 : strtok_r toksep (w ++ 32 :: (i ++ 32 :: r)) 0 =
      some (some 0, w ++ [0] ++ (i ++ 32 :: r), (w ++ [0]).length) := by
    have h : strtok_r toksep ([] ++ ([] ++ (w ++ 32 :: (i ++ 32 :: r)))) 0 = _ :=
      strtok_r_token [] (List.forall_mem_nil _) hw.2 hw.1 (.inr (by decide))
    simpa using h
  have h2 : strtok_r toksep (w ++ [0] ++ ([] ++ (i ++ 32 :: r))) (w ++ [0]).length =
      some (some (w ++ [0]).length, w ++ [0] ++ (i ++ 0 :: r), (w ++ [0]).length + i.length + 1) :=
    strtok_r_token (w ++ [0]) (List.forall_mem_nil _) hi.2 hi.1 (.inr (by decide))
  have hs1 : Buf.str (w ++ [0] ++ (i ++ 32 :: r)) 0 = some w := by
    rw [List.append_assoc]
    exact str_at [] hw.zero _
  have hs2 : Buf.str (w ++ [0] ++ (i ++ 0 :: r)) (w ++ [0]).length = some i := str_at _ hi.zero _
  have hput : Buf.put (w ++ [0] ++ (i ++ 0 :: r)) (w ++ [0]).length (i.map toupper) =
      w ++ [0] ++ (i.map toupper ++ [0]) ++ r := by
    rw [put_string _ (List.length_map _)]
    simp only [List.append_assoc, List.cons_append, List.nil_append]
  have hlen : (w ++ [0]).length + i.length + 1 = (w ++ [0] ++ (i.map toupper ++ [0])).length := by
    simp only [List.length_append, List.length_map, List.length_cons, List.length_nil]
    omega
  obtain ⟨t, q, hsend, hact, hp, hqa, hqi, hqb⟩ :=
    sendAction_data (s := { s with msg := { s.msg with sendAction := action, tlvId := d.id, dataSend := some d } })
      hg rfl rfl hb hr (Message.allowedAction_spec ha).2
  refine ⟨t, q, ?_, hp, hqa, hqi, hqb⟩
  have hset := setCommand_data ha hg (hd (w ++ [0] ++ (i.map toupper ++ [0])))
  unfold Pmc.run_line
  rw [h1]
  dsimp only [Option.bind_eq_bind, Option.bind_some]
  rw [hs1]
  dsimp only [Option.bind_some]
  rw [haction]
  dsimp only
  rw [List.nil_append] at h2
  rw [h2]
  dsimp only [Option.bind_some]
  rw [hs2]
  dsimp only [Option.bind_some]
  rw [hfound, hfid, hstr, hput, hlen, if_neg (by simp)]
  unfold Pmc.command
  rw [hset]
  dsimp only [Option.bind_eq_bind, Option.bind_some]
  rw [if_neg (by simp), hsend]
  dsimp only [Option.bind_some]
  rw [if_neg (by simp), hact]
  unfold Request.line
  rw [hqa, hqi]
  rfl

end Line

/-! ## A reply -/

/-- The octets of the dataField. -/
def fieldOf (buf : Mem) : List UInt8 := buf.slice mngMsgBaseSize (lengthOf buf - 2).toNat

/-- A reply with the structure in its dataField. -/
structure Delivers (prms : MsgParams) (buf : Mem) (n : Nat) (d : BaseMngTlv) : Prop where
  reply : ∃ action, MngReply prms buf n action d.id
  full : lengthOf buf ≠ 2
  field : dataFieldOf buf d.id = some d

/-- The octets behind the message do not count. -/
theorem Delivers.congr {prms : MsgParams} {a b : Mem} {n : Nat} {d : BaseMngTlv} (h : Delivers prms a n d)
    (hab : ∀ i, i < n → b i = a i) : Delivers prms b n d ∧ fieldOf b = fieldOf a := by
  obtain ⟨⟨action, ⟨hm, h0, h32, h1, h33⟩, ha, ht, h54, hid, hc, hlen, he, hroom⟩, h2, hd⟩ := h
  have hn : 54 ≤ n := by exact_mod_cast h54
  have word {off : Nat} (ho : off + 2 ≤ n) : u16 b off = u16 a off :=
    agreeOn_u16 (l := [(off, 2)]) (.of_below (by simpa) hab) off (by simp)
  have hl : lengthOf b = lengthOf a := by
    unfold lengthOf
    rw [word (show mngHeaderSize + 2 + 2 ≤ n from hn.trans' (by decide))]
  have hs : b.slice mngMsgBaseSize (lengthOf a - 2).toNat = a.slice mngMsgBaseSize (lengthOf a - 2).toNat :=
    Mem.slice_congr fun i _ hi => hab i (by
      have := hroom.resolve_left h2
      simp only [mngMsgBaseSize, mngHeaderSize, tlvSize, lengthFieldMngBase] at hi
      omega)
  refine ⟨⟨⟨action, ⟨hm, ?_, ?_, ?_, ?_⟩, ?_, ?_, h54, ?_, hc, ?_, ?_, ?_⟩, ?_, ?_⟩, ?_⟩
  · rwa [hab 0 (by omega)]
  · rwa [hab 32 (by omega)]
  · rwa [hab 1 (by omega)]
  · rwa [hab 33 (by omega)]
  · unfold actionOf at ha ⊢
    rwa [hab 46 (by omega)]
  · exact (word (show 48 + 2 ≤ n by omega)).trans ht
  · rwa [word (by omega)]
  · rwa [hl]
  · rwa [hl]
  · rwa [hl]
  · rwa [hl]
  · unfold dataFieldOf at hd ⊢
    rwa [hl, hs]
  · unfold fieldOf
    rw [hl, hs]

/-- A build of the structure writes the dataField again. -/
theorem Delivers.builds {prms : MsgParams} {buf : Mem} {n : Nat} {d : BaseMngTlv} (h : Delivers prms buf n d) :
    ∃ o r, fieldOf buf = o ++ r ∧ Builds (procTlv d) (d.normalise o) d.normalFlags := by
  obtain ⟨⟨action, hr⟩, -, hd⟩ := h
  obtain ⟨t, ht, hd⟩ := Option.bind_eq_some_iff.1 hd
  have hlen : (((fieldOf buf).length : Nat) : Int) = lengthOf buf - 2 := by
    have := hr.2.2.2.2.2.2.1
    unfold fieldOf
    rw [Mem.slice_length]
    omega
  obtain ⟨o, r, hl, -, hb⟩ := rebuilds_procTlv ht (fieldOf buf) d (by rw [hlen]; exact hd)
  exact ⟨o, r, hl, hb⟩

section Print
variable {s : Pmc} {l : List UInt8} {d : BaseMngTlv}

/-- The reply is printed. -/
theorem Delivers.rcv (libc : Inet) (h : Delivers s.msg.prms (Mem.ofList (l.take bufSize)) (l.take bufSize).length d)
    (hw : s.msg.dataGet.isWild = false) :
    ∃ head, s.rcv libc (some l) = some (0, s.received l, [.stdout head, .stdout (dump libc d ++ octets "\n")]) := by
  obtain ⟨⟨action, hr⟩, h2, hd⟩ := (h.congr (store_front s.buf (l.take bufSize))).1
  have hf : HasDataField d.id := not_not.1 fun hn => by
    obtain ⟨t, ht⟩ := newTlv_id d
    rw [newTlv_eq_none_iff.2 hn] at ht
    cases ht
  obtain ⟨he, hm⟩ := (parse_data s.msg hr h2 hf).2 d hd
  have hdump : call_dump libc (s.received l).msg = some (dump libc d ++ octets "\n") :=
    call_dump_held libc hf (congrArg Message.tlvId hm) (congrArg Message.dataGet hm)
  refine ⟨dump_head (s.received l).msg (s.received l).msg.replyAction, ?_⟩
  unfold Pmc.received at hdump
  unfold Pmc.rcv Pmc.afterRcv Pmc.received
  dsimp only at hdump ⊢
  rw [if_neg fun h => by rw [hw] at h; exact absurd h.2.2 (by decide), he]
  dsimp only
  rw [hdump]
  rfl

end Print

/-- What is printed of a reply, behind any word for the action and any text for its id, is sent as the
structure of the reply is built: with the octets of its dataField, the reserved ones cleared and the
flags normalised. It is typed in any tool, whose target gets the request. -/
theorem printed_sent_again (libc : Inet) {s u : Pmc} {l w i : List UInt8} {d : BaseMngTlv} {action : ActionField}
    (h : Delivers s.msg.prms (Mem.ofList (l.take bufSize)) (l.take bufSize).length d)
    (hs : s.msg.dataGet.isWild = false)
    (hr : ReadsBack libc d) (hw : CommandWord w) (hi : CommandWord i) (haction : action? w = some action)
    (hg : action ≠ .GET)
    (hid : StandsFor (i.map toupper) d.id) (ha : u.msg.allowedAction d.id action = true) (heap : Heap)
    (rest : List UInt8) :
    ∃ head text o pad, s.rcv libc (some l) = some (0, s.received l, [.stdout head, .stdout (text ++ octets "\n")]) ∧
      fieldOf (Mem.ofList (l.take bufSize)) = o ++ pad ∧ d.octets = d.normalise o ∧
      ∃ (t : Pmc) (q : Request), u.run_line heap true (w ++ 32 :: (i ++ 32 :: (text ++ 0 :: rest))) =
          some (true, t, [.datagram (q.datagram (UInt16.ofNat u.seq)), .stdout q.line]) ∧
        q.prms = u.msg.prms ∧ q.action = action ∧ q.id = d.id ∧ q.body = d.body := by
  obtain ⟨head, hrcv⟩ := h.rcv libc hs
  obtain ⟨o, pad, hf, hb⟩ := h.builds
  have hoctets : d.octets = d.normalise o := hb.octets
  have hroom : mngMsgBaseSize + d.body.length ≤ bufSize := by
    obtain ⟨⟨a, hm⟩, h2, -⟩ := h
    obtain ⟨-, -, -, -, -, -, hmin, heven, hfull⟩ := hm
    have hlen : (fieldOf (Mem.ofList (l.take bufSize))).length = (lengthOf (Mem.ofList (l.take bufSize)) - 2).toNat :=
      Mem.slice_length _ _ _
    have hl : (l.take bufSize).length ≤ bufSize := List.length_take_le _ _
    rw [hf, List.length_append] at hlen
    unfold BaseMngTlv.body
    rw [hoctets, List.length_append, d.normalise_length, List.length_replicate]
    have := hfull.resolve_left h2
    simp only [mngMsgBaseSize, mngHeaderSize, tlvSize, lengthFieldMngBase]
    omega
  have hdata (pre : List UInt8) : heap.call_data d.id (pre ++ (dump libc d ++ 0 :: rest)) pre.length = .ok d := by
    obtain ⟨t, ht⟩ := newTlv_id d
    have hn : newTlv d.id ≠ none := by rw [ht]; exact Option.some_ne_none _
    unfold Heap.call_data
    rw [if_neg hn]
    exact hr _ pre rest (heap.typed d.id hn)
  obtain ⟨t, q, hline, hp, hqa, hqi, hqb⟩ := typed_request hw hi haction hg hid ha hdata ⟨_, _, hb⟩ hroom
  exact ⟨head, dump libc d, o, pad, hrcv, hf, hoctets, t, q, hline, hp, hqa, hqi, hqb⟩

/-- A priority of 7 is asked for, and set to what is printed. -/
theorem priority_sent_again : ∃ head text o pad,
    started.rcv twoAddresses (some (priorityReply.slice 0 56)) =
      some (0, started.received (priorityReply.slice 0 56), [.stdout head, .stdout (text ++ octets "\n")]) ∧
    fieldOf (Mem.ofList ((priorityReply.slice 0 56).take bufSize)) = o ++ pad ∧
      [7] = BaseMngTlv.normalise (.PRIORITY1 ⟨7⟩) o ∧
    ∃ (t : Pmc) (q : Request),
      started.run_line newHeap true (octets "set" ++ 32 :: (octets "priority1" ++ 32 :: (text ++ [0]))) =
        some (true, t, [.datagram (q.datagram 0), .stdout q.line]) ∧
      q.prms = started.msg.prms ∧ q.action = .SET ∧ q.id = .PRIORITY1 ∧ q.body = [7, 0] :=
  printed_sent_again twoAddresses (s := started) (u := started) (d := .PRIORITY1 ⟨7⟩)
    ⟨⟨.RESPONSE, by decide +kernel⟩, by decide +kernel, rfl⟩ rfl (reads_PRIORITY1 _)
    ⟨by decide, by decide +kernel⟩ ⟨by decide, by decide +kernel⟩ (by decide) (by decide +kernel)
    (.whole (by decide +kernel) (by decide +kernel)) (by decide) newHeap []

end LibPmc
