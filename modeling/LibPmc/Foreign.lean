import LibPmc.Alike
import LibPmc.Machine.Net
import LibPmc.Numbered
/-!
# Other tools on the network

A request is heard by all that listen. The tool hears the requests of others, and the messages of
the clocks to each other, and goes on as if it had not: `foreign_unnoticed`, `tools_apart`.
-/
namespace LibPmc

open Cstr Wire Pmc
open Machine (rel_bind rel_bind_same Same Hides Unheard Net Input)

/-! ## The octets that arrive -/

/-- The walk looks at nothing that the filter skips. -/
theorem walk_noted (prms : MsgParams) (buf : Mem) (fuel cur : Nat) (leftAll : Int) :
    ∀ v ∈ (walk prms buf fuel cur leftAll).1, prms.skips v.tlvType = false := by
  induction fuel generalizing cur leftAll with
  | zero => simp [walk]
  | succ fuel ih =>
    unfold walk
    dsimp only
    split
    · simp
    split
    · simp
    split
    · exact ih _ _
    rename_i hs
    split
    · simpa using hs
    · intro v hv
      rcases List.mem_cons.1 hv with rfl | hv
      · simpa using hs
      · exact ih _ _ v hv

section Octets
variable {m : Message} (hk : m.prms.skips TlvType.ENHANCED_ACCURACY_METRICS = true)
include hk

/-- Without the metrics a parse stays in the message. -/
theorem parse_within (buf : Mem) (n : Int) : (m.parse buf n).trace.Within n := by
  have two {r : List (Nat × Nat)} {k : Nat} (hk : (k : Int) ≤ n) (h : ∀ x ∈ r, x.1 + x.2 ≤ k) :
      ∀ x ∈ r, ((x.1 + x.2 : Nat) : Int) ≤ n := fun x hx => le_trans (by exact_mod_cast h x hx) hk
  cases parse_cases m buf n with
  | sig h =>
    have hn : (44 : Int) ≤ n := h.1
    rw [parse_of_sigHeader m h]
    refine Trace.within_append.2 ⟨Trace.within_reads (two hn (by decide)), ?_⟩
    have hend : (sigBaseSize : Int) + (n - sigBaseSize) = n := by omega
    have h0 : 0 ≤ n - (sigBaseSize : Int) := by simp only [sigBaseSize]; omega
    have hgood : ∀ v ∈ (sigWalk m.prms buf n).1, 0 ≤ (v.outcome m.prms buf).left := by
      intro v hmem
      refine not_lt.1 fun hneg => ?_
      have hs := walk_noted _ _ _ _ _ v hmem
      rw [((v.left_neg_iff _ buf).1 hneg).1, hk] at hs
      cases hs
    exact parseSigLoop_within (s := ⟨sigBaseSize, n - sigBaseSize, m.sigTlvs.clear, .empty⟩) _ hend h0
      (Trace.within_empty n) hgood
  | reply action id h =>
    have hn : (54 : Int) ≤ n := h.2.2.2.1
    rw [parse_of_mngReply m h]
    refine Trace.within_append.2 ⟨Trace.within_reads (two hn (by decide)), ?_⟩
    split
    · exact Trace.within_empty n
    · have := h.2.2.2.2.2.2
      exact parseData_within _ buf (by omega) (by omega)
  | err action id h =>
    have hn : (60 : Int) ≤ n := h.2.2.2.1
    rw [parse_of_errReply m h]
    refine Trace.within_append.2 ⟨Trace.within_reads (two hn (by decide)), ?_⟩
    split
    · have := h.2.2.2.2.2.2
      exact parseErrorDisplay_within _ buf (by omega) (by omega)
    · exact Trace.within_empty n
  | refused _ _ _ h => exact h.within

/-- It goes by no octet behind the message. -/
theorem parse_front {a b : Mem} {n : Nat} (h : ∀ i, i < n → b i = a i) : m.parse b n = m.parse a n :=
  parse_agreeOn m (.of_below (fun x hx => by exact_mod_cast (parse_within hk a n).reads x hx) h)

end Octets

/-! ## Two states -/

/-- Two states of the tool on a network in which the same is seen. -/
structure SameView (s s' : Pmc) : Prop extends SameSender s s', Alike s.msg s'.msg where
  skips : s.msg.prms.skips TlvType.ENHANCED_ACCURACY_METRICS = true
  net : s.use_uds = false
  net' : s'.use_uds = false

section View
variable {s s' : Pmc}

/-- A line leaves what is held as it was. -/
theorem LineCase.held {sends : Bool} {r : Bool × Pmc × List Out} (h : LineCase s sends r) :
    SameHeld s.msg r.2.1.msg ∧ r.2.1.use_uds = s.use_uds ∧ UpToTarget s.msg.prms r.2.1.msg.prms := by
  cases h with
  | sent _ _ _ hp _ hh hu => exact ⟨hh, hu, by rw [hp]; exact .refl _⟩
  | none _ hp _ hh hu => exact ⟨hh, hu, hp⟩

theorem SameView.line (h : SameView s s') (c : CommandLine) :
    Option.Rel (fun r r' => r'.1 = r.1 ∧ SameView r.2.1 r'.2.1 ∧ r'.2.2 = r.2.2) (s.run_line c.heap c.sends c.line)
      (s'.run_line c.heap c.sends c.line) := by
  have hl := h.toSameSender.run_line c.heap c.sends c.line
  generalize hx : s.run_line c.heap c.sends c.line = x at hl
  generalize hy : s'.run_line c.heap c.sends c.line = y at hl
  cases hl with
  | none => exact .none
  | some hl =>
    obtain ⟨hh, hu, target, hp⟩ := (line_cases hx).held
    obtain ⟨hh', hu', -⟩ := (line_cases hy).held
    refine .some ⟨hl.sent, ⟨hl.sender, ?_, ?_, ?_, ?_, hu.trans h.net, hu'.trans h.net'⟩, hl.out⟩
    · rw [hh'.dataGet, h.dataGet, hh.dataGet]
    · rw [hh'.errorDisplay, h.errorDisplay, hh.errorDisplay]
    · rw [hh'.sigTlvs, h.sigTlvs, hh.sigTlvs]
    · rw [hp]
      exact h.skips

theorem AlikeHead.dumpSigs {m m' : Message} (h : AlikeHead m m') : dumpSigs m' = dumpSigs m := by
  unfold LibPmc.dumpSigs Message.traversSigTlvs
  rw [h.type, h.sigTlvs]

theorem AlikeReply.call_dump {m m' : Message} (h : AlikeReply m m') (libc : Inet) :
    call_dump libc m' = call_dump libc m := by
  unfold LibPmc.call_dump
  rw [h.tlvId, h.dataGet]

theorem AlikeHead.dump_peer {m m' : Message} (h : AlikeHead m m') : dump_peer m' = dump_peer m := by
  unfold LibPmc.dump_peer
  rw [h.peer, h.sequence]

/-- The octets of a datagram in the buffer are its own. -/
theorem store_front (b : Mem) (l : List UInt8) : ∀ i, i < l.length → b.store 0 l i = Mem.ofList l i := by
  intro i hi
  simp [Mem.store, Mem.ofList, hi]

theorem SameView.rcv (h : SameView s s') (libc : Inet) (datagram : Option (List UInt8)) :
    Option.Rel (fun r r' => r'.1 = r.1 ∧ SameView r.2.1 r'.2.1 ∧ r'.2.2 = r.2.2) (s.rcv libc datagram)
      (s'.rcv libc datagram) := by
  cases datagram with
  | none => exact .some ⟨rfl, h, rfl⟩
  | some l =>
    obtain ⟨m, buf, seq, uds⟩ := s
    obtain ⟨m', buf', seq', uds'⟩ := s'
    obtain rfl : uds = false := h.net
    obtain rfl : uds' = false := h.net'
    have ha : Alike m m' := h.toAlike
    have hk : m'.prms.skips TlvType.ENHANCED_ACCURACY_METRICS = true := by rw [ha.prms]; exact h.skips
    unfold Pmc.rcv Pmc.afterRcv
    dsimp only
    rw [parse_front hk fun i hi => (store_front buf' _ i hi).trans (store_front buf _ i hi).symm, ha.dataGet]
    have hp := ha.parse (buf.store 0 (l.take bufSize)) (l.take bufSize).length
    have hs := (parse_send m (buf.store 0 (l.take bufSize)) (l.take bufSize).length).1.prms
    generalize m.parse (buf.store 0 (l.take bufSize)) (l.take bufSize).length = p at hp hs ⊢
    generalize m'.parse (buf.store 0 (l.take bufSize)) (l.take bufSize).length = p' at hp ⊢
    have hv (b b' : Mem) : SameView ⟨p.msg, b, seq, false⟩ ⟨p'.msg, b', seq', false⟩ := by
      refine ⟨⟨hp.alike.prms, h.seq⟩, hp.alike.dataGet, hp.alike.errorDisplay, hp.alike.sigTlvs, ?_, rfl, rfl⟩
      dsimp only
      rw [hs]
      exact h.skips
    rw [hp.err, hp.trace]
    split
    · exact .none
    split
    · rename_i he
      refine .some ⟨rfl, hv _ _, ?_⟩
      have hr := hp.reply (.inr he)
      dsimp only
      unfold dump_err
      rw [hr.dump_peer, hr.replyAction, hr.tlvId, hp.errorId he, hr.errorDisplay]
    · rename_i he
      have hr := hp.reply (.inl he)
      rw [hr.call_dump]
      refine rel_bind_same _ fun out => .some ⟨rfl, hv _ _, ?_⟩
      dsimp only
      unfold dump_head
      rw [hr.dump_peer, hr.replyAction, hr.tlvId]
    · rename_i he
      have hr := hp.head (by rw [he]; decide)
      rw [hr.dumpSigs]
      refine rel_bind_same _ fun out => .some ⟨rfl, hv _ _, ?_⟩
      dsimp only
      unfold dump_sig
      rw [hr.dump_peer]
    · split
      · exact .some ⟨rfl, hv _ _, rfl⟩
      · exact .some ⟨rfl, hv _ _, rfl⟩

end View

/-! ## What is not for it -/

/-- A message of the clocks to each other, or a management message that is no reply. -/
def NoReply (buf : Mem) (n : Nat) : Prop :=
  sigBaseSize ≤ n ∧ buf 0 &&& 0xf ≠ MsgType.Signaling ∧ buf 0 &&& 0xf ≠ MsgType.Management ∨
    MngHeader buf n ∧ actionOf buf = none

instance (buf : Mem) (n : Nat) : Decidable (NoReply buf n) := by
  unfold NoReply MngHeader Header
  infer_instance

theorem NoReply.congr {a b : Mem} {n : Nat} (h : NoReply a n) (hab : ∀ i, i < n → b i = a i) : NoReply b n := by
  rcases h with ⟨hn, hs, hm⟩ | ⟨⟨hn, h0, h32, h1, h33⟩, ha⟩
  · rw [← hab 0 (lt_of_lt_of_le (by decide) hn)] at hs hm
    exact .inl ⟨hn, hs, hm⟩
  · have hn' : 52 ≤ n := by exact_mod_cast hn
    refine .inr ⟨⟨hn, ?_, ?_, ?_, ?_⟩, ?_⟩
    · rwa [hab 0 (by omega)]
    · rwa [hab 32 (by omega)]
    · rwa [hab 1 (by omega)]
    · rwa [hab 33 (by omega)]
    · unfold actionOf at ha ⊢
      rwa [hab 46 (by omega)]

/-- It is refused, and what is held stays. -/
theorem NoReply.parse {buf : Mem} {n : Nat} (h : NoReply buf n) (m : Message) :
    ((m.parse buf n).err = .HEADER ∨ (m.parse buf n).err = .ACTION) ∧ Alike (m.parse buf n).msg m := by
  rcases h with ⟨hn, hs, hm⟩ | ⟨hh, ha⟩
  · unfold Message.parse
    rw [if_neg (not_lt.2 (by exact_mod_cast hn)), if_neg hs, if_neg hm]
    exact ⟨.inl rfl, rfl, rfl, rfl, rfl⟩
  · rw [parse_of_mngHeader m hh]
    unfold Message.parseManagement
    unfold actionOf at ha
    rw [ha]
    exact ⟨.inr rfl, rfl, rfl, rfl, rfl⟩

/-- A datagram with such a message. -/
def Foreign (l : List UInt8) : Prop := NoReply (Mem.ofList (l.take bufSize)) (l.take bufSize).length

instance : DecidablePred Foreign := fun _ => inferInstanceAs (Decidable (NoReply _ _))

def Pmc.Event.isForeign : Event → Bool
  | .packet (some l) => decide (Foreign l)
  | _ => false

/-- The tool waits on. -/
theorem rcv_foreign (libc : Inet) {s : Pmc} {l : List UInt8} (hu : s.use_uds = false) (h : Foreign l) :
    s.rcv libc (some l) = some (1, s.received l, []) ∧ Alike (s.received l).msg s.msg := by
  have hb : NoReply (s.buf.store 0 (l.take bufSize)) (l.take bufSize).length := by
    unfold Foreign at h
    generalize l.take bufSize = l at h ⊢
    exact h.congr (store_front s.buf l)
  obtain ⟨he, ha⟩ := hb.parse s.msg
  unfold Pmc.rcv Pmc.afterRcv Pmc.received
  dsimp only
  generalize s.msg.parse (s.buf.store 0 (l.take bufSize)) (l.take bufSize).length = p at he ha ⊢
  refine ⟨?_, ha⟩
  rw [if_neg (by rintro ⟨hok, -⟩; rw [hok] at he; exact absurd he (by decide))]
  rcases he with he | he
  · rw [he]
    simp [hu]
  · rw [he]
    simp [hu]

theorem SameView.received {s s' : Pmc} (h : SameView s s') (libc : Inet) {l : List UInt8} (hl : Foreign l) :
    s.rcv libc (some l) = some (1, s.received l, []) ∧ SameView (s.received l) s' := by
  obtain ⟨hr, ha⟩ := rcv_foreign libc h.net hl
  refine ⟨hr, ⟨?_, h.seq⟩, ?_, ?_, ?_, ?_, h.net, h.net'⟩
  · rw [h.prms, ha.prms]
  · rw [h.dataGet, ha.dataGet]
  · rw [h.errorDisplay, ha.errorDisplay]
  · rw [h.sigTlvs, ha.sigTlvs]
  · rw [← ha.prms]
    exact h.skips

theorem hides_foreign (libc : Inet) : Hides (Pmc.step libc) SameView Event.isForeign [] := by
  refine ⟨?_, ?_⟩
  · rintro s s' (c | _ | l) h he
    · cases he
    · cases he
    · obtain ⟨hr, hv⟩ := h.received libc (of_decide_eq_true he)
      exact ⟨s.received l, step_packet.2 ⟨1, hr⟩, hv⟩
  · rintro s s' (c | datagram) h
    · exact rel_bind (h.line c) fun r r' hr => .some ⟨hr.2.1, hr.2.2⟩
    · exact rel_bind (h.rcv libc datagram) fun r r' hr => .some ⟨hr.2.1, hr.2.2⟩

theorem SameView.refl {s : Pmc} (hk : s.msg.prms.skips TlvType.ENHANCED_ACCURACY_METRICS = true)
    (hu : s.use_uds = false) :
    SameView s s := ⟨.refl s, rfl, rfl, rfl, hk, hu, hu⟩

/-- On a network, a run in which such messages are received, anywhere and any number of them, does
what it does without them, and nothing at them. -/
theorem foreign_unnoticed (libc : Inet) {s : Pmc} (hk : s.msg.prms.skips TlvType.ENHANCED_ACCURACY_METRICS = true)
    (hu : s.use_uds = false) (es : List Event) :
    Option.Rel (fun r r' => SameView r.1 r'.1 ∧ r'.2 = r.2.filter fun x => !x.1.isForeign) (s.run libc es)
      (s.run libc (es.filter fun e => !e.isForeign)) ∧
    ∀ r, s.run libc es = some r → ∀ x ∈ r.2, x.1.isForeign = true → x.2 = [] :=
  ⟨(hides_foreign libc).run (.refl hk hu) es, fun _ h => (hides_foreign libc).quiet_run (.refl hk hu) es h⟩

/-- The request of another tool for a priority. -/
def otherRequest : List UInt8 :=
  (⟨(Message.new default).prms, .GET, .PRIORITY1, [0, 0], by decide, rfl, by decide⟩ : Request).datagram 1

/-- It is heard before the reply comes. -/
def heard : List Event := [.line getPriority, .packet (some otherRequest), .packet (some (priorityReply.slice 0 56))]

theorem request_unnoticed : (heard.filter fun e => !e.isForeign).length = 2 ∧
    Option.Rel (fun r r' => SameView r.1 r'.1 ∧ r'.2 = r.2.filter fun x => !x.1.isForeign)
      (started.run twoAddresses heard)
      (started.run twoAddresses (heard.filter fun e => !e.isForeign)) :=
  ⟨by decide +kernel, (foreign_unnoticed twoAddresses (s := started) rfl rfl heard).1⟩

/-! ## Waiting -/

/-- What is received while it waits is such a message, and there is time left. -/
def Pmc.passedOver (x : Option (List UInt8) × Nat) : Bool := Event.isForeign (.packet x.1) && decide (x.2 > 0)

section Wait
variable {s s' : Pmc} (libc : Inet)

theorem SameView.rcv_timeout (h : SameView s s') (rcvs : List (Option (List UInt8) × Nat)) :
    Option.Rel (fun r r' => SameView r.1 r'.1 ∧ r'.2 = r.2) (s.rcv_timeout libc rcvs)
      (s'.rcv_timeout libc (rcvs.filter fun x => !passedOver x)) := by
  induction rcvs generalizing s s' with
  | nil => exact .some ⟨h, rfl⟩
  | cons x rcvs ih =>
    obtain ⟨datagram, left⟩ := x
    cases hx : passedOver (datagram, left) with
    | true =>
      rw [List.filter_cons_of_neg (by simp [hx])]
      obtain ⟨he, hl⟩ := Bool.and_eq_true_iff.1 hx
      cases datagram with
      | none => cases he
      | some l =>
        obtain ⟨hr, hv⟩ := h.received libc (of_decide_eq_true he)
        have hi := ih hv
        rw [Pmc.rcv_timeout, hr]
        dsimp only [Option.bind_eq_bind, Option.bind_some]
        rw [if_pos ⟨rfl, of_decide_eq_true hl⟩]
        generalize (s.received l).rcv_timeout libc rcvs = y at hi ⊢
        generalize s'.rcv_timeout libc (rcvs.filter fun x => !passedOver x) = z at hi ⊢
        cases hi with
        | some hi => exact .some hi
        | none => exact .none
    | false =>
      rw [List.filter_cons_of_pos (by simp [hx]), Pmc.rcv_timeout, Pmc.rcv_timeout]
      refine rel_bind (h.rcv libc datagram) fun r r' hr => ?_
      obtain ⟨h1, hv, h3⟩ := hr
      dsimp only
      rw [h1, h3]
      split
      · exact rel_bind (ih hv) fun r r' hr => .some ⟨hr.1, by rw [hr.2]⟩
      · exact .some ⟨hv, rfl⟩

theorem SameView.receives (h : SameView s s') (pkts : Nat) (rcvs : List (List (Option (List UInt8) × Nat))) :
    Option.Rel (fun r r' => SameView r.1 r'.1 ∧ r'.2 = r.2) (s.receives libc pkts rcvs)
      (s'.receives libc pkts (rcvs.map fun l => l.filter fun x => !passedOver x)) := by
  induction pkts generalizing s s' rcvs with
  | zero => exact .some ⟨h, rfl⟩
  | succ pkts ih =>
    have hd : (rcvs.map fun l => l.filter fun x => !passedOver x).headD [] =
        (rcvs.headD []).filter fun x => !passedOver x := by
      cases rcvs <;> rfl
    rw [Pmc.receives, Pmc.receives, hd, ← List.map_tail]
    refine rel_bind (h.rcv_timeout libc _) fun r r' hr => rel_bind (ih hr.1 _) fun t t' ht => ?_
    exact .some ⟨ht.1, by rw [hr.2, ht.2]⟩

theorem SameView.commands (h : SameView s s') (cs : List CommandLine) :
    Option.Rel (fun r r' => r'.1 = r.1 ∧ SameView r.2.1 r'.2.1 ∧ r'.2.2 = r.2.2) (s.commands cs) (s'.commands cs) := by
  induction cs generalizing s s' with
  | nil => exact .some ⟨rfl, h, rfl⟩
  | cons c cs ih =>
    refine rel_bind (h.line c) fun r r' hr => rel_bind (ih hr.2.1) fun t t' ht => ?_
    exact .some ⟨by rw [hr.1, ht.1], ht.2.1, by rw [hr.2.2, ht.2.2]⟩

end Wait

/-- In batch mode they do not use up the replies it waits for: each wait goes on to the first
message that is none of them, as long as there is time. -/
theorem batch_foreign (libc : Inet) {s : Pmc} (hk : s.msg.prms.skips TlvType.ENHANCED_ACCURACY_METRICS = true)
    (hu : s.use_uds = false) (cs : List CommandLine) (rcvs : List (List (Option (List UInt8) × Nat))) :
    Option.Rel (fun r r' => SameView r.1 r'.1 ∧ r'.2 = r.2) (s.batch libc cs rcvs)
      (s.batch libc cs (rcvs.map fun l => l.filter fun x => !passedOver x)) := by
  unfold Pmc.batch
  refine rel_bind ((SameView.refl hk hu).commands cs) fun r r' hr => ?_
  dsimp only
  rw [hr.1, hr.2.2]
  exact rel_bind (hr.2.1.receives libc _ rcvs) fun t t' ht => .some ⟨ht.1, by rw [ht.2]⟩

/-- The wait for a priority goes on after a request of another tool. -/
theorem priority_awaited : Option.Rel (fun r r' => SameView r.1 r'.1 ∧ r'.2 = r.2)
    (started.batch twoAddresses [getPriority] [[(some otherRequest, 400), (some (priorityReply.slice 0 56), 300)]])
    (started.batch twoAddresses [getPriority] [[(some (priorityReply.slice 0 56), 300)]]) := by
  have h := batch_foreign twoAddresses (s := started) rfl rfl [getPriority]
    [[(some otherRequest, 400), (some (priorityReply.slice 0 56), 300)]]
  have hf : [(some otherRequest, 400), (some (priorityReply.slice 0 56), 300)].filter (fun x => !passedOver x) =
      [(some (priorityReply.slice 0 56), 300)] := by decide +kernel
  rwa [List.map_cons, hf] at h

/-! ## The requests -/

/-- No id allows the action of a reply. -/
theorem noReplyAction {id : MngVals} {action : ActionField} (h : (mngAllVals id).allowed &&& action.bit ≠ 0) :
    Message.replyAction? (action.val &&& 0xf) = none := by
  cases action
  · rfl
  · rfl
  · exact absurd (show (mngAllVals id).allowed &&& ActionField.RESPONSE.bit = 0 by cases id <;> decide) h
  · rfl
  · exact absurd (show (mngAllVals id).allowed &&& ActionField.ACKNOWLEDGE.bit = 0 by cases id <;> decide) h

theorem Request.datagram_length (q : Request) (n : UInt16) :
    (q.datagram n).length = mngMsgBaseSize + q.body.length := by
  have hs := q.prms.self_id.clockIdentity.v.property
  have ht := q.prms.target.clockIdentity.v.property
  simp only [Request.datagram, be16, List.length_append, List.length_cons, List.length_nil,
    List.length_replicate, hs, ht,
    beOctets_length, mngMsgBaseSize, mngHeaderSize, tlvSize, lengthFieldMngBase]

/-- The octets by which a management message is told. -/
theorem Request.datagram_octets (q : Request) (n : UInt16) :
    (q.datagram n).getD 0 0 = MsgType.Management ||| (q.prms.transportSpecific <<< 4) ∧
      (q.datagram n).getD 1 0 = ptp_version ∧
    (q.datagram n).getD 32 0 = controlFieldMng ∧ (q.datagram n).getD 33 0 = logMessageIntervalDef ∧
    (q.datagram n).getD 46 0 = q.action.val := by
  have hs := q.prms.self_id.clockIdentity.v.property
  have ht := q.prms.target.clockIdentity.v.property
  unfold Request.datagram
  generalize q.prms.self_id.clockIdentity.v.val = self at hs
  generalize q.prms.target.clockIdentity.v.val = target at ht
  refine ⟨rfl, rfl, ?_, ?_, ?_⟩ <;>
    simp (disch := simp [be16, hs, ht]) [List.getD_eq_getElem?_getD, List.getElem?_append_right, be16, hs, ht]

/-- The requests of a tool are not for another. -/
theorem request_foreign (q : Request) (n : UInt16) : Foreign (q.datagram n) := by
  have hl := q.datagram_length n
  obtain ⟨h0, h1, h32, h33, h46⟩ := q.datagram_octets n
  unfold Foreign
  rw [List.take_of_length_le (by rw [hl]; exact q.short)]
  refine .inr ⟨⟨?_, ?_, h32, ?_, h33⟩, ?_⟩
  · rw [hl]
    simp only [mngMsgBaseSize, lengthFieldMngBase]
    omega
  · rw [Mem.ofList, h0]
    exact type_of_header _
  · rw [Mem.ofList, h1]
    rfl
  · unfold actionOf
    rw [Mem.ofList, h46]
    exact noReplyAction q.allowed

/-- What a tool does on a network is not noticed by the others. -/
theorem unheard_requests (libc : Inet) :
    Unheard Pmc.datagrams (fun l => Event.packet (some l)) (Pmc.step libc) Event.isForeign Foreign := by
  refine ⟨?_, fun h => decide_eq_true h⟩
  rintro s (c | datagram) r hr l hl
  · obtain ⟨sent, hline⟩ := step_line.1 hr
    cases line_cases hline with
    | sent _ q _ _ _ _ _ =>
      obtain rfl := List.mem_singleton.1 hl
      exact request_foreign q _
    | none ho _ _ _ _ =>
      rw [ho] at hl
      cases hl
  · obtain ⟨n, hrcv⟩ := step_packet.1 hr
    rw [rcv_datagrams hrcv] at hl
    cases hl

/-- Tools on one network: each hears, at any time and any number of times, what the others have
sent, and takes lines and replies of its own. What it does at these is what it does alone. -/
theorem tools_apart {ι : Type} [DecidableEq ι] (libc : Inet) {n : Net ι Pmc (List UInt8)}
    (hn : ∀ x ∈ n.said, Foreign x.2)
    (hp : ∀ i, (n.parts i).msg.prms.skips TlvType.ENHANCED_ACCURACY_METRICS = true ∧ (n.parts i).use_uds = false)
    (es : List (Input ι Event)) {r : Net ι Pmc (List UInt8) × List (Input ι Event × List Out)}
    (hr : Machine.run (Net.next (Pmc.step libc) Pmc.datagrams fun l => .packet (some l)) n es = some r) :
    (∀ i, ∃ r', (n.parts i).run libc (es.filterMap (Input.of i)) = some r' ∧ SameView (r.1.parts i) r'.1 ∧
      r'.2 = r.2.filterMap fun x => (Input.of i x.1).map fun e => (e, x.2)) ∧
    ∀ x ∈ r.2, x.1.isHear = true → x.2 = [] := by
  have hv (i : ι) : SameView (n.parts i) (n.parts i) := .refl (hp i).1 (hp i).2
  exact ⟨fun i => (hides_foreign libc).alone (unheard_requests libc) hn (hv i) es hr,
    (hides_foreign libc).hear_quiet (unheard_requests libc) hn (fun i => ⟨_, hv i⟩) es hr⟩

/-- Two tools ask for a priority, and the second hears the first. -/
def twoTools : List (Input Bool Event) := [.own true (.line getPriority), .hear false 0, .own false (.line getPriority)]

theorem two_tools_apart : ∃ r,
    Machine.run (Net.next (Pmc.step twoAddresses) Pmc.datagrams fun l => .packet (some l))
      (⟨fun _ => started, []⟩ : Net Bool Pmc (List UInt8)) twoTools = some r ∧
    (∀ i, ∃ r', started.run twoAddresses [.line getPriority] = some r' ∧ SameView (r.1.parts i) r'.1 ∧
      r'.2 = r.2.filterMap fun x => (Input.of i x.1).map fun e => (e, x.2)) ∧
    ∀ x ∈ r.2, x.1.isHear = true → x.2 = [] := by
  obtain ⟨r, hr⟩ := Option.isSome_iff_exists.1 (show (Machine.run (Net.next (Pmc.step twoAddresses) Pmc.datagrams
      fun l => .packet (some l)) (⟨fun _ => started, []⟩ : Net Bool Pmc (List UInt8)) twoTools).isSome =
        true by decide +kernel)
  have own (i : Bool) : twoTools.filterMap (Input.of i) = [.line getPriority] := by cases i <;> rfl
  obtain ⟨halone, hquiet⟩ := tools_apart twoAddresses (by simp) (fun _ => ⟨rfl, rfl⟩) twoTools hr
  exact ⟨r, hr, fun i => own i ▸ halone i, hquiet⟩

end LibPmc
