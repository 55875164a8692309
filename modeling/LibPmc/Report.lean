import LibPmc.Fault
/-!
# What the tool is for

It sends the requests that are typed, numbered, and prints a report of each message it receives:
`run_follows`. A report tells the peer, the sequence number, the action and the id, and then the
dataField or the error. What is held of earlier messages shows where a message brings none. A message
and what is held give one report: `Reports.unique`.
-/
namespace LibPmc

open Cstr Wire Wire.Prog Pmc
open Machine (Path Follows)

/-! ## The texts -/

/-- Whom a message is from, and its number. -/
def peerText (buf : Mem) : List UInt8 :=
  octets "\t" ++ (portIdentity buf 20).string ++ octets " seq " ++ decimal (u16 buf 30).toNat

def replyText (buf : Mem) (action : ActionField) (id : MngVals) : List UInt8 :=
  peerText buf ++ octets " " ++ octets (act2str_c action) ++ octets " MANAGEMENT " ++ octets (mng2str_c id) ++
    octets " "

def errorText (buf : Mem) (action : ActionField) (id : MngVals) (display : List UInt8) : List UInt8 :=
  peerText buf ++ octets " " ++ octets (act2str_c action) ++ octets " MANAGEMENT_ERROR_STATUS " ++
    octets (mng2str_c id) ++ octets "\n\tERROR: " ++ octets (errId2str_c (u16 buf 52)) ++ octets "(" ++
    decimal (u16 buf 52).toNat ++ octets ")\n\tERROR DISPLAY: " ++ cstr display ++ octets "\n\n"

/-! ## The tool -/

/-- The parameters and the next number, and what is held of earlier messages: a dataField, and the
text of an error. -/
structure Tool where
  prms : MsgParams
  seq : Nat
  data : TlvPtr
  display : List UInt8

def Pmc.tool (s : Pmc) : Tool := ⟨s.msg.prms, s.seq, s.msg.dataGet, s.msg.errorDisplay.textField⟩

/-- The report of a message, and what is held behind it. The number is 0 for a reply, and 1 for what
is not waited for. -/
inductive Reports (libc : Inet) (uds : Bool) (buf : Mem) (n : Int) (t : Tool) : Int → List Out → Tool → Prop
  /-- A reply brings its dataField. -/
  | data {action : ActionField} {id : MngVals} {d : BaseMngTlv} (h : MngReply t.prms buf n action id)
      (h2 : lengthOf buf ≠ 2) (hd : dataFieldOf buf id = some d) (hw : t.data ≠ .wild) :
      Reports libc uds buf n t 0 [.stdout (replyText buf action id), .stdout (dump libc d ++ octets "\n")]
        { t with data := .to d }
  /-- One of an id without a structure leaves the pointer anywhere. -/
  | noStructure {action : ActionField} {id : MngVals} (h : MngReply t.prms buf n action id) (h2 : lengthOf buf ≠ 2)
      (hf : ¬ HasDataField id) (hw : t.data ≠ .wild) :
      Reports libc uds buf n t 0 [.stdout (replyText buf action id), .stdout (octets "\n")] { t with data := .wild }
  | noData {action : ActionField} {id : MngVals} (h : MngReply t.prms buf n action id) (h2 : lengthOf buf = 2)
      (hd : ¬ HasDataField id ∨ t.data = .null) :
      Reports libc uds buf n t 0 [.stdout (replyText buf action id), .stdout (octets "\n")] t
  /-- Without a dataField, the one of an earlier reply is printed. -/
  | earlier {action : ActionField} {d : BaseMngTlv} (h : MngReply t.prms buf n action d.id) (h2 : lengthOf buf = 2)
      (hd : t.data = .to d) :
      Reports libc uds buf n t 0 [.stdout (replyText buf action d.id), .stdout (dump libc d ++ octets "\n")] t
  | error {action : ActionField} {id : MngVals} (h : ErrReply t.prms buf n action id) (h9 : 9 < lengthOf buf)
      (hl : ¬ TextTooLong buf) :
      Reports libc uds buf n t (-1) [.stdout (errorText buf action id (buf.slice 61 (buf 60).toNat))]
        { t with display := buf.slice 61 (buf 60).toNat }
  /-- An error without a text is printed with the text of an earlier one. -/
  | noText {action : ActionField} {id : MngVals} (h : ErrReply t.prms buf n action id) (h9 : ¬ 9 < lengthOf buf) :
      Reports libc uds buf n t (-1) [.stdout (errorText buf action id t.display)] t
  | signaling (h : SigHeader t.prms buf n) (hw : (sigWalk t.prms buf n).2 = .SIG)
      (hp : ¬ ∃ v ∈ (accepted t.prms buf n).map Prod.fst, Printed v) :
      Reports libc uds buf n t 1 [.stdout (peerText buf ++ octets " SIGNALING\n"), .stdout []] t
  /-- On a network nothing is said of messages of other types or with other headers, of requests, and of
  answers that the id does not have. -/
  | foreign {e : MngParseError} (h : Fault t.prms buf n e) (he : e = .ACTION ∨ e = .HEADER) (hu : uds = false) :
      Reports libc uds buf n t 1 [] t
  | refused {e : MngParseError} (h : Fault t.prms buf n e) (hu : (e = .ACTION ∨ e = .HEADER) → uds = true) :
      Reports libc uds buf n t (-1) [.stdout (octets "Parse error " ++ octets (err2str_c e) ++ octets "\n")] t

/-- What the tool does at an event. -/
inductive Does (libc : Inet) (uds : Bool) (t : Tool) : Event → List Out → Tool → Prop
  | request {c : CommandLine} (hs : c.sends = true) (q : Request) (hq : q.prms = t.prms) :
      Does libc uds t (.line c) [.datagram (q.datagram (UInt16.ofNat t.seq)), .stdout q.line]
        { t with seq := t.seq + 1 }
  | line {c : CommandLine} {out : List Out} {prms : MsgParams} (ho : datagrams out = []) (hp : UpToTarget t.prms prms) :
      Does libc uds t (.line c) out { t with prms }
  | nothing : Does libc uds t (.packet none) [] t
  | packet {l : List UInt8} {r : Int} {out : List Out} {t' : Tool}
      (h : Reports libc uds (Mem.ofList (l.take bufSize)) (l.take bufSize).length t r out t') :
      Does libc uds t (.packet (some l)) out t'

/-! ## A message -/

section Parts
variable {m : Message} {buf : Mem} {n : Int} {action : ActionField} {id : MngVals}

theorem read_octet (v : UInt8) (buf : Mem) (pos : Nat) {k : Int} (h : 1 ≤ k) :
    (proc v : P UInt8).read k (buf.slice pos k.toNat) =
      ⟨some (buf pos), k - 1, buf.slice (pos + 1) (k - 1).toNat, none⟩ := by
  have hb : UInt8.ofNat (beNat (Octets.ofList 1 (buf.slice pos k.toNat)).val) = buf pos := by
    rw [Mem.ofList_octets buf pos (by omega)]
    simp [Mem.octets, Mem.slice, beNat]
  have hd : (buf.slice pos k.toNat).drop 1 = buf.slice (pos + 1) (k - 1).toNat := by
    rw [Mem.drop_slice _ _ (by omega), show k.toNat - 1 = (k - 1).toNat by omega]
  change (if k < ((1 : Nat) : Int) then _ else _) = _
  rw [if_neg (by omega), ← hb, ← hd]
  rfl

/-- The text that is read, behind its length. -/
theorem read_text_value (d : PTPText_t) (buf : Mem) (pos : Nat) {k : Int} (h : 1 + ((buf pos).toNat : Int) ≤ k) :
    ((proc d : P PTPText_t).read k (buf.slice pos k.toNat)).val =
      some ⟨buf pos, buf.slice (pos + 1) (buf pos).toNat⟩ := by
  have ht : (Octets.ofList (buf pos).toNat (buf.slice (pos + 1) (k - 1).toNat)).val =
      buf.slice (pos + 1) (buf pos).toNat := by
    rw [Mem.ofList_octets buf (pos + 1) (by omega)]
    rfl
  change ((d.proc).read k _).val = _
  unfold PTPText_t.proc
  rw [read_bind, read_octet _ buf pos (by omega)]
  dsimp only
  rw [bind_pure_comp, read_map_val]
  change (Outcome.val (if k - 1 < (((buf pos).toUInt16.toNat : Nat) : Int) then _ else _)).map _ = _
  rw [UInt8.toNat_toUInt16, if_neg (by omega)]
  exact congrArg (fun t => some (PTPText_t.mk (buf pos) t)) ht

theorem parse_error_text (h : ErrReply m.prms buf n action id) (h9 : 9 < lengthOf buf) (hl : ¬ TextTooLong buf) :
    (m.parse buf n).err = .MSG ∧ (m.parse buf n).msg = { m.failed buf action id with
      errorDisplay := ⟨buf 60, buf.slice 61 (buf 60).toNat⟩, mngType := TlvType.MANAGEMENT_ERROR_STATUS } := by
  have hr := (run_parse m.errorDisplay.proc (parseCursor buf 60 (lengthOf buf - 8)) rfl).1
  have hv := read_text_value m.errorDisplay buf 60 (not_lt.1 fun hlt => hl ⟨h9, hlt⟩)
  rw [parse_of_errReply m h, if_pos h9]
  unfold Message.parseErrorDisplay
  rcases hp : m.errorDisplay.proc.run (parseCursor buf 60 (lengthOf buf - 8)) with ⟨o, c⟩
  rw [hp] at hr
  obtain rfl := hr.trans hv
  have hp' : (m.failed buf action id).errorDisplay.proc.run
      (parseCursor buf (mngHeaderSize + tlvSize + errorTlvSize) (lengthOf buf - 8)) = _ := hp
  rw [hp']
  exact ⟨rfl, rfl⟩

theorem parse_error_noText (h : ErrReply m.prms buf n action id) (h9 : ¬ 9 < lengthOf buf) :
    (m.parse buf n).err = .MSG ∧
      (m.parse buf n).msg = { m.failed buf action id with mngType := TlvType.MANAGEMENT_ERROR_STATUS } := by
  rw [parse_of_errReply m h, if_neg h9]
  exact ⟨rfl, rfl⟩

theorem parse_noStructure (h : MngReply m.prms buf n action id) (h2 : lengthOf buf ≠ 2) (hd : ¬ HasDataField id) :
    (m.parse buf n).err = .OK ∧
      (m.parse buf n).msg = { m.replied buf action id with dataGet := .wild, mngType := TlvType.MANAGEMENT } := by
  have hc : callTlvData id .wild = pure .wild := by unfold callTlvData; rw [newTlv_eq_none hd]
  rw [parse_of_mngReply m h, if_neg h2]
  unfold Message.parseData
  rw [show (m.replied buf action id).tlvId = id from rfl, hc]
  exact ⟨rfl, rfl⟩

end Parts

/-- What is not printed adds nothing. -/
theorem callUntil_quiet {C : Type} {f : C → Option (List UInt8)} {l : List C} (hf : ∀ c ∈ l, f c = some [])
    (out : List UInt8) :
    (callUntil (fun c out => (false, do return (← out) ++ (← f c))) l (some out)).2.1 = some out := by
  induction l with
  | nil => rfl
  | cons c l ih =>
    have hc : (callUntil (fun c out => (false, do return (← out) ++ (← f c))) (c :: l) (some out)).2.1 =
        (callUntil (fun c out => (false, do return (← out) ++ (← f c))) l
          (do return (← some out) ++ (← f c))).2.1 := rfl
    rw [hc, hf c List.mem_cons_self]
    change (callUntil _ l (some (out ++ []))).2.1 = _
    rw [List.append_nil]
    exact ih fun c hc => hf c (List.mem_cons_of_mem _ hc)

theorem dumpSigs_quiet (m : Message) (ht : m.type = MsgType.Signaling)
    (hp : ¬ ∃ t ∈ m.sigTlvs.recs.map SigTlv.tlvType, Printed t) : dumpSigs m = some [] := by
  unfold dumpSigs Message.traversSigTlvs
  rw [if_pos ht]
  refine callUntil_quiet (f := fun c : UInt16 × Option BaseSigTlv => call_dumpSig c.1 c.2) (fun c hc => ?_) []
  obtain ⟨r, hr, rfl⟩ := List.mem_map.1 hc
  have hn : ¬ Printed r.tlvType := fun h => hp ⟨_, List.mem_map_of_mem hr, h⟩
  unfold Printed at hn
  unfold SigTlv.copy call_dumpSig
  rw [if_neg fun h => hn (.inl h), if_neg fun h => hn (.inr h)]

theorem TlvPtr.isWild_eq_true (p : TlvPtr) : p.isWild = true ↔ p = .wild := by cases p <;> simp [TlvPtr.isWild]

section Rcv
variable {libc : Inet} {s : Pmc} {b : Mem} {n : Int} {action : ActionField} {id : MngVals}

theorem tool_kept (hok : (s.msg.parse b n).err ≠ .OK) (hmsg : (s.msg.parse b n).err ≠ .MSG) (mem : Mem) :
    Pmc.tool { s with msg := (s.msg.parse b n).msg, buf := mem } = s.tool := by
  have hl := parse_leaves s.msg b n
  unfold Pmc.tool
  dsimp only
  rw [(parse_send s.msg b n).1.prms, hl.1 hok, hl.2 hmsg]

/-- A reply without a dataField prints what is held. -/
theorem afterRcv_empty (libc : Inet) (h : MngReply s.msg.prms b n action id) (h2 : lengthOf b = 2) :
    s.afterRcv libc n b = (call_dump libc (s.msg.replied b action id)).map fun x =>
      (0, { s with msg := s.msg.replied b action id, buf := b }, [.stdout (replyText b action id), .stdout x]) := by
  have hparse := parse_of_mngReply s.msg h
  rw [if_pos h2] at hparse
  unfold Pmc.afterRcv
  rw [hparse]
  dsimp only
  rw [if_neg fun h => h.2.1 rfl]
  change (call_dump libc (s.msg.replied b action id) >>= _) = _
  cases call_dump libc (s.msg.replied b action id) <;> rfl

/-- One with a dataField deletes what is held, and prints the new one. -/
theorem afterRcv_data (libc : Inet) {d : BaseMngTlv} (h : MngReply s.msg.prms b n action id) (h2 : lengthOf b ≠ 2)
    (hd : dataFieldOf b id = some d) :
    s.afterRcv libc n b = if s.msg.dataGet.isWild = true then none else
      some (0, { s with
          msg := { s.msg.replied b action id with dataGet := .to d, mngType := TlvType.MANAGEMENT }, buf := b },
        [.stdout (replyText b action id), .stdout (dump libc d ++ octets "\n")]) := by
  have hid : d.id = id := dataFieldOf_id hd
  have hf : HasDataField id := fun hn => by
    obtain ⟨t, ht, -⟩ := Option.bind_eq_some_iff.1 hd
    rw [newTlv_eq_none (fun h => h hn)] at ht
    cases ht
  obtain ⟨he, hm⟩ := (parse_data s.msg h h2 hf).2 d hd
  have hst := (parse_stored h h2 he).1
  unfold Pmc.afterRcv
  dsimp only
  rw [he, hm]
  by_cases hw : s.msg.dataGet.isWild = true
  · rw [if_pos hw, if_pos ⟨rfl, hst, hw⟩]
  · rw [if_neg hw, if_neg fun h => hw h.2.2]
    dsimp only
    rw [call_dump_held libc (d := d) (by rw [hid]; exact hf) hid.symm rfl]
    rfl

theorem afterRcv_noStructure (libc : Inet) (h : MngReply s.msg.prms b n action id) (h2 : lengthOf b ≠ 2)
    (hf : ¬ HasDataField id) :
    s.afterRcv libc n b = if s.msg.dataGet.isWild = true then none else
      some (0, { s with
          msg := { s.msg.replied b action id with dataGet := .wild, mngType := TlvType.MANAGEMENT }, buf := b },
        [.stdout (replyText b action id), .stdout (octets "\n")]) := by
  obtain ⟨he, hm⟩ := parse_noStructure h h2 hf
  have hst := (parse_stored h h2 he).1
  unfold Pmc.afterRcv
  dsimp only
  rw [he, hm]
  by_cases hw : s.msg.dataGet.isWild = true
  · rw [if_pos hw, if_pos ⟨rfl, hst, hw⟩]
  · have hnone : call_dump libc { s.msg.replied b action id with dataGet := .wild, mngType := TlvType.MANAGEMENT } =
        some (octets "\n") := if_pos (newTlv_eq_none hf)
    rw [if_neg hw, if_neg fun h => hw h.2.2]
    dsimp only
    rw [hnone]
    rfl

/-- An error is printed, with the text that is held by then. -/
theorem afterRcv_error (libc : Inet) {m : Message} (he : (s.msg.parse b n).err = .MSG)
    (hm : (s.msg.parse b n).msg = m) :
    s.afterRcv libc n b = some (-1, { s with msg := m, buf := b }, [.stdout (dump_err m)]) := by
  unfold Pmc.afterRcv
  dsimp only
  rw [he, hm, if_neg (by simp)]

/-- A signaling message prints its TLVs, which the callback gets as null pointers. -/
theorem afterRcv_signaling (libc : Inet) (h : SigHeader s.msg.prms b n) (hw : (sigWalk s.msg.prms b n).2 = .SIG) :
    s.afterRcv libc n b = if ∃ v ∈ (accepted s.msg.prms b n).map Prod.fst, Printed v then none else
      some (1, { s with msg := (s.msg.parse b n).msg, buf := b },
        [.stdout (peerText b ++ octets " SIGNALING\n"), .stdout []]) := by
  obtain ⟨he, ht, hv⟩ := parse_sigTlvs s.msg h
  have htypes : (s.msg.parse b n).msg.sigTlvs.recs.map SigTlv.tlvType = (accepted s.msg.prms b n).map Prod.fst := by
    rw [hv, SigTlvs.types_insertAll]
    rfl
  have hpeer : dump_sig (s.msg.parse b n).msg = peerText b ++ octets " SIGNALING\n" := by
    rw [parse_of_sigHeader s.msg h]
    unfold dump_sig dump_peer
    change octets "\t" ++ ((s.msg.headed b).parseSig b n).msg.peer.string ++ _ ++
      decimal ((s.msg.headed b).parseSig b n).msg.sequence.toNat ++ _ = _
    rw [(parseSig_walk _ b n).2.1]
    rfl
  unfold Pmc.afterRcv
  dsimp only
  rw [he, hw, if_neg (fun h => by cases h.1), ← htypes, hpeer]
  dsimp only
  split
  · rename_i hp
    cases hd : dumpSigs (s.msg.parse b n).msg with
    | none => rfl
    | some x => exact absurd hp ((dumpSigs_isSome _ ht).1 (by rw [hd]; rfl))
  · rename_i hp
    rw [dumpSigs_quiet _ ht hp]
    rfl

theorem afterRcv_fault (libc : Inet) {e : MngParseError} (h : Fault s.msg.prms b n e) :
    s.afterRcv libc n b = some (
      if (e = .ACTION ∨ e = .HEADER) ∧ s.use_uds = false then (1, { s with msg := (s.msg.parse b n).msg, buf := b }, [])
      else (-1, { s with msg := (s.msg.parse b n).msg, buf := b },
        [.stdout (octets "Parse error " ++ octets (err2str_c e) ++ octets "\n")])) := by
  obtain ⟨he, hf⟩ := (parse_fault_iff s.msg).1 h
  unfold Pmc.afterRcv
  dsimp only
  rw [he, if_neg fun h => hf.1 h.1]
  split
  · exact absurd rfl hf.2.1
  · exact absurd rfl hf.1
  · exact absurd rfl hf.2.2
  · simp only [Bool.not_eq_true]
    split <;> rfl

/-- What is reported is printed. -/
theorem Reports.afterRcv {r : Int} {out : List Out} {t' : Tool} (h : Reports libc s.use_uds b n s.tool r out t') :
    ∃ t, s.afterRcv libc n b = some (r, t, out) ∧ t.tool = t' := by
  have wild {p : TlvPtr} (hw : p ≠ .wild) : ¬ p.isWild = true := fun h => hw ((TlvPtr.isWild_eq_true p).1 h)
  have kept {e : MngParseError} (h : Fault s.msg.prms b n e) :
      Pmc.tool { s with msg := (s.msg.parse b n).msg, buf := b } = s.tool := by
    obtain ⟨rfl, hf⟩ := (parse_fault_iff s.msg).1 h
    exact tool_kept hf.1 hf.2.1 b
  cases h with
  | data h h2 hd hw =>
    have he := (afterRcv_data libc h h2 hd).trans (if_neg (wild hw))
    exact ⟨_, he, rfl⟩
  | noStructure h h2 hf hw =>
    have he := (afterRcv_noStructure libc h h2 hf).trans (if_neg (wild hw))
    exact ⟨_, he, rfl⟩
  | @noData action id h h2 hd =>
    have hc : call_dump libc (s.msg.replied b action id) = some (octets "\n") := by
      unfold call_dump
      rcases hd with hf | hn
      · exact if_pos (newTlv_eq_none hf)
      · rw [show (s.msg.replied b action id).dataGet = .null from hn]
        exact ite_self _
    have he := afterRcv_empty libc h h2
    rw [hc] at he
    exact ⟨_, he, rfl⟩
  | @earlier action d h h2 hd =>
    have he := afterRcv_empty libc h h2
    rw [call_dump_held libc (m := s.msg.replied b action d.id) (hasDataField_id d) rfl hd] at he
    exact ⟨_, he, rfl⟩
  | error h h9 hl =>
    obtain ⟨he, hm⟩ := parse_error_text h h9 hl
    have he := afterRcv_error libc he hm
    exact ⟨_, he, rfl⟩
  | noText h h9 =>
    obtain ⟨he, hm⟩ := parse_error_noText h h9
    have he := afterRcv_error libc he hm
    exact ⟨_, he, rfl⟩
  | signaling h hw hp =>
    have hsig : (s.msg.parse b n).err = .SIG := (parse_sigTlvs s.msg h).1.trans hw
    have he := (afterRcv_signaling libc h hw).trans (if_neg hp)
    exact ⟨_, he, tool_kept (by rw [hsig]; decide) (by rw [hsig]; decide) b⟩
  | foreign h he hu =>
    have hr := (afterRcv_fault libc h).trans (congrArg some (if_pos ⟨he, hu⟩))
    exact ⟨_, hr, kept h⟩
  | refused h hu =>
    have hr := (afterRcv_fault libc h).trans
      (congrArg some (if_neg fun hn => by rw [hu hn.1] at hn; cases hn.2))
    exact ⟨_, hr, kept h⟩

/-- A reply without a dataField has a report if what is held is of its id. -/
theorem reports_empty (h : MngReply s.msg.prms b n action id) (h2 : lengthOf b = 2)
    (hd : ¬ (HasDataField id ∧ s.msg.dataGet.held ≠ .null ∧ s.msg.dataGet.held ≠ .struct id)) :
    ∃ out t', Reports libc s.use_uds b n s.tool 0 out t' := by
  by_cases hn : HasDataField id
  · rcases hg : s.msg.dataGet with _ | _ | d
    · exact ⟨_, _, .noData h h2 (.inr hg)⟩
    · exact absurd ⟨hn, by rw [hg]; decide, by rw [hg]; nofun⟩ hd
    · have hid : d.id = id := by
        by_contra hne
        exact hd ⟨hn, by rw [hg]; nofun, by rw [hg]; exact fun he => hne (Held.struct.inj he)⟩
      subst hid
      exact ⟨_, _, .earlier h h2 hg⟩
  · exact ⟨_, _, .noData h h2 (.inl hn)⟩

/-- Where the tool gets over a message there is a report of it. -/
theorem exists_reports (libc : Inet) (h : (s.afterRcv libc n b).isSome = true) :
    ∃ r out t', Reports libc s.use_uds b n s.tool r out t' := by
  have defined {c : Prop} [Decidable c] {x : Int × Pmc × List Out}
      (he : s.afterRcv libc n b = if c then none else some x) : ¬ c := by
    intro hc
    rw [he, if_pos hc] at h
    cases h
  rcases understood_or_fault s.msg.prms b n with hu | ⟨e, hf⟩
  · cases hu with
    | @reply action id h' hd =>
      by_cases h2 : lengthOf b = 2
      · rw [afterRcv_empty libc h' h2, Option.isSome_map, call_dump_isSome] at h
        exact ⟨0, reports_empty h' h2 h⟩
      by_cases hn : HasDataField id
      · obtain ⟨d, hd⟩ := Option.ne_none_iff_exists'.1 ((hd.resolve_left h2).resolve_left (not_not.2 hn))
        have hw := defined (afterRcv_data libc h' h2 hd)
        exact ⟨_, _, _, .data h' h2 hd fun h => hw ((TlvPtr.isWild_eq_true _).2 h)⟩
      · have hw := defined (afterRcv_noStructure libc h' h2 hn)
        exact ⟨_, _, _, .noStructure h' h2 hn fun h => hw ((TlvPtr.isWild_eq_true _).2 h)⟩
    | error h' hl =>
      by_cases h9 : 9 < lengthOf b
      · exact ⟨_, _, _, .error h' h9 hl⟩
      · exact ⟨_, _, _, .noText h' h9⟩
    | signaling h' hw => exact ⟨_, _, _, .signaling h' hw (defined (afterRcv_signaling libc h' hw))⟩
  · by_cases hn : (e = .ACTION ∨ e = .HEADER) ∧ s.use_uds = false
    · exact ⟨_, _, _, .foreign hf hn.1 hn.2⟩
    · exact ⟨_, _, _, .refused hf fun he => by simpa using fun hu => hn ⟨he, hu⟩⟩

/-- What the tool prints of a message, and holds behind it, is its report. -/
theorem afterRcv_iff {r : Int} {out : List Out} {t' : Tool} :
    (∃ t, s.afterRcv libc n b = some (r, t, out) ∧ t.tool = t') ↔ Reports libc s.use_uds b n s.tool r out t' := by
  refine ⟨?_, Reports.afterRcv⟩
  rintro ⟨t, h, rfl⟩
  obtain ⟨r, out, t', hr⟩ := exists_reports libc (by rw [h]; rfl)
  obtain ⟨u, hu, rfl⟩ := hr.afterRcv
  cases h.symm.trans hu
  exact hr

/-- There is one report of a message at most. -/
theorem Reports.unique {r r' : Int} {out out' : List Out} {t t' : Tool} (h : Reports libc s.use_uds b n s.tool r out t)
    (h' : Reports libc s.use_uds b n s.tool r' out' t') : r' = r ∧ out' = out ∧ t' = t := by
  obtain ⟨u, hu, rfl⟩ := h.afterRcv
  obtain ⟨u', hu', rfl⟩ := h'.afterRcv
  cases hu.symm.trans hu'
  exact ⟨rfl, rfl, rfl⟩

/-- The octets of the buffer behind the message do not count. -/
theorem afterRcv_front (hk : s.msg.prms.skips TlvType.ENHANCED_ACCURACY_METRICS = true) {a b : Mem} {n : Nat}
    (h : ∀ i, i < n → b i = a i) :
    s.afterRcv libc n b = (s.afterRcv libc n a).map fun r => (r.1, { r.2.1 with buf := b }, r.2.2) := by
  unfold Pmc.afterRcv
  rw [parse_front hk h]
  dsimp only
  generalize s.msg.parse a n = p
  split
  · rfl
  split
  · rfl
  · cases call_dump libc p.msg <;> rfl
  · cases dumpSigs p.msg <;> rfl
  · split <;> rfl

theorem rcv_reports {l : List UInt8} {r : Int} {t : Pmc} {out : List Out}
    (hk : s.msg.prms.skips TlvType.ENHANCED_ACCURACY_METRICS = true) (h : s.rcv libc (some l) = some (r, t, out)) :
    Reports libc s.use_uds (Mem.ofList (l.take bufSize)) (l.take bufSize).length s.tool r out t.tool := by
  have h : s.afterRcv libc (l.take bufSize).length (s.buf.store 0 (l.take bufSize)) = some (r, t, out) := h
  rw [afterRcv_front hk (store_front s.buf (l.take bufSize))] at h
  obtain ⟨⟨r', u, out'⟩, hu, he⟩ := Option.map_eq_some_iff.1 h
  cases he
  exact afterRcv_iff.1 ⟨u, hu, rfl⟩

end Rcv

/-! ## Runs -/

/-- A line leaves what is held. -/
theorem tool_of_held {s t : Pmc} (h : SameHeld s.msg t.msg) :
    t.tool = { s.tool with prms := t.msg.prms, seq := t.seq } := by
  unfold Pmc.tool
  rw [h.dataGet, h.errorDisplay]

theorem follows_tool (libc : Inet) (uds : Bool) {prms : MsgParams}
    (hk : prms.skips TlvType.ENHANCED_ACCURACY_METRICS = true) :
    Follows (Pmc.step libc) (fun s => UpToTarget prms s.msg.prms ∧ s.use_uds = uds) Pmc.tool
      (fun t e out t' => Does libc uds t e out t') := by
  refine ⟨?_, ?_⟩
  · rintro s (c | datagram) r ⟨hI, hu⟩ hr
    · obtain ⟨sent, hline⟩ := step_line.1 hr
      obtain ⟨-, hu', hp⟩ := (line_cases hline).held
      exact ⟨hI.trans hp, hu'.trans hu⟩
    · obtain ⟨n, hrcv⟩ := step_packet.1 hr
      have hs := rcv_sender hrcv
      refine ⟨hI.trans (by rw [hs.prms]; exact .refl _), ?_⟩
      cases datagram with
      | none =>
        cases hrcv
        exact hu
      | some l =>
        have hrs : r.1 = s.received l := rcv_state hrcv
        rw [hrs]
        exact hu
  · rintro s (c | _ | l) ⟨t, out⟩ ⟨hI, hu⟩ hr
    · obtain ⟨sent, hline⟩ := step_line.1 hr
      cases line_cases hline with
      | sent hs q hq hp hn hh _ =>
        rw [tool_of_held hh, hp, hn]
        exact .request hs q hq
      | none ho hp hn hh _ =>
        rw [tool_of_held hh, hn]
        exact .line ho hp
    · cases hr
      exact .nothing
    · obtain ⟨n, hrcv⟩ := step_packet.1 hr
      have hk' : s.msg.prms.skips TlvType.ENHANCED_ACCURACY_METRICS = true := by
        obtain ⟨target, hp⟩ := hI
        rw [hp]
        exact hk
      have h := rcv_reports hk' hrcv
      rw [hu] at h
      exact .packet h

/-- Each run of the tool on a network is one of the abstract tool: at a line it sends a numbered
request or none, and at a message it prints its report. -/
theorem run_follows (libc : Inet) {s : Pmc} (hk : s.msg.prms.skips TlvType.ENHANCED_ACCURACY_METRICS = true)
    (es : List Event) {r : Pmc × List (Event × List Out)} (hr : s.run libc es = some r) :
    Path (Does libc s.use_uds) s.tool r.2 r.1.tool :=
  (follows_tool libc s.use_uds hk).run ⟨.refl _, rfl⟩ es hr

theorem priority_followed : ∃ r : Pmc × List (Event × List Out),
    started.run twoAddresses [.line getPriority, .packet (some otherRequest), .packet (some (priorityReply.slice 0 56)),
      .packet (some (priorityReply.slice 0 53))] = some r ∧
      r.2.map (fun x => x.2.length) = [2, 0, 2, 1] ∧ Path (Does twoAddresses false) started.tool r.2 r.1.tool := by
  have hl : (started.run twoAddresses [.line getPriority, .packet (some otherRequest),
      .packet (some (priorityReply.slice 0 56)), .packet (some (priorityReply.slice 0 53))]).map
      (fun r => r.2.map fun x => x.2.length) = some [2, 0, 2, 1] := by decide +kernel
  obtain ⟨r, hr, hl⟩ := Option.map_eq_some_iff.1 hl
  exact ⟨r, hr, hl, run_follows twoAddresses (s := started) (by rfl) _ hr⟩

end LibPmc
