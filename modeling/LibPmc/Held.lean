import LibPmc.Foreign
/-!
# Where the tool goes wrong

The tool keeps a pointer to the structure of the last reply, and prints every reply with it. A
reply without a dataField leaves the pointer as it was, and a dataField of an id without a structure
leaves it wild; of the signaling TLVs it prints, it gets null pointers. A run is defined as long as
its lines are, and as none of these meet: `run_defined_iff`.
-/
namespace LibPmc

open Cstr Wire Pmc
open Machine (Separates)

/-! ## What is held -/

/-- What `m_dataGet` points to. -/
inductive Held where
  | null
  | wild
  | struct (id : MngVals)
  deriving DecidableEq

def TlvPtr.held : TlvPtr → Held
  | .null => .null
  | .wild => .wild
  | .to d => .struct d.id

/-- What a datagram amounts to: a reply with a dataField, one without, signaling TLVs, or anything
else. -/
inductive Kind where
  | data (id : MngVals)
  | empty (id : MngVals)
  | sig (types : List UInt16)
  | other
  deriving DecidableEq

/-- The types that are printed. -/
def Printed (tlvType : UInt16) : Prop :=
  tlvType = TlvType.SLAVE_RX_SYNC_TIMING_DATA ∨ tlvType = TlvType.SLAVE_DELAY_TIMING_DATA_NP

instance : DecidablePred Printed := fun t => inferInstanceAs (Decidable (t = _ ∨ t = _))

/-- What is held after it, if it is deleted and printed well. -/
def Held.after (held : Held) : Kind → Option Held
  | .data id => if held = .wild then none else some (if HasDataField id then .struct id else .wild)
  | .empty id => if HasDataField id ∧ held ≠ .null ∧ held ≠ .struct id then none else some held
  | .sig types => if ∃ t ∈ types, Printed t then none else some held
  | .other => some held

instance (prms : MsgParams) (buf : Mem) (n : Int) (action : ActionField) (id : MngVals) :
    Decidable (MngReply prms buf n action id) := by
  unfold MngReply
  infer_instance

/-- The id of a reply. -/
def replyOf (prms : MsgParams) (buf : Mem) (n : Int) : Option MngVals := do
  let action ← actionOf buf
  let id ← findTlvId (u16 buf 52) prms.implementSpecific
  if MngReply prms buf n action id then some id else none

instance (prms : MsgParams) (buf : Mem) (n : Int) : Decidable (SigHeader prms buf n) := by
  unfold SigHeader Header
  infer_instance

def kindOf (prms : MsgParams) (buf : Mem) (n : Int) : Kind :=
  if SigHeader prms buf n then
    if (sigWalk prms buf n).2 = .SIG then .sig ((accepted prms buf n).map Prod.fst) else .other
  else
    match replyOf prms buf n with
    | none => .other
    | some id =>
      if lengthOf buf = 2 then .empty id
      else if HasDataField id ∧ dataFieldOf buf id = none then .other
      else .data id

/-! ## What a message leaves -/

/-- Both are as before. -/
def KeepsHeld (m m' : Message) : Prop := m'.dataGet = m.dataGet ∧ m'.errorDisplay.textField = m.errorDisplay.textField

/-- A message that is not accepted as a reply leaves the structure, and one that is no error the
text of an earlier one. -/
def Leaves (m : Message) (p : Parsed) : Prop :=
  (p.err ≠ .OK → p.msg.dataGet = m.dataGet) ∧ (p.err ≠ .MSG → p.msg.errorDisplay.textField = m.errorDisplay.textField)

section Leaves
variable {m m' : Message} {p q : Parsed}

theorem Leaves.ret (h : KeepsHeld m m') (e : MngParseError) : Leaves m (.ret e m') := ⟨fun _ => h.1, fun _ => h.2⟩

theorem Leaves.ite {c : Prop} [Decidable c] (hp : Leaves m p) (hq : Leaves m q) : Leaves m (if c then p else q) := by
  split
  · exact hp
  · exact hq

theorem Leaves.parseData (h : KeepsHeld m m') (buf : Mem) (left : Int) : Leaves m (m'.parseData buf left) := by
  unfold Message.parseData
  rcases (callTlvData m'.tlvId .wild).run (parseCursor buf mngMsgBaseSize left) with ⟨_ | p, c⟩
  · exact ⟨fun _ => h.1, fun _ => h.2⟩
  · exact ⟨fun he => absurd rfl he, fun _ => h.2⟩

theorem Leaves.parseErrorDisplay (h : KeepsHeld m m') (buf : Mem) (left : Int) :
    Leaves m (m'.parseErrorDisplay buf left) := by
  unfold Message.parseErrorDisplay
  rcases m'.errorDisplay.proc.run (parseCursor buf (mngHeaderSize + tlvSize + errorTlvSize) left) with ⟨_ | t, c⟩
  · exact ⟨fun _ => h.1, fun _ => h.2⟩
  · exact ⟨fun _ => h.1, fun he => absurd rfl he⟩

theorem Leaves.parseError (h : KeepsHeld m m') (buf : Mem) (size left : Int) :
    Leaves m (m'.parseError buf size left) := by
  unfold Message.parseError
  refine .ite (.ret h _) ?_
  dsimp only
  split
  · exact .ret h _
  · refine .ite (.ret h _) (.ite (.ret h _) (.ite (.ret h _) (.ite (.parseErrorDisplay ?_ _ _) (.ret h _))))
    exact h

theorem Leaves.parseMng (h : KeepsHeld m m') (buf : Mem) (size left : Int) : Leaves m (m'.parseMng buf size left) := by
  unfold Message.parseMng
  refine .ite (.ret h _) ?_
  dsimp only
  split
  · exact .ret h _
  · refine .ite (.ret h _) (.ite (.ret h _) (.ite (.ret h _) (.ite (.ret h _) (.parseData ?_ _ _))))
    exact h

theorem Leaves.parseHeader (h : KeepsHeld m m') (buf : Mem) (n : Int) : Leaves m (m'.parseHeader buf n) := by
  unfold Message.parseHeader
  refine .ite (.ret h _) (.ite (.ret h _) (.ite ?_ ?_))
  · have hm := (parseSig_walk
      ({ m' with versionPTP := buf 1 &&& 0xf, minorVersionPTP := buf 1 >>> 4 }.setHeader buf) buf n).2.1
    refine ⟨fun _ => ?_, fun _ => ?_⟩
    · rw [hm]
      exact h.1
    · rw [hm]
      exact h.2
  · unfold Message.parseManagement
    dsimp only
    split
    · exact .ret h _
    · refine .ite (.parseError ?_ _ _ _) (.ite (.ret h _) (.parseMng ?_ _ _ _)) <;> exact h

theorem parse_leaves (m : Message) (buf : Mem) (n : Int) : Leaves m (m.parse buf n) := by
  have h : KeepsHeld m m := ⟨rfl, rfl⟩
  unfold Message.parse
  refine .ite (.ret h _) (.ite (.ite (.ret h _) (.ite (.ret h _) (.parseHeader ?_ _ _)))
    (.ite (.ite (.ret h _) (.ite (.ret h _) (.parseHeader ?_ _ _))) (.ret h _))) <;> exact h

end Leaves

theorem replyOf_eq_some {prms : MsgParams} {buf : Mem} {n : Int} {id : MngVals} :
    replyOf prms buf n = some id ↔ ∃ action, MngReply prms buf n action id := by
  unfold replyOf
  constructor
  · intro h
    obtain ⟨action, -, h⟩ := Option.bind_eq_some_iff.1 h
    obtain ⟨id', -, h⟩ := Option.bind_eq_some_iff.1 h
    split at h
    · cases h
      exact ⟨action, ‹_›⟩
    · cases h
  · rintro ⟨action, h⟩
    rw [h.2.1, h.2.2.2.2.1]
    exact if_pos h

/-- What the tool sees of a message, by its kind. -/
inductive Seen (m : Message) (p : Parsed) : Kind → Prop
  | data {id : MngVals} (he : p.err = .OK) (hs : p.trace.stored ≠ []) (hid : p.msg.tlvId = id)
      (hd : p.msg.dataGet.held = if HasDataField id then .struct id else .wild) : Seen m p (.data id)
  | empty {id : MngVals} (he : p.err = .OK) (hs : p.trace.stored = []) (hid : p.msg.tlvId = id)
      (hd : p.msg.dataGet = m.dataGet) : Seen m p (.empty id)
  | sig {types : List UInt16} (he : p.err = .SIG) (ht : p.msg.type = MsgType.Signaling)
      (hv : p.msg.sigTlvs.recs.map SigTlv.tlvType = types) (hd : p.msg.dataGet = m.dataGet) : Seen m p (.sig types)
  | other (he : p.err ≠ .OK) (he' : p.err ≠ .SIG) (hd : p.msg.dataGet = m.dataGet) : Seen m p .other

theorem Seen.unique {m : Message} {p : Parsed} {k k' : Kind} (h : Seen m p k) (h' : Seen m p k') : k' = k := by
  cases h with
  | data he hs hid _ =>
    cases h' with
    | data _ _ hid' _ => rw [← hid, ← hid']
    | empty _ hs' _ _ => exact absurd hs' hs
    | sig he' _ _ _ => exact absurd (he.symm.trans he') (by decide)
    | other he' _ _ => exact absurd he he'
  | empty he hs hid _ =>
    cases h' with
    | data _ hs' _ _ => exact absurd hs hs'
    | empty _ _ hid' _ => rw [← hid, ← hid']
    | sig he' _ _ _ => exact absurd (he.symm.trans he') (by decide)
    | other he' _ _ => exact absurd he he'
  | sig he _ hv _ =>
    cases h' with
    | data he' _ _ _ => exact absurd (he.symm.trans he') (by decide)
    | empty he' _ _ _ => exact absurd (he.symm.trans he') (by decide)
    | sig _ _ hv' _ => rw [← hv, ← hv']
    | other _ he' _ => exact absurd he he'
  | other he hs _ =>
    cases h' with
    | data he' _ _ _ => exact absurd he' he
    | empty he' _ _ _ => exact absurd he' he
    | sig he' _ _ _ => exact absurd he' hs
    | other _ _ _ => rfl

theorem Seen.failed {m : Message} {p : Parsed} (hl : p.err ≠ .OK → p.msg.dataGet = m.dataGet) (h : Failure p.err) :
    Seen m p .other := by
  have he : p.err ≠ .OK := fun he => not_accepted h (.inl he)
  refine .other he (fun he' => ?_) (hl he)
  rw [he'] at h
  exact absurd h (by decide)

theorem dataFieldOf_id {buf : Mem} {id : MngVals} {d : BaseMngTlv} (h : dataFieldOf buf id = some d) : d.id = id := by
  obtain ⟨t, ht, hd⟩ := Option.bind_eq_some_iff.1 h
  obtain ⟨t', ht', hid⟩ := (hasDataField_iff id).1 fun hn => by
    rw [newTlv_eq_none (fun h => h hn)] at ht
    cases ht
  rw [ht'] at ht
  cases ht
  exact (procTlv_id hd).trans hid

/-- The pointer that a reply with a dataField stores. -/
theorem parse_stored {m : Message} {buf : Mem} {n : Int} {action : ActionField} {id : MngVals}
    (h : MngReply m.prms buf n action id) (h2 : lengthOf buf ≠ 2) (he : (m.parse buf n).err = .OK) :
    (m.parse buf n).trace.stored ≠ [] ∧ (m.parse buf n).msg.tlvId = id := by
  rw [parse_of_mngReply m h, if_neg h2] at he ⊢
  unfold Message.parseData at he ⊢
  have hf := run_failure (callTlvData (m.replied buf action id).tlvId .wild) buf mngMsgBaseSize (lengthOf buf - 2)
  rcases hc : (callTlvData (m.replied buf action id).tlvId .wild).run
    (parseCursor buf mngMsgBaseSize (lengthOf buf - 2)) with ⟨_ | p, c⟩
  · rw [hc] at he hf
    exact absurd (.inl he) (not_accepted hf)
  · exact ⟨List.cons_ne_nil _ _, rfl⟩

theorem parse_seen (m : Message) (buf : Mem) (n : Int) : Seen m (m.parse buf n) (kindOf m.prms buf n) := by
  have hl := (parse_leaves m buf n).1
  unfold kindOf
  split
  · rename_i hs
    obtain ⟨he, ht, hv⟩ := parse_sigTlvs m hs
    split
    · rename_i hw
      have hsig : (m.parse buf n).err = .SIG := he.trans hw
      refine .sig hsig ht ?_ (hl (by rw [hsig]; decide))
      rw [hv, SigTlvs.types_insertAll]
      rfl
    · rename_i hw
      refine .failed hl ?_
      rw [he]
      exact (walk_err _ _ _ _ _).resolve_left hw
  rename_i hs
  cases hr : replyOf m.prms buf n with
  | none =>
    cases parse_cases m buf n with
    | sig h => exact absurd h hs
    | reply action id h => exact absurd (hr.symm.trans (replyOf_eq_some.2 ⟨action, h⟩)) (by simp)
    | err action id h =>
      have he : (m.parse buf n).err = .MSG ∨ (m.parse buf n).err = .TOO_SMALL := by
        rw [parse_of_errReply m h]
        split
        · unfold Message.parseErrorDisplay
          rcases (Message.errorDisplay _).proc.run _ with ⟨_ | t, c⟩
          · exact .inr rfl
          · exact .inl rfl
        · exact .inl rfl
      refine .other ?_ ?_ (parse_err_dataGet m h) <;> rcases he with he | he <;> rw [he] <;> decide
    | refused _ _ _ h => exact .failed hl h.err
  | some id =>
    obtain ⟨action, h⟩ := replyOf_eq_some.1 hr
    dsimp only
    split
    · rename_i h2
      obtain ⟨he, hd⟩ := parse_empty m h h2
      rw [parse_of_mngReply m h, if_pos h2]
      exact .empty rfl rfl rfl rfl
    rename_i h2
    by_cases hf : HasDataField id
    · have hp := parse_data m h h2 hf
      cases hd : dataFieldOf buf id with
      | none =>
        rw [if_pos ⟨hf, rfl⟩]
        exact .failed hl (hp.1 hd)
      | some d =>
        obtain ⟨he, hm⟩ := hp.2 d hd
        obtain ⟨hst, hid⟩ := parse_stored h h2 he
        rw [if_neg (by simp)]
        refine .data he hst hid ?_
        rw [hm, if_pos hf]
        exact congrArg Held.struct (dataFieldOf_id hd)
    · rw [if_neg (fun h => hf h.1)]
      obtain ⟨he, hw⟩ := parse_wild m h h2 hf
      obtain ⟨hst, hid⟩ := parse_stored h h2 he
      exact .data he hst hid (by rw [hw, if_neg hf]; rfl)

/-! ## One datagram -/

theorem call_dumpSig_null (tlvType : UInt16) : (call_dumpSig tlvType none).isSome = true ↔ ¬ Printed tlvType := by
  unfold call_dumpSig Printed
  by_cases h1 : tlvType = TlvType.SLAVE_RX_SYNC_TIMING_DATA
  · simp [h1]
  · by_cases h2 : tlvType = TlvType.SLAVE_DELAY_TIMING_DATA_NP
    · simp [h2]
    · simp [h1, h2]

/-- The calls go on where the callback never returns true. -/
theorem callUntil_isSome {C : Type} (f : C → Option (List UInt8)) (l : List C) (out : Option (List UInt8)) :
    (callUntil (fun c out => (false, do return (← out) ++ (← f c))) l out).2.1.isSome = true ↔
      out.isSome = true ∧ ∀ c ∈ l, (f c).isSome = true := by
  induction l generalizing out with
  | nil => simp [callUntil]
  | cons c l ih =>
    have hc : (callUntil (fun c out => (false, do return (← out) ++ (← f c))) (c :: l) out).2.1 =
        (callUntil (fun c out => (false, do return (← out) ++ (← f c))) l (do return (← out) ++ (← f c))).2.1 := rfl
    rw [hc, ih, List.forall_mem_cons, ← and_assoc]
    refine and_congr_left fun _ => ?_
    cases out <;> cases f c <;> simp

/-- Each TLV that is printed is a null pointer. -/
theorem dumpSigs_isSome (m : Message) (ht : m.type = MsgType.Signaling) :
    (dumpSigs m).isSome = true ↔ ¬ ∃ t ∈ m.sigTlvs.recs.map SigTlv.tlvType, Printed t := by
  unfold dumpSigs Message.traversSigTlvs
  rw [if_pos ht, callUntil_isSome fun c : UInt16 × Option BaseSigTlv => call_dumpSig c.1 c.2]
  simp only [List.mem_map, SigTlv.copy, Option.isSome_some, true_and]
  constructor
  · rintro h ⟨t, ⟨r, hr, rfl⟩, hp⟩
    exact (call_dumpSig_null _).1 (h (r.tlvType, none) ⟨r, hr, rfl⟩) hp
  · rintro h c ⟨r, hr, rfl⟩
    exact (call_dumpSig_null _).2 fun hp => h ⟨_, ⟨r, hr, rfl⟩, hp⟩

theorem newTlv_eq_none_iff {id : MngVals} : newTlv id = none ↔ ¬ HasDataField id := by
  refine ⟨fun h hd => ?_, newTlv_eq_none⟩
  obtain ⟨t, ht, -⟩ := (hasDataField_iff id).1 hd
  rw [h] at ht
  cases ht

theorem call_dump_isSome (libc : Inet) (m : Message) :
    (call_dump libc m).isSome = true ↔
      ¬ (HasDataField m.tlvId ∧ m.dataGet.held ≠ .null ∧ m.dataGet.held ≠ .struct m.tlvId) := by
  unfold call_dump
  by_cases hd : HasDataField m.tlvId
  · rw [if_neg fun h => newTlv_eq_none_iff.1 h hd]
    rcases m.dataGet with _ | _ | d
    · simp [TlvPtr.held]
    · simp [TlvPtr.held, hd]
    · by_cases hid : d.id = m.tlvId <;> simp [TlvPtr.held, hd, hid]
  · simp [hd, newTlv_eq_none hd]

/-- The structure of the id is printed. -/
theorem call_dump_held (libc : Inet) {m : Message} {d : BaseMngTlv} (hf : HasDataField d.id) (hid : m.tlvId = d.id)
    (hd : m.dataGet = .to d) :
    call_dump libc m = some (dump libc d ++ octets "\n") := by
  unfold call_dump
  rw [hid, hd, if_neg fun hn => newTlv_eq_none_iff.1 hn hf]
  exact if_pos rfl

theorem TlvPtr.isWild_iff (p : TlvPtr) : p.isWild = true ↔ p.held = .wild := by
  rcases p with _ | _ | d <;> simp [TlvPtr.isWild, TlvPtr.held]

/-- What is held after a datagram, where the tool gets over it. -/
theorem rcv_held (libc : Inet) (s : Pmc) (l : List UInt8) :
    (s.rcv libc (some l)).map (fun r => r.2.1.msg.dataGet.held) =
      s.msg.dataGet.held.after (kindOf s.msg.prms (s.buf.store 0 (l.take bufSize)) (l.take bufSize).length) := by
  have hs := parse_seen s.msg (s.buf.store 0 (l.take bufSize)) (l.take bufSize).length
  unfold Pmc.rcv Pmc.afterRcv
  dsimp only
  generalize s.msg.parse (s.buf.store 0 (l.take bufSize)) (l.take bufSize).length = p at hs ⊢
  generalize kindOf s.msg.prms (s.buf.store 0 (l.take bufSize)) (l.take bufSize).length = k at hs ⊢
  -- what is printed is there or not, and the state does not depend on it
  have print (held : Held) {x : Option (List UInt8)} {g : List UInt8 → Int × Pmc × List Out}
      (hg : ∀ out, (g out).2.1.msg.dataGet.held = held) :
      (x >>= fun out => some (g out)).map (fun r => r.2.1.msg.dataGet.held) =
        if x.isSome = true then some held else none := by
    cases x with
    | none => rfl
    | some out => exact congrArg some (hg out)
  cases hs with
  | @data id he hst hid hd =>
    have hp : (call_dump libc p.msg).isSome = true := by
      refine (call_dump_isSome libc p.msg).2 fun h => ?_
      rw [hid, hd] at h
      by_cases hf : HasDataField id <;> simp [hf] at h
    rw [he, Held.after]
    by_cases hw : s.msg.dataGet.held = .wild
    · rw [if_pos hw, if_pos ⟨rfl, hst, (TlvPtr.isWild_iff _).2 hw⟩]
      rfl
    · rw [if_neg hw, if_neg fun h => hw ((TlvPtr.isWild_iff _).1 h.2.2)]
      exact (print _ fun _ => hd).trans (if_pos hp)
  | @empty id he hst hid hd =>
    rw [he, Held.after, if_neg fun h => h.2.1 hst]
    refine (print s.msg.dataGet.held fun _ => congrArg TlvPtr.held hd).trans ?_
    simp only [call_dump_isSome, hid, hd, ite_not]
  | @sig types he ht hv hd =>
    rw [he, Held.after, if_neg fun h => by cases h.1]
    refine (print s.msg.dataGet.held fun _ => congrArg TlvPtr.held hd).trans ?_
    simp only [dumpSigs_isSome _ ht, hv, ite_not]
  | other he he' hd =>
    rw [Held.after, if_neg fun h => he h.1]
    split
    · exact congrArg (fun p => some p.held) hd
    · exact absurd ‹_› he
    · exact absurd ‹_› he'
    · split <;> exact congrArg (fun p => some p.held) hd

/-! ## Runs -/

theorem walk_target (prms : MsgParams) (target : PortIdentity_t) (buf : Mem) (fuel cur : Nat) (leftAll : Int) :
    walk { prms with target } buf fuel cur leftAll = walk prms buf fuel cur leftAll := by
  induction fuel generalizing cur leftAll with
  | zero => rfl
  | succ fuel ih =>
    simp only [walk, ih]
    rfl

/-- The target of the tool does not count. -/
theorem kindOf_target {prms prms' : MsgParams} (h : UpToTarget prms prms') (buf : Mem) (n : Int) :
    kindOf prms' buf n = kindOf prms buf n := by
  obtain ⟨target, rfl⟩ := h
  have hw : sigWalk { prms with target } buf n = sigWalk prms buf n := walk_target ..
  unfold kindOf accepted
  rw [hw]
  rfl

theorem kindOf_front {prms : MsgParams} (hk : prms.skips TlvType.ENHANCED_ACCURACY_METRICS = true) {a b : Mem} {n : Nat}
    (h : ∀ i, i < n → b i = a i) : kindOf prms b n = kindOf prms a n := by
  let m : Message := { (default : Message) with prms }
  have ha := parse_seen m a n
  have hb := parse_seen m b n
  rw [parse_front (m := m) hk h] at hb
  exact ha.unique hb

/-- What is held after an event that is no line. -/
def Held.hear (prms : MsgParams) (held : Held) : Event → Option Held
  | .packet (some l) => held.after (kindOf prms (Mem.ofList (l.take bufSize)) (l.take bufSize).length)
  | _ => some held

theorem separates_packets (libc : Inet) {prms : MsgParams} (hk : prms.skips TlvType.ENHANCED_ACCURACY_METRICS = true) :
    Separates (Pmc.step libc) SameSender (fun e => !e.isLine) (fun s => UpToTarget prms s.msg.prms)
      (fun s => s.msg.dataGet.held) (Held.hear prms) := by
  refine ⟨passes_packets libc, ?_, ?_, ?_⟩
  · rintro s (c | datagram) r hI hr
    · obtain ⟨sent, hline⟩ := step_line.1 hr
      exact hI.trans (line_cases hline).held.2.2
    · obtain ⟨n, hrcv⟩ := step_packet.1 hr
      have hs := rcv_sender hrcv
      exact hI.trans (by rw [hs.prms]; exact .refl _)
  · rintro s (c | _ | l) hI he
    · cases he
    · rfl
    · have hk' : s.msg.prms.skips TlvType.ENHANCED_ACCURACY_METRICS = true := by
        obtain ⟨target, hp⟩ := hI
        rw [hp]
        exact hk
      have hstep : Pmc.step libc s (.packet (some l)) = (s.rcv libc (some l)).map Prod.snd := by
        change (s.rcv libc (some l) >>= fun r => some r.2) = _
        cases s.rcv libc (some l) <;> rfl
      change _ = s.msg.dataGet.held.after (kindOf prms _ _)
      rw [← kindOf_target hI, ← kindOf_front hk' (store_front s.buf (l.take bufSize)), ← rcv_held libc, hstep,
        Option.map_map]
      rfl
  · rintro s (c | datagram) r hI he hr
    · obtain ⟨sent, hline⟩ := step_line.1 hr
      exact congrArg TlvPtr.held (line_cases hline).held.1.dataGet
    · cases he

/-- A run is defined if and only if its lines are, and the datagrams meet nothing held that they
cannot be printed with. -/
theorem run_defined_iff (libc : Inet) {s : Pmc} (hk : s.msg.prms.skips TlvType.ENHANCED_ACCURACY_METRICS = true)
    (es : List Event) :
    (s.run libc es).isSome = true ↔ (s.run libc (es.filter Event.isLine)).isSome = true ∧
      ((es.filter fun e => !e.isLine).foldlM (Held.hear s.msg.prms) s.msg.dataGet.held).isSome = true := by
  have h := (separates_packets libc hk).run_isSome (.refl _) (.refl s) es
  simp only [Bool.not_not] at h
  exact h

/-- The priority is held, and a reply about the clock description has no dataField. -/
theorem priority_held : (started.run twoAddresses [.packet (some (priorityReply.slice 0 56)),
    .packet (some ((mngMessage .RESPONSE [0, 1, 0, 2, 0x00, 0x01]).slice 0 54))]).isSome ≠ true := fun h =>
  absurd ((run_defined_iff twoAddresses (s := started) rfl _).1 h).2 (by decide +kernel)

end LibPmc
