import LibPmc.Parse
import LibPmc.Bounds
/-!
# The walk over a signaling message

Which TLVs the loop of `parseSig` hands to a process function is a matter of the received
octets alone. `walk` gives them in order, with the result of the loop, and
`parseSigLoop_walk` says what the loop does with them: the vector it fills, the pointers it
stores and what its process functions leave.
-/
namespace LibPmc

open Wire Wire.Prog

/-- A TLV that passes the filter, by its type and the place of its value. -/
structure Visit where
  tlvType : UInt16
  pos : Nat
  len : Nat
  deriving DecidableEq

namespace Visit

/-- What parsing its value gives. -/
def outcome (prms : MsgParams) (buf : Mem) (v : Visit) : Outcome MngParseError (Option BaseSigTlv) :=
  (procSigTlv prms.implementSpecific v.tlvType).read v.len (buf.slice v.pos v.len)

/-- The structure it is decoded to, if any. -/
def tlv (prms : MsgParams) (buf : Mem) (v : Visit) : Option BaseSigTlv := (v.outcome prms buf).val.join

/-- Where the loop looks for the next TLV: behind the value, or further if the process
function moved further. -/
def next (prms : MsgParams) (buf : Mem) (v : Visit) : Nat := v.pos + v.len + (-(v.outcome prms buf).left).toNat

/-- The vector after the TLV. -/
def store (prms : MsgParams) (buf : Mem) (tlvs : SigTlvs) (v : Visit) : SigTlvs :=
  match v.tlv prms buf with
  | some tlv => tlvs.insert v.tlvType tlv
  | none => tlvs

/-- The pointer stored for the TLV. -/
def stored (prms : MsgParams) (buf : Mem) (v : Visit) : List (MngVals × TlvPtr) :=
  match v.tlv prms buf with
  | some tlv => tlv.stored
  | none => []

end Visit

/-- The TLVs that get decoded, up to the first that fails, and the result. -/
def walk (prms : MsgParams) (buf : Mem) : Nat → Nat → Int → List Visit × MngParseError
  | 0, _, _ => ([], .SIG)
  | fuel + 1, cur, leftAll =>
    if leftAll < tlvSize then ([], .SIG)
    else
      let v : Visit := ⟨u16 buf cur, cur + tlvSize, (u16 buf (cur + 2)).toNat⟩
      let rest := leftAll - tlvSize - v.len
      if rest < 0 then ([], .TOO_SMALL)
      else if prms.skips v.tlvType then walk prms buf fuel (v.pos + v.len) rest
      else
        match (v.outcome prms buf).val with
        | none => ([v], (v.outcome prms buf).err.getD .TOO_SMALL)
        | some _ =>
          let w := walk prms buf fuel (v.next prms buf) rest
          (v :: w.1, w.2)

/-- The walk over a message of `msgSize` octets. -/
def sigWalk (prms : MsgParams) (buf : Mem) (msgSize : Int) : List Visit × MngParseError :=
  walk prms buf ((msgSize - sigBaseSize).toNat + 1) sigBaseSize (msgSize - sigBaseSize)

theorem procSigTlv_metrics (spec : ImplementSpecific) : procSigTlv spec TlvType.ENHANCED_ACCURACY_METRICS =
    (fun d => some (.ENHANCED_ACCURACY_METRICS d)) <$> ENHANCED_ACCURACY_METRICS_f default := rfl

theorem Visit.outcome_err (prms : MsgParams) (buf : Mem) (v : Visit) :
    Failure ((v.outcome prms buf).err.getD .TOO_SMALL) := by
  have he : ∀ e ∈ (v.outcome prms buf).err, Failure e := by
    unfold Visit.outcome
    by_cases h : v.tlvType = TlvType.ENHANCED_ACCURACY_METRICS
    · have hs := spends_ENHANCED_ACCURACY_METRICS
      rw [h, procSigTlv_metrics, Spends.map.err]
      simp
    · exact (checked_procSigTlv prms.implementSpecific h).err _ _
  cases h : (v.outcome prms buf).err with
  | none => exact ⟨by decide, by decide, by decide⟩
  | some e => exact he e h

/-- A walk ends with the signaling result or fails. -/
theorem walk_err (prms : MsgParams) (buf : Mem) (fuel cur : Nat) (leftAll : Int) :
    (walk prms buf fuel cur leftAll).2 = .SIG ∨ Failure (walk prms buf fuel cur leftAll).2 := by
  induction fuel generalizing cur leftAll with
  | zero => exact .inl rfl
  | succ fuel ih =>
    unfold walk
    dsimp only
    split
    · exact .inl rfl
    split
    · exact .inr (by decide)
    split
    · exact ih _ _
    split
    · exact .inr (Visit.outcome_err prms buf _)
    · exact ih _ _

/-! ## One round -/

section Round
variable (prms : MsgParams) (buf : Mem) (s : SigLoop)

/-- The TLV at the cursor. -/
def SigLoop.visit : Visit := ⟨u16 buf s.cur, s.cur + tlvSize, (u16 buf (s.cur + 2)).toNat⟩

def SigLoop.rest : Int := s.leftAll - tlvSize - (s.visit buf).len

/-- The cursor the process function of that TLV ends on. -/
def SigLoop.ran : Option (Option BaseSigTlv) × Cursor MngParseError :=
  (procSigTlv prms.implementSpecific (s.visit buf).tlvType).run (parseCursor buf (s.visit buf).pos (s.visit buf).len)

/-- The log once the type and the lengthField are read. -/
def SigLoop.headed : Trace := s.trace.append { Trace.empty with reads := [(s.cur, 2), (s.cur + 2, 2)] }

variable {prms buf s}

variable (prms buf s) in
theorem ran_outcome : (s.ran prms buf).1 = ((s.visit buf).outcome prms buf).val ∧
    (s.ran prms buf).2.left = ((s.visit buf).outcome prms buf).left ∧
    (s.ran prms buf).2.err = ((s.visit buf).outcome prms buf).err.getD .TOO_SMALL ∧
    Reads (parseCursor buf (s.visit buf).pos (s.visit buf).len) (s.ran prms buf).2 := by
  obtain ⟨h1, h2, h3, _, h5⟩ := run_parse (procSigTlv prms.implementSpecific (s.visit buf).tlvType)
    (parseCursor buf (s.visit buf).pos (s.visit buf).len) rfl
  exact ⟨h1, h2, h3, h5⟩

/-- The state behind the TLV. -/
def SigLoop.passed (s : SigLoop) (prms : MsgParams) (buf : Mem) : SigLoop where
  cur := (s.visit buf).next prms buf
  leftAll := s.rest buf
  tlvs := (s.visit buf).store prms buf s.tlvs
  trace := (s.headed.append (.ofCursor (s.ran prms buf).2)).append
    { Trace.empty with stored := (s.visit buf).stored prms buf }

theorem parseSigTlv_eq : parseSigTlv prms buf s =
    if s.leftAll - tlvSize < (s.visit buf).len then
      (some .TOO_SMALL, ⟨s.cur + tlvSize, s.leftAll - tlvSize, s.tlvs, s.headed⟩)
    else if prms.skips (s.visit buf).tlvType then
      (none, ⟨(s.visit buf).pos + (s.visit buf).len, s.rest buf, s.tlvs, s.headed⟩)
    else
      let c := (s.ran prms buf).2
      let t := s.headed.append (.ofCursor c)
      match (s.ran prms buf).1 with
      | none => (some c.err, ⟨s.cur + tlvSize, s.rest buf, s.tlvs, t⟩)
      | some none => (none, ⟨c.cur + c.left.toNat, s.rest buf, s.tlvs, t⟩)
      | some (some tlv) => (none, ⟨c.cur + c.left.toNat, s.rest buf, s.tlvs.insert (s.visit buf).tlvType tlv,
          t.append { Trace.empty with stored := tlv.stored }⟩) := by
  rcases hr : s.ran prms buf with ⟨o, c⟩
  have hr' : (procSigTlv prms.implementSpecific (u16 buf s.cur)).run
      (parseCursor buf (s.cur + tlvSize) (u16 buf (s.cur + 2)).toNat) = (o, c) := hr
  unfold parseSigTlv
  dsimp only
  rw [hr']
  rcases o with _ | _ | tlv <;> rfl

theorem parseSigTlv_short (h : s.rest buf < 0) :
    parseSigTlv prms buf s = (some .TOO_SMALL, ⟨s.cur + tlvSize, s.leftAll - tlvSize, s.tlvs, s.headed⟩) := by
  rw [parseSigTlv_eq, if_pos (by unfold SigLoop.rest at h; omega)]

theorem parseSigTlv_skip (h : 0 ≤ s.rest buf) (hs : prms.skips (s.visit buf).tlvType = true) :
    parseSigTlv prms buf s = (none, ⟨(s.visit buf).pos + (s.visit buf).len, s.rest buf, s.tlvs, s.headed⟩) := by
  rw [parseSigTlv_eq, if_neg (by unfold SigLoop.rest at h; omega), if_pos hs]

theorem parseSigTlv_fail (h : 0 ≤ s.rest buf) (hs : prms.skips (s.visit buf).tlvType = false)
    (ho : ((s.visit buf).outcome prms buf).val = none) :
    parseSigTlv prms buf s = (some (((s.visit buf).outcome prms buf).err.getD .TOO_SMALL),
      ⟨s.cur + tlvSize, s.rest buf, s.tlvs, s.headed.append (.ofCursor (s.ran prms buf).2)⟩) := by
  obtain ⟨hr, _, he, _⟩ := ran_outcome prms buf s
  rw [parseSigTlv_eq, if_neg (by unfold SigLoop.rest at h; omega), if_neg (by simp [hs]), hr, ho, ← he]

theorem parseSigTlv_pass (h : 0 ≤ s.rest buf) (hs : prms.skips (s.visit buf).tlvType = false)
    {o : Option BaseSigTlv} (ho : ((s.visit buf).outcome prms buf).val = some o) :
    parseSigTlv prms buf s = (none, s.passed prms buf) := by
  obtain ⟨hr, hl, _, hc⟩ := ran_outcome prms buf s
  have hn : (s.ran prms buf).2.cur + (s.ran prms buf).2.left.toNat = (s.visit buf).next prms buf := by
    have := hc.end_eq
    unfold Visit.next
    rw [← hl]
    simp only [parseCursor] at this
    omega
  have ht : (s.visit buf).tlv prms buf = o := by unfold Visit.tlv; rw [ho]; rfl
  rw [parseSigTlv_eq, if_neg (by unfold SigLoop.rest at h; omega), if_neg (by simp [hs]), hr, ho]
  unfold SigLoop.passed Visit.store Visit.stored
  rw [ht, ← hn]
  cases o with
  | none => simp [Trace.append, Trace.empty]
  | some tlv => rfl

/-! ## The whole loop -/

theorem walk_succ (fuel : Nat) : walk prms buf (fuel + 1) s.cur s.leftAll =
    if s.leftAll < tlvSize then ([], .SIG)
    else if s.rest buf < 0 then ([], .TOO_SMALL)
    else if prms.skips (s.visit buf).tlvType then
      walk prms buf fuel ((s.visit buf).pos + (s.visit buf).len) (s.rest buf)
    else
      match ((s.visit buf).outcome prms buf).val with
      | none => ([s.visit buf], ((s.visit buf).outcome prms buf).err.getD .TOO_SMALL)
      | some _ =>
        let w := walk prms buf fuel ((s.visit buf).next prms buf) (s.rest buf)
        (s.visit buf :: w.1, w.2) := rfl

/-- The state at the head of the loop, with the head logged. -/
def SigLoop.head (s : SigLoop) : SigLoop :=
  { s with trace := s.trace.append { Trace.empty with heads := [(s.cur, s.leftAll)] } }

theorem parseSigLoop_succ (fuel : Nat) : parseSigLoop prms buf (fuel + 1) s =
    if s.leftAll < tlvSize then (.SIG, s.head)
    else
      match parseSigTlv prms buf s.head with
      | (some e, s) => (e, s)
      | (none, s) => parseSigLoop prms buf fuel s := rfl

theorem headed_lefts : s.head.headed.lefts = s.trace.lefts := by simp [SigLoop.headed, SigLoop.head]

theorem headed_stored : s.head.headed.stored = s.trace.stored := by simp [SigLoop.headed, SigLoop.head]

theorem passed_lefts : (s.head.passed prms buf).trace.lefts =
    s.trace.lefts ++ [((s.visit buf).outcome prms buf).left] := by
  have hl : (s.head.ran prms buf).2.left = ((s.visit buf).outcome prms buf).left := (ran_outcome prms buf s.head).2.1
  simp [SigLoop.passed, headed_lefts, hl]

theorem passed_stored : (s.head.passed prms buf).trace.stored =
    s.trace.stored ++ (s.visit buf).stored prms buf := by
  have hv : s.head.visit buf = s.visit buf := rfl
  simp [SigLoop.passed, headed_stored, hv]

/-- What the loop does with the TLVs of the walk. -/
structure Walked (prms : MsgParams) (buf : Mem) (s : SigLoop) (w : List Visit × MngParseError)
    (r : MngParseError × SigLoop) : Prop where
  err : r.1 = w.2
  tlvs : r.2.tlvs = w.1.foldl (Visit.store prms buf) s.tlvs
  lefts : r.2.trace.lefts = s.trace.lefts ++ w.1.map fun v => (v.outcome prms buf).left
  stored : r.2.trace.stored = s.trace.stored ++ w.1.flatMap (Visit.stored prms buf)

/-- The loop does what the walk says. -/
theorem parseSigLoop_walk (fuel : Nat) :
    Walked prms buf s (walk prms buf fuel s.cur s.leftAll) (parseSigLoop prms buf fuel s) := by
  induction fuel generalizing s with
  | zero => exact ⟨rfl, rfl, by simp [parseSigLoop, walk], by simp [parseSigLoop, walk]⟩
  | succ fuel ih =>
    rw [walk_succ, parseSigLoop_succ]
    by_cases h4 : s.leftAll < tlvSize
    · rw [if_pos h4, if_pos h4]
      exact ⟨rfl, rfl, by simp [SigLoop.head], by simp [SigLoop.head]⟩
    rw [if_neg h4, if_neg h4]
    by_cases hr : s.rest buf < 0
    · rw [if_pos hr, parseSigTlv_short (s := s.head) hr]
      exact ⟨rfl, rfl, by simp [headed_lefts], by simp [headed_stored]⟩
    -- the TLV is there, and either skipped or decoded
    have hr0 : 0 ≤ s.rest buf := by omega
    rw [if_neg hr]
    cases hs : prms.skips (s.visit buf).tlvType with
    | true =>
      obtain ⟨h1, h2, h3, h4⟩ := ih (s := ⟨(s.visit buf).pos + (s.visit buf).len, s.rest buf, s.tlvs, s.head.headed⟩)
      rw [if_pos rfl, parseSigTlv_skip (s := s.head) hr0 hs]
      exact ⟨h1, h2, h3.trans (by rw [headed_lefts]), h4.trans (by rw [headed_stored])⟩
    | false =>
      rw [if_neg (by simp)]
      cases ho : ((s.visit buf).outcome prms buf).val with
      | none =>
        have ht : (s.visit buf).tlv prms buf = none := by unfold Visit.tlv; rw [ho]; rfl
        have hl : (s.head.ran prms buf).2.left = ((s.visit buf).outcome prms buf).left :=
          (ran_outcome prms buf s.head).2.1
        rw [parseSigTlv_fail (s := s.head) hr0 hs ho]
        refine ⟨rfl, ?_, ?_, ?_⟩
        · simp [Visit.store, ht, SigLoop.head]
        · simp [headed_lefts, hl]
        · simp [Visit.stored, ht, headed_stored]
      | some o =>
        obtain ⟨h1, h2, h3, h4⟩ := ih (s := s.head.passed prms buf)
        rw [parseSigTlv_pass (s := s.head) hr0 hs ho]
        refine ⟨h1, h2, h3.trans ?_, h4.trans ?_⟩
        · rw [passed_lefts, List.append_assoc]; rfl
        · rw [passed_stored, List.append_assoc]; rfl

end Round

/-- Parsing the TLVs of a signaling message is walking over it. -/
theorem parseSig_walk (m : Message) (buf : Mem) (n : Int) :
    (m.parseSig buf n).err = (sigWalk m.prms buf n).2 ∧
      (m.parseSig buf n).msg =
        { m with sigTlvs := (sigWalk m.prms buf n).1.foldl (Visit.store m.prms buf) m.sigTlvs.clear } ∧
      (m.parseSig buf n).trace.lefts = (sigWalk m.prms buf n).1.map (fun v => (v.outcome m.prms buf).left) ∧
      (m.parseSig buf n).trace.stored = (sigWalk m.prms buf n).1.flatMap (Visit.stored m.prms buf) := by
  have h : Walked m.prms buf ⟨sigBaseSize, n - sigBaseSize, m.sigTlvs.clear, .empty⟩ _ _ :=
    parseSigLoop_walk ((n - sigBaseSize).toNat + 1)
  unfold Message.parseSig sigWalk
  exact ⟨h.err, by rw [← h.tlvs], h.lefts, h.stored⟩

end LibPmc
