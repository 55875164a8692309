import LibPmc.Receive
/-!
# What parsing is safe from

When a parse stays in the message it was given, and when every dataField pointer it
stores was decoded by the process function of the id beside it.
-/
namespace LibPmc

open Wire Wire.Prog

/-! ## Staying in the message -/

/-- The TLV's process function moves past its end: a double of an
ENHANCED_ACCURACY_METRICS is the last thing that fits. -/
def Visit.Overruns (v : Visit) : Prop :=
  v.tlvType = TlvType.ENHANCED_ACCURACY_METRICS ∧ 24 ≤ v.len + 4 ∧ v.len + 4 < 128 ∧ (v.len + 4) % 24 < 8

theorem Visit.left_neg_iff (prms : MsgParams) (buf : Mem) (v : Visit) :
    (v.outcome prms buf).left < 0 ↔ v.Overruns := by
  unfold Visit.outcome Visit.Overruns
  by_cases h : v.tlvType = TlvType.ENHANCED_ACCURACY_METRICS
  · have hm := (read_ENHANCED_ACCURACY_METRICS v.len (buf.slice v.pos v.len) (Int.natCast_nonneg _)).1
    rw [h, procSigTlv_metrics, read_map_left, hm]
    exact ⟨fun hl => ⟨rfl, by omega⟩, fun hl => by have := hl.2; omega⟩
  · have := (checked_procSigTlv prms.implementSpecific h).left_nonneg v.len (buf.slice v.pos v.len)
      (Int.natCast_nonneg _)
    exact ⟨fun hn => by omega, fun hn => absurd hn.1 h⟩

section Loop
variable {prms : MsgParams} {buf : Mem} {s : SigLoop} {n : Int}

/-- The TLV's header is read inside the message. -/
theorem headed_within (hend : s.cur + s.leftAll = n) (h4 : ¬ s.leftAll < tlvSize) (ht : s.trace.Within n) :
    s.head.headed.Within n := by
  have h4 : 4 ≤ s.leftAll := not_lt.1 h4
  refine Trace.within_append.2 ⟨Trace.within_append.2 ⟨ht, ⟨by simp, ?_, by simp⟩⟩, Trace.within_reads ?_⟩
  · simpa using hend
  · simp only [SigLoop.head, List.mem_cons, List.not_mem_nil, or_false, forall_eq_or_imp, forall_eq]
    omega

theorem parseSigLoop_within (fuel : Nat) (hend : s.cur + s.leftAll = n) (h0 : 0 ≤ s.leftAll) (ht : s.trace.Within n)
    (hv : ∀ v ∈ (walk prms buf fuel s.cur s.leftAll).1, 0 ≤ (v.outcome prms buf).left) :
    (parseSigLoop prms buf fuel s).2.trace.Within n := by
  induction fuel generalizing s with
  | zero => exact ht
  | succ fuel ih =>
    rw [walk_succ] at hv
    rw [parseSigLoop_succ]
    by_cases h4 : s.leftAll < tlvSize
    · rw [if_pos h4]
      exact Trace.within_append.2 ⟨ht, by simp, by simpa using hend, by simp⟩
    have hh := headed_within hend h4 ht
    rw [if_neg h4] at hv ⊢
    by_cases hr : s.rest buf < 0
    · rw [parseSigTlv_short (s := s.head) hr]
      exact hh
    have hr0 : 0 ≤ s.rest buf := not_lt.1 hr
    have hend' : ((s.visit buf).pos + (s.visit buf).len : Nat) + s.rest buf = n := by
      simp only [SigLoop.rest, SigLoop.visit] at *
      push_cast
      omega
    rw [if_neg hr] at hv
    cases hs : prms.skips (s.visit buf).tlvType with
    | true =>
      rw [if_pos hs] at hv
      rw [parseSigTlv_skip (s := s.head) hr0 hs]
      exact ih (s := ⟨(s.visit buf).pos + (s.visit buf).len, s.rest buf, s.tlvs, s.head.headed⟩) hend' hr0 hh hv
    | false =>
      -- what the process function reads is in front of what it leaves
      have hran : 0 ≤ ((s.visit buf).outcome prms buf).left →
          (s.head.headed.append (.ofCursor (s.head.ran prms buf).2)).Within n := by
        intro hl
        obtain ⟨-, hleft, -, hc⟩ := ran_outcome prms buf s.head
        obtain ⟨l, hl', hin⟩ := hc.reads
        refine Trace.within_append.2 ⟨hh, ?_, by simp, ?_⟩
        · intro r hr
          rw [Trace.ofCursor_reads, hl'] at hr
          have := (hin r (by simpa [parseCursor] using hr)).2
          simp only [parseCursor] at this
          have hv' : s.head.visit buf = s.visit buf := rfl
          rw [hv'] at this
          omega
        · rw [Trace.ofCursor_lefts, List.forall_mem_singleton, hleft]
          exact hl
      rw [if_neg (by simp [hs])] at hv
      cases ho : ((s.visit buf).outcome prms buf).val with
      | none =>
        rw [ho] at hv
        rw [parseSigTlv_fail (s := s.head) hr0 hs ho]
        exact hran (hv _ List.mem_cons_self)
      | some o =>
        rw [ho] at hv
        have hl := hv _ List.mem_cons_self
        -- a process function that stays in its TLV ends on the next one
        have hnext : (s.visit buf).next prms buf = (s.visit buf).pos + (s.visit buf).len := by
          unfold Visit.next
          omega
        rw [parseSigTlv_pass (s := s.head) hr0 hs ho]
        refine ih (s := s.head.passed prms buf) ?_ hr0 ?_ fun v h => hv v (List.mem_cons_of_mem _ h)
        · rw [← hend', ← hnext]
          rfl
        · exact Trace.within_append.2 ⟨hran hl, by simp, by simp, by simp⟩

end Loop

/-- The management messages never run over. -/
theorem parseData_within (m : Message) (buf : Mem) {left n : Int} (h0 : 0 ≤ left) (hn : 54 + left ≤ n) :
    (m.parseData buf left).trace.Within n := by
  have hc : (Trace.ofCursor ((callTlvData m.tlvId .wild).run (parseCursor buf mngMsgBaseSize left)).2).Within n :=
    Trace.within_ofCursor _ buf _ h0 hn
  unfold Message.parseData
  rcases hr : (callTlvData m.tlvId .wild).run (parseCursor buf mngMsgBaseSize left) with ⟨_ | p, c⟩ <;> rw [hr] at hc
  · exact Trace.within_append.2 ⟨hc, Trace.within_empty n⟩
  · exact Trace.within_append.2 ⟨⟨hc.reads, hc.heads, hc.lefts⟩, Trace.within_empty n⟩

theorem parseErrorDisplay_within (m : Message) (buf : Mem) {left n : Int} (h0 : 0 ≤ left) (hn : 60 + left ≤ n) :
    (m.parseErrorDisplay buf left).trace.Within n := by
  have hp : Checked Failure m.errorDisplay.proc := inferInstanceAs (Checked Failure (proc m.errorDisplay))
  have hc : (Trace.ofCursor (m.errorDisplay.proc.run
    (parseCursor buf (mngHeaderSize + tlvSize + errorTlvSize) left)).2).Within n :=
    Trace.within_ofCursor _ buf _ h0 hn
  unfold Message.parseErrorDisplay
  rcases hr : m.errorDisplay.proc.run
    (parseCursor buf (mngHeaderSize + tlvSize + errorTlvSize) left) with ⟨_ | t, c⟩ <;>
    rw [hr] at hc
  · exact Trace.within_append.2 ⟨hc, Trace.within_empty n⟩
  · exact Trace.within_append.2 ⟨hc, Trace.within_empty n⟩

/-- A parse stays in the message, with the loop's counters on its end, unless it comes to an
ENHANCED_ACCURACY_METRICS TLV that runs over. -/
theorem parse_within_iff (m : Message) (buf : Mem) (n : Int) :
    (m.parse buf n).trace.Within n ↔
      (SigHeader m.prms buf n → ∀ v ∈ (sigWalk m.prms buf n).1, ¬ v.Overruns) := by
  have two {r : List (Nat × Nat)} {k : Nat} (hk : (k : Int) ≤ n) (h : ∀ x ∈ r, x.1 + x.2 ≤ k) :
      ∀ x ∈ r, ((x.1 + x.2 : Nat) : Int) ≤ n := fun x hx => le_trans (by exact_mod_cast h x hx) hk
  cases parse_cases m buf n with
  | sig h =>
    have hn : (44 : Int) ≤ n := h.1
    rw [parse_of_sigHeader m h]
    obtain ⟨-, -, hl, -⟩ := parseSig_walk (m.headed buf) buf n
    constructor
    · intro hw _ v hv hover
      have hw : ((m.headed buf).parseSig buf n).trace.Within n := (Trace.within_append.1 hw).2
      have h0 := hw.lefts (v.outcome m.prms buf).left (by rw [hl]; exact List.mem_map_of_mem hv)
      exact absurd ((v.left_neg_iff m.prms buf).2 hover) (not_lt.2 h0)
    · intro hv
      refine Trace.within_append.2 ⟨Trace.within_reads (two hn (by decide)), ?_⟩
      have hend : (sigBaseSize : Int) + (n - sigBaseSize) = n := by omega
      have h0 : 0 ≤ n - (sigBaseSize : Int) := by simp only [sigBaseSize]; omega
      have hgood : ∀ v ∈ (sigWalk m.prms buf n).1, 0 ≤ (v.outcome m.prms buf).left := fun v hmem =>
        not_lt.1 fun hneg => hv h v hmem ((v.left_neg_iff m.prms buf).1 hneg)
      exact parseSigLoop_within (s := ⟨sigBaseSize, n - sigBaseSize, m.sigTlvs.clear, .empty⟩) _ hend h0
        (Trace.within_empty n) hgood
  | reply action id h =>
    have hn : (54 : Int) ≤ n := h.2.2.2.1
    have hw : (m.parse buf n).trace.Within n := by
      rw [parse_of_mngReply m h]
      refine Trace.within_append.2 ⟨Trace.within_reads (two hn (by decide)), ?_⟩
      by_cases h2 : lengthOf buf = 2
      · rw [if_pos h2]
        exact Trace.within_empty n
      · rw [if_neg h2]
        have := h.2.2.2.2.2.2
        exact parseData_within _ buf (by omega) (by omega)
    exact ⟨fun _ hs => absurd hs (not_sigHeader h.1), fun _ => hw⟩
  | err action id h =>
    have hn : (60 : Int) ≤ n := h.2.2.2.1
    have hw : (m.parse buf n).trace.Within n := by
      rw [parse_of_errReply m h]
      refine Trace.within_append.2 ⟨Trace.within_reads (two hn (by decide)), ?_⟩
      by_cases h9 : 9 < lengthOf buf
      · rw [if_pos h9]
        have := h.2.2.2.2.2.2
        exact parseErrorDisplay_within _ buf (by omega) (by omega)
      · rw [if_neg h9]
        exact Trace.within_empty n
    exact ⟨fun _ hs => absurd hs (not_sigHeader h.1), fun _ => hw⟩
  | refused hs _ _ h => exact ⟨fun _ hn => absurd hn hs, fun _ => h.within⟩

/-- A signaling message with its TLVs. -/
def sigMessage (tlvs : List UInt8) : Mem :=
  .ofList ([0x0c, 2] ++ List.replicate 30 0 ++ [controlFieldDef, logMessageIntervalDef] ++ List.replicate 10 0 ++ tlvs)

/-- Two TLVs, the first of them an ENHANCED_ACCURACY_METRICS of 116 octets: the header of the
second is looked for behind the end of the message. -/
theorem parse_leaves_message : ¬ ∀ (m : Message) (buf : Mem) (n : Int), (m.parse buf n).trace.Within n := by
  intro h
  have hr := (h (.ofParams { (default : MsgParams) with rcvSignaling := true } default)
    (sigMessage ([0x40, 0x01, 0, 116] ++ List.replicate 120 0)) 168).reads (172, 2) (by decide +kernel)
  exact absurd hr (by decide)

/-! ## The pointers stored -/

/-- The pointer was given by the process function of the id, on octets of the message. -/
def Decoded (buf : Mem) (s : MngVals × TlvPtr) : Prop :=
  ∃ t d pos len, newTlv s.1 = some t ∧ ((procTlv t).read (len : Nat) (buf.slice pos len)).val = some d ∧ s.2 = .to d

/-- The id has a process function. -/
def HasDataField (id : MngVals) : Prop := (mngAllVals id).funcs ≠ .NA

instance (id : MngVals) : Decidable (HasDataField id) := by unfold HasDataField; infer_instance

theorem hasDataField_iff (id : MngVals) : HasDataField id ↔ ∃ t, newTlv id = some t ∧ t.id = id := by
  cases id <;> first
    | exact ⟨fun _ => ⟨_, rfl, rfl⟩, fun _ => by decide⟩
    | exact ⟨fun h => absurd rfl h, by rintro ⟨_, h, _⟩; cases h⟩

theorem newTlv_eq_none {id : MngVals} (h : ¬ HasDataField id) : newTlv id = none := by
  cases id <;> first | rfl | exact absurd (by decide) h

theorem hasDataField_id (d : BaseMngTlv) : HasDataField d.id := by
  cases d <;> (rw [BaseMngTlv.id]; decide)

/-- A process function keeps the type of its structure. -/
theorem procTlv_id {t d : BaseMngTlv} {l : Int} {bs : List UInt8} (h : ((procTlv t).read l bs).val = some d) :
    d.id = t.id := by
  have hy : Yields (procTlv t) fun d => d.id = t.id := by
    cases t <;> exact Yields.map fun _ => rfl
  exact hy l bs d h

theorem Decoded.id_eq {buf : Mem} {s : MngVals × TlvPtr} (h : Decoded buf s) : ∃ d, s.2 = .to d ∧ d.id = s.1 := by
  obtain ⟨t, d, pos, len, ht, hd, hs⟩ := h
  obtain ⟨t', ht', hid⟩ := (hasDataField_iff s.1).1 (by
    intro hf
    rw [newTlv_eq_none (by simp [HasDataField, hf])] at ht
    cases ht)
  rw [ht'] at ht
  obtain rfl := Option.some.inj ht
  exact ⟨d, hs, (procTlv_id hd).trans hid⟩

theorem read_callTlvData {id : MngVals} {t : BaseMngTlv} (h : newTlv id = some t) (tlv : TlvPtr) (l : Int)
    (bs : List UInt8) : ((callTlvData id tlv).read l bs).val = ((procTlv t).read l bs).val.map .to := by
  unfold callTlvData
  rw [h]
  exact read_map_val _ _ _ _

/-- The caller's pointer stays as it is. -/
theorem read_callTlvData_none {id : MngVals} (h : ¬ HasDataField id) (tlv : TlvPtr) (l : Int) (bs : List UInt8) :
    ((callTlvData id tlv).read l bs).val = some tlv := by
  unfold callTlvData
  rw [newTlv_eq_none h]
  rfl

theorem decoded_callTlvData_iff (buf : Mem) {id : MngVals} {pos len : Nat} {p : TlvPtr}
    (h : ((callTlvData id .wild).read len (buf.slice pos len)).val = some p) :
    Decoded buf (id, p) ↔ HasDataField id := by
  constructor
  · rintro ⟨t, -, -, -, ht, -⟩ hf
    rw [newTlv_eq_none (by simp [HasDataField, hf])] at ht
    cases ht
  · intro hf
    obtain ⟨t, ht, -⟩ := (hasDataField_iff id).1 hf
    rw [read_callTlvData ht, Option.map_eq_some_iff] at h
    obtain ⟨d, hd, rfl⟩ := h
    exact ⟨t, d, pos, len, ht, hd, rfl⟩

theorem read_MANAGEMENT (spec : ImplementSpecific) (buf : Mem) (pos len : Nat) :
    ((MANAGEMENT_f spec).read len (buf.slice pos len)).val =
      if len < 2 then none
      else match findTlvId (u16 buf pos) spec with
        | none => some none
        | some id => if len = 2 then some none
          else ((callTlvData id .wild).read (len - 2 : Nat) (buf.slice (pos + 2) (len - 2))).val.map
            fun p => some (.MANAGEMENT id p) := by
  have hw : (proc (0 : UInt16) : P UInt16).read len (buf.slice pos len) =
      if (len : Int) < (2 : Nat) then ⟨none, len, buf.slice pos len, none⟩
      else ⟨some (UInt16.ofNat (beNat (Octets.ofList 2 (buf.slice pos len)).val)), len - (2 : Nat),
        (buf.slice pos len).drop 2, none⟩ := by
    change (word (0 : UInt16) : P UInt16).read _ _ = _
    simp only [word, Prog.read]
    rfl
  unfold MANAGEMENT_f
  rw [read_bind, hw]
  by_cases h2 : len < 2
  · rw [if_pos (by exact_mod_cast h2), if_pos h2]
  · have hv : UInt16.ofNat (beNat (Octets.ofList 2 (buf.slice pos len)).val) = u16 buf pos := by
      rw [Mem.ofList_octets buf pos (by omega)]
      rfl
    have hl : (len : Int) - (2 : Nat) = (len - 2 : Nat) := by omega
    rw [if_neg (by exact_mod_cast h2), if_neg h2]
    dsimp only
    rw [hv, Mem.drop_slice buf pos (by omega), hl, read_bind]
    simp only [remaining, Prog.read]
    cases findTlvId (u16 buf pos) spec with
    | none => rfl
    | some id =>
      dsimp only
      by_cases he : len = 2
      · rw [if_neg (by omega), if_pos he]
        rfl
      · rw [if_pos (by omega), if_neg he, bind_pure_comp, read_map_val]

/-- Only a MANAGEMENT TLV stores a pointer. -/
theorem stored_eq_nil (prms : MsgParams) (buf : Mem) {v : Visit} (h : v.tlvType ≠ TlvType.MANAGEMENT) :
    v.stored prms buf = [] := by
  have hn : Yields (procSigTlv prms.implementSpecific v.tlvType) fun o => ∀ t ∈ o, t.stored = [] := by
    unfold procSigTlv
    rw [if_neg h]
    repeat' refine Yields.ite ?_ ?_
    all_goals first
      | exact Yields.map (by rintro d _ ⟨⟩; rfl)
      | exact Yields.pure (by simp)
  unfold Visit.stored
  cases ht : v.tlv prms buf with
  | none => rfl
  | some t => exact hn _ _ _ (Option.join_eq_some_iff.1 ht) t rfl

/-- What a MANAGEMENT TLV stores. -/
theorem stored_management (prms : MsgParams) (buf : Mem) {v : Visit} (h : v.tlvType = TlvType.MANAGEMENT) :
    v.stored prms buf =
      if v.len ≤ 2 then []
      else match findTlvId (u16 buf v.pos) prms.implementSpecific with
        | none => []
        | some id =>
          match ((callTlvData id .wild).read (v.len - 2 : Nat) (buf.slice (v.pos + 2) (v.len - 2))).val with
          | none => []
          | some p => [(id, p)] := by
  have hp : procSigTlv prms.implementSpecific v.tlvType = MANAGEMENT_f prms.implementSpecific := by rw [h]; rfl
  unfold Visit.stored Visit.tlv Visit.outcome
  rw [hp, read_MANAGEMENT]
  by_cases h2 : v.len < 2
  · rw [if_pos h2, if_pos (by omega)]
    rfl
  rw [if_neg h2]
  cases findTlvId (u16 buf v.pos) prms.implementSpecific with
  | none => simp
  | some id =>
    dsimp only
    by_cases he : v.len = 2
    · rw [if_pos he, if_pos (by omega)]
      rfl
    · rw [if_neg he, if_neg (by omega)]
      rcases ((callTlvData id .wild).read (v.len - 2 : Nat) (buf.slice (v.pos + 2) (v.len - 2))).val with _ | p <;> rfl

/-- A pointer that was assigned at all was decoded. -/
theorem decoded_of_stored (prms : MsgParams) (buf : Mem) {v : Visit} {s : MngVals × TlvPtr}
    (hs : s ∈ v.stored prms buf) {d : BaseMngTlv} (hd : s.2 = .to d) : Decoded buf s := by
  by_cases h : v.tlvType = TlvType.MANAGEMENT
  · rw [stored_management prms buf h] at hs
    by_cases h2 : v.len ≤ 2
    · rw [if_pos h2] at hs
      cases hs
    rw [if_neg h2] at hs
    cases hf : findTlvId (u16 buf v.pos) prms.implementSpecific with
    | none => rw [hf] at hs; cases hs
    | some id =>
      rw [hf] at hs
      dsimp only at hs
      cases hv : ((callTlvData id .wild).read (v.len - 2 : Nat) (buf.slice (v.pos + 2) (v.len - 2))).val with
      | none => rw [hv] at hs; cases hs
      | some p =>
        rw [hv] at hs
        obtain rfl := List.mem_singleton.1 hs
        refine (decoded_callTlvData_iff buf hv).2 ?_
        by_contra hn
        rw [read_callTlvData_none hn] at hv
        obtain rfl := Option.some.inj hv
        cases hd
  · rw [stored_eq_nil prms buf h] at hs
    cases hs

theorem visit_decoded_iff (prms : MsgParams) (buf : Mem) (v : Visit) :
    (∀ s ∈ v.stored prms buf, Decoded buf s) ↔ (v.tlvType = TlvType.MANAGEMENT → 2 < v.len →
      ∀ id, findTlvId (u16 buf v.pos) prms.implementSpecific = some id → HasDataField id) := by
  by_cases h : v.tlvType = TlvType.MANAGEMENT
  · rw [stored_management prms buf h]
    by_cases h2 : v.len ≤ 2
    · rw [if_pos h2]
      exact ⟨fun _ _ h' => absurd h' (by omega), by simp⟩
    rw [if_neg h2]
    cases hf : findTlvId (u16 buf v.pos) prms.implementSpecific with
    | none => simp
    | some id =>
      dsimp only
      have hid : (v.tlvType = TlvType.MANAGEMENT → 2 < v.len → ∀ id', some id = some id' → HasDataField id') ↔
          HasDataField id :=
        ⟨fun h' => h' h (by omega) id rfl, fun h' _ _ _ he => by obtain rfl := Option.some.inj he; exact h'⟩
      rw [hid]
      cases hv : ((callTlvData id .wild).read (v.len - 2 : Nat) (buf.slice (v.pos + 2) (v.len - 2))).val with
      | none =>
        have hd : HasDataField id := by
          by_contra hn
          rw [read_callTlvData_none hn] at hv
          cases hv
        exact ⟨fun _ => hd, by simp⟩
      | some p =>
        rw [← decoded_callTlvData_iff buf hv]
        simp
  · rw [stored_eq_nil prms buf h]
    exact ⟨fun _ h' => absurd h' h, by simp⟩

theorem parseData_decoded_iff (m : Message) (buf : Mem) {left : Int} (h0 : 0 ≤ left) :
    (∀ s ∈ (m.parseData buf left).trace.stored, Decoded buf s) ↔ HasDataField m.tlvId := by
  obtain ⟨k, rfl⟩ := Int.eq_ofNat_of_zero_le h0
  obtain ⟨hv, -⟩ := run_parse (callTlvData m.tlvId .wild) (parseCursor buf mngMsgBaseSize k) rfl
  change _ = ((callTlvData m.tlvId .wild).read k (buf.slice mngMsgBaseSize k)).val at hv
  unfold Message.parseData
  rcases hr : (callTlvData m.tlvId .wild).run (parseCursor buf mngMsgBaseSize k) with ⟨_ | p, c⟩ <;> rw [hr] at hv
  · have hd : HasDataField m.tlvId := by
      by_contra hn
      rw [read_callTlvData_none hn] at hv
      cases hv
    exact ⟨fun _ => hd, by simp [Parsed.after, Parsed.ret]⟩
  · rw [← decoded_callTlvData_iff buf hv.symm]
    simp [Parsed.after, Parsed.ret]

/-- No MANAGEMENT TLV that is decoded has data for an id without a dataField. -/
def MngTlvsHaveData (prms : MsgParams) (buf : Mem) (n : Int) : Prop :=
  ∀ v ∈ (sigWalk prms buf n).1, v.tlvType = TlvType.MANAGEMENT → 2 < v.len →
    ∀ id, findTlvId (u16 buf v.pos) prms.implementSpecific = some id → HasDataField id

/-- A parse stores only pointers it has decoded, unless the message holds a dataField for an
id that has none. -/
theorem stored_decoded_iff (m : Message) (buf : Mem) (n : Int) :
    (∀ s ∈ (m.parse buf n).trace.stored, Decoded buf s) ↔
      (∀ action id, MngReply m.prms buf n action id → lengthOf buf ≠ 2 → HasDataField id) ∧
      (SigHeader m.prms buf n → MngTlvsHaveData m.prms buf n) := by
  unfold MngTlvsHaveData
  cases parse_cases m buf n with
  | sig h =>
    have hs : (m.parse buf n).trace.stored = (sigWalk m.prms buf n).1.flatMap (Visit.stored m.prms buf) := by
      rw [parse_of_sigHeader m h]
      exact (parseSig_walk (m.headed buf) buf n).2.2.2
    have hr : ∀ action id, ¬ MngReply m.prms buf n action id := fun _ _ hr => not_sigHeader hr.1 h
    rw [hs]
    simp only [List.mem_flatMap, forall_exists_index, and_imp]
    constructor
    · intro hd
      refine ⟨fun action id hr' => absurd hr' (hr action id), fun _ v hv => ?_⟩
      exact (visit_decoded_iff m.prms buf v).1 fun s hs => hd s v hv hs
    · intro hd s v hv hs
      exact (visit_decoded_iff m.prms buf v).2 (hd.2 h v hv) s hs
  | reply action id h =>
    have hd : (∀ s ∈ (m.parse buf n).trace.stored, Decoded buf s) ↔ (lengthOf buf ≠ 2 → HasDataField id) := by
      rw [parse_of_mngReply m h]
      by_cases h2 : lengthOf buf = 2
      · rw [if_pos h2]
        exact ⟨fun _ hn => absurd h2 hn, fun _ => by simp [Parsed.reading, Parsed.after, Parsed.ret]⟩
      · rw [if_neg h2]
        have hp := parseData_decoded_iff (m.replied buf action id) buf
          (show 0 ≤ lengthOf buf - 2 by have := h.2.2.2.2.2.2.1; omega)
        exact ⟨fun hs _ => hp.1 hs, fun hs => hp.2 (hs h2)⟩
    rw [hd]
    refine ⟨fun hf => ⟨fun action' id' h' h2 => ?_, fun hs => absurd hs (not_sigHeader h.1)⟩,
      fun hf => hf.1 action id h⟩
    rw [(mngReply_unique h h').2]
    exact hf h2
  | err action id h =>
    have hs : (m.parse buf n).trace.stored = [] := by
      rw [parse_of_errReply m h]
      split
      · unfold Message.parseErrorDisplay
        rcases (m.failed buf action id).errorDisplay.proc.run _ with ⟨_ | t, c⟩ <;> rfl
      · rfl
    rw [hs]
    exact ⟨fun _ => ⟨fun _ _ hr => absurd h (not_errReply hr), fun hn => absurd hn (not_sigHeader h.1)⟩, by simp⟩
  | refused hs hr _ h =>
    rw [h.stored]
    exact ⟨fun _ => ⟨fun action id hr' => absurd hr' (hr action id), fun hn => absurd hn hs⟩, by simp⟩

/-- A management message with its TLV. -/
def mngMessage (action : ActionField) (tlv : List UInt8) : Mem :=
  .ofList ([0x0d, 2] ++ List.replicate 30 0 ++ [controlFieldMng, logMessageIntervalDef] ++ List.replicate 12 0 ++
    [action.val, 0] ++ tlv)

/-- A NULL_PTP_MANAGEMENT reply with two octets of data. -/
theorem parse_stores_wild :
    ¬ ∀ (m : Message) (buf : Mem) (n : Int), ∀ s ∈ (m.parse buf n).trace.stored, Decoded buf s := by
  intro h
  have hs : ((Message.new default).parse (mngMessage .RESPONSE [0, 1, 0, 4, 0, 0, 0, 0]) 56).trace.stored =
      [(.NULL_PTP_MANAGEMENT, .wild)] := rfl
  obtain ⟨t, d, pos, len, -, -, hw⟩ := h (.new default) (mngMessage .RESPONSE [0, 1, 0, 4, 0, 0, 0, 0]) 56
    (.NULL_PTP_MANAGEMENT, .wild) (by rw [hs]; exact List.mem_singleton_self _)
  cases hw

end LibPmc
