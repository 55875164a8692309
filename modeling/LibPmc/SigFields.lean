import LibPmc.Transport
import LibPmc.Signaling
/-!
# What a signaling message shows of its TLVs

The values that a TLV is decoded to, for two TLVs that are decoded otherwise than they are
laid out, and the traversal of the TLVs with a callback.
-/
namespace LibPmc

open Wire Wire.Prog

/-! ## The TLV at a place -/

/-- The octets from `cur` on are a TLV. -/
structure TlvAt (buf : Mem) (cur : Nat) (tlvType : UInt16) (value : List UInt8) : Prop where
  tlvType : u16 buf cur = tlvType
  lengthField : (u16 buf (cur + 2)).toNat = value.length
  value : buf.slice (cur + tlvSize) value.length = value

/-- The structure that the loop stores for the TLV at `cur`. -/
def Message.storedAt (m : Message) (buf : Mem) (n : Int) (cur : Nat) : Option BaseSigTlv :=
  ((sigWalk m.prms buf n).1.find? fun v => v.pos = cur + tlvSize).bind fun v => v.tlv m.prms buf

/-- The loop takes type and length of a TLV from in front of its value. -/
theorem mem_walk {prms : MsgParams} {buf : Mem} {fuel cur : Nat} {leftAll : Int} {v : Visit}
    (h : v ∈ (walk prms buf fuel cur leftAll).1) : ∃ c, v = ⟨u16 buf c, c + tlvSize, (u16 buf (c + 2)).toNat⟩ := by
  induction fuel generalizing cur leftAll with
  | zero => cases h
  | succ fuel ih =>
    unfold walk at h
    dsimp only at h
    split at h
    · cases h
    split at h
    · cases h
    split at h
    · exact ih h
    split at h
    · exact ⟨cur, List.mem_singleton.1 h⟩
    · rcases List.mem_cons.1 h with h | h
      · exact ⟨cur, h⟩
      · exact ih h

/-- What is stored for a TLV is what its process function makes of its value. -/
theorem storedAt_read {m : Message} {buf : Mem} {n : Int} {cur : Nat} {tlvType : UInt16}
    {value : List UInt8} {tlv : BaseSigTlv}
    (ht : TlvAt buf cur tlvType value) (h : m.storedAt buf n cur = some tlv) :
    ((procSigTlv m.prms.implementSpecific tlvType).read value.length value).val = some (some tlv) := by
  obtain ⟨v, hv, htlv⟩ := Option.bind_eq_some_iff.1 h
  obtain ⟨c, rfl⟩ := mem_walk (List.mem_of_find?_eq_some hv)
  have hc : c = cur := by simpa using List.find?_some hv
  subst hc
  have ho := Option.join_eq_some_iff.1 htlv
  unfold Visit.outcome at ho
  dsimp only at ho
  rw [ht.tlvType, ht.lengthField, ht.value] at ho
  exact ho

/-- The octets of a word. -/
def wordOctets {α : Type} [Word α] (a : α) : List UInt8 := beOctets (Word.width α) (Word.toNat a)

theorem read_word {α : Type} [Word α] (v : α) (l : Int) (bs : List UInt8) : (proc v : P α).read l bs =
    if l < Word.width α then ⟨none, l, bs, none⟩
    else ⟨some (Word.ofNat (beNat (Octets.ofList (Word.width α) bs).val)), l - Word.width α,
      bs.drop (Word.width α), none⟩ := rfl

/-- What reads a word first has that word, and reads on behind it. -/
theorem read_word_bind {α β : Type} [Word α] {v : α} {f : α → P β} {l : Int} {bs : List UInt8} {b : β}
    (h : ((proc v >>= f).read l bs).val = some b) : (Word.width α : Int) ≤ l ∧
      ((f (Word.ofNat (beNat (Octets.ofList (Word.width α) bs).val))).read
        (l - Word.width α) (bs.drop (Word.width α))).val = some b := by
  rw [read_bind, read_word] at h
  by_cases hl : l < Word.width α
  · rw [if_pos hl] at h
    cases h
  · rw [if_neg hl] at h
    exact ⟨not_lt.1 hl, h⟩

/-! ## ENHANCED_ACCURACY_METRICS -/

/-- The 84 octets of the fields, with the reserved octets `r` and `r'`. -/
def ENHANCED_ACCURACY_METRICS_t.octets (d : ENHANCED_ACCURACY_METRICS_t) (r r' : UInt8) : List UInt8 :=
  [d.bcHopCount, d.tcHopCount, r, r'] ++
    wordOctets d.maxGmInaccuracy.scaledNanoseconds ++ wordOctets d.varGmInaccuracy.bits ++
    wordOctets d.maxTransientInaccuracy.scaledNanoseconds ++ wordOctets d.varTransientInaccuracy.bits ++
    wordOctets d.maxDynamicInaccuracy.scaledNanoseconds ++ wordOctets d.varDynamicInaccuracy.bits ++
    wordOctets d.maxStaticInstanceInaccuracy.scaledNanoseconds ++ wordOctets d.varStaticInstanceInaccuracy.bits ++
    wordOctets d.maxStaticMediumInaccuracy.scaledNanoseconds ++ wordOctets d.varStaticMediumInaccuracy.bits

theorem length_metrics (d : ENHANCED_ACCURACY_METRICS_t) (r r' : UInt8) : (d.octets r r').length = 84 := by
  simp [ENHANCED_ACCURACY_METRICS_t.octets, wordOctets, Word.width]

/-- The TLV at `cur` is decoded to its fields, each double from its 8 octets. -/
structure MetricsDecoded (m : Message) (buf : Mem) (n : Int) (cur : Nat) (d : ENHANCED_ACCURACY_METRICS_t) : Prop where
  err : (m.parse buf n).err = .SIG
  stored : m.storedAt buf n cur = some (.ENHANCED_ACCURACY_METRICS d)
  takes : ∀ (v : Float64_t) (l : Int) (bs : List UInt8), 8 ≤ l → ((proc v : P Float64_t).read l bs).left = l - 8

/-- The 84 octets are too few. -/
theorem read_metrics (spec : ImplementSpecific) {value : List UInt8} (h : value.length < 116) :
    ((procSigTlv spec TlvType.ENHANCED_ACCURACY_METRICS).read value.length value).val = none := by
  have hm := (read_ENHANCED_ACCURACY_METRICS value.length value (Int.natCast_nonneg _)).2.1
  rw [procSigTlv_metrics, read_map_val, Option.map_eq_none_iff, ← Option.not_isSome_iff_eq_none, hm]
  omega

/-- No TLV of these fields is decoded. -/
theorem metrics_not_decoded (m : Message) (buf : Mem) (n : Int) (cur : Nat)
    (d : ENHANCED_ACCURACY_METRICS_t) (r r' : UInt8)
    (ht : TlvAt buf cur TlvType.ENHANCED_ACCURACY_METRICS (d.octets r r')) : ¬ MetricsDecoded m buf n cur d := by
  intro h
  have hr := storedAt_read ht h.stored
  rw [read_metrics _ (by rw [length_metrics]; decide)] at hr
  cases hr

/-- A message that starts with one is refused. -/
theorem metrics_refused (m : Message) {buf : Mem} {n : Int} (d : ENHANCED_ACCURACY_METRICS_t) (r r' : UInt8)
    (hh : SigHeader m.prms buf n) (hs : m.prms.skips TlvType.ENHANCED_ACCURACY_METRICS = false) (hn : 132 ≤ n)
    (ht : TlvAt buf 44 TlvType.ENHANCED_ACCURACY_METRICS (d.octets r r')) : Failure (m.parse buf n).err := by
  have hlen : (u16 buf (sigBaseSize + 2)).toNat = 84 := ht.lengthField.trans (length_metrics d r r')
  have hval : buf.slice (sigBaseSize + tlvSize) 84 = d.octets r r' := by
    rw [← length_metrics d r r']
    exact ht.value
  have ho : (Visit.outcome m.prms buf
      ⟨u16 buf sigBaseSize, sigBaseSize + tlvSize, (u16 buf (sigBaseSize + 2)).toNat⟩).val = none := by
    have hr := read_metrics m.prms.implementSpecific (show (d.octets r r').length < 116 by rw [length_metrics]; decide)
    unfold Visit.outcome
    dsimp only
    rw [show u16 buf sigBaseSize = _ from ht.tlvType, hlen, hval]
    rw [length_metrics] at hr
    exact hr
  rw [(parse_sigTlvs m hh).1]
  unfold sigWalk walk
  dsimp only
  rw [if_neg (by simp only [sigBaseSize, tlvSize]; omega),
    if_neg (by rw [hlen]; simp only [sigBaseSize, tlvSize]; omega),
    show m.prms.skips (u16 buf sigBaseSize) = false from ht.tlvType ▸ hs, if_neg (by simp), ho]
  exact Visit.outcome_err m.prms buf _

/-- Metrics of which no two fields are alike, with the doubles 1 to 5. -/
def someMetrics : ENHANCED_ACCURACY_METRICS_t :=
  ⟨1, 2, ⟨300⟩, ⟨0x3ff0000000000000⟩, ⟨-400⟩, ⟨0x4000000000000000⟩, ⟨500⟩, ⟨0x4008000000000000⟩, ⟨600⟩,
  ⟨0x4010000000000000⟩,
    ⟨-700⟩, ⟨0x4014000000000000⟩⟩

/-- A message with a TLV of them. -/
def metricsMessage : Mem := sigMessage ([0x40, 0x01, 0, 84] ++ someMetrics.octets 0 0)

theorem metrics_at_44 : TlvAt metricsMessage 44 TlvType.ENHANCED_ACCURACY_METRICS (someMetrics.octets 0 0) :=
  ⟨by decide, by decide, by decide⟩

theorem someMetrics_not_decoded : ¬ MetricsDecoded sigReceiver metricsMessage 132 44 someMetrics :=
  metrics_not_decoded sigReceiver metricsMessage 132 44 someMetrics 0 0 metrics_at_44

/-- It is refused as too small. -/
theorem someMetrics_refused : (sigReceiver.parse metricsMessage 132).err = .TOO_SMALL ∧
    ¬ ∀ (m : Message) (buf : Mem) (n : Int) (d : ENHANCED_ACCURACY_METRICS_t), SigHeader m.prms buf n →
      m.prms.skips TlvType.ENHANCED_ACCURACY_METRICS = false →
      TlvAt buf 44 TlvType.ENHANCED_ACCURACY_METRICS (d.octets 0 0) → n = 132 → MetricsDecoded m buf n 44 d := by
  have he : (sigReceiver.parse metricsMessage 132).err = .TOO_SMALL := by decide +kernel
  refine ⟨he, fun h => ?_⟩
  have hh : SigHeader sigReceiver.prms metricsMessage 132 :=
    ⟨by decide, rfl, by decide, by decide, by decide, by decide⟩
  have hd := h sigReceiver metricsMessage 132 someMetrics hh rfl metrics_at_44 rfl
  cases he.symm.trans hd.err

/-! ## ALTERNATE_TIME_OFFSET_INDICATOR -/

/-- The octets of the fields, with the time of the next jump in 6 of them. -/
def ALTERNATE_TIME_OFFSET_INDICATOR_t.octets (d : ALTERNATE_TIME_OFFSET_INDICATOR_t) : List UInt8 :=
  [d.keyField] ++ wordOctets d.currentOffset ++ wordOctets d.jumpSeconds ++ beOctets 6 d.timeOfNextJump.toNat ++
    [UInt8.ofNat d.displayName.textField.length] ++ d.displayName.textField

/-- The fields are in the ranges of their types. -/
structure ALTERNATE_TIME_OFFSET_INDICATOR_t.WellFormed (d : ALTERNATE_TIME_OFFSET_INDICATOR_t) : Prop where
  timeOfNextJump : d.timeOfNextJump ≤ UINT48_MAX
  textField : d.displayName.textField.length < 256
  lengthField : d.displayName.lengthField.toNat = d.displayName.textField.length

/-- The TLV at `cur` is decoded to its fields. -/
structure IndicatorDecoded (m : Message) (buf : Mem) (n : Int) (cur : Nat)
    (d : ALTERNATE_TIME_OFFSET_INDICATOR_t) : Prop where
  err : (m.parse buf n).err = .SIG
  stored : m.storedAt buf n cur = some (.ALTERNATE_TIME_OFFSET_INDICATOR d)

/-- The time of the next jump is read from 8 octets. -/
theorem read_indicator {l : Int} {bs : List UInt8} {d : ALTERNATE_TIME_OFFSET_INDICATOR_t}
    (h : ((ALTERNATE_TIME_OFFSET_INDICATOR_f default).read l bs).val = some d) :
    17 ≤ l ∧ d.timeOfNextJump = UInt64.ofNat (beNat (Octets.ofList 8 (bs.drop 9)).val) := by
  unfold ALTERNATE_TIME_OFFSET_INDICATOR_f at h
  -- each word is there, or the function fails
  obtain ⟨-, h⟩ := read_word_bind h
  obtain ⟨-, h⟩ := read_word_bind h
  obtain ⟨-, h⟩ := read_word_bind h
  obtain ⟨hl, h⟩ := read_word_bind h
  rw [bind_pure_comp, read_map_val, Option.map_eq_some_iff] at h
  obtain ⟨t, -, rfl⟩ := h
  simp only [Word.width] at hl
  refine ⟨by omega, ?_⟩
  simp only [List.drop_drop]
  rfl

theorem length_indicator (d : ALTERNATE_TIME_OFFSET_INDICATOR_t) :
    d.octets.length = 16 + d.displayName.textField.length := by
  simp [ALTERNATE_TIME_OFFSET_INDICATOR_t.octets, wordOctets, Word.width]
  omega

/-- These are the octets of the time, the length of the text and its first octet. -/
theorem octets_indicator {d : ALTERNATE_TIME_OFFSET_INDICATOR_t} {c : UInt8} {text : List UInt8}
    (h : d.displayName.textField = c :: text) : (Octets.ofList 8 (d.octets.drop 9)).val =
      beOctets 6 d.timeOfNextJump.toNat ++ [UInt8.ofNat d.displayName.textField.length, c] := by
  have hsplit : d.octets = ([d.keyField] ++ wordOctets d.currentOffset ++ wordOctets d.jumpSeconds) ++
      ((beOctets 6 d.timeOfNextJump.toNat ++ [UInt8.ofNat d.displayName.textField.length, c]) ++ text) := by
    simp [ALTERNATE_TIME_OFFSET_INDICATOR_t.octets, h]
  rw [Octets.ofList_val (by rw [List.length_drop, length_indicator, h, List.length_cons]; omega), hsplit,
    List.drop_left' (by simp [wordOctets, Word.width]), List.take_left' (by simp)]

/-- Behind the 6 octets of the time the text's length and its first octet are taken for more of it. -/
theorem indicator_not_decoded (m : Message) (buf : Mem) (n : Int) (cur : Nat) (d : ALTERNATE_TIME_OFFSET_INDICATOR_t)
    (hd : d.WellFormed) (ht : TlvAt buf cur TlvType.ALTERNATE_TIME_OFFSET_INDICATOR d.octets) :
    ¬ IndicatorDecoded m buf n cur d := by
  intro h
  have hr := storedAt_read ht h.stored
  change (((fun d => some (BaseSigTlv.ALTERNATE_TIME_OFFSET_INDICATOR d)) <$>
    ALTERNATE_TIME_OFFSET_INDICATOR_f default).read
    d.octets.length d.octets).val = _ at hr
  rw [read_map_val, Option.map_eq_some_iff] at hr
  obtain ⟨d', hd', he⟩ := hr
  obtain rfl : d' = d := by
    cases he
    rfl
  obtain ⟨hl, hj⟩ := read_indicator hd'
  -- without a text there are no 8 octets
  obtain ⟨c, text, htext⟩ : ∃ c text, d'.displayName.textField = c :: text :=
    List.exists_cons_of_ne_nil fun hnil => by
      rw [length_indicator, hnil] at hl
      exact absurd hl (by decide)
  have h48 : d'.timeOfNextJump.toNat < 256 ^ 6 :=
    lt_of_le_of_lt (UInt64.le_iff_toNat_le.1 hd.timeOfNextJump) (by decide)
  have hn := congrArg UInt64.toNat hj
  have hsmall := beNat_lt (Octets.ofList 8 (d'.octets.drop 9)).val
  rw [(Octets.ofList 8 (d'.octets.drop 9)).2] at hsmall
  rw [UInt64.toNat_ofNat_of_lt' hsmall, octets_indicator htext, beNat_append, beNat_beOctets_of_lt h48] at hn
  have htl : (UInt8.ofNat d'.displayName.textField.length).toNat = d'.displayName.textField.length := by
    simpa using hd.textField
  have hpos : 0 < d'.displayName.textField.length := by simp [htext]
  -- the time would be 65536 times itself, and more by the length and the octet
  simp only [beNat, List.length_cons, List.length_nil, htl] at hn
  omega

/-- A time zone of three letters. -/
def indicatorPst : ALTERNATE_TIME_OFFSET_INDICATOR_t where
  keyField := 1
  currentOffset := -28800
  jumpSeconds := 3600
  timeOfNextJump := 1741514400
  displayName := ⟨3, [80, 83, 84]⟩

theorem indicatorPst_wellFormed : indicatorPst.WellFormed := ⟨by decide, by decide, by decide⟩

/-- A message with its TLV. -/
def indicatorMessage : Mem := sigMessage ([0x00, 0x09, 0, 19] ++ indicatorPst.octets)

theorem indicator_at_44 : TlvAt indicatorMessage 44 TlvType.ALTERNATE_TIME_OFFSET_INDICATOR indicatorPst.octets :=
  ⟨by decide, by decide, by decide⟩

theorem indicator_not_decoded_pst : ¬ IndicatorDecoded sigReceiver indicatorMessage 67 44 indicatorPst :=
  indicator_not_decoded sigReceiver indicatorMessage 67 44 indicatorPst indicatorPst_wellFormed indicator_at_44

/-- Its last letter is taken for the length of a text that is not there. -/
theorem indicator_refused_pst : (sigReceiver.parse indicatorMessage 67).err = .TOO_SMALL ∧
    ¬ ∀ (m : Message) (buf : Mem) (n : Int) (d : ALTERNATE_TIME_OFFSET_INDICATOR_t), d.WellFormed →
      SigHeader m.prms buf n →
      m.prms.skips TlvType.ALTERNATE_TIME_OFFSET_INDICATOR = false →
      TlvAt buf 44 TlvType.ALTERNATE_TIME_OFFSET_INDICATOR d.octets → n = 48 + d.octets.length →
        IndicatorDecoded m buf n 44 d := by
  have he : (sigReceiver.parse indicatorMessage 67).err = .TOO_SMALL := by decide +kernel
  refine ⟨he, fun h => ?_⟩
  have hd := h sigReceiver indicatorMessage 67 indicatorPst indicatorPst_wellFormed
    ⟨by decide, rfl, by decide, by decide, by decide, by decide⟩ rfl indicator_at_44 (by decide)
  cases he.symm.trans hd.err

/-! ## The traversal -/

/-- Call after call until one returns true: the result, the state the calls leave, and the
calls made. -/
def callUntil {σ C : Type} (callback : C → σ → Bool × σ) : List C → σ → Bool × σ × List C
  | [], s => (false, s, [])
  | c :: rest, s =>
    match callback c s with
    | (true, s) => (true, s, [c])
    | (false, s) =>
      let (b, s, calls) := callUntil callback rest s
      (b, s, c :: calls)

section Traversal
variable {σ : Type} (m : Message) (callback : Message → UInt16 → Option BaseSigTlv → σ → Bool × σ) (s : σ)

/-- Each call gets the members of a copy of the record. A callback may have a state. -/
def Message.traversSigTlvs : Bool × σ × List (UInt16 × Option BaseSigTlv) :=
  if m.type = MsgType.Signaling then
    callUntil (fun c => callback m c.1 c.2) (m.sigTlvs.recs.map fun r => (r.copy.tlvType, r.copy.tlv)) s
  else (false, s, [])

/-- The calls are the ones with what the getters give at 0, 1 and so on, with a structure each. -/
structure TraversalAgrees : Prop where
  agrees : m.traversSigTlvs callback s =
    callUntil (fun c => callback m c.1 c.2)
      ((List.range m.getSigTlvsCount).map fun i => (m.getSigTlvType i, m.getSigTlv i)) s
  decoded : ∀ c ∈ (m.traversSigTlvs callback s).2.2, c.2 ≠ none

theorem callUntil_cons {C : Type} (cb : C → σ → Bool × σ) (c : C) (l : List C) :
    c ∈ (callUntil cb (c :: l) s).2.2 := by
  unfold callUntil
  rcases cb c s with ⟨_ | _, t⟩
  · exact List.mem_cons_self
  · exact List.mem_singleton_self c

/-- The first call gets a null pointer, so there must be none. -/
theorem traversal_agrees_iff : TraversalAgrees m callback s ↔ m.getSigTlvsCount = 0 := by
  constructor
  · intro h
    by_contra hc
    have ht : m.type = MsgType.Signaling := by
      by_contra ht
      exact hc (if_neg ht)
    rw [Message.count_eq ht] at hc
    obtain ⟨r, l, hr⟩ := List.exists_cons_of_ne_nil (List.ne_nil_of_length_pos (Nat.pos_of_ne_zero hc))
    -- the first call gets the null pointer of a copy
    refine h.decoded (r.copy.tlvType, r.copy.tlv) ?_ rfl
    unfold Message.traversSigTlvs
    rw [if_pos ht, hr]
    exact callUntil_cons s _ _ _
  · intro hc
    have htr : m.traversSigTlvs callback s = (false, s, []) := by
      unfold Message.traversSigTlvs
      split
      next ht =>
        rw [Message.count_eq ht] at hc
        rw [List.eq_nil_of_length_eq_zero hc]
        rfl
      next => rfl
    refine ⟨?_, ?_⟩
    · rw [htr, hc]
      rfl
    · rw [htr]
      intro c hc
      cases hc

end Traversal

/-- The CUMULATIVE_RATE_RATIO TLV that the getter gives is passed as a null pointer. -/
theorem traversal_passes_null :
    let m := (sigReceiver.parse (sigMessage [0x80, 0x07, 0, 4, 1, 2, 3, 4]) 52).msg
    let callback : Message → UInt16 → Option BaseSigTlv → Unit → Bool × Unit := fun _ _ _ s => (false, s)
    m.getSigTlvsCount = 1 ∧ (m.getSigTlv 0).isSome = true ∧
      (m.traversSigTlvs callback ()).2.2.map (fun c => (c.1, c.2.isSome)) = [(0x8007, false)] ∧
      ¬ TraversalAgrees m callback () := by
  intro m callback
  refine ⟨by decide +kernel, by decide +kernel, by decide +kernel, fun h => ?_⟩
  exact h.decoded (0x8007, none) (List.mem_singleton.2 rfl) rfl

end LibPmc
