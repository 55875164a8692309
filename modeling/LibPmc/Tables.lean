import LibPmc.Wire.Table
import LibPmc.Echo
import LibPmc.Emit
import LibPmc.SigFields
/-!
# The lists of records in a TLV

The octets of each record, and that its process function parses them and nothing else. From
this, what the TLVs with a counted table and those with an open list are decoded to.
-/
namespace LibPmc

open Wire Wire.Prog

/-! ## The octets of the records -/

/-- The octets of a value, which values are complete, and that those are what `proc` parses. -/
class Layout (α : Type) [Proc α] where
  octets : α → List UInt8
  Complete : α → Prop
  format : ∀ v : α, Format (proc v) octets Complete

export Layout (octets Complete format)

instance {α : Type} [Word α] : Layout α where
  octets := wordOctets
  Complete _ := True
  format v := ⟨(Parses.word v).mono fun _ _ h => ⟨trivial, h.octets.symm.trans (Builds.word _).octets⟩,
    fun a _ => Gives.word v a⟩

instance {n : Nat} : Layout (Octets n) where
  octets v := v.val
  Complete _ := True
  format v := ⟨(Parses.array v).mono fun _ _ h => ⟨trivial, h.octets.symm.trans (Builds.array _).octets⟩,
    fun a _ => Gives.array v a⟩

instance : Layout TimeInterval_t where
  octets v := octets v.scaledNanoseconds
  Complete _ := True
  format v := ⟨Parses.map ((format v.scaledNanoseconds).sound.mono fun _ _ h => ⟨trivial, h.2⟩),
    fun a _ => ((format v.scaledNanoseconds).complete a.scaledNanoseconds trivial).map⟩

instance : Layout ClockIdentity_t where
  octets v := octets v.v
  Complete _ := True
  format v := ⟨Parses.map ((format v.v).sound.mono fun _ _ h => ⟨trivial, h.2⟩),
    fun a _ => ((format v.v).complete a.v trivial).map⟩

/-- A longer number starts with the octets of its high part. -/
theorem beOctets_add (w k n : Nat) : beOctets (w + k) n = beOctets w (n / 256 ^ k) ++ beOctets k n := by
  induction w with
  | zero => simp [beOctets]
  | succ w ih =>
    rw [Nat.succ_add, beOctets, beOctets, ih, Nat.div_div_eq_div_mul, ← pow_add, Nat.add_comm k w, List.cons_append]

theorem octets48 (v : UInt64) :
    beOctets 6 v.toNat = wordOctets (v >>> 32).toUInt16 ++ wordOctets v.toUInt32 := by
  have hh : (v >>> 32).toUInt16.toNat = v.toNat / 256 ^ 4 % 256 ^ 2 := by
    simp [Nat.shiftRight_eq_div_pow]
  have hl : v.toUInt32.toNat = v.toNat % 256 ^ 4 := by simp
  change _ = beOctets 2 (v >>> 32).toUInt16.toNat ++ beOctets 4 v.toUInt32.toNat
  rw [hh, hl, beOctets_mod _ _ _ (le_refl _), beOctets_mod _ _ _ (le_refl _)]
  exact beOctets_add 2 4 v.toNat

theorem format48 (v : UInt64) : Format (proc48 v) (fun a => beOctets 6 a.toNat) (· ≤ UINT48_MAX) where
  sound := by
    refine Parses.building ?_
    rw [if_neg (by simp)]
    refine (format _).sound.bind fun high o hh => (format _).sound.bind fun low o' hl => .pure ?_
    obtain ⟨hle, hhigh, hlow⟩ := split48 high low
    rw [if_neg (by simp)]
    refine ⟨hle, ?_⟩
    rw [octets48, hhigh, hlow, hh.2, hl.2, List.append_nil]
    rfl
  complete a ha := by
    refine Gives.building ?_
    rw [if_neg (by simp), octets48]
    refine ((format _).complete (a >>> 32).toUInt16 trivial).bind ?_
    have hl : Gives (proc v.toUInt32 : P UInt32) (wordOctets a.toUInt32) a.toUInt32 :=
      (format v.toUInt32).complete a.toUInt32 trivial
    have h := hl.map (f := fun low => low.toUInt64 ||| ((a >>> 32).toUInt16.toUInt64 <<< 32))
    rw [join48 ha] at h
    simpa using h

instance : Layout Timestamp_t where
  octets d := beOctets 6 d.secondsField.toNat ++ octets d.nanosecondsField
  Complete d := d.secondsField ≤ UINT48_MAX
  format v := by
    change Format v.proc _ _
    unfold Timestamp_t.proc
    refine ⟨(format48 _).sound.bind fun _ _ hs => (format _).sound.bind fun _ _ hn => .pure ?_, fun a ha => ?_⟩
    · exact ⟨hs.1, by rw [hs.2, hn.2, List.append_nil]⟩
    · exact ((format48 _).complete _ ha).bind ((format _).complete a.nanosecondsField trivial).map

instance : Layout PortIdentity_t where
  octets d := octets d.clockIdentity ++ octets d.portNumber
  Complete _ := True
  format v := by
    change Format v.proc _ _
    unfold PortIdentity_t.proc
    refine ⟨(format _).sound.bind fun _ _ hc => (format _).sound.bind fun _ _ hn => .pure ?_, fun a _ => ?_⟩
    · exact ⟨trivial, by rw [hc.2, hn.2, List.append_nil]⟩
    · exact ((format _).complete a.clockIdentity trivial).bind ((format _).complete a.portNumber trivial).map

/-- A text or binary of the length given, as its octets. -/
theorem gives_string (str a : List UInt8) {len : UInt16} (h : a.length = len.toNat) : Gives (procString str len) a a :=
  .building (.xfer h rfl)

theorem gives_binary (bin a : List UInt8) {len : UInt16} (h : a.length = len.toNat) : Gives (procBinary bin len) a a :=
  .building (.xfer h rfl)

instance : Layout PTPText_t where
  octets d := octets d.lengthField ++ d.textField
  Complete d := d.textField.length = d.lengthField.toNat
  format v := by
    change Format v.proc _ _
    unfold PTPText_t.proc
    refine ⟨(format _).sound.bind fun len _ hl => (parses_string _ _).bind fun _ str hs => .pure ?_, fun a ha => ?_⟩
    · obtain ⟨hlen, rfl, -⟩ := hs
      exact ⟨by simpa using hlen, by rw [hl.2, List.append_nil]⟩
    · exact ((format _).complete a.lengthField trivial).bind (gives_string _ a.textField (by simpa using ha)).map

instance : Layout PortAddress_t where
  octets d := octets d.networkProtocol ++ (octets d.addressLength ++ d.addressField)
  Complete d := d.addressField.length = d.addressLength.toNat
  format v := by
    change Format v.proc _ _
    unfold PortAddress_t.proc
    refine ⟨(format _).sound.bind fun _ _ hp => (format _).sound.bind fun len _ hl =>
      (parses_binary _ _).bind fun _ bin hs => .pure ?_, fun a ha => ?_⟩
    · obtain ⟨hlen, rfl, -⟩ := hs
      exact ⟨hlen, by rw [hp.2, hl.2, List.append_nil]⟩
    · exact ((format _).complete a.networkProtocol trivial).bind
        (((format _).complete a.addressLength trivial).bind (gives_binary _ a.addressField ha).map)

/-- The length a fault record has to state. -/
def FaultRecord_t.LengthStated (d : FaultRecord_t) : Prop :=
  d.faultRecordLength.toNat =
    16 + d.faultName.lengthField.toNat + d.faultValue.lengthField.toNat + d.faultDescription.lengthField.toNat

instance : Layout FaultRecord_t where
  octets d := octets d.faultRecordLength ++ (octets d.faultTime ++ (octets d.severityCode ++
    (octets d.faultName ++ (octets d.faultValue ++ octets d.faultDescription))))
  Complete d := Complete d.faultTime ∧ Complete d.faultName ∧ Complete d.faultValue ∧ Complete d.faultDescription ∧
    d.LengthStated
  format v := by
    change Format v.proc _ _
    unfold FaultRecord_t.proc
    refine ⟨(format _).sound.bind fun len _ hl => (format _).sound.bind fun _ _ ht =>
      (format _).sound.bind fun _ _ hs =>
      (format _).sound.bind fun name _ hn => (format _).sound.bind fun value _ hv =>
      (format _).sound.bind fun descr _ hd => ?_, fun a ⟨ht, hn, hv, hd, hlen⟩ => ?_⟩
    · by_cases hlen : len.toNat ≠ 16 + name.lengthField.toNat + value.lengthField.toNat + descr.lengthField.toNat
      · rw [if_pos hlen]
        exact .fail
      · rw [if_neg hlen]
        refine .pure ⟨⟨ht.1, hn.1, hv.1, hd.1, not_not.1 hlen⟩, ?_⟩
        rw [hl.2, ht.2, hs.2, hn.2, hv.2, hd.2, List.append_nil]
    · refine ((format _).complete a.faultRecordLength trivial).bind (((format _).complete a.faultTime ht).bind
        (((format _).complete a.severityCode trivial).bind (((format _).complete a.faultName hn).bind
        (((format _).complete a.faultValue hv).bind ?_))))
      -- the check behind the description takes no octets
      rw [← List.append_nil (octets a.faultDescription)]
      refine ((format _).complete a.faultDescription hd).bind ?_
      rw [if_neg fun hne => hne hlen]
      exact .pure a

instance : Layout AcceptableMaster_t where
  octets d := octets d.acceptablePortIdentity ++ octets d.alternatePriority1
  Complete _ := True
  format v := by
    change Format v.proc _ _
    unfold AcceptableMaster_t.proc
    refine ⟨(format _).sound.bind fun _ _ hi => (format _).sound.bind fun _ _ hp => .pure ?_, fun a _ => ?_⟩
    · exact ⟨trivial, by rw [hi.2, hp.2, List.append_nil]⟩
    · exact ((format _).complete a.acceptablePortIdentity trivial).bind
        ((format _).complete a.alternatePriority1 trivial).map

instance : Layout SLAVE_RX_SYNC_TIMING_DATA_rec_t where
  octets d := octets d.sequenceId ++ (octets d.syncOriginTimestamp ++ (octets d.totalCorrectionField ++
    (octets d.scaledCumulativeRateOffset ++ octets d.syncEventIngressTimestamp)))
  Complete d := Complete d.syncOriginTimestamp ∧ Complete d.syncEventIngressTimestamp
  format v := by
    change Format v.proc _ _
    unfold SLAVE_RX_SYNC_TIMING_DATA_rec_t.proc
    refine ⟨(format _).sound.bind fun _ _ hs => (format _).sound.bind fun _ _ ho => (format _).sound.bind fun _ _ hc =>
      (format _).sound.bind fun _ _ hr => (format _).sound.bind fun _ _ hi => .pure ?_, fun a ⟨ho, hi⟩ => ?_⟩
    · exact ⟨⟨ho.1, hi.1⟩, by rw [hs.2, ho.2, hc.2, hr.2, hi.2, List.append_nil]⟩
    · exact ((format _).complete a.sequenceId trivial).bind (((format _).complete a.syncOriginTimestamp ho).bind
        (((format _).complete a.totalCorrectionField trivial).bind
        (((format _).complete a.scaledCumulativeRateOffset trivial).bind
        ((format _).complete a.syncEventIngressTimestamp hi).map)))

instance : Layout SLAVE_RX_SYNC_COMPUTED_DATA_rec_t where
  octets d := octets d.sequenceId ++ (octets d.offsetFromMaster ++ (octets d.meanPathDelay ++
    octets d.scaledNeighborRateRatio))
  Complete _ := True
  format v := by
    change Format v.proc _ _
    unfold SLAVE_RX_SYNC_COMPUTED_DATA_rec_t.proc
    refine ⟨(format _).sound.bind fun _ _ hs => (format _).sound.bind fun _ _ ho => (format _).sound.bind fun _ _ hm =>
      (format _).sound.bind fun _ _ hr => .pure ?_, fun a _ => ?_⟩
    · exact ⟨trivial, by rw [hs.2, ho.2, hm.2, hr.2, List.append_nil]⟩
    · exact ((format _).complete a.sequenceId trivial).bind (((format _).complete a.offsetFromMaster trivial).bind
        (((format _).complete a.meanPathDelay trivial).bind
        ((format _).complete a.scaledNeighborRateRatio trivial).map))

instance : Layout SLAVE_TX_EVENT_TIMESTAMPS_rec_t where
  octets d := octets d.sequenceId ++ octets d.eventEgressTimestamp
  Complete d := Complete d.eventEgressTimestamp
  format v := by
    change Format v.proc _ _
    unfold SLAVE_TX_EVENT_TIMESTAMPS_rec_t.proc
    refine ⟨(format _).sound.bind fun _ _ hs => (format _).sound.bind fun _ _ he => .pure ?_, fun a he => ?_⟩
    · exact ⟨he.1, by rw [hs.2, he.2, List.append_nil]⟩
    · exact ((format _).complete a.sequenceId trivial).bind ((format _).complete a.eventEgressTimestamp he).map

instance : Layout SLAVE_DELAY_TIMING_DATA_NP_rec_t where
  octets d := octets d.sequenceId ++ (octets d.delayOriginTimestamp ++ (octets d.totalCorrectionField ++
    octets d.delayResponseTimestamp))
  Complete d := Complete d.delayOriginTimestamp ∧ Complete d.delayResponseTimestamp
  format v := by
    change Format v.proc _ _
    unfold SLAVE_DELAY_TIMING_DATA_NP_rec_t.proc
    refine ⟨(format _).sound.bind fun _ _ hs => (format _).sound.bind fun _ _ ho => (format _).sound.bind fun _ _ hc =>
      (format _).sound.bind fun _ _ hr => .pure ?_, fun a ⟨ho, hr⟩ => ?_⟩
    · exact ⟨⟨ho.1, hr.1⟩, by rw [hs.2, ho.2, hc.2, hr.2, List.append_nil]⟩
    · exact ((format _).complete a.sequenceId trivial).bind (((format _).complete a.delayOriginTimestamp ho).bind
        (((format _).complete a.totalCorrectionField trivial).bind
        ((format _).complete a.delayResponseTimestamp hr).map))

/-! ## Counted tables -/

section Counted
variable {α σ τ : Type} [Proc α] [Inhabited α] [Layout α]

/-- Behind `fixed` octets, `data` holds the records, as many as its count says. -/
structure HoldsTable (fixed : Nat) (count : List UInt8 → Nat) (data : List UInt8) (recs : List α) : Prop where
  length : recs.length = count data
  complete : ∀ r ∈ recs, Complete r
  octets : ∃ head rest, data = head ++ (recs.flatMap octets ++ rest) ∧ head.length = fixed

/-- The records appended to a table when its process function returns, also where it fails. The
fixed part `head` gives their number. -/
def appended (head : P σ) (cnt : σ → Nat) (data : List UInt8) : List α :=
  match head.read data.length data with
  | ⟨some s, l, r, _⟩ => pushed (proc default) (cnt s) l r
  | ⟨none, _, _, _⟩ => []

/-- The process function succeeds where `data` holds the table, and gives it. Otherwise the records
up to the first that is not there have been appended. These are few in any case. -/
structure DecodesTable (f : P τ) (list : τ → List α) (pushes : List UInt8 → List α) (fixed : Nat)
    (count : List UInt8 → Nat) (data : List UInt8) : Prop where
  succeeds : (f.read data.length data).val.isSome = true ↔ ∃ recs : List α, HoldsTable fixed count data recs
  holds : ∀ d, (f.read data.length data).val = some d → HoldsTable fixed count data (list d)
  unique : ∀ d recs, (f.read data.length data).val = some d → HoldsTable fixed count data recs → list d = recs
  appends : ∀ d, (f.read data.length data).val = some d → pushes data = list d
  fails : (f.read data.length data).val = none → fixed ≤ data.length → (pushes data).length < count data ∧
    HoldsTable fixed (fun _ => (pushes data).length) data (pushes data) ∧
    ∀ recs : List α, ¬ HoldsTable fixed (fun _ => (pushes data).length + 1) data recs
  short : data.length < fixed → pushes data = []
  few : (pushes data).length ≤ data.length / 4

/-- Behind the fixed part, the loop gives the records that are there. -/
theorem read_count_iff {fixed : Nat} {count : List UInt8 → Nat} {o r : List UInt8} {n : Nat} (ho : o.length = fixed)
    (hc : count (o ++ r) = n) (recs : List α) :
    ((Prog.count (proc (default : α)) n).read r.length r).val = some recs ↔ HoldsTable fixed count (o ++ r) recs := by
  have hfmt := (format (default : α)).count n
  constructor
  · intro h
    obtain ⟨o', rest, rfl, -, ⟨hn, hall⟩, rfl⟩ := hfmt.sound r recs h
    exact ⟨hn.trans hc.symm, hall, o, rest, rfl, ho⟩
  · rintro ⟨hn, hall, head, rest, hdata, hhead⟩
    obtain ⟨rfl, rfl⟩ := List.append_inj hdata (ho.trans hhead.symm)
    have h := hfmt.complete recs ⟨hn.trans hc, hall⟩ rest
    rw [← Nat.cast_add, ← List.length_append] at h
    rw [h]

/-- A fixed part, and then the records it gives the number of. -/
def table (head : P σ) (cnt : σ → Nat) (mk : σ → List α → τ) : P τ := do
  let s ← head
  let recs ← vectorF (cnt s) []
  return mk s recs

theorem decodesTable (head : P σ) {cnt : σ → Nat} (mk : σ → List α → τ) {list : τ → List α} {fixed : Nat}
    {count : List UInt8 → Nat} [ht : Takes head fixed]
    (hh : Parses head fun s o => o.length = fixed ∧ ∀ r, count (o ++ r) = cnt s)
    (hl : ∀ s recs, list (mk s recs) = recs) (h4 : ∀ a : α, Complete a → 4 ≤ (octets a).length) (data : List UInt8) :
    DecodesTable (table head cnt mk) list (appended head cnt) fixed count data := by
  by_cases hlen : fixed ≤ data.length
  · obtain ⟨s, hs⟩ := ht.takes data.length data (by omega)
    obtain ⟨o, r, rfl, hr, ho, hc⟩ := hh data s (by rw [hs])
    have hread : ((table head cnt mk).read (o ++ r).length (o ++ r)).val =
        ((Prog.count (proc (default : α)) (cnt s)).read r.length r).val.map (mk s) := by
      unfold table
      rw [read_bind, hr]
      change ((mk s <$> ((fun l => [] ++ l) <$> Prog.count (proc (default : α)) (cnt s))).read r.length r).val = _
      rw [read_map_val, read_map_val, Option.map_map]
      rfl
    have happ : appended (α := α) head cnt (o ++ r) = pushed (proc default) (cnt s) r.length r := by
      unfold appended
      rw [hr]
    have hiff := read_count_iff (α := α) ho (hc r)
    have hsome (d : τ) (h : ((Prog.count (proc (default : α)) (cnt s)).read r.length r).val.map (mk s) = some d) :
        ((Prog.count (proc (default : α)) (cnt s)).read r.length r).val = some (list d) := by
      obtain ⟨recs, hrecs, rfl⟩ := Option.map_eq_some_iff.1 h
      rw [hl, hrecs]
    refine ⟨?_, fun d hd => ?_, fun d recs hd hrecs => ?_, fun d hd => ?_, fun hnone _ => ?_,
      fun h => absurd hlen (not_le.2 h), ?_⟩
    · rw [hread, Option.isSome_map, Option.isSome_iff_exists]
      exact exists_congr hiff
    · rw [hread] at hd
      exact (hiff _).1 (hsome d hd)
    · rw [hread] at hd
      exact Option.some.inj ((hsome d hd).symm.trans ((hiff recs).2 hrecs))
    · rw [hread] at hd
      rw [happ]
      exact pushed_count _ _ _ _ (hsome d hd)
    · rw [hread, Option.map_eq_none_iff] at hnone
      obtain ⟨hlt, hall, hnext⟩ := pushed_fails _ _ _ hnone
      rw [happ, hc r]
      refine ⟨hlt, (read_count_iff ho rfl _).1 hall, fun recs hrecs => ?_⟩
      rw [(read_count_iff ho rfl recs).2 hrecs] at hnext
      cases hnext
    · have h := pushed_length_le ((format (default : α)).sound.mono fun a o ha => ha.2 ▸ h4 a ha.1) (cnt s) r
      rw [happ, List.length_append]
      omega
  · obtain ⟨hval, -⟩ := ht.short data.length data (by omega) (by omega)
    have hread : ((table head cnt mk).read data.length data).val = none := by
      unfold table
      rw [read_bind]
      rcases hr : head.read data.length data with ⟨_ | s, l, r, e⟩
      · rfl
      · rw [hr] at hval; cases hval
    have happ : appended (α := α) head cnt data = [] := by
      unfold appended
      rcases hr : head.read data.length data with ⟨_ | s, l, r, e⟩
      · rfl
      · rw [hr] at hval; cases hval
    have hnone (d : τ) : ((table head cnt mk).read data.length data).val ≠ some d := by
      rw [hread]
      simp
    refine ⟨?_, fun d hd => (hnone d hd).elim, fun d _ hd => (hnone d hd).elim, fun d hd => (hnone d hd).elim,
      fun _ h => absurd h hlen, fun _ => happ, ?_⟩
    · rw [hread]
      constructor
      · intro h
        cases h
      · rintro ⟨recs, -, -, head, rest, rfl, hhead⟩
        simp only [List.length_append] at hlen
        omega
    · rw [happ]
      exact Nat.zero_le _

end Counted

/-- The count of `width` octets at `off`. -/
def countAt (off width : Nat) (data : List UInt8) : Nat := beNat ((data.drop off).take width)

/-- A count with a sign, widened to 32 bits without one. -/
def widened (n : Nat) : Nat := if n < 2 ^ 15 then n else n + (2 ^ 32 - 2 ^ 16)

theorem widened_int16 (cnt : Int16) : widened (Word.toNat cnt) = cnt.toInt32.toUInt32.toNat := by
  have hlt : cnt.toBitVec.toNat < 2 ^ 16 := cnt.toBitVec.isLt
  change widened cnt.toBitVec.toNat = (cnt.toBitVec.signExtend 32).toNat
  unfold widened
  rw [BitVec.toNat_signExtend, BitVec.toNat_setWidth_of_le (by decide), BitVec.msb_eq_decide]
  by_cases h : cnt.toBitVec.toNat < 2 ^ 15
  · rw [if_pos h, if_neg (by simpa using h)]
    rfl
  · rw [if_neg h, if_pos (by simpa using h)]

theorem countAt_append {β : Type} [Word β] (p : List UInt8) (n : β) (r : List UInt8) :
    countAt p.length (Word.width β) (p ++ (octets n ++ r)) = Word.toNat n := by
  have hw : (octets n).length = Word.width β := beOctets_length _ _
  unfold countAt
  rw [List.drop_left, ← hw, List.take_left]
  exact beNat_beOctets_of_lt (Word.toNat_lt n)

/-- A count at the start. -/
theorem parses_count {β : Type} [Word β] (v : β) : Parses (proc v : P β) fun n o =>
    o.length = Word.width β ∧ ∀ r, countAt 0 (Word.width β) (o ++ r) = Word.toNat n :=
  (format v).sound.mono fun n _ h => h.2 ▸ ⟨beOctets_length _ _, fun r => countAt_append [] n r⟩

/-- The fixed part of a table of addresses: `logQueryInterval` and `actualTableSize`. -/
def addressHead (size : Type) [Word size] [Inhabited size] : P (Int8 × size) := do
  let logQueryInterval ← proc (default : Int8)
  let actualTableSize ← proc (default : size)
  return (logQueryInterval, actualTableSize)

instance {size : Type} [Word size] [Inhabited size] : Takes (addressHead size) (1 + Word.width size) := by
  unfold addressHead
  exact Takes.cast (m := 1 + Word.width size) (by simp [Word.width])

theorem parses_addressHead {size : Type} [Word size] [Inhabited size] : Parses (addressHead size) fun s o =>
    o.length = 1 + Word.width size ∧ ∀ r, countAt 1 (Word.width size) (o ++ r) = Word.toNat s.2 := by
  unfold addressHead
  refine (format _).sound.bind fun q o hq => (format _).sound.bind fun n o' hn => .pure ?_
  have ho : o.length = 1 := hq.2 ▸ beOctets_length _ _
  have ho' : o'.length = Word.width size := hn.2 ▸ beOctets_length _ _
  refine ⟨by simp [ho, ho'], fun r => ?_⟩
  have h := countAt_append o n r
  rw [ho, ← hn.2] at h
  simpa using h

theorem four_le_address (a : PortAddress_t) (_ : Complete a) : 4 ≤ (octets a).length := by
  simp [octets, wordOctets, Word.width]
  omega

theorem four_le_master (a : AcceptableMaster_t) (_ : Complete a) : 4 ≤ (octets a).length := by
  simp [octets, wordOctets, Word.width, a.acceptablePortIdentity.clockIdentity.v.2]

theorem four_le_record (a : FaultRecord_t) (_ : Complete a) : 4 ≤ (octets a).length := by
  simp [octets, wordOctets, Word.width]
  omega

/-- The four counted tables are decoded to the records they hold, or refused. -/
theorem counted_tables (data : List UInt8) :
    DecodesTable (FAULT_LOG_f default) FAULT_LOG_t.faultRecords
      (appended (proc (default : UInt16)) UInt16.toNat) 2 (countAt 0 2) data ∧
    DecodesTable (GRANDMASTER_CLUSTER_TABLE_f default) GRANDMASTER_CLUSTER_TABLE_t.PortAddress
      (appended (addressHead UInt8) fun h => h.2.toNat) 2 (countAt 1 1) data ∧
    DecodesTable (UNICAST_MASTER_TABLE_f default) UNICAST_MASTER_TABLE_t.PortAddress
      (appended (addressHead UInt16) fun h => h.2.toNat) 3 (countAt 1 2) data ∧
    DecodesTable (ACCEPTABLE_MASTER_TABLE_f default) ACCEPTABLE_MASTER_TABLE_t.list
      (appended (proc (default : Int16)) fun n => n.toInt32.toUInt32.toNat) 2
        (fun d => widened (countAt 0 2 d)) data := by
  refine ⟨?_, ?_, ?_, ?_⟩
  · exact decodesTable (proc (default : UInt16)) FAULT_LOG_t.mk (parses_count _) (fun _ _ => rfl)
      four_le_record data
  · exact decodesTable (addressHead UInt8) (fun h => GRANDMASTER_CLUSTER_TABLE_t.mk h.1 h.2)
      parses_addressHead (fun _ _ => rfl) four_le_address data
  · exact decodesTable (addressHead UInt16) (fun h => UNICAST_MASTER_TABLE_t.mk h.1 h.2)
      parses_addressHead (fun _ _ => rfl) four_le_address data
  · exact decodesTable (proc (default : Int16)) ACCEPTABLE_MASTER_TABLE_t.mk
      ((parses_count _).mono fun n o h => ⟨h.1, fun r => (congrArg widened (h.2 r)).trans (widened_int16 n)⟩)
      (fun _ _ => rfl) four_le_master data

/-! ## Open lists -/

section Open
variable {α σ τ : Type} [Proc α] [Inhabited α] [Layout α]

/-- Behind `h` octets, `value` is decoded to as many records of `r` octets as fit. -/
structure DecodesList (f : P τ) (list : τ → List α) (h r : Nat) (value : List UInt8) (d : τ) : Prop where
  val : (f.read value.length value).val = some d
  length : (list d).length = (value.length - h) / r
  decoded : ∀ k (hk : k < (list d).length),
    ((proc (default : α)).read r ((value.drop (h + k * r)).take r)).val = some (list d)[k]
  octets : ∀ k (hk : k < (list d).length), octets (list d)[k] = (value.drop (h + k * r)).take r
  left : 0 ≤ (f.read value.length value).left ∧ (f.read value.length value).left < r

/-- A fixed part, and then as many records as fit. -/
def openList (head : P σ) (r : Nat) (mk : σ → List α → τ) : P τ := do
  let s ← head
  let recs ← vectorO r []
  return mk s recs

theorem decodesList (head : P σ) (mk : σ → List α → τ) {list : τ → List α} {h r : Nat} [ht : Takes head h]
    [hp : Takes (proc (default : α)) r] (hr : 0 < r) (hl : ∀ s recs, list (mk s recs) = recs) {value : List UInt8}
    (hlen : h ≤ value.length) : ∃ d, DecodesList (openList head r mk) list h r value d := by
  have hfmt := format (default : α)
  obtain ⟨s, hs⟩ := ht.takes value.length value (by omega)
  have hrest : (value.length : Int) - h = (value.drop h).length := by rw [List.length_drop]; omega
  obtain ⟨recs, rest, hread, hdrop, hall, hlt⟩ := hfmt.whileLeft hr (value.drop h).length (value.drop h) (le_refl _)
  have hval : (openList head r mk).read value.length value = ⟨some (mk s recs), rest.length, rest, none⟩ := by
    unfold openList
    rw [read_bind, hs, hrest]
    change ((mk s <$> ((fun l => [] ++ l) <$> Prog.whileLeft r (proc (default : α)) (value.drop h).length)).read
      (value.drop h).length (value.drop h)) = _
    simp only [← bind_pure_comp, bind_assoc, pure_bind, read_bind, hread, read_pure, List.nil_append]
  have hsize (a : α) (ha : a ∈ recs) : (octets a).length = r := hfmt.length_octets (hall a ha)
  have hk (k : Nat) (hk : k < recs.length) : (value.drop (h + k * r)).take r = octets recs[k] := by
    rw [← List.drop_drop, hdrop]
    exact take_drop_flatMap recs hsize rest k hk
  refine ⟨mk s recs, by rw [hval], ?_, ?_, ?_, ?_⟩
  · have hn : (value.drop h).length = r * recs.length + rest.length := by
      rw [hdrop, List.length_append, List.length_flatMap, List.map_congr_left hsize]
      simp [Nat.mul_comm]
    rw [List.length_drop] at hn
    rw [hl, hn, Nat.mul_add_div hr, Nat.div_eq_of_lt hlt, Nat.add_zero]
  · rw [hl]
    intro k hkl
    have hmem := List.getElem_mem hkl
    have h := hfmt.complete recs[k] (hall _ hmem) []
    rw [hk k hkl, ← hsize _ hmem]
    simpa using congrArg Outcome.val h
  · rw [hl]
    exact fun k hkl => (hk k hkl).symm
  · rw [hval]
    exact ⟨by simp, by simpa using hlt⟩

end Open

instance (v : SLAVE_RX_SYNC_COMPUTED_DATA_rec_t) : Takes (proc v) 22 := by
  change Takes v.proc 22; unfold SLAVE_RX_SYNC_COMPUTED_DATA_rec_t.proc; exact Takes.cast (by rfl)
instance (v : SLAVE_TX_EVENT_TIMESTAMPS_rec_t) : Takes (proc v) 12 := by
  change Takes v.proc 12; unfold SLAVE_TX_EVENT_TIMESTAMPS_rec_t.proc; exact Takes.cast (by rfl)
instance (flags mask : UInt8) : Takes (procFlags flags mask) 1 := Takes.building (Takes.word (α := UInt8) flags)
instance : Takes procReserved 1 := Takes.xfer

/-- The port identity, the flags or type, and the reserved octet before a list. -/
def eventHead (octet : P UInt8) : P (PortIdentity_t × UInt8) := do
  let sourcePortIdentity ← proc default
  let octet ← octet
  procReserved
  return (sourcePortIdentity, octet)

instance {octet : P UInt8} [Takes octet 1] : Takes (eventHead octet) 12 := by
  unfold eventHead; exact Takes.cast (by rfl)

/-- The six open lists are decoded to as many records as fit behind their fixed part. -/
theorem open_lists (value : List UInt8) :
    (∃ d, DecodesList (PATH_TRACE_LIST_f default) PATH_TRACE_LIST_t.pathSequence 0 ClockIdentity_t.size value d) ∧
    (∃ d, DecodesList (PATH_TRACE_f default) PATH_TRACE_t.pathSequence 0 ClockIdentity_t.size value d) ∧
    (10 ≤ value.length → ∃ d, DecodesList (SLAVE_RX_SYNC_TIMING_DATA_f default) SLAVE_RX_SYNC_TIMING_DATA_t.list 10
      SLAVE_RX_SYNC_TIMING_DATA_rec_t.size value d) ∧
    (12 ≤ value.length → ∃ d, DecodesList (SLAVE_RX_SYNC_COMPUTED_DATA_f default) SLAVE_RX_SYNC_COMPUTED_DATA_t.list 12
      SLAVE_RX_SYNC_COMPUTED_DATA_rec_t.size value d) ∧
    (12 ≤ value.length → ∃ d, DecodesList (SLAVE_TX_EVENT_TIMESTAMPS_f default) SLAVE_TX_EVENT_TIMESTAMPS_t.list 12
      SLAVE_TX_EVENT_TIMESTAMPS_rec_t.size value d) ∧
    (10 ≤ value.length → ∃ d, DecodesList (SLAVE_DELAY_TIMING_DATA_NP_f default) SLAVE_DELAY_TIMING_DATA_NP_t.list 10
      SLAVE_DELAY_TIMING_DATA_NP_rec_t.size value d) := by
  refine ⟨?_, ?_, fun h => ?_, fun h => ?_, fun h => ?_, fun h => ?_⟩
  · exact decodesList (pure ()) (fun _ => PATH_TRACE_LIST_t.mk) (r := 8) (by decide) (fun _ _ => rfl)
      (Nat.zero_le _)
  · exact decodesList (pure ()) (fun _ => PATH_TRACE_t.mk) (r := 8) (by decide) (fun _ _ => rfl)
      (Nat.zero_le _)
  · exact decodesList (proc default) SLAVE_RX_SYNC_TIMING_DATA_t.mk (r := 34) (by decide)
      (fun _ _ => rfl) h
  · exact decodesList (eventHead (procFlags 0 0x7)) (fun s => SLAVE_RX_SYNC_COMPUTED_DATA_t.mk s.1 s.2)
      (r := 22) (by decide) (fun _ _ => rfl) h
  · have : Takes (proc (default : UInt8) : P UInt8) 1 := Takes.word _
    exact decodesList (eventHead (proc default)) (fun s => SLAVE_TX_EVENT_TIMESTAMPS_t.mk s.1 s.2)
      (r := 12) (by decide) (fun _ _ => rfl) h
  · exact decodesList (proc default) SLAVE_DELAY_TIMING_DATA_NP_t.mk (r := 30) (by decide)
      (fun _ _ => rfl) h

/-- Room for one record of 34 octets, and 6 octets unread. -/
theorem open_lists_fifty : ∃ d, DecodesList (SLAVE_RX_SYNC_TIMING_DATA_f default) SLAVE_RX_SYNC_TIMING_DATA_t.list 10
    SLAVE_RX_SYNC_TIMING_DATA_rec_t.size (List.replicate 50 0) d :=
  (open_lists (List.replicate 50 0)).2.2.1 (by decide)

end LibPmc
