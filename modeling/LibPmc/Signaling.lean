import LibPmc.Safety
/-!
# The received signaling TLVs

What the getters give after a signaling message: which TLVs survive in the vector, and
with the filter the pmc tool sets, how the message is split.
-/
namespace LibPmc

open Wire Wire.Prog

/-! ## The vector -/

namespace SigTlvs

/-- The pointer of the first element is lost. -/
def Lost (v : SigTlvs) : Prop := ∃ r l, v.recs = r :: l ∧ r.tlv = none

/-- Elements with their pointers. -/
def kept (l : List (UInt16 × BaseSigTlv)) : List SigTlv := l.map fun a => ⟨a.1, some a.2⟩

theorem recs_insert_of_lt {v : SigTlvs} (h : v.recs.length < v.capacity) (t : UInt16) (tlv : BaseSigTlv) :
    (v.insert t tlv).recs = v.recs ++ [⟨t, some tlv⟩] ∧ (v.insert t tlv).capacity = v.capacity := by
  unfold insert
  rw [dif_pos h]
  exact ⟨rfl, rfl⟩

theorem recs_insert_of_full {v : SigTlvs} (h : ¬ v.recs.length < v.capacity) (t : UInt16) (tlv : BaseSigTlv) :
    (v.insert t tlv).recs = v.recs.map SigTlv.copy ++ [⟨t, some tlv⟩] ∧
      (v.insert t tlv).capacity = v.recs.length + max v.recs.length 1 := by
  unfold insert
  rw [dif_neg h]
  exact ⟨rfl, rfl⟩

theorem types_insert (v : SigTlvs) (t : UInt16) (tlv : BaseSigTlv) :
    (v.insert t tlv).recs.map SigTlv.tlvType = v.recs.map SigTlv.tlvType ++ [t] := by
  by_cases h : v.recs.length < v.capacity
  · rw [(recs_insert_of_lt h t tlv).1, List.map_append]; rfl
  · rw [(recs_insert_of_full h t tlv).1, List.map_append, List.map_map]; rfl

theorem lost_insert {v : SigTlvs} (h : v.Lost) (t : UInt16) (tlv : BaseSigTlv) : (v.insert t tlv).Lost := by
  obtain ⟨r, l, hr, hn⟩ := h
  by_cases hc : v.recs.length < v.capacity
  · exact ⟨r, l ++ [⟨t, some tlv⟩], by rw [(recs_insert_of_lt hc t tlv).1, hr]; rfl, hn⟩
  · exact ⟨r.copy, l.map SigTlv.copy ++ [⟨t, some tlv⟩], by rw [(recs_insert_of_full hc t tlv).1, hr]; rfl, rfl⟩

def insertAll (v : SigTlvs) (l : List (UInt16 × BaseSigTlv)) : SigTlvs := l.foldl (fun v a => v.insert a.1 a.2) v

theorem types_insertAll (v : SigTlvs) (l : List (UInt16 × BaseSigTlv)) :
    (v.insertAll l).recs.map SigTlv.tlvType = v.recs.map SigTlv.tlvType ++ l.map Prod.fst := by
  induction l generalizing v with
  | nil => simp [insertAll]
  | cons a l ih =>
    change ((v.insert a.1 a.2).insertAll l).recs.map _ = _
    rw [ih, types_insert, List.append_assoc]
    rfl

theorem lost_insertAll {v : SigTlvs} (h : v.Lost) (l : List (UInt16 × BaseSigTlv)) : (v.insertAll l).Lost := by
  induction l generalizing v with
  | nil => exact h
  | cons a l ih => exact ih (lost_insert h a.1 a.2)

/-- Elements stay while the capacity lasts; the next one costs the first its pointer. -/
theorem insertAll_of_ne_nil {v : SigTlvs} (hv : v.recs ≠ []) (l : List (UInt16 × BaseSigTlv)) :
    (v.recs.length + l.length ≤ v.capacity → (v.insertAll l).recs = v.recs ++ kept l) ∧
      (v.capacity < v.recs.length + l.length → (v.insertAll l).Lost) := by
  induction l generalizing v with
  | nil =>
    have := v.le_capacity
    exact ⟨fun _ => by simp [insertAll, kept], fun h => by simp at h; omega⟩
  | cons a l ih =>
    by_cases hc : v.recs.length < v.capacity
    · obtain ⟨hr, hcap⟩ := recs_insert_of_lt hc a.1 a.2
      obtain ⟨h1, h2⟩ := ih (v := v.insert a.1 a.2) (by rw [hr]; simp)
      rw [hr, hcap, List.length_append, List.length_singleton] at h1 h2
      rw [List.length_cons]
      refine ⟨fun h => ?_, fun h => h2 (by omega)⟩
      exact (h1 (by omega)).trans (by simp [kept])
    · rw [List.length_cons]
      refine ⟨fun h => by omega, fun _ => ?_⟩
      obtain ⟨r, l', hr⟩ := List.exists_cons_of_ne_nil hv
      refine lost_insertAll ⟨r.copy, l'.map SigTlv.copy ++ [⟨a.1, some a.2⟩], ?_, rfl⟩ l
      rw [(recs_insert_of_full hc a.1 a.2).1, hr]
      rfl

/-- A cleared vector keeps as many elements as its old capacity, and one in any case. -/
theorem insertAll_clear (v : SigTlvs) (l : List (UInt16 × BaseSigTlv)) :
    (l.length ≤ max v.capacity 1 → (v.clear.insertAll l).recs = kept l) ∧
      (max v.capacity 1 < l.length → (v.clear.insertAll l).Lost) := by
  cases l with
  | nil => exact ⟨fun _ => rfl, fun h => by simp at h⟩
  | cons a l =>
    have hfirst : (v.clear.insert a.1 a.2).recs = [⟨a.1, some a.2⟩] ∧
        (v.clear.insert a.1 a.2).capacity = max v.capacity 1 := by
      by_cases hc : v.clear.recs.length < v.clear.capacity
      · obtain ⟨hr, hcap⟩ := recs_insert_of_lt hc a.1 a.2
        have : 0 < v.capacity := hc
        exact ⟨hr, hcap.trans (by simp only [clear]; omega)⟩
      · obtain ⟨hr, hcap⟩ := recs_insert_of_full hc a.1 a.2
        have : v.capacity = 0 := by simpa [clear] using hc
        exact ⟨hr, hcap.trans (by simp [clear, this])⟩
    obtain ⟨h1, h2⟩ := insertAll_of_ne_nil (v := v.clear.insert a.1 a.2) (by rw [hfirst.1]; simp) l
    rw [hfirst.1, hfirst.2, List.length_singleton] at h1 h2
    rw [List.length_cons]
    exact ⟨fun h => h1 (by omega), fun h => h2 (by omega)⟩

end SigTlvs

/-! ## What the getters give -/

/-- The TLVs of a signaling message that are decoded to a structure, with their types. -/
def accepted (prms : MsgParams) (buf : Mem) (n : Int) : List (UInt16 × BaseSigTlv) :=
  (sigWalk prms buf n).1.filterMap fun v => (v.tlv prms buf).map fun tlv => (v.tlvType, tlv)

theorem foldl_store (prms : MsgParams) (buf : Mem) (l : List Visit) (v : SigTlvs) :
    l.foldl (Visit.store prms buf) v =
      v.insertAll (l.filterMap fun v => (v.tlv prms buf).map fun tlv => (v.tlvType, tlv)) := by
  induction l generalizing v with
  | nil => rfl
  | cons x l ih =>
    rw [List.foldl_cons, ih]
    unfold Visit.store
    cases h : x.tlv prms buf with
    | none => simp [h]
    | some tlv =>
      rw [List.filterMap_cons_some (by rw [h]; rfl)]
      rfl

/-- A signaling message replaces the vector and nothing else that a getter of TLVs looks at. -/
theorem parse_sigTlvs (m : Message) {buf : Mem} {n : Int} (h : SigHeader m.prms buf n) :
    (m.parse buf n).err = (sigWalk m.prms buf n).2 ∧ (m.parse buf n).msg.type = MsgType.Signaling ∧
      (m.parse buf n).msg.sigTlvs = m.sigTlvs.clear.insertAll (accepted m.prms buf n) := by
  rw [parse_of_sigHeader m h]
  obtain ⟨he, hm, -, -⟩ := parseSig_walk (m.headed buf) buf n
  refine ⟨he, ?_, ?_⟩
  · change ((m.headed buf).parseSig buf n).msg.type = _
    rw [hm]
    exact h.2.2.1
  · change ((m.headed buf).parseSig buf n).msg.sigTlvs = _
    rw [hm]
    exact foldl_store m.prms buf _ _

namespace Message

/-- The getters give the TLV `a` at position `i`, and of a MANAGEMENT TLV its id and its data. -/
def Gives (m : Message) (i : Nat) (a : UInt16 × BaseSigTlv) : Prop :=
  m.getSigTlv i = some a.2 ∧ m.getSigTlvType i = a.1 ∧
    ∀ id p, a.2 = .MANAGEMENT id p →
      m.getSigMngTlvType i = some id ∧ ∃ d, p = .to d ∧ m.getSigMngTlv i = some (.to d)

variable {m : Message}

theorem count_eq (ht : m.type = MsgType.Signaling) : m.getSigTlvsCount = m.sigTlvs.recs.length := if_pos ht

theorem sigTlvAt_eq (ht : m.type = MsgType.Signaling) (i : Nat) : m.sigTlvAt i = m.sigTlvs.recs[i]? := if_pos ht

end Message

/-- A record that is stored for a TLV has the type of its structure. -/
theorem tlvType_of_management {prms : MsgParams} {buf : Mem} {v : Visit} {id : MngVals} {p : TlvPtr}
    (h : v.tlv prms buf = some (.MANAGEMENT id p)) : v.tlvType = TlvType.MANAGEMENT := by
  by_contra ht
  have hs := stored_eq_nil prms buf ht
  unfold Visit.stored at hs
  rw [h] at hs
  cases hs

theorem stored_of_management {prms : MsgParams} {buf : Mem} {v : Visit} {id : MngVals} {p : TlvPtr}
    (h : v.tlv prms buf = some (.MANAGEMENT id p)) : v.stored prms buf = [(id, p)] := by
  unfold Visit.stored
  rw [h]
  rfl

/-- Every decoded TLV is kept, with its data, exactly as long as the room for the first lasts
and no MANAGEMENT TLV has data for an id without a dataField. -/
theorem sigTlvs_kept_iff (m : Message) (buf : Mem) (n : Int) (h : (m.parse buf n).err = .SIG) :
    (∀ i < (m.parse buf n).msg.getSigTlvsCount, ∃ a, (accepted m.prms buf n)[i]? = some a ∧
        (m.parse buf n).msg.Gives i a) ↔
      (accepted m.prms buf n).length ≤ max m.sigTlvs.capacity 1 ∧ MngTlvsHaveData m.prms buf n := by
  have hs := sigHeader_of_err m h
  obtain ⟨-, ht, hv⟩ := parse_sigTlvs m hs
  obtain ⟨hkeep, hlose⟩ := SigTlvs.insertAll_clear m.sigTlvs (accepted m.prms buf n)
  have hlen : (m.parse buf n).msg.getSigTlvsCount = (accepted m.prms buf n).length := by
    have := congrArg List.length (SigTlvs.types_insertAll m.sigTlvs.clear (accepted m.prms buf n))
    rw [Message.count_eq ht, hv]
    simpa [SigTlvs.clear] using this
  constructor
  · intro hg
    constructor
    -- the second TLV makes the vector move the first, without its data
    · by_contra hcap
      obtain ⟨r, l, hr, hn⟩ := hlose (by omega)
      obtain ⟨a, -, ha, -⟩ := hg 0 (by omega)
      unfold Message.getSigTlv at ha
      rw [Message.sigTlvAt_eq ht, hv, hr, List.getElem?_cons_zero] at ha
      exact absurd (hn.symm.trans ha) (by simp)
    · intro v hmem
      refine (visit_decoded_iff m.prms buf v).1 fun s hsv => ?_
      -- only a MANAGEMENT TLV stores a pointer
      obtain ⟨tlv, htlv, hst⟩ : ∃ tlv, v.tlv m.prms buf = some tlv ∧ s ∈ tlv.stored := by
        unfold Visit.stored at hsv
        cases htlv : v.tlv m.prms buf with
        | none => rw [htlv] at hsv; cases hsv
        | some tlv => rw [htlv] at hsv; exact ⟨tlv, rfl, hsv⟩
      have hacc : (v.tlvType, tlv) ∈ accepted m.prms buf n := List.mem_filterMap.2 ⟨v, hmem, by rw [htlv]; rfl⟩
      obtain ⟨i, hi, hget⟩ := List.getElem_of_mem hacc
      obtain ⟨a, ha, -, -, hmng⟩ := hg i (by rw [hlen]; exact hi)
      rw [List.getElem?_eq_getElem hi, hget] at ha
      obtain rfl := Option.some.inj ha
      cases tlv with
      | MANAGEMENT id p =>
        obtain rfl := List.mem_singleton.1 hst
        obtain ⟨-, d, hd, -⟩ := hmng id p rfl
        exact decoded_of_stored m.prms buf hsv hd
      | _ => cases hst
  · rintro ⟨hcap, hdata⟩ i hi
    rw [hlen] at hi
    have hrec : (m.parse buf n).msg.sigTlvAt i =
        some ⟨(accepted m.prms buf n)[i].1, some (accepted m.prms buf n)[i].2⟩ := by
      rw [Message.sigTlvAt_eq ht, hv, hkeep hcap]
      simp [SigTlvs.kept, hi]
    refine ⟨(accepted m.prms buf n)[i], List.getElem?_eq_getElem hi, ?_, ?_, ?_⟩
    · unfold Message.getSigTlv
      rw [hrec]
      rfl
    · unfold Message.getSigTlvType
      rw [hrec]
      rfl
    · intro id p ha
      obtain ⟨v, hmem, htlv⟩ := List.mem_filterMap.1 (List.getElem_mem hi)
      rw [Option.map_eq_some_iff] at htlv
      obtain ⟨tlv, htlv, heq⟩ := htlv
      rw [← heq] at ha hrec
      obtain rfl : tlv = .MANAGEMENT id p := ha
      have hm := tlvType_of_management htlv
      obtain ⟨d, hd, -⟩ := ((visit_decoded_iff m.prms buf v).2 (hdata v hmem) (id, p)
        (by rw [stored_of_management htlv]; exact List.mem_singleton_self _)).id_eq
      have hmng : (m.parse buf n).msg.getSigMng i = some (id, p) := by
        unfold Message.getSigMng
        rw [hrec]
        exact if_pos hm
      unfold Message.getSigMngTlvType Message.getSigMngTlv
      rw [hmng]
      exact ⟨rfl, d, hd, congrArg some hd⟩

/-- Two CUMULATIVE_RATE_RATIO TLVs are kept where an earlier message has left the room. -/
theorem sigTlvs_kept_two :
    let buf := sigMessage [0x80, 0x07, 0, 4, 1, 2, 3, 4, 0x80, 0x07, 0, 4, 5, 6, 7, 8]
    let m := (Message.parse (.ofParams { (default : MsgParams) with rcvSignaling := true } default) buf 60).msg
    (m.parse buf 60).msg.getSigTlvsCount = 2 ∧
      ∀ i < 2, ∃ a, (accepted m.prms buf 60)[i]? = some a ∧ (m.parse buf 60).msg.Gives i a := by
  intro buf m
  have hc : (m.parse buf 60).msg.getSigTlvsCount = 2 := by decide +kernel
  have hroom : (accepted m.prms buf 60).length ≤ max m.sigTlvs.capacity 1 := by decide +kernel
  have htypes : ∀ v ∈ (sigWalk m.prms buf 60).1, ¬ v.tlvType = TlvType.MANAGEMENT := by decide +kernel
  have hk := (sigTlvs_kept_iff m buf 60 (by decide +kernel)).2 ⟨hroom, fun v hv ht => absurd ht (htypes v hv)⟩
  rw [hc] at hk
  exact ⟨hc, hk⟩

/-- Of two CUMULATIVE_RATE_RATIO TLVs the first is lost. -/
theorem sigTlvs_lose_one : ¬ ∀ (m : Message) (buf : Mem) (n : Int), (m.parse buf n).err = .SIG →
    ∀ i < (m.parse buf n).msg.getSigTlvsCount, ∃ a, (accepted m.prms buf n)[i]? = some a ∧
      (m.parse buf n).msg.Gives i a := by
  intro h
  have hg := h (.ofParams { (default : MsgParams) with rcvSignaling := true } default)
    (sigMessage [0x80, 0x07, 0, 4, 1, 2, 3, 4, 0x80, 0x07, 0, 4, 5, 6, 7, 8]) 60 rfl 0 (by decide +kernel)
  obtain ⟨a, -, ha, -⟩ := hg
  cases ha

/-! ## How the message is split -/

/-- The signaling TLVs received as the pmc tool sets it. -/
structure PmcFilter (prms : MsgParams) : Prop where
  rcv : prms.rcvSignaling = true
  filter : prms.filterSignaling = true
  allow : ∀ t, (prms.allowSigTlvs t).isSome = true ↔
    t = TlvType.SLAVE_RX_SYNC_TIMING_DATA ∨ t = TlvType.SLAVE_DELAY_TIMING_DATA_NP

/-- Octets split into TLVs, by type and value, until fewer than 4 are left. -/
def splitTlvs (bs : List UInt8) : Option (List (UInt16 × List UInt8)) :=
  if bs.length < 4 then some []
  else
    let len := beNat ((bs.drop 2).take 2)
    if bs.length < 4 + len then none
    else (splitTlvs (bs.drop (4 + len))).map fun l => (UInt16.ofNat (beNat (bs.take 2)), (bs.drop 4).take len) :: l
termination_by bs.length
decreasing_by simp; omega

/-- A TLV of this type gets decoded. -/
def Decodes (prms : MsgParams) (t : UInt16) : Prop :=
  t = TlvType.SLAVE_RX_SYNC_TIMING_DATA ∨
    t = TlvType.SLAVE_DELAY_TIMING_DATA_NP ∧ prms.implementSpecific = .linuxptp

instance (prms : MsgParams) (t : UInt16) : Decidable (Decodes prms t) := by unfold Decodes; infer_instance

/-- The types of the decoded TLVs, if the octets split and each of these TLVs has its port identity. -/
def splitTypes (prms : MsgParams) (bs : List UInt8) : Option (List UInt16) :=
  match splitTlvs bs with
  | some l =>
    if ∀ x ∈ l, Decodes prms x.1 → 10 ≤ x.2.length then some ((l.map Prod.fst).filter (Decodes prms ·)) else none
  | none => none

/-- One TLV, and the octets behind it. -/
theorem splitTlvs_slice (buf : Mem) (cur L : Nat) :
    splitTlvs (buf.slice cur L) =
      if L < 4 then some []
      else
        let len := (u16 buf (cur + 2)).toNat
        if L < 4 + len then none
        else (splitTlvs (buf.slice (cur + (4 + len)) (L - (4 + len)))).map fun l =>
          (u16 buf cur, buf.slice (cur + 4) len) :: l := by
  rw [splitTlvs, Mem.slice_length]
  by_cases h4 : L < 4
  · rw [if_pos h4, if_pos h4]
  rw [if_neg h4, if_neg h4, Mem.drop_slice buf cur (by omega), Mem.take_slice buf _ (by omega), ← u16_toNat]
  dsimp only
  by_cases hl : L < 4 + (u16 buf (cur + 2)).toNat
  · rw [if_pos hl, if_pos hl]
  rw [if_neg hl, if_neg hl, Mem.drop_slice buf cur (by omega), Mem.drop_slice buf cur (by omega),
    Mem.take_slice buf _ (by omega), Mem.take_slice buf _ (by omega)]
  rfl

theorem splitTypes_slice (prms : MsgParams) (buf : Mem) (cur L : Nat) :
    splitTypes prms (buf.slice cur L) =
      if L < 4 then some []
      else
        let len := (u16 buf (cur + 2)).toNat
        if L < 4 + len then none
        else if Decodes prms (u16 buf cur) then
          if 10 ≤ len then (splitTypes prms (buf.slice (cur + (4 + len)) (L - (4 + len)))).map (u16 buf cur :: ·)
          else none
        else splitTypes prms (buf.slice (cur + (4 + len)) (L - (4 + len))) := by
  unfold splitTypes
  rw [splitTlvs_slice]
  by_cases h4 : L < 4
  · rw [if_pos h4, if_pos h4]
    simp
  rw [if_neg h4, if_neg h4]
  dsimp only
  by_cases hl : L < 4 + (u16 buf (cur + 2)).toNat
  · rw [if_pos hl, if_pos hl]
  rw [if_neg hl, if_neg hl]
  rcases splitTlvs (buf.slice (cur + (4 + (u16 buf (cur + 2)).toNat)) (L - (4 + (u16 buf (cur + 2)).toNat))) with _ | l
  · simp
  · simp only [Option.map_some, List.forall_mem_cons, List.map_cons, Mem.slice_length]
    by_cases hall : ∀ x ∈ l, Decodes prms x.1 → 10 ≤ x.2.length
    · by_cases hd : Decodes prms (u16 buf cur)
      · rw [if_pos hd, if_pos hall]
        by_cases h10 : 10 ≤ (u16 buf (cur + 2)).toNat
        · rw [if_pos h10, if_pos ⟨fun _ => h10, hall⟩, List.filter_cons_of_pos (by simpa using hd)]
          rfl
        · rw [if_neg h10, if_neg fun h => h10 (h.1 hd)]
      · rw [if_neg hd, if_pos ⟨fun h => absurd h hd, hall⟩, if_pos hall, List.filter_cons_of_neg (by simpa using hd)]
    · rw [if_neg hall, if_neg fun h => hall h.2]
      simp

/-- What the walk makes of octets that split, or do not. -/
def Splits (prms : MsgParams) (buf : Mem) (w : List Visit × MngParseError) (o : Option (List UInt16)) : Prop :=
  match o with
  | some ts => w.2 = .SIG ∧
    (w.1.filterMap fun v => (v.tlv prms buf).map fun tlv => (v.tlvType, tlv)).map Prod.fst = ts
  | none => w.2 = .TOO_SMALL

theorem Splits.cons {prms : MsgParams} {buf : Mem} {w : List Visit × MngParseError} {o : Option (List UInt16)}
    (h : Splits prms buf w o) {v : Visit} {tlv : BaseSigTlv} (hv : v.tlv prms buf = some tlv) :
    Splits prms buf (v :: w.1, w.2) (o.map (v.tlvType :: ·)) := by
  cases o with
  | none => exact h
  | some ts =>
    refine ⟨h.1, ?_⟩
    rw [List.filterMap_cons_some (by rw [hv]; rfl), List.map_cons, h.2]

theorem Splits.skip {prms : MsgParams} {buf : Mem} {w : List Visit × MngParseError} {o : Option (List UInt16)}
    (h : Splits prms buf w o) {v : Visit} (hv : v.tlv prms buf = none) : Splits prms buf (v :: w.1, w.2) o := by
  cases o with
  | none => exact h
  | some ts =>
    refine ⟨h.1, ?_⟩
    rw [List.filterMap_cons_none (by rw [hv]; rfl), h.2]

theorem outcome_decodes {prms : MsgParams} (buf : Mem) {v : Visit} (h : Decodes prms v.tlvType) :
    (10 ≤ v.len → ∃ tlv, (v.outcome prms buf).val = some (some tlv)) ∧
      (v.len < 10 → (v.outcome prms buf).val = none ∧ (v.outcome prms buf).err = none) := by
  have hrec {α β : Type} [Proc α] [Inhabited α] {n : Nat} [Takes (proc (default : α)) n] (hn : 0 < n)
      (f : PortIdentity_t → List α → β) (g : β → BaseSigTlv)
      (hp : procSigTlv prms.implementSpecific v.tlvType = (fun d => some (g d)) <$> (do
        let id ← proc default
        let list ← vectorO n default
        return f id list : P β)) :
      (10 ≤ v.len → ∃ tlv, (v.outcome prms buf).val = some (some tlv)) ∧
        (v.len < 10 → (v.outcome prms buf).val = none ∧ (v.outcome prms buf).err = none) := by
    obtain ⟨h1, h2⟩ := read_portIdentity_list hn f v.len (buf.slice v.pos v.len) (Int.natCast_nonneg _)
    unfold Visit.outcome
    rw [hp, read_map_val]
    refine ⟨fun hl => ?_, fun hl => ?_⟩
    · obtain ⟨d, hd⟩ := Option.isSome_iff_exists.1 (h1 (by exact_mod_cast hl))
      exact ⟨g d, by rw [hd]; rfl⟩
    · obtain ⟨hv, he⟩ := h2 (by exact_mod_cast hl)
      exact ⟨by rw [hv]; rfl, by rw [read_map_err _ _ _ _ hv, he]⟩
  rcases h with h | ⟨h, hspec⟩
  · exact hrec (by decide) (fun id list => (⟨id, list⟩ : SLAVE_RX_SYNC_TIMING_DATA_t)) _ (by rw [h]; rfl)
  · exact hrec (by decide) (fun id list => (⟨id, list⟩ : SLAVE_DELAY_TIMING_DATA_NP_t)) _ (by rw [h, hspec]; rfl)

theorem outcome_not_decodes {prms : MsgParams} (hp : PmcFilter prms) (buf : Mem) {v : Visit}
    (h : ¬ Decodes prms v.tlvType) (hs : prms.skips v.tlvType = false) :
    (v.outcome prms buf).val = some none := by
  unfold MsgParams.skips at hs
  rw [hp.filter, Bool.true_and] at hs
  have ht : v.tlvType = TlvType.SLAVE_DELAY_TIMING_DATA_NP := by
    rcases (hp.allow v.tlvType).1 (by cases ha : prms.allowSigTlvs v.tlvType <;> simp_all) with ht | ht
    · exact absurd (.inl ht) h
    · exact ht
  have hspec : prms.implementSpecific = .noImplementSpecific := by
    cases hi : prms.implementSpecific with
    | noImplementSpecific => rfl
    | linuxptp => exact absurd (.inr ⟨ht, hi⟩) h
  unfold Visit.outcome
  rw [ht, hspec]
  rfl

theorem skips_of_pmcFilter {prms : MsgParams} (hp : PmcFilter prms) {t : UInt16} (h : prms.skips t = true) :
    ¬ Decodes prms t := by
  intro hd
  have ha : (prms.allowSigTlvs t).isSome = true := (hp.allow t).2 (hd.imp id And.left)
  unfold MsgParams.skips at h
  rw [hp.filter, Bool.true_and, Option.isNone_iff_eq_none] at h
  rw [h] at ha
  cases ha

/-- With the pmc filter the walk goes over the TLVs as they split. -/
theorem walk_splits {prms : MsgParams} (hp : PmcFilter prms) (buf : Mem) (fuel cur L : Nat) (hf : L < fuel) :
    Splits prms buf (walk prms buf fuel cur L) (splitTypes prms (buf.slice cur L)) := by
  induction fuel generalizing cur L with
  | zero => omega
  | succ fuel ih =>
    let s : SigLoop := ⟨cur, L, default, .empty⟩
    have hw : walk prms buf (fuel + 1) cur L = _ := walk_succ (s := s) fuel
    set v : Visit := s.visit buf
    rw [splitTypes_slice, hw]
    by_cases h4 : L < 4
    · rw [if_pos h4, if_pos (show s.leftAll < tlvSize from Int.ofNat_lt.2 h4)]
      exact ⟨rfl, rfl⟩
    rw [if_neg h4, if_neg (show ¬ s.leftAll < tlvSize from fun h => h4 (Int.ofNat_lt.1 h))]
    by_cases hl : L < 4 + (u16 buf (cur + 2)).toNat
    · rw [if_pos hl, if_pos (show s.rest buf < 0 by simp only [SigLoop.rest, SigLoop.visit, tlvSize, s]; omega)]
      exact rfl
    rw [if_neg hl, if_neg (show ¬ s.rest buf < 0 by simp only [SigLoop.rest, SigLoop.visit, tlvSize, s]; omega)]
    have hrest : s.rest buf = (L - (4 + (u16 buf (cur + 2)).toNat) : Nat) := by
      simp only [SigLoop.rest, SigLoop.visit, tlvSize, s]; omega
    have hpos : v.pos + v.len = cur + (4 + (u16 buf (cur + 2)).toNat) := by
      simp only [SigLoop.visit, tlvSize, s, v]; omega
    have ih := ih (cur + (4 + (u16 buf (cur + 2)).toNat)) (L - (4 + (u16 buf (cur + 2)).toNat)) (by omega)
    rw [hrest]
    cases hs : prms.skips v.tlvType with
    | true =>
      rw [if_pos rfl, if_neg (show ¬ Decodes prms (u16 buf cur) from skips_of_pmcFilter hp hs), hpos]
      exact ih
    | false =>
      have hmetrics : v.tlvType ≠ TlvType.ENHANCED_ACCURACY_METRICS := by
        intro ht
        unfold MsgParams.skips at hs
        rw [hp.filter, Bool.true_and] at hs
        rcases (hp.allow v.tlvType).1 (by cases ha : prms.allowSigTlvs v.tlvType <;> simp_all) with h | h <;>
          rw [ht] at h <;> exact absurd h (by decide)
      have hnext : v.next prms buf = cur + (4 + (u16 buf (cur + 2)).toNat) := by
        have := (checked_procSigTlv prms.implementSpecific hmetrics).left_nonneg v.len (buf.slice v.pos v.len)
          (Int.natCast_nonneg _)
        unfold Visit.next
        rw [hpos]
        unfold Visit.outcome
        omega
      rw [if_neg (by simp), hnext]
      by_cases hd : Decodes prms (u16 buf cur)
      · obtain ⟨hlong, hshort⟩ := outcome_decodes buf (v := v) hd
        rw [if_pos hd]
        by_cases h10 : 10 ≤ (u16 buf (cur + 2)).toNat
        · obtain ⟨tlv, ho⟩ := hlong h10
          rw [if_pos h10, ho]
          exact ih.cons (v := v) (by unfold Visit.tlv; rw [ho]; rfl)
        · obtain ⟨ho, he⟩ := hshort (Nat.lt_of_not_le h10)
          rw [if_neg h10, ho, he]
          exact rfl
      · have ho := outcome_not_decodes hp buf (v := v) hd hs
        rw [if_neg hd, ho]
        exact ih.skip (v := v) (by unfold Visit.tlv; rw [ho]; rfl)

theorem Message.types_eq {m : Message} (ht : m.type = MsgType.Signaling) :
    (List.range m.getSigTlvsCount).map m.getSigTlvType = m.sigTlvs.recs.map SigTlv.tlvType := by
  rw [Message.count_eq ht]
  apply List.ext_getElem
  · simp
  · intro i h1 h2
    rw [List.length_map] at h2
    simp [Message.getSigTlvType, Message.sigTlvAt_eq ht, h2]

/-- Signaling messages are split exactly, with the filter of the pmc tool. -/
theorem parse_splits (m : Message) (hp : PmcFilter m.prms) (buf : Mem) (n : Int)
    (hh : Header buf MsgType.Signaling controlFieldDef) :
    (n < 44 → (m.parse buf n).err = .TOO_SMALL) ∧
      (44 ≤ n → match splitTypes m.prms (buf.slice 44 (n - 44).toNat) with
        | some types => (m.parse buf n).err = .SIG ∧
          (List.range (m.parse buf n).msg.getSigTlvsCount).map (m.parse buf n).msg.getSigTlvType = types
        | none => (m.parse buf n).err = .TOO_SMALL) := by
  constructor
  · intro hn
    unfold Message.parse
    rw [if_pos (by exact_mod_cast hn)]
    rfl
  · intro hn
    have hs : SigHeader m.prms buf n := ⟨hn, hp.rcv, hh⟩
    obtain ⟨he, ht, hv⟩ := parse_sigTlvs m hs
    have hw : sigWalk m.prms buf n = walk m.prms buf ((n - 44).toNat + 1) 44 ((n - 44).toNat : Nat) := by
      unfold sigWalk
      rw [Int.toNat_of_nonneg (by omega)]
      rfl
    have hsplit := walk_splits hp buf ((n - 44).toNat + 1) 44 (n - 44).toNat (Nat.lt_succ_self _)
    rw [← hw] at hsplit
    rw [Message.types_eq ht, hv, SigTlvs.types_insertAll, he]
    unfold Splits at hsplit
    split <;> rename_i heq <;> rw [heq] at hsplit
    · exact hsplit
    · exact hsplit

/-- Parameters with the signaling settings of the pmc tool. -/
def pmcParams : MsgParams :=
  { (default : MsgParams) with
    implementSpecific := .linuxptp
    rcvSignaling := true
    filterSignaling := true
    allowSigTlvs := fun t =>
      if t = TlvType.SLAVE_RX_SYNC_TIMING_DATA ∨ t = TlvType.SLAVE_DELAY_TIMING_DATA_NP then some true else none }

theorem pmcParams_filter : PmcFilter pmcParams where
  rcv := rfl
  filter := rfl
  allow t := by
    unfold pmcParams
    dsimp only
    split <;> simp_all

/-- A TLV that is filtered and one that is decoded. -/
theorem parse_splits_two :
    let m : Message := { (default : Message) with prms := pmcParams }
    let buf := sigMessage ([0x80, 0x07, 0, 2, 1, 2, 0x80, 0x04, 0, 10] ++ List.replicate 10 0)
    (64 < (44 : Int) → (m.parse buf 64).err = .TOO_SMALL) ∧
      ((44 : Int) ≤ 64 → match splitTypes m.prms (buf.slice 44 ((64 : Int) - 44).toNat) with
        | some types => (m.parse buf 64).err = .SIG ∧
          (List.range (m.parse buf 64).msg.getSigTlvsCount).map (m.parse buf 64).msg.getSigTlvType = types
        | none => (m.parse buf 64).err = .TOO_SMALL) :=
  parse_splits _ pmcParams_filter _ _ (by unfold Header; decide)

end LibPmc
