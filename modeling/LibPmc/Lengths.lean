import LibPmc.RoundTrip
/-!
# The lengths in a built message

A message has the two lengths of its header and its TLV, and in the dataField a field
before each text, address and table. `build_truthful_iff` says when a build that succeeds
has written what they say.
-/
namespace LibPmc

open Wire Wire.Prog

/-! ## The fields -/

/-- A field of the dataField that says how many octets or records follow it. -/
structure LengthField where
  off : Nat
  width : Nat
  signed : Bool
  /-- The number there is. -/
  number : Nat

namespace LengthField
variable (f : LengthField)

/-- The first number the field can not hold. -/
def bound : Nat := if f.signed then 256 ^ f.width / 2 else 256 ^ f.width

/-- What the field says in a message. -/
def value (mem : Mem) : Int :=
  let v := mem.word (mngMsgBaseSize + f.off) f.width
  if f.signed ∧ f.bound ≤ v then v - (256 ^ f.width : Nat) else v

theorem word_lt (mem : Mem) (off width : Nat) : mem.word off width < 256 ^ width := by
  have h := beNat_lt (mem.slice off width)
  rwa [Mem.slice_length] at h

/-- A field never says more than it can hold. -/
theorem value_lt (mem : Mem) : f.value mem < f.bound := by
  have h := word_lt mem (mngMsgBaseSize + f.off) f.width
  unfold value
  dsimp only
  split
  · omega
  · next hn =>
    by_cases hs : f.signed = true
    · have : ¬ f.bound ≤ mem.word (mngMsgBaseSize + f.off) f.width := fun hb => hn ⟨hs, hb⟩
      omega
    · unfold bound
      rw [if_neg hs]
      exact_mod_cast h

theorem bound_le : f.bound ≤ 256 ^ f.width := by
  unfold bound
  split
  · exact Nat.div_le_self _ _
  · exact le_refl _

/-- The field stands in a dataField, with its number. -/
def StandsIn (l : List UInt8) : Prop := ∃ a b, l = a ++ (beOctets f.width f.number ++ b) ∧ a.length = f.off

variable {f}

/-- Where it stands and the number fits, it says the number. -/
theorem StandsIn.value {l : List UInt8} (h : f.StandsIn l) {mem : Mem} (hm : mem.slice mngMsgBaseSize l.length = l)
    (hf : f.number < f.bound) : f.value mem = f.number := by
  obtain ⟨a, b, rfl, ha⟩ := h
  have hs : mem.slice (mngMsgBaseSize + f.off) f.width = beOctets f.width f.number := by
    have h1 := congrArg (fun l => (List.drop a.length l).take f.width) hm
    rw [Mem.drop_slice _ _ (by simp), Mem.take_slice _ _ (by simp), ha] at h1
    simpa [← ha] using h1
  have hw : mem.word (mngMsgBaseSize + f.off) f.width = f.number := by
    unfold Mem.word
    rw [hs, beNat_beOctets_of_lt (lt_of_lt_of_le hf f.bound_le)]
  unfold LengthField.value
  dsimp only
  rw [hw, if_neg fun h => absurd h.2 (not_le.2 hf)]

theorem StandsIn.append {l : List UInt8} (h : f.StandsIn l) (r : List UInt8) : f.StandsIn (l ++ r) := by
  obtain ⟨a, b, rfl, ha⟩ := h
  exact ⟨a, b ++ r, by simp, ha⟩

end LengthField

/-- The addressLengths of a table whose records start at an offset. -/
def addressLengths (off : Nat) : List PortAddress_t → List LengthField
  | [] => []
  | a :: l => ⟨off + 2, 2, false, a.addressField.length⟩ :: addressLengths (off + 4 + a.addressField.length % 65536) l

/-- The fields of a structure that can be sent. -/
def BaseMngTlv.lengthFields : BaseMngTlv → List LengthField
  | .USER_DESCRIPTION d => [⟨0, 1, false, d.userDescription.textField.length⟩]
  | .GRANDMASTER_CLUSTER_TABLE d => ⟨1, 1, false, d.PortAddress.length⟩ :: addressLengths 2 d.PortAddress
  | .UNICAST_MASTER_TABLE d => ⟨1, 2, false, d.PortAddress.length⟩ :: addressLengths 3 d.PortAddress
  | .ACCEPTABLE_MASTER_TABLE d => [⟨0, 2, true, d.list.length⟩]
  | .ALTERNATE_TIME_OFFSET_NAME d => [⟨1, 1, false, d.displayName.textField.length⟩]
  | _ => []

theorem addressLengths_fit_iff (off : Nat) (l : List PortAddress_t) :
    (∀ f ∈ addressLengths off l, f.number < f.bound) ↔ ∀ a ∈ l, a.addressField.length < 65536 := by
  induction l generalizing off with
  | nil => simp [addressLengths]
  | cons a l ih => simp only [addressLengths, List.forall_mem_cons, ih]; rfl

theorem lengthsFit_iff (d : BaseMngTlv) : LengthsFit d ↔ ∀ f ∈ d.lengthFields, f.number < f.bound := by
  cases d with
  | USER_DESCRIPTION d => simp only [BaseMngTlv.lengthFields, List.mem_singleton, forall_eq]; rfl
  | GRANDMASTER_CLUSTER_TABLE d =>
    simp only [BaseMngTlv.lengthFields, List.forall_mem_cons, addressLengths_fit_iff]; rfl
  | UNICAST_MASTER_TABLE d =>
    simp only [BaseMngTlv.lengthFields, List.forall_mem_cons, addressLengths_fit_iff]; rfl
  | ACCEPTABLE_MASTER_TABLE d =>
    simp only [BaseMngTlv.lengthFields, List.mem_singleton, forall_eq, LengthField.bound, if_true]; rfl
  | ALTERNATE_TIME_OFFSET_NAME d => simp only [BaseMngTlv.lengthFields, List.mem_singleton, forall_eq]; rfl
  | _ => exact ⟨fun _ _ hf => absurd hf List.not_mem_nil, fun _ => trivial⟩

/-! ## Where they stand -/

/-- The octets of an address. -/
def addressOctets (a : PortAddress_t) : List UInt8 :=
  beOctets 2 a.networkProtocol.toNat ++ (beOctets 2 (UInt16.ofNat a.addressField.length).toNat ++ a.addressField)

theorem write_address (a : PortAddress_t) : (proc a : P PortAddress_t).write.octets = addressOctets a := by
  change _ ++ (_ ++ (a.addressField ++ [])) = _
  rw [List.append_nil]
  rfl

theorem write_addresses (cnt : Nat) (l : List PortAddress_t) :
    (vectorF cnt l).write.octets = (l.map addressOctets).flatten := by
  have h := write_all_octets (f := (proc : PortAddress_t → P PortAddress_t)) l fun a _ => (rfl : _ = some a.built)
  refine h.trans ?_
  congr 1
  exact List.map_congr_left fun a _ => write_address a

theorem addressLengths_stand {l : List PortAddress_t} (hl : ∀ a ∈ l, a.addressField.length < 65536) (p : List UInt8) :
    ∀ f ∈ addressLengths p.length l, f.StandsIn (p ++ (l.map addressOctets).flatten) := by
  induction l generalizing p with
  | nil => simp [addressLengths]
  | cons a l ih =>
    have ha := hl a List.mem_cons_self
    have hn : (UInt16.ofNat a.addressField.length).toNat = a.addressField.length := by simpa using ha
    intro f hf
    rcases List.mem_cons.1 hf with rfl | hf
    · refine ⟨p ++ beOctets 2 a.networkProtocol.toNat, a.addressField ++ (l.map addressOctets).flatten, ?_, by simp⟩
      simp only [List.map_cons, List.flatten_cons, addressOctets, hn, List.append_assoc]
    · have h := ih (fun b hb => hl b (List.mem_cons_of_mem _ hb)) (p ++ addressOctets a) f (by
        rw [Nat.mod_eq_of_lt ha] at hf
        rwa [show (p ++ addressOctets a).length = p.length + 4 + a.addressField.length by
          simp [addressOctets]; omega])
      simpa using h

/-- The number of a table's records and their lengths stand behind the octet in front of them. -/
theorem table_stand {o : List UInt8} {w : Nat} {l : List PortAddress_t} (ho : o.length = 1)
    (hl : ∀ a ∈ l, a.addressField.length < 65536) :
    ∀ f ∈ (⟨1, w, false, l.length⟩ : LengthField) :: addressLengths (1 + w) l,
      f.StandsIn (o ++ (beOctets w l.length ++ (l.map addressOctets).flatten)) := by
  intro f hf
  rcases List.mem_cons.1 hf with rfl | hf
  · exact ⟨o, _, rfl, ho⟩
  · have hlen : (o ++ beOctets w l.length).length = 1 + w := by rw [List.length_append, ho, beOctets_length]
    rw [← List.append_assoc]
    exact addressLengths_stand hl _ f (by rwa [hlen])

theorem beOctets_ofNat8 {n : Nat} (h : n < 256) : beOctets 1 (UInt8.ofNat n).toNat = beOctets 1 n :=
  congrArg _ (Nat.mod_eq_of_lt h)

theorem beOctets_ofNat16 {n : Nat} (h : n < 65536) : beOctets 2 (UInt16.ofNat n).toNat = beOctets 2 n :=
  congrArg _ (Nat.mod_eq_of_lt h)

theorem write_text {t : PTPText_t} (h : t.textField.length < 256) :
    (proc t : P PTPText_t).write.octets = beOctets 1 t.textField.length ++ t.textField := by
  have hn : (UInt16.ofNat t.textField.length).toNat = t.textField.length := Nat.mod_eq_of_lt (lt_trans h (by decide))
  change beOctets 1 (UInt8.ofNat t.textField.length).toNat ++
    (t.textField.take (UInt16.ofNat t.textField.length).toNat ++ []) = _
  rw [hn, beOctets_ofNat8 h, List.take_length, List.append_nil]

theorem write_addresses_bind {β : Type} (cnt : Nat) (l : List PortAddress_t) (f : List PortAddress_t → β) :
    (vectorF cnt l >>= fun r => (pure (f r) : P β)).write.octets = (l.map addressOctets).flatten := by
  rw [bind_pure_comp, write_map_octets, write_addresses]

/-- In a dataField that fits they stand before the octets and records they are for. -/
theorem lengthFields_stand {d : BaseMngTlv} (hl : LengthsFit d) : ∀ f ∈ d.lengthFields, f.StandsIn d.octets := by
  cases d with
  | USER_DESCRIPTION d =>
    intro f hf
    obtain rfl := List.mem_singleton.1 hf
    refine ⟨[], d.userDescription.textField, ?_, rfl⟩
    exact (write_map_octets _ _).trans ((write_map_octets _ _).trans (write_text hl))
  | GRANDMASTER_CLUSTER_TABLE d =>
    have ho : (BaseMngTlv.GRANDMASTER_CLUSTER_TABLE d).octets = beOctets 1 (Word.toNat d.logQueryInterval) ++
        (beOctets 1 d.PortAddress.length ++ (d.PortAddress.map addressOctets).flatten) := by
      rw [← beOctets_ofNat8 hl.1, ← write_addresses_bind (UInt8.ofNat d.PortAddress.length).toNat d.PortAddress
        (GRANDMASTER_CLUSTER_TABLE_t.mk d.logQueryInterval (UInt8.ofNat d.PortAddress.length))]
      exact write_map_octets _ _
    rw [ho]
    exact table_stand (beOctets_length 1 _) hl.2
  | UNICAST_MASTER_TABLE d =>
    have ho : (BaseMngTlv.UNICAST_MASTER_TABLE d).octets = beOctets 1 (Word.toNat d.logQueryInterval) ++
        (beOctets 2 d.PortAddress.length ++ (d.PortAddress.map addressOctets).flatten) := by
      rw [← beOctets_ofNat16 hl.1, ← write_addresses_bind (UInt16.ofNat d.PortAddress.length).toNat d.PortAddress
        (UNICAST_MASTER_TABLE_t.mk d.logQueryInterval (UInt16.ofNat d.PortAddress.length))]
      exact write_map_octets _ _
    rw [ho]
    exact table_stand (beOctets_length 1 _) hl.2
  | ACCEPTABLE_MASTER_TABLE d =>
    intro f hf
    obtain rfl := List.mem_singleton.1 hf
    have hn : (Int16.ofNat d.list.length).toUInt16.toNat = d.list.length :=
      Nat.mod_eq_of_lt (lt_trans hl (by decide))
    refine ⟨[], (vectorF (Int16.ofNat d.list.length).toInt32.toUInt32.toNat d.list).write.octets, ?_, rfl⟩
    refine (write_map_octets _ _).trans ?_
    change beOctets 2 (Int16.ofNat d.list.length).toUInt16.toNat ++ (vectorF _ d.list >>= fun r =>
      pure (ACCEPTABLE_MASTER_TABLE_t.mk (Int16.ofNat d.list.length) r) : P ACCEPTABLE_MASTER_TABLE_t).write.octets = _
    rw [hn, bind_pure_comp, write_map_octets]
    rfl
  | ALTERNATE_TIME_OFFSET_NAME d =>
    intro f hf
    obtain rfl := List.mem_singleton.1 hf
    refine ⟨beOctets 1 d.keyField.toNat, d.displayName.textField, ?_, rfl⟩
    refine (write_map_octets _ _).trans ?_
    change beOctets 1 d.keyField.toNat ++
      (proc d.displayName >>= fun t => pure (ALTERNATE_TIME_OFFSET_NAME_t.mk d.keyField t)
      : P ALTERNATE_TIME_OFFSET_NAME_t).write.octets = _
    rw [bind_pure_comp, write_map_octets, write_text hl]
  | _ => exact fun f hf => absurd hf List.not_mem_nil

/-! ## The message -/

/-- An object as a setAction that succeeds leaves it. The caller hands over a structure of the
id it gives. -/
inductive Message.Set : Message → Prop
  | setAction (m : Message) (action : ActionField) (id : MngVals) (h : (m.setAction action id).1 = true) :
      Set (m.setAction action id).2
  | setActionData (m : Message) (action : ActionField) (d : BaseMngTlv) (h : (m.setActionData action d.id d).1 = true) :
      Set (m.setActionData action d.id d).2

/-- The structure that a build sends. -/
def Message.payload (m : Message) : Option BaseMngTlv := if m.sendAction = .GET then none else m.dataSend

/-- All lengths in the message are the ones of what is there. -/
structure Truthful (m : Message) (bufSize : Nat) (b : Message.Built) : Prop where
  messageLength : b.mem.word 2 2 = b.msg.msgLen
  lengthField : (b.mem.word 50 2 : Int) = (b.msg.msgLen : Int) - 52
  even : b.msg.msgLen % 2 = 0
  fits : b.msg.msgLen ≤ bufSize
  fields : ∀ d ∈ m.payload, ∀ f ∈ d.lengthFields, f.value b.mem = f.number

theorem Message.allowedAction_spec {m : Message} {action : ActionField} {id : MngVals}
    (h : m.allowedAction id action = true) :
    (action = .GET ∨ action = .SET ∨ action = .COMMAND) ∧ (mngAllVals id).allowed &&& action.bit ≠ 0 := by
  unfold Message.allowedAction at h
  split at h
  · cases h
  next hreq =>
    split at h
    · cases h
    · refine ⟨?_, of_decide_eq_true h⟩
      by_contra hn
      exact hreq ⟨fun hg => hn (.inl hg), fun hs => hn (.inr (.inl hs)), fun hc => hn (.inr (.inr hc))⟩

/-- What a setAction that succeeds has checked. -/
theorem Message.setAction_ok {m : Message} {action : ActionField} {id : MngVals}
    (h : (m.setAction action id).1 = true) :
    m.allowedAction id action = true ∧ (action = .GET ∨ (mngAllVals id).size = 0) ∧
      (m.setAction action id).2 = { m with sendAction := action, tlvId := id, dataSend := none } := by
  unfold Message.setAction at h ⊢
  by_cases h1 : m.allowedAction id action = true
  · rw [if_neg (not_not.2 h1)] at h ⊢
    by_cases h2 : action ≠ .GET ∧ (mngAllVals id).size ≠ 0
    · rw [if_pos h2] at h
      cases h
    · rw [if_neg h2]
      refine ⟨h1, ?_, rfl⟩
      by_contra hn
      exact h2 ⟨fun hg => hn (.inl hg), fun hs => hn (.inr hs)⟩
  · rw [if_pos h1] at h
    cases h

theorem Message.setActionData_ok {m : Message} {action : ActionField} {id : MngVals} {d : BaseMngTlv}
    (h : (m.setActionData action id d).1 = true) :
    m.allowedAction id action = true ∧ (m.setActionData action id d).2 = { m with
      sendAction := action
      tlvId := id
      dataSend := if id ≠ .NULL_PTP_MANAGEMENT ∧ action ≠ .GET ∧ (mngAllVals id).size ≠ 0 then some d else none } := by
  unfold Message.setActionData at h ⊢
  by_cases h1 : m.allowedAction id action = true
  · rw [if_neg (not_not.2 h1)]
    exact ⟨h1, rfl⟩
  · rw [if_pos h1] at h
    cases h

theorem Message.Set.payload {m : Message} (h : m.Set) {d : BaseMngTlv} (hd : d ∈ m.payload) :
    m.sendAction ≠ .GET ∧ m.dataSend = some d ∧ d.id = m.tlvId ∧ Settable d.id := by
  have hg : m.sendAction ≠ .GET := fun hg => by simp [Message.payload, hg] at hd
  have hs : m.dataSend = some d := by simpa [Message.payload, hg] using hd
  refine ⟨hg, hs, ?_⟩
  cases h with
  | setAction m action id h =>
    rw [(Message.setAction_ok h).2.2] at hs
    cases hs
  | setActionData m action d' h =>
    obtain ⟨hallow, hset⟩ := Message.setActionData_ok h
    rw [hset] at hs hg ⊢
    obtain ⟨hact, hall⟩ := Message.allowedAction_spec hallow
    have ha : Allowed action d'.id := ⟨hact.resolve_left hg, hall⟩
    dsimp only at hs ⊢
    split at hs
    · obtain rfl := Option.some.inj hs
      exact ⟨rfl, ha.settable⟩
    · cases hs

theorem word_of_slice {mem : Mem} {off n : Nat} (h : mem.slice off 2 = beOctets 2 n) :
    mem.word off 2 = n % 65536 := by
  unfold Mem.word
  rw [h, beNat_beOctets]
  rfl

theorem buildEnd_lengths (m : Message) (c : Cursor MngParseError) (h : c.size % 2 = 0) :
    (m.buildEnd c).msg.msgLen = 54 + c.size ∧ (m.buildEnd c).mem.word 2 2 = (54 + c.size) % 65536 ∧
      (m.buildEnd c).mem.word 50 2 = (2 + c.size) % 65536 := by
  unfold Message.buildEnd
  dsimp only
  rw [if_neg (by simp only [mngMsgBaseSize, mngHeaderSize, tlvSize, lengthFieldMngBase]; omega)]
  refine ⟨rfl, word_of_slice (slice_store_self (by simp)), word_of_slice ?_⟩
  dsimp only
  rw [Mem.slice_store_of_disjoint (by simp)]
  exact slice_store_self (by simp)

/-- The zeros of a GET are few. -/
theorem zeroSize_le (id : MngVals) :
    (if (mngAllVals id).size = -2 then dataFieldSize id none else (mngAllVals id).size) ≤ 500 := by
  cases id <;> decide

theorem buildZero_size (m : Message) (c : Cursor MngParseError) (hs : c.size = 0) (h0 : 0 ≤ c.left) :
    match m.buildZero c with
    | (none, c') => c'.size % 2 = 0 ∧ c'.size ≤ 1000 ∧ (c'.size : Int) ≤ c.left
    | (some e, _) => e ≠ .OK := by
  have hk := zeroSize_le m.tlvId
  unfold Message.buildZero
  dsimp only
  generalize
    (if (mngAllVals m.tlvId).size = -2 then dataFieldSize m.tlvId none else (mngAllVals m.tlvId).size) = k at hk ⊢
  by_cases h1 : m.prms.useZeroGet = true ∨ (mngAllVals m.tlvId).size = 0
  · rw [if_pos h1]
    dsimp only
    omega
  rw [if_neg h1]
  by_cases h2 : k < 0
  · rw [if_pos h2]
    exact fun h => by cases h
  rw [if_neg h2]
  by_cases h3 : c.left < k + k % 2
  · rw [if_pos h3]
    exact fun h => by cases h
  rw [if_neg h3]
  dsimp only
  omega

/-- A build without a dataField of its own tells the truth. -/
theorem truthful_of_no_payload {m : Message} {buf : Mem} {bufSize : Nat} {sequence : UInt16} {b : Message.Built}
    (hp : m.payload = none) (hb : m.build buf bufSize sequence = some b) (hok : b.err = .OK) :
    Truthful m bufSize b := by
  -- the lengths are written last, from the size of the cursor
  have good (c : Cursor MngParseError) (he : c.size % 2 = 0) (hs : c.size ≤ 1000) (hc : 54 + c.size ≤ bufSize) :
      Truthful m bufSize (m.buildEnd c) := by
    obtain ⟨h1, h2, h3⟩ := buildEnd_lengths m c he
    refine ⟨by rw [h1, h2]; omega, by rw [h1, h3]; omega, by rw [h1]; omega, by rw [h1]; exact hc, ?_⟩
    rw [hp]
    intro d hd
    cases hd
  cases Message.build_cases hb with
  | small => cases hok
  | @zero e c hs hg hz =>
    simp only [mngMsgBaseSize, mngHeaderSize, tlvSize, lengthFieldMngBase] at hs
    have hsize := buildZero_size m (m.buildCursor buf bufSize sequence) rfl (by
      simp only [Message.buildCursor, mngMsgBaseSize, mngHeaderSize, tlvSize, lengthFieldMngBase]; omega)
    rw [hz] at hsize
    cases e with
    | none =>
      obtain ⟨heven, hle, hleft⟩ := hsize
      refine good c heven hle ?_
      simp only [Message.buildCursor, mngMsgBaseSize, mngHeaderSize, tlvSize, lengthFieldMngBase] at hleft
      omega
    | some e => exact absurd hok hsize
  | empty hs =>
    simp only [mngMsgBaseSize, mngHeaderSize, tlvSize, lengthFieldMngBase] at hs
    exact good _ rfl (Nat.zero_le _) (by simp only [Message.buildCursor]; omega)
  | @data d _ _ _ hs hg hd =>
    rw [Message.payload, if_neg hg, hd] at hp
    cases hp

theorem write_proc48_big {v : UInt64} (h : ¬ v ≤ UINT48_MAX) :
    (proc48 v).Tame ∧ (proc48 v).write = ⟨[], none, some .VAL⟩ := by
  unfold proc48
  change (if true = true ∧ v > UINT48_MAX then fail (some .VAL) else _ : P UInt64).Tame ∧
    (if true = true ∧ v > UINT48_MAX then fail (some .VAL) else _ : P UInt64).write = _
  rw [if_pos ⟨rfl, UInt64.not_le.1 h⟩]
  exact ⟨trivial, rfl⟩

/-- Seconds that do not fit are an error. -/
theorem write_not_fits48 {d : BaseMngTlv} (h : ¬ Fits48 d) :
    (procTlv d).Tame ∧ (procTlv d).write.val = none ∧ (procTlv d).write.err = some .VAL := by
  have bind {α β : Type} {p : P α} {o : List UInt8} (hp : p.Tame ∧ p.write = ⟨o, none, some .VAL⟩) (f : α → P β) :
      (p >>= f).Tame ∧ (p >>= f).write = ⟨o, none, some .VAL⟩ :=
    ⟨tame_bind hp.1 fun a ha => (by rw [hp.2] at ha; cases ha), by rw [write_bind, hp.2]⟩
  have word {α β : Type} [Word α] {v : α} {f : α → P β} (hf : (f v).Tame ∧ ∃ o, (f v).write = ⟨o, none, some .VAL⟩) :
      (proc v >>= f).Tame ∧ ∃ o, (proc v >>= f).write = ⟨o, none, some .VAL⟩ := by
    obtain ⟨ht, o, ho⟩ := hf
    refine ⟨tame_bind (Emits.word v).tame fun a ha => by obtain rfl := Option.some.inj ha; exact ht, ?_⟩
    rw [write_bind_of_some rfl, ho]
    exact ⟨_, rfl⟩
  cases d with
  | TIME d =>
    obtain ⟨ht, hw⟩ := bind (bind (bind (write_proc48_big h) fun secondsField =>
      proc d.currentTime.nanosecondsField >>= fun nanosecondsField =>
        pure (Timestamp_t.mk secondsField nanosecondsField))
      fun a => pure (TIME_t.mk a)) fun a => pure (BaseMngTlv.TIME a)
    exact ⟨ht, congrArg Written.val hw, congrArg Written.err hw⟩
  | ALTERNATE_TIME_OFFSET_PROPERTIES d =>
    have hp : (ALTERNATE_TIME_OFFSET_PROPERTIES_f d).Tame ∧
        ∃ o, (ALTERNATE_TIME_OFFSET_PROPERTIES_f d).write = ⟨o, none, some .VAL⟩ := by
      unfold ALTERNATE_TIME_OFFSET_PROPERTIES_f
      obtain ⟨ht, hw⟩ := bind (write_proc48_big h) fun timeOfNextJump => pure { d with timeOfNextJump }
      exact word (word (word ⟨ht, _, hw⟩))
    obtain ⟨ht, o, ho⟩ := hp
    obtain ⟨ht', hw⟩ := bind ⟨ht, ho⟩ fun a => pure (BaseMngTlv.ALTERNATE_TIME_OFFSET_PROPERTIES a)
    exact ⟨ht', congrArg Written.val hw, congrArg Written.err hw⟩
  | _ => exact absurd trivial h

/-- A build that succeeds has written the octets of the structure. -/
theorem build_payload {m : Message} {d : BaseMngTlv} {buf : Mem} {bufSize : Nat} {sequence : UInt16}
    {b : Message.Built} (hset : m.Set) (hd : d ∈ m.payload) (hl : LengthsFit d)
    (hb : m.build buf bufSize sequence = some b) (hok : b.err = .OK) :
    b.msg.msgLen = messageSize d ∧ messageSize d = 54 + d.body.length ∧ messageSize d ≤ bufSize ∧
      b.mem = m.builtMem buf sequence d.body := by
  obtain ⟨hg, hds, hid, hs⟩ := hset.payload hd
  have h48 : Fits48 d := by
    by_contra hn
    obtain ⟨ht, hv, he⟩ := write_not_fits48 hn
    obtain ⟨⟨a, ha⟩, -⟩ := build_data_ok buf sequence hg hds hid ht (by rw [he]; decide) hb hok
    rw [hv] at ha
    cases ha
  obtain ⟨n, he, -⟩ := emits_procTlv hs hl.texts h48
  have hv := write_procTlv hs h48
  obtain ⟨-, hroom⟩ := build_data_ok buf sequence hg hds hid he.tame (by rw [write_err hv]; decide) hb hok
  obtain ⟨b', hb', -, hmsg, hmem⟩ := build_ok buf sequence hg hds hid he.tame hv hroom
  obtain rfl : b' = b := Option.some.inj (hb'.symm.trans hb)
  rw [messageSize_eq hs hl.texts h48, hmsg]
  exact ⟨rfl, rfl, hroom, hmem⟩

/-- A build that succeeds tells the truth about all lengths exactly where each number fits the
field for it and the message is no longer than its length can say. -/
theorem build_truthful_iff (m : Message) (hset : m.Set) (buf : Mem) (bufSize : Nat) (sequence : UInt16)
    (b : Message.Built) (hb : m.build buf bufSize sequence = some b) (hok : b.err = .OK) :
    Truthful m bufSize b ↔ ∀ d ∈ m.payload, LengthsFit d ∧ messageSize d ≤ 65535 := by
  constructor
  · intro ht d hd
    have hl : LengthsFit d := (lengthsFit_iff d).2 fun f hf => by
      have h := f.value_lt b.mem
      rw [ht.fields d hd f hf] at h
      exact_mod_cast h
    have hw := LengthField.word_lt b.mem 2 2
    obtain ⟨hlen, -⟩ := build_payload hset hd hl hb hok
    rw [ht.messageLength, hlen] at hw
    exact ⟨hl, Nat.le_of_lt_succ hw⟩
  · intro h
    cases hp : m.payload with
    | none => exact truthful_of_no_payload hp hb hok
    | some d =>
      obtain ⟨hl, hmax⟩ := h d hp
      obtain ⟨hlen, hsize, hroom, hmem⟩ := build_payload hset hp hl hb hok
      have ho := builtOctets m buf sequence d.body
      rw [← hmem] at ho
      have heven := body_even d
      refine ⟨?_, ?_, ?_, by rw [hlen]; exact hroom, ?_⟩
      · rw [word_of_slice ho.messageLength, hlen, hsize]
        omega
      · rw [word_of_slice ho.lengthField, hlen, hsize]
        omega
      · rw [hlen, hsize]
        omega
      · intro d' hd' f hf
        obtain rfl : d' = d := Option.some.inj (hd'.symm.trans hp)
        exact ((lengthFields_stand hl f hf).append _).value ho.dataField ((lengthsFit_iff d').1 hl f hf)

/-- A new object's request to set a structure. -/
def setRequest (d : BaseMngTlv) : Message :=
  { Message.new default with
    sendAction := .SET
    tlvId := d.id
    dataSend := some d }

theorem set_setRequest {d : BaseMngTlv} (ha : Allowed .SET d.id) : (setRequest d).Set := by
  have h := setActionData_allowed (Message.new default) ha rfl
  have hs := Message.Set.setActionData (Message.new default) .SET d (congrArg Prod.fst h)
  rw [h] at hs
  exact hs

/-- A request to set the description. -/
def describe (text : List UInt8) : Message := setRequest (.USER_DESCRIPTION ⟨⟨0, text⟩⟩)

theorem set_describe (text : List UInt8) : (describe text).Set :=
  set_setRequest ⟨.inl rfl, by simp only [BaseMngTlv.id]; decide⟩

theorem build_describe (text : List UInt8) (n : Nat) (h : text.length < 65536)
    (hroom : mngMsgBaseSize + (BaseMngTlv.USER_DESCRIPTION ⟨⟨0, text⟩⟩).body.length ≤ n) :
    ∃ b, (describe text).build (fun _ => 0) n 1 = some b ∧ b.err = .OK ∧
      b.mem = (describe text).builtMem (fun _ => 0) 1 (BaseMngTlv.USER_DESCRIPTION ⟨⟨0, text⟩⟩).body := by
  have := emits_text (v := ⟨0, text⟩) h
  have he : Emits (BaseMngTlv.USER_DESCRIPTION <$> USER_DESCRIPTION_t.mk <$> proc (⟨0, text⟩ : PTPText_t)) _ :=
    inferInstance
  have hg : (describe text).sendAction ≠ .GET := fun hg => by cases hg
  obtain ⟨b, hb, hok, -, hmem⟩ := build_ok (m := describe text) (fun _ => 0) 1 hg rfl rfl he.tame rfl hroom
  exact ⟨b, hb, hok, hmem⟩

theorem build_truthful_describe :
    ∃ b, (describe [104, 105]).build (fun _ => 0) 58 1 = some b ∧ b.err = .OK ∧
    Truthful (describe [104, 105]) 58 b := by
  obtain ⟨b, hb, hok, -⟩ := build_describe [104, 105] 58 (by decide) (by decide)
  refine ⟨b, hb, hok, (build_truthful_iff _ (set_describe _) _ _ _ b hb hok).2 fun d hd => ?_⟩
  obtain rfl := Option.some.inj hd
  exact ⟨(by decide : [104, 105].length < 256), by decide⟩

/-- A text of 256 octets is sent with a length of 0. -/
theorem build_hides_length : ¬ ∀ (m : Message) (_ : m.Set) (buf : Mem) (bufSize : Nat) (sequence : UInt16)
    (b : Message.Built), m.build buf bufSize sequence = some b → b.err = .OK → Truthful m bufSize b := by
  intro h
  obtain ⟨text, hlen⟩ : ∃ text : List UInt8, text.length = 256 := ⟨List.replicate 256 0, List.length_replicate⟩
  obtain ⟨b, hb, hok, hmem⟩ := build_describe text _ (show text.length < 65536 by omega) (le_refl _)
  have hv := (h _ (set_describe text) _ _ _ b hb hok).fields _ rfl ⟨0, 1, false, text.length⟩ (List.mem_singleton.2 rfl)
  have hs := (builtOctets (describe text) (fun _ => 0) 1 (BaseMngTlv.USER_DESCRIPTION ⟨⟨0, text⟩⟩).body).dataField
  rw [← hmem] at hs
  have h0 : b.mem.slice 54 1 = [UInt8.ofNat ((UInt8.ofNat text.length).toNat / 256 ^ 0)] := by
    rw [← Mem.take_slice b.mem 54 (show 1 ≤ (BaseMngTlv.USER_DESCRIPTION ⟨⟨0, text⟩⟩).body.length from
      Nat.succ_le_succ (Nat.zero_le _)), hs]
    rfl
  have hw : LengthField.value ⟨0, 1, false, text.length⟩ b.mem = (beNat (b.mem.slice 54 1) : Nat) := rfl
  rw [hw, h0, hlen] at hv
  exact absurd hv (by decide)

end LibPmc
