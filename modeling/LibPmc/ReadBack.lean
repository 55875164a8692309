import LibPmc.DumpBack
import Mathlib.Data.Nat.Bitwise
/-!
# Printed structures as commands

Which structures `call_data` gives back from what `call_dump` prints of them:
`dump_read_back_iff`.
-/
namespace LibPmc

open Cstr Wire

/-! ## Rows -/

/-- What the key of a row makes of its value. -/
def Row.Settles (keys : Keys) (row : Row) : Prop :=
  (row.ok → ∃ s, (row.key keys).settle row.value = .ok (row.num, s)) ∧
    (¬ row.ok → (row.key keys).settle row.value = .error .error)

section Rows
variable {label : String} (h : isLabel label = true) (entry : String)

/-- A number in decimal, for a key with a range. -/
def numRow (v min max : Int) : Row := ⟨label, h, entry, signed v, isWord_signed v, min ≤ v ∧ v ≤ max, v⟩

/-- A number in hexadecimal. -/
def hexRow (n : Nat) (min max : Int) : Row := ⟨label, h, entry, hex n, isWord_hex n, min ≤ n ∧ (n : Int) ≤ max, n⟩

/-- A flag in decimal. -/
def flagRow (v : Int) : Row := ⟨label, h, entry, signed v, isWord_signed v, True, v⟩

variable {h} {entry} {keys : Keys}

theorem numRow_settles {v min max : Int} (hk : (keys.start.get entry).IsNumber 0 min max) (hn : 0 ≤ min)
    (hm : max < 0x7fffffffffffffff) : (numRow h entry v min max).Settles keys := by
  obtain ⟨h1, h2⟩ := settle_cut hk (zero_notMem_signed v) (strtoll_cut v) hn hm
  exact ⟨fun hv => ⟨_, h1 hv⟩, h2⟩

theorem hexRow_settles {base n : Nat} {min max : Int} (hk : (keys.start.get entry).IsNumber base min max)
    (hb : base = 0 ∨ base = 16)
    (hn : 0 ≤ min) (hm : max < 0x7fffffffffffffff) : (hexRow h entry n min max).Settles keys := by
  have hs : strtoll (hex n) base = (cut n, []) := by
    rcases hb with rfl | rfl
    · exact (strtoll_hex n).1
    · exact (strtoll_hex n).2
  obtain ⟨h1, h2⟩ := settle_cut hk (zero_notMem_word (isWord_hex n)) hs hn hm
  exact ⟨fun hv => ⟨_, h1 hv⟩, h2⟩

theorem flagRow_settles {v : Int} (hk : (keys.start.get entry).IsFlag) (hb : (keys.start.get entry).base = 0)
    (hv : 0 ≤ v ∧ v ≤ 255) :
    (flagRow h entry v).Settles keys := by
  have hc : cut v = v := by
    unfold cut
    omega
  have hs : strtoll (signed v) (keys.start.get entry).base = (v, []) := by rw [hb, strtoll_cut, hc]
  exact ⟨fun _ => ⟨_, strtoll_flag hk (zero_notMem_signed v) hs hv⟩, fun hn => absurd trivial hn⟩

end Rows

/-! ## A structure -/

section Reads
variable (libc : Inet)

/-- The line that is printed of a structure, as the rest of a command, sets a new structure to it,
whatever its memory held. -/
def ReadsBack (d : BaseMngTlv) : Prop :=
  ∀ mem pre r, mem.id = d.id → call_data mem (pre ++ (dump libc d ++ 0 :: r)) pre.length = .ok d

variable {libc}

/-- The structures of one id. -/
class IsConstructor {α : Type} (id : α → BaseMngTlv) : Prop where
  exists_eq : ∀ d mem, mem.id = (id d).id → ∃ m, mem = id m
  id_eq : ∀ m m', (id m).id = (id m').id
  inj : ∀ m m', id m = id m' → m = m'

instance : IsConstructor BaseMngTlv.INITIALIZE :=
  ⟨fun _ mem h => by cases mem <;> cases h; exact ⟨_, rfl⟩, fun _ _ => rfl, fun _ _ h => by cases h; rfl⟩
instance : IsConstructor BaseMngTlv.PRIORITY1 :=
  ⟨fun _ mem h => by cases mem <;> cases h; exact ⟨_, rfl⟩, fun _ _ => rfl, fun _ _ h => by cases h; rfl⟩
instance : IsConstructor BaseMngTlv.PRIORITY2 :=
  ⟨fun _ mem h => by cases mem <;> cases h; exact ⟨_, rfl⟩, fun _ _ => rfl, fun _ _ h => by cases h; rfl⟩
instance : IsConstructor BaseMngTlv.DOMAIN :=
  ⟨fun _ mem h => by cases mem <;> cases h; exact ⟨_, rfl⟩, fun _ _ => rfl, fun _ _ h => by cases h; rfl⟩
instance : IsConstructor BaseMngTlv.ANNOUNCE_RECEIPT_TIMEOUT :=
  ⟨fun _ mem h => by cases mem <;> cases h; exact ⟨_, rfl⟩, fun _ _ => rfl, fun _ _ h => by cases h; rfl⟩
instance : IsConstructor BaseMngTlv.PRIMARY_DOMAIN :=
  ⟨fun _ mem h => by cases mem <;> cases h; exact ⟨_, rfl⟩, fun _ _ => rfl, fun _ _ h => by cases h; rfl⟩
instance : IsConstructor BaseMngTlv.SYNCHRONIZATION_UNCERTAIN_NP :=
  ⟨fun _ mem h => by cases mem <;> cases h; exact ⟨_, rfl⟩, fun _ _ => rfl, fun _ _ h => by cases h; rfl⟩
instance : IsConstructor BaseMngTlv.LOG_ANNOUNCE_INTERVAL :=
  ⟨fun _ mem h => by cases mem <;> cases h; exact ⟨_, rfl⟩, fun _ _ => rfl, fun _ _ h => by cases h; rfl⟩
instance : IsConstructor BaseMngTlv.LOG_MIN_PDELAY_REQ_INTERVAL :=
  ⟨fun _ mem h => by cases mem <;> cases h; exact ⟨_, rfl⟩, fun _ _ => rfl, fun _ _ h => by cases h; rfl⟩
instance : IsConstructor BaseMngTlv.LOG_SYNC_INTERVAL :=
  ⟨fun _ mem h => by cases mem <;> cases h; exact ⟨_, rfl⟩, fun _ _ => rfl, fun _ _ h => by cases h; rfl⟩
instance : IsConstructor BaseMngTlv.DELAY_MECHANISM :=
  ⟨fun _ mem h => by cases mem <;> cases h; exact ⟨_, rfl⟩, fun _ _ => rfl, fun _ _ h => by cases h; rfl⟩
instance : IsConstructor BaseMngTlv.CLOCK_ACCURACY :=
  ⟨fun _ mem h => by cases mem <;> cases h; exact ⟨_, rfl⟩, fun _ _ => rfl, fun _ _ h => by cases h; rfl⟩
instance : IsConstructor BaseMngTlv.SLAVE_ONLY :=
  ⟨fun _ mem h => by cases mem <;> cases h; exact ⟨_, rfl⟩, fun _ _ => rfl, fun _ _ h => by cases h; rfl⟩
instance : IsConstructor BaseMngTlv.UNICAST_NEGOTIATION_ENABLE :=
  ⟨fun _ mem h => by cases mem <;> cases h; exact ⟨_, rfl⟩, fun _ _ => rfl, fun _ _ h => by cases h; rfl⟩
instance : IsConstructor BaseMngTlv.PATH_TRACE_ENABLE :=
  ⟨fun _ mem h => by cases mem <;> cases h; exact ⟨_, rfl⟩, fun _ _ => rfl, fun _ _ h => by cases h; rfl⟩
instance : IsConstructor BaseMngTlv.ACCEPTABLE_MASTER_TABLE_ENABLED :=
  ⟨fun _ mem h => by cases mem <;> cases h; exact ⟨_, rfl⟩, fun _ _ => rfl, fun _ _ h => by cases h; rfl⟩
instance : IsConstructor BaseMngTlv.EXTERNAL_PORT_CONFIGURATION_ENABLED :=
  ⟨fun _ mem h => by cases mem <;> cases h; exact ⟨_, rfl⟩, fun _ _ => rfl, fun _ _ h => by cases h; rfl⟩
instance : IsConstructor BaseMngTlv.HOLDOVER_UPGRADE_ENABLE :=
  ⟨fun _ mem h => by cases mem <;> cases h; exact ⟨_, rfl⟩, fun _ _ => rfl, fun _ _ h => by cases h; rfl⟩
instance : IsConstructor BaseMngTlv.MASTER_ONLY :=
  ⟨fun _ mem h => by cases mem <;> cases h; exact ⟨_, rfl⟩, fun _ _ => rfl, fun _ _ h => by cases h; rfl⟩
instance : IsConstructor BaseMngTlv.UTC_PROPERTIES :=
  ⟨fun _ mem h => by cases mem <;> cases h; exact ⟨_, rfl⟩, fun _ _ => rfl, fun _ _ h => by cases h; rfl⟩
instance : IsConstructor BaseMngTlv.TRACEABILITY_PROPERTIES :=
  ⟨fun _ mem h => by cases mem <;> cases h; exact ⟨_, rfl⟩, fun _ _ => rfl, fun _ _ h => by cases h; rfl⟩
instance : IsConstructor BaseMngTlv.VERSION_NUMBER :=
  ⟨fun _ mem h => by cases mem <;> cases h; exact ⟨_, rfl⟩, fun _ _ => rfl, fun _ _ h => by cases h; rfl⟩
instance : IsConstructor BaseMngTlv.ALTERNATE_MASTER :=
  ⟨fun _ mem h => by cases mem <;> cases h; exact ⟨_, rfl⟩, fun _ _ => rfl, fun _ _ h => by cases h; rfl⟩
instance : IsConstructor BaseMngTlv.ALTERNATE_TIME_OFFSET_PROPERTIES :=
  ⟨fun _ mem h => by cases mem <;> cases h; exact ⟨_, rfl⟩, fun _ _ => rfl, fun _ _ h => by cases h; rfl⟩
instance : IsConstructor BaseMngTlv.PORT_DATA_SET_NP :=
  ⟨fun _ mem h => by cases mem <;> cases h; exact ⟨_, rfl⟩, fun _ _ => rfl, fun _ _ h => by cases h; rfl⟩
instance : IsConstructor BaseMngTlv.EXT_PORT_CONFIG_PORT_DATA_SET :=
  ⟨fun _ mem h => by cases mem <;> cases h; exact ⟨_, rfl⟩, fun _ _ => rfl, fun _ _ h => by cases h; rfl⟩
instance : IsConstructor BaseMngTlv.GRANDMASTER_SETTINGS_NP :=
  ⟨fun _ mem h => by cases mem <;> cases h; exact ⟨_, rfl⟩, fun _ _ => rfl, fun _ _ h => by cases h; rfl⟩
instance : IsConstructor BaseMngTlv.SUBSCRIBE_EVENTS_NP :=
  ⟨fun _ mem h => by cases mem <;> cases h; exact ⟨_, rfl⟩, fun _ _ => rfl, fun _ _ h => by cases h; rfl⟩

/-- Where the lines of a structure are rows for its table, it is read back exactly if each row is
taken and what the numbers make of any memory is the structure. -/
theorem readsBack_iff {α : Type} (id : α → BaseMngTlv) [hid : IsConstructor id] {d : α} (keys : Keys) (rows : List Row)
    (tail : Buf)
    {g : α → Keys × Buf → α} (made : α → α)
    (hc : ∀ m buf save, call_data (id m) buf save = id <$> (parseKeysFunc keys buf save >>= fun k => pure (g m k)))
    (hx : dump libc (id d) = rows.flatMap Row.octets ++ tail) (ht : tail = [] ∨ tail.head? = some 32)
    (hf : Fits keys rows) (hs : ∀ row ∈ rows, row.Settles keys) (htail : tail ≠ [] → ∃ row ∈ rows, ¬ row.ok)
    (hg : (∀ row ∈ rows, row.ok) → ∀ m k, rows.Forall (fun row => k.1.num row.entry = row.num) →
      (∀ name, (∀ row ∈ rows, row.entry ≠ name) → k.1.num name = keys.start.num name) → g m k = made m) :
    ReadsBack libc (id d) ↔ rows.Forall Row.ok ∧ ∀ m, made m = d := by
  by_cases hok : ∀ row ∈ rows, row.ok
  · obtain rfl : tail = [] := by
      by_contra h
      obtain ⟨row, hm, hn⟩ := htail h
      exact hn (hok row hm)
    have hp (m : α) (pre r : Buf) :
        call_data (id m) (pre ++ (dump libc (id d) ++ 0 :: r)) pre.length = .ok (id (made m)) := by
      obtain ⟨keys', buf, hres, hnum, hrest⟩ := parse_rows hf (fun row hm => (hs row hm).1 (hok row hm)) pre r
      rw [hc, hx, List.append_nil, hres, ← hg hok m (keys', buf) (List.forall_iff_forall_mem.2 hnum) hrest]
      rfl
    constructor
    · intro h
      refine ⟨List.forall_iff_forall_mem.2 hok, fun m => ?_⟩
      exact hid.inj _ _ (Except.ok.inj ((hp m [] []).symm.trans (h (id m) [] [] (hid.id_eq m d))))
    · rintro ⟨-, h⟩ mem pre r hmem
      obtain ⟨m, rfl⟩ := hid.exists_eq d mem hmem
      rw [hp, h]
  · refine iff_of_false ?_ fun h => hok (List.forall_iff_forall_mem.1 h.1)
    intro h
    have hb : ∃ row ∈ rows, (row.key keys).settle row.value = .error .error := by
      simp only [not_forall] at hok
      obtain ⟨row, hm, hn⟩ := hok
      exact ⟨row, hm, (hs row hm).2 hn⟩
    have := h (id d) [] [] rfl
    rw [List.nil_append, List.length_nil, hc, hx, List.append_assoc, parse_rows_refused hf hb tail [] ht] at this
    cases this

/-- Labels for a table without handlers. -/
theorem fits_plain {keys : Keys} {rows : List Row} (h : keys.fits (rows.map fun row => (row.label, row.entry)) = true)
    (hk : keys.all fun k => k.2.handle.isNone) : Fits keys rows := by
  refine ⟨h, fun k hm f hf => ?_⟩
  have := List.all_eq_true.1 hk k hm
  rw [Option.mem_def.1 hf] at this
  exact Bool.noConfusion this

/-- A structure with a single line. -/
theorem reads_one {α : Type} (id : α → BaseMngTlv) [IsConstructor id] {d : α} (keys : Keys) (row : Row) (f : Int → α)
    (hf : keys.fits [(row.label, row.entry)] = true) (hk : keys.all fun k => k.2.handle.isNone) (hs : row.Settles keys)
    (hc : ∀ m buf save, call_data (id m) buf save = id <$> (parseKeysFunc keys buf save >>=
      fun k => pure (f (k.1.num row.entry))))
    (hx : dump libc (id d) = row.octets) :
    ReadsBack libc (id d) ↔ row.ok ∧ f row.num = d := by
  have hone : dump libc (id d) = [row].flatMap Row.octets ++ [] := by
    rw [hx, List.flatMap_singleton, List.append_nil]
  have h := readsBack_iff id keys [row] [] (fun _ => f row.num) hc hone (.inl rfl) (fits_plain hf hk)
    (List.forall_mem_singleton.2 hs) (fun hn => absurd rfl hn)
    (fun _ m k (hnum : k.1.num row.entry = row.num) _ => congrArg f hnum)
  exact h.trans (and_congr_right fun _ => ⟨fun h => h d, fun h _ => h⟩)

/-- The key of a table with a single one, once the tokens are read. -/
theorem start_one (entry : String) (key : val_key_t) :
    (Keys.start [(entry, key)]).get entry =
      if key.req then key else { key with str_val := .empty, num := key.dflt } := by
  simp [Keys.start, Keys.get]

/-! ## A number -/

section Numbers

theorem ofInt_word {α : Type} [Word α] (a : α) :
    Word.ofNat ((Word.toNat a : Int) % ((256 ^ Word.width α : Nat) : Int)).toNat = a := by
  rw [← Int.natCast_emod, Int.toNat_natCast, Nat.mod_eq_of_lt (Word.toNat_lt a), Word.ofNat_toNat]

theorem ofInt_uint8 (n : UInt8) : UInt8.ofInt n.toNat = n := ofInt_word n
theorem ofInt_uint16 (n : UInt16) : UInt16.ofInt n.toNat = n := ofInt_word n
theorem ofInt_uint32 (n : UInt32) : UInt32.ofInt n.toNat = n := ofInt_word n
theorem ofInt_uint64 (n : UInt64) : UInt64.ofInt n.toNat = n := ofInt_word n

theorem range_uint8 (n : UInt8) : (0 : Int) ≤ n.toNat ∧ (n.toNat : Int) ≤ 255 := by
  have := n.toNat_lt
  omega

theorem range_uint16 (n : UInt16) : (0 : Int) ≤ n.toNat ∧ (n.toNat : Int) ≤ 0xffff := by
  have := n.toNat_lt
  omega

theorem range_int8 (n : Int8) : n.toInt ≤ 0x7f := by
  have := n.toInt_lt
  omega

theorem upTo_uint8 (n max : UInt8) : ((0 : Int) ≤ n.toNat ∧ (n.toNat : Int) ≤ max.toNat) ↔ n ≤ max := by
  rw [UInt8.le_iff_toNat_le]
  omega

/-- A structure with a single number. -/
theorem reads_num {α : Type} (id : α → BaseMngTlv) [IsConstructor id] {d : α} (label entry : String) (key : val_key_t)
    (v : Int) (f : Int → α) (hk : key.IsNumber 0 0 key.max)
    (hl : isLabel label = true ∧ Keys.fits [(entry, key)] [(label, entry)] = true ∧ key.max < 0x7fffffffffffffff)
    (hc : ∀ m buf save, call_data (id m) buf save =
      id <$> (parseKeysFunc [(entry, key)] buf save >>= fun k => pure (f (k.1.num entry))))
    (hx : dump libc (id d) = field label (signed v)) :
    ReadsBack libc (id d) ↔ (0 ≤ v ∧ v ≤ key.max) ∧ f v = d := by
  obtain ⟨hl, hf, hm⟩ := hl
  have hs : ((Keys.start [(entry, key)]).get entry).IsNumber 0 0 key.max := by
    rw [start_one]
    split
    · exact hk
    · exact ⟨hk.handle, hk.flag, hk.can_str, hk.base, hk.min, rfl⟩
  exact reads_one id [(entry, key)] (numRow hl entry v 0 key.max) f hf (by simp [hk.handle])
    (numRow_settles hs (le_refl 0) hm) hc hx

theorem reads_INITIALIZE (d : INITIALIZE_t) : ReadsBack libc (.INITIALIZE d) :=
  (reads_num .INITIALIZE "initializationKey " "initializationKey" { dflt := 0x0000, max := 0xffff }
    d.initializationKey.toNat (fun n => ⟨UInt16.ofInt n⟩)
    ⟨rfl, rfl, rfl, rfl, rfl, rfl⟩ (by decide) (fun _ _ _ => rfl) rfl).2
    ⟨range_uint16 _, congrArg INITIALIZE_t.mk (ofInt_uint16 _)⟩

theorem reads_PRIORITY1 (d : PRIORITY1_t) : ReadsBack libc (.PRIORITY1 d) :=
  (reads_num .PRIORITY1 "priority1 " "priority1" { dflt := 128, max := 255 } d.priority1.toNat
    (fun n => ⟨UInt8.ofInt n⟩) ⟨rfl, rfl, rfl, rfl, rfl, rfl⟩ (by decide) (fun _ _ _ => rfl) rfl).2
    ⟨range_uint8 _, congrArg PRIORITY1_t.mk (ofInt_uint8 _)⟩

theorem reads_PRIORITY2 (d : PRIORITY2_t) : ReadsBack libc (.PRIORITY2 d) :=
  (reads_num .PRIORITY2 "priority2 " "priority2" { dflt := 128, max := 255 } d.priority2.toNat
    (fun n => ⟨UInt8.ofInt n⟩) ⟨rfl, rfl, rfl, rfl, rfl, rfl⟩ (by decide) (fun _ _ _ => rfl) rfl).2
    ⟨range_uint8 _, congrArg PRIORITY2_t.mk (ofInt_uint8 _)⟩

theorem reads_DOMAIN (d : DOMAIN_t) : ReadsBack libc (.DOMAIN d) :=
  (reads_num .DOMAIN "domainNumber " "domainNumber" { max := 0xff } d.domainNumber.toNat (fun n => ⟨UInt8.ofInt n⟩)
    ⟨rfl, rfl, rfl, rfl, rfl, rfl⟩ (by decide) (fun _ _ _ => rfl) rfl).2
    ⟨range_uint8 _, congrArg DOMAIN_t.mk (ofInt_uint8 _)⟩

theorem reads_ANNOUNCE_RECEIPT_TIMEOUT (d : ANNOUNCE_RECEIPT_TIMEOUT_t) :
    ReadsBack libc (.ANNOUNCE_RECEIPT_TIMEOUT d) :=
  (reads_num .ANNOUNCE_RECEIPT_TIMEOUT "announceReceiptTimeout " "announceReceiptTimeout" { dflt := 3, max := 0xff }
    d.announceReceiptTimeout.toNat (fun n => ⟨UInt8.ofInt n⟩)
    ⟨rfl, rfl, rfl, rfl, rfl, rfl⟩ (by decide) (fun _ _ _ => rfl) rfl).2
    ⟨range_uint8 _, congrArg ANNOUNCE_RECEIPT_TIMEOUT_t.mk (ofInt_uint8 _)⟩

theorem reads_PRIMARY_DOMAIN (d : PRIMARY_DOMAIN_t) : ReadsBack libc (.PRIMARY_DOMAIN d) :=
  (reads_num .PRIMARY_DOMAIN "primaryDomain " "primaryDomain" { max := 0xff } d.primaryDomain.toNat
    (fun n => ⟨UInt8.ofInt n⟩) ⟨rfl, rfl, rfl, rfl, rfl, rfl⟩ (by decide) (fun _ _ _ => rfl) rfl).2
    ⟨range_uint8 _, congrArg PRIMARY_DOMAIN_t.mk (ofInt_uint8 _)⟩

theorem reads_SYNCHRONIZATION_UNCERTAIN_NP (d : SYNCHRONIZATION_UNCERTAIN_NP_t) :
    ReadsBack libc (.SYNCHRONIZATION_UNCERTAIN_NP d) :=
  (reads_num .SYNCHRONIZATION_UNCERTAIN_NP "uncertain " "duration" { max := 0xff, req := true } d.val.toNat
    (fun n => ⟨UInt8.ofInt n⟩) ⟨rfl, rfl, rfl, rfl, rfl, rfl⟩ (by decide) (fun _ _ _ => rfl) rfl).2
    ⟨range_uint8 _, congrArg SYNCHRONIZATION_UNCERTAIN_NP_t.mk (ofInt_uint8 _)⟩

theorem reads_LOG_ANNOUNCE_INTERVAL (d : LOG_ANNOUNCE_INTERVAL_t) :
    ReadsBack libc (.LOG_ANNOUNCE_INTERVAL d) ↔ 0 ≤ d.logAnnounceInterval.toInt :=
  (reads_num .LOG_ANNOUNCE_INTERVAL "logAnnounceInterval " "logAnnounceInterval" { dflt := 1, max := 0x7f }
    d.logAnnounceInterval.toInt (fun n => ⟨Int8.ofInt n⟩)
    ⟨rfl, rfl, rfl, rfl, rfl, rfl⟩ (by decide) (fun _ _ _ => rfl) rfl).trans
    ⟨fun h => h.1.1, fun h => ⟨⟨h, range_int8 _⟩, congrArg LOG_ANNOUNCE_INTERVAL_t.mk (Int8.ofInt_toInt _)⟩⟩

theorem reads_LOG_MIN_PDELAY_REQ_INTERVAL (d : LOG_MIN_PDELAY_REQ_INTERVAL_t) :
    ReadsBack libc (.LOG_MIN_PDELAY_REQ_INTERVAL d) ↔ 0 ≤ d.logMinPdelayReqInterval.toInt :=
  (reads_num .LOG_MIN_PDELAY_REQ_INTERVAL "logMinPdelayReqInterval " "logMinPdelayReqInterval" { max := 0x7f }
    d.logMinPdelayReqInterval.toInt (fun n => ⟨Int8.ofInt n⟩)
    ⟨rfl, rfl, rfl, rfl, rfl, rfl⟩ (by decide) (fun _ _ _ => rfl) rfl).trans
    ⟨fun h => h.1.1, fun h => ⟨⟨h, range_int8 _⟩, congrArg LOG_MIN_PDELAY_REQ_INTERVAL_t.mk (Int8.ofInt_toInt _)⟩⟩

theorem reads_LOG_SYNC_INTERVAL (d : LOG_SYNC_INTERVAL_t) : ReadsBack libc (.LOG_SYNC_INTERVAL d) ↔
    d.logSyncInterval = 0 ∨ d.logSyncInterval = 1 := by
  refine (reads_num .LOG_SYNC_INTERVAL "logSyncInterval " "logSyncInterval" { max := 0x7f } d.logSyncInterval.toInt
    (fun n => ⟨if n > 0 then 1 else 0⟩) ⟨rfl, rfl, rfl, rfl, rfl, rfl⟩ (by decide) (fun _ _ _ => rfl) rfl).trans ?_
  obtain ⟨v⟩ := d
  constructor
  · rintro ⟨-, h⟩
    have hv := congrArg LOG_SYNC_INTERVAL_t.logSyncInterval h
    simp only at hv
    split at hv
    · exact .inr hv.symm
    · exact .inl hv.symm
  · rintro (h | h)
    · obtain rfl := h
      exact ⟨by constructor <;> decide, rfl⟩
    · obtain rfl := h
      exact ⟨by constructor <;> decide, rfl⟩

theorem reads_DELAY_MECHANISM (d : DELAY_MECHANISM_t) :
    ReadsBack libc (.DELAY_MECHANISM d) ↔ d.delayMechanism ≤ 0xfe := by
  refine (reads_num .DELAY_MECHANISM "delayMechanism " "delayMechanism" { max := 0xfe } d.delayMechanism.toNat
    (fun n => ⟨UInt8.ofInt n⟩) ⟨rfl, rfl, rfl, rfl, rfl, rfl⟩ (by decide) (fun _ _ _ => rfl) rfl).trans ?_
  rw [← upTo_uint8]
  exact and_iff_left (congrArg DELAY_MECHANISM_t.mk (ofInt_uint8 _))

theorem reads_CLOCK_ACCURACY (d : CLOCK_ACCURACY_t) : ReadsBack libc (.CLOCK_ACCURACY d) ↔ d.clockAccuracy ≤ 0xef := by
  refine (reads_one .CLOCK_ACCURACY [("clockAccuracy", { dflt := 0xef, max := 0xef })]
    (@hexRow "clockAccuracy " (by decide) "clockAccuracy" d.clockAccuracy.toNat 0 0xef) (fun n => ⟨UInt8.ofInt n⟩)
    rfl rfl
    (hexRow_settles ⟨rfl, rfl, rfl, rfl, rfl, rfl⟩ (.inl rfl) (by decide) (by decide)) (fun _ _ _ => rfl) rfl).trans ?_
  rw [← upTo_uint8]
  exact and_iff_left (congrArg CLOCK_ACCURACY_t.mk (ofInt_uint8 _))

theorem reads_SLAVE_ONLY (d : SLAVE_ONLY_t) : ReadsBack libc (.SLAVE_ONLY d) :=
  (reads_one .SLAVE_ONLY [("slaveOnly", { flag := true })] (@flagRow "slaveOnly " (by decide) "slaveOnly" d.flags.toNat)
    (fun n => ⟨UInt8.ofInt n⟩) rfl rfl (flagRow_settles ⟨rfl, rfl, rfl⟩ rfl (range_uint8 _))
    (fun _ _ _ => rfl) rfl).2
    ⟨trivial, congrArg SLAVE_ONLY_t.mk (ofInt_uint8 _)⟩

end Numbers

/-! ## Words for flags -/

section Words
variable {label : String} {h : isLabel label = true} {entry : String} {keys : Keys}

/-- A closed word. -/
def isWord (s : List UInt8) : Bool := s ≠ [] && s.all fun c => c ≠ 0 && !toksep.contains c && c ≠ 34 && c ≠ 39

theorem isWord_iff {s : List UInt8} : isWord s = true ↔ IsWord s := by
  simp only [isWord, Bool.and_eq_true, List.all_eq_true, decide_eq_true_eq, Bool.not_eq_true', and_assoc]
  exact ⟨fun h => ⟨h.1, h.2⟩, fun h => ⟨h.1, h.2⟩⟩

theorem isWord_abled (flags : UInt8) : IsWord (abled flags) := by
  unfold abled
  split <;> exact isWord_iff.1 (by decide)

def abledRow (h : isLabel label = true) (entry : String) (flags : UInt8) : Row :=
  ⟨label, h, entry, abled flags, isWord_abled flags, True, 0⟩

/-- Neither of the words is one of those that set a flag. -/
theorem abledRow_settles {flags : UInt8} (hk : (keys.start.get entry).IsFlag) (hb : (keys.start.get entry).base = 0) :
    (abledRow h entry flags).Settles keys := by
  refine ⟨fun _ => ⟨abled flags, ?_⟩, fun hn => absurd trivial hn⟩
  refine (word_flag hk (zero_notMem_word (isWord_abled flags)) ?_).trans ?_
  · rw [hb]
    unfold abled
    split <;> decide
  · unfold abled
    split <;> rfl

theorem isWord_trueFalse (b : Bool) : IsWord (trueFalse b) := by
  cases b <;> exact isWord_iff.1 (by decide)

/-- A structure with a single flag, in a word. -/
theorem reads_abled {α : Type} (id : α → BaseMngTlv) [IsConstructor id] (mk : UInt8 → α) (get : α → UInt8) {d : α}
    (label entry : String) (hm : ∀ d, mk (get d) = d) (hg : ∀ n, get (mk n) = n)
    (hl : isLabel label = true ∧ Keys.fits [(entry, { flag := true })] [(label, entry)] = true)
    (hc : ∀ m buf save, call_data (id m) buf save =
      id <$> (parseKeysFunc [(entry, { flag := true })] buf save >>=
        fun k => pure (mk (UInt8.ofInt (k.1.num entry)))))
    (hx : dump libc (id d) = field label (abled (get d))) :
    ReadsBack libc (id d) ↔ get d = 0 := by
  obtain ⟨hl, hf⟩ := hl
  have hs : (abledRow hl entry (get d)).Settles [(entry, { flag := true })] :=
    abledRow_settles (by rw [start_one]; exact ⟨rfl, rfl, rfl⟩) (by rw [start_one]; rfl)
  refine (reads_one id [(entry, { flag := true })] (abledRow hl entry (get d)) (fun n => mk (UInt8.ofInt n)) hf rfl hs
    hc hx).trans ?_
  refine ⟨fun h => ?_, fun h => ⟨trivial, ?_⟩⟩
  · rw [← h.2, hg]
    rfl
  · exact (congrArg mk h.symm).trans (hm d)

end Words

section Flags

theorem reads_UNICAST_NEGOTIATION_ENABLE (d : UNICAST_NEGOTIATION_ENABLE_t) :
    ReadsBack libc (.UNICAST_NEGOTIATION_ENABLE d) ↔ d.flags = 0 :=
  reads_abled .UNICAST_NEGOTIATION_ENABLE .mk UNICAST_NEGOTIATION_ENABLE_t.flags "unicastNegotiationPortDS "
    "unicastNegotiationPortDS" (fun _ => rfl) (fun _ => rfl) (by decide) (fun _ _ _ => rfl) rfl

theorem reads_PATH_TRACE_ENABLE (d : PATH_TRACE_ENABLE_t) :
    ReadsBack libc (.PATH_TRACE_ENABLE d) ↔ d.flags = 0 :=
  reads_abled .PATH_TRACE_ENABLE .mk PATH_TRACE_ENABLE_t.flags "pathTraceDS " "pathTraceDS"
    (fun _ => rfl) (fun _ => rfl) (by decide) (fun _ _ _ => rfl) rfl

theorem reads_ACCEPTABLE_MASTER_TABLE_ENABLED (d : ACCEPTABLE_MASTER_TABLE_ENABLED_t) :
    ReadsBack libc (.ACCEPTABLE_MASTER_TABLE_ENABLED d) ↔ d.flags = 0 :=
  reads_abled .ACCEPTABLE_MASTER_TABLE_ENABLED .mk ACCEPTABLE_MASTER_TABLE_ENABLED_t.flags "acceptableMasterPortDS "
    "acceptableMasterPortDS" (fun _ => rfl) (fun _ => rfl) (by decide) (fun _ _ _ => rfl) rfl

theorem reads_EXTERNAL_PORT_CONFIGURATION_ENABLED (d : EXTERNAL_PORT_CONFIGURATION_ENABLED_t) :
    ReadsBack libc (.EXTERNAL_PORT_CONFIGURATION_ENABLED d) ↔ d.flags = 0 :=
  reads_abled .EXTERNAL_PORT_CONFIGURATION_ENABLED .mk EXTERNAL_PORT_CONFIGURATION_ENABLED_t.flags
    "externalPortConfiguration " "externalPortConfiguration" (fun _ => rfl) (fun _ => rfl) (by decide)
    (fun _ _ _ => rfl) rfl

theorem reads_HOLDOVER_UPGRADE_ENABLE (d : HOLDOVER_UPGRADE_ENABLE_t) :
    ReadsBack libc (.HOLDOVER_UPGRADE_ENABLE d) ↔ d.flags = 0 :=
  reads_abled .HOLDOVER_UPGRADE_ENABLE .mk HOLDOVER_UPGRADE_ENABLE_t.flags "holdoverUpgradeDS " "holdoverUpgradeDS"
    (fun _ => rfl) (fun _ => rfl) (by decide) (fun _ _ _ => rfl) rfl

theorem reads_MASTER_ONLY (d : MASTER_ONLY_t) : ReadsBack libc (.MASTER_ONLY d) ↔ d.flags = 0 ∨ d.flags = 1 := by
  have hs : Row.Settles [("masterOnly", { flag := true })]
      ⟨"masterOnly ", by decide, "masterOnly", trueFalse (d.flags ≠ 0),
      isWord_trueFalse _, True, if d.flags ≠ 0 then 1 else 0⟩ := by
    refine ⟨fun _ => ?_, fun hn => absurd trivial hn⟩
    by_cases hd : d.flags = 0
    · rw [hd]
      exact ⟨_, rfl⟩
    · simp only [hd, ne_eq, not_false_eq_true, decide_true, if_true]
      exact ⟨_, rfl⟩
  refine (reads_one .MASTER_ONLY [("masterOnly", { flag := true })] _ (fun n => ⟨UInt8.ofInt n⟩) rfl rfl hs
    (fun _ _ _ => rfl) rfl).trans ?_
  obtain ⟨v⟩ := d
  by_cases hd : v = 0
  · subst hd
    exact iff_of_true ⟨trivial, rfl⟩ (.inl rfl)
  · simp only [hd, ne_eq, not_false_eq_true, if_true, true_and, false_or, MASTER_ONLY_t.mk.injEq]
    exact eq_comm

/-! ## Bits -/

/-- A flag of the timePropertiesDS. -/
def bitRow {label : String} (h : isLabel label = true) (entry : String) (flag flags : UInt8) : Row :=
  flagRow h entry (if flags &&& flag ≠ 0 then 1 else 0 : Nat)

theorem bitRow_settles {label : String} {h : isLabel label = true} {entry : String} {keys : Keys} {flag flags : UInt8}
    (hk : (keys.start.get entry).IsFlag) (hb : (keys.start.get entry).base = 0) :
    (bitRow h entry flag flags).Settles keys := by
  refine flagRow_settles hk hb ?_
  split <;> decide

theorem and_bit (flags : UInt8) {flag : UInt8} (i : Nat) (hb : flag.toNat = 2 ^ i) :
    flags &&& flag = 0 ∨ flags &&& flag = flag := by
  rw [← UInt8.toNat_inj, ← UInt8.toNat_inj, UInt8.toNat_and, hb, Nat.and_two_pow]
  cases flags.toNat.testBit i
  · exact .inl (Nat.zero_mul _)
  · exact .inr (Nat.one_mul _)

theorem and_or (a b c : UInt8) : a &&& b ||| a &&& c = a &&& (b ||| c) := by
  apply UInt8.toNat_inj.1
  rw [UInt8.toNat_or, UInt8.toNat_and, UInt8.toNat_and, UInt8.toNat_and, UInt8.toNat_or, Nat.and_or_distrib_left]

/-- A flag of a single bit is set again where it was. -/
theorem flagIf_bit {keys : Keys} {name : String} {flag flags : UInt8} (i : Nat) (hb : flag.toNat = 2 ^ i)
    (h : keys.num name = (if flags &&& flag ≠ 0 then 1 else 0 : Nat)) : flagIf keys name flag = flags &&& flag := by
  unfold flagIf Keys.isSet
  rw [h]
  by_cases h0 : flags &&& flag = 0
  · rw [h0]
    rfl
  · rw [if_pos h0, (and_bit flags i hb).resolve_left h0]
    rfl

theorem reads_UTC_PROPERTIES (d : UTC_PROPERTIES_t) :
    ReadsBack libc (.UTC_PROPERTIES d) ↔ 0 ≤ d.currentUtcOffset.toInt ∧ d.flags &&& 0x7 = d.flags := by
  refine (readsBack_iff .UTC_PROPERTIES [("currentUtcOffset", { max := 0x7fff, req := true }),
      ("currentUtcOffsetValid", { flag := true }), ("leap59", { flag := true }), ("leap61", { flag := true })]
    [@numRow "currentUtcOffset      " (by decide) "currentUtcOffset" d.currentUtcOffset.toInt 0 0x7fff,
      @bitRow "leap61                " (by decide) "leap61" 0x1 d.flags,
      @bitRow "leap59                " (by decide) "leap59" 0x2 d.flags,
      @bitRow "currentUtcOffsetValid " (by decide) "currentUtcOffsetValid" 0x4 d.flags]
    [] (fun _ => ⟨d.currentUtcOffset, d.flags &&& 0x7⟩) (fun _ _ _ => rfl) ?_ (.inl rfl)
      (fits_plain ?_ rfl) ?_ (fun hn => absurd rfl hn) ?_).trans ?_
  · simp only [dump, dump_UTC_PROPERTIES, List.append_assoc, List.flatMap_cons, List.flatMap_nil, List.append_nil]
    rfl
  · simp only [List.map_cons, List.map_nil, numRow, bitRow, flagRow]
    decide
  · exact List.forall_mem_cons.2 ⟨numRow_settles ⟨rfl, rfl, rfl, rfl, rfl, rfl⟩ (by decide) (by decide),
      List.forall_mem_cons.2 ⟨bitRow_settles ⟨rfl, rfl, rfl⟩ rfl,
        List.forall_mem_cons.2 ⟨bitRow_settles ⟨rfl, rfl, rfl⟩ rfl,
      List.forall_mem_singleton.2 (bitRow_settles ⟨rfl, rfl, rfl⟩ rfl)⟩⟩⟩
  · rintro _ m k ⟨(h1 : k.1.num "currentUtcOffset" = _), (h2 : k.1.num "leap61" = _), (h3 : k.1.num "leap59" = _),
      (h4 : k.1.num "currentUtcOffsetValid" = _)⟩ _
    show UTC_PROPERTIES_t.mk _ (flagIf k.1 "leap61" 0x1 ||| flagIf k.1 "leap59" 0x2 |||
      flagIf k.1 "currentUtcOffsetValid" 0x4) = _
    rw [h1, flagIf_bit 0 rfl h2, flagIf_bit 1 rfl h3, flagIf_bit 2 rfl h4, and_or, and_or]
    exact congrArg (UTC_PROPERTIES_t.mk · _) (Int16.ofInt_toInt _)
  · have hv := d.currentUtcOffset.toInt_lt
    constructor
    · rintro ⟨⟨h, -⟩, hm⟩
      exact ⟨h.1, congrArg UTC_PROPERTIES_t.flags (hm d)⟩
    · rintro ⟨h, hf⟩
      exact ⟨⟨⟨h, Int.le_of_lt_add_one hv⟩, trivial, trivial, trivial⟩, fun _ => by rw [hf]⟩

theorem reads_TRACEABILITY_PROPERTIES (d : TRACEABILITY_PROPERTIES_t) :
    ReadsBack libc (.TRACEABILITY_PROPERTIES d) ↔ d.flags &&& 0x30 = d.flags := by
  refine (readsBack_iff .TRACEABILITY_PROPERTIES [("frequencyTraceable", { flag := true }),
    ("timeTraceable", { flag := true })]
    [@bitRow "timeTraceable      " (by decide) "timeTraceable" 0x10 d.flags,
      @bitRow "frequencyTraceable " (by decide) "frequencyTraceable" 0x20 d.flags]
    [] (fun _ => ⟨d.flags &&& 0x30⟩) (fun _ _ _ => rfl) ?_ (.inl rfl) (fits_plain ?_ rfl) ?_
    (fun hn => absurd rfl hn) ?_).trans ?_
  · simp only [dump, dump_TRACEABILITY_PROPERTIES, List.flatMap_cons, List.flatMap_nil, List.append_nil]
    rfl
  · simp only [List.map_cons, List.map_nil, bitRow, flagRow]
    decide
  · exact List.forall_mem_cons.2 ⟨bitRow_settles ⟨rfl, rfl, rfl⟩ rfl,
      List.forall_mem_singleton.2 (bitRow_settles ⟨rfl, rfl, rfl⟩ rfl)⟩
  · rintro _ m k ⟨(h1 : k.1.num "timeTraceable" = _), (h2 : k.1.num "frequencyTraceable" = _)⟩ _
    show TRACEABILITY_PROPERTIES_t.mk (flagIf k.1 "timeTraceable" 0x10 ||| flagIf k.1 "frequencyTraceable" 0x20) = _
    rw [flagIf_bit 4 rfl h1, flagIf_bit 5 rfl h2, and_or]
    rfl
  · exact ⟨fun h => congrArg TRACEABILITY_PROPERTIES_t.flags (h.2 d), fun h => ⟨⟨trivial, trivial⟩, fun _ => by rw [h]⟩⟩

/-! ## Other structures -/

theorem reads_VERSION_NUMBER (d : VERSION_NUMBER_t) :
    ReadsBack libc (.VERSION_NUMBER d) ↔ 1 ≤ d.versionNumber ∧ d.versionNumber ≤ 0xf := by
  refine (readsBack_iff .VERSION_NUMBER [("minor", { max := 0xf }),
    ("versionNumber", { dflt := 2, max := 0xf, min := 1 })]
    [@numRow "versionNumber " (by decide) "versionNumber" d.versionNumber.toNat 1 0xf] [] (fun _ => d)
    (fun _ _ _ => rfl) ?_ (.inl rfl) (fits_plain ?_ rfl)
    (List.forall_mem_singleton.2 (numRow_settles ⟨rfl, rfl, rfl, rfl, rfl, rfl⟩ (by decide) (by decide)))
      (fun hn => absurd rfl hn) ?_).trans ?_
  · simp only [dump, dump_VERSION_NUMBER, List.flatMap_cons, List.flatMap_nil, List.append_nil]
    rfl
  · simp only [List.map_cons, List.map_nil, numRow]
    decide
  · intro _ m k (h1 : k.1.num "versionNumber" = _) hrest
    -- the key that is not printed is left at its default
    have h0 : k.1.num "minor" = 0 :=
      hrest "minor" (List.forall_mem_singleton.2 (show "versionNumber" ≠ "minor" by decide))
    show VERSION_NUMBER_t.mk ((UInt8.ofInt (k.1.num "minor") <<< 4) ||| UInt8.ofInt (k.1.num "versionNumber")) = d
    rw [h0, h1]
    refine congrArg VERSION_NUMBER_t.mk ?_
    show (0 ||| UInt8.ofInt d.versionNumber.toNat) = d.versionNumber
    rw [ofInt_uint8, UInt8.zero_or]
  · rw [UInt8.le_iff_toNat_le, UInt8.le_iff_toNat_le]
    refine ⟨fun h => ⟨Int.ofNat_le.1 h.1.1, Int.ofNat_le.1 h.1.2⟩, fun h => ⟨⟨?_, ?_⟩, fun _ => rfl⟩⟩
    · exact Int.ofNat_le.2 h.1
    · exact Int.ofNat_le.2 h.2

theorem reads_ALTERNATE_MASTER (d : ALTERNATE_MASTER_t) :
    ReadsBack libc (.ALTERNATE_MASTER d) ↔ d.flags = 0 ∧ 0 ≤ d.logAlternateMulticastSyncInterval.toInt := by
  refine (readsBack_iff .ALTERNATE_MASTER [("logAlternateMulticastSyncInterval", { max := 0x7f }),
      ("numberOfAlternateMasters", { max := 0xff }), ("transmitAlternateMulticastSync", { flag := true })]
    [@abledRow "transmitAlternateMulticastSync    " (by decide) "transmitAlternateMulticastSync" d.flags,
      @numRow "logAlternateMulticastSyncInterval " (by decide) "logAlternateMulticastSyncInterval"
        d.logAlternateMulticastSyncInterval.toInt 0 0x7f,
      @numRow "numberOfAlternateMasters          " (by decide) "numberOfAlternateMasters"
        d.numberOfAlternateMasters.toNat 0 0xff]
    [] (fun _ => { d with flags := 0 }) (fun _ _ _ => rfl) ?_ (.inl rfl) (fits_plain ?_ rfl) ?_
    (fun hn => absurd rfl hn) ?_).trans ?_
  · simp only [dump, dump_ALTERNATE_MASTER, List.append_assoc, List.flatMap_cons, List.flatMap_nil, List.append_nil]
    rfl
  · simp only [List.map_cons, List.map_nil, numRow, abledRow]
    decide
  · exact List.forall_mem_cons.2 ⟨abledRow_settles ⟨rfl, rfl, rfl⟩ rfl,
      List.forall_mem_cons.2 ⟨numRow_settles ⟨rfl, rfl, rfl, rfl, rfl, rfl⟩ (by decide) (by decide),
      List.forall_mem_singleton.2 (numRow_settles ⟨rfl, rfl, rfl, rfl, rfl, rfl⟩ (by decide) (by decide))⟩⟩
  · rintro _ m k ⟨(h1 : k.1.num "transmitAlternateMulticastSync" = _),
      (h2 : k.1.num "logAlternateMulticastSyncInterval" = _),
      (h3 : k.1.num "numberOfAlternateMasters" = _)⟩ _
    show ALTERNATE_MASTER_t.mk (UInt8.ofInt (k.1.num "transmitAlternateMulticastSync"))
      (Int8.ofInt (k.1.num "logAlternateMulticastSyncInterval")) (UInt8.ofInt (k.1.num "numberOfAlternateMasters")) = _
    rw [h1, h2, h3]
    exact congrArg₂ (ALTERNATE_MASTER_t.mk 0) (Int8.ofInt_toInt _) (ofInt_uint8 _)
  · constructor
    · rintro ⟨⟨-, h, -⟩, hm⟩
      exact ⟨(congrArg ALTERNATE_MASTER_t.flags (hm d)).symm, h.1⟩
    · rintro ⟨hf, h⟩
      exact ⟨⟨trivial, ⟨h, range_int8 _⟩, range_uint8 _⟩, fun _ => by rw [← hf]⟩

theorem reads_ALTERNATE_TIME_OFFSET_PROPERTIES (d : ALTERNATE_TIME_OFFSET_PROPERTIES_t) :
    ReadsBack libc (.ALTERNATE_TIME_OFFSET_PROPERTIES d) ↔
      0 ≤ d.currentOffset.toInt ∧ 0 ≤ d.jumpSeconds.toInt ∧ d.timeOfNextJump ≤ 0xffffffffffff := by
  refine (readsBack_iff .ALTERNATE_TIME_OFFSET_PROPERTIES [("currentOffset", { max := 0x7fffffff }),
      ("jumpSeconds", { max := 0x7fffffff }), ("keyField", { max := 0xff }),
        ("timeOfNextJump", { max := 0xffffffffffff })]
    [@numRow "keyField       " (by decide) "keyField" d.keyField.toNat 0 0xff,
      @numRow "currentOffset  " (by decide) "currentOffset" d.currentOffset.toInt 0 0x7fffffff,
      @numRow "jumpSeconds    " (by decide) "jumpSeconds" d.jumpSeconds.toInt 0 0x7fffffff,
      @numRow "timeOfNextJump " (by decide) "timeOfNextJump" d.timeOfNextJump.toNat 0 0xffffffffffff]
    [] (fun _ => d) (fun _ _ _ => rfl) ?_ (.inl rfl) (fits_plain ?_ rfl) ?_
    (fun hn => absurd rfl hn) ?_).trans ?_
  · simp only [dump, dump_ALTERNATE_TIME_OFFSET_PROPERTIES, List.append_assoc, List.flatMap_cons, List.flatMap_nil,
      List.append_nil]
    rfl
  · simp only [List.map_cons, List.map_nil, numRow]
    decide
  · exact List.forall_mem_cons.2 ⟨numRow_settles ⟨rfl, rfl, rfl, rfl, rfl, rfl⟩ (by decide) (by decide),
      List.forall_mem_cons.2 ⟨numRow_settles ⟨rfl, rfl, rfl, rfl, rfl, rfl⟩ (by decide) (by decide),
      List.forall_mem_cons.2 ⟨numRow_settles ⟨rfl, rfl, rfl, rfl, rfl, rfl⟩ (by decide) (by decide),
      List.forall_mem_singleton.2 (numRow_settles ⟨rfl, rfl, rfl, rfl, rfl, rfl⟩ (by decide) (by decide))⟩⟩⟩
  · rintro _ m k ⟨(h1 : k.1.num "keyField" = _), (h2 : k.1.num "currentOffset" = _), (h3 : k.1.num "jumpSeconds" = _),
      (h4 : k.1.num "timeOfNextJump" = _)⟩ _
    show ALTERNATE_TIME_OFFSET_PROPERTIES_t.mk (UInt8.ofInt (k.1.num "keyField"))
      (Int32.ofInt (k.1.num "currentOffset"))
      (Int32.ofInt (k.1.num "jumpSeconds")) (UInt64.ofInt (k.1.num "timeOfNextJump")) = _
    rw [h1, h2, h3, h4]
    show ALTERNATE_TIME_OFFSET_PROPERTIES_t.mk (UInt8.ofInt d.keyField.toNat) (Int32.ofInt d.currentOffset.toInt)
      (Int32.ofInt d.jumpSeconds.toInt) (UInt64.ofInt d.timeOfNextJump.toNat) = d
    rw [ofInt_uint8, Int32.ofInt_toInt, Int32.ofInt_toInt, ofInt_uint64]
  · have h2 := d.currentOffset.toInt_lt
    have h3 := d.jumpSeconds.toInt_lt
    rw [UInt64.le_iff_toNat_le]
    constructor
    · rintro ⟨⟨-, h2, h3, h4⟩, -⟩
      exact ⟨h2.1, h3.1, Int.ofNat_le.1 h4.2⟩
    · rintro ⟨h5, h6, h7⟩
      exact ⟨⟨range_uint8 _, ⟨h5, Int.le_of_lt_add_one h2⟩, ⟨h6, Int.le_of_lt_add_one h3⟩, Int.natCast_nonneg _,
        Int.ofNat_le.2 h7⟩, fun _ => rfl⟩

theorem reads_PORT_DATA_SET_NP (d : PORT_DATA_SET_NP_t) :
    ReadsBack libc (.PORT_DATA_SET_NP d) ↔ 0 ≤ d.asCapable.toInt := by
  refine (readsBack_iff .PORT_DATA_SET_NP [("asCapable", { max := 0x7fffffff, req := true }),
      ("neighborPropDelayThresh", { max := 0xffffffff, req := true })]
    [@numRow "neighborPropDelayThresh " (by decide) "neighborPropDelayThresh" d.neighborPropDelayThresh.toNat 0
        0xffffffff,
      @numRow "asCapable               " (by decide) "asCapable" d.asCapable.toInt 0 0x7fffffff]
    [] (fun _ => d) (fun _ _ _ => rfl) ?_ (.inl rfl) (fits_plain ?_ rfl) ?_
    (fun hn => absurd rfl hn) ?_).trans ?_
  · simp only [dump, dump_PORT_DATA_SET_NP, List.flatMap_cons, List.flatMap_nil, List.append_nil]
    rfl
  · simp only [List.map_cons, List.map_nil, numRow]
    decide
  · exact List.forall_mem_cons.2 ⟨numRow_settles ⟨rfl, rfl, rfl, rfl, rfl, rfl⟩ (by decide) (by decide),
      List.forall_mem_singleton.2 (numRow_settles ⟨rfl, rfl, rfl, rfl, rfl, rfl⟩ (by decide) (by decide))⟩
  · rintro _ m k ⟨(h1 : k.1.num "neighborPropDelayThresh" = _), (h2 : k.1.num "asCapable" = _)⟩ _
    show PORT_DATA_SET_NP_t.mk (UInt32.ofInt (k.1.num "neighborPropDelayThresh"))
      (Int32.ofInt (k.1.num "asCapable")) = _
    rw [h1, h2]
    exact congrArg₂ PORT_DATA_SET_NP_t.mk (ofInt_uint32 _) (Int32.ofInt_toInt _)
  · have h1 := d.neighborPropDelayThresh.toNat_lt
    have h2 := d.asCapable.toInt_lt
    constructor
    · rintro ⟨⟨-, h⟩, -⟩
      exact h.1
    · intro h
      exact ⟨⟨⟨Int.natCast_nonneg _, Int.ofNat_le.2 (Nat.le_of_lt_succ h1)⟩, h, Int.le_of_lt_add_one h2⟩, fun _ => rfl⟩

/-! ## Words with a handler -/

theorem field_append (label : String) (v t : List UInt8) : field label (v ++ t) = field label v ++ t := by
  simp only [field, List.append_assoc]

section Known
variable {st : UInt8}

def portStates : List UInt8 := [1, 2, 3, 4, 5, 6, 7, 8, 9]

/-- The first word of the name of a state, and what is behind it. -/
def stateWord (st : UInt8) : String := if st ∈ portStates then portState2str_c st else "unknown"

def stateRest (st : UInt8) : Buf := if st ∈ portStates then [] else octets " state"

theorem isWord_state (st : UInt8) : IsWord (octets (stateWord st)) := by
  refine isWord_iff.1 ?_
  unfold stateWord
  split
  · next h =>
    simp only [portStates, List.mem_cons, List.not_mem_nil, or_false] at h
    rcases h with rfl | rfl | rfl | rfl | rfl | rfl | rfl | rfl | rfl <;> decide
  · decide

theorem state_octets (st : UInt8) : octets (portState2str_c st) = octets (stateWord st) ++ stateRest st := by
  unfold stateWord stateRest
  split
  · exact (List.append_nil _).symm
  · next h =>
    simp only [portStates, List.mem_cons, List.not_mem_nil, or_false, not_or] at h
    simp only [portState2str_c, h, if_false]
    decide

def stateRow {label : String} (h : isLabel label = true) (entry : String) (st : UInt8) : Row :=
  ⟨label, h, entry, octets (stateWord st), isWord_state st, st ∈ portStates, st.toNat⟩

def timeSources : List UInt8 := [0x10, 0x20, 0x30, 0x39, 0x40, 0x50, 0x60, 0x90, 0xa0]

def sourceWord (ts : UInt8) : String := if ts ∈ timeSources then timeSrc2str_c ts else "unknown"

def sourceRest (ts : UInt8) : Buf := if ts ∈ timeSources then [] else octets " clock"

theorem isWord_source (ts : UInt8) : IsWord (octets (sourceWord ts)) := by
  refine isWord_iff.1 ?_
  unfold sourceWord
  split
  · next h =>
    simp only [timeSources, List.mem_cons, List.not_mem_nil, or_false] at h
    rcases h with rfl | rfl | rfl | rfl | rfl | rfl | rfl | rfl | rfl <;> decide
  · decide

theorem source_octets (ts : UInt8) : octets (timeSrc2str_c ts) = octets (sourceWord ts) ++ sourceRest ts := by
  unfold sourceWord sourceRest
  split
  · exact (List.append_nil _).symm
  · next h =>
    simp only [timeSources, List.mem_cons, List.not_mem_nil, or_false, not_or] at h
    simp only [timeSrc2str_c, h, if_false]
    decide

def sourceRow {label : String} (h : isLabel label = true) (entry : String) (ts : UInt8) : Row :=
  ⟨label, h, entry, octets (sourceWord ts), isWord_source ts, ts ∈ timeSources, ts.toNat⟩

end Known

def configKeys : Keys := [("acceptableMasterPortDS", { flag := true }),
    ("desiredState", { handle := some getPortState })]

theorem stateRow_settles (st : UInt8) :
    (@stateRow "desiredState           " (by decide) "desiredState" st).Settles configKeys := by
  constructor
  · intro (h : st ∈ portStates)
    simp only [portStates, List.mem_cons, List.not_mem_nil, or_false] at h
    rcases h with rfl | rfl | rfl | rfl | rfl | rfl | rfl | rfl | rfl <;> exact ⟨_, rfl⟩
  · intro h
    have hw : stateWord st = "unknown" := if_neg h
    show (Keys.get configKeys.start "desiredState").settle (octets (stateWord st)) = _
    rw [hw]
    rfl

theorem configKeys_tokenOnly : configKeys.TokenOnly := by
  intro k hk f hf
  rcases List.mem_cons.1 hk with rfl | hk
  · cases hf
  · obtain rfl := List.mem_singleton.1 hk
    obtain rfl := Option.some.inj hf
    exact getPortState_tokenOnly

theorem reads_EXT_PORT_CONFIG_PORT_DATA_SET (d : EXT_PORT_CONFIG_PORT_DATA_SET_t) :
    ReadsBack libc (.EXT_PORT_CONFIG_PORT_DATA_SET d) ↔ d.flags = 0 ∧ d.desiredState ∈ portStates := by
  refine (readsBack_iff .EXT_PORT_CONFIG_PORT_DATA_SET configKeys
    [@abledRow "acceptableMasterPortDS " (by decide) "acceptableMasterPortDS" d.flags,
      @stateRow "desiredState           " (by decide) "desiredState" d.desiredState]
    (stateRest d.desiredState) (fun _ => { d with flags := 0 }) (fun _ _ _ => rfl) ?_ ?_
    ⟨?_, configKeys_tokenOnly⟩ ?_ ?_ ?_).trans ?_
  · simp only [dump, dump_EXT_PORT_CONFIG_PORT_DATA_SET, List.append_assoc, List.flatMap_cons, List.flatMap_nil,
      List.append_nil,
      state_octets, field_append]
    rfl
  · unfold stateRest
    split
    · exact .inl rfl
    · exact .inr rfl
  · show configKeys.fits [("acceptableMasterPortDS ", "acceptableMasterPortDS"),
      ("desiredState           ", "desiredState")] = true
    decide
  · exact List.forall_mem_cons.2 ⟨abledRow_settles ⟨rfl, rfl, rfl⟩ rfl,
      List.forall_mem_singleton.2 (stateRow_settles _)⟩
  · intro hn
    exact ⟨_, List.mem_cons_of_mem _ List.mem_cons_self, fun hm => hn (if_pos hm)⟩
  · rintro _ m k ⟨(h1 : k.1.num "acceptableMasterPortDS" = _), (h2 : k.1.num "desiredState" = _)⟩ _
    show EXT_PORT_CONFIG_PORT_DATA_SET_t.mk (UInt8.ofInt (k.1.num "acceptableMasterPortDS"))
      (UInt8.ofInt (k.1.num "desiredState")) = _
    rw [h1, h2]
    exact congrArg (EXT_PORT_CONFIG_PORT_DATA_SET_t.mk 0) (ofInt_uint8 _)
  · constructor
    · rintro ⟨⟨-, h⟩, hm⟩
      exact ⟨(congrArg EXT_PORT_CONFIG_PORT_DATA_SET_t.flags (hm d)).symm, h⟩
    · rintro ⟨hf, h⟩
      exact ⟨⟨trivial, h⟩, fun _ => by rw [← hf]⟩

/-- The table of `GRANDMASTER_SETTINGS_NP`. -/
def settingsKeys : Keys := [("clockAccuracy", { base := 16, max := 0xff, req := true }),
  ("clockClass", { max := 0xff, req := true }), ("currentUtcOffset", { max := 0x7fff, req := true }),
  ("currentUtcOffsetValid", { flag := true }), ("frequencyTraceable", { flag := true }),
  ("leap59", { flag := true }), ("leap61", { flag := true }),
  ("offsetScaledLogVariance", { base := 16, max := 0xffff, req := true }), ("ptpTimescale", { flag := true }),
  ("timeSource", { req := true, handle := some getTimeSource }), ("timeTraceable", { flag := true })]

theorem sourceRow_settles (ts : UInt8) :
    (@sourceRow "timeSource              " (by decide) "timeSource" ts).Settles settingsKeys := by
  constructor
  · intro (h : ts ∈ timeSources)
    simp only [timeSources, List.mem_cons, List.not_mem_nil, or_false] at h
    rcases h with rfl | rfl | rfl | rfl | rfl | rfl | rfl | rfl | rfl <;> exact ⟨_, rfl⟩
  · intro h
    have hw : sourceWord ts = "unknown" := if_neg h
    show (Keys.get settingsKeys.start "timeSource").settle (octets (sourceWord ts)) = _
    rw [hw]
    rfl

theorem settingsKeys_tokenOnly : settingsKeys.TokenOnly := by
  intro k hk f hf
  have : ∀ k ∈ settingsKeys, k.2.handle = none ∨ k.2.handle = some getTimeSource := by
    simp [settingsKeys]
  rcases this k hk with h | h
  · rw [Option.mem_def, h] at hf
    cases hf
  · rw [Option.mem_def, h] at hf
    obtain rfl := Option.some.inj hf
    exact getTimeSource_tokenOnly

/-- The lines of the settings. -/
def settingsRows (d : GRANDMASTER_SETTINGS_NP_t) : List Row :=
  [@numRow "clockClass              " (by decide) "clockClass" d.clockQuality.clockClass.toNat 0 0xff,
    @hexRow "clockAccuracy           " (by decide) "clockAccuracy" d.clockQuality.clockAccuracy.toNat 0 0xff,
    @hexRow "offsetScaledLogVariance " (by decide) "offsetScaledLogVariance"
      d.clockQuality.offsetScaledLogVariance.toNat 0 0xffff,
    @numRow "currentUtcOffset        " (by decide) "currentUtcOffset" d.currentUtcOffset.toInt 0 0x7fff,
    @bitRow "leap61                  " (by decide) "leap61" 0x1 d.flags,
    @bitRow "leap59                  " (by decide) "leap59" 0x2 d.flags,
    @bitRow "currentUtcOffsetValid   " (by decide) "currentUtcOffsetValid" 0x4 d.flags,
    @bitRow "ptpTimescale            " (by decide) "ptpTimescale" 0x8 d.flags,
    @bitRow "timeTraceable           " (by decide) "timeTraceable" 0x10 d.flags,
    @bitRow "frequencyTraceable      " (by decide) "frequencyTraceable" 0x20 d.flags,
    @sourceRow "timeSource              " (by decide) "timeSource" d.timeSource]

theorem settingsRows_settle (d : GRANDMASTER_SETTINGS_NP_t) : ∀ row ∈ settingsRows d, row.Settles settingsKeys := by
  have hbit {label entry : String} {h : isLabel label = true} {flag : UInt8}
      (hk : (settingsKeys.start.get entry).IsFlag) (hb : (settingsKeys.start.get entry).base = 0) :
      (bitRow h entry flag d.flags).Settles settingsKeys := bitRow_settles hk hb
  unfold settingsRows
  simp only [List.forall_mem_cons, List.not_mem_nil, false_implies, implies_true, and_true]
  exact ⟨numRow_settles ⟨rfl, rfl, rfl, rfl, rfl, rfl⟩ (by decide) (by decide),
    hexRow_settles ⟨rfl, rfl, rfl, rfl, rfl, rfl⟩ (.inr rfl) (by decide) (by decide),
    hexRow_settles ⟨rfl, rfl, rfl, rfl, rfl, rfl⟩ (.inr rfl) (by decide) (by decide),
    numRow_settles ⟨rfl, rfl, rfl, rfl, rfl, rfl⟩ (by decide) (by decide),
    hbit ⟨rfl, rfl, rfl⟩ rfl, hbit ⟨rfl, rfl, rfl⟩ rfl, hbit ⟨rfl, rfl, rfl⟩ rfl, hbit ⟨rfl, rfl, rfl⟩ rfl,
      hbit ⟨rfl, rfl, rfl⟩ rfl,
    hbit ⟨rfl, rfl, rfl⟩ rfl, sourceRow_settles _⟩

theorem reads_GRANDMASTER_SETTINGS_NP (d : GRANDMASTER_SETTINGS_NP_t) : ReadsBack libc (.GRANDMASTER_SETTINGS_NP d) ↔
    0 ≤ d.currentUtcOffset.toInt ∧ d.flags &&& 0x3f = d.flags ∧ d.timeSource ∈ timeSources := by
  refine (readsBack_iff .GRANDMASTER_SETTINGS_NP settingsKeys (settingsRows d)
    (sourceRest d.timeSource) (fun _ => { d with flags := d.flags &&& 0x3f }) (fun _ _ _ => rfl) ?_ ?_
    ⟨?_, settingsKeys_tokenOnly⟩
    (settingsRows_settle d) ?_ ?_).trans ?_
  · simp only [dump, dump_GRANDMASTER_SETTINGS_NP, settingsRows, List.append_assoc, List.flatMap_cons,
      List.flatMap_nil, List.append_nil,
      source_octets, field_append]
    rfl
  · unfold sourceRest
    split
    · exact .inl rfl
    · exact .inr rfl
  · show settingsKeys.fits [("clockClass              ", "clockClass"), ("clockAccuracy           ", "clockAccuracy"),
      ("offsetScaledLogVariance ", "offsetScaledLogVariance"), ("currentUtcOffset        ", "currentUtcOffset"),
      ("leap61                  ", "leap61"), ("leap59                  ", "leap59"),
      ("currentUtcOffsetValid   ", "currentUtcOffsetValid"), ("ptpTimescale            ", "ptpTimescale"),
      ("timeTraceable           ", "timeTraceable"), ("frequencyTraceable      ", "frequencyTraceable"),
      ("timeSource              ", "timeSource")] = true
    decide +kernel
  · intro hn
    refine ⟨@sourceRow "timeSource              " (by decide) "timeSource" d.timeSource, ?_, fun hm => hn (if_pos hm)⟩
    exact List.mem_of_getElem? (i := 10) rfl
  · rintro _ m k ⟨(h1 : k.1.num "clockClass" = _), (h2 : k.1.num "clockAccuracy" = _),
      (h3 : k.1.num "offsetScaledLogVariance" = _),
      (h4 : k.1.num "currentUtcOffset" = _), (h5 : k.1.num "leap61" = _), (h6 : k.1.num "leap59" = _),
      (h7 : k.1.num "currentUtcOffsetValid" = _), (h8 : k.1.num "ptpTimescale" = _), (h9 : k.1.num "timeTraceable" = _),
      (h10 : k.1.num "frequencyTraceable" = _), (h11 : k.1.num "timeSource" = _)⟩ _
    show GRANDMASTER_SETTINGS_NP_t.mk ⟨UInt8.ofInt (k.1.num "clockClass"), UInt8.ofInt (k.1.num "clockAccuracy"),
        UInt16.ofInt (k.1.num "offsetScaledLogVariance")⟩ (Int16.ofInt (k.1.num "currentUtcOffset"))
      (flagIf k.1 "leap61" 0x1 ||| flagIf k.1 "leap59" 0x2 ||| flagIf k.1 "currentUtcOffsetValid" 0x4 |||
        flagIf k.1 "ptpTimescale" 0x8 ||| flagIf k.1 "timeTraceable" 0x10 ||| flagIf k.1 "frequencyTraceable" 0x20)
      (UInt8.ofInt (k.1.num "timeSource")) = _
    rw [h1, h2, h3, h4, h11, flagIf_bit 0 rfl h5, flagIf_bit 1 rfl h6, flagIf_bit 2 rfl h7, flagIf_bit 3 rfl h8,
      flagIf_bit 4 rfl h9, flagIf_bit 5 rfl h10, and_or, and_or, and_or, and_or, and_or]
    show GRANDMASTER_SETTINGS_NP_t.mk ⟨UInt8.ofInt d.clockQuality.clockClass.toNat,
      UInt8.ofInt d.clockQuality.clockAccuracy.toNat,
        UInt16.ofInt d.clockQuality.offsetScaledLogVariance.toNat⟩ (Int16.ofInt d.currentUtcOffset.toInt)
        (d.flags &&& 0x3f)
      (UInt8.ofInt d.timeSource.toNat) = _
    rw [ofInt_uint8, ofInt_uint8, ofInt_uint16, Int16.ofInt_toInt, ofInt_uint8]
  · have hv := d.currentUtcOffset.toInt_lt
    constructor
    · rintro ⟨⟨-, -, -, h, -, -, -, -, -, -, hs⟩, hm⟩
      exact ⟨h.1, congrArg GRANDMASTER_SETTINGS_NP_t.flags (hm d), hs⟩
    · rintro ⟨h, hf, hs⟩
      exact ⟨⟨range_uint8 _, range_uint8 _, range_uint16 _, ⟨h, Int.le_of_lt_add_one hv⟩, trivial, trivial, trivial,
        trivial, trivial, trivial, hs⟩, fun _ => by rw [hf]⟩

/-! ## Events -/

theorem EVENT_BIT_cases (bitmask : Octets 64) (event : Nat) :
    EVENT_BIT bitmask event = "on" ∨ EVENT_BIT bitmask event = "off" := by
  unfold EVENT_BIT
  split
  · exact .inl rfl
  · exact .inr rfl

theorem isWord_event (bitmask : Octets 64) (event : Nat) : IsWord (octets (EVENT_BIT bitmask event)) := by
  rcases EVENT_BIT_cases bitmask event with h | h <;> rw [h] <;> exact isWord_iff.1 (by decide)

def eventRow {label : String} (h : isLabel label = true) (entry : String) (bitmask : Octets 64) (event : Nat) : Row :=
  ⟨label, h, entry, octets (EVENT_BIT bitmask event), isWord_event bitmask event, True,
    if EVENT_BIT bitmask event = "on" then 1 else 0⟩

def eventKeys : Keys := [("NOTIFY_PORT_STATE", { flag := true }), ("NOTIFY_TIME_SYNC", { flag := true }),
  ("duration", { max := 0xffff, req := true })]

theorem eventRow_settles {label entry : String} {h : isLabel label = true} {bitmask : Octets 64} {event : Nat}
    (hon : ∃ s, (eventKeys.start.get entry).settle (octets "on") = .ok (1, s))
    (hoff : ∃ s, (eventKeys.start.get entry).settle (octets "off") = .ok (0, s)) :
    (eventRow h entry bitmask event).Settles eventKeys := by
  refine ⟨fun _ => ?_, fun hn => absurd trivial hn⟩
  show ∃ s, (eventKeys.start.get entry).settle (octets (EVENT_BIT bitmask event)) =
    .ok (if EVENT_BIT bitmask event = "on" then 1 else 0, s)
  rcases EVENT_BIT_cases bitmask event with h | h <;> rw [h]
  · exact hon
  · exact hoff

theorem length_noEvents : (List.replicate 64 (0 : UInt8)).length = 64 := List.length_replicate

/-- The events that are set of those printed. -/
def eventsOf (bitmask : Octets 64) : Octets 64 :=
  let none : Octets 64 := ⟨List.replicate 64 0, length_noEvents⟩
  let some := if EVENT_BIT bitmask 0 = "on" then EVENT_BIT_SET none 0 else none
  if EVENT_BIT bitmask 1 = "on" then EVENT_BIT_SET some 1 else some

theorem eventsOf_val (bitmask : Octets 64) :
    (eventsOf bitmask).val = (bitmask.val.getD 0 0 &&& 0x3) :: List.replicate 63 0 := by
  have h0 : EVENT_BIT bitmask 0 = if bitmask.val.getD 0 0 &&& 1 ≠ 0 then "on" else "off" := rfl
  have h1 : EVENT_BIT bitmask 1 = if bitmask.val.getD 0 0 &&& 2 ≠ 0 then "on" else "off" := rfl
  rw [show (0x3 : UInt8) = 1 ||| 2 by decide, ← and_or]
  unfold eventsOf
  rw [h0, h1]
  rcases and_bit (bitmask.val.getD 0 0) 0 (show (1 : UInt8).toNat = _ from rfl) with hb0 | hb0 <;>
    rcases and_bit (bitmask.val.getD 0 0) 1 (show (2 : UInt8).toNat = _ from rfl) with hb1 | hb1 <;>
    rw [hb0, hb1] <;> rfl

theorem reads_SUBSCRIBE_EVENTS_NP (d : SUBSCRIBE_EVENTS_NP_t) : ReadsBack libc (.SUBSCRIBE_EVENTS_NP d) ↔
    d.bitmask.val = (d.bitmask.val.getD 0 0 &&& 0x3) :: List.replicate 63 0 := by
  refine (readsBack_iff .SUBSCRIBE_EVENTS_NP eventKeys
    [@numRow "duration          " (by decide) "duration" d.duration.toNat 0 0xffff,
      @eventRow "NOTIFY_PORT_STATE " (by decide) "NOTIFY_PORT_STATE" d.bitmask 0,
      @eventRow "NOTIFY_TIME_SYNC  " (by decide) "NOTIFY_TIME_SYNC" d.bitmask 1]
    [] (fun _ => { d with bitmask := eventsOf d.bitmask }) (fun _ _ _ => rfl) ?_ (.inl rfl) (fits_plain ?_ rfl) ?_
    (fun hn => absurd rfl hn) ?_).trans ?_
  · simp only [dump, dump_SUBSCRIBE_EVENTS_NP, List.append_assoc, List.flatMap_cons, List.flatMap_nil, List.append_nil]
    rfl
  · show eventKeys.fits [("duration          ", "duration"), ("NOTIFY_PORT_STATE ", "NOTIFY_PORT_STATE"),
      ("NOTIFY_TIME_SYNC  ", "NOTIFY_TIME_SYNC")] = true
    decide
  · exact List.forall_mem_cons.2 ⟨numRow_settles ⟨rfl, rfl, rfl, rfl, rfl, rfl⟩ (by decide) (by decide),
      List.forall_mem_cons.2 ⟨eventRow_settles ⟨_, rfl⟩ ⟨_, rfl⟩,
        List.forall_mem_singleton.2 (eventRow_settles ⟨_, rfl⟩ ⟨_, rfl⟩)⟩⟩
  · rintro _ m k ⟨(h1 : k.1.num "duration" = _),
      (h2 : k.1.num "NOTIFY_PORT_STATE" = if EVENT_BIT d.bitmask 0 = "on" then 1 else 0),
      (h3 : k.1.num "NOTIFY_TIME_SYNC" = if EVENT_BIT d.bitmask 1 = "on" then 1 else 0)⟩ _
    have hset {name : String} {c : Prop} [Decidable c] (h : k.1.num name = if c then 1 else 0) :
      k.1.isSet name = decide c := by
      unfold Keys.isSet
      rw [h]
      by_cases hc : c <;> simp [hc]
    show SUBSCRIBE_EVENTS_NP_t.mk (UInt16.ofInt (k.1.num "duration")) _ = _
    rw [h1]
    refine congrArg₂ SUBSCRIBE_EVENTS_NP_t.mk (ofInt_uint16 _) ?_
    rw [hset h2, hset h3]
    simp only [decide_eq_true_eq]
    rfl
  · rw [← eventsOf_val]
    constructor
    · rintro ⟨-, hm⟩
      exact congrArg (fun d => d.bitmask.val) (hm d).symm
    · intro h
      exact ⟨⟨range_uint16 _, trivial, trivial⟩, fun _ => by rw [← Subtype.ext h]⟩

/-! ## Structures that are never read back -/

/-- A first token that names no key. -/
theorem parse_unknown {keys : Keys} (t : Token) (hs : keys.length ≠ 1) (hi : keys.index t.string = none) (tx r : Buf) :
    parseKeysFunc keys (octets "\n\t\t" ++ (t.string ++ (32 :: tx)) ++ 0 :: r) 0 = .error .error := by
  have hi' : keys.start.index t.string = none := by rw [start_index, hi]
  have hl : keys.start.length ≠ 1 := by
    have := congrArg List.length (start_names keys)
    simp only [List.length_map] at this
    rwa [this]
  have ha : Ahead ⟨octets "\n\t\t" ++ (t.string ++ (32 :: tx)) ++ 0 :: r, 0, none⟩ []
      (t.string ++ (blank.string ++ tx)) r := ⟨ident, rfl, rfl⟩
  rw [parseKeysFunc_eq, keyLoop_unknown _ t blank (fun _ => blank_ne) hl hi' ha]
  rfl

def currentTimeToken : Token := .ofString "currentTime" (by decide) (by decide)

theorem not_reads_TIME (d : TIME_t) : ¬ ReadsBack libc (.TIME d) := by
  intro h
  have hp := @parse_unknown [("nanosecondsField", { max := 0xffffffff }),
    ("secondsField", { max := 0xffffffffffff, req := true })]
    currentTimeToken (by decide) (by decide) d.currentTime.string []
  have hc : call_data (.TIME d) (dump libc (.TIME d) ++ [0]) 0 = .error .error := by
    have hx : dump libc (.TIME d) = octets "\n\t\t" ++ (currentTimeToken.string ++ (32 :: d.currentTime.string)) := rfl
    rw [hx]
    show BaseMngTlv.TIME <$> (parseKeysFunc _ _ 0 >>= _) = _
    rw [hp]
    rfl
  cases hc.symm.trans (h (.TIME d) [] [] rfl)

/-- The key in brackets, as a token. -/
def keyToken (n : Nat) : Token where
  string := octets "[" ++ decimal n ++ octets "]"
  ne := List.cons_ne_nil _ _
  octets := by
    have h := (isWord_decimal n).octets
    intro c hc
    rcases List.mem_append.1 hc with hc | hc
    · rcases List.mem_append.1 hc with hc | hc
      · obtain rfl := List.mem_singleton.1 hc
        decide
      · exact ⟨(h c hc).1, (h c hc).2.1⟩
    · obtain rfl := List.mem_singleton.1 hc
      decide

theorem not_reads_ALTERNATE_TIME_OFFSET_NAME (d : ALTERNATE_TIME_OFFSET_NAME_t) :
    ¬ ReadsBack libc (.ALTERNATE_TIME_OFFSET_NAME d) := by
  intro h
  have hp := @parse_unknown [("displayName", { can_str := true, req := true }),
    ("keyField", { max := 0xff, req := true })]
    (keyToken d.keyField.toNat) (by decide) rfl d.displayName.string []
  have hc : call_data (.ALTERNATE_TIME_OFFSET_NAME d) (dump libc (.ALTERNATE_TIME_OFFSET_NAME d) ++ [0]) 0 =
    .error .error := by
    have hx : dump libc (.ALTERNATE_TIME_OFFSET_NAME d) =
        octets "\n\t\t" ++ ((keyToken d.keyField.toNat).string ++ (32 :: d.displayName.string)) := by
      simp only [dump, dump_ALTERNATE_TIME_OFFSET_NAME, field, keyToken, List.append_assoc]
      rfl
    rw [hx]
    show BaseMngTlv.ALTERNATE_TIME_OFFSET_NAME <$> (parseKeysFunc _ _ 0 >>= _) = _
    rw [hp]
    rfl
  cases hc.symm.trans (h (.ALTERNATE_TIME_OFFSET_NAME d) [] [] rfl)

/-- A function that leaves a member as it is in the memory. -/
theorem not_reads_left {α : Type} (id : α → BaseMngTlv) (d m : α) (keys : Keys) (g : Keys × Buf → α)
    (hm : (id m).id = (id d).id) (hinj : ∀ m m', id m = id m' → m = m')
    (hc : ∀ buf, call_data (id m) buf 0 = id <$> (parseKeysFunc keys buf 0 >>= fun k => pure (g k)))
    (hne : ∀ k, g k ≠ d) : ¬ ReadsBack libc (id d) := by
  intro h
  have hr := h (id m) [] [] hm
  rw [List.nil_append, List.length_nil, hc] at hr
  cases hp : parseKeysFunc keys (dump libc (id d) ++ [0]) 0 with
  | error e =>
    rw [hp] at hr
    cases hr
  | ok k =>
    rw [hp] at hr
    exact hne k (hinj _ _ (Except.ok.inj hr))

theorem ne_succ (n : UInt8) : n + 1 ≠ n := by
  intro h
  have hn := congrArg UInt8.toNat h
  rw [UInt8.toNat_add, show (1 : UInt8).toNat = 1 from rfl] at hn
  have := n.toNat_lt
  omega

theorem not_reads_TIMESCALE_PROPERTIES (d : TIMESCALE_PROPERTIES_t) : ¬ ReadsBack libc (.TIMESCALE_PROPERTIES d) :=
  not_reads_left .TIMESCALE_PROPERTIES d { d with timeSource := d.timeSource + 1 } [("ptpTimescale", { flag := true })]
    (fun k => ⟨flagIf k.1 "ptpTimescale" 0x8, d.timeSource + 1⟩) rfl (fun _ _ => BaseMngTlv.TIMESCALE_PROPERTIES.inj)
    (fun _ => rfl)
    fun _ h => ne_succ d.timeSource (congrArg TIMESCALE_PROPERTIES_t.timeSource h)

theorem not_reads_ALTERNATE_TIME_OFFSET_ENABLE (d : ALTERNATE_TIME_OFFSET_ENABLE_t) :
    ¬ ReadsBack libc (.ALTERNATE_TIME_OFFSET_ENABLE d) :=
  not_reads_left .ALTERNATE_TIME_OFFSET_ENABLE d
    { d with keyField := d.keyField + 1 } [("alternateTimescaleOffsetsDS", { flag := true })]
    (fun k => ⟨d.keyField + 1, UInt8.ofInt (k.1.num "alternateTimescaleOffsetsDS")⟩) rfl
    (fun _ _ => BaseMngTlv.ALTERNATE_TIME_OFFSET_ENABLE.inj) (fun _ => rfl)
    fun _ h => ne_succ d.keyField (congrArg ALTERNATE_TIME_OFFSET_ENABLE_t.keyField h)

/-- The ids that are only asked for have no function. -/
theorem not_reads_error {d : BaseMngTlv} (h : ∀ buf, call_data d buf 0 = .error .error) : ¬ ReadsBack libc d := by
  intro hr
  cases (h _).symm.trans (hr d [] [] rfl)

end Flags

/-! ## All of them -/

/-- The structures that are given back. A flag that is printed as a word is taken as 0, negative
numbers are refused, and some lines are no keys of the command. -/
def TakenBack : BaseMngTlv → Prop
  | .INITIALIZE _ | .PRIORITY1 _ | .PRIORITY2 _ | .DOMAIN _ | .SLAVE_ONLY _ | .ANNOUNCE_RECEIPT_TIMEOUT _
  | .PRIMARY_DOMAIN _ | .SYNCHRONIZATION_UNCERTAIN_NP _ => True
  | .LOG_ANNOUNCE_INTERVAL d => 0 ≤ d.logAnnounceInterval.toInt
  | .LOG_SYNC_INTERVAL d => d.logSyncInterval = 0 ∨ d.logSyncInterval = 1
  | .LOG_MIN_PDELAY_REQ_INTERVAL d => 0 ≤ d.logMinPdelayReqInterval.toInt
  | .VERSION_NUMBER d => 1 ≤ d.versionNumber ∧ d.versionNumber ≤ 0xf
  | .CLOCK_ACCURACY d => d.clockAccuracy ≤ 0xef
  | .DELAY_MECHANISM d => d.delayMechanism ≤ 0xfe
  | .UTC_PROPERTIES d => 0 ≤ d.currentUtcOffset.toInt ∧ d.flags &&& 0x7 = d.flags
  | .TRACEABILITY_PROPERTIES d => d.flags &&& 0x30 = d.flags
  | .UNICAST_NEGOTIATION_ENABLE d => d.flags = 0
  | .PATH_TRACE_ENABLE d => d.flags = 0
  | .ACCEPTABLE_MASTER_TABLE_ENABLED d => d.flags = 0
  | .EXTERNAL_PORT_CONFIGURATION_ENABLED d => d.flags = 0
  | .HOLDOVER_UPGRADE_ENABLE d => d.flags = 0
  | .MASTER_ONLY d => d.flags = 0 ∨ d.flags = 1
  | .ALTERNATE_MASTER d => d.flags = 0 ∧ 0 ≤ d.logAlternateMulticastSyncInterval.toInt
  | .ALTERNATE_TIME_OFFSET_PROPERTIES d => 0 ≤ d.currentOffset.toInt ∧ 0 ≤ d.jumpSeconds.toInt ∧
      d.timeOfNextJump ≤ 0xffffffffffff
  | .EXT_PORT_CONFIG_PORT_DATA_SET d => d.flags = 0 ∧ d.desiredState ∈ portStates
  | .GRANDMASTER_SETTINGS_NP d => 0 ≤ d.currentUtcOffset.toInt ∧ d.flags &&& 0x3f = d.flags ∧ d.timeSource ∈ timeSources
  | .PORT_DATA_SET_NP d => 0 ≤ d.asCapable.toInt
  | .SUBSCRIBE_EVENTS_NP d => d.bitmask.val = (d.bitmask.val.getD 0 0 &&& 0x3) :: List.replicate 63 0
  | _ => False

/-- The printed lines of a structure, as the rest of a command, set a new structure to it just
for these. The user description is left out: its text is read on behind the end of the line. -/
theorem dump_read_back_iff (d : BaseMngTlv) (hd : d.id ≠ .USER_DESCRIPTION) : ReadsBack libc d ↔ TakenBack d := by
  cases d with
  | USER_DESCRIPTION d => exact absurd rfl hd
  | INITIALIZE d => exact iff_of_true (reads_INITIALIZE d) trivial
  | PRIORITY1 d => exact iff_of_true (reads_PRIORITY1 d) trivial
  | PRIORITY2 d => exact iff_of_true (reads_PRIORITY2 d) trivial
  | DOMAIN d => exact iff_of_true (reads_DOMAIN d) trivial
  | SLAVE_ONLY d => exact iff_of_true (reads_SLAVE_ONLY d) trivial
  | ANNOUNCE_RECEIPT_TIMEOUT d => exact iff_of_true (reads_ANNOUNCE_RECEIPT_TIMEOUT d) trivial
  | PRIMARY_DOMAIN d => exact iff_of_true (reads_PRIMARY_DOMAIN d) trivial
  | SYNCHRONIZATION_UNCERTAIN_NP d => exact iff_of_true (reads_SYNCHRONIZATION_UNCERTAIN_NP d) trivial
  | LOG_ANNOUNCE_INTERVAL d => exact reads_LOG_ANNOUNCE_INTERVAL d
  | LOG_SYNC_INTERVAL d => exact reads_LOG_SYNC_INTERVAL d
  | LOG_MIN_PDELAY_REQ_INTERVAL d => exact reads_LOG_MIN_PDELAY_REQ_INTERVAL d
  | VERSION_NUMBER d => exact reads_VERSION_NUMBER d
  | CLOCK_ACCURACY d => exact reads_CLOCK_ACCURACY d
  | DELAY_MECHANISM d => exact reads_DELAY_MECHANISM d
  | UTC_PROPERTIES d => exact reads_UTC_PROPERTIES d
  | TRACEABILITY_PROPERTIES d => exact reads_TRACEABILITY_PROPERTIES d
  | UNICAST_NEGOTIATION_ENABLE d => exact reads_UNICAST_NEGOTIATION_ENABLE d
  | PATH_TRACE_ENABLE d => exact reads_PATH_TRACE_ENABLE d
  | ACCEPTABLE_MASTER_TABLE_ENABLED d => exact reads_ACCEPTABLE_MASTER_TABLE_ENABLED d
  | EXTERNAL_PORT_CONFIGURATION_ENABLED d => exact reads_EXTERNAL_PORT_CONFIGURATION_ENABLED d
  | HOLDOVER_UPGRADE_ENABLE d => exact reads_HOLDOVER_UPGRADE_ENABLE d
  | MASTER_ONLY d => exact reads_MASTER_ONLY d
  | ALTERNATE_MASTER d => exact reads_ALTERNATE_MASTER d
  | ALTERNATE_TIME_OFFSET_PROPERTIES d => exact reads_ALTERNATE_TIME_OFFSET_PROPERTIES d
  | EXT_PORT_CONFIG_PORT_DATA_SET d => exact reads_EXT_PORT_CONFIG_PORT_DATA_SET d
  | GRANDMASTER_SETTINGS_NP d => exact reads_GRANDMASTER_SETTINGS_NP d
  | PORT_DATA_SET_NP d => exact reads_PORT_DATA_SET_NP d
  | SUBSCRIBE_EVENTS_NP d => exact reads_SUBSCRIBE_EVENTS_NP d
  | TIME d => exact iff_of_false (not_reads_TIME d) (fun h => h)
  | TIMESCALE_PROPERTIES d => exact iff_of_false (not_reads_TIMESCALE_PROPERTIES d) (fun h => h)
  | ALTERNATE_TIME_OFFSET_ENABLE d => exact iff_of_false (not_reads_ALTERNATE_TIME_OFFSET_ENABLE d) (fun h => h)
  | ALTERNATE_TIME_OFFSET_NAME d => exact iff_of_false (not_reads_ALTERNATE_TIME_OFFSET_NAME d) (fun h => h)
  | _ => exact iff_of_false (not_reads_error fun _ => rfl) (fun h => h)

/-- A clock that is traceable in time. -/
theorem traceable_read_back : BaseMngTlv.id (.TRACEABILITY_PROPERTIES ⟨0x10⟩) ≠ .USER_DESCRIPTION ∧
    ReadsBack ⟨fun _ _ => none, fun _ _ => none⟩ (.TRACEABILITY_PROPERTIES ⟨0x10⟩) :=
  ⟨by decide, (dump_read_back_iff _ (by decide)).2 (show (0x10 : UInt8) &&& 0x30 = 0x10 by decide)⟩

end Reads

end LibPmc
