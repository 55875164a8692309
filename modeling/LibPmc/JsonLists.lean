import LibPmc.Json.Leaves
import LibPmc.ValidJson
/-!
# The lists of a message as JSON

What an array of records would show, and that the functions for its elements put that out.
The array a message comes with is empty, so that it shows the list of the structure exactly
where that is empty too.
-/
namespace LibPmc

open Wire Cstr Json JsonProc

/-! ## The fields of a record -/

namespace ListRecord

/-- The fields of a record, by the paths to their members. The length of an address and of a
text shows in the octets it counts. -/
def fields : ListRecord → Leaves
  | .clockIdentity val => [([], .text val.string)]
  | .portAddress val => [(["networkProtocol"], .text (octets (netProt2str_c val.networkProtocol))),
      (["addressField"], .text (bufToId val.addressField))]
  | .faultRecord val => [(["faultRecordLength"], .number (signed val.faultRecordLength.toNat)),
      (["faultTime"], .number val.faultTime.string),
      (["severityCode"], .text (octets (faultRec2str_c val.severityCode))),
      (["faultName"], .text val.faultName.textField), (["faultValue"], .text val.faultValue.textField),
      (["faultDescription"], .text val.faultDescription.textField)]
  | .acceptableMaster val =>
      [(["acceptablePortIdentity", "clockIdentity"], .text val.acceptablePortIdentity.clockIdentity.string),
        (["acceptablePortIdentity", "portNumber"], .number (signed val.acceptablePortIdentity.portNumber.toNat)),
        (["alternatePriority1"], .number (signed val.alternatePriority1.toNat))]

/-- The value carries the fields of the record. -/
def Carried (r : ListRecord) (v : Json.Value) : Prop := v.Has r.fields

/-- The texts of a record, which are put out as they are. -/
def texts : ListRecord → List (List UInt8)
  | .faultRecord val => [val.faultName.textField, val.faultValue.textField, val.faultDescription.textField]
  | _ => []

end ListRecord

/-! ## The functions of the elements -/

namespace JsonProc

/-- The function appends an element with these leaves. -/
def Appends (f : Emit) (ls : Leaves) (p : JsonProcToJson) : Prop :=
  ∃ w x v, (f p).result = p.result ++ (w ++ x) ∧ Ws w ∧ Derives (.value v) x ∧ v.Has ls

theorem appends_object {f : Emit} {ms : Json.Fields} {ls : Leaves} (hf : Adds f ms) (hn : AreNames ms.names)
    (hc : ms.Carries ls) (p : JsonProcToJson) : Appends (fun p => (f p.startObject).closeObject) ls p := by
  obtain ⟨v, hv, hls⟩ := hc.object hn
  refine ⟨Json.indent p.m_first_vals.length, _, v, ?_, ws_indent _, hv p.m_first_vals.length, hls⟩
  exact congrArg JsonProcToJson.result (closeObject_eq hf hn p)

theorem appends_string {t : List UInt8} (ht : Plain t) {p : JsonProcToJson} (hp : p.m_first = true) :
    Appends (fun p => ((p.close.indent.add (octets "\"")).add t).add (octets "\"")) [([], .text t)] p := by
  obtain ⟨v, hv, hls⟩ := carries_fixed ht
  refine ⟨0x0a :: Json.indent p.m_first_vals.length, _, v, ?_, ws_newline _, hv 0, hls⟩
  simp [JsonProcToJson.close, JsonProcToJson.indent, JsonProcToJson.add, Json.indent, Piece.fixed, quoted, hp]

/-- At the start of an array, the function of an element appends a value that carries the
record's fields where no text of the record has anything to escape. -/
theorem procElement_appends (r : ListRecord) (h : ∀ t ∈ r.texts, Plain t) {p : JsonProcToJson}
    (hp : p.m_first = true) : Appends (procElement r) r.fields p := by
  cases r with
  | clockIdentity val => exact appends_string (ascii_string val).plain hp
  | portAddress val =>
    refine appends_object HasMembers.adds (of_decide_eq_true rfl) ?_ p
    refine .cons (carries_fixed _) (.cons (carries_fixed _) Fields.carries_nil ?_) ?_
    · exact of_decide_eq_true rfl
    · exact of_decide_eq_true rfl
  | faultRecord val =>
    simp only [ListRecord.texts, List.forall_mem_cons] at h
    obtain ⟨hname, hvalue, hdescr, -⟩ := h
    refine appends_object HasMembers.adds (of_decide_eq_true rfl) ?_ p
    refine .cons (carries_number _) (.cons (carries_number _) (.cons (carries_fixed _) (.cons (carries_text hname)
      (.cons (carries_text hvalue) (.cons (carries_text hdescr) Fields.carries_nil ?_) ?_) ?_) ?_) ?_) ?_
    all_goals exact of_decide_eq_true rfl
  | acceptableMaster val =>
    refine appends_object HasMembers.adds (of_decide_eq_true rfl) ?_ p
    have hnames : AreNames ["clockIdentity", "portNumber"] := by decide
    have hid := Fields.Carries.cons (carries_fixed (ascii_string val.acceptablePortIdentity.clockIdentity).plain)
      (.cons (carries_number (isNumber_signed val.acceptablePortIdentity.portNumber.toNat))
        Fields.carries_nil hnames.tail)
      hnames
    refine .cons (hid.object hnames) (.cons (carries_number _) Fields.carries_nil ?_) ?_
    · exact of_decide_eq_true rfl
    · exact of_decide_eq_true rfl

end JsonProc

/-! ## The arrays of the structures -/

/-- The list of a structure and the name of its array. -/
def BaseMngTlv.listed : BaseMngTlv → Option (String × List ListRecord)
  | .PATH_TRACE_LIST d => some ("pathSequence", d.pathSequence.map .clockIdentity)
  | .GRANDMASTER_CLUSTER_TABLE d => some ("PortAddress", d.PortAddress.map .portAddress)
  | .UNICAST_MASTER_TABLE d => some ("PortAddress", d.PortAddress.map .portAddress)
  | .ACCEPTABLE_MASTER_TABLE d => some ("list", d.list.map .acceptableMaster)
  | .FAULT_LOG d => some ("faultRecords", d.faultRecords.map .faultRecord)
  | _ => none

namespace JsonProc

/-- Among the members that the function puts out, none of them a text, is an array without
elements under the name. -/
def PutsOutEmpty (f : Emit) (name : String) : Prop :=
  ∃ ms : Json.Fields, Adds f ms ∧ AreNames ms.names ∧ ms.texts = [] ∧ (name, Piece.noElements) ∈ ms

theorem putsOutEmpty_all {fs : List Emit} {ms : Json.Fields} {name : String} [hw : HasMembers (all fs) ms]
    (hn : decide (AreNames ms.names) = true) (ht : ms.texts = []) (hm : (name, Piece.noElements) ∈ ms) :
    PutsOutEmpty (all fs) name := ⟨ms, hw.adds, of_decide_eq_true hn, ht, hm⟩

theorem proc_listed {d : BaseMngTlv} {name : String} {records : List ListRecord}
    (h : d.listed = some (name, records)) : PutsOutEmpty (proc d) name := by
  cases d with
  | PATH_TRACE_LIST | GRANDMASTER_CLUSTER_TABLE | UNICAST_MASTER_TABLE | ACCEPTABLE_MASTER_TABLE | FAULT_LOG =>
    cases h
    refine putsOutEmpty_all ?_ ?_ ?_
    · rfl
    · rfl
    · simp
  | _ => cases h

end JsonProc

namespace Message

/-- The list is kept by `msg2json`: the array of this name has one element for each record
of the list, in the same order, and the element carries the record's fields. -/
def KeepsList (m : Message) (name : String) (records : List ListRecord) : Prop :=
  ∃ out v vs, m.msg2json = some out ∧ Text v out ∧ v.lookup ["dataField", name] = some (.array vs) ∧
    List.Forall₂ ListRecord.Carried records vs

/-- Whatever the list, the array is read as one without elements. -/
theorem msg2json_listed {m : Message} {d : BaseMngTlv} {name : String} {records : List ListRecord}
    (ht : m.type = MsgType.Management) (hm : m.mngType = TlvType.MANAGEMENT) (hd : m.dataGet = .to d)
    (hid : d.id = m.tlvId) (hl : d.listed = some (name, records)) :
    ∃ out, m.msg2json = some out ∧ (∃ v, Text v out) ∧
      ∀ v, Text v out → v.lookup ["dataField", name] = some (.array []) := by
  obtain ⟨ms, hf, hn, hts, hmem⟩ := proc_listed hl
  have hmng : m.mngFields = some (object "dataField" (JsonProc.proc d)) := by
    unfold mngFields
    rw [if_pos hm]
    exact dataField_to hd hid
  obtain ⟨g, ns, hg, hns, hnames, htexts, hsub⟩ :=
    fields_adds ht hmng (adds_object "dataField" hf hn) (.inr (.inl rfl))
  -- there are no texts, so that every reading is the printed one
  have hempty : (Piece.object ns hnames).texts = [] := by
    change Json.Fields.texts ns = []
    rw [htexts, Json.Fields.texts_object, hts, List.map_nil]
  have hplain : (Piece.object ns hnames).texts.Plain := by
    rw [hempty]
    exact Texts.plain_nil
  refine ⟨_, msg2json_object hg hns hnames, ?_, ?_⟩
  · obtain ⟨v, hv, -⟩ := (Piece.object ns hnames).text_iff.2 hplain
    exact ⟨v, hv⟩
  · intro v hv
    have hs : v.ShowsAll (Piece.object ns hnames).texts := by
      rw [hempty]
      exact v.showsAll_nil
    obtain ⟨-, hv⟩ := Piece.derives_of_text hv hs
    obtain ⟨fs, rfl, hr⟩ := Piece.object_reads hv hs
    obtain ⟨w, hw, hdata⟩ := hr.get hnames (hsub _ List.mem_cons_self)
    have hws : w.ShowsAll ms.texts := by
      rw [hts]
      exact w.showsAll_nil
    obtain ⟨fs', rfl, hr'⟩ := Piece.object_reads hdata hws
    obtain ⟨a, ha, harray⟩ := hr'.get hn hmem
    obtain rfl := Piece.noElements_reads harray
    simp [Value.lookup, hw, ha]

/-- Only a list without records is kept. -/
theorem KeepsList.eq_nil {m : Message} {d : BaseMngTlv} {name : String} {records : List ListRecord}
    (h : m.KeepsList name records) (ht : m.type = MsgType.Management) (hm : m.mngType = TlvType.MANAGEMENT)
    (hd : m.dataGet = .to d) (hid : d.id = m.tlvId) (hl : d.listed = some (name, records)) : records = [] := by
  obtain ⟨out, v, vs, hout, hv, hvs, hr⟩ := h
  obtain ⟨out', hout', -, hempty⟩ := msg2json_listed ht hm hd hid hl
  rw [hout'] at hout
  obtain rfl := Option.some.inj hout
  rw [hempty v hv] at hvs
  injection hvs with hvs
  injection hvs with hvs
  subst hvs
  cases hr
  rfl

/-- Of a message that holds a structure with a list, `msg2json` keeps the list exactly where
it has no records. -/
theorem keepsList_iff {m : Message} {d : BaseMngTlv} {name : String} {records : List ListRecord}
    (ht : m.type = MsgType.Management) (hm : m.mngType = TlvType.MANAGEMENT) (hd : m.dataGet = .to d)
    (hid : d.id = m.tlvId) (hl : d.listed = some (name, records)) : m.KeepsList name records ↔ records = [] := by
  constructor
  · intro h
    exact h.eq_nil ht hm hd hid hl
  · rintro rfl
    obtain ⟨out, hout, ⟨v, hv⟩, hempty⟩ := msg2json_listed ht hm hd hid hl
    exact ⟨out, v, [], hout, hv, hempty v hv, .nil⟩

/-- A reply with an ACCEPTABLE_MASTER_TABLE without records. -/
def emptyTableReply : Mem := mngMessage .RESPONSE [0, 1, 0, 4, 0x20, 0x1a, 0, 0]

theorem keepsList_emptyTable : ((new default).parse emptyTableReply 56).msg.KeepsList "list" [] := by
  have hd : ((new default).parse emptyTableReply 56).msg.dataGet = .to (.ACCEPTABLE_MASTER_TABLE ⟨0, []⟩) := rfl
  exact (keepsList_iff rfl rfl hd rfl rfl).2 rfl

/-- A reply with a PATH_TRACE_LIST of one clock. -/
def pathReply : Mem := mngMessage .RESPONSE [0, 1, 0, 10, 0x20, 0x15, 1, 2, 3, 4, 5, 6, 7, 8]

/-- The clock of the path is not in the array. -/
theorem pathSequence_lost : ¬ ∀ (buf : Mem) (n : Int) (d : BaseMngTlv) (name : String) (records : List ListRecord),
    Accepted ((new default).parse buf n).err → ((new default).parse buf n).msg.dataGet = .to d →
      d.listed = some (name, records) → ((new default).parse buf n).msg.KeepsList name records := by
  intro h
  have hd : ((new default).parse pathReply 62).msg.dataGet =
      .to (.PATH_TRACE_LIST ⟨[⟨⟨[1, 2, 3, 4, 5, 6, 7, 8], rfl⟩⟩]⟩) := rfl
  have hk := h pathReply 62 _ _ _ (by decide +kernel) hd rfl
  exact absurd (hk.eq_nil rfl rfl hd rfl rfl) (List.cons_ne_nil _ _)

end Message

end LibPmc
