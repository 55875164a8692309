import LibPmc.JsonProc
import LibPmc.Threshold
/-!
# What `msg2json` puts out

Each function of the emitter puts out members: `Adds`. The members of a message are a
printed document, so that what `msg2json` gives is JSON that shows the texts of the
message exactly where none of them has anything to escape.
-/
namespace LibPmc

open Wire Cstr Json

namespace JsonProc

open JsonProcToJson

/-! ## The functions of the emitter -/

/-- The function puts out these members, at any depth. -/
def Adds (f : Emit) (ms : Json.Fields) : Prop := ∀ p, f p =
  ⟨p.result ++ ms.print p.m_first_vals.length p.m_first, p.m_first_vals, p.m_first && ms.isEmpty⟩

class HasMembers (f : Emit) (ms : outParam Json.Fields) : Prop where
  adds : Adds f ms

@[simp] theorem octets_newline : octets "\n" = [0x0a] := by decide
@[simp] theorem octets_comma : octets "," = [0x2c] := by decide
@[simp] theorem octets_quote : octets "\"" = [0x22] := by decide
@[simp] theorem octets_openBracket : octets "[" = [0x5b] := by decide
@[simp] theorem octets_closeBracket : octets "]" = [0x5d] := by decide
@[simp] theorem octets_openBrace : octets "\x7b" = [0x7b] := by decide
@[simp] theorem octets_closeBrace : octets "\x7d" = [0x7d] := by decide

theorem startName_eq (p : JsonProcToJson) (name tail : String) : p.startName name tail =
    ⟨p.result ++ ((if p.m_first then [] else [0x2c]) ++ (0x0a :: Json.indent p.m_first_vals.length) ++
      quoted (octets name) ++
      octets " :" ++ octets tail), p.m_first_vals, false⟩ := by
  have hq : octets "\" :" = 0x22 :: octets " :" := by decide
  cases hf : p.m_first with
  | true => simp [startName, close, JsonProcToJson.indent, add, Json.indent, quoted, hq, hf]
  | false => simp [startName, close, JsonProcToJson.indent, add, Json.indent, quoted, hq, hf]

theorem adds_id : Adds (fun p => p) [] := fun p => by simp [Json.Fields.print]

theorem Adds.comp {f g : Emit} {a b : Json.Fields} (hf : Adds f a) (hg : Adds g b) :
    Adds (fun p => g (f p)) (a ++ b) := by
  intro p
  change g (f p) = _
  rw [hf p, hg, Json.Fields.print_append]
  cases a with
  | nil => simp
  | cons m a => simp

/-- A function that puts out a name and what the piece is. -/
theorem adds_of_eq {f : Emit} {name : String} {x : Piece} (tail : String) (val : Nat → List UInt8)
    (hf : ∀ p, f p = ⟨(p.startName name tail).result ++ val p.m_first_vals.length, p.m_first_vals, false⟩)
    (hv : ∀ d, octets tail ++ val d = x.pre d ++ x.val d) : Adds f [(name, x)] := by
  intro p
  rw [hf, startName_eq]
  simp [Json.Fields.print, Json.Fields.line, List.append_assoc, hv]

theorem procNumber_eq (name : String) (val : List UInt8) (p : JsonProcToJson) : procNumber name val p =
    ⟨(p.startName name " ").result ++ val, p.m_first_vals, false⟩ := by
  simp [procNumber, add, startName_eq]

theorem adds_procNumber (name : String) {x : List UInt8} (h : IsNumber x) :
    Adds (procNumber name x) [(name, .number x h)] :=
  adds_of_eq " " (fun _ => x) (procNumber_eq name x) fun _ => rfl

theorem procBool_eq (name : String) (val : Bool) (p : JsonProcToJson) : procBool name val p =
    ⟨(p.startName name " ").result ++ octets (if val then "true" else "false"), p.m_first_vals, false⟩ := by
  simp [procBool, add, startName_eq]

theorem adds_procBool (name : String) (b : Bool) : Adds (procBool name b) [(name, .bool b)] :=
  adds_of_eq " " (fun _ => octets (if b then "true" else "false")) (procBool_eq name b) fun _ => rfl

theorem procString_eq (name : String) (val : List UInt8) (p : JsonProcToJson) : procString name val p =
    ⟨(p.startName name " ").result ++ quoted val, p.m_first_vals, false⟩ := by
  have h : octets " \"" = octets " " ++ [0x22] := by decide
  simp [procString, add, startName_eq, quoted, h]

theorem adds_fixed (name : String) {t : List UInt8} (h : Plain t) : Adds (procString name t) [(name, .fixed t h)] :=
  adds_of_eq " " (fun _ => quoted t) (procString_eq name t) fun _ => rfl

theorem adds_text (name : String) (t : List UInt8) : Adds (procString name t) [(name, .text t)] :=
  adds_of_eq " " (fun _ => quoted t) (procString_eq name t) fun _ => rfl

theorem procArray_eq {α : Type} (name : String) (l : List α) (p : JsonProcToJson) : procArray name l p =
    ⟨(p.startName name "\n").result ++ (Json.indent p.m_first_vals.length ++
      0x5b :: (0x0a :: Json.indent p.m_first_vals.length) ++ [0x5d]), p.m_first_vals, false⟩ := by
  simp [procArray, startArray, closeArray, start, stop, add, JsonProcToJson.indent, Json.indent, startName_eq]

theorem adds_procArray {α : Type} (name : String) (l : List α) : Adds (procArray name l) [(name, .noElements)] := by
  apply adds_of_eq "\n" (fun d => Json.indent d ++ 0x5b :: (0x0a :: Json.indent d) ++ [0x5d]) (procArray_eq name l)
  intro d
  simp [Piece.noElements]

/-- What is between the braces of an object. -/
theorem closeObject_eq {f : Emit} {ms : Json.Fields} (hf : Adds f ms) (hn : AreNames ms.names) (p : JsonProcToJson) :
    (f p.startObject).closeObject = ⟨p.result ++ (Json.indent p.m_first_vals.length ++
      (Piece.object ms hn).val p.m_first_vals.length), p.m_first_vals, p.m_first⟩ := by
  rw [hf]
  simp [startObject, closeObject, start, stop, add, JsonProcToJson.indent, Json.indent, Piece.object]

theorem adds_object (name : String) {f : Emit} {ms : Json.Fields} (hf : Adds f ms) (hn : AreNames ms.names) :
    Adds (object name f) [(name, .object ms hn)] := by
  apply adds_of_eq "\n" fun d => Json.indent d ++ (Piece.object ms hn).val d
  · intro p
    rw [object, closeObject_eq hf hn]
    simp [startName_eq]
  · intro d
    simp [Piece.object]

/-! ## The members of a value -/

section Instances
variable (name : String)

/-- The names of an enumeration's values have nothing to escape. -/
class Named {α : Type} (func : α → String) : Prop where
  ascii : ∀ val, Ascii (octets (func val))

theorem Named.plain {α : Type} (func : α → String) [Named func] (val : α) :
    Plain (octets (func val)) := (Named.ascii val).plain

theorem ascii_ite {c : Prop} [Decidable c] {s t : String} (hs : Ascii (octets s)) (ht : Ascii (octets t)) :
    Ascii (octets (if c then s else t)) := by
  split
  · exact hs
  · exact ht

instance : Named act2str_c := ⟨fun val => by cases val <;> decide⟩
instance : Named mng2str_c := ⟨fun val => by cases val <;> decide⟩
instance : Named tlv2str_c := ⟨fun val => by
  unfold tlv2str_c
  repeat refine ascii_ite (by decide) ?_
  decide⟩
instance : Named errId2str_c := ⟨fun val => by
  unfold errId2str_c
  repeat refine ascii_ite (by decide) ?_
  decide⟩
instance : Named netProt2str_c := ⟨fun val => by
  unfold netProt2str_c
  repeat refine ascii_ite (by decide) ?_
  decide⟩
instance : Named faultRec2str_c := ⟨fun val => by
  unfold faultRec2str_c
  repeat refine ascii_ite (by decide) ?_
  decide⟩
instance : Named timeSrc2str_c := ⟨fun val => by
  unfold timeSrc2str_c
  repeat refine ascii_ite (by decide) ?_
  decide⟩
instance : Named portState2str_c := ⟨fun val => by
  unfold portState2str_c
  repeat refine ascii_ite (by decide) ?_
  decide⟩
instance : Named ts2str_c := ⟨fun val => by
  unfold ts2str_c
  repeat refine ascii_ite (by decide) ?_
  decide⟩

theorem isNumber_interval (v : TimeInterval_t) : IsNumber v.interval := isNumber_fixed6 _ _

theorem isNumber_string (v : Timestamp_t) : IsNumber v.string :=
  ⟨[], _, _, [], by rw [Timestamp_t.string, List.append_nil, List.append_assoc]; rfl, .inl rfl, isInt_decimal _,
    isFrac_point (digits_zeroPadded 9 _), .inl rfl⟩

theorem ascii_flatMap_hex2 (l : List UInt8) : Ascii (l.flatMap hex2) := by
  intro b hb
  obtain ⟨a, -, hb⟩ := List.mem_flatMap.1 hb
  exact ascii_hex2 a b hb

theorem ascii_string (id : ClockIdentity_t) : Ascii id.string := by
  have hp : Ascii (octets ".") := by decide
  exact ((((ascii_flatMap_hex2 _).append hp).append (ascii_flatMap_hex2 _)).append hp).append (ascii_flatMap_hex2 _)

theorem ascii_bufToId (l : List UInt8) : Ascii (bufToId l) := by
  cases l with
  | nil => exact List.forall_mem_nil _
  | cons b l =>
    refine (ascii_hex2 b).append fun c hc => ?_
    obtain ⟨a, -, hc⟩ := List.mem_flatMap.1 hc
    exact Ascii.append (show Ascii (octets ":") by decide) (ascii_hex2 a) c hc

instance (val : UInt8) : HasMembers (procValue name val) [(name, .number _ (isNumber_signed val.toNat))] :=
  ⟨adds_procNumber name _⟩
instance (val : UInt16) : HasMembers (procValue name val) [(name, .number _ (isNumber_signed val.toNat))] :=
  ⟨adds_procNumber name _⟩
instance (val : UInt32) : HasMembers (procValue name val) [(name, .number _ (isNumber_signed val.toNat))] :=
  ⟨adds_procNumber name _⟩
instance (val : UInt64) : HasMembers (procValue name val) [(name, .number _ (isNumber_signed val.toNat))] :=
  ⟨adds_procNumber name _⟩
instance (val : Int8) : HasMembers (procValue name val) [(name, .number _ (isNumber_signed val.toInt))] :=
  ⟨adds_procNumber name _⟩
instance (val : Int16) : HasMembers (procValue name val) [(name, .number _ (isNumber_signed val.toInt))] :=
  ⟨adds_procNumber name _⟩
instance (val : Int32) : HasMembers (procValue name val) [(name, .number _ (isNumber_signed val.toInt))] :=
  ⟨adds_procNumber name _⟩
instance (val : Int64) : HasMembers (procValue name val) [(name, .number _ (isNumber_signed val.toInt))] :=
  ⟨adds_procNumber name _⟩

instance (val : TimeInterval_t) : HasMembers (procValue name val) [(name, .number _ (isNumber_interval val))] :=
  ⟨adds_procNumber name _⟩

instance (val : Timestamp_t) : HasMembers (procValue name val) [(name, .number _ (isNumber_string val))] :=
  ⟨adds_procNumber name _⟩

instance (val : ClockIdentity_t) : HasMembers (procValue name val) [(name, .fixed _ (ascii_string val).plain)] :=
  ⟨adds_fixed name _⟩

instance (val : PTPText_t) : HasMembers (procValue name val) [(name, .text val.textField)] := ⟨adds_text name _⟩

instance (flags mask : UInt8) : HasMembers (procFlag name flags mask) [(name, .bool (flags &&& mask > 0))] :=
  ⟨adds_procBool name _⟩

instance (val : List UInt8) : HasMembers (procBinary name val) [(name, .fixed _ (ascii_bufToId val).plain)] :=
  ⟨adds_fixed name _⟩

instance {α : Type} (l : List α) : HasMembers (procArray name l) [(name, .noElements)] := ⟨adds_procArray name l⟩

instance {α : Type} (func : α → String) [Named func] (val : α) :
    HasMembers (procEnum func name val) [(name, .fixed _ (Named.plain func val))] := ⟨adds_fixed name _⟩

instance : HasMembers (all []) [] := ⟨adds_id⟩

instance (f : Emit) (fs : List Emit) (a b : Json.Fields) [hf : HasMembers f a] [hg : HasMembers (all fs) b] :
    HasMembers (all (f :: fs)) (a ++ b) := ⟨hf.adds.comp hg.adds⟩

/-- The members of nested objects, none of them a text. -/
instance (val : PortIdentity_t) : HasMembers (procValue name val) [(name, .object
    [("clockIdentity", .fixed _ (ascii_string val.clockIdentity).plain),
      ("portNumber", .number _ (isNumber_signed val.portNumber.toNat))]
    (show AreNames ["clockIdentity", "portNumber"] by decide))] := ⟨adds_object name HasMembers.adds _⟩

instance (val : PortAddress_t) : HasMembers (procValue name val) [(name, .object
    [("networkProtocol", .fixed _ (Named.plain netProt2str_c val.networkProtocol)),
      ("addressField", .fixed _ (ascii_bufToId val.addressField).plain)]
    (show AreNames ["networkProtocol", "addressField"] by decide))] := ⟨adds_object name HasMembers.adds _⟩

instance (val : ClockQuality_t) : HasMembers (procValue name val) [(name, .object
    [("clockClass", .number _ (isNumber_signed val.clockClass.toNat)),
      ("clockAccuracy", .number _ (isNumber_signed val.clockAccuracy.toNat)),
      ("offsetScaledLogVariance", .number _ (isNumber_signed val.offsetScaledLogVariance.toNat))]
    (show AreNames ["clockClass", "clockAccuracy", "offsetScaledLogVariance"] by decide))] :=
  ⟨adds_object name HasMembers.adds _⟩

end Instances

end JsonProc

/-! ## The TLVs -/

/-- The texts that are put out of a structure, by the names of their members. -/
def BaseMngTlv.shown : BaseMngTlv → List (String × List UInt8)
  | .CLOCK_DESCRIPTION d => [("physicalLayerProtocol", d.physicalLayerProtocol.textField),
      ("productDescription", d.productDescription.textField), ("revisionData", d.revisionData.textField),
      ("userDescription", d.userDescription.textField)]
  | .USER_DESCRIPTION d => [("userDescription", d.userDescription.textField)]
  | .ALTERNATE_TIME_OFFSET_NAME d => [("displayName", d.displayName.textField)]
  | .PORT_PROPERTIES_NP d => [("interface", d.interface.textField)]
  | _ => []

namespace JsonProc

/-- A structure's function puts out the members of an object, and its texts among them. -/
def PutsOut (f : Emit) (ts : List (String × List UInt8)) : Prop :=
  ∃ ms : Json.Fields, Adds f ms ∧ AreNames ms.names ∧ ms.texts = ts.map fun e => ([e.1], e.2)

theorem putsOut_all {fs : List Emit} {ms : Json.Fields} {ts : List (String × List UInt8)}
    [hw : HasMembers (all fs) ms]
    (hn : decide (AreNames ms.names) = true) (ht : ms.texts = ts.map fun e => ([e.1], e.2)) : PutsOut (all fs) ts :=
  ⟨ms, hw.adds, of_decide_eq_true hn, ht⟩

theorem putsOut_proc (d : BaseMngTlv) : PutsOut (proc d) d.shown := by
  cases d <;> (refine putsOut_all ?_ ?_ <;> rfl)

end JsonProc

/-! ## The message -/

namespace Message

open JsonProc

/-- The texts that are put out of a message, by the paths to their members. -/
def texts (m : Message) : Texts :=
  if m.type = MsgType.Management then
    if m.mngType = TlvType.MANAGEMENT then
      match m.dataGet with
      | .to d => d.shown.map fun e => (["dataField", e.1], e.2)
      | _ => []
    else if m.mngType = TlvType.MANAGEMENT_ERROR_STATUS then [(["displayData"], m.errorDisplay.textField)]
    else []
  else []

/-- The pointer to the data is null, or one to a structure of the id where the id has one. -/
def DataMatches (m : Message) : Prop :=
  match m.dataGet with
  | .null => True
  | .wild => ¬ HasDataField m.tlvId
  | .to d => d.id = m.tlvId

/-- `msg2json` gives JSON in which every text is a string of the text. -/
def ValidJson (m : Message) : Prop := ∃ out v, m.msg2json = some out ∧ Text v out ∧ v.ShowsAll m.texts

theorem dataField_to {m : Message} {d : BaseMngTlv} (hd : m.dataGet = .to d) (hid : d.id = m.tlvId) :
    m.dataField = some (object "dataField" (JsonProc.proc d)) := by
  unfold dataField data2json
  rw [hd, ← hid]
  dsimp only
  rw [if_neg (hasDataField_id d), if_pos rfl]
  rfl

/-- The dataField of a message is a member, or nothing. -/
theorem dataField_eq {m : Message} (h : m.DataMatches) : ∃ f ms, m.dataField = some f ∧ Adds f ms ∧
    (Json.Fields.names ms = [] ∨ Json.Fields.names ms = ["dataField"]) ∧
    ms.texts = match m.dataGet with
      | .to d => d.shown.map fun e => (["dataField", e.1], e.2)
      | _ => [] := by
  unfold DataMatches at h
  rcases hd : m.dataGet with _ | _ | d
  · unfold dataField
    rw [hd]
    exact ⟨_, [], rfl, adds_id, .inl rfl, rfl⟩
  · rw [hd] at h
    unfold dataField data2json
    rw [hd]
    dsimp only at h ⊢
    rw [if_pos (not_not.1 h)]
    exact ⟨_, _, rfl, adds_object "dataField" adds_id (by decide), .inr rfl, rfl⟩
  · rw [hd] at h
    obtain ⟨ms, hf, hn, ht⟩ := putsOut_proc d
    refine ⟨_, _, dataField_to hd h, adds_object "dataField" hf hn, .inr rfl, ?_⟩
    rw [Json.Fields.texts_object, ht, List.map_map]
    rfl

/-- What is put out behind the managementId. -/
theorem mngFields_eq {m : Message} (h : m.DataMatches) (ht : m.type = MsgType.Management) :
    ∃ f ms, m.mngFields = some f ∧ Adds f ms ∧
      (Json.Fields.names ms = [] ∨ Json.Fields.names ms = ["dataField"] ∨
        Json.Fields.names ms = ["managementErrorId", "displayData"]) ∧ ms.texts = m.texts := by
  unfold mngFields texts
  rw [if_pos ht]
  by_cases h1 : m.mngType = TlvType.MANAGEMENT
  · obtain ⟨f, ms, hf, he, hn, hx⟩ := dataField_eq h
    rw [if_pos h1, if_pos h1]
    exact ⟨f, ms, hf, he, hn.imp_right .inl, hx⟩
  · rw [if_neg h1, if_neg h1]
    by_cases h2 : m.mngType = TlvType.MANAGEMENT_ERROR_STATUS
    · have hid := adds_fixed "managementErrorId" (Named.plain errId2str_c m.errorId)
      have htext := adds_text "displayData" m.errorDisplay.textField
      rw [if_pos h2, if_pos h2]
      exact ⟨_, _, rfl, hid.comp htext, .inr (.inr rfl), rfl⟩
    · rw [if_neg h2, if_neg h2]
      exact ⟨_, [], rfl, adds_id, .inl rfl, rfl⟩

/-- The members of a message are those of an object, with the ones behind the managementId. -/
theorem fields_adds {m : Message} {f : Emit} {ms : Json.Fields} (ht : m.type = MsgType.Management)
    (hf : m.mngFields = some f) (he : Adds f ms)
    (hn : Json.Fields.names ms = [] ∨ Json.Fields.names ms = ["dataField"] ∨
      Json.Fields.names ms = ["managementErrorId", "displayData"]) :
    ∃ g ns, m.fields = some g ∧ Adds g ns ∧ AreNames (Json.Fields.names ns) ∧
      Json.Fields.texts ns = Json.Fields.texts ms ∧ ∀ e ∈ ms, e ∈ ns := by
  have hp : Plain (octets "Management") := Ascii.plain (by decide)
  have hm : HasMembers (JsonProc.procString "messageType" (octets "Management")) [("messageType", .fixed _ hp)] :=
    ⟨adds_fixed _ hp⟩
  have hw : HasMembers f ms := ⟨he⟩
  unfold fields
  rw [if_pos ht, if_pos ht, hf]
  refine ⟨_, _, rfl, HasMembers.adds, ?_, ?_, ?_⟩
  · change AreNames (["sequenceId", "sdoId", "domainNumber", "versionPTP", "minorVersionPTP", "messageType",
      "sourcePortIdentity", "actionField", "tlvType", "managementId"] ++ Json.Fields.names (ms ++ []))
    rw [List.append_nil]
    rcases hn with hn | hn | hn
    · rw [hn]
      decide
    · rw [hn]
      decide
    · rw [hn]
      decide
  · change Json.Fields.texts (ms ++ []) = Json.Fields.texts ms
    rw [List.append_nil]
  · intro e he
    simp [he]

/-- A message whose members are put out is a printed object. -/
theorem msg2json_object {m : Message} {f : Emit} {ms : Json.Fields} (hf : m.fields = some f) (he : Adds f ms)
    (hn : AreNames (Json.Fields.names ms)) : m.msg2json = some ((Piece.object ms hn).val 0) := by
  unfold msg2json
  rw [hf]
  change some ((f (JsonProcToJson.new.startObject)).closeObject).result = _
  rw [closeObject_eq he hn]
  rfl

/-- The whole message is a printed object. -/
theorem msg2json_eq {m : Message} (h : m.DataMatches) (ht : m.type = MsgType.Management) :
    ∃ x : Piece, m.msg2json = some (x.val 0) ∧ x.texts = m.texts := by
  obtain ⟨f, ms, hf, he, hn, hx⟩ := mngFields_eq h ht
  obtain ⟨g, ns, hg, hns, hnames, hts, -⟩ := fields_adds ht hf he hn
  exact ⟨.object ns hnames, msg2json_object hg hns hnames, hts.trans hx⟩

theorem validJson_iff {m : Message} (h : m.DataMatches) (ht : m.type = MsgType.Management) :
    m.ValidJson ↔ m.texts.Plain := by
  obtain ⟨x, hm, hx⟩ := msg2json_eq h ht
  rw [← hx, ← x.text_iff, hx]
  constructor
  · rintro ⟨out, v, ho, hv⟩
    rw [hm] at ho
    obtain rfl := Option.some.inj ho
    exact ⟨v, hv⟩
  · rintro ⟨v, hv⟩
    exact ⟨x.val 0, v, hm, hv⟩

/-! ## A message that was parsed -/

theorem dataMatches_of_null {m : Message} (h : m.dataGet = .null) : m.DataMatches := by
  unfold DataMatches
  rw [h]
  trivial

theorem parseData_matches {m : Message} (hm : m.dataGet = .null) (buf : Mem) (left : Int) :
    (m.parseData buf left).msg.DataMatches ∧ (m.parseData buf left).msg.type = m.type := by
  have hv := (Prog.run_parse (callTlvData m.tlvId .wild) (parseCursor buf mngMsgBaseSize left) rfl).1
  unfold parseData
  rcases hr : (callTlvData m.tlvId .wild).run (parseCursor buf mngMsgBaseSize left) with ⟨_ | p, c⟩
  · exact ⟨dataMatches_of_null hm, rfl⟩
  · rw [hr] at hv
    refine ⟨?_, rfl⟩
    change DataMatches { m with dataGet := p, mngType := TlvType.MANAGEMENT }
    by_cases hd : HasDataField m.tlvId
    · obtain ⟨t, ht, hid⟩ := (hasDataField_iff m.tlvId).1 hd
      have hv := hv.trans (read_callTlvData ht .wild _ _)
      obtain ⟨d, hd, rfl⟩ := Option.map_eq_some_iff.1 hv.symm
      exact (procTlv_id hd).trans hid
    · have hv := hv.trans (read_callTlvData_none hd .wild _ _)
      obtain rfl := Option.some.inj hv
      exact hd

theorem parseErrorDisplay_matches {m : Message} (hm : m.dataGet = .null) (buf : Mem) (left : Int) :
    (m.parseErrorDisplay buf left).msg.DataMatches ∧ (m.parseErrorDisplay buf left).msg.type = m.type := by
  have hd : (m.parseErrorDisplay buf left).msg.dataGet = m.dataGet := parseErrorDisplay_dataGet m left
  refine ⟨dataMatches_of_null (hd.trans hm), ?_⟩
  unfold parseErrorDisplay
  rcases m.errorDisplay.proc.run _ with ⟨_ | t, c⟩ <;> rfl

theorem parse_matches {m : Message} (hm : m.dataGet = .null) {buf : Mem} {n : Int}
    (h : Accepted (m.parse buf n).err) :
    (m.parse buf n).msg.DataMatches ∧ (m.parse buf n).msg.type = MsgType.Management := by
  have ht : (m.headed buf).type = MsgType.Management := (mngHeader_of_accepted m h).2.1
  rcases accepted_cases m h with ⟨action, id, hr⟩ | ⟨action, id, hr⟩
  · rw [parse_of_mngReply m hr]
    split
    · exact ⟨dataMatches_of_null hm, ht⟩
    · obtain ⟨hd, hty⟩ := parseData_matches (m := m.replied buf action id) hm buf (lengthOf buf - 2)
      exact ⟨hd, hty.trans ht⟩
  · rw [parse_of_errReply m hr]
    split
    · obtain ⟨hd, hty⟩ := parseErrorDisplay_matches (m := m.failed buf action id) hm buf (lengthOf buf - 8)
      exact ⟨hd, hty.trans ht⟩
    · exact ⟨dataMatches_of_null hm, ht⟩

/-- Of a message that a fresh object accepts, `msg2json` gives JSON that shows every text
exactly where no text has anything to escape. -/
theorem msg2json_valid_iff (prms : MsgParams) (mem : Message) (buf : Mem) (n : Int)
    (h : Accepted ((ofParams prms mem).parse buf n).err) :
    ((ofParams prms mem).parse buf n).msg.ValidJson ↔ ((ofParams prms mem).parse buf n).msg.texts.Plain := by
  obtain ⟨hd, ht⟩ := parse_matches (m := ofParams prms mem) rfl h
  exact validJson_iff hd ht

/-- A reply with a userDescription of one octet. -/
def descriptionReply (c : UInt8) : Mem := mngMessage .RESPONSE [0, 1, 0, 4, 0, 2, 1, c]

theorem msg2json_valid_description : ((new default).parse (descriptionReply 0x41) 56).msg.ValidJson :=
  (msg2json_valid_iff _ default (descriptionReply 0x41) 56 (by decide +kernel)).2 (by decide +kernel)

/-- A control octet of a text is put out as it is. -/
theorem msg2json_not_json : ¬ ∀ (mem : Message) (buf : Mem) (n : Int), Accepted ((new mem).parse buf n).err →
    ∃ out v, ((new mem).parse buf n).msg.msg2json = some out ∧ Text v out := by
  intro h
  obtain ⟨out, v, ho, hv⟩ := h default (descriptionReply 0x01) 56 (by decide +kernel)
  have hc : ∀ out ∈ ((new default).parse (descriptionReply 0x01) 56).msg.msg2json, 0x01 ∈ out := by decide +kernel
  exact hv.noControl 0x01 (hc out ho) (by decide)

end Message

end LibPmc
