import LibPmc.Command
import LibPmc.Dump
import LibPmc.FindId
import LibPmc.Machine.Run
import LibPmc.Planned
import LibPmc.SigFields
/-!
# The pmc tool

`run_line`, `sendAction`, `rcv` and the loops of `main` of `pmc.cpp`, on the static variables of
the file. Of the socket, the steps are told whether it takes a datagram, and what it receives.
-/
namespace LibPmc

open Cstr Wire

/-! ## What is printed -/

def err2str_c : MngParseError → String
  | .OK => "MNG_PARSE_ERROR_OK"
  | .MSG => "MNG_PARSE_ERROR_MSG"
  | .INVALID_ID => "MNG_PARSE_ERROR_INVALID_ID"
  | .INVALID_TLV => "MNG_PARSE_ERROR_INVALID_TLV"
  | .SIZE_MISS => "MNG_PARSE_ERROR_SIZE_MISS"
  | .TOO_SMALL => "MNG_PARSE_ERROR_TOO_SMALL"
  | .SIZE => "MNG_PARSE_ERROR_SIZE"
  | .VAL => "MNG_PARSE_ERROR_VAL"
  | .HEADER => "MNG_PARSE_ERROR_HEADER"
  | .ACTION => "MNG_PARSE_ERROR_ACTION"
  | .UNSUPPORT => "MNG_PARSE_ERROR_UNSUPPORT"
  | .MEM => "MNG_PARSE_ERROR_MEM"
  | .SIG => "unknown"

/-- `%u` of the sequence, behind the peer. -/
def dump_peer (m : Message) : List UInt8 := octets "\t" ++ m.peer.string ++ octets " seq " ++ decimal m.sequence.toNat

def dump_head (m : Message) (action : ActionField) : List UInt8 :=
  dump_peer m ++ octets " " ++ octets (act2str_c action) ++ octets " MANAGEMENT " ++
    octets (mng2str_c m.tlvId) ++ octets " "

def dump_sig (m : Message) : List UInt8 := dump_peer m ++ octets " SIGNALING\n"

def dump_err (m : Message) : List UInt8 :=
  dump_peer m ++ octets " " ++ octets (act2str_c m.replyAction) ++ octets " MANAGEMENT_ERROR_STATUS " ++
    octets (mng2str_c m.tlvId) ++ octets "\n\tERROR: " ++ octets (errId2str_c m.errorId) ++ octets "(" ++
    decimal m.errorId.toNat ++ octets ")\n\tERROR DISPLAY: " ++ m.errorDisplay.string ++ octets "\n\n"

/-- `call_dump` with the null pointer for its data. There is nothing to print for an id without a
function or without a structure. What `m_dataGet` points to is cast to the structure of the id. -/
def call_dump (libc : Inet) (m : Message) : Option (List UInt8) :=
  if newTlv m.tlvId = none then some (octets "\n")
  else
    match m.dataGet with
    | .null => some (octets "\n")
    | .to d => if d.id = m.tlvId then some (dump libc d ++ octets "\n") else none
    | .wild => none

/-- `call_dumpSig`, which casts the pointer it gets and does not look whether it is null. -/
def call_dumpSig (tlvType : UInt16) (tlv : Option BaseSigTlv) : Option (List UInt8) :=
  if tlvType = TlvType.SLAVE_RX_SYNC_TIMING_DATA then
    match tlv with
    | some (.SLAVE_RX_SYNC_TIMING_DATA d) =>
      some (octets "SLAVE_RX_SYNC_TIMING_DATA N " ++ decimal d.list.length ++ octets " " ++
        field "syncSourcePortIdentity     " d.syncSourcePortIdentity.string ++
        d.list.flatMap (fun rec =>
          field "sequenceId                 " (decimal rec.sequenceId.toNat) ++
          field "syncOriginTimestamp        " rec.syncOriginTimestamp.string ++
          field "totalCorrectionField       " (signed rec.totalCorrectionField.getIntervalInt) ++
          field "scaledCumulativeRateOffset " (decimal rec.scaledCumulativeRateOffset.toUInt32.toNat) ++
          field "syncEventIngressTimestamp  " rec.syncEventIngressTimestamp.string) ++ octets "\n")
    | _ => none
  else if tlvType = TlvType.SLAVE_DELAY_TIMING_DATA_NP then
    match tlv with
    | some (.SLAVE_DELAY_TIMING_DATA_NP d) =>
      some (octets "SLAVE_DELAY_TIMING_DATA_NP N " ++ decimal d.list.length ++ octets " " ++
        field "sourcePortIdentity         " d.sourcePortIdentity.string ++
        d.list.flatMap (fun rec =>
          field "sequenceId                 " (decimal rec.sequenceId.toNat) ++
          field "delayOriginTimestamp       " rec.delayOriginTimestamp.string ++
          field "totalCorrectionField       " (signed rec.totalCorrectionField.getIntervalInt) ++
          field "delayResponseTimestamp     " rec.delayResponseTimestamp.string) ++ octets "\n")
    | _ => none
  else some []

/-- The traversal with it. The state of the callback is what is printed. -/
def dumpSigs (m : Message) : Option (List UInt8) :=
  (m.traversSigTlvs (fun _ tlvType tlv out => (false, do return (← out) ++ (← call_dumpSig tlvType tlv))) (some [])).2.1

/-! ## The tool -/

/-- The pointer of an id without functions, which was never set. -/
def TlvPtr.isWild : TlvPtr → Bool
  | .wild => true
  | _ => false

/-- What the tool does to the outside. -/
inductive Out where
  | datagram (l : List UInt8)
  | stdout (l : List UInt8)
  | stderr (l : List UInt8)
  deriving DecidableEq

/-- The static variables. `seq` is the one of `sendAction`. -/
structure Pmc where
  msg : Message
  buf : Mem
  seq : Nat
  use_uds : Bool

/-- The structures that `new` gives, with what their memory holds. -/
structure Heap where
  mem : MngVals → BaseMngTlv
  typed : ∀ id, newTlv id ≠ none → (mem id).id = id

/-- `call_data` for an id. -/
def Heap.call_data (heap : Heap) (id : MngVals) (line : Buf) (save : Nat) : Keyed BaseMngTlv :=
  if newTlv id = none then throw .error else LibPmc.call_data (heap.mem id) line save

def Message.setAllClocks (m : Message) : Message := { m with prms := { m.prms with target := ⟨allClocks, allPorts⟩ } }

def Message.isEmpty (id : MngVals) : Bool := (mngAllVals id).size = 0

namespace Pmc

def bufSize : Nat := 2000

/-- A request is built and sent. `sends` is whether the socket takes it. -/
def sendAction (s : Pmc) (sends : Bool) : Option (Bool × Pmc × List Out) := do
  let b ← s.msg.build s.buf bufSize (UInt16.ofNat s.seq)
  let s := { s with msg := b.msg, buf := b.mem }
  if b.err ≠ .OK then return (false, s, [.stdout (octets "build error " ++ octets (err2str_c b.err) ++ octets "\n")])
  else if ¬ sends then return (false, s, [])
  else return (true, { s with seq := s.seq + 1 }, [.datagram (b.mem.slice 0 b.msg.msgLen)])

/-- The action of a command. -/
def action? (cur : List UInt8) : Option ActionField :=
  if caseEq cur (octets "get") then some .GET
  else if caseEq cur (octets "set") then some .SET
  else if caseEq cur (octets "cmd") || caseEq cur (octets "command") then some .COMMAND
  else none

/-- The argument of `target`. What is printed of a wrong one ends at the dash. -/
def target (s : Pmc) (cur : List UInt8) : Option (Pmc × List Out) :=
  if cur.head? = some 42 then some ({ s with msg := s.msg.setAllClocks }, [])
  else do
    let (ok, prms) ← updatePortIdentity s.msg.prms cur
    if ok then return ({ s with msg := (s.msg.updateParams prms).2 }, [])
    else return (s, [.stderr (octets "Wrong clock ID: " ++ cur.takeWhile (· ≠ 45) ++ octets "\n")])

/-- The message is set to the action, with the structure that the rest of the line gives. -/
def setCommand (m : Message) (action : ActionField) (id : MngVals) (heap : Heap) (line : Buf) (save : Nat) :
    Option (Bool × Message) :=
  if action = .GET ∨ Message.isEmpty id then some (m.setAction action id)
  else
    match heap.call_data id line save with
    | .error .fault => none
    | .error .error => some (false, m)
    | .ok data => some (m.setActionData action id data)

/-- A command once its action and its id are known. -/
def command (s : Pmc) (action : ActionField) (id : MngVals) (heap : Heap) (sends : Bool) (line : Buf) (save : Nat) :
    Option (Bool × Pmc × List Out) := do
  let (ok, msg) ← setCommand s.msg action id heap line save
  if ¬ ok then return (false, { s with msg }, [])
  else
    let (ok, s, out) ← { s with msg }.sendAction sends
    if ¬ ok then return (false, s, out)
    else return (true, s, out ++ [.stdout (octets "sending: " ++ octets (act2str_c s.msg.sendAction) ++ octets " " ++
      octets (mng2str_c id) ++ octets "\n")])

/-- `none` where it reads behind the memory. -/
def run_line (s : Pmc) (heap : Heap) (sends : Bool) (line : Buf) : Option (Bool × Pmc × List Out) := do
  let (cur, line, save) ← strtok_r toksep line 0
  match cur with
  | none => return (false, s, [])
  | some cur =>
    let cur ← line.str cur
    match action? cur with
    | some action =>
      let (cur, line, save) ← strtok_r toksep line save
      match cur with
      | none => return (false, s, [])
      | some cur =>
        -- the id of a found one does not depend on what the variable held before
        let (found, id, str) := findId .NULL_PTP_MANAGEMENT (← line.str cur)
        if ¬ found then return (false, s, [])
        else s.command action id heap sends (line.put cur str) save
    | none =>
      if ¬ caseEq cur (octets "target") then return (false, s, [])
      else
        let (cur, line, _) ← strtok_r toksep line save
        match cur with
        | none => return (false, s, [])
        | some cur =>
          let (s, out) ← s.target (← line.str cur)
          return (false, s, out)

/-- The rest of `rcv`, with `cnt` octets in the buffer. A structure that is stored comes in place of
the one before it, which is deleted. -/
def afterRcv (libc : Inet) (s : Pmc) (cnt : Int) (buf : Mem) : Option (Int × Pmc × List Out) :=
  let p := s.msg.parse buf cnt
  if p.err = .OK ∧ p.trace.stored ≠ [] ∧ s.msg.dataGet.isWild then none
  else
    let s := { s with msg := p.msg, buf }
    match p.err with
    | .MSG => some (-1, s, [.stdout (dump_err s.msg)])
    | .OK => do return (0, s, [.stdout (dump_head s.msg s.msg.replyAction), .stdout (← call_dump libc s.msg)])
    | .SIG => do return (1, s, [.stdout (dump_sig s.msg), .stdout (← dumpSigs s.msg)])
    | err =>
      if (err = .ACTION ∨ err = .HEADER) ∧ ¬ s.use_uds then some (1, s, [])
      else some (-1, s, [.stdout (octets "Parse error " ++ octets (err2str_c err) ++ octets "\n")])

/-- A datagram is received, cut to the buffer, or none. -/
def rcv (libc : Inet) (s : Pmc) (datagram : Option (List UInt8)) : Option (Int × Pmc × List Out) :=
  match datagram with
  | none => some (-1, s, [])
  | some l => s.afterRcv libc (l.take bufSize).length (s.buf.store 0 (l.take bufSize))

/-- `rcv_timeout`, over what is received in time, and the time that is left of it. -/
def rcv_timeout (libc : Inet) (s : Pmc) : List (Option (List UInt8) × Nat) → Option (Pmc × List Out)
  | [] => some (s, [])
  | (datagram, left) :: rest => do
    let (r, s, out) ← s.rcv libc datagram
    if r = 1 ∧ left > 0 then
      let (s, out') ← s.rcv_timeout libc rest
      return (s, out ++ out')
    else return (s, out)

/-! ## The loops of `main` -/

/-- A line to run, with what the heap and the socket do meanwhile. -/
structure CommandLine where
  heap : Heap
  sends : Bool
  line : Buf

/-- All the commands, and how many were sent. -/
def commands (s : Pmc) : List CommandLine → Option (Nat × Pmc × List Out)
  | [] => some (0, s, [])
  | c :: cs => do
    let (sent, s, out) ← s.run_line c.heap c.sends c.line
    let (pkts, s, out') ← s.commands cs
    return (if sent then pkts + 1 else pkts, s, out ++ out')

/-- What is received for each of them. -/
def receives (libc : Inet) (s : Pmc) : Nat → List (List (Option (List UInt8) × Nat)) → Option (Pmc × List Out)
  | 0, _ => some (s, [])
  | pkts + 1, rcvs => do
    let (s, out) ← s.rcv_timeout libc (rcvs.headD [])
    let (s, out') ← s.receives libc pkts rcvs.tail
    return (s, out ++ out')

/-- Batch mode: first all the commands are sent, then all is received. -/
def batch (libc : Inet) (s : Pmc) (cs : List CommandLine) (rcvs : List (List (Option (List UInt8) × Nat))) :
    Option (Pmc × List Out) := do
  let (pkts, s, out) ← s.commands cs
  let (s, out') ← s.receives libc pkts rcvs
  return (s, out ++ out')

/-- With the server of the machine, what is received comes after each command that was sent. -/
def uds (libc : Inet) (s : Pmc) : List (CommandLine × List (Option (List UInt8) × Nat)) → Option (Pmc × List Out)
  | [] => some (s, [])
  | (c, rcvs) :: cs => do
    let (sent, s, out) ← s.run_line c.heap c.sends c.line
    let (s, out') ← (if sent then s.rcv_timeout libc rcvs else some (s, []))
    let (s, out'') ← s.uds libc cs
    return (s, out ++ out' ++ out'')

/-- What `poll` reports: a line that is typed, or the socket. -/
inductive Event where
  | line (c : CommandLine)
  | packet (datagram : Option (List UInt8))

def Event.isLine : Event → Bool
  | .line _ => true
  | .packet _ => false

def step (libc : Inet) (s : Pmc) : Event → Option (Pmc × List Out)
  | .line c => do
    let (_, s, out) ← s.run_line c.heap c.sends c.line
    return (s, out)
  | .packet datagram => do
    let (_, s, out) ← s.rcv libc datagram
    return (s, out)

/-- The loop on a network, with what it does at each event. There is no run where a step is
undefined. -/
def run (libc : Inet) (s : Pmc) (es : List Event) : Option (Pmc × List (Event × List Out)) :=
  Machine.run (step libc) s es

end Pmc

end LibPmc
