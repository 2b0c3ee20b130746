import Chan.Tmux.Message

namespace Chan.Tmux

def esc : UInt8 := 27

def newline : UInt8 := 10

def carriageReturn : UInt8 := 13

def marker : Bytes := esc :: utf8 "P1000p"

structure Limits where
  maxLine : Nat
  maxBlockBytes : Nat
  maxBlockLines : Nat
  deriving DecidableEq

def Limits.default : Limits := ⟨12 * 1024 * 1024, 64 * 1024 * 1024, 200000⟩

structure Block where
  time : Nat
  number : Nat
  solicited : Bool
  ok : Bool
  lines : List Bytes
  deriving DecidableEq

inductive Frame where
  | passthrough (bytes : Bytes)
  | entered
  | line (line : Bytes)
  | block (block : Block)
  | exit (reason : Option Bytes)
  deriving DecidableEq

/-- Where the stream is; after an exit, whether the escape that closes the sequence was read. -/
inductive DecoderState where
  | plain
  | control
  | awaitSt (esc : Bool)
  deriving DecidableEq

structure OpenBlock where
  header : Bytes
  time : Nat
  number : Nat
  solicited : Bool
  rows : Option Nat
  paneState : Bool
  lines : List Bytes
  bytes : Nat
  deriving DecidableEq

structure Decoder where
  limits : Limits
  state : DecoderState
  armed : Bool
  matched : Nat
  line : Bytes
  opened : Option OpenBlock
  expect : List Expect
  paneState : Option PaneState
  poisoned : Bool
  deriving DecidableEq

def parseHeader (rest : Bytes) : Option (Nat × Nat × Nat) :=
  if !isUtf8 rest then none
  else match rest.splitOn space with
    | [time, number, flags] => do
      return (← parseUnsigned 64 time, ← parseUnsigned 64 number, ← parseUnsigned 64 flags)
    | _ => none

def flush (pass : Bytes) (out : List Frame) : List Frame :=
  if pass = [] then out else out ++ [.passthrough pass]

def terminator (header line : Bytes) : Option Bool :=
  match stripPrefix (utf8 "%end ") line with
  | some h => if h = header then some true else none
  | none =>
    match stripPrefix (utf8 "%error ") line with
    | some h => if h = header then some false else none
    | none => none

def withoutReturn (line : Bytes) : Bytes :=
  if line.getLast? = some carriageReturn then line.dropLast else line

namespace Decoder

def new (limits : Limits) : Decoder :=
  ⟨limits, .plain, false, 0, [], none, [], none, false⟩

def inControl (limits : Limits) : Decoder := { new limits with state := .control }

def arm (armed : Bool) (d : Decoder) : Decoder :=
  { d with armed := armed, matched := if armed then d.matched else 0 }

def inControlMode (d : Decoder) : Bool := d.state ≠ .plain

def expectNext (expect : Expect) (d : Decoder) : Decoder :=
  { d with expect := d.expect ++ [expect] }

/-- A byte outside control mode. It passes, and may complete the marker. -/
def plainByte (b : UInt8) (pass : Bytes) (out : List Frame) (d : Decoder) :
    Decoder × Bytes × List Frame :=
  let pass := pass ++ [b]
  if d.armed ∧ some b = marker[d.matched]? then
    if d.matched + 1 = marker.length then
      ({ d with matched := 0, state := .control, line := [], opened := none, paneState := none },
        [], flush pass out ++ [.entered])
    else ({ d with matched := d.matched + 1 }, pass, out)
  else ({ d with matched := if d.armed ∧ some b = marker[0]? then 1 else 0 }, pass, out)

def pushLineBytes (bytes : Bytes) (d : Decoder) : Except Error Decoder :=
  if d.line.length + bytes.length > d.limits.maxLine + 1 then .error .lineTooLong
  else .ok { d with line := d.line ++ bytes }

def blockLine (line : Bytes) (o : OpenBlock) (d : Decoder) :
    Decoder × Except Error (Option Frame) :=
  match (terminator o.header line).filter fun _ => o.rows.all (· = o.lines.length) with
  | some ok =>
    let d := { d with opened := none }
    let block := Frame.block ⟨o.time, o.number, o.solicited, ok, o.lines⟩
    if o.paneState then
      if ok then
        match parsePaneState o.lines with
        | .ok state => ({ d with paneState := some state }, .ok (some block))
        | .error e => (d, .error e)
      else ({ d with paneState := none }, .ok (some block))
    else (d, .ok (some block))
  | none =>
    if o.rows.any (· ≤ o.lines.length) then (d, .error .replyShape)
    else
      let o := { o with bytes := o.bytes + line.length + 1 }
      if o.bytes > d.limits.maxBlockBytes ∨ d.limits.maxBlockLines ≤ o.lines.length then
        ({ d with opened := some o }, .error .blockTooLarge)
      else ({ d with opened := some { o with lines := o.lines ++ [line] } }, .ok none)

def openBlock (rest : Bytes) (time number : Nat) (solicited : Bool) (expect : Expect)
    (d : Decoder) :
    Decoder × Except Error (Option Frame) :=
  -- A pane state sizes only the capture right after it.
  let paneState := d.paneState
  let d := { d with paneState := none }
  let opened (rows : Option Nat) (recordsState : Bool) :=
    ({ d with opened := some ⟨rest, time, number, solicited, rows, recordsState, [], 0⟩ },
      Except.ok none)
  match expect with
  | .any => opened none false
  | .rows n => opened (some n) false
  | .paneState => opened none true
  | .capture historyRows =>
    match paneState with
    | some state => opened (some (min historyRows state.historySize + state.height)) false
    | none => (d, .error .noPaneState)

def beginLine (rest : Bytes) (d : Decoder) : Decoder × Except Error (Option Frame) :=
  match parseHeader rest with
  | none => (d, .error (.malformed "begin"))
  | some (time, number, flags) =>
    if flags % 2 = 1 then
      match d.expect with
      | [] => (d, .error .unexpectedReply)
      | expect :: queue => { d with expect := queue }.openBlock rest time number true expect
    else d.openBlock rest time number false .any

def handleLine (line : Bytes) (d : Decoder) : Decoder × Except Error (Option Frame) :=
  if d.limits.maxLine < line.length then (d, .error .lineTooLong)
  else match d.opened with
    | some o => d.blockLine line o
    | none =>
      match stripPrefix (utf8 "%begin ") line with
      | some rest => d.beginLine rest
      | none =>
        if line = utf8 "%exit" ∨ (utf8 "%exit ").isPrefixOf line then
          ({ d with state := .awaitSt false, expect := [], paneState := none },
            .ok (some (.exit ((some (line.drop 6)).filter (· ≠ [])))))
        else (d, .ok (some (.line line)))

def finishLine (d : Decoder) : Decoder × Except Error (Option Frame) :=
  { d with line := [] }.handleLine (withoutReturn d.line)

def feedInner (d : Decoder) (pass : Bytes) (out : List Frame) (input : Bytes) :
    Decoder × List Frame × Except Error Unit :=
  match input with
  | [] => (d, flush pass out, .ok ())
  | b :: rest =>
    match d.state with
    | .plain =>
      if !d.armed ∧ d.matched = 0 then (d, flush (pass ++ b :: rest) out, .ok ())
      else
        -- Only the marker's first byte can start a match.
        let skipped := if d.matched = 0 then (b :: rest).takeWhile (· ≠ esc) else []
        match _hdrop : (b :: rest).drop skipped.length with
        | [] => (d, flush (pass ++ skipped) out, .ok ())
        | c :: tail =>
          let (d, pass, out) := d.plainByte c (pass ++ skipped) out
          feedInner d pass out tail
    | .control =>
      let bytes := (b :: rest).takeWhile (· ≠ newline)
      match d.pushLineBytes bytes with
      | .error e => (d, out, .error e)
      | .ok d =>
        match _hdrop : (b :: rest).drop bytes.length with
        | [] => (d, flush pass out, .ok ())
        | _ :: tail =>
          match d.finishLine with
          | (d, .error e) => (d, out, .error e)
          | (d, .ok frame) => feedInner d pass (out ++ frame.toList) tail
    | .awaitSt escaped =>
      if !escaped ∧ b = esc then feedInner { d with state := .awaitSt true } pass out rest
      else if escaped ∧ b = backslash then feedInner { d with state := .plain } pass out rest
      else
        -- Not the closing sequence: the stream is plain again.
        let d := { d with state := .plain }
        let (d, pass, out) := if escaped then d.plainByte esc pass out else (d, pass, out)
        let (d, pass, out) := d.plainByte b pass out
        feedInner d pass out rest
termination_by input.length
decreasing_by
  · have hlength := congrArg List.length _hdrop
    simp only [List.length_drop, List.length_cons] at hlength ⊢
    omega
  · have hlength := congrArg List.length _hdrop
    simp only [List.length_drop, List.length_cons] at hlength ⊢
    omega
  all_goals exact Nat.lt_succ_self _

def feed (input : Bytes) (d : Decoder) : Decoder × List Frame × Except Error Unit :=
  if d.poisoned then (d, [], .error .poisoned)
  else
    let (d, out, result) := d.feedInner [] [] input
    ({ d with poisoned := result.toOption.isNone }, out, result)

end Decoder

end Chan.Tmux
