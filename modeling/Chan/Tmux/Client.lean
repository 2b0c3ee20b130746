import Chan.Tmux.Decode

namespace Chan.Tmux

abbrev Token := Nat

inductive Event where
  | passthrough (bytes : Bytes)
  | entered
  | message (message : Message)
  | reply (token : Token) (result : Except (List Bytes) (List Bytes))
  | capture (token : Token) (state : PaneState) (rows : List Bytes)
  | unsolicited (ok : Bool) (lines : List Bytes)
  | stray (line : Bytes)
  | exited (reason : Option Bytes) (dropped : List Token)
  deriving DecidableEq

inductive Part where
  | whole
  | captureState
  | captureRows
  deriving DecidableEq

def Expect.part : Expect → Part
  | .paneState => .captureState
  | .capture _ => .captureRows
  | .any | .rows _ => .whole

def Block.result (b : Block) : Except (List Bytes) (List Bytes) :=
  if b.ok then .ok b.lines else .error b.lines

structure Client where
  decoder : Decoder
  pending : List (Token × Part)
  capture : Option (Token × PaneState)
  next : Nat
  ready : Bool
  failed : Bool
  deriving DecidableEq

namespace Client

def maxPending : Nat := 256

def withDecoder (decoder : Decoder) : Client := ⟨decoder, [], none, 0, false, false⟩

def new (limits : Limits) : Client := withDecoder (.new limits)

def inControl (limits : Limits) : Client := withDecoder (.inControl limits)

def arm (armed : Bool) (c : Client) : Client := { c with decoder := c.decoder.arm armed }

def exceedsBound (limits : Limits) : Command → Bool
  | .capturePane _ historyRows => historyRows + Command.maxSize > limits.maxBlockLines
  | _ => false

def enqueue (command : Command) (c : Client) : Client :=
  { c with
    next := c.next + 1
    pending := c.pending ++ command.expects.map fun e => (c.next, e.part)
    decoder := command.expects.foldl (fun d e => d.expectNext e) c.decoder }

def submit (command : Command) (c : Client) : Client × Except Error (Token × Bytes) :=
  if c.failed then (c, .error .poisoned)
  else if !c.decoder.inControlMode ∨ !c.ready then (c, .error .notReady)
  else if c.pending.length + command.expects.length > maxPending then (c, .error .tooManyPending)
  else if exceedsBound c.decoder.limits command then
    (c, .error (.badArgument "capture exceeds the block bound"))
  else match command.render with
    | .error e => (c, .error e)
    | .ok line => (c.enqueue command, .ok (c.next, utf8 line ++ [newline]))

def fail (c : Client) : Client := { c with failed := true }

def droppedTokens (pending : List (Token × Part)) : List Token :=
  pending.foldl (fun dropped entry =>
    if dropped.getLast? = some entry.1 then dropped else dropped ++ [entry.1]) []

def answer (block : Block) (c : Client) : Client × Except Error (Option Event) :=
  match c.pending with
  | [] => (c, .error .unexpectedReply)
  | (token, part) :: pending =>
    let c := { c with pending := pending }
    match part, block.result with
    | .whole, result => (c, .ok (some (.reply token result)))
    | .captureState, .ok lines =>
      match parsePaneState lines with
      | .ok state => ({ c with capture := some (token, state) }, .ok none)
      | .error e => (c, .error e)
    | .captureRows, .ok rows =>
      let held := c.capture
      let c := { c with capture := none }
      match held with
      | some (t, state) =>
        if t = token then (c, .ok (some (.capture token state rows)))
        else (c, .error .noPaneState)
      | none => (c, .error .noPaneState)
    -- A failed half fails the capture.
    | _, .error lines => ({ c with capture := none }, .ok (some (.reply token (.error lines))))

def event (frame : Frame) (c : Client) : Client × Except Error (Option Event) :=
  match frame with
  | .passthrough bytes => (c, .ok (some (.passthrough bytes)))
  | .entered => ({ c with ready := false, pending := [], capture := none }, .ok (some .entered))
  | .line line =>
    match parseMessage line with
    | .ok message =>
      let ready := match message with
        | .sessionChanged .. => true
        | _ => c.ready
      ({ c with ready := ready }, .ok (some (.message message)))
    | .error e =>
      if line.head? ≠ some 37 then (c, .ok (some (.stray line))) else (c, .error e)
  | .block block =>
    if !block.solicited then (c, .ok (some (.unsolicited block.ok block.lines)))
    else c.answer block
  | .exit reason =>
    ({ c with ready := false, capture := none, pending := [] },
      .ok (some (.exited reason (droppedTokens c.pending))))

def events : List Frame → Client → Client × Except Error (List Event)
  | [], c => (c, .ok [])
  | frame :: frames, c =>
    match c.event frame with
    | (c, .error e) => (c, .error e)
    | (c, .ok event) =>
      match c.events frames with
      | (c, .error e) => (c, .error e)
      | (c, .ok rest) => (c, .ok (event.toList ++ rest))

/-- Decode bytes read from tmux. Any error ends the client, and the events before it are dropped
with it. -/
def feed (input : Bytes) (c : Client) : Client × Except Error (List Event) :=
  if c.failed then (c, .error .poisoned)
  else
    let (decoder, frames, decoded) := c.decoder.feed input
    match { c with decoder := decoder }.events frames with
    | (c, .error e) => ({ c with failed := true }, .error e)
    | (c, .ok events) =>
      match decoded with
      | .error e => ({ c with failed := true }, .error e)
      | .ok () => (c, .ok events)

end Client

end Chan.Tmux
