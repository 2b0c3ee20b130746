import Chan.Tmux.Client

namespace Chan.Tmux

def questionTimeout : Nat := 60000

def probeTimeout : Nat := 5000

def drainTimeout : Nat := 2000

def heldBytesMax : Nat := 2 ^ 20

def versionFloor : Version := ⟨3, 2⟩

/-- What runs in the foreground as the marker arrives. -/
structure Foreground where
  name : Option String
  command : Option String
  deriving DecidableEq

structure Question where
  program : String
  command : Option String
  timeoutSecs : Nat
  deriving DecidableEq

structure Snapshot where
  revision : Nat
  question : Option Question
  deriving DecidableEq

structure Origin where
  program : String
  command : Option String
  isLocal : Bool
  deriving DecidableEq

def Origin.controlTitle (o : Origin) : String :=
  if o.isLocal then "tmux -CC on this machine"
  else "tmux -CC from " ++ o.command.getD o.program

def Origin.question (o : Origin) : Question := ⟨o.program, o.command, questionTimeout / 1000⟩

inductive Answer where
  | allow
  | allowForTab
  | deny
  deriving DecidableEq

inductive Request where
  | openWindow (window : String)
  | newWindow
  | split (pane : String) (horizontal : Bool)
  | focus (pane : String)
  | windowSize (pane : String) (cols rows : Nat)
  | resizePane (pane : String) (axis : ResizeAxis) (cells : Nat)
  | detach
  | endServer

inductive TerminalExit where
  | unknown
  | code (code : Nat)

inductive ConnectionStep (W P : Type) where
  | submit (command : Command) (purpose : P)
  | act (work : W)

/-- What the gate uses of a connection: how one is made, what it wants at each turn, and what it is
told. Its steps carry no action but work. -/
structure Links where
  Conn : Type
  Work : Type
  Purpose : Type
  WorkDone : Type
  PtyCommand : Type
  fire : Purpose
  new : Nat → Version → Origin → Nat → Option (SessionId × Bytes) → Conn
  start : Conn → Conn × List (ConnectionStep Work Purpose)
  eventSteps : Event → Conn → Conn × List (ConnectionStep Work Purpose)
  onWorkDone : WorkDone → Conn → Conn × List (ConnectionStep Work Purpose)
  onPaneCommand : PaneId → PtyCommand → Conn → Conn × List (ConnectionStep Work Purpose)
  openWindow : WindowId → Conn → Conn × List (ConnectionStep Work Purpose)
  requestNewWindow : Conn → Conn × List (ConnectionStep Work Purpose)
  requestSplit : PaneId → Bool → Conn → Conn × List (ConnectionStep Work Purpose)
  requestFocus : PaneId → Conn → Conn × List (ConnectionStep Work Purpose)
  requestWindowSize : PaneId → Nat → Nat → Conn → Conn × List (ConnectionStep Work Purpose)
  requestResizePane : PaneId → ResizeAxis → Nat → Conn → Conn × List (ConnectionStep Work Purpose)
  onEnd : TerminalExit → Conn → Conn × List (ConnectionStep Work Purpose)
  submitted : Token → Purpose → Conn → Conn
  backlog : PaneId → Bytes → Conn → Conn
  takeDirty : Conn → Conn × Bool
  status : Conn → Work
  ended : Work
  startGateway : Nat → Work

inductive Action (W : Type) where
  | write (bytes : Bytes)
  | notice (text : Bytes)
  | work (work : W)
  | controlWindow (title : String)
  deriving DecidableEq

variable {K : Links}

inductive Phase (K : Links) where
  | plain
  | asking (deadline : Nat) (held : List Event) (heldBytes : Nat) (origin : Origin)
  | probing (deadline : Nat) (probe : Option Token) (session : Option (SessionId × Bytes))
      (origin : Origin)
  | connected (version : Version) (connection : K.Conn)
  | draining (deadline : Nat)

/-- Whether the marker is honored, and the programs that enter without a question. -/
structure Policy where
  enabled : Bool
  trust : List String
  deriving DecidableEq

structure Gate (K : Links) where
  client : Client
  policy : Policy
  scrollbackMb : Nat
  phase : Phase K
  allowForTab : Bool
  published : Snapshot
  revision : Nat
  /-- The number of the next connection, which the process counts. -/
  nextConnection : Nat

abbrev Acts (K : Links) := Gate K × List (Action K.Work)

def Acts.andThen (t : Acts K) (f : Gate K → Acts K) : Acts K := ((f t.1).1, t.2 ++ (f t.1).2)

def programWord (name : String) : String :=
  String.ofList (name.toList.takeWhile fun c => c ≠ ':' ∧ c ≠ ' ')

/-- Submit a connection's commands and collect its actions. A full queue keeps typed keys and drops
anything else, and so does an argument that is refused. -/
def drive : List (ConnectionStep K.Work K.Purpose) → Client → K.Conn →
    Client × K.Conn × List (Action K.Work) × Except Error Unit
  | [], client, connection => (client, connection, [], .ok ())
  | .act work :: steps, client, connection =>
    let (client, connection, actions, result) := drive steps client connection
    (client, connection, .work work :: actions, result)
  | .submit command purpose :: steps, client, connection =>
    match client.submit command with
    | (client, .ok (token, bytes)) =>
      let (client, connection, actions, result) :=
        drive steps client (K.submitted token purpose connection)
      (client, connection, .write bytes :: actions, result)
    | (client, .error .tooManyPending) =>
      match command with
      | .sendKeys pane bytes => drive steps client (K.backlog pane bytes connection)
      | _ => drive steps client connection
    | (client, .error (.badArgument _)) => drive steps client connection
    | (client, .error e) => (client, connection, [], .error e)

def reportedVersion (result : Except (List Bytes) (List Bytes)) : Option Version := do
  let rows ← result.toOption
  let row ← rows.head?
  if isUtf8 row then Version.parse row else none

def versionText (v : Version) : String := toString v.major ++ "." ++ toString v.minor

namespace Gate

def new (policy : Policy) (scrollbackMb nextConnection : Nat) : Gate K :=
  ⟨(Client.new .default).arm policy.enabled, policy, scrollbackMb, .plain, false, ⟨0, none⟩, 0,
    nextConnection⟩

def setPolicy (policy : Policy) (g : Gate K) : Gate K :=
  { g with client := g.client.arm policy.enabled, policy := policy }

def acceptsInput (g : Gate K) : Bool :=
  match g.phase with
  | .plain => true
  | _ => false

def publish (question : Option Question) (g : Gate K) : Gate K :=
  { g with revision := g.revision + 1, published := ⟨g.revision + 1, question⟩ }

def reset (g : Gate K) : Gate K :=
  { g with client := (Client.new .default).arm g.policy.enabled, phase := .plain }

def endActions (steps : List (ConnectionStep K.Work K.Purpose)) : List (Action K.Work) :=
  steps.filterMap fun
    | .act work => some (.work work)
    | .submit _ _ => none

def endConnection (exit : TerminalExit) (g : Gate K) : Acts K :=
  match g.phase with
  | .connected version connection =>
    let (connection, steps) := K.onEnd exit connection
    ({ g with phase := .connected version connection }, endActions steps ++ [.work K.ended])
  | _ => (g, [])

def endControl (notice : String) (now : Nat) (g : Gate K) : Acts K :=
  (g.endConnection .unknown).andThen fun g =>
    let (client, result) := g.client.submit .detach
    let write := match result with
      | .ok (_, detach) => [.write detach]
      | .error _ => []
    ({ g with client := client, phase := .draining (now + drainTimeout) },
      write ++ [.notice (utf8 notice)])

def endStream (notice : String) (g : Gate K) : Acts K :=
  (g.endConnection .unknown).andThen fun g => (g.reset, [.notice (utf8 notice)])

def deny (why : String) (now : Nat) (g : Gate K) : Acts K :=
  ({ g.publish none with phase := .draining (now + drainTimeout) },
    [.write [newline], .notice (utf8 ("tmux control mode " ++ why))])

def exited (what : String) (reason : Option Bytes) (g : Gate K) : Acts K :=
  let notice := match reason with
    | some reason => utf8 (what ++ " control mode ended: ") ++ reason
    | none => utf8 (what ++ " control mode ended")
  ({ g with phase := .plain }, [.notice notice])

def controlExited (g : Gate K) : Acts K :=
  (g.endConnection .unknown).andThen fun g =>
    match g.phase with
    | .plain => (g, [])
    | _ => (g.reset, [])

def publishStatusIfDirty (g : Gate K) : Acts K :=
  match g.phase with
  | .connected version connection =>
    let (connection, dirty) := K.takeDirty connection
    ({ g with phase := .connected version connection },
      if dirty then [.work (K.status connection)] else [])
  | _ => (g, [])

def trusts (foreground : Foreground) (g : Gate K) : Bool :=
  match foreground.name.map programWord with
  | some word => word = "tmux" || g.policy.trust.contains word
  | none => false

def originOf (foreground : Foreground) : Origin :=
  ⟨foreground.name.getD "unknown", foreground.command,
    foreground.name.map programWord = some "tmux"⟩

def entered (foreground : Foreground) (now : Nat) (g : Gate K) : Gate K :=
  let origin := originOf foreground
  if g.trusts foreground || g.allowForTab then
    { g with phase := .probing (now + probeTimeout) none none origin }
  else
    { g with phase := .asking (now + questionTimeout) [] 0 origin }.publish (some origin.question)

def submitProbe (g : Gate K) : Acts K × Except Error Token :=
  match g.client.submit .interrupt with
  | (client, .error e) => (({ g with client := client }, []), .error e)
  | (client, .ok (_, interrupt)) =>
    match client.submit .version with
    | (client, .error e) => (({ g with client := client }, [.write interrupt]), .error e)
    | (client, .ok (token, probe)) =>
      (({ g with client := client }, [.write interrupt, .write probe]), .ok token)

def connect (version : Version) (origin : Origin) (announced : Option (SessionId × Bytes))
    (now : Nat)
    (g : Gate K) : Acts K :=
  let id := g.nextConnection
  let connection := K.new id version origin g.scrollbackMb announced
  let (connection, steps) := K.start connection
  let (client, connection, actions, result) := drive steps g.client connection
  let actions := [.notice (utf8 ("tmux " ++ versionText version ++ " control mode")),
    .work (K.startGateway id), .controlWindow origin.controlTitle] ++ actions
  let g := { g with client := client, nextConnection := id + 1 }
  match result with
  | .error e => Acts.andThen (g, actions)
      (endControl ("tmux control mode ended: " ++ e.display) now)
  | .ok () => Acts.andThen ({ g with phase := .connected version connection }, actions)
      publishStatusIfDirty

def probed (result : Except (List Bytes) (List Bytes)) (origin : Origin)
    (announced : Option (SessionId × Bytes)) (now : Nat) (g : Gate K) : Acts K :=
  match reportedVersion result with
  | some version =>
    if versionFloor.le version then g.connect version origin announced now
    else g.endControl ("tmux " ++ versionText version ++ " is older than " ++
      versionText versionFloor ++ "; detached") now
  | none => g.endControl "tmux control mode ended: no version reply" now

def driveConnected (version : Version) (connection : K.Conn)
    (steps : List (ConnectionStep K.Work K.Purpose)) (now : Nat) (g : Gate K) : Acts K :=
  let (client, connection, actions, result) := drive steps g.client connection
  let g := { g with client := client, phase := .connected version connection }
  match result with
  | .error e => Acts.andThen (g, actions)
      (endControl ("tmux control mode ended: " ++ e.display) now)
  | .ok () => (g, actions)

def event (event : Event) (now : Nat) (g : Gate K) : Acts K :=
  match g.phase with
  | .plain => (g, [])
  | .asking deadline held heldBytes origin =>
    ({ g with phase := .asking deadline (held ++ [event]) heldBytes origin }, [])
  | .probing deadline probe session origin =>
    match event with
    | .message (.sessionChanged announced name) =>
      if probe.isNone then
        match g.submitProbe with
        | ((g, actions), .ok token) =>
          ({ g with phase := .probing deadline (some token) (some (announced, name)) origin },
          actions)
        | ((g, actions), .error e) =>
          Acts.andThen (g, actions) (endControl ("tmux control mode ended: " ++ e.display) now)
      else (g, [])
    | .reply token result =>
      if some token = probe then
        { g with phase := .probing deadline probe none origin }.probed result origin session now
      else (g, [])
    | .exited reason _ => g.exited "tmux" reason
    | _ => (g, [])
  | .connected version connection =>
    match event with
    | .exited reason _ =>
      (g.endConnection (.code 0)).andThen (exited ("tmux " ++ versionText version) reason)
    | event =>
      let (connection, steps) := K.eventSteps event connection
      g.driveConnected version connection steps now
  | .draining _ =>
    match event with
    | .exited _ _ => (g.reset, [])
    | _ => (g, [])

def replay (now : Nat) : List Event → Gate K → Acts K
  | [], g => (g, [])
  | e :: events, g => (g.event e now).andThen (replay now events)

def feedEvents (now : Nat) :
    List Event → Option Foreground → Gate K → Gate K × Bytes × List (Action K.Work)
  | [], _, g => (g, [], [])
  | .passthrough data :: events, foreground, g =>
    let (g, passthrough, actions) := feedEvents now events foreground g
    (g, data ++ passthrough, actions)
  | .entered :: events, foreground, g =>
    let g := g.entered (foreground.getD ⟨none, none⟩) now
    let (g, passthrough, actions) := feedEvents now events none g
    -- The marker's own bytes passed; what they opened is closed.
    (g, [esc, backslash] ++ passthrough, actions)
  | e :: events, foreground, g =>
    let (g, actions) := g.event e now
    let (g, passthrough, rest) := feedEvents now events foreground g
    (g, passthrough, actions ++ rest)

def floods (bytes : Bytes) (g : Gate K) : Bool :=
  match g.phase with
  | .asking _ _ heldBytes _ => heldBytesMax < heldBytes + bytes.length
  | _ => false

def countHeld (bytes : Bytes) (g : Gate K) : Gate K :=
  match g.phase with
  | .asking deadline held heldBytes origin =>
    { g with phase := .asking deadline held (heldBytes + bytes.length) origin }
  | _ => g

def feed (bytes : Bytes) (now : Nat) (foreground : Foreground) (g : Gate K) :
    Gate K × Bytes × List (Action K.Work) :=
  let flooded := g.floods bytes
  let g := g.countHeld bytes
  if flooded then
    let (g, actions) := g.deny "denied: too much output while the question stood" now
    (g, [], actions)
  else
    match g.client.feed bytes with
    | (client, .error e) =>
      let (g, actions) :=
        { g with client := client }.endStream ("tmux control mode ended: " ++ e.display)
      (g, [], actions)
    | (client, .ok events) =>
      let (g, passthrough, actions) :=
        feedEvents now events (some foreground) { g with client := client }
      let (g, status) := g.publishStatusIfDirty
      (g, passthrough, actions ++ status)

def allow (a : Answer) (origin : Origin) (now : Nat) (g : Gate K) : Gate K :=
  { g.publish none with
    allowForTab := g.allowForTab || a = .allowForTab
    phase := .probing (now + probeTimeout) none none origin }

def answer (a : Answer) (now : Nat) (g : Gate K) : Acts K :=
  match g.phase with
  | .asking _ held _ origin =>
    match a with
    | .deny => g.deny "denied" now
    | _ => (g.allow a origin now).replay now held
  | _ => (g, [])

def tick (now : Nat) (g : Gate K) : Acts K :=
  match g.phase with
  | .asking deadline _ _ _ =>
    if deadline ≤ now then g.deny "denied: no answer" now else (g, [])
  | .probing deadline probe _ _ =>
    if deadline ≤ now then
      if probe.isSome then g.endControl "tmux control mode ended: no version reply" now
      else
        -- Not a tmux: cancel whatever line a shell may be holding.
        Acts.andThen (g, [.write [3]]) (endStream "tmux control mode ended: no session announced")
    else (g, [])
  | .draining deadline => if deadline ≤ now then (g.reset, []) else (g, [])
  | _ => (g, [])

def serve (steps : K.Conn → K.Conn × List (ConnectionStep K.Work K.Purpose)) (now : Nat)
    (g : Gate K) :
    Acts K :=
  match g.phase with
  | .connected version connection =>
    let (connection, steps) := steps connection
    (g.driveConnected version connection steps now).andThen publishStatusIfDirty
  | _ => (g, [])

def workDone (done : K.WorkDone) (now : Nat) (g : Gate K) : Acts K :=
  g.serve (K.onWorkDone done) now

def paneCommand (pane : PaneId) (command : K.PtyCommand) (now : Nat) (g : Gate K) : Acts K :=
  g.serve (K.onPaneCommand pane command) now

/-- What a request makes a connection want. One that names no window or pane changes nothing. -/
def requestSteps (request : Request) (c : K.Conn) :
    K.Conn × List (ConnectionStep K.Work K.Purpose) :=
  let paned (pane : String)
      (f : PaneId → K.Conn → K.Conn × List (ConnectionStep K.Work K.Purpose)) :=
    match PaneId.parse (utf8 pane) with
    | some pane => f pane c
    | none => (c, [])
  match request with
  | .openWindow window =>
    match WindowId.parse (utf8 window) with
    | some window => K.openWindow window c
    | none => (c, [])
  | .newWindow => K.requestNewWindow c
  | .split pane horizontal => paned pane (K.requestSplit · horizontal)
  | .focus pane => paned pane K.requestFocus
  | .windowSize pane cols rows => paned pane (K.requestWindowSize · cols rows)
  | .resizePane pane axis cells => paned pane (K.requestResizePane · axis cells)
  | .detach => (c, [.submit .detach K.fire])
  | .endServer => (c, [.submit .killServer K.fire])

def request (request : Request) (now : Nat) (g : Gate K) : Acts K :=
  g.serve (requestSteps request) now

end Gate

end Chan.Tmux
