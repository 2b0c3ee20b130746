import Chan.Tmux.Command

namespace Chan.Tmux

/-- One parsed notification. Names and layouts are untrusted text. -/
inductive Message where
  | output (pane : PaneId) (data : Bytes)
  | extendedOutput (pane : PaneId) (latencyMs : Nat) (data : Bytes)
  | windowAdd (window : WindowId)
  | windowClose (window : WindowId)
  | windowRenamed (window : WindowId) (name : Bytes)
  | unlinkedWindowAdd (window : WindowId)
  | unlinkedWindowClose (window : WindowId)
  | unlinkedWindowRenamed (window : WindowId) (name : Bytes)
  | layoutChange (window : WindowId) (layout visibleLayout flags : Bytes)
  | windowPaneChanged (window : WindowId) (pane : PaneId)
  | sessionChanged (session : SessionId) (name : Bytes)
  | sessionsChanged
  | sessionRenamed (name : Bytes)
  | sessionWindowChanged (session : SessionId) (window : WindowId)
  | clientSessionChanged (client : Bytes) (session : SessionId) (name : Bytes)
  | clientDetached (client : Bytes)
  | pause (pane : PaneId)
  | continued (pane : PaneId)
  | paneModeChanged (pane : PaneId)
  | exit (reason : Option Bytes)
  | other (keyword : Bytes)
  deriving DecidableEq

def backslash : UInt8 := 92

def octalByte : Bytes → Option UInt8
  | [a, b, c] =>
    if [a, b, c].all (fun d => 48 ≤ d && d ≤ 55) then
      let v := (a.toNat - 48) * 64 + (b.toNat - 48) * 8 + (c.toNat - 48)
      if v < 256 then some (.ofNat v) else none
    else none
  | _ => none

/-- The data of an output line. A stray control byte is dropped, and a backslash that starts no
byte becomes a question mark. -/
def unescapeOutput : Bytes → Bytes
  | [] => []
  | b :: rest =>
    if b = backslash then
      match octalByte (rest.take 3) with
      | some v => v :: unescapeOutput (rest.drop 3)
      | none => 63 :: unescapeOutput rest
    else if b < 32 then unescapeOutput rest
    else b :: unescapeOutput rest
termination_by data => data.length

namespace Message

def bad (what : String) : Error := .malformed what

def required (what : String) (field : Option α) : Except Error α :=
  field.elim (.error (bad what)) .ok

def text (bytes : Bytes) : Except Error Bytes :=
  if isUtf8 bytes then .ok bytes else .error (.malformed "not utf-8")

def paneId (bytes : Bytes) (what : String) : Except Error PaneId := do
  required what (PaneId.parse (← text bytes))

def onlyWindow (rest : Option Bytes) (what : String) : Except Error WindowId := do
  required what (WindowId.parse (← text (← required what rest)))

def idAndText (parse : Bytes → Option α) (rest : Option Bytes) (what : String) :
    Except Error (α × Bytes) := do
  let (id, name) := splitOnce space (← required what rest)
  let id ← required what (parse (← text id))
  return (id, name.getD [])

def twoIds (first : Bytes → Option α) (second : Bytes → Option β) (rest : Option Bytes)
    (what : String) : Except Error (α × β) := do
  match (← text (← required what rest)).splitOn space with
  | [a, b] =>
    match first a, second b with
    | some a, some b => return (a, b)
    | _, _ => .error (bad what)
  | _ => .error (bad what)

def layoutChangeOf (rest : Bytes) : Except Error Message := do
  let fields := (← text rest).splitOn space
  let window ← required "layout-change" (fields[0]?.bind WindowId.parse)
  let layout ← required "layout-change" (fields[1]?.filter (· ≠ []))
  return layoutChange window layout ((fields[2]?.filter (· ≠ [])).getD layout) (fields[3]?.getD [])

def findColon : Bytes → Option Nat
  | 32 :: 58 :: _ => some 0
  | _ :: rest => (findColon rest).map (· + 1)
  | [] => none

def extendedOutputOf (rest : Bytes) : Except Error Message := do
  let (pane, tail) := splitOnce space rest
  let pane ← paneId pane "extended-output"
  let tail ← required "extended-output" tail
  let colon ← required "extended-output" (findColon tail)
  let header ← text (tail.take colon)
  let latency ← required "extended-output"
    ((header.splitOn space).head?.bind (parseUnsigned 64))
  return extendedOutput pane latency (unescapeOutput (tail.drop (colon + 3)))

def clientSessionChangedOf (rest : Bytes) : Except Error Message := do
  let (client, rest) := splitOnce space (← text rest)
  let (session, name) := splitOnce space (rest.getD [])
  match rest.bind fun _ => SessionId.parse session with
  | some session =>
    if client = [] then .error (bad "client-session-changed")
    else return clientSessionChanged client session (name.getD [])
  | none => .error (bad "client-session-changed")

end Message

open Message in
/-- One line that is not part of a reply block. A line that is no notification, and a known
notification whose fields do not parse, are errors. -/
def parseMessage (line : Bytes) : Except Error Message := do
  if line.head? ≠ some 37 then .error (.malformed "not a notification")
  let (keyword, rest) := splitOnce space line
  if !isUtf8 keyword then .error (.malformed "keyword")
  if keyword = utf8 "%output" then
    let (pane, data) := splitOnce space (← required "output" rest)
    return output (← paneId pane "output") (unescapeOutput (data.getD []))
  else if keyword = utf8 "%extended-output" then
    extendedOutputOf (← required "extended-output" rest)
  else if keyword = utf8 "%window-add" then
    return windowAdd (← onlyWindow rest "window-add")
  else if keyword = utf8 "%window-close" then
    return windowClose (← onlyWindow rest "window-close")
  else if keyword = utf8 "%unlinked-window-add" then
    return unlinkedWindowAdd (← onlyWindow rest "unlinked-window-add")
  else if keyword = utf8 "%unlinked-window-close" then
    return unlinkedWindowClose (← onlyWindow rest "unlinked-window-close")
  else if keyword = utf8 "%window-renamed" then
    let (window, name) ← idAndText WindowId.parse rest "window-renamed"
    return windowRenamed window name
  else if keyword = utf8 "%unlinked-window-renamed" then
    let (window, name) ← idAndText WindowId.parse rest "unlinked-window-renamed"
    return unlinkedWindowRenamed window name
  else if keyword = utf8 "%layout-change" then
    layoutChangeOf (← required "layout-change" rest)
  else if keyword = utf8 "%window-pane-changed" then
    let (window, pane) ← twoIds WindowId.parse PaneId.parse rest "window-pane-changed"
    return windowPaneChanged window pane
  else if keyword = utf8 "%session-changed" then
    let (session, name) ← idAndText SessionId.parse rest "session-changed"
    return sessionChanged session name
  else if keyword = utf8 "%sessions-changed" then
    return sessionsChanged
  else if keyword = utf8 "%session-renamed" then
    return sessionRenamed (← text (rest.getD []))
  else if keyword = utf8 "%session-window-changed" then
    let (session, window) ← twoIds SessionId.parse WindowId.parse rest "session-window-changed"
    return sessionWindowChanged session window
  else if keyword = utf8 "%client-session-changed" then
    clientSessionChangedOf (← required "client-session-changed" rest)
  else if keyword = utf8 "%client-detached" then
    return clientDetached (← text (rest.getD []))
  else if keyword = utf8 "%pause" then
    return pause (← paneId (← required "pause" rest) "pause")
  else if keyword = utf8 "%continue" then
    return continued (← paneId (← required "continue" rest) "continue")
  else if keyword = utf8 "%pane-mode-changed" then
    return paneModeChanged (← paneId (← required "pane-mode-changed" rest) "pane-mode-changed")
  else if keyword = utf8 "%exit" then
    return exit (rest.filter (· ≠ []))
  else
    return other keyword

end Chan.Tmux
