import Mathlib

namespace Chan.Tmux

abbrev Bytes := List UInt8

def utf8 (text : String) : Bytes := text.toUTF8.data.toList

def isUtf8 (bytes : Bytes) : Bool := ByteArray.validateUTF8 ⟨bytes.toArray⟩

def space : UInt8 := 32

def splitOnce (sep : UInt8) (line : Bytes) : Bytes × Option Bytes :=
  match line.span (· ≠ sep) with
  | (head, []) => (head, none)
  | (head, _ :: rest) => (head, some rest)

def stripPrefix (start line : Bytes) : Option Bytes :=
  if start.isPrefixOf line then some (line.drop start.length) else none

def isDigit (b : UInt8) : Bool := 48 ≤ b && b ≤ 57

def digitsValue (digits : Bytes) : Nat := digits.foldl (fun n d => 10 * n + (d.toNat - 48)) 0

/-- An unsigned number of some bits as Rust parses it, with a plus sign allowed. -/
def parseUnsigned (bits : Nat) (text : Bytes) : Option Nat :=
  let digits := (stripPrefix (utf8 "+") text).getD text
  if digits ≠ [] ∧ digits.all isDigit ∧ digitsValue digits < 2 ^ bits then
    some (digitsValue digits)
  else none

inductive Error where
  | lineTooLong
  | blockTooLarge
  | unexpectedReply
  | replyShape
  | noPaneState
  | malformed (what : String)
  | tooManyPending
  | notReady
  | poisoned
  | badArgument (what : String)
  deriving DecidableEq

def Error.display : Error → String
  | lineTooLong => "tmux control line exceeds the length bound"
  | blockTooLarge => "tmux reply block exceeds its size bound"
  | unexpectedReply => "tmux sent a reply no command was waiting for"
  | replyShape => "tmux reply does not have the promised row count"
  | noPaneState => "tmux capture has no pane state to size it"
  | malformed what => "malformed tmux notification: " ++ what
  | tooManyPending => "too many tmux commands waiting for a reply"
  | notReady => "tmux has not announced a session yet"
  | poisoned => "tmux control stream already failed"
  | badArgument what => "tmux command argument refused: " ++ what

def parseId (sigil : String) (text : Bytes) : Option Nat := do
  let digits ← stripPrefix (utf8 sigil) text
  if digits = [] ∨ digits.length > 10 ∨ !digits.all isDigit then none
  else parseUnsigned 32 digits

structure PaneId where
  number : Nat
  deriving DecidableEq

structure WindowId where
  number : Nat
  deriving DecidableEq

structure SessionId where
  number : Nat
  deriving DecidableEq

def PaneId.parse (text : Bytes) : Option PaneId := (parseId "%" text).map .mk

def WindowId.parse (text : Bytes) : Option WindowId := (parseId "@" text).map .mk

def SessionId.parse (text : Bytes) : Option SessionId := (parseId "$" text).map .mk

def PaneId.display (p : PaneId) : String := "%" ++ toString p.number

def WindowId.display (w : WindowId) : String := "@" ++ toString w.number

/-- What a command's reply must look like for its terminator to be believed. -/
inductive Expect where
  | any
  | rows (n : Nat)
  | paneState
  | capture (historyRows : Nat)
  deriving DecidableEq

inductive ResizeAxis where
  | width
  | height
  deriving DecidableEq

inductive Command where
  | interrupt
  | version
  | clientSize (cols rows : Nat)
  | windowSize (window : WindowId) (cols rows : Nat)
  | resizePane (pane : PaneId) (axis : ResizeAxis) (cells : Nat)
  | pauseAfter (seconds : Nat)
  | newLayouts
  | continuePane (pane : PaneId)
  | listSessions
  | listWindows
  | listPanes (window : WindowId)
  | paneState (pane : PaneId)
  | capturePane (pane : PaneId) (historyRows : Nat)
  | sendKeys (pane : PaneId) (bytes : Bytes)
  | newWindow (cwd : Option String)
  | splitWindow (pane : PaneId) (horizontal : Bool)
  | killWindow (window : WindowId)
  | killPane (pane : PaneId)
  | selectWindow (window : WindowId)
  | selectPane (pane : PaneId)
  | renameWindow (window : WindowId) (name : String)
  | detach
  | killServer
  deriving DecidableEq

namespace Command

def maxKeyBytes : Nat := 256

def maxSize : Nat := 10000

def maxText : Nat := 1024

def listSessionsFormat : String := "#\x7bsession_id\x7d"

def listWindowsFormat : String :=
  "#\x7bwindow_id\x7d #\x7bwindow_layout\x7d #\x7bwindow_visible_layout\x7d " ++
    "#\x7bwindow_flags\x7d #\x7bwindow_name\x7d"

def listPanesFormat : String := "#\x7bpane_id\x7d #\x7bpane_active\x7d"

def paneStateFormat : String :=
  "#\x7bpane_id\x7d #\x7bcursor_x\x7d #\x7bcursor_y\x7d #\x7bpane_in_mode\x7d " ++
    "#\x7balternate_on\x7d #\x7bscroll_region_upper\x7d #\x7bscroll_region_lower\x7d " ++
    "#\x7bpane_width\x7d #\x7bpane_height\x7d #\x7bhistory_size\x7d"

def checkSize (cols rows : Nat) : Except Error Unit :=
  if 1 ≤ cols ∧ cols ≤ maxSize ∧ 1 ≤ rows ∧ rows ≤ maxSize then .ok ()
  else .error (.badArgument "size")

def isControl (c : Char) : Bool := c.toNat < 32 || (127 ≤ c.toNat && c.toNat < 160)

/-- Free text as one tmux word: quoted, and with formats made literal. -/
def quote (text : String) : Except Error String :=
  if text.utf8ByteSize > maxText then .error (.badArgument "text too long")
  else if text.toList.any isControl then .error (.badArgument "control character")
  else .ok ("'" ++ String.ofList (text.toList.flatMap fun c =>
    if c = '#' then "##".toList else if c = '\x27' then "'\\''".toList else [c]) ++ "'")

def hexDigit (n : Nat) : Char := "0123456789abcdef".toList.getD n '0'

def hexPairs (bytes : Bytes) : String :=
  " ".intercalate (bytes.map fun b =>
    String.ofList [hexDigit (b.toNat / 16), hexDigit (b.toNat % 16)])

def render : Command → Except Error String
  | interrupt => .ok "\x03"
  | version => .ok "display-message -p '#\x7bversion\x7d'"
  | clientSize cols rows => do
    checkSize cols rows
    return "refresh-client -C " ++ toString cols ++ "," ++ toString rows
  | windowSize window cols rows => do
    checkSize cols rows
    return "refresh-client -C " ++ window.display ++ ":" ++ toString cols ++ "x" ++ toString rows
  | resizePane pane axis cells => do
    checkSize cells cells
    let flag := match axis with
      | .width => "-x"
      | .height => "-y"
    return "resize-pane -t " ++ pane.display ++ " " ++ flag ++ " " ++ toString cells
  | pauseAfter seconds => .ok ("refresh-client -f pause-after=" ++ toString seconds)
  | newLayouts => .ok "refresh-client -f new-layouts"
  | continuePane pane => .ok ("refresh-client -A '" ++ pane.display ++ ":continue'")
  | listSessions => .ok ("list-sessions -F '" ++ listSessionsFormat ++ "'")
  | listWindows => .ok ("list-windows -F '" ++ listWindowsFormat ++ "'")
  | listPanes window =>
    .ok ("list-panes -t " ++ window.display ++ " -F '" ++ listPanesFormat ++ "'")
  | paneState pane =>
    .ok ("display-message -p -t " ++ pane.display ++ " '" ++ paneStateFormat ++ "'")
  | capturePane pane historyRows =>
    if historyRows > 1000000 then .error (.badArgument "capture range")
    else
      let start := if historyRows = 0 then "0" else "-" ++ toString historyRows
      .ok ("display-message -p -t " ++ pane.display ++ " '" ++ paneStateFormat ++
        "' ; capture-pane -p -e -t " ++ pane.display ++ " -S " ++ start ++ " -E -")
  | sendKeys pane bytes =>
    if bytes = [] ∨ bytes.length > maxKeyBytes then .error (.badArgument "key bytes")
    else .ok ("send-keys -t " ++ pane.display ++ " -H " ++ hexPairs bytes)
  | newWindow none => .ok "new-window -PF '#\x7bwindow_id\x7d'"
  | newWindow (some dir) => do
    let dir ← quote dir
    return "new-window -PF '#\x7bwindow_id\x7d' -c " ++ dir
  | splitWindow pane horizontal =>
    let dir := if horizontal then "-h" else "-v"
    .ok ("split-window " ++ dir ++ " -t " ++ pane.display ++ " -PF '#\x7bpane_id\x7d'")
  | killWindow window => .ok ("kill-window -t " ++ window.display)
  | killPane pane => .ok ("kill-pane -t " ++ pane.display)
  | selectWindow window => .ok ("select-window -t " ++ window.display)
  | selectPane pane => .ok ("select-pane -t " ++ pane.display)
  | renameWindow window name => do
    let name ← quote name
    return "rename-window -t " ++ window.display ++ " -- " ++ name
  | detach => .ok "detach-client"
  | killServer => .ok "kill-server"

def expects : Command → List Expect
  | capturePane _ historyRows => [.paneState, .capture historyRows]
  | _ => [.any]

end Command

structure Version where
  major : Nat
  minor : Nat
  deriving DecidableEq

namespace Version

def le (a b : Version) : Bool := a.major < b.major || (a.major = b.major && a.minor ≤ b.minor)

/-- `3.8`, `3.0a`, `next-3.5`. -/
def parse (text : Bytes) : Option Version := do
  let text := (stripPrefix (utf8 "next-") text).getD text
  let (major, rest) := splitOnce 46 text
  let rest ← rest
  let major ← parseUnsigned 32 major
  let minor ← parseUnsigned 32 (rest.takeWhile isDigit)
  return ⟨major, minor⟩

end Version

structure PaneState where
  id : PaneId
  cursorX : Nat
  cursorY : Nat
  inMode : Bool
  alternateOn : Bool
  scrollUpper : Nat
  scrollLower : Nat
  width : Nat
  height : Nat
  historySize : Nat
  deriving DecidableEq

def parsePaneState (lines : List Bytes) : Except Error PaneState := do
  let bad := Error.malformed "pane state"
  let n (field : Bytes) : Except Error Nat := (parseUnsigned 32 field).elim (.error bad) .ok
  match lines with
  | [line] =>
    if !isUtf8 line then .error bad
    else match line.splitOn space with
      | [id, x, y, mode, alternate, upper, lower, width, height, history] =>
        let id ← (PaneId.parse id).elim (.error bad) .ok
        return {
          id := id
          cursorX := ← n x
          cursorY := ← n y
          inMode := (← n mode) != 0
          alternateOn := (← n alternate) != 0
          scrollUpper := ← n upper
          scrollLower := ← n lower
          width := ← n width
          height := ← n height
          historySize := ← n history }
      | _ => .error bad
  | _ => .error bad

end Chan.Tmux
