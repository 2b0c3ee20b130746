import Chan.Lib.ByteFile

namespace Chan.Terminal
open ByteFile List

namespace Layout

/-- `CHANRING`. -/
def magic : List UInt8 := [67, 72, 65, 78, 82, 73, 78, 71]

def formatVersion : Nat := 2

def statelessFormatVersion : Nat := 1

def headerLen : Nat := 64

def versionAt : Nat := 8

def headerLenAt : Nat := 12

def capacityAt : Nat := 16

def windowAt : Nat := 24

def stateAt : Nat := 48

def stateLen : Nat := 16

def modeSlots : Nat := 7

def flagAltScreen : Nat := 1

def flagStopped : Nat := 2

end Layout

open Layout

def trackedPrivateModes : Finset Nat := {1, 1000, 1002, 1003, 1004, 1006, 2004}

/-- Whether the alternate screen is up, and the private modes that are on. -/
structure TerminalState where
  altScreen : Bool
  privateModes : Finset Nat
  deriving DecidableEq

namespace TerminalState

def flags (altScreen stopped : Bool) : Nat :=
  (if altScreen then flagAltScreen else 0) ||| (if stopped then flagStopped else 0)

/-- The state region: flags, then a slot for each private mode that is on, 0 for an empty one. -/
def encode (s : TerminalState) (stopped : Bool) : List UInt8 :=
  let modes := (s.privateModes.sort (· ≤ ·)).take modeSlots
  toLe 2 (flags s.altScreen stopped) ++
  (modes.flatMap (toLe 2) ++ List.replicate (2 * (modeSlots - modes.length)) 0)

def slots : List UInt8 → List Nat
  | low :: high :: rest => ofLe [low, high] :: slots rest
  | _ => []

def decode (region : List UInt8) : TerminalState × Bool :=
  let flags := ofLe (region.take 2)
  (⟨decide (flags &&& flagAltScreen ≠ 0), ((slots (region.drop 2)).filter (· ≠ 0)).toFinset⟩,
    decide (flags &&& flagStopped ≠ 0))

@[simp] lemma length_encode (s : TerminalState) (stopped : Bool) :
    (s.encode stopped).length = stateLen := by
  have hmodes : ((s.privateModes.sort (· ≤ ·)).take modeSlots).length ≤ modeSlots :=
    length_take_le ..
  have hslots : ∀ modes : List Nat, (modes.flatMap (toLe 2)).length = 2 * modes.length := by
    intro modes
    induction modes with
    | nil => rfl
    | cons mode modes ih =>
      rw [flatMap_cons, length_append, length_toLe, ih, length_cons]
      omega
  simp only [encode, length_append, length_toLe, hslots, length_replicate]
  simp only [modeSlots, stateLen] at hmodes ⊢
  omega

lemma slots_flatMap (h : ∀ mode ∈ modes, mode < 2 ^ 16) (n : Nat) :
    slots (modes.flatMap (toLe 2) ++ List.replicate (2 * n) 0) = modes ++ List.replicate n 0 := by
  induction modes with
  | nil =>
    induction n with
    | zero => rfl
    | succ n ih => exact congrArg (0 :: ·) ih
  | cons mode modes ih =>
    have hmode : ofLe (toLe 2 mode) = mode := ofLe_toLe (h mode mem_cons_self)
    have hrest := ih fun m hm => h m (mem_cons_of_mem mode hm)
    exact congrArg₂ List.cons hmode hrest

lemma flags_spec (altScreen stopped : Bool) :
    decide (ofLe (toLe 2 (flags altScreen stopped)) &&& flagAltScreen ≠ 0) = altScreen ∧
    decide (ofLe (toLe 2 (flags altScreen stopped)) &&& flagStopped ≠ 0) = stopped := by
  revert altScreen stopped
  decide

lemma tracked_spec (h : mode ∈ trackedPrivateModes) : mode ≠ 0 ∧ mode < 2 ^ 16 := by
  revert mode
  decide

lemma decode_encode (h : s.privateModes ⊆ trackedPrivateModes)
    (stopped : Bool) : decode (s.encode stopped) = (s, stopped) := by
  have hlength : (s.privateModes.sort (· ≤ ·)).length ≤ modeSlots := by
    rw [Finset.length_sort]
    exact Finset.card_le_card h
  have hmodes : ∀ mode ∈ s.privateModes.sort (· ≤ ·), mode ≠ 0 ∧ mode < 2 ^ 16 :=
    fun mode hmode => tracked_spec (h ((Finset.mem_sort _).1 hmode))
  have hslots := slots_flatMap (fun mode hmode => (hmodes mode hmode).2)
    (modeSlots - (s.privateModes.sort (· ≤ ·)).length)
  have hfilter : ((s.privateModes.sort (· ≤ ·) ++
      List.replicate (modeSlots - (s.privateModes.sort (· ≤ ·)).length) 0).filter
        (· ≠ 0)).toFinset = s.privateModes := by
    ext mode
    simp only [mem_toFinset, mem_filter, mem_append, Finset.mem_sort,
      mem_replicate, decide_eq_true_eq]
    refine ⟨fun ⟨hmem, hne⟩ => hmem.resolve_right fun h => hne h.2, fun hmem => ⟨.inl hmem, ?_⟩⟩
    exact (hmodes mode ((Finset.mem_sort _).2 hmem)).1
  obtain ⟨haltScreen, hstopped⟩ := flags_spec s.altScreen stopped
  simp only [encode, decode, take_of_length_le hlength]
  rw [take_left' (length_toLe ..), drop_left' (length_toLe ..), hslots, hfilter,
    haltScreen, hstopped]

end TerminalState

structure MemFile where
  len : Nat
  contents : Contents

namespace MemFile

def zeroed (len : Nat) : MemFile := ⟨len, fun _ => 0⟩

def after (m : MemFile) (ws : List Write) : MemFile := ⟨m.len, writeAll m.contents ws⟩

def readExactAt (m : MemFile) (offset length : Nat) : Except String (List UInt8) :=
  if offset + length ≤ m.len then .ok (read m.contents offset length)
  else .error "failed to fill whole buffer"

end MemFile

/-- What a process keeps of the ring file it writes. -/
structure RingFile where
  capacity : Nat
  start : Nat
  endSeq : Nat
  state : List UInt8
  version : Nat

/-- An operation that completes: what the process keeps, and its writes in order. -/
abbrev Written := RingFile × List Write

def Written.andThen (t : Written) (f : RingFile → Written) : Written :=
  ((f t.1).1, t.2 ++ (f t.1).2)

namespace RingFile

def window (r : RingFile) (start endSeq : Nat) : List UInt8 :=
  toLe 8 start ++ toLe 8 endSeq ++ toLe 8 (endSeq % r.capacity)

def reset (seq : Nat) (r : RingFile) : Written :=
  ({ r with start := seq, endSeq := seq, version := formatVersion },
    [⟨0, magic ++ toLe 4 formatVersion ++ toLe 4 headerLen ++ toLe 8 r.capacity ++
      (r.window seq seq ++ r.state)⟩])

def publish (start endSeq : Nat) (r : RingFile) : Written :=
  ({ r with start := start, endSeq := endSeq }, [⟨windowAt, r.window start endSeq⟩])

/-- Publish the window and, in the same write, the state right after it; then bring an older
header's version up. -/
def publishWithState (start endSeq : Nat) (state : List UInt8) (r : RingFile) : Written :=
  Written.andThen
    ({ r with start := start, endSeq := endSeq, state := state },
      [⟨windowAt, r.window start endSeq ++ state⟩])
    fun r =>
      if r.version ≠ formatVersion then
        ({ r with version := formatVersion }, [⟨versionAt, toLe 4 formatVersion⟩])
      else (r, [])

def retire (start : Nat) (r : RingFile) : Written :=
  if r.start < start then r.publish (min start r.endSeq) r.endSeq else (r, [])

def writeData (seq : Nat) (bytes : List UInt8) (r : RingFile) : Written :=
  let offset := seq % r.capacity
  let first := min bytes.length (r.capacity - offset)
  (r, ⟨headerLen + offset, bytes.take first⟩ ::
    if first < bytes.length then [⟨headerLen, bytes.drop first⟩] else [])

def saturatingAdd (a b : Nat) : Nat := min (a + b) (2 ^ 64 - 1)

/-- Append bytes, numbered from `seq`, where the ring ends. Only the last `capacity` bytes stay in
the window. -/
def extend (seq : Nat) (bytes : List UInt8) (state : Option (List UInt8)) (r : RingFile) :
    Written :=
  let endSeq := saturatingAdd seq bytes.length
  let kept := bytes.drop (bytes.length - r.capacity)
  let start := max r.start (endSeq - r.capacity)
  ((r.retire start).andThen (writeData (endSeq - kept.length) kept)).andThen
    (match state with
    | some state => publishWithState start endSeq state
    | none => publish start endSeq)

def appendWithState (seq : Nat) (bytes : List UInt8) (state : Option (List UInt8)) (r : RingFile) :
    Written :=
  if bytes = [] then (r, [])
  else if seq ≠ r.endSeq then
    -- A gap cannot be described by one window.
    (r.reset seq).andThen (extend seq bytes state)
  else r.extend seq bytes state

def create (capacity : Nat) : Written :=
  reset 0 ⟨max capacity 1, 0, 0, List.replicate stateLen 0, formatVersion⟩

def createFile (capacity : Nat) : MemFile := .zeroed (headerLen + max capacity 1)

def adopt (m : MemFile) : Except String RingFile :=
  if m.len ≤ headerLen then
    .error ("a " ++ toString m.len ++ "-byte file has no ring behind its header")
  else .ok ⟨m.len - headerLen, 0, 0, List.replicate stateLen 0, 0⟩

structure Header where
  version : Nat
  start : Nat
  endSeq : Nat
  state : List UInt8

def parseHeader (fileCapacity : Nat) (header : List UInt8) : Except String Header :=
  let u32At (offset : Nat) := ofLe ((header.drop offset).take 4)
  let u64At (offset : Nat) := ofLe ((header.drop offset).take 8)
  let version := u32At versionAt
  let capacity := u64At capacityAt
  let start := u64At windowAt
  let endSeq := u64At (windowAt + 8)
  let writeOffset := u64At (windowAt + 16)
  if header.take 8 ≠ magic then .error "the header has no ring magic"
  else if version ≠ formatVersion ∧ version ≠ statelessFormatVersion then
    .error ("format version " ++ toString version ++ " is not supported")
  else if u32At headerLenAt ≠ headerLen then
    .error ("header length " ++ toString (u32At headerLenAt) ++ " is not supported")
  else if capacity ≠ fileCapacity then
    .error ("the header's capacity " ++ toString capacity ++ " disagrees with the file's " ++
      toString fileCapacity)
  else if endSeq < start ∨ capacity < endSeq - start then
    .error ("the window " ++ toString start ++ ".." ++ toString endSeq ++ " does not fit a " ++
      toString capacity ++ "-byte ring")
  else if writeOffset ≠ endSeq % capacity then
    .error ("the write offset " ++ toString writeOffset ++ " disagrees with the end " ++
      toString endSeq)
  else .ok ⟨version, start, endSeq,
    if version = statelessFormatVersion then List.replicate stateLen 0
    else (header.drop stateAt).take stateLen⟩

def readWindow (m : MemFile) (capacity : Nat) (h : Header) : Except String (List UInt8) := do
  let offset := h.start % capacity
  let first := min (h.endSeq - h.start) (capacity - offset)
  let head ← m.readExactAt (headerLen + offset) first
  let tail ← m.readExactAt headerLen (h.endSeq - h.start - first)
  return head ++ tail

def read (m : MemFile) (r : RingFile) : Except String (RingFile × Nat × List UInt8) := do
  let header ← (m.readExactAt 0 headerLen).mapError ("reading the header: " ++ ·)
  let h ← parseHeader r.capacity header
  let bytes ← (readWindow m r.capacity h).mapError ("reading the ring bytes: " ++ ·)
  return ({ r with start := h.start, endSeq := h.endSeq, version := h.version, state := h.state },
    h.endSeq, bytes)

def reread (m : MemFile) : Except String (RingFile × Nat × List UInt8) := do
  let r ← adopt m
  r.read m

def terminalState (r : RingFile) : Option TerminalState :=
  if r.version = formatVersion then some (TerminalState.decode r.state).1 else none

end RingFile

end Chan.Terminal
