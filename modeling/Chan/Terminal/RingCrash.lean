import Chan.Terminal.RingFile

namespace Chan.Terminal
open ByteFile Layout List

variable {f : Contents} {r : RingFile}

/-- What has been written: the bytes numbered from `base`, and the state they leave. -/
structure Stream where
  base : Nat
  bytes : List UInt8
  state : List UInt8

namespace Stream

def endSeq (s : Stream) : Nat := s.base + s.bytes.length

def reset (seq : Nat) (s : Stream) : Stream := ⟨seq, [], s.state⟩

def extend (bytes : List UInt8) (state : Option (List UInt8)) (s : Stream) : Stream :=
  ⟨s.base, s.bytes ++ bytes, state.getD s.state⟩

lemma endSeq_extend (chunk : List UInt8) (state : Option (List UInt8)) (s : Stream) :
    (s.extend chunk state).endSeq = s.endSeq + chunk.length := by
  rw [endSeq, endSeq, extend, length_append, Nat.add_assoc]

def append (seq : Nat) (bytes : List UInt8) (state : Option (List UInt8)) (s : Stream) : Stream :=
  if bytes = [] then s
  else if seq ≠ s.endSeq then (s.reset seq).extend bytes state
  else s.extend bytes state

lemma endSeq_append (hchunk : chunk ≠ []) (seq : Nat)
    (state : Option (List UInt8)) (s : Stream) :
    (s.append seq chunk state).endSeq = seq + chunk.length := by
  rw [append, if_neg hchunk]
  split
  · exact endSeq_extend ..
  · rename_i hseq
    rw [endSeq_extend, not_not.1 hseq]

def byte (s : Stream) (seq : Nat) : UInt8 := s.bytes.getD (seq - s.base) 0

lemma byte_extend_of_lt {s : Stream} (hq : q < s.endSeq) (hbase : s.base ≤ q)
    (chunk : List UInt8) (state : Option (List UInt8)) :
    (s.extend chunk state).byte q = s.byte q := by
  have hlt : q - s.base < s.bytes.length := Nat.sub_lt_left_of_lt_add hbase hq
  exact getD_append _ _ _ _ hlt

lemma byte_extend_of_ge {s : Stream} (hq : s.endSeq ≤ q) (chunk : List UInt8)
    (state : Option (List UInt8)) :
    (s.extend chunk state).byte q = chunk.getD (q - s.endSeq) 0 := by
  rw [endSeq] at hq ⊢
  rw [byte, extend]
  dsimp only
  rw [getD_append_right _ _ _ _ (by omega)]
  congr 1
  omega

end Stream

/-- A header that describes the stream from `start` on, and the bytes it describes. -/
structure Intact (capacity : Nat) (f : Contents) (start : Nat) (s : Stream) : Prop where
  fixed : ByteFile.read f 0 windowAt =
    magic ++ toLe 4 formatVersion ++ toLe 4 headerLen ++ toLe 8 capacity
  window : ByteFile.read f windowAt 24 =
    toLe 8 start ++ toLe 8 s.endSeq ++ toLe 8 (s.endSeq % capacity)
  state : ByteFile.read f stateAt stateLen = s.state
  lower : s.base ≤ start
  upper : start ≤ s.endSeq
  fits : s.endSeq ≤ start + capacity
  data : ∀ q, start ≤ q → q < s.endSeq → f (headerLen + q % capacity) = s.byte q

lemma read_around {byte : Nat → UInt8} (hcapacity : 0 < capacity) (hn : n ≤ capacity)
    (hdata : ∀ q, start ≤ q → q < start + n → f (headerLen + q % capacity) = byte q) :
    ByteFile.read f (headerLen + start % capacity) (min n (capacity - start % capacity)) ++
      ByteFile.read f headerLen (n - min n (capacity - start % capacity)) =
    (List.range n).map fun i => byte (start + i) := by
  have hoffset := Nat.mod_lt start hcapacity
  refine ext_getElem? fun i => ?_
  rw [List.getElem?_append, length_read, List.getElem?_map]
  by_cases hi : i < n
  · rw [List.getElem?_range hi, Option.map_some,
      ← hdata (start + i) (Nat.le_add_right ..) (Nat.add_lt_add_left hi _)]
    split
    · rename_i hfirst
      have hmod : (start + i) % capacity = start % capacity + i := add_mod_of_lt (by omega)
      rw [getElem?_read, if_pos hfirst, hmod, Nat.add_assoc]
    · rename_i hfirst
      have hmod : (start + i) % capacity = i - min n (capacity - start % capacity) := by
        rw [add_mod_of_ge (by omega) hcapacity (by omega)]
        omega
      rw [getElem?_read, if_pos (by omega), hmod]
  · rw [List.getElem?_eq_none (l := List.range n) (by rw [length_range]; omega)]
    split
    · rename_i hfirst
      omega
    · rw [getElem?_read, if_neg (by omega)]
      rfl

lemma number_of_read
    (h : ByteFile.read f offset n = p ++ (toLe m v ++ q)) (hv : v < 256 ^ m) :
    ofLe (ByteFile.read f (offset + p.length) m) = v := by
  have hpart := read_part h
  rw [length_toLe] at hpart
  rw [hpart, ofLe_toLe hv]

lemma drop_eq_map_byte (s : Stream) (hlower : s.base ≤ start) (hupper : start ≤ s.endSeq) :
    (List.range (s.endSeq - start)).map (fun i => s.byte (start + i)) =
      s.bytes.drop (start - s.base) := by
  rw [Stream.endSeq] at *
  refine ext_getElem? fun i => ?_
  rw [List.getElem?_map, List.getElem?_drop]
  by_cases hi : i < s.base + s.bytes.length - start
  · rw [List.getElem?_range hi, Option.map_some, Stream.byte,
      getD_eq_getElem _ _ (by omega), List.getElem?_eq_getElem (by omega)]
    congr 2
    omega
  · rw [List.getElem?_eq_none (l := List.range _) (by rw [length_range]; omega),
      List.getElem?_eq_none (by omega)]
    rfl

lemma Intact.parseHeader (h : Intact capacity f start s) (hcapacity : capacity < 2 ^ 64)
    (hend : s.endSeq < 2 ^ 64) :
    RingFile.parseHeader capacity (ByteFile.read f 0 headerLen) =
      .ok ⟨formatVersion, start, s.endSeq, s.state⟩ := by
  have hstart : start < 2 ^ 64 := Nat.lt_of_le_of_lt h.upper hend
  have hfields : ∀ a n, a + n ≤ headerLen →
      ((ByteFile.read f 0 headerLen).drop a).take n = ByteFile.read f a n := by
    intro a n hle
    rw [take_drop_read hle, Nat.zero_add]
  have hmagic : (ByteFile.read f 0 headerLen).take 8 = magic := by
    have hfixed := congrArg (List.take 8) h.fixed
    exact ((hfields 0 8 (by decide)).trans (take_drop_read (a := 0) (by decide)).symm).trans hfixed
  have hversion : ofLe (ByteFile.read f versionAt 4) = formatVersion :=
    number_of_read (p := magic) (q := toLe 4 headerLen ++ toLe 8 capacity)
      (h.fixed.trans (by simp)) (by decide)
  have hheader : ofLe (ByteFile.read f headerLenAt 4) = headerLen :=
    number_of_read (p := magic ++ toLe 4 formatVersion) (q := toLe 8 capacity)
      (h.fixed.trans (by simp)) (by decide)
  have hcap : ofLe (ByteFile.read f capacityAt 8) = capacity :=
    number_of_read (p := magic ++ toLe 4 formatVersion ++ toLe 4 headerLen) (q := [])
      (h.fixed.trans (by simp)) hcapacity
  have hwstart : ofLe (ByteFile.read f windowAt 8) = start :=
    number_of_read (p := []) (h.window.trans (by simp only [append_assoc]; rfl)) hstart
  have hwend : ofLe (ByteFile.read f (windowAt + 8) 8) = s.endSeq := by
    have hread := number_of_read (p := toLe 8 start)
      (h.window.trans (append_assoc ..)) hend
    rwa [length_toLe] at hread
  have hwoffset : ofLe (ByteFile.read f (windowAt + 16) 8) = s.endSeq % capacity := by
    have hread := number_of_read (m := 8) (v := s.endSeq % capacity)
      (p := toLe 8 start ++ toLe 8 s.endSeq) (q := [])
      (h.window.trans (by simp))
      (Nat.lt_of_le_of_lt (Nat.mod_le ..) hend)
    rwa [length_append, length_toLe, length_toLe] at hread
  have hfits : ¬(s.endSeq < start ∨ capacity < s.endSeq - start) :=
    not_or.2 ⟨Nat.not_lt.2 h.upper, Nat.not_lt.2 (Nat.sub_le_iff_le_add'.2 h.fits)⟩
  unfold RingFile.parseHeader
  simp only [hfields versionAt 4 (by decide), hfields headerLenAt 4 (by decide),
    hfields capacityAt 8 (by decide), hfields windowAt 8 (by decide),
    hfields (windowAt + 8) 8 (by decide), hfields (windowAt + 16) 8 (by decide),
    hfields stateAt stateLen (by decide), hmagic, hversion, hheader, hcap, hwstart, hwend,
    hwoffset, h.state]
  rw [if_neg (by decide), if_neg (by decide), if_neg (not_not_intro rfl),
    if_neg (not_not_intro rfl), if_neg hfits, if_neg (not_not_intro rfl), if_neg (by decide)]

lemma Intact.reread (h : Intact capacity f start s) (hpos : 0 < capacity)
    (hcapacity : capacity < 2 ^ 64) (hend : s.endSeq < 2 ^ 64) :
    RingFile.reread ⟨headerLen + capacity, f⟩ =
      .ok (⟨capacity, start, s.endSeq, s.state, formatVersion⟩, s.endSeq,
        s.bytes.drop (start - s.base)) := by
  have hsize : s.endSeq - start ≤ capacity := Nat.sub_le_iff_le_add'.2 h.fits
  have hoffset := Nat.mod_lt start hpos
  have hbytes := (read_around hpos hsize fun q hq hlt =>
    h.data q hq (by have := h.upper; omega)).trans (drop_eq_map_byte s h.lower h.upper)
  have hadopt : RingFile.adopt ⟨headerLen + capacity, f⟩ =
      .ok ⟨capacity, 0, 0, List.replicate stateLen 0, 0⟩ := by
    rw [RingFile.adopt, if_neg (by dsimp only; omega), Nat.add_sub_cancel_left]
  have hwindow : RingFile.readWindow ⟨headerLen + capacity, f⟩ capacity
      ⟨formatVersion, start, s.endSeq, s.state⟩ = .ok (s.bytes.drop (start - s.base)) := by
    rw [RingFile.readWindow, MemFile.readExactAt, MemFile.readExactAt,
      if_pos (by dsimp only; omega), if_pos (by dsimp only; omega)]
    exact congrArg Except.ok hbytes
  rw [RingFile.reread, hadopt]
  show RingFile.read _ _ = _
  rw [RingFile.read, MemFile.readExactAt, if_pos (Nat.zero_add _ ▸ Nat.le_add_right ..)]
  show (RingFile.parseHeader capacity _ >>= _) = _
  rw [h.parseHeader hcapacity hend]
  show (Except.mapError _ (RingFile.readWindow _ capacity _) >>= _) = _
  rw [hwindow]
  rfl

lemma length_window (r : RingFile) (start endSeq : Nat) :
    (r.window start endSeq).length = 24 := by
  simp [RingFile.window, length_toLe]

lemma write_header (h : w.offset + w.bytes.length ≤ headerLen) :
    write f w (headerLen + i) = f (headerLen + i) :=
  write_of_ge (h.trans (Nat.le_add_right ..))

lemma Intact.publish
    (hfixed : ByteFile.read f 0 windowAt =
      magic ++ toLe 4 formatVersion ++ toLe 4 headerLen ++ toLe 8 r.capacity)
    (hstate : ByteFile.read f stateAt stateLen = s.state) (hlower : s.base ≤ start)
    (hupper : start ≤ s.endSeq) (hfits : s.endSeq ≤ start + r.capacity)
    (hdata : ∀ q, start ≤ q → q < s.endSeq → f (headerLen + q % r.capacity) = s.byte q) :
    Intact r.capacity (write f ⟨windowAt, r.window start s.endSeq⟩) start s := by
  have hlength := length_window r start s.endSeq
  refine ⟨?_, ?_, ?_, hlower, hupper, hfits, fun q hq hlt => ?_⟩
  · rw [read_write_disjoint (.inl (Nat.zero_add _).le), hfixed]
  · have hread := read_write f ⟨windowAt, r.window start s.endSeq⟩
    rwa [hlength] at hread
  · rw [read_write_disjoint (.inr (by rw [hlength]; exact le_refl 48)), hstate]
  · rw [write_header (by rw [hlength]; exact (by decide : windowAt + 24 ≤ headerLen)),
      hdata q hq hlt]

lemma Intact.publishWithState
    (hfixed : ByteFile.read f 0 windowAt =
      magic ++ toLe 4 formatVersion ++ toLe 4 headerLen ++ toLe 8 r.capacity)
    (hstate : s.state.length = stateLen) (hlower : s.base ≤ start)
    (hupper : start ≤ s.endSeq) (hfits : s.endSeq ≤ start + r.capacity)
    (hdata : ∀ q, start ≤ q → q < s.endSeq → f (headerLen + q % r.capacity) = s.byte q) :
    Intact r.capacity (write f ⟨windowAt, r.window start s.endSeq ++ s.state⟩) start s := by
  have hlength : (r.window start s.endSeq ++ s.state).length = 40 := by
    rw [length_append, length_window, hstate]
    rfl
  have hpart {p b q : List UInt8} (h : r.window start s.endSeq ++ s.state = p ++ (b ++ q)) :=
    read_write_part f (w := ⟨windowAt, r.window start s.endSeq ++ s.state⟩) h
  refine ⟨?_, ?_, ?_, hlower, hupper, hfits, fun q hq hlt => ?_⟩
  · rw [read_write_disjoint (.inl (Nat.zero_add _).le), hfixed]
  · have hwindow := hpart (p := []) (nil_append _).symm
    rwa [length_window] at hwindow
  · have hregion := hpart (q := []) (congrArg _ (append_nil _).symm)
    rwa [length_window, hstate] at hregion
  · rw [write_header (by rw [hlength]; exact (by decide : windowAt + 40 ≤ headerLen)),
      hdata q hq hlt]

lemma Intact.reset (f : Contents) (seq : Nat) (hstate : r.state.length = stateLen) :
    Intact r.capacity (writeAll f (r.reset seq).2) seq ⟨seq, [], r.state⟩ := by
  have hfixed : (magic ++ toLe 4 formatVersion ++ toLe 4 headerLen ++
      toLe 8 r.capacity).length = windowAt := by
    simp only [length_append, length_toLe]
    rfl
  have hpart {p b q : List UInt8} (h : magic ++ toLe 4 formatVersion ++ toLe 4 headerLen ++
      toLe 8 r.capacity ++ (r.window seq seq ++ r.state) = p ++ (b ++ q)) :=
    read_write_part f (w := ⟨0, magic ++ toLe 4 formatVersion ++ toLe 4 headerLen ++
      toLe 8 r.capacity ++ (r.window seq seq ++ r.state)⟩) h
  refine ⟨?_, ?_, ?_, le_refl seq, le_refl seq, Nat.le_add_right .., fun q hq hlt => ?_⟩
  · have hheader := hpart (p := []) (nil_append _).symm
    rwa [hfixed] at hheader
  · have hwindow := hpart rfl
    rwa [hfixed, length_window, Nat.zero_add] at hwindow
  · have hregion := hpart (b := r.state) (q := []) (by
      rw [append_nil, ← append_assoc])
    rwa [length_append, hfixed, length_window, hstate, Nat.zero_add] at hregion
  · exact absurd hq (Nat.not_le.2 hlt)

lemma passes_writeData (hpos : 0 < r.capacity)
    (hlength : bytes.length ≤ r.capacity) :
    Passes
      (fun g => ∀ i, (∀ j < bytes.length, i ≠ headerLen + (seq + j) % r.capacity) → g i = f i)
      (fun g => (∀ i, (∀ j < bytes.length, i ≠ headerLen + (seq + j) % r.capacity) → g i = f i) ∧
        ∀ j < bytes.length, g (headerLen + (seq + j) % r.capacity) = bytes.getD j 0)
      f (r.writeData seq bytes).2 := by
  have hoffset := Nat.mod_lt seq hpos
  unfold RingFile.writeData
  dsimp only
  generalize hfirst : min bytes.length (r.capacity - seq % r.capacity) = first
  -- Up to `first` the slots follow each other; from there on they start over.
  have hlow : ∀ j < first, (seq + j) % r.capacity = seq % r.capacity + j := fun j hj =>
    add_mod_of_lt (by omega)
  have hhigh : ∀ j, first ≤ j → j < bytes.length → (seq + j) % r.capacity = j - first := by
    intro j hj hlt
    rw [add_mod_of_ge (by omega) hpos (by omega)]
    omega
  have htake : (bytes.take first).length = first := by
    rw [length_take]
    omega
  have hkeeps : ∀ i, (∀ j < bytes.length, i ≠ headerLen + (seq + j) % r.capacity) →
      write f ⟨headerLen + seq % r.capacity, bytes.take first⟩ i = f i := by
    intro i hi
    refine (write_cases).resolve_right ?_
    rintro ⟨j, hj, rfl⟩
    rw [htake] at hj
    exact hi j (by omega) (by rw [hlow j hj, Nat.add_assoc])
  have hvalue : ∀ j < first, write f ⟨headerLen + seq % r.capacity, bytes.take first⟩
      (headerLen + (seq + j) % r.capacity) = bytes.getD j 0 := by
    intro j hj
    have hwrite := write_at (f := f) (w := ⟨headerLen + seq % r.capacity, bytes.take first⟩)
      (i := j) (by rw [htake]; exact hj)
    rw [hlow j hj, ← Nat.add_assoc, hwrite, getD_eq_getElem?_getD, List.getElem?_take,
      if_pos hj, getD_eq_getElem?_getD]
  split
  · rename_i hmore
    refine Passes.append (K := fun g =>
      (∀ i, (∀ j < bytes.length, i ≠ headerLen + (seq + j) % r.capacity) → g i = f i) ∧
      ∀ j < first, g (headerLen + (seq + j) % r.capacity) = bytes.getD j 0)
      (.single (fun _ _ => rfl) ⟨hkeeps, hvalue⟩) fun g ⟨hg, hgvalue⟩ =>
        .single hg ⟨fun i hi => ?_, fun j hj => ?_⟩
    · refine ((write_cases).resolve_right ?_).trans (hg i hi)
      rintro ⟨j, hj, rfl⟩
      rw [length_drop] at hj
      refine hi (first + j) (by omega) ?_
      rw [hhigh (first + j) (Nat.le_add_right ..) (by omega), Nat.add_sub_cancel_left]
    · by_cases hlt : j < first
      · rw [write_of_ge, hgvalue j hlt]
        rw [hlow j hlt, length_drop]
        dsimp only
        omega
      · have hwrite := write_at (f := g) (w := ⟨headerLen, bytes.drop first⟩) (i := j - first)
          (by rw [length_drop]; omega)
        rw [hhigh j (Nat.not_lt.1 hlt) hj, hwrite, getD_eq_getElem?_getD, List.getElem?_drop,
          Nat.add_sub_cancel' (Nat.not_lt.1 hlt), getD_eq_getElem?_getD]
  · rename_i hall
    exact .single (fun _ _ => rfl) ⟨hkeeps, fun j hj => hvalue j (by omega)⟩

lemma Intact.keep (h : Intact capacity f start s)
    (hg : ∀ i, (∀ j < n, i ≠ headerLen + (seq + j) % capacity) → g i = f i)
    (hnear : ∀ q, start ≤ q → q < s.endSeq → q < seq ∧ seq + n ≤ q + capacity) :
    Intact capacity g start s := by
  have hheader : ∀ offset n, offset + n ≤ headerLen →
      ByteFile.read g offset n = ByteFile.read f offset n := by
    intro offset n hle
    refine map_congr_left fun i hi => hg _ fun j _ heq => ?_
    have hi := List.mem_range.1 hi
    omega
  refine ⟨?_, ?_, ?_, h.lower, h.upper, h.fits, fun q hq hlt => ?_⟩
  · rw [hheader 0 windowAt (by decide), h.fixed]
  · rw [hheader windowAt 24 (by decide), h.window]
  · rw [hheader stateAt stateLen (by decide), h.state]
  · obtain ⟨hless, hle⟩ := hnear q hq hlt
    rw [hg _ fun j hj heq => ?_, h.data q hq hlt]
    refine mod_ne_of_near (show q < seq + j by omega) (show seq + j < q + capacity by omega) ?_
    omega

/-- What a process keeps is what its file says. -/
structure Keeps (r : RingFile) (f : Contents) (s : Stream) : Prop where
  endSeq : r.endSeq = s.endSeq
  state : r.state = s.state
  length : s.state.length = stateLen
  version : r.version = formatVersion
  intact : Intact r.capacity f r.start s

lemma Keeps.retire (h : Keeps r f s) (hstart : r.start ≤ start) :
    Passes (fun g => ∃ start, Intact r.capacity g start s)
      (fun g => Intact r.capacity g (r.retire start).1.start s) f (r.retire start).2 ∧
    (r.retire start).1 = { r with start := (r.retire start).1.start } ∧
    (r.retire start).1.start ≤ start ∧
    (start ≤ (r.retire start).1.start ∨ (r.retire start).1.start = s.endSeq) := by
  have hintact := h.intact
  unfold RingFile.retire
  split
  · rename_i hlt
    have hupper := hintact.upper
    refine ⟨.single ⟨_, hintact⟩ ?_, rfl, Nat.min_le_left .., ?_⟩
    · rw [h.endSeq]
      exact .publish hintact.fixed hintact.state (hintact.lower.trans (le_min hlt.le hupper))
        (Nat.min_le_right ..) (hintact.fits.trans (Nat.add_le_add_right (le_min hlt.le hupper) _))
        fun q hq => hintact.data q ((le_min hlt.le hupper).trans hq)
    · show start ≤ min start r.endSeq ∨ min start r.endSeq = s.endSeq
      rw [h.endSeq]
      omega
  · rename_i hle
    exact ⟨.nil hintact, rfl, hstart, .inl (Nat.not_lt.1 hle)⟩

lemma Keeps.extend {state : Option (List UInt8)} (h : Keeps r f s) (hpos : 0 < r.capacity)
    (hbound : s.endSeq + chunk.length < 2 ^ 64)
    (hstate : ∀ region ∈ state, region.length = stateLen) :
    Passes (fun g => ∃ start, Intact r.capacity g start s)
      (fun g => Keeps (r.extend s.endSeq chunk state).1 g (s.extend chunk state)) f
      (r.extend s.endSeq chunk state).2 := by
  have hend : RingFile.saturatingAdd s.endSeq chunk.length = s.endSeq + chunk.length :=
    min_eq_left (Nat.le_sub_one_of_lt hbound)
  have hupper := h.intact.upper
  have hlower := h.intact.lower
  unfold RingFile.extend
  dsimp only
  rw [hend]
  generalize hstart : max r.start (s.endSeq + chunk.length - r.capacity) = start
  generalize hkept : chunk.drop (chunk.length - r.capacity) = kept
  have hlength : kept.length = min chunk.length r.capacity := by
    rw [← hkept, length_drop]
    omega
  generalize hfrom : s.endSeq + chunk.length - kept.length = seq
  obtain ⟨hretire, hr, hle, hor⟩ := h.retire (show r.start ≤ start by omega)
  generalize (r.retire start).1.start = start' at *
  unfold Written.andThen
  dsimp only
  rw [hr]
  refine .append (K := fun g => Intact r.capacity g start' s ∧
    ∀ j < kept.length, g (headerLen + (seq + j) % r.capacity) = kept.getD j 0)
    (.append hretire fun g hg => ?_) fun g ⟨hg, hvalue⟩ => ?_
  · -- No slot of the window that is left is written.
    have hnear : ∀ q, start' ≤ q → q < s.endSeq → q < seq ∧ seq + kept.length ≤ q + r.capacity := by
      omega
    exact (passes_writeData (r := { r with start := start' }) hpos
      (hlength.trans_le (Nat.min_le_right ..))).mono
      (fun g' hg' => ⟨_, hg.keep hg' hnear⟩)
      fun g' hg' => ⟨hg.keep hg'.1 hnear, hg'.2⟩
  · have hseq := Stream.endSeq_extend chunk state s
    have hdata : ∀ q, start ≤ q → q < (s.extend chunk state).endSeq →
        g (headerLen + q % r.capacity) = (s.extend chunk state).byte q := by
      intro q hq hlt
      by_cases hold : q < s.endSeq
      · rw [Stream.byte_extend_of_lt hold (by omega), hg.data q (by omega) hold]
      · have hslot := hvalue (q - seq) (by omega)
        rw [Nat.add_sub_cancel' (by omega), ← hkept, getD_eq_getElem?_getD,
          List.getElem?_drop] at hslot
        rw [hslot, Stream.byte_extend_of_ge (Nat.not_lt.1 hold), getD_eq_getElem?_getD]
        congr 2
        omega
    have hbase : (s.extend chunk state).base ≤ start := hlower.trans (by omega)
    have hup : start ≤ (s.extend chunk state).endSeq := by omega
    have hfits : (s.extend chunk state).endSeq ≤ start + r.capacity := by omega
    rw [← hseq]
    dsimp only [RingFile.writeData]
    cases state with
    | none =>
      have hpublish := Intact.publish (s := s.extend chunk none) hg.fixed hg.state hbase hup hfits
        hdata
      exact .single ⟨_, hg⟩ ⟨rfl, h.state, h.length, h.version, hpublish⟩
    | some state =>
      have hregion : state.length = stateLen := hstate state rfl
      have hpublish := Intact.publishWithState (s := s.extend chunk (some state)) hg.fixed hregion
        hbase hup hfits hdata
      unfold RingFile.publishWithState Written.andThen
      dsimp only
      rw [if_neg (not_not_intro h.version)]
      exact .single ⟨_, hg⟩ ⟨rfl, rfl, hregion, h.version, hpublish⟩

inductive RingOp where
  | append (seq : Nat) (bytes : List UInt8) (state : Option (List UInt8))
  | reset (seq : Nat)

namespace RingOp

def run : RingOp → RingFile → Written
  | append seq bytes state => RingFile.appendWithState seq bytes state
  | reset seq => RingFile.reset seq

def apply : RingOp → Stream → Stream
  | append seq bytes state => Stream.append seq bytes state
  | reset seq => Stream.reset seq

def Fits : RingOp → Prop
  | append seq bytes state => seq + bytes.length < 2 ^ 64 ∧ ∀ region ∈ state,
      region.length = stateLen
  | reset seq => seq < 2 ^ 64

def runAll : List RingOp → RingFile → Written
  | [], r => (r, [])
  | op :: ops, r => (op.run r).andThen (runAll ops)

def applyAll (ops : List RingOp) (s : Stream) : Stream := ops.foldl (fun s op => op.apply s) s

end RingOp

/-- What can be read with some operations to come: what the ones before them left or, if the next
one does not start where that ends, nothing. -/
inductive Readable (s : Stream) : List RingOp → Stream → Prop
  | completed (rest : List RingOp) : Readable s rest s
  | gap (state : Option (List UInt8)) (rest : List RingOp) (hbytes : bytes ≠ [])
      (hseq : seq ≠ s.endSeq) : Readable s (.append seq bytes state :: rest) (s.reset seq)

lemma Keeps.reset (h : Keeps r f s) (seq : Nat) :
    Keeps (r.reset seq).1 (writeAll f (r.reset seq).2) (s.reset seq) := by
  have hstate := h.state
  have hlength := h.length
  refine ⟨rfl, hstate, hlength, rfl, ?_⟩
  rw [Stream.reset, ← hstate]
  exact .reset f seq (hstate ▸ hlength)

lemma Keeps.run (h : Keeps r f s) (rest : List RingOp) (hpos : 0 < r.capacity) {op : RingOp}
    (hop : op.Fits) :
    Passes (fun g => ∃ start st, Readable s (op :: rest) st ∧ Intact r.capacity g start st)
      (fun g => Keeps (op.run r).1 g (op.apply s)) f (op.run r).2 := by
  cases op with
  | reset seq => exact .single ⟨_, _, .completed _, h.intact⟩ (h.reset seq)
  | append seq bytes state =>
    obtain ⟨hbound, hstate⟩ := hop
    show Passes _ (fun g => Keeps (RingFile.appendWithState seq bytes state r).1 g
      (Stream.append seq bytes state s)) f (RingFile.appendWithState seq bytes state r).2
    unfold RingFile.appendWithState Stream.append
    rw [h.endSeq]
    split
    · exact .nil h
    · rename_i hbytes
      split
      · rename_i hseq
        refine .append (K := fun g => Keeps (r.reset seq).1 g (s.reset seq))
          (.single ⟨_, _, .completed _, h.intact⟩ (h.reset seq)) fun g hg => ?_
        exact (hg.extend hpos hbound hstate).mono
          (fun g ⟨start, hg⟩ => ⟨start, _, .gap state rest hbytes hseq, hg⟩) fun _ hg => hg
      · rename_i hseq
        rw [not_not] at hseq
        subst hseq
        exact (h.extend hpos hbound hstate).mono
          (fun g ⟨start, hg⟩ => ⟨start, _, .completed _, hg⟩) fun _ hg => hg

lemma capacity_extend : (r.extend seq bytes state).1.capacity = r.capacity := by
  have hretire : ∀ start, (r.retire start).1.capacity = r.capacity := by
    intro start
    unfold RingFile.retire
    split <;> rfl
  have hpublish : ∀ start endSeq state (r : RingFile),
      (r.publishWithState start endSeq state).1.capacity = r.capacity := by
    intro start endSeq state r
    unfold RingFile.publishWithState Written.andThen
    dsimp only
    split <;> rfl
  cases state with
  | none => exact hretire _
  | some state => exact (hpublish ..).trans (hretire _)

lemma RingOp.capacity_run (op : RingOp) : (op.run r).1.capacity = r.capacity := by
  cases op with
  | reset seq => rfl
  | append seq bytes state =>
    show (RingFile.appendWithState seq bytes state r).1.capacity = r.capacity
    unfold RingFile.appendWithState
    split
    · rfl
    · split
      · exact capacity_extend
      · exact capacity_extend

lemma RingOp.endSeq_apply {op : RingOp} (hop : op.Fits) (hend : s.endSeq < 2 ^ 64) :
    (op.apply s).endSeq < 2 ^ 64 := by
  cases op with
  | reset seq => exact hop
  | append seq bytes state =>
    by_cases hbytes : bytes = []
    · rwa [apply, Stream.append, if_pos hbytes]
    · exact (Stream.endSeq_append hbytes ..).trans_lt hop.1

lemma Readable.endSeq_lt (h : Readable s ops st) (hops : ∀ op ∈ ops, op.Fits)
    (hend : s.endSeq < 2 ^ 64) : st.endSeq < 2 ^ 64 := by
  cases h with
  | completed => exact hend
  | gap state rest =>
    exact Nat.lt_of_le_of_lt (Nat.le_add_right ..) (hops _ mem_cons_self).1

/-- Where a run stopped after `n` writes is: what it completed, and what is to come, of which the
first is in flight. -/
structure StoppedAt (r : RingFile) (ops : List RingOp) (n : Nat) (completed rest : List RingOp) :
    Prop where
  split : ops = completed ++ rest
  past : (RingOp.runAll completed r).2.length ≤ n
  inFlight : ∀ op ∈ rest.head?, n < (RingOp.runAll (completed ++ [op]) r).2.length

lemma Keeps.runAll (h : Keeps r f s) (hpos : 0 < r.capacity) (hend : s.endSeq < 2 ^ 64)
    (hops : ∀ op ∈ ops, op.Fits) (n : Nat) :
    ∃ completed rest start st, StoppedAt r ops n completed rest ∧
      Readable (RingOp.applyAll completed s) rest st ∧ st.endSeq < 2 ^ 64 ∧
      Intact r.capacity (writeAll f ((RingOp.runAll ops r).2.take n)) start st := by
  induction ops generalizing r f s n with
  | nil =>
    refine ⟨[], [], r.start, s, ⟨rfl, Nat.zero_le n, fun _ => nofun⟩, .completed [], hend, ?_⟩
    rw [RingOp.runAll, take_nil]
    exact h.intact
  | cons op ops ih =>
    have hop := hops op mem_cons_self
    obtain ⟨hthrough, hends⟩ := h.run ops hpos hop
    by_cases hn : n < (op.run r).2.length
    · obtain ⟨start, st, hst, hintact⟩ := hthrough n hn
      refine ⟨[], op :: ops, start, st, ⟨rfl, Nat.zero_le n, ?_⟩, hst, hst.endSeq_lt hops hend, ?_⟩
      · rintro _ ⟨⟩
        exact hn.trans_le (length_append ▸ Nat.le_add_right ..)
      · rwa [RingOp.runAll, Written.andThen, take_append_of_le_length hn.le]
    · have hlength := Nat.not_lt.1 hn
      obtain ⟨completed, rest, start, st, hstop, hst, hlt, hintact⟩ := ih hends
        ((op.capacity_run).symm ▸ hpos) (RingOp.endSeq_apply hop hend)
        (fun op' hop' => hops op' (mem_cons_of_mem op hop')) (n - (op.run r).2.length)
      refine ⟨op :: completed, rest, start, st, ⟨congrArg (op :: ·) hstop.split, ?_, ?_⟩, hst, hlt,
        ?_⟩
      · have hpast := hstop.past
        rw [RingOp.runAll, Written.andThen, length_append]
        omega
      · intro op' hop'
        have hflight := hstop.inFlight op' hop'
        rw [cons_append, RingOp.runAll, Written.andThen, length_append]
        omega
      · rw [RingOp.runAll, Written.andThen, take_append, take_of_length_le hlength,
          writeAll_append, ← op.capacity_run]
        exact hintact

def Stream.new : Stream := ⟨0, [], List.replicate stateLen 0⟩

lemma keeps_create : Keeps (RingFile.create capacity).1
    ((RingFile.createFile capacity).after (RingFile.create capacity).2).contents .new :=
  ⟨rfl, rfl, rfl, rfl, .reset _ 0 rfl⟩

def stoppedFile (capacity : Nat) (ops : List RingOp) (n : Nat) : MemFile :=
  ((RingFile.createFile capacity).after (RingFile.create capacity).2).after
    ((RingOp.runAll ops (RingFile.create capacity).1).2.take n)

/-- A ring file read after its writer was killed between any two writes has the bytes of the
completed operations from some number on to their end, with the state they left; or, if the
operation in flight is an append that starts elsewhere, it may have no bytes and end there. -/
theorem stopped_ring_read (hcapacity : capacity < 2 ^ 64) (hops : ∀ op ∈ ops, op.Fits) (n : Nat) :
    ∃ completed rest st r, StoppedAt (RingFile.create capacity).1 ops n completed rest ∧
      Readable (RingOp.applyAll completed .new) rest st ∧
      RingFile.reread (stoppedFile capacity ops n) =
        .ok (r, st.endSeq, st.bytes.drop (r.start - st.base)) ∧
      r.endSeq = st.endSeq ∧ st.base ≤ r.start ∧ r.start ≤ r.endSeq ∧ r.state = st.state ∧
      ∀ state mark, st.state = TerminalState.encode state mark →
        state.privateModes ⊆ trackedPrivateModes → r.terminalState = some state := by
  have hpos : 0 < max capacity 1 := by omega
  have hlt : max capacity 1 < 2 ^ 64 := by omega
  obtain ⟨completed, rest, start, st, hstop, hst, hend, hintact⟩ :=
    (keeps_create).runAll hpos (by decide) hops n
  refine ⟨completed, rest, st, _, hstop, hst, hintact.reread hpos hlt hend, rfl, hintact.lower,
    hintact.upper, rfl, ?_⟩
  intro state mark hstate htracked
  have hdecode := TerminalState.decode_encode htracked mark
  rw [RingFile.terminalState, if_pos rfl, hstate, hdecode]

/-- Output that wraps and then outgrows the ring, with the state it leaves. -/
def overflowing : List RingOp :=
  [.append 0 [1, 2, 3] none,
    .append 3 [4, 5, 6, 7, 8, 9] (some (TerminalState.encode ⟨true, {1, 2004}⟩ false))]

theorem stopped_ring_read_overflowing : (∀ op ∈ overflowing, op.Fits) ∧
    ∃ completed rest st r, StoppedAt (RingFile.create 4).1 overflowing 4 completed rest ∧
      Readable (RingOp.applyAll completed .new) rest st ∧
      RingFile.reread (stoppedFile 4 overflowing 4) =
        .ok (r, st.endSeq, st.bytes.drop (r.start - st.base)) ∧
      r.endSeq = st.endSeq ∧ st.base ≤ r.start ∧ r.start ≤ r.endSeq ∧ r.state = st.state := by
  have hops : ∀ op ∈ overflowing, op.Fits := by
    rw [overflowing, forall_mem_cons, forall_mem_cons]
    refine ⟨⟨by decide, nofun⟩, ⟨by decide, ?_⟩, nofun⟩
    rintro _ ⟨⟩
    exact TerminalState.length_encode ..
  obtain ⟨completed, rest, st, r, hstop, hst, hread, hend, hlower, hupper, hstate, -⟩ :=
    stopped_ring_read (show 4 < 2 ^ 64 by decide) hops 4
  exact ⟨hops, completed, rest, st, r, hstop, hst, hread, hend, hlower, hupper, hstate⟩

/-- Output, and then output from further on. -/
def skipping : List RingOp :=
  [.append 0 [0, 1, 2, 3, 4, 5, 6, 7, 8, 9] none, .append 40 [40, 41, 42, 43] none]

/-- Stopped after the header is rewritten, the file ends neither where the completed append does nor
where the one in flight does. -/
theorem gap_append_read_at_its_start :
    StoppedAt (RingFile.create 16).1 skipping 3 (skipping.take 1) (skipping.drop 1) ∧
    (RingOp.applyAll (skipping.take 1) .new).endSeq = 10 ∧
    (RingOp.applyAll skipping .new).endSeq = 44 ∧
    (RingFile.reread (stoppedFile 16 skipping 3)).toOption.map (·.2) = some (40, []) := by
  refine ⟨⟨rfl, by decide +kernel, ?_⟩, rfl, rfl, by decide +kernel⟩
  rintro _ ⟨⟩
  decide +kernel

end Chan.Terminal
