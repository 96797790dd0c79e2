import DefinedQuant.Lib.ByteSource
import DefinedQuant.Lib.Except

/-!
# Bounded binary frames

`BoundedBinaryFrameReader` extracts LF-delimited UTF-8 frames from a descriptor that hands out its
content in pieces of any size. The reader keeps what it has read and not returned in a buffer.
`splitFrame` is the same service over a content that is there from the start, and `read_frame_spec`
says that one call of the reader is one step of it, whatever the pieces were.
-/

namespace StdioFraming

def maxBinaryFrameBytes : ℕ := 2 * 1024 * 1024
def maxBinaryReadBytes : ℕ := 64 * 1024

inductive BinaryFrameErrorCode where
  | frameTooLarge
  | incompleteFrame
  | invalidUtf8
  | readFailed
  | writeFailed
  deriving DecidableEq, Repr

/-- What a call of `read_frame` ends in: a text, the clean end, or a framing error. -/
abbrev FrameOutcome := Except BinaryFrameErrorCode (Option Text)

/-- The octet between frames. -/
def lineFeed : Byte := 10

/-- `bytes.find(b"\n")`, with `none` for -1. -/
def findLineFeed (bytes : Bytes) : Option ℕ := bytes.findIdx? (· == lineFeed)

/-- `content.decode("utf-8", errors="strict")` with its failure as a frame error. -/
def decodeFrame (content : Bytes) : FrameOutcome :=
  match utf8Decode content with
  | some text => .ok (some text)
  | none => .error .invalidUtf8

/-! ## The reader -/

/-- A maximum that the constructor accepts. -/
structure FrameLimit where
  bytes : ℕ
  positive : 0 < bytes
  frozen : bytes ≤ maxBinaryFrameBytes

structure BoundedBinaryFrameReader where
  maximumBytes : FrameLimit
  buffer : Bytes
  eof : Bool

/-- `BoundedBinaryFrameReader.__init__`: `none` for the `ValueError` of a limit outside the frozen
range. -/
def BoundedBinaryFrameReader.init (maximumBytes : ℕ) : Option BoundedBinaryFrameReader :=
  if h : 0 < maximumBytes ∧ maximumBytes ≤ maxBinaryFrameBytes then
    some { maximumBytes := ⟨maximumBytes, h.1, h.2⟩, buffer := [], eof := false }
  else none

/-- The readers that can be constructed are the fresh ones with a limit in the frozen range. -/
theorem BoundedBinaryFrameReader.init_eq_some {maximumBytes : ℕ}
    {reader : BoundedBinaryFrameReader} :
    init maximumBytes = some reader ↔ ∃ limit : FrameLimit, limit.bytes = maximumBytes ∧
      reader = { maximumBytes := limit, buffer := [], eof := false } := by
  unfold init
  constructor
  · intro h
    split_ifs at h with hRange
    cases h
    exact ⟨⟨maximumBytes, hRange.1, hRange.2⟩, rfl, rfl⟩
  · rintro ⟨limit, rfl, rfl⟩
    rw [dif_pos ⟨limit.positive, limit.frozen⟩]

/-- What the callable given to the reader may do. -/
inductive ReadOutcome where
  | bytes (chunk : Bytes)
  /-- It returned something that is not `bytes`. -/
  | notBytes
  /-- It raised a `BinaryFrameError`. -/
  | frameError (code : BinaryFrameErrorCode)
  /-- It raised any other exception. -/
  | exception

/-- One pass of the loop of `read_frame`: it ends the call or changes the reader and goes on. -/
inductive Pass (σ : Type) where
  | ends (outcome : FrameOutcome) (reader : BoundedBinaryFrameReader) (s : σ)
  | again (reader : BoundedBinaryFrameReader) (s : σ)

variable {σ : Type}

/-- The part of a pass after the buffer was found to hold no whole frame: ask for more. -/
def receive (read : ℕ → σ → ReadOutcome × σ) (reader : BoundedBinaryFrameReader) (s : σ) : Pass σ :=
  let requested := min maxBinaryReadBytes (reader.maximumBytes.bytes - reader.buffer.length)
  match read requested s with
  | (.frameError code, s) => .ends (.error code) reader s
  | (.exception, s) => .ends (.error .readFailed) reader s
  | (.notBytes, s) => .ends (.error .readFailed) reader s
  | (.bytes chunk, s) =>
      if requested < chunk.length then .ends (.error .readFailed) reader s
      else if chunk = [] then .again { reader with eof := true } s
      else .again { reader with buffer := reader.buffer ++ chunk } s

/-- The body of the loop of `read_frame`. -/
def pass (read : ℕ → σ → ReadOutcome × σ) (reader : BoundedBinaryFrameReader) (s : σ) : Pass σ :=
  match findLineFeed reader.buffer with
  | some newline =>
      if reader.maximumBytes.bytes < newline + 1 then .ends (.error .frameTooLarge) reader s
      else
        .ends (decodeFrame (reader.buffer.take newline))
          { reader with buffer := reader.buffer.drop (newline + 1) } s
  | none =>
      if reader.maximumBytes.bytes ≤ reader.buffer.length then .ends (.error .frameTooLarge)
        reader s
      else if reader.eof then
        if reader.buffer ≠ [] then .ends (.error .incompleteFrame) reader s
        else .ends (.ok none) reader s
      else receive read reader s

/-- How many passes may still go on: room in the buffer, and the end of the file to be noticed. -/
def BoundedBinaryFrameReader.remaining (reader : BoundedBinaryFrameReader) : ℕ :=
  (reader.maximumBytes.bytes - reader.buffer.length) + (if reader.eof then 0 else 1)

/-- What a pass that goes on did: it met the end of the file, or took in some octets for which the
buffer has room. -/
theorem pass_again {read : ℕ → σ → ReadOutcome × σ} {reader reader' : BoundedBinaryFrameReader}
    {s s' : σ} (h : pass read reader s = .again reader' s') :
    findLineFeed reader.buffer = none ∧ reader.buffer.length < reader.maximumBytes.bytes ∧
      reader.eof = false ∧ ∃ requested chunk,
        requested = min maxBinaryReadBytes (reader.maximumBytes.bytes - reader.buffer.length) ∧
        read requested s = (.bytes chunk, s') ∧ chunk.length ≤ requested ∧
        reader' = if chunk = [] then { reader with eof := true }
          else { reader with buffer := reader.buffer ++ chunk } := by
  -- The ways through one pass of the loop; only one of them goes again.
  unfold pass at h
  split at h
  · split at h <;> cases h
  · next hFind =>
    split at h
    · cases h
    · next hRoom =>
      split at h
      · split at h <;> cases h
      · next hEof =>
        refine ⟨hFind, not_le.1 hRoom, by simpa using hEof, ?_⟩
        unfold receive at h
        dsimp only at h
        split at h
        · cases h
        · cases h
        · cases h
        · next chunk _ hRead =>
          split at h
          · cases h
          · next hFits =>
            by_cases hChunk : chunk = []
            · rw [if_pos hChunk] at h
              cases h
              exact ⟨_, chunk, rfl, hRead, not_lt.1 hFits, by rw [if_pos hChunk]⟩
            · rw [if_neg hChunk] at h
              cases h
              exact ⟨_, chunk, rfl, hRead, not_lt.1 hFits, by rw [if_neg hChunk]⟩

/-- A pass that goes again comes nearer to the limit. -/
theorem remaining_of_pass_again {read : ℕ → σ → ReadOutcome × σ}
    {reader reader' : BoundedBinaryFrameReader} {s s' : σ}
    (h : pass read reader s = .again reader' s') : reader'.remaining < reader.remaining := by
  obtain ⟨-, hRoom, hEof, _, chunk, -, -, -, rfl⟩ := pass_again h
  by_cases hChunk : chunk = []
  · rw [if_pos hChunk]
    simp [BoundedBinaryFrameReader.remaining, hEof]
  · have hPos : 0 < chunk.length := List.length_pos_of_ne_nil hChunk
    rw [if_neg hChunk]
    simp only [BoundedBinaryFrameReader.remaining, hEof, List.length_append]
    omega

/-- `read_frame`: pass after pass until one ends the call. It always ends, since a pass that goes on
fills the buffer or meets the end of the file. -/
def readFrame (read : ℕ → σ → ReadOutcome × σ) (reader : BoundedBinaryFrameReader) (s : σ) :
    FrameOutcome × BoundedBinaryFrameReader × σ :=
  match _h : pass read reader s with
  | .ends outcome reader s => (outcome, reader, s)
  | .again reader s => readFrame read reader s
termination_by reader.remaining
decreasing_by exact remaining_of_pass_again _h

/-- The outcomes of a number of calls in a row. -/
def readFrames (read : ℕ → σ → ReadOutcome × σ) :
    ℕ → BoundedBinaryFrameReader → σ → List FrameOutcome
  | 0, _, _ => []
  | calls + 1, reader, s =>
      let (outcome, reader, s) := readFrame read reader s
      outcome :: readFrames read calls reader s

/-- `utf8_lf_frame`: `none` for the `ValueError` of a text with a line break, or one without a UTF-8
form. -/
def utf8LfFrame (text : Text) : Option Bytes :=
  if CodePoint.ofChar '\r' ∈ text ∨ CodePoint.ofChar '\n' ∈ text then none
  else (utf8 text).map (· ++ [lineFeed])

/-! ## The splitter -/

/-- The first frame of a content that is there from the start, and what is left of it. -/
def splitFrame (maximum : ℕ) (content : Bytes) : FrameOutcome × Bytes :=
  match findLineFeed (content.take maximum) with
  | some newline => (decodeFrame (content.take newline), content.drop (newline + 1))
  | none =>
      if maximum ≤ content.length then (.error .frameTooLarge, content)
      else if content ≠ [] then (.error .incompleteFrame, content)
      else (.ok none, content)

/-- The outcomes of splitting off a number of frames in a row. -/
def splitFrames (maximum : ℕ) : ℕ → Bytes → List FrameOutcome
  | 0, _ => []
  | calls + 1, content =>
      let (outcome, content) := splitFrame maximum content
      outcome :: splitFrames maximum calls content

/-! ## Finding the line feed -/

/-- No line feed is found when there is none. -/
theorem findLineFeed_eq_none_iff {bytes : Bytes} : findLineFeed bytes = none ↔
    lineFeed ∉ bytes := by
  rw [findLineFeed, List.findIdx?_eq_none_iff]
  constructor
  · intro h hMem
    simpa using h _ hMem
  · intro h b hb
    rw [beq_eq_false_iff_ne]
    exact fun hEq => h (hEq ▸ hb)

/-- The first line feed stands right after the octets before it. -/
theorem findLineFeed_append {content rest : Bytes} (h : lineFeed ∉ content) :
    findLineFeed (content ++ lineFeed :: rest) = some content.length := by
  have hNone : content.findIdx? (· == lineFeed) = none := findLineFeed_eq_none_iff.2 h
  rw [findLineFeed, List.findIdx?_append, hNone, List.findIdx?_cons]
  simp

/-- The line feed that is found is the first. -/
theorem exists_of_findLineFeed {bytes : Bytes} {newline : ℕ}
    (h : findLineFeed bytes = some newline) :
    ∃ content rest, bytes = content ++ lineFeed :: rest ∧ lineFeed ∉ content ∧
      content.length = newline := by
  have hMem : lineFeed ∈ bytes := by
    by_contra hNot
    rw [findLineFeed_eq_none_iff.2 hNot] at h
    cases h
  obtain ⟨content, rest, rfl, hFirst⟩ := List.eq_append_cons_of_mem hMem
  rw [findLineFeed_append hFirst] at h
  exact ⟨content, rest, rfl, hFirst, Option.some.inj h⟩

/-! ## What the splitter does

The maximum counts the line feed, so a frame fits when its octets and the line feed do. -/

/-- A whole line within the limit is split off. -/
theorem splitFrame_frame {maximum : ℕ} {content : Bytes} (hFree : lineFeed ∉ content)
    (hFits : content.length + 1 ≤ maximum) (rest : Bytes) :
    splitFrame maximum (content ++ lineFeed :: rest) = (decodeFrame content, rest) := by
  have hTake : (content ++ lineFeed :: rest).take maximum =
      content ++ lineFeed :: rest.take (maximum - (content.length + 1)) := by
    rw [List.take_append, List.take_of_length_le (by omega),
      show maximum - content.length = maximum - (content.length + 1) + 1 by omega,
      List.take_succ_cons]
  have hDrop : (content ++ lineFeed :: rest).drop (content.length + 1) = rest := by
    rw [List.drop_append, List.drop_eq_nil_of_le (by omega)]
    simp
  rw [splitFrame, hTake, findLineFeed_append hFree]
  simp only
  rw [hDrop, List.take_left']
  rfl

/-- A line beyond the limit is refused and stays. -/
theorem splitFrame_tooLarge {maximum : ℕ} {content : Bytes}
    (hFree : lineFeed ∉ content.take maximum) (hLong : maximum ≤ content.length) :
    splitFrame maximum content = (.error .frameTooLarge, content) := by
  rw [splitFrame, findLineFeed_eq_none_iff.2 hFree]
  simp only
  rw [if_pos hLong]

/-- An open line at the end is refused and stays. -/
theorem splitFrame_incomplete {maximum : ℕ} {content : Bytes} (hFree : lineFeed ∉ content)
    (hShort : content.length < maximum) (hSome : content ≠ []) :
    splitFrame maximum content = (.error .incompleteFrame, content) := by
  rw [splitFrame, List.take_of_length_le hShort.le, findLineFeed_eq_none_iff.2 hFree]
  simp only
  rw [if_neg (not_le.2 hShort), if_pos hSome]

/-- Nothing pending is the end. -/
theorem splitFrame_nil {maximum : ℕ} (hMaximum : 0 < maximum) :
    splitFrame maximum [] = (.ok none, []) := by
  rw [splitFrame, List.take_nil, findLineFeed_eq_none_iff.2 List.not_mem_nil]
  simp only
  rw [if_neg (by simpa using hMaximum.ne'), if_neg (by simp)]

/-! ## One call is one frame of the content -/

/-- A source as the callable of a reader: it returns `bytes` and raises nothing. -/
def deliver (source : ByteSource σ) (requested : ℕ) (s : σ) : ReadOutcome × σ :=
  (.bytes (source.read requested s).1, (source.read requested s).2)

/-- What the reader has still to give: its buffer and what the source holds. -/
def pending (source : ByteSource σ) (reader : BoundedBinaryFrameReader) (s : σ) : Bytes :=
  reader.buffer ++ source.rest s

/-- The buffer holds no more than the maximum, and the reader takes the source to be at its end only
when it is. -/
structure Sound (source : ByteSource σ) (reader : BoundedBinaryFrameReader) (s : σ) : Prop where
  bounded : reader.buffer.length ≤ reader.maximumBytes.bytes
  ended : reader.eof = true → source.rest s = []

/-- A buffer below the limit asks for at least one byte. -/
theorem requested_pos {reader : BoundedBinaryFrameReader}
    (h : reader.buffer.length < reader.maximumBytes.bytes) :
    0 < min maxBinaryReadBytes (reader.maximumBytes.bytes - reader.buffer.length) := by
  rw [maxBinaryReadBytes]
  omega

/-- The buffer stays within the maximum over a pass that goes on, whatever the callable did. -/
theorem bounded_of_pass_again {read : ℕ → σ → ReadOutcome × σ}
    {reader reader' : BoundedBinaryFrameReader} {s s' : σ}
    (h : pass read reader s = .again reader' s') :
    reader'.maximumBytes = reader.maximumBytes ∧
      reader'.buffer.length ≤ reader'.maximumBytes.bytes := by
  obtain ⟨-, hRoom, -, _, chunk, rfl, -, hFits, rfl⟩ := pass_again h
  by_cases hChunk : chunk = []
  · rw [if_pos hChunk]
    exact ⟨rfl, hRoom.le⟩
  · rw [if_neg hChunk]
    refine ⟨rfl, ?_⟩
    have hRequested := hFits.trans (min_le_right _ _)
    simp only [List.length_append]
    omega

/-- A pass that goes on moves octets from the source to the buffer. -/
theorem pending_of_pass_again {source : ByteSource σ} {reader reader' : BoundedBinaryFrameReader}
    {s s' : σ} (h : pass (deliver source) reader s = .again reader' s') :
    reader'.maximumBytes = reader.maximumBytes ∧ Sound source reader' s' ∧
      pending source reader' s' = pending source reader s := by
  obtain ⟨hLimit, hBounded⟩ := bounded_of_pass_again h
  obtain ⟨-, hRoom, hEof, requested, chunk, hRequested, hRead, hFits, hReader⟩ := pass_again h
  have hPos : 0 < requested := hRequested ▸ requested_pos hRoom
  unfold deliver at hRead
  injection hRead with hChunk hRest
  injection hChunk with hChunk
  have hSplit := source.read_append_rest requested s
  rw [hRest, hChunk] at hSplit
  by_cases hNil : chunk = []
  · obtain ⟨hEnd, hEnd'⟩ := source.rest_of_read_eq_nil hPos (hChunk.trans hNil)
    rw [hRest] at hEnd'
    rw [if_pos hNil] at hReader
    refine ⟨hLimit, ⟨hBounded, fun _ => hEnd'⟩, ?_⟩
    rw [hReader, pending, pending, hEnd, hEnd']
  · rw [if_neg hNil] at hReader
    refine ⟨hLimit, ⟨hBounded, fun hEnded => ?_⟩, ?_⟩
    · rw [hReader, hEof] at hEnded
      cases hEnded
    · rw [hReader, pending, pending, ← hSplit, List.append_assoc]

/-- A pass that ends the call does what the splitter does to the content. -/
theorem splitFrame_of_pass_ends {source : ByteSource σ} {reader reader' : BoundedBinaryFrameReader}
    {s s' : σ} {outcome : FrameOutcome} (hSound : Sound source reader s)
    (h : pass (deliver source) reader s = .ends outcome reader' s') :
    reader'.maximumBytes = reader.maximumBytes ∧ Sound source reader' s' ∧
      splitFrame reader.maximumBytes.bytes (pending source reader s) =
        (outcome, pending source reader' s') := by
  have hBounded := hSound.bounded
  unfold pass at h
  split at h
  · next newline hFind =>
    obtain ⟨content, rest, hBuffer, hFree, hLength⟩ := exists_of_findLineFeed hFind
    have hFits : content.length + 1 ≤ reader.maximumBytes.bytes := by
      rw [hBuffer] at hBounded
      simp only [List.length_append, List.length_cons] at hBounded
      omega
    rw [if_neg (by omega)] at h
    have hTake : reader.buffer.take newline = content := by
      rw [hBuffer, ← hLength, List.take_left']; rfl
    have hDrop : reader.buffer.drop (newline + 1) = rest := by
      rw [hBuffer, ← hLength, List.drop_append, List.drop_eq_nil_of_le (by omega)]
      simp
    rw [hTake, hDrop] at h
    injection h with hOutcome hReader hState
    rw [← hReader, ← hState, ← hOutcome]
    refine ⟨rfl, ⟨?_, hSound.ended⟩, ?_⟩
    · rw [hBuffer] at hBounded
      simp only [List.length_append, List.length_cons] at hBounded
      show rest.length ≤ reader.maximumBytes.bytes
      omega
    · rw [pending, hBuffer, List.append_assoc, List.cons_append]
      exact splitFrame_frame hFree hFits _
  · next hFind =>
    have hFree := findLineFeed_eq_none_iff.1 hFind
    by_cases hFull : reader.maximumBytes.bytes ≤ reader.buffer.length
    · rw [if_pos hFull] at h
      cases h
      refine ⟨rfl, hSound, splitFrame_tooLarge ?_ ?_⟩
      · rw [pending, List.take_append_of_le_length hFull, List.take_of_length_le hBounded]
        exact hFree
      · rw [pending, List.length_append]
        omega
    · rw [if_neg hFull] at h
      by_cases hEof : reader.eof = true
      · have hPending : pending source reader s = reader.buffer := by
          rw [pending, hSound.ended hEof, List.append_nil]
        rw [if_pos hEof] at h
        by_cases hSome : reader.buffer ≠ []
        · rw [if_pos hSome] at h
          cases h
          refine ⟨rfl, hSound, ?_⟩
          rw [hPending]
          exact splitFrame_incomplete hFree (not_le.1 hFull) hSome
        · rw [if_neg hSome] at h
          cases h
          refine ⟨rfl, hSound, ?_⟩
          rw [hPending, not_not.1 hSome]
          exact splitFrame_nil reader.maximumBytes.positive
      · rw [if_neg hEof] at h
        -- A source never returns more than it was asked for, so the pass that asks it goes on.
        unfold receive deliver at h
        dsimp only at h
        rw [if_neg (not_lt.2 (source.length_read_le _ _))] at h
        split at h <;> cases h

/-- One call of `read_frame` splits one frame off the content, however the source hands it out. -/
theorem readFrame_spec (source : ByteSource σ) (reader : BoundedBinaryFrameReader) (s : σ)
    (hSound : Sound source reader s) :
    (readFrame (deliver source) reader s).2.1.maximumBytes = reader.maximumBytes ∧
      Sound source (readFrame (deliver source) reader s).2.1 (readFrame (deliver source) reader
        s).2.2 ∧
      splitFrame reader.maximumBytes.bytes (pending source reader s) =
        ((readFrame (deliver source) reader s).1,
          pending source (readFrame (deliver source) reader s).2.1
            (readFrame (deliver source) reader s).2.2) := by
  fun_induction readFrame (deliver source) reader s with
  | case1 reader s outcome reader' s' h => exact splitFrame_of_pass_ends hSound h
  | case2 reader s reader' s' h ih =>
      obtain ⟨hLimit, hSound', hPending⟩ := pending_of_pass_again h
      rw [← hLimit, ← hPending]
      exact ih hSound'

/-- Reading frame after frame is splitting the whole input, however it was delivered; by induction
on the calls. -/
theorem readFrames_eq_splitFrames (source : ByteSource σ) (calls : ℕ)
    (reader : BoundedBinaryFrameReader) (s : σ) (hSound : Sound source reader s) :
    readFrames (deliver source) calls reader s =
      splitFrames reader.maximumBytes.bytes calls (pending source reader s) := by
  induction calls generalizing reader s with
  | zero => rfl
  | succ calls ih =>
      obtain ⟨hLimit, hSound', hSplit⟩ := readFrame_spec source reader s hSound
      rw [readFrames, splitFrames, hSplit]
      show _ :: _ = _ :: _
      rw [ih _ _ hSound', hLimit]

example :
    readFrames (deliver ByteSource.greedy) 3
        { maximumBytes := ⟨4, by decide, by decide⟩, buffer := [], eof := false }
        [97, 98, 99, 10, 255, 10, 100] =
      [.ok (some [97, 98, 99]), .error .invalidUtf8, .error .incompleteFrame] := by
  rw [readFrames_eq_splitFrames _ _ _ _ ⟨Nat.zero_le _, fun h => by cases h⟩]
  decide

/-! ## Encoded frames -/

/-- A line feed comes from no other code point: the octets of the others lie outside ASCII. -/
theorem eq_of_lineFeed_mem_utf8Char {c : CodePoint} (h : lineFeed ∈ utf8Char c) :
    c = CodePoint.ofChar '\n' := by
  have hLt := c.isLt
  have hVal : c.val = 10 := by
    unfold utf8Char at h
    split_ifs at h <;>
      simp only [List.mem_cons, List.not_mem_nil, or_false, Fin.ext_iff, Byte.val_ofNat] at h <;>
      · have hTen : lineFeed.val = 10 := rfl
        omega
  exact Fin.ext hVal

/-- A text that is framed is a line that decodes to it. -/
theorem exists_of_utf8LfFrame {text : Text} {frame : Bytes} (h : utf8LfFrame text = some frame) :
    ∃ content, frame = content ++ [lineFeed] ∧ lineFeed ∉ content ∧
      decodeFrame content = .ok (some text) := by
  unfold utf8LfFrame at h
  by_cases hBreak : CodePoint.ofChar '\r' ∈ text ∨ CodePoint.ofChar '\n' ∈ text
  · rw [if_pos hBreak] at h
    cases h
  · rw [if_neg hBreak, Option.map_eq_some_iff] at h
    obtain ⟨content, hEncoded, rfl⟩ := h
    refine ⟨content, rfl, ?_, ?_⟩
    · obtain ⟨-, rfl⟩ := utf8_eq_some_iff.1 hEncoded
      intro hMem
      obtain ⟨c, hc, hFeed⟩ := List.mem_flatMap.1 hMem
      exact hBreak (.inr (eq_of_lineFeed_mem_utf8Char hFeed ▸ hc))
    · rw [decodeFrame, utf8Decode_of_utf8 hEncoded]

/-- Splitting a concatenation of encoded frames gives the texts back, and then the clean end. -/
theorem splitFrames_of_encoded {maximum : ℕ} (hMaximum : 0 < maximum) {texts : List Text}
    {frames : List Bytes}
    (h : List.Forall₂ (fun text frame => utf8LfFrame text = some frame ∧ frame.length ≤ maximum)
      texts frames) :
    splitFrames maximum (texts.length + 1) frames.flatten =
      texts.map (fun text => .ok (some text)) ++ [.ok none] := by
  induction h with
  | nil => rw [List.flatten_nil, splitFrames, splitFrame_nil hMaximum]; rfl
  | @cons text frame texts frames hHead _ ih =>
      obtain ⟨hFrame, hFits⟩ := hHead
      obtain ⟨content, rfl, hFree, hDecoded⟩ := exists_of_utf8LfFrame hFrame
      have hLength : content.length + 1 ≤ maximum := by simpa using hFits
      have hContent : ((content ++ [lineFeed]) :: frames).flatten =
          content ++ lineFeed :: frames.flatten := by simp
      rw [hContent, List.length_cons, splitFrames, splitFrame_frame hFree hLength, hDecoded]
      show _ :: _ = _ :: _
      rw [ih]
      rfl

/-! ## Every moment of a reader -/

/-- The states that a fresh reader passes through while it is called again and again. -/
inductive Moment (read : ℕ → σ → ReadOutcome × σ) (limit : FrameLimit) :
    BoundedBinaryFrameReader → σ → Prop where
  | fresh (s : σ) : Moment read limit { maximumBytes := limit, buffer := [], eof := false } s
  | again {reader reader' s s'} : Moment read limit reader s →
      pass read reader s = .again reader' s' → Moment read limit reader' s'
  | ends {reader reader' s s' outcome} : Moment read limit reader s →
      pass read reader s = .ends outcome reader' s' → Moment read limit reader' s'

/-- A pass that ends the call takes in nothing. -/
theorem buffer_of_pass_ends {read : ℕ → σ → ReadOutcome × σ}
    {reader reader' : BoundedBinaryFrameReader} {s s' : σ} {outcome : FrameOutcome}
    (h : pass read reader s = .ends outcome reader' s') :
    reader'.maximumBytes = reader.maximumBytes ∧
      reader'.buffer.length ≤ reader.buffer.length := by
  unfold pass receive at h
  dsimp only at h
  split at h
  · split at h
    · cases h
      exact ⟨rfl, le_rfl⟩
    · cases h
      refine ⟨rfl, ?_⟩
      rw [List.length_drop]
      exact Nat.sub_le _ _
  · split_ifs at h
    · cases h
      exact ⟨rfl, le_rfl⟩
    · cases h
      exact ⟨rfl, le_rfl⟩
    · cases h
      exact ⟨rfl, le_rfl⟩
    · split at h
      · cases h
        exact ⟨rfl, le_rfl⟩
      · cases h
        exact ⟨rfl, le_rfl⟩
      · cases h
        exact ⟨rfl, le_rfl⟩
      · split_ifs at h
        cases h
        exact ⟨rfl, le_rfl⟩

/-- The buffer never holds more than the maximum, whatever the callable returns or raises. -/
theorem Moment.bounded {read : ℕ → σ → ReadOutcome × σ} {limit : FrameLimit}
    {reader : BoundedBinaryFrameReader} {s : σ} (h : Moment read limit reader s) :
    reader.maximumBytes = limit ∧ reader.buffer.length ≤ limit.bytes := by
  induction h with
  | fresh s => exact ⟨rfl, Nat.zero_le _⟩
  | again _ hPass ih =>
      obtain ⟨hLimit, hBounded⟩ := bounded_of_pass_again hPass
      rw [hLimit, ih.1] at hBounded
      exact ⟨hLimit.trans ih.1, hBounded⟩
  | ends _ hPass ih =>
      obtain ⟨hLimit, hBuffer⟩ := buffer_of_pass_ends hPass
      exact ⟨hLimit.trans ih.1, hBuffer.trans ih.2⟩

/-- What splitting a content into frames of at most a maximum means, case by case. -/
structure SplitsByLineFeed (maximum : ℕ) (outcomes : ℕ → Bytes → List FrameOutcome) : Prop where
  /-- A frame that fits with its line feed is returned, or refused for its octets alone. -/
  frame : ∀ calls content rest, lineFeed ∉ content → content.length + 1 ≤ maximum →
    outcomes (calls + 1) (content ++ lineFeed :: rest) =
      (match utf8Decode content with
        | some text => .ok (some text)
        | none => .error .invalidUtf8) :: outcomes calls rest
  /-- A stretch of the maximum without a line feed is an error for good. -/
  tooLarge : ∀ calls content, lineFeed ∉ content.take maximum → maximum ≤ content.length →
    outcomes calls content = List.replicate calls (.error .frameTooLarge)
  incomplete : ∀ calls content, lineFeed ∉ content → content.length < maximum → content ≠ [] →
    outcomes calls content = List.replicate calls (.error .incompleteFrame)
  clean : ∀ calls, outcomes calls [] = List.replicate calls (.ok none)

/-- A content that splitting leaves as it is gives one outcome for good. -/
theorem splitFrames_of_stays {maximum : ℕ} {content : Bytes} {outcome : FrameOutcome}
    (h : splitFrame maximum content = (outcome, content)) (calls : ℕ) :
    splitFrames maximum calls content = List.replicate calls outcome := by
  induction calls with
  | zero => rfl
  | succ calls ih =>
      rw [splitFrames, h, List.replicate_succ]
      show _ :: _ = _ :: _
      rw [ih]

/-- Splitting satisfies its specification. -/
theorem splitsByLineFeed_splitFrames {maximum : ℕ} (hMaximum : 0 < maximum) :
    SplitsByLineFeed maximum (splitFrames maximum) where
  frame calls content rest hFree hFits := by
    rw [splitFrames, splitFrame_frame hFree hFits]
    rfl
  tooLarge calls content hFree hLong := splitFrames_of_stays (splitFrame_tooLarge hFree hLong) calls
  incomplete calls content hFree hShort hSome :=
    splitFrames_of_stays (splitFrame_incomplete hFree hShort hSome) calls
  clean calls := splitFrames_of_stays (splitFrame_nil hMaximum) calls

/-- Frame reading does not depend on how the content is handed out: the outcomes of any number of
calls are those of splitting the content, the buffer stays within the maximum, and the frames of
texts read back as the texts. -/
theorem readFrames_independent_of_chunks (limit : FrameLimit) :
    SplitsByLineFeed limit.bytes (splitFrames limit.bytes) ∧
      (∀ (σ : Type) (source : ByteSource σ) (s : σ) (calls : ℕ),
        readFrames (deliver source) calls { maximumBytes := limit, buffer := [], eof := false } s =
          splitFrames limit.bytes calls (source.rest s)) ∧
      (∀ (σ : Type) (read : ℕ → σ → ReadOutcome × σ) (reader : BoundedBinaryFrameReader) (s : σ),
        Moment read limit reader s → reader.buffer.length ≤ limit.bytes) ∧
      ∀ (σ : Type) (source : ByteSource σ) (s : σ) (texts : List Text) (frames : List Bytes),
        List.Forall₂ (fun text frame => utf8LfFrame text = some frame ∧ frame.length ≤ limit.bytes)
            texts frames →
          source.rest s = frames.flatten →
          readFrames (deliver source) (texts.length + 1)
              { maximumBytes := limit, buffer := [], eof := false } s =
            texts.map (fun text => .ok (some text)) ++ [.ok none] := by
  have hReads (σ : Type) (source : ByteSource σ) (s : σ) (calls : ℕ) :
      readFrames (deliver source) calls { maximumBytes := limit, buffer := [], eof := false } s =
        splitFrames limit.bytes calls (source.rest s) :=
    readFrames_eq_splitFrames source calls _ s ⟨Nat.zero_le _, fun h => by cases h⟩
  refine ⟨splitsByLineFeed_splitFrames limit.positive, hReads, ?_, ?_⟩
  · intro σ read reader s hMoment
    exact hMoment.bounded.2
  · intro σ source s texts frames hTexts hContent
    rw [hReads, hContent]
    exact splitFrames_of_encoded limit.positive hTexts

end StdioFraming
