import DefinedQuant.Lib.Json.Scan
import DefinedQuant.Shared.StdioFraming

/-!
# The server's input

`_BoundedAsyncInput` hands the frames of standard input to the server line by line. A frame that is
no JSON is answered with a parse error and passed over; anything else that `json.loads` raises
leaves the iterator and ends it. `answers_every_frame_iff` says which sequences of frames it serves
to the end.
-/

namespace McpServer

open Json StdioFraming

variable {σ : Type} {source : ByteSource σ}

/-! ## The iterator -/

/-- `_BoundedAsyncInput`: its reader and the descriptor behind it. -/
structure BoundedAsyncInput (source : ByteSource σ) where
  reader : BoundedBinaryFrameReader
  descriptor : σ
  sound : Sound source reader descriptor

/-- The limit of a reader that is made without one. -/
def defaultLimit : FrameLimit := ⟨maxBinaryFrameBytes, Nat.succ_pos _, le_rfl⟩

namespace BoundedAsyncInput

/-- `_BoundedAsyncInput.__init__` -/
def init (source : ByteSource σ) (descriptor : σ) : BoundedAsyncInput source where
  reader := { maximumBytes := defaultLimit, buffer := [], eof := false }
  descriptor := descriptor
  sound := ⟨Nat.zero_le _, nofun⟩

/-- What the iterator has still to read. -/
def pending (self : BoundedAsyncInput source) : Bytes :=
  StdioFraming.pending source self.reader self.descriptor

/-- `self._reader.read_frame()` -/
def readFrame (self : BoundedAsyncInput source) : FrameOutcome × BoundedAsyncInput source :=
  let read := StdioFraming.readFrame (deliver source) self.reader self.descriptor
  (read.1, ⟨read.2.1, read.2.2, (readFrame_spec source _ _ self.sound).2.1⟩)

/-- Reading a frame splits it off what is pending. -/
theorem readFrame_eq_splitFrame (self : BoundedAsyncInput source) :
    splitFrame self.reader.maximumBytes.bytes self.pending = (self.readFrame.1,
      self.readFrame.2.pending) :=
  (readFrame_spec source _ _ self.sound).2.2

/-- Reading keeps the limit. -/
theorem readFrame_maximumBytes (self : BoundedAsyncInput source) :
    self.readFrame.2.reader.maximumBytes = self.reader.maximumBytes :=
  (readFrame_spec source _ _ self.sound).1

end BoundedAsyncInput

/-- Splitting a frame off leaves less. -/
theorem length_of_splitFrame {maximum : ℕ} {content rest : Bytes} {text : Text}
    (h : splitFrame maximum content = (.ok (some text), rest)) : rest.length < content.length := by
  unfold splitFrame at h
  split at h
  · next newline hFind =>
    obtain ⟨before, after, hTake, -, hNewline⟩ := exists_of_findLineFeed hFind
    have hShort := congrArg List.length hTake
    rw [List.length_take, List.length_append, List.length_cons] at hShort
    have hRest : content.drop (newline + 1) = rest := congrArg Prod.snd h
    rw [← hRest, List.length_drop]
    omega
  · split_ifs at h
    · cases h
    · cases h
    · cases h

/-- A frame that is read shortens what is pending. -/
theorem BoundedAsyncInput.length_of_readFrame {self next : BoundedAsyncInput source} {text : Text}
    (h : self.readFrame = (.ok (some text), next)) : next.pending.length < self.pending.length := by
  have hSplit : splitFrame self.reader.maximumBytes.bytes self.pending = (.ok (some text),
    next.pending) := by
    rw [readFrame_eq_splitFrame self, h]
  exact length_of_splitFrame hSplit

/-- The answer to a frame that is no JSON. -/
def parseError : Text :=
  py "\x7b\"jsonrpc\":\"2.0\",\"id\":null,\"error\":\x7b\"code\":-32700,\"message\":\"Parse error\"\x7d\x7d\n"

/-- What a call of the iterator raises. -/
inductive Raised where
  | stopAsyncIteration
  | frameError (code : BinaryFrameErrorCode)
  /-- The `ValueError` of an integer of too many digits. -/
  | valueError
  | recursionError
  deriving DecidableEq, Repr

namespace BoundedAsyncInput

variable (depth : ℕ)

/-- `__anext__`: what it writes to the output, and the line that it returns. -/
def anext (self : BoundedAsyncInput source) : List Text × Except Raised Text × BoundedAsyncInput
    source :=
  match _h : self.readFrame with
  | (.error code, next) => ([], .error (.frameError code), next)
  | (.ok none, next) => ([], .error .stopAsyncIteration, next)
  | (.ok (some frame), next) =>
      match scan depth frame with
      | .error .decodeError => (parseError :: (anext next).1, (anext next).2)
      | .error .valueError => ([], .error .valueError, next)
      | .error .recursionError => ([], .error .recursionError, next)
      | .ok () => ([], .ok (frame ++ py "\n"), next)
termination_by self.pending.length
decreasing_by all_goals exact length_of_readFrame _h

/-- What a call does with the frame that it read. -/
theorem anext_of_readFrame {self next : BoundedAsyncInput source} {frame : Text}
    (hRead : self.readFrame = (.ok (some frame), next)) :
    self.anext depth =
      match scan depth frame with
      | .error .decodeError => (parseError :: (next.anext depth).1, (next.anext depth).2)
      | .error .valueError => ([], .error .valueError, next)
      | .error .recursionError => ([], .error .recursionError, next)
      | .ok () => ([], .ok (frame ++ py "\n"), next) := by
  rw [anext]
  split
  · next h => cases h.symm.trans hRead
  · next h => cases h.symm.trans hRead
  · next h =>
    cases h.symm.trans hRead
    rfl

/-- At the end of the input the iteration stops. -/
theorem anext_of_end {self next : BoundedAsyncInput source}
    (hRead : self.readFrame = (.ok none, next)) :
    self.anext depth = ([], .error .stopAsyncIteration, next) := by
  rw [anext]
  split
  · next h => cases h.symm.trans hRead
  · next h =>
    cases h.symm.trans hRead
    rfl
  · next h => cases h.symm.trans hRead

/-- A line that is returned is taken off what is left to read. -/
theorem length_of_anext (self : BoundedAsyncInput source) {written : List Text} {line : Text}
    {next : BoundedAsyncInput source} (h : self.anext depth = (written, .ok line, next)) :
    next.pending.length < self.pending.length := by
  induction hLength : self.pending.length using Nat.strong_induction_on generalizing self
    written with
  | _ length ih =>
      subst hLength
      rw [anext] at h
      split at h
      · cases h
      · cases h
      · next frame after hRead =>
        have hShort := length_of_readFrame hRead
        split at h
        · have hAfter : (after.anext depth).2 = (.ok line, next) := congrArg Prod.snd h
          have hNext : after.anext depth = ((after.anext depth).1, .ok line, next) := by
            rw [← hAfter]
          exact (ih _ hShort after hNext rfl).trans hShort
        · cases h
        · cases h
        · cases h
          exact hShort

end BoundedAsyncInput

/-- What one sees of the server's input: what is written and delivered, and how it ends. -/
inductive Event where
  | wrote (line : Text)
  | delivered (line : Text)
  | ended (raised : Raised)
  deriving DecidableEq, Repr

/-- The server's loop over its input, which ends with the call that raises. -/
def serve (depth : ℕ) (self : BoundedAsyncInput source) : List Event :=
  match _h : self.anext depth with
  | (written, .ok line, next) => written.map .wrote ++ .delivered line :: serve depth next
  | (written, .error raised, _) => written.map .wrote ++ [.ended raised]
termination_by self.pending.length
decreasing_by exact self.length_of_anext depth _h

section serve

variable {depth : ℕ} {self next : BoundedAsyncInput source} {written : List Text}

/-- A line that is delivered, and then the rest. -/
theorem serve_of_line {line : Text} (h : self.anext depth = (written, .ok line, next)) :
    serve depth self = written.map .wrote ++ .delivered line :: serve depth next := by
  rw [serve]
  split
  · next hCall =>
    cases hCall.symm.trans h
    rfl
  · next hCall => cases hCall.symm.trans h

/-- An exception ends the input. -/
theorem serve_of_raised {raised : Raised} (h : self.anext depth = (written, .error raised, next)) :
    serve depth self = written.map .wrote ++ [.ended raised] := by
  rw [serve]
  split
  · next hCall => cases hCall.symm.trans h
  · next hCall =>
    cases hCall.symm.trans h
    rfl

/-- Over a frame that is no JSON the input goes on as if the frame had not been there. -/
theorem serve_of_decodeError {frame : Text} (hRead : self.readFrame = (.ok (some frame), next))
    (hScan : scan depth frame = .error .decodeError) : serve depth self = .wrote parseError ::
    serve depth next := by
  have hCall := BoundedAsyncInput.anext_of_readFrame depth hRead
  rw [hScan] at hCall
  rcases hNext : next.anext depth with ⟨written, outcome, after⟩
  rw [hNext] at hCall
  cases outcome with
  | ok line =>
      rw [serve_of_line hCall, serve_of_line hNext]
      rfl
  | error raised =>
      rw [serve_of_raised hCall, serve_of_raised hNext]
      rfl

end serve

/-! ## Sequences of frames -/

/-- The octets of a frame within the limit, and its text. -/
structure IsFrame (content : Bytes) (text : Text) : Prop where
  unbroken : lineFeed ∉ content
  fits : content.length + 1 ≤ maxBinaryFrameBytes
  decodes : utf8Decode content = some text

/-- What the server makes of frames. -/
def answers (depth : ℕ) : List Text → List Event
  | [] => [.ended .stopAsyncIteration]
  | text :: texts =>
      match scan depth text with
      | .error .decodeError => .wrote parseError :: answers depth texts
      | .error .valueError => [.ended .valueError]
      | .error .recursionError => [.ended .recursionError]
      | .ok () => .delivered (text ++ py "\n") :: answers depth texts

/-- The input serves the frames that it has still to read, one after another. -/
theorem serve_eq_answers (depth : ℕ) {contents : List Bytes} {texts : List Text}
    (hFrames : List.Forall₂ IsFrame contents texts) :
    ∀ self : BoundedAsyncInput source, self.reader.maximumBytes = defaultLimit →
      self.pending = (contents.map (· ++ [lineFeed])).flatten → serve depth self = answers depth
        texts := by
  -- By induction on the frames, for every state of the input from which they are pending.
  induction hFrames with
  | nil =>
      intro self hLimit hPending
      have hSplit := self.readFrame_eq_splitFrame
      rw [hPending, List.map_nil, List.flatten_nil,
        splitFrame_nil self.reader.maximumBytes.positive] at hSplit
      have hRead : self.readFrame = (.ok none, self.readFrame.2) :=
        Prod.ext (congrArg Prod.fst hSplit).symm rfl
      exact serve_of_raised (BoundedAsyncInput.anext_of_end depth hRead)
  | @cons content text contents texts hFrame _ ih =>
      intro self hLimit hPending
      have hContent : ((content :: contents).map (· ++ [lineFeed])).flatten =
          content ++ lineFeed :: (contents.map (· ++ [lineFeed])).flatten := by simp
      have hFits : content.length + 1 ≤ self.reader.maximumBytes.bytes := by
        rw [hLimit]
        exact hFrame.fits
      have hSplit := self.readFrame_eq_splitFrame
      rw [hPending, hContent, splitFrame_frame hFrame.unbroken hFits, decodeFrame, hFrame.decodes]
        at hSplit
      have hRead : self.readFrame = (.ok (some text), self.readFrame.2) :=
        Prod.ext (congrArg Prod.fst hSplit).symm rfl
      have hNext := ih self.readFrame.2 (self.readFrame_maximumBytes.trans hLimit)
        (congrArg Prod.snd hSplit).symm
      have hCall := BoundedAsyncInput.anext_of_readFrame depth hRead
      rw [answers, ← hNext]
      -- The scanner delivers the line, or its failure decides between an answer and the end of
      -- the input.
      cases hScan : scan depth text with
      | ok _ =>
          rw [hScan] at hCall
          exact serve_of_line hCall
      | error failure =>
          rw [hScan] at hCall
          cases failure with
          | decodeError => exact serve_of_decodeError hRead hScan
          | valueError => exact serve_of_raised hCall
          | recursionError => exact serve_of_raised hCall

/-- An answer to a frame: a document is delivered, and what is no JSON is answered with the parse
error. -/
inductive IsAnswer (depth : ℕ) (text : Text) : Event → Prop
  | delivered : (IsDocument depth text ∨ ∃ obstacle, Meets depth text obstacle) →
      IsAnswer depth text (.delivered (text ++ py "\n"))
  | refused : ¬ IsDocument depth text → IsAnswer depth text (.wrote parseError)

/-- The input answers every frame, in order, and then ends. -/
def AnswersEveryFrame (depth : ℕ) (texts : List Text) (events : List Event) : Prop :=
  ∃ answered, events = answered ++ [.ended .stopAsyncIteration] ∧
    List.Forall₂ (IsAnswer depth) texts answered

/-- Every frame is answered when the first is and the others are. -/
theorem answersEveryFrame_cons {depth : ℕ} {text : Text} {texts : List Text} {event : Event}
    {events : List Event} :
    AnswersEveryFrame depth (text :: texts) (event :: events) ↔
      IsAnswer depth text event ∧ AnswersEveryFrame depth texts events := by
  constructor
  · rintro ⟨_, hEvents, hAnswers⟩
    cases hAnswers with
    | cons hFirst hRest =>
        injection hEvents with hEvent hEvents
        rw [hEvent]
        exact ⟨hFirst, _, hEvents, hRest⟩
  · rintro ⟨hFirst, answered, rfl, hRest⟩
    exact ⟨event :: answered, rfl, .cons hFirst hRest⟩

/-- An input that ends at a frame does not answer it. -/
theorem not_answersEveryFrame_ended {depth : ℕ} {text : Text} {texts : List Text}
    {raised : Raised} :
    ¬ AnswersEveryFrame depth (text :: texts) [.ended raised] := by
  intro h
  have hFirst := (answersEveryFrame_cons.1 h).1
  cases hFirst

/-- The answers of the model answer every frame unless one meets an obstacle. -/
theorem answersEveryFrame_answers {depth : ℕ} {texts : List Text} :
    AnswersEveryFrame depth texts (answers depth texts) ↔
      ∀ text ∈ texts, ∀ obstacle, ¬ Meets depth text obstacle := by
  induction texts with
  | nil => exact ⟨fun _ => nofun, fun _ => ⟨[], rfl, .nil⟩⟩
  | cons text texts ih =>
      rw [List.forall_mem_cons, ← ih, answers]
      cases hScan : scan depth text with
      | ok _ =>
          have hFree : ∀ obstacle, ¬ Meets depth text obstacle := by
            intro obstacle hMeets
            cases hScan.symm.trans (scan_eq_failure.2 hMeets)
          exact answersEveryFrame_cons.trans
            ⟨fun h => ⟨hFree, h.2⟩, fun h => ⟨.delivered (.inl (scan_eq_ok.1 hScan)), h.2⟩⟩
      | error failure =>
          cases failure with
          | decodeError =>
              have hFree : ∀ obstacle, ¬ Meets depth text obstacle := by
                intro obstacle hMeets
                cases obstacle with
                | oversizedInteger => cases hScan.symm.trans (scan_eq_failure.2 hMeets)
                | tooDeep => cases hScan.symm.trans (scan_eq_failure.2 hMeets)
              have hNo : ¬ IsDocument depth text := by
                intro hDocument
                have hRead : scan depth text = .ok () := scan_eq_ok.2 hDocument
                cases hScan.symm.trans hRead
              exact answersEveryFrame_cons.trans ⟨fun h => ⟨hFree, h.2⟩, fun h =>
                ⟨.refused hNo, h.2⟩⟩
          | valueError =>
              have hMeets : Meets depth text .oversizedInteger := scan_eq_failure.1 hScan
              exact ⟨fun h => absurd h not_answersEveryFrame_ended, fun h => absurd hMeets (h.1 _)⟩
          | recursionError =>
              have hMeets : Meets depth text .tooDeep := scan_eq_failure.1 hScan
              exact ⟨fun h => absurd h not_answersEveryFrame_ended, fun h => absurd hMeets (h.1 _)⟩

/-- Every frame of a sequence is answered exactly when no frame makes the JSON reader fail with
anything but a syntax error: an integer of too many digits or arrays and objects too deep inside one
another. -/
theorem answers_every_frame_iff (depth : ℕ) {σ : Type} (source : ByteSource σ) (descriptor : σ)
    (contents : List Bytes) (texts : List Text) (hFrames : List.Forall₂ IsFrame contents texts)
    (hContent : source.rest descriptor = (contents.map (· ++ [lineFeed])).flatten) :
    AnswersEveryFrame depth texts (serve depth (BoundedAsyncInput.init source descriptor)) ↔
      ∀ text ∈ texts, ∀ obstacle, ¬ Meets depth text obstacle := by
  rw [serve_eq_answers depth hFrames (BoundedAsyncInput.init source descriptor) rfl hContent]
  exact answersEveryFrame_answers

/-- Two frames, a document and one that is cut off. -/
theorem answers_every_frame_iff_two :
    AnswersEveryFrame 4 [py "[1]", py "["]
        (serve 4 (BoundedAsyncInput.init ByteSource.greedy [0x5B, 0x31, 0x5D, 0x0A, 0x5B, 0x0A])) ↔
      ∀ text ∈ [py "[1]", py "["], ∀ obstacle, ¬ Meets 4 text obstacle :=
  answers_every_frame_iff 4 ByteSource.greedy [0x5B, 0x31, 0x5D, 0x0A, 0x5B, 0x0A]
    [[0x5B, 0x31, 0x5D], [0x5B]]
    [py "[1]", py "["]
    (.cons ⟨by decide, by decide, by decide⟩ (.cons ⟨by decide, by decide, by decide⟩ .nil)) rfl

/-! ## An integer of too many digits -/

/-- 4301 times the digit one. -/
def repunit : Text := digitsText (List.replicate 4301 1)

/-- The sample frame is plain ASCII. -/
theorem repunit_isAscii : repunit.IsAscii := by
  intro c hc
  rw [repunit, digitsText, List.map_replicate] at hc
  rw [List.eq_of_mem_replicate hc]
  decide

/-- It has 4301 digits. -/
theorem repunit_length : repunit.length = 4301 := by
  rw [repunit, digitsText, List.length_map, List.length_replicate]

/-- It is a frame. -/
theorem repunit_isFrame : IsFrame (utf8Raw repunit) repunit where
  unbroken := by
    intro hMem
    obtain ⟨c, hc, hFeed⟩ := List.mem_flatMap.1 hMem
    rw [repunit, digitsText, List.map_replicate] at hc
    cases (List.eq_of_mem_replicate hc).symm.trans (eq_of_lineFeed_mem_utf8Char hFeed)
  fits := by
    rw [repunit_isAscii.utf8Raw_eq, List.length_map, repunit_length]
    decide
  decodes := utf8Decode_of_utf8 (utf8_eq_some_iff.2 ⟨repunit_isAscii.encodable, rfl⟩)

/-- It meets the limit on the digits of an integer at every depth. -/
theorem repunit_meets (depth : ℕ) : Meets depth repunit .oversizedInteger := by
  have hText : repunit = digitChar 1 :: digitsText (List.replicate 4300 1) := by
    rw [repunit, List.replicate_succ]
    rfl
  have hWellFormed : (⟨false, List.replicate 4301 1, none, none⟩ : NumberToken).WellFormed := {
    integer := ⟨nofun, fun d hd => by rw [List.eq_of_mem_replicate hd]; decide⟩
    leading := .inr (by rw [List.replicate_succ]; decide)
    fraction := nofun
    exponent := nofun }
  have hNumber : scanNumber repunit = some (⟨false, List.replicate 4301 1, none, none⟩, []) := by
    have h := @scanNumber_text _ hWellFormed [] nofun
    rw [← h]
    show _ = scanNumber ((([] ++ repunit) ++ []) ++ [] ++ [])
    rw [List.append_nil, List.append_nil, List.append_nil, List.nil_append]
  have hOversized : (⟨false, List.replicate 4301 1, none, none⟩ : NumberToken).IsOversized := by
    refine ⟨rfl, rfl, ?_⟩
    rw [List.length_replicate]
    decide
  have hWord : scanWord repunit = none := by
    rw [hText]
    rfl
  show Scans .value depth (skipSpace repunit) (.meets .oversizedInteger)
  rw [hText] at hNumber hWord ⊢
  exact .oversized (by decide) rfl hWord hNumber hOversized

/-- A frame that holds one integer of 4301 digits ends the input, and the frame behind it is not
answered. -/
theorem repunit_ends_input :
    List.Forall₂ IsFrame [utf8Raw repunit, [0x5B, 0x5D]] [repunit, py "[]"] ∧
      serve 1000 (BoundedAsyncInput.init ByteSource.greedy
          ([utf8Raw repunit, [0x5B, 0x5D]].map (· ++ [lineFeed])).flatten) = [.ended .valueError] ∧
      ¬ AnswersEveryFrame 1000 [repunit, py "[]"]
        (serve 1000 (BoundedAsyncInput.init ByteSource.greedy
          ([utf8Raw repunit, [0x5B, 0x5D]].map (· ++ [lineFeed])).flatten)) := by
  have hFrames : List.Forall₂ IsFrame [utf8Raw repunit, [0x5B, 0x5D]] [repunit, py "[]"] :=
    .cons repunit_isFrame (.cons ⟨by decide, by decide, by decide⟩ .nil)
  have hServe : serve 1000 (BoundedAsyncInput.init ByteSource.greedy
      ([utf8Raw repunit, [0x5B, 0x5D]].map (· ++ [lineFeed])).flatten) = [.ended .valueError] := by
    rw [serve_eq_answers 1000 hFrames _ rfl rfl, answers, scan_eq_failure.2 (repunit_meets 1000)]
    rfl
  refine ⟨hFrames, hServe, ?_⟩
  rw [hServe]
  exact not_answersEveryFrame_ended

end McpServer
