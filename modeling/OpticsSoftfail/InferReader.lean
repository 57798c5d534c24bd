import Mathlib.Data.List.DropRight
import Mathlib.Logic.Function.Iterate
import OpticsSoftfail.InputLoop
import OpticsSoftfail.JsonText
import OpticsSoftfail.JsonlServer
import OpticsSoftfail.Utf8

namespace OpticsSoftfail

/-!
# The frame reader of infer

`InferRunner._handle_client` reads one connection line by line and passes each
line that is not blank to `json.loads`.  Bytes arrive while the handler waits
for them and while it works on an earlier line; the model takes any order of
arrivals and loop iterations.  What the handler does with a decoded frame is
left out: it catches every exception of it and returns to the loop.
-/

/-- `MAX_LINE_BYTES`. -/
def maxLineBytes : Nat :=
  4 * 1024 * 1024

/-- The characters that `str.strip` removes. -/
def isSpace (char : Char) : Bool :=
  char.toNat ∈ [0x09, 0x0A, 0x0B, 0x0C, 0x0D, 0x1C, 0x1D, 0x1E, 0x1F,
    0x20, 0x85, 0xA0, 0x1680, 0x2000, 0x2001, 0x2002, 0x2003, 0x2004,
    0x2005, 0x2006, 0x2007, 0x2008, 0x2009, 0x200A, 0x2028, 0x2029,
    0x202F, 0x205F, 0x3000]

/-- `str.strip`. -/
def strip (text : List Char) : List Char :=
  (text.dropWhile isSpace).rdropWhile isSpace

/-- How `json.loads` ends. -/
inductive Loaded where
  | value
  /-- It raises `JSONDecodeError`. -/
  | decodeError
  /-- It raises another exception. -/
  | raised
  deriving Repr, DecidableEq

/--
`json.loads`.  The interpreter's limits on the digits of an integer and on the
depth of recursion are not part of the JSON grammar; a text beyond them raises
an exception of another class.
-/
def loads
    (exceedsLimits : List Char → Bool)
    (line : List Char) : Loaded :=
  if exceedsLimits line then .raised
  else if JsonText.accepts line then .value
  else .decodeError

/-- The result of `StreamReader.readuntil` on what is buffered. -/
inductive ReadUntil where
  /-- A line with its newline, and what stays buffered. -/
  | line (raw rest : Bytes)
  /-- `IncompleteReadError`: the end of the stream without a newline. -/
  | incomplete (raw : Bytes)
  /-- `LimitOverrunError`: nothing is taken from the buffer. -/
  | overrun
  | waits
  deriving Repr, DecidableEq

/-- `reader.readuntil(b"\n")` with `MAX_LINE_BYTES` as the limit. -/
def readuntil (buffer : Bytes) (eof : Bool) : ReadUntil :=
  match JsonlServer.findNewline buffer 0 with
  | some isep =>
      if maxLineBytes < isep then .overrun
      else .line (buffer.take (isep + 1)) (buffer.drop (isep + 1))
  | none =>
      if maxLineBytes < buffer.length then .overrun
      else if eof then .incomplete buffer
      else .waits

/-- The handler of one connection. -/
structure ClientTask where
  /-- The texts that `json.loads` has accepted. -/
  decoded : List (List Char)
  /-- The loop has not been left. -/
  running : Bool
  deriving Repr, DecidableEq

/-- The handler and the buffer of its `StreamReader`. -/
structure InferReader where
  buffer : Bytes
  task : ClientTask
  deriving Repr, DecidableEq

/-- What happens on the connection before the peer's end of the stream. -/
inductive ReaderEvent where
  | received (bytes : Bytes)
  /-- The handler performs one iteration of its loop. -/
  | resumed
  deriving Repr, DecidableEq

/-- The bytes that an event brings. -/
def ReaderEvent.arrives : ReaderEvent → Bytes
  | .received bytes => bytes
  | .resumed => []

namespace InferReader

/-- A connection has been accepted. -/
def initial : InferReader where
  buffer := []
  task := ⟨[], true⟩

section Handler

variable (exceedsLimits : List Char → Bool)

/-- `handle_line`; an exception ends the task. -/
def handleLine (task : ClientTask) (line : List Char) : ClientTask :=
  match loads exceedsLimits line with
  | .value => { task with decoded := task.decoded ++ [line] }
  | .decodeError => task
  | .raised => { task with running := false }

/-- The part of the loop that follows the read. -/
def handleRaw (task : ClientTask) (raw : Bytes) : ClientTask :=
  let line := strip (Utf8.decode raw)
  let handled :=
    if line.isEmpty then task else handleLine exceedsLimits task line
  if raw.getLast? = some newline then handled
  else { handled with running := false }

/-- One iteration of the loop, as far as it gets without waiting. -/
def iterate (eof : Bool) (reader : InferReader) : InferReader :=
  if reader.task.running then
    match readuntil reader.buffer eof with
    | .line raw rest => ⟨rest, handleRaw exceedsLimits reader.task raw⟩
    | .incomplete raw =>
        if raw.isEmpty then ⟨[], { reader.task with running := false }⟩
        else ⟨[], handleRaw exceedsLimits reader.task raw⟩
    | .overrun =>
        -- `reader.read(MAX_LINE_BYTES)`
        { reader with buffer := reader.buffer.drop maxLineBytes }
    | .waits => reader
  else
    reader

/-- One event. -/
def react (reader : InferReader) : ReaderEvent → InferReader
  | .received bytes => { reader with buffer := reader.buffer ++ bytes }
  | .resumed => iterate exceedsLimits false reader

/-- The stream has ended, and the loop runs until it is left. -/
def drain (reader : InferReader) : InferReader :=
  (iterate exceedsLimits true)^[reader.buffer.length + 1] reader

/-- `_handle_client`: the handler after the whole connection. -/
def handleClient (events : List ReaderEvent) : ClientTask :=
  (drain exceedsLimits (events.foldl (react exceedsLimits) initial)).task

end Handler

/-- The bytes that arrive. -/
def received (events : List ReaderEvent) : Bytes :=
  events.flatMap fun event =>
    match event with
    | .received bytes => bytes
    | .resumed => []

section Reference

open LineFraming

/-! ## The lines of the stream -/

/-- The raw lines of a stream, the last one without newline. -/
def rawLines (stream : Bytes) : List Bytes :=
  (frame newline stream).complete.map (fun line => line ++ [newline]) ++
    if (frame newline stream).rest.isEmpty then []
    else [(frame newline stream).rest]

/-- Handle one raw line, unless the loop has been left. -/
def readRaw
    (exceedsLimits : List Char → Bool)
    (task : ClientTask)
    (raw : Bytes) : ClientTask :=
  if task.running then handleRaw exceedsLimits task raw else task

/-- The frames of a stream, read line by line. -/
def framesOf
    (exceedsLimits : List Char → Bool)
    (stream : Bytes) : List (List Char) :=
  ((rawLines stream).foldl (readRaw exceedsLimits) ⟨[], true⟩).decoded

/-- No line of the stream is beyond the limit. -/
def WithinLimit (stream : Bytes) : Prop :=
  ∀ line ∈ (frame newline stream).complete ++
      [(frame newline stream).rest],
    line.length ≤ maxLineBytes

/-- What the handler will have decoded, given what is still to arrive. -/
def outcome
    (exceedsLimits : List Char → Bool)
    (reader : InferReader)
    (future : Bytes) : List (List Char) :=
  ((rawLines (reader.buffer ++ future)).foldl
    (readRaw exceedsLimits) reader.task).decoded

variable (exceedsLimits : List Char → Bool)

theorem rawLines_append_newline
    {line : Bytes}
    (plain : newline ∉ line)
    (later : Bytes) :
    rawLines (line ++ newline :: later) =
      (line ++ [newline]) :: rawLines later := by
  rw [rawLines, frame_append_separator plain]
  rfl

theorem WithinLimit.later
    {line later : Bytes}
    (plain : newline ∉ line)
    (within : WithinLimit (line ++ newline :: later)) :
    line.length ≤ maxLineBytes ∧ WithinLimit later := by
  rw [WithinLimit, frame_append_separator plain] at within
  exact List.forall_mem_cons.mp within

/-- A line in progress is within the limit if the whole line will be. -/
theorem WithinLimit.length_le
    {first later : Bytes}
    (plain : newline ∉ first)
    (within : WithinLimit (first ++ later)) :
    first.length ≤ maxLineBytes := by
  rw [WithinLimit, frame_append, frame_of_not_mem plain] at within
  rcases framed : frame newline later with ⟨complete, rest⟩
  rw [framed] at within
  cases complete with
  | nil =>
      have whole := within (first ++ rest) (by simp [Framed.append])
      rw [List.length_append] at whole
      omega
  | cons line others =>
      have whole := within (first ++ line) (by simp [Framed.append])
      rw [List.length_append] at whole
      omega

/-- A read finds no newline yet, the next line, or too much of it. -/
theorem readuntil_cases (buffer : Bytes) (eof : Bool) :
    (newline ∉ buffer ∧ buffer.length ≤ maxLineBytes ∧
        readuntil buffer eof =
          if eof then .incomplete buffer else .waits) ∨
      (∃ line rest,
        newline ∉ line ∧ line.length ≤ maxLineBytes ∧
          buffer = line ++ newline :: rest ∧
            readuntil buffer eof = .line (line ++ [newline]) rest) ∨
      (newline ∉ buffer.take (maxLineBytes + 1) ∧
        maxLineBytes < buffer.length ∧
          readuntil buffer eof = .overrun) := by
  rw [readuntil]
  cases found : JsonlServer.findNewline buffer 0 with
  | none =>
      have plain : newline ∉ buffer :=
        JsonlServer.findNewline_eq_none found
      by_cases exceeds : maxLineBytes < buffer.length
      · refine Or.inr (Or.inr ⟨?_, exceeds, ?_⟩)
        · exact fun member => plain (List.mem_of_mem_take member)
        · simp [exceeds]
      · refine Or.inl ⟨plain, Nat.not_lt.mp exceeds, ?_⟩
        simp [exceeds]
  | some isep =>
      obtain ⟨_, inside, plain, shape⟩ :=
        JsonlServer.findNewline_spec found
      rw [JsonlServer.substr, List.drop_zero, Nat.sub_zero]
        at plain shape
      have length : (buffer.take isep).length = isep :=
        List.length_take_of_le (Nat.le_of_lt inside)
      by_cases exceeds : maxLineBytes < isep
      · refine Or.inr (Or.inr ⟨?_, exceeds.trans inside, ?_⟩)
        · have shorter :
              buffer.take (maxLineBytes + 1) <+: buffer.take isep :=
            List.take_prefix_take_left exceeds
          exact fun member => plain (shorter.subset member)
        · simp [exceeds]
      · have taken : buffer.take (isep + 1) =
            buffer.take isep ++ [newline] := by
          calc
            buffer.take (isep + 1) =
                (buffer.take isep ++
                  newline :: buffer.drop (isep + 1)).take
                    ((buffer.take isep).length + 1) := by
              rw [← shape, length]
            _ = buffer.take isep ++ [newline] :=
              List.take_length_add_append 1
        refine Or.inr (Or.inl ⟨buffer.take isep,
          buffer.drop (isep + 1), plain, ?_, shape, ?_⟩)
        · rw [length]
          exact Nat.not_lt.mp exceeds
        · simp [exceeds, taken]

/-- Within the limit a read takes the next line, or there is none yet. -/
theorem readuntil_spec
    {buffer future : Bytes}
    (within : WithinLimit (buffer ++ future))
    (eof : Bool) :
    (newline ∉ buffer ∧
        readuntil buffer eof =
          if eof then .incomplete buffer else .waits) ∨
      ∃ line rest,
        newline ∉ line ∧ buffer = line ++ newline :: rest ∧
          readuntil buffer eof = .line (line ++ [newline]) rest := by
  rcases readuntil_cases buffer eof with
    ⟨plain, _, reads⟩ | ⟨line, rest, plain, _, isBuffer, reads⟩ |
      ⟨plain, exceeds, _⟩
  · exact Or.inl ⟨plain, reads⟩
  · exact Or.inr ⟨line, rest, plain, isBuffer, reads⟩
  · rw [← List.take_append_drop (maxLineBytes + 1) buffer,
      List.append_assoc] at within
    have fits := within.length_le plain
    rw [List.length_take_of_le exceeds] at fits
    omega

/-- An iteration leaves what will have been decoded as it is. -/
theorem iterate_line
    {reader : InferReader}
    {line rest future : Bytes}
    {eof : Bool}
    (running : reader.task.running = true)
    (plain : newline ∉ line)
    (isBuffer : reader.buffer = line ++ newline :: rest)
    (reads :
      readuntil reader.buffer eof = .line (line ++ [newline]) rest) :
    outcome exceedsLimits (iterate exceedsLimits eof reader) future =
      outcome exceedsLimits reader future := by
  simp only [outcome, iterate, running, reads, if_true]
  rw [isBuffer, List.append_assoc, List.cons_append,
    rawLines_append_newline plain, List.foldl_cons]
  simp [readRaw, running]

/-- While bytes may still arrive, an iteration changes nothing overall. -/
theorem iterate_outcome
    {reader : InferReader}
    {future : Bytes}
    (within : WithinLimit (reader.buffer ++ future)) :
    outcome exceedsLimits (iterate exceedsLimits false reader) future =
        outcome exceedsLimits reader future ∧
      WithinLimit
        ((iterate exceedsLimits false reader).buffer ++ future) := by
  cases running : reader.task.running with
  | false =>
      simp [iterate, running, within]
  | true =>
      rcases readuntil_spec within false with
        ⟨_, reads⟩ | ⟨line, rest, plain, isBuffer, reads⟩
      · simp [iterate, running, reads, within]
      · refine
          ⟨iterate_line exceedsLimits running plain isBuffer reads, ?_⟩
        rw [isBuffer, List.append_assoc, List.cons_append] at within
        simp only [iterate, running, reads, if_true]
        exact (within.later plain).2

/-- Nor does an event, when what it brings is counted as arrived. -/
theorem react_outcome
    {reader : InferReader}
    {event : ReaderEvent}
    {future : Bytes}
    (within : WithinLimit (reader.buffer ++ (event.arrives ++ future))) :
    outcome exceedsLimits (react exceedsLimits reader event) future =
        outcome exceedsLimits reader (event.arrives ++ future) ∧
      WithinLimit ((react exceedsLimits reader event).buffer ++ future) := by
  cases event with
  | received bytes =>
      rw [← List.append_assoc] at within
      refine ⟨?_, within⟩
      rw [outcome, outcome, react, List.append_assoc]
      rfl
  | resumed =>
      exact iterate_outcome exceedsLimits within

/-- The rest of a stream without newline is one raw line, if any. -/
theorem rawLines_of_not_mem
    {buffer : Bytes}
    (plain : newline ∉ buffer) :
    rawLines buffer = if buffer.isEmpty then [] else [buffer] := by
  rw [rawLines, frame_of_not_mem plain]
  rfl

theorem handleRaw_running_of_not_mem
    {raw : Bytes}
    (plain : newline ∉ raw)
    (task : ClientTask) :
    (handleRaw exceedsLimits task raw).running = false := by
  have unterminated : raw.getLast? ≠ some newline :=
    fun isLast => plain (List.mem_of_getLast? isLast)
  rw [handleRaw, if_neg unterminated]

/-- The handler that has left the loop stays as it is. -/
theorem foldl_readRaw_of_not_running
    {task : ClientTask}
    (stopped : task.running = false)
    (lines : List Bytes) :
    lines.foldl (readRaw exceedsLimits) task = task := by
  induction lines with
  | nil =>
      rfl
  | cons line later inductionHypothesis =>
      rw [List.foldl_cons, readRaw, stopped]
      exact inductionHypothesis

theorem iterate_of_not_running
    {reader : InferReader}
    (stopped : reader.task.running = false)
    (eof : Bool) :
    iterate exceedsLimits eof reader = reader := by
  rw [iterate, stopped]
  rfl

/-- At the end of the stream an iteration without newline is the last. -/
theorem iterate_last
    {reader : InferReader}
    (running : reader.task.running = true)
    (plain : newline ∉ reader.buffer)
    (reads : readuntil reader.buffer true = .incomplete reader.buffer) :
    (iterate exceedsLimits true reader).task.decoded =
        outcome exceedsLimits reader [] ∧
      (iterate exceedsLimits true reader).task.running = false := by
  rw [iterate, running, if_pos rfl, reads, outcome, List.append_nil,
    rawLines_of_not_mem plain]
  by_cases isEmpty : reader.buffer.isEmpty = true
  · simp [isEmpty]
  · simp [isEmpty, readRaw, running,
      handleRaw_running_of_not_mem exceedsLimits plain]

/-- What the handler that has left the loop will have decoded. -/
theorem outcome_of_not_running
    {reader : InferReader}
    (stopped : reader.task.running = false)
    (future : Bytes) :
    outcome exceedsLimits reader future = reader.task.decoded := by
  rw [outcome, foldl_readRaw_of_not_running exceedsLimits stopped]

/-- At the end of the stream an iteration takes a line or is the last. -/
theorem iterate_progress
    {reader : InferReader}
    (within : WithinLimit reader.buffer)
    (running : reader.task.running = true) :
    outcome exceedsLimits (iterate exceedsLimits true reader) [] =
        outcome exceedsLimits reader [] ∧
      ((iterate exceedsLimits true reader).task.running = false ∨
        WithinLimit (iterate exceedsLimits true reader).buffer ∧
          (iterate exceedsLimits true reader).buffer.length <
            reader.buffer.length) := by
  rw [← List.append_nil reader.buffer] at within
  rcases readuntil_spec within true with
    ⟨plain, reads⟩ | ⟨line, rest, plain, isBuffer, reads⟩
  · obtain ⟨decodes, stopped⟩ :=
      iterate_last exceedsLimits running plain reads
    refine ⟨?_, Or.inl stopped⟩
    rw [outcome_of_not_running exceedsLimits stopped, decodes]
  · have isRest :
        (iterate exceedsLimits true reader).buffer = rest := by
      simp only [iterate, running, reads, if_true]
    rw [isRest]
    refine
      ⟨iterate_line exceedsLimits running plain isBuffer reads,
        Or.inr ⟨?_, ?_⟩⟩
    · rw [isBuffer, List.append_nil] at within
      exact (within.later plain).2
    · rw [isBuffer, List.length_append, List.length_cons]
      omega

/-- The loop is left after every connection. -/
theorem handleClient_spec
    {events : List ReaderEvent}
    (within : WithinLimit (received events)) :
    (handleClient exceedsLimits events).decoded =
        framesOf exceedsLimits (received events) ∧
      (handleClient exceedsLimits events).running = false := by
  have started : WithinLimit (initial.buffer ++ received events) :=
    within
  obtain ⟨same, fits⟩ :=
    @InputLoop.foldl_outcome _ _ _ _ (react exceedsLimits)
      ReaderEvent.arrives (outcome exceedsLimits)
      (fun reader future => WithinLimit (reader.buffer ++ future))
      (react_outcome exceedsLimits) initial events started
  rw [List.append_nil] at fits
  obtain ⟨stopped, decodes⟩ :=
    @InputLoop.iterate_finishes _ _ (iterate exceedsLimits true)
      (fun reader => reader.buffer.length)
      (fun reader => outcome exceedsLimits reader [])
      (fun reader => reader.task.running = false)
      (fun reader => WithinLimit reader.buffer)
      (fun stopped => iterate_of_not_running exceedsLimits stopped true)
      (fun within notStopped =>
        iterate_progress exceedsLimits within
          (Bool.of_not_eq_false notStopped))
      _ _ fits (Nat.lt_succ_self _)
  refine ⟨?_, stopped⟩
  calc
    (handleClient exceedsLimits events).decoded =
        outcome exceedsLimits
          (drain exceedsLimits
            (events.foldl (react exceedsLimits) initial)) [] :=
      (outcome_of_not_running exceedsLimits stopped []).symm
    _ = outcome exceedsLimits
          (events.foldl (react exceedsLimits) initial) [] :=
      decodes
    _ = framesOf exceedsLimits (received events) :=
      same

end Reference

end InferReader

end OpticsSoftfail
