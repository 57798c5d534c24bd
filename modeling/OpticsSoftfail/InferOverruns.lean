import OpticsSoftfail.InferCounters

namespace OpticsSoftfail

namespace InferOverruns

open InferCounters InferReader

/-!
# Over-long lines at infer

When a line is beyond the limit of its `StreamReader`, `_handle_client` throws
away what one `read(MAX_LINE_BYTES)` returns, counts a dropped line and goes on
reading.  The read does not look for the end of the line.  The model keeps, for
every string that is handled and every such read, the position in the stream.
-/

/-- What the loop of `_handle_client` does, at a position of the stream. -/
inductive Action where
  /-- `LimitOverrunError`; what `read` returns is thrown away. -/
  | overrun (position : Nat)
  /-- A string is passed to `handle_line`. -/
  | handled (position : Nat) (line : List Char)
  deriving Repr, DecidableEq

namespace Action

def position : Action → Nat
  | .overrun position => position
  | .handled position _ => position

end Action

/--
How many bytes `read(MAX_LINE_BYTES)` returns: at least one of those buffered
and at most `MAX_LINE_BYTES`, which are fewer than are buffered at an overrun.
-/
abbrev ReadSize :=
  { count : Nat // 0 < count ∧ count ≤ maxLineBytes }

/-- The handler of one connection. -/
structure Client where
  runner : InferRunner
  /-- How many bytes it has taken from its buffer. -/
  consumed : Nat
  actions : List Action
  /-- The loop has not been left. -/
  running : Bool
  deriving Repr, DecidableEq

/-- The handler and the buffer of its `StreamReader`. -/
structure Reader where
  buffer : Bytes
  client : Client
  deriving Repr, DecidableEq

variable {Value Score : Type}

section Model

/-!
What happens to a handled line after it has been decoded, and how much a read
returns, is left open for each position of the stream.
-/

variable
  (python : Interpreter Value)
  (results : Nat → LineResults Score)
  (reads : Nat → ReadSize)

/-- `await reader.read(MAX_LINE_BYTES)` and `self.dropped += 1`. -/
def Client.overrun (client : Client) : Client where
  runner := { client.runner with dropped := client.runner.dropped + 1 }
  consumed := client.consumed + reads client.consumed
  actions := client.actions ++ [.overrun client.consumed]
  running := client.running

/-- The part of the loop that follows the read of a line. -/
def Client.handleRaw (client : Client) (raw : Bytes) : Client :=
  let line := strip (Utf8.decode raw)
  let taken := { client with consumed := client.consumed + raw.length }
  let handled : Client :=
    if line.isEmpty then taken
    else
      let outcome :=
        client.runner.handleLine python line (results client.consumed)
      { taken with
        runner := outcome.1
        actions := client.actions ++ [.handled client.consumed line]
        running := outcome.2.isSome }
  if raw.getLast? = some newline then handled
  else { handled with running := false }

/-- One iteration of the loop, as far as it gets without waiting. -/
def iterate (eof : Bool) (reader : Reader) : Reader :=
  if reader.client.running then
    match readuntil reader.buffer eof with
    | .line raw rest => ⟨rest, reader.client.handleRaw python results raw⟩
    | .incomplete raw =>
        if raw.isEmpty then ⟨[], { reader.client with running := false }⟩
        else ⟨[], reader.client.handleRaw python results raw⟩
    | .overrun =>
        ⟨reader.buffer.drop (reads reader.client.consumed),
          reader.client.overrun reads⟩
    | .waits => reader
  else
    reader

/-- One event. -/
def react (reader : Reader) : ReaderEvent → Reader
  | .received bytes => { reader with buffer := reader.buffer ++ bytes }
  | .resumed => iterate python results reads false reader

/-- The stream has ended, and the loop runs until it is left. -/
def drain (reader : Reader) : Reader :=
  (iterate python results reads true)^[reader.buffer.length + 1] reader

/-- A connection has been accepted by the runner. -/
def accept (runner : InferRunner) : Reader where
  buffer := []
  client := ⟨runner, 0, [], true⟩

/-- `_handle_client`: the handler after the whole connection. -/
def handleClient
    (runner : InferRunner)
    (events : List ReaderEvent) : Client :=
  (drain python results reads
    (events.foldl (react python results reads) (accept runner))).client

/-- What one action does to the counters of the runner. -/
def account (runner : InferRunner) : Action → InferRunner
  | .overrun _ => { runner with dropped := runner.dropped + 1 }
  | .handled position line =>
      (runner.handleLine python line (results position)).1

end Model

/-! ## What should happen to a stream -/

/-- A line of the stream, with its newline unless it is the last. -/
structure StreamLine where
  position : Nat
  raw : Bytes
  deriving Repr, DecidableEq

/-- The lines one after the other, the first one at the position. -/
def locate : Nat → List Bytes → List StreamLine
  | _, [] => []
  | position, raw :: later =>
      ⟨position, raw⟩ :: locate (position + raw.length) later

/-- The lines of a stream. -/
def linesOf (stream : Bytes) : List StreamLine :=
  locate 0 (rawLines stream)

/-- The length of a raw line without its newline. -/
def contentLength (raw : Bytes) : Nat :=
  if raw.getLast? = some newline then raw.length - 1 else raw.length

/-- The text of raw bytes, `raw.decode(...).strip()`. -/
def textOf (raw : Bytes) : List Char :=
  strip (Utf8.decode raw)

namespace StreamLine

/-- The line is longer than `MAX_LINE_BYTES`. -/
def IsLong (line : StreamLine) : Prop :=
  maxLineBytes < contentLength line.raw

instance (line : StreamLine) : Decidable line.IsLong :=
  inferInstanceAs (Decidable (_ < _))

/-- A long line is counted once, and any other that is not blank handled. -/
def wholeActions (line : StreamLine) : List Action :=
  if line.IsLong then [.overrun line.position]
  else if (textOf line.raw).isEmpty then []
  else [.handled line.position (textOf line.raw)]

/-- There is nothing to do for the line. -/
def IsQuiet (line : StreamLine) : Prop :=
  ¬ line.IsLong ∧ textOf line.raw = []

/-- The line is handled, and `json.loads` raises what is not caught. -/
def Breaks (python : Interpreter Value) (line : StreamLine) : Prop :=
  ¬ line.IsLong ∧ textOf line.raw ≠ [] ∧
    ¬ InferRunner.Decodes python (textOf line.raw)

/-- If the line is long, one read leaves a blank within the limit of it. -/
def Recovers (reads : Nat → ReadSize) (line : StreamLine) : Prop :=
  line.IsLong →
    contentLength line.raw ≤ maxLineBytes + reads line.position ∧
      textOf (line.raw.drop (reads line.position)) = []

end StreamLine

/-- The actions of a reader that drops over-long lines whole. -/
def wholeActions (stream : Bytes) : List Action :=
  (linesOf stream).flatMap StreamLine.wholeActions

/-- No line of a stream upsets the reader. -/
structure Harmless
    (python : Interpreter Value)
    (reads : Nat → ReadSize)
    (lines : List StreamLine) : Prop where
  recovers : ∀ line ∈ lines, line.Recovers reads
  /-- Nothing is left to do after a line that breaks the loop. -/
  unbroken :
    lines.Pairwise fun line later => line.Breaks python → later.IsQuiet

/-- The handler has dropped the over-long lines whole. -/
structure DropsWhole
    (python : Interpreter Value)
    (results : Nat → LineResults Score)
    (start : InferRunner)
    (stream : Bytes)
    (client : Client) : Prop where
  actions : client.actions = wholeActions stream
  counted :
    client.runner =
      (wholeActions stream).foldl (account python results) start

/-! ## Line by line -/

theorem contentLength_append_newline (line : Bytes) :
    contentLength (line ++ [newline]) = line.length := by
  simp [contentLength]

theorem contentLength_of_not_mem
    {line : Bytes}
    (plain : newline ∉ line) :
    contentLength line = line.length := by
  have unterminated : line.getLast? ≠ some newline :=
    fun isLast => plain (List.mem_of_getLast? isLast)
  rw [contentLength, if_neg unterminated]

theorem contentLength_le_length (raw : Bytes) :
    contentLength raw ≤ raw.length := by
  rw [contentLength]
  split
  · exact Nat.sub_le _ _
  · exact Nat.le_refl _

/-- A part of the content can be dropped without touching the newline. -/
theorem getLast?_drop_of_lt
    {raw : Bytes}
    {count : Nat}
    (inside : count < contentLength raw) :
    (raw.drop count).getLast? = raw.getLast? := by
  have fits := contentLength_le_length raw
  rw [List.getLast?_drop, if_neg (by omega)]

theorem contentLength_drop
    {raw : Bytes}
    {count : Nat}
    (inside : count < contentLength raw) :
    contentLength (raw.drop count) = contentLength raw - count := by
  rw [contentLength, getLast?_drop_of_lt inside, List.length_drop]
  rw [contentLength] at inside ⊢
  split <;> omega

section Lines

variable
  (python : Interpreter Value)
  (results : Nat → LineResults Score)
  (reads : Nat → ReadSize)

/-- One raw line: it is overrun until what is left of it fits. -/
def Client.readLine (client : Client) (raw : Bytes) : Client :=
  if maxLineBytes < contentLength raw then
    (client.overrun reads).readLine (raw.drop (reads client.consumed))
  else
    client.handleRaw python results raw
termination_by raw.length
decreasing_by
  have positive := (reads client.consumed).property.1
  have fits := contentLength_le_length raw
  rw [List.length_drop]
  omega

/-- One raw line, unless the loop has been left. -/
def Client.readNext (client : Client) (raw : Bytes) : Client :=
  if client.running then client.readLine python results reads raw
  else client

/-- What the handler will have done, given what is still to arrive. -/
def outcome (reader : Reader) (future : Bytes) : Client :=
  (rawLines (reader.buffer ++ future)).foldl
    (Client.readNext python results reads) reader.client

variable {python results reads}

theorem Client.readLine_of_le
    {raw : Bytes}
    (fits : contentLength raw ≤ maxLineBytes)
    (client : Client) :
    client.readLine python results reads raw =
      client.handleRaw python results raw := by
  rw [readLine, if_neg (Nat.not_lt.mpr fits)]

theorem Client.readLine_of_lt
    {raw : Bytes}
    (exceeds : maxLineBytes < contentLength raw)
    (client : Client) :
    client.readLine python results reads raw =
      (client.overrun reads).readLine python results reads
        (raw.drop (reads client.consumed)) := by
  rw [readLine, if_pos exceeds]

/-- Dropping a part of an over-long line leaves a shorter line there. -/
theorem rawLines_drop
    {stream : Bytes}
    (plain : newline ∉ stream.take (maxLineBytes + 1))
    (exceeds : maxLineBytes < stream.length) :
    ∃ raw later,
      rawLines stream = raw :: later ∧
        maxLineBytes < contentLength raw ∧
          ∀ count ≤ maxLineBytes,
            rawLines (stream.drop count) = raw.drop count :: later := by
  by_cases terminated : newline ∈ stream
  · obtain ⟨line, rest, shape, linePlain⟩ :=
      List.eq_append_cons_of_mem terminated
    have exceedsLine : maxLineBytes < line.length := by
      by_contra fits
      have inTake :
          line ++ [newline] <+: stream.take (maxLineBytes + 1) := by
        rw [List.prefix_take_iff, shape]
        exact ⟨⟨rest, by simp⟩, by simpa using fits⟩
      exact plain (inTake.subset (by simp))
    refine ⟨line ++ [newline], rawLines rest, ?_, ?_, ?_⟩
    · rw [shape, rawLines_append_newline linePlain]
    · rwa [contentLength_append_newline]
    · intro count within
      have inside : count ≤ line.length := within.trans exceedsLine.le
      have dropPlain : newline ∉ line.drop count :=
        fun member => linePlain (List.mem_of_mem_drop member)
      rw [shape, List.drop_append_of_le_length inside,
        rawLines_append_newline dropPlain,
        List.drop_append_of_le_length inside]
  · refine ⟨stream, [], ?_, ?_, ?_⟩
    · have notEmpty : stream ≠ [] :=
        List.ne_nil_of_length_pos (Nat.zero_lt_of_lt exceeds)
      rw [rawLines_of_not_mem terminated]
      simp [notEmpty]
    · rwa [contentLength_of_not_mem terminated]
    · intro count within
      have dropPlain : newline ∉ stream.drop count :=
        fun member => terminated (List.mem_of_mem_drop member)
      have notEmpty : stream.drop count ≠ [] := by
        apply List.ne_nil_of_length_pos
        rw [List.length_drop]
        omega
      rw [rawLines_of_not_mem dropPlain]
      simp [notEmpty]

variable (python results reads) in
/-- A read that does not wait leaves the overall result as it is. -/
theorem outcome_iterate
    {reader : Reader}
    {future : Bytes}
    {eof : Bool}
    (running : reader.client.running = true)
    (ready :
      newline ∈ reader.buffer ∨ maxLineBytes < reader.buffer.length) :
    outcome python results reads
          (iterate python results reads eof reader) future =
        outcome python results reads reader future ∧
      (iterate python results reads eof reader).buffer.length <
        reader.buffer.length := by
  rcases readuntil_cases reader.buffer eof with
    ⟨plain, fits, _⟩ | ⟨line, rest, plain, fits, isBuffer, found⟩ |
      ⟨plain, exceeds, found⟩
  · rcases ready with member | exceeds
    · exact absurd member plain
    · omega
  · have iterated :
        iterate python results reads eof reader =
          ⟨rest, reader.client.handleRaw python results
            (line ++ [newline])⟩ := by
      simp only [iterate, running, found, if_true]
    constructor
    · have fitsRaw :
          contentLength (line ++ [newline]) ≤ maxLineBytes := by
        rwa [contentLength_append_newline]
      rw [iterated, outcome, outcome, isBuffer, List.append_assoc,
        List.cons_append, rawLines_append_newline plain,
        List.foldl_cons, Client.readNext, if_pos running,
        Client.readLine_of_le fitsRaw]
    · rw [iterated, isBuffer]
      simp
      omega
  · have iterated :
        iterate python results reads eof reader =
          ⟨reader.buffer.drop (reads reader.client.consumed),
            reader.client.overrun reads⟩ := by
      simp only [iterate, running, found, if_true]
    obtain ⟨positive, within⟩ :=
      (reads reader.client.consumed).property
    constructor
    · have plainAll :
          newline ∉ (reader.buffer ++ future).take
            (maxLineBytes + 1) := by
        rwa [List.take_append_of_le_length exceeds]
      have exceedsAll :
          maxLineBytes < (reader.buffer ++ future).length := by
        rw [List.length_append]
        omega
      obtain ⟨raw, later, isLines, isLong, dropped⟩ :=
        rawLines_drop plainAll exceedsAll
      have rest :
          rawLines
              (reader.buffer.drop (reads reader.client.consumed) ++
                future) =
            raw.drop (reads reader.client.consumed) :: later := by
        rw [← List.drop_append_of_le_length (by omega)]
        exact dropped _ within
      have stillRunning : (reader.client.overrun reads).running = true :=
        running
      rw [iterated, outcome, outcome, isLines, rest,
        List.foldl_cons, List.foldl_cons, Client.readNext,
        Client.readNext, if_pos stillRunning, if_pos running,
        Client.readLine_of_lt isLong]
    · rw [iterated, List.length_drop]
      omega

/-- The loop has been left. -/
def Client.stop (client : Client) : Client :=
  { client with running := false }

theorem Client.stop_of_not_running
    {client : Client}
    (stopped : client.running = false) :
    client.stop = client := by
  rw [stop, ← stopped]

/-- The handler that has left the loop stays as it is. -/
theorem foldl_readNext_of_not_running
    {client : Client}
    (stopped : client.running = false)
    (lines : List Bytes) :
    lines.foldl (Client.readNext python results reads) client = client := by
  induction lines with
  | nil =>
      rfl
  | cons raw later inductionHypothesis =>
      rw [List.foldl_cons, Client.readNext, stopped]
      exact inductionHypothesis

theorem iterate_of_not_running
    {reader : Reader}
    (stopped : reader.client.running = false)
    (eof : Bool) :
    iterate python results reads eof reader = reader := by
  rw [iterate, stopped]
  rfl

theorem Client.running_handleRaw_of_not_mem
    {raw : Bytes}
    (plain : newline ∉ raw)
    (client : Client) :
    (client.handleRaw python results raw).running = false := by
  have unterminated : raw.getLast? ≠ some newline :=
    fun isLast => plain (List.mem_of_getLast? isLast)
  rw [handleRaw, if_neg unterminated]

/-- While bytes may still arrive, an iteration changes nothing overall. -/
theorem outcome_iterate_open (reader : Reader) (future : Bytes) :
    outcome python results reads
        (iterate python results reads false reader) future =
      outcome python results reads reader future := by
  cases running : reader.client.running with
  | false =>
      rw [iterate_of_not_running running]
  | true =>
      by_cases ready :
          newline ∈ reader.buffer ∨ maxLineBytes < reader.buffer.length
      · exact (outcome_iterate python results reads running ready).1
      · obtain ⟨plain, fits⟩ := not_or.mp ready
        rcases readuntil_cases reader.buffer false with
          ⟨_, _, found⟩ | ⟨line, rest, _, _, isBuffer, _⟩ |
            ⟨_, exceeds, _⟩
        · simp [iterate, running, found]
        · exact absurd (isBuffer ▸ by simp) plain
        · exact absurd exceeds fits

/-- Nor does an event, when what it brings is counted as arrived. -/
theorem outcome_react
    (reader : Reader)
    (event : ReaderEvent)
    (future : Bytes) :
    outcome python results reads
        (react python results reads reader event) future =
      outcome python results reads reader (event.arrives ++ future) := by
  cases event with
  | received bytes =>
      rw [outcome, outcome, react, List.append_assoc]
      rfl
  | resumed =>
      exact outcome_iterate_open reader future

variable (python results reads) in
/-- At the end of the stream an iteration without newline is the last. -/
theorem client_iterate_last
    {reader : Reader}
    (running : reader.client.running = true)
    (plain : newline ∉ reader.buffer)
    (fits : reader.buffer.length ≤ maxLineBytes) :
    (iterate python results reads true reader).client =
      (outcome python results reads reader []).stop := by
  have found : readuntil reader.buffer true = .incomplete reader.buffer := by
    rcases readuntil_cases reader.buffer true with
      ⟨_, _, found⟩ | ⟨line, rest, _, _, isBuffer, _⟩ | ⟨_, exceeds, _⟩
    · exact found
    · exact absurd (isBuffer ▸ by simp) plain
    · exact absurd exceeds (Nat.not_lt.mpr fits)
  rw [outcome, List.append_nil, rawLines_of_not_mem plain, iterate,
    if_pos running, found]
  by_cases isEmpty : reader.buffer.isEmpty = true
  · simp [isEmpty, Client.stop]
  · have fitsRaw : contentLength reader.buffer ≤ maxLineBytes := by
      rwa [contentLength_of_not_mem plain]
    have stopped :
        (reader.client.handleRaw python results reader.buffer).running =
          false :=
      Client.running_handleRaw_of_not_mem plain reader.client
    simp only [isEmpty, Bool.false_eq_true, if_false, List.foldl_cons,
      List.foldl_nil, Client.readNext, running, if_true,
      Client.readLine_of_le fitsRaw, Client.stop_of_not_running stopped]

/-- What the handler that has left the loop will have done. -/
theorem outcome_of_not_running
    {reader : Reader}
    (stopped : reader.client.running = false)
    (future : Bytes) :
    (outcome python results reads reader future).stop = reader.client := by
  rw [outcome, foldl_readNext_of_not_running stopped,
    Client.stop_of_not_running stopped]

variable (python results reads) in
/-- At the end of the stream an iteration takes bytes or is the last. -/
theorem client_iterate_progress
    {reader : Reader}
    (running : reader.client.running = true) :
    (outcome python results reads
          (iterate python results reads true reader) []).stop =
        (outcome python results reads reader []).stop ∧
      ((iterate python results reads true reader).client.running = false ∨
        (iterate python results reads true reader).buffer.length <
          reader.buffer.length) := by
  by_cases ready :
      newline ∈ reader.buffer ∨ maxLineBytes < reader.buffer.length
  · obtain ⟨same, shorter⟩ :=
      @outcome_iterate _ _ python results reads reader [] true running ready
    rw [same]
    exact ⟨rfl, Or.inr shorter⟩
  · obtain ⟨plain, fits⟩ := not_or.mp ready
    have isLast :=
      client_iterate_last python results reads running plain
        (Nat.not_lt.mp fits)
    have stopped :
        (iterate python results reads true reader).client.running =
          false := by
      rw [isLast]
      rfl
    rw [outcome_of_not_running stopped, isLast]
    exact ⟨rfl, Or.inl rfl⟩

/-- The handler reads the lines of the stream, whatever arrives when. -/
theorem handleClient_eq
    (runner : InferRunner)
    (events : List ReaderEvent) :
    handleClient python results reads runner events =
      ((rawLines (received events)).foldl
        (Client.readNext python results reads)
          ⟨runner, 0, [], true⟩).stop := by
  obtain ⟨same, _⟩ :=
    @InputLoop.foldl_outcome _ _ _ _ (react python results reads)
      ReaderEvent.arrives (outcome python results reads)
      (fun _ _ => True) (fun _ => ⟨outcome_react _ _ _, trivial⟩)
      (accept runner) events trivial
  obtain ⟨stopped, done⟩ :=
    @InputLoop.iterate_finishes _ _ (iterate python results reads true)
      (fun reader => reader.buffer.length)
      (fun reader => (outcome python results reads reader []).stop)
      (fun reader => reader.client.running = false) (fun _ => True)
      (fun stopped => iterate_of_not_running stopped true)
      (fun _ notStopped => by
        simpa using client_iterate_progress python results reads
          (Bool.of_not_eq_false notStopped))
      (events.foldl (react python results reads) (accept runner)) _ trivial
      (Nat.lt_succ_self _)
  calc
    handleClient python results reads runner events =
        (outcome python results reads
          (drain python results reads
            (events.foldl (react python results reads)
              (accept runner))) []).stop :=
      (outcome_of_not_running stopped []).symm
    _ = (outcome python results reads
          (events.foldl (react python results reads)
            (accept runner)) []).stop :=
      done
    _ = (outcome python results reads (accept runner)
          (received events)).stop :=
      congrArg Client.stop same

end Lines

/-! ## The counters follow the actions -/

section Accounts

variable
  {python : Interpreter Value}
  {results : Nat → LineResults Score}
  {reads : Nat → ReadSize}

/-- The counters are those at the start after the actions so far. -/
def Client.Accounted
    (python : Interpreter Value)
    (results : Nat → LineResults Score)
    (start : InferRunner)
    (client : Client) : Prop :=
  client.runner = client.actions.foldl (account python results) start

variable {start : InferRunner}

theorem Client.Accounted.overrun
    {client : Client}
    (accounted : client.Accounted python results start) :
    (client.overrun reads).Accounted python results start := by
  simp only [Accounted, Client.overrun, List.foldl_append] at accounted ⊢
  rw [← accounted]
  rfl

theorem Client.Accounted.handleRaw
    {client : Client}
    (accounted : client.Accounted python results start)
    (raw : Bytes) :
    (client.handleRaw python results raw).Accounted
      python results start := by
  rw [Accounted] at accounted
  by_cases blank : (strip (Utf8.decode raw)).isEmpty = true
  · simp only [Accounted, Client.handleRaw, blank, if_true]
    split <;> exact accounted
  · simp only [Accounted, Client.handleRaw, blank, Bool.false_eq_true,
      if_false]
    split <;> simp [← accounted, account]

theorem Client.Accounted.readLine
    {client : Client}
    (accounted : client.Accounted python results start)
    (raw : Bytes) :
    (client.readLine python results reads raw).Accounted
      python results start := by
  induction client, raw using Client.readLine.induct reads with
  | case1 client raw exceeds inductionHypothesis =>
      rw [readLine_of_lt exceeds]
      exact inductionHypothesis accounted.overrun
  | case2 client raw fits =>
      rw [readLine_of_le (Nat.not_lt.mp fits)]
      exact accounted.handleRaw raw

theorem Client.Accounted.foldl
    {client : Client}
    (accounted : client.Accounted python results start)
    (lines : List Bytes) :
    (lines.foldl (Client.readNext python results reads) client).Accounted
      python results start := by
  induction lines generalizing client with
  | nil =>
      exact accounted
  | cons raw later inductionHypothesis =>
      rw [List.foldl_cons]
      apply inductionHypothesis
      rw [readNext]
      split
      · exact accounted.readLine raw
      · exact accounted

end Accounts

/-! ## Whole lines -/

section Whole

variable
  {python : Interpreter Value}
  {results : Nat → LineResults Score}
  {reads : Nat → ReadSize}

theorem Client.handleRaw_of_blank
    {client : Client}
    {raw : Bytes}
    (running : client.running = true)
    (blank : textOf raw = []) :
    client.handleRaw python results raw =
      { client with
        consumed := client.consumed + raw.length
        running := decide (raw.getLast? = some newline) } := by
  rw [textOf] at blank
  by_cases terminated : raw.getLast? = some newline <;>
    simp [handleRaw, blank, terminated, running]

/-- A line with a text is handled, and the loop may end with it. -/
theorem Client.handleRaw_of_text
    {client : Client}
    {raw : Bytes}
    (text : textOf raw ≠ []) :
    (client.handleRaw python results raw).actions =
        client.actions ++ [.handled client.consumed (textOf raw)] ∧
      (client.handleRaw python results raw).consumed =
        client.consumed + raw.length ∧
      ((client.handleRaw python results raw).running = true ↔
        InferRunner.Decodes python (textOf raw) ∧
          raw.getLast? = some newline) := by
  rw [textOf] at text
  by_cases terminated : raw.getLast? = some newline
  · simp only [handleRaw, List.isEmpty_iff, text, terminated, if_true,
      if_false, textOf, and_true, true_and]
    exact InferRunner.handleLine_returns_iff
  · simp [handleRaw, text, terminated, textOf]

theorem StreamLine.wholeActions_eq_nil_iff {line : StreamLine} :
    line.wholeActions = [] ↔ line.IsQuiet := by
  rw [wholeActions, IsQuiet]
  by_cases isLong : line.IsLong
  · simp [isLong]
  · by_cases blank : textOf line.raw = [] <;> simp [isLong, blank]

theorem StreamLine.position_of_mem_wholeActions
    {line : StreamLine}
    {action : Action}
    (member : action ∈ line.wholeActions) :
    action.position = line.position := by
  rw [wholeActions] at member
  split at member
  · rw [List.mem_singleton.mp member]
    rfl
  · split at member
    · cases member
    · rw [List.mem_singleton.mp member]
      rfl

/-- What is done to later lines is done at later positions. -/
theorem le_position_of_mem_locate
    {start : Nat}
    {lines : List Bytes}
    {action : Action}
    (member :
      action ∈ (locate start lines).flatMap StreamLine.wholeActions) :
    start ≤ action.position := by
  induction lines generalizing start with
  | nil =>
      cases member
  | cons raw later inductionHypothesis =>
      rw [locate, List.flatMap_cons] at member
      rcases List.mem_append.mp member with isFirst | isLater
      · rw [StreamLine.position_of_mem_wholeActions isFirst]
      · have fromLater := inductionHypothesis isLater
        omega

/-- A line that does not upset the reader is done whole. -/
theorem Client.readLine_of_recovers
    {client : Client}
    {raw : Bytes}
    (running : client.running = true)
    (recovers : StreamLine.Recovers reads ⟨client.consumed, raw⟩) :
    (client.readLine python results reads raw).actions =
        client.actions ++
          StreamLine.wholeActions ⟨client.consumed, raw⟩ ∧
      (client.readLine python results reads raw).consumed =
        client.consumed + raw.length ∧
      ((client.readLine python results reads raw).running = true ↔
        ¬ StreamLine.Breaks python ⟨client.consumed, raw⟩ ∧
          raw.getLast? = some newline) := by
  by_cases isLong : maxLineBytes < contentLength raw
  · obtain ⟨fits, blank⟩ := recovers isLong
    dsimp only at fits blank
    obtain ⟨_, within⟩ := (reads client.consumed).property
    have inside : (reads client.consumed : Nat) < contentLength raw :=
      within.trans_lt isLong
    have shorter := contentLength_le_length raw
    have restFits :
        contentLength (raw.drop (reads client.consumed)) ≤
          maxLineBytes := by
      rw [contentLength_drop inside]
      omega
    have stillRunning : (client.overrun reads).running = true :=
      running
    rw [readLine_of_lt isLong, readLine_of_le restFits,
      handleRaw_of_blank stillRunning blank, getLast?_drop_of_lt inside]
    refine ⟨?_, ?_, ?_⟩
    · simp [Client.overrun, StreamLine.wholeActions, StreamLine.IsLong,
        isLong]
    · simp only [Client.overrun, List.length_drop]
      omega
    · simp [StreamLine.Breaks, StreamLine.IsLong, isLong]
  · rw [readLine_of_le (Nat.not_lt.mp isLong)]
    by_cases blank : textOf raw = []
    · rw [handleRaw_of_blank running blank]
      simp [StreamLine.wholeActions, StreamLine.Breaks,
        StreamLine.IsLong, isLong, blank]
    · obtain ⟨actions, consumed, continues⟩ :=
        @handleRaw_of_text _ _ python results client raw blank
      rw [actions, consumed, continues]
      simp [StreamLine.wholeActions, StreamLine.Breaks,
        StreamLine.IsLong, isLong, blank]

theorem Client.actions_prefix_readLine (client : Client) (raw : Bytes) :
    client.actions <+:
      (client.readLine python results reads raw).actions := by
  induction client, raw using Client.readLine.induct reads with
  | case1 client raw exceeds inductionHypothesis =>
      rw [readLine_of_lt exceeds]
      exact (List.prefix_append _ _).trans inductionHypothesis
  | case2 client raw fits =>
      rw [readLine_of_le (Nat.not_lt.mp fits), handleRaw]
      by_cases blank : (strip (Utf8.decode raw)).isEmpty = true
      · simp only [blank, if_true]
        split <;> exact List.prefix_refl _
      · simp only [blank, Bool.false_eq_true, if_false]
        split <;> exact List.prefix_append _ _

theorem actions_prefix_foldl (client : Client) (lines : List Bytes) :
    client.actions <+:
      (lines.foldl (Client.readNext python results reads)
        client).actions := by
  induction lines generalizing client with
  | nil =>
      exact List.prefix_refl _
  | cons raw later inductionHypothesis =>
      have one :
          client.actions <+:
            (client.readNext python results reads raw).actions := by
        rw [Client.readNext]
        split
        · exact client.actions_prefix_readLine raw
        · exact List.prefix_refl _
      exact one.trans (inductionHypothesis _)

/-- Of any other line a part is thrown away or handled after the first. -/
theorem Client.readLine_of_not_recovers
    {client : Client}
    {raw : Bytes}
    (upsets : ¬ StreamLine.Recovers reads ⟨client.consumed, raw⟩) :
    ∃ action : Action,
      client.actions ++ [.overrun client.consumed, action] <+:
          (client.readLine python results reads raw).actions ∧
        action.position < client.consumed + raw.length := by
  obtain ⟨isLong, remains⟩ := Classical.not_imp.mp upsets
  obtain ⟨_, within⟩ := (reads client.consumed).property
  have inside : (reads client.consumed : Nat) < contentLength raw :=
    within.trans_lt isLong
  have before :
      client.consumed + reads client.consumed <
        client.consumed + raw.length :=
    Nat.add_lt_add_left (inside.trans_le (contentLength_le_length raw)) _
  rw [readLine_of_lt isLong]
  by_cases restLong :
      maxLineBytes < contentLength (raw.drop (reads client.consumed))
  · refine
      ⟨.overrun (client.consumed + reads client.consumed), ?_, before⟩
    have done :=
      @actions_prefix_readLine _ _ python results reads
        ((client.overrun reads).overrun reads)
        ((raw.drop (reads client.consumed)).drop
          (reads (client.overrun reads).consumed))
    rw [readLine_of_lt restLong]
    simpa [overrun] using done
  · have fits :
        contentLength raw ≤ maxLineBytes + reads client.consumed := by
      rw [contentLength_drop inside] at restLong
      omega
    have text : textOf (raw.drop (reads client.consumed)) ≠ [] :=
      fun blank => remains ⟨fits, blank⟩
    refine
      ⟨.handled (client.consumed + reads client.consumed)
        (textOf (raw.drop (reads client.consumed))), ?_, before⟩
    rw [readLine_of_le (Nat.not_lt.mp restLong),
      (handleRaw_of_text text).1]
    simp [overrun]

theorem Harmless.nil : Harmless python reads [] where
  recovers := by simp
  unbroken := List.Pairwise.nil

theorem harmless_of_quiet
    {lines : List StreamLine}
    (quiet : ∀ line ∈ lines, line.IsQuiet) :
    Harmless python reads lines where
  recovers line member isLong := absurd isLong (quiet line member).1
  unbroken := by
    refine List.pairwise_of_forall_mem_list fun line member _ _ breaks => ?_
    exact absurd (quiet line member).2 breaks.2.1

theorem harmless_cons_iff
    {line : StreamLine}
    {later : List StreamLine} :
    Harmless python reads (line :: later) ↔
      line.Recovers reads ∧
        (line.Breaks python → ∀ other ∈ later, other.IsQuiet) ∧
          Harmless python reads later := by
  constructor
  · intro harmless
    obtain ⟨first, others⟩ := List.forall_mem_cons.mp harmless.recovers
    obtain ⟨quiet, unbroken⟩ := List.pairwise_cons.mp harmless.unbroken
    exact ⟨first, fun breaks other member => quiet other member breaks,
      others, unbroken⟩
  · rintro ⟨first, quiet, others, unbroken⟩
    exact ⟨List.forall_mem_cons.mpr ⟨first, others⟩,
      List.pairwise_cons.mpr
        ⟨fun other member breaks => quiet breaks other member, unbroken⟩⟩

/-- A line that is not done whole is seen in the actions. -/
theorem actions_foldl_ne
    {client : Client}
    {raw : Bytes}
    (upsets : ¬ StreamLine.Recovers reads ⟨client.consumed, raw⟩)
    (later : List Bytes) :
    (later.foldl (Client.readNext python results reads)
        (client.readLine python results reads raw)).actions ≠
      client.actions ++
        (StreamLine.wholeActions ⟨client.consumed, raw⟩ ++
          (locate (client.consumed + raw.length) later).flatMap
            StreamLine.wholeActions) := by
  intro same
  obtain ⟨action, started, before⟩ :=
    @Client.readLine_of_not_recovers _ _ python results reads client raw
      upsets
  have isLong : StreamLine.IsLong ⟨client.consumed, raw⟩ :=
    (Classical.not_imp.mp upsets).1
  have whole :=
    started.trans
      (@actions_prefix_foldl _ _ python results reads
        (client.readLine python results reads raw) later)
  rw [same, List.prefix_append_right_inj, StreamLine.wholeActions,
    if_pos isLong, List.singleton_append, List.cons_prefix_cons] at whole
  -- Whatever follows the first read belongs to a later line.
  have member := whole.2.subset List.mem_cons_self
  have after := le_position_of_mem_locate member
  omega

/-- The rest of the stream is done whole exactly when it is harmless. -/
theorem actions_foldl_iff
    {client : Client}
    {lines : List Bytes}
    (running : client.running = true)
    (terminated : lines.Pairwise fun raw _ => raw.getLast? = some newline) :
    (lines.foldl (Client.readNext python results reads) client).actions =
        client.actions ++
          (locate client.consumed lines).flatMap StreamLine.wholeActions ↔
      Harmless python reads (locate client.consumed lines) := by
  induction lines generalizing client with
  | nil =>
      simpa [locate] using Harmless.nil
  | cons raw later inductionHypothesis =>
      obtain ⟨terminatedRaw, terminatedLater⟩ :=
        List.pairwise_cons.mp terminated
      rw [locate, List.flatMap_cons, harmless_cons_iff, List.foldl_cons,
        Client.readNext, if_pos running]
      by_cases recovers :
          StreamLine.Recovers reads ⟨client.consumed, raw⟩
      · obtain ⟨actions, consumed, continues⟩ :=
          @Client.readLine_of_recovers _ _ python results reads client raw
            running recovers
        rw [← consumed, ← List.append_assoc, ← actions]
        by_cases goesOn :
            (client.readLine python results reads raw).running = true
        · rw [inductionHypothesis goesOn terminatedLater]
          have unbroken := (continues.mp goesOn).1
          simp [recovers, unbroken]
        · have quietly :
              ((client.readLine python results reads raw).actions =
                  (client.readLine python results reads raw).actions ++
                    (locate (client.readLine python results reads
                      raw).consumed later).flatMap
                        StreamLine.wholeActions) ↔
                ∀ other ∈ locate (client.readLine python results reads
                    raw).consumed later, other.IsQuiet := by
            simp [StreamLine.wholeActions_eq_nil_iff]
          rw [foldl_readNext_of_not_running
            (Bool.eq_false_of_not_eq_true goesOn), quietly]
          cases later with
          | nil =>
              simp [locate, recovers, Harmless.nil]
          | cons other others =>
              have breaks :
                  StreamLine.Breaks python ⟨client.consumed, raw⟩ := by
                by_contra unbroken
                exact goesOn (continues.mpr
                  ⟨unbroken, terminatedRaw other List.mem_cons_self⟩)
              constructor
              · intro quiet
                exact ⟨recovers, fun _ => quiet, harmless_of_quiet quiet⟩
              · rintro ⟨_, quiet, _⟩
                exact quiet breaks
      · exact iff_of_false (actions_foldl_ne recovers later)
          fun harmless => recovers harmless.1

/-- Only the last line of a stream may lack its newline. -/
theorem pairwise_rawLines (stream : Bytes) :
    (rawLines stream).Pairwise
      fun raw _ => raw.getLast? = some newline := by
  rw [rawLines, List.pairwise_append]
  refine ⟨?_, ?_, ?_⟩
  · rw [List.pairwise_map]
    exact List.pairwise_of_forall fun line _ => List.getLast?_concat
  · split
    · exact List.Pairwise.nil
    · exact List.pairwise_singleton _ _
  · intro raw member _ _
    obtain ⟨line, _, rfl⟩ := List.mem_map.mp member
    exact List.getLast?_concat

theorem actions_handleClient_iff
    (start : InferRunner)
    (events : List ReaderEvent) :
    (handleClient python results reads start events).actions =
        wholeActions (received events) ↔
      Harmless python reads (linesOf (received events)) := by
  have started :=
    @actions_foldl_iff _ _ python results reads ⟨start, 0, [], true⟩
      (rawLines (received events)) rfl (pairwise_rawLines _)
  rw [handleClient_eq]
  exact started

theorem accounted_handleClient
    (start : InferRunner)
    (events : List ReaderEvent) :
    (handleClient python results reads start events).Accounted
      python results start := by
  have nothing :
      Client.Accounted python results start ⟨start, 0, [], true⟩ :=
    rfl
  rw [handleClient_eq]
  exact nothing.foldl _

/-- The loop is left after every connection. -/
theorem running_handleClient
    (start : InferRunner)
    (events : List ReaderEvent) :
    (handleClient python results reads start events).running = false := by
  rw [handleClient_eq]
  rfl

/--
However the bytes arrive, the over-long lines are dropped whole exactly when
one read leaves no more than a blank of each, and nothing is left to do after
a line that breaks the loop.
-/
theorem overlong_dropped_whole_iff
    (python : Interpreter Value)
    (results : Nat → LineResults Score)
    (reads : Nat → ReadSize)
    (start : InferRunner)
    (events : List ReaderEvent) :
    DropsWhole python results start (received events)
        (handleClient python results reads start events) ↔
      Harmless python reads (linesOf (received events)) := by
  rw [← actions_handleClient_iff start events]
  constructor
  · intro dropsWhole
    exact dropsWhole.actions
  · intro actions
    refine ⟨actions, ?_⟩
    rw [← actions]
    exact accounted_handleClient start events

end Whole

/-- CPython's `read` returns as much as it may. -/
def fullReads : Nat → ReadSize :=
  fun _ => ⟨maxLineBytes, by decide, Nat.le_refl _⟩

section Reader

variable
  {python : Interpreter Value}
  {results : Nat → LineResults Score}
  {exceedsLimits : List Char → Bool}

/-- The reader that keeps the decoded lines ends its loop alike. -/
theorem running_handleRaw
    (agrees :
      ∀ line, (python.decoder.loads line).loaded = loads exceedsLimits line)
    {client : Client}
    (running : client.running = true)
    (decoded : List (List Char))
    (raw : Bytes) :
    (InferReader.handleRaw exceedsLimits ⟨decoded, true⟩ raw).running =
      (client.handleRaw python results raw).running := by
  have returns :
      (client.runner.handleLine python (strip (Utf8.decode raw))
          (results client.consumed)).2.isSome =
        (InferReader.handleLine exceedsLimits ⟨decoded, true⟩
          (strip (Utf8.decode raw))).running := by
    rw [Bool.eq_iff_iff, InferRunner.handleLine_returns_iff,
      InferReader.handleLine, ← agrees, InferRunner.Decodes,
      Interpreter.decoder]
    cases loaded : python.loads (strip (Utf8.decode raw)) with
    | ok doc =>
        simp [loaded, InferTasks.Loads.loaded]
    | error exception =>
        cases exception <;> simp [loaded, InferTasks.Loads.loaded]
  simp only [InferReader.handleRaw, Client.handleRaw]
  by_cases blank : (strip (Utf8.decode raw)).isEmpty = true
  · simp only [blank, if_true]
    split <;> simp [running]
  · simp only [blank, Bool.false_eq_true, if_false]
    split
    · exact returns.symm
    · rfl

/-- An iteration is one of that reader, if `read` returns all it may. -/
theorem iterate_agrees
    (agrees :
      ∀ line, (python.decoder.loads line).loaded = loads exceedsLimits line)
    {reader : Reader}
    (running : reader.client.running = true)
    (decoded : List (List Char))
    (eof : Bool) :
    (InferReader.iterate exceedsLimits eof
          ⟨reader.buffer, ⟨decoded, true⟩⟩).buffer =
        (iterate python results fullReads eof reader).buffer ∧
      (InferReader.iterate exceedsLimits eof
          ⟨reader.buffer, ⟨decoded, true⟩⟩).task.running =
        (iterate python results fullReads eof reader).client.running := by
  simp only [InferReader.iterate, iterate, running, if_true]
  cases readuntil reader.buffer eof with
  | line raw rest =>
      exact ⟨rfl, running_handleRaw agrees running decoded raw⟩
  | incomplete raw =>
      by_cases isEmpty : raw.isEmpty = true
      · simp [isEmpty]
      · simp only [isEmpty]
        exact ⟨rfl, running_handleRaw agrees running decoded raw⟩
  | overrun =>
      exact ⟨rfl, running.symm⟩
  | waits =>
      exact ⟨rfl, running.symm⟩

end Reader

section Runaway

/-- A line that is one byte beyond the limit, of ones. -/
def runaway : Bytes :=
  List.replicate (maxLineBytes + 1) 0x31 ++ [newline]

theorem rawLines_runaway : rawLines runaway = [runaway] := by
  have plain : newline ∉ List.replicate (maxLineBytes + 1) (0x31 : UInt8) := by
    intro member
    exact absurd (List.eq_of_mem_replicate member) (by decide)
  exact rawLines_append_newline plain []

theorem drop_runaway : runaway.drop maxLineBytes = [0x31, newline] := by
  rw [runaway, List.drop_append_of_le_length (by simp),
    List.drop_replicate, Nat.add_sub_cancel_left]
  rfl

theorem contentLength_runaway :
    contentLength runaway = maxLineBytes + 1 := by
  rw [runaway, contentLength_append_newline, List.length_replicate]

/-- No frame can be scored. -/
def unscored : Nat → LineResults Rat :=
  fun _ => ⟨none, .raised⟩

/-- The handler after a connection with the one line. -/
def afterRunaway : Client :=
  handleClient digitLimit unscored fullReads freshRunner
    [.received runaway]

theorem received_runaway : received [.received runaway] = runaway :=
  List.append_nil runaway

theorem runaway_isLong : StreamLine.IsLong ⟨0, runaway⟩ := by
  rw [StreamLine.IsLong, contentLength_runaway]
  exact Nat.lt_succ_self _

theorem wholeActions_runaway : wholeActions runaway = [.overrun 0] := by
  rw [wholeActions, linesOf, rawLines_runaway, locate, locate,
    List.flatMap_singleton, StreamLine.wholeActions,
    if_pos runaway_isLong]

theorem actions_afterRunaway :
    afterRunaway.actions = [.overrun 0, .handled maxLineBytes ['1']] := by
  have fits : contentLength [0x31, newline] ≤ maxLineBytes := by
    decide
  have text : textOf [0x31, newline] = ['1'] := by
    decide
  have handled :=
    @Client.handleRaw_of_text _ _ digitLimit unscored
      (Client.overrun fullReads ⟨freshRunner, 0, [], true⟩)
      [0x31, newline] (by rw [text]; decide)
  rw [afterRunaway, handleClient_eq, received_runaway, rawLines_runaway,
    List.foldl_cons, List.foldl_nil, Client.readNext, if_pos rfl,
    Client.readLine_of_lt runaway_isLong]
  simp only [fullReads] at handled ⊢
  rw [drop_runaway, Client.readLine_of_le fits, Client.stop]
  simp only
  rw [handled.1, text]
  rfl

/-- The last byte of the line is handled as a line of its own. -/
theorem overlong_tail_is_handled :
    Action.handled maxLineBytes ['1'] ∈ afterRunaway.actions ∧
      ¬ DropsWhole digitLimit unscored freshRunner
        (received [.received runaway]) afterRunaway := by
  rw [received_runaway]
  constructor
  · simp [actions_afterRunaway]
  · intro dropsWhole
    have same := dropsWhole.actions
    rw [actions_afterRunaway, wholeActions_runaway] at same
    simp at same

end Runaway

end InferOverruns

end OpticsSoftfail
