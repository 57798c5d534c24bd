import OpticsSoftfail.InferOverruns

namespace OpticsSoftfail

namespace InferServing

open InferCounters InferOverruns
open InferReader (received rawLines rawLines_append_newline readuntil_cases)

/-!
# Lines that break the read loop of infer

The loop of `_handle_client` goes on after every line that `handle_line` returns
from.  A runner serves several connections; what the others do to its counters
is left open by starting from any counts.
-/

/-- A line of the stream, without its newline. -/
structure PlainLine where
  content : Bytes
  plain : newline ∉ content

namespace PlainLine

/-- The line as it is sent. -/
def raw (line : PlainLine) : Bytes :=
  line.content ++ [newline]

/-- The text that is handled. -/
def text (line : PlainLine) : List Char :=
  textOf line.raw

end PlainLine

/-- The bytes of the lines. -/
def wire (lines : List PlainLine) : Bytes :=
  lines.flatMap PlainLine.raw

/-- The texts to handle: those that are not blank. -/
def textsOf (lines : List PlainLine) : List (List Char) :=
  (lines.map PlainLine.text).filter fun text => !text.isEmpty

/-- The string of an action that passes one to `handle_line`. -/
def handledLine? : InferOverruns.Action → Option (List Char)
  | .overrun _ => none
  | .handled _ line => some line

/-- The strings passed to `handle_line`. -/
def handledLines (client : Client) : List (List Char) :=
  client.actions.filterMap handledLine?

/-- Frames and dropped lines together. -/
def total (runner : InferRunner) : Nat :=
  runner.frames + runner.dropped

/--
The connection is still read; every line that is not blank has been handled, in
order, and every line handled has been counted.
-/
structure Serving
    (start : InferRunner)
    (lines : List PlainLine)
    (client : Client) : Prop where
  reading : client.running = true
  handled : handledLines client = textsOf lines
  counted : total client.runner = total start + (handledLines client).length

variable {Value Score : Type}

/-- From any counts `handle_line` returns, and raises one counter by one. -/
def HandledOnce
    (Score : Type)
    (python : Interpreter Value)
    (text : List Char) : Prop :=
  ∀ (runner : InferRunner) (results : LineResults Score),
    (runner.handleLine python text results).2.isSome = true ∧
      InferRunner.CountsOnce runner (runner.handleLine python text results).1

section Model

variable
  (python : Interpreter Value)
  (results : Nat → LineResults Score)
  (reads : Nat → ReadSize)
  (start : InferRunner)

/-- The reader of a new connection after the events. -/
def readerAfter (events : List ReaderEvent) : Reader :=
  events.foldl (react python results reads) (accept start)

/-- The loop has been left, or waits for more bytes. -/
def Idle (reader : Reader) : Prop :=
  iterate python results reads false reader = reader

/-- The handler after the lines, read one by one. -/
def readLines (lines : List PlainLine) : Client :=
  (lines.map PlainLine.raw).foldl (Client.readNext python results reads)
    ⟨start, 0, [], true⟩

/--
No line breaks the loop: each is handled once, and however the bytes of the
first lines arrive, the connection is served through them.
-/
structure LinesServed (lines : List PlainLine) : Prop where
  handledOnce : ∀ text ∈ textsOf lines, HandledOnce Score python text
  serving :
    ∀ done later events,
      lines = done ++ later →
      received events = wire done →
      Idle python results reads
        (readerAfter python results reads start events) →
      Serving start done
        (readerAfter python results reads start events).client

/-- The line is within the limit, and decodes unless it is blank. -/
def Harmless (line : PlainLine) : Prop :=
  line.content.length ≤ maxLineBytes ∧
    (line.text ≠ [] → InferRunner.Decodes python line.text)

end Model

section Lines

/-! ## Line by line -/

variable
  {python : Interpreter Value}
  {results : Nat → LineResults Score}
  {reads : Nat → ReadSize}
  {start : InferRunner}

/-- While the loop goes on, every action has raised one counter. -/
def Tallied (start : InferRunner) (client : Client) : Prop :=
  client.running = true →
    total client.runner = total start + client.actions.length

theorem tallied_accept (start : InferRunner) :
    Tallied start ⟨start, 0, [], true⟩ :=
  fun _ => rfl

theorem Tallied.overrun
    {client : Client}
    (tallied : Tallied start client) :
    Tallied start (client.overrun reads) := by
  intro running
  have before := tallied running
  simp only [total, Client.overrun, List.length_append,
    List.length_singleton] at before ⊢
  omega

/-- A line that was handled without an exception is counted. -/
theorem Tallied.handleRaw
    {client : Client}
    (tallied : Tallied start client)
    (wasRunning : client.running = true)
    (raw : Bytes) :
    Tallied start (client.handleRaw python results raw) := by
  intro running
  have before := tallied wasRunning
  by_cases blank : textOf raw = []
  · rw [Client.handleRaw_of_blank wasRunning blank]
    exact before
  · obtain ⟨actions, _, continues⟩ :=
      @Client.handleRaw_of_text _ _ python results client raw blank
    have counted :=
      InferRunner.handleLine_countsOnce (continues.mp running).1
        client.runner (results client.consumed)
    have isRunner :
        (client.handleRaw python results raw).runner =
          (client.runner.handleLine python (textOf raw)
            (results client.consumed)).1 := by
      rw [textOf] at blank
      simp only [Client.handleRaw, List.isEmpty_iff, blank, if_false,
        textOf]
      split <;> rfl
    rw [isRunner, actions, List.length_append, List.length_singleton]
    rcases counted with ⟨frames, dropped⟩ | ⟨frames, dropped⟩ <;>
      simp only [total, frames, dropped] at before ⊢ <;> omega

theorem Tallied.readLine
    {client : Client}
    (tallied : Tallied start client)
    (running : client.running = true)
    (raw : Bytes) :
    Tallied start (client.readLine python results reads raw) := by
  induction client, raw using Client.readLine.induct reads with
  | case1 client raw exceeds inductionHypothesis =>
      rw [Client.readLine_of_lt exceeds]
      exact inductionHypothesis tallied.overrun running
  | case2 client raw fits =>
      rw [Client.readLine_of_le (Nat.not_lt.mp fits)]
      exact tallied.handleRaw running raw

theorem Tallied.readNext
    {client : Client}
    (tallied : Tallied start client)
    (raw : Bytes) :
    Tallied start (client.readNext python results reads raw) := by
  rw [Client.readNext]
  split
  · rename_i running
    exact tallied.readLine running raw
  · exact tallied

theorem readLines_concat
    (earlier : List PlainLine)
    (line : PlainLine) :
    readLines python results reads start (earlier ++ [line]) =
      (readLines python results reads start earlier).readNext
        python results reads line.raw := by
  simp [readLines]

theorem tallied_readLines (lines : List PlainLine) :
    Tallied start (readLines python results reads start lines) := by
  induction lines using List.reverseRecOn with
  | nil =>
      exact tallied_accept start
  | append_singleton earlier line inductionHypothesis =>
      rw [readLines_concat]
      exact inductionHypothesis.readNext line.raw

theorem PlainLine.contentLength_raw (line : PlainLine) :
    contentLength line.raw = line.content.length :=
  contentLength_append_newline line.content

theorem PlainLine.getLast?_raw (line : PlainLine) :
    line.raw.getLast? = some newline :=
  List.getLast?_concat

theorem textsOf_concat (earlier : List PlainLine) (line : PlainLine) :
    textsOf (earlier ++ [line]) =
      textsOf earlier ++ if line.text = [] then [] else [line.text] := by
  by_cases blank : line.text = [] <;> simp [textsOf, blank]

/-- A connection that is served has not overrun a line. -/
theorem Serving.overrun_not_mem
    {lines : List PlainLine}
    {client : Client}
    (serving : Serving start lines client)
    (tallied : Tallied start client)
    (position : Nat) :
    .overrun position ∉ client.actions := by
  have everyAction :
      (client.actions.filterMap handledLine?).length =
        client.actions.length := by
    have counted := serving.counted
    have every := tallied serving.reading
    rw [handledLines] at counted
    omega
  rw [List.filterMap_length_eq_length] at everyAction
  intro member
  exact absurd (everyAction _ member) (by simp [handledLine?])

/-- One more line keeps a connection served exactly when it is harmless. -/
theorem serving_readNext_iff
    {earlier : List PlainLine}
    {client : Client}
    (serving : Serving start earlier client)
    (tallied : Tallied start client)
    (line : PlainLine) :
    Serving start (earlier ++ [line])
        (client.readNext python results reads line.raw) ↔
      Harmless python line := by
  rw [Client.readNext, if_pos serving.reading]
  by_cases exceeds : maxLineBytes < contentLength line.raw
  · refine iff_of_false ?_ ?_
    · intro after
      have overrun :
          client.actions ++ [.overrun client.consumed] <+:
            (client.readLine python results reads line.raw).actions := by
        rw [Client.readLine_of_lt exceeds]
        exact (client.overrun reads).actions_prefix_readLine _
      exact after.overrun_not_mem
        (tallied.readLine serving.reading line.raw) client.consumed
        (overrun.subset (by simp))
    · rintro ⟨fits, _⟩
      rw [line.contentLength_raw] at exceeds
      omega
  · have fits : line.content.length ≤ maxLineBytes := by
      rw [← line.contentLength_raw]
      exact Nat.not_lt.mp exceeds
    rw [Client.readLine_of_le (Nat.not_lt.mp exceeds)]
    by_cases blank : line.text = []
    · rw [Client.handleRaw_of_blank serving.reading blank]
      refine iff_of_true ⟨?_, ?_, serving.counted⟩ ⟨fits, ?_⟩
      · simp [line.getLast?_raw]
      · rw [textsOf_concat, if_pos blank, List.append_nil]
        exact serving.handled
      · exact fun text => absurd blank text
    · obtain ⟨actions, _, continues⟩ :=
        @Client.handleRaw_of_text _ _ python results client line.raw blank
      have handled :
          handledLines (client.handleRaw python results line.raw) =
            handledLines client ++ [line.text] := by
        rw [handledLines, actions, List.filterMap_append]
        rfl
      constructor
      · intro after
        exact ⟨fits, fun _ => (continues.mp after.reading).1⟩
      · rintro ⟨_, decodes⟩
        have reading :=
          continues.mpr ⟨decodes blank, line.getLast?_raw⟩
        have counted :=
          tallied.handleRaw serving.reading line.raw reading
        have before := tallied serving.reading
        refine ⟨reading, ?_, ?_⟩
        · rw [handled, textsOf_concat, if_neg blank, serving.handled]
        · rw [counted, handled, actions, List.length_append,
            List.length_append, ← Nat.add_assoc, ← before,
            serving.counted, Nat.add_assoc]
          rfl

/-- A connection is served through harmless lines. -/
theorem serving_readLines
    {lines : List PlainLine}
    (harmless : ∀ line ∈ lines, Harmless python line) :
    Serving start lines (readLines python results reads start lines) := by
  induction lines using List.reverseRecOn with
  | nil =>
      exact ⟨rfl, rfl, rfl⟩
  | append_singleton earlier line inductionHypothesis =>
      obtain ⟨first, last⟩ := List.forall_mem_append.mp harmless
      rw [readLines_concat]
      exact (serving_readNext_iff (inductionHypothesis first)
        (tallied_readLines earlier) line).mpr (last line (by simp))

end Lines

section Arrivals

/-! ## However the bytes arrive -/

variable
  {python : Interpreter Value}
  {results : Nat → LineResults Score}
  {reads : Nat → ReadSize}
  {start : InferRunner}

theorem rawLines_wire (lines : List PlainLine) :
    rawLines (wire lines) = lines.map PlainLine.raw := by
  induction lines with
  | nil =>
      rfl
  | cons line later inductionHypothesis =>
      rw [wire, List.flatMap_cons, PlainLine.raw, List.append_assoc,
        List.singleton_append, rawLines_append_newline line.plain,
        ← wire, inductionHypothesis]
      rfl

/-- Lines end with a newline. -/
theorem getLast?_wire (lines : List PlainLine) :
    wire lines = [] ∨ (wire lines).getLast? = some newline := by
  cases lines using List.reverseRecOn with
  | nil =>
      exact Or.inl rfl
  | append_singleton earlier line =>
      refine Or.inr ?_
      rw [wire, List.flatMap_append, List.flatMap_singleton,
        PlainLine.raw, ← List.append_assoc]
      exact List.getLast?_concat

/-- The loop takes bytes from the front of the buffer. -/
theorem buffer_iterate_suffix (reader : Reader) :
    (iterate python results reads false reader).buffer <:+
      reader.buffer := by
  rw [iterate]
  split
  · rcases readuntil_cases reader.buffer false with
      ⟨_, _, found⟩ | ⟨line, rest, _, _, isBuffer, found⟩ | ⟨_, _, found⟩
    · simp [found]
    · rw [found]
      exact ⟨line ++ [newline], by simp [isBuffer]⟩
    · rw [found]
      exact List.drop_suffix _ _
  · exact List.suffix_refl _

/-- What is buffered arrived last. -/
theorem buffer_readerAfter_suffix (events : List ReaderEvent) :
    (readerAfter python results reads start events).buffer <:+
      received events := by
  induction events using List.reverseRecOn with
  | nil =>
      exact List.suffix_refl _
  | append_singleton earlier event inductionHypothesis =>
      rw [readerAfter, List.foldl_append, ← readerAfter, received,
        List.flatMap_append, ← received]
      cases event with
      | received bytes =>
          obtain ⟨taken, isReceived⟩ := inductionHypothesis
          exact ⟨taken, by simp [react, ← isReceived]⟩
      | resumed =>
          simpa [react] using
            (buffer_iterate_suffix _).trans inductionHypothesis

/-- Of whole lines nothing stays buffered but a newline with it. -/
theorem eq_nil_of_suffix_wire
    {buffer : Bytes}
    {lines : List PlainLine}
    (suffix : buffer <:+ wire lines)
    (plain : newline ∉ buffer) :
    buffer = [] := by
  by_contra notEmpty
  obtain ⟨taken, isWire⟩ := suffix
  have isLast : buffer.getLast? = (wire lines).getLast? := by
    rw [← isWire, List.getLast?_append_of_ne_nil _ notEmpty]
  rcases getLast?_wire lines with nothing | newlineLast
  · rw [nothing] at isWire
    exact notEmpty (List.append_eq_nil_iff.mp isWire).2
  · exact plain (List.mem_of_getLast? (isLast.trans newlineLast))

/-- An idle loop with nothing buffered but whole lines is done with them. -/
theorem outcome_of_idle
    {reader : Reader}
    {lines : List PlainLine}
    (buffered : reader.buffer <:+ wire lines)
    (idle : Idle python results reads reader) :
    outcome python results reads reader [] = reader.client := by
  rw [outcome, List.append_nil]
  cases running : reader.client.running with
  | false =>
      exact foldl_readNext_of_not_running running _
  | true =>
      have notReady :
          ¬ (newline ∈ reader.buffer ∨
            maxLineBytes < reader.buffer.length) := by
        intro ready
        obtain ⟨_, shorter⟩ :=
          @outcome_iterate _ _ python results reads reader [] false
            running ready
        rw [idle] at shorter
        exact Nat.lt_irrefl _ shorter
      rw [eq_nil_of_suffix_wire buffered (not_or.mp notReady).1]
      rfl

/-- A loop that waits for the next line has read the lines there are. -/
theorem client_of_idle
    {lines : List PlainLine}
    {events : List ReaderEvent}
    (sent : received events = wire lines)
    (idle :
      Idle python results reads
        (readerAfter python results reads start events)) :
    (readerAfter python results reads start events).client =
      readLines python results reads start lines := by
  obtain ⟨same, _⟩ :=
    @InputLoop.foldl_outcome _ _ _ _ (react python results reads)
      ReaderEvent.arrives (outcome python results reads)
      (fun _ _ => True) (fun _ => ⟨outcome_react _ _ _, trivial⟩)
      (accept start) events trivial
  have buffered :=
    @buffer_readerAfter_suffix _ _ python results reads start events
  rw [sent] at buffered
  calc
    (readerAfter python results reads start events).client =
        outcome python results reads
          (readerAfter python results reads start events) [] :=
      (outcome_of_idle buffered idle).symm
    _ = outcome python results reads (accept start) (received events) :=
      same
    _ = readLines python results reads start lines := by
      rw [outcome, sent, accept, List.nil_append, rawLines_wire,
        readLines]

/-- The loop comes to wait, if it is not left. -/
theorem exists_idle (stream : Bytes) :
    ∃ events,
      received events = stream ∧
        Idle python results reads
          (readerAfter python results reads start events) := by
  have works {reader : Reader} (notIdle : ¬ Idle python results reads reader) :
      (iterate python results reads false reader).buffer.length <
        reader.buffer.length := by
    cases running : reader.client.running with
    | false =>
        exact absurd (iterate_of_not_running running false) notIdle
    | true =>
        by_cases ready :
            newline ∈ reader.buffer ∨ maxLineBytes < reader.buffer.length
        · exact (@outcome_iterate _ _ python results reads reader [] false
            running ready).2
        · obtain ⟨plain, fits⟩ := not_or.mp ready
          rcases readuntil_cases reader.buffer false with
            ⟨_, _, found⟩ | ⟨line, rest, _, _, isBuffer, _⟩ |
              ⟨_, exceeds, _⟩
          · exact absurd (by simp [Idle, iterate, running, found]) notIdle
          · exact absurd (isBuffer ▸ by simp) plain
          · exact absurd exceeds fits
  obtain ⟨idle, _⟩ :=
    @InputLoop.iterate_finishes _ _ (iterate python results reads false)
      (fun reader => reader.buffer.length) (fun _ => ())
      (Idle python results reads) (fun _ => True)
      (fun idle => idle)
      (fun _ notIdle => ⟨rfl, Or.inr ⟨trivial, works notIdle⟩⟩)
      ⟨stream, ⟨start, 0, [], true⟩⟩ (stream.length + 1) trivial
      (Nat.lt_succ_self _)
  have resumes (reader : Reader) (count : Nat) :
      (List.replicate count ReaderEvent.resumed).foldl
          (react python results reads) reader =
        (iterate python results reads false)^[count] reader := by
    induction count generalizing reader with
    | zero =>
        rfl
    | succ count inductionHypothesis =>
        rw [List.replicate_succ, List.foldl_cons, inductionHypothesis,
          Function.iterate_succ_apply]
        rfl
  refine ⟨.received stream ::
    List.replicate (stream.length + 1) .resumed, ?_, ?_⟩
  · simp [received, List.flatMap_replicate]
  · rw [readerAfter, List.foldl_cons, resumes]
    exact idle

/--
However the bytes arrive, the connection is served exactly when every line is
within the limit and `json.loads` raises nothing but decoding errors for it.
-/
theorem lines_served_iff_harmless
    (python : Interpreter Value)
    (results : Nat → LineResults Score)
    (reads : Nat → ReadSize)
    (start : InferRunner)
    (lines : List PlainLine) :
    LinesServed python results reads start lines ↔
      ∀ line ∈ lines, Harmless python line := by
  constructor
  · intro served line member
    obtain ⟨earlier, later, isLines⟩ := List.append_of_mem member
    have servedThrough (done rest : List PlainLine)
        (split : lines = done ++ rest) :
        Serving start done
          (readLines python results reads start done) := by
      obtain ⟨events, sent, idle⟩ :=
        @exists_idle _ _ python results reads start (wire done)
      rw [← client_of_idle sent idle]
      exact served.serving done rest events split sent idle
    have before := servedThrough earlier (line :: later) isLines
    have after :=
      servedThrough (earlier ++ [line]) later (by simp [isLines])
    rw [readLines_concat] at after
    exact (serving_readNext_iff before (tallied_readLines earlier)
      line).mp after
  · intro harmless
    refine ⟨?_, ?_⟩
    · intro text member runner handling
      obtain ⟨inTexts, notBlank⟩ := List.mem_filter.mp member
      obtain ⟨line, isLine, rfl⟩ := List.mem_map.mp inTexts
      have decodes : InferRunner.Decodes python line.text :=
        (harmless line isLine).2 (by simpa using notBlank)
      exact ⟨InferRunner.handleLine_returns_iff.mpr decodes,
        InferRunner.handleLine_countsOnce decodes runner handling⟩
    · rintro done later events rfl sent idle
      rw [client_of_idle sent idle]
      exact serving_readLines
        (List.forall_mem_append.mp harmless).1

end Arrivals

section Integers

/-! Lines that are one integer literal each. -/

/-- A text of ones. -/
def ones (count : Nat) : List Char :=
  List.replicate count '1'

theorem length_ones (count : Nat) : (ones count).length = count :=
  List.length_replicate

theorem loads_ones {count : Nat} (long : 4300 < count) :
    digitLimit.loads (ones count) = .error .valueError := by
  rw [← length_ones count] at long
  simp only [digitLimit, if_neg (not_le.mpr long)]

theorem newline_not_mem_encode_ones (count : Nat) :
    newline ∉ Utf8.encode (ones count) := by
  intro member
  obtain ⟨char, isOne, encoded⟩ := List.mem_flatMap.mp member
  rw [List.eq_of_mem_replicate isOne] at encoded
  exact absurd encoded (by decide)

def onesLine (count : Nat) : PlainLine where
  content := Utf8.encode (ones count)
  plain := newline_not_mem_encode_ones count

theorem text_onesLine (count : Nat) :
    (onesLine count).text = ones count := by
  have decoded :
      Utf8.decode (onesLine count).raw = ones count ++ ['\n'] :=
    Utf8.decode_encode_append (ones count) [newline]
  have kept : (ones count).rdropWhile isSpace = ones count := by
    cases count with
    | zero =>
        rfl
    | succ count =>
        rw [ones, List.replicate_succ',
          List.rdropWhile_concat_neg _ _ _ (by decide)]
  rw [PlainLine.text, textOf, decoded, strip]
  cases count with
  | zero =>
      decide
  | succ count =>
      rw [ones, List.replicate_succ, List.cons_append,
        List.dropWhile_cons_of_neg (by decide), ← List.cons_append,
        ← List.replicate_succ, ← ones,
        List.rdropWhile_concat_pos _ _ _ (by decide), kept]

/-- An integer is not a frame; it is dropped and counted. -/
theorem lines_served_iff_harmless_one :
    LinesServed digitLimit unscored fullReads freshRunner [onesLine 1] := by
  refine (lines_served_iff_harmless _ _ _ _ _).mpr ?_
  intro line member
  rw [List.mem_singleton] at member
  subst member
  refine ⟨by decide, fun _ exception raised => ?_⟩
  rw [text_onesLine] at raised
  simp [digitLimit, ones] at raised

/-- The `ValueError` of a long integer leaves `handle_line` and the loop. -/
theorem long_integer_breaks_loop :
    ¬ ∀ (start : InferRunner) (lines : List PlainLine),
      LinesServed digitLimit unscored fullReads start lines := by
  intro served
  have member : ones 5000 ∈ textsOf [onesLine 5000] := by
    have notBlank : ones 5000 ≠ [] :=
      List.ne_nil_of_length_pos (by rw [length_ones]; decide)
    simp [textsOf, text_onesLine, notBlank]
  obtain ⟨returns, _⟩ :=
    (served freshRunner [onesLine 5000]).handledOnce (ones 5000) member
      freshRunner (unscored 0)
  have isOther : LoadsException.valueError = .jsonDecodeError :=
    InferRunner.handleLine_returns_iff.mp returns .valueError
      (loads_ones (by decide))
  cases isOther

end Integers

end InferServing

end OpticsSoftfail
