import OpticsSoftfail.FrameLink
import OpticsSoftfail.InferTasks
import OpticsSoftfail.ProducerStream
import OpticsSoftfail.RowGroups

namespace OpticsSoftfail

namespace InferTasks

/-!
# The observations of the frames

A frame goes from the ingest over one of several connections into the task that
handles the connection, is scored there and posted.  The tasks take turns in any
order, a connection may break at any byte and the scoring may fail.  What is
posted is the score of a frame that was sent, of each frame once at most.
-/

open InferReader

variable {Value Score : Type}

/-- The frame that `handle_line` finds in a line. -/
def Decoder.lineFrame?
    (decoder : Decoder Value)
    (line : List Char) : Option (Json Value) :=
  match decoder.handleLine line with
  | .frame doc => some doc
  | .dropped => none
  | .raised => none

/-- The frame that a raw line holds. -/
def Decoder.frame?
    (decoder : Decoder Value)
    (raw : Bytes) : Option (Json Value) :=
  let line := strip (Utf8.decode raw)
  if line.isEmpty then none else decoder.lineFrame? line

/-- The frames of a stream. -/
def Decoder.frames
    (decoder : Decoder Value)
    (stream : Bytes) : List (Json Value) :=
  (rawLines stream).filterMap decoder.frame?

/-- The first line holds the first frame, if any. -/
theorem frames_line
    (decoder : Decoder Value)
    {line : Bytes}
    (plain : newline ∉ line)
    (later : Bytes) :
    decoder.frames (line ++ newline :: later) =
      (decoder.frame? (line ++ [newline])).toList ++ decoder.frames later := by
  rw [Decoder.frames, rawLines_append_newline plain, List.filterMap_cons]
  cases decoder.frame? (line ++ [newline]) <;> rfl

/-- A stream without newline is one line. -/
theorem frames_incomplete
    (decoder : Decoder Value)
    {raw : Bytes}
    (plain : newline ∉ raw)
    (nonempty : raw ≠ []) :
    decoder.frames raw = (decoder.frame? raw).toList := by
  rw [Decoder.frames, rawLines_of_not_mem plain,
    if_neg (by simpa using nonempty), List.filterMap_cons]
  cases decoder.frame? raw <;> rfl

/-- The bytes that an event brings. -/
def TaskEvent.arrives : TaskEvent Score → Bytes
  | .received bytes => bytes
  | .closed => []
  | .resumed => []
  | .scored _ => []
  | .postReturned => []

namespace Task

/-- The frame that is being scored. -/
def current (task : Task Value) : List (Json Value) :=
  match task.stage with
  | .scoring frame _ => [frame]
  | _ => []

/-- The frames that may still be posted, given what is still to arrive. -/
def waiting
    (decoder : Decoder Value)
    (task : Task Value)
    (future : Bytes) : List (Json Value) :=
  task.current ++ decoder.frames (task.buffer ++ future)

/-- The scoring returns what this function does, or raises. -/
def ScoredBy
    (score : Json Value → Option (FrameScore Score))
    (task : Task Value) : TaskEvent Score → Prop
  | .scored (some result) =>
      ∀ frame terminated,
        task.stage = .scoring frame terminated → score frame = some result
  | _ => True

/-- The observations of the frames that may still be posted. -/
def expected
    (decoder : Decoder Value)
    (score : Json Value → Option (FrameScore Score))
    (task : Task Value)
    (future : Bytes) : List (Observation Score) :=
  (task.waiting decoder future).filterMap fun frame =>
    (score frame).map (observation decoder frame)

theorem current_endIteration
    (task : Task Value)
    (terminated : Bool) :
    (task.endIteration terminated).current = [] := by
  cases terminated <;> rfl

/-- The line that is handled may become the frame that is scored. -/
theorem current_handleRaw
    (decoder : Decoder Value)
    (task : Task Value)
    (raw rest : Bytes) :
    (task.handleRaw decoder raw rest).current =
      (decoder.frame? raw).toList := by
  simp only [handleRaw, Decoder.frame?, Decoder.lineFrame?]
  split
  · exact current_endIteration _ _
  · cases decoder.handleLine (strip (Utf8.decode raw)) with
    | dropped =>
        exact current_endIteration _ _
    | raised =>
        rfl
    | frame doc =>
        rfl

/-- An iteration of the loop adds no frame. -/
theorem waiting_read?
    {decoder : Decoder Value}
    {task next : Task Value}
    {future : Bytes}
    (within : WithinLimit (task.buffer ++ future))
    (ended : task.eof = true → future = [])
    (reading : task.stage = .reading)
    (read : task.read? decoder = some next) :
    WithinLimit (next.buffer ++ future) ∧
      next.waiting decoder future = task.waiting decoder future := by
  have nothing : task.current = [] := by
    rw [current, reading]
  rcases readuntil_spec within task.eof with
    ⟨plain, reads⟩ | ⟨line, rest, plain, isBuffer, reads⟩
  · rw [read?, reads] at read
    cases isEnd : task.eof with
    | false =>
        rw [isEnd] at read
        cases read
    | true =>
        obtain rfl := ended isEnd
        simp only [isEnd, ↓reduceIte] at read
        rw [List.append_nil] at within
        have noMore : WithinLimit ([] ++ []) :=
          FrameLink.withinLimit_nil
        split at read
        · next isEmpty =>
          obtain rfl := Option.some.inj read
          rw [waiting, waiting, nothing, List.isEmpty_iff.mp isEmpty]
          exact ⟨noMore, rfl⟩
        · next nonempty =>
          obtain rfl := Option.some.inj read
          rw [waiting, waiting, current_handleRaw, buffer_handleRaw, nothing,
            List.append_nil, List.append_nil, List.nil_append,
            frames_incomplete decoder plain (by simpa using nonempty)]
          exact ⟨noMore, List.append_nil _⟩
  · rw [read?, reads] at read
    obtain rfl := Option.some.inj read
    rw [isBuffer, List.append_assoc, List.cons_append] at within
    rw [waiting, waiting, current_handleRaw, buffer_handleRaw, nothing,
      isBuffer, List.append_assoc, List.cons_append,
      frames_line decoder plain, List.nil_append]
    exact ⟨(within.later plain).2, rfl⟩

theorem eof_handleRaw
    (decoder : Decoder Value)
    (task : Task Value)
    (raw rest : Bytes) :
    (task.handleRaw decoder raw rest).eof = task.eof := by
  simp only [handleRaw]
  split
  · rfl
  · split <;> rfl

theorem eof_of_read?
    {decoder : Decoder Value}
    {task next : Task Value}
    (isEnd : task.eof = true)
    (read : task.read? decoder = some next) :
    next.eof = true := by
  simp only [read?] at read
  split at read
  · obtain rfl := Option.some.inj read
    exact (eof_handleRaw decoder task _ _).trans isEnd
  · split at read
    · obtain rfl := Option.some.inj read
      exact isEnd
    · obtain rfl := Option.some.inj read
      exact (eof_handleRaw decoder task _ _).trans isEnd
  · obtain rfl := Option.some.inj read
    exact isEnd
  · cases read

/-- The end of a stream is final. -/
theorem eof_of_step?
    {decoder : Decoder Value}
    {task next : Task Value}
    {event : TaskEvent Score}
    {posted? : Option (Observation Score)}
    (isEnd : task.eof = true)
    (stepped : task.step? decoder event = some (next, posted?)) :
    event.arrives = [] ∧ next.eof = true := by
  cases step?_shape stepped with
  | received bytes isOpen =>
      rw [isEnd] at isOpen
      cases isOpen
  | closed isOpen =>
      exact ⟨rfl, rfl⟩
  | resumed next reading read =>
      exact ⟨rfl, eof_of_read? isEnd read⟩
  | failed frame terminated scoring =>
      exact ⟨rfl, isEnd⟩
  | scored frame terminated result scoring =>
      exact ⟨rfl, isEnd⟩
  | posted _ terminated posting =>
      exact ⟨rfl, isEnd⟩

/-- What a step posts was waiting, and nothing else comes to wait. -/
theorem step?_waiting
    {decoder : Decoder Value}
    {score : Json Value → Option (FrameScore Score)}
    {task next : Task Value}
    {event : TaskEvent Score}
    {posted? : Option (Observation Score)}
    {future : Bytes}
    (within : WithinLimit (task.buffer ++ (event.arrives ++ future)))
    (ended : task.eof = true → event.arrives ++ future = [])
    (scores : task.ScoredBy score event)
    (stepped : task.step? decoder event = some (next, posted?)) :
    WithinLimit (next.buffer ++ future) ∧
      (posted?.toList ++ next.expected decoder score future).Sublist
        (task.expected decoder score (event.arrives ++ future)) := by
  cases step?_shape stepped with
  | received bytes isOpen =>
      rw [← List.append_assoc] at within
      refine ⟨within, ?_⟩
      rw [Option.toList_none, List.nil_append, expected, expected, waiting,
        waiting, TaskEvent.arrives, List.append_assoc]
      exact List.Sublist.refl _
  | closed isOpen =>
      exact ⟨within, List.Sublist.refl _⟩
  | resumed next reading read =>
      obtain ⟨within, same⟩ := waiting_read? within ended reading read
      have same :
          next.expected decoder score future =
            task.expected decoder score future :=
        congrArg (List.filterMap _) same
      refine ⟨within, ?_⟩
      rw [Option.toList_none, List.nil_append, same]
      exact List.Sublist.refl _
  | failed frame terminated scoring =>
      refine ⟨within, ?_⟩
      rw [Option.toList_none, List.nil_append]
      refine List.Sublist.filterMap _ ?_
      rw [waiting, waiting, current_endIteration]
      exact List.sublist_append_right _ _
  | scored frame terminated result scoring =>
      refine ⟨within, ?_⟩
      have isCurrent : task.current = [frame] := by
        rw [current, scoring]
      have isScore := scores frame terminated scoring
      rw [expected, expected, waiting, waiting, isCurrent,
        List.singleton_append, List.filterMap_cons, isScore]
      exact List.Sublist.refl _
  | posted _ terminated posting =>
      refine ⟨within, ?_⟩
      rw [Option.toList_none, List.nil_append]
      refine List.Sublist.filterMap _ ?_
      rw [waiting, waiting, current_endIteration]
      exact List.sublist_append_right _ _

end Task

section Connections

/-! ## The posts of one connection -/

/-- The bytes that an event brings to a connection. -/
def Event.arrivesOn (connection : Nat) : Event Score → Bytes
  | .connected => []
  | .task other event => if other = connection then event.arrives else []

/-- The bytes that arrive on a connection. -/
def arrivals (connection : Nat) (events : List (Event Score)) : Bytes :=
  events.flatMap (Event.arrivesOn connection)

/-- The task of a connection; before it is accepted, the task to come. -/
def State.taskAt
    (state : State Value Score)
    (connection : Nat) : Task Value :=
  (state.tasks[connection]?).getD Task.initial

/-- The observations that came from a connection. -/
def State.postedFrom
    (state : State Value Score)
    (connection : Nat) : List (Observation Score) :=
  (state.posts.filter fun post => post.connection = connection).map
    Post.observation

/-- Every frame is scored by this function. -/
def ScoredBy
    (score : Json Value → Option (FrameScore Score))
    (state : State Value Score) : Event Score → Prop
  | .connected => True
  | .task connection event =>
      (state.taskAt connection).ScoredBy score event

variable {decoder : Decoder Value}
variable {score : Json Value → Option (FrameScore Score)}
variable {state next final : State Value Score}

/-- What a step does to one of the tasks. -/
inductive TaskStep
    (decoder : Decoder Value)
    (state : State Value Score)
    (connection : Nat) :
    Event Score → State Value Score → Prop where
  /-- Another connection, or a new one. -/
  | other {event : Event Score} {next : State Value Score}
      (brings : event.arrivesOn connection = [])
      (same : next.taskAt connection = state.taskAt connection)
      (nothing : next.postedFrom connection = state.postedFrom connection) :
      TaskStep decoder state connection event next
  | own {event : TaskEvent Score} {next : State Value Score}
      (posted? : Option (Observation Score))
      (stepped :
        (state.taskAt connection).step? decoder event =
          some (next.taskAt connection, posted?))
      (posts :
        next.postedFrom connection =
          state.postedFrom connection ++ posted?.toList) :
      TaskStep decoder state connection (.task connection event) next

theorem taskStep
    {event : Event Score}
    (stepped : step? decoder state event = some next)
    (connection : Nat) :
    TaskStep decoder state connection event next := by
  cases event with
  | connected =>
      obtain rfl := Option.some.inj stepped
      refine .other rfl ?_ rfl
      simp only [State.taskAt, List.getElem?_append]
      split
      · rfl
      · next outside =>
        rw [List.getElem?_eq_none (Nat.le_of_not_lt outside),
          List.getElem?_singleton]
        split <;> rfl
  | task other event =>
      simp only [step?] at stepped
      split at stepped
      · cases stepped
      next task found =>
      split at stepped
      · cases stepped
      next after posted? taskStepped =>
      obtain rfl := Option.some.inj stepped
      by_cases same : other = connection
      · subst same
        have isTask : state.taskAt other = task := by
          rw [State.taskAt, found, Option.getD_some]
        have isAfter :
            (state.tasks.set other after)[other]? = some after :=
          List.getElem?_set_self
            (List.getElem?_eq_some_iff.mp found).choose
        refine .own posted? ?_ ?_
        · rw [isTask, State.taskAt, isAfter, Option.getD_some]
          exact taskStepped
        · rw [State.postedFrom, State.postedFrom, List.filter_append,
            List.map_append]
          cases posted? <;> simp
      · refine .other ?_ ?_ ?_
        · exact if_neg same
        · rw [State.taskAt, State.taskAt, List.getElem?_set_ne same]
        · rw [State.postedFrom, State.postedFrom, List.filter_append,
            List.map_append]
          cases posted? <;> simp [same]

/-- After the end of a stream nothing arrives. -/
theorem arrivals_of_eof
    {connection : Nat}
    {events : List (Event Score)}
    (run : Transition.run? (step? decoder) state events = some final)
    (isEnd : (state.taskAt connection).eof = true) :
    arrivals connection events = [] := by
  induction events generalizing state with
  | nil =>
      rfl
  | cons event later inductionHypothesis =>
      obtain ⟨next, stepped, run⟩ :=
        Transition.run?_cons_eq_some_iff.mp run
      have first :
          event.arrivesOn connection = [] ∧
            (next.taskAt connection).eof = true := by
        cases taskStep stepped connection with
        | other brings same nothing =>
            exact ⟨brings, same ▸ isEnd⟩
        | own posted? taskStepped posts =>
            obtain ⟨nothing, isEnd⟩ := Task.eof_of_step? isEnd taskStepped
            exact ⟨(if_pos rfl).trans nothing, isEnd⟩
      rw [arrivals, List.flatMap_cons, first.1]
      exact inductionHypothesis run first.2

/--
What has been posted from a connection is part of what was to be expected of it
when the run started.
-/
theorem postedFrom_sublist
    {connection : Nat}
    {events : List (Event Score)}
    (run : Transition.run? (step? decoder) state events = some final)
    (scored :
      Transition.AllSteps (step? decoder) (ScoredBy score) state events)
    (within :
      WithinLimit
        ((state.taskAt connection).buffer ++ arrivals connection events)) :
    (final.postedFrom connection).Sublist
      (state.postedFrom connection ++
        (state.taskAt connection).expected decoder score
          (arrivals connection events)) := by
  induction events generalizing state with
  | nil =>
      obtain rfl := Option.some.inj run
      exact List.sublist_append_left _ _
  | cons event later inductionHypothesis =>
      have ended (isEnd : (state.taskAt connection).eof = true) :=
        arrivals_of_eof run isEnd
      obtain ⟨next, stepped, laterRun⟩ :=
        Transition.run?_cons_eq_some_iff.mp run
      obtain ⟨scoredFirst, scoredLater⟩ :=
        Transition.allSteps_cons_of_some scored stepped
      rw [arrivals, List.flatMap_cons] at ended within
      rw [arrivals, List.flatMap_cons]
      cases taskStep stepped connection with
      | other brings same nothing =>
          rw [brings, List.nil_append] at within ⊢
          rw [← same] at within
          have rest := inductionHypothesis laterRun scoredLater within
          rw [same, nothing] at rest
          exact rest
      | own posted? taskStepped posts =>
          rw [Event.arrivesOn, if_pos rfl] at within ended ⊢
          obtain ⟨within, posted⟩ :=
            Task.step?_waiting within ended scoredFirst taskStepped
          have rest := inductionHypothesis laterRun scoredLater within
          rw [posts, List.append_assoc] at rest
          exact rest.trans ((List.Sublist.refl _).append posted)

end Connections

section Wire

/-! ## The frames of a broken connection -/

open FrameLink

variable {decoder : Decoder Value} {exceedsLimits : List Char → Bool}

/-- A whole line holds its frame, with or without its newline. -/
theorem frame?_of_dump
    {text : List Char}
    (dump : IsFrameDump exceedsLimits text) :
    decoder.frame? (Utf8.encode text ++ [newline]) =
        decoder.lineFrame? text ∧
      decoder.frame? (Utf8.encode text) = decoder.lineFrame? text := by
  have isText : strip (Utf8.decode (Utf8.encode text ++ [newline])) =
      text := by
    rw [Utf8.decode_encode_append]
    exact strip_object_newline dump.object
  have isWhole : strip (Utf8.decode (Utf8.encode text)) = text := by
    rw [Utf8.decode_encode, strip_object dump.object]
  have nonempty := ne_nil_of_object dump.object
  rw [Decoder.frame?, Decoder.frame?, isText, isWhole,
    if_neg (by simpa using nonempty)]
  exact ⟨rfl, rfl⟩

/-- The beginning of a line holds nothing. -/
theorem frame?_of_cut
    (agrees :
      ∀ line, (decoder.loads line).loaded = loads exceedsLimits line)
    {text : List Char}
    (dump : IsFrameDump exceedsLimits text)
    {raw later : Bytes}
    (split : raw ++ later = Utf8.encode text)
    (cut : later ≠ []) :
    decoder.frame? raw = none := by
  have rejected := not_accepts_of_isCut dump.object
    (Utf8.decode_of_prefix split cut)
  have noValue : loads exceedsLimits (strip (Utf8.decode raw)) ≠ .value := by
    rw [loads, rejected]
    cases exceedsLimits (strip (Utf8.decode raw)) <;> simp
  rw [← agrees] at noValue
  rw [Decoder.frame?]
  split
  · rfl
  · rw [Decoder.lineFrame?, Decoder.handleLine]
    cases loaded : decoder.loads (strip (Utf8.decode raw)) with
    | value doc =>
        rw [loaded] at noValue
        exact absurd rfl noValue
    | decodeError =>
        rfl
    | raised =>
        rfl

/-- However much of the lines arrives, it holds frames of these lines. -/
theorem frames_of_prefix
    (agrees :
      ∀ line, (decoder.loads line).loaded = loads exceedsLimits line)
    {texts : List (List Char)}
    (dumps : ∀ text ∈ texts, IsFrameDump exceedsLimits text)
    {bytes : Bytes}
    (isPrefix : bytes <+: wire texts) :
    WithinLimit bytes ∧
      (decoder.frames bytes).Sublist
        (texts.filterMap decoder.lineFrame?) := by
  have isPayloads : wire texts = Producer.payloads (texts.map Utf8.encode) := by
    rw [wire, Producer.payloads, List.flatMap_map]
  rw [isPayloads] at isPrefix
  obtain ⟨count, tail, most, isBytes, isTail⟩ :=
    Producer.exists_of_prefix_payloads isPrefix
  rw [← List.map_take, Producer.payloads, List.flatMap_map] at isBytes
  have whole : bytes = wire (texts.take count) ++ tail := isBytes
  have wholeDumps (text : List Char) (member : text ∈ texts.take count) :
      IsFrameDump exceedsLimits text :=
    dumps text (List.mem_of_mem_take member)
  have wholeFrames :
      decoder.frames bytes =
        (texts.take count).filterMap decoder.lineFrame? ++
          decoder.frames tail := by
    rw [Decoder.frames, whole, rawLines_wire_append wholeDumps,
      List.filterMap_append, List.filterMap_map]
    congr 1
    exact List.filterMap_congr fun text member =>
      (frame?_of_dump (wholeDumps text member)).1
  rcases isTail with rfl | ⟨line, isLine, isPart⟩
  · refine ⟨?_, ?_⟩
    · rw [whole]
      exact withinLimit_wire_append wholeDumps withinLimit_nil
    · rw [wholeFrames]
      exact (List.append_nil _).symm ▸ (List.take_sublist _ _).filterMap _
  · rw [List.getElem?_map] at isLine
    obtain ⟨text, isText, rfl⟩ := Option.map_eq_some_iff.mp isLine
    have dump := dumps text (List.mem_of_getElem? isText)
    have plain : newline ∉ tail := fun member =>
      dump.plain (isPart.subset member)
    have fits : tail.length ≤ maxLineBytes :=
      isPart.length_le.trans dump.fits.le
    have part :
        (decoder.frames tail).Sublist
          ([text].filterMap decoder.lineFrame?) := by
      by_cases begun : tail = []
      · rw [begun]
        exact List.nil_sublist _
      · rw [frames_incomplete decoder plain begun]
        obtain ⟨later, split⟩ := isPart
        by_cases cut : later = []
        · rw [cut, List.append_nil] at split
          rw [split, (frame?_of_dump dump).2, List.filterMap_cons]
          cases decoder.lineFrame? text <;> exact List.Sublist.refl _
        · rw [frame?_of_cut agrees dump split cut]
          exact List.nil_sublist _
    refine ⟨?_, ?_⟩
    · rw [whole]
      exact withinLimit_wire_append wholeDumps
        (withinLimit_of_not_mem plain fits)
    · have next : texts.take (count + 1) = texts.take count ++ [text] := by
        rw [List.take_add_one, isText, Option.toList_some]
      rw [wholeFrames]
      refine ((List.Sublist.refl _).append part).trans ?_
      rw [← List.filterMap_append, ← next]
      exact (List.take_sublist _ _).filterMap _

/-- Each connection carries lines of some of the calls, the last one in part. -/
structure Carries
    (client : DownstreamClient)
    (texts : List (List Char))
    (parts : List (List (List Char))) : Prop where
  streams :
    List.Forall₂ (fun stream part => stream <+: wire part)
      client.connections parts
  sent : parts.flatten.Sublist texts

/-- Between two calls the open connection carries whole lines. -/
structure CarriesWhole
    (client : DownstreamClient)
    (texts : List (List Char))
    (closedParts : List (List (List Char)))
    (openPart : List (List Char)) : Prop where
  streams :
    List.Forall₂ (fun stream part => stream <+: wire part)
      client.closed closedParts
  clean : client.fd.getD [] = wire openPart
  sent : (closedParts.flatten ++ openPart).Sublist texts

section Calls

variable {client : DownstreamClient} {texts : List (List Char)}
variable {closedParts : List (List (List Char))}
variable {openPart : List (List Char)}

theorem CarriesWhole.carries
    (whole : CarriesWhole client texts closedParts openPart) :
    ∃ parts, Carries client texts parts := by
  have clean := whole.clean
  cases isOpen : client.fd with
  | none =>
      refine ⟨closedParts, ?_, ?_⟩
      · rw [DownstreamClient.connections, isOpen, Option.toList_none,
          List.append_nil]
        exact whole.streams
      · exact (List.sublist_append_left _ _).trans whole.sent
  | some stream =>
      rw [isOpen, Option.getD_some] at clean
      refine ⟨closedParts ++ [openPart], ?_, ?_⟩
      · rw [DownstreamClient.connections, isOpen, Option.toList_some]
        exact List.rel_append whole.streams
          (List.Forall₂.cons (clean ▸ List.prefix_rfl) List.Forall₂.nil)
      · simpa using whole.sent

/-- The open connection with a part of one more line. -/
theorem CarriesWhole.part_prefix
    (whole : CarriesWhole client texts closedParts openPart)
    (text : List Char)
    (count : Nat) :
    client.fd.getD [] ++ (Utf8.encode text ++ [newline]).take count <+:
      wire (openPart ++ [text]) := by
  rw [whole.clean, wire_append_singleton]
  exact (List.prefix_append_right_inj _).mpr (List.take_prefix _ _)

/-- The line of one more call may be sent. -/
theorem CarriesWhole.sent_append
    (whole : CarriesWhole client texts closedParts openPart)
    (text : List Char) :
    (closedParts.flatten ++ (openPart ++ [text])).Sublist
      (texts ++ [text]) := by
  rw [← List.append_assoc]
  exact whole.sent.append (List.Sublist.refl _)

/-- What the connections carry after all calls. -/
theorem carries_sendAll
    {calls : List SendCall}
    {later : List (List Char)}
    (whole : CarriesWhole client texts closedParts openPart)
    (lines : calls.map SendCall.line = later.map Utf8.encode) :
    ∃ parts, Carries (client.sendAll calls).1 (texts ++ later) parts := by
  induction calls generalizing client texts closedParts openPart later with
  | nil =>
      obtain rfl := List.map_eq_nil_iff.mp lines.symm
      rw [List.append_nil]
      exact whole.carries
  | cons call calls inductionHypothesis =>
      obtain ⟨text, later, rfl, isLine, lines⟩ :=
        List.map_eq_cons_iff.mp lines.symm
      have shape : texts ++ text :: later = texts ++ [text] ++ later := by
        simp
      have sends := client.sendLine_sends call
      rw [← isLine] at sends
      rw [shape, DownstreamClient.sendAll]
      rcases sent : client.sendLine call with ⟨next, returned⟩
      rw [sent] at sends
      cases sends with
      | unreachable wasNone sameClosed isNone =>
          exact inductionHypothesis {
            streams := sameClosed ▸ whole.streams
            clean := by rw [isNone, ← whole.clean, wasNone]
            sent := whole.sent.trans (List.sublist_append_left _ _) }
            lines.symm
      | whole sameClosed isOpen =>
          exact inductionHypothesis {
            streams := sameClosed ▸ whole.streams
            clean := by
              rw [isOpen, Option.getD_some, whole.clean,
                wire_append_singleton]
            sent := whole.sent_append text } lines.symm
      | broken cut isClosed isNone =>
          have nextWhole :
              CarriesWhole next (texts ++ [text])
                (closedParts ++ [openPart ++ [text]]) [] := {
            streams := by
              rw [isClosed]
              exact List.rel_append whole.streams
                (List.Forall₂.cons (whole.part_prefix text _)
                  List.Forall₂.nil)
            clean := by
              rw [isNone]
              rfl
            sent := by simpa using whole.sent_append text }
          exact inductionHypothesis nextWhole lines.symm
      | blocked cut sameClosed isOpen =>
          refine ⟨closedParts ++ [openPart ++ [text]], ?_, ?_⟩
          · rw [DownstreamClient.connections, isOpen, sameClosed,
              Option.toList_some]
            exact List.rel_append whole.streams
              (List.Forall₂.cons (whole.part_prefix text _)
                List.Forall₂.nil)
          · refine List.Sublist.trans ?_ (List.sublist_append_left _ _)
            simpa using whole.sent_append text

end Calls

end Wire

section Posts

/-! ## What is posted of the frames of all connections -/

open FrameLink

variable {decoder : Decoder Value} {exceedsLimits : List Char → Bool}
variable {score : Json Value → Option (FrameScore Score)}
variable {final : State Value Score} {events : List (Event Score)}

/-- The observation of the frame in a line. -/
def observed?
    (decoder : Decoder Value)
    (score : Json Value → Option (FrameScore Score))
    (text : List Char) : Option (Observation Score) :=
  (decoder.lineFrame? text).bind fun frame =>
    (score frame).map (Task.observation decoder frame)

/-- The posts of a connection that carries these lines, or a part of them. -/
theorem postedFrom_of_prefix
    (agrees :
      ∀ line, (decoder.loads line).loaded = loads exceedsLimits line)
    (run : Transition.run? (step? decoder) initial events = some final)
    (scored :
      Transition.AllSteps (step? decoder) (ScoredBy score) initial events)
    {texts : List (List Char)}
    (dumps : ∀ text ∈ texts, IsFrameDump exceedsLimits text)
    {connection : Nat}
    (isPrefix : arrivals connection events <+: wire texts) :
    (final.postedFrom connection).Sublist
      (texts.filterMap (observed? decoder score)) := by
  obtain ⟨within, frames⟩ := frames_of_prefix agrees dumps isPrefix
  have posted := postedFrom_sublist run scored within
  have observed := frames.filterMap fun frame =>
    (score frame).map (Task.observation decoder frame)
  rw [List.filterMap_filterMap] at observed
  exact posted.trans observed

/-- A list of items is a permutation of their parts by number. -/
theorem perm_flatMap_range
    {Item : Type}
    (number : Item → Nat)
    {count : Nat}
    {items : List Item}
    (bounded : ∀ item ∈ items, number item < count) :
    ((List.range count).flatMap fun position =>
        items.filter fun item => number item = position).Perm items := by
  have parts :=
    @RowGroups.flatMap_group_perm _ _ _ number items _
      (List.nodup_range (n := count))
  have all :
      (items.filter fun item => number item ∈ List.range count) = items :=
    List.filter_eq_self.mpr fun item member => by
      simpa using bounded item member
  rw [all] at parts
  exact parts

/-- Two related lists are related at every position. -/
theorem forall₂_getD
    {Item Other : Type}
    {relation : Item → Other → Prop}
    {items : List Item}
    {others : List Other}
    (related : List.Forall₂ relation items others)
    {item : Item}
    {other : Other}
    (beyond : relation item other)
    (position : Nat) :
    relation (items.getD position item) (others.getD position other) := by
  induction related generalizing position with
  | nil =>
      exact beyond
  | cons first _ inductionHypothesis =>
      cases position with
      | zero =>
          exact first
      | succ position =>
          exact inductionHypothesis position

/-- A list is put together from its items by number. -/
theorem flatMap_getD_range
    {Item Image : Type}
    (function : List Item → List Image)
    (parts : List (List Item)) :
    ((List.range parts.length).flatMap fun position =>
        function (parts.getD position [])) =
      parts.flatMap function := by
  have same :
      (List.range parts.length).map (fun position => parts.getD position []) =
        parts := by
    apply List.ext_getElem
    · simp
    · intro position inside within
      simp [within]
  conv_rhs => rw [← same]
  rw [List.flatMap_map]

/--
Whatever `connect` and `send` do, in whatever order the tasks take turns, and
whichever scorings raise: the observations that infer posts are those of some of
the lines that were to be sent, of each line once at most.
-/
theorem posts_are_observed_once
    (agrees :
      ∀ line, (decoder.loads line).loaded = loads exceedsLimits line)
    (run : Transition.run? (step? decoder) initial events = some final)
    (scored :
      Transition.AllSteps (step? decoder) (ScoredBy score) initial events)
    {texts : List (List Char)}
    (dumps : ∀ text ∈ texts, IsFrameDump exceedsLimits text)
    {calls : List SendCall}
    (lines : calls.map SendCall.line = texts.map Utf8.encode)
    (delivered :
      ∀ connection,
        arrivals connection events <+:
          (DownstreamClient.initial.sendAll calls).1.connections.getD
            connection []) :
    (final.posts.map Post.observation).Subperm
      (texts.filterMap (observed? decoder score)) := by
  have start : CarriesWhole DownstreamClient.initial [] [] [] := {
    streams := List.Forall₂.nil
    clean := rfl
    sent := List.Sublist.refl _ }
  obtain ⟨parts, streams, sent⟩ := carries_sendAll start lines
  rw [List.nil_append] at sent
  have ofConnection (connection : Nat) :
      (final.postedFrom connection).Sublist
        ((parts.getD connection []).filterMap (observed? decoder score)) := by
    have isPrefix :=
      (delivered connection).trans
        (forall₂_getD streams (List.nil_prefix (l := wire [])) connection)
    refine postedFrom_of_prefix agrees run scored ?_ isPrefix
    intro text member
    rw [List.getD_eq_getElem?_getD] at member
    cases isPart : parts[connection]? with
    | none =>
        rw [isPart] at member
        cases member
    | some part =>
        rw [isPart, Option.getD_some] at member
        exact dumps text (sent.subset
          (List.mem_flatten_of_mem (List.mem_of_getElem? isPart) member))
  have bounded (post : Post Score) (member : post ∈ final.posts) :
      post.connection < parts.length := by
    by_contra beyond
    have nothing := ofConnection post.connection
    rw [List.getD_eq_getElem?_getD,
      List.getElem?_eq_none (Nat.le_of_not_lt beyond)] at nothing
    have isPosted : post.observation ∈ final.postedFrom post.connection :=
      List.mem_map_of_mem (List.mem_filter.mpr ⟨member, by simp⟩)
    exact List.not_mem_nil (nothing.subset isPosted)
  have byConnection :
      ((List.range parts.length).flatMap final.postedFrom).Perm
        (final.posts.map Post.observation) := by
    have perm := (perm_flatMap_range Post.connection bounded).map
      Post.observation
    rwa [List.map_flatMap] at perm
  refine byConnection.symm.subperm.trans (List.Sublist.subperm ?_)
  calc
    ((List.range parts.length).flatMap final.postedFrom).Sublist
        ((List.range parts.length).flatMap fun connection =>
          (parts.getD connection []).filterMap
            (observed? decoder score)) :=
      List.Sublist.flatMap_right _ fun connection _ =>
        ofConnection connection
    _ = parts.flatten.filterMap (observed? decoder score) := by
      rw [flatMap_getD_range, List.filterMap_flatten, List.flatMap]
    List.Sublist _ (texts.filterMap (observed? decoder score)) :=
      sent.filterMap _

end Posts

end InferTasks

end OpticsSoftfail
