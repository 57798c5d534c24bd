import OpticsSoftfail.HealerPolicy
import OpticsSoftfail.InferReader
import OpticsSoftfail.Transition

namespace OpticsSoftfail

namespace InferTasks

/-!
# The connection handlers of infer

`InferRunner` runs one `_handle_client` task for every connection of the ingest,
all on one event loop.  A task reads a line, has it scored in a thread, posts
the observation to the healer, and reads on when the post has returned.  It
gives way to the other tasks while it waits for bytes, for the score and for
the reply; the model lets any task take its next step at any time.
-/

/-- How `json.loads` ends, with the document it returns. -/
inductive Loads (Value : Type) where
  | value (doc : Json Value)
  | decodeError
  /-- It raises another exception. -/
  | raised

/-- The library functions that a line goes through. -/
structure Decoder (Value : Type) where
  loads : List Char → Loads Value
  /-- `str` of a value that is not a string. -/
  strOther : Json Value → String

/-- The link and the channel of a frame. -/
structure FrameKey where
  linkId : String
  channelId : String
  deriving Repr, DecidableEq

/-- What `handle_line` makes of a line before it is scored. -/
inductive LineOutcome (Value : Type) where
  | dropped
  | raised
  | frame (doc : Json Value)

namespace Decoder

variable {Value : Type}

/-- `str(value)`. -/
def str (decoder : Decoder Value) : Json Value → String
  | .string text => text
  | other => decoder.strOther other

/-- The `link_id` and the `channel_id` that `score_frame` returns. -/
def key (decoder : Decoder Value) (frame : Json Value) : FrameKey where
  linkId := decoder.str ((frame.find? "link_id").getD (.string ""))
  channelId := decoder.str ((frame.find? "channel_id").getD (.string "C1"))

/-- `handle_line` up to the scoring. -/
def handleLine
    (decoder : Decoder Value)
    (line : List Char) : LineOutcome Value :=
  match decoder.loads line with
  | .decodeError => .dropped
  | .raised => .raised
  | .value doc =>
      if doc.isObject && (doc.find? "seq").isSome &&
          (doc.find? "link_id").isSome then
        .frame doc
      else
        .dropped

end Decoder

/-- Where a task is suspended. -/
inductive Stage (Value : Type) where
  /-- At the top of the loop. -/
  | reading
  /-- In `asyncio.to_thread`; the line did or did not end with a newline. -/
  | scoring (frame : Json Value) (terminated : Bool)
  /-- In `post_observation`. -/
  | posting (frame : Json Value) (terminated : Bool)
  /-- The loop has been left. -/
  | done

/-- One connection and its handler. -/
structure Task (Value : Type) where
  buffer : Bytes
  eof : Bool
  /-- How many lines have been read. -/
  lines : Nat
  stage : Stage Value

/-- What the thread computes from a frame, its ids aside. -/
structure FrameScore (Score : Type) where
  tsUnixMs : Int
  sIf : Score
  sAe : Score
  pFail10m : Score
  deriving Repr, DecidableEq

/-- What happens to one task. -/
inductive TaskEvent (Score : Type) where
  | received (bytes : Bytes)
  /-- The peer closes the connection. -/
  | closed
  /-- The task goes through its loop as far as the next suspension. -/
  | resumed
  /-- `score_frame` returns, or raises. -/
  | scored (result : Option (FrameScore Score))
  /-- `post_observation` returns; it catches every exception. -/
  | postReturned
  deriving Repr, DecidableEq

variable {Value Score : Type}

namespace Task

/-- A connection has been accepted. -/
def initial : Task Value where
  buffer := []
  eof := false
  lines := 0
  stage := .reading

/-- The end of an iteration: `break` without a final newline. -/
def endIteration (task : Task Value) (terminated : Bool) : Task Value :=
  { task with stage := if terminated then .reading else .done }

/-- The iteration that follows the read of a line. -/
def handleRaw
    (decoder : Decoder Value)
    (task : Task Value)
    (raw rest : Bytes) : Task Value :=
  let taken := { task with buffer := rest, lines := task.lines + 1 }
  let terminated : Bool := raw.getLast? = some newline
  let line := strip (Utf8.decode raw)
  if line.isEmpty then
    taken.endIteration terminated
  else
    match decoder.handleLine line with
    | .dropped => taken.endIteration terminated
    | .raised => { taken with stage := .done }
    | .frame doc => { taken with stage := .scoring doc terminated }

/-- One iteration from the top of the loop, unless the read suspends. -/
def read?
    (decoder : Decoder Value)
    (task : Task Value) : Option (Task Value) :=
  match readuntil task.buffer task.eof with
  | .line raw rest => some (task.handleRaw decoder raw rest)
  | .incomplete raw =>
      if raw.isEmpty then some { task with buffer := [], stage := .done }
      else some (task.handleRaw decoder raw [])
  | .overrun =>
      -- `reader.read(MAX_LINE_BYTES)`
      some { task with buffer := task.buffer.drop maxLineBytes }
  | .waits => none

/-- The observation that `score_frame` returns. -/
def observation
    (decoder : Decoder Value)
    (frame : Json Value)
    (score : FrameScore Score) : Observation Score where
  tsUnixMs := score.tsUnixMs
  linkId := (decoder.key frame).linkId
  channelId := (decoder.key frame).channelId
  sIf := score.sIf
  sAe := score.sAe
  pFail10m := score.pFail10m

/-- One step of a task, and the observation it starts to post. -/
def step?
    (decoder : Decoder Value)
    (task : Task Value) :
    TaskEvent Score → Option (Task Value × Option (Observation Score))
  | .received bytes =>
      if task.eof then none
      else some ({ task with buffer := task.buffer ++ bytes }, none)
  | .closed =>
      if task.eof then none else some ({ task with eof := true }, none)
  | .resumed =>
      match task.stage with
      | .reading => (task.read? decoder).map fun next => (next, none)
      | _ => none
  | .scored result =>
      match task.stage with
      | .scoring frame terminated =>
          match result with
          | none => some (task.endIteration terminated, none)
          | some score =>
              some ({ task with stage := .posting frame terminated },
                some (observation decoder frame score))
      | _ => none
  | .postReturned =>
      match task.stage with
      | .posting _ terminated => some (task.endIteration terminated, none)
      | _ => none

/-- What one step of a task can do. -/
inductive StepShape
    (decoder : Decoder Value)
    (task : Task Value) :
    TaskEvent Score → Task Value → Option (Observation Score) → Prop where
  | received
      (bytes : Bytes)
      (isOpen : task.eof = false) :
      StepShape decoder task (.received bytes)
        { task with buffer := task.buffer ++ bytes } none
  | closed
      (isOpen : task.eof = false) :
      StepShape decoder task .closed { task with eof := true } none
  | resumed
      (next : Task Value)
      (reading : task.stage = .reading)
      (read : task.read? decoder = some next) :
      StepShape decoder task .resumed next none
  /-- The scoring has raised, and nothing is posted. -/
  | failed
      (frame : Json Value)
      (terminated : Bool)
      (scoring : task.stage = .scoring frame terminated) :
      StepShape decoder task (.scored none)
        (task.endIteration terminated) none
  | scored
      (frame : Json Value)
      (terminated : Bool)
      (score : FrameScore Score)
      (scoring : task.stage = .scoring frame terminated) :
      StepShape decoder task (.scored (some score))
        { task with stage := .posting frame terminated }
        (some (observation decoder frame score))
  | posted
      (frame : Json Value)
      (terminated : Bool)
      (posting : task.stage = .posting frame terminated) :
      StepShape decoder task .postReturned
        (task.endIteration terminated) none

/-- Every accepted step of a task has one of these shapes. -/
theorem step?_shape
    {decoder : Decoder Value}
    {task next : Task Value}
    {event : TaskEvent Score}
    {posted? : Option (Observation Score)}
    (stepped : task.step? decoder event = some (next, posted?)) :
    StepShape decoder task event next posted? := by
  cases event with
  | received bytes =>
      simp only [step?] at stepped
      split at stepped
      · cases stepped
      · rename_i isOpen
        cases stepped
        exact .received bytes (Bool.eq_false_of_not_eq_true isOpen)
  | closed =>
      simp only [step?] at stepped
      split at stepped
      · cases stepped
      · rename_i isOpen
        cases stepped
        exact .closed (Bool.eq_false_of_not_eq_true isOpen)
  | resumed =>
      simp only [step?] at stepped
      split at stepped
      · rename_i reading
        obtain ⟨after, read, shape⟩ := Option.map_eq_some_iff.mp stepped
        cases shape
        exact .resumed _ reading read
      · cases stepped
  | scored result =>
      simp only [step?] at stepped
      split at stepped
      · rename_i frame terminated scoring
        cases result with
        | none =>
            cases stepped
            exact .failed frame terminated scoring
        | some score =>
            cases stepped
            exact .scored frame terminated score scoring
      · cases stepped
  | postReturned =>
      simp only [step?] at stepped
      split at stepped
      · rename_i frame terminated posting
        cases stepped
        exact .posted frame terminated posting
      · cases stepped

end Task

/-- An observation that `post_observation` has been called with. -/
structure Post (Score : Type) where
  /-- The connection its frame came on, counted in the order of accepting. -/
  connection : Nat
  /-- The number of the line on that connection. -/
  line : Nat
  observation : Observation Score
  deriving Repr, DecidableEq

/-- The link and the channel of the observation. -/
def Post.key (post : Post Score) : FrameKey where
  linkId := post.observation.linkId
  channelId := post.observation.channelId

/-- The frame of the first post was sent before that of the second. -/
def Post.FramePrecedes (first second : Post Score) : Prop :=
  first.connection < second.connection ∨
    (first.connection = second.connection ∧ first.line < second.line)

/--
All tasks in the order of their connections, and the posts in the order in which
they were started.
-/
structure State (Value Score : Type) where
  tasks : List (Task Value)
  posts : List (Post Score)

/-- A connection is accepted, or something happens to one. -/
inductive Event (Score : Type) where
  | connected
  | task (connection : Nat) (event : TaskEvent Score)
  deriving Repr, DecidableEq

/-- Before the first connection. -/
def initial : State Value Score where
  tasks := []
  posts := []

/-- One step of the event loop. -/
def step?
    (decoder : Decoder Value)
    (state : State Value Score) :
    Event Score → Option (State Value Score)
  | .connected => some { state with tasks := state.tasks ++ [Task.initial] }
  | .task connection event =>
      match state.tasks[connection]? with
      | none => none
      | some task =>
          match task.step? decoder event with
          | none => none
          | some (next, posted) =>
              some {
                tasks := state.tasks.set connection next
                posts :=
                  state.posts ++ posted.toList.map fun observation => {
                    connection := connection
                    line := task.lines
                    observation := observation } }

/-- What one step can do. -/
inductive StepShape
    (decoder : Decoder Value)
    (state : State Value Score) :
    Event Score → State Value Score → Prop where
  | connected :
      StepShape decoder state .connected
        { state with tasks := state.tasks ++ [Task.initial] }
  /-- A task goes on without posting. -/
  | quiet
      (connection : Nat)
      (event : TaskEvent Score)
      (task next : Task Value)
      (found : state.tasks[connection]? = some task)
      (stepped : task.step? decoder event = some (next, none)) :
      StepShape decoder state (.task connection event)
        { state with tasks := state.tasks.set connection next }
  /-- A task starts a post. -/
  | posts
      (connection : Nat)
      (event : TaskEvent Score)
      (task next : Task Value)
      (observation : Observation Score)
      (found : state.tasks[connection]? = some task)
      (stepped : task.step? decoder event = some (next, some observation)) :
      StepShape decoder state (.task connection event) {
        tasks := state.tasks.set connection next
        posts := state.posts ++ [⟨connection, task.lines, observation⟩] }

/-- Every accepted step has one of the three shapes. -/
theorem step?_shape
    {decoder : Decoder Value}
    {state next : State Value Score}
    {event : Event Score}
    (stepped : step? decoder state event = some next) :
    StepShape decoder state event next := by
  cases event with
  | connected =>
      cases stepped
      exact .connected
  | task connection event =>
      simp only [step?] at stepped
      split at stepped
      · cases stepped
      · rename_i task found
        split at stepped
        · cases stepped
        · rename_i after posted taskStepped
          cases stepped
          cases posted with
          | none =>
              rw [Option.toList_none, List.map_nil, List.append_nil]
              exact .quiet connection event task after found taskStepped
          | some observation =>
              exact .posts connection event task after observation
                found taskStepped

section Reader

/-!
The reader of a single connection, `InferReader`, does not suspend in
`handle_line`.  An iteration of its loop and one of a task agree on what stays
buffered and on whether the loop goes on.
-/

/-- How `json.loads` ends, without the document. -/
def Loads.loaded : Loads Value → Loaded
  | .value _ => .value
  | .decodeError => .decodeError
  | .raised => .raised

/-- The task goes through its loop again. -/
def Task.continues (task : Task Value) : Bool :=
  match task.stage with
  | .reading => true
  | .scoring _ terminated => terminated
  | .posting _ terminated => terminated
  | .done => false

theorem continues_endIteration
    (task : Task Value)
    (terminated : Bool) :
    (task.endIteration terminated).continues = terminated := by
  cases terminated <;> rfl

/-- Only an exception of `json.loads` ends the loop before its last line. -/
theorem continues_handleRaw
    (decoder : Decoder Value)
    (task : Task Value)
    (raw rest : Bytes) :
    (task.handleRaw decoder raw rest).continues =
      if (strip (Utf8.decode raw)).isEmpty then
        decide (raw.getLast? = some newline)
      else
        match (decoder.loads (strip (Utf8.decode raw))).loaded with
        | .raised => false
        | _ => decide (raw.getLast? = some newline) := by
  simp only [Task.handleRaw, Decoder.handleLine]
  split
  · exact continues_endIteration _ _
  · cases decoder.loads (strip (Utf8.decode raw)) with
    | decodeError =>
        exact continues_endIteration _ _
    | raised =>
        rfl
    | value doc =>
        by_cases isFrame :
            (doc.isObject && (doc.find? "seq").isSome &&
              (doc.find? "link_id").isSome) = true
        · simp only [isFrame]
          rfl
        · simp only [isFrame]
          exact continues_endIteration _ _

/-- The reader ends its loop after the same lines. -/
theorem running_handleRaw
    {decoder : Decoder Value}
    {exceedsLimits : List Char → Bool}
    (agrees :
      ∀ line, (decoder.loads line).loaded = loads exceedsLimits line)
    (task : Task Value)
    (decoded : List (List Char))
    (raw rest : Bytes) :
    (InferReader.handleRaw exceedsLimits ⟨decoded, true⟩ raw).running =
      (task.handleRaw decoder raw rest).continues := by
  rw [continues_handleRaw, agrees]
  simp only [InferReader.handleRaw, InferReader.handleLine]
  by_cases isLast : raw.getLast? = some newline
  · cases loads exceedsLimits (strip (Utf8.decode raw)) <;>
      by_cases blank : (strip (Utf8.decode raw)).isEmpty = true <;>
      simp [isLast, blank]
  · cases loads exceedsLimits (strip (Utf8.decode raw)) <;>
      by_cases blank : (strip (Utf8.decode raw)).isEmpty = true <;>
      simp [isLast, blank]

theorem buffer_handleRaw
    (decoder : Decoder Value)
    (task : Task Value)
    (raw rest : Bytes) :
    (task.handleRaw decoder raw rest).buffer = rest := by
  simp only [Task.handleRaw]
  split
  · rfl
  · split <;> rfl

/-- An iteration of the reader is one of a task that reads. -/
theorem iterate_eq_read?
    {decoder : Decoder Value}
    {exceedsLimits : List Char → Bool}
    (agrees :
      ∀ line, (decoder.loads line).loaded = loads exceedsLimits line)
    {task : Task Value}
    (reading : task.stage = .reading)
    (decoded : List (List Char)) :
    (InferReader.iterate exceedsLimits task.eof
          ⟨task.buffer, ⟨decoded, true⟩⟩).buffer =
        ((task.read? decoder).getD task).buffer ∧
      (InferReader.iterate exceedsLimits task.eof
          ⟨task.buffer, ⟨decoded, true⟩⟩).task.running =
        ((task.read? decoder).getD task).continues := by
  simp only [InferReader.iterate, Task.read?, ↓reduceIte]
  cases readuntil task.buffer task.eof with
  | line raw rest =>
      exact ⟨(buffer_handleRaw decoder task raw rest).symm,
        running_handleRaw agrees task decoded raw rest⟩
  | incomplete raw =>
      by_cases isEmpty : raw.isEmpty = true
      · simp [isEmpty, Task.continues]
      · simp only [isEmpty]
        exact ⟨(buffer_handleRaw decoder task raw []).symm,
          running_handleRaw agrees task decoded raw []⟩
  | overrun =>
      simp [Task.continues, reading]
  | waits =>
      simp [Task.continues, reading]

end Reader

end InferTasks

end OpticsSoftfail
