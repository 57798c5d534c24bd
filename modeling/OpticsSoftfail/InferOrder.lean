import OpticsSoftfail.InferTasks

namespace OpticsSoftfail

namespace InferTasks

/-!
# The order of the observations

On one connection the observations are posted in the order of their lines.
After a reconnect the old task works off its backlog beside the new one, and
nothing makes the new one wait.  The observations of a channel are started and
reach the healer in order in the runs in which a task posts only when the tasks
of the earlier connections have no post of that channel under way and cannot
start one any more.
-/

variable {Value Score : Type}

namespace Task

/-- The next post of the task is of a line after this one. -/
def PostedUpTo (task : Task Value) (line : Nat) : Prop :=
  match task.stage with
  | .scoring .. => line < task.lines
  | _ => line ≤ task.lines

/--
The task has done with the channel: it has left the loop, or has read its stream
to the end and neither scores a frame of the channel nor waits for the reply to
a post of it.
-/
def settled
    (decoder : Decoder Value)
    (key : FrameKey)
    (task : Task Value) : Bool :=
  match task.stage with
  | .done => true
  | .reading => task.eof && task.buffer.isEmpty
  | .scoring frame _ =>
      task.eof && task.buffer.isEmpty && decoder.key frame ≠ key
  | .posting frame _ =>
      task.eof && task.buffer.isEmpty && decoder.key frame ≠ key

/-- A task that starts a post was scoring the frame. -/
theorem step?_posts
    {decoder : Decoder Value}
    {task next : Task Value}
    {event : TaskEvent Score}
    {posted : Observation Score}
    (stepped : task.step? decoder event = some (next, some posted)) :
    ∃ frame terminated score,
      task.stage = .scoring frame terminated ∧
        event = .scored (some score) ∧
        posted = observation decoder frame score ∧
        next = { task with stage := .posting frame terminated } := by
  cases step?_shape stepped with
  | scored frame terminated score scoring =>
      exact ⟨frame, terminated, score, scoring, rfl, rfl, rfl⟩

theorem PostedUpTo.le
    {task : Task Value}
    {line : Nat}
    (posted : task.PostedUpTo line) :
    line ≤ task.lines := by
  unfold PostedUpTo at posted
  split at posted
  · exact Nat.le_of_lt posted
  · exact posted

theorem postedUpTo_of_lt
    {task : Task Value}
    {line : Nat}
    (before : line < task.lines) :
    task.PostedUpTo line := by
  unfold PostedUpTo
  split
  · exact before
  · exact Nat.le_of_lt before

/-- The end of an iteration leaves no frame to score. -/
theorem postedUpTo_endIteration
    {task : Task Value}
    {line : Nat}
    (atMost : line ≤ task.lines)
    (terminated : Bool) :
    (task.endIteration terminated).PostedUpTo line := by
  cases terminated with
  | true =>
      exact atMost
  | false =>
      exact atMost

/-- A line that was read is counted, and nothing else. -/
theorem handleRaw_lines
    (decoder : Decoder Value)
    (task : Task Value)
    (raw rest : Bytes) :
    (task.handleRaw decoder raw rest).lines = task.lines + 1 := by
  simp only [handleRaw]
  split
  · rfl
  · split <;> rfl

/-- An iteration of the loop does not post. -/
theorem postedUpTo_read?
    {decoder : Decoder Value}
    {task next : Task Value}
    {line : Nat}
    (atMost : line ≤ task.lines)
    (reading : task.stage = .reading)
    (stepped : task.read? decoder = some next) :
    next.PostedUpTo line := by
  have afterLine :
      ∀ raw rest,
        (task.handleRaw decoder raw rest).PostedUpTo line := by
    intro raw rest
    apply postedUpTo_of_lt
    rw [handleRaw_lines]
    exact Nat.lt_succ_of_le atMost
  simp only [read?] at stepped
  split at stepped
  · cases stepped
    exact afterLine _ _
  · split at stepped
    · cases stepped
      exact atMost
    · cases stepped
      exact afterLine _ _
  · cases stepped
    simpa [PostedUpTo, reading] using atMost
  · cases stepped

/-- No step takes a task back behind a line it has posted. -/
theorem PostedUpTo.step
    {decoder : Decoder Value}
    {task next : Task Value}
    {event : TaskEvent Score}
    {posted? : Option (Observation Score)}
    {line : Nat}
    (posted : task.PostedUpTo line)
    (stepped : task.step? decoder event = some (next, posted?)) :
    next.PostedUpTo line := by
  cases step?_shape stepped with
  | received bytes isOpen =>
      exact posted
  | closed isOpen =>
      exact posted
  | resumed _ reading read =>
      exact postedUpTo_read? posted.le reading read
  | failed frame terminated scoring =>
      exact postedUpTo_endIteration posted.le terminated
  | scored frame terminated score scoring =>
      exact posted.le
  | posted _ terminated posting =>
      exact postedUpTo_endIteration posted.le terminated

/-- At the end of a stream that was read to the end, the loop is left. -/
theorem read?_of_drained
    {decoder : Decoder Value}
    {task : Task Value}
    (ended : task.eof = true)
    (drained : task.buffer = []) :
    task.read? decoder =
      some { task with buffer := [], stage := .done } := by
  have reads : readuntil [] true = .incomplete [] := by
    decide
  simp [read?, ended, drained, reads]

/-- The end of an iteration keeps a drained task settled. -/
theorem settled_endIteration
    {decoder : Decoder Value}
    {key : FrameKey}
    {task : Task Value}
    (ended : task.eof = true)
    (drained : task.buffer = [])
    (terminated : Bool) :
    (task.endIteration terminated).settled decoder key = true := by
  cases terminated with
  | true =>
      simp [endIteration, settled, ended, drained]
  | false =>
      simp [endIteration, settled]

/-- A settled task stays settled. -/
theorem settled_step
    {decoder : Decoder Value}
    {key : FrameKey}
    {task next : Task Value}
    {event : TaskEvent Score}
    {posted? : Option (Observation Score)}
    (isSettled : task.settled decoder key = true)
    (stepped : task.step? decoder event = some (next, posted?)) :
    next.settled decoder key = true := by
  have endedUnlessDone :
      task.stage ≠ .done → task.eof = true ∧ task.buffer = [] := by
    intro running
    simp only [settled] at isSettled
    split at isSettled
    · rename_i done
      exact (running done).elim
    · simpa using isSettled
    · simp only [Bool.and_eq_true, List.isEmpty_iff] at isSettled
      exact isSettled.1
    · simp only [Bool.and_eq_true, List.isEmpty_iff] at isSettled
      exact isSettled.1
  have doneIfOpen (isOpen : task.eof = false) : task.stage = .done := by
    by_contra running
    rw [(endedUnlessDone running).1] at isOpen
    cases isOpen
  cases step?_shape stepped with
  | received bytes isOpen =>
      simp [settled, doneIfOpen isOpen]
  | closed isOpen =>
      simp [settled, doneIfOpen isOpen]
  | resumed _ reading read =>
      obtain ⟨ended, drained⟩ :=
        endedUnlessDone (by rw [reading]; nofun)
      rw [read?_of_drained ended drained] at read
      cases read
      simp [settled]
  | failed frame terminated scoring =>
      obtain ⟨ended, drained⟩ :=
        endedUnlessDone (by rw [scoring]; nofun)
      exact settled_endIteration ended drained terminated
  | scored frame terminated score scoring =>
      simpa [settled, scoring] using isSettled
  | posted _ terminated posting =>
      obtain ⟨ended, drained⟩ :=
        endedUnlessDone (by rw [posting]; nofun)
      exact settled_endIteration ended drained terminated

end Task

/-- The posts of every connection are of lines its task has dealt with. -/
def Bounded (state : State Value Score) : Prop :=
  ∀ post ∈ state.posts,
    ∃ task,
      state.tasks[post.connection]? = some task ∧
        task.PostedUpTo post.line

/-- On one connection the posts are in the order of the lines. -/
def ConnectionsInOrder (state : State Value Score) : Prop :=
  state.posts.Pairwise fun first second =>
    first.connection = second.connection → first.line < second.line

/-- The posts of one channel are in the order of their frames. -/
def InFrameOrder (posts : List (Post Score)) : Prop :=
  posts.Pairwise fun first second =>
    first.key = second.key → first.FramePrecedes second

/-- Behind every post the earlier connections are settled for its channel. -/
def EarlierSettled
    (decoder : Decoder Value)
    (state : State Value Score) : Prop :=
  ∀ post ∈ state.posts, ∀ earlier < post.connection, ∀ task,
    state.tasks[earlier]? = some task →
    task.settled decoder post.key = true

/-- The task at an index after one task has taken a step. -/
theorem getElem?_set_of_some
    {tasks : List (Task Value)}
    {connection index : Nat}
    {next found : Task Value}
    (isFound : (tasks.set connection next)[index]? = some found) :
    (index = connection ∧ found = next) ∨
      (index ≠ connection ∧ tasks[index]? = some found) := by
  rw [List.getElem?_set] at isFound
  split at isFound
  · rename_i same
    split at isFound
    · exact Or.inl ⟨same.symm, (Option.some.inj isFound).symm⟩
    · cases isFound
  · rename_i different
    exact Or.inr ⟨Ne.symm different, isFound⟩

/-- Accepting a connection gives no task another index. -/
theorem Bounded.connected
    {state : State Value Score}
    (bounded : Bounded state) :
    Bounded { state with tasks := state.tasks ++ [Task.initial] } := by
  intro post member
  obtain ⟨task, found, posted⟩ := bounded post member
  have inRange := (List.getElem?_eq_some_iff.mp found).1
  exact ⟨task, by rw [List.getElem?_append_left inRange, found], posted⟩

/-- A task that takes a step stays above the lines it has posted. -/
theorem Bounded.stepTask
    {decoder : Decoder Value}
    {state : State Value Score}
    (bounded : Bounded state)
    {connection : Nat}
    {event : TaskEvent Score}
    {task next : Task Value}
    {posted? : Option (Observation Score)}
    (found : state.tasks[connection]? = some task)
    (stepped : task.step? decoder event = some (next, posted?)) :
    Bounded { state with tasks := state.tasks.set connection next } := by
  intro post member
  obtain ⟨own, ownFound, posted⟩ := bounded post member
  by_cases same : connection = post.connection
  · subst same
    rw [found] at ownFound
    cases ownFound
    have inRange := (List.getElem?_eq_some_iff.mp found).1
    exact ⟨next, List.getElem?_set_self inRange, posted.step stepped⟩
  · refine ⟨own, ?_, posted⟩
    simp only [List.getElem?_set_ne same, ownFound]

/-- The post a task starts is of the line it has read last. -/
theorem Bounded.stepPost
    {decoder : Decoder Value}
    {state : State Value Score}
    (bounded : Bounded state)
    {connection : Nat}
    {event : TaskEvent Score}
    {task next : Task Value}
    {observation : Observation Score}
    (found : state.tasks[connection]? = some task)
    (stepped :
      task.step? decoder event = some (next, some observation)) :
    Bounded {
      tasks := state.tasks.set connection next
      posts := state.posts ++ [⟨connection, task.lines, observation⟩] } := by
  intro post member
  rcases List.mem_append.mp member with earlier | new
  · exact bounded.stepTask found stepped post earlier
  · rw [List.mem_singleton] at new
    subst new
    obtain ⟨frame, terminated, score, _, _, _, isNext⟩ :=
      Task.step?_posts stepped
    have inRange := (List.getElem?_eq_some_iff.mp found).1
    refine ⟨next, List.getElem?_set_self inRange, ?_⟩
    rw [isNext]
    exact Nat.le_refl task.lines

theorem Bounded.step
    {decoder : Decoder Value}
    {state next : State Value Score}
    {event : Event Score}
    (bounded : Bounded state)
    (stepped : step? decoder state event = some next) :
    Bounded next := by
  cases step?_shape stepped with
  | connected =>
      exact bounded.connected
  | quiet connection event task after found taskStepped =>
      exact bounded.stepTask found taskStepped
  | posts connection event task after observation found taskStepped =>
      exact bounded.stepPost found taskStepped

/-- A task starts a post of a later line than those it has posted. -/
theorem Bounded.line_lt
    {decoder : Decoder Value}
    {state : State Value Score}
    (bounded : Bounded state)
    {connection : Nat}
    {event : TaskEvent Score}
    {task next : Task Value}
    {observation : Observation Score}
    (found : state.tasks[connection]? = some task)
    (stepped :
      task.step? decoder event = some (next, some observation))
    {post : Post Score}
    (member : post ∈ state.posts)
    (same : post.connection = connection) :
    post.line < task.lines := by
  obtain ⟨own, ownFound, posted⟩ := bounded post member
  rw [same, found] at ownFound
  cases ownFound
  obtain ⟨frame, terminated, _, scoring, _⟩ := Task.step?_posts stepped
  simpa [Task.PostedUpTo, scoring] using posted

theorem ConnectionsInOrder.step
    {decoder : Decoder Value}
    {state next : State Value Score}
    {event : Event Score}
    (bounded : Bounded state)
    (inOrder : ConnectionsInOrder state)
    (stepped : step? decoder state event = some next) :
    ConnectionsInOrder next := by
  cases step?_shape stepped with
  | connected =>
      exact inOrder
  | quiet connection event task after found taskStepped =>
      exact inOrder
  | posts connection event task after observation found taskStepped =>
      refine List.pairwise_append.mpr
        ⟨inOrder, List.pairwise_singleton _ _, ?_⟩
      intro first member second isNew same
      rw [List.mem_singleton] at isNew
      subst isNew
      exact bounded.line_lt found taskStepped member same

/-- On one connection the observations are posted in order, in every run. -/
theorem connections_in_order
    {decoder : Decoder Value}
    {events : List (Event Score)}
    {state : State Value Score}
    (accepted :
      Transition.run? (step? decoder) initial events = some state) :
    ConnectionsInOrder state := by
  have preserved :
      ∀ {state : State Value Score} {event : Event Score}
        {next : State Value Score},
        Bounded state ∧ ConnectionsInOrder state →
        step? decoder state event = some next →
        Bounded next ∧ ConnectionsInOrder next := by
    rintro state event next ⟨bounded, inOrder⟩ stepped
    exact ⟨bounded.step stepped, inOrder.step bounded stepped⟩
  have fresh :
      Bounded (initial : State Value Score) ∧
        ConnectionsInOrder (initial : State Value Score) :=
    ⟨by simp [Bounded, initial], List.Pairwise.nil⟩
  exact (Transition.run?_invariant preserved fresh accepted).2

/-- A task posts only when earlier connections are settled for the channel. -/
def postsLast
    (decoder : Decoder Value)
    (state : State Value Score) : Event Score → Bool
  | .task connection (.scored (some _)) =>
      match state.tasks[connection]? with
      | none => true
      | some task =>
          match task.stage with
          | .scoring frame _ =>
              (state.tasks.take connection).all fun earlier =>
                earlier.settled decoder (decoder.key frame)
          | _ => true
  | _ => true

/-- What the condition says about a step that posts. -/
theorem settled_of_postsLast
    {decoder : Decoder Value}
    {state : State Value Score}
    {connection : Nat}
    {event : TaskEvent Score}
    {task next : Task Value}
    {observation : Observation Score}
    (found : state.tasks[connection]? = some task)
    (stepped :
      task.step? decoder event = some (next, some observation))
    (last : postsLast decoder state (.task connection event) = true)
    {earlier : Nat}
    (before : earlier < connection)
    {other : Task Value}
    (isOther : state.tasks[earlier]? = some other) :
    other.settled decoder ⟨observation.linkId, observation.channelId⟩ =
      true := by
  obtain ⟨frame, terminated, score, scoring, rfl, rfl, _⟩ :=
    Task.step?_posts stepped
  simp only [postsLast, found, scoring, List.all_eq_true] at last
  apply last other
  apply List.mem_of_getElem? (i := earlier)
  rw [List.getElem?_take, if_pos before, isOther]

/-- What the runs maintain in which the posts wait for the earlier tasks. -/
structure Ordered
    (decoder : Decoder Value)
    (state : State Value Score) : Prop where
  bounded : Bounded state
  settled : EarlierSettled decoder state
  inOrder : InFrameOrder state.posts

theorem ordered_initial (decoder : Decoder Value) :
    Ordered decoder (initial : State Value Score) where
  bounded := by simp [Bounded, initial]
  settled := by simp [EarlierSettled, initial]
  inOrder := List.Pairwise.nil

/-- A step of one task leaves the earlier connections settled. -/
theorem EarlierSettled.stepTask
    {decoder : Decoder Value}
    {state : State Value Score}
    (settled : EarlierSettled decoder state)
    {connection : Nat}
    {event : TaskEvent Score}
    {task next : Task Value}
    {posted? : Option (Observation Score)}
    (found : state.tasks[connection]? = some task)
    (stepped : task.step? decoder event = some (next, posted?)) :
    EarlierSettled decoder
      { state with tasks := state.tasks.set connection next } := by
  intro post member earlier before other isOther
  rcases getElem?_set_of_some isOther with
    ⟨rfl, rfl⟩ | ⟨_, wasThere⟩
  · exact Task.settled_step
      (settled post member earlier before task found) stepped
  · exact settled post member earlier before other wasThere

/-- The post of a settled channel comes after those already made. -/
theorem Ordered.framePrecedes
    {decoder : Decoder Value}
    {state : State Value Score}
    (ordered : Ordered decoder state)
    {connection : Nat}
    {event : TaskEvent Score}
    {task next : Task Value}
    {observation : Observation Score}
    (found : state.tasks[connection]? = some task)
    (stepped :
      task.step? decoder event = some (next, some observation))
    {post : Post Score}
    (member : post ∈ state.posts)
    (sameKey :
      post.key = ⟨observation.linkId, observation.channelId⟩) :
    post.FramePrecedes ⟨connection, task.lines, observation⟩ := by
  rcases Nat.lt_trichotomy post.connection connection with
    earlier | same | later
  · exact Or.inl earlier
  · exact Or.inr
      ⟨same, ordered.bounded.line_lt found stepped member same⟩
  · -- The task was settled for the channel and cannot post for it.
    have wasSettled :=
      ordered.settled post member connection later task found
    obtain ⟨frame, terminated, score, scoring, _, rfl, _⟩ :=
      Task.step?_posts stepped
    simp [Task.settled, scoring, sameKey, Task.observation] at wasSettled

/-- A step that waits for the earlier connections keeps the order. -/
theorem Ordered.step
    {decoder : Decoder Value}
    {state next : State Value Score}
    {event : Event Score}
    (ordered : Ordered decoder state)
    (last : postsLast decoder state event = true)
    (stepped : step? decoder state event = some next) :
    Ordered decoder next := by
  refine ⟨ordered.bounded.step stepped, ?_, ?_⟩
  · cases step?_shape stepped with
    | connected =>
        intro post member earlier before task found
        obtain ⟨own, ownFound, _⟩ := ordered.bounded post member
        have inRange := (List.getElem?_eq_some_iff.mp ownFound).1
        rw [List.getElem?_append_left (before.trans inRange)] at found
        exact ordered.settled post member earlier before task found
    | quiet connection event task after found taskStepped =>
        exact ordered.settled.stepTask found taskStepped
    | posts connection event task after observation found taskStepped =>
        intro post member
        rcases List.mem_append.mp member with old | new
        · exact ordered.settled.stepTask found taskStepped post old
        · rw [List.mem_singleton] at new
          subst new
          intro earlier before other isOther
          rcases getElem?_set_of_some isOther with
            ⟨same, _⟩ | ⟨_, wasThere⟩
          · exact (Nat.ne_of_lt before same).elim
          · exact settled_of_postsLast found taskStepped last before
              wasThere
  · cases step?_shape stepped with
    | connected =>
        exact ordered.inOrder
    | quiet connection event task after found taskStepped =>
        exact ordered.inOrder
    | posts connection event task after observation found taskStepped =>
        refine List.pairwise_append.mpr
          ⟨ordered.inOrder, List.pairwise_singleton _ _, ?_⟩
        intro first member second isNew sameKey
        rw [List.mem_singleton] at isNew
        subst isNew
        exact ordered.framePrecedes found taskStepped member sameKey

/-- Two posts of one line are the same post. -/
theorem InFrameOrder.eq_of_line_eq
    {posts : List (Post Score)}
    (inOrder : InFrameOrder posts)
    {first second : Post Score}
    (isFirst : first ∈ posts)
    (isSecond : second ∈ posts)
    (sameKey : first.key = second.key)
    (sameConnection : first.connection = second.connection)
    (sameLine : first.line = second.line) :
    first = second := by
  have apart :
      posts.Pairwise fun one other =>
        one.key = other.key → one.connection = other.connection →
          one.line ≠ other.line := by
    refine inOrder.imp ?_
    intro one other precedes key connection
    rcases precedes key with before | ⟨_, before⟩ <;> omega
  have determined :
      ∀ one ∈ posts, ∀ other ∈ posts,
        one.key = other.key → one.connection = other.connection →
          one.line = other.line → one = other := by
    refine List.Pairwise.forall_of_forall_of_flip ?_ ?_ ?_
    · intro one _ _ _ _
      rfl
    · exact apart.imp fun distinct key connection line =>
        (distinct key connection line).elim
    · exact apart.imp fun distinct key connection line =>
        (distinct key.symm connection.symm line.symm).elim
  exact determined first isFirst second isSecond sameKey sameConnection
    sameLine

section Delivery

/-!
A post reaches the healer some time after it was started, if at all.  Nothing
but the reply tells infer that it has.
-/

/-- What infer has done, and what has reached the healer, in this order. -/
structure Delivery (Value Score : Type) where
  infer : State Value Score
  received : List (Post Score)

/-- Something happens in infer, or at the healer. -/
inductive DeliveryEvent (Score : Type) where
  | infer (event : Event Score)
  /-- The observation of the post reaches the healer. -/
  | arrives (post : Post Score)
  deriving Repr, DecidableEq

namespace Delivery

/-- Before the first connection. -/
def initial : Delivery Value Score where
  infer := InferTasks.initial
  received := []

/-- A post arrives once, at any time after its start. -/
def step?
    [DecidableEq Score]
    (decoder : Decoder Value)
    (delivery : Delivery Value Score) :
    DeliveryEvent Score → Option (Delivery Value Score)
  | .infer event =>
      match InferTasks.step? decoder delivery.infer event with
      | none => none
      | some next => some { delivery with infer := next }
  | .arrives post =>
      if post ∈ delivery.infer.posts ∧ post ∉ delivery.received then
        some { delivery with received := delivery.received ++ [post] }
      else
        none

/-- The observations of a channel are posted and received in frame order. -/
structure ChannelsInOrder (delivery : Delivery Value Score) : Prop where
  posted : InFrameOrder delivery.infer.posts
  received : InFrameOrder delivery.received

end Delivery

/-- The task of the post waits for the reply to it. -/
def inFlight
    (decoder : Decoder Value)
    (state : State Value Score)
    (post : Post Score) : Bool :=
  match state.tasks[post.connection]? with
  | none => false
  | some task =>
      match task.stage with
      | .posting frame _ =>
          decoder.key frame = post.key && task.lines = post.line
      | _ => false

/--
A task posts only when the earlier connections are settled for the channel, and
a post arrives only while its task waits for the reply.
-/
def Delivery.onTime
    (decoder : Decoder Value)
    (delivery : Delivery Value Score) : DeliveryEvent Score → Bool
  | .infer event => postsLast decoder delivery.infer event
  | .arrives post => inFlight decoder delivery.infer post

/-- A post is in flight only behind the posts that were started before it. -/
theorem Ordered.framePrecedes_inFlight
    {decoder : Decoder Value}
    {state : State Value Score}
    (ordered : Ordered decoder state)
    {first second : Post Score}
    (isFirst : first ∈ state.posts)
    (isSecond : second ∈ state.posts)
    (flying : inFlight decoder state second = true)
    (different : first ≠ second)
    (sameKey : first.key = second.key) :
    first.FramePrecedes second := by
  simp only [inFlight] at flying
  split at flying
  · cases flying
  · rename_i task found
    split at flying
    · rename_i frame terminated posting
      simp only [Bool.and_eq_true, decide_eq_true_eq] at flying
      obtain ⟨frameKey, line⟩ := flying
      rcases Nat.lt_trichotomy first.connection second.connection with
        earlier | same | later
      · exact Or.inl earlier
      · obtain ⟨own, ownFound, upTo⟩ := ordered.bounded first isFirst
        rw [same, found] at ownFound
        cases ownFound
        have otherLine : first.line ≠ second.line := fun sameLine =>
          different (ordered.inOrder.eq_of_line_eq isFirst isSecond
            sameKey same sameLine)
        exact Or.inr ⟨same,
          Nat.lt_of_le_of_ne (line ▸ upTo.le) otherLine⟩
      · -- The first was started when no post of the channel was under way.
        have wasSettled :=
          ordered.settled first isFirst second.connection later task found
        simp [Task.settled, posting, frameKey, sameKey] at wasSettled
    · cases flying

/-- What the runs maintain in which the arrivals are on time as well. -/
structure Delivery.Ordered
    (decoder : Decoder Value)
    (delivery : Delivery Value Score) : Prop where
  infer : InferTasks.Ordered decoder delivery.infer
  started : ∀ post ∈ delivery.received, post ∈ delivery.infer.posts
  received : InFrameOrder delivery.received

/-- No step of infer takes a post back. -/
theorem posts_subset_of_step?
    {decoder : Decoder Value}
    {state next : State Value Score}
    {event : Event Score}
    (stepped : step? decoder state event = some next) :
    state.posts ⊆ next.posts := by
  cases step?_shape stepped with
  | connected =>
      exact List.Subset.refl _
  | quiet connection event task after found taskStepped =>
      exact List.Subset.refl _
  | posts connection event task after observation found taskStepped =>
      exact List.subset_append_left _ _

theorem Delivery.Ordered.step
    [DecidableEq Score]
    {decoder : Decoder Value}
    {delivery next : Delivery Value Score}
    {event : DeliveryEvent Score}
    (ordered : delivery.Ordered decoder)
    (punctual : delivery.onTime decoder event = true)
    (stepped : delivery.step? decoder event = some next) :
    next.Ordered decoder := by
  cases event with
  | infer event =>
      simp only [Delivery.step?] at stepped
      split at stepped
      · cases stepped
      · rename_i after inferStepped
        cases stepped
        have kept := posts_subset_of_step? inferStepped
        exact ⟨ordered.infer.step punctual inferStepped,
          fun post member => kept (ordered.started post member),
          ordered.received⟩
  | arrives post =>
      simp only [Delivery.step?] at stepped
      split at stepped
      · rename_i arrival
        obtain ⟨isPosted, isNew⟩ := arrival
        cases stepped
        refine ⟨ordered.infer, ?_, ?_⟩
        · intro received member
          rcases List.mem_append.mp member with old | new
          · exact ordered.started received old
          · exact List.mem_singleton.mp new ▸ isPosted
        · refine List.pairwise_append.mpr
            ⟨ordered.received, List.pairwise_singleton _ _, ?_⟩
          intro first member second isSecond sameKey
          rw [List.mem_singleton] at isSecond
          subst isSecond
          exact ordered.infer.framePrecedes_inFlight
            (ordered.started first member) isPosted punctual
            (fun same => isNew (same ▸ member)) sameKey
      · cases stepped

/--
In every run in which a task posts only when the earlier connections are
settled for the channel, and a post reaches the healer only while its task
waits for the reply, the observations of a channel are posted and received in
the order of their frames.
-/
theorem channels_in_order
    [DecidableEq Score]
    {decoder : Decoder Value}
    {events : List (DeliveryEvent Score)}
    {delivery : Delivery Value Score}
    (accepted :
      Transition.run? (Delivery.step? decoder) Delivery.initial events =
        some delivery)
    (punctual :
      Transition.AllSteps (Delivery.step? decoder)
        (fun current event => current.onTime decoder event = true)
        Delivery.initial events) :
    delivery.ChannelsInOrder := by
  have fresh :
      (Delivery.initial : Delivery Value Score).Ordered decoder :=
    ⟨ordered_initial decoder, by simp [Delivery.initial],
      List.Pairwise.nil⟩
  have ordered :=
    Transition.run?_invariant_of_allSteps
      (fun ordered punctual stepped =>
        Delivery.Ordered.step ordered punctual stepped)
      fresh punctual accepted
  exact ⟨ordered.infer.inOrder, ordered.received⟩

section Runs

/-! Two runs in which the ingest has connected twice. -/

instance decidableFramePrecedes (first second : Post Score) :
    Decidable (first.FramePrecedes second) :=
  inferInstanceAs (Decidable (_ ∨ _))

instance decidableInFrameOrder (posts : List (Post Score)) :
    Decidable (InFrameOrder posts) :=
  inferInstanceAs (Decidable (List.Pairwise _ _))

/-- The text of a frame of channel `C1` of `L1`. -/
def frameText (seq : Char) : List Char :=
  "\x7b\"seq\":".toList ++ [seq] ++
    ",\"link_id\":\"L1\",\"channel_id\":\"C1\"\x7d".toList

/-- The document it stands for. -/
def frameDoc (seq : Int) : Json Int :=
  .object [("seq", .number (.finite seq)), ("link_id", .string "L1"),
    ("channel_id", .string "C1")]

/-- The bytes that the ingest sends for it. -/
def frameBytes (seq : Char) : Bytes :=
  ((frameText seq).map fun char => UInt8.ofNat char.toNat) ++ [newline]

/-- `json.loads` and `str` on the frames of the two runs. -/
def frameDecoder : Decoder Int where
  loads line :=
    if line = frameText '1' then .value (frameDoc 1)
    else if line = frameText '2' then .value (frameDoc 2)
    else if line = frameText '3' then .value (frameDoc 3)
    else .decodeError
  strOther _ := ""

/-- A score far above the threshold. -/
def frameScored (tsUnixMs : Int) : TaskEvent Nat :=
  .scored (some { tsUnixMs := tsUnixMs, sIf := 1, sAe := 1, pFail10m := 1 })

/-- The post of the frame with this number. -/
def framePost
    (connection line : Nat)
    (seq : Int)
    (tsUnixMs : Int) : Post Nat where
  connection := connection
  line := line
  observation := Task.observation frameDecoder (frameDoc seq)
    { tsUnixMs := tsUnixMs, sIf := 1, sAe := 1, pFail10m := 1 }

/--
The post of the first frame is slow.  Meanwhile the ingest connects anew and
its third frame is scored and posted; then the old task gets to the second.
-/
def overtakingEvents : List (DeliveryEvent Nat) := [
  .infer .connected,
  .infer (.task 0 (.received (frameBytes '1' ++ frameBytes '2'))),
  .infer (.task 0 .resumed),
  .infer (.task 0 (frameScored 1000)),
  .infer (.task 0 .closed),
  .infer .connected,
  .infer (.task 1 (.received (frameBytes '3'))),
  .infer (.task 1 .resumed),
  .arrives (framePost 0 1 1 1000),
  .infer (.task 1 (frameScored 3000)),
  .arrives (framePost 1 1 3 3000),
  .infer (.task 0 .postReturned),
  .infer (.task 0 .resumed),
  .infer (.task 0 (frameScored 2000)),
  .arrives (framePost 0 2 2 2000)]

/-- The old task has left its loop before the new one posts. -/
def waitingEvents : List (DeliveryEvent Nat) := [
  .infer .connected,
  .infer (.task 0 (.received (frameBytes '1'))),
  .infer (.task 0 .closed),
  .infer .connected,
  .infer (.task 1 (.received (frameBytes '2'))),
  .infer (.task 1 .resumed),
  .infer (.task 0 .resumed),
  .infer (.task 0 (frameScored 1000)),
  .arrives (framePost 0 1 1 1000),
  .infer (.task 0 .postReturned),
  .infer (.task 0 .resumed),
  .infer (.task 1 (frameScored 2000)),
  .arrives (framePost 1 1 2 2000)]

/-- The newer window overtakes the older one of the same channel. -/
theorem newer_frame_posted_first :
    ¬ ∀ (decoder : Decoder Int) (events : List (DeliveryEvent Nat))
        (delivery : Delivery Int Nat),
      Transition.run? (Delivery.step? decoder) Delivery.initial events =
          some delivery →
        InFrameOrder delivery.infer.posts ∨
          InFrameOrder delivery.received := by
  intro claim
  have accepted :
      (Transition.run? (Delivery.step? frameDecoder) Delivery.initial
        overtakingEvents).isSome := by
    decide +kernel
  have outOfOrder :
      ∀ delivery ∈ Transition.run? (Delivery.step? frameDecoder)
          Delivery.initial overtakingEvents,
        ¬ (InFrameOrder delivery.infer.posts ∨
          InFrameOrder delivery.received) := by
    decide +kernel
  obtain ⟨delivery, reached⟩ := Option.isSome_iff_exists.mp accepted
  exact outOfOrder delivery reached
    (claim frameDecoder overtakingEvents delivery reached)

/-- A run with a reconnect that meets the condition. -/
theorem channels_in_order_waiting :
    ∃ delivery,
      Transition.run? (Delivery.step? frameDecoder) Delivery.initial
          waitingEvents = some delivery ∧
        delivery.infer.posts.length = 2 ∧
        delivery.received.length = 2 ∧
        delivery.ChannelsInOrder := by
  have accepted :
      (Transition.run? (Delivery.step? frameDecoder) Delivery.initial
        waitingEvents).isSome := by
    decide +kernel
  have bothArrived :
      ∀ delivery ∈ Transition.run? (Delivery.step? frameDecoder)
          Delivery.initial waitingEvents,
        delivery.infer.posts.length = 2 ∧
          delivery.received.length = 2 := by
    decide +kernel
  obtain ⟨delivery, reached⟩ := Option.isSome_iff_exists.mp accepted
  obtain ⟨posted, received⟩ := bothArrived delivery reached
  exact ⟨delivery, reached, posted, received,
    channels_in_order reached (by decide +kernel)⟩

end Runs

end Delivery

end InferTasks

end OpticsSoftfail
