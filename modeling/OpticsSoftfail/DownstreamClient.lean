import Mathlib.Data.Rat.Defs
import Mathlib.Algebra.Order.Ring.Rat
import OpticsSoftfail.JsonlServer

namespace OpticsSoftfail

/-!
# The downstream client of the ingest

`DownstreamClient::send_line` puts one line and a newline on its connection.
`send` may take any part of what it is offered, be interrupted, or fail; after a
failure the connection is closed, and the next call that is late enough opens a
new one.  The model keeps, for every connection ever opened, the bytes `send`
took there.
-/

/-- `kReconnectBackoffS`. -/
def kReconnectBackoffS : ℚ :=
  1

/-- What becomes of one address that `getaddrinfo` returned. -/
inductive AddressAttempt where
  /-- `socket` fails. -/
  | noSocket
  /-- `connect` fails. -/
  | refused
  | connected
  deriving Repr, DecidableEq

/-- The result of one `send` call. -/
inductive SendResult where
  /-- This many bytes more than one, or all that were offered. -/
  | wrote (extra : Nat)
  /-- Not positive, with `errno` set to `EINTR`. -/
  | interrupted
  /-- Not positive, with any other `errno`. -/
  | failed
  deriving Repr, DecidableEq

/-- One call of `send_line`, and what the system does in it. -/
structure SendCall where
  line : Bytes
  /-- The value of `now_seconds`. -/
  now : ℚ
  /-- The addresses, unless `getaddrinfo` fails. -/
  resolution : Option (List AddressAttempt)
  /-- After these, `send` blocks. -/
  results : List SendResult
  deriving Repr, DecidableEq

/-- The sender. -/
structure DownstreamClient where
  lastAttemptS : ℚ
  /-- What `send` took on each closed connection, oldest first. -/
  closed : List Bytes
  /-- What `send` took on the open connection, if `fd_` is one. -/
  fd : Option Bytes
  deriving Repr, DecidableEq

namespace DownstreamClient

/-- Before the first call. -/
def initial : DownstreamClient where
  lastAttemptS := 0
  closed := []
  fd := none

/-- The byte streams of all connections, oldest first. -/
def connections (client : DownstreamClient) : List Bytes :=
  client.closed ++ client.fd.toList

/-- `ensure_connected`. -/
def ensureConnected
    (client : DownstreamClient)
    (now : ℚ)
    (resolution : Option (List AddressAttempt)) :
    DownstreamClient × Bool :=
  match client.fd with
  | some _ => (client, true)
  | none =>
      if now - client.lastAttemptS < kReconnectBackoffS then
        (client, false)
      else
        let attempted := { client with lastAttemptS := now }
        match resolution with
        | none => (attempted, false)
        | some addresses =>
            -- the first address that takes the connection
            if addresses.contains .connected then
              ({ attempted with fd := some [] }, true)
            else
              (attempted, false)

/-- How the loop of `send_line` ends. -/
inductive LoopEnd where
  | sent
  | failed
  /-- It does not end: `send` blocks. -/
  | blocked
  deriving Repr, DecidableEq

/-- The loop of `send_line`, from `sent` on. -/
def sendLoop (payload : Bytes) :
    Nat → Bytes → List SendResult → Bytes × LoopEnd
  | sent, taken, results =>
      if sent < payload.length then
        match results with
        | [] => (taken, .blocked)
        | .interrupted :: later => sendLoop payload sent taken later
        | .failed :: _ => (taken, .failed)
        | .wrote extra :: later =>
            let wrote := min (extra + 1) (payload.length - sent)
            sendLoop payload (sent + wrote)
              (taken ++ (payload.drop sent).take wrote) later
      else
        (taken, .sent)

/-- `send_line`: the new state and what is returned, if it returns. -/
def sendLine
    (client : DownstreamClient)
    (call : SendCall) : DownstreamClient × Option Bool :=
  let ensured := client.ensureConnected call.now call.resolution
  match ensured.2, ensured.1.fd with
  | true, some taken =>
      match sendLoop (call.line ++ [newline]) 0 taken call.results with
      | (taken, .sent) =>
          ({ ensured.1 with fd := some taken }, some true)
      | (taken, .failed) =>
          ({ ensured.1 with
              closed := ensured.1.closed ++ [taken]
              fd := none },
            some false)
      | (taken, .blocked) => ({ ensured.1 with fd := some taken }, none)
  | _, _ => (ensured.1, some false)

/-- The calls one after the other; after one that blocks there is none. -/
def sendAll :
    DownstreamClient → List SendCall →
      DownstreamClient × List (Option Bool)
  | client, [] => (client, [])
  | client, call :: later =>
      match client.sendLine call with
      | (next, none) => (next, none :: later.map fun _ => none)
      | (next, some returned) =>
          let sent := sendAll next later
          (sent.1, some returned :: sent.2)

section Specification

/-! ## What one call can do -/

/-- The result of the loop says how much of the payload was taken. -/
theorem sendLoop_spec
    {payload before taken : Bytes}
    {sent : Nat}
    (atMost : sent ≤ payload.length)
    (isTaken : taken = before ++ payload.take sent)
    (results : List SendResult) :
    ∃ count,
      (sendLoop payload sent taken results).1 =
          before ++ payload.take count ∧
        if (sendLoop payload sent taken results).2 = .sent then
          count = payload.length
        else
          count < payload.length := by
  fun_induction sendLoop payload sent taken results with
  | case1 sent taken unsent =>
      exact ⟨sent, isTaken, unsent⟩
  | case2 sent taken unsent later inductionHypothesis =>
      exact inductionHypothesis atMost isTaken
  | case3 sent taken unsent later =>
      exact ⟨sent, isTaken, unsent⟩
  | case4 sent taken unsent extra later wrote inductionHypothesis =>
      apply inductionHypothesis
      · omega
      · rw [isTaken, List.append_assoc, List.take_add]
  | case5 sent taken results done =>
      have whole : sent = payload.length := by omega
      exact ⟨sent, isTaken, whole⟩

/-- The ways in which a call can go on from a state. -/
inductive Sends (client : DownstreamClient) (payload : Bytes) :
    DownstreamClient → Option Bool → Prop
  /-- There is no connection. -/
  | unreachable {next : DownstreamClient} :
      client.fd = none →
      next.closed = client.closed →
      next.fd = none →
      Sends client payload next (some false)
  | whole {next : DownstreamClient} :
      next.closed = client.closed →
      next.fd = some (client.fd.getD [] ++ payload) →
      Sends client payload next (some true)
  /-- The connection is closed before all of the payload was taken. -/
  | broken {next : DownstreamClient} {count : Nat} :
      count < payload.length →
      next.closed =
        client.closed ++ [client.fd.getD [] ++ payload.take count] →
      next.fd = none →
      Sends client payload next (some false)
  | blocked {next : DownstreamClient} {count : Nat} :
      count < payload.length →
      next.closed = client.closed →
      next.fd = some (client.fd.getD [] ++ payload.take count) →
      Sends client payload next none

/-- A connection that was there is kept, and a new one is empty. -/
theorem ensureConnected_spec
    (client : DownstreamClient)
    (now : ℚ)
    (resolution : Option (List AddressAttempt)) :
    (client.ensureConnected now resolution).1.closed = client.closed ∧
      ((client.ensureConnected now resolution).2 = true ∧
          (client.ensureConnected now resolution).1.fd =
            some (client.fd.getD []) ∨
        (client.ensureConnected now resolution).2 = false ∧
          client.fd = none ∧
          (client.ensureConnected now resolution).1.fd = none) := by
  rcases client with ⟨lastAttemptS, closed, fd⟩
  simp only [ensureConnected]
  cases fd with
  | some taken =>
      exact ⟨rfl, Or.inl ⟨rfl, rfl⟩⟩
  | none =>
      by_cases early : now - lastAttemptS < kReconnectBackoffS
      · simp [early]
      · cases resolution with
        | none =>
            simp [early]
        | some addresses =>
            by_cases connects : AddressAttempt.connected ∈ addresses <;>
              simp [early, connects]

/-- Every call goes on in one of these ways. -/
theorem sendLine_sends
    (client : DownstreamClient)
    (call : SendCall) :
    Sends client (call.line ++ [newline])
      (client.sendLine call).1 (client.sendLine call).2 := by
  obtain ⟨sameClosed, ⟨connected, isOpen⟩ | ⟨refused, wasNone, isNone⟩⟩ :=
    client.ensureConnected_spec call.now call.resolution
  · have nothingSent : client.fd.getD [] = client.fd.getD [] ++
        (call.line ++ [newline]).take 0 :=
      (List.append_nil _).symm
    obtain ⟨count, isTaken, reached⟩ :=
      sendLoop_spec (Nat.zero_le _) nothingSent call.results
    rw [sendLine]
    simp only [connected, isOpen]
    rcases ended : sendLoop (call.line ++ [newline]) 0
      (client.fd.getD []) call.results with ⟨taken, loopEnd⟩
    simp only [ended] at isTaken reached
    subst isTaken
    cases loopEnd with
    | sent =>
        have all : count = (call.line ++ [newline]).length := reached
        rw [all, List.take_length]
        exact .whole sameClosed rfl
    | failed =>
        exact .broken reached (by rw [sameClosed]) rfl
    | blocked =>
        exact .blocked reached sameClosed rfl
  · rw [sendLine]
    simp only [refused]
    exact .unreachable wasNone sameClosed isNone

end Specification

end DownstreamClient

end OpticsSoftfail
