import Haaukins.Guacamole.KeyLogger
import Haaukins.Lib.Shuffle
import Haaukins.Lib.Threads

/-!
# `Haaukins.Guacamole.WebsocketProxy`: the desktop of a team (`websocketProxy` in `guacamole.go`)

A connection of a team to its desktop has four goroutines. Two of them copy messages, one from the
client to Guacamole and one back. The third is `keyLogger.run` on the frames of the client. The
handler itself waits for one error of the copiers and closes both connections.

Both copiers are started with `errClient`, so they share one channel, which has room for one error.
`errBackend` never gets a value.

A copier that fails to read does not leave its loop. It sends a close message and its error, and
then goes on to write what it has read. The write fails once a close message was sent, and the
copier sends a second error before it ends. A close message that is too long is refused without an
effect on the connection. Then the rest of the failed read is written like any other message.

* A `Proxy` is one connection of the team. `proxies` is the machine of any number of them, with the
  log that they share. Each has its own key logger, or none when `GetLogger` fails for it.
* `relays` is about what arrives: each side gets what the other sent, in order and without gaps, and
  the log of the team is a shuffle of the logs of its connections.
* `copiers_stuck` is about the end: the channel takes two errors in all. The copiers never both end
  after a failed read, and one that waits at the full channel waits for ever.

What the network answers is part of an action. A read after the end of the handler can still find a
message that had arrived before.
-/

set_option autoImplicit false

namespace Haaukins.Guacamole

/-- What `ReadMessage` returns, next to its error. -/
structure WsMessage where
  msgType : Int
  data : ByteArray

/-- Where a copier is in its loop. -/
inductive CopyPoint where
  /-- Before `src.ReadMessage`. -/
  | reading
  /-- Before the close message, after a failed read that left `rest`. -/
  | closing (err : String) (rest : WsMessage)
  /-- Before `errc <- err` after the close message. -/
  | reporting (err : String) (rest : WsMessage)
  /-- Before `dst.WriteMessage`. -/
  | writing (msg : WsMessage)
  /-- Before `errc <- err` after a failed write. -/
  | leaving (err : String)
  /-- Before `action(data)`. -/
  | acting (msg : WsMessage)
  | ended

/-- A goroutine of `cp`. -/
structure Copier where
  point : CopyPoint
  /-- A read from `src` has failed. -/
  failed : Bool
  /-- A close message went out to `dst`, or has failed with the connection. -/
  closeSent : Bool
  /-- The messages that were read without an error. -/
  received : List WsMessage
  /-- What failed reads left, where the close message was refused. -/
  rests : List WsMessage
  /-- The messages that were written without an error. -/
  forwarded : List WsMessage
  /-- The number of errors that it has sent. -/
  sent : Nat

/-- The side that a copier reads from. -/
inductive Side where
  | client
  | backend
  deriving DecidableEq

/-- Where the handler is. -/
inductive ProxyMain where
  | selecting
  /-- It took an error from `errClient`. -/
  | took
  /-- Both connections are closed. -/
  | returned

/-- The number of errors that the handler has taken. -/
def ProxyMain.taken : ProxyMain → Nat
  | .selecting => 0
  | .took | .returned => 1

/-- A connection of a team to its desktop. -/
structure Proxy where
  /-- What `GetLogger` gave: a logger, or an error. The copiers start after it. -/
  hasLogger : Option Bool
  client : Copier
  backend : Copier
  /-- The channel of both copiers, with room for one error. -/
  errClient : List String
  main : ProxyMain
  /-- The event that `run` has received and has not written yet. -/
  handling : Option KeyEvent
  /-- The events that `run` has written. -/
  logged : List KeyEvent

/-- A step of a copier, with what the network answers. -/
inductive CopyAction where
  | read (msg : WsMessage)
  | readErr (err : String) (rest : WsMessage)
  /-- The close message goes out, or fails with the connection. -/
  | writeClose
  /-- The close message is refused: it is longer than a control frame may be. -/
  | refuseClose
  | write
  | writeErr (err : String)

/-- A step of a connection. -/
inductive ProxyAction where
  /-- `keyLoggerPool.GetLogger` returns a logger, or an error when `ok` is false. -/
  | getLogger (ok : Bool)
  | copy (d : Side) (a : CopyAction)
  /-- `errc <- err` of a copier. -/
  | report (d : Side)
  /-- `k.ch <- keyEvent` in `Log`, which `run` receives. -/
  | log (now : Time)
  /-- The body of the loop of `run`. -/
  | run
  | select
  | close

namespace Copier

/-- The copier before its first read. -/
def start : Copier where
  point := .reading
  failed := false
  closeSent := false
  received := []
  rests := []
  forwarded := []
  sent := 0

variable (c : Copier)

/-- `src.ReadMessage()` returns a message. It does not after it has returned an error. -/
def read (msg : WsMessage) : Option Copier :=
  match c.point with
  | .reading =>
    if c.failed then none
    else some { c with point := .writing msg, received := c.received ++ [msg] }
  | _ => none

/-- `src.ReadMessage()` returns an error. -/
def readErr (err : String) (rest : WsMessage) : Option Copier :=
  match c.point with
  | .reading => some { c with point := .closing err rest, failed := true }
  | _ => none

/-- `dst.WriteMessage(websocket.CloseMessage, m)`. Its error is not looked at. -/
def writeClose : Option Copier :=
  match c.point with
  | .closing err rest => some { c with point := .reporting err rest, closeSent := true }
  | _ => none

/-- `dst.WriteMessage(websocket.CloseMessage, m)` refuses the message and leaves `dst` as it was. -/
def refuseClose : Option Copier :=
  match c.point with
  | .closing err rest => some { c with point := .reporting err rest, rests := c.rests ++ [rest] }
  | _ => none

/-- The error that the copier sends with `errc <- err`, and the copier after it. -/
def report : Option (String × Copier) :=
  match c.point with
  -- There is no `break` after a failed read: what was read is written next.
  | .reporting err rest => some (err, { c with point := .writing rest, sent := c.sent + 1 })
  | .leaving err => some (err, { c with point := .ended, sent := c.sent + 1 })
  | _ => none

/-- `dst.WriteMessage(msgType, data)` succeeds, which it does not after a close message. -/
def write (acts : Bool) : Option Copier :=
  match c.point with
  | .writing msg =>
    if c.closeSent then none
    else some { c with
      point := if acts then .acting msg else .reading
      forwarded := c.forwarded ++ [msg] }
  | _ => none

/-- `dst.WriteMessage(msgType, data)` fails. -/
def writeErr (err : String) : Option Copier :=
  match c.point with
  | .writing _ => some { c with point := .leaving err }
  | _ => none

/-- The body of the loop of `cp`. `acts` says that there is an action for each message. -/
def step (acts : Bool) : CopyAction → Option Copier
  | .read msg => c.read msg
  | .readErr err rest => c.readErr err rest
  | .writeClose => c.writeClose
  | .refuseClose => c.refuseClose
  | .write => c.write acts
  | .writeErr err => c.writeErr err

end Copier

namespace Proxy

/-- The connection after the upgrade of the client. -/
def start : Proxy where
  hasLogger := none
  client := .start
  backend := .start
  errClient := []
  main := .selecting
  handling := none
  logged := []

variable (p : Proxy)

/-- The copier that reads from a side. -/
def copier : Side → Copier
  | .client => p.client
  | .backend => p.backend

/-- The connection with another copier for a side. -/
def setCopier : Side → Copier → Proxy
  | .client, c => { p with client := c }
  | .backend, c => { p with backend := c }

/-- The `actions` of a copier: `logger.Log` for the frames of the client, when there is a logger. -/
def acts (hasLogger : Bool) : Side → Bool
  | .client => hasLogger
  | .backend => false

/-- `keyLoggerPool.GetLogger(*t)`. Its error is only logged. -/
def getLogger (ok : Bool) : Option Proxy :=
  match p.hasLogger with
  | none => some { p with hasLogger := some ok }
  | some _ => none

/-- A step of a copier in its loop. -/
def copy (d : Side) (a : CopyAction) : Option Proxy :=
  p.hasLogger.bind fun hasLogger =>
    ((p.copier d).step (acts hasLogger d) a).map fun c => p.setCopier d c

/-- A copier sends its error, when the channel has room. -/
def report (d : Side) : Option Proxy :=
  if p.errClient = [] then
    (p.copier d).report.map fun r => { p.setCopier d r.2 with errClient := [r.1] }
  else none

/-- `action(data)` of the client's copier, when `run` is ready to receive. -/
def log (now : Time) : Option Proxy :=
  match p.client.point, p.handling with
  | .acting msg, none => some { p with
      client := { p.client with point := .reading }
      handling := some { timestamp := now, rawFrame := msg.data } }
  | _, _ => none

/-- The `select` of the handler, for which only `errClient` is ever ready. -/
def select : Option Proxy :=
  match p.main, p.errClient with
  | .selecting, _ :: errs => some { p with errClient := errs, main := .took }
  | _, _ => none

/-- The deferred `c.Close()` and `backend.Close()`. -/
def close : Option Proxy :=
  match p.main with
  | .took => some { p with main := .returned }
  | _ => none

/-- A step of a connection, on the log that the connections of the team share. -/
def step (l : KeyLog) : ProxyAction → Option (KeyLog × Proxy)
  | .getLogger ok => (p.getLogger ok).map fun q => (l, q)
  | .copy d a => (p.copy d a).map fun q => (l, q)
  | .report d => (p.report d).map fun q => (l, q)
  | .log now => (p.log now).map fun q => (l, q)
  | .run =>
    match p.handling with
    | some event => (newKeyLogger.logEvent l event).map fun l' =>
        (l', { p with handling := none, logged := p.logged ++ [event] })
    | none => none
  | .select => p.select.map fun q => (l, q)
  | .close => p.close.map fun q => (l, q)

end Proxy

/-- The connections of a team. -/
def proxies : Program KeyLog Proxy ProxyAction where
  init l := l = { entries := [], warnings := [] }
  start := .start
  step l p a := p.step l a

/-! ### What a copier keeps -/

namespace Copier

variable {c c' : Copier} {acts : Bool}

/-- What a step in the loop does. -/
inductive Step (acts : Bool) (c : Copier) : Copier → Prop where
  | read {msg : WsMessage} : c.point = .reading → c.failed = false →
      Step acts c { c with point := .writing msg, received := c.received ++ [msg] }
  | readErr {err : String} {rest : WsMessage} : c.point = .reading →
      Step acts c { c with point := .closing err rest, failed := true }
  | writeClose {err : String} {rest : WsMessage} : c.point = .closing err rest →
      Step acts c { c with point := .reporting err rest, closeSent := true }
  | refuseClose {err : String} {rest : WsMessage} : c.point = .closing err rest →
      Step acts c { c with point := .reporting err rest, rests := c.rests ++ [rest] }
  | write {msg : WsMessage} : c.point = .writing msg → c.closeSent = false →
      Step acts c { c with
        point := if acts then .acting msg else .reading
        forwarded := c.forwarded ++ [msg] }
  | writeErr {msg : WsMessage} {err : String} : c.point = .writing msg →
      Step acts c { c with point := .leaving err }

/-- The steps of the loop are those of `Step`. -/
theorem step_cases {a : CopyAction} (hs : c.step acts a = some c') : Step acts c c' := by
  cases a with
  | read msg =>
    simp only [step, read] at hs
    split at hs
    · split at hs
      · cases hs
      · cases hs
        exact .read ‹_› (Bool.eq_false_iff.mpr ‹_›)
    · cases hs
  | readErr err rest =>
    simp only [step, readErr] at hs
    split at hs <;> cases hs
    exact .readErr ‹_›
  | writeClose =>
    simp only [step, writeClose] at hs
    split at hs <;> cases hs
    exact .writeClose ‹_›
  | refuseClose =>
    simp only [step, refuseClose] at hs
    split at hs <;> cases hs
    exact .refuseClose ‹_›
  | write =>
    simp only [step, write] at hs
    split at hs
    · split at hs
      · cases hs
      · cases hs
        exact .write ‹_› (Bool.eq_false_iff.mpr ‹_›)
    · cases hs
  | writeErr err =>
    simp only [step, writeErr] at hs
    split at hs <;> cases hs
    exact .writeErr ‹_›

/-- What was written is what was read, in order and up to one message. What a failed read left
counts when its close message was refused. -/
def Relays (c : Copier) : Prop :=
  ∃ late, late.length ≤ 1 ∧ c.received ++ c.rests = c.forwarded ++ late

/-- What the copier still has to write, at each of its points. -/
def Placed (c : Copier) : Prop :=
  match c.point with
  | .reading | .acting _ => c.closeSent = false ∧ c.received ++ c.rests = c.forwarded
  | .closing _ _ => c.failed = true ∧ c.closeSent = false ∧ c.received ++ c.rests = c.forwarded
  | .reporting _ msg =>
    c.failed = true ∧
      c.received ++ c.rests = c.forwarded ++ (if c.closeSent then [] else [msg])
  | .writing msg => c.received ++ c.rests = c.forwarded ++ (if c.closeSent then [] else [msg])
  | .leaving _ | .ended => c.Relays

/-- The errors that the copier must have sent to be where it is. -/
def owed (c : Copier) : Nat :=
  match c.point with
  | .closing _ _ | .reporting _ _ => 0
  | .ended => c.failed.toNat + 1
  | _ => c.failed.toNat

/-- The invariant of a copier. -/
structure Inv (c : Copier) : Prop where
  placed : c.Placed
  rests : c.failed = false → c.rests = []
  owed : c.owed ≤ c.sent

/-- Nothing is read and nothing is sent. -/
theorem inv_start : start.Inv := ⟨⟨rfl, rfl⟩, fun _ => rfl, le_rfl⟩

/-- A copier relays what its source gave. -/
theorem Inv.relays_of_copier (h : c.Inv) : c.Relays := by
  have hplaced := h.placed
  unfold Placed at hplaced
  split at hplaced
  · exact ⟨[], by simp, by simp [hplaced.2]⟩
  · exact ⟨[], by simp, by simp [hplaced.2]⟩
  · exact ⟨[], by simp, by simp [hplaced.2.2]⟩
  · exact ⟨_, by split <;> simp, hplaced.2⟩
  · exact ⟨_, by split <;> simp, hplaced⟩
  · exact hplaced
  · exact hplaced

/-- Each step of the loop keeps the invariant. -/
theorem Inv.step (h : c.Inv) (hs : Step acts c c') : c'.Inv := by
  have hplaced := h.placed
  have howed := h.owed
  cases hs with
  | read hpoint hfailed =>
    simp only [Placed, hpoint] at hplaced
    refine ⟨?_, h.rests, ?_⟩
    · have hrests := h.rests hfailed
      have hread : c.received = c.forwarded := by simpa [hrests] using hplaced.2
      simp [Placed, hplaced.1, hrests, hread]
    · simp [Copier.owed, hfailed]
  | readErr hpoint =>
    simp only [Placed, hpoint] at hplaced
    exact ⟨⟨rfl, hplaced⟩, by simp, by simp [Copier.owed]⟩
  | writeClose hpoint =>
    simp only [Placed, hpoint] at hplaced
    exact ⟨⟨hplaced.1, by simp [hplaced.2.2]⟩, h.rests, by simp [Copier.owed]⟩
  | refuseClose hpoint =>
    simp only [Placed, hpoint] at hplaced
    refine ⟨⟨hplaced.1, ?_⟩, ?_, by simp [Copier.owed]⟩
    · simp [hplaced.2.1, ← hplaced.2.2]
    · simp [hplaced.1]
  | write hpoint hopen =>
    simp only [Placed, Copier.owed, hpoint, hopen] at hplaced howed
    refine ⟨?_, h.rests, ?_⟩
    · cases acts <;> exact ⟨hopen, hplaced⟩
    · cases acts <;> exact howed
  | writeErr hpoint =>
    simp only [Placed, Copier.owed, hpoint] at hplaced howed
    exact ⟨⟨_, by split <;> simp, hplaced⟩, h.rests, howed⟩

/-- Sending an error keeps the invariant. -/
theorem Inv.report {err : String} (h : c.Inv) (hs : c.report = some (err, c')) :
    c'.Inv ∧ c'.sent = c.sent + 1 := by
  have hplaced := h.placed
  have howed := h.owed
  unfold Copier.report at hs
  split at hs
  · next hpoint =>
    cases hs
    simp only [Placed, hpoint] at hplaced
    exact ⟨⟨hplaced.2, h.rests, by simp [Copier.owed, hplaced.1]⟩, rfl⟩
  · next hpoint =>
    cases hs
    simp only [Placed, Copier.owed, hpoint] at hplaced howed
    exact ⟨⟨hplaced, h.rests, Nat.add_le_add_right howed 1⟩, rfl⟩
  · cases hs

/-- The message for which the action comes next. -/
def waiting (c : Copier) : List WsMessage :=
  match c.point with
  | .acting msg => [msg]
  | _ => []

/-- What a step writes, and for which message an action comes next. -/
theorem Step.forwarded (hs : Step acts c c') :
    c.waiting = [] ∧ ∃ msgs, c'.forwarded = c.forwarded ++ msgs ∧
      c'.waiting = if acts then msgs else [] := by
  have hnone : ([] : List WsMessage) = if acts then [] else [] := by cases acts <;> rfl
  cases hs with
  | @write msg hpoint _ =>
    refine ⟨by simp [waiting, hpoint], [msg], rfl, ?_⟩
    cases acts <;> rfl
  | read hpoint | readErr hpoint | writeClose hpoint | refuseClose hpoint | writeErr hpoint =>
    exact ⟨by simp [waiting, hpoint], [], (List.append_nil _).symm, hnone⟩

/-- No step of the loop sends an error. -/
theorem Step.sent (hs : Step acts c c') : c'.sent = c.sent := by
  cases hs <;> rfl

/-- The copier is before `errc <- err`. -/
def AtSend (c : Copier) : Prop := c.report.isSome

/-- From there the loop goes on only with the send. -/
theorem Step.not_atSend (hs : Step acts c c') : ¬ c.AtSend := by
  cases hs with
  | read hpoint | readErr hpoint | writeClose hpoint | refuseClose hpoint | write hpoint
  | writeErr hpoint => simp [AtSend, Copier.report, hpoint]

end Copier

/-! ### What a connection keeps -/

namespace Proxy

/-- The events that `run` has received. -/
def events (p : Proxy) : List KeyEvent := p.logged ++ p.handling.toList

/-- The invariant of a connection. What `run` has received are the frames of the client that were
written to Guacamole, up to one. -/
structure Inv (p : Proxy) : Prop where
  copier : ∀ d, (p.copier d).Inv
  sent : p.client.sent + p.backend.sent = p.errClient.length + p.main.taken
  room : p.errClient.length ≤ 1
  idle : p.hasLogger = none → p.client.forwarded = []
  events : p.events.map KeyEvent.rawFrame ++ p.client.waiting.map WsMessage.data =
    if p.hasLogger = some true then p.client.forwarded.map WsMessage.data else []

variable {l l' : KeyLog} {p q : Proxy}

theorem inv_start : start.Inv where
  copier d := by cases d <;> exact Copier.inv_start
  sent := rfl
  room := Nat.zero_le 1
  idle _ := rfl
  events := rfl

/-- The copier that is set. -/
@[simp] theorem copier_setCopier_self (p : Proxy) (d : Side) (c : Copier) :
    (p.setCopier d c).copier d = c := by cases d <;> rfl

/-- The other copier is not touched. -/
theorem copier_setCopier_of_ne (p : Proxy) {d d' : Side} (h : d' ≠ d) (c : Copier) :
    (p.setCopier d c).copier d' = p.copier d' := by
  cases d <;> cases d' <;> first | rfl | exact absurd rfl h

/-- What a step of a connection does. -/
inductive Step (l : KeyLog) (p : Proxy) : KeyLog → Proxy → Prop where
  | getLogger (ok : Bool) : p.hasLogger = none →
      Step l p l { p with hasLogger := some ok }
  | copy {d : Side} {hasLogger : Bool} {c : Copier} : p.hasLogger = some hasLogger →
      Copier.Step (acts hasLogger d) (p.copier d) c → Step l p l (p.setCopier d c)
  | report {d : Side} {err : String} {c : Copier} : p.errClient = [] →
      (p.copier d).report = some (err, c) →
      Step l p l { p.setCopier d c with errClient := [err] }
  | log {msg : WsMessage} (now : Time) : p.client.point = .acting msg → p.handling = none →
      Step l p l { p with
        client := { p.client with point := .reading }
        handling := some { timestamp := now, rawFrame := msg.data } }
  | run {event : KeyEvent} {l' : KeyLog} : p.handling = some event →
      newKeyLogger.logEvent l event = some l' →
      Step l p l' { p with handling := none, logged := p.logged ++ [event] }
  | select {err : String} {errs : List String} : p.main = .selecting →
      p.errClient = err :: errs → Step l p l { p with errClient := errs, main := .took }
  | close : p.main = .took → Step l p l { p with main := .returned }

/-- The steps of a connection are those of `Step`. -/
theorem step_cases {a : ProxyAction} (hs : p.step l a = some (l', q)) : Step l p l' q := by
  cases a with
  | getLogger ok =>
    obtain ⟨r, hr, heq⟩ := Option.map_eq_some_iff.mp hs
    cases heq
    rw [Proxy.getLogger] at hr
    -- Each action needs its goroutine at the right place, or there is no step.
    split at hr <;> cases hr
    exact .getLogger ok ‹_›
  | copy d a =>
    obtain ⟨r, hr, heq⟩ := Option.map_eq_some_iff.mp hs
    cases heq
    obtain ⟨hasLogger, hlogger, hr⟩ := Option.bind_eq_some_iff.mp hr
    obtain ⟨c, hc, rfl⟩ := Option.map_eq_some_iff.mp hr
    exact .copy hlogger (Copier.step_cases hc)
  | report d =>
    obtain ⟨r, hr, heq⟩ := Option.map_eq_some_iff.mp hs
    cases heq
    rw [Proxy.report] at hr
    split at hr
    · obtain ⟨⟨err, c⟩, hc, rfl⟩ := Option.map_eq_some_iff.mp hr
      exact .report ‹_› hc
    · cases hr
  | log now =>
    obtain ⟨r, hr, heq⟩ := Option.map_eq_some_iff.mp hs
    cases heq
    rw [Proxy.log] at hr
    split at hr <;> cases hr
    exact .log now ‹_› ‹_›
  | run =>
    simp only [Proxy.step] at hs
    split at hs
    · obtain ⟨l₁, hl₁, heq⟩ := Option.map_eq_some_iff.mp hs
      cases heq
      exact .run ‹_› hl₁
    · cases hs
  | select =>
    obtain ⟨r, hr, heq⟩ := Option.map_eq_some_iff.mp hs
    cases heq
    rw [Proxy.select] at hr
    split at hr <;> cases hr
    exact .select ‹_› ‹_›
  | close =>
    obtain ⟨r, hr, heq⟩ := Option.map_eq_some_iff.mp hs
    cases heq
    rw [Proxy.close] at hr
    split at hr <;> cases hr
    exact .close ‹_›

/-- A step of a copier keeps the invariant of the connection. -/
theorem Inv.copy (h : p.Inv) {d : Side} {hasLogger : Bool} {c : Copier}
    (hlogger : p.hasLogger = some hasLogger)
    (hs : Copier.Step (acts hasLogger d) (p.copier d) c) : (p.setCopier d c).Inv where
  copier d' := by
    by_cases hd : d' = d
    · subst hd
      rw [copier_setCopier_self]
      exact (h.copier d').step hs
    · rw [copier_setCopier_of_ne p hd]
      exact h.copier d'
  sent := by
    have hsent := h.sent
    have hsame := hs.sent
    cases d with
    | client =>
      show c.sent + p.backend.sent = p.errClient.length + p.main.taken
      rw [show c.sent = p.client.sent from hsame, hsent]
    | backend =>
      show p.client.sent + c.sent = p.errClient.length + p.main.taken
      rw [show c.sent = p.backend.sent from hsame, hsent]
  room := by cases d <;> exact h.room
  idle hnone := by
    have hnone : p.hasLogger = none := by cases d <;> exact hnone
    rw [hlogger] at hnone
    cases hnone
  events := by
    cases d with
    | backend => exact h.events
    | client =>
      obtain ⟨hwaiting, msgs, hforwarded, hwaiting'⟩ := hs.forwarded
      have hwait : p.client.waiting = [] := hwaiting
      have hfwd : c.forwarded = p.client.forwarded ++ msgs := hforwarded
      have hacts : c.waiting = if hasLogger then msgs else [] := hwaiting'
      have hevents := h.events
      rw [hwait, List.map_nil, List.append_nil, hlogger] at hevents
      show p.events.map KeyEvent.rawFrame ++ c.waiting.map WsMessage.data =
        if p.hasLogger = some true then c.forwarded.map WsMessage.data else []
      rw [hevents, hacts, hlogger]
      -- With a logger, what the copier writes is what waits for the action.
      cases hasLogger with
      | false => rfl
      | true => simp [hfwd]

/-- A copier sends its error. -/
theorem Inv.report (h : p.Inv) {d : Side} {err : String} {c : Copier}
    (hempty : p.errClient = []) (hs : (p.copier d).report = some (err, c)) :
    Inv { p.setCopier d c with errClient := [err] } := by
  obtain ⟨hinv, hsent⟩ := (h.copier d).report hs
  -- Only the way of the copier to its end changes, not what it has read or written.
  have hkeep : c.forwarded = (p.copier d).forwarded ∧ c.waiting = (p.copier d).waiting := by
    unfold Copier.report at hs
    split at hs
    · next hpoint =>
      cases hs
      simp [Copier.waiting, hpoint]
    · next hpoint =>
      cases hs
      simp [Copier.waiting, hpoint]
    · cases hs
  have htotal := h.sent
  rw [hempty, List.length_nil] at htotal
  cases d with
  | client =>
    refine ⟨fun d' => ?_, ?_, le_rfl, fun hnone => hkeep.1.trans (h.idle hnone), ?_⟩
    · cases d' with
      | client => exact hinv
      | backend => exact h.copier .backend
    -- One more error was sent, and it is the one in the channel.
    · show c.sent + p.backend.sent = 1 + p.main.taken
      have hone : c.sent = p.client.sent + 1 := hsent
      omega
    · show p.events.map KeyEvent.rawFrame ++ c.waiting.map WsMessage.data =
        if p.hasLogger = some true then c.forwarded.map WsMessage.data else []
      rw [hkeep.1, hkeep.2]
      exact h.events
  | backend =>
    refine ⟨fun d' => ?_, ?_, le_rfl, h.idle, h.events⟩
    · cases d' with
      | client => exact h.copier .client
      | backend => exact hinv
    · show p.client.sent + c.sent = 1 + p.main.taken
      have hone : c.sent = p.backend.sent + 1 := hsent
      omega

/-- `run` receives the frame that waits for the action. -/
theorem Inv.log (h : p.Inv) {msg : WsMessage} (now : Time)
    (hpoint : p.client.point = .acting msg) (hhandling : p.handling = none) :
    Inv { p with
      client := { p.client with point := .reading }
      handling := some { timestamp := now, rawFrame := msg.data } } where
  copier
    | .backend => h.copier .backend
    | .client => by
      have hc : p.client.Inv := h.copier .client
      have hplaced := hc.placed
      have howed := hc.owed
      simp only [Copier.Placed, Copier.owed, hpoint] at hplaced howed
      exact ⟨hplaced, hc.rests, howed⟩
  sent := h.sent
  room := h.room
  idle := h.idle
  events := by
    have hevents := h.events
    have hwaiting : p.client.waiting = [msg] := by rw [Copier.waiting, hpoint]
    rw [hwaiting, Proxy.events, hhandling] at hevents
    rw [← hevents]
    simp [Proxy.events, Copier.waiting]

/-- Each step of a connection keeps its invariant. -/
theorem Inv.step (h : p.Inv) (hs : Step l p l' q) : q.Inv := by
  cases hs with
  | getLogger ok hnone =>
    refine ⟨fun d => ?_, h.sent, h.room, (fun hsome => by cases hsome), ?_⟩
    · have hd := h.copier d
      cases d <;> exact hd
    · have hevents := h.events
      rw [hnone, if_neg (by simp)] at hevents
      show p.events.map KeyEvent.rawFrame ++ p.client.waiting.map WsMessage.data = _
      rw [hevents, h.idle hnone, List.map_nil, ite_self]
  | copy hlogger hc => exact h.copy hlogger hc
  | report hempty hc => exact h.report hempty hc
  | log now hpoint hhandling => exact h.log now hpoint hhandling
  | run hhandling _ =>
    refine ⟨fun d => ?_, h.sent, h.room, h.idle, ?_⟩
    · have hd := h.copier d
      cases d <;> exact hd
    -- The frame in hand is written, so that it moves from `handling` into the log.
    · have hevents := h.events
      rw [Proxy.events, hhandling] at hevents
      rw [← hevents]
      simp [Proxy.events]
  | @select err errs hmain herrs =>
    have hsent := h.sent
    have hroom := h.room
    rw [herrs, List.length_cons] at hsent hroom
    rw [hmain, ProxyMain.taken] at hsent
    -- `select` takes the error out of the channel, and no second one is left there.
    refine ⟨fun d => ?_, ?_, ?_, h.idle, h.events⟩
    · have hd := h.copier d
      cases d <;> exact hd
    · show p.client.sent + p.backend.sent = errs.length + 1
      omega
    · show errs.length ≤ 1
      omega
  | close hmain =>
    refine ⟨fun d => ?_, ?_, h.room, h.idle, h.events⟩
    · have hd := h.copier d
      cases d <;> exact hd
    · have hsent := h.sent
      rw [hmain] at hsent
      exact hsent

/-- Both errors that the channel can take have been sent: the handler has one, and the other one
fills the channel. -/
def Full (p : Proxy) : Prop := p.main ≠ .selecting ∧ p.errClient ≠ []

/-- Then a copier that waits at the channel waits on. -/
theorem Step.full (hs : Step l p l' q) {d : Side} (h : p.Full ∧ (p.copier d).AtSend) :
    q.Full ∧ (q.copier d).AtSend ∧ q.copier d = p.copier d := by
  obtain ⟨⟨hmain, hfull⟩, hsend⟩ := h
  cases hs with
  | getLogger _ _ => cases d <;> exact ⟨⟨hmain, hfull⟩, hsend, rfl⟩
  | @copy d' hasLogger c hlogger hc =>
    have hd : d ≠ d' := fun heq => hc.not_atSend (heq ▸ hsend)
    rw [copier_setCopier_of_ne p hd]
    cases d' <;> exact ⟨⟨hmain, hfull⟩, hsend, rfl⟩
  | report hempty _ => exact absurd hempty hfull
  | log _ hpoint _ =>
    cases d with
    | client =>
      have hsend : p.client.AtSend := hsend
      simp [Copier.AtSend, Copier.report, hpoint] at hsend
    | backend => exact ⟨⟨hmain, hfull⟩, hsend, rfl⟩
  | run _ _ => cases d <;> exact ⟨⟨hmain, hfull⟩, hsend, rfl⟩
  | select hselecting _ => exact absurd hselecting hmain
  | close _ => cases d <;> exact ⟨⟨by simp, hfull⟩, hsend, rfl⟩

/-- After a failed read the copiers do not both end: one of them must send two errors, and the other
one an error. -/
theorem Inv.not_ended (h : p.Inv) {d : Side} (hfailed : (p.copier d).failed = true) :
    ∃ d, (p.copier d).point ≠ .ended := by
  by_contra hall
  simp only [ne_eq, not_exists, not_not] at hall
  have howed : ∀ d, (p.copier d).failed.toNat + 1 ≤ (p.copier d).sent := fun d => by
    have hd := (h.copier d).owed
    rwa [Copier.owed, hall d] at hd
  have hclient : p.client.failed.toNat + 1 ≤ p.client.sent := howed .client
  have hbackend : p.backend.failed.toNat + 1 ≤ p.backend.sent := howed .backend
  have hsent := h.sent
  have hroom := h.room
  have htaken : p.main.taken ≤ 1 := by cases p.main <;> simp [ProxyMain.taken]
  cases d with
  | client =>
    have hone : p.client.failed.toNat = 1 := by
      rw [show p.client.failed = true from hfailed, Bool.toNat_true]
    omega
  | backend =>
    have hone : p.backend.failed.toNat = 1 := by
      rw [show p.backend.failed = true from hfailed, Bool.toNat_true]
    omega

/-- Only `run` writes to the log. It writes the entry of the event that it has received. -/
theorem Step.log_eq (hs : Step l p l' q) :
    (l' = l ∧ q.logged = p.logged) ∨
      ∃ event, newKeyLogger.logEvent l event = some l' ∧ q.logged = p.logged ++ [event] := by
  cases hs with
  | run _ hl => exact .inr ⟨_, hl, rfl⟩
  | @copy d => cases d <;> exact .inl ⟨rfl, rfl⟩
  | @report d => cases d <;> exact .inl ⟨rfl, rfl⟩
  | _ => exact .inl ⟨rfl, rfl⟩

/-- The log of a connection with a logger has every frame that reached Guacamole, up to the two that
are on their way: one before the action, and one in `run`. -/
def KeepsUp (p : Proxy) : Prop :=
  if p.hasLogger = some true then
    ∃ late, late.length ≤ 2 ∧
      p.client.forwarded.map WsMessage.data = p.logged.map KeyEvent.rawFrame ++ late
  else p.logged = []

/-- The invariant gives the property of the proxy. -/
theorem Inv.keepsUp (h : p.Inv) : p.KeepsUp := by
  have hevents := h.events
  rw [Proxy.events, List.map_append, List.append_assoc] at hevents
  have hhandling : p.handling.toList.length ≤ 1 := by cases p.handling <;> simp
  have hwaiting : p.client.waiting.length ≤ 1 := by
    rw [Copier.waiting]
    split <;> simp
  rw [KeepsUp]
  split
  · next hlogger =>
    rw [if_pos hlogger] at hevents
    refine ⟨_, ?_, hevents.symm⟩
    rw [List.length_append, List.length_map, List.length_map]
    omega
  · next hnone =>
    rw [if_neg hnone] at hevents
    have hnil := List.append_eq_nil_iff.mp hevents
    exact List.map_eq_nil_iff.mp hnil.1

end Proxy

/-! ### The log of the team -/

/-- An entry and a warning do not depend on what the log holds. -/
theorem logEvent_append (event : KeyEvent) : ∃ entries warnings, ∀ l,
    newKeyLogger.logEvent l event =
      some { entries := l.entries ++ entries, warnings := l.warnings ++ warnings } := by
  obtain ⟨kf, hkf⟩ := Option.isSome_iff_exists.mp
    (filter_isSome newKeyFrame [keyPressed] "3.key" event.rawFrame)
  obtain ⟨mf, hmf⟩ := Option.isSome_iff_exists.mp
    (filter_isSome newMouseFrame [mouseClicked] "5.mouse" event.rawFrame)
  have hkey : newKeyLogger.kff event.rawFrame = some kf := hkf
  have hclick : newKeyLogger.mff event.rawFrame = some mf := hmf
  have hmouse : ∃ entries warnings, ∀ l, newKeyLogger.logMouse l event =
      some { entries := l.entries ++ entries, warnings := l.warnings ++ warnings } := by
    simp only [KeyLogger.logMouse, hclick, Option.map_some]
    cases mf with
    | error err => exact ⟨[], ["Failed to filter raw message: " ++ err], fun l => by
        simp [KeyLog.warn]⟩
    | ok frame =>
      cases frame with
      | none => exact ⟨[], [], fun l => by simp⟩
      | some mf => exact ⟨[.mouse event.timestamp mf.x mf.y mf.button], [], fun l => by
          simp [KeyLog.log]⟩
  obtain ⟨entries, warnings, hmouse⟩ := hmouse
  simp only [KeyLogger.logEvent, hkey, Option.bind_some]
  cases kf with
  | error err =>
    refine ⟨entries, ("Failed to filter raw message: " ++ err) :: warnings, fun l => ?_⟩
    simp only [hmouse, KeyLog.warn, List.append_assoc, List.singleton_append]
  | ok frame =>
    cases frame with
    | none => exact ⟨entries, warnings, fun l => hmouse l⟩
    | some kf =>
      exact ⟨[.key event.timestamp kf.key kf.pressed], [], fun l => by simp [KeyLog.log]⟩

/-- The log of a connection, and the log that it would have alone. -/
def LogsAlone (p : Proxy) (part : List LogEntry) : Prop :=
  (newKeyLogger.run p.logged).map KeyLog.entries = some part

/-- The log of the team is a shuffle of the logs of its connections. -/
def LogsShuffled (s : Threads KeyLog Proxy) : Prop :=
  ∃ parts : Nat → List LogEntry, Shuffle s.shared.entries parts ∧
    ∀ i, LogsAlone (s.thread i) (parts i)

/-- One more event of a connection is one more piece of both logs. -/
theorem logsAlone_snoc {p q : Proxy} {part : List LogEntry} {event : KeyEvent} {l l' : KeyLog}
    (h : LogsAlone p part) (hlogged : q.logged = p.logged ++ [event])
    (hl : newKeyLogger.logEvent l event = some l') :
    ∃ entries, l'.entries = l.entries ++ entries ∧ LogsAlone q (part ++ entries) := by
  obtain ⟨entries, warnings, happend⟩ := logEvent_append event
  rw [happend l] at hl
  cases hl
  refine ⟨entries, rfl, ?_⟩
  obtain ⟨own, hown, hpart⟩ := Option.map_eq_some_iff.mp h
  subst hpart
  rw [KeyLogger.run] at hown
  rw [LogsAlone, KeyLogger.run, hlogged, List.foldlM_append, hown]
  show ((newKeyLogger.logEvent own event).bind some).map KeyLog.entries = _
  rw [happend own]
  rfl

section

variable {s t : Threads KeyLog Proxy}

/-- Every connection keeps its invariant, in every interleaving. -/
theorem inv_thread (h : proxies.threads.Reachable (fun _ _ => True) s) (i : Nat) :
    (s.thread i).Inv :=
  Program.thread_invariant Proxy.inv_start
    (fun _ _ _ _ _ hp hs => hp.step (Proxy.step_cases hs)) h i

/-- The log of the team is a shuffle of the logs of its connections, in every interleaving. -/
theorem logsShuffled (h : proxies.threads.Reachable (fun _ _ => True) s) : LogsShuffled s := by
  refine h.invariant LogsShuffled ?_ ?_
  · rintro s ⟨hshared, hthread⟩
    refine ⟨fun _ => [], ?_, fun i => ?_⟩
    · rw [hshared]
      exact .nil
    · rw [hthread]
      rfl
  · rintro s ⟨i, a⟩ t ⟨parts, hshuffle, halone⟩ - hstep
    obtain ⟨hself, hothers⟩ := Program.threads_step_self hstep
    rcases (Proxy.step_cases hself).log_eq with ⟨hl, hlogged⟩ | ⟨event, hl, hlogged⟩
    · refine ⟨parts, hl ▸ hshuffle, fun j => ?_⟩
      by_cases hj : j = i
      · subst hj
        rw [LogsAlone, hlogged]
        exact halone j
      · rw [hothers j hj]
        exact halone j
    · obtain ⟨entries, hentries, hown⟩ := logsAlone_snoc (halone i) hlogged hl
      refine ⟨Function.update parts i (parts i ++ entries), ?_, fun j => ?_⟩
      · rw [hentries]
        exact hshuffle.append i entries
      · by_cases hj : j = i
        · subst hj
          rw [Function.update_self]
          exact hown
        · rw [Function.update_of_ne hj, hothers j hj]
          exact halone j

/-! ### What arrives, and who ends -/

/-- In every interleaving of the connections of a team, each side of a connection gets what the
other side sent, in its order and without a gap. The log of the team has, for each connection with a
logger, the frames that reached Guacamole, and it is a shuffle of the logs of the connections. -/
theorem relays (h : proxies.threads.Reachable (fun _ _ => True) s) :
    (∀ i d, ((s.thread i).copier d).Relays) ∧ (∀ i, (s.thread i).KeepsUp) ∧ LogsShuffled s :=
  ⟨fun i d => ((inv_thread h i).copier d).relays_of_copier, fun i => (inv_thread h i).keepsUp,
    logsShuffled h⟩

/-- No connection has been made, and the log of the team is empty. -/
def noConnections : Threads KeyLog Proxy where
  shared := { entries := [], warnings := [] }
  thread := fun _ => .start

/-- The state without connections is the first one. -/
theorem noConnections_reachable :
    proxies.threads.Reachable (fun _ _ => True) noConnections := .init ⟨rfl, rfl⟩

/-- A connection with a logger, where the close message is refused and the rest of the failed read
reaches Guacamole, and a connection without a logger. -/
theorem relays_two : ∃ s, (proxies.threads.Reachable (fun _ _ => True) s ∧
    (s.thread 0).client.forwarded.length = 2 ∧ (s.thread 0).client.rests.length = 1) ∧
    (∀ i d, ((s.thread i).copier d).Relays) ∧ (∀ i, (s.thread i).KeepsUp) ∧
      LogsShuffled s := by
  let msg : WsMessage := { msgType := 1, data := ByteArray.empty }
  let actions : List (Nat × ProxyAction) :=
    [(0, .getLogger true), (1, .getLogger false), (0, .copy .client (.read msg)),
      (1, .copy .backend (.read msg)), (0, .copy .client .write), (0, .log .zero), (0, .run),
      (0, .copy .client (.readErr "a long text" msg)), (0, .copy .client .refuseClose),
      (0, .report .client), (0, .copy .client .write)]
  obtain ⟨s, hrun, hs⟩ : ∃ s, proxies.threads.run noConnections actions = some s ∧
      (s.thread 0).client.forwarded.length = 2 ∧ (s.thread 0).client.rests.length = 1 :=
    ⟨_, rfl, rfl, rfl⟩
  have hreach := noConnections_reachable.run Machine.allSteps_true hrun
  exact ⟨s, ⟨hreach, hs⟩, relays hreach⟩

/-- After a failed read of a side the two copiers of the connection never both end. When both errors
that the channel takes have been sent, a copier that waits at the channel stays there, whatever
happens. -/
theorem copiers_stuck (h : proxies.threads.Reachable (fun _ _ => True) s) (i : Nat) (d : Side) :
    (((s.thread i).copier d).failed = true → ∃ d, ((s.thread i).copier d).point ≠ .ended) ∧
      ((s.thread i).Full → ((s.thread i).copier d).AtSend → ∀ as t,
        proxies.threads.run s as = some t → (t.thread i).copier d = (s.thread i).copier d) := by
  refine ⟨fun hfailed => (inv_thread h i).not_ended hfailed, fun hfull hsend as t hrun => ?_⟩
  have hkeep : ((t.thread i).Full ∧ ((t.thread i).copier d).AtSend) ∧
      (t.thread i).copier d = (s.thread i).copier d := by
    refine Machine.run_invariant (A := fun _ => True)
      (I := fun u => ((u.thread i).Full ∧ ((u.thread i).copier d).AtSend) ∧
        (u.thread i).copier d = (s.thread i).copier d)
      ?_ ⟨⟨hfull, hsend⟩, rfl⟩ (fun _ _ => trivial) hrun
    rintro u ⟨j, a⟩ v ⟨hu, hsame⟩ - hstep
    obtain ⟨hself, hothers⟩ := Program.threads_step_self hstep
    by_cases hj : i = j
    · subst hj
      obtain ⟨hfull', hsend', hstays⟩ := (Proxy.step_cases hself).full hu
      exact ⟨⟨hfull', hsend'⟩, hstays.trans hsame⟩
    · rw [hothers i hj]
      exact ⟨hu, hsame⟩
  exact hkeep.2

/-- The client leaves. Its copier sends two errors and ends, and the copier of Guacamole's side
stays at its first send. -/
theorem copiers_stuck_backend : ∃ s, (proxies.threads.Reachable (fun _ _ => True) s ∧
    ((s.thread 0).copier .client).point = .ended) ∧
    ∀ as t, proxies.threads.run s as = some t →
      (t.thread 0).copier .backend = (s.thread 0).copier .backend := by
  let rest : WsMessage := { msgType := -1, data := ByteArray.empty }
  let actions : List (Nat × ProxyAction) :=
    [(0, .getLogger true), (0, .copy .client (.readErr "closed" rest)),
      (0, .copy .client .writeClose), (0, .report .client), (0, .select), (0, .close),
      (0, .copy .client (.writeErr "closed")), (0, .report .client),
      (0, .copy .backend (.readErr "closed" rest)), (0, .copy .backend .writeClose)]
  obtain ⟨s, hrun, hended, hmain, herrs, hsend⟩ : ∃ s,
      proxies.threads.run noConnections actions = some s ∧
        ((s.thread 0).copier .client).point = .ended ∧ (s.thread 0).main = .returned ∧
          (s.thread 0).errClient = ["closed"] ∧ ((s.thread 0).copier .backend).AtSend :=
    ⟨_, rfl, rfl, rfl, rfl, rfl⟩
  have hreach := noConnections_reachable.run Machine.allSteps_true hrun
  have hfull : (s.thread 0).Full := ⟨by simp [hmain], by simp [herrs]⟩
  exact ⟨s, ⟨hreach, hended⟩, (copiers_stuck hreach 0 .backend).2 hfull hsend⟩

end

end Haaukins.Guacamole
