import Haaukins.Lib.GoStrings
import Haaukins.Lib.Machine

/-!
# `Haaukins.Amigo.WritePump`: messages on their way to a page (`writePump` in `svcs/amigo/util.go`)

The hub puts messages for a client into a channel with room for 256, and drops those that do not
fit. `writePump` takes a message, and writes all messages that it then finds in the channel into the
same frame, with a newline between two of them. The pages split each frame at its newlines again.

A message is the text that `json.Marshal` returns, which has no newline (`Plain`).

* `Inv` follows a message from the channel to the frame. The pump takes no more messages than it has
  counted, so it never waits inside a frame.
* `delivers` says that the lines of the frames are the accepted messages, in their order. Only what
  is still in the channel, and the frame at which the connection failed, can be missing.
-/

set_option autoImplicit false

namespace Haaukins.Amigo

/-- The room of the channel `send`. -/
def sendRoom : Nat := 256

/-- Where `writePump` is. -/
inductive PumpPoint where
  /-- At the `select`. -/
  | selecting
  /-- It has received a message, and asks for a writer. -/
  | received (message : String)
  /-- The message is written, and `len(c.send)` comes next. -/
  | started (frame : String)
  /-- In the loop, with `left` rounds to go. -/
  | composing (frame : String) (left : Nat)
  /-- It has found the channel closed and empty. -/
  | returned
  /-- It has returned at an error of the connection. -/
  | failed
  deriving DecidableEq

/-- The pump of a client, with the channel that the hub writes to. -/
structure WritePump where
  send : List String
  closed : Bool
  point : PumpPoint
  /-- The frames that were written without an error. -/
  frames : List String
  /-- All messages that the hub has put into the channel. No step reads it. -/
  accepted : List String
  deriving DecidableEq

/-- What can happen to the pump of a client. -/
inductive PumpAction where
  /-- The hub sends a message, or drops it when the channel is full. -/
  | offer (message : String)
  /-- The hub closes the channel. -/
  | closeSend
  | take
  /-- `c.send` is closed and empty. -/
  | takeClosed
  | nextWriter
  | nextWriterErr
  | count
  /-- A round of the loop. -/
  | append
  | flush
  | flushErr
  | ping
  | pingErr
  deriving DecidableEq

namespace WritePump

/-- The pump of a new client. -/
def start : WritePump :=
  { send := [], closed := false, point := .selecting, frames := [], accepted := [] }

/-- A step of the hub or of the pump. -/
def step (s : WritePump) : PumpAction → Option WritePump
  | .offer message =>
    if s.closed then none
    else if s.send.length < sendRoom then
      some { s with send := s.send ++ [message], accepted := s.accepted ++ [message] }
    else some s
  | .closeSend => if s.closed then none else some { s with closed := true }
  | .take =>
    match s.point, s.send with
    | .selecting, message :: rest => some { s with point := .received message, send := rest }
    | _, _ => none
  | .takeClosed =>
    match s.point, s.send with
    | .selecting, [] => if s.closed then some { s with point := .returned } else none
    | _, _ => none
  | .nextWriter =>
    match s.point with
    | .received message => some { s with point := .started message }
    | _ => none
  | .nextWriterErr =>
    match s.point with
    | .received _ => some { s with point := .failed }
    | _ => none
  | .count =>
    match s.point with
    | .started frame => some { s with point := .composing frame s.send.length }
    | _ => none
  | .append =>
    match s.point, s.send with
    | .composing frame (left + 1), message :: rest =>
      some { s with point := .composing (frame ++ ("\n" ++ message)) left, send := rest }
    | _, _ => none
  | .flush =>
    match s.point with
    | .composing frame 0 => some { s with point := .selecting, frames := s.frames ++ [frame] }
    | _ => none
  | .flushErr =>
    match s.point with
    | .composing _ 0 => some { s with point := .failed }
    | _ => none
  | .ping =>
    match s.point with
    | .selecting => some s
    | _ => none
  | .pingErr =>
    match s.point with
    | .selecting => some { s with point := .failed }
    | _ => none

end WritePump

/-- The pump and the hub, in any order of their steps. -/
def writePump : Machine WritePump PumpAction where
  init s := s = .start
  step := WritePump.step

/-- `evt.data.split('\n')` of the pages. -/
def linesOf (frames : List String) : List String :=
  frames.flatMap fun frame => GoStrings.split frame '\n'

/-- What `json.Marshal` returns has no newline. -/
def Plain (message : String) : Prop := '\n' ∉ message.toList

/-- The messages that the hub sends are plain. -/
def PumpAction.Plain : PumpAction → Prop
  | .offer message => Amigo.Plain message
  | _ => True

namespace WritePump

/-- The part of the messages that the pump holds. -/
def held (s : WritePump) : List String :=
  match s.point with
  | .selecting | .returned | .failed => []
  | .received message => [message]
  | .started frame | .composing frame _ => GoStrings.split frame '\n'

/-- Each accepted message is in a frame, with the pump, or in the channel. A pump whose connection
has failed may have lost the messages of one frame. -/
structure Inv (s : WritePump) : Prop where
  plain : ∀ message ∈ s.accepted, Plain message
  order : ∃ lost, s.accepted = linesOf s.frames ++ (s.held ++ (lost ++ s.send)) ∧
    (s.point ≠ .failed → lost = [])
  returned : s.point = .returned → s.closed = true ∧ s.send = []
  rounds : ∀ frame left, s.point = .composing frame left → left ≤ s.send.length

/-- At first nothing is written. -/
theorem inv_start : start.Inv where
  plain := nofun
  order := ⟨[], rfl, fun _ => rfl⟩
  returned := nofun
  rounds := nofun

variable {s t : WritePump}

/-- A step in which messages move from the channel to the pump and from the pump to a frame. -/
theorem Inv.move (h : s.Inv) (hpoint : s.point ≠ .failed) (haccepted : t.accepted = s.accepted)
    (hreturned : t.point = .returned → t.closed = true ∧ t.send = [])
    (hmove : linesOf t.frames ++ (t.held ++ t.send) = linesOf s.frames ++ (s.held ++ s.send))
    (hrounds : ∀ frame left, t.point = .composing frame left → left ≤ t.send.length) :
    t.Inv where
  plain := haccepted ▸ h.plain
  order := by
    obtain ⟨lost, horder, hlost⟩ := h.order
    rw [hlost hpoint, List.nil_append] at horder
    refine ⟨[], ?_, fun _ => rfl⟩
    rw [haccepted, horder, List.nil_append, hmove]
  returned := hreturned
  rounds := hrounds

/-- The connection fails, and the pump loses what it holds. -/
theorem Inv.fail (h : s.Inv) (hpoint : s.point ≠ .failed) :
    Inv { s with point := .failed } where
  plain := h.plain
  order := by
    obtain ⟨lost, horder, hlost⟩ := h.order
    rw [hlost hpoint, List.nil_append] at horder
    exact ⟨s.held, horder, fun hne => absurd rfl hne⟩
  returned := nofun
  rounds := nofun

/-- A step without a failing write keeps the invariant. -/
theorem Inv.step (h : s.Inv) {a : PumpAction} (ha : a.Plain) (hs : s.step a = some t) : t.Inv := by
  obtain ⟨lost, horder, hlost⟩ := h.order
  cases a with
  | offer message =>
    simp only [WritePump.step] at hs
    split at hs
    · cases hs
    · next hopen =>
      split at hs
      · cases hs
        constructor
        · intro m hm
          rcases List.mem_append.mp hm with hm | hm
          · exact h.plain m hm
          · rw [List.mem_singleton.mp hm]
            exact ha
        · refine ⟨lost, ?_, hlost⟩
          show s.accepted ++ [message] = linesOf s.frames ++ (s.held ++ (lost ++ (s.send ++ _)))
          rw [horder]
          simp only [List.append_assoc]
        · exact fun hpoint => absurd (h.returned hpoint).1 hopen
        · intro frame left hpoint
          have hleft := h.rounds frame left hpoint
          show left ≤ (s.send ++ [message]).length
          rw [List.length_append]
          omega
      · cases hs
        exact h
  | closeSend =>
    simp only [WritePump.step] at hs
    split at hs <;> cases hs
    exact ⟨h.plain, h.order, fun hpoint => ⟨rfl, (h.returned hpoint).2⟩, h.rounds⟩
  | take =>
    simp only [WritePump.step] at hs
    split at hs <;> cases hs
    next message rest hpoint hsend =>
    refine h.move (by rw [hpoint]; nofun) rfl nofun ?_ nofun
    show linesOf s.frames ++ ([message] ++ rest) = _
    rw [held, hpoint, hsend]
    rfl
  | takeClosed =>
    simp only [WritePump.step] at hs
    split at hs
    · next hpoint hsend =>
      split at hs <;> cases hs
      next hclosed =>
      -- The channel is empty and the pump holds nothing, so nothing is lost.
      refine h.move (by rw [hpoint]; nofun) rfl (fun _ => ⟨hclosed, hsend⟩) ?_ nofun
      show linesOf s.frames ++ ([] ++ s.send) = _
      rw [held, hpoint]
    · cases hs
  | nextWriter =>
    simp only [WritePump.step] at hs
    split at hs <;> cases hs
    next message hpoint =>
    refine h.move (by rw [hpoint]; nofun) rfl nofun ?_ nofun
    -- The message is one of the accepted ones, so the frame with it alone has one line.
    have hmem : message ∈ s.accepted := by
      rw [horder, held, hpoint]
      simp
    have hsplit : GoStrings.split message '\n' = [message] :=
      GoStrings.split_of_notMem (h.plain message hmem)
    show linesOf s.frames ++ (GoStrings.split message '\n' ++ s.send) = _
    rw [held, hpoint, hsplit]
  | nextWriterErr =>
    simp only [WritePump.step] at hs
    split at hs <;> cases hs
    next hpoint => exact h.fail (by rw [hpoint]; nofun)
  | count =>
    simp only [WritePump.step] at hs
    split at hs <;> cases hs
    next frame hpoint =>
    refine h.move (by rw [hpoint]; nofun) rfl nofun ?_ ?_
    · show linesOf s.frames ++ (GoStrings.split frame '\n' ++ s.send) = _
      rw [held, hpoint]
    · intro frame' left hpoint'
      cases hpoint'
      exact Nat.le_refl _
  | append =>
    simp only [WritePump.step] at hs
    split at hs <;> cases hs
    next frame left message rest hpoint hsend =>
    have hmem : message ∈ s.accepted := by
      rw [horder, hsend]
      simp
    have hsplit : GoStrings.split (frame ++ ("\n" ++ message)) '\n' =
        GoStrings.split frame '\n' ++ [message] := by
      have happend := GoStrings.split_append frame message '\n'
      rwa [GoStrings.split_of_notMem (h.plain message hmem)] at happend
    refine h.move (by rw [hpoint]; nofun) rfl nofun ?_ ?_
    · show linesOf s.frames ++ (GoStrings.split (frame ++ ("\n" ++ message)) '\n' ++ rest) = _
      rw [held, hpoint, hsend, hsplit, List.append_assoc]
      rfl
    · intro frame' left' hpoint'
      cases hpoint'
      have hleft := h.rounds frame (left + 1) hpoint
      rw [hsend, List.length_cons] at hleft
      exact Nat.le_of_succ_le_succ hleft
  | flush =>
    simp only [WritePump.step] at hs
    split at hs <;> cases hs
    next frame hpoint =>
    refine h.move (by rw [hpoint]; nofun) rfl nofun ?_ nofun
    show linesOf (s.frames ++ [frame]) ++ s.send = _
    rw [held, hpoint, linesOf, List.flatMap_append, List.append_assoc]
    simp [linesOf]
  | flushErr =>
    simp only [WritePump.step] at hs
    split at hs <;> cases hs
    next hpoint => exact h.fail (by rw [hpoint]; nofun)
  | ping =>
    simp only [WritePump.step] at hs
    split at hs <;> cases hs
    exact h
  | pingErr =>
    simp only [WritePump.step] at hs
    split at hs <;> cases hs
    next hpoint => exact h.fail (by rw [hpoint]; nofun)

/-- A step of the pump that a working connection lets it take. -/
def Own : PumpAction → Prop
  | .take | .nextWriter | .count | .append | .flush => True
  | _ => False

/-- A pump that has nothing to do has written all messages, unless its connection has failed. It
does not wait inside a frame for a message that does not come. -/
theorem Inv.quiescent (h : s.Inv) (hquiet : writePump.Quiescent Own s) :
    s.point = .failed ∨ s.accepted = linesOf s.frames := by
  -- A pump that is at work has a next step of its own, so that it waits in its `select`.
  obtain ⟨lost, horder, hlost⟩ := h.order
  cases hpoint : s.point with
  | failed => exact .inl rfl
  | returned =>
    right
    rw [horder, held, hpoint, (h.returned hpoint).2, hlost (by rw [hpoint]; nofun)]
    simp
  | received message =>
    have hnext : s.step .nextWriter = none := hquiet .nextWriter trivial
    simp only [WritePump.step, hpoint, reduceCtorEq] at hnext
  | started frame =>
    have hcount : s.step .count = none := hquiet .count trivial
    simp only [WritePump.step, hpoint, reduceCtorEq] at hcount
  | selecting =>
    right
    have htake : s.step .take = none := hquiet .take trivial
    cases hsend : s.send with
    | nil =>
      rw [horder, held, hpoint, hsend, hlost (by rw [hpoint]; nofun)]
      simp
    | cons message rest => simp only [WritePump.step, hpoint, hsend, reduceCtorEq] at htake
  | composing frame left =>
    cases left with
    | zero =>
      have hflush : s.step .flush = none := hquiet .flush trivial
      simp only [WritePump.step, hpoint, reduceCtorEq] at hflush
    | succ left =>
      have happend : s.step .append = none := hquiet .append trivial
      have hrounds := h.rounds frame (left + 1) hpoint
      cases hsend : s.send with
      | nil =>
        -- The rounds that are left have their messages in the channel.
        rw [hsend, List.length_nil] at hrounds
        omega
      | cons message rest => simp only [WritePump.step, hpoint, hsend, reduceCtorEq] at happend

/-- The invariant in every state of such a run. -/
theorem inv_reachable (h : writePump.Reachable (fun _ a => a.Plain) s) : s.Inv := by
  refine h.invariant Inv (fun s hs => ?_) fun _ _ _ hs ha hstep => hs.step ha hstep
  rw [show s = .start from hs]
  exact inv_start

/-- In every order of the steps, the lines of the frames are the first of the accepted messages, in
their order and once each. A pump whose connection does not fail goes on until they are all, also
when the hub has closed the channel. -/
theorem delivers (h : writePump.Reachable (fun _ a => a.Plain) s) :
    linesOf s.frames <+: s.accepted ∧
      (writePump.Quiescent Own s → s.point = .failed ∨ s.accepted = linesOf s.frames) := by
  have hinv := inv_reachable h
  obtain ⟨lost, horder, -⟩ := hinv.order
  exact ⟨⟨_, horder.symm⟩, hinv.quiescent⟩

/-- Two messages in one frame, and a third one on its way. -/
theorem delivers_two : ∃ s, (writePump.Reachable (fun _ a => a.Plain) s ∧
    s.frames = ["a\nb"] ∧ s.send = ["c"]) ∧
    (linesOf s.frames <+: s.accepted ∧
      (writePump.Quiescent Own s → s.point = .failed ∨ s.accepted = linesOf s.frames)) := by
  have hplain : ∀ a ∈ [PumpAction.offer "a", .offer "b", .take, .nextWriter, .count, .offer "c",
      .append, .flush], a.Plain := by
    intro a ha
    simp only [List.mem_cons, List.not_mem_nil, or_false] at ha
    rcases ha with rfl | rfl | rfl | rfl | rfl | rfl | rfl | rfl <;>
      first | trivial | (show '\n' ∉ _; decide)
  obtain ⟨s, hrun, hs⟩ : ∃ s, writePump.run .start [.offer "a", .offer "b", .take, .nextWriter,
      .count, .offer "c", .append, .flush] = some s ∧ s.frames = ["a\nb"] ∧ s.send = ["c"] :=
    ⟨_, rfl, rfl, rfl⟩
  have hinit : writePump.Reachable (fun _ a => a.Plain) .start := .init rfl
  have hreach := hinit.run (Machine.allSteps_of_forall hplain) hrun
  exact ⟨s, ⟨hreach, hs⟩, delivers hreach⟩

end WritePump

end Haaukins.Amigo
