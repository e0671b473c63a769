import Haaukins.Guacamole.Proto
import Haaukins.Lib.GoStrings
import Haaukins.Lib.GoTime

/-!
# `Haaukins.Guacamole.KeyLogger`: the log of keys and clicks (`svcs/guacamole/keylogger.go`)

`keyLogger.run` passes each frame to the filter for keys and then to the one for the mouse. A filter
looks at the first bytes, with the length of the opcode among them, before it reads the frame. An
error of a filter is only a warning.

* The result of a filter or of `run` is `none` where a slice is out of range. `run_isSome` says
  that this stops no loop, whatever the frames are.
* `run_entries` compares the entries of a run with `recorded`, what the log is for.
-/

set_option autoImplicit false

namespace Haaukins.Guacamole

/-- `KeyPressed`. -/
def keyPressed (kf : KeyFrame) : Bool := kf.pressed == "1"

/-- `MouseClicked`. -/
def mouseClicked (mf : MouseFrame) : Bool :=
  mf.button == "1" || mf.button == "4" || mf.button == "2"

/-- The first lines of both filters: the frame begins with the bytes of `opcode`. -/
def hasOpcode (opcode : String) (rawFrame : ByteArray) : Option Bool :=
  if rawFrame.size < opcode.toByteArray.size then some false
  else
    (GoBytes.slice rawFrame opcode.toByteArray.size).map fun h =>
      decide (h.data = opcode.toByteArray.data)

section
variable {γ : Type} (newKind : Frame → Except String γ) (conditions : List (γ → Bool))

/-- The last lines of both filters. -/
def filterFrame (f : Frame) : Except String (Option γ) :=
  match newKind f with
  | .error err => .error err
  | .ok kf => if conditions.all fun c => c kf then .ok (some kf) else .ok none

/-- `Filter` of both filters. -/
def filter (opcode : String) (rawFrame : ByteArray) : Option (Except String (Option γ)) :=
  (hasOpcode opcode rawFrame).map fun
    | false => .ok none
    | true =>
      match newFrame rawFrame with
      | .error err => .error err
      | .ok f => filterFrame newKind conditions f

end

/-- `keyFrameFilter.Filter`. -/
def keyFrameFilter (conditions : List (KeyFrame → Bool)) :
    ByteArray → Option (Except String (Option KeyFrame)) :=
  filter newKeyFrame conditions "3.key"

/-- `mouseFrameFilter.Filter`. -/
def mouseFrameFilter (conditions : List (MouseFrame → Bool)) :
    ByteArray → Option (Except String (Option MouseFrame)) :=
  filter newMouseFrame conditions "5.mouse"

/-- `keyEvent`. -/
structure KeyEvent where
  timestamp : Time
  rawFrame : ByteArray

/-- An entry of the log of a team. -/
inductive LogEntry where
  | key (t : Time) (k p : String)
  | mouse (t : Time) (x y b : String)
  deriving DecidableEq

/-- The log of the team, and the warnings in the log of the server. -/
structure KeyLog where
  entries : List LogEntry
  warnings : List String

/-- `keyLogger`, by its two filters. -/
structure KeyLogger where
  kff : ByteArray → Option (Except String (Option KeyFrame))
  mff : ByteArray → Option (Except String (Option MouseFrame))

/-- `NewKeyLogger`. -/
def newKeyLogger : KeyLogger where
  kff := keyFrameFilter [keyPressed]
  mff := mouseFrameFilter [mouseClicked]

/-- `log.Warn()` for the error of a filter. -/
def KeyLog.warn (l : KeyLog) (err : String) : KeyLog :=
  { l with warnings := l.warnings ++ ["Failed to filter raw message: " ++ err] }

/-- `k.logger.Log()`. -/
def KeyLog.log (l : KeyLog) (e : LogEntry) : KeyLog := { l with entries := l.entries ++ [e] }

namespace KeyLogger

variable (k : KeyLogger)

/-- The second half of the body of the loop. -/
def logMouse (l : KeyLog) (event : KeyEvent) : Option KeyLog :=
  (k.mff event.rawFrame).map fun
    | .error err => l.warn err
    | .ok (some mf) => l.log (.mouse event.timestamp mf.x mf.y mf.button)
    | .ok none => l

/-- The body of the loop of `run`. -/
def logEvent (l : KeyLog) (event : KeyEvent) : Option KeyLog :=
  (k.kff event.rawFrame).bind fun
    | .error err => k.logMouse (l.warn err) event
    | .ok (some kf) => some (l.log (.key event.timestamp kf.key kf.pressed))
    | .ok none => k.logMouse l event

/-- `run`, for the events that come through the channel. -/
def run (events : List KeyEvent) : Option KeyLog :=
  events.foldlM k.logEvent { entries := [], warnings := [] }

end KeyLogger

/-- The entry for an instruction at a time: a key that is pressed, or a button of the mouse. -/
def recorded (t : Time) (f : Frame) : Option LogEntry :=
  if f.opcode = "key" then
    match f.args with
    | [k, p] => if p = "1" then some (.key t k p) else none
    | _ => none
  else if f.opcode = "mouse" then
    match f.args with
    | [x, y, b] => if b = "1" ∨ b = "2" ∨ b = "4" then some (.mouse t x y b) else none
    | _ => none
  else none

/-! ### The loop goes on -/

/-- The first bytes are only taken from a frame that has them. -/
theorem hasOpcode_isSome (opcode : String) (raw : ByteArray) : (hasOpcode opcode raw).isSome := by
  rw [hasOpcode]
  split
  · rfl
  · next hle =>
    rw [GoBytes.slice, if_pos (Nat.le_of_not_lt hle)]
    rfl

/-- The filter always answers. -/
theorem filter_isSome {γ : Type} (newKind : Frame → Except String γ)
    (conditions : List (γ → Bool)) (opcode : String) (raw : ByteArray) :
    (filter newKind conditions opcode raw).isSome := by
  rw [filter, Option.isSome_map]
  exact hasOpcode_isSome opcode raw

/-- No frame stops the loop. -/
theorem logEvent_isSome (l : KeyLog) (event : KeyEvent) :
    (newKeyLogger.logEvent l event).isSome := by
  have hmouse (l : KeyLog) : (newKeyLogger.logMouse l event).isSome := by
    rw [KeyLogger.logMouse, Option.isSome_map]
    exact filter_isSome _ _ _ _
  obtain ⟨result, hresult⟩ := Option.isSome_iff_exists.mp
    (filter_isSome newKeyFrame [keyPressed] "3.key" event.rawFrame)
  have hkey : newKeyLogger.kff event.rawFrame = some result := hresult
  rw [KeyLogger.logEvent, hkey, Option.bind_some]
  split
  · exact hmouse _
  · rfl
  · exact hmouse _

/-! ### What is recorded -/

/-- The element and its length come first in an encoding if and only if it is the opcode. -/
theorem encElement_prefix_iff (o : String) (f : Frame) :
    (encElement o).toList <+: (enc f).toList ↔ f.opcode = o := by
  obtain ⟨rest, hrest⟩ : ∃ rest, (enc f).toList = (encElement f.opcode).toList ++ rest := by
    cases hargs : f.args with
    | nil => exact ⟨[';'], by simp [enc, hargs]⟩
    | cons e es =>
      refine ⟨',' :: ((",".intercalate ((e :: es).map encElement)).toList ++ [';']), ?_⟩
      simp [enc, hargs, String.intercalate_cons_cons]
  have hlist (e : String) (xs : List Char) :
      (encElement e).toList ++ xs = (Nat.repr e.length).toList ++ '.' :: (e.toList ++ xs) := by
    simp [encElement]
  have hdot (n : Nat) : '.' ∉ n.repr.toList := GoStrings.notMem_repr (by decide) n
  rw [hrest]
  constructor
  · rintro ⟨xs, hxs⟩
    rw [hlist, hlist] at hxs
    obtain ⟨hlen, helem⟩ := GoStrings.append_cons_inj (hdot _) (hdot _) hxs
    have hrepr : o.length.repr = f.opcode.length.repr := String.toList_inj.mp hlen
    have hlength : o.toList.length = f.opcode.toList.length := by
      rw [String.length_toList, String.length_toList]
      exact Nat.repr_injective hrepr
    exact (String.toList_inj.mp (List.append_inj helem hlength).1).symm
  · rintro rfl
    exact ⟨rest, rfl⟩

/-- The filter takes the instructions with its opcode. -/
theorem hasOpcode_raw (o : String) (f : Instruction) :
    hasOpcode (encElement o) f.raw = some (decide (f.opcode = o)) := by
  have hiff := (GoBytes.slice_toByteArray_iff (encElement o) (enc f.toFrame)).trans
    (encElement_prefix_iff o f.toFrame)
  rw [hasOpcode]
  split
  · next hlt =>
    have hne : ¬ f.opcode = o := by
      intro heq
      have hslice := hiff.mpr heq
      have hsize : ¬ (encElement o).toByteArray.size ≤ (enc f.toFrame).toByteArray.size :=
        Nat.not_le_of_lt hlt
      rw [GoBytes.slice, if_neg hsize] at hslice
      cases hslice
    simp [hne]
  · next hle =>
    have hslice : GoBytes.slice f.raw (encElement o).toByteArray.size =
        some (f.raw.extract 0 (encElement o).toByteArray.size) := if_pos (Nat.le_of_not_lt hle)
    rw [hslice, Option.map_some, Option.some.injEq, decide_eq_decide, ← ByteArray.ext_iff, ← hiff]
    show _ ↔ GoBytes.slice f.raw _ = _
    rw [hslice, Option.some.injEq]

/-- A filter on an instruction of plain elements. -/
theorem filter_raw {γ : Type} (newKind : Frame → Except String γ) (conditions : List (γ → Bool))
    (o : String) {f : Instruction} (hf : f.Plain) :
    filter newKind conditions (encElement o) f.raw =
      some (if f.opcode = o then filterFrame newKind conditions f.toFrame else .ok none) := by
  rw [filter, hasOpcode_raw, Option.map_some, newFrame_raw hf]
  by_cases ho : f.opcode = o
  · simp [ho]
  · simp [ho]

/-- The entry for what the filter for keys lets through. -/
theorem recorded_key {f : Frame} (h : f.opcode = "key") (t : Time) :
    recorded t f =
      match filterFrame newKeyFrame [keyPressed] f with
      | .ok (some kf) => some (.key t kf.key kf.pressed)
      | _ => none := by
  obtain ⟨opcode, args⟩ := f
  rw [recorded, if_pos h, filterFrame, newKeyFrame, if_neg (not_not.mpr h)]
  match args with
  | [] => rfl
  | [_] => rfl
  | [k, p] =>
    by_cases hp : p = "1"
    · simp [hp, keyPressed]
    · simp [hp, keyPressed]
  | _ :: _ :: _ :: _ => rfl

/-- The entry for what the filter for the mouse lets through. -/
theorem recorded_mouse {f : Frame} (h : f.opcode = "mouse") (t : Time) :
    recorded t f =
      match filterFrame newMouseFrame [mouseClicked] f with
      | .ok (some mf) => some (.mouse t mf.x mf.y mf.button)
      | _ => none := by
  obtain ⟨opcode, args⟩ := f
  have hkey : opcode ≠ "key" := by
    rw [show opcode = "mouse" from h]
    decide
  rw [recorded, if_neg hkey, if_pos h, filterFrame, newMouseFrame, if_neg (not_not.mpr h)]
  match args with
  | [] => rfl
  | [_] => rfl
  | [_, _] => rfl
  | [x, y, b] =>
    by_cases hb : b = "1" ∨ b = "2" ∨ b = "4"
    · have hclick : mouseClicked { x := x, y := y, button := b } = true := by
        rcases hb with rfl | rfl | rfl <;> rfl
      simp [hb, hclick]
    · have hclick : mouseClicked { x := x, y := y, button := b } = false := by
        simp only [not_or] at hb
        simp [mouseClicked, hb]
      simp [hb, hclick]
  | _ :: _ :: _ :: _ :: _ => rfl

/-- What the loop writes for one instruction. -/
theorem logEvent_entries {f : Instruction} (hf : f.Plain) (t : Time) (l : KeyLog) :
    ∃ l', newKeyLogger.logEvent l { timestamp := t, rawFrame := f.raw } = some l' ∧
      l'.entries = l.entries ++ (recorded t f.toFrame).toList := by
  have hkey : newKeyLogger.kff f.raw = some (if f.opcode = "key" then
      filterFrame newKeyFrame [keyPressed] f.toFrame else .ok none) :=
    filter_raw newKeyFrame [keyPressed] "key" hf
  have hmouse : newKeyLogger.mff f.raw = some (if f.opcode = "mouse" then
      filterFrame newMouseFrame [mouseClicked] f.toFrame else .ok none) :=
    filter_raw newMouseFrame [mouseClicked] "mouse" hf
  -- The filter for keys is asked first, and the one for the mouse only when it has nothing.
  rw [KeyLogger.logEvent, hkey, Option.bind_some]
  by_cases hk : f.opcode = "key"
  · -- The filter for the mouse looks at the opcode and does nothing.
    have hm : ¬ f.opcode = "mouse" := by
      rw [hk]
      decide
    rw [if_neg hm] at hmouse
    rw [if_pos hk, recorded_key hk]
    cases filterFrame newKeyFrame [keyPressed] f.toFrame with
    | error err => exact ⟨l.warn err, by simp [KeyLogger.logMouse, hmouse], by simp [KeyLog.warn]⟩
    | ok kf =>
      cases kf with
      | none => exact ⟨l, by simp [KeyLogger.logMouse, hmouse], by simp⟩
      | some kf => exact ⟨_, rfl, rfl⟩
  · rw [if_neg hk, KeyLogger.logMouse, hmouse]
    by_cases hm : f.opcode = "mouse"
    · rw [if_pos hm, recorded_mouse hm]
      cases filterFrame newMouseFrame [mouseClicked] f.toFrame with
      | error err => exact ⟨l.warn err, rfl, by simp [KeyLog.warn]⟩
      | ok mf =>
        cases mf with
        | none => exact ⟨l, rfl, by simp⟩
        | some mf => exact ⟨_, rfl, rfl⟩
    -- Any other instruction is not recorded.
    · have hnone : recorded t f.toFrame = none := by rw [recorded, if_neg hk, if_neg hm]
      rw [if_neg hm, hnone]
      exact ⟨l, rfl, by simp⟩

/-- The entries of a run are those of its instructions, in their order. -/
theorem run_entries (events : List (Time × Instruction)) (hplain : ∀ e ∈ events, e.2.Plain) :
    (newKeyLogger.run (events.map fun e => { timestamp := e.1, rawFrame := e.2.raw })).map
      KeyLog.entries = some (events.filterMap fun e => recorded e.1 e.2.toFrame) := by
  have hrun : ∀ l : KeyLog, ∃ l', (events.map fun e =>
        ({ timestamp := e.1, rawFrame := e.2.raw } : KeyEvent)).foldlM newKeyLogger.logEvent l =
          some l' ∧
        l'.entries = l.entries ++ events.filterMap fun e => recorded e.1 e.2.toFrame := by
    induction events with
    | nil => exact fun l => ⟨l, rfl, by simp⟩
    | cons e events ih =>
      intro l
      obtain ⟨l₁, hstep, hentries⟩ := logEvent_entries (hplain e List.mem_cons_self) e.1 l
      obtain ⟨l₂, hrest, hentries'⟩ := ih (fun d hd => hplain d (List.mem_cons_of_mem e hd)) l₁
      refine ⟨l₂, ?_, ?_⟩
      · rw [List.map_cons, List.foldlM_cons, hstep]
        exact hrest
      · rw [hentries', hentries, List.append_assoc]
        cases hrecorded : recorded e.1 e.2.toFrame with
        | none => simp [hrecorded]
        | some entry => simp [hrecorded]
  obtain ⟨l, hl, hentries⟩ := hrun { entries := [], warnings := [] }
  rw [KeyLogger.run, hl, Option.map_some, hentries, List.nil_append]

/-- A key that is pressed and released, a click, and an instruction that is not logged. -/
def session : List (Time × Instruction) :=
  [(.zero, { opcode := "key", args := ["10000", "1"], opcode_ne := by decide }),
    (.zero, { opcode := "key", args := ["10000", "0"], opcode_ne := by decide }),
    (.zero, { opcode := "mouse", args := ["100", "1000", "2"], opcode_ne := by decide }),
    (.zero, { opcode := "sync", args := ["8311"], opcode_ne := by decide })]

/-- The instructions of the example have no delimiters inside. -/
theorem plain_session : ∀ e ∈ session, e.2.Plain := by
  intro e he
  simp only [session, List.mem_cons, List.not_mem_nil, or_false] at he
  rcases he with rfl | rfl | rfl | rfl
  · exact ⟨by decide, by decide⟩
  · exact ⟨by decide, by decide⟩
  · exact ⟨by decide, by decide⟩
  · exact ⟨by decide, by decide⟩

/-- The entries of the session. -/
theorem run_entries_session :
    (newKeyLogger.run (session.map fun e => { timestamp := e.1, rawFrame := e.2.raw })).map
      KeyLog.entries = some [.key .zero "10000" "1", .mouse .zero "100" "1000" "2"] :=
  (run_entries session plain_session).trans (by decide)

/-- No run stops, whatever the frames are. -/
theorem run_isSome (events : List KeyEvent) : (newKeyLogger.run events).isSome := by
  have hrun : ∀ l : KeyLog, (events.foldlM newKeyLogger.logEvent l).isSome := by
    induction events with
    | nil => exact fun _ => rfl
    | cons e events ih =>
      intro l
      obtain ⟨l', hl'⟩ := Option.isSome_iff_exists.mp (logEvent_isSome l e)
      rw [List.foldlM_cons, hl']
      exact ih l'
  exact hrun _

end Haaukins.Guacamole
