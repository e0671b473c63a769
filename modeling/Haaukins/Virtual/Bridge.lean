import Haaukins.Lib.GoMap
import Haaukins.Lib.Threads

/-!
# `Haaukins.Virtual.Bridge`: the bridge that all events share (`virtual/docker/docker.go`)

The containers of Guacamole reach each other over one bridge. `defaultBridge` keeps the alias of
each container that it has connected, in a map behind a mutex. `connect` asks Docker while it has
the mutex. `disconnect` gives the mutex back before it asks Docker. `Close` of a container
disconnects it, and then removes it.

The steps of the goroutines that use the bridge may interleave in any way, and Docker may refuse
each call. Its answer is part of the step. `Answers` says what is assumed of it: a call with an
error has done nothing, and Docker has no success where it has nothing to do. It does not connect a
container twice, does not disconnect one that is not connected, and does nothing with one that is
gone.

* `Inv` relates the map and Docker while goroutines are at work.
* `bridge_agrees` is about a moment at which no goroutine is at work.
* `bridge_progress` says that the goroutines do not wait for each other for ever.
-/

set_option autoImplicit false

namespace Haaukins.Virtual

/-- The bridge, as the map has it and as Docker has it. -/
structure Bridge where
  /-- The mutex. -/
  locked : Bool
  /-- The aliases by the ids of the containers. -/
  containers : GoMap String String
  /-- The aliases of the containers that Docker has connected. -/
  members : GoMap String String
  /-- The containers that Docker has removed. -/
  removed : List String
  /-- The containers that Docker refused to disconnect. -/
  refused : List String

/-- Where a goroutine is. -/
inductive BridgeUser where
  /-- It is not at work on the bridge. The last call has answered this. -/
  | idle (answer : Except String String)
  | connect (cid name : String)
  /-- It has the mutex. -/
  | lookup (cid name : String)
  /-- It asks Docker to connect the container, and has the mutex. -/
  | dial (cid name : String)
  /-- Docker has connected the container. -/
  | enter (cid name : String)
  | close (cid : String)
  /-- It has the mutex. -/
  | forget (cid : String)
  /-- It asks Docker to disconnect the container. -/
  | disconnect (cid : String)
  | remove (cid : String)
  deriving DecidableEq

/-- A goroutine begins a call, or goes on with it. Docker answers an error or none. -/
inductive BridgeAction where
  | connect (cid name uuid : String)
  | close (cid : String)
  | step (err : Option String)

namespace Bridge

variable (b : Bridge) (cid name : String) (err : Option String)

/-- `ConnectNetwork`. -/
def connectNetwork : Bridge × Option String :=
  match err with
  | some err => (b, some err)
  | none => ({ b with members := b.members.set cid name }, none)

/-- `DisconnectNetwork`. A refusal is recorded for a container that Docker has connected. -/
def disconnectNetwork : Bridge × Option String :=
  match err with
  | some err => ({ b with refused := if cid ∈ b.members then cid :: b.refused else b.refused },
      some err)
  | none => ({ b with members := b.members.delete cid }, none)

/-- `RemoveContainer`, by force. -/
def removeContainer : Bridge × Option String :=
  match err with
  | some err => (b, some err)
  | none => ({ b with members := b.members.delete cid, removed := cid :: b.removed }, none)

end Bridge

/-- The alias that `connect` uses. -/
def aliasOf (name uuid : String) : String :=
  if name = "" then uuid.replace "-" "" else name

/-- `defaultBridge.connect`, and `container.Close` with `defaultBridge.disconnect`. -/
def bridgeStep (b : Bridge) : BridgeUser → BridgeAction → Option (Bridge × BridgeUser)
  | .idle _, .connect cid name uuid => some (b, .connect cid (aliasOf name uuid))
  | .idle _, .close cid => some (b, .close cid)
  | .connect cid name, .step _ =>
    if b.locked then none else some ({ b with locked := true }, .lookup cid name)
  | .lookup cid name, .step _ =>
    match b.containers.get? cid with
    | some knownAlias => some ({ b with locked := false }, .idle (.ok knownAlias))
    | none => some (b, .dial cid name)
  | .dial cid name, .step err =>
    match b.connectNetwork cid name err with
    | (b, some err) => some ({ b with locked := false }, .idle (.error err))
    | (b, none) => some (b, .enter cid name)
  | .enter cid name, .step _ =>
    some ({ b with containers := b.containers.set cid name, locked := false }, .idle (.ok name))
  | .close cid, .step _ =>
    if b.locked then none else some ({ b with locked := true }, .forget cid)
  | .forget cid, .step _ =>
    let freed := { b with containers := b.containers.delete cid, locked := false }
    some (freed, if cid ∈ b.containers then .disconnect cid else .remove cid)
  | .disconnect cid, .step err =>
    match b.disconnectNetwork cid err with
    -- The container is not removed then.
    | (b, some err) => some (b, .idle (.error err))
    | (b, none) => some (b, .remove cid)
  | .remove cid, .step err =>
    match b.removeContainer cid err with
    | (b, some err) => some (b, .idle (.error err))
    | (b, none) => some (b, .idle (.ok ""))
  | _, _ => none

/-- The goroutines that use the bridge. It has no container at first. -/
def bridgeUsers : Program Bridge BridgeUser BridgeAction where
  init b := b.locked = false ∧ b.containers = ∅ ∧ b.members = ∅ ∧ b.removed = [] ∧ b.refused = []
  start := .idle (.ok "")
  step := bridgeStep

/-- What Docker can answer to the call that a goroutine makes next. A success means that the
container exists, and that there was something to do. -/
def Bridge.Answers (b : Bridge) : BridgeUser → Option String → Prop
  | .dial cid _, none => cid ∉ b.removed ∧ cid ∉ b.members
  | .disconnect cid, none => cid ∉ b.removed ∧ cid ∈ b.members
  | .remove cid, none => cid ∉ b.removed
  | _, _ => True

/-- A step with an answer that Docker can give. -/
def DockerAnswers (s : Threads Bridge BridgeUser) (a : Nat × BridgeAction) : Prop :=
  match a.2 with
  | .connect _ _ _ | .close _ => True
  | .step err => s.shared.Answers (s.thread a.1) err

instance (b : Bridge) : (u : BridgeUser) → (err : Option String) → Decidable (b.Answers u err)
  | .dial cid _, none => inferInstanceAs (Decidable (cid ∉ b.removed ∧ cid ∉ b.members))
  | .disconnect cid, none => inferInstanceAs (Decidable (cid ∉ b.removed ∧ cid ∈ b.members))
  | .remove cid, none => inferInstanceAs (Decidable (cid ∉ b.removed))
  | .idle _, _ | .connect _ _, _ | .lookup _ _, _ | .enter _ _, _ | .close _, _ | .forget _, _
  | .dial _ _, some _ | .disconnect _, some _ | .remove _, some _ => .isTrue trivial

instance (s : Threads Bridge BridgeUser) : (a : Nat × BridgeAction) → Decidable (DockerAnswers s a)
  | (_, .connect _ _ _) | (_, .close _) => .isTrue trivial
  | (i, .step err) => inferInstanceAs (Decidable (s.shared.Answers (s.thread i) err))

/-! ### The mutex -/

/-- The positions at which a goroutine has the mutex. -/
def BridgeUser.holds : BridgeUser → Bool
  | .lookup _ _ | .dial _ _ | .enter _ _ | .forget _ => true
  | .idle _ | .connect _ _ | .close _ | .disconnect _ | .remove _ => false

/-- What a step does, for each place from which it can be taken. -/
inductive BridgeStep (b : Bridge) : BridgeUser → BridgeAction → Bridge → BridgeUser → Prop where
  | begin {a : BridgeAction} {answer : Except String String} {u : BridgeUser}
      (h : (∃ cid name, u = .connect cid name) ∨ ∃ cid, u = .close cid) :
      BridgeStep b (.idle answer) a b u
  | lockConnect {a : BridgeAction} {cid name : String} (h : b.locked = false) :
      BridgeStep b (.connect cid name) a { b with locked := true } (.lookup cid name)
  | known {a : BridgeAction} {cid name knownAlias : String}
      (h : b.containers.get? cid = some knownAlias) :
      BridgeStep b (.lookup cid name) a { b with locked := false } (.idle (.ok knownAlias))
  | unknown {a : BridgeAction} {cid name : String} (h : b.containers.get? cid = none) :
      BridgeStep b (.lookup cid name) a b (.dial cid name)
  | dialFailed {a : BridgeAction} {cid name err : String} :
      BridgeStep b (.dial cid name) a { b with locked := false } (.idle (.error err))
  | dialed {cid name : String} :
      BridgeStep b (.dial cid name) (.step none) { b with members := b.members.set cid name }
        (.enter cid name)
  | entered {a : BridgeAction} {cid name : String} :
      BridgeStep b (.enter cid name) a
        { b with containers := b.containers.set cid name, locked := false } (.idle (.ok name))
  | lockClose {a : BridgeAction} {cid : String} (h : b.locked = false) :
      BridgeStep b (.close cid) a { b with locked := true } (.forget cid)
  | forgot {a : BridgeAction} {cid : String} (h : cid ∈ b.containers) :
      BridgeStep b (.forget cid) a
        { b with containers := b.containers.delete cid, locked := false } (.disconnect cid)
  | absent {a : BridgeAction} {cid : String} (h : cid ∉ b.containers) :
      BridgeStep b (.forget cid) a
        { b with containers := b.containers.delete cid, locked := false } (.remove cid)
  | absentMember {a : BridgeAction} {cid err : String} (h : cid ∉ b.members) :
      BridgeStep b (.disconnect cid) a b (.idle (.error err))
  | refused {a : BridgeAction} {cid err : String} :
      BridgeStep b (.disconnect cid) a { b with refused := cid :: b.refused } (.idle (.error err))
  | disconnected {cid : String} :
      BridgeStep b (.disconnect cid) (.step none) { b with members := b.members.delete cid }
        (.remove cid)
  | removeFailed {a : BridgeAction} {cid err : String} :
      BridgeStep b (.remove cid) a b (.idle (.error err))
  | removed {a : BridgeAction} {cid : String} :
      BridgeStep b (.remove cid) a
        { b with members := b.members.delete cid, removed := cid :: b.removed } (.idle (.ok ""))

/-- What one step of a user of the bridge does. -/
theorem bridgeStep_cases {b b' : Bridge} {u u' : BridgeUser} {a : BridgeAction}
    (h : bridgeStep b u a = some (b', u')) : BridgeStep b u a b' u' := by
  -- Most pairs of a point and an action are no steps; the others come one by one.
  cases u <;> cases a <;> simp only [bridgeStep, reduceCtorEq] at h
  case idle.connect answer cid name uuid =>
    cases h
    exact .begin (.inl ⟨_, _, rfl⟩)
  case idle.close answer cid =>
    cases h
    exact .begin (.inr ⟨_, rfl⟩)
  case connect.step cid name err =>
    split at h <;> cases h
    next hfree => exact .lockConnect (Bool.eq_false_iff.mpr hfree)
  case lookup.step cid name err =>
    split at h <;> cases h
    · next hknown => exact .known hknown
    · next hunknown => exact .unknown hunknown
  case dial.step cid name err =>
    cases err with
    | some err =>
      cases h
      exact .dialFailed
    | none =>
      cases h
      exact .dialed
  case enter.step cid name err =>
    cases h
    exact .entered
  case close.step cid err =>
    split at h <;> cases h
    next hfree => exact .lockClose (Bool.eq_false_iff.mpr hfree)
  case forget.step cid err =>
    cases h
    split
    · next hmem => exact .forgot hmem
    · next hmem => exact .absent hmem
  case disconnect.step cid err =>
    cases err with
    | some err =>
      cases h
      split
      · exact .refused
      · next hmember => exact .absentMember hmember
    | none =>
      cases h
      exact .disconnected
  case remove.step cid err =>
    cases err with
    | some err =>
      cases h
      exact .removeFailed
    | none =>
      cases h
      exact .removed

/-- A step leaves the mutex, takes the free one, or gives it back, whatever Docker answers. -/
theorem bridge_locks : bridgeUsers.Locks Bridge.locked BridgeUser.holds where
  init _ h := h.1
  start := rfl
  step b u a b' u' h := by
    cases bridgeStep_cases h with
    | begin hu =>
      obtain ⟨cid, name, rfl⟩ | ⟨cid, rfl⟩ := hu
      · exact .inl ⟨rfl, rfl⟩
      · exact .inl ⟨rfl, rfl⟩
    | lockConnect hfree => exact .inr (.inl ⟨hfree, rfl, rfl, rfl⟩)
    | lockClose hfree => exact .inr (.inl ⟨hfree, rfl, rfl, rfl⟩)
    | known | dialFailed | entered | forgot | absent => exact .inr (.inr ⟨rfl, rfl, rfl⟩)
    | unknown | dialed | absentMember | refused | disconnected | removeFailed | removed =>
      exact .inl ⟨rfl, rfl⟩

/-! ### The map and Docker -/

/-- What holds between the steps of the goroutines. -/
structure BridgeInv (s : Threads Bridge BridgeUser) : Prop where
  /-- Docker has what the map has, while the container exists. -/
  entry : ∀ cid name, s.shared.containers.get? cid = some name →
    cid ∈ s.shared.removed ∨ s.shared.members.get? cid = some name
  /-- What Docker has is in the map, unless a goroutine is about to change this, or Docker refused
  to disconnect it. -/
  member : ∀ cid name, s.shared.members.get? cid = some name →
    s.shared.containers.get? cid = some name ∨ cid ∈ s.shared.refused ∨
      ∃ i, s.thread i = .disconnect cid ∨ s.thread i = .enter cid name
  /-- A container that is about to be disconnected is not in the map. -/
  pending : ∀ i cid, s.thread i = .disconnect cid →
    cid ∈ s.shared.removed ∨ cid ∈ s.shared.members ∧ s.shared.containers.get? cid = none
  dial : ∀ i cid name, s.thread i = .dial cid name → s.shared.containers.get? cid = none
  enter : ∀ i cid name, s.thread i = .enter cid name → s.shared.containers.get? cid = none ∧
    (cid ∈ s.shared.removed ∨ s.shared.members.get? cid = some name)
  /-- A container that was just connected is not about to be disconnected. -/
  apart : ∀ i j cid name, s.thread i = .enter cid name → s.thread j = .disconnect cid →
    cid ∈ s.shared.removed
  gone : ∀ cid, cid ∈ s.shared.removed → cid ∉ s.shared.members
  /-- Only one goroutine is about to disconnect a container that exists. -/
  alone : ∀ i j cid, s.thread i = .disconnect cid → s.thread j = .disconnect cid →
    cid ∈ s.shared.removed ∨ i = j

/-- The positions at which a goroutine counts on what the map and Docker have. -/
def BridgeUser.relies : BridgeUser → Bool
  | .dial _ _ | .enter _ _ | .disconnect _ => true
  | .idle _ | .connect _ _ | .lookup _ _ | .close _ | .forget _ | .remove _ => false

variable {s t : Threads Bridge BridgeUser} {k : Nat}

/-- A step that leaves the map and Docker as they are, and after which its goroutine counts on
nothing. -/
theorem BridgeInv.quiet (h : BridgeInv s) (hothers : ∀ j, j ≠ k → t.thread j = s.thread j)
    (hcontainers : ∀ cid, t.shared.containers.get? cid = s.shared.containers.get? cid)
    (hmembers : t.shared.members = s.shared.members)
    (hremoved : t.shared.removed = s.shared.removed)
    (hrefused : s.shared.refused ⊆ t.shared.refused)
    (hnew : (t.thread k).relies = false)
    (hdisconnect : ∀ cid, s.thread k = .disconnect cid →
      cid ∈ t.shared.refused ∨ s.shared.members.get? cid = none)
    (henter : ∀ cid name, s.thread k ≠ .enter cid name) : BridgeInv t := by
  have hsame : ∀ {i u}, u.relies = true → t.thread i = u → s.thread i = u := by
    intro i u hrelies hi
    have hne : i ≠ k := by
      intro heq
      rw [← heq, hi, hrelies] at hnew
      cases hnew
    rw [← hothers i hne]
    exact hi
  constructor
  case entry =>
    intro cid name
    rw [hcontainers, hmembers, hremoved]
    exact h.entry cid name
  case member =>
    intro cid name hmem
    rw [hmembers] at hmem
    rw [hcontainers]
    -- The goroutine that explains it is another one, or it is the one that gave up.
    obtain hentry | href | ⟨i, hi⟩ := h.member cid name hmem
    · exact .inl hentry
    · exact .inr (.inl (hrefused href))
    · by_cases hik : i = k
      · subst hik
        obtain hi | hi := hi
        · obtain href | hnone := hdisconnect cid hi
          · exact .inr (.inl href)
          · rw [hmem] at hnone
            cases hnone
        · exact absurd hi (henter cid name)
      · rw [← hothers i hik] at hi
        exact .inr (.inr ⟨i, hi⟩)
  case pending =>
    intro i cid hi
    rw [hcontainers, hmembers, hremoved]
    exact h.pending i cid (hsame rfl hi)
  case dial =>
    intro i cid name hi
    rw [hcontainers]
    exact h.dial i cid name (hsame rfl hi)
  case enter =>
    intro i cid name hi
    rw [hcontainers, hmembers, hremoved]
    exact h.enter i cid name (hsame rfl hi)
  case apart =>
    intro i j cid name hi hj
    rw [hremoved]
    exact h.apart i j cid name (hsame rfl hi) (hsame rfl hj)
  case gone =>
    intro cid
    rw [hmembers, hremoved]
    exact h.gone cid
  case alone =>
    intro i j cid hi hj
    rw [hremoved]
    exact h.alone i j cid (hsame rfl hi) (hsame rfl hj)

section
variable {cid name : String}

/-- The goroutine has seen that the map does not have the container. -/
theorem BridgeInv.unknown (h : BridgeInv s) (hothers : ∀ j, j ≠ k → t.thread j = s.thread j)
    (hu : s.thread k = .lookup cid name) (hu' : t.thread k = .dial cid name)
    (hshared : t.shared = s.shared) (hcid : s.shared.containers.get? cid = none) :
    BridgeInv t := by
  obtain ⟨hentry, hmember, hpending, hdial, henter, hapart, hgone, halone⟩ := h
  constructor <;> grind

/-- Docker has connected the container. -/
theorem BridgeInv.dialed (h : BridgeInv s) (hothers : ∀ j, j ≠ k → t.thread j = s.thread j)
    (hu : s.thread k = .dial cid name) (hu' : t.thread k = .enter cid name)
    (hshared : t.shared = { s.shared with members := s.shared.members.set cid name })
    (hremoved : cid ∉ s.shared.removed) (hcid : cid ∉ s.shared.members)
    (hnoEnter : ∀ j, j ≠ k → ∀ cid name, s.thread j ≠ .enter cid name) : BridgeInv t := by
  obtain ⟨hentry, hmember, hpending, hdial, henter, hapart, hgone, halone⟩ := h
  -- A container that is about to be disconnected is connected.
  have hnone : ∀ j, s.thread j ≠ .disconnect cid := by grind
  constructor <;> grind [GoMap.get?_set, GoMap.mem_set]

/-- The container is entered into the map. -/
theorem BridgeInv.entered (h : BridgeInv s) (hothers : ∀ j, j ≠ k → t.thread j = s.thread j)
    (hu : s.thread k = .enter cid name) (hu' : t.thread k = .idle (.ok name))
    (hshared : t.shared =
      { s.shared with containers := s.shared.containers.set cid name, locked := false })
    (hnoDial : ∀ j, j ≠ k → ∀ cid name, s.thread j ≠ .dial cid name)
    (hnoEnter : ∀ j, j ≠ k → ∀ cid name, s.thread j ≠ .enter cid name) : BridgeInv t := by
  obtain ⟨hentry, hmember, hpending, hdial, henter, hapart, hgone, halone⟩ := h
  have hdisconnect : ∀ j, s.thread j = .disconnect cid → cid ∈ s.shared.removed := fun j =>
    hapart k j cid name hu
  constructor <;> grind [GoMap.get?_set]

/-- The container is deleted from the map. -/
theorem BridgeInv.forgot (h : BridgeInv s) (hothers : ∀ j, j ≠ k → t.thread j = s.thread j)
    (hu : s.thread k = .forget cid) (hu' : t.thread k = .disconnect cid)
    (hshared : t.shared =
      { s.shared with containers := s.shared.containers.delete cid, locked := false })
    (hcid : cid ∈ s.shared.containers)
    (hnoEnter : ∀ j, j ≠ k → ∀ cid name, s.thread j ≠ .enter cid name) : BridgeInv t := by
  obtain ⟨hentry, hmember, hpending, hdial, henter, hapart, hgone, halone⟩ := h
  obtain ⟨name, hname⟩ := GoMap.mem_iff_get?.mp hcid
  constructor <;> grind [GoMap.get?_delete, GoMap.mem_iff_get?]

/-- Docker has disconnected the container. -/
theorem BridgeInv.disconnected (h : BridgeInv s) (hothers : ∀ j, j ≠ k → t.thread j = s.thread j)
    (hu : s.thread k = .disconnect cid) (hu' : t.thread k = .remove cid)
    (hshared : t.shared = { s.shared with members := s.shared.members.delete cid })
    (hremoved : cid ∉ s.shared.removed) : BridgeInv t := by
  obtain ⟨hentry, hmember, hpending, hdial, henter, hapart, hgone, halone⟩ := h
  have hnone : ∀ j name, s.thread j ≠ .enter cid name := fun j name hj =>
    hremoved (hapart j k cid name hj hu)
  have honly : ∀ j, s.thread j = .disconnect cid → j = k := by grind
  constructor <;> grind [GoMap.get?_delete, GoMap.mem_delete]

/-- Docker has removed the container. -/
theorem BridgeInv.removed (h : BridgeInv s) (hothers : ∀ j, j ≠ k → t.thread j = s.thread j)
    (hu : s.thread k = .remove cid) (hu' : t.thread k = .idle (.ok ""))
    (hshared : t.shared = { s.shared with
      members := s.shared.members.delete cid, removed := cid :: s.shared.removed }) :
    BridgeInv t := by
  obtain ⟨hentry, hmember, hpending, hdial, henter, hapart, hgone, halone⟩ := h
  constructor <;> grind [GoMap.get?_delete, GoMap.mem_delete]

end

/-- Each step keeps the invariant. -/
theorem bridgeInv_step (h : BridgeInv s)
    (hlock : Program.Exclusive Bridge.locked BridgeUser.holds s) {a : BridgeAction}
    (ha : DockerAnswers s (k, a))
    (hs : BridgeStep s.shared (s.thread k) a t.shared (t.thread k))
    (hothers : ∀ j, j ≠ k → t.thread j = s.thread j) : BridgeInv t := by
  have hquiet := h.quiet hothers
  have ha : ∀ err, a = .step err → s.shared.Answers (s.thread k) err := by
    rintro err rfl
    exact ha
  generalize hu : s.thread k = u at hs hquiet ha
  generalize hb : t.shared = b' at hs hquiet
  generalize hu' : t.thread k = u' at hs hquiet
  -- When the goroutine has the mutex, the others do not.
  have hbehind : u.holds = true → ∀ j, j ≠ k → (s.thread j).holds = false := fun hk j hj =>
    Bool.eq_false_iff.mpr fun hheld => hj (hlock.unique j k hheld (hu ▸ hk))
  have hnoDial : u.holds = true → ∀ j, j ≠ k → ∀ cid name, s.thread j ≠ .dial cid name := by
    intro hk j hj cid name heq
    have hfalse := hbehind hk j hj
    rw [heq] at hfalse
    cases hfalse
  have hnoEnter : u.holds = true → ∀ j, j ≠ k → ∀ cid name, s.thread j ≠ .enter cid name := by
    intro hk j hj cid name heq
    have hfalse := hbehind hk j hj
    rw [heq] at hfalse
    cases hfalse
  cases hs with
  | begin hbegin =>
    obtain ⟨cid, name, rfl⟩ | ⟨cid, rfl⟩ := hbegin
    · exact hquiet (fun _ => rfl) rfl rfl (List.Subset.refl _) rfl nofun nofun
    · exact hquiet (fun _ => rfl) rfl rfl (List.Subset.refl _) rfl nofun nofun
  | lockConnect | lockClose | known | dialFailed | removeFailed =>
    exact hquiet (fun _ => rfl) rfl rfl (List.Subset.refl _) rfl nofun nofun
  | absent hcid =>
    refine hquiet (fun cid' => ?_) rfl rfl (List.Subset.refl _) rfl nofun nofun
    rw [GoMap.get?_delete]
    split
    · next heq =>
      rw [heq]
      exact (GoMap.get?_eq_none.mpr hcid).symm
    · rfl
  | absentMember hcid =>
    refine hquiet (fun _ => rfl) rfl rfl (List.Subset.refl _) rfl (fun cid' heq => ?_) nofun
    cases heq
    exact .inr (GoMap.get?_eq_none.mpr hcid)
  | refused =>
    refine hquiet (fun _ => rfl) rfl rfl (List.subset_cons_self _ _) rfl (fun cid' heq => ?_) nofun
    cases heq
    exact .inl List.mem_cons_self
  | unknown hcid => exact h.unknown hothers hu hu' hb hcid
  | dialed =>
    obtain ⟨hremoved, hcid⟩ := ha none rfl
    exact h.dialed hothers hu hu' hb hremoved hcid (hnoEnter rfl)
  | entered => exact h.entered hothers hu hu' hb (hnoDial rfl) (hnoEnter rfl)
  | forgot hcid => exact h.forgot hothers hu hu' hb hcid (hnoEnter rfl)
  | disconnected => exact h.disconnected hothers hu hu' hb (ha none rfl).1
  | removed => exact h.removed hothers hu hu' hb

/-- At most one goroutine has the mutex. -/
theorem bridge_exclusive (hs : bridgeUsers.threads.Reachable DockerAnswers s) :
    Program.Exclusive Bridge.locked BridgeUser.holds s :=
  bridge_locks.exclusive (hs.strengthen (fun _ => True) (fun _ _ => trivial)
    fun _ _ _ _ _ _ => ⟨trivial, trivial⟩)

/-- The invariant holds in every interleaving. -/
theorem bridge_inv (hs : bridgeUsers.threads.Reachable DockerAnswers s) : BridgeInv s := by
  induction hs with
  | @init s hinit =>
    obtain ⟨⟨-, hcontainers, hmembers, hremoved, hrefused⟩, hthread⟩ := hinit
    have hidle : ∀ i, s.thread i = .idle (.ok "") := fun i => congrFun hthread i
    constructor <;> simp [hcontainers, hmembers, hremoved, hidle]
  | @step s a t hs ha hstep ih =>
    obtain ⟨k, a⟩ := a
    obtain ⟨hself, hothers⟩ := Program.threads_step_self hstep
    exact bridgeInv_step ih (bridge_exclusive hs) ha (bridgeStep_cases hself) hothers

/-- A goroutine at work goes on when the mutex is free, or is its own. Docker can refuse its
call. -/
theorem exists_bridgeStep {b : Bridge} {u : BridgeUser} (err : String)
    (hu : ∀ answer, u ≠ .idle answer) (h : b.locked = false ∨ u.holds = true) :
    b.Answers u (some err) ∧ ∃ r, bridgeStep b u (.step (some err)) = some r := by
  cases u with
  | idle answer => exact absurd rfl (hu answer)
  | connect cid name | close cid =>
    have hfree : ¬ b.locked = true := by simpa [BridgeUser.holds] using h
    exact ⟨trivial, _, if_neg hfree⟩
  | lookup cid name =>
    cases hknown : b.containers.get? cid <;> exact ⟨trivial, _, by rw [bridgeStep, hknown]⟩
  | enter cid name | forget cid | dial cid name | disconnect cid | remove cid =>
    exact ⟨trivial, _, rfl⟩

/-- While a goroutine is at work, some goroutine at work can go on. -/
theorem bridge_progress (hs : bridgeUsers.threads.Reachable DockerAnswers s) {i : Nat}
    (hi : ∀ answer, s.thread i ≠ .idle answer) :
    ∃ j, (∀ answer, s.thread j ≠ .idle answer) ∧
      ∃ err t, DockerAnswers s (j, .step err) ∧
        bridgeUsers.threads.step s (j, .step err) = some t := by
  have hlock := bridge_exclusive hs
  -- The goroutine that goes on is the one with the mutex, or any one when the mutex is free.
  obtain ⟨j, hj, hcan⟩ : ∃ j, (∀ answer, s.thread j ≠ .idle answer) ∧
      (s.shared.locked = false ∨ (s.thread j).holds = true) := by
    cases hlocked : s.shared.locked with
    | false => exact ⟨i, hi, .inl rfl⟩
    | true =>
      obtain ⟨j, hj⟩ := hlock.locked_iff.mp hlocked
      refine ⟨j, fun answer heq => ?_, .inr hj⟩
      rw [heq] at hj
      cases hj
  obtain ⟨hanswer, r, hr⟩ := exists_bridgeStep "timeout" hj hcan
  exact ⟨j, hj, some "timeout", _, hanswer, Program.threads_step.mpr ⟨_, _, hr, rfl⟩⟩

/-- Whatever the interleaving, Docker has each container that the map has and that exists, under the
same alias. When no goroutine is at work, the map and Docker agree on each container that exists and
that Docker did not refuse to disconnect. While one is at work, one at work can go on. -/
theorem bridge_agrees (hs : bridgeUsers.threads.Reachable DockerAnswers s) :
    (∀ cid name, s.shared.containers.get? cid = some name →
      cid ∈ s.shared.removed ∨ s.shared.members.get? cid = some name) ∧
    ((∀ i, ∃ answer, s.thread i = .idle answer) → ∀ cid, cid ∉ s.shared.removed →
      cid ∉ s.shared.refused → s.shared.containers.get? cid = s.shared.members.get? cid) ∧
    ∀ i, (∀ answer, s.thread i ≠ .idle answer) → ∃ j, (∀ answer, s.thread j ≠ .idle answer) ∧
      ∃ err t, DockerAnswers s (j, .step err) ∧
        bridgeUsers.threads.step s (j, .step err) = some t := by
  have h := bridge_inv hs
  refine ⟨h.entry, fun hidle cid hremoved hrefused => ?_, fun i hi => bridge_progress hs hi⟩
  refine Option.ext fun name => ⟨fun hname => ?_, fun hname => ?_⟩
  · exact (h.entry cid name hname).resolve_left hremoved
  · obtain hname | href | ⟨i, hi⟩ := h.member cid name hname
    · exact hname
    · exact absurd href hrefused
    · obtain ⟨answer, hanswer⟩ := hidle i
      rw [hanswer] at hi
      cases hi with
      | inl hi => cases hi
      | inr hi => cases hi

/-- A goroutine closes a container while another one connects its own. Docker refuses to
disconnect the first. -/
theorem bridge_agrees_refused : ∃ s,
    bridgeUsers.threads.Reachable DockerAnswers s ∧
      s.shared.containers.get? "web" = some "web1" ∧ s.shared.refused = ["db"] ∧
    (∀ cid name, s.shared.containers.get? cid = some name →
      cid ∈ s.shared.removed ∨ s.shared.members.get? cid = some name) ∧
    ((∀ i, ∃ answer, s.thread i = .idle answer) → ∀ cid, cid ∉ s.shared.removed →
      cid ∉ s.shared.refused → s.shared.containers.get? cid = s.shared.members.get? cid) ∧
    ∀ i, (∀ answer, s.thread i ≠ .idle answer) → ∃ j, (∀ answer, s.thread j ≠ .idle answer) ∧
      ∃ err t, DockerAnswers s (j, .step err) ∧
        bridgeUsers.threads.step s (j, .step err) = some t := by
  let first : Threads Bridge BridgeUser :=
    { shared := ⟨false, ∅, ∅, [], []⟩, thread := fun _ => .idle (.ok "") }
  have hfirst : bridgeUsers.threads.Reachable DockerAnswers first :=
    .init ⟨⟨rfl, rfl, rfl, rfl, rfl⟩, rfl⟩
  let actions : List (Nat × BridgeAction) :=
    [(0, .connect "db" "db1" ""), (0, .step none), (0, .step none), (0, .step none),
      (0, .step none), (0, .close "db"), (1, .connect "web" "web1" ""), (0, .step none),
      (0, .step none), (1, .step none), (0, .step (some "timeout")), (1, .step none),
      (1, .step none), (1, .step none)]
  obtain ⟨s, hrun, hweb, hdb⟩ : ∃ s, bridgeUsers.threads.run first actions = some s ∧
      s.shared.containers.get? "web" = some "web1" ∧ s.shared.refused = ["db"] :=
    ⟨_, rfl, by decide, by decide⟩
  have hreach := hfirst.run (by decide) hrun
  exact ⟨s, hreach, hweb, hdb, bridge_agrees hreach⟩

end Haaukins.Virtual
