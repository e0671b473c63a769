import Haaukins.Amigo.FrontendData
import Haaukins.Amigo.Scoreboard
import Haaukins.Lib.Machine
import Mathlib.Data.List.Induction

/-!
# `Haaukins.Amigo.FrontendLoop`: updates and registrations side by side (`svcs/amigo/util.go`)

`UpdateChallenges` returns at once. A goroutine of its own brings the challenges to an unbuffered
channel, and `RunFrontendData` looks at this channel only after it has served a client. The
machine `frontendLoop` interleaves the calls, the goroutines, the registrations and the loop.

* A goroutine is `spawned` until it comes to its send, and then it waits in `update`. The loop
  takes one that waits, and none only when no one waits.
* A message is kept with the calls of `UpdateChallenges` that had returned when its client was
  registered.
* `frontendLoop_visible_iff` says when all messages show these updates: when a client is served,
  no update of them is on its way that brings something new, and the team of the client is known.
* No update comes to the challenges twice. `frontendLoop_served` says that none gets lost, and
  relates the loop to `FrontendData`.
-/

set_option autoImplicit false

namespace Haaukins.Amigo

/-- A message to a client, with the calls that had returned when the client was registered. -/
inductive Sent where
  | challenges (returned : List (List ChallengeConfig)) (page : Page)
  | teams (returned : List (List ChallengeConfig)) (scoreboard : Scoreboard)

/-- The message shows all challenges of these calls. -/
def Sent.Complete (render : String → String) : Sent → Prop
  | .challenges returned page => ∀ cs ∈ returned, ∀ c ∈ cs, page.Shows (c.chalInfo render)
  | .teams returned scoreboard => ∀ cs ∈ returned, ∀ c ∈ cs, scoreboard.Shows c

/-- Where `RunFrontendData` is. -/
inductive LoopPoint where
  /-- At the outer `select`. -/
  | select
  /-- It has received a client. -/
  | registered (teamId : String) (returned : List (List ChallengeConfig))
  /-- It has sent the challenges to the client. -/
  | sentChallenges (teamId : String) (returned : List (List ChallengeConfig))
  /-- It has sent the scoreboard, and comes to the `select` on `fd.update`. -/
  | sentTeams

/-- The calls that had returned when the client of the point was registered. -/
def LoopPoint.returned : LoopPoint → List (List ChallengeConfig)
  | .registered _ returned => returned
  | .sentChallenges _ returned => returned
  | _ => []

/-- A `FrontendData` with its loop and its goroutines. A call of `UpdateChallenges` is the number
of the calls before it. -/
structure FrontendLoop where
  ts : GoMap String TeamView
  challenges : List ChallengeConfig
  calls : List (List ChallengeConfig)
  spawned : List Nat
  update : List Nat
  /-- The calls whose challenges the loop has appended. No step reads it. -/
  appended : List Nat
  point : LoopPoint
  sent : List Sent

/-- The next step of the loop, or of the goroutines around it. -/
inductive LoopAction where
  /-- The teams of the team store change. -/
  | setTeams (ts : GoMap String TeamView)
  | updateChallenges (chals : List ChallengeConfig)
  /-- A goroutine comes to its send. -/
  | ready (goroutine : Nat)
  | register (teamId : String)
  | sendChallenges
  | sendTeams
  /-- The `select` on `fd.update`, where `none` is its default. -/
  | poll (sender : Option Nat)

namespace FrontendLoop

/-- `NewFrontendData`, and the start of `RunFrontendData`. -/
def new (chals : List ChallengeConfig) (ts : GoMap String TeamView) : FrontendLoop where
  ts := ts
  challenges := chals
  calls := []
  spawned := []
  update := []
  appended := []
  point := .select
  sent := []

variable (s : FrontendLoop)

/-- The challenges of a call. -/
def chals (call : Nat) : List ChallengeConfig := s.calls.getD call []

/-- The calls whose challenges are on their way to the loop. -/
def pending : List Nat := s.spawned ++ s.update

end FrontendLoop

/-- The loop with the calls, the registrations and the team store around it. The channel of a
new client has room for both messages. -/
def frontendLoop (render : String → String) : Machine FrontendLoop LoopAction where
  init s := ∃ chals ts, s = .new chals ts
  step s
    | .setTeams ts => some { s with ts := ts }
    | .updateChallenges chals =>
      some { s with calls := s.calls ++ [chals], spawned := s.spawned ++ [s.calls.length] }
    | .ready k =>
      (s.spawned[k]?).map fun call =>
        { s with spawned := s.spawned.eraseIdx k, update := s.update ++ [call] }
    | .register teamId =>
      match s.point with
      | .select => some { s with point := .registered teamId s.calls }
      | _ => none
    | .sendChallenges =>
      match s.point with
      | .registered teamId returned =>
        some { s with
          point := .sentChallenges teamId returned
          sent := s.sent ++
            [.challenges returned (challengesPage render s.challenges s.ts teamId)] }
      | _ => none
    | .sendTeams =>
      match s.point with
      | .sentChallenges teamId returned =>
        some { s with
          point := .sentTeams
          sent := s.sent ++ [.teams returned (scoreboard s.challenges s.ts teamId)] }
      | _ => none
    | .poll sender =>
      match s.point, sender with
      | .sentTeams, some k =>
        (s.update[k]?).map fun call =>
          { s with
            challenges := s.challenges ++ s.chals call
            update := s.update.eraseIdx k
            appended := s.appended ++ [call]
            point := .select }
      -- The default is taken only when no goroutine waits at the channel.
      | .sentTeams, none => if s.update = [] then some { s with point := .select } else none
      | _, _ => none

namespace FrontendLoop

variable {s s' : FrontendLoop} {render : String → String} {initial : List ChallengeConfig}
  {returned : List (List ChallengeConfig)}

/-- Each message shows the updates that had returned, and the list of the challenges has each
update once at most. -/
structure Visible (render : String → String) (initial : List ChallengeConfig)
    (s : FrontendLoop) : Prop where
  sent : ∀ message ∈ s.sent, message.Complete render
  challenges : s.challenges = initial ++ s.appended.flatMap s.chals
  nodup : s.appended.Nodup

/-- When a client is served, an update that had returned before its registration and is still on
its way brings nothing new. The challenges go to a team that the store has, or there is nothing
that such an update has to show. -/
def ServesAll (render : String → String) (s : FrontendLoop) : LoopAction → Prop
  | .sendChallenges =>
    match s.point with
    | .registered teamId returned =>
      if teamId ∈ s.ts then
        ∀ i ∈ s.pending, ∀ cs ∈ returned[i]?, ∀ c ∈ cs,
          c.chalInfo render ∈ s.challenges.map (ChallengeConfig.chalInfo render)
      else ∀ cs ∈ returned, ∀ c ∈ cs, s.challenges ≠ [] ∧ c.chalInfo render = .zero
    | _ => True
  | .sendTeams =>
    match s.point with
    | .sentChallenges _ returned =>
      ∀ i ∈ s.pending, ∀ cs ∈ returned[i]?, ∀ c ∈ cs,
        ∃ c' ∈ s.challenges, c'.category = c.category ∧ c'.column = c.column
    | _ => True
  | _ => True

/-! ### Where the updates are -/

/-- Each call has its challenges appended, or they are on their way. -/
structure Inv (initial : List ChallengeConfig) (s : FrontendLoop) : Prop where
  challenges : s.challenges = initial ++ s.appended.flatMap s.chals
  calls : (s.appended ++ s.pending).Perm (List.range s.calls.length)
  returned : s.point.returned <+: s.calls

/-- The new loop has served what it was given. -/
theorem inv_new (initial : List ChallengeConfig) (ts : GoMap String TeamView) :
    Inv initial (.new initial ts) where
  challenges := (List.append_nil initial).symm
  calls := .refl _
  returned := List.nil_prefix

/-- More calls do not change the challenges of the earlier ones. -/
theorem chals_append {calls : List (List ChallengeConfig)} {i : Nat} (h : i < calls.length)
    (cs : List ChallengeConfig) : (calls ++ [cs]).getD i [] = calls.getD i [] := by
  rw [List.getD_eq_getElem?_getD, List.getD_eq_getElem?_getD, List.getElem?_append_left h]

/-- Only calls that were made are appended. -/
theorem Inv.appended_lt (hinv : Inv initial s) {i : Nat} (h : i ∈ s.appended) :
    i < s.calls.length :=
  List.mem_range.mp (hinv.calls.mem_iff.mp (List.mem_append_left _ h))

/-- No update comes to the list twice. -/
theorem Inv.nodup (hinv : Inv initial s) : s.appended.Nodup :=
  (List.nodup_append.mp (hinv.calls.nodup_iff.mpr List.nodup_range)).1

/-- What holds of all challenges in the list holds of the calls that had returned, when it holds
of those that are on their way. -/
theorem Inv.forall_returned_iff (hinv : Inv initial s) (hreturned : s.point.returned = returned)
    {Q : ChallengeConfig → Prop} (hQ : ∀ c ∈ s.challenges, Q c) :
    (∀ cs ∈ returned, ∀ c ∈ cs, Q c) ↔
      ∀ i ∈ s.pending, ∀ cs ∈ returned[i]?, ∀ c ∈ cs, Q c := by
  constructor
  · intro h i _ cs hcs
    exact h cs (List.mem_of_getElem? hcs)
  · intro h cs hcs
    obtain ⟨i, hi, hget⟩ := List.mem_iff_getElem.mp hcs
    have hget? : returned[i]? = some cs := by rw [List.getElem?_eq_getElem hi, hget]
    have hprefix : returned <+: s.calls := hreturned ▸ hinv.returned
    have hcall : s.calls[i]? = some cs := by
      obtain ⟨rest, hrest⟩ := hprefix
      rw [← hrest, List.getElem?_append_left hi, hget?]
    have hmem : i ∈ s.appended ++ s.pending :=
      hinv.calls.mem_iff.mpr (List.mem_range.mpr (List.getElem?_eq_some_iff.mp hcall).1)
    rcases List.mem_append.mp hmem with happended | hpending
    · -- The challenges of the call are in the list.
      intro c hc
      refine hQ c ?_
      rw [hinv.challenges]
      refine List.mem_append_right _ (List.mem_flatMap.mpr ⟨i, happended, ?_⟩)
      rwa [chals, List.getD_eq_getElem?_getD, hcall]
    · exact h i hpending cs hget?

/-! ### One step -/

/-- A further call waits. -/
theorem Inv.updateChallenges (hinv : Inv initial s) (chals : List ChallengeConfig) :
    Inv initial { s with
      calls := s.calls ++ [chals], spawned := s.spawned ++ [s.calls.length] } where
  challenges := by
    show s.challenges = initial ++ s.appended.flatMap fun i => (s.calls ++ [chals]).getD i []
    rw [hinv.challenges]
    congr 1
    refine List.flatMap_congr fun i hi => ?_
    exact (chals_append (hinv.appended_lt hi) chals).symm
  calls := by
    show (s.appended ++ ((s.spawned ++ [s.calls.length]) ++ s.update)).Perm
      (List.range (s.calls ++ [chals]).length)
    rw [List.length_append, List.length_singleton, List.range_succ]
    have hmiddle : (s.appended ++ ((s.spawned ++ [s.calls.length]) ++ s.update)).Perm
        ((s.appended ++ s.pending) ++ [s.calls.length]) := by
      rw [List.append_assoc, List.append_assoc]
      refine List.Perm.append_left _ ?_
      rw [pending, List.append_assoc]
      exact List.perm_append_comm.append_left _
    exact hmiddle.trans (hinv.calls.append_right _)
  returned := hinv.returned.trans (List.prefix_append _ _)

/-- A goroutine that comes to its send is on its way still. -/
theorem ready_pending {k : Nat} (hk : k < s.spawned.length) :
    (s.spawned.eraseIdx k ++ (s.update ++ [s.spawned[k]])).Perm s.pending := by
  have hlast : (s.update ++ [s.spawned[k]]).Perm (s.spawned[k] :: s.update) :=
    List.perm_append_singleton s.spawned[k] s.update
  refine (hlast.append_left _).trans (List.perm_middle.trans ?_)
  exact (List.getElem_cons_eraseIdx_perm hk).append_right s.update

/-- A received update moves from those on their way to those appended. -/
theorem poll_calls {k : Nat} (hk : k < s.update.length) :
    ((s.appended ++ [s.update[k]]) ++ (s.spawned ++ s.update.eraseIdx k)).Perm
      (s.appended ++ s.pending) := by
  rw [List.append_assoc, List.singleton_append]
  refine List.Perm.append_left _ ?_
  exact List.perm_middle.symm.trans
    ((List.getElem_cons_eraseIdx_perm hk).append_left s.spawned)

/-- What a step of the loop does to its state. -/
def StepCases (render : String → String) (s s' : FrontendLoop) : LoopAction → Prop
  | .setTeams ts => s' = { s with ts := ts }
  | .updateChallenges chals =>
    s' = { s with calls := s.calls ++ [chals], spawned := s.spawned ++ [s.calls.length] }
  | .ready k => ∃ hk : k < s.spawned.length,
    s' = { s with spawned := s.spawned.eraseIdx k, update := s.update ++ [s.spawned[k]] }
  | .register teamId => s' = { s with point := .registered teamId s.calls }
  | .sendChallenges => ∃ teamId returned, s.point = .registered teamId returned ∧
    s' = { s with
      point := .sentChallenges teamId returned
      sent := s.sent ++ [.challenges returned (challengesPage render s.challenges s.ts teamId)] }
  | .sendTeams => ∃ teamId returned, s.point = .sentChallenges teamId returned ∧
    s' = { s with
      point := .sentTeams
      sent := s.sent ++ [.teams returned (scoreboard s.challenges s.ts teamId)] }
  | .poll (some k) => ∃ hk : k < s.update.length,
    s' = { s with
      challenges := s.challenges ++ s.chals s.update[k]
      update := s.update.eraseIdx k
      appended := s.appended ++ [s.update[k]]
      point := .select }
  | .poll none => s' = { s with point := .select }

/-- What one step of the loop does. -/
theorem step_cases {a : LoopAction} (h : (frontendLoop render).step s a = some s') :
    StepCases render s s' a := by
  cases a with
  | setTeams ts => exact (Option.some.inj h).symm
  | updateChallenges chals => exact (Option.some.inj h).symm
  | ready k =>
    obtain ⟨call, hcall, heq⟩ := Option.map_eq_some_iff.mp h
    obtain ⟨hk, rfl⟩ := List.getElem?_eq_some_iff.mp hcall
    exact ⟨hk, heq.symm⟩
  | register teamId =>
    -- Only a loop that waits in its `select` registers a client.
    simp only [frontendLoop] at h
    split at h
    · exact (Option.some.inj h).symm
    · cases h
  | sendChallenges =>
    simp only [frontendLoop] at h
    split at h
    · next teamId returned hpoint => exact ⟨teamId, returned, hpoint, (Option.some.inj h).symm⟩
    · cases h
  | sendTeams =>
    simp only [frontendLoop] at h
    split at h
    · next teamId returned hpoint => exact ⟨teamId, returned, hpoint, (Option.some.inj h).symm⟩
    · cases h
  | poll sender =>
    simp only [frontendLoop] at h
    split at h
    · next k hpoint =>
      obtain ⟨call, hcall, heq⟩ := Option.map_eq_some_iff.mp h
      obtain ⟨hk, rfl⟩ := List.getElem?_eq_some_iff.mp hcall
      exact ⟨hk, heq.symm⟩
    · split at h
      · exact (Option.some.inj h).symm
      · cases h
    · cases h

/-- Each step keeps track of the updates. -/
theorem Inv.step {a : LoopAction} (hinv : Inv initial s)
    (h : (frontendLoop render).step s a = some s') : Inv initial s' := by
  have hcases := step_cases h
  cases a with
  | setTeams ts =>
    cases hcases
    exact ⟨hinv.challenges, hinv.calls, hinv.returned⟩
  | updateChallenges chals =>
    cases hcases
    exact hinv.updateChallenges chals
  | ready k =>
    obtain ⟨hk, rfl⟩ := hcases
    exact ⟨hinv.challenges, ((ready_pending hk).append_left _).trans hinv.calls, hinv.returned⟩
  | register teamId =>
    cases hcases
    exact ⟨hinv.challenges, hinv.calls, List.prefix_rfl⟩
  -- The send to the client changes neither the challenges nor the updates.
  | sendChallenges =>
    obtain ⟨teamId, returned, hpoint, rfl⟩ := hcases
    have hreturned := hinv.returned
    rw [hpoint] at hreturned
    exact ⟨hinv.challenges, hinv.calls, hreturned⟩
  | sendTeams =>
    obtain ⟨teamId, returned, hpoint, rfl⟩ := hcases
    exact ⟨hinv.challenges, hinv.calls, List.nil_prefix⟩
  | poll sender =>
    cases sender with
    -- One of the updates that wait is taken, and appended behind those before it.
    | some k =>
      obtain ⟨hk, rfl⟩ := hcases
      refine ⟨?_, (poll_calls hk).trans hinv.calls, List.nil_prefix⟩
      show s.challenges ++ s.chals s.update[k] =
        initial ++ (s.appended ++ [s.update[k]]).flatMap s.chals
      rw [hinv.challenges, List.flatMap_append, List.append_assoc, List.flatMap_singleton]
    | none =>
      cases hcases
      exact ⟨hinv.challenges, hinv.calls, List.nil_prefix⟩

/-- The page is complete just when the step serves all. -/
theorem Inv.page_iff (hinv : Inv initial s) {teamId : String}
    (hpoint : s.point = .registered teamId returned) :
    Sent.Complete render
        (.challenges returned (challengesPage render s.challenges s.ts teamId)) ↔
      ServesAll render s .sendChallenges := by
  simp only [Sent.Complete, ServesAll, hpoint, shows_challengesPage_iff]
  split
  · next hteam =>
    exact hinv.forall_returned_iff (by rw [hpoint]; rfl) fun c hc => List.mem_map_of_mem hc
  · rfl

/-- The scoreboard is complete just when the step serves all. -/
theorem Inv.scoreboard_iff (hinv : Inv initial s) {teamId : String}
    (hpoint : s.point = .sentChallenges teamId returned) :
    Sent.Complete render (.teams returned (scoreboard s.challenges s.ts teamId)) ↔
      ServesAll render s .sendTeams := by
  simp only [Sent.Complete, ServesAll, hpoint, shows_scoreboard_iff]
  exact hinv.forall_returned_iff (by rw [hpoint]; rfl) fun c hc => ⟨c, hc, rfl, rfl⟩

/-- The messages after one more are complete just when it is. -/
theorem forall_sent_append {message : Sent} (h : ∀ m ∈ s.sent, m.Complete render) :
    (∀ m ∈ s.sent ++ [message], m.Complete render) ↔ message.Complete render := by
  simp only [List.mem_append, List.mem_singleton]
  constructor
  · intro hall
    exact hall message (.inr rfl)
  · rintro hmessage m (hold | rfl)
    · exact h m hold
    · exact hmessage

/-- After complete messages, a step leaves complete ones exactly when it serves all. -/
theorem Inv.sent_iff {a : LoopAction} (hinv : Inv initial s)
    (hsent : ∀ m ∈ s.sent, m.Complete render)
    (h : (frontendLoop render).step s a = some s') :
    (∀ m ∈ s'.sent, m.Complete render) ↔ ServesAll render s a := by
  have hcases := step_cases h
  cases a with
  -- Only the two sends can send what is not complete.
  | sendChallenges =>
    obtain ⟨teamId, returned, hpoint, rfl⟩ := hcases
    rw [← hinv.page_iff hpoint]
    exact forall_sent_append hsent
  | sendTeams =>
    obtain ⟨teamId, returned, hpoint, rfl⟩ := hcases
    rw [← hinv.scoreboard_iff hpoint]
    exact forall_sent_append hsent
  | setTeams ts =>
    cases hcases
    exact iff_of_true hsent trivial
  | updateChallenges chals =>
    cases hcases
    exact iff_of_true hsent trivial
  | ready k =>
    obtain ⟨hk, rfl⟩ := hcases
    exact iff_of_true hsent trivial
  | register teamId =>
    cases hcases
    exact iff_of_true hsent trivial
  | poll sender =>
    cases sender with
    | some k =>
      obtain ⟨hk, rfl⟩ := hcases
      exact iff_of_true hsent trivial
    | none =>
      cases hcases
      exact iff_of_true hsent trivial

/-! ### Runs of the loop -/

/-- The state that the requests of the daemon see. -/
def frontendData (s : FrontendLoop) : FrontendData where
  challenges := s.challenges.map ChallengeConfig.conf
  update := s.pending.map fun call => (s.chals call).map ChallengeConfig.conf

/-- All calls in order are all challenges. -/
theorem flatMap_range_getD (calls : List (List ChallengeConfig)) :
    (List.range calls.length).flatMap (fun i => calls.getD i []) = calls.flatten := by
  induction calls using List.reverseRec with
  | nil => rfl
  | append_singleton calls cs ih =>
    rw [List.length_append, List.length_singleton, List.range_succ, List.flatMap_append,
      List.flatten_append, ← ih]
    congr 1
    · refine List.flatMap_congr fun i hi => ?_
      exact chals_append (List.mem_range.mp hi) cs
    · simp

/-- In each run the challenges of the first list and of all calls are in the list or on their
way, each once: no update is lost, and none comes twice. -/
theorem frontendLoop_served (render : String → String) (initial : List ChallengeConfig)
    (ts : GoMap String TeamView) (as : List LoopAction) :
    (frontendLoop render).AllStates (fun s => s.frontendData.served.Perm
      ((initial ++ s.calls.flatten).map ChallengeConfig.conf)) (.new initial ts) as := by
  have hkeep : ∀ s a t, Inv initial s → True → (frontendLoop render).step s a = some t →
      Inv initial t := fun _ _ _ hinv _ hs => hinv.step hs
  refine Machine.AllSteps.allStates (fun s hinv => ?_) hkeep (inv_new initial ts)
    Machine.allSteps_true
  have hcalls : ((s.appended ++ s.pending).flatMap s.chals).Perm s.calls.flatten := by
    rw [← flatMap_range_getD s.calls]
    exact hinv.calls.flatMap_right s.chals
  have hserved : s.frontendData.served =
      (s.challenges ++ s.pending.flatMap s.chals).map ChallengeConfig.conf := by
    simp only [frontendData, FrontendData.served, List.map_append, List.flatMap_def,
      List.map_flatten, List.map_map, Function.comp_def]
  rw [hserved, hinv.challenges, List.append_assoc, ← List.flatMap_append]
  exact (hcalls.append_left initial).map _

/-- In a run of the loop all messages show the updates that had returned when their client was
registered, and no update is in the list twice, if and only if each client is served when no such
update on its way brings something new, and the challenges go to a known team. -/
theorem frontendLoop_visible_iff (render : String → String) (initial : List ChallengeConfig)
    (ts : GoMap String TeamView) (as : List LoopAction) :
    (frontendLoop render).AllStates (Visible render initial) (.new initial ts) as ↔
      (frontendLoop render).AllSteps (ServesAll render) (.new initial ts) as :=
  Machine.allStates_iff_allSteps
    (I := fun s => Inv initial s ∧ ∀ m ∈ s.sent, m.Complete render) (A := fun _ _ => True)
    (fun _ h => ⟨h.2, h.1.challenges, h.1.nodup⟩)
    (fun _ _ _ h _ hok hs => ⟨h.1.step hs, (h.1.sent_iff h.2 hs).mpr hok⟩)
    (fun _ _ _ h _ hnot hs hvisible => hnot ((h.1.sent_iff h.2 hs).mp hvisible.sent))
    ⟨inv_new initial ts, fun _ h => absurd h List.not_mem_nil⟩ Machine.allSteps_true

/-- A challenge of the category "Web". -/
def sqlChallenge : ChallengeConfig :=
  { ChallengeConfig.zero with tag := "sql-1", category := "Web" }

/-- The first client after an update gets the challenges from before. -/
theorem frontendLoop_not_visible :
    ¬ ∀ (render : String → String) (initial : List ChallengeConfig) (ts : GoMap String TeamView)
      (as : List LoopAction),
      (frontendLoop render).AllStates (Visible render initial) (.new initial ts) as := by
  intro h
  have hall := h id [] (GoMap.set ∅ "ab" (viewOf "ab" ∅)) [.updateChallenges [sqlChallenge],
    .ready 0, .register "ab", .sendChallenges]
  obtain ⟨s, hsent, hvisible⟩ := hall.of_run FrontendLoop.sent
    [.challenges [[sqlChallenge]] { values := [], isLabAssigned := false }] rfl
  have hcomplete := hvisible.sent _ (hsent ▸ List.mem_cons_self)
  obtain ⟨row, hrow, -⟩ := hcomplete [sqlChallenge] List.mem_cons_self sqlChallenge
    List.mem_cons_self
  cases hrow

end FrontendLoop

end Haaukins.Amigo
