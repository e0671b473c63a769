import Haaukins.Daemon.ManagedEvent

/-!
# `Haaukins.Daemon.ChildChallenges`: who knows the children of an exercise (`store/team.go`,
`daemon/exercise.go`)

`AllChallenges` of an event has the children of the exercises of its creation. Each team has its own
copy, and `AddChallenge` enters the added exercises into the copies of the teams with a lab.

* `LabChildren` speaks about a lab, `ListsChildren` about a map from exercises to children, and
  `ServiceChildren` about an answer of the exercise service.
* `ChildrenKnown` puts them together: who knows an exercise, knows all its children that a lab has.
  Each request keeps it, as long as the service gives an exercise the same children each time.
-/

set_option autoImplicit false

namespace Haaukins.Daemon

open Amigo (TeamLab)
open Amigo.TeamLab (unmark)
open Exercise (Environment LabExercise)
open Store (TeamExercises)

/-- The tags of the children of an exercise in a lab. -/
def labChildTags (ee : Environment) (parentTag : String) : List String :=
  (ee.exercises.filter fun e => e.tag = parentTag).flatMap fun e =>
    e.challenges.map Store.Challenge.tag

/-! ### Labs with the children of their exercises -/

/-- The exercises of the lab have children of their tags only. -/
def LabChildren (children : String → List String) (ee : Environment) : Prop :=
  ∀ e ∈ ee.exercises, ∀ chal ∈ e.challenges, chal.tag ∈ children e.tag

/-- The map has all children of its parents. -/
def ListsChildren (children : String → List String) (m : GoMap String (List String)) : Prop :=
  ∀ parentTag ch, m.get? parentTag = some ch → children parentTag ⊆ ch

/-- The exercise service gives each exercise the children of its tag. -/
def ServiceChildren (children : String → List String) (exers : List Store.Exercise) : Prop :=
  ∀ e ∈ exers, e.childTags = children e.tag

section

variable {children : String → List String} {ee ee' : Environment}

/-- The children of a parent that a lab has are children that the service knows. -/
theorem LabChildren.labChildTags (h : LabChildren children ee) (parentTag : String) :
    labChildTags ee parentTag ⊆ children parentTag := by
  intro tag htag
  obtain ⟨e, hfound, hmap⟩ := List.mem_flatMap.mp htag
  obtain ⟨he, hparent⟩ := List.mem_filter.mp hfound
  obtain ⟨chal, hchal, rfl⟩ := List.mem_map.mp hmap
  have heq : e.tag = parentTag := by simpa using hparent
  rw [← heq]
  exact h e he chal hchal

/-- A method that changes machines only. -/
theorem LabChildren.mapExercises (h : LabChildren children ee) {f : LabExercise → LabExercise}
    (hf : ∀ e, (f e).tag = e.tag) (hchals : ∀ e, (f e).challenges = e.challenges) :
    LabChildren children (ee.mapExercises f hf) := by
  intro e' he' chal hchal
  obtain ⟨e, he, rfl⟩ := List.mem_map.mp he'
  rw [hchals] at hchal
  rw [hf]
  exact h e he chal hchal

/-- A change of an exercise that leaves its challenges alone. -/
theorem LabChildren.mapTag (h : LabChildren children ee) {t : String}
    {f : LabExercise → LabExercise} (hf : ∀ e, (f e).tag = e.tag)
    (hchals : ∀ e, (f e).challenges = e.challenges) : LabChildren children (ee.mapTag t f hf) := by
  refine h.mapExercises _ fun e => ?_
  split
  · exact hchals e
  · rfl

/-- `Reset` leaves the challenges of an exercise alone, also when it fails. -/
theorem reset_getD_challenges (e : LabExercise) :
    (e.reset.getD e).challenges = e.challenges := by
  cases hreset : e.reset with
  | none => rfl
  | some e' =>
    obtain rfl := LabExercise.reset_eq_some hreset
    rfl

/-- `StartByTag` changes no challenge. -/
theorem LabChildren.startByTag (h : LabChildren children ee) (t : String) :
    LabChildren children (ee.startByTag t).1 := by
  rcases ee.startByTag_cases t with ⟨-, -, hstart⟩ | ⟨-, err, hstart⟩
  · rw [hstart]
    exact h.mapTag LabExercise.start_tag fun _ => rfl
  · rw [hstart]
    exact h

/-- `StopByTag` changes no challenge. -/
theorem LabChildren.stopByTag (h : LabChildren children ee) (t : String) :
    LabChildren children (ee.stopByTag t).1 := by
  rcases ee.stopByTag_cases t with ⟨-, -, hstop⟩ | ⟨-, err, hstop⟩
  · rw [hstop]
    exact h.mapTag LabExercise.stop_tag fun _ => rfl
  · rw [hstop]
    exact h

/-- `ResetByTag` changes no challenge. -/
theorem LabChildren.resetByTag (h : LabChildren children ee) {t : String} {err : Option String}
    (hreset : ee.resetByTag t = some (ee', err)) : LabChildren children ee' := by
  cases err with
  | none =>
    rw [Environment.resetByTag_eq_mapTag hreset]
    exact h.mapTag LabExercise.reset_getD_tag reset_getD_challenges
  | some text =>
    have hsame := (Environment.resetByTag_eq_some hreset).2 (Option.some_ne_none text)
    rwa [hsame]

/-- `Reset` of the environment changes no challenge. -/
theorem LabChildren.reset (h : LabChildren children ee) (hreset : ee.reset = some ee') :
    LabChildren children ee' := by
  rw [Environment.reset] at hreset
  split at hreset
  · cases hreset
    exact h.mapExercises LabExercise.reset_getD_tag reset_getD_challenges
  · cases hreset

/-- `Start` of the environment changes no challenge. -/
theorem LabChildren.start (h : LabChildren children ee) : LabChildren children ee.start := by
  refine h.mapExercises _ fun e => ?_
  split
  · rfl
  · rfl

/-- `Add` makes a challenge of each child of an exercise that gets a machine. -/
theorem mem_childTags_of_added (newFlag : String → Nat → Nat → String) {conf : Store.Exercise}
    {chal : Store.Challenge} (h : chal ∈ (Environment.added newFlag conf).challenges) :
    chal.tag ∈ conf.childTags := by
  have hmem : ∀ c ∈ conf.instances, ∀ f ∈ c.flags, f.tag ∈ conf.childTags := by
    intro c hc f hf
    refine List.mem_map.mpr ⟨{ f with staticChallenge := conf.static }, ?_, rfl⟩
    exact List.mem_flatMap.mpr ⟨c, hc, List.mem_map_of_mem hf⟩
  have hnew : (Environment.added newFlag conf).challenges =
      (Exercise.newExercise (newFlag conf.tag) conf).challenges := by
    unfold Environment.added
    dsimp only
    split <;> rfl
  rw [hnew] at h
  rcases List.mem_append.mp h with hcontainer | hvbox
  · obtain ⟨opts, hopts, hchal⟩ := List.mem_flatMap.mp hcontainer
    simp only [Exercise.newExercise] at hopts
    split at hopts
    · cases hopts
    · obtain ⟨i, hi, rfl⟩ := List.mem_mapIdx.mp hopts
      obtain ⟨j, hj, rfl⟩ := List.mem_mapIdx.mp hchal
      exact hmem _ (List.getElem_mem hi) _ (List.getElem_mem hj)
  · obtain ⟨c, hc, hchal⟩ := List.mem_flatMap.mp hvbox
    obtain ⟨f, hf, rfl⟩ := List.mem_map.mp hchal
    simp only [Exercise.newExercise] at hc
    split at hc
    · cases hc
    · exact hmem c (List.takeWhile_subset _ hc) f hf

/-- `Add` enters children that the service knows. -/
theorem LabChildren.add (h : LabChildren children ee) {confs : List Store.Exercise}
    (hconfs : ServiceChildren children confs) (newFlag : String → Nat → Nat → String) :
    LabChildren children (ee.add newFlag confs).1 := by
  induction confs generalizing ee with
  | nil => exact h
  | cons conf confs ih =>
    rw [Environment.add]
    split
    · exact h
    split
    · exact h
    · refine ih ?_ fun e he => hconfs e (List.mem_cons_of_mem conf he)
      intro e he chal hchal
      rcases List.mem_append.mp he with hold | hnew
      · exact h e hold chal hchal
      · obtain rfl := List.mem_singleton.mp hnew
        rw [Environment.added_tag, ← hconfs conf List.mem_cons_self]
        exact mem_childTags_of_added newFlag hchal

/-- The loop that starts the added challenges changes none of them. -/
theorem LabChildren.startChallenges (h : LabChildren children ee) (confs : List Store.Exercise)
    (err : Option String) : LabChildren children (Lab.startChallenges ee err confs).1 := by
  induction confs generalizing ee err with
  | nil => exact h
  | cons conf confs ih =>
    rw [Lab.startChallenges]
    split
    · exact ih h err
    · exact ih (h.startByTag conf.tag) _

/-- `AddChallenge` of a lab adds, and then starts. -/
theorem LabChildren.addChallenge (h : LabChildren children ee) {confs : List Store.Exercise}
    (hconfs : ServiceChildren children confs) (newFlag : String → Nat → Nat → String) :
    LabChildren children (Lab.addChallenge newFlag ee confs).1 := by
  have hadd := h.add hconfs newFlag
  unfold Lab.addChallenge
  split
  · next ee₁ err heq =>
    rw [heq] at hadd
    exact hadd
  · next ee₁ heq =>
    rw [heq] at hadd
    exact hadd.startChallenges confs none

/-- A new lab has the exercises of its host. -/
theorem LabChildren.newLab {lh : Lab.LabHost} {newFlag : String → Nat → Nat → String}
    (h : ServiceChildren children lh.conf.exercises) (hnew : lh.newLab newFlag = .ok ee) :
    LabChildren children ee := by
  have hempty : LabChildren children Environment.new := fun e he => absurd he List.not_mem_nil
  have hadd := hempty.add h newFlag
  unfold Lab.LabHost.newLab at hnew
  split at hnew
  · cases hnew
  · next env heq =>
    rw [heq] at hadd
    cases hnew
    exact hadd

end

/-! ### The lists of the teams -/

section

variable {children : String → List String} {m : GoMap String (List String)}

/-- An entry with all children of its parent may be written. -/
theorem ListsChildren.set (h : ListsChildren children m) {parentTag : String} {ch : List String}
    (hch : children parentTag ⊆ ch) : ListsChildren children (m.set parentTag ch) := by
  intro tag ch' hget
  rw [GoMap.get?_set] at hget
  split at hget
  · next heq =>
    cases hget
    rwa [heq]
  · exact h tag ch' hget

/-- The empty map lists nothing wrong. -/
theorem listsChildren_empty : ListsChildren children ∅ := by
  intro tag ch hget
  cases hget

/-- The map of `AddChallenge` has all children of each parent. -/
theorem listsChildren_childrenChalTags (challengeTags : List String) {exers : List Store.Exercise}
    (hexers : ServiceChildren children exers) :
    ListsChildren children (childrenChalTags challengeTags exers) := by
  have hloop : ∀ m, ListsChildren children m → ListsChildren children
      (exers.foldl (fun m i =>
        if i.tag ∈ challengeTags then m.set i.tag i.childTags else m) m) := by
    induction exers with
    | nil => exact fun m hm => hm
    | cons e exers ih =>
      intro m hm
      refine ih (fun i hi => hexers i (List.mem_cons_of_mem e hi)) _ ?_
      show ListsChildren children
        (if e.tag ∈ challengeTags then m.set e.tag e.childTags else m)
      split
      · have hch : children e.tag ⊆ e.childTags := by
          rw [hexers e List.mem_cons_self]
          exact List.Subset.refl _
        exact hm.set hch
      · exact hm
  exact hloop ∅ listsChildren_empty

/-- The event lists the children of the exercises that it was created with. -/
theorem subset_getChildrenChallenges {conf : Store.LabConfig} {e : Store.Exercise}
    (hexers : ServiceChildren children conf.exercises) (he : e ∈ conf.exercises) :
    children e.tag ⊆ conf.getChildrenChallenges e.tag := by
  rw [← hexers e he]
  intro tag htag
  obtain ⟨f, hf, rfl⟩ := List.mem_map.mp htag
  obtain ⟨c, hc, hmap⟩ := List.mem_flatMap.mp hf
  obtain ⟨flag, hflag, rfl⟩ := List.mem_map.mp hmap
  refine List.mem_flatMap.mpr ⟨e, List.mem_filter.mpr ⟨he, by simp⟩, ?_⟩
  exact List.mem_map.mpr ⟨flag, List.mem_flatMap.mpr ⟨c, hc, hflag⟩, rfl⟩

/-- A team takes such a map over. -/
theorem ListsChildren.updateAllChallenges {t : TeamExercises}
    (h : ListsChildren children t.allChallenges) (hm : ListsChildren children m) :
    ListsChildren children (t.updateAllChallenges m).allChallenges := by
  intro tag ch hget
  rw [TeamExercises.get?_updateAllChallenges, Option.or_eq_some_iff] at hget
  rcases hget with hnew | ⟨-, hold⟩
  · exact hm tag ch hnew
  · exact h tag ch hold

/-- The marks of a team are apart from its list of all challenges. -/
theorem addDisabledChal_allChallenges (t : TeamExercises) (parentTag : String) :
    (t.addDisabledChal parentTag).allChallenges = t.allChallenges := by
  unfold TeamExercises.addDisabledChal
  split <;> rfl

/-- So they are when a mark is taken away. -/
theorem unmark_allChallenges (t : TeamExercises) (tag : String) :
    (unmark t tag).allChallenges = t.allChallenges := by
  unfold unmark
  split
  · exact t.manageDisabledChals_allChallenges tag
  · rfl

/-- Starting and stopping a challenge writes marks only. -/
theorem startStopChallenge_allChallenges (tl : TeamLab) (chalTag : String) :
    (tl.startStopChallenge chalTag).1.team.allChallenges = tl.team.allChallenges := by
  have hmanage := tl.team.manageDisabledChals_allChallenges chalTag
  unfold TeamLab.startStopChallenge TeamLab.startStopHook
  dsimp only
  split
  · next heq =>
    have hteam := congrArg TeamLab.team (Prod.mk.inj heq).1
    rw [addDisabledChal_allChallenges, ← hteam, hmanage]
  · next heq =>
    have hteam := congrArg TeamLab.team (Prod.mk.inj heq).1
    rw [← hteam, hmanage]

/-- `stopSolved` leaves the list alone, and calls `StopByTag` at most. -/
theorem stopSolved_eq (tl : TeamLab) (parentTag : String) :
    (tl.stopSolved parentTag).team.allChallenges = tl.team.allChallenges ∧
      ((tl.stopSolved parentTag).env = tl.env ∨
        (tl.stopSolved parentTag).env = (tl.env.stopByTag parentTag).1) := by
  unfold TeamLab.stopSolved
  split
  · exact ⟨addDisabledChal_allChallenges _ _, .inr rfl⟩
  · exact ⟨rfl, .inl rfl⟩

end

namespace EventState

/-- The event and the teams that know an exercise know its children, and the labs have no others. -/
structure ChildrenKnown (children : String → List String) (s : EventState) : Prop where
  allChallenges : ListsChildren children s.allChallenges
  teams : ∀ tid t, s.teams.get? tid = some t → ListsChildren children t.allChallenges
  env : ∀ l, LabChildren children (s.env l)
  labHost : ServiceChildren children s.labHost.conf.exercises

variable {children : String → List String} {s s' : EventState} {err : Option String}

namespace ChildrenKnown

/-- A lab may be replaced by one that is right. -/
theorem setEnv (h : s.ChildrenKnown children) (l : Nat) {ee : Environment}
    (hee : LabChildren children ee) : (s.setEnv l ee).ChildrenKnown children where
  allChallenges := h.allChallenges
  teams := h.teams
  env := by
    intro l'
    show LabChildren children (Function.update s.env l ee l')
    by_cases hl : l' = l
    · subst hl
      rwa [Function.update_self]
    · rw [Function.update_of_ne hl]
      exact h.env l'
  labHost := h.labHost

/-- A team may be replaced by one that is right. -/
theorem setTeam (h : s.ChildrenKnown children) (tid : String) {t : TeamExercises}
    (ht : ListsChildren children t.allChallenges) :
    ChildrenKnown children { s with teams := s.teams.set tid t } where
  allChallenges := h.allChallenges
  teams := by
    intro tid' t' ht'
    rw [GoMap.get?_set] at ht'
    split at ht'
    · cases ht'
      exact ht
    · exact h.teams tid' t' ht'
  env := h.env
  labHost := h.labHost

/-- A team and its lab may be replaced at once. -/
theorem setTeamLab (h : s.ChildrenKnown children) (tid : String) (l : Nat) {tl : TeamLab}
    (hteam : ListsChildren children tl.team.allChallenges) (henv : LabChildren children tl.env) :
    (s.setTeamLab tid l tl).ChildrenKnown children :=
  (h.setEnv l henv).setTeam tid hteam

/-- The loop over the teams of the request. -/
theorem resetTeams (h : s.ChildrenKnown children) {exerciseTag : String} {teams : List String}
    (hs : resetTeams exerciseTag s teams = some (s', err)) : s'.ChildrenKnown children := by
  refine resetTeams_invariant (fun s tid l env t h _ hreset ht => ?_) h hs
  refine h.setTeamLab tid l ?_ ((h.env l).resetByTag hreset)
  rw [unmark_allChallenges]
  exact h.teams tid t ht

/-- The loop over all labs. -/
theorem resetLabs (h : s.ChildrenKnown children) {exerciseTag : String} {teams : List String}
    (hs : resetLabs exerciseTag s teams = some (s', err)) : s'.ChildrenKnown children :=
  resetLabs_invariant (fun _ l _ h hreset => h.setEnv l ((h.env l).resetByTag hreset)) h hs

/-- `ResetExercise` with teams or without. -/
theorem resetExercise (h : s.ChildrenKnown children) {exerciseTag : String}
    {reqTeams getTeams : List String}
    (hs : s.resetExercise exerciseTag reqTeams getTeams = some (s', err)) :
    s'.ChildrenKnown children := by
  unfold EventState.resetExercise at hs
  split at hs
  · exact h.resetLabs hs
  · exact h.resetTeams hs

/-- `RestartTeamLab` starts a lab again. -/
theorem restartTeamLab (h : s.ChildrenKnown children) {tid : String}
    (hs : s.restartTeamLab tid = some (s', err)) : s'.ChildrenKnown children := by
  unfold EventState.restartTeamLab at hs
  split at hs
  · cases hs
    exact h
  · next l hl =>
    obtain ⟨env, hreset, hs'⟩ := Option.map_eq_some_iff.mp hs
    cases hs'
    exact h.setEnv l ((h.env l).reset hreset)

/-- The handler of the start and stop button. -/
theorem handleStartStopChallenge (h : s.ChildrenKnown children) (isDigit : Char → Bool)
    (tid tag : String) : (s.handleStartStopChallenge isDigit tid tag).ChildrenKnown children := by
  unfold EventState.handleStartStopChallenge
  split
  · next chalTag l tl _ htl =>
    obtain ⟨-, ht, henv⟩ := teamLab_eq_some_iff.mp htl
    refine h.setTeamLab tid l ?_ ?_
    · rw [startStopChallenge_allChallenges]
      exact h.teams tid tl.team ht
    · rw [TeamLab.startStopChallenge_env, ← henv]
      split
      · exact (h.env l).startByTag chalTag
      · exact (h.env l).stopByTag chalTag
  · exact h

/-- The handler of the reset button. -/
theorem handleResetChallenge (h : s.ChildrenKnown children) (isDigit : Char → Bool)
    (tid tag : String) : (s.handleResetChallenge isDigit tid tag).ChildrenKnown children := by
  unfold EventState.handleResetChallenge
  split
  · next chalTag l tl _ htl =>
    obtain ⟨-, ht, henv⟩ := teamLab_eq_some_iff.mp htl
    split
    · next tl' err hreset =>
      obtain ⟨⟨env, err'⟩, hbyTag, htl'⟩ := Option.map_eq_some_iff.mp hreset
      rw [← henv] at hbyTag
      have hlab := (h.env l).resetByTag hbyTag
      cases err' with
      | some text =>
        cases htl'
        exact h.setTeamLab tid l (h.teams tid tl.team ht) hlab
      | none =>
        cases htl'
        refine h.setTeamLab tid l ?_ hlab
        rw [unmark_allChallenges]
        exact h.teams tid tl.team ht
    · exact h
  · exact h

/-- A submitted flag changes no list of children. -/
theorem verifyFlag (h : s.ChildrenKnown children) (tid tag flag : String) (now : Time)
    (db : Option String) : (s.verifyFlag tid tag flag now db).1.ChildrenKnown children := by
  unfold EventState.verifyFlag
  split
  · exact h
  · next t ht =>
    have hlist := h.teams tid t ht
    exact h.setTeam tid hlist

/-- The stop after a solved challenge. -/
theorem stopSolved (h : s.ChildrenKnown children) {tid parentTag : String}
    (hs : s.stopSolved tid parentTag = some s') : s'.ChildrenKnown children := by
  unfold EventState.stopSolved at hs
  split at hs
  · cases hs
    exact h
  · next t l ht hl =>
    cases hs
    obtain ⟨hlist, henv⟩ := stopSolved_eq { team := t, env := s.env l } parentTag
    refine h.setTeamLab tid l ?_ ?_
    · rw [hlist]
      exact h.teams tid t ht
    · rcases henv with henv | henv
      · rw [henv]
        exact h.env l
      · rw [henv]
        exact (h.env l).stopByTag parentTag
  · split at hs
    · cases hs
    · cases hs
      exact h

/-! ### Added challenges -/

/-- The loop of `AddChallenge` over the labs of the hub. -/
theorem labChildren_addToLabs {newFlag : Nat → String → Nat → Nat → String}
    {exers : List Store.Exercise} {env : Nat → Environment}
    (henv : ∀ l, LabChildren children (env l)) (hexers : ServiceChildren children exers)
    (labs : List Nat) (addChalError : Option String) (l : Nat) :
    LabChildren children ((addToLabs newFlag exers env addChalError labs).1 l) := by
  induction labs generalizing env addChalError with
  | nil => exact henv l
  | cons lb labs ih =>
    rw [addToLabs]
    refine ih (fun l' => ?_) _
    by_cases hl : l' = lb
    · subst hl
      rw [Function.update_self]
      exact (henv l').addChallenge hexers _
    · rw [Function.update_of_ne hl]
      exact henv l'

/-- The loop of `AddChallenge` over the assigned labs. -/
theorem addToAssigned {newFlag : Nat → String → Nat → Nat → String}
    {exers : List Store.Exercise} {childrenChalTags : GoMap String (List String)}
    {rest : List (String × Nat)} {addChalError : Option String} (h : s.ChildrenKnown children)
    (hexers : ServiceChildren children exers) (hlists : ListsChildren children childrenChalTags)
    (hs : Daemon.addToAssigned newFlag exers childrenChalTags s addChalError rest =
      some (s', err)) : s'.ChildrenKnown children := by
  induction rest generalizing s addChalError with
  | nil =>
    cases hs
    exact h
  | cons entry rest ih =>
    obtain ⟨tid, l⟩ := entry
    rw [Daemon.addToAssigned] at hs
    split at hs
    · next ee err₁ t hlab ht =>
      have hee : LabChildren children ee := by
        have hadded := (h.env l).addChallenge hexers (newFlag l)
        rwa [hlab] at hadded
      have hlist := (h.teams tid t ht).updateAllChallenges hlists
      have hround : ChildrenKnown children (s.setTeamLab tid l
          { team := (t.addChallenges ee.challenges).updateAllChallenges childrenChalTags
            env := ee }) := h.setTeamLab tid l hlist hee
      exact ih hround hs
    · cases hs

/-- What `AddChallenge` does after the service has answered. -/
theorem finishAddChallenge {req : AddChallengeRequest} {call : AddChallengeCall}
    (h : s.ChildrenKnown children) (hexers : ServiceChildren children call.exers)
    (hlists : ListsChildren children call.childrenChalTags)
    (hs : s.finishAddChallenge req call = some (s', err)) : s'.ChildrenKnown children := by
  obtain ⟨s₁, err₁, hrun, hend⟩ := finishAddChallenge_cases hs
  have h₁ := h.addToAssigned hexers hlists hrun
  rcases hend with ⟨text, -, rfl, -⟩ | ⟨-, -, rfl⟩
  · exact h₁
  · refine ⟨h₁.allChallenges, h₁.teams, h₁.env, fun e he => ?_⟩
    rcases List.mem_append.mp he with hnew | hold
    · exact hexers e hnew
    · exact h₁.labHost e hold

/-- What `AddChallenge` does before its loops. -/
theorem beginAddChallenge {req : AddChallengeRequest} {call : AddChallengeCall}
    (h : s.ChildrenKnown children)
    (hreq : ∀ exers, req.getExerciseByTags = .ok exers → ServiceChildren children exers)
    (hs : s.beginAddChallenge req = .ok (s', call)) :
    s'.ChildrenKnown children ∧ ServiceChildren children call.exers ∧
      ListsChildren children call.childrenChalTags := by
  rcases s.beginAddChallenge_cases req with ⟨text, hbegin, -⟩ | ⟨exers, -, hexers, hbegin⟩
  · rw [hbegin] at hs
    cases hs
  · rw [hbegin] at hs
    cases hs
    have hservice := hreq exers hexers
    exact ⟨⟨h.allChallenges, h.teams, labChildren_addToLabs h.env hservice s.labs none, h.labHost⟩,
      hservice, listsChildren_childrenChalTags req.challengeTag hservice⟩

/-- The whole request, for an answer with all children. -/
theorem addChallenge {req : AddChallengeRequest} (h : s.ChildrenKnown children)
    (hreq : ∀ exers, req.getExerciseByTags = .ok exers → ServiceChildren children exers)
    (hs : s.addChallenge req = some (s', err)) : s'.ChildrenKnown children := by
  unfold EventState.addChallenge at hs
  split at hs
  · cases hs
    exact h
  · next s₁ call hbegin =>
    obtain ⟨h₁, hexers, hlists⟩ := h.beginAddChallenge hreq hbegin
    exact h₁.finishAddChallenge hexers hlists hs

end ChildrenKnown

end EventState

end Haaukins.Daemon
