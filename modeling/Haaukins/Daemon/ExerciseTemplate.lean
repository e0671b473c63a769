import Haaukins.Lib.Machine
import Haaukins.Lib.GoStrings
import Haaukins.Daemon.AddChallenge

/-!
# `Haaukins.Daemon.ExerciseTemplate`: the exercises of new labs (`daemon/exercise.go`, `lab/lab.go`)

The lab host has the exercises of each new lab, and the store service has their tags as one
text. `AddChallenge` extends both, and looks for duplicates in `EventConfig.AllChallenges`
alone, which stays as it was when the event was created.

`exerciseTemplate_once_iff` says when no tag is there twice. A tag that is there twice makes
`Add` refuse the exercises of every new lab.
-/

set_option autoImplicit false

namespace Haaukins.Exercise

variable {newFlag : String → Nat → Nat → String}

/-- `Add` finds a duplicate only when there is one. -/
theorem Environment.nodup_of_add {ee : Environment} {confs : List Store.Exercise}
    (h : (ee.tags ++ confs.map Store.Exercise.tag).Nodup) :
    (ee.add newFlag confs).2 ≠ some duplicateTagErr := by
  induction confs generalizing ee with
  | nil => simp [add]
  | cons conf confs ih =>
    rw [add]
    split
    · simp [missingTagsErr, duplicateTagErr]
    split
    · next hmem =>
      rw [List.nodup_append] at h
      exact absurd rfl (h.2.2 conf.tag hmem conf.tag (by simp))
    · exact ih (by simpa using h)

end Haaukins.Exercise

namespace Haaukins.Daemon

open Exercise (Environment duplicateTagErr)
open Store (TeamExercises)

/-- A step in the life of an event. -/
inductive TemplateAction where
  | addChallenge (req : AddChallengeRequest)
  /-- Anything that happens to labs and teams between two requests. -/
  | other (labs : List Nat) (env : Nat → Environment) (assigned : GoMap String Nat)
      (teams : GoMap String TeamExercises)

/-- An event with distinct exercise tags, and the requests on it. The exercise service finds
the exercises of the tags, in some order. -/
def exerciseTemplate : Machine EventState TemplateAction where
  -- `EventConfig.Validate` wants an exercise, and `NewTag` takes no tag with a comma.
  init s := ∃ exercises disabledExercises exers teamsDB,
    exercises.Nodup ∧ exercises ≠ [] ∧ (∀ tag ∈ exercises, ',' ∉ tag.toList) ∧
      (exers.map Store.Exercise.tag).Perm exercises ∧
      s = newEventState exercises disabledExercises exers teamsDB
  step s
    | .addChallenge req => (s.addChallenge req).map Prod.fst
    | .other labs env assigned teams =>
      some { s with labs := labs, env := env, assigned := assigned, teams := teams }

namespace EventState

variable {s s' : EventState} {a : TemplateAction}

/-- The tags of the exercises of a new lab. -/
def templateTags (s : EventState) : List String := s.labHost.conf.exercises.map Store.Exercise.tag

/-- The tags in the text of the store service. -/
def storeTags (s : EventState) : List String := GoStrings.split s.exercises ','

/-- No tag is there twice. -/
structure TagsOnce (s : EventState) : Prop where
  template : s.templateTags.Nodup
  store : s.storeTags.Nodup
  newLab : ∀ newFlag,
    (Environment.new.add newFlag s.labHost.conf.exercises).2 ≠ some duplicateTagErr

/-- The request fails before the updates, or it has each tag once and none that an earlier
request added. -/
def NewTags (s : EventState) : TemplateAction → Prop
  | .addChallenge req =>
    match s.updates req with
    | none => True
    | some exers =>
      ((exers.map Store.Exercise.tag).Nodup ∧
        ∀ e ∈ exers, e.tag ∉ s.templateTags) ∧
      (GoStrings.split (",".intercalate req.challengeTag) ',').Nodup ∧
        ∀ tag ∈ GoStrings.split (",".intercalate req.challengeTag) ',', tag ∉ s.storeTags
  | .other _ _ _ _ => True

instance (s : EventState) : ∀ a, Decidable (s.NewTags a) := by
  intro a
  cases a with
  | addChallenge req =>
    dsimp only [NewTags]
    split <;> infer_instance
  | other labs env assigned teams => exact isTrue trivial

/-- Lists without repetition hold each tag once. -/
theorem tagsOnce_of (htemplate : s.templateTags.Nodup) (hstore : s.storeTags.Nodup) :
    s.TagsOnce where
  template := htemplate
  store := hstore
  newLab newFlag := Environment.nodup_of_add (by simpa [templateTags] using htemplate)

/-- At first each tag is there once. -/
theorem tagsOnce_init (hs : exerciseTemplate.init s) : s.TagsOnce := by
  obtain ⟨exercises, disabledExercises, exers, teamsDB, hnodup, hne, hcomma, hperm, rfl⟩ := hs
  refine tagsOnce_of (hperm.nodup_iff.mpr hnodup) ?_
  have hsplit : storeTags (newEventState exercises disabledExercises exers teamsDB) = exercises :=
    GoStrings.split_intercalate hcomma hne
  rw [hsplit]
  exact hnodup

/-- The tags after a request. -/
theorem tags_addChallenge {req : AddChallengeRequest}
    (hs : exerciseTemplate.step s (.addChallenge req) = some s') :
    match s.updates req with
    | none => s'.templateTags = s.templateTags ∧ s'.storeTags = s.storeTags
    | some exers => s'.templateTags = exers.map Store.Exercise.tag ++ s.templateTags ∧
        s'.storeTags =
          s.storeTags ++ GoStrings.split (",".intercalate req.challengeTag) ',' := by
  obtain ⟨⟨s₁, err⟩, hrun, hs'⟩ := Option.map_eq_some_iff.mp hs
  obtain rfl : s₁ = s' := hs'
  -- The errors of the labs do not matter: the updates are the same with them.
  obtain ⟨-, hafter⟩ := addChallenge_eq_some hrun
  cases hupdates : s.updates req with
  | none =>
    rw [hupdates] at hafter
    simp only [templateTags, storeTags, hafter, and_self]
  | some exers =>
    rw [hupdates] at hafter
    obtain ⟨hlabHost, hexercises⟩ := hafter
    simp only [templateTags, storeTags, hlabHost, hexercises]
    exact ⟨List.map_append, GoStrings.split_append _ _ ','⟩

/-- After a step no tag is there twice exactly when the step brings new tags only. -/
theorem TagsOnce.step_iff (h : s.TagsOnce) (hs : exerciseTemplate.step s a = some s') :
    s'.TagsOnce ↔ s.NewTags a := by
  cases a with
  | other labs env assigned teams =>
    obtain rfl : _ = s' := Option.some.inj hs
    exact iff_of_true ⟨h.template, h.store, h.newLab⟩ trivial
  | addChallenge req =>
    have htags := tags_addChallenge hs
    simp only [NewTags]
    cases hupdates : s.updates req with
    | none =>
      -- The request fails, and the two lists stay as they are.
      rw [hupdates] at htags
      obtain ⟨htemplate, hstore⟩ := htags
      refine iff_of_true (tagsOnce_of ?_ ?_) trivial
      · rw [htemplate]
        exact h.template
      · rw [hstore]
        exact h.store
    | some exers =>
      rw [hupdates] at htags
      obtain ⟨htemplate, hstore⟩ := htags
      -- The new tags are put in front of the old ones in the lab host, and behind them in the
      -- text.
      have hfirst : s'.templateTags.Nodup ↔ (exers.map Store.Exercise.tag).Nodup ∧
          ∀ e ∈ exers, e.tag ∉ s.templateTags := by
        rw [htemplate, List.nodup_append']
        simp [h.template, List.disjoint_left]
      have hsecond : s'.storeTags.Nodup ↔
          (GoStrings.split (",".intercalate req.challengeTag) ',').Nodup ∧
            ∀ tag ∈ GoStrings.split (",".intercalate req.challengeTag) ',',
              tag ∉ s.storeTags := by
        rw [hstore, List.nodup_append']
        simp [h.store, List.disjoint_right]
      constructor
      · intro h'
        exact ⟨hfirst.mp h'.template, hsecond.mp h'.store⟩
      · rintro ⟨hnew, hnew'⟩
        exact tagsOnce_of (hfirst.mpr hnew) (hsecond.mpr hnew')

end EventState

/-- Along a run, no tag is there twice if and only if each request that gets to the updates has
each tag once, and none that an earlier request added. -/
theorem exerciseTemplate_once_iff (s : EventState) (hs : exerciseTemplate.init s)
    (as : List TemplateAction) :
    exerciseTemplate.AllStates EventState.TagsOnce s as ↔
      exerciseTemplate.AllSteps EventState.NewTags s as :=
  Machine.allStates_iff_allSteps (A := fun _ _ => True) (fun _ h => h)
    (fun _ _ _ h _ hnew hs => (h.step_iff hs).mpr hnew)
    (fun _ _ _ h _ hnot hs => mt (h.step_iff hs).mp hnot)
    (EventState.tagsOnce_init hs) Machine.allSteps_true

/-- An event with one static exercise. -/
def xssEvent : EventState :=
  newEventState ["xss"] [] [{ tag := "xss", static := true, instances := [] }] []

/-- The event of the example is a first state. -/
theorem xssEvent_init : exerciseTemplate.init xssEvent :=
  ⟨["xss"], [], [{ tag := "xss", static := true, instances := [] }], [], by decide, by decide,
    by decide, List.Perm.refl _, rfl⟩

/-- One request with a new exercise, and one for the exercise that the event was created with,
which the guard refuses. -/
theorem exerciseTemplate_once_guarded :
    exerciseTemplate.AllStates EventState.TagsOnce xssEvent
      [.addChallenge sqlRequest, .addChallenge { sqlRequest with challengeTag := ["xss"] }] :=
  (exerciseTemplate_once_iff xssEvent xssEvent_init _).mpr (by decide)

/-- The same request twice: the guard does not know the first one. -/
theorem exerciseTemplate_not_once :
    ¬ ∀ (s : EventState) (as : List TemplateAction), exerciseTemplate.init s →
      exerciseTemplate.AllStates EventState.TagsOnce s as := by
  intro h
  have hall := h xssEvent [.addChallenge sqlRequest, .addChallenge sqlRequest] xssEvent_init
  obtain ⟨s, htags, honce⟩ := hall.of_run EventState.templateTags ["sql", "sql", "xss"]
    (by decide)
  have hnodup := honce.template
  rw [htags] at hnodup
  exact absurd hnodup (by decide)

end Haaukins.Daemon
