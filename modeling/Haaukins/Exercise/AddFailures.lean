import Haaukins.Exercise.DNSRecords

/-!
# `Haaukins.Exercise.AddFailures`: exercises that cannot be added (`exercise/environment.go`,
`lab/lab.go`)

`Add` puts each exercise of its list into the environment as soon as its machines are there, and
ends at the first one that it refuses. `CreateAnswers` has what Docker and VirtualBox answer for
an exercise. No tag is created twice in a call, so the answers are given by tags.

* `add_none_iff` says when `Add` takes the whole list, and `tags_add` what is there then.
* `allOrNothing_iff`: only when the first exercise is refused, or none, `Add` is all or nothing.
* `add_toDNS`: without failing calls this is the `Add` of `Haaukins.Exercise.DNSRecords`.
-/

set_option autoImplicit false

namespace Haaukins.Exercise

open Store (newTag)
open Virtual (Network)

/-- What the calls of `Create` for one exercise answer, by the numbers of the machines. -/
structure CreateAnswers where
  createContainer : Nat → Option String
  connect : Nat → Except String Nat
  getCopy : Nat → Option String

namespace CreateAnswers

variable (ans : CreateAnswers)

/-- The error in the body of the loop over the containers. -/
def containerErr (i : Nat) : Option String :=
  match ans.createContainer i, ans.connect i with
  | some err, _ => some err
  | none, .error err => some err
  | none, .ok _ => none

/-- The number that the network gives to a container. -/
def digit (i : Nat) : Nat := (ans.connect i).toOption.getD 0

/-- The error of the two loops. -/
def firstErr (containers vms : Nat) : Option String :=
  (List.range containers).findSome? ans.containerErr <|> (List.range vms).findSome? ans.getCopy

/-- Answers without an error. -/
def ofDigits (digit : Nat → Nat) : CreateAnswers where
  createContainer := fun _ => none
  connect := fun i => .ok (digit i)
  getCopy := fun _ => none

/-- Answers without errors have no first one. -/
theorem firstErr_ofDigits (digit : Nat → Nat) (containers vms : Nat) :
    (ofDigits digit).firstErr containers vms = none := by
  have hcontainers : (List.range containers).findSome?
      (ofDigits digit).containerErr = none :=
    List.findSome?_eq_none_iff.mpr fun _ _ => rfl
  have hvms : (List.range vms).findSome? (ofDigits digit).getCopy = none :=
    List.findSome?_eq_none_iff.mpr fun _ _ => rfl
  rw [firstErr, hcontainers, hvms]
  rfl

end CreateAnswers

/-- `vboxOpts` in `NewExercise`. -/
def RecordExercise.vboxOpts (conf : RecordExercise) : List RecordInstance :=
  if conf.static then [] else conf.instances.takeWhile fun c => ovaSuffix.toList <:+: c.image.toList

/-- The error of `Create` for a new exercise. -/
def RecordExercise.createErr (conf : RecordExercise) (ans : CreateAnswers) : Option String :=
  ans.firstErr conf.containerOpts.length conf.vboxOpts.length

/-- `environment`, with the map of its exercises. -/
structure AddEnvironment where
  network : Network
  tags : GoMap String DNSExercise
  exercises : List DNSExercise
  dnsrecords : List HostEntry
  tagged : ∀ t e, tags.get? t = some e ↔ e ∈ exercises ∧ e.tag = t
  distinct : (exercises.map DNSExercise.tag).Nodup

namespace AddEnvironment

variable (ee : AddEnvironment) (ans : String → CreateAnswers)

/-- `ee.dnsAddr`. -/
def dnsAddr : String := ee.network.formatIP Virtual.preferedIP

/-- The map of the tags begins empty, like the list. -/
theorem tagged_empty (t : String) (e : DNSExercise) :
    (∅ : GoMap String DNSExercise).get? t = some e ↔ e ∈ ([] : List DNSExercise) ∧ e.tag = t := by
  simp

/-- The environment after `Create`. -/
def new (network : Network) : AddEnvironment where
  network := network
  tags := ∅
  exercises := []
  dnsrecords := []
  tagged := tagged_empty
  distinct := List.nodup_nil

/-- The tags are those of the exercises. -/
theorem mem_tags {t : String} : t ∈ ee.tags ↔ t ∈ ee.exercises.map DNSExercise.tag := by
  rw [GoMap.mem_iff_get?, List.mem_map]
  simp only [ee.tagged]

/-- `ee.tags[conf.Tag] = e`, and the appends before and after it. -/
def push (e : DNSExercise) (records : List HostEntry) (h : e.tag ∉ ee.tags) : AddEnvironment where
  network := ee.network
  tags := ee.tags.set e.tag e
  exercises := ee.exercises ++ [e]
  dnsrecords := ee.dnsrecords ++ records
  tagged := fun t e' => by
    have hnew : ∀ e' ∈ ee.exercises, e'.tag ≠ e.tag := fun e' he' heq =>
      h (ee.mem_tags.mpr (List.mem_map.mpr ⟨e', he', heq⟩))
    rw [GoMap.get?_set, List.mem_append, List.mem_singleton]
    by_cases ht : t = e.tag
    · rw [if_pos ht]
      constructor
      · intro heq
        obtain rfl := Option.some.inj heq
        exact ⟨.inr rfl, ht.symm⟩
      · rintro ⟨he' | rfl, htag⟩
        · exact absurd (htag.trans ht) (hnew e' he')
        · rfl
    · rw [if_neg ht, ee.tagged, or_and_right]
      refine (or_iff_left ?_).symm
      rintro ⟨rfl, htag⟩
      exact ht htag.symm
  distinct := by
    rw [List.map_append, List.nodup_append]
    refine ⟨ee.distinct, List.nodup_singleton _, ?_⟩
    rintro tag htag tag' htag' rfl
    obtain rfl := List.mem_singleton.mp htag'
    exact h (ee.mem_tags.mpr htag)

/-- The exercise that `Add` makes of a configuration. -/
def made (conf : RecordExercise) : DNSExercise :=
  if conf.static then conf.newExercise
  else conf.newExercise.created ee.network.formatIP (ans conf.tag).digit

/-- The hosts that `Add` appends for it. -/
def records (conf : RecordExercise) : List HostEntry :=
  if conf.static then [] else (ee.made ans conf).entries ee.dnsAddr

/-- A made exercise has the tag of its configuration. -/
theorem made_tag (conf : RecordExercise) : (ee.made ans conf).tag = conf.tag := by
  unfold made
  split <;> rfl

/-- The error of `Create`, which `Add` does not call for a static exercise. -/
def createErr (conf : RecordExercise) : Option String :=
  if conf.static then none else conf.createErr (ans conf.tag)

/-- `Add`. -/
def add : AddEnvironment → List RecordExercise → AddEnvironment × Option String
  | ee, [] => (ee, none)
  | ee, conf :: confs =>
    if conf.tag = "" then (ee, some missingTagsErr)
    else if h : conf.tag ∈ ee.tags then (ee, some duplicateTagErr)
    else
      match createErr ans conf with
      | some err => (ee, some err)
      | none =>
        (ee.push (ee.made ans conf) (ee.records ans conf) (by rwa [made_tag])).add confs

/-- `StartByTag`, with the errors of `Start`. -/
def startByTag (start : String → Option String) (tag : String) : Option String :=
  match newTag tag with
  | .error err => some err
  | .ok t => if t ∈ ee.tags then start t else some unknownTagErr

/-- `AddChallenge` of the lab. The error of a later exercise replaces the one before. -/
def addChallenge (start : String → Option String) (confs : List RecordExercise) :
    AddEnvironment × Option String :=
  match ee.add ans confs with
  | (ee, some err) => (ee, some err)
  | (ee, none) =>
    (ee, (confs.filter fun ch => !ch.static).foldl (fun startByTagError ch =>
      ee.startByTag start ch.tag <|> startByTagError) none)

/-- `Add` takes the exercise when it is the next one. -/
structure Accepts (conf : RecordExercise) : Prop where
  nonempty : conf.tag ≠ ""
  new : conf.tag ∉ ee.tags
  created : createErr ans conf = none

/-- `Add` takes each exercise of the list. -/
structure AcceptsAll (confs : List RecordExercise) : Prop where
  each : ∀ conf ∈ confs, ee.Accepts ans conf
  distinct : (confs.map RecordExercise.tag).Nodup

/-- A call of `Add` is all or nothing. -/
structure AllOrNothing (confs : List RecordExercise) : Prop where
  nothing : ∀ err, (ee.add ans confs).2 = some err →
    (ee.add ans confs).1.tags = ee.tags ∧ (ee.add ans confs).1.exercises = ee.exercises ∧
      (ee.add ans confs).1.dnsrecords = ee.dnsrecords
  /-- When a call with other answers succeeds from the old environment, it does so again. -/
  again : ∀ err, (ee.add ans confs).2 = some err → ∀ ans', (ee.add ans' confs).2 = none →
    ((ee.add ans confs).1.add ans' confs).2 = none
  againLab : ∀ err, (ee.add ans confs).2 = some err → ∀ ans' start,
    (ee.addChallenge ans' start confs).2 = none →
    ((ee.add ans confs).1.addChallenge ans' start confs).2 = none
  all : (ee.add ans confs).2 = none → (∀ conf ∈ confs, conf.tag ∉ ee.tags) ∧
    (confs.map RecordExercise.tag).Nodup ∧
    (ee.add ans confs).1.exercises.map DNSExercise.tag =
      ee.exercises.map DNSExercise.tag ++ confs.map RecordExercise.tag ∧
    ∀ t, t ∈ (ee.add ans confs).1.tags ↔ t ∈ ee.tags ∨ t ∈ confs.map RecordExercise.tag

variable {ee ans} {conf : RecordExercise} {confs : List RecordExercise}

/-! ### One exercise -/

/-- An accepted configuration is pushed, and the rest follows. -/
theorem add_cons_of_accepts (h : ee.Accepts ans conf) :
    ee.add ans (conf :: confs) =
      (ee.push (ee.made ans conf) (ee.records ans conf) (by
        rw [made_tag]
        exact h.new)).add ans confs := by
  rw [add, if_neg h.nonempty, dif_neg h.new]
  simp only [h.created]

/-- A refused exercise leaves the environment. -/
theorem add_cons_of_refused (confs : List RecordExercise) (h : ¬ ee.Accepts ans conf) :
    ∃ err, ee.add ans (conf :: confs) = (ee, some err) := by
  rw [add]
  split
  · exact ⟨_, rfl⟩
  · next hempty =>
    split
    · exact ⟨_, rfl⟩
    · next hnew =>
      cases hcreate : createErr ans conf with
      | some err => exact ⟨err, rfl⟩
      | none => exact absurd ⟨hempty, hnew, hcreate⟩ h

/-- A pushed exercise brings its tag. -/
theorem mem_tags_push {e : DNSExercise} {records : List HostEntry} {h : e.tag ∉ ee.tags}
    {t : String} : t ∈ (ee.push e records h).tags ↔ t = e.tag ∨ t ∈ ee.tags :=
  GoMap.mem_set

/-- After a push the same configurations are accepted, but for those with the tag. -/
theorem accepts_push {e : DNSExercise} {records : List HostEntry} {h : e.tag ∉ ee.tags} :
    (ee.push e records h).Accepts ans conf ↔ ee.Accepts ans conf ∧ conf.tag ≠ e.tag := by
  constructor
  · intro hconf
    have hnew := hconf.new
    rw [mem_tags_push, not_or] at hnew
    exact ⟨⟨hconf.nonempty, hnew.2, hconf.created⟩, hnew.1⟩
  · rintro ⟨hconf, hne⟩
    refine ⟨hconf.nonempty, ?_, hconf.created⟩
    rw [mem_tags_push, not_or]
    exact ⟨hne, hconf.new⟩

/-- No configuration is refused. -/
theorem acceptsAll_nil : ee.AcceptsAll ans [] where
  each := fun _ h => absurd h List.not_mem_nil
  distinct := .nil

/-- The rest of the list meets the environment with its first exercise. -/
theorem acceptsAll_cons_iff (hconf : ee.Accepts ans conf) {e : DNSExercise}
    {records : List HostEntry} {h : e.tag ∉ ee.tags} (he : e.tag = conf.tag) :
    ee.AcceptsAll ans (conf :: confs) ↔ (ee.push e records h).AcceptsAll ans confs := by
  constructor
  · intro hall
    obtain ⟨hnotin, hnodup⟩ := List.nodup_cons.mp hall.distinct
    refine ⟨fun c hc => ?_, hnodup⟩
    refine accepts_push.mpr ⟨hall.each c (List.mem_cons_of_mem _ hc), ?_⟩
    rw [he]
    rintro heq
    exact hnotin (heq ▸ List.mem_map_of_mem hc)
  · intro hrest
    have heach := fun c hc => accepts_push.mp (hrest.each c hc)
    refine ⟨?_, List.nodup_cons.mpr ⟨?_, hrest.distinct⟩⟩
    · intro c hc
      rcases List.mem_cons.mp hc with rfl | hc
      · exact hconf
      · exact (heach c hc).1
    · intro hmem
      obtain ⟨c, hc, htag⟩ := List.mem_map.mp hmem
      exact (heach c hc).2 (htag.trans he.symm)

/-! ### The list -/

/-- `Add` has no error exactly when each configuration is accepted in its turn. -/
theorem add_none_iff : (ee.add ans confs).2 = none ↔ ee.AcceptsAll ans confs := by
  induction confs generalizing ee with
  | nil => exact iff_of_true rfl acceptsAll_nil
  | cons conf confs ih =>
    by_cases hconf : ee.Accepts ans conf
    · rw [add_cons_of_accepts hconf, ih]
      exact (acceptsAll_cons_iff hconf (ee.made_tag ans conf)).symm
    · obtain ⟨err, herr⟩ := add_cons_of_refused confs hconf
      rw [herr]
      refine iff_of_false (Option.some_ne_none err) fun hall => ?_
      exact hconf (hall.each conf List.mem_cons_self)

/-- No exercise of the environment is lost. -/
theorem prefix_add : ee.exercises <+: (ee.add ans confs).1.exercises := by
  induction confs generalizing ee with
  | nil => exact List.prefix_refl _
  | cons conf confs ih =>
    by_cases hconf : ee.Accepts ans conf
    · rw [add_cons_of_accepts hconf]
      refine .trans ?_ ih
      exact List.prefix_append ee.exercises [ee.made ans conf]
    · obtain ⟨err, herr⟩ := add_cons_of_refused confs hconf
      rw [herr]

/-- After a successful `Add`, the exercises of the list follow the old ones. -/
theorem tags_add (h : ee.AcceptsAll ans confs) :
    (ee.add ans confs).1.exercises.map DNSExercise.tag =
      ee.exercises.map DNSExercise.tag ++ confs.map RecordExercise.tag := by
  induction confs generalizing ee with
  | nil => exact (List.append_nil _).symm
  | cons conf confs ih =>
    have hconf := h.each conf List.mem_cons_self
    rw [add_cons_of_accepts hconf, ih ((acceptsAll_cons_iff hconf (ee.made_tag ans conf)).mp h),
      push, List.map_append, List.map_singleton, made_tag, List.append_assoc,
      List.singleton_append, List.map_cons]

/-- When all are accepted, all are added. -/
theorem allOrNothing_of_acceptsAll (h : ee.AcceptsAll ans confs) :
    ee.AllOrNothing ans confs := by
  have hnone := add_none_iff.mpr h
  have hnot : ∀ err, (ee.add ans confs).2 ≠ some err := fun err herr =>
    Option.some_ne_none err (herr.symm.trans hnone)
  refine ⟨fun err herr => absurd herr (hnot err), fun err herr => absurd herr (hnot err),
    fun err herr => absurd herr (hnot err), fun _ => ⟨fun c hc => (h.each c hc).new, h.distinct,
      tags_add h, fun t => ?_⟩⟩
  rw [mem_tags, tags_add h, List.mem_append, ← mem_tags]

/-- An environment that is as it was accepts what it accepted before. -/
theorem allOrNothing_of_same {err : String} (h : ee.add ans confs = (ee, some err)) :
    ee.AllOrNothing ans confs := by
  refine ⟨fun _ _ => ?_, fun _ _ ans' hnone => ?_, fun _ _ ans' start hnone => ?_, fun hnone => ?_⟩
  · rw [h]
    exact ⟨rfl, rfl, rfl⟩
  · rwa [h]
  · rwa [h]
  · rw [h] at hnone
    cases hnone

/-- `Add` is all or nothing if and only if it takes the whole list, or refuses the first exercise
of it. -/
theorem allOrNothing_iff (ee : AddEnvironment) (ans : String → CreateAnswers)
    (confs : List RecordExercise) :
    ee.AllOrNothing ans confs ↔
      ee.AcceptsAll ans confs ∨ ∀ conf ∈ confs.head?, ¬ ee.Accepts ans conf := by
  constructor
  · intro h
    by_contra hcond
    obtain ⟨hall, hhead⟩ := not_or.mp hcond
    obtain ⟨err, herr⟩ := Option.ne_none_iff_exists'.mp (mt add_none_iff.mp hall)
    have hsame := (h.nothing err herr).2.1
    cases confs with
    | nil => exact hall acceptsAll_nil
    | cons conf confs =>
      have hconf : ee.Accepts ans conf := by simpa using hhead
      -- The first exercise is there when the error comes.
      rw [add_cons_of_accepts hconf] at hsame
      have hlength := prefix_add.length_le.trans_eq (congrArg List.length hsame)
      rw [push, List.length_append, List.length_singleton] at hlength
      omega
  · rintro (hall | hhead)
    · exact allOrNothing_of_acceptsAll hall
    · cases confs with
      | nil => exact allOrNothing_of_acceptsAll acceptsAll_nil
      | cons conf confs =>
        obtain ⟨err, herr⟩ := add_cons_of_refused confs (hhead conf rfl)
        exact allOrNothing_of_same herr

/-- The container of the second exercise cannot be made, and the first one stays. -/
theorem not_allOrNothing :
    ¬ (new (Virtual.newNetwork "172.16.5")).AllOrNothing
      (fun tag =>
        { createContainer := fun _ => if tag = "xss" then some "no space left" else none
          connect := fun _ => .ok 7
          getCopy := fun _ => none })
      [⟨"sql", false, [⟨"sql", []⟩]⟩, ⟨"xss", false, [⟨"xss", []⟩]⟩] := by
  intro h
  have hsame := (h.nothing "no space left" (by decide)).2.1
  have hlength := congrArg List.length hsame
  revert hlength
  decide

/-! ### Without failing calls -/

/-- The environment without the map. -/
def toDNS (ee : AddEnvironment) : DNSEnvironment where
  network := ee.network
  exercises := ee.exercises
  dnsrecords := ee.dnsrecords
  dnsServer := none
  started := false

/-- The two bodies of the loop behind the tests of the tag. -/
theorem addExercise_toDNS (ee : AddEnvironment) (digit : String → Nat → Nat)
    (conf : RecordExercise)
    (hnew : (ee.made (fun tag => .ofDigits (digit tag)) conf).tag ∉ ee.tags) :
    ee.toDNS.addExercise digit conf =
      some (ee.push (ee.made (fun tag => .ofDigits (digit tag)) conf)
        (ee.records (fun tag => .ofDigits (digit tag)) conf) hnew).toDNS := by
  unfold DNSEnvironment.addExercise toDNS push
  cases hstatic : conf.static with
  | true => simp [made, records, hstatic]
  | false =>
    have hcreate : conf.newExercise.create ee.network.formatIP (digit conf.tag) =
        some (conf.newExercise.created ee.network.formatIP (digit conf.tag)) := by
      have hnet : conf.newExercise.static = false := hstatic
      simp [DNSExercise.create, hnet]
    simp only [hcreate, made, records, hstatic]
    rfl

/-- When no call fails, this is the `Add` of the other model. -/
theorem add_toDNS (ee : AddEnvironment) (digit : String → Nat → Nat)
    (confs : List RecordExercise) :
    ee.toDNS.add digit confs =
      some ((ee.add (fun tag => .ofDigits (digit tag)) confs).1.toDNS,
        (ee.add (fun tag => .ofDigits (digit tag)) confs).2) := by
  induction confs generalizing ee with
  | nil => rfl
  | cons conf confs ih =>
    have htags : conf.tag ∈ ee.toDNS.tags ↔ conf.tag ∈ ee.tags := ee.mem_tags.symm
    have hcreate : createErr (fun tag => .ofDigits (digit tag)) conf = none := by
      unfold createErr
      split
      · rfl
      · exact CreateAnswers.firstErr_ofDigits _ _ _
    rw [add, DNSEnvironment.add]
    by_cases hempty : conf.tag = ""
    · rw [if_pos hempty, if_pos hempty]
    · rw [if_neg hempty, if_neg hempty]
      by_cases hmem : conf.tag ∈ ee.tags
      · rw [if_pos (htags.mpr hmem), dif_pos hmem]
      · rw [if_neg (mt htags.mp hmem), dif_neg hmem]
        simp only [hcreate]
        rw [← ih, addExercise_toDNS, Option.bind_some]

end AddEnvironment

end Haaukins.Exercise
