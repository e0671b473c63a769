import Haaukins.Daemon.Event
import Haaukins.Store.Event

/-!
# `Haaukins.Daemon.EventRows`: events as rows of the store (`daemon/event.go`)

`CreateEventFromConfig` writes an event as a row: it joins the tags with commas, and keeps the
first frontend. `generateEventConfig` reads a row of the store back. A restarted daemon and a
visit of the booked events use it.

`SameEvent` says that two configurations agree in what the row is meant to keep. A valid event
comes back the same exactly when it fits into a row (`FitsRow`): it has one frontend, and some
disabled exercises without commas, and its counts are numbers of 32 bits.
-/

set_option autoImplicit false

namespace Haaukins.Daemon

open Store (FrontendStore InstanceConfig AddEventRequest newFrontendsFile validateTag)

/-- `strings.Join(tags, ",")`. -/
def joinTags (tags : List String) : String := (String.singleton ',').intercalate tags

/-- `strings.Split(tags, ",")`. -/
def splitTags (tags : String) : List String := GoStrings.split tags ','

/-- The row that `CreateEventFromConfig` writes. It is `none` when the index of the first frontend
panics. -/
def createEventFromConfig (conf : Store.EventConfig) : Option AddEventRequest :=
  match conf.lab.frontends with
  | [] => none
  | frontend :: _ =>
    some
      { name := conf.name
        tag := conf.tag
        frontends := frontend.image
        exercises := joinTags conf.lab.exercises
        available := Int32.ofInt conf.available
        capacity := Int32.ofInt conf.capacity
        startTime := conf.startedAt.formatDB
        expectedFinishTime := conf.finishExpected.formatDB
        status := conf.status
        createdBy := conf.createdBy
        onlyVPN := conf.onlyVPN
        secretKey := conf.secretKey
        disabledExercises := joinTags conf.lab.disabledExercises }

/-- `generateEventConfig`. A time that does not parse is the zero time. -/
def generateEventConfig (ff : FrontendStore) (event : AddEventRequest) (status : Int32)
    (vpnAddress : String) : Store.EventConfig where
  name := event.name
  tag := event.tag
  available := event.available.toInt
  capacity := event.capacity.toInt
  lab :=
    { frontends := (ff.getFrontends [event.frontends]).take 1
      exercises := splitTags event.exercises
      disabledExercises := splitTags event.disabledExercises }
  startedAt := (Time.parse event.startTime).getD Time.zero
  finishExpected := (Time.parse event.expectedFinishTime).getD Time.zero
  status := status
  createdBy := event.createdBy
  onlyVPN := event.onlyVPN
  vpnAddress := vpnAddress
  secretKey := event.secretKey

/-- The configurations agree in what is needed to build the same labs for the same teams. -/
structure SameEvent (conf conf' : Store.EventConfig) : Prop where
  exercises : conf'.lab.exercises = conf.lab.exercises
  disabledExercises : conf'.lab.disabledExercises = conf.lab.disabledExercises
  frontends : conf'.lab.frontends.map InstanceConfig.image =
    conf.lab.frontends.map InstanceConfig.image
  available : conf'.available = conf.available
  capacity : conf'.capacity = conf.capacity
  onlyVPN : conf'.onlyVPN = conf.onlyVPN
  createdBy : conf'.createdBy = conf.createdBy
  secretKey : conf'.secretKey = conf.secretKey

/-- The number has 32 bits. -/
def FitsInt32 (n : Int) : Prop := -2 ^ 31 ≤ n ∧ n < 2 ^ 31

/-- The tags survive the comma-separated text. -/
def FitsTags (tags : List String) : Prop := tags ≠ [] ∧ ∀ t ∈ tags, ',' ∉ t.toList

/-- The event fits into a row of the store. -/
structure FitsRow (conf : Store.EventConfig) : Prop where
  frontends : conf.lab.frontends.length = 1
  disabledExercises : FitsTags conf.lab.disabledExercises
  available : FitsInt32 conf.available
  capacity : FitsInt32 conf.capacity

instance (n : Int) : Decidable (FitsInt32 n) := inferInstanceAs (Decidable (_ ∧ _))

instance (tags : List String) : Decidable (FitsTags tags) := inferInstanceAs (Decidable (_ ∧ _))

/-- Joined tags are split again if and only if they fit. -/
theorem splitTags_joinTags_iff {tags : List String} :
    splitTags (joinTags tags) = tags ↔ FitsTags tags := GoStrings.split_intercalate_iff

/-- A number survives 32 bits if and only if it fits into them. -/
theorem toInt_ofInt_iff {n : Int} : (Int32.ofInt n).toInt = n ↔ FitsInt32 n := by
  constructor
  · intro h
    have hle := (Int32.ofInt n).le_toInt
    have hlt := (Int32.ofInt n).toInt_lt
    rw [h] at hle hlt
    exact ⟨hle, hlt⟩
  · rintro ⟨hle, hlt⟩
    exact Int32.toInt_ofInt_of_le hle hlt

/-- Valid tags survive the comma-separated text. -/
theorem fitsTags_of_valid {tags : List String} (hne : tags ≠ [])
    (htags : ∀ t ∈ tags, validateTag t = none) : FitsTags tags :=
  ⟨hne, fun t ht => Store.comma_notMem_of_validateTag (htags t ht)⟩

/-- The one frontend of a row. -/
theorem map_image_frontends (ff : FrontendStore) (image : String) :
    ((ff.getFrontends [image]).take 1).map InstanceConfig.image = [image] := by
  rw [List.map_take, FrontendStore.map_image_getFrontends]
  rfl

/-- A valid event with valid exercise tags comes back from its row the same if and only if it has
one frontend and some disabled exercises, no comma in these, and counts of 32 bits. -/
theorem generateEventConfig_same_iff (ff : FrontendStore) (conf : Store.EventConfig)
    (hvalid : conf.validate = none)
    (htags : ∀ t ∈ conf.lab.exercises, validateTag t = none) (row : AddEventRequest)
    (hrow : createEventFromConfig conf = some row) (status : Int32) (vpnAddress : String) :
    SameEvent conf (generateEventConfig ff row status vpnAddress) ↔ FitsRow conf := by
  obtain ⟨-, -, -, hexercises, -⟩ := Store.EventConfig.validate_eq_none.mp hvalid
  have hfits : splitTags (joinTags conf.lab.exercises) = conf.lab.exercises :=
    splitTags_joinTags_iff.mpr (fitsTags_of_valid hexercises htags)
  unfold createEventFromConfig at hrow
  split at hrow
  · cases hrow
  · next frontend rest hfrontends =>
    cases hrow
    -- The row keeps the first frontend only.
    have hone : conf.lab.frontends.length = 1 ↔ rest = [] := by simp [hfrontends]
    have himages : [frontend.image] = conf.lab.frontends.map InstanceConfig.image ↔
        conf.lab.frontends.length = 1 := by
      rw [hone, hfrontends, List.map_cons]
      constructor
      · intro heq
        exact List.map_eq_nil_iff.mp (List.cons.inj heq).2.symm
      · rintro rfl
        rfl
    constructor
    · intro h
      refine ⟨?_, splitTags_joinTags_iff.mp h.disabledExercises,
        toInt_ofInt_iff.mp h.available, toInt_ofInt_iff.mp h.capacity⟩
      rw [← himages, ← map_image_frontends ff frontend.image]
      exact h.frontends
    · intro h
      refine ⟨hfits, splitTags_joinTags_iff.mpr h.disabledExercises, ?_,
        toInt_ofInt_iff.mpr h.available, toInt_ofInt_iff.mpr h.capacity, rfl, rfl, rfl⟩
      rw [← himages.mpr h.frontends]
      exact map_image_frontends ff frontend.image

/-- An event with one frontend, whose exercise has a disabled challenge. -/
def rowEvent : Store.EventConfig where
  name := "Demo"
  tag := "demo"
  available := 2
  capacity := 10
  lab :=
    { frontends := [{ image := "kali", memoryMB := 4096 }]
      exercises := ["sql-1", "xss"]
      disabledExercises := ["xss"] }
  startedAt := Time.zero
  finishExpected := Time.zero
  status := 0
  createdBy := "tkp"
  onlyVPN := 0
  vpnAddress := ""
  secretKey := ""

/-- An event that fits is read back from its row. -/
theorem generateEventConfig_same_row :
    SameEvent rowEvent (generateEventConfig (newFrontendsFile [])
      ((createEventFromConfig rowEvent).get rfl) 0 "") :=
  (generateEventConfig_same_iff (newFrontendsFile []) rowEvent (by decide) (by decide)
    ((createEventFromConfig rowEvent).get rfl) (Option.some_get _).symm 0 "").mpr
    ⟨rfl, by decide, by decide, by decide⟩

/-- An event without disabled exercises comes back with the disabled exercise `""`. -/
theorem generateEventConfig_not_same :
    ¬ ∀ (ff : FrontendStore) (conf : Store.EventConfig) (row : AddEventRequest)
      (status : Int32) (vpnAddress : String), conf.validate = none → conf.lab.exercises.Nodup →
      (∀ t ∈ conf.lab.exercises, validateTag t = none) →
      createEventFromConfig conf = some row →
      SameEvent conf (generateEventConfig ff row status vpnAddress) := by
  intro h
  have hsame := h (newFrontendsFile [])
    { rowEvent with lab := { rowEvent.lab with disabledExercises := [] } } _ 0 ""
    (by decide) (by decide) (by decide) rfl
  have hdisabled := hsame.disabledExercises
  revert hdisabled
  decide

end Haaukins.Daemon
