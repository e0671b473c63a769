import Haaukins.Lib.GoDate
import Haaukins.Lib.Machine

/-!
# `Haaukins.Store.EventDirectory`: the log directories of events (`store/event.go`)

`NewEvent` logs keys in a directory below the one of the event store. `GetDirNameForEvent` looks
for a name that does not exist there: the base name `tag-date`, then `tag-date-1` up to
`tag-date-998`. The loop leaves with the base name also when it has found a numbered one.

* `firstFree` is the name that the search should find.
* `EventDirs` is the state over a run of `NewEvent`s: the names that exist, and the directories of
  the events so far. Others may create directories too. No code of the daemon removes one.
* `keepsDirsFresh_iff` says which runs give each event the first free name and no two events of a
  tag and a day the same one.
-/

set_option autoImplicit false

namespace Haaukins.Store

/-! ## The name -/

/-- `date.Format("02-01-06")`. A year before year 0 is written as year 0. -/
def formatDay (date : Date) : String :=
  String.ofList (Date.padded 2 date.day ++ '-' :: (Date.padded 2 date.month ++ '-' ::
    Date.padded 2 (date.year.toNat % 100)))

/-- `fmt.Sprintf("%s-%s", tag, dirDate)`. -/
def baseName (tag : String) (date : Date) : String := tag ++ "-" ++ formatDay date

/-- `fmt.Sprintf("%s-%s-%d", tag, dirDate, i)`. -/
def numberedName (tag : String) (date : Date) (i : Nat) : String :=
  baseName tag date ++ "-" ++ i.repr

/-- What the end of `GetDirNameForEvent` meets in the working directory of the daemon: whether the
name is missing there, and the error of `os.MkdirAll`. -/
structure WorkingDir where
  isNotExist : Bool
  mkdirAll : Except String Unit

/-- The name is missing and cannot be created. -/
def WorkingDir.Fails (cwd : WorkingDir) : Prop :=
  cwd.isNotExist = true ∧ ∃ err, cwd.mkdirAll = .error err

/-- `GetDirNameForEvent`. `dirs` has the names that exist below `path`. -/
def getDirNameForEvent (dirs : List String) (tag : String) (date : Date) (cwd : WorkingDir) :
    Except String String :=
  if baseName tag date ∉ dirs then .ok (baseName tag date)
  else
    -- `for i := 1; i < 999; i++`
    match (List.range' 1 998).find? fun i => numberedName tag date i ∉ dirs with
    -- The loop has found a name, and returns the one from before.
    | some _ => .ok (baseName tag date)
    | none =>
      if cwd.isNotExist then
        match cwd.mkdirAll with
        | .error err => .error err
        | .ok _ => .ok (baseName tag date)
      else .ok (baseName tag date)

/-- The names that an event can have, in the order of the search. -/
def candidates (tag : String) (date : Date) : List String :=
  baseName tag date :: (List.range' 1 998).map (numberedName tag date)

/-- The first of the names that does not exist. -/
def firstFree (dirs : List String) (tag : String) (date : Date) : Option String :=
  (candidates tag date).find? fun name => name ∉ dirs

/-- A name that does not exist is found, and it is the first. -/
def FindsFirstFree (dirs : List String) (tag : String) (date : Date) (cwd : WorkingDir) : Prop :=
  ∀ name, firstFree dirs tag date = some name →
    getDirNameForEvent dirs tag date cwd = .ok name

/-! ## Runs -/

/-- The directory of an event, which `NewKeyLoggerPool` has got. -/
structure EventDir where
  tag : String
  date : Date
  dir : String
  deriving DecidableEq

/-- The names below the directory of the event store, and the directories of the events. -/
structure EventDirs where
  dirs : List String
  events : List EventDir

/-- What can happen to the directories. -/
inductive DirAction where
  /-- `NewEvent`, as far as the directory goes. `mkdirAll` is the error of `logging.NewPool`, which
  creates the directory when it does not exist. -/
  | newEvent (tag : String) (date : Date) (cwd : WorkingDir) (mkdirAll : Except String Unit)
  /-- Somebody else creates a directory. -/
  | mkdir (name : String)

/-- `NewKeyLoggerPool` with this directory, or `none` for its error. -/
def newKeyLoggerPool (dirs : List String) (dir : String) (mkdirAll : Except String Unit) :
    Option (List String) :=
  if dir ∉ dirs then
    match mkdirAll with
    | .error _ => none
    | .ok _ => some (dir :: dirs)
  else some dirs

namespace EventDirs

/-- The end of `NewEvent`. A call that fails leaves no event. -/
def newEvent (s : EventDirs) (tag : String) (date : Date) (cwd : WorkingDir)
    (mkdirAll : Except String Unit) : EventDirs :=
  match getDirNameForEvent s.dirs tag date cwd with
  | .error _ => s
  | .ok dir =>
    match newKeyLoggerPool s.dirs dir mkdirAll with
    | none => s
    | some dirs => { dirs := dirs, events := { tag := tag, date := date, dir := dir } :: s.events }

/-- The machine. It begins without events, over any directories. -/
def machine : Machine EventDirs DirAction where
  init s := s.events = []
  step
    | s, .newEvent tag date cwd mkdirAll => some (s.newEvent tag date cwd mkdirAll)
    | s, .mkdir name => some { s with dirs := name :: s.dirs }

/-- Different events of a tag and a day have different directories. -/
def Distinct (s : EventDirs) : Prop :=
  s.events.Pairwise fun ev ev' => ev.tag = ev'.tag → ev.date = ev'.date → ev.dir ≠ ev'.dir

/-- The step gives an event the first name that is free. -/
def StepFindsFirstFree (s : EventDirs) : DirAction → Prop
  | .newEvent tag date cwd _ => FindsFirstFree s.dirs tag date cwd
  | .mkdir _ => True

/-- The search does not have to go on after the base name: it is free, or no name is. In the
second case the base name is given away again, which must not meet an event that has it. -/
def StepNeedsNoNumber (s : EventDirs) : DirAction → Prop
  | .newEvent tag date cwd _ =>
    baseName tag date ∉ s.dirs ∨
      (∀ name ∈ candidates tag date, name ∈ s.dirs) ∧
        (cwd.Fails ∨
          ∀ ev ∈ s.events, ev.tag = tag → ev.date = date → ev.dir ≠ baseName tag date)
  | .mkdir _ => True

end EventDirs

/-! ## One call -/

section Call

variable {dirs : List String} {tag : String} {date : Date} {cwd : WorkingDir}

/-- No candidate is free if and only if each one is taken. -/
theorem firstFree_eq_none :
    firstFree dirs tag date = none ↔ ∀ name ∈ candidates tag date, name ∈ dirs := by
  simp [firstFree, List.find?_eq_none]

/-- The base name comes first. -/
theorem firstFree_of_base (h : baseName tag date ∉ dirs) :
    firstFree dirs tag date = some (baseName tag date) := by
  rw [firstFree, candidates, List.find?_cons_of_pos (by simpa using h)]

/-- Whatever the search has found, the base name is returned. -/
theorem getDirNameForEvent_of_free {name : String} (h : firstFree dirs tag date = some name) :
    getDirNameForEvent dirs tag date cwd = .ok (baseName tag date) := by
  by_cases hbase : baseName tag date ∉ dirs
  · exact if_pos hbase
  · rw [firstFree, candidates, List.find?_cons_of_neg (by simpa using hbase), List.find?_map] at h
    obtain ⟨i, hi, -⟩ := Option.map_eq_some_iff.mp h
    rw [getDirNameForEvent, if_neg hbase]
    show (match (List.range' 1 998).find? ((fun name => decide (name ∉ dirs)) ∘
      numberedName tag date) with
      | some _ => _
      | none => _) = _
    rw [hi]

/-- With each candidate taken the loop over the numbers finds none. -/
theorem find?_numberedName_of_full (h : ∀ name ∈ candidates tag date, name ∈ dirs) :
    ((List.range' 1 998).find? fun i => numberedName tag date i ∉ dirs) = none := by
  rw [List.find?_eq_none]
  intro i hi
  have hmem : numberedName tag date i ∈ dirs :=
    h _ (List.mem_cons_of_mem _ (List.mem_map_of_mem hi))
  simpa using hmem

/-- When no name is free, the end of the function decides. -/
theorem getDirNameForEvent_of_full (h : ∀ name ∈ candidates tag date, name ∈ dirs)
    (hcwd : ¬ cwd.Fails) :
    getDirNameForEvent dirs tag date cwd = .ok (baseName tag date) := by
  have hbase : ¬ baseName tag date ∉ dirs := fun hnot => hnot (h _ List.mem_cons_self)
  rw [getDirNameForEvent, if_neg hbase, find?_numberedName_of_full h]
  dsimp only
  split
  · next hmissing =>
    cases hmkdir : cwd.mkdirAll with
    | error err => exact absurd ⟨hmissing, err, hmkdir⟩ hcwd
    | ok _ => rfl
  · rfl

/-- With each candidate taken and a failing `Getwd` the event has no directory. -/
theorem getDirNameForEvent_of_fails (h : ∀ name ∈ candidates tag date, name ∈ dirs)
    (hcwd : cwd.Fails) : ∃ err, getDirNameForEvent dirs tag date cwd = .error err := by
  obtain ⟨hmissing, err, hmkdir⟩ := hcwd
  have hbase : ¬ baseName tag date ∉ dirs := fun hnot => hnot (h _ List.mem_cons_self)
  refine ⟨err, ?_⟩
  rw [getDirNameForEvent, if_neg hbase, find?_numberedName_of_full h]
  dsimp only
  rw [if_pos hmissing, hmkdir]

/-- The first free name is found if it is the base name, or if there is none. -/
theorem findsFirstFree_iff :
    FindsFirstFree dirs tag date cwd ↔
      baseName tag date ∉ dirs ∨ ∀ name ∈ candidates tag date, name ∈ dirs := by
  constructor
  · intro h
    cases hfree : firstFree dirs tag date with
    | none => exact .inr (firstFree_eq_none.mp hfree)
    | some name =>
      -- The call returns the base name, so the free name has to be this one.
      have hname := h name hfree
      rw [getDirNameForEvent_of_free hfree] at hname
      cases hname
      exact .inl (by simpa using List.find?_some hfree)
  · rintro (hbase | hfull) name hname
    · rw [firstFree_of_base hbase] at hname
      cases hname
      exact if_pos hbase
    · rw [firstFree_eq_none.mpr hfull] at hname
      cases hname

/-- A call that does not fail returns the base name. -/
theorem eq_baseName_of_ok {dir : String} (h : getDirNameForEvent dirs tag date cwd = .ok dir) :
    dir = baseName tag date := by
  cases hfree : firstFree dirs tag date with
  | some name =>
    rw [getDirNameForEvent_of_free hfree] at h
    cases h
    rfl
  | none =>
    have hfull := firstFree_eq_none.mp hfree
    by_cases hcwd : cwd.Fails
    · obtain ⟨err, herr⟩ := getDirNameForEvent_of_fails hfull hcwd
      rw [herr] at h
      cases h
    · rw [getDirNameForEvent_of_full hfull hcwd] at h
      cases h
      rfl

end Call

/-! ## Steps and runs -/

namespace EventDirs

variable {s t : EventDirs} {tag : String} {date : Date} {cwd : WorkingDir}
  {mkdirAll : Except String Unit}

/-- The directory of each event exists. -/
def Kept (s : EventDirs) : Prop := ∀ ev ∈ s.events, ev.dir ∈ s.dirs

/-- What `NewEvent` does: nothing when it fails, and otherwise it adds an event with the base
name. -/
theorem newEvent_cases (s : EventDirs) (tag : String) (date : Date) (cwd : WorkingDir)
    (mkdirAll : Except String Unit) :
    s.newEvent tag date cwd mkdirAll = s ∨
      ∃ dirs, getDirNameForEvent s.dirs tag date cwd = .ok (baseName tag date) ∧
        newKeyLoggerPool s.dirs (baseName tag date) mkdirAll = some dirs ∧
        s.newEvent tag date cwd mkdirAll =
          { dirs := dirs
            events := { tag := tag, date := date, dir := baseName tag date } :: s.events } := by
  unfold newEvent
  cases hdir : getDirNameForEvent s.dirs tag date cwd with
  | error err => exact .inl rfl
  | ok dir =>
    obtain rfl := eq_baseName_of_ok hdir
    dsimp only
    cases hpool : newKeyLoggerPool s.dirs (baseName tag date) mkdirAll with
    | none => exact .inl rfl
    | some dirs => exact .inr ⟨dirs, rfl, rfl, rfl⟩

/-- `MkdirAll` makes the directory and takes none away. -/
theorem subset_newKeyLoggerPool {dirs dirs' : List String} {dir : String}
    (h : newKeyLoggerPool dirs dir mkdirAll = some dirs') : dir ∈ dirs' ∧ dirs ⊆ dirs' := by
  unfold newKeyLoggerPool at h
  split at h
  · cases hmkdir : mkdirAll with
    | error err => simp [hmkdir] at h
    | ok _ =>
      simp only [hmkdir, Option.some.injEq] at h
      subst h
      exact ⟨List.mem_cons_self, List.subset_cons_self dir dirs⟩
  · next hmem =>
    cases h
    exact ⟨not_not.mp hmem, List.Subset.refl dirs⟩

/-- A step keeps the directories apart. -/
theorem Kept.step {a : DirAction} (h : s.Kept) (hstep : machine.step s a = some t) : t.Kept := by
  cases a with
  | mkdir name =>
    cases hstep
    exact fun ev hev => List.mem_cons_of_mem name (h ev hev)
  | newEvent tag date cwd mkdirAll =>
    cases hstep
    rcases s.newEvent_cases tag date cwd mkdirAll with heq | ⟨dirs, -, hpool, heq⟩
    · rwa [heq]
    · obtain ⟨hdir, hdirs⟩ := subset_newKeyLoggerPool hpool
      rw [heq]
      intro ev hev
      rcases List.mem_cons.mp hev with rfl | hev
      · exact hdir
      · exact hdirs (h ev hev)

/-- The new event is a second one with its directory when an earlier one has the base name. -/
theorem distinct_cons {dirs : List String} (h : s.Distinct) :
    Distinct { dirs := dirs
               events := { tag := tag, date := date, dir := baseName tag date } :: s.events } ↔
      ∀ ev ∈ s.events, ev.tag = tag → ev.date = date → ev.dir ≠ baseName tag date := by
  unfold Distinct
  rw [List.pairwise_cons]
  constructor
  · rintro ⟨hnew, -⟩ ev hev htag hdate heq
    exact hnew ev hev htag.symm hdate.symm heq.symm
  · intro hnew
    exact ⟨fun ev hev htag hdate heq => hnew ev hev htag.symm hdate.symm heq.symm, h⟩

/-- A step finds the first free name and keeps the events apart exactly when the search needs no
number. -/
theorem step_iff {a : DirAction} (hdistinct : s.Distinct) (hkept : s.Kept)
    (hstep : machine.step s a = some t) :
    s.StepFindsFirstFree a ∧ t.Distinct ↔ s.StepNeedsNoNumber a := by
  cases a with
  | mkdir name =>
    -- A directory that is made from outside changes no event.
    cases hstep
    exact iff_of_true ⟨trivial, hdistinct⟩ trivial
  | newEvent tag date cwd mkdirAll =>
    cases hstep
    show FindsFirstFree s.dirs tag date cwd ∧ _ ↔
      baseName tag date ∉ s.dirs ∨ (∀ name ∈ candidates tag date, name ∈ s.dirs) ∧ _
    rw [findsFirstFree_iff]
    constructor
    · rintro ⟨hbase | hfull, hnew⟩
      · exact .inl hbase
      · refine .inr ⟨hfull, ?_⟩
        by_cases hcwd : cwd.Fails
        · exact .inl hcwd
        · -- The base name exists, so the event gets it.
          have hdir := getDirNameForEvent_of_full hfull hcwd
          have hmem : baseName tag date ∈ s.dirs := hfull _ List.mem_cons_self
          have hpool : newKeyLoggerPool s.dirs (baseName tag date) mkdirAll = some s.dirs :=
            if_neg (not_not.mpr hmem)
          rw [newEvent, hdir] at hnew
          dsimp only at hnew
          rw [hpool] at hnew
          exact .inr ((distinct_cons hdistinct).mp hnew)
    -- A base name that is free is found by the search, and is new to the events.
    · intro h
      refine ⟨h.imp_right And.left, ?_⟩
      rcases s.newEvent_cases tag date cwd mkdirAll with heq | ⟨dirs, hdir, -, heq⟩
      · rwa [heq]
      · rw [heq, distinct_cons hdistinct]
        rcases h with hbase | ⟨hfull, hcwd | hother⟩
        · -- The directories of the events exist, so none of them is a free name.
          intro ev hev _ _ hev'
          exact hbase (hev' ▸ hkept ev hev)
        · obtain ⟨err, herr⟩ := getDirNameForEvent_of_fails hfull hcwd
          rw [herr] at hdir
          cases hdir
        · exact hother

/-- Over a run, each `NewEvent` finds the first free name and no two events of a tag and a day
share a directory exactly when no search needs a number. -/
theorem keepsDirsFresh_iff (dirs : List String) (as : List DirAction) :
    machine.AllSteps StepFindsFirstFree { dirs := dirs, events := [] } as ∧
        machine.AllStates Distinct { dirs := dirs, events := [] } as ↔
      machine.AllSteps StepNeedsNoNumber { dirs := dirs, events := [] } as := by
  apply Machine.allSteps_and_allStates_iff (I := fun s => s.Distinct ∧ s.Kept)
  · exact fun s hs => hs.1
  · exact fun s a t hs ht hstep => ⟨ht, hs.2.step hstep⟩
  · exact fun s a t hs hstep => step_iff hs.1 hs.2 hstep
  · exact ⟨List.Pairwise.nil, fun ev hev => absurd hev List.not_mem_nil⟩

/-- The first of March 2023. -/
def marchFirst : Date where
  year := 2023
  month := 3
  day := 1
  inRange := by decide

/-- Two events of one day. -/
def twoEvents : List DirAction :=
  [.newEvent "demo" marchFirst { isNotExist := true, mkdirAll := .ok () } (.ok ()),
    .newEvent "demo" marchFirst { isNotExist := true, mkdirAll := .ok () } (.ok ())]

/-- The second event gets the directory of the first one, though `demo-01-03-23-1` is free. -/
theorem twoEvents_share_dir :
    firstFree ["demo-01-03-23"] "demo" marchFirst = some "demo-01-03-23-1" ∧
      getDirNameForEvent ["demo-01-03-23"] "demo" marchFirst
        { isNotExist := true, mkdirAll := .ok () } = .ok "demo-01-03-23" ∧
      (machine.run { dirs := [], events := [] } twoEvents).map
        (fun s => s.events.map EventDir.dir) = some ["demo-01-03-23", "demo-01-03-23"] ∧
      ¬ machine.AllStates Distinct { dirs := [], events := [] } twoEvents := by
  have hrun : (machine.run { dirs := [], events := [] } twoEvents).map EventDirs.events =
      some [{ tag := "demo", date := marchFirst, dir := "demo-01-03-23" },
        { tag := "demo", date := marchFirst, dir := "demo-01-03-23" }] := by decide
  refine ⟨by decide, by decide, by decide, fun h => ?_⟩
  obtain ⟨s, hevents, hdistinct⟩ := h.of_run EventDirs.events _ hrun
  rw [Distinct, hevents, List.pairwise_cons] at hdistinct
  exact hdistinct.1 _ List.mem_cons_self rfl rfl rfl

end EventDirs

end Haaukins.Store
