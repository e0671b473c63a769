import Haaukins.Lib.Machine
import Haaukins.Store.Team

/-!
# `Haaukins.Store.TeamIndexes`: the three maps of the team store (`store/team.go`)

`teamstore` finds a team by its id, by its name and by a session token. Its calls hold the
lock of the store from end to end, so a run is a list of calls (`teamCalls`). It starts with
the teams that `NewEventStore` loads.

* `TeamIndexes.Agree` says that the maps describe the same teams. `SaveTeam` breaks it when it
  gets the id of a stored team, because it only looks for the name. `SaveTokenForTeam` breaks
  it for a team that is not stored, and `DeleteTeam` for a team with a token.
* `TeamCall.Atomic` says that a call with an error changes nothing. `SaveTeam` and `DeleteTeam`
  change the maps before they ask the service, so each error of the service breaks it.
-/

set_option autoImplicit false

namespace Haaukins.Store

/-- `teamstore`, with the ids of the teams by their tokens. -/
structure TeamIndexes extends TeamStore where
  tokens : GoMap String String

/-- `UnknownTokenErr`. -/
def unknownTokenErr : String := "Unknown token"

/-- The error of `EmptyVarErr{Var: "Token"}`. -/
def emptyTokenErr : String := "Token cannot be empty"

namespace TeamIndexes

variable (es : TeamIndexes)

/-- `SaveTeam`. -/
def saveTeam (t : Team) (db : Option String) : TeamIndexes × Option String :=
  ({ es with toTeamStore := (es.toTeamStore.saveTeam t db).1 }, (es.toTeamStore.saveTeam t db).2)

/-- `DeleteTeam` for a team that its caller, `event.DeleteTeam`, has found with `GetTeamByID`. For
an unknown id the code panics, and the state stays as it is here. -/
def deleteTeam (tId : String) (db : Option String) : TeamIndexes × Option String :=
  ({ es with toTeamStore := (es.toTeamStore.deleteTeam tId db).1 },
    (es.toTeamStore.deleteTeam tId db).2)

/-- `SaveTokenForTeam`. -/
def saveTokenForTeam (token : String) (t : Team) : TeamIndexes × Option String :=
  if token = "" then (es, some emptyTokenErr)
  else if t.id = "" then (es, some ("SaveTokenForTeam function error " ++ unknownTeamErr))
  else ({ es with tokens := es.tokens.set token t.id }, none)

/-- `GetTeamByToken`. -/
def getTeamByToken (token : String) : Except String Team :=
  match es.tokens.get? token with
  | none => .error unknownTokenErr
  | some id =>
    match es.teams.get? id with
    | none => .error ("GetTeamByToken function error " ++ unknownTeamErr)
    | some t => .ok t

/-- The body of the loop of `NewEventStore`, for the id and the name of one team of the
database. The team has the connection of the store. -/
def load (getToken : String → String → String) (row : String × String) : TeamIndexes :=
  { teams := es.teams.set row.1 { newTeam row.1 row.2 with dbc := true }
    names := es.names.set row.2 row.1
    keyed := es.keyed.set rfl
    tokens := es.tokens.set (getToken row.1 row.2) row.1 }

/-- `NewTeamStore`. -/
def new : TeamIndexes := { TeamStore.new with tokens := ∅ }

end TeamIndexes

/-- The team store of `NewEventStore`. `getToken` is `GetTokenForTeam` for the key of the
store. -/
def newEventStore (getToken : String → String → String) (rows : List (String × String)) :
    TeamIndexes :=
  rows.foldl (fun es row => es.load getToken row) .new

/-- A call on the team store, with the answer of the service. -/
inductive TeamCall where
  | saveTeam (t : Team) (db : Option String)
  | saveTokenForTeam (token : String) (t : Team)
  | deleteTeam (tId : String) (db : Option String)

/-- The store after a call, and the error of the call. -/
def TeamCall.call (es : TeamIndexes) : TeamCall → TeamIndexes × Option String
  | .saveTeam t db => es.saveTeam t db
  | .saveTokenForTeam token t => es.saveTokenForTeam token t
  | .deleteTeam tId db => es.deleteTeam tId db

/-- The teams of the database have distinct ids and distinct names. -/
def DistinctRows (rows : List (String × String)) : Prop :=
  (rows.map Prod.fst).Nodup ∧ (rows.map Prod.snd).Nodup

/-- The team store of an event, and the calls on it. -/
def teamCalls : Machine TeamIndexes TeamCall where
  init es := ∃ getToken rows, DistinctRows rows ∧ es = newEventStore getToken rows
  step es a := some (a.call es).1

/-- A step is one call. -/
theorem teamCalls_step {es es' : TeamIndexes} {a : TeamCall} :
    teamCalls.step es a = some es' ↔ (a.call es).1 = es' := by
  simp [teamCalls]

/-! ### The maps agree -/

namespace TeamIndexes

/-- The names and the tokens lead to stored teams, and each stored team is found by its
name. -/
structure Agree (es : TeamIndexes) : Prop where
  names : ∀ n id, es.names.get? n = some id ↔ ∃ t, es.teams.get? id = some t ∧ t.name = n
  tokens : ∀ token id, es.tokens.get? token = some id → id ∈ es.teams

/-- The id of a new team is new, a token is for a stored team, and a deleted team has no
token. -/
def Fresh (es : TeamIndexes) : TeamCall → Prop
  | .saveTeam t _ => t.name ∉ es.names → t.id ∉ es.teams
  | .saveTokenForTeam token t => token ≠ "" → t.id ≠ "" → t.id ∈ es.teams
  | .deleteTeam tId _ => tId ∈ es.teams → ∀ token, es.tokens.get? token ≠ some tId

instance decidableFresh (es : TeamIndexes) : ∀ a, Decidable (es.Fresh a)
  | .saveTeam t _ => inferInstanceAs (Decidable (t.name ∉ es.names → t.id ∉ es.teams))
  | .saveTokenForTeam token t =>
    inferInstanceAs (Decidable (token ≠ "" → t.id ≠ "" → t.id ∈ es.teams))
  | .deleteTeam tId _ =>
    decidable_of_iff (tId ∈ es.teams → tId ∉ es.tokens.values) (by simp [Fresh, GoMap.mem_values])

/-- A successful `SaveTeam` leaves the teams that were stored before retrievable. -/
def KeepsTeams (es : TeamIndexes) : TeamCall → Prop
  | .saveTeam t db => (es.saveTeam t db).2 = none →
      (∀ id x, es.getTeamByID id = .ok x → (es.saveTeam t db).1.getTeamByID id = .ok x) ∧
      ∀ n x, es.getTeamByUsername n = .ok x → (es.saveTeam t db).1.getTeamByUsername n = .ok x
  | _ => True

/-- The service answers without an error. -/
def Succeeds (_ : TeamIndexes) : TeamCall → Prop
  | .saveTeam _ db | .deleteTeam _ db => db = none
  | .saveTokenForTeam _ _ => True

instance (es : TeamIndexes) : ∀ a, Decidable (es.Succeeds a) := by
  intro a
  cases a <;> dsimp only [Succeeds] <;> infer_instance

variable {es es' : TeamIndexes} {a : TeamCall}

/-- A team is found by its id. -/
theorem getTeamByID_eq_ok {es : TeamStore} {id : String} {t : Team} :
    es.getTeamByID id = .ok t ↔ es.teams.get? id = some t := by
  unfold TeamStore.getTeamByID
  split <;> simp_all

/-- A team is found by its name, through its id. -/
theorem getTeamByUsername_eq_ok {es : TeamStore} {n : String} {t : Team} :
    es.getTeamByUsername n = .ok t ↔
      ∃ id, es.names.get? n = some id ∧ es.teams.get? id = some t := by
  rw [← Option.bind_eq_some_iff]
  unfold TeamStore.getTeamByUsername
  cases (es.names.get? n).bind es.teams.get? <;> simp

/-- `SaveTokenForTeam` leaves the teams alone. -/
theorem saveTokenForTeam_teams (token : String) (t : Team) :
    (es.saveTokenForTeam token t).1.teams = es.teams := by
  unfold TeamIndexes.saveTokenForTeam
  split
  · rfl
  split <;> rfl

/-- When the maps agree, each token leads to its team. -/
theorem Agree.getTeamByToken (h : es.Agree) {token id : String}
    (htoken : es.tokens.get? token = some id) : ∃ t, es.getTeamByToken token = .ok t := by
  obtain ⟨t, ht⟩ := GoMap.mem_iff_get?.mp (h.tokens token id htoken)
  exact ⟨t, by simp [TeamIndexes.getTeamByToken, htoken, ht]⟩

/-- A team with a new id and a new name joins both maps. -/
theorem Agree.add (h : es.Agree) {t : Team} (hid : t.id ∉ es.teams) (hname : t.name ∉ es.names)
    (hteams : ∀ id, es'.teams.get? id = if id = t.id then some t else es.teams.get? id)
    (hnames : ∀ n, es'.names.get? n = if n = t.name then some t.id else es.names.get? n)
    (htokens : ∀ token id, es'.tokens.get? token = some id → id = t.id ∨ id ∈ es.teams) :
    es'.Agree := by
  have hmem : ∀ id, id = t.id ∨ id ∈ es.teams → id ∈ es'.teams := by
    intro id hid'
    rw [GoMap.mem_iff_get?, hteams]
    split
    · exact ⟨t, rfl⟩
    · next hne => exact GoMap.mem_iff_get?.mp (hid'.resolve_left hne)
  -- No stored team has the new name, so the two entries that are added belong together.
  have hother : ∀ id x, es.teams.get? id = some x → x.name ≠ t.name := by
    intro id x hx heq
    exact hname (GoMap.mem_iff_get?.mpr ⟨id, (h.names _ id).mpr ⟨x, hx, heq⟩⟩)
  have hfree : ∀ n, es.names.get? n ≠ some t.id := by
    intro n hn
    obtain ⟨x, hx, -⟩ := (h.names n t.id).mp hn
    exact hid (GoMap.mem_iff_get?.mpr ⟨x, hx⟩)
  refine ⟨fun n id => ?_, fun token id hid' => hmem id (htokens token id hid')⟩
  rw [hnames, hteams]
  -- Either side of the equivalence is at its new entry or at an old one.
  by_cases hn : n = t.name
  · subst hn
    by_cases hi : id = t.id
    · simp [hi]
    · simp only [if_true, Option.some.injEq, if_neg hi]
      exact ⟨fun heq => absurd heq.symm hi, fun ⟨x, hx, heq⟩ => absurd heq (hother id x hx)⟩
  · by_cases hi : id = t.id
    · subst hi
      simp only [if_neg hn, if_true, Option.some.injEq]
      exact ⟨fun heq => absurd heq (hfree n), fun ⟨x, hx, heq⟩ => absurd (hx ▸ heq.symm) hn⟩
    · simp only [if_neg hn, if_neg hi]
      exact h.names n id

/-- A team without a token leaves both maps. -/
theorem Agree.deleteTeam (h : es.Agree) {tId : String} {db : Option String}
    (hfree : tId ∈ es.teams → ∀ token, es.tokens.get? token ≠ some tId) :
    (es.deleteTeam tId db).1.Agree := by
  unfold TeamIndexes.deleteTeam TeamStore.deleteTeam
  split
  · exact h
  · next team hteam =>
    have hmem : tId ∈ es.teams := GoMap.mem_iff_get?.mpr ⟨team, hteam⟩
    refine ⟨fun n id => ?_, fun token id hid => ?_⟩
    · simp only [GoMap.get?_delete]
      by_cases hn : n = team.name
      · subst hn
        simp only [if_true, reduceCtorEq, false_iff]
        rintro ⟨x, hx, heq⟩
        split at hx
        · cases hx
        · next hne =>
          -- The name of the deleted team would lead to a second team.
          have hsame := ((h.names _ id).mpr ⟨x, hx, heq⟩).symm.trans
            ((h.names _ tId).mpr ⟨team, hteam, rfl⟩)
          exact hne (Option.some.inj hsame)
      · rw [if_neg hn, h.names n id]
        refine exists_congr fun x => and_congr_left fun heq => ?_
        have hne : es.teams.get? id = some x → id ≠ tId := by
          rintro hx rfl
          cases hteam.symm.trans hx
          exact hn heq.symm
        constructor
        · intro hx
          rw [if_neg (hne hx), hx]
        · intro hx
          split at hx
          · cases hx
          · exact hx
    · refine GoMap.mem_delete.mpr ⟨?_, h.tokens token id hid⟩
      rintro rfl
      exact hfree hmem token hid

/-- A new team enters both indexes. -/
theorem Agree.saveTeam (h : es.Agree) {t : Team} {db : Option String}
    (hfresh : t.name ∉ es.names → t.id ∉ es.teams) : (es.saveTeam t db).1.Agree := by
  by_cases hname : t.name ∈ es.names
  · -- `TeamExistsErr`: the store stays as it is.
    have hsame : (es.saveTeam t db).1 = es := by
      simp [TeamIndexes.saveTeam, TeamStore.saveTeam, hname]
    rw [hsame]
    exact h
  · refine h.add (t := { t with dbc := t.dbc || db.isNone }) (hfresh hname) hname ?_ ?_ ?_
    · intro id
      simp [TeamIndexes.saveTeam, TeamStore.get?_saveTeam, hname]
    · intro n
      simp [TeamIndexes.saveTeam, TeamStore.names_saveTeam, hname, GoMap.get?_set]
    · exact fun token id hid => .inr (h.tokens token id hid)

/-- A token is stored for a team of the store. -/
theorem Agree.saveTokenForTeam (h : es.Agree) {token : String} {t : Team}
    (hstored : token ≠ "" → t.id ≠ "" → t.id ∈ es.teams) :
    (es.saveTokenForTeam token t).1.Agree := by
  unfold TeamIndexes.saveTokenForTeam
  split
  · exact h
  split
  · exact h
  · next htoken hid =>
    refine ⟨h.names, fun token' id hid' => ?_⟩
    simp only [GoMap.get?_set] at hid'
    split at hid'
    · cases hid'
      exact hstored htoken hid
    · exact h.tokens token' id hid'

/-- Each call with new ids and names keeps the indexes together. -/
theorem Agree.step (h : es.Agree) (hfresh : es.Fresh a)
    (hs : teamCalls.step es a = some es') : es'.Agree := by
  rw [teamCalls_step] at hs
  subst hs
  cases a with
  | saveTeam t db => exact h.saveTeam hfresh
  | saveTokenForTeam token t => exact h.saveTokenForTeam hfresh
  | deleteTeam tId db => exact h.deleteTeam hfresh

/-- The indexes of a new store are empty. -/
theorem agree_new : TeamIndexes.new.Agree := by
  constructor <;> simp [TeamIndexes.new, TeamStore.new]

/-- The loop of `NewEventStore` keeps the maps in agreement while the rows are new. -/
theorem Agree.load_foldl {getToken : String → String → String} {rows : List (String × String)}
    (hrows : DistinctRows rows) :
    ∀ {es : TeamIndexes}, es.Agree → (∀ row ∈ rows, row.1 ∉ es.teams ∧ row.2 ∉ es.names) →
      (rows.foldl (fun es row => es.load getToken row) es).Agree := by
  induction rows with
  | nil => exact fun h _ => h
  | cons row rows ih =>
    intro es h hnew
    obtain ⟨⟨hid, hids⟩, hname, hnames⟩ := And.imp List.nodup_cons.mp List.nodup_cons.mp hrows
    obtain ⟨hrow, hrest⟩ := List.forall_mem_cons.mp hnew
    have hload : (es.load getToken row).Agree := by
      refine h.add (t := { newTeam row.1 row.2 with dbc := true }) hrow.1 hrow.2 ?_ ?_ ?_
      · exact fun id => GoMap.get?_set _ _ _ _
      · exact fun n => GoMap.get?_set _ _ _ _
      · intro token id hid'
        simp only [load, GoMap.get?_set] at hid'
        split at hid'
        · exact .inl (Option.some.inj hid').symm
        · exact .inr (h.tokens token id hid')
    -- The later rows differ from this one, so they are still new.
    refine ih ⟨hids, hnames⟩ hload fun row' hrow' => ⟨fun hmem => ?_, fun hmem => ?_⟩
    · rcases GoMap.mem_set.mp hmem with heq | hmem
      · exact hid (heq ▸ List.mem_map_of_mem hrow')
      · exact (hrest row' hrow').1 hmem
    · rcases GoMap.mem_set.mp hmem with heq | hmem
      · exact hname (heq ▸ List.mem_map_of_mem hrow')
      · exact (hrest row' hrow').2 hmem

/-- So are those of the first state. -/
theorem agree_init (hs : teamCalls.init es) : es.Agree := by
  obtain ⟨getToken, rows, hrows, rfl⟩ := hs
  refine agree_new.load_foldl hrows fun row _ => ⟨?_, ?_⟩ <;>
    exact GoMap.get?_eq_none.mp (by simp [TeamIndexes.new, TeamStore.new])

/-- Any other call leaves an entry that leads to the wrong team, or to none. -/
theorem not_agree_step (h : es.Agree) (hnot : ¬ es.Fresh a)
    (hs : teamCalls.step es a = some es') : ¬ es'.Agree := by
  rw [teamCalls_step] at hs
  subst hs
  intro hagree
  cases a with
  | saveTeam t db =>
    simp only [Fresh, not_forall, not_not] at hnot
    obtain ⟨hname, hid⟩ := hnot
    obtain ⟨old, hold⟩ := GoMap.mem_iff_get?.mp hid
    have hne : old.name ≠ t.name := by
      intro heq
      exact hname (GoMap.mem_iff_get?.mpr ⟨t.id, (h.names _ _).mpr ⟨old, hold, heq⟩⟩)
    -- The name of the old team still leads to its id, where the new team stands now.
    have hentry : (es.saveTeam t db).1.names.get? old.name = some t.id := by
      simp only [TeamIndexes.saveTeam, TeamStore.names_saveTeam, if_neg hname, GoMap.get?_set,
        if_neg hne]
      exact (h.names _ _).mpr ⟨old, hold, rfl⟩
    obtain ⟨x, hx, heq⟩ := (hagree.names _ _).mp hentry
    simp only [TeamCall.call, TeamIndexes.saveTeam, TeamStore.get?_saveTeam, hname,
      not_false_eq_true, and_self, if_true, Option.some.injEq] at hx
    exact hne (heq.symm.trans (hx ▸ rfl))
  | saveTokenForTeam token t =>
    simp only [Fresh, not_forall] at hnot
    obtain ⟨htoken, hid, hout⟩ := hnot
    -- The new entry of `tokens` leads to a team that is not stored.
    have hentry : (es.saveTokenForTeam token t).1.tokens.get? token = some t.id := by
      simp [TeamIndexes.saveTokenForTeam, htoken, hid]
    have hmem := hagree.tokens token t.id hentry
    simp only [TeamCall.call, TeamIndexes.saveTokenForTeam, if_neg htoken, if_neg hid] at hmem
    exact hout hmem
  | deleteTeam tId db =>
    simp only [Fresh, not_forall, not_not] at hnot
    obtain ⟨-, token, htoken⟩ := hnot
    -- `DeleteTeam` leaves `tokens` alone, and the token leads to the deleted team.
    have hmem := hagree.tokens token tId htoken
    exact (TeamStore.mem_deleteTeam.mp hmem).1 rfl

/-- A team with a new id takes no entry away from another team. -/
theorem keepsTeams_of_fresh (hfresh : es.Fresh a) : es.KeepsTeams a := by
  cases a with
  | saveTeam t db =>
    intro hok
    have hname : t.name ∉ es.names := by
      intro hmem
      simp [TeamIndexes.saveTeam, TeamStore.saveTeam, hmem] at hok
    have hid : t.id ∉ es.teams := hfresh hname
    have hkept : ∀ id x, es.teams.get? id = some x →
        (es.saveTeam t db).1.teams.get? id = some x := by
      intro id x hx
      have hne : id ≠ t.id := by
        rintro rfl
        exact hid (GoMap.mem_iff_get?.mpr ⟨x, hx⟩)
      simp [TeamIndexes.saveTeam, TeamStore.get?_saveTeam, hne, hx]
    refine ⟨fun id x => ?_, fun n x => ?_⟩
    · rw [getTeamByID_eq_ok, getTeamByID_eq_ok]
      exact hkept id x
    · rw [getTeamByUsername_eq_ok, getTeamByUsername_eq_ok]
      rintro ⟨id, hn, hx⟩
      refine ⟨id, ?_, hkept id x hx⟩
      have hne : n ≠ t.name := by
        rintro rfl
        exact hname (GoMap.mem_iff_get?.mpr ⟨id, hn⟩)
      simp [TeamIndexes.saveTeam, TeamStore.names_saveTeam, hname, GoMap.get?_set, hne, hn]
  | _ => trivial

end TeamIndexes

/-- When the service answers without errors, the maps agree and no signup hides a team along a
run if and only if each new team has a new id, each token is for a stored team, and each
deleted team has no token. -/
theorem teamCalls_agree_iff (es : TeamIndexes) (hs : teamCalls.init es) (as : List TeamCall)
    (hdb : teamCalls.AllSteps TeamIndexes.Succeeds es as) :
    (teamCalls.AllStates TeamIndexes.Agree es as ∧
        teamCalls.AllSteps TeamIndexes.KeepsTeams es as) ↔
      teamCalls.AllSteps TeamIndexes.Fresh es as := by
  have hagree : teamCalls.AllStates TeamIndexes.Agree es as ↔
      teamCalls.AllSteps TeamIndexes.Fresh es as :=
    Machine.allStates_iff_allSteps (A := TeamIndexes.Succeeds) (fun _ h => h)
      (fun _ _ _ h _ hfresh hs => h.step hfresh hs)
      (fun _ _ _ h _ hnot hs => TeamIndexes.not_agree_step h hnot hs)
      (TeamIndexes.agree_init hs) hdb
  rw [hagree, and_iff_left_of_imp]
  exact Machine.AllSteps.mono fun _ _ => TeamIndexes.keepsTeams_of_fresh

/-- One team is loaded, and a second one signs up, gets its token and is never deleted. -/
theorem teamCalls_agree_signup :
    teamCalls.AllStates TeamIndexes.Agree (newEventStore (fun id _ => id) [("ab", "kali")])
        [.saveTeam (newTeam "cd" "parrot") none, .saveTokenForTeam "x" (newTeam "cd" "parrot")] ∧
      teamCalls.AllSteps TeamIndexes.KeepsTeams
        (newEventStore (fun id _ => id) [("ab", "kali")])
        [.saveTeam (newTeam "cd" "parrot") none,
          .saveTokenForTeam "x" (newTeam "cd" "parrot")] := by
  exact (teamCalls_agree_iff _ ⟨fun id _ => id, [("ab", "kali")], by simp [DistinctRows], rfl⟩ _
    (by decide)).mpr (by decide)

/-- A team that has signed up is deleted, and its token leads to no team. -/
theorem teamCalls_not_agree :
    ¬ ∀ (es : TeamIndexes) (as : List TeamCall), teamCalls.init es →
      teamCalls.AllSteps TeamIndexes.Succeeds es as →
        teamCalls.AllStates TeamIndexes.Agree es as ∧
          teamCalls.AllSteps TeamIndexes.KeepsTeams es as := by
  intro h
  have hall := (h (newEventStore (fun id _ => id) [("ab", "kali")]) [.deleteTeam "ab" none]
    ⟨fun id _ => id, [("ab", "kali")], by simp [DistinctRows], rfl⟩ (by decide)).1
  have hagree : TeamIndexes.Agree _ := (hall.2 _ rfl)
  exact absurd (hagree.tokens "ab" "ab" (by decide)) (by decide)

/-! ### Calls that return an error -/

namespace TeamIndexes

/-- A call that returns an error leaves the maps as they are. -/
def Atomic (es : TeamIndexes) (a : TeamCall) : Prop := (a.call es).2 ≠ none → (a.call es).1 = es

/-- Each team that a lookup returns has a connection to the service. -/
def HasDbc (es : TeamIndexes) : Prop :=
  (∀ id t, es.getTeamByID id = .ok t → t.dbc = true) ∧
    ∀ n t, es.getTeamByUsername n = .ok t → t.dbc = true

/-- The service returns no error to a call that has changed the maps. -/
def Answers (es : TeamIndexes) : TeamCall → Prop
  | .saveTeam t db => t.name ∉ es.names → db = none
  | .deleteTeam tId db => tId ∈ es.teams → db = none
  | .saveTokenForTeam _ _ => True

instance (es : TeamIndexes) : ∀ a, Decidable (es.Answers a) := by
  intro a
  cases a <;> dsimp only [Answers] <;> infer_instance

variable {es es' : TeamIndexes} {a : TeamCall}

/-- `SaveTeam` writes before it asks the service. -/
theorem atomic_saveTeam_iff {t : Team} {db : Option String} :
    es.Atomic (.saveTeam t db) ↔ (t.name ∉ es.names → db = none) := by
  constructor
  · intro h hname
    by_contra hdb
    have herr : (TeamCall.call es (.saveTeam t db)).2 ≠ none := by
      cases db <;> simp_all [TeamCall.call, TeamIndexes.saveTeam, TeamStore.saveTeam]
    have hsame : (es.saveTeam t db).1 = es := h herr
    -- The name is in the map after the call, and it was not there before.
    have hmem : t.name ∈ (es.saveTeam t db).1.names := by
      simp [TeamIndexes.saveTeam, TeamStore.names_saveTeam, hname, GoMap.mem_set]
    rw [hsame] at hmem
    exact hname hmem
  · intro h herr
    by_cases hname : t.name ∈ es.names
    · -- `TeamExistsErr` comes before the maps are touched.
      simp [TeamCall.call, TeamIndexes.saveTeam, TeamStore.saveTeam, hname]
    · -- The service answers, so the call has no error.
      cases h hname
      simp [TeamCall.call, TeamIndexes.saveTeam, TeamStore.saveTeam, hname] at herr

/-- So does `DeleteTeam`. -/
theorem atomic_deleteTeam_iff {tId : String} {db : Option String} :
    es.Atomic (.deleteTeam tId db) ↔ (tId ∈ es.teams → db = none) := by
  constructor
  · intro h hmem
    by_contra hdb
    obtain ⟨t, ht⟩ := GoMap.mem_iff_get?.mp hmem
    have herr : (TeamCall.call es (.deleteTeam tId db)).2 ≠ none := by
      simpa [TeamCall.call, TeamIndexes.deleteTeam, TeamStore.deleteTeam, ht]
    have hsame : (es.deleteTeam tId db).1 = es := h herr
    -- The team is out of the map after the call, and it was in it before.
    have hout : tId ∉ (es.deleteTeam tId db).1.teams :=
      fun hmem => (TeamStore.mem_deleteTeam.mp hmem).1 rfl
    rw [hsame] at hout
    exact hout hmem
  · intro h herr
    by_cases hmem : tId ∈ es.teams
    · obtain ⟨t, ht⟩ := GoMap.mem_iff_get?.mp hmem
      have hdb : db ≠ none := by
        simpa [TeamCall.call, TeamIndexes.deleteTeam, TeamStore.deleteTeam, ht] using herr
      exact absurd (h hmem) hdb
    · -- `UnknownTeamErr` comes before the maps are touched.
      have hnone : es.teams.get? tId = none := GoMap.get?_eq_none.mpr hmem
      simp [TeamCall.call, TeamIndexes.deleteTeam, TeamStore.deleteTeam, hnone]

/-- A call is atomic exactly when the service does not fail after the maps have changed. -/
theorem atomic_iff (es : TeamIndexes) (a : TeamCall) : es.Atomic a ↔ es.Answers a := by
  cases a with
  | saveTeam t db => exact atomic_saveTeam_iff
  | deleteTeam tId db => exact atomic_deleteTeam_iff
  | saveTokenForTeam token t =>
    refine iff_of_true (fun herr => ?_) trivial
    simp only [TeamCall.call, TeamIndexes.saveTokenForTeam] at herr ⊢
    split <;> try rfl
    split <;> try rfl
    simp_all

/-- The teams in the map have a connection. -/
def Connected (es : TeamIndexes) : Prop := ∀ id t, es.teams.get? id = some t → t.dbc = true

/-- Each team of a connected store has the client of the service. -/
theorem Connected.hasDbc (h : es.Connected) : es.HasDbc := by
  refine ⟨fun id t ht => h id t (getTeamByID_eq_ok.mp ht), fun n t ht => ?_⟩
  obtain ⟨id, -, hid⟩ := getTeamByUsername_eq_ok.mp ht
  exact h id t hid

/-- Each call that the service answers keeps the store connected. -/
theorem Connected.step (h : es.Connected) (hdb : es.Answers a)
    (hs : teamCalls.step es a = some es') : es'.Connected := by
  rw [teamCalls_step] at hs
  subst hs
  cases a with
  | saveTeam t db =>
    intro id x hx
    simp only [TeamCall.call, TeamIndexes.saveTeam, TeamStore.get?_saveTeam] at hx
    split at hx
    · next hnew =>
      -- The new team gets `dbc` after the answer of the service.
      cases hx
      simp [hdb hnew.1]
    · exact h id x hx
  | deleteTeam tId db =>
    intro id x hx
    simp only [TeamCall.call, TeamIndexes.deleteTeam, TeamStore.get?_deleteTeam] at hx
    split at hx
    · cases hx
    · exact h id x hx
  | saveTokenForTeam token t =>
    intro id x hx
    exact h id x (saveTokenForTeam_teams token t ▸ hx)

/-- The teams that `NewEventStore` loads have its connection. -/
theorem connected_init (hs : teamCalls.init es) : es.Connected := by
  obtain ⟨getToken, rows, -, rfl⟩ := hs
  have hfold : ∀ es : TeamIndexes, es.Connected →
      (rows.foldl (fun es row => es.load getToken row) es).Connected := by
    induction rows with
    | nil => exact fun _ h => h
    | cons row rows ih =>
      refine fun es h => ih _ fun id t ht => ?_
      simp only [load, GoMap.get?_set] at ht
      split at ht
      · cases ht
        rfl
      · exact h id t ht
  exact hfold .new fun id t ht => by simp [TeamIndexes.new, TeamStore.new] at ht

end TeamIndexes

/-- The calls with an error change nothing, and each team has a connection along a run, if and
only if the service returns no error to a call that has changed the maps. -/
theorem teamCalls_atomic_iff (es : TeamIndexes) (hs : teamCalls.init es) (as : List TeamCall) :
    (teamCalls.AllSteps TeamIndexes.Atomic es as ∧
        teamCalls.AllStates TeamIndexes.HasDbc es as) ↔
      teamCalls.AllSteps TeamIndexes.Answers es as := by
  rw [Machine.allSteps_congr TeamIndexes.atomic_iff, and_iff_left_of_imp]
  exact Machine.AllSteps.allStates (fun _ h => h.hasDbc)
    (fun _ _ _ h hdb hs => h.step hdb hs) (TeamIndexes.connected_init hs)

/-- A signup whose name is taken can fail, and the service with it. -/
theorem teamCalls_atomic_taken :
    teamCalls.AllSteps TeamIndexes.Atomic (newEventStore (fun id _ => id) [("ab", "kali")])
        [.saveTeam (newTeam "cd" "kali") (some "unavailable"), .deleteTeam "ab" none] ∧
      teamCalls.AllStates TeamIndexes.HasDbc (newEventStore (fun id _ => id) [("ab", "kali")])
        [.saveTeam (newTeam "cd" "kali") (some "unavailable"), .deleteTeam "ab" none] :=
  (teamCalls_atomic_iff _ ⟨fun id _ => id, [("ab", "kali")], by simp [DistinctRows], rfl⟩ _).mpr
    (by decide)

/-- A signup that the service rejects leaves its team in the maps, without a connection. -/
theorem teamCalls_not_atomic :
    ¬ ∀ (es : TeamIndexes) (as : List TeamCall), teamCalls.init es →
      teamCalls.AllSteps TeamIndexes.Atomic es as ∧
        teamCalls.AllStates TeamIndexes.HasDbc es as := by
  intro h
  have hall := (h .new [.saveTeam (newTeam "cd" "kali") (some "unavailable")]
    ⟨fun id _ => id, [], by simp [DistinctRows], rfl⟩).2
  have hdbc := (hall.2 _ rfl).1 "cd" (newTeam "cd" "kali") (by decide)
  cases hdbc

end Haaukins.Store
