import Haaukins.Store.TeamLocks

/-!
# `Haaukins.Store.PasswordUpdate`: a new password for a team (`store/team.go`)

`UpdatePass` hashes the new password, keeps the hash in the team and sends it to the store
service. `bcrypt` and the client of the service are arguments. The mutexes are in
`Haaukins.Store.TeamLocks`, and `updatePass_locked` connects the two.

* The error of `bcrypt.GenerateFromPassword` is dropped, and the hash is then empty.
* The team has its new hash before the service has answered. `updatePass_atomic_iff` says when
  the update still happens as a whole or not at all.
* `updateTeamPassword` is the same for a team of an event.
-/

set_option autoImplicit false

namespace Haaukins.Store

/-- `bcrypt`. A hash is made with a salt, which is random. -/
structure Bcrypt where
  generateFromPassword (salt password : String) : Except String String
  compareHashAndPassword (hash password : String) : Bool

namespace Bcrypt

/-- A hash accepts its own password and no other, and the empty text is no hash. -/
structure Exact (bcrypt : Bcrypt) : Prop where
  own : ∀ {salt password hash : String}, bcrypt.generateFromPassword salt password = .ok hash →
    ∀ p, bcrypt.compareHashAndPassword hash p = true ↔ p = password
  empty : ∀ p, bcrypt.compareHashAndPassword "" p = false

/-- `hPass, _ := bcrypt.GenerateFromPassword([]byte(pass), bcrypt.DefaultCost)`. -/
def hPass (bcrypt : Bcrypt) (salt pass : String) : String :=
  match bcrypt.generateFromPassword salt pass with
  | .ok hash => hash
  | .error _ => ""

end Bcrypt

/-- `pbc.UpdateTeamPassRequest`. -/
structure UpdateTeamPassRequest where
  encryptedPass : String
  teamID : String
  eventID : Int
  deriving DecidableEq, Repr

/-- The two calls of `dbc` that an update makes. -/
structure PassClient where
  getEventID (evTag : String) : Except String Int
  updateTeamPassword (req : UpdateTeamPassRequest) : Option String

/-- What `UpdatePass` leaves: the team, the request that it sent, and what it returned unless it
panicked. -/
structure PassUpdate where
  team : TeamObject
  sent : Option UpdateTeamPassRequest
  result : Option (Option String)

/-- The error of `UpdatePass` for two passwords that differ. -/
def passwordsErr : String := "Passwords DOES NOT match !"

namespace TeamObject

variable (team : TeamObject) (bcrypt : Bcrypt) (dbc : PassClient) (salt : String)

/-- `IsPasswordEqual`. -/
def isPasswordEqual (pass : String) : Bool :=
  bcrypt.compareHashAndPassword team.hashedPassword pass

/-- The request of `UpdatePass`, with `int32(eventID)`. -/
def passRequest (pass : String) (eventID : Int) : UpdateTeamPassRequest where
  encryptedPass := bcrypt.hPass salt pass
  teamID := team.id
  eventID := eventID.bmod (2 ^ 32)

/-- `UpdatePass`. -/
def updatePass (pass passRepeat evTag : String) : PassUpdate :=
  if pass ≠ passRepeat then
    { team := team, sent := none, result := some (some passwordsErr) }
  else if !team.dbc then
    -- `GetEventID` is called on nil.
    { team := team, sent := none, result := none }
  else
    match dbc.getEventID evTag with
    | .error err => { team := team, sent := none, result := some (some err) }
    | .ok eventID =>
      { team := { team with hashedPassword := bcrypt.hPass salt pass }
        sent := some (team.passRequest bcrypt salt pass eventID)
        result := some (dbc.updateTeamPassword (team.passRequest bcrypt salt pass eventID)) }

end TeamObject

/-- An update of the password happens as a whole or not at all: an error leaves the passwords
that are accepted, and without an error the hash was sent and accepts exactly the new one. -/
structure PassUpdate.Atomic (u : PassUpdate) (bcrypt : Bcrypt) (before : TeamObject)
    (pass : String) : Prop where
  failed : ∀ err, u.result = some (some err) →
    ∀ p, u.team.isPasswordEqual bcrypt p = before.isPasswordEqual bcrypt p
  updated : u.result = some none →
    u.sent.map UpdateTeamPassRequest.encryptedPass = some u.team.hashedPassword ∧
      ∀ p, u.team.isPasswordEqual bcrypt p = true ↔ p = pass

section
variable (team : TeamObject) (bcrypt : Bcrypt) (dbc : PassClient) (salt : String)

/-- The update sets a hash: the passwords agree, there is a client, and the event has an id. -/
def SetsHash (pass passRepeat evTag : String) (eventID : Int) : Prop :=
  pass = passRepeat ∧ team.dbc = true ∧ dbc.getEventID evTag = .ok eventID

/-- The service takes the hash, or what it accepts was accepted before. -/
def HashSettles (pass : String) (eventID : Int) : Prop :=
  match bcrypt.generateFromPassword salt pass,
    dbc.updateTeamPassword (team.passRequest bcrypt salt pass eventID) with
  | .ok _, none => True
  | .ok _, some _ => ∀ p, team.isPasswordEqual bcrypt p = true ↔ p = pass
  | .error _, none => False
  | .error _, some _ => ∀ p, team.isPasswordEqual bcrypt p = false

end

variable {team : TeamObject} {bcrypt : Bcrypt} {dbc : PassClient}
  {salt pass passRepeat evTag : String}

/-- An update that sets a hash answers with the error of the service. -/
theorem updatePass_setsHash (bcrypt : Bcrypt) (salt : String) {eventID : Int}
    (h : SetsHash team dbc pass passRepeat evTag eventID) :
    team.updatePass bcrypt dbc salt pass passRepeat evTag =
      { team := { team with hashedPassword := bcrypt.hPass salt pass }
        sent := some (team.passRequest bcrypt salt pass eventID)
        result := some (dbc.updateTeamPassword (team.passRequest bcrypt salt pass eventID)) } := by
  obtain ⟨hpass, hdbc, hevent⟩ := h
  simp [TeamObject.updatePass, hpass, hdbc, hevent]

/-- Every other update leaves the team as it was, and does not return nil. -/
theorem updatePass_keeps (bcrypt : Bcrypt) (salt : String)
    (h : ∀ eventID, ¬ SetsHash team dbc pass passRepeat evTag eventID) :
    (team.updatePass bcrypt dbc salt pass passRepeat evTag).team = team ∧
      (team.updatePass bcrypt dbc salt pass passRepeat evTag).result ≠ some none := by
  rw [TeamObject.updatePass]
  by_cases hpass : pass = passRepeat
  · by_cases hdbc : team.dbc = true
    · cases hevent : dbc.getEventID evTag with
      | error err => simp [hpass, hdbc]
      | ok eventID => exact absurd ⟨hpass, hdbc, hevent⟩ (h eventID)
    · simp [hpass, hdbc]
  · simp [hpass]

/-- What a fresh hash accepts. -/
theorem isPasswordEqual_hPass (hb : bcrypt.Exact) (team : TeamObject) (salt pass p : String) :
    ({ team with hashedPassword := bcrypt.hPass salt pass } : TeamObject).isPasswordEqual
        bcrypt p = true ↔
      (∃ hash, bcrypt.generateFromPassword salt pass = .ok hash) ∧ p = pass := by
  rw [TeamObject.isPasswordEqual, Bcrypt.hPass]
  cases hgen : bcrypt.generateFromPassword salt pass with
  | ok hash => simp [hb.own hgen]
  | error err => simp [hb.empty]

/-- An update that sets a hash is atomic if and only if the hash settles. -/
theorem atomic_setsHash_iff (hb : bcrypt.Exact) {eventID : Int}
    (hset : SetsHash team dbc pass passRepeat evTag eventID) :
    (team.updatePass bcrypt dbc salt pass passRepeat evTag).Atomic bcrypt team pass ↔
      HashSettles team bcrypt dbc salt pass eventID := by
  rw [updatePass_setsHash bcrypt salt hset, HashSettles]
  -- The new hash accepts the new password, or nothing when there is no hash.
  have hnew := isPasswordEqual_hPass hb team salt pass
  cases hgen : bcrypt.generateFromPassword salt pass with
  | ok hash =>
    simp only [hgen, Except.ok.injEq, exists_eq', true_and] at hnew
    cases hdb : dbc.updateTeamPassword (team.passRequest bcrypt salt pass eventID) with
    | none =>
      refine iff_of_true ⟨fun err h => ?_, fun _ => ⟨rfl, hnew⟩⟩ trivial
      cases h
    | some err =>
      constructor
      · intro h p
        rw [← h.failed err rfl p]
        exact hnew p
      · intro h
        refine ⟨fun _ _ p => ?_, fun hnone => by cases hnone⟩
        rw [Bool.eq_iff_iff, hnew p, h p]
  | error e =>
    simp only [hgen, reduceCtorEq, exists_false, false_and, iff_false] at hnew
    cases hdb : dbc.updateTeamPassword (team.passRequest bcrypt salt pass eventID) with
    | none =>
      refine iff_of_false (fun h => ?_) id
      exact hnew pass (((h.updated rfl).2 pass).mpr rfl)
    | some err =>
      constructor
      · intro h p
        rw [← h.failed err rfl p]
        exact Bool.eq_false_iff.mpr (hnew p)
      · intro h
        refine ⟨fun _ _ p => ?_, fun hnone => by cases hnone⟩
        rw [h p]
        exact Bool.eq_false_iff.mpr (hnew p)

/-- An update is atomic unless the service refuses a hash of a password that the team does not
have already, or no hash could be made. -/
theorem updatePass_atomic_iff (hb : bcrypt.Exact) (team : TeamObject) (dbc : PassClient)
    (salt pass passRepeat evTag : String) :
    (team.updatePass bcrypt dbc salt pass passRepeat evTag).Atomic bcrypt team pass ↔
      ∀ eventID, SetsHash team dbc pass passRepeat evTag eventID →
        HashSettles team bcrypt dbc salt pass eventID := by
  by_cases hsets : ∃ eventID, SetsHash team dbc pass passRepeat evTag eventID
  · obtain ⟨eventID, hset⟩ := hsets
    rw [atomic_setsHash_iff hb hset]
    constructor
    · intro h id hid
      have heq : (Except.ok id : Except String Int) = .ok eventID := hid.2.2.symm.trans hset.2.2
      cases heq
      exact h
    · exact fun h => h eventID hset
  · have hnever : ∀ eventID, ¬ SetsHash team dbc pass passRepeat evTag eventID :=
      fun eventID h => hsets ⟨eventID, h⟩
    obtain ⟨hteam, hresult⟩ := updatePass_keeps bcrypt salt hnever
    refine iff_of_true ⟨fun _ _ p => by rw [hteam], fun h => absurd h hresult⟩ ?_
    exact fun eventID h => absurd h (hnever eventID)

/-- Hashes that are texts of their passwords. -/
def plainBcrypt : Bcrypt where
  generateFromPassword _ password := .ok ("$2a$10$" ++ password)
  compareHashAndPassword hash password := hash = "$2a$10$" ++ password

/-- The library of the example accepts the password that it hashed, and no other one. -/
theorem exact_plainBcrypt : plainBcrypt.Exact where
  own := by
    intro salt password hash h p
    cases h
    simp [plainBcrypt, eq_comm]
  empty := by
    intro p
    simp [plainBcrypt, String.ext_iff]

/-- A team with the password `old-pass`. -/
def teamOldPass : TeamObject :=
  { oneTeam.deref 0 with hashedPassword := "$2a$10$old-pass" }

/-- A service that knows the event, with its answer to `UpdateTeamPassword`. -/
def passClient (db : Option String) : PassClient where
  getEventID _ := .ok 7
  updateTeamPassword _ := db

/-- The update of `teamOldPass` that the service takes is atomic. -/
theorem updatePass_atomic_taken :
    plainBcrypt.Exact ∧
      (teamOldPass.updatePass plainBcrypt (passClient none) "salt" "new-pass" "new-pass"
        "ctf").Atomic plainBcrypt teamOldPass "new-pass" := by
  refine ⟨exact_plainBcrypt, ?_⟩
  rw [updatePass_atomic_iff exact_plainBcrypt]
  exact fun _ _ => trivial

/-- The service refuses the new password. The team is told so, and has its new password. -/
theorem updatePass_refused :
    let u := teamOldPass.updatePass plainBcrypt (passClient (some "refused")) "salt" "new-pass"
      "new-pass" "ctf"
    plainBcrypt.Exact ∧ u.result = some (some "refused") ∧
      u.team.isPasswordEqual plainBcrypt "new-pass" = true ∧
      u.team.isPasswordEqual plainBcrypt "old-pass" = false ∧
      ¬ u.Atomic plainBcrypt teamOldPass "new-pass" := by
  intro u
  have hresult : u.result = some (some "refused") := by decide
  have hnew : u.team.isPasswordEqual plainBcrypt "new-pass" = true := by decide
  have hold : u.team.isPasswordEqual plainBcrypt "old-pass" = false := by decide
  refine ⟨exact_plainBcrypt, hresult, hnew, hold, fun hatomic => ?_⟩
  have hkept := hatomic.failed "refused" hresult "old-pass"
  rw [hold] at hkept
  exact absurd hkept (by decide)

/-! ### The mutexes and the event -/

/-- The error of a call. -/
def callErr {α : Type} : Except String α → Option String
  | .ok _ => none
  | .error err => some err

/-- `UpdatePass` with its mutexes leaves the same team and returns the same error. -/
theorem updatePass_locked {s : TeamHeap} {t : TeamPtr} {db : Option String}
    (hdbc : (s.deref t).dbc = true) (hdb : ∀ req, dbc.updateTeamPassword req = db) :
    let u := (s.deref t).updatePass bcrypt dbc salt pass passRepeat evTag
    let ran := t.updatePass pass passRepeat (bcrypt.hPass salt pass)
      (callErr (dbc.getEventID evTag)) db s
    ran.state.deref t = u.team ∧ ran.value = u.result := by
  intro u ran
  by_cases hpass : pass = passRepeat
  · cases hevent : dbc.getEventID evTag with
    | error err =>
      have hu : u = { team := s.deref t, sent := none, result := some (some err) } := by
        simp [u, TeamObject.updatePass, hpass, hdbc, hevent]
      have hran : ran = t.updatePass pass passRepeat (bcrypt.hPass salt pass) (some err) db s := by
        simp only [ran, hevent, callErr]
      rw [hu, hran, TeamPtr.updatePass, if_neg (not_not.mpr hpass)]
      exact ⟨rfl, rfl⟩
    | ok eventID =>
      have hset : SetsHash (s.deref t) dbc pass passRepeat evTag eventID := ⟨hpass, hdbc, hevent⟩
      have hran : ran = t.updatePass pass passRepeat (bcrypt.hPass salt pass) none db s := by
        simp only [ran, hevent, callErr]
      show ran.state.deref t = u.team ∧ ran.value = u.result
      rw [show u = _ from updatePass_setsHash bcrypt salt hset, hran, hdb,
        TeamPtr.updatePass.eq_def, if_neg (not_not.mpr hpass)]
      cases db with
      | none => exact ⟨Function.update_self _ _ _, rfl⟩
      | some err => exact ⟨Function.update_self _ _ _, rfl⟩
  · have hu : u = { team := s.deref t, sent := none, result := some (some passwordsErr) } := by
      simp [u, TeamObject.updatePass, hpass]
    rw [hu]
    show (TeamPtr.updatePass t pass passRepeat _ _ db s).state.deref t = _ ∧
      (TeamPtr.updatePass t pass passRepeat _ _ db s).value = _
    rw [TeamPtr.updatePass.eq_def, if_pos hpass]
    exact ⟨rfl, rfl⟩

namespace TeamHeap

variable (s : TeamHeap) (bcrypt : Bcrypt) (dbc : PassClient) (salt : String)

/-- `UpdateTeamPassword` of an event with this tag. The result is `none` when `UpdatePass`
panics. -/
def updateTeamPassword (tag id pass passRepeat : String) :
    TeamHeap × Option (Except String String) :=
  match s.teams.get? id with
  | none => (s, some (.error ("GetTeamByID function error " ++ unknownTeamErr)))
  | some tm =>
    let u := (s.deref tm).updatePass bcrypt dbc salt pass passRepeat tag
    let s := { s with deref := Function.update s.deref tm u.team }
    match u.result with
    | none => (s, none)
    | some (some err) => (s, some (.error err))
    | some none => (s, some (.ok s!"Password for team [ {id} ] is updated ! "))

variable {s bcrypt dbc salt} {tag id pass passRepeat : String}

/-- An update of the password of a team does not change another team. -/
theorem updateTeamPassword_deref_of_ne {tm t : TeamPtr} (htm : s.teams.get? id = some tm)
    (hne : t ≠ tm) :
    (s.updateTeamPassword bcrypt dbc salt tag id pass passRepeat).1.deref t = s.deref t := by
  rw [updateTeamPassword, htm]
  show (match ((s.deref tm).updatePass bcrypt dbc salt pass passRepeat tag).result with
    | none => _
    | some (some err) => _
    | some none => _ : TeamHeap × Option (Except String String)).1.deref t = _
  split <;> exact Function.update_of_ne hne _ _

/-- An error of `UpdateTeamPassword` leaves the passwords of all teams, when the hash settles. -/
theorem updateTeamPassword_failed (hb : bcrypt.Exact) {err : String}
    (hsettles : ∀ tm eventID, s.teams.get? id = some tm →
      SetsHash (s.deref tm) dbc pass passRepeat tag eventID →
        HashSettles (s.deref tm) bcrypt dbc salt pass eventID)
    (herr : (s.updateTeamPassword bcrypt dbc salt tag id pass passRepeat).2 = some (.error err))
    (t : TeamPtr) (p : String) :
    ((s.updateTeamPassword bcrypt dbc salt tag id pass passRepeat).1.deref t).isPasswordEqual
      bcrypt p = (s.deref t).isPasswordEqual bcrypt p := by
  cases htm : s.teams.get? id with
  | none => rw [updateTeamPassword, htm]
  | some tm =>
    by_cases hne : t = tm
    · have hatomic := (updatePass_atomic_iff hb (s.deref tm) dbc salt pass passRepeat tag).mpr
        fun eventID => hsettles tm eventID htm
      rw [updateTeamPassword, htm] at herr ⊢
      cases hresult : ((s.deref tm).updatePass bcrypt dbc salt pass passRepeat tag).result with
      | none => simp [hresult] at herr
      | some result =>
        cases result with
        | none => simp [hresult] at herr
        | some e =>
          simp only [hresult, hne, Function.update_self]
          exact hatomic.failed e hresult p
    · rw [updateTeamPassword_deref_of_ne htm hne]

end TeamHeap

end Haaukins.Store
