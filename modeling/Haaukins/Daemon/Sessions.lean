import Haaukins.Daemon.UserRequests

/-!
# `Haaukins.Daemon.Sessions`: which tokens let a user in (`daemon/auth.go`)

The tokens that `TokenForUser` hands out along a run, also at the end of a `SignupUser`, and the
requests that present them later. Between the two, users are added, deleted, added again, and
get other passwords.

`authenticateContext_iff` says which tokens are accepted, and for whom. A token is valid for 31
days in the seconds of the clock, so a part of a second more than 31 days in its nanoseconds.
-/

set_option autoImplicit false

namespace Haaukins.Daemon

open Haaukins.Store

/-- A token of `TokenForUser`, with the name in lower case that it was asked for. -/
structure Issue where
  username : String
  token : String
  time : Timestamp

/-- The users file, and the tokens that were handed out. -/
structure SessionState where
  users : UsersFile
  issued : List Issue

/-- The calls of a run. `store` is any call on the users file, such as `UpdatePasswd` and
`DeleteUserByUsername`. -/
inductive SessionAction where
  | signupUser (req : SignupUserRequest) (c : SignupCalls)
  | store (a : UserFileAction)
  | tokenForUser (username password : String) (now : Timestamp)

/-- The state after a reply with a token or an error. -/
def SessionState.reply (s : SessionState) (username : String) (time : Timestamp) :
    Except String String → SessionState
  | .ok token => { s with issued := ⟨username, token, time⟩ :: s.issued }
  | .error _ => s

/-- The calls on the store that `NewUserFile` returns for some file. -/
def sessions (lib : AuthLibrary) (file : Option Conf) : Machine SessionState SessionAction where
  init s := s.users = newUserFile file ∧ s.issued = []
  step s
    | .signupUser req c =>
      let r := lib.signupUser s.users req c
      some ({ s with users := r.1 }.reply (lib.toLower req.username) c.tokenAt r.2)
    | .store a => some { s with users := (a.call s.users).1 }
    | .tokenForUser username password now =>
      some (s.reply (lib.toLower username) now
        (lib.tokenForUser s.users username password now))

/-- The records stand under their names, and a token was signed for its name and its time. -/
structure SessionState.Signed (lib : AuthLibrary) (s : SessionState) : Prop where
  keyed : s.users.Keyed
  issued : ∀ i ∈ s.issued, ∃ superUser,
    i.token = lib.jwt.signedString lib.key ⟨i.username, superUser, i.time.validUntil⟩

namespace AuthLibrary

variable {lib : AuthLibrary} {f : UsersFile}

/-- `TokenForUser` signs the name that it looked up. -/
theorem signed_tokenForUser (hkeyed : f.Keyed) {username password token : String}
    {now : Timestamp} (h : lib.tokenForUser f username password now = .ok token) :
    ∃ superUser,
      token = lib.jwt.signedString lib.key ⟨lib.toLower username, superUser, now.validUntil⟩ := by
  obtain ⟨-, -, u, hget, -, rfl⟩ := tokenForUser_ok_iff.mp h
  exact ⟨u.superUser, by rw [hkeyed.userMap _ u hget]⟩

variable {req : SignupUserRequest} {c : SignupCalls} {hash : String} {k : SignupKey}

/-- The token of a `SignupUser` is signed for the new name. -/
theorem signed_signupUser (hkeyed : f.Keyed) {token : String}
    (h : (lib.signupUser f req c).2 = .ok token) :
    ∃ superUser, token =
      lib.jwt.signedString lib.key ⟨lib.toLower req.username, superUser, c.tokenAt.validUntil⟩ := by
  rcases lib.signupUser_cases f req c with ⟨hash, k, hadmits⟩ | ⟨-, err, herr⟩
  · cases hw : c.userWrite with
    | failed err file =>
      rw [signupUser_unwritten hadmits hw] at h
      cases h
    | done =>
      cases hk : c.keyWrite with
      | failed err file =>
        rw [signupUser_undeleted hadmits hkeyed hw hk] at h
        cases h
      | done =>
        rw [signupUser_saved hadmits hkeyed hw hk] at h
        exact signed_tokenForUser (keyed_usedKey hkeyed) h
  · rw [herr] at h
    cases h

end AuthLibrary

variable {lib : AuthLibrary} {file : Option Conf} {s t : SessionState}

/-- A token that is handed out is a signed one. -/
theorem SessionState.Signed.reply (h : s.Signed lib) {username : String} {time : Timestamp}
    {r : Except String String} (hr : ∀ token, r = .ok token → ∃ superUser,
      token = lib.jwt.signedString lib.key ⟨username, superUser, time.validUntil⟩) :
    (s.reply username time r).Signed lib := by
  cases r with
  | error err => exact h
  | ok token =>
    refine ⟨h.keyed, fun i hi => ?_⟩
    rcases List.mem_cons.mp hi with rfl | hi
    · exact hr token rfl
    · exact h.issued i hi

/-- Each call keeps the records under their names, and hands out signed tokens only. -/
theorem signed_step {a : SessionAction} (h : s.Signed lib)
    (hs : (sessions lib file).step s a = some t) : t.Signed lib := by
  cases a with
  | signupUser req c =>
    cases hs
    -- The store changes first, and then the token is handed out from the new store.
    have hstore :
        ({ s with users := (lib.signupUser s.users req c).1 } : SessionState).Signed lib :=
      ⟨AuthLibrary.keyed_signupUser h.keyed, h.issued⟩
    exact hstore.reply fun token htoken => AuthLibrary.signed_signupUser h.keyed htoken
  | store a =>
    cases hs
    exact ⟨h.keyed.call a, h.issued⟩
  | tokenForUser username password now =>
    cases hs
    exact h.reply fun token htoken => AuthLibrary.signed_tokenForUser h.keyed htoken

/-- Every cookie of a run was signed by the library. -/
theorem signed_reachable (hs : (sessions lib file).Reachable (fun _ _ => True) s) :
    s.Signed lib := by
  refine hs.invariant (SessionState.Signed lib) (fun s h => ?_) fun s a t h _ hstep =>
    signed_step h hstep
  obtain ⟨husers, hissued⟩ := h
  exact ⟨husers ▸ UsersFile.keyed_newUserFile file, by simp [hissued]⟩

/-- In each state of a run a token lets in the user `u` if and only if `TokenForUser` handed it
out for a name at most 31 days earlier, in seconds of the clock, and `u` is the current record of
that name. The token is one that was handed out, or one that `Parse` refuses. -/
theorem authenticateContext_iff (lib : AuthLibrary) (hjwt : lib.jwt.Inverts Claims.decoded)
    (file : Option Conf) (s : SessionState)
    (hs : (sessions lib file).Reachable (fun _ _ => True) s) (token : String)
    (hsigned : ∀ claims, lib.jwt.parse lib.key token = .ok claims → ∃ i ∈ s.issued, i.token = token)
    (now : Timestamp) (u : User) :
    lib.authenticateContext s.users (some [token]) now = .ok u ↔
      ∃ i ∈ s.issued, i.token = token ∧ now.unix ≤ i.time.unix + validity ∧
        s.users.userMap.get? i.username = some u := by
  have hinv := signed_reachable hs
  -- A token that was handed out lets in whoever has its name now.
  have hissue : ∀ i ∈ s.issued, i.token = token →
      (lib.authenticateContext s.users (some [token]) now = .ok u ↔
        s.users.userMap.get? i.username = some u ∧ now.unix ≤ i.time.validUntil) := by
    intro i hi htoken
    obtain ⟨superUser, hsign⟩ := hinv.issued i hi
    rw [← htoken, hsign]
    exact AuthLibrary.authenticateContext_signed hjwt
  constructor
  · intro h
    -- Only handed out tokens are parsed.
    obtain ⟨claims, hclaims⟩ := AuthLibrary.parse_of_authenticateContext h
    obtain ⟨i, hi, htoken⟩ := hsigned claims hclaims
    obtain ⟨hget, hle⟩ := (hissue i hi htoken).mp h
    exact ⟨i, hi, htoken, hle, hget⟩
  · rintro ⟨i, hi, htoken, hle, hget⟩
    exact (hissue i hi htoken).mpr ⟨hget, hle⟩

/-- A users file with the user `"tkp"`. -/
def oneUser : Conf where
  users := [{ tkp with hashedPassword := "123456" }]
  signupKeys := []

/-- The token of `"tkp"` for a time. -/
def tkpToken (time : Timestamp) : String :=
  plainLibrary.jwt.signedString plainLibrary.key ⟨"tkp", false, time.validUntil⟩

/-- The state after `"tkp"` has logged in at the given time. -/
def loggedIn (time : Timestamp) : SessionState where
  users := newUserFile (some oneUser)
  issued := [⟨"tkp", tkpToken time, time⟩]

/-- The state of the example is reached by a run. -/
theorem loggedIn_reachable (time : Timestamp) :
    (sessions plainLibrary (some oneUser)).Reachable (fun _ _ => True) (loggedIn time) := by
  have hinit : (sessions plainLibrary (some oneUser)).init ⟨newUserFile (some oneUser), []⟩ :=
    ⟨rfl, rfl⟩
  refine Machine.Reachable.step (.init hinit) trivial
    (a := SessionAction.tokenForUser "tkp" "123456" time) ?_
  have htoken : plainLibrary.tokenForUser (newUserFile (some oneUser)) "tkp" "123456" time =
      .ok (tkpToken time) := by
    refine AuthLibrary.tokenForUser_ok_iff.mpr ⟨by decide, by decide, ?_⟩
    exact ⟨{ tkp with hashedPassword := "123456" }, rfl, rfl, rfl⟩
  show some (SessionState.reply _ "tkp" time (plainLibrary.tokenForUser _ "tkp" "123456" time)) = _
  rw [htoken]
  rfl

/-- Half a second after the 31st day of the clock. -/
def clockLater : Timestamp := ⟨31 * 24 * 3600 * 1000000000 + 500000000, by decide⟩

/-- The token is accepted in the last second of its time. -/
theorem authenticateContext_last_second :
    plainLibrary.authenticateContext (loggedIn clockZero).users (some [tkpToken clockZero])
      clockLater = .ok { tkp with hashedPassword := "123456" } := by
  refine (authenticateContext_iff plainLibrary unaryJwt_inverts (some oneUser) _
    (loggedIn_reachable clockZero) (tkpToken clockZero) (fun _ _ => ?_) clockLater _).mpr ?_
  · exact ⟨_, List.mem_singleton_self _, rfl⟩
  · exact ⟨_, List.mem_singleton_self _, rfl, by decide, rfl⟩

/-- Half a second after 31 days the token is still accepted. -/
theorem authenticateContext_after_31_days :
    ¬ ∀ (lib : AuthLibrary) (file : Option Conf) (s : SessionState) (token : String)
      (now : Timestamp) (u : User), lib.jwt.Inverts Claims.decoded →
      (sessions lib file).Reachable (fun _ _ => True) s →
      (∀ claims, lib.jwt.parse lib.key token = .ok claims → ∃ i ∈ s.issued, i.token = token) →
      (lib.authenticateContext s.users (some [token]) now = .ok u ↔
        ∃ i ∈ s.issued, i.token = token ∧
          now.nanoseconds ≤ i.time.nanoseconds + validity * 1000000000 ∧
          s.users.userMap.get? i.username = some u) := by
  intro h
  have haccepted : plainLibrary.authenticateContext (loggedIn clockZero).users
      (some [tkpToken clockZero]) clockLater = .ok { tkp with hashedPassword := "123456" } :=
    (AuthLibrary.authenticateContext_signed unaryJwt_inverts).mpr ⟨rfl, by decide⟩
  obtain ⟨i, hi, -, hle, -⟩ := (h plainLibrary (some oneUser) (loggedIn clockZero)
    (tkpToken clockZero) clockLater _ unaryJwt_inverts (loggedIn_reachable clockZero)
    (fun _ _ => ⟨_, List.mem_singleton_self _, rfl⟩)).mp haccepted
  obtain rfl := List.mem_singleton.mp hi
  exact absurd hle (by decide)

end Haaukins.Daemon
