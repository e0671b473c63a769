import Haaukins.Lib.Jwt
import Haaukins.Daemon.Signup

/-!
# `Haaukins.Daemon.Auth`: the tokens of the daemon (`daemon/auth.go`)

`TokenForUser` signs the name of a user with the time until which the token is valid.
`AuthenticateContext` reads a token and looks the name up in the user store.

* The library for tokens is a parameter (`Jwt`). `Jwt.Inverts` says what is assumed of it.
* A clock holds nanoseconds in 63 bits. Both functions read the seconds of the clock. The floats
  of JSON change no time of the clock.
-/

set_option autoImplicit false

namespace Haaukins.Daemon

open Haaukins.Store

/-- `MissingTokenErr`. -/
def missingTokenErr : String := "No security token provided"

/-- `InvalidUsernameOrPassErr`. -/
def invalidUsernameOrPassErr : String := "Invalid username or password"

/-- `InvalidTokenFormatErr`. -/
def invalidTokenFormatErr : String := "Invalid token format"

/-- `TokenExpiredErr`. -/
def tokenExpiredErr : String := "Token has expired"

/-- `UnknownUserErr`. -/
def unknownUserErr : String := "Unknown user"

/-- `EmptyUserErr`. -/
def emptyUserErr : String := "Username cannot be empty"

/-- `EmptyPasswdErr`. -/
def emptyPasswdErr : String := "Password cannot be empty"

/-- What `time.Now()` can be: nanoseconds since 1970. -/
structure Timestamp where
  nanoseconds : Nat
  inRange : nanoseconds < 2 ^ 63
  deriving DecidableEq

/-- `Time.Unix`. -/
def Timestamp.unix (t : Timestamp) : Nat := t.nanoseconds / 1000000000

/-- `31 * 24 * time.Hour` in seconds. -/
def validity : Nat := 31 * 24 * 3600

/-- `time.Now().Add(31 * 24 * time.Hour).Unix()`. -/
def Timestamp.validUntil (t : Timestamp) : Nat := t.unix + validity

/-- `USERNAME_KEY`, `SUPERUSER_KEY` and `VALID_UNTIL_KEY`. -/
def usernameKey : String := "un"

@[inherit_doc usernameKey]
def superuserKey : String := "su"

@[inherit_doc usernameKey]
def validUntilKey : String := "vu"

/-- The claims that `TokenForUser` signs. -/
structure Claims where
  username : String
  superUser : Bool
  validUntil : Nat

/-- The claims after a round trip through JSON. -/
def Claims.decoded (c : Claims) : MapClaims := fun key =>
  if key = usernameKey then some (.string c.username)
  else if key = superuserKey then some (.bool c.superUser)
  else if key = validUntilKey then some (.number (float64 c.validUntil))
  else none

/-- The functions of `Library`, `bcrypt.CompareHashAndPassword`, the library for tokens, and the
key of the daemon. -/
structure AuthLibrary extends Library where
  compareHashAndPassword : String → String → Bool
  jwt : Jwt Claims
  key : String

namespace AuthLibrary

variable (lib : AuthLibrary) (f : UsersFile)

/-- `User.IsCorrectPassword`. -/
def isCorrectPassword (u : User) (pass : String) : Bool :=
  lib.compareHashAndPassword u.hashedPassword pass

/-- `TokenForUser`. -/
def tokenForUser (username password : String) (now : Timestamp) : Except String String :=
  let username := lib.toLower username
  if username = "" then .error emptyUserErr
  else if password = "" then .error emptyPasswdErr
  else
    match f.getUserByUsername username with
    -- The error does not tell an unknown name from a wrong password.
    | .error _ => .error invalidUsernameOrPassErr
    | .ok u =>
      if lib.isCorrectPassword u password then
        .ok (lib.jwt.signedString lib.key ⟨u.username, u.superUser, now.validUntil⟩)
      else .error invalidUsernameOrPassErr

/-- `AuthenticateContext`, for the user that it puts into the context. `md` has the values of
`token` in the metadata of the request, when it has metadata. -/
def authenticateContext (md : Option (List String)) (now : Timestamp) : Except String User :=
  match md with
  | none => .error missingTokenErr
  | some [] => .error missingTokenErr
  | some (token :: _) =>
    if token = "" then .error missingTokenErr
    else
      match lib.jwt.parse lib.key token with
      | .error err => .error err
      | .ok claims =>
        match claims usernameKey with
        | some (.string username) =>
          -- The user is looked up before the time of the token is read.
          match f.getUserByUsername username with
          | .error _ => .error unknownUserErr
          | .ok u =>
            match claims validUntilKey with
            | some (.number validUntil) =>
              if validUntil < now.unix then .error tokenExpiredErr else .ok u
            | _ => .error invalidTokenFormatErr
        | _ => .error invalidTokenFormatErr

end AuthLibrary

/-! ### Times of the clock -/

/-- The end of a session is below `2 ^ 53`. -/
theorem Timestamp.validUntil_lt (t : Timestamp) : t.validUntil < 2 ^ 53 := by
  have hrange := t.inRange
  unfold validUntil unix validity
  omega

/-- So JSON's number is the end itself. -/
@[simp] theorem Timestamp.float64_validUntil (t : Timestamp) :
    float64 t.validUntil = t.validUntil :=
  float64_eq t.validUntil_lt

/-! ### Signing and reading a token -/

namespace AuthLibrary

variable {lib : AuthLibrary} {f : UsersFile} {username password token : String}
  {now : Timestamp} {u : User}

/-- A user is found under the name in the map. -/
theorem getUserByUsername_ok : f.getUserByUsername username = .ok u ↔
    f.userMap.get? username = some u := by
  unfold UsersFile.getUserByUsername
  cases f.userMap.get? username with
  | none => simp
  | some v => simp

/-- `TokenForUser` signs the name of the stored user, when the password is his. -/
theorem tokenForUser_ok_iff : lib.tokenForUser f username password now = .ok token ↔
    lib.toLower username ≠ "" ∧ password ≠ "" ∧
      ∃ u, f.userMap.get? (lib.toLower username) = some u ∧
        lib.isCorrectPassword u password = true ∧
        token = lib.jwt.signedString lib.key ⟨u.username, u.superUser, now.validUntil⟩ := by
  unfold tokenForUser UsersFile.getUserByUsername
  dsimp only
  split
  · next hname => simp [hname]
  · next hname =>
    split
    · next hpassword => simp [hpassword]
    · next hpassword =>
      cases f.userMap.get? (lib.toLower username) with
      | none => simp
      | some u =>
        by_cases hcorrect : lib.isCorrectPassword u password = true
        · simp only [hname, hpassword, hcorrect, ne_eq, not_false_eq_true, true_and, if_true,
            Except.ok.injEq, Option.some.injEq, exists_eq_left']
          exact eq_comm
        · simp [hcorrect]

/-- A request that is let in has a token that `Parse` accepts. -/
theorem parse_of_authenticateContext
    (h : lib.authenticateContext f (some [token]) now = .ok u) :
    ∃ claims, lib.jwt.parse lib.key token = .ok claims := by
  unfold authenticateContext at h
  dsimp only at h
  split at h
  · cases h
  · cases hparse : lib.jwt.parse lib.key token with
    | error err =>
      rw [hparse] at h
      cases h
    | ok claims => exact ⟨claims, rfl⟩

/-- A signed token lets in the user that the store has under its name, until it expires. -/
theorem authenticateContext_signed (hjwt : lib.jwt.Inverts Claims.decoded) {superUser : Bool}
    {issued : Timestamp} {rest : List String} :
    lib.authenticateContext f (some (lib.jwt.signedString lib.key
        ⟨username, superUser, issued.validUntil⟩ :: rest)) now = .ok u ↔
      f.userMap.get? username = some u ∧ now.unix ≤ issued.validUntil := by
  have hun : (⟨username, superUser, issued.validUntil⟩ : Claims).decoded usernameKey =
      some (.string username) := rfl
  have hvu : (⟨username, superUser, issued.validUntil⟩ : Claims).decoded validUntilKey =
      some (.number issued.validUntil) := by
    simp [Claims.decoded, validUntilKey, usernameKey, superuserKey]
  unfold authenticateContext
  dsimp only
  -- A signed token is not empty, and `Parse` gives its claims.
  rw [if_neg (hjwt.signedString_ne _ _), hjwt.parse_signedString]
  dsimp only
  rw [hun]
  dsimp only
  unfold UsersFile.getUserByUsername
  cases f.userMap.get? username with
  | none => simp
  | some v =>
    dsimp only
    rw [hvu]
    dsimp only
    split
    · next hexpired => simpa using fun _ => Int.ofNat_lt.mp hexpired
    · next hvalid =>
      have hle : now.unix ≤ issued.validUntil := by omega
      simp [hle]

/-- The user of a request is the current record of the store. -/
theorem authenticateContext_current (hkeyed : f.Keyed) {md : Option (List String)}
    (h : lib.authenticateContext f md now = .ok u) : f.userMap.get? u.username = some u := by
  unfold authenticateContext at h
  split at h
  · cases h
  · cases h
  · split at h
    · cases h
    · split at h
      · cases h
      · split at h
        · next claims _ username _ =>
          split at h
          · cases h
          · next v hv =>
            have hget := getUserByUsername_ok.mp hv
            split at h
            · split at h
              · cases h
              · cases h
                rw [hkeyed.userMap username u hget]
                exact hget
            · cases h
        · cases h

end AuthLibrary

end Haaukins.Daemon
