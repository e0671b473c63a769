import Haaukins.Daemon.Auth
import Haaukins.Store.UserFile

/-!
# `Haaukins.Daemon.UserRequests`: the requests on users (`daemon/user.go`)

`SignupUser`, `InviteUser`, `DestroyUser` and `ChangeUserPasswd`, each as one step on the users
file. The outcomes of the writes, of `bcrypt` and of the clock are arguments.

`AllOrNothing` says that a failed `SignupUser` leaves both stores as they are, and that a
successful one has made one account and used one key. `signupUser_allOrNothing_iff` says when.
The account is made first. A failed write after it, or a token that is refused to the empty
username, leaves it in the store.
-/

set_option autoImplicit false

namespace Haaukins.Daemon

open Haaukins.Store

/-- `NoPrivilegeToDelete`. -/
def noPrivilegeToDelete : String := "No privilege to delete users "

/-- `NoPrivilegeToChangePass`. -/
def noPrivilegeToChangePass : String := "No privilege to change passwd of user ! "

/-- The error of `InviteUser`. -/
def noPrivilegeToInvite : String := "This action requires super user permissions"

/-- What the calls of `SignupUser` answer, in their order. -/
structure SignupCalls where
  bcrypt : Except String String
  createdAt : Nat
  userWrite : Write
  order : List SignupKey
  keyWrite : Write
  tokenAt : Timestamp

namespace AuthLibrary

variable (lib : AuthLibrary) (f : UsersFile)

/-- `SignupUser`, with the token or the error of the reply. -/
def signupUser (req : SignupUserRequest) (c : SignupCalls) : UsersFile × Except String String :=
  match newUser lib.toLower lib.trimSpace c.bcrypt req.username req.name req.surname req.email
    req.password with
  | .error err => (f, .error err)
  | .ok u =>
    match f.getSignupKey req.key with
    | .error err => (f, .error err)
    | .ok k =>
      let u := { u with
        superUser := u.superUser || k.willBeSuperUser
        npUser := u.npUser || k.willBeNPUser }
      match f.createUser u c.createdAt c.userWrite with
      -- When the file is not written, the account is in the store all the same.
      | (f, some err) => (f, .error err)
      | (f, none) =>
        match f.deleteSignupKey k c.order c.keyWrite with
        | (f, some err) => (f, .error err)
        -- An error of `TokenForUser` takes nothing back.
        | (f, none) => (f, lib.tokenForUser f req.username req.password c.tokenAt)

end AuthLibrary

/-- `InviteUser` for the user of the context, with the key or the error of the reply. `value` is
the text of the new key. -/
def inviteUser (f : UsersFile) (u : User) (superUser npUser : Bool) (value : String)
    (order : List SignupKey) (w : Write) : UsersFile × Except String String :=
  if u.superUser then
    let k : SignupKey := { willBeNPUser := npUser, willBeSuperUser := superUser, value := value }
    match f.createSignupKey k order w with
    | (f, some err) => (f, .error err)
    | (f, none) => (f, .ok k.value)
  else (f, .error noPrivilegeToInvite)

/-- `DestroyUser`, with the message and the error of the reply. -/
def destroyUser (f : UsersFile) (requester : User) (username : String) (w : Write) :
    UsersFile × String × Option String :=
  if requester.superUser then
    match f.deleteUserByUsername username w with
    | (f, some err) =>
      (f, "Error on deleting user " ++ username ++ ", error: " ++ err, some err)
    | (f, none) =>
      (f, "User " ++ username ++ " deleted successfully by " ++ requester.username ++ " !", none)
  else (f, "", some noPrivilegeToDelete)

/-- `ChangeUserPasswd`, with the message and the error of the reply. -/
def changeUserPasswd (f : UsersFile) (requester : User) (username password : String)
    (bcrypt : Except String String) (w : Write) : UsersFile × String × Option String :=
  if !requester.superUser || requester.npUser then
    (f, noPrivilegeToChangePass, some noPrivilegeToChangePass)
  -- Who gets here is a super user, so the test always holds.
  else if username = requester.username ∨ requester.superUser ∨ !requester.npUser then
    match f.updatePasswd username password bcrypt w with
    | (f, some err) => (f, "Error on updating passwd of user: " ++ err, some err)
    | (f, none) => (f, "Success", none)
  else (f, noPrivilegeToChangePass, some noPrivilegeToChangePass)

namespace AuthLibrary

variable (lib : AuthLibrary) (f : UsersFile) (req : SignupUserRequest) (c : SignupCalls)

/-- The request has a password that can be hashed, a key of the store and a free username. -/
structure Admits (hash : String) (k : SignupKey) : Prop where
  password : generateHashedPasswd c.bcrypt req.password = .ok hash
  key : f.keyMap.get? req.key = some k
  free : f.userMap.get? (lib.toLower req.username) = none

/-- The account that a request makes. -/
def account (hash : String) (k : SignupKey) : User where
  username := lib.toLower req.username
  name := lib.trimSpace req.name
  surname := lib.trimSpace req.surname
  email := lib.trimSpace req.email
  hashedPassword := hash
  superUser := k.willBeSuperUser
  npUser := k.willBeNPUser
  createdAt := c.createdAt

/-- A reply with an error comes with the two stores as they were. A reply with a token comes with
one new user, who has the privileges of the key, without the key, and with a token that lets
the user in. -/
structure AllOrNothing (r : UsersFile × Except String String) : Prop where
  error : ∀ err, r.2 = .error err →
    r.1.userMap = f.userMap ∧ r.1.users = f.users ∧ r.1.keyMap = f.keyMap
  token : ∀ token, r.2 = .ok token → ∃ k u, f.keyMap.get? req.key = some k ∧
    u.username = lib.toLower req.username ∧ u.superUser = k.willBeSuperUser ∧
    u.npUser = k.willBeNPUser ∧ f.userMap.get? u.username = none ∧
    r.1.userMap = f.userMap.set u.username u ∧ r.1.users = f.users ++ [u] ∧
    r.1.keyMap = f.keyMap.delete req.key ∧
    ∀ now : Timestamp, now.unix ≤ c.tokenAt.validUntil →
      lib.authenticateContext r.1 (some [token]) now = .ok u

variable {lib f req c} {hash : String} {k : SignupKey}

/-- A request that is not admitted changes nothing. -/
theorem signupUser_of_not (h : ∀ hash k, ¬ lib.Admits f req c hash k) :
    ∃ err, lib.signupUser f req c = (f, .error err) := by
  unfold signupUser newUser
  cases hhash : generateHashedPasswd c.bcrypt req.password with
  | error err => exact ⟨err, rfl⟩
  | ok hash =>
    unfold UsersFile.getSignupKey
    cases hkey : f.keyMap.get? req.key with
    | none => exact ⟨_, rfl⟩
    | some k =>
      cases hfree : f.userMap.get? (lib.toLower req.username) with
      | none => exact absurd ⟨hhash, hkey, hfree⟩ (h hash k)
      | some v =>
        -- `CreateUser` refuses the name.
        refine ⟨userExistsErr, ?_⟩
        dsimp only [bind, Except.bind, pure, Except.pure]
        unfold UsersFile.createUser
        dsimp only
        rw [hfree]

/-- A request is admitted, or it is refused and the store is as it was. -/
theorem signupUser_cases (lib : AuthLibrary) (f : UsersFile) (req : SignupUserRequest)
    (c : SignupCalls) :
    (∃ hash k, lib.Admits f req c hash k) ∨
      (∀ hash k, ¬ lib.Admits f req c hash k) ∧
        ∃ err, lib.signupUser f req c = (f, .error err) := by
  by_cases hadmits : ∃ hash k, lib.Admits f req c hash k
  · exact .inl hadmits
  · have hnot : ∀ hash k, ¬ lib.Admits f req c hash k := fun hash k hk => hadmits ⟨hash, k, hk⟩
    exact .inr ⟨hnot, signupUser_of_not hnot⟩

/-- The store after the account is made. -/
def madeAccount (lib : AuthLibrary) (f : UsersFile) (req : SignupUserRequest) (c : SignupCalls)
    (hash : String) (k : SignupKey) : UsersFile :=
  let u := lib.account req c hash k
  (UsersFile.runUserHooks { f with
    userMap := f.userMap.set (lib.toLower req.username) u
    users := f.users ++ [u] } c.userWrite).1

/-- The store after the key of the account is deleted. -/
def usedKey (lib : AuthLibrary) (f : UsersFile) (req : SignupUserRequest) (c : SignupCalls)
    (hash : String) (k : SignupKey) : UsersFile :=
  (UsersFile.runKeyHooks
    { lib.madeAccount f req c hash k with keyMap := f.keyMap.delete req.key } c.order c.keyWrite).1

/-- `CreateUser` of an admitted request. -/
theorem createUser_of_admits (h : lib.Admits f req c hash k) {u : User}
    (hu : { u with createdAt := c.createdAt } = lib.account req c hash k) :
    f.createUser u c.createdAt c.userWrite =
      UsersFile.runUserHooks { f with
        userMap := f.userMap.set (lib.toLower req.username) (lib.account req c hash k)
        users := f.users ++ [lib.account req c hash k] } c.userWrite := by
  have hname : u.username = lib.toLower req.username := congrArg User.username hu
  have hfree := h.free
  unfold UsersFile.createUser
  rw [← hname] at hfree ⊢
  rw [hfree]
  dsimp only
  rw [hu]

/-- An admitted request makes its account, deletes its key and asks for its token. Each failed
write ends it. -/
theorem signupUser_of_admits (h : lib.Admits f req c hash k) :
    lib.signupUser f req c =
      match UsersFile.runUserHooks { f with
          userMap := f.userMap.set (lib.toLower req.username) (lib.account req c hash k)
          users := f.users ++ [lib.account req c hash k] } c.userWrite with
      | (f, some err) => (f, .error err)
      | (f, none) =>
        match f.deleteSignupKey k c.order c.keyWrite with
        | (f, some err) => (f, .error err)
        | (f, none) => (f, lib.tokenForUser f req.username req.password c.tokenAt) := by
  have hkey : f.getSignupKey req.key = .ok k := by
    unfold UsersFile.getSignupKey
    rw [h.key]
  unfold signupUser newUser
  rw [h.password]
  dsimp only [bind, Except.bind, pure, Except.pure]
  rw [hkey]
  dsimp only
  rw [createUser_of_admits h rfl]

/-- The write of the account fails. -/
theorem signupUser_unwritten (h : lib.Admits f req c hash k) {err : String} {file : Option Conf}
    (hw : c.userWrite = .failed err file) :
    lib.signupUser f req c = (lib.madeAccount f req c hash k, .error err) := by
  rw [signupUser_of_admits h, madeAccount, hw]
  rfl

/-- The deletion finds the key of the request, which the account has not touched. -/
theorem deleteSignupKey_madeAccount (h : lib.Admits f req c hash k) (hkeyed : f.Keyed) :
    (lib.madeAccount f req c hash k).deleteSignupKey k c.order c.keyWrite =
      UsersFile.runKeyHooks
        { lib.madeAccount f req c hash k with keyMap := f.keyMap.delete req.key }
        c.order c.keyWrite := by
  have hvalue : k.value = req.key := hkeyed.keyMap req.key k h.key
  have hmade : (lib.madeAccount f req c hash k).keyMap = f.keyMap :=
    UsersFile.runUserHooks_keyMap _ _
  unfold UsersFile.deleteSignupKey
  rw [hmade, hvalue, h.key]

/-- The write of the keys fails. -/
theorem signupUser_undeleted (h : lib.Admits f req c hash k) (hkeyed : f.Keyed)
    (hw : c.userWrite = .done) {err : String} {file : Option Conf}
    (hk : c.keyWrite = .failed err file) :
    lib.signupUser f req c = (lib.usedKey f req c hash k, .error err) := by
  have hdelete := deleteSignupKey_madeAccount h hkeyed
  rw [madeAccount, hw] at hdelete
  rw [signupUser_of_admits h, usedKey, madeAccount, hw]
  dsimp only [UsersFile.runUserHooks, UsersFile.save] at hdelete ⊢
  rw [hdelete, hk]
  rfl

/-- Both writes succeed. -/
theorem signupUser_saved (h : lib.Admits f req c hash k) (hkeyed : f.Keyed)
    (hw : c.userWrite = .done) (hk : c.keyWrite = .done) :
    lib.signupUser f req c = (lib.usedKey f req c hash k,
      lib.tokenForUser (lib.usedKey f req c hash k) req.username req.password c.tokenAt) := by
  have hdelete := deleteSignupKey_madeAccount h hkeyed
  rw [madeAccount, hw] at hdelete
  rw [signupUser_of_admits h, usedKey, madeAccount, hw]
  dsimp only [UsersFile.runUserHooks, UsersFile.save] at hdelete ⊢
  rw [hdelete, hk]
  rfl

/-- What the store has after a new account. -/
theorem madeAccount_stores :
    (lib.madeAccount f req c hash k).userMap =
        f.userMap.set (lib.toLower req.username) (lib.account req c hash k) ∧
      (lib.madeAccount f req c hash k).users = f.users ++ [lib.account req c hash k] ∧
      (lib.madeAccount f req c hash k).keyMap = f.keyMap :=
  ⟨UsersFile.runUserHooks_userMap _ _, UsersFile.runUserHooks_users _ _,
    UsersFile.runUserHooks_keyMap _ _⟩

/-- What the store has after the key is used as well. -/
theorem usedKey_stores :
    (lib.usedKey f req c hash k).userMap =
        f.userMap.set (lib.toLower req.username) (lib.account req c hash k) ∧
      (lib.usedKey f req c hash k).users = f.users ++ [lib.account req c hash k] ∧
      (lib.usedKey f req c hash k).keyMap = f.keyMap.delete req.key := by
  refine ⟨?_, ?_, UsersFile.runKeyHooks_keyMap _ _ _⟩
  · rw [usedKey, UsersFile.runKeyHooks_userMap]
    exact madeAccount_stores.1
  · rw [usedKey, UsersFile.runKeyHooks_users]
    exact madeAccount_stores.2.1

/-- What an admitted request leaves in the two stores. The key stays when the account is not
written. -/
theorem signupUser_stores (h : lib.Admits f req c hash k) (hkeyed : f.Keyed) :
    (lib.signupUser f req c).1.userMap =
        f.userMap.set (lib.toLower req.username) (lib.account req c hash k) ∧
      (lib.signupUser f req c).1.users = f.users ++ [lib.account req c hash k] ∧
      (lib.signupUser f req c).1.keyMap =
        if c.userWrite = .done then f.keyMap.delete req.key else f.keyMap := by
  cases hw : c.userWrite with
  | failed err file =>
    rw [signupUser_unwritten h hw]
    exact madeAccount_stores
  | done =>
    cases hk : c.keyWrite with
    | failed err file =>
      rw [signupUser_undeleted h hkeyed hw hk]
      exact usedKey_stores
    | done =>
      rw [signupUser_saved h hkeyed hw hk]
      exact usedKey_stores

/-- The maps stay keyed by their values. -/
theorem keyed_usedKey (hkeyed : f.Keyed) : (lib.usedKey f req c hash k).Keyed := by
  constructor
  · rw [usedKey_stores.1]
    exact hkeyed.userMap.set rfl
  · rw [usedKey_stores.2.2]
    exact hkeyed.keyMap.delete req.key

/-- `SignupUser` keeps the records under their names, also when it fails half-way. -/
theorem keyed_signupUser (hkeyed : f.Keyed) : (lib.signupUser f req c).1.Keyed := by
  rcases lib.signupUser_cases f req c with ⟨hash, k, hadmits⟩ | ⟨-, err, herr⟩
  · obtain ⟨hmap, -, hkeys⟩ := signupUser_stores hadmits hkeyed
    constructor
    · rw [hmap]
      exact hkeyed.userMap.set rfl
    · rw [hkeys]
      split
      · exact hkeyed.keyMap.delete req.key
      · exact hkeyed.keyMap
  · rw [herr]
    exact hkeyed

/-- The token of an account that was just made. The empty username gets none. -/
theorem tokenForUser_usedKey (h : lib.Admits f req c hash k)
    (hbcrypt : ∀ hash, c.bcrypt = .ok hash →
      lib.compareHashAndPassword hash req.password = true) :
    lib.tokenForUser (lib.usedKey f req c hash k) req.username req.password c.tokenAt =
      if lib.toLower req.username = "" then .error emptyUserErr
      else .ok (lib.jwt.signedString lib.key
        ⟨lib.toLower req.username, k.willBeSuperUser, c.tokenAt.validUntil⟩) := by
  -- `NewUser` has refused short passwords, so `TokenForUser` gets no empty one.
  have hpassword := h.password
  unfold generateHashedPasswd at hpassword
  split at hpassword
  · cases hpassword
  · next hlong =>
    have hne : req.password ≠ "" := by
      intro heq
      rw [heq] at hlong
      exact hlong (by decide)
    unfold tokenForUser UsersFile.getUserByUsername
    dsimp only
    rw [if_neg hne, usedKey_stores.1, GoMap.get?_set_self]
    split
    · rfl
    · exact if_pos (hbcrypt hash hpassword)

end AuthLibrary

open AuthLibrary in
/-- `SignupUser` is all or nothing in each state of the users file if and only if an admitted
request has its two writes succeed and a username that is not empty. -/
theorem signupUser_allOrNothing_iff (lib : AuthLibrary) (hjwt : lib.jwt.Inverts Claims.decoded)
    (file : Option Conf) (f : UsersFile) (hf : (userFile file).Reachable (fun _ _ => True) f)
    (req : SignupUserRequest) (c : SignupCalls)
    (hbcrypt : ∀ hash, c.bcrypt = .ok hash →
      lib.compareHashAndPassword hash req.password = true) :
    lib.AllOrNothing f req c (lib.signupUser f req c) ↔
      ∀ hash k, lib.Admits f req c hash k →
        c.userWrite = .done ∧ c.keyWrite = .done ∧ lib.toLower req.username ≠ "" := by
  have hkeyed := UsersFile.keyed_reachable hf
  constructor
  · intro h hash k hadmits
    -- An error with an account that stayed.
    have hno : ∀ err, (lib.signupUser f req c).2 ≠ .error err := by
      intro err herr
      have husers := (h.error err herr).2.1
      rw [(signupUser_stores hadmits hkeyed).2.1] at husers
      exact absurd husers (by simp)
    cases hw : c.userWrite with
    | failed err file => exact absurd (by rw [signupUser_unwritten hadmits hw]) (hno err)
    | done =>
      cases hk : c.keyWrite with
      | failed err file =>
        exact absurd (by rw [signupUser_undeleted hadmits hkeyed hw hk]) (hno err)
      | done =>
        refine ⟨rfl, rfl, fun hempty => hno emptyUserErr ?_⟩
        rw [signupUser_saved hadmits hkeyed hw hk, tokenForUser_usedKey hadmits hbcrypt]
        exact if_pos hempty
  · intro h
    rcases lib.signupUser_cases f req c with ⟨hash, k, hadmits⟩ | ⟨-, err, herr⟩
    · obtain ⟨hw, hk, hname⟩ := h hash k hadmits
      have hreply := signupUser_saved hadmits hkeyed hw hk
      rw [tokenForUser_usedKey hadmits hbcrypt, if_neg hname] at hreply
      rw [hreply]
      refine ⟨nofun, fun token htoken => ?_⟩
      cases htoken
      refine ⟨k, lib.account req c hash k, hadmits.key, rfl, rfl, rfl, hadmits.free,
        usedKey_stores.1, usedKey_stores.2.1, usedKey_stores.2.2, fun now hnow => ?_⟩
      refine (authenticateContext_signed hjwt).mpr ⟨?_, hnow⟩
      rw [usedKey_stores.1, GoMap.get?_set_self]
    · rw [herr]
      exact ⟨fun _ _ => ⟨rfl, rfl, rfl⟩, nofun⟩

/-- A library for tokens that writes the time in unary, then the privilege and the name. -/
def unaryJwt : Jwt Claims where
  signedString _ c := String.ofList
    (List.replicate c.validUntil 'v' ++ (if c.superUser then 't' else 'f') :: c.username.toList)
  parse _ token :=
    match token.toList.dropWhile (· = 'v') with
    | [] => .error "token contains an invalid number of segments"
    | su :: un => .ok (Claims.decoded
        ⟨String.ofList un, su = 't', (token.toList.takeWhile (· = 'v')).length⟩)

/-- The library of the example decodes what it signs. -/
theorem unaryJwt_inverts : unaryJwt.Inverts Claims.decoded where
  parse_signedString _ c := by
    have hsu : (if c.superUser then 't' else 'f') ≠ 'v' := by cases c.superUser <;> decide
    simp [unaryJwt, hsu]
  signedString_ne _ c := by simp [unaryJwt]

/-- Texts in lower case, passwords that are their own hashes, and tokens of `unaryJwt`. -/
def plainLibrary : AuthLibrary where
  toLibrary := letterKeys
  compareHashAndPassword := fun hash pass => hash = pass
  jwt := unaryJwt
  key := "testing"

/-- A users file with the key `""`. -/
def oneKey : Conf where
  users := []
  signupKeys := [⟨false, false, ""⟩]

/-- The start of the clock. -/
def clockZero : Timestamp := ⟨0, by decide⟩

/-- All calls succeed. -/
def signupCalls : SignupCalls where
  bcrypt := .ok "123456"
  createdAt := 7
  userWrite := .done
  order := []
  keyWrite := .done
  tokenAt := clockZero

/-- A request with a name. -/
theorem signupUser_allOrNothing_named :
    plainLibrary.AllOrNothing (newUserFile (some oneKey)) (firstKey "tkp") signupCalls
      (plainLibrary.signupUser (newUserFile (some oneKey)) (firstKey "tkp") signupCalls) := by
  refine (signupUser_allOrNothing_iff plainLibrary unaryJwt_inverts (some oneKey) _ (.init rfl)
    (firstKey "tkp") signupCalls fun hash hhash => ?_).mpr fun _ _ _ => ?_
  · cases hhash
    decide
  · exact ⟨rfl, rfl, by decide⟩

/-- The empty username gets its account, and an error. -/
theorem signupUser_empty_username :
    ¬ ∀ (lib : AuthLibrary) (file : Option Conf) (f : UsersFile) (req : SignupUserRequest)
      (c : SignupCalls), lib.jwt.Inverts Claims.decoded →
      (userFile file).Reachable (fun _ _ => True) f →
      (∀ hash, c.bcrypt = .ok hash → lib.compareHashAndPassword hash req.password = true) →
        lib.AllOrNothing f req c (lib.signupUser f req c) := by
  intro h
  have hall := h plainLibrary (some oneKey) (newUserFile (some oneKey)) (firstKey "") signupCalls
    unaryJwt_inverts (.init rfl) (fun hash hhash => by cases hhash; decide)
  have herr : (plainLibrary.signupUser (newUserFile (some oneKey)) (firstKey "")
      signupCalls).2 = .error emptyUserErr := by
    rfl
  exact absurd (hall.error _ herr).2.1 (by decide)

end Haaukins.Daemon
