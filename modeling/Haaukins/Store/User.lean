import Mathlib.Data.List.Perm.Basic
import Haaukins.Lib.GoMap

/-!
# `Haaukins.Store.User`: users, signup keys and the users file (`store/user.go`)

`NewUserFile` joins a user store and a signup key store over one record `conf`. Each store
passes its list to a hook, which puts it into `conf` and writes the whole record to the file.

* The user store keeps each user twice: `userMap` holds pointers to copies of the records of
  `users`. The model keeps two records, as the pointers and the list elements never alias.
* The outcome of `bcrypt.GenerateFromPassword`, the time of a call and the outcome of the
  file write (`Write`) are arguments. So is the order in which `ListSignupKeys` visits the
  map; `UsersFile.Listed` says that it is one.
* `yaml` is left out: the file holds the record that was marshalled.
-/

set_option autoImplicit false

namespace Haaukins.Store

/-- `UserExistsErr`. -/
def userExistsErr : String := "User already exists"

/-- `UserNotFoundErr`. -/
def userNotFoundErr : String := "User not found"

/-- `PasswdTooShortErr`. -/
def passwdTooShortErr : String := "Password too short, requires at least six characters"

/-- `SignupKeyExistsErr`. -/
def signupKeyExistsErr : String := "Signup key already exists"

/-- `SignupKeyNotFoundErr`. -/
def signupKeyNotFoundErr : String := "Signup key not found"

/-- `User`. `createdAt` is zero until the user is stored. -/
structure User where
  username : String
  name : String
  surname : String
  email : String
  hashedPassword : String
  superUser : Bool
  npUser : Bool
  createdAt : Nat
  deriving DecidableEq, Repr

/-- `generateHashedPasswd`, with the outcome of `bcrypt.GenerateFromPassword`. The length of
a Go string is its number of bytes. -/
def generateHashedPasswd (bcrypt : Except String String) (password : String) :
    Except String String :=
  if password.utf8ByteSize < 6 then .error passwdTooShortErr else bcrypt

/-- `NewUser`, for the functions `strings.ToLower` and `strings.TrimSpace`. -/
def newUser (toLower trimSpace : String → String) (bcrypt : Except String String)
    (username name surname email password : String) : Except String User := do
  let hashedPass ← generateHashedPasswd bcrypt password
  return {
    username := toLower username
    name := trimSpace name
    surname := trimSpace surname
    email := trimSpace email
    hashedPassword := hashedPass
    superUser := false
    npUser := false
    createdAt := 0 }

/-- `SignupKey`. -/
structure SignupKey where
  willBeNPUser : Bool
  willBeSuperUser : Bool
  value : String
  deriving DecidableEq, Repr

/-- The record `conf` of `NewUserFile`. -/
structure Conf where
  users : List User
  signupKeys : List SignupKey
  deriving DecidableEq, Repr

/-- The outcome of `save`: written, or failed with an error and some file left behind. -/
inductive Write where
  | done
  | failed (err : String) (file : Option Conf)
  deriving DecidableEq, Repr

/-- The store that `NewUserFile` returns: `userMap` and `users` of the user store, `keyMap` of
the key store, their shared `conf`, and the file, `none` when there is no file. -/
structure UsersFile where
  userMap : GoMap String User
  users : List User
  keyMap : GoMap String SignupKey
  conf : Conf
  file : Option Conf

/-- `NewUserFile`: `conf` comes from the file when it exists, `NewUserStore` and
`NewSignupKeyStore` fill their maps from its lists. -/
def newUserFile (file : Option Conf) : UsersFile :=
  let conf := file.getD { users := [], signupKeys := [] }
  { userMap := GoMap.ofList User.username conf.users
    users := conf.users
    keyMap := GoMap.ofList SignupKey.value conf.signupKeys
    conf := conf
    file := file }

namespace UsersFile

variable (f : UsersFile)

/-- The closure `save` of `NewUserFile`. -/
def save : Write → UsersFile × Option String
  | .done => ({ f with file := some f.conf }, none)
  | .failed err file => ({ f with file := file }, some err)

/-- `userstore.RunHooks` with the hook of `NewUserFile`. -/
def runUserHooks (w : Write) : UsersFile × Option String :=
  save { f with conf := { f.conf with users := f.users } } w

/-- `signupkeystore.RunHooks` with the hook of `NewUserFile`. -/
def runKeyHooks (keys : List SignupKey) (w : Write) : UsersFile × Option String :=
  save { f with conf := { f.conf with signupKeys := keys } } w

/-- `userstore.DeleteUserByUsername`. -/
def deleteUserByUsername (username : String) (w : Write) : UsersFile × Option String :=
  match f.userMap.get? username with
  | none => (f, some userNotFoundErr)
  | some _ =>
    runUserHooks
      { f with
        userMap := f.userMap.delete username
        users := f.users.eraseP fun cu => username = cu.username } w

/-- `userstore.UpdatePasswd`. Only the record behind the pointer of `userMap` changes. -/
def updatePasswd (username password : String) (bcrypt : Except String String) (w : Write) :
    UsersFile × Option String :=
  match f.userMap.get? username with
  | none => (f, some userNotFoundErr)
  | some u =>
    match generateHashedPasswd bcrypt password with
    | .error err => (f, some err)
    | .ok updatedHashPass =>
      runUserHooks
        { f with userMap := f.userMap.set username { u with hashedPassword := updatedHashPass } }
        w

/-- `userstore.GetUserByUsername`. -/
def getUserByUsername (username : String) : Except String User :=
  match f.userMap.get? username with
  | none => .error userNotFoundErr
  | some u => .ok u

/-- `userstore.ListUsers`. -/
def listUsers : List User := f.users

/-- `userstore.CreateUser`. -/
def createUser (u : User) (now : Nat) (w : Write) : UsersFile × Option String :=
  match f.userMap.get? u.username with
  | some _ => (f, some userExistsErr)
  | none =>
    let u := { u with createdAt := now }
    runUserHooks
      { f with userMap := f.userMap.set u.username u, users := f.users ++ [u] } w

/-- `signupkeystore.CreateSignupKey`, where `order` is what `ListSignupKeys` returns. -/
def createSignupKey (k : SignupKey) (order : List SignupKey) (w : Write) :
    UsersFile × Option String :=
  match f.keyMap.get? k.value with
  | some _ => (f, some signupKeyExistsErr)
  | none => runKeyHooks { f with keyMap := f.keyMap.set k.value k } order w

/-- `signupkeystore.GetSignupKey`. -/
def getSignupKey (s : String) : Except String SignupKey :=
  match f.keyMap.get? s with
  | none => .error signupKeyNotFoundErr
  | some k => .ok k

/-- `signupkeystore.DeleteSignupKey`. -/
def deleteSignupKey (k : SignupKey) (order : List SignupKey) (w : Write) :
    UsersFile × Option String :=
  match f.keyMap.get? k.value with
  | none => (f, some signupKeyNotFoundErr)
  | some _ => runKeyHooks { f with keyMap := f.keyMap.delete k.value } order w

/-- The list is one that `ListSignupKeys` can return: the keys of the map in some order. -/
def Listed (order : List SignupKey) : Prop := order.Perm f.keyMap.values

instance (order : List SignupKey) : Decidable (f.Listed order) :=
  inferInstanceAs (Decidable (order.Perm f.keyMap.values))

/-! ### The hooks leave the stores alone -/

/-- The hooks write the file, and leave the map of the users alone. -/
@[simp] theorem runUserHooks_userMap (w : Write) : (f.runUserHooks w).1.userMap = f.userMap := by
  cases w <;> rfl

/-- They leave the list of users alone. -/
@[simp] theorem runUserHooks_users (w : Write) : (f.runUserHooks w).1.users = f.users := by
  cases w <;> rfl

/-- They leave the signup keys alone. -/
@[simp] theorem runUserHooks_keyMap (w : Write) : (f.runUserHooks w).1.keyMap = f.keyMap := by
  cases w <;> rfl

/-- The hooks of the keys leave the users alone. -/
@[simp] theorem runKeyHooks_userMap (keys : List SignupKey) (w : Write) :
    (f.runKeyHooks keys w).1.userMap = f.userMap := by
  cases w <;> rfl

/-- They leave the keys alone, too. -/
@[simp] theorem runKeyHooks_keyMap (keys : List SignupKey) (w : Write) :
    (f.runKeyHooks keys w).1.keyMap = f.keyMap := by
  cases w <;> rfl

/-- A new signup key is no user. -/
@[simp] theorem createSignupKey_userMap (k : SignupKey) (order : List SignupKey) (w : Write) :
    (f.createSignupKey k order w).1.userMap = f.userMap := by
  unfold createSignupKey
  split <;> simp

/-- Deleting a signup key deletes no user. -/
@[simp] theorem deleteSignupKey_userMap (k : SignupKey) (order : List SignupKey) (w : Write) :
    (f.deleteSignupKey k order w).1.userMap = f.userMap := by
  unfold deleteSignupKey
  split <;> simp

/-- The hooks of the keys leave the list of users alone. -/
@[simp] theorem runKeyHooks_users (keys : List SignupKey) (w : Write) :
    (f.runKeyHooks keys w).1.users = f.users := by
  cases w <;> rfl

/-- Deleting a signup key leaves the list of users alone. -/
@[simp] theorem deleteSignupKey_users (k : SignupKey) (order : List SignupKey) (w : Write) :
    (f.deleteSignupKey k order w).1.users = f.users := by
  unfold deleteSignupKey
  split <;> simp

/-- Deleting a user leaves the keys alone. -/
@[simp] theorem deleteUserByUsername_keyMap (username : String) (w : Write) :
    (f.deleteUserByUsername username w).1.keyMap = f.keyMap := by
  unfold deleteUserByUsername
  split <;> simp

/-- A new password leaves the keys alone. -/
@[simp] theorem updatePasswd_keyMap (username password : String) (bcrypt : Except String String)
    (w : Write) : (f.updatePasswd username password bcrypt w).1.keyMap = f.keyMap := by
  unfold updatePasswd
  split
  · rfl
  · split <;> simp

/-- A new user leaves the keys alone. -/
@[simp] theorem createUser_keyMap (u : User) (now : Nat) (w : Write) :
    (f.createUser u now w).1.keyMap = f.keyMap := by
  unfold createUser
  split <;> simp

variable {f}

/-- After `CreateSignupKey` the value of the key is in the map, also when it fails. -/
theorem mem_createSignupKey {k : SignupKey} {order : List SignupKey} {w : Write} {s : String} :
    s ∈ (f.createSignupKey k order w).1.keyMap ↔ s = k.value ∨ s ∈ f.keyMap := by
  unfold createSignupKey
  split
  · next k' hk =>
    have hmem : k.value ∈ f.keyMap := GoMap.mem_iff_get?.mpr ⟨k', hk⟩
    constructor
    · exact .inr
    · rintro (rfl | hs)
      · exact hmem
      · exact hs
  · rw [runKeyHooks_keyMap, GoMap.mem_set]

/-- After `DeleteSignupKey` the value of the key is not in the map, also when it fails. -/
theorem mem_deleteSignupKey {k : SignupKey} {order : List SignupKey} {w : Write} {s : String} :
    s ∈ (f.deleteSignupKey k order w).1.keyMap ↔ s ≠ k.value ∧ s ∈ f.keyMap := by
  unfold deleteSignupKey
  split
  · next hk =>
    have hnot : k.value ∉ f.keyMap := GoMap.get?_eq_none.mp hk
    constructor
    · intro hs
      exact ⟨fun heq => hnot (heq ▸ hs), hs⟩
    · exact And.right
  · rw [runKeyHooks_keyMap, GoMap.mem_delete]

/-- `CreateSignupKey` adds no other key than its own. -/
theorem get?_createSignupKey {k k' : SignupKey} {order : List SignupKey} {w : Write} {s : String}
    (h : (f.createSignupKey k order w).1.keyMap.get? s = some k') :
    k' = k ∨ f.keyMap.get? s = some k' := by
  unfold createSignupKey at h
  split at h
  · exact .inr h
  · rw [runKeyHooks_keyMap, GoMap.get?_set] at h
    split at h
    · exact .inl (Option.some.inj h).symm
    · exact .inr h

/-- A new key is stored under its value. -/
theorem keyed_createSignupKey (h : GoMap.Keyed SignupKey.value f.keyMap) (k : SignupKey)
    (order : List SignupKey) (w : Write) :
    GoMap.Keyed SignupKey.value (f.createSignupKey k order w).1.keyMap := by
  unfold createSignupKey
  split
  · exact h
  · rw [runKeyHooks_keyMap]
    exact h.set rfl

/-- A deletion leaves each other key under its value. -/
theorem keyed_deleteSignupKey (h : GoMap.Keyed SignupKey.value f.keyMap) (k : SignupKey)
    (order : List SignupKey) (w : Write) :
    GoMap.Keyed SignupKey.value (f.deleteSignupKey k order w).1.keyMap := by
  unfold deleteSignupKey
  split
  · exact h
  · rw [runKeyHooks_keyMap]
    exact h.delete k.value

/-! ### The maps of a store are keyed -/

/-- Each record of the two maps stands under its own name or value. -/
structure Keyed (f : UsersFile) : Prop where
  userMap : GoMap.Keyed User.username f.userMap
  keyMap : GoMap.Keyed SignupKey.value f.keyMap

/-- The store of a file has each user and each key under its own name. -/
theorem keyed_newUserFile (file : Option Conf) : (newUserFile file).Keyed :=
  ⟨GoMap.keyed_ofList _ _, GoMap.keyed_ofList _ _⟩

/-- A new user is stored under its name. -/
theorem Keyed.createUser (h : f.Keyed) (u : User) (now : Nat) (w : Write) :
    (f.createUser u now w).1.Keyed := by
  refine ⟨?_, by rw [createUser_keyMap]; exact h.keyMap⟩
  unfold UsersFile.createUser
  split
  · exact h.userMap
  · rw [runUserHooks_userMap]
    exact h.userMap.set rfl

/-- A new password leaves the names alone. -/
theorem Keyed.updatePasswd (h : f.Keyed) (username password : String)
    (bcrypt : Except String String) (w : Write) :
    (f.updatePasswd username password bcrypt w).1.Keyed := by
  refine ⟨?_, by rw [updatePasswd_keyMap]; exact h.keyMap⟩
  unfold UsersFile.updatePasswd
  split
  · exact h.userMap
  · next u hu =>
    split
    · exact h.userMap
    · rw [runUserHooks_userMap]
      exact h.userMap.set (h.userMap username u hu)

/-- A deletion leaves each other user under its name. -/
theorem Keyed.deleteUserByUsername (h : f.Keyed) (username : String) (w : Write) :
    (f.deleteUserByUsername username w).1.Keyed := by
  refine ⟨?_, by rw [deleteUserByUsername_keyMap]; exact h.keyMap⟩
  unfold UsersFile.deleteUserByUsername
  split
  · exact h.userMap
  · rw [runUserHooks_userMap]
    exact h.userMap.delete username

/-- A new key is stored under its value, and no user moves. -/
theorem Keyed.createSignupKey (h : f.Keyed) (k : SignupKey) (order : List SignupKey) (w : Write) :
    (f.createSignupKey k order w).1.Keyed := by
  refine ⟨?_, keyed_createSignupKey h.keyMap k order w⟩
  rw [createSignupKey_userMap]
  exact h.userMap

/-- A deleted key moves nothing else. -/
theorem Keyed.deleteSignupKey (h : f.Keyed) (k : SignupKey) (order : List SignupKey) (w : Write) :
    (f.deleteSignupKey k order w).1.Keyed := by
  refine ⟨?_, keyed_deleteSignupKey h.keyMap k order w⟩
  rw [deleteSignupKey_userMap]
  exact h.userMap

end UsersFile

end Haaukins.Store
