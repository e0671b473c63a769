import Haaukins.Lib.Machine
import Haaukins.Store.User

/-!
# `Haaukins.Store.UserFile`: the users file as a copy of the store

`UsersFile.Same` compares what two stores show to their callers. The file is a faithful copy
when the store that `NewUserFile` builds from it is the same as the current one.

`UpdatePasswd` writes the new hash into the record behind the pointer of `userMap`, while
the hook writes `users`, whose record keeps the old hash. So the file is a faithful copy along
a run exactly when each password update of the run fails or finds the hash that it sets.
-/

set_option autoImplicit false

namespace Haaukins.Store

/-- The calls on a users file that change it. -/
inductive UserFileAction where
  | createUser (u : User) (now : Nat) (w : Write)
  | updatePasswd (username password : String) (bcrypt : Except String String) (w : Write)
  | deleteUserByUsername (username : String) (w : Write)
  | createSignupKey (k : SignupKey) (order : List SignupKey) (w : Write)
  | deleteSignupKey (k : SignupKey) (order : List SignupKey) (w : Write)

namespace UserFileAction

/-- The outcome of the file write of a call. -/
def write : UserFileAction → Write
  | createUser _ _ w | updatePasswd _ _ _ w | deleteUserByUsername _ w
  | createSignupKey _ _ w | deleteSignupKey _ _ w => w

/-- The call, with the store after it and the error that it returns. -/
def call (f : UsersFile) : UserFileAction → UsersFile × Option String
  | createUser u now w => f.createUser u now w
  | updatePasswd username password bcrypt w => f.updatePasswd username password bcrypt w
  | deleteUserByUsername username w => f.deleteUserByUsername username w
  | createSignupKey k order w => f.createSignupKey k order w
  | deleteSignupKey k order w => f.deleteSignupKey k order w

/-- The key list of a call is one that `ListSignupKeys` can return after it. -/
def Listed (f : UsersFile) : UserFileAction → Prop
  | createSignupKey k order w => (f.createSignupKey k order w).1.Listed order
  | deleteSignupKey k order w => (f.deleteSignupKey k order w).1.Listed order
  | _ => True

instance (f : UsersFile) (a : UserFileAction) : Decidable (a.Listed f) := by
  cases a <;> dsimp only [Listed] <;> infer_instance

/-- A password update fails, or the user already has the hash. -/
def KeepsHash (f : UsersFile) : UserFileAction → Prop
  | updatePasswd username password bcrypt _ =>
    ∀ u hash, f.userMap.get? username = some u →
      generateHashedPasswd bcrypt password = .ok hash → hash = u.hashedPassword
  | _ => True

end UserFileAction

/-- The calls on the store that `NewUserFile` returns for some file. -/
def userFile (file : Option Conf) : Machine UsersFile UserFileAction where
  init f := f = newUserFile file
  step f a := if a.Listed f then some (a.call f).1 else none

/-- Each call keeps the records under their names. -/
theorem UsersFile.Keyed.call {f : UsersFile} (h : f.Keyed) (a : UserFileAction) :
    (a.call f).1.Keyed := by
  cases a with
  | createUser u now w => exact h.createUser u now w
  | updatePasswd username password bcrypt w => exact h.updatePasswd username password bcrypt w
  | deleteUserByUsername username w => exact h.deleteUserByUsername username w
  | createSignupKey k order w => exact h.createSignupKey k order w
  | deleteSignupKey k order w => exact h.deleteSignupKey k order w

/-- A users file is keyed in each state that it can reach. -/
theorem UsersFile.keyed_reachable {file : Option Conf} {ok : UsersFile → UserFileAction → Prop}
    {f : UsersFile} (h : (userFile file).Reachable ok f) : f.Keyed := by
  refine h.invariant UsersFile.Keyed (fun f hf => ?_) fun f a g hf _ hs => ?_
  · show f.Keyed
    rw [show f = newUserFile file from hf]
    exact UsersFile.keyed_newUserFile file
  · simp only [userFile, Option.ite_none_right_eq_some, Option.some.injEq] at hs
    obtain ⟨-, rfl⟩ := hs
    exact hf.call a

/-- The usernames and the key values of the record are pairwise distinct. -/
def Conf.Distinct (conf : Conf) : Prop :=
  (conf.users.map User.username).Nodup ∧ (conf.signupKeys.map SignupKey.value).Nodup

namespace UsersFile

/-- The two stores answer every lookup and list the same users. -/
def Same (f g : UsersFile) : Prop :=
  (∀ username, f.getUserByUsername username = g.getUserByUsername username) ∧
  f.listUsers = g.listUsers ∧
  (∀ s, f.getSignupKey s = g.getSignupKey s)

/-- The maps of the store agree with its lists, and the lists are what the file holds. -/
structure Mirrored (f : UsersFile) : Prop where
  distinct : f.conf.Distinct
  users : f.conf.users = f.users
  userMap : ∀ username u, f.userMap.get? username = some u ↔ u ∈ f.users ∧ u.username = username
  keyMap : ∀ s k, f.keyMap.get? s = some k ↔ k ∈ f.conf.signupKeys ∧ k.value = s
  saved : f.file = some f.conf ∨ f.file = none ∧ f.conf = { users := [], signupKeys := [] }

/-- The new store mirrors the file that was read. -/
theorem mirrored_new {file : Option Conf} (h : ∀ conf ∈ file, conf.Distinct) :
    (newUserFile file).Mirrored := by
  have hconf : (file.getD { users := [], signupKeys := [] }).Distinct := by
    cases file with
    | none => exact ⟨List.nodup_nil, List.nodup_nil⟩
    | some conf => exact h conf rfl
  refine ⟨hconf, rfl, GoMap.get?_ofList hconf.1, GoMap.get?_ofList hconf.2, ?_⟩
  cases file with
  | none => exact .inr ⟨rfl, rfl⟩
  | some conf => exact .inl rfl

variable {f g : UsersFile}

/-- Loading the file of a mirrored store gives the same store. -/
theorem Mirrored.same (h : f.Mirrored) : f.Same (newUserFile f.file) := by
  have hload : (newUserFile f.file).conf = f.conf := by
    rcases h.saved with hfile | ⟨hfile, hempty⟩
    · simp [newUserFile, hfile]
    · simp [newUserFile, hfile, hempty]
  have hdistinct : ∀ conf ∈ f.file, conf.Distinct := by
    intro conf hconf
    rcases h.saved with hfile | ⟨hfile, -⟩
    · rw [hfile] at hconf
      cases hconf
      exact h.distinct
    · simp [hfile] at hconf
  have hnew := mirrored_new hdistinct
  have husers : (newUserFile f.file).users = f.users := by
    rw [← hnew.users, hload, h.users]
  have huser : ∀ username,
      f.userMap.get? username = (newUserFile f.file).userMap.get? username := by
    intro username
    refine Option.ext fun u => ?_
    rw [h.userMap, hnew.userMap, husers]
  have hkey : ∀ s, f.keyMap.get? s = (newUserFile f.file).keyMap.get? s := by
    intro s
    refine Option.ext fun k => ?_
    rw [h.keyMap, hnew.keyMap, hload]
  exact ⟨fun username => by simp only [getUserByUsername, huser], husers.symm,
    fun s => by simp only [getSignupKey, hkey]⟩

/-- A username without an entry in `userMap` is the name of no listed user. -/
theorem Mirrored.notMem_users (h : f.Mirrored) {username : String}
    (hnone : f.userMap.get? username = none) : ∀ u ∈ f.users, u.username ≠ username := by
  intro u hu heq
  have := (h.userMap username u).mpr ⟨hu, heq⟩
  simp [hnone] at this

/-- A store after its user hook: only the users have to be checked. -/
theorem Mirrored.runUserHooks (h : f.Mirrored) {userMap : GoMap String User}
    {users : List User} (hdistinct : (users.map User.username).Nodup)
    (hmap : ∀ username u, userMap.get? username = some u ↔ u ∈ users ∧ u.username = username) :
    (UsersFile.runUserHooks { f with userMap := userMap, users := users } .done).1.Mirrored :=
  ⟨⟨hdistinct, h.distinct.2⟩, rfl, hmap, h.keyMap, .inl rfl⟩

/-- A user that is created is in the map and in the list. -/
theorem Mirrored.createUser (h : f.Mirrored) (u : User) (now : Nat) :
    (f.createUser u now .done).1.Mirrored := by
  unfold UsersFile.createUser
  split
  · exact h
  · next hnone =>
    have hnew := h.notMem_users hnone
    refine h.runUserHooks ?_ ?_
    · rw [List.map_append, List.nodup_append]
      refine ⟨h.users ▸ h.distinct.1, by simp, ?_⟩
      intro x hx y hy
      obtain ⟨v, hv, rfl⟩ := List.mem_map.mp hx
      simp only [List.map_cons, List.map_nil, List.mem_singleton] at hy
      exact hy ▸ hnew v hv
    · intro username v
      simp only [GoMap.get?_set, List.mem_append, List.mem_singleton]
      split
      · next heq =>
        subst heq
        constructor
        · intro hv
          cases hv
          exact ⟨.inr rfl, rfl⟩
        · rintro ⟨hv | rfl, hname⟩
          · exact absurd hname (hnew v hv)
          · rfl
      · next hne =>
        rw [h.userMap]
        constructor
        · rintro ⟨hv, hname⟩
          exact ⟨.inl hv, hname⟩
        · rintro ⟨hv | rfl, hname⟩
          · exact ⟨hv, hname⟩
          · exact absurd hname.symm hne

/-- A user that is deleted is in neither. -/
theorem Mirrored.deleteUserByUsername (h : f.Mirrored) (username : String) :
    (f.deleteUserByUsername username .done).1.Mirrored := by
  unfold UsersFile.deleteUserByUsername
  have hnodup : (f.users.map User.username).Nodup := h.users ▸ h.distinct.1
  split
  · exact h
  · refine h.runUserHooks (hnodup.sublist (List.eraseP_sublist.map _)) ?_
    intro name v
    rw [GoMap.get?_delete, GoMap.mem_eraseP_key hnodup]
    split
    · next heq => simp [heq]
    · next hne =>
      rw [h.userMap]
      constructor
      · rintro ⟨hv, rfl⟩
        exact ⟨⟨hv, hne⟩, rfl⟩
      · rintro ⟨⟨hv, -⟩, rfl⟩
        exact ⟨hv, rfl⟩

/-- Setting the hash that the user already has changes nothing. -/
theorem Mirrored.updatePasswd (h : f.Mirrored) (username password : String)
    (bcrypt : Except String String)
    (hkeeps : (UserFileAction.updatePasswd username password bcrypt .done).KeepsHash f) :
    (f.updatePasswd username password bcrypt .done).1.Mirrored := by
  unfold UsersFile.updatePasswd
  split
  · exact h
  · next u hu =>
    split
    · exact h
    · next hash hhash =>
      obtain rfl := hkeeps u hash hu hhash
      refine h.runUserHooks (h.users ▸ h.distinct.1) ?_
      intro name v
      rw [GoMap.get?_set]
      split
      · next heq => rw [heq, ← h.userMap, hu]
      · exact h.userMap name v

/-- A store after its key hook: only the keys have to be checked. -/
theorem Mirrored.runKeyHooks (h : f.Mirrored) {keyMap : GoMap String SignupKey}
    {order : List SignupKey} (hkeyed : GoMap.Keyed SignupKey.value keyMap)
    (horder : order.Perm keyMap.values) :
    (UsersFile.runKeyHooks { f with keyMap := keyMap } order .done).1.Mirrored := by
  refine ⟨⟨h.distinct.1, ?_⟩, h.users, h.userMap, ?_, .inl rfl⟩
  · exact (horder.map SignupKey.value).nodup_iff.mpr hkeyed.nodup_values
  · intro s k
    show keyMap.get? s = some k ↔ k ∈ order ∧ k.value = s
    rw [horder.mem_iff, GoMap.mem_values]
    constructor
    · intro hk
      exact ⟨⟨s, hk⟩, hkeyed s k hk⟩
    · rintro ⟨⟨s', hk⟩, rfl⟩
      rwa [hkeyed s' k hk]

/-- Each key of the map has its own value as its name. -/
theorem Mirrored.keyed (h : f.Mirrored) : GoMap.Keyed SignupKey.value f.keyMap :=
  fun s k hk => ((h.keyMap s k).mp hk).2

/-- A key that is created is in the map and in the list. -/
theorem Mirrored.createSignupKey (h : f.Mirrored) {k : SignupKey} {order : List SignupKey}
    (horder : (f.createSignupKey k order .done).1.Listed order) :
    (f.createSignupKey k order .done).1.Mirrored := by
  unfold UsersFile.createSignupKey at *
  split at horder
  · exact h
  · exact h.runKeyHooks (h.keyed.set rfl) horder

/-- A key that is deleted is in neither. -/
theorem Mirrored.deleteSignupKey (h : f.Mirrored) {k : SignupKey} {order : List SignupKey}
    (horder : (f.deleteSignupKey k order .done).1.Listed order) :
    (f.deleteSignupKey k order .done).1.Mirrored := by
  unfold UsersFile.deleteSignupKey at *
  split at horder
  · exact h
  · exact h.runKeyHooks (h.keyed.delete k.value) horder

variable {file : Option Conf} {a : UserFileAction}

/-- A saved call that keeps the hashes keeps the store mirrored. -/
theorem mirrored_step (h : f.Mirrored) (hw : a.write = .done) (hkeeps : a.KeepsHash f)
    (hs : (userFile file).step f a = some g) : g.Mirrored := by
  simp only [userFile, Option.ite_none_right_eq_some, Option.some.injEq] at hs
  obtain ⟨hlisted, rfl⟩ := hs
  cases a with
  | createUser u now w =>
    cases hw
    exact h.createUser u now
  | updatePasswd username password bcrypt w =>
    cases hw
    exact h.updatePasswd username password bcrypt hkeeps
  | deleteUserByUsername username w =>
    cases hw
    exact h.deleteUserByUsername username
  | createSignupKey k order w =>
    cases hw
    exact h.createSignupKey hlisted
  | deleteSignupKey k order w =>
    cases hw
    exact h.deleteSignupKey hlisted

/-- A saved call that changes a hash leaves the old hash in the file. -/
theorem not_same_step (h : f.Mirrored) (hw : a.write = .done) (hkeeps : ¬ a.KeepsHash f)
    (hs : (userFile file).step f a = some g) : ¬ g.Same (newUserFile g.file) := by
  simp only [userFile, Option.ite_none_right_eq_some, Option.some.injEq] at hs
  obtain ⟨-, rfl⟩ := hs
  cases a with
  | updatePasswd username password bcrypt w =>
    cases hw
    simp only [UserFileAction.KeepsHash, not_forall] at hkeeps
    obtain ⟨u, hash, hu, hhash, hne⟩ := hkeeps
    -- The file holds the users as they were before the call.
    have hnodup : (f.users.map User.username).Nodup := h.users ▸ h.distinct.1
    have hold : (GoMap.ofList User.username f.users).get? username = some u := by
      rw [GoMap.get?_ofList hnodup, ← h.userMap, hu]
    rintro ⟨hget, -, -⟩
    have := hget username
    simp [UserFileAction.call, UsersFile.updatePasswd, hu, hhash, UsersFile.runUserHooks, save,
      newUserFile, getUserByUsername, hold] at this
    exact hne (congrArg User.hashedPassword this)
  | _ => exact absurd trivial hkeeps

end UsersFile

/-- The file is a faithful copy of the store in every state of a run whose writes succeed if
and only if each password update of the run fails or sets the hash that the user already
has. -/
theorem newUserFile_same_iff (file : Option Conf) (hfile : ∀ conf ∈ file, conf.Distinct)
    (as : List UserFileAction) (hw : ∀ a ∈ as, a.write = .done) :
    (userFile file).AllStates (fun f => f.Same (newUserFile f.file)) (newUserFile file) as ↔
      (userFile file).AllSteps (fun f a => a.KeepsHash f) (newUserFile file) as :=
  Machine.allStates_iff_allSteps (fun _ h => h.same)
    (fun _ _ _ h hw hkeeps hs => UsersFile.mirrored_step h hw hkeeps hs)
    (fun _ _ _ h hw hkeeps hs => UsersFile.not_same_step h hw hkeeps hs)
    (UsersFile.mirrored_new hfile) (Machine.allSteps_of_forall hw)

/-- A user with the hash `"h1"`. -/
def tkp : User where
  username := "tkp"
  name := ""
  surname := ""
  email := ""
  hashedPassword := "h1"
  superUser := false
  npUser := false
  createdAt := 0

/-- A password that is too short changes neither the store nor the file. -/
theorem newUserFile_same_short :
    (userFile none).AllStates (fun f => f.Same (newUserFile f.file)) (newUserFile none)
      [.createUser tkp 7 .done, .updatePasswd "tkp" "12345" (.ok "h2") .done] := by
  refine (newUserFile_same_iff none (by simp) _ (by simp [UserFileAction.write])).mpr ?_
  have hshort : generateHashedPasswd (.ok "h2") "12345" = .error passwdTooShortErr := by decide
  simp [Machine.AllSteps, UserFileAction.KeepsHash, hshort]

/-- After a change of password the store that is loaded again has the old hash. -/
theorem newUserFile_not_same :
    ¬ ∀ (file : Option Conf) (as : List UserFileAction), (∀ conf ∈ file, conf.Distinct) →
      (∀ a ∈ as, a.write = .done) →
      (userFile file).AllStates (fun f => f.Same (newUserFile f.file)) (newUserFile file) as := by
  intro h
  have hall := h none [.createUser tkp 7 .done, .updatePasswd "tkp" "123456" (.ok "h2") .done]
    (by simp) (by simp [UserFileAction.write])
  obtain ⟨f, hnot, hsame, -⟩ := hall.of_run (fun f => decide
    (f.getUserByUsername "tkp" = (newUserFile f.file).getUserByUsername "tkp")) false (by decide)
  exact of_decide_eq_false hnot (hsame "tkp")

end Haaukins.Store
