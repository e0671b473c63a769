import Haaukins.Daemon.UserRequests

/-!
# `Haaukins.Daemon.SuperUsers`: where super users come from and go (`daemon/user.go`)

The requests on users, one at a time, after `New` has loaded the users file and made its first
key. Each request carries the metadata from which `AuthenticateContext` takes its caller.

`Evolves` is the rule. A super user comes with a key for super users, which is used up, and goes
only on a request of his own. `superUsers_evolve_iff` says along which runs the rule holds.
`DestroyUser` lets a super user delete another one, and a `SignupUser` whose account is not
written keeps its key.

No step reads `initialKeys` or `invitations`. They record where the keys come from.
-/

set_option autoImplicit false

namespace Haaukins.Daemon

open Haaukins.Store

/-- A key of `InviteUser`, and whether its caller was a super user then. -/
structure Invitation where
  key : SignupKey
  bySuperUser : Bool

/-- The users file, the keys that were there at the start, and those that were made later. -/
structure UserState where
  users : UsersFile
  initialKeys : List SignupKey
  invitations : List Invitation

/-- The requests on users, with the outcomes of their calls. -/
inductive UserRequest where
  | signupUser (req : SignupUserRequest) (c : SignupCalls)
  | inviteUser (superUser npUser : Bool) (value : String) (order : List SignupKey) (w : Write)
  | destroyUser (username : String) (w : Write)
  | changeUserPasswd (username password : String) (bcrypt : Except String String) (w : Write)

/-- The endpoint is one of `nonAuth`. -/
def UserRequest.nonAuth : UserRequest → Bool
  | signupUser _ _ => true
  | _ => false

/-- A request with its metadata, at a time. -/
structure UserCall where
  md : Option (List String)
  now : Timestamp
  request : UserRequest

/-- The key that `New` makes when there are no users and no keys, or the error of its write. -/
def bootstrap (f : UsersFile) (value : String) (order : List SignupKey) (w : Write) :
    Except String UsersFile :=
  if f.listUsers.length = 0 ∧ f.keyMap.size = 0 then
    match f.createSignupKey { willBeNPUser := false, willBeSuperUser := true, value := value }
      order w with
    | (_, some err) => .error err
    | (f, none) => .ok f
  else .ok f

namespace UserState

variable (lib : AuthLibrary) (s : UserState)

/-- The store has a super user of this name. -/
def IsSuperUser (name : String) : Prop :=
  ∃ u, s.users.userMap.get? name = some u ∧ u.superUser = true

/-- `userstore.IsSuperUser`, which is false here for a name without a user. -/
def isSuperUser (name : String) : Bool := (s.users.userMap.get? name).any User.superUser

/-- The key was in the initial file, or `New` made it, or a super user of its time. -/
def Granted (k : SignupKey) : Prop :=
  k ∈ s.initialKeys ∨ ∃ i ∈ s.invitations, i.key = k ∧ i.bySuperUser = true

/-- The handler of a request. `ctx` is the user that the context has. -/
def handle (ctx : Option User) : UserRequest → UserState
  | .signupUser req c => { s with users := (lib.signupUser s.users req c).1 }
  | .inviteUser superUser npUser value order w =>
    -- Without a user in the context the flag `SuperUser` is not set.
    ctx.elim s fun u => { s with
      users := (inviteUser s.users u superUser npUser value order w).1
      invitations := ⟨⟨npUser, superUser, value⟩, s.isSuperUser u.username⟩ :: s.invitations }
  | .destroyUser username w =>
    ctx.elim s fun u => { s with users := (destroyUser s.users u username w).1 }
  | .changeUserPasswd username password bcrypt w =>
    ctx.elim s fun u =>
      { s with users := (changeUserPasswd s.users u username password bcrypt w).1 }

/-- The unary interceptor. The endpoints of `nonAuth` get every request. -/
def call (a : UserCall) : UserState :=
  let ctx := lib.authenticateContext s.users a.md a.now
  -- Without a valid token an endpoint of `nonAuth` has no user in its context.
  if a.request.nonAuth then s.handle lib ctx.toOption a.request
  else
    match ctx with
    | .error _ => s
    | .ok u => s.handle lib (some u) a.request

end UserState

/-- The requests after `New` has loaded some users file. -/
def userRequests (lib : AuthLibrary) : Machine UserState UserCall where
  init s := ∃ file value order w, bootstrap (newUserFile file) value order w = .ok s.users ∧
    s.initialKeys = s.users.keyMap.values ∧ s.invitations = []
  step s a := some (s.call lib a)

/-- The rule for the set of super users. -/
structure Evolves (lib : AuthLibrary) (s : UserState) (a : UserCall) (t : UserState) : Prop where
  appears : ∀ name, ¬ s.IsSuperUser name → t.IsSuperUser name →
    ∃ req c k, a.request = .signupUser req c ∧ name = lib.toLower req.username ∧
      s.users.keyMap.get? req.key = some k ∧ k.willBeSuperUser = true ∧ s.Granted k ∧
      req.key ∉ t.users.keyMap
  disappears : ∀ name, s.IsSuperUser name → ¬ t.IsSuperUser name →
    ∃ u, lib.authenticateContext s.users a.md a.now = .ok u ∧ u.username = name

/-- The account of a super user is written, and a super user deletes no other one. -/
def Privileged (lib : AuthLibrary) (s : UserState) (a : UserCall) : Prop :=
  match a.request with
  | .signupUser req c => ∀ hash k, lib.Admits s.users req c hash k →
      k.willBeSuperUser = true → c.userWrite = .done
  | .destroyUser username _ => ∀ u, lib.authenticateContext s.users a.md a.now = .ok u →
      u.superUser = true → s.IsSuperUser username → u.username = username
  | _ => True

/-- The records stand under their names, and each key for super users was granted. -/
structure Provenance (s : UserState) : Prop where
  keyed : s.users.Keyed
  granted : ∀ key k, s.users.keyMap.get? key = some k → k.willBeSuperUser = true → s.Granted k

/-! ### What a request does to the super users -/

variable {lib : AuthLibrary} {s t : UserState} {a : UserCall}

/-- A request that leaves the set of super users as it is keeps the rule. -/
theorem evolves_of_same (h : ∀ name, t.IsSuperUser name ↔ s.IsSuperUser name) :
    Evolves lib s a t where
  appears name hnot hsuper := absurd ((h name).mp hsuper) hnot
  disappears name hsuper hnot := absurd ((h name).mpr hsuper) hnot

/-- The test, and what it tests. -/
theorem isSuperUser_iff {name : String} : s.isSuperUser name = true ↔ s.IsSuperUser name := by
  unfold UserState.isSuperUser UserState.IsSuperUser
  rw [Option.any_eq_true]

/-- It reads the map of the users alone. -/
theorem isSuperUser_of_userMap (h : t.users.userMap = s.users.userMap) (name : String) :
    t.IsSuperUser name ↔ s.IsSuperUser name := by
  unfold UserState.IsSuperUser
  rw [h]

/-- A new password changes no privilege. -/
theorem isSuperUser_updatePasswd {f : UsersFile} {username password : String}
    {bcrypt : Except String String} {w : Write} (hs : s.users = f)
    (ht : t.users = (f.updatePasswd username password bcrypt w).1) (name : String) :
    t.IsSuperUser name ↔ s.IsSuperUser name := by
  unfold UserState.IsSuperUser
  rw [ht, hs]
  unfold UsersFile.updatePasswd
  split
  · rfl
  · next u hu =>
    split
    · rfl
    · rw [UsersFile.runUserHooks_userMap]
      dsimp only
      rw [GoMap.get?_set]
      split
      · next heq => simp [heq, hu]
      · rfl

/-- `InviteUser` of a super user makes a key, and any other one changes nothing. -/
theorem inviteUser_users {f : UsersFile} {u : User} {superUser npUser : Bool} {value : String}
    {order : List SignupKey} {w : Write} :
    (inviteUser f u superUser npUser value order w).1 =
      if u.superUser = true then (f.createSignupKey ⟨npUser, superUser, value⟩ order w).1
      else f := by
  unfold inviteUser
  split
  · dsimp only
    split
    · next h => rw [h]
    · next h => rw [h]
  · rfl

/-- A request for a password changes a password or nothing. -/
theorem changeUserPasswd_users (f : UsersFile) (u : User) (username password : String)
    (bcrypt : Except String String) (w : Write) :
    (changeUserPasswd f u username password bcrypt w).1 = f ∨
      (changeUserPasswd f u username password bcrypt w).1 =
        (f.updatePasswd username password bcrypt w).1 := by
  unfold changeUserPasswd
  split
  · exact .inl rfl
  · split
    · refine .inr ?_
      split
      · next h => rw [h]
      · next h => rw [h]
    · exact .inl rfl

/-- A super user deletes, and the others do not. -/
theorem destroyUser_users {f : UsersFile} {u : User} {username : String} {w : Write} :
    (destroyUser f u username w).1 =
      if u.superUser = true then (f.deleteUserByUsername username w).1 else f := by
  unfold destroyUser
  split
  · split
    · next h => rw [h]
    · next h => rw [h]
  · rfl

/-- A deletion takes away its own user. -/
theorem deleteUserByUsername_get? {f : UsersFile} {username name : String} {w : Write} :
    (f.deleteUserByUsername username w).1.userMap.get? name =
      if name = username then none else f.userMap.get? name := by
  unfold UsersFile.deleteUserByUsername
  split
  · next hnone =>
    split
    · next heq => rw [heq]; exact hnone
    · rfl
  · rw [UsersFile.runUserHooks_userMap]
    exact GoMap.get?_delete _ _ _

/-- A deletion takes a super user away exactly when it is his name. -/
theorem evolves_deletion_iff {u : User} {username : String} {w : Write}
    (hcaller : lib.authenticateContext s.users a.md a.now = .ok u)
    (ht : t.users = (s.users.deleteUserByUsername username w).1) :
    Evolves lib s a t ↔ (s.IsSuperUser username → u.username = username) := by
  have hsuper : ∀ name, t.IsSuperUser name ↔ name ≠ username ∧ s.IsSuperUser name := by
    intro name
    unfold UserState.IsSuperUser
    simp only [ht, deleteUserByUsername_get?]
    split
    · next heq => simp [heq]
    · next hne => simp [hne]
  constructor
  · intro h husername
    -- The super user of the request disappears, so it was the caller.
    obtain ⟨v, hv, hname⟩ := h.disappears username husername fun ht => ((hsuper _).mp ht).1 rfl
    rw [hcaller] at hv
    cases hv
    exact hname
  · intro h
    refine ⟨fun name hnot hname => absurd ((hsuper name).mp hname).2 hnot, ?_⟩
    intro name hname hgone
    have heq : name = username := by
      by_contra hne
      exact hgone ((hsuper name).mpr ⟨hne, hname⟩)
    exact ⟨u, hcaller, heq ▸ h (heq ▸ hname)⟩

/-- An account for a super user keeps the rule exactly when its key is used up. -/
theorem evolves_signup_iff (hinv : Provenance s) {req : SignupUserRequest} {c : SignupCalls}
    (hreq : a.request = .signupUser req c) {hash : String} {k : SignupKey}
    (hadmits : lib.Admits s.users req c hash k)
    (ht : t.users = (lib.signupUser s.users req c).1) :
    Evolves lib s a t ↔ (k.willBeSuperUser = true → c.userWrite = .done) := by
  obtain ⟨hmap, -, hkeys⟩ := AuthLibrary.signupUser_stores hadmits hinv.keyed
  have hsuper : ∀ name, t.IsSuperUser name ↔
      name = lib.toLower req.username ∧ k.willBeSuperUser = true ∨ s.IsSuperUser name := by
    intro name
    unfold UserState.IsSuperUser
    rw [ht, hmap, GoMap.get?_set]
    split
    · next heq => simp [heq, hadmits.free, AuthLibrary.account]
    · next hne => simp [hne]
  have hnot : ¬ s.IsSuperUser (lib.toLower req.username) := by
    rintro ⟨u, hu, -⟩
    rw [hadmits.free] at hu
    cases hu
  constructor
  · intro h hk
    -- The new super user appears, so the rule says that the key is gone.
    obtain ⟨req', c', -, hreq', -, -, -, -, hused⟩ :=
      h.appears _ hnot ((hsuper _).mpr (.inl ⟨rfl, hk⟩))
    rw [hreq] at hreq'
    cases hreq'
    by_contra hw
    rw [ht, hkeys, if_neg hw] at hused
    exact hused (GoMap.mem_iff_get?.mpr ⟨k, hadmits.key⟩)
  · intro h
    constructor
    · intro name hname htname
      rcases (hsuper name).mp htname with ⟨rfl, hk⟩ | hold
      -- The account is written, and `DeleteSignupKey` finds its key.
      · refine ⟨req, c, k, hreq, rfl, hadmits.key, hk, hinv.granted _ k hadmits.key hk, ?_⟩
        rw [ht, hkeys, if_pos (h hk), GoMap.mem_delete]
        exact fun hmem => hmem.1 rfl
      · exact absurd hold hname
    · intro name hname hgone
      exact absurd ((hsuper name).mpr (.inr hname)) hgone

/-- One request keeps the rule exactly under its condition. -/
theorem evolves_iff (hinv : Provenance s) :
    Evolves lib s a (s.call lib a) ↔ Privileged lib s a := by
  unfold Privileged UserState.call
  cases hreq : a.request with
  | signupUser req c =>
    simp only [UserRequest.nonAuth, if_true]
    rcases lib.signupUser_cases s.users req c with ⟨hash, k, hadmits⟩ | ⟨hnot, err, herr⟩
    · rw [evolves_signup_iff hinv hreq hadmits rfl]
      constructor
      · intro h hash' k' hadmits'
        cases hadmits.key.symm.trans hadmits'.key
        exact h
      · intro h
        exact h hash k hadmits
    · refine iff_of_true (evolves_of_same fun name => ?_) fun hash k hk => ?_
      · exact isSuperUser_of_userMap (by simp [UserState.handle, herr]) name
      · exact absurd hk (hnot hash k)
  | inviteUser superUser npUser value order w =>
    refine iff_of_true (evolves_of_same fun name => ?_) trivial
    simp only [UserRequest.nonAuth, Bool.false_eq_true, if_false]
    cases lib.authenticateContext s.users a.md a.now with
    | error err => rfl
    | ok u =>
      refine isSuperUser_of_userMap ?_ name
      show (inviteUser _ _ _ _ _ _ _).1.userMap = _
      rw [inviteUser_users]
      split
      · exact UsersFile.createSignupKey_userMap _ _ _ _
      · rfl
  | changeUserPasswd username password bcrypt w =>
    refine iff_of_true (evolves_of_same fun name => ?_) trivial
    simp only [UserRequest.nonAuth, Bool.false_eq_true, if_false]
    cases lib.authenticateContext s.users a.md a.now with
    | error err => rfl
    | ok u =>
      rcases changeUserPasswd_users s.users u username password bcrypt w with hsame | hupdate
      · exact isSuperUser_of_userMap (congrArg UsersFile.userMap hsame) name
      · exact isSuperUser_updatePasswd rfl hupdate name
  | destroyUser username w =>
    simp only [UserRequest.nonAuth, Bool.false_eq_true, if_false]
    cases hcaller : lib.authenticateContext s.users a.md a.now with
    | error err =>
      exact iff_of_true (evolves_of_same fun _ => Iff.rfl) fun u hu => by cases hu
    | ok u =>
      simp only [UserState.handle, Option.elim_some, Except.ok.injEq, forall_eq']
      by_cases hsuper : u.superUser = true
      -- `DestroyUser` deletes for a super user whatever name it gets.
      · rw [evolves_deletion_iff hcaller (by rw [destroyUser_users, if_pos hsuper])]
        exact (imp_iff_right hsuper).symm
      · refine iff_of_true (evolves_of_same fun name => ?_) fun h => absurd h hsuper
        exact isSuperUser_of_userMap (by rw [destroyUser_users, if_neg hsuper]) name

/-! ### Where the keys come from -/

/-- At first each super user and each key comes from the file. -/
theorem provenance_init (h : (userRequests lib).init s) : Provenance s := by
  obtain ⟨file, value, order, w, hboot, hkeys, -⟩ := h
  refine ⟨?_, fun key k hget _ => .inl ?_⟩
  · have hnew := UsersFile.keyed_newUserFile file
    unfold bootstrap at hboot
    split at hboot
    · split at hboot
      · cases hboot
      · next f hcreate =>
        cases hboot
        have hkeyed := hnew.createSignupKey ⟨false, true, value⟩ order w
        rw [hcreate] at hkeyed
        exact hkeyed
    · exact Except.ok.inj hboot ▸ hnew
  · rw [hkeys]
    exact GoMap.mem_values.mpr ⟨key, hget⟩

/-- A request that adds no key keeps the books. -/
theorem Provenance.of_keyMap (h : Provenance s) (hkeyed : t.users.Keyed)
    (hless : ∀ key k, t.users.keyMap.get? key = some k → s.users.keyMap.get? key = some k)
    (hinitial : t.initialKeys = s.initialKeys) (hinvitations : t.invitations = s.invitations) :
    Provenance t := by
  refine ⟨hkeyed, fun key k hget hk => ?_⟩
  have hgranted := h.granted key k (hless key k hget) hk
  unfold UserState.Granted at hgranted ⊢
  rw [hinitial, hinvitations]
  exact hgranted

/-- A sign-up passes the rights of its key on. -/
theorem Provenance.signupUser (h : Provenance s) (req : SignupUserRequest) (c : SignupCalls) :
    Provenance { s with users := (lib.signupUser s.users req c).1 } := by
  refine h.of_keyMap (AuthLibrary.keyed_signupUser h.keyed) (fun key k hget => ?_) rfl rfl
  change (lib.signupUser s.users req c).1.keyMap.get? key = some k at hget
  rcases lib.signupUser_cases s.users req c with ⟨hash, k', hadmits⟩ | ⟨-, err, herr⟩
  · rw [(AuthLibrary.signupUser_stores hadmits h.keyed).2.2] at hget
    split at hget
    · rw [GoMap.get?_delete] at hget
      split at hget
      · cases hget
      · exact hget
    · exact hget
  · rw [herr] at hget
    exact hget

/-- The only new key is that of `InviteUser`, whose caller is a super user of the store. -/
theorem Provenance.inviteUser (h : Provenance s) {u : User}
    (hcaller : s.users.userMap.get? u.username = some u) (superUser npUser : Bool)
    (value : String) (order : List SignupKey) (w : Write) :
    Provenance { s with
      users := (Daemon.inviteUser s.users u superUser npUser value order w).1
      invitations :=
        ⟨⟨npUser, superUser, value⟩, s.isSuperUser u.username⟩ :: s.invitations } := by
  rw [inviteUser_users]
  -- What was granted stays granted.
  have hgranted : ∀ key k, s.users.keyMap.get? key = some k → k.willBeSuperUser = true →
      k ∈ s.initialKeys ∨ ∃ i ∈ (⟨⟨npUser, superUser, value⟩, s.isSuperUser u.username⟩ ::
        s.invitations : List Invitation), i.key = k ∧ i.bySuperUser = true := by
    intro key k hget hk
    refine (h.granted key k hget hk).imp_right ?_
    rintro ⟨i, hi, hgrant⟩
    exact ⟨i, List.mem_cons_of_mem _ hi, hgrant⟩
  split
  · next hsuper =>
    refine ⟨h.keyed.createSignupKey _ _ _, fun key k hget hk => ?_⟩
    rcases UsersFile.get?_createSignupKey hget with rfl | hold
    · refine .inr ⟨_, List.mem_cons_self, rfl, ?_⟩
      exact isSuperUser_iff.mpr ⟨u, hcaller, hsuper⟩
    · exact hgranted key k hold hk
  · exact ⟨h.keyed, hgranted⟩

/-- Each request keeps the books, whether or not it keeps the rule. -/
theorem provenance_step (h : Provenance s) (hs : (userRequests lib).step s a = some t) :
    Provenance t := by
  cases hs
  unfold UserState.call
  cases a.request with
  -- A sign-up needs no token; its rights are those of the key.
  | signupUser req c =>
    simp only [UserRequest.nonAuth, if_true]
    exact h.signupUser req c
  | inviteUser superUser npUser value order w =>
    simp only [UserRequest.nonAuth, Bool.false_eq_true, if_false]
    cases hcaller : lib.authenticateContext s.users a.md a.now with
    | error err => exact h
    | ok u =>
      -- The rights of a new key are those of the user that the token names now.
      have hcurrent := AuthLibrary.authenticateContext_current h.keyed hcaller
      exact h.inviteUser hcurrent superUser npUser value order w
  | destroyUser username w =>
    simp only [UserRequest.nonAuth, Bool.false_eq_true, if_false]
    cases lib.authenticateContext s.users a.md a.now with
    | error err => exact h
    | ok u =>
      show Provenance { s with users := (destroyUser s.users u username w).1 }
      rw [destroyUser_users]
      split
      · refine h.of_keyMap (h.keyed.deleteUserByUsername username w) (fun key k hget => ?_) rfl rfl
        -- A deletion writes to the map of the users, and leaves the keys.
        exact UsersFile.deleteUserByUsername_keyMap s.users username w ▸ hget
      · exact h
  | changeUserPasswd username password bcrypt w =>
    simp only [UserRequest.nonAuth, Bool.false_eq_true, if_false]
    cases lib.authenticateContext s.users a.md a.now with
    | error err => exact h
    | ok u =>
      show Provenance { s with users := (changeUserPasswd s.users u username password bcrypt w).1 }
      rcases changeUserPasswd_users s.users u username password bcrypt w
        with hsame | hupdate
      · rw [hsame]
        exact h
      · rw [hupdate]
        refine h.of_keyMap (h.keyed.updatePasswd username password bcrypt w) (fun key k hget => ?_)
          rfl rfl
        -- So does a new password.
        exact UsersFile.updatePasswd_keyMap s.users username password bcrypt w ▸ hget

/-- Along a run the set of super users keeps to its rule if and only if no super user deletes
another one, and the account of each new super user is written. -/
theorem superUsers_evolve_iff (lib : AuthLibrary) (s : UserState)
    (hs : (userRequests lib).init s) (as : List UserCall) :
    (userRequests lib).AllSteps
        (fun s a => ∀ t, (userRequests lib).step s a = some t → Evolves lib s a t) s as ↔
      (userRequests lib).AllSteps (Privileged lib) s as := by
  have hstep : ∀ s a, Provenance s →
      ((∀ t, (userRequests lib).step s a = some t → Evolves lib s a t) ↔ Privileged lib s a) := by
    intro s a hinv
    rw [← evolves_iff hinv]
    constructor
    · intro h
      exact h _ rfl
    · intro h t ht
      cases ht
      exact h
  constructor
  · intro h
    exact h.strengthen (fun _ _ _ hI _ ht => provenance_step hI ht)
      (fun s a hI hok => (hstep s a hI).mp hok) (provenance_init hs)
  · intro h
    exact h.strengthen (fun _ _ _ hI _ ht => provenance_step hI ht)
      (fun s a hI hok => (hstep s a hI).mpr hok) (provenance_init hs)

/-- A users file with two super users. -/
def twoAdmins : Conf where
  users := [{ tkp with superUser := true },
    { tkp with username := "ahm", superUser := true }]
  signupKeys := []

/-- The daemon after it has loaded the two super users. -/
def twoAdminsLoaded : UserState where
  users := newUserFile (some twoAdmins)
  initialKeys := []
  invitations := []

/-- A file with two super users may be loaded. -/
theorem twoAdminsLoaded_init (lib : AuthLibrary) : (userRequests lib).init twoAdminsLoaded :=
  ⟨some twoAdmins, "", [], .done, rfl, rfl, rfl⟩

/-- `"tkp"` asks to destroy a user, with a token of the first second. -/
def tkpDestroys (username : String) : UserCall where
  md := some [unaryJwt.signedString plainLibrary.key ⟨"tkp", true, clockZero.validUntil⟩]
  now := clockZero
  request := .destroyUser username .done

/-- The caller is one of them. -/
theorem tkpDestroys_caller (username : String) :
    plainLibrary.authenticateContext twoAdminsLoaded.users (tkpDestroys username).md
      (tkpDestroys username).now = .ok { tkp with superUser := true } := by
  have hvalid : clockZero.unix ≤ clockZero.validUntil := by decide
  exact (AuthLibrary.authenticateContext_signed unaryJwt_inverts).mpr ⟨rfl, hvalid⟩

/-- A super user may destroy his own account. -/
theorem superUsers_evolve_own :
    (userRequests plainLibrary).AllSteps (fun s a =>
        ∀ t, (userRequests plainLibrary).step s a = some t → Evolves plainLibrary s a t)
      twoAdminsLoaded [tkpDestroys "tkp"] := by
  refine (superUsers_evolve_iff plainLibrary twoAdminsLoaded (twoAdminsLoaded_init _) _).mpr ?_
  intro t _
  refine ⟨fun u hu _ _ => ?_, trivial⟩
  cases (tkpDestroys_caller "tkp").symm.trans hu
  rfl

/-- One super user destroys another one. -/
theorem superUsers_evolve_foreign :
    ¬ ∀ (lib : AuthLibrary) (s : UserState), (userRequests lib).init s →
      ∀ as : List UserCall, (userRequests lib).AllSteps (fun s a =>
        ∀ t, (userRequests lib).step s a = some t → Evolves lib s a t) s as := by
  intro h
  have hall := h plainLibrary twoAdminsLoaded (twoAdminsLoaded_init _) [tkpDestroys "ahm"]
  have hevolves : Evolves plainLibrary twoAdminsLoaded (tkpDestroys "ahm")
      (twoAdminsLoaded.call plainLibrary (tkpDestroys "ahm")) :=
    (hall _ rfl).1 _ rfl
  have hcaller := tkpDestroys_caller "ahm"
  have hsuper : twoAdminsLoaded.IsSuperUser "ahm" :=
    ⟨{ tkp with username := "ahm", superUser := true }, by decide, rfl⟩
  have hdeleted : (twoAdminsLoaded.call plainLibrary (tkpDestroys "ahm")).users =
      (twoAdminsLoaded.users.deleteUserByUsername "ahm" .done).1 := by
    simp only [UserState.call]
    rw [hcaller]
    show (destroyUser _ _ _ _).1 = _
    rw [destroyUser_users]
    rfl
  exact absurd ((evolves_deletion_iff hcaller hdeleted).mp hevolves hsuper) (by decide)

end Haaukins.Daemon
