import Haaukins.Lib.GoStrings
import Haaukins.Lib.Machine
import Haaukins.Store.User

/-!
# `Haaukins.Daemon.Signup`: signup keys and the accounts they make (`daemon/user.go`)

`SignupUser` reads its key with `GetSignupKey`, adds the user with `CreateUser` and removes
the key with `DeleteSignupKey`. The three calls are three steps here, and the steps of any
number of requests and of `InviteUser` interleave freely.

* A request is a number, and `SignupState.request` is where it stands. `SignupUser` also
  asks for a token at the end, which touches neither users nor keys and is left out.
* `uuid n` is the value of the `n`-th key that `NewSignupKey` makes.
* `accounts` records, for each user that a request added, the key that the request
  presented. No step reads it.

A key makes a second account when the adding call finds the key already deleted, or finds
another request that has added a user for the key and has not deleted it.
-/

set_option autoImplicit false

namespace Haaukins.Daemon

open Haaukins.Store

/-- `strings.ToLower`, `strings.TrimSpace` and the values of `uuid.New()`. -/
structure Library where
  toLower : String → String
  trimSpace : String → String
  uuid : Nat → String

/-- `pb.SignupUserRequest`. -/
structure SignupUserRequest where
  username : String
  name : String
  surname : String
  email : String
  key : String
  password : String

/-- Where a request of `SignupUser` stands. -/
inductive Signup where
  | idle
  /-- `GetSignupKey` found `k` for the presented `key`. `CreateUser` is next. -/
  | gotKey (key : String) (u : User) (k : SignupKey)
  /-- `CreateUser` returned no error. `DeleteSignupKey` is next. -/
  | created (key : String) (k : SignupKey)
  /-- `CreateUser` added the user and returned the error of the file write, which ends the
  request. -/
  | unsaved (key : String) (err : String)
  /-- The response was sent, with the text of its error. -/
  | answered (err : Option String)

/-- The request has added a user for the key and has not deleted the key. -/
def Signup.Holds (r : Signup) (key : String) : Prop :=
  (∃ k, r = .created key k) ∨ ∃ err, r = .unsaved key err

/-- The users file, the requests, the number of keys made so far, and the presented key of
each added user. -/
structure SignupState where
  users : UsersFile
  request : Nat → Signup
  invited : Nat
  accounts : List String

/-- One step of a request. `order` is what `ListSignupKeys` returns in the step. -/
inductive SignupAction where
  /-- `InviteUser`, called by a super user or not. -/
  | inviteUser (requester superUser npUser : Bool) (order : List SignupKey) (w : Write)
  /-- Request `i` arrives: `NewUser` and `GetSignupKey`. -/
  | getSignupKey (i : Nat) (req : SignupUserRequest) (bcrypt : Except String String)
  | createUser (i : Nat) (now : Nat) (w : Write)
  | deleteSignupKey (i : Nat) (order : List SignupKey) (w : Write)

/-- `SignupUser` up to and with `GetSignupKey`. -/
def Library.lookup (lib : Library) (users : UsersFile) (req : SignupUserRequest)
    (bcrypt : Except String String) : Signup :=
  match newUser lib.toLower lib.trimSpace bcrypt req.username req.name req.surname req.email
    req.password with
  | .error err => .answered (some err)
  | .ok u =>
    match users.getSignupKey req.key with
    | .error err => .answered (some err)
    | .ok k =>
      -- The key stays in the store until `DeleteSignupKey`.
      .gotKey req.key
        { u with
          superUser := u.superUser || k.willBeSuperUser
          npUser := u.npUser || k.willBeNPUser } k

/-- Where a request stands after `CreateUser` on a free or a taken username. -/
def afterCreate (key : String) (k : SignupKey) (taken : Bool) : Option String → Signup
  | none => .created key k
  | some err => if taken then .answered (some err) else .unsaved key err

/-- `InviteUser` of a super user: `NewSignupKey` and `CreateSignupKey`. -/
def Library.invite (lib : Library) (s : SignupState) (superUser npUser : Bool)
    (order : List SignupKey) (w : Write) : SignupState :=
  let k : SignupKey :=
    { willBeNPUser := npUser, willBeSuperUser := superUser, value := lib.uuid s.invited }
  { s with users := (s.users.createSignupKey k order w).1, invited := s.invited + 1 }

/-- `CreateUser` for request `i`, which presented `key`. -/
def SignupState.create (s : SignupState) (i : Nat) (key : String) (u : User) (k : SignupKey)
    (now : Nat) (w : Write) : SignupState :=
  let taken := (s.users.userMap.get? u.username).isSome
  let r := s.users.createUser u now w
  { s with
    users := r.1
    request := Function.update s.request i (afterCreate key k taken r.2)
    accounts := if taken then s.accounts else s.accounts ++ [key] }

/-- `DeleteSignupKey` for request `i`. -/
def SignupState.deleteKey (s : SignupState) (i : Nat) (k : SignupKey) (order : List SignupKey)
    (w : Write) : SignupState :=
  let r := s.users.deleteSignupKey k order w
  { s with users := r.1, request := Function.update s.request i (.answered r.2) }

/-- The interleaved requests of `SignupUser` and `InviteUser`. At the start no request has
arrived and no key has a value that is still to come. -/
def signupUser (lib : Library) : Machine SignupState SignupAction where
  init s := (∃ file, s.users = newUserFile file) ∧ (∀ n, lib.uuid n ∉ s.users.keyMap) ∧
    s.request = (fun _ => .idle) ∧ s.invited = 0 ∧ s.accounts = []
  step s
    | .inviteUser requester superUser npUser order w =>
      -- The others get an error.
      if requester then
        let t := lib.invite s superUser npUser order w
        if t.users.Listed order then some t else none
      else some s
    | .getSignupKey i req bcrypt =>
      match s.request i with
      | .idle =>
        some { s with request := Function.update s.request i (lib.lookup s.users req bcrypt) }
      | _ => none
    | .createUser i now w =>
      match s.request i with
      | .gotKey key u k => some (s.create i key u k now w)
      | _ => none
    | .deleteSignupKey i order w =>
      match s.request i with
      | .created _ k =>
        let t := s.deleteKey i k order w
        if t.users.Listed order then some t else none
      | _ => none

/-- A step that adds a user does so while its key is in the key store and no request has
added a user for the key without deleting it. -/
def FirstUse (s : SignupState) : SignupAction → Prop
  | .createUser i _ _ => ∀ key u k, s.request i = .gotKey key u k →
      s.users.userMap.get? u.username = none →
      key ∈ s.users.keyMap ∧ ∀ j, ¬ (s.request j).Holds key
  | _ => True

/-- The books of the keys. A key with an account is deleted or held by a request, a request
that holds a key has made an account for it, and a key that a request has found is still in
the store unless it has an account. -/
structure KeyLedger (lib : Library) (s : SignupState) : Prop where
  keyed : GoMap.Keyed SignupKey.value s.users.keyMap
  presented : ∀ i key, (∀ u k, s.request i = .gotKey key u k → k.value = key) ∧
    ∀ k, s.request i = .created key k → k.value = key
  once : ∀ key, s.accounts.count key ≤ 1
  used : ∀ key ∈ s.accounts, key ∉ s.users.keyMap ∨ ∃ j, (s.request j).Holds key
  holder : ∀ j key, (s.request j).Holds key → key ∈ s.accounts
  found : ∀ i key u k, s.request i = .gotKey key u k →
    key ∈ s.users.keyMap ∨ key ∈ s.accounts
  unborn : ∀ n, s.invited ≤ n → lib.uuid n ∉ s.users.keyMap ∧ lib.uuid n ∉ s.accounts

variable {lib : Library} {s t : SignupState} {a : SignupAction}

/-- At first no key is used. -/
theorem ledger_init (h : (signupUser lib).init s) : KeyLedger lib s := by
  obtain ⟨⟨file, hfile⟩, huuid, hrequest, hinvited, haccounts⟩ := h
  refine ⟨hfile ▸ GoMap.keyed_ofList _ _, ?_, ?_, ?_, ?_, ?_, ?_⟩ <;>
    simp [hrequest, haccounts, Signup.Holds, huuid]

/-- An invitation adds its key. -/
theorem mem_invite {superUser npUser : Bool} {order : List SignupKey} {w : Write}
    {key : String} : key ∈ (lib.invite s superUser npUser order w).users.keyMap ↔
      key = lib.uuid s.invited ∨ key ∈ s.users.keyMap :=
  UsersFile.mem_createSignupKey

/-- `InviteUser` adds a key that no account and no request knows. -/
theorem ledger_invite (huuid : Function.Injective lib.uuid) (h : KeyLedger lib s)
    (superUser npUser : Bool) (order : List SignupKey) (w : Write) :
    KeyLedger lib (lib.invite s superUser npUser order w) where
  keyed := UsersFile.keyed_createSignupKey h.keyed _ _ _
  presented := h.presented
  once := h.once
  used := by
    intro key hkey
    -- A key with an account is not the new one.
    have hnew : key ≠ lib.uuid s.invited :=
      fun heq => (h.unborn s.invited le_rfl).2 (heq ▸ hkey)
    rcases h.used key hkey with hgone | hheld
    · exact .inl fun hmem => (mem_invite.mp hmem).elim hnew hgone
    · exact .inr hheld
  holder := h.holder
  found := by
    intro i key u k hi
    rcases h.found i key u k hi with hkey | hkey
    · exact .inl (mem_invite.mpr (.inr hkey))
    · exact .inr hkey
  unborn := by
    intro n hn
    have hlt : s.invited + 1 ≤ n := hn
    obtain ⟨hkey, haccount⟩ := h.unborn n (by omega)
    refine ⟨fun hmem => ?_, haccount⟩
    rcases mem_invite.mp hmem with heq | hmem
    · have := huuid heq
      omega
    · exact hkey hmem

/-- What `SignupUser` has when it has found its key. -/
theorem lookup_gotKey {users : UsersFile} (hkeyed : GoMap.Keyed SignupKey.value users.keyMap)
    {req : SignupUserRequest} {bcrypt : Except String String} {key : String} {u : User}
    {k : SignupKey} (h : lib.lookup users req bcrypt = .gotKey key u k) :
    k.value = key ∧ key ∈ users.keyMap := by
  unfold Library.lookup UsersFile.getSignupKey at h
  split at h
  · cases h
  · split at h
    · cases h
    · next k' hk =>
      split at hk
      · cases hk
      · next hget =>
        cases hk
        cases h
        exact ⟨hkeyed _ _ hget, GoMap.mem_iff_get?.mpr ⟨_, hget⟩⟩

/-- The lookup neither makes an account nor waits for a deletion. -/
theorem lookup_not_after {users : UsersFile} {req : SignupUserRequest}
    {bcrypt : Except String String} {key : String} :
    (∀ k, lib.lookup users req bcrypt ≠ .created key k) ∧
      ¬ (lib.lookup users req bcrypt).Holds key := by
  unfold Library.lookup
  split
  · simp [Signup.Holds]
  · split <;> simp [Signup.Holds]

/-- The rule for a step of request `i`, which takes it to `r`. Keys only leave the store
once they have an account, and a new account is for a stored key that `r` holds. -/
theorem KeyLedger.update (h : KeyLedger lib s) {i : Nat} {r : Signup}
    (hrequest : t.request = Function.update s.request i r) (hinvited : t.invited = s.invited)
    (hkeyed : GoMap.Keyed SignupKey.value t.users.keyMap)
    (hless : ∀ key ∈ t.users.keyMap, key ∈ s.users.keyMap)
    (hkept : ∀ key ∈ s.users.keyMap, key ∈ t.users.keyMap ∨ key ∈ t.accounts)
    (honce : ∀ key, t.accounts.count key ≤ 1)
    (hold : ∀ key ∈ s.accounts, key ∈ t.accounts)
    (hnew : ∀ key ∈ t.accounts, key ∈ s.accounts ∨ r.Holds key ∧ key ∈ s.users.keyMap)
    (hreleased : ∀ key, (s.request i).Holds key → key ∉ t.users.keyMap)
    (hgot : ∀ key u k, r = .gotKey key u k → k.value = key ∧ key ∈ s.users.keyMap)
    (hcreated : ∀ key k, r = .created key k → k.value = key)
    (hholds : ∀ key, r.Holds key → key ∈ t.accounts) : KeyLedger lib t where
  keyed := hkeyed
  presented := by
    intro j key
    rw [hrequest]
    rcases eq_or_ne j i with rfl | hne
    · simp only [Function.update_self]
      exact ⟨fun u k hk => (hgot key u k hk).1, fun k hk => hcreated key k hk⟩
    · simp only [Function.update_of_ne hne]
      exact h.presented j key
  once := honce
  used := by
    intro key hkey
    rw [hrequest]
    rcases hnew key hkey with haccount | ⟨hheld, -⟩
    · rcases h.used key haccount with hgone | ⟨j, hj⟩
      · exact .inl fun hmem => hgone (hless key hmem)
      · rcases eq_or_ne j i with rfl | hne
        · exact .inl (hreleased key hj)
        · exact .inr ⟨j, by simpa only [Function.update_of_ne hne] using hj⟩
    · exact .inr ⟨i, by simpa only [Function.update_self] using hheld⟩
  holder := by
    intro j key hj
    rw [hrequest] at hj
    rcases eq_or_ne j i with rfl | hne
    · exact hholds key (by simpa only [Function.update_self] using hj)
    · exact hold key (h.holder j key (by simpa only [Function.update_of_ne hne] using hj))
  found := by
    intro j key u k hj
    rw [hrequest] at hj
    rcases eq_or_ne j i with rfl | hne
    · rw [Function.update_self] at hj
      exact hkept key (hgot key u k hj).2
    · rw [Function.update_of_ne hne] at hj
      rcases h.found j key u k hj with hkey | hkey
      · exact hkept key hkey
      · exact .inr (hold key hkey)
  unborn := by
    intro n hn
    obtain ⟨hkey, haccount⟩ := h.unborn n (hinvited ▸ hn)
    refine ⟨fun hmem => hkey (hless _ hmem), fun hmem => ?_⟩
    rcases hnew _ hmem with hmem | ⟨-, hmem⟩
    · exact haccount hmem
    · exact hkey hmem

/-- A request that looks its key up keeps the ledger. -/
theorem ledger_lookup (h : KeyLedger lib s) {i : Nat} (hi : s.request i = .idle)
    (req : SignupUserRequest) (bcrypt : Except String String) :
    KeyLedger lib
      { s with request := Function.update s.request i (lib.lookup s.users req bcrypt) } :=
  h.update rfl rfl h.keyed (fun _ hkey => hkey) (fun _ hkey => .inl hkey) h.once
    (fun _ hkey => hkey) (fun _ hkey => .inl hkey)
    (fun key hheld => by simp [hi, Signup.Holds] at hheld)
    (fun _ _ _ hk => lookup_gotKey h.keyed hk) (fun _ k hk => absurd hk (lookup_not_after.1 k))
    (fun _ hheld => absurd hheld lookup_not_after.2)

/-- `CreateUser` as the first use of its key. -/
theorem ledger_create (h : KeyLedger lib s) {i : Nat} {key : String} {u : User}
    {k : SignupKey} (hi : s.request i = .gotKey key u k) (now : Nat) (w : Write)
    (hok : FirstUse s (.createUser i now w)) : KeyLedger lib (s.create i key u k now w) := by
  have hkeys : (s.create i key u k now w).users.keyMap = s.users.keyMap :=
    UsersFile.createUser_keyMap _ _ _ _
  have hkeyed := hkeys ▸ h.keyed
  have hidle : ∀ key', ¬ (s.request i).Holds key' := by simp [hi, Signup.Holds]
  cases hget : s.users.userMap.get? u.username with
  | some u' =>
    -- The username is taken: the request is answered and nothing else happens.
    have hr : (s.create i key u k now w).request =
        Function.update s.request i (.answered (some userExistsErr)) := by
      simp [SignupState.create, UsersFile.createUser, hget, afterCreate]
    have haccounts : (s.create i key u k now w).accounts = s.accounts := by
      simp [SignupState.create, hget]
    exact h.update hr rfl hkeyed (by simp [hkeys]) (by simp +contextual [hkeys])
      (by simp [haccounts, h.once]) (by simp [haccounts]) (by simp +contextual [haccounts])
      (fun key' hheld => absurd hheld (hidle key')) (by simp) (by simp) (by simp [Signup.Holds])
  | none =>
    obtain ⟨hkey, hfree⟩ := hok key u k hi hget
    have hfirst : key ∉ s.accounts := by
      intro hmem
      rcases h.used key hmem with hgone | ⟨j, hj⟩
      · exact hgone hkey
      · exact hfree j hj
    have haccounts : (s.create i key u k now w).accounts = s.accounts ++ [key] := by
      simp [SignupState.create, hget]
    have hr : (s.create i key u k now w).request = Function.update s.request i
        (afterCreate key k false (s.users.createUser u now w).2) := by
      simp [SignupState.create, hget]
    have hheld : ∀ key', (afterCreate key k false (s.users.createUser u now w).2).Holds key' ↔
        key' = key := by
      intro key'
      cases (s.users.createUser u now w).2 <;> simp [afterCreate, Signup.Holds, eq_comm]
    have honce : ∀ key', (s.accounts ++ [key]).count key' ≤ 1 := by
      intro key'
      have := h.once key'
      have hzero := List.count_eq_zero.mpr hfirst
      rw [List.count_append, List.count_singleton]
      grind
    refine h.update hr rfl hkeyed (by simp [hkeys]) (by simp +contextual [hkeys])
      (haccounts ▸ honce) (by simp +contextual [haccounts]) ?_
      (fun key' hmem => absurd hmem (hidle key')) ?_ ?_ ?_
    · intro key' hmem
      rw [haccounts, List.mem_append, List.mem_singleton] at hmem
      rcases hmem with hmem | rfl
      · exact .inl hmem
      · exact .inr ⟨(hheld key').mpr rfl, hkey⟩
    · cases (s.users.createUser u now w).2 <;> simp [afterCreate]
    · intro key' k' hk
      have hvalue := (h.presented i key).1 u k hi
      cases herr : (s.users.createUser u now w).2 <;> simp [afterCreate, herr] at hk
      rw [← hk.1, ← hk.2, hvalue]
    · intro key' hmem
      rw [haccounts, (hheld key').mp hmem]
      simp

/-- `DeleteSignupKey` removes a key that has its account. -/
theorem ledger_delete (h : KeyLedger lib s) {i : Nat} {key : String} {k : SignupKey}
    (hi : s.request i = .created key k) (order : List SignupKey) (w : Write) :
    KeyLedger lib (s.deleteKey i k order w) := by
  have hvalue := (h.presented i key).2 k hi
  have haccount : key ∈ s.accounts := h.holder i key (.inl ⟨k, hi⟩)
  have hmem : ∀ key', key' ∈ (s.deleteKey i k order w).users.keyMap ↔
      key' ≠ key ∧ key' ∈ s.users.keyMap :=
    fun key' => hvalue ▸ UsersFile.mem_deleteSignupKey
  refine h.update rfl rfl (UsersFile.keyed_deleteSignupKey h.keyed _ _ _)
    (fun key' hkey => ((hmem key').mp hkey).2) ?_ h.once (fun _ hkey => hkey)
    (fun _ hkey => .inl hkey) ?_ (by simp) (by simp) (by simp [Signup.Holds])
  · intro key' hkey
    rcases eq_or_ne key' key with rfl | hne
    · exact .inr haccount
    · exact .inl ((hmem key').mpr ⟨hne, hkey⟩)
  · intro key' hheld hkey
    have heq : key' = key := by
      simp [hi, Signup.Holds] at hheld
      exact hheld.symm
    exact ((hmem key').mp hkey).1 heq

/-- Steps that use their key for the first time keep the books. -/
theorem ledger_step (huuid : Function.Injective lib.uuid) (h : KeyLedger lib s)
    (hok : FirstUse s a) (hs : (signupUser lib).step s a = some t) : KeyLedger lib t := by
  cases a with
  | inviteUser requester superUser npUser order w =>
    simp only [signupUser] at hs
    split at hs
    · split at hs
      · cases hs
        exact ledger_invite huuid h _ _ _ _
      · cases hs
    -- A request without privileges is refused, and writes nothing.
    · cases hs
      exact h
  | getSignupKey i req bcrypt =>
    simp only [signupUser] at hs
    split at hs
    · next hi =>
      cases hs
      exact ledger_lookup h hi req bcrypt
    · cases hs
  | createUser i now w =>
    simp only [signupUser] at hs
    split at hs
    · next key u k hi =>
      -- The only step that makes an account: its key is used for the first time by the condition.
      cases hs
      exact ledger_create h hi now w hok
    · cases hs
  | deleteSignupKey i order w =>
    simp only [signupUser] at hs
    split at hs
    · next key k hi =>
      split at hs
      · cases hs
        -- The key leaves the store after its account was made.
        exact ledger_delete h hi order w
      · cases hs
    · cases hs

/-- A step that adds a user for a used key gives the key its second account. -/
theorem two_accounts_step (h : KeyLedger lib s) (hnot : ¬ FirstUse s a)
    (hs : (signupUser lib).step s a = some t) : ∃ key, 1 < t.accounts.count key := by
  cases a with
  | createUser i now w =>
    simp only [FirstUse, not_forall] at hnot
    obtain ⟨key, u, k, hi, hget, hused⟩ := hnot
    simp only [signupUser, hi, Option.some.injEq] at hs
    subst hs
    have hmem : key ∈ s.accounts := by
      by_contra hnone
      refine hused ⟨(h.found i key u k hi).resolve_right hnone, fun j hj => ?_⟩
      exact hnone (h.holder j key hj)
    have hpos := List.count_pos_iff.mpr hmem
    refine ⟨key, ?_⟩
    simp only [SignupState.create, hget, Option.isSome_none, Bool.false_eq_true, if_false,
      List.count_append, List.count_singleton_self]
    omega
  | _ => exact absurd trivial hnot

/-- A signup key makes at most one account in every state of a run if and only if each step
that adds a user finds its key in the key store, and finds no request that has added a user
for the key without deleting it. -/
theorem signupUser_accounts_iff (lib : Library) (huuid : Function.Injective lib.uuid)
    (s : SignupState) (hs : (signupUser lib).init s) (as : List SignupAction) :
    (signupUser lib).AllStates (fun s => ∀ key, s.accounts.count key ≤ 1) s as ↔
      (signupUser lib).AllSteps FirstUse s as := by
  refine Machine.allStates_iff_allSteps (A := fun _ _ => True) (fun _ h => h.once)
    (fun _ _ _ h _ hok hs => ledger_step huuid h hok hs) (fun s a t h _ hnot hs hall => ?_)
    (ledger_init hs) Machine.allSteps_true
  obtain ⟨key, hlt⟩ := two_accounts_step h hnot hs
  have := hall key
  omega

/-- A library for texts in lower case, whose keys are `""`, `"a"`, `"aa"` and so on. -/
def letterKeys : Library where
  toLower := fun s => s
  trimSpace := fun s => s
  uuid := GoStrings.letters

/-- The daemon before its first request, without a users file. -/
def noUsers : SignupState where
  users := newUserFile none
  request := fun _ => .idle
  invited := 0
  accounts := []

/-- A request for the account `username` with the first key. -/
def firstKey (username : String) : SignupUserRequest where
  username := username
  name := ""
  surname := ""
  email := ""
  key := ""
  password := "123456"

/-- The first state of the example. -/
theorem noUsers_init (lib : Library) : (signupUser lib).init noUsers :=
  ⟨⟨none, rfl⟩, fun _ => AList.notMem_empty _, rfl, rfl, rfl⟩

/-- One request uses the first key and deletes it, and a second one is refused. -/
theorem signupUser_accounts_single :
    let as : List SignupAction :=
      [.inviteUser true false false [⟨false, false, ""⟩] .done,
        .getSignupKey 0 (firstKey "tkp") (.ok "h"), .createUser 0 7 .done,
        .deleteSignupKey 0 [] .done, .getSignupKey 1 (firstKey "ahmet") (.ok "h")]
    (signupUser letterKeys).AllStates (fun s => ∀ key, s.accounts.count key ≤ 1) noUsers as ∧
      ((signupUser letterKeys).run noUsers as).map (fun s => (s.accounts, s.request 1)) =
        some ([""], .answered (some signupKeyNotFoundErr)) := by
  -- Only `createUser` has something to show; the other steps meet the condition by its definition.
  refine ⟨(signupUser_accounts_iff letterKeys GoStrings.letters_injective noUsers
    (noUsers_init _) _).mpr ?_, rfl⟩
  intro s hs
  obtain rfl := Option.some.inj hs
  refine ⟨trivial, ?_⟩
  intro s hs
  obtain rfl := Option.some.inj hs
  refine ⟨trivial, ?_⟩
  intro s hs
  obtain rfl := Option.some.inj hs
  refine ⟨?_, ?_⟩
  -- The held key is the first one, no account has it, and no other request holds it.
  · intro key u k hi hget
    have hkey : key = "" := by
      injection hi with h1
      exact h1.symm
    subst hkey
    refine ⟨by decide, fun j hj => ?_⟩
    cases j with
    | zero =>
      rcases hj with ⟨k', hk⟩ | ⟨err, hk⟩
      · cases hi.symm.trans hk
      · cases hi.symm.trans hk
    | succ j => simp [Function.update, Library.invite, noUsers, Signup.Holds] at hj
  · intro s hs
    obtain rfl := Option.some.inj hs
    refine ⟨trivial, ?_⟩
    intro s hs
    obtain rfl := Option.some.inj hs
    exact ⟨trivial, trivial⟩

/-- Two requests read the first key before either deletes it, and both add their user. -/
theorem signupUser_two_accounts :
    ¬ ∀ (lib : Library) (s : SignupState), Function.Injective lib.uuid →
      (signupUser lib).init s → ∀ as : List SignupAction,
        (signupUser lib).AllStates (fun s => ∀ key, s.accounts.count key ≤ 1) s as := by
  intro h
  have hall := h letterKeys noUsers GoStrings.letters_injective (noUsers_init _)
    [.inviteUser true false false [⟨false, false, ""⟩] .done,
      .getSignupKey 0 (firstKey "tkp") (.ok "h"), .getSignupKey 1 (firstKey "ahmet") (.ok "h"),
      .createUser 0 7 .done, .createUser 1 7 .done]
  obtain ⟨s, htwo, honce⟩ := hall.of_run (fun s => s.accounts.count "") 2 (by decide)
  have := honce ""
  omega

end Haaukins.Daemon
