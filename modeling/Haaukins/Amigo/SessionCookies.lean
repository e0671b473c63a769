import Haaukins.Lib.GoStrings
import Haaukins.Lib.Jwt
import Haaukins.Store.TeamIndexes

/-!
# `Haaukins.Amigo.SessionCookies`: two ways to read a cookie (`svcs/amigo/amigo.go`)

The session cookie of a team is a signed token with its id and its name. The site reads the id
back from the token (`getTeamFromRequest`). The Guacamole proxy looks the whole token up in the
table of the team store (`getTeamByToken`).

Loading and signing up put a token into the table. A login only signs one again. The two ways
agree on each cookie that was issued (`cookies_agree`), since a token is a function of the key,
the id and the name, the two keys are the same text, and an id keeps its name.

* The requests and the loads run one after the other, and the store service answers without
  errors. Its rows are part of the state. It stores what `SaveTeam` sends, and gives the rows
  back in any order.
* The ids that `NewTeam` draws are new, and have eight characters none of which is a space.
  `Fresh` says what matters of that.
* No step reads `issued` or `known`.
-/

set_option autoImplicit false

namespace Haaukins.Store

/-- `ID_KEY` and `TEAMNAME_KEY`. -/
def idKey : String := "I"

@[inherit_doc idKey]
def teamnameKey : String := "TN"

/-- `token_key`. -/
def tokenKey : String := "testing"

/-- The claims that `GetTokenForTeam` signs. -/
structure TeamClaims where
  id : String
  name : String

/-- The claims after a round trip through JSON. -/
def TeamClaims.decoded (c : TeamClaims) : MapClaims := fun key =>
  if key = idKey then some (.string c.id)
  else if key = teamnameKey then some (.string c.name)
  else none

/-- `GetTokenForTeam`, for the id and the name of the team. -/
def getTokenForTeam (jwt : Jwt TeamClaims) (key : String) (id name : String) : String :=
  jwt.signedString key ⟨id, name⟩

end Haaukins.Store

namespace Haaukins.Amigo

open Store

/-- `ID_KEY` and `TEAMNAME_KEY`. -/
def idKey : String := "I"

@[inherit_doc idKey]
def teamnameKey : String := "TN"

/-- `signingKey`. -/
def signingKey : String := "testing"

/-- `ErrUnauthorized`. -/
def errUnauthorized : String := "requires authentication"

/-- `ErrInvalidTokenFormat`. -/
def errInvalidTokenFormat : String := "invalid token format"

/-- `getTeamInfoFromToken`, with the id and the name of the team. -/
def getTeamInfoFromToken (jwt : Jwt TeamClaims) (token : String) :
    Except String (String × String) :=
  match jwt.parse signingKey token with
  | .error err => .error err
  | .ok claims =>
    match claims idKey with
    | some (.string id) =>
      match claims teamnameKey with
      | some (.string name) => .ok (id, name)
      | _ => .error errInvalidTokenFormat
    | _ => .error errInvalidTokenFormat

/-- `getTeamFromRequest`, for the value of the cookie. -/
def getTeamFromRequest (jwt : Jwt TeamClaims) (es : TeamIndexes) (cookie : Option String) :
    Except String Team :=
  match cookie with
  | none => .error errUnauthorized
  | some value =>
    match getTeamInfoFromToken jwt value with
    | .error err => .error err
    | .ok team => es.getTeamByID team.1

/-- A row of the store service, and the id that `NewTeam` draws for it. -/
structure EventTeam where
  id : String
  name : String
  uuid : String

/-- The id and the name that `NewTeam` gives to the team of a row. -/
def EventTeam.chosen (r : EventTeam) : String × String :=
  (if r.id = "" then r.uuid else r.id, GoStrings.trimSpace r.name)

/-- The team store, the rows of the service, the cookies that were issued, and the ids and names
of all teams that the store has had. -/
structure CookieState where
  store : TeamIndexes
  db : List (String × String)
  issued : List String
  known : List (String × String)

/-- What happens to the teams of an event. -/
inductive CookieAction where
  /-- `NewEventStore`. -/
  | load (rows : List EventTeam)
  /-- `handleSignupPOST` after its checks, where `NewTeam` draws `id`. -/
  | signup (teamName id : String)
  /-- `handleLoginPOST`, with the answer of `IsPasswordEqual`. -/
  | login (username : String) (passwordEqual : Bool)
  | deleteTeam (tId : String)

namespace CookieState

variable (jwt : Jwt TeamClaims) (s : CookieState)

/-- The id was never in the store or in its rows, and is not changed by `TrimSpace`. -/
def Fresh (id : String) : Prop :=
  id ≠ "" ∧ GoStrings.trimSpace id = id ∧ id ∉ s.known.map Prod.fst ∧ id ∉ s.db.map Prod.fst

/-- The rows are those of the service, in some order, and their teams get distinct ids. -/
def Loadable (rows : List EventTeam) : Prop :=
  (rows.map fun r => (r.id, r.name)).Perm s.db ∧ ((rows.map EventTeam.chosen).map Prod.fst).Nodup ∧
    ∀ r ∈ rows, r.id = "" → s.Fresh r.uuid

instance (id : String) : Decidable (s.Fresh id) := by
  unfold Fresh
  infer_instance

instance (rows : List EventTeam) : Decidable (s.Loadable rows) := by
  unfold Loadable
  infer_instance

/-- `NewEventStore`. -/
def load (rows : List EventTeam) : CookieState :=
  { s with
    store := newEventStore (getTokenForTeam jwt tokenKey) (rows.map EventTeam.chosen)
    known := rows.map EventTeam.chosen ++ s.known }

/-- `loginTeam`: the cookie of a team. -/
def loginTeam (t : Team) : CookieState :=
  { s with issued := getTokenForTeam jwt signingKey t.id t.name :: s.issued }

/-- `handleSignupPOST` after its checks. -/
def signup (teamName id : String) : CookieState :=
  let t := newTeam id (GoStrings.trimSpace (GoStrings.trimSpace teamName))
  match s.store.saveTeam t none with
  | (_, some _) => s
  | (store, none) =>
    -- `AddTeam` gets the trimmed id and name.
    let s := { s with
      store := store
      db := (GoStrings.trimSpace t.id, GoStrings.trimSpace t.name) :: s.db
      known := (t.id, t.name) :: s.known }
    let s := s.loginTeam jwt t
    { s with
      store := (s.store.saveTokenForTeam (getTokenForTeam jwt signingKey t.id t.name) t).1 }

/-- `handleLoginPOST`. -/
def login (username : String) (passwordEqual : Bool) : CookieState :=
  match s.store.getTeamByUsername (GoStrings.trimSpace username) with
  | .error _ => s
  | .ok t => if passwordEqual then s.loginTeam jwt t else s

/-- `DeleteTeam`, of a team that its caller has found in the store. -/
def deleteTeam (tId : String) : CookieState :=
  { s with
    store := (s.store.deleteTeam tId none).1
    db := s.db.filter fun r => r.1 ≠ tId }

/-- The site and the proxy find the same team for each issued cookie, or neither finds one. -/
def Agree : Prop :=
  ∀ c ∈ s.issued, (getTeamFromRequest jwt s.store (some c)).toOption =
    (s.store.getTeamByToken c).toOption

end CookieState

/-- The teams of an event whose store is not loaded yet. -/
def cookies (jwt : Jwt TeamClaims) : Machine CookieState CookieAction where
  init s := s.store = TeamIndexes.new ∧ s.issued = [] ∧ s.known = []
  step s
    | .load rows => if s.Loadable rows then some (s.load jwt rows) else none
    | .signup teamName id => if s.Fresh id then some (s.signup jwt teamName id) else none
    | .login username passwordEqual => some (s.login jwt username passwordEqual)
    | .deleteTeam tId => if tId ∈ s.store.teams then some (s.deleteTeam tId) else none

/-! ### The table of tokens -/

variable {jwt : Jwt TeamClaims} {es : TeamIndexes} {s t : CookieState}

/-- A token tells its team. -/
theorem getTokenForTeam_inj (hjwt : jwt.Inverts TeamClaims.decoded) {key id id' name name' : String}
    (h : getTokenForTeam jwt key id name = getTokenForTeam jwt key id' name') :
    id = id' ∧ name = name' := by
  have hdecoded := hjwt.decoded_eq_of_signedString_eq h
  have hid := congrFun hdecoded Store.idKey
  have hname := congrFun hdecoded Store.teamnameKey
  simp only [TeamClaims.decoded, Store.idKey, Store.teamnameKey, if_true, String.reduceEq,
    if_false, Option.some.injEq, ClaimValue.string.injEq] at hid hname
  exact ⟨hid, hname⟩

/-- The site finds the team with the id of the cookie. -/
theorem getTeamFromRequest_signed (hjwt : jwt.Inverts TeamClaims.decoded) (id name : String) :
    getTeamFromRequest jwt es (some (getTokenForTeam jwt tokenKey id name)) =
      es.getTeamByID id := by
  have hparse : jwt.parse signingKey (getTokenForTeam jwt tokenKey id name) =
      .ok (TeamClaims.decoded ⟨id, name⟩) := hjwt.parse_signedString tokenKey ⟨id, name⟩
  unfold getTeamFromRequest getTeamInfoFromToken
  dsimp only
  rw [hparse]
  rfl

/-- The entries of the table are signed for their team, and each stored team has its entry. -/
structure Tabled (jwt : Jwt TeamClaims) (es : TeamIndexes) : Prop where
  tokens : ∀ token id, es.tokens.get? token = some id →
    ∃ name, token = getTokenForTeam jwt tokenKey id name
  stored : ∀ id t, es.teams.get? id = some t →
    es.tokens.get? (getTokenForTeam jwt tokenKey id t.name) = some id

/-- A team joins the store together with its token. -/
theorem Tabled.add (hjwt : jwt.Inverts TeamClaims.decoded) (h : Tabled jwt es)
    {es' : TeamIndexes} (id : String) (team : Team)
    (hteams : ∀ id', es'.teams.get? id' = if id' = id then some team else es.teams.get? id')
    (htokens : es'.tokens = es.tokens.set (getTokenForTeam jwt tokenKey id team.name) id) :
    Tabled jwt es' := by
  constructor
  · intro token id' hget
    rw [htokens, GoMap.get?_set] at hget
    split at hget
    · next heq =>
      cases hget
      exact ⟨team.name, heq⟩
    · exact h.tokens token id' hget
  · intro id' t hget
    rw [hteams] at hget
    rw [htokens, GoMap.get?_set]
    split at hget
    · next heq =>
      cases hget
      rw [heq, if_pos rfl]
    · next hne =>
      rw [if_neg fun heq => hne (getTokenForTeam_inj hjwt heq).1]
      exact h.stored id' t hget

/-- A new store has no tokens. -/
theorem tabled_new : Tabled jwt TeamIndexes.new where
  tokens token id h := by simp [TeamIndexes.new] at h
  stored id t h := by simp [TeamIndexes.new, TeamStore.new] at h

/-- `NewEventStore` enters the token of each team that it loads. -/
theorem tabled_newEventStore (hjwt : jwt.Inverts TeamClaims.decoded)
    (rows : List (String × String)) :
    Tabled jwt (newEventStore (getTokenForTeam jwt tokenKey) rows) := by
  have hfold : ∀ es, Tabled jwt es →
      Tabled jwt (rows.foldl (fun es row => es.load (getTokenForTeam jwt tokenKey) row) es) := by
    induction rows with
    | nil => exact fun _ h => h
    | cons row rows ih =>
      intro es h
      refine ih _ (h.add hjwt row.1 { newTeam row.1 row.2 with dbc := true } ?_ rfl)
      exact fun id' => GoMap.get?_set _ _ _ _
  exact hfold .new tabled_new

/-- The teams that `NewEventStore` loads have the id and the name of a row. -/
theorem mem_newEventStore {getToken : String → String → String} {rows : List (String × String)}
    {id : String} {t : Team} (h : (newEventStore getToken rows).teams.get? id = some t) :
    (id, t.name) ∈ rows := by
  -- The loop over the rows that are left, from a store whose teams have rows.
  have hfold : ∀ es : TeamIndexes, (∀ id t, es.teams.get? id = some t → (id, t.name) ∈ rows) →
      ∀ rest : List (String × String), (∀ r ∈ rest, r ∈ rows) → ∀ (id : String) (t : Team),
        (rest.foldl (fun es row => es.load getToken row) es).teams.get? id = some t →
          (id, t.name) ∈ rows := by
    intro es hes rest
    induction rest generalizing es with
    | nil => exact fun _ => hes
    | cons row rest ih =>
      intro hrest
      refine ih _ (fun id t ht => ?_) fun r hr => hrest r (List.mem_cons_of_mem _ hr)
      change (es.teams.set row.1 _).get? id = some t at ht
      rw [GoMap.get?_set] at ht
      split at ht
      · next heq =>
        cases ht
        subst heq
        exact hrest row List.mem_cons_self
      · exact hes id t ht
  refine hfold .new (fun id t ht => ?_) rows (fun _ hr => hr) id t h
  simp [TeamIndexes.new, TeamStore.new] at ht

/-- A name keeps its id in each of the teams, rows and cookies. -/
structure Books (jwt : Jwt TeamClaims) (s : CookieState) : Prop where
  tabled : Tabled jwt s.store
  stored : ∀ id t, s.store.teams.get? id = some t → (id, t.name) ∈ s.known
  known : ∀ id name name', (id, name) ∈ s.known → (id, name') ∈ s.known → name = name'
  rows : ∀ id name name', (id, name) ∈ s.db → (id, name') ∈ s.known →
    GoStrings.trimSpace name = name'
  issued : ∀ c ∈ s.issued, ∃ id name, (id, name) ∈ s.known ∧
    c = getTokenForTeam jwt tokenKey id name

/-- In such a state a cookie leads to the stored team with its id on both ways. -/
theorem Books.agree (hjwt : jwt.Inverts TeamClaims.decoded) (h : Books jwt s) : s.Agree jwt := by
  intro c hc
  obtain ⟨id, name, hknown, rfl⟩ := h.issued c hc
  rw [getTeamFromRequest_signed hjwt]
  unfold TeamStore.getTeamByID TeamIndexes.getTeamByToken
  cases hteam : s.store.teams.get? id with
  | none =>
    cases htoken : s.store.tokens.get? (getTokenForTeam jwt tokenKey id name) with
    | none => rfl
    | some id' =>
      -- The table leads to the id that was signed, whose team has left.
      obtain ⟨name', hsigned⟩ := h.tabled.tokens _ id' htoken
      obtain ⟨rfl, -⟩ := getTokenForTeam_inj hjwt hsigned
      simp [hteam, Except.toOption]
  | some t =>
    obtain rfl : t.name = name := h.known id _ _ (h.stored id t hteam) hknown
    simp [h.tabled.stored id t hteam, hteam]

/-- A login signs the entry that the table has. -/
theorem Books.loginTeam (h : Books jwt s) {t : Team} (ht : (t.id, t.name) ∈ s.known) :
    Books jwt (s.loginTeam jwt t) :=
  { h with
    issued := fun c hc => by
      rcases List.mem_cons.mp hc with rfl | hc
      · exact ⟨t.id, t.name, ht, rfl⟩
      · exact h.issued c hc }

/-- A login stores a token of its team. -/
theorem Books.login (h : Books jwt s) (username : String) (passwordEqual : Bool) :
    Books jwt (s.login jwt username passwordEqual) := by
  unfold CookieState.login
  split
  · exact h
  · next t ht =>
    obtain ⟨id, -, hget⟩ := TeamIndexes.getTeamByUsername_eq_ok.mp ht
    split
    · refine h.loginTeam ?_
      rw [s.store.keyed id t hget]
      exact h.stored id t hget
    · exact h

/-- A deletion leaves the tokens, and takes the team. -/
theorem Books.deleteTeam (h : Books jwt s) (tId : String) : Books jwt (s.deleteTeam tId) := by
  have hless : ∀ id t, (s.deleteTeam tId).store.teams.get? id = some t →
      s.store.teams.get? id = some t := by
    intro id t hget
    change (s.store.toTeamStore.deleteTeam tId none).1.teams.get? id = some t at hget
    rw [TeamStore.get?_deleteTeam] at hget
    split at hget
    · cases hget
    · exact hget
  exact
    { tabled := ⟨h.tabled.tokens, fun id t hget => h.tabled.stored id t (hless id t hget)⟩
      stored := fun id t hget => h.stored id t (hless id t hget)
      known := h.known
      rows := fun id name name' hrow => h.rows id name name' (List.mem_of_mem_filter hrow)
      issued := h.issued }

/-- The teams of the rows keep their ids and names. -/
theorem Books.load (hjwt : jwt.Inverts TeamClaims.decoded) (h : Books jwt s) {rows : List EventTeam}
    (hload : s.Loadable rows) : Books jwt (s.load jwt rows) := by
  obtain ⟨hperm, hnodup, hfresh⟩ := hload
  have hrow : ∀ r ∈ rows, (r.id, r.name) ∈ s.db := fun r hr =>
    hperm.subset (List.mem_map_of_mem hr)
  -- A row that gets the id of an earlier team gets its name, too.
  have hold : ∀ id name name', (id, name) ∈ rows.map EventTeam.chosen → (id, name') ∈ s.known →
      name = name' := by
    intro id name name' hmem hknown
    obtain ⟨r, hr, hchosen⟩ := List.mem_map.mp hmem
    unfold EventTeam.chosen at hchosen
    split at hchosen
    · next hid =>
      cases hchosen
      exact absurd (List.mem_map_of_mem hknown) (hfresh r hr hid).2.2.1
    · cases hchosen
      exact h.rows r.id r.name name' (hrow r hr) hknown
  -- Two teams of the rows with one id are the same.
  have hsame : ∀ id name name', (id, name) ∈ rows.map EventTeam.chosen →
      (id, name') ∈ rows.map EventTeam.chosen → name = name' := fun id name name' hmem hmem' =>
    congrArg Prod.snd (List.inj_on_of_nodup_map hnodup hmem hmem' rfl)
  refine ⟨tabled_newEventStore hjwt _, fun id t hget => ?_, ?_, ?_, ?_⟩
  · exact List.mem_append_left _ (mem_newEventStore hget)
  · intro id name name' hmem hmem'
    rcases List.mem_append.mp hmem with hnew | hknown
    · rcases List.mem_append.mp hmem' with hnew' | hknown'
      · exact hsame id name name' hnew hnew'
      · exact hold id name name' hnew hknown'
    · rcases List.mem_append.mp hmem' with hnew' | hknown'
      · exact (hold id name' name hnew' hknown).symm
      · exact h.known id name name' hknown hknown'
  · intro id name name' hdb hmem
    rcases List.mem_append.mp hmem with hnew | hknown
    · refine hsame id _ _ ?_ hnew
      obtain ⟨r', hr', hrow'⟩ := List.mem_map.mp (hperm.mem_iff.mpr hdb)
      cases hrow'
      obtain ⟨r, hr, hchosen⟩ := List.mem_map.mp hnew
      have hid : r'.id ≠ "" := by
        intro hempty
        unfold EventTeam.chosen at hchosen
        split at hchosen
        · next hid =>
          have huuid : r.uuid = r'.id := congrArg Prod.fst hchosen
          exact (hfresh r hr hid).1 (huuid.trans hempty)
        · next hid => exact hid ((congrArg Prod.fst hchosen).trans hempty)
      refine List.mem_map.mpr ⟨r', hr', ?_⟩
      rw [EventTeam.chosen, if_neg hid]
    · exact h.rows id name name' hdb hknown
  · intro c hc
    obtain ⟨id, name, hknown, hsigned⟩ := h.issued c hc
    exact ⟨id, name, List.mem_append_right _ hknown, hsigned⟩

/-- A successful `SaveTeam` and the token after it. -/
theorem Tabled.signup (hjwt : jwt.Inverts TeamClaims.decoded) (h : Tabled jwt es) {t : Team}
    (hid : t.id ≠ "") (hname : t.name ∉ es.names) :
    Tabled jwt ((es.saveTeam t none).1.saveTokenForTeam
      (getTokenForTeam jwt signingKey t.id t.name) t).1 := by
  have htoken : getTokenForTeam jwt signingKey t.id t.name ≠ "" := hjwt.signedString_ne _ _
  unfold TeamIndexes.saveTokenForTeam
  rw [if_neg htoken, if_neg hid]
  refine h.add hjwt t.id { t with dbc := t.dbc || (none : Option String).isNone }
    (fun id' => ?_) rfl
  show (es.toTeamStore.saveTeam t none).1.teams.get? id' = _
  rw [TeamStore.get?_saveTeam]
  simp [hname]

/-- A new id with its name, its row and its cookie. -/
theorem Books.add (h : Books jwt s) {id name : String} (hknown : id ∉ s.known.map Prod.fst)
    (hrows : id ∉ s.db.map Prod.fst) (hname : GoStrings.trimSpace name = name)
    (htabled : Tabled jwt t.store)
    (hstored : ∀ id' t', t.store.teams.get? id' = some t' →
      id' = id ∧ t'.name = name ∨ s.store.teams.get? id' = some t')
    (hknown' : t.known = (id, name) :: s.known) (hdb' : t.db = (id, name) :: s.db)
    (hissued' : t.issued = getTokenForTeam jwt tokenKey id name :: s.issued) : Books jwt t := by
  have hnew : ∀ {name'}, (id, name') ∉ s.known := fun hmem => hknown (List.mem_map_of_mem hmem)
  -- In the order of the fields: the stored teams, the known names, the rows and the cookies.
  refine ⟨htabled, fun id' t' hget => ?_, ?_, ?_, ?_⟩
  · rw [hknown']
    rcases hstored id' t' hget with ⟨rfl, rfl⟩ | hold
    · exact List.mem_cons_self
    · exact List.mem_cons_of_mem _ (h.stored id' t' hold)
  · intro id' name' name'' hmem hmem'
    rw [hknown'] at hmem hmem'
    rcases List.mem_cons.mp hmem with heq | hold
    · cases heq
      rcases List.mem_cons.mp hmem' with heq' | hold'
      · exact (congrArg Prod.snd heq').symm
      · exact absurd hold' hnew
    · rcases List.mem_cons.mp hmem' with heq' | hold'
      · cases heq'
        exact absurd hold hnew
      · exact h.known id' name' name'' hold hold'
  · intro id' name' name'' hdb hmem
    rw [hdb'] at hdb
    rw [hknown'] at hmem
    rcases List.mem_cons.mp hdb with heq | hold
    · cases heq
      rcases List.mem_cons.mp hmem with heq' | hold'
      · exact hname.trans (congrArg Prod.snd heq').symm
      · exact absurd hold' hnew
    · rcases List.mem_cons.mp hmem with heq' | hold'
      · cases heq'
        exact absurd (List.mem_map_of_mem hold) hrows
      · exact h.rows id' name' name'' hold hold'
  · intro c hc
    rw [hissued'] at hc
    rw [hknown']
    rcases List.mem_cons.mp hc with rfl | hc
    · exact ⟨id, name, List.mem_cons_self, rfl⟩
    · obtain ⟨id', name', hmem, hsigned⟩ := h.issued c hc
      exact ⟨id', name', List.mem_cons_of_mem _ hmem, hsigned⟩

/-- A team signs up with a new id, and the row of the service has its name. -/
theorem Books.signup (hjwt : jwt.Inverts TeamClaims.decoded) (h : Books jwt s) {id : String}
    (hfresh : s.Fresh id) (teamName : String) : Books jwt (s.signup jwt teamName id) := by
  obtain ⟨hempty, htrim, hknown, hrows⟩ := hfresh
  unfold CookieState.signup
  dsimp only
  generalize hteam : newTeam id (GoStrings.trimSpace (GoStrings.trimSpace teamName)) = t
  obtain rfl : t.id = id := hteam ▸ rfl
  have hname : GoStrings.trimSpace t.name = t.name := by
    rw [← hteam]
    exact GoStrings.trimSpace_trimSpace _
  have hreply : (s.store.saveTeam t none).2 =
      if t.name ∈ s.store.names then some errTeamAlreadyExist else none := by
    unfold TeamIndexes.saveTeam TeamStore.saveTeam
    split <;> rfl
  have hteams : t.name ∉ s.store.names → ∀ id', (s.store.saveTeam t none).1.teams.get? id' =
      if id' = t.id then some { t with dbc := true } else s.store.teams.get? id' := by
    intro htaken id'
    show (s.store.toTeamStore.saveTeam t none).1.teams.get? id' = _
    rw [TeamStore.get?_saveTeam]
    simp [htaken]
  have htabled := fun htaken => h.tabled.signup hjwt (t := t) hempty htaken
  cases hsave : s.store.saveTeam t none with
  | mk store err =>
    rw [hsave] at hreply hteams htabled
    cases err with
    -- A name that is taken changes neither the store nor the service.
    | some err => exact h
    | none =>
      have htaken : t.name ∉ s.store.names := by
        intro hmem
        rw [if_pos hmem] at hreply
        cases hreply
      refine h.add hknown hrows hname (htabled htaken) (fun id' t' hget => ?_) rfl ?_ rfl
      -- The cookie is saved in the maps of the tokens, and leaves the teams.
      · change (store.saveTokenForTeam _ t).1.teams.get? id' = some t' at hget
        rw [TeamIndexes.saveTokenForTeam_teams, hteams htaken] at hget
        split at hget
        · next heq =>
          cases hget
          exact .inl ⟨heq, rfl⟩
        · exact .inr hget
      · show (GoStrings.trimSpace t.id, GoStrings.trimSpace t.name) :: s.db = _
        rw [htrim, hname]

/-- The books of the first state. -/
theorem books_init (h : (cookies jwt).init s) : Books jwt s := by
  obtain ⟨hstore, hissued, hknown⟩ := h
  exact
    { tabled := hstore ▸ tabled_new
      stored := fun id t hget => by simp [hstore, TeamIndexes.new, TeamStore.new] at hget
      known := by simp [hknown]
      rows := by simp [hknown]
      issued := by simp [hissued] }

/-- Each step keeps the books. -/
theorem books_step (hjwt : jwt.Inverts TeamClaims.decoded) (h : Books jwt s) {a : CookieAction}
    (hs : (cookies jwt).step s a = some t) : Books jwt t := by
  cases a with
  | load rows =>
    simp only [cookies, Option.ite_none_right_eq_some, Option.some.injEq] at hs
    obtain ⟨hload, rfl⟩ := hs
    exact h.load hjwt hload
  | signup teamName id =>
    simp only [cookies, Option.ite_none_right_eq_some, Option.some.injEq] at hs
    obtain ⟨hfresh, rfl⟩ := hs
    exact h.signup hjwt hfresh teamName
  | login username passwordEqual =>
    cases hs
    exact h.login username passwordEqual
  | deleteTeam tId =>
    simp only [cookies, Option.ite_none_right_eq_some, Option.some.injEq] at hs
    obtain ⟨-, rfl⟩ := hs
    exact h.deleteTeam tId

/-- In every run of loads, sign-ups, logins and deletions, the site and the proxy find the same
team for each cookie that was issued, or neither finds one. -/
theorem cookies_agree (jwt : Jwt TeamClaims) (hjwt : jwt.Inverts TeamClaims.decoded)
    (s : CookieState) (hs : (cookies jwt).init s) (as : List CookieAction) :
    (cookies jwt).AllStates (CookieState.Agree jwt) s as :=
  Machine.AllSteps.allStates (fun _ h => h.agree hjwt)
    (fun _ _ _ h _ hstep => books_step hjwt h hstep) (books_init hs) Machine.allSteps_true

/-- A library for tokens that writes the length of the id in unary before the id and the name. -/
def sizedJwt : Jwt TeamClaims where
  signedString _ c := String.ofList
    (List.replicate c.id.toList.length 'v' ++ 'w' :: (c.id.toList ++ c.name.toList))
  parse _ token :=
    let n := (token.toList.takeWhile (· = 'v')).length
    let rest := (token.toList.dropWhile (· = 'v')).drop 1
    .ok (TeamClaims.decoded ⟨String.ofList (rest.take n), String.ofList (rest.drop n)⟩)

/-- The library below gives back the claims that it signs. -/
theorem sizedJwt_inverts : sizedJwt.Inverts TeamClaims.decoded where
  parse_signedString _ c := by simp [sizedJwt]
  signedString_ne _ c := by simp [sizedJwt]

/-- An event with one team in the rows of the service. -/
def oneRow : CookieState where
  store := TeamIndexes.new
  db := [("ab", " kali ")]
  issued := []
  known := []

/-- The team of the row logs in, a second one signs up, and the first one is deleted. -/
theorem cookies_agree_two_teams :
    (cookies sizedJwt).AllStates (CookieState.Agree sizedJwt) oneRow
      [.load [⟨"ab", " kali ", "unused"⟩], .login "kali" true, .signup "parrot" "cd",
        .deleteTeam "ab"] :=
  cookies_agree sizedJwt sizedJwt_inverts oneRow ⟨rfl, rfl, rfl⟩ _

/-- Both steps of the run that issue a cookie do so. -/
example : ((cookies sizedJwt).run oneRow
    [.load [⟨"ab", " kali ", "unused"⟩], .login "kali" true, .signup "parrot" "cd",
      .deleteTeam "ab"]).map (fun s => s.issued.length) = some 2 := by
  decide

end Haaukins.Amigo
