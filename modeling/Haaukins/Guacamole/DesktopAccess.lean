import Haaukins.Guacamole.Event
import Haaukins.Store.TeamIndexes

/-!
# `Haaukins.Guacamole.DesktopAccess`: who sees which desktop (`event.go`, `guacamole.go`,
`intercept.go`)

A team that gets a lab with frontends gets a user of Guacamole under its name, and a connection for
each port of the lab. `guaclogin` takes the session of a browser to its team, and logs the browser
in as the user of this team.

* What Guacamole answers to the requests is an argument, with what it has done: a request can be
  carried out although its answer is lost. `Honest` says what is assumed of the answers. Guacamole
  makes no user twice and gives no identifier twice, and a request without an error was carried out.
  The last part is an assumption on the run: `authAction` has no error after four bad statuses.
* `desktops_isolated` says over all runs that a browser sees connections to the labs of its own team
  and to no others, and all connections of a lab that the team has.

The names of the teams stand in the paths of requests. They are taken to be one part of a path. No
step reads `assigned` and `completed`, nor the teams in `users`. They record the calls of
`AssignLab`.
-/

set_option autoImplicit false

namespace Haaukins.Guacamole

open Store

/-- `NoHostErr`. -/
def noHostErr : String := "host is missing"

/-- `NoPortErr`. -/
def noPortErr : String := "port is missing"

/-- `NoNameErr`. -/
def noNameErr : String := "name is missing"

/-- `IncorrectColorErr`. -/
def incorrectColorErr : String := "colorDepth can take the following values: 8, 16, 24, 32"

/-- `GuacUser`. -/
structure GuacUser where
  username : String
  password : String

/-- `CreateRDPConnOpts`. -/
structure CreateRDPConnOpts where
  host : String
  port : Nat
  name : String
  guacUser : String
  username : String
  password : String
  enableWallPaper : Bool
  resolutionWidth : Nat := 0
  resolutionHeight : Nat := 0
  maxConn : Nat := 0
  colorDepth : Nat := 0
  enableDrive : Bool
  createDrivePath : Bool
  drivePath : String

/-- What `CreateRDPConn` sends. -/
structure RDPConn where
  name : String
  parentIdentifier : String
  protocol : String
  maxConn : Nat
  maxConnPerUser : Nat
  hostname : String
  port : Nat
  width : Nat
  height : Nat
  colorDepth : Nat
  username : String
  password : String
  enableWallpaper : Bool
  enableDrive : Bool
  createDrivePath : Bool
  drivePath : String

/-- `CreateRDPConn`, up to its first request. -/
def createRDPConn (opts : CreateRDPConnOpts) : Except String RDPConn :=
  if opts.host = "" then .error noHostErr
  else if opts.port = 0 then .error noPortErr
  else if opts.name = "" then .error noNameErr
  else if opts.colorDepth % 8 ≠ 0 ∨ opts.colorDepth > 32 then .error incorrectColorErr
  else
    let unset := opts.resolutionWidth = 0 ∨ opts.resolutionHeight = 0
    let maxConn := if opts.maxConn = 0 then 10 else opts.maxConn
    .ok {
      name := opts.name
      parentIdentifier := "ROOT"
      protocol := "rdp"
      maxConn := maxConn
      maxConnPerUser := maxConn
      hostname := opts.host
      port := opts.port
      width := if unset then 1920 else opts.resolutionWidth
      height := if unset then 1080 else opts.resolutionHeight
      colorDepth := if opts.colorDepth = 0 then 16 else opts.colorDepth
      username := opts.username
      password := opts.password
      enableWallpaper := opts.enableWallPaper
      enableDrive := opts.enableDrive
      createDrivePath := opts.createDrivePath
      drivePath := opts.drivePath }

/-- The answer to a request that changes something, and whether it was carried out. -/
structure ChangeAnswer where
  took : Bool
  err : Option String

/-- A port of the lab, and the answers to the requests for its connection. `made` has the
connections that Guacamole made, as the first request can be repeated. -/
structure ConnAnswers where
  port : Nat
  made : List String
  identifier : Except String String
  permission : ChangeAnswer

/-- The answers to the requests of `createGuacConn`. -/
structure DesktopAnswers where
  createUser : ChangeAnswer
  hostIP : Except String String
  conns : List ConnAnswers

/-- The team store, the users of the teams, and Guacamole itself. -/
structure Desktops where
  teams : TeamIndexes
  /-- `guacUserStore`. -/
  guacUsers : GoMap String GuacUser
  /-- The users that Guacamole has, each with the team that it was made for. -/
  users : GoMap String String
  /-- The connections by their identifiers. -/
  conns : List (String × RDPConn)
  /-- The permissions: the names of users, with identifiers of connections. -/
  permissions : List (String × String)
  assigned : List (String × List Nat)
  completed : List (String × List Nat)

/-- `/home/` with the id of the team. -/
def drivePathOf (teamID : String) : String := "/home/" ++ teamID

/-- The options of `createGuacConn` for one port. -/
def connOpts (teamID : String) (u : GuacUser) (hostIP : String) (num port : Nat) :
    CreateRDPConnOpts where
  host := hostIP
  port := port
  name := teamID ++ "-client" ++ num.repr
  guacUser := u.username
  username := u.username
  password := u.password
  enableWallPaper := true
  enableDrive := true
  createDrivePath := true
  drivePath := drivePathOf teamID

namespace Desktops

variable (d : Desktops)

/-- `CreateRDPConn`. -/
def addConn (opts : CreateRDPConnOpts) (a : ConnAnswers) : Desktops × Option String :=
  match createRDPConn opts with
  | .error err => (d, some err)
  | .ok conn =>
    let d := { d with conns := d.conns ++ a.made.map fun id => (id, conn) }
    match a.identifier with
    | .error err => (d, some err)
    | .ok id =>
      -- `addConnectionToUser`.
      ({ d with
          permissions :=
            if a.permission.took then d.permissions ++ [(opts.guacUser, id)] else d.permissions },
        a.permission.err)

/-- The loop of `createGuacConn` over the ports, from the index `i` on. -/
def addConns (teamID : String) (u : GuacUser) (hostIP : String) :
    Nat → List ConnAnswers → Desktops → Desktops × Option String
  | _, [], d => (d, none)
  | i, a :: as, d =>
    match d.addConn (connOpts teamID u hostIP (i + 1) a.port) a with
    | (d, some err) => (d, some err)
    | (d, none) => addConns teamID u hostIP (i + 1) as d

/-- `createGuacConn`. -/
def createGuacConn (t : Team) (password : String) (a : DesktopAnswers) :
    Desktops × Option String :=
  if a.conns.length = 0 then (d, some rdpConfErr)
  else
    let u : GuacUser := { username := t.name, password := password }
    let d := if a.createUser.took then { d with users := d.users.set u.username t.id } else d
    match a.createUser.err with
    | some err => (d, some err)
    | none =>
      -- `CreateUserForTeam`.
      let d := { d with guacUsers := d.guacUsers.set t.id u }
      match a.hostIP with
      | .error err => (d, some err)
      | .ok hostIP => addConns t.id u hostIP 0 a.conns d

/-- `AssignLab`, up to `createGuacConn`. -/
def assignLab (t : Team) (password : String) (a : DesktopAnswers) : Desktops :=
  let ports := a.conns.map ConnAnswers.port
  match ({ d with assigned := d.assigned ++ [(t.id, ports)] }).createGuacConn t password a with
  | (d, some _) => d
  | (d, none) => { d with completed := d.completed ++ [(t.id, ports)] }

/-- The connections that a user of Guacamole sees. -/
def visible (username : String) : List RDPConn :=
  (d.conns.filter fun c => (username, c.1) ∈ d.permissions).map Prod.snd

end Desktops

/-- What a browser gets from `guaclogin`. -/
inductive LoginResponse where
  /-- `c.Value` is read although there is no cookie. -/
  | panicked
  | unableToConnect (err : String)
  /-- The page for a team without a user. -/
  | waiting
  /-- The cookie `GUAC_AUTH` with a token for the user. -/
  | redirect (u : GuacUser) (token : String)

/-- The handler of `guacTokenLoginEndpoint`. -/
def Desktops.guacLogin (d : Desktops) (session : Option String)
    (login : String → String → Except String String) : LoginResponse :=
  match session with
  | none => .panicked
  | some session =>
    match d.teams.getTeamByToken session with
    | .error err => .unableToConnect ("Unable to connect to lab teamStore.GetTeamByToken: " ++ err)
    | .ok t =>
      match d.guacUsers.get? t.id with
      | none => .waiting
      | some u =>
        match login u.username u.password with
        | .error err => .unableToConnect ("Unable to connect to lab: " ++ err)
        | .ok token => .redirect u token

/-- Calls on the team store, and labs that are assigned. -/
inductive DesktopAction where
  | team (c : TeamCall)
  | assignLab (t : Team) (password : String) (a : DesktopAnswers)

/-- The desktops of an event. -/
def desktops : Machine Desktops DesktopAction where
  init d := d.guacUsers = ∅ ∧ d.users = ∅ ∧ d.conns = [] ∧ d.permissions = [] ∧
    d.assigned = [] ∧ d.completed = []
  step d
    | .team c => some { d with teams := (c.call d.teams).1 }
    | .assignLab t password a => some (d.assignLab t password a)

/-- An identifier that is returned is one of those made for the connection, and a permission without
an error was given. `authAction` does not ensure this after four bad statuses. -/
structure ConnAnswers.Honest (a : ConnAnswers) : Prop where
  identifier : ∀ id, a.identifier = .ok id → id ∈ a.made
  permission : a.permission.err = none → a.permission.took = true

/-- What is assumed of the answers of Guacamole, to a team that keeps its name: users and
connections are new, and a request without an error was carried out. -/
def Honest (d : Desktops) : DesktopAction → Prop
  | .team _ => True
  | .assignLab t _ a =>
    (∀ u, d.guacUsers.get? t.id = some u → u.username = t.name) ∧
      (a.createUser.took = true → t.name ∉ d.users) ∧
      (a.createUser.err = none → a.createUser.took = true) ∧
      (d.conns.map Prod.fst ++ a.conns.flatMap ConnAnswers.made).Nodup ∧
      ∀ c ∈ a.conns, c.Honest

/-- The connection leads to a port of a lab that the team has got, with the files of the team. -/
def RDPConn.Of (conn : RDPConn) (teamID : String) (ports : List Nat) : Prop :=
  conn.port ∈ ports ∧ conn.drivePath = drivePathOf teamID

/-- A connection that is made has the port and the folder of its request. -/
theorem createRDPConn_connOpts {teamID hostIP : String} {u : GuacUser} {num port : Nat}
    {conn : RDPConn} (h : createRDPConn (connOpts teamID u hostIP num port) = .ok conn) :
    conn.port = port ∧ conn.drivePath = drivePathOf teamID := by
  unfold createRDPConn at h
  split at h
  · cases h
  · split at h
    · cases h
    · split at h
      · cases h
      · split at h
        · cases h
        · cases h
          exact ⟨rfl, rfl⟩

namespace Desktops

/-- A user of Guacamole belongs to one team, and has permissions for its labs only. -/
structure Inv (d : Desktops) : Prop where
  users : ∀ id u, d.guacUsers.get? id = some u → d.users.get? u.username = some id
  identifiers : (d.conns.map Prod.fst).Nodup
  permissions : ∀ name cid, (name, cid) ∈ d.permissions → cid ∈ d.conns.map Prod.fst ∧
    ∃ id, d.users.get? name = some id ∧
      ∀ conn, (cid, conn) ∈ d.conns → ∃ ports, (id, ports) ∈ d.assigned ∧ conn.Of id ports
  /-- A lab that was assigned without an error is seen by the user of its team. -/
  completed : ∀ id ports, (id, ports) ∈ d.completed → ∃ u, d.guacUsers.get? id = some u ∧
    ∀ port ∈ ports, ∃ conn ∈ d.visible u.username, conn.port = port

/-- Connections and permissions were added. -/
structure Extends (d d' : Desktops) : Prop where
  users : d'.users = d.users
  guacUsers : d'.guacUsers = d.guacUsers
  assigned : d'.assigned = d.assigned
  completed : d'.completed = d.completed
  conns : d.conns ⊆ d'.conns
  permissions : d.permissions ⊆ d'.permissions

variable {d d' d'' : Desktops}

/-- Nothing is taken away. -/
theorem Extends.refl (d : Desktops) : d.Extends d :=
  ⟨rfl, rfl, rfl, rfl, List.Subset.refl _, List.Subset.refl _⟩

/-- Two steps in a row. -/
theorem Extends.trans (h : d.Extends d') (h' : d'.Extends d'') : d.Extends d'' where
  users := h'.users.trans h.users
  guacUsers := h'.guacUsers.trans h.guacUsers
  assigned := h'.assigned.trans h.assigned
  completed := h'.completed.trans h.completed
  conns := List.Subset.trans h.conns h'.conns
  permissions := List.Subset.trans h.permissions h'.permissions

/-- A user sees the connections that it has permissions for. -/
theorem mem_visible {name : String} {conn : RDPConn} :
    conn ∈ d.visible name ↔ ∃ cid, (cid, conn) ∈ d.conns ∧ (name, cid) ∈ d.permissions := by
  simp only [visible, List.mem_map, List.mem_filter, decide_eq_true_eq, Prod.exists]
  constructor
  · rintro ⟨cid, conn', ⟨hconn, hperm⟩, rfl⟩
    exact ⟨cid, hconn, hperm⟩
  · rintro ⟨cid, hconn, hperm⟩
    exact ⟨cid, conn, ⟨hconn, hperm⟩, rfl⟩

/-- What is seen stays seen. -/
theorem Extends.visible (h : d.Extends d') {name : String} {conn : RDPConn}
    (hconn : conn ∈ d.visible name) : conn ∈ d'.visible name := by
  obtain ⟨cid, hconn, hperm⟩ := mem_visible.mp hconn
  exact mem_visible.mpr ⟨cid, h.conns hconn, h.permissions hperm⟩

/-- So do the ports of a lab whose requests had no error. -/
theorem Extends.completed_visible (h : d.Extends d') (hinv : d.Inv) (id : String)
    (ports : List Nat) (hmem : (id, ports) ∈ d'.completed) :
    ∃ u, d'.guacUsers.get? id = some u ∧
      ∀ port ∈ ports, ∃ conn ∈ d'.visible u.username, conn.port = port := by
  rw [h.completed] at hmem
  obtain ⟨u, hu, hports⟩ := hinv.completed id ports hmem
  refine ⟨u, h.guacUsers ▸ hu, fun port hport => ?_⟩
  obtain ⟨conn, hconn, heq⟩ := hports port hport
  exact ⟨conn, h.visible hconn, heq⟩

/-- Connections with new identifiers. -/
theorem Inv.addConns (hinv : d.Inv) {made : List String} (conn : RDPConn)
    (hfresh : (d.conns.map Prod.fst ++ made).Nodup) :
    Inv { d with conns := d.conns ++ made.map fun cid => (cid, conn) } := by
  have hids : (d.conns ++ made.map fun cid => (cid, conn)).map Prod.fst =
      d.conns.map Prod.fst ++ made := by
    rw [List.map_append, List.map_map]
    exact congrArg _ (List.map_id made)
  have hext : d.Extends { d with conns := d.conns ++ made.map fun cid => (cid, conn) } :=
    ⟨rfl, rfl, rfl, rfl, List.subset_append_left _ _, List.Subset.refl _⟩
  refine ⟨hinv.users, ?_, fun name cid hperm => ?_, hext.completed_visible hinv⟩
  · show ((d.conns ++ _).map Prod.fst).Nodup
    rwa [hids]
  · obtain ⟨hmem, id, huser, hconns⟩ := hinv.permissions name cid hperm
    refine ⟨?_, id, huser, fun conn' hconn' => ?_⟩
    · show cid ∈ (d.conns ++ _).map Prod.fst
      rw [hids]
      exact List.mem_append_left made hmem
    · -- A permission is for an old identifier, and the new connections have others.
      rcases List.mem_append.mp hconn' with hold | hnew
      · exact hconns conn' hold
      · obtain ⟨cid', hcid', heq⟩ := List.mem_map.mp hnew
        obtain ⟨rfl, -⟩ := Prod.mk.inj heq
        exact absurd rfl ((List.nodup_append.mp hfresh).2.2 cid' hmem cid' hcid')

/-- A permission for a connection of the team. -/
theorem Inv.addPermission (hinv : d.Inv) {name cid id : String}
    (hcid : cid ∈ d.conns.map Prod.fst) (huser : d.users.get? name = some id)
    (hconns : ∀ conn, (cid, conn) ∈ d.conns →
      ∃ ports, (id, ports) ∈ d.assigned ∧ conn.Of id ports) :
    Inv { d with permissions := d.permissions ++ [(name, cid)] } := by
  have hext : d.Extends { d with permissions := d.permissions ++ [(name, cid)] } :=
    ⟨rfl, rfl, rfl, rfl, List.Subset.refl _, List.subset_append_left _ _⟩
  refine ⟨hinv.users, hinv.identifiers, fun name' cid' hperm => ?_, hext.completed_visible hinv⟩
  rcases List.mem_append.mp hperm with hold | hnew
  · exact hinv.permissions name' cid' hold
  · obtain ⟨rfl, rfl⟩ := Prod.mk.inj (List.mem_singleton.mp hnew)
    exact ⟨hcid, id, huser, hconns⟩

/-- `CreateRDPConn` for a team with a user. Its new connection is the only one that the user may see
besides the old ones. -/
theorem addConn_spec (hinv : d.Inv) {teamID : String} {u : GuacUser} (hostIP : String)
    (num : Nat) {ports : List Nat} {a : ConnAnswers} (ha : a.Honest)
    (huser : d.users.get? u.username = some teamID) (hassigned : (teamID, ports) ∈ d.assigned)
    (hport : a.port ∈ ports) {rest : List String}
    (hfresh : (d.conns.map Prod.fst ++ (a.made ++ rest)).Nodup) :
    ∃ d' err, d.addConn (connOpts teamID u hostIP num a.port) a = (d', err) ∧ d'.Inv ∧
      d.Extends d' ∧ (d'.conns.map Prod.fst ++ rest).Nodup ∧
      (err = none → ∃ conn ∈ d'.visible u.username, conn.port = a.port) := by
  rw [addConn]
  cases hconn : createRDPConn (connOpts teamID u hostIP num a.port) with
  | error err =>
    have hrest : (d.conns.map Prod.fst ++ rest).Nodup :=
      hfresh.sublist ((List.sublist_append_right a.made rest).append_left _)
    exact ⟨d, some err, rfl, hinv, .refl d, hrest, nofun⟩
  | ok conn =>
    obtain ⟨hconnPort, hconnPath⟩ := createRDPConn_connOpts hconn
    rw [← List.append_assoc] at hfresh
    have hmade : (d.conns.map Prod.fst ++ a.made).Nodup :=
      hfresh.sublist (List.sublist_append_left _ rest)
    have hinv' := hinv.addConns conn hmade
    have hids : (d.conns ++ a.made.map fun cid => (cid, conn)).map Prod.fst =
        d.conns.map Prod.fst ++ a.made := by
      rw [List.map_append, List.map_map]
      exact congrArg _ (List.map_id a.made)
    have hext : d.Extends { d with conns := d.conns ++ a.made.map fun cid => (cid, conn) } :=
      ⟨rfl, rfl, rfl, rfl, List.subset_append_left _ _, List.Subset.refl _⟩
    have hfresh' : ((d.conns ++ a.made.map fun cid => (cid, conn)).map Prod.fst ++ rest).Nodup := by
      rwa [hids]
    cases hid : a.identifier with
    | error err => exact ⟨_, some err, rfl, hinv', hext, hfresh', nofun⟩
    | ok cid =>
      have hcid := ha.identifier cid hid
      have hmem : (cid, conn) ∈ d.conns ++ a.made.map fun cid => (cid, conn) :=
        List.mem_append_right _ (List.mem_map_of_mem hcid)
      -- The connection that got the identifier is the new one.
      have hconns : ∀ conn', (cid, conn') ∈ d.conns ++ a.made.map (fun cid => (cid, conn)) →
          ∃ ports, (teamID, ports) ∈ d.assigned ∧ conn'.Of teamID ports := by
        intro conn' hconn'
        rcases List.mem_append.mp hconn' with hold | hnew
        · have hold' : cid ∈ d.conns.map Prod.fst := List.mem_map_of_mem hold
          exact absurd rfl ((List.nodup_append.mp hmade).2.2 cid hold' cid hcid)
        · obtain ⟨cid', -, heq⟩ := List.mem_map.mp hnew
          obtain ⟨-, rfl⟩ := Prod.mk.inj heq
          exact ⟨ports, hassigned, hconnPort ▸ hport, hconnPath⟩
      cases htook : a.permission.took with
      | false =>
        refine ⟨_, a.permission.err, rfl, hinv', hext, hfresh', fun hnone => ?_⟩
        exact absurd (ha.permission hnone) (by rw [htook]; exact Bool.false_ne_true)
      | true =>
        refine ⟨_, a.permission.err, rfl,
          hinv'.addPermission (List.mem_map_of_mem hmem) huser hconns,
          ⟨rfl, rfl, rfl, rfl, List.subset_append_left _ _, List.subset_append_left _ _⟩, hfresh',
          fun _ => ⟨conn, mem_visible.mpr ⟨cid, hmem, ?_⟩, hconnPort⟩⟩
        exact List.mem_append_right _ List.mem_cons_self

/-- The loop over the ports. -/
theorem addConns_spec (hinv : d.Inv) {teamID : String} {u : GuacUser} (hostIP : String)
    {ports : List Nat} {as : List ConnAnswers} (i : Nat) (has : ∀ a ∈ as, a.Honest)
    (huser : d.users.get? u.username = some teamID) (hassigned : (teamID, ports) ∈ d.assigned)
    (hports : ∀ a ∈ as, a.port ∈ ports)
    (hfresh : (d.conns.map Prod.fst ++ as.flatMap ConnAnswers.made).Nodup) :
    ∃ d' err, addConns teamID u hostIP i as d = (d', err) ∧ d'.Inv ∧ d.Extends d' ∧
      (err = none → ∀ a ∈ as, ∃ conn ∈ d'.visible u.username, conn.port = a.port) := by
  induction as generalizing d i with
  | nil => exact ⟨d, none, rfl, hinv, .refl d, fun _ => nofun⟩
  | cons a as ih =>
    obtain ⟨ha, has⟩ := List.forall_mem_cons.mp has
    obtain ⟨hport, hports⟩ := List.forall_mem_cons.mp hports
    rw [List.flatMap_cons] at hfresh
    obtain ⟨d', err, heq, hinv', hext, hfresh', hseen⟩ :=
      addConn_spec hinv hostIP (i + 1) ha huser hassigned hport hfresh
    rw [addConns, heq]
    cases err with
    | some err => exact ⟨d', some err, rfl, hinv', hext, nofun⟩
    | none =>
      obtain ⟨d'', err, heq', hinv'', hext', hall⟩ :=
        ih hinv' (i + 1) has (hext.users ▸ huser) (hext.assigned ▸ hassigned) hports hfresh'
      refine ⟨d'', err, heq', hinv'', hext.trans hext', fun hnone => ?_⟩
      refine List.forall_mem_cons.mpr ⟨?_, hall hnone⟩
      obtain ⟨conn, hconn, hconnPort⟩ := hseen rfl
      exact ⟨conn, hext'.visible hconn, hconnPort⟩

/-- A lab is recorded for a team. -/
theorem Inv.assign (hinv : d.Inv) (a : String × List Nat) :
    Inv { d with assigned := d.assigned ++ [a] } := by
  refine ⟨hinv.users, hinv.identifiers, fun name cid hperm => ?_, hinv.completed⟩
  obtain ⟨hmem, id, huser, hconns⟩ := hinv.permissions name cid hperm
  refine ⟨hmem, id, huser, fun conn hconn => ?_⟩
  obtain ⟨ports, hports, hof⟩ := hconns conn hconn
  exact ⟨ports, List.mem_append_left _ hports, hof⟩

/-- Guacamole makes a user with a new name. -/
theorem Inv.createUser (hinv : d.Inv) {name : String} (id : String) (hnew : name ∉ d.users) :
    Inv { d with users := d.users.set name id } := by
  have hkeeps : ∀ name' id', d.users.get? name' = some id' →
      (d.users.set name id).get? name' = some id' := by
    intro name' id' hget
    rw [GoMap.get?_set, if_neg, hget]
    rintro rfl
    exact hnew (GoMap.mem_iff_get?.mpr ⟨id', hget⟩)
  refine ⟨fun id' u hu => hkeeps _ _ (hinv.users id' u hu), hinv.identifiers,
    fun name' cid hperm => ?_, hinv.completed⟩
  obtain ⟨hmem, id', huser, hconns⟩ := hinv.permissions name' cid hperm
  exact ⟨hmem, id', hkeeps name' id' huser, hconns⟩

/-- The user store gets the user of a team that had none. -/
theorem Inv.createUserForTeam (hinv : d.Inv) {id : String} {u : GuacUser}
    (huser : d.users.get? u.username = some id) (hnone : d.guacUsers.get? id = none) :
    Inv { d with guacUsers := d.guacUsers.set id u } := by
  refine ⟨fun id' u' hu' => ?_, hinv.identifiers, hinv.permissions, fun id' ports hmem => ?_⟩
  · change (d.guacUsers.set id u).get? id' = some u' at hu'
    rw [GoMap.get?_set] at hu'
    split at hu'
    · next heq =>
      obtain rfl := Option.some.inj hu'
      exact heq ▸ huser
    · exact hinv.users id' u' hu'
  · obtain ⟨u', hu', hports⟩ := hinv.completed id' ports hmem
    refine ⟨u', ?_, hports⟩
    show (d.guacUsers.set id u).get? id' = some u'
    rw [GoMap.get?_set, if_neg, hu']
    rintro rfl
    cases hnone.symm.trans hu'

/-- `createGuacConn` for a team whose lab is recorded. -/
theorem createGuacConn_spec (hinv : d.Inv) {t : Team} {password : String} {a : DesktopAnswers}
    (ha : Honest d (.assignLab t password a))
    (hassigned : (t.id, a.conns.map ConnAnswers.port) ∈ d.assigned) :
    ∃ d' err, d.createGuacConn t password a = (d', err) ∧ d'.Inv ∧
      (err = none → ∃ u, d'.guacUsers.get? t.id = some u ∧
        ∀ a' ∈ a.conns, ∃ conn ∈ d'.visible u.username, conn.port = a'.port) := by
  obtain ⟨hnamed, hnew, htook, hfresh, hconns⟩ := ha
  rw [createGuacConn]
  by_cases hlength : a.conns.length = 0
  · rw [if_pos hlength]
    exact ⟨d, some rdpConfErr, rfl, hinv, nofun⟩
  · rw [if_neg hlength]
    dsimp only
    cases htook' : a.createUser.took with
    | false =>
      cases herr : a.createUser.err with
      | some err => exact ⟨d, some err, rfl, hinv, nofun⟩
      | none => exact absurd (htook herr) (by rw [htook']; exact Bool.false_ne_true)
    | true =>
      have hname := hnew htook'
      have hmade := hinv.createUser t.id hname
      cases a.createUser.err with
      | some err => exact ⟨_, some err, rfl, hmade, nofun⟩
      | none =>
        -- A team with a user has its name in Guacamole, and would get no second one.
        have hnone : d.guacUsers.get? t.id = none := by
          cases hget : d.guacUsers.get? t.id with
          | none => rfl
          | some u =>
            have huser := hinv.users t.id u hget
            rw [hnamed u hget] at huser
            exact absurd (GoMap.mem_iff_get?.mpr ⟨t.id, huser⟩) hname
        have huser : (d.users.set t.name t.id).get? t.name = some t.id := GoMap.get?_set_self _ _ _
        have hstored := hmade.createUserForTeam (u := ⟨t.name, password⟩) huser hnone
        cases a.hostIP with
        | error err => exact ⟨_, some err, rfl, hstored, nofun⟩
        | ok hostIP =>
          obtain ⟨d', err, heq, hinv', hext, hall⟩ :=
            addConns_spec (u := ⟨t.name, password⟩) hstored hostIP 0
            hconns huser hassigned (fun a' ha' => List.mem_map_of_mem ha') hfresh
          refine ⟨d', err, heq, hinv', fun hnone' => ⟨⟨t.name, password⟩, ?_, hall hnone'⟩⟩
          rw [hext.guacUsers]
          exact GoMap.get?_set_self _ _ _

/-- `AssignLab` makes a user for the team, and connections with its folder. -/
theorem Inv.assignLab (hinv : d.Inv) {t : Team} {password : String} {a : DesktopAnswers}
    (ha : Honest d (.assignLab t password a)) : (d.assignLab t password a).Inv := by
  have hassign := hinv.assign (t.id, a.conns.map ConnAnswers.port)
  obtain ⟨d', err, heq, hinv', hseen⟩ := createGuacConn_spec hassign ha
    (List.mem_append_right _ List.mem_cons_self)
  rw [Desktops.assignLab, heq]
  cases err with
  | some err => exact hinv'
  | none =>
    refine ⟨hinv'.users, hinv'.identifiers, hinv'.permissions, fun id ports hmem => ?_⟩
    rcases List.mem_append.mp hmem with hold | hnew
    · exact hinv'.completed id ports hold
    · obtain ⟨rfl, rfl⟩ := Prod.mk.inj (List.mem_singleton.mp hnew)
      obtain ⟨u, hu, hall⟩ := hseen rfl
      exact ⟨u, hu, List.forall_mem_map.mpr hall⟩

/-- The invariant over a run. -/
theorem inv_reachable (h : desktops.Reachable Honest d) : d.Inv := by
  refine h.invariant Inv (fun d hd => ?_) fun d a d' hinv ha hstep => ?_
  · obtain ⟨hguac, husers, hconns, hpermissions, -, hcompleted⟩ := hd
    refine ⟨fun id u hu => ?_, ?_, fun name cid hmem => ?_, fun id ports hmem => ?_⟩
    · rw [hguac, GoMap.get?_empty] at hu
      cases hu
    · rw [hconns]
      exact List.nodup_nil
    · rw [hpermissions] at hmem
      cases hmem
    · rw [hcompleted] at hmem
      cases hmem
  · cases a with
    | team c =>
      cases hstep
      exact ⟨hinv.users, hinv.identifiers, hinv.permissions, hinv.completed⟩
    | assignLab t password a =>
      cases hstep
      exact hinv.assignLab ha

end Desktops

/-- A redirect has logged in the user of the team of the session. -/
theorem guacLogin_redirect {d : Desktops} {session : Option String}
    {login : String → String → Except String String} {u : GuacUser} {token : String}
    (h : d.guacLogin session login = .redirect u token) :
    ∃ text t, session = some text ∧ d.teams.getTeamByToken text = .ok t ∧
      d.guacUsers.get? t.id = some u ∧ login u.username u.password = .ok token := by
  unfold Desktops.guacLogin at h
  cases session with
  | none => cases h
  | some text =>
    dsimp only at h
    cases hteam : d.teams.getTeamByToken text with
    | error err =>
      rw [hteam] at h
      cases h
    | ok t =>
      rw [hteam] at h
      dsimp only at h
      cases huser : d.guacUsers.get? t.id with
      | none =>
        rw [huser] at h
        cases h
      | some u' =>
        rw [huser] at h
        dsimp only at h
        cases hlogin : login u'.username u'.password with
        | error err =>
          rw [hlogin] at h
          cases h
        | ok token' =>
          rw [hlogin] at h
          cases h
          exact ⟨text, t, rfl, hteam, huser, hlogin⟩

/-- Over all runs, a browser that is logged in has the session of a team, and sees connections to
the labs that this team was given, with the files of this team. It sees each port of a lab that the
team has got without an error. -/
theorem desktops_isolated {d : Desktops} (h : desktops.Reachable Honest d)
    {session : Option String} (login : String → String → Except String String) {u : GuacUser}
    {token : String} (hlogin : d.guacLogin session login = .redirect u token) :
    ∃ text t, session = some text ∧ d.teams.getTeamByToken text = .ok t ∧
      (∀ conn ∈ d.visible u.username, ∃ ports, (t.id, ports) ∈ d.assigned ∧ conn.Of t.id ports) ∧
      ∀ ports, (t.id, ports) ∈ d.completed →
        ∀ port ∈ ports, ∃ conn ∈ d.visible u.username, conn.port = port := by
  have hinv := Desktops.inv_reachable h
  obtain ⟨text, t, hsession, hteam, huser, -⟩ := guacLogin_redirect hlogin
  refine ⟨text, t, hsession, hteam, fun conn hconn => ?_, fun ports hmem port hport => ?_⟩
  · obtain ⟨cid, hconn, hperm⟩ := Desktops.mem_visible.mp hconn
    obtain ⟨-, id, hid, hconns⟩ := hinv.permissions u.username cid hperm
    obtain rfl : id = t.id := Option.some.inj (hid.symm.trans (hinv.users t.id u huser))
    exact hconns conn hconn
  · obtain ⟨u', hu', hall⟩ := hinv.completed t.id ports hmem
    obtain rfl : u' = u := Option.some.inj (hu'.symm.trans huser)
    exact hall port hport

/-- Guacamole carries out all requests for a lab with one port. -/
def desktopOf (port : Nat) (id : String) : DesktopAnswers where
  createUser := ⟨true, none⟩
  hostIP := .ok "172.17.0.1"
  conns := [⟨port, [id], .ok id, ⟨true, none⟩⟩]

/-- No team has a desktop yet. -/
def noDesktops : Desktops where
  teams := .new
  guacUsers := ∅
  users := ∅
  conns := []
  permissions := []
  assigned := []
  completed := []

/-- The answers below carry out what they report. -/
theorem desktopOf_honest (port : Nat) (id : String) :
    ∀ c ∈ (desktopOf port id).conns, c.Honest := by
  intro c hc
  rw [List.mem_singleton.mp hc]
  exact ⟨fun id' hid' => by cases hid'; exact List.mem_cons_self, fun _ => rfl⟩

/-- Two teams get labs, and the browser of the first one is logged in. -/
theorem desktops_isolated_two : ∃ d u, (desktops.Reachable Honest d ∧
      d.guacLogin (some "token") (fun _ _ => .ok "guac") = .redirect u "guac" ∧
      d.assigned = [("1", [5000]), ("2", [5001])]) ∧
    ∃ text t, some "token" = some text ∧ d.teams.getTeamByToken text = .ok t ∧
      (∀ conn ∈ d.visible u.username, ∃ ports, (t.id, ports) ∈ d.assigned ∧ conn.Of t.id ports) ∧
      ∀ ports, (t.id, ports) ∈ d.completed →
        ∀ port ∈ ports, ∃ conn ∈ d.visible u.username, conn.port = port := by
  have hinit : desktops.Reachable Honest noDesktops := .init ⟨rfl, rfl, rfl, rfl, rfl, rfl⟩
  have hsaved := hinit.step (a := DesktopAction.team (.saveTeam (newTeam "1" "a") none)) trivial rfl
  have htoken := hsaved.step
    (a := DesktopAction.team (.saveTokenForTeam "token" (newTeam "1" "a"))) trivial rfl
  have hfirst := htoken.step
    (a := DesktopAction.assignLab (newTeam "1" "a") "$2a$" (desktopOf 5000 "c1"))
    ⟨nofun, fun _ => by decide, fun _ => rfl, by decide, desktopOf_honest 5000 "c1"⟩ rfl
  have hsecond := hfirst.step
    (a := DesktopAction.assignLab (newTeam "2" "b") "$2b$" (desktopOf 5001 "c2"))
    ⟨nofun, fun _ => by decide, fun _ => rfl, by decide, desktopOf_honest 5001 "c2"⟩ rfl
  exact ⟨_, ⟨"a", "$2a$"⟩, ⟨hsecond, rfl, rfl⟩,
    desktops_isolated hsecond (fun _ _ => .ok "guac") rfl⟩

end Haaukins.Guacamole
