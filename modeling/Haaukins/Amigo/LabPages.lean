import Haaukins.Exercise.DNSRecords

/-!
# `Haaukins.Amigo.LabPages`: what a team reads about its lab (`svcs/amigo/amigo.go`)

`AssignLab` (`svcs/guacamole/event.go`) prints the hosts of the lab as lines and gives them to the
team. The pages of hosts and of the subnet are made from these lines alone: `/hosts` splits each at
the tab, and `/info` takes the first three parts of the address in the first line. An `AddChallenge`
of the daemon changes the lab and not the lines.

* `hostsPage_current_iff` says along which runs `/hosts` shows the hosts that the lab has.
* `infoSubnet_current_iff` says along which runs `/info` shows the subnet of an assigned lab. When
  the lab has no host to list, the page says that no lab is assigned.

The lab and its hosts are those of `Haaukins.Exercise.DNSRecords`. The step `assign` is an
`AssignLab` that comes to `SetHostsInfo`.
-/

set_option autoImplicit false

namespace Haaukins.Amigo

open Exercise (DNSEnvironment DNSRequest HostEntry RecordExercise dnsRecords isClient)

/-- `Hosts`. -/
structure Hosts where
  ip : String
  domain : String
  deriving DecidableEq, Repr

/-- The line of a host: `fmt.Sprintf("%s \t %s", ip, arecord)`. -/
def hostLine (entry : HostEntry) : String := entry.address ++ " \t " ++ entry.name

/-- `getDNSRecords`. Each `DNSRecord` has one address. -/
def getDNSRecords (l : List HostEntry) : List String := l.map hostLine

/-- The body of the loop of `handleHostsInformation`. It panics when there is no tab. -/
def hostOfLine (line : String) : Option Hosts :=
  match GoStrings.split line '\t' with
  | ip :: domain :: _ => some { ip := ip, domain := domain }
  | _ => none

/-- `data.Hosts` in `handleHostsInformation`. -/
def hostsPage (hosts : List String) : Option (List Hosts) := hosts.mapM hostOfLine

/-- The text of `handleInfo` before a lab is assigned. -/
def labNotAssigned : String := "LAB IS NOT ASSIGNED YET"

/-- `data.LabSubnet` in `handleInfo`. It panics when the address has no three parts. -/
def infoSubnet (hosts : List String) : Option String :=
  match hosts with
  | [] => some labNotAssigned
  | line :: _ =>
    let ip := (GoStrings.split line '\t').headD ""
    match GoStrings.split ip '.' with
    | a :: b :: c :: _ => some (a ++ "." ++ b ++ "." ++ c ++ "." ++ "0/24")
    | _ => none

/-- The lab of a team and the lines that the team has of it. -/
structure LabPages where
  environment : DNSEnvironment
  /-- `t.hostsInfo`. -/
  hostsInfo : List String
  /-- The lab is assigned to the team. -/
  assigned : Bool

/-- What happens to a lab and its team. -/
inductive LabAction where
  /-- An operation of the lab, with the numbers that `Connect` gives. -/
  | lab (req : DNSRequest) (digit : String → Nat → Nat)
  | assign

namespace LabPages

/-- A new lab, and a team that has none. -/
def new (a b c : Nat) : LabPages where
  environment := .new a b c
  hostsInfo := []
  assigned := false

end LabPages

/-- Runs of a lab and its team. -/
def labPages : Machine LabPages LabAction where
  init s := ∃ a b c, s = .new a b c
  step s
    | .lab req digit =>
      (dnsRecords.step s.environment (req, digit)).map fun env => { s with environment := env }
    | .assign =>
      some { s with hostsInfo := getDNSRecords s.environment.dnsrecords, assigned := true }

/-- The row of a host. The spaces around the tab stay in it. -/
def hostRow (entry : HostEntry) : Hosts where
  ip := entry.address ++ " "
  domain := " " ++ entry.name

namespace LabPages

variable (s : LabPages)

/-- `/hosts` shows the hosts of the lab. -/
def HostsCurrent : Prop :=
  hostsPage s.hostsInfo = some (s.environment.dnsrecords.map hostRow)

/-- `/info` shows the subnet of the lab. -/
def SubnetCurrent : Prop := infoSubnet s.hostsInfo = some s.environment.network.subnet

/-- The lab has no host whose name has a tab when it is assigned, and an `Add` after that enters
no exercise with a host to list. -/
def Settled (s : LabPages) : LabAction → Prop
  | .assign => ∀ entry ∈ s.environment.dnsrecords, '\t' ∉ entry.name.toList
  | .lab (.add confs) _ =>
    s.assigned = true → ∀ conf ∈ DNSEnvironment.accepted s.environment.tags confs,
      conf.static = false → ∀ c ∈ conf.containerOpts, isClient c = false →
        ∀ r ∈ c.records, r.type ≠ "A"
  | .lab _ _ => True

/-- The lab has a host when it is assigned. -/
def HasHost (s : LabPages) : LabAction → Prop
  | .assign => s.environment.dnsrecords ≠ []
  | .lab _ _ => True

end LabPages

/-! ### One line -/

/-- An address of the lab is four numbers. -/
theorem formatIP_new (a b c n : Nat) : (DNSEnvironment.new a b c).network.formatIP n =
    (String.singleton '.').intercalate [a.repr, b.repr, c.repr, n.repr] := by
  show (Virtual.newNetwork _).formatIP n = _
  rw [Virtual.formatIP_newNetwork]
  show (a.repr ++ ("." ++ (b.repr ++ ("." ++ c.repr)))) ++ ("." ++ n.repr) = _
  apply String.toList_injective
  simp

/-- The entries have addresses of the network. -/
def Addressed (a b c : Nat) (l : List HostEntry) : Prop :=
  ∀ entry ∈ l, ∃ n : Nat, entry.address = (DNSEnvironment.new a b c).network.formatIP n

/-- An address has no tab. -/
theorem tab_notMem_formatIP (a b c n : Nat) :
    '\t' ∉ ((DNSEnvironment.new a b c).network.formatIP n).toList := by
  rw [formatIP_new]
  refine GoStrings.notMem_intercalate (by decide) fun s hs => ?_
  have hrepr : ∀ m : Nat, '\t' ∉ m.repr.toList := GoStrings.notMem_repr rfl
  simp only [List.mem_cons, List.not_mem_nil, or_false] at hs
  rcases hs with rfl | rfl | rfl | rfl <;> exact hrepr _

/-- Nor has the address of an entry. -/
theorem Addressed.tab_notMem {a b c : Nat} {l : List HostEntry} (hl : Addressed a b c l)
    {entry : HostEntry} (hentry : entry ∈ l) : '\t' ∉ entry.address.toList := by
  obtain ⟨n, hn⟩ := hl entry hentry
  rw [hn]
  exact tab_notMem_formatIP a b c n

/-- The first part of a line is the address. -/
theorem split_hostLine {entry : HostEntry} (haddr : '\t' ∉ entry.address.toList) :
    GoStrings.split (hostLine entry) '\t' =
      (entry.address ++ " ") :: GoStrings.split (" " ++ entry.name) '\t' := by
  have hline : hostLine entry =
      (entry.address ++ " ") ++ (String.singleton '\t' ++ (" " ++ entry.name)) := by
    apply String.toList_injective
    simp [hostLine]
  have hfirst : '\t' ∉ (entry.address ++ " ").toList := by simpa using haddr
  rw [hline, GoStrings.split_append, GoStrings.split_of_notMem hfirst]
  rfl

/-- The row of a line has the host exactly when the name of the host has no tab. -/
theorem hostOfLine_iff {entry : HostEntry} (haddr : '\t' ∉ entry.address.toList) :
    hostOfLine (hostLine entry) = some (hostRow entry) ↔ '\t' ∉ entry.name.toList := by
  rw [hostOfLine, split_hostLine haddr]
  constructor
  · intro h
    cases hparts : GoStrings.split (" " ++ entry.name) '\t' with
    | nil =>
      rw [hparts] at h
      cases h
    | cons part parts =>
      rw [hparts] at h
      obtain rfl : part = " " ++ entry.name := congrArg Hosts.domain (Option.some.inj h)
      -- A part of a split has no separator.
      have hmem : " " ++ entry.name ∈ GoStrings.split (" " ++ entry.name) '\t' := by
        rw [hparts]
        exact List.mem_cons_self
      obtain ⟨cs, hcs, heq⟩ := List.mem_map.mp hmem
      have htab : '\t' ∉ (" " ++ entry.name).toList := by
        rw [← heq, String.toList_ofList]
        exact GoStrings.notMem_of_mem_splitOn hcs
      simpa using htab
  · intro h
    have hname : '\t' ∉ (" " ++ entry.name).toList := by simpa using h
    rw [GoStrings.split_of_notMem hname]
    rfl

/-! ### The pages -/

/-- The page has all hosts exactly when no name has a tab. -/
theorem hostsPage_iff {a b c : Nat} {l : List HostEntry} (hl : Addressed a b c l) :
    hostsPage (getDNSRecords l) = some (l.map hostRow) ↔
      ∀ entry ∈ l, '\t' ∉ entry.name.toList := by
  induction l with
  | nil => simp [hostsPage, getDNSRecords]
  | cons entry l ih =>
    have ih := ih fun e he => hl e (List.mem_cons_of_mem _ he)
    rw [List.forall_mem_cons, ← ih, ← hostOfLine_iff (hl.tab_notMem List.mem_cons_self)]
    show (hostLine entry :: getDNSRecords l).mapM hostOfLine = _ ↔ _
    rw [List.mapM_cons]
    cases hostOfLine (hostLine entry) with
    | none => simp
    | some row =>
      cases hrest : hostsPage (getDNSRecords l) with
      | none => simp [show (getDNSRecords l).mapM hostOfLine = none from hrest]
      | some rows => simp [show (getDNSRecords l).mapM hostOfLine = some rows from hrest]

/-- A page has a row for each line. -/
theorem length_hostsPage {hosts : List String} {rows : List Hosts}
    (h : hostsPage hosts = some rows) : rows.length = hosts.length := by
  induction hosts generalizing rows with
  | nil =>
    cases h
    rfl
  | cons line hosts ih =>
    rw [hostsPage, List.mapM_cons] at h
    obtain ⟨row, -, h⟩ := Option.bind_eq_some_iff.mp h
    obtain ⟨rest, hrest, h⟩ := Option.bind_eq_some_iff.mp h
    cases h
    rw [List.length_cons, List.length_cons, ih hrest]

/-- The subnet of the page is that of the network, once there is a line. -/
theorem infoSubnet_cons {a b c : Nat} {entry : HostEntry} {l : List HostEntry}
    (hl : Addressed a b c (entry :: l)) :
    infoSubnet (getDNSRecords (entry :: l)) =
      some (DNSEnvironment.new a b c).network.subnet := by
  obtain ⟨n, hn⟩ := hl entry List.mem_cons_self
  have hip : (GoStrings.split (hostLine entry) '\t').headD "" =
      (String.singleton '.').intercalate [a.repr, b.repr, c.repr, n.repr ++ " "] := by
    rw [split_hostLine (hl.tab_notMem List.mem_cons_self), hn, formatIP_new]
    apply String.toList_injective
    simp
  -- The line has four numbers with dots between them, and a blank after the last one.
  have hparts : GoStrings.split ((GoStrings.split (hostLine entry) '\t').headD "") '.' =
      [a.repr, b.repr, c.repr, n.repr ++ " "] := by
    rw [hip]
    refine GoStrings.split_intercalate (fun s hs => ?_) (by simp)
    have hrepr : ∀ m : Nat, '.' ∉ m.repr.toList := GoStrings.notMem_repr rfl
    simp only [List.mem_cons, List.not_mem_nil, or_false] at hs
    rcases hs with rfl | rfl | rfl | rfl
    · exact hrepr _
    · exact hrepr _
    · exact hrepr _
    · simpa using hrepr n
  show (match GoStrings.split ((GoStrings.split (hostLine entry) '\t').headD "") '.' with
    | a :: b :: c :: _ => some (a ++ "." ++ b ++ "." ++ c ++ "." ++ "0/24")
    | _ => none) = _
  rw [hparts]
  show some _ = some ((a.repr ++ ("." ++ (b.repr ++ ("." ++ c.repr)))) ++ ".0/24")
  refine congrArg some (String.toList_injective ?_)
  simp

/-- The text without a lab is no subnet. -/
theorem labNotAssigned_ne (a b c : Nat) :
    labNotAssigned ≠ (DNSEnvironment.new a b c).network.subnet := by
  intro h
  have hdot : '.' ∈ (DNSEnvironment.new a b c).network.subnet.toList := by
    show '.' ∈ ((a.repr ++ ("." ++ (b.repr ++ ("." ++ c.repr)))) ++ ".0/24").toList
    simp
  rw [← h] at hdot
  revert hdot
  decide

/-! ### Steps of the lab -/

/-- What an operation appends to the list of hosts. -/
def appended (env : DNSEnvironment) (digit : String → Nat → Nat) : DNSRequest → List HostEntry
  | .add confs => (DNSEnvironment.accepted env.tags confs).flatMap fun conf =>
      (conf.added env.network.formatIP (digit conf.tag)).entries env.dnsAddr
  | _ => []

/-- A reset makes the containers again at their numbers, and keeps the list of hosts. -/
theorem resetExercises_step {env env' : DNSEnvironment} {digit : String → Nat → Nat}
    {p : Exercise.DNSExercise → Bool} (h : env.Inv)
    (hreset : env.resetExercises digit p = some env') :
    env'.Inv ∧ env'.network = env.network ∧ env'.dnsrecords = env.dnsrecords ++ [] := by
  have hnetwork : env'.network = env.network := by
    rw [DNSEnvironment.resetExercises_eq h hreset]
    rfl
  obtain ⟨hinv, hlist, -⟩ := h.resetExercises hreset
  exact ⟨hinv, hnetwork, hlist.trans (List.append_nil _).symm⟩

/-- An operation of the lab keeps its network, and only `Add` changes the list of hosts. -/
theorem lab_step {env env' : DNSEnvironment} {req : DNSRequest} {digit : String → Nat → Nat}
    (h : env.Inv) (hs : dnsRecords.step env (req, digit) = some env') :
    env'.Inv ∧ env'.network = env.network ∧
      env'.dnsrecords = env.dnsrecords ++ appended env digit req := by
  have hsame : env.Inv ∧ env.network = env.network ∧ env.dnsrecords = env.dnsrecords ++ [] :=
    ⟨h, rfl, (List.append_nil _).symm⟩
  cases req with
  | add confs =>
    have hentered : ∃ err, env.add digit confs =
        some (env.enter digit (DNSEnvironment.accepted env.tags confs), err) :=
      DNSEnvironment.add_eq confs
    obtain ⟨err, hadd⟩ := hentered
    obtain ⟨⟨t, err'⟩, hadd', rfl⟩ := Option.map_eq_some_iff.mp hs
    obtain rfl : t = env.enter digit (DNSEnvironment.accepted env.tags confs) :=
      congrArg Prod.fst (Option.some.inj (hadd'.symm.trans hadd))
    exact ⟨h.enter _, rfl, rfl⟩
  | start =>
    cases hs
    exact ⟨⟨h.network, h.exercises, h.dnsrecords, h.refreshDNS.zone⟩, rfl,
      (List.append_nil _).symm⟩
  | resetByTag t =>
    obtain ⟨⟨u, err⟩, hreset, rfl⟩ := Option.map_eq_some_iff.mp hs
    rw [DNSEnvironment.resetByTag] at hreset
    split at hreset
    · cases hreset
      exact hsame
    split at hreset
    · obtain ⟨v, hrun, heq⟩ := Option.map_eq_some_iff.mp hreset
      obtain rfl : v = u := congrArg Prod.fst heq
      exact resetExercises_step h hrun
    · cases hreset
      exact hsame
  | reset =>
    -- The refreshed environment has the network and the list of hosts of the old one.
    have hreset := resetExercises_step h.refreshDNS hs
    exact hreset

/-- An `Add` appends nothing exactly when no exercise that it enters has a host to list. -/
theorem appended_add_eq_nil {env : DNSEnvironment} (h : env.Inv)
    (digit : String → Nat → Nat) (confs : List RecordExercise) :
    appended env digit (.add confs) = [] ↔
      ∀ conf ∈ DNSEnvironment.accepted env.tags confs, conf.static = false →
        ∀ c ∈ conf.containerOpts, isClient c = false → ∀ r ∈ c.records, r.type ≠ "A" := by
  rw [appended, List.flatMap_eq_nil_iff]
  refine forall₂_congr fun conf _ => ?_
  rw [List.eq_nil_iff_forall_not_mem]
  constructor
  · intro hnone hstatic c hc hclient r hr htype
    obtain ⟨i, hi, hget⟩ := List.getElem_of_mem hc
    have hzip : (c, i) ∈ conf.containerOpts.zipIdx := by
      rw [List.mem_zipIdx_iff_getElem?, List.getElem?_eq_getElem hi, hget]
    exact hnone _ (h.mem_added.mpr ⟨hstatic, (c, i), hzip, hclient, r, hr, htype, rfl⟩)
  · intro hall entry hentry
    obtain ⟨hstatic, p, hp, hclient, r, hr, htype, -⟩ := h.mem_added.mp hentry
    exact hall hstatic p.1 (List.fst_mem_of_mem_zipIdx hp) hclient r hr htype

/-! ### Runs -/

namespace LabPages

variable {a b c : Nat} {s s' : LabPages}

/-- What is always true of a lab that began with these parts of its addresses. -/
structure LabInv (a b c : Nat) (s : LabPages) : Prop where
  environment : s.environment.Inv
  network : s.environment.network = (DNSEnvironment.new a b c).network

/-- The records are in the network of the lab. -/
theorem LabInv.addressed (h : s.LabInv a b c) : Addressed a b c s.environment.dnsrecords := by
  intro entry hentry
  obtain ⟨e, he, p, hp, hclient, r, hr, htype, rfl⟩ :=
    h.environment.mem_dnsrecords.mp hentry
  exact ⟨p.2, by rw [h.network]⟩

/-- An operation on the lab keeps the invariant. -/
theorem LabInv.step {act : LabAction} (h : s.LabInv a b c) (hs : labPages.step s act = some s') :
    s'.LabInv a b c := by
  cases act with
  | lab req digit =>
    obtain ⟨env, hstep, rfl⟩ := Option.map_eq_some_iff.mp hs
    obtain ⟨hinv, hnetwork, -⟩ := lab_step h.environment hstep
    exact ⟨hinv, hnetwork.trans h.network⟩
  | assign =>
    cases hs
    exact ⟨h.environment, h.network⟩

/-- The team has the lines of the hosts of its lab, and no name breaks its line. -/
structure HostsInv (s : LabPages) : Prop where
  lines : s.hostsInfo = getDNSRecords s.environment.dnsrecords
  names : ∀ entry ∈ s.environment.dnsrecords, '\t' ∉ entry.name.toList

/-- With the invariant of the page its hosts are those of the lab. -/
theorem HostsInv.current (h : s.LabInv a b c) (hhosts : s.HostsInv) : s.HostsCurrent := by
  rw [HostsCurrent, hhosts.lines]
  exact (hostsPage_iff h.addressed).mpr hhosts.names

/-- The lines are right as long as the lab has the same hosts. -/
theorem HostsInv.lab (h : s.HostsInv) {env : DNSEnvironment}
    (hlist : env.dnsrecords = s.environment.dnsrecords) :
    ({ s with environment := env } : LabPages).HostsInv where
  lines := by
    show s.hostsInfo = getDNSRecords env.dnsrecords
    rw [h.lines, hlist]
  names := by
    show ∀ entry ∈ env.dnsrecords, '\t' ∉ entry.name.toList
    rw [hlist]
    exact h.names

/-- The page has as many rows as there were hosts, so that it misses each new one. -/
theorem HostsInv.eq_nil_of_current (h : s.HostsInv) {env : DNSEnvironment}
    {new : List HostEntry} (hlist : env.dnsrecords = s.environment.dnsrecords ++ new)
    (hcurrent : ({ s with environment := env } : LabPages).HostsCurrent) : new = [] := by
  have hpage : hostsPage s.hostsInfo = some (env.dnsrecords.map hostRow) := hcurrent
  have hlength := length_hostsPage hpage
  rw [h.lines, hlist, getDNSRecords, List.length_map, List.length_map, List.length_append]
    at hlength
  have hzero : new.length = 0 := by omega
  exact List.eq_nil_of_length_eq_zero hzero

/-- After a step an assigned lab has its hosts on the page exactly when the step is settled. -/
theorem HostsInv.step {act : LabAction} (h : s.LabInv a b c)
    (hhosts : s.assigned = true → s.HostsInv) (hs : labPages.step s act = some s') :
    (s.Settled act → s'.assigned = true → s'.HostsInv) ∧
      ((s'.assigned = true → s'.HostsCurrent) → s.Settled act) := by
  cases act with
  -- `AssignLab` stores the lines of the moment.
  | assign =>
    cases hs
    refine ⟨fun hnames _ => ⟨rfl, hnames⟩, fun hcurrent => ?_⟩
    exact (hostsPage_iff h.addressed).mp (hcurrent rfl)
  | lab req digit =>
    obtain ⟨env, hstep, rfl⟩ := Option.map_eq_some_iff.mp hs
    obtain ⟨-, -, hlist⟩ := lab_step h.environment hstep
    -- Without a new entry of the lab the lines stay right.
    have hkeep : appended s.environment digit req = [] → s.assigned = true →
        ({ s with environment := env } : LabPages).HostsInv := by
      intro hnone hassigned
      rw [hnone, List.append_nil] at hlist
      exact (hhosts hassigned).lab hlist
    cases req with
    | add confs =>
      have hnil := appended_add_eq_nil h.environment digit confs
      constructor
      · intro hok hassigned
        exact hkeep (hnil.mpr (hok hassigned)) hassigned
      · intro hcurrent hassigned
        exact hnil.mp ((hhosts hassigned).eq_nil_of_current hlist (hcurrent hassigned))
    -- Nothing but `Add` makes an entry.
    | start => exact ⟨fun _ => hkeep rfl, fun _ => trivial⟩
    | resetByTag t => exact ⟨fun _ => hkeep rfl, fun _ => trivial⟩
    | reset => exact ⟨fun _ => hkeep rfl, fun _ => trivial⟩

/-- The lines of a lab tell its subnet exactly when there is a line. -/
theorem LabInv.infoSubnet_iff (h : s.LabInv a b c) :
    infoSubnet (getDNSRecords s.environment.dnsrecords) = some s.environment.network.subnet ↔
      s.environment.dnsrecords ≠ [] := by
  rw [h.network]
  cases hlist : s.environment.dnsrecords with
  | nil =>
    have hne : infoSubnet (getDNSRecords []) ≠ some (DNSEnvironment.new a b c).network.subnet :=
      fun heq => labNotAssigned_ne a b c (Option.some.inj heq)
    exact iff_of_false hne fun hnot => hnot rfl
  | cons entry l =>
    have haddressed : Addressed a b c (entry :: l) := hlist ▸ h.addressed
    exact iff_of_true (infoSubnet_cons haddressed) (List.cons_ne_nil entry l)

/-- After a step the page has the subnet of an assigned lab exactly when an `AssignLab` finds a
host. -/
theorem LabInv.subnet_step {act : LabAction} (h : s.LabInv a b c)
    (hsubnet : s.assigned = true → s.SubnetCurrent) (hs : labPages.step s act = some s') :
    (s'.assigned = true → s'.SubnetCurrent) ↔ s.HasHost act := by
  cases act with
  | lab req digit =>
    obtain ⟨env, hstep, rfl⟩ := Option.map_eq_some_iff.mp hs
    obtain ⟨-, hnetwork, -⟩ := lab_step h.environment hstep
    refine iff_of_true (fun hassigned => ?_) trivial
    show infoSubnet s.hostsInfo = some env.network.subnet
    rw [hnetwork]
    exact hsubnet hassigned
  | assign =>
    cases hs
    rw [imp_iff_right rfl]
    exact h.infoSubnet_iff

/-- A new lab has no records. -/
theorem labInv_new (a b c : Nat) : (LabPages.new a b c).LabInv a b c where
  environment := DNSEnvironment.inv_new a b c
  network := rfl

end LabPages

open LabPages in
/-- In each run: once the lab is assigned, the page of hosts shows the hosts that the lab has if
and only if no name has a tab when it is assigned, and no later `Add` enters an exercise with a
host to list. -/
theorem hostsPage_current_iff (a b c : Nat) (as : List LabAction) :
    labPages.AllStates (fun s => s.assigned = true → s.HostsCurrent) (.new a b c) as ↔
      labPages.AllSteps Settled (.new a b c) as := by
  refine Machine.allStates_iff_allSteps
    (I := fun s : LabPages => s.LabInv a b c ∧ (s.assigned = true → s.HostsInv))
    (A := fun _ _ => True) ?_ ?_ ?_ ⟨labInv_new a b c, fun h => ?_⟩ Machine.allSteps_true
  · exact fun s hI hassigned => HostsInv.current hI.1 (hI.2 hassigned)
  · exact fun s act t hI _ hok hs => ⟨hI.1.step hs, (HostsInv.step hI.1 hI.2 hs).1 hok⟩
  · exact fun s act t hI _ hnot hs hcurrent => hnot ((HostsInv.step hI.1 hI.2 hs).2 hcurrent)
  · cases h

open LabPages in
/-- In each run: once the lab is assigned, the information page shows the subnet of the lab if and
only if the lab has a host when it is assigned. -/
theorem infoSubnet_current_iff (a b c : Nat) (as : List LabAction) :
    labPages.AllStates (fun s => s.assigned = true → s.SubnetCurrent) (.new a b c) as ↔
      labPages.AllSteps HasHost (.new a b c) as := by
  refine Machine.allStates_iff_allSteps
    (I := fun s : LabPages => s.LabInv a b c ∧ (s.assigned = true → s.SubnetCurrent))
    (A := fun _ _ => True) (fun s hI => hI.2) ?_ ?_ ⟨labInv_new a b c, fun h => ?_⟩
    Machine.allSteps_true
  · exact fun s act t hI _ hok hs => ⟨hI.1.step hs, (hI.1.subnet_step hI.2 hs).mpr hok⟩
  · exact fun s act t hI _ hnot hs hcurrent => hnot ((hI.1.subnet_step hI.2 hs).mp hcurrent)
  · cases h

end Haaukins.Amigo
