import Haaukins.Lib.Machine
import Haaukins.Exercise.Environment
import Haaukins.Virtual.Network

/-!
# `Haaukins.Exercise.DNSRecords`: hosts and DNS records of a lab (`exercise/environment.go`)

An environment shows the addresses of its hosts twice. `Add` appends them to the list
`dnsrecords`, from the numbers of the containers. The DNS server has a zone, which `refreshDNS`
makes from the records that `Create` left in each exercise. `Start` and `Reset` refresh the
server, and `Add` does not. A record with its own data is in the zone with this data, and in the
list with the address of its container.

`dnsRecords_agree_iff` says along which runs the list and the zone agree.

* No call to Docker or VirtualBox fails. The number that `Connect` gives to a container is part
  of the step.
* `Create` for a static exercise with containers ends the process, and there is no state after
  it. `Add` does not call it.
-/

set_option autoImplicit false

namespace Haaukins.Exercise

open Store (newTag)
open Virtual (Network newNetwork preferedIP)

/-- `store.RecordConfig`. -/
structure RecordConfig where
  type : String
  name : String
  rData : String
  deriving DecidableEq, Repr

/-- `store.ContainerOptions` and the instance that it is made of. -/
structure RecordInstance where
  image : String
  records : List RecordConfig
  deriving DecidableEq, Repr

/-- `store.Exercise`. -/
structure RecordExercise where
  tag : String
  static : Bool
  instances : List RecordInstance

/-- `dns.RR`. -/
structure RR where
  name : String
  type : String
  rData : String
  deriving DecidableEq, Repr

/-- An entry of `dnsrecords`: an address and the name at it. -/
structure HostEntry where
  address : String
  name : String
  deriving DecidableEq, Repr

/-- `strings.Contains(c.DockerConf.Image, "client")`. -/
def isClient (c : RecordInstance) : Bool := "client".toList <:+: c.image.toList

/-- The record that `Create` keeps of one in the configuration. -/
def fill (format : Int → String) (lastDigit : Nat) (record : RecordConfig) : RecordConfig :=
  if record.rData = "" then { record with rData := format lastDigit } else record

/-- The address in `Add`, from the first three parts of the address of the DNS server. -/
def hostAddress (dnsAddr : String) (ip : Nat) : String :=
  match GoStrings.split dnsAddr '.' with
  | a :: b :: c :: _ => a ++ "." ++ b ++ "." ++ c ++ "." ++ toString ip
  | _ => ""

/-- The entry of a record in the zone. -/
def RecordConfig.rr (record : RecordConfig) : RR :=
  { name := record.name, type := record.type, rData := record.rData }

/-- `exercise`. -/
structure DNSExercise where
  tag : String
  /-- `net` is nil. -/
  static : Bool
  containerOpts : List RecordInstance
  dnsRecords : List RecordConfig
  ips : List Nat
  /-- There is a number for each container, or for none. -/
  sized : ips = [] ∨ ips.length = containerOpts.length
  /-- The numbers at which the containers are connected. -/
  connected : List Nat

namespace RecordExercise

variable (conf : RecordExercise)

/-- `ContainerOpts`, when not all images are those of virtual machines. A static exercise has no
images. -/
def containerOpts : List RecordInstance :=
  if conf.instances.all fun c => ovaSuffix.toList <:+: c.image.toList then []
  else conf.instances.map fun c => if conf.static then { c with image := "" } else c

/-- `NewExercise`. -/
def newExercise : DNSExercise where
  tag := conf.tag
  static := conf.static
  containerOpts := conf.containerOpts
  dnsRecords := []
  ips := []
  sized := .inl rfl
  connected := []

end RecordExercise

namespace DNSExercise

variable (format : Int → String) (digit : Nat → Nat) (e : DNSExercise)

/-- The numbers of the containers in `Create`: the old ones, or those that the network gives. -/
def lastDigits : List Nat :=
  if e.ips = [] then (List.range e.containerOpts.length).map digit else e.ips

/-- The records of the containers at these numbers. -/
def filled (lastDigits : List Nat) : List RecordConfig :=
  (e.containerOpts.zip lastDigits).flatMap fun p => p.1.records.map (fill format p.2)

/-- Each container gets one number. -/
theorem length_lastDigits : (e.lastDigits digit).length = e.containerOpts.length := by
  unfold lastDigits
  split
  · simp
  · next hne => exact e.sized.resolve_left hne

/-- `Create` with a network. -/
def created : DNSExercise where
  tag := e.tag
  static := e.static
  containerOpts := e.containerOpts
  dnsRecords := e.dnsRecords ++ e.filled format (e.lastDigits digit)
  ips := e.lastDigits digit
  sized := .inr (e.length_lastDigits digit)
  connected := e.lastDigits digit

/-- `Create`. -/
def create : Option DNSExercise :=
  if e.static && !e.containerOpts.isEmpty then none else some (e.created format digit)

/-- `Reset`. -/
def reset : Option DNSExercise := ({ e with connected := [] } : DNSExercise).create format digit

/-- What `Add` appends to the list of hosts. -/
def entries (dnsAddr : String) : List HostEntry :=
  (e.containerOpts.zip e.ips).flatMap fun p =>
    if isClient p.1 then []
    else (p.1.records.filter fun r => r.type = "A").map fun r =>
      { address := hostAddress dnsAddr p.2, name := r.name }

end DNSExercise

/-- `environment`. -/
structure DNSEnvironment where
  network : Network
  exercises : List DNSExercise
  dnsrecords : List HostEntry
  /-- The zone of the DNS server that runs. -/
  dnsServer : Option (List RR)
  /-- `Start` ran. -/
  started : Bool

/-- The operations on an environment. -/
inductive DNSRequest where
  | add (confs : List RecordExercise)
  | start
  | resetByTag (s : String)
  | reset

namespace DNSEnvironment

variable (s : DNSEnvironment) (digit : String → Nat → Nat)

/-- The environment of a new lab, with the first three parts of its addresses. -/
def new (a b c : Nat) : DNSEnvironment where
  network := newNetwork (a.repr ++ ("." ++ (b.repr ++ ("." ++ c.repr))))
  exercises := []
  dnsrecords := []
  dnsServer := none
  started := false

/-- `ee.dnsAddr`. -/
def dnsAddr : String := s.network.formatIP preferedIP

/-- The keys of `ee.tags`. -/
def tags : List String := s.exercises.map DNSExercise.tag

/-- The body of the loop of `Add` behind the tests of the tag. -/
def addExercise (conf : RecordExercise) : Option DNSEnvironment :=
  let e := conf.newExercise
  if conf.static then some { s with exercises := s.exercises ++ [e] }
  else
    (e.create s.network.formatIP (digit conf.tag)).map fun e =>
      { s with
        dnsrecords := s.dnsrecords ++ e.entries s.dnsAddr
        exercises := s.exercises ++ [e] }

/-- `Add`. -/
def add : DNSEnvironment → List RecordExercise → Option (DNSEnvironment × Option String)
  | s, [] => some (s, none)
  | s, conf :: confs =>
    if conf.tag = "" then some (s, some missingTagsErr)
    else if conf.tag ∈ s.tags then some (s, some duplicateTagErr)
    else (s.addExercise digit conf).bind fun s => s.add confs

/-- `refreshDNS`. -/
def refreshDNS : DNSEnvironment :=
  { s with dnsServer := some (s.exercises.flatMap fun e => e.dnsRecords.map RecordConfig.rr) }

/-- `Start`. -/
def start : DNSEnvironment := { s.refreshDNS with started := true }

/-- `Reset` of the exercises that are chosen. -/
def resetExercises (p : DNSExercise → Bool) : Option DNSEnvironment :=
  let resetOne (e : DNSExercise) := e.reset s.network.formatIP (digit e.tag)
  if s.exercises.all fun e => !p e || (resetOne e).isSome then
    some { s with exercises := s.exercises.map fun e => if p e then (resetOne e).getD e else e }
  else none

/-- `ResetByTag`. The tags of the exercises are different. -/
def resetByTag (t : String) : Option (DNSEnvironment × Option String) :=
  match newTag t with
  | .error err => some (s, some err)
  | .ok t =>
    if t ∈ s.tags then (s.resetExercises digit fun e => e.tag = t).map fun s => (s, none)
    else some (s, some unknownTagErr)

/-- `Reset`. -/
def reset : Option DNSEnvironment := s.refreshDNS.resetExercises digit fun _ => true

end DNSEnvironment

/-- Runs of operations on an environment, with the numbers that `Connect` gives. -/
def dnsRecords : Machine DNSEnvironment (DNSRequest × (String → Nat → Nat)) where
  init s := ∃ a b c, s = .new a b c
  step s a :=
    match a.1 with
    | .add confs => (s.add a.2 confs).map Prod.fst
    | .start => some s.start
    | .resetByTag t => (s.resetByTag a.2 t).map Prod.fst
    | .reset => s.reset a.2

namespace DNSEnvironment

variable (s : DNSEnvironment)

/-- The DNS server that runs has a record for the entry. -/
def Zoned (entry : HostEntry) : Prop :=
  ∃ zone ∈ s.dnsServer, ∃ rr ∈ zone, rr.name = entry.name ∧ rr.rData = entry.address

/-- The list of hosts, the zone and the containers agree. -/
structure Agrees : Prop where
  /-- Each container has its address. -/
  connected : ∀ e ∈ s.exercises, e.static = false →
    e.connected.length = e.containerOpts.length
  /-- An `A` record of a container that is no client is in the list, and all addresses in the
  list for its name are in the zone. -/
  records : ∀ e ∈ s.exercises, e.static = false → ∀ p ∈ e.containerOpts.zip e.connected,
    isClient p.1 = false → ∀ r ∈ p.1.records, r.type = "A" →
      ⟨s.network.formatIP p.2, r.name⟩ ∈ s.dnsrecords ∧
        ∀ address, ⟨address, r.name⟩ ∈ s.dnsrecords → s.Zoned ⟨address, r.name⟩
  /-- Each entry of the list is in the zone. -/
  entries : ∀ entry ∈ s.dnsrecords, s.Zoned entry
  /-- A record without data is filled with the address at which its container is connected. -/
  filled : ∀ e ∈ s.exercises, e.static = false → ∀ p ∈ e.containerOpts.zip e.connected,
    ∀ r ∈ p.1.records, r.rData = "" →
      { r with rData := s.network.formatIP p.2 } ∈ e.dnsRecords
  /-- There are no other records. -/
  origin : ∀ e ∈ s.exercises, ∀ r ∈ e.dnsRecords, ∃ p ∈ e.containerOpts.zip e.connected,
    ∃ r' ∈ p.1.records, r = fill s.network.formatIP p.2 r'

/-- The configurations that `Add` enters: those before the first one that it refuses. -/
def accepted : List String → List RecordExercise → List RecordExercise
  | _, [] => []
  | tags, conf :: confs =>
    if conf.tag = "" ∨ conf.tag ∈ tags then []
    else conf :: accepted (tags ++ [conf.tag]) confs

/-- Each `A` record that is listed has its address in the zone when the server starts: it has no
data of its own, or a record of the same name has this address. -/
def DataAgree : Prop :=
  ∀ e ∈ s.exercises, ∀ p ∈ e.containerOpts.zip e.ips, isClient p.1 = false →
    ∀ r ∈ p.1.records, r.type = "A" → r.rData = "" ∨
      ∃ e' ∈ s.exercises, ∃ p' ∈ e'.containerOpts.zip e'.ips, ∃ r' ∈ p'.1.records,
        r'.name = r.name ∧ (fill s.network.formatIP p'.2 r').rData = s.network.formatIP p.2

/-- `Start` finds no record whose own data differ from its address, and an `Add` after it adds
only hosts that the running DNS server has. -/
def ZoneCovers : DNSRequest × (String → Nat → Nat) → Prop
  | (.start, _) => s.DataAgree
  | (.add confs, digit) =>
    s.started = true → ∀ conf ∈ accepted s.tags confs, conf.static = false →
      ∀ p ∈ conf.containerOpts.zipIdx, isClient p.1 = false → ∀ r ∈ p.1.records, r.type = "A" →
        s.Zoned ⟨s.network.formatIP (digit conf.tag p.2), r.name⟩
  | _ => True

end DNSEnvironment

/-! ### One exercise -/

namespace DNSExercise

variable {format : Int → String} {digit : Nat → Nat} {e e' : DNSExercise}

/-- The containers of an exercise are connected at its numbers, and its records are those of the
containers. A static exercise has no numbers. -/
structure WF (format : Int → String) (e : DNSExercise) : Prop where
  connected : e.connected = e.ips
  static : e.static = true → e.ips = []
  numbered : e.static = false → e.ips.length = e.containerOpts.length
  records : ∀ r, r ∈ e.dnsRecords ↔ r ∈ e.filled format e.ips

/-- An exercise whose containers were created again. -/
def renewed (format : Int → String) (e : DNSExercise) : DNSExercise :=
  { e with dnsRecords := e.dnsRecords ++ e.filled format e.ips, connected := e.ips }

/-- The template is filled into the data, not into the name. -/
theorem fill_name (lastDigit : Nat) (r : RecordConfig) :
    (fill format lastDigit r).name = r.name := by
  unfold fill
  split <;> rfl

/-- The filled records are those of the containers, each with the number of its own. -/
theorem mem_filled {lastDigits : List Nat} {r : RecordConfig} :
    r ∈ e.filled format lastDigits ↔
      ∃ p ∈ e.containerOpts.zip lastDigits, ∃ r' ∈ p.1.records, fill format p.2 r' = r := by
  simp only [filled, List.mem_flatMap, List.mem_map]

/-- `Reset` gives the containers their old numbers. -/
theorem WF.reset (h : e.WF format) (hreset : e.reset format digit = some e') :
    e' = e.renewed format := by
  unfold DNSExercise.reset create at hreset
  split at hreset
  · cases hreset
  · next hguard =>
    have hdigits : ({ e with connected := [] } : DNSExercise).lastDigits digit = e.ips := by
      unfold lastDigits
      split
      · next hempty =>
        -- There is no container.
        have hnone : e.containerOpts.length = 0 := by
          cases hstatic : e.static with
          | false => rw [← h.numbered hstatic, show e.ips = [] from hempty]; rfl
          | true => simpa [hstatic] using hguard
        show (List.range e.containerOpts.length).map digit = e.ips
        rw [hnone, show e.ips = [] from hempty]
        rfl
      · rfl
    cases hreset
    simp only [created, hdigits]
    rfl

/-- New records for the numbers that the exercise has. -/
theorem WF.renewed (h : e.WF format) : (e.renewed format).WF format where
  connected := rfl
  static := h.static
  numbered := h.numbered
  records := by
    intro r
    show r ∈ e.dnsRecords ++ e.filled format e.ips ↔ r ∈ e.filled format e.ips
    rw [List.mem_append, h.records, or_self]

end DNSExercise

namespace RecordExercise

variable {format : Int → String} {digit : Nat → Nat} {conf : RecordExercise}

/-- What `Add` enters for a configuration. -/
def added (format : Int → String) (digit : Nat → Nat) (conf : RecordExercise) : DNSExercise :=
  if conf.static then conf.newExercise else conf.newExercise.created format digit

/-- A new exercise has the tag of its configuration. -/
theorem added_tag : (conf.added format digit).tag = conf.tag := by
  unfold added
  split <;> rfl

/-- A new exercise is well formed. -/
theorem added_wf : (conf.added format digit).WF format := by
  unfold added
  cases hstatic : conf.static with
  | true =>
    rw [if_pos rfl]
    refine ⟨rfl, fun _ => rfl, fun h => ?_, fun r => ?_⟩
    · rw [show conf.newExercise.static = true from hstatic] at h
      cases h
    · show r ∈ [] ↔ r ∈ (conf.containerOpts.zip []).flatMap _
      rw [List.zip_nil_right]
      rfl
  | false =>
    rw [if_neg Bool.false_ne_true]
    refine ⟨rfl, fun h => ?_, fun _ => conf.newExercise.length_lastDigits digit, fun r => ?_⟩
    · rw [show (conf.newExercise.created format digit).static = false from hstatic] at h
      cases h
    · show r ∈ [] ++ _ ↔ _
      rw [List.nil_append]
      rfl

/-- The containers of a new exercise with their numbers. -/
theorem zip_added_ips (hstatic : conf.static = false) :
    (conf.added format digit).containerOpts.zip (conf.added format digit).ips =
      conf.containerOpts.zipIdx.map fun p => (p.1, digit p.2) := by
  have hips : (conf.added format digit).ips =
      (List.range conf.containerOpts.length).map digit := by
    simp only [added, hstatic]
    rfl
  have hopts : (conf.added format digit).containerOpts = conf.containerOpts := by
    simp only [added, hstatic]
    rfl
  rw [hips, hopts, List.zip_map_right, List.zipIdx_eq_zip_range', ← List.range_eq_range']
  rfl

end RecordExercise

/-! ### The list of hosts -/

namespace DNSEnvironment

variable {s s' : DNSEnvironment} {digit : String → Nat → Nat}

/-- The addresses in the list of hosts are those of the network. -/
theorem hostAddress_new (a b c ip : Nat) :
    hostAddress (new a b c).dnsAddr ip = (new a b c).network.formatIP ip := by
  let sub := a.repr ++ ("." ++ (b.repr ++ ("." ++ c.repr)))
  have hformat : ∀ num : Nat, (new a b c).network.formatIP num =
      a.repr ++ ("." ++ (b.repr ++ ("." ++ (c.repr ++ ("." ++ num.repr))))) := by
    intro num
    show (newNetwork sub).formatIP num = _
    rw [Virtual.formatIP_newNetwork]
    show sub ++ ("." ++ num.repr) = _
    simp only [sub, String.append_assoc]
  have hsplit : GoStrings.split (new a b c).dnsAddr '.' =
      [a.repr, b.repr, c.repr, preferedIP.repr] := by
    have hone : ∀ n : Nat, GoStrings.split n.repr '.' = [n.repr] := fun n =>
      GoStrings.split_of_notMem (GoStrings.notMem_repr rfl n)
    have hcons : ∀ (n : Nat) (t : String),
        GoStrings.split (n.repr ++ ("." ++ t)) '.' = n.repr :: GoStrings.split t '.' := by
      intro n t
      show GoStrings.split (n.repr ++ (String.singleton '.' ++ t)) '.' = _
      rw [GoStrings.split_append, hone]
      rfl
    rw [dnsAddr, hformat, hcons, hcons, hcons, hone]
  rw [hostAddress, hsplit, hformat]
  simp only [String.append_assoc]
  rfl

/-- The exercises are well formed, the list of hosts is theirs, and the zone has nothing but their
records. -/
structure Inv (s : DNSEnvironment) : Prop where
  network : ∃ a b c, s.network = (new a b c).network
  exercises : ∀ e ∈ s.exercises, e.WF s.network.formatIP
  dnsrecords : s.dnsrecords = s.exercises.flatMap fun e => e.entries s.dnsAddr
  zone : ∀ zone ∈ s.dnsServer, ∀ rr ∈ zone, ∃ e ∈ s.exercises, ∃ r ∈ e.dnsRecords, r.rr = rr

/-- The zone has each entry of the list. -/
def Covers (s : DNSEnvironment) : Prop := ∀ entry ∈ s.dnsrecords, s.Zoned entry

/-- A new environment has neither records nor entries. -/
theorem inv_new (a b c : Nat) : (new a b c).Inv where
  network := ⟨a, b, c, rfl⟩
  exercises := fun _ he => absurd he List.not_mem_nil
  dnsrecords := rfl
  zone := fun _ hzone => by cases hzone

/-- An address is written like the address of the DNS server, with its own last part. -/
theorem Inv.hostAddress (h : s.Inv) (ip : Nat) :
    hostAddress s.dnsAddr ip = s.network.formatIP ip := by
  obtain ⟨a, b, c, hnetwork⟩ := h.network
  rw [dnsAddr, hnetwork]
  exact hostAddress_new a b c ip

/-- The entries of an exercise. -/
theorem Inv.mem_entries (h : s.Inv) {e : DNSExercise} {entry : HostEntry} :
    entry ∈ e.entries s.dnsAddr ↔ ∃ p ∈ e.containerOpts.zip e.ips, isClient p.1 = false ∧
      ∃ r ∈ p.1.records, r.type = "A" ∧ entry = ⟨s.network.formatIP p.2, r.name⟩ := by
  rw [DNSExercise.entries, List.mem_flatMap]
  refine exists_congr fun p => and_congr_right fun _ => ?_
  cases isClient p.1 with
  | true => simp
  | false =>
    simp only [Bool.false_eq_true, if_false, List.mem_map, List.mem_filter, decide_eq_true_eq,
      h.hostAddress, true_and]
    constructor
    · rintro ⟨r, ⟨hr, htype⟩, heq⟩
      exact ⟨r, hr, htype, heq.symm⟩
    · rintro ⟨r, hr, htype, heq⟩
      exact ⟨r, ⟨hr, htype⟩, heq.symm⟩

/-- The entries are the A records of the containers that are no clients. -/
theorem Inv.mem_dnsrecords (h : s.Inv) {entry : HostEntry} : entry ∈ s.dnsrecords ↔
    ∃ e ∈ s.exercises, ∃ p ∈ e.containerOpts.zip e.ips, isClient p.1 = false ∧
      ∃ r ∈ p.1.records, r.type = "A" ∧ entry = ⟨s.network.formatIP p.2, r.name⟩ := by
  rw [h.dnsrecords, List.mem_flatMap]
  exact exists_congr fun e => and_congr_right fun _ => h.mem_entries

/-- When the zone has the entries of the list, all three agree. -/
theorem Inv.agrees (h : s.Inv) (hcovers : s.Covers) : s.Agrees where
  connected := fun e he hstatic => by
    rw [(h.exercises e he).connected]
    exact (h.exercises e he).numbered hstatic
  records := fun e he _ p hp hclient r hr htype => by
    rw [(h.exercises e he).connected] at hp
    refine ⟨h.mem_dnsrecords.mpr ⟨e, he, p, hp, hclient, r, hr, htype, rfl⟩, ?_⟩
    exact fun address haddress => hcovers _ haddress
  entries := hcovers
  filled := fun e he _ p hp r hr hempty => by
    rw [(h.exercises e he).connected] at hp
    rw [(h.exercises e he).records, DNSExercise.mem_filled]
    exact ⟨p, hp, r, hr, if_pos hempty⟩
  origin := fun e he r hr => by
    rw [(h.exercises e he).records, DNSExercise.mem_filled] at hr
    obtain ⟨p, hp, r', hr', hfill⟩ := hr
    rw [(h.exercises e he).connected]
    exact ⟨p, hp, r', hr', hfill.symm⟩

/-! ### `Start` -/

/-- A refreshed server has the records of all exercises. -/
theorem Inv.zoned_refreshDNS (h : s.Inv) {entry : HostEntry} : s.refreshDNS.Zoned entry ↔
    ∃ e ∈ s.exercises, ∃ p ∈ e.containerOpts.zip e.ips, ∃ r ∈ p.1.records,
      r.name = entry.name ∧ (fill s.network.formatIP p.2 r).rData = entry.address := by
  constructor
  · rintro ⟨zone, hzone, rr, hrr, hname, hdata⟩
    cases hzone
    obtain ⟨e, he, hrr⟩ := List.mem_flatMap.mp hrr
    obtain ⟨r, hr, rfl⟩ := List.mem_map.mp hrr
    rw [(h.exercises e he).records, DNSExercise.mem_filled] at hr
    obtain ⟨p, hp, r', hr', rfl⟩ := hr
    exact ⟨e, he, p, hp, r', hr', (DNSExercise.fill_name p.2 r').symm.trans hname, hdata⟩
  · rintro ⟨e, he, p, hp, r, hr, hname, hdata⟩
    have hmem : fill s.network.formatIP p.2 r ∈ e.dnsRecords := by
      rw [(h.exercises e he).records, DNSExercise.mem_filled]
      exact ⟨p, hp, r, hr, rfl⟩
    refine ⟨_, rfl, (fill s.network.formatIP p.2 r).rr, ?_, ?_, hdata⟩
    · exact List.mem_flatMap.mpr ⟨e, he, List.mem_map_of_mem hmem⟩
    · exact (DNSExercise.fill_name p.2 r).trans hname

/-- The refreshed zone has the list just when the data of the records agree. -/
theorem Inv.dataAgree_iff (h : s.Inv) :
    s.DataAgree ↔ ∀ entry ∈ s.dnsrecords, s.refreshDNS.Zoned entry := by
  constructor
  · intro hagree entry hentry
    obtain ⟨e, he, p, hp, hclient, r, hr, htype, rfl⟩ := h.mem_dnsrecords.mp hentry
    rw [h.zoned_refreshDNS]
    rcases hagree e he p hp hclient r hr htype with hempty | hother
    · refine ⟨e, he, p, hp, r, hr, rfl, ?_⟩
      rw [fill, if_pos hempty]
    · exact hother
  · intro hall e he p hp hclient r hr htype
    have hentry : ⟨s.network.formatIP p.2, r.name⟩ ∈ s.dnsrecords :=
      h.mem_dnsrecords.mpr ⟨e, he, p, hp, hclient, r, hr, htype, rfl⟩
    exact .inr (h.zoned_refreshDNS.mp (hall _ hentry))

/-- A new DNS server reads all records again. -/
theorem Inv.refreshDNS (h : s.Inv) : s.refreshDNS.Inv where
  network := h.network
  exercises := h.exercises
  dnsrecords := h.dnsrecords
  zone := fun zone hzone rr hrr => by
    cases hzone
    obtain ⟨e, he, hrr⟩ := List.mem_flatMap.mp hrr
    obtain ⟨r, hr, rfl⟩ := List.mem_map.mp hrr
    exact ⟨e, he, r, hr, rfl⟩

/-- A server that runs keeps its records when it is refreshed. -/
theorem Inv.zoned_mono (h : s.Inv) {entry : HostEntry} (hzoned : s.Zoned entry) :
    s.refreshDNS.Zoned entry := by
  obtain ⟨zone, hzone, rr, hrr, hname, hdata⟩ := hzoned
  obtain ⟨e, he, r, hr, rfl⟩ := h.zone zone hzone rr hrr
  exact ⟨_, rfl, r.rr, List.mem_flatMap.mpr ⟨e, he, List.mem_map_of_mem hr⟩, hname, hdata⟩

/-! ### `Reset` -/

/-- The environment after the containers of the chosen exercises were created again. -/
def renew (s : DNSEnvironment) (p : DNSExercise → Bool) : DNSEnvironment where
  network := s.network
  exercises := s.exercises.map fun e => if p e then e.renewed s.network.formatIP else e
  dnsrecords := s.dnsrecords
  dnsServer := s.dnsServer
  started := s.started

/-- Resets of exercises with their numbers fixed do not fail. -/
theorem resetExercises_eq {p : DNSExercise → Bool} (h : s.Inv)
    (hreset : s.resetExercises digit p = some s') : s' = s.renew p := by
  simp only [resetExercises] at hreset
  split at hreset
  · next hall =>
    cases hreset
    refine congrArg (fun es => { s with exercises := es }) (List.map_congr_left fun e he => ?_)
    cases hp : p e with
    | false => rfl
    | true =>
      have hsome := List.all_eq_true.mp hall e he
      rw [hp] at hsome
      obtain ⟨e', he'⟩ := Option.isSome_iff_exists.mp (by simpa using hsome)
      rw [if_pos rfl, if_pos rfl, he', (h.exercises e he).reset he']
      rfl
  · cases hreset

/-- `Reset` keeps the invariant, the list of hosts and the zone. -/
theorem Inv.resetExercises {p : DNSExercise → Bool} (h : s.Inv)
    (hreset : s.resetExercises digit p = some s') :
    s'.Inv ∧ s'.dnsrecords = s.dnsrecords ∧ s'.dnsServer = s.dnsServer ∧
      s'.started = s.started := by
  obtain rfl := resetExercises_eq h hreset
  refine ⟨⟨h.network, ?_, ?_, ?_⟩, rfl, rfl, rfl⟩
  · intro e' he'
    obtain ⟨e, he, rfl⟩ := List.mem_map.mp he'
    split
    · exact (h.exercises e he).renewed
    · exact h.exercises e he
  · show s.dnsrecords = (s.exercises.map _).flatMap fun e : DNSExercise => e.entries s.dnsAddr
    rw [h.dnsrecords, List.flatMap_map]
    refine List.flatMap_congr fun e _ => ?_
    split <;> rfl
  · intro zone hzone rr hrr
    obtain ⟨e, he, r, hr, hrr⟩ := h.zone zone hzone rr hrr
    refine ⟨_, List.mem_map_of_mem he, r, ?_, hrr⟩
    split
    · exact List.mem_append_left _ hr
    · exact hr

/-! ### `Add` -/

/-- The environment with the exercises of some configurations. -/
def enter (s : DNSEnvironment) (digit : String → Nat → Nat) (confs : List RecordExercise) :
    DNSEnvironment where
  network := s.network
  exercises := s.exercises ++
    confs.map fun conf => conf.added s.network.formatIP (digit conf.tag)
  dnsrecords := s.dnsrecords ++
    confs.flatMap fun conf =>
      (conf.added s.network.formatIP (digit conf.tag)).entries s.dnsAddr
  dnsServer := s.dnsServer
  started := s.started

/-- Nothing is entered. -/
theorem enter_nil : s.enter digit [] = s := by simp [enter]

/-- The configurations are entered one after the other. -/
theorem enter_cons (conf : RecordExercise) (confs : List RecordExercise) :
    s.enter digit (conf :: confs) = (s.enter digit [conf]).enter digit confs := by
  simp only [enter, List.map_cons, List.map_nil, List.flatMap_cons, List.flatMap_nil,
    List.append_assoc, List.append_nil, List.cons_append, List.nil_append]
  rfl

/-- An entered exercise brings its tag. -/
theorem tags_enter (conf : RecordExercise) :
    (s.enter digit [conf]).tags = s.tags ++ [conf.tag] := by
  show (s.exercises ++ [conf.added _ _]).map DNSExercise.tag = _
  rw [List.map_append, List.map_singleton, RecordExercise.added_tag]
  rfl

/-- An exercise is entered without an error. -/
theorem addExercise_eq (conf : RecordExercise) :
    s.addExercise digit conf = some (s.enter digit [conf]) := by
  unfold addExercise enter RecordExercise.added
  cases hstatic : conf.static with
  | true =>
    have hnone : conf.newExercise.entries s.dnsAddr = [] := by
      show (conf.containerOpts.zip []).flatMap _ = []
      rw [List.zip_nil_right]
      rfl
    simp [hstatic, hnone]
  | false =>
    have hcreate : conf.newExercise.create s.network.formatIP (digit conf.tag) =
        some (conf.newExercise.created s.network.formatIP (digit conf.tag)) := by
      rw [DNSExercise.create, show conf.newExercise.static = false from hstatic]
      rfl
    simp [hstatic, hcreate]

/-- `Add` enters the configurations before the first one that it refuses. -/
theorem add_eq (confs : List RecordExercise) :
    ∃ err, s.add digit confs = some (s.enter digit (accepted s.tags confs), err) := by
  induction confs generalizing s with
  | nil => exact ⟨none, by rw [add, accepted, enter_nil]⟩
  | cons conf confs ih =>
    rw [add, accepted]
    split
    · next hempty => exact ⟨some missingTagsErr, by rw [if_pos (.inl hempty), enter_nil]⟩
    split
    · next hmem => exact ⟨some duplicateTagErr, by rw [if_pos (.inr hmem), enter_nil]⟩
    · next hempty hmem =>
      obtain ⟨err, herr⟩ := ih (s := s.enter digit [conf])
      rw [addExercise_eq, Option.bind_some, if_neg (not_or.mpr ⟨hempty, hmem⟩)]
      refine ⟨err, herr.trans ?_⟩
      rw [tags_enter, ← enter_cons]

/-- Entering keeps the invariant, by induction on the configurations. -/
theorem Inv.enter (h : s.Inv) (confs : List RecordExercise) : (s.enter digit confs).Inv where
  network := h.network
  exercises := by
    intro e he
    rcases List.mem_append.mp he with hold | hnew
    · exact h.exercises e hold
    · obtain ⟨conf, -, rfl⟩ := List.mem_map.mp hnew
      exact RecordExercise.added_wf
  dnsrecords := by
    show s.dnsrecords ++ _ = (s.exercises ++ _).flatMap _
    rw [List.flatMap_append, List.flatMap_map, h.dnsrecords]
    rfl
  zone := fun zone hzone rr hrr => by
    obtain ⟨e, he, r, hr, heq⟩ := h.zone zone hzone rr hrr
    exact ⟨e, List.mem_append_left _ he, r, hr, heq⟩

/-- The new entries of `Add`. -/
theorem Inv.mem_added (h : s.Inv) {conf : RecordExercise} {entry : HostEntry} :
    entry ∈ (conf.added s.network.formatIP (digit conf.tag)).entries s.dnsAddr ↔
      conf.static = false ∧ ∃ p ∈ conf.containerOpts.zipIdx, isClient p.1 = false ∧
        ∃ r ∈ p.1.records, r.type = "A" ∧
          entry = ⟨s.network.formatIP (digit conf.tag p.2), r.name⟩ := by
  rw [h.mem_entries]
  cases hstatic : conf.static with
  | true =>
    have hips : (conf.added s.network.formatIP (digit conf.tag)).ips = [] :=
      RecordExercise.added_wf.static (by simp only [RecordExercise.added, hstatic]; exact hstatic)
    rw [hips, List.zip_nil_right]
    simp
  | false =>
    rw [RecordExercise.zip_added_ips hstatic]
    simp only [List.mem_map, exists_exists_and_eq_and, true_and]

/-! ### Runs -/

/-- What the zone file has depends on the server alone. -/
theorem zoned_congr (h : s'.dnsServer = s.dnsServer) {entry : HostEntry} :
    s'.Zoned entry ↔ s.Zoned entry := by
  rw [Zoned, h]
  rfl

/-- An `Add` keeps the entries in the zone just when the new ones are there. -/
theorem Inv.covers_enter (h : s.Inv) (hcovers : s.Covers) (confs : List RecordExercise) :
    (s.enter digit confs).Covers ↔ ∀ conf ∈ confs, conf.static = false →
      ∀ p ∈ conf.containerOpts.zipIdx, isClient p.1 = false → ∀ r ∈ p.1.records, r.type = "A" →
        s.Zoned ⟨s.network.formatIP (digit conf.tag p.2), r.name⟩ := by
  have hold : ∀ entry ∈ s.dnsrecords, s.Zoned entry := hcovers
  show (∀ entry ∈ s.dnsrecords ++ _, s.Zoned entry) ↔ _
  rw [List.forall_mem_append, and_iff_right hold]
  constructor
  · intro hall conf hconf hstatic p hp hclient r hr htype
    exact hall _ (List.mem_flatMap.mpr
      ⟨conf, hconf, h.mem_added.mpr ⟨hstatic, p, hp, hclient, r, hr, htype, rfl⟩⟩)
  · intro hall entry hentry
    obtain ⟨conf, hconf, hentry⟩ := List.mem_flatMap.mp hentry
    obtain ⟨hstatic, p, hp, hclient, r, hr, htype, rfl⟩ := h.mem_added.mp hentry
    exact hall conf hconf hstatic p hp hclient r hr htype

variable {a : DNSRequest × (String → Nat → Nat)}

/-- A step keeps the invariant, and the zone of a server that was started has the entries of the
list afterwards just when the step meets the condition. -/
theorem Inv.step (h : s.Inv) (hcovers : s.started = true → s.Covers)
    (hs : dnsRecords.step s a = some s') :
    s'.Inv ∧ ((s'.started = true → s'.Covers) ↔ s.ZoneCovers a) := by
  obtain ⟨req, digit⟩ := a
  cases req with
  -- `Add` enters records without a new zone file, which the condition asks about.
  | add confs =>
    obtain ⟨err, hadd⟩ := add_eq (s := s) confs
    obtain ⟨⟨s₁, err₁⟩, hadd₁, rfl⟩ := Option.map_eq_some_iff.mp hs
    obtain rfl : s₁ = s.enter digit (accepted s.tags confs) :=
      congrArg Prod.fst (Option.some.inj (hadd₁.symm.trans hadd))
    exact ⟨h.enter _, forall_congr' fun hstarted => h.covers_enter (hcovers hstarted) _⟩
  | start =>
    cases hs
    -- `Start` writes the zone file of the whole list.
    refine ⟨⟨h.network, h.exercises, h.dnsrecords, h.refreshDNS.zone⟩, ?_⟩
    have hstarted : s.start.started = true := rfl
    rw [imp_iff_right hstarted]
    exact h.dataAgree_iff.symm
  | resetByTag t =>
    obtain ⟨⟨s₁, err⟩, hreset, rfl⟩ := Option.map_eq_some_iff.mp hs
    rw [resetByTag] at hreset
    split at hreset
    · cases hreset
      exact ⟨h, iff_of_true hcovers trivial⟩
    -- A reset of one exercise writes no zone file, and makes no record.
    split at hreset
    · obtain ⟨s₂, hrun, heq⟩ := Option.map_eq_some_iff.mp hreset
      obtain rfl : s₂ = s₁ := congrArg Prod.fst heq
      obtain ⟨hinv, hlist, hserver, hstarted⟩ := h.resetExercises hrun
      refine ⟨hinv, iff_of_true (fun hs' entry hentry => ?_) trivial⟩
      rw [zoned_congr hserver]
      exact hcovers (hstarted ▸ hs') entry (hlist ▸ hentry)
    · cases hreset
      exact ⟨h, iff_of_true hcovers trivial⟩
  | reset =>
    -- `Reset` writes the zone file first, and the exercises keep their records.
    obtain ⟨hinv, hlist, hserver, hstarted⟩ := h.refreshDNS.resetExercises hs
    refine ⟨hinv, iff_of_true (fun hs' entry hentry => ?_) trivial⟩
    rw [zoned_congr hserver]
    exact h.zoned_mono (hcovers (hstarted ▸ hs') entry (hlist ▸ hentry))

/-- In each run on the environment of a new lab: after `Start` the list of hosts, the zone of the
running DNS server and the containers agree if and only if each `Start` finds no record whose own
data differ from its address, and each later `Add` adds only hosts that the server has. -/
theorem dnsRecords_agree_iff (a b c : Nat)
    (as : List (DNSRequest × (String → Nat → Nat))) :
    dnsRecords.AllStates (fun s => s.started = true → s.Agrees) (.new a b c) as ↔
      dnsRecords.AllSteps ZoneCovers (.new a b c) as := by
  refine Machine.allStates_iff_allSteps
    (I := fun s : DNSEnvironment => s.Inv ∧ (s.started = true → s.Covers))
    (A := fun _ _ => True) ?_ ?_ ?_ ⟨inv_new a b c, fun h => ?_⟩ Machine.allSteps_true
  · exact fun s hI hstarted => hI.1.agrees (hI.2 hstarted)
  · intro s req t hI _ hok hs
    obtain ⟨hinv, hiff⟩ := hI.1.step hI.2 hs
    exact ⟨hinv, hiff.mpr hok⟩
  · intro s req t hI _ hnot hs hagrees
    obtain ⟨-, hiff⟩ := hI.1.step hI.2 hs
    exact hnot (hiff.mp fun hstarted => (hagrees hstarted).entries)
  · cases h

/-- An exercise with one container, whose address the zone does not have after `Add`. -/
theorem dnsRecords_not_agree :
    ¬ ∀ (a b c : Nat) (as : List (DNSRequest × (String → Nat → Nat))),
      dnsRecords.AllStates (fun s => s.started = true → s.Agrees) (.new a b c) as := by
  intro h
  let conf : RecordExercise :=
    { tag := "ftp", static := false
      instances := [{ image := "ftp", records := [⟨"A", "ftp.com", ""⟩] }] }
  have hall := h 77 1 2 [(.start, fun _ _ => 30), (.add [conf], fun _ _ => 30)]
  obtain ⟨s, hs, hagrees⟩ := hall.of_run (fun s => (s.started, s.dnsServer, s.dnsrecords))
    (true, some [], [⟨"77.1.2.30", "ftp.com"⟩]) (by decide)
  have hstarted : s.started = true := congrArg Prod.fst hs
  have hserver : s.dnsServer = some [] := congrArg (fun x => x.2.1) hs
  have hlist : s.dnsrecords = [⟨"77.1.2.30", "ftp.com"⟩] := congrArg (fun x => x.2.2) hs
  obtain ⟨zone, hzone, rr, hrr, -⟩ :=
    (hagrees hstarted).entries _ (hlist ▸ List.mem_cons_self)
  rw [hserver] at hzone
  cases hzone
  cases hrr

end DNSEnvironment

end Haaukins.Exercise
