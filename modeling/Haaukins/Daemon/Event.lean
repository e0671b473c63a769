import Haaukins.Lib.GoMap
import Haaukins.Daemon.Net

/-!
# `Haaukins.Daemon.Event`: the events of the daemon (`daemon/event.go`)

The functions of the daemon that start and end events, with the event pool and the pool of
VPN addresses that they share. What the database, the event host and the clock answer is an
argument of each function, and the functions return the error of the source.

* `CreateChecks` stands for the checks of `CreateEvent` that only ask other services:
  quota, reserved tags, exercises, dates, existing events and booking.
* Times are seconds. An event of the pool is its configuration, without the fields that
  these functions do not read.
-/

set_option autoImplicit false

namespace Haaukins.Daemon

/-- `NoVPN`, `VPN` and `VPNBrowser`. -/
def noVPN : Int := 0

@[inherit_doc noVPN]
def vpn : Int := 1

@[inherit_doc noVPN]
def vpnBrowser : Int := 2

/-- `Running`, `Suspended`, `Booked` and `Closed`. -/
def running : Int := 0

@[inherit_doc running]
def suspended : Int := 1

@[inherit_doc running]
def booked : Int := 2

@[inherit_doc running]
def closed : Int := 3

/-- `NPUserMaxLabs`. -/
def npUserMaxLabs : Int := 40

/-- `CapacityExceedsErr`. -/
def capacityExceedsErr : String := "VPN Events can have maximum 252 people on board !"

/-- `OutOfQuota`. -/
def outOfQuota : String := "Out of quota for members, you have limited access"

/-- `DuplicateEventErr`. -/
def duplicateEventErr : String := "Event with that tag already exists"

/-- `NotAvailableTag`. -/
def notAvailableTag : String :=
  "not available tag, there is already an event which is either running, booked or suspended"

/-- `UnknownEventErr`. -/
def unknownEventErr : String := "Unable to find event by that tag"

/-- `EventConfig`. -/
structure EventConfig where
  name : String
  tag : String
  available : Int
  capacity : Int
  frontends : List String
  exercises : List String
  finishExpected : Nat
  createdBy : String
  onlyVPN : Int
  vpnAddress : String
  deriving DecidableEq

/-- `EmptyVarErr.Error` for a field of an event. -/
def emptyVarErr (var : String) : String := var ++ " cannot be empty for Event"

/-- `EventConfig.Validate`. -/
def EventConfig.validate (e : EventConfig) : Option String :=
  if e.name = "" then some (emptyVarErr "Name")
  else if e.tag = "" then some (emptyVarErr "Tag")
  else if e.createdBy = "" then some (emptyVarErr "User")
  else if e.exercises.length = 0 then some (emptyVarErr "Exercises")
  else if e.frontends.length = 0 then some (emptyVarErr "Frontends")
  else none

/-- The event has a VPN: `OnlyVPN == VPN || OnlyVPN == VPNBrowser`. -/
def EventConfig.hasVPN (e : EventConfig) : Bool := e.onlyVPN == vpn || e.onlyVPN == vpnBrowser

/-- The part of each VPN address after the address of the pool. -/
def vpnSuffix : String := ".240.1/22"

/-- `strings.ReplaceAll(VPNAddress, ".240.1/22", "")`. -/
def EventConfig.vpnIP (e : EventConfig) : String :=
  GoStrings.replaceAll e.vpnAddress vpnSuffix ""

/-- The event pool and the pool of VPN addresses. -/
structure State where
  eventPool : GoMap String EventConfig
  vpnIPPools : IPPool

/-- The user of a request. -/
structure Requester where
  username : String
  npUser : Bool

namespace State

variable (d : State)

/-- `fmt.Sprintf("%s.240.1/22", vpnIP)` for the result of `getVPNIP`. Its error is only
logged, and then `vpnIP` is empty. -/
def newVPNAddress (draws : List Draw) : Option (String × State) :=
  match d.vpnIPPools.get draws with
  | none => none
  | some (.ok vpnIP, p) => some (vpnIP ++ vpnSuffix, { d with vpnIPPools := p })
  | some (.error _, p) => some ("" ++ vpnSuffix, { d with vpnIPPools := p })

/-- The address of a new event: one of the pool when it has a VPN, otherwise the address
variable as it is. -/
def addressFor (hasVPN : Bool) (draws : List Draw) (vpnAddress : String) :
    Option (String × State) :=
  if hasVPN then d.newVPNAddress draws else some (vpnAddress, d)

/-- The release of the address of an event with a VPN. -/
def releaseVPN (e : EventConfig) : State :=
  if e.hasVPN then { d with vpnIPPools := d.vpnIPPools.releaseIP e.vpnIP } else d

/-- `startEvent`: `eventPool.AddEvent`. -/
def startEvent (e : EventConfig) : State :=
  { d with eventPool := d.eventPool.set e.tag e }

/-- `eventPool.RemoveEvent`, for an event of the pool. -/
def removeEvent (tag : String) : State := { d with eventPool := d.eventPool.delete tag }

end State

/-- `pb.CreateEventRequest`, where `tag` is the result of `store.NewTag`. -/
structure CreateEventRequest where
  name : String
  tag : String
  available : Int
  capacity : Int
  frontends : List String
  exercises : List String
  finishTime : Nat
  onlyVPN : Int

/-- The outcome of the checks of `CreateEvent` that ask other services. -/
inductive CreateChecks where
  /-- The function returns, with an error or because the event was booked. -/
  | ended (err : Option String)
  | passed

/-- The configuration that `CreateEvent` builds. -/
def CreateEventRequest.config (req : CreateEventRequest) (user : Requester)
    (vpnAddress : String) : EventConfig where
  name := req.name
  tag := req.tag
  available := req.available
  capacity := req.capacity
  frontends := req.frontends
  exercises := req.exercises
  finishExpected := req.finishTime
  createdBy := user.username
  onlyVPN := req.onlyVPN
  vpnAddress := vpnAddress

/-- The defaults of `CreateEvent`: two labs, ten teams, and fifteen days from now. -/
def EventConfig.withDefaults (e : EventConfig) (now : Nat) : EventConfig :=
  { e with
    available := if e.available = 0 then 2 else e.available
    capacity := if e.capacity = 0 then 10 else e.capacity
    finishExpected := if e.finishExpected < now then now + 15 * 86400 else e.finishExpected }

/-- `CreateEvent`, where `host` is the error of `CreateEventFromConfig`. It is `none` while
the loop of `Get` goes on. -/
def createEvent (d : State) (user : Requester) (req : CreateEventRequest)
    (checks : CreateChecks) (draws : List Draw) (now : Nat) (host : Option String) :
    Option (State × Option String) :=
  if (req.onlyVPN == vpn || req.onlyVPN == vpnBrowser) && 253 < req.capacity then
    some (d, some capacityExceedsErr)
  else if user.npUser && npUserMaxLabs < req.capacity then some (d, some outOfQuota)
  else
    match checks with
    | .ended err => some (d, err)
    | .passed =>
      match d.addressFor (req.onlyVPN == vpn || req.onlyVPN == vpnBrowser) draws "" with
      | none => none
      | some (vpnAddress, d) =>
        let conf := req.config user vpnAddress
        match conf.validate with
        | some err => some (d, some err)
        | none =>
          match d.eventPool.get? conf.tag with
          | some _ => some (d, some duplicateEventErr)
          | none =>
            match host with
            | some err => some (d, some err)
            | none => some (d.startEvent (conf.withDefaults now), none)

/-- An event of the database, with what happens when the daemon starts it: the draws of
`Get`, the error of `CreateEventFromEventDB` and the error of `SetEventStatus`. -/
structure DBEvent where
  conf : EventConfig
  status : Int
  startedAt : Nat
  draws : List Draw
  host : Option String
  setStatus : Option String

/-- The start of one event of the database: its address, `generateEventConfig` and
`createEventFromEventDB`. The address variable belongs to the loop around it. -/
def State.createFromDB (d : State) (vpnAddress : String) (e : DBEvent) :
    Option (String × State × Option String) :=
  match d.addressFor e.conf.hasVPN e.draws vpnAddress with
  | none => none
  | some (vpnAddress, d) =>
    let conf := { e.conf with vpnAddress := vpnAddress }
    match conf.validate with
    | some err => some (vpnAddress, d, some err)
    | none =>
      match e.host with
      | some err => some (vpnAddress, d, some err)
      | none => some (vpnAddress, d.startEvent conf, none)

/-- The loop of `visitBookedEvents` over the booked events. -/
def visitBookedEvents (now : Nat) (d : State) (vpnAddress : String) :
    List DBEvent → Option (State × Option String)
  | [] => some (d, none)
  | e :: es =>
    if e.startedAt ≤ now then
      match d.createFromDB vpnAddress e with
      | none => none
      | some (_, d, some err) => some (d, some ("error on booked event creation " ++ err))
      | some (vpnAddress, d, none) =>
        match e.setStatus with
        | some err => some (d, some ("status update failed err: " ++ err))
        | none => visitBookedEvents now d vpnAddress es
    else visitBookedEvents now d vpnAddress es

/-- The loop of `daemon.New` over the events of the database. It is `none` when `New` fails. -/
def restoreEvents (d : State) (vpnAddress : String) : List DBEvent → Option State
  | [] => some d
  | e :: es =>
    if e.status = running ∨ e.status = suspended then
      match d.createFromDB vpnAddress e with
      | none => none
      | some (_, _, some _) => none
      | some (vpnAddress, d, none) => restoreEvents d vpnAddress es
    else restoreEvents d vpnAddress es

/-- `(user.NPUser && user.Username == createdBy) || !user.NPUser`. -/
def Requester.mayStop (user : Requester) (e : EventConfig) : Bool :=
  (user.npUser && user.username == e.createdBy) || !user.npUser

/-- What the database and the event answer to `StopEvent`: the status of the event, the
errors of `SetEventStatus` and `ev.Close`, and the error on a booked event. -/
structure StopCalls where
  status : Except String Int
  setStatus : Option String
  close : Option String
  drop : Option String

/-- `StopEvent`. -/
def stopEvent (d : State) (user : Requester) (tag : String) (calls : StopCalls) :
    State × Option String :=
  match calls.status with
  | .error err => (d, some ("error happened on getting status of event, err: " ++ err))
  | .ok status =>
    if status = running ∨ status = suspended then
      match d.eventPool.get? tag with
      | none => (d, some unknownEventErr)
      | some ev =>
        let d := d.releaseVPN ev
        if user.mayStop ev then
          match calls.setStatus with
          | some err => (d, some ("error happened on setting up status of event, err: " ++ err))
          | none => (d.removeEvent tag, calls.close)
        else (d, some ("no priviledge to stop event " ++ tag))
    else if status = booked then (d, calls.drop)
    else (d, none)

/-- `isDelayed`. -/
def isDelayed (finish now : Nat) : Bool := finish ≤ now

/-- `closer` of `closeEvent`. The errors that it meets do not stop it. -/
def closeEvent (now : Nat) (d : State) (e : EventConfig) : State :=
  let d := d.releaseVPN e
  if isDelayed e.finishExpected now then d.removeEvent e.tag else d

/-- `closeEvents`: the closers run in any order, one for each event of the pool. -/
def closeEvents (now : Nat) (d : State) (order : List EventConfig) : State :=
  order.foldl (closeEvent now) d

end Haaukins.Daemon
