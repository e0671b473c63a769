import Mathlib.Algebra.GroupWithZero.Nat
import Mathlib.Data.Fin.Basic
import Mathlib.Logic.Function.Basic
import Haaukins.Lib.Machine
import Haaukins.Lib.GoMap

/-!
# `Haaukins.Lab.Hub`: the lab hub of an event (`lab/hub.go`)

`NewHub` starts two workers, a dispatcher and a deallocation loop. They talk over the
channels `ready`, `labs`, `queue`, `deallocated` and `stop`, and over one `sync.WaitGroup`.
The model is one `Machine`: the state `Hub` holds the channels, the position of each
goroutine in its loop and the map `startedLabs`, and a `HubAction` is one atomic step of
one goroutine (two goroutines when the channel is unbuffered).

* A lab is the number of labs that `Creator.NewLab` created before it, so two labs are
  never the same lab. Their tags come from `HubConf.tag` and may coincide.
* A send on a channel that is closed, and a method call on the absent lab of a failed
  `NewLab`, end the process: the step sets `panicked`, and nothing is enabled afterwards.
* A buffered channel accepts a send while its buffer has room. On an unbuffered one the
  send and the receive are one step (`handLabs`, `handQueue`, `handRequeue`).
* `consumers` counts the receivers that wait on `Queue()`.
* `calls`, `created`, `started`, `registered`, `delivered` and `closed` only record what
  happened. No guard reads them, except that `created` numbers the next lab.

`hub.Suspend` and `hub.Resume` change no channel and are not part of this machine. Neither is
the waiter of the `WaitGroup`, whose counter may go up again before `Wait` wakes up: `closingHub`
adds it, and refines this machine.
-/

set_option autoImplicit false

namespace Haaukins.Lab

/-- `workerAmount := 2`. -/
abbrev workerAmount : Nat := 2

instance : NeZero workerAmount := ⟨by decide⟩

/-- The arguments of `NewHub`, and the tag that each created lab got from `generateTag`. -/
structure HubConf (Tag : Type) where
  buffer : Nat
  cap : Nat
  tag : Nat → Tag

/-- Two labs in a hub of capacity two, with distinct tags. -/
def twoLabs : HubConf Nat := { buffer := 2, cap := 2, tag := fun l => l }

/-- `buffer` after `if buffer < workerAmount { buffer = workerAmount }`. -/
def HubConf.buf {Tag : Type} (c : HubConf Tag) : Nat :=
  if c.buffer < workerAmount then workerAmount else c.buffer

/-- The capacity of `labs` and of `queue`, `buffer-workerAmount`. -/
def HubConf.chanCap {Tag : Type} (c : HubConf Tag) : Nat := c.buf - workerAmount

/-- Where a worker is in `for range ready { ... }`. -/
inductive Worker where
  /-- The goroutine does not exist yet. -/
  | unstarted
  /-- At `range ready`. -/
  | ranging
  /-- A token was received and `wg.Add(1)` is next. -/
  | received
  /-- `creator.NewLab` is next. -/
  | creating
  /-- `l.Start` is next. -/
  | starting (l : Nat)
  /-- At the `select` between `labs <- l` and `<-stop`. -/
  | sending (l : Nat)
  /-- The lab was sent and `wg.Done()` is next. -/
  | sent
  /-- `stop` was received and `wg.Done()` is next. -/
  | stopping (l : Nat)
  /-- `l.Close()` is next. -/
  | closing (l : Nat)
  /-- `ready` was closed. -/
  | exited
  /-- The goroutine called a method on the absent lab of a failed `NewLab`. -/
  | crashed
  deriving DecidableEq, Repr

/-- Where the dispatcher is. -/
inductive Dispatcher where
  /-- The goroutine does not exist yet. -/
  | unstarted
  /-- At the outer `select` between `<-labs` and `<-stop`. -/
  | selecting
  /-- At the inner `select` between `queue <- l` and `<-stop`. -/
  | queueing (l : Nat)
  /-- The lab was queued and `labsStarting` is computed next. -/
  | counting
  /-- At `ready <- struct{}{}`. -/
  | readying
  /-- At `wg.Wait()`. -/
  | waiting
  /-- `labsCloser()` is next. -/
  | closingLabs
  /-- At `for l := range labs`. -/
  | draining
  /-- At `for _, l := range startedLabs`, with the labs that the loop has yet to visit. -/
  | closingStarted (rest : List Nat)
  /-- The deferred `readyCloser()` was run. -/
  | returned
  deriving DecidableEq, Repr

/-- Why the process ended. -/
inductive Panic where
  | sendOnClosedLabs
  | sendOnClosedReady
  | nilLab
  deriving DecidableEq, Repr

/-- The state of the goroutines and channels of one hub. -/
structure Hub (Tag : Type) where
  /-- The sends on `ready` that the loop of `NewHub` has yet to make. -/
  initial : Nat
  readyClosed : Bool
  /-- `stop` is closed. -/
  stop : Bool
  labs : List Nat
  labsClosed : Bool
  queue : List Nat
  deallocated : List Nat
  wg : Nat
  worker : Fin workerAmount → Worker
  dispatcher : Dispatcher
  startedLabs : GoMap Tag Nat
  /-- The calls of `hub.Update` that have received their lab and not yet passed it on. -/
  updating : List Nat
  /-- The lab `lb` that the deallocation loop has received and not yet queued. -/
  dealloc : Option Nat
  consumers : Nat
  panicked : Option Panic
  calls : Nat
  created : Nat
  /-- The labs whose `Start` returned no error. -/
  started : List Nat
  /-- The labs that the dispatcher put into `startedLabs`. -/
  registered : List Nat
  delivered : List Nat
  /-- The labs whose `Close` was called, once for each call. -/
  closed : List Nat

/-- The hub right before the first send on `ready` in `NewHub`. -/
def Hub.new {Tag : Type} : Hub Tag where
  initial := workerAmount
  readyClosed := false
  stop := false
  labs := []
  labsClosed := false
  queue := []
  deallocated := []
  wg := 0
  worker := fun i => if i = 0 then .ranging else .unstarted
  dispatcher := .unstarted
  startedLabs := ∅
  updating := []
  dealloc := none
  consumers := 0
  panicked := none
  calls := 0
  created := 0
  started := []
  registered := []
  delivered := []
  closed := []

/-- One atomic step of the hub or of its environment. -/
inductive HubAction where
  /-- The first `ready <- struct{}{}` of `NewHub`. Its loop then starts the second worker. -/
  | sendFirst (i : Fin workerAmount)
  /-- The second one. `NewHub` then starts the dispatcher and returns. -/
  | sendSecond (i : Fin workerAmount)
  | wgAdd (i : Fin workerAmount)
  | newLab (i : Fin workerAmount)
  /-- `creator.NewLab` returns an error, which is logged, and `l.Start` is called on nil. -/
  | newLabFailed (i : Fin workerAmount)
  /-- `l.Start` returns, with an error when `ok` is false. The error is only logged. -/
  | start (i : Fin workerAmount) (l : Nat) (ok : Bool)
  | sendLabs (i : Fin workerAmount) (l : Nat)
  | sendClosedLabs (i : Fin workerAmount) (l : Nat)
  | handLabs (i : Fin workerAmount) (l : Nat)
  | done (i : Fin workerAmount)
  | takeStop (i : Fin workerAmount) (l : Nat)
  | doneStop (i : Fin workerAmount) (l : Nat)
  | closeLab (i : Fin workerAmount) (l : Nat)
  | exit (i : Fin workerAmount)
  | recvLabs (l : Nat)
  | recvStop
  | pushQueue (l : Nat)
  | handQueue (l : Nat)
  /-- The inner `case <-stop: continue`. -/
  | skipQueue (l : Nat)
  /-- `labsStarting == cap`: `readyCloser()` and `continue`. -/
  | countStarting
  /-- `len(startedLabs) == cap`: `continue`. -/
  | countFull
  /-- Neither: a token follows. -/
  | countToken
  | sendReady (i : Fin workerAmount)
  | sendClosedReady
  /-- `wg.Wait()` returns. `closingHub` has the way there. -/
  | wgWait
  | closeLabs
  | drainLab (l : Nat)
  | drained
  | closeStarted (l : Nat) (rest : List Nat)
  | returnClosed
  /-- A consumer starts to wait on `Queue()`. -/
  | request
  | receive (l : Nat)
  /-- A call of `hub.Update` receives its lab. -/
  | update (l : Nat)
  | putDeallocated (l : Nat)
  | takeDeallocated (l : Nat)
  | requeue (l : Nat)
  | handRequeue (l : Nat)
  /-- `hub.Close()`. -/
  | close
  deriving DecidableEq, Repr

/-- The steps that come from outside the hub: a new consumer, a released lab, `Close`. -/
def HubAction.external : HubAction → Bool
  | .request | .update _ | .close => true
  | _ => false

/-- The lab that a step puts into `startedLabs`. -/
def HubAction.registers : HubAction → Option Nat
  | .recvLabs l | .handLabs _ l => some l
  | _ => none

variable {Tag : Type}

/-- The position of worker `i` replaced. -/
def Hub.setWorker (s : Hub Tag) (i : Fin workerAmount) (w : Worker) : Hub Tag :=
  { s with worker := Function.update s.worker i w }

/-- `len(startedLabs) + workerAmount - 1`. -/
def Hub.labsStarting (s : Hub Tag) : Nat := s.startedLabs.size + workerAmount - 1

/-- The guard of each step. -/
def Hub.enabled [DecidableEq Tag] (c : HubConf Tag) (s : Hub Tag) : HubAction → Prop
  | .sendFirst i => s.initial = 2 ∧ s.worker i = .ranging
  | .sendSecond i => s.initial = 1 ∧ s.worker i = .ranging
  | .wgAdd i => s.worker i = .received
  | .newLab i => s.worker i = .creating
  | .newLabFailed i => s.worker i = .creating
  | .start i l _ => s.worker i = .starting l
  | .sendLabs i l => s.worker i = .sending l ∧ ¬ s.labsClosed ∧ s.labs.length < c.chanCap
  | .sendClosedLabs i l => s.worker i = .sending l ∧ s.labsClosed
  | .handLabs i l => s.worker i = .sending l ∧ ¬ s.labsClosed ∧ c.chanCap = 0 ∧
      s.dispatcher = .selecting
  | .done i => s.worker i = .sent
  | .takeStop i l => s.worker i = .sending l ∧ s.stop
  | .doneStop i l => s.worker i = .stopping l
  | .closeLab i l => s.worker i = .closing l
  | .exit i => s.worker i = .ranging ∧ s.readyClosed
  | .recvLabs l => s.dispatcher = .selecting ∧ s.labs.head? = some l
  | .recvStop => s.dispatcher = .selecting ∧ s.stop
  | .pushQueue l => s.dispatcher = .queueing l ∧ s.queue.length < c.chanCap
  | .handQueue l => s.dispatcher = .queueing l ∧ c.chanCap = 0 ∧ s.consumers ≠ 0
  | .skipQueue l => s.dispatcher = .queueing l ∧ s.stop
  | .countStarting => s.dispatcher = .counting ∧ s.labsStarting = c.cap
  | .countFull => s.dispatcher = .counting ∧ s.labsStarting ≠ c.cap ∧
      s.startedLabs.size = c.cap
  | .countToken => s.dispatcher = .counting ∧ s.labsStarting ≠ c.cap ∧
      s.startedLabs.size ≠ c.cap
  | .sendReady i => s.dispatcher = .readying ∧ ¬ s.readyClosed ∧ s.worker i = .ranging
  | .sendClosedReady => s.dispatcher = .readying ∧ s.readyClosed
  | .wgWait => s.dispatcher = .waiting ∧ s.wg = 0
  | .closeLabs => s.dispatcher = .closingLabs
  | .drainLab l => s.dispatcher = .draining ∧ s.labs.head? = some l
  | .drained => s.dispatcher = .draining ∧ s.labs = []
  | .closeStarted l rest => s.dispatcher = .closingStarted rest ∧ l ∈ rest
  | .returnClosed => s.dispatcher = .closingStarted []
  | .request => s.initial = 0
  | .receive l => s.consumers ≠ 0 ∧ s.queue.head? = some l
  | .update _ => s.initial = 0
  | .putDeallocated l => l ∈ s.updating ∧ s.deallocated.length < c.cap
  | .takeDeallocated l => s.dealloc = none ∧ s.deallocated.head? = some l
  | .requeue l => s.dealloc = some l ∧ s.queue.length < c.chanCap
  | .handRequeue l => s.dealloc = some l ∧ c.chanCap = 0 ∧ s.consumers ≠ 0
  | .close => s.initial = 0 ∧ ¬ s.stop

instance [DecidableEq Tag] (c : HubConf Tag) (s : Hub Tag) (a : HubAction) :
    Decidable (s.enabled c a) := by
  cases a <;> dsimp only [Hub.enabled] <;> infer_instance

/-- The dispatcher puts a received lab into `startedLabs` and goes to the inner `select`. -/
def Hub.register [DecidableEq Tag] (c : HubConf Tag) (s : Hub Tag) (l : Nat) : Hub Tag :=
  { s with
      startedLabs := s.startedLabs.set (c.tag l) l
      registered := s.registered ++ [l]
      dispatcher := .queueing l }

/-- The state after an enabled step. -/
def Hub.effect [DecidableEq Tag] (c : HubConf Tag) (s : Hub Tag) : HubAction → Hub Tag
  | .sendFirst i => { (s.setWorker i .received).setWorker 1 .ranging with initial := 1 }
  | .sendSecond i =>
    { s.setWorker i .received with initial := 0, dispatcher := .selecting }
  | .wgAdd i => { s.setWorker i .creating with wg := s.wg + 1 }
  | .newLab i =>
    { s.setWorker i (.starting s.created) with calls := s.calls + 1, created := s.created + 1 }
  | .newLabFailed i =>
    { s.setWorker i .crashed with calls := s.calls + 1, panicked := some .nilLab }
  | .start i l ok =>
    { s.setWorker i (.sending l) with started := if ok then s.started ++ [l] else s.started }
  | .sendLabs i l => { s.setWorker i .sent with labs := s.labs ++ [l] }
  | .sendClosedLabs _ _ => { s with panicked := some .sendOnClosedLabs }
  | .handLabs i l => (s.setWorker i .sent).register c l
  | .done i => { s.setWorker i .ranging with wg := s.wg - 1 }
  | .takeStop i l => s.setWorker i (.stopping l)
  | .doneStop i l => { s.setWorker i (.closing l) with wg := s.wg - 1 }
  | .closeLab i l => { s.setWorker i .ranging with closed := s.closed ++ [l] }
  | .exit i => s.setWorker i .exited
  | .recvLabs l => ({ s with labs := s.labs.tail } : Hub Tag).register c l
  | .recvStop => { s with dispatcher := .waiting }
  | .pushQueue l => { s with queue := s.queue ++ [l], dispatcher := .counting }
  | .handQueue l =>
    { s with consumers := s.consumers - 1, delivered := s.delivered ++ [l],
             dispatcher := .counting }
  | .skipQueue _ => { s with dispatcher := .selecting }
  | .countStarting => { s with readyClosed := true, dispatcher := .selecting }
  | .countFull => { s with dispatcher := .selecting }
  | .countToken => { s with dispatcher := .readying }
  | .sendReady i => { s.setWorker i .received with dispatcher := .selecting }
  | .sendClosedReady => { s with panicked := some .sendOnClosedReady }
  | .wgWait => { s with dispatcher := .closingLabs }
  | .closeLabs => { s with labsClosed := true, dispatcher := .draining }
  | .drainLab l => { s with labs := s.labs.tail, closed := s.closed ++ [l] }
  | .drained => { s with dispatcher := .closingStarted s.startedLabs.values }
  | .closeStarted l rest =>
    { s with dispatcher := .closingStarted (rest.erase l), closed := s.closed ++ [l] }
  | .returnClosed => { s with readyClosed := true, dispatcher := .returned }
  | .request => { s with consumers := s.consumers + 1 }
  | .receive l =>
    { s with consumers := s.consumers - 1, queue := s.queue.tail,
             delivered := s.delivered ++ [l] }
  | .update l => { s with updating := s.updating ++ [l] }
  | .putDeallocated l =>
    { s with updating := s.updating.erase l, deallocated := s.deallocated ++ [l] }
  | .takeDeallocated l => { s with deallocated := s.deallocated.tail, dealloc := some l }
  | .requeue l => { s with queue := s.queue ++ [l], dealloc := none }
  | .handRequeue l =>
    { s with consumers := s.consumers - 1, delivered := s.delivered ++ [l], dealloc := none }
  | .close => { s with stop := true }

/-- `NewHub(creator, buffer, cap, isVPN)` and the steps of the goroutines it starts. -/
def newHub [DecidableEq Tag] (c : HubConf Tag) : Machine (Hub Tag) HubAction where
  init s := s = Hub.new
  step s a := if s.panicked = none ∧ s.enabled c a then some (s.effect c a) else none

variable [DecidableEq Tag] {c : HubConf Tag} {s t : Hub Tag} {a : HubAction}

/-- A step is taken exactly when the process is alive and the guard holds. -/
theorem newHub_step : (newHub c).step s a = some t ↔
    s.panicked = none ∧ s.enabled c a ∧ s.effect c a = t := by
  simp [newHub, and_assoc]

/-- The hub stands still after a panic, and where nothing is enabled. -/
theorem newHub_step_eq_none : (newHub c).step s a = none ↔
    (s.panicked = none → ¬ s.enabled c a) := by
  simp [newHub]

end Haaukins.Lab
