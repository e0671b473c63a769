import Mathlib.Data.List.Basic
import Mathlib.Data.List.Perm.Basic
import Haaukins.Store.Exercise

/-!
# `Haaukins.Amigo.FrontendData`: the challenges that the websockets serve (`svcs/amigo/util.go`)

`UpdateChallenges` starts a goroutine that sends the new challenges on an unbuffered channel.
`RunFrontendData` looks at that channel only after a client has registered, and takes one
update at most. `update` has the sends that wait.

`NewFrontendData` keeps the slice that it gets, and `Handler` gives it `am.challenges` at each
call. So the `FrontendData`s of one `Amigo` start in one array. `append` writes into this array
while there is room, also where another of them has written its own update before:
`Frontends.register` is a registration with this effect.
-/

set_option autoImplicit false

namespace Haaukins.Amigo

open Store (ChildrenChalConfig)

/-- `FrontendData`. `challenges` are those that its slice shows. -/
structure FrontendData where
  challenges : List ChildrenChalConfig
  update : List (List ChildrenChalConfig)

/-- `NewFrontendData`. The slice is that of the caller. -/
def newFrontendData (chals : List ChildrenChalConfig) : FrontendData where
  challenges := chals
  update := []

namespace FrontendData

variable (fd : FrontendData)

/-- `UpdateChallenges`. -/
def updateChallenges (chals : List ChildrenChalConfig) : FrontendData :=
  { fd with update := fd.update ++ [chals] }

/-- `case client := <-fd.register` of `RunFrontendData`. The client gets the challenges, and
then one of the updates that wait is taken, or none when no sender has come to its send yet.
This is what the `FrontendData` itself shows then. -/
def register : Option Nat → FrontendData
  | none => fd
  | some i =>
    match fd.update[i]? with
    | none => fd
    | some newChs =>
      { challenges := fd.challenges ++ newChs, update := fd.update.eraseIdx i }

/-- The challenges that are served, and those of the updates that wait. -/
def served : List ChildrenChalConfig := fd.challenges ++ fd.update.flatten

/-- The new loop serves what it was given. -/
@[simp] theorem served_new (chals : List ChildrenChalConfig) :
    (newFrontendData chals).served = chals := by
  simp [newFrontendData, served]

/-- An update is appended. -/
@[simp] theorem served_updateChallenges (chals : List ChildrenChalConfig) :
    (fd.updateChallenges chals).served = fd.served ++ chals := by
  simp [updateChallenges, served]

/-- A registration moves an update to the challenges and loses nothing. -/
theorem mem_served_register (i : Option Nat) (c : ChildrenChalConfig) :
    c ∈ (fd.register i).served ↔ c ∈ fd.served := by
  cases i with
  | none => rfl
  | some i =>
    by_cases hi : i < fd.update.length
    · have hget : fd.update[i]? = some fd.update[i] := List.getElem?_eq_getElem hi
      have hperm : fd.update.Perm (fd.update[i] :: fd.update.eraseIdx i) :=
        (List.getElem_cons_eraseIdx_perm hi).symm
      have hflat : c ∈ fd.update.flatten ↔
          c ∈ fd.update[i] ∨ c ∈ (fd.update.eraseIdx i).flatten := by
        rw [hperm.flatten.mem_iff, List.flatten_cons, List.mem_append]
      simp only [register, served, hget, List.mem_append, hflat, or_assoc]
    · have hget : fd.update[i]? = none := List.getElem?_eq_none (by omega)
      simp only [register, hget]

/-- The update that a registration takes. -/
def taken (i : Option Nat) : Option (List ChildrenChalConfig) := i.bind fun i => fd.update[i]?

/-- What a `FrontendData` shows after another one has written `newChs` at the place `n` of
their array. The slice has the length it had. -/
def overwrite (n : Nat) (newChs : List ChildrenChalConfig) : FrontendData :=
  { fd with
      challenges := fd.challenges.take n ++
        (newChs.take (fd.challenges.length - n) ++ fd.challenges.drop (n + newChs.length)) }

/-- The challenges are those in front of the write, those under it and those behind it. -/
theorem mem_challenges_iff (n m : Nat) (c : ChildrenChalConfig) :
    c ∈ fd.challenges ↔ c ∈ fd.challenges.take n ∨ c ∈ (fd.challenges.drop n).take m ∨
      c ∈ fd.challenges.drop (n + m) := by
  rw [← List.mem_append, ← List.drop_drop, List.take_append_drop, ← List.mem_append,
    List.take_append_drop]

end FrontendData

/-- The `FrontendData`s of all calls of `Handler`. -/
structure Frontends where
  all : List FrontendData
  /-- Those for which `append` found no room. They have an array of their own. -/
  moved : List Nat

namespace Frontends

variable (fs : Frontends)

/-- A client registers with the `FrontendData` of a handler, where `cap` is the capacity of
`am.challenges`. -/
def register (cap handler : Nat) (i : Option Nat) : Frontends :=
  match fs.all[handler]? with
  | none => fs
  | some fd =>
    match fd.taken i with
    | none => fs
    | some newChs =>
      if handler ∈ fs.moved then { fs with all := fs.all.set handler (fd.register i) }
      else if fd.challenges.length + newChs.length ≤ cap then
        -- `append` writes in place, and the others in the array see it.
        let others := fs.all.mapIdx fun k other =>
          if k ∈ fs.moved then other else other.overwrite fd.challenges.length newChs
        { fs with all := others.set handler (fd.register i) }
      else { all := fs.all.set handler (fd.register i), moved := handler :: fs.moved }

/-- What a registration with an earlier `FrontendData` writes into the array of the latest one:
the place and the challenges. -/
def writes (cap handler : Nat) (i : Option Nat) : Option (Nat × List ChildrenChalConfig) :=
  match fs.all[handler]? with
  | none => none
  | some fd =>
    match fd.taken i with
    | none => none
    | some newChs =>
      if handler + 1 ≠ fs.all.length ∧ handler ∉ fs.moved ∧ fs.all.length - 1 ∉ fs.moved ∧
          fd.challenges.length + newChs.length ≤ cap then
        some (fd.challenges.length, newChs)
      else none

/-- What a registration takes is the update that `FrontendData.register` appends. -/
theorem register_eq_self {fd : FrontendData} {i : Option Nat} (h : fd.taken i = none) :
    fd.register i = fd := by
  cases i with
  | none => rfl
  | some i =>
    have hget : fd.update[i]? = none := h
    simp only [FrontendData.register, hget]

/-- What becomes of the latest `FrontendData` when a client registers. -/
theorem getLast?_register (cap handler : Nat) (i : Option Nat) {last : FrontendData}
    (hlast : fs.all.getLast? = some last) :
    (fs.register cap handler i).all.getLast? = some (
      if handler + 1 = fs.all.length then last.register i
      else (fs.writes cap handler i).elim last fun w => last.overwrite w.1 w.2) := by
  rw [List.getLast?_eq_getElem?] at hlast ⊢
  obtain ⟨hlength, -⟩ := List.getElem?_eq_some_iff.mp hlast
  unfold register writes
  cases hfd : fs.all[handler]? with
  -- A handler behind the last `FrontendData` does nothing.
  | none =>
    have hle := List.getElem?_eq_none_iff.mp hfd
    rw [if_neg (by omega)]
    exact hlast
  | some fd =>
    dsimp only
    have hthis : handler + 1 = fs.all.length → fd = last := fun heq => by
      have hindex : handler = fs.all.length - 1 := by omega
      exact Option.some.inj (hfd.symm.trans (hindex ▸ hlast))
    cases htaken : fd.taken i with
    | none =>
      dsimp only
      split
      · next heq =>
        rw [← hthis heq, register_eq_self htaken, hthis heq]
        exact hlast
      · exact hlast
    | some newChs =>
      dsimp only
      by_cases heq : handler + 1 = fs.all.length
      -- It is the latest one that takes the update, in place or into a new array.
      · have hindex : fs.all.length - 1 = handler := by omega
        have hset : ∀ fds : List FrontendData, fds.length = fs.all.length →
            (fds.set handler (fd.register i))[handler]? = some (last.register i) := by
          intro fds hfds
          rw [List.getElem?_set_self (by omega), hthis heq]
        simp only [heq, if_true]
        split
        · simpa [hindex] using hset fs.all rfl
        · split
          · simpa [hindex] using hset _ List.length_mapIdx
          · simpa [hindex] using hset fs.all rfl
      -- An older one writes into the array of the latest if neither has moved and there is room.
      · have hother : handler ≠ fs.all.length - 1 := by omega
        simp only [heq, if_false, ne_eq, not_false_eq_true, true_and]
        by_cases hmoved : handler ∈ fs.moved
        · simp [hmoved, hother, hlast]
        · by_cases hroom : fd.challenges.length + newChs.length ≤ cap
          · by_cases hlatest : fs.all.length - 1 ∈ fs.moved <;>
              simp [hmoved, hroom, hlatest, hother, hlast]
          · simp [hmoved, hroom, hother, hlast]

end Frontends

end Haaukins.Amigo
