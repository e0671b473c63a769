import Haaukins.Lib.GoStrings
import Haaukins.Lib.Machine
import Mathlib.Algebra.Ring.Int.Defs
import Mathlib.Data.Finset.Basic
import Mathlib.Data.Finset.Range

/-!
# `Haaukins.Virtual.Network`: the addresses of a lab (`virtual/docker/docker.go`)

A lab network gives numbers to its containers: the last part of their addresses. A `Connect`
without an address draws a number from a pool, one with an address takes it as it is. Whether
Docker accepts the connection is part of a step.

* `formatIP` and `releaseIP` go through the text of an address (`releaseIP_formatIP`).
* `getRandomIP` of an empty pool is 0, and `Connect` asks Docker for this address.
* `HandedOut` is the range of the DHCP server of the lab (`network/dhcp/dhcp.go`). It goes from 4 to
  254, so it has all numbers of the pool.
* `labNetwork_addressed_iff` says when the numbers of the containers are different ones of the
  pool, and when they also keep clear of the DHCP server.
-/

set_option autoImplicit false

namespace Haaukins.Virtual

/-- The number of a text of digits. -/
def digitsValue (cs : List Char) : Option Int :=
  if cs ≠ [] ∧ cs.all Char.isDigit then some (Nat.ofDigitChars 10 cs 0) else none

/-- `strconv.Atoi` of a number that fits into an `int`. -/
def atoi (s : String) : Option Int :=
  match s.toList with
  | '-' :: cs => (digitsValue cs).map fun n => -n
  | '+' :: cs => digitsValue cs
  | cs => digitsValue cs

/-- `network`, without what only Docker reads. -/
structure Network where
  subnet : String
  ipPool : Finset Nat
  /-- The containers that `Close` disconnects. -/
  connected : List Nat

/-- The numbers of a new pool. -/
def poolNumbers : Finset Nat := (Finset.range 255).filter fun i => 30 ≤ i

/-- `NewNetwork` with the first three parts of an address. -/
def newNetwork (sub : String) : Network where
  subnet := sub ++ ".0/24"
  ipPool := poolNumbers
  connected := []

namespace Network

variable (n : Network)

/-- `FormatIP`. -/
def formatIP (num : Int) : String :=
  (GoStrings.dropLastBytes n.subnet 5).getD "" ++ ("." ++ toString num)

/-- `getRandomIP`. `pick` is the first key of the loop over the pool. -/
def getRandomIP (pick : Nat) : Option (Network × Nat) :=
  if n.ipPool = ∅ then some (n, 0)
  else if pick ∈ n.ipPool then some ({ n with ipPool := n.ipPool.erase pick }, pick)
  else none

/-- `releaseIP`. -/
def releaseIP (ip : String) : Network :=
  match (GoStrings.split ip '.').getLast?.bind atoi with
  | some num => { n with ipPool := insert (num % 2 ^ 64).toNat n.ipPool }
  | none => n

/-- `Connect` of a container: the network, the number and whether there was an error. `docker`
is true when Docker accepts the connection. -/
def connect (c : Nat) (ip : Option Int) (pick : Nat) (docker : Bool) :
    Option (Network × Int × Bool) :=
  match ip with
  | some lastDigit =>
    if docker then some ({ n with connected := n.connected ++ [c] }, lastDigit, true)
    else some (n, lastDigit, false)
  | none =>
    (n.getRandomIP pick).map fun (n, lastDigit) =>
      if docker then ({ n with connected := n.connected ++ [c] }, lastDigit, true)
      else (n.releaseIP (n.formatIP lastDigit), lastDigit, false)

end Network

/-- The addresses of a new network. -/
theorem formatIP_newNetwork (sub : String) (num : Int) :
    (newNetwork sub).formatIP num = sub ++ ("." ++ toString num) := by
  have hsub : GoStrings.dropLastBytes (sub ++ ".0/24") 5 = some sub :=
    GoStrings.dropLastBytes_append sub ".0/24"
  show (GoStrings.dropLastBytes (sub ++ ".0/24") 5).getD "" ++ _ = _
  rw [hsub]
  rfl

/-! ### The servers of a lab -/

/-- `dns.PreferedIP`. -/
def preferedIP : Nat := 3

/-- The number of the DHCP server. -/
def dhcpIP : Nat := 2

/-- The ends of the range in the file of `dhcp.New`. -/
def minRange : Nat := 4

@[inherit_doc minRange]
def maxRange : Nat := 254

/-- The DHCP server can hand out the address with this number. -/
def HandedOut (num : Int) : Prop := minRange ≤ num ∧ num ≤ maxRange

instance (num : Int) : Decidable (HandedOut num) := inferInstanceAs (Decidable (_ ∧ _))

/-! ### Runs of calls -/

/-- A `Connect` that returned. -/
structure ConnectCall where
  /-- There was a number in the pool. -/
  left : Bool
  ok : Bool
  deriving DecidableEq

/-- A lab network with its containers. -/
structure LabNetwork where
  net : Network
  /-- The containers that were connected with a number that `Connect` chose, and this number. A
  container that is closed stays in the list: the network is not told, and a container created in
  its place connects at the number it had. -/
  chosen : List (Nat × Int)
  /-- The calls without an address. -/
  calls : List ConnectCall

/-- A step of the lab. -/
inductive NetworkAction where
  | connect (c : Nat) (ip : Option Int) (pick : Nat) (docker : Bool)

/-- The network of a new lab. -/
def LabNetwork.new (sub : String) : LabNetwork :=
  { net := newNetwork sub, chosen := [], calls := [] }

/-- The calls of `Connect` on one network, with an address or without one. -/
def labNetwork : Machine LabNetwork NetworkAction where
  init s := ∃ sub, s = .new sub
  step s
    | .connect c ip pick docker =>
      (s.net.connect c ip pick docker).map fun (net, lastDigit, ok) =>
        match ip with
        | some _ => { s with net := net }
        | none =>
          { net := net
            chosen := if ok then (c, lastDigit) :: s.chosen else s.chosen
            calls := s.calls ++ [{ left := decide (∃ i ∈ s.net.ipPool, 30 ≤ i), ok := ok }] }

namespace LabNetwork

/-- The numbers that `Connect` chose for the containers are different ones of 30 to 254, none of
them is the number of a server, and `Connect` returned an error whenever no number was left. -/
structure Numbered (s : LabNetwork) : Prop where
  range : ∀ conn ∈ s.chosen, 30 ≤ conn.2 ∧ conn.2 ≤ 254
  distinct : (s.chosen.map Prod.snd).Nodup
  servers : ∀ conn ∈ s.chosen, conn.2 ≠ dhcpIP ∧ conn.2 ≠ preferedIP
  exhausted : ∀ call ∈ s.calls, call.left = false → call.ok = false

/-- The numbers are chosen well, and the DHCP server hands out none of them. -/
structure Addressed (s : LabNetwork) : Prop where
  numbered : s.Numbered
  dhcp : ∀ conn ∈ s.chosen, ¬ HandedOut conn.2

/-- When Docker accepts a connection without an address, a number was left in the pool. -/
def FindsNumber (s : LabNetwork) : NetworkAction → Prop
  | .connect _ none _ docker => docker = true → ∃ i ∈ s.net.ipPool, 30 ≤ i
  | _ => True

/-- Docker accepts no connection without an address. -/
def NeverChooses (_ : LabNetwork) : NetworkAction → Prop
  | .connect _ none _ docker => docker = false
  | _ => True

variable {s s' : LabNetwork}

/-! ### The text of an address -/

/-- A printed number is read back. -/
theorem atoi_repr (n : Nat) : atoi n.repr = some (n : Int) := by
  have hdigits : n.repr.toList = Nat.toDigits 10 n := Nat.toList_repr
  have hall : (Nat.toDigits 10 n).all Char.isDigit = true :=
    List.all_eq_true.mpr fun c hc => Nat.isDigit_of_mem_toDigits (by decide) (by decide) hc
  have hvalue : Nat.ofDigitChars 10 (Nat.toDigits 10 n) 0 = n := Nat.ofDigitChars_ten_toDigits
  unfold atoi
  rw [hdigits]
  split
  · next cs heq =>
    rw [heq] at hall
    simp at hall
  · next cs heq =>
    rw [heq] at hall
    simp at hall
  · rw [digitsValue, if_pos ⟨Nat.toDigits_ne_nil, hall⟩, hvalue]

/-- A number comes back from the text of its address. -/
theorem releaseIP_formatIP (n : Network) {num : Nat} (hnum : num < 255) :
    n.releaseIP (n.formatIP num) = { n with ipPool := insert num n.ipPool } := by
  have htext : toString (num : Int) = num.repr := rfl
  have hdot : '.' ∉ num.repr.toList := GoStrings.notMem_repr rfl num
  have hsplit : GoStrings.split num.repr '.' = [num.repr] := GoStrings.split_of_notMem hdot
  have hlast : (GoStrings.split (n.formatIP num) '.').getLast? = some num.repr := by
    show (GoStrings.split ((GoStrings.dropLastBytes n.subnet 5).getD "" ++
      (String.singleton '.' ++ toString (num : Int))) '.').getLast? = _
    rw [htext, GoStrings.split_append, hsplit, List.getLast?_append]
    rfl
  have hmod : ((num : Int) % 2 ^ 64).toNat = num := by omega
  rw [Network.releaseIP, hlast, Option.bind_some, atoi_repr]
  simp only [hmod]

/-! ### The pool and the chosen numbers -/

/-- The pool has numbers of 30 to 254, or 0 alone after it was empty. The chosen numbers are
different, and the pool has none of them. -/
structure Inv (s : LabNetwork) : Prop where
  pool : s.net.ipPool = {0} ∨ s.net.ipPool ⊆ poolNumbers
  range : ∀ conn ∈ s.chosen, 30 ≤ conn.2 ∧ conn.2 ≤ 254
  distinct : (s.chosen.map Prod.snd).Nodup
  taken : ∀ conn ∈ s.chosen, ∀ i ∈ s.net.ipPool, conn.2 ≠ i
  exhausted : ∀ call ∈ s.calls, call.left = false → call.ok = false

/-- A new network has no address in use. -/
theorem inv_new (sub : String) : Inv (.new sub) where
  pool := .inr (Finset.Subset.refl _)
  range := fun _ h => absurd h List.not_mem_nil
  distinct := List.nodup_nil
  taken := fun _ h => absurd h List.not_mem_nil
  exhausted := fun _ h => absurd h List.not_mem_nil

/-- The numbers of the pool. -/
theorem mem_poolNumbers {i : Nat} : i ∈ poolNumbers ↔ 30 ≤ i ∧ i ≤ 254 := by
  simp only [poolNumbers, Finset.mem_filter, Finset.mem_range]
  omega

/-- The invariant gives distinct numbers in the range. -/
theorem Inv.numbered (hinv : Inv s) : s.Numbered where
  range := hinv.range
  distinct := hinv.distinct
  servers := fun conn hconn => by
    have hrange := (hinv.range conn hconn).1
    have hdhcp : (dhcpIP : Int) = 2 := rfl
    have hdns : (preferedIP : Int) = 3 := rfl
    rw [hdhcp, hdns]
    omega
  exhausted := hinv.exhausted

/-- A number of the pool that is not 0 lies in its range. -/
theorem Inv.mem_pool (hinv : Inv s) {i : Nat} (hi : i ∈ s.net.ipPool) :
    i = 0 ∨ 30 ≤ i ∧ i ≤ 254 := by
  rcases hinv.pool with hzero | hsub
  · rw [hzero, Finset.mem_singleton] at hi
    exact .inl hi
  · exact .inr (mem_poolNumbers.mp (hsub hi))

/-- The pool has a number of its range just when it is neither empty nor 0 alone. -/
theorem Inv.left_iff (hinv : Inv s) :
    (∃ i ∈ s.net.ipPool, 30 ≤ i) ↔ s.net.ipPool ≠ ∅ ∧ s.net.ipPool ≠ {0} := by
  constructor
  · rintro ⟨i, hi, hrange⟩
    refine ⟨Finset.ne_empty_of_mem hi, fun hzero => ?_⟩
    rw [hzero, Finset.mem_singleton] at hi
    omega
  · rintro ⟨hne, hzero⟩
    obtain ⟨i, hi⟩ := Finset.nonempty_iff_ne_empty.mpr hne
    have hsub := hinv.pool.resolve_left hzero
    exact ⟨i, hi, (mem_poolNumbers.mp (hsub hi)).1⟩

/-- The number that a call without an address gets, and the pool without it. -/
theorem Inv.getRandomIP (hinv : Inv s) {pick lastDigit : Nat} {net : Network}
    (h : s.net.getRandomIP pick = some (net, lastDigit)) :
    net = { s.net with ipPool := s.net.ipPool.erase lastDigit } ∧ lastDigit < 255 ∧
      ((∃ i ∈ s.net.ipPool, 30 ≤ i) ∧ lastDigit ∈ s.net.ipPool ∧ 30 ≤ lastDigit ∨
        ¬ (∃ i ∈ s.net.ipPool, 30 ≤ i) ∧ lastDigit = 0 ∧
          insert 0 (s.net.ipPool.erase 0) = {0}) := by
  rw [Network.getRandomIP] at h
  split at h
  · next hempty =>
    cases h
    have hleft : ¬ ∃ i ∈ s.net.ipPool, 30 ≤ i := fun h => (hinv.left_iff.mp h).1 hempty
    refine ⟨?_, by decide, .inr ⟨hleft, rfl, ?_⟩⟩
    · rw [hempty, Finset.erase_empty, ← hempty]
    · rw [hempty, Finset.erase_empty]
      rfl
  · next hne =>
    split at h
    · next hpick =>
      cases h
      have hrange := hinv.mem_pool hpick
      refine ⟨rfl, by omega, ?_⟩
      rcases hrange with hzero | hrange
      · -- The pool has 0 from a call that Docker refused.
        have hpool : s.net.ipPool = {0} := by
          refine hinv.pool.resolve_right fun hsub => ?_
          have hmem := mem_poolNumbers.mp (hsub hpick)
          omega
        refine .inr ⟨fun hleft => (hinv.left_iff.mp hleft).2 hpool, hzero, ?_⟩
        rw [hpool]
        decide
      · exact .inl ⟨⟨_, hpick, hrange.1⟩, hpick, hrange.1⟩
    · cases h

/-- Docker refused the connection, and the number is in the pool again. -/
theorem Inv.refused (hinv : Inv s) {number : Nat}
    (hnumber : number ∈ s.net.ipPool ∨
      number = 0 ∧ insert 0 (s.net.ipPool.erase 0) = {0}) :
    Inv { net := { s.net with ipPool := insert number (s.net.ipPool.erase number) }
          chosen := s.chosen
          calls := s.calls ++ [{ left := decide (∃ i ∈ s.net.ipPool, 30 ≤ i), ok := false }] } := by
  have hcalls : ∀ call ∈ s.calls ++
      [{ left := decide (∃ i ∈ s.net.ipPool, 30 ≤ i), ok := false }],
        call.left = false → call.ok = false := by
    intro call hcall hleft
    rcases List.mem_append.mp hcall with hold | hnew
    · exact hinv.exhausted call hold hleft
    · rw [List.mem_singleton.mp hnew]
  rcases hnumber with hmem | ⟨rfl, hpool⟩
  · have hpool : insert number (s.net.ipPool.erase number) = s.net.ipPool :=
      Finset.insert_erase hmem
    refine ⟨?_, hinv.range, hinv.distinct, fun conn hconn i hi => ?_, hcalls⟩
    · show insert number (s.net.ipPool.erase number) = {0} ∨ _
      rw [hpool]
      exact hinv.pool
    · have hin : i ∈ s.net.ipPool := hpool ▸ hi
      exact hinv.taken conn hconn i hin
  · refine ⟨.inl hpool, hinv.range, hinv.distinct, fun conn hconn i hi => ?_, hcalls⟩
    have hzero : i = 0 := by
      rw [hpool] at hi
      exact Finset.mem_singleton.mp hi
    have hrange := (hinv.range conn hconn).1
    rw [hzero]
    omega

/-- A container is connected at a number of the pool. -/
theorem Inv.chosen (hinv : Inv s) {number : Nat} (hleft : ∃ i ∈ s.net.ipPool, 30 ≤ i)
    (hmem : number ∈ s.net.ipPool) (hlow : 30 ≤ number) (c : Nat) (connected : List Nat) :
    Inv { net := { s.net with ipPool := s.net.ipPool.erase number, connected := connected }
          chosen := (c, (number : Int)) :: s.chosen
          calls := s.calls ++ [{ left := decide (∃ i ∈ s.net.ipPool, 30 ≤ i), ok := true }] } := by
  have hrange := (hinv.mem_pool hmem).resolve_left (by omega)
  refine ⟨?_, ?_, ?_, ?_, ?_⟩
  · -- The pool was not 0 alone, and what is left of it lies in its range.
    refine .inr ((Finset.erase_subset _ _).trans ?_)
    exact hinv.pool.resolve_left (hinv.left_iff.mp hleft).2
  · intro conn hconn
    rcases List.mem_cons.mp hconn with rfl | hold
    · show (30 : Int) ≤ number ∧ (number : Int) ≤ 254
      omega
    · exact hinv.range conn hold
  · refine List.nodup_cons.mpr ⟨fun hin => ?_, hinv.distinct⟩
    obtain ⟨conn, hconn, heq⟩ := List.mem_map.mp hin
    exact hinv.taken conn hconn number hmem heq
  · intro conn hconn i hi
    obtain ⟨hne, hi⟩ := Finset.mem_erase.mp hi
    rcases List.mem_cons.mp hconn with rfl | hold
    · show (number : Int) ≠ i
      omega
    · exact hinv.taken conn hold i hi
  · intro call hcall hcallLeft
    rcases List.mem_append.mp hcall with hold | hnew
    · exact hinv.exhausted call hold hcallLeft
    · rw [List.mem_singleton.mp hnew, decide_eq_true hleft] at hcallLeft
      cases hcallLeft

/-- A step that ends in the invariant or breaks the property: one lemma for both directions. -/
theorem Inv.step_iff {a : NetworkAction} (hinv : Inv s) (h : labNetwork.step s a = some s') :
    (FindsNumber s a → Inv s') ∧ (¬ FindsNumber s a → ¬ s'.Numbered) := by
  cases a with
  | connect c ip pick docker =>
    obtain ⟨⟨net, lastDigit, ok⟩, hconnect, hs'⟩ := Option.map_eq_some_iff.mp h
    cases ip with
    | some num =>
      -- A fixed address does not touch the pool.
      cases hs'
      refine ⟨fun _ => ?_, fun hnot => absurd trivial hnot⟩
      have hpool : net.ipPool = s.net.ipPool := by
        rw [Network.connect] at hconnect
        cases docker <;> cases hconnect <;> rfl
      exact ⟨by rw [hpool]; exact hinv.pool, hinv.range, hinv.distinct,
        by rw [hpool]; exact hinv.taken, hinv.exhausted⟩
    | none =>
      obtain ⟨⟨net₁, number⟩, hrandom, hend⟩ := Option.map_eq_some_iff.mp hconnect
      obtain ⟨rfl, hlt, hnumber⟩ := hinv.getRandomIP hrandom
      cases docker with
      | false =>
        -- Docker has refused the container, and the number goes back to the pool.
        refine ⟨fun _ => ?_, fun hnot => absurd (fun heq => nomatch heq) hnot⟩
        simp only [Bool.false_eq_true, if_false, releaseIP_formatIP _ hlt] at hend
        cases hend
        cases hs'
        exact hinv.refused (hnumber.imp (fun h => h.2.1) fun h => h.2)
      | true =>
        simp only [if_true] at hend
        cases hend
        cases hs'
        -- The number is one of the pool, or the 0 of a pool without numbers.
        rcases hnumber with ⟨hleft, hmem, hlow⟩ | ⟨hnone, rfl, -⟩
        · exact ⟨fun _ => hinv.chosen hleft hmem hlow c _,
            fun hnot => absurd (fun _ => hleft) hnot⟩
        · -- The container is connected at the number 0.
          refine ⟨fun hok => absurd (hok rfl) hnone, fun _ hnumbered => ?_⟩
          have hzero : (30 : Int) ≤ ((0 : Nat) : Int) :=
            (hnumbered.range (c, (0 : Nat)) List.mem_cons_self).1
          omega

/-- Docker accepts a connection without an address: then a number in the range of the DHCP server
is chosen, or 0. -/
theorem Inv.not_addressed {a : NetworkAction} (hinv : Inv s) (hnot : ¬ NeverChooses s a)
    (h : labNetwork.step s a = some s') : ¬ s'.Addressed := by
  intro haddressed
  by_cases hfinds : FindsNumber s a
  swap
  · exact (hinv.step_iff h).2 hfinds haddressed.numbered
  have hinv' := (hinv.step_iff h).1 hfinds
  cases a with
  | connect c ip pick docker =>
    cases ip with
    | some num => exact hnot trivial
    | none =>
      cases docker with
      | false => exact hnot rfl
      | true =>
        obtain ⟨⟨net, lastDigit, ok⟩, hconnect, hs'⟩ := Option.map_eq_some_iff.mp h
        obtain ⟨⟨net₁, number⟩, -, hend⟩ := Option.map_eq_some_iff.mp hconnect
        simp only [if_true] at hend
        cases hend
        cases hs'
        have hrange := hinv'.range (c, (number : Int)) List.mem_cons_self
        have hmin : (minRange : Int) = 4 := rfl
        have hmax : (maxRange : Int) = 254 := rfl
        refine haddressed.dhcp (c, (number : Int)) List.mem_cons_self ?_
        show (minRange : Int) ≤ number ∧ (number : Int) ≤ maxRange
        rw [hmin, hmax]
        omega

/-- A step without a chosen number. -/
theorem Inv.addressed {a : NetworkAction} (hinv : Inv s) (hchosen : s.chosen = [])
    (hok : NeverChooses s a) (h : labNetwork.step s a = some s') : Inv s' ∧ s'.chosen = [] := by
  have hfinds : FindsNumber s a := by
    cases a with
    | connect c ip pick docker =>
      cases ip with
      | some num => trivial
      | none =>
        intro htrue
        rw [show docker = false from hok] at htrue
        cases htrue
  refine ⟨(hinv.step_iff h).1 hfinds, ?_⟩
  cases a with
  | connect c ip pick docker =>
    obtain ⟨⟨net, lastDigit, ok⟩, hconnect, hs'⟩ := Option.map_eq_some_iff.mp h
    cases ip with
    | some num =>
      cases hs'
      exact hchosen
    | none =>
      obtain rfl : docker = false := hok
      obtain ⟨⟨net₁, number⟩, -, hend⟩ := Option.map_eq_some_iff.mp hconnect
      cases hend
      cases hs'
      exact hchosen

/-- In each run on a new network: the numbers are chosen well if and only if a number was left
whenever Docker accepted a connection without an address, and they keep clear of the DHCP server
if and only if Docker accepted no such connection. -/
theorem labNetwork_addressed_iff (sub : String) (as : List NetworkAction) :
    (labNetwork.AllStates Numbered (.new sub) as ↔
      labNetwork.AllSteps FindsNumber (.new sub) as) ∧
    (labNetwork.AllStates Addressed (.new sub) as ↔
      labNetwork.AllSteps NeverChooses (.new sub) as) := by
  constructor
  · exact Machine.allStates_iff_allSteps (I := Inv) (A := fun _ _ => True)
      (fun _ hinv => hinv.numbered)
      (fun _ _ _ hinv _ hok hs => (hinv.step_iff hs).1 hok)
      (fun _ _ _ hinv _ hnot hs => (hinv.step_iff hs).2 hnot)
      (inv_new sub) Machine.allSteps_true
  · exact Machine.allStates_iff_allSteps (I := fun s => Inv s ∧ s.chosen = [])
      (A := fun _ _ => True)
      (fun s h => ⟨h.1.numbered, fun conn hconn => by rw [h.2] at hconn; cases hconn⟩)
      (fun _ _ _ h _ hok hs => h.1.addressed h.2 hok hs)
      (fun _ _ _ h _ hnot hs => h.1.not_addressed hnot hs)
      ⟨inv_new sub, rfl⟩ Machine.allSteps_true

/-- The first container of a lab gets a number that the DHCP server hands out as well. -/
theorem labNetwork_not_addressed :
    ¬ ∀ (sub : String) (as : List NetworkAction),
      labNetwork.AllStates Addressed (.new sub) as := by
  intro h
  have hall := h "77.1.2" [.connect 0 none 30 true]
  obtain ⟨s, hchosen, haddressed⟩ := hall.of_run chosen [(0, 30)] (by decide)
  exact haddressed.dhcp (0, 30) (hchosen ▸ List.mem_cons_self) (by decide)

end LabNetwork

end Haaukins.Virtual
