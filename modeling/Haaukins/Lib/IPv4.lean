import Haaukins.Lib.GoStrings

/-!
# `Haaukins.Lib.IPv4`: addresses and their texts

`dotted` joins numbers by dots. `split_dotted` takes them apart again, so different numbers have
different texts (`dotted_injective`). `IPv4.string` is the text of an address, and `IPv4.parts` the
texts of its octets.
-/

set_option autoImplicit false

/-- The decimal texts of the numbers, joined by dots. -/
def dotted (ns : List Nat) : String := (String.singleton '.').intercalate (ns.map Nat.repr)

/-- Two numbers with a dot between them. -/
theorem dotted_two (a b : Nat) : dotted [a, b] = a.repr ++ "." ++ b.repr := by
  rw [← String.toList_inj]
  simp [dotted]

/-- Three numbers with dots between them. -/
theorem dotted_three (a b c : Nat) :
    dotted [a, b, c] = a.repr ++ "." ++ b.repr ++ "." ++ c.repr := by
  rw [← String.toList_inj]
  simp [dotted]

/-- Splitting at the dots gives the numbers back. -/
theorem split_dotted {ns : List Nat} (hne : ns ≠ []) :
    GoStrings.split (dotted ns) '.' = ns.map Nat.repr := by
  refine GoStrings.split_intercalate (fun text htext => ?_) (by simpa using hne)
  obtain ⟨n, -, rfl⟩ := List.mem_map.mp htext
  exact GoStrings.notMem_repr (by decide) n

/-- The text determines the numbers. -/
theorem dotted_injective {ms ns : List Nat} (hms : ms ≠ []) (hns : ns ≠ [])
    (h : dotted ms = dotted ns) : ms = ns := by
  have hparts : ms.map Nat.repr = ns.map Nat.repr := by
    rw [← split_dotted hms, ← split_dotted hns, h]
  exact List.map_injective_iff.mpr (fun _ _ => Nat.repr_injective) hparts

/-- An IPv4 address. -/
structure IPv4 where
  first : UInt8
  second : UInt8
  third : UInt8
  fourth : UInt8
  deriving DecidableEq

namespace IPv4

/-- The octets as numbers. -/
def octets (a : IPv4) : List Nat :=
  [a.first.toNat, a.second.toNat, a.third.toNat, a.fourth.toNat]

/-- `net.IP.String`. -/
def string (a : IPv4) : String := dotted a.octets

/-- The text of the first two octets. -/
def firstTwo (a : IPv4) : String := dotted [a.first.toNat, a.second.toNat]

/-- The text of the first three octets. -/
def firstThree (a : IPv4) : String := dotted [a.first.toNat, a.second.toNat, a.third.toNat]

/-- The parts of the text between its dots. -/
def parts (a : IPv4) : String × String × String × String :=
  (a.first.toNat.repr, a.second.toNat.repr, a.third.toNat.repr, a.fourth.toNat.repr)

/-- Splitting an address gives its four parts. -/
theorem split_string (a : IPv4) :
    GoStrings.split a.string '.' = [a.parts.1, a.parts.2.1, a.parts.2.2.1, a.parts.2.2.2] :=
  split_dotted (by simp [octets])

/-- Two numbers are the first two parts of an address if and only if each is its own. -/
theorem firstTwo_eq_iff {addr : IPv4} {a b : Nat} :
    dotted [a, b] = addr.firstTwo ↔ a = addr.first.toNat ∧ b = addr.second.toNat := by
  constructor
  · intro h
    have hlist : [a, b] = [addr.first.toNat, addr.second.toNat] :=
      dotted_injective (by simp) (by simp) h
    simpa using hlist
  · rintro ⟨rfl, rfl⟩
    rfl

/-- A text of two octets is none of three. -/
theorem dotted_two_ne_firstThree (a b : Nat) (addr : IPv4) : dotted [a, b] ≠ addr.firstThree := by
  intro h
  have hlist : [a, b] = [addr.first.toNat, addr.second.toNat, addr.third.toNat] :=
    dotted_injective (by simp) (by simp) h
  simp at hlist

end IPv4
