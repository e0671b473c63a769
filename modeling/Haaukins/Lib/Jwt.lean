import Mathlib.Algebra.Group.Nat.Defs
import Mathlib.Logic.Function.Basic
import Mathlib.Data.Nat.Log

/-!
# `Haaukins.Lib.Jwt`: signed tokens

A `Jwt γ` signs claims of the type `γ` under a key and reads tokens back. What it reads is a
`MapClaims`, a map from names to the values that JSON has.

The library is a parameter of what uses it. `Jwt.Inverts decoded` is what is assumed of it: a
token reads back, under the key that signed it, as its claims after a round trip through JSON.
Then a token determines its claims, as far as JSON keeps them (`decoded_eq_of_signedString_eq`).

JSON numbers are read as 64-bit floats. `float64` rounds a natural number to the nearest one.
-/

set_option autoImplicit false

/-- A value of a claim. A number is given by its whole part, `int64(x)`. -/
inductive ClaimValue where
  | string (s : String)
  | bool (b : Bool)
  | number (whole : Int)
  | other
  deriving DecidableEq

/-- The claims of a token, as `Parse` reads them. -/
abbrev MapClaims := String → Option ClaimValue

/-- The nearest float with a significand of 53 bits, ties to even. -/
def float64 (n : Nat) : Nat :=
  if n < 2 ^ 53 then n
  else
    let shift := n.log2 - 52
    let q := n / 2 ^ shift
    let r := n % 2 ^ shift
    let half := 2 ^ (shift - 1)
    if r < half ∨ r = half ∧ q % 2 = 0 then q * 2 ^ shift else (q + 1) * 2 ^ shift

/-- A float has each number below `2 ^ 53`. -/
theorem float64_eq {n : Nat} (h : n < 2 ^ 53) : float64 n = n := if_pos h

/-- The first number that is not a float goes to its even neighbour. -/
example : float64 (2 ^ 53 + 1) = 2 ^ 53 ∧ float64 (2 ^ 53 + 3) = 2 ^ 53 + 4 := by decide

/-- A library for tokens: `SignedString`, and `Parse` with the test of the signing method. The
first argument of both is the key. -/
structure Jwt (γ : Type*) where
  signedString : String → γ → String
  parse : String → String → Except String MapClaims

namespace Jwt

variable {γ : Type*}

/-- `Parse` inverts `SignedString`, and a signed token is not the empty text. -/
structure Inverts (jwt : Jwt γ) (decoded : γ → MapClaims) : Prop where
  parse_signedString : ∀ key c, jwt.parse key (jwt.signedString key c) = .ok (decoded c)
  signedString_ne : ∀ key c, jwt.signedString key c ≠ ""

/-- Tokens that are the same under one key read back as the same claims. -/
theorem Inverts.decoded_eq_of_signedString_eq {jwt : Jwt γ} {decoded : γ → MapClaims}
    (h : jwt.Inverts decoded) {key : String} {c c' : γ}
    (heq : jwt.signedString key c = jwt.signedString key c') : decoded c = decoded c' := by
  have hread := h.parse_signedString key c
  rw [heq, h.parse_signedString key c'] at hread
  exact (Except.ok.inj hread).symm

end Jwt
