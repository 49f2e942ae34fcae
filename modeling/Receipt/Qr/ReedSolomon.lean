/-!
# Error correction codewords

Codewords are elements of the field with 256 elements whose reduction polynomial is
x⁸ + x⁴ + x³ + x² + 1.  The error correction codewords of a block are the remainder of its data,
moved up by their number, on division by the product of the first linear factors.
-/

set_option autoImplicit false

namespace Receipt.Qr

namespace Field

/-- A field element times the generator. -/
def double (a : Nat) : Nat :=
  if a < 128 then 2 * a else (2 * a) ^^^ 0x11d

/-- The product of two field elements; `bits` bounds the bits of the second one. -/
def mulBits (bits a b : Nat) : Nat :=
  match bits with
  | 0 => 0
  | bits + 1 =>
    let rest := mulBits bits (double a) (b / 2)
    if b % 2 = 1 then a ^^^ rest else rest

/-- The product of two field elements. -/
def mul (a b : Nat) : Nat :=
  mulBits 8 a b

end Field

namespace Correction

/-- The product of a monic polynomial and a linear factor, without leading coefficients and with
the highest power first. -/
def timesLinear (root : Nat) (polynomial : List Nat) : List Nat :=
  let shifted := polynomial ++ [0]
  let scaled := (1 :: polynomial).map (Field.mul root)
  List.zipWith (· ^^^ ·) shifted scaled

/-- The product of the first `degree` linear factors without its leading coefficient. -/
def divisor (degree : Nat) : List Nat :=
  ((List.range degree).foldl
    (fun state _ => (timesLinear state.2 state.1, Field.double state.2)) (([] : List Nat), 1)).1

/-- One step of the division: the leading remainder and the next codeword decide how much of the
divisor is taken away. -/
def reduce (divisor remainder : List Nat) (codeword : Nat) : List Nat :=
  match remainder with
  | [] => []
  | lead :: rest =>
    let factor := codeword ^^^ lead
    List.zipWith (fun r d => r ^^^ Field.mul d factor) (rest ++ [0]) divisor

/-- The error correction codewords of a block. -/
def ofBlock (divisor : List Nat) (block : List Nat) : List Nat :=
  block.foldl (reduce divisor) (List.replicate divisor.length 0)

end Correction

end Receipt.Qr
