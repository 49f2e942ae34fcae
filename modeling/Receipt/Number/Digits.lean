/-!
# The value of digits

A number is computed from its digits by joining neighbours: two digits of a base are one digit of
its square, and so on until one digit is left.  Numbers of many digits are read this way without a
long row of multiplications by a small one.  Main statement: the result is the usual sum of digits
times powers of the base.
-/

set_option autoImplicit false

namespace Receipt.Number

/-- The digits in base `base * base` of a number whose digits in base `base` are given, behind those
already joined.  Digits come last one first, and those already joined first one first. -/
def joinPairs (base : Nat) (done : List Nat) : List Nat → List Nat
  | low :: high :: rest => joinPairs base ((low + base * high) :: done) rest
  | rest => done.reverse ++ rest

/-- Neighbours are joined two by two, a last digit without one being kept. -/
theorem length_joinPairs (base : Nat) (done digits : List Nat) :
    (joinPairs base done digits).length = done.length + (digits.length + 1) / 2 := by
  fun_induction joinPairs base done digits with
  | case1 done low high rest ih =>
    rw [ih]
    simp only [List.length_cons]
    omega
  | case2 done rest short =>
    match rest, short with
    | [], _ => simp
    | [_], _ => simp
    | low :: high :: rest, short => exact absurd rfl (short low high rest)

/-- The number whose digits in base `base` are given, last one first. -/
def ofDigits (base : Nat) (digits : List Nat) : Nat :=
  if 1 < digits.length then ofDigits (base * base) (joinPairs base [] digits)
  else digits.headD 0
  termination_by digits.length
  decreasing_by
    rw [length_joinPairs]
    simp only [List.length_nil]
    omega

/-- The sum of digits times powers of the base, last digit first. -/
def digitSum (base : Nat) (digits : List Nat) : Nat :=
  digits.foldr (fun digit rest => digit + base * rest) 0

/-- Joined digits in the square of the base stand for the same number, behind those already joined.
-/
theorem digitSum_joinPairs (base : Nat) (done digits : List Nat) :
    digitSum (base * base) (joinPairs base done digits) =
      done.reverse.foldr (fun digit rest => digit + base * base * rest) (digitSum base digits) := by
  fun_induction joinPairs base done digits with
  | case1 done low high rest ih =>
    rw [ih, List.reverse_cons, List.foldr_append]
    simp only [digitSum, List.foldr_cons, List.foldr_nil, Nat.mul_add, Nat.mul_assoc, Nat.add_assoc]
  | case2 done rest short =>
    match rest, short with
    | [], _ => simp [digitSum]
    | [_], _ => simp [digitSum]
    | low :: high :: rest, short => exact absurd rfl (short low high rest)

/-- Joining neighbours does not change the number. -/
theorem ofDigits_eq_digitSum (base : Nat) (digits : List Nat) :
    ofDigits base digits = digitSum base digits := by
  fun_induction ofDigits base digits with
  | case1 base digits _ ih => rw [ih, digitSum_joinPairs]; rfl
  | case2 base digits short =>
    match digits, short with
    | [], _ => rfl
    | [_], _ => simp [digitSum]
    | _ :: _ :: _, short => simp at short

end Receipt.Number
