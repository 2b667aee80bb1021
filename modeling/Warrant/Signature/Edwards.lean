import Warrant.Bytes

namespace Warrant.Signature.Edwards

/-! The curve `y² - x² = 1 + d x² y²` over the numbers below a prime. -/

/-- The weight of the highest bit of 32 bytes. -/
def highBit : Nat := Nat.pow 2 255

/-- The prime that coordinates are reduced by. -/
def prime : Nat := highBit - 19

def mul (a b : Nat) : Nat := a * b % prime

def add (a b : Nat) : Nat := (a + b) % prime

/-- The difference of two numbers, the second of which is below the prime. -/
def sub (a b : Nat) : Nat := (a + (prime - b)) % prime

/-- A power whose exponent has at most `bits` bits. -/
def power (base : Nat) : Nat → Nat → Nat
  | 0, _ => 1
  | bits + 1, exponent =>
    let root := power base bits (exponent / 2)
    if exponent % 2 = 1 then mul (mul root root) base else mul root root

def inverse (a : Nat) : Nat := power a 255 (prime - 2)

/-- The number `d` of the curve, which is no square. -/
def curve : Nat :=
  37095705934669439343138083508754565189542113879843219016388785533085940283555

/-- A square root of minus one. -/
def imaginary : Nat :=
  19681161376707505956807079304988542015446066515923890162744021073123829784752

/-- The point `(x / z, y / z)` together with `t = x y / z`. -/
structure Point where
  x : Nat
  y : Nat
  z : Nat
  t : Nat

namespace Point

def zero : Point := ⟨0, 1, 1, 0⟩

def plus (p q : Point) : Point :=
  let a := mul (sub p.y p.x) (sub q.y q.x)
  let b := mul (add p.y p.x) (add q.y q.x)
  let c := mul (mul (add p.t p.t) curve) q.t
  let d := mul (add p.z p.z) q.z
  let e := sub b a
  let f := sub d c
  let g := add d c
  let h := add b a
  ⟨mul e f, mul g h, mul f g, mul e h⟩

def minus (p : Point) : Point := ⟨sub 0 p.x, p.y, p.z, sub 0 p.t⟩

/-- A multiple of a point by a number of at most `bits` bits. -/
def times (p : Point) : Nat → Nat → Point
  | 0, _ => zero
  | bits + 1, n =>
    let half := p.times bits (n / 2)
    if n % 2 = 1 then (half.plus half).plus p else half.plus half

/-- Whether eight times a point is zero. -/
def hasSmallOrder (p : Point) : Bool :=
  let q := p.times 4 8
  q.x == 0 && q.y == q.z

/-- The point with even `x` at a height, if there is one. -/
def atHeight? (y : Nat) : Option Point :=
  let u := sub (mul y y) 1
  let v := add (mul curve (mul y y)) 1
  let v3 := mul (mul v v) v
  let r := mul (mul u v3) (power (mul (mul u v3) (mul (mul v v) (mul v v))) 252 ((prime - 5) / 8))
  let square := mul v (mul r r)
  let root? :=
    if square = u then some r
    else if square = sub 0 u then some (mul r imaginary)
    else none
  root?.map fun root =>
    let x := if root % 2 = 1 then sub 0 root else root
    ⟨x, y, 1, mul x y⟩

/-- A point as 32 bytes: its height, and in the highest bit whether `x` is odd. -/
def encode (p : Point) : List UInt8 :=
  let i := inverse p.z
  Bytes.littleEndian 32 (mul p.y i + mul p.x i % 2 * highBit)

/-- The point that 32 bytes stand for. The height need not be reduced. -/
def decode? (bytes : List UInt8) : Option Point :=
  let n := Bytes.ofLittleEndian bytes
  (atHeight? (n % highBit % prime)).map fun p => if n / highBit = 0 then p else p.minus

theorem length_encode (p : Point) : p.encode.length = 32 :=
  Bytes.length_littleEndian 32 _

end Point

end Warrant.Signature.Edwards
