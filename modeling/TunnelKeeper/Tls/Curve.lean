import TunnelKeeper.Tls.Digest

/-!
Public keys of private keys on elliptic curves: the multiple of a base point.

Points have three coordinates, so that only the last step divides.
-/

namespace TunnelKeeper.Tls

/-- `base ^ exponent` modulo `m`; `steps` bounds the number of bits of the exponent. -/
def powMod (m : Nat) : Nat → Nat → Nat → Nat
  | 0, _, _ => 1 % m
  | steps + 1, base, exponent =>
    let square := powMod m steps (base * base % m) (exponent / 2)
    if exponent % 2 = 0 then square else square * base % m

/-- The inverse modulo a prime. -/
def inverseMod (p a : Nat) : Nat := powMod p (p.log2 + 1) a (p - 2)

def subMod (p a b : Nat) : Nat := (a + p - b % p) % p

/-- The sum of as many copies of `point` as `n` says. -/
def multiple {P : Type} (add : P → P → P) (zero : P) : Nat → P → Nat → P
  | 0, _, _ => zero
  | bits + 1, point, n =>
    let rest := multiple add zero bits (add point point) (n / 2)
    if n % 2 = 0 then rest else add rest point

/-! ### Weierstrass curves -/

/-- A curve `y² = x³ - 3x + b` over a prime field, with a base point and its order. -/
structure Curve where
  p : Nat
  b : Nat
  order : Nat
  baseX : Nat
  baseY : Nat
  /-- The number of bytes of a coordinate. -/
  size : Nat

namespace Curve

def p256 : Curve where
  p := 0xffffffff00000001000000000000000000000000ffffffffffffffffffffffff
  b := 0x5ac635d8aa3a93e7b3ebbd55769886bc651d06b0cc53b0f63bce3c3e27d2604b
  order := 0xffffffff00000000ffffffffffffffffbce6faada7179e84f3b9cac2fc632551
  baseX := 0x6b17d1f2e12c4247f8bce6e563a440f277037d812deb33a0f4a13945d898c296
  baseY := 0x4fe342e2fe1a7f9b8ee7eb4a7c0f9e162bce33576b315ececbb6406837bf51f5
  size := 32

def p384 : Curve where
  p := 0xfffffffffffffffffffffffffffffffffffffffffffffffffffffffffffffffeffffffff0000000000000000ffffffff
  b := 0xb3312fa7e23ee7e4988e056be3f82d19181d9c6efe8141120314088f5013875ac656398d8a2ed19d2a85c8edd3ec2aef
  order := 0xffffffffffffffffffffffffffffffffffffffffffffffffc7634d81f4372ddf581a0db248b0a77aecec196accc52973
  baseX := 0xaa87ca22be8b05378eb1c71ef320ad746e1d3b628ba79b9859f741e082542a385502f25dbf55296c3a545e3872760ab7
  baseY := 0x3617de4a96262c6f5d9e98bf9292dc29f8f41dbd289a147ce9da3113b5f0b8c00a60b1ce1d7e819d7a431d7c90ea0e5f
  size := 48

/-- The point `(x / z², y / z³)`; there is none if `z` is zero. -/
structure Point where
  x : Nat
  y : Nat
  z : Nat

variable (c : Curve)

def double (a : Point) : Point :=
  let p := c.p
  let yy := a.y * a.y % p
  let s := 4 * a.x * yy % p
  let zz := a.z * a.z % p
  let m := 3 * (subMod p a.x zz) * (a.x + zz) % p
  let x := subMod p (m * m) (2 * s)
  ⟨x, subMod p (m * subMod p s x) (8 * yy * yy), 2 * a.y * a.z % p⟩

def add (a b : Point) : Point :=
  if a.z = 0 then b
  else if b.z = 0 then a
  else
    let p := c.p
    let za := a.z * a.z % p
    let zb := b.z * b.z % p
    let ua := a.x * zb % p
    let ub := b.x * za % p
    let sa := a.y * zb * b.z % p
    let sb := b.y * za * a.z % p
    if ua = ub then (if sa = sb then c.double a else ⟨1, 1, 0⟩)
    else
      let h := subMod p ub ua
      let r := subMod p sb sa
      let hh := h * h % p
      let hhh := h * hh % p
      let v := ua * hh % p
      let x := subMod p (subMod p (r * r) hhh) (2 * v)
      ⟨x, subMod p (r * subMod p v x) (sa * hhh), a.z * b.z * h % p⟩

/-- The public key of a private key: a mark and both coordinates of the point. -/
def publicKey (secret : Nat) : Bytes :=
  let point := multiple c.add ⟨1, 1, 0⟩ (8 * c.size) ⟨c.baseX, c.baseY, 1⟩ secret
  let inverse := inverseMod c.p point.z
  let square := inverse * inverse % c.p
  4 :: bytesOfNat c.size (point.x * square % c.p) ++
    bytesOfNat c.size (point.y * square * inverse % c.p)

end Curve

/-! ### The twisted Edwards curve -/

namespace Edwards

def p : Nat := Nat.pow 2 255 - 19

/-- The coefficient of the curve `-x² + y² = 1 + d x² y²`. -/
def d : Nat := 0x52036cee2b6ffe738cc740797779e89800700a4d4141d8ab75eb4dca135978a3

def baseX : Nat := 0x216936d3cd6e53fec0a4e231fdd6dc5c692cc7609525a7b2c9562d608f25d51a
def baseY : Nat := 0x6666666666666666666666666666666666666666666666666666666666666658

/-- The point `(x / z, y / z)`, with `t = x y / z`. -/
structure Point where
  x : Nat
  y : Nat
  z : Nat
  t : Nat

def add (a b : Point) : Point :=
  let A := subMod p a.y a.x * subMod p b.y b.x % p
  let B := (a.y + a.x) * (b.y + b.x) % p
  let C := 2 * d * a.t * b.t % p
  let D := 2 * a.z * b.z % p
  let e := subMod p B A
  let f := subMod p D C
  let g := (D + C) % p
  let h := (B + A) % p
  ⟨e * f % p, g * h % p, f * g % p, e * h % p⟩

/-- The number of the first half of a digest, with its ends set. -/
def scalar (seed : Bytes) : Nat :=
  let half := natOfBytes ((Digest.sha512 seed).take 32).reverse
  Nat.pow 2 254 + half % Nat.pow 2 254 / 8 * 8

/-- The public key of a seed: the second coordinate, and the sign of the first. -/
def publicKey (seed : Bytes) : Bytes :=
  let base : Point := ⟨baseX, baseY, 1, baseX * baseY % p⟩
  let point := multiple add ⟨0, 1, 1, 0⟩ 256 base (scalar seed)
  let inverse := inverseMod p point.z
  let x := point.x * inverse % p
  (bytesOfNat 32 (point.y * inverse % p + x % 2 * Nat.pow 2 255)).reverse

end Edwards

end TunnelKeeper.Tls
