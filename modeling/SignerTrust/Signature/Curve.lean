import SignerTrust.Bytes
import SignerTrust.Signature.Modular

/-!
# Elliptic curves

Points of `y² = x³ + a x + b` over a prime field.  Sums and multiples are formed with a common
denominator `z`, so that a point stands for `(x / z², y / z³)`, or for the point at infinity when
`z` is zero.  Nine named curves are known here, of the many that a cryptographic library may offer.
-/

namespace SignerTrust

/-- A curve with a base point of prime order. -/
structure Curve where
  id : String
  p : Nat
  a : Nat
  b : Nat
  gx : Nat
  gy : Nat
  n : Nat
  deriving DecidableEq, Repr

namespace Curve

/-- The 192-bit curve over a general prime. -/
def p192 : Curve where
  id := "1.2.840.10045.3.1.1"
  p := 0xfffffffffffffffffffffffffffffffeffffffffffffffff
  a := 0xfffffffffffffffffffffffffffffffefffffffffffffffc
  b := 0x64210519e59c80e70fa7e9ab72243049feb8deecc146b9b1
  gx := 0x188da80eb03090f67cbf20eb43a18800f4ff0afd82ff1012
  gy := 0x7192b95ffc8da78631011ed6b24cdd573f977a11e794811
  n := 0xffffffffffffffffffffffff99def836146bc9b1b4d22831

/-- The 224-bit curve over a general prime. -/
def p224 : Curve where
  id := "1.3.132.0.33"
  p := 0xffffffffffffffffffffffffffffffff000000000000000000000001
  a := 0xfffffffffffffffffffffffffffffffefffffffffffffffffffffffe
  b := 0xb4050a850c04b3abf54132565044b0b7d7bfd8ba270b39432355ffb4
  gx := 0xb70e0cbd6bb4bf7f321390b94a03c1d356c21122343280d6115c1d21
  gy := 0xbd376388b5f723fb4c22dfe6cd4375a05a07476444d5819985007e34
  n := 0xffffffffffffffffffffffffffff16a2e0b8f03e13dd29455c5c2a3d

/-- The 256-bit curve over a general prime. -/
def p256 : Curve where
  id := "1.2.840.10045.3.1.7"
  p := 0xffffffff00000001000000000000000000000000ffffffffffffffffffffffff
  a := 0xffffffff00000001000000000000000000000000fffffffffffffffffffffffc
  b := 0x5ac635d8aa3a93e7b3ebbd55769886bc651d06b0cc53b0f63bce3c3e27d2604b
  gx := 0x6b17d1f2e12c4247f8bce6e563a440f277037d812deb33a0f4a13945d898c296
  gy := 0x4fe342e2fe1a7f9b8ee7eb4a7c0f9e162bce33576b315ececbb6406837bf51f5
  n := 0xffffffff00000000ffffffffffffffffbce6faada7179e84f3b9cac2fc632551

/-- The 384-bit curve over a general prime. -/
def p384 : Curve where
  id := "1.3.132.0.34"
  p := (0xffffffffffffffffffffffffffffffff <<< 256
      + 0xfffffffffffffffffffffffffffffffeffffffff0000000000000000ffffffff)
  a := (0xffffffffffffffffffffffffffffffff <<< 256
      + 0xfffffffffffffffffffffffffffffffeffffffff0000000000000000fffffffc)
  b := (0xb3312fa7e23ee7e4988e056be3f82d19 <<< 256
      + 0x181d9c6efe8141120314088f5013875ac656398d8a2ed19d2a85c8edd3ec2aef)
  gx := (0xaa87ca22be8b05378eb1c71ef320ad74 <<< 256
      + 0x6e1d3b628ba79b9859f741e082542a385502f25dbf55296c3a545e3872760ab7)
  gy := (0x3617de4a96262c6f5d9e98bf9292dc29 <<< 256
      + 0xf8f41dbd289a147ce9da3113b5f0b8c00a60b1ce1d7e819d7a431d7c90ea0e5f)
  n := (0xffffffffffffffffffffffffffffffff <<< 256
      + 0xffffffffffffffffc7634d81f4372ddf581a0db248b0a77aecec196accc52973)

/-- The 521-bit curve over a general prime. -/
def p521 : Curve where
  id := "1.3.132.0.35"
  p := (0x1ffffffffffffffffffffffffffffffffffffffffffffffffffffffffffffffffff <<< 256
      + 0xffffffffffffffffffffffffffffffffffffffffffffffffffffffffffffffff)
  a := (0x1ffffffffffffffffffffffffffffffffffffffffffffffffffffffffffffffffff <<< 256
      + 0xfffffffffffffffffffffffffffffffffffffffffffffffffffffffffffffffc)
  b := (0x51953eb9618e1c9a1f929a21a0b68540eea2da725b99b315f3b8b489918ef109e1 <<< 256
      + 0x56193951ec7e937b1652c0bd3bb1bf073573df883d2c34f1ef451fd46b503f00)
  gx := (0xc6858e06b70404e9cd9e3ecb662395b4429c648139053fb521f828af606b4d3dba <<< 256
      + 0xa14b5e77efe75928fe1dc127a2ffa8de3348b3c1856a429bf97e7e31c2e5bd66)
  gy := (0x11839296a789a3bc0045c8a5fb42c7d1bd998f54449579b446817afbd17273e662c <<< 256
      + 0x97ee72995ef42640c550b9013fad0761353c7086a272c24088be94769fd16650)
  n := (0x1fffffffffffffffffffffffffffffffffffffffffffffffffffffffffffffffffa <<< 256
      + 0x51868783bf2f966b7fcc0148f709a5d03bb5c9b8899c47aebb6fb71e91386409)

/-- The 256-bit curve with coefficients zero and seven. -/
def k256 : Curve where
  id := "1.3.132.0.10"
  p := 0xfffffffffffffffffffffffffffffffffffffffffffffffffffffffefffffc2f
  a := 0x0
  b := 0x7
  gx := 0x79be667ef9dcbbac55a06295ce870b07029bfcdb2dce28d959f2815b16f81798
  gy := 0x483ada7726a3c4655da4fbfc0e1108a8fd17b448a68554199c47d08ffb10d4b8
  n := 0xfffffffffffffffffffffffffffffffebaaedce6af48a03bbfd25e8cd0364141

/-- The 256-bit curve with random coefficients. -/
def brainpool256 : Curve where
  id := "1.3.36.3.3.2.8.1.1.7"
  p := 0xa9fb57dba1eea9bc3e660a909d838d726e3bf623d52620282013481d1f6e5377
  a := 0x7d5a0975fc2c3057eef67530417affe7fb8055c126dc5c6ce94a4b44f330b5d9
  b := 0x26dc5c6ce94a4b44f330b5d9bbd77cbf958416295cf7e1ce6bccdc18ff8c07b6
  gx := 0x8bd2aeb9cb7e57cb2c4b482ffc81b7afb9de27e1e3bd23c23a4453bd9ace3262
  gy := 0x547ef835c3dac4fd97f8461a14611dc9c27745132ded8e545c1d54c72f046997
  n := 0xa9fb57dba1eea9bc3e660a909d838d718c397aa3b561a6f7901e0e82974856a7

/-- The 384-bit curve with random coefficients. -/
def brainpool384 : Curve where
  id := "1.3.36.3.3.2.8.1.1.11"
  p := (0x8cb91e82a3386d280f5d6f7e50e641df <<< 256
      + 0x152f7109ed5456b412b1da197fb71123acd3a729901d1a71874700133107ec53)
  a := (0x7bc382c63d8c150c3c72080ace05afa0 <<< 256
      + 0xc2bea28e4fb22787139165efba91f90f8aa5814a503ad4eb04a8c7dd22ce2826)
  b := (0x4a8c7dd22ce28268b39b55416f0447c <<< 256
      + 0x2fb77de107dcd2a62e880ea53eeb62d57cb4390295dbc9943ab78696fa504c11)
  gx := (0x1d1c64f068cf45ffa2a63a81b7c13f6b <<< 256
      + 0x8847a3e77ef14fe3db7fcafe0cbd10e8e826e03436d646aaef87b2e247d4af1e)
  gy := (0x8abe1d7520f9c2a45cb1eb8e95cfd552 <<< 256
      + 0x62b70b29feec5864e19c054ff99129280e4646217791811142820341263c5315)
  n := (0x8cb91e82a3386d280f5d6f7e50e641df <<< 256
      + 0x152f7109ed5456b31f166e6cac0425a7cf3ab6af6b7fc3103b883202e9046565)

/-- The 512-bit curve with random coefficients. -/
def brainpool512 : Curve where
  id := "1.3.36.3.3.2.8.1.1.13"
  p := (0xaadd9db8dbe9c48b3fd4e6ae33c9fc07cb308db3b3c9d20ed6639cca70330871 <<< 256
      + 0x7d4d9b009bc66842aecda12ae6a380e62881ff2f2d82c68528aa6056583a48f3)
  a := (0x7830a3318b603b89e2327145ac234cc594cbdd8d3df91610a83441caea9863bc <<< 256
      + 0x2ded5d5aa8253aa10a2ef1c98b9ac8b57f1117a72bf2c7b9e7c1ac4d77fc94ca)
  b := (0x3df91610a83441caea9863bc2ded5d5aa8253aa10a2ef1c98b9ac8b57f1117a7 <<< 256
      + 0x2bf2c7b9e7c1ac4d77fc94cadc083e67984050b75ebae5dd2809bd638016f723)
  gx := (0x81aee4bdd82ed9645a21322e9c4c6a9385ed9f70b5d916c1b43b62eef4d0098e <<< 256
      + 0xff3b1f78e2d0d48d50d1687b93b97d5f7c6d5047406a5e688b352209bcb9f822)
  gy := (0x7dde385d566332ecc0eabfa9cf7822fdf209f70024a57b1aa000c55b881f8111 <<< 256
      + 0xb2dcde494a5f485e5bca4bd88a2763aed1ca2b2fa8f0540678cd1e0f3ad80892)
  n := (0xaadd9db8dbe9c48b3fd4e6ae33c9fc07cb308db3b3c9d20ed6639cca70330870 <<< 256
      + 0x553e5c414ca92619418661197fac10471db1d381085ddaddb58796829ca90069)

/-- The curves that are known. -/
def all : List Curve :=
  [p192, p224, p256, p384, p521, k256, brainpool256, brainpool384, brainpool512]

/-- The curve of a dotted identifier. -/
def ofId? (id : String) : Option Curve :=
  all.find? fun c => c.id = id

/-- How many bytes a coordinate takes. -/
def fieldWidth (c : Curve) : Nat :=
  (c.p.log2 + 8) / 8

/-- `x³ + a x + b`. -/
def rightSide (c : Curve) (x : Nat) : Nat :=
  ((x * x % c.p + c.a) * x + c.b) % c.p

/-- Whether the coordinates are those of a point. -/
def contains (c : Curve) (x y : Nat) : Bool :=
  x < c.p && y < c.p && y * y % c.p = c.rightSide x

/-- A point with a common denominator. -/
structure Point where
  x : Nat
  y : Nat
  z : Nat
  deriving DecidableEq, Repr

/-- The point at infinity. -/
def infinity : Point := ⟨1, 1, 0⟩

/-- The base point. -/
def base (c : Curve) : Point := ⟨c.gx, c.gy, 1⟩

/-- Twice a point. -/
def double (c : Curve) (q : Point) : Point :=
  if q.z = 0 ∨ q.y = 0 then infinity
  else
    let p := c.p
    let yy := q.y * q.y % p
    let s := 4 * q.x * yy % p
    let zz := q.z * q.z % p
    let m := (3 * q.x * q.x + c.a * (zz * zz % p)) % p
    let x := Modular.sub (m * m % p) (2 * s % p) p
    let y := Modular.sub (m * Modular.sub s x p % p) (8 * yy * yy % p) p
    ⟨x, y, 2 * q.y * q.z % p⟩

/-- The sum of two points. -/
def add (c : Curve) (q r : Point) : Point :=
  if q.z = 0 then r
  else if r.z = 0 then q
  else
    let p := c.p
    let qzz := q.z * q.z % p
    let rzz := r.z * r.z % p
    let u1 := q.x * rzz % p
    let u2 := r.x * qzz % p
    let s1 := q.y * (r.z * rzz % p) % p
    let s2 := r.y * (q.z * qzz % p) % p
    if u1 = u2 then if s1 = s2 then c.double q else infinity
    else
      let h := Modular.sub u2 u1 p
      let d := Modular.sub s2 s1 p
      let hh := h * h % p
      let hhh := h * hh % p
      let v := u1 * hh % p
      let x := Modular.sub (Modular.sub (d * d % p) hhh p) (2 * v % p) p
      let y := Modular.sub (d * Modular.sub v x p % p) (s1 * hhh % p) p
      ⟨x, y, q.z * r.z % p * h % p⟩

/-- The `k`-fold sum of a point, by the binary digits of `k` from the lowest. -/
def multiple (c : Curve) (k : Nat) (q : Point) : Point :=
  go (k.log2 + 1) k infinity q
where
  go : Nat → Nat → Point → Point → Point
    | 0, _, acc, _ => acc
    | fuel + 1, k, acc, q =>
      if k = 0 then acc
      else go fuel (k / 2) (if k % 2 = 1 then c.add acc q else acc) (c.double q)

/-- The first coordinate of a point that is not at infinity. -/
def abscissa? (c : Curve) (q : Point) : Option Nat :=
  if q.z = 0 then none else some (q.x * Modular.inverse (q.z * q.z % c.p) c.p % c.p)

/-- Reads a point: infinity is a zero byte, a short form gives the first coordinate and the parity
of the second, and the long forms give both. -/
def readPoint? (c : Curve) : Bytes → Option Point
  | [0] => some infinity
  | form :: rest =>
    let w := c.fieldWidth
    let x := Bytes.toNat (rest.take w)
    if (form = 2 ∨ form = 3) ∧ rest.length = w ∧ x < c.p then do
      let root ← Modular.sqrt? (c.rightSide x) c.p
      let odd := form.toNat % 2
      if root = 0 then if odd = 0 then some ⟨x, 0, 1⟩ else none
      else return ⟨x, if root % 2 = odd then root else c.p - root, 1⟩
    else if (form = 4 ∨ form = 6 ∨ form = 7) ∧ rest.length = 2 * w then
      let y := Bytes.toNat (rest.drop w)
      if c.contains x y ∧ (form = 4 ∨ form.toNat % 2 = y % 2) then some ⟨x, y, 1⟩ else none
    else none
  | [] => none

end Curve

end SignerTrust
