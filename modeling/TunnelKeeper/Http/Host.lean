import TunnelKeeper.Http.Percent

/-!
Hosts of a URL: names, whose letters are lower case and in ASCII, and addresses of either version
of the Internet Protocol in their canonical text.
-/

namespace TunnelKeeper.Http

/-! ### Names beyond ASCII -/

namespace Punycode

/-- The digit of a value below 36. -/
def digit (n : Nat) : Char := if n < 26 then Char.ofNat (97 + n) else Char.ofNat (22 + n)

/-- Divides by 35 until at most 455 is left: the rest, and 36 for every division. -/
def shrink : Nat → Nat → Nat → Nat × Nat
  | 0, delta, k => (delta, k)
  | steps + 1, delta, k => if delta ≤ 455 then (delta, k) else shrink steps (delta / 35) (k + 36)

/-- The bias after a difference that has been written. -/
def adapt (delta count : Nat) (first : Bool) : Nat :=
  let scaled := if first then delta / 700 else delta / 2
  let (rest, k) := shrink 32 (scaled + scaled / count) 0
  k + 36 * rest / (rest + 38)

/-- The digits of a difference, the lowest first. -/
def digits : Nat → Nat → Nat → Nat → List Char
  | 0, _, _, _ => []
  | steps + 1, bias, k, q =>
    let t := if k ≤ bias then 1 else if bias + 26 ≤ k then 26 else k - bias
    if q < t then [digit q]
    else digit (t + (q - t) % (36 - t)) :: digits steps bias (k + 36) ((q - t) / (36 - t))

/-- How far encoding has come: the code point at hand, the difference that has piled up, the bias
and the number of characters written. -/
structure State where
  point : Nat := 128
  delta : Nat := 0
  bias : Nat := 72
  written : Nat
  text : List Char := []

/-- Passes over one character of the name. -/
def visit (basic : Nat) (s : State) (c : Char) : State :=
  if c.toNat < s.point then { s with delta := s.delta + 1 }
  else if c.toNat = s.point then
    { s with
      text := s.text ++ digits 64 s.bias 36 s.delta
      bias := adapt s.delta (s.written + 1) (s.written = basic)
      delta := 0
      written := s.written + 1 }
  else s

/-- Writes all characters from the code point at hand on. -/
def rounds (cs : List Char) (basic : Nat) : Nat → State → State
  | 0, s => s
  | n + 1, s =>
    match (cs.filter fun c => s.point ≤ c.toNat).map Char.toNat with
    | [] => s
    | p :: ps =>
      let next := ps.foldl Nat.min p
      let moved := { s with delta := s.delta + (next - s.point) * (s.written + 1), point := next }
      let after := cs.foldl (visit basic) moved
      rounds cs basic n { after with delta := after.delta + 1, point := after.point + 1 }

def encode (cs : List Char) : List Char :=
  let basic := cs.filter (·.toNat < 128)
  let start : State := { written := basic.length }
  basic ++ (if basic = [] then [] else ['-']) ++ (rounds cs basic.length cs.length start).text

end Punycode

/-- Letters beyond ASCII in a row, and how far above each of them its lower case stands. -/
structure LetterRow where
  first : Nat
  last : Nat
  up : Nat

/-- The letters of names: Latin, Greek, Cyrillic, and the scripts of East Asia. -/
def letterRows : List LetterRow := [
  ⟨0xc0, 0xd6, 32⟩, ⟨0xd8, 0xde, 32⟩, ⟨0xdf, 0xf6, 0⟩, ⟨0xf8, 0xff, 0⟩,
  ⟨0x386, 0x386, 38⟩, ⟨0x388, 0x38a, 37⟩, ⟨0x38c, 0x38c, 64⟩, ⟨0x38e, 0x38f, 63⟩,
  ⟨0x390, 0x390, 0⟩, ⟨0x391, 0x3a1, 32⟩, ⟨0x3a3, 0x3ab, 32⟩, ⟨0x3ac, 0x3ce, 0⟩,
  ⟨0x400, 0x40f, 80⟩, ⟨0x410, 0x42f, 32⟩, ⟨0x430, 0x45f, 0⟩,
  ⟨0x3041, 0x3096, 0⟩, ⟨0x30a1, 0x30fa, 0⟩, ⟨0x30fc, 0x30fe, 0⟩,
  ⟨0x4e00, 0x9fff, 0⟩, ⟨0xac00, 0xd7a3, 0⟩]

/-- A character of a name in lower case. Beyond ASCII, a name holds none but the letters above. -/
def lower? (c : Char) : Option Char :=
  if c.toNat < 128 then some c.toLower
  else do
    let row ← letterRows.find? fun row => row.first ≤ c.toNat && c.toNat ≤ row.last
    return Char.ofNat (c.toNat + row.up)

/-- A part of a name in ASCII. -/
def asciiLabel (cs : List Char) : List Char :=
  if cs.all (·.toNat < 128) then cs else ['x', 'n', '-', '-'] ++ Punycode.encode cs

/-! ### Addresses of version 4 -/

def baseValue? (base : Nat) (cs : List Char) : Option Nat :=
  cs.foldlM (fun n c => do
    let d ← Hex.value? c
    if d < base then some (n * base + d) else none) 0

/-- A number in decimal, or in octal or hexadecimal behind its mark. -/
def addressNumber? : List Char → Option Nat
  | [] => none
  | '0' :: 'x' :: rest => baseValue? 16 rest
  | '0' :: d :: rest => baseValue? 8 (d :: rest)
  | cs => baseValue? 10 cs

/-- The parts of a name; an empty one at the end does not count. -/
def hostParts (cs : List Char) : List (List Char) :=
  let parts := cs.splitOn '.'
  if 1 < parts.length ∧ parts.getLast? = some [] then parts.dropLast else parts

/-- The name must be an address: its last part is a number. -/
def endsInNumber (cs : List Char) : Bool :=
  match (hostParts cs).getLast? with
  | none => false
  | some [] => false
  | some last => last.all Char.isDigit || (addressNumber? last).isSome

/-- The value of an address of up to four numbers, the last of which fills what is left. -/
def addressValue? (parts : List (List Char)) : Option Nat := do
  if 4 < parts.length then none
  let numbers ← parts.mapM addressNumber?
  let last ← numbers.getLast?
  if numbers.dropLast.any (255 < ·) || Nat.pow 256 (5 - numbers.length) ≤ last then none
  let shifted := numbers.dropLast.zipIdx.map fun (n, i) => n * Nat.pow 256 (3 - i)
  return shifted.foldr Nat.add last

def dotted (n : Nat) : String :=
  ".".intercalate ([n / 16777216 % 256, n / 65536 % 256, n / 256 % 256, n % 256].map toString)

/-! ### Addresses of version 6 -/

/-- Groups of up to four hexadecimal digits between colons; the last may be an address of
version 4. -/
def addressGroups? : List (List Char) → Option (List Nat)
  | [] => some []
  | [[]] => some []
  | part :: rest =>
    if '.' ∈ part then
      match rest with
      | [] => do
        let parts := part.splitOn '.'
        let plain := parts.all fun p => p ≠ [] ∧ p.all Char.isDigit ∧
          (p.length = 1 ∨ p.head? ≠ some '0')
        if plain ∧ parts.length = 4 then
          let n ← addressValue? parts
          return [n / 65536, n % 65536]
        else none
      | _ => none
    else if part = [] ∨ 4 < part.length then none
    else do return (← baseValue? 16 part) :: (← addressGroups? rest)

/-- The text around the first pair of colons, if there is one. -/
def aroundDoubleColon : List Char → List Char → List Char × Option (List Char)
  | before, ':' :: ':' :: rest => (before.reverse, some rest)
  | before, c :: rest => aroundDoubleColon (c :: before) rest
  | before, [] => (before.reverse, none)

/-- The eight groups of an address. -/
def groups? (cs : List Char) : Option (List Nat) := do
  match aroundDoubleColon [] cs with
  | (all, none) =>
    let groups ← addressGroups? (all.splitOn ':')
    if groups.length = 8 then return groups else none
  | (before, some after) =>
    let first ← addressGroups? (before.splitOn ':')
    let last ← addressGroups? (after.splitOn ':')
    if first.length + last.length ≤ 7 ∧ '.' ∉ before then
      return first ++ List.replicate (8 - first.length - last.length) 0 ++ last
    else none

/-- The length of the run of zeros at the front. -/
def zeroRun (groups : List Nat) : Nat := (groups.takeWhile (· = 0)).length

/-- The start and the length of the first longest run of zeros. -/
def longestZeros (groups : List Nat) : Nat × Nat :=
  (List.range groups.length).foldl
    (fun best i =>
      let run := zeroRun (groups.drop i)
      if best.2 < run then (i, run) else best)
    (0, 0)

def groupsText (groups : List Nat) : String :=
  ":".intercalate (groups.map fun n => String.ofList (Nat.toDigits 16 n))

/-- The groups of an address, the longest run of zeros left out. -/
def addressText (groups : List Nat) : String :=
  let (start, run) := longestZeros groups
  if run < 2 then groupsText groups
  else groupsText (groups.take start) ++ "::" ++ groupsText (groups.drop (start + run))

/-! ### Hosts -/

/-- A character that no host holds. -/
def isForbidden (c : Char) : Bool :=
  c.toNat ≤ 0x20 || c = '#' || c = '/' || c = ':' || c = '<' || c = '>' || c = '?' || c = '@' ||
    c = '[' || c = '\\' || c = ']' || c = '^' || c = '|'

/-- The text of a host of the web. -/
def domain? (cs : List Char) : Option String := do
  let decoded ← String.fromUTF8? ⟨(percentDecode cs).toArray⟩
  let lower ← decoded.toList.mapM lower?
  let ascii := ['.'].intercalate ((lower.splitOn '.').map asciiLabel)
  if ascii = [] ∨ ascii.any (fun c => isForbidden c || c = '%' || c.toNat = 0x7f) then none
  else if endsInNumber ascii then dotted <$> addressValue? (hostParts ascii)
  else return String.ofList ascii

/-- The text of a host: an address in brackets, or a name. Names of other networks than the web
are opaque. -/
def host? (web : Bool) (cs : List Char) : Option String :=
  match cs with
  | '[' :: rest =>
    if rest.getLast? = some ']' then
      (fun groups => "[" ++ addressText groups ++ "]") <$> groups? rest.dropLast
    else none
  | cs =>
    if web then domain? cs
    else if cs.any isForbidden then none
    else some (String.ofList (percentEncode [] cs))

end TunnelKeeper.Http
