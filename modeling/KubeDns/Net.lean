/-
# `net.ParseIP`

`getPodIP` accepts a pod label when `net.ParseIP` of its dotted form is not nil.  Since Go
1.18 `net.ParseIP` is `netip.ParseAddr` without a zone: the first `.`, `:` or `%` of the
string chooses the parser.

* IPv4 (`parseIPv4Fields`): four dot-separated decimal fields, each non-empty, at most 255,
  and without a leading zero; the loop's checks amount to exactly this on the fields of
  `strings.Split(s, ".")` (`ipv4Field`).
* IPv6 (`parseIPv6`): hex groups of one to four digits separated by colons, at most one
  `::`, an optional embedded IPv4 in the last 32 bits; written as the loop it is, with
  one iteration per group (at most eight).

Both return the 16-byte form (`As16`): an IPv4 address is IPv4-mapped.

`ip.String()` (`ipString`), `net.JoinHostPort` and `net.SplitHostPort` follow: the forms in
which `ValidateNameserverIpAndPort` and `updateConfig` print and read addresses back.
-/
import KubeDns.Go

namespace KubeDns

namespace Net

/-- One IPv4 field: decimal digits, no leading zero, at most 255. -/
def ipv4Field (f : List Char) : Option UInt8 :=
  if f ≠ [] ∧ f.all Char.isDigit ∧ (f.head? ≠ some '0' ∨ f.length = 1) then
    let v := f.foldl (fun v c => v * 10 + (c.toNat - '0'.toNat)) 0
    if v ≤ 255 then some v.toUInt8 else none
  else none

/-- `parseIPv4Fields`: the four bytes of a dotted quad. -/
def parseIPv4Fields (s : List Char) : Option (List UInt8) :=
  match s.splitOn '.' with
  | [a, b, c, d] => [a, b, c, d].mapM ipv4Field
  | _ => none

/-- The value of a hex digit. -/
def hexVal (c : Char) : Option Nat :=
  if '0' ≤ c ∧ c ≤ '9' then some (c.toNat - '0'.toNat)
  else if 'a' ≤ c ∧ c ≤ 'f' then some (c.toNat - 'a'.toNat + 10)
  else if 'A' ≤ c ∧ c ≤ 'F' then some (c.toNat - 'A'.toNat + 10)
  else none

/-- The hex digits at the front of a string, and the rest. -/
def hexRun : List Char → List Nat × List Char
  | [] => ([], [])
  | c :: cs =>
    match hexVal c with
    | some v => ((hexRun cs).1.cons v, (hexRun cs).2)
    | none => ([], c :: cs)

/-- The group loop of `parseIPv6`, from the bytes `ip` parsed so far and the position of
the `::`; it stops with the bytes, the `::` position and what is left of the string. -/
def parseIPv6Loop : Nat → List Char → List UInt8 → Option Nat →
    Option (List UInt8 × Option Nat × List Char)
  | 0, s, ip, ellipsis => some (ip, ellipsis, s)
  | fuel + 1, s, ip, ellipsis =>
    if 16 ≤ ip.length then some (ip, ellipsis, s)
    else
      let (digits, rest) := hexRun s
      if digits = [] ∨ 4 < digits.length then none
      else if rest.head? = some '.' then
        if (ellipsis.isNone ∧ ip.length ≠ 12) ∨ 16 < ip.length + 4 then none
        else (parseIPv4Fields s).map fun f => (ip ++ f, ellipsis, [])
      else
        let acc := digits.foldl (fun a d => a * 16 + d) 0
        let ip := ip ++ [(acc / 256).toUInt8, (acc % 256).toUInt8]
        match rest with
        | [] => some (ip, ellipsis, [])
        | [':'] => none
        | ':' :: ':' :: s' =>
          if ellipsis.isSome then none
          else if s' = [] then some (ip, some ip.length, [])
          else parseIPv6Loop fuel s' ip (some ip.length)
        | ':' :: s' => parseIPv6Loop fuel s' ip ellipsis
        | _ => none

/-- `parseIPv6` without a zone: the loop, then the `::` expanded to zero groups. -/
def parseIPv6 (s : List Char) : Option (List UInt8) :=
  let (s, ellipsis) :=
    match s with
    | ':' :: ':' :: s' => (s', some 0)
    | _ => (s, none)
  if s = [] ∧ ellipsis = some 0 then some (List.replicate 16 0)
  else
    match parseIPv6Loop 8 s [] ellipsis with
    | some (ip, ellipsis, []) =>
      if ip.length < 16 then
        match ellipsis with
        | some e => some (ip.take e ++ List.replicate (16 - ip.length) 0 ++ ip.drop e)
        | none => none
      else if ellipsis.isSome then none
      else some ip
    | _ => none

/-- `net.ParseIP(s)`: the 16-byte address, or `nil` (`none`). -/
def parseIP (s : String) : Option (List UInt8) :=
  match s.data.find? fun c => c == '.' || c == ':' || c == '%' with
  | some '.' => (parseIPv4Fields s.data).map fun f => [0, 0, 0, 0, 0, 0, 0, 0, 0, 0, 255, 255] ++ f
  | some ':' => if '%' ∈ s.data then none else parseIPv6 s.data
  | _ => none

/-! ## 2. `IP.String`

`ip.String()` prints a 4-byte or an IPv4-mapped address as a dotted quad (`string4`, each
byte by `appendDecimal`), and any other 16-byte address through `netip`: the eight 16-bit
groups in lowercase hex without leading zeros (`appendHex`), the first longest run of at
least two zero groups written `::` (`zeroRun`, `string6`). -/

/-- `ip.To4()`: a 4-byte address, or the last four bytes of an IPv4-mapped 16-byte one. -/
def to4 (ip : List UInt8) : Option (List UInt8) :=
  if ip.length = 4 then some ip
  else if ip.length = 16 ∧ (ip.take 10).all (· == 0) ∧ ip[10]? = some 0xff ∧
      ip[11]? = some 0xff then some (ip.drop 12)
  else none

/-- `appendDecimal`: a byte in decimal without leading zeros, from the table `digits`
(`digits[x/100]`, `digits[x/10%10]`, `digits[x%10]`). -/
def appendDecimal (x : Nat) : List Char :=
  (if 100 ≤ x then [Nat.digitChar (x / 100)] else []) ++
    (if 10 ≤ x then [Nat.digitChar (x / 10 % 10)] else []) ++ [Nat.digitChar (x % 10)]

/-- `appendHex`: a 16-bit group in lowercase hex without leading zeros (`x>>12`,
`x>>8&0xf`, `x>>4&0xf`, `x&0xf`). -/
def appendHex (x : Nat) : List Char :=
  (if 0x1000 ≤ x then [Nat.digitChar (x / 0x1000)] else []) ++
    (if 0x100 ≤ x then [Nat.digitChar (x / 0x100 % 16)] else []) ++
    (if 0x10 ≤ x then [Nat.digitChar (x / 0x10 % 16)] else []) ++ [Nat.digitChar (x % 16)]

/-- `string4`: the bytes in decimal, separated by dots. -/
def string4 (ip : List UInt8) : List Char :=
  ['.'].intercalate (ip.map fun b => appendDecimal b.toNat)

/-- `ip.v6u16(i)` for `i < 8`: the 16-bit groups of a 16-byte address. -/
def groups (ip : List UInt8) : List Nat :=
  (List.range 8).map fun i => (ip.getD (2 * i) 0).toNat * 256 + (ip.getD (2 * i + 1) 0).toNat

/-- The first loop of `appendTo6`: the first longest run of at least two zero groups, as
`(zeroStart, zeroEnd)`; `(255, 255)` when there is none. -/
def zeroRun (g : List Nat) : Nat × Nat :=
  (List.range 8).foldl (fun (zs, ze) i =>
      let j := i + ((g.drop i).takeWhile (· == 0)).length
      if 2 ≤ j - i ∧ ze - zs < j - i then (i, j) else (zs, ze)) (255, 255)

/-- The printing loop of `appendTo6` from group `i`, with `fuel` turns left: `::` in place
of the run `[zs, ze)`, and `:` before every other group but the first. -/
def string6Loop (g : List Nat) (zs ze : Nat) : Nat → Nat → List Char
  | 0, _ => []
  | fuel + 1, i =>
    if 8 ≤ i then []
    else if i = zs then
      if 8 ≤ ze then [':', ':']
      else [':', ':'] ++ appendHex (g.getD ze 0) ++ string6Loop g zs ze fuel (ze + 1)
    else (if 0 < i then [':'] else []) ++ appendHex (g.getD i 0) ++ string6Loop g zs ze fuel (i + 1)

/-- `string6`: the groups of a 16-byte address, its zero run as `::`. -/
def string6 (ip : List UInt8) : List Char :=
  let g := groups ip
  string6Loop g (zeroRun g).1 (zeroRun g).2 8 0

/-- `netip.AddrFrom16(ip).String()`: `::ffff:a.b.c.d` for an IPv4-mapped address, else
`string6`. -/
def addrFrom16String (ip : List UInt8) : List Char :=
  if (ip.take 10).all (· == 0) ∧ ip[10]? = some 0xff ∧ ip[11]? = some 0xff then
    "::ffff:".toList ++ string4 (ip.drop 12)
  else string6 ip

/-- `hexString`: two lowercase hex digits per byte. -/
def hexString (ip : List UInt8) : List Char :=
  ip.flatMap fun b => [Nat.digitChar (b.toNat / 16), Nat.digitChar (b.toNat % 16)]

/-- `ip.String()`. -/
def ipString (ip : List UInt8) : String :=
  if ip.length = 0 then "<nil>"
  else if ip.length ≠ 4 ∧ ip.length ≠ 16 then "?" ++ ⟨hexString ip⟩
  else
    match to4 ip with
    | some p4 => ⟨string4 p4⟩
    | none => ⟨addrFrom16String ip⟩

/-! ## 3. `JoinHostPort` and `SplitHostPort` -/

/-- `net.JoinHostPort(host, port)`: a host with a colon is taken for an IPv6 literal and
bracketed. -/
def joinHostPort (host port : String) : String :=
  if ':' ∈ host.data then "[" ++ host ++ "]:" ++ port else host ++ ":" ++ port

/-- `net.AddrError`: what went wrong, and the address. -/
structure AddrError where
  err : String
  addr : String
  deriving DecidableEq, Repr

/-- `bytealg.IndexByteString`: the first position of `c`. -/
def indexByte (s : List Char) (c : Char) : Option Nat :=
  s.findIdx? (· == c)

/-- `bytealg.LastIndexByteString`: the last position of `c`. -/
def lastIndexByte (s : List Char) (c : Char) : Option Nat :=
  (indexByte s.reverse c).map (s.length - 1 - ·)

/-- `net.SplitHostPort(hostport)`: the port after the last colon, the host before it or
between the brackets, and the address errors of the Go code. -/
def splitHostPort (hostport : String) : Except AddrError (String × String) :=
  let s := hostport.data
  let addrErr := fun why => AddrError.mk why hostport
  match lastIndexByte s ':' with
  | none => .error (addrErr "missing port in address")
  | some i =>
    let bounds : Except AddrError (List Char × Nat × Nat) :=
      if s.head? = some '[' then
        match indexByte s ']' with
        | none => .error (addrErr "missing ']' in address")
        | some e =>
          if e + 1 = s.length then .error (addrErr "missing port in address")
          else if e + 1 = i then .ok ((s.take e).drop 1, 1, e + 1)
          else if s[e + 1]? = some ':' then .error (addrErr "too many colons in address")
          else .error (addrErr "missing port in address")
      else if ':' ∈ s.take i then .error (addrErr "too many colons in address")
      else .ok (s.take i, 0, 0)
    match bounds with
    | .error err => .error err
    | .ok (host, j, k) =>
      if '[' ∈ s.drop j then .error (addrErr "unexpected '[' in address")
      else if ']' ∈ s.drop k then .error (addrErr "unexpected ']' in address")
      else .ok (⟨host⟩, ⟨s.drop (i + 1)⟩)

end Net

end KubeDns
