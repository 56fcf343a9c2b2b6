/-
# `ip.String()` reads back through `net.ParseIP`

`ValidateNameserverIpAndPort` answers a bare address with `net.ParseIP(s).String()`, and
`updateConfig` installs `JoinHostPort` of that text.  This module proves that the text reads
back as the address it prints, for every address `net.ParseIP` returns
(`parseIP_ipString`).

* **Dotted quads.**  `appendDecimal` prints a byte as `ipv4Field` reads it, and as
  `toString` prints it (`ipv4Field_appendDecimal`, `toString_eq_appendDecimal`); so
  `string4` of four bytes parses to the IPv4-mapped address (`parseIP_string4`).
* **IPv6 text.**  `appendHex` prints a group as `hexRun` reads it (`hexRun_appendHex`); the
  group loop of `parseIPv6` reads back a colon-separated run of printed groups, and the
  groups before a `::` (`parseIPv6Loop_hexGroups`, `parseIPv6Loop_hexGroups_ellipsis`).
  `zeroRun` returns a run of zero groups or none (`isZeroRun_zeroRun`), so `string6` is one
  of two shapes (`string6_eq`), each of which `parseIPv6` reads back
  (`parseIPv6_hexGroups`, `parseIPv6_hexGroups_ellipsis`); the zeros the `::` stands for
  are the run's, so `string6` reads back as the address (`parseIPv6_string6`).
* **What `parseIP` returns.**  The group loop never passes sixteen bytes
  (`parseIPv6Loop_length`), so every address `net.ParseIP` returns has sixteen
  (`parseIP_length`), and `ip.String()` of it is `string4` of an IPv4-mapped address or
  `string6` of any other.

Printed addresses are digits and one separator (`IsDigitOr`), which is what the host:port
module needs of them.
-/
import KubeDns.Net

namespace KubeDns

namespace Net

/-! ## 1. Printed digits -/

theorem isDigit_digitChar : ∀ d < 10, (Nat.digitChar d).isDigit = true := by decide

theorem digitChar_toNat : ∀ d < 10, (Nat.digitChar d).toNat = '0'.toNat + d := by decide

theorem digitChar_ne_zero : ∀ d < 10, d ≠ 0 → Nat.digitChar d ≠ '0' := by decide

theorem hexVal_digitChar : ∀ d < 16, hexVal (Nat.digitChar d) = some d := by decide

/-- A printed digit is none of the characters the parsers split at. -/
theorem digitChar_not_sep : ∀ d < 16, Nat.digitChar d ∉ ['.', ':', '%', '[', ']', '-'] := by
  decide

theorem toUInt8_toNat (b : UInt8) : b.toNat.toUInt8 = b := by
  apply UInt8.eq_of_val_eq
  simp [Nat.toUInt8, UInt8.ofNat, UInt8.val, UInt8.toNat]

/-! ## 2. Dotted quads -/

theorem mem_appendDecimal {x : Nat} (hx : x < 256) {c : Char} (h : c ∈ appendDecimal x) :
    ∃ d < 10, c = Nat.digitChar d := by
  simp only [appendDecimal, List.mem_append, List.mem_ite_nil_right, List.mem_singleton] at h
  rcases h with (⟨-, h⟩ | ⟨-, h⟩) | h
  exacts [⟨_, by omega, h⟩, ⟨_, by omega, h⟩, ⟨_, by omega, h⟩]

/-- `appendDecimal` prints a byte as `ipv4Field` reads it. -/
theorem ipv4Field_appendDecimal {x : Nat} (hx : x < 256) :
    ipv4Field (appendDecimal x) = some x.toUInt8 := by
  have h0 := digitChar_toNat (x % 10) (by omega)
  have h1 := digitChar_toNat (x / 10 % 10) (by omega)
  have h2 := digitChar_toNat (x / 100) (by omega)
  have d0 := isDigit_digitChar (x % 10) (by omega)
  have d1 := isDigit_digitChar (x / 10 % 10) (by omega)
  have d2 := isDigit_digitChar (x / 100) (by omega)
  unfold ipv4Field appendDecimal
  by_cases c2 : 100 ≤ x
  · have hz := digitChar_ne_zero (x / 100) (by omega) (by omega)
    simp [c2, show 10 ≤ x by omega, d0, d1, d2, hz, h0, h1, h2]
    exact ⟨by omega, congrArg _ (by omega)⟩
  · by_cases c1 : 10 ≤ x
    · have hz := digitChar_ne_zero (x / 10 % 10) (by omega) (by omega)
      simp [c2, c1, d0, d1, hz, h0, h1]
      exact ⟨by omega, congrArg _ (by omega)⟩
    · simp [c2, c1, d0, h0]
      exact ⟨by omega, congrArg _ (by omega)⟩

theorem toDigitsCore_succ (b f n : Nat) (ds : List Char) :
    Nat.toDigitsCore b (f + 1) n ds =
      if n / b = 0 then Nat.digitChar (n % b) :: ds
      else Nat.toDigitsCore b f (n / b) (Nat.digitChar (n % b) :: ds) := rfl

/-- Three turns of `Nat.toDigitsCore` print a number below 1000 as `appendDecimal`. -/
theorem toDigitsCore_ten {n : Nat} (hn : n < 1000) (k : Nat) (ds : List Char) :
    Nat.toDigitsCore 10 (k + 3) n ds = appendDecimal n ++ ds := by
  rw [toDigitsCore_succ]
  by_cases c1 : n < 10
  · rw [if_pos (by omega)]
    simp [appendDecimal, show ¬100 ≤ n by omega, show ¬10 ≤ n by omega]
  rw [if_neg (by omega), toDigitsCore_succ]
  by_cases c2 : n < 100
  · rw [if_pos (by omega)]
    simp [appendDecimal, show ¬100 ≤ n by omega, show 10 ≤ n by omega]
  rw [if_neg (by omega), toDigitsCore_succ, if_pos (by omega),
    show n / 10 / 10 % 10 = n / 100 by omega]
  simp [appendDecimal, show 100 ≤ n by omega, show 10 ≤ n by omega]

/-- `toString` prints a byte as `appendDecimal` does. -/
theorem toString_eq_appendDecimal {x : Nat} (hx : x < 256) :
    toString x = ⟨appendDecimal x⟩ := by
  show (⟨Nat.toDigitsCore 10 (x + 1) x []⟩ : String) = _
  congr 1
  by_cases c1 : x < 10
  · rw [toDigitsCore_succ, if_pos (by omega)]
    simp [appendDecimal, show ¬100 ≤ x by omega, show ¬10 ≤ x by omega, Nat.mod_eq_of_lt c1]
  · rw [show x + 1 = (x - 2) + 3 by omega, toDigitsCore_ten (by omega), List.append_nil]

/-- The characters `net.ParseIP` dispatches on. -/
theorem not_special_of_mem_appendDecimal {x : Nat} (hx : x < 256) {c : Char}
    (h : c ∈ appendDecimal x) : (c == '.' || c == ':' || c == '%') = false := by
  obtain ⟨d, hd, rfl⟩ := mem_appendDecimal hx h
  have := digitChar_not_sep d (by omega)
  simp_all

theorem dot_not_mem_appendDecimal {x : Nat} (hx : x < 256) : '.' ∉ appendDecimal x :=
  fun h => by simpa using not_special_of_mem_appendDecimal hx h

/-- **A dotted quad reads back.**  `net.ParseIP` of `string4` is the IPv4-mapped address. -/
theorem parseIP_string4 (a b c d : UInt8) :
    parseIP ⟨string4 [a, b, c, d]⟩ = some ([0, 0, 0, 0, 0, 0, 0, 0, 0, 0, 255, 255] ++ [a, b, c, d]) := by
  have hfind : ∀ x : UInt8, (appendDecimal x.toNat).find?
      (fun c => c == '.' || c == ':' || c == '%') = none := fun x =>
    List.find?_eq_none.2 fun c hc => by
      simpa using not_special_of_mem_appendDecimal (UInt8.toNat_lt_size x) hc
  have hdot : ∀ l ∈ [a, b, c, d].map fun x => appendDecimal x.toNat, '.' ∉ l := by
    simp only [List.mem_map]
    rintro l ⟨x, -, rfl⟩
    exact dot_not_mem_appendDecimal (UInt8.toNat_lt_size x)
  have hsplit : (string4 [a, b, c, d]).splitOn '.' = _ :=
    List.splitOn_intercalate _ '.' hdot (by simp)
  have hfirst : (string4 [a, b, c, d]).find? (fun c => c == '.' || c == ':' || c == '%') =
      some '.' := by
    simp [string4, List.intercalate, List.find?_append, hfind]
  simp only [parseIP, hfirst, parseIPv4Fields, hsplit]
  have hfield (x : UInt8) : ipv4Field (appendDecimal x.toNat) = some x := by
    rw [ipv4Field_appendDecimal (UInt8.toNat_lt_size x), toUInt8_toNat]
  simp [List.mapM, List.mapM.loop, hfield]


/-! ## 3. Hex groups -/

/-- The digit values `appendHex` prints, most significant first. -/
def hexDigits (x : Nat) : List Nat :=
  (if 0x1000 ≤ x then [x / 0x1000] else []) ++ (if 0x100 ≤ x then [x / 0x100 % 16] else []) ++
    (if 0x10 ≤ x then [x / 0x10 % 16] else []) ++ [x % 16]

theorem appendHex_eq_map (x : Nat) : appendHex x = (hexDigits x).map Nat.digitChar := by
  simp only [appendHex, hexDigits, List.map_append, apply_ite (List.map Nat.digitChar),
    List.map_cons, List.map_nil]

theorem lt_of_mem_hexDigits {x : Nat} (hx : x < 0x10000) {d : Nat} (h : d ∈ hexDigits x) :
    d < 16 := by
  simp only [hexDigits, List.mem_append, List.mem_ite_nil_right, List.mem_singleton] at h
  omega

/-- One to four digits, which the group loop's length test accepts. -/
theorem hexDigits_length (x : Nat) : ¬(hexDigits x = [] ∨ 4 < (hexDigits x).length) := by
  unfold hexDigits
  split_ifs <;> simp

theorem foldl_hexDigits {x : Nat} (hx : x < 0x10000) :
    (hexDigits x).foldl (fun a d => a * 16 + d) 0 = x := by
  unfold hexDigits
  split_ifs <;> simp <;> omega

/-- `hexRun` reads back printed digits up to the first character that is no hex digit. -/
theorem hexRun_digits (rest : List Char) (hr : ∀ c ∈ rest.head?, hexVal c = none) :
    ∀ ds : List Nat, (∀ d ∈ ds, d < 16) → hexRun (ds.map Nat.digitChar ++ rest) = (ds, rest)
  | [], _ => by
    cases rest with
    | nil => rfl
    | cons c cs => simp [hexRun, hr c rfl]
  | d :: ds, hd => by
    simp [hexRun, hexVal_digitChar d (hd d (List.mem_cons_self _ _)),
      hexRun_digits rest hr ds fun d h => hd d (List.mem_cons_of_mem _ h)]

theorem hexRun_appendHex {x : Nat} (hx : x < 0x10000) (rest : List Char)
    (hr : ∀ c ∈ rest.head?, hexVal c = none) :
    hexRun (appendHex x ++ rest) = (hexDigits x, rest) := by
  rw [appendHex_eq_map]
  exact hexRun_digits rest hr _ fun _ => lt_of_mem_hexDigits hx

/-- The bytes a list of 16-bit groups stands for, high byte first, as `parseIPv6` appends
them. -/
def groupBytes (hs : List Nat) : List UInt8 :=
  hs.flatMap fun h => [(h / 256).toUInt8, (h % 256).toUInt8]

section Step

variable {x : Nat} {ip : List UInt8} {fuel : Nat}

theorem hexVal_colon : hexVal ':' = none := by decide

/-- The last group of the text. -/
theorem parseIPv6Loop_appendHex_nil (hx : x < 0x10000) (hip : ip.length < 16) (ell : Option Nat) :
    parseIPv6Loop (fuel + 1) (appendHex x) ip ell = some (ip ++ groupBytes [x], ell, []) := by
  have h := hexRun_appendHex hx [] (by simp)
  rw [List.append_nil] at h
  simp [parseIPv6Loop, h, Nat.not_le.2 hip, foldl_hexDigits hx, groupBytes, hexDigits_length]

/-- A group followed by one colon and the next group. -/
theorem parseIPv6Loop_appendHex_colon (hx : x < 0x10000) (hip : ip.length < 16) (ell : Option Nat)
    {c : Char} (hc : c ≠ ':') (s : List Char) :
    parseIPv6Loop (fuel + 1) (appendHex x ++ ':' :: c :: s) ip ell =
      parseIPv6Loop fuel (c :: s) (ip ++ groupBytes [x]) ell := by
  have h := hexRun_appendHex hx (':' :: c :: s) (by simp [hexVal_colon])
  simp [parseIPv6Loop, h, Nat.not_le.2 hip, foldl_hexDigits hx, groupBytes, hexDigits_length, hc]

/-- A group followed by the `::` of the zero run. -/
theorem parseIPv6Loop_appendHex_ellipsis (hx : x < 0x10000) (hip : ip.length < 16) (s : List Char) :
    parseIPv6Loop (fuel + 1) (appendHex x ++ ':' :: ':' :: s) ip none =
      if s = [] then some (ip ++ groupBytes [x], some (ip.length + 2), [])
      else parseIPv6Loop fuel s (ip ++ groupBytes [x]) (some (ip.length + 2)) := by
  have h := hexRun_appendHex hx (':' :: ':' :: s) (by simp [hexVal_colon])
  simp [parseIPv6Loop, h, Nat.not_le.2 hip, foldl_hexDigits hx, groupBytes, hexDigits_length]

end Step

@[simp] theorem groupBytes_nil : groupBytes [] = [] := rfl

@[simp] theorem groupBytes_append (a b : List Nat) :
    groupBytes (a ++ b) = groupBytes a ++ groupBytes b := List.flatMap_append _ _ _

@[simp] theorem length_groupBytes (hs : List Nat) : (groupBytes hs).length = 2 * hs.length := by
  induction hs <;> simp_all [groupBytes]; omega

/-- Groups separated by colons, as `string6` prints them on either side of the zero run. -/
def hexGroups : List Nat → List Char
  | [] => []
  | h :: t => appendHex h ++ t.flatMap fun h => ':' :: appendHex h

@[simp] theorem hexGroups_nil : hexGroups [] = [] := rfl

theorem hexGroups_cons_cons (h h' : Nat) (t : List Nat) :
    hexGroups (h :: h' :: t) = appendHex h ++ ':' :: hexGroups (h' :: t) := by
  simp [hexGroups]

/-- A printed group starts with a digit, so a colon before it is a single one. -/
theorem hexGroups_cons_head {h : Nat} (hx : h < 0x10000) (t : List Nat) :
    ∃ c cs, hexGroups (h :: t) = c :: cs ∧ c ≠ ':' := by
  obtain ⟨d, ds, hd⟩ := List.exists_cons_of_ne_nil (not_or.1 (hexDigits_length h)).1
  have hd16 := lt_of_mem_hexDigits hx (hd ▸ List.mem_cons_self d ds)
  simp only [hexGroups, appendHex_eq_map, hd, List.map_cons, List.cons_append]
  exact ⟨_, _, rfl, fun e => digitChar_not_sep d hd16 (by simp [e])⟩

/-- **The group loop reads back a colon-separated run of printed groups.** -/
theorem parseIPv6Loop_hexGroups (ell : Option Nat) :
    ∀ (t : List Nat) (h fuel : Nat) (ip : List UInt8), (∀ x ∈ h :: t, x < 0x10000) →
      ip.length + 2 * t.length < 16 →
      parseIPv6Loop (fuel + t.length + 1) (hexGroups (h :: t)) ip ell =
        some (ip ++ groupBytes (h :: t), ell, [])
  | [], h, fuel, ip, hx, hip => by
    simpa [hexGroups] using parseIPv6Loop_appendHex_nil (hx h (List.mem_cons_self _ _)) (by simpa using hip) ell
  | h' :: t, h, fuel, ip, hx, hip => by
    obtain ⟨c, cs, hcs, hc⟩ := hexGroups_cons_head (hx h' (by simp)) t
    rw [hexGroups_cons_cons, hcs, List.length_cons, ← Nat.add_assoc,
      parseIPv6Loop_appendHex_colon (hx h (List.mem_cons_self _ _)) (by simp at hip; omega) ell hc, ← hcs,
      parseIPv6Loop_hexGroups ell t h' fuel _ (fun x hx' => hx x (List.mem_cons_of_mem _ hx')) (by simp at hip ⊢; omega)]
    simp [groupBytes]

/-- **The group loop reads the groups before a `::`, and marks the zero run there.** -/
theorem parseIPv6Loop_hexGroups_ellipsis (s : List Char) :
    ∀ (t : List Nat) (h fuel : Nat) (ip : List UInt8), (∀ x ∈ h :: t, x < 0x10000) →
      ip.length + 2 * t.length < 16 →
      parseIPv6Loop (fuel + t.length + 1) (hexGroups (h :: t) ++ ':' :: ':' :: s) ip none =
        if s = [] then some (ip ++ groupBytes (h :: t), some (ip ++ groupBytes (h :: t)).length, [])
        else parseIPv6Loop fuel s (ip ++ groupBytes (h :: t)) (some (ip ++ groupBytes (h :: t)).length)
  | [], h, fuel, ip, hx, hip => by
    have := (parseIPv6Loop_appendHex_ellipsis (hx h (List.mem_cons_self _ _)) (by simpa using hip) s :
      parseIPv6Loop (fuel + 1) _ ip none = _)
    simpa [hexGroups] using this
  | h' :: t, h, fuel, ip, hx, hip => by
    obtain ⟨c, cs, hcs, hc⟩ := hexGroups_cons_head (hx h' (by simp)) t
    rw [hexGroups_cons_cons, List.append_assoc, List.cons_append, hcs, List.cons_append, List.length_cons, ← Nat.add_assoc,
      parseIPv6Loop_appendHex_colon (hx h (List.mem_cons_self _ _)) (by simp at hip; omega) none hc, ← List.cons_append, ← hcs,
      parseIPv6Loop_hexGroups_ellipsis s t h' fuel _ (fun x hx' => hx x (List.mem_cons_of_mem _ hx')) (by simp at hip ⊢; omega)]
    simp [groupBytes]

/-! ## 4. The zero run -/

/-- What `zeroRun` may return: no run, or a run of at least two zero groups among the
eight. -/
def IsZeroRun (g : List Nat) (p : Nat × Nat) : Prop :=
  p = (255, 255) ∨ (p.1 + 2 ≤ p.2 ∧ p.2 ≤ 8 ∧ ∀ k, p.1 ≤ k → k < p.2 → g.getD k 0 = 0)

theorem getD_of_lt_takeWhile {l : List Nat} {m : Nat} (hm : m < (l.takeWhile (· == 0)).length) :
    l.getD m 0 = 0 := by
  have hpre : l.takeWhile (· == 0) <+: l := List.takeWhile_prefix _
  have hz := List.mem_takeWhile_imp (List.getElem_mem hm)
  rw [List.getD_eq_getElem?_getD, List.getElem?_eq_getElem (by have := hpre.length_le; omega),
    ← hpre.getElem hm]
  simpa using hz

theorem isZeroRun_zeroRun {g : List Nat} (hg : g.length = 8) : IsZeroRun g (zeroRun g) := by
  refine List.foldlRecOn (motive := IsZeroRun g) _ _ _ (.inl rfl) fun ⟨zs, ze⟩ _ i _ => ?_
  dsimp only
  split_ifs with h
  · have hlen := (List.takeWhile_prefix _ : (g.drop i).takeWhile (· == 0) <+: g.drop i).length_le
    simp only [List.length_drop, hg] at hlen
    refine .inr ⟨by omega, by omega, fun k hk1 hk2 => ?_⟩
    have := getD_of_lt_takeWhile
      (show k - i < ((g.drop i).takeWhile (· == 0)).length by omega)
    rwa [List.getD_eq_getElem?_getD, List.getElem?_drop, Nat.add_sub_cancel' hk1,
      ← List.getD_eq_getElem?_getD] at this
  · assumption

/-! ## 5. The shape of `string6` -/

section Loop

variable {g : List Nat} (hg : g.length = 8) (zs ze : Nat)
include hg

/-- Past the zero run (or with none), each group is printed after a colon. -/
theorem string6Loop_tail : ∀ fuel i, 0 < i → zs < i ∨ 8 ≤ zs → 8 ≤ fuel + i →
    string6Loop g zs ze fuel i = (g.drop i).flatMap fun h => ':' :: appendHex h
  | 0, i, _, _, hi => by simp [string6Loop, List.drop_of_length_le (by omega : g.length ≤ i)]
  | fuel + 1, i, h0, hz, hi => by
    by_cases h8 : 8 ≤ i
    · simp [string6Loop, h8, List.drop_of_length_le (hg ▸ h8 : g.length ≤ i)]
    · have hi8 : i < g.length := by omega
      rw [string6Loop, if_neg h8, if_neg (by omega), if_pos h0,
        string6Loop_tail fuel (i + 1) (by omega) (by omega) (by omega),
        List.drop_eq_getElem_cons hi8]
      simp [List.getD_eq_getElem?_getD, List.getElem?_eq_getElem hi8, -List.getElem_cons_drop]

/-- Before the zero run, the same, up to its start. -/
theorem string6Loop_prefix (hzs : zs < 8) : ∀ n i fuel, 0 < i → i + n = zs →
    string6Loop g zs ze (fuel + n) i =
      ((g.drop i).take n).flatMap (fun h => ':' :: appendHex h) ++ string6Loop g zs ze fuel zs
  | 0, i, fuel, _, hn => by simp [← hn]
  | n + 1, i, fuel, h0, hn => by
    have hi8 : i < g.length := by omega
    rw [show fuel + (n + 1) = (fuel + n) + 1 by omega, string6Loop, if_neg (by omega),
      if_neg (by omega), if_pos h0, string6Loop_prefix hzs n (i + 1) fuel (by omega) (by omega),
      List.drop_eq_getElem_cons hi8]
    simp [List.getD_eq_getElem?_getD, List.getElem?_eq_getElem hi8, -List.getElem_cons_drop]

/-- At the start of the zero run: `::`, then the groups after it. -/
theorem string6Loop_run (hzs : zs < ze) (hze : ze ≤ 8) (fuel : Nat) (hf : 7 ≤ fuel + ze) :
    string6Loop g zs ze (fuel + 1) zs = ':' :: ':' :: hexGroups (g.drop ze) := by
  rw [string6Loop, if_neg (by omega), if_pos rfl]
  by_cases h8 : 8 ≤ ze
  · rw [if_pos h8, List.drop_of_length_le (by omega)]
    rfl
  · have hze8 : ze < g.length := by omega
    rw [if_neg h8, string6Loop_tail hg zs ze fuel (ze + 1) (by omega) (by omega) (by omega),
      List.drop_eq_getElem_cons hze8]
    simp [hexGroups, List.getD_eq_getElem?_getD, List.getElem?_eq_getElem hze8]

end Loop

theorem length_groups (ip : List UInt8) : (groups ip).length = 8 := by
  simp [groups]

/-- **`string6` is the groups joined by colons, or the groups on either side of the zero run
joined by colons around `::`.** -/
theorem string6_eq (ip : List UInt8) :
    string6 ip =
      if (zeroRun (groups ip)).1 = 255 then hexGroups (groups ip)
      else hexGroups ((groups ip).take (zeroRun (groups ip)).1) ++
        ':' :: ':' :: hexGroups ((groups ip).drop (zeroRun (groups ip)).2) := by
  have hr := isZeroRun_zeroRun (length_groups ip)
  have hg := length_groups ip
  rw [string6]
  generalize zeroRun (groups ip) = p at hr ⊢
  generalize groups ip = g at hg hr ⊢
  obtain ⟨zs, ze⟩ := p
  obtain _ | ⟨a, t⟩ := g
  · simp at hg
  rcases hr with hr | ⟨h2, h8, -⟩
  · obtain ⟨rfl, rfl⟩ := Prod.mk.inj hr
    rw [if_pos rfl, string6Loop, if_neg (by omega), if_neg (by omega), if_neg (lt_irrefl 0),
      string6Loop_tail hg 255 255 7 1 (by omega) (by omega) (by omega)]
    simp [hexGroups]
  · rw [if_neg (by simp only; omega)]
    dsimp only at h2 h8 ⊢
    obtain _ | k := zs
    · rw [string6Loop_run hg 0 ze (by omega) h8 7 (by omega)]
      rfl
    · rw [string6Loop, if_neg (by omega), if_neg (by omega), if_neg (lt_irrefl 0),
        show 7 = (7 - k) + k by omega,
        string6Loop_prefix hg (k + 1) ze (by omega) k 1 (7 - k) (by omega) (by omega),
        show 7 - k = (6 - k) + 1 by omega, string6Loop_run hg (k + 1) ze (by omega) h8 (6 - k) (by omega)]
      simp [hexGroups]

/-! ## 6. Reading the two shapes back -/

section Parse

variable {h : Nat} {t : List Nat}

theorem parseIPv6_hexGroups (hx : ∀ x ∈ h :: t, x < 0x10000) (ht : t.length = 7) :
    parseIPv6 (hexGroups (h :: t)) = some (groupBytes (h :: t)) := by
  obtain ⟨c, cs, hcs, hc⟩ := hexGroups_cons_head (hx h (List.mem_cons_self _ _)) t
  have hloop := parseIPv6Loop_hexGroups none t h 0 [] hx (by simp [ht])
  rw [ht, hcs] at hloop
  simp [parseIPv6, hcs, hc, hloop, ht]

theorem parseIPv6_hexGroups_ellipsis (a b : List Nat) (hx : ∀ x ∈ a ++ b, x < 0x10000)
    (hab : a.length + b.length ≤ 6) :
    parseIPv6 (hexGroups a ++ ':' :: ':' :: hexGroups b) =
      some (groupBytes a ++ List.replicate (16 - 2 * (a.length + b.length)) 0 ++ groupBytes b) := by
  rcases a with _ | ⟨h, t⟩ <;> rcases b with _ | ⟨h', t'⟩
  · rfl
  · obtain ⟨c, cs, hcs, hc⟩ := hexGroups_cons_head (hx h' (by simp)) t'
    have hloop := parseIPv6Loop_hexGroups (some 0) t' h' (7 - t'.length) [] (by simpa using hx)
      (by simp at hab ⊢; omega)
    rw [show 7 - t'.length + t'.length + 1 = 8 by simp at hab; omega, hcs] at hloop
    simp at hab
    simp [parseIPv6, hcs, hloop]
    omega
  · obtain ⟨c, cs, hcs, hc⟩ := hexGroups_cons_head (hx h (by simp)) t
    have hloop := parseIPv6Loop_hexGroups_ellipsis [] t h (7 - t.length) [] (by simpa using hx)
      (by simp at hab ⊢; omega)
    rw [show 7 - t.length + t.length + 1 = 8 by simp at hab; omega, hcs, List.cons_append] at hloop
    rw [hexGroups_nil, hcs, List.cons_append]
    generalize cs ++ [':', ':'] = r at hloop
    simp at hab
    simp [parseIPv6, hc, hloop]
    exact ⟨by omega, by rw [List.take_of_length_le (by simp), List.drop_of_length_le (by simp)]; simp⟩
  · obtain ⟨c, cs, hcs, hc⟩ := hexGroups_cons_head (hx h (by simp)) t
    have hloop := parseIPv6Loop_hexGroups_ellipsis (hexGroups (h' :: t')) t h (7 - t.length) []
      (fun x hx' => hx x (List.mem_append_left _ hx')) (by simp at hab ⊢; omega)
    obtain ⟨c', cs', hcs', -⟩ := hexGroups_cons_head (hx h' (by simp)) t'
    have hloop' := parseIPv6Loop_hexGroups (some (groupBytes (h :: t)).length) t' h' (6 - t.length - t'.length)
      (groupBytes (h :: t)) (fun x hx' => hx x (List.mem_append_right _ hx')) (by simp at hab ⊢; omega)
    rw [show 7 - t.length + t.length + 1 = 8 by simp at hab; omega, hcs, List.cons_append, if_neg (by simp [hcs']),
      show 7 - t.length = 6 - t.length - t'.length + t'.length + 1 by simp at hab; omega,
      List.nil_append, hloop'] at hloop
    rw [hcs, List.cons_append]
    generalize cs ++ ':' :: ':' :: hexGroups (h' :: t') = r at hloop
    simp at hab
    simp [parseIPv6, hc, hloop]
    omega

end Parse

/-! ## 7. `string6` reads back -/

theorem groupBytes_replicate_zero (n : Nat) : groupBytes (List.replicate n 0) = List.replicate (2 * n) 0 := by
  induction n with
  | zero => rfl
  | succ n ih =>
    rw [List.replicate_succ, show 2 * (n + 1) = 2 * n + 1 + 1 by omega, List.replicate_succ,
      List.replicate_succ, ← ih]
    rfl

theorem toUInt8_div_256 (a b : UInt8) : ((a.toNat * 256 + b.toNat) / 256).toUInt8 = a := by
  have hb : b.toNat < 256 := UInt8.toNat_lt_size b
  rw [show (a.toNat * 256 + b.toNat) / 256 = a.toNat by omega, toUInt8_toNat]

theorem toUInt8_mod_256 (a b : UInt8) : ((a.toNat * 256 + b.toNat) % 256).toUInt8 = b := by
  have hb : b.toNat < 256 := UInt8.toNat_lt_size b
  rw [show (a.toNat * 256 + b.toNat) % 256 = b.toNat by omega, toUInt8_toNat]

/-- The groups of a 16-byte address stand for its bytes. -/
theorem groupBytes_groups : ∀ ip : List UInt8, ip.length = 16 → groupBytes (groups ip) = ip
  | [b0, b1, b2, b3, b4, b5, b6, b7, b8, b9, b10, b11, b12, b13, b14, b15], _ => by
    simp [groups, groupBytes, List.range, List.range.loop, toUInt8_div_256, toUInt8_mod_256]

theorem groups_lt (ip : List UInt8) : ∀ x ∈ groups ip, x < 0x10000 := by
  simp only [groups, List.mem_map]
  rintro _ ⟨i, -, rfl⟩
  have := UInt8.toNat_lt_size (ip.getD (2 * i) 0)
  have := UInt8.toNat_lt_size (ip.getD (2 * i + 1) 0)
  simp only [UInt8.size] at *
  omega

/-- The groups are the ones before the zero run, the run's zeros, and the ones after it. -/
theorem eq_take_replicate_drop {g : List Nat} {zs ze : Nat} (h2 : zs ≤ ze) (h8 : ze ≤ g.length)
    (hz : ∀ k, zs ≤ k → k < ze → g.getD k 0 = 0) :
    g = g.take zs ++ List.replicate (ze - zs) 0 ++ g.drop ze := by
  have hmid : (g.drop zs).take (ze - zs) = List.replicate (ze - zs) 0 := by
    refine List.eq_replicate_iff.2 ⟨by simp; omega, fun b hb => ?_⟩
    obtain ⟨m, hm, rfl⟩ := List.mem_iff_getElem.1 hb
    simp only [List.length_take, List.length_drop] at hm
    have := hz (zs + m) (by omega) (by omega)
    simpa [List.getD_eq_getElem?_getD, List.getElem?_eq_getElem (show zs + m < g.length by omega)] using this
  have hdrop : g.drop ze = (g.drop zs).drop (ze - zs) := by
    rw [List.drop_drop, Nat.add_sub_cancel' h2]
  rw [← hmid, List.append_assoc, hdrop, List.take_append_drop, List.take_append_drop]

/-- **`string6` reads back as the address it prints.** -/
theorem parseIPv6_string6 (ip : List UInt8) (hip : ip.length = 16) :
    parseIPv6 (string6 ip) = some ip := by
  have hg := length_groups ip
  rw [string6_eq]
  split_ifs with hr
  · obtain ⟨h, t, hht⟩ := List.exists_cons_of_length_eq_add_one hg
    rw [hht, parseIPv6_hexGroups (hht ▸ groups_lt ip) (by simpa [hht] using hg), ← hht,
      groupBytes_groups ip hip]
  · obtain hr' | ⟨h2, h8, hz⟩ := isZeroRun_zeroRun hg
    · simp [hr'] at hr
    generalize (zeroRun (groups ip)).1 = zs at *
    generalize (zeroRun (groups ip)).2 = ze at *
    rw [parseIPv6_hexGroups_ellipsis _ _ (fun x hx => groups_lt ip x (by
        rcases List.mem_append.1 hx with hx | hx
        exacts [List.mem_of_mem_take hx, List.mem_of_mem_drop hx])) (by simp; omega)]
    conv_rhs => rw [← groupBytes_groups ip hip, eq_take_replicate_drop (by omega) (hg ▸ h8) hz]
    simp only [groupBytes_append, groupBytes_replicate_zero, List.length_take, List.length_drop, hg]
    rw [Nat.min_eq_left (by omega : zs ≤ 8), show 16 - 2 * (zs + (8 - ze)) = 2 * (ze - zs) by omega]

/-! ## 8. What `parseIP` returns -/

theorem parseIPv4Fields_length {s : List Char} {f : List UInt8} (h : parseIPv4Fields s = some f) :
    f.length = 4 := by
  unfold parseIPv4Fields at h
  split at h
  · simp only [List.mapM, List.mapM.loop, Option.bind_eq_bind, Option.bind_eq_some] at h
    obtain ⟨_, -, _, -, _, -, _, -, h⟩ := h
    cases h
    rfl
  · cases h

theorem parseIPv6Loop_length : ∀ (fuel : Nat) (s : List Char) (ip : List UInt8) (ell : Option Nat)
    (r : List UInt8 × Option Nat × List Char), parseIPv6Loop fuel s ip ell = some r →
    ip.length ≤ 16 → ip.length % 2 = 0 → r.1.length ≤ 16 ∧ r.1.length % 2 = 0
  | 0, s, ip, ell, r, h, h16, h2 => by
    cases h
    exact ⟨h16, h2⟩
  | fuel + 1, s, ip, ell, r, h, h16, h2 => by
    have ih := parseIPv6Loop_length fuel
    by_cases h1 : 16 ≤ ip.length
    · rw [parseIPv6Loop, if_pos h1] at h
      cases h
      exact ⟨h16, h2⟩
    rw [parseIPv6Loop, if_neg h1] at h
    generalize hexRun s = p at h
    obtain ⟨digits, rest⟩ := p
    dsimp only at h
    by_cases h3 : digits = [] ∨ 4 < digits.length
    · simp [h3] at h
    rw [if_neg h3] at h
    by_cases h4 : rest.head? = some '.'
    · rw [if_pos h4] at h
      split_ifs at h with h5
      obtain ⟨f, hf, rfl⟩ := Option.map_eq_some'.1 h
      simp only [List.length_append, parseIPv4Fields_length hf]
      omega
    rw [if_neg h4] at h
    split at h
    · cases h
      simp only [List.length_append, List.length_cons, List.length_nil]
      omega
    · cases h
    · split_ifs at h
      · cases h
        simp only [List.length_append, List.length_cons, List.length_nil]
        omega
      · exact ih _ _ _ _ h (by simp; omega) (by simp; omega)
    · exact ih _ _ _ _ h (by simp; omega) (by simp; omega)
    · cases h

theorem parseIPv6_length {s : List Char} {ip : List UInt8} (h : parseIPv6 s = some ip) :
    ip.length = 16 := by
  unfold parseIPv6 at h
  split at h
  split_ifs at h with h0
  · cases h
    rfl
  split at h
  · rename_i ip' e' heq
    have hl := (parseIPv6Loop_length 8 _ [] _ _ heq (by simp) (by simp)).1
    split_ifs at h with h1 h2
    · split at h
      · cases h
        simp only [List.length_append, List.length_take, List.length_replicate, List.length_drop]
        omega
      · cases h
    · cases h
      dsimp only at hl
      omega
  · cases h

/-- **`net.ParseIP` returns 16 bytes, or nothing.** -/
theorem parseIP_length {s : String} {ip : List UInt8} (h : parseIP s = some ip) :
    ip.length = 16 := by
  unfold parseIP at h
  split at h
  · obtain ⟨f, hf, rfl⟩ := Option.map_eq_some'.1 h
    simp [parseIPv4Fields_length hf]
  · split_ifs at h
    exact parseIPv6_length h
  · cases h

/-! ## 9. `ip.String()` reads back -/

/-- The characters of a printed address: digits, and one separator (the dot of a dotted quad,
the colon of IPv6 text). -/
def IsDigitOr (sep c : Char) : Prop :=
  c = sep ∨ ∃ d < 16, c = Nat.digitChar d

theorem mem_intercalate {α : Type} {sep : List α} :
    ∀ {xs : List (List α)} {c : α}, c ∈ sep.intercalate xs → c ∈ sep ∨ ∃ x ∈ xs, c ∈ x
  | [], _, h => by simp [List.intercalate] at h
  | [x], _, h => .inr ⟨x, List.mem_singleton_self x, by simpa [List.intercalate] using h⟩
  | x :: y :: t, c, h => by
    have e : sep.intercalate (x :: y :: t) = x ++ sep ++ sep.intercalate (y :: t) := by
      simp [List.intercalate, List.intersperse]
    rw [e, List.mem_append, List.mem_append] at h
    rcases h with (h | h) | h
    · exact .inr ⟨x, List.mem_cons_self _ _, h⟩
    · exact .inl h
    · rcases mem_intercalate h with h | ⟨z, hz, h⟩
      exacts [.inl h, .inr ⟨z, List.mem_cons_of_mem _ hz, h⟩]

theorem isDigitOr_of_mem_string4 {p : List UInt8} {c : Char} (h : c ∈ string4 p) :
    IsDigitOr '.' c := by
  rcases mem_intercalate h with h | ⟨x, hx, h⟩
  · exact .inl (List.mem_singleton.1 h)
  · obtain ⟨b, -, rfl⟩ := List.mem_map.1 hx
    obtain ⟨d, hd, rfl⟩ := mem_appendDecimal (UInt8.toNat_lt_size b) h
    exact .inr ⟨d, by omega, rfl⟩

theorem isDigitOr_of_mem_appendHex {x : Nat} (hx : x < 0x10000) {c : Char} (h : c ∈ appendHex x) :
    IsDigitOr ':' c := by
  rw [appendHex_eq_map] at h
  obtain ⟨d, hd, rfl⟩ := List.mem_map.1 h
  exact .inr ⟨d, lt_of_mem_hexDigits hx hd, rfl⟩

theorem isDigitOr_of_mem_hexGroups {hs : List Nat} (hx : ∀ x ∈ hs, x < 0x10000) {c : Char}
    (h : c ∈ hexGroups hs) : IsDigitOr ':' c := by
  obtain _ | ⟨x, t⟩ := hs
  · cases h
  simp only [hexGroups, List.mem_append, List.mem_flatMap, List.mem_cons] at h
  rcases h with h | ⟨y, hy, rfl | h⟩
  · exact isDigitOr_of_mem_appendHex (hx x (List.mem_cons_self _ _)) h
  · exact .inl rfl
  · exact isDigitOr_of_mem_appendHex (hx y (List.mem_cons_of_mem _ hy)) h

theorem isDigitOr_of_mem_string6 (ip : List UInt8) {c : Char} (h : c ∈ string6 ip) :
    IsDigitOr ':' c := by
  have hx := groups_lt ip
  rw [string6_eq] at h
  split_ifs at h
  · exact isDigitOr_of_mem_hexGroups hx h
  · simp only [List.mem_append, List.mem_cons] at h
    rcases h with h | rfl | rfl | h
    · exact isDigitOr_of_mem_hexGroups (fun x h => hx x (List.mem_of_mem_take h)) h
    · exact .inl rfl
    · exact .inl rfl
    · exact isDigitOr_of_mem_hexGroups (fun x h => hx x (List.mem_of_mem_drop h)) h

theorem colon_mem_string6 (ip : List UInt8) : ':' ∈ string6 ip := by
  rw [string6_eq]
  split_ifs
  · obtain ⟨h, t, ht⟩ := List.exists_cons_of_length_eq_add_one (length_groups ip)
    obtain ⟨h', t', rfl⟩ := List.exists_cons_of_length_eq_add_one (show t.length = 6 + 1 by
      simpa [ht] using length_groups ip)
    simp [ht, hexGroups_cons_cons]
  · simp

/-- The character `parseIP` dispatches on, in a text of digits and one separator. -/
theorem find?_of_isDigitOr {s : List Char} {a : Char} (ha : a ∈ s) (hpa : a = '.' ∨ a = ':')
    (hs : ∀ c ∈ s, IsDigitOr a c) :
    s.find? (fun c => c == '.' || c == ':' || c == '%') = some a := by
  have hsome : (s.find? fun c => c == '.' || c == ':' || c == '%').isSome :=
    List.find?_isSome.2 ⟨a, ha, by rcases hpa with rfl | rfl <;> rfl⟩
  obtain ⟨c, hc⟩ := Option.isSome_iff_exists.1 hsome
  rw [hc]
  rcases hs c (List.mem_of_find?_eq_some hc) with rfl | ⟨d, hd, rfl⟩
  · rfl
  · have := List.find?_some hc
    have := digitChar_not_sep d hd
    simp_all

theorem parseIP_string6 (ip : List UInt8) (hip : ip.length = 16) : parseIP ⟨string6 ip⟩ = some ip := by
  have hpct : '%' ∉ string6 ip := fun h => by
    rcases isDigitOr_of_mem_string6 ip h with h | ⟨d, hd, h⟩
    · cases h
    · exact digitChar_not_sep d hd (by simp [← h])
  unfold parseIP
  dsimp only
  rw [find?_of_isDigitOr (colon_mem_string6 ip) (.inr rfl) fun c => isDigitOr_of_mem_string6 ip]
  simp only [hpct, if_false, parseIPv6_string6 ip hip]

/-- **`ip.String()` of an address `net.ParseIP` returns reads back as the same address.** -/
theorem parseIP_ipString {ip : List UInt8} (hip : ip.length = 16) : parseIP (ipString ip) = some ip := by
  by_cases hm : (ip.take 10).all (· == 0) ∧ ip[10]? = some 0xff ∧ ip[11]? = some 0xff
  · match ip, hip with
    | [b0, b1, b2, b3, b4, b5, b6, b7, b8, b9, b10, b11, b12, b13, b14, b15], _ =>
      simp only [List.take, List.all_cons, List.all_nil, Bool.and_true, Bool.and_eq_true, beq_iff_eq,
        List.getElem?_cons_succ, List.getElem?_cons_zero, Option.some.injEq] at hm
      obtain ⟨⟨rfl, rfl, rfl, rfl, rfl, rfl, rfl, rfl, rfl, rfl⟩, rfl, rfl⟩ := hm
      exact parseIP_string4 b12 b13 b14 b15
  · have h4 : to4 ip = none := by rw [to4, if_neg (by omega), if_neg fun h => hm h.2]
    rw [ipString, if_neg (by omega), if_neg (by omega), h4]
    simp only [addrFrom16String, if_neg hm]
    exact parseIP_string6 ip hip

/-- A printed address has no bracket. -/
theorem not_bracket_of_isDigitOr {sep c : Char} (h : IsDigitOr sep c) (hs : sep = '.' ∨ sep = ':') :
    c ≠ '[' ∧ c ≠ ']' := by
  rcases h with rfl | ⟨d, hd, rfl⟩
  · rcases hs with rfl | rfl <;> decide
  · have := digitChar_not_sep d hd
    simp only [List.mem_cons, List.mem_singleton, not_or, List.not_mem_nil] at this
    exact ⟨this.2.2.2.1, this.2.2.2.2.1⟩

/-- A printed 16-byte address has no bracket. -/
theorem bracket_not_mem_ipString {ip : List UInt8} (hip : ip.length = 16) :
    '[' ∉ (ipString ip).data ∧ ']' ∉ (ipString ip).data := by
  have hc : ∀ c ∈ (ipString ip).data, c ≠ '[' ∧ c ≠ ']' := fun c hc => by
    rw [ipString, if_neg (by omega), if_neg (by omega)] at hc
    split at hc
    · exact not_bracket_of_isDigitOr (isDigitOr_of_mem_string4 hc) (.inl rfl)
    · next h4 =>
      rw [to4, if_neg (by omega)] at h4
      rw [addrFrom16String, if_neg fun h => by rw [if_pos ⟨hip, h⟩] at h4; cases h4] at hc
      dsimp only at hc
      exact not_bracket_of_isDigitOr (isDigitOr_of_mem_string6 ip hc) (.inr rfl)
  exact ⟨fun h => (hc _ h).1 rfl, fun h => (hc _ h).2 rfl⟩

end Net

end KubeDns
