/-
# The Go runtime and the library calls the engine makes

`dns.go` and `util/util.go` lean on a handful of library functions: `strings.Split`,
`strings.Join`, `strings.TrimRight`, `strings.HasSuffix`, `strings.TrimSuffix`,
`strings.ToLower`, `strings.Replace`, `strconv.Atoi`, `dns.Fqdn` (miekg/dns), `hash/fnv`
and the `%x` verb of `fmt`.  This file models each of them, and the two ways a Go call can
end badly: an error VALUE, which the function returns and its caller tests, and a PANIC
(an index or a slice out of range, a nil pointer), which unwinds.

Strings are Lean `String`s and every operation works on the character list, so that
`List.splitOn` and `List.intercalate` carry the label round trip (`split_join`,
`join_split`).  Go slices are lists: the engine never writes through an alias of a slice
it reads again (every `append` onto `kd.domainPath` allocates, since `strings.Split`
returns a full slice), so value semantics is exact.
-/
import Mathlib.Data.List.Basic

namespace KubeDns

/-! ## 1. Errors and panics -/

/-- The error values the engine returns: `etcd.Error{Code: etcd.ErrorCodeKeyNotFound}` and
the `fmt.Errorf` messages. -/
inductive DnsError where
  | keyNotFound
  | message (text : String)
  deriving DecidableEq, Repr

/-- The runtime panics the engine's code could raise. -/
inductive Panic where
  | indexOutOfRange
  | sliceBoundsOutOfRange
  | nilPointerDereference
  deriving DecidableEq, Repr

/-- How a Go call ends other than normally: a returned error, or a panic. -/
inductive GoError where
  | error (e : DnsError)
  | panic (p : Panic)
  deriving DecidableEq, Repr

/-- A Go computation: a value, a returned error, or a panic. -/
abbrev Go := Except GoError

/-- Results can be compared, so that a run of the model can be checked by `decide`. -/
instance instDecidableEqExcept {ε α : Type} [DecidableEq ε] [DecidableEq α] :
    DecidableEq (Except ε α)
  | .ok a, .ok b =>
    if h : a = b then isTrue (h ▸ rfl) else isFalse fun e => h (by injection e)
  | .error a, .error b =>
    if h : a = b then isTrue (h ▸ rfl) else isFalse fun e => h (by injection e)
  | .ok _, .error _ => isFalse Except.noConfusion
  | .error _, .ok _ => isFalse Except.noConfusion

/-- A Go call that ends normally, with a value or a returned error, and not with a panic. -/
def Go.Returns {α : Type} : Go α → Prop
  | .ok _ => True
  | .error (.error _) => True
  | .error (.panic _) => False

@[simp] theorem Go.returns_ok {α : Type} (a : α) : Go.Returns (.ok a : Go α) := trivial

@[simp] theorem Go.returns_pure {α : Type} (a : α) : Go.Returns (pure a : Go α) := trivial

@[simp] theorem Go.returns_error {α : Type} (e : DnsError) :
    Go.Returns (.error (.error e) : Go α) := trivial

/-- A sequence returns when its first call does and every continuation of a value does. -/
theorem Go.Returns.bind {α β : Type} {x : Go α} {f : α → Go β} (hx : x.Returns)
    (hf : ∀ a, x = .ok a → (f a).Returns) : (x >>= f).Returns := by
  match x, hx with
  | .ok a, _ => exact hf a rfl
  | .error (.error _), _ => trivial

@[simp] theorem ok_bind {α β : Type} (a : α) (f : α → Go β) :
    (Except.ok a : Go α) >>= f = f a := rfl

@[simp] theorem error_bind {α β : Type} (e : GoError) (f : α → Go β) :
    (Except.error e : Go α) >>= f = .error e := rfl

@[simp] theorem throw_eq {α : Type} (e : GoError) : (throw e : Go α) = .error e := rfl

/-- `xs[i]`, which panics out of range (also for a negative index). -/
def index {α : Type} (xs : List α) (i : Int) : Go α :=
  if h : 0 ≤ i ∧ i.toNat < xs.length then pure (xs.get ⟨i.toNat, h.2⟩)
  else throw (.panic .indexOutOfRange)

/-- `xs[:hi]`.  Go bounds `hi` by the capacity; the model bounds it by the length, which
only adds panics. -/
def sliceTo {α : Type} (xs : List α) (hi : Int) : Go (List α) :=
  if 0 ≤ hi ∧ hi ≤ xs.length then pure (xs.take hi.toNat)
  else throw (.panic .sliceBoundsOutOfRange)

/-- `xs[lo:]`. -/
def sliceFrom {α : Type} (xs : List α) (lo : Int) : Go (List α) :=
  if 0 ≤ lo ∧ lo ≤ xs.length then pure (xs.drop lo.toNat)
  else throw (.panic .sliceBoundsOutOfRange)

theorem index_of_lt {α : Type} {xs : List α} {i : Nat} (h : i < xs.length) :
    index xs i = pure (xs.get ⟨i, h⟩) := by
  simp [index, h, Int.ofNat_zero_le]

theorem sliceTo_of_le {α : Type} {xs : List α} {hi : Nat} (h : hi ≤ xs.length) :
    sliceTo xs hi = pure (xs.take hi) := by
  simp [sliceTo, h, Int.ofNat_zero_le]

theorem sliceFrom_of_le {α : Type} {xs : List α} {lo : Nat} (h : lo ≤ xs.length) :
    sliceFrom xs lo = pure (xs.drop lo) := by
  simp [sliceFrom, h, Int.ofNat_zero_le]

theorem index_last {α : Type} {xs : List α} (h : xs ≠ []) :
    index xs ((xs.length : Int) - 1) = pure (xs.getLast h) := by
  have hl : 0 < xs.length := List.length_pos.2 h
  have hi : (xs.length : Int) - 1 = ((xs.length - 1 : Nat) : Int) := by omega
  rw [hi, index_of_lt (by omega)]
  simp [List.getLast_eq_getElem]

theorem sliceTo_last {α : Type} {xs : List α} (h : xs ≠ []) :
    sliceTo xs ((xs.length : Int) - 1) = pure xs.dropLast := by
  have hl : 0 < xs.length := List.length_pos.2 h
  have hi : (xs.length : Int) - 1 = ((xs.length - 1 : Nat) : Int) := by omega
  rw [hi, sliceTo_of_le (by omega), List.dropLast_eq_take]

/-! ## 2. The `strings` package, for a one-character separator -/

namespace Strings

/-- `strings.Split(s, sep)`. -/
def split (s : String) (sep : Char) : List String :=
  (s.data.splitOn sep).map String.mk

/-- `strings.Join(elems, sep)`. -/
def join (elems : List String) (sep : Char) : String :=
  ⟨[sep].intercalate (elems.map String.data)⟩

/-- `strings.TrimRight(s, cutset)`: drops every trailing character of the cutset. -/
def trimRight (s : String) (c : Char) : String :=
  ⟨(s.data.reverse.dropWhile (· == c)).reverse⟩

/-- `strings.HasSuffix(s, suffix)`. -/
def hasSuffix (s suffix : String) : Bool :=
  suffix.data.isSuffixOf s.data

/-- `strings.TrimSuffix(s, suffix)`. -/
def trimSuffix (s suffix : String) : String :=
  if hasSuffix s suffix then ⟨s.data.take (s.length - suffix.length)⟩ else s

/-- `strings.ToLower(s)` (on ASCII letters; the engine lowers protocol names). -/
def toLower (s : String) : String :=
  ⟨s.data.map Char.toLower⟩

/-- `strings.Replace(s, old, new, -1)` for one-character `old` and `new`. -/
def replaceAll (s : String) (old new : Char) : String :=
  ⟨s.data.map fun c => if c = old then new else c⟩

theorem split_ne_nil (s : String) (sep : Char) : split s sep ≠ [] := by
  simpa [split] using List.splitOnP_ne_nil _ s.data

/-- `strings.Split` undoes `strings.Join` when no element holds the separator. -/
theorem split_join {ls : List String} {sep : Char} (hls : ls ≠ [])
    (hsep : ∀ l ∈ ls, sep ∉ l.data) : split (join ls sep) sep = ls := by
  have h := List.splitOn_intercalate (ls.map String.data) sep (by simpa using hsep)
    (by simpa using hls)
  simp only [split, join, h, List.map_map]
  conv_rhs => rw [← List.map_id ls]
  rfl

/-- No piece that `splitOnP` cuts holds an element it cuts at. -/
theorem not_mem_of_mem_splitOnP {α : Type} (p : α → Bool) :
    ∀ (xs l : List α), l ∈ xs.splitOnP p → ∀ y ∈ l, p y = false
  | [], l, hl => by simp_all
  | x :: xs, l, hl => by
    have ih := not_mem_of_mem_splitOnP p xs
    rw [List.splitOnP_cons] at hl
    split_ifs at hl with hx
    · rcases List.mem_cons.1 hl with rfl | hl
      exacts [fun _ h => absurd h (List.not_mem_nil _), ih _ hl]
    · obtain ⟨h, t, ht⟩ := List.exists_cons_of_ne_nil (List.splitOnP_ne_nil p xs)
      rw [ht] at hl ih
      rcases List.mem_cons.1 hl with rfl | hl
      · intro y hy
        rcases List.mem_cons.1 hy with rfl | hy
        exacts [by simpa using hx, ih _ (List.mem_cons_self _ _) y hy]
      · exact ih _ (List.mem_cons_of_mem _ hl)

/-- No label of `strings.Split(s, sep)` holds `sep`. -/
theorem not_mem_of_mem_split {s : String} {sep : Char} {l : String} (hl : l ∈ split s sep) :
    sep ∉ l.data := by
  obtain ⟨piece, hp, rfl⟩ := List.mem_map.1 hl
  exact fun h => by simpa using not_mem_of_mem_splitOnP _ _ _ hp sep h

/-- `strings.Join` undoes `strings.Split`. -/
theorem join_split (s : String) (sep : Char) : join (split s sep) sep = s := by
  have hid : (String.data ∘ String.mk) = id := rfl
  simp only [join, split, List.map_map, hid, List.map_id, List.intercalate_splitOn]

/-- Splitting the join of a split, in any order of its labels, gives those labels back. -/
theorem split_join_reverse_split (s : String) (sep : Char) :
    split (join (split s sep).reverse sep) sep = (split s sep).reverse :=
  split_join (by simpa using split_ne_nil s sep)
    fun _ hl => not_mem_of_mem_split (List.mem_reverse.1 hl)

theorem hasSuffix_append (s t : String) : hasSuffix (s ++ t) t = true := by
  simp [hasSuffix, List.isSuffixOf_iff_suffix]

theorem trimSuffix_append (s t : String) : trimSuffix (s ++ t) t = s := by
  rw [trimSuffix, if_pos (hasSuffix_append s t), String.length_append, Nat.add_sub_cancel]
  exact String.ext (List.take_left' rfl)

/-- A string that ends in `t` is its `TrimSuffix` followed by `t`. -/
theorem trimSuffix_append_of_hasSuffix {s t : String} (h : hasSuffix s t = true) :
    trimSuffix s t ++ t = s := by
  obtain ⟨u, hu⟩ := List.isSuffixOf_iff_suffix.1 h
  have hs : s = ⟨u⟩ ++ t := String.ext (by simp [← hu])
  rw [hs, trimSuffix_append]

@[simp] theorem join_singleton (s : String) (sep : Char) : join [s] sep = s := by
  simp [join, List.intercalate]

theorem join_cons_cons (a b : String) (ls : List String) (sep : Char) :
    join (a :: b :: ls) sep = a ++ ⟨[sep]⟩ ++ join (b :: ls) sep := by
  simp [join, List.intercalate, List.intersperse_cons_cons, String.ext_iff]

/-- Trimming a character off the end of a string that does not end in it. -/
theorem trimRight_append_char {s : String} {c : Char} (hs : s.data.getLast? ≠ some c) :
    trimRight (s ++ ⟨[c]⟩) c = s := by
  cases h : s.data.reverse with
  | nil =>
    have : s.data = [] := List.reverse_eq_nil_iff.mp h
    simp [trimRight, String.ext_iff, this]
  | cons x xs =>
    have hx : x ≠ c := by
      rintro rfl
      exact hs (by rw [List.getLast?_eq_head?_reverse, h]; rfl)
    have hb : (x == c) = false := by simpa using hx
    have hs' : s.data = (x :: xs).reverse := by rw [← h, List.reverse_reverse]
    simp [trimRight, String.ext_iff, h, hb, List.dropWhile, hs']

/-- `strings.TrimRight(s, c)` never ends in `c`. -/
theorem trimRight_getLast (s : String) (c : Char) : (trimRight s c).data.getLast? ≠ some c := by
  have h := List.head?_dropWhile_not (· == c) s.data.reverse
  rw [trimRight, List.getLast?_reverse]
  intro hc
  rw [hc] at h
  simp at h

/-- `strings.HasSuffix(s, ".")` fails on a string whose last character is not a dot. -/
theorem hasSuffix_dot_of_getLast {s : String} (hs : s.data.getLast? ≠ some '.') :
    hasSuffix s "." = false := by
  rw [List.getLast?_eq_head?_reverse] at hs
  cases h : s.data.reverse with
  | nil => simp [hasSuffix, List.isSuffixOf, h]
  | cons x xs =>
    have hx : x ≠ '.' := fun hx => hs (by rw [h, hx]; rfl)
    simp [hasSuffix, List.isSuffixOf, h, List.isPrefixOf, Ne.symm hx]

theorem join_cons {ls : List String} (hls : ls ≠ []) (a : String) (sep : Char) :
    join (a :: ls) sep = a ++ ⟨[sep]⟩ ++ join ls sep := by
  obtain ⟨b, ls, rfl⟩ := List.exists_cons_of_ne_nil hls
  exact join_cons_cons a b ls sep

/-- Joining two non-empty lists puts one separator between their joins. -/
theorem join_append {A B : List String} (hA : A ≠ []) (hB : B ≠ []) (sep : Char) :
    (join (A ++ B) sep).data = (join A sep).data ++ sep :: (join B sep).data := by
  induction A with
  | nil => contradiction
  | cons a A ih =>
    rcases eq_or_ne A [] with rfl | hne
    · rw [List.singleton_append, join_cons hB, join_singleton]
      simp
    · rw [List.cons_append, join_cons (by simp [hne]), join_cons hne]
      simp [ih hne]

/-- A last element joins after a separator. -/
theorem join_append_singleton {ls : List String} (hls : ls ≠ []) (l : String) (sep : Char) :
    (join (ls ++ [l]) sep).data = (join ls sep).data ++ sep :: l.data := by
  rw [join_append hls (List.cons_ne_nil _ _), join_singleton]

theorem join_append_split {A : List String} (hA : A ≠ []) (t : String) (sep : Char) :
    join (A ++ split t sep) sep = join (A ++ [t]) sep := by
  apply String.ext
  rw [join_append hA (split_ne_nil t sep), join_split, join_append_singleton hA]

/-- `strings.Split` recovers the elements of a join before the last one, when none of them
holds the separator. -/
theorem split_join_append_singleton {A : List String} {sep : Char}
    (hA : ∀ a ∈ A, sep ∉ a.data) (t : String) :
    split (join (A ++ [t]) sep) sep = A ++ split t sep := by
  induction A with
  | nil => simp
  | cons a A ih =>
    have ha : ∀ x ∈ a.data, ¬(x == sep) = true := fun x hx h =>
      hA a (List.mem_cons_self _ _) (by rwa [← eq_of_beq h])
    rw [List.cons_append, join_cons (by simp), List.cons_append,
      ← ih fun b hb => hA b (List.mem_cons_of_mem _ hb)]
    simp only [split, List.splitOn, String.data_append, List.append_assoc, List.singleton_append]
    rw [List.splitOnP_first _ _ ha sep (by simp), List.map_cons]

/-- `strings.TrimRight` of a concatenation stops in the second part if that part does not
trim to nothing. -/
theorem trimRight_append {s t : String} {c : Char} (h : (trimRight t c).data ≠ []) :
    trimRight (s ++ t) c = s ++ trimRight t c := by
  have h' : t.data.reverse.dropWhile (· == c) ≠ [] := by
    simpa [trimRight] using h
  apply String.ext
  simp only [trimRight, String.data_append, List.reverse_append, List.dropWhile_append]
  rw [if_neg (by simpa [List.isEmpty_iff] using h')]
  simp

/-- Lower-casing never produces a dot. -/
theorem char_toLower_eq_dot {c : Char} (h : c.toLower = '.') : c = '.' := by
  unfold Char.toLower at h
  dsimp only at h
  split_ifs at h with hu
  · exfalso
    have hv : (c.toNat + 32).isValidChar := Or.inl (by omega)
    have h1 := congrArg Char.toNat h
    unfold Char.ofNat at h1
    rw [dif_pos hv] at h1
    change c.toNat + 32 = 46 at h1
    omega
  · exact h

theorem dot_not_mem_toLower {s : String} (h : '.' ∉ s.data) : '.' ∉ (toLower s).data := by
  simp only [toLower, List.mem_map, not_exists, not_and]
  intro c hc heq
  exact h (char_toLower_eq_dot heq ▸ hc)

theorem replaceAll_append (s t : String) (old new : Char) :
    replaceAll (s ++ t) old new = replaceAll s old new ++ replaceAll t old new :=
  String.ext (List.map_append _ _ _)

theorem replaceAll_of_not_mem {s : String} {old : Char} (h : old ∉ s.data) (new : Char) :
    replaceAll s old new = s :=
  String.ext ((List.map_congr_left fun c hc => if_neg fun (e : c = old) => h (e ▸ hc)).trans
    (List.map_id _))

/-- `strings.ReplaceAll` of the separator re-joins parts that do not hold it with the new
one. -/
theorem replaceAll_join {old new : Char} :
    ∀ {L : List String}, (∀ x ∈ L, old ∉ x.data) → replaceAll (join L old) old new = join L new
  | [], _ => rfl
  | [x], h => by rw [join_singleton, join_singleton, replaceAll_of_not_mem (h x (by simp))]
  | x :: y :: L, h => by
    rw [join_cons_cons, join_cons_cons, replaceAll_append, replaceAll_append,
      replaceAll_of_not_mem (h x (by simp)),
      replaceAll_join fun z hz => h z (List.mem_cons_of_mem _ hz)]
    congr
    simp [replaceAll]

end Strings

namespace Strconv

/-- `strconv.Atoi(s)`, on what its callers read: the value, or `none` for its error (a
syntax error, or a range error past 64 bits).  An optional sign, then decimal digits. -/
def atoi (s : String) : Option Int :=
  let (neg, digits) : Bool × List Char :=
    match s.data with
    | '-' :: rest => (true, rest)
    | '+' :: rest => (false, rest)
    | rest => (false, rest)
  if digits = [] ∨ digits.any (fun c => !c.isDigit) then none
  else
    let n := digits.foldl (fun n c => n * 10 + (c.toNat - '0'.toNat)) 0
    -- `2^63`, the bound of `int64`
    if neg then (if n ≤ 9223372036854775808 then some (-(n : Int)) else none)
    else if n < 9223372036854775808 then some n else none

end Strconv

/-! ## 3. `fmt`, `hash/fnv` and `dns.Fqdn` -/

/-- The UTF-8 bytes of a Go string. -/
def utf8 (s : String) : List UInt8 :=
  s.data.flatMap String.utf8EncodeChar

/-- `fnv.New32a()`, written with the bytes and read with `Sum32()`: FNV-1a, 32 bits. -/
def fnv32a (bytes : List UInt8) : UInt32 :=
  bytes.foldl (fun h b => (h ^^^ b.toUInt32) * 16777619) 2166136261

/-- `fmt.Sprintf("%x", n)` for an unsigned integer: lower-case hex, no padding. -/
def hexNat (n : Nat) : String :=
  ⟨Nat.toDigits 16 n⟩

/-- `fmt.Sprintf("%x", s)` for a string: two lower-case hex digits per byte. -/
def hexBytes (s : String) : String :=
  ⟨(utf8 s).flatMap fun b => [Nat.digitChar (b.toNat / 16), Nat.digitChar (b.toNat % 16)]⟩

namespace Dns

/-- `dns.IsFqdn(s)`: `s` ends in a dot that an odd run of backslashes does not escape. -/
def isFqdn (s : String) : Bool :=
  match s.data.reverse with
  | '.' :: rest => (rest.takeWhile (· == '\\')).length % 2 == 0
  | _ => false

/-- `dns.Fqdn(s)`: `s` with a trailing dot added unless it has one. -/
def fqdn (s : String) : String :=
  if isFqdn s then s else s ++ "."

/-- A name that does not end in a dot gets one. -/
theorem fqdn_of_getLast {s : String} (hs : s.data.getLast? ≠ some '.') :
    fqdn s = s ++ "." := by
  have : isFqdn s = false := by
    unfold isFqdn
    split
    · next rest h =>
      exact absurd (by rw [List.getLast?_eq_head?_reverse, h]; rfl) hs
    · rfl
  simp [fqdn, this]

end Dns

end KubeDns
