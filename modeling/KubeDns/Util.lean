/-
# `util/util.go`

The helpers the engine builds records and names with: `ReverseArray` (the in-place
swapping loop), `ExtractIP`, `NewServiceRecord`, `HashServiceRecord`, `GetSkyMsg`,
`IsServiceIPSet` and `GetClusterIPs`; and `ValidateNameserverIpAndPort`, which the
configuration push runs on every upstream nameserver.

`ReverseArray` is written as the loop it is: `len(arr)/2` iterations, each swapping
`arr[i]` and `arr[len(arr)-i-1]`.  Its invariant (`Swapped`: after `i` iterations the first
`i` and the last `i` slots hold each other's original values) gives
`reverseArray_eq_reverse`, which every name builder and parser of the engine relies on;
`reverseArray_reverses_in_place` gathers the loop's whole behaviour (one pair per
iteration, the middle in place, nothing done on length 0 or 1, an involution).

`GetSkyMsg` derives a record's leaf key from FNV-1a over the record's `%v` rendering,
printed in hex twice over (`HashServiceRecord` prints the sum with `%x`, and `GetSkyMsg`
prints that string with `%x` again).  The only facts the rest of the development needs of
these labels are that they are non-empty and hold no dot (`getSkyMsg_label_ne`,
`dot_not_mem_getSkyMsg_label`).
-/
import Mathlib.Data.Nat.Digits
import Mathlib.Tactic.IntervalCases
import KubeDns.Api
import KubeDns.Net

namespace KubeDns

/-! ## 1. `ReverseArray` -/

namespace reverseArray

/-- The loop body at `i`: `arr[i], arr[j] = arr[j], arr[i]` with `j = len(arr) - i - 1`. -/
def swap (arr : List String) (i : Nat) : List String :=
  let j := arr.length - i - 1
  (arr.set i (arr.getD j "")).set j (arr.getD i "")

/-- The loop from iteration `i` on, with `k` iterations left. -/
def loop : List String → Nat → Nat → List String
  | arr, _, 0 => arr
  | arr, i, k + 1 => loop (swap arr i) (i + 1) k

end reverseArray

/-- `util.ReverseArray(arr)`: `for i := 0; i < len(arr)/2; i++` swapping the mirrored pair. -/
def reverseArray (arr : List String) : List String :=
  reverseArray.loop arr 0 (arr.length / 2)

namespace reverseArray

/-- After `i` iterations on `orig`: the first and last `i` slots are swapped, the middle
is as it was. -/
def Swapped (orig arr : List String) (i : Nat) : Prop :=
  arr.length = orig.length ∧ ∀ m < orig.length,
    arr[m]? = if m < i ∨ orig.length - i ≤ m then orig[orig.length - 1 - m]? else orig[m]?

theorem some_getD {l : List String} {m : Nat} (h : m < l.length) : some (l.getD m "") = l[m]? := by
  simp [List.getD_eq_getElem?_getD, List.getElem?_eq_getElem h]

theorem swapped_zero (orig : List String) : Swapped orig orig 0 :=
  ⟨rfl, fun m hm => by rw [if_neg (by omega)]⟩

/-- **One iteration keeps the invariant**, while `i` is below `len(arr)/2`. -/
theorem swapped_swap {orig arr : List String} {i : Nat} (h : Swapped orig arr i)
    (hi : 2 * i + 1 < orig.length) : Swapped orig (swap arr i) (i + 1) := by
  obtain ⟨hlen, hget⟩ := h
  refine ⟨by simp [swap, hlen], fun m hm => ?_⟩
  have hgi := hget i (by omega)
  have hgj := hget (orig.length - i - 1) (by omega)
  rw [if_neg (by omega)] at hgi hgj
  simp only [swap, hlen, List.getElem?_set, List.length_set]
  by_cases hmj : orig.length - i - 1 = m
  · subst hmj
    rw [if_pos rfl, if_pos (by omega), some_getD (by omega), hgi, if_pos (by omega)]
    congr 1
    omega
  · by_cases hmi : i = m
    · subst hmi
      rw [if_neg hmj, if_pos rfl, if_pos (by omega), some_getD (by omega), hgj,
        if_pos (by omega)]
      congr 1
      omega
    · rw [if_neg hmj, if_neg hmi, hget m hm]
      congr 1
      apply propext
      omega

theorem swapped_loop {orig : List String} :
    ∀ (k : Nat) (arr : List String) (i : Nat), Swapped orig arr i →
      2 * (i + k) ≤ orig.length → Swapped orig (loop arr i k) (i + k)
  | 0, _, _, h, _ => h
  | k + 1, arr, i, h, hk => by
    have := swapped_loop k (swap arr i) (i + 1) (swapped_swap h (by omega)) (by omega)
    rwa [show i + 1 + k = i + (k + 1) by omega] at this

end reverseArray

/-- **`ReverseArray` reverses.**  The loop leaves the middle element of an odd-length slice
in place and swaps every mirrored pair once. -/
theorem reverseArray_eq_reverse (arr : List String) : reverseArray arr = arr.reverse := by
  obtain ⟨hlen, hget⟩ :=
    reverseArray.swapped_loop (arr.length / 2) arr 0 (reverseArray.swapped_zero arr) (by omega)
  apply List.ext_getElem?
  intro m
  by_cases hm : m < arr.length
  · rw [reverseArray, hget m hm, List.getElem?_reverse hm]
    split_ifs with h
    · rfl
    · congr 1
      omega
  · have h1 : (reverseArray arr)[m]? = none :=
      List.getElem?_eq_none (by rw [reverseArray, hlen]; omega)
    rw [h1, List.getElem?_eq_none (by simp; omega)]

@[simp] theorem reverseArray_reverseArray (arr : List String) :
    reverseArray (reverseArray arr) = arr := by
  simp [reverseArray_eq_reverse]

/-- **`ReverseArray` reverses in place, one mirrored pair per iteration.**  For a slice of
any length: iteration `i` touches only the slots `i` and `len(arr)-i-1`; after `i` of the
`len(arr)/2` iterations the first and the last `i` slots hold each other's values and the
middle ones are as they were; at the end the slice holds its reverse, the middle element
of an odd length in place, and a slice of length 0 or 1 runs no iteration; so
`ReverseArray` twice is the identity. -/
theorem reverseArray_reverses_in_place (arr : List String) :
    (∀ i m, m ≠ i → m ≠ arr.length - i - 1 → (reverseArray.swap arr i)[m]? = arr[m]?) ∧
    (∀ i ≤ arr.length / 2, reverseArray.Swapped arr (reverseArray.loop arr 0 i) i) ∧
    reverseArray arr = arr.reverse ∧
    (arr.length % 2 = 1 → (reverseArray arr)[arr.length / 2]? = arr[arr.length / 2]?) ∧
    (arr.length ≤ 1 → reverseArray arr = arr) ∧
    reverseArray (reverseArray arr) = arr := by
  refine ⟨fun i m hi hj => ?_, fun i hi => ?_, reverseArray_eq_reverse arr, fun hodd => ?_,
    fun hle => ?_, reverseArray_reverseArray arr⟩
  · simp [reverseArray.swap, List.getElem?_set, Ne.symm hi, Ne.symm hj]
  · simpa using reverseArray.swapped_loop i arr 0 (reverseArray.swapped_zero arr) (by omega)
  · rw [reverseArray_eq_reverse, List.getElem?_reverse (by omega)]
    congr 1
    omega
  · rw [reverseArray, Nat.div_eq_of_lt (by omega)]
    rfl

/-! ## 2. Records and their leaf keys -/

/-- `util.ArpaSuffix`. -/
def arpaSuffix : String := ".in-addr.arpa."

/-- `defaultPriority`, `defaultWeight`, `defaultTTL`. -/
def defaultPriority : Int := 10
def defaultWeight : Int := 10
def defaultTTL : Nat := 30

/-- `util.ExtractIP`: the IP of a PTR query name, or `("", false)`. -/
def extractIP (reverseName : String) : String × Bool :=
  if !Strings.hasSuffix reverseName arpaSuffix then ("", false)
  else
    let search := Strings.trimSuffix reverseName arpaSuffix
    let segments := reverseArray (Strings.split search '.')
    (Strings.join segments '.', true)

/-- `util.NewServiceRecord(ip, port)`. -/
def newServiceRecord (ip : String) (port : Int) : SkyService :=
  { host := ip, port := port, priority := defaultPriority, weight := defaultWeight,
    ttl := defaultTTL }

/-- `fmt.Sprintf("%v", msg)` of a `*msg.Service`: its fields in order (`Host`, `Port`,
`Priority`, `Weight`, `Text`, `Mail`, `Ttl`, `TargetStrip`, `Group`, `Key`), the unset
ones at their zero values. -/
def renderRecord (msg : SkyService) : String :=
  "&\x7b" ++ msg.host ++ " " ++ toString msg.port ++ " " ++ toString msg.priority ++ " " ++
    toString msg.weight ++ "  false " ++ toString msg.ttl ++ " 0  \x7d"

/-- `util.HashServiceRecord(msg)`: FNV-1a of the rendering, printed with `%x`. -/
def hashServiceRecord (msg : SkyService) : String :=
  hexNat (fnv32a (utf8 (renderRecord msg))).toNat

/-- `util.GetSkyMsg(ip, port)`: the record and its leaf key, the hash printed with `%x`. -/
def getSkyMsg (ip : String) (port : Int) : SkyService × String :=
  let msg := newServiceRecord ip port
  (msg, hexBytes (hashServiceRecord msg))

/-- `util.IsServiceIPSet(service)`. -/
def isServiceIPSet (service : Service) : Bool :=
  service.clusterIP != "None" && service.clusterIP != ""

/-- `util.GetClusterIPs(service)`. -/
def getClusterIPs (service : Service) : List String :=
  if service.clusterIPs.length > 0 then service.clusterIPs else [service.clusterIP]

@[simp] theorem getSkyMsg_fst (ip : String) (port : Int) :
    (getSkyMsg ip port).1 = newServiceRecord ip port := rfl

theorem digitChar_ne_dot (n : Nat) : Nat.digitChar n ≠ '.' := by
  unfold Nat.digitChar
  by_cases h : n < 16
  · interval_cases n <;> decide
  · iterate 16 rw [if_neg (by omega)]
    decide

theorem utf8EncodeChar_ne_nil (c : Char) : String.utf8EncodeChar c ≠ [] := by
  unfold String.utf8EncodeChar
  dsimp only
  split_ifs <;> simp

theorem toDigitsCore_ne_nil (b : Nat) :
    ∀ (f n : Nat) (ds : List Char), ds ≠ [] → Nat.toDigitsCore b f n ds ≠ []
  | 0, _, _, h => by simpa [Nat.toDigitsCore] using h
  | f + 1, n, ds, _ => by
    simp only [Nat.toDigitsCore]
    split
    · simp
    · exact toDigitsCore_ne_nil b f _ _ (by simp)

theorem hexNat_data_ne_nil (n : Nat) : (hexNat n).data ≠ [] := by
  simp only [hexNat, Nat.toDigits, Nat.toDigitsCore]
  split
  · simp
  · exact toDigitsCore_ne_nil _ _ _ _ (by simp)

theorem hexBytes_ne {s : String} (h : s.data ≠ []) : hexBytes s ≠ "" := by
  obtain ⟨c, cs, hc⟩ := List.exists_cons_of_ne_nil h
  obtain ⟨b, bs, hb⟩ := List.exists_cons_of_ne_nil (utf8EncodeChar_ne_nil c)
  simp [hexBytes, utf8, hc, hb, String.ext_iff]

/-- A leaf key from `GetSkyMsg` is not empty. -/
theorem getSkyMsg_label_ne (ip : String) (port : Int) : (getSkyMsg ip port).2 ≠ "" :=
  hexBytes_ne (hexNat_data_ne_nil _)

/-- A leaf key from `GetSkyMsg` holds no dot. -/
theorem dot_not_mem_getSkyMsg_label (ip : String) (port : Int) :
    '.' ∉ (getSkyMsg ip port).2.data := by
  simp only [getSkyMsg, hexBytes, List.mem_flatMap, List.mem_cons, List.mem_singleton,
    not_exists, not_and]
  intro b _ h
  rcases h with h | h | h
  · exact digitChar_ne_dot _ h.symm
  · exact digitChar_ne_dot _ h.symm
  · simp at h

/-! ## 3. `ValidateNameserverIpAndPort` -/

/-- The errors of `ValidateNameserverIpAndPort`: the `*AddrError` of `SplitHostPort`, or
`fmt.Errorf("bad IP address: %q", host)` and `fmt.Errorf("bad port number: %q", port)`,
each with the text it quotes. -/
inductive NameserverError where
  | addr (err : Net.AddrError)
  | badIPAddress (host : String)
  | badPortNumber (port : String)
  deriving DecidableEq, Repr

/-- `util.ValidateNameserverIpAndPort(nameServer)`: a bare address, printed by
`ip.String()`, with the default port 53; else a `host:port` whose host `net.ParseIP` takes
and whose port `strconv.Atoi` reads as a number in `[1, 65535]`. -/
def validateNameserverIpAndPort (nameServer : String) :
    Except NameserverError (String × String) :=
  match Net.parseIP nameServer with
  | some ip => .ok (Net.ipString ip, "53")
  | none =>
    match Net.splitHostPort nameServer with
    | .error err => .error (.addr err)
    | .ok (host, port) =>
      if (Net.parseIP host).isNone then .error (.badIPAddress host)
      else
        match Strconv.atoi port with
        | some p => if p < 1 ∨ p > 65535 then .error (.badPortNumber port) else .ok (host, port)
        | none => .error (.badPortNumber port)

end KubeDns
