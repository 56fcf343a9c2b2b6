/-
# Reverse lookups and pod names

Two query paths that answer from the name alone, or from the reverse index, never from the
record cache.

* **Reverse lookups.**  `ExtractIP` undoes `arpaName`, the name a reverse query for an
  address carries, and every name it accepts is such a name (`extractIP_arpaName`); so
  `ReverseRecord(name)` answers `r` exactly for the reverse names of addresses that
  `reverseRecordMap` maps to `r` (`reverseRecord_eq_ok_iff`).  Nothing is assumed of the
  labels: empty labels, extra dots and a repeated suffix go through `Split`, the
  `ReverseArray` loop and `Join` both ways (`reverse_lookup_round_trip`).
* **Pod names.**  A name `l.ns.pod.<domain>` is a pod record exactly when no label is `*`,
  and then `Records` answers from `l` alone (`records_podName`): the address `l` with
  dashes for dots if `net.ParseIP` takes it, an error otherwise.  For a dashed dotted quad
  that is the A record of the quad (`records_podName_dotted_quad`).  The cluster domain
  must not trim to nothing and must have no `*` label: otherwise the name is no pod record
  and the cache answers (`records_podName_counterexamples`).
-/
import KubeDns.Names
import KubeDns.NetText

namespace KubeDns

/-! ## 1. Reverse names -/

/-- The reverse-lookup name of an address: its labels reversed, then `.in-addr.arpa.`. -/
def arpaName (ip : String) : String :=
  Strings.join (reverseArray (Strings.split ip '.')) '.' ++ arpaSuffix

/-- Reversing the labels twice through `Join` and `Split` gives the text back. -/
theorem join_reverseArray_split_twice (t : String) :
    Strings.join (reverseArray (Strings.split
      (Strings.join (reverseArray (Strings.split t '.')) '.') '.')) '.' = t := by
  rw [reverseArray_eq_reverse, reverseArray_eq_reverse, Strings.split_join_reverse_split,
    List.reverse_reverse, Strings.join_split]

theorem extractIP_of_hasSuffix {name : String} (h : Strings.hasSuffix name arpaSuffix = true) :
    extractIP name =
      (Strings.join (reverseArray (Strings.split (Strings.trimSuffix name arpaSuffix) '.')) '.',
        true) := by
  simp [extractIP, h]

/-- **`ExtractIP` and `arpaName` are inverse**: `ExtractIP` reads back every reverse name,
it accepts exactly the names with the suffix, and every name it accepts is the reverse name
of what it returns. -/
theorem extractIP_arpaName :
    (∀ ip, extractIP (arpaName ip) = (ip, true)) ∧
      (∀ name, (extractIP name).2 = Strings.hasSuffix name arpaSuffix) ∧
      ∀ name, (extractIP name).2 = true → arpaName (extractIP name).1 = name := by
  refine ⟨fun ip => ?_, fun name => ?_, fun name h => ?_⟩
  · rw [arpaName, extractIP_of_hasSuffix (Strings.hasSuffix_append _ _),
      Strings.trimSuffix_append, join_reverseArray_split_twice]
  · unfold extractIP
    cases Strings.hasSuffix name arpaSuffix <;> rfl
  · have hs : Strings.hasSuffix name arpaSuffix = true := by
      unfold extractIP at h
      split_ifs at h with hs
      simpa using hs
    rw [extractIP_of_hasSuffix hs, arpaName, join_reverseArray_split_twice,
      Strings.trimSuffix_append_of_hasSuffix hs]

/-- **`ReverseRecord(name)` answers `r` exactly for the reverse names of the addresses the
reverse index maps to `r`.** -/
theorem reverseRecord_eq_ok_iff (kd : KubeDNS) (name : String) (r : SkyService) :
    kd.reverseRecord name = .ok r ↔ ∃ ip, name = arpaName ip ∧ kd.reverseRecordMap ip = some r := by
  obtain ⟨hround, hok, hname⟩ := extractIP_arpaName
  constructor
  · intro h
    rcases hx : extractIP name with ⟨ip, _ | _⟩
    · simp [KubeDNS.reverseRecord, hx] at h
    · refine ⟨ip, by simpa [hx] using (hname name (by simp [hx])).symm, ?_⟩
      simp only [KubeDNS.reverseRecord, hx] at h
      cases hm : kd.reverseRecordMap ip with
      | none => simp [hm] at h
      | some rr => simpa [hm, pure, Except.pure] using h
  · rintro ⟨ip, rfl, hr⟩
    simp [KubeDNS.reverseRecord, hround, hr, pure, Except.pure]

/-- **Reverse lookups, both ways.**  `ExtractIP` inverts `arpaName` on every string and
accepts exactly the names with the suffix, each the reverse name of what it returns; so in
every state `ReverseRecord` answers exactly the reverse names the index holds. -/
theorem reverse_lookup_round_trip :
    (∀ ip, extractIP (arpaName ip) = (ip, true)) ∧
      (∀ name, (extractIP name).2 = Strings.hasSuffix name arpaSuffix) ∧
      (∀ name, (extractIP name).2 = true → arpaName (extractIP name).1 = name) ∧
      ∀ (kd : KubeDNS) (name : String) (r : SkyService),
        kd.reverseRecord name = .ok r ↔ ∃ ip, name = arpaName ip ∧ kd.reverseRecordMap ip = some r :=
  ⟨extractIP_arpaName.1, extractIP_arpaName.2.1, extractIP_arpaName.2.2, reverseRecord_eq_ok_iff⟩

/-! ## 2. Pod names -/

namespace KubeDNS

/-- The address a pod name's first label stands for: its dashes turned to dots. -/
theorem getPodIP_eq (path : List String) (l : String) :
    getPodIP (path ++ [l]) =
      if (Net.parseIP (Strings.replaceAll l '-' '.')).isSome then pure (Strings.replaceAll l '-' '.')
      else throw (.error (.message ("Invalid IP Address " ++ Strings.replaceAll l '-' '.'))) := by
  rw [getPodIP, index_last (by simp), List.getLast_append_singleton, pure_bind]
  dsimp only
  cases Net.parseIP (Strings.replaceAll l '-' '.') <;> rfl

section PodName

variable (kd : KubeDNS) (hdom : (Strings.trimRight kd.domain '.').data ≠ [])
  {l ns : String} (hl : '.' ∉ l.data) (hns : '.' ∉ ns.data)
include hdom hl hns

/-- A pod name parses into its three labels and the domain's. -/
theorem split_podName :
    Strings.split (Strings.trimRight (Strings.join [l, ns, podSubdomain, kd.domain] '.') '.') '.' =
      [l, ns, podSubdomain] ++ kd.domainPath.reverse := by
  have hA : ∀ a ∈ [l, ns, podSubdomain], '.' ∉ a.data := by
    simp only [List.mem_cons, List.mem_singleton, List.not_mem_nil, or_false]
    rintro a (rfl | rfl | rfl)
    exacts [hl, hns, by decide]
  rw [domainPath_reverse, ← split_join_domain kd hA (List.cons_ne_nil _ _) hdom]
  rfl

/-- **A pod name with no `*` label is answered from its first label alone**: the address it
spells with dashes for dots, if `net.ParseIP` takes it, else an error; the cache is not
read. -/
theorem records_podName (hstar : "*" ∉ kd.domainPath) (hl' : l ≠ "*") (hns' : ns ≠ "*")
    (nodeList : NodeList) (exact : Bool) :
    kd.records nodeList (Strings.join [l, ns, podSubdomain, kd.domain] '.') exact =
      (if (Net.parseIP (Strings.replaceAll l '-' '.')).isSome then
        .ok [newServiceRecord (Strings.replaceAll l '-' '.') 0]
      else .error (.error (.message ("Invalid IP Address " ++ Strings.replaceAll l '-' '.'))),
        kd.nodesStore) := by
  have hpod : kd.isPodRecord (kd.domainPath ++ [podSubdomain, ns, l]) = pure true := by
    have hsub : (kd.domainPath ++ [podSubdomain, ns, l])[kd.domainPath.length]? =
        some podSubdomain := by
      simp [List.getElem_append_right]
    have hall : (kd.domainPath.all fun d => d != "*") = true :=
      List.all_eq_true.2 fun d hd => bne_iff_ne.2 fun h => hstar (h ▸ hd)
    rw [isPodRecord_eq, hsub]
    simp [podSubdomain, hall, bne_iff_ne.2 hl', bne_iff_ne.2 hns']
  have hrec : kd.getRecordsForPath (kd.domainPath ++ [podSubdomain, ns, l]) exact =
      if (Net.parseIP (Strings.replaceAll l '-' '.')).isSome then
        pure [newServiceRecord (Strings.replaceAll l '-' '.') 0]
      else throw (.error (.message ("Invalid IP Address " ++ Strings.replaceAll l '-' '.'))) := by
    have hip := getPodIP_eq (kd.domainPath ++ [podSubdomain, ns]) l
    simp only [List.append_assoc, List.cons_append, List.nil_append] at hip
    rw [getRecordsForPath, hpod, pure_bind, if_pos rfl, hip]
    split_ifs <;> rfl
  have hfed : kd.isFederationQuery (l :: ns :: podSubdomain :: kd.domainPath.reverse) =
      pure false := by
    unfold isFederationQuery
    rw [if_pos (by simp; omega)]
  have hpath : reverseArray (l :: ns :: podSubdomain :: kd.domainPath.reverse) =
      kd.domainPath ++ [podSubdomain, ns, l] := by
    simp [reverseArray_eq_reverse]
  have hsplit := split_podName kd hdom hl hns
  simp only [List.cons_append, List.nil_append] at hsplit
  cases exact <;> cases hp : (Net.parseIP (Strings.replaceAll l '-' '.')).isSome <;>
    simp [records, localLookup, hsplit, hfed, hpath, hrec, hp, pure, Except.pure]

end PodName

/-! ### Dashed dotted quads -/

/-- A byte prints as `appendDecimal` prints it. -/
theorem toString_uInt8 (x : UInt8) : toString x = ⟨Net.appendDecimal x.toNat⟩ :=
  Net.toString_eq_appendDecimal (UInt8.toNat_lt_size x)

theorem isDigitOr_of_mem_join_toString {q : List UInt8} {sep c : Char}
    (h : c ∈ (Strings.join (q.map toString) sep).data) : Net.IsDigitOr sep c := by
  rcases Net.mem_intercalate h with h | ⟨x, hx, h⟩
  · exact .inl (List.mem_singleton.1 h)
  · obtain ⟨b, -, rfl⟩ : ∃ b ∈ q, (toString b).data = x := by simpa using hx
    rw [toString_uInt8] at h
    obtain ⟨d, hd, rfl⟩ := Net.mem_appendDecimal (UInt8.toNat_lt_size b) h
    exact .inr ⟨d, by omega, rfl⟩

theorem dash_not_mem_toString (b : UInt8) : '-' ∉ (toString b).data := fun h => by
  rw [toString_uInt8] at h
  obtain ⟨d, hd, hc⟩ := Net.mem_appendDecimal (UInt8.toNat_lt_size b) h
  exact Net.digitChar_not_sep d (by omega) (hc ▸ by simp)

theorem dot_not_mem_join_toString (q : List UInt8) :
    '.' ∉ (Strings.join (q.map toString) '-').data := fun h => by
  rcases isDigitOr_of_mem_join_toString h with h | ⟨d, hd, h⟩
  · exact absurd h (by decide)
  · exact Net.digitChar_not_sep d hd (h ▸ by simp)

/-- The bytes joined with dots are what `string4` prints. -/
theorem join_toString_eq_string4 (q : List UInt8) :
    Strings.join (q.map toString) '.' = ⟨Net.string4 q⟩ :=
  String.ext (by simp [Strings.join, Net.string4, Function.comp_def, toString_uInt8])

/-- **Pod names of a dashed dotted quad.**  In a cluster domain that does not trim to
nothing and has no `*` label, with a namespace label other than `*`: the name
`a-b-c-d.ns.pod.<domain>` is answered with the A record of `a.b.c.d`, and a first label
that `net.ParseIP` rejects with dashes for dots is answered with its error; the cache is
not read. -/
theorem records_podName_dotted_quad (kd : KubeDNS)
    (hdom : (Strings.trimRight kd.domain '.').data ≠ []) (hstar : "*" ∉ kd.domainPath)
    {ns : String} (hns : '.' ∉ ns.data) (hns' : ns ≠ "*") (nodeList : NodeList) (exact : Bool) :
    (∀ a b c d : UInt8,
      kd.records nodeList
          (Strings.join [Strings.join ([a, b, c, d].map toString) '-', ns, podSubdomain,
            kd.domain] '.') exact =
        (.ok [{ host := Strings.join ([a, b, c, d].map toString) '.', port := 0,
                priority := 10, weight := 10, ttl := 30 }], kd.nodesStore)) ∧
      ∀ l : String, '.' ∉ l.data → l ≠ "*" → Net.parseIP (Strings.replaceAll l '-' '.') = none →
        kd.records nodeList (Strings.join [l, ns, podSubdomain, kd.domain] '.') exact =
          (.error (.error (.message ("Invalid IP Address " ++ Strings.replaceAll l '-' '.'))),
            kd.nodesStore) := by
  refine ⟨fun a b c d => ?_, fun l hl hl' hnone => ?_⟩
  · have hrep : Strings.replaceAll (Strings.join ([a, b, c, d].map toString) '-') '-' '.' =
        Strings.join ([a, b, c, d].map toString) '.' :=
      Strings.replaceAll_join fun x hx => by
        obtain ⟨y, -, rfl⟩ := List.mem_map.1 hx
        exact dash_not_mem_toString y
    have hip : (Net.parseIP (Strings.join ([a, b, c, d].map toString) '.')).isSome := by
      rw [join_toString_eq_string4, Net.parseIP_string4]
      rfl
    have hl' : Strings.join ([a, b, c, d].map toString) '-' ≠ "*" := fun h => by
      rw [← hrep, h] at hip
      exact absurd hip (by decide)
    rw [records_podName kd hdom (dot_not_mem_join_toString _) hns hstar hl' hns' nodeList exact,
      hrep, if_pos hip]
    rfl
  · rw [records_podName kd hdom hl hns hstar hl' hns' nodeList exact, hnone]
    rfl

/-- Applied to the quad `10.1.2.3` in namespace `default` of `cluster.local`. -/
theorem records_podName_dotted_quad_default :
    let kd := newKubeDNS "cluster.local"
    (Strings.trimRight kd.domain '.').data ≠ [] ∧ "*" ∉ kd.domainPath ∧ '.' ∉ "default".data ∧
      "default" ≠ "*" ∧
      kd.records (.ok []) "10-1-2-3.default.pod.cluster.local" false =
        (.ok [{ host := "10.1.2.3", port := 0, priority := 10, weight := 10, ttl := 30 }], []) := by
  intro kd
  have hdom : (Strings.trimRight kd.domain '.').data ≠ [] := by decide
  have hstar : "*" ∉ kd.domainPath := by decide
  have hns : '.' ∉ "default".data := by decide
  have hns' : "default" ≠ "*" := by decide
  exact ⟨hdom, hstar, hns, hns',
    (records_podName_dotted_quad kd hdom hstar hns hns' (.ok []) false).1 10 1 2 3⟩

/-- **Where the pod path is not taken.**  A domain that trims to nothing, or has a `*` label,
makes `a-b-c-d.ns.pod.<domain>` no pod record: an empty cache answers `NotFound`, not the A
record.  A first label `*`, which `net.ParseIP` rejects, is read from the cache as a
wildcard. -/
theorem records_podName_counterexamples :
    (newKubeDNS "").records (.ok []) "10-1-2-3.default.pod." false =
        (.error (.error .keyNotFound), []) ∧
      (newKubeDNS "*.local").records (.ok []) "10-1-2-3.default.pod.*.local" false =
        (.error (.error .keyNotFound), []) ∧
      Net.parseIP (Strings.replaceAll "*" '-' '.') = none ∧
      { newKubeDNS "cluster.local" with
          cache := TreeCache.newTreeCache.setEntry "k" (newServiceRecord "10.9.9.9" 0) ""
            ["local", "cluster", "pod", "default", "x"] }.records (.ok [])
          "*.default.pod.cluster.local" false = (.ok [newServiceRecord "10.9.9.9" 0], []) := by
  decide

end KubeDNS

end KubeDns
