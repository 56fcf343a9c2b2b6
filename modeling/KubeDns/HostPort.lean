/-
# `JoinHostPort`, `SplitHostPort` and the address test

`ValidateNameserverIpAndPort` accepts either a bare address or a `host:port` that
`SplitHostPort` takes apart, and `updateConfig` installs `JoinHostPort(host, port)`.  This
module proves what the validation of that installed text needs.

* **`SplitHostPort` undoes `JoinHostPort`** for a host without brackets and a port without
  colons or brackets (`splitHostPort_joinHostPort`), whichever branch (bracketed or bare)
  `JoinHostPort` took; the position lemmas `indexByte_append_cons` and
  `lastIndexByte_append_cons` say where the colon and the bracket are found.
* **What `SplitHostPort` returns has that form** (`splitHostPort_ok`): the host has no
  bracket, the port is what follows the last colon and has none either.
* **A joined host and port is no address** (`parseIP_joinHostPort`): a bracketed host is
  rejected at its bracket (`parseIP_bracket`), and a bare host `net.ParseIP` accepts has
  no colon, so it is a dotted quad, and dotted-quad text has no colon
  (`parseIPv4Fields_chars`).
-/
import KubeDns.NetText

namespace KubeDns

namespace Net

/-! ## 1. Finding a byte -/

theorem indexByte_eq_some {c : Char} : ∀ {s : List Char} {m : Nat}, indexByte s c = some m →
    ∃ l1 l2, s = l1 ++ c :: l2 ∧ c ∉ l1 ∧ m = l1.length
  | [], _, h => by cases h
  | x :: xs, m, h => by
    simp only [indexByte, List.findIdx?_cons, Nat.zero_add, List.findIdx?_succ] at h
    split at h
    · cases h
      exact ⟨[], xs, by simp_all, List.not_mem_nil _, rfl⟩
    · rename_i hx
      obtain ⟨m', hm', rfl⟩ := Option.map_eq_some'.1 h
      obtain ⟨l1, l2, rfl, hc, rfl⟩ := indexByte_eq_some hm'
      refine ⟨x :: l1, l2, rfl, ?_, rfl⟩
      rintro (_ | ⟨_, h⟩)
      exacts [hx (beq_self_eq_true c), hc h]

theorem indexByte_append_cons {l1 : List Char} {c : Char} (h : c ∉ l1) (l2 : List Char) :
    indexByte (l1 ++ c :: l2) c = some l1.length := by
  have : l1.findIdx? (· == c) = none := List.findIdx?_eq_none_iff.2 fun x hx => by
    rw [beq_eq_false_iff_ne]
    rintro rfl
    exact h hx
  simp [indexByte, this]

theorem lastIndexByte_eq_some {s : List Char} {c : Char} {i : Nat} (h : lastIndexByte s c = some i) :
    ∃ l1 l2, s = l1 ++ c :: l2 ∧ c ∉ l2 ∧ i = l1.length := by
  obtain ⟨m, hm, rfl⟩ := Option.map_eq_some'.1 h
  obtain ⟨l1, l2, hs, hc, rfl⟩ := indexByte_eq_some hm
  refine ⟨l2.reverse, l1.reverse, by simpa using congrArg List.reverse hs, by simpa using hc, ?_⟩
  have := congrArg List.length hs
  simp only [List.length_reverse, List.length_append, List.length_cons] at this
  simp only [List.length_reverse]
  omega

theorem lastIndexByte_append_cons {l2 : List Char} {c : Char} (h : c ∉ l2) (l1 : List Char) :
    lastIndexByte (l1 ++ c :: l2) c = some l1.length := by
  have := indexByte_append_cons (show c ∉ l2.reverse by simpa using h) l1.reverse
  simp only [lastIndexByte, List.reverse_append, List.reverse_cons, List.append_assoc,
    List.singleton_append, this, Option.map_some', List.length_append, List.length_cons,
    List.length_reverse]
  congr 1
  omega

/-- **`SplitHostPort` takes apart what `JoinHostPort` puts together**, for a host without
brackets and a port without colons or brackets. -/
theorem splitHostPort_joinHostPort {host port : String} (hb1 : '[' ∉ host.data)
    (hb2 : ']' ∉ host.data) (hp : ':' ∉ port.data) (hp1 : '[' ∉ port.data) (hp2 : ']' ∉ port.data) :
    splitHostPort (joinHostPort host port) = .ok (host, port) := by
  obtain ⟨h⟩ := host
  obtain ⟨p⟩ := port
  dsimp only at hb1 hb2 hp hp1 hp2
  unfold joinHostPort
  split_ifs with hc
  · have hi : lastIndexByte ('[' :: (h ++ ']' :: ':' :: p)) ':' = some (h.length + 2) := by
      simpa using lastIndexByte_append_cons hp ('[' :: h ++ [']'])
    have he : indexByte ('[' :: (h ++ ']' :: ':' :: p)) ']' = some (h.length + 1) := by
      simpa using indexByte_append_cons (show ']' ∉ '[' :: h by simpa using hb2) (':' :: p)
    simp [splitHostPort, hi, he, hb1, hp1, hp2]
  · have hi : lastIndexByte (h ++ ':' :: p) ':' = some h.length := lastIndexByte_append_cons hp h
    have hh : h.head? ≠ some '[' := fun e => hb1 (List.mem_of_mem_head? e)
    simp [splitHostPort, hi, hh, hc, hb1, hb2, hp1, hp2]

/-- What `SplitHostPort` returns: a host without brackets, and the port after the last colon,
without brackets. -/
theorem splitHostPort_ok {s h p : String} (hs : splitHostPort s = .ok (h, p)) :
    '[' ∉ h.data ∧ ']' ∉ h.data ∧ ':' ∉ p.data ∧ '[' ∉ p.data ∧ ']' ∉ p.data := by
  obtain ⟨s⟩ := s
  unfold splitHostPort at hs
  dsimp only at hs
  split at hs
  · cases hs
  rename_i i hi
  obtain ⟨l1, l2, rfl, hc2, rfl⟩ := lastIndexByte_eq_some hi
  split at hs
  · cases hs
  rename_i host j k hb
  split_ifs at hs with h1 h2
  obtain ⟨rfl, rfl⟩ := Prod.mk.inj (Except.ok.inj hs)
  dsimp only
  rw [show (l1 ++ ':' :: l2).drop (l1.length + 1) = l2 by simp]
  -- the port lies after any position up to the last colon
  have hport : ∀ n ≤ l1.length + 1, ∀ c ∈ l2, c ∈ (l1 ++ ':' :: l2).drop n := fun n hn c hc => by
    have : l2 = ((l1 ++ ':' :: l2).drop n).drop (l1.length + 1 - n) := by
      rw [List.drop_drop, Nat.add_sub_cancel' hn]
      simp
    exact List.mem_of_mem_drop (this ▸ hc)
  split_ifs at hb with hh hm
  · split at hb
    · cases hb
    rename_i e he
    split_ifs at hb with he1 he2
    cases hb
    obtain ⟨m1, m2, hsm, hm1, rfl⟩ := indexByte_eq_some he
    refine ⟨fun hc => h1 ?_, fun hc => hm1 ?_, hc2, fun hc => h1 (hport 1 (by omega) _ hc),
      fun hc => h2 (hport _ (by omega) _ hc)⟩
    · rw [List.drop_take] at hc
      exact List.mem_of_mem_take hc
    · rw [hsm] at hc
      simpa using List.mem_of_mem_drop hc
  · obtain ⟨rfl, rfl, rfl⟩ := by simpa using hb.symm
    simp only [List.drop_zero] at h1 h2
    refine ⟨fun hc => h1 ?_, fun hc => h2 ?_, hc2, fun hc => h1 (hport 0 (by omega) _ hc),
      fun hc => h2 (hport 0 (by omega) _ hc)⟩ <;> simp_all

theorem isDigit_of_ipv4Field {f : List Char} {b : UInt8} (h : ipv4Field f = some b) :
    ∀ c ∈ f, c.isDigit := by
  unfold ipv4Field at h
  split_ifs at h with hf
  exact List.all_eq_true.1 hf.2.1

/-- Accepted dotted-quad text is digits and dots. -/
theorem parseIPv4Fields_chars {s : List Char} {f : List UInt8} (h : parseIPv4Fields s = some f) :
    ∀ c ∈ s, c = '.' ∨ c.isDigit := by
  unfold parseIPv4Fields at h
  split at h
  · rename_i a b c d hs
    simp only [List.mapM, List.mapM.loop, Option.bind_eq_bind, Option.bind_eq_some] at h
    obtain ⟨_, ha, _, hb, _, hc, _, hd, -⟩ := h
    intro x hx
    rw [← List.intercalate_splitOn s '.', hs] at hx
    rcases mem_intercalate hx with hx | ⟨y, hy, hxy⟩
    · exact .inl (List.mem_singleton.1 hx)
    · simp only [List.mem_cons, List.mem_singleton, List.not_mem_nil, or_false] at hy
      rcases hy with rfl | rfl | rfl | rfl
      exacts [.inr (isDigit_of_ipv4Field ha x hxy), .inr (isDigit_of_ipv4Field hb x hxy),
        .inr (isDigit_of_ipv4Field hc x hxy), .inr (isDigit_of_ipv4Field hd x hxy)]
  · cases h

/-- Text with a character other than a digit or a dot is no dotted quad. -/
theorem parseIPv4Fields_of_mem {s : List Char} {c : Char} (hc : c ∈ s) (hd : c ≠ '.')
    (hn : c.isDigit = false) : parseIPv4Fields s = none := by
  cases h : parseIPv4Fields s with
  | none => rfl
  | some f => rcases parseIPv4Fields_chars h c hc with e | e <;> simp_all

/-- Text that starts with a bracket is no address. -/
theorem parseIP_bracket {s : String} {t : List Char} (hs : s.data = '[' :: t) : parseIP s = none := by
  have h4 : parseIPv4Fields s.data = none :=
    parseIPv4Fields_of_mem (by simp [hs]) (by decide) (c := '[') (by decide)
  have h6 : parseIPv6 s.data = none := by
    simp [parseIPv6, hs, parseIPv6Loop, hexRun, hexVal]
  unfold parseIP
  split <;> simp_all

/-- The separator `parseIP` found in an address it accepts. -/
theorem find?_of_parseIP {s : String} (h : (parseIP s).isSome) :
    s.data.find? (fun c => c == '.' || c == ':' || c == '%') = some '.' ∨
      s.data.find? (fun c => c == '.' || c == ':' || c == '%') = some ':' := by
  unfold parseIP at h
  split at h
  · exact .inl ‹_›
  · exact .inr ‹_›
  · cases h

/-- **A joined host and port is no address**, whatever the port. -/
theorem parseIP_joinHostPort {host : String} (hh : (parseIP host).isSome) (port : String) :
    parseIP (joinHostPort host port) = none := by
  unfold joinHostPort
  split_ifs with hc
  · exact parseIP_bracket (show _ = '[' :: (host.data ++ ']' :: ':' :: port.data) by simp)
  · have hdot : host.data.find? (fun c => c == '.' || c == ':' || c == '%') = some '.' :=
      (find?_of_parseIP hh).resolve_right fun e => hc (List.mem_of_find?_eq_some e)
    have h4 : parseIPv4Fields (host.data ++ ':' :: port.data) = none :=
      parseIPv4Fields_of_mem (by simp) (by decide) (c := ':') (by decide)
    simp [parseIP, List.find?_append, hdot, h4]

end Net

end KubeDns
