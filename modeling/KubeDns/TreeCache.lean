/-
# The record cache

`dns.go` keeps every forward record in a `treecache.TreeCache`: a tree whose nodes are
named by DNS labels, read from the root (`["local", "cluster", "svc", ns, name, ...]`),
each node holding a map from leaf key to payload.  The package `k8s.io/dns/pkg/dns/treecache`
is not among the sources, so its five operations are modelled from §4.1 of the
specification.

A node is named by its path, so the tree is represented by the list of its leaves, each
with the path of its node, its leaf key, its payload and the fqdn it was stored with; at
most one leaf per (node, key) (`slots_nodup`, carried by the structure).  Every lookup of
the specification only sees leaves, so nodes without leaves (which `SetSubCache` of an
empty subtree creates and `DeletePath` prunes) need no representation.

`find` is the abstract map (node, key) ↦ leaf.  Each operation gets one lemma saying how it
changes `find` (`find_setEntry`, `find_setSubCache`, `find_deletePath`), and `mem_iff_find`
turns membership into `find`; the rest of the development reasons only through these.
-/
import Mathlib.Data.List.Sort
import KubeDns.Api

namespace KubeDns

/-! ## 1. Leaves and the cache -/

/-- A stored leaf: the labels from the root to its node, its leaf key, its payload, and the
fqdn it was stored with (kept for serialisation only). -/
structure CacheEntry where
  path : List String
  key : String
  value : SkyService
  fqdn : String
  deriving DecidableEq, Repr

/-- Where a leaf sits: its node and its key. -/
def CacheEntry.slot (e : CacheEntry) : List String × String := (e.path, e.key)

/-- The leaf moved under the node `pre`. -/
def CacheEntry.prepend (pre : List String) (e : CacheEntry) : CacheEntry :=
  { e with path := pre ++ e.path }

/-- Modelled from the spec: `treecache.TreeCache` (§4.1), absent from the sources.  The
leaves of the tree, at most one per node and leaf key. -/
structure TreeCache where
  entries : List CacheEntry
  slots_nodup : (entries.map CacheEntry.slot).Nodup

namespace TreeCache

theorem nodup_map_filter {l : List CacheEntry} (p : CacheEntry → Bool)
    (h : (l.map CacheEntry.slot).Nodup) : ((l.filter p).map CacheEntry.slot).Nodup :=
  h.sublist ((List.filter_sublist l).map _)

/-- `treecache.NewTreeCache()`. -/
def newTreeCache : TreeCache := ⟨[], List.nodup_nil⟩

/-- Modelled from the spec: `SetEntry(key, val, fqdn, path...)` stores `val` under `key` at
the node `path`, replacing what was there. -/
def setEntry (c : TreeCache) (key : String) (val : SkyService) (fqdn : String)
    (path : List String) : TreeCache :=
  ⟨⟨path, key, val, fqdn⟩ :: c.entries.filter (fun e => e.slot != (path, key)), by
    refine List.nodup_cons.mpr ⟨?_, nodup_map_filter _ c.slots_nodup⟩
    simp [List.mem_map, List.mem_filter, CacheEntry.slot]⟩

/-- Modelled from the spec: `SetSubCache(key, subCache, path...)` replaces the child `key`
of the node `path` by the whole of `subCache`. -/
def setSubCache (c : TreeCache) (key : String) (sub : TreeCache) (path : List String) :
    TreeCache :=
  ⟨sub.entries.map (CacheEntry.prepend (path ++ [key])) ++
      c.entries.filter (fun e => !(path ++ [key]).isPrefixOf e.path), by
    rw [List.map_append, List.nodup_append]
    refine ⟨?_, nodup_map_filter _ c.slots_nodup, ?_⟩
    · rw [List.map_map]
      have : (CacheEntry.slot ∘ CacheEntry.prepend (path ++ [key]))
          = (fun s => (path ++ [key] ++ s.1, s.2)) ∘ CacheEntry.slot := rfl
      rw [this, ← List.map_map]
      exact sub.slots_nodup.map fun a b h => by
        simp only [Prod.mk.injEq, List.append_cancel_left_eq] at h
        exact Prod.ext h.1 h.2
    · intro s hs ht
      simp only [List.mem_map, List.mem_filter, Bool.not_eq_true'] at hs ht
      obtain ⟨_, ⟨e, -, rfl⟩, rfl⟩ := hs
      obtain ⟨e', ⟨-, he'⟩, hslot⟩ := ht
      have h1 : e'.path = path ++ [key] ++ e.path := congrArg Prod.fst hslot
      have : (path ++ [key]).isPrefixOf e'.path = true :=
        List.isPrefixOf_iff_prefix.mpr ⟨e.path, h1.symm⟩
      simp [this] at he'⟩

/-- Modelled from the spec: `DeletePath(path...)` removes the node at `path` with its
subtree, and the leaf that a last label names (the form of an ExternalName record, so
that a type change away from ExternalName drops the CNAME, as scenario 5 of the
specification requires).  It reports whether anything was removed. -/
def deletePath (c : TreeCache) (path : List String) : TreeCache × Bool :=
  match path.getLast? with
  | none => (c, false)
  | some name =>
    let keep := fun e : CacheEntry => !path.isPrefixOf e.path && e.slot != (path.dropLast, name)
    (⟨c.entries.filter keep, nodup_map_filter _ c.slots_nodup⟩, c.entries.any (! keep ·))

/-- The leaf at `path` under `key`, if any. -/
def find (c : TreeCache) (path : List String) (key : String) : Option CacheEntry :=
  c.entries.find? fun e => e.slot == (path, key)

/-- Modelled from the spec: `GetEntry(key, path...)`, the exact leaf lookup. -/
def getEntry (c : TreeCache) (key : String) (path : List String) : Option SkyService :=
  (c.find path key).map CacheEntry.value

/-- A query path reaches a node: label by label equal, `"*"` standing for any label. -/
def matchesPath : List String → List String → Bool
  | [], _ => true
  | _ :: _, [] => false
  | q :: qs, p :: ps => (q == "*" || q == p) && matchesPath qs ps

/-- Strictly before, on label characters. -/
def charsLT : List Char → List Char → Bool
  | [], [] => false
  | [], _ :: _ => true
  | _ :: _, [] => false
  | a :: as, b :: bs => a.toNat < b.toNat || (a == b && charsLT as bs)

/-- The traversal order of the specification on leaves: node paths label by label (a
node before its children, children in lexicographic order), then leaf keys. -/
def slotLE : List String → String → List String → String → Bool
  | [], k, [], k' => !charsLT k'.data k.data
  | [], _, _ :: _, _ => true
  | _ :: _, _, [], _ => false
  | a :: as, k, b :: bs, k' => charsLT a.data b.data || (a == b && slotLE as k bs k')

/-- Modelled from the spec: `GetValuesForPathWithWildcards(path...)`, every leaf at or below
the nodes the path reaches, in traversal order. -/
def getValuesForPathWithWildcards (c : TreeCache) (path : List String) : List SkyService :=
  ((c.entries.filter fun e => matchesPath path e.path).insertionSort
    (fun a b => slotLE a.path a.key b.path b.key)).map CacheEntry.value

/-! ## 2. `find`, the abstract map -/

theorem find_eq_some_iff {c : TreeCache} {path : List String} {key : String}
    {e : CacheEntry} : c.find path key = some e ↔ e ∈ c.entries ∧ e.slot = (path, key) := by
  constructor
  · intro h
    exact ⟨List.mem_of_find?_eq_some h, by simpa using List.find?_some h⟩
  · rintro ⟨he, hs⟩
    cases hf : c.find path key with
    | none =>
      simp only [find, List.find?_eq_none, beq_iff_eq, not_true_eq_false] at hf
      exact absurd hs (hf e he)
    | some e' =>
      have he' := List.mem_of_find?_eq_some hf
      have hs' : e'.slot = (path, key) := by simpa using List.find?_some hf
      rw [List.inj_on_of_nodup_map c.slots_nodup he' he (hs'.trans hs.symm)]

/-- A leaf is in the cache iff `find` returns it at its own place. -/
theorem mem_iff_find {c : TreeCache} {e : CacheEntry} :
    e ∈ c.entries ↔ c.find e.path e.key = some e := by
  simp [find_eq_some_iff, CacheEntry.slot]

theorem find_slot {c : TreeCache} {path : List String} {key : String} {e : CacheEntry}
    (h : c.find path key = some e) : e.path = path ∧ e.key = key := by
  simpa [CacheEntry.slot] using (find_eq_some_iff.mp h).2

/-- Two caches with the same `find` hold the same leaves. -/
theorem mem_congr {c c' : TreeCache} (h : ∀ p k, c.find p k = c'.find p k)
    (e : CacheEntry) : e ∈ c.entries ↔ e ∈ c'.entries := by
  rw [mem_iff_find, mem_iff_find, h]

theorem find_eq_none_iff {c : TreeCache} {path : List String} {key : String} :
    c.find path key = none ↔ ∀ e ∈ c.entries, e.slot ≠ (path, key) := by
  simp [find, List.find?_eq_none]

/-- `find` at a place only sees the leaves at that place. -/
theorem find_congr {c c' : TreeCache} {p : List String} {k : String}
    (h : ∀ e : CacheEntry, e.slot = (p, k) → (e ∈ c.entries ↔ e ∈ c'.entries)) :
    c.find p k = c'.find p k := by
  cases hc : c.find p k with
  | some e =>
    obtain ⟨he, hs⟩ := find_eq_some_iff.mp hc
    exact (find_eq_some_iff.mpr ⟨(h e hs).mp he, hs⟩).symm
  | none =>
    refine (find_eq_none_iff.mpr fun e he hs => ?_).symm
    exact find_eq_none_iff.mp hc e ((h e hs).mpr he) hs

@[simp] theorem find_newTreeCache (path : List String) (key : String) :
    newTreeCache.find path key = none := rfl

@[simp] theorem find_setEntry (c : TreeCache) (key : String) (val : SkyService)
    (fqdn : String) (path : List String) (p : List String) (k : String) :
    (c.setEntry key val fqdn path).find p k =
      if p = path ∧ k = key then some ⟨path, key, val, fqdn⟩ else c.find p k := by
  split_ifs with h
  · obtain ⟨rfl, rfl⟩ := h
    exact find_eq_some_iff.mpr ⟨List.mem_cons_self _ _, rfl⟩
  · refine find_congr fun e hs => ?_
    have hne : e.slot ≠ (path, key) := by
      rw [hs]
      simpa [Prod.mk.injEq] using h
    simp only [setEntry, List.mem_cons, List.mem_filter, hne, bne_iff_ne, ne_eq,
      not_false_eq_true, and_true, or_iff_right_iff_imp]
    rintro rfl
    exact absurd rfl hne

@[simp] theorem find_setSubCache (c : TreeCache) (key : String) (sub : TreeCache)
    (path : List String) (p : List String) (k : String) :
    (c.setSubCache key sub path).find p k =
      if (path ++ [key]).isPrefixOf p then
        (sub.find (p.drop (path.length + 1)) k).map (CacheEntry.prepend (path ++ [key]))
      else c.find p k := by
  split_ifs with hpre
  · obtain ⟨rest, rfl⟩ := List.isPrefixOf_iff_prefix.mp hpre
    have hdrop : (path ++ [key] ++ rest).drop (path.length + 1) = rest := by simp
    rw [hdrop]
    cases hs : sub.find rest k with
    | some e₀ =>
      obtain ⟨he, hslot⟩ := find_eq_some_iff.mp hs
      refine find_eq_some_iff.mpr ⟨List.mem_append_left _ (List.mem_map_of_mem _ he), ?_⟩
      simpa [CacheEntry.slot, CacheEntry.prepend] using hslot
    | none =>
      refine find_eq_none_iff.mpr fun e he hslot => ?_
      simp only [setSubCache, List.mem_append, List.mem_map, List.mem_filter] at he
      rcases he with ⟨e₀, he₀, rfl⟩ | ⟨-, hkeep⟩
      · simp only [CacheEntry.slot, CacheEntry.prepend, Prod.mk.injEq,
          List.append_cancel_left_eq] at hslot
        exact find_eq_none_iff.mp hs e₀ he₀ (by simp [CacheEntry.slot, hslot])
      · have h1 : e.path = path ++ [key] ++ rest := congrArg Prod.fst hslot
        rw [h1, hpre] at hkeep
        simp at hkeep
  · refine find_congr fun e hs => ?_
    simp only [CacheEntry.slot, Prod.mk.injEq] at hs
    simp only [setSubCache, List.mem_append, List.mem_map, List.mem_filter, hs.1, hpre,
      Bool.not_false, and_true, or_iff_right_iff_imp]
    rintro ⟨e₀, -, rfl⟩
    exact absurd (List.isPrefixOf_iff_prefix.mpr ⟨e₀.path, by simpa [CacheEntry.prepend] using hs.1⟩) hpre

@[simp] theorem find_deletePath (c : TreeCache) (path : List String) (name : String)
    (p : List String) (k : String) :
    (c.deletePath (path ++ [name])).1.find p k =
      if (path ++ [name]).isPrefixOf p || (p == path && k == name) then none
      else c.find p k := by
  split_ifs with hdel
  · refine find_eq_none_iff.mpr fun e he hslot => ?_
    simp only [deletePath, List.getLast?_concat, List.dropLast_concat, List.mem_filter,
      Bool.and_eq_true, Bool.not_eq_true', bne_iff_ne, ne_eq] at he
    simp only [CacheEntry.slot, Prod.mk.injEq] at hslot he
    simp only [hslot.1, hslot.2, Bool.or_eq_true, Bool.and_eq_true, beq_iff_eq] at hdel he
    rcases hdel with h | h
    · simp [h] at he
    · exact he.2.2 h
  · refine find_congr fun e hs => ?_
    simp only [CacheEntry.slot, Prod.mk.injEq] at hs
    simp only [hs.1, hs.2, Bool.or_eq_true, Bool.and_eq_true, beq_iff_eq, not_or,
      not_and] at hdel
    simp only [deletePath, List.getLast?_concat, List.dropLast_concat, List.mem_filter,
      CacheEntry.slot, hs.1, hs.2, hdel.1,
      Bool.not_false, bne_iff_ne, ne_eq, Prod.mk.injEq, Bool.true_and, and_iff_left_iff_imp]
    intro _ h
    exact hdel.2 h.1 h.2

/-! ## 3. The traversal order -/

theorem char_eq_of_toNat_eq {a b : Char} (h : a.toNat = b.toNat) : a = b := by
  rw [← Char.ofNat_toNat a, h, Char.ofNat_toNat]

@[simp] theorem charsLT_self : ∀ l : List Char, charsLT l l = false
  | [] => rfl
  | a :: as => by simp [charsLT, charsLT_self as]

theorem charsLT_trans {l₁ l₂ l₃ : List Char} (h₁ : charsLT l₁ l₂ = true)
    (h₂ : charsLT l₂ l₃ = true) : charsLT l₁ l₃ = true := by
  induction l₁ generalizing l₂ l₃ with
  | nil => cases l₂ <;> cases l₃ <;> simp_all [charsLT]
  | cons a as ih =>
    cases l₂ with
    | nil => simp [charsLT] at h₁
    | cons b bs =>
      cases l₃ with
      | nil => simp [charsLT] at h₂
      | cons c cs =>
        simp only [charsLT, Bool.or_eq_true, decide_eq_true_eq, Bool.and_eq_true,
          beq_iff_eq] at *
        rcases h₁ with h₁ | ⟨rfl, h₁⟩ <;> rcases h₂ with h₂ | ⟨rfl, h₂⟩
        · exact .inl (by omega)
        · exact .inl h₁
        · exact .inl h₂
        · exact .inr ⟨rfl, ih h₁ h₂⟩

theorem charsLT_asymm {l₁ l₂ : List Char} (h₁ : charsLT l₁ l₂ = true)
    (h₂ : charsLT l₂ l₁ = true) : False := by
  simpa using charsLT_trans h₁ h₂

theorem charsLT_total {l₁ l₂ : List Char} (h : l₁ ≠ l₂) :
    charsLT l₁ l₂ = true ∨ charsLT l₂ l₁ = true := by
  induction l₁ generalizing l₂ with
  | nil => cases l₂ <;> simp_all [charsLT]
  | cons a as ih =>
    cases l₂ with
    | nil => simp [charsLT]
    | cons b bs =>
      simp only [charsLT, Bool.or_eq_true, decide_eq_true_eq, Bool.and_eq_true, beq_iff_eq]
      rcases Nat.lt_trichotomy a.toNat b.toNat with hab | hab | hab
      · exact .inl (.inl hab)
      · obtain rfl := char_eq_of_toNat_eq hab
        rcases ih fun h' => h (by rw [h']) with h' | h'
        · exact .inl (.inr ⟨rfl, h'⟩)
        · exact .inr (.inr ⟨rfl, h'⟩)
      · exact .inr (.inl hab)

theorem charsLT_eq_false {l₁ l₂ : List Char} (h : charsLT l₁ l₂ = false) :
    l₂ = l₁ ∨ charsLT l₂ l₁ = true := by
  by_cases e : l₂ = l₁
  · exact .inl e
  · rcases charsLT_total e with h' | h'
    · exact .inr h'
    · simp_all

theorem slotLE_total (p : List String) (k : String) (p' : List String) (k' : String) :
    slotLE p k p' k' = true ∨ slotLE p' k' p k = true := by
  induction p generalizing p' with
  | nil =>
    cases p' with
    | nil =>
      simp only [slotLE, Bool.not_eq_true']
      cases h : charsLT k'.data k.data <;> cases h' : charsLT k.data k'.data
      · exact .inl rfl
      · exact .inl rfl
      · exact .inr rfl
      · exact (charsLT_asymm h h').elim
    | cons => exact .inl rfl
  | cons a as ih =>
    cases p' with
    | nil => exact .inr rfl
    | cons b bs =>
      simp only [slotLE, Bool.or_eq_true, Bool.and_eq_true, beq_iff_eq]
      by_cases hab : a = b
      · subst hab
        rcases ih bs with h | h
        · exact .inl (.inr ⟨rfl, h⟩)
        · exact .inr (.inr ⟨rfl, h⟩)
      · rcases charsLT_total fun h => hab (String.ext h) with h | h
        · exact .inl (.inl h)
        · exact .inr (.inl h)

theorem slotLE_trans {p₁ p₂ p₃ : List String} {k₁ k₂ k₃ : String}
    (h₁ : slotLE p₁ k₁ p₂ k₂ = true) (h₂ : slotLE p₂ k₂ p₃ k₃ = true) :
    slotLE p₁ k₁ p₃ k₃ = true := by
  induction p₁ generalizing p₂ p₃ with
  | nil =>
    cases p₂ with
    | nil =>
      cases p₃ with
      | nil =>
        simp only [slotLE, Bool.not_eq_true'] at *
        have hle : k₁.data = k₃.data ∨ charsLT k₁.data k₃.data = true := by
          rcases charsLT_eq_false h₁ with e₁ | e₁ <;> rcases charsLT_eq_false h₂ with e₂ | e₂
          · exact .inl (e₁.trans e₂)
          · exact .inr (e₁ ▸ e₂)
          · exact .inr (e₂ ▸ e₁)
          · exact .inr (charsLT_trans e₁ e₂)
        rcases hle with e | e
        · simp [e]
        · cases h : charsLT k₃.data k₁.data
          · rfl
          · exact (charsLT_asymm e h).elim
      | cons => rfl
    | cons => cases p₃ <;> simp_all [slotLE]
  | cons a as ih =>
    cases p₂ with
    | nil => simp [slotLE] at h₁
    | cons b bs =>
      cases p₃ with
      | nil => simp [slotLE] at h₂
      | cons c cs =>
        simp only [slotLE, Bool.or_eq_true, Bool.and_eq_true, beq_iff_eq] at *
        rcases h₁ with h₁ | ⟨rfl, h₁⟩ <;> rcases h₂ with h₂ | ⟨rfl, h₂⟩
        · exact .inl (charsLT_trans h₁ h₂)
        · exact .inl h₁
        · exact .inl h₂
        · exact .inr ⟨rfl, ih h₁ h₂⟩

theorem slotLE_antisymm {p p' : List String} {k k' : String} (h₁ : slotLE p k p' k' = true)
    (h₂ : slotLE p' k' p k = true) : p = p' ∧ k = k' := by
  induction p generalizing p' with
  | nil =>
    cases p' with
    | nil =>
      simp only [slotLE, Bool.not_eq_true'] at h₁ h₂
      refine ⟨rfl, String.ext ?_⟩
      by_contra h
      rcases charsLT_total h with h | h <;> simp_all
    | cons => simp [slotLE] at h₂
  | cons a as ih =>
    cases p' with
    | nil => simp [slotLE] at h₁
    | cons b bs =>
      simp only [slotLE, Bool.or_eq_true, Bool.and_eq_true, beq_iff_eq] at h₁ h₂
      rcases h₁ with h₁ | ⟨rfl, h₁⟩
      · rcases h₂ with h₂ | ⟨rfl, -⟩
        · exact (charsLT_asymm h₁ h₂).elim
        · simp at h₁
      · rcases h₂ with h₂ | ⟨-, h₂⟩
        · simp at h₂
        · obtain ⟨rfl, rfl⟩ := ih h₁ h₂
          exact ⟨rfl, rfl⟩

/-- The traversal order on places: node paths label by label, then leaf keys. -/
def SlotOrder (a b : List String × String) : Prop := slotLE a.1 a.2 b.1 b.2 = true

instance : IsAntisymm (List String × String) SlotOrder :=
  ⟨fun _ _ h₁ h₂ => Prod.ext (slotLE_antisymm h₁ h₂).1 (slotLE_antisymm h₁ h₂).2⟩

/-- Lists of leaves of one cache are determined by their places. -/
theorem eq_of_map_slot_eq {c : TreeCache} :
    ∀ {l₁ l₂ : List CacheEntry}, (∀ e ∈ l₁, e ∈ c.entries) → (∀ e ∈ l₂, e ∈ c.entries) →
      l₁.map CacheEntry.slot = l₂.map CacheEntry.slot → l₁ = l₂
  | [], [], _, _, _ => rfl
  | [], _ :: _, _, _, h => by simp at h
  | _ :: _, [], _, _, h => by simp at h
  | a :: l₁, b :: l₂, h₁, h₂, h => by
    simp only [List.map_cons, List.cons.injEq] at h
    rw [List.inj_on_of_nodup_map c.slots_nodup (h₁ a (List.mem_cons_self _ _))
      (h₂ b (List.mem_cons_self _ _)) h.1, eq_of_map_slot_eq
        (fun e he => h₁ e (List.mem_cons_of_mem _ he))
        (fun e he => h₂ e (List.mem_cons_of_mem _ he)) h.2]

/-- **The wildcard lookup is a function of the leaves.**  Two caches with the same `find`
return the same list, in the same order, for every query path. -/
theorem getValuesForPathWithWildcards_congr {c c' : TreeCache}
    (h : ∀ p k, c'.find p k = c.find p k) (path : List String) :
    c'.getValuesForPathWithWildcards path = c.getValuesForPathWithWildcards path := by
  let r : CacheEntry → CacheEntry → Prop := fun a b => slotLE a.path a.key b.path b.key = true
  haveI : IsTotal CacheEntry r := ⟨fun a b => slotLE_total _ _ _ _⟩
  haveI : IsTrans CacheEntry r := ⟨fun _ _ _ => slotLE_trans⟩
  have hperm : c'.entries.Perm c.entries :=
    (List.perm_ext_iff_of_nodup (c'.slots_nodup.of_map _) (c.slots_nodup.of_map _)).mpr
      (mem_congr h)
  let f := fun e : CacheEntry => matchesPath path e.path
  have hsort : ∀ l : List CacheEntry, ((l.filter f).insertionSort r).map CacheEntry.slot |>.Sorted SlotOrder :=
    fun l => List.pairwise_map.mpr (List.sorted_insertionSort r _)
  have hp : ((c'.entries.filter f).insertionSort r).Perm ((c.entries.filter f).insertionSort r) :=
    (List.perm_insertionSort r _).trans ((hperm.filter f).trans (List.perm_insertionSort r _).symm)
  have hmem : ∀ l : List CacheEntry, (∀ e ∈ l, e ∈ c.entries) →
      ∀ e ∈ (l.filter f).insertionSort r, e ∈ c.entries := fun l hl e he =>
    hl e (List.mem_of_mem_filter ((List.perm_insertionSort r _).subset he))
  have heq := eq_of_map_slot_eq (hmem _ fun e he => (mem_congr h e).mp he) (hmem _ fun _ he => he)
    (List.eq_of_perm_of_sorted (hp.map _) (hsort _) (hsort _))
  simp only [getValuesForPathWithWildcards]
  exact congrArg (List.map CacheEntry.value) heq

end TreeCache

end KubeDns
