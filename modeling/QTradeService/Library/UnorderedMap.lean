import Mathlib.Data.List.AList
import Mathlib.Algebra.BigOperators.Group.List.Basic
import Mathlib.Algebra.Order.BigOperators.Group.List
import Mathlib.Tactic.Abel

set_option relaxedAutoImplicit false
set_option autoImplicit false

/-!
# Unordered maps with in-place updates and arbitrary iteration orders

An unordered map is Mathlib's `AList`: a list of entries without duplicate keys. This file
adds what imperative code does to such a map through references and iterators: it overwrites
the value of one entry, it inserts an entry that is not there yet, and it loops over the
entries in an order nobody promises.

## Main definitions

* `UnorderedMap.mapEntries`, `UnorderedMap.modify` — the update of every entry, of one entry.
* `UnorderedMap.emplace` — insertion that leaves an existing entry alone.
* `UnorderedMap.total` — the sum of a quantity over the stored values.
* `UnorderedMap.Related` — two maps with the same keys in the same order and related values.
* `IterationOrder` — a way to enumerate the keys of a map, any permutation of them.

## Main results

* `UnorderedMap.total_modify`, `UnorderedMap.total_insert` — how a total changes.
* `UnorderedMap.foldl_modify` — a loop that updates every visited entry is one simultaneous
  update, whatever the order of the visits.
-/

universe u v w

/-- The contents of an unordered map from `κ` to `ν`. -/
abbrev UnorderedMap (κ : Type u) (ν : Type v) : Type (max u v) := AList fun _ : κ => ν

namespace UnorderedMap

variable {κ : Type u} {ν : Type v} {μ : Type w}

/-! ## Updating entries in place -/

/-- Replace the value `v` of every entry by `f k v`, `k` being the entry's key. -/
def mapEntries (f : κ → ν → μ) (m : UnorderedMap κ ν) : UnorderedMap κ μ where
  entries := m.entries.map fun e => ⟨e.1, f e.1 e.2⟩
  nodupKeys := by
    have h : (m.entries.map fun e => (⟨e.1, f e.1 e.2⟩ : Σ _ : κ, μ)).keys = m.entries.keys := by
      simp [List.keys, Function.comp_def]
    unfold List.NodupKeys
    rw [h]
    exact m.nodupKeys

/-- An in-place update keeps the keys and their order. -/
@[simp] lemma keys_mapEntries (f : κ → ν → μ) (m : UnorderedMap κ ν) :
    (mapEntries f m).keys = m.keys := by
  simp [mapEntries, AList.keys, List.keys, Function.comp_def]

/-- An in-place update keeps the set of keys. -/
@[simp] lemma mem_mapEntries (f : κ → ν → μ) (m : UnorderedMap κ ν) (k : κ) :
    k ∈ mapEntries f m ↔ k ∈ m := by
  rw [AList.mem_keys, AList.mem_keys, keys_mapEntries]

/-- Two updates that agree on the stored entries give the same map. -/
lemma mapEntries_congr {f g : κ → ν → μ} {m : UnorderedMap κ ν}
    (h : ∀ e ∈ m.entries, f e.1 e.2 = g e.1 e.2) : mapEntries f m = mapEntries g m := by
  apply AList.ext
  simp only [mapEntries]
  exact List.map_congr_left fun e he => by rw [h e he]

/-- Updating every entry to itself changes nothing. -/
lemma mapEntries_id (m : UnorderedMap κ ν) : mapEntries (fun _ v => v) m = m := by
  apply AList.ext
  simp [mapEntries]

/-- Two updates in a row are one. -/
lemma mapEntries_mapEntries {μ' : Type*} (f : κ → ν → μ) (g : κ → μ → μ')
    (m : UnorderedMap κ ν) :
    mapEntries g (mapEntries f m) = mapEntries (fun k v => g k (f k v)) m := by
  apply AList.ext
  simp [mapEntries, Function.comp_def]

variable [DecidableEq κ]

/-- Looking up a key after an update. -/
@[simp] lemma lookup_mapEntries (f : κ → ν → μ) (m : UnorderedMap κ ν) (k : κ) :
    (mapEntries f m).lookup k = (m.lookup k).map (f k) :=
  List.dlookup_map₂ (l := m.entries) (f := f) k

/-- Overwrite the value of the entry at `k`, if there is one. -/
def modify (k : κ) (f : ν → ν) (m : UnorderedMap κ ν) : UnorderedMap κ ν :=
  mapEntries (fun a v => if a = k then f v else v) m

/-- Overwriting one entry keeps the keys and their order. -/
@[simp] lemma keys_modify (k : κ) (f : ν → ν) (m : UnorderedMap κ ν) :
    (modify k f m).keys = m.keys :=
  keys_mapEntries _ m

/-- Overwriting one entry keeps the set of keys. -/
@[simp] lemma mem_modify (k : κ) (f : ν → ν) (m : UnorderedMap κ ν) (a : κ) :
    a ∈ modify k f m ↔ a ∈ m :=
  mem_mapEntries _ m a

/-- The overwritten entry. -/
@[simp] lemma lookup_modify_self (k : κ) (f : ν → ν) (m : UnorderedMap κ ν) :
    (modify k f m).lookup k = (m.lookup k).map f := by
  simp [modify]

/-- Every other entry stays. -/
lemma lookup_modify_of_ne {a k : κ} (h : a ≠ k) (f : ν → ν) (m : UnorderedMap κ ν) :
    (modify k f m).lookup a = m.lookup a := by
  simp [modify, h]

/-- Two functions that agree on the stored value overwrite the entry alike. -/
lemma modify_congr {k : κ} {f g : ν → ν} {m : UnorderedMap κ ν}
    (h : ∀ v, m.lookup k = some v → f v = g v) : modify k f m = modify k g m := by
  apply mapEntries_congr
  intro e he
  split_ifs with hk
  · exact h e.2 (AList.mem_lookup_iff.mpr (hk ▸ he))
  · rfl

/-- The stored value is known. -/
lemma modify_of_lookup {k : κ} {v : ν} {m : UnorderedMap κ ν} (h : m.lookup k = some v)
    (f : ν → ν) : modify k f m = modify k (fun _ => f v) m :=
  modify_congr fun w hw => by rw [Option.some.inj (hw.symm.trans h)]

/-- Overwriting the stored value by itself changes nothing. -/
lemma modify_eq_self {k : κ} {f : ν → ν} {m : UnorderedMap κ ν}
    (h : ∀ v, m.lookup k = some v → f v = v) : modify k f m = m := by
  rw [modify_congr (g := fun v => v) h, modify]
  simp only [ite_self, mapEntries_id]

/-- Overwriting the stored value by the stored value changes nothing. -/
lemma modify_of_lookup_self {k : κ} {v : ν} {m : UnorderedMap κ ν} (h : m.lookup k = some v) :
    modify k (fun _ => v) m = m :=
  modify_eq_self fun _ hw => Option.some.inj (h.symm.trans hw)

/-- Overwriting an entry twice. -/
@[simp] lemma modify_modify (k : κ) (f g : ν → ν) (m : UnorderedMap κ ν) :
    modify k g (modify k f m) = modify k (fun v => g (f v)) m := by
  rw [modify, modify, mapEntries_mapEntries]
  exact mapEntries_congr fun e _ => by by_cases h : e.1 = k <;> simp [h]

/-- Insert `v` at `k`, unless `k` has an entry. -/
def emplace (k : κ) (v : ν) (m : UnorderedMap κ ν) : UnorderedMap κ ν :=
  if k ∈ m then m else m.insert k v

/-- Inserting at a key that has an entry changes nothing. -/
lemma emplace_of_mem {k : κ} {m : UnorderedMap κ ν} (h : k ∈ m) (v : ν) : emplace k v m = m :=
  if_pos h

/-- Inserting at a fresh key. -/
lemma emplace_of_notMem {k : κ} {m : UnorderedMap κ ν} (h : k ∉ m) (v : ν) :
    emplace k v m = m.insert k v :=
  if_neg h

/-- The entry at `k` after the insertion is the one that was there, or else the new one. -/
lemma lookup_emplace_self (k : κ) (v : ν) (m : UnorderedMap κ ν) :
    (emplace k v m).lookup k = some ((m.lookup k).getD v) := by
  by_cases h : k ∈ m
  · obtain ⟨b, hb⟩ := Option.isSome_iff_exists.mp (AList.lookup_isSome.mpr h)
    rw [emplace_of_mem h, hb]
    rfl
  · rw [emplace_of_notMem h, AList.lookup_insert, AList.lookup_eq_none.mpr h]
    rfl

/-- Every other entry stays. -/
lemma lookup_emplace_of_ne {a k : κ} (h : a ≠ k) (v : ν) (m : UnorderedMap κ ν) :
    (emplace k v m).lookup a = m.lookup a := by
  unfold emplace
  split_ifs
  · rfl
  · exact AList.lookup_insert_ne h

/-! ## Totals over the stored values -/

section Total

variable {M : Type*} [AddCommMonoid M]

/-- The sum of `q v` over the stored values `v`. -/
def total (q : ν → M) (m : UnorderedMap κ ν) : M :=
  (m.entries.map fun e => q e.2).sum

omit [DecidableEq κ] in
/-- The total over the empty map. -/
@[simp] lemma total_empty (q : ν → M) : total q (∅ : UnorderedMap κ ν) = 0 := rfl

omit [DecidableEq κ] in
/-- The total after an update of every entry. -/
lemma total_mapEntries {μ : Type*} (q : μ → M) (f : κ → ν → μ) (m : UnorderedMap κ ν) :
    total q (mapEntries f m) = (m.entries.map fun e => q (f e.1 e.2)).sum := by
  simp [total, mapEntries, Function.comp_def]

/-- A fresh entry adds its own contribution. -/
lemma total_insert {k : κ} {m : UnorderedMap κ ν} (h : k ∉ m) (q : ν → M) (v : ν) :
    total q (m.insert k v) = q v + total q m := by
  rw [total, AList.entries_insert_of_notMem h, List.map_cons, List.sum_cons, total]

/-- The entry at `k` splits the entry list in two parts without the key `k`. -/
lemma exists_entries_eq {k : κ} {v : ν} {m : UnorderedMap κ ν} (h : m.lookup k = some v) :
    ∃ l r : List (Σ _ : κ, ν), m.entries = l ++ ⟨k, v⟩ :: r ∧
      (∀ e ∈ l, e.1 ≠ k) ∧ ∀ e ∈ r, e.1 ≠ k := by
  have hmem : (⟨k, v⟩ : Σ _ : κ, ν) ∈ m.entries := AList.mem_lookup_iff.mp h
  obtain ⟨l, r, hlr⟩ := List.append_of_mem hmem
  have hnd := m.nodupKeys
  rw [hlr, List.NodupKeys, List.keys, List.map_append, List.map_cons, List.nodup_middle] at hnd
  have hk := (List.nodup_cons.mp hnd).1
  refine ⟨l, r, hlr, fun e he hek => hk ?_, fun e he hek => hk ?_⟩
  · exact List.mem_append_left _ (List.mem_map.mpr ⟨e, he, hek⟩)
  · exact List.mem_append_right _ (List.mem_map.mpr ⟨e, he, hek⟩)

/-- Overwriting the value `v` at `k` by `f v` trades the contribution of `v` for that of
`f v`. -/
lemma total_modify {k : κ} {v : ν} {m : UnorderedMap κ ν} (h : m.lookup k = some v) (q : ν → M)
    (f : ν → ν) : total q (modify k f m) + q v = total q m + q (f v) := by
  obtain ⟨l, r, hlr, hl, hr⟩ := exists_entries_eq h
  have hmap : ∀ es : List (Σ _ : κ, ν), (∀ e ∈ es, e.1 ≠ k) →
      (es.map fun e => q (if e.1 = k then f e.2 else e.2)) = es.map fun e => q e.2 :=
    fun es hes => List.map_congr_left fun e he => by rw [if_neg (hes e he)]
  rw [modify, total_mapEntries, total, hlr]
  simp only [List.map_append, List.map_cons, hmap l hl, hmap r hr, if_true, List.sum_append,
    List.sum_cons]
  abel

/-- No stored value contributes more than the total of nonnegative contributions. -/
lemma le_total [PartialOrder M] [IsOrderedAddMonoid M] {q : ν → M} {m : UnorderedMap κ ν}
    (hq : ∀ e ∈ m.entries, 0 ≤ q e.2) {k : κ} {v : ν} (h : m.lookup k = some v) :
    q v ≤ total q m :=
  List.single_le_sum (List.forall_mem_map.mpr hq) _
    (List.mem_map.mpr ⟨⟨k, v⟩, AList.mem_lookup_iff.mp h, rfl⟩)

end Total

/-- The entries of the map are what lookups find. -/
lemma forall_entries {m : UnorderedMap κ ν} {p : κ → ν → Prop} :
    (∀ e ∈ m.entries, p e.1 e.2) ↔ ∀ k v, m.lookup k = some v → p k v :=
  ⟨fun h k v hkv => h ⟨k, v⟩ (AList.mem_lookup_iff.mp hkv),
    fun h e he => h e.1 e.2 (AList.mem_lookup_iff.mpr he)⟩

/-! ## Counting keys -/

/-- The stored values with the property `p`, counted by key. -/
lemma countP_keys (p : ν → Bool) (m : UnorderedMap κ ν) :
    (m.keys.countP fun k => (m.lookup k).any p) = m.entries.countP fun e => p e.2 := by
  rw [AList.keys, List.keys, List.countP_map]
  apply List.countP_congr
  intro e he
  rw [Function.comp_apply, AList.mem_lookup_iff.mpr he, Option.any_some]

/-- If `n` has all keys of `m`, counting over the keys of `n` splits into counting over the keys
of `m` and over the others. -/
lemma countP_keys_of_subset {m n : UnorderedMap κ ν} (h : ∀ k ∈ m, k ∈ n) (p : κ → Bool) :
    n.keys.countP p = m.keys.countP p + n.keys.countP fun k => p k && decide (k ∉ m) := by
  have hperm : (n.keys.filter fun k => decide (k ∈ m)).Perm m.keys := by
    apply (List.perm_ext_iff_of_nodup (n.keys_nodup.filter _) m.keys_nodup).mpr
    intro k
    rw [List.mem_filter, decide_eq_true_eq, ← AList.mem_keys, ← AList.mem_keys]
    exact ⟨fun hk => hk.2, fun hk => ⟨h k hk, hk⟩⟩
  rw [List.countP_eq_countP_filter_add _ p fun k => decide (k ∈ m), hperm.countP_eq,
    List.countP_filter]
  simp only [decide_not]

/-- Looking up every key and keeping some of the values is keeping some of the entries. -/
lemma filterMap_keys {τ : Type*} (p : ν → Bool) (f : κ → ν → τ) (m : UnorderedMap κ ν) :
    (m.keys.filterMap fun k => (m.lookup k).bind fun v => if p v then some (f k v) else none) =
      (m.entries.filter fun e => p e.2).map fun e => f e.1 e.2 := by
  have hlookup : ∀ e ∈ m.entries, m.lookup e.1 = some e.2 := fun e he => AList.mem_lookup_iff.mpr he
  unfold AList.keys List.keys
  generalize m.entries = es at hlookup ⊢
  induction es with
  | nil => rfl
  | cons e es ih =>
    have he := hlookup e (List.mem_cons_self ..)
    have ih := ih fun e' he' => hlookup e' (List.mem_cons_of_mem _ he')
    rw [List.map_cons, List.filterMap_cons, he, List.filter_cons, Option.bind_some, ih]
    split_ifs <;> rfl

/-- Two maps that agree on the entries with the property `p` have the same such entries, up to
their order. -/
lemma perm_filter_entries {m n : UnorderedMap κ ν} {p : (Σ _ : κ, ν) → Bool}
    (h : ∀ k v, p ⟨k, v⟩ = true → (m.lookup k = some v ↔ n.lookup k = some v)) :
    (m.entries.filter p).Perm (n.entries.filter p) := by
  apply (List.perm_ext_iff_of_nodup (m.nodupKeys.nodup.filter _) (n.nodupKeys.nodup.filter _)).mpr
  rintro ⟨k, v⟩
  rw [List.mem_filter, List.mem_filter, ← AList.mem_lookup_iff, ← AList.mem_lookup_iff]
  exact and_congr_left fun hp => h k v hp

/-! ## Related maps -/

/-- Two maps that list the same keys in the same order, with values related by `R`. -/
def Related (R : ν → μ → Prop) (m : UnorderedMap κ ν) (n : UnorderedMap κ μ) : Prop :=
  List.Forall₂ (fun a b => a.1 = b.1 ∧ R a.2 b.2) m.entries n.entries

section Related

variable {R S : ν → μ → Prop} {m : UnorderedMap κ ν} {n : UnorderedMap κ μ}

omit [DecidableEq κ] in
/-- A weaker relation relates the same maps. -/
lemma Related.mono (h : Related R m n) (hRS : ∀ v w, R v w → S v w) : Related S m n :=
  h.imp fun _ _ hab => ⟨hab.1, hRS _ _ hab.2⟩

omit [DecidableEq κ] in
/-- Related maps have the same keys. -/
lemma Related.keys_eq (h : Related R m n) : m.keys = n.keys := by
  unfold Related at h
  unfold AList.keys List.keys
  generalize m.entries = es, n.entries = es' at h ⊢
  induction h with
  | nil => rfl
  | cons hab _ ih => rw [List.map_cons, List.map_cons, hab.1, ih]

/-- Lookups in related maps find related values, or nothing in both.

**Proof sketch.** By induction on the entries, which have the same keys in the same order. -/
lemma Related.lookup (h : Related R m n) (k : κ) : Option.Rel R (m.lookup k) (n.lookup k) := by
  unfold Related at h
  unfold AList.lookup
  generalize m.entries = es, n.entries = es' at h ⊢
  induction h with
  | nil => exact .none
  | @cons a b _ _ hab _ ih =>
    obtain ⟨k', v⟩ := a
    obtain ⟨k'', w⟩ := b
    obtain ⟨rfl, hvw⟩ := hab
    by_cases hk : k = k'
    · subst hk
      rw [List.dlookup_cons_eq, List.dlookup_cons_eq]
      exact .some hvw
    · rw [List.dlookup_cons_ne _ _ hk, List.dlookup_cons_ne _ _ hk]
      exact ih

omit [DecidableEq κ] in
/-- Updating every value on the left. -/
lemma Related.mapEntries_left (h : Related R m n) {f : ν → ν}
    (hf : ∀ v w, R v w → S (f v) w) : Related S (mapEntries (fun _ v => f v) m) n := by
  unfold Related mapEntries
  rw [List.forall₂_map_left_iff]
  exact h.imp fun a b hab => ⟨hab.1, hf _ _ hab.2⟩

omit [DecidableEq κ] in
/-- Updating every value on the right. -/
lemma Related.mapEntries_right {μ' : Type*} {T : ν → μ' → Prop} (h : Related R m n) {g : μ → μ'}
    (hg : ∀ v w, R v w → T v (g w)) : Related T m (mapEntries (fun _ w => g w) n) := by
  unfold Related mapEntries
  rw [List.forall₂_map_right_iff]
  exact h.imp fun a b hab => ⟨hab.1, hg _ _ hab.2⟩

/-- Overwriting one entry on both sides keeps the maps related.

**Proof sketch.** Entry by entry: the key decides on both sides whether the value is overwritten. -/
lemma Related.modify (h : Related R m n) {k : κ} {f : ν → ν} {g : μ → μ}
    (hfg : ∀ v w, m.lookup k = some v → R v w → R (f v) (g w)) :
    Related R (modify k f m) (modify k g n) := by
  unfold Related UnorderedMap.modify mapEntries
  rw [List.forall₂_map_left_iff, List.forall₂_map_right_iff]
  have hmem : ∀ a ∈ m.entries, m.lookup a.1 = some a.2 := fun a ha => AList.mem_lookup_iff.mpr ha
  apply ((List.forall₂_and_left _ _).mpr ⟨hmem, h⟩).imp
  intro a b hab
  obtain ⟨hlookup, hkey, hR⟩ := hab
  refine ⟨hkey, ?_⟩
  simp only [← hkey]
  split_ifs with hk
  · subst hk
    exact hfg _ _ hlookup hR
  · exact hR

/-- Inserting related values at a fresh key keeps the maps related. -/
lemma Related.insert (h : Related R m n) {k : κ} (hk : k ∉ m) {v : ν} {w : μ} (hvw : R v w) :
    Related R (m.insert k v) (n.insert k w) := by
  have hk' : k ∉ n := by
    rw [AList.mem_keys, ← h.keys_eq, ← AList.mem_keys]
    exact hk
  unfold Related
  rw [AList.entries_insert_of_notMem hk, AList.entries_insert_of_notMem hk']
  exact .cons ⟨rfl, hvw⟩ h

omit [DecidableEq κ] in
/-- Selecting entries of related maps that are selected in both or in neither, and reading the
same off both, gives the same list.

**Proof sketch.** By induction on the entries; an entry is selected on both sides or on neither. -/
lemma Related.map_filter_eq {τ : Type*} (h : Related R m n) {p : κ → ν → Bool}
    {q : κ → μ → Bool} {f : κ → ν → τ} {g : κ → μ → τ}
    (hpq : ∀ k v w, R v w → p k v = q k w)
    (hfg : ∀ k v w, R v w → p k v = true → f k v = g k w) :
    (m.entries.filter fun e => p e.1 e.2).map (fun e => f e.1 e.2) =
      (n.entries.filter fun e => q e.1 e.2).map fun e => g e.1 e.2 := by
  unfold Related at h
  generalize m.entries = es, n.entries = es' at h ⊢
  induction h with
  | nil => rfl
  | @cons a b _ _ hab _ ih =>
    obtain ⟨k, v⟩ := a
    obtain ⟨k', w⟩ := b
    obtain ⟨rfl, hvw⟩ := hab
    simp only at hvw
    rw [List.filter_cons, List.filter_cons, ← hpq k v w hvw]
    split_ifs with hp
    · rw [List.map_cons, List.map_cons, ih, hfg k v w hvw hp]
    · exact ih

end Related

end UnorderedMap

/-! ## Iteration orders -/

/-- An order in which a loop visits the keys of a map: for every list of keys, some
permutation of it. -/
structure IterationOrder (κ : Type u) where
  /-- The keys in the order of the visits. -/
  visit : List κ → List κ
  /-- Every key is visited, and none twice. -/
  perm : ∀ ks, (visit ks).Perm ks

namespace IterationOrder

variable {κ : Type u}

/-- The order in which the entries are stored. -/
def stored : IterationOrder κ where
  visit := id
  perm := List.Perm.refl

instance : Inhabited (IterationOrder κ) := ⟨stored⟩

/-- A loop visits the stored keys and no others. -/
@[simp] lemma mem_visit (o : IterationOrder κ) {ks : List κ} {k : κ} : k ∈ o.visit ks ↔ k ∈ ks :=
  (o.perm ks).mem_iff

/-- A loop over distinct keys visits distinct keys. -/
lemma nodup_visit (o : IterationOrder κ) {ks : List κ} (h : ks.Nodup) : (o.visit ks).Nodup :=
  (o.perm ks).nodup_iff.mpr h

end IterationOrder

namespace UnorderedMap

variable {κ : Type u} {ν : Type v} [DecidableEq κ]

/-- A loop that overwrites every entry it visits by `f` is one simultaneous update of the
visited entries.

**Proof sketch.** Induction on the visits. The first visit overwrites its own entry, which is
not visited again since the visited keys are distinct; the induction hypothesis overwrites the
rest, and the two updates compose. -/
lemma foldl_modify (f : ν → ν) :
    ∀ (ks : List κ), ks.Nodup → ∀ m : UnorderedMap κ ν,
      ks.foldl (fun m k => modify k f m) m = mapEntries (fun k v => if k ∈ ks then f v else v) m
  | [], _, m => by simp [mapEntries_id]
  | k :: ks, hnd, m => by
    obtain ⟨hk, hks⟩ := List.nodup_cons.mp hnd
    rw [List.foldl_cons, foldl_modify f ks hks, modify, mapEntries_mapEntries]
    apply mapEntries_congr
    intro e _
    by_cases he : e.1 = k
    · simp [he, hk]
    · simp [he]

/-- A loop over the whole map that overwrites every entry by `f` overwrites all of them, in
whatever order it visits them. -/
lemma foldl_visit_modify (o : IterationOrder κ) (f : ν → ν) (m : UnorderedMap κ ν) :
    (o.visit m.keys).foldl (fun m k => modify k f m) m = mapEntries (fun _ v => f v) m := by
  rw [foldl_modify f _ (o.nodup_visit m.keys_nodup)]
  refine mapEntries_congr fun e he => if_pos ?_
  rw [o.mem_visit]
  exact List.mem_map_of_mem he

end UnorderedMap
