import Mathlib.Data.List.Nodup
import Mathlib.Order.Lattice

set_option relaxedAutoImplicit false
set_option autoImplicit false

/-!
# Registers that keep the newest version

A register holds one value, or none yet. Every value carries a version, and a write of an older
version than the stored one is refused. As long as the versions of the writes are distinct, the
order in which they arrive does not matter: the register ends with the newest value.

## Main definitions

* `VersionedRegister.write` — one write.

## Main results

* `VersionedRegister.foldl_write_eq_some` — what the register holds after a list of writes.
-/

namespace VersionedRegister

variable {V : Type*} {κ : Type*} [LinearOrder κ] (version : V → κ)

/-- Write the value `v`, unless the register holds a newer one. -/
def write (stored : Option V) (v : V) : Option V :=
  match stored with
  | none => some v
  | some u => if version u > version v then some u else some v

variable {version}

/-- Of a value and a newer one, the older is never the newest of a list with both. -/
lemma newest_cons_iff {u v : V} (h : version v < version u) {vs : List V} {p : V} :
    (p ∈ u :: v :: vs ∧ ∀ q ∈ u :: v :: vs, version q ≤ version p) ↔
      p ∈ u :: vs ∧ ∀ q ∈ u :: vs, version q ≤ version p := by
  constructor
  · rintro ⟨hp, hmax⟩
    have hu := hmax u (List.mem_cons_self ..)
    refine ⟨?_, fun q hq => hmax q ?_⟩
    · rcases List.mem_cons.mp hp with rfl | hp
      · exact List.mem_cons_self ..
      · rcases List.mem_cons.mp hp with rfl | hp
        · exact absurd hu (not_le.mpr h)
        · exact List.mem_cons_of_mem _ hp
    · rcases List.mem_cons.mp hq with rfl | hq
      · exact List.mem_cons_self ..
      · exact List.mem_cons_of_mem _ (List.mem_cons_of_mem _ hq)
  · rintro ⟨hp, hmax⟩
    have hu := hmax u (List.mem_cons_self ..)
    refine ⟨?_, fun q hq => ?_⟩
    · rcases List.mem_cons.mp hp with rfl | hp
      · exact List.mem_cons_self ..
      · exact List.mem_cons_of_mem _ (List.mem_cons_of_mem _ hp)
    · rcases List.mem_cons.mp hq with rfl | hq
      · exact hu
      · rcases List.mem_cons.mp hq with rfl | hq
        · exact le_trans (le_of_lt h) hu
        · exact hmax q (List.mem_cons_of_mem _ hq)

/-- After writes of distinct versions, none of them that of the stored value, the register holds
the newest of the stored and the written values.

**Proof sketch.** Induction on the writes. The first write leaves the newer of two values in the
register; the older one is not the newest of all. -/
lemma foldl_write_eq_some {vs : List V} {stored : Option V} {p : V}
    (hdistinct : ((stored.toList ++ vs).map version).Nodup) :
    vs.foldl (write version) stored = some p ↔
      p ∈ stored.toList ++ vs ∧ ∀ q ∈ stored.toList ++ vs, version q ≤ version p := by
  induction vs generalizing stored with
  | nil =>
    cases stored with
    | none => simp
    | some u =>
      simp only [List.foldl_nil, Option.some.injEq, Option.toList_some, List.append_nil,
        List.mem_singleton, forall_eq]
      exact ⟨fun h => h ▸ ⟨rfl, le_rfl⟩, fun h => h.1.symm⟩
  | cons v vs ih =>
    rw [List.foldl_cons]
    cases stored with
    | none =>
      rw [write, ih (by simpa using hdistinct)]
      simp only [Option.toList_some, Option.toList_none, List.singleton_append, List.nil_append]
    | some u =>
      simp only [Option.toList_some, List.singleton_append] at hdistinct ⊢
      have hne : version u ≠ version v := by
        rw [List.map_cons, List.nodup_cons, List.map_cons] at hdistinct
        exact fun h => hdistinct.1 (h ▸ List.mem_cons_self ..)
      have hperm : (u :: v :: vs).Perm (v :: u :: vs) := List.Perm.swap v u vs
      rw [write]
      split_ifs with hlt
      · have hdistinct' : (((some u).toList ++ vs).map version).Nodup :=
          hdistinct.sublist (((List.sublist_cons_self v vs).cons_cons u).map version)
        rw [ih hdistinct', newest_cons_iff hlt]
        rfl
      · have hlt' : version u < version v := lt_of_le_of_ne (not_lt.mp hlt) hne
        have hdistinct' : (((some v).toList ++ vs).map version).Nodup :=
          hdistinct.sublist ((List.sublist_cons_self u (v :: vs)).map version)
        rw [ih hdistinct', Option.toList_some, List.singleton_append, ← newest_cons_iff hlt',
          hperm.mem_iff]
        simp only [hperm.mem_iff]

end VersionedRegister
