import Mathlib.Algebra.BigOperators.Group.Finset.Basic
import Mathlib.Data.Finmap

/-!
# Finite maps and the order in which a loop visits them

A map of the source language is a finite partial function; ranging over it
visits every key once, in an order that may differ from one loop to the next.
Maps are Mathlib's finite maps, compared extensionally, so that a nil map and
an empty one are the same value.  The visiting order is a parameter of every
loop whose result can depend on it.
-/

/-- A finite map from `κ` to `ν`. -/
abbrev GoMap (κ ν : Type) := Finmap fun _ : κ => ν

/-- One choice of visiting order: every finite set of keys is listed without
repetition. -/
structure RangeOrder (κ : Type) where
  list : Finset κ → List κ
  nodup : ∀ keys, (list keys).Nodup
  mem_list : ∀ keys key, key ∈ list keys ↔ key ∈ keys

namespace RangeOrder

variable {κ : Type}

/-- The order in which Mathlib happens to list a finite set. -/
noncomputable def arbitrary : RangeOrder κ where
  list := Finset.toList
  nodup := Finset.nodup_toList
  mem_list _ _ := Finset.mem_toList

/-- An order that visits the given key first if it is there. -/
noncomputable def startingWith [DecidableEq κ] (key : κ) : RangeOrder κ where
  list keys := if key ∈ keys then key :: (keys.erase key).toList else keys.toList
  nodup keys := by
    split
    · exact List.nodup_cons.mpr ⟨by simp, Finset.nodup_toList _⟩
    · exact Finset.nodup_toList _
  mem_list keys other := by
    by_cases present : key ∈ keys
    · rw [if_pos present]
      by_cases same : other = key
      · simp [same, present]
      · simp [same]
    · rw [if_neg present]
      exact Finset.mem_toList

@[simp]
theorem list_empty (order : RangeOrder κ) : order.list ∅ = [] := by
  apply List.eq_nil_iff_forall_not_mem.mpr
  intro key member
  exact absurd ((order.mem_list ∅ key).mp member) (Finset.notMem_empty key)

@[simp]
theorem list_singleton (order : RangeOrder κ) (key : κ) :
    order.list {key} = [key] := by
  apply List.perm_singleton.mp
  apply (List.perm_ext_iff_of_nodup (order.nodup _) (List.nodup_singleton key)).mpr
  intro other
  rw [order.mem_list, Finset.mem_singleton, List.mem_singleton]

@[simp]
theorem length_list (order : RangeOrder κ) (keys : Finset κ) :
    (order.list keys).length = keys.card := by
  classical
  have sameKeys : (order.list keys).toFinset = keys := by
    ext key
    rw [List.mem_toFinset, order.mem_list]
  rw [← List.toFinset_card_of_nodup (order.nodup keys), sameKeys]

end RangeOrder

namespace GoMap

variable {κ ν : Type} [DecidableEq κ]

theorem lookup_insert (key other : κ) (value : ν) (map : GoMap κ ν) :
    (Finmap.insert key value map).lookup other =
      if other = key then some value else map.lookup other := by
  by_cases same : other = key
  · subst other
    simp
  · rw [if_neg same, Finmap.lookup_insert_of_ne _ same]

theorem lookup_erase (key other : κ) (map : GoMap κ ν) :
    (Finmap.erase key map).lookup other =
      if other = key then none else map.lookup other := by
  by_cases same : other = key
  · subst other
    simp
  · rw [if_neg same, Finmap.lookup_erase_ne same]

theorem lookup_insert_eq_some {key other : κ} {value found : ν} {map : GoMap κ ν} :
    (Finmap.insert key value map).lookup other = some found ↔
      other = key ∧ found = value ∨ other ≠ key ∧ map.lookup other = some found := by
  rw [lookup_insert]
  by_cases same : other = key
  · simp [same, eq_comm]
  · simp [same]

theorem lookup_erase_eq_some {key other : κ} {found : ν} {map : GoMap κ ν} :
    (Finmap.erase key map).lookup other = some found ↔
      other ≠ key ∧ map.lookup other = some found := by
  rw [lookup_erase]
  by_cases same : other = key <;> simp [same]

/-- Writing back the value a key already has changes nothing. -/
theorem insert_of_lookup {key : κ} {value : ν} {map : GoMap κ ν}
    (present : map.lookup key = some value) :
    Finmap.insert key value map = map := by
  apply Finmap.ext_lookup
  intro other
  rw [lookup_insert]
  split
  · subst other
    exact present.symm
  · rfl

/-- Deleting a key that is absent changes nothing. -/
theorem erase_of_lookup_none {key : κ} {map : GoMap κ ν}
    (absent : map.lookup key = none) : Finmap.erase key map = map := by
  apply Finmap.ext_lookup
  intro other
  rw [lookup_erase]
  split
  · subst other
    exact absent.symm
  · rfl

@[simp]
theorem erase_insert (key : κ) (value : ν) (map : GoMap κ ν) :
    Finmap.erase key (Finmap.insert key value map) = Finmap.erase key map := by
  apply Finmap.ext_lookup
  intro other
  rw [lookup_erase, lookup_erase, lookup_insert]
  split <;> rfl

theorem erase_insert_of_lookup_none {key : κ} {value : ν} {map : GoMap κ ν}
    (absent : map.lookup key = none) :
    Finmap.erase key (Finmap.insert key value map) = map := by
  rw [erase_insert, erase_of_lookup_none absent]

theorem mem_keys_iff {key : κ} {map : GoMap κ ν} :
    key ∈ map.keys ↔ ∃ value, map.lookup key = some value := by
  rw [Finmap.mem_keys, Finmap.mem_iff]

/-- The finite map that has, at each listed key, the value a partial function
gives it. -/
def ofKeys (keys : Finset κ) (value : κ → Option ν) : GoMap κ ν where
  entries := keys.val.filterMap fun key => (value key).map (Sigma.mk key)
  nodupKeys := by
    rw [← Multiset.nodup_keys, Multiset.keys, Multiset.map_filterMap]
    refine Multiset.Nodup.filterMap _ ?_ keys.nodup
    intro first second key firstMem secondMem
    simp only [Option.map_map, Option.mem_def, Option.map_eq_some_iff,
      Function.comp_apply] at firstMem secondMem
    obtain ⟨_, _, rfl⟩ := firstMem
    obtain ⟨_, _, rfl⟩ := secondMem
    rfl

theorem lookup_ofKeys (keys : Finset κ) (value : κ → Option ν) (key : κ) :
    (ofKeys keys value).lookup key = if key ∈ keys then value key else none := by
  apply Option.ext
  intro found
  rw [Finmap.lookup_eq_some_iff]
  simp only [ofKeys, Multiset.mem_filterMap, Option.map_eq_some_iff, Finset.mem_val]
  constructor
  · rintro ⟨other, otherMem, _, present, equal⟩
    cases equal
    rw [if_pos otherMem, present]
  · intro present
    by_cases keyMem : key ∈ keys
    · rw [if_pos keyMem] at present
      exact ⟨key, keyMem, found, present, rfl⟩
    · rw [if_neg keyMem] at present
      cases present

def rangeValues (order : RangeOrder κ) (map : GoMap κ ν) : List ν :=
  (order.list map.keys).filterMap map.lookup

theorem mem_rangeValues {order : RangeOrder κ} {map : GoMap κ ν} {value : ν} :
    value ∈ map.rangeValues order ↔ ∃ key, map.lookup key = some value := by
  rw [rangeValues, List.mem_filterMap]
  constructor
  · rintro ⟨key, _, present⟩
    exact ⟨key, present⟩
  · rintro ⟨key, present⟩
    refine ⟨key, (order.mem_list _ _).mpr ?_, present⟩
    exact mem_keys_iff.mpr ⟨value, present⟩

theorem exists_rangeValues_startingWith {key : κ} {value : ν} {map : GoMap κ ν}
    (present : map.lookup key = some value) :
    ∃ rest, map.rangeValues (.startingWith key) = value :: rest := by
  have member : key ∈ map.keys := mem_keys_iff.mpr ⟨value, present⟩
  refine ⟨(map.keys.erase key).toList.filterMap map.lookup, ?_⟩
  simp only [rangeValues, RangeOrder.startingWith, if_pos member]
  exact List.filterMap_cons_some present

/-- Values kept under one key only are visited once. -/
theorem nodup_rangeValues {order : RangeOrder κ} {map : GoMap κ ν}
    (oneKey : ∀ key other value, map.lookup key = some value →
      map.lookup other = some value → key = other) : (map.rangeValues order).Nodup :=
  List.Nodup.filterMap (fun key other value => oneKey key other value) (order.nodup _)

theorem keys_insert (key : κ) (value : ν) (map : GoMap κ ν) :
    (Finmap.insert key value map).keys = insert key map.keys := by
  ext other
  rw [Finset.mem_insert, mem_keys_iff, mem_keys_iff, lookup_insert]
  by_cases same : other = key <;> simp [same]

@[simp]
theorem keys_insert_empty (key : κ) (value : ν) :
    (Finmap.insert key value (∅ : GoMap κ ν)).keys = {key} := by
  rw [keys_insert, Finmap.keys_empty, insert_empty_eq]

/-- A sum over the values, key by key. -/
theorem sum_entries (amount : ν → Nat) (map : GoMap κ ν) :
    (map.entries.map fun entry => amount entry.2).sum =
      ∑ key ∈ map.keys, (map.lookup key).elim 0 amount := by
  have keyed : ∑ key ∈ map.keys, (map.lookup key).elim 0 amount =
      (map.entries.map fun entry => (map.lookup entry.1).elim 0 amount).sum := by
    exact congrArg Multiset.sum (Multiset.map_map _ Sigma.fst map.entries)
  rw [keyed]
  congr 1
  refine Multiset.map_congr rfl fun entry member => ?_
  rw [Finmap.lookup_eq_some_iff.mpr member]
  rfl

theorem notMem_keys {key : κ} {map : GoMap κ ν} (absent : map.lookup key = none) :
    key ∉ map.keys := by
  rw [mem_keys_iff, absent]
  simp

theorem card_keys_insert {key : κ} {map : GoMap κ ν} (absent : map.lookup key = none)
    (value : ν) : (Finmap.insert key value map).keys.card = map.keys.card + 1 := by
  rw [keys_insert, Finset.card_insert_of_notMem (notMem_keys absent)]

theorem card_keys_erase {key : κ} {value : ν} {map : GoMap κ ν}
    (present : map.lookup key = some value) :
    (Finmap.erase key map).keys.card + 1 = map.keys.card := by
  rw [Finmap.keys_erase, Finset.card_erase_add_one (mem_keys_iff.mpr ⟨value, present⟩)]

@[simp]
theorem rangeValues_empty (order : RangeOrder κ) : (∅ : GoMap κ ν).rangeValues order = [] := by
  simp [rangeValues]

@[simp]
theorem rangeValues_insert_empty (order : RangeOrder κ) (key : κ) (value : ν) :
    rangeValues order (Finmap.insert key value ∅) = [value] := by
  rw [rangeValues, keys_insert_empty, RangeOrder.list_singleton]
  simp

end GoMap

/-- A finite map whose values carry their own key. -/
structure KeyedMap (κ ν : Type) [DecidableEq κ] (key : ν → κ) where
  entries : GoMap κ ν
  key_eq : ∀ k value, entries.lookup k = some value → key value = k

namespace KeyedMap

variable {κ ν : Type} [DecidableEq κ] {key : ν → κ}

protected def empty : KeyedMap κ ν key where
  entries := ∅
  key_eq _ _ present := nomatch present

def get (map : KeyedMap κ ν key) (k : κ) : Option ν := map.entries.lookup k

def put (value : ν) (map : KeyedMap κ ν key) : KeyedMap κ ν key where
  entries := map.entries.insert (key value) value
  key_eq k found present := by
    rw [GoMap.lookup_insert] at present
    split at present
    · cases present
      exact Eq.symm (by assumption)
    · exact map.key_eq k found present

def remove (k : κ) (map : KeyedMap κ ν key) : KeyedMap κ ν key where
  entries := map.entries.erase k
  key_eq other found present := by
    rw [GoMap.lookup_erase] at present
    split at present
    · cases present
    · exact map.key_eq other found present

def values (order : RangeOrder κ) (map : KeyedMap κ ν key) : List ν :=
  map.entries.rangeValues order

theorem key_of_get {map : KeyedMap κ ν key} {k : κ} {value : ν}
    (present : map.get k = some value) : key value = k :=
  map.key_eq k value present

@[simp]
theorem get_empty (k : κ) : (KeyedMap.empty : KeyedMap κ ν key).get k = none :=
  Finmap.lookup_empty k

theorem get_put (value : ν) (map : KeyedMap κ ν key) (k : κ) :
    (map.put value).get k = if k = key value then some value else map.get k :=
  GoMap.lookup_insert (key value) k value map.entries

theorem get_remove (removed : κ) (map : KeyedMap κ ν key) (k : κ) :
    (map.remove removed).get k = if k = removed then none else map.get k :=
  GoMap.lookup_erase removed k map.entries

theorem get_put_eq_some {value found : ν} {map : KeyedMap κ ν key} {k : κ} :
    (map.put value).get k = some found ↔
      k = key value ∧ found = value ∨ k ≠ key value ∧ map.get k = some found :=
  GoMap.lookup_insert_eq_some

theorem get_put_empty_eq_some {value found : ν} {k : κ} :
    ((KeyedMap.empty : KeyedMap κ ν key).put value).get k = some found ↔
      k = key value ∧ found = value := by
  simp [get_put_eq_some]

theorem get_remove_eq_some {removed : κ} {found : ν} {map : KeyedMap κ ν key} {k : κ} :
    (map.remove removed).get k = some found ↔ k ≠ removed ∧ map.get k = some found :=
  GoMap.lookup_erase_eq_some

@[simp]
theorem mem_values {order : RangeOrder κ} {map : KeyedMap κ ν key} {value : ν} :
    value ∈ map.values order ↔ map.get (key value) = some value := by
  rw [values, GoMap.mem_rangeValues]
  constructor
  · rintro ⟨k, present⟩
    rwa [map.key_eq k value present]
  · exact fun present => ⟨_, present⟩

end KeyedMap
