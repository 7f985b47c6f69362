import KubeStartupCPUBoost.FiniteMapRange

/-!
# Objects by namespace and name

The nested maps in which the manager keeps boosts and pods.  A namespace is
added with its first object and is never removed; `get_put` and `get_delete`
say that this makes no difference to what is found.
-/

structure NamespacedObjects (T : Type) where
  objects : GoMap String (GoMap String T)

namespace NamespacedObjects

variable {T : Type}

def newNamespacedObjects : NamespacedObjects T := ⟨∅⟩

def put (name ns : String) (object : T) (store : NamespacedObjects T) : NamespacedObjects T :=
  match store.objects.lookup ns with
  | none => ⟨store.objects.insert ns ((∅ : GoMap String T).insert name object)⟩
  | some namespaceObjects => ⟨store.objects.insert ns (namespaceObjects.insert name object)⟩

def get (name ns : String) (store : NamespacedObjects T) : Option T :=
  match store.objects.lookup ns with
  | none => none
  | some namespaceObjects => namespaceObjects.lookup name

def list (order : RangeOrder String) (ns : String) (store : NamespacedObjects T) : List T :=
  match store.objects.lookup ns with
  | none => []
  | some namespaceObjects => namespaceObjects.rangeValues order

/-- The objects of all namespaces; `order` is the order of the loop over the
namespaces, `within` that of the loop over each one. -/
def listAll (order : RangeOrder String) (within : String → RangeOrder String)
    (store : NamespacedObjects T) : List T :=
  (order.list store.objects.keys).flatMap fun ns => store.list (within ns) ns

def delete (name ns : String) (store : NamespacedObjects T) : NamespacedObjects T :=
  match store.objects.lookup ns with
  | none => store
  | some namespaceObjects => ⟨store.objects.insert ns (namespaceObjects.erase name)⟩

@[simp]
theorem get_newNamespacedObjects (name ns : String) :
    (newNamespacedObjects : NamespacedObjects T).get name ns = none :=
  rfl

@[simp]
theorem list_put_new (order : RangeOrder String) (name ns : String) (object : T) :
    ((newNamespacedObjects : NamespacedObjects T).put name ns object).list order ns =
      [object] := by
  simp [newNamespacedObjects, put, list]

@[simp]
theorem listAll_put_new (order : RangeOrder String) (within : String → RangeOrder String)
    (name ns : String) (object : T) :
    ((newNamespacedObjects : NamespacedObjects T).put name ns object).listAll order within =
      [object] := by
  have keys : ((newNamespacedObjects : NamespacedObjects T).put name ns object).objects.keys =
      {ns} := GoMap.keys_insert_empty _ _
  simp [listAll, keys]

theorem get_put (name ns : String) (object : T) (store : NamespacedObjects T)
    (otherName otherNs : String) :
    (store.put name ns object).get otherName otherNs =
      if otherName = name ∧ otherNs = ns then some object else store.get otherName otherNs := by
  unfold put get
  by_cases sameNs : otherNs = ns
  · subst otherNs
    cases store.objects.lookup ns <;> simp [GoMap.lookup_insert]
  · cases store.objects.lookup ns <;> simp [sameNs]

theorem get_delete (name ns : String) (store : NamespacedObjects T)
    (otherName otherNs : String) :
    (store.delete name ns).get otherName otherNs =
      if otherName = name ∧ otherNs = ns then none else store.get otherName otherNs := by
  unfold delete get
  by_cases sameNs : otherNs = ns
  · subst otherNs
    cases found : store.objects.lookup ns <;> simp [GoMap.lookup_erase, found]
  · cases store.objects.lookup ns <;> simp [sameNs]

theorem get_put_eq_some {name ns otherName otherNs : String} {object found : T}
    {store : NamespacedObjects T} :
    (store.put name ns object).get otherName otherNs = some found ↔
      (otherName = name ∧ otherNs = ns) ∧ found = object ∨
        ¬ (otherName = name ∧ otherNs = ns) ∧ store.get otherName otherNs = some found := by
  rw [get_put]
  by_cases same : otherName = name ∧ otherNs = ns
  · simp [same, eq_comm]
  · simp [same]

theorem get_delete_eq_some {name ns otherName otherNs : String} {found : T}
    {store : NamespacedObjects T} :
    (store.delete name ns).get otherName otherNs = some found ↔
      ¬ (otherName = name ∧ otherNs = ns) ∧ store.get otherName otherNs = some found := by
  rw [get_delete]
  by_cases same : otherName = name ∧ otherNs = ns <;> simp [same]

def count (ns : String) (store : NamespacedObjects T) : Nat :=
  match store.objects.lookup ns with
  | none => 0
  | some namespaceObjects => namespaceObjects.keys.card

theorem count_put {name ns : String} {store : NamespacedObjects T}
    (free : store.get name ns = none) (object : T) (otherNs : String) :
    (store.put name ns object).count otherNs =
      store.count otherNs + if otherNs = ns then 1 else 0 := by
  unfold get at free
  unfold put count
  by_cases sameNs : otherNs = ns
  · subst otherNs
    cases found : store.objects.lookup ns with
    | none => simp [GoMap.keys_insert_empty]
    | some namespaceObjects =>
        rw [found] at free
        simp [GoMap.card_keys_insert free]
  · cases store.objects.lookup ns <;> simp [sameNs]

theorem count_delete {name ns : String} {store : NamespacedObjects T} {object : T}
    (present : store.get name ns = some object) (otherNs : String) :
    (store.delete name ns).count otherNs + (if otherNs = ns then 1 else 0) =
      store.count otherNs := by
  unfold get at present
  unfold delete count
  by_cases sameNs : otherNs = ns
  · subst otherNs
    cases found : store.objects.lookup ns with
    | none =>
        rw [found] at present
        cases present
    | some namespaceObjects =>
        rw [found] at present
        simp only [Finmap.lookup_insert, if_true]
        exact GoMap.card_keys_erase present
  · cases store.objects.lookup ns <;> simp [sameNs]

theorem count_delete_of_none {name ns : String} {store : NamespacedObjects T}
    (absent : store.get name ns = none) (otherNs : String) :
    (store.delete name ns).count otherNs = store.count otherNs := by
  unfold get at absent
  unfold delete count
  by_cases sameNs : otherNs = ns
  · subst otherNs
    cases found : store.objects.lookup ns with
    | none => simp [found]
    | some namespaceObjects =>
        rw [found] at absent
        simp [GoMap.erase_of_lookup_none absent]
  · cases store.objects.lookup ns <;> simp [sameNs]

theorem mem_list {order : RangeOrder String} {ns : String} {store : NamespacedObjects T}
    {object : T} :
    object ∈ store.list order ns ↔ ∃ name, store.get name ns = some object := by
  unfold list get
  cases store.objects.lookup ns with
  | none => simp
  | some namespaceObjects => exact GoMap.mem_rangeValues

/-- Every object can come first. -/
theorem exists_list_startingWith {name ns : String} {store : NamespacedObjects T} {object : T}
    (present : store.get name ns = some object) :
    ∃ rest, store.list (.startingWith name) ns = object :: rest := by
  unfold get at present
  unfold list
  cases found : store.objects.lookup ns with
  | none =>
      rw [found] at present
      cases present
  | some namespaceObjects =>
      rw [found] at present
      exact GoMap.exists_rangeValues_startingWith present

/-- Objects kept under one name only are listed once. -/
theorem nodup_list {order : RangeOrder String} {ns : String} {store : NamespacedObjects T}
    (oneName : ∀ name other object, store.get name ns = some object →
      store.get other ns = some object → name = other) :
    (store.list order ns).Nodup := by
  unfold get at oneName
  unfold list
  cases found : store.objects.lookup ns with
  | none => exact List.nodup_nil
  | some namespaceObjects =>
      simp only [found] at oneName
      exact GoMap.nodup_rangeValues oneName

theorem mem_listAll {order : RangeOrder String} {within : String → RangeOrder String}
    {store : NamespacedObjects T} {object : T} :
    object ∈ store.listAll order within ↔ ∃ name ns, store.get name ns = some object := by
  simp only [listAll, List.mem_flatMap, mem_list, order.mem_list]
  constructor
  · rintro ⟨ns, _, name, present⟩
    exact ⟨name, ns, present⟩
  · rintro ⟨name, ns, present⟩
    refine ⟨ns, ?_, name, present⟩
    rw [GoMap.mem_keys_iff]
    unfold get at present
    cases found : store.objects.lookup ns with
    | none => simp [found] at present
    | some namespaceObjects => exact ⟨namespaceObjects, rfl⟩

/-- Objects kept under one name of one namespace only are listed once. -/
theorem nodup_listAll {order : RangeOrder String} {within : String → RangeOrder String}
    {store : NamespacedObjects T}
    (oneKey : ∀ name ns other otherNs object, store.get name ns = some object →
      store.get other otherNs = some object → name = other ∧ ns = otherNs) :
    (store.listAll order within).Nodup := by
  rw [listAll, List.nodup_flatMap]
  constructor
  · intro ns _
    exact nodup_list fun name other object first second =>
      (oneKey name ns other ns object first second).1
  · refine (order.nodup store.objects.keys).imp_of_mem fun _ _ different object first second => ?_
    obtain ⟨name, present⟩ := mem_list.mp first
    obtain ⟨other, otherPresent⟩ := mem_list.mp second
    exact different (oneKey _ _ _ _ _ present otherPresent).2

end NamespacedObjects
