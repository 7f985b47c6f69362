import Mathlib.Data.Finset.Attach
import Mathlib.Data.Fintype.Basic

/-!
# JSON documents and merge patches

A JSON document is kept in extensional form: an object is a finite set of
member names with a value for each, so two objects are equal exactly when they
have the same members.  `mergePatch` applies a JSON merge patch (RFC 7386):
objects are merged member by member, a null removes a member, and every other
value, arrays included, replaces the target as a whole.  `diff` is the merge
patch that leads from one document to another; `mergePatch_diff` says that it
does so for every document without null members.

A diff can be applied to a document it was not built from.  Members on which
the two documents of the diff agree stay as they are, objects are patched in
turn, and every other value is replaced.
-/

/-- A JSON document. -/
inductive Json where
  | null
  | bool (value : Bool)
  | num (value : Int)
  | str (value : String)
  | arr (length : Nat) (elems : Fin length → Json)
  | obj (keys : Finset String) (vals : {key // key ∈ keys} → Json)

namespace Json

def get? : Json → String → Option Json
  | .obj keys vals, key => if present : key ∈ keys then some (vals ⟨key, present⟩) else none
  | _, _ => none

def keys : Json → Finset String
  | .obj keys _ => keys
  | _ => ∅

def IsObject : Json → Prop
  | .obj _ _ => True
  | _ => False

instance : DecidablePred IsObject
  | .obj _ _ => isTrue trivial
  | .null | .bool _ | .num _ | .str _ | .arr _ _ => isFalse id

/-- The object that has, among the candidate names, the members a partial
function gives. -/
def ofMembers (candidates : Finset String) (member : String → Option Json) : Json :=
  .obj (candidates.filter fun key => (member key).isSome) fun key =>
    (member key.1).get (Finset.mem_filter.mp key.2).2

def empty : Json := ofMembers ∅ fun _ => none

theorem isObject_obj (keys : Finset String) (vals : {key // key ∈ keys} → Json) :
    (obj keys vals).IsObject :=
  trivial

theorem get?_obj_of_mem {keys : Finset String} (vals : {key // key ∈ keys} → Json)
    {key : String} (present : key ∈ keys) :
    (obj keys vals).get? key = some (vals ⟨key, present⟩) :=
  dif_pos present

theorem get?_obj_of_not_mem {keys : Finset String} (vals : {key // key ∈ keys} → Json)
    {key : String} (absent : key ∉ keys) : (obj keys vals).get? key = none :=
  dif_neg absent

@[simp]
theorem isObject_ofMembers (candidates : Finset String) (member : String → Option Json) :
    (ofMembers candidates member).IsObject :=
  trivial

theorem get?_ofMembers (candidates : Finset String) (member : String → Option Json)
    (key : String) :
    (ofMembers candidates member).get? key =
      if key ∈ candidates then member key else none := by
  unfold ofMembers get?
  by_cases candidate : key ∈ candidates
  · cases found : member key with
    | none => simp [candidate, found]
    | some value => simp [candidate, found]
  · simp [candidate]

@[simp]
theorem get?_empty (key : String) : empty.get? key = none := by
  simp [empty, get?_ofMembers]

theorem get?_eq_none_of_not_mem {document : Json} {key : String}
    (absent : key ∉ document.keys) : document.get? key = none := by
  cases document with
  | obj keys vals => exact dif_neg absent
  | _ => rfl

theorem exists_get?_of_mem {document : Json} {key : String} (present : key ∈ document.keys) :
    ∃ value, document.get? key = some value := by
  cases document with
  | obj keys vals => exact ⟨vals ⟨key, present⟩, dif_pos present⟩
  | _ => cases present

theorem ne_null_of_isObject {document : Json} (object : document.IsObject) :
    document ≠ .null := by
  rintro rfl
  exact object

theorem get?_eq_none_of_not_isObject {document : Json} (scalar : ¬ document.IsObject)
    (key : String) : document.get? key = none := by
  cases document with
  | obj keys vals => exact absurd trivial scalar
  | _ => rfl

/-- Objects are determined by their members. -/
theorem ext_get? {first second : Json} (firstObject : first.IsObject)
    (secondObject : second.IsObject)
    (agree : ∀ key, first.get? key = second.get? key) : first = second := by
  cases first with
  | obj firstKeys firstVals =>
      cases second with
      | obj secondKeys secondVals =>
          have sameKeys : firstKeys = secondKeys := by
            ext key
            have members := agree key
            simp only [get?] at members
            by_cases inFirst : key ∈ firstKeys <;> by_cases inSecond : key ∈ secondKeys
            · simp [inFirst, inSecond]
            · simp [inFirst, inSecond] at members
            · simp [inFirst, inSecond] at members
            · simp [inFirst, inSecond]
          subst sameKeys
          congr 1
          funext key
          have members := agree key.1
          simpa [get?, key.2] using members
      | _ => exact secondObject.elim
  | _ => exact firstObject.elim

def decEq : (first second : Json) → Decidable (first = second)
  | .null, second => match second with
      | .null => isTrue rfl
      | .bool _ | .num _ | .str _ | .arr _ _ | .obj _ _ => isFalse nofun
  | .bool first, second => match second with
      | .bool second => decidable_of_iff (first = second) (by simp)
      | .null | .num _ | .str _ | .arr _ _ | .obj _ _ => isFalse nofun
  | .num first, second => match second with
      | .num second => decidable_of_iff (first = second) (by simp)
      | .null | .bool _ | .str _ | .arr _ _ | .obj _ _ => isFalse nofun
  | .str first, second => match second with
      | .str second => decidable_of_iff (first = second) (by simp)
      | .null | .bool _ | .num _ | .arr _ _ | .obj _ _ => isFalse nofun
  | .arr length elems, second => match second with
      | .arr otherLength others =>
          if sameLength : otherLength = length then
            have : ∀ index : Fin length,
                Decidable (elems index = others (index.cast sameLength.symm)) :=
              fun index => decEq (elems index) (others (index.cast sameLength.symm))
            decidable_of_iff
              (∀ index : Fin length, elems index = others (index.cast sameLength.symm)) (by
                subst sameLength
                simpa using funext_iff.symm)
          else isFalse fun equal => sameLength (by cases equal; rfl)
      | .null | .bool _ | .num _ | .str _ | .obj _ _ => isFalse nofun
  | .obj keys vals, second => match second with
      | .obj otherKeys others =>
          if sameKeys : otherKeys = keys then
            have : ∀ key : {key // key ∈ keys},
                Decidable (vals key = others ⟨key.1, sameKeys ▸ key.2⟩) :=
              fun key => decEq (vals key) (others ⟨key.1, sameKeys ▸ key.2⟩)
            decidable_of_iff
              (∀ key : {key // key ∈ keys}, vals key = others ⟨key.1, sameKeys ▸ key.2⟩) (by
                subst sameKeys
                simp only [Json.obj.injEq, heq_eq_eq, true_and]
                exact funext_iff.symm)
          else isFalse fun equal => sameKeys (by cases equal; rfl)
      | .null | .bool _ | .num _ | .str _ | .arr _ _ => isFalse nofun

instance : DecidableEq Json := decEq

/-- Apply a merge patch to a target document.  An absent member counts as
null, which is not an object. -/
def mergePatch (target : Json) : Json → Json
  | .obj patchKeys patchVals =>
      ofMembers (target.keys ∪ patchKeys) fun key =>
        if changed : key ∈ patchKeys then
          if patchVals ⟨key, changed⟩ = .null then none
          else some (mergePatch ((target.get? key).getD .null) (patchVals ⟨key, changed⟩))
        else target.get? key
  | patch => patch

/-- The merge patch that leads from one document to another.  Members on which
the documents agree are not mentioned, and objects are compared member by
member; a member that is dropped is set to null. -/
def diff (original : Json) : Json → Json
  | .obj updatedKeys updatedVals =>
      ofMembers (original.keys ∪ updatedKeys) fun key =>
        if kept : key ∈ updatedKeys then
          match original.get? key with
          | none => some (updatedVals ⟨key, kept⟩)
          | some value =>
              if value.IsObject ∧ (updatedVals ⟨key, kept⟩).IsObject then
                if diff value (updatedVals ⟨key, kept⟩) = empty then none
                else some (diff value (updatedVals ⟨key, kept⟩))
              else if value = updatedVals ⟨key, kept⟩ then none
              else some (updatedVals ⟨key, kept⟩)
        else some .null
  | updated => updated

/-- No object member reachable through objects is null: a null there would
read as a removal. -/
def NoNullMembers : Json → Prop
  | .obj _ vals => ∀ key, vals key ≠ .null ∧ NoNullMembers (vals key)
  | _ => True

theorem mergePatch_of_not_isObject (target : Json) {patch : Json}
    (scalar : ¬ patch.IsObject) : target.mergePatch patch = patch := by
  cases patch with
  | obj keys vals => exact absurd trivial scalar
  | _ => rfl

theorem isObject_mergePatch (target : Json) {patch : Json} (object : patch.IsObject) :
    (target.mergePatch patch).IsObject := by
  cases patch with
  | obj keys vals => exact trivial
  | _ => exact object.elim

/-- What a merge patch does to one member. -/
theorem get?_mergePatch (target : Json) {patch : Json} (object : patch.IsObject)
    (key : String) :
    (target.mergePatch patch).get? key =
      match patch.get? key with
      | none => target.get? key
      | some .null => none
      | some value => some (((target.get? key).getD .null).mergePatch value) := by
  cases patch with
  | obj patchKeys patchVals =>
      rw [mergePatch, get?_ofMembers]
      by_cases changed : key ∈ patchKeys
      · rw [get?_obj_of_mem patchVals changed, if_pos (Finset.mem_union_right _ changed),
          dif_pos changed]
        cases patchVals ⟨key, changed⟩ <;> simp
      · rw [get?_obj_of_not_mem patchVals changed, dif_neg changed]
        by_cases present : key ∈ target.keys
        · exact if_pos (Finset.mem_union_left _ present)
        · rw [get?_eq_none_of_not_mem present, ite_self]
  | _ => exact object.elim

/-- What the diff says about one member. -/
theorem get?_diff (original : Json) {updated : Json} (object : updated.IsObject)
    (key : String) :
    (original.diff updated).get? key =
      match original.get? key, updated.get? key with
      | none, none => none
      | some _, none => some .null
      | none, some value => some value
      | some old, some value =>
          if old.IsObject ∧ value.IsObject then
            if old.diff value = empty then none else some (old.diff value)
          else if old = value then none
          else some value := by
  cases updated with
  | obj updatedKeys updatedVals =>
      rw [diff, get?_ofMembers]
      by_cases kept : key ∈ updatedKeys
      · rw [get?_obj_of_mem updatedVals kept, if_pos (Finset.mem_union_right _ kept),
          dif_pos kept]
        cases original.get? key <;> rfl
      · rw [get?_obj_of_not_mem updatedVals kept, dif_neg kept]
        by_cases present : key ∈ original.keys
        · obtain ⟨value, found⟩ := exists_get?_of_mem present
          simp [present, found]
        · rw [get?_eq_none_of_not_mem present]
          simp [present, kept]
  | _ => exact object.elim

theorem isObject_diff (original : Json) {updated : Json} (object : updated.IsObject) :
    (original.diff updated).IsObject := by
  cases updated with
  | obj keys vals => exact trivial
  | _ => exact object.elim

theorem isObject_empty : empty.IsObject := trivial

/-- The empty patch leaves every object as it is. -/
@[simp]
theorem mergePatch_empty {target : Json} (object : target.IsObject) :
    target.mergePatch empty = target := by
  apply ext_get? (isObject_mergePatch target isObject_empty) object
  intro key
  rw [get?_mergePatch target isObject_empty, get?_empty]

/-- A member that is set to something other than null is merged. -/
theorem get?_mergePatch_some {target patch value : Json} {key : String}
    (object : patch.IsObject) (set : patch.get? key = some value) (notNull : value ≠ .null) :
    (target.mergePatch patch).get? key =
      some (((target.get? key).getD .null).mergePatch value) := by
  rw [get?_mergePatch target object, set]
  cases value with
  | null => exact absurd rfl notNull
  | _ => rfl

/-- Nothing of the target survives a patch that meets no object. -/
theorem mergePatch_of_target_not_isObject {target patch : Json}
    (scalar : ¬ target.IsObject) (noNull : patch.NoNullMembers) :
    target.mergePatch patch = patch := by
  induction patch generalizing target with
  | obj keys vals ih =>
      have object := isObject_obj keys vals
      apply ext_get? (isObject_mergePatch target object) object
      intro key
      by_cases present : key ∈ keys
      · have member := get?_obj_of_mem vals present
        rw [get?_mergePatch_some object member (noNull ⟨key, present⟩).1, member,
          get?_eq_none_of_not_isObject scalar, Option.getD_none,
          ih ⟨key, present⟩ id (noNull ⟨key, present⟩).2]
      · rw [get?_mergePatch target object, get?_obj_of_not_mem vals present,
          get?_eq_none_of_not_isObject scalar]
  | _ => rfl

/-- Merging what the diff says about one member gives the updated member. -/
private theorem mergePatch_changed {old value : Json}
    (changed : ¬ (old.IsObject ∧ value.IsObject)) (noNull : value.NoNullMembers) :
    old.mergePatch value = value := by
  by_cases valueObject : value.IsObject
  · exact mergePatch_of_target_not_isObject
      (fun oldObject => changed ⟨oldObject, valueObject⟩) noNull
  · exact mergePatch_of_not_isObject old valueObject

/-- Applying the diff of two objects to the first one gives the second. -/
theorem mergePatch_diff {original updated : Json} (originalObject : original.IsObject)
    (updatedObject : updated.IsObject) (noNull : updated.NoNullMembers) :
    original.mergePatch (original.diff updated) = updated := by
  induction updated generalizing original with
  | obj keys vals ih =>
      have patchObject := isObject_diff original updatedObject
      apply ext_get? (isObject_mergePatch original patchObject) updatedObject
      intro key
      have patchMember := get?_diff original updatedObject key
      by_cases present : key ∈ keys
      · have updatedMember := get?_obj_of_mem vals present
        obtain ⟨notNull, memberNoNull⟩ := noNull ⟨key, present⟩
        rw [updatedMember] at patchMember ⊢
        cases originalMember : original.get? key with
        | none =>
            rw [originalMember] at patchMember
            rw [get?_mergePatch_some patchObject patchMember notNull, originalMember,
              Option.getD_none, mergePatch_of_target_not_isObject id memberNoNull]
        | some old =>
            rw [originalMember] at patchMember
            by_cases bothObjects : old.IsObject ∧ (vals ⟨key, present⟩).IsObject
            · have merged := ih ⟨key, present⟩ bothObjects.1 bothObjects.2 memberNoNull
              by_cases unchanged : old.diff (vals ⟨key, present⟩) = empty
              · rw [unchanged, mergePatch_empty bothObjects.1] at merged
                simp only [if_pos bothObjects, if_pos unchanged] at patchMember
                rw [get?_mergePatch original patchObject, patchMember, originalMember, merged]
              · simp only [if_pos bothObjects, if_neg unchanged] at patchMember
                rw [get?_mergePatch_some patchObject patchMember
                  (ne_null_of_isObject (isObject_diff old bothObjects.2)), originalMember,
                  Option.getD_some, merged]
            · by_cases same : old = vals ⟨key, present⟩
              · simp only [if_neg bothObjects, if_pos same] at patchMember
                rw [get?_mergePatch original patchObject, patchMember, originalMember, same]
              · simp only [if_neg bothObjects, if_neg same] at patchMember
                rw [get?_mergePatch_some patchObject patchMember notNull, originalMember,
                  Option.getD_some, mergePatch_changed bothObjects memberNoNull]
      · rw [get?_obj_of_not_mem vals present] at patchMember ⊢
        rw [get?_mergePatch original patchObject, patchMember]
        cases original.get? key <;> rfl
  | _ => exact updatedObject.elim

/-- A document differs from itself in nothing. -/
@[simp]
theorem diff_self {document : Json} (object : document.IsObject) :
    document.diff document = empty := by
  induction document with
  | obj keys vals ih =>
      apply ext_get? (isObject_diff _ object) isObject_empty
      intro key
      rw [get?_diff _ object, get?_empty]
      by_cases present : key ∈ keys
      · rw [get?_obj_of_mem vals present]
        by_cases memberObject : (vals ⟨key, present⟩).IsObject
        · simp [memberObject, ih ⟨key, present⟩ memberObject]
        · simp [memberObject]
      · rw [get?_obj_of_not_mem vals present]
  | _ => exact object.elim

section OtherTarget

variable {original updated target : Json} {key : String}

theorem get?_mergePatch_diff_of_same (object : updated.IsObject)
    (same : original.get? key = updated.get? key) :
    (target.mergePatch (original.diff updated)).get? key = target.get? key := by
  rw [get?_mergePatch target (isObject_diff original object), get?_diff original object, same]
  cases updated.get? key with
  | none => rfl
  | some value =>
      by_cases valueObject : value.IsObject
      · simp [valueObject]
      · simp [valueObject]

theorem get?_mergePatch_diff_of_objects (object : updated.IsObject) {old value stored : Json}
    (before : original.get? key = some old) (after : updated.get? key = some value)
    (present : target.get? key = some stored) (oldObject : old.IsObject)
    (valueObject : value.IsObject) (storedObject : stored.IsObject) :
    (target.mergePatch (original.diff updated)).get? key =
      some (stored.mergePatch (old.diff value)) := by
  have patchMember := get?_diff original object key
  simp only [before, after, if_pos (And.intro oldObject valueObject)] at patchMember
  by_cases unchanged : old.diff value = empty
  · rw [if_pos unchanged] at patchMember
    rw [get?_mergePatch target (isObject_diff original object), patchMember, unchanged,
      mergePatch_empty storedObject]
    exact present
  · rw [if_neg unchanged] at patchMember
    rw [get?_mergePatch_some (isObject_diff original object) patchMember
      (ne_null_of_isObject (isObject_diff old valueObject)), present, Option.getD_some]

theorem get?_mergePatch_diff_of_replaced (object : updated.IsObject) {old value : Json}
    (before : original.get? key = some old) (after : updated.get? key = some value)
    (scalar : ¬ value.IsObject) (notNull : value ≠ .null) (changed : old ≠ value) :
    (target.mergePatch (original.diff updated)).get? key = some value := by
  have patchMember := get?_diff original object key
  simp only [before, after, if_neg (fun both : _ ∧ _ => scalar both.2), if_neg changed]
    at patchMember
  rw [get?_mergePatch_some (isObject_diff original object) patchMember notNull,
    mergePatch_of_not_isObject _ scalar]

end OtherTarget

end Json
