import KubeStartupCPUBoost.FiniteMapRange
import KubeStartupCPUBoost.JsonMergePatch
import Mathlib.Data.List.OfFn

/-!
# Records as JSON documents

A `JsonCodec` writes values as JSON and reads back what it wrote; a
`JsonMember` does the same for one member of a record, which may be left out
when its value is empty.  Codecs for texts, lists, maps and records are built
from one another, each with its round trip, so the codec of a whole record
needs no proof of its own beyond the lookup of its member names.
-/

/-- A record member as it is written: omitted, or a document without nulls
that a merge patch would read as removals. -/
structure WrittenMember where
  document : Option Json
  noNull : ∀ value, document = some value → value ≠ .null ∧ value.NoNullMembers

namespace Json

/-- The object with the listed members; a member without a value is omitted. -/
def object (members : List (String × WrittenMember)) : Json :=
  ofMembers (members.map Prod.fst).toFinset fun key =>
    (members.lookup key).bind WrittenMember.document

@[simp]
theorem isObject_object (members : List (String × WrittenMember)) :
    (object members).IsObject :=
  trivial

theorem get?_object (members : List (String × WrittenMember)) (key : String) :
    (object members).get? key = (members.lookup key).bind WrittenMember.document := by
  rw [object, get?_ofMembers]
  by_cases candidate : key ∈ (members.map Prod.fst).toFinset
  · rw [if_pos candidate]
  · have notListed : members.lookup key = none := by
      rw [List.lookup_eq_none_iff]
      intro member listed
      rw [bne_iff_ne]
      rintro rfl
      exact candidate (List.mem_toFinset.mpr (List.mem_map_of_mem listed))
    rw [if_neg candidate, notListed, Option.bind_none]

theorem keys_ofMembers (candidates : Finset String) (member : String → Option Json) :
    (ofMembers candidates member).keys =
      candidates.filter fun key => (member key).isSome :=
  rfl

theorem noNullMembers_ofMembers {candidates : Finset String} {member : String → Option Json}
    (noNull : ∀ key value, member key = some value → value ≠ .null ∧ value.NoNullMembers) :
    (ofMembers candidates member).NoNullMembers := by
  intro key
  exact noNull key.1 _ (Option.some_get _).symm

theorem noNullMembers_object (members : List (String × WrittenMember)) :
    (object members).NoNullMembers := by
  apply noNullMembers_ofMembers
  intro key value found
  obtain ⟨written, _, present⟩ := Option.bind_eq_some_iff.mp found
  exact written.noNull value present

end Json

/-- A way of writing values as JSON documents. -/
structure JsonCodec (α : Type) where
  encode : α → Json
  decode : Json → Option α
  decode_encode : ∀ value, decode (encode value) = some value
  noNull : ∀ value, encode value ≠ .null ∧ (encode value).NoNullMembers

/-- A way of writing one member of a record. -/
structure JsonMember (α : Type) where
  encode : α → Option Json
  decode : Option Json → Option α
  decode_encode : ∀ value, decode (encode value) = some value
  noNull : ∀ value document, encode value = some document →
    document ≠ .null ∧ document.NoNullMembers

attribute [simp] JsonCodec.decode_encode JsonMember.decode_encode

def JsonMember.write {α : Type} (member : JsonMember α) (value : α) : WrittenMember :=
  ⟨member.encode value, member.noNull value⟩

@[simp]
theorem JsonMember.document_write {α : Type} (member : JsonMember α) (value : α) :
    (member.write value).document = member.encode value :=
  rfl

namespace JsonCodec

variable {α : Type}

theorem encode_injective (codec : JsonCodec α) : Function.Injective codec.encode := by
  intro first second equal
  have decoded := congrArg codec.decode equal
  simpa using decoded

def required (codec : JsonCodec α) : JsonMember α where
  encode value := some (codec.encode value)
  decode document := document.bind codec.decode
  decode_encode value := by simp
  noNull value document written := by
    cases written
    exact codec.noNull value

def omitEmpty (codec : JsonCodec α) (zero : α) (isEmpty : α → Bool)
    (isEmpty_iff : ∀ value, isEmpty value = true ↔ value = zero) : JsonMember α where
  encode value := if isEmpty value then none else some (codec.encode value)
  decode
    | none => some zero
    | some document => codec.decode document
  decode_encode value := by
    by_cases absent : isEmpty value = true
    · rw [if_pos absent, (isEmpty_iff value).mp absent]
    · simp [absent]
  noNull value document written := by
    split at written
    · cases written
    · cases written
      exact codec.noNull value

def optional (codec : JsonCodec α) : JsonMember (Option α) where
  encode value := value.map codec.encode
  decode
    | none => some none
    | some document => (codec.decode document).map some
  decode_encode value := by cases value <;> simp
  noNull value document written := by
    obtain ⟨inner, _, rfl⟩ := Option.map_eq_some_iff.mp written
    exact codec.noNull inner

/-- Values written as a text that can be read back. -/
def text (print : α → String) (parse : String → Option α)
    (parse_print : ∀ value, parse (print value) = some value) : JsonCodec α where
  encode value := .str (print value)
  decode
    | .str written => parse written
    | _ => none
  decode_encode value := parse_print value
  noNull _ := ⟨nofun, trivial⟩

def string : JsonCodec String := text id some fun _ => rfl

def int : JsonCodec Int where
  encode := .num
  decode
    | .num value => some value
    | _ => none
  decode_encode _ := rfl
  noNull _ := ⟨nofun, trivial⟩

@[simp]
theorem mapM_decode_map_encode (codec : JsonCodec α) (values : List α) :
    (values.map codec.encode).mapM codec.decode = some values := by
  induction values with
  | nil => rfl
  | cons value values ih => simp [ih]

def list (codec : JsonCodec α) : JsonCodec (List α) where
  encode values := .arr values.length fun index => codec.encode (values.get index)
  decode
    | .arr _ elems => (List.ofFn elems).mapM codec.decode
    | _ => none
  decode_encode values := by
    have written : List.ofFn (fun index => codec.encode (values.get index)) =
        values.map codec.encode :=
      List.ofFn_getElem_eq_map values codec.encode
    simp only [written]
    exact mapM_decode_map_encode codec values
  noNull _ := ⟨nofun, trivial⟩

def map (codec : JsonCodec α) : JsonCodec (GoMap String α) where
  encode values :=
    Json.ofMembers values.keys fun key => (values.lookup key).map codec.encode
  decode document :=
    if document.IsObject ∧
        ∀ key ∈ document.keys, ((document.get? key).bind codec.decode).isSome then
      some (GoMap.ofKeys document.keys fun key => (document.get? key).bind codec.decode)
    else none
  decode_encode values := by
    have member (key : String) :
        ((Json.ofMembers values.keys fun key => (values.lookup key).map codec.encode).get?
          key).bind codec.decode = values.lookup key := by
      rw [Json.get?_ofMembers]
      cases found : values.lookup key with
      | none => split <;> rfl
      | some value =>
          have present : key ∈ values.keys := GoMap.mem_keys_iff.mpr ⟨value, found⟩
          simp [present]
    have keys_eq : (Json.ofMembers values.keys fun key =>
        (values.lookup key).map codec.encode).keys = values.keys := by
      rw [Json.keys_ofMembers, Finset.filter_eq_self]
      intro key present
      obtain ⟨value, found⟩ := GoMap.mem_keys_iff.mp present
      simp [found]
    rw [keys_eq, if_pos]
    · congr 1
      apply Finmap.ext_lookup
      intro key
      rw [GoMap.lookup_ofKeys, member]
      by_cases present : key ∈ values.keys
      · rw [if_pos present]
      · rw [if_neg present]
        rw [Finmap.mem_keys, ← Finmap.lookup_eq_none] at present
        exact present.symm
    · refine ⟨Json.isObject_ofMembers _ _, fun key present => ?_⟩
      rw [member, Finmap.lookup_isSome]
      exact Finmap.mem_keys.mp present
  noNull values := by
    refine ⟨Json.ne_null_of_isObject (Json.isObject_ofMembers _ _), ?_⟩
    apply Json.noNullMembers_ofMembers
    intro key document written
    obtain ⟨value, _, rfl⟩ := Option.map_eq_some_iff.mp written
    exact codec.noNull value

/-- A record is written as the object of its members; reading it looks the
members up by name. -/
def record (write : α → List (String × WrittenMember))
    (read : (String → Option Json) → Option α)
    (read_write : ∀ value,
      read (fun key => ((write value).lookup key).bind WrittenMember.document) = some value) :
    JsonCodec α where
  encode value := Json.object (write value)
  decode document := if document.IsObject then read document.get? else none
  decode_encode value := by
    rw [if_pos (Json.isObject_object _), ← read_write value]
    congr 1
    funext key
    exact Json.get?_object _ key
  noNull value := ⟨Json.ne_null_of_isObject (Json.isObject_object _), Json.noNullMembers_object _⟩

end JsonCodec
