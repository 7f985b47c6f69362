import KubeStartupCPUBoost.TransitionRun
import Mathlib.Data.Finset.Erase
import Mathlib.Data.Finset.Insert
import Mathlib.Data.Finset.Lattice.Basic

/-!
# Reconciling stored objects from a cache

A controller keeps stored objects as they should be, given a world of its own.
Every change in the store is announced by a notice, and delivering a notice tells
the world of the change.  A notice, or a move of the world that says so, puts the
key of an object into a queue.  A worker takes a key, fetches the object from a
cache, computes what it should be, and writes it if that differs; the cache lags
behind the store, but not behind the notices delivered.  A write is accepted only
on the version that was fetched.  A write that fails puts the key back into the
queue.

Moves may also ask for keys to be reconciled directly.  This takes the same
steps at any time next to the worker's, and its failures are ignored.

`Coherent` holds in every state: it says how the cache, the notices and the
objects fetched relate to what is stored.
-/

structure Versioned (Content : Type) where
  content : Content
  version : Nat

/-- A reconcile in progress: an object has been fetched, or it is to be written
with a new content. -/
inductive Reconciling (Content : Type) where
  | fetched (object : Versioned Content)
  | writing (object : Versioned Content) (content : Content)

def Reconciling.object {Content : Type} : Reconciling Content → Versioned Content
  | .fetched object | .writing object _ => object

/-- The world and the store, and what is between them.  A notice is the object
that was written, or nothing if it was removed; the first is delivered first, and
`observed` is what the world has been told of last. -/
structure ReconcileLoop (World Key Content : Type) where
  world : World
  stored : Key → Option (Versioned Content)
  nextVersion : Nat
  observed : Key → Option (Versioned Content)
  notices : Key → List (Option (Versioned Content))
  queue : Finset Key
  working : Key → Option (Reconciling Content)
  requested : Finset Key
  direct : Key → Option (Reconciling Content)

/-- What a controller does: what an object should be, how the world takes the
change of an object, the moves of the world, and the keys a move queues and
those it asks to reconcile directly. -/
structure ReconcilePolicy (World Move Choice Key Content : Type) where
  desired : World → Key → Content → Content
  observe : Choice → Key → Option Content → Option Content → World → World
  perform : Move → World → World
  wakes : Move → World → Finset Key
  requests : Move → World → Finset Key

inductive LoopEvent (Move Choice Key Content : Type) where
  | change (key : Key) (content : Option Content)
  | deliver (choice : Choice) (key : Key)
  | move (move : Move)
  | take (key : Key) (ahead : Nat)
  | advance (key : Key) (accepted : Bool)
  | takeDirect (key : Key) (ahead : Nat)
  | advanceDirect (key : Key) (accepted : Bool)

/-- What a policy has to keep to, in the valid worlds: the world takes the change
of an object without changing what others should be, and a move queues or asks
for every key whose object it makes different. -/
structure ReconcilePolicy.Notifies {World Move Choice Key Content : Type}
    (policy : ReconcilePolicy World Move Choice Key Content)
    (valid : World → Prop) (allowed : Move → World → Prop) : Prop where
  observe_valid : ∀ choice key before after world, valid world →
    valid (policy.observe choice key before after world)
  perform_valid : ∀ move world, valid world → allowed move world →
    valid (policy.perform move world)
  observe_other : ∀ choice key before after world other, valid world → other ≠ key →
    policy.desired (policy.observe choice key before after world) other =
      policy.desired world other
  perform_other : ∀ move world key, valid world → allowed move world →
    key ∉ policy.wakes move world → key ∉ policy.requests move world →
      policy.desired (policy.perform move world) key = policy.desired world key

/-- The world mirrors the objects it has been told of: it reflects the content it
takes, and keeps reflecting it. -/
structure ReconcilePolicy.Mirrors {World Move Choice Key Content : Type}
    (policy : ReconcilePolicy World Move Choice Key Content)
    (valid : World → Prop) (allowed : Move → World → Prop)
    (reflects : World → Key → Option Content → Prop) : Prop where
  observe : ∀ choice key before after world, valid world → reflects world key before →
    reflects (policy.observe choice key before after world) key after
  observe_other : ∀ choice key before after world other content, valid world → other ≠ key →
    reflects world other content →
      reflects (policy.observe choice key before after world) other content
  perform : ∀ move world key content, valid world → allowed move world →
    reflects world key content → reflects (policy.perform move world) key content

namespace ReconcileLoop

variable {World Move Choice Key Content : Type} [DecidableEq Key]

def put (key : Key) (content : Content) (state : ReconcileLoop World Key Content) :
    ReconcileLoop World Key Content :=
  let object : Versioned Content := ⟨content, state.nextVersion⟩
  { state with
    stored := Function.update state.stored key (some object)
    nextVersion := state.nextVersion + 1
    notices := Function.update state.notices key (state.notices key ++ [some object]) }

def remove (key : Key) (state : ReconcileLoop World Key Content) :
    ReconcileLoop World Key Content :=
  match state.stored key with
  | none => state
  | some _ =>
      { state with
        stored := Function.update state.stored key none
        notices := Function.update state.notices key (state.notices key ++ [none]) }

def enqueue (keys : Finset Key) (state : ReconcileLoop World Key Content) :
    ReconcileLoop World Key Content :=
  { state with queue := state.queue ∪ keys }

def setWorking (key : Key) (phase : Option (Reconciling Content))
    (state : ReconcileLoop World Key Content) : ReconcileLoop World Key Content :=
  { state with working := Function.update state.working key phase }

def setDirect (key : Key) (phase : Option (Reconciling Content))
    (state : ReconcileLoop World Key Content) : ReconcileLoop World Key Content :=
  { state with direct := Function.update state.direct key phase }

variable (policy : ReconcilePolicy World Move Choice Key Content)

def deliver (choice : Choice) (key : Key) (state : ReconcileLoop World Key Content) :
    ReconcileLoop World Key Content :=
  match state.notices key with
  | [] => state
  | notice :: rest =>
      { state with
        world := policy.observe choice key ((state.observed key).map Versioned.content)
          (notice.map Versioned.content) state.world
        observed := Function.update state.observed key notice
        notices := Function.update state.notices key rest
        queue := insert key state.queue }

/-- The object in the cache, which is some notices ahead of those delivered. -/
def fetch (key : Key) (ahead : Nat) (state : ReconcileLoop World Key Content) :
    Option (Versioned Content) :=
  ((state.notices key).take ahead).getLast?.getD (state.observed key)

/-- The worker takes a key and fetches the object; if the cache has none, it is
done. -/
def take (key : Key) (ahead : Nat) (state : ReconcileLoop World Key Content) :
    ReconcileLoop World Key Content :=
  match state.working key with
  | some _ => state
  | none =>
      if key ∈ state.queue then
        { state with
          queue := state.queue.erase key
          working := Function.update state.working key ((state.fetch key ahead).map .fetched) }
      else state

def takeDirect (key : Key) (ahead : Nat) (state : ReconcileLoop World Key Content) :
    ReconcileLoop World Key Content :=
  match state.direct key with
  | some _ => state
  | none =>
      if key ∈ state.requested then
        { state with
          requested := state.requested.erase key
          direct := Function.update state.direct key ((state.fetch key ahead).map .fetched) }
      else state

/-- The answers to a write. -/
inductive WriteOutcome where
  | written
  | gone
  | failed
deriving DecidableEq

/-- A write of an object that is not stored finds nothing; one of another version
is refused. -/
def writeOutcome (key : Key) (object : Versioned Content) (accepted : Bool)
    (state : ReconcileLoop World Key Content) : WriteOutcome :=
  if accepted then
    match state.stored key with
    | none => .gone
    | some current => if current.version = object.version then .written else .failed
  else .failed

def perform (move : Move) (state : ReconcileLoop World Key Content) :
    ReconcileLoop World Key Content :=
  { state with
    world := policy.perform move state.world
    queue := state.queue ∪ policy.wakes move state.world
    requested := state.requested ∪ policy.requests move state.world }

section Decisions

variable [DecidableEq Content]

/-- What a reconcile does with the object it has fetched: it is done, or it has
something to write. -/
def decide (key : Key) (object : Versioned Content) (state : ReconcileLoop World Key Content) :
    Option (Reconciling Content) :=
  let content := policy.desired state.world key object.content
  if content = object.content then none else some (.writing object content)

def advance (key : Key) (accepted : Bool) (state : ReconcileLoop World Key Content) :
    ReconcileLoop World Key Content :=
  match state.working key with
  | none => state
  | some (.fetched object) => state.setWorking key (state.decide policy key object)
  | some (.writing object content) =>
      match state.writeOutcome key object accepted with
      | .written => (state.setWorking key none).put key content
      | .gone => state.setWorking key none
      | .failed => (state.setWorking key none).enqueue {key}

def advanceDirect (key : Key) (accepted : Bool) (state : ReconcileLoop World Key Content) :
    ReconcileLoop World Key Content :=
  match state.direct key with
  | none => state
  | some (.fetched object) => state.setDirect key (state.decide policy key object)
  | some (.writing object content) =>
      match state.writeOutcome key object accepted with
      | .written => (state.setDirect key none).put key content
      | .gone | .failed => state.setDirect key none

def step (event : LoopEvent Move Choice Key Content) (state : ReconcileLoop World Key Content) :
    ReconcileLoop World Key Content :=
  match event with
  | .change key (some content) => state.put key content
  | .change key none => state.remove key
  | .deliver choice key => state.deliver policy choice key
  | .move move => state.perform policy move
  | .take key ahead => state.take key ahead
  | .advance key accepted => state.advance policy key accepted
  | .takeDirect key ahead => state.takeDirect key ahead
  | .advanceDirect key accepted => state.advanceDirect policy key accepted

end Decisions

/-- The state in which the controller starts: it has seen nothing, and every
stored object is announced. -/
def fresh (world : World) (stored : Key → Option (Versioned Content)) (nextVersion : Nat) :
    ReconcileLoop World Key Content where
  world := world
  stored := stored
  nextVersion := nextVersion
  observed := fun _ => none
  notices key := ((stored key).map some).toList
  queue := ∅
  working := fun _ => none
  requested := ∅
  direct := fun _ => none

/-- An object that is stored, or has been and is not forgotten yet. -/
def Known (state : ReconcileLoop World Key Content) (key : Key) (object : Versioned Content) :
    Prop :=
  state.stored key = some object ∨ state.observed key = some object ∨
    some object ∈ state.notices key ∨
    (∃ phase, state.working key = some phase ∧ phase.object = object) ∨
    ∃ phase, state.direct key = some phase ∧ phase.object = object

/-- What holds in every state: the last notice announces what is stored, versions
tell the known objects apart, and an object the worker has fetched is the stored
one, or the key will be taken again. -/
structure Coherent (state : ReconcileLoop World Key Content) : Prop where
  latest : ∀ key, (state.notices key).getLast?.getD (state.observed key) = state.stored key
  older : ∀ key object, state.Known key object → object.version < state.nextVersion
  sameVersion : ∀ key object current, state.Known key object →
    state.stored key = some current → object.version = current.version → object = current
  fetched : ∀ key phase, state.working key = some phase →
    state.stored key = some phase.object ∨ state.notices key ≠ [] ∨ key ∈ state.queue

namespace Coherent

variable {state : ReconcileLoop World Key Content}

omit [DecidableEq Key] in
/-- A step that writes nothing keeps the order of versions. -/
theorem of_known (coherent : Coherent state) {after : ReconcileLoop World Key Content}
    (stored : after.stored = state.stored) (nextVersion : after.nextVersion = state.nextVersion)
    (known : ∀ key object, after.Known key object → state.Known key object)
    (latest : ∀ key, (after.notices key).getLast?.getD (after.observed key) = after.stored key)
    (fetched : ∀ key phase, after.working key = some phase →
      after.stored key = some phase.object ∨ after.notices key ≠ [] ∨ key ∈ after.queue) :
    Coherent after where
  latest := latest
  older key object isKnown := by
    rw [nextVersion]
    exact coherent.older key object (known key object isKnown)
  sameVersion key object current isKnown isStored sameVersion := by
    rw [stored] at isStored
    exact coherent.sameVersion key object current (known key object isKnown) isStored sameVersion
  fetched := fetched

theorem known_of_put {key other : Key} {content : Content} {object : Versioned Content}
    (known : (state.put key content).Known other object) :
    state.Known other object ∨ other = key ∧ object = ⟨content, state.nextVersion⟩ := by
  unfold Known put at known
  by_cases same : other = key
  · subst same
    simp only [Function.update_self] at known
    rcases known with isStored | observed | announced | fetched
    · exact .inr ⟨rfl, (Option.some.inj isStored).symm⟩
    · exact .inl (.inr (.inl observed))
    · rcases List.mem_append.mp announced with earlier | new
      · exact .inl (.inr (.inr (.inl earlier)))
      · exact .inr ⟨rfl, Option.some.inj (List.mem_singleton.mp new)⟩
    · exact .inl (.inr (.inr (.inr fetched)))
  · simp only [Function.update_of_ne same] at known
    exact .inl known

theorem put (coherent : Coherent state) (key : Key) (content : Content) :
    Coherent (state.put key content) where
  latest other := by
    by_cases same : other = key
    · subst same
      simp [ReconcileLoop.put]
    · simpa [ReconcileLoop.put, Function.update_of_ne same] using coherent.latest other
  older other object known := by
    rcases known_of_put known with before | ⟨-, rfl⟩
    · exact Nat.lt_succ_of_lt (coherent.older other object before)
    · exact Nat.lt_succ_self _
  sameVersion other object current known isStored sameVersion := by
    by_cases same : other = key
    · subst same
      obtain rfl : ⟨content, state.nextVersion⟩ = current := by
        simpa [ReconcileLoop.put] using isStored
      rcases known_of_put known with before | ⟨-, new⟩
      · have older := coherent.older other object before
        rw [sameVersion] at older
        exact absurd older (Nat.lt_irrefl _)
      · exact new
    · rcases known_of_put known with before | ⟨isKey, -⟩
      · apply coherent.sameVersion other object current before _ sameVersion
        simpa [ReconcileLoop.put, Function.update_of_ne same] using isStored
      · exact absurd isKey same
  fetched other phase working := by
    by_cases same : other = key
    · subst same
      exact .inr (.inl (by simp [ReconcileLoop.put]))
    · have before := coherent.fetched other phase working
      simpa [ReconcileLoop.put, Function.update_of_ne same] using before

theorem remove (coherent : Coherent state) (key : Key) : Coherent (state.remove key) := by
  unfold ReconcileLoop.remove
  cases present : state.stored key with
  | none => exact coherent
  | some removed =>
      have known : ∀ other object,
          ReconcileLoop.Known { state with
            stored := Function.update state.stored key none
            notices := Function.update state.notices key (state.notices key ++ [none]) }
              other object → state.Known other object := by
        intro other object known
        unfold Known at known ⊢
        by_cases same : other = key
        · subst same
          right
          simpa using known
        · simpa [Function.update_of_ne same] using known
      constructor
      case latest =>
        intro other
        by_cases same : other = key
        · subst same
          simp
        · simpa [Function.update_of_ne same] using coherent.latest other
      case older => exact fun other object isKnown => coherent.older _ _ (known _ _ isKnown)
      case sameVersion =>
        intro other object current isKnown isStored sameVersion
        by_cases same : other = key
        · subst same
          simp at isStored
        · apply coherent.sameVersion other object current (known _ _ isKnown) _ sameVersion
          simpa [Function.update_of_ne same] using isStored
      case fetched =>
        intro other phase working
        by_cases same : other = key
        · subst same
          exact .inr (.inl (by simp))
        · have before := coherent.fetched other phase working
          simpa [Function.update_of_ne same] using before

theorem enqueue (coherent : Coherent state) (keys : Finset Key) :
    Coherent (state.enqueue keys) := by
  refine coherent.of_known rfl rfl (fun _ _ known => known) coherent.latest ?_
  intro key phase working
  rcases coherent.fetched key phase working with current | announced | queued
  · exact .inl current
  · exact .inr (.inl announced)
  · exact .inr (.inr (Finset.mem_union_left _ queued))

theorem setWorking (coherent : Coherent state) {key : Key} {next : Option (Reconciling Content)}
    (sameObject : ∀ phase, next = some phase →
      ∃ before, state.working key = some before ∧ before.object = phase.object) :
    Coherent (state.setWorking key next) := by
  have working : ∀ other phase, (state.setWorking key next).working other = some phase →
      ∃ before, state.working other = some before ∧ before.object = phase.object := by
    intro other phase working
    by_cases same : other = key
    · subst same
      exact sameObject phase (by simpa [ReconcileLoop.setWorking] using working)
    · exact ⟨phase, by simpa [ReconcileLoop.setWorking, Function.update_of_ne same] using working,
        rfl⟩
  refine coherent.of_known rfl rfl ?_ coherent.latest ?_
  · rintro other object (isStored | observed | announced | ⟨phase, isWorking, rfl⟩ | direct)
    · exact .inl isStored
    · exact .inr (.inl observed)
    · exact .inr (.inr (.inl announced))
    · exact .inr (.inr (.inr (.inl (working other phase isWorking))))
    · exact .inr (.inr (.inr (.inr direct)))
  · intro other phase isWorking
    obtain ⟨before, wasWorking, sameObject⟩ := working other phase isWorking
    rw [← sameObject]
    exact coherent.fetched other before wasWorking

theorem setDirect (coherent : Coherent state) {key : Key} {next : Option (Reconciling Content)}
    (known : ∀ phase, next = some phase → state.Known key phase.object) :
    Coherent (state.setDirect key next) := by
  refine coherent.of_known rfl rfl ?_ coherent.latest coherent.fetched
  rintro other object (isStored | observed | announced | working | ⟨phase, isDirect, rfl⟩)
  · exact .inl isStored
  · exact .inr (.inl observed)
  · exact .inr (.inr (.inl announced))
  · exact .inr (.inr (.inr (.inl working)))
  · by_cases same : other = key
    · subst same
      exact known phase (by simpa [ReconcileLoop.setDirect] using isDirect)
    · refine .inr (.inr (.inr (.inr ⟨phase, ?_, rfl⟩)))
      simpa [ReconcileLoop.setDirect, Function.update_of_ne same] using isDirect

theorem deliver (coherent : Coherent state) (choice : Choice) (key : Key) :
    Coherent (state.deliver policy choice key) := by
  unfold ReconcileLoop.deliver
  cases announced : state.notices key with
  | nil => exact coherent
  | cons notice rest =>
      dsimp only
      refine coherent.of_known rfl rfl ?_ ?_ ?_
      · rintro other object (isStored | observed | later | fetched)
        · exact .inl isStored
        · by_cases same : other = key
          · subst same
            refine .inr (.inr (.inl ?_))
            rw [announced, show notice = some object by simpa using observed]
            exact List.mem_cons_self
          · exact .inr (.inl (by simpa [Function.update_of_ne same] using observed))
        · by_cases same : other = key
          · subst same
            refine .inr (.inr (.inl ?_))
            rw [announced]
            exact List.mem_cons_of_mem _ (by simpa using later)
          · exact .inr (.inr (.inl (by simpa [Function.update_of_ne same] using later)))
        · exact .inr (.inr (.inr fetched))
      · intro other
        by_cases same : other = key
        · subst same
          have latest := coherent.latest other
          simp only [announced, List.getLast?_cons, Option.getD_some] at latest
          simpa using latest
        · simpa [Function.update_of_ne same] using coherent.latest other
      · intro other phase working
        by_cases same : other = key
        · subst same
          exact .inr (.inr (Finset.mem_insert_self _ _))
        · rcases coherent.fetched other phase working with current | announced | queued
          · exact .inl current
          · exact .inr (.inl (by simpa [Function.update_of_ne same] using announced))
          · exact .inr (.inr (Finset.mem_insert_of_mem queued))

omit [DecidableEq Key] in
/-- The world has been told of the stored object unless a notice is still to come. -/
theorem observed_eq_stored (coherent : Coherent state) {key : Key}
    (caughtUp : state.notices key = []) : state.observed key = state.stored key := by
  have latest := coherent.latest key
  rwa [caughtUp] at latest

omit [DecidableEq Key] in
/-- So is the object in the cache. -/
theorem fetch_eq_stored (coherent : Coherent state) {key : Key}
    (caughtUp : state.notices key = []) (ahead : Nat) :
    state.fetch key ahead = state.stored key := by
  rw [← coherent.observed_eq_stored caughtUp]
  simp [fetch, caughtUp]

omit [DecidableEq Key] in
theorem known_of_fetch {key : Key} {ahead : Nat} {object : Versioned Content}
    (fetched : state.fetch key ahead = some object) : state.Known key object := by
  unfold fetch at fetched
  cases last : ((state.notices key).take ahead).getLast? with
  | none =>
      rw [last] at fetched
      exact .inr (.inl fetched)
  | some notice =>
      rw [last] at fetched
      obtain rfl : notice = some object := fetched
      exact .inr (.inr (.inl (List.mem_of_mem_take (List.mem_of_getLast? last))))

theorem take (coherent : Coherent state) (key : Key) (ahead : Nat) :
    Coherent (state.take key ahead) := by
  unfold ReconcileLoop.take
  cases free : state.working key with
  | some phase => exact coherent
  | none =>
      dsimp only
      split
      · have working : ∀ other phase,
            Function.update state.working key ((state.fetch key ahead).map .fetched) other =
                some phase →
              (other = key ∧ state.fetch key ahead = some phase.object) ∨
                other ≠ key ∧ state.working other = some phase := by
          intro other phase isWorking
          by_cases same : other = key
          · subst same
            simp only [Function.update_self, Option.map_eq_some_iff] at isWorking
            obtain ⟨object, fetched, rfl⟩ := isWorking
            exact .inl ⟨rfl, fetched⟩
          · exact .inr ⟨same, by simpa [Function.update_of_ne same] using isWorking⟩
        refine coherent.of_known rfl rfl ?_ coherent.latest ?_
        · rintro other object (isStored | observed | announced | ⟨phase, isWorking, rfl⟩ | direct)
          · exact .inl isStored
          · exact .inr (.inl observed)
          · exact .inr (.inr (.inl announced))
          · rcases working other phase isWorking with ⟨rfl, fetched⟩ | ⟨-, wasWorking⟩
            · exact known_of_fetch fetched
            · exact .inr (.inr (.inr (.inl ⟨phase, wasWorking, rfl⟩)))
          · exact .inr (.inr (.inr (.inr direct)))
        · intro other phase isWorking
          rcases working other phase isWorking with ⟨rfl, fetched⟩ | ⟨different, wasWorking⟩
          · by_cases caughtUp : state.notices other = []
            · rw [← coherent.fetch_eq_stored caughtUp ahead]
              exact .inl fetched
            · exact .inr (.inl caughtUp)
          · rcases coherent.fetched other phase wasWorking with current | announced | queued
            · exact .inl current
            · exact .inr (.inl announced)
            · exact .inr (.inr (Finset.mem_erase.mpr ⟨different, queued⟩))
      · exact coherent

theorem takeDirect (coherent : Coherent state) (key : Key) (ahead : Nat) :
    Coherent (state.takeDirect key ahead) := by
  unfold ReconcileLoop.takeDirect
  cases free : state.direct key with
  | some phase => exact coherent
  | none =>
      dsimp only
      split
      · have fetched : ∀ phase, (state.fetch key ahead).map Reconciling.fetched = some phase →
            state.Known key phase.object := by
          intro phase isFetched
          obtain ⟨object, fetched, rfl⟩ := Option.map_eq_some_iff.mp isFetched
          exact known_of_fetch fetched
        have taken := coherent.setDirect fetched
        exact ⟨taken.latest, taken.older, taken.sameVersion, taken.fetched⟩
      · exact coherent

theorem perform (coherent : Coherent state) (move : Move) :
    Coherent (state.perform policy move) := by
  have queued := coherent.enqueue (policy.wakes move state.world)
  exact ⟨queued.latest, queued.older, queued.sameVersion, queued.fetched⟩

omit [DecidableEq Key] in
theorem stored_of_known_fresh {world : World} {stored : Key → Option (Versioned Content)}
    {nextVersion : Nat} {key : Key} {object : Versioned Content}
    (known : (fresh world stored nextVersion).Known key object) : stored key = some object := by
  rcases known with isStored | observed | announced | ⟨phase, working, -⟩ | ⟨phase, direct, -⟩
  · exact isStored
  · cases observed
  · simpa [ReconcileLoop.fresh] using announced
  · cases working
  · cases direct

omit [DecidableEq Key] in
theorem fresh {world : World} {stored : Key → Option (Versioned Content)} {nextVersion : Nat}
    (older : ∀ key object, stored key = some object → object.version < nextVersion) :
    Coherent (.fresh world stored nextVersion) where
  latest key := by
    cases present : stored key with
    | none => simp [ReconcileLoop.fresh, present]
    | some object => simp [ReconcileLoop.fresh, present]
  older key object known := older key object (stored_of_known_fresh known)
  sameVersion key object current known isStored _ :=
    Option.some.inj ((stored_of_known_fresh known).symm.trans isStored)
  fetched _ _ working := by cases working

section Decisions

variable [DecidableEq Content]

omit [DecidableEq Key] in
theorem object_of_decide {key : Key} {object : Versioned Content} {phase : Reconciling Content}
    (decided : state.decide policy key object = some phase) : phase.object = object := by
  unfold ReconcileLoop.decide at decided
  dsimp only at decided
  split at decided
  · cases decided
  · cases decided
    rfl

theorem advance (coherent : Coherent state) (key : Key) (accepted : Bool) :
    Coherent (state.advance policy key accepted) := by
  have finished : Coherent (state.setWorking key none) := coherent.setWorking (by simp)
  unfold ReconcileLoop.advance
  cases working : state.working key with
  | none => exact coherent
  | some phase =>
      cases phase with
      | fetched object =>
          apply coherent.setWorking
          intro next decided
          exact ⟨_, working, (object_of_decide policy decided).symm⟩
      | writing object content =>
          dsimp only
          cases state.writeOutcome key object accepted with
          | written => exact finished.put key content
          | gone => exact finished
          | failed => exact finished.enqueue {key}

theorem advanceDirect (coherent : Coherent state) (key : Key) (accepted : Bool) :
    Coherent (state.advanceDirect policy key accepted) := by
  have finished : Coherent (state.setDirect key none) := coherent.setDirect (by simp)
  unfold ReconcileLoop.advanceDirect
  cases direct : state.direct key with
  | none => exact coherent
  | some phase =>
      cases phase with
      | fetched object =>
          apply coherent.setDirect
          intro next decided
          exact .inr (.inr (.inr (.inr ⟨_, direct, (object_of_decide policy decided).symm⟩)))
      | writing object content =>
          dsimp only
          cases state.writeOutcome key object accepted with
          | written => exact finished.put key content
          | gone => exact finished
          | failed => exact finished

/-- Every step keeps the loop coherent. -/
theorem step (coherent : Coherent state) (event : LoopEvent Move Choice Key Content) :
    Coherent (state.step policy event) := by
  cases event with
  | change key content =>
      cases content with
      | none => exact coherent.remove key
      | some content => exact coherent.put key content
  | deliver choice key => exact coherent.deliver policy choice key
  | move move => exact coherent.perform policy move
  | take key ahead => exact coherent.take key ahead
  | advance key accepted => exact coherent.advance policy key accepted
  | takeDirect key ahead => exact coherent.takeDirect key ahead
  | advanceDirect key accepted => exact coherent.advanceDirect policy key accepted

end Decisions

end Coherent

end ReconcileLoop
