import KubeStartupCPUBoost.LevelTriggered

/-!
# What a reconcile loop comes to

In every state of a reconcile loop an object is as it should be, or something is
on its way that will look at it again (`Sound`).  So an object with nothing
pending is as it should be, although direct writes that lose against another
write are forgotten: the other write is announced, and its notice queues the key.

`Mirrored` is the other half: the world reflects what it has been told of the
stored objects, and once all notices are delivered that is what is stored.
-/

namespace ReconcileLoop

variable {World Move Choice Key Content : Type} [DecidableEq Key]
  (policy : ReconcilePolicy World Move Choice Key Content)

section UpToDate

def Settled (state : ReconcileLoop World Key Content) (key : Key) : Prop :=
  ∀ object, state.stored key = some object →
    policy.desired state.world key object.content = object.content

/-- A reconcile in progress works on the stored object, and what it is about to
write is what the object should be. -/
def Current (state : ReconcileLoop World Key Content) (key : Key) :
    Option (Reconciling Content) → Prop
  | none => False
  | some (.fetched object) => state.stored key = some object
  | some (.writing object content) =>
      state.stored key = some object ∧ content = policy.desired state.world key object.content

/-- Something is on its way that will look at the object again. -/
def Pending (state : ReconcileLoop World Key Content) (key : Key) : Prop :=
  state.notices key ≠ [] ∨ key ∈ state.queue ∨ key ∈ state.requested ∨
    state.Current policy key (state.working key) ∨ state.Current policy key (state.direct key)

def UpToDate (state : ReconcileLoop World Key Content) (key : Key) : Prop :=
  state.Settled policy key ∨ state.Pending policy key

/-- Nothing is on its way. -/
structure Idle (state : ReconcileLoop World Key Content) (key : Key) : Prop where
  notices : state.notices key = []
  queue : key ∉ state.queue
  requested : key ∉ state.requested
  working : state.working key = none
  direct : state.direct key = none

variable {policy} {state after : ReconcileLoop World Key Content} {key : Key}

omit [DecidableEq Key] in
theorem UpToDate.settled (upToDate : state.UpToDate policy key) (idle : state.Idle key) :
    state.Settled policy key := by
  rcases upToDate with settled | announced | queued | requested | working | direct
  · exact settled
  · exact absurd idle.notices announced
  · exact absurd queued idle.queue
  · exact absurd requested idle.requested
  · rw [idle.working] at working
    exact working.elim
  · rw [idle.direct] at direct
    exact direct.elim

omit [DecidableEq Key] in
theorem Current.congr {phase : Option (Reconciling Content)}
    (current : state.Current policy key phase) (stored : after.stored key = state.stored key)
    (desired : policy.desired after.world key = policy.desired state.world key) :
    after.Current policy key phase := by
  cases phase with
  | none => exact current
  | some phase =>
      cases phase with
      | fetched object => exact stored.trans current
      | writing object content => exact ⟨stored.trans current.1, by rw [desired]; exact current.2⟩

omit [DecidableEq Key] in
/-- A step that leaves a key alone. -/
theorem UpToDate.congr (upToDate : state.UpToDate policy key)
    (stored : after.stored key = state.stored key)
    (desired : policy.desired after.world key = policy.desired state.world key)
    (notices : after.notices key = state.notices key)
    (queue : key ∈ state.queue → key ∈ after.queue)
    (requested : key ∈ state.requested → key ∈ after.requested)
    (working : after.working key = state.working key)
    (direct : after.direct key = state.direct key) : after.UpToDate policy key := by
  rcases upToDate with settled | announced | queued | isRequested | current | current
  · left
    intro object isStored
    rw [stored] at isStored
    rw [desired]
    exact settled object isStored
  · exact .inr (.inl (by rwa [notices]))
  · exact .inr (.inr (.inl (queue queued)))
  · exact .inr (.inr (.inr (.inl (requested isRequested))))
  · refine .inr (.inr (.inr (.inr (.inl ?_))))
    rw [working]
    exact current.congr stored desired
  · refine .inr (.inr (.inr (.inr (.inr ?_))))
    rw [direct]
    exact current.congr stored desired

theorem UpToDate.put (upToDate : state.UpToDate policy key) (written : Key) (content : Content) :
    (state.put written content).UpToDate policy key := by
  by_cases same : key = written
  · subst same
    exact .inr (.inl (by simp [ReconcileLoop.put]))
  · exact upToDate.congr (Function.update_of_ne same _ _) rfl (Function.update_of_ne same _ _) id id
      rfl rfl

theorem UpToDate.remove (upToDate : state.UpToDate policy key) (removed : Key) :
    (state.remove removed).UpToDate policy key := by
  unfold ReconcileLoop.remove
  cases state.stored removed with
  | none => exact upToDate
  | some object =>
      by_cases same : key = removed
      · subst same
        exact .inr (.inl (by simp))
      · exact upToDate.congr (Function.update_of_ne same _ _) rfl (Function.update_of_ne same _ _)
          id id rfl rfl

omit [DecidableEq Key] in
theorem settled_of_not_stored (absent : state.stored key = none) : state.Settled policy key := by
  intro object isStored
  cases absent.symm.trans isStored

omit [DecidableEq Key] in
/-- A key that is taken up is pending in another way. -/
theorem settled_or_current_fetched (coherent : Coherent state)
    (caughtUp : state.notices key = []) (ahead : Nat) :
    state.Settled policy key ∨
      state.Current policy key ((state.fetch key ahead).map Reconciling.fetched) := by
  rw [coherent.fetch_eq_stored caughtUp ahead]
  cases present : state.stored key with
  | none => exact .inl (settled_of_not_stored present)
  | some object => exact .inr present

theorem UpToDate.take (upToDate : state.UpToDate policy key) (coherent : Coherent state)
    (taken : Key) (ahead : Nat) : (state.take taken ahead).UpToDate policy key := by
  unfold ReconcileLoop.take
  cases state.working taken with
  | some phase => exact upToDate
  | none =>
      dsimp only
      split
      · by_cases same : key = taken
        · subst same
          by_cases caughtUp : state.notices key = []
          · rcases settled_or_current_fetched coherent caughtUp ahead with settled | current
            · exact .inl settled
            · refine .inr (.inr (.inr (.inr (.inl ?_))))
              simp only [Function.update_self]
              exact current.congr rfl rfl
          · exact .inr (.inl caughtUp)
        · exact upToDate.congr rfl rfl rfl (fun queued => Finset.mem_erase.mpr ⟨same, queued⟩) id
            (Function.update_of_ne same _ _) rfl
      · exact upToDate

theorem UpToDate.takeDirect (upToDate : state.UpToDate policy key) (coherent : Coherent state)
    (taken : Key) (ahead : Nat) : (state.takeDirect taken ahead).UpToDate policy key := by
  unfold ReconcileLoop.takeDirect
  cases state.direct taken with
  | some phase => exact upToDate
  | none =>
      dsimp only
      split
      · by_cases same : key = taken
        · subst same
          by_cases caughtUp : state.notices key = []
          · rcases settled_or_current_fetched coherent caughtUp ahead with settled | current
            · exact .inl settled
            · refine .inr (.inr (.inr (.inr (.inr ?_))))
              simp only [Function.update_self]
              exact current.congr rfl rfl
          · exact .inr (.inl caughtUp)
        · exact upToDate.congr rfl rfl rfl id
            (fun requested => Finset.mem_erase.mpr ⟨same, requested⟩) rfl
            (Function.update_of_ne same _ _)
      · exact upToDate

theorem UpToDate.setWorking_of_ne (upToDate : state.UpToDate policy key) {other : Key}
    (different : key ≠ other) (phase : Option (Reconciling Content)) :
    (state.setWorking other phase).UpToDate policy key :=
  upToDate.congr rfl rfl rfl id id (Function.update_of_ne different _ _) rfl

theorem UpToDate.setDirect_of_ne (upToDate : state.UpToDate policy key) {other : Key}
    (different : key ≠ other) (phase : Option (Reconciling Content)) :
    (state.setDirect other phase).UpToDate policy key :=
  upToDate.congr rfl rfl rfl id id rfl (Function.update_of_ne different _ _)

omit [DecidableEq Key] in
theorem not_stored_of_gone {object : Versioned Content} {accepted : Bool}
    (gone : state.writeOutcome key object accepted = .gone) : state.stored key = none := by
  unfold writeOutcome at gone
  cases accepted with
  | false => cases gone
  | true =>
      cases present : state.stored key with
      | none => rfl
      | some current =>
          simp only [present, if_true] at gone
          split at gone <;> cases gone

omit [DecidableEq Key] in
theorem outdated_of_failed {object : Versioned Content}
    (failed : state.writeOutcome key object true = .failed) : state.stored key ≠ some object := by
  intro isStored
  simp [writeOutcome, isStored] at failed

/-- A direct reconcile that did not work on the stored object may end: what was
pending without it still is. -/
theorem UpToDate.setDirect_of_outdated (upToDate : state.UpToDate policy key)
    {phase : Reconciling Content} (direct : state.direct key = some phase)
    (outdated : state.stored key ≠ some phase.object) (next : Option (Reconciling Content)) :
    (state.setDirect key next).UpToDate policy key := by
  rcases upToDate with settled | announced | queued | requested | current | current
  · exact .inl settled
  · exact .inr (.inl announced)
  · exact .inr (.inr (.inl queued))
  · exact .inr (.inr (.inr (.inl requested)))
  · exact .inr (.inr (.inr (.inr (.inl (current.congr rfl rfl)))))
  · rw [direct] at current
    cases phase with
    | fetched object => exact absurd current outdated
    | writing object content => exact absurd current.1 outdated

section Decisions

variable [DecidableEq Content]

omit [DecidableEq Key] in
/-- Deciding on the stored object finds it settled, or finds what to write. -/
theorem settled_or_current_decide {object : Versioned Content}
    (isStored : state.stored key = some object) :
    state.Settled policy key ∨ state.Current policy key (state.decide policy key object) := by
  unfold ReconcileLoop.decide
  dsimp only
  by_cases same : policy.desired state.world key object.content = object.content
  · left
    intro current isCurrent
    obtain rfl := Option.some.inj (isStored.symm.trans isCurrent)
    exact same
  · rw [if_neg same]
    exact .inr ⟨isStored, rfl⟩

theorem UpToDate.advance (upToDate : state.UpToDate policy key) (coherent : Coherent state)
    (advanced : Key) (accepted : Bool) :
    (state.advance policy advanced accepted).UpToDate policy key := by
  unfold ReconcileLoop.advance
  cases working : state.working advanced with
  | none => exact upToDate
  | some phase =>
      by_cases same : key = advanced
      · subst same
        cases phase with
        | fetched object =>
            dsimp only
            rcases coherent.fetched key _ working with isStored | announced | queued
            · rcases settled_or_current_decide isStored with settled | current
              · exact .inl settled
              · refine .inr (.inr (.inr (.inr (.inl ?_))))
                simp only [setWorking, Function.update_self]
                exact current.congr rfl rfl
            · exact .inr (.inl announced)
            · exact .inr (.inr (.inl queued))
        | writing object content =>
            dsimp only
            cases outcome : state.writeOutcome key object accepted with
            | written => exact .inr (.inl (by simp [ReconcileLoop.put]))
            | gone => exact .inl (settled_of_not_stored (not_stored_of_gone outcome))
            | failed =>
                refine .inr (.inr (.inl ?_))
                exact Finset.mem_union_right _ (Finset.mem_singleton_self key)
      · have finished := upToDate.setWorking_of_ne same none
        cases phase with
        | fetched object => exact upToDate.setWorking_of_ne same _
        | writing object content =>
            dsimp only
            cases state.writeOutcome advanced object accepted with
            | written => exact finished.put advanced content
            | gone => exact finished
            | failed =>
                exact finished.congr rfl rfl rfl (fun queued => Finset.mem_union_left _ queued) id
                  rfl rfl

/-- Direct writes that lose against another write may be forgotten. -/
theorem UpToDate.advanceDirect (upToDate : state.UpToDate policy key) (advanced : Key) :
    (state.advanceDirect policy advanced true).UpToDate policy key := by
  unfold ReconcileLoop.advanceDirect
  cases direct : state.direct advanced with
  | none => exact upToDate
  | some phase =>
      by_cases same : key = advanced
      · subst same
        cases phase with
        | fetched object =>
            dsimp only
            by_cases isStored : state.stored key = some object
            · rcases settled_or_current_decide isStored with settled | current
              · exact .inl settled
              · refine .inr (.inr (.inr (.inr (.inr ?_))))
                simp only [setDirect, Function.update_self]
                exact current.congr rfl rfl
            · exact upToDate.setDirect_of_outdated direct isStored _
        | writing object content =>
            dsimp only
            cases outcome : state.writeOutcome key object true with
            | written => exact .inr (.inl (by simp [ReconcileLoop.put]))
            | gone => exact .inl (settled_of_not_stored (not_stored_of_gone outcome))
            | failed =>
                exact upToDate.setDirect_of_outdated direct (outdated_of_failed outcome) _
      · have finished := upToDate.setDirect_of_ne same none
        cases phase with
        | fetched object => exact upToDate.setDirect_of_ne same _
        | writing object content =>
            dsimp only
            cases state.writeOutcome advanced object true with
            | written => exact finished.put advanced content
            | gone => exact finished
            | failed => exact finished

end Decisions

end UpToDate

section Runs

/-- An event that may happen: a move the world allows, and a direct write that is
not rejected for other reasons than the object's version. -/
def EventAllowed (allowed : Move → World → Prop) (event : LoopEvent Move Choice Key Content)
    (state : ReconcileLoop World Key Content) : Prop :=
  match event with
  | .move move => allowed move state.world
  | .advanceDirect _ accepted => accepted = true
  | _ => True

/-- What holds in every state of a run. -/
structure Sound (valid : World → Prop) (state : ReconcileLoop World Key Content) : Prop where
  valid : valid state.world
  coherent : Coherent state
  upToDate : ∀ key, state.UpToDate policy key

variable {policy} {valid : World → Prop} {allowed : Move → World → Prop}
  {state : ReconcileLoop World Key Content}

omit [DecidableEq Key] in
/-- At the start every stored object is announced. -/
theorem Sound.fresh {world : World} {stored : Key → Option (Versioned Content)}
    {nextVersion : Nat} (isValid : valid world)
    (older : ∀ key object, stored key = some object → object.version < nextVersion) :
    Sound policy valid (.fresh world stored nextVersion) where
  valid := isValid
  coherent := .fresh older
  upToDate key := by
    cases present : stored key with
    | none => exact .inl (settled_of_not_stored present)
    | some object => exact .inr (.inl (by simp [ReconcileLoop.fresh, present]))

theorem UpToDate.deliver (notifies : policy.Notifies valid allowed) {key : Key}
    (upToDate : state.UpToDate policy key) (isValid : valid state.world) (choice : Choice)
    (delivered : Key) : (state.deliver policy choice delivered).UpToDate policy key := by
  unfold ReconcileLoop.deliver
  cases state.notices delivered with
  | nil => exact upToDate
  | cons notice rest =>
      dsimp only
      by_cases same : key = delivered
      · subst same
        exact .inr (.inr (.inl (Finset.mem_insert_self _ _)))
      · exact upToDate.congr rfl (notifies.observe_other _ _ _ _ _ _ isValid same)
          (Function.update_of_ne same _ _) (fun queued => Finset.mem_insert_of_mem queued) id rfl
          rfl

theorem UpToDate.perform (notifies : policy.Notifies valid allowed) {key : Key}
    (upToDate : state.UpToDate policy key) (isValid : valid state.world) {move : Move}
    (isAllowed : allowed move state.world) : (state.perform policy move).UpToDate policy key := by
  by_cases woken : key ∈ policy.wakes move state.world
  · exact .inr (.inr (.inl (Finset.mem_union_right _ woken)))
  · by_cases requested : key ∈ policy.requests move state.world
    · exact .inr (.inr (.inr (.inl (Finset.mem_union_right _ requested))))
    · exact upToDate.congr rfl (notifies.perform_other _ _ _ isValid isAllowed woken requested) rfl
        (fun queued => Finset.mem_union_left _ queued)
        (fun earlier => Finset.mem_union_left _ earlier) rfl rfl

variable [DecidableEq Content]

/-- The world is told of an object when a notice is delivered, and changes then and by
its own moves. -/
theorem step_cases (event : LoopEvent Move Choice Key Content)
    (state : ReconcileLoop World Key Content) :
    ((state.step policy event).world = state.world ∧
        (state.step policy event).observed = state.observed) ∨
      (∃ choice key notice,
        (state.step policy event).world = policy.observe choice key
            ((state.observed key).map Versioned.content) (notice.map Versioned.content)
            state.world ∧
          (state.step policy event).observed = Function.update state.observed key notice) ∨
      ∃ move, event = .move move ∧
        (state.step policy event).world = policy.perform move state.world ∧
          (state.step policy event).observed = state.observed := by
  cases event with
  | change key content =>
      left
      cases content with
      | some content => exact ⟨rfl, rfl⟩
      | none =>
          simp only [step, remove]
          cases state.stored key <;> exact ⟨rfl, rfl⟩
  | deliver choice key =>
      simp only [step, ReconcileLoop.deliver]
      cases state.notices key with
      | nil => exact .inl ⟨rfl, rfl⟩
      | cons notice rest => exact .inr (.inl ⟨choice, key, notice, rfl, rfl⟩)
  | move move => exact .inr (.inr ⟨move, rfl, rfl, rfl⟩)
  | take key ahead =>
      left
      simp only [step, ReconcileLoop.take]
      cases state.working key with
      | some phase => exact ⟨rfl, rfl⟩
      | none =>
          dsimp only
          split <;> exact ⟨rfl, rfl⟩
  | advance key accepted =>
      left
      simp only [step, ReconcileLoop.advance]
      cases state.working key with
      | none => exact ⟨rfl, rfl⟩
      | some phase =>
          cases phase with
          | fetched object => exact ⟨rfl, rfl⟩
          | writing object content =>
              dsimp only
              cases state.writeOutcome key object accepted <;> exact ⟨rfl, rfl⟩
  | takeDirect key ahead =>
      left
      simp only [step, ReconcileLoop.takeDirect]
      cases state.direct key with
      | some phase => exact ⟨rfl, rfl⟩
      | none =>
          dsimp only
          split <;> exact ⟨rfl, rfl⟩
  | advanceDirect key accepted =>
      left
      simp only [step, ReconcileLoop.advanceDirect]
      cases state.direct key with
      | none => exact ⟨rfl, rfl⟩
      | some phase =>
          cases phase with
          | fetched object => exact ⟨rfl, rfl⟩
          | writing object content =>
              dsimp only
              cases state.writeOutcome key object accepted <;> exact ⟨rfl, rfl⟩

theorem Sound.step (notifies : policy.Notifies valid allowed) (sound : Sound policy valid state)
    {event : LoopEvent Move Choice Key Content} (isAllowed : EventAllowed allowed event state) :
    Sound policy valid (state.step policy event) where
  valid := by
    rcases step_cases event state with ⟨same, -⟩ | ⟨choice, key, notice, observed, -⟩ |
      ⟨move, rfl, performed, -⟩
    · rw [same]
      exact sound.valid
    · rw [observed]
      exact notifies.observe_valid _ _ _ _ _ sound.valid
    · rw [performed]
      exact notifies.perform_valid _ _ sound.valid isAllowed
  coherent := sound.coherent.step policy event
  upToDate key := by
    have upToDate := sound.upToDate key
    cases event with
    | change changed content =>
        cases content with
        | some content => exact upToDate.put changed content
        | none => exact upToDate.remove changed
    | deliver choice delivered => exact upToDate.deliver notifies sound.valid choice delivered
    | move move => exact upToDate.perform notifies sound.valid isAllowed
    | take taken ahead => exact upToDate.take sound.coherent taken ahead
    | advance advanced accepted => exact upToDate.advance sound.coherent advanced accepted
    | takeDirect taken ahead => exact upToDate.takeDirect sound.coherent taken ahead
    | advanceDirect advanced accepted =>
        obtain rfl : accepted = true := isAllowed
        exact upToDate.advanceDirect advanced

/-- The world reflects the objects it has been told of. -/
def Mirrored (reflects : World → Key → Option Content → Prop)
    (state : ReconcileLoop World Key Content) : Prop :=
  ∀ key, reflects state.world key ((state.observed key).map Versioned.content)

variable {reflects : World → Key → Option Content → Prop}

theorem Mirrored.step (mirrors : policy.Mirrors valid allowed reflects)
    (isValid : valid state.world) (mirrored : Mirrored reflects state)
    {event : LoopEvent Move Choice Key Content} (isAllowed : EventAllowed allowed event state) :
    Mirrored reflects (state.step policy event) := by
  intro key
  rcases step_cases event state with ⟨sameWorld, sameObserved⟩ |
    ⟨choice, delivered, notice, told, observed⟩ | ⟨move, rfl, performed, sameObserved⟩
  · rw [sameWorld, sameObserved]
    exact mirrored key
  · rw [told, observed]
    by_cases same : key = delivered
    · subst same
      rw [Function.update_self]
      exact mirrors.observe _ _ _ _ _ isValid (mirrored key)
    · rw [Function.update_of_ne same]
      exact mirrors.observe_other _ _ _ _ _ _ _ isValid same (mirrored key)
  · rw [performed, sameObserved]
    exact mirrors.perform _ _ _ _ isValid isAllowed (mirrored key)

/-- Through a run the loop stays sound, and the world a mirror. -/
theorem Sound.run_mirrored (notifies : policy.Notifies valid allowed)
    (mirrors : policy.Mirrors valid allowed reflects) (sound : Sound policy valid state)
    (mirrored : Mirrored reflects state) {events : List (LoopEvent Move Choice Key Content)}
    (isAllowed : AllowedRun (ReconcileLoop.step policy) (EventAllowed allowed) events state) :
    Sound policy valid (runEvents (ReconcileLoop.step policy) events state) ∧
      Mirrored reflects (runEvents (ReconcileLoop.step policy) events state) := by
  have preserved : ∀ event before, Sound policy valid before ∧ Mirrored reflects before →
      EventAllowed allowed event before →
        Sound policy valid (before.step policy event) ∧
          Mirrored reflects (before.step policy event) := by
    rintro event before ⟨sound, mirrored⟩ isAllowed
    exact ⟨sound.step notifies isAllowed, mirrored.step mirrors sound.valid isAllowed⟩
  exact runEvents_invariant preserved ⟨sound, mirrored⟩ isAllowed

omit [DecidableEq Key] [DecidableEq Content] in
/-- Once its notices are delivered, the world reflects what is stored under a key. -/
theorem Mirrored.stored (mirrored : Mirrored reflects state) (coherent : Coherent state)
    {key : Key} (caughtUp : state.notices key = []) :
    reflects state.world key ((state.stored key).map Versioned.content) := by
  rw [← coherent.observed_eq_stored caughtUp]
  exact mirrored key

end Runs

end ReconcileLoop
