/-!
# Bounded channels

A channel with a buffer of fixed capacity.  Sending blocks while the buffer is
full and panics once the channel is closed; receiving blocks while the buffer
is empty and the channel is open, and reports the end of a closed channel when
the buffer has been emptied; closing a closed channel panics.
-/

structure Channel (α : Type) (capacity : Nat) where
  buffer : List α
  closed : Bool
  bounded : buffer.length ≤ capacity

/-- What an operation that may wait does next. -/
inductive ChannelOutcome (α : Type) where
  | blocks
  | panics
  | returns (value : α)

namespace ChannelOutcome

variable {α β : Type}

def map (f : α → β) : ChannelOutcome α → ChannelOutcome β
  | blocks => blocks
  | panics => panics
  | returns value => returns (f value)

theorem map_eq_returns {f : α → β} {outcome : ChannelOutcome α} {value : β} :
    outcome.map f = .returns value ↔ ∃ inner, outcome = .returns inner ∧ f inner = value := by
  cases outcome <;> simp [map]

@[simp]
theorem map_eq_panics {f : α → β} {outcome : ChannelOutcome α} :
    outcome.map f = .panics ↔ outcome = .panics := by
  cases outcome <;> simp [map]

end ChannelOutcome

namespace Channel

variable {α : Type} {capacity : Nat}

def make : Channel α capacity := ⟨[], false, Nat.zero_le _⟩

def send (value : α) (channel : Channel α capacity) : ChannelOutcome (Channel α capacity) :=
  if channel.closed then .panics
  else if room : channel.buffer.length < capacity then
    .returns ⟨channel.buffer ++ [value], false, by
      simpa using Nat.succ_le_of_lt room⟩
  else .blocks

def receive (channel : Channel α capacity) :
    ChannelOutcome (Option α × Channel α capacity) :=
  match found : channel.buffer with
  | value :: rest =>
      .returns (some value, ⟨rest, channel.closed, by
        have bounded := channel.bounded
        rw [found] at bounded
        exact Nat.le_of_succ_le bounded⟩)
  | [] => if channel.closed then .returns (none, channel) else .blocks

def close (channel : Channel α capacity) : ChannelOutcome (Channel α capacity) :=
  if channel.closed then .panics else .returns { channel with closed := true }

section Lemmas

variable {channel channel' : Channel α capacity} {value : α}

@[simp]
theorem send_eq_panics : channel.send value = .panics ↔ channel.closed = true := by
  unfold send
  by_cases closed : channel.closed = true
  · simp [closed]
  · rw [if_neg closed]
    split <;> simp [closed]

@[simp]
theorem close_eq_panics : channel.close = .panics ↔ channel.closed = true := by
  unfold close
  by_cases closed : channel.closed = true <;> simp [closed]

theorem receive_ne_panics : channel.receive ≠ .panics := by
  unfold receive
  split
  · nofun
  · split <;> nofun

/-- A value that is sent stands at the end of the buffer. -/
theorem send_returns (sent : channel.send value = .returns channel') :
    channel.closed = false ∧ channel'.closed = false ∧
      channel'.buffer = channel.buffer ++ [value] := by
  unfold send at sent
  by_cases closed : channel.closed = true
  · rw [if_pos closed] at sent
    cases sent
  · rw [if_neg closed] at sent
    by_cases room : channel.buffer.length < capacity
    · rw [dif_pos room] at sent
      cases sent
      exact ⟨Bool.eq_false_iff.mpr closed, rfl, rfl⟩
    · rw [dif_neg room] at sent
      cases sent

theorem close_returns (closes : channel.close = .returns channel') :
    channel.closed = false ∧ channel'.closed = true ∧ channel'.buffer = channel.buffer := by
  unfold close at closes
  by_cases closed : channel.closed = true
  · rw [if_pos closed] at closes
    cases closes
  · rw [if_neg closed] at closes
    cases closes
    exact ⟨Bool.eq_false_iff.mpr closed, rfl, rfl⟩

/-- A value that is received stood at the front of the buffer. -/
theorem receive_returns_some (received : channel.receive = .returns (some value, channel')) :
    channel.buffer = value :: channel'.buffer ∧ channel'.closed = channel.closed := by
  obtain ⟨buffer, closed, bounded⟩ := channel
  cases buffer with
  | nil => cases closed <;> cases received
  | cons first rest =>
      cases received
      exact ⟨rfl, rfl⟩

theorem receive_returns_none (received : channel.receive = .returns (none, channel')) :
    channel.buffer = [] ∧ channel.closed = true ∧ channel' = channel := by
  obtain ⟨buffer, closed, bounded⟩ := channel
  cases buffer with
  | nil =>
      cases closed with
      | false => cases received
      | true =>
          cases received
          exact ⟨rfl, rfl, rfl⟩
  | cons first rest => cases received

theorem exists_send (value : α) (isOpen : channel.closed = false)
    (room : channel.buffer.length < capacity) :
    ∃ channel', channel.send value = .returns channel' := by
  unfold send
  rw [if_neg (Bool.eq_false_iff.mp isOpen), dif_pos room]
  exact ⟨_, rfl⟩

theorem exists_close (isOpen : channel.closed = false) :
    ∃ channel', channel.close = .returns channel' := by
  unfold close
  rw [if_neg (Bool.eq_false_iff.mp isOpen)]
  exact ⟨_, rfl⟩

theorem exists_receive (ready : channel.buffer ≠ [] ∨ channel.closed = true) :
    ∃ received, channel.receive = .returns received := by
  obtain ⟨buffer, closed, bounded⟩ := channel
  cases buffer with
  | nil =>
      obtain rfl : closed = true := ready.resolve_left fun nonempty => nonempty rfl
      exact ⟨_, rfl⟩
  | cons first rest => exact ⟨_, rfl⟩

end Lemmas

end Channel
