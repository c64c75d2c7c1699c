/-!
# Outcomes of checks in sequence

A check that accepts lets the next one run; one that refuses ends the sequence
with its refusal. A sequence of checks can thus be read one check at a time.
-/

namespace ColumnSchema.Outcome

variable {ε α β γ δ : Type}

@[simp] theorem ok_bind (value : α) (next : α → Except ε β) :
    (Except.ok value >>= next) = next value := rfl

@[simp] theorem error_bind (fault : ε) (next : α → Except ε β) :
    (Except.error fault >>= next) = .error fault := rfl

/-- A sequence yields a result exactly if its first check yields a value from
which the others yield it. -/
theorem bind_eq_ok {first : Except ε α} {next : α → Except ε β} {result : β} :
    first >>= next = .ok result ↔
      ∃ value, first = .ok value ∧ next value = .ok result := by
  cases first with
  | error fault =>
      constructor
      · intro accepted
        cases accepted
      · rintro ⟨value, accepted, -⟩
        cases accepted
  | ok value =>
      constructor
      · intro accepted
        exact ⟨value, rfl, accepted⟩
      · rintro ⟨_, ⟨⟩, accepted⟩
        exact accepted

/-- For a check that yields no value of its own, what follows does not depend on
it. -/
theorem unit_bind_eq_ok {first : Except ε Unit} {next : Unit → Except ε β}
    {result : β} :
    first >>= next = .ok result ↔ first = .ok () ∧ next () = .ok result := by
  rw [bind_eq_ok]
  constructor
  · rintro ⟨⟨⟩, accepted, rest⟩
    exact ⟨accepted, rest⟩
  · rintro ⟨accepted, rest⟩
    exact ⟨(), accepted, rest⟩

/-- A check whose value is not used accepts if it yields one at all. -/
theorem discard_eq_ok {first : Except ε α} {result : β} :
    (first >>= fun _ => .ok result) = .ok result ↔ ∃ value, first = .ok value := by
  rw [bind_eq_ok]
  simp only [and_true]

/-- Such a check refuses with its own fault. -/
theorem discard_eq_error {first : Except ε α} {result : β} {fault : ε} :
    (first >>= fun _ => .ok result) = .error fault ↔ first = .error fault := by
  cases first with
  | error refused => simp
  | ok value => simp

/-- If the outcome is a refusal, its fault is of the kind. -/
def Refuses (kind : ε → Prop) : Except ε α → Prop
  | .error fault => kind fault
  | .ok _ => True

namespace Refuses

variable {kind : ε → Prop}

theorem of_eq_error {outcome : Except ε α} {fault : ε} (refuses : Refuses kind outcome)
    (refused : outcome = .error fault) : kind fault := by
  rw [refused] at refuses
  exact refuses

theorem mono {kind' : ε → Prop} {outcome : Except ε α} (refuses : Refuses kind outcome)
    (wider : ∀ fault, kind fault → kind' fault) : Refuses kind' outcome := by
  cases outcome with
  | error fault => exact wider fault refuses
  | ok value => trivial

/-- A sequence refuses with the faults of its checks. -/
theorem bind {first : Except ε α} {next : α → Except ε β} (refuses : Refuses kind first)
    (others : ∀ value, Refuses kind (next value)) : Refuses kind (first >>= next) := by
  cases first with
  | error fault => exact refuses
  | ok value => exact others value

end Refuses

/-- Two outcomes are alike up to a relation of their values: both are refusals with
the same fault, or both are values and these are related. -/
inductive Alike (related : α → β → Prop) : Except ε α → Except ε β → Prop where
  | refused (fault : ε) : Alike related (.error fault) (.error fault)
  | accepted {left : α} {right : β} (values : related left right) :
      Alike related (.ok left) (.ok right)

namespace Alike

variable {related : α → β → Prop} {related' : γ → δ → Prop}

/-- Two sequences are alike if their first checks are, and if what follows is alike
on whatever these yield. -/
theorem bind {left : Except ε α} {right : Except ε β} {leftNext : α → Except ε γ}
    {rightNext : β → Except ε δ} (firsts : Alike related left right)
    (others : ∀ leftValue rightValue, left = .ok leftValue → right = .ok rightValue →
      related leftValue rightValue →
        Alike related' (leftNext leftValue) (rightNext rightValue)) :
    Alike related' (left >>= leftNext) (right >>= rightNext) := by
  cases firsts with
  | refused fault => exact .refused fault
  | accepted values => exact others _ _ rfl rfl values

/-- Checks with one outcome leave it to what follows whether sequences are alike. -/
theorem bind_of_eq {left right : Except ε α} {leftNext : α → Except ε γ}
    {rightNext : α → Except ε δ} (same : left = right)
    (others : ∀ value, left = .ok value →
      Alike related' (leftNext value) (rightNext value)) :
    Alike related' (left >>= leftNext) (right >>= rightNext) := by
  subst same
  cases left with
  | error fault => exact .refused fault
  | ok value => exact others value rfl

theorem eq_error {left : Except ε α} {right : Except ε β} {fault : ε}
    (alike : Alike related left right) (refused : left = .error fault) :
    right = .error fault := by
  cases alike with
  | refused =>
      cases refused
      rfl
  | accepted => cases refused

theorem exists_ok {left : Except ε α} {right : Except ε β} {value : α}
    (alike : Alike related left right) (accepted : left = .ok value) :
    ∃ other, right = .ok other ∧ related value other := by
  cases alike with
  | refused => cases accepted
  | accepted values =>
      cases accepted
      exact ⟨_, rfl, values⟩

end Alike

/-- Values that can be read back from how they are written are written in different
ways. -/
theorem injective_of_ok {written : α → β} {read : β → Except ε α}
    (back : ∀ value, read (written value) = .ok value) : Function.Injective written := by
  intro left right same
  have readBack := back left
  rw [same, back right] at readBack
  cases readBack
  rfl

end ColumnSchema.Outcome
