import ColumnSchema.Analysis

/-!
# Names that a policy accepts

Whatever its limit and its stem, a policy accepts identifiers only. Identifiers
are described here by the characters that they consist of, and what a policy has
against a name by three conditions of which none refers to the others. It accepts
the names to which none applies, and refuses the others for the first that does.
-/

namespace ColumnSchema

/-- An ASCII letter or an underscore. -/
def IsNameLetter (c : Char) : Prop :=
  c = '_' ∨ ('a' ≤ c ∧ c ≤ 'z') ∨ ('A' ≤ c ∧ c ≤ 'Z')

instance (c : Char) : Decidable (IsNameLetter c) :=
  inferInstanceAs (Decidable (_ ∨ _))

/-- The text is an ASCII letter or an underscore, followed by ASCII letters, digits
and underscores only. -/
def IsName (text : List Char) : Prop :=
  ∃ first rest, text = first :: rest ∧ IsNameLetter first ∧
    ∀ c ∈ rest, IsNameLetter c ∨ ('0' ≤ c ∧ c ≤ '9')

theorem isAlpha_iff {c : Char} :
    c.isAlpha = true ↔ ('a' ≤ c ∧ c ≤ 'z') ∨ ('A' ≤ c ∧ c ≤ 'Z') := by
  have letters : c.isAlpha =
      (decide ('A' ≤ c ∧ c ≤ 'Z') || (decide ('a' ≤ c) && decide (c ≤ 'z'))) := rfl
  rw [letters]
  simp only [Bool.or_eq_true, Bool.and_eq_true, decide_eq_true_eq]
  exact or_comm

theorem isDigit_iff {c : Char} : c.isDigit = true ↔ '0' ≤ c ∧ c ≤ '9' := by
  simp only [Char.isDigit, Bool.and_eq_true, decide_eq_true_eq]
  rfl

theorem isNameStart_eq_true {c : Char} : isNameStart c = true ↔ IsNameLetter c := by
  simp only [isNameStart, IsNameLetter, Bool.or_eq_true, beq_iff_eq, isAlpha_iff]

theorem isNameCharacter_eq_true {c : Char} :
    isNameCharacter c = true ↔ IsNameLetter c ∨ ('0' ≤ c ∧ c ≤ '9') := by
  simp only [isNameCharacter, Char.isAlphanum, IsNameLetter, Bool.or_eq_true, beq_iff_eq,
    isAlpha_iff, isDigit_iff, or_assoc]

@[simp] theorem isIdentifier_eq_true {text : List Char} :
    isIdentifier text = true ↔ IsName text := by
  cases text with
  | nil => simp [isIdentifier, IsName]
  | cons first rest =>
      simp only [isIdentifier, IsName, Bool.and_eq_true, List.all_eq_true,
        isNameStart_eq_true, isNameCharacter_eq_true]
      constructor
      · rintro ⟨start, others⟩
        exact ⟨first, rest, rfl, start, others⟩
      · rintro ⟨_, _, ⟨⟩, start, others⟩
        exact ⟨start, others⟩

namespace IsName

theorem characters {text : List Char} (identifier : IsName text) :
    ∀ c ∈ text, IsNameLetter c ∨ ('0' ≤ c ∧ c ≤ '9') := by
  obtain ⟨first, rest, rfl, start, others⟩ := identifier
  exact List.forall_mem_cons.mpr ⟨.inl start, others⟩

/-- What is left of an identifier when its end is cut off is one, if it is not empty. -/
theorem of_prefix {front text : List Char} (identifier : IsName text)
    (nonempty : front ≠ []) (starts : front <+: text) : IsName front := by
  obtain ⟨first, rest, rfl, start, others⟩ := identifier
  obtain empty | ⟨kept, rfl, startsRest⟩ := List.prefix_cons_iff.mp starts
  · exact absurd empty nonempty
  · exact ⟨first, kept, rfl, start, fun c member => others c (startsRest.subset member)⟩

end IsName

/-! ## Bytes and characters -/

/-- Letters, digits and underscores are ASCII. -/
theorem utf8Size_eq_one {c : Char} (legal : IsNameLetter c ∨ ('0' ≤ c ∧ c ≤ '9')) :
    c.utf8Size = 1 := by
  have ascii : c ≤ 'z' := by
    obtain (rfl | ⟨-, le⟩ | ⟨-, le⟩) | ⟨-, le⟩ := legal
    · decide
    · exact le
    · exact Char.le_trans le (by decide)
    · exact Char.le_trans le (by decide)
  exact Char.utf8Size_eq_one_iff.mpr (UInt32.le_trans (Char.le_def.mp ascii) (by decide))

/-- A text of characters of one byte has as many bytes as characters. -/
theorem utf8ByteSize_eq_length {text : String}
    (single : ∀ c ∈ text.toList, c.utf8Size = 1) : text.utf8ByteSize = text.length := by
  induction text using String.push_induction with
  | empty => rfl
  | push front c ih =>
      rw [String.toList_push, List.forall_mem_append] at single
      rw [String.utf8ByteSize_push, String.length_push, ih single.1,
        single.2 c (List.mem_singleton_self c)]

theorem IsName.utf8ByteSize_eq {name : String} (identifier : IsName name.toList) :
    name.utf8ByteSize = name.length :=
  utf8ByteSize_eq_length fun c member => utf8Size_eq_one (identifier.characters c member)

/-! ## What a policy has against a name -/

/-- The place of a fault in the order in which a policy looks for them. -/
def NameFault.rank : NameFault → Nat
  | illegalCharacters => 0
  | tooLong _ => 1
  | reserved _ => 2

namespace NamePolicy

variable {policy : NamePolicy} {name : String} {fault : NameFault}

/-- The policy has this against the name, whatever else it has against it. -/
inductive Finds (policy : NamePolicy) (name : String) : NameFault → Prop where
  | illegalCharacters (illegal : ¬ IsName name.toList) : Finds policy name .illegalCharacters
  | tooLong (long : policy.maxLength < name.length) :
      Finds policy name (.tooLong policy.maxLength)
  | reserved (nonempty : policy.reservedStem ≠ "")
      (starts : policy.reservedStem.toList <+: name.toList) :
      Finds policy name (.reserved policy.reservedStem)

/-- Nothing that the policy has against the name comes before this. -/
structure FindsFirst (policy : NamePolicy) (name : String) (fault : NameFault) : Prop where
  finds : policy.Finds name fault
  first : ∀ other, policy.Finds name other → fault.rank ≤ other.rank

theorem Finds.eq_of_rank_eq {other : NameFault} (finds : policy.Finds name fault)
    (findsOther : policy.Finds name other) (same : fault.rank = other.rank) :
    fault = other := by
  cases finds with
  | illegalCharacters =>
      cases findsOther with
      | illegalCharacters => rfl
      | tooLong | reserved => cases same
  | tooLong =>
      cases findsOther with
      | tooLong => rfl
      | illegalCharacters | reserved => cases same
  | reserved =>
      cases findsOther with
      | reserved => rfl
      | illegalCharacters | tooLong => cases same

theorem FindsFirst.unique {other : NameFault} (first : policy.FindsFirst name fault)
    (firstOther : policy.FindsFirst name other) : fault = other :=
  first.finds.eq_of_rank_eq firstOther.finds
    (Nat.le_antisymm (first.first other firstOther.finds)
      (firstOther.first fault first.finds))

theorem reserves_eq_true :
    policy.reserves name = true ↔
      policy.reservedStem ≠ "" ∧ policy.reservedStem.toList <+: name.toList := by
  simp [reserves]

/-- The outcomes of the tests of a policy, each with all that the tests before it showed. -/
inductive Judges (policy : NamePolicy) (name : String) : Option NameFault → Prop where
  | illegal (illegal : ¬ IsName name.toList) : Judges policy name (some .illegalCharacters)
  | long (identifier : IsName name.toList) (long : policy.maxLength < name.length) :
      Judges policy name (some (.tooLong policy.maxLength))
  | reserved (identifier : IsName name.toList) (short : name.length ≤ policy.maxLength)
      (reserved : policy.reserves name = true) :
      Judges policy name (some (.reserved policy.reservedStem))
  | accepted (identifier : IsName name.toList) (short : name.length ≤ policy.maxLength)
      (free : policy.reserves name = false) : Judges policy name none

/-- The tests have these outcomes. The bytes of a name are only counted when it is known to
be an identifier, so they are its characters. -/
theorem judges_fault? (policy : NamePolicy) (name : String) :
    policy.Judges name (policy.fault? name) := by
  rw [fault?]
  split
  next illegal =>
    have refused : isIdentifier name.toList = false := by simpa using illegal
    exact .illegal (mt isIdentifier_eq_true.mpr (Bool.eq_false_iff.mp refused))
  next legal =>
    have identifier : IsName name.toList := by simpa using legal
    rw [identifier.utf8ByteSize_eq]
    split
    next long => exact .long identifier long
    next short =>
      have fits : name.length ≤ policy.maxLength := Nat.not_lt.mp short
      split
      next reserved => exact .reserved identifier fits reserved
      next free => exact .accepted identifier fits (Bool.eq_false_iff.mpr free)

/-- An accepted name is an identifier, short enough and not reserved. -/
theorem fault?_eq_none {policy : NamePolicy} {name : String} :
    policy.fault? name = none ↔
      IsName name.toList ∧ name.length ≤ policy.maxLength ∧
        policy.reserves name = false := by
  have judged := policy.judges_fault? name
  constructor
  · intro accepted
    rw [accepted] at judged
    cases judged with
    | accepted identifier short free => exact ⟨identifier, short, free⟩
  · rintro ⟨identifier, short, free⟩
    generalize policy.fault? name = outcome at judged
    cases judged with
    | illegal illegal => exact absurd identifier illegal
    | long _ long => exact absurd long (Nat.not_lt.mpr short)
    | reserved _ _ reserved => exact absurd reserved (Bool.eq_false_iff.mp free)
    | accepted => rfl

/-- The fault that is reported is the first. -/
theorem findsFirst_of_fault? (reported : policy.fault? name = some fault) :
    policy.FindsFirst name fault := by
  have judged := policy.judges_fault? name
  rw [reported] at judged
  cases judged with
  | illegal illegal => exact ⟨.illegalCharacters illegal, fun _ _ => Nat.zero_le _⟩
  | long identifier long =>
      refine ⟨.tooLong long, ?_⟩
      intro other finds
      cases finds with
      | illegalCharacters illegal => exact absurd identifier illegal
      | tooLong => exact Nat.le_refl 1
      | reserved => exact Nat.le_succ 1
  | reserved identifier short reserved =>
      obtain ⟨nonempty, starts⟩ := reserves_eq_true.mp reserved
      refine ⟨.reserved nonempty starts, ?_⟩
      intro other finds
      cases finds with
      | illegalCharacters illegal => exact absurd identifier illegal
      | tooLong long => exact absurd long (Nat.not_lt.mpr short)
      | reserved => exact Nat.le_refl 2

theorem fault?_eq_some : policy.fault? name = some fault ↔ policy.FindsFirst name fault := by
  constructor
  · exact findsFirst_of_fault?
  · intro first
    cases reported : policy.fault? name with
    | some other => rw [first.unique (findsFirst_of_fault? reported)]
    | none =>
        obtain ⟨identifier, short, free⟩ := fault?_eq_none.mp reported
        cases first.finds with
        | illegalCharacters illegal => exact absurd identifier illegal
        | tooLong long => exact absurd long (Nat.not_lt.mpr short)
        | reserved nonempty starts =>
            rw [reserves_eq_true.mpr ⟨nonempty, starts⟩] at free
            cases free

@[simp] theorem check_eq_ok : policy.check name = .ok () ↔ policy.fault? name = none := by
  rw [check]
  cases policy.fault? name with
  | none => simp
  | some fault => simp

theorem check_eq_error {rejection : Rejection} :
    policy.check name = .error rejection ↔
      ∃ fault, policy.fault? name = some fault ∧ rejection = .invalidName name fault := by
  rw [check]
  cases policy.fault? name with
  | none => simp
  | some fault => simp [eq_comm]

/-! ## Names and policies that go together -/

/-- The second policy allows names at least as long. A stem that it reserves extends the
stem that the first one reserves. -/
structure Looser (policy looser : NamePolicy) : Prop where
  maxLength_le : policy.maxLength ≤ looser.maxLength
  stem : looser.reservedStem = "" ∨
    policy.reservedStem ≠ "" ∧ policy.reservedStem.toList <+: looser.reservedStem.toList

/-- The names that a policy accepts, said without the policy's own test. -/
theorem check_eq_ok_iff :
    policy.check name = .ok () ↔
      IsName name.toList ∧ name.length ≤ policy.maxLength ∧
        (policy.reservedStem ≠ "" → ¬ policy.reservedStem.toList <+: name.toList) := by
  rw [check_eq_ok, fault?_eq_none, Bool.eq_false_iff, Ne, reserves_eq_true, not_and]

/-- The front of an accepted name is accepted. -/
theorem check_of_prefix {front : String} (accepted : policy.check name = .ok ())
    (nonempty : front ≠ "") (starts : front.toList <+: name.toList) :
    policy.check front = .ok () := by
  obtain ⟨identifier, short, free⟩ := check_eq_ok_iff.mp accepted
  have shorter : front.length ≤ name.length := by
    simpa only [String.length_toList] using starts.length_le
  refine check_eq_ok_iff.mpr ⟨?_, Nat.le_trans shorter short, ?_⟩
  · exact identifier.of_prefix (mt String.toList_eq_nil_iff.mp nonempty) starts
  · intro stem reserved
    exact free stem (reserved.trans starts)

/-- A looser policy accepts what a stricter one accepts. -/
theorem Looser.check {looser : NamePolicy} (loose : policy.Looser looser)
    (accepted : policy.check name = .ok ()) : looser.check name = .ok () := by
  obtain ⟨identifier, short, free⟩ := check_eq_ok_iff.mp accepted
  refine check_eq_ok_iff.mpr ⟨identifier, Nat.le_trans short loose.maxLength_le, ?_⟩
  intro stem reserved
  obtain empty | ⟨nonempty, extended⟩ := loose.stem
  · exact stem empty
  · exact free nonempty (extended.trans reserved)

/-- A policy accepts the identifiers that are not too long and do not start with its stem,
unless that is empty, and refuses every other name for the first of the three that it
finds. With a name it accepts all that the name starts with, but for the empty text, and
it accepts no name that a looser policy refuses. -/
theorem check_by_language (policy : NamePolicy) (name : String) :
    (policy.check name = .ok () ↔
        IsName name.toList ∧ name.length ≤ policy.maxLength ∧
          (policy.reservedStem ≠ "" → ¬ policy.reservedStem.toList <+: name.toList)) ∧
      (∀ rejection, policy.check name = .error rejection ↔
        ∃ fault, policy.FindsFirst name fault ∧ rejection = .invalidName name fault) ∧
      (policy.check name = .ok () →
        (∀ front : String, front ≠ "" → front.toList <+: name.toList →
            policy.check front = .ok ()) ∧
          ∀ looser, policy.Looser looser → looser.check name = .ok ()) := by
  refine ⟨check_eq_ok_iff, ?_, ?_⟩
  · intro rejection
    simp only [check_eq_error, fault?_eq_some]
  · intro accepted
    constructor
    · intro front nonempty starts
      exact check_of_prefix accepted nonempty starts
    · intro looser loose
      exact loose.check accepted

/-- The first five characters of a name, a policy that reserves a longer stem, and a name
that is both reserved and too long. -/
theorem check_by_language_visits :
    check { maxLength := 16 } "page_visits" = .ok () ∧
      check { maxLength := 16 } "page_" = .ok () ∧
      check { maxLength := 20, reservedStem := "__doris_shadow_é" } "page_visits" = .ok () ∧
      check { maxLength := 16 } "__doris_shadow_id" =
        .error (.invalidName "__doris_shadow_id" (.tooLong 16)) := by
  have accepted : check { maxLength := 16 } "page_visits" = .ok () := rfl
  have starts : "page_".toList <+: "page_visits".toList := ⟨"visits".toList, rfl⟩
  have extended : "__doris_shadow_".toList <+: "__doris_shadow_é".toList := ⟨['é'], rfl⟩
  have loose : Looser { maxLength := 16 }
      { maxLength := 20, reservedStem := "__doris_shadow_é" } :=
    ⟨by decide, .inr ⟨by decide, extended⟩⟩
  have closed := (check_by_language _ _).2.2 accepted
  refine ⟨accepted, closed.1 "page_" (by decide) starts, closed.2 _ loose, ?_⟩
  refine ((check_by_language _ _).2.1 _).mpr ⟨_, ⟨.tooLong (by decide), ?_⟩, rfl⟩
  intro other finds
  cases finds with
  | illegalCharacters illegal => exact absurd (isIdentifier_eq_true.mp rfl) illegal
  | tooLong => exact Nat.le_refl 1
  | reserved => exact Nat.le_succ 1

end NamePolicy

end ColumnSchema
