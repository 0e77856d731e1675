import TransactionV1.Budget.Stated

/-! # Instructions that carry a slot

The discriminant at the front of an instruction's data names the slot it sets.
What a slot holds after the scan is decided by the last instruction that carries
its discriminant alone.
-/

namespace TransactionV1

/-- The data starts with the discriminant of the slot. -/
def Carries (slot : Slot) (data : Bytes) : Prop := data.head? = some slot.discriminant

instance (slot : Slot) : DecidablePred (Carries slot) :=
  fun data => inferInstanceAs (Decidable (data.head? = some slot.discriminant))

/-- The number in the operand of the slot, when the operand is long enough. -/
def operand? (slot : Slot) (data : Bytes) : Option ℕ := LittleEndian.read? slot.width data.tail

def lastCarrying? (slot : Slot) (data : List Bytes) : Option Bytes :=
  (data.filter (Carries slot)).getLast?

theorem writeOf_eq_some_iff {slot : Slot} {data : Bytes} {w : Slot × Option ℕ} (h : w.1 = slot) :
    writeOf data = some w ↔ Carries slot data ∧ w = (slot, operand? slot data) := by
  subst h
  cases data with
  | nil => simp [writeOf, Carries]
  | cons d operand =>
    simp only [writeOf, Option.map_eq_some_iff, Slot.ofDiscriminant?_eq_some_iff, Carries,
      List.head?_cons, Option.some.injEq, operand?, List.tail_cons]
    constructor
    · rintro ⟨slot, rfl, rfl⟩
      exact ⟨rfl, rfl⟩
    · rintro ⟨rfl, hw⟩
      exact ⟨w.1, rfl, hw.symm⟩

theorem writeOf_of_carries {slot : Slot} {data : Bytes} (h : Carries slot data) :
    writeOf data = some (slot, operand? slot data) := (writeOf_eq_some_iff rfl).mpr ⟨h, rfl⟩

theorem filter_filterMap_writeOf (slot : Slot) (data : List Bytes) :
    (data.filterMap writeOf).filter (·.1 = slot) =
      (data.filter (Carries slot)).map fun d => (slot, operand? slot d) := by
  induction data with
  | nil => rfl
  | cons d data ih =>
    by_cases hc : Carries slot d
    · rw [List.filterMap_cons_some (writeOf_of_carries hc), List.filter_cons_of_pos (by simp),
        List.filter_cons_of_pos (by simpa using hc), List.map_cons, ih]
    · rw [List.filter_cons_of_neg (by simpa using hc), ← ih]
      cases hw : writeOf d with
      | none => rw [List.filterMap_cons_none hw]
      | some w =>
        have hne : w.1 ≠ slot := fun h => hc ((writeOf_eq_some_iff h).mp hw).1
        rw [List.filterMap_cons_some hw, List.filter_cons_of_neg (by simpa using hne)]

theorem slotsOf_apply (data : List Bytes) (slot : Slot) :
    slotsOf data slot = (lastCarrying? slot data).bind (operand? slot) := by
  rw [slotsOf, LastWrite.run_apply, LastWrite.last?, filter_filterMap_writeOf, List.getLast?_map,
    lastCarrying?]
  cases (data.filter (Carries slot)).getLast? <;> rfl

/-- Data with the same instructions of every slot, in the same order, fills the slots alike. -/
theorem slotsOf_congr {data data' : List Bytes}
    (h : ∀ slot, data.filter (Carries slot) = data'.filter (Carries slot)) :
    slotsOf data = slotsOf data' := by
  apply LastWrite.run_congr
  intro slot
  rw [filter_filterMap_writeOf, filter_filterMap_writeOf, h]

theorem lastCarrying?_append (slot : Slot) (data data' : List Bytes) :
    lastCarrying? slot (data ++ data') =
      (lastCarrying? slot data').or (lastCarrying? slot data) := by
  rw [lastCarrying?, List.filter_append, List.getLast?_append]
  rfl

theorem lastCarrying?_eq_none_iff {slot : Slot} {data : List Bytes} :
    lastCarrying? slot data = none ↔ ∀ d ∈ data, ¬ Carries slot d := by
  simp [lastCarrying?]

theorem carries_of_lastCarrying? {slot : Slot} {data : List Bytes} {d : Bytes}
    (h : lastCarrying? slot data = some d) : d ∈ data ∧ Carries slot d := by
  simpa using List.mem_filter.mp (List.mem_of_getLast? h)

/-- The slot holds what the later data left in it, if that carries the slot at all. -/
theorem slotsOf_append_apply (data data' : List Bytes) (slot : Slot) :
    slotsOf (data ++ data') slot =
      if ∃ d ∈ data', Carries slot d then slotsOf data' slot else slotsOf data slot := by
  rw [slotsOf_apply, lastCarrying?_append, slotsOf_apply, slotsOf_apply]
  cases h : lastCarrying? slot data' with
  | none =>
    have hn := lastCarrying?_eq_none_iff.mp h
    rw [if_neg (by simpa using hn), Option.none_or]
  | some d => rw [if_pos ⟨d, carries_of_lastCarrying? h⟩, Option.some_or]

theorem slotsOf_cons_of_carries {slot : Slot} {d : Bytes} (h : Carries slot d) {data : List Bytes}
    (hn : ∀ d' ∈ data, ¬ Carries slot d') : slotsOf (d :: data) slot = operand? slot d := by
  have hf : data.filter (Carries slot) = [] := by simpa [List.filter_eq_nil_iff] using hn
  rw [slotsOf_apply, lastCarrying?, List.filter_cons_of_pos (by simpa using h), hf]
  rfl

/-- Data between earlier and later data decides what a slot holds when it carries
the slot and no later data does. -/
theorem slotsOf_insert_apply (slot : Slot) (earlier later : List Bytes) (d : Bytes) :
    slotsOf (earlier ++ d :: later) slot =
      if Carries slot d ∧ ∀ d' ∈ later, ¬ Carries slot d' then operand? slot d
      else slotsOf (earlier ++ later) slot := by
  split_ifs with h
  · rw [slotsOf_append_apply, if_pos ⟨d, List.mem_cons_self, h.1⟩, slotsOf_cons_of_carries h.1 h.2]
  · rcases Classical.not_and_iff_not_or_not.mp h with hc | hl
    · rw [slotsOf_apply, slotsOf_apply, lastCarrying?, lastCarrying?, List.filter_append,
        List.filter_append, List.filter_cons_of_neg (by simpa using hc)]
    · have hx : ∃ d' ∈ later, Carries slot d' := by simpa using hl
      rw [List.append_cons, slotsOf_append_apply, if_pos hx, slotsOf_append_apply, if_pos hx]

section Instructions

variable {κ : Type} (computeBudgetId : Address) (message : MessageOf κ)
  (earlier later : List CompiledInstruction) {instruction : CompiledInstruction}

theorem computeBudgetData_of_addressedTo
    (h : AddressedTo computeBudgetId message.accountKeys instruction) :
    computeBudgetData computeBudgetId
        { message with instructions := earlier ++ instruction :: later } =
      computeBudgetData computeBudgetId { message with instructions := earlier } ++
        instruction.data ::
          computeBudgetData computeBudgetId { message with instructions := later } := by
  simp [computeBudgetData, h]

theorem computeBudgetData_of_not_addressedTo
    (h : ¬ AddressedTo computeBudgetId message.accountKeys instruction) :
    computeBudgetData computeBudgetId
        { message with instructions := earlier ++ instruction :: later } =
      computeBudgetData computeBudgetId { message with instructions := earlier } ++
        computeBudgetData computeBudgetId { message with instructions := later } := by
  simp [computeBudgetData, h]

end Instructions

end TransactionV1
