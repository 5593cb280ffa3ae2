import TrackTimer.Geofence.Recent

/-! # The last fixes of a pass, in order

Which slot is written is forgotten here: `sample_push_zero` and `sample_push_succ` say how the fixes
move up when one more is written. From these it follows that the slots keep the last three of all
fixes written (`Keeps.push`), so nothing else opens the slots.
-/

namespace TrackTimer

theorem TimedPoint.not_isValid_unset : unset.isValid = false := by decide +kernel

namespace Recent

theorem sample_empty (index : Nat) : empty.sample index = .unset := by
  simp [empty, sample, Vector.get]

theorem sample_push_zero (r : Recent) (fix : TimedPoint) : (r.push fix).sample 0 = fix := by
  have slot : ∀ head : Fin 3, head - 1 + Fin.ofNat 3 0 = head - 1 := by decide
  simp only [sample, push, slot]
  exact Vector.getElem_set_self _

theorem sample_push_succ (r : Recent) (fix : TimedPoint) {index : Nat} (bound : index + 1 < 3) :
    (r.push fix).sample (index + 1) = r.sample index := by
  have slots : ∀ head : Fin 3, head - 1 + Fin.ofNat 3 (index + 1) = head + Fin.ofNat 3 index ∧
      (head - 1).val ≠ (head + Fin.ofNat 3 index).val := by
    obtain rfl | rfl : index = 0 ∨ index = 1 := by omega
    all_goals decide
  -- The slot that is written is the third one, which no smaller index reads any more.
  obtain ⟨slot, other⟩ := slots r.head
  simp only [sample, push, slot]
  exact Vector.getElem_set_ne _ _ other

theorem isFull_iff (r : Recent) :
    r.isFull = true ↔ ∀ index < 3, (r.sample index).isValid = true := by
  rw [isFull, Vector.all_eq_true]
  constructor
  · intro full index _
    exact full _ (r.head + Fin.ofNat 3 index).isLt
  · intro full slot bound
    -- Every slot is read at the index that is its distance from the head.
    have reached : ∀ head slot : Fin 3, head + Fin.ofNat 3 (slot - head).val = slot := by decide
    have valid := full (⟨slot, bound⟩ - r.head : Fin 3).val (Fin.isLt _)
    rwa [sample, reached] at valid

/-- The slots keep the last three of these fixes, and nothing where there are fewer. -/
def Keeps (r : Recent) (fixes : List TimedPoint) : Prop :=
  ∀ index < 3, r.sample index = fixes.reverse.getD index .unset

theorem keeps_empty : empty.Keeps [] := fun index _ => sample_empty index

theorem Keeps.push {r : Recent} {fixes : List TimedPoint} (keeps : r.Keeps fixes)
    (fix : TimedPoint) : (r.push fix).Keeps (fixes ++ [fix]) := by
  intro index bound
  rw [List.reverse_append, List.reverse_singleton, List.singleton_append]
  cases index with
  | zero => exact sample_push_zero r fix
  | succ index =>
    rw [sample_push_succ r fix bound, keeps index (Nat.lt_of_succ_lt bound)]
    rfl

theorem Keeps.last_three {r : Recent} {earlier : List TimedPoint}
    {oldest middle newest : TimedPoint} (keeps : r.Keeps (earlier ++ [oldest, middle, newest])) :
    r.sample 0 = newest ∧ r.sample 1 = middle ∧ r.sample 2 = oldest := by
  refine ⟨?_, ?_, ?_⟩
  · simpa using keeps 0 (by omega)
  · simpa using keeps 1 (by omega)
  · simpa using keeps 2 (by omega)

theorem Keeps.unwritten {r : Recent} {fixes : List TimedPoint} (keeps : r.Keeps fixes)
    (short : fixes.length < 3) : r.sample 2 = .unset := by
  have beyond : fixes.reverse.length ≤ 2 := by
    rw [List.length_reverse]
    omega
  rw [keeps 2 (by omega), List.getD_eq_getElem?_getD, List.getElem?_eq_none beyond]
  rfl

end Recent

end TrackTimer
