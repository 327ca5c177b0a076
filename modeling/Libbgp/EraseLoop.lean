import Mathlib.Data.List.Basic

namespace Libbgp

/-!
# Erasing while iterating

Two loops of the sources walk a `std::vector` with an iterator and erase the
elements a test picks, `BgpUpdateMessage::dropNonTransitive` and
`BgpRib6::discard`:

    for (auto it = v.begin(); it != v.end();) {
        if (test(*it)) { ...; v.erase(it); } else it++;
    }

The iterator is not moved after `erase`: the vector shifts the element that
followed the erased one into its place, where the iterator names it next.
The loop is modelled on the position the iterator stands at, and it erases
exactly the elements the test picks, in order, skipping none; a flag the
body sets at each erase, as `dropNonTransitive` sets `removed`, ends set
exactly when some element was picked.
-/

/-- The loop from position `index` on, folding each element it erases into
`acc`, the work the loop body does besides the `erase`. -/
def eraseEachFrom {α β : Type} (test : α -> Bool) (onErase : β -> α -> β) (index : Nat)
    (acc : β) (v : List α) : β × List α :=
  if inside : index < v.length then
    if test v[index] then eraseEachFrom test onErase index (onErase acc v[index]) (v.eraseIdx index)
    else eraseEachFrom test onErase (index + 1) acc v
  else (acc, v)
termination_by v.length - index
decreasing_by
  all_goals simp_wf
  · simp only [List.length_eraseIdx, inside, if_true]; omega
  · omega

/-- From position `index` on, the loop erases exactly the elements the test
picks, in order: the erase that does not move the iterator skips nothing. -/
theorem eraseEachFrom_eq {α β : Type} (test : α -> Bool) (onErase : β -> α -> β) (index : Nat)
    (acc : β) (v : List α) :
    eraseEachFrom test onErase index acc v =
      (((v.drop index).filter test).foldl onErase acc,
        v.take index ++ (v.drop index).filter (fun a => !test a)) := by
  induction index, acc, v using eraseEachFrom.induct test onErase with
  | case1 index acc v inside erased next =>
      have short : (v.take index).length = index := by simp; omega
      rw [eraseEachFrom, dif_pos inside, if_pos erased, next,
        List.drop_eq_getElem_cons inside, List.eraseIdx_eq_take_drop_succ,
        List.take_append_of_le_length (Nat.le_of_eq short.symm),
        List.drop_append_of_le_length (Nat.le_of_eq short.symm)]
      simp only [List.take_take, min_self, List.drop_eq_nil_of_le (Nat.le_of_eq short),
        List.nil_append, List.filter_cons, erased, if_true, List.foldl_cons]
      simp [erased]
  | case2 index acc v inside kept next =>
      have grow : v.take (index + 1) = v.take index ++ [v[index]] := by
        rw [List.take_succ, List.getElem?_eq_getElem inside]; rfl
      rw [eraseEachFrom, dif_pos inside, if_neg kept, next, List.drop_eq_getElem_cons inside, grow]
      simp only [List.filter_cons, Bool.eq_false_iff.mpr kept, Bool.not_false, if_true,
        Bool.false_eq_true, if_false, List.append_assoc, List.singleton_append]
  | case3 index acc v outside =>
      rw [eraseEachFrom, dif_neg outside]
      simp [List.drop_eq_nil_of_le (Nat.le_of_not_lt outside),
        List.take_of_length_le (Nat.le_of_not_lt outside)]

/-- A flag the loop body sets at each erase ends set exactly when it was set
before or some element from position `index` on passes the test. -/
theorem eraseEachFrom_flag {α : Type} (test : α -> Bool) (index : Nat) (flag : Bool)
    (v : List α) :
    (eraseEachFrom test (fun _ _ => true) index flag v).1 = (flag || (v.drop index).any test) := by
  rw [eraseEachFrom_eq]
  dsimp only
  generalize v.drop index = rest
  induction rest generalizing flag with
  | nil => simp
  | cons a rest ih => by_cases passes : test a <;> simp [List.filter_cons, passes, ih]

end Libbgp
