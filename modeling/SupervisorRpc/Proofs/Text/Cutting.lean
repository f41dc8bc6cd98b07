import SupervisorRpc.Text.Basic

/-! Cutting text at the first or at the last occurrence of a code point: either there is none and the
text stays whole, or it is the two sides with the code point between them.  Cutting at every occurrence
gives pieces without the code point, and joined pieces are cut into the same pieces again. -/

namespace SupervisorRpc

namespace Text

variable {c d : CodePoint} {t : Text}

theorem cut_cases (c : CodePoint) (t : Text) :
    c ∉ t ∧ cut c t = (t, none) ∨
      ∃ before after, c ∉ before ∧ t = before ++ c :: after ∧ cut c t = (before, some after) := by
  by_cases h : c ∈ t
  · obtain ⟨before, after, ht, hbefore⟩ := List.eq_append_cons_of_mem h
    exact .inr ⟨before, after, hbefore, ht, ht ▸ cut_append hbefore after⟩
  · exact .inl ⟨h, cut_of_notMem h⟩

theorem notMem_cut (c : CodePoint) (t : Text) : c ∉ (cut c t).1 := by
  rcases cut_cases c t with ⟨h, hcut⟩ | ⟨before, after, h, -, hcut⟩ <;> rwa [hcut]

theorem mem_of_mem_cut (h : d ∈ (cut c t).1) : d ∈ t := (List.takeWhile_prefix _).subset h

theorem cutLast_cases (c : CodePoint) (t : Text) :
    c ∉ t ∧ cutLast c t = (none, t) ∨
      ∃ before after, c ∉ after ∧ t = before ++ c :: after ∧
        cutLast c t = (some before, after) := by
  by_cases h : c ∈ t
  · obtain ⟨after, before, ht, hafter⟩ := List.eq_append_cons_of_mem (List.mem_reverse.mpr h)
    have ht' : t = before.reverse ++ c :: after.reverse := by
      simpa using congrArg List.reverse ht
    have hafter' : c ∉ after.reverse := by simpa using hafter
    exact .inr ⟨before.reverse, after.reverse, hafter', ht', ht' ▸ cutLast_append _ hafter'⟩
  · exact .inl ⟨h, cutLast_of_notMem h⟩

theorem notMem_cutLast (c : CodePoint) (t : Text) : c ∉ (cutLast c t).2 := by
  rcases cutLast_cases c t with ⟨h, hcut⟩ | ⟨before, after, h, -, hcut⟩ <;> rwa [hcut]

theorem mem_of_mem_cutLast (h : d ∈ (cutLast c t).2) : d ∈ t := by
  rcases cutLast_cases c t with ⟨-, hcut⟩ | ⟨before, after, -, ht, hcut⟩
  · rwa [hcut] at h
  · rw [hcut] at h
    rw [ht]
    exact List.mem_append_right _ (List.mem_cons_of_mem _ h)

/-! ### Segments -/

theorem segments_eq_splitOn (c : CodePoint) (t : Text) : segments c t = t.splitOn c := by
  rw [List.splitOn_eq_splitOnP]
  induction t with
  | nil => rfl
  | cons d t ih =>
    rw [segments, List.splitOnP_cons_eq_if_modifyHead, ← ih]
    by_cases hd : d = c
    · rw [if_pos hd, if_pos (beq_iff_eq.mpr hd)]
    · rw [if_neg hd, if_neg (by simpa using hd)]
      obtain ⟨first, others, hsegments⟩ := List.exists_cons_of_ne_nil (segments_ne_nil c t)
      rw [hsegments]
      rfl

theorem segments_append (c : CodePoint) (t u : Text) :
    segments c (t ++ c :: u) = segments c t ++ segments c u := by
  simp only [segments_eq_splitOn, List.splitOn_eq_splitOnP]
  exact List.splitOnP_append_cons t u (beq_self_eq_true c)

theorem segments_of_notMem (h : c ∉ t) : segments c t = [t] := by
  rw [segments_eq_splitOn, List.splitOn_eq_singleton h]

theorem segments_join {pieces : List Text} (hne : pieces ≠ []) (h : ∀ piece ∈ pieces, c ∉ piece) :
    segments c (join [c] pieces) = pieces := by
  rw [segments_eq_splitOn]
  exact List.splitOn_intercalate c h hne

theorem notMem_of_mem_segments {piece : Text} (h : piece ∈ segments c t) : c ∉ piece := by
  induction t generalizing piece with
  | nil => simp_all [segments]
  | cons d t ih =>
    obtain ⟨first, others, hsegments⟩ := List.exists_cons_of_ne_nil (segments_ne_nil c t)
    rw [segments] at h
    rw [hsegments] at h ih
    split at h
    · rcases List.mem_cons.mp h with rfl | h
      · exact List.not_mem_nil
      · exact ih h
    next hd =>
      rcases List.mem_cons.mp h with rfl | h
      · have hfirst := ih List.mem_cons_self
        simpa [Ne.symm hd] using hfirst
      · exact ih (List.mem_cons_of_mem _ h)

theorem join_cons (c : CodePoint) (piece : Text) (pieces : List Text) :
    join [c] (piece :: pieces) = piece ++ pieces.flatMap (c :: ·) := by
  induction pieces generalizing piece with
  | nil => simp [join, List.intercalate]
  | cons next pieces ih =>
    have hnext := ih next
    simp only [join, List.intercalate, List.intersperse] at hnext ⊢
    simp [hnext]

end Text

end SupervisorRpc
