import Mathlib.Data.List.Induction
import SupervisorRpc.Json.Basic

/-! The members of an object.  `Members.ofList` reads members in writing order: a key has the value
that was written for it last. -/

namespace SupervisorRpc

namespace Json

namespace Members

/-- The value that is written last for a key. -/
def last? (written : List (Text × Json)) (key : Text) : Option Json := written.reverse.lookup key

theorem mem_of_last?_eq_some {written : List (Text × Json)} {key : Text} {value : Json}
    (h : last? written key = some value) : (key, value) ∈ written := by
  rw [last?, List.lookup_eq_some_iff] at h
  obtain ⟨before, after, hwritten, -⟩ := h
  rw [← List.mem_reverse, hwritten]
  simp

theorem lookup_replace_self {members : Members} {key : Text} (value : Json)
    (h : members.any (·.1 = key) = true) :
    (members.map fun m => if m.1 = key then (key, value) else m).lookup key = some value := by
  induction members with
  | nil => simp at h
  | cons m members ih =>
    by_cases hm : m.1 = key
    · rw [List.map_cons, if_pos hm, List.lookup_cons_self]
    · have hrest : members.any (·.1 = key) = true := by simpa [hm] using h
      rw [List.map_cons, if_neg hm, List.lookup_cons, beq_false_of_ne (Ne.symm hm)]
      exact ih hrest

theorem lookup_replace_other (members : Members) {key k : Text} (value : Json) (h : k ≠ key) :
    (members.map fun m => if m.1 = key then (key, value) else m).lookup k = members.lookup k := by
  induction members with
  | nil => rfl
  | cons m members ih =>
    rw [List.map_cons, List.lookup_cons, List.lookup_cons, ih]
    by_cases hm : m.1 = key
    · rw [if_pos hm, hm, beq_false_of_ne h]
    · rw [if_neg hm]

/-- Giving a key a value changes the value of that key only. -/
theorem get?_put (members : Members) (key : Text) (value : Json) (k : Text) :
    (members.put key value).get? k = if k = key then some value else members.get? k := by
  rw [put, get?, get?]
  by_cases hknown : members.any (·.1 = key) = true
  · rw [if_pos hknown]
    by_cases hk : k = key
    · rw [if_pos hk, hk, lookup_replace_self value hknown]
    · rw [if_neg hk, lookup_replace_other members value hk]
  · rw [if_neg hknown, List.lookup_append, List.lookup_cons, List.lookup_nil]
    by_cases hk : k = key
    · have hnone : members.lookup k = none := by
        rw [List.lookup_eq_none_iff]
        intro m hm
        simp only [List.any_eq_true, decide_eq_true_eq, not_exists, not_and] at hknown
        exact bne_iff_ne.mpr fun heq => hknown m hm (heq.symm.trans hk)
      simp [hk ▸ hnone, hk]
    · rw [if_neg hk, beq_false_of_ne hk]
      simp

/-- The last value of a key counts. -/
theorem get?_ofList (written : List (Text × Json)) (key : Text) :
    (ofList written).get? key = last? written key := by
  induction written using List.reverseRecOn with
  | nil => rfl
  | append_singleton written m ih =>
    rw [last?] at ih ⊢
    rw [ofList, List.foldl_append, List.foldl_cons, List.foldl_nil, get?_put, List.reverse_append,
      List.reverse_singleton, List.singleton_append, List.lookup_cons, ← ih]
    by_cases hm : key = m.1
    · rw [if_pos hm, hm, beq_self_eq_true]
    · rw [if_neg hm, beq_false_of_ne hm]
      rfl

theorem put_of_notMem {members : Members} {key : Text} (h : key ∉ members.map Prod.fst)
    (value : Json) : members.put key value = members ++ [(key, value)] := by
  have : members.any (·.1 = key) = false := by
    rw [List.any_eq_false]
    intro m hm heq
    exact h (List.mem_map.mpr ⟨m, hm, by simpa using heq⟩)
  rw [put, this]
  rfl

/-- Members with distinct keys are the members that they stand for. -/
theorem ofList_of_nodup {written : List (Text × Json)}
    (h : (written.map Prod.fst).Nodup) : ofList written = written := by
  -- Each member goes behind those before it, since none of them has its key.
  have grow : ∀ (rest before : List (Text × Json)), ((before ++ rest).map Prod.fst).Nodup →
      rest.foldl (fun members m => put members m.1 m.2) before = before ++ rest := by
    intro rest
    induction rest with
    | nil => simp
    | cons m rest ih =>
      intro before hnodup
      have hm : m.1 ∉ before.map Prod.fst := by
        simp only [List.map_append, List.map_cons, List.nodup_append] at hnodup
        exact fun hmem => hnodup.2.2 _ hmem _ (by simp) rfl
      rw [List.foldl_cons, put_of_notMem hm, ih _ (by simpa using hnodup)]
      simp
  simpa [ofList] using grow written [] (by simpa using h)

theorem mem_of_mem_put {members : Members} {key : Text} {value : Json} {m : Text × Json}
    (h : m ∈ members.put key value) : m = (key, value) ∨ m ∈ members := by
  rw [put] at h
  split at h
  · obtain ⟨n, hn, rfl⟩ := List.mem_map.mp h
    split
    · exact .inl rfl
    · exact .inr hn
  · rw [List.mem_append, List.mem_singleton] at h
    exact h.symm

/-- Only what was written stands in an object. -/
theorem mem_of_mem_ofList {written : List (Text × Json)} {m : Text × Json} (h : m ∈ ofList written) :
    m ∈ written := by
  induction written using List.reverseRecOn with
  | nil => cases h
  | append_singleton written n ih =>
    rw [ofList, List.foldl_append, List.foldl_cons, List.foldl_nil] at h
    rcases mem_of_mem_put h with rfl | h
    · exact List.mem_append_right _ (List.mem_singleton.mpr rfl)
    · exact List.mem_append_left _ (ih h)

/-- A known key keeps its place, and a new one comes last. -/
theorem keys_put (members : Members) (key : Text) (value : Json) :
    (members.put key value).map Prod.fst =
      if key ∈ members.map Prod.fst then members.map Prod.fst else members.map Prod.fst ++ [key] := by
  by_cases hknown : key ∈ members.map Prod.fst
  · have hany : members.any (·.1 = key) = true := by simpa using hknown
    rw [if_pos hknown, put, if_pos hany, List.map_map]
    apply List.map_congr_left
    intro m _
    rw [Function.comp_apply]
    split
    · next hm => exact hm.symm
    · rfl
  · rw [if_neg hknown, put_of_notMem hknown, List.map_append]
    rfl

/-- No key stands in an object twice. -/
theorem nodup_ofList (written : List (Text × Json)) : ((ofList written).map Prod.fst).Nodup := by
  induction written using List.reverseRecOn with
  | nil => exact List.nodup_nil
  | append_singleton written n ih =>
    have hput : ofList (written ++ [n]) = (ofList written).put n.1 n.2 := by
      rw [ofList, List.foldl_append]
      rfl
    rw [hput, keys_put]
    split
    · exact ih
    · next hnew =>
      rw [List.nodup_append]
      refine ⟨ih, List.pairwise_singleton _ _, ?_⟩
      intro k hk l hl heq
      exact hnew (List.mem_singleton.mp hl ▸ heq ▸ hk)

end Members

end Json

end SupervisorRpc
