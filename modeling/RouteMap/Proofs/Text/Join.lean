import RouteMap.Text.Split

/-!
# Joined texts

Texts joined with a separator are those of two lists, one behind the other, with one separator
more (`join_append`), so texts may be joined in groups first (`join_map_join`). The joined text has
the characters of the texts and those of one separator less than there are texts (`length_join`).
-/

namespace RouteMap.Text

variable {sep : String}

theorem join_eq_intercalate (sep : String) (texts : List String) :
    join sep texts = sep.intercalate texts := by
  rw [join, ← String.toList_intercalate, String.ofList_toList]

theorem join_singleton (sep text : String) : join sep [text] = text := by
  rw [join_eq_intercalate, String.intercalate_singleton]

theorem join_append {texts more : List String} (h : texts ≠ []) (hmore : more ≠ []) :
    join sep (texts ++ more) = join sep texts ++ sep ++ join sep more := by
  simp only [join_eq_intercalate]
  exact String.intercalate_append_of_ne_nil h hmore

theorem join_cons {texts : List String} (h : texts ≠ []) (text : String) :
    join sep (text :: texts) = text ++ sep ++ join sep texts := by
  simp only [join_eq_intercalate]
  exact String.intercalate_cons_of_ne_nil h

/-- To join texts in groups is to join them all at once, if no group is empty. -/
theorem join_map_join {groups : List (List String)} (h : ∀ group ∈ groups, group ≠ []) :
    join sep (groups.map (join sep)) = join sep groups.flatten := by
  induction groups with
  | nil => rfl
  | cons group groups ih =>
    obtain ⟨hgroup, hgroups⟩ := List.forall_mem_cons.mp h
    by_cases hlast : groups = []
    · rw [hlast, List.map_singleton, join_singleton, List.flatten_singleton]
    · obtain ⟨next, hnext⟩ := List.exists_mem_of_ne_nil groups hlast
      have hrest : groups.flatten ≠ [] :=
        List.flatten_ne_nil_iff.mpr ⟨next, hnext, hgroups next hnext⟩
      have hmap : groups.map (join sep) ≠ [] := by simpa using hlast
      rw [List.map_cons, List.flatten_cons, join_cons hmap, ih hgroups, join_append hgroup hrest]

theorem length_join (sep : String) (texts : List String) :
    (join sep texts).length =
      (texts.flatMap String.toList).length + (texts.length - 1) * sep.length := by
  induction texts with
  | nil => simp [join_eq_intercalate]
  | cons text texts ih =>
    cases texts with
    | nil => simp [join_singleton, String.length_toList]
    | cons next texts =>
      have hsplit : (text :: next :: texts).flatMap String.toList =
          text.toList ++ (next :: texts).flatMap String.toList := List.flatMap_cons
      rw [join_cons (List.cons_ne_nil _ _), String.length_append, String.length_append, ih, hsplit,
        List.length_append, String.length_toList]
      simp only [List.length_cons, Nat.add_sub_cancel, Nat.succ_mul]
      omega

end RouteMap.Text
