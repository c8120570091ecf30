import SaslClient.Text.Blank

/-!
# Normalized texts

What is left of the blanks of a text when it is normalized: single spaces. A text without blanks is
left as it is.
-/

namespace SaslClient.Text

theorem dropBlanks_of_forall {cs : List Char} (h : ∀ c ∈ cs, isBlank c = false) :
    dropBlanks cs = cs := by
  cases cs with
  | nil => rfl
  | cons c cs => exact List.dropWhile_cons_of_neg (by simp [h c List.mem_cons_self])

theorem trimChars_of_forall {cs : List Char} (h : ∀ c ∈ cs, isBlank c = false) :
    trimChars cs = cs := by
  have hreverse : ∀ c ∈ cs.reverse, isBlank c = false := fun c hc => h c (List.mem_reverse.mp hc)
  rw [trimChars, dropBlanks_of_forall h, dropBlanks_of_forall hreverse, List.reverse_reverse]

theorem collapse_of_forall {cs : List Char} (h : ∀ c ∈ cs, isBlank c = false) (afterBlank : Bool) :
    collapse afterBlank cs = cs := by
  induction cs generalizing afterBlank with
  | nil => rfl
  | cons c cs ih =>
    obtain ⟨hc, hcs⟩ := List.forall_mem_cons.mp h
    rw [collapse, hc, if_neg Bool.false_ne_true, ih hcs]

/-- The only blank that is left is the space. -/
theorem isBlank_of_mem_collapse {cs : List Char} {afterBlank : Bool} {c : Char}
    (h : c ∈ collapse afterBlank cs) : c = ' ' ∨ isBlank c = false := by
  fun_induction collapse afterBlank cs with
  | case1 => cases h
  | case2 c' cs hblank ih => exact ih h
  | case3 _ c' cs hblank hafter ih =>
    rcases List.mem_cons.mp h with rfl | h
    · exact .inl rfl
    · exact ih h
  | case4 _ c' cs hblank ih =>
    rcases List.mem_cons.mp h with rfl | h
    · exact .inr (Bool.not_eq_true _ ▸ hblank)
    · exact ih h

/-- A text without blanks is normalized. -/
theorem normalize_of_forall {s : String} (h : ∀ c ∈ s.toList, isBlank c = false) :
    normalize s = s := by
  rw [normalize, trimChars_of_forall h, collapse_of_forall h, String.ofList_toList]

/-- A normalized text holds no line break. -/
theorem newline_notMem_normalize (s : String) : '\n' ∉ (normalize s).toList := by
  intro h
  rw [normalize, String.toList_ofList] at h
  have hblank : isBlank '\n' = true := by decide
  rcases isBlank_of_mem_collapse h with h | h
  · exact absurd h (by decide)
  · rw [hblank] at h
    cases h

end SaslClient.Text
