import Mathlib.Data.List.Basic

/-!
# Joined texts

Texts joined by a separator of one character can be told apart again if no part holds the separator.
The same goes for a comma with a space behind it, which cannot overlap itself.

Main results:

* `intercalate_nested`: joining what was joined by the same separator is joining the parts.
* `eq_of_intercalate`: the parts are determined by the joined text.
* `commaParts_append`: a comma and a space put between two texts separate their parts.
-/

namespace SaslClient.Text

/-- Joining joined texts is joining their parts. -/
theorem intercalate_nested (sep : String) (front : List String) {inner : List String}
    (back : List String) (h : inner ≠ []) :
    sep.intercalate (front ++ sep.intercalate inner :: back) =
      sep.intercalate (front ++ (inner ++ back)) := by
  induction front with
  | nil =>
    cases back with
    | nil => simp
    | cons b back =>
      rw [List.nil_append, List.nil_append,
        String.intercalate_append_of_ne_nil h (List.cons_ne_nil b back),
        String.intercalate_cons_of_ne_nil (List.cons_ne_nil b back)]
  | cons f front ih =>
    have hne : front ++ (inner ++ back) ≠ [] := by simp [h]
    have hne' : front ++ sep.intercalate inner :: back ≠ [] := by simp
    rw [List.cons_append, List.cons_append, String.intercalate_cons_of_ne_nil hne,
      String.intercalate_cons_of_ne_nil hne', ih]

/-- The parts of a text are those between the separators, if no part holds one. -/
theorem splitOn_intercalate {sep : String} {c : Char} (hsep : sep.toList = [c])
    {parts : List String} (hne : parts ≠ []) (hparts : ∀ p ∈ parts, c ∉ p.toList) :
    (sep.intercalate parts).toList.splitOn c = parts.map String.toList := by
  have hmap : ∀ cs ∈ parts.map String.toList, c ∉ cs := by
    rw [List.forall_mem_map]
    exact hparts
  rw [String.toList_intercalate, hsep]
  exact List.splitOn_intercalate c hmap (by simpa using hne)

theorem eq_of_intercalate {sep : String} {c : Char} (hsep : sep.toList = [c])
    {parts parts' : List String} (hne : parts ≠ []) (hne' : parts' ≠ [])
    (hparts : ∀ p ∈ parts, c ∉ p.toList) (hparts' : ∀ p ∈ parts', c ∉ p.toList)
    (h : sep.intercalate parts = sep.intercalate parts') : parts = parts' := by
  have hmap : parts.map String.toList = parts'.map String.toList := by
    rw [← splitOn_intercalate hsep hne hparts, h, splitOn_intercalate hsep hne' hparts']
  exact List.map_injective_iff.mpr @String.toList_injective hmap

/-- A joined text holds the characters of its parts and of the separator only. -/
theorem notMem_intercalate {c : Char} {sep : List Char} {ls : List (List Char)} (hsep : c ∉ sep)
    (h : ∀ l ∈ ls, c ∉ l) : c ∉ sep.intercalate ls := by
  induction ls with
  | nil => exact List.not_mem_nil
  | cons l ls ih =>
    obtain ⟨hl, hls⟩ := List.forall_mem_cons.mp h
    cases ls with
    | nil => simpa using hl
    | cons l' ls =>
      rw [List.intercalate_cons_cons, List.mem_append, List.mem_append]
      exact not_or.mpr ⟨not_or.mpr ⟨hl, hsep⟩, ih hls⟩

/-- No part of a split text holds the separator. -/
theorem notMem_of_mem_splitOn {c : Char} {cs part : List Char} (h : part ∈ cs.splitOn c) :
    c ∉ part := by
  induction cs generalizing part with
  | nil =>
    rw [List.splitOn_nil, List.mem_singleton] at h
    simp [h]
  | cons x xs ih =>
    obtain ⟨p, ps, hsplit⟩ := List.exists_cons_of_ne_nil (List.splitOn_ne_nil c xs)
    rw [List.splitOn_cons_eq_if_modifyHead] at h
    split at h
    · rcases List.mem_cons.mp h with rfl | hlater
      · exact List.not_mem_nil
      · exact ih hlater
    next hx =>
      rw [hsplit, List.modifyHead_cons, List.mem_cons] at h
      rcases h with rfl | hlater
      · have hp : c ∉ p := ih (by simp [hsplit])
        have hne : c ≠ x := by
          rintro rfl
          simp at hx
        simp [hne, hp]
      · exact ih (by simp [hsplit, hlater])

theorem length_splitOn_eq_one_iff {c : Char} {cs : List Char} :
    (cs.splitOn c).length = 1 ↔ c ∉ cs := by
  constructor
  · intro hlength hmem
    obtain ⟨front, back, rfl⟩ := List.append_of_mem hmem
    have hfront := List.length_pos_of_ne_nil (List.splitOn_ne_nil c front)
    have hback := List.length_pos_of_ne_nil (List.splitOn_ne_nil c back)
    rw [List.splitOn_append_cons_self, List.length_append] at hlength
    omega
  · intro h
    rw [List.splitOn_eq_singleton h, List.length_singleton]

/-! ## Parts between commas with a space behind them -/

/-- The parts of a text between its commas that a space follows. -/
def commaParts : List Char → List (List Char)
  | [] => [[]]
  | ',' :: ' ' :: cs => [] :: commaParts cs
  | c :: cs => (commaParts cs).modifyHead (c :: ·)

theorem commaParts_ne_nil (cs : List Char) : commaParts cs ≠ [] := by
  fun_induction commaParts cs with
  | case1 => exact List.cons_ne_nil _ _
  | case2 cs ih => exact List.cons_ne_nil _ _
  | case3 c cs hother ih => simpa using ih

/-- A comma and a space between two texts separate their parts. -/
theorem commaParts_append (xs ys : List Char) :
    commaParts (xs ++ ',' :: ' ' :: ys) = commaParts xs ++ commaParts ys := by
  fun_induction commaParts xs with
  | case1 => rw [List.nil_append, commaParts, List.singleton_append]
  | case2 cs ih => rw [List.cons_append, List.cons_append, commaParts, ih, List.cons_append]
  | case3 c cs hother ih =>
    -- a comma at the end of the first text is not followed by a space but by the next comma
    have hother' : ∀ cs', c = ',' → cs ++ ',' :: ' ' :: ys = ' ' :: cs' → False := by
      intro cs' hc hcs
      cases cs with
      | nil => simp at hcs
      | cons c' cs =>
        obtain ⟨rfl, -⟩ := List.cons.inj hcs
        exact hother cs hc rfl
    obtain ⟨p, ps, hps⟩ := List.exists_cons_of_ne_nil (commaParts_ne_nil cs)
    rw [List.cons_append, commaParts.eq_3 _ _ hother', ih, hps, List.cons_append,
      List.modifyHead_cons, List.modifyHead_cons, List.cons_append]

/-- A text without a comma that a space follows is one part. -/
theorem commaParts_eq_singleton {cs : List Char} (h : ¬ [',', ' '] <:+: cs) :
    commaParts cs = [cs] := by
  fun_induction commaParts cs with
  | case1 => rfl
  | case2 cs ih => exact absurd ⟨[], cs, rfl⟩ h
  | case3 c cs hother ih => rw [ih fun hcs => h (List.infix_cons hcs), List.modifyHead_cons]

theorem commaParts_of_notMem {cs : List Char} (h : ',' ∉ cs) : commaParts cs = [cs] :=
  commaParts_eq_singleton fun hsub => h (hsub.subset List.mem_cons_self)

theorem length_commaParts_eq_one_iff {cs : List Char} :
    (commaParts cs).length = 1 ↔ ¬ [',', ' '] <:+: cs := by
  constructor
  · rintro hlength ⟨front, back, hcs⟩
    have hfront := List.length_pos_of_ne_nil (commaParts_ne_nil front)
    have hback := List.length_pos_of_ne_nil (commaParts_ne_nil back)
    have hparts : commaParts cs = commaParts front ++ commaParts back := by
      rw [← hcs, List.append_assoc]
      exact commaParts_append front back
    rw [hparts, List.length_append] at hlength
    omega
  · intro h
    rw [commaParts_eq_singleton h, List.length_singleton]

/-- Text without commas in front brings no comma that a space follows. -/
theorem comma_infix_append_left {xs ys : List Char} (h : ',' ∉ xs) :
    [',', ' '] <:+: xs ++ ys ↔ [',', ' '] <:+: ys := by
  constructor
  · intro hsub
    rcases List.infix_append_iff.mp hsub with hxs | hys | ⟨front, back, hsplit, hxs, hys⟩
    · exact absurd (hxs.subset List.mem_cons_self) h
    · exact hys
    · cases front with
      | nil =>
        rw [hsplit]
        exact hys.isInfix
      | cons c front =>
        obtain ⟨rfl, -⟩ := List.cons.inj hsplit
        exact absurd (hxs.subset List.mem_cons_self) h
  · exact fun hys => List.infix_append_iff.mpr (.inr (.inl hys))

/-- Nor does text without commas behind, if it begins with another character than a space. -/
theorem comma_infix_append_right {xs ys : List Char} {c : Char} (hc : c ≠ ' ')
    (h : ',' ∉ c :: ys) : [',', ' '] <:+: xs ++ c :: ys ↔ [',', ' '] <:+: xs := by
  constructor
  · rintro ⟨front, back, hsplit⟩
    rw [List.append_assoc] at hsplit
    rcases List.append_eq_append_iff.mp hsplit with ⟨middle, hxs, hrest⟩ | ⟨middle, -, hrest⟩
    · -- the comma stands in `xs`, and the space does not begin the text behind
      match middle with
      | [] =>
        have hmem : ',' ∈ [] ++ c :: ys := hrest ▸ List.mem_cons_self
        exact absurd hmem h
      | [_] => exact absurd (List.cons.inj (List.cons.inj hrest).2).1.symm hc
      | comma :: space :: middle =>
        obtain ⟨hcomma, htail⟩ := List.cons.inj hrest
        obtain ⟨hspace, -⟩ := List.cons.inj htail
        exact ⟨front, middle, by simp [hxs, ← hcomma, ← hspace]⟩
    · have hmem : ',' ∈ c :: ys := hrest ▸ List.mem_append_right _ List.mem_cons_self
      exact absurd hmem h
  · exact fun hxs => List.infix_append_iff.mpr (.inl hxs)

end SaslClient.Text
