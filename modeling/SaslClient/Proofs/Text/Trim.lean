import Mathlib.Data.List.TakeWhile
import SaslClient.Text.Blank

/-!
# First lines and trimmed texts

What the first line of a text is and what is left of it without the blanks at its ends, said without
the functions that compute them.

Main results:

* `firstLine_iff`: the first line is what stands in front of the first line feed.
* `trims_iff`: a text is trimmed to exactly one text.
* `trimChars_eq_nil_iff`: nothing is left exactly of blanks.
-/

namespace SaslClient.Text

/-! ## First lines -/

/-- The text ends with its first line or goes on behind a line feed. -/
structure FirstLine (text line : List Char) : Prop where
  unbroken : '\n' ∉ line
  begins : text = line ∨ ∃ rest, text = line ++ '\n' :: rest

theorem firstLine_iff {text line : List Char} :
    FirstLine text line ↔ text.takeWhile (· != '\n') = line := by
  have hinside {cs : List Char} (h : '\n' ∉ cs) : ∀ c ∈ cs, (c != '\n') = true := by
    intro c hc
    rw [bne_iff_ne]
    rintro rfl
    exact h hc
  constructor
  · rintro ⟨hunbroken, rfl | ⟨rest, rfl⟩⟩
    · exact List.takeWhile_eq_self_iff.mpr (hinside hunbroken)
    · rw [List.takeWhile_append_of_pos (hinside hunbroken)]
      simp
  · rintro rfl
    refine ⟨?_, ?_⟩
    · intro h
      simpa using List.mem_takeWhile_imp h
    · have hsplit := List.takeWhile_append_dropWhile (p := (· != '\n')) (l := text)
      cases hrest : text.dropWhile (· != '\n') with
      | nil =>
        rw [hrest, List.append_nil] at hsplit
        exact .inl hsplit.symm
      | cons c rest =>
        -- what follows begins with the sign that stopped the line
        have hstop := List.head?_dropWhile_not (· != '\n') text
        rw [hrest] at hstop
        obtain rfl : c = '\n' := by simpa using hstop
        rw [hrest] at hsplit
        exact .inr ⟨rest, hsplit.symm⟩

/-! ## Trimmed texts -/

/-- The text consists of what is left and of blanks around it, and what is left neither begins nor
ends with one. -/
structure Trims (text left : List Char) : Prop where
  around : ∃ before after, text = before ++ left ++ after ∧
    (∀ c ∈ before, isBlank c = true) ∧ ∀ c ∈ after, isBlank c = true
  front : ∀ c, left.head? = some c → isBlank c = false
  back : ∀ c, left.getLast? = some c → isBlank c = false

theorem dropBlanks_append {before cs : List Char} (h : ∀ c ∈ before, isBlank c = true) :
    dropBlanks (before ++ cs) = dropBlanks cs :=
  List.dropWhile_append_of_pos h

theorem dropBlanks_of_front {cs : List Char} (h : ∀ c, cs.head? = some c → isBlank c = false) :
    dropBlanks cs = cs := by
  cases cs with
  | nil => rfl
  | cons c cs => exact List.dropWhile_cons_of_neg (by simp [h c rfl])

/-- Dropping blanks takes a text apart. -/
theorem exists_dropBlanks (cs : List Char) :
    (∃ before, cs = before ++ dropBlanks cs ∧ ∀ c ∈ before, isBlank c = true) ∧
      ∀ c, (dropBlanks cs).head? = some c → isBlank c = false := by
  refine ⟨⟨cs.takeWhile isBlank, List.takeWhile_append_dropWhile.symm, ?_⟩, ?_⟩
  · intro c hc
    exact List.mem_takeWhile_imp hc
  · intro c hc
    have hhead := List.head?_dropWhile_not isBlank cs
    unfold dropBlanks at hc
    rw [hc] at hhead
    simpa using hhead

theorem trims_trimChars (text : List Char) : Trims text (trimChars text) := by
  obtain ⟨⟨before, hbefore, hblank⟩, hfront⟩ := exists_dropBlanks text
  obtain ⟨⟨after, hafter, hblank'⟩, hback⟩ := exists_dropBlanks (dropBlanks text).reverse
  have hleft : dropBlanks text = trimChars text ++ after.reverse := by
    rw [trimChars, ← List.reverse_append, ← hafter, List.reverse_reverse]
  refine ⟨⟨before, after.reverse, ?_, hblank, ?_⟩, ?_, ?_⟩
  · rw [List.append_assoc, ← hleft]
    exact hbefore
  · intro c hc
    exact hblank' c (List.mem_reverse.mp hc)
  · intro c hc
    refine hfront c ?_
    rw [hleft, List.head?_append, hc]
    rfl
  · intro c hc
    rw [trimChars, List.getLast?_reverse] at hc
    exact hback c hc

/-- There is only one way to trim a text. -/
theorem trims_iff {text left : List Char} : Trims text left ↔ trimChars text = left := by
  constructor
  · rintro ⟨⟨before, after, rfl, hbefore, hafter⟩, hfront, hback⟩
    have hafter' : ∀ c ∈ after.reverse, isBlank c = true :=
      fun c hc => hafter c (List.mem_reverse.mp hc)
    have hback' : ∀ c, left.reverse.head? = some c → isBlank c = false := by
      intro c hc
      exact hback c (by rwa [List.head?_reverse] at hc)
    rw [trimChars, List.append_assoc, dropBlanks_append hbefore]
    cases left with
    | nil =>
      have hnone : dropBlanks after = [] := by
        rw [← List.append_nil after, dropBlanks_append hafter]
        rfl
      rw [List.nil_append, hnone]
      rfl
    | cons c left =>
      have hstays : dropBlanks (c :: left ++ after) = c :: left ++ after :=
        dropBlanks_of_front fun d hd => hfront d hd
      rw [hstays, List.reverse_append, dropBlanks_append hafter', dropBlanks_of_front hback',
        List.reverse_reverse]
  · rintro rfl
    exact trims_trimChars text

/-- Nothing is left exactly of blanks. -/
theorem trimChars_eq_nil_iff {text : List Char} :
    trimChars text = [] ↔ ∀ c ∈ text, isBlank c = true := by
  rw [← trims_iff]
  constructor
  · rintro ⟨⟨before, after, rfl, hbefore, hafter⟩, -, -⟩ c hc
    rw [List.append_nil] at hc
    rcases List.mem_append.mp hc with h | h
    · exact hbefore c h
    · exact hafter c h
  · intro h
    exact ⟨⟨text, [], by simp, h, by simp⟩, by simp, by simp⟩

/-- What is left is a part of the text. -/
theorem Trims.mem {text left : List Char} (h : Trims text left) {c : Char} (hc : c ∈ left) :
    c ∈ text := by
  obtain ⟨⟨before, after, rfl, -, -⟩, -, -⟩ := h
  simp [hc]

end SaslClient.Text
