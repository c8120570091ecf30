import Mathlib.Data.List.Basic
import SaslClient.Proofs.Text.Normalize
import SaslClient.Proofs.Text.Trim

/-!
# Words

The words of a text are its longest stretches without a blank. Normalizing a text keeps its words
and puts a single space between any two of them, so a normalized text stands for the words alone.

Trimming takes blanks away at either end, where they belong to no word. On what is left, the loop
that collapses runs of blanks goes through the words one by one; that the text ends in a word is
what keeps it from putting a space behind the last of them.

Main results:

* `hasWords_iff`: a text has exactly one list of words.
* `collapse_of_hasWords`: a trimmed text is collapsed to its words with single spaces between.
* `normalize_joins_words`: what is left of a text is its words.
-/

namespace SaslClient.Text

/-! ## The words of a text -/

/-- What stands between the blanks of a text. -/
def words (text : List Char) : List (List Char) :=
  (text.splitOnP isBlank).filter (· ≠ [])

/-- Some characters, none of them blank. -/
structure IsWord (word : List Char) : Prop where
  ne_nil : word ≠ []
  unbroken : ∀ c ∈ word, isBlank c = false

/-- The text consists of these words, in this order, and of blanks. No word is followed by another
one without a blank between them, so that none of them can be longer. -/
inductive HasWords : List Char → List (List Char) → Prop
  | blanks {gap : List Char} (hgap : ∀ c ∈ gap, isBlank c = true) : HasWords gap []
  | word {gap word rest : List Char} {later : List (List Char)}
      (hgap : ∀ c ∈ gap, isBlank c = true) (hword : IsWord word)
      (hends : ∀ c, rest.head? = some c → isBlank c = true) (hrest : HasWords rest later) :
      HasWords (gap ++ word ++ rest) (word :: later)

theorem words_append_blank {c : Char} (hc : isBlank c = true) (front back : List Char) :
    words (front ++ c :: back) = words front ++ words back := by
  rw [words, List.splitOnP_append_cons front back hc, List.filter_append]
  rfl

theorem words_nil : words [] = [] := by
  rw [words, List.splitOnP_nil]
  rfl

theorem words_cons_blank {c : Char} (hc : isBlank c = true) (text : List Char) :
    words (c :: text) = words text := by
  have h := words_append_blank hc [] text
  rwa [words_nil] at h

/-- Blanks in front of a text belong to no word. -/
theorem words_blanks_append {gap : List Char} (hgap : ∀ c ∈ gap, isBlank c = true)
    (text : List Char) : words (gap ++ text) = words text := by
  induction gap with
  | nil => rfl
  | cons c gap ih =>
    obtain ⟨hc, hgap⟩ := List.forall_mem_cons.mp hgap
    rw [List.cons_append, words_cons_blank hc, ih hgap]

theorem words_of_blanks {gap : List Char} (hgap : ∀ c ∈ gap, isBlank c = true) :
    words gap = [] := by
  have h := words_blanks_append hgap []
  rwa [List.append_nil, words_nil] at h

/-- Nor do blanks behind it. -/
theorem words_append_blanks (text : List Char) {gap : List Char}
    (hgap : ∀ c ∈ gap, isBlank c = true) : words (text ++ gap) = words text := by
  cases gap with
  | nil => rw [List.append_nil]
  | cons c gap =>
    obtain ⟨hc, hgap⟩ := List.forall_mem_cons.mp hgap
    rw [words_append_blank hc, words_of_blanks hgap, List.append_nil]

theorem IsWord.words_eq {word : List Char} (h : IsWord word) : words word = [word] := by
  rw [words, List.splitOnP_eq_singleton h.unbroken]
  simp [h.ne_nil]

theorem HasWords.words_eq {text : List Char} {ws : List (List Char)} (h : HasWords text ws) :
    words text = ws := by
  induction h with
  | blanks hgap => exact words_of_blanks hgap
  | @word gap word rest later hgap hword hends hrest ih =>
    rw [List.append_assoc, words_blanks_append hgap]
    cases rest with
    | nil => rw [List.append_nil, hword.words_eq, ← ih, words_nil]
    | cons c rest =>
      have hc : isBlank c = true := hends c rfl
      rw [words_cons_blank hc] at ih
      rw [words_append_blank hc, hword.words_eq, ih, List.singleton_append]

/-- A text is taken apart character by character: a blank widens the gap in front, any other
character begins a word or lengthens the one that follows it at once. -/
theorem exists_hasWords (text : List Char) : ∃ ws, HasWords text ws := by
  induction text with
  | nil => exact ⟨[], .blanks (List.forall_mem_nil _)⟩
  | cons c text ih =>
    obtain ⟨ws, h⟩ := ih
    cases hc : isBlank c with
    | true =>
      cases h with
      | blanks hgap => exact ⟨[], .blanks (List.forall_mem_cons.mpr ⟨hc, hgap⟩)⟩
      | word hgap hword hends hrest =>
        exact ⟨_, .word (List.forall_mem_cons.mpr ⟨hc, hgap⟩) hword hends hrest⟩
    | false =>
      have halone : IsWord [c] := ⟨List.cons_ne_nil c [], List.forall_mem_singleton.mpr hc⟩
      cases h with
      | blanks hgap =>
        have hends : ∀ b, text.head? = some b → isBlank b = true :=
          fun b hb => hgap b (List.mem_of_head? hb)
        exact ⟨_, .word (List.forall_mem_nil _) halone hends (.blanks hgap)⟩
      | @word gap word rest later hgap hword hends hrest =>
        cases gap with
        | nil =>
          have hlonger : IsWord (c :: word) :=
            ⟨List.cons_ne_nil c word, List.forall_mem_cons.mpr ⟨hc, hword.unbroken⟩⟩
          exact ⟨_, .word (List.forall_mem_nil _) hlonger hends hrest⟩
        | cons b gap =>
          have hb : ∀ b', (b :: gap ++ word ++ rest).head? = some b' → isBlank b' = true := by
            rintro b' ⟨⟩
            exact hgap b List.mem_cons_self
          exact ⟨_, .word (List.forall_mem_nil _) halone hb (.word hgap hword hends hrest)⟩

theorem hasWords_iff {text : List Char} {ws : List (List Char)} :
    HasWords text ws ↔ words text = ws := by
  constructor
  · exact HasWords.words_eq
  · rintro rfl
    obtain ⟨ws, h⟩ := exists_hasWords text
    rwa [h.words_eq]

theorem hasWords_words (text : List Char) : HasWords text (words text) :=
  hasWords_iff.mpr rfl

theorem HasWords.isWord {text : List Char} {ws : List (List Char)} (h : HasWords text ws) :
    ∀ word ∈ ws, IsWord word := by
  induction h with
  | blanks _ => exact List.forall_mem_nil _
  | word _ hword _ _ ih => exact List.forall_mem_cons.mpr ⟨hword, ih⟩

theorem HasWords.forall_blank {text : List Char} (h : HasWords text []) :
    ∀ c ∈ text, isBlank c = true := by
  cases h with
  | blanks hgap => exact hgap

/-- Blanks that do not end in a blank are none. -/
theorem eq_nil_of_blanks {gap : List Char} (hgap : ∀ c ∈ gap, isBlank c = true)
    (hback : ∀ c, gap.getLast? = some c → isBlank c = false) : gap = [] := by
  by_contra hne
  have hlast := hgap _ (List.getLast_mem hne)
  rw [hback _ (List.getLast?_eq_some_getLast hne)] at hlast
  cases hlast

/-! ## Collapsing runs of blanks -/

/-- Behind a blank, the rest of its run is dropped. -/
theorem collapse_blanks_append {gap : List Char} (hgap : ∀ c ∈ gap, isBlank c = true)
    (text : List Char) : collapse true (gap ++ text) = collapse true text := by
  induction gap with
  | nil => rfl
  | cons c gap ih =>
    obtain ⟨hc, hgap⟩ := List.forall_mem_cons.mp hgap
    rw [List.cons_append, collapse, if_pos hc, if_pos rfl, ih hgap]

theorem collapse_word_append {word : List Char} (h : IsWord word) (afterBlank : Bool)
    (text : List Char) : collapse afterBlank (word ++ text) = word ++ collapse false text := by
  obtain ⟨hne, hunbroken⟩ := h
  induction word generalizing afterBlank with
  | nil => exact absurd rfl hne
  | cons c word ih =>
    obtain ⟨hc, hword⟩ := List.forall_mem_cons.mp hunbroken
    rw [List.cons_append, collapse, hc, if_neg Bool.false_ne_true, List.cons_append]
    cases word with
    | nil => rfl
    | cons d word => rw [ih false (List.cons_ne_nil d word) hword]

/-- A text that does not end in a blank is collapsed to its words with single spaces between, once
the blanks in front are left out. -/
theorem collapse_of_hasWords {text : List Char} {ws : List (List Char)} (h : HasWords text ws)
    (hback : ∀ c, text.getLast? = some c → isBlank c = false) :
    collapse true text = [' '].intercalate ws := by
  induction h with
  | blanks hgap =>
    rw [eq_nil_of_blanks hgap hback]
    rfl
  | @word gap word rest later hgap hword hends hrest ih =>
    rw [List.append_assoc, collapse_blanks_append hgap, collapse_word_append hword]
    cases rest with
    | nil =>
      have hlater : later = [] := by rw [← hrest.words_eq, words_nil]
      rw [hlater, collapse, List.append_nil, List.intercalate_singleton]
    | cons c rest =>
      have hc : isBlank c = true := hends c rfl
      have hback' : ∀ b, (c :: rest).getLast? = some b → isBlank b = false := by
        intro b hb
        exact hback b (by rw [List.getLast?_append, hb]; rfl)
      have hspace : collapse false (c :: rest) = ' ' :: collapse true (c :: rest) := by
        rw [collapse, if_pos hc, if_neg Bool.false_ne_true, collapse, if_pos hc, if_pos rfl]
      rw [hspace, ih hback']
      -- the text goes on and does not end in a blank, so another word follows
      cases later with
      | nil => cases eq_nil_of_blanks hrest.forall_blank hback'
      | cons next later =>
        rw [List.intercalate_cons_cons, List.append_assoc, List.singleton_append]

/-- No space is put behind a space, nor in front if the character before was blank. -/
theorem single_spaces_collapse (afterBlank : Bool) (cs : List Char) :
    ¬ [' ', ' '] <:+: collapse afterBlank cs ∧
      (afterBlank = true → (collapse afterBlank cs).head? ≠ some ' ') := by
  have hspace : isBlank ' ' = true := by decide
  fun_induction collapse afterBlank cs with
  | case1 => simp
  | case2 c cs hblank ih => exact ih
  | case3 afterBlank c cs hblank hafter ih =>
    obtain ⟨hpairs, hhead⟩ := ih
    refine ⟨?_, fun h => absurd h hafter⟩
    rw [List.infix_cons_iff, List.cons_prefix_cons]
    rintro (⟨-, rest, hrest⟩ | hpair)
    · exact hhead rfl (by rw [← hrest]; rfl)
    · exact hpairs hpair
  | case4 afterBlank c cs hblank ih =>
    have hne : c ≠ ' ' := by
      rintro rfl
      exact hblank hspace
    refine ⟨?_, fun _ => by simpa using hne⟩
    rw [List.infix_cons_iff, List.cons_prefix_cons]
    rintro (⟨hc, -⟩ | hpair)
    · exact hne hc.symm
    · exact ih.1 hpair

/-! ## Normalized texts -/

theorem words_trimChars (text : List Char) : words (trimChars text) = words text := by
  obtain ⟨⟨before, after, htext, hbefore, hafter⟩, -, -⟩ := trims_trimChars text
  calc words (trimChars text)
      = words (before ++ trimChars text ++ after) := by
        rw [words_append_blanks _ hafter, words_blanks_append hbefore]
    _ = words text := by rw [← htext]

/-- What is trimmed and collapsed are the words with single spaces between. -/
theorem collapse_trimChars (text : List Char) :
    collapse false (trimChars text) = [' '].intercalate (words text) := by
  obtain ⟨-, hfront, hback⟩ := trims_trimChars text
  have hwords : HasWords (trimChars text) (words text) := hasWords_iff.mpr (words_trimChars text)
  rw [← collapse_of_hasWords hwords hback]
  -- what is left does not begin with a blank, so it makes no difference what stood before
  cases hleft : trimChars text with
  | nil => rfl
  | cons c rest =>
    have hc : isBlank c = false := hfront c (by rw [hleft]; rfl)
    rw [collapse, collapse, hc, if_neg Bool.false_ne_true, if_neg Bool.false_ne_true]

theorem toList_normalize (s : String) :
    (normalize s).toList = [' '].intercalate (words s.toList) := by
  rw [normalize, String.toList_ofList, collapse_trimChars]

theorem normalize_eq_intercalate (s : String) :
    normalize s = " ".intercalate ((words s.toList).map String.ofList) := by
  have hmap : ((words s.toList).map String.ofList).map String.toList = words s.toList := by
    simp [Function.comp_def]
  apply String.toList_injective
  rw [toList_normalize, String.toList_intercalate, hmap]
  rfl

/-- Joined words are read back. -/
theorem words_intercalate {ws : List (List Char)} (h : ∀ word ∈ ws, IsWord word) :
    words ([' '].intercalate ws) = ws := by
  have hspace : isBlank ' ' = true := by decide
  induction ws with
  | nil => exact words_nil
  | cons word ws ih =>
    obtain ⟨hword, hws⟩ := List.forall_mem_cons.mp h
    cases ws with
    | nil => rw [List.intercalate_singleton, hword.words_eq]
    | cons next ws =>
      rw [List.intercalate_cons_cons, List.append_assoc, List.singleton_append,
        words_append_blank hspace, hword.words_eq, ih hws, List.singleton_append]

/-- Normalizing keeps the words. -/
theorem words_normalize (s : String) : words (normalize s).toList = words s.toList := by
  rw [toList_normalize, words_intercalate (hasWords_words s.toList).isWord]

/-- Joined words begin and end with a word. -/
theorem edges_intercalate {ws : List (List Char)} (h : ∀ word ∈ ws, IsWord word) :
    (∀ c, ([' '].intercalate ws).head? = some c → isBlank c = false) ∧
      ∀ c, ([' '].intercalate ws).getLast? = some c → isBlank c = false := by
  induction ws with
  | nil => exact ⟨nofun, nofun⟩
  | cons word ws ih =>
    obtain ⟨hword, hws⟩ := List.forall_mem_cons.mp h
    cases ws with
    | nil =>
      rw [List.intercalate_singleton]
      exact ⟨fun c hc => hword.unbroken c (List.mem_of_head? hc),
        fun c hc => hword.unbroken c (List.mem_of_getLast? hc)⟩
    | cons next ws =>
      obtain ⟨-, hback⟩ := ih hws
      have hne : [' '].intercalate (next :: ws) ≠ [] := by
        intro hnil
        have hwords := words_intercalate hws
        rw [hnil, words_nil] at hwords
        cases hwords
      rw [List.intercalate_cons_cons]
      refine ⟨?_, ?_⟩
      · intro c hc
        rw [List.append_assoc, List.head?_append_of_ne_nil _ hword.ne_nil] at hc
        exact hword.unbroken c (List.mem_of_head? hc)
      · intro c hc
        rw [List.getLast?_append_of_ne_nil _ hne] at hc
        exact hback c hc

/-- **Normalizing joins words.** A text has exactly one list of words, the longest stretches without
a blank, and normalized it is these words joined by single spaces. So normalizing again changes
nothing; a normalized text holds no line break, no other blank than the space, no space at either
end and no two in a row; and two texts are normalized alike exactly if they have the same words. -/
theorem normalize_joins_words (s : String) :
    (∀ ws, HasWords s.toList ws ↔ words s.toList = ws) ∧
    normalize s = " ".intercalate ((words s.toList).map String.ofList) ∧
    normalize (normalize s) = normalize s ∧
    ('\n' ∉ (normalize s).toList ∧ '\r' ∉ (normalize s).toList) ∧
    ((normalize s).toList.head? ≠ some ' ' ∧ (normalize s).toList.getLast? ≠ some ' ') ∧
    (∀ c ∈ (normalize s).toList, isBlank c = true → c = ' ') ∧
    ¬ [' ', ' '] <:+: (normalize s).toList ∧
    ∀ s', normalize s = normalize s' ↔ words s.toList = words s'.toList := by
  have hblank : ∀ c ∈ (normalize s).toList, isBlank c = true → c = ' ' := by
    intro c hc hb
    rw [normalize, String.toList_ofList] at hc
    rcases isBlank_of_mem_collapse hc with hspace | hnot
    · exact hspace
    · rw [hb] at hnot
      cases hnot
  have hreturn : '\r' ∉ (normalize s).toList := by
    intro h
    exact absurd (hblank '\r' h (by decide)) (by decide)
  obtain ⟨hfront, hback⟩ := edges_intercalate (hasWords_words s.toList).isWord
  rw [← toList_normalize] at hfront hback
  refine ⟨fun ws => hasWords_iff, normalize_eq_intercalate s, ?_,
    ⟨newline_notMem_normalize s, hreturn⟩, ⟨?_, ?_⟩, hblank, ?_, ?_⟩
  · rw [normalize_eq_intercalate (normalize s), words_normalize, ← normalize_eq_intercalate]
  · intro h
    exact absurd (hfront ' ' h) (by decide)
  · intro h
    exact absurd (hback ' ' h) (by decide)
  · rw [normalize, String.toList_ofList]
    exact (single_spaces_collapse false _).1
  · intro s'
    constructor
    · intro h
      rw [← words_normalize s, h, words_normalize]
    · intro h
      rw [normalize_eq_intercalate, h, ← normalize_eq_intercalate]

-- a tab, a no-break space and a line feed are blanks like the space
example : normalize "  a \t\u00a0bc\n" = "a bc" := by decide +kernel

end SaslClient.Text
