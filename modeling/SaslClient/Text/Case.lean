import SaslClient.Text.CaseTables

/-!
# Lower case

The full Unicode lower-case mapping of a text. Two rules go beyond one table: the dotted capital I
becomes two characters, and a capital sigma at the end of a word becomes the final form.

Main results:

* `lowercase_of_forall`: a text of printable ASCII without capitals stays as it is.
* `notMem_lowercase`: separators, digits and other characters in front of the small letters are not
  brought in.
-/

namespace SaslClient.Text

/-- The lower-case form of one character out of context. -/
def lowerChar (c : Char) : List Char :=
  if c.toNat = 0x130 then ['i', Char.ofNat 0x307]
  else
    match lowerRuns.find? (·.covers c.toNat) with
    | some run => [Char.ofNat (c.toNat + run.offset).toNat]
    | none => [c]

/-- Whether the first character that does not get ignored has a case. -/
def reachesCased (cs : List Char) : Bool :=
  match cs.dropWhile caseIgnorable.contains with
  | [] => false
  | c :: _ => cased.contains c

/-- The characters in lower case; `before` holds what precedes them, nearest first. A sigma is final
when a cased character precedes it and none follows. -/
def lowerFrom (before : List Char) : List Char → List Char
  | [] => []
  | c :: after =>
    let lowered :=
      if c = 'Σ' then
        if reachesCased before && !reachesCased after then ['ς'] else ['σ']
      else lowerChar c
    lowered ++ lowerFrom (c :: before) after

/-- The text in lower case. -/
def lowercase (s : String) : String :=
  String.ofList (lowerFrom [] s.toList)

/-! ## ASCII texts without capitals -/

/-- The printable ASCII characters other than capital letters. -/
def isPlain (c : Char) : Bool :=
  (32 ≤ c.toNat && c.toNat < 65) || (90 < c.toNat && c.toNat < 127)

theorem lowerChar_of_isPlain {c : Char} (h : isPlain c = true) : lowerChar c = [c] := by
  have hruns : ∀ run ∈ lowerRuns, 65 ≤ run.first ∧ run.last ≤ 90 ∨ 128 ≤ run.first := by
    decide +kernel
  have hnone : lowerRuns.find? (·.covers c.toNat) = none := by
    rw [List.find?_eq_none]
    intro run hrun
    have hbounds := hruns run hrun
    simp only [isPlain, Bool.or_eq_true, Bool.and_eq_true, decide_eq_true_eq] at h
    simp only [CaseRun.covers, Bool.and_eq_true, decide_eq_true_eq]
    omega
  have hdotted : c.toNat ≠ 0x130 := by
    simp only [isPlain, Bool.or_eq_true, Bool.and_eq_true, decide_eq_true_eq] at h
    omega
  rw [lowerChar, if_neg hdotted, hnone]

theorem lowerFrom_of_forall {cs : List Char} (h : ∀ c ∈ cs, isPlain c = true) (before : List Char) :
    lowerFrom before cs = cs := by
  induction cs generalizing before with
  | nil => rfl
  | cons c cs ih =>
    obtain ⟨hc, hcs⟩ := List.forall_mem_cons.mp h
    have hsigma : c ≠ 'Σ' := by
      rintro rfl
      exact absurd hc (by decide)
    simp only [lowerFrom, if_neg hsigma, lowerChar_of_isPlain hc, ih hcs, List.singleton_append]

/-- A text of printable ASCII without capitals is in lower case. -/
theorem lowercase_of_forall {s : String} (h : ∀ c ∈ s.toList, isPlain c = true) :
    lowercase s = s := by
  rw [lowercase, lowerFrom_of_forall h, String.ofList_toList]

/-! ## Characters in front of the small letters -/

theorem toNat_ofNat_or (n : Nat) : (Char.ofNat n).toNat = n ∨ (Char.ofNat n).toNat = 0 := by
  by_cases hvalid : n.isValidChar
  · left
    rw [Char.ofNat, dif_pos hvalid]
    rfl
  · right
    rw [Char.ofNat, dif_neg hvalid]
    rfl

/-- Lower-casing brings in no character in front of the small letters. -/
theorem eq_of_mem_lowerChar {c d : Char} (hnul : d ≠ '\x00') (hd : d < 'a') (h : d ∈ lowerChar c) :
    d = c := by
  have hlt : d.toNat < 97 := hd
  have hpos : d.toNat ≠ 0 := fun hzero => hnul (Char.toNat_inj.mp hzero)
  have hruns : ∀ run ∈ lowerRuns, (97 : Int) ≤ run.first + run.offset := by decide +kernel
  unfold lowerChar at h
  split at h
  · simp only [List.mem_cons, List.not_mem_nil, or_false] at h
    rcases h with rfl | rfl
    · exact absurd hd (by decide)
    · exact absurd hd (by decide)
  · split at h
    next run hrun =>
      have htarget := hruns run (List.mem_of_find?_eq_some hrun)
      have hcovers := List.find?_some hrun
      simp only [CaseRun.covers, Bool.and_eq_true, decide_eq_true_eq] at hcovers
      rw [List.mem_singleton] at h
      rw [h] at hlt hpos
      rcases toNat_ofNat_or (c.toNat + run.offset).toNat with hn | hn <;> omega
    next => exact List.mem_singleton.mp h

theorem mem_of_mem_lowerFrom {before cs : List Char} {d : Char} (hnul : d ≠ '\x00') (hd : d < 'a')
    (h : d ∈ lowerFrom before cs) : d ∈ cs := by
  induction cs generalizing before with
  | nil => exact h
  | cons c cs ih =>
    rw [lowerFrom, List.mem_append] at h
    rcases h with hhead | htail
    · have hc : d = c := by
        split at hhead
        next hsigma =>
          have hnot : ¬ (d = 'ς' ∨ d = 'σ') := by
            rintro (rfl | rfl)
            · exact absurd hd (by decide)
            · exact absurd hd (by decide)
          split at hhead
          · exact absurd (.inl (List.mem_singleton.mp hhead)) hnot
          · exact absurd (.inr (List.mem_singleton.mp hhead)) hnot
        next => exact eq_of_mem_lowerChar hnul hd hhead
      exact hc ▸ List.mem_cons_self
    · exact List.mem_cons_of_mem c (ih htail)

theorem notMem_lowercase {d : Char} (hnul : d ≠ '\x00') (hd : d < 'a') {s : String}
    (h : d ∉ s.toList) : d ∉ (lowercase s).toList := by
  rw [lowercase, String.toList_ofList]
  exact mt (mem_of_mem_lowerFrom hnul hd) h

end SaslClient.Text
