import SaslClient.Proofs.Signing.Grouping
import SaslClient.Proofs.Signing.StringToSign

/-!
# Names that are announced and names that are covered

The names of the signed fields are announced beside the canonical block. The block is looked up by
lower-case names, while the announced names are taken as they were given. So the lines of the block
stand for the announced names if and only if each of these is the lower-case name of a field; one
that matches a field but for its letter case is announced and has no line.

Main results:

* `coveredNames_canonical`: the names on the lines of the block.
* `announced_iff_covered`: when they are the announced names.
* `announced_uncovered`: a name that is announced and has no line.
* `SigningInput.coveredNames_canonical_headers`: the request that is signed announces what it covers.
-/

namespace SaslClient

namespace Headers

/-! ## Reading a block -/

/-- The lines of a block. A block without text has none. -/
def linesOf (block : String) : List (List Char) :=
  if block.isEmpty then [] else block.toList.splitOn '\n'

/-- The name on a line, in front of the first colon. -/
def nameOn (line : List Char) : String :=
  String.ofList (line.takeWhile (· ≠ ':'))

/-- The names on the lines of a block. -/
def coveredNames (block : String) : List String :=
  (linesOf block).map nameOn

theorem linesOf_intercalate {lines : List String} (hne : ∀ line ∈ lines, line ≠ "")
    (hnewline : ∀ line ∈ lines, '\n' ∉ line.toList) :
    linesOf ("\n".intercalate lines) = lines.map String.toList := by
  cases lines with
  | nil => rfl
  | cons line lines =>
    have hempty : ("\n".intercalate (line :: lines)).isEmpty = false := by
      have hline : line ≠ "" := hne line List.mem_cons_self
      cases lines with
      | nil => simpa using hline
      | cons next lines => simp [String.intercalate_cons_cons]
    rw [linesOf, hempty, if_neg Bool.false_ne_true]
    exact Text.splitOn_intercalate rfl (List.cons_ne_nil line lines) hnewline

theorem nameOn_append {name : String} (hcolon : ':' ∉ name.toList) (rest : String) :
    nameOn (name ++ ":" ++ rest).toList = name := by
  have hname : ∀ c ∈ name.toList, decide (c ≠ ':') = true := by
    intro c hc
    exact decide_eq_true (ne_of_mem_of_not_mem hc hcolon)
  have hlist : (name ++ ":" ++ rest).toList = name.toList ++ ':' :: rest.toList := by
    have hsep : ":".toList = [':'] := rfl
    simp [hsep]
  rw [nameOn, hlist, List.takeWhile_append_of_pos hname]
  simp

/-! ## The names on the lines -/

section Fields

variable {headers : List Header}
  (hnames : ∀ h ∈ headers, ':' ∉ h.name.toList ∧ '\n' ∉ h.name.toList)
include hnames

/-- Lower-casing brings neither a colon nor a line break into a name. -/
theorem Covers.notMem {name : String} (h : Covers headers name) :
    ':' ∉ name.toList ∧ '\n' ∉ name.toList := by
  obtain ⟨header, hmem, rfl⟩ := h
  obtain ⟨hcolon, hnewline⟩ := hnames header hmem
  exact ⟨Text.notMem_lowercase (by decide) (by decide) hcolon,
    Text.notMem_lowercase (by decide) (by decide) hnewline⟩

theorem newline_notMem_groupLine {name : String} (h : Covers headers name) :
    '\n' ∉ (groupLine headers name).toList := by
  have hname := (Covers.notMem hnames h).2
  have hvalues : '\n' ∉ [','].intercalate ((valuesOf headers name).map String.toList) := by
    apply Text.notMem_intercalate
    · decide
    · intro cs hcs
      obtain ⟨value, hvalue, rfl⟩ := List.mem_map.mp hcs
      obtain ⟨header, -, rfl⟩ := List.mem_map.mp hvalue
      exact Text.newline_notMem_normalize header.value
  have hsep : ":".toList = [':'] := rfl
  simp [groupLine, hname, hvalues, hsep]

/-- The lines stand for the signed names that some field has in lower case. -/
theorem coveredNames_canonical (signed : List String) :
    coveredNames (canonical headers signed) = (sortNames signed).filter (Covers headers ·) := by
  have hcovers : ∀ name ∈ (sortNames signed).filter (Covers headers ·), Covers headers name := by
    intro name hname
    exact of_decide_eq_true (List.mem_filter.mp hname).2
  rw [coveredNames, canonical, canonicalLines_eq_groups, linesOf_intercalate]
  · rw [List.map_map, List.map_map]
    conv_rhs => rw [← List.map_id ((sortNames signed).filter (Covers headers ·))]
    apply List.map_congr_left
    intro name hname
    exact nameOn_append (Covers.notMem hnames (hcovers name hname)).1 _
  · intro line hline
    obtain ⟨name, -, rfl⟩ := List.mem_map.mp hline
    simp [groupLine]
  · intro line hline
    obtain ⟨name, hname, rfl⟩ := List.mem_map.mp hline
    exact newline_notMem_groupLine hnames (hcovers name hname)

end Fields

/-! ## Leaving names out -/

theorem length_intercalate_cons (sep name : String) (names : List String) :
    (sep.intercalate (name :: names)).length =
      if names = [] then name.length
      else name.length + sep.length + (sep.intercalate names).length := by
  split
  next hnil => rw [hnil, String.intercalate_singleton]
  next hnil =>
    rw [String.intercalate_cons_of_ne_nil hnil, String.length_append, String.length_append]

/-- A joined text is shorter if names were left out, unless these were empty. -/
theorem filter_eq_or_length_lt (sep : String) {p : String → Bool} {names : List String}
    (hne : ∀ name ∈ names, p name = false → name ≠ "") :
    names.filter p = names ∨
      (sep.intercalate (names.filter p)).length < (sep.intercalate names).length := by
  induction names with
  | nil => exact .inl rfl
  | cons name names ih =>
    obtain ⟨hname, hnames⟩ := List.forall_mem_cons.mp hne
    cases hp : p name with
    | true =>
      rw [List.filter_cons_of_pos hp]
      rcases ih hnames with hall | hlt
      · exact .inl (by rw [hall])
      · right
        have hnil : names ≠ [] := by
          rintro rfl
          exact absurd hlt (Nat.lt_irrefl _)
        rw [length_intercalate_cons, length_intercalate_cons, if_neg hnil]
        split <;> omega
    | false =>
      right
      have hpos : 0 < name.length := by
        have hnonempty := hname hp
        rw [Nat.pos_iff_ne_zero]
        simpa using hnonempty
      have hle : (sep.intercalate (names.filter p)).length ≤ (sep.intercalate names).length := by
        rcases ih hnames with hall | hlt
        · rw [hall]
        · exact hlt.le
      rw [List.filter_cons_of_neg (by simp [hp]), length_intercalate_cons]
      split
      next hnil =>
        rw [hnil] at hle ⊢
        exact lt_of_le_of_lt hle hpos
      next => omega

/-- **Names that are announced and names that are covered.** Let no field have a colon or a line break
in its name, and let each signed name match the name of some field but for letter case. The names on
the lines of the block are the signed names in order that some field has in lower case, and they are
the announced names if and only if all of them are such names. -/
theorem announced_iff_covered {headers : List Header} {signed : List String}
    (hnames : ∀ h ∈ headers, ':' ∉ h.name.toList ∧ '\n' ∉ h.name.toList)
    (hsigned : ∀ name ∈ signed, ∃ h ∈ headers, Text.lowercase name = Text.lowercase h.name) :
    coveredNames (canonical headers signed) =
        (sortNames signed).filter (fun name => ∃ h ∈ headers, Text.lowercase h.name = name) ∧
      (";".intercalate (coveredNames (canonical headers signed)) = signedNames signed ↔
        ∀ name ∈ signed, ∃ h ∈ headers, Text.lowercase h.name = name) := by
  have hcovered := coveredNames_canonical hnames signed
  refine ⟨hcovered, ?_⟩
  rw [hcovered, signedNames]
  have hmem (name : String) : name ∈ sortNames signed ↔ name ∈ signed :=
    (sortNames_perm signed).mem_iff
  constructor
  · intro hjoined
    -- an empty name is in lower case, so the names that have no line are not empty
    have hne : ∀ name ∈ sortNames signed, decide (Covers headers name) = false → name ≠ "" := by
      rintro name hname hnot rfl
      obtain ⟨h, hheader, hlower⟩ := hsigned "" ((hmem "").mp hname)
      exact of_decide_eq_false hnot ⟨h, hheader, hlower.symm⟩
    rcases filter_eq_or_length_lt ";" hne with hall | hlt
    · intro name hname
      rw [← hmem, ← hall] at hname
      exact of_decide_eq_true (List.mem_filter.mp hname).2
    · exact absurd (congrArg String.length hjoined) hlt.ne
  · intro hall
    rw [List.filter_eq_self.mpr]
    intro name hname
    exact decide_eq_true (hall name ((hmem name).mp hname))

/-- Fields with mixed letter case, a repeated name and a line break in a value. -/
def mixedFields : List Header :=
  [⟨"X-Custom", "a\nb: c"⟩, ⟨"Host", "example.com"⟩, ⟨"x-custom", "d"⟩]

/-- Signed names in lower case, one of them twice. -/
theorem announced_iff_covered_mixed :
    ";".intercalate (coveredNames (canonical mixedFields ["x-custom", "host", "host"])) =
      "host;host;x-custom" := by
  have hnames : ∀ h ∈ mixedFields, ':' ∉ h.name.toList ∧ '\n' ∉ h.name.toList := by decide
  have hsigned : ∀ name ∈ ["x-custom", "host", "host"],
      ∃ h ∈ mixedFields, Text.lowercase name = Text.lowercase h.name := by decide +kernel
  have hcovered : ∀ name ∈ ["x-custom", "host", "host"],
      ∃ h ∈ mixedFields, Text.lowercase h.name = name := by decide +kernel
  have hsorted : sortNames ["x-custom", "host", "host"] = ["host", "host", "x-custom"] :=
    sortNames_eq_of_perm_sorted (by decide) (by decide)
  have hannounced : signedNames ["x-custom", "host", "host"] = "host;host;x-custom" := by
    rw [signedNames, hsorted]
    rfl
  rw [← hannounced]
  exact (announced_iff_covered hnames hsigned).2.mpr hcovered

/-- A signed name that matches a field but for letter case is announced and has no line: the block is
empty. -/
theorem announced_uncovered :
    (∀ h ∈ [Header.mk "Host" "example.com"], ':' ∉ h.name.toList ∧ '\n' ∉ h.name.toList) ∧
      (∀ name ∈ ["Host"], ∃ h ∈ [Header.mk "Host" "example.com"],
        Text.lowercase name = Text.lowercase h.name) ∧
      canonical [⟨"Host", "example.com"⟩] ["Host"] = "" ∧
      ";".intercalate (coveredNames (canonical [⟨"Host", "example.com"⟩] ["Host"])) = "" ∧
      signedNames ["Host"] = "Host" := by
  refine ⟨by decide, ?_, ?_, ?_, ?_⟩
  · decide +kernel
  · decide +kernel
  · decide +kernel
  · decide +kernel

end Headers

/-- The names of the request that is signed are those on the lines of its block. -/
theorem SigningInput.coveredNames_canonical_headers (i : SigningInput) :
    Headers.coveredNames (Headers.canonical i.headers i.signed) = i.signed := by
  have hmem {h : Header} (hmem : h ∈ i.headers) : h.name ∈ i.signed := List.mem_map_of_mem hmem
  have hnames : ∀ h ∈ i.headers, ':' ∉ h.name.toList ∧ '\n' ∉ h.name.toList := by
    intro h hheader
    have hall : ∀ name ∈ i.signed, ':' ∉ name.toList := by
      rw [signed_eq]
      split <;> decide
    exact ⟨hall _ (hmem hheader), newline_notMem_of_mem_signed _ (hmem hheader)⟩
  rw [Headers.coveredNames_canonical hnames, sortNames_signed, List.filter_eq_self]
  intro name hname
  obtain ⟨h, hheader, rfl⟩ := List.mem_map.mp hname
  have hlower : Text.lowercase h.name = h.name :=
    Text.lowercase_of_forall (isPlain_of_mem_signed h.name hname)
  exact decide_eq_true ⟨h, hheader, hlower⟩

end SaslClient
