import SaslClient.Proofs.Text.Join
import SaslClient.Signing.Region

/-!
# Hosts, labels and regions

A host is checked by looking at its length, its ends and its parts, one after the other. Together the
checks let through exactly the joins of non-empty labels that are short enough, and the region can be
told from the labels alone.

Main results:

* `hostFault?_eq_some_iff`: the fault that is reported is that of the first check that fails.
* `hostFault?_eq_none_iff`: what the checks let through.
* `ofHost_exact`: the region of a host, or the error, said by its labels.
-/

namespace SaslClient.Region

/-! ## Labels -/

/-- The host is the join of these parts by dots, and no part holds a dot. -/
structure IsJoin (host : String) (parts : List String) : Prop where
  host_eq : host = ".".intercalate parts
  ne_nil : parts ≠ []
  dot_notMem : ∀ part ∈ parts, '.' ∉ part.toList

theorem labels_of_isJoin {host : String} {parts : List String} (h : IsJoin host parts) :
    labels host = parts.map String.toList := by
  rw [labels, h.host_eq]
  exact Text.splitOn_intercalate rfl h.ne_nil h.dot_notMem

/-- Every text is a join of parts without dots, in one way. -/
theorem exists_isJoin (host : String) : ∃ parts, IsJoin host parts := by
  refine ⟨(labels host).map String.ofList, ?_, ?_, ?_⟩
  · have hlist : host.toList = ['.'].intercalate (labels host) := by
      rw [labels, List.intercalate_splitOn]
    apply String.toList_inj.mp
    rw [String.toList_intercalate, List.map_map, hlist]
    simp [Function.comp_def]
  · simp [labels, List.splitOn_ne_nil]
  · intro part hpart
    obtain ⟨label, hlabel, rfl⟩ := List.mem_map.mp hpart
    rw [String.toList_ofList]
    exact Text.notMem_of_mem_splitOn hlabel

theorem IsJoin.unique {host : String} {parts parts' : List String} (h : IsJoin host parts)
    (h' : IsJoin host parts') : parts = parts' := by
  have hmap : parts.map String.toList = parts'.map String.toList := by
    rw [← labels_of_isJoin h, labels_of_isJoin h']
  exact List.map_injective_iff.mpr @String.toList_injective hmap

theorem nil_mem_labels_iff {host : String} {parts : List String} (h : IsJoin host parts) :
    [] ∈ labels host ↔ "" ∈ parts := by
  have hempty (part : String) : part.toList = [] ↔ part = "" := by simp
  rw [labels_of_isJoin h, List.mem_map]
  simp [hempty]

/-- A dot at either end has an empty part before or behind it. -/
theorem nil_mem_labels_of_dot {host rest : String} (h : host = "." ++ rest ∨ host = rest ++ ".") :
    [] ∈ labels host := by
  have hdot : ".".toList = ['.'] := rfl
  rcases h with rfl | rfl
  · have hlist : ("." ++ rest).toList = [] ++ '.' :: rest.toList := by simp [hdot]
    rw [labels, hlist, List.splitOn_append_cons_self]
    simp
  · have hlist : (rest ++ ".").toList = rest.toList ++ '.' :: [] := by simp [hdot]
    rw [labels, hlist, List.splitOn_append_cons_self]
    simp

/-! ## Checks -/

/-- What a check finds fault with. -/
def HasFault (host : String) : HostFault → Prop
  | .empty => host = ""
  | .tooLong => 255 < host.utf8ByteSize
  | .edgeDot => ∃ rest, host = "." ++ rest ∨ host = rest ++ "."
  | .emptyLabel => ∃ parts, IsJoin host parts ∧ "" ∈ parts
  | .other _ => False

/-- The checks in the order in which they are made. -/
def checks : List HostFault := [.empty, .tooLong, .edgeDot, .emptyLabel]

/-- The fault is found by one check, and by none that is made earlier. -/
def FirstFault (host : String) (fault : HostFault) : Prop :=
  ∃ earlier later, checks = earlier ++ fault :: later ∧
    (∀ f ∈ earlier, ¬ HasFault host f) ∧ HasFault host fault

theorem hasFault_edgeDot_iff {host : String} :
    HasFault host .edgeDot ↔ host.toList.head? = some '.' ∨ host.toList.getLast? = some '.' := by
  have hdot : ".".toList = ['.'] := rfl
  constructor
  · rintro ⟨rest, rfl | rfl⟩
    · exact .inl (by simp [hdot])
    · exact .inr (by simp [hdot])
  · rintro (hhead | hlast)
    · obtain ⟨cs, hcs⟩ := List.head?_eq_some_iff.mp hhead
      exact ⟨String.ofList cs, .inl (String.toList_inj.mp (by simp [hcs]))⟩
    · obtain ⟨cs, hcs⟩ := List.getLast?_eq_some_iff.mp hlast
      exact ⟨String.ofList cs, .inr (String.toList_inj.mp (by simp [hcs]))⟩

theorem hasFault_emptyLabel_iff {host : String} :
    HasFault host .emptyLabel ↔ [] ∈ labels host := by
  constructor
  · rintro ⟨parts, hparts, hempty⟩
    exact (nil_mem_labels_iff hparts).mpr hempty
  · intro hnil
    obtain ⟨parts, hparts⟩ := exists_isJoin host
    exact ⟨parts, hparts, (nil_mem_labels_iff hparts).mp hnil⟩

/-- The empty host and one with a dot at an end have an empty label too. -/
theorem hasFault_emptyLabel_of {host : String}
    (h : HasFault host .empty ∨ HasFault host .edgeDot) : HasFault host .emptyLabel := by
  apply hasFault_emptyLabel_iff.mpr
  rcases h with rfl | ⟨rest, hdot⟩
  · decide
  · exact nil_mem_labels_of_dot hdot

instance (host : String) : (fault : HostFault) → Decidable (HasFault host fault)
  | .empty => inferInstanceAs (Decidable (host = ""))
  | .tooLong => inferInstanceAs (Decidable (255 < host.utf8ByteSize))
  | .edgeDot => decidable_of_iff _ hasFault_edgeDot_iff.symm
  | .emptyLabel => decidable_of_iff _ hasFault_emptyLabel_iff.symm
  | .other _ => inferInstanceAs (Decidable False)

/-- Faults are looked for check by check. -/
theorem hostFault?_eq_find? (host : String) :
    hostFault? host = checks.find? fun fault => HasFault host fault := by
  have hempty : host.isEmpty = true ↔ HasFault host .empty := String.isEmpty_iff
  have hlong : maxHostLength < host.utf8ByteSize ↔ HasFault host .tooLong := Iff.rfl
  have hlabel : (labels host).any (·.isEmpty) = true ↔ HasFault host .emptyLabel := by
    rw [hasFault_emptyLabel_iff]
    simp
  simp only [hostFault?, hempty, hlong, ← hasFault_edgeDot_iff, hlabel, checks, List.find?_cons]
  by_cases h₁ : HasFault host .empty
  · simp [h₁]
  by_cases h₂ : HasFault host .tooLong
  · simp [h₁, h₂]
  by_cases h₃ : HasFault host .edgeDot
  · simp [h₁, h₂, h₃]
  by_cases h₄ : HasFault host .emptyLabel
  · simp [h₁, h₂, h₃, h₄]
  · simp [h₁, h₂, h₃, h₄]

/-- What is reported is the first fault. -/
theorem hostFault?_eq_some_iff {host : String} {fault : HostFault} :
    hostFault? host = some fault ↔ FirstFault host fault := by
  rw [hostFault?_eq_find?, List.find?_eq_some_iff_append, FirstFault]
  simp only [decide_eq_true_eq, Bool.not_eq_true', decide_eq_false_iff_not]
  constructor
  · rintro ⟨hfault, earlier, later, hchecks, hearlier⟩
    exact ⟨earlier, later, hchecks, hearlier, hfault⟩
  · rintro ⟨earlier, later, hchecks, hearlier, hfault⟩
    exact ⟨hfault, earlier, later, hchecks, hearlier⟩

example : hostFault? "..a" = some .edgeDot := by decide

/-- The checks let through the joins of non-empty labels that are short enough: those for an empty
host and for a dot at an end find nothing that the last one would not find. -/
theorem hostFault?_eq_none_iff {host : String} :
    hostFault? host = none ↔
      host.utf8ByteSize ≤ 255 ∧ ∃ parts, IsJoin host parts ∧ "" ∉ parts := by
  obtain ⟨parts, hparts⟩ := exists_isJoin host
  have hlabel : HasFault host .emptyLabel ↔ "" ∈ parts := by
    rw [hasFault_emptyLabel_iff, nil_mem_labels_iff hparts]
  have hnone : hostFault? host = none ↔ ∀ fault ∈ checks, ¬ HasFault host fault := by
    rw [hostFault?_eq_find?, List.find?_eq_none]
    simp
  rw [hnone]
  constructor
  · intro hchecks
    have hlong : ¬ HasFault host .tooLong := hchecks .tooLong (by decide)
    have hinner : ¬ HasFault host .emptyLabel := hchecks .emptyLabel (by decide)
    exact ⟨Nat.le_of_not_lt hlong, parts, hparts, mt hlabel.mpr hinner⟩
  · rintro ⟨hlength, parts', hparts', hne⟩ fault - hfault
    obtain rfl := hparts.unique hparts'
    have hinner : ¬ HasFault host .emptyLabel := mt hlabel.mp hne
    cases fault with
    | empty => exact hinner (hasFault_emptyLabel_of (.inl hfault))
    | tooLong => exact absurd hfault (Nat.not_lt.mpr hlength)
    | edgeDot => exact hinner (hasFault_emptyLabel_of (.inr hfault))
    | emptyLabel => exact hinner hfault
    | other text => exact hfault

/-! ## Regions -/

theorem ofLabels_of_global {host : String} (h : host = "sts.amazonaws.com") :
    ofLabels host = "us-east-1" :=
  if_pos h

theorem ofLabels_of_single {host part : String} (h : IsJoin host [part]) :
    ofLabels host = "us-east-1" := by
  rw [ofLabels, labels_of_isJoin h]
  exact ite_self default

theorem ofHost_eq_ok_iff {host region : String} :
    ofHost host = .ok region ↔ hostFault? host = none ∧ ofLabels host = region := by
  unfold ofHost
  cases hostFault? host <;> simp

theorem ofHost_eq_error_iff {host : String} {e : SigningError} :
    ofHost host = .error e ↔ ∃ fault, hostFault? host = some fault ∧ e = .invalidHost host fault := by
  unfold ofHost
  cases hostFault? host <;> simp [eq_comm]

/-- The host has this label behind its first one, and is not the global host. -/
structure SecondLabel (host label : String) : Prop where
  ne_global : host ≠ "sts.amazonaws.com"
  isJoin : ∃ first rest, IsJoin host (first :: label :: rest)

theorem SecondLabel.unique {host label label' : String} (h : SecondLabel host label)
    (h' : SecondLabel host label') : label = label' := by
  obtain ⟨first, rest, hparts⟩ := h.isJoin
  obtain ⟨first', rest', hparts'⟩ := h'.isJoin
  have heq := hparts.unique hparts'
  simp only [List.cons.injEq] at heq
  exact heq.2.1

theorem ofLabels_of_second {host label : String} (h : SecondLabel host label) :
    ofLabels host = label := by
  obtain ⟨first, rest, hparts⟩ := h.isJoin
  have hglobal : host ≠ globalHost := h.ne_global
  rw [ofLabels, labels_of_isJoin hparts, if_neg hglobal]
  exact String.ofList_toList

/-- The region that a host stands for: its second label, or the default. -/
inductive RegionOf (host : String) : String → Prop
  | global : host = "sts.amazonaws.com" → RegionOf host "us-east-1"
  | single {label : String} : IsJoin host [label] → RegionOf host "us-east-1"
  | second {label : String} : SecondLabel host label → RegionOf host label

theorem regionOf_iff {host region : String} : RegionOf host region ↔ ofLabels host = region := by
  constructor
  · intro h
    cases h with
    | global hglobal => exact ofLabels_of_global hglobal
    | single hlabel => exact ofLabels_of_single hlabel
    | second hsecond => exact ofLabels_of_second hsecond
  · rintro rfl
    obtain ⟨parts, hparts⟩ := exists_isJoin host
    by_cases hglobal : host = "sts.amazonaws.com"
    · rw [ofLabels_of_global hglobal]
      exact .global hglobal
    · match parts with
      | [] => exact absurd rfl hparts.ne_nil
      | [label] =>
        rw [ofLabels_of_single hparts]
        exact .single hparts
      | first :: label :: rest =>
        have hsecond : SecondLabel host label := ⟨hglobal, first, rest, hparts⟩
        rw [ofLabels_of_second hsecond]
        exact .second hsecond

/-- A region is a label: not empty, and without dots. -/
theorem RegionOf.isLabel {host region : String} (h : RegionOf host region) {parts : List String}
    (hparts : IsJoin host parts) (hne : "" ∉ parts) : region ≠ "" ∧ '.' ∉ region.toList := by
  cases h with
  | global hglobal => decide
  | single hlabel => decide
  | second hsecond =>
    obtain ⟨first, rest, hparts'⟩ := hsecond.isJoin
    obtain rfl := hparts.unique hparts'
    have hmem : region ∈ first :: region :: rest := by simp
    exact ⟨ne_of_mem_of_not_mem hmem hne, hparts.dot_notMem region hmem⟩

/-- **Which region a host stands for.** There is one if and only if the host is a join of non-empty
labels without dots and has at most 255 bytes. It is the default one for the global host and for a
single label, and otherwise the second label, so two hosts have the same region if and only if their
second labels are the same; it is not empty and holds no dot. Otherwise the error names the first
fault among: empty, too long, a dot at an end, an empty label. -/
theorem ofHost_exact (host : String) :
    ((∃ region, ofHost host = .ok region) ↔
      host.utf8ByteSize ≤ 255 ∧ ∃ parts, IsJoin host parts ∧ "" ∉ parts) ∧
    (∀ region, ofHost host = .ok region →
      region ≠ "" ∧ '.' ∉ region.toList ∧ ∀ region', RegionOf host region' ↔ region' = region) ∧
    (∀ host' region region' label label', ofHost host = .ok region → ofHost host' = .ok region' →
      SecondLabel host label → SecondLabel host' label' → (region = region' ↔ label = label')) ∧
    ∀ e, ofHost host = .error e ↔ ∃ fault, FirstFault host fault ∧ e = .invalidHost host fault := by
  refine ⟨?_, ?_, ?_, ?_⟩
  · rw [← hostFault?_eq_none_iff]
    simp [ofHost_eq_ok_iff]
  · intro region h
    obtain ⟨hfault, hregion⟩ := ofHost_eq_ok_iff.mp h
    obtain ⟨-, parts, hparts, hne⟩ := hostFault?_eq_none_iff.mp hfault
    obtain ⟨hempty, hdot⟩ := (regionOf_iff.mpr hregion).isLabel hparts hne
    refine ⟨hempty, hdot, ?_⟩
    intro region'
    rw [regionOf_iff, hregion, eq_comm]
  · intro host' region region' label label' h h' hlabel hlabel'
    have hregion := (ofHost_eq_ok_iff.mp h).2
    have hregion' := (ofHost_eq_ok_iff.mp h').2
    rw [← hregion, ← hregion', ofLabels_of_second hlabel, ofLabels_of_second hlabel']
  · intro e
    simp only [ofHost_eq_error_iff, hostFault?_eq_some_iff]

end SaslClient.Region
