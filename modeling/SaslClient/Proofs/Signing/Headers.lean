import Mathlib.Data.List.Induction
import Mathlib.Data.List.Nodup
import SaslClient.Signing.Headers

/-!
# Canonical headers, line by line

The values that are collected under a name are those of the fields with that name in lower case, in
the order given; the order in which names were first met plays no part. The canonical block is read
off them, one line for each signed name that some field has.

Main results:

* `lookup_combine`: what is collected under a name.
* `canonicalLines_eq_map`: if all fields are signed under their own names, in order, each field
  becomes a line.
-/

namespace SaslClient.Headers

/-! ## Collecting values -/

/-- The normalized values of the fields that have a name in lower case. -/
def valuesOf (headers : List Header) (name : String) : List String :=
  (headers.filter fun h => Text.lowercase h.name = name).map fun h => Text.normalize h.value

/-- A value behind what is already there under its name. -/
def behind (value : String) : Option String → String
  | none => value
  | some v => v ++ "," ++ value

/-- The values between commas, if there are any. -/
def joined? : List String → Option String
  | [] => none
  | v :: vs => some (",".intercalate (v :: vs))

theorem joined?_concat (vs : List String) (value : String) :
    joined? (vs ++ [value]) = some (behind value (joined? vs)) := by
  cases vs with
  | nil => rfl
  | cons v vs =>
    rw [List.cons_append, joined?, joined?, behind, ← List.cons_append,
      String.intercalate_append_of_ne_nil (List.cons_ne_nil v vs) (List.cons_ne_nil value []),
      String.intercalate_singleton]

theorem valuesOf_concat (headers : List Header) (h : Header) (name : String) :
    valuesOf (headers ++ [h]) name =
      if Text.lowercase h.name = name then valuesOf headers name ++ [Text.normalize h.value]
      else valuesOf headers name := by
  by_cases hname : Text.lowercase h.name = name <;> simp [valuesOf, hname]

theorem combine_concat (headers : List Header) (h : Header) :
    combine (headers ++ [h]) =
      addValue (Text.lowercase h.name) (Text.normalize h.value) (combine headers) :=
  List.foldl_concat ..

theorem lookup_addValue (name value other : String) (c : Combined) :
    (addValue name value c).lookup other =
      if name = other then some (behind value (c.lookup name)) else c.lookup other := by
  induction c with
  | nil =>
    by_cases h : name = other
    · simp [addValue, behind, h]
    · simp [addValue, h, Ne.symm h]
  | cons entry c ih =>
    obtain ⟨n, v⟩ := entry
    by_cases hn : n = name
    · subst hn
      by_cases h : n = other
      · simp [addValue, behind, h]
      · simp [addValue, h, List.lookup_cons, beq_eq_false_iff_ne.mpr (Ne.symm h)]
    · have hn' : (name == n) = false := beq_eq_false_iff_ne.mpr (Ne.symm hn)
      rw [addValue, if_neg hn, List.lookup_cons, List.lookup_cons, List.lookup_cons, hn', ih]
      by_cases h : name = other
      · subst h
        simp [hn']
      · simp [h]

/-- What is collected under a name. -/
theorem lookup_combine (headers : List Header) (name : String) :
    (combine headers).lookup name = joined? (valuesOf headers name) := by
  induction headers using List.reverseRecOn with
  | nil => rfl
  | append_singleton headers h ih =>
    rw [combine_concat, lookup_addValue, valuesOf_concat]
    by_cases hname : Text.lowercase h.name = name
    · rw [if_pos hname, if_pos hname, hname, ih, joined?_concat]
    · rw [if_neg hname, if_neg hname, ih]

/-! ## Lines -/

/-- The line of a field that is alone under its name. -/
def line (h : Header) : String :=
  h.name ++ ":" ++ Text.normalize h.value

theorem canonicalLines_eq (headers : List Header) (signed : List String) :
    canonicalLines headers signed =
      (sortNames signed).filterMap fun name =>
        (joined? (valuesOf headers name)).map fun value => name ++ ":" ++ value := by
  simp only [canonicalLines, lookup_combine]

theorem valuesOf_name {headers : List Header}
    (hlower : ∀ h ∈ headers, Text.lowercase h.name = h.name)
    (hnodup : (headers.map (·.name)).Nodup) {h : Header} (hmem : h ∈ headers) :
    valuesOf headers h.name = [Text.normalize h.value] := by
  have hsame : ∀ h' ∈ headers, decide (Text.lowercase h'.name = h.name) = (h' == h) := by
    intro h' hmem'
    rw [hlower h' hmem', Bool.eq_iff_iff, decide_eq_true_iff, beq_iff_eq]
    exact ⟨List.inj_on_of_nodup_map hnodup hmem' hmem, congrArg _⟩
  have hcount : headers.count h = 1 := List.count_eq_one_of_mem hnodup.of_map hmem
  rw [valuesOf, List.filter_congr hsame, List.filter_beq, hcount]
  rfl

/-- If all fields are signed, their names are different and in lower case, and stand in byte order,
then each field is a line of the block. -/
theorem canonicalLines_eq_map {headers : List Header}
    (hlower : ∀ h ∈ headers, Text.lowercase h.name = h.name)
    (hnodup : (headers.map (·.name)).Nodup)
    (hsorted : sortNames (headers.map (·.name)) = headers.map (·.name)) :
    canonicalLines headers (headers.map (·.name)) = headers.map line := by
  rw [canonicalLines_eq, hsorted, List.filterMap_map, List.filterMap_eq_map_iff_forall_eq_some]
  intro h hmem
  simp [valuesOf_name hlower hnodup hmem, joined?, line]

end SaslClient.Headers
