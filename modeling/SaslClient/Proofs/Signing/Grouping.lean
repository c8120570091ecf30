import Mathlib.Data.List.NodupEquivFin
import Mathlib.Data.List.Sort
import SaslClient.Proofs.Signing.Headers
import SaslClient.Proofs.Text.ByteOrder
import SaslClient.Signing.CanonicalRequest

/-!
# Canonical headers without an order of fields

The canonical block collects the fields one after the other. What comes out is said here without
going through them: the signed names in byte order, each with the values that are given under it. So
only the order among fields of one name counts, and fields that are not signed do not count at all.

Main results:

* `canonicalLines_eq_groups`: the block as a list of groups.
* `valuesOf_of_rearrangement`, `valuesOf_of_extended`: changes to the fields that leave the values
  under a name as they are.
* `CanonicalRequest.order_free`: the block, and the changes that leave the request as it is.
-/

namespace SaslClient

namespace Headers

/-! ## The order of names -/

/-- The names are in the order of their bytes. -/
def InByteOrder (names : List String) : Prop :=
  names.Pairwise fun a b => Utf8.encode a ≤ Utf8.encode b

theorem inByteOrder_iff {names : List String} : InByteOrder names ↔ names.Pairwise (· ≤ ·) := by
  simp only [InByteOrder, Utf8.encode_le_encode_iff]

theorem sortNames_perm (names : List String) : (sortNames names).Perm names :=
  List.mergeSort_perm names _

theorem inByteOrder_sortNames (names : List String) : InByteOrder (sortNames names) :=
  inByteOrder_iff.mpr (List.pairwise_mergeSort' (· ≤ ·) names)

/-- There is one way to put names in byte order. -/
theorem sortNames_eq_of_perm {names names' : List String} (h : names.Perm names') :
    sortNames names = sortNames names' := by
  have hsorted := inByteOrder_iff.mp (inByteOrder_sortNames names)
  have hsorted' := inByteOrder_iff.mp (inByteOrder_sortNames names')
  have hperm : (sortNames names).Perm (sortNames names') :=
    ((sortNames_perm names).trans h).trans (sortNames_perm names').symm
  exact hperm.eq_of_pairwise' hsorted hsorted'

theorem sortNames_eq_of_perm_sorted {names sorted : List String} (h : names.Perm sorted)
    (hsorted : sorted.Pairwise (· ≤ ·)) : sortNames names = sorted := by
  rw [sortNames_eq_of_perm h]
  exact List.mergeSort_of_pairwise (by simpa using hsorted)

/-! ## Groups -/

/-- The line of the values that are given under a name. -/
def groupLine (headers : List Header) (name : String) : String :=
  name ++ ":" ++ ",".intercalate (valuesOf headers name)

/-- The name is that of some field in lower case. -/
def Covers (headers : List Header) (name : String) : Prop :=
  ∃ h ∈ headers, Text.lowercase h.name = name

instance (headers : List Header) (name : String) : Decidable (Covers headers name) :=
  inferInstanceAs (Decidable (∃ h ∈ headers, Text.lowercase h.name = name))

theorem valuesOf_eq_nil_iff {headers : List Header} {name : String} :
    valuesOf headers name = [] ↔ ¬ Covers headers name := by
  simp [valuesOf, Covers]

theorem line?_eq_ite (headers : List Header) (name : String) :
    ((joined? (valuesOf headers name)).map fun value => name ++ ":" ++ value) =
      if Covers headers name then some (groupLine headers name) else none := by
  unfold groupLine
  split
  next hcovers =>
    obtain ⟨value, values, hvalues⟩ :=
      List.exists_cons_of_ne_nil (mt valuesOf_eq_nil_iff.mp (not_not_intro hcovers))
    rw [hvalues]
    rfl
  next hcovers =>
    rw [valuesOf_eq_nil_iff.mpr hcovers]
    rfl

/-- The lines of the block are those of the signed names that some field has. -/
theorem canonicalLines_eq_groups (headers : List Header) (signed : List String) :
    canonicalLines headers signed =
      ((sortNames signed).filter (Covers headers ·)).map (groupLine headers) := by
  rw [canonicalLines_eq]
  simp only [line?_eq_ite]
  induction sortNames signed with
  | nil => rfl
  | cons name names ih =>
    by_cases hcovers : Covers headers name
    · simp [hcovers, ih]
    · simp [hcovers, ih]

/-- Only the values under signed names count. -/
theorem canonicalLines_congr {headers headers' : List Header} {signed : List String}
    (h : ∀ name ∈ signed, valuesOf headers name = valuesOf headers' name) :
    canonicalLines headers signed = canonicalLines headers' signed := by
  rw [canonicalLines_eq, canonicalLines_eq]
  apply List.filterMap_congr
  intro name hname
  rw [h name ((sortNames_perm signed).mem_iff.mp hname)]

/-! ## Fields in another order -/

section Rearrangement

variable {α κ : Type*} {key : α → κ} {before after : List α}

/-- Each element has a place in the other list, and elements with the same key stand in the same
order there. -/
structure Rearrangement (key : α → κ) (before after : List α) where
  place : Fin before.length ≃ Fin after.length
  get_place (i : Fin before.length) : after.get (place i) = before.get i
  place_lt {i j : Fin before.length} :
    i < j → key (before.get i) = key (before.get j) → place i < place j

/-- Back to the order before. -/
def Rearrangement.symm (r : Rearrangement key before after) : Rearrangement key after before where
  place := r.place.symm
  get_place i := by rw [← r.get_place, r.place.apply_symm_apply]
  place_lt := by
    intro i j hij hkey
    rcases lt_trichotomy (r.place.symm i) (r.place.symm j) with hlt | heq | hgt
    · exact hlt
    · exact absurd (r.place.symm.injective heq) hij.ne
    · have hback := r.place_lt hgt (by
        rw [← r.get_place, ← r.get_place, r.place.apply_symm_apply, r.place.apply_symm_apply, hkey])
      rw [r.place.apply_symm_apply, r.place.apply_symm_apply] at hback
      exact absurd hij hback.not_gt

/-- Elements that are picked for their key are found in the other list in the same order. -/
theorem Rearrangement.filter_sublist (r : Rearrangement key before after) {p : α → Bool}
    (hp : ∀ x y, p x = true → p y = true → key x = key y) :
    (before.filter p).Sublist (after.filter p) := by
  obtain ⟨inside, hinside⟩ := List.sublist_iff_exists_fin_orderEmbedding_get_eq.mp
    (List.filter_sublist (p := p) (l := before))
  have hpicked (i) : p (before.get (inside i)) = true := by
    rw [← hinside]
    exact (List.mem_filter.mp (List.get_mem (before.filter p) i)).2
  have hmono : StrictMono fun i => r.place (inside i) := by
    intro i j hij
    exact r.place_lt (inside.lt_iff_lt.mpr hij) (hp _ _ (hpicked i) (hpicked j))
  have hsub : (before.filter p).Sublist after := by
    apply List.sublist_iff_exists_fin_orderEmbedding_get_eq.mpr
    refine ⟨OrderEmbedding.ofStrictMono _ hmono, ?_⟩
    intro i
    rw [hinside, OrderEmbedding.coe_ofStrictMono, r.get_place]
  simpa only [List.filter_filter, Bool.and_self] using hsub.filter p

theorem Rearrangement.filter_eq (r : Rearrangement key before after) {p : α → Bool}
    (hp : ∀ x y, p x = true → p y = true → key x = key y) : after.filter p = before.filter p :=
  (r.symm.filter_sublist hp).antisymm (r.filter_sublist hp)

end Rearrangement

/-- The name that a field is grouped by. -/
def groupName (h : Header) : String := Text.lowercase h.name

theorem valuesOf_of_rearrangement {before after : List Header}
    (r : Rearrangement groupName before after) (name : String) :
    valuesOf after name = valuesOf before name := by
  have hname : ∀ h h' : Header, decide (Text.lowercase h.name = name) = true →
      decide (Text.lowercase h'.name = name) = true → groupName h = groupName h' := by
    intro h h' hh hh'
    exact (of_decide_eq_true hh).trans (of_decide_eq_true hh').symm
  rw [valuesOf, valuesOf, r.filter_eq hname]

/-! ## Fields put in -/

/-- The second list is the first with fields put in anywhere whose names are not signed. -/
inductive Extended (signed : List String) : List Header → List Header → Prop
  | nil : Extended signed [] []
  | kept {h : Header} {before after : List Header} :
      Extended signed before after → Extended signed (h :: before) (h :: after)
  | added {h : Header} {before after : List Header} : Text.lowercase h.name ∉ signed →
      Extended signed before after → Extended signed before (h :: after)

theorem valuesOf_cons (h : Header) (headers : List Header) (name : String) :
    valuesOf (h :: headers) name =
      if Text.lowercase h.name = name then Text.normalize h.value :: valuesOf headers name
      else valuesOf headers name := by
  by_cases hname : Text.lowercase h.name = name <;> simp [valuesOf, hname]

theorem valuesOf_of_extended {signed : List String} {before after : List Header}
    (h : Extended signed before after) {name : String} (hname : name ∈ signed) :
    valuesOf after name = valuesOf before name := by
  induction h with
  | nil => rfl
  | kept _ ih => rw [valuesOf_cons, valuesOf_cons, ih]
  | added hnot _ ih =>
    have hne : Text.lowercase _ ≠ name := (ne_of_mem_of_not_mem hname hnot).symm
    rw [valuesOf_cons, if_neg hne, ih]

end Headers

/-! ## The request -/

namespace CanonicalRequest

open Headers

/-- **Canonical headers without an order of fields.** The block has a line for each signed name, in
byte order and as often as it is signed, that some field has in lower case; a line is the name and
the normalized values that are given under it, in the order given. So the request stays as it is when
the signed names change their order, when fields do so and those of one name keep theirs, and when
fields are put in whose names are not signed. -/
theorem order_free (r : CanonicalRequest) :
    (∃ names : List String, names.Perm r.signed ∧ InByteOrder names ∧
      canonical r.headers r.signed = "\n".intercalate
        ((names.filter fun name => ∃ h ∈ r.headers, Text.lowercase h.name = name).map fun name =>
          name ++ ":" ++ ",".intercalate
            ((r.headers.filter fun h => Text.lowercase h.name = name).map fun h =>
              Text.normalize h.value))) ∧
    (∀ signed : List String, signed.Perm r.signed → { r with signed := signed }.text = r.text) ∧
    (∀ headers, Rearrangement groupName r.headers headers → { r with headers := headers }.text = r.text) ∧
    (∀ headers, Extended r.signed r.headers headers →
      { r with headers := headers }.text = r.text) := by
  refine ⟨?_, ?_, ?_, ?_⟩
  · refine ⟨sortNames r.signed, sortNames_perm _, inByteOrder_sortNames _, ?_⟩
    rw [canonical, canonicalLines_eq_groups]
    rfl
  · intro signed hperm
    simp only [text, canonical, signedNames, canonicalLines, sortNames_eq_of_perm hperm]
  · intro headers hplaces
    have hlines : canonicalLines headers r.signed = canonicalLines r.headers r.signed :=
      canonicalLines_congr fun name _ => valuesOf_of_rearrangement hplaces name
    simp only [text, canonical, hlines]
  · intro headers hextended
    have hlines : canonicalLines headers r.signed = canonicalLines r.headers r.signed :=
      canonicalLines_congr fun name hname => valuesOf_of_extended hextended hname
    simp only [text, canonical, hlines]

end CanonicalRequest

end SaslClient
