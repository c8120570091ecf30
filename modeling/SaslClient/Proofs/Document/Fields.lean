import SaslClient.Document.Access

/-!
# Documents as lists of fields

Looking up and inserting through the view `entries`.

Main results:

* `get?_eq_lookup`: a look-up gives the value of the first field with the key.
* `entries_ofFields`: a document built from fields with different keys has exactly these fields.
* `getText_eq_error_iff`, `getBinary_eq_error_iff`: when a typed look-up fails, and how.
-/

namespace SaslClient.Document

/-- A document is determined by its fields. -/
theorem eq_of_entries_eq {d d' : Document} (h : d.entries = d'.entries) : d = d' := by
  rw [← ofEntries_entries d, h, ofEntries_entries]

/-! ## Looking up -/

theorem get?_eq_lookup (d : Document) (key : String) : d.get? key = d.entries.lookup key := by
  match d with
  | .empty => rfl
  | .field k v rest =>
    rw [get?, entries, List.lookup_cons, get?_eq_lookup rest key]
    by_cases h : k = key
    · subst h; simp
    · have hbeq : (key == k) = false := beq_eq_false_iff_ne.mpr (Ne.symm h)
      rw [if_neg h, hbeq]

theorem getText_eq_error_iff {d : Document} {key : String} {e : DocumentError} :
    d.getText key = .error e ↔
      d.get? key = none ∧ e = .missingField key ∨
      ∃ v, d.get? key = some v ∧ (∀ s, v ≠ .text s) ∧ e = .fieldType key .text := by
  have hkind (v : Value) : v.text? = none ↔ ∀ s, v ≠ .text s := by
    simp [Option.eq_none_iff_forall_ne_some]
  simp only [getText, getAs_eq_error_iff, hkind]

theorem getBinary_eq_error_iff {d : Document} {key : String} {e : DocumentError} :
    d.getBinary key = .error e ↔
      d.get? key = none ∧ e = .missingField key ∨
      ∃ v, d.get? key = some v ∧ (∀ bytes, v ≠ .binary bytes) ∧ e = .fieldType key .binary := by
  have hkind (v : Value) : v.binary? = none ↔ ∀ bytes, v ≠ .binary bytes := by
    simp [Option.eq_none_iff_forall_ne_some]
  simp only [getBinary, getAs_eq_error_iff, hkind]

/-! ## Inserting -/

theorem keys_field (key : String) (value : Value) (rest : Document) :
    (field key value rest).keys = key :: rest.keys := rfl

/-- A new key is appended. -/
theorem entries_insert_of_not_mem (d : Document) {key : String} (value : Value)
    (h : key ∉ d.keys) : (d.insert key value).entries = d.entries ++ [(key, value)] := by
  match d with
  | .empty => rfl
  | .field k v rest =>
    rw [keys_field, List.mem_cons, not_or] at h
    rw [insert, if_neg (Ne.symm h.1), entries, entries, entries_insert_of_not_mem rest value h.2,
      List.cons_append]

/-- Fields with new and different keys are appended one after the other. -/
theorem entries_foldl_insert (fields : List (String × Value)) :
    ∀ d : Document, (d.keys ++ fields.map (·.1)).Nodup →
      (fields.foldl (fun d f => d.insert f.1 f.2) d).entries = d.entries ++ fields := by
  induction fields with
  | nil => intro d _; simp
  | cons f fields ih =>
    intro d h
    have hnew : f.1 ∉ d.keys := by
      intro hmem
      have hdisjoint := (List.nodup_append.mp h).2.2
      exact hdisjoint f.1 hmem f.1 List.mem_cons_self rfl
    have hentries := entries_insert_of_not_mem d f.2 hnew
    have hkeys : (d.insert f.1 f.2).keys ++ fields.map (·.1) =
        d.keys ++ (f :: fields).map (·.1) := by
      simp [keys, hentries]
    rw [List.foldl_cons, ih (d.insert f.1 f.2) (hkeys ▸ h), hentries, List.append_assoc]
    rfl

/-- A document built from fields with different keys has exactly these fields, in order. -/
theorem entries_ofFields {fields : List (String × Value)} (h : (fields.map (·.1)).Nodup) :
    (ofFields fields).entries = fields := by
  have hfold := entries_foldl_insert fields .empty (by simpa [keys, entries] using h)
  simpa [ofFields, entries] using hfold

theorem ofFields_eq_iff {fields : List (String × Value)} (h : (fields.map (·.1)).Nodup)
    {d : Document} : ofFields fields = d ↔ d.entries = fields := by
  constructor
  · rintro rfl
    exact entries_ofFields h
  · intro hentries
    exact eq_of_entries_eq ((entries_ofFields h).trans hentries.symm)

end SaslClient.Document
