import Mathlib.Data.List.Basic
import Mathlib.Data.List.Nodup
import SaslClient.Proofs.Document.Fields

/-!
# Documents under insertion

Insertion finds the same field as looking up, the first one with the key. It replaces the value of
that field where it stands, or else appends a field, so a document is a map that keeps the order in
which its keys came. Documents that were read may hold a key more than once; the later fields with
it are never reached.

One insertion is described through the list of fields, and what a sequence of them gives follows
by induction on the sequence.

Main results:

* `entries_insert_of_mem`, `keys_insert`, `get?_insert`: what one insertion changes.
* `keys_insertAll`, `get?_insertAll`, `getElem?_entries_insertAll`: what a sequence changes.
* `insertAll_orderedMap`: the keys, the values and the untouched fields after any sequence.
-/

namespace SaslClient.Document

/-! ## One insertion -/

/-- The value of the first field with the key is replaced where it stands. -/
theorem entries_insert_of_mem (d : Document) {key : String} (value : Value) (h : key ∈ d.keys) :
    (d.insert key value).entries = d.entries.set (d.keys.idxOf key) (key, value) := by
  match d with
  | .empty => exact absurd h List.not_mem_nil
  | .field k v rest =>
    rw [keys_field] at h ⊢
    by_cases hk : k = key
    · subst hk
      rw [insert, if_pos rfl, List.idxOf_cons_self, entries, entries, List.set_cons_zero]
    · have hrest : key ∈ rest.keys := (List.mem_cons.mp h).resolve_left (Ne.symm hk)
      rw [insert, if_neg hk, List.idxOf_cons_ne _ hk, entries, entries, List.set_cons_succ,
        entries_insert_of_mem rest value hrest]

theorem keys_insert (d : Document) (key : String) (value : Value) :
    (d.insert key value).keys = if key ∈ d.keys then d.keys else d.keys ++ [key] := by
  by_cases h : key ∈ d.keys
  · have hlt : d.keys.idxOf key < d.keys.length := List.idxOf_lt_length_iff.mpr h
    have hkey : d.keys[d.keys.idxOf key] = key := List.getElem_idxOf hlt
    have hset : d.keys.set (d.keys.idxOf key) key = d.keys := by
      have hself := List.set_getElem_self hlt
      rwa [hkey] at hself
    rw [if_pos h, keys, entries_insert_of_mem d value h, List.map_set]
    exact hset
  · rw [if_neg h, keys, entries_insert_of_not_mem d value h, List.map_append]
    rfl

theorem get?_insert (d : Document) (key : String) (value : Value) (other : String) :
    (d.insert key value).get? other = if key = other then some value else d.get? other := by
  by_cases h : key = other
  · subst h
    rw [if_pos rfl, get?_insert_self]
  · rw [if_neg h, get?_insert_of_ne d value h]

theorem getElem?_keys_of_entries {d : Document} {i : Nat} {key : String} {value : Value}
    (h : d.entries[i]? = some (key, value)) : d.keys[i]? = some key := by
  rw [keys, List.getElem?_map, h]
  rfl

/-- A field keeps its place and its value unless it is the first one with the inserted key. -/
theorem getElem?_entries_insert {d : Document} {i : Nat} {k : String} {v : Value}
    (h : d.entries[i]? = some (k, v)) {key : String} (value : Value)
    (hother : key = k → d.keys.idxOf k ≠ i) : (d.insert key value).entries[i]? = some (k, v) := by
  by_cases hmem : key ∈ d.keys
  · have hne : d.keys.idxOf key ≠ i := by
      rintro rfl
      -- the field at the place of the first one with the key has this key
      have hfound : d.keys[d.keys.idxOf key]? = some key := List.getElem?_idxOf hmem
      rw [getElem?_keys_of_entries h] at hfound
      obtain rfl : k = key := Option.some.inj hfound
      exact hother rfl rfl
    rw [entries_insert_of_mem d value hmem, List.getElem?_set_ne hne, h]
  · have hlt : i < d.entries.length := (List.getElem?_eq_some_iff.mp h).1
    rw [entries_insert_of_not_mem d value hmem, List.getElem?_append_left hlt, h]

/-! ## A sequence of insertions -/

/-- The document after inserting these fields in turn. -/
def insertAll (d : Document) (fields : List (String × Value)) : Document :=
  fields.foldl (fun d f => d.insert f.1 f.2) d

theorem insertAll_nil (d : Document) : d.insertAll [] = d := rfl

theorem insertAll_cons (d : Document) (f : String × Value) (fields : List (String × Value)) :
    d.insertAll (f :: fields) = (d.insert f.1 f.2).insertAll fields := rfl

/-- New keys are appended in the order in which each is inserted for the first time. -/
theorem keys_insertAll (d : Document) (fields : List (String × Value)) :
    (d.insertAll fields).keys =
      d.keys ++ ((fields.map Prod.fst).filter (· ∉ d.keys)).eraseDups := by
  induction fields generalizing d with
  | nil => simp [insertAll_nil]
  | cons f fields ih =>
    rw [insertAll_cons, ih, keys_insert, List.map_cons]
    by_cases h : f.1 ∈ d.keys
    · rw [if_pos h, List.filter_cons_of_neg (by simpa using h)]
    · -- from now on the key is no longer new, as if it had been inserted once only
      rw [if_neg h, List.filter_cons_of_pos (by simpa using h), List.eraseDups_cons,
        List.filter_filter, List.append_assoc, List.singleton_append]
      congr 4
      funext key
      rw [Bool.eq_iff_iff]
      simp [and_comm]

theorem get?_insertAll (d : Document) (fields : List (String × Value)) (key : String) :
    (d.insertAll fields).get? key = (fields.reverse.lookup key).or (d.get? key) := by
  induction fields generalizing d with
  | nil => rfl
  | cons f fields ih =>
    obtain ⟨k, v⟩ := f
    rw [insertAll_cons, ih, get?_insert, List.reverse_cons, List.lookup_append, Option.or_assoc]
    congr 1
    by_cases h : k = key
    · simp [h]
    · have hbeq : (key == k) = false := beq_eq_false_iff_ne.mpr (Ne.symm h)
      simp [h, List.lookup_cons, hbeq]

/-- A field keeps its place and its value unless it is the first one with an inserted key. -/
theorem getElem?_entries_insertAll {d : Document} {i : Nat} {k : String} {v : Value}
    {fields : List (String × Value)} (h : d.entries[i]? = some (k, v))
    (hother : k ∈ fields.map Prod.fst → d.keys.idxOf k ≠ i) :
    (d.insertAll fields).entries[i]? = some (k, v) := by
  induction fields generalizing d with
  | nil => exact h
  | cons f fields ih =>
    rw [List.map_cons, List.mem_cons] at hother
    have hstep : (d.insert f.1 f.2).entries[i]? = some (k, v) :=
      getElem?_entries_insert h f.2 fun hk => hother (.inl hk.symm)
    -- the first field with the key stays where it is, since insertion only appends keys
    have hmem : k ∈ d.keys := List.mem_of_getElem? (getElem?_keys_of_entries h)
    have hfirst : (d.insert f.1 f.2).keys.idxOf k = d.keys.idxOf k := by
      rw [keys_insert]
      split
      · rfl
      · exact List.idxOf_append_of_mem hmem
    rw [insertAll_cons]
    refine ih hstep fun hlater => ?_
    rw [hfirst]
    exact hother (.inr hlater)

/-- Insertion brings no key a second time. -/
theorem nodup_keys_insertAll {d : Document} (h : d.keys.Nodup) (fields : List (String × Value)) :
    (d.insertAll fields).keys.Nodup := by
  induction fields generalizing d with
  | nil => exact h
  | cons f fields ih =>
    refine ih ?_
    rw [keys_insert]
    split
    · exact h
    next hnew => exact List.nodup_append_comm.mp (List.nodup_cons.mpr ⟨hnew, h⟩)

theorem lookup_reverse_of_notMem {fields : List (String × Value)} {key : String}
    (h : key ∉ fields.map Prod.fst) : fields.reverse.lookup key = none := by
  rw [List.lookup_eq_none_iff]
  intro f hf
  rw [bne_iff_ne]
  rintro rfl
  exact h (List.mem_map_of_mem (List.mem_reverse.mp hf))

/-- The last value that is inserted under a key is the one that is found. -/
theorem get?_insertAll_of_last (d : Document) {before after : List (String × Value)} {key : String}
    {value : Value} (h : key ∉ after.map Prod.fst) :
    (d.insertAll (before ++ (key, value) :: after)).get? key = some value := by
  rw [get?_insertAll, List.reverse_append, List.reverse_cons, List.append_assoc,
    List.lookup_append, lookup_reverse_of_notMem h, List.singleton_append, List.lookup_cons_self]
  rfl

/-- **A document is a map that keeps the order of its keys.** Whatever fields are inserted, the keys
are those that were there, in their order, and behind them the new ones, each once, in the order in
which they were inserted for the first time. Under an inserted key the last value that was inserted
under it is found, and under any other key what was found before. Every field that was there and is
not the first one with an inserted key stays where it is as it is. So a document that is built from
the empty one has no key twice. -/
theorem insertAll_orderedMap (d : Document) (fields : List (String × Value)) :
    (d.insertAll fields).keys =
      d.keys ++ ((fields.map Prod.fst).filter (· ∉ d.keys)).eraseDups ∧
    (∀ before key value after, fields = before ++ (key, value) :: after →
      key ∉ after.map Prod.fst → (d.insertAll fields).get? key = some value) ∧
    (∀ key, key ∉ fields.map Prod.fst → (d.insertAll fields).get? key = d.get? key) ∧
    (∀ i key value, d.entries[i]? = some (key, value) →
      (key ∈ fields.map Prod.fst → d.keys.idxOf key ≠ i) →
      (d.insertAll fields).entries[i]? = some (key, value)) ∧
    (ofFields fields).keys.Nodup := by
  refine ⟨keys_insertAll d fields, ?_, ?_, ?_, ?_⟩
  · rintro before key value after rfl hlast
    exact get?_insertAll_of_last d hlast
  · intro key hkey
    rw [get?_insertAll, lookup_reverse_of_notMem hkey, Option.none_or]
  · intro i key value hfield hother
    exact getElem?_entries_insertAll hfield hother
  · exact nodup_keys_insertAll (d := .empty) List.nodup_nil fields

/-- A document with a key twice, after one insertion under that key and two under a new one. -/
theorem insertAll_orderedMap_of_repeated :
    let d := ofEntries [("a", .null), ("b", .null), ("a", .bool true)]
    let fields := [("c", .null), ("a", .bool false), ("c", .bool true)]
    (d.insertAll fields).keys = ["a", "b", "a", "c"] ∧
      (d.insertAll fields).get? "a" = some (.bool false) ∧
      (d.insertAll fields).get? "b" = some .null ∧
      (d.insertAll fields).get? "c" = some (.bool true) ∧
      (d.insertAll fields).entries[2]? = some ("a", .bool true) := by
  intro d fields
  obtain ⟨hkeys, hlast, hother, hplace, -⟩ := insertAll_orderedMap d fields
  refine ⟨?_, ?_, ?_, ?_, ?_⟩
  · rw [hkeys]
    decide
  · exact hlast [("c", .null)] "a" (.bool false) [("c", .bool true)] rfl (by decide)
  · rw [hother "b" (by decide)]
    rfl
  · exact hlast [("c", .null), ("a", .bool false)] "c" (.bool true) [] rfl List.not_mem_nil
  · exact hplace 2 "a" (.bool true) rfl (by decide)

end SaslClient.Document
