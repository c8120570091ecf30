/-!
# Properties

Texts by name. The names stand in byte order, each once: that is part of the data, so that setting a
property has to keep it, and whoever reads properties may rely on it.
-/

namespace SaslClient

/-- Properties by name, in byte order of the names, each name once. -/
structure Properties where
  entries : List (String × String)
  ordered : (entries.map (·.1)).Pairwise (· < ·)
deriving DecidableEq, Repr

namespace Properties

/-- No properties. -/
def empty : Properties := ⟨[], .nil⟩

/-- Entries with one more in its place in the order, or with another value for its name. -/
def insert (name value : String) : List (String × String) → List (String × String)
  | [] => [(name, value)]
  | (n, v) :: rest =>
    if n = name then (name, value) :: rest
    else if name < n then (name, value) :: (n, v) :: rest
    else (n, v) :: insert name value rest

theorem mem_names_insert {name value other : String} {entries : List (String × String)} :
    other ∈ (insert name value entries).map (·.1) ↔ other = name ∨ other ∈ entries.map (·.1) := by
  induction entries with
  | nil => simp [insert]
  | cons entry rest ih =>
    obtain ⟨n, v⟩ := entry
    unfold insert
    split
    next heq => simp [heq]
    next =>
      split
      · simp
      · simp only [List.map_cons, List.mem_cons, ih, or_left_comm]

/-- An insertion keeps the order. -/
theorem pairwise_insert {entries : List (String × String)}
    (h : (entries.map (·.1)).Pairwise (· < ·)) (name value : String) :
    ((insert name value entries).map (·.1)).Pairwise (· < ·) := by
  induction entries with
  | nil => exact List.pairwise_singleton _ name
  | cons entry rest ih =>
    obtain ⟨n, v⟩ := entry
    obtain ⟨hfirst, hrest⟩ := List.pairwise_cons.mp h
    unfold insert
    split
    next heq => exact heq ▸ h
    next hne =>
      split
      next hlt =>
        refine List.pairwise_cons.mpr ⟨?_, h⟩
        intro other hother
        rcases List.mem_cons.mp hother with rfl | hother
        · exact hlt
        · exact String.lt_trans hlt (hfirst other hother)
      next hge =>
        have hlt : n < name := by
          rcases String.le_total n name with hle | hle
          · exact Std.lt_of_le_of_ne hle hne
          · exact absurd (Std.lt_of_le_of_ne hle (Ne.symm hne)) hge
        refine List.pairwise_cons.mpr ⟨?_, ih hrest⟩
        intro other hother
        rcases mem_names_insert.mp hother with rfl | hother
        · exact hlt
        · exact hfirst other hother

/-- Sets a property, in its place in the order. -/
def set (p : Properties) (name value : String) : Properties :=
  ⟨insert name value p.entries, pairwise_insert p.ordered name value⟩

/-- The value of a property. -/
def lookup (p : Properties) (name : String) : Option String :=
  p.entries.lookup name

/-- The names, in their order. -/
def names (p : Properties) : List String :=
  p.entries.map (·.1)

end Properties

end SaslClient
