/-!
# Ordered tables

A table maps names to values and remembers in which order the names first came.
Setting a name again gives it another value in its old place. Variables,
attributes and substitutions are tables.

* `keys_set`, `get?_set`: what setting a name does to the order and to the
  values.
-/

namespace InstallerKit

/-- Names with values, in the order in which the names first came. -/
structure Table (α : Type) where
  entries : List (String × α)
  /-- No name comes twice. -/
  distinct : (entries.map Prod.fst).Nodup
  deriving DecidableEq, Repr

namespace Table

variable {α : Type}

/-- The table without entries. -/
def empty : Table α := ⟨[], List.nodup_nil⟩

instance : Inhabited (Table α) := ⟨empty⟩

/-- The names of a table, in order. -/
def keys (t : Table α) : List String :=
  t.entries.map Prod.fst

/-- The value of a name. -/
def get? (t : Table α) (key : String) : Option α :=
  t.entries.lookup key

def contains (t : Table α) (key : String) : Bool :=
  t.keys.contains key

def size (t : Table α) : Nat :=
  t.entries.length

def isEmpty (t : Table α) : Bool :=
  t.entries.isEmpty

/-- The entries after giving `key` the value `value`: in its place if the key is
    there, at the end otherwise. -/
def put {κ : Type} [BEq κ] (key : κ) (value : α) : List (κ × α) → List (κ × α)
  | [] => [(key, value)]
  | (k, v) :: rest => if k == key then (k, value) :: rest else (k, v) :: put key value rest

theorem map_fst_put (key : String) (value : α) (entries : List (String × α)) :
    (put key value entries).map Prod.fst =
      if key ∈ entries.map Prod.fst then entries.map Prod.fst
      else entries.map Prod.fst ++ [key] := by
  induction entries with
  | nil => rfl
  | cons e rest ih =>
    obtain ⟨k, v⟩ := e
    by_cases h : k = key
    · simp [put, h]
    · have hb : (k == key) = false := by simpa using h
      simp only [put, hb, Bool.false_eq_true, if_false, List.map_cons, ih, List.mem_cons,
        Ne.symm h, false_or]
      split <;> simp

/-- Gives a name a value. -/
def set (t : Table α) (key : String) (value : α) : Table α where
  entries := put key value t.entries
  distinct := by
    have h := t.distinct
    rw [map_fst_put]
    split
    · exact h
    · rename_i hk
      exact List.nodup_append.2 ⟨h, by simp, by
        intro a ha b hb
        rw [List.mem_singleton.1 hb]
        rintro rfl
        exact hk ha⟩

/-- The table of a list of settings, made one after the other. -/
def ofList (settings : List (String × α)) : Table α :=
  settings.foldl (fun t (k, v) => t.set k v) empty

theorem keys_set (t : Table α) (key : String) (value : α) :
    (t.set key value).keys = if key ∈ t.keys then t.keys else t.keys ++ [key] :=
  map_fst_put key value t.entries

theorem lookup_put {κ : Type} [BEq κ] [LawfulBEq κ] [DecidableEq κ] (key other : κ) (value : α)
    (entries : List (κ × α)) :
    (put key value entries).lookup other =
      if other = key then some value else entries.lookup other := by
  induction entries with
  | nil =>
    by_cases h : other = key
    · simp [put, h]
    · have hb : (other == key) = false := by simpa using h
      simp [put, List.lookup_cons, hb, h]
  | cons e rest ih =>
    obtain ⟨k, v⟩ := e
    by_cases hk : k = key
    · subst hk
      by_cases h : other = k
      · simp [put, h]
      · have hb : (other == k) = false := by simpa using h
        simp [put, List.lookup_cons, hb, h]
    · have hkb : (k == key) = false := by simpa using hk
      by_cases h : other = k
      · subst h
        simp [put, hk]
      · have hb : (other == k) = false := by simpa using h
        simp [put, hkb, List.lookup_cons, hb, ih]

theorem get?_set (t : Table α) (key other : String) (value : α) :
    (t.set key value).get? other = if other = key then some value else t.get? other :=
  lookup_put key other value t.entries

end Table

end InstallerKit
