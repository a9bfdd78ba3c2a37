/-!
# Cache definitions of a configuration

`Definitions` assigns values to keys, as a `BTreeMap` does. The keys are in order and each stands once, so two
sets of definitions that assign the same values are equal.

* `Definitions.get?` — the value of a key;
* `Definitions.insert` — one key set;
* `Definitions.union` — two sets of definitions, where the second wins (`extend`).
-/

namespace ConsumerCheck

/-- Values by key, in the order of the keys. -/
structure Definitions where
  entries : List (String × String)
  sorted : entries.Pairwise fun a b => a.1 < b.1
  deriving DecidableEq, Repr

namespace Definitions

/-- No definitions. -/
def empty : Definitions := ⟨[], .nil⟩

instance : Inhabited Definitions := ⟨empty⟩

/-- The value of a key. -/
def get? (d : Definitions) (key : String) : Option String := d.entries.lookup key

/-- `entries` with the value of `key` set, in its place. -/
def insertIn (key value : String) : List (String × String) → List (String × String)
  | [] => [(key, value)]
  | (k, v) :: rest =>
    if key < k then (key, value) :: (k, v) :: rest
    else if key = k then (key, value) :: rest
    else (k, v) :: insertIn key value rest

theorem fst_mem_insertIn {key value : String} {es : List (String × String)} {a : String × String}
    (h : a ∈ insertIn key value es) : a.1 = key ∨ a ∈ es := by
  induction es with
  | nil => simp_all [insertIn]
  | cons head rest ih =>
    obtain ⟨k, v⟩ := head
    simp only [insertIn] at h
    split at h
    · simp only [List.mem_cons] at h ⊢
      rcases h with rfl | h
      · exact Or.inl rfl
      · exact Or.inr h
    · split at h
      · simp only [List.mem_cons] at h ⊢
        rcases h with rfl | h
        · exact Or.inl rfl
        · exact Or.inr (Or.inr h)
      · simp only [List.mem_cons] at h ⊢
        rcases h with rfl | h
        · exact Or.inr (Or.inl rfl)
        · exact (ih h).imp_right Or.inr

theorem sorted_insertIn {key value : String} {es : List (String × String)}
    (h : es.Pairwise fun a b => a.1 < b.1) :
    (insertIn key value es).Pairwise fun a b => a.1 < b.1 := by
  induction es with
  | nil => simp [insertIn]
  | cons head rest ih =>
    obtain ⟨k, v⟩ := head
    rw [List.pairwise_cons] at h
    obtain ⟨hk, hrest⟩ := h
    simp only [insertIn]
    split
    · rename_i hlt
      refine List.pairwise_cons.2 ⟨?_, List.pairwise_cons.2 ⟨hk, hrest⟩⟩
      intro b hb
      rcases List.mem_cons.1 hb with rfl | hb
      · exact hlt
      · exact String.lt_trans hlt (hk b hb)
    · split
      · rename_i heq
        subst heq
        exact List.pairwise_cons.2 ⟨hk, hrest⟩
      · rename_i hnlt hne
        refine List.pairwise_cons.2 ⟨?_, ih hrest⟩
        intro b hb
        rcases fst_mem_insertIn hb with hb | hb
        · rw [hb]
          exact Std.lt_of_le_of_ne (String.not_lt.1 hnlt) (Ne.symm hne)
        · exact hk b hb

/-- The definitions with the value of a key set. -/
def insert (d : Definitions) (key value : String) : Definitions :=
  ⟨insertIn key value d.entries, sorted_insertIn d.sorted⟩

/-- Both sets of definitions; where both give a value, the one of `upper` counts. -/
def union (d upper : Definitions) : Definitions :=
  upper.entries.foldl (fun d e => d.insert e.1 e.2) d

/-- The definitions of a list, where a later one wins. -/
def ofList (entries : List (String × String)) : Definitions :=
  entries.foldl (fun d e => d.insert e.1 e.2) empty

end Definitions

end ConsumerCheck
