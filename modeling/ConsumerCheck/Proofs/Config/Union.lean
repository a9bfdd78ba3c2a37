import ConsumerCheck.Config.Definitions
import ConsumerCheck.Proofs.Lookup
import Mathlib.Data.List.Nodup

/-!
# Definitions in a row and definitions united

Definitions can stand in a row, where of several for one key the last counts, or be assigned to their keys. Both
are known from the values that they give to the keys.

* `inForce` — the value of a key in a row of definitions.

Principal results: `inForce_append` — the later part of a row decides each key that it has; `get?_union` — so does
the upper one of two sets of definitions; `eq_of_get?` — a set of definitions is determined by its values.
-/

namespace ConsumerCheck

/-! ## Rows of definitions -/

/-- The value of a key in a row of definitions, of which the last one for a key counts. -/
def inForce (row : List (String × String)) (key : String) : Option String := row.reverse.lookup key

variable {row : List (String × String)} {key : String}

/-- The later part of a row decides each key that it has. -/
theorem inForce_append (row row' : List (String × String)) (key : String) :
    inForce (row ++ row') key = (inForce row' key <|> inForce row key) := by
  rw [inForce, List.reverse_append, List.lookup_append, Option.or_eq_orElse]
  rfl

theorem inForce_cons (e : String × String) (row : List (String × String)) (key : String) :
    inForce (e :: row) key = (inForce row key <|> if key = e.1 then some e.2 else none) := by
  rw [← List.singleton_append, inForce_append]
  exact congrArg _ (funext fun _ => lookup_cons_eq ..)

theorem inForce_eq_none_iff : inForce row key = none ↔ key ∉ row.map (·.1) := by
  rw [inForce, List.lookup_eq_none_iff]
  simp only [List.mem_reverse, List.mem_map, not_exists, not_and, bne_iff_ne]
  exact ⟨fun h e he heq => h e he heq.symm, fun h e he heq => h e he heq.symm⟩

/-- Where no key stands twice, the only definition of a key is the last one. -/
theorem inForce_eq_lookup (h : (row.map (·.1)).Nodup) : inForce row key = row.lookup key := by
  induction row with
  | nil => rfl
  | cons e row ih =>
    rw [List.map_cons, List.nodup_cons] at h
    rw [inForce_cons, lookup_cons_eq]
    by_cases hk : key = e.1
    · subst hk
      rw [inForce_eq_none_iff.2 h.1, if_pos rfl, if_pos rfl]
      rfl
    · rw [if_neg hk, if_neg hk, ih h.2]
      cases row.lookup key <;> rfl

namespace Definitions

theorem lookup_insertIn (k value : String) (es : List (String × String)) (key : String) :
    (insertIn k value es).lookup key = if key = k then some value else es.lookup key := by
  induction es with
  | nil => exact lookup_cons_eq ..
  | cons head rest ih =>
    obtain ⟨a, v⟩ := head
    unfold insertIn
    split
    · exact lookup_cons_eq ..
    · split
      · rename_i heq
        subst heq
        rw [lookup_cons_eq, lookup_cons_eq]
        split <;> rfl
      · rename_i hne
        rw [lookup_cons_eq, lookup_cons_eq, ih]
        -- the definition that stays in front is of another key
        by_cases ha : key = a
        · rw [if_pos ha, if_pos ha, if_neg fun hk => hne (hk.symm.trans ha)]
        · rw [if_neg ha, if_neg ha]

theorem get?_insert (d : Definitions) (k value key : String) :
    (d.insert k value).get? key = if key = k then some value else d.get? key :=
  lookup_insertIn ..

/-- Definitions that are set one after the other count as they do in a row. -/
theorem get?_foldl_insert (row : List (String × String)) (d : Definitions) (key : String) :
    (row.foldl (fun d e => d.insert e.1 e.2) d).get? key = (inForce row key <|> d.get? key) := by
  induction row generalizing d with
  | nil => rfl
  | cons e row ih =>
    rw [List.foldl_cons, ih, get?_insert, inForce_cons]
    cases inForce row key with
    | some v => rfl
    | none => split <;> rfl

theorem nodup_keys (d : Definitions) : (d.entries.map (·.1)).Nodup := by
  rw [List.Nodup, List.pairwise_map]
  refine d.sorted.imp ?_
  intro a b hlt heq
  exact String.lt_irrefl _ (heq ▸ hlt)

/-- **Of two sets of definitions the upper one decides each key that it has.** -/
theorem get?_union (d upper : Definitions) (key : String) :
    (d.union upper).get? key = (upper.get? key <|> d.get? key) := by
  rw [union, get?_foldl_insert, inForce_eq_lookup upper.nodup_keys]
  rfl

theorem mem_entries_iff (d : Definitions) {key value : String} :
    (key, value) ∈ d.entries ↔ d.get? key = some value :=
  mem_iff_lookup_eq_some d.nodup_keys

/-- Two sets of definitions that give every key the same value are the same. -/
theorem eq_of_get? {d d' : Definitions} (h : ∀ key, d.get? key = d'.get? key) : d = d' := by
  have hentries : d.entries = d'.entries := by
    have hperm : d.entries.Perm d'.entries := by
      rw [List.perm_ext_iff_of_nodup d.nodup_keys.of_map d'.nodup_keys.of_map]
      rintro ⟨key, value⟩
      rw [mem_entries_iff, mem_entries_iff, h]
    refine hperm.eq_of_pairwise ?_ d.sorted d'.sorted
    intro a b _ _ hab hba
    exact absurd hba (String.lt_asymm hab)
  cases d
  cases d'
  cases hentries
  rfl

end Definitions

end ConsumerCheck
