/-!
# Values by key

Lists of pairs serve as assignments of values to keys: the entries of a file system, the definitions of a
configuration, the names that stand for other names. The first pair of a key gives its value.

Principal result: `mem_iff_lookup_eq_some` — where no key stands twice, a pair is in the list if and only if it
gives the value of its key.
-/

namespace ConsumerCheck

variable {α β : Type} [BEq α] [LawfulBEq α] {row : List (α × β)} {key : α} {value : β}

theorem lookup_cons_eq [DecidableEq α] (e : α × β) (row : List (α × β)) (key : α) :
    (e :: row).lookup key = if key = e.1 then some e.2 else row.lookup key := by
  obtain ⟨k, value⟩ := e
  by_cases h : key = k
  · subst h
    rw [List.lookup_cons_self, if_pos rfl]
  · have hne : (key == k) = false := beq_eq_false_iff_ne.2 h
    rw [List.lookup_cons, hne, if_neg h]

theorem mem_of_lookup (h : row.lookup key = some value) : (key, value) ∈ row := by
  obtain ⟨before, after, hrow, -⟩ := List.lookup_eq_some_iff.1 h
  rw [hrow]
  exact List.mem_append_cons_self

/-- Where no key stands twice, a pair gives the value of its key. -/
theorem mem_iff_lookup_eq_some (hnodup : (row.map (·.1)).Nodup) :
    (key, value) ∈ row ↔ row.lookup key = some value := by
  refine ⟨?_, mem_of_lookup⟩
  intro hmem
  obtain ⟨before, after, rfl⟩ := List.append_of_mem hmem
  rw [List.map_append, List.map_cons, List.nodup_append] at hnodup
  rw [List.lookup_eq_some_iff]
  refine ⟨before, after, rfl, fun e he => ?_⟩
  simpa using Ne.symm (hnodup.2.2 e.1 (List.mem_map_of_mem he) key List.mem_cons_self)

end ConsumerCheck
