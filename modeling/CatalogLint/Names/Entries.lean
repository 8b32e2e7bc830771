/-
Entries under names: lists of pairs whose names increase strictly by code point, so that equal contents are equal
lists. `put` keeps the order (`put_ordered`) and `lookup?_put` says what it does to a look-up. Schemas use these lists
at every depth; `NameMap` wraps one with its order.
-/
namespace CatalogLint.Entries

variable {α : Type}

/-- the names increase strictly -/
def Ordered (entries : List (String × α)) : Prop := entries.Pairwise fun a b => a.1 < b.1

instance (entries : List (String × α)) : Decidable (Ordered entries) := by unfold Ordered; infer_instance

/-- the value of a name -/
def lookup? (name : String) : List (String × α) → Option α
  | [] => none
  | (n, v) :: rest => if n = name then some v else lookup? name rest

/-- gives a name a value, keeping the order of names -/
def put (name : String) (value : α) : List (String × α) → List (String × α)
  | [] => [(name, value)]
  | (n, v) :: rest =>
    if name < n then (name, value) :: (n, v) :: rest
    else if name = n then (name, value) :: rest
    else (n, v) :: put name value rest

theorem name_of_mem_put {name : String} {value : α} {entries : List (String × α)} {e : String × α}
    (h : e ∈ put name value entries) : e = (name, value) ∨ e ∈ entries := by
  induction entries with
  | nil => simpa [put] using h
  | cons entry rest ih =>
    obtain ⟨n, v⟩ := entry
    simp only [put] at h
    split at h
    · simpa using h
    · split at h
      · rcases List.mem_cons.1 h with h | h
        · exact Or.inl h
        · exact Or.inr (List.mem_cons_of_mem _ h)
      · rcases List.mem_cons.1 h with h | h
        · exact Or.inr (by simp [h])
        · exact (ih h).imp_right (List.mem_cons_of_mem _)

theorem put_ordered {name : String} {value : α} {entries : List (String × α)} (h : Ordered entries) :
    Ordered (put name value entries) := by
  induction entries with
  | nil => simp [put, Ordered]
  | cons entry rest ih =>
    obtain ⟨n, v⟩ := entry
    obtain ⟨hn, hr⟩ := List.pairwise_cons.1 h
    simp only [put]
    split
    · rename_i hlt
      refine List.pairwise_cons.2 ⟨fun e he => ?_, h⟩
      rcases List.mem_cons.1 he with rfl | he
      · exact hlt
      · exact String.lt_trans hlt (hn e he)
    · split
      · rename_i heq
        subst heq
        exact List.pairwise_cons.2 ⟨hn, hr⟩
      · refine List.pairwise_cons.2 ⟨fun e he => ?_, ih hr⟩
        rcases name_of_mem_put he with rfl | he
        · grind
        · exact hn e he

theorem lookup?_put (name other : String) (value : α) (entries : List (String × α)) :
    lookup? other (put name value entries) = if name = other then some value else lookup? other entries := by
  induction entries with
  | nil => simp [put, lookup?]
  | cons entry rest ih =>
    obtain ⟨n, v⟩ := entry
    simp only [put]
    split
    · simp [lookup?]
    · split
      · rename_i heq
        subst heq
        by_cases h : name = other <;> simp [lookup?, h]
      · simp only [lookup?, ih]
        by_cases h : n = other
        · subst h; rename_i hne; simp [hne]
        · simp [h]

theorem lookup?_isSome_iff {name : String} {entries : List (String × α)} :
    (lookup? name entries).isSome ↔ name ∈ entries.map Prod.fst := by
  induction entries with
  | nil => simp [lookup?]
  | cons entry rest ih =>
    obtain ⟨n, v⟩ := entry
    by_cases h : n = name
    · simp [lookup?, h]
    · simp only [lookup?, h, if_false, ih, List.map_cons, List.mem_cons, or_iff_right (Ne.symm h)]

theorem lookup?_eq_some_iff {name : String} {value : α} {entries : List (String × α)} (h : Ordered entries) :
    lookup? name entries = some value ↔ (name, value) ∈ entries := by
  induction entries with
  | nil => simp [lookup?]
  | cons entry rest ih =>
    obtain ⟨n, v⟩ := entry
    obtain ⟨hn, hr⟩ := List.pairwise_cons.1 h
    by_cases hname : n = name
    · subst hname
      have hrest : (n, value) ∉ rest := fun hm => String.lt_irrefl n (hn _ hm)
      simp only [lookup?, if_true, List.mem_cons, hrest, or_false, Prod.mk.injEq, true_and, Option.some.injEq]
      exact eq_comm
    · simp [lookup?, hname, ih hr, Ne.symm hname]

theorem Ordered.nodup {entries : List (String × α)} (h : Ordered entries) : entries.Nodup := by
  unfold Ordered at h
  refine h.imp ?_
  intro x y hlt heq
  exact String.lt_irrefl y.1 (heq ▸ hlt)

/-- Ordered entries with the same look-ups are the same. -/
theorem eq_of_lookup? {a b : List (String × α)} (ha : Ordered a) (hb : Ordered b)
    (h : ∀ name, lookup? name a = lookup? name b) : a = b := by
  refine List.Perm.eq_of_pairwise (fun x y _ _ hxy hyx => absurd hyx (String.lt_asymm hxy)) ha hb ?_
  refine (List.perm_ext_iff_of_nodup ha.nodup hb.nodup).2 fun ⟨n, v⟩ => ?_
  rw [← lookup?_eq_some_iff ha, ← lookup?_eq_some_iff hb, h]

end CatalogLint.Entries
