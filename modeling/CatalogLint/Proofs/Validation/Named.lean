/-
Mappings from names. The reader of a mapping takes one entry after the other; what comes out belongs to the names and
not to the order.

- `Reading.issues_namedEntries_eq`: the issues are those of keys and values, each below the step to its value.
- `Reading.exists_namedEntries_iff`: there is a result exactly when every value has one.
- `Reading.namedEntries_eq_accepted_iff`: the result has a value for the same names, each read from the mapping's value.

A schema is read in the same way (`Declaration.fields_eq_namedEntries`), so all this holds of it too.
-/
import Mathlib.Data.List.Basic
import CatalogLint.Proofs.Document.Lookup
import CatalogLint.Proofs.Schema.Depth
import CatalogLint.Validation.Catalog

namespace CatalogLint

/-! ## Checked values that are there -/

namespace Checked

variable {α β : Type}

theorem map_eq_accepted_iff {f : α → β} {x : Checked α} {b : β} :
    x.map f = .accepted b ↔ ∃ a, x = .accepted a ∧ f a = b := by
  cases x <;> simp [map]

theorem and_eq_accepted_iff {x : Checked α} {y : Checked β} {both : α × β} :
    x.and y = .accepted both ↔ x = .accepted both.1 ∧ y = .accepted both.2 := by
  cases x <;> cases y <;> simp [and, Prod.ext_iff]

theorem within_eq_accepted_iff {step : Step} {x : Checked α} {a : α} :
    x.within step = .accepted a ↔ x = .accepted a := by
  cases x <;> simp [within]

theorem ofIssues_eq_accepted_iff {l : List Issue} {u : Unit} : ofIssues l = .accepted u ↔ l = [] := by
  cases l <;> simp [ofIssues]

end Checked

/-! ## Relations between optional values -/

section

variable {α β : Type} {r s : α → β → Prop}

theorem rel_none_iff {value : Option β} : Option.Rel r none value ↔ value = none := by
  cases value with
  | none => exact ⟨fun _ => rfl, fun _ => .none⟩
  | some b => simp

theorem rel_some_iff {a : α} {value : Option β} : Option.Rel r (some a) value ↔ ∃ b, value = some b ∧ r a b := by
  cases value with
  | none => simp
  | some b => simp

theorem rel_of_isSome_iff {given : Option α} {value : Option β} (hsome : given.isSome ↔ value.isSome)
    (h : ∀ a b, given = some a → value = some b → r a b) : Option.Rel r given value := by
  cases given with
  | none =>
    rw [rel_none_iff, ← Option.not_isSome_iff_eq_none]
    exact fun hvalue => Bool.noConfusion (hsome.2 hvalue)
  | some a =>
    obtain ⟨b, rfl⟩ := Option.isSome_iff_exists.1 (hsome.1 rfl)
    exact .some (h a b rfl rfl)

theorem eq_of_rel_eq {x y : Option α} (h : Option.Rel (· = ·) x y) : x = y := by
  cases h with
  | none => rfl
  | some hab => rw [hab]

theorem rel_imp {given : Option α} {value : Option β} (h : Option.Rel r given value)
    (hrs : ∀ a b, given = some a → value = some b → r a b → s a b) : Option.Rel s given value := by
  cases h with
  | none => exact .none
  | some hab => exact .some (hrs _ _ rfl rfl hab)

/-- What stands in a relation that leaves one value is the same. -/
theorem eq_of_rel {given : Option α} {x y : Option β} (hx : Option.Rel r given x) (hy : Option.Rel r given y)
    (hunique : ∀ a, given = some a → ∀ b c, r a b → r a c → b = c) : x = y := by
  cases hx with
  | none =>
    cases hy with
    | none => rfl
  | some hb =>
    cases hy with
    | some hc => rw [hunique _ rfl _ _ hb hc]

theorem rel_congr {given : Option α} {value : Option β} (h : ∀ a, given = some a → ∀ b, r a b ↔ s a b) :
    Option.Rel r given value ↔ Option.Rel s given value := by
  cases given with
  | none => rw [rel_none_iff, rel_none_iff]
  | some a => simp only [rel_some_iff, h a rfl]

end

/-! ## Entries read one after the other -/

namespace Reading

variable {α : Type} {read : Document → Checked α} {entries : List (Scalar × Document)}

theorem nameKey_text (name : String) : nameKey (.text name) = .accepted name := rfl

theorem nameKey_eq_accepted_iff {key : Scalar} {name : String} :
    nameKey key = .accepted name ↔ text? key = some name := by
  rw [nameKey, Checked.within_eq_accepted_iff, Checked.within_eq_accepted_iff]
  unfold scalarText
  split
  · rename_i text htext
    simp [htext]
  · rename_i htext
    rw [htext]
    split <;> simp [Checked.reject]

theorem namedEntries_cons_iff {key : Scalar} {d : Document} {rest : List (Scalar × Document)} {m : NameMap α} :
    namedEntries read ((key, d) :: rest) = .accepted m ↔ ∃ name a others, text? key = some name ∧
      read d = .accepted a ∧ namedEntries read rest = .accepted others ∧ others.insertNew name a = m := by
  simp only [namedEntries, Checked.map_eq_accepted_iff, Checked.and_eq_accepted_iff, Checked.within_eq_accepted_iff,
    nameKey_eq_accepted_iff]
  constructor
  · rintro ⟨⟨⟨name, a⟩, others⟩, ⟨⟨hname, ha⟩, hrest⟩, hm⟩
    exact ⟨name, a, others, hname, ha, hrest, hm⟩
  · rintro ⟨name, a, others, hname, ha, hrest, hm⟩
    exact ⟨((name, a), others), ⟨⟨hname, ha⟩, hrest⟩, hm⟩

theorem namedEntries_cons_eq_accepted_iff {name : String} {d : Document} {rest : List (Scalar × Document)}
    {m : NameMap α} : namedEntries read ((.text name, d) :: rest) = .accepted m ↔
      ∃ a others, read d = .accepted a ∧ namedEntries read rest = .accepted others ∧ others.insertNew name a = m := by
  rw [namedEntries_cons_iff]
  constructor
  · rintro ⟨_, a, others, hkey, h⟩
    cases hkey
    exact ⟨a, others, h⟩
  · rintro ⟨a, others, h⟩
    exact ⟨name, a, others, rfl, h⟩

/-- The issues of a mapping are those of its keys and values, in turn, each below the step to its value. -/
theorem issues_namedEntries_eq (entries : List (Scalar × Document)) : (namedEntries read entries).issues =
    entries.flatMap fun e => (nameKey e.1).issues ++ (read e.2).issues.map (Issue.within (.ofKey e.1)) := by
  induction entries with
  | nil => rfl
  | cons e rest ih =>
    obtain ⟨key, d⟩ := e
    rw [namedEntries, Checked.issues_map, Checked.issues_and, Checked.issues_and, Checked.issues_within, ih,
      List.flatMap_cons]

/-- Where all keys are names, there are those of the values alone. -/
theorem issues_namedEntries (h : ∀ e ∈ entries, ∃ name, e.1 = .text name) :
    (namedEntries read entries).issues =
      entries.flatMap fun e => (read e.2).issues.map (Issue.within (.ofKey e.1)) := by
  rw [issues_namedEntries_eq]
  refine List.flatMap_congr fun e he => ?_
  obtain ⟨name, hname⟩ := h e he
  rw [hname, nameKey_text]
  rfl

theorem exists_namedEntries_iff (h : ∀ e ∈ entries, ∃ name, e.1 = .text name) :
    (∃ m, namedEntries read entries = .accepted m) ↔ ∀ e ∈ entries, ∃ a, read e.2 = .accepted a := by
  induction entries with
  | nil => exact ⟨fun _ e he => absurd he List.not_mem_nil, fun _ => ⟨_, rfl⟩⟩
  | cons e rest ih =>
    obtain ⟨key, d⟩ := e
    obtain ⟨name, hname⟩ := h (key, d) List.mem_cons_self
    simp only at hname
    subst hname
    have hrest := ih fun e he => h e (List.mem_cons_of_mem _ he)
    simp only [namedEntries_cons_eq_accepted_iff, List.forall_mem_cons, ← hrest]
    constructor
    · rintro ⟨m, a, others, ha, hothers, _⟩
      exact ⟨⟨a, ha⟩, others, hothers⟩
    · rintro ⟨⟨a, ha⟩, others, hothers⟩
      exact ⟨_, a, others, ha, hothers, rfl⟩

/-- The result has a value for the names of the mapping and no others, and each is what the name's value is read as. -/
theorem get?_namedEntries (h : Document.Keyed entries) {m : NameMap α}
    (hm : namedEntries read entries = .accepted m) (name : String) :
    Option.Rel (fun d a => read d = .accepted a) (Document.lookup? name entries) (m.get? name) := by
  induction entries generalizing m with
  | nil =>
    cases hm
    exact .none
  | cons e rest ih =>
    obtain ⟨key, d⟩ := e
    obtain ⟨first, hfirst⟩ := h.texts (key, d) List.mem_cons_self
    simp only at hfirst
    subst hfirst
    obtain ⟨a, others, ha, hothers, rfl⟩ := namedEntries_cons_eq_accepted_iff.1 hm
    have hlater := ih h.tail hothers
    rw [NameMap.get?_insertNew, Document.lookup?]
    by_cases heq : first = name
    · subst heq
      -- the name occurs here alone, so the rest has given it no value
      rw [h.lookup?_tail, rel_none_iff] at hlater
      rw [if_pos rfl, if_pos rfl, hlater]
      exact .some ha
    · have hkey : Scalar.text first ≠ .text name := fun he => heq (Scalar.text.inj he)
      rw [if_neg heq, if_neg hkey]
      exact hlater

/-- **A mapping is read as the map whose values are what the mapping's values are read as**, name by name. -/
theorem namedEntries_eq_accepted_iff (h : Document.Keyed entries) {m : NameMap α} :
    namedEntries read entries = .accepted m ↔
      ∀ name, Option.Rel (fun d a => read d = .accepted a) (Document.lookup? name entries) (m.get? name) := by
  refine ⟨get?_namedEntries h, fun hm => ?_⟩
  have hall : ∀ e ∈ entries, ∃ a, read e.2 = .accepted a := by
    intro e he
    obtain ⟨key, d⟩ := e
    obtain ⟨name, hkey⟩ := h.texts _ he
    simp only at hkey
    subst hkey
    have hname := hm name
    rw [h.lookup?_eq_some_iff.2 he, rel_some_iff] at hname
    obtain ⟨a, _, ha⟩ := hname
    exact ⟨a, ha⟩
  obtain ⟨other, hother⟩ := (exists_namedEntries_iff h.texts).2 hall
  have hsame : other = m := by
    refine NameMap.ext_get? fun name => ?_
    have hname := hm name
    have hothername := get?_namedEntries h hother name
    cases hd : Document.lookup? name entries with
    | none =>
      rw [hd, rel_none_iff] at hname hothername
      rw [hname, hothername]
    | some d =>
      rw [hd, rel_some_iff] at hname hothername
      obtain ⟨a, ha, hread⟩ := hname
      obtain ⟨b, hb, hread'⟩ := hothername
      rw [hread] at hread'
      cases hread'
      rw [ha, hb]
  rw [hother, hsame]

end Reading

/-! ## Schemas as mappings from names -/

namespace Entries

variable {α β : Type}

theorem put_map (f : α → β) (name : String) (value : α) (entries : List (String × α)) :
    put name (f value) (entries.map fun e => (e.1, f e.2)) = (put name value entries).map fun e => (e.1, f e.2) := by
  induction entries with
  | nil => rfl
  | cons e rest ih =>
    obtain ⟨n, v⟩ := e
    rw [List.map_cons, put, put]
    by_cases hlt : name < n
    · rw [if_pos hlt, if_pos hlt, List.map_cons, List.map_cons]
    · rw [if_neg hlt, if_neg hlt]
      by_cases heq : name = n
      · rw [if_pos heq, if_pos heq, List.map_cons]
      · rw [if_neg heq, if_neg heq, List.map_cons, ih]

theorem lookup?_map (f : α → β) (name : String) (entries : List (String × α)) :
    lookup? name (entries.map fun e => (e.1, f e.2)) = (lookup? name entries).map f := by
  induction entries with
  | nil => rfl
  | cons e rest ih =>
    obtain ⟨n, v⟩ := e
    rw [List.map_cons, lookup?, lookup?, ih]
    by_cases h : n = name
    · rw [if_pos h, if_pos h, Option.map_some]
    · rw [if_neg h, if_neg h]

end Entries

namespace Schema

/-- the schema with the given fields, each in order inside -/
def ofMap (m : NameMap { f : Field // f.isOrdered }) : Schema where
  fields := m.entries.map fun e => (e.1, e.2.1)
  ordered := by
    refine Fields.isOrdered_iff.2 ⟨List.pairwise_map.2 m.ordered, fun e he => ?_⟩
    obtain ⟨entry, _, rfl⟩ := List.mem_map.1 he
    exact entry.2.2

theorem lookup?_ofMap (m : NameMap { f : Field // f.isOrdered }) (name : String) :
    Entries.lookup? name (ofMap m).fields = (m.get? name).map Subtype.val :=
  Entries.lookup?_map Subtype.val name m.entries

theorem ext {a b : Schema} (h : a.fields = b.fields) : a = b := by
  cases a
  cases b
  cases h
  rfl

theorem ofMap_insertNew (m : NameMap { f : Field // f.isOrdered }) (name : String) (f : { f : Field // f.isOrdered }) :
    ofMap (m.insertNew name f) = (ofMap m).putNew name f := by
  have hsame : (ofMap m).contains name = (m.get? name).isSome := by
    rw [Schema.contains, Fields.contains, lookup?_ofMap, Option.isSome_map]
  rw [NameMap.insertNew, putNew, hsame]
  split
  · rfl
  · exact ext (Entries.put_map Subtype.val name f m.entries).symm

end Schema

namespace Declaration

theorem fields_eq_namedEntries (entries : List (Scalar × Document)) :
    fields entries = (Reading.namedEntries field entries).map Schema.ofMap := by
  induction entries with
  | nil => rw [fields]; rfl
  | cons e rest ih =>
    obtain ⟨key, d⟩ := e
    rw [fields, Reading.namedEntries, ih]
    cases (Reading.nameKey key).and ((field d).within (.ofKey key)) with
    | accepted first =>
      cases Reading.namedEntries field rest with
      | accepted others => exact congrArg Checked.accepted (Schema.ofMap_insertNew others first.1 first.2).symm
      | rejected issue issues => rfl
    | rejected issue issues => cases Reading.namedEntries field rest <;> rfl

end Declaration

end CatalogLint
