/-
Where a walk calls its visitor, and where look-ups lead. `Schema.calls` lists the calls of a walk that nothing stops; a
walk that is stopped at one of them reports the path (`Schema.pathAfter?`). `Schema.Meets` puts both together.

- `Schema.meets_iff`: the calls are the stops of the walk, one after the other.
- `Schema.eq_of_path_eq`: no two stops have the same path.
- `Fields.descend_append`, `Fields.descend_stuck_iff`: a descent goes on from where it has come to, and where it gets
  stuck it does so at a single name.
- `Schema.walkIsDescent`: so the walk makes one call for each path along which a descent leads to a field, on this
  field, and no other call.
-/
import CatalogLint.Proofs.Schema.FlatSearch
import Mathlib.Data.List.Nodup

namespace CatalogLint

/-! ## The calls of a walk -/

/-- reports the field that is seen after a number of others -/
def Visitor.stopAfter (earlier : Nat) : Visitor Nat := fun name _ seen =>
  (if seen = earlier then some ⟨.plain, name, "", []⟩ else none, seen + 1)

namespace Schema

/-- the calls of a walk with a visitor that never reports anything -/
def calls (s : Schema) : List (String × Field) :=
  ((s.walk (Visitor.recorded fun _ _ => (pure none : StateM Unit (Option Violation)))).run ([], ())).2.1

/-- the path that is reported when a walk is stopped after a number of calls -/
def pathAfter? (s : Schema) (earlier : Nat) : Option (List String) :=
  ((s.walk (Visitor.stopAfter earlier)).run 0).1.map Violation.fieldPath

/-- after a number of calls, the walk calls its visitor on a field at a path, under the last of the names -/
structure Meets (s : Schema) (earlier : Nat) (path : List String) (field : Field) : Prop where
  called : ∃ outer name, path = outer ++ [name] ∧ s.calls[earlier]? = some (name, field)
  reported : s.pathAfter? earlier = some path

theorem calls_eq (s : Schema) : s.calls = s.visits.map fun v => (v.name, v.field) := by
  obtain ⟨calls, rest, result, hstops, hends, _, hrecorded⟩ :=
    Visitor.search_calls_prefix (fun _ _ => (pure none : StateM Unit (Option Violation))) s.visits ()
  have hcalls : s.calls = calls.map fun v => (v.name, v.field) := by
    rw [Schema.calls, walk_eq_search, hrecorded]
    rfl
  rcases hends with ⟨hrest, _, _⟩ | ⟨before, v, violation, _, _, hanswer, _⟩
  · rw [hcalls, hstops, hrest, List.append_nil]
  · cases hanswer

/-- A search that is to stop after `k` more calls reports the stop at that place, if there are enough. -/
theorem fieldPath_search_stopAfter (stops : List Visit) (seen k : Nat) :
    ((Visit.search (Visitor.stopAfter (seen + k)) stops).run seen).1.map Violation.fieldPath =
      stops[k]?.map Visit.path := by
  induction stops generalizing seen k with
  | nil => rfl
  | cons v rest ih =>
    cases k with
    | zero =>
      have hstop : (Visitor.stopAfter (seen + 0)).answer seen [] v = some ⟨.plain, v.name, "", []⟩ := if_pos rfl
      rw [Visitor.run_search_violation hstop]
      simp [Violation.fieldPath, Visit.report, Visit.path]
    | succ k =>
      have hlater : seen + (k + 1) = seen + 1 + k := by omega
      have hpass : (Visitor.stopAfter (seen + (k + 1))).answer seen [] v = none :=
        if_neg (show seen ≠ seen + (k + 1) by omega)
      have hnext : (Visitor.stopAfter (seen + (k + 1))).after seen [v] = seen + 1 := rfl
      rw [Visitor.run_search_pass hpass, hnext, hlater, ih, List.getElem?_cons_succ]

theorem pathAfter?_eq (s : Schema) (earlier : Nat) : s.pathAfter? earlier = s.visits[earlier]?.map Visit.path := by
  have h := fieldPath_search_stopAfter s.visits 0 earlier
  rw [Nat.zero_add] at h
  rw [pathAfter?, walk_eq_search, h]

/-- **The calls of a walk are its stops**, one after the other. -/
theorem meets_iff {s : Schema} {earlier : Nat} {path : List String} {field : Field} :
    s.Meets earlier path field ↔ ∃ v, s.visits[earlier]? = some v ∧ v.path = path ∧ v.field = field := by
  constructor
  · rintro ⟨⟨_, name, _, hcalled⟩, hreported⟩
    rw [calls_eq, List.getElem?_map, Option.map_eq_some_iff] at hcalled
    rw [pathAfter?_eq, Option.map_eq_some_iff] at hreported
    obtain ⟨v, hv, hcall⟩ := hcalled
    obtain ⟨w, hw, hpath⟩ := hreported
    cases hv.symm.trans hw
    exact ⟨v, hv, hpath, congrArg Prod.snd hcall⟩
  · rintro ⟨v, hv, rfl, rfl⟩
    refine ⟨⟨_, v.name, rfl, ?_⟩, ?_⟩
    · rw [calls_eq, List.getElem?_map, hv]
      rfl
    · rw [pathAfter?_eq, hv]
      rfl

/-! ## Each path once -/

theorem paths_nodup (s : Schema) : (s.visits.map Visit.path).Nodup := by
  refine List.pairwise_map.2 ((Fields.visits_ordered s.ordered).imp fun {v w} hlt heq => ?_)
  rw [heq] at hlt
  exact List.lt_irrefl _ hlt

/-- No two stops have the same path. -/
theorem eq_of_path_eq {s : Schema} {v w : Visit} (hv : v ∈ s.visits) (hw : w ∈ s.visits) (h : v.path = w.path) :
    v = w :=
  List.inj_on_of_nodup_map s.paths_nodup hv hw h

theorem Meets.unique {s : Schema} {earlier other : Nat} {path : List String} {field field' : Field}
    (h : s.Meets earlier path field) (h' : s.Meets other path field') : other = earlier := by
  have hlt : earlier < (s.visits.map Visit.path).length := by
    obtain ⟨v, hv, _⟩ := meets_iff.1 h
    simpa using (List.getElem?_eq_some_iff.1 hv).1
  refine ((List.getElem?_inj hlt s.paths_nodup).1 ?_).symm
  rw [List.getElem?_map, List.getElem?_map, ← pathAfter?_eq, ← pathAfter?_eq, h.reported, h'.reported]

theorem exists_meets_iff {s : Schema} {path : List String} {field : Field} :
    (∃ earlier, s.Meets earlier path field) ↔ ∃ outer name, path = outer ++ [name] ∧ s.Leads outer name field := by
  simp only [meets_iff, leads_iff]
  constructor
  · rintro ⟨earlier, v, hv, rfl, rfl⟩
    exact ⟨_, v.name, rfl, v.parents, rfl, Fields.mem_visits.1 (List.mem_of_getElem? hv)⟩
  · rintro ⟨outer, name, rfl, parents, rfl, ha⟩
    have hmem : (⟨parents, name, field⟩ : Visit) ∈ s.visits := Fields.mem_visits.2 ha
    obtain ⟨earlier, hearlier⟩ := List.mem_iff_getElem?.1 hmem
    exact ⟨earlier, _, hearlier, rfl, rfl⟩

end Schema

/-! ## Descents -/

namespace Fields

/-- A descent goes on from the fields that it has come to, and stays where it is stuck. -/
theorem descend_append (fields : Fields) (before after : List String) :
    fields.descend (before ++ after) = match fields.descend before with
      | .ok (some level) => level.descend after
      | stuck => stuck := by
  induction before generalizing fields with
  | nil => rfl
  | cons name rest ih =>
    simp only [List.cons_append, descend]
    cases fields.get name with
    | error e => rfl
    | ok field =>
      cases hn : field.nested? with
      | none => simp [hn]
      | some elem => simpa [hn] using ih elem

/-- A descent that does not come through is stuck at one of its names. -/
theorem descend_stuck_iff {fields : Fields} {path : List String} {stuck : Except MissingField (Option Fields)}
    (hstuck : ∀ level, stuck ≠ .ok (some level)) : fields.descend path = stuck ↔
      ∃ outer name after level, path = outer ++ name :: after ∧ fields.descend outer = .ok (some level) ∧
        level.descend [name] = stuck := by
  constructor
  · intro h
    induction path generalizing fields with
    | nil => exact absurd h.symm (hstuck fields)
    | cons name rest ih =>
      have hsplit := fields.descend_append [name] rest
      rw [List.singleton_append, h] at hsplit
      cases hfirst : fields.descend [name] with
      | error e =>
        rw [hfirst] at hsplit
        exact ⟨[], name, rest, fields, rfl, rfl, hfirst.trans hsplit.symm⟩
      | ok inner? =>
        cases inner? with
        | none =>
          rw [hfirst] at hsplit
          exact ⟨[], name, rest, fields, rfl, rfl, hfirst.trans hsplit.symm⟩
        | some inner =>
          rw [hfirst] at hsplit
          obtain ⟨outer, last, after, level, rfl, hdown, hlast⟩ := ih hsplit.symm
          refine ⟨name :: outer, last, after, level, rfl, ?_, hlast⟩
          have hon := fields.descend_append [name] outer
          rw [hfirst] at hon
          exact hon.trans hdown
  · rintro ⟨outer, name, after, level, rfl, hdown, hlast⟩
    rw [descend_append, hdown]
    have hon := level.descend_append [name] after
    rw [hlast] at hon
    refine hon.trans ?_
    split
    · exact absurd rfl (hstuck _)
    · rfl

theorem descend_singleton (fields : Fields) (name : String) :
    fields.descend [name] = (fields.get name).map Field.nested? := by
  rw [descend]
  cases fields.get name with
  | error e => rfl
  | ok field => cases hn : field.nested? <;> simp [Except.map, descend, hn]

theorem get_eq_error_iff {fields : Fields} {name : String} {e : MissingField} :
    fields.get name = .error e ↔ name ∉ fields.names ∧ e = ⟨name⟩ := by
  rw [names, ← Entries.lookup?_isSome_iff, get]
  cases Entries.lookup? name fields <;> simp [eq_comm]

theorem descend_singleton_eq_ok_iff {fields : Fields} {name : String} {inner? : Option Fields} :
    fields.descend [name] = .ok inner? ↔ ∃ field, fields.get name = .ok field ∧ field.nested? = inner? := by
  rw [descend_singleton]
  cases fields.get name <;> simp [Except.map]

theorem descend_singleton_eq_error_iff {fields : Fields} {name : String} {e : MissingField} :
    fields.descend [name] = .error e ↔ name ∉ fields.names ∧ e = ⟨name⟩ := by
  rw [← get_eq_error_iff, descend_singleton]
  cases fields.get name <;> simp [Except.map]

theorem descend_concat_eq_some_iff {fields : Fields} {outer : List String} {name : String} {level : Fields} :
    fields.descend (outer ++ [name]) = .ok (some level) ↔ ∃ before field, fields.descend outer = .ok (some before) ∧
      before.get name = .ok field ∧ field.nested? = some level := by
  rw [descend_append]
  cases fields.descend outer with
  | error e => simp
  | ok before? =>
    cases before? with
    | none => simp
    | some before => simp [descend_singleton_eq_ok_iff]

end Fields

/-! ## Walks and descents -/

namespace Schema

theorem exists_meets_concat_iff {s : Schema} {outer : List String} {name : String} {field : Field} :
    (∃ earlier, s.Meets earlier (outer ++ [name]) field) ↔ s.Leads outer name field := by
  rw [exists_meets_iff]
  constructor
  · rintro ⟨outer', name', hpath, hleads⟩
    obtain ⟨rfl, hname⟩ := List.append_inj' hpath rfl
    cases hname
    exact hleads
  · intro hleads
    exact ⟨outer, name, rfl, hleads⟩

theorem Meets.path_ne_nil {s : Schema} {earlier : Nat} {path : List String} {field : Field}
    (h : s.Meets earlier path field) : path ≠ [] := by
  obtain ⟨outer, name, rfl, _⟩ := h.called
  simp

/-- A descent comes through exactly to the elements of the fields that the walk meets, besides the first level. -/
theorem descend_eq_some_iff {s : Schema} {path : List String} {level : Fields} :
    s.descend path = .ok (some level) ↔ (path = [] ∧ level = s.fields) ∨
      ∃ earlier field, s.Meets earlier path field ∧ field.nested? = some level := by
  rcases List.eq_nil_or_concat path with rfl | ⟨outer, name, rfl⟩
  · constructor
    · intro h
      cases h
      exact Or.inl ⟨rfl, rfl⟩
    · rintro (⟨_, rfl⟩ | ⟨_, _, hmeets, _⟩)
      · rfl
      · exact absurd rfl hmeets.path_ne_nil
  · rw [List.concat_eq_append, descend, Fields.descend_concat_eq_some_iff]
    constructor
    · rintro ⟨before, field, hdown, hget, hnested⟩
      obtain ⟨earlier, hmeets⟩ := exists_meets_concat_iff.2 ⟨before, hdown, hget⟩
      exact Or.inr ⟨earlier, field, hmeets, hnested⟩
    · rintro (⟨hnil, _⟩ | ⟨earlier, field, hmeets, hnested⟩)
      · simp at hnil
      · obtain ⟨before, hdown, hget⟩ := exists_meets_concat_iff.1 ⟨earlier, hmeets⟩
        exact ⟨before, field, hdown, hget, hnested⟩

/-- A descent ends without fields exactly where it comes by a field that declares no elements. -/
theorem descend_eq_none_iff {s : Schema} {path : List String} :
    s.descend path = .ok none ↔ ∃ before after earlier field, path = before ++ after ∧ s.Meets earlier before field ∧
      field.nested? = none := by
  rw [descend, Fields.descend_stuck_iff (by simp)]
  constructor
  · rintro ⟨outer, name, after, level, rfl, hdown, hlast⟩
    obtain ⟨field, hget, hnested⟩ := Fields.descend_singleton_eq_ok_iff.1 hlast
    obtain ⟨earlier, hmeets⟩ := exists_meets_concat_iff.2 ⟨level, hdown, hget⟩
    exact ⟨outer ++ [name], after, earlier, field, by simp, hmeets, hnested⟩
  · rintro ⟨before, after, earlier, field, rfl, hmeets, hnested⟩
    obtain ⟨outer, name, rfl, level, hdown, hget⟩ := exists_meets_iff.1 ⟨earlier, hmeets⟩
    exact ⟨outer, name, after, level, by simp, hdown, Fields.descend_singleton_eq_ok_iff.2 ⟨field, hget, hnested⟩⟩

/-- A descent misses a name exactly where it comes to fields without this name. -/
theorem descend_eq_error_iff {s : Schema} {path : List String} {e : MissingField} :
    s.descend path = .error e ↔ ∃ outer name after level, path = outer ++ name :: after ∧
      s.descend outer = .ok (some level) ∧ name ∉ level.names ∧ e = ⟨name⟩ := by
  rw [descend, Fields.descend_stuck_iff (by simp)]
  simp only [Fields.descend_singleton_eq_error_iff]
  rfl

/-- what is to be shown of the calls of a walk and of descents by names: the walk makes one call for each path along
which a descent leads to a field, on this field, and no other; and a descent comes through, is out of fields, or misses a
name, as the fields on its way have it -/
structure WalkIsDescent (s : Schema) : Prop where
  calls : ∀ earlier, earlier < s.calls.length ↔ ∃ path field, s.Meets earlier path field
  once : ∀ earlier other path field field', s.Meets earlier path field → s.Meets other path field' → other = earlier
  leads : ∀ path field, (∃ earlier, s.Meets earlier path field) ↔
    ∃ outer name, path = outer ++ [name] ∧ s.Leads outer name field
  through : ∀ path level, s.descend path = .ok (some level) ↔ (path = [] ∧ level = s.fields) ∨
    ∃ earlier field, s.Meets earlier path field ∧ field.nested? = some level
  bare : ∀ path, s.descend path = .ok none ↔ ∃ before after earlier field, path = before ++ after ∧
    s.Meets earlier before field ∧ field.nested? = none
  missing : ∀ path e, s.descend path = .error e ↔ ∃ outer name after level, path = outer ++ name :: after ∧
    s.descend outer = .ok (some level) ∧ name ∉ level.names ∧ e = ⟨name⟩

/-- **A walk goes along descents**, once along each of them. -/
theorem walkIsDescent (s : Schema) : s.WalkIsDescent := by
  constructor
  case calls =>
    intro earlier
    rw [calls_eq, List.length_map]
    constructor
    · intro hlt
      exact ⟨_, _, meets_iff.2 ⟨_, List.getElem?_eq_getElem hlt, rfl, rfl⟩⟩
    · rintro ⟨path, field, hmeets⟩
      obtain ⟨v, hv, _⟩ := meets_iff.1 hmeets
      exact (List.getElem?_eq_some_iff.1 hv).1
  case once =>
    intro earlier other path field field' h h'
    exact h.unique h'
  case leads => exact fun path field => exists_meets_iff
  case through => exact fun path level => descend_eq_some_iff
  case bare => exact fun path => descend_eq_none_iff
  case missing => exact fun path e => descend_eq_error_iff

/-- the second call is on the field inside, at a path that a descent takes too -/
example : (⟨[("a", ⟨.collection .set (some [("z", ⟨.primitive .map, false, .null⟩)]), false, .null⟩)], rfl⟩ :
    Schema).pathAfter? 1 = some ["a", "z"] := rfl

end Schema

end CatalogLint
