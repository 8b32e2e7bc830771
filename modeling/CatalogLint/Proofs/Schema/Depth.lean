/-
Fields at any depth of a schema. `Fields.At` says where a field stands: on the first level, or among the elements of a
field that stands there. `Schema.Leads` says the same by look-ups, name after name.

- `Fields.mem_visits`: the stops of a walk are exactly the fields at any depth, each with its ancestors and their
  labels.
- `Fields.visits_ordered`: the paths of the stops increase in lexicographic order. So siblings come in the order of
  their names, each followed at once by what is nested in it.
- `Schema.leads_iff`: looking up the names of a path reaches exactly the fields at any depth.
-/
import CatalogLint.Schema.Walk

namespace CatalogLint

/-! ## Induction over the tree -/

/-- only collections declare elements -/
theorem Field.eq_collection {field : Field} {elem : Fields} (h : field.nested? = some elem) :
    ∃ shape, field = ⟨.collection shape (some elem), field.sensitive, field.default⟩ := by
  obtain ⟨kind, sensitive, default⟩ := field
  cases kind with
  | primitive t => cases h
  | collection shape e => cases h; exact ⟨shape, rfl⟩

theorem Field.sizeOf_nested {field : Field} {elem : Fields} (h : field.nested? = some elem) :
    sizeOf elem < sizeOf field := by
  obtain ⟨shape, hfield⟩ := Field.eq_collection h
  rw [hfield]
  simp only [Field.mk.sizeOf_spec, Kind.collection.sizeOf_spec, Option.some.sizeOf_spec]
  omega

/-- induction along the fields of a level and into the elements that each of them declares -/
@[elab_as_elim]
theorem Fields.induction {motive : Fields → Prop} (nil : motive [])
    (cons : ∀ name field rest, (∀ elem, field.nested? = some elem → motive elem) → motive rest →
      motive ((name, field) :: rest)) : ∀ fields, motive fields
  | [] => nil
  | (name, field) :: rest =>
    cons name field rest (fun elem _ => Fields.induction nil cons elem) (Fields.induction nil cons rest)
  termination_by fields => sizeOf fields
  decreasing_by
    · have := Field.sizeOf_nested ‹_›
      simp only [List.cons.sizeOf_spec, Prod.mk.sizeOf_spec]; omega
    · simp only [List.cons.sizeOf_spec, Prod.mk.sizeOf_spec]; omega

/-! ## Order on every level -/

theorem Fields.isOrdered_iff {fields : Fields} :
    fields.isOrdered ↔ Entries.Ordered fields ∧ ∀ e ∈ fields, e.2.isOrdered := by
  simp only [Fields.isOrdered, Bool.and_eq_true, decide_eq_true_eq, Fields.isOrderedInside_iff]

theorem Field.isOrdered_nested {field : Field} {elem : Fields} (hf : field.isOrdered)
    (h : field.nested? = some elem) : elem.isOrdered := by
  obtain ⟨shape, hfield⟩ := Field.eq_collection h
  rw [hfield] at hf
  exact hf

theorem Field.isOrdered_iff {f : Field} : f.isOrdered ↔ ∀ elem, f.nested? = some elem → elem.isOrdered := by
  refine ⟨fun h elem => Field.isOrdered_nested h, fun h => ?_⟩
  obtain ⟨kind, sensitive, default⟩ := f
  match kind with
  | .primitive _ => rfl
  | .collection _ none => rfl
  | .collection _ (some elem) => exact h elem rfl

theorem Fields.isOrdered_cons {name : String} {field : Field} {rest : Fields}
    (h : Fields.isOrdered ((name, field) :: rest)) :
    (∀ e ∈ rest, name < e.1) ∧ field.isOrdered ∧ rest.isOrdered := by
  obtain ⟨hlevel, hinside⟩ := Fields.isOrdered_iff.1 h
  obtain ⟨hname, hrest⟩ := List.pairwise_cons.1 hlevel
  refine ⟨hname, hinside _ List.mem_cons_self, Fields.isOrdered_iff.2 ⟨hrest, fun e he => ?_⟩⟩
  exact hinside e (List.mem_cons_of_mem _ he)

/-! ## Stops inside a field -/

/-- the stop as seen from outside one more field -/
def Visit.inside (name label : String) (v : Visit) : Visit := { v with parents := (name, label) :: v.parents }

/-- the stops among the elements that a field declares -/
def Field.stops (field : Field) : List Visit :=
  match field.nested? with
  | none => []
  | some elem => Fields.visits [] elem

theorem Visit.path_inside (name label : String) (v : Visit) : (v.inside name label).path = name :: v.path := rfl

theorem Field.visitsNested_eq (parents : List (String × String)) (field : Field) :
    field.visitsNested parents = match field.nested? with
      | none => []
      | some elem => Fields.visits parents elem := by
  obtain ⟨kind, sensitive, default⟩ := field
  cases kind with
  | primitive t => rfl
  | collection s e => cases e <;> rfl

/-- The stops inside other fields are the stops without them, with those fields put before their own ancestors. -/
theorem Fields.visits_eq_map (parents : List (String × String)) (fields : Fields) :
    Fields.visits parents fields =
      (Fields.visits [] fields).map fun v => { v with parents := parents ++ v.parents } := by
  induction fields using Fields.induction generalizing parents with
  | nil => rfl
  | cons name field rest inner ih =>
    have hinner : ∀ outer, field.visitsNested outer =
        (field.visitsNested []).map fun v => { v with parents := outer ++ v.parents } := by
      intro outer
      rw [Field.visitsNested_eq, Field.visitsNested_eq]
      cases hn : field.nested? with
      | none => rfl
      | some elem => exact inner elem hn outer
    simp only [Fields.visits, List.map_cons, List.map_append]
    rw [ih parents, hinner (parents ++ [(name, field.type.label)]), hinner ([] ++ [(name, field.type.label)])]
    simp

theorem Fields.visits_cons (name : String) (field : Field) (rest : Fields) :
    Fields.visits [] ((name, field) :: rest) =
      ⟨[], name, field⟩ :: (field.stops.map (Visit.inside name field.type.label) ++ Fields.visits [] rest) := by
  have hinner : field.visitsNested [(name, field.type.label)] =
      field.stops.map (Visit.inside name field.type.label) := by
    rw [Field.visitsNested_eq, Field.stops]
    cases field.nested? with
    | none => rfl
    | some elem => exact Fields.visits_eq_map _ _
  simp [Fields.visits, hinner]

/-! ## Where a field stands -/

/-- a field stands in a tree below the given fields with their labels, outermost first -/
inductive Fields.At : Fields → List (String × String) → String → Field → Prop where
  | here {fields name field} (h : (name, field) ∈ fields) : Fields.At fields [] name field
  | inside {fields outer} {around : Field} {elem parents name field} (h : (outer, around) ∈ fields)
      (he : around.nested? = some elem) (inner : Fields.At elem parents name field) :
      Fields.At fields ((outer, around.type.label) :: parents) name field

theorem Fields.At.mono {fields more : Fields} (h : ∀ e ∈ fields, e ∈ more) {parents : List (String × String)}
    {name : String} {field : Field} (ha : fields.At parents name field) : more.At parents name field := by
  cases ha with
  | here hm => exact .here (h _ hm)
  | inside hm he inner => exact .inside (h _ hm) he inner

theorem Fields.at_of_mem_visits {fields : Fields} {v : Visit} (h : v ∈ Fields.visits [] fields) :
    fields.At v.parents v.name v.field := by
  induction fields using Fields.induction generalizing v with
  | nil => simp [Fields.visits] at h
  | cons name field rest inner ih =>
    rw [Fields.visits_cons, List.mem_cons, List.mem_append, List.mem_map] at h
    rcases h with rfl | ⟨w, hw, rfl⟩ | h
    · exact .here List.mem_cons_self
    · unfold Field.stops at hw
      cases hn : field.nested? with
      | none => simp [hn] at hw
      | some elem =>
        rw [hn] at hw
        exact .inside List.mem_cons_self hn (inner elem hn hw)
    · exact (ih h).mono fun e he => List.mem_cons_of_mem _ he

theorem Fields.mem_visits_of_mem {fields : Fields} {name : String} {field : Field} (h : (name, field) ∈ fields) :
    ⟨[], name, field⟩ ∈ Fields.visits [] fields ∧
      ∀ w ∈ field.stops, w.inside name field.type.label ∈ Fields.visits [] fields := by
  induction fields with
  | nil => cases h
  | cons entry rest ih =>
    obtain ⟨n, f⟩ := entry
    rw [Fields.visits_cons]
    rcases List.mem_cons.1 h with heq | hrest
    · cases heq
      refine ⟨List.mem_cons_self, fun w hw => ?_⟩
      exact List.mem_cons_of_mem _ (List.mem_append_left _ (List.mem_map_of_mem hw))
    · obtain ⟨hhere, hinside⟩ := ih hrest
      refine ⟨List.mem_cons_of_mem _ (List.mem_append_right _ hhere), fun w hw => ?_⟩
      exact List.mem_cons_of_mem _ (List.mem_append_right _ (hinside w hw))

/-- **The stops of a walk are the fields at any depth**, each below its own ancestors. -/
theorem Fields.mem_visits {fields : Fields} {v : Visit} :
    v ∈ Fields.visits [] fields ↔ fields.At v.parents v.name v.field := by
  refine ⟨Fields.at_of_mem_visits, fun h => ?_⟩
  obtain ⟨parents, name, field⟩ := v
  simp only at h
  induction h with
  | here hm => exact (Fields.mem_visits_of_mem hm).1
  | inside hm he inner ih =>
    refine (Fields.mem_visits_of_mem hm).2 ⟨_, _, _⟩ ?_
    simpa [Field.stops, he] using ih

/-! ## The order of the stops -/

theorem Visit.path_ne_nil (v : Visit) : v.path ≠ [] := by simp [Visit.path]

theorem Visit.singleton_lt_inside (name label : String) (v : Visit) : [name] < (v.inside name label).path := by
  rw [Visit.path_inside]
  obtain ⟨first, others, hpath⟩ := List.exists_cons_of_ne_nil v.path_ne_nil
  rw [hpath]
  exact List.cons_lt_cons_iff.2 (Or.inr ⟨rfl, List.nil_lt_cons _ _⟩)

/-- a path begins with a name of the first level -/
theorem Fields.head_of_mem_visits {fields : Fields} {v : Visit} (h : v ∈ Fields.visits [] fields) :
    ∃ e ∈ fields, ∃ others, v.path = e.1 :: others := by
  obtain ⟨parents, name, field⟩ := v
  cases Fields.mem_visits.1 h with
  | here hm => exact ⟨_, hm, [], rfl⟩
  | inside hm he inner => exact ⟨_, hm, _, rfl⟩

/-- **The paths of the stops increase lexicographically.** Names are compared by code point, and a path comes before
those that go on from it. -/
theorem Fields.visits_ordered {fields : Fields} (h : fields.isOrdered) :
    (Fields.visits [] fields).Pairwise fun a b => a.path < b.path := by
  induction fields using Fields.induction with
  | nil => exact .nil
  | cons name field rest inner ih =>
    obtain ⟨hname, hfield, hrest⟩ := Fields.isOrdered_cons h
    -- every stop below this field and the field itself begin with its name, which the later ones exceed
    have hlater : ∀ path : List String, ∀ w ∈ Fields.visits [] rest, name :: path < w.path := by
      intro path w hw
      obtain ⟨e, he, others, hpath⟩ := Fields.head_of_mem_visits hw
      rw [hpath]
      exact List.cons_lt_cons_iff.2 (Or.inl (hname e he))
    have hstops : field.stops.Pairwise fun a b => a.path < b.path := by
      unfold Field.stops
      cases hn : field.nested? with
      | none => exact .nil
      | some elem => exact inner elem hn (Field.isOrdered_nested hfield hn)
    rw [Fields.visits_cons, List.pairwise_cons, List.pairwise_append]
    refine ⟨fun w hw => ?_, ?_, ih hrest, fun v hv w hw => ?_⟩
    · rcases List.mem_append.1 hw with hw | hw
      · obtain ⟨u, _, rfl⟩ := List.mem_map.1 hw
        exact Visit.singleton_lt_inside name _ u
      · exact hlater [] w hw
    · refine List.pairwise_map.2 (hstops.imp fun {a b} hab => ?_)
      rw [Visit.path_inside, Visit.path_inside]
      exact List.cons_lt_cons_iff.2 (Or.inr ⟨rfl, hab⟩)
    · obtain ⟨u, _, rfl⟩ := List.mem_map.1 hv
      exact hlater _ w hw

/-- a field, then what is inside it, then the next field, also where one name begins another -/
example : (Fields.visits [] [("a", ⟨.collection .set (some [("z", ⟨.primitive .map, false, .null⟩)]), false, .null⟩),
    ("ab", ⟨.primitive .bool, false, .null⟩)]).map Visit.path = [["a"], ["a", "z"], ["ab"]] := rfl

/-! ## Following a path by look-ups -/

/-- going through the elements of the fields on a path and looking up a name there gives a field -/
def Schema.Leads (s : Schema) (path : List String) (name : String) (field : Field) : Prop :=
  ∃ level, s.descend path = .ok (some level) ∧ level.get name = .ok field

theorem Fields.get_eq_ok_iff {fields : Fields} (h : fields.isOrdered) {name : String} {field : Field} :
    fields.get name = .ok field ↔ (name, field) ∈ fields := by
  rw [← Entries.lookup?_eq_some_iff (Fields.isOrdered_iff.1 h).1]
  unfold Fields.get
  cases Entries.lookup? name fields <;> simp

theorem Fields.descend_cons_eq_some_iff {fields : Fields} (h : fields.isOrdered) {name : String} {rest : List String}
    {level : Fields} : fields.descend (name :: rest) = .ok (some level) ↔
      ∃ field elem, (name, field) ∈ fields ∧ field.nested? = some elem ∧ elem.descend rest = .ok (some level) := by
  simp only [← Fields.get_eq_ok_iff h, Fields.descend]
  cases hg : fields.get name with
  | error e => simp
  | ok field => cases hn : field.nested? <;> simp [hn]

theorem Fields.At.leads {fields : Fields} {parents : List (String × String)} {name : String} {field : Field}
    (ha : fields.At parents name field) (h : fields.isOrdered) :
    ∃ level, fields.descend (parents.map Prod.fst) = .ok (some level) ∧ level.get name = .ok field := by
  induction ha with
  | @here fields name field hm => exact ⟨fields, rfl, (Fields.get_eq_ok_iff h).2 hm⟩
  | inside hm he inner ih =>
    obtain ⟨level, hdown, hget⟩ := ih (Field.isOrdered_nested ((Fields.isOrdered_iff.1 h).2 _ hm) he)
    exact ⟨level, (Fields.descend_cons_eq_some_iff h).2 ⟨_, _, hm, he, hdown⟩, hget⟩

theorem Fields.at_of_leads {fields level : Fields} (h : fields.isOrdered) {path : List String} {name : String}
    {field : Field} (hdown : fields.descend path = .ok (some level)) (hget : level.get name = .ok field) :
    ∃ parents, parents.map Prod.fst = path ∧ fields.At parents name field := by
  induction path generalizing fields with
  | nil =>
    cases hdown
    exact ⟨[], rfl, .here ((Fields.get_eq_ok_iff h).1 hget)⟩
  | cons outer rest ih =>
    obtain ⟨around, elem, hm, he, hrest⟩ := (Fields.descend_cons_eq_some_iff h).1 hdown
    obtain ⟨parents, hparents, ha⟩ := ih (Field.isOrdered_nested ((Fields.isOrdered_iff.1 h).2 _ hm) he) hrest
    exact ⟨(outer, around.type.label) :: parents, by rw [List.map_cons, hparents], .inside hm he ha⟩

/-- **Look-ups reach exactly the fields at any depth.** -/
theorem Schema.leads_iff {s : Schema} {path : List String} {name : String} {field : Field} :
    s.Leads path name field ↔ ∃ parents, parents.map Prod.fst = path ∧ s.fields.At parents name field := by
  constructor
  · rintro ⟨level, hdown, hget⟩
    exact Fields.at_of_leads s.ordered hdown hget
  · rintro ⟨parents, rfl, ha⟩
    exact ha.leads s.ordered

/-! ## The enclosing fields -/

theorem Field.label_of_nested {field : Field} {elem : Fields} (h : field.nested? = some elem) :
    field.type.label = "List" ∨ field.type.label = "Set" := by
  obtain ⟨shape, hfield⟩ := Field.eq_collection h
  rw [hfield]
  cases shape
  · exact Or.inl rfl
  · exact Or.inr rfl

/-- Each enclosing field stands below those before it and gave its own label, that of a list or a set. -/
theorem Fields.At.enclosing {fields : Fields} {parents : List (String × String)} {name : String} {field : Field}
    (ha : fields.At parents name field) {before after : List (String × String)} {outer : String × String}
    (hsplit : parents = before ++ outer :: after) :
    ∃ around, fields.At before outer.1 around ∧ outer.2 = around.type.label ∧ (outer.2 = "List" ∨ outer.2 = "Set") := by
  induction ha generalizing before with
  | here hm => simp at hsplit
  | @inside fields n around elem parents name field hm he inner ih =>
    cases before with
    | nil =>
      simp only [List.nil_append, List.cons.injEq] at hsplit
      obtain ⟨rfl, rfl⟩ := hsplit
      exact ⟨around, .here hm, rfl, Field.label_of_nested he⟩
    | cons first before =>
      simp only [List.cons_append, List.cons.injEq] at hsplit
      obtain ⟨rfl, hrest⟩ := hsplit
      obtain ⟨found, hfound, hlabel, hshape⟩ := ih hrest
      exact ⟨found, .inside hm he hfound, hlabel, hshape⟩

end CatalogLint
