/-
Schemas up to the order of keys in defaults. Two fields are alike when they differ in nothing but their defaults, which
are compared as mappings, and have elements that are alike again.

- `Entries.alike_of_lookup?`: entries in order are alike when their look-ups are.
- `Fields.visits_alike`: a walk through fields that are alike stops at fields that are alike, below the same ancestors.
- `Schema.firstViolation_congr`: so a visitor that compares defaults as mappings finds the same first violation.
- `Fields.eq_of_alike`: where no default holds a mapping, fields that are alike are the same.
-/
import CatalogLint.Proofs.Document.Reordering
import CatalogLint.Proofs.Schema.FlatSearch

namespace CatalogLint

/-! ## Entries -/

namespace Entries

variable {α β : Type} {alike : α → β → Prop} {entries : List (String × α)} {entries' : List (String × β)}

/-- the same names in the same order, with values that are alike -/
def Alike (alike : α → β → Prop) : List (String × α) → List (String × β) → Prop :=
  List.Forall₂ fun e e' => e.1 = e'.1 ∧ alike e.2 e'.2

theorem map_fst_eq_iff : entries.map Prod.fst = entries'.map Prod.fst ↔
    entries.length = entries'.length ∧ ∀ e e', (e, e') ∈ entries.zip entries' → e.1 = e'.1 := by
  rw [← List.forall₂_eq_eq_eq, List.forall₂_map_left_iff, List.forall₂_map_right_iff, List.forall₂_iff_zip]

theorem alike_iff_zip : Alike alike entries entries' ↔ entries.map Prod.fst = entries'.map Prod.fst ∧
    ∀ e e', (e, e') ∈ entries.zip entries' → alike e.2 e'.2 := by
  rw [Alike, List.forall₂_iff_zip, map_fst_eq_iff]
  constructor
  · rintro ⟨hlength, hall⟩
    exact ⟨⟨hlength, fun e e' hmem => (hall hmem).1⟩, fun e e' hmem => (hall hmem).2⟩
  · rintro ⟨⟨hlength, hname⟩, hall⟩
    exact ⟨hlength, fun hmem => ⟨hname _ _ hmem, hall _ _ hmem⟩⟩

/-- Entries in order are alike when their look-ups are. -/
theorem alike_of_lookup? (ha : Ordered entries) (hb : Ordered entries')
    (h : ∀ name, Option.Rel alike (lookup? name entries) (lookup? name entries')) : Alike alike entries entries' := by
  -- without their values both are the same, as these have the same look-ups
  have hbare : entries.map (fun e => (e.1, ())) = entries'.map (fun e => (e.1, ())) := by
    refine eq_of_lookup? (List.pairwise_map.2 ha) (List.pairwise_map.2 hb) fun name => ?_
    have hpresent : ∀ {x : Option α} {y : Option β}, Option.Rel alike x y →
        x.map (fun _ => ()) = y.map fun _ => () := by
      intro x y hxy
      cases hxy <;> rfl
    rw [lookup?_map fun _ => (), lookup?_map fun _ => ()]
    exact hpresent (h name)
  have hnames : entries.map Prod.fst = entries'.map Prod.fst := by
    have hfst := congrArg (List.map Prod.fst) hbare
    rw [List.map_map, List.map_map] at hfst
    exact hfst
  refine alike_iff_zip.2 ⟨hnames, ?_⟩
  rintro ⟨name, a⟩ ⟨name', b⟩ hmem
  have hname : name = name' := (map_fst_eq_iff.1 hnames).2 _ _ hmem
  subst hname
  obtain ⟨hleft, hright⟩ := List.of_mem_zip hmem
  have hrel := h name
  rw [(lookup?_eq_some_iff ha).2 hleft, (lookup?_eq_some_iff hb).2 hright] at hrel
  cases hrel with
  | some hab => exact hab

end Entries

/-! ## Fields -/

/-- the same field but for the order of keys in defaults, its own and those of its elements -/
inductive Field.Alike : Field → Field → Prop where
  | primitive (type : PrimitiveType) (sensitive : Bool) {default default' : Document}
    (hdefault : default.Reordered default') :
    Alike ⟨.primitive type, sensitive, default⟩ ⟨.primitive type, sensitive, default'⟩
  | bare (shape : Shape) (sensitive : Bool) {default default' : Document} (hdefault : default.Reordered default') :
    Alike ⟨.collection shape none, sensitive, default⟩ ⟨.collection shape none, sensitive, default'⟩
  | nested (shape : Shape) (sensitive : Bool) {default default' : Document} (hdefault : default.Reordered default')
    {elem elem' : List (String × Field)} (names : elem.map Prod.fst = elem'.map Prod.fst)
    (fields : ∀ e e', (e, e') ∈ elem.zip elem' → Alike e.2 e'.2) :
    Alike ⟨.collection shape (some elem), sensitive, default⟩ ⟨.collection shape (some elem'), sensitive, default'⟩

/-- the same fields but for the order of keys in defaults -/
abbrev Fields.Alike : Fields → Fields → Prop := Entries.Alike Field.Alike

theorem Fields.alike_cons_iff {name : String} {field : Field} {rest fields' : Fields} :
    Fields.Alike ((name, field) :: rest) fields' ↔
      ∃ field' rest', fields' = (name, field') :: rest' ∧ field.Alike field' ∧ rest.Alike rest' := by
  constructor
  · intro h
    obtain ⟨⟨name', field'⟩, rest', ⟨hname, hfield⟩, hrest, rfl⟩ := List.forall₂_cons_left_iff.1 h
    cases hname
    exact ⟨field', rest', rfl, hfield, hrest⟩
  · rintro ⟨field', rest', rfl, hfield, hrest⟩
    exact .cons ⟨rfl, hfield⟩ hrest

/-- the same schema but for the order of keys in defaults -/
def Schema.Alike (s s' : Schema) : Prop := s.fields.Alike s'.fields

namespace Field.Alike

variable {f f' : Field} (h : f.Alike f')

include h

theorem type_eq : f.type = f'.type := by
  cases h <;> rfl

theorem sensitive_eq : f.sensitive = f'.sensitive := by
  cases h <;> rfl

theorem default_reordered : f.default.Reordered f'.default := by
  cases h <;> assumption

theorem nested? : Option.Rel Fields.Alike f.nested? f'.nested? := by
  cases h with
  | primitive => exact .none
  | bare => exact .none
  | nested _ _ _ names fields => exact .some (Entries.alike_iff_zip.2 ⟨names, fields⟩)

end Field.Alike

/-! ## Walks -/

/-- the same stop but for the order of keys in defaults -/
structure Visit.Alike (v v' : Visit) : Prop where
  parents : v.parents = v'.parents
  name : v.name = v'.name
  field : v.field.Alike v'.field

/-- The stops inside fields that are alike are alike if their elements are walked through alike. -/
theorem Field.Alike.stops {f f' : Field} (h : f.Alike f')
    (inner : ∀ elem, f.nested? = some elem → ∀ elem', Fields.Alike elem elem' →
      List.Forall₂ Visit.Alike (Fields.visits [] elem) (Fields.visits [] elem')) :
    List.Forall₂ Visit.Alike f.stops f'.stops := by
  have hnested := h.nested?
  rw [Field.stops, Field.stops]
  cases helem : f.nested? with
  | none =>
    rw [helem, rel_none_iff] at hnested
    rw [hnested]
    exact .nil
  | some elem =>
    rw [helem, rel_some_iff] at hnested
    obtain ⟨elem', helem', halike⟩ := hnested
    rw [helem']
    exact inner elem helem elem' halike

/-- **Fields that are alike are walked through alike.** -/
theorem Fields.visits_alike {fields fields' : Fields} (h : fields.Alike fields') :
    List.Forall₂ Visit.Alike (Fields.visits [] fields) (Fields.visits [] fields') := by
  induction fields using Fields.induction generalizing fields' with
  | nil =>
    cases h
    exact .nil
  | cons name field rest inner ih =>
    obtain ⟨field', rest', rfl, hfield, hrest⟩ := Fields.alike_cons_iff.1 h
    have hstops : List.Forall₂ Visit.Alike field.stops field'.stops :=
      hfield.stops fun elem helem elem' halike => inner elem helem halike
    have hinside : List.Forall₂ Visit.Alike (field.stops.map (Visit.inside name field.type.label))
        (field'.stops.map (Visit.inside name field'.type.label)) := by
      rw [List.forall₂_map_left_iff, List.forall₂_map_right_iff, hfield.type_eq]
      exact hstops.imp fun v v' hv => ⟨congrArg (List.cons _) hv.parents, hv.name, hv.field⟩
    rw [Fields.visits_cons, Fields.visits_cons]
    exact .cons ⟨rfl, rfl, hfield⟩ (List.rel_append hinside (ih hrest))

theorem findSome?_congr_of_forall₂ {α β γ : Type} {f : α → Option γ} {g : β → Option γ} {l : List α} {l' : List β}
    (h : List.Forall₂ (fun a b => f a = g b) l l') : l.findSome? f = l'.findSome? g := by
  induction h with
  | nil => rfl
  | cons hab _ ih => rw [List.findSome?_cons, List.findSome?_cons, hab, ih]

/-- **A visitor that compares defaults as mappings finds the same first violation** in schemas that are alike. -/
theorem Schema.firstViolation_congr {s s' : Schema} (h : s.Alike s') {visit : String → Field → Option Violation}
    (hvisit : ∀ name f f', f.Alike f' → visit name f = visit name f') :
    s.firstViolation visit = s'.firstViolation visit := by
  rw [Schema.firstViolation_eq_findSome?, Schema.firstViolation_eq_findSome?]
  refine findSome?_congr_of_forall₂ ((Fields.visits_alike h).imp fun v v' hv => ?_)
  have hreport : v.report = v'.report := by
    funext violation
    rw [Visit.report, Visit.report, hv.parents]
  rw [Visit.verdict, Visit.verdict, hv.name, hvisit _ _ _ hv.field, hreport]

/-! ## Defaults without mappings -/

theorem Field.Alike.eq_of_nested? {f f' : Field} (h : f.Alike f') (hdefault : f.default = f'.default)
    (hnested : f.nested? = f'.nested?) : f = f' := by
  cases h with
  | primitive =>
    cases hdefault
    rfl
  | bare =>
    cases hdefault
    rfl
  | nested =>
    cases hdefault
    cases hnested
    rfl

/-- Where no default holds a mapping, fields that are alike are the same. -/
theorem Fields.eq_of_alike {fields fields' : Fields} (h : fields.Alike fields')
    (hflat : ∀ v ∈ Fields.visits [] fields, ¬ v.field.default.HoldsMapping) : fields = fields' := by
  induction fields using Fields.induction generalizing fields' with
  | nil =>
    cases h
    rfl
  | cons name field rest inner ih =>
    obtain ⟨field', rest', rfl, hfield, hrest⟩ := Fields.alike_cons_iff.1 h
    rw [Fields.visits_cons, List.forall_mem_cons, List.forall_mem_append, List.forall_mem_map] at hflat
    obtain ⟨hhere, hinside, hlater⟩ := hflat
    have hdefault : field.default = field'.default :=
      hfield.default_reordered.eq_or_holdsMapping.resolve_right fun hno => hhere hno.1
    have hnested : field.nested? = field'.nested? := by
      have hrel := hfield.nested?
      cases helem : field.nested? with
      | none =>
        rw [helem, rel_none_iff] at hrel
        rw [hrel]
      | some elem =>
        rw [helem, rel_some_iff] at hrel
        obtain ⟨elem', helem', halike⟩ := hrel
        rw [Field.stops, helem] at hinside
        rw [helem', inner elem helem halike hinside]
    rw [hfield.eq_of_nested? hdefault hnested, ih hrest hlater]

end CatalogLint
