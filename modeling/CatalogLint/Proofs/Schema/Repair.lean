/-
Repairs of single fields. A `Repair` changes what a field says of itself, never its kind, so what is nested in the field
stays. `Schema.repairAt` makes a repair where a path of names leads.

- `Fields.visits_repairAt`: a walk through the repaired fields makes the same stops as before, and the field at the path
  is the only one that says anything else. The fields around it have other elements than before, so the stops are
  compared without these (`Field.bare`).
-/
import CatalogLint.Proofs.Schema.Depth

namespace CatalogLint

/-! ## Repairs at a path -/

/-- a change of a field that leaves its kind as it is, and so all that is nested in it -/
structure Repair where
  apply : Field → Field
  kind_apply : ∀ f, (apply f).kind = f.kind

namespace Repair

def markSensitive : Repair := ⟨fun f => { f with sensitive := true }, fun _ => rfl⟩

def dropDefault : Repair := ⟨fun f => { f with default := .null }, fun _ => rfl⟩

end Repair

/-- the kind with the declaration of its elements changed, if there is one -/
def Kind.mapElem {σ : Type} (change : σ → σ) : Kind σ → Kind σ
  | .primitive t => .primitive t
  | .collection s elem => .collection s (elem.map change)

/-- the entries with the value of one name changed, if it has one -/
def Entries.modify {α : Type} (name : String) (change : α → α) (entries : List (String × α)) : List (String × α) :=
  entries.map fun e => (e.1, if e.1 = name then change e.2 else e.2)

/-- repairs the field to which a path leads from inside another, or this one at the end of the path -/
def Field.repairAt (fix : Repair) : List String → Field → Field
  | [], f => fix.apply f
  | name :: rest, f => { f with kind := f.kind.mapElem (Entries.modify name (Field.repairAt fix rest)) }

/-- repairs the field to which a path leads, if it leads to one -/
def Fields.repairAt (fix : Repair) : List String → Fields → Fields
  | [], fields => fields
  | name :: rest, fields => Entries.modify name (Field.repairAt fix rest) fields

section

variable (fix : Repair)

theorem Field.nested?_apply (f : Field) : (fix.apply f).nested? = f.nested? := by
  rw [Field.nested?, fix.kind_apply, Field.nested?]

theorem Field.nested?_repairAt_cons (name : String) (rest : List String) (f : Field) :
    (f.repairAt fix (name :: rest)).nested? = f.nested?.map (Fields.repairAt fix (name :: rest)) := by
  obtain ⟨kind, sensitive, default⟩ := f
  cases kind <;> rfl

theorem Field.type_repairAt (path : List String) (f : Field) : (f.repairAt fix path).type = f.type := by
  cases path with
  | nil => exact congrArg Kind.type (fix.kind_apply f)
  | cons name rest =>
    obtain ⟨kind, sensitive, default⟩ := f
    cases kind <;> rfl

/-! ## Order -/

theorem Entries.Ordered.modify {α : Type} {entries : List (String × α)} (h : Entries.Ordered entries) (name : String)
    (change : α → α) : Entries.Ordered (Entries.modify name change entries) :=
  List.pairwise_map.2 h

theorem Fields.isOrdered_modify {fields : Fields} (h : fields.isOrdered) (name : String) {change : Field → Field}
    (hchange : ∀ f, f.isOrdered → (change f).isOrdered) : Fields.isOrdered (Entries.modify name change fields) := by
  obtain ⟨hlevel, hinside⟩ := Fields.isOrdered_iff.1 h
  refine Fields.isOrdered_iff.2 ⟨hlevel.modify name change, fun e he => ?_⟩
  obtain ⟨⟨n, f⟩, hf, rfl⟩ := List.mem_map.1 he
  dsimp only
  split
  · exact hchange f (hinside _ hf)
  · exact hinside _ hf

theorem Field.isOrdered_repairAt (path : List String) {f : Field} (h : f.isOrdered) :
    (f.repairAt fix path).isOrdered := by
  induction path generalizing f with
  | nil =>
    rw [Field.isOrdered_iff] at h ⊢
    rwa [Field.repairAt, Field.nested?_apply]
  | cons name rest ih =>
    rw [Field.isOrdered_iff] at h ⊢
    intro elem helem
    rw [Field.nested?_repairAt_cons, Option.map_eq_some_iff] at helem
    obtain ⟨before, hbefore, rfl⟩ := helem
    exact Fields.isOrdered_modify (h before hbefore) name fun g hg => ih hg

theorem Fields.isOrdered_repairAt (path : List String) {fields : Fields} (h : fields.isOrdered) :
    (fields.repairAt fix path).isOrdered := by
  cases path with
  | nil => exact h
  | cons name rest => exact Fields.isOrdered_modify h name fun f hf => Field.isOrdered_repairAt fix rest hf

/-- the schema with the field repaired to which a path leads -/
def Schema.repairAt (path : List String) (s : Schema) : Schema :=
  ⟨s.fields.repairAt fix path, Fields.isOrdered_repairAt fix path s.ordered⟩

end

/-! ## Walks -/

def Kind.bare {σ : Type} : Kind σ → Kind σ
  | .primitive t => .primitive t
  | .collection s _ => .collection s none

/-- the field without the declaration of its elements -/
def Field.bare (f : Field) : Field := { f with kind := f.kind.bare }

theorem Field.type_bare (f : Field) : f.bare.type = f.type := by
  obtain ⟨kind, sensitive, default⟩ := f
  cases kind <;> rfl

namespace Visit

def bare (v : Visit) : Visit := { v with field := v.field.bare }

/-- the stop with its field repaired, if its path is the given one -/
def repairAt (fix : Repair) (path : List String) (v : Visit) : Visit :=
  if v.path = path then { v with field := fix.apply v.field } else v

theorem repairAt_of_path_ne {fix : Repair} {path : List String} {v : Visit} (h : v.path ≠ path) :
    v.repairAt fix path = v := if_neg h

/-- Inside a field, a path goes on from the name of the field. -/
theorem repairAt_inside (fix : Repair) (name label : String) (rest : List String) (v : Visit) :
    (v.inside name label).repairAt fix (name :: rest) = (v.repairAt fix rest).inside name label := by
  by_cases h : v.path = rest
  · rw [repairAt, repairAt, path_inside, h, if_pos rfl, if_pos rfl]
    rfl
  · rw [repairAt_of_path_ne h, repairAt_of_path_ne]
    rw [path_inside]
    exact fun hpath => h (List.cons.inj hpath).2

end Visit

section

variable (fix : Repair)

/-- A field is repaired itself where the path ends with it; else only its elements are other ones. -/
theorem Visit.bare_repairAt_here (name : String) (rest : List String) (f : Field) :
    (⟨[], name, f.repairAt fix rest⟩ : Visit).bare = (Visit.repairAt fix (name :: rest) ⟨[], name, f⟩).bare := by
  cases rest with
  | nil => exact (congrArg Visit.bare (if_pos rfl)).symm
  | cons next others =>
    have hbare : (f.repairAt fix (next :: others)).bare = f.bare := by
      obtain ⟨kind, sensitive, default⟩ := f
      cases kind <;> rfl
    rw [Visit.repairAt_of_path_ne (by simp [Visit.path])]
    exact congrArg (Visit.mk [] name) hbare

/-- The stops inside a repaired field, if all that may be nested in it is walked through as it should be. -/
theorem Field.stops_repairAt (rest : List String) {f : Field}
    (inner : ∀ elem, f.nested? = some elem → ∀ path, (Fields.visits [] (elem.repairAt fix path)).map Visit.bare =
      (Fields.visits [] elem).map fun v => (v.repairAt fix path).bare) :
    (f.repairAt fix rest).stops.map Visit.bare = f.stops.map fun v => (v.repairAt fix rest).bare := by
  cases rest with
  | nil =>
    have hsame : (f.repairAt fix []).stops = f.stops := by
      rw [Field.repairAt, Field.stops, Field.nested?_apply, Field.stops]
    rw [hsame]
    exact List.map_congr_left fun v _ => by rw [Visit.repairAt_of_path_ne v.path_ne_nil]
  | cons next others =>
    rw [Field.stops, Field.stops, Field.nested?_repairAt_cons]
    cases helem : f.nested? with
    | none => rfl
    | some elem => exact inner elem helem (next :: others)

/-- The same stops as seen from outside the field. -/
theorem Field.stops_inside_repairAt (name : String) (rest : List String) {f : Field}
    (h : (f.repairAt fix rest).stops.map Visit.bare = f.stops.map fun v => (v.repairAt fix rest).bare) :
    ((f.repairAt fix rest).stops.map (Visit.inside name (f.repairAt fix rest).type.label)).map Visit.bare =
      (f.stops.map (Visit.inside name f.type.label)).map fun v => (v.repairAt fix (name :: rest)).bare := by
  rw [Field.type_repairAt]
  calc ((f.repairAt fix rest).stops.map (Visit.inside name f.type.label)).map Visit.bare
      = ((f.repairAt fix rest).stops.map Visit.bare).map (Visit.inside name f.type.label) := by
        rw [List.map_map, List.map_map]
        rfl
    _ = (f.stops.map fun v => (v.repairAt fix rest).bare).map (Visit.inside name f.type.label) := by rw [h]
    _ = (f.stops.map (Visit.inside name f.type.label)).map fun v => (v.repairAt fix (name :: rest)).bare := by
        rw [List.map_map, List.map_map]
        refine List.map_congr_left fun v _ => ?_
        rw [Function.comp_apply, Function.comp_apply, Visit.repairAt_inside]
        rfl

/-- **A repair changes nothing but what the field at its path says.** -/
theorem Fields.visits_repairAt (fields : Fields) (path : List String) :
    (Fields.visits [] (fields.repairAt fix path)).map Visit.bare =
      (Fields.visits [] fields).map fun v => (v.repairAt fix path).bare := by
  induction fields using Fields.induction generalizing path with
  | nil => cases path <;> rfl
  | cons name field rest inner ih =>
    cases path with
    | nil => exact List.map_congr_left fun v _ => by rw [Visit.repairAt_of_path_ne v.path_ne_nil]
    | cons first others =>
      have hsplit : Fields.repairAt fix (first :: others) ((name, field) :: rest) =
          (name, if name = first then field.repairAt fix others else field) ::
            rest.repairAt fix (first :: others) := rfl
      rw [hsplit]
      simp only [Fields.visits_cons, List.map_cons, List.map_append, ih]
      by_cases hname : name = first
      · -- the path goes on into this field
        subst hname
        rw [if_pos rfl, Visit.bare_repairAt_here,
          Field.stops_inside_repairAt fix name others (Field.stops_repairAt fix others inner)]
      · -- the paths of this field and of what is inside it do not begin like the given one
        have helsewhere : ∀ v : Visit, v.path.head? = some name → v.repairAt fix (first :: others) = v := by
          intro v hhead
          refine Visit.repairAt_of_path_ne fun hpath => hname ?_
          rw [hpath] at hhead
          exact (Option.some.inj hhead).symm
        have hinside : ((field.stops.map (Visit.inside name field.type.label)).map
              fun v => (v.repairAt fix (first :: others)).bare) =
            (field.stops.map (Visit.inside name field.type.label)).map Visit.bare := by
          refine List.map_congr_left fun v hv => ?_
          obtain ⟨w, _, rfl⟩ := List.mem_map.1 hv
          rw [helsewhere _ rfl]
        rw [if_neg hname, hinside, helsewhere ⟨[], name, field⟩ rfl]

theorem Schema.visits_repairAt (s : Schema) (path : List String) :
    (s.repairAt fix path).visits.map Visit.bare = s.visits.map fun v => (v.repairAt fix path).bare :=
  Fields.visits_repairAt fix s.fields path

/-- the field inside is repaired, and not the one of its name outside -/
example : Fields.repairAt .markSensitive ["door", "pin"]
      [("door", ⟨.collection .list (some [("pin", ⟨.primitive .string, false, .null⟩)]), false, .null⟩),
        ("pin", ⟨.primitive .string, false, .null⟩)] =
    [("door", ⟨.collection .list (some [("pin", ⟨.primitive .string, true, .null⟩)]), false, .null⟩),
      ("pin", ⟨.primitive .string, false, .null⟩)] := rfl

end

end CatalogLint
