/-
Issues keep to their places. The issues of a schema are those of its declarations, each below the step to its name, and
a flat declaration that cannot be normalised is one issue however malformed the rest of it is.

A `Hole` is a schema that is open at one place: all of it but the declaration that stands there. The place is reached
through collections, tagged or flat, and around it everything may be malformed.

- `Declaration.framed_field`: the step, for what stands around the elements of one collection.
- `Hole.framed`: from it, by induction on the hole, the issues of a filled hole are those of the declaration, below the
  place of the hole, among others that stand elsewhere and do not depend on the declaration.
- `Hole.exists_of_standsAt`: every place that is reached in this way is that of a hole.
-/
import CatalogLint.Proofs.Validation.Forms
import CatalogLint.Proofs.Validation.Named

namespace CatalogLint

open Document (lookup?)

/-! ## Issues below a place -/

/-- the same issue below a place -/
def Issue.under (place : List Step) (issue : Issue) : Issue := { issue with place := place ++ issue.place }

theorem Issue.map_within (step : Step) (issues : List Issue) :
    issues.map (Issue.within step) = issues.map (Issue.under [step]) := rfl

theorem Issue.map_under_under (outer inner : List Step) (issues : List Issue) :
    (issues.map (Issue.under inner)).map (Issue.under outer) = issues.map (Issue.under (outer ++ inner)) := by
  rw [List.map_map]
  refine List.map_congr_left fun issue _ => ?_
  simp only [Function.comp, Issue.under, List.append_assoc]

/-- The issues of a whole are those of a part, below the place of the part, and others that stand elsewhere. The others
are the same whatever the part is. -/
def Framed {ι : Type} (place : List Step) (whole part : ι → List Issue) : Prop :=
  ∃ before after : List Issue, (∀ issue ∈ before ++ after, ¬ place <+: issue.place) ∧
    ∀ i, whole i = before ++ (part i).map (Issue.under place) ++ after

namespace Framed

variable {ι : Type} {place : List Step} {whole part : ι → List Issue}

theorem trans {inner : List Step} {parts : ι → List Issue} (houter : Framed place whole part)
    (hinner : Framed inner part parts) : Framed (place ++ inner) whole parts := by
  obtain ⟨before, after, hapart, heq⟩ := houter
  obtain ⟨before', after', hapart', heq'⟩ := hinner
  refine ⟨before ++ before'.map (Issue.under place), after'.map (Issue.under place) ++ after, ?_, fun i => ?_⟩
  · intro issue hmem hprefix
    have hcases : issue ∈ before ++ after ∨ issue ∈ (before' ++ after').map (Issue.under place) := by
      simp only [List.mem_append, List.map_append] at hmem ⊢
      rcases hmem with (h | h) | (h | h)
      · exact Or.inl (Or.inl h)
      · exact Or.inr (Or.inl h)
      · exact Or.inr (Or.inr h)
      · exact Or.inl (Or.inr h)
    rcases hcases with h | h
    · exact hapart issue h ((List.prefix_append place inner).trans hprefix)
    · obtain ⟨below, hbelow, rfl⟩ := List.mem_map.1 h
      exact hapart' below hbelow ((List.prefix_append_right_inj place).1 hprefix)
  · rw [heq, heq', List.map_append, List.map_append, Issue.map_under_under]
    simp only [List.append_assoc]

variable (h : Framed place whole part) (i j : ι)

include h in
/-- the issues at a place and below are those of the part there -/
theorem filter_at : (whole i).filter (fun issue => place <+: issue.place) = (part i).map (Issue.under place) := by
  obtain ⟨before, after, hapart, heq⟩ := h
  have hnone : ∀ l : List Issue, (∀ issue ∈ l, ¬ place <+: issue.place) →
      l.filter (fun issue => place <+: issue.place) = [] := by
    intro l hl
    rw [List.filter_eq_nil_iff]
    intro issue hmem
    simpa using hl issue hmem
  have hall : ((part i).map (Issue.under place)).filter (fun issue => place <+: issue.place) =
      (part i).map (Issue.under place) := by
    rw [List.filter_eq_self]
    intro issue hmem
    obtain ⟨below, _, rfl⟩ := List.mem_map.1 hmem
    exact decide_eq_true (List.prefix_append place below.place)
  rw [heq, List.filter_append, List.filter_append, hall, hnone before fun issue hmem => hapart issue (by simp [hmem]),
    hnone after fun issue hmem => hapart issue (by simp [hmem]), List.nil_append, List.append_nil]

include h in
/-- the issues elsewhere do not depend on the part -/
theorem filter_elsewhere : (whole i).filter (fun issue => ¬ place <+: issue.place) =
    (whole j).filter fun issue => ¬ place <+: issue.place := by
  obtain ⟨before, after, _, heq⟩ := h
  have hnone : ∀ l : List Issue, (l.map (Issue.under place)).filter (fun issue => ¬ place <+: issue.place) = [] := by
    intro l
    rw [List.filter_eq_nil_iff]
    intro issue hmem
    obtain ⟨below, _, rfl⟩ := List.mem_map.1 hmem
    simp [Issue.under]
  simp only [heq, List.filter_append, hnone]

end Framed

/-! ## Mappings that are open at a name -/

/-- entries of a mapping beside that of a name, which they do not have -/
structure Siblings (name : String) where
  before : List (String × Document)
  after : List (String × Document)
  absent : ∀ e ∈ before ++ after, e.1 ≠ name

namespace Siblings

variable {name : String}

/-- entries of a mapping from texts -/
def keyed (members : List (String × Document)) : List (Scalar × Document) := members.map fun e => (.text e.1, e.2)

/-- the entries together with that of the name -/
def entries (s : Siblings name) (d : Document) : List (Scalar × Document) :=
  keyed s.before ++ (.text name, d) :: keyed s.after

def mapping (s : Siblings name) (d : Document) : Document := .mapping (s.entries d)

/-- the value of another name -/
def value? (s : Siblings name) (other : String) : Option Document := lookup? other (keyed (s.before ++ s.after))

theorem texts (s : Siblings name) (d : Document) : ∀ e ∈ s.entries d, ∃ n, e.1 = .text n := by
  intro e he
  simp only [entries, keyed, List.mem_append, List.mem_cons, List.mem_map] at he
  rcases he with ⟨m, _, rfl⟩ | rfl | ⟨m, _, rfl⟩
  · exact ⟨m.1, rfl⟩
  · exact ⟨name, rfl⟩
  · exact ⟨m.1, rfl⟩

theorem lookup?_keyed_eq_none {members : List (String × Document)} (h : ∀ e ∈ members, e.1 ≠ name) :
    lookup? name (keyed members) = none := by
  cases hd : lookup? name (keyed members) with
  | none => rfl
  | some d =>
    obtain ⟨m, hm, heq⟩ := List.mem_map.1 (Document.mem_of_lookup? hd)
    cases heq
    exact absurd rfl (h m hm)

theorem lookup?_entries (s : Siblings name) (d : Document) : lookup? name (s.entries d) = some d := by
  have hbefore : lookup? name (keyed s.before) = none :=
    lookup?_keyed_eq_none fun e he => s.absent e (List.mem_append_left _ he)
  rw [entries, Document.lookup?_append, hbefore, Option.none_or, Document.lookup?, if_pos rfl]

theorem lookup?_entries_of_ne (s : Siblings name) (d : Document) {other : String} (hne : other ≠ name) :
    lookup? other (s.entries d) = s.value? other := by
  have hkey : Scalar.text name ≠ .text other := fun h => hne (Scalar.text.inj h).symm
  have hsplit : keyed (s.before ++ s.after) = keyed s.before ++ keyed s.after := List.map_append
  rw [entries, value?, hsplit, Document.lookup?_append, Document.lookup?_append, Document.lookup?, if_neg hkey]

theorem keys_entries (s : Siblings name) (d e : Document) :
    (s.entries d).map Prod.fst = (s.entries e).map Prod.fst := by
  simp only [entries, List.map_append, List.map_cons]

/-- A mapping from texts is open at each of its names. -/
theorem exists_of_lookup? {entries : List (Scalar × Document)} {d : Document} (h : Document.Keyed entries)
    (hd : lookup? name entries = some d) : ∃ s : Siblings name, s.entries d = entries := by
  obtain ⟨before, after, rfl⟩ := List.append_of_mem (Document.mem_of_lookup? hd)
  have hkeyed : ∀ l : List (Scalar × Document), (∀ e ∈ l, ∃ n, e.1 = .text n) → ∃ members, keyed members = l := by
    intro l hl
    induction l with
    | nil => exact ⟨[], rfl⟩
    | cons e rest ih =>
      obtain ⟨n, hn⟩ := hl e List.mem_cons_self
      obtain ⟨members, hmembers⟩ := ih fun e he => hl e (List.mem_cons_of_mem _ he)
      refine ⟨(n, e.2) :: members, ?_⟩
      rw [keyed, List.map_cons, ← hn]
      exact congrArg (e :: ·) hmembers
  obtain ⟨front, rfl⟩ := hkeyed before fun e he => h.texts e (List.mem_append_left _ he)
  obtain ⟨back, rfl⟩ := hkeyed after fun e he => h.texts e (List.mem_append_right _ (List.mem_cons_of_mem _ he))
  have hdistinct := h.distinct
  rw [List.map_append, List.map_cons, List.nodup_append, List.nodup_cons] at hdistinct
  obtain ⟨_, ⟨hback, _⟩, hfront⟩ := hdistinct
  have hkey : ∀ {members : List (String × Document)} {e}, e ∈ members →
      Scalar.text e.1 ∈ (keyed members).map Prod.fst := by
    intro members e he
    exact List.mem_map.2 ⟨_, List.mem_map.2 ⟨e, he, rfl⟩, rfl⟩
  refine ⟨⟨front, back, fun e he hname => ?_⟩, rfl⟩
  rcases List.mem_append.1 he with he | he
  · exact hfront _ (hkey he) _ List.mem_cons_self (by rw [hname])
  · exact hback (hname ▸ hkey he)

end Siblings

/-! ## Issues of one mapping -/

namespace Reading

/-- Among texts, a key that is astray is not one of those that are known. -/
theorem place_of_mem_strayKeys {known : List String} {entries : List (Scalar × Document)}
    (h : ∀ e ∈ entries, ∃ name, e.1 = .text name) {issue : Issue} (hissue : issue ∈ strayKeys known entries) :
    ∃ name, name ∉ known ∧ issue.place = [.key name] := by
  obtain ⟨e, he, hstray⟩ := List.mem_filterMap.1 hissue
  obtain ⟨key, d⟩ := e
  obtain ⟨name, hname⟩ := h _ he
  simp only at hname
  subst hname
  have hhere : Document.hasName name entries = true := Document.lookup?_isSome_iff.2 (List.mem_map_of_mem he)
  have hkey : strayKey known entries (.text name) = some issue := hstray
  simp only [strayKey, text?, hhere, Bool.and_true, decide_eq_true_eq] at hkey
  split at hkey
  · cases hkey
  · rename_i hunknown
    cases hkey
    exact ⟨name, hunknown, rfl⟩

end Reading

namespace Declaration

/-- **The issues of a schema are those of its declarations**, in turn, each below the step to its name. -/
theorem issues_schema {entries : List (Scalar × Document)} (h : ∀ e ∈ entries, ∃ name, e.1 = .text name) :
    (schema (.mapping entries)).issues =
      entries.flatMap fun e => (field e.2).issues.map (Issue.within (.ofKey e.1)) := by
  rw [schema, fields_eq_namedEntries, Checked.issues_map, Reading.issues_namedEntries h]

theorem framed_schema {ι : Type} {name : String} (s : Siblings name) (part : ι → Document) :
    Framed [.key name] (fun i => (schema (s.mapping (part i))).issues) fun i => (field (part i)).issues := by
  let issuesOf (members : List (String × Document)) : List Issue :=
    (Siblings.keyed members).flatMap fun e => (field e.2).issues.map (Issue.within (.ofKey e.1))
  refine ⟨issuesOf s.before, issuesOf s.after, fun issue hmem hprefix => ?_, fun i => ?_⟩
  · have hmember : ∃ e ∈ s.before ++ s.after, ∃ below, issue.place = .key e.1 :: below := by
      simp only [issuesOf, Siblings.keyed, ← List.flatMap_append, ← List.map_append] at hmem
      obtain ⟨entry, hentry, hmem⟩ := List.mem_flatMap.1 hmem
      obtain ⟨e, he, rfl⟩ := List.mem_map.1 hentry
      obtain ⟨inner, _, rfl⟩ := List.mem_map.1 hmem
      exact ⟨e, he, inner.place, rfl⟩
    obtain ⟨e, he, below, hplace⟩ := hmember
    rw [hplace, List.cons_prefix_cons] at hprefix
    exact s.absent e he (Step.key.inj hprefix.1).symm
  · show (schema (.mapping (s.entries (part i)))).issues = _
    rw [issues_schema (s.texts _), Siblings.entries, List.flatMap_append, List.flatMap_cons, List.append_assoc]
    rfl

/-- the issues of what stands beside the kind -/
def issuesBeside (entries : List (Scalar × Document)) : List Issue :=
  (Reading.keyed "sensitive" (.accepted false) Reading.truth entries).issues ++
    Reading.strayKeys ["kind", "sensitive", "default"] entries

theorem issues_fieldWith (kind : Checked (Kind Schema)) (entries : List (Scalar × Document)) :
    (fieldWith kind entries).issues = kind.issues ++ issuesBeside entries := by
  rw [fieldWith, Checked.issues_map, Checked.issues_and, Checked.issues_and, Checked.issues_ofIssues, issuesBeside,
    List.append_assoc]

/-- None of them stands below the kind. -/
theorem not_prefix_of_mem_issuesBeside {entries : List (Scalar × Document)}
    (h : ∀ e ∈ entries, ∃ name, e.1 = .text name) {issue : Issue} (hissue : issue ∈ issuesBeside entries)
    (place : List Step) : ¬ .key "kind" :: place <+: issue.place := by
  have hplace : ∃ name below, name ≠ "kind" ∧ issue.place = .key name :: below := by
    rcases List.mem_append.1 hissue with hmem | hmem
    · rw [Reading.keyed] at hmem
      split at hmem
      · rw [Checked.issues_within] at hmem
        obtain ⟨inner, _, rfl⟩ := List.mem_map.1 hmem
        exact ⟨"sensitive", inner.place, by decide, rfl⟩
      · cases hmem
    · obtain ⟨name, hunknown, hplace⟩ := Reading.place_of_mem_strayKeys h hmem
      refine ⟨name, [], ?_, hplace⟩
      rintro rfl
      exact hunknown List.mem_cons_self
  obtain ⟨name, below, hname, hplace⟩ := hplace
  rw [hplace, List.cons_prefix_cons]
  rintro ⟨hkey, _⟩
  exact hname (Step.key.inj hkey).symm

theorem issuesBeside_congr {entries others : List (Scalar × Document)}
    (hkeys : entries.map Prod.fst = others.map Prod.fst)
    (hsensitive : lookup? "sensitive" entries = lookup? "sensitive" others) :
    issuesBeside entries = issuesBeside others := by
  rw [issuesBeside, issuesBeside, Reading.keyed, Reading.keyed, hsensitive, Reading.strayKeys_congr hkeys]

theorem issues_elem {entries : List (Scalar × Document)} {d : Document} (h : lookup? "elem" entries = some d)
    (hnull : ¬ d.isNull) : (elem entries).issues = (schema d).issues.map (Issue.under [.key "elem"]) := by
  rw [elem_eq, h]
  simp only [if_neg hnull, Checked.issues_map, Checked.issues_within, Issue.map_within]

theorem issues_collectionKind {s : Shape} {entries : List (Scalar × Document)}
    (h : lookup? "kind" entries = some (.text s.name)) :
    (collectionKind s entries).issues = (elem entries).issues ++ Reading.strayKeys ["kind", "elem"] entries := by
  rw [collectionKind, tag_of_lookup? h, Checked.issues_map, Checked.issues_and, Checked.issues_and,
    Checked.issues_ofIssues]
  rfl

end Declaration

/-! ## Around the elements of a collection -/

/-- a declaration of a collection that is open at its elements -/
inductive Around where
  /-- with a key for the kind; the tag is valid -/
  | tagged (shape : Shape) (beside : Siblings "kind") (inside : Siblings "elem")
    (tag : inside.value? "kind" = some (.text shape.name))
  /-- without one; the type is that of a collection, so that the declaration is normalisable -/
  | flat (shape : Shape) (beside : Siblings "elem") (noKind : beside.value? "kind" = none)
    (type : beside.value? "type" = some (.text shape.name))

namespace Around

def shape : Around → Shape
  | .tagged shape _ _ _ => shape
  | .flat shape _ _ _ => shape

def fill (elem : Document) : Around → Document
  | .tagged _ beside inside _ => beside.mapping (inside.mapping elem)
  | .flat _ beside _ _ => beside.mapping elem

/-- where the elements are said to stand, in either form -/
def place (around : Around) : List Step := [.key "kind", .key around.shape.name, .key "elem"]

end Around

namespace Declaration

variable {ι : Type}

theorem framed_tagged {shape : Shape} (beside : Siblings "kind") (inside : Siblings "elem")
    (htag : inside.value? "kind" = some (.text shape.name)) (part : ι → Document) (hpart : ∀ i, ¬ (part i).isNull) :
    Framed [.key "kind", .key shape.name, .key "elem"]
      (fun i => (field (beside.mapping (inside.mapping (part i)))).issues) fun i => (schema (part i)).issues := by
  have hstray : ∀ d, Reading.strayKeys ["kind", "elem"] (inside.entries d) =
      Reading.strayKeys ["kind", "elem"] (inside.entries .null) :=
    fun d => Reading.strayKeys_congr (inside.keys_entries d .null)
  have hbeside : ∀ d, issuesBeside (beside.entries d) = issuesBeside (beside.entries .null) := by
    intro d
    refine issuesBeside_congr (beside.keys_entries d .null) ?_
    rw [beside.lookup?_entries_of_ne d (by decide), beside.lookup?_entries_of_ne .null (by decide)]
  refine ⟨[], (Reading.strayKeys ["kind", "elem"] (inside.entries .null)).map
    (Issue.under [.key "kind", .key shape.name]) ++ issuesBeside (beside.entries .null), ?_, fun i => ?_⟩
  · intro issue hmem hprefix
    rw [List.nil_append, List.mem_append] at hmem
    rcases hmem with hmem | hmem
    · obtain ⟨inner, hinner, rfl⟩ := List.mem_map.1 hmem
      obtain ⟨name, hunknown, hplace⟩ := Reading.place_of_mem_strayKeys (inside.texts .null) hinner
      simp only [Issue.under, hplace, List.cons_append, List.nil_append, List.cons_prefix_cons] at hprefix
      have hname : name = "elem" := (Step.key.inj hprefix.2.2.1).symm
      exact hunknown (by simp [hname])
    · exact not_prefix_of_mem_issuesBeside (beside.texts .null) hmem _ hprefix
  · have hkind : lookup? "kind" (inside.entries (part i)) = some (.text shape.name) := by
      rw [inside.lookup?_entries_of_ne _ (by decide), htag]
    have helem := issues_elem (inside.lookup?_entries (part i)) (hpart i)
    show (field (.mapping (beside.entries (.mapping (inside.entries (part i)))))).issues = _
    rw [field_tagged (beside.lookup?_entries _), issues_fieldWith, hbeside, taggedKind_collection hkind,
      Checked.issues_within, Checked.issues_within, issues_collectionKind hkind, helem, hstray]
    simp only [Issue.map_within, List.map_append, Issue.map_under_under, List.nil_append, List.cons_append,
      List.append_assoc]

theorem framed_flat {shape : Shape} (siblings : Siblings "elem") (hkind : siblings.value? "kind" = none)
    (htype : siblings.value? "type" = some (.text shape.name)) (part : ι → Document)
    (hpart : ∀ i, ¬ (part i).isNull) :
    Framed [.key "kind", .key shape.name, .key "elem"] (fun i => (field (siblings.mapping (part i))).issues)
      fun i => (schema (part i)).issues := by
  have hbeside : ∀ d, withKind (siblings.entries d) = withKind (siblings.entries .null) := by
    intro d
    simp only [withKind_eq, beside, Siblings.entries, List.filter_append, List.filter_cons]
    rfl
  refine ⟨[], issuesBeside (withKind (siblings.entries .null)), ?_, fun i => ?_⟩
  · intro issue hmem
    exact not_prefix_of_mem_issuesBeside (texts_withKind (siblings.texts .null)) hmem _
  · have hflat : lookup? "kind" (siblings.entries (part i)) = none := by
      rw [siblings.lookup?_entries_of_ne _ (by decide), hkind]
    have hcollection : lookup? "type" (siblings.entries (part i)) = some (.text shape.name) := by
      rw [siblings.lookup?_entries_of_ne _ (by decide), htype]
    have helem := issues_elem (siblings.lookup?_entries (part i)) (hpart i)
    show (field (.mapping (siblings.entries (part i)))).issues = _
    rw [field_collection hflat hcollection, issues_fieldWith, hbeside, Checked.issues_map, Checked.issues_within,
      Checked.issues_within, helem]
    simp only [Issue.map_within, Issue.map_under_under, List.nil_append, List.cons_append]

/-- **Around its elements, a collection has the same issues whatever the elements are.** -/
theorem framed_field (around : Around) (part : ι → Document) (hpart : ∀ i, ¬ (part i).isNull) :
    Framed around.place (fun i => (field (around.fill (part i))).issues) fun i => (schema (part i)).issues := by
  cases around with
  | tagged shape beside inside tag => exact framed_tagged beside inside tag part hpart
  | flat shape beside noKind type => exact framed_flat beside noKind type part hpart

end Declaration

/-! ## Schemas that are open at a declaration -/

/-- a schema that is open at a declaration of a field -/
inductive Hole where
  | here {name : String} (siblings : Siblings name)
  | inside {name : String} (siblings : Siblings name) (around : Around) (inner : Hole)

namespace Hole

/-- the schema with a declaration in its place -/
def fill (d : Document) : Hole → Document
  | .here siblings => siblings.mapping d
  | .inside siblings around inner => siblings.mapping (around.fill (inner.fill d))

/-- where the declaration stands -/
def place : Hole → List Step
  | @here name _ => [.key name]
  | @inside name _ around inner => .key name :: (around.place ++ inner.place)

theorem not_isNull_fill (hole : Hole) (d : Document) : ¬ (hole.fill d).isNull := by
  cases hole with
  | here | inside => exact Bool.false_ne_true

/-- **The issues of a schema keep to their places.** Those of a declaration stand below its own place, and all others
stand elsewhere and are the same whatever the declaration is. -/
theorem framed (hole : Hole) :
    Framed hole.place (fun d => (Declaration.schema (hole.fill d)).issues) fun d => (Declaration.field d).issues := by
  induction hole with
  | here siblings => exact Declaration.framed_schema siblings id
  | inside siblings around inner ih =>
    have hmember := Declaration.framed_schema siblings fun d => around.fill (inner.fill d)
    have haround := Declaration.framed_field around inner.fill inner.not_isNull_fill
    exact hmember.trans (haround.trans ih)

end Hole

/-! ## Places in a schema -/

/-- a declaration of a collection gives the elements, in either form -/
inductive GivesElements : Document → Shape → Document → Prop where
  | tagged {entries kind : List (Scalar × Document)} {shape : Shape} {elem : Document}
    (keyed : Document.Keyed entries) (under : lookup? "kind" entries = some (.mapping kind))
    (kindKeyed : Document.Keyed kind) (tag : lookup? "kind" kind = some (.text shape.name))
    (given : lookup? "elem" kind = some elem) : GivesElements (.mapping entries) shape elem
  | flat {entries : List (Scalar × Document)} {shape : Shape} {elem : Document} (keyed : Document.Keyed entries)
    (noKind : lookup? "kind" entries = none) (type : lookup? "type" entries = some (.text shape.name))
    (given : lookup? "elem" entries = some elem) : GivesElements (.mapping entries) shape elem

/-- a declaration of a field stands at a place of a schema, below collections that give their elements -/
inductive StandsAt : Document → List Step → Document → Prop where
  | here {entries : List (Scalar × Document)} {name : String} {d : Document} (keyed : Document.Keyed entries)
    (value : lookup? name entries = some d) : StandsAt (.mapping entries) [.key name] d
  | inside {entries : List (Scalar × Document)} {name : String} {collection elem d : Document} {shape : Shape}
    {place : List Step} (keyed : Document.Keyed entries) (value : lookup? name entries = some collection)
    (elements : GivesElements collection shape elem) (inner : StandsAt elem place d) :
    StandsAt (.mapping entries) ([.key name, .key "kind", .key shape.name, .key "elem"] ++ place) d

theorem Around.exists_of_givesElements {collection elem : Document} {shape : Shape}
    (h : GivesElements collection shape elem) : ∃ around : Around, around.shape = shape ∧ around.fill elem = collection := by
  cases h with
  | tagged hkeyed hunder hkind htag hgiven =>
    obtain ⟨beside, rfl⟩ := Siblings.exists_of_lookup? hkeyed hunder
    obtain ⟨inside, rfl⟩ := Siblings.exists_of_lookup? hkind hgiven
    rw [inside.lookup?_entries_of_ne elem (by decide)] at htag
    exact ⟨.tagged shape beside inside htag, rfl, rfl⟩
  | flat hkeyed hnone htype hgiven =>
    obtain ⟨beside, rfl⟩ := Siblings.exists_of_lookup? hkeyed hgiven
    rw [beside.lookup?_entries_of_ne elem (by decide)] at hnone htype
    exact ⟨.flat shape beside hnone htype, rfl, rfl⟩

/-- Every place of a schema that is reached through collections is that of a hole. -/
theorem Hole.exists_of_standsAt {s d : Document} {place : List Step} (h : StandsAt s place d) :
    ∃ hole : Hole, hole.place = place ∧ hole.fill d = s := by
  induction h with
  | here hkeyed hvalue =>
    obtain ⟨siblings, rfl⟩ := Siblings.exists_of_lookup? hkeyed hvalue
    exact ⟨.here siblings, rfl, rfl⟩
  | inside hkeyed hvalue helements _ ih =>
    obtain ⟨inner, rfl, rfl⟩ := ih
    obtain ⟨around, rfl, rfl⟩ := Around.exists_of_givesElements helements
    obtain ⟨siblings, rfl⟩ := Siblings.exists_of_lookup? hkeyed hvalue
    exact ⟨.inside siblings around inner, rfl, rfl⟩

/-! ## Completeness and locality -/

open Declaration (schema field Normalisable)

/-- The issues of a schema at a name and below are those of the declaration of the name. -/
theorem Declaration.filter_issues_schema {entries : List (Scalar × Document)} {name : String} {d : Document}
    (h : Document.Keyed entries) (hd : lookup? name entries = some d) :
    (schema (.mapping entries)).issues.filter (fun issue => [Step.key name] <+: issue.place) =
      (field d).issues.map (Issue.within (.key name)) := by
  obtain ⟨siblings, rfl⟩ := Siblings.exists_of_lookup? h hd
  exact (Hole.here siblings).framed.filter_at d

/-- **Issues are collected completely and locally.** The issues of a schema are those of its declarations, each below
the step to its name, and those at a name and below belong to its declaration alone. A flat declaration that cannot be
normalised is one issue at its own place. And wherever a declaration stands that is reached through collections,
replacing it by any other leaves the issues elsewhere as they are, and the issues at its place and below are those of
the new declaration read on its own. -/
theorem issues_complete_and_local :
    (∀ entries, Document.Keyed entries →
      (schema (.mapping entries)).issues =
          entries.flatMap (fun e => (field e.2).issues.map (Issue.within (.ofKey e.1))) ∧
        ∀ name d, lookup? name entries = some d →
          (schema (.mapping entries)).issues.filter (fun issue => [Step.key name] <+: issue.place) =
            (field d).issues.map (Issue.within (.key name))) ∧
    (∀ entries, lookup? "kind" entries = none → ¬ Normalisable entries →
      ∃ cause : Cause, cause.code = "value_error" ∧ (field (.mapping entries)).issues = [⟨[], cause⟩]) ∧
    (∀ s place old, StandsAt s place old → ∃ hole : Hole, hole.place = place ∧ hole.fill old = s) ∧
    ∀ (hole : Hole) (old new : Document),
      (schema (hole.fill new)).issues.filter (fun issue => ¬ hole.place <+: issue.place) =
          (schema (hole.fill old)).issues.filter (fun issue => ¬ hole.place <+: issue.place) ∧
        (schema (hole.fill new)).issues.filter (fun issue => hole.place <+: issue.place) =
          (field new).issues.map (Issue.under hole.place) := by
  refine ⟨?collected, ?masked, ?reached, ?kept⟩
  case collected =>
    intro entries hkeyed
    exact ⟨Declaration.issues_schema hkeyed.texts, fun name d hd => Declaration.filter_issues_schema hkeyed hd⟩
  case masked =>
    intro entries hflat hno
    exact Declaration.issues_of_not_normalisable hflat hno
  case reached =>
    intro s place old h
    exact Hole.exists_of_standsAt h
  case kept =>
    intro hole old new
    exact ⟨hole.framed.filter_elsewhere new old, hole.framed.filter_at new⟩

/-- a flat declaration that names no type; it is not sensitive in a known way either -/
def typelessSwitch : List (Scalar × Document) := [(.text "elem", .int 1), (.text "sensitive", .text "maybe")]

def switchEntries : List (Scalar × Document) := [(.text "on", .mapping typelessSwitch)]

/-- a list of such fields -/
def listEntries : List (Scalar × Document) :=
  [(.text "gates", .mapping [(.text "type", .text "list"), (.text "elem", .mapping switchEntries)])]

/-- Read in a schema, the declaration is one issue at its name; read in a list, it is one at its place there. -/
theorem typeless_switch_is_one_issue : ∃ cause : Cause, cause.code = "value_error" ∧
    (schema (.mapping switchEntries)).issues = [⟨[.key "on"], cause⟩] ∧
    (schema (.mapping listEntries)).issues.filter
        (fun issue => [.key "gates", .key "kind", .key "list", .key "elem", .key "on"] <+: issue.place) =
      [⟨[.key "gates", .key "kind", .key "list", .key "elem", .key "on"], cause⟩] := by
  obtain ⟨hcollected, hmasked, hreached, hkept⟩ := issues_complete_and_local
  have hno : ¬ Normalisable typelessSwitch := by
    rintro ⟨t, htype, _⟩
    cases htype
  obtain ⟨cause, hcode, hissues⟩ := hmasked typelessSwitch rfl hno
  have hswitch : Document.Keyed switchEntries := ⟨by simp [switchEntries], by simp [switchEntries]⟩
  have hlist : Document.Keyed listEntries := ⟨by simp [listEntries], by simp [listEntries]⟩
  have hvalue : lookup? "gates" listEntries =
      some (.mapping [(.text "type", .text "list"), (.text "elem", .mapping switchEntries)]) := rfl
  have hgates : GivesElements (.mapping [(.text "type", .text "list"), (.text "elem", .mapping switchEntries)]) .list
      (.mapping switchEntries) := .flat ⟨by simp, by simp⟩ rfl rfl rfl
  have hon : StandsAt (.mapping switchEntries) [.key "on"] (.mapping typelessSwitch) := .here hswitch rfl
  obtain ⟨hole, hplace, hfill⟩ := hreached _ _ _ (.inside hlist hvalue hgates hon)
  have hthere := (hkept hole (.mapping typelessSwitch) (.mapping typelessSwitch)).2
  rw [hplace, hfill, hissues] at hthere
  refine ⟨cause, hcode, ?_, hthere⟩
  rw [(hcollected _ hswitch).1, switchEntries, List.flatMap_singleton, hissues]
  rfl

end CatalogLint
