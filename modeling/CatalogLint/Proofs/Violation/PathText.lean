/-
Path texts tell fields apart. `PathText.names` reads the names back from a text, at each separator from left to right.

- `PathText.pieces_append`: a name without an arrow is read to its end and no further, whatever blanks it has at its
  edges.
- `Violation.names_path`: so the names that a path text was made of are read back from it.
- `Linter.exists_visit_of_failure`: a run that fails reports a field of one of the entries.

An arrow alone can be the end of one name or the start of the next, so names with arrows are left out.
-/
import CatalogLint.Proofs.Lint.Relaxation
import CatalogLint.Proofs.Schema.Descent
import CatalogLint.Proofs.Violation.Nesting

namespace CatalogLint

/-! ## Reading a path text -/

/-- no name has an arrow in it -/
def Arrowless (names : List String) : Prop := ∀ name ∈ names, '→' ∉ name.toList

instance (names : List String) : Decidable (Arrowless names) :=
  inferInstanceAs (Decidable (∀ name ∈ names, '→' ∉ name.toList))

namespace PathText

/-- what stands between the separators, from left to right -/
def pieces : List Char → List (List Char)
  | [] => [[]]
  | ' ' :: '→' :: ' ' :: rest => [] :: pieces rest
  | c :: rest => (pieces rest).modifyHead (c :: ·)

/-- the names that a path text was made of -/
def names (text : String) : List String := (pieces text.toList).map String.ofList

/-- A character that does not start a separator belongs to the first piece. -/
theorem pieces_cons {c : Char} {rest : List Char} (h : c = ' ' → rest.head? ≠ some '→') :
    pieces (c :: rest) = (pieces rest).modifyHead (c :: ·) := by
  rw [pieces]
  rintro after rfl rfl
  exact h rfl rfl

theorem pieces_separator (rest : List Char) : pieces (Violation.pathSeparator.toList ++ rest) = [] :: pieces rest := rfl

/-- What has no arrow, and none right behind it, belongs to the first piece as a whole. Its last character may be a
blank, so the arrow behind it has to be excluded too. -/
theorem pieces_append {name rest : List Char} (hname : '→' ∉ name) (hrest : rest.head? ≠ some '→') :
    pieces (name ++ rest) = (pieces rest).modifyHead (name ++ ·) := by
  induction name with
  | nil =>
    rw [List.nil_append]
    cases pieces rest <;> rfl
  | cons c name ih =>
    have hlater := List.not_mem_of_not_mem_cons hname
    have hbehind : (name ++ rest).head? ≠ some '→' := by
      cases name with
      | nil => exact hrest
      | cons b _ =>
        rintro ⟨⟩
        exact hlater List.mem_cons_self
    calc pieces (c :: name ++ rest)
        = (pieces (name ++ rest)).modifyHead (c :: ·) := pieces_cons fun _ => hbehind
      _ = ((pieces rest).modifyHead (name ++ ·)).modifyHead (c :: ·) := by rw [ih hlater]
      _ = (pieces rest).modifyHead (c :: name ++ ·) := by rw [List.modifyHead_modifyHead]; rfl

theorem names_of_arrowless {name : String} (h : '→' ∉ name.toList) : names name = [name] := by
  have hpieces : pieces name.toList = [name.toList] := by
    rw [← List.append_nil name.toList, pieces_append h (by simp)]
    rfl
  simp [names, hpieces]

theorem names_separator {name : String} (h : '→' ∉ name.toList) (rest : String) :
    names (name ++ Violation.pathSeparator ++ rest) = name :: names rest := by
  have hpieces : pieces (name.toList ++ (Violation.pathSeparator.toList ++ rest.toList)) =
      name.toList :: pieces rest.toList := by
    rw [pieces_append h (by simp [Violation.pathSeparator]), pieces_separator]
    simp
  simp [names, hpieces]

/-- **Names without arrows are read back.** They may be empty, and they may start and end with blanks. -/
theorem names_intercalate {names : List String} (hne : names ≠ []) (h : Arrowless names) :
    PathText.names (Violation.pathSeparator.intercalate names) = names := by
  induction names with
  | nil => exact absurd rfl hne
  | cons name rest ih =>
    obtain ⟨hname, hrest⟩ := List.forall_mem_cons.1 h
    cases rest with
    | nil => simpa using names_of_arrowless hname
    | cons next others =>
      rw [String.intercalate_cons_cons, names_separator hname, ih (List.cons_ne_nil _ _) hrest]

end PathText

namespace Violation

theorem names_path {v : Violation} (h : Arrowless v.fieldPath) : PathText.names v.path = v.fieldPath :=
  PathText.names_intercalate v.fieldPath_ne_nil h

/-- **Without arrows in the names, equal texts are of equal paths.** -/
theorem path_eq_iff {v w : Violation} (hv : Arrowless v.fieldPath) (hw : Arrowless w.fieldPath) :
    v.path = w.path ↔ v.fieldPath = w.fieldPath := by
  constructor
  · intro h
    rw [← names_path hv, h, names_path hw]
  · intro h
    rw [path, path, h]

/-- an arrow alone does not tell on which side of the separator it stands -/
example : path ⟨.plain, "→ b", "", [("a", "List")]⟩ = path ⟨.plain, "b", "", [("a →", "List")]⟩ := by decide

end Violation

/-! ## Fields of one entry -/

namespace Schema

/-- The texts of two fields of a schema differ, when their names have no arrows. -/
theorem path_eq_iff {s : Schema} {v w : Visit} (hv : v ∈ s.visits) (hw : w ∈ s.visits) (harrows : Arrowless v.path)
    (harrows' : Arrowless w.path) {found other : Violation} (hfound : found.fieldPath = v.path)
    (hother : other.fieldPath = w.path) : found.path = other.path ↔ v = w := by
  rw [Violation.path_eq_iff (hfound ▸ harrows) (hother ▸ harrows'), hfound, hother]
  constructor
  · exact eq_of_path_eq hv hw
  · rintro rfl
    rfl

end Schema

/-- A run that fails reports a field of the entry that it names. -/
theorem Linter.exists_visit_of_failure {l : Linter} (hrules : ∀ rule ∈ l.registry.rules, rule.ChecksFields)
    {c : Catalog} {f : Failure} (h : (l.checkCatalog c).outcome = .error f) {s : Schema}
    (hentry : (c.get f.partition).get? f.entry = some s) : ∃ v ∈ s.visits, f.violation.fieldPath = v.path := by
  obtain ⟨verdicts, heased⟩ := Registry.exists_verdicts hrules
  obtain ⟨site, hreached, _, hat, _⟩ := least_site heased h
  have hpresent := hreached.present
  rw [Check.Present, ← hat.partition, ← hat.entry, hentry] at hpresent
  cases hpresent
  exact ⟨site.visit, hreached.visited, hat.fieldPath⟩

/-- **Path texts identify fields.** Violations of any rule, inside any number of fields, whose names have no arrows have
the same text exactly if they have the same path, with empty names and blanks at the edges of names as well. So what
fails on two different fields of one entry has two different texts. Runs of any linters with rules that check single
fields do fail on fields: where two of them fail on entries with the same schema, their texts are the same exactly if it
is the same field. -/
theorem path_text_identifies_field :
    (∀ v w : Violation, Arrowless v.fieldPath → Arrowless w.fieldPath → (v.path = w.path ↔ v.fieldPath = w.fieldPath)) ∧
    (∀ s : Schema, ∀ v ∈ s.visits, ∀ w ∈ s.visits, Arrowless v.path → Arrowless w.path → v ≠ w →
      ∀ f g : Failure, f.violation.fieldPath = v.path → g.violation.fieldPath = w.path → f.fieldPath ≠ g.fieldPath) ∧
    ∀ l m : Linter, (∀ rule ∈ l.registry.rules, rule.ChecksFields) → (∀ rule ∈ m.registry.rules, rule.ChecksFields) →
      ∀ (c d : Catalog) (f g : Failure), (l.checkCatalog c).outcome = .error f → (m.checkCatalog d).outcome = .error g →
      ∀ s : Schema, (c.get f.partition).get? f.entry = some s → (d.get g.partition).get? g.entry = some s →
        ∃ v ∈ s.visits, ∃ w ∈ s.visits, f.violation.fieldPath = v.path ∧ g.violation.fieldPath = w.path ∧
          (Arrowless v.path → Arrowless w.path → (f.fieldPath = g.fieldPath ↔ v = w)) := by
  refine ⟨fun v w hv hw => Violation.path_eq_iff hv hw, ?fields, ?runs⟩
  case fields =>
    intro s v hv w hw harrows harrows' hne f g hf hg heq
    exact hne ((Schema.path_eq_iff hv hw harrows harrows' hf hg).1 heq)
  case runs =>
    intro l m hl hm c d f g hf hg s hsf hsg
    obtain ⟨v, hv, hfv⟩ := Linter.exists_visit_of_failure hl hf hsf
    obtain ⟨w, hw, hgw⟩ := Linter.exists_visit_of_failure hm hg hsg
    exact ⟨v, hv, w, hw, hfv, hgw, fun harrows harrows' => Schema.path_eq_iff hv hw harrows harrows' hfv hgw⟩

/-- a rule that refuses zones, with a blank before the name and without one -/
def zonesRule : Rule where
  name := "no_zones"
  description := "There are no fields for zones"
  check := Flagged.check [" zone", "zone"] "a zone is given"
  failureSummary := "has a zone"

def zones : Registry := ⟨[zonesRule], by decide⟩

/-- two zones, where the blank is on the one or on the other side of the separator -/
def zonedRacks : Schema :=
  ⟨[("a", ⟨.collection .list (some [(" zone", ⟨.primitive .string, false, .null⟩)]), false, .null⟩),
    ("a ", ⟨.collection .list (some [("zone", ⟨.primitive .string, false, .null⟩)]), false, .null⟩)], rfl⟩

def racks : Catalog := ⟨⟨[("rack", zonedRacks)], by decide⟩, .empty⟩

def rackZoneExcepted : ExceptionRegistry :=
  ⟨[("no_zones", ⟨⟨[("rack", .ofList [" zone"])], by decide⟩, .empty⟩)], by decide⟩

/-- The texts of the two zones differ in the place of one blank only, and this tells them apart. -/
theorem blank_tells_zones_apart : ∃ l m f g, Linter.make zones .empty = .ok l ∧
    Linter.make zones rackZoneExcepted = .ok m ∧ (l.checkCatalog racks).outcome = .error f ∧
    (m.checkCatalog racks).outcome = .error g ∧
    f.violation.fieldPath = ["a", " zone"] ∧ g.violation.fieldPath = ["a ", "zone"] ∧ f.fieldPath ≠ g.fieldPath := by
  have hrules : ∀ rule ∈ zones.rules, rule.ChecksFields := by
    simp only [zones, List.forall_mem_singleton]
    exact ⟨.flagged [" zone", "zone"] "a zone is given", rfl⟩
  let l : Linter := ⟨zones, .empty, by decide⟩
  let m : Linter := ⟨zones, rackZoneExcepted, by decide⟩
  obtain ⟨_, _, hruns⟩ := path_text_identifies_field
  obtain ⟨v, _, w, _, hv, hw, htexts⟩ := hruns l m hrules hrules racks racks _ _ rfl rfl zonedRacks rfl rfl
  refine ⟨l, m, _, _, rfl, rfl, rfl, rfl, rfl, rfl, fun heq => ?_⟩
  have hsame := (htexts (hv ▸ by decide) (hw ▸ by decide)).1 heq
  rw [hsame, ← hw] at hv
  revert hv
  decide

end CatalogLint
