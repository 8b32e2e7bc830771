/-
Key order does not matter to a linter. Documents whose keys stand in another order are read as catalogs that are alike
and as the same exceptions, so there is the same linter, and it does the same work and leaves the same records.

A rule sees a schema as a mapping from names to fields, in the order of the names: the order in which the names were
written down is gone once a schema has been read, and no rule can look at it. But a rule may look into a default, which
is kept as it was written, with the order of its keys. So the rules must compare defaults as mappings, unless there are
no mappings in the defaults. Rules that check single fields do (`Rule.ChecksFields.comparesDefaults`).

- `Registry.SameChecks`: schemas that no rule tells apart, as all are that differ in the order of keys alone.
- `Linter.sameResults`: all that a linter says of two catalogs with such schemas.
- `key_order_never_matters`: reading and checking together.
-/
import CatalogLint.Proofs.Lint.Relaxation
import CatalogLint.Proofs.Validation.Reordering

namespace CatalogLint

open Document (Reordered)

/-! ## Rules and defaults -/

/-- the rule reports the same in schemas that differ in the order of keys in defaults alone -/
def Rule.ComparesDefaults (rule : Rule) : Prop :=
  ∀ s s' : Schema, s.Alike s' → ∀ names, rule.check s names = rule.check s' names

theorem RedundantDefault.isRedundant_congr {d d' : Document} (h : d.Reordered d') :
    RedundantDefault.isRedundant d = RedundantDefault.isRedundant d' := by
  cases h <;> rfl

theorem FieldCheck.verdict_congr (kind : FieldCheck) (names : NameSet) (name : String) {f f' : Field} (h : f.Alike f') :
    kind.verdict names name f = kind.verdict names name f' := by
  cases kind with
  | sensitivity =>
    have hoffends : Sensitivity.Offends name f ↔ Sensitivity.Offends name f' := by
      rw [Sensitivity.Offends, Sensitivity.Offends, h.sensitive_eq, h.type_eq]
    simp only [verdict, Sensitivity.verdict, hoffends]
  | booleanNaming =>
    have hoffends : BooleanNaming.Offends names name f ↔ BooleanNaming.Offends names name f' := by
      rw [BooleanNaming.Offends, BooleanNaming.Offends, h.type_eq]
    simp only [verdict, BooleanNaming.verdict, hoffends, h.type_eq]
  | redundantDefault =>
    have hoffends : RedundantDefault.Offends names name f ↔ RedundantDefault.Offends names name f' := by
      rw [RedundantDefault.Offends, RedundantDefault.Offends, RedundantDefault.isRedundant_congr h.default_reordered]
    simp only [verdict, RedundantDefault.verdict, hoffends]
  | flagged => rfl

/-- Rules that check single fields compare defaults as mappings. -/
theorem Rule.ChecksFields.comparesDefaults {rule : Rule} (h : rule.ChecksFields) : rule.ComparesDefaults := by
  obtain ⟨kind, hcheck⟩ := h
  intro s s' halike names
  have hfields : kind.check = Rule.fieldCheck kind.verdict := by
    cases kind <;> rfl
  rw [hcheck, hfields]
  exact Schema.firstViolation_congr halike fun name f f' hf => kind.verdict_congr names name hf

/-- the rules of this library check single fields -/
theorem Registry.builtin_checksFields : ∀ rule ∈ Registry.builtin.rules, rule.ChecksFields := by
  simp only [Registry.builtin, List.forall_mem_cons, List.not_mem_nil, false_implies, implies_true, and_true]
  exact ⟨⟨.sensitivity, rfl⟩, ⟨.booleanNaming, rfl⟩, .redundantDefault, rfl⟩

/-! ## Catalogs that are alike -/

/-- the same entries in the same order, and in each the same fields in the same order -/
structure Catalog.SameContents (c c' : Catalog) : Prop where
  entries : ∀ p, (c.get p).names = (c'.get p).names
  names : ∀ p e e', (e, e') ∈ (c.entries p).zip (c'.entries p) → e.2.names = e'.2.names
  items : ∀ p e e', (e, e') ∈ (c.entries p).zip (c'.entries p) → Fields.Alike e.2.items e'.2.items

theorem Catalog.Alike.sameContents {c c' : Catalog} (h : c.Alike c') : c.SameContents c' := by
  have hentries := fun p => Entries.alike_iff_zip.1 (h p)
  refine ⟨fun p => (hentries p).1, fun p e e' hmem => ?_, fun p => (hentries p).2⟩
  exact (Entries.alike_iff_zip.1 ((hentries p).2 e e' hmem)).1

/-- no default at any depth holds a mapping -/
def Catalog.DefaultsFlat (c : Catalog) : Prop :=
  ∀ p, ∀ e ∈ c.entries p, ∀ v ∈ e.2.visits, ¬ v.field.default.HoldsMapping

theorem Catalog.eq_of_alike {c c' : Catalog} (h : c.Alike c') (hflat : c.DefaultsFlat) : c = c' := by
  refine Partitioned.ext_get fun p => NameMap.eq_of_alike ?_
  refine Entries.alike_iff_zip.2 ⟨(Entries.alike_iff_zip.1 (h p)).1, fun e e' hmem => ?_⟩
  have halike : e.2.Alike e'.2 := (Entries.alike_iff_zip.1 (h p)).2 e e' hmem
  exact Schema.ext (Fields.eq_of_alike halike (hflat p e (List.of_mem_zip hmem).1))

/-! ## Linters and schemas -/

/-- no rule tells the schemas apart -/
def Registry.SameChecks (r : Registry) (s s' : Schema) : Prop :=
  ∀ rule ∈ r.rules, ∀ names, rule.check s names = rule.check s' names

theorem Registry.sameChecks_of_alike {r : Registry} {c c' : Catalog} (h : c.Alike c')
    (hr : (∀ rule ∈ r.rules, rule.ComparesDefaults) ∨ c.DefaultsFlat) (p : Partition) :
    Entries.Alike r.SameChecks (c.entries p) (c'.entries p) := by
  -- either the rules overlook the order of keys, or there is none to be seen and the catalogs are one
  rcases hr with hcompares | hflat
  · refine List.Forall₂.imp (fun e e' he => ⟨he.1, fun rule hrule names => ?_⟩) (h p)
    exact hcompares rule hrule e.2 e'.2 he.2 names
  · rw [← Catalog.eq_of_alike h hflat]
    exact List.forall₂_same.2 fun e _ => ⟨rfl, fun rule _ names => rfl⟩

namespace Linter

variable (l : Linter) {s s' : Schema} {c c' : Catalog}

theorem checkEntry_of_sameChecks (h : l.registry.SameChecks s s') (p : Partition) (entry : String) :
    l.checkEntry p entry s = l.checkEntry p entry s' := by
  refine checkRules_congr fun rule hrule => ?_
  rw [checkRule, checkRule, h rule hrule]

/-- what a linter says of two catalogs is the same -/
structure SameResults (c c' : Catalog) : Prop where
  rule : ∀ p e e', (e, e') ∈ (c.entries p).zip (c'.entries p) → ∀ rule ∈ l.registry.rules, ∀ names,
    rule.check e.2 names = rule.check e'.2 names
  entry : ∀ p e e', (e, e') ∈ (c.entries p).zip (c'.entries p) → ∀ q name,
    l.checkEntry q name e.2 = l.checkEntry q name e'.2
  partition : ∀ p, l.checkPartition c p = l.checkPartition c' p
  catalog : l.checkCatalog c = l.checkCatalog c'

/-- **Catalogs that the rules cannot tell apart have the same results**, with the same records. -/
theorem sameResults (h : ∀ p, Entries.Alike l.registry.SameChecks (c.entries p) (c'.entries p)) :
    l.SameResults c c' := by
  have hpartition : ∀ p, l.checkPartition c p = l.checkPartition c' p := by
    intro p
    refine checkPartition_congr rfl ((h p).imp fun e e' he => ?_)
    rw [he.1]
    exact l.checkEntry_of_sameChecks he.2 p e'.1
  have hchecks := fun p => (Entries.alike_iff_zip.1 (h p)).2
  refine ⟨hchecks, fun p e e' hmem q name => ?_, hpartition, checkCatalog_congr hpartition⟩
  exact l.checkEntry_of_sameChecks (hchecks p e e' hmem) q name

end Linter

/-! ## Reading and checking -/

/-- **Key order never matters.** Take two documents for a catalog and two for exceptions, each the same but for the
order of keys in their mappings, at any depth. Both are accepted or neither is, with the same issues: as often, at the
same places, of the same kinds and with the same messages, except where a message prints a mapping. The catalogs that
are read have the same entries in the same order, and these the same fields in the same order, at every depth, with the
same defaults but for the order of keys; the exceptions are the same. So every registry whose rules compare defaults as
mappings, or any at all where no default holds one, admits both exceptions or refuses both alike, and then every rule,
entry, partition and the whole catalog is checked alike, to the same end and with the same records. -/
theorem key_order_never_matters {d d' e e' : Document} (hd : d.Reordered d') (he : e.Reordered e') :
    (Catalog.read d).Agree Catalog.Alike (Catalog.read d') ∧
    (ExceptionRegistry.read e).Agree (· = ·) (ExceptionRegistry.read e') ∧
    (∀ c c' x x', Catalog.read d = .accepted c → Catalog.read d' = .accepted c' →
      ExceptionRegistry.read e = .accepted x → ExceptionRegistry.read e' = .accepted x' →
      c.SameContents c' ∧ ∀ registry : Registry, (∀ rule ∈ registry.rules, rule.ComparesDefaults) ∨ c.DefaultsFlat →
        Linter.make registry x = Linter.make registry x' ∧
          ∀ l, Linter.make registry x = .ok l → l.SameResults c c') ∧
    ∀ rule : Rule, rule.ChecksFields → rule.ComparesDefaults := by
  have hcatalog := Catalog.read_agree hd
  have hexceptions := ExceptionRegistry.read_agree he
  refine ⟨hcatalog, hexceptions, ?_, fun rule hrule => hrule.comparesDefaults⟩
  intro c c' x x' hc hc' hx hx'
  have halike : c.Alike c' := hcatalog.alike_of_accepted hc hc'
  have hsame : x = x' := hexceptions.alike_of_accepted hx hx'
  subst hsame
  refine ⟨halike.sameContents, fun registry hregistry => ⟨rfl, fun l hl => l.sameResults fun p => ?_⟩⟩
  rw [(Linter.make_eq_ok hl).1]
  exact Registry.sameChecks_of_alike halike hregistry p

def range : Document := .mapping [(.text "low", .int 0), (.text "high", .int 9)]

def swappedRange : Document := .mapping [(.text "high", .int 9), (.text "low", .int 0)]

/-- a resource with a size, and a switch that is none and has a mapping for its default -/
def rangedDisk : Document :=
  .mapping [(.text "resources", .mapping [(.text "disk", .mapping [
      (.text "size", .mapping [(.text "type", .text "int")]),
      (.text "cache_enabled", .mapping [(.text "type", .text "string"), (.text "default", range)])])]),
    (.text "data_sources", .mapping [])]

/-- the same with the keys of all mappings in the other order -/
def swappedDisk : Document :=
  .mapping [(.text "data_sources", .mapping []),
    (.text "resources", .mapping [(.text "disk", .mapping [
      (.text "cache_enabled", .mapping [(.text "default", swappedRange), (.text "type", .text "string")]),
      (.text "size", .mapping [(.text "type", .text "int")])])])]

/-- what the disks are read as, but for the default of the switch -/
def diskWith (default : Document) : Catalog where
  dataSources := .empty
  resources := NameMap.empty.insert "disk" <|
    (Schema.empty.putNew "size" (Field.ofKind (.primitive .int) false .null)).putNew "cache_enabled"
      (Field.ofKind (.primitive .string) false default)

/-- exceptions that are for another entry -/
def tapeExceptions : Document :=
  .mapping [(.text "boolean_naming", .mapping [(.text "data_sources", .mapping []),
      (.text "resources", .mapping [(.text "tape", .list [.text "cache_enabled"])])]),
    (.text "redundant_name_default", .mapping [])]

def swappedTapeExceptions : Document :=
  .mapping [(.text "redundant_name_default", .mapping []),
    (.text "boolean_naming", .mapping [(.text "resources", .mapping [(.text "tape", .list [.text "cache_enabled"])]),
      (.text "data_sources", .mapping [])])]

def tapeLinter : Linter where
  registry := .builtin
  exceptions := ⟨[("boolean_naming", ⟨.empty, ⟨[("tape", .ofList ["cache_enabled"])], by decide⟩⟩),
    ("redundant_name_default", ⟨.empty, .empty⟩)], by decide⟩
  admitted := by decide

/-- Both disks are read, with defaults that are not the same; and the switch fails in both, with the same records. -/
theorem swapped_disk_fails_alike : Catalog.read rangedDisk = .accepted (diskWith range) ∧
    Catalog.read swappedDisk = .accepted (diskWith swappedRange) ∧ range ≠ swappedRange ∧
    ExceptionRegistry.read tapeExceptions = .accepted tapeLinter.exceptions ∧
    ExceptionRegistry.read swappedTapeExceptions = .accepted tapeLinter.exceptions ∧
    (∃ f, (tapeLinter.checkCatalog (diskWith range)).outcome = .error f) ∧
    tapeLinter.checkCatalog (diskWith range) = tapeLinter.checkCatalog (diskWith swappedRange) := by
  have hempty : (Document.mapping []).Reordered (.mapping []) :=
    .mapping (by simp [Document.DistinctNames]) (.refl _) (by simp)
  have hrange : range.Reordered swappedRange := .swap (by decide) (.scalar _) (.scalar _)
  have hdisk : rangedDisk.Reordered swappedDisk := by
    refine .swap (by decide) (.one (.swap (by decide) (.one (.scalar _)) ?_)) hempty
    exact .swap (by decide) (.scalar _) hrange
  have htape : tapeExceptions.Reordered swappedTapeExceptions := by
    refine .swap (by decide) (.swap (by decide) hempty (.one (.list rfl ?_))) hempty
    simpa using .scalar _
  have hread : Catalog.read rangedDisk = .accepted (diskWith range) := by cbv
  have hread' : Catalog.read swappedDisk = .accepted (diskWith swappedRange) := by cbv
  have hrules : ∀ rule ∈ Registry.builtin.rules, rule.ComparesDefaults :=
    fun rule hrule => (Registry.builtin_checksFields rule hrule).comparesDefaults
  have hmade : Linter.make .builtin tapeLinter.exceptions = .ok tapeLinter := rfl
  obtain ⟨_, hresults⟩ := (key_order_never_matters hdisk htape).2.2.1 _ _ _ _ hread hread' rfl rfl
  refine ⟨hread, hread', by simp [range, swappedRange], rfl, rfl, ⟨_, rfl⟩, ?_⟩
  exact ((hresults .builtin (Or.inl hrules)).2 tapeLinter hmade).catalog

end CatalogLint
