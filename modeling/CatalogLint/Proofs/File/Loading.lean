/-
Loading a file against reading its document. Documents that count as empty are listed by `Document.CountsAsEmpty`: no
value, false and zero, and all that has nothing inside. They are loaded as the declaration without contents, also where
they are no mappings and reading them gives an issue. All other documents are loaded as they are read.

- `Document.isBlank_iff`: the test that the loader makes is true of just these documents.
- `Reads.loadsLike`: the outcome of loading, for any form that is read from mappings alone.

Both loaders, that of catalogs and that of configurations, have this outcome, whatever document the text is read as; so
the documents on which loading differs from reading are those that count as empty and are no mappings.
-/
import CatalogLint.File.Load
import CatalogLint.Proofs.Document.Lookup

namespace CatalogLint

/-! ## Zeros -/

namespace Binary64

theorem significand_eq_zero_iff {word : Nat} : significand word = 0 ↔ word = 0 := by
  have hfractions : 0 < fractions := by decide
  unfold significand
  split
  · exact Iff.rfl
  · omega

theorem magnitude_eq_zero_iff {word : Nat} : (magnitude word).1 = 0 ↔ word = 0 := by
  refine Iff.trans ?_ significand_eq_zero_iff
  unfold magnitude
  split
  · rename_i e _
    have hpower : Nat.pow 2 e ≠ 0 := Nat.ne_of_gt (Nat.two_pow_pos e)
    simp only [Nat.mul_eq_zero, hpower, or_false]
  · rfl

theorem wholeQuotient_eq_zero_iff {n d : Int} : (if n % d = 0 then some (n / d) else none) = some 0 ↔ n = 0 := by
  constructor
  · intro h
    split at h
    · rename_i hdivides
      have hsum := Int.emod_add_mul_ediv n d
      rw [hdivides, Option.some.inj h, Int.mul_zero] at hsum
      exact hsum.symm
    · cases h
  · rintro rfl
    simp

/-- Zero has one word of magnitude, under either sign. -/
theorem toInt?_eq_zero_iff {x : Binary64} : x.toInt? = some 0 ↔ ∃ negative, x = zero negative := by
  cases x with
  | nan | infinite => simp [toInt?, ratio?, zero]
  | finite negative word =>
    obtain ⟨word, hword⟩ := word
    have hword_zero : word = 0 ↔ (magnitude word).1 = 0 := magnitude_eq_zero_iff.symm
    simp only [toInt?, ratio?, wholeQuotient_eq_zero_iff, zero, finite.injEq, Fin.mk.injEq, exists_eq_left', hword_zero]
    cases negative <;> simp

end Binary64

/-! ## Documents that count as empty -/

namespace Document

/-- no value, false, zero, or nothing inside -/
inductive CountsAsEmpty : Document → Prop where
  | null : CountsAsEmpty .null
  | no : CountsAsEmpty (.bool false)
  | zero : CountsAsEmpty (.int 0)
  | floatZero (negative : Bool) : CountsAsEmpty (.scalar (.float (.zero negative)))
  | noText : CountsAsEmpty (.text "")
  | noBytes : CountsAsEmpty (.scalar (.bytes []))
  | noItems : CountsAsEmpty (.list [])
  | noMembers : CountsAsEmpty (.set [])
  | noEntries : CountsAsEmpty (.mapping [])

theorem isBlank_of_countsAsEmpty {d : Document} (h : d.CountsAsEmpty) : d.isBlank := by
  cases h with
  | floatZero negative => exact beq_iff_eq.2 (Binary64.toInt?_eq_zero_iff.2 ⟨negative, rfl⟩)
  | null | no | zero | noText | noBytes | noItems | noMembers | noEntries => rfl

theorem countsAsEmpty_of_scalar {s : Scalar} (h : s.isBlank) : CountsAsEmpty (.scalar s) := by
  cases s with
  | null => exact .null
  | bool b =>
    cases b with
    | false => exact .no
    | true => cases h
  | int n =>
    simp only [Scalar.isBlank, Scalar.int?, beq_iff_eq, Option.some.injEq] at h
    rw [h]
    exact .zero
  | float x =>
    simp only [Scalar.isBlank, Scalar.int?, beq_iff_eq] at h
    obtain ⟨negative, rfl⟩ := Binary64.toInt?_eq_zero_iff.1 h
    exact .floatZero negative
  | text s =>
    simp only [Scalar.isBlank, beq_iff_eq] at h
    rw [h]
    exact .noText
  | bytes b =>
    simp only [Scalar.isBlank, List.isEmpty_iff] at h
    rw [h]
    exact .noBytes
  | date | moment => simp [Scalar.isBlank, Scalar.int?] at h

theorem isBlank_iff {d : Document} : d.isBlank ↔ d.CountsAsEmpty := by
  refine ⟨fun h => ?_, isBlank_of_countsAsEmpty⟩
  cases d with
  | scalar s => exact countsAsEmpty_of_scalar h
  | list items =>
    cases List.isEmpty_iff.1 h
    exact .noItems
  | set members =>
    cases List.isEmpty_iff.1 h
    exact .noMembers
  | mapping entries =>
    cases List.isEmpty_iff.1 h
    exact .noEntries
  | pair | again => cases h

def isMapping : Document → Bool
  | .mapping _ => true
  | _ => false

/-- Of the documents that count as empty, one is a mapping. -/
theorem CountsAsEmpty.eq_of_isMapping {d : Document} (h : d.CountsAsEmpty) (hmapping : d.isMapping) :
    d = .mapping [] := by
  cases h with
  | noEntries => rfl
  | null | no | zero | floatZero | noText | noBytes | noItems | noMembers => cases hmapping

theorem orEmpty_of_countsAsEmpty {d : Document} (h : d.CountsAsEmpty) : d.orEmpty = .mapping [] :=
  if_pos (isBlank_iff.2 h)

theorem orEmpty_of_not_countsAsEmpty {d : Document} (h : ¬ d.CountsAsEmpty) : d.orEmpty = d :=
  if_neg fun hblank => h (isBlank_iff.1 hblank)

end Document

/-! ## One form -/

section Form

variable {α : Type} {read : Document → Checked α} {empty : α} {form : Form}

/-- a form is read from mappings alone, and from the empty one without contents -/
structure Reads (read : Document → Checked α) (empty : α) (form : Form) : Prop where
  noEntries : read (.mapping []) = .accepted empty
  notAMapping : ∀ d : Document, ¬ d.isMapping → read d = .reject (.notAForm form)

/-- the outcome of loading a document, against that of reading it -/
structure LoadsLike (read : Document → Checked α) (empty : α) (form : Form) (d : Document)
    (outcome : Except LoadError α) : Prop where
  blank : d.CountsAsEmpty → outcome = .ok empty
  other : ¬ d.CountsAsEmpty → outcome = (read d).toExcept
  rejected : ¬ d.CountsAsEmpty → ¬ d.isMapping → outcome = .error (.invalid ⟨[], .notAForm form⟩ [])
  agrees_iff : outcome = (read d).toExcept ↔ (d.CountsAsEmpty → d.isMapping)

/-- **A form is loaded as it is read, but for what counts as empty.** -/
theorem Reads.loadsLike (h : Reads read empty form) {d : Document} {outcome : Except LoadError α}
    (houtcome : outcome = (read d.orEmpty).toExcept) : LoadsLike read empty form d outcome := by
  subst houtcome
  have hblank : d.CountsAsEmpty → (read d.orEmpty).toExcept = .ok empty := by
    intro hd
    rw [Document.orEmpty_of_countsAsEmpty hd, h.noEntries]
    rfl
  have hother : ¬ d.CountsAsEmpty → (read d.orEmpty).toExcept = (read d).toExcept := by
    intro hd
    rw [Document.orEmpty_of_not_countsAsEmpty hd]
  have hissue : ¬ d.isMapping → (read d).toExcept = .error (.invalid ⟨[], .notAForm form⟩ []) := by
    intro hd
    rw [h.notAMapping d hd]
    rfl
  refine ⟨hblank, hother, fun hd hmapping => (hother hd).trans (hissue hmapping), ?_⟩
  by_cases hd : d.CountsAsEmpty
  · rw [hblank hd]
    constructor
    · intro hagrees _
      refine Classical.byContradiction fun hmapping => ?_
      rw [hissue hmapping] at hagrees
      cases hagrees
    · intro hmapping
      rw [hd.eq_of_isMapping (hmapping hd), h.noEntries]
      rfl
  · exact ⟨fun _ hempty => absurd hempty hd, fun _ => hother hd⟩

end Form

theorem Catalog.reads : Reads Catalog.read .empty .catalog := by
  refine ⟨rfl, fun d hd => ?_⟩
  cases d with
  | mapping => exact absurd rfl hd
  | scalar | list | set | pair | again => rfl

theorem Config.reads : Reads Config.read .empty .config := by
  refine ⟨rfl, fun d hd => ?_⟩
  cases d with
  | mapping => exact absurd rfl hd
  | scalar | list | set | pair | again => rfl

/-! ## The loaders -/

section Loaders

variable {dir : Directory} {parse : String → Except Yaml.Fault Document} {path : Path} {d : Document}

theorem Directory.document_of_file {what text : String} (hfile : dir.find path = .file text) (hd : parse text = .ok d) :
    dir.document parse what path = .ok d.orEmpty := by
  rw [Directory.document, hfile]
  simp only [hd]
  rfl

/-- A record that is left at the end changes no outcome. -/
theorem Run.outcome_noted {ε α : Type} (x : Except ε α) (record : α → Record) :
    (Run.ofExcept x >>= fun a => Run.note (record a) >>= fun _ => pure a).outcome = x := by
  cases x <;> rfl

theorem Catalog.outcome_loadWith (h : dir.document parse "Catalog" path = .ok d) :
    (Catalog.loadWith parse dir path).outcome = (Catalog.read d).toExcept := by
  rw [Catalog.loadWith, h]
  exact Run.outcome_noted _ _

theorem Config.outcome_loadFrom (h : dir.document parse "Config" path = .ok d) :
    (Config.loadFrom parse dir path).outcome = (Config.read d).toExcept := by
  rw [Config.loadFrom, h]
  exact Run.outcome_noted _ _

/-- A catalog is loaded as its document is read, but for what counts as empty. -/
theorem Catalog.loadWith_like {text : String} (hfile : dir.find path = .file text) (hd : parse text = .ok d) :
    LoadsLike Catalog.read .empty .catalog d (Catalog.loadWith parse dir path).outcome :=
  Catalog.reads.loadsLike (Catalog.outcome_loadWith (Directory.document_of_file hfile hd))

/-- a setting and a path, of which either may be left out, name the file of the configuration -/
inductive Config.Names (name : String) : Option String → Option String → Prop where
  | path (setting : Option String) : Config.Names name setting (some name)
  | setting (given : name ≠ "") : Config.Names name (some name) none

theorem Config.Names.loadWith_eq {name : String} {setting path : Option String} (h : Config.Names name setting path) :
    Config.loadWith parse dir setting path = Config.loadFrom parse dir (.ofText name) := by
  cases h with
  | path => rfl
  | setting hgiven => exact if_neg hgiven

/-- And so is a configuration, which a path or the setting names. -/
theorem Config.loadWith_like {name text : String} {setting path : Option String}
    (hnames : Config.Names name setting path) (hfile : dir.find (.ofText name) = .file text) (hd : parse text = .ok d) :
    LoadsLike Config.read .empty .config d (Config.loadWith parse dir setting path).outcome := by
  rw [hnames.loadWith_eq]
  exact Config.reads.loadsLike (Config.outcome_loadFrom (Directory.document_of_file hfile hd))

end Loaders

/-- **Files are loaded as their documents are read, but for those that count as empty.** A file whose document counts as
empty is loaded as the empty catalog, or as the configuration without contents; any other has the outcome of reading its
document, which for all but mappings is the one issue that it has not this form. So loading a file differs from reading
its document exactly if the document counts as empty and is no mapping. This holds of configurations that are named by a
path or by the setting; and it holds of whatever documents texts are read as. -/
theorem loads_as_read_unless_empty (dir : Directory) :
    (∀ path text d, dir.find path = .file text → Document.ofYaml .catalog text = .ok d →
      LoadsLike Catalog.read .empty .catalog d (Catalog.load dir path).outcome) ∧
    (∀ name setting path text d, Config.Names name setting path → dir.find (.ofText name) = .file text →
      Document.ofYaml .config text = .ok d →
      LoadsLike Config.read .empty .config d (Config.load dir setting path).outcome) ∧
    ∀ (parse : String → Except Yaml.Fault Document) (text : String) (d : Document), parse text = .ok d →
      (∀ path, dir.find path = .file text →
        LoadsLike Catalog.read .empty .catalog d (Catalog.loadWith parse dir path).outcome) ∧
      ∀ name setting path, Config.Names name setting path → dir.find (.ofText name) = .file text →
        LoadsLike Config.read .empty .config d (Config.loadWith parse dir setting path).outcome := by
  refine ⟨?catalog, ?config, ?anyReader⟩
  case catalog =>
    intro path text d hfile hd
    exact Catalog.loadWith_like hfile hd
  case config =>
    intro name setting path text d hnames hfile hd
    exact Config.loadWith_like hnames hfile hd
  case anyReader =>
    intro parse text d hd
    constructor
    · intro path hfile
      exact Catalog.loadWith_like hfile hd
    · intro name setting path hnames hfile
      exact Config.loadWith_like hnames hfile hd

/-- a directory with an empty list in place of a catalog and a zero in place of a configuration -/
def emptyHanded : Directory := .ofFiles [("catalog.yml", "[]\n"), ("lint.yml", "0\n")]

theorem find_emptyHanded : emptyHanded.find (.ofText "catalog.yml") = .file "[]\n" ∧
    emptyHanded.find (.ofText "lint.yml") = .file "0\n" := by
  decide +kernel

/-- whether a document counts as empty although it is there, and is no mapping -/
def Document.isHollow (d : Document) : Bool := d.isBlank && !d.isMapping && !d.isNull

theorem Document.isHollow_iff {d : Document} : d.isHollow ↔ d.CountsAsEmpty ∧ ¬ d.isMapping ∧ d ≠ .null := by
  simp only [isHollow, Bool.and_eq_true, Bool.not_eq_true', isBlank_iff, ← isNull_iff, Bool.not_eq_true, and_assoc,
    ne_eq]

theorem Document.exists_ofYaml {part : Part} {text : String} {holds : Document → Bool}
    (h : (Document.ofYaml part text).toOption.any holds) : ∃ d, Document.ofYaml part text = .ok d ∧ holds d := by
  cases hread : Document.ofYaml part text with
  | error f =>
    rw [hread] at h
    cases h
  | ok d =>
    rw [hread] at h
    exact ⟨d, rfl, h⟩

theorem hollow_emptyHanded : (∃ d, Document.ofYaml .catalog "[]\n" = .ok d ∧ d.isHollow) ∧
    ∃ d, Document.ofYaml .config "0\n" = .ok d ∧ d.isHollow :=
  ⟨Document.exists_ofYaml (by decide +kernel), Document.exists_ofYaml (by decide +kernel)⟩

/-- The zero is loaded as the configuration without contents, which reading it does not give. -/
theorem zero_loads_as_config : ∃ d, Document.ofYaml .config "0\n" = .ok d ∧
    (Config.load emptyHanded none (some "lint.yml")).outcome = .ok .empty ∧
    (Config.load emptyHanded none (some "lint.yml")).outcome ≠ (Config.read d).toExcept := by
  obtain ⟨_, d, hd, hhollow⟩ := hollow_emptyHanded
  obtain ⟨hempty, hmapping, _⟩ := Document.isHollow_iff.1 hhollow
  obtain ⟨_, hconfig, _⟩ := loads_as_read_unless_empty emptyHanded
  obtain ⟨hblank, _, _, hagrees⟩ := hconfig "lint.yml" none (some "lint.yml") "0\n" d (.path none) find_emptyHanded.2 hd
  exact ⟨d, hd, hblank hempty, fun hsame => hmapping (hagrees.1 hsame hempty)⟩

/-- The list is loaded as the empty catalog, so not only a file without a document is loaded other than it is read. -/
theorem empty_list_passes_as_catalog : ¬ ∀ (dir : Directory) path text d, dir.find path = .file text →
    Document.ofYaml .catalog text = .ok d → d ≠ .null →
      (Catalog.load dir path).outcome = (Catalog.read d).toExcept := by
  intro hagrees
  obtain ⟨⟨d, hd, hhollow⟩, _⟩ := hollow_emptyHanded
  obtain ⟨hempty, hmapping, hpresent⟩ := Document.isHollow_iff.1 hhollow
  have hload : LoadsLike Catalog.read .empty .catalog d (Catalog.load emptyHanded (.ofText "catalog.yml")).outcome :=
    Catalog.loadWith_like find_emptyHanded.1 hd
  exact hmapping (hload.agrees_iff.1 (hagrees _ _ _ d find_emptyHanded.1 hd hpresent) hempty)

end CatalogLint
