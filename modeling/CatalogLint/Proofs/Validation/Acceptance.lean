/-
Documents and the grammar of declarations. Plain data is accepted by the reader exactly when it is in the grammar, and
it is read as the tree that it declares.

- `Declaration.field_accepted`: the step, for one declaration whose elements are accepted so.
- `Declaration.schema_accepted`: from it, by induction on the size of the document, schemas at every depth.

At the end the same is said of catalogs.
-/
import CatalogLint.Proofs.Validation.Spelling

namespace CatalogLint

open Document (lookup?)

namespace Declaration

variable {entries : List (Scalar × Document)}

/-! ## Schemas -/

/-- what is to be shown of a document that is read as a schema -/
structure SchemaAccepted (d : Document) : Prop where
  accepted_iff : (∃ s, schema d = .accepted s) ↔ IsSchema d
  declares : ∀ s, schema d = .accepted s ↔ DeclaresAll d s.fields
  ordered : ∀ fields, DeclaresAll d fields → fields.isOrdered

/-- and of one that is read as a field -/
structure FieldAccepted (d : Document) : Prop where
  accepted_iff : (∃ f, field d = .accepted f) ↔ IsField d
  declares : ∀ f, field d = .accepted f ↔ Declares d f.1
  ordered : ∀ f, Declares d f → f.isOrdered

theorem mapping_of_field {d : Document} {f : { f : Field // f.isOrdered }} (h : field d = .accepted f) :
    ∃ entries, d = .mapping entries := by
  cases d with
  | mapping entries => exact ⟨entries, rfl⟩
  | scalar | list | set | pair | again =>
    rw [field] at h
    · cases h
    · intro _ hd
      cases hd

/-- the elements that the keys of a mapping give are accepted as the grammar has them -/
def ElementsAccepted (entries : List (Scalar × Document)) : Prop :=
  ∀ t d, Spells entries t (some d) → SchemaAccepted d

theorem isField_of_accepted (hplain : (Document.mapping entries).Plain) (helements : ElementsAccepted entries)
    {f : { f : Field // f.isOrdered }} (h : field (.mapping entries) = .accepted f) : IsField (.mapping entries) := by
  obtain ⟨t, given, k, b, hspells, hreads, hb, _⟩ := (field_mapping_eq_accepted_iff hplain).1 h
  refine .mk hspells ⟨b, hb⟩ fun d hd hne => ?_
  cases hreads with
  | primitive t => cases hd
  | bare hbare =>
    rcases hbare with hbare | hbare
    · rw [hbare] at hd
      cases hd
    · rw [hbare] at hd
      cases hd
      exact absurd rfl hne
  | nested hread =>
    cases hd
    exact (helements _ _ hspells).accepted_iff.1 ⟨_, hread⟩

theorem accepted_of_isField (hplain : (Document.mapping entries).Plain) (helements : ElementsAccepted entries)
    (h : IsField (.mapping entries)) : ∃ f, field (.mapping entries) = .accepted f := by
  cases h with
  | @mk _ t given hspells hsensitive hschemas =>
    obtain ⟨b, hb⟩ := hsensitive
    have hreads : ∃ k, ReadsKind t given k := by
      cases t with
      | primitive t =>
        cases hspells with
        | taggedPrimitive | flatPrimitive => exact ⟨_, .primitive t⟩
      | collection s =>
        cases given with
        | none => exact ⟨_, .bare (Or.inl rfl)⟩
        | some d =>
          by_cases hnull : d = .null
          · exact ⟨_, .bare (Or.inr (congrArg some hnull))⟩
          · obtain ⟨elem, hread⟩ := (helements _ _ hspells).accepted_iff.2 (hschemas d rfl hnull)
            exact ⟨_, .nested hread⟩
    obtain ⟨k, hk⟩ := hreads
    exact ⟨_, (field_mapping_eq_accepted_iff hplain).2 ⟨t, given, k, b, hspells, hk, hb, rfl⟩⟩

theorem field_eq_accepted_iff_declares (hplain : (Document.mapping entries).Plain)
    (helements : ElementsAccepted entries) (f : { f : Field // f.isOrdered }) :
    field (.mapping entries) = .accepted f ↔ Declares (.mapping entries) f.1 := by
  rw [field_mapping_eq_accepted_iff hplain]
  constructor
  · rintro ⟨t, given, k, b, hspells, hreads, hb, rfl⟩
    cases hreads with
    | primitive t => exact .primitive hspells hb
    | bare hbare => exact .bare hspells hbare hb
    | nested hread => exact .nested hspells ((helements _ _ hspells).declares _ |>.1 hread) hb
  · intro h
    obtain ⟨f, hf⟩ := f
    cases h with
    | primitive hspells hb => exact ⟨_, _, _, _, hspells, .primitive _, hb, rfl⟩
    | bare hspells hbare hb => exact ⟨_, _, _, _, hspells, .bare hbare, hb, rfl⟩
    | nested hspells hdeclares hb =>
      have haccepted := helements _ _ hspells
      have hread := (haccepted.declares ⟨_, haccepted.ordered _ hdeclares⟩).2 hdeclares
      exact ⟨_, _, _, _, hspells, .nested hread, hb, rfl⟩

/-- A declaration is accepted as the grammar has it, if the elements that it gives are. -/
theorem field_mapping_accepted (hplain : (Document.mapping entries).Plain) (helements : ElementsAccepted entries) :
    FieldAccepted (.mapping entries) := by
  constructor
  case accepted_iff =>
    constructor
    · rintro ⟨f, hf⟩
      exact isField_of_accepted hplain helements hf
    · intro h
      exact accepted_of_isField hplain helements h
  case declares => exact field_eq_accepted_iff_declares hplain helements
  case ordered =>
    intro f h
    cases h with
    | primitive | bare => rfl
    | nested hspells hdeclares => exact (helements _ _ hspells).ordered _ hdeclares

theorem field_accepted {d : Document} (hplain : d.Plain)
    (ih : ∀ e, sizeOf e < sizeOf d → e.Plain → SchemaAccepted e) : FieldAccepted d := by
  have hreject : (∀ f, field d ≠ .accepted f) → ¬ IsField d → (∀ f, ¬ Declares d f) → FieldAccepted d := by
    intro hread hgrammar htree
    exact ⟨⟨fun ⟨f, hf⟩ => absurd hf (hread f), fun h => absurd h hgrammar⟩,
      fun f => ⟨fun hf => absurd hf (hread f), fun h => absurd h (htree _)⟩, fun f h => absurd h (htree f)⟩
  cases hplain with
  | scalar | list | set =>
    refine hreject (fun f hf => ?_) (fun h => by cases h) fun f h => by cases h
    obtain ⟨_, hmapping⟩ := mapping_of_field hf
    cases hmapping
  | @mapping entries hkeyed hvalues =>
    have hplain : (Document.mapping entries).Plain := .mapping hkeyed hvalues
    refine field_mapping_accepted hplain fun t e hspells => ih e ?_ (hspells.plain hplain)
    have hsize := hspells.sizeOf_lt
    rw [Document.mapping.sizeOf_spec]
    omega

theorem fields_eq_accepted_iff {s : Schema} : fields entries = .accepted s ↔
    ∃ m, Reading.namedEntries field entries = .accepted m ∧ Schema.ofMap m = s := by
  rw [fields_eq_namedEntries, Checked.map_eq_accepted_iff]

theorem schema_mapping_eq_accepted_iff {s : Schema} : schema (.mapping entries) = .accepted s ↔
    ∃ m, Reading.namedEntries field entries = .accepted m ∧ Schema.ofMap m = s := by
  rw [schema, fields_eq_accepted_iff]

/-- A declaration that is accepted as the grammar has it declares one field. -/
theorem FieldAccepted.unique {d : Document} (h : FieldAccepted d) {f g : Field} (hf : Declares d f)
    (hg : Declares d g) : f = g := by
  have hread := (h.declares ⟨f, h.ordered f hf⟩).2 hf
  rw [(h.declares ⟨g, h.ordered g hg⟩).2 hg] at hread
  cases hread
  rfl

/-- the values of a mapping are accepted as the grammar has them -/
def ValuesAccepted (entries : List (Scalar × Document)) : Prop := ∀ e ∈ entries, FieldAccepted e.2

theorem ValuesAccepted.of_lookup? (hvalues : ValuesAccepted entries) {name : String} {d : Document}
    (hd : lookup? name entries = some d) : FieldAccepted d := hvalues _ (Document.mem_of_lookup? hd)

theorem exists_schema_iff_isSchema (hkeyed : Document.Keyed entries) (hvalues : ValuesAccepted entries) :
    (∃ s, schema (.mapping entries) = .accepted s) ↔ IsSchema (.mapping entries) := by
  have hall : (∃ m, Reading.namedEntries field entries = .accepted m) ↔ ∀ e ∈ entries, IsField e.2 := by
    rw [Reading.exists_namedEntries_iff hkeyed.texts]
    exact forall₂_congr fun e he => (hvalues e he).accepted_iff
  constructor
  · intro haccepted
    obtain ⟨s, hs⟩ := haccepted
    obtain ⟨m, hm, _⟩ := schema_mapping_eq_accepted_iff.1 hs
    exact .mk (hall.1 ⟨m, hm⟩)
  · intro h
    cases h with
    | mk hfields =>
      obtain ⟨m, hm⟩ := hall.2 hfields
      exact ⟨_, schema_mapping_eq_accepted_iff.2 ⟨m, hm, rfl⟩⟩

/-- What is read of a mapping is, under each name, what the value there declares. -/
theorem declares_of_namedEntries (hkeyed : Document.Keyed entries) (hvalues : ValuesAccepted entries)
    {m : NameMap { f : Field // f.isOrdered }} (hm : Reading.namedEntries field entries = .accepted m) (name : String) :
    Option.Rel Declares (lookup? name entries) (Entries.lookup? name (Schema.ofMap m).fields) := by
  have hread := Reading.get?_namedEntries hkeyed hm name
  rw [Schema.lookup?_ofMap]
  cases hd : lookup? name entries with
  | none =>
    rw [hd, rel_none_iff] at hread
    rw [hread]
    exact .none
  | some d =>
    rw [hd, rel_some_iff] at hread
    obtain ⟨f, hf, hfield⟩ := hread
    rw [hf]
    exact .some (((hvalues.of_lookup? hd).declares f).1 hfield)

/-- A mapping whose values declare the fields of a tree is read. -/
theorem exists_namedEntries_of_declares (hkeyed : Document.Keyed entries) (hvalues : ValuesAccepted entries)
    {fields : Fields} (heach : ∀ name, Option.Rel Declares (lookup? name entries) (Entries.lookup? name fields)) :
    ∃ m, Reading.namedEntries field entries = .accepted m := by
  rw [Reading.exists_namedEntries_iff hkeyed.texts]
  intro e he
  obtain ⟨key, d⟩ := e
  obtain ⟨name, hkey⟩ := hkeyed.texts _ he
  simp only at hkey
  subst hkey
  have hdeclared := heach name
  rw [hkeyed.lookup?_eq_some_iff.2 he, rel_some_iff] at hdeclared
  obtain ⟨f, _, hf⟩ := hdeclared
  have haccepted := hvalues _ he
  exact ⟨_, (haccepted.declares ⟨f, haccepted.ordered f hf⟩).2 hf⟩

theorem schema_eq_accepted_iff_declaresAll (hkeyed : Document.Keyed entries) (hvalues : ValuesAccepted entries)
    (s : Schema) : schema (.mapping entries) = .accepted s ↔ DeclaresAll (.mapping entries) s.fields := by
  have hordered : ∀ t : Schema, Entries.Ordered t.fields := fun t => (Fields.isOrdered_iff.1 t.ordered).1
  rw [schema_mapping_eq_accepted_iff]
  constructor
  · intro h
    obtain ⟨m, hm, rfl⟩ := h
    exact .mk (hordered _) (declares_of_namedEntries hkeyed hvalues hm)
  · intro h
    cases h with
    | mk _ heach =>
      obtain ⟨m, hm⟩ := exists_namedEntries_of_declares hkeyed hvalues heach
      refine ⟨m, hm, Schema.ext (Entries.eq_of_lookup? (hordered _) (hordered _) fun name => ?_)⟩
      -- both trees have the field that the value under the name declares
      apply eq_of_rel (declares_of_namedEntries hkeyed hvalues hm name) (heach name)
      intro d hd f g hf hg
      exact (hvalues.of_lookup? hd).unique hf hg

theorem isOrdered_of_declaresAll (hvalues : ValuesAccepted entries) {fields : Fields}
    (h : DeclaresAll (.mapping entries) fields) : fields.isOrdered := by
  cases h with
  | mk hordered heach =>
    refine Fields.isOrdered_iff.2 ⟨hordered, fun e he => ?_⟩
    have hdeclared := heach e.1
    rw [(Entries.lookup?_eq_some_iff hordered).2 he] at hdeclared
    cases hd : lookup? e.1 entries with
    | none =>
      rw [hd, rel_none_iff] at hdeclared
      cases hdeclared
    | some d =>
      rw [hd, Option.rel_some_some] at hdeclared
      exact (hvalues.of_lookup? hd).ordered e.2 hdeclared

/-- A mapping is accepted in the grammar's way, if its values are. -/
theorem schema_mapping_accepted (hkeyed : Document.Keyed entries) (hvalues : ValuesAccepted entries) :
    SchemaAccepted (.mapping entries) := by
  constructor
  case accepted_iff => exact exists_schema_iff_isSchema hkeyed hvalues
  case declares => exact schema_eq_accepted_iff_declaresAll hkeyed hvalues
  case ordered =>
    intro fields h
    exact isOrdered_of_declaresAll hvalues h

/-- **Schemas are accepted exactly as the grammar has them**, and as the tree that they declare. -/
theorem schema_accepted (d : Document) (hplain : d.Plain) : SchemaAccepted d := by
  have hreject : (∀ s, schema d ≠ .accepted s) → ¬ IsSchema d → (∀ fields, ¬ DeclaresAll d fields) → SchemaAccepted d := by
    intro hread hgrammar htree
    exact ⟨⟨fun ⟨s, hs⟩ => absurd hs (hread s), fun h => absurd h hgrammar⟩,
      fun s => ⟨fun hs => absurd hs (hread s), fun h => absurd h (htree _)⟩, fun fields h => absurd h (htree fields)⟩
  cases hplain with
  | scalar | list | set =>
    refine hreject (fun s hs => ?_) (fun h => by cases h) fun fields h => by cases h
    obtain ⟨_, hmapping, _⟩ := mapping_of_schema hs
    cases hmapping
  | @mapping entries hkeyed hvalues =>
    refine schema_mapping_accepted hkeyed fun e he => ?_
    have hentry := List.sizeOf_lt_of_mem he
    exact field_accepted (hvalues e he) fun inner hinner hplainInner => schema_accepted inner hplainInner
  termination_by sizeOf d
  decreasing_by
    obtain ⟨key, value⟩ := e
    simp only [Prod.mk.sizeOf_spec, Document.mapping.sizeOf_spec] at hentry hinner ⊢
    omega

end Declaration

/-! ## Catalogs -/

theorem named_schema_eq_accepted_iff {d : Document} (hplain : d.Plain) {m : NameMap Schema} :
    Reading.named Declaration.schema d = .accepted m ↔ DeclaresPartition (some d) m := by
  cases hplain with
  | scalar | list | set =>
    constructor
    · intro h
      cases h
    · intro h
      cases h
  | @mapping entries hkeyed hvalues =>
    have hsame : ∀ name, Option.Rel (fun d s => Declaration.schema d = .accepted s) (lookup? name entries) (m.get? name) ↔
        Option.Rel (fun d s => DeclaresAll d s.fields) (lookup? name entries) (m.get? name) := by
      intro name
      refine rel_congr fun d hd s => ?_
      exact (Declaration.schema_accepted d (hvalues _ (Document.mem_of_lookup? hd))).declares s
    rw [Reading.named, Reading.namedEntries_eq_accepted_iff hkeyed]
    constructor
    · intro h
      exact .given fun name => (hsame name).1 (h name)
    · intro h
      cases h with
      | given each => exact fun name => (hsame name).2 (each name)

theorem exists_named_schema_iff {d : Document} (hplain : d.Plain) :
    (∃ m, Reading.named Declaration.schema d = .accepted m) ↔ IsPartition d := by
  cases hplain with
  | scalar | list | set =>
    constructor
    · rintro ⟨m, h⟩
      cases h
    · intro h
      cases h
  | @mapping entries hkeyed hvalues =>
    have hall : (∀ e ∈ entries, ∃ s, Declaration.schema e.2 = .accepted s) ↔ ∀ e ∈ entries, IsSchema e.2 :=
      forall₂_congr fun e he => (Declaration.schema_accepted e.2 (hvalues e he)).accepted_iff
    rw [Reading.named, Reading.exists_namedEntries_iff hkeyed.texts, hall]
    constructor
    · exact .mk
    · intro h
      cases h with
      | mk hschemas => exact hschemas

variable {entries : List (Scalar × Document)}

theorem keyed_partition_eq_accepted_iff (h : (Document.mapping entries).Plain) {p : Partition} {m : NameMap Schema} :
    Reading.keyed p.name (.accepted .empty) (Reading.named Declaration.schema) entries = .accepted m ↔
      DeclaresPartition (lookup? p.name entries) m := by
  rw [Reading.keyed]
  cases hd : lookup? p.name entries with
  | none =>
    constructor
    · intro heq
      cases heq
      exact .absent
    · intro hdeclares
      cases hdeclares
      rfl
  | some d => rw [Checked.within_eq_accepted_iff, named_schema_eq_accepted_iff (h.of_lookup? hd)]

theorem Catalog.read_mapping_eq_accepted_iff (h : (Document.mapping entries).Plain) {c : Catalog} :
    Catalog.read (.mapping entries) = .accepted c ↔ KeysAmong ["data_sources", "resources"] entries ∧
      ∀ p : Partition, Reading.keyed p.name (.accepted .empty) (Reading.named Declaration.schema) entries =
        .accepted (c.get p) := by
  simp only [Catalog.read, Checked.map_eq_accepted_iff, Checked.and_eq_accepted_iff, Checked.ofIssues_eq_accepted_iff,
    Reading.strayKeys_eq_nil_iff h.entries.1.texts]
  constructor
  · rintro ⟨⟨⟨sources, resources⟩, _⟩, ⟨⟨hsources, hresources⟩, hkeys⟩, rfl⟩
    refine ⟨hkeys, fun p => ?_⟩
    cases p
    · exact hsources
    · exact hresources
  · rintro ⟨hkeys, hpartitions⟩
    exact ⟨⟨⟨c.dataSources, c.resources⟩, ()⟩, ⟨⟨hpartitions .dataSources, hpartitions .resources⟩, hkeys⟩, rfl⟩

theorem exists_keyed_partition_iff (h : (Document.mapping entries).Plain) {p : Partition} :
    (∃ m, Reading.keyed p.name (.accepted .empty) (Reading.named Declaration.schema) entries = .accepted m) ↔
      ∀ d, lookup? p.name entries = some d → IsPartition d := by
  rw [Reading.keyed]
  cases hd : lookup? p.name entries with
  | none =>
    constructor
    · intro _ d hno
      cases hno
    · intro _
      exact ⟨_, rfl⟩
  | some d =>
    simp only [Checked.within_eq_accepted_iff, exists_named_schema_iff (h.of_lookup? hd)]
    constructor
    · intro hpartition other hother
      cases hother
      exact hpartition
    · intro hall
      exact hall d rfl

/-- the keys of a catalog are the names of the partitions, so its values are what the partitions are read from -/
theorem forall_partition_iff (h : Document.Keyed entries) (hkeys : KeysAmong ["data_sources", "resources"] entries)
    {holds : Document → Prop} :
    (∀ (p : Partition) d, lookup? p.name entries = some d → holds d) ↔ ∀ e ∈ entries, holds e.2 := by
  constructor
  · intro hall e he
    obtain ⟨key, d⟩ := e
    obtain ⟨name, hname, hkey⟩ := hkeys _ he
    simp only at hkey
    subst hkey
    have hpartition : ∃ p : Partition, p.name = name := by
      simp only [List.mem_cons, List.not_mem_nil, or_false] at hname
      rcases hname with rfl | rfl
      · exact ⟨.dataSources, rfl⟩
      · exact ⟨.resources, rfl⟩
    obtain ⟨p, rfl⟩ := hpartition
    exact hall p d (h.lookup?_eq_some_iff.2 he)
  · intro hall p d hd
    exact hall _ (Document.mem_of_lookup? hd)

theorem Catalog.exists_read_iff (h : (Document.mapping entries).Plain) :
    (∃ c, Catalog.read (.mapping entries) = .accepted c) ↔ IsCatalog (.mapping entries) := by
  have hpartitions : (∃ c : Catalog, ∀ p : Partition, Reading.keyed p.name (.accepted .empty)
      (Reading.named Declaration.schema) entries = .accepted (c.get p)) ↔
      ∀ (p : Partition) d, lookup? p.name entries = some d → IsPartition d := by
    simp only [← exists_keyed_partition_iff h]
    constructor
    · rintro ⟨c, hc⟩ p
      exact ⟨c.get p, hc p⟩
    · intro hall
      obtain ⟨sources, hsources⟩ := hall .dataSources
      obtain ⟨resources, hresources⟩ := hall .resources
      refine ⟨⟨sources, resources⟩, fun p => ?_⟩
      cases p
      · exact hsources
      · exact hresources
  simp only [Catalog.read_mapping_eq_accepted_iff h, exists_and_left, hpartitions]
  constructor
  · rintro ⟨hkeys, hall⟩
    exact .mk hkeys ((forall_partition_iff h.entries.1 hkeys).1 hall)
  · intro hcatalog
    cases hcatalog with
    | mk hkeys hall => exact ⟨hkeys, (forall_partition_iff h.entries.1 hkeys).2 hall⟩

/-- **Catalogs are accepted exactly as the grammar has them.** A document of plain data is read as a catalog if and only
if it is one in the grammar of declarations; and it is read as the catalog that it declares, which has the entries of the
document under their names, and in each the fields that are declared at every depth, with their kinds, whether they are
sensitive, and their defaults. -/
theorem catalog_read_iff_grammar (d : Document) (hplain : d.Plain) :
    ((∃ c, Catalog.read d = .accepted c) ↔ IsCatalog d) ∧
      ∀ c, Catalog.read d = .accepted c ↔ DeclaresCatalog d c := by
  cases hplain with
  | scalar | list | set =>
    refine ⟨⟨?_, ?_⟩, fun c => ⟨?_, ?_⟩⟩
    · rintro ⟨c, h⟩
      cases h
    all_goals
      intro h
      cases h
  | @mapping entries hkeyed hvalues =>
    have h : (Document.mapping entries).Plain := .mapping hkeyed hvalues
    refine ⟨Catalog.exists_read_iff h, fun c => ?_⟩
    rw [Catalog.read_mapping_eq_accepted_iff h]
    simp only [keyed_partition_eq_accepted_iff h]
    constructor
    · rintro ⟨hkeys, hpartitions⟩
      exact .mk hkeys hpartitions
    · intro hcatalog
      cases hcatalog with
      | mk hkeys hpartitions => exact ⟨hkeys, hpartitions⟩

/-- one field, named like a key: a flat switch that is sensitive by a word -/
def sensitiveSwitch : Document :=
  .mapping [(.text "type", .mapping [(.text "type", .text "bool"), (.text "sensitive", .text "Yes")])]

/-- a tagged list of such fields, in an entry of its own -/
def listOfSwitches : Document :=
  .mapping [(.text "resources", .mapping [(.text "store", .mapping [(.text "gates",
    .mapping [(.text "kind", .mapping [(.text "kind", .text "list"), (.text "elem", sensitiveSwitch)])])])])]

theorem list_of_switches_accepted : listOfSwitches.Plain ∧ ∃ c, Catalog.read listOfSwitches = .accepted c := by
  have hswitchPlain : sensitiveSwitch.Plain := .one (.two (by decide) (.text _) (.text _))
  have hplain : listOfSwitches.Plain := .one (.one (.one (.one (.two (by decide) (.text _) hswitchPlain))))
  have hyes : "Yes".toLower ∈ ["1", "t", "true", "y", "yes", "on"] := by decide +kernel
  have hswitch : IsField (.mapping [(.text "type", .text "bool"), (.text "sensitive", .text "Yes")]) :=
    .mk (.flatPrimitive (t := .bool) (by simp [KeysAmong]) rfl (Or.inl rfl)) ⟨true, .given (.trueWord hyes)⟩
      fun _ h => nomatch h
  have helem : IsSchema sensitiveSwitch := .mk (by simpa using hswitch)
  have hlist : IsField (.mapping [(.text "kind", .mapping [(.text "kind", .text "list"),
      (.text "elem", sensitiveSwitch)])]) := by
    refine .mk (.taggedCollection (s := .list) (by simp [KeysAmong]) rfl (by simp [KeysAmong]) rfl) ⟨false, .absent⟩ ?_
    intro d hd _
    cases hd
    exact helem
  have hcatalog : IsCatalog listOfSwitches := by
    refine .mk (by simp [KeysAmong]) ?_
    simpa using IsPartition.mk (by simpa using IsSchema.mk (by simpa using hlist))
  exact ⟨hplain, (catalog_read_iff_grammar _ hplain).1.2 hcatalog⟩

end CatalogLint
