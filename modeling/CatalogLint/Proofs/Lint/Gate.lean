/-
What it means that a catalog passes with the rules of this library. `Offends` puts the three rules together, each under
the exceptions declared for it, the partition and the entry.

- `builtin_rules_pass_iff`: an entry passes all three rules exactly when no field of it, at any depth, offends.
- `checks_pass_iff`: a catalog passes when every rule passes every entry of either partition.

So a catalog passes exactly when no field of any entry offends; no exceptions, no enclosing field and no letter case let
an unmarked secret through.
-/
import CatalogLint.Proofs.Lint.Admission
import CatalogLint.Proofs.Rule.LeastOffence

namespace CatalogLint

/-! ## One entry -/

/-- a field of an entry offends one of the rules, under the exceptions declared for that rule and entry -/
def Offends (x : ExceptionRegistry) (p : Partition) (entry name : String) (field : Field) : Prop :=
  UnmarkedSecret name field ∨
    FalseSwitch ((x.exceptionsFor "boolean_naming" p).forEntry entry) name field ∨
    DefaultedName ((x.exceptionsFor "redundant_name_default" p).forEntry entry) name field

theorem builtin_rules_pass_iff (x : ExceptionRegistry) (p : Partition) (entry : String) (s : Schema) :
    (∀ rule ∈ Registry.builtin.rules, rule.check s ((x.exceptionsFor rule.name p).forEntry entry) = none) ↔
      ∀ parents name field, s.fields.At parents name field → ¬ Offends x p entry name field := by
  have hrules : (∀ rule ∈ Registry.builtin.rules, rule.check s ((x.exceptionsFor rule.name p).forEntry entry) = none) ↔
      s.firstViolation (Sensitivity.verdict ((x.exceptionsFor "sensitive_fields" p).forEntry entry)) = none ∧
      s.firstViolation (BooleanNaming.verdict ((x.exceptionsFor "boolean_naming" p).forEntry entry)) = none ∧
      s.firstViolation (RedundantDefault.verdict ((x.exceptionsFor "redundant_name_default" p).forEntry entry)) =
        none := by
    simp only [Registry.builtin, List.forall_mem_cons, List.not_mem_nil, false_implies, implies_true, and_true]
    rfl
  rw [hrules, (Sensitivity.verdict_judges _).firstViolation_eq_none_iff,
    (BooleanNaming.verdict_judges _).firstViolation_eq_none_iff,
    (RedundantDefault.verdict_judges _).firstViolation_eq_none_iff]
  constructor
  · rintro ⟨hsecret, hswitch, hname⟩ parents name field ha (ho | ho | ho)
    · exact hsecret parents name field ha ho
    · exact hswitch parents name field ha ho
    · exact hname parents name field ha ho
  · intro hall
    refine ⟨?_, ?_, ?_⟩ <;> intro parents name field ha ho
    · exact hall parents name field ha (Or.inl ho)
    · exact hall parents name field ha (Or.inr (Or.inl ho))
    · exact hall parents name field ha (Or.inr (Or.inr ho))

/-! ## Whole catalogs -/

/-- The checks of a catalog all pass when every rule passes every entry. -/
theorem checks_pass_iff {l : Linter} {c : Catalog} :
    (∀ k : Check, k.Present c → k.Registered l → k.result l.exceptions = none) ↔
      ∀ p entry schema, (c.get p).get? entry = some schema →
        ∀ rule ∈ l.registry.rules,
          rule.check schema ((l.exceptions.exceptionsFor rule.name p).forEntry entry) = none := by
  constructor
  · intro hall p entry schema hentry rule hrule
    obtain ⟨position, hposition⟩ := List.mem_iff_getElem?.1 hrule
    exact hall ⟨p, entry, schema, position, rule⟩ hentry hposition
  · intro hall k hpresent hregistered
    exact hall k.partition k.entry k.schema hpresent k.rule (List.mem_of_getElem? hregistered)

/-- **A catalog passes exactly when no field offends.** Let a linter be made with the rules of this library and
exceptions that they admit. It passes a catalog exactly when no field at any depth of any entry of either partition
offends, and then it counts the entries of both. One unmarked secret anywhere fails the catalog, whatever the
exceptions, the fields around it and the letter case of its name. -/
theorem gate_passes_iff_no_offence (x : ExceptionRegistry) (l : Linter) (hl : Linter.make .builtin x = .ok l)
    (c : Catalog) :
    ((∃ counts, (l.checkCatalog c).outcome = .ok counts) ↔
      ∀ p entry schema, (c.get p).get? entry = some schema →
        ∀ parents name field, schema.fields.At parents name field → ¬ Offends x p entry name field) ∧
    (∀ counts, (l.checkCatalog c).outcome = .ok counts →
      (∀ p, counts.get p = (c.entries p).length) ∧
        counts.total = (c.entries .dataSources).length + (c.entries .resources).length) ∧
    (∀ p entry schema parents name field, (c.get p).get? entry = some schema →
      schema.fields.At parents name field → UnmarkedSecret name field →
        ∃ f, (l.checkCatalog c).outcome = .error f) := by
  obtain ⟨hregistry, hexceptions⟩ := Linter.make_eq_ok hl
  have hpass : (∃ counts, (l.checkCatalog c).outcome = .ok counts) ↔
      ∀ p entry schema, (c.get p).get? entry = some schema →
        ∀ parents name field, schema.fields.At parents name field → ¬ Offends x p entry name field := by
    simp only [Linter.outcome_checkCatalog_eq_ok_iff, exists_and_left, exists_eq, and_true]
    rw [checks_pass_iff, hregistry, hexceptions]
    simp only [builtin_rules_pass_iff]
  refine ⟨hpass, fun counts hok => ?_, fun p entry schema parents name field hentry ha hsecret => ?_⟩
  · obtain ⟨_, rfl⟩ := l.outcome_checkCatalog_eq_ok_iff.1 hok
    refine ⟨fun p => ?_, rfl⟩
    cases p <;> rfl
  · cases hout : (l.checkCatalog c).outcome with
    | error f => exact ⟨f, rfl⟩
    | ok counts => exact absurd (Or.inl hsecret) (hpass.1 ⟨counts, hout⟩ p entry schema hentry parents name field ha)

/-- one field that is sensitive and, below, excepted, with an unmarked secret inside -/
def listAroundSecret : Schema :=
  ⟨[("Cache_Enabled", ⟨.collection .list (some [("Auth_API_Key", ⟨.primitive .string, false, .null⟩)]), true, .null⟩)],
    by decide⟩

def storeOnly : Catalog := ⟨.empty, ⟨[("store", listAroundSecret)], by decide⟩⟩

def switchExcepted : ExceptionRegistry :=
  ⟨[("boolean_naming", ⟨.empty, ⟨[("store", .ofList ["cache_enabled"])], by decide⟩⟩)], by decide⟩

def switchLinter : Linter := ⟨.builtin, switchExcepted, by decide⟩

/-- The exception and the sensitive list do not hide the secret. -/
theorem secret_inside_excepted_list_fails : Linter.make .builtin switchExcepted = .ok switchLinter ∧
    ∃ f, (switchLinter.checkCatalog storeOnly).outcome = .error f := by
  have hmake : Linter.make .builtin switchExcepted = .ok switchLinter := rfl
  have hsecret : UnmarkedSecret "Auth_API_Key" ⟨.primitive .string, false, .null⟩ :=
    ⟨rfl, Or.inr ⟨⟨"auth", by decide⟩, rfl⟩⟩
  have hinside : listAroundSecret.fields.At [("Cache_Enabled", "List")] "Auth_API_Key"
      ⟨.primitive .string, false, .null⟩ := .inside List.mem_cons_self rfl (.here List.mem_cons_self)
  obtain ⟨_, _, hblocks⟩ := gate_passes_iff_no_offence switchExcepted switchLinter hmake storeOnly
  exact ⟨hmake, hblocks .resources "store" listAroundSecret _ _ _ rfl hinside hsecret⟩

end CatalogLint
