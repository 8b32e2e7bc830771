/-
The order of rules decides which rule is named and nothing else. Whether an entry breaks some rule depends on the rules
as a set, so registries with the same rules in another order stop at the same entry; which of the rules that it breaks
is named depends on the order in which each registry has them.

- `Linter.make_eq_error_iff_of_perm`: the same exceptions are refused, with the same error.
- `Linter.checks_pass_iff_of_perm`: the same catalogs pass.
- `Check.FailsFirst.not_entryBefore`, `Check.FailsFirst.entry_of_perm`: no entry that breaks a rule comes before the one
  that fails first, which is therefore the same for both.
- `Check.FailsFirst.head?_broken`: the rule that is named is the first of those that the entry breaks.
-/
import CatalogLint.Proofs.Lint.Gate
import CatalogLint.Proofs.Lint.Relaxation

namespace CatalogLint

/-- the rules that an entry breaks, in the order of registration -/
def Linter.broken (l : Linter) (p : Partition) (entry : String) (schema : Schema) : List Rule :=
  l.registry.rules.filter fun rule =>
    (rule.check schema ((l.exceptions.exceptionsFor rule.name p).forEntry entry)).isSome

/-! ## Linters with the same rules -/

namespace Linter

section Refused

variable {r s : Registry}

theorem make_eq_error_iff_of_perm (h : r.rules.Perm s.rules) (x : ExceptionRegistry) (e : RuleError) :
    Linter.make r x = .error e ↔ Linter.make s x = .error e := by
  have hrefusal : r.refusal? = s.refusal? := funext (Registry.refusal?_of_perm h)
  rw [make_eq_error_iff, make_eq_error_iff, hrefusal]

theorem exists_make_iff_of_perm (h : r.rules.Perm s.rules) (x : ExceptionRegistry) :
    (∃ l, Linter.make r x = .ok l) ↔ ∃ m, Linter.make s x = .ok m := by
  have hok : ∀ registry, (∃ l, Linter.make registry x = .ok l) ↔ ∀ e, Linter.make registry x ≠ .error e := by
    intro registry
    cases Linter.make registry x <;> simp
  rw [hok, hok]
  exact forall_congr' fun e => not_congr (make_eq_error_iff_of_perm h x e)

end Refused

variable {l m : Linter} {c : Catalog} {p : Partition} {entry : String} {schema : Schema}

theorem mem_broken_iff {rule : Rule} : rule ∈ l.broken p entry schema ↔
    rule ∈ l.registry.rules ∧ rule.check schema ((l.exceptions.exceptionsFor rule.name p).forEntry entry) ≠ none := by
  rw [broken, List.mem_filter, Option.isSome_iff_ne_none]

/-- An entry breaks the same rules, in whichever order they are registered. -/
theorem broken_perm (h : l.registry.rules.Perm m.registry.rules) (hx : m.exceptions = l.exceptions) :
    (l.broken p entry schema).Perm (m.broken p entry schema) := by
  rw [broken, broken, hx]
  exact h.filter _

theorem outcome_eq_ok_iff_of_perm (h : l.registry.rules.Perm m.registry.rules) (hx : m.exceptions = l.exceptions)
    {counts : Partitioned Nat} :
    (l.checkCatalog c).outcome = .ok counts ↔ (m.checkCatalog c).outcome = .ok counts := by
  rw [outcome_checkCatalog_eq_ok_iff, outcome_checkCatalog_eq_ok_iff, checks_pass_iff, checks_pass_iff, hx]
  simp only [h.mem_iff]

end Linter

/-! ## Where a run fails -/

namespace Check.FailsFirst

variable {l m : Linter} {c : Catalog} {k other : Check}

/-- No entry that breaks a rule comes before the one that fails first. -/
theorem not_entryBefore (hk : k.FailsFirst l c) {p : Partition} {entry : String} {schema : Schema} {rule : Rule}
    (hpresent : (c.get p).get? entry = some schema) (hbroken : rule ∈ l.broken p entry schema) :
    ¬ EntryBefore p entry k.partition k.entry := by
  intro hbefore
  obtain ⟨hrule, hfails⟩ := Linter.mem_broken_iff.1 hbroken
  obtain ⟨position, hposition⟩ := List.mem_iff_getElem?.1 hrule
  rcases hk.least ⟨p, entry, schema, position, rule⟩ hpresent hposition hfails with rfl | hback
  · exact hbefore.irrefl
  · exact hback.asymm (Check.before_iff.2 (Or.inl hbefore))

/-- **Runs with the same rules fail at the same entry.** -/
theorem entry_of_perm (hk : k.FailsFirst l c) (hother : other.FailsFirst m c)
    (h : l.registry.rules.Perm m.registry.rules) (hx : m.exceptions = l.exceptions) :
    k.partition = other.partition ∧ k.entry = other.entry := by
  have hbroken : k.rule ∈ l.broken k.partition k.entry k.schema :=
    Linter.mem_broken_iff.2 ⟨List.mem_of_getElem? hk.registered, hk.fails⟩
  have hbroken' : other.rule ∈ m.broken other.partition other.entry other.schema :=
    Linter.mem_broken_iff.2 ⟨List.mem_of_getElem? hother.registered, hother.fails⟩
  refine EntryBefore.eq_of_not ?_ ?_
  · exact hother.not_entryBefore hk.present ((Linter.broken_perm h hx).subset hbroken)
  · exact hk.not_entryBefore hother.present ((Linter.broken_perm h hx).symm.subset hbroken')

/-- **The rule that is named is the first that the entry breaks.** -/
theorem head?_broken (hk : k.FailsFirst l c) : (l.broken k.partition k.entry k.schema).head? = some k.rule := by
  obtain ⟨hlt, hget⟩ := List.getElem?_eq_some_iff.1 hk.registered
  rw [Linter.broken, List.head?_filter, List.find?_eq_some_iff_getElem]
  refine ⟨Option.isSome_iff_ne_none.2 hk.fails, k.position, hlt, hget, fun earlier hearlier => ?_⟩
  have hregistered := List.getElem?_eq_getElem (Nat.lt_trans hearlier hlt)
  rw [Bool.not_eq_true', ← Bool.not_eq_true, Option.isSome_iff_ne_none]
  intro hfails
  -- a rule broken before this one would have failed first
  rcases hk.least ⟨k.partition, k.entry, k.schema, earlier, _⟩ hk.present hregistered hfails with heq | hbefore
  · have hposition : earlier = k.position := congrArg Check.position heq
    omega
  · exact hbefore.asymm (Check.before_iff.2 (Or.inr ⟨rfl, rfl, hearlier⟩))

end Check.FailsFirst

/-- the failure names the first rule that its entry breaks, in the order in which the linter has its rules -/
def Failure.NamesFirstBroken (f : Failure) (l : Linter) (c : Catalog) : Prop :=
  ∃ schema rule, (c.get f.partition).get? f.entry = some schema ∧
    (l.broken f.partition f.entry schema).head? = some rule ∧ f.rule = rule.name

theorem Linter.namesFirstBroken {l : Linter} {c : Catalog} {f : Failure}
    (h : (l.checkCatalog c).outcome = .error f) : f.NamesFirstBroken l c := by
  obtain ⟨k, hk, hfailure⟩ := l.outcome_checkCatalog_eq_error_iff.1 h
  obtain ⟨_, _, rfl⟩ := Option.map_eq_some_iff.1 hfailure
  exact ⟨k.schema, k.rule, hk.present, hk.head?_broken, rfl⟩

/-- **The order of rules decides only which rule is named.** Take two registries with the same rules, registered in any
two orders. Exceptions are refused by one exactly when they are by the other, with the same error. A catalog passes with
one exactly when it does with the other, with the same numbers; and when it fails, it does so in the same partition and
at the same entry, which breaks the same rules with both, and each names the first of these in its own order. -/
theorem rule_order_decides_named_rule {r s : Registry} (h : r.rules.Perm s.rules) (x : ExceptionRegistry) :
    (∀ e, Linter.make r x = .error e ↔ Linter.make s x = .error e) ∧
    ((∃ l, Linter.make r x = .ok l) ↔ ∃ m, Linter.make s x = .ok m) ∧
    ∀ l m, Linter.make r x = .ok l → Linter.make s x = .ok m → ∀ c,
      (∀ counts, (l.checkCatalog c).outcome = .ok counts ↔ (m.checkCatalog c).outcome = .ok counts) ∧
      (∀ p entry schema, (l.broken p entry schema).Perm (m.broken p entry schema)) ∧
      ∀ f g, (l.checkCatalog c).outcome = .error f → (m.checkCatalog c).outcome = .error g →
        f.partition = g.partition ∧ f.entry = g.entry ∧ f.NamesFirstBroken l c ∧ g.NamesFirstBroken m c := by
  refine ⟨Linter.make_eq_error_iff_of_perm h x, Linter.exists_make_iff_of_perm h x, fun l m hl hm c => ?_⟩
  obtain ⟨rfl, rfl⟩ := Linter.make_eq_ok hl
  obtain ⟨rfl, hx⟩ := Linter.make_eq_ok hm
  refine ⟨fun counts => Linter.outcome_eq_ok_iff_of_perm h hx, fun _ _ _ => Linter.broken_perm h hx,
    fun f g hf hg => ?_⟩
  obtain ⟨k, hk, hfailure⟩ := l.outcome_checkCatalog_eq_error_iff.1 hf
  obtain ⟨other, hother, hgfailure⟩ := m.outcome_checkCatalog_eq_error_iff.1 hg
  obtain ⟨hpartition, hentry⟩ := hk.entry_of_perm hother h hx
  obtain ⟨hfpartition, hfentry⟩ := Check.entry_of_failure? hfailure
  obtain ⟨hgpartition, hgentry⟩ := Check.entry_of_failure? hgfailure
  exact ⟨hfpartition.trans (hpartition.trans hgpartition.symm), hfentry.trans (hentry.trans hgentry.symm),
    Linter.namesFirstBroken hf, Linter.namesFirstBroken hg⟩

/-- the same rules as `switchThenZone` in the other order -/
def zoneThenSwitch : Registry := ⟨[zoneRule, BooleanNaming.rule], by decide⟩

/-- The disk breaks both rules, and each registry names the rule that it has first. -/
theorem disk_named_by_first_rule : switchThenZone.rules.Perm zoneThenSwitch.rules ∧ ∃ l m f g,
    Linter.make switchThenZone .empty = .ok l ∧ Linter.make zoneThenSwitch .empty = .ok m ∧
    (l.checkCatalog zonedDisk).outcome = .error f ∧ (m.checkCatalog zonedDisk).outcome = .error g ∧
    f.entry = g.entry ∧ f.rule = BooleanNaming.rule.name ∧ g.rule = zoneRule.name := by
  have hperm : switchThenZone.rules.Perm zoneThenSwitch.rules := .swap ..
  let l : Linter := ⟨switchThenZone, .empty, by decide⟩
  let m : Linter := ⟨zoneThenSwitch, .empty, by decide⟩
  have hl : Linter.make switchThenZone .empty = .ok l := rfl
  have hm : Linter.make zoneThenSwitch .empty = .ok m := rfl
  obtain ⟨_, _, hruns⟩ := rule_order_decides_named_rule hperm .empty
  obtain ⟨_, hentry, _⟩ := (hruns l m hl hm zonedDisk).2.2 _ _ rfl rfl
  exact ⟨hperm, l, m, _, _, hl, hm, rfl, rfl, hentry, rfl, rfl⟩

end CatalogLint
