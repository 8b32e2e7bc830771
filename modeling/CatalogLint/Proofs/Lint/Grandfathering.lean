/-
Grandfathering. A round checks a catalog and, where the rule that fails supports exceptions, adds the name of the
reported field to the raw exceptions, in any letter case; the next round reads them anew. `Rounds` are rounds in
sequence, with the failures of each.

- `Round.linter`: after a round the exceptions are accepted again, and the name that was added is excepted.
- `Round.before`, `Round.key_ne`: the step. All later failures stand strictly after that of the round, and none of them
  is about the same name in the same place.
- `Rounds.increasing`, `Rounds.distinct`: from these, by induction, the failures of rounds in sequence.

At the end it is shown that grandfathering converges, and that it is only unmarked secrets that it does not get past.
-/
import CatalogLint.Proofs.Exceptions.Addition
import CatalogLint.Proofs.Lint.Easing
import CatalogLint.Proofs.Lint.Gate

namespace CatalogLint

/-! ## Rounds -/

/-- the linter with the rules of this library and raw exceptions, if it is made -/
def Linter.ofDocument? (raw : Document) : Option Linter :=
  match ExceptionRegistry.read raw with
  | .accepted x => (Linter.make .builtin x).toOption
  | .rejected _ _ => none

namespace Failure

/-- the rule that fails supports exceptions -/
def Excusable (f : Failure) : Prop := ∃ rule, Registry.builtin.get? f.rule = some rule ∧ rule.supportsExceptions = true

/-- what an exception for the failure is declared for: rule, partition and entry, and the name in lower case -/
def key (f : Failure) : String × Partition × String × String :=
  (f.rule, f.partition, f.entry, Text.lower f.violation.fieldName)

end Failure

/-- a check of the catalog that fails, and the raw exceptions with the name that is reported, in any letter case -/
structure Round (c : Catalog) (raw : Document) (f : Failure) (next : Document) : Prop where
  fails : ∃ l, Linter.ofDocument? raw = some l ∧ (l.checkCatalog c).outcome = .error f
  excusable : f.Excusable
  added : ∃ name, Text.lower name = Text.lower f.violation.fieldName ∧
    next = raw.addException f.rule f.partition f.entry name

/-- rounds in sequence, with their failures -/
inductive Rounds (c : Catalog) : Document → List Failure → Document → Prop where
  | none (raw : Document) : Rounds c raw [] raw
  | step {raw next last : Document} {f : Failure} {failures : List Failure} (round : Round c raw f next)
    (rest : Rounds c next failures last) : Rounds c raw (f :: failures) last

/-- the catalog has a field somewhere that is an unmarked secret -/
def Catalog.HasUnmarkedSecret (c : Catalog) : Prop :=
  ∃ p entry schema parents name field, (c.get p).get? entry = some schema ∧ schema.fields.At parents name field ∧
    UnmarkedSecret name field

/-- all that exceptions may be declared for in a catalog -/
def Catalog.exceptionKeys (c : Catalog) : List (String × Partition × String × String) :=
  (Registry.builtin.rules.filter (·.supportsExceptions)).flatMap fun rule =>
    Partition.all.flatMap fun p => (c.entries p).flatMap fun e =>
      e.2.visits.map fun v => (rule.name, p, e.1, Text.lower v.name)

/-! ## Linters from raw exceptions -/

theorem Linter.ofDocument?_eq_some_iff {raw : Document} {l : Linter} :
    Linter.ofDocument? raw = some l ↔ ExceptionRegistry.read raw = .accepted l.exceptions ∧ l.registry = .builtin := by
  unfold Linter.ofDocument?
  constructor
  · intro h
    split at h
    · rename_i x hx
      cases hmake : Linter.make .builtin x with
      | error e =>
        rw [hmake] at h
        cases h
      | ok made =>
        rw [hmake] at h
        cases h
        obtain ⟨hregistry, hexceptions⟩ := Linter.make_eq_ok hmake
        exact ⟨hexceptions ▸ hx, hregistry⟩
    · cases h
  · rintro ⟨hread, hregistry⟩
    obtain ⟨registry, x, hadmitted⟩ := l
    cases hregistry
    rw [hread]
    exact congrArg Except.toOption (Linter.make_of_admitted hadmitted)

theorem Check.Registered.get?_eq {l : Linter} {k : Check} (h : k.Registered l) :
    l.registry.get? k.rule.name = some k.rule := Registry.get?_eq_some_iff.2 ⟨List.mem_of_getElem? h, rfl⟩

theorem Linter.registry_of_ofDocument? {raw : Document} {l : Linter} (h : Linter.ofDocument? raw = some l) :
    l.registry = .builtin := (Linter.ofDocument?_eq_some_iff.1 h).2

/-! ## What an exception does -/

section

variable {c : Catalog} {l : Linter} {f g : Failure}

theorem Linter.builtin_eased (hl : l.registry = .builtin) :
    ∀ rule ∈ l.registry.rules, rule.Eased (builtinVerdict rule) :=
  fun rule hrule => (Registry.builtin_eased rule (hl ▸ hrule)).1

/-- A site of a rule that supports exceptions fails only where the name is not excepted. -/
theorem Site.Reached.not_excepted {s : Site} (hs : s.Reached l c) (hl : l.registry = .builtin)
    (hsupports : s.check.rule.supportsExceptions = true) {x : ExceptionRegistry} (hfails : s.Fails builtinVerdict x) :
    Text.lower s.visit.name ∉ s.excepted x := by
  intro hn
  have hrule : s.check.rule ∈ Registry.builtin.rules := hl ▸ List.mem_of_getElem? hs.registered
  exact hfails ((Registry.builtin_eased _ hrule).2 hsupports _ _ _ hn)

theorem Failure.At.supports {s : Site} (hf : f.At s) (hl : l.registry = .builtin) (hs : s.Reached l c)
    (h : f.Excusable) : s.check.rule.supportsExceptions = true := by
  obtain ⟨rule, hget, hsupports⟩ := h
  rw [hf.rule, ← hl, hs.registered.get?_eq] at hget
  cases hget
  exact hsupports

theorem Failure.At.mem_excepted_iff {s : Site} (hf : f.At s) {x : ExceptionRegistry} :
    Text.lower f.violation.fieldName ∈ (x.exceptionsFor f.rule f.partition).forEntry f.entry ↔
      Text.lower s.visit.name ∈ s.excepted x := by
  rw [hf.fieldName, hf.rule, hf.partition, hf.entry]
  rfl

/-- A name that is reported and could be excepted is not. -/
theorem Failure.Excusable.not_excepted (h : f.Excusable) (hl : l.registry = .builtin)
    (hf : (l.checkCatalog c).outcome = .error f) :
    Text.lower f.violation.fieldName ∉ (l.exceptions.exceptionsFor f.rule f.partition).forEntry f.entry := by
  obtain ⟨s, hs, hfails, hat, _⟩ := Linter.least_site (Linter.builtin_eased hl) hf
  rw [hat.mem_excepted_iff]
  exact hs.not_excepted hl (hat.supports hl hs h) hfails

/-- the failure is found by the rules of this linter under its exceptions, or under these and more -/
def Linter.FailsLater (l : Linter) (c : Catalog) (g : Failure) : Prop :=
  ∃ more : Linter, more.registry = l.registry ∧ l.exceptions.Within more.exceptions ∧
    (more.checkCatalog c).outcome = .error g

theorem Linter.FailsLater.mono {more : Linter} (h : more.FailsLater c g) (hregistry : more.registry = l.registry)
    (hx : l.exceptions.Within more.exceptions) : l.FailsLater c g := by
  obtain ⟨most, hmost, hmore, hg⟩ := h
  exact ⟨most, hmost.trans hregistry, hx.trans hmore, hg⟩

/-- **Once the name that a failure reports is excepted, all failures stand after it.** -/
theorem Failure.Excusable.before {more : Linter} (h : f.Excusable) (hl : l.registry = .builtin)
    (hf : (l.checkCatalog c).outcome = .error f) (hregistry : more.registry = l.registry)
    (hx : l.exceptions.Within more.exceptions)
    (hadded : Text.lower f.violation.fieldName ∈ (more.exceptions.exceptionsFor f.rule f.partition).forEntry f.entry)
    (hg : more.FailsLater c g) : f.Before .builtin g := by
  obtain ⟨most, hmost, hmore, hg⟩ := hg
  obtain ⟨s, t, hs, ht, hfs, hgt, hfails, rfl | hbefore⟩ :=
    Linter.sites_of_failures (Linter.builtin_eased hl) (hmost.trans hregistry) (hx.trans hmore) hf hg
  · -- the same site does not fail any more
    have hexcepted := hfs.mem_excepted_iff.1 (hmore _ _ _ _ hadded)
    exact absurd hexcepted (hs.not_excepted hl (hfs.supports hl hs h) hfails)
  · rw [← hl]
    exact hbefore.failure_before hs ht hfs hgt

end

/-! ## One round -/

namespace Round

variable {c : Catalog} {raw next : Document} {f g : Failure} {l m : Linter}

/-- **After a round the exceptions are accepted again**, and they are those before and the name that was added. -/
theorem linter (h : Round c raw f next) (hl : Linter.ofDocument? raw = some l) :
    ∃ m, Linter.ofDocument? next = some m ∧ l.exceptions.Within m.exceptions ∧
      Text.lower f.violation.fieldName ∈ (m.exceptions.exceptionsFor f.rule f.partition).forEntry f.entry := by
  obtain ⟨hread, hregistry⟩ := Linter.ofDocument?_eq_some_iff.1 hl
  obtain ⟨name, hname, rfl⟩ := h.added
  have hnext := ExceptionRegistry.read_addException hread f.rule f.partition f.entry name
  have hadmitted : ∀ rule ∈ (l.exceptions.add f.rule f.partition f.entry (Text.lower name)).ruleNames,
      Registry.builtin.refusal? rule = none := by
    intro rule hrule
    rcases ExceptionRegistry.mem_ruleNames_add.1 hrule with rfl | hrule
    · obtain ⟨declared, hget, hsupports⟩ := h.excusable
      simp only [Registry.refusal?, hget, hsupports, if_true]
    · rw [← hregistry]
      exact l.admitted rule hrule
  refine ⟨⟨.builtin, _, hadmitted⟩, Linter.ofDocument?_eq_some_iff.2 ⟨hnext, rfl⟩, ?_, ?_⟩
  · intro rule p entry n hn
    exact ExceptionRegistry.mem_forEntry_add.2 (Or.inl hn)
  · exact ExceptionRegistry.mem_forEntry_add.2 (Or.inr ⟨rfl, rfl, rfl, hname.symm⟩)

/-- **All later failures stand strictly after that of a round.** -/
theorem before (h : Round c raw f next) (hm : Linter.ofDocument? next = some m) (hg : m.FailsLater c g) :
    f.Before .builtin g := by
  obtain ⟨l, hl, hf⟩ := h.fails
  obtain ⟨m', hm', hwithin, hadded⟩ := h.linter hl
  cases hm.symm.trans hm'
  have hregistry := Linter.registry_of_ofDocument? hl
  have hsame := (Linter.registry_of_ofDocument? hm).trans hregistry.symm
  exact h.excusable.before hregistry hf hsame hwithin hadded hg

/-- No later failure is about the same name in the same place. -/
theorem key_ne (h : Round c raw f next) (hm : Linter.ofDocument? next = some m) (hexcusable : g.Excusable)
    (hg : m.FailsLater c g) : f.key ≠ g.key := by
  obtain ⟨l, hl, _⟩ := h.fails
  obtain ⟨m', hm', _, hadded⟩ := h.linter hl
  cases hm.symm.trans hm'
  obtain ⟨more, hmore, hwithin, hfails⟩ := hg
  have hnot := hexcusable.not_excepted (hmore.trans (Linter.registry_of_ofDocument? hm)) hfails
  intro hkey
  simp only [Failure.key, Prod.mk.injEq] at hkey
  obtain ⟨hrule, hp, hentry, hname⟩ := hkey
  rw [← hrule, ← hp, ← hentry, ← hname] at hnot
  exact hnot (hwithin _ _ _ _ hadded)

/-- What a round excepts is a name of the catalog. -/
theorem key_mem (h : Round c raw f next) : f.key ∈ c.exceptionKeys := by
  obtain ⟨l, hl, hf⟩ := h.fails
  have hregistry := Linter.registry_of_ofDocument? hl
  obtain ⟨s, hs, _, hat, _⟩ := Linter.least_site (Linter.builtin_eased hregistry) hf
  have hrule : s.check.rule ∈ Registry.builtin.rules.filter (·.supportsExceptions) :=
    List.mem_filter.2 ⟨hregistry ▸ List.mem_of_getElem? hs.registered, hat.supports hregistry hs h.excusable⟩
  have hp : s.check.partition ∈ Partition.all := by
    cases s.check.partition <;> decide
  have hentry : (s.check.entry, s.check.schema) ∈ c.entries s.check.partition :=
    (Entries.lookup?_eq_some_iff (c.get s.check.partition).ordered).1 hs.present
  refine List.mem_flatMap.2 ⟨_, hrule, List.mem_flatMap.2 ⟨_, hp, List.mem_flatMap.2 ⟨_, hentry, ?_⟩⟩⟩
  refine List.mem_map.2 ⟨s.visit, hs.visited, ?_⟩
  rw [Failure.key, hat.rule, hat.partition, hat.entry, hat.fieldName]

end Round

/-! ## Rounds in sequence -/

namespace Rounds

variable {c : Catalog} {raw last : Document} {failures : List Failure} {l m : Linter}

/-- Every round leaves exceptions that are accepted, and takes none away. -/
theorem linter (h : Rounds c raw failures last) (hl : Linter.ofDocument? raw = some l) :
    ∃ m, Linter.ofDocument? last = some m ∧ l.exceptions.Within m.exceptions := by
  induction h generalizing l with
  | none => exact ⟨l, hl, fun _ _ _ _ hn => hn⟩
  | step round _ ih =>
    obtain ⟨m, hm, hwithin, _⟩ := round.linter hl
    obtain ⟨m', hm', hwithin'⟩ := ih hm
    exact ⟨m', hm', hwithin.trans hwithin'⟩

theorem failsLater (h : Rounds c raw failures last) (hl : Linter.ofDocument? raw = some l) {g : Failure}
    (hg : g ∈ failures) : g.Excusable ∧ l.FailsLater c g := by
  induction h generalizing l with
  | none => cases hg
  | step round _ ih =>
    rcases List.mem_cons.1 hg with rfl | hg
    · obtain ⟨l', hl', hf⟩ := round.fails
      cases hl.symm.trans hl'
      exact ⟨round.excusable, l, rfl, fun _ _ _ _ hn => hn, hf⟩
    · obtain ⟨m, hm, hwithin, _⟩ := round.linter hl
      obtain ⟨hexcusable, hlater⟩ := ih hm hg
      have hregistry := (Linter.registry_of_ofDocument? hm).trans (Linter.registry_of_ofDocument? hl).symm
      exact ⟨hexcusable, hlater.mono hregistry hwithin⟩

/-- **The failures of rounds in sequence increase strictly.** -/
theorem increasing (h : Rounds c raw failures last) : failures.Pairwise (Failure.Before .builtin) := by
  induction h with
  | none => exact .nil
  | step round rest ih =>
    obtain ⟨l, hl, _⟩ := round.fails
    obtain ⟨m, hm, _⟩ := round.linter hl
    exact List.pairwise_cons.2 ⟨fun g hg => round.before hm (rest.failsLater hm hg).2, ih⟩

/-- The failure after rounds stands after those of the rounds. -/
theorem before_last (h : Rounds c raw failures last) (hm : Linter.ofDocument? last = some m) {f : Failure}
    (hf : (m.checkCatalog c).outcome = .error f) : ∀ g ∈ failures, g.Before .builtin f := by
  induction h with
  | none => exact fun g hg => nomatch hg
  | step round rest ih =>
    intro g hg
    rcases List.mem_cons.1 hg with rfl | hg
    · obtain ⟨l, hl, _⟩ := round.fails
      obtain ⟨m₁, hm₁, _⟩ := round.linter hl
      obtain ⟨m', hm', hwithin⟩ := rest.linter hm₁
      cases hm.symm.trans hm'
      have hregistry := (Linter.registry_of_ofDocument? hm).trans (Linter.registry_of_ofDocument? hm₁).symm
      exact round.before hm₁ ⟨m, hregistry, hwithin, hf⟩
    · exact ih hm g hg

/-- **Nothing is excepted twice.** -/
theorem distinct (h : Rounds c raw failures last) : (failures.map Failure.key).Nodup := by
  induction h with
  | none => exact .nil
  | step round rest ih =>
    obtain ⟨l, hl, _⟩ := round.fails
    obtain ⟨m, hm, _⟩ := round.linter hl
    refine List.nodup_cons.2 ⟨fun hmem => ?_, ih⟩
    obtain ⟨g, hg, hkey⟩ := List.mem_map.1 hmem
    obtain ⟨hexcusable, hlater⟩ := rest.failsLater hm hg
    exact round.key_ne hm hexcusable hlater hkey.symm

theorem keys_subset (h : Rounds c raw failures last) : failures.map Failure.key ⊆ c.exceptionKeys := by
  induction h with
  | none => exact List.nil_subset _
  | step round _ ih => exact List.cons_subset.2 ⟨round.key_mem, ih⟩

theorem snoc {next : Document} {f : Failure} (h : Rounds c raw failures last) (round : Round c last f next) :
    Rounds c raw (failures ++ [f]) next := by
  induction h with
  | none => exact .step round (.none _)
  | step first _ ih => exact .step first (ih round)

/-- Rounds can be gone on with until no further one is possible. -/
theorem exists_last (c : Catalog) (raw : Document) :
    ∃ failures last, Rounds c raw failures last ∧ ¬ ∃ f next, Round c last f next := by
  -- induction on how many rounds the number of keys leaves
  have hgo : ∀ left failures last, Rounds c raw failures last → c.exceptionKeys.length ≤ failures.length + left →
      ∃ failures last, Rounds c raw failures last ∧ ¬ ∃ f next, Round c last f next := by
    intro left
    induction left with
    | zero =>
      intro failures last h hleft
      refine ⟨failures, last, h, fun ⟨f, next, round⟩ => ?_⟩
      have hmore := h.snoc round
      have hlength := hmore.distinct.length_le_of_subset hmore.keys_subset
      rw [List.length_map, List.length_append, List.length_singleton] at hlength
      omega
    | succ left ih =>
      intro failures last h hleft
      by_cases hround : ∃ f next, Round c last f next
      · obtain ⟨f, next, round⟩ := hround
        refine ih _ next (h.snoc round) ?_
        rw [List.length_append, List.length_singleton]
        omega
      · exact ⟨failures, last, h, hround⟩
  exact hgo c.exceptionKeys.length [] raw (.none raw) (Nat.le_add_left _ _)

end Rounds

/-! ## Where grandfathering ends -/

section

variable {c : Catalog} {m : Linter}

theorem Linter.no_secret_of_passes (hm : m.registry = .builtin) (h : ∃ counts, (m.checkCatalog c).outcome = .ok counts) :
    ¬ c.HasUnmarkedSecret := by
  obtain ⟨counts, hok⟩ := h
  have hpass := checks_pass_iff.1 (m.outcome_checkCatalog_eq_ok_iff.1 hok).1
  rw [hm] at hpass
  rintro ⟨p, entry, schema, parents, name, field, hentry, hat, hsecret⟩
  have hclean := (builtin_rules_pass_iff m.exceptions p entry schema).1 (hpass p entry schema hentry)
  exact hclean parents name field hat (Or.inl hsecret)

/-- A failure that cannot be excused is that of an unmarked secret. -/
theorem Linter.secret_of_not_excusable (hm : m.registry = .builtin) {f : Failure}
    (hf : (m.checkCatalog c).outcome = .error f) (hno : ¬ f.Excusable) :
    f.rule = "sensitive_fields" ∧ c.HasUnmarkedSecret := by
  have heased := Linter.builtin_eased hm
  obtain ⟨⟨k, v⟩, hs, hfails, hat, _⟩ := Linter.least_site heased hf
  have hresult : k.result m.exceptions ≠ none := fun hnone =>
    (Linter.result_eq_none_iff heased hs.registered).1 hnone v hs.visited hfails
  have hunsupported : k.rule.supportsExceptions ≠ true := by
    intro hsupports
    refine hno ⟨k.rule, ?_, hsupports⟩
    rw [hat.rule, ← hm]
    exact hs.registered.get?_eq
  have hrule : k.rule = Sensitivity.rule := by
    have hmem : k.rule ∈ Registry.builtin.rules := hm ▸ List.mem_of_getElem? hs.registered
    simp only [Registry.builtin, List.mem_cons, List.not_mem_nil, or_false] at hmem
    rcases hmem with h | h | h
    · exact h
    · exact absurd (h ▸ rfl) hunsupported
    · exact absurd (h ▸ rfl) hunsupported
  refine ⟨hat.rule.trans (congrArg Rule.name hrule), Classical.byContradiction fun hclean => ?_⟩
  rw [Check.result, hrule] at hresult
  refine hresult (((Sensitivity.verdict_judges _).firstViolation_eq_none_iff k.schema).2 ?_)
  intro parents name field hfield hsecret
  exact hclean ⟨k.partition, k.entry, k.schema, parents, name, field, hs.present, hfield, hsecret⟩

end

/-- **Grandfathering converges, and only secrets block it.** Begin with any catalog and any raw exceptions that are
accepted with the rules of this library. After any rounds the exceptions are accepted, the failures increase strictly,
up to the one that the next check gives, and nothing is excepted twice; so there are at most as many rounds as the
catalog has rules, partitions, entries and lower-cased field names together. Hence rounds come to an end. When no
further one is possible the catalog passes exactly if no field in it is an unmarked secret, and else it fails the rule
for secrets. -/
theorem grandfathering_converges (c : Catalog) (raw : Document) (l : Linter)
    (hl : Linter.ofDocument? raw = some l) :
    (∀ failures last, Rounds c raw failures last → ∃ m, Linter.ofDocument? last = some m ∧
      failures.Pairwise (Failure.Before .builtin) ∧
      (∀ f, (m.checkCatalog c).outcome = .error f → ∀ g ∈ failures, g.Before .builtin f) ∧
      (failures.map Failure.key).Nodup ∧ failures.map Failure.key ⊆ c.exceptionKeys ∧
      failures.length ≤ c.exceptionKeys.length) ∧
    (∃ failures last, Rounds c raw failures last ∧ ¬ ∃ f next, Round c last f next) ∧
    ∀ failures last, Rounds c raw failures last → (¬ ∃ f next, Round c last f next) →
      ∃ m, Linter.ofDocument? last = some m ∧
        ((∃ counts, (m.checkCatalog c).outcome = .ok counts) ↔ ¬ c.HasUnmarkedSecret) ∧
        (c.HasUnmarkedSecret → ∃ f, (m.checkCatalog c).outcome = .error f ∧ f.rule = "sensitive_fields") := by
  refine ⟨fun failures last h => ?_, Rounds.exists_last c raw, fun failures last h hlast => ?_⟩
  · obtain ⟨m, hm, _⟩ := h.linter hl
    have hlength := h.distinct.length_le_of_subset h.keys_subset
    rw [List.length_map] at hlength
    exact ⟨m, hm, h.increasing, fun f hf => h.before_last hm hf, h.distinct, h.keys_subset, hlength⟩
  · obtain ⟨m, hm, _⟩ := h.linter hl
    have hregistry := Linter.registry_of_ofDocument? hm
    -- where no round is possible, no failure can be excused
    have hblocked : ∀ f, (m.checkCatalog c).outcome = .error f → f.rule = "sensitive_fields" ∧ c.HasUnmarkedSecret := by
      intro f hf
      refine Linter.secret_of_not_excusable hregistry hf fun hexcusable => ?_
      exact hlast ⟨f, _, ⟨m, hm, hf⟩, hexcusable, f.violation.fieldName, rfl, rfl⟩
    refine ⟨m, hm, ⟨Linter.no_secret_of_passes hregistry, fun hclean => ?_⟩, fun hsecret => ?_⟩
    · cases hout : (m.checkCatalog c).outcome with
      | ok counts => exact ⟨counts, rfl⟩
      | error f => exact absurd (hblocked f hout).2 hclean
    · cases hout : (m.checkCatalog c).outcome with
      | ok counts => exact absurd hsecret (Linter.no_secret_of_passes hregistry ⟨counts, hout⟩)
      | error f => exact ⟨f, rfl, (hblocked f hout).1⟩

/-- one entry with a field that is named like a switch and is none -/
def falseSwitchOnly : Catalog :=
  ⟨⟨[("disk", ⟨[("Cache_Enabled", ⟨.primitive .string, false, .null⟩)], by decide⟩)], by decide⟩, .empty⟩

def bareLinter : Linter := ⟨.builtin, .empty, fun _ hname => nomatch hname⟩

/-- Without exceptions to begin with, grandfathering gets this catalog to pass, after one round or more. -/
theorem false_switch_is_grandfathered : Linter.ofDocument? (.mapping []) = some bareLinter ∧
    ∃ failures last m, Rounds falseSwitchOnly (.mapping []) failures last ∧ failures ≠ [] ∧
      Linter.ofDocument? last = some m ∧ ∃ counts, (m.checkCatalog falseSwitchOnly).outcome = .ok counts := by
  have hmade : Linter.ofDocument? (.mapping []) = some bareLinter := rfl
  have hfails : ∃ f, (bareLinter.checkCatalog falseSwitchOnly).outcome = .error f := ⟨_, rfl⟩
  have hclean : ¬ falseSwitchOnly.HasUnmarkedSecret := by
    rintro ⟨p, entry, schema, parents, name, field, hentry, hat, hsecret⟩
    have hmem := (Entries.lookup?_eq_some_iff (falseSwitchOnly.get p).ordered).1 hentry
    cases p with
    | resources => cases hmem
    | dataSources =>
      cases List.mem_singleton.1 hmem
      cases hat with
      | here hfield =>
        cases List.mem_singleton.1 hfield
        exact absurd (Sensitivity.offends_iff.2 hsecret) (by decide)
      | inside hfield helem =>
        cases List.mem_singleton.1 hfield
        cases helem
  obtain ⟨_, ⟨failures, last, hrounds, hlast⟩, hends⟩ := grandfathering_converges falseSwitchOnly _ _ hmade
  obtain ⟨m, hm, hpasses, _⟩ := hends failures last hrounds hlast
  refine ⟨hmade, failures, last, m, hrounds, ?_, hm, hpasses.2 hclean⟩
  rintro rfl
  cases hrounds
  cases hm.symm.trans hmade
  obtain ⟨counts, hok⟩ := hpasses.2 hclean
  obtain ⟨f, hf⟩ := hfails
  cases hok.symm.trans hf

end CatalogLint
