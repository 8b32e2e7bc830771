/-
Readings that agree. Two issues are alike when they stand at the same place and have the same code, and the same message
unless this prints a mapping; two lists of issues are the same when they are so as multisets. Two readings agree when
both give values that are alike, or none, and the same issues.

- `Checked.Agree.of_issues`: for readings with the same issues it is enough to compare their values.
- `Checked.Agree.and`, `Checked.Agree.map`, `Checked.Agree.within`: agreement goes through what readings are made of.
- `Checked.Agree.keyed`, `Checked.Agree.strayKeys`: and through the keys of a form.
- `EntryReader.agree`: mappings with the same entries in any order are read alike if their values are.
-/
import CatalogLint.Proofs.Exceptions.Declared
import CatalogLint.Proofs.Schema.Alike
import CatalogLint.Proofs.Validation.Forms

namespace CatalogLint

open Document (SameEntries Reordered last?)

/-! ## Issues in any order -/

namespace Cause

/-- the document whose text the message prints -/
def printed? : Cause → Option Document
  | .notAFieldType given | .unknownTag given => some given
  | _ => none

/-- the message prints a document with a mapping inside -/
def PrintsMapping (c : Cause) : Prop := ∃ d, c.printed? = some d ∧ d.HoldsMapping

/-- the same code, and the same message unless this prints a mapping -/
structure Alike (c c' : Cause) : Prop where
  code : c.code = c'.code
  message : c.message = c'.message ∨ (c.PrintsMapping ∧ c'.PrintsMapping)

theorem Alike.refl (c : Cause) : c.Alike c := ⟨rfl, Or.inl rfl⟩

/-- causes that print a document each -/
theorem alike_of_reordered (cause : Document → Cause) (hcode : ∀ d d', (cause d).code = (cause d').code)
    (hprinted : ∀ d, (cause d).printed? = some d) {d d' : Document} (h : d.Reordered d') :
    (cause d).Alike (cause d') := by
  refine ⟨hcode d d', ?_⟩
  rcases h.eq_or_holdsMapping with rfl | ⟨hd, hd'⟩
  · exact Or.inl rfl
  · exact Or.inr ⟨⟨d, hprinted d, hd⟩, d', hprinted d', hd'⟩

end Cause

/-- the same place, the same code, and the same message unless this prints a mapping -/
structure Issue.Alike (i i' : Issue) : Prop where
  place : i.place = i'.place
  cause : i.cause.Alike i'.cause

theorem Issue.Alike.refl (i : Issue) : i.Alike i := ⟨rfl, .refl _⟩

/-- the same issues, each as often, in any order -/
def SameIssues (issues issues' : List Issue) : Prop :=
  Multiset.Rel Issue.Alike (issues : Multiset Issue) (issues' : Multiset Issue)

namespace SameIssues

variable {issues issues' others others' : List Issue}

theorem of_perm (h : issues.Perm issues') : SameIssues issues issues' := by
  rw [SameIssues, Multiset.coe_eq_coe.2 h]
  exact Multiset.rel_refl_of_refl_on fun i _ => .refl i

theorem refl (issues : List Issue) : SameIssues issues issues := of_perm (.refl issues)

theorem append (h : SameIssues issues issues') (ho : SameIssues others others') :
    SameIssues (issues ++ others) (issues' ++ others') := by
  rw [SameIssues, ← Multiset.coe_add, ← Multiset.coe_add]
  exact Multiset.Rel.add h ho

theorem within (step : Step) (h : SameIssues issues issues') :
    SameIssues (issues.map (Issue.within step)) (issues'.map (Issue.within step)) := by
  rw [SameIssues, ← Multiset.map_coe, ← Multiset.map_coe, Multiset.rel_map]
  exact Multiset.Rel.mono h fun i _ i' _ hi => ⟨congrArg (List.cons step) hi.place, hi.cause⟩

theorem flatMap {α β : Type} {r : α → β → Prop} {l : List α} {l' : List β} {f : α → List Issue} {g : β → List Issue}
    (h : Multiset.Rel r (l : Multiset α) (l' : Multiset β)) (hfg : ∀ a b, r a b → SameIssues (f a) (g b)) :
    SameIssues (l.flatMap f) (l'.flatMap g) := by
  rw [SameIssues, ← Multiset.coe_bind, ← Multiset.coe_bind]
  exact Multiset.rel_bind (fun a b hab => hfg a b hab) h

theorem eq_nil_iff (h : SameIssues issues issues') : issues = [] ↔ issues' = [] := by
  have hlength := Multiset.card_eq_card_of_rel h
  rw [Multiset.coe_card, Multiset.coe_card] at hlength
  rw [← List.length_eq_zero_iff, ← List.length_eq_zero_iff, hlength]

end SameIssues

/-! ## Readings that agree -/

namespace Checked

variable {α α' β β' : Type} {alike : α → α' → Prop} {beside : β → β' → Prop}

theorem value?_eq_some_iff {x : Checked α} {a : α} : x.value? = some a ↔ x = .accepted a := by
  cases x <;> simp [value?]

/-- both give values that are alike, or none, and the same issues -/
structure Agree (alike : α → α' → Prop) (x : Checked α) (x' : Checked α') : Prop where
  value : Option.Rel alike x.value? x'.value?
  issues : SameIssues x.issues x'.issues

namespace Agree

variable {x : Checked α} {x' : Checked α'} {y : Checked β} {y' : Checked β'}

/-- Readings with the same issues agree if their values do, where there are any. -/
theorem of_issues (hissues : SameIssues x.issues x'.issues)
    (hvalue : ∀ a a', x = .accepted a → x' = .accepted a' → alike a a') : Agree alike x x' := by
  refine ⟨rel_of_isSome_iff ?_ fun a a' ha ha' => hvalue a a' ?_ ?_, hissues⟩
  · rw [isSome_value?, isSome_value?]
    exact hissues.eq_nil_iff
  · exact value?_eq_some_iff.1 ha
  · exact value?_eq_some_iff.1 ha'

theorem alike_of_accepted (h : Agree alike x x') {a : α} {a' : α'} (ha : x = .accepted a) (ha' : x' = .accepted a') :
    alike a a' := by
  subst ha ha'
  cases h.value with
  | some haa => exact haa

theorem accepted {a : α} {a' : α'} (h : alike a a') : Agree alike (.accepted a) (.accepted a') := ⟨.some h, .refl _⟩

theorem reject {cause cause' : Cause} (h : cause.Alike cause') : Agree alike (.reject cause) (.reject cause') :=
  ⟨.none, Multiset.Rel.cons ⟨rfl, h⟩ .zero⟩

theorem refl {same : α → α → Prop} (hsame : ∀ a, same a a) (x : Checked α) : Agree same x x := by
  refine of_issues (.refl _) fun a a' ha ha' => ?_
  rw [ha] at ha'
  cases ha'
  exact hsame a

theorem imp {other : α → α' → Prop} (h : Agree alike x x') (himp : ∀ a a', alike a a' → other a a') :
    Agree other x x' :=
  of_issues h.issues fun a a' ha ha' => himp a a' (h.alike_of_accepted ha ha')

theorem map {f : α → β} {f' : α' → β'} (h : Agree alike x x') (hf : ∀ a a', alike a a' → beside (f a) (f' a')) :
    Agree beside (x.map f) (x'.map f') := by
  refine of_issues ?_ fun b b' hb hb' => ?_
  · rw [issues_map, issues_map]
    exact h.issues
  · obtain ⟨a, ha, rfl⟩ := map_eq_accepted_iff.1 hb
    obtain ⟨a', ha', rfl⟩ := map_eq_accepted_iff.1 hb'
    exact hf a a' (h.alike_of_accepted ha ha')

theorem and (hx : Agree alike x x') (hy : Agree beside y y') :
    Agree (fun p p' => alike p.1 p'.1 ∧ beside p.2 p'.2) (x.and y) (x'.and y') := by
  refine of_issues ?_ fun p p' hp hp' => ?_
  · rw [issues_and, issues_and]
    exact hx.issues.append hy.issues
  · obtain ⟨ha, hb⟩ := and_eq_accepted_iff.1 hp
    obtain ⟨ha', hb'⟩ := and_eq_accepted_iff.1 hp'
    exact ⟨hx.alike_of_accepted ha ha', hy.alike_of_accepted hb hb'⟩

theorem within (step : Step) (h : Agree alike x x') : Agree alike (x.within step) (x'.within step) := by
  refine of_issues ?_ fun a a' ha ha' => ?_
  · rw [issues_within, issues_within]
    exact h.issues.within step
  · exact h.alike_of_accepted (within_eq_accepted_iff.1 ha) (within_eq_accepted_iff.1 ha')

/-! ## Keys of a form -/

variable {r : Document → Document → Prop} {entries entries' : List (Scalar × Document)}

theorem keyed {name : String} {absent : Checked α} {absent' : Checked α'} {read : Document → Checked α}
    {read' : Document → Checked α'}
    (h : Option.Rel r (Document.lookup? name entries) (Document.lookup? name entries'))
    (habsent : Agree alike absent absent') (hread : ∀ d d', r d d' → Agree alike (read d) (read' d')) :
    Agree alike (Reading.keyed name absent read entries) (Reading.keyed name absent' read' entries') := by
  rw [Reading.keyed, Reading.keyed]
  cases hd : Document.lookup? name entries with
  | none =>
    rw [hd, rel_none_iff] at h
    rw [h]
    exact habsent
  | some d =>
    rw [hd, rel_some_iff] at h
    obtain ⟨d', hd', hrel⟩ := h
    rw [hd']
    exact (hread d d' hrel).within _

/-- What is wrong with the keys of a form does not depend on their order. -/
theorem strayKeys (known : List String) (h : (entries.map Prod.fst).Perm (entries'.map Prod.fst)) :
    Agree (fun _ _ => True) (ofIssues (Reading.strayKeys known entries))
      (ofIssues (Reading.strayKeys known entries')) := by
  have hkey : Reading.strayKey known entries = Reading.strayKey known entries' :=
    Reading.strayKey_congr (fun _ => h.mem_iff) known
  refine of_issues ?_ fun _ _ _ _ => trivial
  rw [issues_ofIssues, issues_ofIssues, Reading.strayKeys_eq, Reading.strayKeys_eq, hkey]
  exact .of_perm (h.filterMap _)

end Agree

end Checked

/-! ## Mappings -/

theorem Document.SameEntries.last? {r : Document → Document → Prop} {entries entries' : List (Scalar × Document)}
    (h : SameEntries r entries entries') {isKey : Scalar → Bool}
    (hone : ∀ key ∈ entries.map Prod.fst, ∀ other ∈ entries.map Prod.fst, isKey key → isKey other → key = other) :
    Option.Rel r (Document.last? isKey entries) (Document.last? isKey entries') := by
  refine rel_of_isSome_iff ?_ fun d d' hd hd' => ?_
  · simp only [last?_isSome_iff, h.keys.mem_iff]
  · obtain ⟨key, hkey, hmem⟩ := mem_of_last? hd
    obtain ⟨other, hother, hmem'⟩ := mem_of_last? hd'
    have hthere : other ∈ entries.map Prod.fst := h.keys.mem_iff.2 (List.mem_map_of_mem hmem')
    have heq : key = other := hone key (List.mem_map_of_mem hmem) other hthere hkey hother
    subst heq
    exact h.values key d d' hmem hmem'

namespace EntryReader

variable {κ μ α : Type} [DecidableEq κ] (r : EntryReader κ μ α)

/-- how the reader collects issues: those of each key, and those of its value below the step to it -/
structure Collects (keyIssues : Scalar → List Issue) : Prop where
  issues : ∀ entries, (r.readAll entries).issues =
    entries.flatMap fun e => keyIssues e.1 ++ (r.read e.2).issues.map (Issue.within (.ofKey e.1))
  /-- keys that are read alike are one name -/
  name : ∀ key other k, r.key? key = some k → r.key? other = some k →
    ∃ name, Reading.text? key = some name ∧ Reading.text? other = some name

variable {keyIssues : Scalar → List Issue} {alike : α → α → Prop} {entries entries' : List (Scalar × Document)}

/-- **Mappings with the same entries in any order are read alike** if their values are. -/
theorem agree (hr : r.Collects keyIssues)
    (h : SameEntries (fun d d' => (r.read d).Agree alike (r.read d')) entries entries') :
    (r.readAll entries).Agree (fun m m' => ∀ k, Option.Rel alike (r.get m k) (r.get m' k)) (r.readAll entries') := by
  refine .of_issues ?_ fun m m' hm hm' k => ?_
  · rw [hr.issues, hr.issues]
    refine .flatMap h.rel ?_
    rintro ⟨key, d⟩ ⟨key', d'⟩ ⟨heq, hagree⟩
    simp only at heq hagree
    subst heq
    exact (SameIssues.refl _).append (hagree.issues.within _)
  · -- one key at most is read as `k`, so the value that counts for it is the same wherever it stands
    have hone : ∀ key ∈ entries.map Prod.fst, ∀ other ∈ entries.map Prod.fst, r.isKey k key → r.isKey k other →
        key = other := by
      intro key hkey other hother hk hk'
      rw [isKey, beq_iff_eq] at hk hk'
      obtain ⟨name, hname, hname'⟩ := hr.name key other k hk hk'
      exact h.distinct key hkey other hother name hname hname'
    have hlast := h.last? hone
    have hread := r.get_readAll hm k
    have hread' := r.get_readAll hm' k
    cases hd : Document.last? (r.isKey k) entries with
    | none =>
      rw [hd, rel_none_iff] at hlast hread
      rw [hlast, rel_none_iff] at hread'
      rw [hread, hread']
      exact .none
    | some d =>
      rw [hd, rel_some_iff] at hlast hread
      obtain ⟨d', hd', hagree⟩ := hlast
      obtain ⟨a, ha, hda⟩ := hread
      rw [hd', rel_some_iff] at hread'
      obtain ⟨a', ha', hda'⟩ := hread'
      rw [ha, ha']
      exact .some (hagree.alike_of_accepted hda hda')

end EntryReader

theorem Reading.entryReader_collects {α : Type} (read : Document → Checked α) :
    (Reading.entryReader read).Collects fun key => (Reading.nameKey key).issues where
  issues := Reading.issues_namedEntries_eq
  name _ _ name hkey hother := ⟨name, hkey, hother⟩

theorem Partitioned.issues_readEntries_eq {α : Type} {read : Document → Checked α} (entries : List (Scalar × Document)) :
    (readEntries read entries).issues =
      entries.flatMap fun e => (partitionKey e.1).issues ++ (read e.2).issues.map (Issue.within (.ofKey e.1)) := by
  induction entries with
  | nil => rfl
  | cons e rest ih =>
    obtain ⟨key, d⟩ := e
    rw [readEntries, Checked.issues_map, Checked.issues_and, Checked.issues_and, Checked.issues_within, ih,
      List.flatMap_cons]

theorem Partitioned.entryReader_collects {α : Type} (read : Document → Checked α) :
    (Partitioned.entryReader read).Collects fun key => (partitionKey key).issues where
  issues := Partitioned.issues_readEntries_eq
  name key other p hkey hother := by
    obtain ⟨name, hname, hp⟩ := Option.bind_eq_some_iff.1 hkey
    obtain ⟨name', hname', hp'⟩ := Option.bind_eq_some_iff.1 hother
    have heq : name = name' := by rw [← Partition.name_of_ofName? hp, ← Partition.name_of_ofName? hp']
    exact ⟨name, hname, heq ▸ hname'⟩

end CatalogLint
