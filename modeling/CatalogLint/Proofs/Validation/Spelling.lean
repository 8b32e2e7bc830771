/-
What the reader accepts of one declaration. Each part of a declaration is accepted as the grammar has it: truth values
(`Reading.truth_eq_accepted_iff`), keys (`Reading.strayKeys_eq_nil_iff`), kinds and elements (`ReadsKind`).

- `Declaration.field_mapping_eq_accepted_iff`: put together, a mapping is accepted as a field exactly as `Spells` has it,
  given what is accepted as its elements.
-/
import CatalogLint.Proofs.Validation.Forms
import CatalogLint.Proofs.Validation.Grammar
import CatalogLint.Proofs.Validation.Named

namespace CatalogLint

open Document (lookup?)

/-! ## Values beside the kind -/

namespace Reading

theorem truthOfInt_eq_accepted_iff {near : Bool} {n : Int} {b : Bool} :
    truthOfInt near n = .accepted b ↔ (n = 1 ∧ b = true) ∨ (n = 0 ∧ b = false) := by
  unfold truthOfInt
  by_cases hone : n = 1
  · subst hone
    simp [eq_comm]
  · by_cases hzero : n = 0
    · subst hzero
      simp [eq_comm]
    · cases near <;> simp [hone, hzero, Checked.reject]

theorem truthOfWord_eq (s : String) : truthOfWord s =
    if s.toLower ∈ trueWords then .accepted true
    else if s.toLower ∈ falseWords then .accepted false
    else .reject .unreadableBoolean := by
  have hplain : String.ofList (s.toList.map Char.toLower) = s.toLower := by
    show _ = s.map Char.toLower
    rw [← String.toList_inj, String.toList_map, String.toList_ofList]
  rw [← hplain]
  rfl

theorem truthOfWord_eq_accepted_iff {s : String} {b : Bool} :
    truthOfWord s = .accepted b ↔ TruthOf (.text s) b := by
  have hperm : trueWords.Perm ["1", "t", "true", "y", "yes", "on"] := by decide
  have happart : ∀ word ∈ falseWords, word ∉ trueWords := by decide
  rw [truthOfWord_eq]
  constructor
  · intro h
    split at h
    · rename_i hword
      cases h
      exact .trueWord (hperm.mem_iff.1 hword)
    · split at h
      · rename_i hword
        cases h
        exact .falseWord hword
      · cases h
  · intro h
    cases h with
    | trueWord hword => rw [if_pos (hperm.mem_iff.2 hword)]
    | falseWord hword =>
      have hfalse : s.toLower ∈ falseWords := hword
      rw [if_neg (happart _ hfalse), if_pos hfalse]

theorem truth_eq_accepted_iff {d : Document} (hd : d.Plain) {b : Bool} :
    truth d = .accepted b ↔ TruthOf d b := by
  cases hd with
  | list | set | mapping =>
    constructor
    · intro h
      cases h
    · intro h
      cases h
  | @scalar s hs =>
    cases s with
    | bytes bytes => exact absurd rfl (hs bytes)
    | text word => exact truthOfWord_eq_accepted_iff
    | null | date | moment =>
      constructor
      · intro h
        cases h
      · intro h
        cases h
    | bool given =>
      constructor
      · intro h
        cases h
        exact .bool _
      · intro h
        cases h
        rfl
    | int n =>
      rw [truth, truthOfInt_eq_accepted_iff]
      constructor
      · rintro (⟨rfl, rfl⟩ | ⟨rfl, rfl⟩)
        · exact .one
        · exact .zero
      · intro h
        cases h with
        | one => exact Or.inl ⟨rfl, rfl⟩
        | zero => exact Or.inr ⟨rfl, rfl⟩
    | float x =>
      constructor
      · intro h
        rw [truth] at h
        split at h
        · rename_i n hn
          rcases truthOfInt_eq_accepted_iff.1 h with ⟨rfl, rfl⟩ | ⟨rfl, rfl⟩
          · exact .floatOne hn
          · exact .floatZero hn
        · cases h
      · intro h
        cases h with
        | floatOne hx => rw [truth, hx]; rfl
        | floatZero hx => rw [truth, hx]; rfl

theorem keyed_sensitive_eq_accepted_iff {entries : List (Scalar × Document)}
    (h : ∀ d, lookup? "sensitive" entries = some d → d.Plain) {b : Bool} :
    keyed "sensitive" (.accepted false) truth entries = .accepted b ↔ SensitiveBy (lookup? "sensitive" entries) b := by
  rw [keyed]
  cases hgiven : lookup? "sensitive" entries with
  | none =>
    constructor
    · intro heq
      cases heq
      exact .absent
    · intro hs
      cases hs
      rfl
  | some d =>
    rw [Checked.within_eq_accepted_iff, truth_eq_accepted_iff (h d hgiven)]
    constructor
    · exact .given
    · intro hs
      cases hs with
      | given htruth => exact htruth

/-- Among texts, the keys that are astray are those that are not known. -/
theorem strayKeys_eq_nil_iff {known : List String} {entries : List (Scalar × Document)}
    (h : ∀ e ∈ entries, ∃ name, e.1 = .text name) : strayKeys known entries = [] ↔ KeysAmong known entries := by
  rw [strayKeys, List.filterMap_eq_nil_iff]
  refine forall₂_congr fun e he => ?_
  obtain ⟨key, d⟩ := e
  obtain ⟨name, hname⟩ := h (key, d) he
  simp only at hname
  subst hname
  have hhere : Document.hasName name entries = true := Document.lookup?_isSome_iff.2 (List.mem_map_of_mem he)
  have hastray : strayKey known entries (.text name) = none ↔ name ∈ known := by
    rw [strayKey]
    simp [text?, hhere]
  rw [hastray]
  constructor
  · intro hmem
    exact ⟨name, hmem, rfl⟩
  · rintro ⟨other, hmem, heq⟩
    cases heq
    exact hmem

end Reading

namespace Declaration

variable {entries : List (Scalar × Document)}

/-! ## What the reader accepts -/

/-- what the reader makes of a type and of the elements given for it -/
inductive ReadsKind : FieldType → Option Document → Kind Schema → Prop where
  | primitive (t : PrimitiveType) : ReadsKind (.primitive t) none (.primitive t)
  | bare {s : Shape} {given : Option Document} (h : given = none ∨ given = some .null) :
    ReadsKind (.collection s) given (.collection s none)
  | nested {s : Shape} {d : Document} {elem : Schema} (h : schema d = .accepted elem) :
    ReadsKind (.collection s) (some d) (.collection s (some elem))

theorem ReadsKind.exists_elem {s : Shape} {given : Option Document} {k : Kind Schema}
    (h : ReadsKind (.collection s) given k) : ∃ e, k = .collection s e := by
  cases h with
  | bare _ => exact ⟨none, rfl⟩
  | nested _ => exact ⟨some _, rfl⟩

theorem mapping_of_schema {d : Document} {s : Schema} (h : schema d = .accepted s) :
    ∃ entries, d = .mapping entries ∧ fields entries = .accepted s := by
  cases d with
  | mapping entries =>
    rw [schema] at h
    exact ⟨entries, rfl, h⟩
  | again isMapping =>
    rw [schema] at h
    cases h
  | scalar | list | set | pair =>
    rw [schema] at h
    · cases h
    · intro _ hd
      cases hd
    · intro _ hd
      cases hd

theorem elem_eq_accepted_iff {s : Shape} {e : Option Schema} :
    elem entries = .accepted e ↔ ReadsKind (.collection s) (lookup? "elem" entries) (.collection s e) := by
  rw [elem_eq]
  cases hgiven : lookup? "elem" entries with
  | none =>
    constructor
    · intro h
      cases h
      exact .bare (Or.inl rfl)
    · intro h
      cases h
      rfl
  | some d =>
    by_cases hnull : d.isNull
    · simp only [if_pos hnull]
      have hd : d = .null := Document.isNull_iff.1 hnull
      subst hd
      constructor
      · intro h
        cases h
        exact .bare (Or.inr rfl)
      · intro h
        cases h with
        | bare => rfl
        | nested hread =>
          obtain ⟨_, hmapping, _⟩ := mapping_of_schema hread
          cases hmapping
    · simp only [if_neg hnull, Checked.map_eq_accepted_iff]
      constructor
      · rintro ⟨elem, hread, rfl⟩
        exact .nested (Checked.within_eq_accepted_iff.1 hread)
      · intro h
        cases h with
        | bare h =>
          rcases h with h | h
          · cases h
          · cases h
            exact absurd rfl hnull
        | nested hread => exact ⟨_, Checked.within_eq_accepted_iff.2 hread, rfl⟩

theorem fieldWith_eq_accepted_iff {kind : Checked (Kind Schema)} (h : ∀ e ∈ entries, ∃ name, e.1 = .text name)
    (hplain : ∀ d, lookup? "sensitive" entries = some d → d.Plain) {f : { f : Field // f.isOrdered }} :
    fieldWith kind entries = .accepted f ↔ KeysAmong ["kind", "sensitive", "default"] entries ∧
      ∃ k b, kind = .accepted k ∧ SensitiveBy (lookup? "sensitive" entries) b ∧
        f = Field.ofKind k b ((lookup? "default" entries).getD .null) := by
  simp only [fieldWith, Checked.map_eq_accepted_iff, Checked.and_eq_accepted_iff, Checked.ofIssues_eq_accepted_iff,
    Reading.strayKeys_eq_nil_iff h, Reading.keyed_sensitive_eq_accepted_iff hplain]
  constructor
  · rintro ⟨⟨⟨k, b⟩, _⟩, ⟨⟨hk, hb⟩, hkeys⟩, rfl⟩
    exact ⟨hkeys, k, b, hk, hb, rfl⟩
  · rintro ⟨hkeys, k, b, hk, hb, rfl⟩
    exact ⟨⟨⟨k, b⟩, ()⟩, ⟨⟨hk, hb⟩, hkeys⟩, rfl⟩

theorem primitiveType_eq_accepted_iff {d : Document} (hd : d.Plain) {t : PrimitiveType} :
    primitiveType d = .accepted t ↔ d = .text t.name := by
  have hnamed : ∀ u : FieldType, namedType? d = some u ↔ d = .text u.name := by
    intro u
    rw [← fieldType?_eq_some_iff]
    cases hd with
    | list | set | mapping => rfl
    | @scalar s hs =>
      cases s with
      | bytes bytes => exact absurd rfl (hs bytes)
      | null | bool | int | float | text | date | moment => rfl
  rw [primitiveType]
  constructor
  · intro h
    split at h
    · rename_i u hu
      cases h
      exact (hnamed _).1 hu
    · cases h
    · cases h
  · intro h
    rw [(hnamed (.primitive t)).2 h]

theorem primitiveKind_eq_accepted_iff (h : (Document.mapping entries).Plain)
    (htag : lookup? "kind" entries = some (.text "primitive")) {k : Kind Schema} :
    primitiveKind entries = .accepted k ↔ KeysAmong ["kind", "type"] entries ∧
      ∃ t : PrimitiveType, lookup? "type" entries = some (.text t.name) ∧ k = .primitive t := by
  simp only [primitiveKind, tag_of_lookup? htag, Checked.map_eq_accepted_iff, Checked.and_eq_accepted_iff,
    Checked.ofIssues_eq_accepted_iff, Reading.strayKeys_eq_nil_iff h.entries.1.texts, Reading.keyed]
  constructor
  · rintro ⟨⟨⟨_, t⟩, _⟩, ⟨⟨_, ht⟩, hkeys⟩, rfl⟩
    refine ⟨hkeys, t, ?_, rfl⟩
    cases hgiven : lookup? "type" entries with
    | none => rw [hgiven] at ht; cases ht
    | some d =>
      rw [hgiven] at ht
      rw [(primitiveType_eq_accepted_iff (h.of_lookup? hgiven)).1 (Checked.within_eq_accepted_iff.1 ht)]
  · rintro ⟨hkeys, t, ht, rfl⟩
    refine ⟨⟨⟨(), t⟩, ()⟩, ⟨⟨trivial, ?_⟩, hkeys⟩, rfl⟩
    rw [ht]
    exact Checked.within_eq_accepted_iff.2 ((primitiveType_eq_accepted_iff (h.of_lookup? ht)).2 rfl)

theorem collectionKind_eq_accepted_iff {s : Shape} (h : ∀ e ∈ entries, ∃ name, e.1 = .text name)
    (htag : lookup? "kind" entries = some (.text s.name)) {k : Kind Schema} :
    collectionKind s entries = .accepted k ↔ KeysAmong ["kind", "elem"] entries ∧
      ReadsKind (.collection s) (lookup? "elem" entries) k := by
  have helem : ∀ e, elem entries = .accepted e ↔ ReadsKind (.collection s) (lookup? "elem" entries) (.collection s e) :=
    fun e => elem_eq_accepted_iff
  simp only [collectionKind, tag_of_lookup? htag, Checked.map_eq_accepted_iff, Checked.and_eq_accepted_iff,
    Checked.ofIssues_eq_accepted_iff, Reading.strayKeys_eq_nil_iff h, helem]
  constructor
  · rintro ⟨⟨⟨_, e⟩, _⟩, ⟨⟨_, he⟩, hkeys⟩, rfl⟩
    exact ⟨hkeys, he⟩
  · rintro ⟨hkeys, hk⟩
    obtain ⟨e, rfl⟩ := hk.exists_elem
    exact ⟨⟨⟨(), e⟩, ()⟩, ⟨⟨trivial, hk⟩, hkeys⟩, rfl⟩

theorem tag_of_accepted {k : Kind Schema} (h : taggedKind (.mapping entries) = .accepted k) :
    lookup? "kind" entries = some (.text "primitive") ∨ ∃ s : Shape, lookup? "kind" entries = some (.text s.name) := by
  rw [taggedKind] at h
  split at h
  · cases h
  · rename_i htag
    exact Or.inl htag
  · rename_i htag
    exact Or.inr ⟨.list, htag⟩
  · rename_i htag
    exact Or.inr ⟨.set, htag⟩
  · cases h

/-- With a tag, the kind and the keys beside it are read as the grammar spells them. -/
theorem taggedKind_eq_accepted_iff {kind : Document} (hkind : kind.Plain)
    (hkeys : KeysAmong ["kind", "sensitive", "default"] entries) (hunder : lookup? "kind" entries = some kind)
    {k : Kind Schema} :
    taggedKind kind = .accepted k ↔ ∃ t given, Spells entries t given ∧ ReadsKind t given k := by
  constructor
  · intro h
    cases kind with
    | scalar | list | set | pair | again =>
      rw [taggedKind] at h
      · cases h
      · intro _ hd
        cases hd
    | mapping inner =>
      rcases tag_of_accepted h with htag | ⟨s, htag⟩
      · rw [taggedKind_primitive htag, Checked.within_eq_accepted_iff, primitiveKind_eq_accepted_iff hkind htag] at h
        obtain ⟨hinner, t, htype, rfl⟩ := h
        exact ⟨_, _, .taggedPrimitive hkeys hunder hinner htag htype, .primitive t⟩
      · rw [taggedKind_collection htag, Checked.within_eq_accepted_iff,
          collectionKind_eq_accepted_iff hkind.entries.1.texts htag] at h
        obtain ⟨hinner, hreads⟩ := h
        exact ⟨_, _, .taggedCollection hkeys hunder hinner htag, hreads⟩
  · rintro ⟨t, given, hspells, hreads⟩
    cases hspells with
    | taggedPrimitive _ hunder' hinner htag htype =>
      rw [hunder] at hunder'
      cases hunder'
      cases hreads
      rw [taggedKind_primitive htag, Checked.within_eq_accepted_iff, primitiveKind_eq_accepted_iff hkind htag]
      exact ⟨hinner, _, htype, rfl⟩
    | taggedCollection _ hunder' hinner htag =>
      rw [hunder] at hunder'
      cases hunder'
      rw [taggedKind_collection htag, Checked.within_eq_accepted_iff,
        collectionKind_eq_accepted_iff hkind.entries.1.texts htag]
      exact ⟨hinner, hreads⟩
    | flatPrimitive hkeys' htype helem =>
      rw [hkeys'.lookup?_eq_none (by decide)] at hunder
      cases hunder
    | flatCollection hkeys' htype =>
      rw [hkeys'.lookup?_eq_none (by decide)] at hunder
      cases hunder

theorem keysAmong_withKind_iff (hflat : lookup? "kind" entries = none) :
    KeysAmong ["kind", "sensitive", "default"] (withKind entries) ↔
      KeysAmong ["type", "elem", "sensitive", "default"] entries := by
  rw [withKind_eq]
  constructor
  · intro h e he
    by_cases hdescribes : e.1 = .text "type" ∨ e.1 = .text "elem"
    · rcases hdescribes with hkey | hkey
      · exact ⟨"type", by simp, hkey⟩
      · exact ⟨"elem", by simp, hkey⟩
    · have hbeside : e ∈ beside entries := by
        rw [not_or] at hdescribes
        exact List.mem_filter.2 ⟨he, by simp [hdescribes]⟩
      obtain ⟨name, hname, hkey⟩ := h e (List.mem_cons_of_mem _ hbeside)
      rcases List.mem_cons.1 hname with rfl | hname
      · have hsome : (lookup? "kind" entries).isSome :=
          Document.lookup?_isSome_iff.2 (hkey ▸ List.mem_map_of_mem he)
        rw [hflat] at hsome
        cases hsome
      · exact ⟨name, List.mem_cons_of_mem _ (List.mem_cons_of_mem _ hname), hkey⟩
  · intro h e he
    rcases List.mem_cons.1 he with rfl | he
    · exact ⟨"kind", List.mem_cons_self, rfl⟩
    · obtain ⟨hmem, hdescribes⟩ := List.mem_filter.1 he
      obtain ⟨name, hname, hkey⟩ := h e hmem
      simp only [hkey, ne_eq, Scalar.text.injEq, Bool.and_eq_true, decide_eq_true_eq] at hdescribes
      refine ⟨name, List.mem_cons_of_mem _ ?_, hkey⟩
      rcases List.mem_cons.1 hname with rfl | hname
      · exact absurd rfl hdescribes.1
      · rcases List.mem_cons.1 hname with rfl | hname
        · exact absurd rfl hdescribes.2
        · exact hname

theorem normalisable_of_accepted (hflat : lookup? "kind" entries = none) {f : { f : Field // f.isOrdered }}
    (h : field (.mapping entries) = .accepted f) : Normalisable entries := by
  refine Classical.byContradiction fun hno => ?_
  obtain ⟨cause, _, hissues⟩ := issues_of_not_normalisable hflat hno
  rw [h] at hissues
  cases hissues

/-- what the grammar says of a field that the keys of a mapping declare, given what is read of the elements -/
def SpellsField (entries : List (Scalar × Document)) (f : { f : Field // f.isOrdered }) : Prop :=
  ∃ t given k b, Spells entries t given ∧ ReadsKind t given k ∧ SensitiveBy (lookup? "sensitive" entries) b ∧
    f = Field.ofKind k b ((lookup? "default" entries).getD .null)

theorem field_tagged_eq_accepted_iff (h : (Document.mapping entries).Plain) {kind : Document}
    (hkind : lookup? "kind" entries = some kind) {f : { f : Field // f.isOrdered }} :
    field (.mapping entries) = .accepted f ↔ SpellsField entries f := by
  have hkindPlain := h.of_lookup? hkind
  rw [field_tagged hkind, fieldWith_eq_accepted_iff h.entries.1.texts fun d hd => h.of_lookup? hd]
  simp only [Checked.within_eq_accepted_iff]
  constructor
  · rintro ⟨hkeys, k, b, hk, hb, hf⟩
    obtain ⟨t, given, hspells, hreads⟩ := (taggedKind_eq_accepted_iff hkindPlain hkeys hkind).1 hk
    exact ⟨t, given, k, b, hspells, hreads, hb, hf⟩
  · rintro ⟨t, given, k, b, hspells, hreads, hb, hf⟩
    have hkeys : KeysAmong ["kind", "sensitive", "default"] entries := by
      cases hspells with
      | taggedPrimitive hkeys | taggedCollection hkeys => exact hkeys
      | flatPrimitive hkeys | flatCollection hkeys =>
        rw [hkeys.lookup?_eq_none (by decide)] at hkind
        cases hkind
    have hk := (taggedKind_eq_accepted_iff hkindPlain hkeys hkind).2 ⟨t, given, hspells, hreads⟩
    exact ⟨hkeys, k, b, hk, hb, hf⟩

theorem fieldWith_withKind_eq_accepted_iff (h : (Document.mapping entries).Plain)
    (hflat : lookup? "kind" entries = none) {kind : Checked (Kind Schema)} {f : { f : Field // f.isOrdered }} :
    fieldWith kind (withKind entries) = .accepted f ↔ KeysAmong ["type", "elem", "sensitive", "default"] entries ∧
      ∃ k b, kind = .accepted k ∧ SensitiveBy (lookup? "sensitive" entries) b ∧
        f = Field.ofKind k b ((lookup? "default" entries).getD .null) := by
  have hsensitive : lookup? "sensitive" (withKind entries) = lookup? "sensitive" entries :=
    lookup?_withKind (by decide) (by decide) (by decide) entries
  have hdefault : lookup? "default" (withKind entries) = lookup? "default" entries :=
    lookup?_withKind (by decide) (by decide) (by decide) entries
  rw [fieldWith_eq_accepted_iff (texts_withKind h.entries.1.texts) (hsensitive ▸ fun d hd => h.of_lookup? hd), keysAmong_withKind_iff hflat,
    hsensitive, hdefault]

theorem field_flat_eq_accepted_iff (h : (Document.mapping entries).Plain) (hflat : lookup? "kind" entries = none)
    {f : { f : Field // f.isOrdered }} : field (.mapping entries) = .accepted f ↔ SpellsField entries f := by
  constructor
  · intro hread
    obtain ⟨t, htype, helem⟩ := normalisable_of_accepted hflat hread
    cases t with
    | primitive t =>
      have hbare := helem.resolve_left Bool.false_ne_true
      rw [field_primitive hflat htype hbare, fieldWith_withKind_eq_accepted_iff h hflat] at hread
      obtain ⟨hkeys, k, b, hk, hb, hf⟩ := hread
      cases hk
      exact ⟨_, _, _, b, .flatPrimitive hkeys htype hbare, .primitive t, hb, hf⟩
    | collection s =>
      rw [field_collection hflat htype, fieldWith_withKind_eq_accepted_iff h hflat] at hread
      obtain ⟨hkeys, k, b, hk, hb, hf⟩ := hread
      obtain ⟨e, he, rfl⟩ := Checked.map_eq_accepted_iff.1 hk
      simp only [Checked.within_eq_accepted_iff] at he
      exact ⟨_, _, _, b, .flatCollection hkeys htype, elem_eq_accepted_iff.1 he, hb, hf⟩
  · rintro ⟨t, given, k, b, hspells, hreads, hb, hf⟩
    cases hspells with
    | taggedPrimitive _ hunder | taggedCollection _ hunder =>
      rw [hflat] at hunder
      cases hunder
    | flatPrimitive hkeys htype hbare =>
      cases hreads
      rw [field_primitive hflat htype hbare, fieldWith_withKind_eq_accepted_iff h hflat]
      exact ⟨hkeys, _, b, rfl, hb, hf⟩
    | flatCollection hkeys htype =>
      obtain ⟨e, rfl⟩ := hreads.exists_elem
      rw [field_collection hflat htype, fieldWith_withKind_eq_accepted_iff h hflat]
      refine ⟨hkeys, _, b, ?_, hb, hf⟩
      refine Checked.map_eq_accepted_iff.2 ⟨e, ?_, rfl⟩
      rw [Checked.within_eq_accepted_iff, Checked.within_eq_accepted_iff]
      exact elem_eq_accepted_iff.2 hreads

/-- **A mapping is accepted as a field exactly as the grammar spells it**, from the elements that are accepted. -/
theorem field_mapping_eq_accepted_iff (h : (Document.mapping entries).Plain) {f : { f : Field // f.isOrdered }} :
    field (.mapping entries) = .accepted f ↔ SpellsField entries f := by
  cases hkind : lookup? "kind" entries with
  | some kind => exact field_tagged_eq_accepted_iff h hkind
  | none => exact field_flat_eq_accepted_iff h hkind

end Declaration

end CatalogLint
