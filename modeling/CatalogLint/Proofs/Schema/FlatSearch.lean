/-
The walk through a tree as a search of a flat list. `Visit.search` calls a visitor on stops in turn and ends at the
first violation, which it reports with all ancestors of the stop at once; it knows no nesting.

- `Fields.walk_eq_search`: in every lawful monad, walking a tree is searching the list of its stops.
- `Schema.firstViolation_eq_findSome?`: for a visitor without a state, the walk gives the first hit among the stops.
- `Visitor.search_calls_prefix`: a visitor with a state is called on a prefix of the stops, each once and in order, and
  passes its state on; the prefix is the whole list or ends with the first call that gives a violation.
-/
import CatalogLint.Proofs.Schema.Depth

namespace CatalogLint

/-! ## First hits in an ordered list -/

/-- In a list that increases, the first hit comes before every other one. -/
theorem first_hit_least {α β : Type} {before : α → α → Prop} {f : α → Option β} {l : List α} (hl : l.Pairwise before)
    {b : β} (h : l.findSome? f = some b) :
    ∃ a ∈ l, f a = some b ∧ ∀ other ∈ l, f other ≠ none → other = a ∨ before a other := by
  obtain ⟨earlier, a, later, rfl, ha, hearlier⟩ := List.findSome?_eq_some_iff.1 h
  obtain ⟨_, hlater, _⟩ := List.pairwise_append.1 hl
  refine ⟨a, by simp, ha, fun other hother hit => ?_⟩
  rcases List.mem_append.1 hother with hmem | hmem
  · exact absurd (hearlier other hmem) hit
  · rcases List.mem_cons.1 hmem with rfl | hmem
    · exact Or.inl rfl
    · exact Or.inr ((List.pairwise_cons.1 hlater).1 other hmem)

/-! ## Searching a flat list in any monad -/

section Search

variable {m : Type → Type} [Monad m]

/-- calls a visitor on stops in turn, until one violates -/
def Visit.search (visit : String → Field → m (Option Violation)) : List Visit → m (Option Violation)
  | [] => pure none
  | v :: rest => do
    match ← visit v.name v.field with
    | some violation => pure (some (v.report violation))
    | none => Visit.search visit rest

theorem Visit.report_inside (name label : String) (v : Visit) (violation : Violation) :
    (v.inside name label).report violation = (v.report violation).nestedUnder name label := rfl

variable (visit : String → Field → m (Option Violation))

theorem Field.walkNested_eq (field : Field) :
    field.walkNested visit = match field.nested? with
      | none => pure none
      | some elem => Fields.walk visit elem := by
  obtain ⟨kind, sensitive, default⟩ := field
  cases kind with
  | primitive t => rfl
  | collection s e => cases e <;> rfl

variable [LawfulMonad m]

theorem Visit.search_append (earlier later : List Visit) :
    Visit.search visit (earlier ++ later) = Visit.search visit earlier >>= fun found =>
      match found with
      | some violation => pure (some violation)
      | none => Visit.search visit later := by
  induction earlier with
  | nil => simp only [List.nil_append, Visit.search, pure_bind]
  | cons v rest ih =>
    simp only [List.cons_append, Visit.search, bind_assoc]
    refine bind_congr fun answer => ?_
    cases answer with
    | none => exact ih
    | some violation => simp only [pure_bind]

/-- Searching stops inside a field nests what the search without the field finds. -/
theorem Visit.search_inside (name label : String) (stops : List Visit) :
    Visit.search visit (stops.map (Visit.inside name label)) =
      (Option.map fun violation => violation.nestedUnder name label) <$> Visit.search visit stops := by
  induction stops with
  | nil => simp only [List.map_nil, Visit.search, map_pure, Option.map_none]
  | cons v rest ih =>
    simp only [List.map_cons, Visit.search, map_bind]
    refine bind_congr fun answer => ?_
    cases answer with
    | none => exact ih
    | some violation => simp only [map_pure, Option.map_some, Visit.report_inside]

/-- **Walking a tree is searching its stops.** The violation that the walk wraps level by level on its way up is the one
that the search reports with all ancestors at once. -/
theorem Fields.walk_eq_search (fields : Fields) :
    Fields.walk visit fields = Visit.search visit (Fields.visits [] fields) := by
  induction fields using Fields.induction with
  | nil => rfl
  | cons name field rest inner ih =>
    have hinner : field.walkNested visit = Visit.search visit field.stops := by
      rw [Field.walkNested_eq, Field.stops]
      cases hn : field.nested? with
      | none => rfl
      | some elem => exact inner elem hn
    rw [Fields.visits_cons, Fields.walk, Visit.search]
    refine bind_congr fun answer => ?_
    cases answer with
    | some violation => rfl
    | none =>
      simp only [hinner, ih]
      rw [Visit.search_append, Visit.search_inside, bind_map_left]
      refine bind_congr fun found => ?_
      cases found <;> rfl

theorem Schema.walk_eq_search (s : Schema) : s.walk visit = Visit.search visit s.visits :=
  Fields.walk_eq_search visit s.fields

end Search

/-! ## Visitors without a state -/

/-- what a visitor without a state says of a stop, as the whole schema reports it -/
def Visit.verdict (visit : String → Field → Option Violation) (v : Visit) : Option Violation :=
  (visit v.name v.field).map v.report

theorem Schema.firstViolation_eq_findSome? (s : Schema) (visit : String → Field → Option Violation) :
    s.firstViolation visit = s.visits.findSome? (Visit.verdict visit) := by
  have hsearch : ∀ stops, Visit.search (m := Id) (fun name field => pure (visit name field)) stops =
      stops.findSome? (Visit.verdict visit) := by
    intro stops
    induction stops with
    | nil => rfl
    | cons v rest ih =>
      rw [List.findSome?_cons, Visit.search, Visit.verdict]
      cases hv : visit v.name v.field with
      | none => exact ih
      | some violation => rfl
  rw [Schema.firstViolation, Schema.walk_eq_search]
  exact hsearch s.visits

/-! ## Visitors with a state -/

/-- a visitor that carries a state from call to call -/
abbrev Visitor (σ : Type) := String → Field → StateM σ (Option Violation)

namespace Visitor

variable {σ : Type}

/-- the visitor, also listing the fields it is called on -/
def recorded (visit : Visitor σ) : Visitor (List (String × Field) × σ) := fun name field before =>
  let answer := (visit name field).run before.2
  (answer.1, before.1 ++ [(name, field)], answer.2)

/-- the state after calls on stops in turn -/
def after (visit : Visitor σ) (start : σ) (calls : List Visit) : σ :=
  calls.foldl (fun state v => ((visit v.name v.field).run state).2) start

/-- what the visitor says of a stop after calls on others -/
def answer (visit : Visitor σ) (start : σ) (before : List Visit) (v : Visit) : Option Violation :=
  ((visit v.name v.field).run (visit.after start before)).1

/-- none of the calls on stops in turn gives a violation -/
def Passes (visit : Visitor σ) (start : σ) (calls : List Visit) : Prop :=
  ∀ before v later, calls = before ++ v :: later → visit.answer start before v = none

/-- a search that called the visitor on `calls` ended rightly: `rest` is empty and no call gave a violation, or the last
call alone gave the violation that is reported -/
def Ends (visit : Visitor σ) (start : σ) (calls rest : List Visit) (result : Option Violation) : Prop :=
  (rest = [] ∧ visit.Passes start calls ∧ result = none) ∨
    ∃ before v violation, calls = before ++ [v] ∧ visit.Passes start before ∧
      visit.answer start before v = some violation ∧
      result = some { violation with parents := v.parents ++ violation.parents }

theorem passes_nil (visit : Visitor σ) (start : σ) : visit.Passes start [] := fun before v later h => by simp at h

theorem passes_cons {visit : Visitor σ} {start : σ} {v : Visit} {calls : List Visit}
    (hv : visit.answer start [] v = none) (h : visit.Passes (visit.after start [v]) calls) :
    visit.Passes start (v :: calls) := by
  intro before w later hsplit
  cases before with
  | nil => cases hsplit; exact hv
  | cons u before =>
    simp only [List.cons_append, List.cons.injEq] at hsplit
    obtain ⟨rfl, hsplit⟩ := hsplit
    exact h before w later hsplit

theorem ends_cons {visit : Visitor σ} {start : σ} {v : Visit} {calls rest : List Visit} {result : Option Violation}
    (hv : visit.answer start [] v = none) (h : visit.Ends (visit.after start [v]) calls rest result) :
    visit.Ends start (v :: calls) rest result := by
  rcases h with ⟨hrest, hpass, hresult⟩ | ⟨before, w, violation, hcalls, hpass, hw, hresult⟩
  · exact Or.inl ⟨hrest, passes_cons hv hpass, hresult⟩
  · exact Or.inr ⟨v :: before, w, violation, by rw [hcalls, List.cons_append], passes_cons hv hpass, hw, hresult⟩

theorem run_search_pass {visit : Visitor σ} {start : σ} {v : Visit} (hv : visit.answer start [] v = none)
    (stops : List Visit) :
    (Visit.search visit (v :: stops)).run start = (Visit.search visit stops).run (visit.after start [v]) := by
  have hstep : (visit v.name v.field).run start = (none, visit.after start [v]) := Prod.ext hv rfl
  rw [Visit.search, StateT.run_bind, hstep]
  rfl

theorem run_search_violation {visit : Visitor σ} {start : σ} {v : Visit} {violation : Violation}
    (hv : visit.answer start [] v = some violation) (stops : List Visit) :
    (Visit.search visit (v :: stops)).run start = (some (v.report violation), visit.after start [v]) := by
  have hstep : (visit v.name v.field).run start = (some violation, visit.after start [v]) := Prod.ext hv rfl
  rw [Visit.search, StateT.run_bind, hstep]
  rfl

/-- A search calls the visitor on a prefix of the stops and passes its state along them. -/
theorem search_calls_prefix (visit : Visitor σ) (stops : List Visit) (start : σ) :
    ∃ calls rest result, stops = calls ++ rest ∧ visit.Ends start calls rest result ∧
      (Visit.search visit stops).run start = (result, visit.after start calls) ∧
      ∀ seen, (Visit.search visit.recorded stops).run (seen, start) =
        (result, seen ++ calls.map fun v => (v.name, v.field), visit.after start calls) := by
  induction stops generalizing start with
  | nil =>
    refine ⟨[], [], none, rfl, Or.inl ⟨rfl, visit.passes_nil start, rfl⟩, rfl, fun seen => ?_⟩
    rw [List.map_nil, List.append_nil]
    rfl
  | cons v stops ih =>
    -- the recording visitor gives the same answers, so both searches take the same branch
    have hsame : ∀ seen, visit.recorded.answer (seen, start) [] v = visit.answer start [] v := fun seen => rfl
    cases hv : visit.answer start [] v with
    | some violation =>
      refine ⟨[v], stops, some (v.report violation), rfl, Or.inr ⟨[], v, violation, rfl, ?_, hv, rfl⟩, ?_, ?_⟩
      · exact visit.passes_nil start
      · exact run_search_violation hv stops
      · intro seen
        rw [run_search_violation ((hsame seen).trans hv)]
        rfl
    | none =>
      obtain ⟨calls, rest, result, hstops, hends, hrun, hrecorded⟩ := ih (visit.after start [v])
      refine ⟨v :: calls, rest, result, by rw [hstops, List.cons_append], ends_cons hv hends, ?_, ?_⟩
      · rw [run_search_pass hv, hrun]
        rfl
      · intro seen
        rw [run_search_pass ((hsame seen).trans hv)]
        have hnext := hrecorded (seen ++ [(v.name, v.field)])
        rw [List.append_assoc] at hnext
        exact hnext

end Visitor

/-- **The walk is a flat search.** The stops are the fields at any depth, each with its ancestors, in lexicographic
order of their paths. For any visitor with a state there is a prefix of the stops on which the walk calls it, once each
and in this order, and at the end the state is the one after these calls. Either the prefix is the whole list and no
call gave a violation, or the last call alone gave one, and the walk gives that one below the ancestors of its stop. -/
theorem Schema.walk_calls_prefix {σ : Type} (s : Schema) (visit : Visitor σ) (start : σ) :
    (∀ v, v ∈ s.visits ↔ s.fields.At v.parents v.name v.field) ∧
    s.visits.Pairwise (fun a b => a.path < b.path) ∧
    ∃ calls rest result, s.visits = calls ++ rest ∧ visit.Ends start calls rest result ∧
      (s.walk visit).run start = (result, visit.after start calls) ∧
      (s.walk visit.recorded).run ([], start) =
        (result, calls.map fun v => (v.name, v.field), visit.after start calls) := by
  obtain ⟨calls, rest, result, hstops, hends, hrun, hrecorded⟩ := visit.search_calls_prefix s.visits start
  refine ⟨fun v => Fields.mem_visits, Fields.visits_ordered s.ordered, calls, rest, result, hstops, hends, ?_, ?_⟩
  · rw [Schema.walk_eq_search, hrun]
  · rw [Schema.walk_eq_search, hrecorded, List.nil_append]

end CatalogLint
