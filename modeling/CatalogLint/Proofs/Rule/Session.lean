/-
What a registry remembers of a session. `Rule.firsts` keeps the first definition of each name, in order; that is what a
registry has after any requests. `Answers` says of every kind of request what must be answered to it after a history of
registrations, by that history alone.

- `Registry.rules_serve`, `Registry.rules_serveAll`: the step, and from it a session. The rules are the first definitions
  among those at the start and those that were to be registered since.
- `Answers.unique`, `Registry.serve_eq_iff_answers`: the history leaves one answer to each request, and a registry that
  has its first definitions gives this one.
- `Registry.serve_of_read`, `Registry.serve_of_error`: a request that only asks, or fails, leaves the registry as it is.
- `Registry.serveAll_without`: so a session without such a request is the same but for the answer to it.
- `Registry.remembers`: what a registry with a history says of names and rules, and does with any request.
-/
import CatalogLint.Proofs.Rule.Lookup
import CatalogLint.Rule.Flagged
import CatalogLint.Rule.Session

namespace CatalogLint

/-! ## First definitions -/

namespace Rule

/-- the first definition of each name, in order -/
def firsts : List Rule → List Rule
  | [] => []
  | rule :: rest => rule :: (firsts rest).filter (·.name != rule.name)

theorem firsts_filter (name : String) (rules : List Rule) :
    firsts (rules.filter (·.name != name)) = (firsts rules).filter (·.name != name) := by
  induction rules with
  | nil => rfl
  | cons rule rest ih =>
    by_cases h : rule.name = name
    · -- the rule goes, and so do those that its name has kept away
      subst h
      simp [firsts, ih, List.filter_filter]
    · simp [firsts, h, ih, List.filter_filter, Bool.and_comm]

/-- Later definitions of a name make no difference to what is kept of those after them. -/
theorem firsts_append_firsts (earlier later : List Rule) :
    firsts (firsts earlier ++ later) = firsts (earlier ++ later) := by
  induction earlier with
  | nil => rfl
  | cons rule rest ih =>
    have htwice : ((firsts rest).filter (·.name != rule.name) ++ later).filter (·.name != rule.name) =
        (firsts rest ++ later).filter (·.name != rule.name) := by
      simp only [List.filter_append, List.filter_filter, Bool.and_self]
    have hrest : (firsts ((firsts rest).filter (·.name != rule.name) ++ later)).filter (·.name != rule.name) =
        (firsts (rest ++ later)).filter (·.name != rule.name) := by
      rw [← firsts_filter, htwice, firsts_filter, ih]
    simp only [firsts, List.cons_append, hrest]

theorem firsts_of_nodup {rules : List Rule} (h : (rules.map name).Nodup) : firsts rules = rules := by
  induction rules with
  | nil => rfl
  | cons rule rest ih =>
    rw [List.map_cons, List.nodup_cons] at h
    have hkept : ∀ later ∈ rest, (later.name != rule.name) = true := by
      intro later hlater
      rw [bne_iff_ne]
      intro hname
      exact h.1 (hname ▸ List.mem_map_of_mem hlater)
    rw [firsts, ih h.2, List.filter_eq_self.2 hkept]

theorem firsts_concat_of_taken {rules : List Rule} {rule : Rule} (h : rule.name ∈ rules.map name) :
    firsts (rules ++ [rule]) = firsts rules := by
  induction rules with
  | nil => cases h
  | cons first rest ih =>
    rw [List.cons_append, firsts, firsts]
    rcases List.mem_cons.1 h with hfirst | hrest
    · rw [← firsts_filter, ← firsts_filter, List.filter_append]
      simp [hfirst]
    · rw [ih hrest]

theorem find?_firsts (rules : List Rule) (name : String) :
    (firsts rules).find? (·.name == name) = rules.find? (·.name == name) := by
  induction rules with
  | nil => rfl
  | cons rule rest ih =>
    rw [firsts, List.find?_cons, List.find?_cons]
    by_cases h : rule.name = name
    · simp [h]
    · -- a rule of that name has not the name of this one
      have hother : ∀ later : Rule, decide ((later.name != rule.name) = true ∧ (later.name == name) = true) =
          (later.name == name) := by
        intro later
        by_cases hlater : later.name = name
        · simp [hlater, Ne.symm h]
        · simp [hlater]
      simp only [beq_eq_false_iff_ne.2 h, List.find?_filter, hother, ih]

/-- a rule was to be registered under the name -/
def Known (history : List Rule) (name : String) : Prop := ∃ rule ∈ history, rule.name = name

theorem known_iff_mem_map {history : List Rule} {name : String} : Known history name ↔ name ∈ history.map Rule.name :=
  List.mem_map.symm

theorem known_iff_isSome {history : List Rule} {name : String} :
    Known history name ↔ (history.find? (·.name == name)).isSome := by
  simp [Known, List.find?_isSome]

theorem known_of_find? {history : List Rule} {name : String} {rule : Rule}
    (h : history.find? (·.name == name) = some rule) : Known history name := by
  rw [known_iff_isSome, h]
  rfl

theorem known_firsts_iff {history : List Rule} {name : String} : Known (firsts history) name ↔ Known history name := by
  rw [known_iff_isSome, known_iff_isSome, find?_firsts]

/-- the names of a history, each once and in increasing order -/
structure Names (history : List Rule) (names : List String) : Prop where
  increase : names.Pairwise (· < ·)
  mem_iff : ∀ name, name ∈ names ↔ Known history name

theorem Names.unique {history : List Rule} {names others : List String} (h : Names history names)
    (hothers : Names history others) : names = others := by
  have hsets : (⟨names, h.increase⟩ : NameSet) = ⟨others, hothers.increase⟩ := by
    apply NameSet.ext
    intro name
    exact (h.mem_iff name).trans (hothers.mem_iff name).symm
  exact congrArg NameSet.names hsets

end Rule

/-! ## Requests -/

namespace Request

/-- the rule that is to be registered -/
def rule? : Request → Option Rule
  | .register rule => some rule
  | _ => none

/-- the rules that are to be registered, in order -/
def registrations (requests : List Request) : List Rule := requests.filterMap rule?

end Request

/-- what must be answered to a request after a history of registrations, and what must be recorded of it -/
inductive Answers (history : List Rule) : Request → Run RuleError Reply → Prop where
  /-- a name that is known is refused to a further rule, without a record -/
  | taken {rule : Rule} (known : Rule.Known history rule.name) :
    Answers history (.register rule) ⟨[], .error (.duplicate rule.name)⟩
  /-- any other is given to it, which is recorded once -/
  | free {rule : Rule} (unknown : ¬ Rule.Known history rule.name) :
    Answers history (.register rule) ⟨[.registered rule.name], .ok .done⟩
  /-- a name means the first rule that was ever to be registered under it -/
  | found {name : String} {rule : Rule} (first : history.find? (·.name == name) = some rule) :
    Answers history (.get name) ⟨[], .ok (.rule rule)⟩
  | missing {name : String} {names : List String} (unknown : ¬ Rule.Known history name)
    (available : Rule.Names history names) : Answers history (.get name) ⟨[], .error (.unknown name names)⟩
  | contains {name : String} {value : Bool} (known_iff : value = true ↔ Rule.Known history name) :
    Answers history (.contains name) ⟨[], .ok (.truth value)⟩
  | names {names : List String} (available : Rule.Names history names) :
    Answers history .names ⟨[], .ok (.names names)⟩
  | ordered : Answers history .ordered ⟨[], .ok (.rules (Rule.firsts history))⟩
  /-- a check is that of the rule which the name means -/
  | checked {name : String} {schema : Schema} {exceptions : NameSet} {rule : Rule}
    (first : history.find? (·.name == name) = some rule) :
    Answers history (.check name schema exceptions) ⟨[], .ok (.report (rule.check schema exceptions))⟩
  | unchecked {name : String} {schema : Schema} {exceptions : NameSet} {names : List String}
    (unknown : ¬ Rule.Known history name) (available : Rule.Names history names) :
    Answers history (.check name schema exceptions) ⟨[], .error (.unknown name names)⟩

/-- The history leaves one answer to a request. -/
theorem Answers.unique {history : List Rule} {request : Request} {answer other : Run RuleError Reply}
    (h : Answers history request answer) (hother : Answers history request other) : answer = other := by
  -- a request may end in two ways, but only one of them fits what is known of its name
  cases h with
  | taken known =>
    cases hother with
    | taken => rfl
    | free unknown => exact absurd known unknown
  | free unknown =>
    cases hother with
    | taken known => exact absurd known unknown
    | free => rfl
  | found first =>
    cases hother with
    | found first' =>
      cases first.symm.trans first'
      rfl
    | missing unknown => exact absurd (Rule.known_of_find? first) unknown
  | missing unknown available =>
    cases hother with
    | found first => exact absurd (Rule.known_of_find? first) unknown
    | missing _ available' => rw [available.unique available']
  | contains known_iff =>
    cases hother with
    | contains known_iff' => rw [Bool.eq_iff_iff.2 (known_iff.trans known_iff'.symm)]
  | names available =>
    cases hother with
    | names available' => rw [available.unique available']
  | ordered =>
    cases hother with
    | ordered => rfl
  | checked first =>
    cases hother with
    | checked first' =>
      cases first.symm.trans first'
      rfl
    | unchecked unknown => exact absurd (Rule.known_of_find? first) unknown
  | unchecked unknown available =>
    cases hother with
    | checked first => exact absurd (Rule.known_of_find? first) unknown
    | unchecked _ available' => rw [available.unique available']

namespace Registry

variable {r : Registry} {request : Request} {rule : Rule} {history : List Rule}

theorem ext {r s : Registry} (h : r.rules = s.rules) : r = s := by
  obtain ⟨rules, hdistinct⟩ := r
  cases h
  rfl

/-- A name that is taken is refused, without a record. -/
theorem serve_register_taken (h : rule.name ∈ r.names) :
    r.serve (.register rule) = (r, .fail (.duplicate rule.name)) := by
  have hregister : r.register rule = .fail (.duplicate rule.name) := dif_pos (mem_names_iff_mem_map.1 h)
  rw [serve, hregister]
  rfl

/-- A name that is free is given to the rule, which comes after the others, and this is recorded once. -/
theorem serve_register_free (h : rule.name ∉ r.names) : ∃ next : Registry,
    r.serve (.register rule) = (next, ⟨[.registered rule.name], .ok .done⟩) ∧ next.rules = r.rules ++ [rule] := by
  rw [serve, register, dif_neg (mem_names_iff_mem_map.not.1 h)]
  exact ⟨_, rfl, rfl⟩

theorem serve_of_read (h : request.rule? = none) : (r.serve request).1 = r := by
  cases request with
  | register => cases h
  | get | contains | names | ordered | check => rfl

theorem serve_of_error {e : RuleError} (h : (r.serve request).2.outcome = .error e) : (r.serve request).1 = r := by
  cases request with
  | register rule =>
    by_cases htaken : rule.name ∈ r.names
    · rw [serve_register_taken htaken]
    · obtain ⟨next, hserve, _⟩ := serve_register_free htaken
      rw [hserve] at h
      cases h
  | get | contains | names | ordered | check => rfl

/-- **A request adds its rule to what is to be remembered.** -/
theorem rules_serve (r : Registry) (request : Request) :
    (r.serve request).1.rules = Rule.firsts (r.rules ++ request.rule?.toList) := by
  cases request with
  | register rule =>
    simp only [Request.rule?, Option.toList_some]
    by_cases htaken : rule.name ∈ r.names
    · rw [serve_register_taken htaken, Rule.firsts_concat_of_taken (mem_names_iff_mem_map.1 htaken),
        Rule.firsts_of_nodup r.distinct]
    · obtain ⟨next, hserve, hrules⟩ := serve_register_free htaken
      rw [hserve, ← hrules, Rule.firsts_of_nodup next.distinct]
  | get | contains | names | ordered | check =>
    simp only [Request.rule?, Option.toList_none, List.append_nil]
    exact (Rule.firsts_of_nodup r.distinct).symm

/-! ## Answers from the history -/

section History

variable (h : r.rules = Rule.firsts history) {name : String}

include h

theorem mem_names_iff_known : name ∈ r.names ↔ Rule.Known history name := by
  rw [mem_names_iff_mem_map, h, ← Rule.known_iff_mem_map, Rule.known_firsts_iff]

theorem names_of_history : Rule.Names history r.names := ⟨r.names_increase, fun _ => mem_names_iff_known h⟩

theorem lacks_iff_not_known : r.Lacks name ↔ ¬ Rule.Known history name := by
  rw [← mem_names_iff_known h, mem_names_iff]
  simp [Lacks]

theorem get_eq_ok_iff_find? : r.get name = .ok rule ↔ history.find? (·.name == name) = some rule := by
  rw [get_eq_ok_iff, ← get?_eq_some_iff, get?, h, Rule.find?_firsts]

/-- **A registry with the first definitions of a history answers as the history has it.** -/
theorem answers_serve (request : Request) : Answers history request (r.serve request).2 := by
  cases request with
  | register rule =>
    by_cases htaken : rule.name ∈ r.names
    · rw [serve_register_taken htaken]
      exact .taken ((mem_names_iff_known h).1 htaken)
    · obtain ⟨next, hserve, _⟩ := serve_register_free htaken
      rw [hserve]
      exact .free ((mem_names_iff_known h).not.1 htaken)
  | get name =>
    rw [serve]
    cases hget : r.get name with
    | ok rule => exact .found ((get_eq_ok_iff_find? h).1 hget)
    | error e =>
      obtain ⟨hlacks, rfl⟩ := get_eq_error_iff.1 hget
      exact .missing ((lacks_iff_not_known h).1 hlacks) (names_of_history h)
  | contains name => exact .contains (contains_iff_mem_names.trans (mem_names_iff_known h))
  | names => exact .names (names_of_history h)
  | ordered =>
    rw [serve, h]
    exact .ordered
  | check name schema exceptions =>
    rw [serve]
    cases hget : r.get name with
    | ok rule => exact .checked ((get_eq_ok_iff_find? h).1 hget)
    | error e =>
      obtain ⟨hlacks, rfl⟩ := get_eq_error_iff.1 hget
      exact .unchecked ((lacks_iff_not_known h).1 hlacks) (names_of_history h)

theorem serve_eq_iff_answers {answer : Run RuleError Reply} :
    (r.serve request).2 = answer ↔ Answers history request answer := by
  constructor
  · intro heq
    rw [← heq]
    exact answers_serve h request
  · intro hanswers
    exact (answers_serve h request).unique hanswers

end History

/-! ## Sessions -/

theorem serveAll_cons (r : Registry) (request : Request) (rest : List Request) :
    r.serveAll (request :: rest) =
      (((r.serve request).1.serveAll rest).1, (r.serve request).2 :: ((r.serve request).1.serveAll rest).2) :=
  rfl

theorem serveAll_append (r : Registry) (before after : List Request) :
    r.serveAll (before ++ after) =
      (((r.serveAll before).1.serveAll after).1, (r.serveAll before).2 ++ ((r.serveAll before).1.serveAll after).2) := by
  induction before generalizing r with
  | nil => rfl
  | cons request rest ih => rw [List.cons_append, serveAll_cons, ih, serveAll_cons, List.cons_append]

theorem length_serveAll (r : Registry) (requests : List Request) : (r.serveAll requests).2.length = requests.length := by
  induction requests generalizing r with
  | nil => rfl
  | cons request rest ih => rw [serveAll_cons, List.length_cons, List.length_cons, ih]

/-- **After a session, a registry has the first definitions of its history.** -/
theorem rules_serveAll (r : Registry) (requests : List Request) :
    (r.serveAll requests).1.rules = Rule.firsts (r.rules ++ Request.registrations requests) := by
  induction requests generalizing r with
  | nil =>
    rw [Request.registrations, List.filterMap_nil, List.append_nil]
    exact (Rule.firsts_of_nodup r.distinct).symm
  | cons request rest ih =>
    have hregistrations : Request.registrations (request :: rest) =
        request.rule?.toList ++ Request.registrations rest := by
      rw [Request.registrations, List.filterMap_cons]
      cases request.rule? <;> rfl
    calc (r.serveAll (request :: rest)).1.rules
        = Rule.firsts ((r.serve request).1.rules ++ Request.registrations rest) := ih _
      _ = Rule.firsts (Rule.firsts (r.rules ++ request.rule?.toList) ++ Request.registrations rest) := by rw [rules_serve]
      _ = Rule.firsts (r.rules ++ Request.registrations (request :: rest)) := by
        rw [Rule.firsts_append_firsts, List.append_assoc, hregistrations]

/-- The answer to a request is given by the registry that the requests before have left. -/
theorem answer_serveAll (r : Registry) (before : List Request) (request : Request) (after : List Request) :
    (r.serveAll (before ++ request :: after)).2[before.length]? = some ((r.serveAll before).1.serve request).2 := by
  rw [serveAll_append, serveAll_cons, List.getElem?_append_right (Nat.le_of_eq (length_serveAll ..)), length_serveAll]
  simp

/-- **A request that leaves the registry as it is can be left out**, and then its answer alone is missing. -/
theorem serveAll_without (r : Registry) {before : List Request} {request : Request} (after : List Request)
    (h : ((r.serveAll before).1.serve request).1 = (r.serveAll before).1) :
    r.serveAll (before ++ after) = ((r.serveAll (before ++ request :: after)).1,
      (r.serveAll (before ++ request :: after)).2.eraseIdx before.length) := by
  rw [serveAll_append, serveAll_append, serveAll_cons, h,
    List.eraseIdx_append_of_length_le (Nat.le_of_eq (length_serveAll ..)), length_serveAll]
  simp

/-- what a registry must say and do after a history of registrations -/
structure Remembers (r : Registry) (history : List Rule) : Prop where
  rules : r.rules = Rule.firsts history
  distinct : (r.rules.map Rule.name).Nodup
  increase : r.names.Pairwise (· < ·)
  mem_names : ∀ name, name ∈ r.names ↔ name ∈ r.rules.map Rule.name
  contains : ∀ name, r.contains name ↔ name ∈ r.names
  found : ∀ name, (∃ rule, r.get name = .ok rule) ↔ name ∈ r.names
  /-- a name means the first rule that was ever to be registered under it -/
  first : ∀ name rule, r.get name = .ok rule ↔ history.find? (·.name == name) = some rule
  missing : ∀ name e, r.get name = .error e → e = .unknown name r.names ∧
    e.message = "Rule '" ++ name ++ "' not found. Available rules: " ++ ", ".intercalate r.names
  taken : ∀ rule : Rule, rule.name ∈ r.names →
    r.serve (.register rule) = (r, ⟨[], .error (.duplicate rule.name)⟩) ∧
    (RuleError.duplicate rule.name).message = "Rule '" ++ rule.name ++ "' is already registered"
  free : ∀ rule : Rule, rule.name ∉ r.names →
    (r.serve (.register rule)).2 = ⟨[.registered rule.name], .ok .done⟩ ∧
    (Record.registered rule.name).text = "Registered rule: " ++ rule.name
  /-- the answers to all requests, and no others, are those that the history leaves -/
  answers : ∀ request answer, (r.serve request).2 = answer ↔ Answers history request answer
  /-- a request leaves the first definitions of the history with its own rule, if it has one -/
  next : ∀ request, (r.serve request).1.rules = Rule.firsts (history ++ request.rule?.toList)

theorem remembers (h : r.rules = Rule.firsts history) : r.Remembers history where
  rules := h
  distinct := r.distinct
  increase := r.names_increase
  mem_names _ := mem_names_iff_mem_map
  contains _ := contains_iff_mem_names
  found name := by
    simp only [get_eq_ok_iff, mem_names_iff]
  first _ _ := get_eq_ok_iff_find? h
  missing name e he := by
    obtain ⟨_, rfl⟩ := get_eq_error_iff.1 he
    exact ⟨rfl, RuleError.message_unknown ..⟩
  taken _ htaken := ⟨serve_register_taken htaken, rfl⟩
  free rule hfree := by
    obtain ⟨next, hserve, _⟩ := serve_register_free hfree
    rw [hserve]
    exact ⟨rfl, rfl⟩
  answers _ _ := serve_eq_iff_answers h
  next request := by
    rw [rules_serve, h, Rule.firsts_append_firsts]

/-- **A session keeps the first definitions.** Take a registry, empty or not, and any requests of it. Afterwards its rules
are those at the start and then those that were to be registered, of each name the first, in order; and what it says of
names and rules comes from these. Each request has one answer, in its place: the one that the registrations before it
leave to it, which is given by the registry that the requests before have left. A request that only asks, or that fails,
could be left out without any other answer being changed. All registries come from the empty one in this way. -/
theorem session_keeps_first_definitions (start : Registry) (requests : List Request) :
    (start.serveAll requests).1.Remembers (start.rules ++ Request.registrations requests) ∧
    (start.serveAll requests).2.length = requests.length ∧
    (∀ before request after, requests = before ++ request :: after →
      (∀ answer, (start.serveAll requests).2[before.length]? = some answer ↔
        Answers (start.rules ++ Request.registrations before) request answer) ∧
      (start.serveAll requests).2[before.length]? = some ((start.serveAll before).1.serve request).2 ∧
      (request.rule? = none ∨ (∃ e, ((start.serveAll before).1.serve request).2.outcome = .error e) →
        start.serveAll (before ++ after) =
          ((start.serveAll requests).1, (start.serveAll requests).2.eraseIdx before.length))) ∧
    (Registry.empty.serveAll (start.rules.map .register)).1 = start := by
  refine ⟨remembers (start.rules_serveAll requests), start.length_serveAll requests, ?answers, ?fromEmpty⟩
  case answers =>
    intro before request after hsplit
    subst hsplit
    refine ⟨?history, start.answer_serveAll before request after, ?without⟩
    case history =>
      intro answer
      rw [start.answer_serveAll before request after, Option.some.injEq]
      exact serve_eq_iff_answers (start.rules_serveAll before)
    case without =>
      intro hidle
      apply start.serveAll_without after
      rcases hidle with hread | ⟨e, herror⟩
      · exact serve_of_read hread
      · exact serve_of_error herror
  case fromEmpty =>
    have hregistrations : Request.registrations (start.rules.map .register) = start.rules := by
      rw [Request.registrations, List.filterMap_map]
      exact List.filterMap_some
    apply ext
    rw [rules_serveAll, hregistrations]
    exact Rule.firsts_of_nodup start.distinct

/-- a rule that refuses the name by which an owner is given -/
def ownerRule (refused : String) : Rule where
  name := "no_owner"
  description := "There is no field for an owner"
  check := Flagged.check [refused] "an owner is given"
  failureSummary := "names its owner"

/-- an entry with a holder and an owner -/
def heldRack : Schema :=
  ⟨[("holder", ⟨.primitive .string, false, .null⟩), ("owner", ⟨.primitive .string, false, .null⟩)], rfl⟩

/-- a rule, another one of its name, a look-up of a name that no rule has, and then requests that see the rule -/
def ownerSession : List Request :=
  [.register (ownerRule "owner"), .register (ownerRule "holder"), .get "no_holder", .get "no_owner", .names,
    .check "no_owner" heldRack .empty]

/-- The second rule of the name is refused, and neither this nor the look-up that fails is seen later: the first rule is
found, it stands among the names, and it is the one that checks. -/
theorem second_owner_rule_is_refused : ∃ answers, (builtin.serveAll ownerSession).2 = answers ∧ answers.length = 6 ∧
    answers[1]? = some ⟨[], .error (.duplicate "no_owner")⟩ ∧
    answers[2]? = some ⟨[], .error (.unknown "no_holder"
      ["boolean_naming", "no_owner", "redundant_name_default", "sensitive_fields"])⟩ ∧
    answers[3]? = some ⟨[], .ok (.rule (ownerRule "owner"))⟩ ∧
    answers[4]? = some ⟨[], .ok (.names
      ["boolean_naming", "no_owner", "redundant_name_default", "sensitive_fields"])⟩ ∧
    answers[5]? = some ⟨[], .ok (.report (some (Flagged.violation "an owner is given" "owner")))⟩ := by
  obtain ⟨_, hlength, hsession, _⟩ := session_keeps_first_definitions builtin ownerSession
  have hanswers : ∀ before request after, ownerSession = before ++ request :: after → ∀ {answer},
      Answers (builtin.rules ++ Request.registrations before) request answer →
        (builtin.serveAll ownerSession).2[before.length]? = some answer :=
    fun before request after hsplit {answer} => ((hsession before request after hsplit).1 answer).2
  let history : List Rule := builtin.rules ++ [ownerRule "owner", ownerRule "holder"]
  have hfirst : history.find? (·.name == "no_owner") = some (ownerRule "owner") := rfl
  have hnames : Rule.Names history ["boolean_naming", "no_owner", "redundant_name_default", "sensitive_fields"] := by
    have hmap : history.map Rule.name =
        ["sensitive_fields", "boolean_naming", "redundant_name_default", "no_owner", "no_owner"] := rfl
    refine ⟨by decide, fun name => ?_⟩
    rw [Rule.known_iff_mem_map, hmap]
    grind
  have hunknown : ¬ Rule.Known history "no_holder" := by
    rw [← hnames.mem_iff]
    decide
  refine ⟨_, rfl, hlength, ?duplicate, ?missing, ?found, ?names, ?checked⟩
  case duplicate =>
    have hknown : Rule.Known (builtin.rules ++ [ownerRule "owner"]) "no_owner" := Rule.known_iff_isSome.2 rfl
    exact hanswers (ownerSession.take 1) _ _ rfl (.taken hknown)
  case missing => exact hanswers (ownerSession.take 2) _ _ rfl (.missing hunknown hnames)
  case found => exact hanswers (ownerSession.take 3) _ _ rfl (.found hfirst)
  case names => exact hanswers (ownerSession.take 4) _ _ rfl (.names hnames)
  case checked => exact hanswers (ownerSession.take 5) _ _ rfl (.checked hfirst)

end Registry

end CatalogLint
