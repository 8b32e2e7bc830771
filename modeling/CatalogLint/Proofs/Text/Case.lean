/-
Lower-casing as a normal form. A character is final when lower-casing leaves it alone, whatever stands around it; the
capital sigma, which looks around itself, is none.

- `lowerRuns_settle`: no run of the case data moves a character to one that is moved again. This is the only fact about
  the data itself.
- `isFinal_of_mem_lowerAt`: so every character that lower-casing gives is final.
- `lower_lower`: a text in lower case is its own lower case.
-/
import CatalogLint.Text.Case

namespace CatalogLint.Text

variable {n : Nat}

/-! ## Runs -/

namespace Run

/-- where a run moves its code points -/
def image (r : Run) : Run := ⟨(r.first + r.distance).toNat, (r.last + r.distance).toNat, r.step, 0⟩

/-- whether one run ends before the other begins, or both alternate -/
def isApart (r q : Run) : Bool :=
  r.last.blt q.first || q.last.blt r.first ||
    (q.step == 2 && (r.step == 2 || r.first == r.last) && (r.first + q.first) % 2 == 1)

theorem covers_iff {r : Run} : r.covers n ↔ r.first ≤ n ∧ n ≤ r.last ∧ (n - r.first) % r.step = 0 := by
  simp [covers, and_assoc]

theorem not_covers_of_isApart {r q : Run} (h : r.isApart q) (hn : r.covers n) : ¬ q.covers n := by
  simp only [isApart, Bool.or_eq_true, Bool.and_eq_true, Nat.blt_eq, beq_iff_eq] at h
  rw [covers_iff] at hn ⊢
  rintro ⟨hfirst, hlast, hstep⟩
  rcases h with (h | h) | ⟨⟨hq, h | h⟩, hodd⟩
  · omega
  · omega
  · rw [h] at hn
    rw [hq] at hstep
    omega
  · rw [hq] at hstep
    omega

theorem covers_image {r : Run} (h : 0 ≤ r.first + r.distance) (hn : r.covers n) :
    r.image.covers (n + r.distance).toNat := by
  rw [covers_iff] at hn ⊢
  obtain ⟨hfirst, hlast, hstep⟩ := hn
  have hmoved : (n + r.distance).toNat - (r.first + r.distance).toNat = n - r.first := by omega
  refine ⟨?_, ?_, ?_⟩
  · simp only [image]
    omega
  · simp only [image]
    omega
  · simpa only [image, hmoved] using hstep

end Run

/-- A code point stays in place, or the run that covers it moves it. -/
theorem shift_cases (runs : List Run) (n : Nat) :
    shift runs n = n ∨ ∃ r ∈ runs, r.covers n ∧ shift runs n = (n + r.distance).toNat := by
  induction runs with
  | nil => exact Or.inl rfl
  | cons r rest ih =>
    rw [shift]
    by_cases hbelow : n < r.first
    · exact Or.inl (if_pos hbelow)
    · rw [if_neg hbelow]
      by_cases hcovers : r.covers n
      · rw [if_pos hcovers]
        exact Or.inr ⟨r, List.mem_cons_self, hcovers, rfl⟩
      · rw [if_neg hcovers]
        exact ih.imp_right fun ⟨q, hq, hmoved⟩ => ⟨q, List.mem_cons_of_mem _ hq, hmoved⟩

theorem shift_of_not_covers {runs : List Run} (h : ∀ r ∈ runs, ¬ r.covers n) : shift runs n = n := by
  rcases shift_cases runs n with hstays | ⟨r, hr, hcovers, _⟩
  · exact hstays
  · exact absurd hcovers (h r hr)

/-! ## The case data -/

/-- code points that no run may reach: the letter whose lower case is two characters, and those that are no character -/
def offLimits : List Run := [⟨0x130, 0x130, 1, 0⟩, ⟨0xd800, 0xdfff, 1, 0⟩]

/-- whether a run moves its characters to characters that stay where they are -/
def Run.settles (r : Run) : Bool :=
  0 ≤ r.first + r.distance && r.image.last < 0x110000 && offLimits.all r.image.isApart && lowerRuns.all r.image.isApart

theorem lowerRuns_settle : lowerRuns.all Run.settles = true := by decide +kernel

/-- a character to which nothing is done: no run covers it, and it is not the letter with a lower case of two -/
structure Settled (n : Nat) : Prop where
  valid : n.isValidChar
  stays : ∀ r ∈ lowerRuns, ¬ r.covers n
  notDotted : n ≠ 0x130

theorem settled_of_covers {r : Run} (hr : r ∈ lowerRuns) (hn : r.covers n) : Settled (n + r.distance).toNat := by
  have hsettles := List.all_eq_true.1 lowerRuns_settle r hr
  simp only [Run.settles, offLimits, List.all_cons, List.all_nil, Bool.and_true, Bool.and_eq_true, decide_eq_true_eq,
    List.all_eq_true] at hsettles
  obtain ⟨⟨⟨hstart, hend⟩, hdotted, hsurrogate⟩, hruns⟩ := hsettles
  have himage := Run.covers_image hstart hn
  have hlast := (Run.covers_iff.1 himage).2.1
  have hdotted := Run.not_covers_of_isApart hdotted himage
  have hsurrogate := Run.not_covers_of_isApart hsurrogate himage
  simp only [Run.covers_iff, Nat.mod_one, and_true] at hdotted hsurrogate
  refine ⟨?_, fun q hq => Run.not_covers_of_isApart (hruns q hq) himage, ?_⟩
  · rw [Nat.isValidChar]
    omega
  · omega

/-! ## Characters -/

/-- lower-casing gives the character itself, and does not look around it -/
structure IsFinal (c : Char) : Prop where
  lowerChar_eq : lowerChar c = [c]
  ne_sigma : c ≠ '\u03a3'

theorem lowerChar_of_shift {c : Char} (hdotted : c ≠ '\u0130') (h : shift lowerRuns c.toNat = c.toNat) :
    lowerChar c = [c] := by
  rw [lowerChar, if_neg hdotted, h, Char.ofNat_toNat]

theorem Settled.isFinal (h : Settled n) : IsFinal (Char.ofNat n) := by
  have hcode : (Char.ofNat n).toNat = n := by
    rw [Char.ofNat, dif_pos h.valid]
    rfl
  constructor
  case lowerChar_eq =>
    refine lowerChar_of_shift ?_ ?_
    · intro hdotted
      rw [hdotted] at hcode
      exact h.notDotted hcode.symm
    · rw [hcode, shift_of_not_covers h.stays]
  case ne_sigma =>
    intro hsigma
    rw [hsigma] at hcode
    -- a run covers the capital sigma
    have hcovers : ∃ r ∈ lowerRuns, r.covers 0x3a3 := by decide
    obtain ⟨r, hr, hcovers⟩ := hcovers
    exact h.stays r hr (hcode ▸ hcovers)

/-- What lower-casing gives for a character is final, wherever the character stands. -/
theorem isFinal_of_mem_lowerAt {word : Bool} {c d : Char} {rest : List Char} (hd : d ∈ lowerAt word c rest) :
    IsFinal d := by
  rw [lowerAt] at hd
  split at hd
  · -- both forms of the small sigma are final
    rw [List.mem_singleton] at hd
    split at hd <;> subst hd <;> exact ⟨by decide, by decide⟩
  · rename_i hsigma
    rw [lowerChar] at hd
    split at hd
    · simp only [List.mem_cons, List.not_mem_nil, or_false] at hd
      rcases hd with rfl | rfl <;> exact ⟨by decide, by decide⟩
    · rename_i hdotted
      rw [List.mem_singleton] at hd
      subst hd
      rcases shift_cases lowerRuns c.toNat with hstays | ⟨r, hr, hcovers, hmoved⟩
      · rw [hstays, Char.ofNat_toNat]
        exact ⟨lowerChar_of_shift hdotted hstays, hsigma⟩
      · rw [hmoved]
        exact (settled_of_covers hr hcovers).isFinal

/-! ## Texts -/

theorem isFinal_of_mem_lowerFrom {word : Bool} {chars : List Char} {d : Char} (hd : d ∈ lowerFrom word chars) :
    IsFinal d := by
  induction chars generalizing word with
  | nil => cases hd
  | cons c rest ih =>
    rw [lowerFrom, List.mem_append] at hd
    rcases hd with hd | hd
    · exact isFinal_of_mem_lowerAt hd
    · exact ih hd

theorem lowerFrom_of_isFinal {word : Bool} {chars : List Char} (h : ∀ c ∈ chars, IsFinal c) :
    lowerFrom word chars = chars := by
  induction chars generalizing word with
  | nil => rfl
  | cons c rest ih =>
    have hc := h c List.mem_cons_self
    have hrest := fun d hd => h d (List.mem_cons_of_mem c hd)
    rw [lowerFrom, lowerAt, if_neg hc.ne_sigma, hc.lowerChar_eq, ih hrest, List.singleton_append]

/-- **A text in lower case is its own lower case.** -/
theorem lower_lower (s : String) : lower (lower s) = lower s := by
  rw [lower, lower, String.toList_ofList]
  exact congrArg String.ofList (lowerFrom_of_isFinal fun c hc => isFinal_of_mem_lowerFrom hc)

/-- the last sigma of a word becomes the final one, and stays it -/
example : lower "ΣΟΦΟΣ" = "σοφος" ∧ lower "σοφος" = "σοφος" := by decide

end CatalogLint.Text
