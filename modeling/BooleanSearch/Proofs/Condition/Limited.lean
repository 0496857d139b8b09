import BooleanSearch.Proofs.Condition.Conservation

/-!
# Compiling under a size limit

Each run of a grouping becomes one expression. What the engine has to say never shows in a
condition: a grouping compiles to the conditions of its runs, or not at all if one of them is
refused. An engine may go by what an expression costs, which is what the characters of its terms
add up to and a part that they have no influence on.
-/

set_option autoImplicit false
set_option relaxedAutoImplicit false

namespace BooleanSearch

namespace Run

def condition (mode : CaseMode) (run : Run) : Condition :=
  match run.terms with
  | [term] => .term mode (.ofTerm term)
  | terms => .fold mode (terms.map Pattern.ofTerm) (run.tag.getD .or)

end Run

namespace Grouping

/-- The runs of a grouping; a lone term is one without a tag. -/
def allRuns : Grouping → List Run
  | .lone term => [⟨none, [term]⟩]
  | .single run => [run]
  | .mixed pieces => operands pieces

def condition (mode : CaseMode) : Grouping → Condition
  | .lone term => .term mode (.ofTerm term)
  | .single run => run.condition mode
  | .mixed pieces => .sequence (pieces.map (Piece.map (Run.condition mode)))

end Grouping

section Results

variable {ε α β : Type} {f : α → Except ε β} {pieces : List (Piece α)}

private theorem mapM_of_forall_ok {g : α → β} (h : ∀ a ∈ operands pieces, f a = .ok (g a)) :
    pieces.mapM (Piece.mapM f) = .ok (pieces.map (Piece.map g)) := by
  induction pieces with
  | nil => rfl
  | cons piece pieces ih =>
    rw [List.mapM_cons]
    cases piece with
    | operand value =>
      obtain ⟨hvalue, hrest⟩ := List.forall_mem_cons.1 h
      rw [ih hrest, Piece.mapM, hvalue]
      rfl
    | operator op =>
      rw [ih h]
      rfl

private theorem mapM_of_exists_error {e : ε} (hone : ∀ a e', f a = .error e' → e' = e)
    (h : ∃ a ∈ operands pieces, f a = .error e) :
    pieces.mapM (Piece.mapM f) = .error e := by
  induction pieces with
  | nil =>
    obtain ⟨a, ha, -⟩ := h
    exact absurd ha List.not_mem_nil
  | cons piece pieces ih =>
    rw [List.mapM_cons]
    cases piece with
    | operand value =>
      rw [Piece.mapM]
      cases hvalue : f value with
      | error e' =>
        -- An earlier operand may fail first, but then it fails in the same way.
        obtain rfl := hone value e' hvalue
        rfl
      | ok b =>
        have hrest : ∃ a ∈ operands pieces, f a = .error e := by
          obtain ⟨a, ha, herror⟩ := h
          rcases List.mem_cons.1 ha with rfl | ha
          · exact absurd (hvalue.symm.trans herror) (by simp)
          · exact ⟨a, ha, herror⟩
        rw [ih hrest]
        rfl
    | operator op =>
      rw [ih h]
      rfl

end Results

def Options.builds [Engine] (options : Options) (run : Run) : Bool :=
  Engine.builds options.sizeLimit (run.condition options.caseMode)

namespace Options

variable [Engine] {options : Options} {run : Run} {grouping : Grouping}

private theorem runCondition_eq_build (options : Options) (run : Run) :
    options.runCondition run = options.build (run.condition options.caseMode) := by
  obtain ⟨tag, terms⟩ := run
  rcases terms with - | ⟨first, - | ⟨second, rest⟩⟩
  · rcases tag with - | op
    · rfl
    · cases op <;> rfl
  · exact runCondition_singleton options tag first
  · rcases tag with - | op
    · rfl
    · exact runCondition_cons_cons options op first second rest

private theorem runCondition_of_builds (h : options.builds run) :
    options.runCondition run = .ok (run.condition options.caseMode) := by
  rw [runCondition_eq_build, build]
  exact if_pos h

private theorem runCondition_of_not_builds (h : ¬ options.builds run) :
    options.runCondition run = .error (.oversized options.sizeLimit) := by
  rw [runCondition_eq_build, build]
  exact if_neg h

private theorem condition_of_forall_builds (h : ∀ run ∈ grouping.allRuns, options.builds run) :
    options.condition grouping = .ok (grouping.condition options.caseMode) := by
  cases grouping with
  | lone term => exact runCondition_of_builds (h ⟨none, [term]⟩ List.mem_cons_self)
  | single run => exact runCondition_of_builds (h run List.mem_cons_self)
  | mixed pieces =>
    rw [Options.condition, mapM_of_forall_ok fun run hrun => runCondition_of_builds (h run hrun)]
    rfl

/-- One run that is refused is enough to fail, wherever it stands and whatever the others are. -/
theorem condition_of_exists_not_builds (h : ∃ run ∈ grouping.allRuns, ¬ options.builds run) :
    options.condition grouping = .error (.oversized options.sizeLimit) := by
  obtain ⟨run, hrun, hrefused⟩ := h
  cases grouping with
  | lone term =>
    obtain rfl := List.mem_singleton.1 hrun
    exact runCondition_of_not_builds hrefused
  | single run' =>
    obtain rfl := List.mem_singleton.1 hrun
    exact runCondition_of_not_builds hrefused
  | mixed pieces =>
    rw [Options.condition, mapM_of_exists_error ?_ ⟨run, hrun, runCondition_of_not_builds hrefused⟩]
    · rfl
    · intro other e herror
      by_cases hother : options.builds other
      · rw [runCondition_of_builds hother] at herror
        exact absurd herror (by simp)
      · rw [runCondition_of_not_builds hother] at herror
        exact (Except.error.inj herror).symm

private theorem forall_or_exists_not_builds (options : Options) (grouping : Grouping) :
    (∀ run ∈ grouping.allRuns, options.builds run) ∨
      ∃ run ∈ grouping.allRuns, ¬ options.builds run := by
  refine Decidable.or_iff_not_imp_left.2 fun hnot => ?_
  simpa using hnot

theorem condition_eq_ok_iff {condition : Condition} :
    options.condition grouping = .ok condition ↔
      (∀ run ∈ grouping.allRuns, options.builds run) ∧
        condition = grouping.condition options.caseMode := by
  rcases forall_or_exists_not_builds options grouping with hall | hrefused
  · rw [condition_of_forall_builds hall, Except.ok.injEq, eq_comm]
    exact (and_iff_right hall).symm
  · have hnot : ¬ ∀ run ∈ grouping.allRuns, options.builds run := by simpa using hrefused
    simp [condition_of_exists_not_builds hrefused, hnot]

private theorem condition_eq_error_iff {error : QueryError} :
    options.condition grouping = .error error ↔ error = .oversized options.sizeLimit ∧
      ∃ run ∈ grouping.allRuns, ¬ options.builds run := by
  rcases forall_or_exists_not_builds options grouping with hall | hrefused
  · have hnot : ¬ ∃ run ∈ grouping.allRuns, ¬ options.builds run := by simpa using hall
    rw [condition_of_forall_builds hall]
    exact iff_of_false (by simp) fun h => hnot h.2
  · rw [condition_of_exists_not_builds hrefused, Except.error.injEq, eq_comm]
    exact (and_iff_left hrefused).symm

end Options

def Tokens.grouping (tokens : Tokens) (query : Text) : Grouping :=
  .ofSegments (.ofChain (tokens.split (trim query)))

namespace Options

variable [Engine] {options : Options} {query : Text}

private theorem compile_eq_error_iff {error : QueryError} :
    options.compile query = .error error ↔ error = .oversized options.sizeLimit ∧
      trim query ≠ [] ∧ ∃ run ∈ (options.tokens.grouping query).allRuns, ¬ options.builds run := by
  by_cases htrim : trim query = []
  · simp [compile_of_trim_eq_nil htrim, htrim]
  · rw [compile_of_trim_ne_nil htrim, map_eq_error_iff, condition_eq_error_iff]
    exact and_congr_right' (and_iff_right htrim).symm

private theorem compile_of_forall_builds {limit : Nat}
    (h : ∀ run, options.builds run → ({ options with sizeLimit := limit } : Options).builds run)
    {compiled : Option Condition} (hcompile : options.compile query = .ok compiled) :
    ({ options with sizeLimit := limit } : Options).compile query = .ok compiled := by
  by_cases htrim : trim query = []
  · rw [compile_of_trim_eq_nil htrim] at hcompile ⊢
    exact hcompile
  · rw [compile_of_trim_ne_nil htrim, map_eq_ok_iff] at hcompile ⊢
    obtain ⟨condition, hcondition, hcompiled⟩ := hcompile
    obtain ⟨hbuilds, hasked⟩ := condition_eq_ok_iff.1 hcondition
    exact ⟨condition, condition_eq_ok_iff.2 ⟨fun run hrun => h run (hbuilds run hrun), hasked⟩,
      hcompiled⟩

end Options

/-- Prices for expressions: what each character of the terms adds, and a part that depends only on
how many terms there are and what joins them. -/
structure Prices where
  frame : CaseMode → Operator → Nat → Nat
  char : CaseMode → Char → Nat

namespace Run

def cost (prices : Prices) (mode : CaseMode) (run : Run) : Nat :=
  run.terms.flatten.foldr (fun c total => prices.char mode c + total)
    (prices.frame mode (run.tag.getD .or) run.terms.length)

end Run

/-- The engine refuses an expression exactly if it costs more than the limit. -/
def Engine.GoesBy [Engine] (prices : Prices) : Prop :=
  ∀ limit mode run, Engine.builds limit (Run.condition mode run) ↔ run.cost prices mode ≤ limit

namespace Engine.GoesBy

variable [Engine] {prices : Prices} {options : Options} {query : Text}

private theorem not_builds_iff (h : Engine.GoesBy prices) {run : Run} :
    ¬ options.builds run ↔ options.sizeLimit < run.cost prices options.caseMode := by
  rw [Options.builds, h, Nat.not_le]

theorem compile_eq_error_iff (h : Engine.GoesBy prices) {error : QueryError} :
    options.compile query = .error error ↔ error = .oversized options.sizeLimit ∧
      trim query ≠ [] ∧ ∃ run ∈ (options.tokens.grouping query).allRuns,
        options.sizeLimit < run.cost prices options.caseMode := by
  simp only [Options.compile_eq_error_iff, h.not_builds_iff]

theorem compile_of_sizeLimit_le (h : Engine.GoesBy prices) {limit : Nat}
    (hlimit : options.sizeLimit ≤ limit) {compiled : Option Condition}
    (hcompile : options.compile query = .ok compiled) :
    ({ options with sizeLimit := limit } : Options).compile query = .ok compiled := by
  refine Options.compile_of_forall_builds (fun run hrun => ?_) hcompile
  exact (h limit options.caseMode run).2 (((h _ _ run).1 hrun).trans hlimit)

end Engine.GoesBy

def roughPrices : Prices where
  frame _ _ _ := 0
  char mode c := (Atom.ofChar c).roughSize mode

private theorem Pattern.roughSize_ofTerm (mode : CaseMode) (term : Text) :
    Pattern.roughSize mode (.ofTerm term) =
      term.foldr (fun c total => roughPrices.char mode c + total) 0 := by
  induction term with
  | nil => rfl
  | cons c term ih =>
    rw [List.foldr_cons, ← ih]
    rfl

private theorem Run.roughSize_condition (mode : CaseMode) (run : Run) :
    (run.condition mode).roughSize = run.cost roughPrices mode := by
  obtain ⟨tag, terms⟩ := run
  have hflatten : (terms.map Pattern.ofTerm).flatten = Pattern.ofTerm terms.flatten :=
    List.map_flatten.symm
  have hsize : Pattern.roughSize mode (terms.map Pattern.ofTerm).flatten =
      Run.cost roughPrices mode ⟨tag, terms⟩ := by
    rw [hflatten, Pattern.roughSize_ofTerm]
    rfl
  rw [← hsize]
  rcases terms with - | ⟨first, - | ⟨second, rest⟩⟩
  · rcases tag with - | op
    · rfl
    · cases op <;> rfl
  · rw [List.map_singleton, List.flatten_singleton]
    rfl
  · rcases tag with - | op
    · rfl
    · cases op <;> rfl

theorem Engine.rough_goesBy : Engine.GoesBy roughPrices := by
  intro limit mode run
  rw [← Run.roughSize_condition]
  exact decide_eq_true_iff

end BooleanSearch
