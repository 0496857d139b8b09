import BooleanSearch.Proofs.Condition.Limited
import BooleanSearch.Proofs.Pattern.Bare
import BooleanSearch.Proofs.Query.Printed
import BooleanSearch.Proofs.Searcher.WiderBlanks

set_option autoImplicit false
set_option relaxedAutoImplicit false

namespace BooleanSearch

namespace Condition

theorem induction {motive : Condition → Prop}
    (term : ∀ (mode : CaseMode) (pattern : Pattern), motive (.term mode pattern))
    (anyOf : ∀ (mode : CaseMode) (patterns : List Pattern), motive (.anyOf mode patterns))
    (allOf : ∀ (mode : CaseMode) (patterns : List Pattern), motive (.allOf mode patterns))
    (sequence : ∀ pieces : List (Piece Condition),
      (∀ condition, .operand condition ∈ pieces → motive condition) → motive (.sequence pieces))
    (condition : Condition) : motive condition := by
  cases condition with
  | term mode pattern => exact term mode pattern
  | anyOf mode patterns => exact anyOf mode patterns
  | allOf mode patterns => exact allOf mode patterns
  | sequence pieces =>
    refine sequence pieces fun condition hmem => ?_
    have hsize : sizeOf condition < 1 + sizeOf pieces := by
      have hpiece := List.sizeOf_lt_of_mem hmem
      rw [Piece.operand.sizeOf_spec] at hpiece
      omega
    exact induction term anyOf allOf sequence condition
termination_by sizeOf condition

mutual

def withMode (mode : CaseMode) : Condition → Condition
  | .term _ pattern => .term mode pattern
  | .anyOf _ patterns => .anyOf mode patterns
  | .allOf _ patterns => .allOf mode patterns
  | .sequence pieces => .sequence (piecesWithMode mode pieces)

def piecesWithMode (mode : CaseMode) : List (Piece Condition) → List (Piece Condition)
  | [] => []
  | .operand condition :: pieces => .operand (condition.withMode mode) :: piecesWithMode mode pieces
  | .operator op :: pieces => .operator op :: piecesWithMode mode pieces

end

private theorem withMode_sequence (mode : CaseMode) (pieces : List (Piece Condition)) :
    (sequence pieces).withMode mode = .sequence (pieces.map (Piece.map (withMode mode))) := by
  have hpieces : piecesWithMode mode pieces = pieces.map (Piece.map (withMode mode)) := by
    induction pieces with
    | nil => rfl
    | cons piece pieces ih => cases piece <;> simp [piecesWithMode, Piece.map, ih]
  rw [withMode, hpieces]

private theorem describe_withMode (mode : CaseMode) (condition : Condition) :
    (condition.withMode mode).describe = condition.describe := by
  induction condition using Condition.induction with
  | term => rfl
  | anyOf => rfl
  | allOf => rfl
  | sequence pieces ih =>
    rw [withMode_sequence, describe_sequence, describe_sequence, List.map_map]
    have hpieces : ∀ piece ∈ pieces,
        (Piece.describe describe ∘ Piece.map (withMode mode)) piece =
          Piece.describe describe piece := by
      rintro (condition | op) hmem
      · exact ih condition hmem
      · rfl
    rw [List.map_congr_left hpieces]

inductive Kind where
  | term
  | anyOf
  | allOf
  | sequence

def Kind.name : Kind → Text
  | .term => "Term".toList
  | .anyOf => "AnyOf".toList
  | .allOf => "AllOf".toList
  | .sequence => "Sequence".toList

private theorem Kind.name_injective {kind kind' : Kind} (h : kind.name = kind'.name) :
    kind = kind' := by
  cases kind <;> cases kind' <;> first | rfl | exact absurd h (by decide)

private theorem Kind.name_ne (kind : Kind) (op : Operator) : kind.name ≠ op.name := by
  cases kind <;> cases op <;> decide

private theorem Kind.isBare_name (kind : Kind) : IsBare kind.name := by
  cases kind <;> exact isBare_of_all (by decide)

def kind : Condition → Kind
  | .term .. => .term
  | .anyOf .. => .anyOf
  | .allOf .. => .allOf
  | .sequence .. => .sequence

/-- The written form of a condition behind its first word. -/
def body : Condition → Text
  | .term _ pattern => slashed pattern.source
  | .anyOf _ patterns => slashed (alternationSource patterns)
  | .allOf _ patterns => '[' :: printEntries (slashed ·.source) [',', ' '] ']' patterns
  | .sequence pieces => '[' :: printEntries (Piece.describe describe) [' '] ']' pieces

private theorem describe_eq (condition : Condition) :
    condition.describe = condition.kind.name ++ ' ' :: condition.body := by
  cases condition with
  | term mode pattern => rfl
  | anyOf mode patterns => rfl
  | allOf mode patterns => rfl
  | sequence pieces =>
    rw [describe_sequence]
    rfl

private theorem describe_append_eq {condition other : Condition} {rest rest' : Text}
    (h : condition.describe ++ rest = other.describe ++ rest') :
    condition.kind = other.kind ∧ condition.body ++ rest = other.body ++ rest' := by
  rw [describe_eq, describe_eq, List.append_assoc, List.append_assoc] at h
  obtain ⟨hkind, hbody⟩ := condition.kind.isBare_name.append_inj other.kind.isBare_name
    (endsWord_blank _) (endsWord_blank _) h
  exact ⟨Kind.name_injective hkind, (List.cons.inj hbody).2⟩

private theorem describe_append_ne_name (condition : Condition) (op : Operator) (rest : Text)
    {rest' : Text} (h : EndsWord rest') : condition.describe ++ rest ≠ op.name ++ rest' := by
  have hname : IsBare op.name := by cases op <;> exact isBare_of_all (by decide)
  intro heq
  rw [describe_eq, List.append_assoc] at heq
  obtain ⟨hkind, -⟩ := condition.kind.isBare_name.append_inj hname (endsWord_blank _) h heq
  exact Kind.name_ne _ _ hkind

private theorem head?_describe (condition : Condition) :
    ∃ c ∈ condition.describe.head?, c ≠ ']' := by
  rw [describe_eq]
  cases condition with
  | term mode pattern => exact ⟨'T', rfl, by decide⟩
  | anyOf mode patterns => exact ⟨'A', rfl, by decide⟩
  | allOf mode patterns => exact ⟨'A', rfl, by decide⟩
  | sequence pieces => exact ⟨'S', rfl, by decide⟩

private theorem isOfTerms_iff {condition : Condition} :
    condition.IsOfTerms ↔ ∀ pattern ∈ condition.patterns, pattern.IsOfTerm := by
  rw [IsOfTerms]
  induction condition.patterns with
  | nil => exact ⟨fun _ => List.forall_mem_nil _, fun _ => ⟨[], rfl⟩⟩
  | cons first patterns ih =>
    rw [List.forall_mem_cons, ← ih]
    constructor
    · rintro ⟨- | ⟨term, terms⟩, h⟩
      · exact absurd h (List.cons_ne_nil _ _)
      · obtain ⟨hfirst, hpatterns⟩ := List.cons.inj h
        exact ⟨⟨term, hfirst⟩, terms, hpatterns⟩
    · rintro ⟨⟨term, rfl⟩, terms, rfl⟩
      exact ⟨term :: terms, rfl⟩

private theorem isOfTerms_sequence {pieces : List (Piece Condition)} :
    (sequence pieces).IsOfTerms ↔
      ∀ condition, .operand condition ∈ pieces → condition.IsOfTerms := by
  have hmem : ∀ condition, condition ∈ operands pieces ↔ .operand condition ∈ pieces := by
    intro condition
    simp only [operands, List.mem_filterMap]
    constructor
    · rintro ⟨condition' | op, hpiece, heq⟩
      · obtain rfl := Option.some.inj heq
        exact hpiece
      · exact absurd heq (by simp [Piece.operand?])
    · exact fun hpiece => ⟨_, hpiece, rfl⟩
  simp only [isOfTerms_iff, patterns_sequence, List.mem_flatMap, hmem]
  exact ⟨fun h condition hcondition pattern hpattern => h pattern ⟨condition, hcondition, hpattern⟩,
    fun h pattern ⟨condition, hcondition, hpattern⟩ => h condition hcondition pattern hpattern⟩

/-- A condition on terms is read up to its modes, before a blank, a closing bracket or the end. -/
theorem readAlike_describe (mode : CaseMode) {condition other : Condition}
    (h : condition.IsOfTerms) (hother : other.IsOfTerms) :
    ReadAlike EndsWord describe (withMode mode) condition other := by
  induction condition using Condition.induction generalizing other with
  | term mode' pattern =>
    intro rest rest' hrest hrest' heq
    obtain ⟨hkind, hbody⟩ := describe_append_eq heq
    cases other with
    | term mode'' pattern' =>
      rw [isOfTerms_iff, patterns_term] at h hother
      obtain ⟨hsource, hrests⟩ := IsBare.slashed_append_inj
        (h pattern (List.mem_singleton_self _)).isBare_source
        (hother pattern' (List.mem_singleton_self _)).isBare_source hrest hrest' hbody
      obtain rfl := Pattern.source_injective hsource
      exact ⟨rfl, hrests⟩
    | anyOf => exact absurd hkind (by simp [kind])
    | allOf => exact absurd hkind (by simp [kind])
    | sequence => exact absurd hkind (by simp [kind])
  | anyOf mode' patterns =>
    intro rest rest' hrest hrest' heq
    obtain ⟨hkind, hbody⟩ := describe_append_eq heq
    cases other with
    | term => exact absurd hkind (by simp [kind])
    | anyOf mode'' patterns' =>
      rw [isOfTerms_iff, patterns_anyOf] at h hother
      obtain ⟨hsource, hrests⟩ := IsBare.slashed_append_inj (isBare_alternationSource h)
        (isBare_alternationSource hother) hrest hrest' hbody
      obtain rfl := alternationSource_eq_iff.1 hsource
      exact ⟨rfl, hrests⟩
    | allOf => exact absurd hkind (by simp [kind])
    | sequence => exact absurd hkind (by simp [kind])
  | allOf mode' patterns =>
    intro rest rest' hrest hrest' heq
    obtain ⟨hkind, hbody⟩ := describe_append_eq heq
    cases other with
    | term => exact absurd hkind (by simp [kind])
    | anyOf => exact absurd hkind (by simp [kind])
    | allOf mode'' patterns' =>
      rw [isOfTerms_iff, patterns_allOf] at h hother
      have halike : ReadAlike EndsWord (printEntries (slashed ·.source) [',', ' '] ']')
          (List.map id) patterns patterns' :=
        readAlike_printEntries ⟨',', rfl, by decide⟩ (fun _ => ⟨'/', rfl, by decide⟩)
          (fun p hp q hq => (h p hp).readAlike_slashed (hother q hq)) _
      obtain ⟨hpatterns, hrests⟩ := halike hrest hrest' (List.cons.inj hbody).2
      rw [List.map_id, List.map_id] at hpatterns
      obtain rfl := hpatterns
      exact ⟨rfl, hrests⟩
    | sequence => exact absurd hkind (by simp [kind])
  | sequence pieces ih =>
    intro rest rest' hrest hrest' heq
    obtain ⟨hkind, hbody⟩ := describe_append_eq heq
    cases other with
    | term => exact absurd hkind (by simp [kind])
    | anyOf => exact absurd hkind (by simp [kind])
    | allOf => exact absurd hkind (by simp [kind])
    | sequence pieces' =>
      rw [isOfTerms_sequence] at h hother
      have hoperand : ∀ a b, .operand a ∈ pieces → .operand b ∈ pieces' →
          ReadAlike (FollowsEntry [' '] ']') describe (withMode mode) a b := by
        intro a b ha hb rest rest' hrest hrest'
        exact ih a ha (h a ha) (hother b hb) (endsWord_of_followsEntry hrest)
          (endsWord_of_followsEntry hrest')
      have hname : ∀ (a : Condition) (op : Operator) (rest rest' : Text),
          FollowsEntry [' '] ']' rest' → a.describe ++ rest ≠ op.name ++ rest' :=
        fun a op rest _ hrest' =>
          a.describe_append_ne_name op rest (endsWord_of_followsEntry hrest')
      obtain ⟨hpieces, hrests⟩ := readAlike_pieces ⟨' ', rfl, by decide⟩ head?_describe hname
        hoperand EndsWord hrest hrest' (List.cons.inj hbody).2
      rw [withMode_sequence, withMode_sequence, hpieces]
      exact ⟨rfl, hrests⟩

private theorem describe_eq_describe_iff {condition other : Condition} (h : condition.IsOfTerms)
    (hother : other.IsOfTerms) (mode : CaseMode) :
    condition.describe = other.describe ↔ condition.withMode mode = other.withMode mode := by
  have hnil : EndsWord [] := fun c hc => absurd hc (by simp)
  refine ⟨(readAlike_describe mode h hother).key_eq hnil, fun heq => ?_⟩
  rw [← describe_withMode mode condition, heq, describe_withMode]

end Condition

private theorem Run.patterns_condition (mode : CaseMode) (run : Run) :
    (run.condition mode).patterns = run.terms.map Pattern.ofTerm := by
  obtain ⟨tag, terms⟩ := run
  have hfold : (Condition.fold mode (terms.map Pattern.ofTerm) (tag.getD .or)).patterns =
      terms.map Pattern.ofTerm := by
    rw [Condition.patterns, Condition.pieces_fold, operands_joinedBy]
  rcases terms with - | ⟨term, - | ⟨second, rest⟩⟩
  · exact hfold
  · exact Condition.patterns_term mode (.ofTerm term)
  · exact hfold

private theorem Options.isOfTerms_of_condition [Engine] {options : Options} {grouping : Grouping}
    {condition : Condition} (h : options.condition grouping = .ok condition) :
    condition.IsOfTerms := by
  have hrun : ∀ run : Run, (run.condition options.caseMode).IsOfTerms := fun run =>
    ⟨run.terms, run.patterns_condition options.caseMode⟩
  obtain ⟨-, rfl⟩ := condition_eq_ok_iff.1 h
  cases grouping with
  | lone term => exact ⟨[term], Condition.patterns_term _ _⟩
  | single run => exact hrun run
  | mixed pieces =>
    refine Condition.isOfTerms_sequence.2 fun condition hmem => ?_
    obtain ⟨run | op, -, hpiece⟩ := List.mem_map.1 hmem
    · obtain rfl := Piece.operand.inj hpiece
      exact hrun run
    · exact absurd hpiece (by simp [Piece.map])

namespace Stages

/-- The written form of a stage determines the stage: segments and groupings altogether, and
conditions on terms up to their modes, so that they have the same patterns and operators in the same
places. Conditions on terms are those that groupings compile to and the sequences of such, nested to
any depth. -/
theorem describe_determines_stage [Engine] :
    (∀ segments other : Segments, segments.describe = other.describe ↔ segments = other) ∧
      (∀ grouping other : Grouping, grouping.describe = other.describe ↔ grouping = other) ∧
      (∀ condition other : Condition, condition.IsOfTerms → other.IsOfTerms → ∀ mode,
        (condition.describe = other.describe ↔
          condition.withMode mode = other.withMode mode)) ∧
      (∀ (options : Options) (grouping : Grouping) (condition : Condition),
        options.condition grouping = .ok condition → condition.IsOfTerms) ∧
      ∀ pieces, (Condition.sequence pieces).IsOfTerms ↔
        ∀ condition, .operand condition ∈ pieces → condition.IsOfTerms := by
  refine ⟨fun segments other => ?_, fun grouping other => ?_, fun condition other h hother mode =>
    Condition.describe_eq_describe_iff h hother mode, fun _ _ _ => Options.isOfTerms_of_condition,
    fun _ => Condition.isOfTerms_sequence⟩
  · exact ⟨Segments.describe_injective, congrArg Segments.describe⟩
  · exact ⟨Grouping.describe_injective, congrArg Grouping.describe⟩

def crowdedCondition (mode : CaseMode) : Condition :=
  .sequence [.operator .or, .operand (.sequence []),
    .operand (.allOf mode (["a/".toList, "] /b".toList, []].map Pattern.ofTerm)),
    .operator .and, .operator .and, .operand (.anyOf mode []),
    .operand (.term mode (.ofTerm "AND c".toList))]

theorem describe_crowdedCondition :
    let condition := crowdedCondition .sensitive
    let other := crowdedCondition .insensitive
    let grouping := Grouping.mixed [.operator .or, .operand ⟨none, ["a".toList, "] ".toList]⟩]
    (condition.IsOfTerms ∧ other.IsOfTerms ∧
        condition.describe = "Sequence [OR Sequence [] AllOf [/a//, /\\]\\s+/b/, //]".toList ++
          " AND AND AnyOf // Term /AND\\s+c/]".toList ∧
        condition.describe = other.describe ∧
        condition.withMode .sensitive = other.withMode .sensitive) ∧
      (∃ compiled, ({} : Options).condition grouping = .ok compiled ∧ compiled.IsOfTerms) ∧
      (Grouping.mixed [.operand ⟨some .and, []⟩]).describe ≠
        (Grouping.mixed [.operator .and]).describe ∧
      (Segments.joined [.operand "a\", \"b".toList]).describe ≠
        (Segments.joined [.operand ['a'], .operand ['b']]).describe := by
  intro condition other grouping
  obtain ⟨hsegments, hgroupings, hconditions, hcompiled, -⟩ := describe_determines_stage
  have hterms : condition.IsOfTerms :=
    ⟨["a/".toList, "] /b".toList, [], "AND c".toList], rfl⟩
  have hterms' : other.IsOfTerms :=
    ⟨["a/".toList, "] /b".toList, [], "AND c".toList], rfl⟩
  have hdescribe : condition.describe = other.describe := by decide +kernel
  refine ⟨⟨hterms, hterms', by decide +kernel, hdescribe,
    (hconditions condition other hterms hterms' .sensitive).1 hdescribe⟩, ?_, ?_, ?_⟩
  · obtain ⟨compiled, hok⟩ : ∃ compiled, ({} : Options).condition grouping = .ok compiled := by
      apply exists_eq_ok_of_isOk
      decide +kernel
    exact ⟨compiled, hok, hcompiled _ grouping compiled hok⟩
  · exact fun h => absurd ((hgroupings _ _).1 h) (by decide)
  · exact fun h => absurd ((hsegments _ _).1 h) (by decide)

end Stages

end BooleanSearch
