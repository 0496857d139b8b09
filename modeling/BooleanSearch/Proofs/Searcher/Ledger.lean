import BooleanSearch.Proofs.Searcher.Coherence

/-!
# The ledger of a searcher

The counts of a searcher and the queries that it knows can be told from the calls alone, without its
memory: which options a call found and left, and whether a query compiles under them. Looking back
from the latest call, all that counts for a lookup is what was looked up since the last reset.
-/

set_option autoImplicit false
set_option relaxedAutoImplicit false

namespace BooleanSearch

def Options.settings (options : Options) : Text × Text × CaseMode :=
  (options.tokens.and, options.tokens.or, options.caseMode)

private theorem Options.settings_eq_iff {options other : Options}
    (h : options.sizeLimit = other.sizeLimit) :
    options.settings = other.settings ↔ options = other := by
  obtain ⟨⟨and, or, hand, hor⟩, mode, limit⟩ := options
  obtain ⟨⟨and', or', hand', hor'⟩, mode', limit'⟩ := other
  obtain rfl : limit = limit' := h
  simp [Options.settings, and_assoc]

namespace Call

def query? : Call → Option Text
  | .filter _ query => some query
  | .filterAll _ query => some query
  | .compile query => some query
  | _ => none

def isForget : Call → Bool
  | .forget => true
  | _ => false

def isConfiguration : Call → Bool
  | .replaceTokens _ _ => true
  | .setCaseMode _ => true
  | _ => false

/-- Whether the call sets nothing that is not set under these options: tokens that are missing,
empty or in effect, or the case mode in effect. -/
def SetsNothingNew (options : Options) : Call → Prop
  | .replaceTokens and or =>
    (∀ token ∈ and, token = [] ∨ token = options.tokens.and) ∧
      ∀ token ∈ or, token = [] ∨ token = options.tokens.or
  | .setCaseMode mode => mode = options.caseMode
  | _ => False

end Call

/-- A call with the options that it found and those that it left. -/
structure Event where
  before : Options
  call : Call
  after : Options

namespace Event

def changesSettings (event : Event) : Bool :=
  event.call.isConfiguration && decide (event.before.settings ≠ event.after.settings)

def resets (event : Event) : Bool := event.call.isForget || event.changesSettings

private theorem resets_of_query? {event : Event} {query : Text}
    (h : event.call.query? = some query) : event.resets = false := by
  obtain ⟨before, call, after⟩ := event
  cases call with
  | filter candidate query' => rfl
  | filterAll candidates query' => rfl
  | compile query' => rfl
  | _ => exact absurd h (by simp [Call.query?])

private theorem of_isConfiguration {event : Event} (h : event.call.isConfiguration) :
    event.call.query? = none ∧
      (event.resets ↔ ¬ event.before.settings = event.after.settings) := by
  obtain ⟨before, call, after⟩ := event
  cases call with
  | replaceTokens and or => exact ⟨rfl, decide_eq_true_iff⟩
  | setCaseMode mode => exact ⟨rfl, decide_eq_true_iff⟩
  | _ => exact absurd h Bool.false_ne_true

end Event

private theorem countP_resets (history : List Event) :
    history.countP Event.resets = history.countP (fun event => event.call.isForget) +
      history.countP Event.changesSettings := by
  induction history with
  | nil => rfl
  | cons event past ih =>
    have hone : event.resets.toNat =
        event.call.isForget.toNat + event.changesSettings.toNat := by
      obtain ⟨before, call, after⟩ := event
      cases call <;> simp [Event.resets, Event.changesSettings, Call.isForget, Call.isConfiguration]
    simp only [List.countP_cons, ih]
    revert hone
    cases event.resets <;> cases event.call.isForget <;> cases event.changesSettings <;>
      simp <;> omega

def Memo.queries (memo : Memo) : List Text := memo.entries.map Prod.fst

private theorem Memo.find?_eq_none_iff {memo : Memo} {query : Text} :
    memo.find? query = none ↔ query ∉ memo.queries := by
  rw [find?, queries, List.lookup_eq_none_iff, List.mem_map, not_exists]
  constructor
  · intro h entry hentry
    have hne := h entry hentry.1
    simp [hentry.2] at hne
  · intro h entry hentry
    exact bne_iff_ne.2 fun heq => h entry ⟨hentry, heq.symm⟩

section Ledger

variable [Engine]

/-- The query that was looked up, if it compiles. -/
def Event.learnt? (event : Event) : Option Text :=
  event.call.query?.filter fun query => (event.before.compile query).isOk

/-- The queries that were looked up and compiled since the last reset, in a history that has the
latest event first. -/
def knownQueries (history : List Event) : List Text :=
  (history.takeWhile fun event => !event.resets).filterMap Event.learnt?

/-- How many events of a history looked up a query that was not known before them. -/
def unknownLookups : List Event → Nat
  | [] => 0
  | event :: past =>
    (event.call.query?.any fun query => decide (query ∉ knownQueries past)).toNat +
      unknownLookups past

namespace Searcher

def event (searcher : Searcher) (call : Call) : Event :=
  ⟨searcher.options, call, (searcher.perform call).2.options⟩

/-- The events of a run, the latest first, before those of an earlier run. -/
def history (searcher : Searcher) (past : List Event) : List Call → List Event
  | [] => past
  | call :: calls => (searcher.perform call).2.history (searcher.event call :: past) calls

end Searcher

/-- The memory has the counts and the queries that follow from the history. -/
structure Memo.Records (memo : Memo) (history : List Event) : Prop where
  lookups_eq : memo.hits + memo.misses = history.countP fun event => event.call.query?.isSome
  resets_eq : memo.resets = history.countP Event.resets
  mem_queries_iff : ∀ query, query ∈ memo.queries ↔ query ∈ knownQueries history
  queries_nodup : memo.queries.Nodup
  misses_eq : memo.misses = unknownLookups history

section Steps

variable {memo after : Memo} {past : List Event} {event : Event} {query : Text}

private theorem knownQueries_cons_of_resets (h : event.resets) : knownQueries (event :: past) =
    [] := by
  rw [knownQueries, List.takeWhile_cons_of_neg (by simp [h]), List.filterMap_nil]

private theorem knownQueries_cons_of_not_resets (h : event.resets = false) :
    knownQueries (event :: past) = event.learnt?.toList ++ knownQueries past := by
  rw [knownQueries, List.takeWhile_cons_of_pos (by simp [h]), List.filterMap_cons]
  cases event.learnt? <;> rfl

private theorem Event.learnt?_of_query?_eq_none (h : event.call.query? = none) :
    event.learnt? = none := by
  rw [learnt?, h, Option.filter_none]

namespace Memo.Records

private theorem empty : ({} : Memo).Records [] where
  lookups_eq := rfl
  resets_eq := rfl
  mem_queries_iff := fun _ => Iff.rfl
  queries_nodup := List.nodup_nil
  misses_eq := rfl

private theorem idle (h : memo.Records past) (hquery : event.call.query? = none)
    (hresets : event.resets = false) : memo.Records (event :: past) := by
  refine ⟨?_, ?_, ?_, h.queries_nodup, ?_⟩
  · rw [h.lookups_eq, List.countP_cons_of_neg (by simp [hquery])]
  · rw [h.resets_eq, List.countP_cons_of_neg (by simp [hresets])]
  · rw [knownQueries_cons_of_not_resets hresets, Event.learnt?_of_query?_eq_none hquery]
    exact h.mem_queries_iff
  · rw [h.misses_eq, unknownLookups, hquery]
    exact (Nat.zero_add _).symm

private theorem reset (h : memo.Records past) (hquery : event.call.query? = none)
    (hresets : event.resets) : memo.reset.Records (event :: past) := by
  refine ⟨?_, ?_, ?_, List.nodup_nil, ?_⟩
  · rw [List.countP_cons_of_neg (by simp [hquery])]
    exact h.lookups_eq
  · rw [List.countP_cons_of_pos hresets]
    exact congrArg (· + 1) h.resets_eq
  · rw [knownQueries_cons_of_resets hresets]
    exact fun _ => Iff.rfl
  · rw [unknownLookups, hquery]
    exact h.misses_eq.trans (Nat.zero_add _).symm

/-- A lookup counts once, as a miss if its query was not known, and adds its query if that
compiles. -/
theorem lookup (h : memo.Records past) (hquery : event.call.query? = some query)
    (hlookups : after.hits + after.misses = memo.hits + memo.misses + 1)
    (hresets : after.resets = memo.resets)
    (hqueries : ∀ other, other ∈ after.queries ↔ other ∈ event.learnt?.toList ++ memo.queries)
    (hnodup : after.queries.Nodup)
    (hmisses : after.misses = (decide (query ∉ memo.queries)).toNat + memo.misses) :
    after.Records (event :: past) := by
  have hkeeps := Event.resets_of_query? hquery
  refine ⟨?_, ?_, ?_, hnodup, ?_⟩
  · rw [hlookups, h.lookups_eq, List.countP_cons_of_pos (by simp [hquery])]
  · rw [hresets, h.resets_eq, List.countP_cons_of_neg (by simp [hkeeps])]
  · intro other
    rw [hqueries, knownQueries_cons_of_not_resets hkeeps, List.mem_append, List.mem_append,
      h.mem_queries_iff]
  · rw [hmisses, h.misses_eq, unknownLookups, hquery, Option.any_some]
    simp only [h.mem_queries_iff]

end Memo.Records

end Steps

namespace Searcher

variable {searcher : Searcher} {past : List Event} {call : Call}

private theorem records_of_query? {query : Text} (hquery : call.query? = some query)
    (hcoherent : searcher.IsCoherent) (h : searcher.memo.Records past) :
    (searcher.compile query).2.memo.Records (searcher.event call :: past) := by
  have hlearnt : (searcher.event call).learnt? =
      if (searcher.options.compile query).isOk then some query else none := by
    rw [Event.learnt?]
    change call.query?.filter _ = _
    rw [hquery, Option.filter_some]
    rfl
  cases hfind : searcher.memo.find? query with
  | some condition =>
    have hknown : query ∈ searcher.memo.queries :=
      List.mem_map_of_mem (Memo.mem_entries_of_find? hfind)
    rw [compile_of_find? hfind]
    -- A remembered query compiles, so the lookup is one to learn from, but it adds nothing new.
    refine h.lookup hquery (Nat.add_right_comm _ _ _) rfl ?_ h.queries_nodup ?_
    · rw [hlearnt, hcoherent.compile_of_find? hfind]
      intro other
      rw [List.mem_append]
      constructor
      · exact Or.inr
      · intro hother
        rcases hother with hother | hother
        · obtain rfl := List.mem_singleton.1 hother
          exact hknown
        · exact hother
    · simp [hknown, Memo.hit]
  | none =>
    have hunknown := Memo.find?_eq_none_iff.1 hfind
    cases hcompile : searcher.options.compile query with
    | error error =>
      rw [compile_of_error hfind hcompile]
      refine h.lookup hquery rfl rfl ?_ h.queries_nodup ?_
      · rw [hlearnt, hcompile]
        exact fun _ => Iff.rfl
      · simp [hunknown, Memo.miss, Nat.add_comm]
    | ok condition =>
      rw [compile_of_ok hfind hcompile]
      refine h.lookup hquery rfl rfl ?_ ?_ ?_
      · rw [hlearnt, hcompile]
        exact fun _ => Iff.rfl
      · exact List.nodup_cons.2 ⟨hunknown, h.queries_nodup⟩
      · simp [hunknown, Memo.learn, Memo.miss, Nat.add_comm]

private theorem records_configure (h : searcher.memo.Records past) {event : Event}
    {options : Options}
    (hcall : event.call.isConfiguration) (hbefore : event.before = searcher.options)
    (hafter : event.after = options) (hlimit : searcher.options.sizeLimit = options.sizeLimit) :
    (searcher.configure options).memo.Records (event :: past) := by
  obtain ⟨hquery, hresets⟩ := Event.of_isConfiguration hcall
  rw [hbefore, hafter, Options.settings_eq_iff hlimit] at hresets
  by_cases hsame : options = searcher.options
  · rw [configure, if_pos hsame]
    exact h.idle hquery (by rw [← Bool.not_eq_true, hresets]; exact fun hne => hne hsame.symm)
  · rw [configure, if_neg hsame]
    exact h.reset hquery (hresets.2 (Ne.symm hsame))

private theorem IsCoherent.records_perform (hcoherent : searcher.IsCoherent)
    (h : searcher.memo.Records past) (call : Call) :
    (searcher.perform call).2.memo.Records (searcher.event call :: past) := by
  cases call with
  | filter candidate query => exact records_of_query? rfl hcoherent h
  | filterAll candidates query => exact records_of_query? rfl hcoherent h
  | compile query => exact records_of_query? rfl hcoherent h
  | explain query => exact h.idle rfl rfl
  | replaceTokens and or => exact records_configure h rfl rfl (configure_options _ _) rfl
  | setCaseMode mode => exact records_configure h rfl rfl (configure_options _ _) rfl
  | forget => exact h.reset rfl rfl

private theorem IsCoherent.records_run (hcoherent : searcher.IsCoherent)
    (h : searcher.memo.Records past) (calls : List Call) :
    (searcher.run calls).memo.Records (searcher.history past calls) := by
  induction calls generalizing searcher past with
  | nil => exact h
  | cons call calls ih => exact ih (hcoherent.perform call) (hcoherent.records_perform h call)

private theorem map_call_history (searcher : Searcher) (past : List Event) (calls : List Call) :
    (searcher.history past calls).map Event.call = calls.reverse ++ past.map Event.call := by
  induction calls generalizing searcher past with
  | nil => rfl
  | cons call calls ih =>
    rw [history, ih, List.map_cons, List.reverse_cons, List.append_assoc]
    rfl

private theorem countP_history (searcher : Searcher) (calls : List Call) (p : Call → Bool) :
    (searcher.history [] calls).countP (fun event => p event.call) = calls.countP p := by
  have hmap := List.countP_map (p := p) (f := Event.call) (l := searcher.history [] calls)
  rw [map_call_history, List.map_nil, List.append_nil, List.countP_reverse] at hmap
  exact hmap.symm

private theorem perform_of_setsNothingNew (h : call.SetsNothingNew searcher.options) :
    (searcher.perform call).2 = searcher := by
  cases call with
  | replaceTokens and or =>
    obtain ⟨hand, hor⟩ := h
    have hfirst : searcher.options.tokens.replace .and and = searcher.options.tokens :=
      Tokens.replace_eq_self hand
    have hsecond : searcher.options.tokens.replace .or or = searcher.options.tokens :=
      Tokens.replace_eq_self hor
    change searcher.configure { searcher.options with tokens := _ } = searcher
    rw [hfirst, hsecond]
    exact if_pos rfl
  | setCaseMode mode =>
    obtain rfl : mode = searcher.options.caseMode := h
    exact if_pos rfl
  | _ => exact h.elim

/-- After any run of calls on a new searcher, its counts and the queries that it knows are those
that follow from the calls and the options that each of them found and left. A call that sets
nothing new changes nothing at all. -/
theorem run_ledger (options : Options) (calls : List Call) :
    let searcher := ({ options } : Searcher).run calls
    let history := ({ options } : Searcher).history [] calls
    searcher.stats.hits + searcher.stats.misses = calls.countP (·.query?.isSome) ∧
      searcher.stats.resets =
        calls.countP Call.isForget + history.countP Event.changesSettings ∧
      (∀ query, query ∈ searcher.memo.queries ↔ query ∈ knownQueries history) ∧
      searcher.memo.queries.Nodup ∧ searcher.stats.entries = searcher.memo.queries.length ∧
      searcher.stats.misses = unknownLookups history ∧
      ∀ call : Call, call.SetsNothingNew searcher.options →
        (searcher.perform call).2 = searcher := by
  intro searcher history
  have hfresh : ({ options } : Searcher).IsCoherent := isCoherent_of_entries_eq_nil rfl
  have hrecords : searcher.memo.Records history := hfresh.records_run .empty calls
  refine ⟨?_, ?_, hrecords.mem_queries_iff, hrecords.queries_nodup, ?_, hrecords.misses_eq,
    fun call => perform_of_setsNothingNew⟩
  · rw [← countP_history { options } calls]
    exact hrecords.lookups_eq
  · rw [← countP_history { options } calls, ← countP_resets]
    exact hrecords.resets_eq
  · rw [Memo.queries, List.length_map]
    rfl

end Searcher

end Ledger

namespace Searcher

def callsOfEveryKind : List Call :=
  let long := List.replicate 100 'x'
  [.compile ['a'], .filter ['x'] ['a'], .filter long long, .filter ['a'] long,
    .filterAll [['a']] [' ', 'a'], .replaceTokens (some ['&']) (some ['|']), .explain ['c'],
    .setCaseMode .insensitive, .compile ['a'], .setCaseMode .sensitive, .compile ['a'], .forget,
    .compile ['a']]

theorem ledger_of_eight_lookups :
    let options : Options := { sizeLimit := 1000 }
    let searcher := ({ options } : Searcher).run callsOfEveryKind
    let unchanged : Call := .replaceTokens (some []) (some ['|'])
    searcher.stats.hits + searcher.stats.misses = 8 ∧ searcher.stats.misses = 7 ∧
      searcher.stats.resets = 3 ∧ (∀ query, query ∈ searcher.memo.queries ↔ query ∈ [['a']]) ∧
      unchanged.SetsNothingNew searcher.options ∧ (searcher.perform unchanged).2 = searcher := by
  intro options searcher unchanged
  obtain ⟨hlookups, hresets, hqueries, -, -, hmisses, hkept⟩ := run_ledger options callsOfEveryKind
  have hnothing : unchanged.SetsNothingNew searcher.options := by
    rw [run_options]
    exact ⟨by simp, by simp [callsOfEveryKind, optionsAfter, Tokens.replace]⟩
  refine ⟨hlookups, ?_, ?_, ?_, hnothing, hkept unchanged hnothing⟩
  · rw [hmisses]
    decide +kernel
  · rw [hresets]
    decide +kernel
  · intro query
    have hknown :
        knownQueries (({ options } : Searcher).history [] callsOfEveryKind) = [['a']] := by
      decide +kernel
    rw [hqueries, hknown]

end Searcher

end BooleanSearch
