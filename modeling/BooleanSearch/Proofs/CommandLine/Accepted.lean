import BooleanSearch.Proofs.CommandLine.Grammar
import BooleanSearch.Proofs.Searcher.TokensInEffect

set_option autoImplicit false
set_option relaxedAutoImplicit false

namespace BooleanSearch

namespace Choice

def token? (op : Operator) : Choice → Option Text
  | .token op' value => if op' = op then some value else none
  | _ => none

def color? : Choice → Option Bool
  | .color on => some on
  | _ => none

def amount : Choice → Nat
  | .verbose amount => amount
  | _ => 0

end Choice

def chosenToken? (op : Operator) (choices : List Choice) : Option Text :=
  (choices.filterMap (Choice.token? op)).getLast?

def totalAmount (choices : List Choice) : Nat :=
  choices.foldl (fun total choice => total + choice.amount) 0

/-- The settings that choices make, where output is coloured or not unless they say so. -/
def Settings.ofChoices (color : Bool) (choices : List Choice) : Settings where
  and := chosenToken? .and choices
  or := chosenToken? .or choices
  caseMode := if .caseSensitive ∈ choices then .sensitive else .insensitive
  explain := decide (.explain ∈ choices)
  color := (choices.filterMap Choice.color?).getLast?.getD color
  verbosity := min 255 (totalAmount choices)

variable {choices : List Choice} {options : List Text}

private theorem chosenToken?_concat (op : Operator) (choices : List Choice) (choice : Choice) :
    chosenToken? op (choices ++ [choice]) = (choice.token? op).or (chosenToken? op choices) :=
  getLast?_filterMap_concat _ _ _

private theorem totalAmount_concat (choices : List Choice) (choice : Choice) :
    totalAmount (choices ++ [choice]) = totalAmount choices + choice.amount := by
  rw [totalAmount, List.foldl_append]
  rfl

private theorem totalAmount_perm {others : List Choice} (h : others.Perm choices) :
    totalAmount others = totalAmount choices :=
  h.foldl_eq' (fun _ _ _ _ total => Nat.add_right_comm total _ _) 0

private theorem Settings.ofChoices_concat (color : Bool) (choices : List Choice) (choice : Choice) :
    ofChoices color (choices ++ [choice]) = (ofChoices color choices).choose choice := by
  have hlevel : ∀ m n, min 255 (m + n) = min 255 (min 255 m + n) := by omega
  rw [ofChoices, ofChoices]
  simp only [chosenToken?_concat, totalAmount_concat, getLast?_filterMap_concat, List.mem_append,
    List.mem_singleton]
  cases choice with
  | caseSensitive => simp [choose, Choice.token?, Choice.color?, Choice.amount]
  | explain => simp [choose, Choice.token?, Choice.color?, Choice.amount]
  | color on => simp [choose, Choice.token?, Choice.color?, Choice.amount]
  | verbose amount => simp [choose, Choice.token?, Choice.color?, Choice.amount, ← hlevel]
  | token op value =>
    cases op <;> simp [choose, withToken, Choice.token?, Choice.color?, Choice.amount]

private theorem Settings.chooseAll_eq_ofChoices (color : Bool) (choices : List Choice) :
    ({ color } : Settings).chooseAll choices = ofChoices color choices := by
  induction choices using List.reverseRecOn with
  | nil => rfl
  | append_singleton choices choice ih =>
    rw [ofChoices_concat, ← ih, chooseAll, List.foldl_append]
    rfl

private theorem ne_nil_of_mem_of_areWritten (h : AreWritten choices options) {op : Operator}
    {token : Text} (hmem : .token op token ∈ choices) : token ≠ [] := by
  induction h with
  | nil => exact absurd hmem List.not_mem_nil
  | cons hwritten _ ih =>
    rcases List.mem_cons.1 hmem with rfl | hmem
    · cases hwritten <;> assumption
    · exact ih hmem

private theorem ne_nil_of_chosenToken? (h : AreWritten choices options) {op : Operator}
    {token : Text} (htoken : chosenToken? op choices = some token) : token ≠ [] := by
  obtain ⟨choice, hmem, hchoice⟩ := List.mem_filterMap.1 (List.mem_of_getLast? htoken)
  cases choice with
  | token op' value =>
    obtain ⟨-, rfl⟩ : op' = op ∧ value = token := by simpa [Choice.token?] using hchoice
    exact ne_nil_of_mem_of_areWritten h hmem
  | _ => exact absurd hchoice (by simp [Choice.token?])

namespace Settings

theorem searcher_eq_run [Engine] (settings : Settings) :
    settings.searcher = ({} : Searcher).run
      [.replaceTokens settings.and settings.or, .setCaseMode settings.caseMode] := rfl

private theorem options_searcher_eq_foldl (settings : Settings) :
    settings.searcher.options = [Call.replaceTokens settings.and settings.or,
      .setCaseMode settings.caseMode].foldl Searcher.optionsAfter {} := by
  rw [searcher, Searcher.setCaseMode, Searcher.configure_options, Searcher.replaceTokens,
    Searcher.configure_options]
  rfl

private theorem token_searcher (settings : Settings) (op : Operator) :
    settings.searcher.options.tokens.token op =
      ((match op with
        | .and => settings.and
        | .or => settings.or).filter (· ≠ [])).getD (Tokens.standard.token op) := by
  rw [options_searcher_eq_foldl, List.foldl_cons, List.foldl_cons, List.foldl_nil,
    Searcher.token_optionsAfter, Searcher.token_optionsAfter]
  cases op <;> rfl

private theorem token_searcher_ofChoices (h : AreWritten choices options) (color : Bool)
    (op : Operator) :
    (ofChoices color choices).searcher.options.tokens.token op =
      (chosenToken? op choices).getD (Tokens.standard.token op) := by
  have hfilter : (chosenToken? op choices).filter (· ≠ []) = chosenToken? op choices := by
    cases htoken : chosenToken? op choices with
    | none => rfl
    | some token =>
      have hne := ne_nil_of_chosenToken? h htoken
      exact Option.filter_some_pos (by simpa using hne)
  rw [token_searcher]
  cases op with
  | and => exact congrArg (Option.getD · _) hfilter
  | or => exact congrArg (Option.getD · _) hfilter

private theorem options_searcher (settings : Settings) :
    settings.searcher.options =
      { tokens := settings.searcher.options.tokens, caseMode := settings.caseMode } := by
  rw [options_searcher_eq_foldl]
  rfl

end Settings

namespace Request

private theorem code_outcome_search_ne [Engine] (settings : Settings) (query : Text)
    (input : List UInt8) :
    ((search settings query).outcome input).code ≠ 2 := by
  rw [outcome]
  split
  · rw [explainQuery]
    split <;> simp
  · simp only [filterLines]
    split
    · split <;> simp
    · simp

private theorem code_outcome_eq_two_iff [Engine] (request : Request) (input : List UInt8) :
    (request.outcome input).code = 2 ↔ (∀ settings query, request ≠ .search settings query) ∧
        request ≠ .help ∧ request ≠ .version := by
  cases request with
  | help => simp [outcome]
  | version => simp [outcome]
  | search settings query => simp [code_outcome_search_ne]
  | refuse error => simp [outcome]

private theorem ofArguments_eq_iff (color : Bool) (args : List Text) {request : Request}
    (h : ∀ error, request ≠ .refuse error) :
    ofArguments { color } args = request ↔
      ∃ choices options rest, args = options ++ rest ∧ AreWritten choices options ∧
        Ending (.ofChoices color choices) rest request := by
  have hreads : ({ color } : Settings).Reads args request ↔
      ofArguments { color } args = request ∧ ∀ error, request ≠ .refuse error :=
    Settings.reads_iff
  simp only [h, ne_eq, not_false_eq_true, implies_true, and_true, Settings.Reads,
    Settings.chooseAll_eq_ofChoices] at hreads
  exact hreads.symm

private theorem ofArguments_eq_search_iff (color : Bool) (args : List Text) {settings : Settings}
    {query : Text} : ofArguments { color } args = .search settings query ↔
      ∃ choices options rest, args = options ++ rest ∧ AreWritten choices options ∧
        GivesQuery rest query ∧ settings = .ofChoices color choices := by
  rw [ofArguments_eq_iff color args (fun _ => Request.noConfusion)]
  simp only [Ending.search_iff]

private theorem ofArguments_eq_help_iff (color : Bool) (args : List Text) :
    ofArguments { color } args = .help ↔
      ∃ choices options rest, args = options ++ rest ∧ AreWritten choices options ∧
        ∃ flag ∈ rest.head?, flag ∈ helpFlags := by
  rw [ofArguments_eq_iff color args (fun _ => Request.noConfusion)]
  simp only [Ending.help_iff]

private theorem ofArguments_eq_version_iff (color : Bool) (args : List Text) :
    ofArguments { color } args = .version ↔
      ∃ choices options rest, args = options ++ rest ∧ AreWritten choices options ∧
        ∃ flag ∈ rest.head?, flag ∈ versionFlags := by
  rw [ofArguments_eq_iff color args (fun _ => Request.noConfusion)]
  simp only [Ending.version_iff]

/-- A command line is accepted exactly if it is options and then a query, asks for help or the
version exactly if it is options and then a flag for that, and ends with the exit code of a refusal
otherwise. The settings are those that the options choose, and the searcher has them: the last token
chosen for an operator, the case however often and wherever it is asked for. -/
theorem ofArguments_grammar [Engine] (color : Bool) (args : List Text) :
    let request := ofArguments { color } args
    (∀ settings query, request = .search settings query ↔
        ∃ choices options rest, args = options ++ rest ∧ AreWritten choices options ∧
          GivesQuery rest query ∧ settings = .ofChoices color choices) ∧
      (request = .help ↔ ∃ choices options rest, args = options ++ rest ∧
        AreWritten choices options ∧ ∃ flag ∈ rest.head?, flag ∈ helpFlags) ∧
      (request = .version ↔ ∃ choices options rest, args = options ++ rest ∧
        AreWritten choices options ∧ ∃ flag ∈ rest.head?, flag ∈ versionFlags) ∧
      (∀ input, (request = .help → request.outcome input = ⟨0, unlines [helpText], []⟩) ∧
        (request = .version → request.outcome input = ⟨0, unlines [versionText], []⟩) ∧
        ((request.outcome input).code = 2 ↔
          (∀ settings query, request ≠ .search settings query) ∧
            request ≠ .help ∧ request ≠ .version)) ∧
      ∀ choices options, AreWritten choices options →
        let settings := Settings.ofChoices color choices
        let searcher := settings.searcher
        searcher.IsReachable ∧
          (∀ op, searcher.options.tokens.token op =
            (chosenToken? op choices).getD (Tokens.standard.token op)) ∧
          searcher.options.caseMode = settings.caseMode ∧
          searcher.options.sizeLimit = ({} : Options).sizeLimit ∧
          settings.verbosity ≤ 255 ∧
          (∀ others : List Choice, others.Perm choices →
            (Settings.ofChoices color others).verbosity = settings.verbosity) ∧
          ∀ others : List Choice, (∀ choice, choice ∈ others ↔ choice ∈ choices) →
            (Settings.ofChoices color others).caseMode = settings.caseMode ∧
              (Settings.ofChoices color others).explain = settings.explain := by
  intro request
  refine ⟨fun _ _ => ofArguments_eq_search_iff color args, ofArguments_eq_help_iff color args,
    ofArguments_eq_version_iff color args, ?_, ?_⟩
  · intro input
    refine ⟨?_, ?_, code_outcome_eq_two_iff request input⟩
    · intro h
      rw [h]
      rfl
    · intro h
      rw [h]
      rfl
  · intro choices options hwritten settings searcher
    have hreachable : searcher.IsReachable := ⟨{}, _, settings.searcher_eq_run.symm⟩
    have hoptions := settings.options_searcher
    refine ⟨hreachable, Settings.token_searcher_ofChoices hwritten color, ?_, ?_, ?_, ?_, ?_⟩
    · rw [hoptions]
    · rw [hoptions]
    · exact Nat.min_le_left _ _
    · intro others hperm
      have htotal : totalAmount others = totalAmount choices := totalAmount_perm hperm
      change min 255 (totalAmount others) = min 255 (totalAmount choices)
      rw [htotal]
    · intro others hothers
      simp only [settings, Settings.ofChoices, hothers, and_self]

theorem ofArguments_five_options :
    let settings := Settings.ofChoices false [.verbose 1, .token .and "--".toList, .verbose 2,
      .token .or "x".toList, .caseSensitive]
    ofArguments {} ["-v".toList, "--and".toList, "--".toList, "-vv".toList, "--or=--or=x".toList,
        "-c".toList, "q".toList, "--explain".toList] = .search settings "q --explain".toList ∧
      settings.searcher.options.tokens.token .and = "--".toList ∧
      settings.searcher.options.caseMode = .sensitive := by
  have hrest : ¬ tokenOptionWithValue .or <+: "x".toList := by decide
  have hwritten : AreWritten [.verbose 1, .token .and "--".toList, .verbose 2,
      .token .or "x".toList, .caseSensitive] ["-v".toList, "--and".toList, "--".toList,
      "-vv".toList, "--or=--or=x".toList, "-c".toList] :=
    .cons .verbose (.cons (.tokenApart .and (List.cons_ne_nil _ _)) (.cons .veryVerbose
      (.cons (.tokenAttached .or 1 (List.cons_ne_nil _ _) hrest) (.cons .caseShort .nil))))
  have hword : IsWord "q".toList := .inr (.inr (by decide))
  have hquery : GivesQuery ["q".toList, "--explain".toList] "q --explain".toList :=
    .unmarked ["--explain".toList] hword
  obtain ⟨hsearch, -, -, -, hsettings⟩ := ofArguments_grammar false ["-v".toList, "--and".toList,
    "--".toList, "-vv".toList, "--or=--or=x".toList, "-c".toList, "q".toList, "--explain".toList]
  obtain ⟨-, htoken, hcase, -⟩ := hsettings _ _ hwritten
  exact ⟨(hsearch _ _).2 ⟨_, _, _, rfl, hwritten, hquery, rfl⟩, htoken .and, hcase⟩

end Request

end BooleanSearch
