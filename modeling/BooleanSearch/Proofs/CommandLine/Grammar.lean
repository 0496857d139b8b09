import BooleanSearch.CommandLine.Outcome

/-!
# The grammar of the command line

A command line is a list of options, each written in one or two arguments, and after them a request
for help or the version, or the query: everything after `--`, or everything from the first word on.
Main statement: a request that is not refused is the one that the grammar gives.
-/

set_option autoImplicit false
set_option relaxedAutoImplicit false

namespace BooleanSearch

inductive Choice where
  | caseSensitive
  | explain
  | color (on : Bool)
  | verbose (amount : Nat)
  | token (op : Operator) (token : Text)
  deriving DecidableEq

/-- The ways to write an option. A token is not empty: it is the next argument, whatever that looks
like, or follows the option in the same argument, where the option may be repeated before it. -/
inductive Choice.IsWritten : Choice → List Text → Prop
  | caseShort : IsWritten .caseSensitive ["-c".toList]
  | caseLong : IsWritten .caseSensitive ["--case-sensitive".toList]
  | explain : IsWritten .explain ["--explain".toList]
  | color : IsWritten (.color true) ["--color".toList]
  | noColor : IsWritten (.color false) ["--no-color".toList]
  | verbose : IsWritten (.verbose 1) ["-v".toList]
  | veryVerbose : IsWritten (.verbose 2) ["-vv".toList]
  | tokenApart (op : Operator) {token : Text} (h : token ≠ []) :
      IsWritten (.token op token) [tokenOption op, token]
  | tokenAttached (op : Operator) (repeats : Nat) {token : Text} (h : token ≠ [])
      (hrest : ¬ tokenOptionWithValue op <+: token) :
      IsWritten (.token op token)
        [tokenOptionWithValue op ++
          ((List.replicate repeats (tokenOptionWithValue op)).flatten ++ token)]

inductive AreWritten : List Choice → List Text → Prop
  | nil : AreWritten [] []
  | cons {choice : Choice} {choices : List Choice} {words args : List Text}
      (h : choice.IsWritten words) (hrest : AreWritten choices args) :
      AreWritten (choice :: choices) (words ++ args)

def IsWord (arg : Text) : Prop := arg = [] ∨ arg = ['-'] ∨ arg.head? ≠ some '-'

def helpFlags : List Text := ["-h".toList, "--help".toList]

def versionFlags : List Text := ["-V".toList, "--version".toList]

inductive GivesQuery : List Text → Text → Prop
  | marked (words : List Text) : GivesQuery ("--".toList :: words) (joinWords words)
  | unmarked {word : Text} (words : List Text) (h : IsWord word) :
      GivesQuery (word :: words) (joinWords (word :: words))

/-- The arguments after the options ask for this under the settings. -/
inductive Ending (settings : Settings) : List Text → Request → Prop
  | help {flag : Text} (args : List Text) (h : flag ∈ helpFlags) :
      Ending settings (flag :: args) .help
  | version {flag : Text} (args : List Text) (h : flag ∈ versionFlags) :
      Ending settings (flag :: args) .version
  | search {args : List Text} {query : Text} (h : GivesQuery args query) :
      Ending settings args (.search settings query)

namespace Ending

variable {settings settings' : Settings} {args : List Text} {query : Text}

theorem help_iff : Ending settings args .help ↔ ∃ flag ∈ args.head?, flag ∈ helpFlags := by
  constructor
  · intro h
    cases h with
    | help args h => exact ⟨_, rfl, h⟩
  · intro h
    obtain ⟨flag, hhead, hflag⟩ := h
    obtain ⟨rest, rfl⟩ := List.head?_eq_some_iff.1 hhead
    exact .help rest hflag

theorem version_iff : Ending settings args .version ↔ ∃ flag ∈ args.head?, flag ∈ versionFlags := by
  constructor
  · intro h
    cases h with
    | version args h => exact ⟨_, rfl, h⟩
  · intro h
    obtain ⟨flag, hhead, hflag⟩ := h
    obtain ⟨rest, rfl⟩ := List.head?_eq_some_iff.1 hhead
    exact .version rest hflag

theorem search_iff : Ending settings args (.search settings' query) ↔
    GivesQuery args query ∧ settings' = settings := by
  constructor
  · intro h
    cases h with
    | search h => exact ⟨h, rfl⟩
  · intro h
    obtain ⟨h, rfl⟩ := h
    exact .search h

end Ending

def Settings.choose (settings : Settings) : Choice → Settings
  | .caseSensitive => { settings with caseMode := .sensitive }
  | .explain => { settings with explain := true }
  | .color on => { settings with color := on }
  | .verbose amount => { settings with verbosity := min 255 (settings.verbosity + amount) }
  | .token op token => settings.withToken op token

def Settings.chooseAll (settings : Settings) (choices : List Choice) : Settings :=
  choices.foldl choose settings

/-- The arguments are options and then an ending that asks for this. -/
def Settings.Reads (settings : Settings) (args : List Text) (request : Request) : Prop :=
  ∃ choices options rest, args = options ++ rest ∧ AreWritten choices options ∧
    Ending (settings.chooseAll choices) rest request

theorem tokenOptionWithValue_ne_nil (op : Operator) : tokenOptionWithValue op ≠ [] := by
  cases op <;> exact List.cons_ne_nil _ _

namespace Argument

private theorem ofText_tokenOption (op : Operator) : ofText (tokenOption op) = .token op := by
  cases op <;> rfl

private theorem ofText_tokenOptionWithValue (op : Operator) (text : Text) :
    ofText (tokenOptionWithValue op ++ text) =
      .tokenIs op (stripRepeated (tokenOptionWithValue op) text) := by
  rw [← stripRepeated_append (tokenOptionWithValue_ne_nil op)]
  cases op <;> simp [ofText, tokenOptionWithValue, tokenOption]

private theorem ofText_of_isWord {arg : Text} (h : IsWord arg) : ofText arg = .word := by
  rcases h with rfl | rfl | h
  · rfl
  · rfl
  · cases arg with
    | nil => rfl
    | cons c arg =>
      have hc : c ≠ '-' := by simpa using h
      simp [ofText, tokenOption, tokenOptionWithValue, hc, hc.symm]

private theorem ofText_of_mem_helpFlags {flag : Text} (h : flag ∈ helpFlags) :
    ofText flag = .help := by
  obtain rfl | rfl : flag = "-h".toList ∨ flag = "--help".toList := by simpa [helpFlags] using h
  · rfl
  · rfl

private theorem ofText_of_mem_versionFlags {flag : Text} (h : flag ∈ versionFlags) :
    ofText flag = .version := by
  obtain rfl | rfl : flag = "-V".toList ∨ flag = "--version".toList := by
    simpa [versionFlags] using h
  · rfl
  · rfl

def IsReadFrom (arg : Text) : Argument → Prop
  | .help => arg ∈ helpFlags
  | .version => arg ∈ versionFlags
  | .caseSensitive => Choice.caseSensitive.IsWritten [arg]
  | .explain => Choice.explain.IsWritten [arg]
  | .color on => (Choice.color on).IsWritten [arg]
  | .verbose amount => (Choice.verbose amount).IsWritten [arg]
  | .token op => arg = tokenOption op
  | .tokenIs op value => value ≠ [] → (Choice.token op value).IsWritten [arg]
  | .endOfOptions => arg = "--".toList
  | .unknown => True
  | .word => IsWord arg

private theorem isReadFrom_tokenIs {op : Operator} {arg : Text}
    (h : tokenOptionWithValue op <+: arg) :
    IsReadFrom arg (.tokenIs op (stripRepeated (tokenOptionWithValue op) arg)) := by
  intro hne
  obtain ⟨text, rfl⟩ := h
  rw [stripRepeated_append (tokenOptionWithValue_ne_nil op)] at hne ⊢
  obtain ⟨repeats, htext, hrest⟩ :=
    exists_replicate_append_stripRepeated (tokenOptionWithValue_ne_nil op) text
  have hwritten := Choice.IsWritten.tokenAttached op repeats hne hrest
  rwa [← htext] at hwritten

private theorem isReadFrom_ite {arg : Text} {p : Prop} [Decidable p] {yes no : Argument}
    (hyes : p → IsReadFrom arg yes) (hno : ¬ p → IsReadFrom arg no) :
    IsReadFrom arg (if p then yes else no) := by
  split
  · exact hyes ‹p›
  · exact hno ‹¬ p›

private theorem isReadFrom_ofText (arg : Text) : IsReadFrom arg (ofText arg) := by
  refine isReadFrom_ite (fun h => ?help) fun _ => isReadFrom_ite (fun h => ?version) fun _ =>
    isReadFrom_ite (fun h => ?caseSensitive) fun _ => isReadFrom_ite (fun h => ?explain) fun _ =>
    isReadFrom_ite (fun h => ?color) fun _ => isReadFrom_ite (fun h => ?noColor) fun _ =>
    isReadFrom_ite (fun h => ?verbose) fun _ => isReadFrom_ite (fun h => ?veryVerbose) fun _ =>
    isReadFrom_ite (fun h => h) fun _ => isReadFrom_ite (fun h => h) fun _ =>
    isReadFrom_ite (fun h => h) fun _ => isReadFrom_ite (fun h => ?andIs) fun _ =>
    isReadFrom_ite (fun h => ?orIs) fun _ => isReadFrom_ite (fun _ => trivial) fun h => ?word
  case help => simpa [IsReadFrom, helpFlags] using h
  case version => simpa [IsReadFrom, versionFlags] using h
  case caseSensitive =>
    rcases h with rfl | rfl
    · exact .caseShort
    · exact .caseLong
  case explain => exact h ▸ .explain
  case color => exact h ▸ .color
  case noColor => exact h ▸ .noColor
  case verbose => exact h ▸ .verbose
  case veryVerbose => exact h ▸ .veryVerbose
  case andIs => exact isReadFrom_tokenIs (List.isPrefixOf_iff_prefix.1 h)
  case orIs => exact isReadFrom_tokenIs (List.isPrefixOf_iff_prefix.1 h)
  case word =>
    by_cases hdash : arg = ['-']
    · exact .inr (.inl hdash)
    · exact .inr (.inr fun hhead => h ⟨hhead, hdash⟩)

private theorem isReadFrom_of_eq {arg : Text} {argument : Argument} (h : ofText arg = argument) :
    IsReadFrom arg argument := h ▸ isReadFrom_ofText arg

end Argument

theorem Request.ofArguments_tokenOption (settings : Settings) (op : Operator) (token : Text)
    (args : List Text) :
    ofArguments settings (tokenOption op :: token :: args) =
      if token = [] then .refuse (.emptyToken op)
      else ofArguments (settings.withToken op token) args := by
  rw [ofArguments, Argument.ofText_tokenOption]

theorem Request.ofArguments_tokenOptionWithValue (settings : Settings) (op : Operator)
    (token : Text) (args : List Text) :
    ofArguments settings ((tokenOptionWithValue op ++ token) :: args) =
      ofArguments settings
        (tokenOption op :: stripRepeated (tokenOptionWithValue op) token :: args) := by
  rw [ofArguments_tokenOption, ofArguments, Argument.ofText_tokenOptionWithValue]

namespace Settings

variable {settings : Settings} {args : List Text} {request : Request}

private theorem ofArguments_append_of_isWritten {choice : Choice} {words : List Text}
    (h : choice.IsWritten words) (settings : Settings) (args : List Text) :
    Request.ofArguments settings (words ++ args) =
      Request.ofArguments (settings.choose choice) args := by
  cases h with
  | tokenApart op h => exact (Request.ofArguments_tokenOption settings op _ args).trans (if_neg h)
  | tokenAttached op repeats h hrest =>
    have hstrip :=
      stripRepeated_replicate_append (tokenOptionWithValue_ne_nil op) hrest repeats
    rw [List.singleton_append, Request.ofArguments_tokenOptionWithValue, hstrip]
    exact (Request.ofArguments_tokenOption settings op _ args).trans (if_neg h)
  | _ => rfl

theorem ofArguments_append_of_areWritten {choices : List Choice} {options : List Text}
    (h : AreWritten choices options) (settings : Settings) (args : List Text) :
    Request.ofArguments settings (options ++ args) =
      Request.ofArguments (settings.chooseAll choices) args := by
  induction h generalizing settings with
  | nil => rfl
  | cons hwritten _ ih => rw [List.append_assoc, ofArguments_append_of_isWritten hwritten, ih]; rfl

private theorem ofArguments_of_ending (h : Ending settings args request) :
    Request.ofArguments settings args = request := by
  cases h with
  | help args h => rw [Request.ofArguments, Argument.ofText_of_mem_helpFlags h]
  | version args h => rw [Request.ofArguments, Argument.ofText_of_mem_versionFlags h]
  | search h =>
    cases h with
    | marked words => rfl
    | unmarked words h => rw [Request.ofArguments, Argument.ofText_of_isWord h]

private theorem Reads.ofArguments_eq (h : settings.Reads args request) :
    Request.ofArguments settings args = request := by
  obtain ⟨choices, options, rest, rfl, hwritten, hending⟩ := h
  rw [ofArguments_append_of_areWritten hwritten, ofArguments_of_ending hending]

private theorem Reads.of_ending (h : Ending settings args request) : settings.Reads args request :=
  ⟨[], [], args, rfl, .nil, h⟩

private theorem Reads.cons {choice : Choice} {words : List Text} (h : choice.IsWritten words)
    (hreads : (settings.choose choice).Reads args request) :
    settings.Reads (words ++ args) request := by
  obtain ⟨choices, options, rest, rfl, hwritten, hending⟩ := hreads
  exact ⟨choice :: choices, words ++ options, rest, (List.append_assoc _ _ _).symm,
    .cons h hwritten, hending⟩

private theorem reads_or_refuse (settings : Settings) (args : List Text) :
    settings.Reads args (Request.ofArguments settings args) ∨
      ∃ error, Request.ofArguments settings args = .refuse error := by
  fun_induction Request.ofArguments settings args with
  | case1 settings => exact .inr ⟨_, rfl⟩
  | case2 settings arg args h =>
    have hflag : arg ∈ helpFlags := Argument.isReadFrom_of_eq h
    exact .inl (.of_ending (.help args hflag))
  | case3 settings arg args h =>
    have hflag : arg ∈ versionFlags := Argument.isReadFrom_of_eq h
    exact .inl (.of_ending (.version args hflag))
  | case4 settings arg args h ih =>
    have hwritten : Choice.caseSensitive.IsWritten [arg] := Argument.isReadFrom_of_eq h
    exact ih.imp_left (Reads.cons hwritten)
  | case5 settings arg args h ih =>
    have hwritten : Choice.explain.IsWritten [arg] := Argument.isReadFrom_of_eq h
    exact ih.imp_left (Reads.cons hwritten)
  | case6 settings arg args on h ih =>
    have hwritten : (Choice.color on).IsWritten [arg] := Argument.isReadFrom_of_eq h
    exact ih.imp_left (Reads.cons hwritten)
  | case7 settings arg args amount h ih =>
    have hwritten : (Choice.verbose amount).IsWritten [arg] := Argument.isReadFrom_of_eq h
    exact ih.imp_left (Reads.cons hwritten)
  | case8 settings arg op h => exact .inr ⟨_, rfl⟩
  | case9 settings arg op h args => exact .inr ⟨_, rfl⟩
  | case10 settings arg op h token args hne ih =>
    obtain rfl : arg = tokenOption op := Argument.isReadFrom_of_eq h
    exact ih.imp_left (Reads.cons (.tokenApart op hne))
  | case11 settings arg args op h => exact .inr ⟨_, rfl⟩
  | case12 settings arg args op token h hne ih =>
    have hwritten : (Choice.token op token).IsWritten [arg] := Argument.isReadFrom_of_eq h hne
    exact ih.imp_left (Reads.cons hwritten)
  | case13 settings arg args h =>
    obtain rfl : arg = "--".toList := Argument.isReadFrom_of_eq h
    exact .inl (.of_ending (.search (.marked args)))
  | case14 settings arg args h => exact .inr ⟨_, rfl⟩
  | case15 settings arg args h =>
    have hword : IsWord arg := Argument.isReadFrom_of_eq h
    exact .inl (.of_ending (.search (.unmarked args hword)))

/-- The grammar gives exactly the requests that are not refused. -/
theorem reads_iff : settings.Reads args request ↔
    Request.ofArguments settings args = request ∧ ∀ error, request ≠ .refuse error := by
  constructor
  · intro h
    refine ⟨h.ofArguments_eq, ?_⟩
    obtain ⟨choices, options, rest, -, -, hending⟩ := h
    intro error
    cases hending <;> exact Request.noConfusion
  · intro h
    obtain ⟨rfl, hnot⟩ := h
    rcases reads_or_refuse settings args with hreads | ⟨error, herror⟩
    · exact hreads
    · exact absurd herror (hnot error)

end Settings

end BooleanSearch
