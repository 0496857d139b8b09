import BooleanSearch.Query.Tokens
import BooleanSearch.Searcher.Basic

/-!
# Reading the arguments

Arguments are options until the first word or `--`; everything from there on is the query, joined by
single spaces. An operator token is given by `--and` or `--or` with the next argument, whatever it
looks like, or in one argument after `=`.
-/

set_option autoImplicit false
set_option relaxedAutoImplicit false

namespace BooleanSearch

/-- What one argument says by itself. -/
inductive Argument where
  | help
  | version
  | caseSensitive
  | explain
  | color (on : Bool)
  | verbose (amount : Nat)
  /-- The next argument is the token of the operator. -/
  | token (op : Operator)
  /-- The token of the operator. -/
  | tokenIs (op : Operator) (token : Text)
  /-- What follows is the query. -/
  | endOfOptions
  /-- It looks like an option but is none. -/
  | unknown
  /-- The query starts here. -/
  | word
  deriving DecidableEq

def tokenOption : Operator → Text
  | .and => "--and".toList
  | .or => "--or".toList

def tokenOptionWithValue (op : Operator) : Text := tokenOption op ++ ['=']

/-- Read one argument by itself. An option written several times before its token counts as
written once. -/
def Argument.ofText (arg : Text) : Argument :=
  if arg = "-h".toList ∨ arg = "--help".toList then .help
  else if arg = "-V".toList ∨ arg = "--version".toList then .version
  else if arg = "-c".toList ∨ arg = "--case-sensitive".toList then .caseSensitive
  else if arg = "--explain".toList then .explain
  else if arg = "--color".toList then .color true
  else if arg = "--no-color".toList then .color false
  else if arg = "-v".toList then .verbose 1
  else if arg = "-vv".toList then .verbose 2
  else if arg = tokenOption .and then .token .and
  else if arg = tokenOption .or then .token .or
  else if arg = "--".toList then .endOfOptions
  else if (tokenOptionWithValue .and).isPrefixOf arg then
    .tokenIs .and (stripRepeated (tokenOptionWithValue .and) arg)
  else if (tokenOptionWithValue .or).isPrefixOf arg then
    .tokenIs .or (stripRepeated (tokenOptionWithValue .or) arg)
  else if arg.head? = some '-' ∧ arg ≠ ['-'] then .unknown
  else .word

/-- What is wrong with an argument list. A second query is not among it: the first one takes all the
arguments that are left, so there is none. -/
inductive ArgumentError where
  | missingToken (op : Operator)
  | emptyToken (op : Operator)
  | unknownOption (arg : Text)
  | missingQuery
  deriving DecidableEq

structure Settings where
  and : Option Text := none
  or : Option Text := none
  caseMode : CaseMode := .insensitive
  explain : Bool := false
  color : Bool := false
  /-- How much is logged, at most 255; nothing else depends on it. -/
  verbosity : Nat := 0
  deriving DecidableEq

namespace Settings

def withToken (settings : Settings) (op : Operator) (token : Text) : Settings :=
  match op with
  | .and => { settings with and := some token }
  | .or => { settings with or := some token }

def searcher (settings : Settings) : Searcher :=
  (({} : Searcher).replaceTokens settings.and settings.or).setCaseMode settings.caseMode

end Settings

inductive Request where
  | help
  | version
  | search (settings : Settings) (query : Text)
  | refuse (error : ArgumentError)
  deriving DecidableEq

def joinWords (words : List Text) : Text := [' '].intercalate words

/-- Read the arguments that are left, under the settings made by those before them. -/
def Request.ofArguments (settings : Settings) : List Text → Request
  | [] => .refuse .missingQuery
  | arg :: args =>
    match Argument.ofText arg with
    | .help => .help
    | .version => .version
    | .caseSensitive => ofArguments { settings with caseMode := .sensitive } args
    | .explain => ofArguments { settings with explain := true } args
    | .color on => ofArguments { settings with color := on } args
    | .verbose amount =>
      ofArguments { settings with verbosity := min 255 (settings.verbosity + amount) } args
    | .token op =>
      match args with
      | [] => .refuse (.missingToken op)
      | token :: args =>
        if token = [] then .refuse (.emptyToken op)
        else ofArguments (settings.withToken op token) args
    | .tokenIs op token =>
      if token = [] then .refuse (.emptyToken op)
      else ofArguments (settings.withToken op token) args
    | .endOfOptions => .search settings (joinWords args)
    | .unknown => .refuse (.unknownOption arg)
    | .word => .search settings (joinWords (arg :: args))

end BooleanSearch
