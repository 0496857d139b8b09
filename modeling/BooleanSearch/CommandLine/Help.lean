import BooleanSearch.CommandLine.Arguments

set_option autoImplicit false
set_option relaxedAutoImplicit false

namespace BooleanSearch

def versionText : Text := "boolsift 0.1.0".toList

def helpText : Text :=
  versionText ++ "

Filter stdin lines with a boolean search expression.

Usage:
  boolsift [OPTIONS] [--] <query...>

Query syntax:
  Literal terms joined by operator tokens, e.g. \"red && fast || blue\".
  Runs of the same operator are grouped together; each whitespace character
  in a term matches a run of whitespace. An empty query matches every line.

Options:
  --and <token>              AND token. Default: \"".toList ++ Tokens.standard.and ++ "\"
  --or <token>               OR token. Default: \"".toList ++ Tokens.standard.or ++ "\"
  -c, --case-sensitive       Match letter case exactly.
  --explain                  Print how the query compiles instead of filtering.
  --color                    Force ANSI color output.
  --no-color                 Disable ANSI color output.
  -v, -vv                    Log compilation (debug) and cache hits (trace) to stderr.
  -h, --help                 Show this help message.
  -V, --version              Print version information.

Exit codes:
  0  At least one line matched (or --explain succeeded).
  1  No line matched, or an I/O or compilation error.
  2  Invalid arguments or missing query.
".toList

/-- The message about a wrong argument list; without a query, the help text follows. -/
def ArgumentError.message : ArgumentError → Text
  | .missingToken op => "error: ".toList ++ tokenOption op ++ " expects a value".toList
  | .emptyToken op => "error: ".toList ++ tokenOption op ++ " expects a non-empty token".toList
  | .unknownOption arg => "error: unknown option '".toList ++ arg ++ "'".toList
  | .missingQuery => "error: no query provided\n\n".toList ++ helpText

end BooleanSearch
