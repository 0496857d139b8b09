import BooleanSearch.Condition.Basic

/-!
# Remembered conditions

A searcher remembers the condition of every query that compiled, under the text of the query as it
was given, blanks at the ends included. It counts how often a query was known, how often it was not,
and how often everything was forgotten.
-/

set_option autoImplicit false
set_option relaxedAutoImplicit false

namespace BooleanSearch

structure Stats where
  hits : Nat
  misses : Nat
  resets : Nat
  entries : Nat
  deriving DecidableEq

/-- The conditions of known queries, the latest first, and the counts. -/
structure Memo where
  entries : List (Text × Option Condition) := []
  hits : Nat := 0
  misses : Nat := 0
  resets : Nat := 0

namespace Memo

/-- What is known about a query: nothing, or its condition if it has one. -/
def find? (memo : Memo) (query : Text) : Option (Option Condition) := memo.entries.lookup query

def hit (memo : Memo) : Memo := { memo with hits := memo.hits + 1 }

def miss (memo : Memo) : Memo := { memo with misses := memo.misses + 1 }

def learn (memo : Memo) (query : Text) (condition : Option Condition) : Memo :=
  { memo.miss with entries := (query, condition) :: memo.entries }

/-- Forget all conditions; the counts stay. -/
def reset (memo : Memo) : Memo := { memo with entries := [], resets := memo.resets + 1 }

def stats (memo : Memo) : Stats :=
  ⟨memo.hits, memo.misses, memo.resets, memo.entries.length⟩

end Memo

end BooleanSearch
