import BooleanSearch.Proofs.Query.Scan
import BooleanSearch.Proofs.Searcher.Coherence
import Mathlib.Data.List.Induction

set_option autoImplicit false
set_option relaxedAutoImplicit false

namespace BooleanSearch

/-- The token that a call gives for an operator; an empty one is not given. -/
def Call.givenToken? (op : Operator) : Call → Option Text
  | .replaceTokens and or =>
    match op with
    | .and => and.filter (· ≠ [])
    | .or => or.filter (· ≠ [])
  | _ => none

/-- The last token given for an operator by the calls, or the one before them. -/
def tokenAfter (op : Operator) (before : Text) (calls : List Call) : Text :=
  (calls.filterMap (Call.givenToken? op)).getLast?.getD before

def byteSize (text : Text) : Nat := (String.ofList text).utf8ByteSize

private theorem byteSize_append (text rest : Text) :
    byteSize (text ++ rest) = byteSize text + byteSize rest := by
  rw [byteSize, String.ofList_append, String.utf8ByteSize_append]
  rfl

private theorem Call.ne_nil_of_givenToken? {op : Operator} {call : Call} {token : Text}
    (h : call.givenToken? op = some token) : token ≠ [] := by
  cases call with
  | replaceTokens and or =>
    cases op with
    | and => simpa using (Option.filter_eq_some_iff.1 h).2
    | or => simpa using (Option.filter_eq_some_iff.1 h).2
  | _ => exact absurd h (by simp [Call.givenToken?])

theorem getLast?_filterMap_concat {α β : Type} (f : α → Option β) (l : List α) (a : α) :
    ((l ++ [a]).filterMap f).getLast? = (f a).or (l.filterMap f).getLast? := by
  cases h : f a <;> simp [h]

private theorem tokenAfter_concat (op : Operator) (before : Text) (calls : List Call)
    (call : Call) :
    tokenAfter op before (calls ++ [call]) =
      (call.givenToken? op).getD (tokenAfter op before calls) := by
  rw [tokenAfter, tokenAfter, getLast?_filterMap_concat]
  cases call.givenToken? op <;> rfl

private theorem tokenAfter_ne_nil {op : Operator} {before : Text} (h : before ≠ [])
    (calls : List Call) :
    tokenAfter op before calls ≠ [] := by
  rw [tokenAfter]
  cases hlast : (calls.filterMap (Call.givenToken? op)).getLast? with
  | none => exact h
  | some token =>
    obtain ⟨call, -, hgiven⟩ := List.mem_filterMap.1 (List.mem_of_getLast? hlast)
    exact Call.ne_nil_of_givenToken? hgiven

theorem Searcher.token_optionsAfter (op : Operator) (options : Options) (call : Call) :
    (optionsAfter options call).tokens.token op =
      (call.givenToken? op).getD (options.tokens.token op) := by
  cases call with
  | replaceTokens and or =>
    cases op with
    | and =>
      change ((options.tokens.replace .and and).replace .or or).token .and = _
      rw [Tokens.token_replace_of_ne (by simp), Tokens.token_replace_self]
      rfl
    | or =>
      change ((options.tokens.replace .and and).replace .or or).token .or = _
      rw [Tokens.token_replace_self, Tokens.token_replace_of_ne (by simp)]
      rfl
  | _ => rfl

private theorem Searcher.token_run [Engine] (op : Operator) (searcher : Searcher)
    (calls : List Call) :
    (searcher.run calls).options.tokens.token op =
      tokenAfter op (searcher.options.tokens.token op) calls := by
  rw [run_options]
  induction calls using List.reverseRecOn with
  | nil => rfl
  | append_singleton calls call ih =>
    rw [List.foldl_append, List.foldl_cons, List.foldl_nil, token_optionsAfter, ih,
      tokenAfter_concat]

/-- The scan of a text ends exactly if no token is empty. Whatever was called, each token of a
searcher is the last one given for it, and none is empty. Hence every round of a scan leaves less
of the text, the scan ends with the cut of the text and with nothing else, and a query has room for
the smaller token once for each of its operators, counted in characters or in bytes. -/
theorem Searcher.scans_after_run [Engine] (options : Options) (and or : Text) (calls : List Call)
    (hnew : Tokens.ofTexts and or = .ok options.tokens) :
    let tokens := (({ options } : Searcher).run calls).options.tokens
    (∀ token text, (∃ chain, Scans token text chain) ↔ ∀ op, token op ≠ []) ∧
      (tokens.and = tokenAfter .and and calls ∧ tokens.or = tokenAfter .or or calls) ∧
      (∀ op, tokens.token op ≠ []) ∧
      (∀ text n op, firstToken? tokens.token text = some (n, op) →
        (text.drop (n + (tokens.token op).length)).length < text.length) ∧
      (∀ text chain, Scans tokens.token text chain ↔ chain = tokens.split text) ∧
      ∀ query, ∀ segments ∈ Segments.ofText? tokens (trim query),
        let count := (operators segments.pieces).length
        count * min tokens.and.length tokens.or.length ≤ (trim query).length ∧
          count * min (byteSize tokens.and) (byteSize tokens.or) ≤ byteSize (trim query) := by
  intro tokens
  obtain ⟨⟨hand, hor⟩, rfl, rfl⟩ := Tokens.ofTexts_eq_ok_iff.1 hnew
  have htoken : ∀ op, tokens.token op = tokenAfter op (options.tokens.token op) calls :=
    fun op => token_run op { options } calls
  have hne : ∀ op, tokens.token op ≠ [] := by
    intro op
    rw [htoken]
    cases op
    · exact tokenAfter_ne_nil hand calls
    · exact tokenAfter_ne_nil hor calls
  refine ⟨fun _ _ => exists_scans_iff, ⟨htoken .and, htoken .or⟩, hne, ?_, ?_, ?_⟩
  · intro text n op hfirst
    exact length_drop_lt_of_firstToken? hfirst (hne op)
  · intro text chain
    constructor
    · intro hscans
      exact hscans.unique (tokens.scans_split text)
    · rintro rfl
      exact tokens.scans_split text
  · intro query segments hsegments count
    have hlength := Segments.length_operators_mul_le (fun _ _ => List.length_append) hsegments
    exact ⟨hlength, Segments.length_operators_mul_le byteSize_append hsegments⟩

def callsWithEmptyTokens : List Call :=
  [.replaceTokens (some []) (some "aa".toList), .filter [] "x".toList,
    .replaceTokens (some "aaa".toList) (some [])]

theorem Searcher.scans_five_letters :
    let tokens := (({} : Searcher).run callsWithEmptyTokens).options.tokens
    let chain : Chain Text := .link [] .and (.link [] .or (.last []))
    Tokens.ofTexts " && ".toList " || ".toList = .ok ({} : Options).tokens ∧
      tokens.and = "aaa".toList ∧ tokens.or = "aa".toList ∧
      Scans tokens.token "aaaaa".toList chain ∧
      Segments.ofChain chain ∈ Segments.ofText? tokens (trim " aaaaa ".toList) ∧
      (operators chain.pieces).length * min tokens.and.length tokens.or.length ≤
        (trim " aaaaa ".toList).length := by
  intro tokens chain
  have hnew : Tokens.ofTexts " && ".toList " || ".toList = .ok ({} : Options).tokens := by decide
  obtain ⟨-, ⟨hand, hor⟩, -, -, hscans, hroom⟩ := scans_after_run {} _ _ callsWithEmptyTokens hnew
  have htrim : trim " aaaaa ".toList = "aaaaa".toList := by decide
  have htokens : tokens = ⟨"aaa".toList, "aa".toList, by decide, by decide⟩ := by
    change (({} : Searcher).run callsWithEmptyTokens).options.tokens = _
    rw [run_options]
    rfl
  have hsplit : tokens.split "aaaaa".toList = chain := by
    rw [htokens]
    decide +kernel
  have hsegments : Segments.ofChain chain ∈ Segments.ofText? tokens (trim " aaaaa ".toList) := by
    rw [htrim, Segments.ofText?_of_ne_nil (by decide), hsplit]
    rfl
  refine ⟨hnew, hand.trans (by decide), hor.trans (by decide), ?_, hsegments, ?_⟩
  · exact (hscans _ _).2 hsplit.symm
  · exact (hroom _ _ hsegments).1

end BooleanSearch
