import BooleanSearch.Proofs.CommandLine.Grammar

set_option autoImplicit false
set_option relaxedAutoImplicit false

namespace BooleanSearch

def tokenApart (op : Operator) (token : Text) (before after : List Text) : List Text :=
  before ++ tokenOption op :: token :: after

def tokenAttached (op : Operator) (token : Text) (before after : List Text) : List Text :=
  before ++ (tokenOptionWithValue op ++ token) :: after

/-- The token that is left when the option is dropped from its front. -/
def attachedToken (op : Operator) (token : Text) : Text :=
  stripRepeated (tokenOptionWithValue op) token

private theorem not_isPrefix_attachedToken (op : Operator) (token : Text) :
    ¬ tokenOptionWithValue op <+: attachedToken op token := by
  obtain ⟨_, -, hnot⟩ :=
    exists_replicate_append_stripRepeated (tokenOptionWithValue_ne_nil op) token
  exact hnot

private theorem attachedToken_eq_self {op : Operator} {token : Text}
    (h : ¬ tokenOptionWithValue op <+: token) : attachedToken op token = token :=
  stripRepeated_of_not_isPrefix h

private theorem Settings.withToken_injective {settings : Settings} {op : Operator}
    {token token' : Text}
    (h : settings.withToken op token = settings.withToken op token') : token = token' := by
  cases op with
  | and => exact Option.some_inj.1 (congrArg Settings.and h)
  | or => exact Option.some_inj.1 (congrArg Settings.or h)

namespace Request

variable {choices : List Choice} {before : List Text}

private theorem ofArguments_tokenAttached (h : AreWritten choices before) (settings : Settings)
    (op : Operator) (token : Text) (after : List Text) :
    ofArguments settings (tokenAttached op token before after) =
      ofArguments settings (tokenApart op (attachedToken op token) before after) := by
  rw [tokenAttached, tokenApart, Settings.ofArguments_append_of_areWritten h,
    Settings.ofArguments_append_of_areWritten h, ofArguments_tokenOptionWithValue]
  rfl

private theorem ofArguments_tokenApart (h : AreWritten choices before) (settings : Settings)
    {op : Operator} {token : Text} (htoken : token ≠ []) (after : List Text) :
    ofArguments settings (tokenApart op token before after) =
      ofArguments ((settings.chooseAll choices).withToken op token) after := by
  rw [tokenApart, Settings.ofArguments_append_of_areWritten h, ofArguments_tokenOption,
    if_neg htoken]

private theorem eq_of_ofArguments_tokenApart {settings : Settings} {op : Operator}
    {token token' : Text} (h : ofArguments settings (tokenApart op token [] ["--".toList]) =
      ofArguments (settings.withToken op token') ["--".toList]) : token ≠ [] ∧ token = token' := by
  have hsearch : ∀ settings : Settings,
      ofArguments settings ["--".toList] = .search settings (joinWords []) := fun _ => rfl
  rw [tokenApart, List.nil_append, ofArguments_tokenOption, hsearch] at h
  by_cases hempty : token = []
  · rw [if_pos hempty] at h
    exact Request.noConfusion h
  · rw [if_neg hempty, hsearch] at h
    exact ⟨hempty, Settings.withToken_injective (Request.search.inj h).1⟩

/-- Apart, a token that is not empty is set as it stands. Attached, it is read without the options
at its front; so the two forms ask for the same, wherever among valid options they stand and
whatever follows, exactly if the token does not start with the option, and no other token can be
set so. -/
theorem ofArguments_tokenAttached_eq_iff (op : Operator) (token : Text) :
    (∀ settings choices before after, AreWritten choices before →
        ofArguments settings (tokenAttached op token before after) =
            ofArguments settings (tokenApart op (attachedToken op token) before after) ∧
          (token ≠ [] → ofArguments settings (tokenApart op token before after) =
            ofArguments ((settings.chooseAll choices).withToken op token) after)) ∧
      ((∀ settings choices before after, AreWritten choices before →
          ofArguments settings (tokenAttached op token before after) =
            ofArguments settings (tokenApart op token before after)) ↔
        ¬ tokenOptionWithValue op <+: token) ∧
      ((∃ given, ∀ settings choices before after, AreWritten choices before →
          ofArguments settings (tokenAttached op given before after) =
            ofArguments ((settings.chooseAll choices).withToken op token) after) ↔
        token ≠ [] ∧ ¬ tokenOptionWithValue op <+: token) := by
  refine ⟨?_, ⟨?_, ?_⟩, ?_, ?_⟩
  · intro settings choices before after hwritten
    exact ⟨ofArguments_tokenAttached hwritten settings op token after,
      fun htoken => ofArguments_tokenApart hwritten settings htoken after⟩
  · intro h hstart
    have hne : token ≠ [] := by
      rintro rfl
      exact tokenOptionWithValue_ne_nil op (List.prefix_nil.1 hstart)
    have hsame := h {} [] [] ["--".toList] .nil
    rw [ofArguments_tokenAttached .nil, ofArguments_tokenApart .nil {} hne] at hsame
    obtain ⟨-, htoken⟩ := eq_of_ofArguments_tokenApart hsame
    have hnot := not_isPrefix_attachedToken op token
    rw [htoken] at hnot
    exact hnot hstart
  · intro hnot settings choices before after hwritten
    rw [ofArguments_tokenAttached hwritten, attachedToken_eq_self hnot]
  · rintro ⟨given, h⟩
    have hset := h {} [] [] ["--".toList] .nil
    rw [ofArguments_tokenAttached .nil] at hset
    obtain ⟨hne, rfl⟩ := eq_of_ofArguments_tokenApart hset
    exact ⟨hne, not_isPrefix_attachedToken op given⟩
  · rintro ⟨hne, hnot⟩
    refine ⟨token, fun settings choices before after hwritten => ?_⟩
    rw [ofArguments_tokenAttached hwritten, attachedToken_eq_self hnot,
      ofArguments_tokenApart hwritten settings hne]

theorem ofArguments_or_x_after_case :
    ofArguments {} (tokenAttached .and "--or=x".toList ["-c".toList] ["q".toList]) =
      .search { and := some "--or=x".toList, caseMode := .sensitive } "q".toList := by
  have hnot : ¬ tokenOptionWithValue .and <+: "--or=x".toList := by decide
  have hwritten : AreWritten [.caseSensitive] ["-c".toList] := .cons .caseShort .nil
  obtain ⟨hforms, hsame, -⟩ := ofArguments_tokenAttached_eq_iff .and "--or=x".toList
  obtain ⟨-, hset⟩ := hforms {} _ _ ["q".toList] hwritten
  rw [hsame.2 hnot {} _ _ _ hwritten, hset (List.cons_ne_nil _ _)]
  rfl

/-- A token that starts with its own option: attached, it is set without it. -/
theorem ofArguments_tokenAttached_ne :
    ofArguments {} ["--and=--and=x".toList, "a--and=xb".toList] =
        .search { and := some "x".toList } "a--and=xb".toList ∧
      ofArguments {} ["--and".toList, "--and=x".toList, "a--and=xb".toList] =
        .search { and := some "--and=x".toList } "a--and=xb".toList := by
  have hleft : attachedToken .and "--and=x".toList = "x".toList := by
    have hnot : ¬ tokenOptionWithValue .and <+: "x".toList := by decide
    exact stripRepeated_replicate_append (tokenOptionWithValue_ne_nil .and) hnot 1
  refine ⟨?_, rfl⟩
  change ofArguments {} (tokenAttached .and "--and=x".toList [] ["a--and=xb".toList]) = _
  rw [ofArguments_tokenAttached .nil, hleft]
  rfl

end Request

end BooleanSearch
