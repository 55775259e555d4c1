import ContactSearch.Proofs.Script.Layout

namespace ContactSearch
namespace Script

/-!
# String literals

Behind an opening quotation mark the reader of tokens reads items up to the
closing mark.  This is exact in both directions: it reads a string exactly if
the text begins with items that spell it and the closing mark, it goes on
behind that mark, and a text that does not begin in this way is a fault.

Every string can be written as a literal.  It is enough to put a backslash in
front of quotation marks and backslashes.  The literal can stand behind every
text that is read to its end and in front of every text, because a quotation
mark goes on no token and nothing goes on a string.
-/

/-- A character of a literal: quotation marks and backslashes stand behind a backslash. -/
def guarded (quote c : Char) : List Char :=
  if c = quote ∨ c = '\\' then ['\\', c] else [c]

/-- The literal for a string. -/
def literal (quote : Char) (value : String) : String :=
  String.ofList (quote :: (value.toList.flatMap (guarded quote) ++ [quote]))

theorem toList_literal (quote : Char) (value : String) :
    (literal quote value).toList =
      quote :: (value.toList.flatMap (guarded quote) ++ [quote]) :=
  String.toList_ofList

section Literals

variable {quote : Char}

theorem item_guarded (isQuote : IsQuote quote) (c : Char) : Item quote (guarded quote c) c := by
  unfold guarded
  split
  · next special =>
      rcases special with rfl | rfl
      · refine .itself isQuote.ne_u ?_
        rcases isQuote with rfl | rfl <;> decide
      · exact .itself (by decide) (by decide)
  · next plain =>
      rw [not_or] at plain
      exact .raw plain.1 plain.2

theorem items_guarded (isQuote : IsQuote quote) (value : List Char) :
    Items quote (value.flatMap (guarded quote)) value := by
  induction value with
  | nil => exact .nil
  | cons c value ih =>
      rw [List.flatMap_cons]
      exact .cons (item_guarded isQuote c) ih

theorem spelled_literal (isQuote : IsQuote quote) (value : String) :
    (Lexeme.string value).Spelled (literal quote value).toList := by
  have spelled := Lexeme.Spelled.string isQuote (items_guarded isQuote value.toList)
  rw [String.ofList_toList] at spelled
  rw [toList_literal]
  exact spelled

/-- Items between quotation marks are read as one string, and reading goes on behind them. -/
theorem tokensFrom_of_items {source : List Char} {value : String} (isQuote : IsQuote quote)
    (items : Items quote source value.toList) (rest : List Char) (position : Nat) :
    tokensFrom position (quote :: (source ++ quote :: rest)) =
      ⟨.string value, position⟩ :: tokensFrom (position + (source.length + 2)) rest := by
  have spelled := Lexeme.Spelled.string isQuote items
  rw [String.ofList_toList] at spelled
  have ends : (Lexeme.string value).EndsBefore rest := trivial
  have read := tokensFrom_of_spelled spelled ends position
  rw [List.cons_append, List.append_assoc, List.singleton_append, List.length_cons,
    List.length_append, List.length_singleton] at read
  exact read

theorem tokensFrom_of_readString_error {text : List Char} {fault : StringFault}
    (isQuote : IsQuote quote) (refused : readString quote text = .error fault) (position : Nat) :
    tokensFrom position (quote :: text) = [⟨.invalid (.badString fault), position⟩] := by
  have first := isQuote.first text
  rw [refused] at first
  exact tokensFrom_of_refused isQuote.isBlank first position

/-- What is read behind an opening mark, and what is left then. -/
theorem first_string_iff {text rest : List Char} {value : String} (isQuote : IsQuote quote) :
    (exists taken, Lexeme.first quote text = (.string value, taken) ∧ text.drop taken = rest) <->
      exists source, text = source ++ quote :: rest ∧ Items quote source value.toList := by
  rw [isQuote.first]
  constructor
  · rintro ⟨taken, first, left⟩
    cases read : readString quote text with
    | error fault =>
        rw [read] at first
        cases first
    | ok pair =>
        rw [read] at first
        cases first
        rcases items_of_readString isQuote read with ⟨source, behind, rfl, items, counted⟩
        refine ⟨source, ?_, by rwa [String.toList_ofList]⟩
        rw [<- left, counted, List.drop_length_add_append, List.drop_succ_cons, List.drop_zero]
  · rintro ⟨source, rfl, items⟩
    have read := items.read isQuote rest
    refine ⟨source.length + 1, ?_, ?_⟩
    · simp only [read, String.ofList_toList]
    · rw [List.drop_length_add_append, List.drop_succ_cons, List.drop_zero]

end Literals

/-! ## Literals behind a text that is read to its end -/

/-- A literal behind a text that is read to its end, whatever follows it. -/
theorem tokenize_literal {quote : Char} (isQuote : IsQuote quote) {front : String}
    {body : List Token} (whole : tokenize front = body ++ [⟨.endOfInput, front.length⟩])
    (value behind : String) :
    tokenize (front ++ literal quote value ++ behind) =
      body ++ ⟨.string value, front.length⟩ ::
        tokensFrom (front.length + (literal quote value).length) behind.toList := by
  have layout : Layout 0 front.toList (tokenize front) := layout_tokensFrom 0 front.toList
  have joined : Layout 0 (front.toList ++ ((literal quote value).toList ++ behind.toList))
      (body ++ tokensFrom (0 + front.toList.length)
        ((literal quote value).toList ++ behind.toList)) := by
    rw [toList_literal, List.cons_append]
    exact layout.append whole rfl isQuote.isParting (layout_tokensFrom _ _)
  have ends : (Lexeme.string value).EndsBefore behind.toList := trivial
  rw [tokenize, String.toList_append, String.toList_append, List.append_assoc,
    joined.tokensFrom_eq, tokensFrom_of_spelled (spelled_literal isQuote value) ends, Nat.zero_add,
    String.length_toList, String.length_toList]

/--
Behind a quotation mark a string is read, and reading goes on at a given rest, exactly if the text
is items that spell the string, the mark again, and the rest.  If the text is no such thing for any
string and rest, it is a fault.  Every string has a literal that is read as the string behind every
text that is read to its end, and in front of every text.
-/
theorem string_literals_decoded_exactly {quote : Char} (isQuote : IsQuote quote) :
    (forall (text rest : List Char) (value : String),
      (exists taken, Lexeme.first quote text = (.string value, taken) ∧ text.drop taken = rest) <->
        exists source, text = source ++ quote :: rest ∧ Items quote source value.toList) ∧
    (forall (source rest : List Char) (value : String) (position : Nat),
      Items quote source value.toList ->
        tokensFrom position (quote :: (source ++ quote :: rest)) =
          ⟨.string value, position⟩ :: tokensFrom (position + (source.length + 2)) rest) ∧
    (forall text : List Char,
      (¬ exists source rest value, text = source ++ quote :: rest ∧ Items quote source value) ->
        exists fault, forall position,
          tokensFrom position (quote :: text) = [⟨.invalid (.badString fault), position⟩]) ∧
    (forall (value front behind : String) (body : List Token),
      tokenize front = body ++ [⟨.endOfInput, front.length⟩] ->
        tokenize (front ++ literal quote value ++ behind) =
          body ++ ⟨.string value, front.length⟩ ::
            tokensFrom (front.length + (literal quote value).length) behind.toList) := by
  refine ⟨fun _ _ _ => first_string_iff isQuote, ?_, ?_, ?_⟩
  · exact fun source rest value position items => tokensFrom_of_items isQuote items rest position
  · intro text unsplit
    cases read : readString quote text with
    | error fault => exact ⟨fault, tokensFrom_of_readString_error isQuote read⟩
    | ok pair =>
        rcases items_of_readString isQuote read with ⟨source, rest, shape, items, _⟩
        exact absurd ⟨source, rest, pair.1, shape, items⟩ unsplit
  · exact fun value front behind body whole => tokenize_literal isQuote whole value behind

/-- A mark behind a backslash, a letter, two characters by their digits, and a mark left alone. -/
theorem string_literals_decoded_exactly_apostrophe :
    IsQuote '\x27' ∧ Items '\x27' "it\\'s\\n".toList "it's\n".toList ∧
      tokensFrom 7 "'it\\'s\\n' || a".toList =
        ⟨.string "it's\n", 7⟩ :: tokensFrom 16 " || a".toList ∧
      Items '\x27' "\\u20aC\\u0030".toList "\u20ac0".toList ∧
      tokensFrom 0 "'\\u20aC\\u0030'+".toList = ⟨.string "\u20ac0", 0⟩ :: tokensFrom 14 ['+'] ∧
      (exists fault, forall position,
        tokensFrom position ['\x27'] = [⟨.invalid (.badString fault), position⟩]) ∧
      tokenize "a ==" = [⟨.identifier "a", 0⟩, ⟨.symbol .equal, 2⟩, ⟨.endOfInput, 4⟩] ∧
      tokenize ("a ==" ++ literal '\x27' "it's" ++ "b") =
        [⟨.identifier "a", 0⟩, ⟨.symbol .equal, 2⟩, ⟨.string "it's", 4⟩] ++
          tokensFrom 11 ['b'] := by
  have isQuote : IsQuote '\x27' := Or.inr rfl
  rcases string_literals_decoded_exactly isQuote with ⟨_, read, refused, written⟩
  have items : Items '\x27' "it\\'s\\n".toList "it's\n".toList :=
    .cons (.raw (by decide) (by decide)) (.cons (.raw (by decide) (by decide))
      (.cons (.itself (by decide) (by decide)) (.cons (.raw (by decide) (by decide))
        (.cons (.named (by decide)) .nil))))
  have euro : Text.hexQuad? '2' '0' 'a' 'C' = some 0x20ac := rfl
  have zero : Text.hexQuad? '0' '0' '3' '0' = some 0x30 := rfl
  have coded : Items '\x27' "\\u20aC\\u0030".toList "\u20ac0".toList :=
    .cons (.code euro rfl) (.cons (.code zero rfl) .nil)
  have whole : tokenize "a ==" =
      [⟨.identifier "a", 0⟩, ⟨.symbol .equal, 2⟩] ++ [⟨.endOfInput, "a ==".length⟩] := by
    decide +kernel
  have unsplit : ¬ exists source rest value,
      [] = source ++ '\x27' :: rest ∧ Items '\x27' source value := by
    rintro ⟨source, rest, value, shape, _⟩
    cases source <;> cases shape
  exact ⟨isQuote, items, read _ " || a".toList "it's\n" 7 items, coded,
    read _ ['+'] "\u20ac0" 0 coded, refused [] unsplit, whole, written "it's" "a ==" "b" _ whole⟩

end Script
end ContactSearch
