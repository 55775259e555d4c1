import ContactSearch.Proofs.Script.Boundaries

namespace ContactSearch
namespace Script

/-!
# Spellings of tokens

The reader of tokens looks at a text from its front and takes as much of it as
it can.  What it reads is described here without the reader, by two things
that do not depend on each other.  A token has spellings, and a text behind it
may be one that cannot go on the token.

Together they settle what is read.  A spelling in front of such a text is read
as its token and nothing of the text is taken; whatever is read, unless it is
a fault, has such a spelling in front of such a text.
-/

/-! ## What may stand behind a token -/

namespace Lexeme

/-- Whether a text adds nothing to a token in front of it. -/
def EndsBefore (behind : List Char) : Lexeme -> Prop
  | .identifier _ => forall c, c ∈ behind.head? -> isNamePart c = false
  | .keyword _ => forall c, c ∈ behind.head? -> isNamePart c = false
  | .number digits =>
      (forall c, c ∈ behind.head? -> c.isDigit = false) ∧
        ('.' ∉ digits.toList -> fractionPart behind = [])
  | .symbol .equal => behind.head? ≠ some '='
  | .symbol .notEqual => behind.head? ≠ some '='
  | .symbol .bang => behind.head? ≠ some '='
  | _ => True

end Lexeme

theorem fractionPart_eq_nil_iff (behind : List Char) :
    fractionPart behind = [] <->
      forall d rest, behind = '.' :: d :: rest -> d.isDigit = false := by
  constructor
  · rintro none d rest rfl
    cases digit : d.isDigit with
    | false => rfl
    | true => simp [fractionPart, digit] at none
  · intro pointless
    cases behind with
    | nil => rfl
    | cons c rest =>
        by_cases point : c = '.'
        · subst point
          cases rest with
          | nil => rfl
          | cons d rest => simp [fractionPart, pointless d rest rfl]
        · simp [fractionPart, point]

/-- A character with which no token goes on. -/
structure IsParting (c : Char) : Prop where
  stops : isNamePart c = false
  noPoint : c ≠ '.'
  noEqual : c ≠ '='

theorem isParting_of_isBlank {c : Char} (blank : Text.isBlank c = true) : IsParting c :=
  ⟨isNamePart_of_isBlank blank, ne_of_isBlank blank rfl, ne_of_isBlank blank rfl⟩

theorem IsQuote.isParting {quote : Char} (isQuote : IsQuote quote) : IsParting quote := by
  rcases isQuote with rfl | rfl
  · exact ⟨by decide +kernel, by decide, by decide⟩
  · exact ⟨by decide +kernel, by decide, by decide⟩

/-- A second text can go on no token that the first one cannot go on. -/
structure NoLonger (behind other : List Char) : Prop where
  first : forall c, c ∈ other.head? -> c ∈ behind.head? ∨ IsParting c
  fraction : fractionPart behind = [] -> fractionPart other = []

theorem Lexeme.EndsBefore.of_noLonger {behind other : List Char} {lexeme : Lexeme}
    (ends : lexeme.EndsBefore behind) (noLonger : NoLonger behind other) :
    lexeme.EndsBefore other := by
  have word (stops : forall c, c ∈ behind.head? -> isNamePart c = false) :
      forall c, c ∈ other.head? -> isNamePart c = false := by
    intro c member
    rcases noLonger.first c member with same | parting
    · exact stops c same
    · exact parting.stops
  have sign (stops : behind.head? ≠ some '=') : other.head? ≠ some '=' := by
    intro same
    rcases noLonger.first '=' same with same | parting
    · exact stops same
    · exact parting.noEqual rfl
  cases lexeme with
  | identifier name => exact word ends
  | keyword keyword => exact word ends
  | number digits =>
      refine ⟨?_, fun whole => noLonger.fraction (ends.2 whole)⟩
      intro c member
      rcases noLonger.first c member with same | parting
      · exact ends.1 c same
      · exact isDigit_of_isNamePart parting.stops
  | symbol mark =>
      cases mark with
      | equal => exact sign ends
      | notEqual => exact sign ends
      | bang => exact sign ends
      | _ => trivial
  | _ => trivial

/-- More text that begins with a parting character makes nothing longer. -/
theorem noLonger_append {c : Char} (parting : IsParting c) (behind rest : List Char) :
    NoLonger behind (behind ++ c :: rest) := by
  constructor
  · intro d member
    cases behind with
    | nil =>
        cases member
        exact Or.inr parting
    | cons first behind => exact Or.inl member
  · rw [fractionPart_eq_nil_iff, fractionPart_eq_nil_iff]
    intro pointless d tail shape
    cases behind with
    | nil => exact absurd (List.cons.inj shape).1 parting.noPoint
    | cons first behind =>
        cases behind with
        | nil =>
            rcases List.cons.inj (List.cons.inj shape).2 with ⟨rfl, _⟩
            exact isDigit_of_isNamePart parting.stops
        | cons second behind =>
            rcases List.cons.inj shape with ⟨rfl, shape'⟩
            rcases List.cons.inj shape' with ⟨rfl, _⟩
            exact pointless second behind rfl

/-! ## The spellings of a token -/

/-- A text that begins and goes on like a word. -/
def IsWord (text : String) : Prop :=
  exists c tail, text.toList = c :: tail ∧ isNameStart c = true ∧ c.isDigit = false ∧
    forall d, d ∈ tail -> isNamePart d = true

theorem isWord_keyword (keyword : Keyword) : IsWord keyword.text := by
  cases keyword
  all_goals exact ⟨_, _, rfl, by decide +kernel, rfl, List.all_eq_true.mp (by decide +kernel)⟩

theorem wordLexeme_keyword (keyword : Keyword) : wordLexeme keyword.text = .keyword keyword := by
  rw [wordLexeme, Keyword.ofText?_text]

namespace Lexeme

/-- How a token can be spelled, if it does not end a token list. -/
inductive Spelled : Lexeme -> List Char -> Prop where
  | string {quote : Char} {source value : List Char} (isQuote : IsQuote quote)
      (items : Items quote source value) :
      Spelled (.string (String.ofList value)) (quote :: (source ++ [quote]))
  | number {whole fraction : List Char} (present : whole ≠ [])
      (digits : Double.AreDigits whole) (digits' : Double.AreDigits fraction) :
      Spelled (.number (String.ofList (whole ++ Double.pointed fraction)))
        (whole ++ Double.pointed fraction)
  | word {text : String} (word : IsWord text) : Spelled (wordLexeme text) text.toList
  | symbol (mark : Symbol) : Spelled (.symbol mark) mark.text.toList

variable {lexeme : Lexeme} {text : List Char}

theorem isTerminal_wordLexeme (word : String) : (wordLexeme word).isTerminal = false := by
  rcases wordLexeme_cases word with ⟨_, same⟩ | same
  · rw [same]
    rfl
  · rw [same]
    rfl

theorem Spelled.isTerminal (spelled : lexeme.Spelled text) : lexeme.isTerminal = false := by
  cases spelled with
  | word word => exact isTerminal_wordLexeme _
  | _ => rfl

theorem isInvalid_of_isTerminal (proper : lexeme.isTerminal = false) :
    lexeme.isInvalid = false := by
  cases lexeme with
  | invalid fault => cases proper
  | _ => rfl

/-- A spelling begins with a character that is no white space. -/
theorem Spelled.exists_cons (spelled : lexeme.Spelled text) :
    exists c own, text = c :: own ∧ Text.isBlank c = false := by
  cases spelled with
  | string isQuote items => exact ⟨_, _, rfl, isQuote.isBlank⟩
  | @number whole fraction present digits digits' =>
      cases whole with
      | nil => exact absurd rfl present
      | cons c whole =>
          exact ⟨c, _, rfl, isBlank_of_isNamePart
            (isNamePart_of_isDigit (digits c List.mem_cons_self))⟩
  | word word =>
      rcases word with ⟨c, tail, shape, start, _, _⟩
      exact ⟨c, tail, shape, isBlank_of_isNamePart (isNamePart_of_isNameStart start)⟩
  | symbol mark => cases mark <;> exact ⟨_, _, rfl, rfl⟩

theorem Spelled.ne_nil (spelled : lexeme.Spelled text) : text ≠ [] := by
  rcases spelled.exists_cons with ⟨c, own, rfl, _⟩
  exact List.cons_ne_nil c own

end Lexeme

/-! ## A spelling is read as its token -/

section Reading

variable {c : Char} {own behind : List Char} {lexeme : Lexeme}

theorem endsBefore_wordLexeme_iff {word : String} :
    (wordLexeme word).EndsBefore behind <->
      forall d, d ∈ behind.head? -> isNamePart d = false := by
  rcases wordLexeme_cases word with ⟨_, same⟩ | same
  · rw [same]
    exact Iff.rfl
  · rw [same]
    exact Iff.rfl

theorem takeWhile_eq_of_apart {belongs : Char -> Bool} {front behind : List Char}
    (all : forall c, c ∈ front -> belongs c = true)
    (stops : forall c, c ∈ behind.head? -> belongs c = false) :
    (front ++ behind).takeWhile belongs = front ∧
      (front ++ behind).dropWhile belongs = behind := by
  rw [List.takeWhile_append_of_pos all, List.dropWhile_append_of_pos all]
  cases behind with
  | nil => exact ⟨List.append_nil front, rfl⟩
  | cons c behind =>
      have stop := stops c rfl
      simp [stop]

/-- The rest of a numeral ends where no digit follows, and no fraction unless it has one. -/
theorem numberTail_of_ends {whole fraction behind : List Char}
    (digits : Double.AreDigits whole) (digits' : Double.AreDigits fraction)
    (noDigit : forall c, c ∈ behind.head? -> c.isDigit = false)
    (complete : fraction = [] -> fractionPart behind = []) :
    numberTail (whole ++ Double.pointed fraction ++ behind) =
      whole ++ Double.pointed fraction := by
  rw [List.append_assoc, numberTail]
  by_cases none : fraction = []
  · have runs := takeWhile_eq_of_apart digits noDigit
    rw [none, Double.pointed, if_pos rfl, List.nil_append, runs.1, runs.2, complete none]
  · have pointStops : forall c, c ∈ ('.' :: fraction ++ behind).head? -> c.isDigit = false := by
      intro c first
      cases first
      rfl
    have runs := takeWhile_eq_of_apart digits pointStops
    have fractionRuns := takeWhile_eq_of_apart digits' noDigit
    rw [Double.pointed_of_ne_nil none, runs.1, runs.2, List.cons_append, fractionPart]
    simp only [fractionRuns.1, if_neg none]

theorem point_notMem_of_areDigits {digits : List Char} (areDigits : Double.AreDigits digits) :
    '.' ∉ digits :=
  fun member => absurd (areDigits '.' member) (by decide)

theorem first_symbol (mark : Symbol) (shape : mark.text.toList = c :: own)
    (ends : (Lexeme.symbol mark).EndsBefore behind) :
    Lexeme.first c (own ++ behind) = (.symbol mark, own.length) := by
  cases mark <;> cases shape
  case equal => exact first_equal ends
  case notEqual => exact first_notEqual ends
  case bang => exact first_bang ends
  all_goals rfl

/-- A spelling is read as its token when the text behind it cannot go on the token. -/
theorem first_of_spelled (spelled : lexeme.Spelled (c :: own)) (ends : lexeme.EndsBefore behind) :
    Lexeme.first c (own ++ behind) = (lexeme, own.length) := by
  generalize shape : c :: own = text at spelled
  cases spelled with
  | @string quote source value isQuote items =>
      rcases List.cons.inj shape with ⟨rfl, rfl⟩
      have read := items.read isQuote behind
      rw [List.append_assoc, List.singleton_append, isQuote.first, read, List.length_append,
        List.length_singleton]
  | @number whole fraction present digits digits' =>
      cases whole with
      | nil => exact absurd rfl present
      | cons d whole =>
          rw [List.cons_append] at shape
          rcases List.cons.inj shape with ⟨rfl, rfl⟩
          have complete : fraction = [] -> fractionPart behind = [] := by
            rintro rfl
            apply ends.2
            rw [Double.pointed, if_pos rfl, List.append_nil, String.toList_ofList]
            exact point_notMem_of_areDigits digits
          have tail := numberTail_of_ends
            (fun d inside => digits d (List.mem_cons_of_mem c inside)) digits' ends.1 complete
          rw [first_of_digit (digits c List.mem_cons_self), tail]
          rfl
  | @word text word =>
      rcases word with ⟨d, tail, shape', start, notDigit, parts⟩
      rw [shape'] at shape
      rcases List.cons.inj shape with ⟨rfl, rfl⟩
      have runs := takeWhile_eq_of_apart parts (endsBefore_wordLexeme_iff.mp ends)
      rw [first_of_isNameStart start notDigit, runs.1, <- shape', String.ofList_toList]
  | symbol mark => exact first_symbol mark shape.symm ends

end Reading

/-! ## What is read is spelled -/

section Spelling

variable {c : Char} {rest : List Char} {lexeme : Lexeme} {more : Nat}

/-- The rest of a text behind a run of characters does not begin with one of them. -/
theorem head?_dropWhile (belongs : Char -> Bool) (text : List Char) :
    forall d, d ∈ (text.dropWhile belongs).head? -> belongs d = false := by
  intro d member
  have stops := List.head?_dropWhile_not belongs text
  rw [Option.mem_def.mp member] at stops
  simpa using stops

/-- A numeral is cut off where its digits end, and its fraction if it has one. -/
theorem exists_numberTail (rest : List Char) :
    exists whole fraction behind, rest = whole ++ Double.pointed fraction ++ behind ∧
      numberTail rest = whole ++ Double.pointed fraction ∧
      Double.AreDigits whole ∧ Double.AreDigits fraction ∧
      (forall d, d ∈ behind.head? -> d.isDigit = false) ∧
      (fraction = [] -> fractionPart behind = []) := by
  have whole : Double.AreDigits (rest.takeWhile Char.isDigit) :=
    fun d member => List.all_eq_true.mp List.all_takeWhile d member
  have cut := List.takeWhile_append_dropWhile (p := Char.isDigit) (l := rest)
  have notDigit := head?_dropWhile Char.isDigit rest
  rw [numberTail]
  generalize rest.takeWhile Char.isDigit = front at *
  generalize rest.dropWhile Char.isDigit = back at *
  by_cases pointless : fractionPart back = []
  · refine ⟨front, [], back, ?_, ?_, whole, List.forall_mem_nil _, notDigit, fun _ => pointless⟩
    · rw [Double.pointed, if_pos rfl, List.append_nil, cut]
    · rw [pointless, Double.pointed, if_pos rfl]
  · unfold fractionPart at pointless ⊢
    split at pointless
    · next text =>
        have present : text.takeWhile Char.isDigit ≠ [] := by
          intro none
          exact pointless (if_pos none)
        refine ⟨front, text.takeWhile Char.isDigit, text.dropWhile Char.isDigit, ?_, ?_, whole,
          fun d member => List.all_eq_true.mp List.all_takeWhile d member,
          head?_dropWhile Char.isDigit text, fun none => absurd none present⟩
        · rw [Double.pointed_of_ne_nil present, List.append_assoc, List.cons_append,
            List.takeWhile_append_dropWhile, cut]
        · simp only [Double.pointed_of_ne_nil present, if_neg present]
    · exact absurd rfl pointless

/-- What a token takes of a text that it begins. -/
structure Taken (c : Char) (rest : List Char) (lexeme : Lexeme) (more : Nat)
    (own behind : List Char) : Prop where
  cut : rest = own ++ behind
  counted : more = own.length
  spelled : lexeme.Spelled (c :: own)
  ends : lexeme.EndsBefore behind

theorem exists_taken_string (isQuote : IsQuote c) (first : Lexeme.first c rest = (lexeme, more))
    (valid : lexeme.isInvalid = false) :
    exists own behind, Taken c rest lexeme more own behind := by
  rw [isQuote.first] at first
  cases read : readString c rest with
  | error fault =>
      rw [read] at first
      cases first
      cases valid
  | ok pair =>
      rw [read] at first
      cases first
      rcases items_of_readString isQuote read with ⟨source, behind, rfl, items, counted⟩
      refine ⟨source ++ [c], behind, ?_, ?_, .string isQuote items, trivial⟩
      · rw [List.append_assoc, List.singleton_append]
      · rw [counted, List.length_append, List.length_singleton]

theorem exists_taken_number (digit : c.isDigit = true)
    (first : Lexeme.first c rest = (lexeme, more)) :
    exists own behind, Taken c rest lexeme more own behind := by
  rw [first_of_digit digit] at first
  cases first
  rcases exists_numberTail rest with
    ⟨whole, fraction, behind, cut, tail, digits, digits', notDigit, complete⟩
  rw [tail]
  have areDigits : Double.AreDigits (c :: whole) := List.forall_mem_cons.mpr ⟨digit, digits⟩
  refine ⟨whole ++ Double.pointed fraction, behind, cut, rfl,
    .number (List.cons_ne_nil c whole) areDigits digits', notDigit, ?_⟩
  -- a numeral with a fraction has a point, so nothing is asked behind it
  intro pointless
  by_cases none : fraction = []
  · exact complete none
  · rw [String.toList_ofList, Double.pointed_of_ne_nil none] at pointless
    exact absurd (List.mem_cons_of_mem c (List.mem_append_right whole List.mem_cons_self)) pointless

theorem exists_taken_word (start : isNameStart c = true) (notDigit : c.isDigit = false)
    (first : Lexeme.first c rest = (lexeme, more)) :
    exists own behind, Taken c rest lexeme more own behind := by
  rw [first_of_isNameStart start notDigit] at first
  cases first
  have parts : forall d, d ∈ rest.takeWhile isNamePart -> isNamePart d = true :=
    fun d member => List.all_eq_true.mp List.all_takeWhile d member
  have word : IsWord (String.ofList (c :: rest.takeWhile isNamePart)) :=
    ⟨c, _, String.toList_ofList, start, notDigit, parts⟩
  have spelled := Lexeme.Spelled.word word
  rw [String.toList_ofList] at spelled
  exact ⟨rest.takeWhile isNamePart, rest.dropWhile isNamePart,
    List.takeWhile_append_dropWhile.symm, rfl, spelled,
    endsBefore_wordLexeme_iff.mpr (head?_dropWhile isNamePart rest)⟩

theorem head?_ne_of_forall {mark : Char} (apart : forall tail, rest = mark :: tail -> False) :
    rest.head? ≠ some mark := by
  intro head
  rcases List.head?_eq_some_iff.mp head with ⟨tail, rfl⟩
  exact apart tail rfl

theorem exists_taken_symbol (notQuote : ¬ IsQuote c) (notDigit : c.isDigit = false)
    (notStart : isNameStart c = false) (first : Lexeme.first c rest = (lexeme, more))
    (valid : lexeme.isInvalid = false) :
    exists own behind, Taken c rest lexeme more own behind := by
  unfold Lexeme.first at first
  split at first
  -- the symbols of one character look at nothing behind them
  all_goals try (cases first; exact ⟨[], rest, rfl, rfl, .symbol _, trivial⟩)
  · -- an equals sign needs a second one, and may have a third
    split at first
    · cases first
      exact ⟨['=', '='], _, rfl, rfl, .symbol .strictEqual, trivial⟩
    · next apart =>
        cases first
        exact ⟨['='], _, rfl, rfl, .symbol .equal, head?_ne_of_forall apart⟩
    · cases first
      cases valid
  · -- an exclamation mark may have one or two equals signs behind it
    split at first
    · cases first
      exact ⟨['=', '='], _, rfl, rfl, .symbol .strictNotEqual, trivial⟩
    · next apart =>
        cases first
        exact ⟨['='], _, rfl, rfl, .symbol .notEqual, head?_ne_of_forall apart⟩
    · next apart =>
        cases first
        exact ⟨[], rest, rfl, rfl, .symbol .bang, head?_ne_of_forall apart⟩
  · split at first
    · cases first
      exact ⟨['&'], _, rfl, rfl, .symbol .and, trivial⟩
    · cases first
      cases valid
  · split at first
    · cases first
      exact ⟨['|'], _, rfl, rfl, .symbol .or, trivial⟩
    · cases first
      cases valid
  · -- no other character begins a token
    have notMark : ¬ (c = '"' ∨ c = '\x27') := notQuote
    rw [if_neg notMark, notDigit, if_neg Bool.false_ne_true, notStart,
      if_neg Bool.false_ne_true] at first
    cases first
    cases valid

/-- What is read, unless it is a fault, is spelled in front of a text that cannot go on it. -/
theorem exists_taken (first : Lexeme.first c rest = (lexeme, more))
    (valid : lexeme.isInvalid = false) :
    exists own behind, Taken c rest lexeme more own behind := by
  by_cases isQuote : IsQuote c
  · exact exists_taken_string isQuote first valid
  cases digit : c.isDigit with
  | true => exact exists_taken_number digit first
  | false =>
      cases start : isNameStart c with
      | true => exact exists_taken_word start digit first
      | false => exact exists_taken_symbol isQuote digit start first valid

end Spelling
end Script
end ContactSearch
