import ContactSearch.Proofs.Script.Grammar
import ContactSearch.Proofs.Script.Lexemes

namespace ContactSearch
namespace Script

/-!
# Text between quotation marks

A string literal is spelled by items, each of which stands for one character.
Reading a literal is reading items up to the closing mark, and nothing else.

A text without the quotation mark and without a backslash is inert: it spells
itself.  A text that is read back as it is has to be inert.  If the literal
ends within the text or at its closing mark, then it has at least as many
characters as it takes, so none of its items is an escape.  If the literal goes
on behind that mark, it has passed it through an escape; then the text ends
with a backslash, which has to be the last character of what follows the mark.
-/

/-- Whether a character opens a string literal. -/
def IsQuote (c : Char) : Prop :=
  c = '"' ∨ c = '\x27'

namespace IsQuote

variable {quote : Char}

theorem ne_backslash (isQuote : IsQuote quote) : quote ≠ '\\' := by
  rcases isQuote with rfl | rfl <;> decide

theorem ne_u (isQuote : IsQuote quote) : quote ≠ 'u' := by
  rcases isQuote with rfl | rfl <;> decide

theorem hexValue? (isQuote : IsQuote quote) : Text.hexValue? quote = none := by
  rcases isQuote with rfl | rfl <;> decide

end IsQuote

theorem readString_of_ne {quote c : Char} {rest : List Char} (notQuote : c ≠ quote)
    (notBackslash : c ≠ '\\') :
    readString quote (c :: rest) =
      (readString quote rest).map fun pair => (c :: pair.1, pair.2 + 1) := by
  rw [readString.eq_def]
  simp only [if_neg notQuote, if_neg notBackslash]
  cases readString quote rest <;> rfl

theorem readString_of_letter {quote letter : Char} {rest : List Char} (isQuote : IsQuote quote)
    (notU : letter ≠ 'u') :
    readString quote ('\\' :: letter :: rest) =
      (readString quote rest).map fun pair =>
        (escapedCharacter letter :: pair.1, pair.2 + 2) := by
  rw [readString.eq_def]
  simp only [if_neg isQuote.ne_backslash.symm, if_neg notU, if_true]
  cases readString quote rest <;> rfl

theorem readString_of_code {quote a b c d : Char} {rest : List Char} {code : Nat}
    (isQuote : IsQuote quote) (read : Text.hexQuad? a b c d = some code)
    (valid : isSurrogate code = false) :
    readString quote ('\\' :: 'u' :: a :: b :: c :: d :: rest) =
      (readString quote rest).map fun pair => (Char.ofNat code :: pair.1, pair.2 + 6) := by
  rw [readString.eq_def]
  simp only [if_neg isQuote.ne_backslash.symm, if_true, read, valid]
  cases readString quote rest <;> rfl

/-! ## The items of a literal -/

/-- The letters behind a backslash that stand for another character. -/
def namedEscapes : List (Char × Char) :=
  [('n', '\n'), ('r', '\r'), ('t', '\t'), ('b', '\x08'), ('f', '\x0c'), ('0', '\x00')]

/-- How one character can be spelled in a literal. -/
inductive Item (quote : Char) : List Char -> Char -> Prop where
  | raw {c : Char} (notQuote : c ≠ quote) (notBackslash : c ≠ '\\') : Item quote [c] c
  | named {letter c : Char} (found : (letter, c) ∈ namedEscapes) : Item quote ['\\', letter] c
  | code {first second third fourth : Char} {code : Nat}
      (read : Text.hexQuad? first second third fourth = some code)
      (valid : isSurrogate code = false) :
      Item quote ['\\', 'u', first, second, third, fourth] (Char.ofNat code)
  | itself {c : Char} (notU : c ≠ 'u') (unnamed : c ∉ namedEscapes.map Prod.fst) :
      Item quote ['\\', c] c

/-- How a text can be spelled in a literal, item by item. -/
inductive Items (quote : Char) : List Char -> List Char -> Prop where
  | nil : Items quote [] []
  | cons {spelling source value : List Char} {c : Char} (item : Item quote spelling c)
      (rest : Items quote source value) : Items quote (spelling ++ source) (c :: value)

theorem Item.length_pos {quote c : Char} {spelling : List Char} (item : Item quote spelling c) :
    0 < spelling.length := by
  cases item <;> exact Nat.succ_pos _

/-- A letter other than `u` behind a backslash is an item. -/
theorem Item.escaped (quote : Char) {letter : Char} (notU : letter ≠ 'u') :
    Item quote ['\\', letter] (Script.escapedCharacter letter) := by
  unfold escapedCharacter
  split
  · exact .named (by decide)
  · exact .named (by decide)
  · exact .named (by decide)
  · exact .named (by decide)
  · exact .named (by decide)
  · exact .named (by decide)
  · next n r t b f z =>
      refine .itself notU ?_
      simp only [namedEscapes, List.map_cons, List.map_nil, List.mem_cons, List.not_mem_nil]
      rintro (same | same | same | same | same | same | same)
      · exact n same
      · exact r same
      · exact t same
      · exact b same
      · exact f same
      · exact z same
      · exact same

/-- Behind a backslash, every letter of an item but `u` stands for what the item says. -/
theorem escapedCharacter_of_named {letter c : Char} (found : (letter, c) ∈ namedEscapes) :
    letter ≠ 'u' ∧ escapedCharacter letter = c := by
  simp only [namedEscapes, List.mem_cons, Prod.mk.injEq, List.not_mem_nil, or_false] at found
  rcases found with ⟨rfl, rfl⟩ | ⟨rfl, rfl⟩ | ⟨rfl, rfl⟩ | ⟨rfl, rfl⟩ | ⟨rfl, rfl⟩ | ⟨rfl, rfl⟩
  all_goals exact ⟨by decide, rfl⟩

theorem escapedCharacter_of_unnamed {c : Char} (unnamed : c ∉ namedEscapes.map Prod.fst) :
    escapedCharacter c = c := by
  simp only [namedEscapes, List.map_cons, List.map_nil, List.mem_cons, List.not_mem_nil,
    or_false, not_or] at unnamed
  rcases unnamed with ⟨n, r, t, b, f, z⟩
  unfold escapedCharacter
  split
  · exact absurd rfl n
  · exact absurd rfl r
  · exact absurd rfl t
  · exact absurd rfl b
  · exact absurd rfl f
  · exact absurd rfl z
  · rfl

/-- One item in front is read as its character. -/
theorem Item.read {quote c : Char} {spelling : List Char} (isQuote : IsQuote quote)
    (item : Item quote spelling c) (text : List Char) :
    readString quote (spelling ++ text) =
      (readString quote text).map fun pair => (c :: pair.1, pair.2 + spelling.length) := by
  cases item with
  | raw notQuote notBackslash => exact readString_of_ne notQuote notBackslash
  | named found =>
      rcases escapedCharacter_of_named found with ⟨notU, rfl⟩
      exact readString_of_letter isQuote notU
  | code read valid => exact readString_of_code isQuote read valid
  | itself notU unnamed =>
      rw [List.cons_append, List.cons_append, readString_of_letter isQuote notU,
        escapedCharacter_of_unnamed unnamed]
      rfl

/-- Items in front of a closing mark are read as what they spell. -/
theorem Items.read {quote : Char} {source value : List Char} (isQuote : IsQuote quote)
    (items : Items quote source value) (rest : List Char) :
    readString quote (source ++ quote :: rest) = .ok (value, source.length + 1) := by
  induction items with
  | nil =>
      rw [List.nil_append, readString.eq_def]
      simp only [if_true]
      rfl
  | cons item items ih =>
      rw [List.append_assoc, item.read isQuote, ih, List.length_append]
      exact congrArg (fun taken => Except.ok (_, taken)) (by omega)

/-- A text that is read begins with the closing mark or with an item. -/
theorem begins_of_readString {quote : Char} {text value : List Char} {taken : Nat}
    (read : readString quote text = .ok (value, taken)) :
    (exists rest, text = quote :: rest) ∨
      exists spelling c rest, text = spelling ++ rest ∧ Item quote spelling c := by
  cases text with
  | nil =>
      rw [readString] at read
      cases read
  | cons c rest =>
      by_cases closes : c = quote
      · exact Or.inl ⟨rest, by rw [closes]⟩
      by_cases escapes : c = '\\'
      · subst escapes
        rw [readString.eq_def] at read
        simp only [if_neg closes, if_true] at read
        cases rest with
        | nil => cases read
        | cons letter rest =>
            by_cases isU : letter = 'u'
            · -- only four hexadecimal digits of a character make an item
              subst isU
              simp only [if_true] at read
              split at read
              · next first second third fourth rest =>
                  split at read
                  · cases read
                  · next code known =>
                      split at read
                      · cases read
                      · next valid =>
                          exact Or.inr ⟨_, _, rest, rfl,
                            .code known (Bool.eq_false_iff.mpr valid)⟩
              · cases read
            · exact Or.inr ⟨_, _, rest, rfl, .escaped quote isU⟩
      · exact Or.inr ⟨_, _, rest, rfl, .raw closes escapes⟩

/-- What is read is spelled by the items in front of the closing mark. -/
theorem items_of_readString {quote : Char} {text value : List Char} {taken : Nat}
    (isQuote : IsQuote quote) (read : readString quote text = .ok (value, taken)) :
    exists source rest, text = source ++ quote :: rest ∧ Items quote source value ∧
      taken = source.length + 1 := by
  induction measured : text.length using Nat.strongRecOn generalizing text value taken with
  | ind size ih =>
      rcases begins_of_readString read with ⟨rest, rfl⟩ | ⟨spelling, c, text, rfl, item⟩
      · rw [readString.eq_def] at read
        simp only [if_true] at read
        cases read
        exact ⟨[], rest, rfl, .nil, rfl⟩
      · have shorter : text.length < size := by
          rw [← measured, List.length_append]
          exact Nat.lt_add_of_pos_left item.length_pos
        rw [item.read isQuote] at read
        cases inner : readString quote text with
        | error fault =>
            rw [inner] at read
            cases read
        | ok pair =>
            rw [inner] at read
            cases read
            rcases ih text.length shorter inner rfl with ⟨source, rest, rfl, items, counted⟩
            refine ⟨spelling ++ source, rest, by rw [List.append_assoc], .cons item items, ?_⟩
            rw [counted, List.length_append]
            omega

/-! ## Texts that are read back -/

/-- A text without a quotation mark and without a backslash. -/
def Inert (quote : Char) (text : List Char) : Prop :=
  quote ∉ text ∧ '\\' ∉ text

theorem Inert.tail {quote c : Char} {text : List Char} (inert : Inert quote (c :: text)) :
    Inert quote text :=
  ⟨fun member => inert.1 (List.mem_cons_of_mem c member),
    fun member => inert.2 (List.mem_cons_of_mem c member)⟩

/-- An inert text spells itself. -/
theorem Inert.items {quote : Char} {text : List Char} (inert : Inert quote text) :
    Items quote text text := by
  induction text with
  | nil => exact .nil
  | cons c text ih =>
      have notQuote : c ≠ quote := fun same => inert.1 (same ▸ List.mem_cons_self)
      have notBackslash : c ≠ '\\' := fun same => inert.2 (same ▸ List.mem_cons_self)
      exact .cons (.raw notQuote notBackslash) (ih inert.tail)

/-- A spelling is as long as what it spells only if it is inert, and then it is the same text. -/
theorem Items.length {quote : Char} {source value : List Char} (items : Items quote source value) :
    value.length ≤ source.length ∧
      (source.length ≤ value.length -> source = value ∧ Inert quote source) := by
  induction items with
  | nil => exact ⟨Nat.le_refl 0, fun _ => ⟨rfl, List.not_mem_nil, List.not_mem_nil⟩⟩
  | @cons spelling source value c item items ih =>
      rcases ih with ⟨shorter, equal⟩
      rw [List.length_append, List.length_cons]
      cases item with
      | raw notQuote notBackslash =>
          refine ⟨by simp only [List.length_singleton]; omega, ?_⟩
          intro long
          rcases equal (by simp only [List.length_singleton] at long; omega) with ⟨rfl, inert⟩
          refine ⟨rfl, ?_, ?_⟩
          · exact List.not_mem_cons_of_ne_of_not_mem notQuote.symm inert.1
          · exact List.not_mem_cons_of_ne_of_not_mem notBackslash.symm inert.2
      | _ =>
          simp only [List.length_cons, List.length_nil]
          exact ⟨by omega, fun long => by omega⟩

/-- Digits of an escape are no quotation marks. -/
theorem not_mem_hexQuad {quote first second third fourth : Char} {code : Nat}
    (isQuote : IsQuote quote) (read : Text.hexQuad? first second third fourth = some code) :
    quote ∉ [first, second, third, fourth] := by
  intro member
  simp only [Text.hexQuad?, Option.bind_eq_bind, Option.bind_eq_some_iff] at read
  rcases read with ⟨_, one, _, two, _, three, _, four, _⟩
  simp only [List.mem_cons, List.not_mem_nil, or_false] at member
  rcases member with rfl | rfl | rfl | rfl
  · rw [isQuote.hexValue?] at one
    cases one
  · rw [isQuote.hexValue?] at two
    cases two
  · rw [isQuote.hexValue?] at three
    cases three
  · rw [isQuote.hexValue?] at four
    cases four

/-- The only item with a quotation mark in it is the mark behind a backslash. -/
theorem Item.across {quote c : Char} {spelling inner behind : List Char} (isQuote : IsQuote quote)
    (item : Item quote spelling c) (shape : spelling = inner ++ quote :: behind) :
    inner = ['\\'] ∧ behind = [] ∧ c = quote := by
  have member : quote ∈ spelling := shape ▸ List.mem_append_right inner List.mem_cons_self
  cases item with
  | raw notQuote notBackslash =>
      exact absurd (List.mem_singleton.mp member).symm notQuote
  | named found =>
      rcases List.mem_cons.mp member with same | member
      · exact absurd same isQuote.ne_backslash
      · cases List.mem_singleton.mp member
        have listed : quote ∈ namedEscapes.map Prod.fst := List.mem_map_of_mem found
        rcases isQuote with rfl | rfl
        · exact absurd listed (by decide)
        · exact absurd listed (by decide)
  | code read valid =>
      rcases List.mem_cons.mp member with same | member
      · exact absurd same isQuote.ne_backslash
      · rcases List.mem_cons.mp member with same | member
        · exact absurd same isQuote.ne_u
        · exact absurd member (not_mem_hexQuad isQuote read)
  | itself notU unnamed =>
      rcases List.mem_cons.mp member with same | member
      · exact absurd same isQuote.ne_backslash
      · cases List.mem_singleton.mp member
        match inner, shape with
        | [], shape => exact absurd (List.cons.inj shape).1.symm isQuote.ne_backslash
        | [other], shape =>
            simp only [List.cons_append, List.nil_append, List.cons.injEq, true_and] at shape
            rcases shape with ⟨rfl, rfl⟩
            exact ⟨rfl, rfl, rfl⟩
        | first :: second :: inner, shape =>
            have long := congrArg List.length shape
            simp only [List.length_cons, List.length_nil, List.length_append] at long
            omega

/-- Items that pass a quotation mark do so behind a backslash. -/
theorem Items.across {quote : Char} {inner behind source value : List Char}
    (isQuote : IsQuote quote) (items : Items quote source value)
    (shape : source = inner ++ quote :: behind) :
    exists init front rest, inner = init ++ ['\\'] ∧ value = front ++ quote :: rest ∧
      Items quote behind rest := by
  induction items generalizing inner with
  | nil => cases inner <;> cases shape
  | @cons spelling source value c item items ih =>
      rcases List.append_eq_append_iff.mp shape with ⟨more, split, later⟩ | ⟨more, split, later⟩
      · -- the mark stands behind the first item
        rcases ih later with ⟨init, front, rest, split', rfl, items'⟩
        refine ⟨spelling ++ init, c :: front, rest, ?_, rfl, items'⟩
        rw [split, split', List.append_assoc]
      · cases more with
        | nil =>
            rcases ih (show source = [] ++ quote :: behind from later.symm) with
              ⟨init, front, rest, split', _, _⟩
            cases init <;> cases split'
        | cons mark more =>
            -- the mark stands in the first item
            rcases List.cons.inj later with ⟨rfl, behindIs⟩
            rcases item.across isQuote split with ⟨rfl, rfl, rfl⟩
            exact ⟨[], [], value, rfl, rfl, behindIs ▸ items⟩

/--
A text that is read back as it is has to be inert, unless what can be read behind its closing mark
ends with a backslash.
-/
theorem inert_of_readString {quote : Char} {text behind : List Char} {taken : Nat}
    (isQuote : IsQuote quote)
    (read : readString quote (text ++ quote :: behind) = .ok (text, taken))
    (later : forall {value : List Char} {taken : Nat},
      readString quote behind = .ok (value, taken) -> value.getLast? ≠ some '\\') :
    Inert quote text := by
  rcases items_of_readString isQuote read with ⟨source, rest, shape, items, rfl⟩
  rcases items.length with ⟨shorter, equal⟩
  have settled (short : source.length ≤ text.length) : Inert quote text := by
    rcases equal short with ⟨rfl, inert⟩
    exact inert
  rcases List.append_eq_append_iff.mp shape with ⟨more, split, behindIs⟩ | ⟨more, split, _⟩
  · cases more with
    | nil => exact settled (Nat.le_of_eq (by rw [split, List.append_nil]))
    | cons mark more =>
        -- the literal goes on behind the mark, so the mark was behind a backslash
        rcases List.cons.inj behindIs with ⟨rfl, rfl⟩
        rcases items.across isQuote split with ⟨init, front, value, ends, ends', items'⟩
        have last : text.getLast? = some '\\' := by rw [ends, List.getLast?_concat]
        rw [ends', List.getLast?_append] at last
        cases value with
        | nil => exact absurd (Option.some.inj last) isQuote.ne_backslash
        | cons c value =>
            rw [List.getLast?_cons_cons, List.getLast?_cons, Option.some_or,
              ← List.getLast?_cons] at last
            exact absurd last (later (items'.read isQuote rest))
  · apply settled
    rw [split, List.length_append]
    exact Nat.le_add_right _ _

/-! ## Quoted texts among lexemes -/

theorem IsQuote.isBlank {quote : Char} (isQuote : IsQuote quote) :
    Text.isBlank quote = false := by
  rcases isQuote with rfl | rfl <;> rfl

theorem IsQuote.first {quote : Char} (isQuote : IsQuote quote) (text : List Char) :
    Lexeme.first quote text =
      match readString quote text with
      | .ok (value, taken) => (.string (String.ofList value), taken)
      | .error fault => (.invalid (.badString fault), 0) := by
  rcases isQuote with rfl | rfl <;> rfl

theorem lexemes_of_readString {quote : Char} {text value : List Char} {taken : Nat}
    (isQuote : IsQuote quote) (read : readString quote text = .ok (value, taken)) :
    lexemes (quote :: text) = .string (String.ofList value) :: lexemes (text.drop taken) := by
  have first := isQuote.first text
  rw [read] at first
  exact lexemes_of_valid isQuote.isBlank first rfl

theorem lexemes_of_readString_error {quote : Char} {text : List Char} {fault : StringFault}
    (isQuote : IsQuote quote) (refused : readString quote text = .error fault) :
    lexemes (quote :: text) = [.invalid (.badString fault)] := by
  have first := isQuote.first text
  rw [refused] at first
  exact lexemes_of_invalid isQuote.isBlank first rfl

/-- Items between quotation marks are one string. -/
theorem lexemes_of_items {quote : Char} {source value : List Char} (isQuote : IsQuote quote)
    (items : Items quote source value) (behind : List Char) :
    lexemes (quote :: (source ++ quote :: behind)) =
      .string (String.ofList value) :: lexemes behind := by
  rw [lexemes_of_readString isQuote (items.read isQuote behind)]
  have length : source.length + 1 = (source ++ [quote]).length := by
    rw [List.length_append, List.length_singleton]
  have split : source ++ quote :: behind = (source ++ [quote]) ++ behind := by
    rw [List.append_assoc, List.singleton_append]
  rw [length, split, List.drop_left]

/-- An inert text between quotation marks is one string. -/
theorem lexemes_of_inert {quote : Char} {text : List Char} (isQuote : IsQuote quote)
    (inert : Inert quote text) (behind : List Char) :
    lexemes (quote :: (text ++ quote :: behind)) =
      .string (String.ofList text) :: lexemes behind :=
  lexemes_of_items isQuote inert.items behind

/--
If the first string in a text between quotation marks is that text, then the text is inert, unless
what can be read behind its closing mark ends with a backslash.
-/
theorem inert_of_lexemes {quote : Char} {text behind : List Char} {strings : List String}
    (isQuote : IsQuote quote)
    (found : (lexemes (quote :: (text ++ quote :: behind))).filterMap Lexeme.string? =
      String.ofList text :: strings)
    (later : forall {value : List Char} {taken : Nat},
      readString quote behind = .ok (value, taken) -> value.getLast? ≠ some '\\') :
    Inert quote text := by
  cases read : readString quote (text ++ quote :: behind) with
  | error fault =>
      rw [lexemes_of_readString_error isQuote read] at found
      cases found
  | ok pair =>
      rw [lexemes_of_readString isQuote read] at found
      have first := (List.cons.inj found).1
      have same : pair.1 = text := by
        rw [← String.toList_ofList (l := pair.1), first, String.toList_ofList]
      apply inert_of_readString isQuote _ later
      · exact pair.2
      · rw [read, ← same]

end Script
end ContactSearch
