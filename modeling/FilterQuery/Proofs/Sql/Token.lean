import FilterQuery.Sql.Dialect

/-!
# Tokens of SQL text

How a reader splits text by the quoting rules of a dialect: a quoted identifier and a string literal
run to the first closing delimiter that is not doubled, words are runs of letters, digits and
underscores, and every other character stands by itself. Printing the tokens gives the text back,
and texts that meet at a character which belongs to no longer token are split one by one.
-/

namespace FilterQuery.Sql

/-- A part of SQL text that is read as one. -/
inductive Token where
  /-- A quoted identifier, with its delimiters taken off and undoubled. -/
  | identifier (name : List Char)
  /-- A string literal, with its delimiters taken off and undoubled. -/
  | literal (text : List Char)
  /-- A word outside of quotes. -/
  | word (letters : List Char)
  /-- Any other character outside of quotes. -/
  | mark (c : Char)
  deriving DecidableEq

namespace Token

/-- A character of words. -/
def isWordChar (c : Char) : Bool := c.isAlphanum || c = '_'

/-- One more character in front of some tokens, in the word that they start with if they do. -/
def consWord (c : Char) : List Token → List Token
  | .word letters :: tokens => .word (c :: letters) :: tokens
  | tokens => .word [c] :: tokens

/-- The name that a token quotes. -/
def identifier? : Token → Option String
  | .identifier name => some (String.ofList name)
  | _ => none

/-- The text that a token quotes as a literal. -/
def literal? : Token → Option String
  | .literal text => some (String.ofList text)
  | _ => none

/-- A token that is a parenthesis or a word between operands. -/
def structural? : Token → Option Token
  | .mark c => if c = '(' || c = ')' then some (.mark c) else none
  | .word letters =>
    if letters = "AND".toList || letters = "OR".toList then some (.word letters) else none
  | _ => none

theorem flatMap_consWord {β : Type} (f : Token → List β) (c : Char) (tokens : List Token)
    (hcons : ∀ letters, f (.word (c :: letters)) = f (.word [c]) ++ f (.word letters)) :
    (consWord c tokens).flatMap f = f (.word [c]) ++ tokens.flatMap f := by
  cases tokens with
  | nil => rfl
  | cons token tokens =>
    cases token with
    | word letters =>
      rw [consWord, List.flatMap_cons, List.flatMap_cons, hcons, List.append_assoc]
    | _ => rfl

/-- Whether some tokens start with a word. -/
def startWord : List Token → Bool
  | .word _ :: _ => true
  | _ => false

/-- A character is taken into the word before it, unless there is none and a word follows. -/
theorem consWord_append (c : Char) {tokens more : List Token}
    (h : tokens ≠ [] ∨ startWord more = false) :
    consWord c (tokens ++ more) = consWord c tokens ++ more := by
  cases tokens with
  | cons token tokens => cases token <;> rfl
  | nil =>
    have hmore : startWord more = false := h.resolve_left fun hne => hne rfl
    cases more with
    | nil => rfl
    | cons token more =>
      cases token with
      | word letters => cases hmore
      | _ => rfl

end Token

open Token

namespace Dialect

/-- The delimiter that opens a quoted identifier. -/
def opening : Dialect → Char
  | .postgres => '\x22'
  | .sqlServer => '['

/-- The delimiter that closes a quoted identifier. -/
def closing : Dialect → Char
  | .postgres => '\x22'
  | .sqlServer => ']'

theorem quoteSegment_eq (d : Dialect) (segment : String) :
    d.quoteSegment segment = Text.enclose d.opening d.closing segment := by
  cases d <;> rfl

mutual

/-- The tokens of a text, unless a quoted part of it has no end. -/
def lex (d : Dialect) : List Char → Option (List Token)
  | [] => some []
  | c :: cs =>
    if c = d.opening then
      (lexQuoted d d.closing cs).map fun (name, tokens) => .identifier name :: tokens
    else if c = '\x27' then
      (lexQuoted d '\x27' cs).map fun (text, tokens) => .literal text :: tokens
    else if isWordChar c then (lex d cs).map (consWord c)
    else (lex d cs).map (.mark c :: ·)

/-- The rest of a quoted part, undoubled, and the tokens behind it. -/
def lexQuoted (d : Dialect) (delimiter : Char) : List Char → Option (List Char × List Token)
  | [] => none
  | [c] => if c = delimiter then some ([], []) else none
  | c :: next :: cs =>
    if c = delimiter then
      if next = delimiter then
        (lexQuoted d delimiter cs).map fun (text, tokens) => (delimiter :: text, tokens)
      else (lex d (next :: cs)).map fun tokens => ([], tokens)
    else (lexQuoted d delimiter (next :: cs)).map fun (text, tokens) => (c :: text, tokens)

end

/-- The tokens of a text, unless a quoted part of it has no end. -/
def tokens? (d : Dialect) (s : String) : Option (List Token) := d.lex s.toList

/-- The characters of a token. -/
def print (d : Dialect) : Token → List Char
  | .identifier name => d.opening :: Text.double d.closing name ++ [d.closing]
  | .literal text => '\x27' :: Text.double '\x27' text ++ ['\x27']
  | .word letters => letters
  | .mark c => [c]

mutual

/-- Printing the tokens of a text gives the text back. -/
theorem flatMap_print_of_lex {d : Dialect} : (cs : List Char) → {tokens : List Token} →
    d.lex cs = some tokens → tokens.flatMap d.print = cs
  | [], tokens, h => by
    obtain rfl : [] = tokens := Option.some.inj h
    rfl
  | c :: cs, tokens, h => by
    rw [lex] at h
    split at h
    · rename_i hc
      obtain ⟨⟨name, rest⟩, hrest, rfl⟩ := Option.map_eq_some_iff.mp h
      have hprint := double_flatMap_print_of_lexQuoted cs hrest
      rw [List.flatMap_cons, print, List.append_assoc, List.singleton_append, List.cons_append,
        hprint, hc]
    · split at h
      · rename_i hc
        obtain ⟨⟨text, rest⟩, hrest, rfl⟩ := Option.map_eq_some_iff.mp h
        have hprint := double_flatMap_print_of_lexQuoted cs hrest
        rw [List.flatMap_cons, print, List.append_assoc, List.singleton_append, List.cons_append,
          hprint, hc]
      · split at h
        · obtain ⟨rest, hrest, rfl⟩ := Option.map_eq_some_iff.mp h
          rw [flatMap_consWord d.print c rest fun _ => rfl, flatMap_print_of_lex cs hrest]
          rfl
        · obtain ⟨rest, hrest, rfl⟩ := Option.map_eq_some_iff.mp h
          rw [List.flatMap_cons, flatMap_print_of_lex cs hrest]
          rfl

/-- A quoted part and the tokens behind it print as the text that they were read from. -/
theorem double_flatMap_print_of_lexQuoted {d : Dialect} {delimiter : Char} : (cs : List Char) →
    {text : List Char} → {tokens : List Token} →
    d.lexQuoted delimiter cs = some (text, tokens) →
      Text.double delimiter text ++ delimiter :: tokens.flatMap d.print = cs
  | [], text, tokens, h => nomatch h
  | [c], text, tokens, h => by
    rw [lexQuoted] at h
    split at h
    · rename_i hc
      obtain ⟨rfl, rfl⟩ := Prod.mk.inj (Option.some.inj h)
      rw [hc]
      rfl
    · cases h
  | c :: next :: cs, text, tokens, h => by
    rw [lexQuoted] at h
    split at h
    · rename_i hc
      split at h
      · rename_i hnext
        obtain ⟨⟨text, rest⟩, hrest, heq⟩ := Option.map_eq_some_iff.mp h
        obtain ⟨rfl, rfl⟩ := Prod.mk.inj heq
        have hprint := double_flatMap_print_of_lexQuoted cs hrest
        rw [Text.double, if_pos rfl, List.cons_append, List.cons_append, hprint, hc, hnext]
      · obtain ⟨rest, hrest, heq⟩ := Option.map_eq_some_iff.mp h
        obtain ⟨rfl, rfl⟩ := Prod.mk.inj heq
        rw [flatMap_print_of_lex (next :: cs) hrest, hc]
        rfl
    · rename_i hc
      obtain ⟨⟨text, rest⟩, hrest, heq⟩ := Option.map_eq_some_iff.mp h
      obtain ⟨rfl, rfl⟩ := Prod.mk.inj heq
      have hprint := double_flatMap_print_of_lexQuoted (next :: cs) hrest
      rw [Text.double, if_neg hc, List.cons_append, hprint]

end

/-- A text is told by its tokens. -/
theorem tokens?_inj {d : Dialect} {s s' : String} {tokens : List Token}
    (h : d.tokens? s = some tokens) (h' : d.tokens? s' = some tokens) : s = s' := by
  have hs : tokens.flatMap d.print = s.toList := flatMap_print_of_lex _ h
  have hs' : tokens.flatMap d.print = s'.toList := flatMap_print_of_lex _ h'
  exact String.toList_inj.mp (hs.symm.trans hs')

/-- A character that no word and no quoted part goes on with. -/
def isBreak (d : Dialect) (c : Char) : Bool :=
  c ≠ d.opening && c ≠ d.closing && c ≠ '\x27' && !isWordChar c

/-- Two texts meet where a token ends: one of the characters there is a break. -/
def Apart (d : Dialect) (xs ys : List Char) : Prop :=
  ∀ x ∈ xs.getLast?, ∀ y ∈ ys.head?, d.isBreak x ∨ d.isBreak y

theorem Apart.tail {d : Dialect} {c : Char} {cs ys : List Char} (h : d.Apart (c :: cs) ys) :
    d.Apart cs ys := by
  cases cs with
  | nil => exact nofun
  | cons next cs =>
    intro x hx
    exact h x (by rwa [List.getLast?_cons_cons])

/-- A break stands by itself. -/
theorem lex_cons_of_isBreak {d : Dialect} {c : Char} (hc : d.isBreak c) (cs : List Char) :
    d.lex (c :: cs) = (d.lex cs).map (.mark c :: ·) := by
  simp only [isBreak, Bool.and_eq_true, decide_eq_true_eq, Bool.not_eq_true'] at hc
  obtain ⟨⟨⟨hopening, -⟩, hquote⟩, hword⟩ := hc
  rw [lex, if_neg hopening, if_neg hquote, hword, if_neg Bool.false_ne_true]

/-- What starts with a break starts with no word. -/
theorem startWord_of_lex {d : Dialect} {ys : List Char} {more : List Token}
    (h : d.lex ys = some more) (hys : ∀ y ∈ ys.head?, d.isBreak y) : startWord more = false := by
  cases ys with
  | nil =>
    obtain rfl : [] = more := Option.some.inj h
    rfl
  | cons y ys =>
    rw [lex_cons_of_isBreak (hys y rfl)] at h
    obtain ⟨rest, -, rfl⟩ := Option.map_eq_some_iff.mp h
    rfl

mutual

/-- Texts that meet where a token ends have their tokens one after the other. -/
theorem lex_append {d : Dialect} {ys : List Char} {more : List Token} (hys : d.lex ys = some more) :
    (cs : List Char) → {tokens : List Token} → d.lex cs = some tokens → d.Apart cs ys →
      d.lex (cs ++ ys) = some (tokens ++ more)
  | [], tokens, h, _ => by
    obtain rfl : [] = tokens := Option.some.inj h
    exact hys
  | c :: cs, tokens, h, hapart => by
    rw [lex] at h
    rw [List.cons_append, lex]
    split at h
    · obtain ⟨⟨name, rest⟩, hrest, rfl⟩ := Option.map_eq_some_iff.mp h
      have hclosing : d.isBreak d.closing = false := by cases d <;> rfl
      rw [if_pos ‹_›, lexQuoted_append hys hclosing cs hrest hapart.tail]
      rfl
    · rw [if_neg ‹_›]
      split at h
      · obtain ⟨⟨text, rest⟩, hrest, rfl⟩ := Option.map_eq_some_iff.mp h
        have hquote : d.isBreak '\x27' = false := by cases d <;> rfl
        rw [if_pos ‹_›, lexQuoted_append hys hquote cs hrest hapart.tail]
        rfl
      · rw [if_neg ‹_›]
        split at h
        · rename_i hword
          obtain ⟨rest, hrest, rfl⟩ := Option.map_eq_some_iff.mp h
          rw [if_pos hword, lex_append hys cs hrest hapart.tail, Option.map_some,
            consWord_append]
          by_cases hne : rest = []
          · right
            have hcs : [] = cs := by rw [← flatMap_print_of_lex cs hrest, hne]; rfl
            subst hcs
            refine startWord_of_lex hys fun y hy => (hapart c rfl y hy).resolve_left ?_
            simp [isBreak, hword]
          · exact Or.inl hne
        · obtain ⟨rest, hrest, rfl⟩ := Option.map_eq_some_iff.mp h
          rw [if_neg ‹_›, lex_append hys cs hrest hapart.tail]
          rfl

theorem lexQuoted_append {d : Dialect} {ys : List Char} {more : List Token}
    (hys : d.lex ys = some more) {delimiter : Char} (hdelimiter : d.isBreak delimiter = false) :
    (cs : List Char) → {text : List Char} → {tokens : List Token} →
      d.lexQuoted delimiter cs = some (text, tokens) → d.Apart cs ys →
        d.lexQuoted delimiter (cs ++ ys) = some (text, tokens ++ more)
  | [], text, tokens, h, _ => nomatch h
  | [c], text, tokens, h, hapart => by
    rw [lexQuoted] at h
    split at h
    · rename_i hc
      obtain ⟨rfl, rfl⟩ := Prod.mk.inj (Option.some.inj h)
      cases ys with
      | nil =>
        obtain rfl : [] = more := Option.some.inj hys
        rw [List.append_nil, lexQuoted, if_pos hc]
        rfl
      | cons y ys =>
        have hy : d.isBreak y := by
          have hmeet := hapart c rfl y rfl
          rw [hc, hdelimiter] at hmeet
          exact hmeet.resolve_left Bool.false_ne_true
        have hne : y ≠ delimiter := by
          rintro rfl
          rw [hdelimiter] at hy
          cases hy
        rw [List.singleton_append, lexQuoted, if_pos hc, if_neg hne, hys]
        rfl
    · cases h
  | c :: next :: cs, text, tokens, h, hapart => by
    rw [lexQuoted] at h
    rw [List.cons_append, List.cons_append, lexQuoted]
    split at h
    · rw [if_pos ‹_›]
      split at h
      · obtain ⟨⟨text, rest⟩, hrest, heq⟩ := Option.map_eq_some_iff.mp h
        obtain ⟨rfl, rfl⟩ := Prod.mk.inj heq
        rw [if_pos ‹_›, lexQuoted_append hys hdelimiter cs hrest hapart.tail.tail]
        rfl
      · obtain ⟨rest, hrest, heq⟩ := Option.map_eq_some_iff.mp h
        obtain ⟨rfl, rfl⟩ := Prod.mk.inj heq
        have happend := lex_append hys (next :: cs) hrest hapart.tail
        rw [List.cons_append] at happend
        rw [if_neg ‹_›, happend]
        rfl
    · obtain ⟨⟨text, rest⟩, hrest, heq⟩ := Option.map_eq_some_iff.mp h
      obtain ⟨rfl, rfl⟩ := Prod.mk.inj heq
      have happend := lexQuoted_append hys hdelimiter (next :: cs) hrest hapart.tail
      rw [List.cons_append] at happend
      rw [if_neg ‹_›, happend]
      rfl

end

theorem Apart.of_getLast {d : Dialect} {xs ys : List Char} (h : xs.getLast?.all d.isBreak) :
    d.Apart xs ys := by
  intro x hx y _
  rw [hx] at h
  exact Or.inl h

theorem Apart.of_head {d : Dialect} {xs ys : List Char} (h : ys.head?.all d.isBreak) :
    d.Apart xs ys := by
  intro x _ y hy
  rw [hy] at h
  exact Or.inr h

/-- A quoted part that is doubled inside ends where it was closed. -/
theorem lexQuoted_double (d : Dialect) (delimiter : Char) (text : List Char) :
    d.lexQuoted delimiter (Text.double delimiter text ++ [delimiter]) = some (text, []) := by
  induction text with
  | nil => rw [Text.double, List.nil_append, lexQuoted, if_pos rfl]
  | cons c text ih =>
    by_cases hc : c = delimiter
    · rw [Text.double, if_pos hc, List.cons_append, List.cons_append, lexQuoted, if_pos rfl,
        if_pos rfl, ih, hc]
      rfl
    · rw [Text.double, if_neg hc, List.cons_append]
      cases hrest : Text.double delimiter text ++ [delimiter] with
      | nil => exact absurd hrest (List.append_ne_nil_of_right_ne_nil _ (List.cons_ne_nil _ _))
      | cons next rest =>
        rw [lexQuoted, if_neg hc, ← hrest, ih]
        rfl

/-- A segment in quotes is one identifier, whatever characters it holds. -/
theorem tokens?_quoteSegment (d : Dialect) (segment : String) :
    d.tokens? (d.quoteSegment segment) = some [.identifier segment.toList] := by
  rw [quoteSegment_eq, tokens?, Text.enclose, String.toList_ofList, List.cons_append, lex,
    if_pos rfl, lexQuoted_double]
  rfl

/-- A text in quotes is one literal, whatever characters it holds. -/
theorem tokens?_stringLiteral (d : Dialect) (s : String) :
    d.tokens? (stringLiteral s) = some [.literal s.toList] := by
  have hne : '\x27' ≠ d.opening := by cases d <;> decide
  rw [stringLiteral, tokens?, Text.enclose, String.toList_ofList, List.cons_append, lex,
    if_neg hne, if_pos rfl, lexQuoted_double]
  rfl

example : postgres.tokens? (stringLiteral "x' OR ('") = some [.literal "x' OR ('".toList] := by
  rfl

/-- A run of word characters is one word. -/
theorem lex_of_all_isWordChar (d : Dialect) {cs : List Char} (hne : cs ≠ [])
    (h : cs.all isWordChar) : d.lex cs = some [.word cs] := by
  have hopening : isWordChar d.opening = false := by cases d <;> rfl
  induction cs with
  | nil => exact absurd rfl hne
  | cons c cs ih =>
    rw [List.all_cons, Bool.and_eq_true] at h
    obtain ⟨hc, hcs⟩ := h
    have hneOpening : c ≠ d.opening := by
      rintro rfl
      rw [hopening] at hc
      cases hc
    have hneQuote : c ≠ '\x27' := by
      rintro rfl
      cases hc
    rw [lex, if_neg hneOpening, if_neg hneQuote, if_pos hc]
    by_cases hnil : cs = []
    · rw [hnil, lex]
      rfl
    · rw [ih hnil hcs]
      rfl

/-- Texts in a row that meet where a token ends have their tokens in a row. -/
theorem tokens?_append {d : Dialect} {s s' : String} {tokens more : List Token}
    (h : d.tokens? s = some tokens) (h' : d.tokens? s' = some more)
    (hapart : d.Apart s.toList s'.toList) : d.tokens? (s ++ s') = some (tokens ++ more) := by
  rw [tokens?, String.toList_append]
  exact lex_append h' _ h hapart

end Dialect

end FilterQuery.Sql
