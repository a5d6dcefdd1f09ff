import FilterQuery.Proofs.Sql.Token
import FilterQuery.Sql.Rendering

/-!
# Templates of comparisons

A comparison is written by a template that depends on its relation alone: a fixed text, the column
in quotes, another fixed text and, for relations that take one, the value as a literal. Each part
ends where a token ends, so no character of a column or of a value gets out of its own tokens.
-/

namespace FilterQuery.Sql

open Token

/-- The fixed texts around the column of a comparison, and whether its value stands behind them. -/
structure Template where
  /-- What stands in front of the column. -/
  before : String
  /-- What stands behind the column, in front of the value if there is one. -/
  after : String
  /-- Whether the value follows. -/
  hasValue : Bool

namespace Dialect

/-- The template of a relation, for a value that is null or for one that is not. -/
def template (d : Dialect) (relation : Relation) (isNull : Bool) : Template :=
  match relation, d with
  | .eq, _ => if isNull then ⟨"", " IS NULL", false⟩ else ⟨"", " = ", true⟩
  | .ne, _ => if isNull then ⟨"", " IS NOT NULL", false⟩ else ⟨"", " <> ", true⟩
  | .gt, _ => ⟨"", " > ", true⟩
  | .ge, _ => ⟨"", " >= ", true⟩
  | .lt, _ => ⟨"", " < ", true⟩
  | .le, _ => ⟨"", " <= ", true⟩
  | .like, _ => ⟨"", " LIKE ", true⟩
  | .isNull, _ => ⟨"", " IS NULL", false⟩
  | .isNotNull, _ => ⟨"", " IS NOT NULL", false⟩
  | .dayEq, .postgres => ⟨"EXTRACT(DAY FROM ", ") = ", true⟩
  | .dayEq, .sqlServer => ⟨"DAY(", ") = ", true⟩
  | .monthEq, .postgres => ⟨"EXTRACT(MONTH FROM ", ") = ", true⟩
  | .monthEq, .sqlServer => ⟨"MONTH(", ") = ", true⟩
  | .yearEq, .postgres => ⟨"EXTRACT(YEAR FROM ", ") = ", true⟩
  | .yearEq, .sqlServer => ⟨"YEAR(", ") = ", true⟩
  | .dayOfWeekEq, .postgres => ⟨"EXTRACT(ISODOW FROM ", ") = ", true⟩
  | .dayOfWeekEq, .sqlServer =>
    ⟨"((DATEPART(WEEKDAY, ", ") + @@DATEFIRST - 2) % 7) + 1 = ", true⟩
  | .dateEq, _ => ⟨"CAST(", " AS DATE) = ", true⟩

/-- The template of a comparison. -/
def templateOf (d : Dialect) (x : Comparison) : Template :=
  d.template x.relation (x.value = .null)

/-- A comparison is written by its template. -/
theorem renderComparison_eq_template (d : Dialect) (x : Comparison) :
    d.renderComparison x = (d.templateOf x).before ++ d.quote x.column ++ (d.templateOf x).after ++
      if (d.templateOf x).hasValue then d.literal x.value else "" := by
  obtain ⟨column, relation, value⟩ := x
  have hsign (before column close after value : String) (h : close ++ " = " = after) :
      before ++ column ++ close ++ " = " ++ value = before ++ column ++ after ++ value := by
    rw [← h, ← String.append_assoc]
  cases relation with
  | eq | ne =>
    by_cases hnull : value = .null
    · simp [renderComparison, templateOf, template, hnull]
    · simp [renderComparison, templateOf, template, hnull]
  | dayEq | monthEq | yearEq | dayOfWeekEq =>
    cases d <;> exact hsign _ _ _ _ _ rfl
  | _ => simp [renderComparison, templateOf, template]

/-- The tokens of a text whose quoted parts end. -/
def fixed (d : Dialect) (s : String) : List Token := (d.tokens? s).getD []

/-- The tokens of a column: its segments as identifiers with dots between them. -/
def columnTokens (column : String) : List Token :=
  [.mark '.'].intercalate ((segments column).map fun segment => [.identifier segment.toList])

/-- The tokens of a number: a sign, its whole part, and behind a point its fraction. -/
def numberTokens (n : Decimal) : List Token :=
  let digits := Text.paddedDigits (n.scale + 1) n.coefficient
  (if n.negative then [.mark '-'] else []) ++ .word (digits.take (digits.length - n.scale)) ::
    if n.scale = 0 then [] else [.mark '.', .word (digits.drop (digits.length - n.scale))]

/-- The tokens of a value as a literal. -/
def valueTokens (d : Dialect) : Scalar → List Token
  | .null => [.word "NULL".toList]
  | .bool b => [.word (d.boolLiteral b).toList]
  | .string s => [.literal s.toList]
  | .date date =>
    match d with
    | .postgres => d.fixed "DATE " ++ [.literal date.chars]
    | .sqlServer => d.fixed "CAST(" ++ .literal date.chars :: d.fixed " AS DATE)"
  | .numeric n => numberTokens n.normalize

/-- The tokens of a comparison: those of its template around its column and its value. -/
def comparisonTokens (d : Dialect) (x : Comparison) : List Token :=
  d.fixed (d.templateOf x).before ++ columnTokens x.column ++ d.fixed (d.templateOf x).after ++
    if (d.templateOf x).hasValue then d.valueTokens x.value else []

/-- The fixed texts of a template have tokens of their own, which end where the texts end. -/
structure Fits (d : Dialect) (t : Template) : Prop where
  /-- The text in front has tokens. -/
  before : (d.tokens? t.before).isSome
  /-- The text behind has tokens. -/
  after : (d.tokens? t.after).isSome
  /-- The column starts a token. -/
  before_getLast : t.before.toList.getLast?.all d.isBreak
  /-- There is a text behind the column. -/
  after_ne_nil : t.after.toList ≠ []
  /-- The column ends a token. -/
  after_head : t.after.toList.head?.all d.isBreak
  /-- The value starts a token. -/
  after_getLast : t.hasValue → t.after.toList.getLast?.all d.isBreak

theorem fits_templateOf (d : Dialect) (x : Comparison) : d.Fits (d.templateOf x) := by
  rw [templateOf]
  generalize x.relation = relation
  generalize decide (x.value = .null) = isNull
  cases d <;> cases relation <;> cases isNull <;> constructor <;> decide +kernel

/-- A text whose quoted parts end has its fixed tokens. -/
theorem tokens?_eq_fixed {d : Dialect} {s : String} (h : (d.tokens? s).isSome) :
    d.tokens? s = some (d.fixed s) := by
  obtain ⟨tokens, htokens⟩ := Option.isSome_iff_exists.mp h
  rw [fixed, htokens, Option.getD_some]

/-- An identifier has a segment, if only an empty one. -/
theorem segments_ne_nil (identifier : String) : segments identifier ≠ [] := by
  rw [segments, ne_eq, List.map_eq_nil_iff]
  exact List.splitOn_ne_nil '.' identifier.toList

/-- Segments in quotes with dots between them are identifiers with dots between them. -/
theorem tokens?_intercalate_quoteSegment (d : Dialect) (names : List String) :
    d.tokens? (".".intercalate (names.map d.quoteSegment)) =
      some ([.mark '.'].intercalate (names.map fun name => [.identifier name.toList])) := by
  have hdot : d.isBreak '.' := by cases d <;> rfl
  induction names with
  | nil => rfl
  | cons name names ih =>
    cases names with
    | nil =>
      rw [List.map_singleton, List.map_singleton, String.intercalate_singleton,
        List.intercalate_singleton]
      exact d.tokens?_quoteSegment name
    | cons next names =>
      rw [List.map_cons, List.map_cons] at ih ⊢
      rw [List.map_cons, String.intercalate_cons_cons, List.map_cons,
        List.intercalate_cons_cons, String.append_assoc, List.append_assoc]
      have hrest : d.tokens? ("." ++ ".".intercalate
            (d.quoteSegment next :: names.map d.quoteSegment)) =
          some ([.mark '.'] ++ [.mark '.'].intercalate
            ([.identifier next.toList] :: names.map fun name => [.identifier name.toList])) :=
        tokens?_append (by cases d <;> rfl) ih (.of_getLast hdot)
      refine tokens?_append (d.tokens?_quoteSegment name) hrest (.of_head ?_)
      rw [String.toList_append]
      exact hdot

/-- A column is read as its segments. -/
theorem tokens?_quote (d : Dialect) (column : String) :
    d.tokens? (d.quote column) = some (columnTokens column) :=
  d.tokens?_intercalate_quoteSegment (segments column)

/-- A digit may stand in a word. -/
theorem isWordChar_of_isDigit {c : Char} (h : Text.isDigit c) : isWordChar c := by
  have hdigit : c.isDigit = true := by
    simp only [Text.isDigit, Bool.and_eq_true, decide_eq_true_eq] at h
    simp only [Char.isDigit, Bool.and_eq_true, decide_eq_true_eq]
    exact h
  simp [isWordChar, Char.isAlphanum, hdigit]

/-- A nonempty run of digits is one word. -/
theorem lex_of_all_isDigit (d : Dialect) {cs : List Char} (hne : cs ≠ [])
    (h : ∀ c ∈ cs, Text.isDigit c) : d.lex cs = some [.word cs] :=
  d.lex_of_all_isWordChar hne (List.all_eq_true.mpr fun c hc => isWordChar_of_isDigit (h c hc))

/-- Runs of digits on both sides of a point are two words. -/
private theorem lex_point (d : Dialect) {whole fraction : List Char} (hwhole : whole ≠ [])
    (hfraction : fraction ≠ []) (hwholeDigit : ∀ c ∈ whole, Text.isDigit c)
    (hfractionDigit : ∀ c ∈ fraction, Text.isDigit c) :
    d.lex (whole ++ '.' :: fraction) = some [.word whole, .mark '.', .word fraction] := by
  have hpoint : d.isBreak '.' := by cases d <;> rfl
  have hpointed : d.lex ('.' :: fraction) = some [.mark '.', .word fraction] := by
    rw [lex_cons_of_isBreak hpoint, d.lex_of_all_isDigit hfraction hfractionDigit]
    rfl
  exact lex_append hpointed _ (d.lex_of_all_isDigit hwhole hwholeDigit) (.of_head hpoint)

/-- A number is read as its sign, its whole part and its fraction. -/
theorem tokens?_decimal (d : Dialect) (n : Decimal) : d.tokens? n.text = some (numberTokens n) := by
  rw [tokens?, Decimal.text, String.toList_ofList, Decimal.chars, numberTokens]
  generalize hdigits : Text.paddedDigits (n.scale + 1) n.coefficient = digits
  have hdigit : ∀ c ∈ digits, Text.isDigit c :=
    List.all_eq_true.mp (hdigits ▸ Text.all_isDigit_paddedDigits _ _)
  have hlength : n.scale + 1 ≤ digits.length := hdigits ▸ Text.le_length_paddedDigits _ _
  have hwhole : digits.take (digits.length - n.scale) ≠ [] := by
    rw [← List.length_pos_iff, List.length_take]
    omega
  have hwholeDigit : ∀ c ∈ digits.take (digits.length - n.scale), Text.isDigit c :=
    fun c hc => hdigit c (List.mem_of_mem_take hc)
  have hunsigned : d.lex (digits.take (digits.length - n.scale) ++
        if n.scale = 0 then [] else '.' :: digits.drop (digits.length - n.scale)) =
      some (.word (digits.take (digits.length - n.scale)) ::
        if n.scale = 0 then [] else
          [.mark '.', .word (digits.drop (digits.length - n.scale))]) := by
    by_cases hscale : n.scale = 0
    · rw [if_pos hscale, if_pos hscale, List.append_nil]
      exact d.lex_of_all_isDigit hwhole hwholeDigit
    · have hfraction : digits.drop (digits.length - n.scale) ≠ [] := by
        rw [← List.length_pos_iff, List.length_drop]
        omega
      rw [if_neg hscale, if_neg hscale]
      exact d.lex_point hwhole hfraction hwholeDigit
        fun c hc => hdigit c (List.mem_of_mem_drop hc)
  have hminus : d.isBreak '-' := by cases d <;> rfl
  rw [List.append_assoc]
  by_cases hnegative : n.negative
  · rw [if_pos hnegative, if_pos hnegative, List.singleton_append, lex_cons_of_isBreak hminus,
      hunsigned]
    rfl
  · rw [if_neg hnegative, if_neg hnegative]
    exact hunsigned

/-- A date holds no quote. -/
theorem stringLiteral_date (date : Date) : stringLiteral date.text = "'" ++ date.text ++ "'" := by
  have hquote : '\x27' ∉ date.text.toList := by
    rw [Date.text, String.toList_ofList]
    intro hmem
    rcases Date.isDigit_or_sign_of_mem_chars hmem with h | h | h
    · exact absurd h (by decide)
    · exact absurd h (by decide)
    · exact absurd h (by decide)
  rw [stringLiteral, Text.enclose, Text.double_of_not_mem hquote, ← String.toList_inj]
  simp

/-- A date is read as a literal in the words of the dialect. -/
theorem tokens?_dateLiteral (d : Dialect) (date : Date) :
    d.tokens? (d.dateLiteral date) = some (d.valueTokens (.date date)) := by
  have hliteral : d.tokens? ("'" ++ date.text ++ "'") = some [.literal date.chars] := by
    rw [← stringLiteral_date, tokens?_stringLiteral, Date.text, String.toList_ofList]
  cases d with
  | postgres =>
    have hsplit : postgres.dateLiteral date = "DATE " ++ ("'" ++ date.text ++ "'") := by
      rw [dateLiteral, ← String.append_assoc, ← String.append_assoc]
      rfl
    rw [hsplit]
    exact tokens?_append rfl hliteral (.of_getLast rfl)
  | sqlServer =>
    have hsplit : sqlServer.dateLiteral date =
        "CAST(" ++ (("'" ++ date.text ++ "'") ++ " AS DATE)") := by
      have hclose : ("' AS DATE)" : String) = "'" ++ " AS DATE)" := by decide
      rw [dateLiteral, hclose, ← String.append_assoc, ← String.append_assoc,
        ← String.append_assoc, ← String.append_assoc]
      rfl
    rw [hsplit]
    exact tokens?_append rfl (tokens?_append hliteral rfl (.of_head rfl))
      (.of_getLast rfl)

/-- A value is read as the tokens of its literal. -/
theorem tokens?_literal (d : Dialect) (value : Scalar) :
    d.tokens? (d.literal value) = some (d.valueTokens value) := by
  cases value with
  | null => cases d <;> rfl
  | bool b => cases d <;> cases b <;> rfl
  | string s => exact d.tokens?_stringLiteral s
  | date date => exact d.tokens?_dateLiteral date
  | numeric n => exact d.tokens?_decimal n.normalize

/-- A comparison is read as its template around its column and its value. -/
theorem tokens?_renderComparison (d : Dialect) (x : Comparison) :
    d.tokens? (d.renderComparison x) = some (d.comparisonTokens x) := by
  have hfits := d.fits_templateOf x
  have hcolumn : d.tokens? ((d.templateOf x).before ++ d.quote x.column) =
      some (d.fixed (d.templateOf x).before ++ columnTokens x.column) :=
    tokens?_append (tokens?_eq_fixed hfits.before) (d.tokens?_quote x.column)
      (.of_getLast hfits.before_getLast)
  have hafter : d.tokens? ((d.templateOf x).before ++ d.quote x.column ++ (d.templateOf x).after) =
      some (d.fixed (d.templateOf x).before ++ columnTokens x.column ++
        d.fixed (d.templateOf x).after) :=
    tokens?_append hcolumn (tokens?_eq_fixed hfits.after) (.of_head hfits.after_head)
  rw [renderComparison_eq_template, comparisonTokens]
  by_cases hvalue : (d.templateOf x).hasValue
  · rw [if_pos hvalue, if_pos hvalue]
    refine tokens?_append hafter (d.tokens?_literal x.value) (.of_getLast ?_)
    have hlast := List.getLast?_eq_some_getLast hfits.after_ne_nil
    rw [String.toList_append, List.getLast?_append, hlast, Option.some_or, ← hlast]
    exact hfits.after_getLast hvalue
  · rw [if_neg hvalue, if_neg hvalue, String.append_empty, List.append_nil]
    exact hafter

end Dialect

end FilterQuery.Sql
