import FilterQuery.Proofs.Json.ReadBack
import FilterQuery.Proofs.Query.Reading

/-!
# Queries from text and from JSON

Three bounds meet where a query is read: the reader of JSON counts containers in each other,
`ofJson` counts the values on a way down, and validation counts the levels of the query. The first
one is the widest, so a text gives what the JSON that it spells out gives.
-/

namespace FilterQuery.Query

/-- A JSON value is decoded from its text, unless the reader has no room for it. -/
theorem decode_text {j : Json} (hj : j.WellFormed) :
    decode j.text =
      if j.nesting ≤ Json.maxNesting then .ok j else .error (.malformed .notJson) := by
  rw [decode, j.isBlankText_text, if_neg (by simp), Json.parse?_text hj]
  by_cases hroom : j.nesting ≤ Json.maxNesting
  · rw [if_pos hroom, if_pos hroom]
  · rw [if_neg hroom, if_neg hroom]

/-- The text of a JSON value gives what the value gives, unless the reader has no room for it. -/
theorem parse_text {j : Json} (hj : j.WellFormed) :
    parse j.text =
      if j.nesting ≤ Json.maxNesting then ofJson j else .error (.malformed .notJson) := by
  rw [parse, decode_text hj]
  by_cases hroom : j.nesting ≤ Json.maxNesting
  · rw [if_pos hroom, if_pos hroom]
    rfl
  · rw [if_neg hroom, if_neg hroom]
    rfl

/-- What the bound on values lets through the reader of JSON has room for. -/
theorem nesting_le_of_ofJson {j : Json} {q : Query} (h : ofJson j = .ok q) :
    j.nesting ≤ Json.maxNesting := by
  have hdepth := (ofJson_eq_ok_iff.mp h).1
  have hle := j.nesting_le_depth
  have hbounds : maxNesting ≤ Json.maxNesting := by decide
  omega

/-- A JSON value and its text are held to the same bound: a query that the value gives the text
gives as well, and where the value gives none the text is malformed. -/
theorem parse_text_agrees {j : Json} (hj : j.WellFormed) :
    (∀ q, ofJson j = .ok q → parse j.text = .ok q) ∧
    ∀ e, ofJson j = .error e → ∃ m, parse j.text = .error (.malformed m) := by
  rw [parse_text hj]
  constructor
  · intro q hq
    rw [if_pos (nesting_le_of_ofJson hq), hq]
  · intro e he
    rcases ofJson_eq_ok_or_malformed j with ⟨q, hq⟩ | ⟨m, hm⟩
    · rw [hq] at he
      cases he
    · by_cases hroom : j.nesting ≤ Json.maxNesting
      · exact ⟨m, by rw [if_pos hroom, hm]⟩
      · exact ⟨.notJson, by rw [if_neg hroom]⟩

/-- A leaf about a half with an escaped character in its column, and a node without children. -/
theorem parse_text_agrees_half :
    let half : Binary64 := ⟨false, Binary64.leastNormal, -53, by decide⟩
    let j := Json.object [("column", .string "a\n\"b\""), ("note", .array [.null, .array []]),
      ("operator", .string "equals"), ("type", .string "NumericQuery"),
      ("value", .number (.double half))]
    let j' := Json.object [("type", .string "AndQuery")]
    let q := Query.leaf ⟨.numeric, "a\n\"b\"", "equals", .number (.double half), none⟩
    j.WellFormed ∧ ofJson j = .ok q ∧ parse j.text = .ok q ∧
    j'.WellFormed ∧ ofJson j' = .error (.malformed (.missingMember "children")) ∧
    ∃ m, parse j'.text = .error (.malformed m) := by
  intro half j j' q
  have hkeys : ["column", "note", "operator", "type", "value"].Pairwise (· < ·) := by decide
  have hkeys' : ["type"].Pairwise (· < ·) := by decide
  have hj : j.WellFormed :=
    ⟨hkeys, trivial, ⟨trivial, trivial, trivial⟩, trivial, trivial, trivial, trivial⟩
  have hj' : j'.WellFormed := ⟨hkeys', trivial, trivial⟩
  have hread : read j = .ok q := rfl
  have hvalid : q.validate = .ok () :=
    q.validate_eq_ok_iff.mpr ⟨by decide, List.forall_mem_singleton.mpr ⟨by decide, by decide, rfl⟩⟩
  have hq : ofJson j = .ok q := by
    rw [ofJson, if_pos ((Json.nestsWithin_root_iff _ _).mpr (by decide)), hread]
    change q.validate.map _ = _
    rw [hvalid]
    rfl
  have he : ofJson j' = .error (.malformed (.missingMember "children")) := by
    rw [ofJson, if_pos ((Json.nestsWithin_root_iff _ _).mpr (by decide))]
    rfl
  exact ⟨hj, hq, (parse_text_agrees hj).1 q hq, hj', he, (parse_text_agrees hj').2 _ he⟩

end FilterQuery.Query
