import FilterQuery.Proofs.Query.Filling

/-!
# Requests without placeholders

Between decoding a text and reading its query an engine rebuilds the whole JSON value with its
placeholders filled. Where there is nothing to fill the rebuilt value is the decoded one, and the
engine gives the query, or the error, that the text has without any engine.
-/

namespace FilterQuery

open Placeholder (IsPlaceholder)

/-- No string in a JSON value is a placeholder. -/
def HasNoPlaceholder (j : Json) : Prop :=
  ∀ place s name, j.at? place = some (.string s) → ¬ IsPlaceholder s name

/-- The listed strings tell whether there is a placeholder among them. -/
theorem hasNoPlaceholder_iff {j : Json} (hj : j.WellFormed) :
    HasNoPlaceholder j ↔ ∀ t ∈ j.texts, Placeholder.name? t.2 = none := by
  constructor
  · rintro h ⟨place, s⟩ hmem
    rw [Option.eq_none_iff_forall_ne_some]
    intro name hname
    exact h place s name ((Json.mem_texts_iff hj).mp hmem) (Placeholder.name?_eq_some_iff.mp hname)
  · intro h place s name hs hname
    have hnone := h (place, s) ((Json.mem_texts_iff hj).mpr hs)
    rw [Placeholder.name?_eq_some_iff.mpr hname] at hnone
    cases hnone

namespace Placeholder

/-- Nothing has a value where nothing is registered or pinned. -/
theorem Registry.lookup?_empty {c : Context} (h : c.overrides = []) (name : String) :
    Registry.empty.lookup? c name = none := by
  rw [lookup?, Context.override?, h]
  rfl

namespace Substitution

variable {c : Context} {j : Json}

/-- Without placeholders a value is rebuilt as it is, whatever has been registered and pinned. -/
theorem apply_of_hasNoPlaceholder (p : Substitution) (hj : j.WellFormed)
    (h : HasNoPlaceholder j) : p.apply c j = .ok j := by
  have hname := (hasNoPlaceholder_iff hj).mp h
  have hstays : ∀ t ∈ j.texts, unresolved? (p.registry.lookup? c) t.2 = none := by
    intro t ht
    rw [unresolved?, hname t ht]
    rfl
  exact p.apply_eq_self (p.exists_apply hstays) fun t ht => fill_of_name?_eq_none (hname t ht) _

/-- Placeholders without value stay under the lenient policy. -/
theorem apply_of_no_value (h : c.overrides = []) (j : Json) :
    apply ⟨.empty, .lenient⟩ c j = .ok j :=
  apply_eq_self _ ⟨_, apply_lenient .empty c j⟩ fun _ _ =>
    fill_of_no_value fun name _ => Registry.lookup?_empty h name

end Substitution

end Placeholder

/-- What a text is decoded to is well formed. -/
theorem Query.parse?_of_decode {text : String} {j : Json} (h : decode text = .ok j) :
    Json.parse? text = some j := by
  rw [decode] at h
  split at h
  · cases h
  · split at h
    · rename_i hparse
      cases h
      exact hparse
    · cases h

namespace Engine

variable {m : Type → Type} {Condition : Type} (e : Engine m Condition) (c : Placeholder.Context)

/-- An engine that rebuilds the value of a text as it is gives what the text gives by itself. -/
theorem parse_of_apply {text : String}
    (h : ∀ j, Query.decode text = .ok j → e.substitution.apply c j = .ok j) :
    e.parse c text = Query.parse text := by
  rw [parse, Query.parse]
  cases hdecode : Query.decode text with
  | error error => rfl
  | ok j =>
    change (e.substitution.apply c j >>= Query.ofJson) = Query.ofJson j
    rw [h j hdecode]
    rfl

/-- A text gives with an engine what it gives without one: the same query, or the same error, if it
is blank, no JSON or no query. It does so with every engine and in every context unless a string
in its JSON is a placeholder, and even then with an engine that knows no placeholder and lets
all of them stand. -/
theorem parse_verbatim (text : String) :
    ((∀ j, Json.parse? text = some j → HasNoPlaceholder j) → e.parse c text = Query.parse text) ∧
    (e.substitution.registry = .empty → e.substitution.policy = .lenient → c.overrides = [] →
      e.parse c text = Query.parse text) := by
  constructor
  · intro h
    refine e.parse_of_apply c fun j hdecode => ?_
    have hparse := Query.parse?_of_decode hdecode
    exact e.substitution.apply_of_hasNoPlaceholder (Json.wellFormed_of_parse? hparse) (h j hparse)
  · intro hregistry hpolicy hpinned
    have hsubstitution : e.substitution = ⟨.empty, .lenient⟩ := by rw [← hregistry, ← hpolicy]
    refine e.parse_of_apply c fun j _ => ?_
    rw [hsubstitution]
    exact Placeholder.Substitution.apply_of_no_value hpinned j

/-- Brackets that make no placeholder, a text of blanks, and placeholders that nobody knows. -/
theorem parse_verbatim_brackets :
    let l : Leaf := ⟨.string, "[me]s", "equals", .string "[[me]]", none⟩
    let l' : Leaf := ⟨.date, "[me]", "equals", .string "[today]", none⟩
    let e : Engine Id Sql.Condition := .builtin Sql.Dialect.postgres.backend
    let e' : Engine Id Sql.Condition := { e with substitution := ⟨.empty, .lenient⟩ }
    let c := Placeholder.Context.of "[me]" .dayOne
    e.parse (c.withOverride "me" "you") l.encode.text = .ok (.leaf l) ∧
    e.parse c " \n" = .error (.malformed .blankText) ∧
    e'.parse c l'.encode.text = .ok (.leaf l') := by
  intro l l' e e' c
  have hj : l.encode.WellFormed := Leaf.wellFormed_encode rfl trivial
  have hj' : l'.encode.WellFormed := Leaf.wellFormed_encode rfl trivial
  have hread : Query.parse l.encode.text = .ok (.leaf l) :=
    Query.parse_text_encode_leaf ⟨by decide, by decide, rfl⟩ hj
  have hread' : Query.parse l'.encode.text = .ok (.leaf l') :=
    Query.parse_text_encode_leaf ⟨by decide, by decide, rfl⟩ hj'
  have hplain : ∀ j, Json.parse? l.encode.text = some j → HasNoPlaceholder j := by
    intro j hparse
    rw [Json.parse?_text hj, if_pos (by decide)] at hparse
    cases hparse
    exact (hasNoPlaceholder_iff hj).mpr (by decide)
  have hblank : ∀ j, Json.parse? " \n" = some j → HasNoPlaceholder j := by
    intro j hparse
    cases hparse
  refine ⟨?_, ?_, ?_⟩
  · exact ((parse_verbatim e _ l.encode.text).1 hplain).trans hread
  · exact (parse_verbatim e c " \n").1 hblank
  · exact ((parse_verbatim e' c l'.encode.text).2 rfl rfl rfl).trans hread'

end Engine

end FilterQuery
