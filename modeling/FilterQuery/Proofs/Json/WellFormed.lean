import FilterQuery.Json.Reader
import FilterQuery.Proofs.Dictionary

/-!
# Values that decoding gives

A JSON value is well formed when its whole numbers fit 64 bits and the members of each of its
objects ascend by key, so that no key stands twice. Reading a text gives no other values.
-/

namespace FilterQuery.Json

mutual

/-- Whole numbers fit, and the members of every object ascend by key. -/
def WellFormed : Json → Prop
  | .number (.whole n) => IsWhole n
  | .array items => WellFormedItems items
  | .object members => Dictionary.Ascends members ∧ WellFormedMembers members
  | _ => True

/-- All of some items are well formed. -/
def WellFormedItems : List Json → Prop
  | [] => True
  | j :: rest => WellFormed j ∧ WellFormedItems rest

/-- The values of all of some members are well formed. -/
def WellFormedMembers : List (String × Json) → Prop
  | [] => True
  | (_, j) :: rest => WellFormed j ∧ WellFormedMembers rest

end

theorem wellFormedMembers_iff (members : List (String × Json)) :
    WellFormedMembers members ↔ ∀ m ∈ members, m.2.WellFormed := by
  induction members with
  | nil => simp [WellFormedMembers]
  | cons m rest ih => rw [WellFormedMembers, ih, List.forall_mem_cons]

/-- An object made of well-formed members is well formed. -/
theorem wellFormed_ofMembers {members : List (String × Json)} (h : WellFormedMembers members) :
    (ofMembers members).WellFormed := by
  refine ⟨Dictionary.ascends_ofList members, (wellFormedMembers_iff _).mpr ?_⟩
  rintro ⟨key, j⟩ hm
  have hfound := (Dictionary.find?_eq_some_iff_mem (Dictionary.ascends_ofList members)).mpr hm
  rw [Dictionary.find?_ofList] at hfound
  obtain ⟨m, hlast, rfl⟩ := Option.map_eq_some_iff.mp hfound
  have hmem : m ∈ members := (List.mem_filter.mp (List.mem_of_getLast? hlast)).1
  exact (wellFormedMembers_iff members).mp h m hmem

/-! ### What the reader gives -/

theorem wellFormed_of_wholeNumber? {negative : Bool} {digits : Nat} {n : Number}
    (h : wholeNumber? negative digits = some n) : (Json.number n).WellFormed := by
  rw [wholeNumber?] at h
  obtain ⟨hwhole, heq⟩ := Option.ite_none_right_eq_some.mp h
  cases heq
  exact hwhole.1

theorem wellFormed_of_numberOf? {negative : Bool} {whole fraction : List Char}
    {power : Option Int} {n : Number} (h : numberOf? negative whole fraction power = some n) :
    (Json.number n).WellFormed := by
  have hdouble : ∀ x : Option Binary64, x.map Number.double = some n →
      (Json.number n).WellFormed := by
    intro x hx
    obtain ⟨_, -, rfl⟩ := Option.map_eq_some_iff.mp hx
    trivial
  rw [numberOf?] at h
  split at h
  · rw [Option.orElse_eq_orElse, Option.orElse_eq_or, Option.or_eq_some_iff] at h
    rcases h with h | ⟨-, h⟩
    · exact wellFormed_of_wholeNumber? h
    · exact hdouble _ h
  · exact hdouble _ h

theorem wellFormed_of_readNumber {cs rest : List Char} {n : Number}
    (h : readNumber cs = some (n, rest)) : (Json.number n).WellFormed := by
  rw [readNumber, readMagnitude] at h
  obtain ⟨whole, -, h⟩ := Option.bind_eq_some_iff.mp h
  obtain ⟨fraction, -, h⟩ := Option.bind_eq_some_iff.mp h
  obtain ⟨power, -, h⟩ := Option.bind_eq_some_iff.mp h
  obtain ⟨found, hfound, heq⟩ := Option.bind_eq_some_iff.mp h
  cases heq
  exact wellFormed_of_numberOf? hfound

/-- With any fuel, values, items and members that are read are well formed. -/
theorem wellFormed_of_read (fuel : Nat) :
    (∀ room cs j rest, readValue fuel room cs = some (j, rest) → j.WellFormed) ∧
    (∀ room cs items rest, readItems fuel room cs = some (items, rest) →
      WellFormedItems items) ∧
    (∀ room cs members rest, readMembers fuel room cs = some (members, rest) →
      WellFormedMembers members) := by
  induction fuel with
  | zero =>
    refine ⟨?_, ?_, ?_⟩
    · intro room cs j rest h
      rw [readValue] at h
      cases h
    · intro room cs items rest h
      rw [readItems] at h
      cases h
    · intro room cs members rest h
      rw [readMembers] at h
      cases h
  | succ fuel ih =>
    obtain ⟨ihValue, ihItems, ihMembers⟩ := ih
    refine ⟨?value, ?items, ?members⟩
    case value =>
      intro room cs j rest h
      rw [readValue.eq_def] at h
      dsimp only at h
      split at h
      · cases h
        trivial
      · cases h
        trivial
      · cases h
        trivial
      · obtain ⟨found, -, heq⟩ := Option.map_eq_some_iff.mp h
        cases heq
        trivial
      · split at h
        · cases h
        · split at h
          · cases h
            trivial
          · obtain ⟨found, hfound, heq⟩ := Option.map_eq_some_iff.mp h
            cases heq
            exact ihItems _ _ _ _ hfound
      · split at h
        · cases h
        · split at h
          · cases h
            exact ⟨List.Pairwise.nil, trivial⟩
          · obtain ⟨found, hfound, heq⟩ := Option.map_eq_some_iff.mp h
            cases heq
            exact wellFormed_ofMembers (ihMembers _ _ _ _ hfound)
      · obtain ⟨found, hfound, heq⟩ := Option.map_eq_some_iff.mp h
        cases heq
        exact wellFormed_of_readNumber hfound
    case items =>
      intro room cs items rest h
      rw [readItems] at h
      split at h
      · cases h
      · rename_i item behind hitem
        have hfirst := ihValue _ _ _ _ hitem
        split at h
        · cases h
          exact ⟨hfirst, trivial⟩
        · obtain ⟨found, hfound, heq⟩ := Option.map_eq_some_iff.mp h
          cases heq
          exact ⟨hfirst, ihItems _ _ _ _ hfound⟩
        · cases h
    case members =>
      intro room cs members rest h
      rw [readMembers.eq_def] at h
      dsimp only at h
      split at h
      · split at h
        · cases h
        · split at h
          · split at h
            · cases h
            · rename_i value behind hvalue
              have hfirst := ihValue _ _ _ _ hvalue
              split at h
              · cases h
                exact ⟨hfirst, trivial⟩
              · obtain ⟨found, hfound, heq⟩ := Option.map_eq_some_iff.mp h
                cases heq
                exact ⟨hfirst, ihMembers _ _ _ _ hfound⟩
              · cases h
          · cases h
      · cases h

/-- What a text is read as is well formed. -/
theorem wellFormed_of_parse? {s : String} {j : Json} (h : parse? s = some j) : j.WellFormed := by
  simp only [parse?] at h
  split at h
  · rename_i found rest hread
    split at h
    · cases h
      exact (wellFormed_of_read _).1 _ _ _ _ hread
    · cases h
  · cases h

end FilterQuery.Json
