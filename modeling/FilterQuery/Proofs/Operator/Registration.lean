import FilterQuery.Operator.Builtin
import FilterQuery.Proofs.Operator.History

/-!
# Registering together

A list of operators enters a catalog as a whole or not at all. It is refused for the first operator
that is not fit, and otherwise comes to registering one after another. Since names keep their places
and the last operator of a name is the one that stays, the same list once more changes nothing,
whatever names repeat in it and whatever the catalog held before.
-/

namespace FilterQuery

/-- No type repeats exactly in a list that holds each of its types once, and none of those before
it. -/
theorem ScalarType.firstRepeated?_eq_none_iff (seen types : List ScalarType) :
    firstRepeated? seen types = none ↔ types.Nodup ∧ ∀ t ∈ types, t ∉ seen := by
  induction types generalizing seen with
  | nil => simp [firstRepeated?]
  | cons t rest ih =>
    rw [firstRepeated?]
    by_cases h : t ∈ seen
    · simp [h]
    · rw [if_neg (by simpa using h), ih, List.nodup_cons, List.forall_mem_cons]
      constructor
      · rintro ⟨hnodup, hrest⟩
        have hfresh : t ∉ rest := fun ht => hrest t ht List.mem_cons_self
        exact ⟨⟨hfresh, hnodup⟩, h, fun x hx hseen => hrest x hx (List.mem_cons_of_mem t hseen)⟩
      · rintro ⟨⟨hfresh, hnodup⟩, -, hrest⟩
        refine ⟨hnodup, fun x hx hseen => ?_⟩
        rcases List.mem_cons.mp hseen with rfl | hseen
        · exact hfresh hx
        · exact hrest x hx hseen

namespace Operator

/-- Operators that a catalog takes when they are registered together. -/
structure Fit (op : Operator) : Prop where
  /-- There is a name. -/
  name_ne_empty : op.name ≠ ""
  /-- No character of the name is blank. -/
  name_unbroken : ∀ ch ∈ op.name.toList, Text.isBlank ch = false
  /-- Columns of some type are taken. -/
  fieldTypes_ne_nil : op.fieldTypes ≠ []
  /-- No type of columns is declared twice. -/
  fieldTypes_nodup : op.fieldTypes.Nodup
  /-- Values of some type are taken. -/
  valueTypes_ne_nil : op.valueTypes ≠ []
  /-- No type of values is declared twice. -/
  valueTypes_nodup : op.valueTypes.Nodup

/-- Declared types have no flaw exactly when there are some and none of them repeats. -/
theorem typesFlaw?_eq_none_iff (role : String) (types : List ScalarType) :
    typesFlaw? role types = none ↔ types ≠ [] ∧ types.Nodup := by
  rw [typesFlaw?]
  cases types with
  | nil => simp
  | cons t rest => simp [ScalarType.firstRepeated?_eq_none_iff]

/-- A name passes both of its checks exactly when it has characters and none of them is blank. -/
theorem name_unflawed_iff (name : String) :
    (¬ Text.isBlankText name = true ∧ ¬ name.toList.any Text.isBlank = true) ↔
      name ≠ "" ∧ ∀ ch ∈ name.toList, Text.isBlank ch = false := by
  have hunbroken : ¬ name.toList.any Text.isBlank = true ↔
      ∀ ch ∈ name.toList, Text.isBlank ch = false := by simp
  rw [hunbroken]
  constructor
  · rintro ⟨hblank, h⟩
    refine ⟨?_, h⟩
    rintro rfl
    exact hblank rfl
  · rintro ⟨hne, h⟩
    refine ⟨fun hblank => ?_, h⟩
    have hchars : name.toList ≠ [] := fun hnil => hne (String.toList_eq_nil_iff.mp hnil)
    obtain ⟨ch, hch⟩ := List.exists_mem_of_ne_nil _ hchars
    have hall := List.all_eq_true.mp hblank ch hch
    rw [h ch hch] at hall
    cases hall

/-- An operator has no flaw exactly when it is fit. -/
theorem flaw?_eq_none_iff (op : Operator) : op.flaw? = none ↔ op.Fit := by
  have hname := name_unflawed_iff op.name
  have htypes : (typesFlaw? "field" op.fieldTypes <|> typesFlaw? "value" op.valueTypes) = none ↔
      (op.fieldTypes ≠ [] ∧ op.fieldTypes.Nodup) ∧ (op.valueTypes ≠ [] ∧ op.valueTypes.Nodup) := by
    rw [← typesFlaw?_eq_none_iff "field", ← typesFlaw?_eq_none_iff "value"]
    simp
  rw [flaw?]
  constructor
  · intro h
    split at h
    · cases h
    · rename_i hblank
      split at h
      · cases h
      · rename_i hany
        obtain ⟨hne, hunbroken⟩ := hname.mp ⟨hblank, hany⟩
        obtain ⟨hfield, hvalue⟩ := htypes.mp h
        exact ⟨hne, hunbroken, hfield.1, hfield.2, hvalue.1, hvalue.2⟩
  · intro h
    obtain ⟨hblank, hany⟩ := hname.mpr ⟨h.name_ne_empty, h.name_unbroken⟩
    rw [if_neg hblank, if_neg hany]
    exact htypes.mpr ⟨⟨h.fieldTypes_ne_nil, h.fieldTypes_nodup⟩, h.valueTypes_ne_nil,
      h.valueTypes_nodup⟩

end Operator

namespace Catalog

variable {c : Catalog} {ops : List Operator}

/-- No operator of a list has an error exactly when all of them are fit. -/
theorem findSome?_of?_eq_none_iff :
    ops.findSome? RegistrationError.of? = none ↔ ∀ op ∈ ops, op.Fit := by
  rw [List.findSome?_eq_none_iff]
  simp only [RegistrationError.of?, Option.map_eq_none_iff, Operator.flaw?_eq_none_iff]

/-- Fit operators are registered one after another. -/
theorem registerAll_eq_ok_iff {filled : Catalog} :
    c.registerAll ops = .ok filled ↔ (∀ op ∈ ops, op.Fit) ∧ filled = ops.foldl register c := by
  rw [registerAll, ← findSome?_of?_eq_none_iff]
  cases ops.findSome? RegistrationError.of? with
  | none => simp [eq_comm]
  | some e => simp

/-- A list is refused for the first operator that is not fit. -/
theorem registerAll_eq_error_iff {e : RegistrationError} :
    c.registerAll ops = .error e ↔ ∃ before op after, ops = before ++ op :: after ∧
      (∀ o ∈ before, o.Fit) ∧ op.flaw? = some e.flaw ∧ op.name = e.operator := by
  have hfirst : c.registerAll ops = .error e ↔
      ops.findSome? RegistrationError.of? = some e := by
    rw [registerAll]
    cases ops.findSome? RegistrationError.of? with
    | none => simp
    | some first => simp
  have hof (op : Operator) :
      RegistrationError.of? op = some e ↔ op.flaw? = some e.flaw ∧ op.name = e.operator := by
    rw [RegistrationError.of?, Option.map_eq_some_iff]
    constructor
    · rintro ⟨flaw, hflaw, rfl⟩
      exact ⟨hflaw, rfl⟩
    · rintro ⟨hflaw, hname⟩
      exact ⟨e.flaw, hflaw, by rw [hname]⟩
  rw [hfirst, List.findSome?_eq_some_iff]
  simp only [hof, ← List.findSome?_eq_none_iff, findSome?_of?_eq_none_iff]
  refine exists_congr fun before => exists_congr fun op => exists_congr fun after => ?_
  rw [and_comm (a := op.flaw? = some e.flaw ∧ op.name = e.operator)]

/-! ### Once more -/

/-- Registering loses no name. -/
theorem mem_names_register {name : String} (op : Operator) (h : name ∈ c.names) :
    name ∈ (c.register op).names := by
  rw [names_register]
  split
  · exact h
  · exact List.mem_append_left _ h

theorem name_mem_names_register (op : Operator) : op.name ∈ (c.register op).names := by
  rw [names_register]
  split
  · assumption
  · exact List.mem_append_right _ (List.mem_singleton.mpr rfl)

/-- Registering in a row loses no name and adds those that are registered. -/
theorem mem_names_foldl_register {name : String}
    (h : name ∈ c.names ∨ name ∈ ops.map (·.name)) : name ∈ (ops.foldl register c).names := by
  induction ops generalizing c with
  | nil => exact h.resolve_right List.not_mem_nil
  | cons op rest ih =>
    refine ih ?_
    rcases h with h | h
    · exact .inl (mem_names_register op h)
    · rw [List.map_cons, List.mem_cons] at h
      rcases h with rfl | h
      · exact .inl (name_mem_names_register op)
      · exact .inr h

/-- Registering under names that are there changes no name. -/
theorem names_foldl_register_of_mem (h : ∀ op ∈ ops, op.name ∈ c.names) :
    (ops.foldl register c).names = c.names := by
  induction ops generalizing c with
  | nil => rfl
  | cons op rest ih =>
    rw [List.forall_mem_cons] at h
    have hnames : (c.register op).names = c.names := by rw [names_register, if_pos h.1]
    rw [List.foldl_cons, ih, hnames]
    rw [hnames]
    exact h.2

/-- Among entries of distinct names each is the one of its name. -/
theorem find?_name_of_mem_entries {entries : List Entry} (h : (entries.map Entry.name).Nodup)
    {e : Entry} (he : e ∈ entries) : entries.find? (·.name = e.name) = some e := by
  induction entries with
  | nil => cases he
  | cons first rest ih =>
    rw [List.map_cons, List.nodup_cons] at h
    rcases List.mem_cons.mp he with rfl | he
    · simp
    · have hne : first.name ≠ e.name := fun heq => h.1 (heq ▸ List.mem_map_of_mem he)
      rw [List.find?_cons_of_neg (by simpa using hne)]
      exact ih h.2 he

/-- A name finds the entry of the catalog that has it. -/
theorem entryOf?_eq_some_iff {name : String} {e : Entry} :
    c.entryOf? name = some e ↔ e ∈ c.entries ∧ e.name = name := by
  constructor
  · intro h
    rw [entryOf?] at h
    exact ⟨List.mem_of_find?_eq_some h, by simpa using List.find?_some h⟩
  · rintro ⟨he, rfl⟩
    exact find?_name_of_mem_entries c.distinct he

/-- A name finds the operator of the catalog that has it. -/
theorem find?_eq_some_iff {name : String} {op : Operator} :
    c.find? name = some op ↔ op ∈ c.operators ∧ op.name = name := by
  rw [find?, operators, Option.map_eq_some_iff, List.mem_map]
  simp only [entryOf?_eq_some_iff]
  constructor
  · rintro ⟨e, ⟨he, rfl⟩, rfl⟩
    exact ⟨⟨e, he, rfl⟩, rfl⟩
  · rintro ⟨⟨e, he, rfl⟩, rfl⟩
    exact ⟨e, ⟨he, rfl⟩, rfl⟩

/-- A catalog lists what its names find. -/
theorem operators_eq_filterMap (c : Catalog) : c.operators = c.names.filterMap c.find? := by
  have hnames : c.names = c.operators.map (·.name) := by
    rw [names, operators, List.map_map]
    rfl
  rw [hnames, List.filterMap_map]
  conv_lhs => rw [← List.filterMap_some (l := c.operators)]
  exact (List.filterMap_congr fun op hop => find?_eq_some_iff.mpr ⟨hop, rfl⟩).symm

/-- Entries are made of operators. -/
theorem entries_eq (c : Catalog) : c.entries = c.operators.map Entry.of := by
  rw [operators, List.map_map]
  have hof : ∀ e : Entry, Entry.of e.operator = e := by
    rintro ⟨op, _, rfl⟩
    rfl
  simp [hof, Function.comp_def]

/-- Catalogs with the same names, in the same order, that find the same are the same. -/
theorem eq_of_find?_eq {c' : Catalog} (hnames : c.names = c'.names)
    (hfind : ∀ name, c.find? name = c'.find? name) : c = c' := by
  have hentries : c.entries = c'.entries := by
    rw [entries_eq, entries_eq, operators_eq_filterMap, operators_eq_filterMap, hnames,
      funext hfind]
  cases c
  cases c'
  congr

/-- The last operator of a name is the same after the same list once more. -/
theorem foldl_register_again (c : Catalog) (ops : List Operator) :
    ops.foldl register (ops.foldl register c) = ops.foldl register c := by
  refine eq_of_find?_eq ?_ fun name => ?_
  · refine names_foldl_register_of_mem fun op hop => ?_
    exact mem_names_foldl_register (.inr (List.mem_map_of_mem hop))
  · rw [find?_foldl_register_or, find?_foldl_register_or, ← Option.or_assoc, Option.or_self]

/-! ### In place -/

/-- Refuses an operator that has a flaw. -/
def checkInPlace (op : Operator) : ExceptT RegistrationError (StateM Catalog) Unit :=
  match RegistrationError.of? op with
  | some e => throw e
  | none => pure ()

/-- Registers operators in a catalog that is changed in place. What has been registered stays there
when a later step fails, so all operators are checked before the first is registered. -/
def registerInPlace (ops : List Operator) : ExceptT RegistrationError (StateM Catalog) Unit := do
  forM ops checkInPlace
  forM ops fun op => modify (·.register op)

/-- The checks change nothing and end with the first error. -/
theorem run_checkInPlace (c : Catalog) (ops : List Operator) :
    (forM ops checkInPlace).run.run c =
      (match ops.findSome? RegistrationError.of? with
        | some e => .error e
        | none => .ok (), c) := by
  induction ops with
  | nil => rfl
  | cons op rest ih =>
    rw [List.forM_cons, List.findSome?_cons, checkInPlace]
    cases RegistrationError.of? op with
    | some e => rfl
    | none => exact ih

/-- The registrations behind the checks run through. -/
theorem run_modify_register (c : Catalog) (ops : List Operator) :
    (forM (m := ExceptT RegistrationError (StateM Catalog)) ops fun op =>
      modify (·.register op)).run.run c = (.ok (), ops.foldl register c) := by
  induction ops generalizing c with
  | nil => rfl
  | cons op rest ih =>
    rw [List.forM_cons]
    exact ih (c.register op)

/-- Registering in place leaves the filled catalog, or the one from before. -/
theorem run_registerInPlace (c : Catalog) (ops : List Operator) :
    (registerInPlace ops).run.run c =
      match c.registerAll ops with
      | .ok filled => (.ok (), filled)
      | .error e => (.error e, c) := by
  rw [registerInPlace, ExceptT.run_bind, StateT.run_bind, run_checkInPlace, registerAll]
  cases ops.findSome? RegistrationError.of? with
  | some e => rfl
  | none => exact run_modify_register c ops

/-- What registering a list of operators does to a catalog: nothing, or all of it for good. -/
structure AllOrNothing (c : Catalog) (ops : List Operator) : Prop where
  /-- It succeeds exactly when every operator is fit. -/
  ok_iff : (∃ filled, c.registerAll ops = .ok filled) ↔ ∀ op ∈ ops, op.Fit
  /-- It then comes to registering them in order, also where the catalog is changed in place. -/
  filled : (∀ op ∈ ops, op.Fit) → c.registerAll ops = .ok (ops.foldl register c) ∧
    (registerInPlace ops).run.run c = (.ok (), ops.foldl register c)
  /-- Otherwise it names the first operator that is not fit, and a catalog that is changed in place
  is the one from before. -/
  refused : (¬ ∀ op ∈ ops, op.Fit) → ∃ before op after flaw, ops = before ++ op :: after ∧
    (∀ o ∈ before, o.Fit) ∧ ¬ op.Fit ∧ op.flaw? = some flaw ∧
      c.registerAll ops = .error ⟨op.name, flaw⟩ ∧
        (registerInPlace ops).run.run c = (.error ⟨op.name, flaw⟩, c)
  /-- What has been filled stays the same when the list is registered once more. -/
  again : ∀ filled, c.registerAll ops = .ok filled → filled.registerAll ops = .ok filled

/-- Registering a list of operators is all or nothing, and doing it twice is doing it once. -/
theorem registerAll_all_or_nothing (c : Catalog) (ops : List Operator) : c.AllOrNothing ops := by
  have hplace := run_registerInPlace c ops
  refine ⟨?ok_iff, ?filled, ?refused, ?again⟩
  case ok_iff =>
    constructor
    · rintro ⟨filled, h⟩
      exact (registerAll_eq_ok_iff.mp h).1
    · exact fun h => ⟨_, registerAll_eq_ok_iff.mpr ⟨h, rfl⟩⟩
  case filled =>
    intro h
    have hok : c.registerAll ops = .ok (ops.foldl register c) := registerAll_eq_ok_iff.mpr ⟨h, rfl⟩
    rw [hok] at hplace
    exact ⟨hok, hplace⟩
  case refused =>
    intro h
    cases hresult : c.registerAll ops with
    | ok filled => exact absurd (registerAll_eq_ok_iff.mp hresult).1 h
    | error e =>
      obtain ⟨before, op, after, hops, hbefore, hflaw, hname⟩ := registerAll_eq_error_iff.mp hresult
      have hfit : ¬ op.Fit := by
        rw [← op.flaw?_eq_none_iff, hflaw]
        exact Option.some_ne_none _
      rw [hresult] at hplace
      refine ⟨before, op, after, e.flaw, hops, hbefore, hfit, hflaw, ?_, ?_⟩
      · rw [hname]
      · rw [hname]
        exact hplace
  case again =>
    intro filled h
    obtain ⟨hfit, rfl⟩ := registerAll_eq_ok_iff.mp h
    exact registerAll_eq_ok_iff.mpr ⟨hfit, (foldl_register_again c ops).symm⟩

/-- A list that repeats a name of its own and one of the catalog fills it for good, and with a name
of two words behind it leaves the catalog alone. -/
theorem registerAll_all_or_nothing_repeated_names :
    let ops : List Operator := [.comparing "on" [.date] .eq "", .comparing "equals" [.date] .eq "",
      .comparing "on" [.date] .ne ""]
    let refused := ops ++ [.comparing "not on" [.date] .ne ""]
    (builtin.registerAll ops = .ok (ops.foldl register builtin) ∧
      (ops.foldl register builtin).size = 22 ∧
        (ops.foldl register builtin).registerAll ops = .ok (ops.foldl register builtin)) ∧
      ∃ e, (registerInPlace refused).run.run builtin = (.error e, builtin) := by
  intro ops refused
  have hfit : ∀ op ∈ ops, op.Fit := findSome?_of?_eq_none_iff.mp (by decide +kernel)
  have hrefused : ¬ ∀ op ∈ refused, op.Fit := by
    rw [← findSome?_of?_eq_none_iff]
    decide +kernel
  have hall := registerAll_all_or_nothing builtin ops
  have hok := (hall.filled hfit).1
  refine ⟨⟨hok, by decide +kernel, hall.again _ hok⟩, ?_⟩
  obtain ⟨_, _, _, _, -, -, -, -, -, hplace⟩ :=
    (registerAll_all_or_nothing builtin refused).refused hrefused
  exact ⟨_, hplace⟩

/-! ### Filled catalogs -/

/-- The catalogs that lists of operators fill one after another. -/
inductive Filled : Catalog → Prop where
  /-- At first there are no operators. -/
  | empty : Filled empty
  /-- A list that is not refused fills the catalog further. -/
  | registerAll {c filled : Catalog} {ops : List Operator} (h : Filled c)
    (hok : c.registerAll ops = .ok filled) : Filled filled

/-- In a filled catalog every operator is fit. -/
theorem Filled.fit (h : c.Filled) : ∀ op ∈ c.operators, op.Fit := by
  induction h with
  | empty => exact nofun
  | registerAll _ hok ih =>
    obtain ⟨hfit, rfl⟩ := registerAll_eq_ok_iff.mp hok
    intro op hop
    rcases mem_of_mem_foldl_register hop with hop | hop
    · exact ih op hop
    · exact hfit op hop

theorem filled_builtin : builtin.Filled := .registerAll .empty registerAll_builtin

/-- The built-in catalog holds only built-in operators. -/
theorem mem_builtin_of_mem {op : Operator} (h : op ∈ builtin.operators) : op ∈ Operator.builtin :=
  (mem_of_mem_foldl_register h).resolve_left List.not_mem_nil

end Catalog

end FilterQuery
