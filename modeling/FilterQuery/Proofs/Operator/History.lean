import FilterQuery.Operator.Registration
import Mathlib.Data.Finset.Card
import Mathlib.Data.List.Induction

/-!
# What a catalog remembers

A catalog is filled by registering operators one by one or by lists. A list with a flaw is refused
as a whole, so calls come to a history of single registrations. The catalog agrees with that
history: under each name it shows the last operator that was registered, in its table as well as in
its descriptions, and the names stand in the order in which they first came up.
-/

namespace FilterQuery.Catalog

/-- What a catalog is asked to take in. -/
inductive Call where
  /-- One operator. -/
  | register (op : Operator)
  /-- Some operators as a whole. -/
  | registerAll (ops : List Operator)

/-- The catalog after a call. It stays as it was if the call is refused. -/
def perform (c : Catalog) : Call → Catalog
  | .register op => c.register op
  | .registerAll ops =>
    match c.registerAll ops with
    | .ok filled => filled
    | .error _ => c

/-- The catalog that calls in a row make of the empty one. -/
def run (calls : List Call) : Catalog := calls.foldl perform empty

/-- The operators that a call registers: of a list all of them, or none if one has a flaw. -/
def Call.registered : Call → List Operator
  | .register op => [op]
  | .registerAll ops => if ops.all (·.flaw?.isNone) then ops else []

/-- The registrations that calls come to, in order. -/
def history (calls : List Call) : List Operator := calls.flatMap Call.registered

/-- The last registration under a name. -/
def latest? (name : String) (history : List Operator) : Option Operator :=
  (history.filter (·.name = name)).getLast?

/-! ### One registration -/

/-- An entry is found under its name among those that it was put, and hides no other name. -/
theorem find?_put (e : Entry) (name : String) (entries : List Entry) :
    (put e entries).2.find? (·.name = name) =
      if e.name = name then some e else entries.find? (·.name = name) := by
  induction entries with
  | nil =>
    rw [put]
    by_cases hname : e.name = name
    · simp [hname]
    · simp [hname]
  | cons first rest ih =>
    rw [put]
    by_cases hfirst : first.name = e.name
    · by_cases hname : e.name = name
      · simp [hfirst, hname]
      · simp [hfirst, hname]
    · rw [if_neg hfirst, List.find?_cons, ih, List.find?_cons]
      by_cases hname : e.name = name
      · have hother : first.name ≠ name := hname ▸ hfirst
        simp [hname, hother]
      · simp [hname]

/-- Putting an entry replaces another exactly when its name is there. -/
theorem isSome_put_iff (e : Entry) (entries : List Entry) :
    (put e entries).1.isSome = true ↔ e.name ∈ entries.map Entry.name := by
  induction entries with
  | nil => simp [put]
  | cons first rest ih =>
    rw [put]
    by_cases h : first.name = e.name
    · simp [h]
    · have h' : e.name ≠ first.name := fun heq => h heq.symm
      rw [if_neg h, ih, List.map_cons, List.mem_cons]
      simp [h']

/-- Putting an entry among others adds no other one. -/
theorem mem_of_mem_put {e o : Entry} {entries : List Entry} (h : o ∈ (put e entries).2) :
    o = e ∨ o ∈ entries := by
  induction entries with
  | nil => exact .inl (List.mem_singleton.mp h)
  | cons first rest ih =>
    rw [put] at h
    split at h
    · rcases List.mem_cons.mp h with rfl | h
      · exact .inl rfl
      · exact .inr (List.mem_cons_of_mem first h)
    · rcases List.mem_cons.mp h with rfl | h
      · exact .inr List.mem_cons_self
      · exact (ih h).imp_right (List.mem_cons_of_mem first)

variable (c : Catalog)

/-- Registering an operator changes what its own name finds and nothing else. -/
theorem find?_register (op : Operator) (name : String) :
    (c.register op).find? name = if op.name = name then some op else c.find? name := by
  have hput : (c.register op).entryOf? name =
      if op.name = name then some (Entry.of op) else c.entryOf? name :=
    find?_put (.of op) name c.entries
  rw [find?, hput]
  by_cases h : op.name = name
  · simp [h]
  · simp [h, find?]

/-- A new name comes last, and a known one keeps its place. -/
theorem names_register (op : Operator) :
    (c.register op).names = if op.name ∈ c.names then c.names else c.names ++ [op.name] :=
  map_name_put (.of op) c.entries

theorem replaces_iff (op : Operator) : c.replaces op = true ↔ op.name ∈ c.names :=
  isSome_put_iff (.of op) c.entries

/-- A name finds an operator exactly when it is listed. -/
theorem contains_eq_isSome (name : String) : c.contains name = (c.find? name).isSome := by
  rw [Bool.eq_iff_iff, contains, find?, Option.isSome_map, entryOf?, List.find?_isSome, names,
    List.contains_iff_mem, List.mem_map]
  simp

/-- Registering an operator adds no other one. -/
theorem mem_of_mem_register {c : Catalog} {op o : Operator}
    (h : o ∈ (c.register op).operators) : o = op ∨ o ∈ c.operators := by
  obtain ⟨e, he, rfl⟩ := List.mem_map.mp h
  rcases mem_of_mem_put he with rfl | he
  · exact .inl rfl
  · exact .inr (List.mem_map_of_mem he)

/-! ### Registrations in a row -/

/-- Registering operators one by one adds no others. -/
theorem mem_of_mem_foldl_register {ops : List Operator} {c : Catalog} {op : Operator}
    (h : op ∈ (ops.foldl register c).operators) : op ∈ c.operators ∨ op ∈ ops := by
  induction ops generalizing c with
  | nil => exact .inl h
  | cons first rest ih =>
    rcases ih h with h | h
    · rcases mem_of_mem_register h with rfl | h
      · exact .inr List.mem_cons_self
      · exact .inl h
    · exact .inr (List.mem_cons_of_mem first h)

/-- A call registers its operators one by one. -/
theorem perform_eq (call : Call) : c.perform call = call.registered.foldl register c := by
  cases call with
  | register op => rfl
  | registerAll ops =>
    have hflaw : ops.findSome? RegistrationError.of? = none ↔ ops.all (·.flaw?.isNone) = true := by
      simp [List.findSome?_eq_none_iff, RegistrationError.of?]
    rw [perform, Call.registered, registerAll]
    cases hfirst : ops.findSome? RegistrationError.of? with
    | none => rw [if_pos (hflaw.mp hfirst)]
    | some e => rw [if_neg (fun h => by simp [hflaw.mpr h] at hfirst), List.foldl_nil]

/-- Calls in a row register their history. -/
theorem run_eq (calls : List Call) : run calls = (history calls).foldl register empty := by
  induction calls using List.reverseRecOn with
  | nil => rfl
  | append_singleton calls call ih =>
    have hhistory : history (calls ++ [call]) = history calls ++ call.registered := by
      simp [history]
    rw [hhistory, List.foldl_append, ← ih, ← perform_eq, run, List.foldl_append]
    rfl

theorem latest?_append (name : String) (history : List Operator) (op : Operator) :
    latest? name (history ++ [op]) = if op.name = name then some op else latest? name history := by
  rw [latest?, List.filter_append]
  by_cases h : op.name = name
  · simp [h]
  · simp [h, latest?]

/-- Each name finds the last operator that was registered under it, or else what it found before. -/
theorem find?_foldl_register_or (history : List Operator) (name : String) :
    (history.foldl register c).find? name = (latest? name history).or (c.find? name) := by
  induction history using List.reverseRecOn with
  | nil => rfl
  | append_singleton history op ih =>
    have hlast := find?_register (history.foldl register c) op name
    rw [List.foldl_append, latest?_append]
    by_cases h : op.name = name
    · rw [if_pos h] at hlast ⊢
      exact hlast
    · rw [if_neg h] at hlast ⊢
      exact hlast.trans ih

/-- In a catalog that starts empty each name finds the last operator that was registered under
it. -/
theorem find?_foldl_register (history : List Operator) (name : String) :
    (history.foldl register empty).find? name = latest? name history := by
  rw [find?_foldl_register_or]
  exact Option.or_none

/-- One more element is kept if it is new. -/
private theorem eraseDups_append_singleton (names : List String) (name : String) :
    (names ++ [name]).eraseDups =
      if name ∈ names then names.eraseDups else names.eraseDups ++ [name] := by
  rw [List.eraseDups_append, List.removeAll, List.filter_singleton]
  by_cases h : name ∈ names
  · simp [h]
  · simp [h, List.eraseDups_cons]

/-- The names stand in the order of their first registration, each of them once. -/
theorem names_foldl_register (history : List Operator) :
    (history.foldl register empty).names = (history.map (·.name)).eraseDups := by
  induction history using List.reverseRecOn with
  | nil => rfl
  | append_singleton history op ih =>
    have hlisted : op.name ∈ (history.foldl register empty).names ↔
        op.name ∈ history.map (·.name) := by
      rw [ih, List.mem_eraseDups]
    rw [List.foldl_append, List.map_append, List.map_singleton, eraseDups_append_singleton, ← ih]
    simp only [← hlisted]
    exact names_register _ op

/-- What a catalog shows of a history of registrations. -/
structure Agrees (c : Catalog) (history : List Operator) : Prop where
  /-- Two types find the last operator of a name if it takes both of them, and otherwise nothing. -/
  lookup : ∀ name fieldType valueType op, c.lookup? name fieldType valueType = some op ↔
    latest? name history = some op ∧ fieldType ∈ op.fieldTypes ∧ valueType ∈ op.valueTypes
  /-- They find something exactly when the operator that is described under the name supports
  them. -/
  found : ∀ name fieldType valueType, (c.lookup? name fieldType valueType).isSome = true ↔
    ∃ op, c.find? name = some op ∧ op.supports fieldType valueType = true
  /-- The last operator of a name is described under it. -/
  described : ∀ name, c.find? name = latest? name history
  /-- The types of values are those of the last operator. -/
  valueTypes : ∀ name, c.valueTypes name = ((latest? name history).map (·.valueTypes)).getD []
  /-- A name is known when it has a last operator. -/
  known : ∀ name, c.contains name = (latest? name history).isSome
  /-- Every name is listed once, in the order of the first registrations. -/
  listed : c.names = (history.map (·.name)).eraseDups
  /-- One more operator replaces another exactly when its name has been registered. -/
  replaces : ∀ op, c.replaces op = true ↔ op.name ∈ history.map (·.name)
  /-- As many operators are counted as there are different names. -/
  counted : c.size = (history.map (·.name)).toFinset.card

/-- A pair of types finds an operator exactly when it is the one under the name and takes both. -/
theorem lookup?_eq_some_iff {name : String} {fieldType valueType : ScalarType} {op : Operator} :
    c.lookup? name fieldType valueType = some op ↔
      c.find? name = some op ∧ fieldType ∈ op.fieldTypes ∧ valueType ∈ op.valueTypes := by
  rw [lookup?_eq, Option.filter_eq_some_iff]
  simp [Operator.supports]

theorem isSome_lookup?_iff {name : String} {fieldType valueType : ScalarType} :
    (c.lookup? name fieldType valueType).isSome = true ↔
      ∃ op, c.find? name = some op ∧ op.supports fieldType valueType = true := by
  rw [lookup?_eq, Option.isSome_iff_exists]
  simp only [Option.filter_eq_some_iff]

/-- Whatever calls have filled a catalog, it agrees with the registrations that they come to. -/
theorem run_agrees (calls : List Call) : (run calls).Agrees (history calls) := by
  have hfind : ∀ name, (run calls).find? name = latest? name (history calls) := by
    intro name
    rw [run_eq, find?_foldl_register]
  have hnames : (run calls).names = ((history calls).map (·.name)).eraseDups := by
    rw [run_eq, names_foldl_register]
  refine ⟨?lookup, fun _ _ _ => isSome_lookup?_iff _, hfind, ?valueTypes, ?known, hnames,
    ?replaces, ?counted⟩
  case lookup =>
    intro name fieldType valueType op
    rw [lookup?_eq_some_iff, hfind]
  case valueTypes =>
    intro name
    rw [Catalog.valueTypes, hfind]
    cases latest? name (history calls) with
    | none => rfl
    | some op => rfl
  case known =>
    intro name
    rw [contains_eq_isSome, hfind]
  case replaces =>
    intro op
    rw [replaces_iff, hnames, List.mem_eraseDups]
  case counted =>
    have hsame : (run calls).names.toFinset = ((history calls).map (·.name)).toFinset := by
      ext name
      rw [List.mem_toFinset, List.mem_toFinset, hnames, List.mem_eraseDups]
    have hcard : (run calls).names.toFinset.card = (run calls).names.length :=
      List.toFinset_card_of_nodup (run calls).distinct
    rw [← hsame, hcard, names, List.length_map]
    rfl

end FilterQuery.Catalog
