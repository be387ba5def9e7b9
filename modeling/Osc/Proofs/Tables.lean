import Mathlib.Tactic
import Osc.Toml.Reader

/-!
No table has a name twice. A document grows by names that its tables do not have yet and by values
that are read, and every value that is read is a table whose names are distinct, an array of such
values, or no container at all. So what a table says about a name is said by one entry, in a
document as in every table inside of it.
-/

namespace Osc.Toml

theorem lookup_eq_none_iff_notMem {α : Type} {fields : List (Text × α)} {name : Text} :
    fields.lookup name = none ↔ name ∉ fields.map Prod.fst := by
  rw [List.lookup_eq_none_iff, List.mem_map, not_exists]
  refine forall_congr' fun field => ?_
  rw [not_and, bne_iff_ne, ne_comm]

/-- In the tables of a value, at all levels, no name stands twice. -/
inductive Item.Distinct : Item → Prop where
  | single {item : Item} (alone : item.isContainer = false) : Distinct item
  | array {items : List Item} (each : ∀ item ∈ items, Distinct item) : Distinct (.array items)
  | table {fields : List (Text × Item)} (names : (fields.map Prod.fst).Nodup)
      (each : ∀ field ∈ fields, Distinct field.2) : Distinct (.table fields)

structure Table.Distinct (table : Table) : Prop where
  names : (table.map Prod.fst).Nodup
  each : ∀ field ∈ table, field.2.Distinct

theorem Item.distinct_table {fields : Table} : (Item.table fields).Distinct ↔ fields.Distinct := by
  constructor
  · intro h
    cases h with
    | single alone => cases alone
    | table names each => exact ⟨names, each⟩
  · exact fun h => .table h.names h.each

theorem Item.distinct_array {items : List Item} :
    (Item.array items).Distinct ↔ ∀ item ∈ items, item.Distinct := by
  constructor
  · intro h
    cases h with
    | single alone => cases alone
    | array each => exact each
  · exact .array

namespace Table

variable {table table' : Table} {name : Text} {item : Item}

theorem distinct_nil : Distinct [] := ⟨List.nodup_nil, nofun⟩

theorem Distinct.lookup (h : table.Distinct) (found : table.lookup name = some item) :
    item.Distinct := by
  obtain ⟨before, behind, rfl, -⟩ := List.lookup_eq_some_iff.mp found
  exact h.each (name, item) (List.mem_append_right _ List.mem_cons_self)

/-- A name that is not there yet can be added. -/
theorem Distinct.concat (h : table.Distinct) (new : table.lookup name = none)
    (inner : item.Distinct) : Distinct (table ++ [(name, item)]) := by
  constructor
  · rw [List.map_append, List.map_singleton, ← List.concat_eq_append]
    exact h.names.concat (lookup_eq_none_iff_notMem.mp new)
  · intro field member
    rcases List.mem_append.mp member with old | added
    · exact h.each field old
    · rw [List.mem_singleton.mp added]
      exact inner

/-- A value can be replaced in its place. -/
theorem Distinct.replace (h : table.Distinct) (inner : item.Distinct) :
    Distinct (table.replace name item) := by
  constructor
  · have same : (table.replace name item).map Prod.fst = table.map Prod.fst := by
      rw [Table.replace, List.map_map]
      refine List.map_congr_left fun (n, old) _ => ?_
      rw [Function.comp_apply]
      dsimp only
      split_ifs <;> rfl
    rw [same]
    exact h.names
  · intro field member
    obtain ⟨⟨n, old⟩, there, rfl⟩ := List.mem_map.mp member
    dsimp only
    split_ifs
    · exact inner
    · exact h.each (n, old) there

/-- What changes a table and keeps its names distinct does so at the end of every key path. -/
theorem Distinct.change {arrays : Bool} {f : Table → Option Table}
    (step : ∀ {parent parent'}, Distinct parent → f parent = some parent' → Distinct parent')
    {key : Key} (h : table.Distinct) (changed : Table.change arrays f key table = some table') :
    table'.Distinct := by
  induction key generalizing table table' with
  | nil => exact step h changed
  | cons name key ih =>
    rw [Table.change] at changed
    split at changed
    · next new =>
      obtain ⟨inner, made, same⟩ := Option.bind_eq_some_iff.mp changed
      cases same
      exact h.concat new (Item.distinct_table.mpr (ih distinct_nil made))
    · next inner found =>
      obtain ⟨inner', made, same⟩ := Option.bind_eq_some_iff.mp changed
      cases same
      have before := Item.distinct_table.mp (h.lookup found)
      exact h.replace (Item.distinct_table.mpr (ih before made))
    · next items found =>
      have each := Item.distinct_array.mp (h.lookup found)
      split at changed
      · next inner last =>
        obtain ⟨inner', made, same⟩ := Option.bind_eq_some_iff.mp changed
        cases same
        have before := Item.distinct_table.mp (each _ (List.mem_of_getLast? last))
        refine h.replace (Item.distinct_array.mpr ?_)
        intro item member
        rcases List.mem_append.mp member with old | added
        · exact each item (List.dropLast_subset _ old)
        · rw [List.mem_singleton.mp added]
          exact Item.distinct_table.mpr (ih before made)
      · cases changed
    · cases changed

theorem Distinct.insert {arrays : Bool} {key : Key} (h : table.Distinct) (inner : item.Distinct)
    (changed : table.insert arrays key item = some table') : table'.Distinct := by
  rw [Table.insert] at changed
  split at changed
  · cases changed
  · next name last =>
    refine h.change ?_ changed
    intro parent parent' before added
    rw [add] at added
    split_ifs at added with there
    cases added
    exact before.concat (Option.not_isSome_iff_eq_none.mp there) inner

theorem Distinct.append {key : Key} (h : table.Distinct)
    (changed : table.append key = some table') : table'.Distinct := by
  have empty : (Item.table []).Distinct := Item.distinct_table.mpr distinct_nil
  rw [Table.append] at changed
  split at changed
  · cases changed
  · next name last =>
    refine h.change ?_ changed
    intro parent parent' before added
    split at added
    · next new =>
      cases added
      exact before.concat new (Item.distinct_array.mpr (List.forall_mem_singleton.mpr empty))
    · next items found =>
      cases added
      refine before.replace (Item.distinct_array.mpr ?_)
      intro item member
      rcases List.mem_append.mp member with old | new
      · exact Item.distinct_array.mp (before.lookup found) item old
      · rw [List.mem_singleton.mp new]
        exact empty
    · cases added

end Table

namespace Document

variable {d d' : Document} {key : Key}

private theorem distinct_openTable (h : d.content.Distinct) (opened : d.openTable key = some d') :
    d'.content.Distinct := by
  rw [openTable] at opened
  split_ifs at opened
  obtain ⟨content, changed, same⟩ := Option.bind_eq_some_iff.mp opened
  cases same
  refine Table.Distinct.change ?_ h changed
  intro parent parent' before kept
  cases kept
  exact before

private theorem distinct_openElement (h : d.content.Distinct)
    (opened : d.openElement key = some d') : d'.content.Distinct := by
  rw [openElement] at opened
  split_ifs at opened
  obtain ⟨content, changed, same⟩ := Option.bind_eq_some_iff.mp opened
  cases same
  exact Table.Distinct.append h changed

private theorem distinct_assign {item : Item} (h : d.content.Distinct) (inner : item.Distinct)
    (assigned : d.assign key item = some d') : d'.content.Distinct := by
  rw [assign] at assigned
  split at assigned
  · cases assigned
  · obtain ⟨content, changed, same⟩ := Option.bind_eq_some_iff.mp assigned
    cases same
    exact Table.Distinct.insert h inner changed

end Document

/-! Reading. What is read, if anything is, has some property. -/

def Always {α : Type} (p : α → Prop) (reading : Reading α) : Prop := ∀ a, reading = .ok a → p a

namespace Always

variable {α β : Type} {p : α → Prop} {q : β → Prop}

theorem ok {a : α} (h : p a) : Always p (.ok a) := by
  rintro _ ⟨⟩
  exact h

theorem error {refusal : Refusal} : Always p (.error refusal) := nofun

theorem bind {x : Reading β} {f : β → Reading α} (first : Always q x)
    (next : ∀ b, q b → Always p (f b)) : Always p (x >>= f) := by
  cases x with
  | ok b => exact next b (first b rfl)
  | error refusal => exact error

/-- Nothing needs to be known about what only stands in between. -/
theorem after {x : Reading β} {f : β → Reading α} (next : ∀ b, Always p (f b)) :
    Always p (x >>= f) :=
  bind (q := fun _ => True) (fun _ _ => trivial) fun b _ => next b

theorem map {x : Reading β} {f : β → α} (h : ∀ b, q b → p (f b)) (first : Always q x) :
    Always p (x.map f) := by
  cases x with
  | ok b => exact ok (h b (first b rfl))
  | error refusal => exact error

end Always

/-- A value that is neither an array nor a table, with what follows it. -/
def IsSingle (found : Item × Text) : Prop := found.1.isContainer = false

private theorem single_date {t : Text} {outcome : Reading (Item × Text)}
    (h : date? t = some outcome) : Always IsSingle outcome := by
  rw [date?] at h
  obtain ⟨⟨year, _⟩, -, h⟩ := Option.bind_eq_some_iff.mp h
  obtain ⟨_, -, h⟩ := Option.bind_eq_some_iff.mp h
  obtain ⟨⟨month, _⟩, -, h⟩ := Option.bind_eq_some_iff.mp h
  obtain ⟨_, -, h⟩ := Option.bind_eq_some_iff.mp h
  obtain ⟨⟨day, _⟩, -, h⟩ := Option.bind_eq_some_iff.mp h
  dsimp only at h
  split at h
  · cases h
    exact .error
  · split at h
    · next rest _ =>
      cases h
      refine .ok ?_
      rw [IsSingle, dateTime]
      split <;> rfl
    · cases h
      exact .ok rfl

private theorem single_decimal {t : Text} {outcome : Reading (Item × Text)}
    (h : decimal? t = some outcome) : Always IsSingle outcome := by
  simp only [decimal?, Option.ite_none_left_eq_some] at h
  obtain ⟨-, h⟩ := h
  split_ifs at h with _ long negative
  · cases h
    exact .error
  all_goals
    cases h
    exact .ok rfl

theorem single_based {start : String} {base : Nat} {isDigit : CodePoint → Bool} {t : Text}
    {found : Item × Text} (h : based? start base isDigit t = some found) : IsSingle found := by
  rw [based?] at h
  obtain ⟨_, -, h⟩ := Option.bind_eq_some_iff.mp h
  dsimp only at h
  split at h
  · cases h
  · cases h
    rfl

private theorem single_special {t : Text} {found : Item × Text} (h : special? t = some found) :
    IsSingle found := by
  rw [special?] at h
  dsimp only at h
  split at h
  · cases h
    rfl
  · cases h
    rfl
  · cases h

private theorem single_scalar (t : Text) : Always IsSingle (scalar t) := by
  rw [scalar]
  split
  · exact .map (q := fun _ => True) (fun _ _ => rfl) fun _ _ => trivial
  · split
    · exact .ok rfl
    · exact .ok rfl
    · next outcome dated => exact single_date dated
    · split
      · exact .ok rfl
      · dsimp only
        split
        · next found prefixed =>
          refine .ok ?_
          simp only [Option.or_eq_some_iff] at prefixed
          rcases prefixed with h | ⟨-, h | ⟨-, h⟩⟩
          · exact single_based h
          · exact single_based h
          · exact single_based h
        · next outcome decimal => exact single_decimal decimal
        · next found special => exact .ok (single_special special)
        · exact .error

/-- Values are read with distinct names, one level of nesting above another. -/
theorem distinct_values (fuel : Nat) :
    (∀ depth t, Always (fun found => found.1.Distinct) (value fuel depth t)) ∧
      (∀ depth t, Always (fun found => ∀ item ∈ found.1, item.Distinct) (arrayItems fuel depth t)) ∧
      ∀ depth d t, d.content.Distinct →
        Always (fun found => found.1.Distinct) (tableFields fuel depth d t) := by
  induction fuel with
  | zero => exact ⟨fun _ _ => .error, fun _ _ => .error, fun _ _ _ _ => .error⟩
  | succ fuel ih =>
    obtain ⟨values, arrays, tables⟩ := ih
    refine ⟨fun depth t => ?_, fun depth t => ?_, fun depth d t h => ?_⟩
    · rw [value]
      split
      · refine .after fun depth => .after fun rest => ?_
        split
        · exact .ok (.array nofun)
        · exact .bind (arrays depth rest) fun found each => .ok (.array each)
      · refine .after fun depth => ?_
        dsimp only
        split
        · exact .ok (Item.distinct_table.mpr Table.distinct_nil)
        · exact .bind (tables depth .empty _ Table.distinct_nil) fun found distinct =>
            .ok (Item.distinct_table.mpr distinct)
      · intro found read
        exact .single (single_scalar t found read)
    · rw [arrayItems]
      refine .bind (values depth t) fun found first => .after fun rest => ?_
      split
      · exact .ok (List.forall_mem_singleton.mpr first)
      · refine .after fun rest => ?_
        split
        · exact .ok (List.forall_mem_singleton.mpr first)
        · exact .bind (arrays depth rest) fun more others =>
            .ok (List.forall_mem_cons.mpr ⟨first, others⟩)
      · exact .error
    · rw [tableFields]
      -- The table that is read so far grows by one field, which must be new.
      refine .after fun (path, rest) => ?_
      dsimp only
      split
      · exact .error
      · refine .bind (values depth _) fun (item, rest) inner => ?_
        dsimp only
        split
        · exact .error
        · split
          · exact .error
          · next content inserted =>
            have larger := h.insert inner inserted
            split
            · exact .ok larger
            · exact tables depth _ _ larger
            · exact .error

private theorem distinct_assignment {d : Document} (h : d.content.Distinct) (t : Text) :
    Always (fun found => found.1.content.Distinct) (assignment d t) := by
  rw [assignment]
  refine .after fun (path, rest) => ?_
  dsimp only
  split
  · exact .error
  · refine .bind ((distinct_values _).1 _ _) fun (item, rest) inner => ?_
    dsimp only
    split
    · next assigned => exact .ok (Document.distinct_assign h inner assigned)
    · exact .error

private theorem distinct_header {d : Document} (h : d.content.Distinct) (t : Text) :
    Always (fun found => found.1.content.Distinct) (header d t) := by
  rw [header]
  split
  · refine .after fun (path, rest) => ?_
    dsimp only
    split
    · next opened _ => exact .ok (Document.distinct_openElement h opened)
    · exact .error
  · refine .after fun (path, rest) => ?_
    dsimp only
    split
    · next opened _ => exact .ok (Document.distinct_openTable h opened)
    · exact .error
  · exact .error

private theorem distinct_statement {d : Document} (h : d.content.Distinct) (t : Text) :
    Always (fun found => found.1.content.Distinct) (statement d t) := by
  rw [statement.eq_def]
  split
  · exact .ok h
  · split_ifs
    · exact distinct_assignment h _
    · exact distinct_header h _
    · exact .ok h

private theorem distinct_statements (fuel : Nat) {d : Document} (h : d.content.Distinct)
    (t : Text) : Always (fun d => d.content.Distinct) (statements fuel d t) := by
  induction fuel generalizing d t with
  | zero => exact .ok h
  | succ fuel ih =>
    rw [statements]
    refine .bind (distinct_statement h _) fun (d, rest) distinct => .after fun behind => ?_
    split
    · exact .ok distinct
    · split_ifs
      · exact ih distinct _
      · exact .error

/-- No table of a document has a name twice. -/
theorem read_distinct {t : Text} {document : Table} (h : read t = .ok document) :
    document.Distinct := by
  have all := distinct_statements ((unifyLines t).length + 1) (d := .empty)
    Table.distinct_nil (unifyLines t)
  exact all.map (p := Table.Distinct) (fun _ distinct => distinct) document h

end Osc.Toml
