import Mathlib
import Osc.Settings.File
import Osc.Proofs.Faults
import Osc.Proofs.SinglePrecision
import Osc.Proofs.Tables
import Osc.Proofs.Utf8

/-!
What settings files are loaded as. The entry `socket` of a document should be a table of known
settings, with a positive size and two switches; it is taken for them, or refused for its value.

Only the names in a table are checked, and that its size is not a number of zero or below. So
settings of other types are loaded as they stand, or are faults of their types; and so is an entry
that is no table, unless it has texts in it that can be refused for being unknown names.
-/

namespace Osc

open Text (ofString)

namespace Floating

theorem Format.units_eq_zero_iff {f : Format} {n : Nat} : f.units n = 0 ↔ n = 0 := by
  conv_lhs => rw [← f.units_zero]
  exact f.units_strictMono.injective.eq_iff

theorem Binary.units_nonpos_iff {f : Format} {x : Binary f} :
    x.units ≤ 0 ↔ x.negative = true ∨ x.isZero = true := by
  rw [units, isZero, beq_iff_eq, ← f.units_eq_zero_iff]
  cases x.negative with
  | true => simp
  | false => simp

end Floating

/-- What a file is refused with for what it holds. -/
inductive SettingsFault.OfValue : SettingsFault → Prop where
  | invalidUtf8 (cause : Utf8.Malformed) : OfValue (.invalidUtf8 cause)
  | malformed : OfValue .malformed
  | integerTooLong (digits : Nat) : OfValue (.integerTooLong digits)
  | setting (cause : ValueFault) : OfValue (.refused (.value cause))

namespace Settings

/-- Settings that a socket can be used with. -/
structure Valid (s : Settings) : Prop where
  size : ∃ n : Int, 0 < n ∧ s.maxDatagramSize = .int n
  rejecting : ∃ b, s.rejectTruncated = .bool b
  reusing : ∃ b, s.reuseAddress = .bool b

/-- Some bytes are the document that they are read as. -/
def Reads (data : Bytes) (document : Toml.Table) : Prop :=
  ∃ t, Utf8.decode data = .ok t ∧ Toml.read t = .ok document

def atSocket (document : Toml.Table) : Option Toml.Item := document.lookup (ofString "socket")

def Known (fields : Toml.Table) : Prop := ∀ name ∈ fields.map Prod.fst, name ∈ names

/-- What a table says of each setting, and what is the default where it says nothing. -/
def inTable (fields : Toml.Table) : Settings :=
  pick (fields.map fun (name, item) => (name, valueOf item))

/-- The settings of a document, when all names in their table are known. -/
inductive Says (document : Toml.Table) : Settings → Prop where
  | nothing (absent : atSocket document = none) : Says document default
  | table {fields : Toml.Table} (there : atSocket document = some (.table fields))
      (known : Known fields) : Says document (inTable fields)

/-- Valid settings are loaded as a file says them, and every other file is refused for what it
holds. -/
inductive AsDocumented (data : Bytes) : Except SettingsFault Settings → Prop where
  | taken {document : Toml.Table} {s : Settings} (read : Reads data document)
      (said : Says document s) (valid : s.Valid) : AsDocumented data (.ok s)
  | refused {fault : SettingsFault} (ofValue : fault.OfValue)
      (invalid : ∀ document s, Reads data document → Says document s → ¬ s.Valid) :
      AsDocumented data (.error fault)

/-- Numbers that are zero or below. -/
inductive Low : Value → Prop where
  | int {n : Int} (low : n ≤ 0) : Low (.int n)
  | bool : Low (.bool false)
  | float {x : Floating.Binary64} (number : x.isNaN = false)
      (low : x.negative = true ∨ x.isZero = true) : Low (.float x)

/-- An entry in the place of the table of settings that nothing refuses for its value, although it
holds no valid settings: a number, a truth value, a date or a time; the empty text; an array with
anything but texts in it, or with known names only; a table with settings of other types. -/
inductive Misfit : Toml.Item → Prop where
  | single {item : Toml.Item} (alone : item.isContainer = false) (noText : ∀ t, item ≠ .text t) :
      Misfit item
  | emptyText : Misfit (.text [])
  | mixed {items : List Toml.Item} {item : Toml.Item} (member : item ∈ items)
      (noText : ∀ t, item ≠ .text t) : Misfit (.array items)
  | names {texts : List Text} (known : ∀ t ∈ texts, t ∈ names) : Misfit (.array (texts.map .text))
  | table {fields : Toml.Table} (known : Known fields)
      (high : ¬ Low (inTable fields).maxDatagramSize) (invalid : ¬ (inTable fields).Valid) :
      Misfit (.table fields)

/-- What stands in a file although it is neither taken nor refused for its value; what is nested too
deep to be read at all is among it. -/
inductive Unchecked (data : Bytes) : Prop where
  | deep {t : Text} (decoded : Utf8.decode data = .ok t) (deep : Toml.read t = .error .tooDeep)
  | entry {document : Toml.Table} {item : Toml.Item} (read : Reads data document)
      (there : atSocket document = some item) (misfit : Misfit item)

/-- Settings that are not valid, or a fault that is not one of a value. -/
inductive Strays : Except SettingsFault Settings → Prop where
  | invalid {s : Settings} (invalid : ¬ s.Valid) : Strays (.ok s)
  | type (cause : TypeFault) : Strays (.error (.refused (.type cause)))
  | tooDeep : Strays (.error .tooDeep)

/-- The file that settings are loaded from: the one that is given, or the nearest one above. -/
inductive Chosen (tree : FileTree) (directory : Path) : Option WrittenPath → WrittenPath → Prop where
  | given (path : WrittenPath) : Chosen tree directory (some path) path
  | above {found : Path} (discovered : discover tree (.belowRoot directory) = .ok (some found)) :
      Chosen tree directory none (.belowRoot found)

/-- There is a file at the end of a path, with some bytes. -/
def Stores (tree : FileTree) (path : WrittenPath) (data : Bytes) : Prop :=
  ∃ place, tree.find path = .ok (.inside place) ∧ tree.files.lookup place = some data

variable {s : Settings} {document document' fields : Toml.Table} {item : Toml.Item} {data : Bytes}
  {path : Text} {v : Value}

/-! Sizes. -/

/-- What is not a number does not compare as zero or below. -/
theorem isNotPositive_float (x : Floating.Binary64) :
    isNotPositive (.float x) = .ok (!x.isNaN && (x.negative || x.isZero)) := by
  cases number : x.isNaN with
  | true =>
    have unknown : x.extent? = none := by
      rw [Floating.Binary.extent?, number]
      rfl
    simp only [isNotPositive, Value.integer?, unknown]
    rfl
  | false =>
    rcases Floating.Binary.infinite_or_finite number with infinite | finite
    · have nonzero : x.isZero = false := by
        rw [Floating.Binary.isZero, beq_iff_eq.mp infinite]
        rfl
      simp only [isNotPositive, Value.integer?, Floating.Binary.extent_of_isInfinite infinite,
        nonzero]
      cases x.negative <;> rfl
    · have low : decide (x.units ≤ 0) = (x.negative || x.isZero) := by
        rw [Bool.eq_iff_iff, decide_eq_true_eq, Bool.or_eq_true]
        exact x.units_nonpos_iff
      simp only [isNotPositive, Value.integer?, Floating.Binary.extent_of_isFinite finite,
        Floating.Extent.ofInt, zero_mul, ← low, Bool.not_false, Bool.true_and]
      rfl

private theorem isNotPositive_low (low : Low v) : isNotPositive v = .ok true := by
  cases low with
  | int low => exact congrArg Except.ok (decide_eq_true low)
  | bool => rfl
  | float number low =>
    rw [isNotPositive_float, number, Bool.or_eq_true_iff.mpr low]
    rfl

/-- What is not low compares as positive, or not at all. -/
theorem isNotPositive_high (high : ¬ Low v) :
    isNotPositive v = .ok false ∨ ∃ cause, isNotPositive v = .error (.type cause) := by
  cases v with
  | int n => exact .inl (congrArg Except.ok (decide_eq_false fun low => high (.int low)))
  | bool b =>
    cases b with
    | true => exact .inl rfl
    | false => exact absurd .bool high
  | float x =>
    left
    rw [isNotPositive_float]
    cases number : x.isNaN with
    | true => rfl
    | false =>
      have notLow : (x.negative || x.isZero) = false :=
        Bool.eq_false_iff.mpr fun low => high (.float number (Bool.or_eq_true_iff.mp low))
      rw [notLow]
      rfl
  | _ => exact .inr ⟨_, rfl⟩

private theorem check_low (low : Low s.maxDatagramSize) :
    ∃ cause, s.check = .error (.value cause) := by
  rw [check, isNotPositive_low low]
  exact ⟨_, rfl⟩

private theorem check_high (high : ¬ Low s.maxDatagramSize) :
    s.check = .ok s ∨ ∃ cause, s.check = .error (.type cause) := by
  rw [check]
  rcases isNotPositive_high high with positive | ⟨cause, unordered⟩
  · rw [positive]
    exact .inl rfl
  · rw [unordered]
    exact .inr ⟨cause, rfl⟩

private theorem check_valid (valid : s.Valid) : s.check = .ok s := by
  obtain ⟨n, positive, same⟩ := valid.size
  have compared : isNotPositive s.maxDatagramSize = .ok false := by
    rw [same]
    exact congrArg Except.ok (decide_eq_false positive.not_ge)
  rw [check, compared]
  rfl

/-! Tables. -/

/-- The settings with those changed that some fields are about. -/
def updated (s : Settings) (fields : List (Text × Value)) : Settings :=
  ⟨(fields.lookup (ofString "max_datagram_size")).getD s.maxDatagramSize,
    (fields.lookup (ofString "reject_truncated")).getD s.rejectTruncated,
    (fields.lookup (ofString "reuse_address")).getD s.reuseAddress⟩

/-- Distinct names of settings are assigned one by one, and each is the only one of its name. -/
theorem assign_eq_updated {fields : List (Text × Value)} (distinct : (fields.map Prod.fst).Nodup)
    (known : ∀ name ∈ fields.map Prod.fst, name ∈ names) :
    s.assign fields = .ok (s.updated fields) := by
  induction fields generalizing s with
  | nil => rfl
  | cons field rest ih =>
    obtain ⟨name, v⟩ := field
    obtain ⟨new, others⟩ := List.nodup_cons.mp distinct
    obtain ⟨isSetting, knownOthers⟩ := List.forall_mem_cons.mp known
    -- A later field of the same name would win; there is none.
    have absent : rest.lookup name = none := Toml.lookup_eq_none_iff_notMem.mpr new
    simp only [names, List.mem_cons, List.not_mem_nil, or_false] at isSetting
    rcases isSetting with rfl | rfl | rfl
    · rw [assign, if_pos rfl, ih others knownOthers, updated, absent]
      rfl
    · rw [assign, if_neg (by decide), if_pos rfl, ih others knownOthers, updated, absent]
      rfl
    · rw [assign, if_neg (by decide), if_neg (by decide), if_pos rfl, ih others knownOthers,
        updated, absent]
      rfl

private theorem insertName_ne_nil (t : Text) (sorted : List Text) : insertName t sorted ≠ [] := by
  cases sorted with
  | nil => exact List.cons_ne_nil _ _
  | cons u rest =>
    rw [insertName]
    split_ifs <;> exact List.cons_ne_nil _ _

private theorem insertNames_ne_nil {given sorted : List Text} (h : given ≠ [] ∨ sorted ≠ []) :
    given.foldl (fun sorted t => insertName t sorted) sorted ≠ [] := by
  induction given generalizing sorted with
  | nil => exact h.resolve_left fun nonempty => nonempty rfl
  | cons t given ih => exact ih (.inr (insertName_ne_nil t sorted))

private theorem unknown_eq_nil_iff {given : List Text} :
    unknown given = [] ↔ ∀ t ∈ given, t ∈ names := by
  have filtered : given.filter (fun t => !names.contains t) = [] ↔ ∀ t ∈ given, t ∈ names := by
    simp [List.filter_eq_nil_iff]
  rw [← filtered, unknown]
  constructor
  · intro h
    by_contra strange
    exact insertNames_ne_nil (.inl strange) h
  · intro h
    rw [h]
    rfl

section Names

variable {given : List Text} {otherwise : Except Fault Settings}

private theorem refuseUnknown_known (known : ∀ t ∈ given, t ∈ names) :
    refuseUnknown path given otherwise = otherwise := by
  rw [refuseUnknown, unknown_eq_nil_iff.mpr known]

private theorem refuseUnknown_strange (strange : ¬ ∀ t ∈ given, t ∈ names) :
    ∃ cause, refuseUnknown path given otherwise = .error (.value cause) := by
  rw [refuseUnknown]
  split
  · next none => exact absurd (unknown_eq_nil_iff.mp none) strange
  · exact ⟨_, rfl⟩

end Names

private theorem ofFields_known (distinct : (fields.map Prod.fst).Nodup) (known : Known fields) :
    ofFields (fields.map fun (name, item) => (name, valueOf item)) = (inTable fields).check := by
  have same : (fields.map fun (name, item) => (name, valueOf item)).map Prod.fst =
      fields.map Prod.fst := by
    rw [List.map_map]
    rfl
  rw [ofFields, assign_eq_updated (by rwa [same]) (by rwa [same])]
  rfl

/-! Arrays. -/

private theorem type_of_before (v w : Value) :
    Answers (fun fault => ∃ cause, fault = .type cause) (before v w) := by
  rw [before.eq_def]
  split
  · exact .ok _
  · exact .ok _
  · split
    · exact .error ⟨_, rfl⟩
    · exact .ok _

private theorem type_of_least (v : Value) (others : List Value) :
    Answers (fun fault => ∃ cause, fault = .type cause) (least v others) := by
  induction others generalizing v with
  | nil => exact .ok v
  | cons w rest ih =>
    rw [least]
    refine (type_of_before w v).bind fun first => ?_
    cases first with
    | true => exact ih w
    | false => exact ih v

private theorem refuseArray_texts (texts : List Text) :
    refuseArray path ((texts.map Toml.Item.text).map valueOf) =
      refuseUnknown path texts (.error (.type (.notMapping "list"))) := by
  have same : (texts.map Toml.Item.text).map valueOf = texts.map Value.text := by
    rw [List.map_map]
    rfl
  have hashable : (texts.map Value.text).find? (fun v => !isHashable v) = none := by
    simp [List.find?_eq_none, isHashable]
  rw [refuseArray, same, hashable]
  simp [List.filterMap_map]

private theorem refuseArray_mixed (path : Text) {values : List Value} (member : v ∈ values)
    (noText : ∀ t, v ≠ .text t) :
    ∃ cause, refuseArray path values = .error (.type cause) := by
  rw [refuseArray]
  split
  · exact ⟨_, rfl⟩
  · dsimp only
    split
    · next all =>
      have texts := List.filterMap_length_eq_length.mp all v member
      cases v with
      | text t => exact absurd rfl (noText t)
      | _ => cases texts
    · split
      · exact ⟨_, rfl⟩
      · next first rest _ =>
        cases sorted : least first rest with
        | ok v => exact ⟨_, rfl⟩
        | error fault =>
          obtain ⟨cause, rfl⟩ := type_of_least first rest fault sorted
          exact ⟨cause, rfl⟩

/-! Documents. -/

theorem ofDocument_said (distinct : document.Distinct) (said : Says document s) :
    ofDocument path document = s.check := by
  cases said with
  | nothing absent =>
    rw [atSocket] at absent
    rw [ofDocument, absent]
    rfl
  | table there known =>
    rw [atSocket] at there
    rw [ofDocument, there]
    have inner := Toml.Item.distinct_table.mp (distinct.lookup there)
    exact (refuseUnknown_known known).trans (ofFields_known inner.names known)

private theorem valueOf_text {t : Text} (same : valueOf item = .text t) : item = .text t := by
  cases item <;> cases same
  rfl

private theorem singleton_notMem_names (c : CodePoint) : [c] ∉ names := by
  intro member
  have long : ∀ name ∈ names, 1 < name.length := by decide
  exact absurd (long [c] member) (Nat.lt_irrefl 1)

private theorem strays_of_misfit (distinct : document.Distinct)
    (there : atSocket document = some item)
    (misfit : Misfit item) : Strays ((ofDocument path document).mapError .refused) := by
  have found : document.lookup (ofString "socket") = some item := there
  cases misfit with
  | single alone noText =>
    cases item with
    | text t => exact absurd rfl (noText t)
    | array | table => cases alone
    | _ =>
      rw [ofDocument, found]
      exact .type _
  | emptyText =>
    rw [ofDocument, found]
    exact .type _
  | mixed member noText =>
    have noText' : ∀ t, valueOf _ ≠ .text t := fun t same => noText t (valueOf_text same)
    obtain ⟨cause, failed⟩ := refuseArray_mixed path (List.mem_map_of_mem member) noText'
    rw [ofDocument, found]
    dsimp only
    rw [failed]
    exact .type cause
  | names known =>
    rw [ofDocument, found]
    dsimp only
    rw [refuseArray_texts, refuseUnknown_known known]
    exact .type _
  | table known high invalid =>
    rw [ofDocument_said distinct (.table there known)]
    rcases check_high high with taken | ⟨cause, failed⟩
    · rw [taken]
      exact .invalid invalid
    · rw [failed]
      exact .type cause

private theorem value_of_fit (path : Text) (distinct : document.Distinct)
    (there : atSocket document = some item) (fit : ¬ Misfit item)
    (invalid : ∀ s, Says document s → ¬ s.Valid) :
    ∃ cause, ofDocument path document = .error (.value cause) := by
  have found : document.lookup (ofString "socket") = some item := there
  cases item with
  | text t =>
    rw [ofDocument, found]
    cases t with
    | nil => exact absurd .emptyText fit
    | cons c t =>
      refine refuseUnknown_strange fun known => ?_
      exact singleton_notMem_names c (known [c] List.mem_cons_self)
  | array items =>
    have allTexts : items ∈ Set.range (List.map Toml.Item.text) := by
      rw [Set.range_list_map]
      intro item member
      by_contra noText
      exact fit (.mixed member fun t same => noText ⟨t, same.symm⟩)
    obtain ⟨texts, rfl⟩ := allTexts
    rw [ofDocument, found]
    dsimp only
    rw [refuseArray_texts]
    exact refuseUnknown_strange fun known => fit (.names known)
  | table fields =>
    by_cases known : Known fields
    · have said : Says document (inTable fields) := .table there known
      -- Of settings that are not valid only a low size is noticed.
      have low : Low (inTable fields).maxDatagramSize := by
        by_contra high
        exact fit (.table known high (invalid _ said))
      rw [ofDocument_said distinct said]
      exact check_low low
    · rw [ofDocument, found]
      exact refuseUnknown_strange known
  | _ => exact absurd (.single rfl nofun) fit

/-! Files. -/

theorem Reads.unique (read : Reads data document) (read' : Reads data document') :
    document = document' := by
  obtain ⟨t, decoded, parsed⟩ := read
  obtain ⟨t', decoded', parsed'⟩ := read'
  cases decoded.symm.trans decoded'
  cases parsed.symm.trans parsed'
  rfl

theorem Reads.distinct (read : Reads data document) : document.Distinct := by
  obtain ⟨t, -, parsed⟩ := read
  exact Toml.read_distinct parsed

theorem readFile_document (read : Reads data document) :
    readFile path data = (ofDocument path document).mapError .refused := by
  obtain ⟨t, decoded, parsed⟩ := read
  rw [readFile, decoded]
  dsimp only
  rw [parsed]

theorem default_valid : default.Valid where
  size := ⟨defaultMaxDatagramSize, by decide, rfl⟩
  rejecting := ⟨true, rfl⟩
  reusing := ⟨false, rfl⟩

theorem Strays.undocumented {answer : Except SettingsFault Settings} (strays : Strays answer) :
    ¬ AsDocumented data answer := by
  intro documented
  cases documented with
  | taken _ _ valid =>
    cases strays with
    | invalid invalid => exact invalid valid
  | refused ofValue => cases strays <;> cases ofValue

theorem strays_of_unchecked (unchecked : Unchecked data) : Strays (readFile path data) := by
  cases unchecked with
  | deep decoded deep =>
    rw [readFile, decoded]
    dsimp only
    rw [deep]
    exact .tooDeep
  | entry read there misfit =>
    rw [readFile_document read]
    exact strays_of_misfit read.distinct there misfit

private theorem asDocumented_of_reads (read : Reads data document) (checked : ¬ Unchecked data) :
    AsDocumented data (readFile path data) := by
  rw [readFile_document read]
  by_cases takes : ∃ s, Says document s ∧ s.Valid
  · obtain ⟨s, said, valid⟩ := takes
    rw [ofDocument_said read.distinct said, check_valid valid]
    exact .taken read said valid
  · have invalid : ∀ document' s, Reads data document' → Says document' s → ¬ s.Valid := by
      intro document' s read' said valid
      cases read.unique read'
      exact takes ⟨s, said, valid⟩
    cases there : atSocket document with
    | none => exact absurd default_valid (invalid _ _ read (.nothing there))
    | some item =>
      have fit : ¬ Misfit item := fun misfit => checked (.entry read there misfit)
      obtain ⟨cause, failed⟩ := value_of_fit path read.distinct there fit
        fun s => invalid document s read
      rw [failed]
      exact .refused (.setting cause) invalid

private theorem asDocumented_of_unread (unread : ∀ document, ¬ Reads data document)
    (checked : ¬ Unchecked data) : AsDocumented data (readFile path data) := by
  have invalid (document : Toml.Table) (s : Settings) (read : Reads data document) :
      Says document s → ¬ s.Valid := absurd read (unread document)
  rw [readFile]
  cases decoded : Utf8.decode data with
  | error cause => exact .refused (.invalidUtf8 cause) invalid
  | ok t =>
    dsimp only
    cases parsed : Toml.read t with
    | ok document => exact absurd ⟨t, decoded, parsed⟩ (unread document)
    | error refusal =>
      cases refusal with
      | malformed => exact .refused .malformed invalid
      | integerTooLong digits => exact .refused (.integerTooLong digits) invalid
      | tooDeep => exact absurd (.deep decoded parsed) checked

private theorem asDocumented_of_checked (checked : ¬ Unchecked data) :
    AsDocumented data (readFile path data) := by
  by_cases read : ∃ document, Reads data document
  · obtain ⟨document, read⟩ := read
    exact asDocumented_of_reads read checked
  · exact asDocumented_of_unread (not_exists.mp read) checked

theorem load_chosen {tree : FileTree} {directory : Path} {given : Option WrittenPath}
    {path : WrittenPath} (chosen : Chosen tree directory given path) (stored : Stores tree path data) :
    load tree directory given = readFile path.shown data := by
  have file : loadFile tree path = readFile path.shown data := by
    obtain ⟨place, found, content⟩ := stored
    rw [loadFile, found]
    simp only [Place.inside?, Option.bind_some, content]
  cases chosen with
  | given => exact file
  | above discovered =>
    rw [load, discovered]
    exact file

/-- A tree with nothing but a settings file at its root. -/
def holding (t : Text) : FileTree := .ofWays [([fileName], Utf8.form t)] []

theorem chosen_holding (t : Text) : Chosen (holding t) [] none (.belowRoot [fileName]) :=
  .above rfl

theorem stores_holding (t : Text) : Stores (holding t) (.belowRoot [fileName]) (Utf8.form t) :=
  ⟨[fileName], rfl, rfl⟩

theorem reads_form {t : Text} (scalar : t.hasSurrogate = false)
    (parsed : Toml.read t = .ok document) : Reads (Utf8.form t) document :=
  ⟨t, Utf8.decode_eq_ok.mpr ⟨scalar, rfl⟩, parsed⟩

theorem load_holding {t : Text} (scalar : t.hasSurrogate = false)
    (parsed : Toml.read t = .ok document) :
    load (holding t) [] none =
      (ofDocument (WrittenPath.belowRoot [fileName]).shown document).mapError .refused := by
  rw [load_chosen (chosen_holding t) (stores_holding t)]
  exact readFile_document (reads_form scalar parsed)

/-- A file is loaded as it should be exactly when nothing in it goes unchecked. -/
theorem load_asDocumented_iff {tree : FileTree} {directory : Path} {given : Option WrittenPath}
    {path : WrittenPath} (chosen : Chosen tree directory given path)
    (stored : Stores tree path data) :
    (AsDocumented data (load tree directory given) ↔ ¬ Unchecked data) ∧
      (Unchecked data → Strays (load tree directory given)) := by
  rw [load_chosen chosen stored]
  refine ⟨⟨fun documented unchecked => ?_, asDocumented_of_checked⟩, strays_of_unchecked⟩
  exact (strays_of_unchecked unchecked).undocumented documented

/-- A file with a switch. -/
theorem load_asDocumented_switch :
    let t := ofString "[socket]\nreuse_address = true\n"
    Chosen (holding t) [] none (.belowRoot [fileName]) ∧
      Stores (holding t) (.belowRoot [fileName]) (Utf8.form t) ∧
      load (holding t) [] none = .ok { default with reuseAddress := .bool true } ∧
      ¬ Unchecked (Utf8.form t) := by
  intro t
  have parsed : Toml.read t =
      .ok [(ofString "socket", .table [(ofString "reuse_address", .boolean true)])] := by
    unfold t
    cbv
  have read := reads_form (by decide) parsed
  have loaded : load (holding t) [] none = .ok { default with reuseAddress := .bool true } :=
    load_holding (by decide) parsed
  refine ⟨chosen_holding t, stores_holding t, loaded, ?_⟩
  obtain ⟨documented_iff, -⟩ := load_asDocumented_iff (chosen_holding t) (stores_holding t)
  rw [← documented_iff, loaded]
  have known : Known [(ofString "reuse_address", .boolean true)] :=
    List.forall_mem_singleton.mpr (by decide)
  have valid : (inTable [(ofString "reuse_address", .boolean true)]).Valid :=
    ⟨default_valid.size, default_valid.rejecting, true, rfl⟩
  exact .taken read (.table rfl known) valid

/-- A switch that is a text is loaded as it stands, and an array in the place of the settings is a
fault of its type. -/
theorem load_stray :
    let text := ofString "[socket]\nreuse_address = \"no\"\n"
    let array := ofString "socket = []\n"
    load (holding text) [] none = .ok { default with reuseAddress := .text (ofString "no") } ∧
      ¬ AsDocumented (Utf8.form text) (load (holding text) [] none) ∧
      load (holding array) [] none = .error (.refused (.type (.notMapping "list"))) ∧
      ¬ AsDocumented (Utf8.form array) (load (holding array) [] none) := by
  intro text array
  have parsed : Toml.read text =
      .ok [(ofString "socket", .table [(ofString "reuse_address", .text (ofString "no"))])] := by
    unfold text
    cbv
  have parsed' : Toml.read array = .ok [(ofString "socket", .array [])] := by
    unfold array
    cbv
  have loaded := load_holding (t := text) (by decide) parsed
  have failed := load_holding (t := array) (by decide) parsed'
  refine ⟨loaded, loaded ▸ Strays.undocumented (.invalid ?_), failed,
    failed ▸ Strays.undocumented (.type _)⟩
  intro valid
  obtain ⟨b, same⟩ := valid.reusing
  cases same

end Settings

end Osc
