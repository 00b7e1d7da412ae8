import Perfana.Lib.MapM
import Perfana.Lib.Upserts
import Perfana.Lib.Words

/-!
# Metrics of a query

A query of Dynatrace is answered by records. Each numeric field of a record is a series, with
one point or, if its value is an array, one for each number in it. The series are named after
the values of the fields that the query groups by, joined by underscores, and after the field,
or what is given in place of it; the points are upserted by name and time.

What the patterns read from the text of the query, and the numbers and dates, are parameters.

* `DqlTile.metricName_eq_iff`: series that are named alike have the same words;
* `DqlTile.keepsIdentity_iff`: exactly when the series are told apart, however their values
  arrive.
-/

namespace Perfana

/-! ## Records -/

/-- A value that is not made of others. -/
inductive DqlScalar (ν : Type*)
  | null
  | bool (b : Bool)
  | number (n : ν)
  | string (s : String)
  /-- A value within one that is within the record, as it reads as a text. -/
  | nested (text : String)
deriving DecidableEq

/-- A value of a record. -/
inductive DqlValue (ν : Type*)
  | scalar (v : DqlScalar ν)
  | array (vs : List (DqlScalar ν))
  | object (fields : List (String × DqlScalar ν))
deriving DecidableEq

/-- A record: a value for each of its fields, in their order. -/
abbrev DqlRecord (ν : Type*) := Table String (DqlValue ν)

/-- Numbers and dates. A date that is invalid is `none`. -/
structure DqlRuntime (ν : Type*) where
  numberText : ν → String
  isZero : ν → Bool
  parseFloat : String → Option ν
  dateOf : DqlScalar ν → Option ℤ
  now : ℤ
  /-- The time of a value of an array: so many intervals, read off a text, after its start. -/
  pointTime : Option ℤ → String → ℕ → Option ℤ
  /-- The time since the start of the run, and whether it is outside the analysis. -/
  calculateTimestepAndRampUp : Option ℤ → ℤ × Bool

/-- What the patterns read from the text of a query. -/
structure DqlQuery where
  /-- The fields of the `by:` clause, none if there is no such clause. -/
  groupingFields : List String
  /-- The new name of a field. -/
  fieldRenames : String → Option String
  hasFieldsAdd : Bool
  fieldsAddNames : List String
  /-- The value that a field is filtered by. -/
  filterValue : String → Option String

/-- A query with how its answer is read. -/
structure DqlTile (ν : Type*) where
  runtime : DqlRuntime ν
  query : DqlQuery
  omitGroupByVariableFromMetricName : List String
  /-- The metric name that is configured for the query. -/
  explicitMetricName : Option String
  /-- The filter of metric names. -/
  matchesMetricPattern : String → Bool
  testRunEnd : Option ℤ

/-- A text that is not empty. -/
def given (text : Option String) : Option String := text.filter fun s => s ≠ ""

/-- A text starts with another one. -/
def startsWith (s start : String) : Bool := start.toList.isPrefixOf s.toList

variable {ν : Type*}

namespace DqlRuntime

variable (rt : DqlRuntime ν)

/-- A value as an element of an array that is made a text. -/
def elementText : DqlScalar ν → String
  | .null => ""
  | .bool b => toString b
  | .number n => rt.numberText n
  | .string s => s
  | .nested text => text

/-- A value as a text. -/
def text : DqlValue ν → String
  | .scalar .null => "null"
  | .scalar v => rt.elementText v
  | .array vs => String.ofList ([','].intercalate (vs.map fun v => (rt.elementText v).toList))
  | .object _ => "[object Object]"

/-- A value that counts as true. -/
def truthy : DqlValue ν → Bool
  | .scalar .null => false
  | .scalar (.bool b) => b
  | .scalar (.number n) => !rt.isZero n
  | .scalar (.string s) => s ≠ ""
  | _ => true

/-- The date that a value stands for. -/
def parseTimestampValue : DqlValue ν → Option ℤ
  | .scalar (.string s) => rt.dateOf (.string s)
  | .scalar (.number n) => rt.dateOf (.number n)
  | .object fields =>
    match fields.lookup "start" with
    | some start => rt.dateOf start
    | none =>
      match fields.lookup "end" with
      | some stop => rt.dateOf stop
      | none => some rt.now
  | _ => some rt.now

/-- Where the time of a record is looked for. -/
def timestampFields : List String :=
  ["timestamp", "timeframe.start", "timeframe", "time", "_time", "dt.timestamp"]

/-- The time of a record, and the field that it is from. An object counts as true, so its
    parts need no second look. -/
def parseTimestamp (record : DqlRecord ν) (testRunEnd : Option ℤ) : Option ℤ × String :=
  match timestampFields.findSome? fun field =>
      ((record.get field).filter rt.truthy).map fun value => (rt.parseTimestampValue value, field) with
  | some found => found
  | none => ((testRunEnd.or (some rt.now)), "default")

/-- A number that a text starts with, or one before a percent sign. -/
def parseNumericString (s : String) : Option ν :=
  match rt.parseFloat s with
  | some n => some n
  | none =>
    if ['%'].isSuffixOf s.toList then rt.parseFloat (String.ofList s.toList.dropLast) else none

end DqlRuntime

/-- The name of a field in the records. -/
def DqlQuery.actualField (q : DqlQuery) (field : String) : String :=
  (given (q.fieldRenames field)).getD field

/-- The field is one that the query groups by. -/
def DqlQuery.isGroupingField (q : DqlQuery) (field : String) : Bool :=
  q.groupingFields.any fun original => field = original || field = q.actualField original

namespace DqlTile

variable (tile : DqlTile ν)

/-- A value is there. -/
def present : DqlValue ν → Bool
  | .scalar .null => false
  | .scalar (.string s) => s ≠ ""
  | _ => true

/-- The value of a field that the query groups by, or the one that it is filtered by. -/
def groupingValue (record : DqlRecord ν) (field : String) : Option String :=
  match (record.get (tile.query.actualField field)).filter present with
  | some value => some (tile.runtime.text value)
  | none => given (tile.query.filterValue field)

/-- The dimensions of a record of a query that does not group, with their values. -/
def dimensions (record : DqlRecord ν) : List (String × String) :=
  record.rows.filterMap fun row =>
    if startsWith row.1 "dt.entity." && present row.2 then some (row.1, tile.runtime.text row.2)
    else none

/-- The values that a record is grouped by, none if one is missing. -/
def getGroupingFieldValues (record : DqlRecord ν) : List String :=
  if tile.query.groupingFields = [] then (tile.dimensions record).map Prod.snd
  else (tile.query.groupingFields.mapM (tile.groupingValue record)).getD []

/-- The field is left out of the names. -/
def omitted (field : String) : Bool :=
  field ∈ tile.omitGroupByVariableFromMetricName ||
    tile.query.actualField field ∈ tile.omitGroupByVariableFromMetricName

/-- The values that the names of a record start with. -/
def nameValues (record : DqlRecord ν) : List String :=
  if tile.omitGroupByVariableFromMetricName ≠ [] then
    (tile.query.groupingFields.zip (tile.getGroupingFieldValues record)).filterMap fun row =>
      if tile.omitted row.1 then none else some row.2
  else tile.getGroupingFieldValues record

/-- What the names of a record start with. -/
def metricPrefix (values : List String) : String :=
  String.ofList (['_'].intercalate (values.map String.toList))

/-- The metric name that a record gives for itself. -/
def metricNameFromFieldsAdd (record : DqlRecord ν) : Option String :=
  ((record.get "metricName").filter tile.runtime.truthy).map tile.runtime.text

/-- The field is a series. -/
def isMetricField (field timestampField : String) : Bool :=
  !(startsWith field "timestamp" || startsWith field "timeframe" || startsWith field "time" ||
      startsWith field "_time" || startsWith field "dt.timestamp" || field = timestampField) &&
    !(tile.query.isGroupingField field || field = "timeframe" || field = "interval") &&
    !(tile.query.hasFieldsAdd && field ∈ tile.query.fieldsAddNames && field ≠ "metricName") &&
    field ≠ "metricName" && !startsWith field "valuesOp"

/-- How the value of a field arrives. -/
inductive Arrival
  | array
  | number
  | text
deriving DecidableEq

/-- A name behind what the names start with. -/
def prefixed (values : List String) (name : String) : String :=
  if metricPrefix values ≠ "" then metricPrefix values ++ "_" ++ name else name

/-- The name of a series. -/
def metricName (values : List String) (fromFieldsAdd : Option String) (field : String) :
    Arrival → String
  | .array | .number =>
    prefixed values (((given tile.explicitMetricName).or fromFieldsAdd).getD field)
  | .text =>
    match given tile.explicitMetricName with
    | some explicitMetricName => explicitMetricName
    | none => prefixed values (fromFieldsAdd.getD field)

end DqlTile

/-! ## Points -/

/-- A number of a series, with what its name is made of. -/
structure DqlEntry (ν : Type*) where
  /-- The values that the series is grouped by, without those that are left out of names. -/
  groupingValues : List String
  fieldName : String
  nameValues : List String
  fromFieldsAdd : Option String
  arrival : DqlTile.Arrival
  time : Option ℤ
  value : ν

/-- The series of the query that a number belongs to. -/
def DqlEntry.series (e : DqlEntry ν) : List String × String := (e.groupingValues, e.fieldName)

/-- A point as it is upserted. -/
structure DqlPoint (ν : Type*) where
  metricName : String
  time : Option ℤ
  timestep : ℤ
  rampUp : Bool
  value : ν

namespace DqlTile

variable (tile : DqlTile ν)

/-- The values of a record that are not left out of names: of the fields that the query groups
    by, or of the dimensions. -/
def notOmitted (record : DqlRecord ν) : List String :=
  if tile.query.groupingFields = [] then
    ((tile.dimensions record).filter fun row =>
      row.1 ∉ tile.omitGroupByVariableFromMetricName).map Prod.snd
  else
    (tile.query.groupingFields.zip (tile.getGroupingFieldValues record)).filterMap fun row =>
      if tile.omitted row.1 then none else some row.2

/-- The start of the values of an array. -/
def startTime (record : DqlRecord ν) (timestamp : Option ℤ) : Option ℤ :=
  match record.get "timeframe" with
  | some (.object fields) =>
    match (fields.lookup "start").filter fun v => tile.runtime.truthy (.scalar v) with
    | some start => tile.runtime.parseTimestampValue (.scalar start)
    | none => timestamp
  | _ => timestamp

/-- The interval between the values of an array, as a text. -/
def interval (record : DqlRecord ν) : String :=
  (((record.get "interval").filter tile.runtime.truthy).map tile.runtime.text).getD "60000000000"

/-- The numbers of a value, with the way they arrive and their times. -/
def numbers (record : DqlRecord ν) (timestamp : Option ℤ) :
    DqlValue ν → List (Arrival × Option ℤ × ν)
  | .array vs => vs.zipIdx.filterMap fun v => match v.1 with
    | .number n => some (.array, tile.runtime.pointTime (tile.startTime record timestamp)
        (tile.interval record) v.2, n)
    | _ => none
  | .scalar (.number n) => [(.number, timestamp, n)]
  | .scalar (.string s) => match tile.runtime.parseNumericString s with
    | some n => [(.text, timestamp, n)]
    | none => []
  | _ => []

/-- The numbers of a record, unless a value that it is grouped by is missing. -/
def recordEntries (record : DqlRecord ν) : List (DqlEntry ν) :=
  if tile.getGroupingFieldValues record = [] ∧ tile.query.groupingFields ≠ [] then []
  else
    let (timestamp, timestampField) := tile.runtime.parseTimestamp record tile.testRunEnd
    (record.rows.filter fun row => tile.isMetricField row.1 timestampField).flatMap fun row =>
      (tile.numbers record timestamp row.2).map fun number =>
        ⟨tile.notOmitted record, row.1, tile.nameValues record,
          tile.metricNameFromFieldsAdd record, number.1, number.2.1, number.2.2⟩

/-- The records but for a first one that is null throughout. -/
def dataRecords : List (DqlRecord ν) → List (DqlRecord ν)
  | [] => []
  | first :: rest =>
    if first.rows.all fun row => match row.2 with
      | .scalar .null => true
      | _ => false
    then rest else first :: rest

/-- The numbers of an answer. -/
def entries (records : List (DqlRecord ν)) : List (DqlEntry ν) :=
  (dataRecords records).flatMap tile.recordEntries

/-- The name of the series of a number. -/
def entryName (e : DqlEntry ν) : String :=
  tile.metricName e.nameValues e.fromFieldsAdd e.fieldName e.arrival

/-- The point of a number. -/
def entryPoint (e : DqlEntry ν) : DqlPoint ν :=
  ⟨tile.entryName e, e.time, (tile.runtime.calculateTimestepAndRampUp e.time).1,
    (tile.runtime.calculateTimestepAndRampUp e.time).2, e.value⟩

/-- The points of an answer, each with the number that it is of. -/
def extracted (records : List (DqlRecord ν)) : List (DqlEntry ν × DqlPoint ν) :=
  ((tile.entries records).filter fun e => tile.matchesMetricPattern (tile.entryName e)).map
    fun e => (e, tile.entryPoint e)

/-- The points of an answer that are upserted, one for each name and time. -/
def upserted (records : List (DqlRecord ν)) :
    Table (String × Option ℤ) (DqlEntry ν × DqlPoint ν) :=
  Table.lastOfKey (fun p => (p.2.metricName, p.2.time)) (tile.extracted records)

/-! ## Identity -/

/-- The series of an answer keep their identity. -/
structure KeepsIdentity (records : List (DqlRecord ν)) : Prop where
  /-- Points of different series at one time have different names. -/
  names : ∀ p ∈ tile.extracted records, ∀ q ∈ tile.extracted records, p.2.time = q.2.time →
    p.1.series ≠ q.1.series → p.2.metricName ≠ q.2.metricName
  /-- The name of a series is the same however its value arrives. -/
  arrival : ∀ e ∈ tile.entries records, ∀ arrival,
    tile.metricName e.nameValues e.fromFieldsAdd e.fieldName arrival = tile.entryName e
  /-- A point is overwritten by points of its series only. -/
  upserted : ∀ p ∈ tile.extracted records, ∀ q,
    (tile.upserted records).get (p.2.metricName, p.2.time) = some q → q.1.series = p.1.series

/-- The name of a series behind the values of its group. -/
def baseName (e : DqlEntry ν) : String :=
  ((given tile.explicitMetricName).or e.fromFieldsAdd).getD e.fieldName

/-- The values that show in a name. A single empty one does not. -/
def shown (values : List String) : List String := if values = [""] then [] else values

/-- The words of a name, between underscores. -/
def nameWords (e : DqlEntry ν) : List (List Char) :=
  words '_' ((shown e.nameValues ++ [tile.baseName e]).map String.toList)

/-- A number whose point is kept. -/
def Kept (records : List (DqlRecord ν)) (e : DqlEntry ν) : Prop :=
  e ∈ tile.entries records ∧ tile.matchesMetricPattern (tile.entryName e) = true

/-- What tells the series of an answer apart. -/
structure Distinguishable (records : List (DqlRecord ν)) : Prop where
  /-- A metric name is not configured, or no value shows in the names. -/
  arrival : given tile.explicitMetricName ≠ none → ∀ e ∈ tile.entries records,
    shown e.nameValues = []
  /-- Series with the same values in their names, if they share a time, are not given one
      name in the place of their fields. -/
  fields : ∀ e e', tile.Kept records e → tile.Kept records e' → e.time = e'.time →
    e.series ≠ e'.series → shown e.nameValues = shown e'.nameValues →
    tile.baseName e ≠ tile.baseName e'
  /-- Series with different values in their names, if they share a time, do not read the same
      if the underscores within the values count, too. -/
  underscores : ∀ e e', tile.Kept records e → tile.Kept records e' → e.time = e'.time →
    shown e.nameValues ≠ shown e'.nameValues → tile.nameWords e ≠ tile.nameWords e'

section Names

variable {tile} {records : List (DqlRecord ν)} {e e' : DqlEntry ν}

theorem metricPrefix_eq_empty {values : List String} :
    metricPrefix values = "" ↔ shown values = [] := by
  have hempty : ∀ l : List Char, String.ofList l = "" ↔ l = [] := fun l => by
    rw [← String.toList_inj, String.toList_ofList]
    rfl
  rw [metricPrefix, hempty, shown]
  cases values with
  | nil => simp
  | cons v values =>
    cases values with
    | nil =>
      rw [List.map_singleton, List.intercalate_singleton]
      by_cases hv : v = ""
      · simp [hv]
      · simp [hv]
    | cons w values =>
      rw [List.map_cons, List.map_cons, List.intercalate_cons_cons]
      simp

/-- A name is the values that show in it and the name of the series, joined. -/
theorem toList_prefixed (values : List String) (name : String) :
    (prefixed values name).toList =
      ['_'].intercalate ((shown values ++ [name]).map String.toList) := by
  rw [prefixed]
  split
  · rename_i hne
    have hshown : shown values ≠ [] := fun heq => hne (metricPrefix_eq_empty.2 heq)
    have hvalues : shown values = values := by
      rw [shown] at hshown ⊢
      split
      · rename_i heq
        exact absurd (if_pos heq) hshown
      · rfl
    rw [hvalues] at hshown ⊢
    have hmap : values.map String.toList ≠ [] := fun heq => hshown (List.map_eq_nil_iff.1 heq)
    rw [List.map_append, List.map_singleton, intercalate_append hmap (List.cons_ne_nil _ _),
      List.intercalate_singleton, String.toList_append, String.toList_append,
      metricPrefix, String.toList_ofList, List.append_assoc]
    rfl
  · rename_i heq
    rw [metricPrefix_eq_empty.1 (not_not.1 heq), List.nil_append, List.map_singleton,
      List.intercalate_singleton]

/-- Values that show in a name make it another one. -/
theorem prefixed_eq_self_iff {values : List String} {name : String} :
    prefixed values name = name ↔ shown values = [] := by
  constructor
  · intro heq
    by_contra hne
    have hmap : (shown values).map String.toList ≠ [] := fun heq => hne (List.map_eq_nil_iff.1 heq)
    have hlength : (prefixed values name).toList.length = name.toList.length := by rw [heq]
    rw [toList_prefixed, List.map_append, List.map_singleton,
      intercalate_append hmap (List.cons_ne_nil _ _), List.intercalate_singleton,
      List.length_append, List.length_cons] at hlength
    omega
  · intro hnil
    rw [← String.toList_inj, toList_prefixed, hnil, List.nil_append, List.map_singleton,
      List.intercalate_singleton]

/-- Names are the same exactly if their words are. -/
theorem metricName_eq_iff :
    prefixed e.nameValues (tile.baseName e) = prefixed e'.nameValues (tile.baseName e') ↔
      tile.nameWords e = tile.nameWords e' := by
  rw [← String.toList_inj, toList_prefixed, toList_prefixed, nameWords, nameWords]
  exact intercalate_eq_iff (by simp) (by simp)

/-- Behind the same values the same words are of the same name. -/
theorem baseName_eq (hvalues : shown e.nameValues = shown e'.nameValues)
    (hwords : tile.nameWords e = tile.nameWords e') : tile.baseName e = tile.baseName e' := by
  rw [nameWords, nameWords, hvalues, List.map_append, List.map_append, words_append,
    words_append] at hwords
  have hjoin := congrArg (['_'].intercalate ·) (List.append_cancel_left hwords)
  rw [intercalate_words, intercalate_words, List.map_singleton, List.map_singleton,
    List.intercalate_singleton, List.intercalate_singleton] at hjoin
  exact String.toList_inj.1 hjoin

theorem length_getGroupingFieldValues_le (record : DqlRecord ν)
    (hgroups : tile.query.groupingFields ≠ []) :
    (tile.getGroupingFieldValues record).length ≤ tile.query.groupingFields.length := by
  rw [getGroupingFieldValues, if_neg hgroups]
  cases h : tile.query.groupingFields.mapM (tile.groupingValue record) with
  | none => exact Nat.zero_le _
  | some values => exact (length_of_mapM h).le

/-- The names start with the values that are not left out, or with none: the dimensions are
    all left out with any of them. -/
theorem nameValues_eq (tile : DqlTile ν) : (∀ record, tile.nameValues record = tile.notOmitted record) ∨
    ∀ record, tile.nameValues record = [] := by
  by_cases homit : tile.omitGroupByVariableFromMetricName = []
  · refine .inl fun record => ?_
    rw [nameValues, if_neg (not_not.2 homit), notOmitted]
    split
    · rename_i hgroups
      rw [getGroupingFieldValues, if_pos hgroups, homit, List.filter_eq_self.2]
      exact fun row _ => decide_eq_true List.not_mem_nil
    · rename_i hgroups
      have homitted : ∀ field, tile.omitted field = false := by
        intro field
        rw [omitted, homit]
        rfl
      simp only [homitted, Bool.false_eq_true, if_false]
      exact (List.map_snd_zip (length_getGroupingFieldValues_le record hgroups)).symm.trans
        (congrFun List.filterMap_eq_map _).symm
  · by_cases hgroups : tile.query.groupingFields = []
    · refine .inr fun record => ?_
      rw [nameValues, if_pos homit, hgroups]
      rfl
    · refine .inl fun record => ?_
      rw [nameValues, if_pos homit, notOmitted, if_neg hgroups]

theorem of_mem_entries (he : e ∈ tile.entries records) : ∃ record,
    e.groupingValues = tile.notOmitted record ∧ e.nameValues = tile.nameValues record := by
  obtain ⟨record, -, he⟩ := List.mem_flatMap.1 he
  rw [recordEntries] at he
  split at he
  · cases he
  · obtain ⟨row, -, he⟩ := List.mem_flatMap.1 he
    obtain ⟨number, -, rfl⟩ := List.mem_map.1 he
    exact ⟨record, rfl, rfl⟩

/-- Different values in the names are of different series. -/
theorem series_ne (he : e ∈ tile.entries records) (he' : e' ∈ tile.entries records)
    (h : shown e.nameValues ≠ shown e'.nameValues) : e.series ≠ e'.series := by
  obtain ⟨record, hvalues, hname⟩ := of_mem_entries he
  obtain ⟨record', hvalues', hname'⟩ := of_mem_entries he'
  rintro hseries
  have hgroup : e.groupingValues = e'.groupingValues := congrArg Prod.fst hseries
  rw [hname, hname'] at h
  rcases nameValues_eq tile with heq | hnil
  · rw [heq, heq, ← hvalues, ← hvalues', hgroup] at h
    exact h rfl
  · rw [hnil, hnil] at h
    exact h rfl

/-- A series has one name, if no value shows in the names or none is configured. -/
theorem metricName_eq (h : given tile.explicitMetricName ≠ none → shown e.nameValues = [])
    (arrival : Arrival) :
    tile.metricName e.nameValues e.fromFieldsAdd e.fieldName arrival =
      prefixed e.nameValues (tile.baseName e) := by
  cases arrival with
  | array => rfl
  | number => rfl
  | text =>
    rw [metricName, baseName]
    cases hgiven : given tile.explicitMetricName with
    | none => rw [Option.none_or]
    | some explicitMetricName =>
      have hshown := h (by rw [hgiven]; exact Option.some_ne_none _)
      exact (prefixed_eq_self_iff.2 hshown).symm

/-- The series of an answer keep their identity exactly if they are told apart: a configured
    metric name comes without values in the names, series with the same values in their names
    are not given one name, and underscores within the values do not make others read alike. -/
theorem keepsIdentity_iff (tile : DqlTile ν) (records : List (DqlRecord ν)) :
    tile.KeepsIdentity records ↔ tile.Distinguishable records := by
  have hpoint : ∀ e, tile.Kept records e ↔ (e, tile.entryPoint e) ∈ tile.extracted records := by
    intro e
    rw [extracted, List.mem_map]
    constructor
    · exact fun he => ⟨e, List.mem_filter.2 he, rfl⟩
    · rintro ⟨e', he', heq⟩
      obtain rfl := (Prod.mk.inj heq).1
      exact List.mem_filter.1 he'
  have hextracted : ∀ p ∈ tile.extracted records, tile.Kept records p.1 ∧ p.2 = tile.entryPoint p.1 := by
    intro p hp
    obtain ⟨e, he, rfl⟩ := List.mem_map.1 hp
    exact ⟨List.mem_filter.1 he, rfl⟩
  constructor
  · intro h
    have harrival : given tile.explicitMetricName ≠ none → ∀ e ∈ tile.entries records,
        shown e.nameValues = [] := by
      intro hgiven e he
      obtain ⟨explicitMetricName, hgiven⟩ := Option.ne_none_iff_exists'.1 hgiven
      have hsame := (h.arrival e he .array).trans (h.arrival e he .text).symm
      rw [metricName, metricName, hgiven] at hsame
      exact prefixed_eq_self_iff.1 hsame
    have hname : ∀ e ∈ tile.entries records,
        tile.entryName e = prefixed e.nameValues (tile.baseName e) :=
      fun e he => metricName_eq (fun hgiven => harrival hgiven e he) e.arrival
    refine ⟨harrival, fun e e' he he' htime hseries hvalues hbase => ?_,
      fun e e' he he' htime hvalues hwords => ?_⟩
    · refine h.names _ ((hpoint e).1 he) _ ((hpoint e').1 he') htime hseries ?_
      change tile.entryName e = tile.entryName e'
      rw [hname e he.1, hname e' he'.1, metricName_eq_iff, nameWords, nameWords, hvalues, hbase]
    · refine h.names _ ((hpoint e).1 he) _ ((hpoint e').1 he') htime
        (series_ne he.1 he'.1 hvalues) ?_
      change tile.entryName e = tile.entryName e'
      rw [hname e he.1, hname e' he'.1, metricName_eq_iff, hwords]
  · intro h
    have hname : ∀ e ∈ tile.entries records, ∀ arrival,
        tile.metricName e.nameValues e.fromFieldsAdd e.fieldName arrival =
          prefixed e.nameValues (tile.baseName e) :=
      fun e he => metricName_eq fun hgiven => h.arrival hgiven e he
    have hnames : ∀ p ∈ tile.extracted records, ∀ q ∈ tile.extracted records, p.2.time = q.2.time →
        p.1.series ≠ q.1.series → p.2.metricName ≠ q.2.metricName := by
      intro p hp q hq htime hseries heq
      obtain ⟨he, hp⟩ := hextracted p hp
      obtain ⟨he', hq⟩ := hextracted q hq
      rw [hp, hq] at htime heq
      change tile.entryName p.1 = tile.entryName q.1 at heq
      have hwords : tile.nameWords p.1 = tile.nameWords q.1 := by
        rw [← metricName_eq_iff, ← hname p.1 he.1 p.1.arrival, ← hname q.1 he'.1 q.1.arrival]
        exact heq
      by_cases hvalues : shown p.1.nameValues = shown q.1.nameValues
      · exact h.fields p.1 q.1 he he' htime hseries hvalues (baseName_eq hvalues hwords)
      · exact h.underscores p.1 q.1 he he' htime hvalues hwords
    refine ⟨hnames, fun e he arrival => ?_, fun p hp q hq => ?_⟩
    · rw [hname e he arrival]
      exact (hname e he e.arrival).symm
    · rw [upserted] at hq
      have hmem := Table.mem_of_lastOfKey hq
      have hkey := Table.key_of_lastOfKey hq
      obtain ⟨hsame, htime⟩ := Prod.mk.inj hkey
      by_contra hseries
      exact hnames q hmem p hp htime hseries hsame

end Names

/-! ## Examples -/

/-- Whole numbers, whose dates are milliseconds. -/
def wholeNumbers : DqlRuntime ℕ where
  numberText := toString
  isZero n := n = 0
  parseFloat s :=
    let digits := s.toList.takeWhile Char.isDigit
    if digits = [] then none
    else some (digits.foldl (fun n c => 10 * n + (c.toNat - '0'.toNat)) 0)
  dateOf
    | .number n => some n
    | _ => none
  now := 0
  pointTime start _ idx := start.map fun t => t + 60000 * idx
  calculateTimestepAndRampUp time := (time.getD 0 / 1000, false)

/-- A query by some fields. -/
def tileBy (fields : List String) (explicitMetricName : Option String) : DqlTile ℕ where
  runtime := wholeNumbers
  query := ⟨fields, fun _ => none, false, [], fun _ => none⟩
  omitGroupByVariableFromMetricName := []
  explicitMetricName
  matchesMetricPattern _ := true
  testRunEnd := none

/-- What two hosts use, as texts. -/
def hostRecords : List (DqlRecord ℕ) :=
  [⟨[("timestamp", .scalar (.number 1000)), ("host", .scalar (.string "a")),
      ("usage", .scalar (.string "10"))], by decide⟩,
    ⟨[("timestamp", .scalar (.number 1000)), ("host", .scalar (.string "b")),
      ("usage", .scalar (.string "20"))], by decide⟩]

/-- What two disks have, with underscores in the values. -/
def diskRecords : List (DqlRecord ℕ) :=
  [⟨[("timestamp", .scalar (.number 1000)), ("host", .scalar (.string "a_b")),
      ("disk", .scalar (.string "c")), ("free", .scalar (.number 10))], by decide⟩,
    ⟨[("timestamp", .scalar (.number 1000)), ("host", .scalar (.string "a")),
      ("disk", .scalar (.string "b_c")), ("free", .scalar (.number 20))], by decide⟩]

/-- The texts of the hosts have the name that is configured, without their values; the values
    of the disks read alike. -/
theorem not_keepsIdentity_hostRecords :
    ¬(tileBy ["host"] (some "cpu")).KeepsIdentity hostRecords ∧
      ¬(tileBy ["host", "disk"] none).KeepsIdentity diskRecords := by
  have hcollide : ∀ {tile : DqlTile ℕ} {records : List (DqlRecord ℕ)},
      (tile.extracted records).any (fun p => (tile.extracted records).any fun q =>
        p.2.time = q.2.time && p.1.series ≠ q.1.series && p.2.metricName = q.2.metricName) = true →
      ¬tile.KeepsIdentity records := by
    intro tile records htest h
    obtain ⟨p, hp, htest⟩ := List.any_eq_true.1 htest
    obtain ⟨q, hq, htest⟩ := List.any_eq_true.1 htest
    simp only [Bool.and_eq_true, decide_eq_true_eq] at htest
    exact h.names p hp q hq htest.1.1 htest.1.2 htest.2
  exact ⟨hcollide (by decide +kernel), hcollide (by decide +kernel)⟩

end DqlTile

end Perfana
