import Perfana.Lib.Groups
import Perfana.Lib.Table
import Perfana.Lib.Text
import Mathlib.Algebra.Order.Ring.Int
import Mathlib.Data.List.Forall2
import Mathlib.Data.List.Sort

/-!
# Scenarios of a JMeter file

The records of a JMeter file are put in scenarios, one for each thread group if there are several
(`scenarioRecords`), and the samples of a scenario are read from its records, in order
(`buildScenarioFromRecords`): a record is a transaction or a request. Without transactions there is
one for each request. Unless sub-transactions are included, rows of the threads and the containers
of parallel controllers are left out. A run takes the time of its scenarios.

* `build_requests`, `build_transactions`, `build_startTime`, `build_endTime`: what a scenario has of
  its records;
* `keepsSamples_iff`: each record is in one scenario, but for those left out, and each scenario and
  the run take the time of their samples, if and only if the threads have names where rows are left
  out, and none that is left out stretches the time of its scenario (`IsComplete`).
-/

namespace Perfana.Jtl

/-! ## Records -/

/-- A record: the values of its columns. -/
abbrev Record := List (String × String)

/-- The value of a column, of which there may be none. -/
def Record.get (row : Record) (column : String) : Option String := row.reverse.lookup column

/-- The value of a column, or else nothing. -/
def Record.text (row : Record) (column : String) : String := (row.get column).getD ""

/-- The digits that a text begins with, as a number; without any it is not a number. -/
def leadingNumber (cs : List Char) : Option ℤ :=
  let digits := cs.takeWhile Char.isDigit
  if digits = [] then none else some (Nat.ofDigitChars 10 digits 0)

/-- The whole number that a text begins with. -/
def parseInt (s : String) : Option ℤ :=
  match s.toList.dropWhile Text.isStrWhiteSpace with
  | '-' :: cs => (leadingNumber cs).map fun n => -n
  | '+' :: cs => leadingNumber cs
  | cs => leadingNumber cs

/-- The number in a column, or zero if it has no value. -/
def Record.number (row : Record) (column : String) : Option ℤ :=
  parseInt (if row.text column = "" then "0" else row.text column)

def Record.timeStamp (row : Record) : Option ℤ := row.number "timeStamp"

/-- When the sample ended: numbers that are none have no sum. -/
def Record.stop (row : Record) : Option ℤ := do
  let t ← row.number "timeStamp"
  let e ← row.number "elapsed"
  some (t + e)

/-- The record is of a transaction. -/
def Record.isTransaction (row : Record) : Bool :=
  "Number of samples in transaction".toList.isPrefixOf (row.text "responseMessage").toList

/-! ## Samples -/

structure JtlRequestRow where
  time : Option ℤ
  transactionName : String
  samplerName : String
  responseCode : String
  responseMessage : String
  failureMessage : String
  success : Bool
  requestSize : Option ℤ
  responseSize : Option ℤ
  responseConnectTime : Option ℤ
  responseLatency : Option ℤ
  responseTime : Option ℤ
  url : String
  deriving DecidableEq

structure JtlTransactionRow where
  time : Option ℤ
  transactionName : String
  success : Bool
  requestSize : Option ℤ
  responseSize : Option ℤ
  responseTime : Option ℤ
  deriving DecidableEq

structure VirtualUserSample where
  time : Option ℤ
  grpThreads : Option ℤ
  allThreads : Option ℤ
  deriving DecidableEq

structure ParsedScenario where
  scenarioName : String
  requests : List JtlRequestRow
  transactions : List JtlTransactionRow
  startTime : ℤ
  endTime : ℤ
  virtualUsers : List VirtualUserSample
  deriving DecidableEq

/-- A record as a request of a transaction. -/
def requestRow (row : Record) (transactionName : String) : JtlRequestRow where
  time := row.timeStamp
  transactionName := transactionName
  samplerName := row.text "label"
  responseCode := row.text "responseCode"
  responseMessage := row.text "responseMessage"
  failureMessage := row.text "failureMessage"
  success := row.get "success" = some "true"
  requestSize := row.number "sentBytes"
  responseSize := row.number "bytes"
  responseConnectTime := row.number "Connect"
  responseLatency := row.number "Latency"
  responseTime := row.number "elapsed"
  url := row.text "URL"

/-- A record as a transaction. -/
def transactionRow (row : Record) : JtlTransactionRow where
  time := row.timeStamp
  transactionName := row.text "label"
  success := row.get "success" = some "true"
  requestSize := row.number "sentBytes"
  responseSize := row.number "bytes"
  responseTime := row.number "elapsed"

/-- The transaction that is made of a request. -/
def synthesized (req : JtlRequestRow) : JtlTransactionRow where
  time := req.time
  transactionName := req.samplerName
  success := req.success
  requestSize := req.requestSize
  responseSize := req.responseSize
  responseTime := req.responseTime

/-! ## A scenario -/

/-- The one of two numbers that is beyond the other; there may be none yet, and what is no number
    is passed over. -/
def extremum (beyond : ℤ → ℤ → Bool) : Option ℤ → Option ℤ → Option ℤ
  | best, none => best
  | none, some t => some t
  | some best, some t => if beyond t best then some t else some best

/-- What was read of the records of a scenario. -/
structure Building where
  requests : List JtlRequestRow := []
  transactions : List JtlTransactionRow := []
  /-- The first start, unless it is infinite. -/
  minTime : Option ℤ := none
  /-- The last end, unless it is infinite. -/
  maxTimeWithElapsed : Option ℤ := none
  /-- The label of the last transaction of each thread. -/
  transactionLabelByThread : Table String String := .empty
  /-- The first sample of each second. -/
  vuPerSecond : Table (Option ℤ) VirtualUserSample := .empty

/-- The transaction that a request is put in: the last one of its thread, or else itself. -/
def Building.transactionName (s : Building) (row : Record) : String :=
  match (s.transactionLabelByThread.get (row.text "threadName")).filter (· ≠ "") with
  | some label => label
  | none => row.text "label"

/-- Count the virtual users once a second. -/
def sampleVirtualUsers (isThreadGroupSplit : Bool) (row : Record)
    (vuPerSecond : Table (Option ℤ) VirtualUserSample) : Table (Option ℤ) VirtualUserSample :=
  let secondBucket := row.timeStamp.map (· / 1000)
  if (vuPerSecond.get secondBucket).isSome then vuPerSecond
  else vuPerSecond.set secondBucket
    { time := secondBucket.map (· * 1000)
      grpThreads := row.number "grpThreads"
      allThreads := row.number (if isThreadGroupSplit then "grpThreads" else "allThreads") }

/-- The record is read as a request or a transaction, and not left out as a container. -/
def isHeld (includeSubTransactions : Bool) (row : Record) : Bool :=
  row.isTransaction || includeSubTransactions || row.get "dataType" ≠ some ""

def readRecord (isThreadGroupSplit includeSubTransactions : Bool) (s : Building) (row : Record) :
    Building :=
  let s := { s with
    minTime := extremum (fun t best => t < best) s.minTime row.timeStamp
    maxTimeWithElapsed := extremum (fun t best => t > best) s.maxTimeWithElapsed row.stop
    vuPerSecond := sampleVirtualUsers isThreadGroupSplit row s.vuPerSecond }
  if row.isTransaction then
    { s with
      transactionLabelByThread :=
        s.transactionLabelByThread.set (row.text "threadName") (row.text "label")
      transactions := s.transactions ++ [transactionRow row] }
  else if includeSubTransactions || row.get "dataType" ≠ some "" then
    { s with requests := s.requests ++ [requestRow row (s.transactionName row)] }
  else s

/-- Samples in the order of time; what is no number comes first. -/
def byTime (a b : VirtualUserSample) : Bool :=
  match a.time, b.time with
  | some t, some t' => decide (t ≤ t')
  | some _, none => false
  | none, _ => true

/-- Build a scenario; the clock is read where there is no time. -/
def buildScenarioFromRecords (clock : ℤ × ℤ) (records : List Record) (scenarioName : String)
    (isThreadGroupSplit includeSubTransactions : Bool) : ParsedScenario :=
  let s := records.foldl (readRecord isThreadGroupSplit includeSubTransactions) {}
  { scenarioName := scenarioName
    requests := s.requests
    transactions :=
      if s.transactions = [] then s.requests.map synthesized else s.transactions
    startTime := s.minTime.getD clock.1
    endTime := s.maxTimeWithElapsed.getD clock.2
    virtualUsers := (s.vuPerSecond.rows.map Prod.snd).insertionSort fun a b => byTime a b }

/-! ## The scenarios of a file -/

/-- A text without the numbers of a thread at its end. -/
def stripThreadNumbers (cs : List Char) : List Char :=
  let iteration := cs.reverse.takeWhile Char.isDigit
  match cs.reverse.dropWhile Char.isDigit with
  | '-' :: rest =>
    let thread := rest.takeWhile Char.isDigit
    match rest.dropWhile Char.isDigit with
    | ' ' :: name => if iteration ≠ [] ∧ thread ≠ [] then name.reverse else cs
    | _ => cs
  | _ => cs

def extractThreadGroupName (threadName : String) : String :=
  if stripThreadNumbers threadName.toList = [] then threadName
  else String.ofList (stripThreadNumbers threadName.toList)

/-- The records by their thread groups; those without a thread are left out. -/
def groupedRecords (includeSubTransactions : Bool) (records : List Record) :
    List (String × List Record) :=
  let groups := groupsBy (fun row => extractThreadGroupName (row.text "threadName")) records
  if includeSubTransactions then groups else groups.filter fun group => group.1 ≠ ""

/-- The records of a scenario. -/
structure ScenarioRecords where
  name : String
  isThreadGroupSplit : Bool
  records : List Record
  deriving DecidableEq

/-- The records of each scenario of a file. -/
def scenarioRecords (includeSubTransactions : Bool) (scenarioName : String)
    (records : List Record) : List ScenarioRecords :=
  match records with
  | [] => []
  | first :: _ =>
    let groups := groupedRecords includeSubTransactions records
    if (first.get "threadName").isSome && 1 < groups.length then
      groups.map fun group => { name := group.1, isThreadGroupSplit := true, records := group.2 }
    else
      let activeRecords :=
        if includeSubTransactions then records
        else records.filter fun row => (row.get "threadName").getD "" ≠ ""
      [{ name := scenarioName, isThreadGroupSplit := false, records := activeRecords }]

/-- The scenarios of the records of a file. -/
def parseRecords (clock : String → ℤ × ℤ) (includeSubTransactions : Bool) (scenarioName : String)
    (records : List Record) : List ParsedScenario :=
  (scenarioRecords includeSubTransactions scenarioName records).map fun p =>
    buildScenarioFromRecords (clock p.name) p.records p.name p.isThreadGroupSplit
      includeSubTransactions

/-! ## The import -/

/-- The records of a file, which all have the columns of its header. -/
structure JtlFile where
  scenarioName : String
  columns : List String
  records : List Record
  uniform : ∀ row ∈ records, row.map Prod.fst = columns

/-- The scenarios of the files of an archive. -/
def parseZip (clock : String → ℤ × ℤ) (includeSubTransactions : Bool) (files : List JtlFile) :
    List ParsedScenario :=
  files.flatMap fun file => parseRecords clock includeSubTransactions file.scenarioName file.records

/-- The time of the run: without scenarios there is none, and the import ends with an error. -/
def overallWindow (scenarios : List ParsedScenario) : Option (ℤ × ℤ) := do
  let start ← (scenarios.map ParsedScenario.startTime).min?
  let stop ← (scenarios.map ParsedScenario.endTime).max?
  some (start, stop)

/-! ## What is read of the records -/

/-- A request without the name of its transaction. -/
def JtlRequestRow.withoutTransaction (r : JtlRequestRow) : JtlRequestRow :=
  { r with transactionName := "" }

section Build

variable (split inc : Bool)

/-- The requests that are read, one for each record that is held and is no transaction. -/
theorem foldl_requests (s : Building) (records : List Record) :
    (records.foldl (readRecord split inc) s).requests.map JtlRequestRow.withoutTransaction =
      s.requests.map JtlRequestRow.withoutTransaction ++
        (records.filter fun r => isHeld inc r && !r.isTransaction).map (requestRow · "") := by
  induction records generalizing s with
  | nil => simp
  | cons row records ih =>
    rw [List.foldl_cons, ih, List.filter_cons]
    by_cases htransaction : row.isTransaction = true
    · simp [readRecord, htransaction]
    · by_cases hheld : inc = true ∨ row.get "dataType" ≠ some ""
      · simp [readRecord, htransaction, isHeld, hheld, requestRow,
          JtlRequestRow.withoutTransaction]
      · simp [readRecord, htransaction, isHeld, hheld]

/-- The transactions that are read, one for each record that is marked so. -/
theorem foldl_transactions (s : Building) (records : List Record) :
    (records.foldl (readRecord split inc) s).transactions =
      s.transactions ++ (records.filter Record.isTransaction).map transactionRow := by
  induction records generalizing s with
  | nil => simp
  | cons row records ih =>
    rw [List.foldl_cons, ih, List.filter_cons]
    by_cases htransaction : row.isTransaction = true
    · simp [readRecord, htransaction]
    · by_cases hheld : inc = true ∨ row.get "dataType" ≠ some ""
      · simp [readRecord, htransaction, hheld]
      · simp [readRecord, htransaction, hheld]

/-- All records count for the time. -/
theorem foldl_times (s : Building) (records : List Record) :
    (records.foldl (readRecord split inc) s).minTime =
        (records.map Record.timeStamp).foldl (extremum fun t best => t < best) s.minTime ∧
      (records.foldl (readRecord split inc) s).maxTimeWithElapsed =
        (records.map Record.stop).foldl (extremum fun t best => t > best) s.maxTimeWithElapsed := by
  induction records generalizing s with
  | nil => exact ⟨rfl, rfl⟩
  | cons row records ih =>
    rw [List.foldl_cons, List.map_cons, List.map_cons, List.foldl_cons, List.foldl_cons]
    have hstep : (readRecord split inc s row).minTime =
          extremum (fun t best => t < best) s.minTime row.timeStamp ∧
        (readRecord split inc s row).maxTimeWithElapsed =
          extremum (fun t best => t > best) s.maxTimeWithElapsed row.stop := by
      simp only [readRecord]
      split
      · exact ⟨rfl, rfl⟩
      · split <;> exact ⟨rfl, rfl⟩
    rw [← hstep.1, ← hstep.2]
    exact ih _

end Build

section Extremum

variable {beyond : ℤ → ℤ → Bool} (le : ℤ → ℤ → Prop)

/-- It is one of the numbers, and none of them is beyond it; or there are no numbers. -/
def IsExtremum (l : List (Option ℤ)) : Option ℤ → Prop
  | none => ∀ x ∈ l, x = none
  | some m => some m ∈ l ∧ ∀ t, some t ∈ l → le m t

/-- What is found of some numbers is their extremum. -/
theorem foldl_extremum (hrefl : ∀ a, le a a) (htrans : ∀ a b c, le a b → le b c → le a c)
    (hbeyond : ∀ t best, if beyond t best then le t best else le best t) (l : List (Option ℤ)) :
    IsExtremum le l (l.foldl (extremum beyond) none) := by
  induction l using List.reverseRecOn with
  | nil => exact fun x hx => absurd hx List.not_mem_nil
  | append_singleton l x ih =>
    rw [List.foldl_append, List.foldl_cons, List.foldl_nil]
    generalize l.foldl (extremum beyond) none = found at ih
    rcases found with _ | best
    · -- There was no number before.
      cases x with
      | none =>
        intro y hy
        rcases List.mem_append.1 hy with hy | hy
        · exact ih y hy
        · exact List.mem_singleton.1 hy
      | some t =>
        refine ⟨by simp, fun t' ht' => ?_⟩
        rcases List.mem_append.1 ht' with ht' | ht'
        · exact absurd (ih _ ht') (by simp)
        · obtain rfl : t' = t := by simpa using ht'
          exact hrefl t'
    · obtain ⟨hmem, hall⟩ := ih
      cases x with
      | none =>
        refine ⟨List.mem_append_left _ hmem, fun t ht => hall t ?_⟩
        simpa using ht
      | some t =>
        have hstep := hbeyond t best
        rw [extremum]
        split
        · rename_i hb
          rw [if_pos hb] at hstep
          refine ⟨by simp, fun t' ht' => ?_⟩
          rcases List.mem_append.1 ht' with ht' | ht'
          · exact htrans _ _ _ hstep (hall t' ht')
          · obtain rfl : t' = t := by simpa using ht'
            exact hrefl t'
        · rename_i hb
          rw [if_neg hb] at hstep
          refine ⟨List.mem_append_left _ hmem, fun t' ht' => ?_⟩
          rcases List.mem_append.1 ht' with ht' | ht'
          · exact hall t' ht'
          · obtain rfl : t' = t := by simpa using ht'
            exact hstep

end Extremum

/-! ## The time of a scenario -/

/-- When the samples of a scenario began, and how long they took. -/
def ParsedScenario.samples (s : ParsedScenario) : List (Option ℤ × Option ℤ) :=
  s.requests.map (fun r => (r.time, r.responseTime)) ++
    s.transactions.map fun r => (r.time, r.responseTime)

/-- An interval has all samples in it, and is the smallest such. -/
structure IsHull (samples : List (Option ℤ × Option ℤ)) (start stop : ℤ) : Prop where
  contains : ∀ x ∈ samples, ∃ t e, x = (some t, some e) ∧ start ≤ t ∧ t + e ≤ stop
  start : ∃ e, (some start, some e) ∈ samples
  stop : ∃ t e, (some t, some e) ∈ samples ∧ t + e = stop

/-- The times of the records that are held are numbers, and one of these records is the first to
    begin of all that are in the scenario, and one the last to end. -/
structure KeepsWindow (inc : Bool) (part : List Record) : Prop where
  numbers : ∀ r ∈ part, isHeld inc r = true → r.timeStamp ≠ none ∧ r.number "elapsed" ≠ none
  first : ∃ h ∈ part, isHeld inc h = true ∧
    ∃ t, h.timeStamp = some t ∧ ∀ r ∈ part, ∀ t', r.timeStamp = some t' → t ≤ t'
  last : ∃ h ∈ part, isHeld inc h = true ∧
    ∃ t, h.stop = some t ∧ ∀ r ∈ part, ∀ t', r.stop = some t' → t' ≤ t

theorem Record.stop_eq_some {r : Record} {x : ℤ} :
    r.stop = some x ↔ ∃ t e, r.timeStamp = some t ∧ r.number "elapsed" = some e ∧ t + e = x := by
  rw [Record.stop, Record.timeStamp]
  cases r.number "timeStamp" <;> cases r.number "elapsed" <;> simp

section Build

variable {clock : ℤ × ℤ} {part : List Record} {name : String} {split inc : Bool}

theorem build_requests :
    (buildScenarioFromRecords clock part name split inc).requests.map
        JtlRequestRow.withoutTransaction =
      (part.filter fun r => isHeld inc r && !r.isTransaction).map (requestRow · "") := by
  rw [buildScenarioFromRecords, foldl_requests]
  simp

/-- The transactions of the records, or else one for each request. -/
theorem build_transactions :
    (buildScenarioFromRecords clock part name split inc).transactions =
      (part.filter Record.isTransaction).map transactionRow ++
        if part.any Record.isTransaction then []
        else (buildScenarioFromRecords clock part name split inc).requests.map synthesized := by
  have hread : (part.foldl (readRecord split inc) {}).transactions =
      (part.filter Record.isTransaction).map transactionRow := by
    rw [foldl_transactions, List.nil_append]
  have hany : part.any Record.isTransaction = true ↔
      (part.filter Record.isTransaction).map transactionRow ≠ [] := by
    simp [List.any_eq_true, List.filter_eq_nil_iff]
  simp only [buildScenarioFromRecords, hread]
  by_cases hnil : (part.filter Record.isTransaction).map transactionRow = []
  · rw [if_pos hnil, hnil, if_neg (mt hany.1 (not_not.2 hnil)), List.nil_append]
  · rw [if_neg hnil, if_pos (hany.2 hnil), List.append_nil]

/-- The samples are those of the records that are held. -/
theorem mem_samples_build {x : Option ℤ × Option ℤ} :
    x ∈ (buildScenarioFromRecords clock part name split inc).samples ↔
      ∃ r ∈ part, isHeld inc r = true ∧ x = (r.timeStamp, r.number "elapsed") := by
  have hrequests : x ∈ (buildScenarioFromRecords clock part name split inc).requests.map
      (fun r => (r.time, r.responseTime)) ↔
      ∃ r ∈ part, (isHeld inc r && !r.isTransaction) = true ∧
        x = (r.timeStamp, r.number "elapsed") := by
    have hmap : (buildScenarioFromRecords clock part name split inc).requests.map
        (fun r => (r.time, r.responseTime)) =
        (part.filter fun r => isHeld inc r && !r.isTransaction).map
          fun r => (r.timeStamp, r.number "elapsed") := by
      have hstrip := congrArg (List.map fun r : JtlRequestRow => (r.time, r.responseTime))
        (@build_requests clock part name split inc)
      rwa [List.map_map, List.map_map] at hstrip
    rw [hmap, List.mem_map]
    constructor
    · rintro ⟨r, hr, rfl⟩
      exact ⟨r, (List.mem_filter.1 hr).1, (List.mem_filter.1 hr).2, rfl⟩
    · rintro ⟨r, hr, hheld, rfl⟩
      exact ⟨r, List.mem_filter.2 ⟨hr, hheld⟩, rfl⟩
  have hsynthesized : (fun r : JtlTransactionRow => (r.time, r.responseTime)) ∘ synthesized =
      fun r : JtlRequestRow => (r.time, r.responseTime) := rfl
  rw [ParsedScenario.samples, List.mem_append, build_transactions, List.map_append,
    List.mem_append, List.map_map]
  constructor
  · rintro (hx | hx | hx)
    · obtain ⟨r, hr, hheld, rfl⟩ := hrequests.1 hx
      exact ⟨r, hr, (Bool.and_eq_true_iff.1 hheld).1, rfl⟩
    · obtain ⟨r, hr, rfl⟩ := List.mem_map.1 hx
      obtain ⟨hr, htransaction⟩ := List.mem_filter.1 hr
      exact ⟨r, hr, by simp [isHeld, htransaction], rfl⟩
    · split at hx
      · exact absurd hx List.not_mem_nil
      · rw [List.map_map, hsynthesized] at hx
        obtain ⟨r, hr, hheld, rfl⟩ := hrequests.1 hx
        exact ⟨r, hr, (Bool.and_eq_true_iff.1 hheld).1, rfl⟩
  · rintro ⟨r, hr, hheld, rfl⟩
    by_cases htransaction : r.isTransaction = true
    · exact .inr (.inl (List.mem_map.2 ⟨r, List.mem_filter.2 ⟨hr, htransaction⟩, rfl⟩))
    · exact .inl (hrequests.2 ⟨r, hr, by simp [hheld, htransaction], rfl⟩)

/-- The start is the first one of the records. -/
theorem build_startTime {h : Record} {t : ℤ} (hh : h ∈ part) (ht : h.timeStamp = some t) :
    (∃ r ∈ part, r.timeStamp =
        some (buildScenarioFromRecords clock part name split inc).startTime) ∧
      ∀ r ∈ part, ∀ t', r.timeStamp = some t' →
        (buildScenarioFromRecords clock part name split inc).startTime ≤ t' := by
  have hextremum := @foldl_extremum (fun t best => t < best) (fun a t => a ≤ t) le_refl
    (fun _ _ _ => le_trans) (fun t best => by simp only [decide_eq_true_eq]; split <;> omega)
    (part.map Record.timeStamp)
  simp only [buildScenarioFromRecords, (foldl_times split inc {} part).1]
  generalize (part.map Record.timeStamp).foldl (extremum fun t best => t < best) none = m
    at hextremum
  cases m with
  | none => exact absurd (hextremum _ (List.mem_map_of_mem hh)) (by simp [ht])
  | some m =>
    obtain ⟨hmem, hall⟩ := hextremum
    obtain ⟨r, hr, hm⟩ := List.mem_map.1 hmem
    exact ⟨⟨r, hr, hm⟩, fun r hr t' ht' => hall t' (List.mem_map.2 ⟨r, hr, ht'⟩)⟩

/-- The end is the last one of the records. -/
theorem build_endTime {h : Record} {t : ℤ} (hh : h ∈ part) (ht : h.stop = some t) :
    (∃ r ∈ part, r.stop = some (buildScenarioFromRecords clock part name split inc).endTime) ∧
      ∀ r ∈ part, ∀ t', r.stop = some t' →
        t' ≤ (buildScenarioFromRecords clock part name split inc).endTime := by
  have hextremum := @foldl_extremum (fun t best => t > best) (fun a t => t ≤ a) le_refl
    (fun _ _ _ h h' => h'.trans h)
    (fun t best => by simp only [decide_eq_true_eq]; split <;> omega) (part.map Record.stop)
  simp only [buildScenarioFromRecords, (foldl_times split inc {} part).2]
  generalize (part.map Record.stop).foldl (extremum fun t best => t > best) none = m
    at hextremum
  cases m with
  | none => exact absurd (hextremum _ (List.mem_map_of_mem hh)) (by simp [ht])
  | some m =>
    obtain ⟨hmem, hall⟩ := hextremum
    obtain ⟨r, hr, hm⟩ := List.mem_map.1 hmem
    exact ⟨⟨r, hr, hm⟩, fun r hr t' ht' => hall t' (List.mem_map.2 ⟨r, hr, ht'⟩)⟩

/-- A scenario takes the time of its samples if and only if no record that is left out begins
    before them or ends after them, and there is one that is held. -/
theorem isHull_build_iff :
    IsHull (buildScenarioFromRecords clock part name split inc).samples
        (buildScenarioFromRecords clock part name split inc).startTime
        (buildScenarioFromRecords clock part name split inc).endTime ↔
      KeepsWindow inc part := by
  constructor
  · intro hull
    have hsample : ∀ r ∈ part, isHeld inc r = true →
        ∃ t e, r.timeStamp = some t ∧ r.number "elapsed" = some e := fun r hr hheld => by
      obtain ⟨t, e, heq, -⟩ := hull.contains _ (mem_samples_build.2 ⟨r, hr, hheld, rfl⟩)
      exact ⟨t, e, (Prod.mk.inj heq).1, (Prod.mk.inj heq).2⟩
    refine ⟨fun r hr hheld => ?_, ?_, ?_⟩
    · obtain ⟨t, e, ht, he⟩ := hsample r hr hheld
      simp [ht, he]
    · obtain ⟨e, hmem⟩ := hull.start
      obtain ⟨h, hh, hheld, heq⟩ := mem_samples_build.1 hmem
      have ht := (Prod.mk.inj heq).1.symm
      exact ⟨h, hh, hheld, _, ht, (build_startTime hh ht).2⟩
    · obtain ⟨t, e, hmem, hstop⟩ := hull.stop
      obtain ⟨h, hh, hheld, heq⟩ := mem_samples_build.1 hmem
      have ht : h.stop = some _ := Record.stop_eq_some.2
        ⟨t, e, (Prod.mk.inj heq).1.symm, (Prod.mk.inj heq).2.symm, hstop⟩
      exact ⟨h, hh, hheld, _, ht, (build_endTime hh ht).2⟩
  · rintro ⟨hnumbers, ⟨f, hf, hfheld, t, ht, hfirst⟩, l, hl, hlheld, u, hu, hlast⟩
    obtain ⟨⟨r, hr, hstart⟩, hstartLe⟩ :=
      @build_startTime clock part name split inc f t hf ht
    obtain ⟨⟨r', hr', hstop⟩, hleStop⟩ := @build_endTime clock part name split inc l u hl hu
    have htStart : t = (buildScenarioFromRecords clock part name split inc).startTime :=
      le_antisymm (hfirst r hr _ hstart) (hstartLe f hf t ht)
    have huStop : u = (buildScenarioFromRecords clock part name split inc).endTime :=
      le_antisymm (hleStop l hl u hu) (hlast r' hr' _ hstop)
    refine ⟨fun x hx => ?_, ?_, ?_⟩
    · obtain ⟨r, hr, hheld, rfl⟩ := mem_samples_build.1 hx
      obtain ⟨hnum, hnum'⟩ := hnumbers r hr hheld
      obtain ⟨t', ht'⟩ := Option.ne_none_iff_exists'.1 hnum
      obtain ⟨e', he'⟩ := Option.ne_none_iff_exists'.1 hnum'
      exact ⟨t', e', by rw [ht', he'], hstartLe r hr t' ht',
        hleStop r hr _ (Record.stop_eq_some.2 ⟨t', e', ht', he', rfl⟩)⟩
    · obtain ⟨e, he⟩ := Option.ne_none_iff_exists'.1 (hnumbers f hf hfheld).2
      exact ⟨e, mem_samples_build.2 ⟨f, hf, hfheld, by rw [ht, he, htStart]⟩⟩
    · obtain ⟨t', e', ht', he', hsum⟩ := Record.stop_eq_some.1 hu
      exact ⟨t', e', mem_samples_build.2 ⟨l, hl, hlheld, by rw [ht', he']⟩, hsum.trans huStop⟩

end Build

/-! ## The records of the scenarios -/

/-- The records that are not left out by design: where sub-transactions are not included, those of a
    thread without a name are, and the ones without a data type, but for transactions. -/
def isKept (inc : Bool) (row : Record) : Bool :=
  inc || row.get "threadName" ≠ some "" && (row.isTransaction || row.get "dataType" ≠ some "")

theorem lookup_isSome {l : List (String × String)} {column : String} :
    (l.lookup column).isSome = true ↔ column ∈ l.map Prod.fst := by
  induction l with
  | nil => simp
  | cons entry l ih =>
    obtain ⟨k, v⟩ := entry
    rw [List.lookup_cons, List.map_cons, List.mem_cons, ← ih]
    by_cases h : column = k
    · simp [h]
    · simp [h, beq_eq_false_iff_ne.2 h]

/-- A record has the columns of its file. -/
theorem JtlFile.get_isSome (file : JtlFile) {row : Record} (hrow : row ∈ file.records)
    (column : String) : (row.get column).isSome = true ↔ column ∈ file.columns := by
  rw [Record.get, lookup_isSome, List.map_reverse, List.mem_reverse, file.uniform row hrow]

theorem extractThreadGroupName_eq_empty {s : String} :
    extractThreadGroupName s = "" ↔ s = "" := by
  rw [extractThreadGroupName]
  constructor
  · intro h
    split at h
    · exact h
    · rename_i hne
      exact absurd (String.ofList_eq_empty_iff.1 h) hne
  · rintro rfl
    rfl

/-- The groups whose keys are not one that is left out have the elements without that key. -/
theorem filter_groupsBy_perm {α κ : Type*} [DecidableEq κ] (key : α → κ) (k : κ) (l : List α) :
    (((groupsBy key l).filter fun g => g.1 ≠ k).flatMap Prod.snd).Perm
      (l.filter fun a => key a ≠ k) := by
  have hgroups := (perm_groupsBy key l).filter fun a => decide (key a ≠ k)
  rw [List.filter_flatMap] at hgroups
  refine List.Perm.trans (List.Perm.of_eq ?_) hgroups
  have hkey : ∀ g ∈ groupsBy key l, ∀ a ∈ g.2, key a = g.1 := fun g hg a ha => by
    obtain ⟨-, hfilter⟩ := mem_groupsBy.1 hg
    rw [hfilter] at ha
    exact of_decide_eq_true (List.mem_filter.1 ha).2
  generalize groupsBy key l = groups at hkey
  induction groups with
  | nil => rfl
  | cons g groups ih =>
    have hrest := ih fun g' hg' => hkey g' (List.mem_cons_of_mem _ hg')
    rw [List.flatMap_cons, ← hrest, List.filter_cons]
    by_cases hg : g.1 = k
    · have hnil : g.2.filter (fun a => decide (key a ≠ k)) = [] :=
        List.filter_eq_nil_iff.2 fun a ha => by
          simp [hkey g List.mem_cons_self a ha, hg]
      rw [hnil, List.nil_append, if_neg (by simp [hg])]
    · have hself : g.2.filter (fun a => decide (key a ≠ k)) = g.2 :=
        List.filter_eq_self.2 fun a ha => by
          simp [hkey g List.mem_cons_self a ha, hg]
      rw [hself, if_pos (by simp [hg]), List.flatMap_cons]

/-- The records of the scenarios, without those that are not held, are the ones that are kept, if
    the threads have names or sub-transactions are included. -/
theorem scenarioRecords_perm (file : JtlFile) {inc : Bool}
    (h : inc = true ∨ "threadName" ∈ file.columns) :
    ((scenarioRecords inc file.scenarioName file.records).flatMap fun p =>
      p.records.filter (isHeld inc)).Perm (file.records.filter (isKept inc)) := by
  have hthread : ∀ row ∈ file.records, inc = false →
      (row.text "threadName" ≠ "" ↔ row.get "threadName" ≠ some "") := fun row hrow hinc => by
    have hsome := (file.get_isSome hrow "threadName").2 (h.resolve_left (by simp [hinc]))
    obtain ⟨value, hvalue⟩ := Option.isSome_iff_exists.1 hsome
    rw [Record.text, hvalue]
    simp
  have hkept : ∀ rows : List Record, (∀ row ∈ rows, row ∈ file.records) → inc = false →
      (rows.filter fun row => row.text "threadName" ≠ "").filter (isHeld inc) =
        rows.filter (isKept inc) := fun rows hrows hinc => by
    rw [List.filter_filter]
    refine List.filter_congr fun row hrow => ?_
    have hiff := hthread row (hrows row hrow) hinc
    by_cases hname : row.text "threadName" = ""
    · have hget : row.get "threadName" = some "" := not_not.1 (mt hiff.2 (not_not.2 hname))
      simp [isKept, isHeld, hname, hinc, hget]
    · simp [isKept, isHeld, hname, hinc, hiff.1 hname]
  have hall : inc = true → ∀ rows : List Record, rows.filter (isHeld inc) = rows ∧
      rows.filter (isKept inc) = rows := fun hinc rows =>
    ⟨List.filter_eq_self.2 fun r _ => by simp [isHeld, hinc],
      List.filter_eq_self.2 fun r _ => by simp [isKept, hinc]⟩
  generalize hrecords : file.records = records at hthread hkept
  cases records with
  | nil => exact .refl _
  | cons first rest =>
    rw [scenarioRecords]
    split
    · -- Several groups.
      rw [List.flatMap_map, ← List.filter_flatMap, groupedRecords]
      by_cases hinc : inc = true
      · rw [(hall hinc _).1, (hall hinc _).2, if_pos hinc]
        exact perm_groupsBy _ _
      · rw [← hkept _ (fun row hrow => hrow) (Bool.eq_false_iff.2 hinc), if_neg hinc]
        refine List.Perm.filter _ ((filter_groupsBy_perm _ "" _).trans (List.Perm.of_eq ?_))
        refine List.filter_congr fun row _ => decide_eq_decide.2 (not_congr ?_)
        exact extractThreadGroupName_eq_empty
    · -- One scenario.
      rw [List.flatMap_cons, List.flatMap_nil, List.append_nil]
      by_cases hinc : inc = true
      · simp only [if_pos hinc, (hall hinc _).1, (hall hinc _).2]
        exact .refl _
      · rw [← hkept _ (fun row hrow => hrow) (Bool.eq_false_iff.2 hinc)]
        simp only [if_neg hinc]
        exact .refl _

/-! ## The import -/

/-- A scenario holds some records: each is one of its transactions if it is marked so, and else one
    of its requests. Without transactions there are those made of the requests. -/
structure Holds (s : ParsedScenario) (part : List Record) : Prop where
  requests : s.requests.map JtlRequestRow.withoutTransaction =
    (part.filter fun r => !r.isTransaction).map (requestRow · "")
  transactions : s.transactions = (part.filter Record.isTransaction).map transactionRow ++
    if part.any Record.isTransaction then [] else s.requests.map synthesized

/-- The scenarios hold each record of a file once, but for those that are left out by design. -/
def HoldsEachRecord (inc : Bool) (file : JtlFile) (scenarios : List ParsedScenario) : Prop :=
  ∃ parts : List (List Record), parts.flatten.Perm (file.records.filter (isKept inc)) ∧
    List.Forall₂ Holds scenarios parts

/-- A run takes the time of the samples of its scenarios, and has none without scenarios. -/
def TakesTimeOfSamples (scenarios : List ParsedScenario) : Prop :=
  match overallWindow scenarios with
  | none => scenarios = []
  | some (start, stop) => IsHull (scenarios.flatMap ParsedScenario.samples) start stop

/-- The import loses and invents no sample. -/
structure KeepsSamples (clock : String → ℤ × ℤ) (inc : Bool) (files : List JtlFile) : Prop where
  holds : ∀ file ∈ files, HoldsEachRecord inc file
    (parseRecords clock inc file.scenarioName file.records)
  hull : ∀ s ∈ parseZip clock inc files, IsHull s.samples s.startTime s.endTime
  run : TakesTimeOfSamples (parseZip clock inc files)

/-- The threads of a file have names if it has records and sub-transactions are left out, and no
    record that is left out stretches the time of its scenario. -/
structure IsComplete (inc : Bool) (file : JtlFile) : Prop where
  named : file.records = [] ∨ inc = true ∨ "threadName" ∈ file.columns
  window : ∀ p ∈ scenarioRecords inc file.scenarioName file.records, KeepsWindow inc p.records

theorem not_keepsWindow_nil (inc : Bool) : ¬KeepsWindow inc [] := by
  rintro ⟨-, ⟨h, hh, -⟩, -⟩
  exact absurd hh List.not_mem_nil

/-- The scenarios of a file take the time of their samples only if the threads have names. -/
theorem IsComplete.of_window {inc : Bool} {file : JtlFile}
    (h : ∀ p ∈ scenarioRecords inc file.scenarioName file.records, KeepsWindow inc p.records) :
    IsComplete inc file := by
  refine ⟨?_, h⟩
  by_contra hnot
  obtain ⟨hne, hnot⟩ := not_or.1 hnot
  obtain ⟨hinc, hcolumn⟩ := not_or.1 hnot
  -- There is one scenario, and it has no records.
  have hget : ∀ row ∈ file.records, row.get "threadName" = none := fun row hrow =>
    Option.not_isSome_iff_eq_none.1 (mt (file.get_isSome hrow "threadName").1 hcolumn)
  generalize file.records = records at h hne hget
  cases records with
  | nil => exact hne rfl
  | cons first rest =>
    have hnil : (first :: rest).filter (fun row => decide ((row.get "threadName").getD "" ≠ "")) =
        [] := List.filter_eq_nil_iff.2 fun row hrow => by simp [hget row hrow]
    refine not_keepsWindow_nil inc ?_
    have hwindow := h { name := file.scenarioName, isThreadGroupSplit := false, records := [] } ?_
    · exact hwindow
    · rw [scenarioRecords, hget first List.mem_cons_self]
      simp only [Option.isSome_none, Bool.false_and, Bool.false_eq_true, if_false, if_neg hinc,
        hnil, List.mem_singleton]

/-- A complete file loses no record. -/
theorem IsComplete.holdsEachRecord {inc : Bool} {file : JtlFile} (h : IsComplete inc file)
    (clock : String → ℤ × ℤ) :
    HoldsEachRecord inc file (parseRecords clock inc file.scenarioName file.records) := by
  refine ⟨(scenarioRecords inc file.scenarioName file.records).map fun p =>
    p.records.filter (isHeld inc), ?_, ?_⟩
  · rw [← List.flatMap_def]
    rcases h.named with hnil | hnamed
    · rw [hnil]
      exact .refl _
    · exact scenarioRecords_perm file hnamed
  · rw [parseRecords, List.forall₂_map_left_iff, List.forall₂_map_right_iff]
    refine List.forall₂_same.2 fun p _ => ⟨?_, ?_⟩
    · rw [build_requests, List.filter_filter]
      simp only [Bool.and_comm]
    · have htransaction : (p.records.filter (isHeld inc)).filter Record.isTransaction =
          p.records.filter Record.isTransaction := by
        rw [List.filter_filter]
        refine List.filter_congr fun r _ => ?_
        cases hr : r.isTransaction <;> simp [isHeld, hr]
      have hany : (p.records.filter (isHeld inc)).any Record.isTransaction =
          p.records.any Record.isTransaction := by
        rw [List.any_filter]
        refine List.any_congr rfl fun r => ?_
        cases hr : r.isTransaction <;> simp [isHeld, hr]
      rw [htransaction, hany]
      exact build_transactions

/-- The run takes the time of its samples if the scenarios do. -/
theorem takesTimeOfSamples {scenarios : List ParsedScenario}
    (h : ∀ s ∈ scenarios, IsHull s.samples s.startTime s.endTime) :
    TakesTimeOfSamples scenarios := by
  cases scenarios with
  | nil => exact rfl
  | cons s rest =>
    obtain ⟨start, hstart⟩ : ∃ start,
        ((s :: rest).map ParsedScenario.startTime).min? = some start :=
      Option.isSome_iff_exists.1 (by simp)
    obtain ⟨stop, hstop⟩ : ∃ stop, ((s :: rest).map ParsedScenario.endTime).max? = some stop :=
      Option.isSome_iff_exists.1 (by simp)
    obtain ⟨hmin, hminLe⟩ := List.min?_eq_some_iff.1 hstart
    obtain ⟨hmax, hleMax⟩ := List.max?_eq_some_iff.1 hstop
    have hwindow : overallWindow (s :: rest) = some (start, stop) := by
      rw [overallWindow, hstart, hstop]
      rfl
    rw [TakesTimeOfSamples, hwindow]
    refine ⟨fun x hx => ?_, ?_, ?_⟩
    · obtain ⟨s', hs', hx⟩ := List.mem_flatMap.1 hx
      obtain ⟨t, e, rfl, hle, hle'⟩ := (h s' hs').contains x hx
      exact ⟨t, e, rfl, (hminLe _ (List.mem_map_of_mem hs')).trans hle,
        hle'.trans (hleMax _ (List.mem_map_of_mem hs'))⟩
    · obtain ⟨s', hs', rfl⟩ := List.mem_map.1 hmin
      obtain ⟨e, he⟩ := (h s' hs').start
      exact ⟨e, List.mem_flatMap.2 ⟨s', hs', he⟩⟩
    · obtain ⟨s', hs', rfl⟩ := List.mem_map.1 hmax
      obtain ⟨t, e, he, hsum⟩ := (h s' hs').stop
      exact ⟨t, e, List.mem_flatMap.2 ⟨s', hs', he⟩, hsum⟩

/-- The import of some files loses and invents no sample if and only if the files are complete. -/
theorem keepsSamples_iff (clock : String → ℤ × ℤ) (inc : Bool) (files : List JtlFile) :
    KeepsSamples clock inc files ↔ ∀ file ∈ files, IsComplete inc file := by
  constructor
  · intro h file hfile
    refine .of_window fun p hp => ?_
    have hs := h.hull _ (List.mem_flatMap.2 ⟨file, hfile, List.mem_map_of_mem hp⟩)
    exact isHull_build_iff.1 hs
  · intro h
    have hhull : ∀ s ∈ parseZip clock inc files, IsHull s.samples s.startTime s.endTime := by
      intro s hs
      obtain ⟨file, hfile, hs⟩ := List.mem_flatMap.1 hs
      obtain ⟨p, hp, rfl⟩ := List.mem_map.1 hs
      exact isHull_build_iff.2 ((h file hfile).window p hp)
    exact ⟨fun file hfile => (h file hfile).holdsEachRecord clock, hhull,
      takesTimeOfSamples hhull⟩

/-! ## A file without names of threads -/

/-- A sample, in a file without a column for the threads. -/
def withoutThreads : JtlFile where
  scenarioName := "results"
  columns := ["timeStamp", "elapsed", "label"]
  records := [[("timeStamp", "1000"), ("elapsed", "20"), ("label", "login")]]
  uniform := by decide

/-- Its sample is lost, and the run takes the time of the import. -/
theorem not_keepsSamples_withoutThreads :
    ¬KeepsSamples (fun _ => (5000, 5000)) false [withoutThreads] := by
  intro h
  have hrequests : parseZip (fun _ => (5000, 5000)) false [withoutThreads] =
      [⟨"results", [], [], 5000, 5000, []⟩] := by decide +kernel
  have hull := h.hull ⟨"results", [], [], 5000, 5000, []⟩ (by rw [hrequests]; simp)
  obtain ⟨e, he⟩ := hull.start
  exact absurd he List.not_mem_nil

end Perfana.Jtl
