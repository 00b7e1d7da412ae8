import Perfana.Lib.CarryForward
import Perfana.TestRuns.JtlScenarios

/-!
# Transactions of the requests of a JMeter file

Each thread of JMeter runs transactions, with samples inside them, and samples outside of any. The
threads write into one file, each its own rows in order, and a row for a transaction is written
after those of its samples, or is before them in a file that was sorted by the start. A request is
put in the last transaction before it of its thread.

* `namesTransactions_iff`: the transactions that contain the requests are found if and only if in
  each thread the labels agree with the ones that are carried forward (`LabelsFit`); and whatever
  is found, it does not depend on the order of the rows of other threads.
-/

namespace Perfana.Jtl

open CarryForward

/-! ## Labels that are carried forward -/

def Record.thread (row : Record) : String := row.text "threadName"

def Record.label (row : Record) : String := row.text "label"

/-- The label of a transaction. -/
def Record.mark (row : Record) : Option String :=
  if row.isTransaction then some row.label else none

/-- The name of the transaction of a request, given the label before it. -/
def nameAfter (last : Option String) (row : Record) : String :=
  (last.filter (· ≠ "")).getD row.label

/-- The record is read as a request. -/
def isRequest (inc : Bool) (row : Record) : Bool := isHeld inc row && !row.isTransaction

/-- The requests that are read of some records, each in the transaction that is carried to it. -/
theorem foldl_requests_eq (split inc : Bool) (s : Building) (records : List Record) :
    (records.foldl (readRecord split inc) s).requests =
      s.requests ++ ((carry Record.mark Record.thread s.transactionLabelByThread.get
        records).filter fun x => isRequest inc x.1).map fun x =>
          requestRow x.1 (nameAfter x.2 x.1) := by
  induction records generalizing s with
  | nil => simp [carry]
  | cons row records ih =>
    have hlabels : (readRecord split inc s row).transactionLabelByThread.get =
        remember Record.mark Record.thread s.transactionLabelByThread.get row := by
      funext k
      by_cases htransaction : row.isTransaction = true
      · by_cases hk : k = row.thread
        · subst hk
          rw [remember_self]
          simp [readRecord, htransaction, Record.mark, Record.thread, Record.label]
        · rw [remember_of_ne hk]
          have hk' : k ≠ row.text "threadName" := hk
          simp [readRecord, htransaction, hk']
      · have hkeep : (readRecord split inc s row).transactionLabelByThread =
            s.transactionLabelByThread := by
          simp only [readRecord, htransaction]
          split
          · rename_i h
            exact absurd h (by simp)
          · split <;> rfl
        rw [hkeep]
        by_cases hk : k = row.thread
        · subst hk
          rw [remember_self, Record.mark, if_neg htransaction, Option.none_or]
        · rw [remember_of_ne hk]
    rw [List.foldl_cons, ih, hlabels, carry, List.filter_cons]
    by_cases htransaction : row.isTransaction = true
    · simp [readRecord, htransaction, isRequest]
    · by_cases hheld : inc = true ∨ row.get "dataType" ≠ some ""
      · have hname : (s.transactionName row) =
            nameAfter (s.transactionLabelByThread.get row.thread) row := by
          rw [Building.transactionName, nameAfter, Record.thread]
          cases (s.transactionLabelByThread.get (row.text "threadName")).filter (· ≠ "") <;> rfl
        have hrequests : (readRecord split inc s row).requests = s.requests ++
            [requestRow row (nameAfter (s.transactionLabelByThread.get row.thread) row)] := by
          simp only [readRecord, htransaction, Bool.false_eq_true, if_false]
          rw [if_pos (by simpa using hheld)]
          exact congrArg (fun name => s.requests ++ [requestRow row name]) hname
        rw [hrequests, if_pos (by simpa [isRequest, isHeld, htransaction] using hheld),
          List.map_cons, List.append_assoc, List.singleton_append]
      · simp [readRecord, htransaction, isRequest, isHeld, hheld]

/-! ## Threads -/

/-- What a thread does next: a transaction with the samples that are run inside it, or a sample. -/
inductive Item
  | transaction (row : Record) (samples : List Record)
  | sample (row : Record)
  deriving DecidableEq

/-- Where the row of a transaction is: JMeter writes it after its samples. -/
inductive RowOrder
  | afterSamples
  | beforeSamples

/-- The rows of an item, in order. -/
def Item.rows : RowOrder → Item → List Record
  | .afterSamples, transaction row samples => samples ++ [row]
  | .beforeSamples, transaction row samples => row :: samples
  | _, sample row => [row]

/-- The row of a transaction. -/
def Item.transaction? : Item → Option Record
  | transaction row _ => some row
  | sample _ => none

/-- The interval of a transaction contains that of a sample. -/
def spans (transaction sample : Record) : Bool :=
  match transaction.timeStamp, transaction.stop, sample.timeStamp, sample.stop with
  | some start, some stop, some start', some stop' => start ≤ start' && stop' ≤ stop
  | _, _, _, _ => false

/-- An item has the rows it is to have, given all transactions of the thread: they are marked as
    they are to be, and a sample is in the interval of its own transaction and of no other. -/
def Item.IsWellFormed (transactions : List Record) : Item → Prop
  | transaction row samples => row.isTransaction = true ∧ ∀ s ∈ samples, s.isTransaction = false ∧
      spans row s = true ∧ ∀ other ∈ transactions, spans other s = true → other = row
  | sample s => s.isTransaction = false ∧ ∀ other ∈ transactions, spans other s = false

instance (transactions : List Record) : (item : Item) → Decidable (item.IsWellFormed transactions)
  | .transaction row samples => inferInstanceAs (Decidable (row.isTransaction = true ∧
      ∀ s ∈ samples, s.isTransaction = false ∧ spans row s = true ∧
        ∀ other ∈ transactions, spans other s = true → other = row))
  | .sample s => inferInstanceAs (Decidable (s.isTransaction = false ∧
      ∀ other ∈ transactions, spans other s = false))

/-- A thread, which has a name. -/
structure Thread where
  name : String
  items : List Item
  named : name ≠ ""
  thread_eq : ∀ item ∈ items, ∀ row ∈ item.rows .afterSamples, row.thread = name
  wellFormed : ∀ item ∈ items, item.IsWellFormed (items.filterMap Item.transaction?)

/-- The rows of a thread, in order. -/
def Thread.rows (order : RowOrder) (t : Thread) : List Record := t.items.flatMap (Item.rows order)

/-- The label of the transaction of the thread that contains a request, or else its own. -/
def Thread.transactionName (t : Thread) (row : Record) : String :=
  match (t.items.filterMap Item.transaction?).find? fun transaction => spans transaction row with
  | some transaction => transaction.label
  | none => row.label

/-- A file that some threads have written, each its rows in order. -/
structure Recording (order : RowOrder) where
  threads : List Thread
  nodup : (threads.map Thread.name).Nodup
  records : List Record
  interleaved : ∀ t ∈ threads, (records.filter fun r => r.thread = t.name) = t.rows order
  complete : ∀ row ∈ records, row.thread ∈ threads.map Thread.name

/-- The label of the transaction on its own thread that contains a request, or else its own. -/
def Recording.transactionName {order : RowOrder} (recording : Recording order) (row : Record) :
    String :=
  match recording.threads.find? fun t => t.name = row.thread with
  | some t => t.transactionName row
  | none => row.label

/-! ## One thread -/

/-- The labels of a thread agree with the ones that are carried forward, the last one of which is
    `last`. A sample outside of any transaction has a label of its own or comes before them; and one
    inside a transaction that is written after it follows a transaction of the same label, or it has
    this label itself and is in the first one. Labels may be empty, and are not carried then. -/
def LabelsFit (inc : Bool) (order : RowOrder) : Option String → List Item → Prop
  | _, [] => True
  | last, .sample s :: items =>
    (isRequest inc s = true → ∀ label ∈ last, label = "" ∨ label = s.label) ∧
      LabelsFit inc order last items
  | last, .transaction row samples :: items =>
    (∀ s ∈ samples, isRequest inc s = true →
      match order with
      | .afterSamples => (row.label ≠ "" ∧ last = some row.label) ∨
          (∀ label ∈ last, label = "") ∧ s.label = row.label
      | .beforeSamples => row.label ≠ "" ∨ s.label = "") ∧
      LabelsFit inc order (some row.label) items

theorem nameAfter_eq_iff {last : Option String} {row : Record} {name : String} :
    nameAfter last row = name ↔
      (name ≠ "" ∧ last = some name) ∨ (∀ label ∈ last, label = "") ∧ row.label = name := by
  rw [nameAfter]
  cases last with
  | none => simp
  | some label =>
    by_cases h : label = ""
    · subst h
      simp only [Option.filter, ne_eq, not_true, decide_false, Bool.false_eq_true, if_false,
        Option.getD_none, Option.some.injEq, Option.mem_def, forall_eq', true_and]
      exact ⟨.inr, fun h => h.elim (fun h => absurd h.2.symm h.1) id⟩
    · simp only [Option.filter_some, ne_eq, h, not_false_eq_true, decide_true, if_true,
        Option.getD_some, Option.some.injEq, Option.mem_def, forall_eq', false_and, or_false]
      constructor
      · rintro rfl
        exact ⟨h, rfl⟩
      · rintro ⟨-, heq⟩
        exact heq

/-- Samples have no marks, and all of them are given the last one before. -/
theorem carryOne_append {samples : List Record} (h : ∀ s ∈ samples, s.isTransaction = false)
    (last : Option String) (rest : List Record) :
    carryOne Record.mark last (samples ++ rest) =
      samples.map (fun s => (s, last)) ++ carryOne Record.mark last rest := by
  induction samples with
  | nil => rfl
  | cons s samples ih =>
    have hs : s.mark = none := by
      rw [Record.mark, h s List.mem_cons_self]
      rfl
    rw [List.cons_append, carryOne, hs, Option.none_or,
      ih fun s hs => h s (List.mem_cons_of_mem _ hs)]
    rfl

/-- The labels of items agree if and only if the requests are given what they are to be given. -/
theorem labelsFit_iff {inc : Bool} {order : RowOrder} {transactions : List Record}
    {name : Record → String} {items : List Item}
    (hwell : ∀ item ∈ items, item.IsWellFormed transactions)
    (hinside : ∀ row samples, Item.transaction row samples ∈ items → ∀ s ∈ samples,
      name s = row.label)
    (houtside : ∀ s, Item.sample s ∈ items → name s = s.label) (last : Option String) :
    (∀ x ∈ carryOne Record.mark last (items.flatMap (Item.rows order)),
        isRequest inc x.1 = true → nameAfter x.2 x.1 = name x.1) ↔
      LabelsFit inc order last items := by
  induction items generalizing last with
  | nil => simp [carryOne, LabelsFit]
  | cons item items ih =>
    have ih := ih (fun item h => hwell item (List.mem_cons_of_mem _ h))
      (fun row samples h => hinside row samples (List.mem_cons_of_mem _ h))
      (fun s h => houtside s (List.mem_cons_of_mem _ h))
    rw [List.flatMap_cons]
    cases item with
    | sample s =>
      have hs := (hwell _ List.mem_cons_self).1
      have hname := houtside s List.mem_cons_self
      have hrows : Item.rows order (.sample s) = [s] := by cases order <;> rfl
      rw [hrows, carryOne_append (by simpa using hs), LabelsFit, ← ih, List.map_singleton,
        List.forall_mem_append, List.forall_mem_singleton]
      refine and_congr_left fun _ => imp_congr_right fun _ => ?_
      rw [hname, nameAfter_eq_iff]
      cases last with
      | none => simp
      | some label =>
        by_cases h : label = ""
        · subst h
          simp
        · simp [h]
          intro heq
          exact fun hempty => h (heq.trans hempty)
    | transaction row samples =>
      obtain ⟨hrow, hsamples⟩ := hwell _ List.mem_cons_self
      have hunmarked : ∀ s ∈ samples, s.isTransaction = false := fun s hs => (hsamples s hs).1
      have hname := hinside row samples List.mem_cons_self
      have hmark : row.mark = some row.label := by rw [Record.mark, if_pos hrow]
      have hnot : ¬isRequest inc row = true := by simp [isRequest, hrow]
      -- The row itself is no request; what its samples are given depends on where it is.
      have hsplit : ∀ carried : Option String,
          (∀ x ∈ samples.map (fun s => (s, carried)), isRequest inc x.1 = true →
            nameAfter x.2 x.1 = name x.1) ↔ ∀ s ∈ samples, isRequest inc s = true →
            (row.label ≠ "" ∧ carried = some row.label) ∨
              (∀ label ∈ carried, label = "") ∧ s.label = row.label := fun carried => by
        rw [List.forall_mem_map]
        refine forall₂_congr fun s hs => imp_congr_right fun _ => ?_
        rw [hname s hs, nameAfter_eq_iff]
      cases order with
      | afterSamples =>
        rw [Item.rows, List.append_assoc, carryOne_append hunmarked, List.singleton_append,
          carryOne, hmark, Option.some_or, LabelsFit, ← ih, List.forall_mem_append,
          List.forall_mem_cons, hsplit]
        exact and_congr_right fun _ => and_iff_right fun h => absurd h hnot
      | beforeSamples =>
        rw [Item.rows, List.cons_append, carryOne, hmark, Option.some_or,
          carryOne_append hunmarked, LabelsFit, ← ih, List.forall_mem_cons,
          List.forall_mem_append, hsplit]
        rw [and_iff_right fun h => absurd h hnot]
        refine and_congr_left fun _ => forall₂_congr fun s _ => imp_congr_right fun _ => ?_
        by_cases hempty : row.label = ""
        · simp [hempty]
        · simp [hempty]

/-- A sample inside a transaction is in its interval, and in that of no other. -/
theorem Thread.transactionName_of_inside (t : Thread) {row s : Record} {samples : List Record}
    (hitem : .transaction row samples ∈ t.items) (hs : s ∈ samples) :
    t.transactionName s = row.label := by
  obtain ⟨-, hspans, hother⟩ := (t.wellFormed _ hitem).2 s hs
  have hrow : row ∈ t.items.filterMap Item.transaction? :=
    List.mem_filterMap.2 ⟨_, hitem, rfl⟩
  rw [Thread.transactionName]
  rcases hfind : (t.items.filterMap Item.transaction?).find? fun transaction =>
      spans transaction s with _ | found
  · exact absurd hspans (List.find?_eq_none.1 hfind row hrow)
  · have hfound := List.find?_some hfind
    rw [hother found (List.mem_of_find?_eq_some hfind) hfound]

/-- A sample outside of any transaction is in no interval of one. -/
theorem Thread.transactionName_of_outside (t : Thread) {s : Record} (hitem : .sample s ∈ t.items) :
    t.transactionName s = s.label := by
  have houtside := (t.wellFormed _ hitem).2
  rw [Thread.transactionName]
  have hfind : (t.items.filterMap Item.transaction?).find? (fun transaction =>
      spans transaction s) = none :=
    List.find?_eq_none.2 fun transaction h => by simp [houtside transaction h]
  rw [hfind]

theorem Thread.thread_of_mem_rows {order : RowOrder} (t : Thread) {row : Record}
    (h : row ∈ t.rows order) : row.thread = t.name := by
  obtain ⟨item, hitem, hrow⟩ := List.mem_flatMap.1 h
  refine t.thread_eq item hitem row ?_
  cases item with
  | sample s => cases order <;> exact hrow
  | transaction row' samples =>
    cases order with
    | afterSamples => exact hrow
    | beforeSamples =>
      rcases List.mem_cons.1 hrow with rfl | hrow
      · exact List.mem_append_right _ (List.mem_singleton.2 rfl)
      · exact List.mem_append_left _ hrow

/-! ## The file -/

section File

variable {order : RowOrder} (recording : Recording order)

/-- The records of the file, each with the label that is carried to it. -/
def Recording.carried : List (Record × Option String) :=
  carry Record.mark Record.thread (fun _ => none) recording.records

/-- They are those of the threads, one after the other. -/
theorem Recording.carried_perm : recording.carried.Perm
    (recording.threads.flatMap fun t => carryOne Record.mark none (t.rows order)) := by
  have hall : recording.carried.filter (fun x => decide (x.1.thread ∈
      recording.threads.map Thread.name)) = recording.carried := by
    refine List.filter_eq_self.2 fun x hx => decide_eq_true (recording.complete x.1 ?_)
    rw [← @map_fst_carry _ _ _ Record.mark _ Record.thread (fun _ => none) recording.records]
    exact List.mem_map_of_mem hx
  have hperm := Aggregate.filter_mem_perm_flatMap (fun x : Record × Option String => x.1.thread)
    recording.carried recording.nodup
  rw [hall, List.flatMap_map] at hperm
  refine hperm.trans (List.Perm.of_eq (List.flatMap_congr fun t ht => ?_))
  rw [Recording.carried, filter_carry, recording.interleaved t ht]

theorem Recording.named {row : Record} (h : row ∈ recording.records) : row.thread ≠ "" := by
  obtain ⟨t, -, heq⟩ := List.mem_map.1 (recording.complete row h)
  exact heq ▸ t.named

/-- The scenarios have all records of the file, and those of a thread are in one of them. -/
theorem Recording.carry_scenarioRecords_perm (inc : Bool) (name : String) :
    ((scenarioRecords inc name recording.records).flatMap fun p =>
      carry Record.mark Record.thread (fun _ => none) p.records).Perm recording.carried := by
  have hnamed := fun row (h : row ∈ recording.records) => recording.named h
  rw [Recording.carried]
  generalize recording.records = records at hnamed
  cases records with
  | nil => exact .refl _
  | cons first rest =>
    rw [scenarioRecords]
    split
    · -- Groups of threads: all of them have a name.
      have hgroups : groupedRecords inc (first :: rest) =
          groupsBy (fun row => extractThreadGroupName row.thread) (first :: rest) := by
        rw [groupedRecords]
        split
        · rfl
        · refine List.filter_eq_self.2 fun g hg => ?_
          obtain ⟨⟨row, hrow, hkey⟩, -⟩ := mem_groupsBy.1 hg
          have hne : g.1 ≠ "" := fun heq =>
            hnamed row hrow (extractThreadGroupName_eq_empty.1 (hkey.trans heq))
          exact decide_eq_true hne
      have hkeys : (carry Record.mark Record.thread (fun _ => none) (first :: rest)).map
          (fun x => extractThreadGroupName x.1.thread) =
          (first :: rest).map fun row => extractThreadGroupName row.thread := by
        rw [← @map_fst_carry _ _ _ Record.mark _ Record.thread (fun _ => none) (first :: rest),
          List.map_map, map_fst_carry]
        rfl
      have hperm := perm_groupsBy (fun x : Record × Option String =>
        extractThreadGroupName x.1.thread)
        (carry Record.mark Record.thread (fun _ => none) (first :: rest))
      refine List.Perm.trans (List.Perm.of_eq ?_) hperm
      rw [hgroups, groupsBy, groupsBy, hkeys, List.flatMap_map, List.flatMap_map, List.flatMap_map]
      refine List.flatMap_congr fun k _ => ?_
      exact carry_filter fun thread => decide (extractThreadGroupName thread = k)
    · -- One scenario with all of them.
      rw [List.flatMap_cons, List.flatMap_nil, List.append_nil]
      have hactive : (if inc = true then first :: rest else (first :: rest).filter fun row =>
          decide ((row.get "threadName").getD "" ≠ "")) = first :: rest := by
        split
        · rfl
        · exact List.filter_eq_self.2 fun row hrow => decide_eq_true (hnamed row hrow)
      rw [hactive]

/-- The requests of the scenarios, each in the transaction that is carried to it. -/
theorem build_requests_eq (clock : ℤ × ℤ) (part : List Record) (name : String) (split inc : Bool) :
    (buildScenarioFromRecords clock part name split inc).requests =
      ((carry Record.mark Record.thread (fun _ => none) part).filter fun x =>
        isRequest inc x.1).map fun x => requestRow x.1 (nameAfter x.2 x.1) := by
  rw [buildScenarioFromRecords, foldl_requests_eq, List.nil_append]
  rfl

/-- The requests of the scenarios are those of the threads. -/
theorem Recording.requests_perm (clock : String → ℤ × ℤ) (inc : Bool) (name : String) :
    ((parseRecords clock inc name recording.records).flatMap ParsedScenario.requests).Perm
      (((recording.threads.flatMap fun t => carryOne Record.mark none (t.rows order)).filter
        fun x => isRequest inc x.1).map fun x => requestRow x.1 (nameAfter x.2 x.1)) := by
  have hscenarios : (parseRecords clock inc name recording.records).flatMap
      ParsedScenario.requests = (((scenarioRecords inc name recording.records).flatMap fun p =>
        carry Record.mark Record.thread (fun _ => none) p.records).filter
          fun x => isRequest inc x.1).map fun x => requestRow x.1 (nameAfter x.2 x.1) := by
    rw [parseRecords, List.flatMap_map, List.filter_flatMap, List.map_flatMap]
    exact List.flatMap_congr fun p _ => build_requests_eq _ _ _ _ _
  rw [hscenarios]
  exact ((((recording.carry_scenarioRecords_perm inc name).trans recording.carried_perm).filter
    _).map _)

/-- Each request of the scenarios has the name of the transaction that contains it. -/
def Recording.NamesTransactions (clock : String → ℤ × ℤ) (inc : Bool) (name : String) : Prop :=
  ∀ p ∈ scenarioRecords inc name recording.records,
    (buildScenarioFromRecords (clock p.name) p.records p.name p.isThreadGroupSplit inc).requests =
      (p.records.filter (isRequest inc)).map fun row =>
        requestRow row (recording.transactionName row)

/-- The transactions of the requests are found if and only if the labels of each thread agree with
    the ones that are carried forward; and the requests that are read are the same ones whatever the
    order of the rows of different threads is. -/
theorem namesTransactions_iff (clock : String → ℤ × ℤ) (inc : Bool) (name : String) :
    (recording.NamesTransactions clock inc name ↔
      ∀ t ∈ recording.threads, LabelsFit inc order none t.items) ∧
    ∀ other : Recording order, other.threads = recording.threads →
      ((parseRecords clock inc name recording.records).flatMap ParsedScenario.requests).Perm
        ((parseRecords clock inc name other.records).flatMap ParsedScenario.requests) := by
  constructor
  · have hpart : recording.NamesTransactions clock inc name ↔
        ∀ p ∈ scenarioRecords inc name recording.records,
          ∀ x ∈ carry Record.mark Record.thread (fun _ => none) p.records,
            isRequest inc x.1 = true → nameAfter x.2 x.1 = recording.transactionName x.1 := by
      refine forall₂_congr fun p _ => ?_
      have hrecords : p.records.filter (isRequest inc) =
          ((carry Record.mark Record.thread (fun _ => none) p.records).filter fun x =>
            isRequest inc x.1).map Prod.fst := by
        rw [← @map_fst_carry _ _ _ Record.mark _ Record.thread (fun _ => none) p.records,
          List.filter_map, map_fst_carry]
        rfl
      rw [build_requests_eq, hrecords, List.map_map, List.map_inj_left]
      simp only [List.mem_filter, Function.comp_apply, and_imp]
      refine forall₂_congr fun x _ => imp_congr_right fun _ => ?_
      exact ⟨congrArg JtlRequestRow.transactionName, fun h => by rw [h]⟩
    have hthread : ∀ t ∈ recording.threads, ∀ row ∈ t.rows order,
        recording.transactionName row = t.transactionName row := fun t ht row hrow => by
      have heq := t.thread_of_mem_rows hrow
      rcases hfind : recording.threads.find? fun t => t.name = row.thread with _ | found
      · exact absurd heq.symm (by simpa using List.find?_eq_none.1 hfind t ht)
      · have hname : found.name = row.thread := by simpa using List.find?_some hfind
        obtain rfl : found = t := List.inj_on_of_nodup_map recording.nodup
          (List.mem_of_find?_eq_some hfind) ht (hname.trans heq)
        rw [Recording.transactionName, hfind]
    have hall : recording.NamesTransactions clock inc name ↔
        ∀ t ∈ recording.threads, ∀ x ∈ carryOne Record.mark none (t.rows order),
          isRequest inc x.1 = true → nameAfter x.2 x.1 = recording.transactionName x.1 := by
      rw [hpart, ← List.forall_mem_flatMap, ← List.forall_mem_flatMap]
      have hperm := (recording.carry_scenarioRecords_perm inc name).trans recording.carried_perm
      exact forall_congr' fun x => imp_congr hperm.mem_iff .rfl
    rw [hall]
    refine forall₂_congr fun t ht => ?_
    rw [← labelsFit_iff t.wellFormed (fun row samples hitem s hs =>
      t.transactionName_of_inside hitem hs) fun s hitem => t.transactionName_of_outside hitem]
    refine forall₂_congr fun x hx => imp_congr_right fun _ => ?_
    have hrow : x.1 ∈ t.rows order := by
      rw [← @map_fst_carryOne _ _ Record.mark (t.rows order) none]
      exact List.mem_map_of_mem hx
    rw [hthread t ht x.1 hrow]
  · intro other hthreads
    have hperm := recording.requests_perm clock inc name
    rw [← hthreads] at hperm
    exact hperm.trans (other.requests_perm clock inc name).symm

end File

/-! ## Two transactions -/

/-- A row of a thread. -/
def row (thread label timeStamp elapsed message : String) : Record :=
  [("timeStamp", timeStamp), ("elapsed", elapsed), ("label", label), ("responseMessage", message),
    ("threadName", thread)]

/-- A thread that logs in and then searches, with one sample in each of the transactions. -/
def shopper : Thread where
  name := "shop 1-1"
  items := [
    .transaction (row "shop 1-1" "Login" "0" "100" "Number of samples in transaction : 1")
      [row "shop 1-1" "POST /login" "10" "50" "OK"],
    .transaction (row "shop 1-1" "Search" "200" "100" "Number of samples in transaction : 1")
      [row "shop 1-1" "GET /search" "210" "50" "OK"]]
  named := by decide
  thread_eq := by decide +kernel
  wellFormed := by decide +kernel

/-- The file that JMeter writes. -/
def shopping : Recording .afterSamples where
  threads := [shopper]
  nodup := by simp
  records := shopper.rows .afterSamples
  interleaved := by decide +kernel
  complete := by decide +kernel

/-- The sample of the search is in the transaction of the login. -/
theorem not_namesTransactions_shopping :
    ¬∀ clock inc name, shopping.NamesTransactions clock inc name := by
  intro h
  have hnames := h (fun _ => (0, 0)) false "results" ⟨"results", false, shopping.records⟩ (by
    decide +kernel)
  revert hnames
  decide +kernel

end Perfana.Jtl
