import Perfana.SutTransfer.ForeignRuns
import Perfana.SutTransfer.TopUp

/-!
# Importing several bundles

Several bundles of one system are imported one after another, each into a target that has what the
others brought. What becomes of the target is not up to their order, nor to how often each of them
is imported.

* `IsToppedUp.importBundle`: a further bundle tops the target up;
* `importAll_perm_topUp`: so do all that go through, and those that fail change nothing.
-/

namespace Perfana.SutTransfer

/-- A bundle, and what was asked for. -/
structure Bundle where
  /-- What was to be exported. -/
  opts : ExportOptions
  /-- The lines of the bundle. -/
  file : List Line

/-- A bundle has been exported from a source. -/
def IsExport (s : Schema) (render : String → String → String → Json) (source : Database)
    (sutId : String) (b : Bundle) : Prop :=
  ∃ order stamp, exportBundle s render source sutId order stamp b.opts = some b.file

/-- Imports one bundle after another: what was asked for in those that went through, and what the
    target is left as. -/
def importAll (s : Schema) (organization : String) :
    List Bundle → Database → List ExportOptions × Database
  | [], db => ([], db)
  | b :: bs, db =>
    match importBundle s organization b.file db with
    | (.ok _, db') => ((importAll s organization bs db').1.cons b.opts,
        (importAll s organization bs db').2)
    | (.error _, db') => importAll s organization bs db'

variable {s : Schema} {render : String → String → String → Json} {organization : String}
  {source prior db : Database} {sutId table : String} {row : Stored}
  {done all : List ExportOptions} {opts : ExportOptions}

/-! ## One bundle after another -/

/-- A target that has what some exports make of it. -/
structure IsToppedUp (s : Schema) (organization : String) (source : Database) (sutId : String)
    (prior : Database) (done : List ExportOptions) (db : Database) : Prop where
  samples : ∀ t ∈ PURGE_BY_RUN_TABLES,
    (db t).Perm (topUp s organization source sutId prior done t)
  rest : ∀ t ∉ PURGE_BY_RUN_TABLES, ∃ new : List Stored, db t = prior t ++ new ∧ new.Nodup ∧
    ∀ x, x ∈ new ↔ x ∈ newRows s organization source sutId prior
      (parentsAfter s organization source sutId prior) done t

theorem carried_nil : carried source sutId [] table = [] :=
  List.filter_eq_nil_iff.2 fun _ _ => Bool.false_ne_true

theorem IsToppedUp.start : IsToppedUp s organization source sutId prior [] prior where
  samples t ht := by
    rw [topUp, if_pos ht, carried_nil, List.filterMap_nil, List.append_nil]
    exact .of_eq (List.filter_eq_self.2 fun _ _ => rfl).symm
  rest t _ := by
    refine ⟨[], (List.append_nil _).symm, List.nodup_nil, fun x => ?_⟩
    rw [newRows, carried_nil]
    rfl

/-- Tables without parents take their rows as they are. -/
theorem newRows_congr {parents parents' : Database} (hreports : table ≠ "generated_reports")
    (hgroups : table ≠ "ds_metric_series_groups") :
    newRows s organization source sutId prior parents done table =
      newRows s organization source sutId prior parents' done table := by
  rw [newRows, newRows]
  refine congrArg _ (List.filterMap_congr fun row _ => transferred_congr ?_ ?_)
  · exact fun h => absurd h hreports
  · exact fun h => absurd h hgroups

/-- Once a bundle is there, so are the rows that others refer to. -/
theorem hasId_parentsAfter {new : List Stored}
    (hp : table ∈ ["report_templates", "series_grouping_rules"])
    (hmem : ∀ x, x ∈ new ↔ x ∈ newRows s organization source sutId prior
      (parentsAfter s organization source sutId prior) (done ++ [opts]) table)
    (hdb : db table = prior table ++ new) (id : String) :
    hasId db table id = hasId (parentsAfter s organization source sutId prior) table id := by
  have hnames : ∀ t ∈ ["report_templates", "series_grouping_rules"],
      t ≠ "generated_reports" ∧ t ≠ "ds_metric_series_groups" := by decide
  have hcarried : ∀ row, row ∈ carried source sutId (done ++ [opts]) table ↔ row ∈ carried source
      sutId [{ testRunIds := [], includeOptional := false, includeRaw := false }] table := by
    intro row
    rw [mem_carried, mem_carried]
    refine and_congr_right fun _ => ⟨?_, ?_⟩
    · rintro ⟨o, -, ho⟩
      exact ⟨_, List.mem_singleton_self _, selects_parent hp ho⟩
    · rintro ⟨o, -, ho⟩
      exact ⟨opts, by simp, selects_parent hp ho⟩
  have hcongr : newRows s organization source sutId prior
      (parentsAfter s organization source sutId prior) (done ++ [opts]) table =
        newRows s organization source sutId prior prior (done ++ [opts]) table :=
    newRows_congr (hnames table hp).1 (hnames table hp).2
  have hsame : ∀ x, x ∈ new ↔ x ∈ newRows s organization source sutId prior prior
      [{ testRunIds := [], includeOptional := false, includeRaw := false }] table := by
    intro x
    rw [hmem, hcongr, mem_newRows, mem_newRows]
    simp only [hcarried]
  rw [hasId, hasId, hdb, parentsAfter, List.any_append, List.any_append]
  refine congrArg _ ?_
  rw [Bool.eq_iff_iff, List.any_eq_true, List.any_eq_true]
  exact exists_congr fun x => and_congr_left fun _ => hsame x

/-- A further bundle. -/
theorem IsToppedUp.importBundle (h : IsToppedUp s organization source sutId prior done db)
    (htransfers : Transfers s render organization source)
    (hkeys : KeysSurvive s organization source sutId all) {b : Bundle}
    (hexport : IsExport s render source sutId b) (hall : ∀ o ∈ done ++ [b.opts], o ∈ all)
    {imported : Imported} {db' : Database}
    (himport : Perfana.SutTransfer.importBundle s organization b.file db = (.ok imported, db')) :
    IsToppedUp s organization source sutId prior (done ++ [b.opts]) db' := by
  obtain ⟨order, stamp, hfile⟩ := hexport
  obtain ⟨ses, hses, -, -, rfl⟩ := importBundle_ok himport
  have hinv : Inv s db (entries organization b.file) ses := Inv.of_importLines hses
  have hreplaced : Replaced s db (entries organization b.file) ses := Replaced.of_importLines hses
  have hdb : ∀ t ∉ PURGE_BY_RUN_TABLES, ses.db t =
      extend db (arrivals s db (entries organization b.file)) t := by
    intro t ht
    rw [hinv.rows t ht, hinv.added]
  have hnew := fun t => @rowsOf_new s render organization source db sutId b.opts htransfers order
    stamp b.file hfile t
  dsimp only at hnew
  -- What is written to a table, if its rows arrive as they do once all exports are there.
  have hstep : ∀ t ∉ PURGE_BY_RUN_TABLES,
      (∀ row, transferred s organization (extend db (arrivals s db (entries organization b.file))) t
        row = transferred s organization (parentsAfter s organization source sutId prior) t row) →
      ∃ new : List Stored, ses.db t = prior t ++ new ∧ new.Nodup ∧
        ∀ x, x ∈ new ↔ x ∈ newRows s organization source sutId prior
          (parentsAfter s organization source sutId prior) (done ++ [b.opts]) t := by
    intro t ht hsame
    obtain ⟨new, hold, hnodup, hmem⟩ := h.rest t ht
    obtain ⟨rows, hrows, hwritten⟩ := hnew t
    obtain ⟨hnodup', hmem'⟩ := newRows_step hkeys ht hall hnodup hmem hrows
    refine ⟨_, ?_, hnodup', hmem'⟩
    rw [hdb t ht, extend, hwritten, hold, List.append_assoc,
      List.filterMap_congr fun row _ => hsame row]
  have hparents : ∀ p ∈ ["report_templates", "series_grouping_rules"], ∀ id,
      hasId (extend db (arrivals s db (entries organization b.file))) p id =
        hasId (parentsAfter s organization source sutId prior) p id := by
    intro p hp id
    have hp' : p ∉ PURGE_BY_RUN_TABLES ∧ p ≠ "generated_reports" ∧
        p ≠ "ds_metric_series_groups" := by
      revert p
      decide
    obtain ⟨new, hold, -, hmem⟩ := hstep p hp'.1 fun row =>
      transferred_congr (fun h => absurd h hp'.2.1) fun h => absurd h hp'.2.2
    exact hasId_parentsAfter hp hmem ((hdb p hp'.1).symm.trans hold) id
  refine ⟨fun t ht => ?_, fun t ht => hstep t ht fun row => transferred_congr ?_ ?_⟩
  · -- The samples of a run are deleted, and all of them written.
    obtain ⟨rows, hrows, hwritten⟩ := hnew t
    have hplain : ∀ t ∈ PURGE_BY_RUN_TABLES, t ≠ "generated_reports" ∧
        t ≠ "ds_metric_series_groups" := by decide
    have hsame : ∀ row, transferred s organization
        (extend db (arrivals s db (entries organization b.file))) t row =
          transferred s organization prior t row := fun row =>
      transferred_congr (fun h => absurd h (hplain t ht).1) fun h => absurd h (hplain t ht).2
    rw [hreplaced (nameTheirRuns htransfers hfile) t ht, hinv.added, hwritten,
      skipping_eq_self (s.clash_of_purged t ht), List.filterMap_congr fun row _ => hsame row]
    refine .trans (.append_right _ ((h.samples t ht).filter _)) ?_
    exact topUp_step htransfers ht hrows fun row => isPurged_entries htransfers ht hfile row
  · exact fun _ id => hparents _ (by simp) id
  · exact fun _ id => hparents _ (by simp) id

theorem IsToppedUp.importAll (htransfers : Transfers s render organization source)
    (hkeys : KeysSurvive s organization source sutId all) {bundles : List Bundle}
    (hexport : ∀ b ∈ bundles, IsExport s render source sutId b)
    (hall : ∀ b ∈ bundles, b.opts ∈ all) (hdone : ∀ o ∈ done, o ∈ all)
    (h : IsToppedUp s organization source sutId prior done db) :
    IsToppedUp s organization source sutId prior
      (done ++ (Perfana.SutTransfer.importAll s organization bundles db).1)
      (Perfana.SutTransfer.importAll s organization bundles db).2 := by
  induction bundles generalizing done db with
  | nil =>
    rw [Perfana.SutTransfer.importAll, List.append_nil]
    exact h
  | cons b bundles ih =>
    have hrest := fun {done db} => @ih done db (fun b hb => hexport b (List.mem_cons_of_mem _ hb))
      fun b hb => hall b (List.mem_cons_of_mem _ hb)
    rw [Perfana.SutTransfer.importAll]
    rcases himport : Perfana.SutTransfer.importBundle s organization b.file db with
      ⟨_ | imported, db'⟩
    · dsimp only
      rw [importBundle_error himport]
      exact hrest hdone h
    · have hstep : ∀ o ∈ done ++ [b.opts], o ∈ all := by
        intro o ho
        rcases List.mem_append.1 ho with ho | ho
        · exact hdone o ho
        · rw [List.mem_singleton.1 ho]
          exact hall b List.mem_cons_self
      have hafter := hrest hstep
        (h.importBundle htransfers hkeys (hexport b List.mem_cons_self) hstep himport)
      rw [List.append_assoc] at hafter
      exact hafter

theorem nodup_newRows (hkeys : KeysSurvive s organization source sutId all)
    (hdone : ∀ o ∈ done, o ∈ all) (ht : table ∉ PURGE_BY_RUN_TABLES) (parents : Database) :
    (newRows s organization source sutId prior parents done table).Nodup := by
  have hsub : ∀ row ∈ carried source sutId done table, row ∈ carried source sutId all table :=
    fun row => carried_subset hdone
  have hnodup : (carried source sutId done table).Nodup := by
    refine (hkeys.nodup table ht).sublist (List.monotone_filter_right _ fun row hrow => ?_)
    obtain ⟨o, ho, hselects⟩ := List.any_eq_true.1 hrow
    exact List.any_eq_true.2 ⟨o, hdone o ho, hselects⟩
  refine List.Nodup.filter _ ?_
  rw [List.Nodup, List.pairwise_filterMap]
  refine hnodup.imp_of_mem fun {row row'} hrow hrow' hne x hx x' hx' heq => hne ?_
  subst heq
  have hself := (hkeys.clash_iff table ht row (hsub row hrow) row (hsub row hrow) parents x x hx
    hx).2 rfl
  exact (hkeys.clash_iff table ht row (hsub row hrow) row' (hsub row' hrow') parents x x hx
    hx').1 hself

theorem IsToppedUp.perm (hkeys : KeysSurvive s organization source sutId all)
    (hdone : ∀ o ∈ done, o ∈ all) (h : IsToppedUp s organization source sutId prior done db)
    (t : String) : (db t).Perm (topUp s organization source sutId prior done t) := by
  by_cases ht : t ∈ PURGE_BY_RUN_TABLES
  · exact h.samples t ht
  · obtain ⟨new, hdb, hnodup, hmem⟩ := h.rest t ht
    rw [hdb, topUp, if_neg ht]
    exact .append_left _
      ((List.perm_ext_iff_of_nodup hnodup (nodup_newRows hkeys hdone ht _)).2 hmem)

/-- What some exports make of a target is not up to their order, nor how often each is there. -/
theorem topUp_congr {done' : List ExportOptions} (h : ∀ o, o ∈ done ↔ o ∈ done') :
    topUp s organization source sutId prior done =
      topUp s organization source sutId prior done' := by
  have hcarried : carried source sutId done = carried source sutId done' := by
    funext t
    refine List.filter_congr fun row _ => ?_
    rw [Bool.eq_iff_iff, List.any_eq_true, List.any_eq_true]
    exact exists_congr fun o => and_congr_left fun _ => h o
  funext t
  rw [topUp, topUp, newRows, newRows, hcarried]

theorem opts_of_importAll {bundles : List Bundle} {o : ExportOptions}
    (ho : o ∈ (importAll s organization bundles db).1) : o ∈ bundles.map Bundle.opts := by
  induction bundles generalizing db with
  | nil => cases ho
  | cons b bundles ih =>
    rw [importAll] at ho
    rcases himport : importBundle s organization b.file db with ⟨_ | imported, db'⟩
    · rw [himport] at ho
      exact List.mem_cons_of_mem _ (ih ho)
    · rw [himport] at ho
      rcases List.mem_cons.1 ho with rfl | ho
      · exact List.mem_cons_self
      · exact List.mem_cons_of_mem _ (ih ho)

/-- Bundles of one source are imported in any order, each any number of times: the target is topped
    up with those that go through. Samples of their runs are replaced, and all other rows are kept;
    an import that fails changes nothing. -/
theorem importAll_perm_topUp (htransfers : Transfers s render organization source)
    {bundles : List Bundle} (hexport : ∀ b ∈ bundles, IsExport s render source sutId b)
    (hkeys : KeysSurvive s organization source sutId (bundles.map Bundle.opts)) :
    let r := importAll s organization bundles prior
    (∀ t, (r.2 t).Perm (topUp s organization source sutId prior r.1 t)) ∧
    (∀ bundles' : List Bundle, (∀ b ∈ bundles', b ∈ bundles) →
      (∀ o, o ∈ (importAll s organization bundles' prior).1 ↔ o ∈ r.1) →
      ∀ t, ((importAll s organization bundles' prior).2 t).Perm (r.2 t)) ∧
    (∀ t, ∀ row ∈ prior t,
      (t ∈ PURGE_BY_RUN_TABLES → ∀ opts ∈ r.1, ¬ofSelected source sutId opts t row) →
      row ∈ r.2 t) ∧
    ∀ file e db db', importBundle s organization file db = (.error e, db') → db' = db := by
  have hperm : ∀ bundles' : List Bundle, (∀ b ∈ bundles', b ∈ bundles) →
      ∀ t, ((importAll s organization bundles' prior).2 t).Perm
        (topUp s organization source sutId prior
          (importAll s organization bundles' prior).1 t) := by
    intro bundles' hsub t
    have hall : ∀ b ∈ bundles', b.opts ∈ bundles.map Bundle.opts := fun b hb =>
      List.mem_map_of_mem (hsub b hb)
    have hstart : IsToppedUp s organization source sutId prior [] prior := .start
    have h := hstart.importAll htransfers hkeys (fun b hb => hexport b (hsub b hb)) hall
      (List.forall_mem_nil _)
    refine h.perm hkeys (fun o ho => ?_) t
    obtain ⟨b, hb, rfl⟩ := List.mem_map.1 (opts_of_importAll ho)
    exact hall b hb
  have hself := hperm bundles fun b hb => hb
  refine ⟨hself, fun bundles' hsub hsame t => ?_, fun t row hrow hother => ?_,
    fun file e db db' => importBundle_error⟩
  · refine (hperm bundles' hsub t).trans (.trans (.of_eq ?_) (hself t).symm)
    rw [topUp_congr hsame]
  · refine (hself t).mem_iff.2 ?_
    rw [topUp]
    by_cases ht : t ∈ PURGE_BY_RUN_TABLES
    · rw [if_pos ht]
      refine List.mem_append_left _ (List.mem_filter.2 ⟨hrow, ?_⟩)
      rw [Bool.not_eq_true', ← Bool.not_eq_true, any_carried_iff, not_exists]
      exact fun opts h => hother ht opts h.1 h.2
    · rw [if_neg ht]
      exact List.mem_append_left _ hrow

/-! ## A system in two environments -/

section Example

/-- The rows that were there, and each exported row once. -/
def AddsOnly (s : Schema) (organization : String) (source : Database) (sutId : String)
    (prior : Database) (done : List ExportOptions) (db : Database) : Prop :=
  ∀ t, (db t).Perm (prior t ++ ((carried source sutId done t).filterMap
    (transferred s organization prior t)).filter fun row => row ∉ prior t)

/-- All columns are text. -/
def sampleRender (_ _ text : String) : Json := .str text

/-- A run of the system, with its samples. -/
def sampleOptions : ExportOptions where
  testRunIds := ["run"]
  includeOptional := false
  includeRaw := true

def sampleExport : Bundle where
  opts := sampleOptions
  file := (exportBundle sampleSchema sampleRender sampleTarget "shop"
    (fun _ => RowOrder.written Stored) { appVersion := "dev", exportedAt := "12:00" }
    sampleOptions).getD []

theorem isExport_sampleExport :
    IsExport sampleSchema sampleRender sampleTarget "shop" sampleExport := by
  refine ⟨fun _ => RowOrder.written Stored, { appVersion := "dev", exportedAt := "12:00" }, ?_⟩
  have hsome : (exportBundle sampleSchema sampleRender sampleTarget "shop"
      (fun _ => RowOrder.written Stored) { appVersion := "dev", exportedAt := "12:00" }
      sampleOptions).isSome = true := by decide +kernel
  obtain ⟨file, hfile⟩ := Option.isSome_iff_exists.1 hsome
  rw [sampleExport, hfile]
  rfl

/-- An environment in which the system has its old name, and the run another sample. -/
def sampleOther : Database
  | "systems_under_test" => [[("id", "shop"), ("name", "Old shop"), ("organization_id", "retail")]]
  | "test_runs" => [[("id", "run"), ("test_run_id", "shop-1"), ("system_under_test_id", "shop"),
      ("organization_id", "retail")]]
  | "requests_raw" => [[("time", "13:00"), ("test_run_id", "shop-1")]]
  | _ => []

/-- The system keeps its old name, and the sample is gone. -/
theorem not_addsOnly_sampleExport :
    (importAll sampleSchema "retail" [sampleExport] sampleOther).1 = [sampleOptions] ∧
    ¬AddsOnly sampleSchema "retail" sampleTarget "shop" sampleOther [sampleOptions]
      (importAll sampleSchema "retail" [sampleExport] sampleOther).2 := by
  refine ⟨by decide +kernel, fun h => ?_⟩
  have hgone : [("time", "13:00"), ("test_run_id", "shop-1")] ∉
      (importAll sampleSchema "retail" [sampleExport] sampleOther).2 "requests_raw" := by
    decide +kernel
  exact hgone ((h "requests_raw").mem_iff.2 (List.mem_append_left _ List.mem_cons_self))

theorem mem_sampleTarget {table : String} {row : Stored} (h : row ∈ sampleTarget table) :
    table = "systems_under_test" ∧
      row = [("id", "shop"), ("name", "Shop"), ("organization_id", "retail")] ∨
    table = "test_runs" ∧ row = [("id", "run"), ("test_run_id", "shop-1"),
      ("system_under_test_id", "shop"), ("organization_id", "retail")] ∨
    table = "requests_raw" ∧ row = [("time", "12:00"), ("test_run_id", "shop-1")] := by
  rw [sampleTarget.eq_def] at h
  split at h <;> simp_all

theorem transfers_sample : Transfers sampleSchema sampleRender "retail" sampleTarget where
  read_render _ _ _ _ _ _ _ := ⟨(fun h => by cases h), rfl⟩
  read_organization _ _ := rfl
  render_key _ _ _ _ := rfl
  unmarked table := by
    dsimp only [sampleSchema]
    split
    · decide
    · split <;> decide
  run_column := by decide

theorem keysSurvive_sample (all : List ExportOptions) :
    KeysSurvive sampleSchema "retail" sampleTarget "shop" all where
  nodup table _ := by
    refine List.Nodup.filter _ ?_
    rw [sampleTarget.eq_def]
    split <;> simp
  clash_iff table ht row hrow row' hrow' parents x x' hx hx' := by
    have hrow := mem_sampleTarget (mem_carried.1 hrow).1
    have hrow' := mem_sampleTarget (mem_carried.1 hrow').1
    constructor
    · intro _
      rcases hrow with ⟨rfl, rfl⟩ | ⟨rfl, rfl⟩ | ⟨rfl, rfl⟩
      · exact ((hrow'.resolve_right fun h => h.elim (fun h => absurd h.1 (by decide))
          fun h => absurd h.1 (by decide)).2).symm
      · have hrow' := hrow'.resolve_left fun h => absurd h.1 (by decide)
        exact (hrow'.resolve_right fun h => absurd h.1 (by decide)).2.symm
      · exact absurd (by decide) ht
    · rintro rfl
      obtain rfl := Option.some.inj (hx.symm.trans hx')
      rcases hrow with ⟨rfl, rfl⟩ | ⟨rfl, rfl⟩ | ⟨rfl, rfl⟩
      · rw [transferred, if_neg (by decide), if_neg (by decide)] at hx
        obtain rfl := Option.some.inj hx
        decide +kernel
      · rw [transferred, if_neg (by decide), if_neg (by decide)] at hx
        obtain rfl := Option.some.inj hx
        decide +kernel
      · exact absurd (by decide) ht

theorem importAll_perm_topUp_sample :
    ((importAll sampleSchema "retail" [sampleExport, sampleExport] sampleOther).2
      "requests_raw").Perm (topUp sampleSchema "retail" sampleTarget "shop" sampleOther
        (importAll sampleSchema "retail" [sampleExport, sampleExport] sampleOther).1
        "requests_raw") := by
  refine (importAll_perm_topUp transfers_sample (fun b hb => ?_)
    (keysSurvive_sample _)).1 "requests_raw"
  obtain rfl : b = sampleExport := by simpa using hb
  exact isExport_sampleExport

end Example

end Perfana.SutTransfer
