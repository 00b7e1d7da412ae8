import Perfana.GrafanaSync.Passes

/-!
# An application dashboard for each value

Where dashboards are separate for a variable, a set has one of its values. The application
dashboard is looked up by a generated uid, with the label of the value; if it is the template, it is
stored with another uid, and looked up by the label once more.

* `step_of_value`: a set with a value keeps what there is, and brings its own dashboard on;
* `step_without_value`: a set without one stores nothing.
-/

namespace Perfana.AutoConfig

open GrafanaSync

section

variable {w w' : World} {own : GrafanaInstance} {testRun : TestRun}
  {autoConfigDashboard : ProfileGrafanaDashboard} {md5 : String → String}
  {vars discovered stored : List DashboardVariable} {separate value value' : String}

/-! ## The labels of values -/

theorem length_labelFor : (labelFor autoConfigDashboard (some value)).length =
    autoConfigDashboard.dashboardName.length + 1 + value.length := by
  rw [labelFor, String.length_append, String.length_append]
  rfl

theorem labelFor_some_ne_nil : labelFor autoConfigDashboard (some value) ≠ "" := by
  intro h
  have hlength := congrArg String.length h
  rw [length_labelFor, String.length_empty] at hlength
  omega

theorem labelFor_some_ne_none :
    labelFor autoConfigDashboard (some value) ≠ autoConfigDashboard.dashboardName := by
  intro h
  have hlength := congrArg String.length h
  rw [length_labelFor] at hlength
  omega

theorem labelFor_some_injective
    (h : labelFor autoConfigDashboard (some value) = labelFor autoConfigDashboard (some value')) :
    value = value' :=
  (String.append_right_inj _).1 h

theorem find?_setOfValue : (setOfValue separate vars value).find? (fun v => v.name = separate) =
    some { name := separate, values := [value] } := by
  have hnone : (vars.filter fun v => v.name ≠ separate).find? (fun v => v.name = separate) =
      none := by
    refine List.find?_eq_none.2 fun v hv => ?_
    have hne := of_decide_eq_true (List.mem_filter.1 hv).2
    simpa using hne
  rw [setOfValue, List.find?_append, hnone, Option.none_or, List.find?_cons_of_pos (by simp)]

variable (hseparate : truthy autoConfigDashboard.createSeparateDashboardForVariable = some separate)

include hseparate

theorem resolveDashboardLabel_setOfValue :
    resolveDashboardLabel autoConfigDashboard (setOfValue separate vars value) =
      labelFor autoConfigDashboard (some value) := by
  rw [resolveDashboardLabel, hseparate]
  dsimp only
  rw [find?_setOfValue]
  rfl

/-- Without a value, the label is that of the dashboard. -/
theorem resolveDashboardLabel_of_no_value (hnone : (valuesOf vars separate).getD [] = []) :
    resolveDashboardLabel autoConfigDashboard vars = autoConfigDashboard.dashboardName := by
  rw [resolveDashboardLabel, hseparate]
  dsimp only
  rw [valuesOf] at hnone
  cases hfind : vars.find? fun v => v.name = separate with
  | none => rfl
  | some v =>
    rw [hfind] at hnone
    obtain ⟨name, values⟩ := v
    obtain rfl : values = [] := hnone
    rfl

end

/-! ## The application dashboards of values -/

section

variable (md5 : String → String) (testRun : TestRun)
  (autoConfigDashboard : ProfileGrafanaDashboard) (own : GrafanaInstance) (separate : String)
  (discovered : List DashboardVariable)

/-- The uid that the dashboard for a value is stored with. -/
def storedUid (value : String) : String :=
  if autoConfigDashboard.readOnly then autoConfigDashboard.dashboardUid
  else createDashboardUid md5 testRun autoConfigDashboard (setOfValue separate discovered value)

/-- There is one application dashboard of the run for a value, with the variables of its set. -/
def HasValue (w : World) (value : String) : Prop :=
  ∃ ad, w.dashboardsWith testRun own.label (labelFor autoConfigDashboard (some value)) = [ad] ∧
    StoredAs w testRun own
      (storedUid md5 testRun autoConfigDashboard separate discovered value)
      (labelFor autoConfigDashboard (some value))
      (buildVariablesForSeparateDashboard testRun autoConfigDashboard
        (setOfValue separate discovered value) separate value) ad

/-- There is one for a value, or none, and no other dashboard of the profile; and no dashboard that
    was created names a template. -/
structure Kept (w : World) : Prop where
  noTemplate : autoConfigDashboard.readOnly = false →
    HasNoTemplates md5 testRun autoConfigDashboard own discovered separate w
  noOne : w.dashboardsWith testRun own.label autoConfigDashboard.dashboardName = []
  values : ∀ value,
    w.dashboardsWith testRun own.label (labelFor autoConfigDashboard (some value)) = [] ∨
      HasValue md5 testRun autoConfigDashboard own separate discovered w value

/-- The dashboard for a value is created, if one has to be. -/
def Ready (w : World) (value : String) : Prop :=
  autoConfigDashboard.readOnly = true ∨ w.dashboardsOf own.id [createDashboardUid md5 testRun
      autoConfigDashboard (setOfValue separate discovered value)] ≠ [] ∨
    HasValue md5 testRun autoConfigDashboard own separate discovered w value

/-- The template is reused once more. -/
def Reused (w w' : World) : Prop :=
  ∃ row, w.dashboardsOf own.id [autoConfigDashboard.dashboardUid] = [row] ∧
    w' = w.updateUsedBySut row.id testRun.sutName

/-- The template is in use already. -/
def InUse (w : World) : Prop :=
  ∃ row, w.dashboardsOf own.id [autoConfigDashboard.dashboardUid] = [row] ∧
    w.updateUsedBySut row.id testRun.sutName = w

/-- A dashboard was created. -/
def Created (uid : String) (w w' : World) : Prop :=
  w.dashboardsOf own.id [uid] = [] ∧
    ∃ data : UpsertData, data.grafanaInstance = own ∧ data.uid = uid ∧ w' = w.upsertDashboard data

/-- The application dashboard for a value was inserted, after the template was reused. -/
def Inserted (value : String) (w w' : World) : Prop :=
  ∃ w₁ data, (w₁ = w ∨ autoConfigDashboard.readOnly = true ∧
      Reused testRun autoConfigDashboard own w w₁) ∧
    data.IsFor testRun own (storedUid md5 testRun autoConfigDashboard separate discovered value)
      (labelFor autoConfigDashboard (some value))
      (buildVariablesForSeparateDashboard testRun autoConfigDashboard
        (setOfValue separate discovered value) separate value) ∧
    (insertApplicationDashboard data).Returns w₁ () w'

end

section

variable {w w' : World} {own : GrafanaInstance} {testRun : TestRun}
  {autoConfigDashboard : ProfileGrafanaDashboard} {md5 : String → String}
  {vars discovered : List DashboardVariable} {separate value value' : String}

/-! ## What was done for a value -/

theorem Reused.alikeLinks (h : Reused testRun autoConfigDashboard own w w') : w.AlikeLinks w' := by
  obtain ⟨row, -, rfl⟩ := h
  exact ⟨⟨rfl, rfl⟩, rfl⟩

theorem updateUsedBySut_updateUsedBySut (id : ℕ) (application : String) :
    (w.updateUsedBySut id application).updateUsedBySut id application =
      w.updateUsedBySut id application := by
  have hused : ∀ row : GrafanaDashboard, GrafanaSync.updateUsedBySut application
      (GrafanaSync.updateUsedBySut application row) =
        GrafanaSync.updateUsedBySut application row := by
    intro row
    by_cases h : (row.usedBySut.getD []).contains application = true
    · simp [GrafanaSync.updateUsedBySut, List.contains_iff_mem.1 h]
    · simp [GrafanaSync.updateUsedBySut, mt List.contains_iff_mem.2 h]
  have hrows := @updateFirst_updateFirst _ (fun gd : StoredDashboard => decide (gd.id = id))
    (fun gd => { gd with
      toGrafanaDashboard := GrafanaSync.updateUsedBySut application gd.toGrafanaDashboard })
    w.grafanaDashboards (fun _ h => h) fun gd => by rw [hused]
  rw [World.updateUsedBySut, World.updateUsedBySut, hrows]

/-- A template that is reused is in use, -/
theorem Reused.inUse (h : Reused testRun autoConfigDashboard own w w') :
    InUse testRun autoConfigDashboard own w' := by
  obtain ⟨row, hrows, rfl⟩ := h
  obtain ⟨row', hrows', hrow'⟩ := filter_updateFirst (p := fun gd => gd.id = row.id)
    (f := fun gd => { gd with
      toGrafanaDashboard := GrafanaSync.updateUsedBySut testRun.sutName gd.toGrafanaDashboard })
    (fun _ => rfl) hrows
  have hid : row'.id = row.id := by
    rcases hrow' with rfl | rfl <;> rfl
  refine ⟨row', hrows', ?_⟩
  rw [hid]
  exact updateUsedBySut_updateUsedBySut row.id testRun.sutName

/-- and reusing it once more changes nothing. -/
theorem InUse.eq (h : InUse testRun autoConfigDashboard own w)
    (hreused : Reused testRun autoConfigDashboard own w w') : w' = w := by
  obtain ⟨row, hrows, heq⟩ := h
  obtain ⟨row', hrows', rfl⟩ := hreused
  rw [hrows] at hrows'
  rw [← (List.cons.inj hrows').1, heq]

theorem World.AlikeLinks.dashboardsWith (h : w.AlikeLinks w') (grafana label : String) :
    w'.dashboardsWith testRun grafana label = w.dashboardsWith testRun grafana label := by
  rw [World.dashboardsWith, h.1.isOf, h.2, World.dashboardsWith]

theorem HasValue.alikeLinks
    (h : HasValue md5 testRun autoConfigDashboard own separate discovered w value)
    (halike : w.AlikeLinks w') :
    HasValue md5 testRun autoConfigDashboard own separate discovered w' value := by
  obtain ⟨ad, honly, hstored⟩ := h
  exact ⟨ad, (halike.dashboardsWith _ _).trans honly, hstored.alike halike.1⟩

theorem Kept.alikeLinks (h : Kept md5 testRun autoConfigDashboard own separate discovered w)
    (halike : w.AlikeLinks w') (hnoTemplate : autoConfigDashboard.readOnly = false →
      HasNoTemplates md5 testRun autoConfigDashboard own discovered separate w') :
    Kept md5 testRun autoConfigDashboard own separate discovered w' where
  noTemplate := hnoTemplate
  noOne := (halike.dashboardsWith _ _).trans h.noOne
  values value := by
    rw [halike.dashboardsWith]
    exact (h.values value).imp_right fun hvalue => hvalue.alikeLinks halike

/-- The template that was reused is kept. -/
theorem Kept.reused (h : Kept md5 testRun autoConfigDashboard own separate discovered w)
    (hreadOnly : autoConfigDashboard.readOnly = true)
    (hreused : Reused testRun autoConfigDashboard own w w') :
    Kept md5 testRun autoConfigDashboard own separate discovered w' := by
  refine h.alikeLinks hreused.alikeLinks fun hnot => ?_
  rw [hreadOnly] at hnot
  cases hnot

theorem Created.alikeLinks {uid : String} (h : Created own uid w w') : w.AlikeLinks w' := by
  obtain ⟨-, data, -, -, rfl⟩ := h
  exact ⟨⟨rfl, rfl⟩, rfl⟩

/-- A dashboard that is created names no template. -/
theorem Kept.created {uid : String}
    (h : Kept md5 testRun autoConfigDashboard own separate discovered w)
    (hcreated : Created own uid w w') :
    Kept md5 testRun autoConfigDashboard own separate discovered w' := by
  refine h.alikeLinks hcreated.alikeLinks fun hreadOnly value gd hgd => ?_
  obtain ⟨-, data, -, -, rfl⟩ := hcreated
  obtain ⟨hgd, hkey⟩ := List.mem_filter.1 hgd
  rcases mem_upsertFirst hgd with hgd | ⟨gd', hgd', hrow, rfl⟩ | rfl
  · exact h.noTemplate hreadOnly value gd (List.mem_filter.2 ⟨hgd, hkey⟩)
  · obtain ⟨hinstance, huid⟩ := isRowOf_iff.1 hrow
    rw [Bool.and_eq_true, decide_eq_true_eq, List.contains_iff_mem] at hkey
    refine h.noTemplate hreadOnly value gd' (List.mem_filter.2 ⟨hgd', ?_⟩)
    rw [Bool.and_eq_true, decide_eq_true_eq, List.contains_iff_mem, hinstance, huid]
    exact hkey
  · rfl

theorem Created.dashboardsOf_ne_nil {uid : String} (h : Created own uid w w') :
    w'.dashboardsOf own.id [uid] ≠ [] := by
  obtain ⟨-, data, rfl, rfl, rfl⟩ := h
  exact dashboardsOf_upsertDashboard_self

theorem Created.dashboardsOf_mono {uid : String} (h : Created own uid w w') {uids : List String}
    (hrows : w.dashboardsOf own.id uids ≠ []) : w'.dashboardsOf own.id uids ≠ [] := by
  obtain ⟨-, data, -, -, rfl⟩ := h
  exact dashboardsOf_upsertDashboard_ne_nil hrows

/-- What an insert for a value leaves. -/
theorem of_inserted (hown : Owns w testRun autoConfigDashboard own)
    (hkept : Kept md5 testRun autoConfigDashboard own separate discovered w)
    (h : Inserted md5 testRun autoConfigDashboard own separate discovered value w w') :
    w.Alike w' ∧ Kept md5 testRun autoConfigDashboard own separate discovered w' ∧
      HasValue md5 testRun autoConfigDashboard own separate discovered w' value ∧
      (autoConfigDashboard.readOnly = false → w'.grafanaDashboards = w.grafanaDashboards) ∧
      ∀ value', HasValue md5 testRun autoConfigDashboard own separate discovered w value' →
        HasValue md5 testRun autoConfigDashboard own separate discovered w' value' := by
  obtain ⟨w₁, data, hw₁, hdata, hinsert⟩ := h
  obtain ⟨hlinks, hkept₁, hrows⟩ : w.AlikeLinks w₁ ∧
      Kept md5 testRun autoConfigDashboard own separate discovered w₁ ∧
      (autoConfigDashboard.readOnly = false → w₁.grafanaDashboards = w.grafanaDashboards) := by
    rcases hw₁ with rfl | ⟨hreadOnly, hreused⟩
    · exact ⟨⟨⟨rfl, rfl⟩, rfl⟩, hkept, fun _ => rfl⟩
    · refine ⟨hreused.alikeLinks, hkept.reused hreadOnly hreused, fun hnot => ?_⟩
      rw [hreadOnly] at hnot
      cases hnot
  obtain ⟨halike, hdashboards, hothers, hthere⟩ :=
    dashboardsWith_of_insert hdata (hown.alike hlinks.1).ofRun hinsert
  have hvalue : HasValue md5 testRun autoConfigDashboard own separate discovered w' value :=
    hthere ((hkept₁.values value).imp_right fun h => h.imp fun ad h => ⟨_, h⟩)
  have hother : ∀ value' ≠ value, HasValue md5 testRun autoConfigDashboard own separate discovered
      w₁ value' → HasValue md5 testRun autoConfigDashboard own separate discovered w' value' := by
    rintro value' hne ⟨ad, honly, hstored⟩
    exact ⟨ad, (hothers _ fun heq => hne (labelFor_some_injective heq)).trans honly,
      hstored.alike halike⟩
  refine ⟨⟨halike.1.trans hlinks.1.1, halike.2.trans hlinks.1.2⟩,
    { noTemplate := fun hreadOnly value' gd hgd => ?_
      noOne := ?_
      values := fun value' => ?_ }, hvalue, fun hreadOnly => hdashboards.trans (hrows hreadOnly),
    fun value' hvalue' => ?_⟩
  · rw [World.dashboardsOf, hdashboards] at hgd
    exact hkept₁.noTemplate hreadOnly value' gd hgd
  · exact (hothers _ fun heq => labelFor_some_ne_none heq.symm).trans hkept₁.noOne
  · by_cases hsame : value' = value
    · exact .inr (hsame ▸ hvalue)
    · rw [hothers _ fun heq => hsame (labelFor_some_injective heq)]
      exact (hkept₁.values value').imp_right (hother value' hsame)
  · by_cases hsame : value' = value
    · exact hsame ▸ hvalue
    · exact hother value' hsame (hvalue'.alikeLinks hlinks)

end

section

variable {w w' : World} {own : GrafanaInstance} {testRun : TestRun}
  {autoConfigDashboard : ProfileGrafanaDashboard} {md5 : String → String}
  {vars discovered : List DashboardVariable} {separate value value' : String}
  (hseparate : truthy autoConfigDashboard.createSeparateDashboardForVariable = some separate)
  (hown : Owns w testRun autoConfigDashboard own)

include hseparate hown

/-! ## A set with a value -/

/-- What the lookup for a set finds are dashboards with the label of its value. -/
theorem applicationDashboardsFor_of_value :
    w.applicationDashboardsFor md5 testRun autoConfigDashboard
        (setOfValue separate discovered value) own.label =
      (w.dashboardsWith testRun own.label (labelFor autoConfigDashboard (some value))).filter
        fun ad => ad.dashboardUid = createDashboardUid md5 testRun autoConfigDashboard
            (setOfValue separate discovered value) &&
          (truthy testRun.organizationId).all fun org => ad.organizationId.all (· = org) :=
  applicationDashboardsFor_eq hown.label_ne (resolveDashboardLabel_setOfValue hseparate)
    labelFor_some_ne_nil

omit hseparate hown in
/-- The values of a dashboard that was stored for a value are all there are. -/
theorem covers_buildVariables : Covers
    (buildVariablesForSeparateDashboard testRun autoConfigDashboard
      (setOfValue separate discovered value) separate value)
    (replaceHardcodedValuesForVariables (setOfValue separate discovered value)
      autoConfigDashboard.setHardcodedValueForVariables) := by
  intro name values hvalues
  rw [valuesOf_replaceHardcodedValuesForVariables] at hvalues
  rw [valuesOf_buildVariablesForSeparateDashboard valuesOf_setOfValue_self, ← Option.or_assoc,
    hvalues]
  rfl

/-- The dashboard for a value is left as it is, but the template may be reused once more. -/
theorem step_of_hasValue (hnodup : (discovered.map DashboardVariable.name).Nodup)
    (hvalue : HasValue md5 testRun autoConfigDashboard own separate discovered w value)
    (h : Processed md5 testRun autoConfigDashboard own (setOfValue separate discovered value)
      w w') :
    w' = w ∧ w.applicationDashboardsFor md5 testRun autoConfigDashboard
        (setOfValue separate discovered value) own.label ≠ [] ∨
      autoConfigDashboard.readOnly = true ∧
      w.applicationDashboardsFor md5 testRun autoConfigDashboard
        (setOfValue separate discovered value) own.label = [] ∧
      Reused testRun autoConfigDashboard own w w' := by
  obtain ⟨ad, honly, hstored⟩ := hvalue
  have hsub : ∀ ad' ∈ w.applicationDashboardsFor md5 testRun autoConfigDashboard
      (setOfValue separate discovered value) own.label, ad' = ad := by
    intro ad' had'
    rw [applicationDashboardsFor_of_value hseparate hown, honly] at had'
    exact List.mem_singleton.1 (List.mem_filter.1 had').1
  -- A dashboard that is not the template is found by its uid.
  have hempty : w.applicationDashboardsFor md5 testRun autoConfigDashboard
      (setOfValue separate discovered value) own.label = [] →
        autoConfigDashboard.readOnly ≠ false := by
    intro hnil hreadOnly
    rw [applicationDashboardsFor_of_value hseparate hown, honly, List.filter_eq_nil_iff] at hnil
    have huid := hstored.uid
    rw [storedUid, hreadOnly, if_neg Bool.false_ne_true] at huid
    refine hnil ad (List.mem_singleton_self ad) ?_
    rw [Bool.and_eq_true]
    exact ⟨decide_eq_true huid, hstored.isSeen⟩
  cases h with
  | missing ad' rest happs _ heq =>
    refine .inl ⟨heq, ?_⟩
    rw [happs]
    exact List.cons_ne_nil _ _
  | existing ad' rest happs row hrows templateTags hstore =>
    obtain rfl := hsub ad' (by rw [happs]; exact List.mem_cons_self)
    refine .inl ⟨of_store_of_not_required (not_required_of_covers hstored.variableValues
      (nodup_replaceHardcodedValuesForVariables (nodup_setOfValue hnodup))
      covers_buildVariables) hstore, ?_⟩
    rw [happs]
    exact List.cons_ne_nil _ _
  | readOnly happs hreadOnly row row' hrows hrows' hstore =>
    refine .inr ⟨hreadOnly, happs, row, hrows, ?_⟩
    obtain ⟨dashboardTags, hcreate⟩ := of_store_of_value hseparate hstore
    refine of_createSeparate_of_exists hcreate ?_
    have halike : w.AlikeLinks (w.updateUsedBySut row.id testRun.sutName) := ⟨⟨rfl, rfl⟩, rfl⟩
    have hrow := (mem_dashboardsOf (hrows' ▸ List.mem_singleton_self row')).2.2
    have huid := hstored.uid
    rw [storedUid, if_pos hreadOnly] at huid
    have hlabel : autoConfigDashboard.dashboardName ++ " " ++ value =
        labelFor autoConfigDashboard (some value) := rfl
    rw [halike.applicationDashboardsOf, hlabel, applicationDashboardsOf_eq labelFor_some_ne_nil,
      honly]
    refine List.ne_nil_of_mem (a := ad)
      (List.mem_filter.2 ⟨List.mem_singleton_self ad, ?_⟩)
    rw [Bool.and_eq_true, huid, List.mem_singleton.1 hrow]
    exact ⟨decide_eq_true rfl, hstored.isSeen⟩
  | store happs hreadOnly => exact absurd hreadOnly (hempty happs)
  | create happs hreadOnly => exact absurd hreadOnly (hempty happs)

/-- Where there is none for a value, it is inserted if its dashboard is there, or that is
    created. -/
theorem step_of_no_value
    (hkept : Kept md5 testRun autoConfigDashboard own separate discovered w)
    (hnil : w.dashboardsWith testRun own.label (labelFor autoConfigDashboard (some value)) = [])
    (h : Processed md5 testRun autoConfigDashboard own (setOfValue separate discovered value)
      w w') :
    Inserted md5 testRun autoConfigDashboard own separate discovered value w w' ∨
      autoConfigDashboard.readOnly = false ∧
        Created own (createDashboardUid md5 testRun autoConfigDashboard
          (setOfValue separate discovered value)) w w' := by
  have hfound : w.applicationDashboardsFor md5 testRun autoConfigDashboard
      (setOfValue separate discovered value) own.label = [] := by
    rw [applicationDashboardsFor_of_value hseparate hown, hnil]
    rfl
  have hmissing : ∀ uid, w.applicationDashboardsOf testRun own.label uid
      (autoConfigDashboard.dashboardName ++ " " ++ value) = [] := by
    intro uid
    have hlabel : autoConfigDashboard.dashboardName ++ " " ++ value =
        labelFor autoConfigDashboard (some value) := rfl
    rw [hlabel, applicationDashboardsOf_eq labelFor_some_ne_nil, hnil]
    rfl
  cases h with
  | missing ad rest happs =>
    rw [hfound] at happs
    cases happs
  | existing ad rest happs =>
    rw [hfound] at happs
    cases happs
  | readOnly happs hreadOnly row row' hrows hrows' hstore =>
    have halike : w.AlikeLinks (w.updateUsedBySut row.id testRun.sutName) := ⟨⟨rfl, rfl⟩, rfl⟩
    obtain ⟨dashboardTags, hcreate⟩ := of_store_of_value hseparate hstore
    obtain ⟨data, hdata, hinsert⟩ := of_createSeparate_of_missing hcreate hown.label_ne
      ((halike.applicationDashboardsOf _ _ _).trans (hmissing _))
    have hrow := (mem_dashboardsOf (hrows' ▸ List.mem_singleton_self row')).2.2
    have huid : storedUid md5 testRun autoConfigDashboard separate discovered value = row'.uid := by
      rw [storedUid, if_pos hreadOnly, List.mem_singleton.1 hrow]
    refine .inl ⟨_, data, .inr ⟨hreadOnly, row, hrows, rfl⟩, ?_, hinsert⟩
    rw [huid]
    exact hdata
  | store happs hreadOnly row rest hrows templateTags hstore =>
    obtain ⟨dashboardTags, hcreate⟩ := of_store_of_value hseparate hstore
    obtain ⟨data, hdata, hinsert⟩ := of_createSeparate_of_missing hcreate hown.label_ne (hmissing _)
    have hmem : row ∈ w.dashboardsOf own.id [createDashboardUid md5 testRun autoConfigDashboard
        (setOfValue separate discovered value)] := hrows ▸ List.mem_cons_self
    have hrow := (mem_dashboardsOf hmem).2.2
    have huid : storedUid md5 testRun autoConfigDashboard separate discovered value =
        (truthy row.templateDashboardUid).getD row.uid := by
      rw [storedUid, hreadOnly, if_neg Bool.false_ne_true,
        hkept.noTemplate hreadOnly value row hmem, Option.getD_none, List.mem_singleton.1 hrow]
    refine .inl ⟨w, data, .inl rfl, ?_, hinsert⟩
    rw [huid]
    exact hdata
  | create happs hreadOnly hrows data hgrafana huid heq =>
    exact .inr ⟨hreadOnly, hrows, data, hgrafana, huid, heq⟩

/-- A set with a value keeps what there is, and brings its own dashboard on. -/
theorem step_of_value (hnodup : (discovered.map DashboardVariable.name).Nodup)
    (hkept : Kept md5 testRun autoConfigDashboard own separate discovered w)
    (h : Processed md5 testRun autoConfigDashboard own (setOfValue separate discovered value)
      w w') :
    w.Alike w' ∧ Kept md5 testRun autoConfigDashboard own separate discovered w' ∧
      Ready md5 testRun autoConfigDashboard own separate discovered w' value ∧
      (Ready md5 testRun autoConfigDashboard own separate discovered w value →
        HasValue md5 testRun autoConfigDashboard own separate discovered w' value) ∧
      ∀ value', (Ready md5 testRun autoConfigDashboard own separate discovered w value' →
          Ready md5 testRun autoConfigDashboard own separate discovered w' value') ∧
        (HasValue md5 testRun autoConfigDashboard own separate discovered w value' →
          HasValue md5 testRun autoConfigDashboard own separate discovered w' value') := by
  rcases hkept.values value with hnil | hvalue
  · rcases step_of_no_value hseparate hown hkept hnil h with hinserted | ⟨hreadOnly, hcreated⟩
    · obtain ⟨halike, hkept', hvalue', hrows, hstays⟩ := of_inserted hown hkept hinserted
      refine ⟨halike, hkept', .inr (.inr hvalue'), fun _ => hvalue', fun value' =>
        ⟨fun hready => ?_, hstays value'⟩⟩
      rcases hready with hreadOnly | hdashboard | hvalue
      · exact .inl hreadOnly
      · cases hreadOnly : autoConfigDashboard.readOnly with
        | true => exact .inl hreadOnly
        | false =>
          refine .inr (.inl ?_)
          rwa [World.dashboardsOf, hrows hreadOnly]
      · exact .inr (.inr (hstays value' hvalue))
    · refine ⟨hcreated.alikeLinks.1, hkept.created hcreated,
        .inr (.inl hcreated.dashboardsOf_ne_nil), fun hready => ?_, fun value' =>
          ⟨fun hready => ?_, fun hvalue => hvalue.alikeLinks hcreated.alikeLinks⟩⟩
      · -- A dashboard that is there is not created.
        rcases hready with hreadOnly' | hdashboard | ⟨ad, honly, -⟩
        · rw [hreadOnly] at hreadOnly'
          cases hreadOnly'
        · exact absurd hcreated.1 hdashboard
        · rw [hnil] at honly
          cases honly
      · rcases hready with hreadOnly | hdashboard | hvalue
        · exact .inl hreadOnly
        · exact .inr (.inl (hcreated.dashboardsOf_mono hdashboard))
        · exact .inr (.inr (hvalue.alikeLinks hcreated.alikeLinks))
  · rcases step_of_hasValue hseparate hown hnodup hvalue h with ⟨rfl, -⟩ | ⟨hreadOnly, -, hreused⟩
    · exact ⟨⟨rfl, rfl⟩, hkept, .inr (.inr hvalue), fun _ => hvalue, fun _ => ⟨id, id⟩⟩
    · exact ⟨hreused.alikeLinks.1, hkept.reused hreadOnly hreused, .inl hreadOnly,
        fun _ => hvalue.alikeLinks hreused.alikeLinks, fun value' =>
          ⟨fun _ => .inl hreadOnly, fun hvalue => hvalue.alikeLinks hreused.alikeLinks⟩⟩

/-! ## A set without a value -/

/-- Without a value, the template is reused, or a dashboard is created if it is not there. -/
theorem step_without_value (hname : autoConfigDashboard.dashboardName ≠ "")
    (hkept : Kept md5 testRun autoConfigDashboard own separate discovered w)
    (hnone : (valuesOf vars separate).getD [] = [])
    (h : Processed md5 testRun autoConfigDashboard own vars w w') :
    autoConfigDashboard.readOnly = true ∧ Reused testRun autoConfigDashboard own w w' ∨
      autoConfigDashboard.readOnly = false ∧
        (w' = w ∧ w.dashboardsOf own.id
            [createDashboardUid md5 testRun autoConfigDashboard vars] ≠ [] ∨
          Created own (createDashboardUid md5 testRun autoConfigDashboard vars) w w') := by
  have hfound : w.applicationDashboardsFor md5 testRun autoConfigDashboard vars own.label = [] := by
    rw [applicationDashboardsFor_eq hown.label_ne
      (resolveDashboardLabel_of_no_value hseparate hnone) hname, hkept.noOne]
    rfl
  cases h with
  | missing ad rest happs =>
    rw [hfound] at happs
    cases happs
  | existing ad rest happs =>
    rw [hfound] at happs
    cases happs
  | readOnly happs hreadOnly row row' hrows hrows' hstore =>
    exact .inl ⟨hreadOnly, row, hrows, of_store_of_no_value hseparate hnone hstore⟩
  | store happs hreadOnly row rest hrows templateTags hstore =>
    refine .inr ⟨hreadOnly, .inl ⟨of_store_of_no_value hseparate hnone hstore, ?_⟩⟩
    rw [hrows]
    exact List.cons_ne_nil _ _
  | create happs hreadOnly hrows data hgrafana huid heq =>
    exact .inr ⟨hreadOnly, .inr ⟨hrows, data, hgrafana, huid, heq⟩⟩

end

end Perfana.AutoConfig
