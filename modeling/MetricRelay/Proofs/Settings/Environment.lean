/-
The variables of the environment beside the rest of the settings.

Each variable is written into a section before anything is checked.  A section passes with its new
member if it passed before, and no setting but the member's own changes (`checkGeneral_put`,
`checkApi_put`, `checkCollection_put`); the other sections stay (`exists_override`).  So settings
that load without variables load with any (`load_of_unset`), and are the same but for what the
variables name.

There is one exception.  The section of the process may have one of two names, and the log level is
written under the first.  In a configuration that uses the second name this makes a new section,
which hides the one that was there, so its other settings fall back to their defaults
(`load_eq_overlay_iff`).
-/
import MetricRelay.Proofs.Assoc
import MetricRelay.Proofs.Except
import MetricRelay.Proofs.Settings.Check
import MetricRelay.Settings.Load

namespace MetricRelay.Settings

open Checked

section

variable {α : Type} {ms : List (String × Json)} {key key' : String} {v : Json}

theorem member?_put (ms : List (String × Json)) (key key' : String) (v : Json) :
    Json.member? (Assoc.put ms key v) key' =
      if key = key' then some v else Json.member? ms key' := by
  have hget : ∀ (ms : List (String × Json)) (key : String),
      Json.member? ms key = Assoc.get? ms key := by
    intro ms key
    induction ms with
    | nil => rfl
    | cons m ms ih =>
      rw [Assoc.get?_cons, ← ih, Json.member?, List.lookup_cons, BEq.comm]
      cases m.1 == key <;> rfl
  rw [hget, hget, Assoc.get?_put]

theorem optional_put_of_ne (h : key ≠ key') (d : α) (f : Json → Checked α) :
    optional (Assoc.put ms key v) key' d f = optional ms key' d f := by
  rw [Checked.optional, member?_put, if_neg h, Checked.optional]

/-- A member that is written anew has its new value, whatever it was before. -/
theorem carries_put {f : Json → Checked α} {a : α} (h : f v = valid a) (d : α) :
    Carries (fun _ a' => a' = a) (optional ms key d f) (optional (Assoc.put ms key v) key d f) := by
  intro _ _
  refine ⟨a, ?_, rfl⟩
  rw [Checked.optional, member?_put, if_pos rfl, below_eq_valid_iff]
  exact h

theorem Checked.Carries.eq_valid (f : α → α) {x x' : Checked α} {a : α}
    (h : Carries (fun a a' => a' = f a) x x') (ha : x = valid a) : x' = valid (f a) := by
  obtain ⟨_, h', rfl⟩ := h a ha
  exact h'

theorem checkGeneral_put {g : General} (h : checkGeneral (.object ms) = valid g) (level : String) :
    checkGeneral (.object (Assoc.put ms "log_level" (.text level))) =
      valid { g with logLevel := level } := by
  refine Carries.eq_valid (fun g => { g with logLevel := level }) ?_ h
  simp only [checkGeneral, model]
  simp (disch := decide) only [optional_put_of_ne]
  iterate 3 refine Carries.seq ?_ (Carries.refl _)
  refine (carries_put (f := checkText) rfl "INFO").map ?_
  rintro _ _ rfl _ _ rfl _ _ rfl _ _ rfl
  rfl

theorem checkApi_put {a : Api} (h : checkApi (.object ms) = valid a) (token : String) :
    checkApi (.object (Assoc.put ms "access_token" (.text token))) =
      valid { a with accessToken := some token } := by
  refine Carries.eq_valid (fun a => { a with accessToken := some token }) ?_ h
  simp only [checkApi, model]
  simp (disch := decide) only [optional_put_of_ne]
  refine Carries.seq ?_ (carries_put (f := orNull checkText) rfl none)
  iterate 2 refine Carries.seq ?_ (Carries.refl _)
  refine (Carries.refl _).map ?_
  rintro _ _ rfl _ _ rfl _ _ rfl _ _ rfl
  rfl

theorem checkCollection_put {c : Collection} (h : checkCollection (.object ms) = valid c)
    (project : String) :
    checkCollection (.object (Assoc.put ms "project_id" (.text project))) =
      valid { c with projectId := project } := by
  refine Carries.eq_valid (fun c => { c with projectId := project }) ?_ h
  simp only [checkCollection, model, member?_put]
  simp (disch := decide) only [optional_put_of_ne, if_neg]
  iterate 13 refine Carries.seq ?_ (Carries.refl _)
  refine (carries_put (f := checkText) rfl "").map ?_
  rintro _ _ rfl
  -- the other pieces have the same values on both sides
  iterate 13 rintro _ _ rfl
  rfl

/-- The value of a section; an absent one counts as empty. -/
def sectionOf (ms : List (String × Json)) (key : String) : Json :=
  (Json.member? ms key).getD (.object [])

theorem optional_eq_valid_iff {f : Json → Checked α} {d a : α} (h : f (.object []) = valid d) :
    optional ms key d f = valid a ↔ f (sectionOf ms key) = valid a := by
  rw [Checked.optional, below_eq_valid_iff, sectionOf]
  cases Json.member? ms key with
  | none => rw [Option.getD_none, h]; rfl
  | some v => rfl

theorem required_eq_valid_iff {f : Json → Checked α} {a : α} (h : f (.object []) ≠ valid a) :
    required ms key f = valid a ↔ f (sectionOf ms key) = valid a := by
  rw [required, below_eq_valid_iff, sectionOf]
  cases Json.member? ms key with
  | none => exact iff_of_false nofun h
  | some v => rfl

/-- The section of the process under the name that counts. -/
def generalSection (ms : List (String × Json)) : Json :=
  if (Json.member? ms "global").isSome then sectionOf ms "global" else sectionOf ms "global_"

/-- Settings pass exactly if each section does and a project is named. -/
theorem checkSettings_eq_valid_iff {s : Settings} :
    checkSettings ms = valid s ↔
      checkGeneral (generalSection ms) = valid s.general ∧
      checkExposure (sectionOf ms "exporter") = valid s.exposure ∧
      checkApi (sectionOf ms "api") = valid s.api ∧
      checkCollection (sectionOf ms "monitoring") = valid s.collection ∧
      s.collection.projectId ≠ "" := by
  have hgeneral : ∀ g, checkGeneralSection ms = valid g ↔
      checkGeneral (generalSection ms) = valid g := by
    intro g
    rw [checkGeneralSection, generalSection, sectionOf]
    cases Json.member? ms "global" with
    | none => exact optional_eq_valid_iff rfl
    | some v => exact below_eq_valid_iff
  have hexposure : ∀ e, optional ms "exporter" {} checkExposure = valid e ↔
      checkExposure (sectionOf ms "exporter") = valid e :=
    fun _ => optional_eq_valid_iff rfl
  have hapi : ∀ a, optional ms "api" {} checkApi = valid a ↔
      checkApi (sectionOf ms "api") = valid a :=
    fun _ => optional_eq_valid_iff rfl
  have hcollection : ∀ c, required ms "monitoring" checkCollection = valid c ↔
      checkCollection (sectionOf ms "monitoring") = valid c :=
    fun _ => required_eq_valid_iff nofun
  rw [checkSettings, andThen_eq_valid_iff]
  constructor
  · rintro ⟨s', hs', hproject⟩
    simp only [seq_eq_valid_iff, map_eq_valid_iff] at hs'
    obtain ⟨_, ⟨_, ⟨_, ⟨g, hg, rfl⟩, e, he, rfl⟩, a, ha, rfl⟩, c, hc, rfl⟩ := hs'
    split at hproject
    · cases hproject
    · next hnamed =>
      cases hproject
      exact ⟨(hgeneral g).mp hg, (hexposure e).mp he, (hapi a).mp ha, (hcollection c).mp hc,
        by simpa using hnamed⟩
  · rintro ⟨hg, he, ha, hc, hnamed⟩
    refine ⟨s, ?_, if_neg (by simpa using hnamed)⟩
    rw [(hgeneral _).mpr hg, (hexposure _).mpr he, (hapi _).mpr ha, (hcollection _).mpr hc]
    rfl

/-- Writing a member into a section gives the section the settings that the member makes of it, and
leaves the other sections alone. -/
theorem exists_override {check : Json → Checked α} {set : String → α → α} {a : α}
    (hobject : ∃ f, check = model f)
    (hput : ∀ inner a text, check (.object inner) = valid a →
      check (.object (Assoc.put inner key' (.text text))) = valid (set text a))
    (h : check (sectionOf ms key) = valid a) (value : String) :
    ∃ ms', override key key' value (.object ms) = .ok (.object ms') ∧
      check (sectionOf ms' key) = valid (if value = "" then a else set value a) ∧
      ((Json.member? ms' key).isSome ↔ value ≠ "" ∨ (Json.member? ms key).isSome) ∧
      ∀ other, key ≠ other → Json.member? ms' other = Json.member? ms other := by
  by_cases hvalue : value = ""
  · rw [hvalue, if_pos rfl]
    exact ⟨ms, rfl, h, by simp, fun _ _ => rfl⟩
  · -- a section that passes is an object
    obtain ⟨inner, hinner⟩ : ∃ inner, sectionOf ms key = .object inner := by
      obtain ⟨f, rfl⟩ := hobject
      cases hs : sectionOf ms key with
      | object inner => exact ⟨inner, rfl⟩
      | _ => rw [hs] at h; cases h
    rw [hinner] at h
    have hself := member?_put ms key key (.object (Assoc.put inner key' (.text value)))
    rw [if_pos rfl] at hself
    refine ⟨Assoc.put ms key (.object (Assoc.put inner key' (.text value))), ?_, ?_, ?_, ?_⟩
    · rw [override, if_neg (by simpa using hvalue)]
      rw [sectionOf] at hinner
      simp only [hinner]
    · rw [sectionOf, hself, if_neg hvalue]
      exact hput inner a value h
    · simp [hself, hvalue]
    · intro other hother
      rw [member?_put, if_neg hother]

theorem sectionOf_congr {ms' : List (String × Json)}
    (h : Json.member? ms' key = Json.member? ms key) : sectionOf ms' key = sectionOf ms key := by
  rw [sectionOf, h, sectionOf]

theorem generalSection_of_isSome (h : (Json.member? ms "global").isSome) :
    generalSection ms = sectionOf ms "global" :=
  if_pos h

/-- The settings of the process after a log level is written into the section `global`, which a
configuration may have or not. -/
def General.after (g : General) (level : String) (hasGlobal : Bool) : General :=
  if level = "" then g
  else if hasGlobal then { g with logLevel := level }
  else { logLevel := level }

/-- No other setting of the process changes if nothing is written, or the section is there already,
or the others are the defaults. -/
theorem General.after_eq_iff {g : General} {level : String} {hasGlobal : Bool} :
    g.after level hasGlobal = (if level = "" then g else { g with logLevel := level }) ↔
      level = "" ∨ hasGlobal ∨ g = { logLevel := g.logLevel } := by
  obtain ⟨l, format, enabled, port⟩ := g
  by_cases hlevel : level = "" <;> cases hasGlobal <;> simp [General.after, hlevel, eq_comm]

theorem General.logLevel_after (g : General) (level : String) (hasGlobal : Bool) :
    (g.after level hasGlobal).logLevel =
      (if level = "" then g else { g with logLevel := level }).logLevel := by
  rw [General.after]
  split
  · rfl
  · cases hasGlobal <;> rfl

/-- The log level leaves the other settings of the process alone if they are in the section that it
is written into; otherwise they fall back to their defaults. -/
theorem exists_override_general {g : General} (h : checkGeneral (generalSection ms) = valid g)
    (level : String) :
    ∃ ms', override "global" "log_level" level (.object ms) = .ok (.object ms') ∧
      checkGeneral (generalSection ms') =
        valid (g.after level (Json.member? ms "global").isSome) ∧
      ∀ other, "global" ≠ other → Json.member? ms' other = Json.member? ms other := by
  have hobject : ∃ f, checkGeneral = model f := ⟨_, rfl⟩
  by_cases hglobal : (Json.member? ms "global").isSome
  · rw [generalSection_of_isSome hglobal] at h
    obtain ⟨ms', hms', hg, hsome, hothers⟩ :=
      exists_override hobject (fun _ _ level hpass => checkGeneral_put hpass level) h level
    refine ⟨ms', hms', ?_, hothers⟩
    rw [generalSection_of_isSome (hsome.mpr (Or.inr hglobal)), hg, General.after, if_pos hglobal]
  · have hempty : sectionOf ms "global" = .object [] := by
      rw [sectionOf, Option.not_isSome_iff_eq_none.mp hglobal, Option.getD_none]
    have hdefault : checkGeneral (sectionOf ms "global") = valid {} := by
      rw [hempty]
      rfl
    obtain ⟨ms', hms', hg, hsome, hothers⟩ :=
      exists_override hobject (fun _ _ level hpass => checkGeneral_put hpass level) hdefault level
    refine ⟨ms', hms', ?_, hothers⟩
    by_cases hlevel : level = ""
    · -- nothing was written, so the section under the other name still counts
      have hglobal' : ¬(Json.member? ms' "global").isSome := by simp [hsome, hlevel, hglobal]
      rw [generalSection, if_neg hglobal, sectionOf] at h
      rw [generalSection, if_neg hglobal', sectionOf, hothers "global_" (by decide), h,
        General.after, if_pos hlevel]
    · rw [generalSection_of_isSome (hsome.mpr (Or.inl hlevel)), hg, General.after, if_neg hlevel,
        if_neg hlevel, if_neg hglobal]

end

/-- Settings in which the variables of an environment change what they name and nothing else. -/
def Environment.overlay (env : Environment) (s : Settings) : Settings :=
  { general := if env.logLevel = "" then s.general else { s.general with logLevel := env.logLevel }
    exposure := s.exposure
    api :=
      if env.accessToken = "" then s.api
      else { s.api with accessToken := some env.accessToken }
    collection :=
      if env.projectId = "" then s.collection
      else { s.collection with projectId := env.projectId } }

/-- The sections of a configuration. -/
def sections : Json → List (String × Json)
  | .object ms => ms
  | _ => []

/-- What loads is an object, and its members pass. -/
theorem load_eq_ok_iff {env : Environment} {config : Json} {s : Settings} :
    load env config = .ok s ↔ ∃ ms, applyEnvironment env (Json.orEmpty (some config)) =
      .ok (.object ms) ∧ checkSettings ms = valid s := by
  rw [load, Except.bind_eq_ok_iff]
  constructor
  · rintro ⟨root, hroot, h⟩
    cases root with
    | object ms =>
      refine ⟨ms, hroot, ?_⟩
      cases hms : checkSettings ms <;> simp_all
    | _ => cases h
  · rintro ⟨ms, hroot, h⟩
    exact ⟨.object ms, hroot, by simp only [h]⟩

theorem sections_eq {config : Json} {ms : List (String × Json)}
    (h : Json.orEmpty (some config) = .object ms) : sections config = ms := by
  simp only [Json.orEmpty] at h
  split at h
  · cases config <;> simp_all [sections, Json.isVacant]
  · rw [h, sections]

/-- Settings that pass do so with any variables. -/
theorem exists_applyEnvironment {ms : List (String × Json)} {s : Settings} (env : Environment)
    (h : checkSettings ms = valid s) :
    ∃ ms', applyEnvironment env (.object ms) = .ok (.object ms') ∧
      checkSettings ms' = valid { env.overlay s with
        general := s.general.after env.logLevel (Json.member? ms "global").isSome } := by
  obtain ⟨hg, he, ha, hc, hnamed⟩ := checkSettings_eq_valid_iff.mp h
  have hcollection : ∃ f, checkCollection = model f := ⟨_, rfl⟩
  have hapi : ∃ f, checkApi = model f := ⟨_, rfl⟩
  obtain ⟨ms₁, hms₁, hc₁, -, h₁⟩ := exists_override hcollection
    (fun _ _ project hpass => checkCollection_put hpass project) hc env.projectId
  rw [← sectionOf_congr (h₁ "api" (by decide))] at ha
  obtain ⟨ms₂, hms₂, ha₂, -, h₂⟩ := exists_override hapi
    (fun _ _ token hpass => checkApi_put hpass token) ha env.accessToken
  -- the section of the process is the same after these two, under either of its names
  have hglobal : Json.member? ms₂ "global" = Json.member? ms "global" :=
    (h₂ "global" (by decide)).trans (h₁ "global" (by decide))
  have hother : Json.member? ms₂ "global_" = Json.member? ms "global_" :=
    (h₂ "global_" (by decide)).trans (h₁ "global_" (by decide))
  rw [generalSection, ← hglobal, ← sectionOf_congr hglobal, ← sectionOf_congr hother] at hg
  obtain ⟨ms₃, hms₃, hg₃, h₃⟩ := exists_override_general hg env.logLevel
  refine ⟨ms₃, ?_, checkSettings_eq_valid_iff.mpr ⟨?_, ?_, ?_, ?_, ?_⟩⟩
  · rw [applyEnvironment, hms₁]
    show (override _ _ _ _ >>= fun root => _) = _
    rw [hms₂]
    exact hms₃
  · rw [hg₃, hglobal, General.after]
  · rw [sectionOf_congr (h₃ "exporter" (by decide)), sectionOf_congr (h₂ "exporter" (by decide)),
      sectionOf_congr (h₁ "exporter" (by decide)), he, Environment.overlay]
  · rw [sectionOf_congr (h₃ "api" (by decide)), ha₂, Environment.overlay]
  · rw [sectionOf_congr (h₃ "monitoring" (by decide)),
      sectionOf_congr (h₂ "monitoring" (by decide)), hc₁, Environment.overlay]
  · simp only [Environment.overlay]
    split
    · exact hnamed
    · assumption

/-- Settings that load without variables load with any. -/
theorem load_of_unset {config : Json} {s : Settings} (env : Environment)
    (h : load {} config = .ok s) :
    load env config = .ok { env.overlay s with
      general :=
        s.general.after env.logLevel (Json.member? (sections config) "global").isSome } := by
  obtain ⟨ms, hms, hs⟩ := load_eq_ok_iff.mp h
  have hroot : Json.orEmpty (some config) = .object ms := by
    simpa [applyEnvironment, override, pure, bind, Except.bind] using hms
  rw [sections_eq hroot, load_eq_ok_iff, hroot]
  exact exists_applyEnvironment env hs

/-- Settings that load without variables load with any, and a variable changes what it names and
nothing else, but for one case: the log level resets all other settings of the process if the
configuration has no section `global` for it, has these settings under the other name, and they are
not the defaults. -/
theorem load_eq_overlay_iff {config : Json} {s : Settings} (env : Environment)
    (h : load {} config = .ok s) :
    ∃ s', load env config = .ok s' ∧
      s'.exposure = s.exposure ∧
      s'.api = (env.overlay s).api ∧
      s'.collection = (env.overlay s).collection ∧
      s'.general.logLevel = (env.overlay s).general.logLevel ∧
      (s' = env.overlay s ↔
        env.logLevel = "" ∨ (Json.member? (sections config) "global").isSome ∨
          s.general = { logLevel := s.general.logLevel }) ∧
      (s' ≠ env.overlay s → s'.general = { logLevel := env.logLevel }) := by
  refine ⟨_, load_of_unset env h, rfl, rfl, rfl, ?_⟩
  have hsame : ∀ g, { env.overlay s with general := g } = env.overlay s ↔
      g = (env.overlay s).general := by
    intro g
    constructor
    · intro h
      rw [← h]
    · rintro rfl
      rfl
  refine ⟨General.logLevel_after _ _ _, (hsame _).trans General.after_eq_iff, fun hreset => ?_⟩
  rw [ne_eq, hsame, Environment.overlay, General.after_eq_iff, not_or, not_or] at hreset
  rw [General.after, if_neg hreset.1, if_neg hreset.2.1]

/-- A configuration whose section of the process has its other name. -/
def hiddenConfig : Json :=
  .object
    [("global_", .object [("control_api_port", .int 9000)]),
      ("monitoring", .object
        [("project_id", .text "p"), ("metrics_prefixes", .list [.text "jobs/"])])]

/-- The settings of that configuration. -/
def hiddenSettings : Settings where
  general := { controlPortNumber := 9000 }
  exposure := {}
  api := {}
  collection := { projectId := "p", prefixes := ["jobs/"] }

theorem load_hiddenConfig : load {} hiddenConfig = .ok hiddenSettings := by
  have hminimal : minimalPrefixes ["jobs/"] = ["jobs/"] := by
    rw [minimalPrefixes, List.mergeSort_singleton]
    rfl
  have hload : load {} hiddenConfig = .ok { hiddenSettings with
      collection := { projectId := "p", prefixes := minimalPrefixes ["jobs/"] } } := rfl
  rw [hload, hminimal]
  rfl

theorem load_eq_overlay_iff_hiddenConfig :
    load {} hiddenConfig = .ok hiddenSettings ∧
      ∃ s', load ⟨"q", "key", "DEBUG"⟩ hiddenConfig = .ok s' ∧
        s'.api.accessToken = some "key" ∧ s'.collection.projectId = "q" ∧
        s'.general.logLevel = "DEBUG" ∧ s'.general.controlPortNumber = 8081 := by
  obtain ⟨s', hload, -, hapi, hcollection, hlevel, hiff, hreset⟩ :=
    load_eq_overlay_iff ⟨"q", "key", "DEBUG"⟩ load_hiddenConfig
  have hdiffers : s' ≠ Environment.overlay ⟨"q", "key", "DEBUG"⟩ hiddenSettings := by
    rw [ne_eq, hiff]
    simp [hiddenConfig, hiddenSettings, sections, Json.member?]
  refine ⟨load_hiddenConfig, s', hload, ?_, ?_, hlevel, ?_⟩
  · rw [hapi]
    rfl
  · rw [hcollection]
    rfl
  · rw [hreset hdiffers]

/-- The log level alone resets the port of the control server. -/
theorem not_load_eq_overlay :
    ¬∀ (env : Environment) (config : Json) (s s' : Settings), load {} config = .ok s →
      load env config = .ok s' → s' = env.overlay s := by
  intro h
  have hreset := load_of_unset { logLevel := "DEBUG" } load_hiddenConfig
  have hport := congrArg (fun s : Settings => s.general.controlPortNumber)
    (h _ _ _ _ load_hiddenConfig hreset)
  exact absurd hport (by decide)

end MetricRelay.Settings
