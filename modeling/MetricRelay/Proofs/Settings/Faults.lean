/-
The faults of loading settings.

Whatever is wrong with a configuration that is checked is told as one kind of fault, a failed
validation (`LoadFault.IsValidation`).  The variables of the environment are written before anything
is checked: a variable that is set needs a configuration that is an object, with an object or
nothing for the variable's section (`Environment.Fits`).  What stands in its way is told as another
kind of fault (`LoadFault.IsObstacle`).

* `exists_applyEnvironment_eq_ok_iff` — when the variables can be written;
* `isValidation_load_iff` — every fault is a failed validation exactly in this case.
-/
import MetricRelay.Proofs.Settings.Environment

namespace MetricRelay.Settings

open Checked

/-- A fault that is told as a failed validation. -/
def LoadFault.IsValidation (fault : LoadFault) : Prop :=
  ∃ detail, fault.message = LoadFault.message.failed ++ detail

/-- A fault that tells what stands in the way of a variable. -/
def LoadFault.IsObstacle (fault : LoadFault) : Prop :=
  ∃ shape, fault = .rootNotObject shape ∨ fault = .sectionNotObject shape

/-! ### Two kinds of fault -/

theorem head?_toList_append {s : String} {c : Char} (h : s.toList.head? = some c) (t : String) :
    (s ++ t).toList.head? = some c := by
  rw [String.toList_append, List.head?_append, h, Option.some_or]

/-- The texts about the two kinds of fault differ in their first letters. -/
theorem LoadFault.IsObstacle.not_isValidation {fault : LoadFault} (h : fault.IsObstacle) :
    ¬fault.IsValidation := by
  rintro ⟨detail, hdetail⟩
  have hfailed : fault.message.toList.head? = some 'C' :=
    hdetail ▸ head?_toList_append rfl detail
  have hquoted : ∀ name rest : String, ("'" ++ name ++ rest).toList.head? = some '\'' :=
    fun name rest => head?_toList_append (head?_toList_append rfl name) rest
  obtain ⟨shape, rfl | rfl⟩ := h
  · rw [show (rootNotObject shape).message
      = "'" ++ shape ++ "' object has no attribute 'setdefault'" from rfl, hquoted] at hfailed
    exact absurd hfailed (by decide)
  · rw [show (sectionNotObject shape).message
      = if shape = "list" then "list indices must be integers or slices, not str"
        else "'" ++ shape ++ "' object does not support item assignment" from rfl] at hfailed
    split at hfailed
    · exact absurd hfailed (by decide)
    · rw [hquoted] at hfailed
      exact absurd hfailed (by decide)

theorem LoadFault.isValidation_notMapping (shape : String) : (notMapping shape).IsValidation := by
  refine ⟨"gcm_exporter.config.Config() argument after ** must be a mapping, not " ++ shape, ?_⟩
  rw [← String.append_assoc]
  rfl

theorem LoadFault.isValidation_invalid (ps : List Problem) : (invalid ps).IsValidation := by
  refine ⟨toString ps.length ++
    (if ps.length = 1 then " validation error" else " validation errors") ++ " for Config", ?_⟩
  rw [← String.append_assoc, ← String.append_assoc]
  rfl

theorem LoadFault.isValidation_crashed (c : Crash) : (crashed c).IsValidation := by
  cases c with
  | notIterable shape =>
    refine ⟨"'" ++ shape ++ "' object is not iterable", ?_⟩
    rw [← String.append_assoc, ← String.append_assoc]
    rfl
  | span fault => exact ⟨spanFaultText fault, rfl⟩

/-! ### Room for the variables -/

/-- An object with an object, or nothing, for a section. -/
def HasRoom (root : Json) (key : String) : Prop :=
  ∃ ms inner, root = .object ms ∧ sectionOf ms key = .object inner

/-- Every variable that is set can be written into its section. -/
structure Environment.Fits (env : Environment) (root : Json) : Prop where
  projectId : env.projectId ≠ "" → HasRoom root "monitoring"
  accessToken : env.accessToken ≠ "" → HasRoom root "api"
  logLevel : env.logLevel ≠ "" → HasRoom root "global"

section

variable {key name value : String} {root root' : Json}

/-- What writing a variable does: nothing if it is unset, the new member if there is room for it,
and else it fails. -/
theorem override_cases (key name value : String) (root : Json) :
    (value = "" ∧ override key name value root = .ok root) ∨
    (value ≠ "" ∧ ∃ ms inner, root = .object ms ∧ sectionOf ms key = .object inner ∧
      override key name value root =
        .ok (.object (Assoc.put ms key (.object (Assoc.put inner name (.text value)))))) ∨
    (value ≠ "" ∧ ¬HasRoom root key ∧
      ∃ fault, override key name value root = .error fault ∧ fault.IsObstacle) := by
  by_cases hvalue : value = ""
  · exact Or.inl ⟨hvalue, by simp [override, hvalue]⟩
  have hset : ¬value.isEmpty = true := by simpa using hvalue
  refine Or.inr ?_
  cases root with
  | object ms =>
    rw [override, if_neg hset]
    cases hsection : sectionOf ms key with
    | object inner =>
      rw [sectionOf] at hsection
      refine Or.inl ⟨hvalue, ms, inner, rfl, hsection, ?_⟩
      rw [hsection]
    | _ =>
      refine Or.inr ⟨hvalue, ?_, ?_⟩
      · rintro ⟨_, inner, ⟨⟩, hinner⟩
        rw [hinner] at hsection
        cases hsection
      · rw [sectionOf] at hsection
        rw [hsection]
        exact ⟨_, rfl, _, Or.inr rfl⟩
  | _ =>
    refine Or.inr ⟨hvalue, ?_, _, if_neg hset, _, Or.inl rfl⟩
    rintro ⟨ms, inner, hroot, -⟩
    cases hroot

theorem exists_override_eq_ok_iff :
    (∃ root', override key name value root = .ok root') ↔ (value ≠ "" → HasRoom root key) := by
  rcases override_cases key name value root with
    ⟨hvalue, h⟩ | ⟨hvalue, ms, inner, hms, hinner, h⟩ | ⟨hvalue, hnone, fault, h, -⟩
  · exact iff_of_true ⟨_, h⟩ fun hset => absurd hvalue hset
  · exact iff_of_true ⟨_, h⟩ fun _ => ⟨ms, inner, hms, hinner⟩
  · refine iff_of_false (fun ⟨_, hok⟩ => ?_) fun hroom => hnone (hroom hvalue)
    rw [h] at hok
    cases hok

theorem isObstacle_of_override {fault : LoadFault}
    (h : override key name value root = .error fault) : fault.IsObstacle := by
  rcases override_cases key name value root with
    ⟨-, h'⟩ | ⟨-, _, _, -, -, h'⟩ | ⟨-, -, fault', h', hobstacle⟩
  · rw [h'] at h
    cases h
  · rw [h'] at h
    cases h
  · obtain rfl := Except.error.inj (h.symm.trans h')
    exact hobstacle

/-- The other sections have the room that they had before. -/
theorem hasRoom_override {other : String} (h : override key name value root = .ok root')
    (hne : key ≠ other) : HasRoom root' other ↔ HasRoom root other := by
  rcases override_cases key name value root with
    ⟨-, h'⟩ | ⟨-, ms, inner, rfl, -, h'⟩ | ⟨-, -, fault, h', -⟩
  · rw [Except.ok.inj (h.symm.trans h')]
  · obtain rfl := Except.ok.inj (h.symm.trans h')
    have hsection : ∀ v, sectionOf (Assoc.put ms key v) other = sectionOf ms other := fun v =>
      sectionOf_congr (by rw [member?_put, if_neg hne])
    constructor
    · rintro ⟨_, inner', ⟨⟩, hinner'⟩
      exact ⟨ms, inner', rfl, (hsection _).symm.trans hinner'⟩
    · rintro ⟨_, inner', ⟨⟩, hinner'⟩
      exact ⟨_, inner', rfl, (hsection _).trans hinner'⟩
  · rw [h'] at h
    cases h

end

/-- The variables can be written exactly if each one that is set has room. -/
theorem exists_applyEnvironment_eq_ok_iff {env : Environment} {root : Json} :
    (∃ root', applyEnvironment env root = .ok root') ↔ env.Fits root := by
  simp only [applyEnvironment, Except.bind_eq_ok_iff]
  constructor
  · rintro ⟨root₃, root₁, h₁, root₂, h₂, h₃⟩
    -- a section that is written later has the room that it had at first
    refine ⟨exists_override_eq_ok_iff.mp ⟨root₁, h₁⟩, fun hset => ?_, fun hset => ?_⟩
    · exact (hasRoom_override h₁ (by decide)).mp (exists_override_eq_ok_iff.mp ⟨root₂, h₂⟩ hset)
    · exact (hasRoom_override h₁ (by decide)).mp ((hasRoom_override h₂ (by decide)).mp
        (exists_override_eq_ok_iff.mp ⟨root₃, h₃⟩ hset))
  · intro hfits
    obtain ⟨root₁, h₁⟩ := exists_override_eq_ok_iff.mpr hfits.projectId
    obtain ⟨root₂, h₂⟩ := exists_override_eq_ok_iff.mpr fun hset =>
      (hasRoom_override h₁ (by decide)).mpr (hfits.accessToken hset)
    obtain ⟨root₃, h₃⟩ := exists_override_eq_ok_iff.mpr fun hset =>
      (hasRoom_override h₂ (by decide)).mpr
        ((hasRoom_override h₁ (by decide)).mpr (hfits.logLevel hset))
    exact ⟨root₃, root₁, h₁, root₂, h₂, h₃⟩

theorem isObstacle_of_applyEnvironment {env : Environment} {root : Json} {fault : LoadFault}
    (h : applyEnvironment env root = .error fault) : fault.IsObstacle := by
  simp only [applyEnvironment, Except.bind_eq_error_iff] at h
  obtain h | ⟨_, -, h | ⟨_, -, h⟩⟩ := h <;> exact isObstacle_of_override h

/-! ### Loading -/

/-- What is checked passes, or it is told as a failed validation. -/
theorem isValidation_of_applyEnvironment {env : Environment} {config root : Json}
    {fault : LoadFault} (hroot : applyEnvironment env (Json.orEmpty (some config)) = .ok root)
    (h : load env config = .error fault) : fault.IsValidation := by
  simp only [load, hroot, bind, Except.bind] at h
  cases root with
  | object ms =>
    cases hms : checkSettings ms <;> simp only [hms] at h <;> cases h
    · exact LoadFault.isValidation_invalid _
    · exact LoadFault.isValidation_crashed _
  | _ =>
    cases h
    exact LoadFault.isValidation_notMapping _

/-- **The faults of loading.**  Every fault of loading is a failed validation exactly if each
variable that is set can be written into its section; otherwise the configuration or a section is
told to be no object. -/
theorem isValidation_load_iff (env : Environment) (config : Json) :
    ((∀ fault, load env config = .error fault → fault.IsValidation) ↔
      env.Fits (Json.orEmpty (some config))) ∧
    (¬env.Fits (Json.orEmpty (some config)) →
      ∃ fault, load env config = .error fault ∧ fault.IsObstacle) := by
  rw [← exists_applyEnvironment_eq_ok_iff]
  cases hroot : applyEnvironment env (Json.orEmpty (some config)) with
  | ok root =>
    exact ⟨iff_of_true (fun _ => isValidation_of_applyEnvironment hroot) ⟨root, rfl⟩,
      fun h => absurd ⟨root, rfl⟩ h⟩
  | error fault =>
    have hload : load env config = .error fault := by
      rw [load, hroot]
      rfl
    have hobstacle := isObstacle_of_applyEnvironment hroot
    have hnone : ¬∃ root, (Except.error fault : Except LoadFault Json) = .ok root := by
      rintro ⟨root, ⟨⟩⟩
    exact ⟨iff_of_false (fun h => hobstacle.not_isValidation (h fault hload)) hnone,
      fun _ => ⟨fault, hload, hobstacle⟩⟩

/-- An empty section stands in the way of a variable. -/
theorem not_isValidation_load :
    ¬∀ (env : Environment) (config : Json) (fault : LoadFault),
      load env config = .error fault → fault.IsValidation := by
  intro h
  have hload : load { projectId := "p" } (.object [("monitoring", .null)])
      = .error (.sectionNotObject "NoneType") := rfl
  have hobstacle : (LoadFault.sectionNotObject "NoneType").IsObstacle := ⟨_, Or.inr rfl⟩
  exact hobstacle.not_isValidation (h _ _ _ hload)

end MetricRelay.Settings
