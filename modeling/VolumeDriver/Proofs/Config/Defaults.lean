import Mathlib.Data.List.Find
import VolumeDriver.Proofs.Config.Loaded
import VolumeDriver.Proofs.Flow.Events
set_option autoImplicit false

/-! # Defaults touch what is empty and nothing else

What a configuration says is never replaced. What it leaves empty, `Config.applyDefaults` fills in from the
instance's metadata, which is asked for only then; and if that cannot be had, nothing at all is changed.
What `fillFrom` fills in once is filled in for good, even where the metadata itself says only part of it.
None of this is what `validate` looks at. `Conservative` says all of it. -/

namespace VolumeDriver.Config

/-- Where the cluster is, is not said in full: `region`, `regionKey` or `compartment` is empty. -/
def LeavesOpen (c : Config) : Prop :=
  c.auth.region = "" ∨ c.auth.regionKey = "" ∨ c.auth.compartment = ""

instance (c : Config) : Decidable c.LeavesOpen :=
  inferInstanceAs (Decidable (_ ∨ _))

theorem needsMetadata_iff {c : Config} : c.needsMetadata = true ↔ c.LeavesOpen := by
  simp [needsMetadata, LeavesOpen, or_assoc]

/-! ## Filling in again -/

@[simp] theorem orElse_orElse (text other : String) :
    orElse (orElse text other) other = orElse text other := by
  unfold orElse
  by_cases htext : text = ""
  · simp [htext]
  · simp [htext]

/-- What `fillFrom` fills in from some metadata stays when `fillFrom` is given the same metadata again, with
    `migratePassphrase` after each of the two. -/
theorem fillFrom_again (c : Config) (m : Metadata) :
    ((c.fillFrom m).migratePassphrase.fillFrom m).migratePassphrase =
      (c.fillFrom m).migratePassphrase := by
  simp [fillFrom, migratePassphrase]

/-- The passphrase is moved once: a second `migratePassphrase` changes nothing. -/
theorem migratePassphrase_again (c : Config) : c.migratePassphrase.migratePassphrase = c.migratePassphrase := by
  simp [migratePassphrase]

/-- Where the cluster is has nothing to do with what `migratePassphrase` moves. -/
theorem leavesOpen_migratePassphrase {c : Config} : c.migratePassphrase.LeavesOpen ↔ c.LeavesOpen :=
  Iff.rfl

/-! ## Checks -/

/-- The checks of `validate` come to the same where the fields that they look at are the same, those of
    `vcnField` and `credentialFields`. -/
theorem validate_congr {c c' : Config} {path : String}
    (huser : c'.useInstancePrincipals = c.useInstancePrincipals)
    (hvalue : ∀ field ∈ vcnField :: credentialFields, field.value c'.auth = field.value c.auth) :
    c'.validate path = c.validate path := by
  have hfields : c'.requiredFields = c.requiredFields := by
    unfold requiredFields
    rw [huser]
  have hsubset : ∀ field ∈ c.requiredFields, field ∈ vcnField :: credentialFields := by
    unfold requiredFields
    split
    · intro field hfield
      exact List.mem_cons.2 (.inl (List.mem_singleton.1 hfield))
    · exact fun field hfield => hfield
  have hfind : (c.requiredFields.find? fun field => Blank.isBlankText (field.value c'.auth)) =
      c.requiredFields.find? fun field => Blank.isBlankText (field.value c.auth) := by
    refine List.find?_congr fun field hfield => ?_
    rw [hvalue field (hsubset field hfield)]
  rw [validate, validate, hfields, hfind]

theorem validate_fillFrom (c : Config) (m : Metadata) (path : String) :
    (c.fillFrom m).validate path = c.validate path :=
  validate_congr rfl (by simp [vcnField, credentialFields, fillFrom])

theorem validate_migratePassphrase (c : Config) (path : String) :
    c.migratePassphrase.validate path = c.validate path :=
  validate_congr rfl (by simp [vcnField, credentialFields, migratePassphrase])

/-! ## Defaults -/

section

variable {σ : Type} (answer : (action : signature.Action) → σ → signature.Answer action × σ)

/-- The flow that fills in what a configuration leaves empty: `applyDefaults`, with the metadata fetched by
    `Action.fetchMetadata`. -/
def defaults (c : Config) : Flow signature (Except Fault Unit × Config) :=
  applyDefaults (Flow.perform (S := signature) .fetchMetadata) c

/-- What `defaults` comes to, the configuration afterwards, and the state of what answers. -/
def defaulted (c : Config) (s : σ) : (Except Fault Unit × Config) × σ :=
  (defaults c).run answer s

/-- What filling in the defaults of a configuration comes to, as `defaulted` has it: what is asked, what is
    kept on failure, where each field comes from, and that neither a second time nor `validate` sees a
    difference. -/
structure Conservative (c : Config) (s : σ) : Prop where
  /-- The metadata is asked for once or not at all. -/
  asks : (defaults c).events answer s =
    if c.LeavesOpen then [⟨Action.fetchMetadata, (fetched answer s).1⟩] else []
  /-- If it cannot be had, this is reported and all stays as it is. -/
  fails : c.LeavesOpen → ∀ fault, (fetched answer s).1 = .error fault →
    defaulted answer c s = ((.error (.metadata fault), c), (fetched answer s).2)
  /-- If it can be had, what is empty is filled in, and nothing else is changed. -/
  fills : c.LeavesOpen → ∀ metadata, (fetched answer s).1 = .ok metadata →
    defaulted answer c s = ((.ok (), { c with auth := { c.auth with
      region := if c.auth.region = "" then metadata.region else c.auth.region
      regionKey := if c.auth.regionKey = "" then metadata.regionKey else c.auth.regionKey
      compartment := if c.auth.compartment = "" then metadata.compartmentId else c.auth.compartment
      passphrase := if c.auth.passphrase = "" then c.auth.keyPassphrase else c.auth.passphrase } }),
      (fetched answer s).2)
  /-- If it is not needed, the passphrase is all that may be filled in. -/
  keeps : ¬c.LeavesOpen →
    defaulted answer c s = ((.ok (), { c with auth := { c.auth with
      passphrase := if c.auth.passphrase = "" then c.auth.keyPassphrase else c.auth.passphrase } }), s)
  /-- A second time comes to the same, if what is then asked for again is answered as before. -/
  again : ∀ result c' s', defaulted answer c s = ((result, c'), s') →
    (c'.LeavesOpen → (fetched answer s').1 = (fetched answer s).1) →
      (defaulted answer c' s').1 = (result, c')
  /-- The checks come to the same before and after, down to the field that is reported. -/
  checks : ∀ path, (defaulted answer c s).1.2.validate path = c.validate path

variable {answer}

theorem defaulted_error {c : Config} {s : σ} (h : c.LeavesOpen) {fault : Metadata.Fault}
    (hfetched : (fetched answer s).1 = .error fault) :
    defaulted answer c s = ((.error (.metadata fault), c), (fetched answer s).2) :=
  run_applyDefaults_error answer (needsMetadata_iff.2 h) (Prod.ext hfetched rfl)

theorem defaulted_ok {c : Config} {s : σ} (h : c.LeavesOpen) {metadata : Metadata}
    (hfetched : (fetched answer s).1 = .ok metadata) :
    defaulted answer c s = ((.ok (), (c.fillFrom metadata).migratePassphrase), (fetched answer s).2) :=
  run_applyDefaults_ok answer (needsMetadata_iff.2 h) (Prod.ext hfetched rfl)

theorem defaulted_own {c : Config} (h : ¬c.LeavesOpen) (s : σ) :
    defaulted answer c s = ((.ok (), c.migratePassphrase), s) :=
  run_applyDefaults_own answer (mt needsMetadata_iff.1 h)

variable (answer)

theorem events_defaults (c : Config) (s : σ) : (defaults c).events answer s =
    if c.LeavesOpen then [⟨Action.fetchMetadata, (fetched answer s).1⟩] else [] := by
  unfold defaults applyDefaults
  by_cases h : c.LeavesOpen
  · rw [if_pos h, if_pos (needsMetadata_iff.2 h)]
    refine (Flow.events_bind (Flow.perform (S := signature) .fetchMetadata) _ s).trans ?_
    refine congrArg (List.cons _) ?_
    cases ((Flow.perform (S := signature) .fetchMetadata).run answer s).1 <;> rfl
  · rw [if_neg h, if_neg (mt needsMetadata_iff.1 h)]
    rfl

/-- **Filling in defaults is conservative**, whatever `defaults` is answered. -/
theorem defaults_conservative (c : Config) (s : σ) : Conservative answer c s where
  asks := events_defaults answer c s
  fails h _ hfetched := defaulted_error h hfetched
  fills h _ hfetched := defaulted_ok h hfetched
  keeps h := defaulted_own h s
  again result c' s' hfirst hsame := by
    by_cases hopen : c.LeavesOpen
    · cases hfetched : (fetched answer s).1 with
      | error fault =>
        rw [defaulted_error hopen hfetched] at hfirst
        cases hfirst
        rw [defaulted_error hopen ((hsame hopen).trans hfetched)]
      | ok metadata =>
        rw [defaulted_ok hopen hfetched] at hfirst
        cases hfirst
        -- The metadata may itself leave open what the configuration does.
        by_cases hstill : (c.fillFrom metadata).migratePassphrase.LeavesOpen
        · rw [defaulted_ok hstill ((hsame hstill).trans hfetched), fillFrom_again]
        · rw [defaulted_own hstill, migratePassphrase_again]
    · rw [defaulted_own hopen] at hfirst
      cases hfirst
      rw [defaulted_own (mt leavesOpen_migratePassphrase.1 hopen), migratePassphrase_again]
  checks path := by
    by_cases hopen : c.LeavesOpen
    · cases hfetched : (fetched answer s).1 with
      | error fault => rw [defaulted_error hopen hfetched]
      | ok metadata =>
        rw [defaulted_ok hopen hfetched, validate_migratePassphrase, validate_fillFrom]
    · rw [defaulted_own hopen, validate_migratePassphrase]

/-- Where the file names a region and the metadata no key, the region is kept, `regionKey` is left open, and
    the passphrase is found under its former name; all this as well the second time. -/
theorem defaults_conservative_partly :
    let c : Config := { auth := { region := "us-ashburn-1", keyPassphrase := "secret" } }
    let filled : Config :=
      { auth := { c.auth with compartment := "ocid1.compartment", passphrase := "secret" } }
    let answer := oneFile [] (.ok { compartmentId := "ocid1.compartment", region := "us-phoenix-1" })
    defaulted answer c () = ((.ok (), filled), ()) ∧ (defaulted answer filled ()).1 = (.ok (), filled) ∧
      filled.validate "config.toml" = c.validate "config.toml" := by
  intro c filled answer
  have h := defaults_conservative answer c ()
  have hfilled : defaulted answer c () = ((.ok (), filled), ()) := h.fills (by decide) _ rfl
  have hchecks := h.checks "config.toml"
  rw [hfilled] at hchecks
  exact ⟨hfilled, h.again _ _ _ hfilled fun _ => rfl, hchecks⟩

end

end VolumeDriver.Config
