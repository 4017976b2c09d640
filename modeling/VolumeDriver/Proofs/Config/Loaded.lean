import VolumeDriver.Http.Connect
import VolumeDriver.Proofs.BlockVolume.VolumeNames
import VolumeDriver.Proofs.Flow.Run
set_option autoImplicit false

/-! # What a configuration that was loaded holds

The fields that the driver cannot do without (`Config.requiredFields`) are checked by `Config.validate` when
the configuration is loaded, and are never blank. Where the cluster is, is not checked: the file says it, or
else the instance's metadata, which may say nothing (`Settles`). -/

namespace VolumeDriver.Config

/-- There is a character in the text that is not blank (`Blank.isBlank`). -/
def Filled (s : String) : Prop :=
  ∃ c ∈ s.toList, Blank.isBlank c = false

theorem isBlankText_eq_false_iff {s : String} : Blank.isBlankText s = false ↔ Filled s := by
  simp [Blank.isBlankText, Filled]

instance (s : String) : Decidable (Filled s) :=
  decidable_of_iff (Blank.isBlankText s = false) isBlankText_eq_false_iff

theorem not_filled_empty : ¬Filled "" := by
  decide

/-! ## Checks -/

/-- The checks of `validate` pass exactly when every field of `requiredFields` is `Filled`. -/
theorem validate_eq_ok_iff {c : Config} {path : String} :
    c.validate path = .ok () ↔ ∀ field ∈ c.requiredFields, Filled (field.value c.auth) := by
  have hnone : (c.requiredFields.find? fun field => Blank.isBlankText (field.value c.auth)) = none ↔
      ∀ field ∈ c.requiredFields, Filled (field.value c.auth) := by
    simp [List.find?_eq_none, isBlankText_eq_false_iff]
  rw [← hnone, validate]
  cases c.requiredFields.find? fun field => Blank.isBlankText (field.value c.auth) <;> simp

theorem vcn_mem_requiredFields (c : Config) : vcnField ∈ c.requiredFields := by
  unfold requiredFields
  split <;> exact List.mem_cons_self

theorem credential_mem_requiredFields {c : Config} (h : c.useInstancePrincipals = false)
    {field : RequiredField} (hfield : field ∈ credentialFields) : field ∈ c.requiredFields := by
  rw [requiredFields, h]
  exact List.mem_cons_of_mem _ hfield

/-! ## Defaults -/

/-- How a value comes about that the file may leave open: what the file says (`own`) counts if it is
    `Filled`, and what the metadata says (`offered`) if the file says nothing. -/
def Settles (own : String) (offered : Except Metadata.Fault String) (settled : String) : Prop :=
  (Filled own → settled = own) ∧ (own = "" → offered = .ok settled)

theorem settles_orElse (own other : String) : Settles own (.ok other) (orElse own other) := by
  constructor
  · intro hfilled
    refine if_neg ?_
    rintro rfl
    exact not_filled_empty hfilled
  · rintro rfl
    rfl

/-- What the file says is not asked for: `Settles` holds of it whatever is offered. -/
theorem settles_own {own : String} (h : own ≠ "") (offered : Except Metadata.Fault String) :
    Settles own offered own :=
  ⟨fun _ => rfl, fun hown => absurd hown h⟩

/-- What is sure of a configuration, from what the file says and what is said when the metadata is asked
    for: the fields that `validate` checks, and how the others came about (`Settles`). -/
structure LoadedFrom (file : Config) (metadata : Except Metadata.Fault Metadata) (c : Config) : Prop where
  vcn : Filled c.auth.vcn
  credentials : c.useInstancePrincipals = false →
    Filled c.auth.tenancy ∧ Filled c.auth.user ∧ Filled c.auth.key ∧ Filled c.auth.fingerprint
  region : Settles file.auth.region (Metadata.region <$> metadata) c.auth.region
  regionKey : Settles file.auth.regionKey (Metadata.regionKey <$> metadata) c.auth.regionKey
  compartment : Settles file.auth.compartment (Metadata.compartmentId <$> metadata) c.auth.compartment

section

variable {σ : Type} (answer : (action : signature.Action) → σ → signature.Answer action × σ)

/-- What is said when the metadata is asked for (`Action.fetchMetadata`), and the state afterwards. -/
def fetched (s : σ) : Except Metadata.Fault Metadata × σ :=
  answer Action.fetchMetadata s

section

variable {c : Config} {s s' : σ}

/-- The metadata is not asked for where `needsMetadata` finds that the file leaves nothing open. -/
theorem run_applyDefaults_own (h : c.needsMetadata ≠ true) :
    Flow.run answer (applyDefaults (Flow.perform (S := signature) .fetchMetadata) c) s =
      ((.ok (), c.migratePassphrase), s) := by
  unfold applyDefaults
  rw [if_neg h]
  rfl

theorem run_applyDefaults_ok (h : c.needsMetadata = true) {metadata : Metadata}
    (hfetched : fetched answer s = (.ok metadata, s')) :
    Flow.run answer (applyDefaults (Flow.perform (S := signature) .fetchMetadata) c) s =
      ((.ok (), (c.fillFrom metadata).migratePassphrase), s') := by
  have hasked : Flow.run answer (Flow.perform (S := signature) .fetchMetadata) s = (.ok metadata, s') :=
    hfetched
  unfold applyDefaults
  rw [if_pos h]
  refine (Flow.run_bind answer (Flow.perform (S := signature) .fetchMetadata) _ s).trans ?_
  rw [hasked]
  rfl

/-- Where the metadata cannot be had, `applyDefaults` leaves the configuration as it is. -/
theorem run_applyDefaults_error (h : c.needsMetadata = true) {fault : Metadata.Fault}
    (hfetched : fetched answer s = (.error fault, s')) :
    Flow.run answer (applyDefaults (Flow.perform (S := signature) .fetchMetadata) c) s =
      ((.error (.metadata fault), c), s') := by
  have hasked : Flow.run answer (Flow.perform (S := signature) .fetchMetadata) s = (.error fault, s') :=
    hfetched
  unfold applyDefaults
  rw [if_pos h]
  refine (Flow.run_bind answer (Flow.perform (S := signature) .fetchMetadata) _ s).trans ?_
  rw [hasked]
  rfl

end

/-- What `applyDefaults` filled in and `validate` let pass is `LoadedFrom` its file. -/
theorem loadedFrom_of_defaults {file c : Config} {path : String} {s s' : σ}
    (hdefaults : Flow.run answer
      (applyDefaults (Flow.perform (S := signature) .fetchMetadata) file) s = ((.ok (), c), s'))
    (hvalid : c.validate path = .ok ()) : LoadedFrom file (fetched answer s).1 c := by
  rw [validate_eq_ok_iff] at hvalid
  have hvcn := hvalid vcnField (vcn_mem_requiredFields c)
  have hcredentials : c.useInstancePrincipals = false →
      Filled c.auth.tenancy ∧ Filled c.auth.user ∧ Filled c.auth.key ∧ Filled c.auth.fingerprint := by
    intro h
    have hfields := fun field hfield => hvalid field (credential_mem_requiredFields h hfield)
    simpa [credentialFields] using hfields
  by_cases hneeds : file.needsMetadata = true
  · rcases hfetched : fetched answer s with ⟨fault | metadata, s₁⟩
    · rw [run_applyDefaults_error answer hneeds hfetched] at hdefaults
      cases hdefaults
    · rw [run_applyDefaults_ok answer hneeds hfetched] at hdefaults
      cases hdefaults
      exact ⟨hvcn, hcredentials, settles_orElse .., settles_orElse .., settles_orElse ..⟩
  · rw [run_applyDefaults_own answer hneeds] at hdefaults
    cases hdefaults
    obtain ⟨hregion, hkey, hcompartment⟩ :
        file.auth.region ≠ "" ∧ file.auth.regionKey ≠ "" ∧ file.auth.compartment ≠ "" := by
      simpa [needsMetadata, and_assoc] using hneeds
    exact ⟨hvcn, hcredentials, settles_own hregion _, settles_own hkey _, settles_own hcompartment _⟩

/-- A file was found by `locate` and read by `fileContent`, and the configuration is `LoadedFrom` it. -/
def LoadedAt (candidates : List String) (s : σ) (path : String) (c : Config) : Prop :=
  ∃ content file s₁ s₂,
    Fallible.runs answer (locate candidates) s = (.ok (some path), s₁) ∧
    Fallible.runs answer (fileContent path) s₁ = (.ok content, s₂) ∧
    parse path content = .ok file ∧ LoadedFrom file (fetched answer s₂).1 c

theorem loadedAt_of_load {candidates : List String} {expected path : String} {c : Config} {s s' : σ}
    (h : Fallible.runs answer (load candidates expected) s = (.ok (path, c), s')) :
    LoadedAt answer candidates s path c := by
  obtain ⟨found, s₁, hlocate, h⟩ := Fallible.ok_of_runs_bind h
  cases found with
  | none => cases h
  | some found =>
    obtain ⟨content, s₂, hcontent, h⟩ := Fallible.ok_of_runs_bind h
    obtain ⟨file, s₃, hparsed, h⟩ := Fallible.ok_of_runs_bind h
    obtain ⟨hparse, rfl⟩ := Fallible.ok_of_runs_ofExcept hparsed
    obtain ⟨⟨result, c'⟩, s₄, hlifted, h⟩ := Fallible.ok_of_runs_bind h
    obtain ⟨⟨⟩, s₅, hresult, h⟩ := Fallible.ok_of_runs_bind h
    obtain ⟨rfl, rfl⟩ := Fallible.ok_of_runs_ofExcept hresult
    obtain ⟨⟨⟩, s₆, hchecked, h⟩ := Fallible.ok_of_runs_bind h
    obtain ⟨hvalid, rfl⟩ := Fallible.ok_of_runs_ofExcept hchecked
    cases h
    rw [Fallible.runs_lift] at hlifted
    obtain ⟨hdefaults, rfl⟩ := Prod.mk.inj hlifted
    refine ⟨content, file, s₁, s₂, hlocate, hcontent, hparse, ?_⟩
    exact loadedFrom_of_defaults answer (Prod.ext (Except.ok.inj hdefaults) rfl) hvalid

/-- With what `Http.settle` comes to, requests go to the region of the configuration, unless it names
    another place. -/
theorem endpoints_of_settle {env : Environment} {c : Config} {settings : Http.Settings} {s s' : σ}
    (h : Fallible.runs answer (Http.settle env c) s = (.ok settings, s')) :
    settings.endpoints = .select c.auth.region c.endpoint := by
  cases hcertificate : env.nonBlank Http.certificateVariable <;>
    cases hproxy : env.nonBlank Http.proxyVariable <;>
    simp only [Http.settle, hcertificate, hproxy] at h
  all_goals
    obtain ⟨certificates, s₁, -, h⟩ := Fallible.ok_of_runs_bind h
    obtain ⟨proxy, s₂, -, h⟩ := Fallible.ok_of_runs_bind h
    cases certificates with
    | none =>
      cases h
      rfl
    | some content =>
      obtain ⟨⟨⟩, s₃, -, h⟩ := Fallible.ok_of_runs_bind h
      cases h
      rfl

theorem loadedAt_of_connect {env : Environment} {workingDirectory : String} {session : Session}
    {settings : Http.Settings} {s s' : σ}
    (h : Fallible.runs answer (Http.connect env workingDirectory) s = (.ok (session, settings), s')) :
    (∃ candidates path, LoadedAt answer candidates s path session.config) ∧
      settings.endpoints = .select session.config.auth.region session.config.endpoint := by
  obtain ⟨⟨path, c⟩, s₁, hload, h⟩ := Fallible.ok_of_runs_bind h
  obtain ⟨settings', s₂, hsettle, h⟩ := Fallible.ok_of_runs_bind h
  cases h
  have hloaded := loadedAt_of_load answer (Fallible.ok_of_runs_wrap hload)
  exact ⟨⟨_, path, hloaded⟩, endpoints_of_settle answer hsettle⟩

/-- **What is checked of a configuration is there once it is loaded,** and the rest is as its file or else
    the metadata says (`LoadedAt`). With the session that `Http.connect` brings, requests go to the region that
    was loaded, and volumes are asked for by its key (`BlockVolume.AsksByKey`). -/
theorem load_sure :
    (∀ candidates expected path c s s',
      Fallible.runs answer (load candidates expected) s = (.ok (path, c), s') →
        LoadedAt answer candidates s path c) ∧
    ∀ env workingDirectory session settings s s',
      Fallible.runs answer (Http.connect env workingDirectory) s = (.ok (session, settings), s') →
        (∃ candidates path, LoadedAt answer candidates s path session.config) ∧
          settings.endpoints = .select session.config.auth.region session.config.endpoint ∧
          BlockVolume.AsksByKey session session.config.auth.regionKey := by
  refine ⟨fun _ _ _ _ _ _ h => loadedAt_of_load answer h, fun _ _ session _ _ _ h => ?_⟩
  obtain ⟨hloaded, hendpoints⟩ := loadedAt_of_connect answer h
  exact ⟨hloaded, hendpoints, BlockVolume.asksByKey session⟩

end

/-- A system where every path leads to one file, and that answers `fetchMetadata` with what it is given. -/
def oneFile (content : List UInt8) (metadata : Except Metadata.Fault Metadata) :
    (action : signature.Action) → Unit → signature.Answer action × Unit
  | .openDirectory _, s => (.ok (), s)
  | .isThere _ _, s => (.ok true, s)
  | .read _ _, s => (.ok content, s)
  | .fetchMetadata, s => (metadata, s)

/-- A file that leaves open where the cluster is. -/
def openFile : List UInt8 :=
  Utf8.octets "useInstancePrincipals=true\nauth.vcn=\"v\""

theorem load_sure_openFile :
    LoadedAt (oneFile openFile (.ok ⟨"c", "phx", "us-phoenix-1"⟩)) ["/etc/driver.toml"] ()
      "/etc/driver.toml"
      { auth := { region := "us-phoenix-1", regionKey := "phx", compartment := "c", vcn := "v" },
        useInstancePrincipals := true } :=
  (load_sure _).1 _ "/etc/driver.toml" _ _ _ _ (Fallible.runs_of_toOption (by decide +kernel))

/-- Where neither `openFile` nor the metadata says where the cluster is, the configuration is loaded all the
    same. -/
theorem load_openFile_nowhere :
    ∃ c, (Fallible.runs (oneFile openFile (.ok {})) (load ["/etc/driver.toml"] "/etc/driver.toml") ()).1 =
        .ok ("/etc/driver.toml", c) ∧
      ¬Filled c.auth.region ∧ ¬Filled c.auth.regionKey ∧ ¬Filled c.auth.compartment := by
  have hrun : (Fallible.runs (oneFile openFile (.ok {})) (load ["/etc/driver.toml"] "/etc/driver.toml")
      ()).1.toOption =
      some ("/etc/driver.toml", { auth := { vcn := "v" }, useInstancePrincipals := true }) := by
    decide +kernel
  exact ⟨_, congrArg Prod.fst (Fallible.runs_of_toOption hrun), by decide, by decide, by decide⟩

end VolumeDriver.Config
