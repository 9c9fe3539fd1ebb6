import Whereabouts.Proofs.StoreFiles
import Whereabouts.Proofs.Variables
import Whereabouts.Settings.Load

/-!
# Layers of settings

A setting has the value of its own variable, when what that says is written as values of
its kind are, or else the value of the file, or else the standard one.  Whether settings
can be used is decided once, for what all layers give together.
-/

namespace Whereabouts

variable {ω : Type}

/-!
## Settings one by one
-/

namespace Setting

inductive Kind where
  | text
  | optionalText
  | count
  | backend
  | texts

def Kind.Value : Kind -> Type
  | text => String
  | optionalText => Option String
  | count => Nat
  | backend => Backend
  | texts => List String

/-- What the text of a variable gives, when it is written as values of the kind are. -/
inductive Kind.Gives (raw : String) : (kind : Kind) -> kind.Value -> Prop
  | text {value : String} (htrims : Text.Trims raw.toList value.toList) (hvalue : value ≠ "") :
      Gives raw .text value
  | optionalText {value : String} (htrims : Text.Trims raw.toList value.toList)
      (hvalue : value ≠ "") : Gives raw .optionalText (some value)
  | count {digits : List Char} {value : Nat} (htrims : Text.Trims raw.toList digits)
      (hcounts : Text.Counts digits value) (hrange : value < UInt64.size) : Gives raw .count value
  | backend {word : List Char} {value : Backend} (htrims : Text.Trims raw.toList word)
      (hword : word.map Char.toLower = value.text.toList) : Gives raw .backend value
  | texts {values : List String} (helements : Text.Elements (Text.pieces ',' raw.toList) values)
      (hvalues : values ≠ []) : Gives raw .texts values

def Kind.given? (vars : Variables) (name : String) : (kind : Kind) -> Option kind.Value
  | text => vars.text? name
  | optionalText => (vars.text? name).map some
  | count => vars.count? name
  | backend => vars.backend? name
  | texts => vars.elements? name

def Kind.read? : (kind : Kind) -> Json -> Option kind.Value
  | text, value => value.str?
  | optionalText, .null => some none
  | optionalText, value => value.str?.map some
  | count, value => value.count?
  | backend, value => value.case? Settings.isEmptyGroup Backend.named
  | texts, value => value.list? Json.str?

theorem Kind.given?_eq_some_iff {vars : Variables} {name : String} {kind : Kind}
    {value : kind.Value} : kind.given? vars name = some value <->
      exists raw, vars.get? name = some raw ∧ kind.Gives raw value := by
  cases kind with
  | text =>
      refine Variables.text?_eq_some_iff.trans
        (exists_congr fun raw => and_congr_right fun _ => ?_)
      constructor
      · rintro ⟨htrims, hvalue⟩
        exact .text htrims hvalue
      · rintro ⟨⟩
        exact ⟨‹_›, ‹_›⟩
  | optionalText =>
      refine Option.map_eq_some_iff.trans ?_
      constructor
      · rintro ⟨text, htext, rfl⟩
        rcases Variables.text?_eq_some_iff.mp htext with ⟨raw, hraw, htrims, hvalue⟩
        exact ⟨raw, hraw, .optionalText htrims hvalue⟩
      · rintro ⟨raw, hraw, ⟨⟩⟩
        exact ⟨_, Variables.text?_eq_some_iff.mpr ⟨raw, hraw, ‹_›, ‹_›⟩, rfl⟩
  | count =>
      refine Variables.count?_eq_some_iff.trans
        (exists_congr fun raw => and_congr_right fun _ => ?_)
      constructor
      · rintro ⟨digits, htrims, hcounts, hrange⟩
        exact .count htrims hcounts hrange
      · rintro ⟨⟩
        exact ⟨_, ‹_›, ‹_›, ‹_›⟩
  | backend =>
      refine Variables.backend?_eq_some_iff.trans
        (exists_congr fun raw => and_congr_right fun _ => ?_)
      constructor
      · rintro ⟨word, htrims, hword⟩
        exact .backend htrims hword
      · rintro ⟨⟩
        exact ⟨_, ‹_›, ‹_›⟩
  | texts =>
      refine Variables.elements?_eq_some_iff.trans
        (exists_congr fun raw => and_congr_right fun _ => ?_)
      constructor
      · rintro ⟨helements, hvalues⟩
        exact .texts helements hvalues
      · rintro ⟨⟩
        exact ⟨‹_›, ‹_›⟩

end Setting

inductive Setting where
  | backend
  | baseUrl
  | portalUrl
  | localRoot
  | timeoutSeconds
  | pageSize
  | maxRetries
  | batchSize
  | publicSystems
  | publishedSystem
  | publishedRootTemplate
  | projectSystemStart
  | trashNames
  | itemErrorLimit
  | runErrorLimit

namespace Setting

def kind : Setting -> Kind
  | backend => .backend
  | baseUrl => .text
  | portalUrl => .text
  | localRoot => .optionalText
  | timeoutSeconds => .count
  | pageSize => .count
  | maxRetries => .count
  | batchSize => .count
  | publicSystems => .texts
  | publishedSystem => .text
  | publishedRootTemplate => .text
  | projectSystemStart => .text
  | trashNames => .texts
  | itemErrorLimit => .count
  | runErrorLimit => .count

def varName? : Setting -> Option String
  | backend => some "LOCSYNC_STORAGE_BACKEND"
  | baseUrl => some "LOCSYNC_TAPIS_BASE_URL"
  | portalUrl => some "LOCSYNC_PORTAL_URL"
  | localRoot => some "LOCSYNC_LOCAL_ROOT"
  | timeoutSeconds => some "LOCSYNC_REQUEST_TIMEOUT_SECS"
  | pageSize => some "LOCSYNC_LISTING_PAGE_SIZE"
  | maxRetries => some "LOCSYNC_MAX_RETRIES"
  | batchSize => some "LOCSYNC_BATCH_SIZE"
  | publicSystems => some "LOCSYNC_PUBLIC_SYSTEMS"
  | publishedSystem => some "LOCSYNC_PUBLISHED_SYSTEM"
  | publishedRootTemplate => some "LOCSYNC_PUBLISHED_ROOT_TEMPLATE"
  | projectSystemStart => some "LOCSYNC_PROJECT_SYSTEM_PREFIX"
  | trashNames => some "LOCSYNC_TRASH_DIR_NAMES"
  | itemErrorLimit => none
  | runErrorLimit => none

def value : (setting : Setting) -> Settings -> setting.kind.Value
  | backend, settings => settings.storage.backend
  | baseUrl, settings => settings.storage.baseUrl
  | portalUrl, settings => settings.storage.portalUrl
  | localRoot, settings => settings.storage.localRoot
  | timeoutSeconds, settings => settings.storage.timeoutSeconds
  | pageSize, settings => settings.storage.pageSize
  | maxRetries, settings => settings.storage.maxRetries
  | batchSize, settings => settings.engine.batchSize
  | publicSystems, settings => settings.engine.publicSystems
  | publishedSystem, settings => settings.engine.publishedSystem
  | publishedRootTemplate, settings => settings.engine.publishedRootTemplate
  | projectSystemStart, settings => settings.engine.projectSystemStart
  | trashNames, settings => settings.engine.trashNames
  | itemErrorLimit, settings => settings.engine.itemErrorLimit
  | runErrorLimit, settings => settings.engine.runErrorLimit

/-- The settings whose values are those of a function. -/
def gathered (values : (setting : Setting) -> setting.kind.Value) : Settings where
  storage :=
    { backend := values backend
      baseUrl := values baseUrl
      portalUrl := values portalUrl
      localRoot := values localRoot
      timeoutSeconds := values timeoutSeconds
      pageSize := values pageSize
      maxRetries := values maxRetries }
  engine :=
    { batchSize := values batchSize
      publicSystems := values publicSystems
      publishedSystem := values publishedSystem
      publishedRootTemplate := values publishedRootTemplate
      projectSystemStart := values projectSystemStart
      trashNames := values trashNames
      itemErrorLimit := values itemErrorLimit
      runErrorLimit := values runErrorLimit }

theorem gathered_value (settings : Settings) :
    (gathered fun setting => setting.value settings) = settings := rfl

theorem ext_value {one other : Settings}
    (h : forall setting : Setting, setting.value one = setting.value other) : one = other := by
  rw [<- gathered_value one, <- gathered_value other, funext h]

/-!
## Variables over other settings
-/

def given? (vars : Variables) (setting : Setting) : Option setting.kind.Value :=
  setting.varName?.bind (setting.kind.given? vars)

theorem value_override (setting : Setting) (vars : Variables) (base : Settings) :
    setting.value (base.override vars) = (setting.given? vars).getD (setting.value base) := by
  cases setting with
  | localRoot =>
      show (vars.text? "LOCSYNC_LOCAL_ROOT").or base.storage.localRoot =
        ((vars.text? "LOCSYNC_LOCAL_ROOT").map some).getD base.storage.localRoot
      cases vars.text? "LOCSYNC_LOCAL_ROOT" <;> rfl
  | _ => rfl

/-!
## Settings in a file
-/

inductive Section where
  | storage
  | engine

def Section.name : Section -> String
  | storage => "storage"
  | engine => "engine"

def Section.keys : Section -> List String
  | storage =>
      ["backend", "base_url", "portal_url", "local_root", "request_timeout_secs", "page_size",
        "max_retries"]
  | engine =>
      ["batch_size", "public_systems", "published_system", "published_root_template",
        "project_system_prefix", "trash_dir_names", "item_error_max_chars",
        "run_error_max_chars"]

/-- Where a file has a setting: the section, and the name of the member there. -/
def place : Setting -> Section × String
  | backend => (.storage, "backend")
  | baseUrl => (.storage, "base_url")
  | portalUrl => (.storage, "portal_url")
  | localRoot => (.storage, "local_root")
  | timeoutSeconds => (.storage, "request_timeout_secs")
  | pageSize => (.storage, "page_size")
  | maxRetries => (.storage, "max_retries")
  | batchSize => (.engine, "batch_size")
  | publicSystems => (.engine, "public_systems")
  | publishedSystem => (.engine, "published_system")
  | publishedRootTemplate => (.engine, "published_root_template")
  | projectSystemStart => (.engine, "project_system_prefix")
  | trashNames => (.engine, "trash_dir_names")
  | itemErrorLimit => (.engine, "item_error_max_chars")
  | runErrorLimit => (.engine, "run_error_max_chars")

/-- The members of a section of a file, which has none when it is absent. -/
def members? (file : Json) (part : Section) : Option Json.Fields := do
  let sections <- file.fields? [Section.storage.name, Section.engine.name]
  let members := (sections.lookup part.name).getD (.obj [])
  (Settings.atMost part.keys.length members).fields? part.keys

def stated? (file : Json) (setting : Setting) : Option setting.kind.Value := do
  let members <- members? file setting.place.1
  let value <- members.lookup setting.place.2
  setting.kind.read? value

end Setting

namespace Json

theorem eq_of_orDefault? {α : Type} {fields : Fields} {name : String} {standard a : α}
    {read : Json -> Option α} (h : fields.orDefault? name standard read = some a) :
    a = ((fields.lookup name).bind read).getD standard := by
  unfold Fields.orDefault? at h
  cases hlookup : fields.lookup name with
  | none =>
      rw [hlookup] at h
      exact (Option.some.inj h).symm
  | some value =>
      rw [hlookup] at h
      change read value = some a at h
      rw [Option.bind_some, h, Option.getD_some]

theorem orDefault?_eq_getD {α : Type} {fields : Fields} {name : String} {standard : α}
    {read : Json -> Option α} (value : Json) (h : read value = some standard) :
    fields.orDefault? name standard read = read ((fields.lookup name).getD value) := by
  unfold Fields.orDefault?
  cases fields.lookup name with
  | none => exact h.symm
  | some _ => rfl

theorem eq_of_optional? {fields : Fields} {name : String} {a : Option String}
    (h : fields.optional? name str? = some a) :
    a = ((fields.lookup name).bind Setting.Kind.optionalText.read?).getD none := by
  unfold Fields.optional? at h
  cases hlookup : fields.lookup name with
  | none =>
      rw [hlookup] at h
      exact (Option.some.inj h).symm
  | some value =>
      rw [hlookup] at h
      rw [Option.bind_some]
      cases value with
      | null => exact (Option.some.inj h).symm
      | _ => exact (congrArg (Option.getD · none) h).symm

end Json

namespace Setting

/-- The settings of a section are those that its members state. -/
def Section.States (part : Section) (members : Json.Fields) (settings : Settings) : Prop :=
  forall setting : Setting, setting.place.1 = part -> setting.value settings =
    ((members.lookup setting.place.2).bind setting.kind.read?).getD (setting.value .standard)

theorem storage_states {value : Json} {storage : StorageSettings}
    (h : StorageSettings.ofJson? Settings.isEmptyGroup value = some storage)
    (engine : EngineSettings) : exists members,
      value.fields? Section.storage.keys = some members ∧
        Section.storage.States members { storage, engine } := by
  simp only [StorageSettings.ofJson?, Option.bind_eq_bind, Option.bind_eq_some_iff] at h
  rcases h with ⟨members, hmembers, backend, hbackend, baseUrl, hbaseUrl, portalUrl, hportalUrl,
    localRoot, hlocalRoot, timeoutSeconds, htimeoutSeconds, pageSize, hpageSize, maxRetries,
    hmaxRetries, ⟨⟩⟩
  refine ⟨members, hmembers, ?_⟩
  intro setting hplace
  cases setting with
  | backend => exact Json.eq_of_orDefault? hbackend
  | baseUrl => exact Json.eq_of_orDefault? hbaseUrl
  | portalUrl => exact Json.eq_of_orDefault? hportalUrl
  | localRoot => exact Json.eq_of_optional? hlocalRoot
  | timeoutSeconds => exact Json.eq_of_orDefault? htimeoutSeconds
  | pageSize => exact Json.eq_of_orDefault? hpageSize
  | maxRetries => exact Json.eq_of_orDefault? hmaxRetries
  | _ => cases hplace

theorem engine_states {value : Json} {engine : EngineSettings}
    (h : EngineSettings.ofJson? value = some engine) (storage : StorageSettings) :
    exists members, value.fields? Section.engine.keys = some members ∧
      Section.engine.States members { storage, engine } := by
  simp only [EngineSettings.ofJson?, Option.bind_eq_bind, Option.bind_eq_some_iff] at h
  rcases h with ⟨members, hmembers, batchSize, hbatchSize, publicSystems, hpublicSystems,
    publishedSystem, hpublishedSystem, publishedRootTemplate, hpublishedRootTemplate,
    projectSystemStart, hprojectSystemStart, trashNames, htrashNames, itemErrorLimit,
    hitemErrorLimit, runErrorLimit, hrunErrorLimit, ⟨⟩⟩
  refine ⟨members, hmembers, ?_⟩
  intro setting hplace
  cases setting with
  | batchSize => exact Json.eq_of_orDefault? hbatchSize
  | publicSystems => exact Json.eq_of_orDefault? hpublicSystems
  | publishedSystem => exact Json.eq_of_orDefault? hpublishedSystem
  | publishedRootTemplate => exact Json.eq_of_orDefault? hpublishedRootTemplate
  | projectSystemStart => exact Json.eq_of_orDefault? hprojectSystemStart
  | trashNames => exact Json.eq_of_orDefault? htrashNames
  | itemErrorLimit => exact Json.eq_of_orDefault? hitemErrorLimit
  | runErrorLimit => exact Json.eq_of_orDefault? hrunErrorLimit
  | _ => cases hplace

theorem withFile?_states {file : Json} {settings : Settings}
    (h : Settings.withFile? .standard file = some settings) (part : Section) :
    exists members, members? file part = some members ∧ part.States members settings := by
  simp only [Settings.withFile?, Option.bind_eq_bind, Option.bind_eq_some_iff] at h
  rcases h with ⟨sections, hsections, storage, hstorage, engine, hengine, ⟨⟩⟩
  rw [Json.orDefault?_eq_getD (.obj [])] at hstorage hengine
  · have hmembers : members? file part =
        (Settings.atMost part.keys.length ((sections.lookup part.name).getD (.obj []))).fields?
          part.keys := by
      unfold members?
      rw [show file.fields? [Section.storage.name, Section.engine.name] = _ from hsections]
      rfl
    rw [hmembers]
    cases part with
    | storage => exact storage_states hstorage engine
    | engine => exact engine_states hengine storage
  · rfl
  · rfl

theorem value_withFile {file : Json} {settings : Settings}
    (h : Settings.withFile? .standard file = some settings) (setting : Setting) :
    setting.value settings = (setting.stated? file).getD (setting.value .standard) := by
  rcases withFile?_states h setting.place.1 with ⟨members, hmembers, hstates⟩
  rw [hstates setting rfl, stated?, hmembers]
  rfl

/-!
## Layers
-/

/-- A variable that is written as values of its setting are gives a value. -/
def Given (vars : Variables) (setting : Setting) (value : setting.kind.Value) : Prop :=
  exists name raw, setting.varName? = some name ∧ vars.get? name = some raw ∧
    setting.kind.Gives raw value

/-- A value is the one of the variable, or when that gives none, of the file, or when
that states none, of the standard. -/
def Layered (vars : Variables) (file : Json) (setting : Setting) (value : setting.kind.Value) :
    Prop :=
  setting.Given vars value ∨ (forall other, ¬ setting.Given vars other) ∧
    value = (setting.stated? file).getD (setting.value .standard)

theorem given_iff {vars : Variables} {setting : Setting} {value : setting.kind.Value} :
    setting.Given vars value <-> setting.given? vars = some value := by
  rw [given?, Option.bind_eq_some_iff, Given]
  refine exists_congr fun name => ?_
  rw [Kind.given?_eq_some_iff, exists_and_left]

theorem layered_iff {vars : Variables} {file : Json} {setting : Setting}
    {value : setting.kind.Value} : setting.Layered vars file value <-> value =
      (setting.given? vars).getD ((setting.stated? file).getD (setting.value .standard)) := by
  unfold Layered
  cases hgiven : setting.given? vars with
  | none => simp [given_iff, hgiven]
  | some given => simp [given_iff, hgiven, eq_comm]

theorem Layered.eq_of_given {vars others : Variables} {file : Json} {setting : Setting}
    {one other : setting.kind.Value} (h : setting.Layered others file one)
    (hother : setting.Layered vars file other)
    (hgiven : forall value, setting.Given others value <-> setting.Given vars value) :
    one = other := by
  have hsame : setting.given? others = setting.given? vars :=
    Option.ext fun value => by rw [<- given_iff, <- given_iff, hgiven value]
  rw [layered_iff.mp h, layered_iff.mp hother, hsame]

end Setting

namespace Settings

/-!
## Validity
-/

structure Valid (settings : Settings) : Prop where
  batchSize : 1 ≤ settings.engine.batchSize
  publicSystems : settings.engine.publicSystems ≠ []
  publishedSystem :
    exists c, c ∈ settings.engine.publishedSystem.toList ∧ Text.isBlank c = false
  publishedRootTemplate :
    EngineSettings.projectMark <:+: settings.engine.publishedRootTemplate.toList
  projectSystemStart :
    exists c, c ∈ settings.engine.projectSystemStart.toList ∧ Text.isBlank c = false
  itemErrorLimit : 1 ≤ settings.engine.itemErrorLimit
  runErrorLimit : 1 ≤ settings.engine.runErrorLimit
  timeoutSeconds : 1 ≤ settings.storage.timeoutSeconds
  pageSize : 1 ≤ settings.storage.pageSize
  localRoot : settings.storage.backend = .local ->
    exists root, settings.storage.localRoot = some root

theorem problem?_eq_none_iff {settings : Settings} :
    settings.problem? = none <-> settings.Valid := by
  have hpositive : forall n : Nat, (n != 0) = true <-> 1 ≤ n := by
    intro n
    rw [bne_iff_ne, Nat.one_le_iff_ne_zero]
  have hnonBlank : forall text : String, (!Text.isBlankText text) = true <->
      exists c, c ∈ text.toList ∧ Text.isBlank c = false := by
    intro text
    simp [Text.isBlankText]
  have hroot : (settings.storage.backend != .local ||
        settings.storage.localRoot.isSome) = true <->
      (settings.storage.backend = .local ->
        exists root, settings.storage.localRoot = some root) := by
    rw [Bool.or_eq_true, bne_iff_ne, Option.isSome_iff_exists, Decidable.imp_iff_not_or]
  rw [problem?, Option.map_eq_none_iff, List.find?_eq_none]
  simp only [conditions, List.mem_cons, forall_eq_or_imp, List.not_mem_nil, false_imp_iff,
    implies_true, and_true, Bool.not_eq_true', Bool.not_eq_false, hpositive, hnonBlank,
    Bool.and_eq_true, Text.occursIn_iff_infix, List.isEmpty_eq_false_iff, hroot]
  constructor
  · rintro ⟨hbatchSize, hpublicSystems, hpublishedSystem, htemplate, hprojectSystemStart,
      ⟨hitemErrorLimit, hrunErrorLimit⟩, htimeoutSeconds, hpageSize, hlocalRoot⟩
    exact ⟨hbatchSize, hpublicSystems, hpublishedSystem, htemplate, hprojectSystemStart,
      hitemErrorLimit, hrunErrorLimit, htimeoutSeconds, hpageSize, hlocalRoot⟩
  · intro h
    exact ⟨h.batchSize, h.publicSystems, h.publishedSystem, h.publishedRootTemplate,
      h.projectSystemStart, ⟨h.itemErrorLimit, h.runErrorLimit⟩, h.timeoutSeconds, h.pageSize,
      h.localRoot⟩

theorem checked_of_valid {settings : Settings} (h : settings.Valid) :
    checked settings = .ok settings := by
  rw [checked, problem?_eq_none_iff.mpr h]

theorem checked_of_not_valid {settings : Settings} (h : ¬ settings.Valid) :
    exists problem, checked settings = .error (.invalidSettings problem) := by
  rcases Option.ne_none_iff_exists'.mp fun hnone => h (problem?_eq_none_iff.mp hnone) with
    ⟨problem, hproblem⟩
  exact ⟨problem, by rw [checked, hproblem]⟩

theorem eq_of_checked_ok {settings built : Settings} (h : checked settings = .ok built) :
    settings = built := by
  unfold checked at h
  split at h
  · cases h
  · exact Except.ok.inj h

/-!
## The file
-/

/-- What a disk has as the file of settings: a text that is a document of settings, or no
file or not even a place for one, which is as good as a document without sections. -/
inductive Configured (disk : Disk (StateM ω)) : Option String -> ω -> Json -> ω -> Prop
  | unplaced {s : ω} : Configured disk none s (.obj []) s
  | absent {path : String} {s after : ω}
      (hexists : (disk.pathExists path).run s = (false, after)) :
      Configured disk (some path) s (.obj []) after
  | parsed {path : String} {s between after : ω} {text : String} {file : Json}
      {base : Settings} (hexists : (disk.pathExists path).run s = (true, between))
      (hread : (disk.read path).run.run between = (.ok text, after))
      (hparse : Toml.parse? text.toList = some file)
      (hbase : withFile? .standard file = some base) :
      Configured disk (some path) s file after

theorem Configured.loadFile {disk : Disk (StateM ω)} {path : Option String} {s after : ω}
    {file : Json} (h : Configured disk path s file after) : exists base,
      withFile? .standard file = some base ∧ (loadFile disk path).on s = (.ok base, after) := by
  unfold Settings.loadFile
  cases h with
  | unplaced => exact ⟨.standard, rfl, rfl⟩
  | @absent path _ _ hexists =>
      refine ⟨.standard, rfl, ?_⟩
      have heffect : (Attempt.effect (disk.pathExists path)).on s = (.ok false, after) := by
        rw [Attempt.on_effect, hexists]
      rw [Attempt.on_bind_of_ok heffect]
      rfl
  | @parsed path _ between _ text _ base hexists hread hparse hbase =>
      refine ⟨base, hbase, ?_⟩
      have heffect : (Attempt.effect (disk.pathExists path)).on s = (.ok true, between) := by
        rw [Attempt.on_effect, hexists]
      have hfiling : (Attempt.ofFiling (disk.read path)).on between = (.ok text, after) := by
        unfold Attempt.ofFiling Attempt.on
        exact View.run_bind_of_eq hread
      have hfile : ofFileText? text = some base := by
        rw [ofFileText?, hparse, Option.bind_some, hbase]
      rw [Attempt.on_bind_of_ok heffect, if_pos rfl, Attempt.on_bind_of_ok hfiling, hfile]
      rfl

theorem override_layered {file : Json} {base : Settings}
    (h : withFile? .standard file = some base) (vars : Variables) (setting : Setting) :
    setting.Layered vars file (setting.value (base.override vars)) := by
  rw [Setting.layered_iff, Setting.value_override, Setting.value_withFile h]

theorem load_eq {disk : Disk (StateM ω)} {vars : Variables} {accountHome : Option String}
    {s after : ω} {file : Json}
    (h : Configured disk (Places.settingsFile? vars accountHome) s file after) :
    exists settings,
      (forall setting : Setting, setting.Layered vars file (setting.value settings)) ∧
        (load disk vars accountHome).on s = (checked settings, after) := by
  rcases h.loadFile with ⟨base, hbase, hload⟩
  refine ⟨base.override vars, override_layered hbase vars, ?_⟩
  unfold load
  rw [Attempt.on_bind_of_ok hload]
  rfl

/-!
## What is loaded
-/

/-- A setting has the value of its own variable, or else of the file, or else the standard
one, whatever other variables there are.  The settings that come out of this are loaded
when they are valid, and none are loaded otherwise. -/
theorem load_layered {disk : Disk (StateM ω)} {vars : Variables} {accountHome : Option String}
    {s after : ω} {file : Json}
    (hfile : Configured disk (Places.settingsFile? vars accountHome) s file after) :
    exists settings,
      (forall setting : Setting, setting.Layered vars file (setting.value settings)) ∧
      (forall other, (forall setting : Setting, setting.Layered vars file (setting.value other)) ->
        other = settings) ∧
      (settings.Valid -> (load disk vars accountHome).on s = (.ok settings, after)) ∧
      (¬ settings.Valid -> exists problem,
        (load disk vars accountHome).on s = (.error (.invalidSettings problem), after)) ∧
      forall (others : Variables) (otherHome : Option String) (t u : ω) (built : Settings),
        Configured disk (Places.settingsFile? others otherHome) t file u ->
        (load disk others otherHome).on t = (.ok built, u) ->
        forall setting : Setting,
          (forall value, setting.Given others value <-> setting.Given vars value) ->
          setting.value built = setting.value settings := by
  rcases load_eq hfile with ⟨settings, hsettings, hload⟩
  refine ⟨settings, hsettings, ?_, ?_, ?_, ?_⟩
  · intro other hother
    exact Setting.ext_value fun setting => (hother setting).eq_of_given (hsettings setting)
      fun _ => Iff.rfl
  · intro hvalid
    rw [hload, checked_of_valid hvalid]
  · intro hinvalid
    rcases checked_of_not_valid hinvalid with ⟨problem, hproblem⟩
    exact ⟨problem, by rw [hload, hproblem]⟩
  · intro others otherHome t u built hfile' hbuilt setting hgiven
    rcases load_eq hfile' with ⟨settings', hsettings', hload'⟩
    have hchecked : checked settings' = .ok built := by
      rw [hload'] at hbuilt
      exact congrArg Prod.fst hbuilt
    rw [<- eq_of_checked_ok hchecked]
    exact (hsettings' setting).eq_of_given (hsettings setting) hgiven

/-- A directory whose file has two settings of one section. -/
def partialFolder : Folder :=
  .ofList
    [("locsync.toml", "[engine]\nbatch_size = 50\nproject_system_prefix = \"prj-\"\n")]

/-- Variables of which one is malformed and one is blank. -/
def partialVariables : Variables :=
  .ofList
    [("LOCSYNC_CONFIG_PATH", "locsync.toml"), ("LOCSYNC_BATCH_SIZE", "many"),
      ("LOCSYNC_LOCAL_ROOT", " /srv "), ("LOCSYNC_PROJECT_SYSTEM_PREFIX", "\t"),
      ("LOCSYNC_PUBLIC_SYSTEMS", "a, ,b "), ("LOCSYNC_STORAGE_BACKEND", "LOCAL")]

def partialBase : Settings :=
  { Settings.standard with
    engine := { EngineSettings.standard with batchSize := 50, projectSystemStart := "prj-" } }

def partialSettings : Settings where
  storage := { StorageSettings.standard with backend := .local, localRoot := some "/srv" }
  engine := { partialBase.engine with publicSystems := ["a", "b"] }

theorem load_layered_partial : exists file,
    Configured Folder.disk (Places.settingsFile? partialVariables none) partialFolder file
        partialFolder ∧
      (load Folder.disk partialVariables).on partialFolder =
        (.ok partialSettings, partialFolder) := by
  have htext : ofFileText?
      "[engine]\nbatch_size = 50\nproject_system_prefix = \"prj-\"\n" = some partialBase := by
    decide +kernel
  rcases Option.bind_eq_some_iff.mp htext with ⟨file, hparse, hbase⟩
  have hfile : Configured Folder.disk (Places.settingsFile? partialVariables none) partialFolder
      file partialFolder := .parsed rfl rfl hparse hbase
  rcases load_layered hfile with ⟨settings, _, hunique, hload, _⟩
  have hsettings : partialSettings = settings :=
    calc
      partialSettings = partialBase.override partialVariables := by decide +kernel
      _ = settings := hunique _ (override_layered hbase partialVariables)
  rw [<- hsettings] at hload
  exact ⟨file, hfile, hload (problem?_eq_none_iff.mp (by decide +kernel))⟩

end Settings
end Whereabouts
