import ActionProxy.Foundation.PosixPath
import ActionProxy.Integrations.ConfigFrame

/-!
Where a saved MCP profile ends up: under its id in the configuration, and in a directory of the
same name. The ids a request may give include three names that are special for one of the two.
-/

namespace ActionProxy

open JsonText

/-! ### Ids and paths -/

/-- `[A-Za-z0-9._-]`. -/
def isProfileIdChar (char : Char) : Bool :=
  char.isAlphanum || char == '.' || char == '_' || char == '-'

def profileIdSchema (id : String) : Bool :=
  decide (1 ≤ id.toList.length) && decide (id.toList.length ≤ 80) && id.toList.all isProfileIdChar

def profileDir (mcpDir profileId : String) : String :=
  String.ofList (PosixPath.join mcpDir.toList profileId.toList)

def profileYamlPath (mcpDir profileId : String) : String :=
  String.ofList (PosixPath.join (profileDir mcpDir profileId).toList
    "actionproxy.mcp.yaml".toList)

theorem profileId_plain {id : String} (accepted : profileIdSchema id = true) :
    '/' ∉ id.toList ∧ id.toList ≠ [] := by
  unfold profileIdSchema at accepted
  rw [Bool.and_eq_true, Bool.and_eq_true, List.all_eq_true] at accepted
  constructor
  · intro slash
    have impossible := accepted.2 '/' slash
    revert impossible
    decide
  · intro empty
    have long := of_decide_eq_true accepted.1.1
    rw [empty] at long
    cases long

theorem toList_ne_of_ne {left right : String} (different : left ≠ right) :
    left.toList ≠ right.toList :=
  fun same => different (String.toList_inj.mp same)

/-- The parts of the YAML file's path are those of the profile's directory and the file's name. -/
theorem parts_profileYamlPath (mcpDir profileId : String) :
    PosixPath.parts (profileYamlPath mcpDir profileId).toList =
      PosixPath.parts (PosixPath.join mcpDir.toList profileId.toList) ++
        ["actionproxy.mcp.yaml".toList] := by
  unfold profileYamlPath profileDir
  rw [String.toList_ofList, String.toList_ofList]
  exact PosixPath.parts_join_name _ (by decide) (by decide) (by decide) (by decide)

/-- The directory of an id is strictly below exactly if the id is neither `.` nor `..`. -/
theorem profileDir_below_iff {id : String} (accepted : profileIdSchema id = true)
    (mcpDir : String) :
    PosixPath.Below (profileDir mcpDir id).toList mcpDir.toList ↔ id ≠ "." ∧ id ≠ ".." := by
  unfold profileDir
  rw [String.toList_ofList]
  constructor
  · intro below
    constructor
    · rintro rfl
      exact PosixPath.not_below_here _ below
    · rintro rfl
      exact PosixPath.not_below_up _ below
  · rintro ⟨here, up⟩
    obtain ⟨unsplit, nonempty⟩ := profileId_plain accepted
    exact PosixPath.below_join_name _ unsplit nonempty (toList_ne_of_ne here) (toList_ne_of_ne up)

/-- Two ids, one of them neither `.` nor `..`, have different files. -/
theorem profileYamlPath_apart {id other : String} (accepted : profileIdSchema id = true)
    (acceptedOther : profileIdSchema other = true) (here : id ≠ ".") (up : id ≠ "..")
    (different : other ≠ id) (mcpDir : String) :
    profileYamlPath mcpDir other ≠ profileYamlPath mcpDir id := by
  intro same
  have paths := congrArg (fun path => PosixPath.parts path.toList) same
  simp only [parts_profileYamlPath] at paths
  have directories := List.append_cancel_right paths
  obtain ⟨unsplit, nonempty⟩ := profileId_plain accepted
  have own := PosixPath.parts_join_name mcpDir.toList unsplit nonempty
    (toList_ne_of_ne here) (toList_ne_of_ne up)
  have relative : PosixPath.isAbsolute other.toList = false :=
    PosixPath.relative_of_unsplit (profileId_plain acceptedOther).1
  have below : PosixPath.Below (PosixPath.join mcpDir.toList other.toList) mcpDir.toList := by
    refine ⟨PosixPath.isAbsolute_join relative, [id.toList], List.cons_ne_nil _ _, ?_,
      directories.trans own⟩
    rw [List.mem_singleton]
    exact toList_ne_of_ne (Ne.symm up)
  have plain := (profileDir_below_iff acceptedOther mcpDir).mp (by
    rw [profileDir, String.toList_ofList]
    exact below)
  have others := PosixPath.parts_join_name mcpDir.toList (profileId_plain acceptedOther).1
    (profileId_plain acceptedOther).2 (toList_ne_of_ne plain.1) (toList_ne_of_ne plain.2)
  rw [others, own] at directories
  have names := List.append_cancel_left directories
  exact toList_ne_of_ne different (List.cons.inj names).1

/-! ### Saving -/

/-- The profile the file holds under an id, with its id. -/
def storedProfile (file : ConfigFile) (id : String) : Option McpWrapperProfile :=
  match file with
  | .holds config => (config.profile id).map (normalizeMcpWrapperProfile id)
  | _ => none

/-- The file holds a configuration whose sections are all accepted. -/
def ReadableFile (parseUrl : String → Option UrlParts) (file : ConfigFile) : Prop :=
  ∃ config, file = .holds config ∧ EmailAccepted parseUrl config

/-- The id names neither a directory of its own kind nor the prototype, and no other profile is
lost with an unreadable file. -/
structure PlainSave (parseUrl : String → Option UrlParts) (id : String) (file : ConfigFile) :
    Prop where
  here : id ≠ "."
  up : id ≠ ".."
  member : id = "__proto__" → ReadableFile parseUrl file ∧ (storedProfile file id).isSome = true
  others : ReadableFile parseUrl file ∨ ∀ other, other ≠ id → storedProfile file other = none

section

variable {parseUrl : String → Option UrlParts}

theorem readConfig_profile (standard : StandardUrl parseUrl) (file : ConfigFile) :
    NormalConfig parseUrl (readConfig parseUrl true file) ∧
      (ReadableFile parseUrl file → ∀ id,
        (readConfig parseUrl true file).profile id = storedProfile file id) ∧
      (¬ ReadableFile parseUrl file → readConfig parseUrl true file = .empty) := by
  cases file with
  | missing =>
      refine ⟨rfl, ?_, fun _ => rfl⟩
      rintro ⟨_, impossible, _⟩
      cases impossible
  | broken =>
      refine ⟨rfl, ?_, fun _ => rfl⟩
      rintro ⟨_, impossible, _⟩
      cases impossible
  | holds stored =>
      obtain ⟨normal, whole, otherwise⟩ := readConfig_holds standard true stored
      refine ⟨normal, ?_, fun unread => otherwise (fun both => unread ⟨stored, rfl, both.2⟩)⟩
      rintro ⟨config, same, accepted⟩ id
      cases same
      rw [whole rfl accepted]
      simp only [storedProfile, LocalIntegrationConfig.profile, LocalIntegrationConfig.profiles,
        normalSections]
      cases stored.mcpWrapper with
      | none => rfl
      | some mcpWrapper =>
          simp only [Option.map_some, Option.bind_some, normalizeMcpWrapper]
          cases mcpWrapper.profiles with
          | none => rfl
          | some profiles => exact get?_normalizedProfiles profiles id

/-- A profile that is saved can be found under its id unless that is the name of the prototype and
no member before. -/
theorem saved_profile_self (id : String) (members : KeyedTable String Json)
    (config : LocalIntegrationConfig) :
    (saveMcpProfile id members config).profile id =
      if id = "__proto__" ∧ config.profile id = none then none
      else some (savedProfile id members) := by
  have before : (config.profiles.getD .empty).get? id = config.profile id := by
    rw [LocalIntegrationConfig.profile]
    cases config.profiles <;> rfl
  show (assignProfile (config.profiles.getD .empty) id (savedProfile id members)).get? id = _
  rw [get?_assignProfile_self, before]

theorem saved_profile_other {id other : String} (different : other ≠ id)
    (members : KeyedTable String Json) (config : LocalIntegrationConfig) :
    (saveMcpProfile id members config).profile other = config.profile other := by
  show (assignProfile (config.profiles.getD .empty) id (savedProfile id members)).get? other = _
  rw [get?_assignProfile_other _ different, LocalIntegrationConfig.profile]
  cases config.profiles <;> rfl

end

section

variable [Runtime]

/-- The file after a profile was saved, every file operation being done. -/
def fileAfterSave (parseUrl : String → Option UrlParts) (settings : IntegrationSettings)
    (id : String) (members : KeyedTable String Json) (file : ConfigFile) : ConfigFile :=
  ((IntegrationUpdate.mcpProfile id members).run parseUrl settings answered file).1

/-- A profile is saved faithfully and in its own place. -/
structure SavedInPlace (parseUrl : String → Option UrlParts) (settings : IntegrationSettings)
    (mcpDir id : String) (members : KeyedTable String Json) (file : ConfigFile) : Prop where
  saved : (readConfig parseUrl true (fileAfterSave parseUrl settings id members file)).profile id =
    some (savedProfile id members)
  others : ∀ other, other ≠ id →
    (readConfig parseUrl true (fileAfterSave parseUrl settings id members file)).profile other =
      storedProfile file other
  below : PosixPath.Below (profileDir mcpDir id).toList mcpDir.toList
  apart : ∀ other, profileIdSchema other = true → other ≠ id →
    profileYamlPath mcpDir other ≠ profileYamlPath mcpDir id

variable {parseUrl : String → Option UrlParts} {settings : IntegrationSettings}

theorem read_fileAfterSave (standard : StandardUrl parseUrl) (id : String)
    (members : KeyedTable String Json) (file : ConfigFile) :
    readConfig parseUrl true (fileAfterSave parseUrl settings id members file) =
      saveMcpProfile id members (readConfig parseUrl true file) := by
  have normal : NormalConfig parseUrl (saveMcpProfile id members (readConfig parseUrl true file)) :=
    saveMcpProfile_normal standard (readConfig_profile standard file).1 id members
  have edited : (IntegrationUpdate.mcpProfile id members).edit parseUrl settings
      (readConfig parseUrl answered.readable file) =
        .ok (saveMcpProfile id members (readConfig parseUrl true file)) := rfl
  have ran := run_of_edited normal edited
  rw [fileAfterSave, ran]
  exact readConfig_normal normal

/-- A profile is saved in place exactly if its id is neither `.` nor `..`, is not `__proto__` unless a
profile is stored under it, and no other profile is stored in a file that is not read. -/
theorem saveMcpProfile_in_place_iff (standard : StandardUrl parseUrl)
    (settings : IntegrationSettings) (mcpDir : String) {id : String}
    (accepted : profileIdSchema id = true) (members : KeyedTable String Json) (file : ConfigFile) :
    SavedInPlace parseUrl settings mcpDir id members file ↔ PlainSave parseUrl id file := by
  obtain ⟨_, whole, otherwise⟩ := readConfig_profile standard file
  have after : readConfig parseUrl true (fileAfterSave parseUrl settings id members file) =
      saveMcpProfile id members (readConfig parseUrl true file) :=
    read_fileAfterSave standard id members file
  constructor
  · intro place
    obtain ⟨here, up⟩ := (profileDir_below_iff accepted mcpDir).mp place.below
    refine ⟨here, up, ?_, ?_⟩
    · intro proto
      have saved := place.saved
      rw [after, saved_profile_self] at saved
      by_cases readable : ReadableFile parseUrl file
      · refine ⟨readable, ?_⟩
        rw [whole readable] at saved
        cases stored : storedProfile file id with
        | some profile => rfl
        | none =>
            rw [if_pos ⟨proto, stored⟩] at saved
            cases saved
      · rw [otherwise readable, if_pos ⟨proto, rfl⟩] at saved
        cases saved
    · by_cases readable : ReadableFile parseUrl file
      · exact .inl readable
      · refine .inr (fun other different => ?_)
        have kept := place.others other different
        rw [after, saved_profile_other different, otherwise readable] at kept
        exact kept.symm
  · intro plain
    refine ⟨?_, ?_, (profileDir_below_iff accepted mcpDir).mpr ⟨plain.here, plain.up⟩,
      fun other acceptedOther different =>
        profileYamlPath_apart accepted acceptedOther plain.here plain.up different mcpDir⟩
    · rw [after, saved_profile_self, if_neg]
      rintro ⟨proto, missing⟩
      obtain ⟨readable, held⟩ := plain.member proto
      rw [whole readable] at missing
      rw [missing] at held
      cases held
    · intro other different
      rw [after, saved_profile_other different]
      rcases plain.others with readable | none
      · exact whole readable other
      · by_cases readable : ReadableFile parseUrl file
        · exact whole readable other
        · rw [otherwise readable, none other different]
          rfl

end

theorem saveMcpProfile_in_place_iff_gmail :
    StandardUrl oneUrl ∧ profileIdSchema "gmail" = true ∧
      (@SavedInPlace (sampleRuntime []) oneUrl ⟨none, none⟩ "/data/mcp" "gmail" .empty .missing ↔
        PlainSave oneUrl "gmail" .missing) :=
  ⟨oneUrl_standard, by decide +kernel, @saveMcpProfile_in_place_iff (sampleRuntime []) oneUrl
    oneUrl_standard ⟨none, none⟩ "/data/mcp" "gmail" (by decide +kernel) .empty .missing⟩

/-- The id `..` is accepted, and its file is written beside the directory of the profiles. -/
theorem up_is_written_beside :
    StandardUrl oneUrl ∧ profileIdSchema ".." = true ∧
      profileYamlPath "/data/mcp" ".." = "/data/actionproxy.mcp.yaml" ∧
      ¬ @SavedInPlace (sampleRuntime []) oneUrl ⟨none, none⟩ "/data/mcp" ".." .empty .missing := by
  refine ⟨oneUrl_standard, by decide +kernel, by decide +kernel, ?_⟩
  rintro ⟨_, _, below, _⟩
  exact ((profileDir_below_iff (by decide +kernel) "/data/mcp").mp below).2 rfl

end ActionProxy
