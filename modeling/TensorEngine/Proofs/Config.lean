import TensorEngine.Config
import TensorEngine.Proofs.Text

/-! Which environments configure the engine. Each of three variables is read by itself,
and the first that cannot be read decides about the refusal. -/

set_option autoImplicit false

namespace TensorEngine.EngineConfig

open Text (Spells Surrounds)

variable {β : Type} {setting : Option String}

/-- What is made of one variable: a fallback if it is absent, else what its text means. -/
inductive Read (meaning : String → β → Prop) (fallback : β) (refusal : String → Error → Prop) :
    Option String → Except Error β → Prop where
  | absent : Read meaning fallback refusal none (.ok fallback)
  | accepted {raw : String} {value : β} (means : meaning raw value) :
    Read meaning fallback refusal (some raw) (.ok value)
  | refused {raw : String} {error : Error} (meaningless : ∀ value, ¬ meaning raw value)
      (refuses : refusal raw error) :
    Read meaning fallback refusal (some raw) (.error error)

section

variable {meaning : String → β → Prop} {fallback value : β} {refusal : String → Error → Prop}

theorem Read.eq_fallback (read : Read meaning fallback refusal none (.ok value)) :
    value = fallback := by
  cases read
  rfl

theorem Read.means (read : Read meaning fallback refusal setting (.ok value)) {raw : String}
    (present : setting = some raw) : meaning raw value := by
  cases read with
  | absent => cases present
  | accepted means => exact Option.some.inj present ▸ means

theorem Read.offender {error : Error}
    (read : Read meaning fallback refusal setting (.error error)) :
    ∃ raw, setting = some raw ∧ (∀ value, ¬ meaning raw value) ∧ refusal raw error := by
  cases read with
  | refused meaningless refuses => exact ⟨_, rfl, meaningless, refuses⟩

end

/-! The three variables. -/

/-- A numeral below a bound, as a value. -/
def Counts (bound : Nat) (accept : Nat → β) (raw : String) (value : β) : Prop :=
  ∃ number, Spells bound raw number ∧ accept number = value

theorem Counts.spelled {bound : Nat} {accept : Nat → β} {raw : String} {value : β}
    (counts : Counts bound accept raw value) : ∃ number, Spells bound raw number :=
  counts.imp fun _ => And.left

def Malformed (bound : Nat) (refuse : String → Text.NumeralError → Error) (raw : String)
    (error : Error) : Prop :=
  ∃ cause, Text.readNumeral bound (Text.trim raw) = .error cause ∧ refuse raw cause = error

theorem read_numeral {bound : Nat} (positive : 0 < bound) (accept : Nat → β) (fallback : β)
    (refuse : String → Text.NumeralError → Error) (raw : String) :
    Read (Counts bound accept) fallback (Malformed bound refuse) (some raw)
      (match Text.readNumeral bound (Text.trim raw) with
        | .ok number => .ok (accept number)
        | .error cause => .error (refuse raw cause)) := by
  cases read : Text.readNumeral bound (Text.trim raw) with
  | ok number => exact .accepted ⟨number, (Text.readNumeral_trim_eq_ok_iff positive).mp read, rfl⟩
  | error cause =>
    have meaningless := Text.not_spells_of_error positive read
    exact .refused (fun _ ⟨number, spells, _⟩ => meaningless number spells) ⟨cause, read, rfl⟩

theorem readDevice_read (setting : Option String) :
    Read (Counts deviceBound id) 0 (Malformed deviceBound .malformedDevice) setting
      (readDevice setting) := by
  cases setting with
  | none => exact .absent
  | some raw => exact read_numeral (by decide) id 0 .malformedDevice raw

theorem readLimit_read (setting : Option String) :
    Read (Counts byteCountBound some) none (Malformed byteCountBound .malformedByteCount) setting
      (readLimit setting) := by
  cases setting with
  | none => exact .absent
  | some raw => exact read_numeral (by decide) some none .malformedByteCount raw

/-- The choice of every algorithm but the one without workspace. -/
def capped : Option Nat → Preference
  | some bytes => .limit bytes
  | none => default

/-- A word for a choice of algorithm. -/
inductive Chooses (limit : Option Nat) (raw : String) : Preference → Prop where
  | fastest (word : Surrounds raw "fastest".toList) : Chooses limit raw (capped limit)
  | noWorkspace (word : Surrounds raw "no_workspace".toList) : Chooses limit raw .noWorkspace

theorem solid_fastest : Text.Solid "fastest".toList := by decide

theorem solid_noWorkspace : Text.Solid "no_workspace".toList := by decide

-- One text is not two words.
theorem not_noWorkspace_of_fastest {raw : String} (fastest : Surrounds raw "fastest".toList) :
    ¬ Surrounds raw "no_workspace".toList := fun other => by
  have same := ((Text.trim_eq_iff solid_fastest).mpr fastest).symm.trans
    ((Text.trim_eq_iff solid_noWorkspace).mpr other)
  exact absurd same (by decide)

theorem readPreference_none (limit : Option Nat) :
    readPreference limit none = .ok (capped limit) := by
  cases limit <;> rfl

theorem readPreference_some (limit : Option Nat) (raw : String) :
    readPreference limit (some raw) =
      if Text.trim raw = "fastest" then .ok (capped limit)
      else if Text.trim raw = "no_workspace" then .ok .noWorkspace
      else .error (.unknownAlgorithm (Text.trim raw)) := by
  cases limit <;> rfl

theorem readPreference_read (limit : Option Nat) (setting : Option String) :
    Read (Chooses limit) (capped limit)
      (fun raw error => error = .unknownAlgorithm (Text.trim raw)) setting
      (readPreference limit setting) := by
  cases setting with
  | none =>
    rw [readPreference_none]
    exact .absent
  | some raw =>
    rw [readPreference_some]
    split
    · rename_i word
      exact .accepted (.fastest ((Text.trim_eq_iff solid_fastest).mp word))
    · rename_i notFastest
      split
      · rename_i word
        exact .accepted (.noWorkspace ((Text.trim_eq_iff solid_noWorkspace).mp word))
      · rename_i other
        refine .refused (fun preference chooses => ?_) rfl
        cases chooses with
        | fastest word => exact notFastest ((Text.trim_eq_iff solid_fastest).mpr word)
        | noWorkspace word => exact other ((Text.trim_eq_iff solid_noWorkspace).mpr word)

/-! The grammar. -/

def IsDevice (raw : String) : Prop := ∃ number, Spells (Nat.pow 2 32) raw number

def IsByteCount (raw : String) : Prop := ∃ number, Spells (Nat.pow 2 64) raw number

def IsAlgorithm (raw : String) : Prop :=
  Surrounds raw "fastest".toList ∨ Surrounds raw "no_workspace".toList

def Fits (accepted : String → Prop) (setting : Option String) : Prop :=
  ∀ raw ∈ setting, accepted raw

theorem Fits.of_mem {accepted : String → Prop} {raw : String} (present : raw ∈ setting)
    (accepts : accepted raw) :
    Fits accepted setting :=
  fun _ also => Option.mem_unique present also ▸ accepts

theorem Fits.of_read {meaning : String → β → Prop} {fallback value : β}
    {refusal : String → Error → Prop} {accepted : String → Prop}
    (read : Read meaning fallback refusal setting (.ok value))
    (accepts : ∀ raw, meaning raw value → accepted raw) : Fits accepted setting :=
  fun raw present => accepts raw (read.means present)

variable {device limit algorithm : Option String}

/-- The first setting that does not fit, with what is wrong about it. -/
inductive Offence (device limit algorithm : Option String) : Error → Prop where
  | device {raw : String} {cause : Text.NumeralError} (present : device = some raw)
      (malformed : ¬ IsDevice raw)
      (fault : Text.readNumeral (Nat.pow 2 32) (Text.trim raw) = .error cause) :
    Offence device limit algorithm (.malformedDevice raw cause)
  | limit {raw : String} {cause : Text.NumeralError} (deviceFits : Fits IsDevice device)
      (present : limit = some raw) (malformed : ¬ IsByteCount raw)
      (fault : Text.readNumeral (Nat.pow 2 64) (Text.trim raw) = .error cause) :
    Offence device limit algorithm (.malformedByteCount raw cause)
  | algorithm {raw : String} (deviceFits : Fits IsDevice device)
      (limitFits : Fits IsByteCount limit)
      (present : algorithm = some raw) (unknown : ¬ IsAlgorithm raw) :
    Offence device limit algorithm (.unknownAlgorithm (Text.trim raw))

def WithoutWorkspace (algorithm : Option String) : Prop :=
  ∃ raw ∈ algorithm, Surrounds raw "no_workspace".toList

/-- What the settings ask for. -/
structure Configures (device limit algorithm : Option String) (config : EngineConfig) : Prop where
  spelledDevice : ∀ raw ∈ device, Spells (Nat.pow 2 32) raw config.device
  defaultDevice : device = none → config.device = 0
  withoutWorkspace : WithoutWorkspace algorithm → config.preference.cap = 0
  spelledCap : ¬ WithoutWorkspace algorithm → ∀ raw ∈ limit,
    Spells (Nat.pow 2 64) raw config.preference.cap
  defaultCap : ¬ WithoutWorkspace algorithm → limit = none → config.preference.cap = 268435456

theorem Chooses.isAlgorithm {limit : Option Nat} {raw : String} {preference : Preference}
    (chooses : Chooses limit raw preference) : IsAlgorithm raw := by
  cases chooses with
  | fastest word => exact .inl word
  | noWorkspace word => exact .inr word

theorem Chooses.fallback {bytes : Option Nat} {raw : String} {preference : Preference}
    (chooses : Chooses bytes raw preference) :
    (Surrounds raw "no_workspace".toList → preference = .noWorkspace) ∧
      (¬ Surrounds raw "no_workspace".toList → preference = capped bytes) := by
  cases chooses with
  | fastest word =>
    exact ⟨fun other => absurd other (not_noWorkspace_of_fastest word), fun _ => rfl⟩
  | noWorkspace word => exact ⟨fun _ => rfl, fun none => absurd word none⟩

/-! Three readings make a configuration. -/

section

variable {number : Nat} {bytes : Option Nat} {preference : Preference} {error : Error}

theorem fits_device (read : readDevice device = .ok number) : Fits IsDevice device :=
  .of_read (read ▸ readDevice_read device) fun _ => Counts.spelled

theorem fits_limit (read : readLimit limit = .ok bytes) : Fits IsByteCount limit :=
  .of_read (read ▸ readLimit_read limit) fun _ => Counts.spelled

theorem fits_algorithm (read : readPreference bytes algorithm = .ok preference) :
    Fits IsAlgorithm algorithm :=
  .of_read (read ▸ readPreference_read bytes algorithm) fun _ => Chooses.isAlgorithm

theorem offence_device (read : readDevice device = .error error) :
    Offence device limit algorithm error := by
  obtain ⟨raw, present, meaningless, cause, fault, rfl⟩ := (read ▸ readDevice_read device).offender
  exact .device present (fun ⟨number, spells⟩ => meaningless number ⟨number, spells, rfl⟩) fault

theorem offence_limit (deviceFits : Fits IsDevice device) (read : readLimit limit = .error error) :
    Offence device limit algorithm error := by
  obtain ⟨raw, present, meaningless, cause, fault, rfl⟩ := (read ▸ readLimit_read limit).offender
  exact .limit deviceFits present
    (fun ⟨number, spells⟩ => meaningless number ⟨number, spells, rfl⟩) fault

theorem offence_algorithm (deviceFits : Fits IsDevice device) (limitFits : Fits IsByteCount limit)
    (read : readPreference bytes algorithm = .error error) :
    Offence device limit algorithm error := by
  obtain ⟨raw, present, meaningless, rfl⟩ := (read ▸ readPreference_read bytes algorithm).offender
  refine .algorithm deviceFits limitFits present ?_
  rintro (word | word)
  · exact meaningless _ (.fastest word)
  · exact meaningless _ (.noWorkspace word)

theorem preference_eq (read : readPreference bytes algorithm = .ok preference) :
    (WithoutWorkspace algorithm → preference = .noWorkspace) ∧
      (¬ WithoutWorkspace algorithm → preference = capped bytes) := by
  have reads := read ▸ readPreference_read bytes algorithm
  cases algorithm with
  | none => exact ⟨nofun, fun _ => reads.eq_fallback⟩
  | some raw =>
    obtain ⟨without, otherwise⟩ := (reads.means rfl).fallback
    have asked : WithoutWorkspace (some raw) ↔ Surrounds raw "no_workspace".toList := by
      simp [WithoutWorkspace]
    rw [asked]
    exact ⟨without, otherwise⟩

theorem configures (deviceRead : readDevice device = .ok number)
    (limitRead : readLimit limit = .ok bytes)
    (preferenceRead : readPreference bytes algorithm = .ok preference) :
    Configures device limit algorithm ⟨number, preference⟩ := by
  have first := deviceRead ▸ readDevice_read device
  have second := limitRead ▸ readLimit_read limit
  obtain ⟨without, otherwise⟩ := preference_eq preferenceRead
  constructor
  · rintro raw present
    obtain ⟨_, spells, rfl⟩ := first.means present
    exact spells
  · rintro rfl
    exact first.eq_fallback
  · exact fun asked => congrArg Preference.cap (without asked)
  · rintro unasked raw present
    obtain ⟨_, spells, rfl⟩ := second.means present
    rw [otherwise unasked]
    exact spells
  · rintro unasked rfl
    rw [otherwise unasked, second.eq_fallback]
    rfl

end

theorem ofLookup_eq (lookup : String → Option String) : ofLookup lookup = (do
    let device ← readDevice (lookup "RUST_DNN_DEVICE")
    let limit ← readLimit (lookup "RUST_DNN_WORKSPACE_LIMIT")
    let preference ← readPreference limit (lookup "RUST_DNN_CONV_ALGO")
    return { device, preference }) := rfl

theorem ofLookup_cases (lookup : String → Option String) :
    let device := lookup "RUST_DNN_DEVICE"
    let limit := lookup "RUST_DNN_WORKSPACE_LIMIT"
    let algorithm := lookup "RUST_DNN_CONV_ALGO"
    (∃ config, ofLookup lookup = .ok config ∧ Configures device limit algorithm config ∧
        Fits IsDevice device ∧ Fits IsByteCount limit ∧ Fits IsAlgorithm algorithm) ∨
      ∃ error, ofLookup lookup = .error error ∧ Offence device limit algorithm error := by
  intro device limit algorithm
  cases deviceRead : readDevice device with
  | error error =>
    refine .inr ⟨error, ?_, offence_device deviceRead⟩
    rw [ofLookup_eq, deviceRead]
    rfl
  | ok number =>
    have deviceFits := fits_device deviceRead
    cases limitRead : readLimit limit with
    | error error =>
      refine .inr ⟨error, ?_, offence_limit deviceFits limitRead⟩
      rw [ofLookup_eq, deviceRead, limitRead]
      rfl
    | ok bytes =>
      have limitFits := fits_limit limitRead
      have rest : ofLookup lookup =
          (readPreference bytes algorithm).map (EngineConfig.mk number) := by
        rw [ofLookup_eq, deviceRead, limitRead]
        rfl
      rw [rest]
      cases preferenceRead : readPreference bytes algorithm with
      | error error =>
        exact .inr ⟨error, rfl, offence_algorithm deviceFits limitFits preferenceRead⟩
      | ok preference =>
        have configured := configures deviceRead limitRead preferenceRead
        exact .inl ⟨_, rfl, configured, deviceFits, limitFits, fits_algorithm preferenceRead⟩

theorem Offence.misfit {error : Error} (offence : Offence device limit algorithm error) :
    ¬ (Fits IsDevice device ∧ Fits IsByteCount limit ∧ Fits IsAlgorithm algorithm) := by
  rintro ⟨deviceFits, limitFits, algorithmFits⟩
  cases offence with
  | device present malformed => exact malformed (deviceFits _ present)
  | limit _ present malformed => exact malformed (limitFits _ present)
  | algorithm _ _ present unknown => exact unknown (algorithmFits _ present)

/-- The decimal text of a number, with leading zeros and white space around it. -/
def Renders (raw : String) (number : Nat) : Prop :=
  ∃ zeros, Surrounds raw (List.replicate zeros '0' ++ (toString number).toList)

theorem Renders.spells {bound number : Nat} {raw : String} (renders : Renders raw number)
    (below : number < bound) :
    Spells bound raw number :=
  renders.elim fun _ surrounds => ⟨_, surrounds, Text.numeral_toString below⟩

/-- Three variables decide about the configuration. It is made exactly if each of them is
absent or fits, and is then what they ask for; otherwise the first that does not fit is
refused. Every device and every limit can be asked for by its decimal text. -/
theorem ofLookup_accepts_grammar (lookup : String → Option String) :
    (∀ other : String → Option String, other "RUST_DNN_DEVICE" = lookup "RUST_DNN_DEVICE" →
      other "RUST_DNN_WORKSPACE_LIMIT" = lookup "RUST_DNN_WORKSPACE_LIMIT" →
        other "RUST_DNN_CONV_ALGO" = lookup "RUST_DNN_CONV_ALGO" →
          ofLookup other = ofLookup lookup) ∧
    let device := lookup "RUST_DNN_DEVICE"
    let limit := lookup "RUST_DNN_WORKSPACE_LIMIT"
    let algorithm := lookup "RUST_DNN_CONV_ALGO"
    ((∃ config, ofLookup lookup = .ok config) ↔
      Fits IsDevice device ∧ Fits IsByteCount limit ∧ Fits IsAlgorithm algorithm) ∧
    (∀ config, ofLookup lookup = .ok config → Configures device limit algorithm config) ∧
    (∀ error, ofLookup lookup = .error error →
      Offence device limit algorithm error ∧ error.kind = .invalidOperation) ∧
    ∀ number bytes, number < Nat.pow 2 32 → bytes < Nat.pow 2 64 →
      (∃ raw ∈ device, Renders raw number) →
      (∃ raw ∈ limit, Renders raw bytes) → (∀ raw ∈ algorithm, Surrounds raw "fastest".toList) →
        ∃ config, ofLookup lookup = .ok config ∧ config.device = number ∧
          config.preference.cap = bytes := by
  refine ⟨fun other sameDevice sameLimit sameAlgorithm => ?_, ?_⟩
  · rw [ofLookup_eq, sameDevice, sameLimit, sameAlgorithm]
    rfl
  intro device limit algorithm
  have outcome := ofLookup_cases lookup
  have accepts : (∃ config, ofLookup lookup = .ok config) ↔
      Fits IsDevice device ∧ Fits IsByteCount limit ∧ Fits IsAlgorithm algorithm := by
    rcases outcome with ⟨config, read, -, fits⟩ | ⟨error, read, offence⟩
    · exact ⟨fun _ => fits, fun _ => ⟨config, read⟩⟩
    · refine ⟨fun ⟨config, also⟩ => ?_, fun fits => absurd fits offence.misfit⟩
      cases read.symm.trans also
  have configured : ∀ config, ofLookup lookup = .ok config →
      Configures device limit algorithm config := by
    intro config read
    rcases outcome with ⟨_, also, configures, -⟩ | ⟨error, also, -⟩
    · cases also.symm.trans read
      exact configures
    · cases also.symm.trans read
  refine ⟨accepts, configured, fun error read => ?_, ?_⟩
  · rcases outcome with ⟨_, also, -⟩ | ⟨_, also, offence⟩
    · cases also.symm.trans read
    · cases also.symm.trans read
      exact ⟨offence, by cases offence <;> rfl⟩
  · rintro number bytes small fewer ⟨raw, present, renders⟩ ⟨text, given, shows⟩ fastest
    have spelled := renders.spells small
    have shown := shows.spells fewer
    obtain ⟨config, read⟩ :=
      accepts.mpr ⟨.of_mem present ⟨number, spelled⟩, .of_mem given ⟨bytes, shown⟩,
      fun raw word => .inl (fastest raw word)⟩
    have asked := configured config read
    have heeded : ¬ WithoutWorkspace algorithm := fun ⟨raw, word, without⟩ =>
      not_noWorkspace_of_fastest (fastest raw word) without
    exact ⟨config, read, (asked.spelledDevice raw present).unique (by decide) spelled,
      (asked.spelledCap heeded text given).unique (by decide) shown⟩

theorem ofLookup_accepts_grammar_padded :
    let lookup (limit algorithm : String) : String → Option String := fun name =>
      if name = "RUST_DNN_DEVICE" then some "\t007\n"
      else if name = "RUST_DNN_WORKSPACE_LIMIT" then some limit
      else if name = "RUST_DNN_CONV_ALGO" then some algorithm
      else none
    (∃ config, ofLookup (lookup " 4096 " "fastest") = .ok config ∧ config.device = 7 ∧
      config.preference.cap = 4096) ∧
      ∀ config, ofLookup (lookup "-1" "no_workspace") ≠ .ok config := by
  intro lookup
  constructor
  · obtain ⟨-, -, -, -, renders⟩ := ofLookup_accepts_grammar (lookup " 4096 " "fastest")
    have alone {c : Char} (blank : Text.isBlank c) : ∀ other ∈ [c], Text.isBlank other :=
      List.forall_mem_singleton.mpr blank
    have device : Renders "\t007\n" 7 :=
      ⟨2, ['\t'], ['\n'], alone (by decide), alone (by decide), by decide⟩
    have limit : Renders " 4096 " 4096 :=
      ⟨0, [' '], [' '], alone (by decide), alone (by decide), by decide⟩
    refine renders 7 4096 (by decide) (by decide) ⟨_, rfl, device⟩ ⟨_, rfl, limit⟩ ?_
    rintro _ ⟨⟩
    exact ⟨[], [], nofun, nofun, rfl⟩
  · obtain ⟨-, accepts, -⟩ := ofLookup_accepts_grammar (lookup "-1" "no_workspace")
    have fault : Text.readNumeral (Nat.pow 2 64) (Text.trim "-1") = .error .invalidDigit := by
      decide
    intro config read
    obtain ⟨-, fits, -⟩ := accepts.mp ⟨config, read⟩
    obtain ⟨number, spells⟩ := fits "-1" rfl
    exact Text.not_spells_of_error (by decide) fault number spells

end TensorEngine.EngineConfig
