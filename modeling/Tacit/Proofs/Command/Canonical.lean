import Mathlib.Tactic.Common
import Tacit.Command.Flags
import Tacit.Proofs.Text.Encoding

/-!
# Command lines and the configurations they stand for

A configuration can be written as a command line of its own: one flag for each setting, with the
value after an equals sign.

* `read_arguments`: such flags, in any order and however often, are read as just those settings.
* `parse_config`: what a command line that is accepted settles.
* `parse_arguments`: a configuration with known values is what its own flags stand for.
* `parse_canonical`: so every command line that is accepted has a canonical form, whatever text the
  arguments of the program are.
-/

namespace Tacit

/-! ### Letter case -/

theorem Text.lower_chars (s : String) :
    Text.lower s = String.ofList (s.toList.map Text.lowerChar) := by
  simp [Text.lower, ← String.toList_inj]

/-- A text in which every character is its own small letter is in lower case. -/
theorem Text.lower_eq_self {s : String}
    (h : (s.toList.all fun c => Text.lowerChar c = c) = true) : Text.lower s = s := by
  have hself : ∀ c ∈ s.toList, Text.lowerChar c = id c := fun c hc =>
    of_decide_eq_true (List.all_eq_true.mp h c hc)
  rw [Text.lower_chars, List.map_congr_left hself, List.map_id, String.ofList_toList]

/-! ### Flags -/

namespace Config

/-- The settings that the configuration is made by. -/
def options (c : Config) : Options where
  args := c.args
  dump := c.dump
  logFormat := .ofString c.logFormat
  logLevel := .ofString c.logLevel
  program := .ofString c.program

/-- The value of a setting, as it is written. -/
def value (c : Config) : Setting → Bytes
  | .args => c.args
  | .dump => .ofString (if c.dump then "true" else "false")
  | .logFormat => .ofString c.logFormat
  | .logLevel => .ofString c.logLevel
  | .program => .ofString c.program

/-- The flag that makes a setting: a dash, the name, an equals sign and the value. -/
def argument (c : Config) (s : Setting) : Bytes :=
  .ofString ("-" ++ s.name ++ "=") ++ c.value s

end Config

namespace Setting

theorem mem_all (s : Setting) : s ∈ all := by
  cases s <;> decide

theorem named?_name (s : Setting) : named? (.ofString s.name) = some s := by
  cases s <;> rfl

end Setting

/-- What follows the first equals sign is the value, whatever it is. -/
theorem Argument.of_argument (c : Config) (s : Setting) :
    Argument.of (c.argument s) = .flag (.ofString s.name) (some (c.value s)) := by
  cases s <;> rfl

theorem readBool?_written (b : Bool) :
    readBool? (.ofString (if b then "true" else "false")) = some b := by
  cases b <;> rfl

namespace Options

/-- The options with one setting taken from others. -/
def take (o o' : Options) : Setting → Options
  | .args => { o with args := o'.args }
  | .dump => { o with dump := o'.dump }
  | .logFormat => { o with logFormat := o'.logFormat }
  | .logLevel => { o with logLevel := o'.logLevel }
  | .program => { o with program := o'.program }

/-- Two options have the same setting. -/
def Agree (o o' : Options) : Setting → Prop
  | .args => o.args = o'.args
  | .dump => o.dump = o'.dump
  | .logFormat => o.logFormat = o'.logFormat
  | .logLevel => o.logLevel = o'.logLevel
  | .program => o.program = o'.program

theorem eq_of_agree {o o' : Options} (h : ∀ s, o.Agree o' s) : o = o' := by
  obtain ⟨args, dump, logFormat, logLevel, program⟩ := o
  obtain rfl : args = o'.args := h .args
  obtain rfl : dump = o'.dump := h .dump
  obtain rfl : logFormat = o'.logFormat := h .logFormat
  obtain rfl : logLevel = o'.logLevel := h .logLevel
  obtain rfl : program = o'.program := h .program
  rfl

theorem agree_take (o o' : Options) (s : Setting) : (o.take o' s).Agree o' s := by
  cases s <;> rfl

/-- Taking one setting keeps the others that are as they should be. -/
theorem Agree.take {o o' : Options} {s : Setting} (h : o.Agree o' s) (s' : Setting) :
    (o.take o' s').Agree o' s := by
  cases s' <;> cases s <;> simp_all [Agree, Options.take]

/-- One flag makes one setting. -/
theorem read_argument (o : Options) (c : Config) (s : Setting) (rest : List Bytes) :
    o.read (c.argument s :: rest) = (o.take c.options s).read rest := by
  rw [read, Argument.of_argument]
  simp only [Setting.named?_name]
  cases s with
  | dump =>
      simp only [Config.value, readBool?_written]
      rfl
  | args => rfl
  | logFormat => rfl
  | logLevel => rfl
  | program => rfl

/-- **The flags of a configuration** are read as its settings, if there is one for every setting
that is not yet as it should be. -/
theorem read_arguments (c : Config) {order : List Setting} {o : Options}
    (h : ∀ s, s ∈ order ∨ o.Agree c.options s) :
    o.read (order.map c.argument) = .ok (c.options, []) := by
  -- a setting is still to come, or it has been made and no later flag spoils it
  induction order generalizing o with
  | nil =>
      have ho : o = c.options := eq_of_agree fun s => (h s).resolve_left List.not_mem_nil
      rw [List.map_nil, read, ho]
  | cons s order ih =>
      rw [List.map_cons, read_argument]
      apply ih
      intro s'
      rcases h s' with hmem | hagree
      · rcases List.mem_cons.mp hmem with rfl | hmem
        · exact .inr (agree_take o c.options s')
        · exact .inl hmem
      · exact .inr (hagree.take s)

end Options

/-! ### Configurations -/

theorem Demo.find?_isSome_iff {name : String} :
    (Demo.find? name).isSome = true ↔ name ∈ Demo.names := by
  simp [Demo.find?, Demo.names]

namespace Config

/-- The values that a configuration can have: all are known ones but the arguments. -/
structure Known (c : Config) : Prop where
  program : c.program ∈ Demo.names
  logFormat : c.logFormat ∈ CommandLine.formats
  logLevel : c.logLevel ∈ CommandLine.levels

variable {c : Config}

theorem Known.exists_demo (h : c.Known) : ∃ d, Demo.find? c.program = some d :=
  Option.isSome_iff_exists.mp (Demo.find?_isSome_iff.mpr h.program)

theorem check_of_mem (h : c.program ∈ Demo.names) : c.check = .ok c := by
  have hempty : c.program ≠ "" := by
    intro heq
    rw [heq] at h
    exact absurd h (by decide)
  rw [check, if_neg hempty, if_pos (Demo.find?_isSome_iff.mpr h)]

/-- A configuration is accepted as it is, and only if it names a demonstration program. -/
theorem check_ok {config : Config} (h : c.check = .ok config) :
    config = c ∧ c.program ∈ Demo.names := by
  unfold check at h
  split at h
  · cases h
  split at h
  · rename_i hsome
    cases h
    exact ⟨rfl, Demo.find?_isSome_iff.mp hsome⟩
  · cases h

/-- The known values are in lower case. -/
theorem Known.lower (h : c.Known) : Text.lower c.program = c.program ∧
    Text.lower c.logFormat = c.logFormat ∧ Text.lower c.logLevel = c.logLevel := by
  -- they are few, so they are looked at one by one
  have hknown : ((Demo.names ++ CommandLine.formats ++ CommandLine.levels).all fun s =>
      s.toList.all fun c => Text.lowerChar c = c) = true := by decide
  have hlower : ∀ s ∈ Demo.names ++ CommandLine.formats ++ CommandLine.levels, Text.lower s = s :=
    fun s hs => Text.lower_eq_self (List.all_eq_true.mp hknown s hs)
  exact ⟨hlower _ (by simp [h.program]), hlower _ (by simp [h.logFormat]),
    hlower _ (by simp [h.logLevel])⟩

end Config

namespace CommandLine

/-- Settings amount to a configuration with known values, or to none. -/
theorem configOf_ok {o : Options} {config : Config} (h : configOf o = .ok config) :
    config.Known := by
  unfold configOf at h
  simp only at h
  split at h
  · cases h
  rename_i hformat
  split at h
  · cases h
  rename_i hlevel
  cases hcheck : Config.check _ with
  | error e =>
      rw [hcheck] at h
      cases h
  | ok c =>
      rw [hcheck] at h
      cases h
      obtain ⟨rfl, hprogram⟩ := Config.check_ok hcheck
      exact ⟨hprogram, not_not.mp hformat, not_not.mp hlevel⟩

/-- The settings of a configuration with known values amount to it. -/
theorem configOf_options {c : Config} (h : c.Known) : configOf c.options = .ok c := by
  obtain ⟨hprogram, hformat, hlevel⟩ := h.lower
  simp only [configOf, Config.options, Bytes.toText_ofString, hprogram, hformat, hlevel]
  rw [if_neg (not_not.mpr h.logFormat), if_neg (not_not.mpr h.logLevel),
    Config.check_of_mem h.program]
  rfl

/-! ### Command lines -/

/-- A command line that is accepted writes nothing by itself, and its configuration has known
values. -/
theorem parse_config {args : List Bytes} {config : Config}
    (h : (parse args).result = .ok (some config)) :
    (parse args).output = [] ∧ config.Known := by
  unfold parse at h ⊢
  split at h
  · cases h
  · cases h
  · cases h
  · rename_i o _
    refine ⟨rfl, ?_⟩
    cases hconfig : configOf o with
    | error e =>
        simp only [hconfig] at h
        cases h
    | ok c =>
        simp only [hconfig] at h
        cases h
        exact configOf_ok hconfig

/-- The flags of a configuration with known values, in an order in which none is missing, stand for
the configuration. -/
theorem parse_arguments {c : Config} (h : c.Known) {order : List Setting}
    (horder : ∀ s, s ∈ order) : parse (order.map c.argument) = ⟨[], .ok (some c)⟩ := by
  rw [parse, Options.read_arguments c fun s => .inl (horder s)]
  simp only [configOf_options h]
  rfl

/-- **Command lines have a canonical form.** A command line is accepted with a configuration, or
asks for help, or is refused with code 2. A configuration that it is accepted with passes the check
as it is, names a demonstration program, and has one of the two formats and one of the four levels.
With any text for the arguments, the flags of the configuration, in any order, are accepted with
that configuration again, and nothing is written. -/
theorem parse_canonical (args : List Bytes) :
    let line := parse args
    ((∃ config, line.result = .ok (some config)) ∨ line.result = .ok none ∨
      ∃ e, line.result = .error e ∧ e.code = 2) ∧
    ∀ config, line.result = .ok (some config) →
      config.check = .ok config ∧ config.program ∈ Demo.names ∧
      config.logFormat ∈ ["text", "json"] ∧
      config.logLevel ∈ ["debug", "info", "warn", "error"] ∧
      ∀ (text : Bytes) (order : List Setting), order.Perm Setting.all →
        let config' := { config with args := text }
        parse (order.map config'.argument) = ⟨[], .ok (some config')⟩ := by
  intro line
  refine ⟨?_, fun config hconfig => ?_⟩
  · cases line.result with
    | error e => exact .inr (.inr ⟨e, rfl, rfl⟩)
    | ok config? =>
        cases config? with
        | none => exact .inr (.inl rfl)
        | some config => exact .inl ⟨config, rfl⟩
  · obtain ⟨-, hknown⟩ := parse_config hconfig
    refine ⟨Config.check_of_mem hknown.program, hknown.program, hknown.logFormat, hknown.logLevel,
      fun text order horder => ?_⟩
    have hknown' : Config.Known { config with args := text } :=
      ⟨hknown.program, hknown.logFormat, hknown.logLevel⟩
    exact parse_arguments hknown' fun s => horder.mem_iff.mpr (Setting.mem_all s)

/-- Capitals, both kinds of values, a flag that is given twice, and a text that looks like a flag
and is not well formed. -/
def mixed : List Bytes :=
  ["--program", "SUM", "-args=[1]", "-log-level=WARN", "-dump=T", "--args"].map Bytes.ofString ++
    [[45, 61, 255]]

def mixedConfig : Config := ⟨"sum", [45, 61, 255], true, "text", "warn"⟩

theorem parse_mixed : (parse mixed).result = .ok (some mixedConfig) := by
  have hread : Options.initial.read mixed =
      .ok (⟨[45, 61, 255], true, .ofString "text", .ofString "WARN", .ofString "SUM"⟩, []) := rfl
  unfold parse
  rw [hread]
  simp only [configOf, Bytes.toText_ofString, Text.lower_chars]
  rfl

theorem parse_canonical_mixed :
    (parse mixed).result = .ok (some mixedConfig) ∧
    [Setting.dump, .program, .args, .logLevel, .logFormat].Perm Setting.all ∧
    parse [.ofString "-dump=true", .ofString "-program=sum",
      Bytes.ofString "-args=" ++ [45, 61, 255], .ofString "-log-level=warn",
      .ofString "-log-format=text"] = ⟨[], .ok (some mixedConfig)⟩ := by
  have horder : [Setting.dump, .program, .args, .logLevel, .logFormat].Perm Setting.all := by
    decide
  obtain ⟨-, hconfig⟩ := parse_canonical mixed
  obtain ⟨-, -, -, -, hflags⟩ := hconfig mixedConfig parse_mixed
  exact ⟨parse_mixed, horder, hflags mixedConfig.args _ horder⟩

end CommandLine

end Tacit
