/-
What a run can be told besides its source file.

`Settings` is a configuration in which any field may be left open, as
configuration files may; `Settings.config` fills what is open with the
defaults.
-/

import WatInlay.Path

namespace WatInlay

/-- Everything a run needs to know besides its source file. -/
structure Config where
  /-- The compiler, looked up by name unless it holds a slash. -/
  compiler : Text
  /-- Options for every block, before the block's own. -/
  defaultOptions : List Text
  /-- The directory of the scratch files. -/
  scratchDir : Path
  /-- The name of the scratch files without extension. -/
  scratchStem : Text
  deriving DecidableEq, Repr

namespace Config

/-- The configuration of a run that was told nothing. -/
def standard : Config where
  compiler := "wat2wasm".toList
  defaultOptions :=
    ["--disable-saturating-float-to-int".toList, "--disable-sign-extension".toList,
      "--disable-multi-value".toList]
  scratchDir := ".".toList
  scratchStem := "wat2wasm4tests".toList

/-- All compiler options for a block: a block's own come last, so that they can
take back a default. -/
def compilerOptions (c : Config) (blockOptions : List Text) : List Text :=
  c.defaultOptions ++ blockOptions

/-- The file that holds a block's body while it is compiled. -/
def unit (c : Config) : Path :=
  Path.join c.scratchDir (Path.withExtension c.scratchStem "wat".toList)

/-- The file that the compiler writes. -/
def binary (c : Config) : Path :=
  Path.join c.scratchDir (Path.withExtension c.scratchStem "wasm".toList)

end Config

/-! ### Settings -/

/-- The fields of a configuration, in order. -/
inductive Field where
  | compiler
  | defaultOptions
  | scratchDir
  | scratchStem
  deriving DecidableEq, Repr

namespace Field

/-- All fields in order. -/
def all : List Field :=
  [compiler, defaultOptions, scratchDir, scratchStem]

/-- The name of a field in a configuration file. -/
def name : Field → Text
  | compiler => "compiler".toList
  | defaultOptions => "default_options".toList
  | scratchDir => "scratch_dir".toList
  | scratchStem => "scratch_stem".toList

/-- The field of this name. -/
def ofName? (name : Text) : Option Field :=
  all.find? (·.name = name)

theorem ofName?_name (f : Field) : ofName? f.name = some f := by
  cases f <;> decide

end Field

/-- A configuration of which some fields may be open. -/
structure Settings where
  compiler : Option Text := none
  defaultOptions : Option (List Text) := none
  scratchDir : Option Path := none
  scratchStem : Option Text := none
  deriving DecidableEq, Repr

namespace Settings

/-- Whether a field has been set. -/
def has (s : Settings) : Field → Bool
  | .compiler => s.compiler.isSome
  | .defaultOptions => s.defaultOptions.isSome
  | .scratchDir => s.scratchDir.isSome
  | .scratchStem => s.scratchStem.isSome

/-- The configuration, with defaults for what is open. -/
def config (s : Settings) : Config where
  compiler := s.compiler.getD Config.standard.compiler
  defaultOptions := s.defaultOptions.getD Config.standard.defaultOptions
  scratchDir := s.scratchDir.getD Config.standard.scratchDir
  scratchStem := s.scratchStem.getD Config.standard.scratchStem

end Settings

end WatInlay
