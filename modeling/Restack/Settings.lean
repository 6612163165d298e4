import Restack.Number.Numeral
import Restack.Text.Quoted
import Restack.Value.Basic

/-!
# Settings

The limits on what is taken in, how much is logged, and the target of conversions that name none.
They are read from variables of the environment, and a session keeps the first settings that it
could read.
-/

namespace Restack

open Restack.Text

/-- The variables of an environment. -/
abbrev Environment := List (String × String)

/-- The settings of a session. -/
structure Settings where
  /-- The size in octets beyond which a single file is left out. -/
  maxFileSize : Int
  /-- The size in octets that all files may have together. -/
  maxTotalSize : Int
  logLevel : String
  defaultTarget : String
deriving DecidableEq, Repr

namespace Settings

/-- Ten mebibytes a file and a hundred for all. -/
def standard : Settings := ⟨10 * 1024 * 1024, 100 * 1024 * 1024, "WARNING", "typescript"⟩

/-- What is wrong with a variable. -/
inductive Flaw where
  | notInteger (name raw : String)
  | notPositive (name : String) (value : Int)
deriving DecidableEq, Repr

/-- The wording of a flaw. -/
def Flaw.message : Flaw → String
  | .notInteger name raw => name ++ " must be an integer, got " ++ quoted raw
  | .notPositive name value => name ++ " must be > 0, got " ++ toString value

/-- A limit: a whole number above zero, or the standard where the variable is missing or blank. -/
def limit (environment : Environment) (name : String) (standard : Int) : Except Flaw Int :=
  match environment.lookup name with
  | none => .ok standard
  | some raw =>
    if (trim raw.toList).isEmpty then .ok standard
    else
      match Number.readInt? raw.toList with
      | none => .error (.notInteger name raw)
      | some value => if value ≤ 0 then .error (.notPositive name value) else .ok value

/-- A text, or the standard where the variable is missing or empty. -/
def word (environment : Environment) (name standard : String) : String :=
  match environment.lookup name with
  | none => standard
  | some raw => if raw.isEmpty then standard else raw

/-- The settings that an environment gives. -/
def ofEnvironment (environment : Environment) : Except Flaw Settings := do
  let maxFileSize ← limit environment "STACKSHIFT_MAX_FILE_SIZE" standard.maxFileSize
  let maxTotalSize ← limit environment "STACKSHIFT_MAX_TOTAL_SIZE" standard.maxTotalSize
  return {
    maxFileSize, maxTotalSize
    logLevel := uppered (word environment "STACKSHIFT_LOG_LEVEL" standard.logLevel)
    defaultTarget := word environment "STACKSHIFT_DEFAULT_TARGET" standard.defaultTarget }

/-- Settings as they are reported. -/
def toValue (settings : Settings) : Value :=
  .object
    [("max_file_size", .int settings.maxFileSize), ("max_total_size", .int settings.maxTotalSize),
      ("log_level", .str settings.logLevel), ("default_target", .str settings.defaultTarget)]

/-- The settings that a session has kept, if any. -/
abbrev Cache := Option Settings

/-- The settings of a session under an environment, and what the session keeps. -/
def get (environment : Environment) : Cache → Except Flaw Settings × Cache
  | some settings => (.ok settings, some settings)
  | none =>
    match ofEnvironment environment with
    | .ok settings => (.ok settings, some settings)
    | .error flaw => (.error flaw, none)

/-- A request for settings, made under an environment. -/
inductive Request where
  /-- Reads the environment, whatever has been kept. -/
  | load (environment : Environment)
  /-- Asks for the settings of the session. -/
  | get (environment : Environment)

/-- The answer to a request, and what the session keeps. -/
def answer (cache : Cache) : Request → Except Flaw Settings × Cache
  | .load environment => (ofEnvironment environment, cache)
  | .get environment => get environment cache

/-- The answers to requests, one after the other. -/
def answers : Cache → List Request → List (Except Flaw Settings)
  | _, [] => []
  | cache, request :: rest =>
    let reply := answer cache request
    reply.1 :: answers reply.2 rest

end Settings

end Restack
