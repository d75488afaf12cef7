import Wotemu.Foundation.Options

/-! The command of a container on its way to a command of the program.

The entrypoint script prepares the container and then executes one command; the
root command passes the rest of its arguments to the one that they name. Only
the arguments are followed here, so every preparing step is taken to succeed.
-/

set_option autoImplicit false

namespace Wotemu

open Wotemu.Foundation

/-- The command that `entrypoint.sh` executes in the end. -/
def entrypoint : List String → List String
  | "app" :: args => ["wotemu", "app"] ++ args
  | "broker" :: _ => ["wotemu", "broker"]
  | "gateway" :: args => ["wotemu", "chaos"] ++ args.flatMap fun var => ["--netem", var]
  | command => command

def helpOption : OptionSpec := ⟨"--help", 0⟩

def cliOptions : List OptionSpec := [⟨"--log-level", 1⟩, ⟨"--quiet", 0⟩, ⟨"--root-logger", 0⟩, helpOption]

def cli (args : List String) : Except UsageError (String × List String) := do
  let parsed ← parseArgs cliOptions false .scanning args
  if parsed.given "--help" then throw .help
  match parsed.rest with
  | command :: args => return (command, args)
  | [] => throw .help

/-- The arguments that a container's command passes to the program's command `name`. -/
def commandArgs (name : String) (command : List String) : Except UsageError (List String) :=
  match entrypoint command with
  | "wotemu" :: args => do
    let (found, args) ← cli args
    if found = name then return args else throw .noSuchCommand
  | _ => .error .noSuchCommand

theorem commandArgs_app (args : List String) : commandArgs "app" ("app" :: args) = .ok args := rfl

theorem commandArgs_gateway (args : List String) :
    commandArgs "chaos" ("gateway" :: args) = .ok (args.flatMap fun var => ["--netem", var]) := rfl

end Wotemu
