/-!
# The command line

A resolver is told what to do by a command: to serve, to resolve one subject, or to discover
entities. Without a command it serves. Options may stand before and after the command, and
after two hyphens nothing is an option any more.
-/
namespace TrustFederation.Command

/-- What to do. -/
inductive Operation where
  | serve
  | resolve (subject : String) (entityType : Option String)
  | discover (entityTypes : List String)
deriving DecidableEq

/-- What a command line comes to. -/
inductive Usage where
  /-- It asks for help. -/
  | help
  /-- It is malformed. -/
  | malformed
  /-- It is a command, perhaps with detailed logging. -/
  | run (operation : Operation) (verbose : Bool)
deriving DecidableEq

/-- The options of one argument. -/
inductive Options where
  /-- The argument is no option. -/
  | none
  /-- Detailed logging is asked for, so many times. -/
  | verbose (times : Nat)
  /-- Help is asked for, after asking so many times for detailed logging. -/
  | help (times : Nat)
  /-- An unknown option. -/
  | unknown
deriving DecidableEq

/-- The options of letters after a hyphen, of which `times` asked for detailed logging. -/
def Options.ofLetters (times : Nat) : List Char → Options
  | [] => .verbose times
  | 'v' :: rest => ofLetters (times + 1) rest
  | 'h' :: _ => .help times
  | _ => .unknown

/-- The options of an argument. A hyphen alone is none. -/
def Options.ofArgument (argument : String) : Options :=
  match argument.toList with
  | ['-'] => .none
  | '-' :: '-' :: _ =>
    if argument = "--verbose" then .verbose 1
    else if argument = "--help" then .help 0
    else .unknown
  | '-' :: letters => ofLetters 0 letters
  | _ => .none

/-- What the arguments after a command come to: the values in order and whether detailed
logging is asked for. There may be at most `limit` values. Detailed logging may be asked for
once. -/
def readValues (limit : Option Nat) (values : List String) (verbose : Bool) :
    List String → Except Usage (List String × Bool)
  | [] => .ok (values.reverse, verbose)
  | argument :: rest =>
    let full := limit.any (values.length ≥ ·)
    if argument = "--" then
      let all := values.reverse ++ rest
      if limit.any (all.length > ·) then .error .malformed else .ok (all, verbose)
    else match Options.ofArgument argument with
      | .none => if full then .error .malformed
        else readValues limit (argument :: values) verbose rest
      | .verbose times =>
        if verbose || 1 < times then .error .malformed else readValues limit values true rest
      | .help times =>
        if 1 < times || (verbose && 0 < times) then .error .malformed else .error .help
      | .unknown => .error .malformed

/-- The names of commands for which there is help. -/
def topics : List String := ["serve", "resolve", "discover", "help"]

/-- What a command with its arguments comes to. -/
def readCommand (name : String) (arguments : List String) (verbose : Bool) : Usage :=
  let withValues (limit : Option Nat) (operation : List String → Option Operation) : Usage :=
    match readValues limit [] false arguments with
    | .error usage => usage
    | .ok (values, more) =>
      match operation values with
      | some found => .run found (verbose || more)
      | none => .malformed
  match name with
  | "serve" => withValues (some 0) fun _ => some .serve
  | "resolve" => withValues (some 2) fun
    | [subject] => some (.resolve subject none)
    | [subject, entityType] => some (.resolve subject (some entityType))
    | _ => none
  | "discover" => withValues none fun values => some (.discover values)
  | "help" =>
    match arguments with
    | [] => .help
    | [topic] => if topics.contains topic then .help else .malformed
    | _ => .malformed
  | _ => .malformed

/-- What a command line comes to. -/
def readArguments (verbose : Bool) : List String → Usage
  | [] => .run .serve verbose
  | argument :: rest =>
    if argument = "--" then if rest.isEmpty then .run .serve verbose else .malformed
    else match Options.ofArgument argument with
      | .none => readCommand argument rest verbose
      | .verbose times =>
        if verbose || 1 < times then .malformed else readArguments true rest
      | .help times => if 1 < times || (verbose && 0 < times) then .malformed else .help
      | .unknown => .malformed

end TrustFederation.Command
