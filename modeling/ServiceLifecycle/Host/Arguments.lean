/-
Module: ServiceLifecycle.Host.Arguments
Purpose: The command line of the service host.
Main exports: HostArguments, HostRequest, HostRequest.ofWords?
-/

namespace ServiceLifecycle

/-!
The command line names a configuration file and a profile, each at most once, and may
ask to stop at the first service that fails.  A value stands in the word after its
option, or in the same word behind an equals sign or, after a short option, right
behind it.  A word that looks like an option is never a value.
-/

/-- What a user asks the host for. -/
structure HostArguments where
  config : Option String := none
  profile : Option String := none
  failFast : Bool := false
deriving Repr, Inhabited, DecidableEq

/-- What the host is to do. -/
inductive HostRequest where
  | run (arguments : HostArguments)
  | help
  | version
deriving Repr, Inhabited, DecidableEq

/-- An option that takes a value. -/
inductive ValueOption where
  | config
  | profile
deriving Repr, Inhabited, DecidableEq

/-- What one word says. -/
inductive HostWord where
  /-- An option with a value in the same word. -/
  | given (option : ValueOption) (value : String)
  /-- An option whose value is the next word. -/
  | awaiting (option : ValueOption)
  | failFast
  | help
  | version
  /-- From here on no word is an option. -/
  | separator
  /-- Not an option. -/
  | plain (text : String)
  /-- An option that the host does not have, or one that takes no value but has one. -/
  | malformed
deriving Repr, Inhabited, DecidableEq

namespace HostArguments

/-- Set an option that has not been set yet.  A file path is not empty. -/
def withValue? (arguments : HostArguments) (option : ValueOption) (value : String) :
    Option HostArguments :=
  match option with
  | .config =>
      if arguments.config.isSome || value = "" then none
      else some { arguments with config := some value }
  | .profile =>
      if arguments.profile.isSome then none
      else some { arguments with profile := some value }

end HostArguments

namespace HostWord

/-- A long option, by its name and the value behind an equals sign. -/
def ofLong (name : String) (value : Option String) : HostWord :=
  match name, value with
  | "config", some value => given .config value
  | "config", none => awaiting .config
  | "profile", some value => given .profile value
  | "profile", none => awaiting .profile
  | "fail-fast", none => failFast
  | "help", none => help
  | "version", none => version
  | _, _ => malformed

/-- A short option that takes a value, by what stands behind it. -/
def ofShort (option : ValueOption) : List Char → HostWord
  | [] => awaiting option
  | '=' :: value => given option (String.ofList value)
  | value => given option (String.ofList value)

/-- What a word says. -/
def ofText (text : String) : HostWord :=
  match text.toList with
  | ['-', '-'] => separator
  | '-' :: '-' :: rest =>
      let name := String.ofList (rest.takeWhile (· != '='))
      match rest.dropWhile (· != '=') with
      | '=' :: value => ofLong name (some (String.ofList value))
      | _ => ofLong name none
  | '-' :: 'c' :: rest => ofShort .config rest
  | '-' :: 'p' :: rest => ofShort .profile rest
  | '-' :: 'h' :: _ => help
  | '-' :: 'V' :: _ => version
  | '-' :: _ :: _ => malformed
  | _ => plain text

end HostWord

namespace HostRequest

/-- Read the words of a command line, given what the words before them said.  `none` is
a command line that the host does not accept. -/
def ofWordsFrom? (arguments : HostArguments) : List String → Option HostRequest
  | [] => some (.run arguments)
  | word :: rest =>
      match HostWord.ofText word, rest with
      | .given option value, rest =>
          (arguments.withValue? option value).bind fun arguments => ofWordsFrom? arguments rest
      | .awaiting option, next :: rest =>
          match HostWord.ofText next with
          | .plain value =>
              (arguments.withValue? option value).bind fun arguments =>
                ofWordsFrom? arguments rest
          | _ => none
      | .failFast, rest =>
          if arguments.failFast then none
          else ofWordsFrom? { arguments with failFast := true } rest
      | .help, _ => some .help
      | .version, _ => some .version
      | .separator, [] => some (.run arguments)
      | _, _ => none

/-- Read a command line. -/
def ofWords? (words : List String) : Option HostRequest :=
  ofWordsFrom? {} words

end HostRequest

end ServiceLifecycle
