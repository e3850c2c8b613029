/-
Module: ServiceLifecycle.Source.Surroundings
Purpose: What a program finds around it.
Main exports: SourceProblem, Surroundings
-/
import ServiceLifecycle.Fault
import ServiceLifecycle.Source.Files
import ServiceLifecycle.Source.Variables
import ServiceLifecycle.Value.Decoding

namespace ServiceLifecycle

/-!
Besides the files and the environment variables a program finds the directory in which its user
keeps configurations, if there is one, and a library that reads and merges the sources.  When that
library fails it puts the reason into words of its own, so these words are part of what is found
and not fixed here.
-/

/-- What is wrong with the sources of a deployment. -/
inductive SourceProblem where
  /-- The content of a file is not a document. -/
  | document (path content : String)
  /-- What comes out when the trees with entries are merged does not fit the schema. -/
  | misfit (trees : List Table) (fault : DecodeFault)

/-- The problem in plain words. -/
def SourceProblem.plainFault : SourceProblem → SourceFault
  | document path _ => { message := path ++ " cannot be parsed" }
  | misfit _ fault => { message := fault.message }

/-- What a program finds around it. -/
structure Surroundings where
  files : Files := {}
  environment : Variables := []
  /-- The user's configuration directory, as seen from the working directory. -/
  userDirectory : Option String := none
  /-- What the reader of the sources reports about a problem. -/
  sourceFault : SourceProblem → SourceFault := SourceProblem.plainFault
deriving Inhabited

end ServiceLifecycle
