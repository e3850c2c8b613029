/-
Module: ServiceLifecycle.Deployment.Validation
Purpose: Which deployments are accepted, and the first offence of the others.
Main exports: Declaration.check, Deployment.validate
-/
import ServiceLifecycle.Deployment.Basic
import ServiceLifecycle.Fault
import ServiceLifecycle.Text.Blank

namespace ServiceLifecycle

/-!
Names address sections of the configuration tree, so they are not blank, hold
no dot and occur once.  Declarations are checked in order, each completely
before the next, and the root directory after all of them.
-/

/-- Check one declaration against the names before it. -/
def Declaration.check (seen : List String) (declaration : Declaration) :
    Except LoadFault Unit :=
  if Text.isBlankText declaration.name then
    .error (.missingField "services.name")
  else if declaration.name ∈ seen then
    .error (.duplicateService declaration.name)
  else if '.' ∈ declaration.name.toList then
    .error (.invalid ("Service name '" ++ declaration.name ++ "' must not contain '.'"))
  else if declaration.implementation.any Text.isBlankText then
    .error (.invalid ("Service '" ++ declaration.name ++ "' has an empty implementation key"))
  else
    .ok ()

/-- Check declarations in order, given the names before them. -/
def checkDeclarations (seen : List String) : List Declaration → Except LoadFault Unit
  | [] => .ok ()
  | declaration :: rest => do
      declaration.check seen
      checkDeclarations (declaration.name :: seen) rest

/-- Check a whole deployment. -/
def Deployment.validate (deployment : Deployment) : Except LoadFault Unit := do
  checkDeclarations [] deployment.services
  if deployment.applicationRoot = some "" then
    throw (.invalid "application_root must not be empty")

end ServiceLifecycle
