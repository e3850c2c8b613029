/-
Module: ServiceLifecycle.Deployment.Codec
Purpose: Deployments to and from configuration values.
Main exports: Deployment.encode, Deployment.decode, Declaration.encode, Declaration.decode
-/
import ServiceLifecycle.Deployment.Basic
import ServiceLifecycle.Value.Decoding

namespace ServiceLifecycle

/-!
In the written form of a declaration its settings stand beside its own fields,
in one table.  Absent fields and an empty list of services are left out, so
that a written deployment, used as a layer above another one, only overrides
what it says.
-/

namespace Declaration

/-- The written form of a declaration. -/
def encode (declaration : Declaration) : Value :=
  let named : Table := [("name", .text declaration.name)]
  let fields :=
    match declaration.implementation with
    | some key => named.putSorted "implementation" (Value.text key)
    | none => named
  .table (fields.putAll declaration.settings)

/-- A declaration of which some fields have been read. -/
structure Partial where
  name : Option String := none
  implementation : Option String := none
  settings : Table := []

/-- Read one entry: a field of the declaration, or one of its settings. -/
def Partial.assign (sofar : Partial) (entry : String × Value) : Decoded Partial :=
  match entry.1 with
  | "name" => do
      let name ← decodeText "a string" entry.2
      return { sofar with name := some name }
  | "implementation" => do
      let implementation ← decodeOptional (decodeText "a string") entry.2
      return { sofar with implementation }
  | key => .ok { sofar with settings := sofar.settings.putSorted key entry.2.settled }

/-- Read a declaration.  Only a table will do. -/
def decode : Value → Decoded Declaration
  | .table entries => do
      let sofar ← entries.foldlM Partial.assign {}
      match sofar.name with
      | some name =>
          return { name, implementation := sofar.implementation, settings := sofar.settings }
      | none => throw (.missingField "name")
  | found => .error (.wrongType found "struct ServiceDeclaration")

end Declaration

namespace Deployment

/-- The written form of a deployment. -/
def encode (deployment : Deployment) : Value :=
  let services : Table :=
    if deployment.services.isEmpty then []
    else [("services", .list (deployment.services.map Declaration.encode))]
  .table <|
    match deployment.applicationRoot with
    | some path => services.putSorted "application_root" (Value.text path)
    | none => services

/-- Read one field. -/
def assign (deployment : Deployment) (entry : String × Value) : Decoded Deployment :=
  match entry.1 with
  | "application_root" => do
      let applicationRoot ← decodeOptional (decodeText "path string") entry.2
      return { deployment with applicationRoot }
  | "services" => do
      let services ← decodeList Declaration.decode entry.2
      return { deployment with services }
  | _ => .ok deployment

/-- Read a deployment. -/
def decode : Value → Decoded Deployment :=
  decodeRecord "struct KeystoneConfig" ["application_root", "services"] assign {}

end Deployment

end ServiceLifecycle
